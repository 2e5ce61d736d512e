import EthercatSim.Lib.Decimal

/-!
# `EndpointParser`

The model of `core/communication/endpoint_parser.cpp`.  A `std::string` is the list of
its bytes, and an output parameter is an argument with the caller's value and a part of
the result.

* `parseTcpEndpoint_split`: the result for an endpoint with a colon behind the prefix.
* `parseTcpEndpoint_iff`: the parser accepts the grammar `tcp://host:port` and leaves the
  outputs alone otherwise, exactly when the port is a port, or the host is the caller's
  own already and no number starts the text of the port.
-/

namespace EthercatSim

open Decimal

namespace EndpointParser

/-- `tcp://` -/
def TCP_PREFIX : List UInt8 := [0x74, 0x63, 0x70, 0x3A, 0x2F, 0x2F]

/-- `uds://` -/
def UDS_PREFIX : List UInt8 := [0x75, 0x64, 0x73, 0x3A, 0x2F, 0x2F]

abbrev COLON : UInt8 := 0x3A

/-- The text in front of the first colon, and the text behind it. -/
def splitAtColon (v : List UInt8) : Option (List UInt8 × List UInt8) :=
  match v.dropWhile (· ≠ COLON) with
  | [] => none
  | _ :: rest => some (v.takeWhile (· ≠ COLON), rest)

/-- `parseTcpEndpoint`: the returned flag, the host and the port. -/
def parseTcpEndpoint (ep host : List UInt8) (port : UInt16) : Bool × List UInt8 × UInt16 :=
  if TCP_PREFIX.isPrefixOf ep then
    match splitAtColon (ep.drop TCP_PREFIX.length) with
    | none => (false, host, port)
    | some (host, pstr) =>
      -- the host is assigned before the port is looked at
      match stoi pstr with
      | none => (false, host, port)
      | some p =>
        if p < 1 ∨ 65535 < p then (false, host, port) else (true, host, UInt16.ofNat p.toNat)
  else (false, host, port)

/-- `parseUdsEndpoint`: the returned flag and the path. -/
def parseUdsEndpoint (ep path : List UInt8) : Bool × List UInt8 :=
  if UDS_PREFIX.isPrefixOf ep then (true, ep.drop UDS_PREFIX.length) else (false, path)

/-- The answers of `getEndpointType`. -/
inductive EndpointType where
  | tcp
  | uds
  | unknown
  deriving DecidableEq, Repr

/-- `getEndpointType` -/
def getEndpointType (ep : List UInt8) : EndpointType :=
  if TCP_PREFIX.isPrefixOf ep then .tcp
  else if UDS_PREFIX.isPrefixOf ep then .uds
  else .unknown

/-! ## The grammar -/

/-- A port: decimal digits with a value from 1 to 65535. -/
def IsPort (p : List UInt8) : Prop :=
  (∀ b ∈ p, isDigit b = true) ∧ 1 ≤ decimalValue p ∧ decimalValue p ≤ 65535

instance (p : List UInt8) : Decidable (IsPort p) :=
  decidable_of_iff (p.all isDigit = true ∧ 1 ≤ decimalValue p ∧ decimalValue p ≤ 65535)
    (and_congr_left' List.all_eq_true)

/-- The endpoint is the prefix, a host without a colon, a colon and `rest`. -/
def Splits (ep host rest : List UInt8) : Prop :=
  ep = TCP_PREFIX ++ (host ++ COLON :: rest) ∧ COLON ∉ host

/-- `tcp://host:port` -/
def IsTcpEndpoint (ep host port : List UInt8) : Prop := Splits ep host port ∧ IsPort port

/-- A number from 1 to 65535 starts the text, after blanks and a plus sign that may both
be missing. -/
def StartsWithPort (p : List UInt8) : Prop := ∃ v : Int, Reads p v ∧ 1 ≤ v ∧ v ≤ 65535

theorem splitAtColon_eq_some_iff {v host rest : List UInt8} :
    splitAtColon v = some (host, rest) ↔ v = host ++ COLON :: rest ∧ COLON ∉ host := by
  constructor
  · intro h
    have hstop := head?_dropWhile_eq_false (p := fun b => decide (b ≠ COLON)) v
    rw [splitAtColon] at h
    cases hdrop : v.dropWhile (· ≠ COLON) with
    | nil =>
      rw [hdrop] at h
      cases h
    | cons b tail =>
      rw [hdrop] at h hstop
      obtain ⟨rfl, rfl⟩ := Prod.mk.inj (Option.some.inj h)
      have hb : b = COLON := by simpa using hstop b rfl
      subst hb
      refine ⟨?_, ?_⟩
      · rw [← hdrop, List.takeWhile_append_dropWhile]
      · intro hmem
        simpa using List.mem_takeWhile_imp hmem
  · intro h
    obtain ⟨rfl, hhost⟩ := h
    have hbefore : ∀ b ∈ host, decide (b ≠ COLON) = true := by
      intro b hb
      rw [decide_eq_true_iff]
      exact fun heq => hhost (heq ▸ hb)
    have hstop : ∀ b ∈ (COLON :: rest).head?, decide (b ≠ COLON) = false := by
      intro b hb
      obtain rfl : COLON = b := Option.some.inj hb
      rfl
    rw [splitAtColon, dropWhile_append_of_stop hbefore hstop,
      takeWhile_append_of_stop hbefore hstop]

/-- An endpoint is split in at most one way, the one that the parser finds. -/
theorem splits_iff {ep host rest : List UInt8} :
    Splits ep host rest ↔ TCP_PREFIX.isPrefixOf ep = true ∧
      splitAtColon (ep.drop TCP_PREFIX.length) = some (host, rest) := by
  rw [splitAtColon_eq_some_iff, List.isPrefixOf_iff_prefix]
  constructor
  · intro h
    obtain ⟨rfl, hhost⟩ := h
    refine ⟨List.prefix_append _ _, ?_, hhost⟩
    exact List.drop_left
  · intro h
    obtain ⟨⟨tail, rfl⟩, htail, hhost⟩ := h
    rw [List.drop_left] at htail
    exact ⟨by rw [htail], hhost⟩

theorem Splits.unique {ep host rest host' rest' : List UInt8} (h : Splits ep host rest)
    (h' : Splits ep host' rest') : host' = host ∧ rest' = rest := by
  have heq := (splits_iff.mp h').2.symm.trans (splits_iff.mp h).2
  exact Prod.mk.inj (Option.some.inj heq)

/-- The port texts that `stoi` gives a port for. -/
theorem startsWithPort_iff {p : List UInt8} :
    StartsWithPort p ↔ ∃ v : Int, stoi p = some v ∧ 1 ≤ v ∧ v ≤ 65535 := by
  constructor
  · intro h
    obtain ⟨v, hreads, hlo, hhi⟩ := h
    exact ⟨v, stoi_eq_some_iff.mpr ⟨hreads, by rw [IsInt]; omega⟩, hlo, hhi⟩
  · intro h
    obtain ⟨v, hstoi, hlo, hhi⟩ := h
    exact ⟨v, (stoi_eq_some_iff.mp hstoi).1, hlo, hhi⟩

/-- A port is read as it is written. -/
theorem IsPort.stoi_eq {p : List UInt8} (h : IsPort p) : stoi p = some (decimalValue p : Int) := by
  obtain ⟨hdigits, hlo, hhi⟩ := h
  refine stoi_digits ?_ hdigits (by rw [IsInt]; omega)
  intro hnil
  rw [hnil] at hlo
  exact absurd hlo (by decide)

theorem IsPort.startsWithPort {p : List UInt8} (h : IsPort p) : StartsWithPort p := by
  have hlo := h.2.1
  have hhi := h.2.2
  exact startsWithPort_iff.mpr ⟨_, h.stoi_eq, by omega, by omega⟩

/-! ## The parser -/

theorem parseTcpEndpoint_of_not_splits {ep : List UInt8} (h : ∀ hst rest, ¬Splits ep hst rest)
    (host : List UInt8) (port : UInt16) : parseTcpEndpoint ep host port = (false, host, port) := by
  unfold parseTcpEndpoint
  split
  · rename_i hscheme
    cases hsplit : splitAtColon (ep.drop TCP_PREFIX.length) with
    | none => rfl
    | some out => exact absurd (splits_iff.mpr ⟨hscheme, hsplit⟩) (h out.1 out.2)
  · rfl

/-- With a colon behind the prefix the host is assigned in every case.  The endpoint is
accepted when a port starts the text behind the colon. -/
theorem parseTcpEndpoint_split {ep hst rest : List UInt8} (h : Splits ep hst rest)
    (host : List UInt8) (port : UInt16) :
    (∃ v : Int, stoi rest = some v ∧ 1 ≤ v ∧ v ≤ 65535 ∧
        parseTcpEndpoint ep host port = (true, hst, UInt16.ofNat v.toNat)) ∨
      (¬StartsWithPort rest ∧ parseTcpEndpoint ep host port = (false, hst, port)) := by
  obtain ⟨hscheme, hsplit⟩ := splits_iff.mp h
  rw [parseTcpEndpoint, if_pos hscheme, hsplit, startsWithPort_iff]
  dsimp only
  cases hstoi : stoi rest with
  | none => exact .inr ⟨by simp, rfl⟩
  | some v =>
    dsimp only
    by_cases hrange : v < 1 ∨ 65535 < v
    · rw [if_pos hrange]
      refine .inr ⟨?_, rfl⟩
      intro hport
      obtain ⟨w, hw, hlo, hhi⟩ := hport
      obtain rfl := Option.some.inj hw
      omega
    · rw [if_neg hrange]
      exact .inl ⟨v, rfl, by omega, by omega, rfl⟩

/-- What a parser of the grammar does: it accepts the endpoints of the grammar, assigns
the parts of these, and leaves the outputs of the others as the caller passed them. -/
structure ParsesGrammar (ep host : List UInt8) (port : UInt16) : Prop where
  accepts : (parseTcpEndpoint ep host port).1 = true ↔ ∃ h p, IsTcpEndpoint ep h p
  outputs : ∀ h p, IsTcpEndpoint ep h p →
    (parseTcpEndpoint ep host port).2 = (h, UInt16.ofNat (decimalValue p))
  refuses : (parseTcpEndpoint ep host port).1 = false →
    (parseTcpEndpoint ep host port).2 = (host, port)

/-- An endpoint of the grammar that is accepted with its own parts. -/
theorem parsesGrammar_of_accepted {ep host h p : List UInt8} {port : UInt16}
    (hgrammar : IsTcpEndpoint ep h p)
    (hout : parseTcpEndpoint ep host port = (true, h, UInt16.ofNat (decimalValue p))) :
    ParsesGrammar ep host port := by
  constructor
  case accepts =>
    rw [hout]
    exact iff_of_true rfl ⟨h, p, hgrammar⟩
  case outputs =>
    intro h' p' hgrammar'
    obtain ⟨rfl, rfl⟩ := hgrammar.1.unique hgrammar'.1
    rw [hout]
  case refuses =>
    intro hfalse
    rw [hout] at hfalse
    cases hfalse

/-- An endpoint outside the grammar that is refused, with the outputs kept. -/
theorem parsesGrammar_of_refused {ep host : List UInt8} {port : UInt16}
    (hnone : ∀ h p, ¬IsTcpEndpoint ep h p)
    (hout : parseTcpEndpoint ep host port = (false, host, port)) :
    ParsesGrammar ep host port := by
  constructor
  case accepts =>
    rw [hout]
    refine iff_of_false Bool.false_ne_true ?_
    intro hgrammar
    obtain ⟨h, p, hgrammar⟩ := hgrammar
    exact hnone h p hgrammar
  case outputs =>
    intro h p hgrammar
    exact absurd hgrammar (hnone h p)
  case refuses =>
    intro _
    rw [hout]

/-- For every endpoint and all values of the outputs: the parser is one of the grammar
exactly when the endpoint has no colon behind the prefix, or a port behind it, or no
number there that would be taken for a port and a host that the caller passed already. -/
theorem parseTcpEndpoint_iff (ep host : List UInt8) (port : UInt16) :
    ParsesGrammar ep host port ↔
      ∀ h p, Splits ep h p → IsPort p ∨ (h = host ∧ ¬StartsWithPort p) := by
  constructor
  · intro hparses h p hsplits
    by_cases hport : IsPort p
    · exact .inl hport
    right
    have hnone : ¬∃ h p, IsTcpEndpoint ep h p := by
      intro hgrammar
      obtain ⟨h', p', hsplits', hport'⟩ := hgrammar
      rw [(hsplits.unique hsplits').2] at hport'
      exact hport hport'
    rcases parseTcpEndpoint_split hsplits host port with ⟨v, -, -, -, hout⟩ | ⟨hstart, hout⟩
    · exact absurd (hparses.accepts.mp (by rw [hout])) hnone
    · have hkept := hparses.refuses (by rw [hout])
      rw [hout] at hkept
      exact ⟨(Prod.mk.inj hkept).1, hstart⟩
  · intro hok
    by_cases hsplit : ∃ h p, Splits ep h p
    · obtain ⟨h, p, hsplits⟩ := hsplit
      rcases hok h p hsplits with hport | ⟨hhost, hstart⟩
      · rcases parseTcpEndpoint_split hsplits host port with ⟨v, hv, -, -, hout⟩ | ⟨hstart, -⟩
        · obtain rfl := Option.some.inj (hv.symm.trans hport.stoi_eq)
          exact parsesGrammar_of_accepted ⟨hsplits, hport⟩ hout
        · exact absurd hport.startsWithPort hstart
      · rcases parseTcpEndpoint_split hsplits host port with ⟨v, hv, hlo, hhi, -⟩ | ⟨-, hout⟩
        · exact absurd (startsWithPort_iff.mpr ⟨v, hv, hlo, hhi⟩) hstart
        · rw [hhost] at hout
          refine parsesGrammar_of_refused ?_ hout
          intro h' p' hgrammar
          rw [(hsplits.unique hgrammar.1).2.symm] at hstart
          exact hstart hgrammar.2.startsWithPort
    · have hnone : ∀ h p, ¬Splits ep h p := fun h p hsplits => hsplit ⟨h, p, hsplits⟩
      exact parsesGrammar_of_refused (fun h p hgrammar => hnone h p hgrammar.1)
        (parseTcpEndpoint_of_not_splits hnone host port)

/-- `tcp://h:80x` is accepted, and `tcp://h:x` is refused with the host assigned. -/
theorem parseTcpEndpoint_lenient_false :
    parseTcpEndpoint (TCP_PREFIX ++ [0x68, 0x3A, 0x38, 0x30, 0x78]) [] 0 = (true, [0x68], 80) ∧
      ¬ParsesGrammar (TCP_PREFIX ++ [0x68, 0x3A, 0x38, 0x30, 0x78]) [] 0 ∧
      parseTcpEndpoint (TCP_PREFIX ++ [0x68, 0x3A, 0x78]) [] 0 = (false, [0x68], 0) ∧
      ¬ParsesGrammar (TCP_PREFIX ++ [0x68, 0x3A, 0x78]) [] 0 := by
  have hlenient : parseTcpEndpoint (TCP_PREFIX ++ [0x68, 0x3A, 0x38, 0x30, 0x78]) [] 0 =
      (true, [0x68], 80) := by decide
  have hassigned : parseTcpEndpoint (TCP_PREFIX ++ [0x68, 0x3A, 0x78]) [] 0 =
      (false, [0x68], 0) := by decide
  have hsplits : Splits (TCP_PREFIX ++ [0x68, 0x3A, 0x38, 0x30, 0x78]) [0x68] [0x38, 0x30, 0x78] :=
    ⟨rfl, by decide⟩
  refine ⟨hlenient, ?_, hassigned, ?_⟩
  · intro hparses
    obtain ⟨h, p, hgrammar⟩ := hparses.accepts.mp (by rw [hlenient])
    obtain ⟨rfl, rfl⟩ := hsplits.unique hgrammar.1
    exact absurd hgrammar.2 (by decide)
  · intro hparses
    have hkept := hparses.refuses (by rw [hassigned])
    rw [hassigned] at hkept
    exact absurd hkept (by decide)

end EndpointParser

end EthercatSim
