import EthercatSim.Transport.Connection

/-!
# What arrives on a connection

The schedules of the calls of both sides in which no call of the master gives up inside a
message (`Intact`), with any number of bytes moved by each call.

* `Consistent`: the bytes that are received in part, in flight, and not sent yet are the
  messages that are not answered, and the replies that are not returned.
* `Consistent.serverStep` and `Consistent.masterStep`: each call keeps this.
* `connection_inOrder`: so every answer is that to the frame of its number, and none is
  lost or returned twice.
* `connection_refines_bus`: what the master reads are the datagrams as the bus answers
  them.
-/

namespace EthercatSim

open Bytes NetworkSimulator SlavesEndpoint StepRun

variable {σ : Type}

namespace Connection

/-! ## Bytes on the way -/

theorem arriving_append (flight got : List UInt8) (len n : Nat) :
    arriving flight got len n ++ flight.drop (arriving flight got len n).length = flight := by
  rw [arriving, List.length_take]
  rcases Nat.le_total (min n (len - got.length)) flight.length with h | h
  · rw [Nat.min_eq_left h, List.take_append_drop]
  · rw [Nat.min_eq_right h, List.drop_length, List.append_nil, List.take_of_length_le h]

theorem length_arriving_le {flight got : List UInt8} {len : Nat} (h : got.length ≤ len) (n : Nat) :
    (got ++ arriving flight got len n).length ≤ len := by
  rw [arriving, List.length_append, List.length_take]
  omega

theorem leaving_append (bytes : List UInt8) (sent n : Nat) :
    leaving bytes sent n ++ bytes.drop (sent + (leaving bytes sent n).length) =
      bytes.drop sent := by
  rw [← List.drop_drop, leaving, List.length_take]
  rcases Nat.le_total n (bytes.drop sent).length with h | h
  · rw [Nat.min_eq_left h, List.take_append_drop]
  · rw [Nat.min_eq_right h, List.drop_length, List.append_nil, List.take_of_length_le h]

theorem stream_append (fs gs : List (List UInt8)) :
    MasterSocket.stream (fs ++ gs) = MasterSocket.stream fs ++ MasterSocket.stream gs := by
  rw [MasterSocket.stream, List.map_append, List.flatten_append]
  rfl

/-- The first two bytes of messages are the length of the first one. -/
theorem stream_head {got rest : List UInt8} {fs : List (List UInt8)}
    (h : got ++ rest = MasterSocket.stream fs) (hgot : got.length = 2)
    (hsmall : ∀ f ∈ fs, f.length ≤ 65535) :
    ∃ f fs', fs = f :: fs' ∧ (ntohs got).toNat = f.length ∧
      rest = f ++ MasterSocket.stream fs' := by
  cases fs with
  | nil =>
    have hempty := congrArg List.length h
    rw [List.length_append, hgot, MasterSocket.stream_nil, List.length_nil] at hempty
    omega
  | cons f fs' =>
    rw [MasterSocket.stream_cons] at h
    obtain ⟨rfl, hrest⟩ := List.append_inj h hgot
    have hf := hsmall f List.mem_cons_self
    refine ⟨f, fs', rfl, ?_, hrest⟩
    rw [ntohs_lengthPrefix, UInt16.toNat_ofNat']
    omega

/-! ## The invariant -/

/-- What the server has of the message that it receives. -/
def serverGot : ServerPhase → List UInt8
  | .readLength got => got
  | .readBody len got => lengthPrefix len.toNat ++ got
  | _ => []

/-- What the server has not sent of the reply that it writes. -/
def serverLeft : ServerPhase → List UInt8
  | .writeLength reply sent => (lengthPrefix reply.length).drop sent ++ reply
  | .writeReply reply sent => reply.drop sent
  | _ => []

/-- What the master has of the reply that it receives. -/
def masterGot : MasterSocket.Phase → List UInt8
  | .readLength _ got => got
  | .readBody _ len got => lengthPrefix len.toNat ++ got
  | _ => []

/-- What the master has not sent of the frame that it has begun to send. -/
def masterLeft : MasterSocket.Phase → List UInt8
  | .writeLength _ 0 => []
  | .writeLength frame sent => (lengthPrefix frame.length).drop sent ++ frame
  | .writeFrame frame sent => frame.drop sent
  | _ => []

/-- No more is received than was waited for. -/
def ServerFits : ServerPhase → Prop
  | .readLength got => got.length ≤ 2
  | .readBody len got => got.length ≤ len.toNat ∧ 1 ≤ len.toNat ∧ len.toNat ≤ 1500
  | _ => True

/-- The same for the master, and its frame has a length that its prefix can say. -/
def MasterFits : MasterSocket.Phase → Prop
  | .writeLength frame _ => frame.length ≤ 65535
  | .readLength _ got => got.length ≤ 2
  | .readBody _ len got => got.length ≤ len.toNat
  | _ => True

section Invariant

variable [SlaveDevice σ] (frames : Nat → KickcatFrame) (rounds : Nat) (sim₀ : NetworkSimulator σ)

/-- The answers are those to the first frames written, in order.  While the session lasts,
the bytes on the way to the server are the other frames; and the bytes on the way to the
master are the first of the answers that are not returned. -/
structure Consistent (c : Connection σ) : Prop where
  serverFits : ServerFits c.server
  masterFits : MasterFits c.master
  small : ∀ f ∈ c.written, f.length ≤ 65535
  answers : answerAll frames rounds sim₀ (c.written.take c.answered.length) =
    some (c.sim, c.answered)
  sizes : ∀ f ∈ c.answered, 1 ≤ f.length ∧ f.length ≤ 1500
  requests : c.server.Running → serverGot c.server ++ (c.toServer ++ masterLeft c.master) =
    MasterSocket.stream (c.written.drop c.answered.length)
  replies : ∃ rest, masterGot c.master ++ (c.toMaster ++ rest) =
      MasterSocket.stream (c.answered.drop c.returned.length) ∧
    (c.server.Running → rest = serverLeft c.server)
  returned : ∀ (i : Nat) (call : MasterSocket.ReadCall), c.returned[i]? = some call →
    ∃ f, c.answered[i]? = some f ∧
      call = MasterSocket.readCall call.size (UInt16.ofNat f.length) f

variable {frames rounds sim₀}

theorem consistent_start (stop : Bool) : Consistent frames rounds sim₀ (start sim₀ stop) where
  serverFits := trivial
  masterFits := trivial
  small := fun _ h => nomatch h
  answers := rfl
  sizes := fun _ h => nomatch h
  requests := fun _ => rfl
  replies := ⟨[], rfl, fun _ => rfl⟩
  returned := fun _ _ h => nomatch h

variable {c : Connection σ}

/-- No more is returned than was answered. -/
theorem Consistent.length_returned_le (h : Consistent frames rounds sim₀ c) :
    c.returned.length ≤ c.answered.length := by
  by_contra hlt
  have hin : c.answered.length < c.returned.length := by omega
  obtain ⟨f, hf, -⟩ := h.returned _ _ (List.getElem?_eq_getElem hin)
  rw [List.getElem?_eq_none (Nat.le_refl _)] at hf
  cases hf

/-- The session ends. -/
theorem Consistent.ended (h : Consistent frames rounds sim₀ c) {p : ServerPhase}
    (hp : ¬p.Running) : Consistent frames rounds sim₀ { c with server := p } := by
  obtain ⟨rest, hreplies, -⟩ := h.replies
  refine ⟨?_, h.masterFits, h.small, h.answers, h.sizes, fun hrun => absurd hrun hp,
    ⟨rest, hreplies, fun hrun => absurd hrun hp⟩, h.returned⟩
  cases p <;> first | trivial | exact absurd trivial hp

/-- The server goes on to a phase with the same bytes. -/
theorem Consistent.proceeds (h : Consistent frames rounds sim₀ c) (hrun : c.server.Running)
    {p : ServerPhase} (hp : ServerFits p) (hgot : serverGot p = serverGot c.server)
    (hleft : serverLeft p = serverLeft c.server) :
    Consistent frames rounds sim₀ { c with server := p } := by
  obtain ⟨rest, hreplies, hrest⟩ := h.replies
  refine ⟨hp, h.masterFits, h.small, h.answers, h.sizes, fun _ => ?_,
    ⟨rest, hreplies, fun _ => (hrest hrun).trans hleft.symm⟩, h.returned⟩
  rw [hgot]
  exact h.requests hrun

/-- The server receives bytes. -/
theorem Consistent.receives (h : Consistent frames rounds sim₀ c) (hrun : c.server.Running)
    {bytes : List UInt8} (hbytes : bytes ++ c.toServer.drop bytes.length = c.toServer)
    {p : ServerPhase} (hp : ServerFits p) (hgot : serverGot p = serverGot c.server ++ bytes)
    (hleft : serverLeft p = serverLeft c.server) :
    Consistent frames rounds sim₀
      { c with toServer := c.toServer.drop bytes.length, server := p } := by
  obtain ⟨rest, hreplies, hrest⟩ := h.replies
  refine ⟨hp, h.masterFits, h.small, h.answers, h.sizes, fun _ => ?_,
    ⟨rest, hreplies, fun _ => (hrest hrun).trans hleft.symm⟩, h.returned⟩
  rw [← h.requests hrun]
  show serverGot p ++ (c.toServer.drop bytes.length ++ _) = _ ++ (c.toServer ++ _)
  rw [hgot, List.append_assoc, ← List.append_assoc bytes, hbytes]

/-- The server sends bytes. -/
theorem Consistent.sends (h : Consistent frames rounds sim₀ c) (hrun : c.server.Running)
    {bytes : List UInt8} {p : ServerPhase} (hp : ServerFits p)
    (hgot : serverGot p = serverGot c.server)
    (hleft : bytes ++ serverLeft p = serverLeft c.server) :
    Consistent frames rounds sim₀ { c with toMaster := c.toMaster ++ bytes, server := p } := by
  obtain ⟨rest, hreplies, hrest⟩ := h.replies
  refine ⟨hp, h.masterFits, h.small, h.answers, h.sizes, fun _ => ?_,
    ⟨serverLeft p, ?_, fun _ => rfl⟩, h.returned⟩
  · rw [hgot]
    exact h.requests hrun
  · rw [← hreplies, hrest hrun, ← hleft, List.append_assoc]

/-- The server has a whole message: it is the next one, and it is answered. -/
theorem Consistent.processed (h : Consistent frames rounds sim₀ c) {len : UInt16}
    {buf : List UInt8} (hserver : serverGot c.server = lengthPrefix len.toNat ++ buf)
    (hrun : c.server.Running) (hleft : serverLeft c.server = []) (hlen : buf.length = len.toNat)
    (hpos : 1 ≤ buf.length) (hmax : buf.length ≤ 1500) :
    Consistent frames rounds sim₀ (processed frames rounds c buf) := by
  have hrequests := h.requests hrun
  rw [hserver, List.append_assoc] at hrequests
  have hsmall : ∀ f ∈ c.written.drop c.answered.length, f.length ≤ 65535 :=
    fun f hf => h.small f (List.mem_of_mem_drop hf)
  obtain ⟨f, fs, hdrop, hf, hrest⟩ := stream_head hrequests (length_lengthPrefix _) hsmall
  rw [ntohs_lengthPrefix, UInt16.ofNat_toNat, ← hlen] at hf
  obtain ⟨rfl, htail⟩ := List.append_inj hrest hf
  rw [Connection.processed]
  rcases hanswer : answer (frames c.answered.length) rounds c.sim buf with _ | ⟨sim, reply⟩
  · exact h.ended id
  have hnext : c.written.take (c.answered.length + 1) =
      c.written.take c.answered.length ++ [buf] := by
    rw [List.take_add, hdrop]
    rfl
  have hdrop' : c.written.drop (c.answered.length + 1) = fs := by
    rw [← List.drop_drop, hdrop]
    rfl
  obtain ⟨rest, hreplies, hrest'⟩ := h.replies
  have hreturned := h.length_returned_le
  refine ⟨trivial, h.masterFits, h.small, ?_, ?_, ?_, ?_, ?_⟩
  · show answerAll frames rounds sim₀ (c.written.take (c.answered ++ [reply]).length) = _
    rw [List.length_append, List.length_singleton, hnext, answerAll_concat, h.answers]
    show answerNext frames rounds (c.sim, c.answered) buf = _
    rw [answerNext, hanswer]
    rfl
  · intro f hf
    rcases List.mem_append.mp hf with hf | hf
    · exact h.sizes f hf
    · obtain rfl := List.mem_singleton.mp hf
      rw [answer_length hanswer]
      exact ⟨hpos, hmax⟩
  · intro _
    show c.toServer ++ masterLeft c.master = MasterSocket.stream (c.written.drop
      (c.answered ++ [reply]).length)
    rw [List.length_append, List.length_singleton, hdrop']
    exact htail
  · refine ⟨serverLeft (.writeLength reply 0), ?_, fun _ => rfl⟩
    show _ = MasterSocket.stream ((c.answered ++ [reply]).drop c.returned.length)
    rw [hrest' hrun, hleft, List.append_nil] at hreplies
    rw [List.drop_append_of_le_length hreturned, stream_append, ← List.append_assoc, hreplies]
    exact congrArg (_ ++ ·) (List.append_nil _).symm
  · intro i call hi
    obtain ⟨f, hf, hcall⟩ := h.returned i call hi
    have hlt := (List.getElem?_eq_some_iff.mp hf).1
    exact ⟨f, (List.getElem?_append_left hlt).trans hf, hcall⟩

/-! ## The steps of the server -/

theorem checkLength_cases (beLen : List UInt8) :
    checkLength beLen = .returned false ∨
      checkLength beLen = .readBody (ntohs beLen) [] ∧ 1 ≤ (ntohs beLen).toNat ∧
        (ntohs beLen).toNat ≤ 1500 := by
  rw [checkLength]
  split
  · exact .inl rfl
  · rename_i hlen
    have hpos : (ntohs beLen).toNat ≠ 0 := fun hc => hlen (.inl (UInt16.toNat_inj.mp hc))
    have hmax : ¬1500 < (ntohs beLen).toNat :=
      fun hc => hlen (.inr (UInt16.lt_iff_toNat_lt.mpr hc))
    exact .inr ⟨rfl, by omega, by omega⟩

/-- The server moves bytes. -/
theorem Consistent.serverMoved (h : Consistent frames rounds sim₀ c) (n : Nat) :
    Consistent frames rounds sim₀ (serverMoved frames rounds c n) := by
  have hfits := h.serverFits
  rw [Connection.serverMoved]
  split
  case h_1 got hserver =>
    rw [hserver] at hfits
    have hrun : c.server.Running := by rw [hserver]; trivial
    have hbytes := arriving_append c.toServer got 2 n
    have hlength := @length_arriving_le c.toServer got 2 hfits n
    simp only []
    split
    · exact h.receives hrun hbytes hlength (by rw [hserver]; rfl) (by rw [hserver]; rfl)
    · have htwo : (got ++ arriving c.toServer got 2 n).length = 2 := by omega
      rcases checkLength_cases (got ++ arriving c.toServer got 2 n) with hcheck | ⟨hcheck, hlen⟩
      · rw [hcheck]
        have hread := h.receives (p := .readLength (got ++ arriving c.toServer got 2 n)) hrun hbytes
          hlength (by rw [hserver]; rfl) (by rw [hserver]; rfl)
        exact hread.ended id
      · rw [hcheck]
        refine h.receives hrun hbytes ⟨Nat.zero_le _, hlen⟩ ?_ (by rw [hserver]; rfl)
        rw [hserver]
        show lengthPrefix (ntohs _).toNat ++ [] = _
        rw [lengthPrefix_ntohs htwo, List.append_nil]
        rfl
  case h_2 len got hserver =>
    rw [hserver] at hfits
    obtain ⟨hgot, hpos, hmax⟩ := hfits
    have hrun : c.server.Running := by rw [hserver]; trivial
    have hbytes := arriving_append c.toServer got len.toNat n
    have hlength := @length_arriving_le c.toServer got len.toNat hgot n
    have hread := h.receives (p := .readBody len (got ++ arriving c.toServer got len.toNat n)) hrun
      hbytes ⟨hlength, hpos, hmax⟩ (by rw [hserver]; exact (List.append_assoc _ _ _).symm)
      (by rw [hserver]; rfl)
    simp only []
    split
    · exact hread
    · exact hread.processed rfl trivial rfl (by omega) (by omega) (by omega)
  case h_3 reply sent hserver =>
    have hrun : c.server.Running := by rw [hserver]; trivial
    have hbytes := leaving_append (lengthPrefix reply.length) sent n
    simp only []
    split
    · refine h.sends hrun trivial (by rw [hserver]; rfl) ?_
      rw [hserver]
      show _ ++ (_ ++ reply) = _ ++ reply
      rw [← List.append_assoc, hbytes]
    · refine h.sends hrun trivial (by rw [hserver]; rfl) ?_
      rename_i hall
      rw [List.drop_of_length_le (by rw [length_lengthPrefix]; omega), List.append_nil] at hbytes
      rw [hserver, hbytes]
      rfl
  case h_4 reply sent hserver =>
    have hrun : c.server.Running := by rw [hserver]; trivial
    have hbytes := leaving_append reply sent n
    simp only []
    split
    · exact h.sends hrun trivial (by rw [hserver]; rfl) (by rw [hserver]; exact hbytes)
    · refine h.sends hrun trivial (by rw [hserver]; rfl) ?_
      rename_i hall
      rw [List.drop_of_length_le (by omega)] at hbytes
      rw [hserver]
      exact hbytes
  all_goals exact h

theorem Consistent.serverStep (h : Consistent frames rounds sim₀ c) (a : PollAnswer) :
    Consistent frames rounds sim₀ (serverStep frames rounds c a) := by
  rw [Connection.serverStep]
  split
  case h_1 hserver =>
    split
    · exact h.ended id
    · have hrun : c.server.Running := by rw [hserver]; trivial
      exact h.proceeds hrun (Nat.zero_le 2) (by rw [hserver]; rfl) (by rw [hserver]; rfl)
  case h_2 => exact h
  case h_3 => exact h
  case h_4 =>
    split
    · exact h.ended id
    · exact h
    · exact h.serverMoved _

/-! ## The steps of the master -/

/-- There are as many answers as messages. -/
theorem Consistent.length_answered_le (h : Consistent frames rounds sim₀ c) :
    c.answered.length ≤ c.written.length := by
  have hlength := length_answerAll frames rounds h.answers
  rw [List.length_take] at hlength
  omega

/-- The master sends bytes of the frame that it has begun, or of a new one. -/
theorem Consistent.masterSends (h : Consistent frames rounds sim₀ c) {bytes : List UInt8}
    {p : MasterSocket.Phase} (hp : MasterFits p) {more : List (List UInt8)}
    (hmore : ∀ f ∈ more, f.length ≤ 65535) (hgot : masterGot p = masterGot c.master)
    (hleft : bytes ++ masterLeft p = masterLeft c.master ++ MasterSocket.stream more) :
    Consistent frames rounds sim₀
      { c with toServer := c.toServer ++ bytes, written := c.written ++ more, master := p } := by
  have hle := h.length_answered_le
  obtain ⟨rest, hreplies, hrest⟩ := h.replies
  refine ⟨h.serverFits, hp, ?_, ?_, h.sizes, fun hrun => ?_, ⟨rest, ?_, hrest⟩, h.returned⟩
  · intro f hf
    rcases List.mem_append.mp hf with hf | hf
    · exact h.small f hf
    · exact hmore f hf
  · rw [← h.answers]
    exact congrArg (answerAll frames rounds sim₀) (List.take_append_of_le_length hle)
  · show serverGot c.server ++ ((c.toServer ++ bytes) ++ masterLeft p) =
      MasterSocket.stream ((c.written ++ more).drop c.answered.length)
    rw [List.drop_append_of_le_length hle, stream_append, ← h.requests hrun, List.append_assoc,
      hleft]
    simp only [List.append_assoc]
  · rw [hgot]
    exact hreplies

/-- The master receives bytes. -/
theorem Consistent.masterReceives (h : Consistent frames rounds sim₀ c) {bytes : List UInt8}
    (hbytes : bytes ++ c.toMaster.drop bytes.length = c.toMaster) {p : MasterSocket.Phase}
    (hp : MasterFits p) (hgot : masterGot p = masterGot c.master ++ bytes)
    (hleft : masterLeft p = masterLeft c.master) :
    Consistent frames rounds sim₀
      { c with toMaster := c.toMaster.drop bytes.length, master := p } := by
  obtain ⟨rest, hreplies, hrest⟩ := h.replies
  refine ⟨h.serverFits, hp, h.small, h.answers, h.sizes, fun hrun => ?_, ⟨rest, ?_, hrest⟩,
    h.returned⟩
  · rw [hleft]
    exact h.requests hrun
  · rw [← hreplies]
    show masterGot p ++ (c.toMaster.drop bytes.length ++ rest) = _ ++ (c.toMaster ++ rest)
    rw [hgot, List.append_assoc, ← List.append_assoc bytes, hbytes]

/-- The master begins a call, or gives one up. -/
theorem Consistent.masterLeaves (h : Consistent frames rounds sim₀ c) {p : MasterSocket.Phase}
    (hp : MasterFits p) (hgot : masterGot p = []) (hleft : masterLeft p = [])
    (hwrite : c.server.Running → masterLeft c.master = [])
    (hread : masterGot c.master = [] ∨ ¬c.server.Running ∧ c.toMaster = []) :
    Consistent frames rounds sim₀ { c with master := p } := by
  obtain ⟨rest, hreplies, hrest⟩ := h.replies
  refine ⟨h.serverFits, hp, h.small, h.answers, h.sizes, fun hrun => ?_, ?_, h.returned⟩
  · rw [hleft, ← hwrite hrun]
    exact h.requests hrun
  · rw [← hreplies, hgot]
    rcases hread with hnone | ⟨hover, hempty⟩
    · exact ⟨rest, by rw [hnone], hrest⟩
    · refine ⟨masterGot c.master ++ rest, ?_, fun hrun => absurd hrun hover⟩
      rw [hempty]
      rfl

/-- The reply that the master receives is the next answer. -/
theorem Consistent.nextReply (h : Consistent frames rounds sim₀ c) {len : UInt16}
    {got : List UInt8} (hmaster : masterGot c.master = lengthPrefix len.toNat ++ got) :
    ∃ f fs rest, c.answered.drop c.returned.length = f :: fs ∧
      c.answered[c.returned.length]? = some f ∧
      len.toNat = f.length ∧ 1 ≤ f.length ∧
      got ++ (c.toMaster ++ rest) = f ++ MasterSocket.stream fs ∧
      (c.server.Running → rest = serverLeft c.server) := by
  obtain ⟨rest, hreplies, hrest⟩ := h.replies
  rw [hmaster, List.append_assoc] at hreplies
  have hsmall : ∀ f ∈ c.answered.drop c.returned.length, f.length ≤ 65535 := by
    intro f hf
    have hsize := h.sizes f (List.mem_of_mem_drop hf)
    omega
  obtain ⟨f, fs, hdrop, hlen, hbody⟩ := stream_head hreplies (length_lengthPrefix _) hsmall
  rw [ntohs_lengthPrefix, UInt16.ofNat_toNat] at hlen
  have hnext : c.answered[c.returned.length]? = some f := by
    have hhead := congrArg (·[0]?) hdrop
    simpa using hhead
  exact ⟨f, fs, rest, hdrop, hnext, hlen, (h.sizes f (List.mem_of_getElem? hnext)).1, hbody, hrest⟩

/-- A call of `read` returns the next answer. -/
theorem Consistent.returns (h : Consistent frames rounds sim₀ c) {f : List UInt8}
    {fs : List (List UInt8)} (hdrop : c.answered.drop c.returned.length = f :: fs)
    (hnext : c.answered[c.returned.length]? = some f) {call : MasterSocket.ReadCall}
    (hcall : call = MasterSocket.readCall call.size (UInt16.ofNat f.length) f)
    (hleft : masterLeft c.master = []) {rest : List UInt8}
    (hreplies : c.toMaster ++ rest = MasterSocket.stream fs)
    (hrest : c.server.Running → rest = serverLeft c.server) :
    Consistent frames rounds sim₀
      { c with master := .idle, returned := c.returned ++ [call] } := by
  have hdrop' : c.answered.drop (c.returned ++ [call]).length = fs := by
    rw [List.length_append, List.length_singleton, ← List.drop_drop, hdrop]
    rfl
  refine ⟨h.serverFits, trivial, h.small, h.answers, h.sizes, fun hrun => ?_, ⟨rest, ?_, hrest⟩, ?_⟩
  · show serverGot c.server ++ (c.toServer ++ []) = _
    rw [← hleft]
    exact h.requests hrun
  · show c.toMaster ++ rest = MasterSocket.stream (c.answered.drop (c.returned ++ [call]).length)
    rw [hdrop']
    exact hreplies
  · intro i call' hi
    rcases Nat.lt_trichotomy i c.returned.length with hlt | rfl | hgt
    · rw [List.getElem?_append_left hlt] at hi
      exact h.returned i call' hi
    · rw [List.getElem?_concat_length] at hi
      obtain rfl := Option.some.inj hi
      exact ⟨f, hnext, hcall⟩
    · rw [List.getElem?_eq_none (by rw [List.length_append, List.length_singleton]; omega)] at hi
      cases hi

/-- A call that has all bytes of its reply. -/
theorem Consistent.finishRead (h : Consistent frames rounds sim₀ c) {len : UInt16}
    {got : List UInt8} (hmaster : masterGot c.master = lengthPrefix len.toNat ++ got)
    (hleft : masterLeft c.master = []) (hgot : got.length = len.toNat) (size : Nat) :
    Consistent frames rounds sim₀ (finishRead c size len got) := by
  obtain ⟨f, fs, rest, hdrop, hnext, hlen, hpos, hbody, hrest⟩ := h.nextReply hmaster
  obtain ⟨rfl, hreplies⟩ := List.append_inj hbody (hgot.trans hlen)
  have hne : len ≠ 0 := by
    rintro rfl
    rw [← hlen] at hpos
    exact absurd hpos (Nat.not_succ_le_zero 0)
  rw [Connection.finishRead, if_neg hne]
  refine h.returns hdrop hnext ?_ hleft hreplies hrest
  rw [MasterSocket.readCall_size, ← hlen, UInt16.ofNat_toNat]

/-- A call that gives up while it drops a reply. -/
theorem Consistent.abandonRead (h : Consistent frames rounds sim₀ c) {len : UInt16}
    {got : List UInt8} (hmaster : masterGot c.master = lengthPrefix len.toNat ++ got)
    (hleft : masterLeft c.master = []) {size : Nat} (hsize : UInt16.ofNat size < len)
    (hover : ¬c.server.Running) (hempty : c.toMaster = []) :
    Consistent frames rounds sim₀ (Connection.finishRead c size len got) := by
  obtain ⟨f, fs, rest, hdrop, hnext, hlen, hpos, hbody, -⟩ := h.nextReply hmaster
  have hne : len ≠ 0 := by
    rintro rfl
    rw [← hlen] at hpos
    exact absurd hpos (Nat.not_succ_le_zero 0)
  rw [Connection.finishRead, if_neg hne]
  have hreplies : c.toMaster ++ MasterSocket.stream fs = MasterSocket.stream fs := by
    rw [hempty]
    rfl
  refine h.returns hdrop hnext ?_ hleft hreplies fun hrun => absurd hrun hover
  rw [MasterSocket.readCall_size, ← hlen, UInt16.ofNat_toNat, MasterSocket.readCall, if_pos hsize,
    MasterSocket.readCall, if_pos hsize]

/-- The master sends bytes of the frame that it has begun. -/
theorem Consistent.masterSends' (h : Consistent frames rounds sim₀ c) {bytes : List UInt8}
    {p : MasterSocket.Phase} (hp : MasterFits p) (hgot : masterGot p = masterGot c.master)
    (hleft : bytes ++ masterLeft p = masterLeft c.master) :
    Consistent frames rounds sim₀
      { c with toServer := c.toServer ++ bytes, master := p } := by
  have hnone : ∀ f ∈ ([] : List (List UInt8)), f.length ≤ 65535 := fun _ hf => nomatch hf
  have hsent := h.masterSends hp hnone hgot (hleft.trans (List.append_nil _).symm)
  rwa [List.append_nil] at hsent

theorem masterLeft_writePhase (frame : List UInt8) {sent : Nat} (h : sent ≠ 0) :
    masterLeft (writePhase frame sent) = (lengthPrefix frame.length).drop sent ++ frame := by
  rw [writePhase]
  split
  · cases sent with
    | zero => exact absurd rfl h
    | succ sent => rfl
  · have hall : (lengthPrefix frame.length).drop sent = [] :=
      List.drop_of_length_le (by rw [length_lengthPrefix]; omega)
    rw [hall]
    split
    · rename_i hempty
      rw [hempty]
      rfl
    · rfl

/-- The master sends bytes of the length prefix.  With the first of them the frame is
written. -/
theorem Consistent.sendsLength (h : Consistent frames rounds sim₀ c) {frame : List UInt8}
    {sent : Nat} (hmaster : c.master = .writeLength frame sent) {moved : Nat} (hmoved : moved ≠ 0) :
    let bytes := leaving (lengthPrefix frame.length) sent moved
    Consistent frames rounds sim₀
      { c with
        toServer := c.toServer ++ bytes
        written := if sent = 0 then c.written ++ [frame] else c.written
        master := writePhase frame (sent + bytes.length) } := by
  intro bytes
  have hsmall := h.masterFits
  rw [hmaster] at hsmall
  have hfits : MasterFits (writePhase frame (sent + bytes.length)) := by
    rw [writePhase]
    split
    · exact hsmall
    · split <;> trivial
  have hgot : masterGot (writePhase frame (sent + bytes.length)) = masterGot c.master := by
    rw [hmaster, writePhase]
    split
    · rfl
    · split <;> rfl
  have hsent : sent + bytes.length ≠ 0 := by
    intro hzero
    obtain ⟨rfl, hnone⟩ := Nat.add_eq_zero_iff.mp hzero
    have hlength : bytes.length = min moved 2 := List.length_take
    omega
  have hleft : bytes ++ masterLeft (writePhase frame (sent + bytes.length)) =
      (lengthPrefix frame.length).drop sent ++ frame := by
    rw [masterLeft_writePhase frame hsent, ← List.append_assoc, leaving_append]
  cases sent with
  | zero =>
    refine h.masterSends hfits ?_ hgot ?_
    · intro f hf
      obtain rfl := List.mem_singleton.mp hf
      exact hsmall
    · rw [hleft, hmaster]
      exact (List.append_nil _).symm
  | succ sent =>
    refine h.masterSends' hfits hgot ?_
    rw [hleft, hmaster]
    rfl

theorem Consistent.masterStep (h : Consistent frames rounds sim₀ c) {moved : Nat}
    (hintact : Intact c (.master moved)) :
    Consistent frames rounds sim₀ (masterStep c moved) := by
  have hfits := h.masterFits
  rw [Connection.masterStep]
  split
  case h_1 => exact h
  case h_2 frame sent hmaster =>
    rw [hmaster] at hfits
    have hgot : masterGot c.master = [] := by rw [hmaster]; rfl
    split
    · rename_i hzero
      subst hzero
      have hmay := hintact rfl
      rw [hmaster] at hmay
      refine h.masterLeaves trivial rfl rfl (fun hrun => ?_) (.inl hgot)
      obtain rfl := hmay.resolve_right fun hover => hover hrun
      rw [hmaster]
      rfl
    · rename_i hmoved
      exact h.sendsLength hmaster hmoved
  case h_3 frame sent hmaster =>
    have hgot : masterGot c.master = [] := by rw [hmaster]; rfl
    split
    · rename_i hzero
      subst hzero
      have hmay := hintact rfl
      rw [hmaster] at hmay
      exact h.masterLeaves trivial rfl rfl (fun hrun => absurd hrun hmay) (.inl hgot)
    · have hbytes := leaving_append frame sent moved
      simp only []
      split
      · refine h.masterSends' trivial (by rw [hmaster]; rfl) ?_
        rw [hmaster]
        exact hbytes
      · refine h.masterSends' trivial (by rw [hmaster]; rfl) ?_
        rw [List.drop_of_length_le (by omega)] at hbytes
        rw [hmaster]
        exact hbytes
  case h_4 size got hmaster =>
    rw [hmaster] at hfits
    have hleft : masterLeft c.master = [] := by rw [hmaster]; rfl
    split
    · rename_i hzero
      subst hzero
      have hmay := hintact rfl
      rw [hmaster] at hmay
      refine h.masterLeaves trivial rfl rfl (fun _ => hleft) ?_
      rw [hmaster]
      exact hmay
    · have hbytes := arriving_append c.toMaster got 2 moved
      have hlength := @length_arriving_le c.toMaster got 2 hfits moved
      have hread := h.masterReceives
        (p := .readLength size (got ++ arriving c.toMaster got 2 moved)) hbytes hlength
        (by rw [hmaster]; rfl) (by rw [hmaster]; rfl)
      simp only []
      split
      · exact hread
      · have htwo : (got ++ arriving c.toMaster got 2 moved).length = 2 := by omega
        have hlen := lengthPrefix_ntohs htwo
        split
        · rename_i hzero
          -- no reply has the length 0
          refine hread.finishRead ?_ rfl rfl size
          rw [hzero] at hlen
          exact hlen.symm.trans (List.append_nil _).symm
        · refine h.masterReceives hbytes (Nat.zero_le _) ?_ (by rw [hmaster]; rfl)
          rw [hmaster]
          exact (List.append_nil _).trans hlen
  case h_5 size len got hmaster =>
    rw [hmaster] at hfits
    have hleft : masterLeft c.master = [] := by rw [hmaster]; rfl
    split
    · rename_i hzero
      subst hzero
      have hmay := hintact rfl
      rw [hmaster] at hmay
      split
      · rename_i hsize
        exact h.abandonRead (by rw [hmaster]; rfl) hleft hsize hmay.1 hmay.2
      · exact h.masterLeaves trivial rfl rfl (fun _ => hleft) (.inr hmay)
    · have hbytes := arriving_append c.toMaster got len.toNat moved
      have hlength := @length_arriving_le c.toMaster got len.toNat hfits moved
      have hread := h.masterReceives
        (p := .readBody size len (got ++ arriving c.toMaster got len.toNat moved)) hbytes hlength
        (by rw [hmaster]; exact (List.append_assoc _ _ _).symm) (by rw [hmaster]; rfl)
      simp only []
      split
      · exact hread
      · exact hread.finishRead rfl rfl (by omega) size

theorem Consistent.step (h : Consistent frames rounds sim₀ c) {event : ConnectionEvent}
    (hintact : Intact c event) :
    Consistent frames rounds sim₀ (step frames rounds c event) := by
  cases event with
  | stop => exact ⟨h.1, h.2, h.3, h.4, h.5, h.6, h.7, h.8⟩
  | server a => exact h.serverStep a
  | write frame =>
    rw [Connection.step]
    split
    · rename_i hidle
      exact h.masterLeaves hintact rfl rfl (fun _ => by rw [hidle]; rfl) (.inl (by rw [hidle]; rfl))
    · exact h
  | read size =>
    rw [Connection.step]
    split
    · rename_i hidle
      exact h.masterLeaves (Nat.zero_le 2) rfl rfl (fun _ => by rw [hidle]; rfl)
        (.inl (by rw [hidle]; rfl))
    · exact h
  | master moved => exact h.masterStep hintact
  | reset =>
    rw [Connection.step]
    split
    · exact h
    · rename_i hover
      obtain ⟨rest, hreplies, -⟩ := h.replies
      exact ⟨h.serverFits, h.masterFits, h.small, h.answers, h.sizes, fun hrun => absurd hrun hover,
        ⟨c.toMaster ++ rest, hreplies, fun hrun => absurd hrun hover⟩, h.returned⟩

/-! ## All schedules -/

variable (frames rounds) in
/-- Every answer is that to the frame of its number, and the calls of `read` have returned
the first answers, in order.  When both sides wait and nothing is in flight, every frame
has been answered and every answer has been returned.  The session returned true only on
the stop flag. -/
structure InOrder (sim₀ : NetworkSimulator σ) (c : Connection σ) : Prop where
  answers : answerAll frames rounds sim₀ (c.written.take c.answered.length) =
    some (c.sim, c.answered)
  returned : ∀ (i : Nat) (call : MasterSocket.ReadCall), c.returned[i]? = some call →
    ∃ f, c.answered[i]? = some f ∧
      call = MasterSocket.readCall call.size (UInt16.ofNat f.length) f
  complete : c.server = .head ∨ c.server = .readLength [] → c.master = .idle →
    c.toServer = [] → c.toMaster = [] →
    c.answered.length = c.written.length ∧ c.returned.length = c.written.length
  graceful : c.server = .returned true → c.stop = true

omit [SlaveDevice σ] in
theorem stream_eq_nil {fs : List (List UInt8)} (h : MasterSocket.stream fs = []) : fs = [] := by
  cases fs with
  | nil => rfl
  | cons f fs =>
    rw [MasterSocket.stream_cons] at h
    cases h

/-- Between two messages, with nothing in flight. -/
theorem Consistent.complete (h : Consistent frames rounds sim₀ c)
    (hserver : c.server = .head ∨ c.server = .readLength []) (hmaster : c.master = .idle)
    (htoServer : c.toServer = []) (htoMaster : c.toMaster = []) :
    c.answered.length = c.written.length ∧ c.returned.length = c.written.length := by
  have hphase : c.server.Running ∧ serverGot c.server = [] ∧ serverLeft c.server = [] := by
    rcases hserver with hphase | hphase <;> rw [hphase] <;> exact ⟨trivial, rfl, rfl⟩
  obtain ⟨hrun, hgot, hleft⟩ := hphase
  have hrequests := h.requests hrun
  obtain ⟨rest, hreplies, hrest⟩ := h.replies
  rw [hgot, htoServer, hmaster] at hrequests
  rw [hmaster, htoMaster, hrest hrun, hleft] at hreplies
  have hwritten := List.drop_eq_nil_iff.mp (stream_eq_nil hrequests.symm)
  have hanswered := List.drop_eq_nil_iff.mp (stream_eq_nil hreplies.symm)
  have hle := h.length_answered_le
  have hreturned : c.returned.length ≤ c.answered.length := h.length_returned_le
  omega

omit [SlaveDevice σ] in
theorem checkLength_ne (beLen : List UInt8) : checkLength beLen ≠ .returned true := by
  rw [checkLength]
  split <;> simp

theorem serverMoved_ne (h : c.server ≠ .returned true) (n : Nat) :
    (serverMoved frames rounds c n).server ≠ .returned true := by
  rw [Connection.serverMoved]
  split
  · simp only []
    split
    · simp
    · exact checkLength_ne _
  · simp only []
    split
    · simp
    · rw [Connection.processed]
      split <;> simp
  · simp only []
    split <;> simp
  · simp only []
    split <;> simp
  all_goals exact h

/-- Only the stop flag makes `handleClient_` return true. -/
theorem step_graceful (c : Connection σ) (event : ConnectionEvent)
    (h : c.server = .returned true → c.stop = true) :
    (step frames rounds c event).server = .returned true →
      (step frames rounds c event).stop = true := by
  cases event with
  | stop => exact fun _ => rfl
  | server a =>
    show (Connection.serverStep frames rounds c a).server = _ →
      (Connection.serverStep frames rounds c a).stop = _
    rw [serverStep_stop, Connection.serverStep]
    split
    · intro hreturned
      cases hstop : c.stop with
      | true => rfl
      | false =>
        rw [hstop] at hreturned
        cases hreturned
    · exact h
    · exact h
    · rename_i _ hphase _
      split
      · exact fun hreturned => ServerPhase.returned.inj hreturned
      · exact h
      · intro hreturned
        exact absurd hreturned (serverMoved_ne (hphase true) _)
  | write frame =>
    rw [Connection.step]
    split <;> exact h
  | read size =>
    rw [Connection.step]
    split <;> exact h
  | master moved =>
    obtain ⟨hserver, hstop, -⟩ := masterStep_frame c moved
    show (Connection.masterStep c moved).server = _ → (Connection.masterStep c moved).stop = _
    rw [hserver, hstop]
    exact h
  | reset =>
    rw [Connection.step]
    split <;> exact h

theorem consistent_run (stop : Bool) {events : List ConnectionEvent}
    (hevents : StepsOk (step frames rounds) Intact (start sim₀ stop) events) :
    Always (step frames rounds) (Consistent frames rounds sim₀) (start sim₀ stop) events :=
  always_of_step (fun _ _ h hintact => h.step hintact) (consistent_start stop) hevents

end Invariant

/-- A message of which the master and the server move single bytes in turn. -/
def bytewise (message : List UInt8) : List ConnectionEvent :=
  let ready : PollAnswer := { result := 1, event := true, moved := 1 }
  .write message :: .server ready :: List.flatten
    (List.replicate (message.length + 2) [.master 1, .server ready])

/-- The reply to it, written at once, with a poll that times out first.  The flag is set on
the way. -/
def fetched (size : Nat) : List ConnectionEvent :=
  let ready : PollAnswer := { result := 1, event := true, moved := 1518 }
  [.read size, .server ready, .master 1, .stop, .master 1518, .server ready, .master 1518,
    .server ready]

section Bus

variable [SlaveDevice σ] {sim : NetworkSimulator σ} {refs : List SlaveRef} {b : Bus σ}

/-- The messages behind some answers, on the bus. -/
theorem foldlM_answerNext (h : Represents sim refs b) (rests : Nat → FrameBuffer) {rounds : Nat}
    (hrounds : 1520 ≤ rounds) {ms : List Message} {frames : List (List Datagram)}
    (hms : List.Forall₂ Message.Carries ms frames) (outs : List (List UInt8)) :
    ∃ sim' replies, (ms.map Message.bytes).foldlM
          (answerNext (fun k => .ofBuffer (rests k)) rounds) (sim, outs) =
        some (sim', outs ++ replies.map Message.bytes) ∧
      List.Forall₂ Message.Carries replies (b.serveFrames frames).2 := by
  induction hms generalizing sim b outs with
  | nil => exact ⟨sim, [], by rw [List.map_nil, List.append_nil]; rfl, .nil⟩
  | @cons m ds ms frames hm _ ih =>
    obtain ⟨sim₁, out, hanswer, -, hcarries, hrep⟩ :=
      h.answer_of_carries hm (rests outs.length) hrounds
    obtain ⟨sim₂, replies, hfold, hreplies⟩ := ih hrep (outs ++ [out.bytes])
    refine ⟨sim₂, out :: replies, ?_, .cons hcarries hreplies⟩
    have hnext : answerNext (fun k => .ofBuffer (rests k)) rounds (sim, outs) m.bytes =
        some (sim₁, outs ++ [out.bytes]) := by
      rw [answerNext, hanswer]
      rfl
    rw [List.map_cons, List.foldlM_cons, hnext]
    show List.foldlM _ (sim₁, outs ++ [out.bytes]) _ = _
    rw [hfold, List.append_assoc]
    rfl

/-- In every state of such a schedule on a simulator that holds a bus: when the frames
written carry datagrams, what a call of `read` with a buffer of 1500 bytes or more has
returned carries the datagrams of the frame with its number, as the bus answers the frames
in the order in which they were written. -/
theorem connection_refines_bus (h : Represents sim refs b) (rests : Nat → FrameBuffer)
    {rounds : Nat} (hrounds : 1520 ≤ rounds) (stop : Bool) {events : List ConnectionEvent}
    (hevents : StepsOk (step (fun k => .ofBuffer (rests k)) rounds) Intact (start sim stop) events)
    {c : Connection σ}
    (hc : c = run (step (fun k => .ofBuffer (rests k)) rounds) (start sim stop) events)
    {ms : List Message} {frames : List (List Datagram)}
    (hwritten : c.written = ms.map Message.bytes) (hms : List.Forall₂ Message.Carries ms frames)
    {i : Nat} {call : MasterSocket.ReadCall} (hcall : c.returned[i]? = some call)
    (hsize : 1500 ≤ call.size) (hmax : call.size ≤ 65535) :
    ∃ (reply : Message) (ds : List Datagram), call.frame = reply.bytes ∧
      call.result = reply.bytes.length ∧ (b.serveFrames frames).2[i]? = some ds ∧
      reply.Carries ds := by
  have hconsistent := (consistent_run stop hevents).last
  rw [← hc] at hconsistent
  obtain ⟨f, hf, hread⟩ := hconsistent.returned i call hcall
  -- the answers carry the datagrams of the first frames
  obtain ⟨sim', replies, hfold, hreplies⟩ := foldlM_answerNext h rests hrounds
    (List.forall₂_take c.answered.length hms) []
  have hanswers := hconsistent.answers
  rw [hwritten, ← List.map_take] at hanswers
  have hanswered : c.answered = replies.map Message.bytes :=
    congrArg Prod.snd (Option.some.inj (hanswers.symm.trans hfold))
  rw [hanswered, List.getElem?_map] at hf
  obtain ⟨reply, hreply, rfl⟩ := Option.map_eq_some_iff.mp hf
  obtain ⟨hi, rfl⟩ := List.getElem?_eq_some_iff.mp hreply
  rw [← b.take_serveFrames] at hreplies
  have hi' := hreplies.length_eq ▸ hi
  have hshort := replies[i].short
  have hlen : (UInt16.ofNat replies[i].bytes.length).toNat = replies[i].bytes.length :=
    toNat_ofNat_of_le (by omega)
  have hroom : ¬UInt16.ofNat call.size < UInt16.ofNat replies[i].bytes.length := by
    rw [UInt16.lt_iff_toNat_lt, hlen, UInt16.toNat_ofNat']
    omega
  rw [MasterSocket.readCall, if_neg hroom] at hread
  refine ⟨replies[i], _, ?_, ?_, ?_, hreplies.get hi hi'⟩
  · rw [hread]
  · rw [hread, hlen]
  · rw [List.length_take] at hi'
    rw [List.get_eq_getElem, List.getElem_take]
    exact List.getElem?_eq_getElem (by omega)

end Bus

/-- Three slaves are counted. -/
theorem connection_refines_bus_count :
    ∃ reply : Message, reply.bytes = List.replicate 12 0 ++ [0x88, 0xA4, 0, 0] ++
        [7, 0, 0, 0, 0, 0, 0, 0, 0, 0, 3, 0] ∧
      reply.Carries [{ command := .BRD, address := 0, data := [], wkc := 3 }] := by
  let sim := prepare 3 oneSlaveServer
  let count : Datagram := { command := .BRD, address := 0, data := [], wkc := 0 }
  let c := run (step (fun _ => .ofBuffer (Cells.fill 0)) 1520) (start sim false)
    (bytewise countMessage.bytes ++ fetched 1518)
  let call : MasterSocket.ReadCall :=
    { size := 1518, result := 28
      frame := List.replicate 12 0 ++ [0x88, 0xA4, 0, 0] ++ [7, 0, 0, 0, 0, 0, 0, 0, 0, 0, 3, 0] }
  have hevents : StepsOk (step (fun _ => .ofBuffer (Cells.fill 0)) 1520) Intact
      (start sim false) (bytewise countMessage.bytes ++ fetched 1518) := by
    decide +kernel
  have hcarries : countMessage.Carries [count] := by
    have hdatagram : (frameBuffer (Cells.fill 0) countMessage.bytes).datagram 16 = count := by
      decide
    rw [← hdatagram]
    exact Message.carries_of_chain (Cells.fill 0) (.last (by decide) (by decide))
  have hserving : Serving oneSlaveServer := .connected 1 _
  have hrep := prepare_represents 3 hserving.inputMaps_eq
  have hwritten : c.written = [countMessage].map Message.bytes := by decide +kernel
  have hcall : c.returned[0]? = some call := by decide +kernel
  obtain ⟨reply, ds, hframe, -, hds, hreply⟩ := connection_refines_bus hrep (fun _ => Cells.fill 0)
    (Nat.le_refl 1520) false hevents rfl hwritten (.cons hcarries .nil) hcall (by decide)
    (by decide)
  obtain rfl := Option.some.inj hds
  exact ⟨reply, hframe.symm, hreply⟩

end Connection

end EthercatSim
