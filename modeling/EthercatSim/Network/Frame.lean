import EthercatSim.Lib.Cells
import EthercatSim.Lib.Loop
import EthercatSim.Network.Datagram

/-!
# `processFrame_` on the bytes of a frame

`kickcat::Frame` is prebuilt.  Of it the model uses this much: the message is
copied to the start of a buffer of `ETH_MAX_SIZE` bytes, and `peekDatagram`
starts at offset 16, gives the header at the current offset, the data behind the
header and the working counter behind the data, and goes on behind the working
counter while the header has its `multiple` bit set.  What the buffer holds
behind the message is not known, so it is a parameter.

`processDatagram` ends the loop with `false` where the code would leave the
buffer; C++ gives such an access no meaning.

* `Chain`: the datagrams that the headers of a buffer announce, all inside a
  limit.
* `loop_of_chain`: on a chain the loop over the bytes does what
  `SlavesEndpoint.processFrame` does on the list of datagrams.
* `processMessage_isSome_iff`: the code stays inside the buffer exactly when the
  chain does.
-/

namespace EthercatSim

open Kickcat Bytes

/-- `kickcat::EthernetFrame`, a buffer of `ETH_MAX_SIZE` bytes. -/
abbrev FrameBuffer := Cells UInt8 1518

/-- A message that `handleClient_` accepts. -/
structure Message where
  bytes : List UInt8
  nonempty : 1 ≤ bytes.length
  short : bytes.length ≤ 1500

/-- `kickcat::Frame(frame, frame_size)`.  `rest` is what the buffer holds
before. -/
def frameBuffer (rest : FrameBuffer) (bytes : List UInt8) : FrameBuffer := rest.store 0 bytes

/-! ## The datagram at an offset -/

namespace FrameBuffer

/-- `hdr->len`, the low 11 bits of the word at byte 6 of the header. -/
def len (buf : FrameBuffer) (off : Nat) : Nat := (buf.word (off + 6) &&& 0x7FF).toNat

/-- `hdr->multiple`, the high bit of the same word. -/
def multiple (buf : FrameBuffer) (off : Nat) : Bool := buf.word (off + 6) &&& 0x8000 ≠ 0

/-- The header at `off`, its data and its working counter. -/
def datagram (buf : FrameBuffer) (off : Nat) : Datagram where
  command := Command.ofByte (buf.get off)
  address := le32 (buf.word (off + 2)) (buf.word (off + 4))
  data := buf.load (off + 10) (buf.len off)
  wkc := buf.word (off + 10 + buf.len off)

/-- Write the data and the working counter back. -/
def putDatagram (buf : FrameBuffer) (off : Nat) (d : Datagram) : FrameBuffer :=
  (buf.store (off + 10) d.data).setWord (off + 10 + d.data.length) d.wkc

/-- The offset behind the working counter. -/
def next (buf : FrameBuffer) (off : Nat) : Nat := off + 12 + buf.len off

theorem datagram_data_length (buf : FrameBuffer) (off : Nat) :
    (buf.datagram off).data.length = buf.len off := Cells.load_length _ _ _

theorem off_lt_next (buf : FrameBuffer) (off : Nat) : off < buf.next off := by
  unfold next
  omega

theorem word_congr {buf buf' : FrameBuffer} {off : Nat} (h0 : buf'.get off = buf.get off)
    (h1 : buf'.get (off + 1) = buf.get (off + 1)) : buf'.word off = buf.word off := by
  rw [Cells.word, Cells.word, h0, h1]

/-- The length and the `multiple` bit are in the header. -/
theorem header_congr {buf buf' : FrameBuffer} {off : Nat}
    (h : ∀ j, off ≤ j → j < off + 10 → buf'.get j = buf.get j) :
    buf'.len off = buf.len off ∧ buf'.multiple off = buf.multiple off := by
  have hword : buf'.word (off + 6) = buf.word (off + 6) :=
    word_congr (h _ (by omega) (by omega)) (h _ (by omega) (by omega))
  rw [len, len, multiple, multiple, hword]
  exact ⟨rfl, rfl⟩

/-- A datagram is read from its own bytes only. -/
theorem datagram_congr {buf buf' : FrameBuffer} {off : Nat}
    (h : ∀ j, off ≤ j → j < buf.next off → buf'.get j = buf.get j) :
    buf'.datagram off = buf.datagram off := by
  unfold next at h
  have hlen : buf'.len off = buf.len off :=
    (header_congr fun j hlo hhi => h j hlo (by omega)).1
  have hdata : buf'.load (off + 10) (buf.len off) = buf.load (off + 10) (buf.len off) :=
    Cells.load_congr fun j hlo hhi => h j (by omega) (by omega)
  have hword : ∀ i, off ≤ i → i + 1 < off + 12 + buf.len off → buf'.word i = buf.word i := by
    intro i hlo hhi
    exact word_congr (h i hlo (by omega)) (h (i + 1) (by omega) (by omega))
  rw [datagram, datagram, hlen, hdata, h off (by omega) (by omega),
    hword (off + 2) (by omega) (by omega), hword (off + 4) (by omega) (by omega),
    hword (off + 10 + buf.len off) (by omega) (by omega)]

/-- What stands at an offset is read from the bytes behind it only. -/
theorem at_congr {buf buf' : FrameBuffer} {off : Nat}
    (h : ∀ j, off ≤ j → buf'.get j = buf.get j) :
    buf'.datagram off = buf.datagram off ∧ buf'.next off = buf.next off ∧
      buf'.multiple off = buf.multiple off := by
  obtain ⟨hlen, hmultiple⟩ := header_congr fun j hlo _ => h j hlo
  refine ⟨datagram_congr fun j hlo _ => h j hlo, ?_, hmultiple⟩
  rw [next, hlen, next]

/-- Writing a datagram back touches its data and its working counter only. -/
theorem get_putDatagram_of_outside (buf : FrameBuffer) {off : Nat} {d : Datagram} {j : Nat}
    (h : j < off + 10 ∨ off + 12 + d.data.length ≤ j) :
    (buf.putDatagram off d).get j = buf.get j := by
  have hhi : ¬(j = off + 10 + d.data.length + 1 ∧ off + 10 + d.data.length + 1 < 1518) := by omega
  have hlo : ¬(j = off + 10 + d.data.length ∧ off + 10 + d.data.length < 1518) := by omega
  rw [putDatagram, Cells.get_setWord, if_neg hhi, if_neg hlo,
    Cells.get_store_of_disjoint _ (by omega)]

/-- A datagram with the header of the one at `off` is read back. -/
theorem datagram_putDatagram (buf : FrameBuffer) {off : Nat} {d : Datagram}
    (hfit : buf.next off ≤ 1518) (hcommand : d.command = (buf.datagram off).command)
    (haddress : d.address = (buf.datagram off).address)
    (hlength : d.data.length = buf.len off) : (buf.putDatagram off d).datagram off = d := by
  unfold next at hfit
  have hheader : ∀ j, off ≤ j → j < off + 10 → (buf.putDatagram off d).get j = buf.get j :=
    fun j _ hhi => buf.get_putDatagram_of_outside (.inl hhi)
  have hlen : (buf.putDatagram off d).len off = d.data.length := by
    rw [(header_congr hheader).1, hlength]
  have hword : ∀ i, off ≤ i → i + 1 < off + 10 → (buf.putDatagram off d).word i = buf.word i :=
    fun i hlo hhi => word_congr (hheader i hlo (by omega)) (hheader (i + 1) (by omega) hhi)
  have hdata : (buf.putDatagram off d).load (off + 10) d.data.length = d.data := by
    -- the working counter is stored behind the data
    have hload : (buf.putDatagram off d).load (off + 10) d.data.length =
        (buf.store (off + 10) d.data).load (off + 10) d.data.length := by
      apply Cells.load_congr
      intro j hlo hhi
      rw [putDatagram, Cells.get_setWord, if_neg (by omega), if_neg (by omega)]
    rw [hload, Cells.load_store buf (by omega)]
  have hwkc : (buf.putDatagram off d).word (off + 10 + d.data.length) = d.wkc :=
    Cells.word_setWord _ _ (by omega)
  rw [datagram, hlen, hdata, hwkc, hheader off (by omega) (by omega),
    hword (off + 2) (by omega) (by omega), hword (off + 4) (by omega) (by omega)]
  show Datagram.mk (buf.datagram off).command (buf.datagram off).address d.data d.wkc = d
  rw [← hcommand, ← haddress]

end FrameBuffer

/-! ## Chains of datagrams -/

/-- The headers from `off` on announce the datagrams `ds`, and each of them ends
at `limit` or before. -/
inductive Chain (limit : Nat) (buf : FrameBuffer) : Nat → List Datagram → Prop
  | last {off : Nat} (hfit : buf.next off ≤ limit) (hmultiple : buf.multiple off = false) :
      Chain limit buf off [buf.datagram off]
  | more {off : Nat} {ds : List Datagram} (hfit : buf.next off ≤ limit)
      (hmultiple : buf.multiple off = true) (htail : Chain limit buf (buf.next off) ds) :
      Chain limit buf off (buf.datagram off :: ds)

/-- The chain from `off` on stays inside the buffer. -/
def ChainFits (buf : FrameBuffer) (off : Nat) : Prop := ∃ ds, Chain 1518 buf off ds

namespace Chain

theorem mono {limit limit' : Nat} {buf : FrameBuffer} {off : Nat} {ds : List Datagram}
    (h : Chain limit buf off ds) (hlimit : limit ≤ limit') : Chain limit' buf off ds := by
  induction h with
  | last hfit hmultiple => exact .last (hfit.trans hlimit) hmultiple
  | more hfit hmultiple _ ih => exact .more (hfit.trans hlimit) hmultiple ih

theorem length_le {limit : Nat} {buf : FrameBuffer} {off : Nat} {ds : List Datagram}
    (h : Chain limit buf off ds) : off + 12 * ds.length ≤ limit := by
  induction h with
  | last hfit _ =>
    unfold FrameBuffer.next at hfit
    rw [List.length_singleton]
    omega
  | more _ _ _ ih =>
    unfold FrameBuffer.next at ih
    rw [List.length_cons]
    omega

/-- A chain is read from the bytes behind its start only. -/
theorem congr {limit : Nat} {buf buf' : FrameBuffer} {off : Nat} {ds : List Datagram}
    (h : Chain limit buf off ds) (hsame : ∀ j, off ≤ j → buf'.get j = buf.get j) :
    Chain limit buf' off ds := by
  induction h with
  | @last off hfit hmultiple =>
    obtain ⟨hdatagram, hnext, hmultiple'⟩ := FrameBuffer.at_congr hsame
    rw [← hdatagram]
    exact .last (hnext.le.trans hfit) (hmultiple'.trans hmultiple)
  | @more off ds hfit hmultiple _ ih =>
    obtain ⟨hdatagram, hnext, hmultiple'⟩ := FrameBuffer.at_congr hsame
    have hlt := buf.off_lt_next off
    rw [← hdatagram]
    refine .more (hnext.le.trans hfit) (hmultiple'.trans hmultiple) ?_
    rw [hnext]
    exact ih fun j hlo => hsame j (by omega)

/-- A chain is read from the bytes in front of its limit only. -/
theorem congr_of_lt {limit : Nat} {buf buf' : FrameBuffer} {off : Nat} {ds : List Datagram}
    (h : Chain limit buf off ds) (hsame : ∀ j, off ≤ j → j < limit → buf'.get j = buf.get j) :
    Chain limit buf' off ds := by
  have hhead : ∀ off, buf.next off ≤ limit →
      (∀ j, off ≤ j → j < limit → buf'.get j = buf.get j) →
      buf'.datagram off = buf.datagram off ∧ buf'.next off = buf.next off ∧
        buf'.multiple off = buf.multiple off := by
    intro off hfit hsame
    have hlen : off + 12 + buf.len off ≤ limit := hfit
    obtain ⟨hlen', hmultiple⟩ := FrameBuffer.header_congr
      fun j hlo hhi => hsame j hlo (by omega)
    refine ⟨FrameBuffer.datagram_congr fun j hlo hhi => hsame j hlo (hhi.trans_le hfit), ?_,
      hmultiple⟩
    rw [FrameBuffer.next, hlen', FrameBuffer.next]
  induction h with
  | @last off hfit hmultiple =>
    obtain ⟨hdatagram, hnext, hmultiple'⟩ := hhead off hfit hsame
    rw [← hdatagram]
    exact .last (hnext.le.trans hfit) (hmultiple'.trans hmultiple)
  | @more off ds hfit hmultiple _ ih =>
    obtain ⟨hdatagram, hnext, hmultiple'⟩ := hhead off hfit hsame
    have hlt := buf.off_lt_next off
    rw [← hdatagram]
    refine .more (hnext.le.trans hfit) (hmultiple'.trans hmultiple) ?_
    rw [hnext]
    exact ih fun j hlo => hsame j (by omega)

/-- Where datagrams that begin at `off` end. -/
def stop : Nat → List Datagram → Nat
  | off, [] => off
  | off, d :: ds => stop (off + 12 + d.data.length) ds

theorem stop_datagram (buf : FrameBuffer) (off : Nat) (ds : List Datagram) :
    stop off (buf.datagram off :: ds) = stop (buf.next off) ds := by
  rw [stop, FrameBuffer.datagram_data_length, FrameBuffer.next]

theorem stop_le {limit : Nat} {buf : FrameBuffer} {off : Nat} {ds : List Datagram}
    (h : Chain limit buf off ds) : stop off ds ≤ limit := by
  induction h with
  | last hfit _ =>
    rw [stop_datagram]
    exact hfit
  | more _ _ _ ih =>
    rw [stop_datagram]
    exact ih

theorem le_stop (off : Nat) (ds : List Datagram) : off ≤ stop off ds := by
  induction ds generalizing off with
  | nil => exact Nat.le_refl off
  | cons d ds ih =>
    have hle := ih (off + 12 + d.data.length)
    rw [stop]
    omega

/-- The datagrams are inside a limit when they end there. -/
theorem of_stop_le {limit limit' : Nat} {buf : FrameBuffer} {off : Nat} {ds : List Datagram}
    (h : Chain limit buf off ds) (hstop : stop off ds ≤ limit') : Chain limit' buf off ds := by
  induction h with
  | last _ hmultiple =>
    rw [stop_datagram] at hstop
    exact .last hstop hmultiple
  | more _ hmultiple _ ih =>
    rw [stop_datagram] at hstop
    exact .more ((le_stop _ _).trans hstop) hmultiple (ih hstop)

end Chain

/-- A chain stays inside the buffer when its first datagram does and the rest of
it, if there is one, does. -/
theorem chainFits_iff (buf : FrameBuffer) (off : Nat) :
    ChainFits buf off ↔
      buf.next off ≤ 1518 ∧ (buf.multiple off = true → ChainFits buf (buf.next off)) := by
  constructor
  · intro h
    obtain ⟨ds, hchain⟩ := h
    cases hchain with
    | last hfit hmultiple => exact ⟨hfit, fun hc => absurd (hmultiple.symm.trans hc) (by decide)⟩
    | more hfit hmultiple htail => exact ⟨hfit, fun _ => ⟨_, htail⟩⟩
  · intro h
    obtain ⟨hfit, htail⟩ := h
    cases hmultiple : buf.multiple off with
    | false => exact ⟨_, .last hfit hmultiple⟩
    | true =>
      obtain ⟨ds, hchain⟩ := htail hmultiple
      exact ⟨_, .more hfit hmultiple hchain⟩

/-- Whether a chain stays inside depends on the bytes behind its start only. -/
theorem chainFits_congr {buf buf' : FrameBuffer} {off : Nat}
    (hsame : ∀ j, off ≤ j → buf'.get j = buf.get j) : ChainFits buf' off ↔ ChainFits buf off := by
  constructor
  · intro h
    obtain ⟨ds, hchain⟩ := h
    exact ⟨ds, hchain.congr fun j hj => (hsame j hj).symm⟩
  · intro h
    obtain ⟨ds, hchain⟩ := h
    exact ⟨ds, hchain.congr hsame⟩

/-! ## The loop -/

variable {σ : Type} [SlaveDevice σ]

/-- The state of the loop of `processFrame_`. -/
structure FrameState (σ : Type) where
  sim : NetworkSimulator σ
  buffer : FrameBuffer
  off : Nat

namespace SlavesEndpoint

/-- One datagram is interpreted and written back. -/
def advance (s : FrameState σ) : FrameState σ :=
  let (sim, d) := interpret s.sim (s.buffer.datagram s.off)
  { sim, buffer := s.buffer.putDatagram s.off d, off := s.buffer.next s.off }

/-- The body of the loop: the result is `true` when there is no datagram behind
this one, and `false` when the datagram is not inside the buffer.  A datagram
with data outside has its working counter outside too, and that is stored
whatever the command is. -/
def processDatagram (s : FrameState σ) : FrameState σ × Option Bool :=
  if 1518 < s.off + 10 then (s, some false)
  else if 1518 < s.buffer.next s.off then (s, some false)
  else (advance s, if s.buffer.multiple s.off then none else some true)

/-- The type field of the Ethernet header is corrected; `ETH_ETHERCAT_TYPE` is
in network order. -/
def correctType (buf : FrameBuffer) : FrameBuffer :=
  if buf.word 12 ≠ 0xA488 then buf.setWord 12 0xA488 else buf

/-- `processFrame_`: the simulator and the bytes that are copied back, or `none`
when the code leaves the buffer. -/
def processMessage (sim : NetworkSimulator σ) (rest : FrameBuffer) (bytes : List UInt8) :
    Option (NetworkSimulator σ × List UInt8) :=
  let buffer := correctType (frameBuffer rest bytes)
  match FuelLoop.loop processDatagram 1519 { sim, buffer, off := 16 } with
  | some (s, true) => some (s.sim, s.buffer.load 0 bytes.length)
  | _ => none

/-- An interpreted datagram has the header and the length that it had. -/
theorem interpret_header (sim : NetworkSimulator σ) (d : Datagram) :
    (interpret sim d).2.command = d.command ∧ (interpret sim d).2.address = d.address ∧
      (interpret sim d).2.data.length = d.data.length := by
  have hread : ∀ (s : NetworkSimulator σ) ref reg out,
      (s.readObject ref reg out).2.1.length = out.length := by
    intro s ref reg out
    exact VirtualSlave.read_length _ reg out
  have hslave : ∀ adp ado out, (sim.readFromSlave adp ado out).2.1.length = out.length := by
    intro adp ado out
    unfold NetworkSimulator.readFromSlave
    split
    · exact hread sim _ ado out
    · split
      · exact List.length_replicate
      · rfl
  have hindex : ∀ idx ado out, (sim.readFromSlaveByIndex idx ado out).2.1.length = out.length := by
    intro idx ado out
    unfold NetworkSimulator.readFromSlaveByIndex
    split
    · split
      · exact hread sim _ ado out
      · rfl
    · rfl
  have hlogical : ∀ addr out, (sim.readLogical addr out).2.length = out.length := by
    intro addr out
    unfold NetworkSimulator.readLogical
    split
    · rfl
    · exact Cells.load_length _ _ _
  cases hc : d.command <;>
    simp only [interpret, hc, reduceCtorEq, if_true, if_false, and_self, true_and]
  case FPRD => exact hslave _ _ _
  case APRD => exact hindex _ _ _
  case LRD => exact hlogical _ _

/-! ## The loop on a chain -/

/-- A datagram inside the buffer is processed. -/
theorem processDatagram_of_fits {s : FrameState σ} (hfit : s.buffer.next s.off ≤ 1518) :
    processDatagram s = (advance s, if s.buffer.multiple s.off then none else some true) := by
  have hheader : ¬1518 < s.off + 10 := by
    unfold FrameBuffer.next at hfit
    omega
  rw [processDatagram, if_neg hheader, if_neg (Nat.not_lt.mpr hfit)]

/-- The rounds of the loop: the datagram is outside, or the last one, or not the
last one. -/
theorem processDatagram_branch (s : FrameState σ) :
    (1518 < s.buffer.next s.off ∧ processDatagram s = (s, some false)) ∨
      (s.buffer.next s.off ≤ 1518 ∧ s.buffer.multiple s.off = false ∧
        processDatagram s = (advance s, some true)) ∨
      (s.buffer.next s.off ≤ 1518 ∧ s.buffer.multiple s.off = true ∧
        processDatagram s = (advance s, none)) := by
  rcases Nat.lt_or_ge 1518 (s.buffer.next s.off) with hout | hfit
  · left
    rw [processDatagram, if_pos hout, ite_self]
    exact ⟨hout, rfl⟩
  · right
    rw [processDatagram_of_fits hfit]
    cases s.buffer.multiple s.off with
    | false => exact .inl ⟨hfit, rfl, rfl⟩
    | true => exact .inr ⟨hfit, rfl, rfl⟩

/-- The data of the written datagram has the length that the header says. -/
theorem interpret_data_length (s : FrameState σ) :
    (interpret s.sim (s.buffer.datagram s.off)).2.data.length = s.buffer.len s.off := by
  rw [(interpret_header s.sim _).2.2, FrameBuffer.datagram_data_length]

theorem advance_buffer (s : FrameState σ) :
    (advance s).buffer =
      s.buffer.putDatagram s.off (interpret s.sim (s.buffer.datagram s.off)).2 := rfl

/-- The bytes behind a datagram are not touched. -/
theorem get_advance_of_next_le (s : FrameState σ) {j : Nat} (h : s.buffer.next s.off ≤ j) :
    (advance s).buffer.get j = s.buffer.get j := by
  have hlength := interpret_data_length s
  unfold FrameBuffer.next at h
  rw [advance_buffer]
  exact FrameBuffer.get_putDatagram_of_outside _ (.inr (by omega))

/-- The bytes in front of a datagram and its header are not touched. -/
theorem get_advance_of_lt (s : FrameState σ) {j : Nat} (h : j < s.off + 10) :
    (advance s).buffer.get j = s.buffer.get j := by
  rw [advance_buffer]
  exact FrameBuffer.get_putDatagram_of_outside _ (.inl h)

/-- The written datagram is read back. -/
theorem datagram_advance (s : FrameState σ) (hfit : s.buffer.next s.off ≤ 1518) :
    (advance s).buffer.datagram s.off = (interpret s.sim (s.buffer.datagram s.off)).2 := by
  obtain ⟨hcommand, haddress, -⟩ := interpret_header s.sim (s.buffer.datagram s.off)
  rw [advance_buffer]
  exact FrameBuffer.datagram_putDatagram _ hfit hcommand haddress (interpret_data_length s)

/-- The loop ends: the offset grows with every datagram. -/
theorem loop_processDatagram_isSome (s : FrameState σ) :
    (FuelLoop.loop processDatagram 1519 s).isSome := by
  have hdec : ∀ t t' : FrameState σ, processDatagram t = (t', none) →
      1518 - t'.off < 1518 - t.off := by
    intro t t' ht
    have hlt := t.buffer.off_lt_next t.off
    rcases processDatagram_branch t with ⟨-, hb⟩ | ⟨-, -, hb⟩ | ⟨hfit, -, hb⟩
    · simp [hb] at ht
    · simp [hb] at ht
    · rw [hb, Prod.mk.injEq] at ht
      rw [← ht.1]
      show 1518 - t.buffer.next t.off < 1518 - t.off
      omega
  exact FuelLoop.loop_isSome (fun t => 1518 - t.off) hdec (by omega)

/-- The loop reports that it stayed inside the buffer exactly when the chain from
its offset on does.  The invariant is that the chain left to process stays
inside exactly when the whole one does. -/
theorem loop_processDatagram_iff {fuel : Nat} {s : FrameState σ} {out : FrameState σ × Bool}
    (h : FuelLoop.loop processDatagram fuel s = some out) :
    out.2 = true ↔ ChainFits s.buffer s.off := by
  have htail : ∀ t : FrameState σ,
      ChainFits (advance t).buffer (advance t).off ↔ ChainFits t.buffer (t.buffer.next t.off) :=
    fun t => chainFits_congr fun _ hj => get_advance_of_next_le t hj
  have hnext : ∀ t t' : FrameState σ, (ChainFits t.buffer t.off ↔ ChainFits s.buffer s.off) →
      processDatagram t = (t', none) → (ChainFits t'.buffer t'.off ↔ ChainFits s.buffer s.off) := by
    intro t t' hI ht
    rcases processDatagram_branch t with ⟨-, hb⟩ | ⟨-, -, hb⟩ | ⟨hfit, hmultiple, hb⟩
    · simp [hb] at ht
    · simp [hb] at ht
    · rw [hb, Prod.mk.injEq] at ht
      rw [← ht.1, htail, ← hI, chainFits_iff t.buffer t.off]
      simp [hfit, hmultiple]
  have hexit : ∀ (t t' : FrameState σ) (r : Bool),
      (ChainFits t.buffer t.off ↔ ChainFits s.buffer s.off) →
      processDatagram t = (t', some r) → (r = true ↔ ChainFits s.buffer s.off) := by
    intro t t' r hI ht
    rw [← hI, chainFits_iff]
    rcases processDatagram_branch t with ⟨hout, hb⟩ | ⟨hfit, hmultiple, hb⟩ | ⟨-, -, hb⟩
    · rw [hb, Prod.mk.injEq, Option.some.injEq] at ht
      rw [← ht.2]
      simp [Nat.not_le.mpr hout]
    · rw [hb, Prod.mk.injEq, Option.some.injEq] at ht
      rw [← ht.2]
      simp [hfit, hmultiple]
    · simp [hb] at ht
  exact FuelLoop.loop_post (I := fun t => (ChainFits t.buffer t.off ↔ ChainFits s.buffer s.off))
    (Q := fun _ r => (r = true ↔ ChainFits s.buffer s.off)) hnext hexit Iff.rfl h

/-- The header that a datagram was processed from is still in front of it. -/
theorem header_of_same {s : FrameState σ} {buf : FrameBuffer}
    (hsame : ∀ j, j < s.off + 10 → buf.get j = (advance s).buffer.get j) :
    buf.next s.off = s.buffer.next s.off ∧ buf.multiple s.off = s.buffer.multiple s.off := by
  have hheader : ∀ j, s.off ≤ j → j < s.off + 10 → buf.get j = s.buffer.get j :=
    fun j _ hhi => (hsame j hhi).trans (get_advance_of_lt s hhi)
  obtain ⟨hlen, hmultiple⟩ := FrameBuffer.header_congr hheader
  refine ⟨?_, hmultiple⟩
  rw [FrameBuffer.next, FrameBuffer.next, hlen]

/-- On a chain the loop over the bytes does what `processFrame` does on the list
of the datagrams, and the buffer holds the processed datagrams afterwards. -/
theorem loop_of_chain {s : FrameState σ} {ds : List Datagram}
    (h : Chain 1518 s.buffer s.off ds) :
    ∃ s', FuelLoop.loop processDatagram ds.length s = some (s', true) ∧
      s'.sim = (processFrame s.sim ds).1 ∧
      Chain 1518 s'.buffer s.off (processFrame s.sim ds).2 ∧
      ∀ j, j < s.off + 10 → s'.buffer.get j = s.buffer.get j := by
  induction ds generalizing s with
  | nil => cases h
  | cons d ds ih =>
    rw [processFrame_cons]
    cases h with
    | last hfit hmultiple =>
      have hbody : processDatagram s = (advance s, some true) := by
        rw [processDatagram_of_fits hfit, hmultiple]
        rfl
      obtain ⟨hnext, hmultiple'⟩ := header_of_same (s := s) fun _ _ => rfl
      refine ⟨advance s, FuelLoop.loop_exit hbody 0, rfl, ?_, fun j hj => get_advance_of_lt s hj⟩
      rw [← datagram_advance s hfit]
      exact .last (hnext.le.trans hfit) (hmultiple'.trans hmultiple)
    | more hfit hmultiple htail =>
      have hbody : processDatagram s = (advance s, none) := by
        rw [processDatagram_of_fits hfit, hmultiple]
        rfl
      have htail' : Chain 1518 (advance s).buffer (advance s).off ds :=
        htail.congr fun j hj => get_advance_of_next_le s hj
      obtain ⟨s', hloop, hsim, hchain, hsame⟩ := ih htail'
      -- the rest of the loop works behind the datagram
      have hoff : (advance s).off = s.buffer.next s.off := rfl
      have hlt := s.buffer.off_lt_next s.off
      have hsame' : ∀ j, j < s.off + 10 → s'.buffer.get j = (advance s).buffer.get j :=
        fun j hj => hsame j (by omega)
      obtain ⟨hnext, hmultiple'⟩ := header_of_same hsame'
      have hdatagram :
          s'.buffer.datagram s.off = (interpret s.sim (s.buffer.datagram s.off)).2 := by
        have hnext' := (header_of_same (s := s) fun _ _ => rfl).1
        rw [← datagram_advance s hfit]
        exact FrameBuffer.datagram_congr fun j _ hj => hsame j (by omega)
      refine ⟨s', ?_, hsim, ?_, ?_⟩
      · rw [List.length_cons, FuelLoop.loop_next hbody]
        exact hloop
      · rw [← hdatagram]
        refine .more (hnext.le.trans hfit) (hmultiple'.trans hmultiple) ?_
        rw [hnext]
        exact hchain
      · intro j hj
        exact (hsame' j hj).trans (get_advance_of_lt s hj)

/-! ## A whole message -/

theorem get_correctType (buf : FrameBuffer) {j : Nat} (h : 14 ≤ j) :
    (correctType buf).get j = buf.get j := by
  unfold correctType
  split
  · rw [Cells.get_setWord, if_neg (by omega), if_neg (by omega)]
  · rfl

/-- A message whose datagrams end inside the message stays inside the buffer. -/
theorem chainFits_of_message {rest : FrameBuffer} {m : Message} {ds : List Datagram}
    (h : Chain m.bytes.length (frameBuffer rest m.bytes) 16 ds) :
    ChainFits (frameBuffer rest m.bytes) 16 :=
  ⟨ds, h.mono (m.short.trans (by omega))⟩

/-- On a chain that stays inside the buffer `processFrame_` does what
`processFrame` does, and gives back as many bytes as it was given. -/
theorem processMessage_of_chain {rest : FrameBuffer} {bytes : List UInt8} {ds : List Datagram}
    (h : Chain 1518 (frameBuffer rest bytes) 16 ds) (sim : NetworkSimulator σ) :
    ∃ out, processMessage sim rest bytes = some ((processFrame sim ds).1, out) ∧
      out.length = bytes.length := by
  have htyped : Chain 1518 (correctType (frameBuffer rest bytes)) 16 ds :=
    h.congr fun j hj => get_correctType _ (by omega)
  obtain ⟨s, hloop, hsim, -, -⟩ := loop_of_chain
    (s := { sim, buffer := correctType (frameBuffer rest bytes), off := 16 }) htyped
  have hlength : ds.length ≤ 1519 := by
    have := h.length_le
    omega
  have hfuel := FuelLoop.loop_add hloop (1519 - ds.length)
  rw [Nat.add_sub_cancel' hlength] at hfuel
  refine ⟨s.buffer.load 0 bytes.length, ?_, Cells.load_length _ _ _⟩
  rw [processMessage, hfuel, ← hsim]

/-- Processed datagrams are as long as they were. -/
theorem stop_processFrame (sim : NetworkSimulator σ) (ds : List Datagram) (off : Nat) :
    Chain.stop off (processFrame sim ds).2 = Chain.stop off ds := by
  induction ds generalizing sim off with
  | nil => rfl
  | cons d ds ih =>
    rw [processFrame_cons, Chain.stop, Chain.stop, ih, (interpret_header sim d).2.2]

/-- `processFrame_` accesses the simulator as datagrams do. -/
theorem accessStep_of_processMessage {sim sim' : NetworkSimulator σ} {rest : FrameBuffer}
    {bytes out : List UInt8} (h : processMessage sim rest bytes = some (sim', out)) :
    AccessStep sim sim' := by
  have hbody : ∀ s : FrameState σ, AccessStep s.sim (processDatagram s).1.sim := by
    intro s
    have hadvance : AccessStep s.sim (advance s).sim := AccessStep.interpret s.sim _
    rcases processDatagram_branch s with ⟨-, hb⟩ | ⟨-, -, hb⟩ | ⟨-, -, hb⟩ <;> rw [hb]
    · exact .refl s.sim
    · exact hadvance
    · exact hadvance
  rw [processMessage] at h
  split at h
  · rename_i s hloop
    have htrans : ∀ s s' s'' : FrameState σ, AccessStep s.sim s'.sim → AccessStep s'.sim s''.sim →
        AccessStep s.sim s''.sim := fun _ _ _ hs hs' => hs.trans hs'
    have hrel := @FuelLoop.loop_rel _ _ _ (fun s s' : FrameState σ => AccessStep s.sim s'.sim)
      (fun s => .refl s.sim) htrans hbody _ _ _ hloop
    obtain ⟨rfl, -⟩ := Prod.mk.inj (Option.some.inj h)
    exact hrel
  · cases h

/-- The code has a meaning exactly when the chain stays inside the buffer. -/
theorem isSome_processMessage (sim : NetworkSimulator σ) (rest : FrameBuffer)
    (bytes : List UInt8) :
    (processMessage sim rest bytes).isSome = true ↔ ChainFits (frameBuffer rest bytes) 16 := by
  have hsome := loop_processDatagram_isSome
    ({ sim, buffer := correctType (frameBuffer rest bytes), off := 16 } : FrameState σ)
  obtain ⟨⟨s, inside⟩, hloop⟩ := Option.isSome_iff_exists.mp hsome
  have hinside : inside = true ↔ ChainFits (frameBuffer rest bytes) 16 := by
    have htyped : ChainFits (correctType (frameBuffer rest bytes)) 16 ↔
        ChainFits (frameBuffer rest bytes) 16 :=
      chainFits_congr fun j hj => get_correctType _ (by omega)
    rw [← htyped]
    exact loop_processDatagram_iff hloop
  rw [processMessage, hloop, ← hinside]
  cases inside with
  | false => simp
  | true => simp

end SlavesEndpoint

/-- The bytes of the message hold the datagrams `ds`, whatever the buffer holds behind
them. -/
def Message.Carries (m : Message) (ds : List Datagram) : Prop :=
  ∀ rest, Chain m.bytes.length (frameBuffer rest m.bytes) 16 ds

/-- The datagrams that end inside the message do not depend on the rest of the buffer. -/
theorem Message.carries_of_chain {m : Message} {ds : List Datagram} (rest : FrameBuffer)
    (h : Chain m.bytes.length (frameBuffer rest m.bytes) 16 ds) : m.Carries ds := by
  intro rest'
  have hshort := m.short
  refine h.congr_of_lt fun j _ hj => ?_
  rw [frameBuffer, frameBuffer, Cells.get_store, Cells.get_store, if_pos (by omega),
    if_pos (by omega)]

namespace SlavesEndpoint

/-- A message that carries datagrams is given back with the processed ones. -/
theorem processMessage_of_carries {m : Message} {ds : List Datagram} (h : m.Carries ds)
    (sim : NetworkSimulator σ) (rest : FrameBuffer) :
    ∃ out : Message, processMessage sim rest m.bytes = some ((processFrame sim ds).1, out.bytes) ∧
      out.bytes.length = m.bytes.length ∧ out.Carries (processFrame sim ds).2 := by
  have hchain : Chain 1518 (frameBuffer rest m.bytes) 16 ds :=
    (h rest).mono (m.short.trans (by omega))
  have htyped : Chain 1518 (correctType (frameBuffer rest m.bytes)) 16 ds :=
    hchain.congr fun j hj => get_correctType _ (by omega)
  let start : FrameState σ := { sim, buffer := correctType (frameBuffer rest m.bytes), off := 16 }
  obtain ⟨s, hloop, hsim, hprocessed, -⟩ := loop_of_chain (s := start) htyped
  have hrounds : ds.length ≤ 1519 := by
    have := hchain.length_le
    omega
  have hfuel := FuelLoop.loop_add hloop (1519 - ds.length)
  rw [Nat.add_sub_cancel' hrounds] at hfuel
  have hlength : (s.buffer.load 0 m.bytes.length).length = m.bytes.length :=
    Cells.load_length _ _ _
  refine ⟨⟨s.buffer.load 0 m.bytes.length, by rw [hlength]; exact m.nonempty,
    by rw [hlength]; exact m.short⟩, ?_, hlength, ?_⟩
  · rw [processMessage, hfuel, ← hsim]
  · have hstop : Chain.stop 16 (processFrame sim ds).2 ≤ m.bytes.length := by
      rw [stop_processFrame]
      exact (h rest).stop_le
    -- the bytes of the reply are those of the buffer
    have hreply : Chain m.bytes.length (frameBuffer s.buffer (s.buffer.load 0 m.bytes.length)) 16
        (processFrame sim ds).2 := by
      refine (hprocessed.of_stop_le hstop).congr_of_lt fun j _ hj => ?_
      rw [frameBuffer, Cells.get_store, hlength]
      split
      · rw [Cells.getD_load _ (by omega), Nat.sub_zero, Nat.zero_add]
      · rfl
    refine Message.carries_of_chain s.buffer ?_
    show Chain (s.buffer.load 0 m.bytes.length).length
      (frameBuffer s.buffer (s.buffer.load 0 m.bytes.length)) 16 _
    rw [hlength]
    exact hreply

/-- `processFrame_` stays inside the buffer, on any message that
`handleClient_` accepts, if and only if the datagrams that the message announces
do. -/
theorem processMessage_isSome_iff (sim : NetworkSimulator σ) (rest : FrameBuffer)
    (m : Message) :
    (processMessage sim rest m.bytes).isSome = true ↔
      ChainFits (frameBuffer rest m.bytes) 16 :=
  isSome_processMessage sim rest m.bytes

end SlavesEndpoint

/-- A message of 26 bytes: a NOP whose header announces 2047 bytes of data. -/
def longDatagram : Message where
  bytes := List.replicate 16 0 ++ [0, 0, 0, 0, 0, 0, 0xFF, 0x07, 0, 0]
  nonempty := by decide
  short := by decide

/-- The working counter of that datagram is at byte 2073. -/
theorem processMessage_longDatagram :
    (frameBuffer (Cells.fill 0) longDatagram.bytes).next 16 = 2075 ∧
      (SlavesEndpoint.processMessage (NetworkSimulator.new (VirtualSlave.new 0 0 0 ()))
        (Cells.fill 0) longDatagram.bytes).isSome = false := by
  decide

end EthercatSim
