import EthercatSim.El1258.Model
import EthercatSim.Network.Frame
import EthercatSim.Network.Steps
import EthercatSim.Transport.MasterSocket

/-!
# `SlavesEndpoint::handleClient_`

The model of the session with one client, of
`apps/slaves/bus/slaves_endpoint.cpp`.  The stop flag stays false, and every
`send` succeeds.

`read_exact_nb` waits through polls that time out.  It fails when nothing
arrives any more: the client has closed, and `recv` returns 0.

* `Serving`: the states of the simulator between two rounds of the loop, of any
  number of sessions.
* `serve_of_chainFits`, `serve_of_not_chainFits` and `serve_of_length_gt`: a
  message up to the bound of 1500 bytes is answered with as many bytes, when its
  datagrams are inside the frame buffer; a longer one closes the connection.
* `roundTrip_iff`: so a well-formed frame that `MasterSocket::write` is given
  comes back to `MasterSocket::read` exactly when it has at most 1500 bytes.  A
  full Ethernet frame has 1514.
-/

namespace EthercatSim

open Bytes

namespace SlavesEndpoint

/-- `read_exact_nb` -/
def readExact (len : Nat) (w : Wire UInt8) : Bool × List UInt8 × Wire UInt8 :=
  Wire.receive true len w

/-- The start of `handleClient_`: a registry of `slavesCount` started slaves. -/
def prepare (slavesCount : Nat) (sim : NetworkSimulator El1258) : NetworkSimulator El1258 :=
  let sim := (List.range slavesCount).foldl
    (fun sim i =>
      let (ref, sim) :=
        sim.makeShared (El1258Slave.new (castUInt16 (1 + i)) El1258.VENDOR_ID El1258.PRODUCT_CODE)
      sim.addVirtualSlave (some ref))
    sim.clearSlaves
  sim.startAllSlaves.setLinkUp true

variable {σ : Type}

/-- How a round of the loop of `handleClient_` ends: the function returns, the
code has no meaning, or the reply is sent and the loop goes on. -/
inductive Round (σ : Type) where
  | closed
  | undefined
  | answered (sim : NetworkSimulator σ) (reply : List UInt8) (w : Wire UInt8)

/-- The body of the loop of `handleClient_`.  `rest` is what the frame buffer
holds behind the message. -/
def serve [SlaveDevice σ] (rest : FrameBuffer) (sim : NetworkSimulator σ) (w : Wire UInt8) :
    Round σ :=
  match readExact 2 w with
  | (false, _, _) => .closed
  | (true, beLen, w) =>
    let len := ntohs beLen
    if len = 0 ∨ 1500 < len then .closed
    else
      match readExact len.toNat w with
      | (false, _, _) => .closed
      | (true, buf, w) =>
        match processMessage sim rest buf with
        | none => .undefined
        | some (sim, buf) =>
          match sim.runOnce with
          | none => .undefined
          | some sim => .answered sim (lengthPrefix buf.length ++ buf) w

/-- The simulator between two rounds of the loop. -/
inductive Serving : NetworkSimulator El1258 → Prop
  | connected (slavesCount : Nat) (blank : El1258Slave) :
      Serving (prepare slavesCount (NetworkSimulator.new blank))
  | answered {sim sim' : NetworkSimulator El1258} {rest : FrameBuffer} {reply : List UInt8}
      {w w' : Wire UInt8} (h : Serving sim) (hserve : serve rest sim w = .answered sim' reply w') :
      Serving sim'
  | reconnected {sim : NetworkSimulator El1258} (slavesCount : Nat) (h : Serving sim) :
      Serving (prepare slavesCount sim)

end SlavesEndpoint

/-! ## A server without input mappings -/

section InputMaps

variable {σ : Type}

/-- Without mappings `runOnce` runs the routines and nothing else. -/
theorem runOnce_of_inputMaps_nil [SlaveDevice σ] {sim : NetworkSimulator σ}
    (h : sim.inputMaps = []) : ∃ sim', sim.runOnce = some sim' ∧ sim'.inputMaps = [] := by
  have hmaps : sim.runRoutines.inputMaps = [] := sim.runRoutines_inputMaps.trans h
  refine ⟨{ sim.runRoutines with inputMaps := [] }, ?_, rfl⟩
  rw [NetworkSimulator.runOnce, hmaps]
  rfl

namespace SlavesEndpoint

theorem prepare_inputMaps (slavesCount : Nat) (sim : NetworkSimulator El1258) :
    (prepare slavesCount sim).inputMaps = sim.inputMaps := by
  have hstart : ∀ s : NetworkSimulator El1258, s.startAllSlaves.inputMaps = s.inputMaps := by
    intro s
    refine @StepRun.run_unchanged _ _ _ _ NetworkSimulator.inputMaps ?_ s s.slaves
    intro s slot
    cases slot <;> rfl
  have hadd : ∀ s : NetworkSimulator El1258, (s.startAllSlaves.setLinkUp true).inputMaps =
      s.inputMaps := hstart
  rw [prepare, hadd]
  show (List.foldl _ sim.clearSlaves _).inputMaps = sim.clearSlaves.inputMaps
  refine @StepRun.run_unchanged _ _ _ _ NetworkSimulator.inputMaps ?_ sim.clearSlaves
    (List.range slavesCount)
  intro s i
  rfl

theorem serve_inputMaps [SlaveDevice σ] {rest : FrameBuffer} {sim sim' : NetworkSimulator σ}
    {reply : List UInt8} {w w' : Wire UInt8} (h : sim.inputMaps = [])
    (hserve : serve rest sim w = .answered sim' reply w') : sim'.inputMaps = [] := by
  rw [serve] at hserve
  split at hserve
  · cases hserve
  · simp only [] at hserve
    split at hserve
    · cases hserve
    · split at hserve
      · cases hserve
      · split at hserve
        · cases hserve
        · rename_i hprocess
          have hmaps := (accessStep_of_processMessage hprocess).inputMaps_eq.trans h
          obtain ⟨sim'', hrun, hmaps''⟩ := runOnce_of_inputMaps_nil hmaps
          rw [hrun] at hserve
          injection hserve with hsim
          rw [← hsim]
          exact hmaps''

/-- `handleClient_` maps no inputs. -/
theorem Serving.inputMaps_eq {sim : NetworkSimulator El1258} (h : Serving sim) :
    sim.inputMaps = [] := by
  induction h with
  | connected slavesCount blank => exact prepare_inputMaps slavesCount _
  | answered _ hserve ih => exact serve_inputMaps ih hserve
  | reconnected slavesCount _ ih => exact (prepare_inputMaps slavesCount _).trans ih

end SlavesEndpoint

end InputMaps

/-! ## One message -/

namespace SlavesEndpoint

section Serve

variable {σ : Type} [SlaveDevice σ]

/-- A message that was sent whole is received whole, whatever its chunks are. -/
theorem readExact_of_append {w : Wire UInt8} {got tail : List UInt8}
    (hw : w.flatten = got ++ tail) :
    ∃ w', readExact got.length w = (true, got, w') ∧ w'.flatten = tail := by
  obtain ⟨w', hread, hrest, -⟩ := Wire.receive_of_append hw (fun h : true = false => nomatch h)
  exact ⟨w', hread, hrest⟩

/-- The first read of a round gets the length of the message. -/
theorem readExact_prefix {w : Wire UInt8} {frame tail : List UInt8}
    (hw : w.flatten = MasterSocket.write frame ++ tail) :
    ∃ w', readExact 2 w = (true, lengthPrefix frame.length, w') ∧ w'.flatten = frame ++ tail := by
  rw [MasterSocket.write, List.append_assoc] at hw
  exact readExact_of_append hw

/-- The two checks of the length, on a length that was sent. -/
theorem length_rejected_iff {n : Nat} (hpos : 1 ≤ n) (hmax : n ≤ 1514) :
    (UInt16.ofNat n = 0 ∨ 1500 < UInt16.ofNat n) ↔ 1500 < n := by
  have hn : (UInt16.ofNat n).toNat = n := toNat_ofNat_of_le (by omega)
  have hzero : UInt16.ofNat n ≠ 0 := by
    rw [Ne, ← UInt16.toNat_inj, hn]
    show ¬n = 0
    omega
  have hlt : 1500 < UInt16.ofNat n ↔ 1500 < n := by
    rw [UInt16.lt_iff_toNat_lt, hn]
    exact Iff.rfl
  rw [hlt]
  exact or_iff_right hzero

/-- A message longer than the bound closes the connection. -/
theorem serve_of_length_gt {frame tail : List UInt8} {w : Wire UInt8}
    (hw : w.flatten = MasterSocket.write frame ++ tail) (hlong : 1500 < frame.length)
    (hmax : frame.length ≤ 1514) (rest : FrameBuffer) (sim : NetworkSimulator σ) :
    serve rest sim w = .closed := by
  obtain ⟨w', hprefix, -⟩ := readExact_prefix hw
  have hrejected := (length_rejected_iff (by omega) hmax).mpr hlong
  rw [serve, hprefix]
  simp only [ntohs_lengthPrefix, if_pos hrejected]

/-- A message up to the bound is received and processed. -/
theorem serve_of_length_le {frame tail : List UInt8} {w : Wire UInt8}
    (hw : w.flatten = MasterSocket.write frame ++ tail) (hpos : 1 ≤ frame.length)
    (hmax : frame.length ≤ 1500) (rest : FrameBuffer) (sim : NetworkSimulator σ) :
    ∃ w', w'.flatten = tail ∧ serve rest sim w =
      match processMessage sim rest frame with
      | none => .undefined
      | some (sim, buf) =>
        match sim.runOnce with
        | none => .undefined
        | some sim => .answered sim (MasterSocket.write buf) w' := by
  obtain ⟨w', hprefix, hw'⟩ := readExact_prefix hw
  obtain ⟨w'', hbody, hw''⟩ := readExact_of_append hw'
  have haccepted : ¬(UInt16.ofNat frame.length = 0 ∨ 1500 < UInt16.ofNat frame.length) := by
    rw [length_rejected_iff hpos (by omega)]
    omega
  have hlen : (UInt16.ofNat frame.length).toNat = frame.length := toNat_ofNat_of_le (by omega)
  refine ⟨w'', hw'', ?_⟩
  rw [serve, hprefix]
  simp only [ntohs_lengthPrefix, if_neg haccepted, hlen, hbody]
  rfl

/-- A message whose datagrams stay inside the frame buffer is answered with a
message of the same length. -/
theorem serve_of_chainFits {frame tail : List UInt8} {w : Wire UInt8}
    (hw : w.flatten = MasterSocket.write frame ++ tail) (hpos : 1 ≤ frame.length)
    (hmax : frame.length ≤ 1500) {rest : FrameBuffer}
    (hchain : ChainFits (frameBuffer rest frame) 16) {sim : NetworkSimulator σ}
    (hmaps : sim.inputMaps = []) :
    ∃ sim' out w', serve rest sim w = .answered sim' (MasterSocket.write out) w' ∧
      out.length = frame.length ∧ w'.flatten = tail := by
  obtain ⟨w', hw', hserve⟩ := serve_of_length_le hw hpos hmax rest sim
  obtain ⟨ds, hds⟩ := hchain
  obtain ⟨out, hprocess, hlength⟩ := processMessage_of_chain hds sim
  have hprocessed := (AccessStep.processFrame sim ds).inputMaps_eq.trans hmaps
  obtain ⟨sim', hrun, -⟩ := runOnce_of_inputMaps_nil hprocessed
  refine ⟨sim', out, w', ?_, hlength, hw'⟩
  rw [hserve, hprocess]
  simp only [hrun]

/-- The code has no meaning on a message with a datagram outside the buffer. -/
theorem serve_of_not_chainFits {frame tail : List UInt8} {w : Wire UInt8}
    (hw : w.flatten = MasterSocket.write frame ++ tail) (hpos : 1 ≤ frame.length)
    (hmax : frame.length ≤ 1500) {rest : FrameBuffer}
    (hchain : ¬ChainFits (frameBuffer rest frame) 16) (sim : NetworkSimulator σ) :
    serve rest sim w = .undefined := by
  obtain ⟨w', -, hserve⟩ := serve_of_length_le hw hpos hmax rest sim
  have hnone : processMessage sim rest frame = none := by
    rw [← Option.not_isSome_iff_eq_none, isSome_processMessage]
    exact hchain
  rw [hserve, hnone]

/-! ## The round trip -/

/-- The frame that `MasterSocket::write` sends is answered, and the connection is
kept, with what was sent behind the frame still to come.  `MasterSocket::read`
returns the answer, of the same length, into a buffer of 1518 bytes.  Both
directions may be cut into any chunks; no receive of the master times out. -/
def RoundTrip (rest : FrameBuffer) (sim : NetworkSimulator σ) (frame : List UInt8) : Prop :=
  ∀ (w : Wire UInt8) (tail : List UInt8), w.flatten = MasterSocket.write frame ++ tail →
    ∃ sim' reply w', serve rest sim w = .answered sim' reply w' ∧ w'.flatten = tail ∧
      ∀ v : Wire UInt8, v.flatten = reply → [] ∉ v →
        ∃ bytes v', MasterSocket.read 1518 v = ((frame.length : Int), bytes, v') ∧
          bytes.length = frame.length

end Serve

end SlavesEndpoint

/-- `read` returns a message that fits into the buffer. -/
theorem MasterSocket.read_of_write {out : List UInt8} {v : Wire UInt8}
    (hv : v.flatten = MasterSocket.write out) (htimeouts : [] ∉ v) (hmax : out.length ≤ 1518) :
    ∃ v', MasterSocket.read 1518 v = ((out.length : Int), out, v') := by
  have hnone : false = false → [] ∉ v := fun _ => htimeouts
  obtain ⟨v', hprefix, hv', htimeouts'⟩ := Wire.receive_of_append hv hnone
  have hbody : v'.flatten = out ++ [] := by rw [hv', List.append_nil]
  obtain ⟨v'', hread, -, -⟩ := Wire.receive_of_append hbody htimeouts'
  have hlen := toNat_ofNat_of_le hmax
  have hroom : ¬UInt16.ofNat 1518 < UInt16.ofNat out.length := by
    rw [UInt16.lt_iff_toNat_lt, hlen, toNat_ofNat_of_le (Nat.le_refl _)]
    omega
  have hprefix' : MasterSocket.readAll 2 v = (true, lengthPrefix out.length, v') := hprefix
  have hread' : MasterSocket.readAll out.length v' = (true, out, v'') := hread
  refine ⟨v'', ?_⟩
  rw [MasterSocket.read, hprefix']
  simp only [ntohs_lengthPrefix, if_neg hroom, hlen, hread']

/-- In every state of the server, a frame of 1 to 1514 bytes makes the round trip
if and only if it has at most 1500 bytes and its datagrams stay inside the frame
buffer. -/
theorem SlavesEndpoint.roundTrip_iff {sim : NetworkSimulator El1258}
    (hserving : SlavesEndpoint.Serving sim) (rest : FrameBuffer) (frame : List UInt8)
    (hpos : 1 ≤ frame.length) (hmax : frame.length ≤ 1514) :
    SlavesEndpoint.RoundTrip rest sim frame ↔
      frame.length ≤ 1500 ∧ ChainFits (frameBuffer rest frame) 16 := by
  constructor
  · intro h
    have hw : [MasterSocket.write frame].flatten = MasterSocket.write frame ++ [] := by simp
    obtain ⟨sim', reply, w', hserve, -, -⟩ := h [MasterSocket.write frame] [] hw
    have hle : frame.length ≤ 1500 := by
      by_contra hlong
      rw [SlavesEndpoint.serve_of_length_gt hw (by omega) hmax] at hserve
      cases hserve
    refine ⟨hle, ?_⟩
    by_contra hchain
    rw [SlavesEndpoint.serve_of_not_chainFits hw hpos hle hchain] at hserve
    cases hserve
  · intro h w tail hw
    obtain ⟨sim', out, w', hserve, hlength, hw'⟩ :=
      SlavesEndpoint.serve_of_chainFits hw hpos h.1 h.2 hserving.inputMaps_eq
    refine ⟨sim', MasterSocket.write out, w', hserve, hw', ?_⟩
    intro v hv htimeouts
    obtain ⟨v', hread⟩ := MasterSocket.read_of_write hv htimeouts (by omega)
    rw [hlength] at hread
    exact ⟨out, v', hread, hlength⟩

/-- The simulator of a server with one slave, before the first message. -/
def oneSlaveServer : NetworkSimulator El1258 :=
  SlavesEndpoint.prepare 1 (NetworkSimulator.new (El1258Slave.new 0 0 0))

/-- A frame of `n` zero bytes; its only datagram is a NOP without data. -/
def zeroFrame (n : Nat) : List UInt8 := List.replicate n 0

theorem chainFits_zeroFrame (n : Nat) :
    ChainFits (frameBuffer (Cells.fill 0) (zeroFrame n)) 16 := by
  have hget : ∀ j, (frameBuffer (Cells.fill 0) (zeroFrame n)).get j = 0 := by
    intro j
    rw [frameBuffer, Cells.get_store, Cells.get_fill, zeroFrame]
    split
    · rw [List.getD_eq_getElem?_getD, List.getElem?_replicate]
      split <;> rfl
    · split <;> rfl
  have hword : (frameBuffer (Cells.fill 0) (zeroFrame n)).word (16 + 6) = 0 := by
    rw [Cells.word, hget, hget]
    rfl
  refine ⟨_, .last ?_ ?_⟩
  · rw [FrameBuffer.next, FrameBuffer.len, hword]
    decide
  · rw [FrameBuffer.multiple, hword]
    rfl

/-- A frame of the minimal Ethernet size makes the round trip. -/
theorem SlavesEndpoint.roundTrip_minimal :
    SlavesEndpoint.RoundTrip (Cells.fill 0) oneSlaveServer (zeroFrame 60) :=
  (SlavesEndpoint.roundTrip_iff (.connected 1 _) (Cells.fill 0) (zeroFrame 60) (by decide)
    (by decide)).mpr ⟨by decide, chainFits_zeroFrame 60⟩

/-- A full Ethernet frame does not: the server closes the connection. -/
theorem SlavesEndpoint.roundTrip_full_false :
    (zeroFrame 1514).length = 1514 ∧
      ChainFits (frameBuffer (Cells.fill 0) (zeroFrame 1514)) 16 ∧
      ¬SlavesEndpoint.RoundTrip (Cells.fill 0) oneSlaveServer (zeroFrame 1514) := by
  have hlength : (zeroFrame 1514).length = 1514 := List.length_replicate
  refine ⟨hlength, chainFits_zeroFrame 1514, ?_⟩
  intro h
  have hw : [MasterSocket.write (zeroFrame 1514)].flatten =
      MasterSocket.write (zeroFrame 1514) ++ [] := by
    rw [List.flatten_singleton, List.append_nil]
  obtain ⟨sim', reply, w', hserve, -, -⟩ := h [MasterSocket.write (zeroFrame 1514)] [] hw
  rw [SlavesEndpoint.serve_of_length_gt hw (by omega) (by omega)] at hserve
  cases hserve

end EthercatSim
