import EthercatSim.Network.Simulator
import EthercatSim.VirtualSlave.Steps

/-!
# The two datagram interpreters

`SimSocket::write` and `SlavesEndpoint::processFrame_` each walk over the
datagrams of a frame, let the simulator carry out the command, and store a
working counter.  Both are modelled here case by case, each from its own
source.

Of the prebuilt `kickcat::Frame` only `peekDatagram` is used: it yields the
datagrams of the frame in order, so a frame is the list of its datagrams.  A
datagram that is yielded has a working counter, so the test `if (wkc)` is
always true.
-/

namespace EthercatSim

open Kickcat Bytes

/-- What `peekDatagram` yields: the command and the address of the header, the
data, whose length is the header field `len`, and the working counter. -/
structure Datagram where
  command : Command
  address : UInt32
  data : List UInt8
  wkc : UInt16
  deriving DecidableEq, Repr

/-- `static_cast<uint16_t>` of a `size_t`. -/
def castUInt16 (n : Nat) : UInt16 := UInt16.ofNat n

variable {σ : Type} [SlaveDevice σ]

/-- The loop over the slave indices of BWR and BRW, which is the same text in
both functions.  `indices` are the indices still to visit. -/
def broadcastLoop (ado : UInt16) (data : List UInt8) :
    List Nat → UInt16 → NetworkSimulator σ → UInt16 × NetworkSimulator σ
  | [], okc, sim => (okc, sim)
  | idx :: indices, okc, sim =>
    let (ok, sim) := sim.writeToSlaveByIndex idx ado data
    broadcastLoop ado data indices (if ok then okc + 1 else okc) sim

/-- The loop from index 0 up to `onlineSlaveCount`. -/
def broadcastWrite (sim : NetworkSimulator σ) (ado : UInt16) (data : List UInt8) :
    UInt16 × NetworkSimulator σ :=
  broadcastLoop ado data (List.range sim.onlineSlaveCount) 0 sim

/-- The working counter of an access with one target. -/
def ackOf (ok : Bool) : UInt16 := if ok then 1 else 0

namespace SimSocket

/-- The index that an auto-increment position names. -/
def apIndex (pos : UInt16) : Nat :=
  if pos = 0 then 0
  else if pos &&& 0x8000 ≠ 0 then (0 - pos).toNat
  else pos.toNat

/-- The body of the loop of `SimSocket::write`. -/
def interpret (sim : NetworkSimulator σ) (d : Datagram) : NetworkSimulator σ × Datagram :=
  match d.command with
  | .BRD => (sim, { d with wkc := castUInt16 sim.onlineSlaveCount })
  | .BWR | .BRW =>
    let (_, ado) := extractAddress d.address
    let (okc, sim) := broadcastWrite sim ado d.data
    (sim, { d with wkc := okc })
  | .FPRD =>
    let (adp, ado) := extractAddress d.address
    let (ok, data, sim) := sim.readFromSlave adp ado d.data
    (sim, { d with data, wkc := ackOf ok })
  | .FPWR =>
    let (adp, ado) := extractAddress d.address
    let (ok, sim) := sim.writeToSlave adp ado d.data
    (sim, { d with wkc := ackOf ok })
  | .FPRW =>
    -- only the write is made
    let (adp, ado) := extractAddress d.address
    let (ok, sim) := sim.writeToSlave adp ado d.data
    (sim, { d with wkc := ackOf ok })
  | .APRD =>
    let (pos, ado) := extractAddress d.address
    let (ok, data, sim) := sim.readFromSlaveByIndex (apIndex pos) ado d.data
    (sim, { d with data, wkc := ackOf ok })
  | .APWR =>
    let (pos, ado) := extractAddress d.address
    let (ok, sim) := sim.writeToSlaveByIndex (apIndex pos) ado d.data
    (sim, { d with wkc := ackOf ok })
  | .APRW =>
    let (pos, ado) := extractAddress d.address
    let (ok, sim) := sim.writeToSlaveByIndex (apIndex pos) ado d.data
    (sim, { d with wkc := ackOf ok })
  | .LRD =>
    let (ok, data) := sim.readLogical d.address d.data
    (sim, { d with data, wkc := ackOf ok })
  | .LWR =>
    let (ok, sim) := sim.writeLogical d.address d.data
    (sim, { d with wkc := ackOf ok })
  | .LRW =>
    let (ok, sim) := sim.writeLogical d.address d.data
    (sim, { d with wkc := ackOf ok })
  | _ => (sim, { d with wkc := ackOf (0 < sim.onlineSlaveCount) })

/-- The loop of `SimSocket::write` over the datagrams of the frame. -/
def interpretAll (sim : NetworkSimulator σ) :
    List Datagram → NetworkSimulator σ × List Datagram
  | [] => (sim, [])
  | d :: ds =>
    let (sim, d) := interpret sim d
    let (sim, ds) := interpretAll sim ds
    (sim, d :: ds)

/-- `SimSocket::write` with a simulator: the flag is false for the return value
-1.  `bytesOf` gives the bytes of the frame that holds the datagrams. -/
def write (bytesOf : List Datagram → List UInt8) (sim : NetworkSimulator σ)
    (frame : List Datagram) (now : Int) : Bool × NetworkSimulator σ × List Datagram :=
  if !sim.linkUp then (false, sim, frame)
  else
    let (sim, frame) := interpretAll sim frame
    let (ok, sim) := sim.sendFrame (bytesOf frame) now
    (ok, sim, frame)

end SimSocket

namespace SlavesEndpoint

/-- The index that an auto-increment position names. -/
def apIndex (pos : UInt16) : Nat :=
  if pos &&& 0x8000 ≠ 0 then (0 - pos).toNat else pos.toNat

/-- The working counter that stands for the online slaves, never zero. -/
def countAck (sim : NetworkSimulator σ) : UInt16 :=
  let n := castUInt16 sim.onlineSlaveCount
  if n = 0 then 1 else n

/-- The body of the loop of `SlavesEndpoint::processFrame_`. -/
def interpret (sim : NetworkSimulator σ) (d : Datagram) : NetworkSimulator σ × Datagram :=
  match d.command with
  | .NOP => (sim, { d with wkc := 0 })
  | .BRD => (sim, { d with wkc := countAck sim })
  | .BWR | .BRW =>
    let (_, ado) := extractAddress d.address
    let (okc, sim) := broadcastWrite sim ado d.data
    (sim, { d with wkc := okc })
  | .FPRD | .FPWR | .FPRW =>
    let (adp, ado) := extractAddress d.address
    if d.command = .FPRD then
      let (ok, data, sim) := sim.readFromSlave adp ado d.data
      (sim, { d with data, wkc := ackOf ok })
    else
      let (ok, sim) := sim.writeToSlave adp ado d.data
      (sim, { d with wkc := ackOf ok })
  | .APRD | .APWR | .APRW =>
    let (pos, ado) := extractAddress d.address
    if d.command = .APRD then
      let (ok, data, sim) := sim.readFromSlaveByIndex (apIndex pos) ado d.data
      (sim, { d with data, wkc := ackOf ok })
    else
      let (ok, sim) := sim.writeToSlaveByIndex (apIndex pos) ado d.data
      (sim, { d with wkc := ackOf ok })
  | .LRD | .LWR | .LRW =>
    if d.command = .LRD then
      let (ok, data) := sim.readLogical d.address d.data
      (sim, { d with data, wkc := ackOf ok })
    else
      let (ok, sim) := sim.writeLogical d.address d.data
      (sim, { d with wkc := ackOf ok })
  | .ARMW | .FRMW => (sim, { d with wkc := countAck sim })
  | .OTHER _ => (sim, { d with wkc := ackOf (0 < sim.onlineSlaveCount) })

/-- The loop of `SlavesEndpoint::processFrame_` over the datagrams of the
frame. -/
def processFrame (sim : NetworkSimulator σ) :
    List Datagram → NetworkSimulator σ × List Datagram
  | [] => (sim, [])
  | d :: ds =>
    let (sim, d) := interpret sim d
    let (sim, ds) := processFrame sim ds
    (sim, d :: ds)

theorem processFrame_cons (sim : NetworkSimulator σ) (d : Datagram) (ds : List Datagram) :
    processFrame sim (d :: ds) =
      ((processFrame (interpret sim d).1 ds).1,
        (interpret sim d).2 :: (processFrame (interpret sim d).1 ds).2) := rfl

end SlavesEndpoint

/-! ## What an access leaves alone -/

namespace NetworkSimulator

/-- The simulator with its slave objects and its logical memory replaced. -/
def outsideAccess (sim : NetworkSimulator σ) (objects : SlaveRef → VirtualSlave σ) :
    NetworkSimulator σ :=
  { sim with objects, logical := Cells.fill 0 }

end NetworkSimulator

/-- What every bus access leaves alone: the registry and the queue, and of each
slave whether it is online. -/
structure AccessStep (sim sim' : NetworkSimulator σ) : Prop where
  frame : ∀ objects, sim'.outsideAccess objects = sim.outsideAccess objects
  online : ∀ ref, (sim'.objects ref).online = (sim.objects ref).online

namespace AccessStep

omit [SlaveDevice σ] in
theorem refl (sim : NetworkSimulator σ) : AccessStep sim sim := ⟨fun _ => rfl, fun _ => rfl⟩

omit [SlaveDevice σ] in
theorem trans {sim sim' sim'' : NetworkSimulator σ} (h : AccessStep sim sim')
    (h' : AccessStep sim' sim'') : AccessStep sim sim'' :=
  ⟨fun objects => (h'.frame objects).trans (h.frame objects),
    fun ref => (h'.online ref).trans (h.online ref)⟩

omit [SlaveDevice σ] in
theorem slaves_eq {sim sim' : NetworkSimulator σ} (h : AccessStep sim sim') :
    sim'.slaves = sim.slaves := by
  have hframe := congrArg NetworkSimulator.slaves (h.frame sim.objects)
  exact hframe

omit [SlaveDevice σ] in
theorem inputMaps_eq {sim sim' : NetworkSimulator σ} (h : AccessStep sim sim') :
    sim'.inputMaps = sim.inputMaps := by
  have hframe := congrArg NetworkSimulator.inputMaps (h.frame sim.objects)
  exact hframe

omit [SlaveDevice σ] in
theorem virtualSlaveCount_eq {sim sim' : NetworkSimulator σ} (h : AccessStep sim sim') :
    sim'.virtualSlaveCount = sim.virtualSlaveCount := by
  have hframe := congrArg NetworkSimulator.virtualSlaveCount (h.frame sim.objects)
  exact hframe

omit [SlaveDevice σ] in
theorem isOnline_eq {sim sim' : NetworkSimulator σ} (h : AccessStep sim sim') :
    sim'.isOnline = sim.isOnline := by
  funext slot
  cases slot with
  | none => rfl
  | some ref => exact h.online ref

omit [SlaveDevice σ] in
/-- The number of online slaves is the same all along a frame. -/
theorem onlineSlaveCount_eq {sim sim' : NetworkSimulator σ} (h : AccessStep sim sim') :
    sim'.onlineSlaveCount = sim.onlineSlaveCount := by
  simp only [NetworkSimulator.onlineSlaveCount, h.slaves_eq, h.isOnline_eq,
    h.virtualSlaveCount_eq]

omit [SlaveDevice σ] in
theorem setObject {sim : NetworkSimulator σ} {ref : SlaveRef} {s : VirtualSlave σ}
    (h : s.online = (sim.objects ref).online) : AccessStep sim (sim.setObject ref s) := by
  refine ⟨fun _ => rfl, ?_⟩
  intro r
  show (if r = ref then s else sim.objects r).online = (sim.objects r).online
  by_cases hr : r = ref
  · rw [if_pos hr, h, hr]
  · rw [if_neg hr]

omit [SlaveDevice σ] in
theorem readObject (sim : NetworkSimulator σ) (ref : SlaveRef) (reg : UInt16)
    (out : List UInt8) : AccessStep sim (sim.readObject ref reg out).2.2 :=
  setObject (VirtualSlave.read_online _ reg out)

theorem writeObject (sim : NetworkSimulator σ) (ref : SlaveRef) (reg : UInt16)
    (data : List UInt8) : AccessStep sim (sim.writeObject ref reg data).2 :=
  setObject (VirtualSlave.write_online _ reg data)

theorem writeToSlave (sim : NetworkSimulator σ) (addr reg : UInt16) (data : List UInt8) :
    AccessStep sim (sim.writeToSlave addr reg data).2 := by
  unfold NetworkSimulator.writeToSlave
  split
  · exact writeObject sim _ reg data
  · exact refl sim

theorem writeToSlaveByIndex (sim : NetworkSimulator σ) (index : Nat) (reg : UInt16)
    (data : List UInt8) : AccessStep sim (sim.writeToSlaveByIndex index reg data).2 := by
  unfold NetworkSimulator.writeToSlaveByIndex
  split
  · split
    · exact writeObject sim _ reg data
    · exact refl sim
  · exact refl sim

omit [SlaveDevice σ] in
theorem readFromSlave (sim : NetworkSimulator σ) (addr reg : UInt16) (out : List UInt8) :
    AccessStep sim (sim.readFromSlave addr reg out).2.2 := by
  unfold NetworkSimulator.readFromSlave
  split
  · exact readObject sim _ reg out
  · split <;> exact refl sim

omit [SlaveDevice σ] in
theorem readFromSlaveByIndex (sim : NetworkSimulator σ) (index : Nat) (reg : UInt16)
    (out : List UInt8) : AccessStep sim (sim.readFromSlaveByIndex index reg out).2.2 := by
  unfold NetworkSimulator.readFromSlaveByIndex
  split
  · split
    · exact readObject sim _ reg out
    · exact refl sim
  · exact refl sim

omit [SlaveDevice σ] in
theorem writeLogical (sim : NetworkSimulator σ) (addr : UInt32) (data : List UInt8) :
    AccessStep sim (sim.writeLogical addr data).2 := by
  unfold NetworkSimulator.writeLogical
  split
  · exact refl sim
  · exact ⟨fun _ => rfl, fun _ => rfl⟩

theorem broadcastLoop (ado : UInt16) (data : List UInt8) (indices : List Nat) (okc : UInt16)
    (sim : NetworkSimulator σ) :
    AccessStep sim (broadcastLoop ado data indices okc sim).2 := by
  induction indices generalizing okc sim with
  | nil => exact refl sim
  | cons idx indices ih =>
    rw [EthercatSim.broadcastLoop]
    exact (writeToSlaveByIndex sim idx ado data).trans (ih _ _)

/-- A datagram is at most one access, or a broadcast. -/
theorem interpret (sim : NetworkSimulator σ) (d : Datagram) :
    AccessStep sim (SlavesEndpoint.interpret sim d).1 := by
  cases hc : d.command <;> simp only [SlavesEndpoint.interpret, hc, reduceCtorEq, if_true, if_false]
  case FPRD => exact readFromSlave sim _ _ _
  case FPWR => exact writeToSlave sim _ _ _
  case FPRW => exact writeToSlave sim _ _ _
  case APRD => exact readFromSlaveByIndex sim _ _ _
  case APWR => exact writeToSlaveByIndex sim _ _ _
  case APRW => exact writeToSlaveByIndex sim _ _ _
  case BWR => exact broadcastLoop _ _ _ _ sim
  case BRW => exact broadcastLoop _ _ _ _ sim
  case LWR => exact writeLogical sim _ _
  case LRW => exact writeLogical sim _ _
  all_goals exact refl sim

theorem processFrame (sim : NetworkSimulator σ) (frame : List Datagram) :
    AccessStep sim (SlavesEndpoint.processFrame sim frame).1 := by
  induction frame generalizing sim with
  | nil => exact refl sim
  | cons d ds ih => exact (interpret sim d).trans (ih _)

end AccessStep

end EthercatSim
