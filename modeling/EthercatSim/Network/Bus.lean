import EthercatSim.Lib.References
import EthercatSim.Network.AddressAssignment

/-!
# The bus behind the simulator

The simulator keeps its slaves as objects on a heap and a registry of references to them.
A master sees none of this.  What is at the other end of its line is a `Bus`: slaves in a
row, and the image that the logical commands read and write.

`Bus.interpret` says what a datagram does to a bus.  It knows positions and station
addresses only.

* `Represents`: the simulator holds the slaves of a bus, each in an object of its own.
* `find_target`: the two lookups of the simulator find the slave at the position that the
  bus gives.
* `Represents.interpret` is the step: a datagram comes back the same from both, and the
  simulator still holds the bus.
* `Represents.serveFrames`: so do all datagrams of all frames, with the routines between
  them.
-/

namespace EthercatSim

open Kickcat NetworkSimulator References

variable {σ : Type}

/-- Slaves in a row, and the process image. -/
structure Bus (σ : Type) where
  slaves : List (VirtualSlave σ)
  image : Cells UInt8 16384

namespace Bus

/-! ## What a datagram does -/

/-- How many slaves are online. -/
def online (b : Bus σ) : Nat := b.slaves.countP fun s => s.online

/-- The position that an access is for: that of the first online slave with the station
address, or the given one when the slave there is online. -/
def position (b : Bus σ) : BusAccess → Option Nat
  | .readStation addr _ _ | .writeStation addr _ _ =>
    b.slaves.findIdx? fun s => s.online && s.address == addr
  | .readIndex i _ _ | .writeIndex i _ _ =>
    if b.slaves[i]?.any fun s => s.online then some i else none

section Interpret

variable [SlaveDevice σ]

/-- The access is made to the slave at its position.  Without one it fails. -/
def perform (b : Bus σ) (a : BusAccess) : Bool × List UInt8 × Bus σ :=
  match (b.position a).bind fun i => b.slaves[i]?.map (i, ·) with
  | some (i, s) =>
    let (ok, bytes, s) := a.onSlave s
    (ok, bytes, { b with slaves := b.slaves.set i s })
  | none => (false, a.buffer, b)

theorem perform_of_position {b : Bus σ} {a : BusAccess} {i : Nat} {s : VirtualSlave σ}
    (hposition : b.position a = some i) (hslave : b.slaves[i]? = some s) :
    b.perform a = ((a.onSlave s).1, (a.onSlave s).2.1,
      { b with slaves := b.slaves.set i (a.onSlave s).2.2 }) := by
  have hfound : ((b.position a).bind fun i => b.slaves[i]?.map (i, ·)) = some (i, s) := by
    rw [hposition]
    show b.slaves[i]?.map _ = _
    rw [hslave]
    rfl
  rw [perform, hfound]

/-- A broadcast write goes to the online slaves among the first positions, as many as there
are online slaves.  The count is that of the slaves that accept it. -/
def broadcast (b : Bus σ) (ado : UInt16) (data : List UInt8) : UInt16 × Bus σ :=
  (castUInt16 ((b.slaves.take b.online).countP fun s => s.online && (s.write ado data).1),
    { b with
      slaves := b.slaves.mapIdx fun i s =>
        if i < b.online ∧ s.online = true then (s.write ado data).2 else s })

/-- The count of the online slaves as a working counter that is never zero. -/
def countAck (b : Bus σ) : UInt16 :=
  if castUInt16 b.online = 0 then 1 else castUInt16 b.online

/-- The bus and the datagram behind it. -/
def interpret (b : Bus σ) (d : Datagram) : Bus σ × Datagram :=
  match d.access with
  | some a =>
    let (ok, data, b) := b.perform a
    (b, { d with data, wkc := ackOf ok })
  | none =>
    match d.command with
    | .NOP => (b, { d with wkc := 0 })
    | .BWR | .BRW =>
      let (wkc, b) := b.broadcast (extractAddress d.address).2 d.data
      (b, { d with wkc })
    | .LRD =>
      if d.address.toNat + d.data.length ≤ 16384 then
        (b, { d with data := b.image.load d.address.toNat d.data.length, wkc := 1 })
      else (b, { d with wkc := 0 })
    | .LWR | .LRW =>
      if d.address.toNat + d.data.length ≤ 16384 then
        ({ b with image := b.image.store d.address.toNat d.data }, { d with wkc := 1 })
      else (b, { d with wkc := 0 })
    | .BRD | .ARMW | .FRMW => (b, { d with wkc := b.countAck })
    | _ => (b, { d with wkc := ackOf (0 < b.online) })

/-- The datagrams of a frame, in order. -/
def processFrame (b : Bus σ) : List Datagram → Bus σ × List Datagram
  | [] => (b, [])
  | d :: ds =>
    let (b, d) := b.interpret d
    let (b, ds) := processFrame b ds
    (b, d :: ds)

end Interpret

/-- Every online slave runs its routine. -/
def runOnce (b : Bus σ) : Bus σ :=
  { b with slaves := b.slaves.map fun s => if s.online then s.routine else s }

/-- One frame after the other, each followed by the routines. -/
def serveFrames [SlaveDevice σ] (b : Bus σ) : List (List Datagram) → Bus σ × List (List Datagram)
  | [] => (b, [])
  | frame :: frames =>
    let (b, frame) := b.processFrame frame
    let (b, frames) := serveFrames b.runOnce frames
    (b, frame :: frames)

/-- What the datagrams behind others find. -/
theorem processFrame_append [SlaveDevice σ] (b : Bus σ) (xs ys : List Datagram) :
    (b.processFrame (xs ++ ys)).1 = ((b.processFrame xs).1.processFrame ys).1 := by
  induction xs generalizing b with
  | nil => rfl
  | cons d xs ih => exact ih (b.interpret d).1

/-- A datagram behind others in its frame. -/
theorem processFrame_getElem? [SlaveDevice σ] (b : Bus σ) (before : List Datagram) (d : Datagram)
    (after : List Datagram) :
    (b.processFrame (before ++ d :: after)).2[before.length]? =
      some ((b.processFrame before).1.interpret d).2 := by
  induction before generalizing b with
  | nil => rfl
  | cons x before ih =>
    show ((b.interpret x).2 :: ((b.interpret x).1.processFrame (before ++ d :: after)).2)[_]? = _
    rw [List.length_cons, List.getElem?_cons_succ, ih]
    rfl

theorem serveFrames_append [SlaveDevice σ] (b : Bus σ) (xs ys : List (List Datagram)) :
    b.serveFrames (xs ++ ys) =
      (((b.serveFrames xs).1.serveFrames ys).1,
        (b.serveFrames xs).2 ++ ((b.serveFrames xs).1.serveFrames ys).2) := by
  induction xs generalizing b with
  | nil => rfl
  | cons frame xs ih =>
    have hrest := ih (b.processFrame frame).1.runOnce
    show (((b.processFrame frame).1.runOnce.serveFrames (xs ++ ys)).1,
      (b.processFrame frame).2 :: ((b.processFrame frame).1.runOnce.serveFrames (xs ++ ys)).2) = _
    rw [hrest]
    rfl

/-- Every frame comes back. -/
theorem length_serveFrames [SlaveDevice σ] (b : Bus σ) (frames : List (List Datagram)) :
    (b.serveFrames frames).2.length = frames.length := by
  induction frames generalizing b with
  | nil => rfl
  | cons frame frames ih => exact congrArg (· + 1) (ih (b.processFrame frame).1.runOnce)

/-- The first frames come back as they do when no others follow. -/
theorem take_serveFrames [SlaveDevice σ] (b : Bus σ) (frames : List (List Datagram)) (k : Nat) :
    (b.serveFrames frames).2.take k = (b.serveFrames (frames.take k)).2 := by
  induction frames generalizing b k with
  | nil => rw [List.take_nil, serveFrames, List.take_nil]
  | cons frame frames ih =>
    cases k with
    | zero => rfl
    | succ k => exact congrArg (_ :: ·) (ih (b.processFrame frame).1.runOnce k)

end Bus

/-- The rounds of `handleClient_`, on frames that are given by their datagrams: `processFrame_`
and `runOnce`. -/
def SlavesEndpoint.serveFrames [SlaveDevice σ] (sim : NetworkSimulator σ) :
    List (List Datagram) → Option (NetworkSimulator σ × List (List Datagram))
  | [] => some (sim, [])
  | frame :: frames => do
    let (sim, frame) := processFrame sim frame
    let sim ← sim.runOnce
    let (sim, frames) ← serveFrames sim frames
    return (sim, frame :: frames)

/-! ## The simulator holds a bus -/

/-- The objects behind `refs`, all different, are the slaves of the bus, and no inputs are
mapped. -/
structure Represents (sim : NetworkSimulator σ) (refs : List SlaveRef) (b : Bus σ) : Prop where
  slaves : sim.slaves = refs.map some
  nodup : refs.Nodup
  counted : sim.Counted
  unmapped : sim.inputMaps = []
  values : values sim.objects refs = b.slaves
  image : sim.logical = b.image

section Lookup

variable {sim : NetworkSimulator σ} {refs : List SlaveRef} {b : Bus σ}

theorem Represents.slave (h : Represents sim refs b) {i : Nat} {ref : SlaveRef}
    (href : refs[i]? = some ref) : b.slaves[i]? = some (sim.objects ref) := by
  rw [← h.values, getElem?_values href]

theorem Represents.length_slaves (h : Represents sim refs b) : b.slaves.length = refs.length := by
  rw [← h.values, length_values]

/-- Both count the same online slaves. -/
theorem Represents.onlineSlaveCount_eq (h : Represents sim refs b) :
    sim.onlineSlaveCount = b.online := by
  rw [h.counted.onlineSlaveCount_eq, onlineCount, h.slaves, List.countP_map, Bus.online,
    ← h.values, countP_values]
  rfl

/-- The slave that the simulator finds is the one at the position. -/
theorem Represents.target_eq (h : Represents sim refs b) (a : BusAccess) :
    a.target sim = (b.position a).bind fun i => refs[i]? := by
  have hstation : ∀ addr, sim.getSlaveByStationAddress addr =
      (b.slaves.findIdx? fun s => s.online && s.address == addr).bind fun i => refs[i]? := by
    intro addr
    have hguard : sim.answeringRef addr ∘ some = Option.guard fun r =>
        (sim.objects r).online && (sim.objects r).address == addr := by
      funext r
      by_cases hr : sim.Answers addr r
      · simp [answeringRef, Option.guard, if_pos hr, hr.1, hr.2]
      · have hfails : ((sim.objects r).online && (sim.objects r).address == addr) = false := by
          simpa [Answers] using hr
        simp [answeringRef, Option.guard, if_neg hr, hfails]
    rw [getSlaveByStationAddress_eq, h.slaves, List.findSome?_map, hguard,
      ← List.find?_eq_findSome?_guard, List.find?_eq_bind_findIdx?_getElem?, ← h.values,
      References.values, List.findIdx?_map]
    rfl
  have hindex : ∀ i, sim.writeTarget i =
      (if b.slaves[i]?.any fun s => s.online then some i else none).bind fun i => refs[i]? := by
    intro i
    rw [writeTarget_eq, h.slaves, List.getElem?_map]
    cases hr : refs[i]? with
    | none =>
      split
      · exact hr.symm
      · rfl
    | some r =>
      rw [h.slave hr]
      cases hon : (sim.objects r).online <;> simp [onlineRef, hon, hr]
  cases a with
  | readStation addr reg out => exact hstation addr
  | writeStation addr reg data => exact hstation addr
  | readIndex i reg out => exact hindex i
  | writeIndex i reg data => exact hindex i

end Lookup

/-! ## The step -/

section Refine

variable [SlaveDevice σ] {sim : NetworkSimulator σ} {refs : List SlaveRef} {b : Bus σ}

omit [SlaveDevice σ] in
/-- An access of the bus changes the objects and the image only. -/
theorem Represents.of_accessStep (h : Represents sim refs b) {sim' : NetworkSimulator σ}
    (hstep : AccessStep sim sim') {b' : Bus σ}
    (hvalues : References.values sim'.objects refs = b'.slaves) (himage : sim'.logical = b'.image) :
    Represents sim' refs b' where
  slaves := hstep.slaves_eq.trans h.slaves
  nodup := h.nodup
  counted := h.counted.of_eq hstep.slaves_eq hstep.virtualSlaveCount_eq
  unmapped := hstep.inputMaps_eq.trans h.unmapped
  values := hvalues
  image := himage

/-- An access by address or index. -/
theorem Represents.perform (h : Represents sim refs b) (a : BusAccess) :
    (a.perform sim).1 = (b.perform a).1 ∧ (a.perform sim).2.1 = (b.perform a).2.1 ∧
      Represents (a.perform sim).2.2 refs (b.perform a).2.2 := by
  have htarget := h.target_eq a
  have himage : (a.perform sim).2.2.logical = sim.logical := by
    rw [a.perform_outside sim]
  cases hfound : (b.position a).bind fun i => refs[i]? with
  | none =>
    have hnone : ((b.position a).bind fun i => b.slaves[i]?.map (i, ·)) = none := by
      cases hposition : b.position a with
      | none => rfl
      | some i =>
        rw [hposition] at hfound
        have hlength := h.length_slaves
        have hout : refs[i]? = none := hfound
        show b.slaves[i]?.map _ = none
        rw [List.getElem?_eq_none_iff] at hout
        rw [List.getElem?_eq_none (by omega)]
        rfl
    have hmissing : a.unreached sim = (false, a.buffer) := by
      cases a <;> simp [BusAccess.unreached, BusAccess.buffer, h.counted.isStub_eq_false]
    rw [BusAccess.perform_of_unreached (htarget.trans hfound), hmissing, Bus.perform, hnone]
    exact ⟨rfl, rfl, h⟩
  | some ref =>
    obtain ⟨i, hposition, href⟩ := Option.bind_eq_some_iff.mp hfound
    rw [Bus.perform_of_position hposition (h.slave href)]
    have hperform := BusAccess.perform_of_target (htarget.trans hfound)
    refine ⟨congrArg Prod.fst hperform, congrArg (fun out => out.2.1) hperform, ?_⟩
    refine h.of_accessStep (a.perform_accessStep sim) ?_ (himage.trans h.image)
    rw [hperform, ← h.values]
    exact values_assign h.nodup href _

omit [SlaveDevice σ] in
/-- The slaves that a broadcast writes to. -/
theorem Represents.frontTargets (h : Represents sim refs b) (n : Nat) :
    (sim.slaves.take n).filterMap sim.onlineRef =
      (refs.take n).filter fun r => (sim.objects r).online := by
  have hguard : sim.onlineRef ∘ some = Option.guard fun r => (sim.objects r).online := by
    funext r
    rfl
  rw [h.slaves, ← List.map_take, List.filterMap_map, hguard, List.filterMap_eq_filter]

theorem writeObjects_logical (ado : UInt16) (data : List UInt8) (targets : List SlaveRef)
    (okc : UInt16) (sim : NetworkSimulator σ) :
    (writeObjects ado data targets okc sim).2.logical = sim.logical := by
  induction targets generalizing okc sim with
  | nil => rfl
  | cons ref targets ih =>
    rw [writeObjects, ih]
    rfl

/-- A broadcast write. -/
theorem Represents.broadcast (h : Represents sim refs b) (ado : UInt16) (data : List UInt8) :
    (broadcastWrite sim ado data).1 = (b.broadcast ado data).1 ∧
      Represents (broadcastWrite sim ado data).2 refs (b.broadcast ado data).2 := by
  have hloop : broadcastWrite sim ado data =
      writeObjects ado data ((refs.take b.online).filter fun r => (sim.objects r).online) 0
        sim := by
    rw [broadcastWrite, broadcastLoop_eq, broadcastTargets_eq_filterMap, filterMap_writeTarget,
      h.frontTargets, h.onlineSlaveCount_eq]
  have hnodup : ((refs.take b.online).filter fun r => (sim.objects r).online).Nodup :=
    ((List.take_sublist _ _).nodup h.nodup).filter _
  have hstep : AccessStep sim (broadcastWrite sim ado data).2 := .broadcastLoop ado data _ 0 sim
  constructor
  · rw [hloop, writeObjects_okc ado data hnodup, UInt16.zero_add, List.countP_filter, Bus.broadcast,
      ← h.values, References.values, ← List.map_take, List.countP_map]
    congr 2
    funext r
    exact Bool.and_comm _ _
  · refine h.of_accessStep hstep ?_ ?_
    · rw [Bus.broadcast]
      show References.values _ refs = b.slaves.mapIdx _
      rw [← h.values]
      refine values_updateFront h.nodup fun ref _ => ?_
      rw [hloop, writeObjects_objects ado data hnodup]
      simp only [List.mem_filter]
    · rw [hloop, writeObjects_logical]
      exact h.image

omit [SlaveDevice σ] in
theorem Represents.countAck_eq (h : Represents sim refs b) :
    SlavesEndpoint.countAck sim = b.countAck := by
  rw [SlavesEndpoint.countAck, Bus.countAck, h.onlineSlaveCount_eq]

omit [SlaveDevice σ] in
/-- A read of the image inside its bounds. -/
theorem Represents.readLogical (h : Represents sim refs b) (addr : UInt32) (out : List UInt8) :
    sim.readLogical addr out = if addr.toNat + out.length ≤ 16384 then
      (true, b.image.load addr.toNat out.length) else (false, out) := by
  rw [NetworkSimulator.readLogical, h.image]
  by_cases hfits : addr.toNat + out.length ≤ 16384
  · rw [if_pos hfits, if_neg (by omega)]
  · rw [if_neg hfits, if_pos (by omega)]

omit [SlaveDevice σ] in
/-- A write of the image inside its bounds. -/
theorem Represents.writeLogical (h : Represents sim refs b) (addr : UInt32) (data : List UInt8) :
    (sim.writeLogical addr data).1 = decide (addr.toNat + data.length ≤ 16384) ∧
      Represents (sim.writeLogical addr data).2 refs
        (if addr.toNat + data.length ≤ 16384 then
          { b with image := b.image.store addr.toNat data } else b) := by
  rw [NetworkSimulator.writeLogical]
  by_cases hfits : addr.toNat + data.length ≤ 16384
  · rw [if_pos hfits, if_neg (by omega), decide_eq_true hfits]
    refine ⟨rfl, h.slaves, h.nodup, h.counted, h.unmapped, h.values, ?_⟩
    exact congrArg (fun m : Cells UInt8 16384 => m.store addr.toNat data) h.image
  · rw [if_neg hfits, if_pos (by omega), decide_eq_false hfits]
    exact ⟨rfl, h⟩

/-- LWR and LRW do the same. -/
theorem Represents.interpret_writeLogical (h : Represents sim refs b) {d : Datagram}
    (hd : d.command = .LWR ∨ d.command = .LRW) :
    (SlavesEndpoint.interpret sim d).2 = (b.interpret d).2 ∧
      Represents (SlavesEndpoint.interpret sim d).1 refs (b.interpret d).1 := by
  obtain ⟨hok, hwritten⟩ := h.writeLogical d.address d.data
  have hbus : b.interpret d = if d.address.toNat + d.data.length ≤ 16384 then
      ({ b with image := b.image.store d.address.toNat d.data }, { d with wkc := 1 })
      else (b, { d with wkc := 0 }) := by
    rcases hd with hc | hc <;> simp only [Bus.interpret, Datagram.access, hc]
  have hsim : SlavesEndpoint.interpret sim d = ((sim.writeLogical d.address d.data).2,
      { d with wkc := ackOf (sim.writeLogical d.address d.data).1 }) := by
    rcases hd with hc | hc <;>
      simp only [SlavesEndpoint.interpret, hc, reduceCtorEq, if_false]
  rw [hbus, hsim, hok]
  by_cases hfits : d.address.toNat + d.data.length ≤ 16384
  · rw [if_pos hfits] at hwritten ⊢
    exact ⟨by rw [decide_eq_true hfits]; rfl, hwritten⟩
  · rw [if_neg hfits] at hwritten ⊢
    exact ⟨by rw [decide_eq_false hfits]; rfl, hwritten⟩

/-- The simulator does to the objects what the datagram does to the bus. -/
theorem Represents.interpret (h : Represents sim refs b) (d : Datagram) :
    (SlavesEndpoint.interpret sim d).2 = (b.interpret d).2 ∧
      Represents (SlavesEndpoint.interpret sim d).1 refs (b.interpret d).1 := by
  cases ha : d.access with
  | some a =>
    obtain ⟨hok, hdata, hrepresents⟩ := h.perform a
    rw [Bus.interpret, ha, interpret_of_access ha, hok, hdata]
    exact ⟨rfl, hrepresents⟩
  | none =>
    have hbroadcast := h.broadcast (extractAddress d.address).2 d.data
    have hread := h.readLogical d.address d.data
    cases hc : d.command <;> simp only [Datagram.access, hc, reduceCtorEq] at ha
    case LWR => exact h.interpret_writeLogical (.inl hc)
    case LRW => exact h.interpret_writeLogical (.inr hc)
    all_goals
      simp only [Bus.interpret, Datagram.access, SlavesEndpoint.interpret, hc,
        if_true, h.countAck_eq, h.onlineSlaveCount_eq]
    case BWR => exact ⟨by rw [hbroadcast.1], hbroadcast.2⟩
    case BRW => exact ⟨by rw [hbroadcast.1], hbroadcast.2⟩
    case LRD =>
      rw [hread]
      split <;> exact ⟨rfl, h⟩
    all_goals exact ⟨trivial, h⟩

/-! ## Runs -/

theorem Represents.processFrame (h : Represents sim refs b) (frame : List Datagram) :
    (SlavesEndpoint.processFrame sim frame).2 = (b.processFrame frame).2 ∧
      Represents (SlavesEndpoint.processFrame sim frame).1 refs (b.processFrame frame).1 := by
  induction frame generalizing sim b with
  | nil => exact ⟨rfl, h⟩
  | cons d ds ih =>
    obtain ⟨hd, hstep⟩ := h.interpret d
    obtain ⟨hds, hrest⟩ := ih hstep
    exact ⟨congrArg₂ List.cons hd hds, hrest⟩

omit [SlaveDevice σ] in
/-- A loop over a registry without null slots that changes every object it comes to. -/
theorem foldl_slots {f : VirtualSlave σ → VirtualSlave σ}
    {change : NetworkSimulator σ → SlaveRef → NetworkSimulator σ}
    (hchange : ∀ sim ref, change sim ref =
      { sim with objects := assign sim.objects ref (f (sim.objects ref)) })
    (refs : List SlaveRef) (sim : NetworkSimulator σ) :
    (refs.map some).foldl (fun sim slot =>
      match slot with
      | some ref => change sim ref
      | none => sim) sim = { sim with objects := updateEach f refs sim.objects } := by
  induction refs generalizing sim with
  | nil => rfl
  | cons ref refs ih =>
    rw [List.map_cons, List.foldl_cons, ih]
    show { change sim ref with objects := updateEach f refs (change sim ref).objects } = _
    rw [hchange]
    rfl

omit [SlaveDevice σ] in
/-- The loop of `runOnce` over the registry. -/
theorem runRoutines_eq (hslaves : sim.slaves = refs.map some) : sim.runRoutines = { sim with
    objects := updateEach (fun s => if s.online then s.routine else s) refs sim.objects } := by
  have hchange : ∀ (sim : NetworkSimulator σ) ref,
      (if (sim.objects ref).online then sim.setObject ref (sim.objects ref).routine else sim) =
        { sim with
          objects := assign sim.objects ref
            (if (sim.objects ref).online then (sim.objects ref).routine
              else sim.objects ref) } := by
    intro sim ref
    split
    · rfl
    · exact (setObject_self sim ref).symm
  have hloop := @foldl_slots σ (fun s => if s.online then s.routine else s) _ hchange refs sim
  rw [← hslaves] at hloop
  exact hloop

/-- Without mappings `runOnce` runs the routines of the bus. -/
theorem Represents.runOnce (h : Represents sim refs b) :
    ∃ sim', sim.runOnce = some sim' ∧ Represents sim' refs b.runOnce := by
  have hroutines := runRoutines_eq h.slaves
  have hmaps : sim.runRoutines.inputMaps = [] := sim.runRoutines_inputMaps.trans h.unmapped
  refine ⟨{ sim.runRoutines with inputMaps := [] }, ?_, ?_⟩
  · rw [NetworkSimulator.runOnce, hmaps]
    rfl
  · rw [hroutines]
    refine ⟨h.slaves, h.nodup, h.counted, rfl, ?_, h.image⟩
    show References.values _ refs = b.slaves.map _
    rw [values_updateEach _ h.nodup, h.values]

/-- However many frames of whatever datagrams arrive, they come back from the simulator as
they come back from the bus, and the simulator holds the bus that is left. -/
theorem Represents.serveFrames (h : Represents sim refs b) (frames : List (List Datagram)) :
    ∃ sim', SlavesEndpoint.serveFrames sim frames = some (sim', (b.serveFrames frames).2) ∧
      Represents sim' refs (b.serveFrames frames).1 := by
  induction frames generalizing sim b with
  | nil => exact ⟨sim, rfl, h⟩
  | cons frame frames ih =>
    obtain ⟨hout, hprocessed⟩ := h.processFrame frame
    obtain ⟨sim₁, hrun, hran⟩ := hprocessed.runOnce
    obtain ⟨sim₂, hserve, hrest⟩ := ih hran
    refine ⟨sim₂, ?_, hrest⟩
    rw [SlavesEndpoint.serveFrames, Option.bind_eq_bind]
    simp only [hrun, Option.bind_some, hserve, hout]
    rfl

end Refine

/-- The bus that `twoSlaves` holds. -/
def twoSlavesBus (firstOnline : Bool) : Bus Unit where
  slaves := [(VirtualSlave.new 1 0 0 ()).setOnline firstOnline, VirtualSlave.new 2 0 0 ()]
  image := Cells.fill 0

theorem twoSlaves_represents (firstOnline : Bool) :
    Represents (twoSlaves firstOnline) [0, 1] (twoSlavesBus firstOnline) :=
  ⟨rfl, by decide, rfl, rfl, rfl, rfl⟩

end EthercatSim
