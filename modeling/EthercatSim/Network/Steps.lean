import EthercatSim.Network.Isolation

/-!
# Runs of the simulator

`SimulatorCall` lists the calls that change a simulator, and `step` makes one.
`StepRun.run` of it is then a run of the simulator.

* `RunStep` is the frame of `runOnce`: of each slave the register file and the data
  of the device change, the latter by reads of the inputs, and the mappings of dead
  slaves are dropped.
* `Counted`: the slave count is the size of the registry.  `run_counted` says that
  it is so in every state that calls lead to.  Then the extra count of
  `onlineSlaveCount` is 0 and no station is a stub.
-/

namespace EthercatSim

open Kickcat

variable {σ : Type}

/-! ## What `runOnce` leaves alone -/

/-- The slave with its register file and its device erased. -/
def VirtualSlave.outsideRoutine (s : VirtualSlave σ) (device : σ) : VirtualSlave σ :=
  { s with regs := Cells.fill 0, device }

/-- A slave before and after some routines and reads of its inputs. -/
structure RoutineStep [SlaveDevice σ] (s s' : VirtualSlave σ) : Prop where
  frame : ∀ device, s'.outsideRoutine device = s.outsideRoutine device
  device : ∃ k, s'.device =
    Nat.iterate (fun d => (SlaveDevice.readDigitalInputsBitfield d).2) k s.device

namespace RoutineStep

variable [SlaveDevice σ]

theorem refl (s : VirtualSlave σ) : RoutineStep s s := ⟨fun _ => rfl, 0, rfl⟩

theorem routine {s s' : VirtualSlave σ} (h : RoutineStep s s') : RoutineStep s s'.routine := by
  rw [VirtualSlave.routine]
  split
  · exact h
  · exact ⟨h.frame, h.device⟩

theorem readInputs {s s' : VirtualSlave σ} (h : RoutineStep s s') :
    RoutineStep s
      { s' with device := (SlaveDevice.readDigitalInputsBitfield s'.device).2 } := by
  obtain ⟨k, hk⟩ := h.device
  refine ⟨h.frame, k + 1, ?_⟩
  show (SlaveDevice.readDigitalInputsBitfield s'.device).2 = _
  rw [hk, Function.iterate_succ_apply']

/-- What no read of the inputs changes about a device. -/
theorem device_eq {s s' : VirtualSlave σ} (h : RoutineStep s s') {T : Type} {g : σ → T}
    (hg : ∀ d : σ, g (SlaveDevice.readDigitalInputsBitfield d).2 = g d) :
    g s'.device = g s.device := by
  obtain ⟨k, hk⟩ := h.device
  rw [hk]
  clear hk
  induction k with
  | zero => rfl
  | succ k ih => rw [Function.iterate_succ_apply', hg, ih]

end RoutineStep

namespace NetworkSimulator

/-- A weak pointer can be locked as long as the object is held by someone. -/
theorem lock_congr {sim sim' : NetworkSimulator σ} (hslaves : sim'.slaves = sim.slaves)
    (hheld : sim'.heldOutside = sim.heldOutside) : sim'.lock = sim.lock := by
  funext slot
  simp only [lock, hslaves, hheld]

theorem lock_eq_some_iff {sim : NetworkSimulator σ} {slot : Option SlaveRef} {ref : SlaveRef} :
    sim.lock slot = some ref ↔
      slot = some ref ∧ (sim.heldOutside ref = true ∨ some ref ∈ sim.slaves) := by
  cases slot with
  | none => simp [lock]
  | some r =>
    rw [lock, Option.ite_none_right_eq_some, and_comm, Option.some.injEq]
    constructor
    · intro hcase
      obtain ⟨rfl, h⟩ := hcase
      exact ⟨rfl, h⟩
    · intro hcase
      obtain ⟨rfl, h⟩ := hcase
      exact ⟨rfl, h⟩

/-- The simulator with the members erased that `runOnce` changes. -/
def outsideRun (sim : NetworkSimulator σ) (objects : SlaveRef → VirtualSlave σ) :
    NetworkSimulator σ :=
  { sim with objects, logical := Cells.fill 0, inputMaps := [] }

/-- The logical memory after the inputs of the slave have been copied into it. -/
def copyFrom [SlaveDevice σ] (sim : NetworkSimulator σ) (m : InputMap) (ref : SlaveRef) :
    Option (Cells UInt8 16384) :=
  match (SlaveDevice.readDigitalInputsBitfield (sim.objects ref).device).1 with
  | some bits => copyInputs sim.logical m.logicalAddress.toNat bits 0 m.widthBytes
  | none => some sim.logical

/-- The simulator with the inputs of the slave read and `logical` in the memory. -/
def afterCopy [SlaveDevice σ] (sim : NetworkSimulator σ) (ref : SlaveRef)
    (logical : Cells UInt8 16384) : NetworkSimulator σ :=
  { sim.setObject ref
      { sim.objects ref with
        device := (SlaveDevice.readDigitalInputsBitfield (sim.objects ref).device).2 } with
    logical }

/-- The round of the loop over the mappings for one whose slave is alive. -/
theorem refreshInputs_cons_eq [SlaveDevice σ] {sim : NetworkSimulator σ} {m : InputMap}
    {ref : SlaveRef} (hlock : sim.lock m.slave = some ref) (maps : List InputMap) :
    sim.refreshInputs (m :: maps) =
      (sim.copyFrom m ref).bind fun logical =>
        ((sim.afterCopy ref logical).refreshInputs maps).bind fun out =>
          some (m :: out.1, out.2) := by
  simp only [refreshInputs, hlock]
  rw [copyFrom]
  cases hbits : (SlaveDevice.readDigitalInputsBitfield (sim.objects ref).device).1 with
  | none => rfl
  | some bits => rfl

/-- A round that went through. -/
theorem refreshInputs_cons_of_lock [SlaveDevice σ] {sim : NetworkSimulator σ} {m : InputMap}
    {maps : List InputMap} {ref : SlaveRef} {out : List InputMap × NetworkSimulator σ}
    (hlock : sim.lock m.slave = some ref) (h : sim.refreshInputs (m :: maps) = some out) :
    ∃ logical kept sim', sim.copyFrom m ref = some logical ∧
      (sim.afterCopy ref logical).refreshInputs maps = some (kept, sim') ∧
      out = (m :: kept, sim') := by
  rw [refreshInputs_cons_eq hlock] at h
  obtain ⟨logical, hcopy, h⟩ := Option.bind_eq_some_iff.mp h
  obtain ⟨⟨kept, sim'⟩, hrest, hout⟩ := Option.bind_eq_some_iff.mp h
  exact ⟨logical, kept, sim', hcopy, hrest, (Option.some.inj hout).symm⟩

theorem runRoutines_inputMaps (sim : NetworkSimulator σ) :
    sim.runRoutines.inputMaps = sim.inputMaps := by
  refine @StepRun.run_unchanged _ _ _ _ NetworkSimulator.inputMaps ?_ sim sim.slaves
  intro sim slot
  cases slot with
  | none => rfl
  | some ref =>
    show (if (sim.objects ref).online = true then _ else sim).inputMaps = _
    split <;> rfl

end NetworkSimulator

/-- What `runOnce` leaves alone, apart from the list of mappings. -/
structure RunStep [SlaveDevice σ] (sim sim' : NetworkSimulator σ) : Prop where
  frame : ∀ objects, sim'.outsideRun objects = sim.outsideRun objects
  objects : ∀ ref, RoutineStep (sim.objects ref) (sim'.objects ref)

namespace RunStep

variable [SlaveDevice σ] {sim sim' : NetworkSimulator σ}

theorem refl (sim : NetworkSimulator σ) : RunStep sim sim :=
  ⟨fun _ => rfl, fun ref => .refl (sim.objects ref)⟩

theorem slaves_eq (h : RunStep sim sim') : sim'.slaves = sim.slaves := by
  have hframe := congrArg NetworkSimulator.slaves (h.frame sim.objects)
  exact hframe

theorem virtualSlaveCount_eq (h : RunStep sim sim') :
    sim'.virtualSlaveCount = sim.virtualSlaveCount := by
  have hframe := congrArg NetworkSimulator.virtualSlaveCount (h.frame sim.objects)
  exact hframe

theorem lock_eq (h : RunStep sim sim') : sim'.lock = sim.lock := by
  have hframe := congrArg NetworkSimulator.heldOutside (h.frame sim.objects)
  exact NetworkSimulator.lock_congr h.slaves_eq hframe

theorem online_eq (h : RunStep sim sim') (ref : SlaveRef) :
    (sim'.objects ref).online = (sim.objects ref).online := by
  have hframe := congrArg VirtualSlave.online ((h.objects ref).frame (sim.objects ref).device)
  exact hframe

theorem setObject (h : RunStep sim sim') {ref : SlaveRef} {s : VirtualSlave σ}
    (hs : RoutineStep (sim.objects ref) s) : RunStep sim (sim'.setObject ref s) := by
  refine ⟨h.frame, ?_⟩
  intro r
  rw [NetworkSimulator.setObject_objects]
  split
  · rename_i hr
    rw [hr]
    exact hs
  · exact h.objects r

/-- A copy into the logical memory is outside the frame. -/
theorem withLogical (h : RunStep sim sim') (logical : Cells UInt8 16384) :
    RunStep sim { sim' with logical } :=
  ⟨h.frame, h.objects⟩

/-- Reading the inputs of a slave into the logical memory is a part of `runOnce`. -/
theorem afterCopy (h : RunStep sim sim') (ref : SlaveRef) (logical : Cells UInt8 16384) :
    RunStep sim (sim'.afterCopy ref logical) :=
  (h.setObject (h.objects ref).readInputs).withLogical logical

theorem runRoutines (sim : NetworkSimulator σ) : RunStep sim sim.runRoutines := by
  refine StepRun.run_preserved ?_ (refl sim) sim.slaves
  intro sim' slot h
  cases slot with
  | none => exact h
  | some ref =>
    show RunStep sim (if (sim'.objects ref).online = true then _ else sim')
    split
    · exact h.setObject (h.objects ref).routine
    · exact h

/-- The loop over the mappings; it keeps those whose slave is alive. -/
theorem refreshInputs {maps kept : List InputMap} {sim'' : NetworkSimulator σ}
    (h : RunStep sim sim') (hrefresh : sim'.refreshInputs maps = some (kept, sim'')) :
    RunStep sim sim'' ∧ kept = maps.filter fun m => (sim.lock m.slave).isSome := by
  induction maps generalizing sim' kept with
  | nil =>
    rw [NetworkSimulator.refreshInputs, Option.some.injEq, Prod.mk.injEq] at hrefresh
    obtain ⟨rfl, rfl⟩ := hrefresh
    exact ⟨h, rfl⟩
  | cons m maps ih =>
    have hlock_eq := congrFun h.lock_eq m.slave
    cases hlock : sim.lock m.slave with
    | none =>
      rw [hlock] at hlock_eq
      rw [NetworkSimulator.refreshInputs, hlock_eq] at hrefresh
      obtain ⟨hrun, hkept⟩ := ih h hrefresh
      refine ⟨hrun, ?_⟩
      rw [hkept, List.filter_cons_of_neg (by rw [hlock]; exact Bool.false_ne_true)]
    | some ref =>
      rw [hlock] at hlock_eq
      obtain ⟨logical, kept', sim''', -, hrest, hout⟩ :=
        NetworkSimulator.refreshInputs_cons_of_lock hlock_eq hrefresh
      obtain ⟨rfl, rfl⟩ := Prod.mk.inj hout
      obtain ⟨hrun, hkept⟩ := ih (h.afterCopy ref logical) hrest
      refine ⟨hrun, ?_⟩
      rw [hkept, List.filter_cons_of_pos (by rw [hlock]; rfl)]

theorem runOnce {sim' : NetworkSimulator σ} (hrun : sim.runOnce = some sim') :
    RunStep sim sim' ∧
      sim'.inputMaps = sim.inputMaps.filter fun m => (sim.lock m.slave).isSome := by
  obtain ⟨⟨kept, sim''⟩, hrefresh, hout⟩ := Option.bind_eq_some_iff.mp hrun
  obtain rfl := Option.some.inj hout
  rw [sim.runRoutines_inputMaps] at hrefresh
  obtain ⟨hstep, hkept⟩ := (runRoutines sim).refreshInputs hrefresh
  exact ⟨⟨hstep.frame, hstep.objects⟩, hkept⟩

end RunStep

/-! ## Runs -/

/-- The calls that change a simulator, those of a slave by the holder of a pointer
included. -/
inductive SimulatorCall (σ : Type) where
  | setVirtualSlaveCount (n : Nat)
  | makeShared (s : VirtualSlave σ)
  | addVirtualSlave (slave : Option SlaveRef)
  | clearSlaves
  | startAllSlaves
  | setLinkUp (up : Bool)
  | setLatencyMs (ms : UInt32)
  | sendFrame (frame : List UInt8) (now : Int)
  | receiveFrame (now : Int)
  | access (a : BusAccess)
  | writeLogical (logicalAddress : UInt32) (data : List UInt8)
  | mapDigitalInputs (slave : Option SlaveRef) (logicalAddress : UInt32) (widthBytes : Nat)
  | clearInputMappings
  | runOnce
  | onObject (ref : SlaveRef) (op : SlaveOp)
  | hold (ref : SlaveRef) (held : Bool)

namespace NetworkSimulator

variable [SlaveDevice σ]

/-- The simulator after one call.  A call without a meaning in C++ is left out. -/
def step (stub : σ) (sim : NetworkSimulator σ) : SimulatorCall σ → NetworkSimulator σ
  | .setVirtualSlaveCount n => (sim.setVirtualSlaveCount stub n).getD sim
  | .makeShared s => (sim.makeShared s).2
  | .addVirtualSlave slave => sim.addVirtualSlave slave
  | .clearSlaves => sim.clearSlaves
  | .startAllSlaves => sim.startAllSlaves
  | .setLinkUp up => sim.setLinkUp up
  | .setLatencyMs ms => sim.setLatencyMs ms
  | .sendFrame frame now => (sim.sendFrame frame now).2
  | .receiveFrame now => (sim.receiveFrame now).2
  | .access a => (a.perform sim).2.2
  | .writeLogical addr data => (sim.writeLogical addr data).2
  | .mapDigitalInputs slave addr width => sim.mapDigitalInputs slave addr width
  | .clearInputMappings => sim.clearInputMappings
  | .runOnce => sim.runOnce.getD sim
  | .onObject ref op => sim.setObject ref ((sim.objects ref).step op)
  | .hold ref held =>
    { sim with heldOutside := fun r => if r = ref then held else sim.heldOutside r }

/-! ## The slave count -/

omit [SlaveDevice σ] in
/-- `virtualSlaveCount_` is the size of the registry. -/
def Counted (sim : NetworkSimulator σ) : Prop := sim.virtualSlaveCount = sim.slaves.length

omit [SlaveDevice σ] in
theorem Counted.of_eq {sim sim' : NetworkSimulator σ} (h : sim.Counted)
    (hslaves : sim'.slaves = sim.slaves)
    (hcount : sim'.virtualSlaveCount = sim.virtualSlaveCount) : sim'.Counted := by
  rw [Counted, hslaves, hcount]
  exact h

omit [SlaveDevice σ] in
theorem Counted.setVirtualSlaveCount {sim : NetworkSimulator σ} (h : sim.Counted) (stub : σ)
    (n : Nat) : ((sim.setVirtualSlaveCount stub n).getD sim).Counted := by
  rw [NetworkSimulator.setVirtualSlaveCount]
  split
  · exact h
  · exact rfl

omit [SlaveDevice σ] in
theorem Counted.startAllSlaves {sim : NetworkSimulator σ} (h : sim.Counted) :
    sim.startAllSlaves.Counted := by
  refine StepRun.run_preserved ?_ h sim.slaves
  intro sim slot h
  cases slot <;> exact h

omit [SlaveDevice σ] in
theorem Counted.clearInputMappings {sim : NetworkSimulator σ} (h : sim.Counted) :
    sim.clearInputMappings.Counted := by
  refine StepRun.run_preserved ?_ h sim.inputMaps
  intro sim m h
  cases sim.lock m.slave <;> exact h

theorem Counted.runOnce {sim : NetworkSimulator σ} (h : sim.Counted) :
    (sim.runOnce.getD sim).Counted := by
  cases hrun : sim.runOnce with
  | none => exact h
  | some sim' =>
    have hstep := (RunStep.runOnce hrun).1
    exact h.of_eq hstep.slaves_eq hstep.virtualSlaveCount_eq

/-- Every call keeps the count. -/
theorem Counted.step {sim : NetworkSimulator σ} (h : sim.Counted) (stub : σ)
    (call : SimulatorCall σ) : (sim.step stub call).Counted := by
  cases call with
  | setVirtualSlaveCount n => exact h.setVirtualSlaveCount stub n
  | addVirtualSlave slave => exact rfl
  | clearSlaves => exact rfl
  | startAllSlaves => exact h.startAllSlaves
  | clearInputMappings => exact h.clearInputMappings
  | runOnce => exact h.runOnce
  | access a =>
    have hstep := a.perform_accessStep sim
    exact h.of_eq hstep.slaves_eq hstep.virtualSlaveCount_eq
  | sendFrame frame now =>
    show (sim.sendFrame frame now).2.Counted
    rw [NetworkSimulator.sendFrame]
    split <;> exact h
  | receiveFrame now =>
    show (sim.receiveFrame now).2.Counted
    rw [NetworkSimulator.receiveFrame]
    split
    · exact h
    · split
      · exact h
      · split <;> exact h
  | writeLogical addr data =>
    show (sim.writeLogical addr data).2.Counted
    rw [NetworkSimulator.writeLogical]
    split <;> exact h
  | mapDigitalInputs slave addr width => cases slave <;> exact h
  | makeShared s => exact h
  | setLinkUp up => exact h
  | setLatencyMs ms => exact h
  | onObject ref op => exact h
  | hold ref held => exact h

/-- The count is right in every state that calls lead to. -/
theorem run_counted (blank : VirtualSlave σ) (stub : σ) (calls : List (SimulatorCall σ)) :
    (StepRun.run (step stub) (new blank) calls).Counted := by
  have hstep : ∀ (sim : NetworkSimulator σ) (call : SimulatorCall σ), sim.Counted →
      (sim.step stub call).Counted := fun _ call h => h.step stub call
  have hnew : (new blank).Counted := rfl
  exact StepRun.run_preserved hstep hnew calls

omit [SlaveDevice σ] in
/-- The number of slots of the registry whose slave is online. -/
def onlineCount (sim : NetworkSimulator σ) : Nat := sim.slaves.countP sim.isOnline

omit [SlaveDevice σ] in
theorem Counted.onlineSlaveCount_eq {sim : NetworkSimulator σ} (h : sim.Counted) :
    sim.onlineSlaveCount = sim.onlineCount :=
  if_neg (Nat.not_lt.mpr (Nat.le_of_eq h))

omit [SlaveDevice σ] in
theorem Counted.isStub_eq_false {sim : NetworkSimulator σ} (h : sim.Counted) (addr : UInt16) :
    sim.isStub addr = false := by
  rw [isStub, h]
  cases hslaves : sim.slaves with
  | cons slot slots => rfl
  | nil =>
    simp only [List.isEmpty_nil, List.length_nil, Bool.true_and, Bool.and_eq_false_imp,
      decide_eq_true_eq, decide_eq_false_iff_not]
    omega

end NetworkSimulator

end EthercatSim
