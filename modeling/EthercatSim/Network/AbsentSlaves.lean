import EthercatSim.Network.Steps
import EthercatSim.El1258.Model

/-!
# Absent slaves

A slave that is offline, or no longer in the registry, should be invisible on the bus.
The lookups and the loop over the routines all test `online()`.  The loop of `runOnce`
over the mappings does not: it reads the inputs of every slave that is still alive.

* `AgreeOnPresent`: two simulators differ in nothing but the absent slaves.
* One lemma for each path from a slave to the bus: `target_eq` and `perform` for the
  lookups, `broadcastLoop`, `runRoutines`, and `refreshInputs` for the mappings.
* `absent_invisible`: frames and `runOnce` show the same in both simulators as long as
  no mapping that is alive belongs to an absent slave.
* `absent_invisible_mapped_false`: the inputs of a mapped terminal that has gone offline
  still reach the logical memory.
-/

namespace EthercatSim

open Kickcat StepRun NetworkSimulator

variable {σ : Type}

/-- Two simulators that differ in nothing but the slaves that are offline or not in the
registry.  Of those, the ones in the registry are offline in both. -/
structure AgreeOnPresent (sim sim' : NetworkSimulator σ) : Prop where
  frame : ∀ objects, ({ sim' with objects } : NetworkSimulator σ) = { sim with objects }
  online : ∀ ref, some ref ∈ sim.slaves → (sim'.objects ref).online = (sim.objects ref).online
  present : ∀ ref, sim.IsOnlineSlave ref → sim'.objects ref = sim.objects ref

/-- No mapping that is alive belongs to an absent slave. -/
def NetworkSimulator.MapsPresent (sim : NetworkSimulator σ) (maps : List InputMap) : Prop :=
  ∀ m ∈ maps, ∀ ref, sim.lock m.slave = some ref → sim.IsOnlineSlave ref

/-- `runOnce` makes no slave absent. -/
theorem NetworkSimulator.MapsPresent.of_runStep [SlaveDevice σ] {sim sim' : NetworkSimulator σ}
    {maps : List InputMap} (h : sim.MapsPresent maps) (hrun : RunStep sim sim') :
    sim'.MapsPresent maps := by
  intro m hm ref hlock
  rw [hrun.lock_eq] at hlock
  obtain ⟨hmem, hon⟩ := h m hm ref hlock
  refine ⟨?_, ?_⟩
  · rw [hrun.slaves_eq]
    exact hmem
  · rw [hrun.online_eq]
    exact hon

namespace AgreeOnPresent

variable {sim sim' : NetworkSimulator σ}

theorem slaves_eq (h : AgreeOnPresent sim sim') : sim'.slaves = sim.slaves := by
  have hframe := congrArg NetworkSimulator.slaves (h.frame sim.objects)
  exact hframe

theorem logical_eq (h : AgreeOnPresent sim sim') : sim'.logical = sim.logical := by
  have hframe := congrArg NetworkSimulator.logical (h.frame sim.objects)
  exact hframe

theorem inputMaps_eq (h : AgreeOnPresent sim sim') : sim'.inputMaps = sim.inputMaps := by
  have hframe := congrArg NetworkSimulator.inputMaps (h.frame sim.objects)
  exact hframe

theorem virtualSlaveCount_eq (h : AgreeOnPresent sim sim') :
    sim'.virtualSlaveCount = sim.virtualSlaveCount := by
  have hframe := congrArg NetworkSimulator.virtualSlaveCount (h.frame sim.objects)
  exact hframe

theorem lock_eq (h : AgreeOnPresent sim sim') : sim'.lock = sim.lock := by
  have hframe := congrArg NetworkSimulator.heldOutside (h.frame sim.objects)
  exact lock_congr h.slaves_eq hframe

/-- The same object put into both. -/
theorem setObject (h : AgreeOnPresent sim sim') (ref : SlaveRef) (s : VirtualSlave σ) :
    AgreeOnPresent (sim.setObject ref s) (sim'.setObject ref s) := by
  refine ⟨h.frame, ?_, ?_⟩
  · intro r hmem
    rw [setObject_objects, setObject_objects]
    split
    · rfl
    · exact h.online r hmem
  · intro r hr
    obtain ⟨hmem, hon⟩ := hr
    rw [setObject_objects] at hon
    rw [setObject_objects, setObject_objects]
    split
    · rfl
    · rename_i hne
      rw [if_neg hne] at hon
      exact h.present r ⟨hmem, hon⟩

theorem withLogical (h : AgreeOnPresent sim sim') (logical : Cells UInt8 16384) :
    AgreeOnPresent { sim with logical } { sim' with logical } := by
  refine ⟨fun objects => ?_, h.online, h.present⟩
  exact congrArg (fun sim : NetworkSimulator σ => { sim with logical }) (h.frame objects)

theorem withInputMaps (h : AgreeOnPresent sim sim') (inputMaps : List InputMap) :
    AgreeOnPresent { sim with inputMaps } { sim' with inputMaps } := by
  refine ⟨fun objects => ?_, h.online, h.present⟩
  exact congrArg (fun sim : NetworkSimulator σ => { sim with inputMaps }) (h.frame objects)

/-! ## The lookups -/

/-- A slave of the registry answers in both simulators or in neither. -/
theorem answers_iff (h : AgreeOnPresent sim sim') {ref : SlaveRef} (hmem : some ref ∈ sim.slaves)
    (addr : UInt16) : sim'.Answers addr ref ↔ sim.Answers addr ref := by
  rw [Answers, Answers, h.online ref hmem]
  refine and_congr_right fun hon => ?_
  rw [h.present ref ⟨hmem, hon⟩]

theorem isFirstAt_iff (h : AgreeOnPresent sim sim') (addr : UInt16) (ref : SlaveRef) :
    sim'.IsFirstAt addr ref ↔ sim.IsFirstAt addr ref := by
  rw [IsFirstAt, IsFirstAt, h.slaves_eq]
  refine exists_congr fun before => exists_congr fun after => and_congr_right fun hslaves => ?_
  have hmem : ∀ r, some r ∈ before ∨ r = ref → some r ∈ sim.slaves := by
    intro r hr
    rw [hslaves]
    rcases hr with hbefore | rfl
    · exact List.mem_append_left _ hbefore
    · exact List.mem_append_right _ (List.mem_cons_self ..)
  rw [h.answers_iff (hmem ref (.inr rfl))]
  refine and_congr_right fun _ => forall_congr' fun r => forall_congr' fun hr => ?_
  rw [h.answers_iff (hmem r (.inl hr))]

theorem isOnlineAt_iff (h : AgreeOnPresent sim sim') (index : Nat) (ref : SlaveRef) :
    sim'.IsOnlineAt index ref ↔ sim.IsOnlineAt index ref := by
  rw [IsOnlineAt, IsOnlineAt, h.slaves_eq]
  refine and_congr_right fun hslot => ?_
  rw [h.online ref (List.mem_of_getElem? hslot)]

/-- An access finds the same target in both simulators. -/
theorem target_eq (h : AgreeOnPresent sim sim') (a : BusAccess) :
    a.target sim' = a.target sim := by
  apply Option.ext
  intro ref
  rw [BusAccess.target_eq_some_iff, BusAccess.target_eq_some_iff]
  cases a with
  | readStation addr reg out => exact h.isFirstAt_iff addr ref
  | writeStation addr reg data => exact h.isFirstAt_iff addr ref
  | readIndex index reg out => exact h.isOnlineAt_iff index ref
  | writeIndex index reg data => exact h.isOnlineAt_iff index ref

/-- The target of an access is present. -/
theorem isOnlineSlave_of_target {a : BusAccess} {ref : SlaveRef} (ht : a.target sim = some ref) :
    sim.IsOnlineSlave ref := by
  have hfirst : ∀ addr, sim.IsFirstAt addr ref → sim.IsOnlineSlave ref := by
    intro addr hcase
    obtain ⟨before, after, hslaves, hanswers, -⟩ := hcase
    refine ⟨?_, hanswers.1⟩
    rw [hslaves]
    exact List.mem_append_right _ (List.mem_cons_self ..)
  have hat : ∀ index, sim.IsOnlineAt index ref → sim.IsOnlineSlave ref :=
    fun index hcase => ⟨List.mem_of_getElem? hcase.1, hcase.2⟩
  rw [BusAccess.target_eq_some_iff] at ht
  cases a with
  | readStation addr reg out => exact hfirst addr ht
  | writeStation addr reg data => exact hfirst addr ht
  | readIndex index reg out => exact hat index ht
  | writeIndex index reg data => exact hat index ht

theorem onlineSlaveCount_eq (h : AgreeOnPresent sim sim') :
    sim'.onlineSlaveCount = sim.onlineSlaveCount := by
  have hcount : sim.slaves.countP sim'.isOnline = sim.slaves.countP sim.isOnline := by
    apply List.countP_congr
    intro slot hslot
    cases slot with
    | none => exact Iff.rfl
    | some ref => rw [isOnline, isOnline, h.online ref hslot]
  rw [NetworkSimulator.onlineSlaveCount, NetworkSimulator.onlineSlaveCount, h.slaves_eq,
    h.virtualSlaveCount_eq, hcount]

/-! ## Bus traffic -/

section Bus

variable [SlaveDevice σ]

/-- An access returns the same and changes the same. -/
theorem perform (h : AgreeOnPresent sim sim') (a : BusAccess) :
    (a.perform sim').1 = (a.perform sim).1 ∧ (a.perform sim').2.1 = (a.perform sim).2.1 ∧
      AgreeOnPresent (a.perform sim).2.2 (a.perform sim').2.2 := by
  cases ht : a.target sim with
  | none =>
    rw [BusAccess.perform_of_unreached ht,
      BusAccess.perform_of_unreached ((h.target_eq a).trans ht),
      BusAccess.unreached_congr h.slaves_eq h.virtualSlaveCount_eq]
    exact ⟨rfl, rfl, h⟩
  | some ref =>
    rw [BusAccess.perform_of_target ht, BusAccess.perform_of_target ((h.target_eq a).trans ht),
      h.present ref (isOnlineSlave_of_target ht)]
    exact ⟨rfl, rfl, h.setObject ref _⟩

theorem broadcastLoop (h : AgreeOnPresent sim sim') (ado : UInt16) (data : List UInt8)
    (indices : List Nat) (okc : UInt16) :
    (broadcastLoop ado data indices okc sim').1 = (broadcastLoop ado data indices okc sim).1 ∧
      AgreeOnPresent (EthercatSim.broadcastLoop ado data indices okc sim).2
        (EthercatSim.broadcastLoop ado data indices okc sim').2 := by
  induction indices generalizing okc sim sim' with
  | nil => exact ⟨rfl, h⟩
  | cons idx indices ih =>
    obtain ⟨hok, -, hsame⟩ := h.perform (.writeIndex idx ado data)
    have hok' : (sim'.writeToSlaveByIndex idx ado data).1 =
        (sim.writeToSlaveByIndex idx ado data).1 := hok
    rw [EthercatSim.broadcastLoop, EthercatSim.broadcastLoop]
    simp only [hok']
    exact ih hsame _

/-- A datagram comes back the same. -/
theorem interpret (h : AgreeOnPresent sim sim') (d : Datagram) :
    (SlavesEndpoint.interpret sim' d).2 = (SlavesEndpoint.interpret sim d).2 ∧
      AgreeOnPresent (SlavesEndpoint.interpret sim d).1 (SlavesEndpoint.interpret sim' d).1 := by
  cases haccess : d.access with
  | some a =>
    obtain ⟨hok, hdata, hsame⟩ := h.perform a
    rw [interpret_of_access haccess, interpret_of_access haccess, hok, hdata]
    exact ⟨rfl, hsame⟩
  | none =>
    have hcount := h.onlineSlaveCount_eq
    have hbroadcast : ∀ ado data,
        (broadcastWrite sim' ado data).1 = (broadcastWrite sim ado data).1 ∧
          AgreeOnPresent (broadcastWrite sim ado data).2 (broadcastWrite sim' ado data).2 := by
      intro ado data
      rw [broadcastWrite, broadcastWrite, hcount]
      exact h.broadcastLoop ado data _ 0
    have hack : SlavesEndpoint.countAck sim' = SlavesEndpoint.countAck sim := by
      rw [SlavesEndpoint.countAck, SlavesEndpoint.countAck, hcount]
    have hwrite : (sim'.writeLogical d.address d.data).1 = (sim.writeLogical d.address d.data).1 ∧
        AgreeOnPresent (sim.writeLogical d.address d.data).2
          (sim'.writeLogical d.address d.data).2 := by
      rw [writeLogical, writeLogical, h.logical_eq]
      split
      · exact ⟨rfl, h⟩
      · exact ⟨rfl, h.withLogical _⟩
    have hread : sim'.readLogical d.address d.data = sim.readLogical d.address d.data := by
      rw [readLogical, readLogical, h.logical_eq]
    cases hc : d.command <;> simp only [Datagram.access, hc, reduceCtorEq] at haccess <;>
      simp only [SlavesEndpoint.interpret, hc, hack, hcount, hread, reduceCtorEq, if_true, if_false]
    case BWR =>
      rw [(hbroadcast _ _).1]
      exact ⟨rfl, (hbroadcast _ _).2⟩
    case BRW =>
      rw [(hbroadcast _ _).1]
      exact ⟨rfl, (hbroadcast _ _).2⟩
    case LWR =>
      rw [hwrite.1]
      exact ⟨rfl, hwrite.2⟩
    case LRW =>
      rw [hwrite.1]
      exact ⟨rfl, hwrite.2⟩
    all_goals exact ⟨trivial, h⟩

theorem processFrame (h : AgreeOnPresent sim sim') (frame : List Datagram) :
    (SlavesEndpoint.processFrame sim' frame).2 = (SlavesEndpoint.processFrame sim frame).2 ∧
      AgreeOnPresent (SlavesEndpoint.processFrame sim frame).1
        (SlavesEndpoint.processFrame sim' frame).1 := by
  induction frame generalizing sim sim' with
  | nil => exact ⟨rfl, h⟩
  | cons d ds ih =>
    obtain ⟨hd, hsame⟩ := h.interpret d
    obtain ⟨hds, hrest⟩ := ih hsame
    rw [SlavesEndpoint.processFrame_cons, SlavesEndpoint.processFrame_cons, hd, hds]
    exact ⟨rfl, hrest⟩

/-! ## `runOnce` -/

omit [SlaveDevice σ] in
/-- The loop over the registry tests `online()`. -/
theorem runRoutines (h : AgreeOnPresent sim sim') :
    AgreeOnPresent sim.runRoutines sim'.runRoutines := by
  unfold NetworkSimulator.runRoutines
  rw [h.slaves_eq]
  -- every slot of the loop is one of the registry, which the loop does not change
  refine And.left (b := (run _ sim sim.slaves).slaves = sim.slaves)
    (@run_related _ _ _ (fun t t' => AgreeOnPresent t t' ∧ t.slaves = sim.slaves)
      (fun _ slot => slot ∈ sim.slaves) ?_ sim sim' ⟨h, rfl⟩ sim.slaves
      (stepsOk_of_forall (fun _ hslot => hslot) sim))
  intro t t' slot hagree hslot
  obtain ⟨hagree, hslaves⟩ := hagree
  cases slot with
  | none => exact ⟨hagree, hslaves⟩
  | some ref =>
    have hmem : some ref ∈ t.slaves := by
      rw [hslaves]
      exact hslot
    show AgreeOnPresent (if (t.objects ref).online = true then _ else t)
        (if (t'.objects ref).online = true then _ else t') ∧
      (if (t.objects ref).online = true then _ else t).slaves = sim.slaves
    rw [hagree.online ref hmem]
    by_cases hon : (t.objects ref).online = true
    · rw [if_pos hon, if_pos hon, hagree.present ref ⟨hmem, hon⟩]
      exact ⟨hagree.setObject ref _, hslaves⟩
    · rw [if_neg hon, if_neg hon]
      exact ⟨hagree, hslaves⟩

/-- The loop over the mappings tests only whether the slave is alive. -/
theorem refreshInputs (h : AgreeOnPresent sim sim') {maps : List InputMap}
    (hmaps : sim.MapsPresent maps) :
    Option.Rel (fun out out' => out'.1 = out.1 ∧ AgreeOnPresent out.2 out'.2)
      (sim.refreshInputs maps) (sim'.refreshInputs maps) := by
  induction maps generalizing sim sim' with
  | nil => exact .some ⟨rfl, h⟩
  | cons m maps ih =>
    have hlock' := congrFun h.lock_eq m.slave
    cases hlock : sim.lock m.slave with
    | none =>
      rw [hlock] at hlock'
      rw [NetworkSimulator.refreshInputs, NetworkSimulator.refreshInputs, hlock, hlock']
      exact ih h fun m' hm' => hmaps m' (List.mem_cons_of_mem m hm')
    | some ref =>
      rw [hlock] at hlock'
      have hpresent := h.present ref (hmaps m (List.mem_cons_self ..) ref hlock)
      have hcopy : sim'.copyFrom m ref = sim.copyFrom m ref := by
        rw [copyFrom, copyFrom, hpresent, h.logical_eq]
      rw [refreshInputs_cons_eq hlock, refreshInputs_cons_eq hlock', hcopy]
      cases sim.copyFrom m ref with
      | none => exact .none
      | some logical =>
        have hafter : AgreeOnPresent (sim.afterCopy ref logical) (sim'.afterCopy ref logical) := by
          rw [afterCopy, afterCopy, hpresent]
          exact (h.setObject ref _).withLogical logical
        have hrest := ih hafter fun m' hm' =>
          hmaps.of_runStep ((RunStep.refl sim).afterCopy ref logical) m'
            (List.mem_cons_of_mem m hm')
        show Option.Rel _ (((sim.afterCopy ref logical).refreshInputs maps).bind _)
          (((sim'.afterCopy ref logical).refreshInputs maps).bind _)
        generalize (sim.afterCopy ref logical).refreshInputs maps = out at hrest ⊢
        generalize (sim'.afterCopy ref logical).refreshInputs maps = out' at hrest ⊢
        cases hrest with
        | none => exact .none
        | some hout => exact .some ⟨congrArg (m :: ·) hout.1, hout.2⟩

theorem runOnce (h : AgreeOnPresent sim sim') (hmaps : sim.MapsPresent sim.inputMaps) :
    Option.Rel AgreeOnPresent sim.runOnce sim'.runOnce := by
  have hrefresh := h.runRoutines.refreshInputs (hmaps.of_runStep (RunStep.runRoutines sim))
  have hmaps' : sim'.runRoutines.inputMaps = sim.inputMaps :=
    (runRoutines_inputMaps sim').trans h.inputMaps_eq
  rw [NetworkSimulator.runOnce, NetworkSimulator.runOnce, hmaps', runRoutines_inputMaps]
  show Option.Rel _ ((sim.runRoutines.refreshInputs sim.inputMaps).bind _)
    ((sim'.runRoutines.refreshInputs sim.inputMaps).bind _)
  generalize sim.runRoutines.refreshInputs sim.inputMaps = out at hrefresh ⊢
  generalize sim'.runRoutines.refreshInputs sim.inputMaps = out' at hrefresh ⊢
  cases hrefresh with
  | none => exact .none
  | @some out out' hout =>
    refine .some ?_
    show AgreeOnPresent { out.2 with inputMaps := out.1 } { out'.2 with inputMaps := out'.1 }
    rw [hout.1]
    exact hout.2.withInputMaps out.1

end Bus

end AgreeOnPresent

/-! ## Whole runs -/

/-- What happens to the network: a frame, a call of `runOnce`, and slaves that come
and go. -/
inductive NetworkStep where
  | frame (datagrams : List Datagram)
  | runOnce
  | setOnline (ref : SlaveRef) (on : Bool)
  | addVirtualSlave (slave : Option SlaveRef)
  | clearSlaves
  deriving DecidableEq, Repr

namespace NetworkStep

variable [SlaveDevice σ]

/-- The simulator after the step. -/
def step (sim : NetworkSimulator σ) : NetworkStep → NetworkSimulator σ
  | .frame datagrams => (SlavesEndpoint.processFrame sim datagrams).1
  | .runOnce => sim.runOnce.getD sim
  | .setOnline ref on => sim.setObject ref ((sim.objects ref).setOnline on)
  | .addVirtualSlave slave => sim.addVirtualSlave slave
  | .clearSlaves => sim.clearSlaves

/-- What the step shows: the datagrams of a frame as they come back, with their data and
working counters, and the logical memory behind it. -/
def shows (sim : NetworkSimulator σ) (s : NetworkStep) : List Datagram × Cells UInt8 16384 :=
  match s with
  | .frame datagrams =>
    ((SlavesEndpoint.processFrame sim datagrams).2, (s.step sim).logical)
  | _ => ([], (s.step sim).logical)

/-- No absent slave comes online or is registered. -/
def NoneAppears (sim : NetworkSimulator σ) : NetworkStep → Prop
  | .setOnline ref on => on = true → sim.IsOnlineSlave ref
  | .addVirtualSlave slave => ∀ ref, slave = some ref → sim.IsOnlineSlave ref
  | _ => True

/-- `runOnce` finds no mapping that is alive and belongs to an absent slave. -/
def MapsPresent (sim : NetworkSimulator σ) : NetworkStep → Prop
  | .runOnce => sim.MapsPresent sim.inputMaps
  | _ => True

/-- One step keeps the agreement, when no absent slave appears and none is mapped. -/
theorem step_agree {sim sim' : NetworkSimulator σ} (h : AgreeOnPresent sim sim')
    {s : NetworkStep} (hnone : s.NoneAppears sim) (hmaps : s.MapsPresent sim) :
    AgreeOnPresent (s.step sim) (s.step sim') := by
  cases s with
  | frame datagrams => exact (h.processFrame datagrams).2
  | runOnce =>
    have hrun := h.runOnce hmaps
    show AgreeOnPresent (sim.runOnce.getD sim) (sim'.runOnce.getD sim')
    generalize sim.runOnce = out at hrun ⊢
    generalize sim'.runOnce = out' at hrun ⊢
    cases hrun with
    | none => exact h
    | some hagree => exact hagree
  | setOnline ref on =>
    show AgreeOnPresent (sim.setObject ref ((sim.objects ref).setOnline on))
      (sim'.setObject ref ((sim'.objects ref).setOnline on))
    by_cases hpresent : sim.IsOnlineSlave ref
    · rw [h.present ref hpresent]
      exact h.setObject ref _
    · have hoff : on = false := eq_false_of_ne_true fun hon => hpresent (hnone hon)
      subst hoff
      refine ⟨h.frame, ?_, ?_⟩
      · intro r hmem
        rw [setObject_objects, setObject_objects]
        split
        · rfl
        · exact h.online r hmem
      · intro r hr
        obtain ⟨hmem, hon⟩ := hr
        rw [setObject_objects] at hon
        by_cases hne : r = ref
        · rw [if_pos hne] at hon
          exact absurd hon Bool.false_ne_true
        · rw [if_neg hne] at hon
          rw [setObject_objects, setObject_objects, if_neg hne, if_neg hne]
          exact h.present r ⟨hmem, hon⟩
  | addVirtualSlave slave =>
    have hslaves : ∀ ref, some ref ∈ sim.slaves ++ [slave] → some ref ∈ sim.slaves := by
      intro ref hmem
      rcases List.mem_append.mp hmem with hold | hnew
      · exact hold
      · exact (hnone ref (List.mem_singleton.mp hnew).symm).1
    refine ⟨fun objects => ?_, fun ref hmem => h.online ref (hslaves ref hmem),
      fun ref hr => h.present ref ⟨hslaves ref hr.1, hr.2⟩⟩
    exact congrArg (fun sim : NetworkSimulator σ => sim.addVirtualSlave slave) (h.frame objects)
  | clearSlaves =>
    refine ⟨fun objects => ?_, fun ref hmem => absurd hmem List.not_mem_nil,
      fun ref hr => absurd hr.1 List.not_mem_nil⟩
    exact congrArg NetworkSimulator.clearSlaves (h.frame objects)

/-- Such a step shows the same in both simulators. -/
theorem shows_eq {sim sim' : NetworkSimulator σ} (h : AgreeOnPresent sim sim')
    {s : NetworkStep} (hnone : s.NoneAppears sim) (hmaps : s.MapsPresent sim) :
    s.shows sim' = s.shows sim := by
  have hlogical := (step_agree h hnone hmaps).logical_eq
  cases s with
  | frame datagrams => rw [shows, shows, (h.processFrame datagrams).1, hlogical]
  | runOnce => exact congrArg (Prod.mk []) hlogical
  | setOnline ref on => exact congrArg (Prod.mk []) hlogical
  | addVirtualSlave slave => exact congrArg (Prod.mk []) hlogical
  | clearSlaves => exact congrArg (Prod.mk []) hlogical

/-- Two simulators that differ in the absent slaves only show the same all along a run,
and end up differing in the absent slaves only, as long as no absent slave appears and
`runOnce` never finds one of them behind a mapping that is alive. -/
theorem absent_invisible {sim sim' : NetworkSimulator σ} (h : AgreeOnPresent sim sim')
    {steps : List NetworkStep} (hnone : StepsOk step NoneAppears sim steps)
    (hmaps : StepsOk step MapsPresent sim steps) :
    trace step shows sim' steps = trace step shows sim steps ∧
      AgreeOnPresent (run step sim steps) (run step sim' steps) := by
  have hok := stepsOk_and.mpr ⟨hnone, hmaps⟩
  have hstep : ∀ (t t' : NetworkSimulator σ) (s : NetworkStep), AgreeOnPresent t t' →
      s.NoneAppears t ∧ s.MapsPresent t → AgreeOnPresent (s.step t) (s.step t') :=
    fun t t' s hagree hs => step_agree hagree hs.1 hs.2
  have hshows : ∀ (t t' : NetworkSimulator σ) (s : NetworkStep), AgreeOnPresent t t' →
      s.NoneAppears t ∧ s.MapsPresent t → s.shows t' = s.shows t :=
    fun t t' s hagree hs => shows_eq hagree hs.1 hs.2
  exact ⟨trace_eq hstep hshows h hok, run_related hstep h hok⟩

/-- Two terminals in the registry, the second one offline with its inputs at `high`.
The one at `mapped` is mapped at 0. -/
def twoTerminals (mapped : SlaveRef) (high : Bool) : NetworkSimulator El1258 :=
  let here := VirtualSlave.new 1 2 3 El1258.initial
  let away := (VirtualSlave.new 2 2 3
    { El1258.initial with channels := Cells.fill high }).setOnline false
  let (first, sim) := (NetworkSimulator.new here).makeShared here
  let (second, sim) := sim.makeShared away
  ((sim.addVirtualSlave (some first)).addVirtualSlave (some second)).mapDigitalInputs
    (some mapped) 0 1

theorem twoTerminals_agree {mapped : SlaveRef} (h : mapped = 0 ∨ mapped = 1) :
    AgreeOnPresent (twoTerminals mapped false) (twoTerminals mapped true) := by
  have hrefs : ∀ ref, some ref ∈ (twoTerminals mapped false).slaves → ref = 0 ∨ ref = 1 := by
    intro ref hmem
    have hslaves : (twoTerminals mapped false).slaves = [some 0, some 1] := rfl
    rw [hslaves] at hmem
    simpa using hmem
  refine ⟨fun _ => rfl, ?_, ?_⟩
  · intro ref hmem
    rcases h with rfl | rfl <;> rcases hrefs ref hmem with rfl | rfl <;> rfl
  · intro ref hr
    obtain ⟨hmem, hon⟩ := hr
    rcases h with rfl | rfl <;> rcases hrefs ref hmem with rfl | rfl
    · rfl
    · exact absurd hon (by decide)
    · rfl
    · exact absurd hon (by decide)

/-- A read of the first byte of the process image. -/
def readImage : Datagram := { command := .LRD, address := 0, data := [0], wkc := 0 }

/-- With the terminal that is online behind the mapping, nothing of the other one is
seen. -/
theorem absent_invisible_online_mapped :
    trace step shows (twoTerminals 0 true) [.runOnce, .frame [readImage]] =
      trace step shows (twoTerminals 0 false) [.runOnce, .frame [readImage]] := by
  have hnone : StepsOk step NoneAppears (twoTerminals 0 false) [.runOnce, .frame [readImage]] :=
    ⟨trivial, trivial, trivial⟩
  have hmaps : StepsOk step MapsPresent (twoTerminals 0 false) [.runOnce, .frame [readImage]] := by
    refine ⟨?_, trivial, trivial⟩
    intro m hm ref hlock
    obtain rfl := List.mem_singleton.mp hm
    rw [lock_eq_some_iff] at hlock
    obtain rfl := Option.some.inj hlock.1
    decide
  exact (absent_invisible (twoTerminals_agree (.inl rfl)) hnone hmaps).1

/-- With the terminal that is offline behind the mapping, `runOnce` copies its inputs
into the logical memory, where the next frame reads them. -/
theorem absent_invisible_mapped_false :
    AgreeOnPresent (twoTerminals 1 false) (twoTerminals 1 true) ∧
      StepsOk step NoneAppears (twoTerminals 1 false) [.runOnce, .frame [readImage]] ∧
      (trace step shows (twoTerminals 1 false) [.runOnce, .frame [readImage]]).map
        (fun shown => shown.1.map Datagram.data) = [[], [[0]]] ∧
      (trace step shows (twoTerminals 1 true) [.runOnce, .frame [readImage]]).map
        (fun shown => shown.1.map Datagram.data) = [[], [[255]]] := by
  refine ⟨twoTerminals_agree (.inr rfl), ⟨trivial, trivial, trivial⟩, ?_, ?_⟩
  · decide +kernel
  · decide +kernel

end NetworkStep

end EthercatSim
