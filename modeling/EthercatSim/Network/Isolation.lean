import EthercatSim.Network.Broadcast
import EthercatSim.VirtualSlave.StationAddress

/-!
# Addressed accesses

The four functions of the simulator that reach one slave, by station address or by
index in the registry, read or write, as one type `BusAccess`.

* `IsTarget` says which slave an access is for, in terms of the registry, and
  `target_eq_some_iff` that the two lookups of the code find it.
* `perform_eq`: an access is the read or the write of its target, and nothing when
  it has no target.
* `target_congr`: an access finds the same target as long as the registry, the
  online flags and the addresses are the same, so another access changes it only
  by a write at STATION_ADDR.
* `isolated`: one access changes at most its target, a refused one changes
  nothing, and two accesses with different targets commute.
* `interpret_of_access`: a datagram of an FP or AP command is one access.
-/

namespace EthercatSim

open Kickcat

variable {σ : Type}

namespace NetworkSimulator

/-- The slave is online and has the station address. -/
def Answers (sim : NetworkSimulator σ) (addr : UInt16) (ref : SlaveRef) : Prop :=
  (sim.objects ref).online = true ∧ (sim.objects ref).address = addr

/-- The slave is the first one of the registry that answers to the address. -/
def IsFirstAt (sim : NetworkSimulator σ) (addr : UInt16) (ref : SlaveRef) : Prop :=
  ∃ before after, sim.slaves = before ++ some ref :: after ∧ sim.Answers addr ref ∧
    ∀ r, some r ∈ before → ¬sim.Answers addr r

/-- The slave is at the index and online. -/
def IsOnlineAt (sim : NetworkSimulator σ) (index : Nat) (ref : SlaveRef) : Prop :=
  sim.slaves[index]? = some (some ref) ∧ (sim.objects ref).online = true

instance (sim : NetworkSimulator σ) (addr : UInt16) (ref : SlaveRef) :
    Decidable (sim.Answers addr ref) :=
  inferInstanceAs (Decidable (_ ∧ _))

/-- The slave of a slot, when it answers to the address. -/
def answeringRef (sim : NetworkSimulator σ) (addr : UInt16) : Option SlaveRef → Option SlaveRef
  | some ref => if sim.Answers addr ref then some ref else none
  | none => none

theorem answeringRef_eq_some {sim : NetworkSimulator σ} {addr : UInt16} {slot : Option SlaveRef}
    {ref : SlaveRef} :
    sim.answeringRef addr slot = some ref ↔ slot = some ref ∧ sim.Answers addr ref := by
  cases slot with
  | none => simp [answeringRef]
  | some r =>
    rw [answeringRef, Option.ite_none_right_eq_some, and_comm, Option.some.injEq]
    constructor
    · intro hcase
      obtain ⟨rfl, h⟩ := hcase
      exact ⟨rfl, h⟩
    · intro hcase
      obtain ⟨rfl, h⟩ := hcase
      exact ⟨rfl, h⟩

theorem getSlaveByStationAddress_eq (sim : NetworkSimulator σ) (addr : UInt16) :
    sim.getSlaveByStationAddress addr = sim.slaves.findSome? (sim.answeringRef addr) := by
  unfold getSlaveByStationAddress
  congr 1

/-- The lookup of a station finds the first slave that answers to the address. -/
theorem getSlaveByStationAddress_eq_some_iff {sim : NetworkSimulator σ} {addr : UInt16}
    {ref : SlaveRef} : sim.getSlaveByStationAddress addr = some ref ↔ sim.IsFirstAt addr ref := by
  rw [getSlaveByStationAddress_eq, List.findSome?_eq_some_iff]
  constructor
  · intro hcase
    obtain ⟨before, slot, after, hslaves, hfound, hbefore⟩ := hcase
    obtain ⟨rfl, hanswers⟩ := answeringRef_eq_some.mp hfound
    refine ⟨before, after, hslaves, hanswers, ?_⟩
    intro r hr hanswers'
    have hnone := hbefore (some r) hr
    rw [answeringRef_eq_some.mpr ⟨rfl, hanswers'⟩] at hnone
    cases hnone
  · intro hcase
    obtain ⟨before, after, hslaves, hanswers, hbefore⟩ := hcase
    refine ⟨before, some ref, after, hslaves, answeringRef_eq_some.mpr ⟨rfl, hanswers⟩, ?_⟩
    intro slot hmem
    rw [Option.eq_none_iff_forall_ne_some]
    intro r hfound
    obtain ⟨rfl, hanswers'⟩ := answeringRef_eq_some.mp hfound
    exact hbefore r hmem hanswers'

/-- A slave that answers is found, or one before it. -/
theorem exists_isFirstAt {sim : NetworkSimulator σ} {addr : UInt16} {ref : SlaveRef}
    (hmem : some ref ∈ sim.slaves) (h : sim.Answers addr ref) : ∃ r, sim.IsFirstAt addr r := by
  have hfound : (sim.slaves.findSome? (sim.answeringRef addr)).isSome := by
    rw [List.findSome?_isSome_iff]
    refine ⟨some ref, hmem, ?_⟩
    rw [answeringRef_eq_some.mpr ⟨rfl, h⟩]
    rfl
  rw [← getSlaveByStationAddress_eq] at hfound
  obtain ⟨r, hr⟩ := Option.isSome_iff_exists.mp hfound
  exact ⟨r, getSlaveByStationAddress_eq_some_iff.mp hr⟩

/-- In a registry without null slots the first slave at an address is one of the
slaves. -/
theorem mem_of_isFirstAt {sim : NetworkSimulator σ} {refs : List SlaveRef} {addr : UInt16}
    {r : SlaveRef} (hslaves : sim.slaves = refs.map some) (h : sim.IsFirstAt addr r) :
    r ∈ refs ∧ (sim.objects r).address = addr := by
  obtain ⟨before, after, hsplit, hanswers, -⟩ := h
  have hmem : some r ∈ refs.map some := by
    rw [← hslaves, hsplit]
    exact List.mem_append_right before List.mem_cons_self
  obtain ⟨r', hr', heq⟩ := List.mem_map.mp hmem
  obtain rfl := Option.some.inj heq
  exact ⟨hr', hanswers.2⟩

/-- Both functions that take an index reach the slave at the index when it is
online. -/
theorem writeTarget_eq_some_iff {sim : NetworkSimulator σ} {index : Nat} {ref : SlaveRef} :
    sim.writeTarget index = some ref ↔ sim.IsOnlineAt index ref := by
  rw [writeTarget_eq, Option.bind_eq_some_iff]
  constructor
  · intro hcase
    obtain ⟨slot, hslot, honline⟩ := hcase
    obtain ⟨rfl, hon⟩ := onlineRef_eq_some.mp honline
    exact ⟨hslot, hon⟩
  · intro hcase
    obtain ⟨hslot, hon⟩ := hcase
    exact ⟨some ref, hslot, onlineRef_eq_some.mpr ⟨rfl, hon⟩⟩

/-- The read by index is a read of the target of the index, or nothing. -/
theorem readFromSlaveByIndex_eq (sim : NetworkSimulator σ) (index : Nat) (reg : UInt16)
    (out : List UInt8) :
    sim.readFromSlaveByIndex index reg out =
      match sim.writeTarget index with
      | some ref => sim.readObject ref reg out
      | none => (false, out, sim) := by
  unfold readFromSlaveByIndex writeTarget
  cases sim.getSlaveByIndex index with
  | none => rfl
  | some ref =>
    show (if (sim.objects ref).online = true then _ else _) = _
    by_cases hon : (sim.objects ref).online = true
    · simp only [if_pos hon]
    · simp only [if_neg hon]

@[simp] theorem setObject_objects (sim : NetworkSimulator σ) (ref : SlaveRef)
    (s : VirtualSlave σ) (r : SlaveRef) :
    (sim.setObject ref s).objects r = if r = ref then s else sim.objects r := rfl

/-- Changes to two different objects commute. -/
theorem setObject_comm (sim : NetworkSimulator σ) {ref ref' : SlaveRef} (hne : ref ≠ ref')
    (s s' : VirtualSlave σ) :
    (sim.setObject ref s).setObject ref' s' = (sim.setObject ref' s').setObject ref s := by
  unfold setObject
  congr 1
  funext r
  by_cases h : r = ref
  · subst h
    simp [hne]
  · simp [h]

/-- Putting an object back where it was changes nothing. -/
theorem setObject_self (sim : NetworkSimulator σ) (ref : SlaveRef) :
    sim.setObject ref (sim.objects ref) = sim := by
  have hobjects : (fun r => if r = ref then sim.objects ref else sim.objects r) = sim.objects := by
    funext r
    split
    · rename_i h
      rw [h]
    · rfl
  rw [setObject, hobjects]

end NetworkSimulator

open NetworkSimulator

/-- An addressed access.  A read carries the buffer that it is to fill. -/
inductive BusAccess where
  | readStation (stationAddress reg : UInt16) (out : List UInt8)
  | writeStation (stationAddress reg : UInt16) (data : List UInt8)
  | readIndex (index : Nat) (reg : UInt16) (out : List UInt8)
  | writeIndex (index : Nat) (reg : UInt16) (data : List UInt8)
  deriving DecidableEq, Repr

namespace BusAccess

/-- The buffer that the caller passes. -/
def buffer : BusAccess → List UInt8
  | .readStation _ _ out => out
  | .writeStation _ _ data => data
  | .readIndex _ _ out => out
  | .writeIndex _ _ data => data

/-- The call of the simulator: the result, the buffer afterwards and the simulator.
A write leaves its buffer alone. -/
def perform [SlaveDevice σ] (sim : NetworkSimulator σ) :
    BusAccess → Bool × List UInt8 × NetworkSimulator σ
  | .readStation addr reg out => sim.readFromSlave addr reg out
  | .writeStation addr reg data =>
    let (ok, sim) := sim.writeToSlave addr reg data
    (ok, data, sim)
  | .readIndex index reg out => sim.readFromSlaveByIndex index reg out
  | .writeIndex index reg data =>
    let (ok, sim) := sim.writeToSlaveByIndex index reg data
    (ok, data, sim)

/-- The slave that an access is for: the first online one of the registry with the
station address, or the one at the index when it is online. -/
def IsTarget (sim : NetworkSimulator σ) : BusAccess → SlaveRef → Prop
  | .readStation addr _ _, ref => sim.IsFirstAt addr ref
  | .writeStation addr _ _, ref => sim.IsFirstAt addr ref
  | .readIndex index _ _, ref => sim.IsOnlineAt index ref
  | .writeIndex index _ _, ref => sim.IsOnlineAt index ref

/-- A write that starts at STATION_ADDR. -/
def WritesAddress : BusAccess → Prop
  | .writeStation _ reg _ => reg = 0x0010
  | .writeIndex _ reg _ => reg = 0x0010
  | _ => False

/-! ## An access and its target -/

/-- The lookup that an access makes. -/
def target (sim : NetworkSimulator σ) : BusAccess → Option SlaveRef
  | .readStation addr _ _ => sim.getSlaveByStationAddress addr
  | .writeStation addr _ _ => sim.getSlaveByStationAddress addr
  | .readIndex index _ _ => sim.writeTarget index
  | .writeIndex index _ _ => sim.writeTarget index

theorem target_eq_some_iff {sim : NetworkSimulator σ} {a : BusAccess} {ref : SlaveRef} :
    a.target sim = some ref ↔ a.IsTarget sim ref := by
  cases a with
  | readStation addr reg out => exact getSlaveByStationAddress_eq_some_iff
  | writeStation addr reg data => exact getSlaveByStationAddress_eq_some_iff
  | readIndex index reg out => exact writeTarget_eq_some_iff
  | writeIndex index reg data => exact writeTarget_eq_some_iff

/-- What an access does to the slave that it reaches. -/
def onSlave [SlaveDevice σ] (s : VirtualSlave σ) :
    BusAccess → Bool × List UInt8 × VirtualSlave σ
  | .readStation _ reg out => s.read reg out
  | .writeStation _ reg data => ((s.write reg data).1, data, (s.write reg data).2)
  | .readIndex _ reg out => s.read reg out
  | .writeIndex _ reg data => ((s.write reg data).1, data, (s.write reg data).2)

/-- What an access returns that reaches no slave. -/
def unreached (sim : NetworkSimulator σ) : BusAccess → Bool × List UInt8
  | .readStation addr _ out =>
    if sim.isStub addr then (true, List.replicate out.length 0) else (false, out)
  | .writeStation addr _ data => (sim.isStub addr, data)
  | .readIndex _ _ out => (false, out)
  | .writeIndex _ _ data => (false, data)

/-- An access is what it does to its target, or nothing. -/
theorem perform_eq [SlaveDevice σ] (sim : NetworkSimulator σ) (a : BusAccess) :
    a.perform sim =
      match a.target sim with
      | some ref =>
        let out := a.onSlave (sim.objects ref)
        (out.1, out.2.1, sim.setObject ref out.2.2)
      | none => ((a.unreached sim).1, (a.unreached sim).2, sim) := by
  cases a with
  | readStation addr reg out =>
    simp only [perform, readFromSlave, target]
    cases sim.getSlaveByStationAddress addr with
    | some ref => rfl
    | none =>
      simp only [unreached]
      split <;> rfl
  | writeStation addr reg data =>
    simp only [perform, writeToSlave, target]
    cases sim.getSlaveByStationAddress addr with
    | some ref => rfl
    | none => rfl
  | readIndex index reg out =>
    simp only [perform, readFromSlaveByIndex_eq, target]
    cases sim.writeTarget index with
    | some ref => rfl
    | none => rfl
  | writeIndex index reg data =>
    simp only [perform, writeToSlaveByIndex_eq, target]
    cases sim.writeTarget index with
    | some ref => rfl
    | none => rfl

section Perform

variable [SlaveDevice σ] {sim : NetworkSimulator σ} {a : BusAccess}

theorem perform_of_target {ref : SlaveRef} (h : a.target sim = some ref) :
    a.perform sim =
      ((a.onSlave (sim.objects ref)).1, (a.onSlave (sim.objects ref)).2.1,
        sim.setObject ref (a.onSlave (sim.objects ref)).2.2) := by
  rw [perform_eq, h]

theorem perform_of_unreached (h : a.target sim = none) :
    a.perform sim = ((a.unreached sim).1, (a.unreached sim).2, sim) := by
  rw [perform_eq, h]

/-- An access is an access in the sense of the frame of a datagram. -/
theorem perform_accessStep (sim : NetworkSimulator σ) (a : BusAccess) :
    AccessStep sim (a.perform sim).2.2 := by
  cases a with
  | readStation addr reg out => exact .readFromSlave sim addr reg out
  | writeStation addr reg data => exact .writeToSlave sim addr reg data
  | readIndex index reg out => exact .readFromSlaveByIndex sim index reg out
  | writeIndex index reg data => exact .writeToSlaveByIndex sim index reg data

/-! ## Isolation -/

/-- An access leaves every slave alone that is not its target. -/
theorem perform_objects_of_not_target {ref : SlaveRef} (h : ¬a.IsTarget sim ref) :
    (a.perform sim).2.2.objects ref = sim.objects ref := by
  rw [← target_eq_some_iff] at h
  cases ht : a.target sim with
  | none => rw [perform_of_unreached ht]
  | some r =>
    have hne : ref ≠ r := fun he => h (he ▸ ht)
    rw [perform_of_target ht, setObject_objects, if_neg hne]

/-- An access changes nothing but slave objects. -/
theorem perform_outside (sim : NetworkSimulator σ) (a : BusAccess) :
    (a.perform sim).2.2 = { sim with objects := (a.perform sim).2.2.objects } := by
  cases ht : a.target sim with
  | none => rw [perform_of_unreached ht]
  | some r =>
    rw [perform_of_target ht]
    rfl

/-- A slave that refuses an access changes neither itself nor the buffer. -/
theorem onSlave_of_false {s : VirtualSlave σ} (h : (a.onSlave s).1 = false) :
    a.onSlave s = (false, a.buffer, s) := by
  cases a with
  | readStation addr reg out => exact VirtualSlave.read_of_false h
  | writeStation addr reg data =>
    rw [onSlave, VirtualSlave.write_of_false h]
    rfl
  | readIndex index reg out => exact VirtualSlave.read_of_false h
  | writeIndex index reg data =>
    rw [onSlave, VirtualSlave.write_of_false h]
    rfl

omit [SlaveDevice σ] in
theorem unreached_of_false (h : (a.unreached sim).1 = false) : (a.unreached sim).2 = a.buffer := by
  cases a with
  | readStation addr reg out =>
    rw [unreached] at h ⊢
    by_cases hstub : sim.isStub addr = true
    · rw [if_pos hstub] at h
      cases h
    · rw [if_neg hstub]
      rfl
  | writeStation addr reg data => rfl
  | readIndex index reg out => rfl
  | writeIndex index reg data => rfl

/-- An access that returns false changes nothing. -/
theorem perform_of_false (h : (a.perform sim).1 = false) :
    a.perform sim = (false, a.buffer, sim) := by
  cases ht : a.target sim with
  | none =>
    rw [perform_of_unreached ht] at h ⊢
    rw [unreached_of_false h, h]
  | some ref =>
    rw [perform_of_target ht] at h ⊢
    rw [onSlave_of_false h, setObject_self]

/-! ## Commutation -/

/-- An access that does not write STATION_ADDR leaves every address alone. -/
theorem onSlave_address (s : VirtualSlave σ) (h : ¬a.WritesAddress) :
    (a.onSlave s).2.2.address = s.address := by
  cases a with
  | readStation addr reg out => exact VirtualSlave.read_address s reg out
  | writeStation addr reg data => exact VirtualSlave.write_address s data h
  | readIndex index reg out => exact VirtualSlave.read_address s reg out
  | writeIndex index reg data => exact VirtualSlave.write_address s data h

theorem perform_address (h : ¬a.WritesAddress) (ref : SlaveRef) :
    ((a.perform sim).2.2.objects ref).address = (sim.objects ref).address := by
  cases ht : a.target sim with
  | none => rw [perform_of_unreached ht]
  | some r =>
    rw [perform_of_target ht, setObject_objects]
    split
    · rename_i he
      rw [he]
      exact onSlave_address _ h
    · rfl

omit [SlaveDevice σ] in
/-- The lookups depend on the registry, the online flags and the addresses only. -/
theorem target_congr {sim' : NetworkSimulator σ} (hstep : AccessStep sim sim')
    (haddress : ∀ ref, (sim'.objects ref).address = (sim.objects ref).address) :
    a.target sim' = a.target sim := by
  have hstation : ∀ addr,
      sim'.getSlaveByStationAddress addr = sim.getSlaveByStationAddress addr := by
    intro addr
    unfold getSlaveByStationAddress
    rw [hstep.slaves_eq]
    simp only [hstep.online, haddress]
  cases a with
  | readStation addr reg out => exact hstation addr
  | writeStation addr reg data => exact hstation addr
  | readIndex index reg out => exact writeTarget_congr hstep index
  | writeIndex index reg data => exact writeTarget_congr hstep index

omit [SlaveDevice σ] in
theorem unreached_congr {sim' : NetworkSimulator σ} (hslaves : sim'.slaves = sim.slaves)
    (hcount : sim'.virtualSlaveCount = sim.virtualSlaveCount) :
    a.unreached sim' = a.unreached sim := by
  have hstub : ∀ addr, sim'.isStub addr = sim.isStub addr := by
    intro addr
    rw [isStub, isStub, hslaves, hcount]
  cases a with
  | readStation addr reg out => rw [unreached, unreached, hstub]
  | writeStation addr reg data => rw [unreached, unreached, hstub]
  | readIndex index reg out => rfl
  | writeIndex index reg data => rfl

/-- Two accesses give the same final state, and each of them the same result and
buffer, in either order. -/
structure Commute (sim : NetworkSimulator σ) (a b : BusAccess) : Prop where
  state : (b.perform (a.perform sim).2.2).2.2 = (a.perform (b.perform sim).2.2).2.2
  first : (a.perform (b.perform sim).2.2).1 = (a.perform sim).1 ∧
    (a.perform (b.perform sim).2.2).2.1 = (a.perform sim).2.1
  second : (b.perform (a.perform sim).2.2).1 = (b.perform sim).1 ∧
    (b.perform (a.perform sim).2.2).2.1 = (b.perform sim).2.1

theorem Commute.symm {a b : BusAccess} (h : Commute sim a b) : Commute sim b a :=
  ⟨h.state.symm, h.second, h.first⟩

/-- An access without a target does not change what another one does. -/
theorem commute_of_unreached {b : BusAccess} (ha : a.target sim = none) (hb : ¬b.WritesAddress) :
    Commute sim a b := by
  have hstep := b.perform_accessStep sim
  have ha' : a.target (b.perform sim).2.2 = none :=
    (target_congr hstep (perform_address hb)).trans ha
  have hsame := unreached_congr (a := a) hstep.slaves_eq hstep.virtualSlaveCount_eq
  constructor
  case state => rw [perform_of_unreached ha, perform_of_unreached ha']
  case first =>
    rw [perform_of_unreached ha, perform_of_unreached ha', hsame]
    exact ⟨rfl, rfl⟩
  case second =>
    rw [perform_of_unreached ha]
    exact ⟨rfl, rfl⟩

/-- Accesses with two different targets. -/
theorem commute_of_targets {b : BusAccess} {ref ref' : SlaveRef} (ha : a.target sim = some ref)
    (hb : b.target sim = some ref') (hne : ref ≠ ref') (haddr : ¬a.WritesAddress)
    (hbddr : ¬b.WritesAddress) : Commute sim a b := by
  have ha' : a.target (b.perform sim).2.2 = some ref :=
    (target_congr (b.perform_accessStep sim) (perform_address hbddr)).trans ha
  have hb' : b.target (a.perform sim).2.2 = some ref' :=
    (target_congr (a.perform_accessStep sim) (perform_address haddr)).trans hb
  -- neither access has touched the target of the other
  have hobject : (b.perform sim).2.2.objects ref = sim.objects ref := by
    rw [perform_of_target hb, setObject_objects, if_neg hne]
  have hobject' : (a.perform sim).2.2.objects ref' = sim.objects ref' := by
    rw [perform_of_target ha, setObject_objects, if_neg hne.symm]
  constructor
  case state =>
    rw [perform_of_target hb', perform_of_target ha', hobject, hobject', perform_of_target ha,
      perform_of_target hb]
    exact setObject_comm sim hne _ _
  case first =>
    rw [perform_of_target ha', hobject, perform_of_target ha]
    exact ⟨rfl, rfl⟩
  case second =>
    rw [perform_of_target hb', hobject', perform_of_target hb]
    exact ⟨rfl, rfl⟩

theorem commute_of_disjoint {b : BusAccess}
    (hdisjoint : ∀ ref, a.IsTarget sim ref → ¬b.IsTarget sim ref) (ha : ¬a.WritesAddress)
    (hb : ¬b.WritesAddress) : Commute sim a b := by
  cases hta : a.target sim with
  | none => exact commute_of_unreached hta hb
  | some ref =>
    cases htb : b.target sim with
    | none => exact (commute_of_unreached htb ha).symm
    | some ref' =>
      refine commute_of_targets hta htb ?_ ha hb
      intro heq
      subst heq
      exact hdisjoint ref (target_eq_some_iff.mp hta) (target_eq_some_iff.mp htb)

/-- Every addressed access, in every state of the simulator.  It has at most one
target, and every other slave stays as it is; everything outside the slave
objects, the logical memory included, stays as it is; when it returns false, no
slave and no byte of the buffer changes; and with an access that has another
target it commutes, unless one of them is a write at STATION_ADDR. -/
theorem isolated (sim : NetworkSimulator σ) (a : BusAccess) :
    (∀ ref ref', a.IsTarget sim ref → a.IsTarget sim ref' → ref = ref') ∧
      (∀ ref, ¬a.IsTarget sim ref → (a.perform sim).2.2.objects ref = sim.objects ref) ∧
      (a.perform sim).2.2 = { sim with objects := (a.perform sim).2.2.objects } ∧
      ((a.perform sim).1 = false →
        (a.perform sim).2.2.objects = sim.objects ∧ (a.perform sim).2.1 = a.buffer) ∧
      ∀ b : BusAccess, (∀ ref, a.IsTarget sim ref → ¬b.IsTarget sim ref) → ¬a.WritesAddress →
        ¬b.WritesAddress → Commute sim a b := by
  refine ⟨?_, fun ref h => perform_objects_of_not_target h, perform_outside sim a, ?_,
    fun b hdisjoint ha hb => commute_of_disjoint hdisjoint ha hb⟩
  · intro ref ref' h h'
    have heq := (target_eq_some_iff.mpr h).symm.trans (target_eq_some_iff.mpr h')
    exact Option.some.inj heq
  · intro h
    rw [perform_of_false h]
    exact ⟨rfl, rfl⟩

end Perform

/-- A read of the first of two slaves by its address and a write to the second one
by its index. -/
theorem isolated_two_slaves :
    Commute (twoSlaves true) (.readStation 1 0x0010 [0, 0]) (.writeIndex 1 0x0200 [7]) ∧
      ((BusAccess.readStation 5 0x0010 [3]).perform (twoSlaves true)).2.1 = [3] := by
  have hread := isolated (twoSlaves true) (.readStation 1 0x0010 [0, 0])
  have hmissing := isolated (twoSlaves true) (.readStation 5 0x0010 [3])
  refine ⟨hread.2.2.2.2 (.writeIndex 1 0x0200 [7]) ?_ id ?_, ?_⟩
  · intro ref h h'
    have heq := (target_eq_some_iff.mpr h).symm.trans (by decide : _ = some 0)
    have heq' := (target_eq_some_iff.mpr h').symm.trans (by decide : _ = some 1)
    rw [heq] at heq'
    cases heq'
  · show ¬(0x0200 : UInt16) = 0x0010
    decide
  · exact (hmissing.2.2.2.1 (by decide)).2

end BusAccess

/-! ## The access of a datagram -/

/-- The access that a datagram of an FP or AP command makes. -/
def Datagram.access (d : Datagram) : Option BusAccess :=
  let (adp, ado) := extractAddress d.address
  match d.command with
  | .FPRD => some (.readStation adp ado d.data)
  | .FPWR | .FPRW => some (.writeStation adp ado d.data)
  | .APRD => some (.readIndex (SlavesEndpoint.apIndex adp) ado d.data)
  | .APWR | .APRW => some (.writeIndex (SlavesEndpoint.apIndex adp) ado d.data)
  | _ => none

/-- Such a datagram is its access. -/
theorem interpret_of_access [SlaveDevice σ] {d : Datagram} {a : BusAccess}
    (h : d.access = some a) (sim : NetworkSimulator σ) :
    SlavesEndpoint.interpret sim d =
      ((a.perform sim).2.2,
        { d with data := (a.perform sim).2.1, wkc := ackOf (a.perform sim).1 }) := by
  cases hc : d.command <;> simp only [Datagram.access, hc, Option.some.injEq, reduceCtorEq] at h
  all_goals
    subst h
    simp only [SlavesEndpoint.interpret, hc, reduceCtorEq, if_true, if_false]
    rfl

end EthercatSim
