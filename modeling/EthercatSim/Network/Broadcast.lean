import Mathlib.Data.List.Dedup
import EthercatSim.Network.Datagram

/-!
# Broadcast writes

BWR and BRW are to apply a write to every online slave.  The loop runs over the
registry indices below `onlineSlaveCount`, so it reaches an online slave only
when its slot is among that many first ones.

* `broadcastTargets_eq_filterMap`: the slaves that the loop writes to are those of
  its slots that are online.
* `writeObjects_objects` and `writeObjects_okc`: what the loop leaves behind when
  it visits no slave twice.
* `interpretLogged` is the interpreter with a record of the calls of `write`, and
  `interpretLogged_fst` says that it is the interpreter.
* `broadcastApplied_iff`: the broadcast does what it is for exactly when each
  online slave has one slot among these.  `onlineInFront_iff_of_nodup` says the
  same for a registry without repetitions: the online slaves come first.
* `broadcastApplied_offline_first_false`: one offline slave in front of an
  online one.
-/

namespace EthercatSim

open Kickcat Bytes

variable {σ : Type}

namespace NetworkSimulator

/-- The slave of a slot, when it is online. -/
def onlineRef (sim : NetworkSimulator σ) (slot : Option SlaveRef) : Option SlaveRef :=
  slot.filter fun ref => (sim.objects ref).online

/-- The slave is in the registry and online. -/
def IsOnlineSlave (sim : NetworkSimulator σ) (ref : SlaveRef) : Prop :=
  some ref ∈ sim.slaves ∧ (sim.objects ref).online = true

instance (sim : NetworkSimulator σ) (ref : SlaveRef) : Decidable (sim.IsOnlineSlave ref) :=
  inferInstanceAs (Decidable (_ ∧ _))

/-- The online slaves, each once. -/
def onlineSlaves (sim : NetworkSimulator σ) : List SlaveRef :=
  (sim.slaves.filterMap sim.onlineRef).dedup

/-- Each online slave has exactly one slot among the first `onlineSlaveCount`
ones. -/
def OnlineInFront (sim : NetworkSimulator σ) : Prop :=
  ∀ ref, sim.IsOnlineSlave ref →
    (sim.slaves.take sim.onlineSlaveCount).count (some ref) = 1

theorem onlineRef_eq_some {sim : NetworkSimulator σ} {slot : Option SlaveRef} {ref : SlaveRef} :
    sim.onlineRef slot = some ref ↔ slot = some ref ∧ (sim.objects ref).online = true := by
  rw [onlineRef, Option.filter_eq_some_iff]

theorem mem_filterMap_onlineRef {sim : NetworkSimulator σ} {slots : List (Option SlaveRef)}
    {ref : SlaveRef} :
    ref ∈ slots.filterMap sim.onlineRef ↔
      some ref ∈ slots ∧ (sim.objects ref).online = true := by
  rw [List.mem_filterMap]
  constructor
  · intro h
    obtain ⟨slot, hmem, hslot⟩ := h
    obtain ⟨rfl, hon⟩ := onlineRef_eq_some.mp hslot
    exact ⟨hmem, hon⟩
  · intro h
    exact ⟨some ref, h.1, onlineRef_eq_some.mpr ⟨rfl, h.2⟩⟩

theorem mem_onlineSlaves {sim : NetworkSimulator σ} {ref : SlaveRef} :
    ref ∈ sim.onlineSlaves ↔ sim.IsOnlineSlave ref := by
  rw [onlineSlaves, List.mem_dedup, mem_filterMap_onlineRef, IsOnlineSlave]

theorem nodup_onlineSlaves (sim : NetworkSimulator σ) : sim.onlineSlaves.Nodup :=
  List.nodup_dedup _

/-- An online slave occurs among the online ones of some slots as often as it has
one of the slots. -/
theorem count_filterMap_onlineRef {sim : NetworkSimulator σ} {ref : SlaveRef}
    (hon : (sim.objects ref).online = true) (slots : List (Option SlaveRef)) :
    (slots.filterMap sim.onlineRef).count ref = slots.count (some ref) := by
  induction slots with
  | nil => rfl
  | cons slot slots ih =>
    rw [List.count_cons]
    cases hslot : sim.onlineRef slot with
    | none =>
      have hne : ¬(slot == some ref) = true := by
        intro heq
        rw [beq_iff_eq] at heq
        rw [heq, onlineRef_eq_some.mpr ⟨rfl, hon⟩] at hslot
        simp at hslot
      rw [List.filterMap_cons_none hslot, ih, if_neg hne]
      rfl
    | some r =>
      obtain ⟨rfl, -⟩ := onlineRef_eq_some.mp hslot
      rw [List.filterMap_cons_some hslot, List.count_cons, ih]
      simp

/-- In a registry without repetitions, whose size is the slave count, the online
slaves are in front exactly when they come before every other slot. -/
theorem onlineInFront_iff_of_nodup {sim : NetworkSimulator σ} (hnodup : sim.slaves.Nodup)
    (hsize : sim.virtualSlaveCount ≤ sim.slaves.length) :
    sim.OnlineInFront ↔
      ∀ slot ∈ sim.slaves.take sim.onlineSlaveCount, sim.isOnline slot = true := by
  have hcount : sim.onlineSlaveCount = sim.slaves.countP sim.isOnline :=
    if_neg (Nat.not_lt.mpr hsize)
  have hle : sim.onlineSlaveCount ≤ sim.slaves.length := by
    rw [hcount]
    exact List.countP_le_length
  unfold OnlineInFront
  generalize sim.onlineSlaveCount = n at hcount hle
  have hsplit := List.take_append_drop n sim.slaves
  have hsum : (sim.slaves.take n).countP sim.isOnline + (sim.slaves.drop n).countP sim.isOnline =
      n := by
    rw [← List.countP_append, hsplit]
    exact hcount.symm
  have hlength : (sim.slaves.take n).length = n := by
    rw [List.length_take]
    omega
  have hone : ∀ ref, (sim.slaves.take n).count (some ref) + (sim.slaves.drop n).count (some ref) ≤
      1 := by
    intro ref
    rw [← List.count_append, hsplit]
    exact List.nodup_iff_count.mp hnodup (some ref)
  constructor
  · intro h
    have hrest : (sim.slaves.drop n).countP sim.isOnline = 0 := by
      rw [List.countP_eq_zero]
      intro slot hslot hon
      cases slot with
      | none => simp [isOnline] at hon
      | some ref =>
        have hfront := h ref ⟨List.mem_of_mem_drop hslot, hon⟩
        have hback := List.count_pos_iff.mpr hslot
        have hle1 := hone ref
        omega
    rw [← List.countP_eq_length, hlength]
    omega
  · intro h ref href
    have hall := List.countP_eq_length.mpr h
    have hrest : (sim.slaves.drop n).countP sim.isOnline = 0 := by omega
    have hmem : some ref ∈ sim.slaves.take n := by
      have hwhole := href.1
      rw [← hsplit, List.mem_append] at hwhole
      rcases hwhole with hfront | hback
      · exact hfront
      · exact absurd href.2 (List.countP_eq_zero.mp hrest _ hback)
    have hpos := List.count_pos_iff.mpr hmem
    have hle1 := hone ref
    omega

/-- The slave that `writeToSlaveByIndex` writes to. -/
def writeTarget (sim : NetworkSimulator σ) (index : Nat) : Option SlaveRef :=
  match sim.getSlaveByIndex index with
  | some ref => if (sim.objects ref).online then some ref else none
  | none => none

/-- The write by index is a write to its target, or nothing. -/
theorem writeToSlaveByIndex_eq [SlaveDevice σ] (sim : NetworkSimulator σ) (index : Nat)
    (reg : UInt16) (data : List UInt8) :
    sim.writeToSlaveByIndex index reg data =
      match sim.writeTarget index with
      | some ref => sim.writeObject ref reg data
      | none => (false, sim) := by
  unfold writeToSlaveByIndex writeTarget
  cases sim.getSlaveByIndex index with
  | none => rfl
  | some ref =>
    show (if (sim.objects ref).online = true then _ else _) = _
    by_cases hon : (sim.objects ref).online = true
    · simp only [if_pos hon]
    · simp only [if_neg hon]

theorem writeTarget_eq (sim : NetworkSimulator σ) (index : Nat) :
    sim.writeTarget index = sim.slaves[index]?.bind sim.onlineRef := by
  unfold writeTarget getSlaveByIndex
  rcases Nat.lt_or_ge index sim.slaves.length with h | h
  · rw [if_pos h, List.getD_eq_getElem?_getD, List.getElem?_eq_getElem h]
    show (match sim.slaves[index] with
      | some ref => _
      | none => none) = sim.onlineRef sim.slaves[index]
    cases sim.slaves[index] with
    | none => rfl
    | some ref => rfl
  · rw [if_neg (Nat.not_lt.mpr h), List.getElem?_eq_none h]
    rfl

theorem writeTarget_congr {sim sim' : NetworkSimulator σ} (h : AccessStep sim sim')
    (index : Nat) : sim'.writeTarget index = sim.writeTarget index := by
  have honline : sim'.onlineRef = sim.onlineRef := by
    funext slot
    simp only [onlineRef, h.online]
  rw [writeTarget_eq, writeTarget_eq, h.slaves_eq, honline]

end NetworkSimulator

/-! ## The slaves that the loop writes to -/

section Loop

variable [SlaveDevice σ]

/-- The slaves whose `write` the loop of a broadcast calls, in order. -/
def broadcastTargets (ado : UInt16) (data : List UInt8) :
    List Nat → NetworkSimulator σ → List SlaveRef
  | [], _ => []
  | idx :: indices, sim =>
    (sim.writeTarget idx).toList ++
      broadcastTargets ado data indices (sim.writeToSlaveByIndex idx ado data).2

/-- No write changes a later target. -/
theorem broadcastTargets_eq_filterMap (ado : UInt16) (data : List UInt8) (indices : List Nat)
    (sim : NetworkSimulator σ) :
    broadcastTargets ado data indices sim = indices.filterMap sim.writeTarget := by
  induction indices generalizing sim with
  | nil => rfl
  | cons idx indices ih =>
    have hstep := AccessStep.writeToSlaveByIndex sim idx ado data
    have htarget : (sim.writeToSlaveByIndex idx ado data).2.writeTarget = sim.writeTarget := by
      funext index
      exact NetworkSimulator.writeTarget_congr hstep index
    rw [broadcastTargets, ih, htarget]
    cases h : sim.writeTarget idx with
    | none => rw [List.filterMap_cons_none h]; rfl
    | some ref => rw [List.filterMap_cons_some h]; rfl

omit [SlaveDevice σ] in
/-- The targets of the first `n` indices are the online slaves of the first `n`
slots. -/
theorem filterMap_writeTarget (sim : NetworkSimulator σ) (n : Nat) :
    (List.range n).filterMap sim.writeTarget = (sim.slaves.take n).filterMap sim.onlineRef := by
  induction n with
  | zero => rfl
  | succ n ih =>
    rw [List.range_succ, List.filterMap_append, ih, List.take_add_one, List.filterMap_append]
    congr 1
    have htarget := sim.writeTarget_eq n
    cases hslot : sim.slaves[n]? with
    | none =>
      rw [hslot] at htarget
      rw [List.filterMap_cons_none htarget]
      rfl
    | some slot =>
      rw [hslot] at htarget
      have hsome : sim.writeTarget n = sim.onlineRef slot := htarget
      cases honline : sim.onlineRef slot with
      | none =>
        rw [honline] at hsome
        rw [List.filterMap_cons_none hsome]
        simp [honline]
      | some ref =>
        rw [honline] at hsome
        rw [List.filterMap_cons_some hsome]
        simp [honline]

/-! ## What the loop leaves behind -/

/-- Writes to the objects `refs`, one after the other, with the count of the
accepted ones added to `okc`. -/
def writeObjects (ado : UInt16) (data : List UInt8) :
    List SlaveRef → UInt16 → NetworkSimulator σ → UInt16 × NetworkSimulator σ
  | [], okc, sim => (okc, sim)
  | ref :: refs, okc, sim =>
    let (ok, sim) := sim.writeObject ref ado data
    writeObjects ado data refs (if ok then okc + 1 else okc) sim

/-- The loop over the indices writes to the targets of the indices. -/
theorem broadcastLoop_eq (ado : UInt16) (data : List UInt8) (indices : List Nat) (okc : UInt16)
    (sim : NetworkSimulator σ) :
    broadcastLoop ado data indices okc sim =
      writeObjects ado data (broadcastTargets ado data indices sim) okc sim := by
  induction indices generalizing okc sim with
  | nil => rfl
  | cons idx indices ih =>
    rw [broadcastLoop, broadcastTargets]
    have hwrite := sim.writeToSlaveByIndex_eq idx ado data
    cases htarget : sim.writeTarget idx with
    | none =>
      rw [htarget] at hwrite
      rw [hwrite]
      exact ih okc sim
    | some ref =>
      rw [htarget] at hwrite
      rw [hwrite]
      exact ih _ _

/-- The slave at `ref` accepts the write. -/
def accepts (sim : NetworkSimulator σ) (ado : UInt16) (data : List UInt8) (ref : SlaveRef) :
    Bool :=
  ((sim.objects ref).write ado data).1

/-- Writes to different objects: each of them is written to once, and no other
object changes. -/
theorem writeObjects_objects (ado : UInt16) (data : List UInt8) {refs : List SlaveRef}
    (hnodup : refs.Nodup) (okc : UInt16) (sim : NetworkSimulator σ) (r : SlaveRef) :
    (writeObjects ado data refs okc sim).2.objects r =
      if r ∈ refs then ((sim.objects r).write ado data).2 else sim.objects r := by
  induction refs generalizing okc sim with
  | nil => rfl
  | cons ref refs ih =>
    obtain ⟨hnotMem, hnodup'⟩ := List.nodup_cons.mp hnodup
    rw [writeObjects, ih hnodup']
    have hobject : (sim.writeObject ref ado data).2.objects r =
        if r = ref then ((sim.objects ref).write ado data).2 else sim.objects r := rfl
    rw [hobject]
    by_cases hr : r = ref
    · subst hr
      rw [if_neg hnotMem, if_pos rfl, if_pos (List.mem_cons_self)]
    · rw [if_neg hr]
      by_cases hmem : r ∈ refs
      · rw [if_pos hmem, if_pos (List.mem_cons_of_mem _ hmem)]
      · rw [if_neg hmem, if_neg (fun h => (List.mem_cons.mp h).elim hr hmem)]

/-- Writes to different objects: the counter grows by the number of those that
accept. -/
theorem writeObjects_okc (ado : UInt16) (data : List UInt8) {refs : List SlaveRef}
    (hnodup : refs.Nodup) (okc : UInt16) (sim : NetworkSimulator σ) :
    (writeObjects ado data refs okc sim).1 =
      okc + castUInt16 (refs.countP (accepts sim ado data)) := by
  induction refs generalizing okc sim with
  | nil =>
    rw [List.countP_nil]
    exact (UInt16.add_zero okc).symm
  | cons ref refs ih =>
    obtain ⟨hnotMem, hnodup'⟩ := List.nodup_cons.mp hnodup
    rw [writeObjects, ih hnodup', List.countP_cons]
    have haccepts : refs.countP (accepts (sim.writeObject ref ado data).2 ado data) =
        refs.countP (accepts sim ado data) := by
      apply List.countP_congr
      intro r hr
      have hne : r ≠ ref := fun h => hnotMem (h ▸ hr)
      show ((if r = ref then _ else sim.objects r).write ado data).1 = true ↔ _
      rw [if_neg hne]
      rfl
    rw [haccepts]
    show (if accepts sim ado data ref = true then okc + 1 else okc) + _ = _
    cases accepts sim ado data ref with
    | false => rfl
    | true =>
      have hsucc : castUInt16 (refs.countP (accepts sim ado data) + 1) =
          1 + castUInt16 (refs.countP (accepts sim ado data)) := by
        rw [castUInt16, castUInt16, UInt16.ofNat_add, UInt16.add_comm]
        rfl
      rw [if_pos rfl, if_pos rfl, hsucc, UInt16.add_assoc]

/-! ## The record of the calls

The interpreters again, with a record of the calls of `VirtualSlave::write` that they
make.  Without the record they are the interpreters of the model.
-/

/-- A call of `write(reg, data, len)` on a slave object. -/
structure SlaveWrite where
  ref : SlaveRef
  reg : UInt16
  data : List UInt8
  deriving DecidableEq, Repr

namespace NetworkSimulator

/-- `writeObject` is the one place where a slave is written to. -/
def writeObjectLogged (sim : NetworkSimulator σ) (ref : SlaveRef) (reg : UInt16)
    (data : List UInt8) : (Bool × NetworkSimulator σ) × List SlaveWrite :=
  (sim.writeObject ref reg data, [⟨ref, reg, data⟩])

def writeToSlaveLogged (sim : NetworkSimulator σ) (stationAddress reg : UInt16)
    (data : List UInt8) : (Bool × NetworkSimulator σ) × List SlaveWrite :=
  match sim.getSlaveByStationAddress stationAddress with
  | some ref => sim.writeObjectLogged ref reg data
  | none => ((sim.isStub stationAddress, sim), [])

def writeToSlaveByIndexLogged (sim : NetworkSimulator σ) (index : Nat) (reg : UInt16)
    (data : List UInt8) : (Bool × NetworkSimulator σ) × List SlaveWrite :=
  match sim.getSlaveByIndex index with
  | some ref =>
    if (sim.objects ref).online then sim.writeObjectLogged ref reg data else ((false, sim), [])
  | none => ((false, sim), [])

theorem writeToSlaveLogged_fst (sim : NetworkSimulator σ) (addr reg : UInt16)
    (data : List UInt8) :
    (sim.writeToSlaveLogged addr reg data).1 = sim.writeToSlave addr reg data := by
  unfold writeToSlaveLogged writeToSlave
  cases sim.getSlaveByStationAddress addr <;> rfl

theorem writeToSlaveByIndexLogged_fst (sim : NetworkSimulator σ) (index : Nat) (reg : UInt16)
    (data : List UInt8) :
    (sim.writeToSlaveByIndexLogged index reg data).1 = sim.writeToSlaveByIndex index reg data := by
  unfold writeToSlaveByIndexLogged writeToSlaveByIndex
  cases sim.getSlaveByIndex index with
  | none => rfl
  | some ref =>
    dsimp only
    split <;> rfl

/-- The write by index calls `write` on its target, and on no other slave. -/
theorem writeToSlaveByIndexLogged_snd (sim : NetworkSimulator σ) (index : Nat) (reg : UInt16)
    (data : List UInt8) :
    (sim.writeToSlaveByIndexLogged index reg data).2 =
      (sim.writeTarget index).toList.map (⟨·, reg, data⟩) := by
  unfold writeToSlaveByIndexLogged writeTarget
  cases sim.getSlaveByIndex index with
  | none => rfl
  | some ref =>
    dsimp only
    split <;> rfl

end NetworkSimulator

/-- `broadcastLoop` with the record of its calls. -/
def broadcastLoopLogged (ado : UInt16) (data : List UInt8) :
    List Nat → UInt16 → NetworkSimulator σ → (UInt16 × NetworkSimulator σ) × List SlaveWrite
  | [], okc, sim => ((okc, sim), [])
  | idx :: indices, okc, sim =>
    let ((ok, sim), writes) := sim.writeToSlaveByIndexLogged idx ado data
    let (out, later) := broadcastLoopLogged ado data indices (if ok then okc + 1 else okc) sim
    (out, writes ++ later)

def broadcastWriteLogged (sim : NetworkSimulator σ) (ado : UInt16) (data : List UInt8) :
    (UInt16 × NetworkSimulator σ) × List SlaveWrite :=
  broadcastLoopLogged ado data (List.range sim.onlineSlaveCount) 0 sim

/-- The body of the loop over the datagrams with the record of its calls.  The two bodies
differ in `apIndex`, and in commands that write to no slave, which are left to `interpret`. -/
def logged (apIndex : UInt16 → Nat)
    (interpret : NetworkSimulator σ → Datagram → NetworkSimulator σ × Datagram)
    (sim : NetworkSimulator σ) (d : Datagram) :
    (NetworkSimulator σ × Datagram) × List SlaveWrite :=
  let (first, ado) := extractAddress d.address
  match d.command with
  | .BWR | .BRW =>
    let ((okc, sim), writes) := broadcastWriteLogged sim ado d.data
    ((sim, { d with wkc := okc }), writes)
  | .FPWR | .FPRW =>
    let ((ok, sim), writes) := sim.writeToSlaveLogged first ado d.data
    ((sim, { d with wkc := ackOf ok }), writes)
  | .APWR | .APRW =>
    let ((ok, sim), writes) := sim.writeToSlaveByIndexLogged (apIndex first) ado d.data
    ((sim, { d with wkc := ackOf ok }), writes)
  | _ => (interpret sim d, [])

def SlavesEndpoint.interpretLogged (sim : NetworkSimulator σ) (d : Datagram) :
    (NetworkSimulator σ × Datagram) × List SlaveWrite :=
  logged SlavesEndpoint.apIndex SlavesEndpoint.interpret sim d

def SimSocket.interpretLogged (sim : NetworkSimulator σ) (d : Datagram) :
    (NetworkSimulator σ × Datagram) × List SlaveWrite :=
  logged SimSocket.apIndex SimSocket.interpret sim d

theorem broadcastLoopLogged_fst (ado : UInt16) (data : List UInt8) (indices : List Nat)
    (okc : UInt16) (sim : NetworkSimulator σ) :
    (broadcastLoopLogged ado data indices okc sim).1 = broadcastLoop ado data indices okc sim := by
  induction indices generalizing okc sim with
  | nil => rfl
  | cons idx indices ih =>
    rw [broadcastLoopLogged, broadcastLoop, ← sim.writeToSlaveByIndexLogged_fst]
    exact ih _ _

/-- The loop calls `write` on its targets, one after the other. -/
theorem broadcastLoopLogged_snd (ado : UInt16) (data : List UInt8) (indices : List Nat)
    (okc : UInt16) (sim : NetworkSimulator σ) :
    (broadcastLoopLogged ado data indices okc sim).2 =
      (broadcastTargets ado data indices sim).map (⟨·, ado, data⟩) := by
  induction indices generalizing okc sim with
  | nil => rfl
  | cons idx indices ih =>
    rw [broadcastLoopLogged, broadcastTargets, List.map_append,
      ← sim.writeToSlaveByIndexLogged_snd, ← sim.writeToSlaveByIndexLogged_fst, ← ih]

/-- The record does not change what the interpreters do. -/
theorem interpretLogged_fst (sim : NetworkSimulator σ) (d : Datagram) :
    (SlavesEndpoint.interpretLogged sim d).1 = SlavesEndpoint.interpret sim d ∧
      (SimSocket.interpretLogged sim d).1 = SimSocket.interpret sim d := by
  obtain ⟨command, address, data, wkc⟩ := d
  have hbroadcast := broadcastLoopLogged_fst (extractAddress address).2 data
    (List.range sim.onlineSlaveCount) 0 sim
  have hslave := sim.writeToSlaveLogged_fst (extractAddress address).1
    (extractAddress address).2 data
  have hindex := fun index =>
    sim.writeToSlaveByIndexLogged_fst index (extractAddress address).2 data
  unfold SlavesEndpoint.interpretLogged SimSocket.interpretLogged logged SlavesEndpoint.interpret
    SimSocket.interpret broadcastWriteLogged broadcastWrite
  cases command <;> simp [← hbroadcast, ← hslave, ← hindex]

/-! ## What a broadcast is for -/

/-- `out` is the result of a broadcast of the datagram `d` as it should be, and `writes`
are the calls of `write` on the way.  There is one such call, with the register and the
data of the datagram, for every online slave and none for another slave; the slaves are
left as these calls leave them; and the working counter is the number of online slaves
that accepted the write, modulo 2^16. -/
structure BroadcastApplied (sim : NetworkSimulator σ) (d : Datagram)
    (out : NetworkSimulator σ × Datagram) (writes : List SlaveWrite) : Prop where
  reached : ∀ ref, writes.filter (·.ref = ref) =
    if sim.IsOnlineSlave ref then [⟨ref, (extractAddress d.address).2, d.data⟩] else []
  objects : ∀ ref, out.1.objects ref =
    if sim.IsOnlineSlave ref then ((sim.objects ref).write (extractAddress d.address).2 d.data).2
    else sim.objects ref
  wkc : out.2.wkc = castUInt16 (sim.onlineSlaves.countP
    (accepts sim (extractAddress d.address).2 d.data))

/-- How often the loop of a broadcast writes to a slave. -/
theorem count_broadcastTargets (sim : NetworkSimulator σ) (ado : UInt16) (data : List UInt8)
    (ref : SlaveRef) :
    (broadcastTargets ado data (List.range sim.onlineSlaveCount) sim).count ref =
      if (sim.objects ref).online = true then
        (sim.slaves.take sim.onlineSlaveCount).count (some ref)
      else 0 := by
  rw [broadcastTargets_eq_filterMap, filterMap_writeTarget]
  by_cases hon : (sim.objects ref).online = true
  · rw [if_pos hon, NetworkSimulator.count_filterMap_onlineRef hon]
  · rw [if_neg hon, List.count_eq_zero, NetworkSimulator.mem_filterMap_onlineRef]
    exact fun h => hon h.2

/-- The slaves that the loop writes to are the online slaves, each once, exactly
when the online slaves are in front. -/
theorem reached_iff (sim : NetworkSimulator σ) (ado : UInt16) (data : List UInt8) :
    (∀ ref, (broadcastTargets ado data (List.range sim.onlineSlaveCount) sim).count ref =
      if sim.IsOnlineSlave ref then 1 else 0) ↔ sim.OnlineInFront := by
  constructor
  · intro h ref href
    have hcount := h ref
    rw [count_broadcastTargets, if_pos href.2, if_pos href] at hcount
    exact hcount
  · intro h ref
    rw [count_broadcastTargets]
    by_cases hon : (sim.objects ref).online = true
    · rw [if_pos hon]
      by_cases hmem : some ref ∈ sim.slaves
      · rw [if_pos (show sim.IsOnlineSlave ref from ⟨hmem, hon⟩)]
        exact h ref ⟨hmem, hon⟩
      · rw [if_neg (fun hc : sim.IsOnlineSlave ref => hmem hc.1), List.count_eq_zero]
        exact fun hc => hmem (List.mem_of_mem_take hc)
    · rw [if_neg hon, if_neg (fun hc : sim.IsOnlineSlave ref => hon hc.2)]

/-- What the record of a broadcast says of a slave: the write, as often as the loop reaches
the slave. -/
theorem filter_broadcastWriteLogged (sim : NetworkSimulator σ) (ado : UInt16) (data : List UInt8)
    (ref : SlaveRef) :
    (broadcastWriteLogged sim ado data).2.filter (·.ref = ref) =
      List.replicate ((broadcastTargets ado data (List.range sim.onlineSlaveCount) sim).count ref)
        ⟨ref, ado, data⟩ := by
  rw [broadcastWriteLogged, broadcastLoopLogged_snd, List.filter_map]
  have href : ((fun w : SlaveWrite => decide (w.ref = ref)) ∘ fun r => ⟨r, ado, data⟩) =
      fun r : SlaveRef => decide (r = ref) := rfl
  rw [href, List.filter_eq, List.map_replicate]

/-- The record shows one write to every online slave, and no other one, exactly when the
online slaves are in front. -/
theorem filter_broadcastWriteLogged_iff (sim : NetworkSimulator σ) (ado : UInt16)
    (data : List UInt8) :
    (∀ ref, (broadcastWriteLogged sim ado data).2.filter (·.ref = ref) =
      if sim.IsOnlineSlave ref then [⟨ref, ado, data⟩] else []) ↔ sim.OnlineInFront := by
  rw [← reached_iff sim ado data]
  refine forall_congr' fun ref => ?_
  rw [filter_broadcastWriteLogged]
  by_cases hon : sim.IsOnlineSlave ref
  · rw [if_pos hon, if_pos hon]
    constructor
    · intro hone
      have hlength := congrArg List.length hone
      rwa [List.length_replicate] at hlength
    · intro hcount
      rw [hcount]
      rfl
  · rw [if_neg hon, if_neg hon, List.replicate_eq_nil_iff]

/-- When the online slaves are in front, the broadcast does what it is for. -/
theorem broadcastApplied_of_onlineInFront {sim : NetworkSimulator σ} (h : sim.OnlineInFront)
    (d : Datagram) :
    BroadcastApplied sim d
      ((broadcastWrite sim (extractAddress d.address).2 d.data).2,
        { d with wkc := (broadcastWrite sim (extractAddress d.address).2 d.data).1 })
      (broadcastWriteLogged sim (extractAddress d.address).2 d.data).2 := by
  have hreached := (reached_iff sim (extractAddress d.address).2 d.data).mpr h
  have hloop := broadcastLoop_eq (extractAddress d.address).2 d.data
    (List.range sim.onlineSlaveCount) 0 sim
  generalize htargets : broadcastTargets (extractAddress d.address).2 d.data
    (List.range sim.onlineSlaveCount) sim = targets at hreached hloop
  have hnodup : targets.Nodup := by
    rw [List.nodup_iff_count]
    intro ref
    rw [hreached ref]
    split <;> omega
  have hmem : ∀ ref, ref ∈ targets ↔ sim.IsOnlineSlave ref := by
    intro ref
    rw [← List.count_pos_iff, hreached ref]
    by_cases hon : sim.IsOnlineSlave ref
    · rw [if_pos hon]
      exact ⟨fun _ => hon, fun _ => Nat.one_pos⟩
    · rw [if_neg hon]
      exact ⟨fun hc => absurd hc (Nat.lt_irrefl 0), fun hc => absurd hc hon⟩
  have hperm : targets.Perm sim.onlineSlaves := by
    rw [List.perm_ext_iff_of_nodup hnodup sim.nodup_onlineSlaves]
    intro ref
    rw [hmem ref]
    exact NetworkSimulator.mem_onlineSlaves.symm
  constructor
  case reached => exact (filter_broadcastWriteLogged_iff sim _ d.data).mpr h
  case objects =>
    intro ref
    show (broadcastLoop _ _ _ 0 sim).2.objects ref = _
    rw [hloop, writeObjects_objects _ _ hnodup]
    simp only [hmem ref]
  case wkc =>
    show (broadcastLoop _ _ _ 0 sim).1 = _
    rw [hloop, writeObjects_okc _ _ hnodup, UInt16.zero_add, hperm.countP_eq]

/-- Both interpreters apply a broadcast write as it should be if and only if
each online slave has exactly one slot among the first `onlineSlaveCount` ones
of the registry. -/
theorem broadcastApplied_iff (sim : NetworkSimulator σ) (d : Datagram)
    (hd : d.command = .BWR ∨ d.command = .BRW) :
    (BroadcastApplied sim d (SlavesEndpoint.interpret sim d)
        (SlavesEndpoint.interpretLogged sim d).2 ↔ sim.OnlineInFront) ∧
      (BroadcastApplied sim d (SimSocket.interpret sim d)
        (SimSocket.interpretLogged sim d).2 ↔ sim.OnlineInFront) := by
  let broadcast := broadcastWrite sim (extractAddress d.address).2 d.data
  have hlogged : ∀ apIndex interpret, logged apIndex interpret sim d =
      ((broadcast.2, { d with wkc := broadcast.1 }),
        (broadcastWriteLogged sim (extractAddress d.address).2 d.data).2) := by
    intro apIndex interpret
    have hbroadcast : (broadcastWriteLogged sim (extractAddress d.address).2 d.data).1 =
        broadcast := broadcastLoopLogged_fst _ _ _ _ sim
    unfold logged
    rcases hd with hc | hc <;> simp only [hc, hbroadcast]
  have honly : ∀ out, BroadcastApplied sim d out
      (broadcastWriteLogged sim (extractAddress d.address).2 d.data).2 → sim.OnlineInFront :=
    fun _ h => (filter_broadcastWriteLogged_iff sim _ d.data).mp h.reached
  obtain ⟨hendpoint, hsocket⟩ := interpretLogged_fst sim d
  rw [← hendpoint, ← hsocket, SlavesEndpoint.interpretLogged, SimSocket.interpretLogged, hlogged,
    hlogged]
  have hall := fun h : sim.OnlineInFront => broadcastApplied_of_onlineInFront h d
  exact ⟨⟨honly _, hall⟩, ⟨honly _, hall⟩⟩

end Loop

/-- A registry of two slaves, the first online or not, the second online. -/
def twoSlaves (firstOnline : Bool) : NetworkSimulator Unit :=
  let sim := NetworkSimulator.new (VirtualSlave.new 0 0 0 ())
  let (first, sim) := sim.makeShared ((VirtualSlave.new 1 0 0 ()).setOnline firstOnline)
  let (second, sim) := sim.makeShared (VirtualSlave.new 2 0 0 ())
  (sim.addVirtualSlave (some first)).addVirtualSlave (some second)

/-- A broadcast write of one byte at register 0x0200. -/
def broadcastByte : Datagram := { command := .BWR, address := 0x02000000, data := [1], wkc := 0 }

/-- With both slaves online the byte reaches both. -/
theorem broadcastApplied_both_online :
    BroadcastApplied (twoSlaves true) broadcastByte
        (SlavesEndpoint.interpret (twoSlaves true) broadcastByte)
        (SlavesEndpoint.interpretLogged (twoSlaves true) broadcastByte).2 ∧
      BroadcastApplied (twoSlaves true) broadcastByte
        (SimSocket.interpret (twoSlaves true) broadcastByte)
        (SimSocket.interpretLogged (twoSlaves true) broadcastByte).2 := by
  have hiff := broadcastApplied_iff (twoSlaves true) broadcastByte (.inl rfl)
  have hfront : (twoSlaves true).OnlineInFront := by
    rw [NetworkSimulator.onlineInFront_iff_of_nodup (by decide) (by decide)]
    decide
  exact ⟨hiff.1.mpr hfront, hiff.2.mpr hfront⟩

/-- With the first slave offline the byte reaches no slave: the second one is
online, would accept the write, and is not written to. -/
theorem broadcastApplied_offline_first_false :
    (twoSlaves false).IsOnlineSlave 1 ∧ accepts (twoSlaves false) 0x0200 [1] 1 = true ∧
      (SlavesEndpoint.interpret (twoSlaves false) broadcastByte).2.wkc = 0 ∧
      (SlavesEndpoint.interpretLogged (twoSlaves false) broadcastByte).2 = [] ∧
      (SimSocket.interpretLogged (twoSlaves false) broadcastByte).2 = [] ∧
      ¬BroadcastApplied (twoSlaves false) broadcastByte
        (SlavesEndpoint.interpret (twoSlaves false) broadcastByte)
        (SlavesEndpoint.interpretLogged (twoSlaves false) broadcastByte).2 ∧
      ¬BroadcastApplied (twoSlaves false) broadcastByte
        (SimSocket.interpret (twoSlaves false) broadcastByte)
        (SimSocket.interpretLogged (twoSlaves false) broadcastByte).2 := by
  have hon : (twoSlaves false).IsOnlineSlave 1 := by decide
  have hendpoint : (SlavesEndpoint.interpretLogged (twoSlaves false) broadcastByte).2 = [] := by
    decide
  have hsocket : (SimSocket.interpretLogged (twoSlaves false) broadcastByte).2 = [] := by decide
  have hnot : ∀ out, ¬BroadcastApplied (twoSlaves false) broadcastByte out [] := by
    intro out h
    have hreached := h.reached 1
    rw [if_pos hon] at hreached
    cases hreached
  rw [hendpoint, hsocket]
  exact ⟨hon, by decide, by decide, rfl, rfl, hnot _, hnot _⟩

end EthercatSim
