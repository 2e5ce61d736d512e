import EthercatSim.Network.Steps

/-!
# Working counters

What `processFrame_` stores as the working counter of a datagram that addresses
registers, against the slaves that are online.

* `WkcSound`: a broadcast write counts at most the online slaves, an FP or AP command
  counts the addressed slave when it accepted the access, and BRD, ARMW and FRMW count
  the online slaves, but never none of them.
* `interpret_wkcSound` is the step, for one datagram, and `wkcSound` the statement
  about every datagram of every frame, in every state that calls lead to.
* `wkcSound_no_slave_false`: the counter of BRD is 1 without a slave.
-/

namespace EthercatSim

open Kickcat NetworkSimulator

variable {σ : Type}

/-- The access reaches a slave that accepts it. -/
def BusAccess.IsAccepted [SlaveDevice σ] (sim : NetworkSimulator σ) (a : BusAccess) : Prop :=
  ∃ ref, a.IsTarget sim ref ∧ (a.onSlave (sim.objects ref)).1 = true

/-- The working counter of `d`, handled in the state `sim` with `online` slaves. -/
structure WkcSound [SlaveDevice σ] (online : Nat) (sim : NetworkSimulator σ) (d : Datagram)
    (wkc : UInt16) : Prop where
  broadcast : d.command = .BWR ∨ d.command = .BRW → wkc.toNat ≤ online
  addressed : ∀ a, d.access = some a →
    wkc.toNat ≤ online ∧ (wkc = 0 ∨ wkc = 1) ∧ (wkc = 1 ↔ a.IsAccepted sim)
  counted : d.command = .BRD ∨ d.command = .ARMW ∨ d.command = .FRMW →
    wkc.toNat = max online 1

/-! ## Addressed accesses -/

/-- A target is a slave of the registry that is online. -/
theorem BusAccess.IsTarget.isOnlineSlave {sim : NetworkSimulator σ} {a : BusAccess}
    {ref : SlaveRef} (h : a.IsTarget sim ref) : sim.IsOnlineSlave ref := by
  have hstation : ∀ addr, sim.IsFirstAt addr ref → sim.IsOnlineSlave ref := by
    intro addr hcase
    obtain ⟨before, after, hslaves, hanswers, -⟩ := hcase
    refine ⟨?_, hanswers.1⟩
    rw [hslaves]
    exact List.mem_append_right before List.mem_cons_self
  have hindex : ∀ index, sim.IsOnlineAt index ref → sim.IsOnlineSlave ref := by
    intro index hcase
    obtain ⟨hslot, honline⟩ := hcase
    exact ⟨List.mem_of_getElem? hslot, honline⟩
  cases a with
  | readStation addr reg out => exact hstation addr h
  | writeStation addr reg data => exact hstation addr h
  | readIndex index reg out => exact hindex index h
  | writeIndex index reg data => exact hindex index h

namespace NetworkSimulator

theorem IsOnlineSlave.onlineCount_pos {sim : NetworkSimulator σ} {ref : SlaveRef}
    (h : sim.IsOnlineSlave ref) : 0 < sim.onlineCount :=
  List.countP_pos_iff.mpr ⟨some ref, h.1, h.2⟩

/-- The targets of the first slots are no more than the online slots. -/
theorem length_filterMap_onlineRef_le (sim : NetworkSimulator σ) (n : Nat) :
    ((sim.slaves.take n).filterMap sim.onlineRef).length ≤ sim.onlineCount := by
  have hslot : ∀ slot, (sim.onlineRef slot).isSome = sim.isOnline slot := by
    intro slot
    cases slot with
    | none => rfl
    | some ref =>
      show (if (sim.objects ref).online = true then some ref else none).isSome = _
      cases hon : (sim.objects ref).online <;> simp [isOnline, hon]
  rw [List.length_filterMap_eq_countP]
  simp only [hslot]
  exact (List.take_sublist n sim.slaves).countP_le

end NetworkSimulator

section Interpret

variable [SlaveDevice σ]

/-- Without stubs an access returns true exactly when its target accepts it. -/
theorem perform_eq_true_iff {sim : NetworkSimulator σ} (h : sim.Counted) (a : BusAccess) :
    (a.perform sim).1 = true ↔ a.IsAccepted sim := by
  have hunreached : (a.unreached sim).1 = false := by
    cases a with
    | readStation addr reg out =>
      simp only [BusAccess.unreached, h.isStub_eq_false, Bool.false_eq_true, if_false]
    | writeStation addr reg data => exact h.isStub_eq_false addr
    | readIndex index reg out => rfl
    | writeIndex index reg data => rfl
  cases ht : a.target sim with
  | none =>
    rw [BusAccess.perform_of_unreached ht, hunreached]
    constructor
    · intro hfalse
      cases hfalse
    · intro hcase
      obtain ⟨ref, htarget, -⟩ := hcase
      rw [BusAccess.target_eq_some_iff.mpr htarget] at ht
      cases ht
  | some ref =>
    rw [BusAccess.perform_of_target ht]
    constructor
    · intro haccepts
      exact ⟨ref, BusAccess.target_eq_some_iff.mp ht, haccepts⟩
    · intro hcase
      obtain ⟨ref', htarget, haccepts⟩ := hcase
      rw [BusAccess.target_eq_some_iff.mpr htarget] at ht
      obtain rfl := Option.some.inj ht
      exact haccepts

/-! ## Broadcasts -/

/-- The counter grows by one at most with each object. -/
theorem writeObjects_okc_le (ado : UInt16) (data : List UInt8) (refs : List SlaveRef)
    (okc : UInt16) (sim : NetworkSimulator σ) :
    (writeObjects ado data refs okc sim).1.toNat ≤ okc.toNat + refs.length := by
  induction refs generalizing okc sim with
  | nil => exact Nat.le_refl _
  | cons ref refs ih =>
    rw [writeObjects, List.length_cons]
    have hrest := ih (if (sim.writeObject ref ado data).1 then okc + 1 else okc)
      (sim.writeObject ref ado data).2
    have hcount : (if (sim.writeObject ref ado data).1 then okc + 1 else okc).toNat ≤
        okc.toNat + 1 := by
      split
      · rw [UInt16.toNat_add]
        exact Nat.mod_le _ _
      · omega
    exact Nat.le_trans hrest (by omega)

theorem broadcastWrite_le (sim : NetworkSimulator σ) (ado : UInt16) (data : List UInt8) :
    (broadcastWrite sim ado data).1.toNat ≤ sim.onlineCount := by
  have hloop := broadcastLoop_eq ado data (List.range sim.onlineSlaveCount) 0 sim
  rw [broadcastTargets_eq_filterMap, filterMap_writeTarget] at hloop
  have hle := writeObjects_okc_le ado data
    ((sim.slaves.take sim.onlineSlaveCount).filterMap sim.onlineRef) 0 sim
  have hslots := sim.length_filterMap_onlineRef_le sim.onlineSlaveCount
  rw [broadcastWrite, hloop]
  have hzero : (0 : UInt16).toNat = 0 := rfl
  omega

/-! ## One datagram -/

omit [SlaveDevice σ] in
theorem countAck_toNat {sim : NetworkSimulator σ} (h : sim.Counted)
    (hsize : sim.slaves.length < 65536) :
    (SlavesEndpoint.countAck sim).toNat = max sim.onlineCount 1 := by
  have hle : sim.onlineCount ≤ sim.slaves.length := List.countP_le_length
  have hcast : (castUInt16 sim.onlineCount).toNat = sim.onlineCount :=
    Nat.mod_eq_of_lt (by omega)
  rw [SlavesEndpoint.countAck, h.onlineSlaveCount_eq]
  show (if castUInt16 sim.onlineCount = 0 then 1 else castUInt16 sim.onlineCount).toNat = _
  split
  · rename_i hzero
    rw [hzero] at hcast
    have hnone : 0 = sim.onlineCount := hcast
    rw [← hnone]
    rfl
  · rename_i hne
    rw [← UInt16.toNat_inj, hcast] at hne
    have hpos : ¬sim.onlineCount = 0 := hne
    omega

theorem interpret_wkcSound {sim : NetworkSimulator σ} (h : sim.Counted)
    (hsize : sim.slaves.length < 65536) (d : Datagram) :
    WkcSound sim.onlineCount sim d (SlavesEndpoint.interpret sim d).2.wkc := by
  constructor
  case broadcast =>
    intro hc
    have hwkc : (SlavesEndpoint.interpret sim d).2.wkc =
        (broadcastWrite sim (extractAddress d.address).2 d.data).1 := by
      unfold SlavesEndpoint.interpret
      rcases hc with hc | hc <;> rw [hc]
    rw [hwkc]
    exact broadcastWrite_le sim _ d.data
  case addressed =>
    intro a ha
    have hiff := perform_eq_true_iff h a
    rw [interpret_of_access ha]
    show (ackOf (a.perform sim).1).toNat ≤ _ ∧ (ackOf (a.perform sim).1 = 0 ∨
      ackOf (a.perform sim).1 = 1) ∧ (ackOf (a.perform sim).1 = 1 ↔ _)
    rw [← hiff]
    cases hok : (a.perform sim).1 with
    | false => exact ⟨Nat.zero_le _, .inl rfl, by decide⟩
    | true =>
      obtain ⟨ref, htarget, -⟩ := hiff.mp hok
      exact ⟨htarget.isOnlineSlave.onlineCount_pos, .inr rfl, by decide⟩
  case counted =>
    intro hc
    have hwkc : (SlavesEndpoint.interpret sim d).2.wkc = SlavesEndpoint.countAck sim := by
      unfold SlavesEndpoint.interpret
      rcases hc with hc | hc | hc <;> rw [hc]
    rw [hwkc]
    exact countAck_toNat h hsize

/-! ## Whole frames -/

/-- The datagram at position `i` is handled in the state that the ones before it
leave. -/
theorem processFrame_getElem? {sim : NetworkSimulator σ} {frame : List Datagram} {i : Nat}
    {d : Datagram} (hd : frame[i]? = some d) :
    (SlavesEndpoint.processFrame sim frame).2[i]? =
      some (SlavesEndpoint.interpret (SlavesEndpoint.processFrame sim (frame.take i)).1 d).2 := by
  induction frame generalizing sim i with
  | nil => cases hd
  | cons e frame ih =>
    cases i with
    | zero =>
      obtain rfl := Option.some.inj hd
      rfl
    | succ i => exact ih hd

/-- Every datagram of every frame, in every state that calls lead to from a new
simulator, with fewer than 2^16 slaves registered.  The datagram at position `i`
finds the state that the datagrams before it leave, with as many online slaves as
there were at the start. -/
theorem wkcSound {blank : VirtualSlave σ} {stub : σ} {calls : List (SimulatorCall σ)}
    {sim : NetworkSimulator σ} (hsim : StepRun.run (step stub) (new blank) calls = sim)
    (hsize : sim.slaves.length < 65536) {frame : List Datagram} {i : Nat} {d : Datagram}
    (hd : frame[i]? = some d) :
    ∃ d', (SlavesEndpoint.processFrame sim frame).2[i]? = some d' ∧
      WkcSound sim.onlineCount (SlavesEndpoint.processFrame sim (frame.take i)).1 d d'.wkc := by
  have hcounted : sim.Counted := hsim ▸ run_counted blank stub calls
  have hbefore := AccessStep.processFrame sim (frame.take i)
  refine ⟨_, processFrame_getElem? hd, ?_⟩
  generalize (SlavesEndpoint.processFrame sim (frame.take i)).1 = sim' at hbefore
  have hslaves := hbefore.slaves_eq
  have honline : sim'.onlineCount = sim.onlineCount := by
    rw [onlineCount, onlineCount, hslaves, hbefore.isOnline_eq]
  rw [← honline]
  exact interpret_wkcSound (hcounted.of_eq hslaves hbefore.virtualSlaveCount_eq)
    (by rw [hslaves]; exact hsize) d

end Interpret

/-- A slave without a hook is made and registered. -/
def registerOne : List (SimulatorCall Unit) :=
  [.makeShared (VirtualSlave.new 1 0 0 ()), .addVirtualSlave (some 0)]

/-- The state with one slave, and a read of its address. -/
theorem wkcSound_one_slave :
    ∃ d', (SlavesEndpoint.processFrame
        (StepRun.run (step ()) (new (VirtualSlave.new 0 0 0 ())) registerOne)
        [{ command := .FPRD, address := 0x00100001, data := [0, 0], wkc := 0 }]).2[0]? =
          some d' ∧
      WkcSound 1 (StepRun.run (step ()) (new (VirtualSlave.new 0 0 0 ())) registerOne)
        { command := .FPRD, address := 0x00100001, data := [0, 0], wkc := 0 } d'.wkc := by
  have hsim : StepRun.run (step ()) (new (VirtualSlave.new 0 0 0 ())) registerOne =
      StepRun.run (step ()) (new (VirtualSlave.new 0 0 0 ())) registerOne := rfl
  exact wkcSound hsim (by decide) (i := 0) rfl

/-- A new simulator has no slave and counts one for BRD, ARMW and FRMW. -/
theorem wkcSound_no_slave_false :
    (new (VirtualSlave.new 0 0 0 ())).slaves = [] ∧
      ∀ command ∈ [Command.BRD, Command.ARMW, Command.FRMW],
        (SlavesEndpoint.processFrame (new (VirtualSlave.new 0 0 0 ()))
          [{ command, address := 0, data := [0], wkc := 0 }]).2.map Datagram.wkc = [1] ∧
        ¬(1 : UInt16).toNat ≤ (new (VirtualSlave.new 0 0 0 ())).onlineCount := by
  decide

end EthercatSim
