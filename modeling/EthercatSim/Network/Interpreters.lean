import EthercatSim.Network.Datagram

/-!
# The two interpreters compared

`SimSocket::write` and `SlavesEndpoint::processFrame_` interpret the same
commands by two `switch` statements of their own.

* `interpret_sameEffect`: on every datagram they do the same to the simulator
  and leave the same header and data behind.
* `interpret_wkc_eq_iff`: their working counters differ on four commands only,
  and `WkcAgrees` says when.
* `write_agrees_processFrame`: both facts carried along a whole frame.  The
  number of online slaves, on which the working counters depend, is the same at
  every datagram.
-/

namespace EthercatSim

open Kickcat

variable {σ : Type}

/-- The header and the data of a datagram. -/
def Datagram.withoutWkc (d : Datagram) : Datagram := { d with wkc := 0 }

/-- Two outcomes that differ in the working counter at most. -/
structure SameEffect (out out' : NetworkSimulator σ × Datagram) : Prop where
  sim : out.1 = out'.1
  datagram : out.2.withoutWkc = out'.2.withoutWkc

/-- The working counters that the two interpreters store for a command are
equal when `n` slaves are online.

`processFrame_` answers NOP with 0, and BRD, ARMW and FRMW with a number that
is never 0.  `SimSocket::write` has no case for NOP, ARMW and FRMW. -/
def WkcAgrees (n : Nat) : Command → Prop
  | .NOP => n = 0
  | .BRD => n % 65536 ≠ 0
  | .ARMW | .FRMW => 0 < n ∧ n % 65536 ≤ 1
  | _ => True

theorem castUInt16_eq_zero (n : Nat) : castUInt16 n = 0 ↔ n % 65536 = 0 := by
  rw [← UInt16.toNat_inj]
  exact Iff.rfl

theorem castUInt16_eq_one (n : Nat) : castUInt16 n = 1 ↔ n % 65536 = 1 := by
  rw [← UInt16.toNat_inj]
  exact Iff.rfl

/-- The separate case of `SimSocket::write` for the position 0 changes
nothing. -/
theorem apIndex_eq (pos : UInt16) : SimSocket.apIndex pos = SlavesEndpoint.apIndex pos := by
  unfold SimSocket.apIndex SlavesEndpoint.apIndex
  by_cases h : pos = 0
  · subst h
    rfl
  · rw [if_neg h]

section Interpret

variable [SlaveDevice σ]

/-! ## One datagram -/

/-- Both interpreters do the same to the simulator, the header and the data. -/
theorem interpret_sameEffect (sim : NetworkSimulator σ) (d : Datagram) :
    SameEffect (SimSocket.interpret sim d) (SlavesEndpoint.interpret sim d) := by
  cases hc : d.command <;>
    simp only [SimSocket.interpret, SlavesEndpoint.interpret, hc, apIndex_eq, reduceCtorEq,
      if_true, if_false] <;>
    exact ⟨rfl, rfl⟩

omit [SlaveDevice σ] in
/-- The number that stands for the online slaves, against the number itself. -/
theorem castUInt16_eq_countAck (sim : NetworkSimulator σ) :
    castUInt16 sim.onlineSlaveCount = SlavesEndpoint.countAck sim ↔
      sim.onlineSlaveCount % 65536 ≠ 0 := by
  unfold SlavesEndpoint.countAck
  rw [Ne, ← castUInt16_eq_zero]
  by_cases h : castUInt16 sim.onlineSlaveCount = 0
  · simp [h]
  · simp [h]

omit [SlaveDevice σ] in
/-- The number that stands for the online slaves, against the flag that there is
one. -/
theorem ackOf_eq_countAck (sim : NetworkSimulator σ) :
    ackOf (0 < sim.onlineSlaveCount) = SlavesEndpoint.countAck sim ↔
      0 < sim.onlineSlaveCount ∧ sim.onlineSlaveCount % 65536 ≤ 1 := by
  unfold SlavesEndpoint.countAck ackOf
  generalize sim.onlineSlaveCount = n
  have hzero := castUInt16_eq_zero n
  have hone := castUInt16_eq_one n
  by_cases h : castUInt16 n = 0
  · have hmod := hzero.mp h
    by_cases hpos : 0 < n
    · simp [h, hpos, hmod]
    · simp [h, hpos]
  · have hne : n % 65536 ≠ 0 := mt hzero.mpr h
    have hpos : 0 < n := by
      rcases Nat.eq_zero_or_pos n with rfl | hpos
      · exact absurd rfl hne
      · exact hpos
    have hle : n % 65536 ≤ 1 ↔ castUInt16 n = 1 := by
      rw [hone]
      omega
    simp only [if_neg h, hpos, hle, decide_true, if_true, true_and]
    exact eq_comm

/-- When the two working counters are equal. -/
theorem interpret_wkc_eq_iff (sim : NetworkSimulator σ) (d : Datagram) :
    (SimSocket.interpret sim d).2.wkc = (SlavesEndpoint.interpret sim d).2.wkc ↔
      WkcAgrees sim.onlineSlaveCount d.command := by
  cases hc : d.command <;>
    simp only [SimSocket.interpret, SlavesEndpoint.interpret, hc, apIndex_eq, reduceCtorEq,
      if_true, if_false, WkcAgrees]
  case NOP =>
    unfold ackOf
    by_cases hpos : 0 < sim.onlineSlaveCount
    · have hne : sim.onlineSlaveCount ≠ 0 := by omega
      simp [hpos, hne]
    · have hzero : sim.onlineSlaveCount = 0 := by omega
      simp [hzero]
  case BRD => exact castUInt16_eq_countAck sim
  case ARMW => exact ackOf_eq_countAck sim
  case FRMW => exact ackOf_eq_countAck sim

/-! ## A whole frame -/

/-- `out`, from `SimSocket::write`, and `out'`, from
`SlavesEndpoint::processFrame_`, agree on `frame`: on the simulator, on every
header and all data, and on each working counter exactly as `WkcAgrees` says. -/
structure FramesAgree (sim : NetworkSimulator σ) (frame : List Datagram)
    (out out' : NetworkSimulator σ × List Datagram) : Prop where
  slaves : out.1.slaves = out'.1.slaves
  objects : out.1.objects = out'.1.objects
  logical : out.1.logical = out'.1.logical
  length : out.2.length = frame.length
  datagrams : out.2.map Datagram.withoutWkc = out'.2.map Datagram.withoutWkc
  wkc : ∀ (i : Nat) (d : Datagram), frame[i]? = some d →
    (out.2[i]?.map Datagram.wkc = out'.2[i]?.map Datagram.wkc ↔
      WkcAgrees sim.onlineSlaveCount d.command)

theorem interpretAll_sim_eq (sim : NetworkSimulator σ) (frame : List Datagram) :
    (SimSocket.interpretAll sim frame).1 = (SlavesEndpoint.processFrame sim frame).1 := by
  induction frame generalizing sim with
  | nil => rfl
  | cons d ds ih =>
    rw [SimSocket.interpretAll, SlavesEndpoint.processFrame]
    show (SimSocket.interpretAll (SimSocket.interpret sim d).1 ds).1 = _
    rw [ih, (interpret_sameEffect sim d).sim]

theorem interpretAll_length (sim : NetworkSimulator σ) (frame : List Datagram) :
    (SimSocket.interpretAll sim frame).2.length = frame.length := by
  induction frame generalizing sim with
  | nil => rfl
  | cons d ds ih =>
    rw [SimSocket.interpretAll, List.length_cons, List.length_cons, ih]

theorem interpretAll_datagrams_eq (sim : NetworkSimulator σ) (frame : List Datagram) :
    (SimSocket.interpretAll sim frame).2.map Datagram.withoutWkc =
      (SlavesEndpoint.processFrame sim frame).2.map Datagram.withoutWkc := by
  induction frame generalizing sim with
  | nil => rfl
  | cons d ds ih =>
    have hd := interpret_sameEffect sim d
    rw [SimSocket.interpretAll, SlavesEndpoint.processFrame, List.map_cons, List.map_cons, ih,
      hd.datagram, hd.sim]

/-- The number of online slaves at the start of the frame decides about every
working counter of the frame. -/
theorem interpretAll_wkc_eq_iff (sim : NetworkSimulator σ) (frame : List Datagram) (i : Nat)
    (d : Datagram) (hd : frame[i]? = some d) :
    ((SimSocket.interpretAll sim frame).2[i]?.map Datagram.wkc =
        (SlavesEndpoint.processFrame sim frame).2[i]?.map Datagram.wkc) ↔
      WkcAgrees sim.onlineSlaveCount d.command := by
  induction frame generalizing sim i with
  | nil => simp at hd
  | cons e ds ih =>
    rw [SimSocket.interpretAll, SlavesEndpoint.processFrame]
    cases i with
    | zero =>
      have he : e = d := by simpa using hd
      subst he
      simp only [List.getElem?_cons_zero, Option.map_some, Option.some.injEq]
      exact interpret_wkc_eq_iff sim e
    | succ i =>
      have hcount := (AccessStep.interpret sim e).onlineSlaveCount_eq
      rw [List.getElem?_cons_succ] at hd
      simp only [List.getElem?_cons_succ, (interpret_sameEffect sim e).sim]
      rw [ih _ i hd, hcount]

/-- With the link up the two interpreters agree on every frame, up to the
working counters of NOP, BRD, ARMW and FRMW. -/
theorem write_agrees_processFrame (bytesOf : List Datagram → List UInt8)
    (sim : NetworkSimulator σ) (frame : List Datagram) (now : Int) (hlink : sim.linkUp = true) :
    FramesAgree sim frame (SimSocket.write bytesOf sim frame now).2
      (SlavesEndpoint.processFrame sim frame) := by
  have hsim := interpretAll_sim_eq sim frame
  have hwrite : (SimSocket.write bytesOf sim frame now).2 =
      (((SimSocket.interpretAll sim frame).1.sendFrame
        (bytesOf (SimSocket.interpretAll sim frame).2) now).2,
        (SimSocket.interpretAll sim frame).2) := by
    unfold SimSocket.write
    rw [hlink]
    rfl
  -- the frame is queued after the last datagram, which touches the queue only
  have hsend : ∀ (s : NetworkSimulator σ) bytes,
      (s.sendFrame bytes now).2.slaves = s.slaves ∧
      (s.sendFrame bytes now).2.objects = s.objects ∧
      (s.sendFrame bytes now).2.logical = s.logical := by
    intro s bytes
    unfold NetworkSimulator.sendFrame
    split <;> exact ⟨rfl, rfl, rfl⟩
  obtain ⟨hslaves, hobjects, hlogical⟩ := hsend (SimSocket.interpretAll sim frame).1
    (bytesOf (SimSocket.interpretAll sim frame).2)
  rw [hwrite]
  constructor
  case slaves => exact hslaves.trans (congrArg _ hsim)
  case objects => exact hobjects.trans (congrArg _ hsim)
  case logical => exact hlogical.trans (congrArg _ hsim)
  case length => exact interpretAll_length sim frame
  case datagrams => exact interpretAll_datagrams_eq sim frame
  case wkc => exact interpretAll_wkc_eq_iff sim frame

end Interpret

/-- A frame with one broadcast read of two bytes and one NOP. -/
def detectionFrame : List Datagram :=
  [{ command := .BRD, address := 0, data := [0, 0], wkc := 0 },
    { command := .NOP, address := 0, data := [], wkc := 0 }]

/-- The simulator with an empty registry, in which `n` slaves are announced. -/
def emptyRegistry (n : Nat) : NetworkSimulator Unit :=
  { NetworkSimulator.new (VirtualSlave.new 0 0 0 ()) with virtualSlaveCount := n }

theorem write_agrees_processFrame_detection :
    FramesAgree (emptyRegistry 3) detectionFrame
      (SimSocket.write (fun _ => []) (emptyRegistry 3) detectionFrame 0).2
      (SlavesEndpoint.processFrame (emptyRegistry 3) detectionFrame) :=
  write_agrees_processFrame _ _ _ 0 rfl

/-- The working counters of the two interpreters differ on the broadcast read
when there is no slave. -/
theorem detection_wkc_differs :
    (emptyRegistry 0).linkUp = true ∧
      (SimSocket.write (fun _ => []) (emptyRegistry 0) detectionFrame 0).2.2.map Datagram.wkc =
        [0, 0] ∧
      (SlavesEndpoint.processFrame (emptyRegistry 0) detectionFrame).2.map Datagram.wkc =
        [1, 0] := by
  decide

end EthercatSim
