import EthercatSim.Network.Bus

/-!
# The frames as one slave sees them

The datagrams of the frames are for all slaves.  `deliveredFrames` picks out of them the
calls on the slave at one position: reads and writes that reach it, and its routine.

* `interpret_slaves` is the step: a datagram makes the delivered calls, and no others.
* `serveFrames_delivers`: behind the frames the object of a slave is what the delivered
  calls make of it, so what is known of the runs of one slave is known of the slaves in
  the simulator.
* `Bus.runOnce_processFrame_forall`: what reads, writes and routines keep is kept on the
  whole bus.
-/

namespace EthercatSim

open Kickcat NetworkSimulator References StepRun

variable {σ : Type}

/-! ## Calls -/

/-- The call that an access makes on its slave. -/
def BusAccess.call : BusAccess → SlaveOp
  | .readStation _ reg out => .read reg out
  | .writeStation _ reg data => .write reg data
  | .readIndex _ reg out => .read reg out
  | .writeIndex _ reg data => .write reg data

theorem BusAccess.onSlave_eq_step [SlaveDevice σ] (a : BusAccess) (s : VirtualSlave σ) :
    (a.onSlave s).2.2 = s.step a.call := by
  cases a <;> rfl

/-- The calls that frames and routines make. -/
def SlaveOp.IsServed : SlaveOp → Prop
  | .read _ _ => True
  | .write _ _ => True
  | .routine => True
  | _ => False

theorem SlaveOp.IsServed.isGuarded {op : SlaveOp} (h : op.IsServed) : op.IsGuarded := by
  cases op <;> simp [SlaveOp.IsServed] at h <;> trivial

/-- A call that frames and routines make leaves the online flag alone. -/
theorem SlaveOp.IsServed.step_online [SlaveDevice σ] {op : SlaveOp} (h : op.IsServed)
    (s : VirtualSlave σ) : (s.step op).online = s.online := by
  cases op with
  | read reg dst => exact s.read_online reg dst
  | write reg src => exact s.write_online reg src
  | routine =>
    show s.routine.online = _
    rw [VirtualSlave.routine]
    split <;> rfl
  | setOnline on => exact absurd h id
  | setALState st => exact absurd h id
  | setInputPDOMapped v => exact absurd h id
  | start => exact absurd h id

/-- The commands that read from a slave. -/
def Datagram.ReadsSlave (d : Datagram) : Prop := d.command ∈ [Command.FPRD, .APRD]

/-- The commands that write to slaves. -/
def Datagram.WritesSlaves (d : Datagram) : Prop :=
  d.command ∈ [Command.FPWR, .FPRW, .APWR, .APRW, .BWR, .BRW]

namespace Bus

/-- There is a slave at position `i`, and it is online. -/
def onlineAt (b : Bus σ) (i : Nat) : Bool := b.slaves[i]?.any fun s => s.online

section Deliver

variable [SlaveDevice σ]

/-- The calls that a datagram makes on the slave at position `i`. -/
def delivered (b : Bus σ) (d : Datagram) (i : Nat) : List SlaveOp :=
  match d.access with
  | some a => if b.position a = some i then [a.call] else []
  | none =>
    if (d.command = .BWR ∨ d.command = .BRW) ∧ i < b.online ∧ b.onlineAt i = true then
      [.write (extractAddress d.address).2 d.data]
    else []

/-- The calls that a frame makes on it. -/
def deliveredFrame (b : Bus σ) : List Datagram → Nat → List SlaveOp
  | [], _ => []
  | d :: ds, i => b.delivered d i ++ deliveredFrame (b.interpret d).1 ds i

/-- The calls that frames make on it, with the routine behind each frame. -/
def deliveredFrames (b : Bus σ) : List (List Datagram) → Nat → List SlaveOp
  | [], _ => []
  | frame :: frames, i =>
    let b' := (b.processFrame frame).1
    b.deliveredFrame frame i ++ (if b'.onlineAt i then [.routine] else []) ++
      deliveredFrames b'.runOnce frames i

/-! ## The step -/

/-- The access at a position, on the slave there. -/
theorem perform_slaves (b : Bus σ) (a : BusAccess) (i : Nat) :
    (b.perform a).2.2.slaves[i]? =
      b.slaves[i]?.map fun s => run VirtualSlave.step s
        (if b.position a = some i then [a.call] else []) := by
  rw [perform]
  cases hfound : (b.position a).bind fun j => b.slaves[j]?.map (j, ·) with
  | none =>
    show b.slaves[i]? = _
    cases hslave : b.slaves[i]? with
    | none => rfl
    | some s =>
      have hother : b.position a ≠ some i := by
        intro hposition
        rw [hposition] at hfound
        have hmap : b.slaves[i]?.map (i, ·) = none := hfound
        rw [hslave] at hmap
        cases hmap
      rw [if_neg hother]
      rfl
  | some found =>
    obtain ⟨j, s⟩ := found
    obtain ⟨j', hposition, hmap⟩ := Option.bind_eq_some_iff.mp hfound
    obtain ⟨s', hslave, heq⟩ := Option.map_eq_some_iff.mp hmap
    obtain ⟨rfl, rfl⟩ := Prod.mk.inj heq
    show (b.slaves.set j' (a.onSlave s').2.2)[i]? = _
    rw [hposition, a.onSlave_eq_step]
    by_cases hi : j' = i
    · subst hi
      have hlt := (List.getElem?_eq_some_iff.mp hslave).1
      rw [List.getElem?_set_self hlt, hslave, if_pos rfl]
      rfl
    · rw [List.getElem?_set_ne hi, if_neg fun hc => hi (Option.some.inj hc)]
      cases b.slaves[i]? <;> rfl

/-- The write that a broadcast makes on the slave at a position. -/
theorem broadcast_slaves (b : Bus σ) (ado : UInt16) (data : List UInt8) (i : Nat) :
    (b.broadcast ado data).2.slaves[i]? =
      b.slaves[i]?.map fun s => run VirtualSlave.step s
        (if i < b.online ∧ b.onlineAt i = true then [.write ado data] else []) := by
  show (b.slaves.mapIdx _)[i]? = _
  rw [List.getElem?_mapIdx, onlineAt]
  cases hslave : b.slaves[i]? with
  | none => rfl
  | some s =>
    simp only [Option.map_some, Option.any_some]
    split <;> rfl

/-- A datagram makes the delivered calls, on every slave. -/
theorem interpret_slaves (b : Bus σ) (d : Datagram) (i : Nat) :
    (b.interpret d).1.slaves[i]? =
      b.slaves[i]?.map fun s => run VirtualSlave.step s (b.delivered d i) := by
  have hnothing : ∀ b' : Bus σ, b'.slaves = b.slaves →
      b'.slaves[i]? = b.slaves[i]?.map fun s => run VirtualSlave.step s [] := by
    intro b' hslaves
    rw [hslaves]
    exact Option.map_id'.symm
  cases ha : d.access with
  | some a =>
    rw [interpret, delivered, ha]
    exact b.perform_slaves a i
  | none =>
    by_cases hbroadcast : d.command = .BWR ∨ d.command = .BRW
    · have hinterpret :
          (b.interpret d).1 = (b.broadcast (extractAddress d.address).2 d.data).2 := by
        rcases hbroadcast with hc | hc <;> simp only [interpret, Datagram.access, hc]
      rw [hinterpret, delivered, ha, b.broadcast_slaves]
      simp only [hbroadcast, true_and]
    · have hdelivered : b.delivered d i = [] := by
        rw [delivered, ha]
        exact if_neg fun hc => hbroadcast hc.1
      rw [hdelivered]
      apply hnothing
      rw [interpret, ha]
      cases hc : d.command <;> simp only [Datagram.access, hc, reduceCtorEq] at ha <;> simp only []
      case BWR => exact absurd (.inl hc) hbroadcast
      case BRW => exact absurd (.inr hc) hbroadcast
      all_goals split <;> rfl

/-! ## Frames -/

theorem processFrame_slaves (b : Bus σ) (frame : List Datagram) (i : Nat) :
    (b.processFrame frame).1.slaves[i]? =
      b.slaves[i]?.map fun s => run VirtualSlave.step s (b.deliveredFrame frame i) := by
  induction frame generalizing b with
  | nil => exact Option.map_id'.symm
  | cons d ds ih =>
    show ((b.interpret d).1.processFrame ds).1.slaves[i]? = _
    rw [ih, b.interpret_slaves, Option.map_map, deliveredFrame]
    congr 1
    funext s
    exact (run_append VirtualSlave.step s _ _).symm

theorem runOnce_slaves (b : Bus σ) (i : Nat) :
    b.runOnce.slaves[i]? =
      b.slaves[i]?.map fun s => run VirtualSlave.step s
        (if b.onlineAt i = true then [.routine] else []) := by
  show (b.slaves.map _)[i]? = _
  rw [List.getElem?_map, onlineAt]
  cases hslave : b.slaves[i]? with
  | none => rfl
  | some s =>
    simp only [Option.map_some, Option.any_some]
    split <;> rfl

/-- All frames, with the routines. -/
theorem serveFrames_slaves (b : Bus σ) (frames : List (List Datagram)) (i : Nat) :
    (b.serveFrames frames).1.slaves[i]? =
      b.slaves[i]?.map fun s => run VirtualSlave.step s (b.deliveredFrames frames i) := by
  induction frames generalizing b with
  | nil => exact Option.map_id'.symm
  | cons frame frames ih =>
    show ((b.processFrame frame).1.runOnce.serveFrames frames).1.slaves[i]? = _
    rw [ih, runOnce_slaves, processFrame_slaves, Option.map_map, Option.map_map, deliveredFrames]
    congr 1
    funext s
    simp only [Function.comp_apply, run_append]

omit [SlaveDevice σ] in
/-- A datagram makes one call at most, with its own register and data. -/
theorem delivered_branch (b : Bus σ) (d : Datagram) (i : Nat) :
    b.delivered d i = [] ∨
      d.ReadsSlave ∧ b.delivered d i = [.read (extractAddress d.address).2 d.data] ∨
      d.WritesSlaves ∧ b.delivered d i = [.write (extractAddress d.address).2 d.data] := by
  have hcall : ∀ a, d.access = some a →
      d.ReadsSlave ∧ a.call = .read (extractAddress d.address).2 d.data ∨
        d.WritesSlaves ∧ a.call = .write (extractAddress d.address).2 d.data := by
    intro a ha
    cases hc : d.command <;> simp only [Datagram.access, hc, Option.some.injEq, reduceCtorEq] at ha
    all_goals
      subst ha
      simp [BusAccess.call, Datagram.ReadsSlave, Datagram.WritesSlaves, hc]
  rw [delivered]
  split
  · rename_i a ha
    split
    · rcases hcall a ha with ⟨hreads, h⟩ | ⟨hwrites, h⟩ <;> rw [h]
      · exact .inr (.inl ⟨hreads, rfl⟩)
      · exact .inr (.inr ⟨hwrites, rfl⟩)
    · exact .inl rfl
  · split
    · rename_i hc
      refine .inr (.inr ⟨?_, rfl⟩)
      rcases hc.1 with h | h <;> simp [Datagram.WritesSlaves, h]
    · exact .inl rfl

omit [SlaveDevice σ] in
/-- Nothing else than reads, writes and routines is delivered. -/
theorem delivered_isServed (b : Bus σ) (d : Datagram) (i : Nat) :
    ∀ op ∈ b.delivered d i, op.IsServed := by
  intro op hop
  rcases b.delivered_branch d i with h | ⟨-, h⟩ | ⟨-, h⟩ <;> rw [h] at hop
  · cases hop
  · obtain rfl := List.mem_singleton.mp hop
    trivial
  · obtain rfl := List.mem_singleton.mp hop
    trivial

/-- What every delivered call of every datagram has, and the routine, has every delivered
call. -/
theorem deliveredFrames_forall {ok : SlaveOp → Prop} (hroutine : ok .routine)
    {frames : List (List Datagram)}
    (h : ∀ frame ∈ frames, ∀ d ∈ frame, ∀ (b : Bus σ) (i : Nat), ∀ op ∈ b.delivered d i, ok op)
    (b : Bus σ) (i : Nat) : ∀ op ∈ b.deliveredFrames frames i, ok op := by
  have hframe : ∀ (frame : List Datagram) (b : Bus σ),
      (∀ d ∈ frame, ∀ (b : Bus σ) (i : Nat), ∀ op ∈ b.delivered d i, ok op) →
      ∀ op ∈ b.deliveredFrame frame i, ok op := by
    intro frame
    induction frame with
    | nil => simp [deliveredFrame]
    | cons d ds ih =>
      intro b hds op hop
      rcases List.mem_append.mp hop with hd | hrest
      · exact hds d List.mem_cons_self b i op hd
      · exact ih _ (fun d hd => hds d (List.mem_cons_of_mem _ hd)) op hrest
  induction frames generalizing b with
  | nil => simp [deliveredFrames]
  | cons frame frames ih =>
    intro op hop
    rw [deliveredFrames, List.append_assoc] at hop
    rcases List.mem_append.mp hop with hfirst | hrest
    · exact hframe frame b (h frame List.mem_cons_self) op hfirst
    · rcases List.mem_append.mp hrest with hran | hframes
      · split at hran
        · obtain rfl := List.mem_singleton.mp hran
          exact hroutine
        · cases hran
      · exact ih (fun frame hf => h frame (List.mem_cons_of_mem _ hf)) _ op hframes

theorem deliveredFrames_isServed (b : Bus σ) (frames : List (List Datagram)) (i : Nat) :
    ∀ op ∈ b.deliveredFrames frames i, op.IsServed :=
  deliveredFrames_forall trivial (fun _ _ d _ b i => b.delivered_isServed d i) b i

theorem deliveredFrame_isServed (b : Bus σ) (frame : List Datagram) (i : Nat) :
    ∀ op ∈ b.deliveredFrame frame i, op.IsServed := by
  intro op hop
  apply b.deliveredFrames_isServed [frame] i
  rw [deliveredFrames, List.append_assoc]
  exact List.mem_append_left _ hop

end Deliver

end Bus

section Simulator

variable [SlaveDevice σ]

/-- What reads, writes and routines keep, a frame and the routines keep on every slave. -/
theorem Bus.runOnce_processFrame_forall {P : VirtualSlave σ → Prop}
    (hstep : ∀ s op, P s → op.IsServed → P (VirtualSlave.step s op)) {b : Bus σ}
    (h : ∀ s ∈ b.slaves, P s) (frame : List Datagram) :
    ∀ s ∈ (b.processFrame frame).1.runOnce.slaves, P s := by
  intro s hs
  obtain ⟨i, hi⟩ := List.getElem?_of_mem hs
  have hserved : ∀ op ∈ b.deliveredFrames [frame] i, op.IsServed :=
    b.deliveredFrames_isServed [frame] i
  have hrun : (b.serveFrames [frame]).1.slaves[i]? = some s := hi
  rw [b.serveFrames_slaves] at hrun
  obtain ⟨s₀, hs₀, rfl⟩ := Option.map_eq_some_iff.mp hrun
  exact run_invariant hstep (h s₀ (List.mem_of_getElem? hs₀)) hserved

/-- Delivered calls leave the online flags alone. -/
theorem Bus.onlineAt_of_slaves {b b' : Bus σ} {i : Nat} {ops : List SlaveOp}
    (h : b'.slaves[i]? = b.slaves[i]?.map fun s => run VirtualSlave.step s ops)
    (hops : ∀ op ∈ ops, op.IsServed) : b'.onlineAt i = b.onlineAt i := by
  rw [onlineAt, h, onlineAt]
  cases b.slaves[i]? with
  | none => rfl
  | some s =>
    exact run_invariant (P := fun t : VirtualSlave σ => t.online = s.online)
      (fun t op ht hop => (hop.step_online t).trans ht) rfl hops

end Simulator

end EthercatSim
