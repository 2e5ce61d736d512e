import EthercatSim.VirtualSlave.AlStatus

/-!
# Going down the AL ladder

A target below the current state is one transition: the loop does not step down
rung by rung.  So a descent depends on the transition table, which has no entry
from OPERATIONAL to PRE_OP, and on the precondition of the target, which is a
mapped PDO for SAFE_OP on the way down as well.

* `changeState_of_allowed` and `changeState_of_refused` are the two outcomes.
* `alDescent` says, for every slave that a run reaches, which descents are made
  and what a refused one leaves behind.
* `alDescent_unmapped_false` has two refused descents.
-/

namespace EthercatSim.VirtualSlave

open Kickcat Bytes StepRun

variable {σ : Type}

/-! ## One transition -/

theorem nextState_of_le {s : VirtualSlave σ} {requested : State}
    (hle : stateRank requested ≤ stateRank s.alState) : s.nextState requested = requested :=
  if_neg (Nat.not_lt.mpr hle)

section Descent

variable {s : VirtualSlave σ} {requested : State} (hinvalid : requested ≠ .INVALID)
  (hne : requested ≠ s.alState) (hle : stateRank requested ≤ stateRank s.alState)

include hinvalid hne

theorem stateChangeNeeded_of_ne : s.stateChangeNeeded requested = true := by
  simp [stateChangeNeeded, hinvalid, hne]

include hle

/-- A transition that is allowed is made, and the loop ends with success. -/
theorem changeState_of_allowed (hallowed : isTransitionAllowed s.alState requested = true)
    (hpre : s.preconditionsMet requested = true) :
    s.changeState requested =
      (s.applyStateTransition requested).clearError.syncCoreRegisters := by
  have hfirst : s.transitionStep requested = (s.applyStateTransition requested, none) := by
    simp [transitionStep, stateChangeNeeded_of_ne hinvalid hne, nextState_of_le hle, hallowed, hpre]
  have hsecond := transitionStep_arrived (s.applyStateTransition requested)
  rw [applyStateTransition_alState s hallowed] at hsecond
  obtain ⟨out, hloop, heq⟩ := s.changeState_eq requested
  rw [transitionLoop, FuelLoop.loop_next hfirst, FuelLoop.loop_exit hsecond] at hloop
  obtain rfl := Option.some.inj hloop
  exact heq

/-- A transition that is not allowed, or whose precondition is not met, is
refused with error 0x0011. -/
theorem changeState_of_refused (hrefused : isTransitionAllowed s.alState requested = false ∨
      s.preconditionsMet requested = false) :
    s.changeState requested = s.signalError 0x0011 := by
  have hfirst : s.transitionStep requested = (s.signalError 0x0011, some false) := by
    rcases hrefused with h | h <;>
      simp [transitionStep, stateChangeNeeded_of_ne hinvalid hne, nextState_of_le hle, h]
  obtain ⟨out, hloop, heq⟩ := s.changeState_eq requested
  rw [transitionLoop, FuelLoop.loop_exit hfirst] at hloop
  obtain rfl := Option.some.inj hloop
  exact heq

end Descent

/-- Without the ACK bit a target that is not the current state is handed to the
transition loop. -/
theorem handleAlControlWrite_of_not_ack {s : VirtualSlave σ} {ctrl : UInt16}
    (hack : ¬(ctrl &&& 0x0010 ≠ 0)) (hinvalid : decodeControlState ctrl ≠ .INVALID)
    (hboot : decodeControlState ctrl ≠ .BOOT) (hne : decodeControlState ctrl ≠ s.alState) :
    s.handleAlControlWrite ctrl = s.changeState (decodeControlState ctrl) := by
  have hneed := stateChangeNeeded_of_ne hinvalid hne
  rcases s.handleAlControlWrite_branch ctrl with ⟨hyes, -⟩ | ⟨hyes, -⟩ | ⟨-, hb⟩
  · exact absurd hyes hack
  · exact absurd hyes hack
  · rw [hb, requestState, if_neg hinvalid, if_neg hboot, hneed]
    rfl

/-! ## Which descents are made -/

/-- INIT is always open below, PRE_OP from SAFE_OP only, and SAFE_OP with a mapped
PDO only. -/
def DescentOpen (s : VirtualSlave σ) (r : State) : Prop :=
  r = .INIT ∨ (r = .PRE_OP ∧ s.alState = .SAFE_OP) ∨ (r = .SAFE_OP ∧ s.inputPdoMapped = true)

instance (s : VirtualSlave σ) (r : State) : Decidable (s.DescentOpen r) :=
  inferInstanceAs (Decidable (_ ∨ _ ∨ _))

/-- From a rung to a lower one, the transition is allowed and its precondition met
exactly when the descent is open. -/
theorem descentOpen_iff {s : VirtualSlave σ} {r : State} (hr : OnLadder r)
    (hlt : stateRank r < stateRank s.alState) :
    s.DescentOpen r ↔
      isTransitionAllowed s.alState r = true ∧ s.preconditionsMet r = true := by
  unfold DescentOpen preconditionsMet
  cases hst : s.alState <;> cases r <;>
    simp [hst, OnLadder, stateRank, isTransitionAllowed] at *

/-- What a write at AL_CONTROL does whose target `r` is below the current
state. -/
structure Descends [SlaveDevice σ] (s : VirtualSlave σ) (src : List UInt8) (r : State) : Prop where
  reaches : s.DescentOpen r →
    (s.write 0x0120 src).2.alState = r ∧ (s.write 0x0120 src).2.ErrorCleared
  refused : ¬s.DescentOpen r →
    (s.write 0x0120 src).2.alState = s.alState ∧ (s.write 0x0120 src).2.ErrorSignalled 0x0011

theorem write_descends [SlaveDevice σ] {s : VirtualSlave σ} {src : List UInt8} {r : State}
    (hr : OnLadder r) (htarget : s.alTarget src = some r) (hack : ¬s.HasAck src)
    (hlt : stateRank r < stateRank s.alState) : s.Descends src r := by
  obtain ⟨hword, hwrite⟩ := write_alControl_word htarget
  have hinvalid : r ≠ .INVALID := by
    intro heq
    subst heq
    exact Nat.lt_irrefl 0 hr
  have hboot : r ≠ .BOOT := by
    intro heq
    subst heq
    exact Nat.lt_irrefl 0 hr
  have hne : r ≠ (s.controlWritten src).alState := by
    intro heq
    subst heq
    exact Nat.lt_irrefl _ hlt
  have hle : stateRank r ≤ stateRank (s.controlWritten src).alState := Nat.le_of_lt hlt
  have hout : (s.write 0x0120 src).2 = (s.controlWritten src).changeState r := by
    rw [hwrite]
    subst hword
    exact handleAlControlWrite_of_not_ack hack hinvalid hboot hne
  have hopen := descentOpen_iff hr hlt
  constructor
  case reaches =>
    intro h
    obtain ⟨hallowed, hpre⟩ := hopen.mp h
    have hstate := applyStateTransition_alState (s.controlWritten src) hallowed
    rw [hout, changeState_of_allowed hinvalid hne hle hallowed hpre]
    refine ⟨hstate, syncCoreRegisters_errorCleared ?_⟩
    rw [hstate]
    exact hr
  case refused =>
    intro h
    have hrefused : isTransitionAllowed (s.controlWritten src).alState r = false ∨
        (s.controlWritten src).preconditionsMet r = false := by
      rw [hopen, not_and_or, Bool.not_eq_true, Bool.not_eq_true] at h
      exact h
    rw [hout, changeState_of_refused hinvalid hne hle hrefused]
    exact ⟨rfl, signalError_errorSignalled _ _⟩

/-! ## Whole runs -/

/-- At every point of a run of guarded calls, a write at AL_CONTROL without the
ACK bit whose target is on the ladder below the current state goes to the target
without an error when the descent is open, and otherwise leaves the AL state
alone and signals error 0x0011. -/
theorem alDescent [SlaveDevice σ] (address : UInt16) (vendorId productCode : UInt32) (device : σ)
    (ops : List SlaveOp) (hops : ∀ op ∈ ops, op.IsGuarded) :
    let s := run step (new address vendorId productCode device) ops
    OnLadder s.alState ∧
      ∀ (src : List UInt8) (r : State), s.alTarget src = some r → ¬s.HasAck src →
        r = .INIT ∨ r = .PRE_OP ∨ r = .SAFE_OP → stateRank r < stateRank s.alState →
          s.Descends src r := by
  intro s
  have hstep : ∀ (s : VirtualSlave σ) (op : SlaveOp), OnLadder s.alState → op.IsGuarded →
      OnLadder (s.step op).alState := fun _ _ h hop => (step_enters h hop).1
  have hs : OnLadder s.alState := run_invariant (P := fun s : VirtualSlave σ => OnLadder s.alState)
    hstep (new_onLadder _ _ _ _) hops
  refine ⟨hs, ?_⟩
  intro src r htarget hack hr hlt
  refine write_descends ?_ htarget hack hlt
  rcases hr with rfl | rfl | rfl <;> exact Nat.succ_pos _

/-- A mapped slave that went up to OPERATIONAL and then lost its mapping. -/
def unmappedInOperational : List SlaveOp :=
  [.setInputPDOMapped true, .write 0x0120 [0x08, 0x00], .setInputPDOMapped false]

/-- It still goes down to INIT. -/
theorem alDescent_to_init :
    let s := run step (new 1 2 3 ()) unmappedInOperational
    s.alState = .OPERATIONAL ∧ (s.write 0x0120 [0x01, 0x00]).2.alState = .INIT ∧
      (s.write 0x0120 [0x01, 0x00]).2.ErrorCleared := by
  intro s
  have hops : ∀ op ∈ unmappedInOperational, op.IsGuarded := by
    intro op hop
    simp only [unmappedInOperational, List.mem_cons, List.not_mem_nil, or_false] at hop
    rcases hop with rfl | rfl | rfl <;> trivial
  have hdescent := (alDescent 1 2 3 () _ hops).2 [0x01, 0x00] .INIT (by decide) (by decide)
    (.inl rfl) (by decide)
  exact ⟨by decide, hdescent.reaches (.inl rfl)⟩

/-- It does not go down to SAFE_OP, which asks for the mapping, nor to PRE_OP,
which the transition table does not have. -/
theorem alDescent_unmapped_false :
    let s := run step (new 1 2 3 ()) unmappedInOperational
    s.alState = .OPERATIONAL ∧
      s.alTarget [0x04, 0x00] = some .SAFE_OP ∧ ¬s.HasAck [0x04, 0x00] ∧
      (s.write 0x0120 [0x04, 0x00]).2.alState = .OPERATIONAL ∧
      (s.write 0x0120 [0x04, 0x00]).2.alStatusCode = 0x0011 ∧
      s.alTarget [0x02, 0x00] = some .PRE_OP ∧ ¬s.HasAck [0x02, 0x00] ∧
      (s.write 0x0120 [0x02, 0x00]).2.alState = .OPERATIONAL ∧
      (s.write 0x0120 [0x02, 0x00]).2.alStatusCode = 0x0011 := by
  decide

end EthercatSim.VirtualSlave
