import EthercatSim.VirtualSlave.Steps

/-!
# The AL ladder

INIT, PRE_OP, SAFE_OP and OPERATIONAL are the rungs 1 to 4 of a ladder.  A
write at AL_CONTROL names a target; the transition loop of
`handleAlControlWrite` climbs to a higher target one rung at a time, and stops
below SAFE_OP when no input PDO is mapped.

* `transitionLoop_reaches` and `transitionLoop_stops` are the two outcomes of
  a climb.
* `isChain_rungs` says that the loop skips no rung.
* `alLadder` puts them together for every slave that a run from construction
  reaches.

The frame of the state machine (`AlStep`) does the rest: nothing but a write
that starts at AL_CONTROL touches the AL state.
-/

namespace EthercatSim.VirtualSlave

open Kickcat Bytes StepRun

variable {σ : Type}

/-! ## The ladder -/

/-- A state that has a rung. -/
def OnLadder (st : State) : Prop := 0 < stateRank st

/-- The state on the higher rung. -/
def higher (a b : State) : State := if stateRank a < stateRank b then b else a

theorem stateRank_nextStateUp {a r : State} (ha : OnLadder a)
    (hlt : stateRank a < stateRank r) : stateRank (nextStateUp a) = stateRank a + 1 := by
  have hr : stateRank r ≤ 4 := by cases r <;> decide
  cases a with
  | INIT => rfl
  | PRE_OP => rfl
  | SAFE_OP => rfl
  | OPERATIONAL =>
    have h4 : stateRank .OPERATIONAL = 4 := rfl
    omega
  | INVALID => simp [OnLadder, stateRank] at ha
  | BOOT => simp [OnLadder, stateRank] at ha
  | ACK => simp [OnLadder, stateRank] at ha

/-- Rungs are numbered without repetition. -/
theorem eq_of_stateRank_eq {a b : State} (ha : OnLadder a)
    (h : stateRank a = stateRank b) : a = b := by
  cases a <;> cases b <;> simp [OnLadder, stateRank] at *

/-- The transition table never leaves the ladder. -/
theorem OnLadder.of_isTransitionAllowed {src dst : State}
    (h : isTransitionAllowed src dst = true) : OnLadder dst := by
  cases src <;> cases dst <;> simp [isTransitionAllowed, OnLadder, stateRank] at *

/-- The next rung up is always allowed by the transition table. -/
theorem isTransitionAllowed_nextStateUp {a : State} (ha : OnLadder a) :
    isTransitionAllowed a (nextStateUp a) = true := by
  cases a <;> simp [OnLadder, stateRank] at ha <;> rfl

/-! ## One iteration of the transition loop -/

/-- An iteration that ends the loop leaves the AL state alone. -/
theorem transitionStep_some {s s' : VirtualSlave σ} {requested : State} {success : Bool}
    (h : s.transitionStep requested = (s', some success)) :
    s'.alState = s.alState ∧ s'.inputPdoMapped = s.inputPdoMapped := by
  rcases s.transitionStep_branch requested with ⟨-, hb⟩ | ⟨-, -, hb⟩ | ⟨-, -, -, hb⟩ <;>
    rw [hb, Prod.mk.injEq] at h
  · rw [← h.1]
    exact ⟨rfl, rfl⟩
  · rw [← h.1]
    exact ⟨rfl, rfl⟩
  · cases h.2

/-- An iteration that goes on enters a rung, and enters SAFE_OP or OPERATIONAL
only with a mapped PDO. -/
theorem transitionStep_enters {s s' : VirtualSlave σ} {requested : State}
    (h : s.transitionStep requested = (s', none)) :
    OnLadder s'.alState ∧ s'.inputPdoMapped = s.inputPdoMapped ∧
      (s'.alState = .SAFE_OP ∨ s'.alState = .OPERATIONAL → s.inputPdoMapped = true) := by
  obtain ⟨-, hallowed, hpre, rfl⟩ := transitionStep_none h
  have hstate := applyStateTransition_alState s hallowed
  have hframe :=
    congrArg inputPdoMapped (applyStateTransition_alStep s (s.nextState requested)).frame
  refine ⟨?_, hframe, ?_⟩
  · rw [hstate]
    exact OnLadder.of_isTransitionAllowed hallowed
  · rw [hstate]
    intro htarget
    have hboot : s.nextState requested ≠ .BOOT := by
      rcases htarget with h | h <;> rw [h] <;> decide
    rw [preconditionsMet, if_neg hboot, if_pos htarget] at hpre
    exact hpre

/-- At the target the loop ends with success. -/
theorem transitionStep_arrived (s : VirtualSlave σ) :
    s.transitionStep s.alState = (s, some true) := by
  simp [transitionStep, stateChangeNeeded]

/-- An iteration that goes on starts below or above the target. -/
theorem stateRank_ne_of_next {s s' : VirtualSlave σ} {requested : State} (hs : OnLadder s.alState)
    (h : s.transitionStep requested = (s', none)) :
    stateRank s.alState ≠ stateRank requested := by
  intro heq
  obtain rfl := eq_of_stateRank_eq hs heq
  rw [transitionStep_arrived] at h
  simp at h

section Climb

variable {s : VirtualSlave σ} {requested : State} (hs : OnLadder s.alState)
  (hlt : stateRank s.alState < stateRank requested)

include hlt

theorem stateChangeNeeded_of_lt : s.stateChangeNeeded requested = true := by
  have hinvalid : requested ≠ .INVALID := by
    intro heq
    subst heq
    simp [stateRank] at hlt
  have hne : requested ≠ s.alState := by
    intro heq
    subst heq
    omega
  simp [stateChangeNeeded, hinvalid, hne]

theorem nextState_of_lt : s.nextState requested = nextStateUp s.alState := if_pos hlt

include hs

/-- Below the target, the loop climbs one rung when the precondition of that
rung is met. -/
theorem transitionStep_climb (hpre : s.preconditionsMet (nextStateUp s.alState) = true) :
    s.transitionStep requested = (s.applyStateTransition (nextStateUp s.alState), none) := by
  simp [transitionStep, stateChangeNeeded_of_lt hlt, nextState_of_lt hlt,
    isTransitionAllowed_nextStateUp hs, hpre]

/-- Below the target, the loop stops with error 0x0011 when the precondition of
the next rung is not met. -/
theorem transitionStep_blocked (hpre : s.preconditionsMet (nextStateUp s.alState) = false) :
    s.transitionStep requested = (s.signalError 0x0011, some false) := by
  simp [transitionStep, stateChangeNeeded_of_lt hlt, nextState_of_lt hlt,
    isTransitionAllowed_nextStateUp hs, hpre]

/-- A climbing iteration is exactly one rung, and stays at or below the
target. -/
theorem transitionStep_rung {s' : VirtualSlave σ} (h : s.transitionStep requested = (s', none)) :
    stateRank s'.alState = stateRank s.alState + 1 := by
  obtain ⟨-, hallowed, -, rfl⟩ := transitionStep_none h
  rw [applyStateTransition_alState s hallowed, nextState_of_lt hlt]
  exact stateRank_nextStateUp hs hlt

end Climb

/-! ## The transition loop -/

/-- The AL states that the loop passes through, its start and its end
included. -/
def rungs (s : VirtualSlave σ) (requested : State) : List State :=
  (FuelLoop.visited (fun s => s.transitionStep requested) 5 s).map alState

theorem head?_rungs (s : VirtualSlave σ) (requested : State) :
    (s.rungs requested).head? = some s.alState := by
  rw [rungs, List.head?_map, FuelLoop.head?_visited]
  rfl

/-- The last rung is the AL state in which the loop ends. -/
theorem getLast?_rungs {s : VirtualSlave σ} {requested : State} {out : VirtualSlave σ × Bool}
    (h : transitionLoop 5 s requested = some out) :
    (s.rungs requested).getLast? = some out.1.alState := by
  obtain ⟨t, hlast, ht⟩ := FuelLoop.getLast?_visited h
  rw [rungs, List.getLast?_map, hlast, (transitionStep_some ht).1]
  rfl

/-- A climb skips no rung. -/
theorem isChain_rungs {s : VirtualSlave σ} {requested : State} (hs : OnLadder s.alState)
    (hle : stateRank s.alState ≤ stateRank requested) :
    (s.rungs requested).IsChain fun a b => stateRank b = stateRank a + 1 := by
  rw [rungs, List.isChain_map]
  apply FuelLoop.isChain_visited
    (I := fun t => OnLadder t.alState ∧ stateRank t.alState ≤ stateRank requested)
  · intro t t' hcase hstep
    obtain ⟨ht, htle⟩ := hcase
    have hne := stateRank_ne_of_next ht hstep
    have hrung := transitionStep_rung ht (by omega) hstep
    exact ⟨⟨(transitionStep_enters hstep).1, by omega⟩, hrung⟩
  · exact ⟨hs, hle⟩

/-- Below the target the next rung is PRE_OP, which has no precondition, or a
rung whose precondition is a mapped PDO. -/
theorem preconditionsMet_nextStateUp {s : VirtualSlave σ} {requested : State}
    (hs : OnLadder s.alState) (hlt : stateRank s.alState < stateRank requested)
    (hmet : s.inputPdoMapped = true ∨ requested = .PRE_OP) :
    s.preconditionsMet (nextStateUp s.alState) = true := by
  rcases hmet with hmapped | rfl
  · cases hst : s.alState <;> simp [hst, OnLadder, stateRank] at hs <;>
      simp [nextStateUp, preconditionsMet, hmapped]
  · have hinit : s.alState = .INIT := by
      apply eq_of_stateRank_eq hs
      have h2 : stateRank .PRE_OP = 2 := rfl
      have h1 : stateRank .INIT = 1 := rfl
      have hpos : 0 < stateRank s.alState := hs
      omega
    rw [hinit]
    rfl

/-- With a mapped PDO, or up to PRE_OP, the loop climbs to the target. -/
theorem transitionLoop_reaches {fuel : Nat} {s : VirtualSlave σ} {requested : State}
    (hs : OnLadder s.alState) (hle : stateRank s.alState ≤ stateRank requested)
    (hmet : s.inputPdoMapped = true ∨ requested = .PRE_OP) {out : VirtualSlave σ × Bool}
    (h : transitionLoop fuel s requested = some out) :
    out.1.alState = requested ∧ out.2 = true := by
  refine FuelLoop.loop_post (Q := fun t ok => t.alState = requested ∧ ok = true)
    (I := fun t => OnLadder t.alState ∧ stateRank t.alState ≤ stateRank requested ∧
      t.inputPdoMapped = s.inputPdoMapped) ?_ ?_ ⟨hs, hle, rfl⟩ h
  · intro t t' hcase hstep
    obtain ⟨ht, htle, htm⟩ := hcase
    have hne := stateRank_ne_of_next ht hstep
    have hrung := transitionStep_rung ht (by omega) hstep
    obtain ⟨hlad, hframe, -⟩ := transitionStep_enters hstep
    exact ⟨hlad, by omega, hframe.trans htm⟩
  · intro t t' ok hcase hstep
    obtain ⟨ht, htle, htm⟩ := hcase
    rcases Nat.lt_or_eq_of_le htle with hlt | heq
    · rw [← htm] at hmet
      rw [transitionStep_climb ht hlt (preconditionsMet_nextStateUp ht hlt hmet)] at hstep
      simp at hstep
    · obtain rfl := eq_of_stateRank_eq ht heq
      rw [transitionStep_arrived] at hstep
      obtain ⟨rfl, hok⟩ := Prod.mk.inj hstep
      exact ⟨rfl, (Option.some.inj hok).symm⟩

/-- An unmapped slave at PRE_OP or above stops at the first iteration. -/
theorem transitionLoop_blocked {fuel : Nat} {s : VirtualSlave σ} {requested : State}
    (hs : OnLadder s.alState) (hinit : s.alState ≠ .INIT)
    (hlt : stateRank s.alState < stateRank requested) (hmapped : s.inputPdoMapped = false)
    {out : VirtualSlave σ × Bool} (h : transitionLoop fuel s requested = some out) :
    out = (s.signalError 0x0011, false) := by
  have hr : stateRank requested ≤ 4 := by cases requested <;> decide
  have hpre : s.preconditionsMet (nextStateUp s.alState) = false := by
    cases hst : s.alState with
    | INIT => exact absurd hst hinit
    | PRE_OP => simp [nextStateUp, preconditionsMet, hmapped]
    | SAFE_OP => simp [nextStateUp, preconditionsMet, hmapped]
    | OPERATIONAL =>
      have h4 : stateRank .OPERATIONAL = 4 := rfl
      rw [hst] at hlt
      omega
    | INVALID => simp [hst, OnLadder, stateRank] at hs
    | BOOT => simp [hst, OnLadder, stateRank] at hs
    | ACK => simp [hst, OnLadder, stateRank] at hs
  cases fuel with
  | zero => simp [transitionLoop, FuelLoop.loop] at h
  | succ fuel =>
    rw [transitionLoop, FuelLoop.loop_exit (transitionStep_blocked hs hlt hpre)] at h
    exact (Option.some.inj h).symm

/-- Without a mapped PDO the loop stops at PRE_OP, or where it is above
PRE_OP, with error 0x0011. -/
theorem transitionLoop_stops {fuel : Nat} {s : VirtualSlave σ} {requested : State}
    (hs : OnLadder s.alState) (hlt : stateRank s.alState < stateRank requested)
    (hr : requested ≠ .PRE_OP) (hmapped : s.inputPdoMapped = false)
    {out : VirtualSlave σ × Bool} (h : transitionLoop fuel s requested = some out) :
    ∃ t : VirtualSlave σ, out = (t.signalError 0x0011, false) ∧
      t.alState = higher s.alState .PRE_OP := by
  by_cases hinit : s.alState = .INIT
  · have hclimb := transitionStep_climb hs hlt (by rw [hinit]; rfl)
    rw [hinit] at hclimb hlt
    cases fuel with
    | zero => simp [transitionLoop, FuelLoop.loop] at h
    | succ fuel =>
      rw [transitionLoop, FuelLoop.loop_next hclimb] at h
      have hlt' : stateRank .PRE_OP < stateRank requested := by
        cases requested <;> simp [stateRank] at hlt hr ⊢
      have hs' : OnLadder (s.applyStateTransition .PRE_OP).alState := by
        show 0 < 2
        decide
      have hinit' : (s.applyStateTransition .PRE_OP).alState ≠ .INIT := by
        show State.PRE_OP ≠ .INIT
        decide
      refine ⟨_, transitionLoop_blocked hs' hinit' hlt' hmapped h, ?_⟩
      rw [hinit]
      rfl
  · refine ⟨s, transitionLoop_blocked hs hinit hlt hmapped h, ?_⟩
    cases hst : s.alState <;> simp [hst, OnLadder, stateRank, higher] at *

/-- Whatever the target, the loop stays on the ladder, and a new state above
PRE_OP takes a mapped PDO. -/
theorem transitionLoop_enters {fuel : Nat} {s : VirtualSlave σ} {requested : State}
    (hs : OnLadder s.alState) {out : VirtualSlave σ × Bool}
    (h : transitionLoop fuel s requested = some out) :
    OnLadder out.1.alState ∧
      (out.1.alState ≠ s.alState → out.1.alState = .SAFE_OP ∨ out.1.alState = .OPERATIONAL →
        s.inputPdoMapped = true) := by
  have hpost := FuelLoop.loop_post
    (I := fun t => OnLadder t.alState ∧ t.inputPdoMapped = s.inputPdoMapped ∧
      (t.alState ≠ s.alState → t.alState = .SAFE_OP ∨ t.alState = .OPERATIONAL →
        s.inputPdoMapped = true))
    (Q := fun t _ => OnLadder t.alState ∧
      (t.alState ≠ s.alState → t.alState = .SAFE_OP ∨ t.alState = .OPERATIONAL →
        s.inputPdoMapped = true)) ?_ ?_ ⟨hs, rfl, fun hne => absurd rfl hne⟩ h
  · exact hpost
  · intro t t' hcase hstep
    obtain ⟨-, htm, -⟩ := hcase
    obtain ⟨hlad, hframe, henter⟩ := transitionStep_enters hstep
    refine ⟨hlad, hframe.trans htm, ?_⟩
    intro _ htarget
    exact htm ▸ henter htarget
  · intro t t' ok hcase hstep
    obtain ⟨ht, -, henter⟩ := hcase
    rw [(transitionStep_some hstep).1]
    exact ⟨ht, henter⟩

/-! ## A write at AL_CONTROL -/

/-- The state in which `handleAlControlWrite` looks at the target: an ACK bit
has dropped the error by then. -/
def acknowledged (s : VirtualSlave σ) (ctrl : UInt16) : VirtualSlave σ :=
  if ctrl &&& 0x0010 ≠ 0 then s.clearError else s

theorem acknowledged_alState (s : VirtualSlave σ) (ctrl : UInt16) :
    (s.acknowledged ctrl).alState = s.alState := by
  unfold acknowledged
  split <;> rfl

theorem acknowledged_inputPdoMapped (s : VirtualSlave σ) (ctrl : UInt16) :
    (s.acknowledged ctrl).inputPdoMapped = s.inputPdoMapped := by
  unfold acknowledged
  split <;> rfl

/-- The error is gone from the members and from the registers. -/
def ErrorCleared (s : VirtualSlave σ) : Prop :=
  s.alStatusCode = 0 ∧ s.ackRequested = false ∧ s.regs.word Reg.AL_STATUS_CODE = 0 ∧
    s.regs.get Reg.AL_STATUS &&& State.ACK.toByte = 0

/-- The error `code` is signalled in the members and in the registers. -/
def ErrorSignalled (s : VirtualSlave σ) (code : UInt16) : Prop :=
  s.alStatusCode = code ∧ s.ackRequested = true ∧ s.regs.word Reg.AL_STATUS_CODE = code ∧
    s.regs.get Reg.AL_STATUS &&& State.ACK.toByte ≠ 0

theorem syncCoreRegisters_word_alStatusCode (s : VirtualSlave σ) :
    s.syncCoreRegisters.regs.word Reg.AL_STATUS_CODE = s.alStatusCode :=
  Cells.word_setWord _ _ (by decide)

theorem syncCoreRegisters_get_alStatus (s : VirtualSlave σ) :
    s.syncCoreRegisters.regs.get Reg.AL_STATUS =
      if s.ackRequested then s.alState.toByte ||| State.ACK.toByte else s.alState.toByte := by
  simp [syncCoreRegisters, Cells.get_setWord, Cells.get_set]

theorem syncCoreRegisters_errorCleared {s : VirtualSlave σ} (hs : OnLadder s.alState) :
    s.clearError.syncCoreRegisters.ErrorCleared := by
  refine ⟨rfl, rfl, syncCoreRegisters_word_alStatusCode _, ?_⟩
  rw [syncCoreRegisters_get_alStatus]
  show s.alState.toByte &&& State.ACK.toByte = 0
  cases hst : s.alState <;> simp [hst, OnLadder, stateRank] at hs <;> decide

theorem signalError_errorSignalled (s : VirtualSlave σ) (code : UInt16) :
    (s.signalError code).ErrorSignalled code := by
  refine ⟨rfl, rfl, syncCoreRegisters_word_alStatusCode _, ?_⟩
  rw [signalError, syncCoreRegisters_get_alStatus]
  show (s.alState.toByte ||| State.ACK.toByte) &&& State.ACK.toByte ≠ 0
  cases s.alState <;> decide

/-- `changeState` is the transition loop and, after a success, the cleared
error. -/
theorem changeState_eq (s : VirtualSlave σ) (requested : State) :
    ∃ out, transitionLoop 5 s requested = some out ∧
      s.changeState requested =
        if out.2 = true then out.1.clearError.syncCoreRegisters else out.1 := by
  refine ⟨_, (Option.some_get (s.transitionLoop_isSome requested)).symm, ?_⟩
  unfold changeState
  generalize (s.transitionLoop 5 requested).get (s.transitionLoop_isSome requested) = out
  rcases out with ⟨t, _ | _⟩ <;> rfl

/-- The AL state after `changeState` is the one in which the loop ended. -/
theorem changeState_alState (s : VirtualSlave σ) (requested : State) :
    ∃ out, transitionLoop 5 s requested = some out ∧
      (s.changeState requested).alState = out.1.alState := by
  obtain ⟨out, hloop, heq⟩ := s.changeState_eq requested
  refine ⟨out, hloop, ?_⟩
  rw [heq]
  split <;> rfl

/-- What `handleAlControlWrite` does with a target that is not above the
current state: it keeps the AL state, or changes it by the loop. -/
theorem handleAlControlWrite_cases (s : VirtualSlave σ) (ctrl : UInt16) :
    (s.handleAlControlWrite ctrl).alState = s.alState ∨
      s.handleAlControlWrite ctrl =
        (s.acknowledged ctrl).changeState (decodeControlState ctrl) := by
  have hrequest : ∀ t : VirtualSlave σ, ∀ requested,
      (t.requestState requested).alState = t.alState ∨
        t.requestState requested = t.changeState requested := by
    intro t requested
    rcases t.requestState_branch requested with hb | ⟨-, hb⟩ | ⟨-, hb⟩
    · exact .inl (by rw [hb]; rfl)
    · exact .inl (by rw [hb]; rfl)
    · exact .inr hb
  unfold acknowledged
  rcases s.handleAlControlWrite_branch ctrl with ⟨-, -, hb⟩ | ⟨hack, -, hb⟩ | ⟨hack, hb⟩
  · exact .inl (by rw [hb]; rfl)
  · rw [hb, if_pos hack]
    exact hrequest s.clearError _
  · rw [hb, if_neg hack]
    exact hrequest s _

/-- A target above the current state is handed to the transition loop. -/
theorem handleAlControlWrite_of_lt {s : VirtualSlave σ} {ctrl : UInt16}
    (hlt : stateRank s.alState < stateRank (decodeControlState ctrl)) :
    s.handleAlControlWrite ctrl =
      (s.acknowledged ctrl).changeState (decodeControlState ctrl) := by
  generalize hr : decodeControlState ctrl = requested at hlt
  have hinvalid : requested ≠ .INVALID := by
    intro heq
    subst heq
    simp [stateRank] at hlt
  have hboot : requested ≠ .BOOT := by
    intro heq
    subst heq
    simp [stateRank] at hlt
  have hrequest : ∀ t : VirtualSlave σ, t.alState = s.alState →
      t.requestState requested = t.changeState requested := by
    intro t ht
    have hneed := stateChangeNeeded_of_lt (s := t) (ht ▸ hlt)
    rw [requestState, if_neg hinvalid, if_neg hboot, hneed]
    rfl
  unfold acknowledged
  rcases s.handleAlControlWrite_branch ctrl with ⟨-, hno, -⟩ | ⟨hack, -, hb⟩ | ⟨hack, hb⟩
  · rw [hr] at hno
    exact absurd ⟨hinvalid, hlt⟩ hno
  · rw [hb, hr, if_pos hack]
    exact hrequest s.clearError rfl
  · rw [hb, hr, if_neg hack]
    exact hrequest s rfl

/-- The file of registers after the data of a write at AL_CONTROL has been
copied. -/
def controlWritten (s : VirtualSlave σ) (src : List UInt8) : VirtualSlave σ :=
  { s with regs := s.regs.store Reg.AL_CONTROL src }

/-- The target that a write at AL_CONTROL names.  A write that does not fit
into the register file is not decoded. -/
def alTarget (s : VirtualSlave σ) (src : List UInt8) : Option State :=
  if 1 ≤ src.length ∧ Reg.AL_CONTROL + src.length ≤ 4096 then
    some (decodeControlState ((s.controlWritten src).regs.word Reg.AL_CONTROL))
  else none

/-- The state in which the transition loop of a write at AL_CONTROL starts. -/
def loopEntry (s : VirtualSlave σ) (src : List UInt8) : VirtualSlave σ :=
  (s.controlWritten src).acknowledged ((s.controlWritten src).regs.word Reg.AL_CONTROL)

/-- A write that has a target runs the AL state machine on the word at
AL_CONTROL. -/
theorem write_alControl_word [SlaveDevice σ] {s : VirtualSlave σ} {src : List UInt8} {r : State}
    (h : s.alTarget src = some r) :
    decodeControlState ((s.controlWritten src).regs.word Reg.AL_CONTROL) = r ∧
      s.write 0x0120 src = (true, (s.controlWritten src).handleAlControlWrite
        ((s.controlWritten src).regs.word Reg.AL_CONTROL)) := by
  unfold alTarget at h
  split at h
  · rename_i hfits
    refine ⟨Option.some.inj h, ?_⟩
    have hesc : EscWrite 0x0120 src := ⟨fun hc => absurd hc.1 (by decide), hfits.2⟩
    rw [write_of_esc s hesc, escWriteHooks_alControl _ rfl hfits.1]
    rfl
  · simp at h

theorem write_alControl [SlaveDevice σ] {s : VirtualSlave σ} {src : List UInt8} {r : State}
    (h : s.alTarget src = some r) :
    ∃ ctrl, decodeControlState ctrl = r ∧
      s.loopEntry src = (s.controlWritten src).acknowledged ctrl ∧
      s.write 0x0120 src = (true, (s.controlWritten src).handleAlControlWrite ctrl) :=
  ⟨_, (write_alControl_word h).1, rfl, (write_alControl_word h).2⟩

/-- What a write at AL_CONTROL does whose target `r` is above the current
state. -/
structure Climbs [SlaveDevice σ] (s : VirtualSlave σ) (src : List UInt8) (r : State) : Prop where
  start : ((s.loopEntry src).rungs r).head? = some s.alState
  last : ((s.loopEntry src).rungs r).getLast? = some (s.write 0x0120 src).2.alState
  chain : ((s.loopEntry src).rungs r).IsChain fun a b => stateRank b = stateRank a + 1
  reaches : s.inputPdoMapped = true ∨ r = .PRE_OP →
    (s.write 0x0120 src).2.alState = r ∧ (s.write 0x0120 src).2.ErrorCleared
  stops : ¬(s.inputPdoMapped = true ∨ r = .PRE_OP) →
    (s.write 0x0120 src).2.alState = higher s.alState .PRE_OP ∧
      (s.write 0x0120 src).2.ErrorSignalled 0x0011

theorem write_climbs [SlaveDevice σ] {s : VirtualSlave σ} {src : List UInt8} {r : State}
    (hs : OnLadder s.alState) (h : s.alTarget src = some r)
    (hlt : stateRank s.alState < stateRank r) : s.Climbs src r := by
  obtain ⟨ctrl, rfl, hentry, hwrite⟩ := write_alControl h
  have hstate : ((s.controlWritten src).acknowledged ctrl).alState = s.alState :=
    acknowledged_alState _ _
  have hmapped : ((s.controlWritten src).acknowledged ctrl).inputPdoMapped = s.inputPdoMapped :=
    acknowledged_inputPdoMapped _ _
  have hout : (s.write 0x0120 src).2 =
      (s.loopEntry src).changeState (decodeControlState ctrl) := by
    rw [hwrite, hentry]
    exact handleAlControlWrite_of_lt (s := s.controlWritten src) hlt
  rw [← hentry] at hstate hmapped
  obtain ⟨out, hloop, heq⟩ := (s.loopEntry src).changeState_eq (decodeControlState ctrl)
  rw [heq] at hout
  rw [← hstate] at hs hlt
  have hend : (s.write 0x0120 src).2.alState = out.1.alState := by
    rw [hout]
    split <;> rfl
  constructor
  case start => rw [head?_rungs, hstate]
  case last => rw [getLast?_rungs hloop, hend]
  case chain => exact isChain_rungs hs (Nat.le_of_lt hlt)
  case reaches =>
    intro hmet
    rw [← hmapped] at hmet
    obtain ⟨harrived, hsuccess⟩ := transitionLoop_reaches hs (Nat.le_of_lt hlt) hmet hloop
    refine ⟨hend.trans harrived, ?_⟩
    rw [hout, if_pos hsuccess]
    apply syncCoreRegisters_errorCleared
    rw [harrived]
    exact Nat.lt_of_le_of_lt (Nat.zero_le _) hlt
  case stops =>
    intro hunmet
    rw [not_or, Bool.not_eq_true, ← hmapped] at hunmet
    obtain ⟨t, rfl, ht⟩ := transitionLoop_stops hs hlt hunmet.2 hunmet.1 hloop
    rw [hstate] at ht
    exact ⟨hend.trans ht, hout ▸ signalError_errorSignalled t _⟩

/-! ## Every other call -/

end EthercatSim.VirtualSlave

namespace EthercatSim

/-- A write that starts at AL_CONTROL and has at least one byte. -/
def SlaveOp.IsAlControlWrite : SlaveOp → Prop
  | .write reg src => reg = 0x0120 ∧ 1 ≤ src.length
  | _ => False

end EthercatSim

namespace EthercatSim.VirtualSlave

open Kickcat Bytes StepRun

variable {σ : Type}

theorem MailboxStep.alState_eq {s s' : VirtualSlave σ} (h : MailboxStep s s') :
    s'.alState = s.alState := by
  have hframe := congrArg alState (h.frame s.device)
  exact hframe

theorem read_alState (s : VirtualSlave σ) (reg : UInt16) (dst : List UInt8) :
    (s.read reg dst).2.2.alState = s.alState := by
  cases hout : s.read reg dst with
  | mk ok out =>
    have hbranch := s.read_branch reg dst
    rw [hout] at hbranch
    cases hbranch <;> rfl

/-- A write leaves the AL state alone, or runs the AL state machine on a ladder
state. -/
theorem write_alState [SlaveDevice σ] (s : VirtualSlave σ) (reg : UInt16) (src : List UInt8) :
    (s.write reg src).2.alState = s.alState ∨
      (SlaveOp.write reg src).IsAlControlWrite ∧
        ∃ ctrl, (s.write reg src).2 = (s.controlWritten src).handleAlControlWrite ctrl := by
  cases hout : s.write reg src with
  | mk ok s' =>
    have hbranch := s.write_branch reg src
    rw [hout] at hbranch
    cases hbranch with
    | eeprom addr hreg hlen => exact .inl rfl
    | esc hesc =>
      by_cases hal : reg.toNat = Reg.AL_CONTROL ∧ 1 ≤ src.length
      · have hreg : reg = 0x0120 := UInt16.toNat_inj.mp hal.1
        subst hreg
        exact .inr ⟨⟨rfl, hal.2⟩, _, escWriteHooks_alControl _ hal.1 hal.2⟩
      · rw [escWriteHooks_of_ne _ hal]
        exact .inl rfl
    | mailbox hreg hsize hwin =>
      exact .inl (handleMailboxWrite_mailboxStep _).alState_eq
    | syncManager hreg hsize hwin hsm =>
      have hframe := congrArg alState (parseSyncManagers_outsideWindows s reg.toNat 0 src)
      exact .inl hframe
    | rejected hreg hsize hwin hsm => exact .inl rfl

/-- A guarded call leaves the AL state alone, or is a write that runs the AL
state machine. -/
theorem step_alState [SlaveDevice σ] (s : VirtualSlave σ) {op : SlaveOp} (hop : op.IsGuarded) :
    (s.step op).alState = s.alState ∨
      op.IsAlControlWrite ∧ ∃ src ctrl,
        s.step op = (s.controlWritten src).handleAlControlWrite ctrl := by
  cases op with
  | read reg dst => exact .inl (read_alState s reg dst)
  | write reg src =>
    rcases s.write_alState reg src with h | ⟨hreg, ctrl, h⟩
    · exact .inl h
    · exact .inr ⟨hreg, src, ctrl, h⟩
  | setOnline on => exact .inl rfl
  | setALState st => exact absurd hop id
  | setInputPDOMapped v => exact .inl rfl
  | start => exact .inl rfl
  | routine =>
    left
    simp only [step, routine]
    split <;> rfl

/-- A guarded call stays on the ladder, and newly enters SAFE_OP or OPERATIONAL
only with a mapped PDO. -/
theorem step_enters [SlaveDevice σ] {s : VirtualSlave σ} (hs : OnLadder s.alState)
    {op : SlaveOp} (hop : op.IsGuarded) :
    OnLadder (s.step op).alState ∧
      ((s.step op).alState ≠ s.alState →
        (s.step op).alState = .SAFE_OP ∨ (s.step op).alState = .OPERATIONAL →
        s.inputPdoMapped = true) := by
  by_cases heq : (s.step op).alState = s.alState
  · exact ⟨heq ▸ hs, fun hne => absurd heq hne⟩
  · rcases s.step_alState hop with h | ⟨-, src, ctrl, h⟩
    · exact absurd h heq
    · rw [h] at heq ⊢
      rcases (s.controlWritten src).handleAlControlWrite_cases ctrl with hc | hc
      · exact absurd hc heq
      · rw [hc]
        obtain ⟨out, hloop, hend⟩ := changeState_alState
          ((s.controlWritten src).acknowledged ctrl) (decodeControlState ctrl)
        have henters := transitionLoop_enters
          (by rw [acknowledged_alState]; exact hs) hloop
        rw [acknowledged_alState, acknowledged_inputPdoMapped] at henters
        rw [hend]
        exact henters

/-! ## Whole runs -/

theorem new_onLadder (address : UInt16) (vendorId productCode : UInt32) (device : σ) :
    OnLadder (new address vendorId productCode device).alState :=
  show 0 < 1 by decide

/-- The AL ladder, for every slave that a run of guarded calls from
construction reaches.  The state is a rung.  Only a write that starts at
AL_CONTROL changes it, and a change into SAFE_OP or OPERATIONAL takes a mapped
PDO.  The transition loop of a write that names a target ends, and the write
climbs to every target above the current state as `Climbs` says. -/
theorem alLadder [SlaveDevice σ] (address : UInt16) (vendorId productCode : UInt32) (device : σ)
    (ops : List SlaveOp) (hops : ∀ op ∈ ops, op.IsGuarded) :
    let s := run step (new address vendorId productCode device) ops
    OnLadder s.alState ∧
      (∀ op : SlaveOp, op.IsGuarded → (s.step op).alState ≠ s.alState →
        op.IsAlControlWrite ∧
          ((s.step op).alState = .SAFE_OP ∨ (s.step op).alState = .OPERATIONAL →
            s.inputPdoMapped = true)) ∧
      ∀ (src : List UInt8) (r : State), s.alTarget src = some r →
        (transitionLoop 5 (s.loopEntry src) r).isSome ∧
          (stateRank s.alState < stateRank r → s.Climbs src r) := by
  intro s
  have hs : OnLadder s.alState := run_invariant
    (P := fun s : VirtualSlave σ => OnLadder s.alState)
    (fun s op h hop => (step_enters h hop).1) (new_onLadder _ _ _ _) hops
  refine ⟨hs, ?_, ?_⟩
  · intro op hop hne
    refine ⟨?_, (step_enters hs hop).2 hne⟩
    rcases s.step_alState hop with h | h
    · exact absurd h hne
    · exact h.1
  · intro src r htarget
    exact ⟨transitionLoop_isSome _ _, fun hlt => write_climbs hs htarget hlt⟩

/-- With a mapped PDO a request for OPERATIONAL climbs from INIT to the top in
one write. -/
theorem alLadder_to_operational :
    let s := run step (new 1 2 3 ()) [.setInputPDOMapped true]
    (s.write 0x0120 [0x08]).2.alState = .OPERATIONAL ∧ (s.write 0x0120 [0x08]).2.ErrorCleared := by
  intro s
  have hops : ∀ op ∈ [SlaveOp.setInputPDOMapped true], op.IsGuarded := by
    intro op hop
    obtain rfl := List.mem_singleton.mp hop
    trivial
  have hladder := alLadder 1 2 3 () _ hops
  exact ((hladder.2.2 [0x08] .OPERATIONAL (by decide)).2 (by decide)).reaches (.inl rfl)

end EthercatSim.VirtualSlave
