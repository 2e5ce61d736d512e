import EthercatSim.Master.Program

/-!
# `runAutoSequence`, and the end of the program

`main` tries to scan, to bring the slaves to PRE_OP and to bring them to OPERATIONAL, up to
five times each, while `run_` goes on.  It asks the model whether a try has succeeded, and
`run_` writes to the model as well.

* `Stage.flag_step`: behind a try a flag is up that was up, or the bus has confirmed the try.
* `Passed`: a try of the stage was confirmed, behind one of each stage in front of it.
* `runAutoSequence_iff`: the sequence ends, and it ends well in exactly the runs in which the
  last stage has passed.
* `main_returns`: behind a signal the program returns.
-/

namespace EthercatSim

open Fallible StepRun MasterController

namespace Stage

theorem next_eq_none {stage : Stage} (h : stage.next = none) : stage = .operational := by
  cases stage with
  | operational => rfl
  | _ => cases h

theorem eq_of_next {s s' stage : Stage} (h : s.next = some stage) (h' : s'.next = some stage) :
    s' = s := by
  revert h'
  rw [← h]
  cases s <;> cases s' <;> decide

/-- What `predicate` looks at besides the table of the slaves. -/
def flag : Stage → MasterSnapshot → Bool
  | .scan, snap => decide (0 < snap.detectedSlaves)
  | .preop, snap => snap.preop
  | .operational, snap => snap.operational

/-- The bus grants what the attempt asks for. -/
def Confirms : Stage → MasterController → Prop
  | .scan, c => 0 < (c.step .scan).model.detectedSlaves
  | .preop, c => c.ReachesPreop
  | .operational, c => c.EntersOperational

theorem flag_of_predicate {stage : Stage} {snap : MasterSnapshot}
    (h : stage.predicate snap = true) : stage.flag snap = true := by
  cases stage with
  | scan =>
    rw [predicate, Bool.and_eq_true] at h
    exact h.1
  | preop => exact h
  | operational => exact h

/-- A flag that is up behind an attempt was up, or the attempt was confirmed.  Each of the
commands may find slaves. -/
theorem flag_step {stage s : Stage} {c : MasterController}
    (h : s.flag (c.step stage.action).model = true) :
    s.flag c.model = true ∨ s = stage ∧ stage.Confirms c ∨ s = .scan ∧ stage ≠ .scan := by
  cases s with
  | scan =>
    cases stage with
    | scan =>
      have hfound : 0 < (c.step .scan).model.detectedSlaves := of_decide_eq_true h
      exact .inr (.inl ⟨rfl, hfound⟩)
    | preop => exact .inr (.inr ⟨rfl, by decide⟩)
    | operational => exact .inr (.inr ⟨rfl, by decide⟩)
  | preop =>
    cases stage with
    | scan => exact .inl ((scan_preop c).symm.trans h)
    | preop =>
      rcases (step_preop_iff c).mp h with hreach | ⟨hup, -⟩
      · exact .inr (.inl ⟨rfl, hreach⟩)
      · exact .inl hup
    | operational => exact .inl ((requestOperational_preop c).symm.trans h)
  | operational =>
    rcases (step_operational_iff c stage.action).mp h with hup | ⟨haction, henters⟩
    · exact .inl hup
    · cases stage with
      | scan => cases haction
      | preop => cases haction
      | operational => exact .inr (.inl ⟨rfl, henters⟩)

/-- A confirmed `requestOperational` is seen by the predicate behind it. -/
theorem operational_of_confirms {c : MasterController} (h : Confirms .operational c) :
    (c.step .requestOperational).model.operational = true :=
  (step_operational_iff c .requestOperational).mpr (.inr ⟨rfl, h⟩)

end Stage

namespace MasterProgram

/-! ## The sequence -/

section Sequence

variable (answers : Nat → BusCall → BusAnswer) (sdoAnswers : Nat → SdoCommand → SdoAnswer)

/-- The program behind these steps, with the sequence. -/
def auto (events : List ProgramEvent) : MasterProgram :=
  run step (start answers sdoAnswers true) events

/-- A try of the stage was confirmed, and one of the stage before it in front of that. -/
inductive Passed : Stage → List ProgramEvent → Prop where
  | confirmed {stage : Stage} {before : List ProgramEvent} {i : Fin 5}
      (after : List ProgramEvent)
      (previous : ∀ s, s.next = some stage → Passed s before)
      (acting : (auto answers sdoAnswers before).main = .acting stage i)
      (confirms : stage.Confirms (auto answers sdoAnswers before).controller) :
      Passed stage (before ++ .main :: after)

/-- During the sequence the stages in front of this one have passed, and so has every stage
whose flag is up. -/
structure Trying (p : MasterProgram) (stage : Stage) (events : List ProgramEvent) : Prop where
  previous : ∀ s, s.next = some stage → Passed answers sdoAnswers s events
  flags : ∀ s, s.flag p.controller.model = true → Passed answers sdoAnswers s events

/-- What stands behind the phase of `main`. -/
def Explained (p : MasterProgram) (events : List ProgramEvent) : Prop :=
  match p.main with
  | .acting stage _ | .asking stage _ => Trying answers sdoAnswers p stage events
  | .idle true => Passed answers sdoAnswers .operational events
  | _ => True

variable {answers sdoAnswers} {stage s : Stage} {events : List ProgramEvent}

theorem Passed.append (h : Passed answers sdoAnswers stage events) (more : List ProgramEvent) :
    Passed answers sdoAnswers stage (events ++ more) := by
  cases h with
  | confirmed after previous acting confirms =>
    rw [List.append_assoc, List.cons_append]
    exact .confirmed (after ++ more) previous acting confirms

theorem Passed.of_next (h : Passed answers sdoAnswers stage events) (hnext : s.next = some stage) :
    Passed answers sdoAnswers s events := by
  cases h with
  | confirmed after previous acting confirms => exact (previous s hnext).append _

theorem auto_append (events more : List ProgramEvent) :
    auto answers sdoAnswers (events ++ more) = run step (auto answers sdoAnswers events) more :=
  run_append step _ events more

theorem Trying.append {p p' : MasterProgram} (h : Trying answers sdoAnswers p stage events)
    (hflags : ∀ s : Stage, s.flag p'.controller.model = s.flag p.controller.model)
    (more : List ProgramEvent) : Trying answers sdoAnswers p' stage (events ++ more) := by
  refine ⟨fun s hs => (h.previous s hs).append more, fun s hs => ?_⟩
  rw [hflags] at hs
  exact (h.flags s hs).append more

/-- Behind the first stage the scan has passed. -/
theorem passed_scan (h : ∀ s, s.next = some stage → Passed answers sdoAnswers s events)
    (hstage : stage ≠ .scan) : Passed answers sdoAnswers .scan events := by
  cases stage with
  | scan => exact absurd rfl hstage
  | preop => exact h .scan rfl
  | operational => exact (h .preop rfl).of_next rfl

/-- A try leaves up the flags of the stages that have passed. -/
theorem trying_acting {i : Fin 5} (hmain : (auto answers sdoAnswers events).main = .acting stage i)
    (h : Trying answers sdoAnswers (auto answers sdoAnswers events) stage events)
    {p : MasterProgram}
    (hp : p.controller = (auto answers sdoAnswers events).controller.step stage.action) :
    Trying answers sdoAnswers p stage (events ++ [.main]) := by
  refine ⟨fun s hs => (h.previous s hs).append _, fun s hs => ?_⟩
  rw [hp] at hs
  rcases Stage.flag_step hs with hup | ⟨rfl, hconfirms⟩ | ⟨rfl, hstage⟩
  · exact (h.flags s hup).append _
  · exact .confirmed [] h.previous hmain hconfirms
  · exact (passed_scan h.previous hstage).append _

/-- The question behind a try leads on when the stage has passed. -/
theorem explained_attempted {p p' : MasterProgram} (h : Trying answers sdoAnswers p stage events)
    (i : Fin 5) (hp : p'.controller = p.controller)
    (hmain : p'.main = attempted stage i (stage.predicate p.controller.model)) :
    Explained answers sdoAnswers p' (events ++ [.main]) := by
  have hflags : ∀ s : Stage, s.flag p'.controller.model = s.flag p.controller.model := by
    simp [hp]
  have hsame := h.append hflags [.main]
  rw [Explained, hmain, attempted]
  by_cases hpredicate : stage.predicate p.controller.model = true
  · have hpassed := (h.flags stage (Stage.flag_of_predicate hpredicate)).append [.main]
    rw [if_pos hpredicate]
    cases hnext : stage.next with
    | none =>
      rw [Stage.next_eq_none hnext] at hpassed
      exact hpassed
    | some stage' =>
      refine ⟨fun s hs => ?_, hsame.flags⟩
      rw [Stage.eq_of_next hnext hs]
      exact hpassed
  · rw [if_neg hpredicate]
    by_cases hagain : i.val + 1 < 5
    · simp only [dif_pos hagain]
      exact hsame
    · simp only [dif_neg hagain]

/-- `run_` leaves the flags alone. -/
theorem workerStep_flag (p : MasterProgram) (s : Stage) :
    s.flag p.workerStep.controller.model = s.flag p.controller.model := by
  unfold workerStep
  split
  · cases s <;> rfl
  · rfl
  · have hkept := pollSlaves_keepsModel.view_eq p.controller
    split <;> rename_i hpoll <;> rw [hpoll] at hkept <;> exact congrArg s.flag hkept
  · cases s <;> rfl
  · rfl

/-- A step that leaves `main` where it is, in its loop or with the flags as they are. -/
theorem Explained.append {p p' : MasterProgram} (h : Explained answers sdoAnswers p events)
    (hmain : p'.main = p.main)
    (hflags : (∃ ok, p.main = .idle ok) ∨
      ∀ s : Stage, s.flag p'.controller.model = s.flag p.controller.model)
    (more : List ProgramEvent) : Explained answers sdoAnswers p' (events ++ more) := by
  rw [Explained] at h ⊢
  rw [hmain]
  rcases hflags with ⟨ok, hidle⟩ | hflags
  · rw [hidle] at h ⊢
    cases ok with
    | false => trivial
    | true => exact Passed.append h more
  · cases hphase : p.main with
    | acting stage i =>
      rw [hphase] at h
      exact Trying.append h hflags more
    | asking stage i =>
      rw [hphase] at h
      exact Trying.append h hflags more
    | idle ok =>
      rw [hphase] at h
      cases ok with
      | false => trivial
      | true => exact Passed.append h more
    | joining => trivial
    | returned => trivial

theorem explained_step (h : Explained answers sdoAnswers (auto answers sdoAnswers events) events)
    (event : ProgramEvent) :
    Explained answers sdoAnswers (auto answers sdoAnswers (events ++ [event]))
      (events ++ [event]) := by
  have hstep : auto answers sdoAnswers (events ++ [event]) =
      (auto answers sdoAnswers events).step event := auto_append events [event]
  rw [hstep]
  cases event with
  | worker => exact h.append (workerStep_main _) (.inr (workerStep_flag _)) _
  | quit =>
    refine h.append ?_ (.inr fun _ => ?_) _
    · rfl
    · rfl
  | key command =>
    rw [step]
    split
    · rename_i ok hidle
      refine h.append ?_ (.inl ⟨ok, hidle⟩) _
      rfl
    · exact h.append rfl (.inr fun _ => rfl) _
  | sdo command =>
    rw [step]
    split
    · rename_i ok hidle
      exact h.append (main_of_threads (sdoStep_threads _ _)) (.inl ⟨ok, hidle⟩) _
    · exact h.append rfl (.inr fun _ => rfl) _
  | main =>
    rw [step, mainStep]
    split
    · rename_i stage i hphase
      rw [Explained, hphase] at h
      exact trying_acting hphase h rfl
    · rename_i stage i hphase
      rw [Explained, hphase] at h
      exact explained_attempted h i rfl rfl
    · split
      · trivial
      · exact h.append rfl (.inr fun _ => rfl) _
    · split
      · trivial
      · exact h.append rfl (.inr fun _ => rfl) _
    · exact h.append rfl (.inr fun _ => rfl) _

/-- In every run: what stands behind the phase of `main`. -/
theorem explained_run (events : List ProgramEvent) :
    Explained answers sdoAnswers (auto answers sdoAnswers events) events := by
  induction events using List.reverseRecOn with
  | nil =>
    refine ⟨fun s hs => ?_, fun s hs => ?_⟩
    · cases s <;> cases hs
    · cases s <;> cases hs
  | append_singleton events event ih => exact explained_step ih event

/-! ## The end of the sequence -/

/-- `requestOperational` was confirmed, and `main` goes on from there. -/
def Succeeded (p : MasterProgram) : Prop :=
  match p.main with
  | .acting _ _ | .idle false => False
  | .asking stage _ => stage = .operational ∧ p.controller.model.operational = true
  | _ => True

theorem step_succeeded {p : MasterProgram} (h : p.Succeeded) (event : ProgramEvent) :
    (p.step event).Succeeded := by
  rw [Succeeded] at h
  cases event with
  | worker =>
    have hflag := workerStep_flag p .operational
    rw [step, Succeeded, workerStep_main]
    split at h
    · exact h
    · exact h
    · exact ⟨h.1, hflag.trans h.2⟩
    · trivial
  | quit => exact h
  | key command =>
    rw [step]
    split
    · rename_i ok hidle
      rw [hidle] at h
      rw [Succeeded, hidle]
      cases ok <;> exact h
    · exact h
  | sdo command =>
    rw [step]
    split
    · rename_i ok hidle
      rw [hidle] at h
      rw [Succeeded, main_of_threads (sdoStep_threads _ _), hidle]
      cases ok <;> exact h
    · exact h
  | main =>
    rw [step, mainStep]
    split
    · rename_i stage i hphase
      rw [hphase] at h
      exact h.elim
    · rename_i stage i hphase
      rw [hphase] at h
      obtain ⟨rfl, hflag⟩ := h
      simp [Succeeded, attempted, Stage.predicate, hflag, Stage.next]
    · split
      · trivial
      · exact h
    · split
      · trivial
      · exact h
    · exact h

/-- How many steps the sequence can still take. -/
def left : MainPhase → Nat
  | .acting .scan i => 20 + 2 * (5 - i.val)
  | .acting .preop i => 10 + 2 * (5 - i.val)
  | .acting .operational i => 2 * (5 - i.val)
  | .asking .scan i => 19 + 2 * (5 - i.val)
  | .asking .preop i => 9 + 2 * (5 - i.val)
  | .asking .operational i => 2 * (5 - i.val) - 1
  | _ => 0

theorem left_attempted (stage : Stage) (i : Fin 5) (success : Bool) :
    left (attempted stage i success) + 1 ≤ left (.asking stage i) := by
  have hi := i.isLt
  rw [attempted]
  split
  · cases stage <;> simp [Stage.next, left] <;> omega
  · split
    · cases stage <;> simp [left] <;> omega
    · cases stage <;> simp [left] <;> omega

/-- A step of `main` brings the sequence nearer to its end, and no other step takes it away. -/
theorem left_step (p : MasterProgram) (event : ProgramEvent) :
    left (p.step event).main ≤ left p.main - if event.isMain then 1 else 0 := by
  cases event with
  | worker => simp [step, workerStep_main, ProgramEvent.isMain]
  | quit => simp [step, ProgramEvent.isMain]
  | key command => simp [main_of_threads (step_key_threads p command), ProgramEvent.isMain]
  | sdo command => simp [main_of_threads (step_sdo_threads p command), ProgramEvent.isMain]
  | main =>
    rw [step, mainStep]
    split
    · rename_i stage i hphase
      have hi := i.isLt
      rw [hphase]
      cases stage <;> simp [ProgramEvent.isMain, left]
    · rename_i stage i hphase
      have hless := left_attempted stage i (stage.predicate p.controller.model)
      rw [hphase]
      simp only [ProgramEvent.isMain, if_true]
      omega
    · rename_i hphase
      split <;> simp [left, hphase]
    · rename_i hphase
      split <;> simp [left, hphase]
    · rename_i hphase
      simp [left, hphase]

theorem left_run (p : MasterProgram) (events : List ProgramEvent) :
    left (run step p events).main ≤ left p.main - events.countP ProgramEvent.isMain :=
  @rank_run _ _ step (fun _ => True) (fun p => left p.main) _ (fun _ _ _ => trivial)
    (fun p event _ => left_step p event) p trivial events

end Sequence

/-- The sequence is over after thirty steps of `main`, whatever the bus and the other thread do
meanwhile.  It has ended well exactly when the bus has confirmed a try of each stage, in order. -/
theorem runAutoSequence_iff (answers : Nat → BusCall → BusAnswer)
    (sdoAnswers : Nat → SdoCommand → SdoAnswer) (events : List ProgramEvent) :
    (∀ ok, (auto answers sdoAnswers events).main = .idle ok →
      (ok = true ↔ Passed answers sdoAnswers .operational events)) ∧
    (30 ≤ events.countP ProgramEvent.isMain → ∀ stage i,
      (auto answers sdoAnswers events).main ≠ .acting stage i ∧
        (auto answers sdoAnswers events).main ≠ .asking stage i) := by
  constructor
  · intro ok hidle
    constructor
    · rintro rfl
      have hexplained := @explained_run answers sdoAnswers events
      rw [Explained, hidle] at hexplained
      exact hexplained
    · intro hpassed
      cases hpassed with
      | @confirmed _ before i after _ hacting hconfirms =>
        have hsucceeded : ((auto answers sdoAnswers before).step .main).Succeeded := by
          rw [step, mainStep, hacting]
          exact ⟨rfl, Stage.operational_of_confirms hconfirms⟩
        have hend := run_preserved (P := Succeeded) (fun _ event h => step_succeeded h event)
          hsucceeded after
        rw [← run_cons, ← auto_append, Succeeded, hidle] at hend
        cases ok with
        | true => rfl
        | false => exact hend.elim
  · intro hcount stage i
    have hleft := left_run (start answers sdoAnswers true) events
    have hstart : left (start answers sdoAnswers true).main = 30 := by rfl
    have hover : left (auto answers sdoAnswers events).main = 0 := by
      rw [auto]
      omega
    have hi := i.isLt
    constructor
    · intro hmain
      rw [hmain] at hover
      cases stage <;> (simp only [left] at hover; omega)
    · intro hmain
      rw [hmain] at hover
      cases stage <;> (simp only [left] at hover; omega)

/-- A bus on which no call throws, with one slave in PRE_OP that is not in the list before the
seventh call. -/
def preOpAnswer (n : Nat) (_ : BusCall) : BusAnswer :=
  { detected := 1, register := 0x02, slaves := if n < 6 then [] else [⟨1, 0x02, 0⟩] }

/-- `run_` sees the empty list in front of the first scan and shows it behind that, so `main`
scans a second time.  The rest passes at the first try. -/
theorem runAutoSequence_iff_overwritten :
    (auto preOpAnswer (fun _ _ => {})
      [.worker, .worker, .worker, .main, .worker, .main]).main = .acting .scan 1 ∧
    Passed preOpAnswer (fun _ _ => {}) .operational
      [.worker, .worker, .worker, .main, .worker, .main, .main, .main, .main, .main, .main,
        .main] := by
  refine ⟨by decide +kernel,
    ((runAutoSequence_iff preOpAnswer (fun _ _ => {}) _).1 true ?_).mp rfl⟩
  decide +kernel

/-! ## The end of the program -/

/-- `main` is in `stop` or behind it. -/
def Stopping (p : MasterProgram) : Prop :=
  p.stop = true ∧ (p.main = .joining ∨ p.main = .returned)

/-- Nothing that is on its way to the end of the program is taken back. -/
theorem step_ending (p : MasterProgram) (event : ProgramEvent) :
    (p.quit = true → (p.step event).quit = true) ∧ (p.Stopping → (p.step event).Stopping) := by
  have hthreads : ∀ p' : MasterProgram, p'.threads = p.threads →
      (p.quit = true → p'.quit = true) ∧ (p.Stopping → p'.Stopping) := by
    intro p' hp
    simp only [threads, Prod.mk.injEq] at hp
    obtain ⟨hstop, -, hquit, hmain⟩ := hp
    rw [Stopping, Stopping, hstop, hquit, hmain]
    exact ⟨id, id⟩
  cases event with
  | quit => exact ⟨fun _ => rfl, id⟩
  | key command => exact hthreads _ (step_key_threads p command)
  | sdo command => exact hthreads _ (step_sdo_threads p command)
  | worker =>
    rw [step, workerStep]
    split
    · exact ⟨id, id⟩
    · exact ⟨id, id⟩
    · split <;> exact ⟨id, id⟩
    · exact ⟨id, id⟩
    · exact ⟨id, id⟩
  | main =>
    rw [step, mainStep]
    split
    · rename_i hphase
      exact ⟨id, fun h => by simp [Stopping, hphase] at h⟩
    · rename_i hphase
      exact ⟨id, fun h => by simp [Stopping, hphase] at h⟩
    · split
      · exact ⟨id, fun _ => ⟨rfl, .inl rfl⟩⟩
      · exact ⟨id, id⟩
    · split
      · exact ⟨id, fun h => ⟨h.1, .inr rfl⟩⟩
      · exact ⟨id, id⟩
    · exact ⟨id, id⟩

theorem attempted_ne (stage : Stage) (i : Fin 5) (success : Bool) :
    attempted stage i success ≠ .joining ∧ attempted stage i success ≠ .returned := by
  rw [attempted]
  split
  · cases stage <;> simp [Stage.next]
  · split <;> simp

/-- `main` has set `stop_` when it waits for the other thread. -/
def Ends (p : MasterProgram) : Prop := p.main = .joining ∨ p.main = .returned → p.stop = true

theorem step_ends {p : MasterProgram} (h : p.Ends) (event : ProgramEvent) :
    (p.step event).Ends := by
  intro hmain
  by_cases hp : p.main = .joining ∨ p.main = .returned
  · exact ((step_ending p event).2 ⟨h hp, hp⟩).1
  · -- only the loop leads there, and it sets the flag
    cases event with
    | quit => exact absurd hmain hp
    | key command =>
      rw [main_of_threads (step_key_threads p command)] at hmain
      exact absurd hmain hp
    | sdo command =>
      rw [main_of_threads (step_sdo_threads p command)] at hmain
      exact absurd hmain hp
    | worker =>
      rw [step, workerStep_main] at hmain
      exact absurd hmain hp
    | main =>
      rw [step, mainStep] at hmain ⊢
      split at hmain
      · simp at hmain
      · simp [attempted_ne] at hmain
      · split at hmain
        · rename_i hquit
          simp [hquit]
        · exact absurd hmain hp
      · rename_i hphase
        exact absurd (.inl hphase) hp
      · rename_i hphase
        exact absurd (.inr hphase) hp

/-- How many steps `main` can still take in front of `stop`. -/
def toGo : MainPhase → Nat
  | .joining | .returned => 0
  | phase => left phase + 1

theorem toGo_le (phase : MainPhase) : toGo phase ≤ left phase + 1 := by
  cases phase <;> simp [toGo]

theorem left_le (phase : MainPhase) : left phase ≤ 30 := by
  cases phase with
  | acting stage i => cases stage <;> simp [left] <;> omega
  | asking stage i => cases stage <;> simp [left] <;> omega
  | _ => simp [left]

theorem left_pos (stage : Stage) (i : Fin 5) :
    0 < left (.acting stage i) ∧ 0 < left (.asking stage i) := by
  have hi := i.isLt
  cases stage with
  | scan => simp only [left]; omega
  | preop => simp only [left]; omega
  | operational => simp only [left]; omega

theorem of_toGo_eq_zero {phase : MainPhase} (h : toGo phase = 0) :
    phase = .joining ∨ phase = .returned := by
  cases phase <;> simp_all [toGo]

theorem toGo_step {p : MasterProgram} (hquit : p.quit = true) (event : ProgramEvent) :
    toGo (p.step event).main ≤ toGo p.main - if event.isMain then 1 else 0 := by
  cases event with
  | worker => simp [step, workerStep_main, ProgramEvent.isMain]
  | quit => simp [step, ProgramEvent.isMain]
  | key command => simp [main_of_threads (step_key_threads p command), ProgramEvent.isMain]
  | sdo command => simp [main_of_threads (step_sdo_threads p command), ProgramEvent.isMain]
  | main =>
    have hleft := left_step p .main
    have hle := toGo_le (p.step .main).main
    cases hphase : p.main with
    | acting stage i =>
      have hpos := (left_pos stage i).1
      rw [hphase] at hleft
      simp only [ProgramEvent.isMain, if_true, toGo] at hleft hle ⊢
      omega
    | asking stage i =>
      have hpos := (left_pos stage i).2
      rw [hphase] at hleft
      simp only [ProgramEvent.isMain, if_true, toGo] at hleft hle ⊢
      omega
    | idle ok => simp [step, mainStep, hphase, hquit, toGo]
    | joining =>
      rw [step, mainStep, hphase]
      dsimp only
      split <;> simp [toGo, hphase]
    | returned => simp [step, mainStep, hphase, toGo]

/-- How many steps the thread of `run_` can still take when the flag is set. -/
def workerLeft : WorkerPhase → Nat
  | .locking => 3
  | .entered | .publishing _ => 2
  | .testing => 1
  | .returned => 0

theorem of_workerLeft_eq_zero {phase : WorkerPhase} (h : workerLeft phase = 0) :
    phase = .returned := by
  cases phase <;> simp_all [workerLeft]

theorem workerLeft_step {p : MasterProgram} (hstop : p.Stopping) (event : ProgramEvent) :
    workerLeft (p.step event).worker ≤
      workerLeft p.worker - if event.isWorker then 1 else 0 := by
  by_cases hevent : event = .worker
  · subst hevent
    rw [step, workerStep]
    split
    · rename_i hphase
      simp [workerLeft, hphase, ProgramEvent.isWorker]
    · rename_i hphase
      simp [workerLeft, hphase, ProgramEvent.isWorker, hstop.1]
    · rename_i hphase
      split <;> simp [workerLeft, hphase, ProgramEvent.isWorker]
    · rename_i hphase
      simp [workerLeft, hphase, ProgramEvent.isWorker]
    · rename_i hphase
      simp [workerLeft, hphase]
  · have hother : event.isWorker = false := by
      cases event with
      | worker => exact absurd rfl hevent
      | _ => rfl
    simp [step_worker hevent, hother]

/-- Once both threads are done, the rest is up to `main`. -/
def Joined (p : MasterProgram) : Prop := p.Stopping ∧ p.worker = .returned

theorem step_joined {p : MasterProgram} (h : p.Joined) (event : ProgramEvent) :
    (p.step event).Joined := by
  refine ⟨(step_ending p event).2 h.1, ?_⟩
  by_cases hevent : event = .worker
  · subst hevent
    simp only [step, workerStep, h.2]
  · rw [step_worker hevent, h.2]

def joinLeft : MainPhase → Nat
  | .returned => 0
  | _ => 1

theorem of_joinLeft_eq_zero {phase : MainPhase} (h : joinLeft phase = 0) : phase = .returned := by
  cases phase <;> simp_all [joinLeft]

theorem joinLeft_step {p : MasterProgram} (h : p.Joined) (event : ProgramEvent) :
    joinLeft (p.step event).main ≤ joinLeft p.main - if event.isMain then 1 else 0 := by
  cases event with
  | worker => simp [step, workerStep_main, ProgramEvent.isMain]
  | quit => simp [step, ProgramEvent.isMain]
  | key command => simp [main_of_threads (step_key_threads p command), ProgramEvent.isMain]
  | sdo command => simp [main_of_threads (step_sdo_threads p command), ProgramEvent.isMain]
  | main => rcases h.1.2 with hphase | hphase <;> simp [step, mainStep, hphase, h.2, joinLeft]

/-- Behind a key or a signal that ends it the program returns: `main` leaves the sequence and
its loop, the thread of `run_` ends its round, and `main` joins it, in any interleaving. -/
theorem main_returns (answers : Nat → BusCall → BusAnswer)
    (sdoAnswers : Nat → SdoCommand → SdoAnswer) (autoSequence : Bool)
    {before leaving ending joining : List ProgramEvent} (hquit : .quit ∈ before)
    (hleaving : 31 ≤ leaving.countP ProgramEvent.isMain)
    (hending : 3 ≤ ending.countP ProgramEvent.isWorker)
    (hjoining : 1 ≤ joining.countP ProgramEvent.isMain) :
    (run step (start answers sdoAnswers autoSequence)
      (before ++ leaving ++ ending ++ joining)).main = .returned := by
  rw [run_append, run_append, run_append]
  -- the flag of `main`, and then its way to `stop`
  have hstart : (start answers sdoAnswers autoSequence).Ends := by
    intro hmain
    cases autoSequence <;> simp [start] at hmain
  have hends := run_preserved (P := Ends) (fun _ event h => step_ends h event) hstart before
  have hflag : (run step (start answers sdoAnswers autoSequence) before).quit = true := by
    obtain ⟨first, second, rfl⟩ := List.append_of_mem hquit
    rw [run_append, run_cons]
    exact run_preserved (P := fun p => p.quit = true) (fun p event => (step_ending p event).1)
      (rfl : (step _ .quit).quit = true) second
  generalize run step (start answers sdoAnswers autoSequence) before = p at hends hflag
  have hleft : toGo (run step p leaving).main = 0 := by
    have hle := toGo_le p.main
    have hmost := left_le p.main
    have hrank := @rank_run _ _ step (fun p => p.quit = true) (fun p => toGo p.main) _
      (fun p event => (step_ending p event).1) (fun p event h => toGo_step h event) p hflag leaving
    omega
  have hstopping : (run step p leaving).Stopping := by
    have hmain := of_toGo_eq_zero hleft
    exact ⟨run_preserved (P := Ends) (fun _ event h => step_ends h event) hends leaving hmain,
      hmain⟩
  generalize run step p leaving = p at hstopping
  -- the thread of `run_`, and then the join
  have hjoined : (run step p ending).Joined := by
    have hle : workerLeft p.worker ≤ 3 := by cases p.worker <;> simp [workerLeft]
    have hrank := @rank_run _ _ step Stopping (fun p => workerLeft p.worker) _
      (fun p event => (step_ending p event).2) (fun p event h => workerLeft_step h event) p
      hstopping ending
    exact ⟨run_preserved (fun p event => (step_ending p event).2) hstopping ending,
      of_workerLeft_eq_zero (by omega)⟩
  generalize run step p ending = p at hjoined
  have hle : joinLeft p.main ≤ 1 := by cases p.main <;> simp [joinLeft]
  have hrank := @rank_run _ _ step Joined (fun p => joinLeft p.main) _
    (fun p event h => step_joined h event) (fun p event h => joinLeft_step h event) p hjoined
    joining
  exact of_joinLeft_eq_zero (by omega)

/-- A signal in the loop behind the sequence. -/
theorem main_returns_idle :
    (run step (start preOpAnswer (fun _ _ => {}) false)
      ([.quit] ++ List.replicate 31 .main ++ [.worker, .worker, .worker] ++ [.main])).main =
        .returned :=
  main_returns preOpAnswer (fun _ _ => {}) false (by simp) (by decide) (by decide) (by decide)

end MasterProgram

end EthercatSim
