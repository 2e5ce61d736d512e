import EthercatSim.Lib.Run
import EthercatSim.Master.Steps
import Mathlib.Data.List.Induction

/-!
# The master's program

The model of `main` and `runAutoSequence` of `apps/master/app/main.cpp`, of `run_` and of the
SDO commands of `MasterController`.  Two threads use the controller: that of `main`, which
also carries out what the keys of the view ask for, and that of `run_`.

A step that uses the bus holds `bus_mutex_` from its start to its end.  Of the model, `run_`
writes the table of the slaves, which a command writes at most once, and the first status.  So
a write of `run_` in the middle of a command is one in front of it or behind it.

* `step_tableCases`: what a step makes of the table of the slaves.
* `table_recent`: in every state the table shows the slaves as one step has left them, and
  `run_` has shown everything that it has seen since but for the last time.
-/

namespace EthercatSim

open Fallible StepRun

namespace MasterController

/-! ## The thread of `run_` -/

/-- Where the thread of `run_` is: at its first status, at the test of `stop_`, in front of the
part that holds the mutex, or behind it with the rows. -/
inductive WorkerPhase where
  | entered
  | testing
  | locking
  | publishing (rows : List SlavesRow)
  | returned
  deriving DecidableEq, Repr

/-- The part of `run_` that holds the mutex. -/
def pollSlaves : Master (List SlavesRow) := do
  ensureBus
  let _ ← busCall .sendNop
  let _ ← busCall .finalizeDatagrams
  let _ ← busCall .processAwaitingFrames
  let c ← get
  pure c.snapshotSlaves

/-! ## The SDO commands -/

/-- A button of the view, with `selected`, the object and the value. -/
inductive SdoCommand where
  | upload (slave : Int) (index : UInt16) (subindex : UInt8) (value : UInt32)
  | download (slave : Int) (index : UInt16) (subindex : UInt8) (value : UInt32)
  deriving DecidableEq, Repr

/-- What `readSDO` or `writeSDO` does: the text of the exception if it throws, the value that
it leaves, and the list `slaves()`. -/
structure SdoAnswer where
  thrown : Option String := none
  value : UInt32 := 0
  slaves : List KickcatSlave := []
  deriving DecidableEq, Repr

def SdoCommand.slave : SdoCommand → Int
  | .upload slave _ _ _ | .download slave _ _ _ => slave

/-- The text in front of the exception. -/
def SdoCommand.err : SdoCommand → String
  | .upload _ _ _ _ => "read err: "
  | .download _ _ _ _ => "write err: "

/-- `snprintf` with `0x%08X`. -/
def formatSdoValue (value : UInt32) : String :=
  let n := value.toNat
  "0x" ++ String.ofList
    ([268435456, 16777216, 1048576, 65536, 4096, 256, 16, 1].map fun k => hexDigit (n / k % 16))

end MasterController

open MasterController

/-! ## The thread of `main` -/

/-- The attempts of `runAutoSequence`. -/
inductive Stage where
  | scan
  | preop
  | operational
  deriving DecidableEq, Repr

namespace Stage

/-- `action` -/
def action : Stage → MasterCommand
  | .scan => .scan
  | .preop => .initPreop
  | .operational => .requestOperational

/-- `predicate` -/
def predicate : Stage → MasterSnapshot → Bool
  | .scan, snap => decide (0 < snap.detectedSlaves) && !snap.slaves.isEmpty
  | .preop, snap => snap.preop
  | .operational, snap => snap.operational

def next : Stage → Option Stage
  | .scan => some .preop
  | .preop => some .operational
  | .operational => none

end Stage

/-- Where the thread of `main` is: at try `i` of an attempt, at the question behind it, in the
loop behind the sequence or in the view, in `stop`, or at its end. -/
inductive MainPhase where
  | acting (stage : Stage) (i : Fin 5)
  | asking (stage : Stage) (i : Fin 5)
  | idle (autoOk : Bool)
  | joining
  | returned
  deriving DecidableEq, Repr

/-- A step of one of the threads.  A key does something in the view only, and the program is
left by a key or a signal. -/
inductive ProgramEvent where
  | main
  | worker
  | key (command : MasterCommand)
  | sdo (command : SdoCommand)
  | quit

/-- A step of the thread of `main`. -/
def ProgramEvent.isMain : ProgramEvent → Bool
  | .main => true
  | _ => false

/-- A step of the thread of `run_`. -/
def ProgramEvent.isWorker : ProgramEvent → Bool
  | .worker => true
  | _ => false

/-- The controller with `stop_` and its thread, the part of its model that the SDO commands
write, and the `stop` of `main`. -/
structure MasterProgram where
  controller : MasterController
  sdoStatus : String := ""
  sdoValueHex : String := ""
  sdoCalls : Nat := 0
  sdoAnswers : Nat → SdoCommand → SdoAnswer
  stop : Bool := false
  worker : WorkerPhase := .entered
  quit : Bool := false
  main : MainPhase

namespace MasterProgram

/-- `main` has started the controller. -/
def start (answers : Nat → BusCall → BusAnswer) (sdoAnswers : Nat → SdoCommand → SdoAnswer)
    (autoSequence : Bool) : MasterProgram where
  controller := create answers
  sdoAnswers
  main := if autoSequence then .acting .scan 0 else .idle true

/-- The end of a try.  The delay behind a failure is left out. -/
def attempted (stage : Stage) (i : Fin 5) (success : Bool) : MainPhase :=
  if success then
    match stage.next with
    | some stage => .acting stage 0
    | none => .idle true
  else if h : i.val + 1 < 5 then .acting stage ⟨i.val + 1, h⟩
  else .idle false

/-- A step of the thread of `main`. -/
def mainStep (p : MasterProgram) : MasterProgram :=
  match p.main with
  | .acting stage i =>
    { p with controller := p.controller.step stage.action, main := .asking stage i }
  | .asking stage i =>
    { p with main := attempted stage i (stage.predicate p.controller.model) }
  | .idle _ => if p.quit then { p with stop := true, main := .joining } else p
  | .joining => if p.worker = .returned then { p with main := .returned } else p
  | .returned => p

/-- A step of the thread of `run_`.  It sleeps behind every round. -/
def workerStep (p : MasterProgram) : MasterProgram :=
  match p.worker with
  | .entered =>
    { p with
      controller := ((setStatus "ready - press 's' to scan").exec p.controller).2
      worker := .testing }
  | .testing => { p with worker := if p.stop then .returned else .locking }
  | .locking =>
    match pollSlaves.exec p.controller with
    | (.ok rows, controller) => { p with controller, worker := .publishing rows }
    | (.error _, controller) => { p with controller, worker := .testing }
  | .publishing rows =>
    { p with controller := ((setSlaves rows).exec p.controller).2, worker := .testing }
  | .returned => p

/-- `sdoUpload` and `sdoDownload` -/
def sdoStep (p : MasterProgram) (command : SdoCommand) : MasterProgram :=
  match ensureBus.exec p.controller with
  | (.error what, controller) => { p with controller, sdoStatus := command.err ++ what }
  | (.ok _, controller) =>
    if command.slave < 0 ∨ controller.slaves.length ≤ command.slave then
      { p with controller, sdoStatus := "invalid slave index" }
    else
      let answer := p.sdoAnswers p.sdoCalls command
      let p := { p with
        controller := { controller with slaves := answer.slaves }
        sdoCalls := p.sdoCalls + 1 }
      match answer.thrown, command with
      | some what, _ => { p with sdoStatus := command.err ++ what }
      | none, .upload _ _ _ _ =>
        { p with sdoValueHex := formatSdoValue answer.value, sdoStatus := "read ok" }
      | none, .download _ _ _ _ => { p with sdoStatus := "write ok" }

def step (p : MasterProgram) : ProgramEvent → MasterProgram
  | .main => p.mainStep
  | .worker => p.workerStep
  | .key command =>
    match p.main with
    | .idle _ => { p with controller := p.controller.step command }
    | _ => p
  | .sdo command =>
    match p.main with
    | .idle _ => p.sdoStep command
    | _ => p
  | .quit => { p with quit := true }

/-! ## What the steps leave alone -/

theorem workerStep_main (p : MasterProgram) : p.workerStep.main = p.main := by
  unfold workerStep
  repeat' split
  all_goals rfl

/-- What the two threads go by. -/
def threads (p : MasterProgram) : Bool × WorkerPhase × Bool × MainPhase :=
  (p.stop, p.worker, p.quit, p.main)

theorem main_of_threads {p p' : MasterProgram} (h : p'.threads = p.threads) : p'.main = p.main :=
  congrArg (fun t => t.2.2.2) h

theorem worker_of_threads {p p' : MasterProgram} (h : p'.threads = p.threads) :
    p'.worker = p.worker := congrArg (fun t => t.2.1) h

theorem sdoStep_threads (p : MasterProgram) (command : SdoCommand) :
    (p.sdoStep command).threads = p.threads := by
  unfold sdoStep
  split
  · rfl
  · split
    · rfl
    · dsimp only
      split <;> rfl

/-- The view leaves the threads alone. -/
theorem step_key_threads (p : MasterProgram) (command : MasterCommand) :
    (p.step (.key command)).threads = p.threads := by
  rw [step]
  split <;> rfl

theorem step_sdo_threads (p : MasterProgram) (command : SdoCommand) :
    (p.step (.sdo command)).threads = p.threads := by
  rw [step]
  split
  · exact sdoStep_threads p command
  · rfl

theorem step_worker {event : ProgramEvent} (hevent : event ≠ .worker) (p : MasterProgram) :
    (p.step event).worker = p.worker := by
  cases event with
  | worker => exact absurd rfl hevent
  | quit => rfl
  | key command => exact worker_of_threads (step_key_threads p command)
  | sdo command => exact worker_of_threads (step_sdo_threads p command)
  | main =>
    rw [step, mainStep]
    split
    · rfl
    · rfl
    · split <;> rfl
    · split <;> rfl
    · rfl

theorem pollSlaves_keepsModel : Keeps model pollSlaves := by
  refine (ensureBus_keeps model_quiet fun _ _ _ => rfl).bind fun _ => ?_
  refine (busCall_keeps model_quiet _).bind fun _ => (busCall_keeps model_quiet _).bind fun _ => ?_
  exact (busCall_keeps model_quiet _).bind fun _ => get_keeps fun _ => WorksOn.pure

/-- An SDO command leaves what the other commands show alone. -/
theorem sdoStep_model (p : MasterProgram) (command : SdoCommand) :
    (p.sdoStep command).controller.model = p.controller.model := by
  have hkept := (ensureBus_keeps model_quiet fun _ _ _ => rfl).view_eq p.controller
  unfold sdoStep
  split <;> rename_i hensure <;> rw [hensure] at hkept
  · exact hkept
  · split
    · exact hkept
    · dsimp only
      split <;> exact hkept

/-! ## The table -/

/-- What a step makes of the table. -/
theorem step_tableCases (p : MasterProgram) (event : ProgramEvent) :
    (p.step event).controller.table = p.controller.table ∨
      (event ≠ .worker ∧ ((p.step event).controller.table = [] ∨
        (p.step event).controller.table = (p.step event).controller.snapshotSlaves)) ∨
      ∃ rows, event = .worker ∧ p.worker = .publishing rows ∧
        (p.step event).controller.table = rows := by
  cases event with
  | quit => exact .inl rfl
  | key command =>
    rw [step]
    split
    · rcases step_table p.controller command with hkept | hshown
      · exact .inl hkept
      · exact .inr (.inl ⟨by simp, hshown⟩)
    · exact .inl rfl
  | sdo command =>
    rw [step]
    split
    · exact .inl (congrArg MasterSnapshot.slaves (sdoStep_model p command))
    · exact .inl rfl
  | main =>
    rw [step, mainStep]
    split
    · rename_i stage i _
      rcases step_table p.controller stage.action with hkept | hshown
      · exact .inl hkept
      · exact .inr (.inl ⟨by simp, hshown⟩)
    · exact .inl rfl
    · split <;> exact .inl rfl
    · split <;> exact .inl rfl
    · exact .inl rfl
  | worker =>
    rw [step, workerStep]
    split
    · exact .inl rfl
    · exact .inl rfl
    · have hkept := pollSlaves_keepsModel.view_eq p.controller
      left
      split
      · rename_i hpoll
        rw [hpoll] at hkept
        exact congrArg MasterSnapshot.slaves hkept
      · rename_i hpoll
        rw [hpoll] at hkept
        exact congrArg MasterSnapshot.slaves hkept
    · rename_i rows hphase
      exact .inr (.inr ⟨rows, rfl, hphase, rfl⟩)
    · exact .inl rfl

/-- The next step of `run_` sees the slaves. -/
def Polls (p : MasterProgram) : Prop :=
  p.worker = .locking ∧ ∃ rows, (pollSlaves.exec p.controller).1 = .ok rows

/-- `run_` takes along the rows of the slaves that it leaves behind. -/
theorem pollSlaves_rows {c c' : MasterController} {rows : List SlavesRow}
    (h : exec pollSlaves c = (.ok rows, c')) : rows = c'.snapshotSlaves := by
  obtain ⟨_, _, -, h⟩ := of_exec_bind_ok h
  obtain ⟨_, _, -, h⟩ := of_exec_bind_ok h
  obtain ⟨_, _, -, h⟩ := of_exec_bind_ok h
  obtain ⟨_, _, -, h⟩ := of_exec_bind_ok h
  obtain ⟨hrows, rfl⟩ := Prod.mk.inj h
  exact (Except.ok.inj hrows).symm

/-- `run_` has rows to show exactly behind a step that has seen the slaves. -/
theorem step_publishing {p : MasterProgram} {rows : List SlavesRow}
    (h : (p.step .worker).worker = .publishing rows) :
    rows = (p.step .worker).controller.snapshotSlaves := by
  rw [step, workerStep] at h ⊢
  split at h
  · cases h
  · split at h <;> cases h
  · split at h
    · rename_i hpoll
      cases h
      exact pollSlaves_rows hpoll
    · cases h
  · cases h
  · rename_i hphase
    rw [hphase] at h
    cases h

theorem step_polls {p : MasterProgram} (h : p.Polls) :
    ∃ rows, (p.step .worker).worker = .publishing rows := by
  obtain ⟨hphase, rows, hrows⟩ := h
  obtain ⟨r, c, hpoll⟩ : ∃ r c, exec pollSlaves p.controller = (r, c) := ⟨_, _, rfl⟩
  rw [hpoll] at hrows
  obtain rfl : r = .ok rows := hrows
  refine ⟨rows, ?_⟩
  rw [step, workerStep, hphase]
  simp only [hpoll]

theorem run_worker {events : List ProgramEvent} (h : .worker ∉ events) (p : MasterProgram) :
    (run step p events).worker = p.worker := by
  induction events generalizing p with
  | nil => rfl
  | cons event events ih =>
    rw [List.mem_cons, not_or] at h
    rw [run_cons, ih h.2, step_worker (Ne.symm h.1)]

section Table

variable (p : MasterProgram)

/-- From `before` on, `run_` has shown nothing that it has seen since. -/
def Unshown (before after : List ProgramEvent) : Prop :=
  ∀ mid rest, after = mid ++ .worker :: rest → (run step p (before ++ mid)).Polls →
    .worker ∉ rest

variable {p} {before after : List ProgramEvent}

/-- A step that one more step is put behind is the last one or one of those before. -/
theorem split_snoc {events mid rest : List ProgramEvent} {event e : ProgramEvent}
    (h : events ++ [event] = mid ++ e :: rest) :
    rest = [] ∨ ∃ rest', rest = rest' ++ [event] ∧ events = mid ++ e :: rest' := by
  rcases List.eq_nil_or_concat rest with rfl | ⟨rest', last, rfl⟩
  · exact .inl rfl
  · rw [List.concat_eq_append, ← List.cons_append, ← List.append_assoc] at h
    obtain ⟨hevents, hlast⟩ := List.append_inj' h rfl
    obtain rfl := (List.cons.inj hlast).1
    exact .inr ⟨rest', List.concat_eq_append, hevents⟩

/-- One more step, which does not show what `run_` has seen. -/
theorem Unshown.append (h : Unshown p before after) {event : ProgramEvent}
    (hevent : event = .worker →
      ∀ rows, (run step p (before ++ after)).worker ≠ .publishing rows) :
    Unshown p before (after ++ [event]) := by
  intro mid rest hsplit hpolls
  rcases split_snoc hsplit with rfl | ⟨rest, rfl, rfl⟩
  · simp
  · have hrest := h mid rest rfl hpolls
    rw [List.mem_append, not_or]
    refine ⟨hrest, fun hmem => ?_⟩
    -- a step of `run_` would show the rows
    obtain rfl := List.mem_singleton.mp hmem
    obtain ⟨rows, hrows⟩ := step_polls hpolls
    refine hevent rfl rows ?_
    rw [← List.append_assoc, run_append, run_cons, run_worker hrest, hrows]

/-- One more step behind a run without `run_`. -/
theorem unshown_of_not_mem (h : .worker ∉ after) (event : ProgramEvent) :
    Unshown p before (after ++ [event]) := by
  intro mid rest hsplit _
  rcases split_snoc hsplit with rfl | ⟨rest, rfl, rfl⟩
  · simp
  · simp at h

/-- Rows that `run_` has taken along and not shown are those that it saw in its last step. -/
def TakenLast (p : MasterProgram) (events : List ProgramEvent) : Prop :=
  ∀ rows, (run step p events).worker = .publishing rows → ∃ before after,
    events = before ++ after ∧ rows = (run step p before).controller.snapshotSlaves ∧
      .worker ∉ after

theorem TakenLast.append {events : List ProgramEvent} (h : TakenLast p events)
    (event : ProgramEvent) : TakenLast p (events ++ [event]) := by
  intro rows hrows
  have hrun := run_append step p events [event]
  by_cases hevent : event = .worker
  · subst hevent
    refine ⟨events ++ [.worker], [], by simp, ?_, by simp⟩
    rw [hrun] at hrows ⊢
    exact step_publishing hrows
  · have hkept : (run step p (events ++ [event])).worker = (run step p events).worker := by
      rw [hrun]
      exact step_worker hevent _
    rw [hkept] at hrows
    obtain ⟨before, after, rfl, htaken, hafter⟩ := h rows hrows
    refine ⟨before, after ++ [event], by simp, htaken, ?_⟩
    simp [hafter, Ne.symm hevent]

/-- The table shows what was seen at some point, and everything that `run_` has shown was seen
up to there. -/
def ShownFrom (p : MasterProgram) (events : List ProgramEvent) : Prop :=
  ∃ before after, events = before ++ after ∧
    ((run step p events).controller.table = [] ∨
      (run step p events).controller.table = (run step p before).controller.snapshotSlaves) ∧
    Unshown p before after

theorem ShownFrom.append {events : List ProgramEvent} (h : ShownFrom p events)
    (htaken : TakenLast p events) (event : ProgramEvent) : ShownFrom p (events ++ [event]) := by
  have hrun : run step p (events ++ [event]) = (run step p events).step event :=
    run_append step p events [event]
  have hnothing : ∀ before, Unshown p before [] := by
    intro before mid rest hsplit
    simp at hsplit
  by_cases hshows : event = .worker ∧ ∃ rows, (run step p events).worker = .publishing rows
  · obtain ⟨rfl, rows, hrows⟩ := hshows
    obtain ⟨before, after, rfl, hseen, hafter⟩ := htaken rows hrows
    refine ⟨before, after ++ [.worker], by simp, .inr ?_, ?_⟩
    · rw [hrun, step, workerStep]
      simp only [hrows]
      exact hseen
    · exact unshown_of_not_mem hafter _
  · have hkept : (run step p (events ++ [event])).controller.table =
        (run step p events).controller.table → ShownFrom p (events ++ [event]) := by
      intro htable
      obtain ⟨before, after, rfl, hshown, hunshown⟩ := h
      refine ⟨before, after ++ [event], by simp, by rwa [htable], hunshown.append ?_⟩
      intro hevent rows hrows
      exact hshows ⟨hevent, rows, hrows⟩
    rcases step_tableCases (run step p events) event with htable | ⟨-, hshown⟩ | ⟨rows, hrows⟩
    · exact hkept (by rw [hrun, htable])
    · rw [← hrun] at hshown
      exact ⟨events ++ [event], [], by simp, hshown, hnothing _⟩
    · exact absurd ⟨hrows.1, rows, hrows.2.1⟩ hshows

end Table

/-- In every run the table is empty or shows the slaves as they were behind one of its steps.
Since then `run_` may have seen them once more, and it has not shown that yet. -/
theorem table_recent (answers : Nat → BusCall → BusAnswer)
    (sdoAnswers : Nat → SdoCommand → SdoAnswer) (autoSequence : Bool)
    (events : List ProgramEvent) :
    ShownFrom (start answers sdoAnswers autoSequence) events := by
  have hinv : ShownFrom (start answers sdoAnswers autoSequence) events ∧
      TakenLast (start answers sdoAnswers autoSequence) events := by
    induction events using List.reverseRecOn with
    | nil =>
      refine ⟨⟨[], [], rfl, .inl rfl, fun mid rest hsplit => ?_⟩, fun rows hrows => ?_⟩
      · simp at hsplit
      · cases hrows
    | append_singleton events event ih => exact ⟨ih.1.append ih.2 event, ih.2.append event⟩
  exact hinv.1

end MasterProgram

end EthercatSim
