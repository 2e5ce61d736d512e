import EthercatSim.Master.Controller

/-!
# What the master reports

The views read two flags and a status line.  Between the flags and the bus stand many
exits of the commands: a slave that is not found, an exception that is caught on the
way, one that is caught at the end.

* The steps of the commands report nothing (`WorksOn bus report`), and those behind the
  search for slaves never throw (`Returns`).
* `step_bus`: what a command makes of the bus does not depend on what the model shows.
* `initPreop_status_iff`: when the status line and the flag of an `initPreop` agree.
* `step_operational_iff`: when the flag of `requestOperational` is up.
-/

namespace EthercatSim

open Fallible Kickcat

namespace MasterController

/-- What the commands report: the two flags and the status line. -/
def report (c : MasterController) : Bool × Bool × String :=
  (c.model.preop, c.model.operational, c.model.status)

/-- The controller without what its model shows: the bus and what is known of it. -/
def bus (c : MasterController) : MasterController := { c with model := {} }

/-! ## The steps of the commands work on the bus and report nothing -/

theorem linkCall_worksOn (call : BusCall) : WorksOn bus report (linkCall call) :=
  WorksOn.attempt fun _ _ hbus =>
    ⟨congrArg (fun b => b.outcome call) hbus,
      congrArg (fun b => { b with calls := b.calls + 1 }) hbus, rfl⟩

theorem busCall_worksOn (call : BusCall) : WorksOn bus report (busCall call) :=
  WorksOn.attempt fun _ _ hbus =>
    ⟨congrArg (fun b => b.outcome call) hbus,
      congrArg (fun b =>
        { b with calls := b.calls + 1, slaves := (b.answers b.calls call).slaves }) hbus, rfl⟩

theorem setSlaves_worksOn (rows : List SlavesRow) : WorksOn bus report (setSlaves rows) :=
  WorksOn.modify (fun _ _ hbus => hbus) fun _ => rfl

theorem setDetectedSlaves_worksOn (n : Int) : WorksOn bus report (setDetectedSlaves n) :=
  WorksOn.modify (fun _ _ hbus => hbus) fun _ => rfl

theorem setPreop_worksOn (v : Bool) :
    WorksOn bus (fun c => c.model.operational) (setPreop v) :=
  WorksOn.modify (fun _ _ hbus => hbus) fun _ => rfl

theorem setStatus_worksOn (s : String) :
    WorksOn bus (fun c => c.model.operational) (setStatus s) :=
  WorksOn.modify (fun _ _ hbus => hbus) fun _ => rfl

/-- The rest of a computation looks at the state it reads for the bus. -/
theorem get_worksOn {α U : Type} {h : MasterController → U} {f : MasterController → Master α}
    (hread : ∀ c, f c = f (bus c)) (hf : ∀ c, WorksOn bus h (f c)) :
    WorksOn bus h (get >>= f) := by
  refine WorksOn.get (fun c c' hbus => ?_) hf
  rw [hread c, hread c', hbus]

theorem ensureBus_worksOn : WorksOn bus report ensureBus := by
  unfold ensureBus
  refine get_worksOn (fun _ => rfl) fun c => WorksOn.ite WorksOn.pure ?_
  refine (linkCall_worksOn _).bind fun _ => (linkCall_worksOn _).bind fun _ => ?_
  refine WorksOn.bind (WorksOn.modify (fun _ _ hbus => ?_) fun _ => rfl) fun _ => ?_
  · exact congrArg (fun b => { b with hasLink := true }) hbus
  refine (linkCall_worksOn _).bind fun _ => WorksOn.modify (fun _ _ hbus => ?_) fun _ => rfl
  exact congrArg (fun b => { b with hasBus := true, slaves := [] }) hbus

theorem detectLoop_worksOn (attempts : Nat) (detected : Int) :
    WorksOn bus report (detectLoop attempts detected) := by
  induction attempts generalizing detected with
  | zero => exact WorksOn.pure
  | succ attempts ih =>
    unfold detectLoop
    refine (busCall_worksOn _).bind fun answer => (setDetectedSlaves_worksOn _).bind fun _ => ?_
    refine WorksOn.ite ?_ ?_
    · exact (busCall_worksOn _).bind fun _ => WorksOn.pure
    · exact (busCall_worksOn _).bind fun _ => (busCall_worksOn _).bind fun _ =>
        (busCall_worksOn _).bind fun _ => ih _

theorem detectSlavesWithRetries_worksOn (attempts : Nat) :
    WorksOn bus report (detectSlavesWithRetries attempts) := detectLoop_worksOn attempts 0

theorem refreshSlave_worksOn (slave : KickcatSlave) :
    WorksOn bus report (refreshSlave slave) := by
  refine WorksOn.tryCatch ?_ fun _ => WorksOn.pure
  exact (linkCall_worksOn _).bind fun _ => (linkCall_worksOn _).bind fun _ => WorksOn.pure

theorem refreshSlaveAlStatus_worksOn : WorksOn bus report refreshSlaveAlStatus := by
  unfold refreshSlaveAlStatus
  refine get_worksOn (fun _ => rfl) fun c => WorksOn.ite WorksOn.pure ?_
  refine (WorksOn.mapM refreshSlave_worksOn _).bind fun slaves => ?_
  refine WorksOn.modify (fun _ _ hbus => ?_) fun _ => rfl
  exact congrArg (fun b => { b with slaves := slaves }) hbus

/-- Every failed register read is caught in its round. -/
theorem refreshSlaveAlStatus_returns : Returns refreshSlaveAlStatus := by
  unfold refreshSlaveAlStatus
  refine Returns.get.bind fun c => Returns.ite Returns.pure ?_
  refine (Returns.mapM (fun slave => ?_) _).bind fun _ => Returns.modify
  exact Returns.tryCatch fun _ => Returns.pure

theorem requestAndWaitState_worksOn (target : State) (timeout : Nat) :
    WorksOn bus report (requestAndWaitState target timeout) := by
  unfold requestAndWaitState
  refine get_worksOn (fun _ => rfl) fun c =>
    WorksOn.ite WorksOn.pure (WorksOn.ite WorksOn.pure ?_)
  have hread : WorksOn bus report (do
      refreshSlaveAlStatus
      let c ← get
      pure (c.allSlavesInState target) : Master Bool) :=
    refreshSlaveAlStatus_worksOn.bind fun _ =>
      get_worksOn (fun _ => rfl) fun _ => WorksOn.pure
  refine WorksOn.tryCatch ?_ fun _ => hread
  exact (busCall_worksOn _).bind fun _ => (busCall_worksOn _).bind fun _ =>
    (busCall_worksOn _).bind fun _ => (busCall_worksOn _).bind fun _ => hread

theorem requestAndWaitState_returns (target : State) (timeout : Nat) :
    Returns (requestAndWaitState target timeout) := by
  unfold requestAndWaitState
  refine Returns.get.bind fun c => Returns.ite Returns.pure (Returns.ite Returns.pure ?_)
  exact Returns.tryCatch fun _ =>
    refreshSlaveAlStatus_returns.bind fun _ => Returns.get.bind fun _ => Returns.pure

theorem findSlaves_worksOn : WorksOn bus report findSlaves := by
  unfold findSlaves
  refine ensureBus_worksOn.bind fun _ => get_worksOn (fun _ => rfl) fun c => ?_
  refine WorksOn.ite ?_ WorksOn.pure
  exact (detectSlavesWithRetries_worksOn 10).bind fun _ => WorksOn.pure

theorem initBus_worksOn : WorksOn bus report initBus := by
  refine WorksOn.tryCatch ?_ fun _ => WorksOn.pure
  exact (busCall_worksOn _).bind fun _ => refreshSlaveAlStatus_worksOn.bind fun _ =>
    get_worksOn (fun _ => rfl) fun _ => WorksOn.pure

theorem initBus_returns : Returns initBus := Returns.tryCatch fun _ => Returns.pure

theorem retryStates_worksOn (reached : Bool × Bool) :
    WorksOn bus report (retryStates reached) := by
  refine WorksOn.ite ?_ WorksOn.pure
  exact (requestAndWaitState_worksOn _ _).bind fun _ =>
    (requestAndWaitState_worksOn _ _).bind fun _ => WorksOn.pure

theorem retryStates_returns (reached : Bool × Bool) : Returns (retryStates reached) := by
  refine Returns.ite ?_ Returns.pure
  exact (requestAndWaitState_returns _ _).bind fun _ =>
    (requestAndWaitState_returns _ _).bind fun _ => Returns.pure

theorem enterOperational_worksOn : WorksOn bus report enterOperational := by
  unfold enterOperational
  refine findSlaves_worksOn.bind fun found => WorksOn.ite ?_ WorksOn.pure
  exact (busCall_worksOn _).bind fun _ => (busCall_worksOn _).bind fun _ =>
    (busCall_worksOn _).bind fun _ => WorksOn.pure

/-! ## The commands -/

theorem WorksOn.operational {α : Type} {m : Master α} (h : WorksOn bus report m) :
    WorksOn bus (fun c => c.model.operational) m := h.part fun r => r.2.1

theorem scan_worksOn : WorksOn bus (fun c => c.model.operational) scan := by
  refine WorksOn.tryCatch ?_ fun what => setStatus_worksOn _
  refine (WorksOn.operational ensureBus_worksOn).bind fun _ => ?_
  refine (WorksOn.operational (detectSlavesWithRetries_worksOn 10)).bind fun n => ?_
  refine WorksOn.ite ?_ ?_
  · exact (WorksOn.operational (setSlaves_worksOn _)).bind fun _ => setStatus_worksOn _
  · refine (WorksOn.operational refreshSlaveAlStatus_worksOn).bind fun _ => ?_
    refine get_worksOn (fun _ => rfl) fun c => ?_
    exact (WorksOn.operational (setSlaves_worksOn _)).bind fun _ => setStatus_worksOn _

theorem initPreop_worksOn : WorksOn bus (fun c => c.model.operational) initPreop := by
  refine WorksOn.tryCatch ?_ fun what => setStatus_worksOn _
  refine (WorksOn.operational findSlaves_worksOn).bind fun found => WorksOn.ite ?_ ?_
  · refine (WorksOn.operational initBus_worksOn).bind fun reached => ?_
    refine (WorksOn.operational (retryStates_worksOn reached)).bind fun reached => ?_
    refine (WorksOn.operational refreshSlaveAlStatus_worksOn).bind fun _ => ?_
    refine get_worksOn (fun _ => rfl) fun c => ?_
    refine (WorksOn.operational (setSlaves_worksOn _)).bind fun _ => ?_
    refine (setPreop_worksOn _).bind fun _ => ?_
    exact WorksOn.ite (setStatus_worksOn _)
      (WorksOn.ite (setStatus_worksOn _) (setStatus_worksOn _))
  · refine (WorksOn.operational (setSlaves_worksOn _)).bind fun _ => ?_
    exact (setPreop_worksOn _).bind fun _ => setStatus_worksOn _

/-- `requestOperational` reports all it does, so nothing is said to be kept. -/
theorem requestOperational_worksOn : WorksOn bus (fun _ => ()) requestOperational := by
  refine WorksOn.tryCatch ?_ fun what => (setStatus_worksOn _).part fun _ => ()
  refine (enterOperational_worksOn.part fun _ => ()).bind fun entered => WorksOn.ite ?_ ?_
  · refine (refreshSlaveAlStatus_worksOn.part fun _ => ()).bind fun _ => ?_
    refine get_worksOn (fun _ => rfl) fun c => ?_
    refine ((setSlaves_worksOn _).part fun _ => ()).bind fun _ => ?_
    refine WorksOn.bind (WorksOn.modify (fun _ _ hbus => hbus) fun _ => rfl) fun _ => ?_
    exact (setStatus_worksOn _).part fun _ => ()
  · exact (setStatus_worksOn _).part fun _ => ()

/-- What a command makes of the bus does not depend on what the model shows. -/
theorem step_bus (c : MasterController) (command : MasterCommand) :
    bus (c.step command) = bus ((bus c).step command) := by
  have hbus : bus c = bus (bus c) := rfl
  cases command with
  | scan => exact scan_worksOn.state_eq hbus
  | initPreop => exact initPreop_worksOn.state_eq hbus
  | requestOperational => exact requestOperational_worksOn.state_eq hbus

/-- Whatever was reached, the line says "preop ok" exactly when the flag is set. -/
theorem reportPreop_exec (reached : Bool × Bool) (c : MasterController) :
    ∃ c', exec (reportPreop reached) c = (.ok (), c') ∧
      (c'.model.status = "preop ok" ↔ c'.model.preop = true) := by
  unfold reportPreop
  rw [exec_bind_ok (exec_get c)]
  dsimp only
  rw [exec_bind_ok (exec_setSlaves c _), exec_bind_ok (exec_setPreop _ _)]
  split
  · exact ⟨_, rfl, by simp_all⟩
  · split
    · exact ⟨_, rfl, by simp_all⟩
    · exact ⟨_, rfl, by simp_all⟩

/-- Once a slave is found, nothing leaves `initPreop` by an exception. -/
theorem step_initPreop_found {c c₁ : MasterController} (h : exec findSlaves c = (.ok true, c₁)) :
    (c.step .initPreop).model.status = "preop ok" ↔ (c.step .initPreop).model.preop = true := by
  obtain ⟨reached, c₂, h₂⟩ := initBus_returns c₁
  obtain ⟨reached', c₃, h₃⟩ := retryStates_returns reached c₂
  obtain ⟨_, c₄, h₄⟩ := refreshSlaveAlStatus_returns c₃
  obtain ⟨c₅, h₅, hstatus⟩ := reportPreop_exec reached' c₄
  have hrun : exec initPreop c = (.ok (), c₅) := by
    refine exec_tryCatch_ok ?_
    rw [exec_bind_ok h, if_pos rfl, exec_bind_ok h₂, exec_bind_ok h₃, exec_bind_ok h₄, h₅]
  rwa [show c.step .initPreop = c₅ from congrArg Prod.snd hrun]

theorem step_initPreop_absent {c c₁ : MasterController}
    (h : exec findSlaves c = (.ok false, c₁)) :
    (c.step .initPreop).model.status = "preop err: no slave detected" ∧
      (c.step .initPreop).model.preop = false := by
  have hrun : exec initPreop c = exec (do
      setSlaves []
      setPreop false
      setStatus "preop err: no slave detected" : Master Unit) c₁ := by
    refine exec_tryCatch_ok ?_
    rw [exec_bind_ok h, if_neg Bool.false_ne_true]
    rfl
  rw [show c.step .initPreop = _ from congrArg Prod.snd hrun]
  exact ⟨rfl, rfl⟩

/-- An exception before a slave is found leaves the flag as it was. -/
theorem step_initPreop_error {c c₁ : MasterController} {what : String}
    (h : exec findSlaves c = (.error what, c₁)) :
    (c.step .initPreop).model.status = "preop err: " ++ what ∧
      (c.step .initPreop).model.preop = c.model.preop := by
  have hrun : exec initPreop c = exec (setStatus ("preop err: " ++ what)) c₁ :=
    exec_tryCatch_error (exec_bind_error h)
  have hkeeps : c₁.report = c.report := findSlaves_worksOn.of_exec h
  rw [show c.step .initPreop = _ from congrArg Prod.snd hrun]
  exact ⟨rfl, congrArg Prod.fst hkeeps⟩

theorem preop_err_ne_ok (what : String) : "preop err: " ++ what ≠ "preop ok" := by
  intro h
  have := congrArg String.toList h
  simp at this

/-- No exception leaves the search for slaves. -/
def SearchReturns (c : MasterController) : Prop := ∃ found, (findSlaves.exec c).1 = .ok found

/-- The line and the flag of an `initPreop` agree, unless an exception meets a flag that
an earlier one has set. -/
theorem initPreop_status_iff (c : MasterController) :
    ((c.step .initPreop).model.status = "preop ok" ↔ (c.step .initPreop).model.preop = true) ↔
      (c.model.preop = true → c.SearchReturns) := by
  obtain ⟨r, c₁, h⟩ : ∃ r c₁, exec findSlaves c = (r, c₁) := ⟨_, _, rfl⟩
  cases r with
  | error what =>
    obtain ⟨hstatus, hpreop⟩ := step_initPreop_error h
    have hthrows : ¬ c.SearchReturns := by
      intro hr
      obtain ⟨found, hfound⟩ := hr
      rw [h] at hfound
      cases hfound
    rw [hstatus, hpreop]
    simp [preop_err_ne_ok, hthrows]
  | ok found =>
    have hreturns : c.SearchReturns := ⟨found, by rw [h]⟩
    refine iff_of_true ?_ fun _ => hreturns
    cases found with
    | true => exact step_initPreop_found h
    | false =>
      obtain ⟨hstatus, hpreop⟩ := step_initPreop_absent h
      rw [hstatus, hpreop]
      decide

/-! ## When the flag goes up -/

/-- A slave is found and every bus call up to the end of the wait returns. -/
def EntersOperational (c : MasterController) : Prop := (enterOperational.exec c).1 = .ok true

/-- An exception on the way leaves the flag as it was. -/
theorem step_requestOperational_error {c c₁ : MasterController} {what : String}
    (h : exec enterOperational c = (.error what, c₁)) :
    (c.step .requestOperational).model.operational = c.model.operational := by
  have hrun : exec requestOperational c = exec (setStatus ("op err: " ++ what)) c₁ :=
    exec_tryCatch_error (exec_bind_error h)
  have hkeeps : c₁.model.operational = c.model.operational :=
    (WorksOn.operational enterOperational_worksOn).of_exec h
  rw [show c.step .requestOperational = _ from congrArg Prod.snd hrun]
  exact hkeeps

theorem step_requestOperational_absent {c c₁ : MasterController}
    (h : exec enterOperational c = (.ok false, c₁)) :
    (c.step .requestOperational).model.operational = c.model.operational := by
  have hrun : exec requestOperational c =
      exec (setStatus "op err: no slave detected") c₁ := by
    refine exec_tryCatch_ok ?_
    rw [exec_bind_ok h, if_neg Bool.false_ne_true]
    rfl
  have hkeeps : c₁.model.operational = c.model.operational :=
    (WorksOn.operational enterOperational_worksOn).of_exec h
  rw [show c.step .requestOperational = _ from congrArg Prod.snd hrun]
  exact hkeeps

/-- The states that are read after the wait are not looked at. -/
theorem step_requestOperational_entered {c c₁ c₂ : MasterController} {u : Unit}
    (h : exec enterOperational c = (.ok true, c₁))
    (hread : exec refreshSlaveAlStatus c₁ = (.ok u, c₂)) :
    c.step .requestOperational = (exec reportOperational c₂).2 := by
  refine congrArg Prod.snd (exec_tryCatch_ok ?_ :
    exec requestOperational c = (.ok (), (exec reportOperational c₂).2))
  rw [exec_bind_ok h, if_pos rfl, exec_bind_ok hread]
  rfl

/-- No command takes the flag down, and only `requestOperational` raises it. -/
theorem step_operational_iff (c : MasterController) (command : MasterCommand) :
    (c.step command).model.operational = true ↔
      c.model.operational = true ∨ command = .requestOperational ∧ c.EntersOperational := by
  cases command with
  | scan =>
    have hkeeps : (c.step .scan).model.operational = c.model.operational :=
      scan_worksOn.of_exec rfl
    simp [hkeeps]
  | initPreop =>
    have hkeeps : (c.step .initPreop).model.operational = c.model.operational :=
      initPreop_worksOn.of_exec rfl
    simp [hkeeps]
  | requestOperational =>
    obtain ⟨r, c₁, h⟩ : ∃ r c₁, exec enterOperational c = (r, c₁) := ⟨_, _, rfl⟩
    cases r with
    | error what => simp [step_requestOperational_error h, EntersOperational, h]
    | ok entered =>
      cases entered with
      | false => simp [step_requestOperational_absent h, EntersOperational, h]
      | true =>
        obtain ⟨_, c₂, hread⟩ := refreshSlaveAlStatus_returns c₁
        have hup : (exec reportOperational c₂).2.model.operational = true := rfl
        simp [step_requestOperational_entered h hread, hup, EntersOperational, h]

end MasterController

end EthercatSim
