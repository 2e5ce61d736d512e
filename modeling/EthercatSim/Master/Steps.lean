import EthercatSim.Master.Truth

/-!
# What the steps of the commands leave alone

A view of the controller that looks neither at the list `slaves()` nor at the calls that were
made is kept by the calls of the bus, and so by what the commands do between `ensureBus_` and
their report (`Quiet`, `Keeps`).

* `links_quiet`, `model_quiet` and `table_quiet`: such views are the pointers to the link and
  the bus object, the model, and the table of the slaves in it.
* `step_linked`: the commands make no bus object without a link.
* `step_table`: what a command makes of the table.
* `step_preop_iff`: when the flag of `initPreop` is up.
-/

namespace EthercatSim

open Fallible Kickcat

namespace MasterController

/-- The computation leaves a view of the controller alone. -/
abbrev Keeps {U α : Type} (view : MasterController → U) (m : Master α) : Prop := WorksOn id view m

/-- The view does not look at what the calls of the bus change. -/
structure Quiet {U : Type} (view : MasterController → U) : Prop where
  calls : ∀ c calls, view { c with calls } = view c
  slaves : ∀ c slaves, view { c with slaves } = view c

section Keeps

variable {U : Type} {view : MasterController → U}

theorem modify_keeps {f : MasterController → MasterController} (hf : ∀ c, view (f c) = view c) :
    Keeps view (modify f : Master PUnit) :=
  WorksOn.modify (fun _ _ hc => congrArg f hc) hf

theorem get_keeps {α : Type} {f : MasterController → Master α} (hf : ∀ c, Keeps view (f c)) :
    Keeps view (get >>= f) :=
  WorksOn.get (fun _ _ hc => congrArg f hc) hf

theorem Keeps.view_eq {α : Type} {m : Master α} (h : Keeps view m) (c : MasterController) :
    view (exec m c).2 = view c := h.of_exec rfl

variable (hview : Quiet view)

include hview

theorem linkCall_keeps (call : BusCall) : Keeps view (linkCall call) := by
  refine WorksOn.attempt fun c c' hc => ?_
  obtain rfl : c' = c := hc
  exact ⟨rfl, rfl, hview.calls _ _⟩

theorem busCall_keeps (call : BusCall) : Keeps view (busCall call) := by
  refine WorksOn.attempt fun c c' hc => ?_
  obtain rfl : c' = c := hc
  exact ⟨rfl, rfl, (hview.slaves { c' with calls := c'.calls + 1 } _).trans (hview.calls c' _)⟩

theorem ensureBus_keeps
    (hlinks : ∀ c hasLink hasBus, view { c with hasLink, hasBus } = view c) :
    Keeps view ensureBus := by
  refine get_keeps fun c => WorksOn.ite WorksOn.pure ?_
  refine (linkCall_keeps hview _).bind fun _ => (linkCall_keeps hview _).bind fun _ => ?_
  refine WorksOn.bind (modify_keeps fun c => hlinks c true c.hasBus) fun _ => ?_
  refine (linkCall_keeps hview _).bind fun _ => modify_keeps fun c => ?_
  exact (hview.slaves { c with hasBus := true } []).trans (hlinks c c.hasLink true)

theorem refreshSlaveAlStatus_keeps : Keeps view refreshSlaveAlStatus := by
  refine get_keeps fun c => WorksOn.ite WorksOn.pure ?_
  refine (WorksOn.mapM (fun slave => ?_) _).bind fun _ => modify_keeps fun c => hview.slaves c _
  refine WorksOn.tryCatch ?_ fun _ => WorksOn.pure
  exact (linkCall_keeps hview _).bind fun _ => (linkCall_keeps hview _).bind fun _ => WorksOn.pure

theorem requestAndWaitState_keeps (target : State) (timeout : Nat) :
    Keeps view (requestAndWaitState target timeout) := by
  have hread : Keeps view (do
      refreshSlaveAlStatus
      let c ← get
      pure (c.allSlavesInState target)) :=
    (refreshSlaveAlStatus_keeps hview).bind fun _ => get_keeps fun _ => WorksOn.pure
  refine get_keeps fun c => WorksOn.ite WorksOn.pure (WorksOn.ite WorksOn.pure ?_)
  refine WorksOn.tryCatch ?_ fun _ => hread
  refine (busCall_keeps hview _).bind fun _ => (busCall_keeps hview _).bind fun _ => ?_
  exact (busCall_keeps hview _).bind fun _ => (busCall_keeps hview _).bind fun _ => hread

theorem initBus_keeps : Keeps view initBus := by
  refine WorksOn.tryCatch ?_ fun _ => WorksOn.pure
  refine (busCall_keeps hview _).bind fun _ => (refreshSlaveAlStatus_keeps hview).bind fun _ => ?_
  exact get_keeps fun _ => WorksOn.pure

theorem retryStates_keeps (reached : Bool × Bool) : Keeps view (retryStates reached) := by
  refine WorksOn.ite ?_ WorksOn.pure
  refine (requestAndWaitState_keeps hview _ _).bind fun _ => ?_
  exact (requestAndWaitState_keeps hview _ _).bind fun _ => WorksOn.pure

/-- The rest of `requestOperational`, from the mapping to the end of the wait. -/
theorem enterStates_keeps (found : Bool) :
    Keeps view (if found then do
        let _ ← busCall .createMapping
        let _ ← busCall (.requestState .OPERATIONAL)
        let _ ← busCall (.waitForState .OPERATIONAL 2000)
        pure true
      else pure false : Master Bool) := by
  refine WorksOn.ite ?_ WorksOn.pure
  refine (busCall_keeps hview _).bind fun _ => (busCall_keeps hview _).bind fun _ => ?_
  exact (busCall_keeps hview _).bind fun _ => WorksOn.pure

variable (hdetected : ∀ c n,
  view { c with model := { c.model with detectedSlaves := n } } = view c)

include hdetected

theorem detectLoop_keeps (attempts : Nat) (detected : Int) :
    Keeps view (detectLoop attempts detected) := by
  induction attempts generalizing detected with
  | zero => exact WorksOn.pure
  | succ attempts ih =>
    unfold detectLoop
    refine (busCall_keeps hview _).bind fun answer => ?_
    refine WorksOn.bind (modify_keeps fun c => hdetected c _) fun _ => WorksOn.ite ?_ ?_
    · exact (busCall_keeps hview _).bind fun _ => WorksOn.pure
    · refine (busCall_keeps hview _).bind fun _ => (busCall_keeps hview _).bind fun _ => ?_
      exact (busCall_keeps hview _).bind fun _ => ih _

/-- The search of `findSlaves`, when there is a bus object. -/
theorem searchSlaves_keeps :
    Keeps view (do
      let c ← get
      if c.slaves.isEmpty then
        let detected ← detectSlavesWithRetries 10
        pure (decide (0 < detected))
      else pure true : Master Bool) :=
  get_keeps fun _ => WorksOn.ite
    ((detectLoop_keeps hview hdetected _ _).bind fun _ => WorksOn.pure) WorksOn.pure

end Keeps

/-- Whether `bus_` and `link_` are there. -/
def links (c : MasterController) : Bool × Bool := (c.hasBus, c.hasLink)

theorem links_quiet : Quiet links := ⟨fun _ _ => rfl, fun _ _ => rfl⟩

theorem model_quiet : Quiet model := ⟨fun _ _ => rfl, fun _ _ => rfl⟩

/-! ## The link and the bus object -/

/-- There is no bus object without a link. -/
def Linked (c : MasterController) : Prop := c.hasBus = true → c.hasLink = true

theorem setStatus_keepsLinks (s : String) : Keeps links (setStatus s) :=
  modify_keeps fun _ => rfl

theorem setSlaves_keepsLinks (rows : List SlavesRow) : Keeps links (setSlaves rows) :=
  modify_keeps fun _ => rfl

theorem setPreop_keepsLinks (v : Bool) : Keeps links (setPreop v) := modify_keeps fun _ => rfl

/-- The computation makes no bus object without a link. -/
def KeepsLinked {α : Type} (m : Master α) : Prop := ∀ c, c.Linked → (exec m c).2.Linked

section KeepsLinked

variable {α β : Type} {m : Master α}

theorem Keeps.keepsLinked (h : Keeps links m) : KeepsLinked m := by
  intro c hc
  have hlinks := h.view_eq c
  simp only [links, Prod.mk.injEq] at hlinks
  rw [Linked, hlinks.1, hlinks.2]
  exact hc

theorem KeepsLinked.bind {f : α → Master β} (hm : KeepsLinked m) (hf : ∀ a, KeepsLinked (f a)) :
    KeepsLinked (m >>= f) := by
  intro c hc
  obtain ⟨r, c', hrun⟩ : ∃ r c', exec m c = (r, c') := ⟨_, _, rfl⟩
  have hlinked := hm c hc
  rw [hrun] at hlinked
  cases r with
  | error what => rwa [exec_bind_error hrun]
  | ok a =>
    rw [exec_bind_ok hrun]
    exact hf a c' hlinked

theorem KeepsLinked.tryCatch {handler : String → Master α} (hm : KeepsLinked m)
    (hh : ∀ what, KeepsLinked (handler what)) : KeepsLinked (tryCatch m handler) := by
  intro c hc
  obtain ⟨r, c', hrun⟩ : ∃ r c', exec m c = (r, c') := ⟨_, _, rfl⟩
  have hlinked := hm c hc
  rw [hrun] at hlinked
  cases r with
  | error what =>
    rw [exec_tryCatch_error hrun]
    exact hh what c' hlinked
  | ok a => rwa [exec_tryCatch_ok hrun]

end KeepsLinked

theorem exec_linkCall (call : BusCall) (c : MasterController) :
    exec (linkCall call) c = (c.outcome call, { c with calls := c.calls + 1 }) := rfl

/-- Behind `ensureBus_` there is a bus object, or an exception. -/
theorem ensureBus_post {c c' : MasterController} (hc : c.Linked) {r : Except String Unit}
    (h : exec ensureBus c = (r, c')) : c'.Linked ∧ (r = .ok () → c'.hasBus = true) := by
  rw [ensureBus, exec_bind_ok (exec_get c)] at h
  by_cases hbus : c.hasBus = true
  · rw [if_pos hbus] at h
    obtain ⟨rfl, rfl⟩ := Prod.mk.inj h
    exact ⟨hc, fun _ => hbus⟩
  · rw [if_neg hbus] at h
    have hopen := exec_linkCall .openSocket c
    generalize c.outcome .openSocket = opened at hopen
    cases opened with
    | error what =>
      rw [exec_bind_error hopen] at h
      obtain ⟨rfl, rfl⟩ := Prod.mk.inj h
      exact ⟨hc, by simp⟩
    | ok _ =>
      rw [exec_bind_ok hopen] at h
      have hmake := exec_linkCall .makeLink { c with calls := c.calls + 1 }
      generalize outcome { c with calls := c.calls + 1 } .makeLink = made at hmake
      cases made with
      | error what =>
        rw [exec_bind_error hmake] at h
        obtain ⟨rfl, rfl⟩ := Prod.mk.inj h
        exact ⟨hc, by simp⟩
      | ok _ =>
        rw [exec_bind_ok hmake] at h
        -- the link is there, and the bus object is made last
        let linked : MasterController := { c with calls := c.calls + 1 + 1, hasLink := true }
        have hlink : exec (modify fun c => { c with hasLink := true } : Master PUnit)
            { c with calls := c.calls + 1 + 1 } = (.ok ⟨⟩, linked) := rfl
        rw [exec_bind_ok hlink] at h
        have hmakeBus := exec_linkCall .makeBus linked
        generalize linked.outcome .makeBus = bus at hmakeBus
        cases bus with
        | error what =>
          rw [exec_bind_error hmakeBus] at h
          obtain ⟨rfl, rfl⟩ := Prod.mk.inj h
          exact ⟨fun _ => rfl, by simp⟩
        | ok _ =>
          rw [exec_bind_ok hmakeBus] at h
          obtain ⟨rfl, rfl⟩ := Prod.mk.inj h
          exact ⟨fun _ => rfl, fun _ => rfl⟩

/-- The commands make no bus object without a link. -/
theorem ensureBus_keepsLinked : KeepsLinked ensureBus :=
  fun _ hc => (ensureBus_post hc rfl).1

theorem findSlaves_keepsLinked : KeepsLinked findSlaves :=
  ensureBus_keepsLinked.bind fun _ => (searchSlaves_keeps links_quiet fun _ _ => rfl).keepsLinked

theorem step_linked {c : MasterController} (hc : c.Linked) (command : MasterCommand) :
    (c.step command).Linked := by
  have hstatus : ∀ text : String → String, ∀ what, KeepsLinked (setStatus (text what)) :=
    fun text what => (setStatus_keepsLinks _).keepsLinked
  cases command with
  | scan =>
    refine KeepsLinked.tryCatch ?_ (hstatus fun what => "scan err: " ++ what) c hc
    refine ensureBus_keepsLinked.bind fun _ => Keeps.keepsLinked ?_
    refine (detectLoop_keeps links_quiet (fun _ _ => rfl) _ _).bind fun n => WorksOn.ite ?_ ?_
    · exact (setSlaves_keepsLinks _).bind fun _ => setStatus_keepsLinks _
    · refine (refreshSlaveAlStatus_keeps links_quiet).bind fun _ => get_keeps fun c => ?_
      exact (setSlaves_keepsLinks _).bind fun _ => setStatus_keepsLinks _
  | initPreop =>
    refine KeepsLinked.tryCatch ?_ (hstatus fun what => "preop err: " ++ what) c hc
    refine findSlaves_keepsLinked.bind fun found => Keeps.keepsLinked (WorksOn.ite ?_ ?_)
    · refine (initBus_keeps links_quiet).bind fun reached => ?_
      refine (retryStates_keeps links_quiet reached).bind fun reached => ?_
      refine (refreshSlaveAlStatus_keeps links_quiet).bind fun _ => get_keeps fun c => ?_
      refine (setSlaves_keepsLinks _).bind fun _ => (setPreop_keepsLinks _).bind fun _ => ?_
      exact WorksOn.ite (setStatus_keepsLinks _)
        (WorksOn.ite (setStatus_keepsLinks _) (setStatus_keepsLinks _))
    · refine (setSlaves_keepsLinks _).bind fun _ => (setPreop_keepsLinks _).bind fun _ => ?_
      exact setStatus_keepsLinks _
  | requestOperational =>
    refine KeepsLinked.tryCatch ?_ (hstatus fun what => "op err: " ++ what) c hc
    refine KeepsLinked.bind ?_ fun entered => Keeps.keepsLinked ?_
    · exact findSlaves_keepsLinked.bind fun found =>
        (enterStates_keeps links_quiet found).keepsLinked
    · refine WorksOn.ite ?_ (setStatus_keepsLinks _)
      refine (refreshSlaveAlStatus_keeps links_quiet).bind fun _ => get_keeps fun c => ?_
      refine (setSlaves_keepsLinks _).bind fun _ => ?_
      exact WorksOn.bind (modify_keeps fun _ => rfl) fun _ => setStatus_keepsLinks _

/-! ## The table of the model -/

/-- The table of the slaves that the views show. -/
def table (c : MasterController) : List SlavesRow := c.model.slaves

theorem table_quiet : Quiet table := ⟨fun _ _ => rfl, fun _ _ => rfl⟩

theorem ensureBus_keepsTable : Keeps table ensureBus :=
  ensureBus_keeps table_quiet fun _ _ _ => rfl

theorem findSlaves_keepsTable : Keeps table findSlaves :=
  ensureBus_keepsTable.bind fun _ => searchSlaves_keeps table_quiet fun _ _ => rfl

/-- The table, and what it would be now. -/
def tables (c : MasterController) : List SlavesRow × List SlavesRow := (c.table, c.snapshotSlaves)

/-- The computation leaves the table as it was, or clears it, or shows in it the slaves that
it knows at its end. -/
def ShowsSlaves {α : Type} (m : Master α) : Prop :=
  ∀ c, (exec m c).2.table = c.table ∨ (exec m c).2.table = [] ∨
    (exec m c).2.table = (exec m c).2.snapshotSlaves

section ShowsSlaves

variable {α β : Type} {m : Master α}

theorem Keeps.showsSlaves (h : Keeps table m) : ShowsSlaves m := fun c => .inl (h.view_eq c)

/-- Behind a part that keeps the table. -/
theorem ShowsSlaves.behind {f : α → Master β} (hm : Keeps table m) (hf : ∀ a, ShowsSlaves (f a)) :
    ShowsSlaves (m >>= f) := by
  intro c
  obtain ⟨r, c', hrun⟩ : ∃ r c', exec m c = (r, c') := ⟨_, _, rfl⟩
  have hkept := hm.of_exec hrun
  cases r with
  | error what =>
    rw [exec_bind_error hrun]
    exact .inl hkept
  | ok a =>
    rw [exec_bind_ok hrun, ← hkept]
    exact hf a c'

/-- In front of a part that keeps the table and the slaves. -/
theorem ShowsSlaves.bind {f : α → Master β} (hm : ShowsSlaves m) (hf : ∀ a, Keeps tables (f a)) :
    ShowsSlaves (m >>= f) := by
  intro c
  obtain ⟨r, c', hrun⟩ : ∃ r c', exec m c = (r, c') := ⟨_, _, rfl⟩
  have hshown := hm c
  rw [hrun] at hshown
  cases r with
  | error what => rwa [exec_bind_error hrun]
  | ok a =>
    rw [exec_bind_ok hrun]
    have hkept := (hf a).view_eq c'
    simp only [tables, Prod.mk.injEq] at hkept
    rwa [hkept.1, hkept.2]

theorem ShowsSlaves.ite {p : Prop} [Decidable p] {m' : Master α} (hm : ShowsSlaves m)
    (hm' : ShowsSlaves m') : ShowsSlaves (if p then m else m') := by
  split
  · exact hm
  · exact hm'

theorem ShowsSlaves.tryCatch {handler : String → Master α} (hm : ShowsSlaves m)
    (hh : ∀ what, Keeps tables (handler what)) : ShowsSlaves (tryCatch m handler) := by
  intro c
  obtain ⟨r, c', hrun⟩ : ∃ r c', exec m c = (r, c') := ⟨_, _, rfl⟩
  have hshown := hm c
  rw [hrun] at hshown
  cases r with
  | ok a => rwa [exec_tryCatch_ok hrun]
  | error what =>
    rw [exec_tryCatch_error hrun]
    have hkept := (hh what).view_eq c'
    simp only [tables, Prod.mk.injEq] at hkept
    rwa [hkept.1, hkept.2]

end ShowsSlaves

theorem clear_showsSlaves : ShowsSlaves (setSlaves []) := fun _ => .inr (.inl rfl)

theorem snapshot_showsSlaves {f : MasterController → Master Unit}
    (hf : ∀ c, Keeps tables (f c)) : ShowsSlaves (do
      let c ← get
      setSlaves c.snapshotSlaves
      f c) := by
  intro c
  rw [exec_bind_ok (exec_get c), exec_bind_ok (exec_setSlaves c _)]
  have hkept := (hf c).view_eq { c with model := { c.model with slaves := c.snapshotSlaves } }
  simp only [tables, Prod.mk.injEq] at hkept
  refine .inr (.inr ?_)
  rw [hkept.1, hkept.2]
  rfl

theorem setStatus_keepsTables (s : String) : Keeps tables (setStatus s) := modify_keeps fun _ => rfl

/-- What a command leaves in the table: what was there, nothing, or the slaves that the
master knows at its end. -/
theorem step_table (c : MasterController) (command : MasterCommand) :
    (c.step command).table = c.table ∨ (c.step command).table = [] ∨
      (c.step command).table = (c.step command).snapshotSlaves := by
  have hquiet := table_quiet
  cases command with
  | scan =>
    refine ShowsSlaves.tryCatch ?_ (fun what => setStatus_keepsTables _) c
    refine ShowsSlaves.behind ensureBus_keepsTable fun _ => ?_
    refine ShowsSlaves.behind (detectLoop_keeps hquiet (fun _ _ => rfl) _ _) fun n => ?_
    refine ShowsSlaves.ite ?_ ?_
    · exact clear_showsSlaves.bind fun _ => setStatus_keepsTables _
    · refine ShowsSlaves.behind (refreshSlaveAlStatus_keeps hquiet) fun _ => ?_
      exact snapshot_showsSlaves fun _ => setStatus_keepsTables _
  | initPreop =>
    refine ShowsSlaves.tryCatch ?_ (fun what => setStatus_keepsTables _) c
    refine ShowsSlaves.behind findSlaves_keepsTable fun found => ShowsSlaves.ite ?_ ?_
    · refine ShowsSlaves.behind (initBus_keeps hquiet) fun reached => ?_
      refine ShowsSlaves.behind (retryStates_keeps hquiet reached) fun reached => ?_
      refine ShowsSlaves.behind (refreshSlaveAlStatus_keeps hquiet) fun _ => ?_
      refine snapshot_showsSlaves fun c => WorksOn.bind (modify_keeps fun _ => rfl) fun _ => ?_
      exact WorksOn.ite (setStatus_keepsTables _)
        (WorksOn.ite (setStatus_keepsTables _) (setStatus_keepsTables _))
    · refine clear_showsSlaves.bind fun _ => WorksOn.bind (modify_keeps fun _ => rfl) fun _ => ?_
      exact setStatus_keepsTables _
  | requestOperational =>
    refine ShowsSlaves.tryCatch ?_ (fun what => setStatus_keepsTables _) c
    have henter : Keeps table enterOperational :=
      findSlaves_keepsTable.bind fun found => enterStates_keeps hquiet found
    refine ShowsSlaves.behind henter fun entered => ShowsSlaves.ite ?_ ?_
    · refine ShowsSlaves.behind (refreshSlaveAlStatus_keeps hquiet) fun _ => ?_
      refine snapshot_showsSlaves fun _ => WorksOn.bind (modify_keeps fun _ => rfl) fun _ => ?_
      exact setStatus_keepsTables _
    · exact Keeps.showsSlaves (modify_keeps fun _ => rfl)

/-! ## When the flag of `initPreop` goes up -/

/-- `initPreop` up to its report: whether PRE_OP is reached. -/
def reachPreop : Master Bool := do
  let found ← findSlaves
  if found then
    let reached ← initBus
    let reached ← retryStates reached
    refreshSlaveAlStatus
    let c ← get
    pure (reached.2 || c.allSlavesInState .PRE_OP)
  else pure false

/-- A slave is found, and all slaves are in PRE_OP at the end or were found there before. -/
def ReachesPreop (c : MasterController) : Prop := (reachPreop.exec c).1 = .ok true

theorem reportPreop_preop (reached : Bool × Bool) (c : MasterController) :
    (exec (reportPreop reached) c).2.model.preop = (reached.2 || c.allSlavesInState .PRE_OP) := by
  rw [reportPreop, exec_bind_ok (exec_get c)]
  dsimp only
  rw [exec_bind_ok (exec_setSlaves c _), exec_bind_ok (exec_setPreop _ _)]
  split
  · rfl
  · split <;> rfl

/-- `initPreop` sets the flag by what it reaches, unless its search for slaves throws. -/
theorem step_preop_iff (c : MasterController) :
    (c.step .initPreop).model.preop = true ↔
      c.ReachesPreop ∨ c.model.preop = true ∧ ¬c.SearchReturns := by
  obtain ⟨r, c₁, h⟩ : ∃ r c₁, exec findSlaves c = (r, c₁) := ⟨_, _, rfl⟩
  cases r with
  | error what =>
    have hreach : ¬c.ReachesPreop := by
      rw [ReachesPreop, reachPreop, exec_bind_error h]
      simp
    simp [(step_initPreop_error h).2, hreach, SearchReturns, h]
  | ok found =>
    have hreturns : c.SearchReturns := ⟨found, congrArg Prod.fst h⟩
    cases found with
    | false =>
      have hreach : exec reachPreop c = (.ok false, c₁) := by
        rw [reachPreop, exec_bind_ok h]
        rfl
      simp [(step_initPreop_absent h).2, ReachesPreop, hreach, hreturns]
    | true =>
      obtain ⟨reached, c₂, h₂⟩ := initBus_returns c₁
      obtain ⟨reached', c₃, h₃⟩ := retryStates_returns reached c₂
      obtain ⟨_, c₄, h₄⟩ := refreshSlaveAlStatus_returns c₃
      obtain ⟨c₅, h₅, -⟩ := reportPreop_exec reached' c₄
      have hrun : exec initPreop c = (.ok (), c₅) := by
        refine exec_tryCatch_ok ?_
        rw [exec_bind_ok h, if_pos rfl, exec_bind_ok h₂, exec_bind_ok h₃, exec_bind_ok h₄, h₅]
      have hreach : exec reachPreop c = (.ok (reached'.2 || c₄.allSlavesInState .PRE_OP), c₄) := by
        rw [reachPreop, exec_bind_ok h, if_pos rfl, exec_bind_ok h₂, exec_bind_ok h₃,
          exec_bind_ok h₄, exec_bind_ok (exec_get c₄)]
        rfl
      have hflag := reportPreop_preop reached' c₄
      rw [h₅] at hflag
      rw [show c.step .initPreop = c₅ from congrArg Prod.snd hrun, hflag, ReachesPreop, hreach]
      simp [hreturns]

/-- The flag of `initPreop` is a part of what is reported. -/
theorem WorksOn.preop {α : Type} {m : Master α} (h : WorksOn bus report m) :
    WorksOn bus (fun c => c.model.preop) m := h.part Prod.fst

theorem setStatus_keepsPreop (s : String) :
    WorksOn bus (fun c => c.model.preop) (setStatus s) :=
  WorksOn.modify (fun _ _ hbus => hbus) fun _ => rfl

theorem scan_preop (c : MasterController) : (c.step .scan).model.preop = c.model.preop := by
  refine WorksOn.of_exec (?_ : WorksOn bus (fun c => c.model.preop) scan) rfl
  refine WorksOn.tryCatch ?_ fun _ => setStatus_keepsPreop _
  refine (WorksOn.preop ensureBus_worksOn).bind fun _ => ?_
  refine (WorksOn.preop (detectSlavesWithRetries_worksOn _)).bind fun n => WorksOn.ite ?_ ?_
  · exact (WorksOn.preop (setSlaves_worksOn _)).bind fun _ => setStatus_keepsPreop _
  · refine (WorksOn.preop refreshSlaveAlStatus_worksOn).bind fun _ => ?_
    refine get_worksOn (fun _ => rfl) fun c => ?_
    exact (WorksOn.preop (setSlaves_worksOn _)).bind fun _ => setStatus_keepsPreop _

theorem requestOperational_preop (c : MasterController) :
    (c.step .requestOperational).model.preop = c.model.preop := by
  refine WorksOn.of_exec (?_ : WorksOn bus (fun c => c.model.preop) requestOperational) rfl
  refine WorksOn.tryCatch ?_ fun _ => setStatus_keepsPreop _
  refine (WorksOn.preop enterOperational_worksOn).bind fun entered => WorksOn.ite ?_ ?_
  · refine (WorksOn.preop refreshSlaveAlStatus_worksOn).bind fun _ => ?_
    refine get_worksOn (fun _ => rfl) fun c => ?_
    refine (WorksOn.preop (setSlaves_worksOn _)).bind fun _ => ?_
    refine WorksOn.bind (WorksOn.modify (fun _ _ hbus => hbus) fun _ => rfl) fun _ => ?_
    exact setStatus_keepsPreop _
  · exact setStatus_keepsPreop _

end MasterController

end EthercatSim
