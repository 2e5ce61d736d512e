import EthercatSim.Lib.Run
import EthercatSim.Master.Answers
import EthercatSim.Master.Steps

/-!
# What the master takes for granted of the bus

The commands follow the answers of the bus, so the answers say when the model tells the truth.

* `Moves`: what a step of a command makes of the bus, on its answers.
* `body_moves`, `findSlaves_leadsTo`, `enterOperational_leadsTo`: the commands and their
  searches.
* `tellsTruth_iff`: the runs in which the model tells the truth after every command.
-/

namespace EthercatSim

open Fallible Kickcat StepRun

namespace MasterController

open BusPoint

/-! ## The steps of the commands follow the answers -/

/-- The bus and where the master stands with it. -/
def standing (c : MasterController) :
    (Nat → BusCall → BusAnswer) × (Bool × Bool) × BusPoint := (c.answers, links c, c.point)

section Moves

variable {answers : Nat → BusCall → BusAnswer} {α : Type}

/-- With a bus object and a link, the computation goes from `p` to `q` on the answers. -/
abbrev Moves (answers : Nat → BusCall → BusAnswer) (m : Master α) (p : BusPoint) (r : Option α)
    (q : BusPoint) : Prop :=
  LeadsTo standing m (answers, (true, true), p) r (answers, (true, true), q)

theorem outcome_toOption (c : MasterController) (call : BusCall) :
    (c.outcome call).toOption = returned c.answers c.calls call := by
  rw [outcome, returned]
  cases h : (c.answers c.calls call).thrown with
  | none => rfl
  | some what => rfl

theorem of_standing {c : MasterController} {links' : Bool × Bool} {p : BusPoint}
    (h : standing c = (answers, links', p)) :
    c.answers = answers ∧ links c = links' ∧ c.point = p := by
  simpa [standing] using h

theorem linkCall_leadsTo (links : Bool × Bool) (p : BusPoint) (call : BusCall) :
    LeadsTo standing (linkCall call) (answers, links, p) (returned answers p.calls call)
      (answers, links, ⟨p.calls + 1, p.slaves⟩) := by
  refine LeadsTo.attempt fun c hc => ?_
  obtain ⟨rfl, rfl, rfl⟩ := of_standing hc
  exact ⟨outcome_toOption c call, rfl⟩

theorem busCall_moves (p : BusPoint) (call : BusCall) :
    Moves answers (busCall call) p (returned answers p.calls call)
      ⟨p.calls + 1, (answers p.calls call).slaves⟩ := by
  refine LeadsTo.attempt fun c hc => ?_
  obtain ⟨rfl, hlinks, rfl⟩ := of_standing hc
  refine ⟨outcome_toOption c call, ?_⟩
  rw [← hlinks]
  rfl

theorem modify_moves {f : MasterController → MasterController} {p : BusPoint}
    (hf : ∀ c, standing (f c) = standing c) : Moves answers (modify f) p (some ⟨⟩) p :=
  LeadsTo.modify fun c hc => (hf c).trans hc

theorem setStatus_moves {p : BusPoint} (s : String) :
    Moves answers (setStatus s) p (some ()) p := modify_moves fun _ => rfl

theorem setSlaves_moves {p : BusPoint} (rows : List SlavesRow) :
    Moves answers (setSlaves rows) p (some ()) p := modify_moves fun _ => rfl

theorem setDetectedSlaves_moves {p : BusPoint} (n : Int) :
    Moves answers (setDetectedSlaves n) p (some ()) p := modify_moves fun _ => rfl

theorem setPreop_moves {p : BusPoint} (v : Bool) : Moves answers (setPreop v) p (some ()) p :=
  modify_moves fun _ => rfl

theorem setOperational_moves {p : BusPoint} (v : Bool) :
    Moves answers (setOperational v) p (some ()) p := modify_moves fun _ => rfl

/-- A call of several that all return. -/
theorem callThen_moves {call : BusCall} {calls : List BusCall} {f : BusAnswer → Master α}
    {p q q' : BusPoint} {r : Option α} (h : asked answers (call :: calls) p = (true, q))
    (hf : asked answers calls ⟨p.calls + 1, (answers p.calls call).slaves⟩ = (true, q) →
      Moves answers (f (answers p.calls call))
        ⟨p.calls + 1, (answers p.calls call).slaves⟩ r q') :
    Moves answers (busCall call >>= f) p r q' := by
  have hcall := @busCall_moves answers p call
  rw [asked] at h
  rw [returned] at h hcall
  by_cases hreturns : (answers p.calls call).thrown.isNone = true
  · rw [if_pos hreturns] at h hcall
    exact hcall.bind (hf h)
  · rw [if_neg hreturns] at h
    cases h

/-- A call of several, one of which throws. -/
theorem callThen_throws {call : BusCall} {calls : List BusCall} {f : BusAnswer → Master α}
    {p q : BusPoint} (h : asked answers (call :: calls) p = (false, q))
    (hf : asked answers calls ⟨p.calls + 1, (answers p.calls call).slaves⟩ = (false, q) →
      Moves answers (f (answers p.calls call))
        ⟨p.calls + 1, (answers p.calls call).slaves⟩ none q) :
    Moves answers (busCall call >>= f) p none q := by
  have hcall := @busCall_moves answers p call
  rw [asked] at h
  rw [returned] at h hcall
  by_cases hreturns : (answers p.calls call).thrown.isNone = true
  · rw [if_pos hreturns] at h hcall
    exact hcall.bind (hf h)
  · rw [if_neg hreturns] at h hcall
    cases h
    exact hcall.bind_throws

/-- The calls in turn, and then `rest`. -/
def askThen (calls : List BusCall) (rest : Master α) : Master α :=
  calls.foldr (fun call m => busCall call >>= fun _ => m) rest

theorem askThen_moves {calls : List BusCall} {rest : Master α} {p q q' : BusPoint} {r : Option α}
    (h : asked answers calls p = (true, q)) (hrest : Moves answers rest q r q') :
    Moves answers (askThen calls rest) p r q' := by
  induction calls generalizing p with
  | nil =>
    obtain rfl : p = q := congrArg Prod.snd h
    exact hrest
  | cons call calls ih => exact callThen_moves h ih

theorem askThen_throws {calls : List BusCall} {rest : Master α} {p q : BusPoint}
    (h : asked answers calls p = (false, q)) :
    Moves answers (askThen calls rest) p none q := by
  induction calls generalizing p with
  | nil => cases h
  | cons call calls ih => exact callThen_throws h ih

/-! ## Register reads -/

theorem refreshSlave_moves (slave : KickcatSlave) (p : BusPoint) :
    Moves answers (refreshSlave slave) p (some (readBack answers p.calls slave).1)
      ⟨(readBack answers p.calls slave).2, p.slaves⟩ := by
  have hstatus := @linkCall_leadsTo answers (true, true) p (.sendGetRegister slave.address 0x0130)
  have hcode := @linkCall_leadsTo answers (true, true) ⟨p.calls + 1, p.slaves⟩
    (.sendGetRegister slave.address 0x0134)
  rw [readBack]
  cases hreturned : returned answers p.calls (.sendGetRegister slave.address 0x0130) with
  | none =>
    rw [hreturned] at hstatus
    exact LeadsTo.tryCatch_throws hstatus.bind_throws fun _ => LeadsTo.pure
  | some status =>
    rw [hreturned] at hstatus
    cases hread : returned answers (p.calls + 1) (.sendGetRegister slave.address 0x0134) with
    | none =>
      rw [hread] at hcode
      exact LeadsTo.tryCatch_throws (hstatus.bind hcode.bind_throws) fun _ => LeadsTo.pure
    | some code =>
      rw [hread] at hcode
      exact LeadsTo.tryCatch (hstatus.bind (hcode.bind LeadsTo.pure))

theorem mapM_refreshSlave_moves (slaves : List KickcatSlave) (p : BusPoint) :
    Moves answers (slaves.mapM refreshSlave) p (some (readAll answers p.calls slaves).1)
      ⟨(readAll answers p.calls slaves).2, p.slaves⟩ := by
  induction slaves generalizing p with
  | nil => exact LeadsTo.pure
  | cons slave slaves ih =>
    rw [List.mapM_cons]
    exact (refreshSlave_moves slave p).bind ((ih _).bind LeadsTo.pure)

theorem refreshSlaveAlStatus_moves (p : BusPoint) :
    Moves answers refreshSlaveAlStatus p (some ()) (p.reread answers) := by
  refine LeadsTo.get fun c hc => ?_
  obtain ⟨-, hlinks, rfl⟩ := of_standing hc
  simp only [links, Prod.mk.injEq] at hlinks
  have hready : ¬(!c.hasBus || !c.hasLink) = true := by simp [hlinks]
  rw [if_neg hready]
  refine (mapM_refreshSlave_moves c.slaves c.point).bind (LeadsTo.modify fun c' hc' => ?_)
  obtain ⟨hanswers, hlinks', hpoint⟩ := of_standing hc'
  have hcalls : c'.calls = (readAll answers c.calls c.slaves).2 := congrArg BusPoint.calls hpoint
  show (c'.answers, links c', (⟨c'.calls, _⟩ : BusPoint)) = _
  rw [hanswers, hlinks', hcalls]
  rfl

theorem allSlavesInState_eq {c : MasterController} {p : BusPoint}
    (hc : standing c = (answers, (true, true), p)) (state : State) :
    c.allSlavesInState state = p.allIn state := by
  obtain ⟨-, hlinks, rfl⟩ := of_standing hc
  simp only [links, Prod.mk.injEq] at hlinks
  rw [allSlavesInState, hlinks.1]
  rfl

/-- A look at the states behind the reads. -/
theorem readStates_moves (state : State) (p : BusPoint) :
    Moves answers (do
      refreshSlaveAlStatus
      let c ← get
      pure (c.allSlavesInState state)) p (some ((p.reread answers).allIn state))
      (p.reread answers) := by
  refine (refreshSlaveAlStatus_moves p).bind (LeadsTo.get fun c hc => ?_)
  rw [allSlavesInState_eq hc]
  exact LeadsTo.pure

/-! ## The steps between the search and the report -/

/-- The rounds end with a count that says what the search found, or with an exception. -/
theorem detectLoop_moves (rounds : Nat) {last : Int} (hlast : ¬0 < last) (p : BusPoint) :
    ∃ r : Option Int, Moves answers (detectLoop rounds last) p r (searched answers rounds p).2 ∧
      r.map (fun n => decide (0 < n)) = (searched answers rounds p).1 := by
  induction rounds generalizing last p with
  | zero => exact ⟨some last, LeadsTo.pure, by simp [searched, hlast]⟩
  | succ rounds ih =>
    rw [searched]
    by_cases hpos : 0 < (answers p.calls .detectSlaves).detected
    · rw [if_pos hpos]
      rcases hasked : asked answers [.detectSlaves, .processAwaitingFrames] p with ⟨_ | _, q⟩
      · refine ⟨none, callThen_throws hasked fun hrest => ?_, rfl⟩
        refine (setDetectedSlaves_moves _).bind ?_
        rw [if_pos hpos]
        exact askThen_throws hrest
      · refine ⟨some _, callThen_moves hasked fun hrest => ?_, by simpa using hpos⟩
        refine (setDetectedSlaves_moves _).bind ?_
        rw [if_pos hpos]
        exact askThen_moves hrest LeadsTo.pure
    · rw [if_neg hpos]
      rcases hasked : asked answers [.detectSlaves, .sendNop, .finalizeDatagrams,
        .processAwaitingFrames] p with ⟨_ | _, q⟩
      · refine ⟨none, callThen_throws hasked fun hrest => ?_, rfl⟩
        refine (setDetectedSlaves_moves _).bind ?_
        rw [if_neg hpos]
        exact askThen_throws hrest
      · obtain ⟨r, hr, hfound⟩ := ih hpos q
        refine ⟨r, callThen_moves hasked fun hrest => ?_, hfound⟩
        refine (setDetectedSlaves_moves _).bind ?_
        rw [if_neg hpos]
        exact askThen_moves hrest hr

theorem requestAndWaitState_moves (target : State) (p : BusPoint) :
    Moves answers (requestAndWaitState target 8000) p
      (some ((settled answers target p).allIn target)) (settled answers target p) := by
  refine LeadsTo.get fun c hc => ?_
  have hbus : c.hasBus = true := congrArg Prod.fst (of_standing hc).2.1
  rw [if_neg (by simp [hbus]), allSlavesInState_eq hc, settled]
  by_cases hin : p.allIn target = true
  · rw [if_pos hin, if_pos hin, hin]
    exact LeadsTo.pure
  · rw [if_neg hin, if_neg hin]
    have hread := @readStates_moves answers target
    rcases hasked : asked answers [.requestState target, .finalizeDatagrams,
      .processAwaitingFrames, .waitForState target 8000] p with ⟨_ | _, q⟩
    · exact LeadsTo.tryCatch_throws (askThen_throws hasked) fun _ => hread q
    · exact LeadsTo.tryCatch (askThen_moves hasked (hread q))

theorem initBus_moves (p : BusPoint) :
    ∃ initReached, Moves answers initBus p (some (initReached, (initialised answers p).1))
      (initialised answers p).2 := by
  rw [initialised]
  rcases hasked : asked answers [.init] p with ⟨_ | _, q⟩
  · exact ⟨false, LeadsTo.tryCatch_throws (askThen_throws hasked) fun _ => LeadsTo.pure⟩
  · let initReached := (q.reread answers).allIn .PRE_OP || (q.reread answers).allIn .INIT
    refine ⟨initReached, LeadsTo.tryCatch (askThen_moves hasked ?_)⟩
    refine (refreshSlaveAlStatus_moves q).bind (LeadsTo.get fun c hc => ?_)
    rw [allSlavesInState_eq hc, allSlavesInState_eq hc]
    exact LeadsTo.pure

theorem retryStates_moves (reached : Bool × Bool) (p : BusPoint) :
    ∃ reached', Moves answers (retryStates reached) p (some reached')
      (if reached.2 then p else settled answers .PRE_OP (settled answers .INIT p)) := by
  unfold retryStates
  cases reached.2 with
  | true => exact ⟨reached, LeadsTo.pure⟩
  | false =>
    exact ⟨_, (requestAndWaitState_moves _ p).bind
      ((requestAndWaitState_moves _ _).bind LeadsTo.pure)⟩

theorem reportPreop_moves (reached : Bool × Bool) (p : BusPoint) :
    Moves answers (reportPreop reached) p (some ()) p := by
  refine LeadsTo.get fun c hc => ?_
  refine (setSlaves_moves _).bind ((setPreop_moves _).bind ?_)
  split
  · exact setStatus_moves _
  · split
    · exact setStatus_moves _
    · exact setStatus_moves _

/-- The end of `scan` and of `requestOperational`: the states are read and shown. -/
theorem refreshAndShow_moves {f : MasterController → Master Unit} {p : BusPoint}
    (hf : ∀ c, Moves answers (f c) (p.reread answers) (some ()) (p.reread answers)) :
    Moves answers (do
      refreshSlaveAlStatus
      let c ← get
      f c) p (some ()) (p.reread answers) :=
  (refreshSlaveAlStatus_moves p).bind (LeadsTo.get fun c _ => hf c)

/-- The states are read once more behind the wait. -/
theorem requestOperational_leadsTo {t} {p : BusPoint}
    (h : LeadsTo standing enterOperational t (some true) (answers, (true, true), p)) :
    LeadsTo standing requestOperational t (some ()) (answers, (true, true), p.reread answers) := by
  refine LeadsTo.tryCatch (h.bind ?_)
  rw [if_pos rfl]
  exact refreshAndShow_moves fun _ =>
    (setSlaves_moves _).bind ((setOperational_moves _).bind (setStatus_moves _))

theorem ensureBus_moves (p : BusPoint) : Moves answers ensureBus p (some ()) p := by
  refine LeadsTo.get fun c hc => ?_
  have hbus : c.hasBus = true := congrArg Prod.fst (of_standing hc).2.1
  rw [if_pos hbus]
  exact LeadsTo.pure

/-- The search of `findSlaves` behind `ensureBus_`. -/
theorem searchSlaves_moves (p : BusPoint) :
    Moves answers (do
      let c ← get
      if c.slaves.isEmpty then
        let detected ← detectSlavesWithRetries 10
        pure (decide (0 < detected))
      else pure true) p
      (if p.slaves.isEmpty then (searched answers 10 p).1 else some true)
      (if p.slaves.isEmpty then (searched answers 10 p).2 else p) := by
  refine LeadsTo.get fun c hc => ?_
  obtain ⟨-, -, rfl⟩ := of_standing hc
  by_cases hempty : c.slaves.isEmpty = true
  · have hempty' : c.point.slaves.isEmpty = true := hempty
    rw [if_pos hempty, if_pos hempty', if_pos hempty']
    obtain ⟨r, hloop, hr⟩ := @detectLoop_moves answers 10 0 (by decide) c.point
    cases r with
    | none =>
      rw [← hr]
      exact hloop.bind_throws
    | some n =>
      rw [← hr]
      exact hloop.bind LeadsTo.pure
  · have hslaves : ¬c.point.slaves.isEmpty = true := hempty
    rw [if_neg hempty, if_neg hslaves, if_neg hslaves]
    exact LeadsTo.pure

theorem findSlaves_moves {p : BusPoint} (hslaves : p.slaves.isEmpty = false) :
    Moves answers findSlaves p (some true) p := by
  have hsearch := @searchSlaves_moves answers p
  rw [hslaves] at hsearch
  exact (ensureBus_moves p).bind hsearch

theorem scan_moves (p : BusPoint) : Moves answers scan p (some ()) (ends answers .scan p) := by
  obtain ⟨r, hloop, hr⟩ := @detectLoop_moves answers 10 0 (by decide) p
  rw [ends]
  rcases hs : searched answers 10 p with ⟨_ | _ | _, q⟩
  · rw [hs] at hloop hr
    obtain rfl : r = none := Option.map_eq_none_iff.mp hr
    exact LeadsTo.tryCatch_throws ((ensureBus_moves p).bind hloop.bind_throws)
      fun _ => setStatus_moves _
  · rw [hs] at hloop hr
    obtain ⟨n, rfl, hn⟩ := Option.map_eq_some_iff.mp hr
    refine LeadsTo.tryCatch ((ensureBus_moves p).bind (hloop.bind ?_))
    rw [if_pos (by simpa using hn)]
    exact (setSlaves_moves _).bind (setStatus_moves _)
  · rw [hs] at hloop hr
    obtain ⟨n, rfl, hn⟩ := Option.map_eq_some_iff.mp hr
    refine LeadsTo.tryCatch ((ensureBus_moves p).bind (hloop.bind ?_))
    rw [if_neg (by simpa using hn)]
    exact refreshAndShow_moves fun _ => (setSlaves_moves _).bind (setStatus_moves _)

theorem initPreop_moves {p : BusPoint} (hslaves : p.slaves.isEmpty = false) :
    Moves answers initPreop p (some ()) (ends answers .initPreop p) := by
  obtain ⟨initReached, hinit⟩ := @initBus_moves answers p
  rw [ends]
  rcases hi : initialised answers p with ⟨reached, q⟩
  rw [hi] at hinit
  obtain ⟨reached', hretry⟩ := @retryStates_moves answers (initReached, reached) q
  refine LeadsTo.tryCatch ((findSlaves_moves hslaves).bind ?_)
  rw [if_pos rfl]
  refine hinit.bind (hretry.bind ((refreshSlaveAlStatus_moves _).bind ?_))
  cases reached with
  | true => exact reportPreop_moves _ _
  | false => exact reportPreop_moves _ _

theorem requestOperational_moves {p : BusPoint} (hslaves : p.slaves.isEmpty = false) :
    Moves answers requestOperational p (some ()) (ends answers .requestOperational p) := by
  rw [ends]
  rcases hm : mapped answers p with ⟨_ | _, q⟩
  · refine LeadsTo.tryCatch_throws (LeadsTo.bind_throws ((findSlaves_moves hslaves).bind ?_))
      fun _ => setStatus_moves _
    rw [if_pos rfl]
    exact askThen_throws hm
  · refine requestOperational_leadsTo ((findSlaves_moves hslaves).bind ?_)
    rw [if_pos rfl]
    exact askThen_moves hm LeadsTo.pure

/-- From a bus with slaves, every command follows the answers. -/
theorem body_moves (command : MasterCommand) {p : BusPoint}
    (hslaves : p.slaves.isEmpty = false) :
    Moves answers command.body p (some ()) (ends answers command p) := by
  cases command with
  | scan => exact scan_moves p
  | initPreop => exact initPreop_moves hslaves
  | requestOperational => exact requestOperational_moves hslaves

end Moves

section Search

variable {c : MasterController}

/-- `link_` is there. -/
theorem madeLink_leadsTo {answers : Nat → BusCall → BusAnswer} (hasBus hasLink : Bool)
    (p : BusPoint) :
    LeadsTo standing (modify fun c => { c with hasLink := true } : Master PUnit)
      (answers, (hasBus, hasLink), p) (some ⟨⟩) (answers, (hasBus, true), p) := by
  refine LeadsTo.modify fun c hc => ?_
  obtain ⟨rfl, hlinks, rfl⟩ := of_standing hc
  rw [show hasBus = c.hasBus from (congrArg Prod.fst hlinks).symm]
  rfl

/-- `bus_` is there, and no slave is known on it. -/
theorem madeBus_leadsTo {answers : Nat → BusCall → BusAnswer} (hasBus hasLink : Bool)
    (p : BusPoint) :
    LeadsTo standing (modify fun c => { c with hasBus := true, slaves := [] } : Master PUnit)
      (answers, (hasBus, hasLink), p) (some ⟨⟩) (answers, (true, hasLink), ⟨p.calls, []⟩) := by
  refine LeadsTo.modify fun c hc => ?_
  obtain ⟨rfl, hlinks, rfl⟩ := of_standing hc
  rw [show hasLink = c.hasLink from (congrArg Prod.snd hlinks).symm]
  rfl

/-- The three calls of `ensureBus_` make a bus object with a link, or one of them throws. -/
theorem ensureBus_leadsTo (hc : c.Linked) :
    ∃ t, LeadsTo standing ensureBus (standing c) (c.opened.map fun _ => ()) t ∧
      ∀ p, c.opened = some p → t = (c.answers, (true, true), p) := by
  rw [opened]
  by_cases hbus : c.hasBus = true
  · rw [if_pos hbus, standing, links, hbus, hc hbus]
    refine ⟨_, ensureBus_moves c.point, fun p hp => ?_⟩
    obtain rfl : c.point = p := Option.some.inj hp
    rfl
  · rw [if_neg hbus]
    have hopen := @linkCall_leadsTo c.answers (links c) c.point .openSocket
    have hmake := @linkCall_leadsTo c.answers (links c) ⟨c.calls + 1, c.slaves⟩ .makeLink
    have hlink := @madeLink_leadsTo c.answers c.hasBus c.hasLink ⟨c.calls + 2, c.slaves⟩
    have hmakeBus := @linkCall_leadsTo c.answers (c.hasBus, true) ⟨c.calls + 2, c.slaves⟩ .makeBus
    have hensure : ∀ {r t}, LeadsTo standing (do
        let _ ← linkCall .openSocket
        let _ ← linkCall .makeLink
        modify fun c => { c with hasLink := true }
        let _ ← linkCall .makeBus
        modify fun c => { c with hasBus := true, slaves := [] }) (standing c) r t →
        LeadsTo standing ensureBus (standing c) r t := by
      intro r t h
      refine LeadsTo.get fun c' hc' => ?_
      have hbus' : c'.hasBus = c.hasBus := congrArg Prod.fst (of_standing hc').2.1
      rwa [hbus', if_neg hbus]
    rcases h₀ : returned c.answers c.calls .openSocket with _ | _
    · rw [show returned c.answers c.point.calls .openSocket = none from h₀] at hopen
      exact ⟨_, hensure hopen.bind_throws, by simp⟩
    · rw [show returned c.answers c.point.calls .openSocket = some _ from h₀] at hopen
      rcases h₁ : returned c.answers (c.calls + 1) .makeLink with _ | _
      · rw [h₁] at hmake
        exact ⟨_, hensure (hopen.bind hmake.bind_throws), by simp⟩
      · rw [h₁] at hmake
        rcases h₂ : returned c.answers (c.calls + 2) .makeBus with _ | _
        · rw [h₂] at hmakeBus
          exact ⟨_, hensure (hopen.bind (hmake.bind (hlink.bind hmakeBus.bind_throws))), by simp⟩
        · rw [h₂] at hmakeBus
          refine ⟨_, hensure (hopen.bind (hmake.bind (hlink.bind (hmakeBus.bind
            (madeBus_leadsTo _ _ _))))), fun p hp => ?_⟩
          obtain rfl : (⟨c.calls + 3, []⟩ : BusPoint) = p := Option.some.inj hp
          rfl

theorem findSlaves_leadsTo (hc : c.Linked) :
    ∃ t, LeadsTo standing findSlaves (standing c) (c.found.map Prod.fst) t ∧
      ∀ found p, c.found = some (found, p) → t = (c.answers, (true, true), p) := by
  obtain ⟨t, hensure, ht⟩ := ensureBus_leadsTo hc
  rw [found]
  cases hopened : c.opened with
  | none =>
    rw [hopened] at hensure
    exact ⟨t, hensure.bind_throws, by simp⟩
  | some p =>
    rw [hopened] at hensure
    obtain rfl := ht p hopened
    have hsearch : LeadsTo standing findSlaves (standing c) _ _ :=
      hensure.bind (searchSlaves_moves p)
    by_cases hempty : p.slaves.isEmpty = true
    · simp only [hempty, if_true] at hsearch ⊢
      rcases hs : searched c.answers 10 p with ⟨_ | found, q⟩
      · rw [hs] at hsearch
        exact ⟨_, hsearch, by simp⟩
      · rw [hs] at hsearch
        exact ⟨_, hsearch, by simp⟩
    · simp only [hempty] at hsearch ⊢
      exact ⟨_, hsearch, by simp⟩

theorem enterOperational_leadsTo (hc : c.Linked) :
    ∃ r t, LeadsTo standing enterOperational (standing c) r t ∧
      (r = some true ↔ c.entered ≠ none) ∧
      ∀ p, c.entered = some p → t = (c.answers, (true, true), p) := by
  obtain ⟨t, hfind, ht⟩ := findSlaves_leadsTo hc
  rw [entered]
  rcases hfound : c.found with _ | ⟨_ | _, p⟩
  · rw [hfound] at hfind
    exact ⟨none, t, hfind.bind_throws, by simp, by simp⟩
  · rw [hfound] at hfind
    exact ⟨some false, t, hfind.bind LeadsTo.pure, by simp, by simp⟩
  · rw [hfound] at hfind
    obtain rfl := ht true p hfound
    rcases hm : mapped c.answers p with ⟨_ | _, q⟩
    · exact ⟨none, _, hfind.bind (askThen_throws hm), by simp [hm], by simp [hm]⟩
    · exact ⟨some true, _, hfind.bind (askThen_moves hm LeadsTo.pure), by simp [hm],
        by simp [hm]⟩

/-- The search throws when the answers say so. -/
theorem searchReturns_iff (hc : c.Linked) : c.SearchReturns ↔ c.found ≠ none := by
  obtain ⟨t, hfind, -⟩ := findSlaves_leadsTo hc
  obtain ⟨result, c₁, hrun, hresult, -⟩ := hfind c rfl
  rw [SearchReturns, hrun]
  cases result with
  | error what =>
    have hfound : c.found = none := Option.map_eq_none_iff.mp hresult.symm
    simp [hfound]
  | ok found =>
    have hfound : c.found ≠ none := by
      intro h
      rw [h] at hresult
      cases hresult
    simp [hfound]

theorem entersOperational_iff (hc : c.Linked) : c.EntersOperational ↔ c.entered ≠ none := by
  obtain ⟨r, t, henter, hr, -⟩ := enterOperational_leadsTo hc
  obtain ⟨result, c₁, hrun, rfl, -⟩ := henter c rfl
  rw [EntersOperational, hrun, ← hr]
  cases result with
  | error what => simp [Except.toOption]
  | ok entered => simp [Except.toOption]

theorem step_standing (command : MasterCommand) {t t'} {r : Option Unit}
    (h : LeadsTo standing command.body t r t') (hc : standing c = t) :
    standing (c.step command) = t' := by
  obtain ⟨result, c', hrun, -, hc'⟩ := h c hc
  rw [step, hrun]
  exact hc'

theorem step_entered (hc : c.Linked) {p : BusPoint} (h : c.entered = some p) :
    standing (c.step .requestOperational) = (c.answers, (true, true), p.reread c.answers) := by
  obtain ⟨r, t, henter, hr, ht⟩ := enterOperational_leadsTo hc
  obtain rfl := ht p h
  obtain rfl : r = some true := hr.mpr (by simp [h])
  exact step_standing .requestOperational (requestOperational_leadsTo henter) rfl

end Search

/-! ## Runs -/

/-- What the model says after `command` is true: with the flag up, the bus has slaves
and each of them was OPERATIONAL when its state was read last; after `initPreop` the
line and the flag agree. -/
def TellsTruth (command : MasterCommand) (c : MasterController) : Prop :=
  (c.model.operational = true → c.allSlavesInState .OPERATIONAL = true) ∧
    (command = .initPreop → (c.model.status = "preop ok" ↔ c.model.preop = true))

instance (command : MasterCommand) (c : MasterController) : Decidable (TellsTruth command c) :=
  inferInstanceAs (Decidable ((_ → _) ∧ (_ → (_ ↔ _))))

/-- What is known before each command of a run in which the model tells the truth. -/
structure Truthful (c : MasterController) : Prop where
  linked : c.Linked
  operational : c.model.operational = true → c.allSlavesInState .OPERATIONAL = true

theorem Truthful.point_allIn {c : MasterController} (hc : c.Truthful)
    (hup : c.model.operational = true) :
    standing c = (c.answers, (true, true), c.point) ∧ c.point.allIn .OPERATIONAL = true := by
  have hslaves := hc.operational hup
  have hbus : c.hasBus = true := by
    simp only [allSlavesInState, Bool.and_eq_true] at hslaves
    exact hslaves.1.1
  have hstanding : standing c = (c.answers, (true, true), c.point) := by
    rw [standing, links, hbus, hc.linked hbus]
  exact ⟨hstanding, (allSlavesInState_eq hstanding _).symm.trans hslaves⟩

theorem Truthful.step_ends {c : MasterController} (hc : c.Truthful)
    (hup : c.model.operational = true) (command : MasterCommand) :
    standing (c.step command) = (c.answers, (true, true), ends c.answers command c.point) := by
  obtain ⟨hstanding, hin⟩ := hc.point_allIn hup
  have hslaves : c.point.slaves.isEmpty = false := by
    simp only [allIn, Bool.and_eq_true, Bool.not_eq_true'] at hin
    exact hin.1
  exact step_standing command (body_moves command hslaves) hstanding

theorem tellsTruth_step_iff {c : MasterController} (hc : c.Truthful) (command : MasterCommand) :
    TellsTruth command (c.step command) ↔ c.TakenForGranted command := by
  have hstatus : (command = .initPreop → ((c.step command).model.status = "preop ok" ↔
      (c.step command).model.preop = true)) ↔
      (command = .initPreop → c.model.preop = true → c.found ≠ none) := by
    refine forall_congr' fun hcommand => ?_
    subst hcommand
    rw [initPreop_status_iff, searchReturns_iff hc.linked]
  rw [TellsTruth, step_operational_iff, hstatus, entersOperational_iff hc.linked]
  constructor
  · intro h
    refine ⟨fun hcommand p hp => ?_, fun hup => ?_, h.2⟩
    · subst hcommand
      rw [← allSlavesInState_eq (step_entered hc.linked hp)]
      exact h.1 (.inr ⟨rfl, Option.ne_none_iff_exists'.mpr ⟨p, hp⟩⟩)
    · rw [← allSlavesInState_eq (hc.step_ends hup command)]
      exact h.1 (.inl hup)
  · intro h
    refine ⟨?_, h.searches⟩
    intro hup
    rcases hup with hup | ⟨rfl, hentered⟩
    · rw [allSlavesInState_eq (hc.step_ends hup command)]
      exact h.stays hup
    · obtain ⟨p, hp⟩ := Option.ne_none_iff_exists'.mp hentered
      rw [allSlavesInState_eq (step_entered hc.linked hp)]
      exact h.confirms rfl p hp

/-- The wait of a `requestOperational` is behind the slaves that are read last. -/
theorem holds_of_entered {c : MasterController} {p : BusPoint} (hp : c.entered = some p)
    (h : Steady c.answers (p.calls - 1)) : Holds (p.calls - 1) p := by
  rw [entered] at hp
  rcases hfound : c.found with _ | ⟨_ | _, p₀⟩
  · simp [hfound] at hp
  · simp [hfound] at hp
  · rcases hmapped : mapped c.answers p₀ with ⟨_ | _, q⟩
    · simp [hfound, hmapped] at hp
    · obtain rfl : q = p := by simpa [hfound, hmapped] using hp
      have hlast := @asked_last c.answers p₀ [.createMapping, .requestState .OPERATIONAL] _ _
        hmapped
      refine ⟨Nat.sub_le _ _, ?_⟩
      have hslaves := h.slaves (q.calls - 1) (.waitForState .OPERATIONAL 2000) (Nat.le_refl _) rfl
      rwa [← hlast.2] at hslaves

/-- What is known before each command of a run on such a bus. -/
structure Steadied (c : MasterController) : Prop extends Truthful c where
  steady : c.model.operational = true → ∃ n, n ≤ c.calls ∧ Steady c.answers n

theorem SteadyBehind.takenForGranted {c : MasterController} (hc : c.Steadied)
    {command : MasterCommand} (h : c.SteadyBehind command) : c.TakenForGranted command := by
  refine ⟨fun hcommand p hp => ?_, fun hup => ?_, h.searches⟩
  · have hsteady := h.confirmed hcommand p hp
    exact (hsteady.reread (holds_of_entered hp hsteady)).slaves
  · obtain ⟨n, hn, hsteady⟩ := hc.steady hup
    exact (hsteady.ends command ⟨hn, (hc.point_allIn hup).2⟩).slaves

theorem Steadied.step {c : MasterController} (hc : c.Steadied) {command : MasterCommand}
    (h : c.SteadyBehind command) : (c.step command).Steadied := by
  have htruth := (tellsTruth_step_iff hc.toTruthful command).mpr (h.takenForGranted hc)
  refine ⟨⟨step_linked hc.linked command, htruth.1⟩, fun hup => ?_⟩
  rcases (step_operational_iff c command).mp hup with hup | ⟨rfl, henters⟩
  · obtain ⟨n, hn, hsteady⟩ := hc.steady hup
    obtain ⟨hanswers, -, hpoint⟩ := of_standing (hc.step_ends hup command)
    have hend := hsteady.ends command ⟨hn, (hc.point_allIn hup).2⟩
    refine ⟨n, ?_, hanswers ▸ hsteady⟩
    rw [← hpoint] at hend
    exact hend.calls
  · obtain ⟨p, hp⟩ := Option.ne_none_iff_exists'.mp ((entersOperational_iff hc.linked).mp henters)
    have hsteady := h.confirmed rfl p hp
    obtain ⟨hanswers, -, hpoint⟩ := of_standing (step_entered hc.linked hp)
    have hend := hsteady.reread (holds_of_entered hp hsteady)
    refine ⟨p.calls - 1, ?_, hanswers ▸ hsteady⟩
    rw [← hpoint] at hend
    exact hend.calls

/-- In every run of commands on every bus, the model tells the truth after each command
exactly when the bus answers at every step what the command takes for granted.  On a bus that
is steady from the wait on that lets a `requestOperational` through, it does. -/
theorem tellsTruth_iff (answers : Nat → BusCall → BusAnswer) (commands : List MasterCommand) :
    (StepsOk step (fun c command => TellsTruth command (c.step command)) (create answers)
        commands ↔
      StepsOk step TakenForGranted (create answers) commands) ∧
    (StepsOk step SteadyBehind (create answers) commands →
      StepsOk step (fun c command => TellsTruth command (c.step command)) (create answers)
        commands) := by
  have hcreated : (create answers).Truthful :=
    ⟨fun hbus => absurd hbus Bool.false_ne_true, fun hup => absurd hup Bool.false_ne_true⟩
  have hiff : StepsOk step (fun c command => TellsTruth command (c.step command))
      (create answers) commands ↔ StepsOk step TakenForGranted (create answers) commands := by
    refine @stepsOk_iff _ _ step Truthful (fun _ _ => True) _ _ ?_ ?_ _ hcreated _
      (stepsOk_all (fun _ _ => trivial) _ _)
    · intro c command hc _ htruth
      exact ⟨step_linked hc.linked command, htruth.1⟩
    · intro c command hc _
      exact tellsTruth_step_iff hc command
  refine ⟨hiff, fun hsteady => hiff.mpr ?_⟩
  have hstart : (create answers).Steadied :=
    ⟨hcreated, fun hup => absurd hup Bool.false_ne_true⟩
  have halways : Always step Steadied (create answers) commands :=
    always_of_step (fun _ _ hc h => hc.step h) hstart hsteady
  exact halways.stepsOk_imp (fun _ _ hc h => h.takenForGranted hc) hsteady

/-- A bus whose only slave is in PRE_OP up to the wait of a `requestOperational` behind a `scan`
and an `initPreop`, and OPERATIONAL from then on. -/
def confirmedBus (n : Nat) (_ : BusCall) : BusAnswer :=
  { detected := 1
    register := if n < 14 then 0x02 else 0x08
    slaves := [⟨1, if n < 14 then 0x02 else 0x08, 0⟩] }

example : StepsOk step TakenForGranted (create confirmedBus)
    [.scan, .initPreop, .requestOperational, .scan] := by
  decide +kernel

example : Steady confirmedBus 14 := by
  refine ⟨fun k call hk _ => ?_, fun k address hk => ?_⟩
  · simp only [confirmedBus, if_neg (Nat.not_lt.mpr hk)]
    rfl
  · simp only [confirmedBus, if_neg (Nat.not_lt.mpr hk)]
    decide

/-- A bus with one slave that is OPERATIONAL at the end of the wait, and in SAFE_OP with an
error when its status register is read after it. -/
def fallingBus (_ : Nat) : BusCall → BusAnswer
  | .detectSlaves => { detected := 1, slaves := [⟨1, 0x02, 0⟩] }
  | .waitForState _ _ => { slaves := [⟨1, 0x08, 0⟩] }
  | .sendGetRegister _ reg => { register := if reg = 0x0130 then 0x14 else 0x1B }
  | _ => { slaves := [⟨1, 0x02, 0⟩] }

/-- A bus whose only slave is in PRE_OP for the first 10 calls.  Then no slave answers for
40 calls, and after that every call throws. -/
def vanishingBus (n : Nat) (_ : BusCall) : BusAnswer :=
  if n < 10 then { detected := 1, register := 0x02, slaves := [⟨1, 0x02, 0⟩] }
  else if n < 50 then { detected := 0 }
  else { thrown := some "Connection refused" }

/-- `requestOperational` reports a slave in SAFE_OP as operational; and when the slave of
an `initPreop` is gone at the next `scan`, the next `initPreop` leaves the flag of the first
one under its own error. -/
theorem tellsTruth_unchecked_false :
    ¬ StepsOk step (fun c command => TellsTruth command (c.step command)) (create fallingBus)
        [.requestOperational] ∧
      ¬ StepsOk step (fun c command => TellsTruth command (c.step command)) (create vanishingBus)
        [.initPreop, .scan, .initPreop] := by
  decide +kernel

end MasterController

end EthercatSim
