/-!
# Runs of a step function

A system is a step function `step : S → I → S`.  A run takes a list of inputs
one after the other.  This file gives the statements that a safety argument
about such a system needs, with the induction over the run done once:

* `run_preserved`: what every step preserves, a run preserves.  `run_invariant` is the
  same for steps of one kind.  `run_unchanged`: what no step changes, a run does not
  change.
  `run_map`: a view that the steps act on, a run acts on.  `rank_run`: a rank that some
  steps lower is as much lower behind a run as it has such steps.
* `Always`: the statement that a property holds in *every* state of a run, the
  first and the last included.
* `always_iff_stepsOk`: when `ok` says exactly which steps preserve `P`, the
  runs along which `P` never breaks are exactly the runs of `ok` steps.
  `always_iff_of_allowed` is the same for runs of allowed steps, and
  `stepsOk_iff` the same for a property of the steps.
* `trace`: what the steps of a run show.  `run_related` and `trace_eq` are about two
  runs of the same inputs: a relation that the allowed steps preserve holds at the
  end, and steps that show the same from related states make equal traces.

Nothing here depends on what the states and the inputs are.
-/

namespace StepRun

variable {S I : Type} (step : S → I → S)

/-- The state after the inputs `ops`, taken in order. -/
def run (s : S) (ops : List I) : S := ops.foldl step s

@[simp] theorem run_nil (s : S) : run step s [] = s := rfl

@[simp] theorem run_cons (s : S) (op : I) (ops : List I) :
    run step s (op :: ops) = run step (step s op) ops := rfl

theorem run_append (s : S) (xs ys : List I) :
    run step s (xs ++ ys) = run step (run step s xs) ys :=
  List.foldl_append

/-- Every input of the run is allowed in the state that it is taken from. -/
def StepsOk (ok : S → I → Prop) : S → List I → Prop
  | _, [] => True
  | s, op :: ops => ok s op ∧ StepsOk ok (step s op) ops

instance instDecidableStepsOk (ok : S → I → Prop) [∀ s op, Decidable (ok s op)] :
    (s : S) → (ops : List I) → Decidable (StepsOk step ok s ops)
  | _, [] => isTrue trivial
  | s, op :: ops =>
    have := instDecidableStepsOk ok (step s op) ops
    inferInstanceAs (Decidable (_ ∧ _))

/-- `P` holds in every state of the run, the first and the last included. -/
def Always (P : S → Prop) : S → List I → Prop
  | s, [] => P s
  | s, op :: ops => P s ∧ Always P (step s op) ops

variable {step}

theorem Always.head {P : S → Prop} {s : S} {ops : List I}
    (h : Always step P s ops) : P s := by
  cases ops with
  | nil => exact h
  | cons op ops => exact h.1

theorem Always.last {P : S → Prop} {s : S} {ops : List I}
    (h : Always step P s ops) : P (run step s ops) := by
  induction ops generalizing s with
  | nil => exact h
  | cons op ops ih => exact ih h.2

theorem Always.imp {P Q : S → Prop} (h : ∀ s, P s → Q s) {s : S} {ops : List I}
    (hP : Always step P s ops) : Always step Q s ops := by
  induction ops generalizing s with
  | nil => exact h s hP
  | cons op ops ih => exact ⟨h s hP.1, ih hP.2⟩

/-- A condition that does not look at the state is one on the list of inputs. -/
theorem stepsOk_of_forall {ok : I → Prop} {ops : List I} (h : ∀ op ∈ ops, ok op) (s : S) :
    StepsOk step (fun _ op => ok op) s ops := by
  induction ops generalizing s with
  | nil => trivial
  | cons op ops ih =>
    exact ⟨h op (by simp), ih (fun o ho => h o (by simp [ho])) _⟩

theorem stepsOk_forall_iff {ok : I → Prop} {ops : List I} {s : S} :
    StepsOk step (fun _ op => ok op) s ops ↔ ∀ op ∈ ops, ok op := by
  refine ⟨fun h => ?_, fun h => stepsOk_of_forall h s⟩
  induction ops generalizing s with
  | nil => simp
  | cons op ops ih =>
    intro o ho
    rcases List.mem_cons.mp ho with rfl | hmem
    · exact h.1
    · exact ih h.2 o hmem

theorem stepsOk_all {ok : S → I → Prop} (h : ∀ s op, ok s op) (s : S) (ops : List I) :
    StepsOk step ok s ops := by
  induction ops generalizing s with
  | nil => trivial
  | cons op ops ih => exact ⟨h s op, ih _⟩

/-- What every allowed step preserves holds all along a run of allowed
steps. -/
theorem always_of_step {P : S → Prop} {ok : S → I → Prop}
    (hstep : ∀ s op, P s → ok s op → P (step s op))
    {s : S} (hs : P s) {ops : List I} (hok : StepsOk step ok s ops) :
    Always step P s ops := by
  induction ops generalizing s with
  | nil => exact hs
  | cons op ops ih => exact ⟨hs, ih (hstep s op hs hok.1) hok.2⟩

/-- What every step preserves holds all along every run. -/
theorem always_of_preserved {P : S → Prop} (hstep : ∀ s op, P s → P (step s op)) {s : S}
    (hs : P s) (ops : List I) : Always step P s ops :=
  always_of_step (fun s op h _ => hstep s op h) hs (stepsOk_all (fun _ _ => trivial) s ops)

/-- What every step preserves, a run preserves. -/
theorem run_preserved {P : S → Prop} (hstep : ∀ s op, P s → P (step s op)) {s : S}
    (hs : P s) (ops : List I) : P (run step s ops) :=
  (always_of_preserved hstep hs ops).last

/-- What every step of a kind preserves, a run of that kind preserves. -/
theorem run_invariant {P : S → Prop} {ok : I → Prop}
    (hstep : ∀ s op, P s → ok op → P (step s op))
    {s : S} (hs : P s) {ops : List I} (hok : ∀ op ∈ ops, ok op) :
    P (run step s ops) :=
  (always_of_step hstep hs (stepsOk_of_forall hok s)).last

/-- What no step changes, no run changes. -/
theorem run_unchanged {T : Type} {g : S → T} (hstep : ∀ s op, g (step s op) = g s) (s : S)
    (ops : List I) : g (run step s ops) = g s := by
  induction ops generalizing s with
  | nil => rfl
  | cons op ops ih => rw [run_cons, ih, hstep]

/-- A view of the states that the steps act on is acted on by a run. -/
theorem run_map {T : Type} {f : T → I → T} {g : S → T}
    (hstep : ∀ s op, g (step s op) = f (g s) op) (s : S) (ops : List I) :
    g (run step s ops) = run f (g s) ops := by
  induction ops generalizing s with
  | nil => rfl
  | cons op ops ih => rw [run_cons, run_cons, ih, hstep]

/-- A rank that falls with every step of a kind, and that no step raises. -/
theorem rank_run {P : S → Prop} {rank : S → Nat} {counts : I → Bool}
    (hP : ∀ s op, P s → P (step s op))
    (hrank : ∀ s op, P s → rank (step s op) ≤ rank s - if counts op then 1 else 0)
    {s : S} (hs : P s) (ops : List I) : rank (run step s ops) ≤ rank s - ops.countP counts := by
  induction ops generalizing s with
  | nil => simp
  | cons op ops ih =>
    have hfirst := hrank s op hs
    have hrest := ih (hP s op hs)
    rw [run_cons, List.countP_cons]
    omega

/-- What holds all along a run holds at its start, and every step leads to it. -/
theorem always_iff {P : S → Prop} {s : S} {ops : List I} :
    Always step P s ops ↔ P s ∧ StepsOk step (fun s op => P (step s op)) s ops := by
  induction ops generalizing s with
  | nil => exact ⟨fun h => ⟨h, trivial⟩, fun h => h.1⟩
  | cons op ops ih =>
    constructor
    · intro h
      exact ⟨h.1, h.2.head, (ih.mp h.2).2⟩
    · intro h
      exact ⟨h.1, ih.mpr h.2⟩

/-- Two conditions that are the same on the allowed steps from an invariant, which
one of them preserves, allow the same runs. -/
theorem stepsOk_iff {Inv : S → Prop} {allowed ok ok' : S → I → Prop}
    (hinv : ∀ s op, Inv s → allowed s op → ok s op → Inv (step s op))
    (hstep : ∀ s op, Inv s → allowed s op → (ok s op ↔ ok' s op))
    {s : S} (hI : Inv s) {ops : List I} (hops : StepsOk step allowed s ops) :
    StepsOk step ok s ops ↔ StepsOk step ok' s ops := by
  induction ops generalizing s with
  | nil => exact Iff.rfl
  | cons op ops ih =>
    have hiff := hstep s op hI hops.1
    constructor
    · intro h
      exact ⟨hiff.mp h.1, (ih (hinv s op hI hops.1 h.1) hops.2).mp h.2⟩
    · intro h
      have hok := hiff.mpr h.1
      exact ⟨hok, (ih (hinv s op hI hops.1 hok) hops.2).mpr h.2⟩

/-- What holds in every state of a run turns a condition on its steps into another. -/
theorem Always.stepsOk_imp {P : S → Prop} {ok ok' : S → I → Prop}
    (hstep : ∀ s op, P s → ok s op → ok' s op) {s : S} {ops : List I}
    (hP : Always step P s ops) (hok : StepsOk step ok s ops) : StepsOk step ok' s ops := by
  induction ops generalizing s with
  | nil => trivial
  | cons op ops ih => exact ⟨hstep s op hP.1 hok.1, ih hP.2 hok.2⟩

/-- Two conditions hold along a run when both hold at every step. -/
theorem stepsOk_and {ok ok' : S → I → Prop} {s : S} {ops : List I} :
    StepsOk step (fun s op => ok s op ∧ ok' s op) s ops ↔
      StepsOk step ok s ops ∧ StepsOk step ok' s ops := by
  induction ops generalizing s with
  | nil => exact ⟨fun _ => ⟨trivial, trivial⟩, fun _ => trivial⟩
  | cons op ops ih =>
    rw [StepsOk, ih, StepsOk, StepsOk]
    exact and_and_and_comm

/-- When, from the states of an invariant, `ok` says exactly which of the
allowed steps preserve `P`, then `P` holds all along a run of allowed steps
exactly when every step of the run is `ok`. -/
theorem always_iff_of_allowed {Inv P : S → Prop} {allowed ok : S → I → Prop}
    (hinv : ∀ s op, Inv s → allowed s op → Inv (step s op))
    (hstep : ∀ s op, Inv s → allowed s op → P s → (P (step s op) ↔ ok s op))
    {s : S} (hI : Inv s) (hs : P s) {ops : List I} (hops : StepsOk step allowed s ops) :
    Always step P s ops ↔ StepsOk step ok s ops := by
  have hiff := @stepsOk_iff S I step (fun s => Inv s ∧ P s) allowed (fun s op => P (step s op)) ok
    (fun s op hI hop hnext => ⟨hinv s op hI.1 hop, hnext⟩)
    (fun s op hI hop => hstep s op hI.1 hop hI.2) s ⟨hI, hs⟩ ops hops
  rw [always_iff, hiff]
  exact and_iff_right hs

/-- When `ok` says exactly which steps preserve `P`, the property holds all
along a run exactly when every step of the run is `ok`. -/
theorem always_iff_stepsOk {P : S → Prop} {ok : S → I → Prop}
    (hstep : ∀ s op, P s → (P (step s op) ↔ ok s op))
    {s : S} (hs : P s) (ops : List I) :
    Always step P s ops ↔ StepsOk step ok s ops :=
  @always_iff_of_allowed S I step (fun _ => True) P (fun _ _ => True) ok
    (fun _ _ _ _ => trivial) (fun s op _ _ h => hstep s op h) s trivial hs ops
    (stepsOk_all (fun _ _ => trivial) s ops)

/-! ## Two runs of the same inputs -/

section Related

variable {R : S → S → Prop} {ok : S → I → Prop}

/-- States that are related stay related along a run of allowed steps. -/
theorem run_related (hstep : ∀ s s' op, R s s' → ok s op → R (step s op) (step s' op))
    {s s' : S} (h : R s s') {ops : List I} (hok : StepsOk step ok s ops) :
    R (run step s ops) (run step s' ops) := by
  induction ops generalizing s s' with
  | nil => exact h
  | cons op ops ih => exact ih (hstep s s' op h hok.1) hok.2

variable (step) {O : Type}

/-- What the steps of a run show, in order. -/
def trace (out : S → I → O) : S → List I → List O
  | _, [] => []
  | s, op :: ops => out s op :: trace out (step s op) ops

variable {step} {out : S → I → O}

/-- Related states show the same all along a run of allowed steps. -/
theorem trace_eq (hstep : ∀ s s' op, R s s' → ok s op → R (step s op) (step s' op))
    (hout : ∀ s s' op, R s s' → ok s op → out s' op = out s op) {s s' : S} (h : R s s')
    {ops : List I} (hok : StepsOk step ok s ops) :
    trace step out s' ops = trace step out s ops := by
  induction ops generalizing s s' with
  | nil => rfl
  | cons op ops ih =>
    rw [trace, trace, hout s s' op h hok.1, ih (hstep s s' op h hok.1) hok.2]

end Related

end StepRun
