import Mathlib.Data.List.Chain

/-!
# Loops with an exit

A `while` loop with `break` is a body `S → S × Option R`: it changes the state
and, when the loop ends there, gives the result.  `loop body fuel` runs the
body at most `fuel` times and is `none` when that was not enough.

* `loop_isSome`: a loop whose body decreases a variant ends.
* `loop_post`: the rule for loops.  An invariant that the body keeps, and that
  gives the postcondition at the exit, gives the postcondition of the loop.
* `loop_related`: two loops whose bodies keep two states related.
* `visited` is the list of states in which the body was entered.  It is a
  ghost, for statements about the way that the loop takes.
-/

namespace FuelLoop

variable {S R : Type} (body : S → S × Option R)

/-- Run `body` until it gives a result, at most `fuel` times. -/
def loop : Nat → S → Option (S × R)
  | 0, _ => none
  | fuel + 1, s =>
    match body s with
    | (s', some r) => some (s', r)
    | (s', none) => loop fuel s'

/-- The states in which the loop enters its body. -/
def visited : Nat → S → List S
  | 0, _ => []
  | fuel + 1, s =>
    match body s with
    | (_, some _) => [s]
    | (s', none) => s :: visited fuel s'

variable {body}

theorem loop_exit {s s' : S} {r : R} (h : body s = (s', some r)) (fuel : Nat) :
    loop body (fuel + 1) s = some (s', r) := by
  rw [loop, h]

theorem loop_next {s s' : S} (h : body s = (s', none)) (fuel : Nat) :
    loop body (fuel + 1) s = loop body fuel s' := by
  rw [loop, h]

/-- More fuel does not change the outcome. -/
theorem loop_add {fuel : Nat} {s : S} {out : S × R} (h : loop body fuel s = some out)
    (more : Nat) : loop body (fuel + more) s = some out := by
  induction fuel generalizing s with
  | zero => simp [loop] at h
  | succ fuel ih =>
    rw [Nat.add_right_comm]
    rcases hb : body s with ⟨s', _ | r⟩
    · rw [loop_next hb] at h ⊢
      exact ih h
    · rw [loop_exit hb] at h ⊢
      exact h

/-- A loop whose body decreases a variant ends. -/
theorem loop_isSome (variant : S → Nat)
    (hdec : ∀ s s', body s = (s', none) → variant s' < variant s)
    {fuel : Nat} {s : S} (h : variant s < fuel) : (loop body fuel s).isSome := by
  induction fuel generalizing s with
  | zero => omega
  | succ fuel ih =>
    rcases hb : body s with ⟨s', _ | r⟩
    · rw [loop_next hb]
      have hlt := hdec s s' hb
      exact ih (by omega)
    · rw [loop_exit hb]
      rfl

/-- The rule for loops: `I` is the invariant, `Q` the postcondition. -/
theorem loop_post {I : S → Prop} {Q : S → R → Prop}
    (hnext : ∀ s s', I s → body s = (s', none) → I s')
    (hexit : ∀ s s' r, I s → body s = (s', some r) → Q s' r)
    {fuel : Nat} {s : S} {out : S × R} (hI : I s) (h : loop body fuel s = some out) :
    Q out.1 out.2 := by
  induction fuel generalizing s with
  | zero => simp [loop] at h
  | succ fuel ih =>
    rcases hb : body s with ⟨s', _ | r⟩
    · rw [loop_next hb] at h
      exact ih (hnext s s' hI hb) h
    · rw [loop_exit hb] at h
      obtain rfl := Option.some.inj h
      exact hexit s s' r hI hb

/-- A reflexive and transitive relation that every run of the body respects
relates the two ends of the loop. -/
theorem loop_rel {rel : S → S → Prop} (hrefl : ∀ s, rel s s)
    (htrans : ∀ s s' s'', rel s s' → rel s' s'' → rel s s'')
    (hbody : ∀ s, rel s (body s).1)
    {fuel : Nat} {s : S} {out : S × R} (h : loop body fuel s = some out) : rel s out.1 := by
  have hstep : ∀ t t' r, rel s t → body t = (t', r) → rel s t' := by
    intro t t' r ht hb
    have ht' := hbody t
    rw [hb] at ht'
    exact htrans s t t' ht ht'
  exact loop_post (fun t t' ht hb => hstep t t' none ht hb)
    (fun t t' r ht hb => hstep t t' (some r) ht hb) (hrefl s) h

/-- Two loops whose bodies keep two states related, and give the same results. -/
theorem loop_related {S' : Type} {body' : S' → S' × Option R} {rel : S → S' → Prop}
    (hbody : ∀ s s', rel s s' → (body s).2 = (body' s').2 ∧ rel (body s).1 (body' s').1)
    {s : S} {s' : S'} (h : rel s s') (fuel : Nat) :
    Option.Rel (fun out out' => out.2 = out'.2 ∧ rel out.1 out'.1)
      (loop body fuel s) (loop body' fuel s') := by
  induction fuel generalizing s s' with
  | zero => exact .none
  | succ fuel ih =>
    obtain ⟨hresult, hstates⟩ := hbody s s' h
    rcases hb : body s with ⟨t, _ | r⟩ <;> rcases hb' : body' s' with ⟨t', _ | r'⟩ <;>
      simp only [hb, hb', reduceCtorEq] at hresult hstates
    · rw [loop_next hb, loop_next hb']
      exact ih hstates
    · obtain rfl := Option.some.inj hresult
      rw [loop_exit hb, loop_exit hb']
      exact .some ⟨rfl, hstates⟩

/-! ## The states on the way -/

theorem visited_exit {s s' : S} {r : R} (h : body s = (s', some r)) (fuel : Nat) :
    visited body (fuel + 1) s = [s] := by
  rw [visited, h]

theorem visited_next {s s' : S} (h : body s = (s', none)) (fuel : Nat) :
    visited body (fuel + 1) s = s :: visited body fuel s' := by
  rw [visited, h]

/-- A loop that has fuel enters its body in the state it starts from. -/
theorem head?_visited (fuel : Nat) (s : S) : (visited body (fuel + 1) s).head? = some s := by
  rcases hb : body s with ⟨s', _ | r⟩
  · rw [visited_next hb]
    rfl
  · rw [visited_exit hb]
    rfl

/-- The loop ends in the last state that it visits. -/
theorem getLast?_visited {fuel : Nat} {s : S} {out : S × R} (h : loop body fuel s = some out) :
    ∃ t, (visited body fuel s).getLast? = some t ∧ body t = (out.1, some out.2) := by
  induction fuel generalizing s with
  | zero => simp [loop] at h
  | succ fuel ih =>
    rcases hb : body s with ⟨s', _ | r⟩
    · rw [loop_next hb] at h
      obtain ⟨t, hlast, ht⟩ := ih h
      refine ⟨t, ?_, ht⟩
      rw [visited_next hb, List.getLast?_cons, hlast]
      rfl
    · rw [loop_exit hb] at h
      obtain rfl := Option.some.inj h
      refine ⟨s, ?_, hb⟩
      rw [visited_exit hb]
      rfl

/-- Consecutive states on the way are related when one run of the body relates
them. -/
theorem isChain_visited {I : S → Prop} {rel : S → S → Prop}
    (hnext : ∀ s s', I s → body s = (s', none) → I s' ∧ rel s s')
    {s : S} (hI : I s) (fuel : Nat) : (visited body fuel s).IsChain rel := by
  induction fuel generalizing s with
  | zero => exact .nil
  | succ fuel ih =>
    rcases hb : body s with ⟨s', _ | r⟩
    · rw [visited_next hb, List.isChain_cons]
      obtain ⟨hI', hrel⟩ := hnext s s' hI hb
      refine ⟨?_, ih hI'⟩
      intro t ht
      cases fuel with
      | zero => simp [visited] at ht
      | succ fuel =>
        rw [head?_visited] at ht
        obtain rfl := Option.some.inj ht
        exact hrel
    · rw [visited_exit hb]
      exact .singleton s

end FuelLoop
