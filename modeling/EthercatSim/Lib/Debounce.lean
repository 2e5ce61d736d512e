/-!
# Lazy debounce filters

A filter holds the raw value of an input, the time since which the input has had it, and
the value that the filter took over last.  Nothing happens between two calls, so some
call has to take the raw value over.

In a `Filter` it is the read, when it finds the raw value old enough.  A wait of zero
reads past the filter.

* `Filter.read_value` and `Filter.read_filter` are the closed form of a read.
* `Filter.steady_iff` says exactly when a read that reports another value than the read
  before it reports one that the input has had for as long as the wait.

In a `Confirming` filter it is the next call that sets the input, and a read changes
nothing.

* `Confirming.Tracks` connects the filter with the calls that set the input last.
* `Confirming.Tracks.out_eq_iff` says exactly when the filter shows what they set.

The values of the clock and the waits are integers in one unit.
-/

namespace Debounce

/-- A test on whole units is one on the time itself. -/
theorem le_tdiv_iff {n u : Int} (hn : 0 < n) (hu : 0 < u) (x : Int) :
    n ≤ x.tdiv u ↔ n * u ≤ x := by
  by_cases hx : 0 ≤ x
  · rw [Int.tdiv_eq_ediv_of_nonneg hx, Int.le_ediv_iff_mul_le hu]
  · have hflip : x.tdiv u = -((-x).tdiv u) := by rw [Int.neg_tdiv, Int.neg_neg]
    have hpos : 0 ≤ (-x).tdiv u := Int.tdiv_nonneg (by omega) (by omega)
    have hprod : 0 < n * u := Int.mul_pos hn hu
    omega

/-- The filter of one input. -/
structure Filter where
  raw : Bool
  filtered : Bool
  since : Int
  deriving DecidableEq, Repr

namespace Filter

/-- The input has the value `v` at the time `t`. -/
def set (f : Filter) (v : Bool) (t : Int) : Filter :=
  if f.raw ≠ v then { f with raw := v, since := t } else f

/-- Read the input at the time `t`. -/
def read (f : Filter) (wait t : Int) : Bool × Filter :=
  if wait = 0 then (f.raw, f)
  else if f.filtered ≠ f.raw ∧ wait ≤ t - f.since then (f.raw, { f with filtered := f.raw })
  else (f.filtered, f)

/-- The value that a read at the time `t` reports. -/
def reported (f : Filter) (wait t : Int) : Bool := (f.read wait t).1

/-- If the read reports another value than `last`, the input has had this value for as
long as the wait. -/
def Steady (f : Filter) (wait t : Int) (last : Bool) : Prop :=
  (f.read wait t).1 ≠ last → f.raw = (f.read wait t).1 ∧ wait ≤ t - f.since

/-- The read goes through a filter that has not followed the last read, and the raw value
is too young to be taken over. -/
def Stale (f : Filter) (wait t : Int) (last : Bool) : Prop :=
  0 < wait ∧ t - f.since < wait ∧ f.filtered ≠ last

/-- A read at the time `t` takes the raw value over. -/
def TakesOver (f : Filter) (wait t : Int) : Prop :=
  wait ≠ 0 ∧ f.filtered ≠ f.raw ∧ wait ≤ t - f.since

instance (f : Filter) (wait t : Int) (last : Bool) : Decidable (f.Stale wait t last) :=
  inferInstanceAs (Decidable (_ ∧ _ ∧ _))

instance (f : Filter) (wait t : Int) : Decidable (f.TakesOver wait t) :=
  inferInstanceAs (Decidable (_ ∧ _ ∧ _))

/-- An old raw value is reported, a young one is not. -/
theorem read_value (f : Filter) (wait t : Int) :
    (f.read wait t).1 = if wait = 0 ∨ wait ≤ t - f.since then f.raw else f.filtered := by
  rw [read]
  by_cases hzero : wait = 0
  · simp [hzero]
  · by_cases hsame : f.filtered = f.raw
    · simp [hzero, hsame]
    · by_cases hold : wait ≤ t - f.since <;> simp [hzero, hsame, hold]

theorem read_fst (f : Filter) (wait t : Int) : (f.read wait t).1 = f.reported wait t := rfl

/-- Filters with the same raw value report the same exactly when they are not asked, or
hold the same value. -/
theorem reported_eq_iff {f f' : Filter} (hraw : f'.raw = f.raw) (hsince : f'.since = f.since)
    (wait t : Int) :
    f'.reported wait t = f.reported wait t ↔
      wait = 0 ∨ wait ≤ t - f.since ∨ f'.filtered = f.filtered := by
  rw [reported, reported, read_value, read_value, hraw, hsince]
  by_cases hpast : wait = 0 ∨ wait ≤ t - f.since
  · rw [if_pos hpast, if_pos hpast]
    exact iff_of_true rfl (hpast.elim .inl fun hold => .inr (.inl hold))
  · rw [if_neg hpast, if_neg hpast]
    rw [not_or] at hpast
    rw [or_iff_right hpast.1, or_iff_right hpast.2]

/-- Only a read with a wait changes the filter, and it takes over what it reports. -/
theorem read_filter (f : Filter) (wait t : Int) :
    (f.read wait t).2 = if wait = 0 then f else { f with filtered := (f.read wait t).1 } := by
  rw [read]
  by_cases hzero : wait = 0
  · simp [hzero]
  · rw [if_neg hzero, if_neg hzero]
    split <;> rfl

/-- Any other read leaves the filter alone. -/
theorem read_of_not_takesOver {f : Filter} {wait t : Int} (h : ¬f.TakesOver wait t) :
    (f.read wait t).2 = f := by
  rw [read]
  split
  · rfl
  · rename_i hwait
    rw [if_neg fun htake => h ⟨hwait, htake⟩]

/-- The raw value stays, or it changes at the time of the call. -/
theorem set_cases (f : Filter) (v : Bool) (t : Int) :
    f.set v t = f ∨ (f.set v t).raw ≠ f.raw ∧ (f.set v t).since = t := by
  rw [set]
  by_cases hv : f.raw = v
  · simp [hv]
  · simp [hv, Ne.symm hv]

@[simp] theorem set_raw (f : Filter) (v : Bool) (t : Int) : (f.set v t).raw = v := by
  rw [set]
  by_cases hv : f.raw = v
  · simp [hv]
  · simp [hv]

/-- A read is steady exactly when it is not stale. -/
theorem steady_iff (f : Filter) {wait t : Int} (hwait : 0 ≤ wait) (ht : f.since ≤ t)
    (last : Bool) : f.Steady wait t last ↔ ¬f.Stale wait t last := by
  have hvalue := f.read_value wait t
  unfold Steady Stale
  by_cases hold : wait = 0 ∨ wait ≤ t - f.since
  · rw [if_pos hold] at hvalue
    rw [hvalue]
    constructor
    · intro _ hstale
      omega
    · intro _ _
      exact ⟨rfl, by omega⟩
  · rw [if_neg hold] at hvalue
    rw [hvalue]
    constructor
    · intro hsteady hstale
      have hlong := (hsteady hstale.2.2).2
      omega
    · intro hfresh hne
      exact absurd ⟨by omega, by omega, hne⟩ hfresh

end Filter

/-! ## A filter that the next call confirms -/

/-- The filter of an input that shows `out`.  A change of the raw value is pending while
`active` holds. -/
structure Confirming where
  raw : Bool
  active : Bool
  since : Int
  out : Bool
  deriving DecidableEq, Repr

/-- The latest calls that set an input to one value: when the first of them and the last
of them were made, and what the filter showed before the first. -/
structure Held where
  value : Bool
  since : Int
  last : Int
  before : Bool
  deriving DecidableEq, Repr

/-- The call at the time `t` sets the input to `v`, while the filter shows `out`. -/
def Held.next (held : Option Held) (v : Bool) (t : Int) (out : Bool) : Held :=
  match held with
  | some h => if h.value = v then { h with last := t } else ⟨v, t, t, out⟩
  | none => ⟨v, t, t, out⟩

theorem Held.next_last (held : Option Held) (v : Bool) (t : Int) (out : Bool) :
    (Held.next held v t out).last = t := by
  cases held with
  | none => rfl
  | some h =>
    rw [Held.next]
    split <;> rfl

/-- One of the calls was made a wait after the first of them, or nothing has changed. -/
def Held.Confirmed (h : Held) (wait : Int) : Prop :=
  h.since + wait ≤ h.last ∨ h.before = h.value

instance (h : Held) (wait : Int) : Decidable (h.Confirmed wait) :=
  inferInstanceAs (Decidable (_ ∨ _))

namespace Confirming

/-- Set the input to `v` at the time `t`. -/
def set (f : Confirming) (wait : Int) (v : Bool) (t : Int) : Confirming :=
  let f := if f.raw ≠ v then { f with raw := v, since := t, active := true } else f
  if f.active = true ∧ wait ≤ t - f.since then { f with active := false, out := f.raw } else f

/-- The filter is as the latest calls have left it. -/
def Tracks (f : Confirming) (wait : Int) : Option Held → Prop
  | none => f.raw = f.out ∧ f.active = false
  | some h => f.raw = h.value ∧
      ((f.active = true ∧ f.since = h.since ∧ h.last < h.since + wait ∧ f.out = h.before) ∨
        (f.active = false ∧ f.out = h.value ∧ h.Confirmed wait))

variable {f : Confirming} {wait : Int}

/-- The filter shows what the latest calls set exactly when it is confirmed. -/
theorem Tracks.out_eq_iff {h : Held} (hf : f.Tracks wait (some h)) :
    f.out = h.value ↔ h.Confirmed wait := by
  obtain ⟨-, ⟨-, -, hyoung, hout⟩ | ⟨-, hout, hconfirmed⟩⟩ := hf
  · rw [hout, Held.Confirmed]
    exact ⟨.inr, fun hc => hc.elim (fun hlong => absurd hlong (by omega)) id⟩
  · exact iff_of_true hout hconfirmed

/-- A call that changes the raw value starts the timer. -/
theorem set_of_ne (hwait : 0 < wait) {v : Bool} (hv : f.raw ≠ v) (t : Int) :
    f.set wait v t = { f with raw := v, since := t, active := true } := by
  have hyoung : ¬wait ≤ t - t := by omega
  simp only [set, if_pos hv, hyoung, and_false, if_false]

/-- A call that does not takes the raw value over when it is pending and old enough. -/
theorem set_of_eq {v : Bool} (hv : f.raw = v) (t : Int) :
    f.set wait v t =
      if f.active = true ∧ wait ≤ t - f.since then { f with active := false, out := v }
      else f := by
  rw [set, if_neg (not_not_intro hv), hv]

theorem set_tracks (hwait : 0 < wait) {held : Option Held} (hf : f.Tracks wait held) (v : Bool)
    {t : Int} (ht : ∀ h ∈ held, h.last ≤ t) :
    (f.set wait v t).Tracks wait (some (Held.next held v t f.out)) := by
  have hchange : f.raw ≠ v → (f.set wait v t).Tracks wait (some ⟨v, t, t, f.out⟩) := by
    intro hv
    rw [set_of_ne hwait hv]
    exact ⟨rfl, .inl ⟨rfl, rfl, Int.lt_add_of_pos_right t hwait, rfl⟩⟩
  cases held with
  | none =>
    obtain ⟨hout, hidle⟩ := hf
    by_cases hv : f.raw = v
    · rw [set_of_eq hv, if_neg fun hc => absurd hc.1 (by simp [hidle])]
      exact ⟨hv, .inr ⟨hidle, hout.symm.trans hv, .inr (hout.symm.trans hv)⟩⟩
    · exact hchange hv
  | some h =>
    have hlast := ht h rfl
    obtain ⟨hraw, hcases⟩ := hf
    by_cases hv : h.value = v
    · rw [Held.next, if_pos hv, set_of_eq (hraw.trans hv)]
      rcases hcases with ⟨hactive, hsince, hyoung, hout⟩ | ⟨hidle, hout, hconfirmed⟩
      · by_cases hold : wait ≤ t - f.since
        · rw [if_pos ⟨hactive, hold⟩]
          exact ⟨hraw, .inr ⟨rfl, hv.symm, .inl (by show h.since + wait ≤ t; omega)⟩⟩
        · rw [if_neg fun hc => hold hc.2]
          exact ⟨hraw, .inl ⟨hactive, hsince, by show t < h.since + wait; omega, hout⟩⟩
      · rw [if_neg fun hc => absurd hc.1 (by simp [hidle])]
        refine ⟨hraw, .inr ⟨hidle, hout, hconfirmed.imp_left ?_⟩⟩
        intro hlong
        exact Int.le_trans hlong hlast
    · rw [Held.next, if_neg hv]
      exact hchange fun hc => hv (hraw.symm.trans hc)

end Confirming

end Debounce
