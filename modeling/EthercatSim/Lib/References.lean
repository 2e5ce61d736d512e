import Mathlib.Data.List.Nodup

/-!
# Objects behind references

A heap is a function from references to objects.  A list of different references reads it
as a list of values, and a change of one object is a change of one value.

* `getElem?_values` and `values_assign`: the objects behind the references, one by one.
* `values_updateSome`: some of the objects are changed, each by itself.
* `updateEach_apply`: a loop over the references that changes every object once.
-/

namespace References

variable {R S : Type}

/-- The objects behind `refs`. -/
def values (objects : R → S) (refs : List R) : List S := refs.map objects

@[simp] theorem length_values (objects : R → S) (refs : List R) :
    (values objects refs).length = refs.length := List.length_map objects

theorem getElem?_values {objects : R → S} {refs : List R} {i : Nat} {ref : R}
    (h : refs[i]? = some ref) : (values objects refs)[i]? = some (objects ref) := by
  rw [values, List.getElem?_map, h]
  rfl

/-- The objects that `p` selects are counted behind the references. -/
theorem countP_values (p : S → Bool) (objects : R → S) (refs : List R) :
    (values objects refs).countP p = refs.countP fun ref => p (objects ref) :=
  List.countP_map

section Assign

variable [DecidableEq R] {objects : R → S} {refs : List R}

/-- Put `s` behind `ref`. -/
def assign (objects : R → S) (ref : R) (s : S) : R → S :=
  fun r => if r = ref then s else objects r

theorem assign_of_ne {ref r : R} (h : r ≠ ref) (s : S) : assign objects ref s r = objects r :=
  if_neg h

@[simp] theorem assign_self (ref : R) (s : S) : assign objects ref s ref = s := if_pos rfl

/-- Behind different references the other values stay. -/
theorem values_assign (hnodup : refs.Nodup) {i : Nat} {ref : R} (href : refs[i]? = some ref)
    (s : S) : values (assign objects ref s) refs = (values objects refs).set i s := by
  have hi := (List.getElem?_eq_some_iff.mp href).1
  apply List.ext_getElem?
  intro j
  by_cases hj : i = j
  · subst hj
    rw [getElem?_values href, assign_self, List.getElem?_set_self (by simpa using hi)]
  · rw [List.getElem?_set_ne hj, values, values, List.getElem?_map, List.getElem?_map]
    cases hr : refs[j]? with
    | none => rfl
    | some r =>
      have hne : r ≠ ref := fun heq => hj ((List.getElem?_inj hi hnodup).mp (by rw [href, hr, heq]))
      exact congrArg some (assign_of_ne hne s)

/-- Change every object behind `refs`, in order. -/
def updateEach (f : S → S) (refs : List R) (objects : R → S) : R → S :=
  refs.foldl (fun objects ref => assign objects ref (f (objects ref))) objects

/-- With different references each object is changed once. -/
theorem updateEach_apply (f : S → S) (hnodup : refs.Nodup) (objects : R → S) (r : R) :
    updateEach f refs objects r = if r ∈ refs then f (objects r) else objects r := by
  induction refs generalizing objects with
  | nil => rfl
  | cons ref refs ih =>
    obtain ⟨hnotMem, hnodup⟩ := List.nodup_cons.mp hnodup
    show updateEach f refs (assign objects ref (f (objects ref))) r = _
    rw [ih hnodup]
    by_cases hr : r = ref
    · subst hr
      rw [if_neg hnotMem, if_pos List.mem_cons_self, assign_self]
    · rw [assign_of_ne hr]
      simp [hr]

theorem values_updateEach (f : S → S) (hnodup : refs.Nodup) (objects : R → S) :
    values (updateEach f refs objects) refs = (values objects refs).map f := by
  rw [values, values, List.map_map]
  apply List.map_congr_left
  intro ref href
  rw [updateEach_apply f hnodup, if_pos href]
  rfl

/-- The first `n` values are changed where `p` selects them. -/
theorem values_updateFront {f : S → S} {p : S → Bool} {objects objects' : R → S} {refs : List R}
    {n : Nat} (hnodup : refs.Nodup)
    (h : ∀ ref ∈ refs, objects' ref =
      if ref ∈ refs.take n ∧ p (objects ref) = true then f (objects ref) else objects ref) :
    values objects' refs =
      (values objects refs).mapIdx fun i s => if i < n ∧ p s = true then f s else s := by
  apply List.ext_getElem?
  intro i
  rw [List.getElem?_mapIdx]
  cases hr : refs[i]? with
  | none => simp [values, hr]
  | some ref =>
    have hfront : ref ∈ refs.take n ↔ i < n := by
      rw [List.mem_take_iff_getElem]
      have hi := List.getElem?_eq_some_iff.mp hr
      obtain ⟨hlt, rfl⟩ := hi
      constructor
      · intro hmem
        obtain ⟨j, hj, heq⟩ := hmem
        obtain rfl := (List.Nodup.getElem_inj_iff hnodup).mp heq
        omega
      · intro hin
        exact ⟨i, by omega, rfl⟩
    rw [getElem?_values hr, getElem?_values hr, h ref (List.mem_of_getElem? hr)]
    simp only [hfront, Option.map_some]

end Assign

end References
