import Mathlib.Data.List.TakeWhile

/-!
# Decimal numbers in byte strings

`stoi` is `std::stoi` of the C++ standard for base ten, on the bytes of the string:
blanks, a sign, then digits up to the first other byte.  It throws, here `none`, without
a digit and when the value is no `int`.

* `stoi_eq_some_iff` says which strings have which value.
* `stoi_digits`: a string of digits has its own value.
-/

namespace Decimal

/-- `isspace` in the C locale. -/
def isSpace (b : UInt8) : Bool := b = 0x20 || (0x09 ≤ b && b ≤ 0x0D)

def isDigit (b : UInt8) : Bool := 0x30 ≤ b && b ≤ 0x39

abbrev PLUS : UInt8 := 0x2B
abbrev MINUS : UInt8 := 0x2D

/-- The value of a string of digits. -/
def decimalValue (ds : List UInt8) : Nat := ds.foldl (fun v d => 10 * v + (d.toNat - 0x30)) 0

/-- A sign and what is behind it.  Without a sign the factor is 1. -/
def splitSign : List UInt8 → Int × List UInt8
  | [] => (1, [])
  | b :: s => if b = PLUS then (1, s) else if b = MINUS then (-1, s) else (1, b :: s)

/-- The range of a 32-bit `int`. -/
def IsInt (v : Int) : Prop := -0x80000000 ≤ v ∧ v < 0x80000000

instance (v : Int) : Decidable (IsInt v) := inferInstanceAs (Decidable (_ ∧ _))

/-- `std::stoi` -/
def stoi (s : List UInt8) : Option Int :=
  let (factor, s) := splitSign (s.dropWhile isSpace)
  let ds := s.takeWhile isDigit
  if ds = [] then none
  else if IsInt (factor * decimalValue ds) then some (factor * decimalValue ds)
  else none

/-! ## Splitting a list where a property ends -/

section Split

variable {α : Type} {p : α → Bool} {xs ys : List α}

theorem takeWhile_append_of_stop (hxs : ∀ x ∈ xs, p x = true)
    (hys : ∀ y ∈ ys.head?, p y = false) : (xs ++ ys).takeWhile p = xs := by
  rw [List.takeWhile_append_of_pos hxs]
  cases ys with
  | nil => simp
  | cons y ys =>
    have hy : p y = false := hys y rfl
    simp [hy]

theorem dropWhile_append_of_stop (hxs : ∀ x ∈ xs, p x = true)
    (hys : ∀ y ∈ ys.head?, p y = false) : (xs ++ ys).dropWhile p = ys := by
  rw [List.dropWhile_append_of_pos hxs]
  cases ys with
  | nil => rfl
  | cons y ys =>
    have hy : p y = false := hys y rfl
    simp [hy]

theorem head?_dropWhile_eq_false (l : List α) : ∀ y ∈ (l.dropWhile p).head?, p y = false := by
  intro y hy
  have hstop := List.head?_dropWhile_not p l
  rw [Option.mem_def.mp hy] at hstop
  exact hstop

end Split

/-! ## What `stoi` accepts -/

/-- A sign, which may be missing, and its factor. -/
def IsSign (sign : List UInt8) (factor : Int) : Prop :=
  (sign = [] ∧ factor = 1) ∨ (sign = [PLUS] ∧ factor = 1) ∨ (sign = [MINUS] ∧ factor = -1)

/-- Blanks, a sign and digits with the value `v`, and behind them no other digit. -/
def Reads (s : List UInt8) (v : Int) : Prop :=
  ∃ blanks sign digits rest factor, s = blanks ++ (sign ++ (digits ++ rest)) ∧
    (∀ b ∈ blanks, isSpace b = true) ∧ IsSign sign factor ∧ digits ≠ [] ∧
    (∀ b ∈ digits, isDigit b = true) ∧ (∀ b ∈ rest.head?, isDigit b = false) ∧
    v = factor * decimalValue digits

theorem isSpace_eq_false_of_isDigit {b : UInt8} (h : isDigit b = true) : isSpace b = false := by
  simp only [isDigit, Bool.and_eq_true, decide_eq_true_eq, UInt8.le_iff_toNat_le] at h
  simp only [isSpace, Bool.or_eq_false_iff, decide_eq_false_iff_not, ← UInt8.toNat_inj,
    Bool.and_eq_false_iff, UInt8.le_iff_toNat_le]
  simp at h ⊢
  omega

theorem ne_of_isDigit {b : UInt8} (h : isDigit b = true) : b ≠ PLUS ∧ b ≠ MINUS := by
  constructor
  · intro hb
    rw [hb] at h
    exact absurd h (by decide)
  · intro hb
    rw [hb] at h
    exact absurd h (by decide)

/-- A sign in front of something that starts with no sign. -/
theorem splitSign_append {sign : List UInt8} {factor : Int} (h : IsSign sign factor)
    {s : List UInt8} (hs : ∀ b ∈ s.head?, b ≠ PLUS ∧ b ≠ MINUS) :
    splitSign (sign ++ s) = (factor, s) := by
  rcases h with ⟨rfl, rfl⟩ | ⟨rfl, rfl⟩ | ⟨rfl, rfl⟩
  · cases s with
    | nil => rfl
    | cons b s =>
      obtain ⟨hplus, hminus⟩ := hs b rfl
      show (if b = PLUS then _ else if b = MINUS then _ else _) = _
      rw [if_neg hplus, if_neg hminus]
  · rfl
  · rfl

/-- What `splitSign` takes off is a sign. -/
theorem splitSign_isSign (s : List UInt8) :
    ∃ sign, IsSign sign (splitSign s).1 ∧ s = sign ++ (splitSign s).2 := by
  cases s with
  | nil => exact ⟨[], .inl ⟨rfl, rfl⟩, rfl⟩
  | cons b s =>
    rw [splitSign]
    split
    · rename_i hb
      exact ⟨[PLUS], .inr (.inl ⟨rfl, rfl⟩), by rw [hb]; rfl⟩
    · split
      · rename_i hb
        exact ⟨[MINUS], .inr (.inr ⟨rfl, rfl⟩), by rw [hb]; rfl⟩
      · exact ⟨[], .inl ⟨rfl, rfl⟩, rfl⟩

/-- The strings that have the value `v`. -/
theorem stoi_eq_some_iff {s : List UInt8} {v : Int} : stoi s = some v ↔ Reads s v ∧ IsInt v := by
  constructor
  · intro h
    obtain ⟨sign, hsign, hsplit⟩ := splitSign_isSign (s.dropWhile isSpace)
    rw [stoi] at h
    generalize splitSign (s.dropWhile isSpace) = out at h hsign hsplit
    obtain ⟨factor, rest⟩ := out
    dsimp only at h hsign hsplit
    split at h
    · cases h
    · rename_i hdigits
      split at h
      · rename_i hint
        obtain rfl := Option.some.inj h
        refine ⟨⟨s.takeWhile isSpace, sign, rest.takeWhile isDigit, rest.dropWhile isDigit, factor,
          ?_, fun b hb => List.mem_takeWhile_imp hb, hsign, hdigits,
          fun b hb => List.mem_takeWhile_imp hb, head?_dropWhile_eq_false rest, rfl⟩, hint⟩
        rw [List.takeWhile_append_dropWhile, ← hsplit, List.takeWhile_append_dropWhile]
      · cases h
  · intro h
    obtain ⟨⟨blanks, sign, digits, rest, factor, rfl, hblanks, hsign, hne, hdigits, hrest, rfl⟩,
      hint⟩ := h
    obtain ⟨d, ds, rfl⟩ := List.exists_cons_of_ne_nil hne
    have hd := hdigits d List.mem_cons_self
    have hhead : ∀ b ∈ (d :: ds ++ rest).head?, b ≠ PLUS ∧ b ≠ MINUS := by
      intro b hb
      obtain rfl : d = b := Option.some.inj hb
      exact ne_of_isDigit hd
    have hstop : ∀ b ∈ (sign ++ (d :: ds ++ rest)).head?, isSpace b = false := by
      intro b hb
      rcases hsign with ⟨rfl, -⟩ | ⟨rfl, -⟩ | ⟨rfl, -⟩
      · obtain rfl : d = b := Option.some.inj hb
        exact isSpace_eq_false_of_isDigit hd
      · obtain rfl : PLUS = b := Option.some.inj hb
        rfl
      · obtain rfl : MINUS = b := Option.some.inj hb
        rfl
    rw [stoi, dropWhile_append_of_stop hblanks hstop, splitSign_append hsign hhead]
    dsimp only
    rw [takeWhile_append_of_stop hdigits hrest, if_neg hne, if_pos hint]

/-- A string of digits. -/
theorem stoi_digits {ds : List UInt8} (hne : ds ≠ []) (hdigits : ∀ b ∈ ds, isDigit b = true)
    (hint : IsInt (decimalValue ds)) : stoi ds = some (decimalValue ds : Int) := by
  refine stoi_eq_some_iff.mpr ⟨⟨[], [], ds, [], 1, ?_, ?_, .inl ⟨rfl, rfl⟩, hne, hdigits, ?_, ?_⟩,
    hint⟩
  · simp
  · simp
  · simp
  · rw [Int.one_mul]

end Decimal
