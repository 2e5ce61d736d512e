/-!
# Little-endian words and copies into a byte list

* `le16` and `le32` join the parts of a word, `loByte`, `hiByte`, `loWord` and
  `hiWord` take it apart.  The round trips are proved on `toNat`, so nothing
  here rests on bit-blasting.
* `bitOf` is a bit of a number, and `testBit_foldl_or` the loop that sets bits.
* `overwrite` is a copy into a list that keeps the length of the list.
-/

/-! ## Words and their bytes -/

namespace Bytes

/-- The low byte of a 16-bit word. -/
def loByte (w : UInt16) : UInt8 := w.toUInt8

/-- The high byte of a 16-bit word. -/
def hiByte (w : UInt16) : UInt8 := (w >>> 8).toUInt8

/-- The 16-bit word with the low byte `lo` and the high byte `hi`. -/
def le16 (lo hi : UInt8) : UInt16 := lo.toUInt16 ||| (hi.toUInt16 <<< 8)

/-- The low half of a 32-bit word. -/
def loWord (v : UInt32) : UInt16 := v.toUInt16

/-- The high half of a 32-bit word. -/
def hiWord (v : UInt32) : UInt16 := (v >>> 16).toUInt16

/-- The 32-bit word with the low half `lo` and the high half `hi`. -/
def le32 (lo hi : UInt16) : UInt32 := lo.toUInt32 ||| (hi.toUInt32 <<< 16)

/-- The four little-endian bytes of a 32-bit word. -/
def bytes32 (v : UInt32) : List UInt8 :=
  [loByte (loWord v), hiByte (loWord v), loByte (hiWord v), hiByte (hiWord v)]

theorem loByte_toNat (w : UInt16) : (loByte w).toNat = w.toNat % 256 := by
  simp [loByte]

theorem hiByte_toNat (w : UInt16) : (hiByte w).toNat = w.toNat / 256 := by
  have hw := w.toNat_lt
  simp [hiByte, Nat.shiftRight_eq_div_pow]
  omega

theorem le16_toNat (lo hi : UInt8) : (le16 lo hi).toNat = lo.toNat + 256 * hi.toNat := by
  have hlo := lo.toNat_lt
  have hhi := hi.toNat_lt
  have hshift : (hi.toUInt16 <<< 8).toNat = hi.toNat <<< 8 := by
    simp [Nat.shiftLeft_eq]
    omega
  rw [le16, UInt16.toNat_or, hshift, UInt8.toNat_toUInt16, Nat.or_comm,
    ← Nat.shiftLeft_add_eq_or_of_lt hlo, Nat.shiftLeft_eq]
  omega

@[simp] theorem loByte_le16 (lo hi : UInt8) : loByte (le16 lo hi) = lo := by
  apply UInt8.toNat_inj.mp
  have hlo := lo.toNat_lt
  rw [loByte_toNat, le16_toNat]
  omega

@[simp] theorem hiByte_le16 (lo hi : UInt8) : hiByte (le16 lo hi) = hi := by
  apply UInt8.toNat_inj.mp
  have hlo := lo.toNat_lt
  rw [hiByte_toNat, le16_toNat]
  omega

@[simp] theorem le16_loByte_hiByte (w : UInt16) : le16 (loByte w) (hiByte w) = w := by
  apply UInt16.toNat_inj.mp
  rw [le16_toNat, loByte_toNat, hiByte_toNat]
  omega

/-- A word is determined by its two bytes, and determines them. -/
theorem le16_eq_iff (lo hi : UInt8) (w : UInt16) :
    le16 lo hi = w ↔ lo = loByte w ∧ hi = hiByte w := by
  constructor
  · intro heq
    subst heq
    simp
  · intro hcase
    obtain ⟨rfl, rfl⟩ := hcase
    simp

theorem loWord_toNat (v : UInt32) : (loWord v).toNat = v.toNat % 65536 := by
  simp [loWord]

theorem hiWord_toNat (v : UInt32) : (hiWord v).toNat = v.toNat / 65536 := by
  have hv := v.toNat_lt
  simp [hiWord, Nat.shiftRight_eq_div_pow]
  omega

theorem le32_toNat (lo hi : UInt16) : (le32 lo hi).toNat = lo.toNat + 65536 * hi.toNat := by
  have hlo := lo.toNat_lt
  have hhi := hi.toNat_lt
  have hshift : (hi.toUInt32 <<< 16).toNat = hi.toNat <<< 16 := by
    simp [Nat.shiftLeft_eq]
    omega
  rw [le32, UInt32.toNat_or, hshift, UInt16.toNat_toUInt32, Nat.or_comm,
    ← Nat.shiftLeft_add_eq_or_of_lt hlo, Nat.shiftLeft_eq]
  omega

@[simp] theorem loWord_le32 (lo hi : UInt16) : loWord (le32 lo hi) = lo := by
  apply UInt16.toNat_inj.mp
  have hlo := lo.toNat_lt
  rw [loWord_toNat, le32_toNat]
  omega

@[simp] theorem hiWord_le32 (lo hi : UInt16) : hiWord (le32 lo hi) = hi := by
  apply UInt16.toNat_inj.mp
  have hlo := lo.toNat_lt
  rw [hiWord_toNat, le32_toNat]
  omega

@[simp] theorem le32_loWord_hiWord (v : UInt32) : le32 (loWord v) (hiWord v) = v := by
  apply UInt32.toNat_inj.mp
  rw [le32_toNat, loWord_toNat, hiWord_toNat]
  omega

/-! ## The bits of a word -/

/-- Bit `i` of `v`, as a number. -/
def bitOf (v : Nat) (i : Nat) : UInt32 := if v.testBit i then 1 else 0

/-- Set bit `n` of a word when `on` holds. -/
theorem testBit_or_bit (raw : UInt32) (on : Bool) {n : Nat} (hn : n < 32) (j : Nat) :
    (raw ||| (if on then (1 : UInt32) <<< n.toUInt32 else 0)).toNat.testBit j =
      (raw.toNat.testBit j || (decide (j = n) && on)) := by
  have hbit : (if on then (1 : UInt32) <<< n.toUInt32 else 0).toNat = if on then 2 ^ n else 0 := by
    have hlt : 2 ^ n < 2 ^ 32 := Nat.pow_lt_pow_right (by decide) (by omega)
    split
    · have hword : n.toUInt32.toNat = n := UInt32.toNat_ofNat_of_lt' (by show n < 2 ^ 32; omega)
      show 1 <<< (n.toUInt32.toNat % 32) % 2 ^ 32 = 2 ^ n
      rw [hword, Nat.mod_eq_of_lt hn, Nat.shiftLeft_eq, Nat.one_mul, Nat.mod_eq_of_lt hlt]
    · rfl
  rw [UInt32.toNat_or, Nat.testBit_or, hbit]
  by_cases hj : j = n
  · subst hj
    cases on <;> simp [Nat.testBit_two_pow_self]
  · cases on <;> simp [hj, Nat.testBit_two_pow_of_ne (Ne.symm hj)]

/-- A loop that sets bit `i` of a word when `f i` holds. -/
theorem testBit_foldl_or (f : Nat → Bool) {n : Nat} (hn : n ≤ 32) (j : Nat) :
    ((List.range n).foldl
      (fun raw i => raw ||| (if f i then (1 : UInt32) <<< i.toUInt32 else 0)) 0).toNat.testBit j =
        (decide (j < n) && f j) := by
  induction n with
  | zero => simp
  | succ n ih =>
    rw [List.range_succ, List.foldl_append, List.foldl_cons, List.foldl_nil,
      testBit_or_bit _ _ (by omega), ih (by omega)]
    by_cases hj : j = n
    · subst hj
      simp
    · have hiff : j < n + 1 ↔ j < n := by omega
      simp [hj, hiff]

/-! ## Copies into a list -/

variable {α : Type}

/-- Copy `bs` into `l` from the index `off` on.  The length of `l` does not
change: an element that would fall behind the end is dropped. -/
def overwrite (l : List α) (off : Nat) (bs : List α) : List α :=
  l.take off ++ bs.take (l.length - off) ++ l.drop (off + bs.length)

@[simp] theorem length_overwrite (l : List α) (off : Nat) (bs : List α) :
    (overwrite l off bs).length = l.length := by
  simp only [overwrite, List.length_append, List.length_take, List.length_drop]
  omega

theorem getD_overwrite (l : List α) (off : Nat) (bs : List α) (i : Nat) (d : α) :
    (overwrite l off bs).getD i d =
      if off ≤ i ∧ i < off + bs.length ∧ i < l.length then bs.getD (i - off) d
      else l.getD i d := by
  simp only [List.getD_eq_getElem?_getD]
  rcases Nat.lt_or_ge i l.length with hi | hi
  · have hlen : (l.take off).length = min off l.length := List.length_take
    rw [overwrite, List.append_assoc]
    rcases Nat.lt_or_ge i off with hlt | hge
    · rw [List.getElem?_append_left (by omega), List.getElem?_take_of_lt hlt,
        if_neg (by omega)]
    · have hbs : (bs.take (l.length - off)).length = min (l.length - off) bs.length :=
        List.length_take
      rw [List.getElem?_append_right (by omega), hlen, Nat.min_eq_left (by omega)]
      rcases Nat.lt_or_ge i (off + bs.length) with hin | hout
      · rw [List.getElem?_append_left (by omega), List.getElem?_take_of_lt (by omega),
          if_pos ⟨hge, hin, hi⟩]
      · have hidx : off + bs.length + (i - off - (bs.take (l.length - off)).length) = i := by
          omega
        rw [List.getElem?_append_right (by omega), List.getElem?_drop, hidx,
          if_neg (by omega)]
  · have hnone : (overwrite l off bs)[i]? = none := by
      rw [List.getElem?_eq_none_iff, length_overwrite]
      exact hi
    rw [hnone, List.getElem?_eq_none hi, if_neg (by omega)]

/-- Lists of one length are equal when they have the same elements in range. -/
theorem ext_getD {l l' : List α} (d : α) (hlength : l.length = l'.length)
    (h : ∀ i < l.length, l.getD i d = l'.getD i d) : l = l' := by
  apply List.ext_getElem hlength
  intro i hi hi'
  have hget := h i hi
  rwa [List.getD_eq_getElem?_getD, List.getD_eq_getElem?_getD, List.getElem?_eq_getElem hi,
    List.getElem?_eq_getElem hi'] at hget

/-- A copy to the start of a constant list leaves the constant behind it. -/
theorem overwrite_replicate {bs : List α} {n : Nat} (h : bs.length ≤ n) (a : α) :
    overwrite (List.replicate n a) 0 bs = bs ++ List.replicate (n - bs.length) a := by
  have htake : bs.take n = bs := List.take_of_length_le h
  rw [overwrite, List.take_zero, List.length_replicate, Nat.sub_zero, Nat.zero_add,
    List.drop_replicate, htake, List.nil_append]

/-- A copy over the whole list replaces it. -/
theorem overwrite_eq_of_length {l bs : List α} (h : bs.length = l.length) :
    overwrite l 0 bs = bs := by
  have htake : bs.take l.length = bs := List.take_of_length_le (Nat.le_of_eq h)
  have hdrop : l.drop bs.length = [] := List.drop_of_length_le (Nat.le_of_eq h.symm)
  rw [overwrite, List.take_zero, Nat.sub_zero, Nat.zero_add, htake, hdrop]
  simp

end Bytes
