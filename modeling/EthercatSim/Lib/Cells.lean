import EthercatSim.Lib.Bytes

/-!
# Memories of a fixed size

`Cells α n` is a memory of `n` cells.  The size is in the type, so every value
of it is well formed: no operation can grow or shrink it, and a store behind
its end changes nothing.

The lemmas say what a cell holds after a store (`get_set`, `get_store`), what a
load of a range sees (`load_congr`, `load_store`), and then the same for whole
words of a byte memory (`word_setWord`, `word_store`).
-/

/-- A memory of `n` cells. -/
structure Cells (α : Type) (n : Nat) where
  cell : Fin n → α

namespace Cells

variable {α : Type} {n : Nat}

/-- The memory with `v` in every cell. -/
def fill (v : α) : Cells α n := ⟨fun _ => v⟩

/-- The cell at `i`, or the default value behind the end. -/
def get [Inhabited α] (m : Cells α n) (i : Nat) : α :=
  if h : i < n then m.cell ⟨i, h⟩ else default

/-- Put `v` into the cell at `i`. -/
def set (m : Cells α n) (i : Nat) (v : α) : Cells α n :=
  ⟨fun j => if j.val = i then v else m.cell j⟩

/-- Copy the list `vs` into the cells from `off` on. -/
def store [Inhabited α] (m : Cells α n) (off : Nat) (vs : List α) : Cells α n :=
  ⟨fun j => if off ≤ j.val ∧ j.val < off + vs.length then vs.getD (j.val - off) default
    else m.cell j⟩

/-- The `len` cells from `off` on. -/
def load [Inhabited α] (m : Cells α n) (off len : Nat) : List α :=
  (List.range len).map fun i => m.get (off + i)

variable [Inhabited α]

@[simp] theorem get_fill (v : α) (i : Nat) :
    (fill v : Cells α n).get i = if i < n then v else default := by
  simp [fill, get]

theorem get_set (m : Cells α n) (i j : Nat) (v : α) :
    (m.set i v).get j = if j = i ∧ i < n then v else m.get j := by
  by_cases hj : j < n
  · by_cases hji : j = i
    · subst hji
      simp [get, set, hj]
    · simp [get, set, hj, hji]
  · have : ¬(j = i ∧ i < n) := by omega
    simp [get, hj, this]

theorem get_store (m : Cells α n) (off : Nat) (vs : List α) (j : Nat) :
    (m.store off vs).get j =
      if off ≤ j ∧ j < off + vs.length ∧ j < n then vs.getD (j - off) default else m.get j := by
  by_cases hj : j < n
  · simp [get, store, hj]
  · simp [get, hj]

/-- A store leaves the cells outside its range alone. -/
theorem get_store_of_disjoint (m : Cells α n) {off : Nat} {vs : List α} {j : Nat}
    (h : j < off ∨ off + vs.length ≤ j) : (m.store off vs).get j = m.get j := by
  rw [get_store, if_neg (by omega)]

/-- A store leaves some cells as they are exactly when it puts into those of its
range what they hold.  What comes after the store may change other cells. -/
theorem store_keeps_iff {m m' : Cells α n} {off : Nat} {vs : List α} {cells : List Nat}
    (hcells : ∀ i ∈ cells, i < n) (hstored : ∀ i ∈ cells, m'.get i = (m.store off vs).get i) :
    (∀ i ∈ cells, m'.get i = m.get i) ↔
      ∀ i ∈ cells, off ≤ i → i < off + vs.length → vs.getD (i - off) default = m.get i := by
  constructor
  · intro hkeep i hi hlo hhi
    have hi' := (hstored i hi).symm.trans (hkeep i hi)
    rw [get_store, if_pos ⟨hlo, hhi, hcells i hi⟩] at hi'
    exact hi'
  · intro hkeep i hi
    rw [hstored i hi, get_store]
    split
    · rename_i hin
      exact hkeep i hi hin.1 hin.2.1
    · rfl

@[simp] theorem load_length (m : Cells α n) (off len : Nat) : (m.load off len).length = len := by
  simp [load]

theorem getElem?_load (m : Cells α n) (off len i : Nat) :
    (m.load off len)[i]? = if i < len then some (m.get (off + i)) else none := by
  by_cases h : i < len
  · simp [load, h]
  · simp [load, h]

theorem load_succ (m : Cells α n) (off len : Nat) :
    m.load off (len + 1) = m.get off :: m.load (off + 1) len := by
  simp [load, List.range_succ_eq_map, Nat.add_assoc, Nat.add_comm 1]

theorem getD_load (m : Cells α n) {off len i : Nat} (h : i < len) (d : α) :
    (m.load off len).getD i d = m.get (off + i) := by
  rw [List.getD_eq_getElem?_getD, getElem?_load, if_pos h]
  rfl

/-- A load sees the cells of its range only. -/
theorem load_congr {m m' : Cells α n} {off len : Nat}
    (h : ∀ j, off ≤ j → j < off + len → m'.get j = m.get j) : m'.load off len = m.load off len := by
  apply List.map_congr_left
  intro i hi
  rw [List.mem_range] at hi
  exact h _ (by omega) (by omega)

/-- A load of a range that was stored returns what was stored. -/
theorem load_store (m : Cells α n) {off : Nat} {vs : List α} (h : off + vs.length ≤ n) :
    (m.store off vs).load off vs.length = vs := by
  apply List.ext_getElem?
  intro i
  rw [getElem?_load]
  by_cases hi : i < vs.length
  · have hin : off ≤ off + i ∧ off + i < off + vs.length ∧ off + i < n := by omega
    rw [if_pos hi, get_store, if_pos hin]
    simp [hi]
  · simp [hi]

theorem ext_get {m m' : Cells α n} (h : ∀ i < n, m.get i = m'.get i) : m = m' := by
  obtain ⟨cell⟩ := m
  obtain ⟨cell'⟩ := m'
  congr 1
  funext i
  have hi := h i.val i.isLt
  rw [get, get, dif_pos i.isLt, dif_pos i.isLt] at hi
  exact hi

theorem store_nil (m : Cells α n) (off : Nat) : m.store off [] = m := by
  apply ext_get
  intro i _
  rw [get_store, if_neg (by rw [List.length_nil]; omega)]

/-- A store cell by cell. -/
theorem store_cons (m : Cells α n) (off : Nat) (v : α) (vs : List α) :
    m.store off (v :: vs) = (m.set off v).store (off + 1) vs := by
  apply ext_get
  intro i hi
  rw [get_store, get_store, get_set, List.length_cons]
  by_cases hfirst : i = off
  · subst hfirst
    rw [if_pos (by omega), if_neg (by omega), if_pos ⟨rfl, hi⟩, Nat.sub_self]
    rfl
  · have hrange : off ≤ i ∧ i < off + (vs.length + 1) ∧ i < n ↔
        off + 1 ≤ i ∧ i < off + 1 + vs.length ∧ i < n := by omega
    rw [if_neg (fun hc : i = off ∧ off < n => hfirst hc.1)]
    simp only [hrange]
    split
    · rename_i hin
      have hsub : i - off = i - (off + 1) + 1 := by omega
      rw [hsub]
      rfl
    · rfl

@[simp] theorem set_fill (v : α) (i : Nat) : (fill v : Cells α n).set i v = fill v := by
  apply ext_get
  intro j hj
  rw [get_set, get_fill, if_pos hj, ite_self]

/-- Behind the end there is no cell to set. -/
theorem set_of_le (m : Cells α n) {i : Nat} (h : n ≤ i) (v : α) : m.set i v = m := by
  apply ext_get
  intro j hj
  rw [get_set, if_neg (by omega)]

/-! ## Words in a byte memory -/

/-- The little-endian word at `off`. -/
def word (m : Cells UInt8 n) (off : Nat) : UInt16 := Bytes.le16 (m.get off) (m.get (off + 1))

/-- Put the two bytes of `w` at `off`. -/
def setWord (m : Cells UInt8 n) (off : Nat) (w : UInt16) : Cells UInt8 n :=
  (m.set off (Bytes.loByte w)).set (off + 1) (Bytes.hiByte w)

theorem get_setWord (m : Cells UInt8 n) (off : Nat) (w : UInt16) (j : Nat) :
    (m.setWord off w).get j =
      if j = off + 1 ∧ off + 1 < n then Bytes.hiByte w
      else if j = off ∧ off < n then Bytes.loByte w else m.get j := by
  simp only [setWord, get_set]

/-- A word that was stored is read back. -/
theorem word_setWord (m : Cells UInt8 n) {off : Nat} (w : UInt16) (h : off + 1 < n) :
    (m.setWord off w).word off = w := by
  have hoff : off < n := by omega
  simp [word, get_setWord, h, hoff]

/-- A word inside a range that was stored is a word of what was stored. -/
theorem word_store (m : Cells UInt8 n) {base off : Nat} {vs : List UInt8}
    (hoff : off + 2 ≤ vs.length) (hn : base + off + 2 ≤ n) :
    (m.store base vs).word (base + off) = Bytes.le16 (vs.getD off 0) (vs.getD (off + 1) 0) := by
  have hlo : base ≤ base + off ∧ base + off < base + vs.length ∧ base + off < n := by omega
  have hhi : base ≤ base + off + 1 ∧ base + off + 1 < base + vs.length ∧ base + off + 1 < n := by
    omega
  have hsub : base + off + 1 - base = off + 1 := by omega
  rw [word, get_store, get_store, if_pos hlo, if_pos hhi, Nat.add_sub_cancel_left, hsub]
  rfl

/-- A word is unchanged exactly when both of its bytes are. -/
theorem word_eq_iff (m m' : Cells UInt8 n) (off : Nat) :
    m.word off = m'.word off ↔ m.get off = m'.get off ∧ m.get (off + 1) = m'.get (off + 1) := by
  rw [word, Bytes.le16_eq_iff, word]
  simp

end Cells
