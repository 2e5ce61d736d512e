import EthercatSim.Lib.Cells

/-!
# Lists of writes

A memory after a list of writes, whose ranges may overlap: a cell holds what the last
write that covers it put there (`get_storeAll`).
-/

/-- A write of `values` to the cells from `off` on. -/
structure CellWrite (α : Type) where
  off : Nat
  values : List α
  deriving DecidableEq, Repr

namespace CellWrite

variable {α : Type}

/-- The write covers the cell at `i`. -/
def Covers (w : CellWrite α) (i : Nat) : Prop := w.off ≤ i ∧ i < w.off + w.values.length

instance (w : CellWrite α) (i : Nat) : Decidable (w.Covers i) :=
  inferInstanceAs (Decidable (_ ∧ _))

variable [Inhabited α]

/-- What the write puts into the cell at `i`. -/
def value (w : CellWrite α) (i : Nat) : α := w.values.getD (i - w.off) default

/-- What the last write that covers the cell at `i` puts there. -/
def lastWritten (ws : List (CellWrite α)) (i : Nat) : Option α :=
  (ws.findRev? fun w => w.Covers i).map (value · i)

/-- The first write counts when no later one covers the cell. -/
theorem lastWritten_cons (w : CellWrite α) (ws : List (CellWrite α)) (i : Nat) :
    lastWritten (w :: ws) i =
      (lastWritten ws i).or (if w.Covers i then some (w.value i) else none) := by
  rw [lastWritten, List.findRev?, lastWritten]
  cases ws.findRev? fun w => w.Covers i with
  | some last => rfl
  | none =>
    by_cases hcovers : w.Covers i
    · rw [if_pos hcovers, if_pos (decide_eq_true hcovers)]
      rfl
    · rw [if_neg hcovers, if_neg (by rw [decide_eq_true_iff]; exact hcovers)]
      rfl

end CellWrite

namespace Cells

variable {α : Type} {n : Nat} [Inhabited α]

/-- The memory after the writes, in order. -/
def storeAll (m : Cells α n) (ws : List (CellWrite α)) : Cells α n :=
  ws.foldl (fun m w => m.store w.off w.values) m

theorem storeAll_append (m : Cells α n) (ws ws' : List (CellWrite α)) :
    m.storeAll (ws ++ ws') = (m.storeAll ws).storeAll ws' :=
  List.foldl_append

theorem get_storeAll (m : Cells α n) (ws : List (CellWrite α)) {i : Nat} (hi : i < n) :
    (m.storeAll ws).get i = (CellWrite.lastWritten ws i).getD (m.get i) := by
  induction ws generalizing m with
  | nil => rfl
  | cons w ws ih =>
    rw [storeAll, List.foldl_cons, ← storeAll, ih, get_store, CellWrite.lastWritten_cons]
    cases CellWrite.lastWritten ws i with
    | some v => rfl
    | none =>
      by_cases hcovers : w.Covers i
      · rw [if_pos ⟨hcovers.1, hcovers.2, hi⟩, if_pos hcovers]
        rfl
      · rw [if_neg (fun hin => hcovers ⟨hin.1, hin.2.1⟩), if_neg hcovers]
        rfl

end Cells
