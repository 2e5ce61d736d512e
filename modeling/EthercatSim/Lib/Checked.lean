import EthercatSim.Lib.Cells
import EthercatSim.Lib.Loop

/-!
# Checked accesses

The accesses of `Bytes` and `Cells` are total: behind the end of a container they read a
default and drop a store.  C++ gives such an access no meaning.  Here each of them is again
a partial function, which is `none` for an index out of range.

The lemma of a checked access says that in range it is the total one.  `loopChecked_eq` says
the same of a loop whose body has no access out of range.
-/

namespace Bytes

variable {α : Type}

/-- The `n` elements of a list from `off` on. -/
def sliceChecked (l : List α) (off n : Nat) : Option (List α) :=
  if off + n ≤ l.length then some ((l.drop off).take n) else none

/-- A copy of `bs` into a list from `off` on. -/
def overwriteChecked (l : List α) (off : Nat) (bs : List α) : Option (List α) :=
  if off + bs.length ≤ l.length then some (overwrite l off bs) else none

/-- The little-endian word at `off`. -/
def wordChecked (l : List UInt8) (off : Nat) : Option UInt16 := do
  let lo ← l[off]?
  let hi ← l[off + 1]?
  some (le16 lo hi)

theorem getElem?_eq_getD {l : List α} {i : Nat} (h : i < l.length) (d : α) :
    l[i]? = some (l.getD i d) := by
  rw [List.getD_eq_getElem?_getD, List.getElem?_eq_getElem h]
  rfl

theorem sliceChecked_eq {l : List α} {off n : Nat} (h : off + n ≤ l.length) :
    sliceChecked l off n = some ((l.drop off).take n) := if_pos h

theorem overwriteChecked_eq {l : List α} {off : Nat} {bs : List α}
    (h : off + bs.length ≤ l.length) : overwriteChecked l off bs = some (overwrite l off bs) :=
  if_pos h

theorem overwriteChecked_eq_none {l : List α} {off : Nat} {bs : List α}
    (h : l.length < off + bs.length) : overwriteChecked l off bs = none :=
  if_neg (Nat.not_le.mpr h)

theorem wordChecked_eq {l : List UInt8} {off : Nat} (h : off + 1 < l.length) :
    wordChecked l off = some (le16 (l.getD off 0) (l.getD (off + 1) 0)) := by
  rw [wordChecked, getElem?_eq_getD (by omega) 0, getElem?_eq_getD h 0]
  rfl

theorem wordChecked_eq_none {l : List UInt8} {off : Nat} (h : l.length ≤ off + 1) :
    wordChecked l off = none := by
  rw [wordChecked, List.getElem?_eq_none h]
  cases l[off]? <;> rfl

end Bytes

namespace Cells

variable {α : Type} {n : Nat}

def setChecked (m : Cells α n) (i : Nat) (v : α) : Option (Cells α n) :=
  if i < n then some (m.set i v) else none

theorem setChecked_eq (m : Cells α n) {i : Nat} (h : i < n) (v : α) :
    m.setChecked i v = some (m.set i v) := if_pos h

variable [Inhabited α]

def getChecked (m : Cells α n) (i : Nat) : Option α := if i < n then some (m.get i) else none

def loadChecked (m : Cells α n) (off len : Nat) : Option (List α) :=
  if off + len ≤ n then some (m.load off len) else none

def storeChecked (m : Cells α n) (off : Nat) (vs : List α) : Option (Cells α n) :=
  if off + vs.length ≤ n then some (m.store off vs) else none

def wordChecked (m : Cells UInt8 n) (off : Nat) : Option UInt16 := do
  let lo ← m.getChecked off
  let hi ← m.getChecked (off + 1)
  some (Bytes.le16 lo hi)

def setWordChecked (m : Cells UInt8 n) (off : Nat) (w : UInt16) : Option (Cells UInt8 n) := do
  let m ← m.setChecked off (Bytes.loByte w)
  m.setChecked (off + 1) (Bytes.hiByte w)

theorem getChecked_eq (m : Cells α n) {i : Nat} (h : i < n) : m.getChecked i = some (m.get i) :=
  if_pos h

theorem loadChecked_eq (m : Cells α n) {off len : Nat} (h : off + len ≤ n) :
    m.loadChecked off len = some (m.load off len) := if_pos h

theorem storeChecked_eq (m : Cells α n) {off : Nat} {vs : List α} (h : off + vs.length ≤ n) :
    m.storeChecked off vs = some (m.store off vs) := if_pos h

theorem wordChecked_eq (m : Cells UInt8 n) {off : Nat} (h : off + 1 < n) :
    m.wordChecked off = some (m.word off) := by
  rw [wordChecked, m.getChecked_eq (by omega), m.getChecked_eq h]
  rfl

theorem setWordChecked_eq (m : Cells UInt8 n) {off : Nat} (h : off + 1 < n) (w : UInt16) :
    m.setWordChecked off w = some (m.setWord off w) := by
  rw [setWordChecked, m.setChecked_eq (by omega)]
  exact setChecked_eq _ h _

end Cells

namespace FuelLoop

variable {S R : Type}

/-- `loop` with a body that may have no result. -/
def loopChecked (body : S → Option (S × Option R)) : Nat → S → Option (S × R)
  | 0, _ => none
  | fuel + 1, s => do
    match ← body s with
    | (s', some r) => some (s', r)
    | (s', none) => loopChecked body fuel s'

theorem loopChecked_eq {body : S → S × Option R} {bodyChecked : S → Option (S × Option R)}
    (h : ∀ s, bodyChecked s = some (body s)) (fuel : Nat) (s : S) :
    loopChecked bodyChecked fuel s = loop body fuel s := by
  induction fuel generalizing s with
  | zero => rfl
  | succ fuel ih =>
    rw [loopChecked, h s]
    rcases hb : body s with ⟨s', _ | r⟩
    · rw [loop_next hb, ← ih s']
      rfl
    · rw [loop_exit hb]
      rfl

end FuelLoop
