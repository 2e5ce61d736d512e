/-!
# One-place buffers

A buffer with one place between a producer and a consumer, together with its
history: what was put into it and what was taken out, in order.  A put into a
full buffer replaces the value that is in it.

* `step_inOrder`: whatever the two do, the values taken are values that were
  put, in their order, and none of them twice.
* `step_lossless_iff`: no value is lost exactly as long as the producer waits
  for an empty buffer.
-/

/-- A one-place buffer and its history. -/
structure Slot (α : Type) where
  pending : Option α
  produced : List α
  consumed : List α

namespace Slot

variable {α : Type}

inductive Op (α : Type) where
  | put (a : α)
  | take
  | skip

/-- One operation.  A take from an empty buffer takes nothing. -/
def step (b : Slot α) : Op α → Slot α
  | .put a => { pending := some a, produced := b.produced ++ [a], consumed := b.consumed }
  | .take => { b with pending := none, consumed := b.consumed ++ b.pending.toList }
  | .skip => b

/-- The values that reached the consumer or still can. -/
def kept (b : Slot α) : List α := b.consumed ++ b.pending.toList

/-- The values that were kept are among those that were put, in order and
without repetition. -/
def InOrder (b : Slot α) : Prop := b.kept.Sublist b.produced

/-- Every value that was put has been taken or is still there. -/
def Lossless (b : Slot α) : Prop := b.produced = b.kept

/-- The producer waits for an empty buffer. -/
def Waits (b : Slot α) : Op α → Prop
  | .put _ => b.pending = none
  | _ => True

theorem kept_put (b : Slot α) (a : α) : (b.step (.put a)).kept = b.consumed ++ [a] := rfl

/-- A take moves a value from the buffer to the consumer and loses none. -/
theorem kept_take (b : Slot α) : (b.step .take).kept = b.kept := by
  show b.consumed ++ b.pending.toList ++ [] = b.kept
  rw [List.append_nil]
  rfl

theorem step_inOrder {b : Slot α} (h : b.InOrder) (op : Op α) : (b.step op).InOrder := by
  cases op with
  | put a =>
    rw [InOrder, kept_put]
    have hconsumed : b.consumed.Sublist b.produced :=
      (List.sublist_append_left _ _).trans h
    exact hconsumed.append (List.Sublist.refl [a])
  | take =>
    rw [InOrder, kept_take]
    exact h
  | skip => exact h

/-- A step from a state without losses loses a value exactly when it is a put
into a full buffer. -/
theorem step_lossless_iff {b : Slot α} (h : b.Lossless) (op : Op α) :
    (b.step op).Lossless ↔ b.Waits op := by
  cases op with
  | put a =>
    rw [Lossless, kept_put]
    show b.produced ++ [a] = b.consumed ++ [a] ↔ b.pending = none
    rw [List.append_left_inj, h, kept]
    cases b.pending with
    | none => simp
    | some v => simp
  | take =>
    rw [Lossless, kept_take]
    exact ⟨fun _ => trivial, fun _ => h⟩
  | skip => exact ⟨fun _ => trivial, fun _ => h⟩

end Slot
