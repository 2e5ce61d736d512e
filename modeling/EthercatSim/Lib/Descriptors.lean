import Mathlib.Data.List.Basic

/-!
# Descriptors

A program opens, uses and closes descriptors.  The log of what it did is replayed on the
table of the open ones.

* `replay`: there is no table behind a log that opens a descriptor twice, or uses or closes
  one that is not open.
* `replay_push`: a log that grows is replayed from where it was.
* `replay_opened`, `replay_used` and `replay_closed`: the first use of a log.
-/

namespace Descriptors

variable {D : Type}

/-- What a program does with a descriptor. -/
inductive Use (D : Type) where
  | opened (d : D)
  | used (d : D)
  | closed (d : D)
  deriving DecidableEq, Repr

variable [DecidableEq D]

/-- The table of the open descriptors behind one use. -/
def Use.apply (table : List D) : Use D → Option (List D)
  | .opened d => if d ∈ table then none else some (d :: table)
  | .used d => if d ∈ table then some table else none
  | .closed d => if d ∈ table then some (table.erase d) else none

/-- The table behind a log. -/
def replay (table : List D) (log : List (Use D)) : Option (List D) := log.foldlM Use.apply table

variable {table table' : List D} {d : D}

@[simp] theorem replay_nil (table : List D) : replay table [] = some table := rfl

theorem replay_cons (table : List D) (u : Use D) (log : List (Use D)) :
    replay table (u :: log) = (u.apply table).bind (replay · log) := by
  rw [replay, List.foldlM_cons]
  rfl

/-- What is done behind a log is done on its table. -/
theorem replay_push {log : List (Use D)} (h : replay table log = some table')
    (more : List (Use D)) : replay table (log ++ more) = replay table' more := by
  rw [replay, List.foldlM_append]
  exact congrArg (Option.bind · (replay · more)) h

theorem replay_opened (h : d ∉ table) (log : List (Use D)) :
    replay table (.opened d :: log) = replay (d :: table) log := by
  rw [replay_cons, Use.apply, if_neg h]
  rfl

theorem replay_used (h : d ∈ table) (log : List (Use D)) :
    replay table (.used d :: log) = replay table log := by
  rw [replay_cons, Use.apply, if_pos h]
  rfl

theorem replay_closed (h : d ∈ table) (log : List (Use D)) :
    replay table (.closed d :: log) = replay (table.erase d) log := by
  rw [replay_cons, Use.apply, if_pos h]
  rfl

end Descriptors
