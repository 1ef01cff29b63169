/-
# Queues that count what is unfinished

A bounded first-in first-out queue whose consumers acknowledge what they have taken.  The count
of unfinished items goes up with every item put, and down with every acknowledgement; one
acknowledgement more than there were items is refused.  Taking an item does not change the count,
so the items that are taken and not acknowledged are what `Balanced` keeps track of.
-/

import Mathlib.Algebra.Order.Ring.Nat

namespace CameraStack.Lib

universe u

/-- A queue and the number of its unfinished items. -/
structure TaskQueue (α : Type u) where
  items : List α := []
  unfinished : ℕ := 0

namespace TaskQueue

variable {α : Type u} {q q' : TaskQueue α} {a : α} {bound held : ℕ}

/-- The queue has reached its bound; a bound of zero is none. -/
def full (bound : ℕ) (q : TaskQueue α) : Bool := decide (0 < bound ∧ bound ≤ q.items.length)

/-- Put an item at the end, unless the queue is full. -/
def putNowait (bound : ℕ) (a : α) (q : TaskQueue α) : Option (TaskQueue α) :=
  if q.full bound then none
  else some { items := q.items ++ [a], unfinished := q.unfinished + 1 }

/-- Take the first item. -/
def getNowait (q : TaskQueue α) : Option (α × TaskQueue α) :=
  match q.items with
  | [] => none
  | a :: items => some (a, { q with items := items })

/-- Acknowledge one item. -/
def taskDone (q : TaskQueue α) : Option (TaskQueue α) :=
  match q.unfinished with
  | 0 => none
  | n + 1 => some { q with unfinished := n }

/-- What is unfinished is in the queue, or one of the `held` items that were taken. -/
def Balanced (held : ℕ) (q : TaskQueue α) : Prop := q.unfinished = q.items.length + held

theorem balanced_empty : Balanced 0 ({} : TaskQueue α) := rfl

theorem putNowait_eq_some : q.putNowait bound a = some q' ↔
    q.full bound = false ∧ q' = { items := q.items ++ [a], unfinished := q.unfinished + 1 } := by
  rw [putNowait]
  cases q.full bound with
  | true => simp
  | false => simp [eq_comm]

theorem getNowait_eq_some : q.getNowait = some (a, q') ↔
    q.items = a :: q'.items ∧ q'.unfinished = q.unfinished := by
  obtain ⟨items, unfinished⟩ := q
  obtain ⟨items', unfinished'⟩ := q'
  cases items with
  | nil => simp [getNowait]
  | cons b items => simp [getNowait, and_assoc, eq_comm]

theorem Balanced.put (h : Balanced held q) (hput : q.putNowait bound a = some q') :
    Balanced held q' := by
  obtain ⟨-, rfl⟩ := putNowait_eq_some.mp hput
  rw [Balanced] at h ⊢
  simp only [h, List.length_append, List.length_singleton]
  omega

/-- An item that is taken is held. -/
theorem Balanced.get (h : Balanced held q) (hget : q.getNowait = some (a, q')) :
    Balanced (held + 1) q' := by
  obtain ⟨hitems, hunfinished⟩ := getNowait_eq_some.mp hget
  rw [Balanced] at h ⊢
  rw [hunfinished, h, hitems, List.length_cons]
  omega

/-- While an item is held an acknowledgement is accepted. -/
theorem Balanced.done (h : Balanced (held + 1) q) :
    ∃ q', q.taskDone = some q' ∧ q'.items = q.items ∧ Balanced held q' := by
  obtain ⟨items, unfinished⟩ := q
  cases unfinished with
  | zero => cases h
  | succ n => exact ⟨{ items := items, unfinished := n }, rfl, rfl, Nat.succ.inj h⟩

end TaskQueue

end CameraStack.Lib
