import Mathlib.Data.List.Basic

/-!
# Bounded queues

First in, first out, and never more items than the capacity.
-/

universe u

/-- A queue with a capacity, its oldest item in front. -/
structure BoundedQueue (α : Type u) where
  capacity : Nat
  items : List α
  bounded : items.length ≤ capacity

namespace BoundedQueue

variable {α : Type u}

/-- The queue without items. -/
def empty (capacity : Nat) : BoundedQueue α :=
  ⟨capacity, [], Nat.zero_le capacity⟩

/-- An item is appended if there is room for it. -/
def push (queue : BoundedQueue α) (item : α) : Bool × BoundedQueue α :=
  if room : queue.items.length < queue.capacity then
    (true, ⟨queue.capacity, queue.items ++ [item], by
      rw [List.length_append]
      exact room⟩)
  else (false, queue)

/-- The oldest item is removed if there is one. -/
def pop (queue : BoundedQueue α) : Option α × BoundedQueue α :=
  (queue.items.head?, ⟨queue.capacity, queue.items.tail, by
    rw [List.length_tail]
    exact Nat.le_trans (Nat.sub_le _ _) queue.bounded⟩)

@[simp] theorem pop_fst (queue : BoundedQueue α) :
    queue.pop.1 = queue.items.head? := rfl

@[simp] theorem items_pop (queue : BoundedQueue α) :
    queue.pop.2.items = queue.items.tail := rfl

theorem push_of_lt
    {queue : BoundedQueue α} (room : queue.items.length < queue.capacity)
    (item : α) :
    (queue.push item).1 = true ∧
      (queue.push item).2.capacity = queue.capacity ∧
      (queue.push item).2.items = queue.items ++ [item] := by
  rw [push, dif_pos room]
  exact ⟨rfl, rfl, rfl⟩

theorem push_of_eq
    {queue : BoundedQueue α} (full : queue.items.length = queue.capacity)
    (item : α) :
    queue.push item = (false, queue) :=
  dif_neg (by omega)

end BoundedQueue
