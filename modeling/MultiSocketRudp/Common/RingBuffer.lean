import MultiSocketRudp.Lib.BoundedQueue
import MultiSocketRudp.Lib.DataRefinement
import MultiSocketRudp.Lib.Ring
import Mathlib.Data.List.TakeDrop

/-!
# The ring buffer

A vector with a capacity, two indices and a count, which are unsigned shorts.  An
index that leaves the vector and a division by zero have no result.  The ring buffer
answers like a bounded queue, whose items are the cells from the head on.
-/

namespace MultiSocketRudp

/-- `RingBuffer`. -/
structure RingBuffer (α : Type) where
  buffer : List α
  capacity : BitVec 16
  head : BitVec 16 := 0
  tail : BitVec 16 := 0
  count : BitVec 16 := 0

namespace RingBuffer

variable {α : Type} [Inhabited α]

/-- The constructor. -/
def create (inCapacity : BitVec 16) : RingBuffer α where
  buffer := List.replicate inCapacity.toNat default
  capacity := inCapacity

/-- `Resize`. -/
def resize (ring : RingBuffer α) (newCapacity : BitVec 16) : RingBuffer α where
  buffer := List.takeD newCapacity.toNat ring.buffer default
  capacity := newCapacity

/-- `IsEmpty`. -/
def isEmpty (ring : RingBuffer α) : Bool :=
  ring.count = 0

/-- `IsFull`. -/
def isFull (ring : RingBuffer α) : Bool :=
  ring.count = ring.capacity

/-- `(index + 1) % capacity`, which is computed with integers and stored as an
unsigned short. -/
def nextIndex (index capacity : BitVec 16) : Option (BitVec 16) :=
  if capacity = 0 then none
  else some (BitVec.ofNat 16 ((index.toNat + 1) % capacity.toNat))

/-- `Push`. -/
def push (ring : RingBuffer α) (item : α) : Option (Bool × RingBuffer α) :=
  if ring.isFull then some (false, ring)
  else if ring.tail.toNat < ring.buffer.length then do
    let tail ← nextIndex ring.tail ring.capacity
    return (true,
      { ring with
        buffer := ring.buffer.set ring.tail.toNat item
        tail
        count := ring.count + 1 })
  else none

/-- `Front`. -/
def front (ring : RingBuffer α) : Option α :=
  ring.buffer[ring.head.toNat]?

/-- `Pop`, with the item that it assigns. -/
def pop (ring : RingBuffer α) : Option (Option α × RingBuffer α) :=
  if ring.isEmpty then some (none, ring)
  else do
    let item ← ring.buffer[ring.head.toNat]?
    let head ← nextIndex ring.head ring.capacity
    return (some item, { ring with head, count := ring.count - 1 })

/-- `Clear`. -/
def clear (ring : RingBuffer α) : RingBuffer α :=
  { ring with head := 0, tail := 0, count := 0 }

/-! ## Calls -/

/-- The calls of a ring buffer. -/
inductive Call (α : Type)
  | push (item : α)
  | pop
  | front
  | clear
  | resize (newCapacity : BitVec 16)
  | isEmpty
  | isFull
  | getCount

/-- Their results. -/
inductive Reply (α : Type)
  | done
  | answer (value : Bool)
  | popped (item : Option α)
  | front (item : α)
  | count (value : Nat)
  deriving DecidableEq, Repr

/-- A call of the ring buffer. -/
def answer (ring : RingBuffer α) : Call α → Option (Reply α × RingBuffer α)
  | .push item => (ring.push item).map fun (pushed, ring) => (.answer pushed, ring)
  | .pop => ring.pop.map fun (item, ring) => (.popped item, ring)
  | .front => ring.front.map fun item => (.front item, ring)
  | .clear => some (.done, ring.clear)
  | .resize newCapacity => some (.done, ring.resize newCapacity)
  | .isEmpty => some (.answer ring.isEmpty, ring)
  | .isFull => some (.answer ring.isFull, ring)
  | .getCount => some (.count ring.count.toNat, ring)

omit [Inhabited α] in
/-- The same call of a bounded queue.  Only a queue with items has a front. -/
def queueAnswer (queue : BoundedQueue α) :
    Call α → Option (Reply α × BoundedQueue α)
  | .push item => some (.answer (queue.push item).1, (queue.push item).2)
  | .pop => some (.popped queue.pop.1, queue.pop.2)
  | .front => queue.items.head?.map fun item => (.front item, queue)
  | .clear => some (.done, .empty queue.capacity)
  | .resize newCapacity => some (.done, .empty newCapacity.toNat)
  | .isEmpty => some (.answer queue.items.isEmpty, queue)
  | .isFull => some (.answer (queue.items.length = queue.capacity), queue)
  | .getCount => some (.count queue.items.length, queue)

/-! ## Refinement -/

/-- The fields fit together, and hold the items of the queue. -/
structure Represents (ring : RingBuffer α) (queue : BoundedQueue α) : Prop where
  buffer : ring.buffer.length = ring.capacity.toNat
  capacity : ring.capacity.toNat = queue.capacity
  head : 0 < ring.capacity.toNat → ring.head.toNat < ring.capacity.toNat
  tailInside : 0 < ring.capacity.toNat → ring.tail.toNat < ring.capacity.toNat
  tail : ring.tail.toNat =
    (ring.head.toNat + ring.count.toNat) % ring.capacity.toNat
  count : ring.count.toNat ≤ ring.capacity.toNat
  items : queue.items =
    Ring.slice ring.buffer ring.head.toNat ring.count.toNat

theorem Represents.length
    {ring : RingBuffer α} {queue : BoundedQueue α}
    (represents : ring.Represents queue) :
    queue.items.length = ring.count.toNat := by
  rw [represents.items, Ring.length_slice]

/-- An index is moved on. -/
theorem nextIndex_spec
    {capacity : BitVec 16} (positive : 0 < capacity.toNat) (index : BitVec 16) :
    ∃ next, nextIndex index capacity = some next ∧
      next.toNat = (index.toNat + 1) % capacity.toNat := by
  have nonzero : capacity ≠ 0 := by
    rintro rfl
    exact Nat.lt_irrefl 0 positive
  refine ⟨_, if_neg nonzero, ?_⟩
  rw [BitVec.toNat_ofNat, Nat.mod_eq_of_lt]
  exact (Nat.mod_lt _ positive).trans capacity.isLt

/-- A buffer without items, whatever its cells are. -/
theorem represents_empty
    {buffer : List α} {capacity : BitVec 16}
    (length : buffer.length = capacity.toNat) :
    Represents ⟨buffer, capacity, 0, 0, 0⟩ (.empty capacity.toNat) where
  buffer := length
  capacity := rfl
  head := id
  tailInside := id
  tail := (Nat.zero_mod _).symm
  count := Nat.zero_le _
  items := rfl

section Represents

variable {ring : RingBuffer α} {queue : BoundedQueue α}

theorem Represents.isFull_iff (represents : ring.Represents queue) :
    ring.isFull = true ↔ queue.items.length = queue.capacity := by
  rw [isFull, decide_eq_true_iff, represents.length, ← represents.capacity,
    BitVec.toNat_inj]

theorem Represents.isEmpty_iff (represents : ring.Represents queue) :
    ring.isEmpty = true ↔ queue.items = [] := by
  rw [isEmpty, decide_eq_true_iff, ← List.length_eq_zero_iff, represents.length,
    ← BitVec.toNat_inj]
  rfl

/-- The item at the head is the oldest. -/
theorem Represents.front
    (represents : ring.Represents queue)
    {item : α} {items : List α} (begins : queue.items = item :: items) :
    ring.front = some item ∧
      items = Ring.slice ring.buffer
        ((ring.head.toNat + 1) % ring.capacity.toNat) (ring.count.toNat - 1) := by
  have length := represents.length
  rw [begins, List.length_cons] at length
  have inside : ring.head.toNat < ring.buffer.length := by
    rw [represents.buffer]
    exact represents.head (by have := represents.count; omega)
  have slice := Ring.slice_succ inside items.length
  rw [length, ← represents.items, begins, List.cons.injEq] at slice
  obtain ⟨first, rest⟩ := slice
  rw [RingBuffer.front, List.getElem?_eq_getElem inside, first, ← represents.buffer,
    ← length, Nat.add_sub_cancel]
  exact ⟨rfl, rest⟩

theorem Represents.push
    (represents : ring.Represents queue) (item : α) :
    ∃ after, ring.push item = some ((queue.push item).1, after) ∧
      after.Represents (queue.push item).2 := by
  by_cases full : queue.items.length = queue.capacity
  · rw [RingBuffer.push, if_pos (represents.isFull_iff.mpr full),
      BoundedQueue.push_of_eq full]
    exact ⟨ring, rfl, represents⟩
  · have room : queue.items.length < queue.capacity :=
      Nat.lt_of_le_of_ne queue.bounded full
    have fits := room
    rw [represents.length, ← represents.capacity] at fits
    have positive := Nat.zero_lt_of_lt fits
    have tailInside := represents.tailInside positive
    obtain ⟨pushed, capacity, items⟩ := BoundedQueue.push_of_lt room item
    obtain ⟨next, moved, tail⟩ := nextIndex_spec positive ring.tail
    have count : (ring.count + 1).toNat = ring.count.toNat + 1 := by
      rw [BitVec.toNat_add, Nat.mod_eq_of_lt]
      · rfl
      · exact Nat.lt_of_le_of_lt fits ring.capacity.isLt
    rw [RingBuffer.push, if_neg fun isFull => full (represents.isFull_iff.mp isFull),
      if_pos (by rwa [represents.buffer]), moved, pushed]
    refine ⟨_, rfl, ?_⟩
    exact {
      buffer := (List.length_set).trans represents.buffer
      capacity := represents.capacity.trans capacity.symm
      head := represents.head
      tailInside := fun _ => tail ▸ Nat.mod_lt _ positive
      tail := by
        dsimp only
        rw [tail, represents.tail, Nat.mod_add_mod, count, Nat.add_assoc]
      count := by
        dsimp only
        rwa [count]
      items := by
        dsimp only
        rw [items, represents.items, count, represents.tail, ← represents.buffer]
        exact (Ring.slice_set (represents.buffer ▸ fits) item).symm }

theorem Represents.pop
    (represents : ring.Represents queue) :
    ∃ after, ring.pop = some (queue.pop.1, after) ∧
      after.Represents queue.pop.2 := by
  cases items : queue.items with
  | nil =>
      have none : queue.pop.1 = none := by
        rw [BoundedQueue.pop_fst, items, List.head?_nil]
      rw [RingBuffer.pop, if_pos (represents.isEmpty_iff.mpr items), none]
      refine ⟨ring, rfl, { represents with items := ?_ }⟩
      rw [← represents.items, BoundedQueue.items_pop, items, List.tail_nil]
  | cons item rest =>
      have oldest : queue.pop.1 = some item := by
        rw [BoundedQueue.pop_fst, items, List.head?_cons]
      have others : queue.pop.2.items = rest := by
        rw [BoundedQueue.items_pop, items, List.tail_cons]
      obtain ⟨front, behind⟩ := represents.front items
      have length := represents.length
      have bound := represents.count
      rw [items, List.length_cons] at length
      have positive : 0 < ring.capacity.toNat := by omega
      obtain ⟨next, moved, head⟩ := nextIndex_spec positive ring.head
      have count : (ring.count - 1).toNat = ring.count.toNat - 1 :=
        BitVec.toNat_sub_of_le (BitVec.le_def.mpr (by
          change 1 ≤ ring.count.toNat
          omega))
      have nonempty : ¬ ring.isEmpty = true := fun isEmpty =>
        List.cons_ne_nil item rest (items.symm.trans (represents.isEmpty_iff.mp isEmpty))
      rw [RingBuffer.front] at front
      rw [RingBuffer.pop, if_neg nonempty, front, moved, oldest]
      refine ⟨_, rfl, ?_⟩
      exact {
        buffer := represents.buffer
        capacity := represents.capacity
        head := fun _ => head ▸ Nat.mod_lt _ positive
        tailInside := represents.tailInside
        tail := by
          dsimp only
          rw [represents.tail, head, count, Nat.mod_add_mod]
          congr 1
          omega
        count := by
          dsimp only
          omega
        items := by
          dsimp only
          rw [others, behind, head, count] }

/-- Every answer of the queue is one of the ring buffer. -/
theorem answer_simulates :
    DataRefinement.Simulates (answer (α := α)) queueAnswer Represents := by
  intro ring queue represents call reply next answered
  cases call with
  | push item =>
      obtain ⟨after, pushed, represents⟩ := represents.push item
      cases answered
      exact ⟨after, by rw [answer, pushed]; rfl, represents⟩
  | pop =>
      obtain ⟨after, popped, represents⟩ := represents.pop
      cases answered
      exact ⟨after, by rw [answer, popped]; rfl, represents⟩
  | front =>
      obtain ⟨item, first, same⟩ := Option.map_eq_some_iff.mp answered
      obtain ⟨rest, items⟩ := List.head?_eq_some_iff.mp first
      cases same
      refine ⟨ring, ?_, represents⟩
      rw [answer, (represents.front items).1]
      rfl
  | clear =>
      cases answered
      refine ⟨_, rfl, ?_⟩
      rw [← represents.capacity]
      exact represents_empty represents.buffer
  | resize newCapacity =>
      cases answered
      exact ⟨_, rfl, represents_empty (List.takeD_length _ _ _)⟩
  | isEmpty =>
      cases answered
      have same : ring.isEmpty = queue.items.isEmpty := by
        rw [Bool.eq_iff_iff, represents.isEmpty_iff, List.isEmpty_iff]
      exact ⟨ring, by rw [answer, same], represents⟩
  | isFull =>
      cases answered
      have same : ring.isFull = decide (queue.items.length = queue.capacity) := by
        rw [Bool.eq_iff_iff, represents.isFull_iff, decide_eq_true_iff]
      exact ⟨ring, by rw [answer, same], represents⟩
  | getCount =>
      cases answered
      exact ⟨ring, by rw [answer, represents.length], represents⟩

end Represents

/-- From any capacity on, the ring buffer gives the results of a bounded queue, and
its fields fit together behind them. -/
theorem refines_boundedQueue
    (capacity : BitVec 16) (calls : List (Call α))
    (results : List (Reply α)) (queue : BoundedQueue α)
    (answered : DataRefinement.replies queueAnswer (.empty capacity.toNat) calls =
      some (results, queue)) :
    ∃ ring, DataRefinement.replies answer (create capacity) calls =
        some (results, ring) ∧
      ring.Represents queue :=
  answer_simulates.replies (represents_empty List.length_replicate) answered

/-- Two places are used three times. -/
theorem refines_boundedQueue_wraps :
    ∃ ring : RingBuffer Nat,
      DataRefinement.replies answer (create 2)
          [.push 1, .push 2, .push 3, .pop, .push 4, .front, .resize 0, .push 5] =
        some ([.answer true, .answer true, .answer false, .popped (some 1),
          .answer true, .front 2, .done, .answer false], ring) ∧
      ring.Represents (.empty 0) :=
  refines_boundedQueue 2 _ _ _ rfl

end RingBuffer

end MultiSocketRudp
