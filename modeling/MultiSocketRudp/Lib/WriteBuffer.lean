import Mathlib.Data.List.Basic
import Mathlib.Data.List.Range

/-!
# Buffers written behind one another

A buffer is a function from offsets to elements.  A block is written at an
offset, and the front of the buffer is the list of its first elements.  Writing
at the end of a front appends the block to it, and writing inside a front
replaces a part of it.  A span is the list of the elements from an offset on.
-/

namespace WriteBuffer

universe u

variable {Element : Type u}

/-- The buffer with a block written at an offset. -/
def write
    (buffer : Nat → Element)
    (offset : Nat)
    (block : List Element) : Nat → Element :=
  fun position =>
    if position < offset then buffer position
    else (block[position - offset]?).getD (buffer position)

/-- The first elements of a buffer. -/
def front (buffer : Nat → Element) (length : Nat) : List Element :=
  (List.range length).map buffer

@[simp] theorem front_length (buffer : Nat → Element) (length : Nat) :
    (front buffer length).length = length := by
  simp [front]

@[simp] theorem front_zero (buffer : Nat → Element) :
    front buffer 0 = [] := rfl

/-- Writing behind a front leaves it alone. -/
theorem front_write_of_le
    (buffer : Nat → Element)
    (block : List Element)
    {length offset : Nat}
    (behind : length ≤ offset) :
    front (write buffer offset block) length = front buffer length := by
  refine List.map_congr_left fun position member => ?_
  have inside := List.mem_range.mp member
  exact if_pos (by omega)

/-- Writing at the end of a front appends the block. -/
theorem front_write
    (buffer : Nat → Element)
    (offset : Nat)
    (block : List Element) :
    front (write buffer offset block) (offset + block.length) =
      front buffer offset ++ block := by
  apply List.ext_getElem
  · simp
  · intro position inside _
    simp only [front_length] at inside
    by_cases before : position < offset
    · simp [front, write, before]
    · have present : position - offset < block.length := by omega
      simp [front, write, before, present, List.getElem_append]

/-- Writing inside a front replaces the elements that the block covers. -/
theorem front_write_within
    (buffer : Nat → Element)
    (offset : Nat)
    (block : List Element)
    {length : Nat}
    (inside : offset + block.length ≤ length) :
    front (write buffer offset block) length =
      front buffer offset ++ block ++
        (front buffer length).drop (offset + block.length) := by
  apply List.ext_getElem
  · simp
    omega
  · intro position bound _
    simp only [front_length] at bound
    by_cases before : position < offset
    · simp [front, write, before]
    · by_cases covered : position < offset + block.length
      · have present : position - offset < block.length := by omega
        simp [front, write, before, present, List.getElem_append]
      · have beyond : block.length ≤ position - offset := by omega
        have shifted :
            offset + block.length + (position - offset - block.length) =
              position := by
          omega
        simp [front, write, before, beyond, List.getElem_append, shifted]

/-- The first elements of a front. -/
theorem take_front
    (buffer : Nat → Element)
    {count length : Nat}
    (within : count ≤ length) :
    (front buffer length).take count = front buffer count := by
  rw [front, ← List.map_take, List.take_range, Nat.min_eq_left within, front]

/-- The elements from an offset on, in a given number. -/
def span (buffer : Nat → Element) (offset count : Nat) : List Element :=
  (List.range count).map fun index => buffer (offset + index)

@[simp] theorem span_length (buffer : Nat → Element) (offset count : Nat) :
    (span buffer offset count).length = count := by
  simp [span]

@[simp] theorem span_zero (buffer : Nat → Element) (length : Nat) :
    span buffer 0 length = front buffer length := by
  simp [span, front]

/-- Two buffers have the same span if they agree inside it. -/
theorem span_eq_iff
    {first second : Nat → Element} {offset count : Nat} :
    span first offset count = span second offset count ↔
      ∀ index < count, first (offset + index) = second (offset + index) := by
  simp [span, List.map_inj_left]

/-- The first elements of a span. -/
theorem take_span
    (buffer : Nat → Element)
    (offset : Nat)
    {count length : Nat}
    (within : count ≤ length) :
    (span buffer offset length).take count = span buffer offset count := by
  rw [span, ← List.map_take, List.take_range, Nat.min_eq_left within, span]

/-- A span goes on with the span behind it. -/
theorem span_add (buffer : Nat → Element) (offset first second : Nat) :
    span buffer offset (first + second) =
      span buffer offset first ++ span buffer (offset + first) second := by
  simp only [span, List.range_add, List.map_append, List.map_map,
    Function.comp_def, Nat.add_assoc]

/-- A front goes on with the span behind it. -/
theorem front_add (buffer : Nat → Element) (offset count : Nat) :
    front buffer (offset + count) =
      front buffer offset ++ span buffer offset count := by
  rw [front, front, span, List.range_add, List.map_append, List.map_map]
  rfl

/-- What a front has behind an offset. -/
theorem drop_front
    (buffer : Nat → Element)
    (offset count : Nat) :
    (front buffer (offset + count)).drop offset = span buffer offset count := by
  rw [front_add, List.drop_left' (front_length buffer offset)]

/-- A span inside a front. -/
theorem take_drop_front
    (buffer : Nat → Element)
    {offset count length : Nat}
    (inside : offset + count ≤ length) :
    ((front buffer length).drop offset).take count =
      span buffer offset count := by
  rw [List.take_drop, take_front buffer inside, drop_front]

/-- A part of a block that has been written at the beginning. -/
theorem span_write_middle
    (buffer : Nat → Element)
    (first middle last : List Element) :
    span (write buffer 0 (first ++ middle ++ last)) first.length
        middle.length =
      middle := by
  have written := front_write buffer 0 (first ++ middle ++ last)
  rw [Nat.zero_add, front_zero, List.nil_append] at written
  have inside :
      first.length + middle.length ≤ (first ++ middle ++ last).length := by
    simp
  rw [← take_drop_front _ inside, written, List.append_assoc, List.drop_left,
    List.take_left]

end WriteBuffer
