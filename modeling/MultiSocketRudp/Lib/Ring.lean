import Mathlib.Data.List.GetD
import Mathlib.Data.Nat.ModEq

/-!
# Rings of flags

A ring is a list of flags with a start, and a place of the ring is counted from
there.  Moving the start by one moves all places by one, and setting one flag
changes one place.
-/

namespace Ring

/-- The index of a place. -/
def index (size start place : Nat) : Nat :=
  (start + place) % size

/-- The flag at a place. -/
def flagAt (flags : List Bool) (start place : Nat) : Bool :=
  flags.getD (index flags.length start place) false

variable {flags : List Bool} {size start : Nat}

theorem index_lt (positive : 0 < size) (start place : Nat) :
    index size start place < size :=
  Nat.mod_lt _ positive

/-- Different places have different indices. -/
theorem index_inj
    {first second : Nat}
    (firstInside : first < size)
    (secondInside : second < size) :
    index size start first = index size start second ↔ first = second := by
  constructor
  · intro same
    have congruent : first ≡ second [MOD size] :=
      Nat.ModEq.add_left_cancel' start same
    exact Nat.ModEq.eq_of_lt_of_lt congruent firstInside secondInside
  · exact congrArg (index size start)

/-- Every index belongs to a place. -/
theorem exists_index_eq
    {position : Nat}
    (startInside : start < size)
    (inside : position < size) :
    ∃ place < size, index size start place = position := by
  by_cases behind : start ≤ position
  · refine ⟨position - start, by omega, ?_⟩
    rw [index, Nat.add_sub_cancel' behind, Nat.mod_eq_of_lt inside]
  · refine ⟨position + size - start, by omega, ?_⟩
    rw [index, Nat.add_sub_cancel' (by omega), Nat.add_mod_right,
      Nat.mod_eq_of_lt inside]

/-- A place that is reached without going round. -/
theorem index_of_lt
    {place : Nat}
    (inside : start + place < size) :
    index size start place = start + place :=
  Nat.mod_eq_of_lt inside

/-- A place that is reached by going round once. -/
theorem index_of_le
    {place : Nat}
    (beyond : size ≤ start + place)
    (once : start + place < 2 * size) :
    index size start place = start + place - size := by
  rw [index, Nat.mod_eq_sub_mod beyond, Nat.mod_eq_of_lt (by omega)]

/-- Moving the start moves every place. -/
theorem flagAt_next (flags : List Bool) (start place : Nat) :
    flagAt flags ((start + 1) % flags.length) place =
      flagAt flags start (place + 1) := by
  rw [flagAt, flagAt, index, index, Nat.mod_add_mod]
  congr 2
  omega

/-- The place as far away as the ring is long is the start. -/
theorem flagAt_length (flags : List Bool) (start : Nat) :
    flagAt flags start flags.length = flagAt flags start 0 := by
  rw [flagAt, flagAt, index, index, Nat.add_mod_right, Nat.add_zero]

/-- Setting the flag at a place. -/
theorem flagAt_set
    (start : Nat)
    (flag : Bool)
    {place other : Nat}
    (inside : place < flags.length)
    (otherInside : other < flags.length) :
    flagAt (flags.set (index flags.length start place) flag) start other =
      if other = place then flag else flagAt flags start other := by
  have positive : 0 < flags.length := Nat.zero_lt_of_lt inside
  have bound := index_lt positive start other
  rw [flagAt, flagAt, List.length_set, List.getD_eq_getElem?_getD,
    List.getD_eq_getElem?_getD, List.getElem?_set]
  by_cases same : other = place
  · rw [if_pos same, if_pos (same ▸ rfl), if_pos (same ▸ bound)]
    rfl
  · rw [if_neg same, if_neg fun equal =>
      same ((index_inj inside otherInside).mp equal).symm]

/-- A flag that is set belongs to the ring. -/
theorem lt_length_of_getD
    {position : Nat}
    (set : flags.getD position false = true) :
    position < flags.length := by
  by_contra outside
  rw [List.getD_eq_default _ _ (Nat.not_lt.mp outside)] at set
  exact Bool.false_ne_true set

/-- A set of positions below a bound that is closed under a shift is empty. -/
theorem not_of_shift
    (Holds : Nat → Prop)
    {bound first second : Nat}
    (different : first ≠ second)
    (shifts : ∀ position < bound, Holds position →
      second ≤ position + first ∧ position + first - second < bound ∧
        Holds (position + first - second))
    (position : Nat)
    (below : position < bound) :
    ¬ Holds position := by
  intro holds
  rcases Nat.lt_or_gt_of_ne different with shrinks | grows
  · -- Every position leads to a smaller one.
    induction position using Nat.strong_induction_on with
    | _ position inductionHypothesis =>
        obtain ⟨enough, inside, next⟩ := shifts position below holds
        exact inductionHypothesis _ (by omega) inside next
  · -- Every position leads to a larger one.
    induction gap : bound - position using Nat.strong_induction_on
      generalizing position with
    | _ gap inductionHypothesis =>
        obtain ⟨enough, inside, next⟩ := shifts position below holds
        exact inductionHypothesis _ (by omega) _ inside next rfl

/-- A ring without flags. -/
theorem flagAt_replicate (size start place : Nat) :
    flagAt (List.replicate size false) start place = false := by
  rw [flagAt, List.getD_eq_getElem?_getD, List.getElem?_replicate]
  split <;> rfl

/-! ## The cells from a start on -/

section Slice

variable {α : Type*} [Inhabited α]

/-- As many cells as the count says, from the start on. -/
def slice (cells : List α) (start count : Nat) : List α :=
  (List.range count).map fun place =>
    cells.getD (index cells.length start place) default

@[simp] theorem length_slice (cells : List α) (start count : Nat) :
    (slice cells start count).length = count := by
  rw [slice, List.length_map, List.length_range]

/-- The first cell, and those behind it. -/
theorem slice_succ
    {cells : List α} {start : Nat}
    (inside : start < cells.length) (count : Nat) :
    slice cells start (count + 1) =
      cells[start] :: slice cells ((start + 1) % cells.length) count := by
  rw [slice, List.range_succ_eq_map, List.map_cons, List.map_map, slice]
  congr 1
  · rw [index, Nat.add_zero, Nat.mod_eq_of_lt inside, List.getD_eq_getElem]
  · refine List.map_congr_left fun place _ => ?_
    rw [Function.comp_apply, index, index, Nat.mod_add_mod]
    congr 2
    omega

/-- A cell that is written behind the others. -/
theorem slice_set
    {cells : List α} {start count : Nat}
    (room : count < cells.length) (cell : α) :
    slice (cells.set (index cells.length start count) cell) start (count + 1) =
      slice cells start count ++ [cell] := by
  have bound := index_lt (Nat.zero_lt_of_lt room) start count
  rw [slice, List.range_succ, List.map_append, List.map_singleton, slice,
    List.length_set]
  congr 1
  · refine List.map_congr_left fun place among => ?_
    have before := List.mem_range.mp among
    have different : index cells.length start count ≠
        index cells.length start place := fun same =>
      (Nat.ne_of_gt before) ((index_inj room (before.trans room)).mp same)
    rw [List.getD_eq_getElem?_getD, List.getElem?_set_ne different,
      ← List.getD_eq_getElem?_getD]
  · rw [List.getD_eq_getElem?_getD, List.getElem?_set_self bound, Option.getD_some]

end Slice

end Ring
