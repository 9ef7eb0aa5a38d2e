import Mathlib.Algebra.Order.Ring.Nat
import Mathlib.Data.Int.Order.Basic
import Mathlib.Data.Nat.Basic
import Mathlib.Tactic.Ring

/-!
# Checked machine arithmetic and truncated averages

A machine word holds the values of its range.  A checked operation yields its
exact result when that is in range, and nothing otherwise, so that a computation
by checked operations that yields a result has not overflowed.

A truncated average of natural numbers stays between any bounds of what it
averages, although each division rounds down.
-/

namespace CheckedArithmetic

/-! ## Checked values -/

/-- A value of an unsigned word. -/
def checkedUnsigned (width value : Nat) : Option Nat :=
  if value < 2 ^ width then some value else none

/-- A value of a signed word in two's complement. -/
def checkedSigned (width : Nat) (value : Int) : Option Int :=
  if -2 ^ (width - 1) ≤ value ∧ value < 2 ^ (width - 1) then some value
  else none

theorem checkedUnsigned_of_lt
    {width value : Nat}
    (inRange : value < 2 ^ width) :
    checkedUnsigned width value = some value :=
  if_pos inRange

theorem checkedSigned_of_mem
    {width : Nat} {value : Int}
    (low : -2 ^ (width - 1) ≤ value)
    (high : value < 2 ^ (width - 1)) :
    checkedSigned width value = some value :=
  if_pos ⟨low, high⟩

/-! ## Truncated averages -/

section Average

variable {average value bound : Nat}

/-- The weighted sum of two values below a bound. -/
theorem weightedSum_le
    (weight : Nat)
    (averageLe : average ≤ bound)
    (valueLe : value ≤ bound) :
    weight * average + value ≤ (weight + 1) * bound :=
  calc
    weight * average + value ≤ weight * bound + bound :=
      Nat.add_le_add (Nat.mul_le_mul_left weight averageLe) valueLe
    _ = (weight + 1) * bound := by ring

/-- The weighted sum of two values above a bound. -/
theorem le_weightedSum
    (weight : Nat)
    (leAverage : bound ≤ average)
    (leValue : bound ≤ value) :
    (weight + 1) * bound ≤ weight * average + value :=
  calc
    (weight + 1) * bound = weight * bound + bound := by ring
    _ ≤ weight * average + value :=
      Nat.add_le_add (Nat.mul_le_mul_left weight leAverage) leValue

/-- A truncated average stays below every bound of what it averages. -/
theorem weightedAverage_le
    (weight : Nat)
    (averageLe : average ≤ bound)
    (valueLe : value ≤ bound) :
    (weight * average + value) / (weight + 1) ≤ bound :=
  Nat.div_le_of_le_mul (weightedSum_le weight averageLe valueLe)

/-- It stays above every bound as well: the bound divides without a remainder. -/
theorem le_weightedAverage
    (weight : Nat)
    (leAverage : bound ≤ average)
    (leValue : bound ≤ value) :
    bound ≤ (weight * average + value) / (weight + 1) := by
  rw [Nat.le_div_iff_mul_le (Nat.succ_pos weight), Nat.mul_comm]
  exact le_weightedSum weight leAverage leValue

end Average

/-- The distance of two values below a bound. -/
theorem distance_le
    {first second bound : Nat}
    (firstLe : first ≤ bound)
    (secondLe : second ≤ bound) :
    (if second < first then first - second else second - first) ≤ bound := by
  split <;> omega

end CheckedArithmetic
