import Mathlib.Algebra.Order.Ring.Nat
import Mathlib.Data.Int.Order.Basic
import Mathlib.Tactic.Linarith

/-!
# Wrapping machine arithmetic

A signed machine word in two's complement holds the value of its range that is
congruent to the exact result.  A result in the range is exact.
-/

namespace WrappingArithmetic

/-- The value that a signed word of so many bits holds instead of a result. -/
def wrapSigned (width : Nat) (value : Int) : Int :=
  value.bmod (2 ^ width)

/-- A result in the range of the word is exact. -/
theorem wrapSigned_of_mem
    {width : Nat} {value : Int}
    (low : -2 ^ width ≤ value)
    (high : value < 2 ^ width) :
    wrapSigned (width + 1) value = value := by
  refine Int.bmod_eq_of_le_mul_two ?_ ?_
  · push_cast [pow_succ]
    linarith
  · push_cast [pow_succ]
    linarith

end WrappingArithmetic
