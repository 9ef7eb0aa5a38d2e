import Mathlib.Algebra.BigOperators.Group.Finset.Basic
import Mathlib.Algebra.BigOperators.Group.Finset.Piecewise
import Mathlib.Algebra.Order.BigOperators.Group.Finset

/-!
# Tallies over a finite family of parties

Each of finitely many parties stands somewhere, and where it stands tells how
much it counts.  The tally is the sum over all parties.  When one party moves the
tally changes by the difference between its two places, which is stated without
subtraction.
-/

namespace Tally

universe u v

variable {Party : Type u} {Place : Type v} [Fintype Party]

/-- The sum of what all parties count. -/
def tally (weight : Place → Nat) (places : Party → Place) : Nat :=
  ∑ party, weight (places party)

/-- One party moves. -/
theorem tally_update
    [DecidableEq Party]
    (weight : Place → Nat) (places : Party → Place)
    (party : Party) (place : Place) :
    tally weight (Function.update places party place) +
        weight (places party) =
      tally weight places + weight place := by
  have rest : ∑ other ∈ Finset.univ.erase party,
        weight (Function.update places party place other) =
      ∑ other ∈ Finset.univ.erase party, weight (places other) := by
    refine Finset.sum_congr rfl fun other member => ?_
    rw [Function.update_of_ne (Finset.ne_of_mem_erase member)]
  have after := Finset.add_sum_erase Finset.univ
    (fun other => weight (Function.update places party place other))
    (Finset.mem_univ party)
  have before := Finset.add_sum_erase Finset.univ
    (fun other => weight (places other)) (Finset.mem_univ party)
  simp only [Function.update_self, rest] at after
  unfold tally
  omega

/-- A party counts no more than all of them. -/
theorem le_tally
    (weight : Place → Nat) (places : Party → Place) (party : Party) :
    weight (places party) ≤ tally weight places :=
  Finset.single_le_sum (f := fun other => weight (places other))
    (fun _ _ => Nat.zero_le _) (Finset.mem_univ party)

/-- Where nobody counts the tally is zero. -/
theorem tally_eq_zero
    {weight : Place → Nat} {places : Party → Place}
    (nobody : ∀ party, weight (places party) = 0) :
    tally weight places = 0 :=
  Finset.sum_eq_zero fun party _ => nobody party

end Tally
