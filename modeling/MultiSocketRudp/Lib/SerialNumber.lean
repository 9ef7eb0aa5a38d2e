import Mathlib.Data.BitVec
import Mathlib.Tactic.Linarith

/-!
# Serial-number arithmetic

Sequence numbers are machine words that wrap around.  Two of them are compared
by the signed value of their difference, which is the difference of the numbers
they stand for as long as these are less than half of the number space apart.
-/

namespace SerialNumber

variable {width : Nat}

/-- Signed difference of two wrapping numbers. -/
def signedDiff (first second : BitVec width) : Int :=
  (first - second).toInt

@[simp] theorem signedDiff_self (number : BitVec width) :
    signedDiff number number = 0 := by
  simp [signedDiff]

/-- Two numbers at the same distance from a third are the same. -/
theorem eq_of_signedDiff_eq
    {first second reference : BitVec width}
    (same : signedDiff first reference = signedDiff second reference) :
    first = second := by
  have difference : first - reference = second - reference :=
    BitVec.eq_of_toInt_eq same
  simpa using congrArg (· + reference) difference

/-- A number at distance zero is the same. -/
theorem eq_of_signedDiff_eq_zero
    {first second : BitVec width}
    (same : signedDiff first second = 0) :
    first = second :=
  eq_of_signedDiff_eq (same.trans (signedDiff_self second).symm)

/-- A number that is ahead of the reference comes closer when the reference moves
on by less than half of the number space. -/
theorem signedDiff_add
    {first second offset : BitVec width}
    (ahead : 0 < signedDiff first second)
    (small : 2 * offset.toNat < 2 ^ width) :
    signedDiff first (second + offset) =
      signedDiff first second - offset.toNat := by
  have below : 2 * (first - second).toInt < 2 ^ width :=
    BitVec.two_mul_toInt_lt
  change 0 < (first - second).toInt at ahead
  have moved : first - (second + offset) = first - second - offset :=
    sub_add_eq_sub_sub _ _ _
  have smallCast : (2 * offset.toNat : Int) < 2 ^ width := by
    exact_mod_cast small
  rw [signedDiff, signedDiff, moved, BitVec.toInt_sub,
    BitVec.toInt_eq_toNat_of_lt small]
  refine Int.bmod_eq_of_le_mul_two ?_ ?_
  · push_cast
    linarith
  · push_cast
    linarith

/-- It comes one closer when the reference moves on by one. -/
theorem signedDiff_add_one
    {first second : BitVec width}
    (ahead : 0 < signedDiff first second) :
    signedDiff first (second + 1) = signedDiff first second - 1 := by
  have below : 2 * (first - second).toInt < 2 ^ width :=
    BitVec.two_mul_toInt_lt
  have wide : 1 < width := by
    change 0 < (first - second).toInt at ahead
    by_contra narrow
    obtain rfl | rfl : width = 0 ∨ width = 1 := by omega
    · omega
    · omega
  have one : (1 : BitVec width).toNat = 1 :=
    Nat.mod_eq_of_lt (Nat.one_lt_two_pow (by omega))
  have small : 2 * (1 : BitVec width).toNat < 2 ^ width := by
    rw [one]
    exact lt_of_lt_of_le (by decide : 2 * 1 < 2 ^ 2)
      (Nat.pow_le_pow_right (by decide) wide)
  rw [signedDiff_add ahead small, one]
  rfl

/-- The signed difference is exact within half of the number space. -/
theorem signedDiff_eq_sub
    {first second : BitVec width}
    (lower : -(2 ^ width : Int) ≤ 2 * ((first.toNat : Int) - second.toNat))
    (upper : 2 * ((first.toNat : Int) - second.toNat) < 2 ^ width) :
    signedDiff first second = (first.toNat : Int) - second.toNat := by
  have reduced : signedDiff first second =
      ((first.toNat : Int) - second.toNat).bmod (2 ^ width) := by
    rw [signedDiff, BitVec.toInt_sub, BitVec.toInt_eq_toNat_bmod,
      BitVec.toInt_eq_toNat_bmod]
    simp
  rw [reduced]
  refine Int.bmod_eq_of_le_mul_two ?_ ?_
  · push_cast
    linarith
  · push_cast
    linarith

/-- Below half of the number space the signed difference is the difference. -/
theorem signedDiff_eq_sub_of_lt
    {first second : BitVec width}
    (firstSmall : 2 * first.toNat < 2 ^ width)
    (secondSmall : 2 * second.toNat ≤ 2 ^ width) :
    signedDiff first second = (first.toNat : Int) - second.toNat := by
  have firstCast : (2 * first.toNat : Int) < 2 ^ width := by
    exact_mod_cast firstSmall
  have secondCast : (2 * second.toNat : Int) ≤ 2 ^ width := by
    exact_mod_cast secondSmall
  refine signedDiff_eq_sub ?_ ?_ <;> omega

/-- The numbers from a start on, one after the other. -/
def serialsFrom (start : BitVec width) (count : Nat) : List (BitVec width) :=
  (List.range count).map fun index => start + BitVec.ofNat width index

@[simp] theorem serialsFrom_zero (start : BitVec width) :
    serialsFrom start 0 = [] := rfl

@[simp] theorem serialsFrom_one (start : BitVec width) :
    serialsFrom start 1 = [start] := by
  simp [serialsFrom]

/-- Offsets from the successor. -/
theorem add_one_add_ofNat (start : BitVec width) (index : Nat) :
    start + 1 + BitVec.ofNat width index =
      start + BitVec.ofNat width (index + 1) := by
  rw [Nat.add_comm, BitVec.ofNat_add, ← add_assoc]
  rfl

/-- The numbers from a start on are the start and those from its successor on. -/
theorem serialsFrom_succ (start : BitVec width) (count : Nat) :
    serialsFrom start (count + 1) = start :: serialsFrom (start + 1) count := by
  rw [serialsFrom, List.range_succ_eq_map, List.map_cons, List.map_map,
    BitVec.add_zero]
  exact congrArg (start :: ·)
    (List.map_congr_left fun index _ => (add_one_add_ofNat start index).symm)

/-- Numbers go on where the ones before them end. -/
theorem serialsFrom_add (start : BitVec width) (first second : Nat) :
    serialsFrom start (first + second) =
      serialsFrom start first ++
        serialsFrom (start + BitVec.ofNat width first) second := by
  simp [serialsFrom, List.range_add, add_assoc, BitVec.ofNat_add]

/-- Numbers come round only after all of them. -/
theorem nodup_serialsFrom
    (start : BitVec width) {count : Nat} (small : count ≤ 2 ^ width) :
    (serialsFrom start count).Nodup := by
  refine List.Nodup.map_on (fun first firstMember second secondMember same => ?_)
    List.nodup_range
  have firstSmall := List.mem_range.mp firstMember
  have secondSmall := List.mem_range.mp secondMember
  have offsets := congrArg BitVec.toNat (add_left_cancel same)
  rwa [BitVec.toNat_ofNat, BitVec.toNat_ofNat,
    Nat.mod_eq_of_lt (firstSmall.trans_le small),
    Nat.mod_eq_of_lt (secondSmall.trans_le small)] at offsets

/-- A number is at a positive distance if and only if it is that much further. -/
theorem signedDiff_eq_iff
    {first second : BitVec width} {distance : Nat}
    (small : 2 * distance < 2 ^ width) :
    signedDiff second first = distance ↔
      second = first + BitVec.ofNat width distance := by
  have value : (BitVec.ofNat width distance).toNat = distance := by
    rw [BitVec.toNat_ofNat, Nat.mod_eq_of_lt (by omega)]
  have signed : (BitVec.ofNat width distance).toInt = distance := by
    rw [BitVec.toInt_eq_toNat_of_lt (by omega), value]
  rw [signedDiff, ← signed, BitVec.toInt_inj, sub_eq_iff_eq_add']

/-- The numbers strictly between two others are those that follow the first. -/
theorem mem_serialsFrom_iff
    {first second number : BitVec width} :
    number ∈
        serialsFrom (first + 1) (signedDiff second first - 1).toNat ↔
      0 < signedDiff number first ∧
        signedDiff number first < signedDiff second first := by
  have below : 2 * signedDiff second first < 2 ^ width :=
    BitVec.two_mul_toInt_lt
  constructor
  · intro member
    obtain ⟨index, bound, rfl⟩ := List.mem_map.mp member
    have inside := List.mem_range.mp bound
    have small : 2 * (index + 1) < 2 ^ width := by
      zify
      omega
    rw [(signedDiff_eq_iff small).mpr (add_one_add_ofNat first index)]
    omega
  · rintro ⟨positive, inside⟩
    obtain ⟨distance, same⟩ := Int.eq_ofNat_of_zero_le positive.le
    have small : 2 * distance < 2 ^ width := by
      zify
      omega
    refine List.mem_map.mpr ⟨distance - 1, List.mem_range.mpr (by omega), ?_⟩
    rw [add_one_add_ofNat, Nat.sub_add_cancel (by omega)]
    exact ((signedDiff_eq_iff small).mp same).symm

/-- The successor of a number below the greatest does not wrap around. -/
theorem toNat_add_one
    {number : BitVec width}
    (small : number.toNat + 1 < 2 ^ width) :
    (number + 1).toNat = number.toNat + 1 := by
  have one : (1 : BitVec width).toNat = 1 :=
    Nat.mod_eq_of_lt (lt_of_le_of_lt (Nat.le_add_left 1 _) small)
  rw [BitVec.toNat_add, one, Nat.mod_eq_of_lt small]

end SerialNumber
