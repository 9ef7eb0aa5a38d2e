import Mathlib

/-!
# Records that arrive piece by piece

Records of given sizes follow one another, and a number of their symbols has
arrived.  Those at the front whose last symbol is among them are complete.  What
has arrived behind them belongs to the next record, and is completed by what
arrives later.
-/

namespace RecordStream

universe u

variable {Record : Type u} (size : Record → Nat)

/-- The size of some records together. -/
def total (records : List Record) : Nat := (records.map size).sum

/-- The records that are complete when this many symbols have arrived. -/
def completed : List Record → Nat → List Record
  | [], _ => []
  | record :: records, arrived =>
      if size record ≤ arrived then
        record :: completed records (arrived - size record)
      else []

/-- The records that are not complete yet. -/
def remaining (records : List Record) (arrived : Nat) : List Record :=
  records.drop (completed size records arrived).length

/-- How much of the next record has arrived. -/
def leftover (records : List Record) (arrived : Nat) : Nat :=
  arrived - total size (completed size records arrived)

variable {size}

@[simp] theorem total_nil : total size ([] : List Record) = 0 := rfl

@[simp] theorem total_cons (record : Record) (records : List Record) :
    total size (record :: records) = size record + total size records := by
  simp [total]

@[simp] theorem completed_nil (arrived : Nat) :
    completed size [] arrived = [] := rfl

/-- A record is complete when all of it has arrived. -/
theorem completed_of_le
    {record : Record} {arrived : Nat}
    (complete : size record ≤ arrived)
    (records : List Record) :
    completed size (record :: records) arrived =
      record :: completed size records (arrived - size record) :=
  if_pos complete

theorem completed_of_lt
    {record : Record} {arrived : Nat}
    (incomplete : arrived < size record)
    (records : List Record) :
    completed size (record :: records) arrived = [] :=
  if_neg (Nat.not_le.mpr incomplete)

variable (size) in
/-- Complete records are the first ones. -/
theorem completed_append_remaining
    (records : List Record) (arrived : Nat) :
    completed size records arrived ++ remaining size records arrived =
      records := by
  induction records generalizing arrived with
  | nil => rfl
  | cons record records inductionHypothesis =>
      by_cases complete : size record ≤ arrived
      · rw [remaining, completed_of_le complete]
        exact congrArg (List.cons record) (inductionHypothesis _)
      · rw [remaining, completed_of_lt (Nat.not_le.mp complete)]
        rfl

variable (size) in
/-- Complete records have arrived. -/
theorem total_completed_le
    (records : List Record) (arrived : Nat) :
    total size (completed size records arrived) ≤ arrived := by
  induction records generalizing arrived with
  | nil => exact Nat.zero_le _
  | cons record records inductionHypothesis =>
      by_cases complete : size record ≤ arrived
      · rw [completed_of_le complete, total_cons]
        have rest := inductionHypothesis (arrived - size record)
        omega
      · rw [completed_of_lt (Nat.not_le.mp complete)]
        exact Nat.zero_le _

theorem remaining_of_le
    {record : Record} {arrived : Nat}
    (complete : size record ≤ arrived)
    (records : List Record) :
    remaining size (record :: records) arrived =
      remaining size records (arrived - size record) := by
  rw [remaining, completed_of_le complete]
  rfl

theorem leftover_of_le
    {record : Record} {arrived : Nat}
    (complete : size record ≤ arrived)
    (records : List Record) :
    leftover size (record :: records) arrived =
      leftover size records (arrived - size record) := by
  rw [leftover, leftover, completed_of_le complete, total_cons, Nat.sub_sub]

/-- What arrives later completes the next records. -/
theorem completed_add
    (records : List Record) (arrived more : Nat) :
    completed size records (arrived + more) =
      completed size records arrived ++
        completed size (remaining size records arrived)
          (leftover size records arrived + more) := by
  induction records generalizing arrived with
  | nil => rfl
  | cons record records inductionHypothesis =>
      by_cases complete : size record ≤ arrived
      · have rest := inductionHypothesis (arrived - size record)
        have later : arrived + more - size record =
            arrived - size record + more := by
          omega
        rw [completed_of_le (complete.trans (Nat.le_add_right _ _)), later,
          rest, leftover, leftover, remaining, remaining, completed_of_le complete,
          total_cons, Nat.sub_sub]
        rfl
      · rw [remaining, leftover, completed_of_lt (Nat.not_le.mp complete)]
        rfl

/-- What is left over completes nothing. -/
theorem completed_remaining
    (records : List Record) (arrived : Nat) :
    completed size (remaining size records arrived)
      (leftover size records arrived) = [] :=
  List.append_right_eq_self.mp (completed_add records arrived 0).symm

theorem total_append (records others : List Record) :
    total size (records ++ others) =
      total size records + total size others := by
  simp [total]

/-- What is left over belongs to the records that remain. -/
theorem leftover_le
    {records : List Record} {arrived : Nat}
    (inside : arrived ≤ total size records) :
    leftover size records arrived ≤
      total size (remaining size records arrived) := by
  rw [← completed_append_remaining size records arrived,
    total_append] at inside
  exact Nat.sub_le_iff_le_add'.mpr inside

end RecordStream
