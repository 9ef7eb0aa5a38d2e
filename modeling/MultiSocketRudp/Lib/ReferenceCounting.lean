import Mathlib.Logic.Function.Basic
import Mathlib.Tactic.Common

/-!
# Reference counting

A pool hands out objects that carry a count.  Making an object gives its maker
one reference, adding a reference increments the count, and freeing one
decrements it; the object goes back to the pool when the count was one.  Nothing
ties the counts to the references that are around.

References are abstracted to a function that tells how many there are to each
object.  The rules below say how it must change with each operation for the
counts to stay exact.
-/

namespace ReferenceCounting

universe u v

variable {Id : Type u}

/-- The counts of all objects, and how often each has been returned. -/
structure Pool (Id : Type u) where
  made : Id → Bool
  refCount : Id → Int
  returned : Id → Nat

namespace Pool

/-- A pool that has made no object. -/
def empty : Pool Id where
  made _ := false
  refCount _ := 0
  returned _ := 0

variable [DecidableEq Id]

/-- A new object with one reference. -/
def make (pool : Pool Id) (id : Id) : Pool Id :=
  { pool with
    made := Function.update pool.made id true
    refCount := Function.update pool.refCount id 1 }

/-- One more reference to an object. -/
def add (pool : Pool Id) (id : Id) : Pool Id :=
  { pool with
    refCount := Function.update pool.refCount id (pool.refCount id + 1) }

/-- One reference less; the last one returns the object. -/
def free (pool : Pool Id) (id : Id) : Pool Id :=
  { pool with
    refCount := Function.update pool.refCount id (pool.refCount id - 1)
    returned :=
      if pool.refCount id = 1 then
        Function.update pool.returned id (pool.returned id + 1)
      else pool.returned }

/-- One more reference to each of several objects. -/
def addAll (pool : Pool Id) (ids : List Id) : Pool Id :=
  ids.foldl add pool

/-- Several references are freed one after the other. -/
def freeAll (pool : Pool Id) (ids : List Id) : Pool Id :=
  ids.foldl free pool

/-- Adding references makes no object. -/
@[simp] theorem made_addAll (pool : Pool Id) (ids : List Id) :
    (pool.addAll ids).made = pool.made := by
  induction ids generalizing pool with
  | nil => rfl
  | cons id ids inductionHypothesis => exact inductionHypothesis (pool.add id)

/-- Freeing makes no object. -/
@[simp] theorem made_freeAll (pool : Pool Id) (ids : List Id) :
    (pool.freeAll ids).made = pool.made := by
  induction ids generalizing pool with
  | nil => rfl
  | cons id ids inductionHypothesis => exact inductionHypothesis (pool.free id)

end Pool

section Point

variable [DecidableEq Id]

/-- One reference to the object, and none to any other. -/
def point (id other : Id) : Nat :=
  if other = id then 1 else 0

@[simp] theorem point_self (id : Id) : point id id = 1 :=
  if_pos rfl

theorem point_of_ne {id other : Id} (distinct : other ≠ id) :
    point id other = 0 :=
  if_neg distinct

/-- The references in a list are those of its first element and those of the
rest. -/
theorem count_cons (id other : Id) (ids : List Id) :
    (id :: ids).count other = point id other + ids.count other := by
  by_cases same : other = id
  · subst same
    rw [List.count_cons_self, point_self, Nat.add_comm]
  · rw [List.count_cons_of_ne (Ne.symm same), point_of_ne same, Nat.zero_add]

/-- Taking an element out of a list takes its reference away. -/
theorem count_filterMap_erase
    {Entry : Type v} [BEq Entry] [LawfulBEq Entry]
    (refers : Entry → Option Id) {entry : Entry} {entries : List Entry}
    (member : entry ∈ entries) (other : Id) :
    (entries.filterMap refers).count other =
      ((entries.erase entry).filterMap refers).count other +
        (refers entry).toList.count other := by
  have taken := ((List.perm_cons_erase member).filterMap refers).count_eq other
  rw [taken]
  cases stands : refers entry with
  | none => simp [stands]
  | some id =>
      rw [List.filterMap_cons_some stands, count_cons, Option.toList_some,
        count_cons, List.count_nil]
      omega

/-- Also where each element refers to one object. -/
theorem count_map_erase
    {Entry : Type v} [BEq Entry] [LawfulBEq Entry]
    (refers : Entry → Id) {entry : Entry} {entries : List Entry}
    (member : entry ∈ entries) (other : Id) :
    (entries.map refers).count other =
      ((entries.erase entry).map refers).count other +
        point (refers entry) other := by
  have taken := ((List.perm_cons_erase member).map refers).count_eq other
  rw [taken, List.map_cons, count_cons]
  omega

end Point

/-- The count of each object is the number of its references, and an object has
been returned once if it has none left. -/
structure Conserved (pool : Pool Id) (references : Id → Nat) : Prop where
  counted : ∀ id, pool.refCount id = references id
  returned : ∀ id, pool.returned id =
    if pool.made id = true ∧ references id = 0 then 1 else 0
  made : ∀ id, references id ≠ 0 → pool.made id = true

namespace Conserved

variable {pool : Pool Id} {references references' : Id → Nat}

/-- Without objects nothing refers to any. -/
theorem empty : Conserved (.empty : Pool Id) fun _ => 0 where
  counted _ := rfl
  returned _ := rfl
  made _ referred := absurd rfl referred

/-- References may move. -/
theorem move
    (conserved : Conserved pool references)
    (same : ∀ id, references' id = references id) :
    Conserved pool references' := by
  obtain rfl : references' = references := funext same
  exact conserved

variable [DecidableEq Id]

/-- The maker of a new object refers to it. -/
theorem make
    (conserved : Conserved pool references) {id : Id}
    (fresh : pool.made id = false)
    (more : ∀ other,
      references' other = references other + point id other) :
    Conserved (pool.make id) references' := by
  have none : references id = 0 := by
    by_contra referred
    exact nomatch fresh.symm.trans (conserved.made id referred)
  have unreturned : pool.returned id = 0 := by
    simp [conserved.returned id, fresh]
  refine ⟨fun other => ?_, fun other => ?_, fun other referred => ?_⟩
  all_goals
    have references := more other
    unfold point at references
    by_cases same : other = id
  · subst same
    simp [Pool.make, references, none]
  · simp [Pool.make, references, same, conserved.counted other]
  · subst same
    simp [Pool.make, references, none, unreturned]
  · simp [Pool.make, references, same, conserved.returned other]
  · subst same
    simp [Pool.make]
  · have before := conserved.made other (by simpa [references, same] using referred)
    simpa [Pool.make, same] using before

/-- Whoever has a reference may add one. -/
theorem add
    (conserved : Conserved pool references) {id : Id}
    (referred : references id ≠ 0)
    (more : ∀ other,
      references' other = references other + point id other) :
    Conserved (pool.add id) references' := by
  refine ⟨fun other => ?_, fun other => ?_, fun other _ => ?_⟩
  all_goals
    have references := more other
    unfold point at references
    by_cases same : other = id
  · subst same
    simp [Pool.add, references, conserved.counted other]
  · simp [Pool.add, references, same, conserved.counted other]
  · subst same
    simp [Pool.add, references, referred, conserved.returned other]
  · simp [Pool.add, references, same, conserved.returned other]
  · subst same
    exact conserved.made other referred
  · refine conserved.made other ?_
    simp_all

/-- Also to each of several objects. -/
theorem addAll
    {ids : List Id}
    (conserved : Conserved pool references)
    (referred : ∀ id ∈ ids, references id ≠ 0)
    (more : ∀ other,
      references' other = references other + ids.count other) :
    Conserved (pool.addAll ids) references' := by
  induction ids generalizing pool references with
  | nil => exact conserved.move fun other => by simp [more other]
  | cons id ids inductionHypothesis =>
      have added : Conserved (pool.add id)
          fun other => references other + point id other :=
        conserved.add (referred id List.mem_cons_self) fun _ => rfl
      refine inductionHypothesis added (fun other among => ?_) fun other => ?_
      · have before := referred other (List.mem_cons_of_mem id among)
        omega
      · rw [more other, count_cons]
        omega

/-- Freeing a reference gives it up. -/
theorem free
    (conserved : Conserved pool references) {id : Id}
    (less : ∀ other,
      references other = references' other + point id other) :
    Conserved (pool.free id) references' := by
  have made : pool.made id = true := by
    refine conserved.made id ?_
    simp [less id]
  refine ⟨fun other => ?_, fun other => ?_, fun other referred => ?_⟩
  all_goals
    have references := less other
    unfold point at references
    have counted := conserved.counted other
    have returned := conserved.returned other
    by_cases same : other = id
  · subst same
    simp [Pool.free, counted, references]
  · simp [Pool.free, same, counted, references]
  · subst same
    by_cases last : references' other = 0
    · simp [Pool.free, counted, returned, references, last, made]
    · have more : (references' other : Int) + 1 ≠ 1 := by omega
      simp [Pool.free, counted, returned, references, last, more]
  · by_cases last : pool.refCount id = 1
    · simp [Pool.free, last, same, returned, references]
    · simp [Pool.free, last, same, returned, references]
  · subst same
    exact made
  · refine conserved.made other ?_
    simpa [references, same] using referred

/-- So does freeing several. -/
theorem freeAll
    {ids : List Id}
    (conserved : Conserved pool references)
    (less : ∀ other,
      references other = references' other + ids.count other) :
    Conserved (pool.freeAll ids) references' := by
  induction ids generalizing pool references with
  | nil => exact conserved.move fun other => by simp [less other]
  | cons id ids inductionHypothesis =>
      have freed : Conserved (pool.free id)
          fun other => references' other + ids.count other := by
        refine conserved.free fun other => ?_
        rw [less other, count_cons]
        omega
      exact inductionHypothesis freed fun _ => rfl

end Conserved

/-! ## Objects that are numbered as they are made -/

/-- The counts are exact, and no object has the next number or a later one. -/
structure Ledger
    (pool : Pool Nat) (nextId : Nat) (references : Nat → Nat) : Prop where
  conserved : Conserved pool references
  fresh : ∀ id, nextId ≤ id → pool.made id = false

namespace Ledger

variable {pool : Pool Nat} {nextId : Nat} {references references' : Nat → Nat}

theorem empty : Ledger .empty 0 fun _ => 0 where
  conserved := .empty
  fresh _ _ := rfl

/-- References may move. -/
theorem move
    (ledger : Ledger pool nextId references)
    (same : ∀ id, references' id = references id) :
    Ledger pool nextId references' :=
  ⟨ledger.conserved.move same, ledger.fresh⟩

/-- The maker of the next object refers to it. -/
theorem make
    (ledger : Ledger pool nextId references)
    (more : ∀ other,
      references' other = references other + point nextId other) :
    Ledger (pool.make nextId) (nextId + 1) references' := by
  refine ⟨ledger.conserved.make (ledger.fresh nextId (Nat.le_refl _)) more,
    fun id unmade => ?_⟩
  change Function.update pool.made nextId true id = false
  rw [Function.update_of_ne (Nat.ne_of_gt unmade)]
  exact ledger.fresh id (Nat.le_of_succ_le unmade)

/-- Whoever has a reference may add one. -/
theorem add
    (ledger : Ledger pool nextId references) {id : Nat}
    (referred : references id ≠ 0)
    (more : ∀ other,
      references' other = references other + point id other) :
    Ledger (pool.add id) nextId references' :=
  ⟨ledger.conserved.add referred more, ledger.fresh⟩

/-- Also to each of several objects. -/
theorem addAll
    (ledger : Ledger pool nextId references) {ids : List Nat}
    (referred : ∀ id ∈ ids, references id ≠ 0)
    (more : ∀ other,
      references' other = references other + ids.count other) :
    Ledger (pool.addAll ids) nextId references' := by
  refine ⟨ledger.conserved.addAll referred more, ?_⟩
  rw [Pool.made_addAll]
  exact ledger.fresh

/-- Freeing a reference gives it up. -/
theorem free
    (ledger : Ledger pool nextId references) {id : Nat}
    (less : ∀ other,
      references other = references' other + point id other) :
    Ledger (pool.free id) nextId references' :=
  ⟨ledger.conserved.free less, ledger.fresh⟩

/-- So does freeing several. -/
theorem freeAll
    (ledger : Ledger pool nextId references) {ids : List Nat}
    (less : ∀ other,
      references other = references' other + ids.count other) :
    Ledger (pool.freeAll ids) nextId references' := by
  refine ⟨ledger.conserved.freeAll less, ?_⟩
  rw [Pool.made_freeAll]
  exact ledger.fresh

/-- Nothing refers to an object that has not been made. -/
theorem unreferred
    (ledger : Ledger pool nextId references) {id : Nat}
    (unmade : nextId ≤ id) :
    references id = 0 := by
  by_contra referred
  have made := ledger.conserved.made id referred
  exact absurd (made.symm.trans (ledger.fresh id unmade)) nofun

end Ledger

end ReferenceCounting
