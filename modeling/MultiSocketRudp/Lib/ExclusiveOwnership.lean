import Mathlib.Logic.Basic

/-!
# Ownership of a marked resource

A resource that one party uses at a time is often guarded by a mark that the
owner sets by compare-and-swap and clears by a plain store.  Nothing but the
protocol keeps a second party from clearing the mark, and the owner may hand the
resource over without touching it, to a device for instance that completes the
work later.

The parties are arbitrary, and owning is a predicate on them that the user
derives from where they stand.  The rules below say which changes of the owners
and of the mark keep the resource exclusive.
-/

namespace ExclusiveOwnership

universe u

variable {Party : Type u}

/-- At most one party owns the resource, and an owned resource is marked. -/
structure Exclusive (Marked : Prop) (Owns : Party → Prop) : Prop where
  /-- An owned resource is marked. -/
  marked : ∀ party, Owns party → Marked
  /-- There is at most one owner. -/
  unique : ∀ one other, Owns one → Owns other → one = other

namespace Exclusive

variable {Marked Marked' : Prop} {Owns Owns' : Party → Prop}

/-- A resource without mark has no owner. -/
theorem not_owns
    (exclusive : Exclusive Marked Owns)
    (free : ¬ Marked) (party : Party) :
    ¬ Owns party :=
  fun owns => free (exclusive.marked party owns)

/-- A resource without owner may be marked and unmarked at will. -/
theorem of_not_owns
    (unowned : ∀ party, ¬ Owns party) :
    Exclusive Marked Owns where
  marked party owns := absurd owns (unowned party)
  unique one _ owns _ := absurd owns (unowned one)

/-- The mark may stay while owners disappear. -/
theorem mono
    (exclusive : Exclusive Marked Owns)
    (fewer : ∀ party, Owns' party → Owns party) :
    Exclusive Marked Owns' where
  marked party owns := exclusive.marked party (fewer party owns)
  unique one other oneOwns otherOwns :=
    exclusive.unique one other (fewer one oneOwns) (fewer other otherOwns)

/-- A party may own a free resource once it has set the mark. -/
theorem acquire
    (exclusive : Exclusive Marked Owns)
    (free : ¬ Marked) (marked : Marked') (newcomer : Party)
    (others : ∀ party, Owns' party → Owns party ∨ party = newcomer) :
    Exclusive Marked' Owns' := by
  have only : ∀ party, Owns' party → party = newcomer := fun party owns =>
    (others party owns).resolve_left (exclusive.not_owns free party)
  exact
    { marked := fun _ _ => marked
      unique := fun one other oneOwns otherOwns =>
        (only one oneOwns).trans (only other otherOwns).symm }

/-- An owner may hand the resource over to a successor. -/
theorem handOver
    (exclusive : Exclusive Marked Owns) {owner : Party}
    (owns : Owns owner) (successor : Party)
    (others : ∀ party, Owns' party →
      Owns party ∧ party ≠ owner ∨ party = successor) :
    Exclusive Marked Owns' := by
  have only : ∀ party, Owns' party → party = successor := by
    intro party owns'
    refine (others party owns').resolve_left fun ⟨before, distinct⟩ => ?_
    exact distinct (exclusive.unique party owner before owns)
  exact
    { marked := fun _ _ => exclusive.marked owner owns
      unique := fun one other oneOwns otherOwns =>
        (only one oneOwns).trans (only other otherOwns).symm }

/-- Its owner may clear the mark when it stops owning. -/
theorem release
    (exclusive : Exclusive Marked Owns) {owner : Party}
    (owns : Owns owner)
    (others : ∀ party, Owns' party → Owns party ∧ party ≠ owner) :
    Exclusive Marked' Owns' := by
  refine of_not_owns fun party owns' => ?_
  obtain ⟨before, distinct⟩ := others party owns'
  exact distinct (exclusive.unique party owner before owns)

end Exclusive

end ExclusiveOwnership
