import Mathlib.Data.List.Basic
import Mathlib.Data.List.Dedup
import Mathlib.Data.List.Induction
import Mathlib.Data.List.Perm.Subperm
import Mathlib.Data.Set.Function

/-!
# In-order delivery

Items arrive in any order, some of them repeatedly, and each has a position.  A
receiver passes them on at the positions 1, 2, 3 and so on, and stops at the
first position that has not arrived.

Where equal positions mean equal items, what has been passed on depends on the
arrivals only, so that two receivers that stop nowhere else agree.

A receiver that holds early items back keeps one for each position ahead.
-/

namespace InOrderDelivery

universe u

variable {Item : Type u} {position : Item → Nat}
variable {arrived passed : List Item}

/-- The passed items have arrived, and their positions are 1, 2, 3 and so on. -/
structure InOrder
    (position : Item → Nat) (arrived passed : List Item) : Prop where
  numbered : passed.map position = List.range' 1 passed.length
  arrived : ∀ item ∈ passed, item ∈ arrived

/-- Nothing has arrived at the next position. -/
def Blocked
    (position : Item → Nat) (arrived passed : List Item) : Prop :=
  ∀ item ∈ arrived, position item ≠ passed.length + 1

namespace InOrder

theorem empty : InOrder position arrived [] where
  numbered := rfl
  arrived _ member := nomatch member

/-- More arrivals change nothing. -/
theorem mono
    (inOrder : InOrder position arrived passed)
    {later : List Item}
    (grows : ∀ item ∈ arrived, item ∈ later) :
    InOrder position later passed where
  numbered := inOrder.numbered
  arrived item member := grows item (inOrder.arrived item member)

/-- An arrived item at the next position can be passed on. -/
theorem pass
    (inOrder : InOrder position arrived passed)
    {item : Item}
    (member : item ∈ arrived)
    (next : position item = passed.length + 1) :
    InOrder position arrived (passed ++ [item]) where
  numbered := by
    rw [List.map_append, inOrder.numbered, List.length_append,
      List.length_singleton, List.range'_concat, List.map_singleton, next,
      Nat.one_mul, Nat.add_comm]
  arrived other passedOn := by
    rcases List.mem_append.mp passedOn with before | last
    · exact inOrder.arrived other before
    · rw [List.mem_singleton.mp last]
      exact member

/-- The item at an index has the position after it. -/
theorem position_getElem
    (inOrder : InOrder position arrived passed)
    {index : Nat}
    (bound : index < passed.length) :
    position passed[index] = index + 1 := by
  have mapped : (passed.map position)[index]? = some (index + 1) := by
    rw [inOrder.numbered, List.getElem?_range' bound, Nat.one_mul, Nat.add_comm]
  simpa [bound] using mapped

/-- Passed items have positive positions up to their number. -/
theorem position_bounds
    (inOrder : InOrder position arrived passed)
    {item : Item}
    (member : item ∈ passed) :
    1 ≤ position item ∧ position item ≤ passed.length := by
  obtain ⟨index, bound, rfl⟩ := List.getElem_of_mem member
  rw [inOrder.position_getElem bound]
  omega

/-- Every positive position up to the number of passed items is passed. -/
theorem exists_position
    (inOrder : InOrder position arrived passed)
    {place : Nat}
    (positive : 1 ≤ place)
    (bound : place ≤ passed.length) :
    ∃ item ∈ passed, position item = place := by
  have inside : place - 1 < passed.length := by omega
  refine ⟨passed[place - 1], List.getElem_mem inside, ?_⟩
  rw [inOrder.position_getElem inside]
  omega

/-- Positions increase along the passed items. -/
theorem pairwise
    (inOrder : InOrder position arrived passed) :
    passed.Pairwise fun first second => position first < position second := by
  have increasing : (passed.map position).Pairwise (· < ·) := by
    rw [inOrder.numbered]
    exact List.pairwise_lt_range'
  exact List.pairwise_map.mp increasing

/-- Positions determine the items that have been passed. -/
theorem injOn
    (inOrder : InOrder position arrived passed) :
    Set.InjOn position {item | item ∈ passed} := by
  intro first firstMember second secondMember same
  obtain ⟨index, bound, rfl⟩ := List.getElem_of_mem firstMember
  obtain ⟨other, otherBound, rfl⟩ := List.getElem_of_mem secondMember
  rw [inOrder.position_getElem bound,
    inOrder.position_getElem otherBound] at same
  obtain rfl : index = other := by omega
  rfl

/-- A prefix of what can be passed can be passed. -/
theorem take
    (inOrder : InOrder position arrived passed)
    (count : Nat) :
    InOrder position arrived (passed.take count) where
  numbered := by
    rw [List.map_take, inOrder.numbered, List.length_take]
    rcases Nat.le_total count passed.length with short | long
    · rw [List.take_range'_of_length_ge short, Nat.min_eq_left short]
    · rw [List.take_range'_of_length_le long, Nat.min_eq_right long]
  arrived item member := inOrder.arrived item (List.mem_of_mem_take member)

/-- What has been passed is determined by its number. -/
theorem eq_of_length_eq
    (consistent : Set.InjOn position {item | item ∈ arrived})
    {other : List Item}
    (first : InOrder position arrived passed)
    (second : InOrder position arrived other)
    (same : passed.length = other.length) :
    passed = other := by
  refine List.ext_getElem same fun index bound otherBound => ?_
  refine consistent
    (first.arrived _ (List.getElem_mem bound))
    (second.arrived _ (List.getElem_mem otherBound)) ?_
  rw [first.position_getElem, second.position_getElem]

/-- A blocked receiver has passed at least as much as any other. -/
theorem length_le_of_blocked
    (blocked : Blocked position arrived passed)
    {other : List Item}
    (inOrder : InOrder position arrived other) :
    other.length ≤ passed.length := by
  by_contra longer
  obtain ⟨item, member, isNext⟩ :=
    inOrder.exists_position (Nat.le_add_left 1 passed.length) (by omega)
  exact blocked item (inOrder.arrived item member) isNext

/-- Blocked receivers of the same arrivals have passed the same items. -/
theorem eq_of_blocked
    (consistent : Set.InjOn position {item | item ∈ arrived})
    {other : List Item}
    (first : InOrder position arrived passed)
    (firstBlocked : Blocked position arrived passed)
    (second : InOrder position arrived other)
    (secondBlocked : Blocked position arrived other) :
    passed = other :=
  first.eq_of_length_eq consistent second
    (Nat.le_antisymm (length_le_of_blocked secondBlocked first)
      (length_le_of_blocked firstBlocked second))

/-- A blocked receiver has passed every position up to which all have arrived. -/
theorem le_length_of_blocked
    (blocked : Blocked position arrived passed)
    {bound : Nat}
    (complete : ∀ place, 1 ≤ place → place ≤ bound →
      ∃ item ∈ arrived, position item = place) :
    bound ≤ passed.length := by
  by_contra short
  obtain ⟨item, member, isNext⟩ :=
    complete (passed.length + 1) (Nat.le_add_left 1 _) (by omega)
  exact blocked item member isNext

/-- The items may be described by others with the same positions. -/
theorem map
    {Other : Type u} {otherPosition : Other → Nat}
    (inOrder : InOrder position arrived passed)
    {describe : Item → Other}
    (same : ∀ item, otherPosition (describe item) = position item) :
    InOrder otherPosition (arrived.map describe) (passed.map describe) where
  numbered := by
    rw [List.map_map, List.length_map, ← inOrder.numbered]
    exact List.map_congr_left fun item _ => same item
  arrived other member := by
    obtain ⟨item, passedOn, rfl⟩ := List.mem_map.mp member
    exact List.mem_map_of_mem (inOrder.arrived item passedOn)

/-- No more items are passed than the greatest position. -/
theorem length_le_of_bound
    (inOrder : InOrder position arrived passed)
    {bound : Nat}
    (bounded : ∀ item ∈ arrived, position item ≤ bound) :
    passed.length ≤ bound := by
  rcases Nat.eq_zero_or_pos passed.length with none | some
  · omega
  · obtain ⟨item, member, isLast⟩ := inOrder.exists_position some le_rfl
    exact isLast ▸ bounded item (inOrder.arrived item member)

/-- No more items are passed than have arrived. -/
theorem length_le (inOrder : InOrder position arrived passed) :
    passed.length ≤ arrived.length := by
  have distinct : passed.Nodup :=
    inOrder.pairwise.imp fun increasing same =>
      absurd (congrArg position same) increasing.ne
  exact (distinct.subperm inOrder.arrived).length_le

end InOrder

theorem Blocked.map
    {Other : Type u} {otherPosition : Other → Nat}
    (blocked : Blocked position arrived passed)
    {describe : Item → Other}
    (same : ∀ item, otherPosition (describe item) = position item) :
    Blocked otherPosition (arrived.map describe) (passed.map describe) := by
  intro other member
  obtain ⟨item, arrivedItem, rfl⟩ := List.mem_map.mp member
  rw [same, List.length_map]
  exact blocked item arrivedItem

/-- An arrival elsewhere leaves a receiver blocked. -/
theorem Blocked.append
    (blocked : Blocked position arrived passed)
    {item : Item}
    (elsewhere : position item ≠ passed.length + 1) :
    Blocked position (arrived ++ [item]) passed := by
  intro other member
  rcases List.mem_append.mp member with old | new
  · exact blocked other old
  · obtain rfl := List.mem_singleton.mp new
    exact elsewhere

/-! ## What is outstanding -/

/-- The least positive position that has not arrived. -/
def nextPosition (position : Item → Nat) (arrived : List Item) : Nat :=
  ((List.range' 1 (arrived.length + 1)).find?
    fun place => place ∉ arrived.map position).getD 0

/-- The number of positions that have arrived ahead of the next one. -/
def outstanding (position : Item → Nat) (arrived : List Item) : Nat :=
  ((arrived.map position).dedup.filter
    fun place => nextPosition position arrived < place).length

/-- A blocked receiver waits for the next position. -/
theorem nextPosition_eq
    (inOrder : InOrder position arrived passed)
    (blocked : Blocked position arrived passed) :
    nextPosition position arrived = passed.length + 1 := by
  have found :
      (List.range' 1 (arrived.length + 1)).find?
          (fun place => place ∉ arrived.map position) =
        some (passed.length + 1) := by
    rw [List.find?_range'_eq_some]
    refine ⟨?_, ?_, ?_⟩
    · simpa [Blocked] using blocked
    · have bound := inOrder.length_le
      simp only [List.mem_range'_1]
      omega
    · intro place positive before
      obtain ⟨item, member, isPlace⟩ :=
        inOrder.exists_position positive (by omega)
      simp only [decide_not, Bool.not_not, decide_eq_true_eq]
      exact List.mem_map.mpr ⟨item, inOrder.arrived item member, isPlace⟩
  rw [nextPosition, found, Option.getD_some]

/-! ## Holding items back -/

/-- A receiver holds the arrived items that are ahead, one for each position. -/
structure Holding
    (position : Item → Nat) (arrived passed held : List Item) : Prop where
  /-- Items have been passed in order. -/
  inOrder : InOrder position arrived passed
  /-- Held items have arrived. -/
  received : ∀ item ∈ held, item ∈ arrived
  /-- Held items are ahead. -/
  ahead : ∀ item ∈ held, passed.length < position item
  /-- No two held items have the same position. -/
  distinct : (held.map position).Nodup
  /-- Whatever has arrived ahead is held. -/
  kept :
    ∀ item ∈ arrived, passed.length < position item →
      position item ∈ held.map position

namespace Holding

variable {held : List Item}

theorem empty : Holding position [] [] [] where
  inOrder := .empty
  received _ member := nomatch member
  ahead _ member := nomatch member
  distinct := .nil
  kept _ member := nomatch member

/-- An item that is not ahead, or whose position is held, changes nothing. -/
theorem ignore
    (holding : Holding position arrived passed held)
    {item : Item}
    (known :
      passed.length < position item → position item ∈ held.map position) :
    Holding position (arrived ++ [item]) passed held where
  inOrder := holding.inOrder.mono fun _ => List.mem_append_left [item]
  received other member := List.mem_append_left _ (holding.received other member)
  ahead := holding.ahead
  distinct := holding.distinct
  kept other member isAhead := by
    rcases List.mem_append.mp member with old | new
    · exact holding.kept other old isAhead
    · obtain rfl := List.mem_singleton.mp new
      exact known isAhead

/-- An item that is ahead is held. -/
theorem hold
    (holding : Holding position arrived passed held)
    {item : Item}
    (isAhead : passed.length < position item)
    (fresh : position item ∉ held.map position) :
    Holding position (arrived ++ [item]) passed (item :: held) where
  inOrder := holding.inOrder.mono fun _ => List.mem_append_left [item]
  received other member := by
    rcases List.mem_cons.mp member with rfl | old
    · exact List.mem_append_right _ List.mem_cons_self
    · exact List.mem_append_left _ (holding.received other old)
  ahead other member := by
    rcases List.mem_cons.mp member with rfl | old
    · exact isAhead
    · exact holding.ahead other old
  distinct := List.nodup_cons.mpr ⟨fresh, holding.distinct⟩
  kept other member otherAhead := by
    rw [List.map_cons, List.mem_cons]
    rcases List.mem_append.mp member with old | new
    · exact .inr (holding.kept other old otherAhead)
    · exact .inl (congrArg position (List.mem_singleton.mp new))

/-- The item at the next position is passed on, and what is held there is
dropped. -/
theorem pass
    (holding : Holding position arrived passed held)
    {item : Item}
    (member : item ∈ arrived)
    (next : position item = passed.length + 1) :
    Holding position arrived (passed ++ [item])
      (held.filter fun other => position other ≠ position item) where
  inOrder := holding.inOrder.pass member next
  received other keeps := holding.received other (List.mem_of_mem_filter keeps)
  ahead other keeps := by
    obtain ⟨old, different⟩ := List.mem_filter.mp keeps
    have isAhead := holding.ahead other old
    simp only [decide_eq_true_eq, next] at different
    rw [List.length_append, List.length_singleton]
    omega
  distinct := holding.distinct.sublist (List.filter_sublist.map position)
  kept other old isAhead := by
    rw [List.length_append, List.length_singleton] at isAhead
    obtain ⟨keeper, keeps, same⟩ :=
      List.mem_map.mp (holding.kept other old (by omega))
    refine List.mem_map.mpr ⟨keeper, List.mem_filter.mpr ⟨keeps, ?_⟩, same⟩
    simp only [same, next, decide_eq_true_eq]
    omega

/-- A blocked receiver holds nothing at the next position. -/
theorem filter_eq_self
    (holding : Holding position arrived passed held)
    (blocked : Blocked position arrived passed)
    {item : Item}
    (next : position item = passed.length + 1) :
    (held.filter fun other => position other ≠ position item) = held := by
  refine List.filter_eq_self.mpr fun other keeps => ?_
  simpa [next] using blocked other (holding.received other keeps)

/-- An item that arrives at the next position is passed on at once. -/
theorem passArrival
    (holding : Holding position arrived passed held)
    (blocked : Blocked position arrived passed)
    {item : Item}
    (next : position item = passed.length + 1) :
    Holding position (arrived ++ [item]) (passed ++ [item])
      (held.filter fun other => position other ≠ position item) := by
  have fresh : position item ∉ held.map position := by
    intro member
    obtain ⟨other, keeps, same⟩ := List.mem_map.mp member
    exact blocked other (holding.received other keeps) (same.trans next)
  have passes :=
    (holding.hold (by omega) fresh).pass
      (List.mem_append_right _ List.mem_cons_self) next
  rwa [List.filter_cons_of_neg (by simp)] at passes

/-- Nothing has arrived at the next position when nothing is held there. -/
theorem blocked
    (holding : Holding position arrived passed held)
    (missing : passed.length + 1 ∉ held.map position) :
    Blocked position arrived passed := by
  intro item member next
  have keeps := holding.kept item member (by omega)
  rw [next] at keeps
  exact missing keeps

/-- No more is held than is outstanding. -/
theorem length_le_outstanding
    (holding : Holding position arrived passed held)
    (blocked : Blocked position arrived passed) :
    held.length ≤ outstanding position arrived := by
  rw [← List.length_map (f := position), outstanding,
    nextPosition_eq holding.inOrder blocked]
  refine (holding.distinct.subperm fun place member => ?_).length_le
  obtain ⟨item, keeps, rfl⟩ := List.mem_map.mp member
  have old := holding.received item keeps
  have isAhead := holding.ahead item keeps
  have different := blocked item old
  refine List.mem_filter.mpr
    ⟨List.mem_dedup.mpr (List.mem_map_of_mem old), ?_⟩
  simp only [decide_eq_true_eq]
  omega

end Holding

/-! ## Runs of a receiver -/

section Runs

variable {State Output : Type*}

/-- What a receiver passes on while items arrive, and its state afterwards. -/
def deliveries
    (receive : State → Item → List Output × State)
    (initial : State)
    (items : List Item) : List Output × State :=
  items.foldl
    (fun run item =>
      (run.1 ++ (receive run.2 item).1, (receive run.2 item).2))
    ([], initial)

/-- What one arrival keeps, all keep, as long as the arrivals so far are
allowed. -/
theorem deliveries_invariant
    (receive : State → Item → List Output × State) (initial : State)
    (Invariant : List Item → List Output → State → Prop)
    (Allowed : List Item → Prop)
    (start : Invariant [] [] initial)
    (step :
      ∀ {arrived passed state} item,
        Invariant arrived passed state →
        Allowed (arrived ++ [item]) →
        Invariant (arrived ++ [item]) (passed ++ (receive state item).1)
          (receive state item).2)
    {items : List Item}
    (allowed : ∀ before, before <+: items → Allowed before) :
    Invariant items (deliveries receive initial items).1
      (deliveries receive initial items).2 := by
  induction items using List.reverseRecOn with
  | nil => exact start
  | append_singleton items item inductionHypothesis =>
      have before :=
        inductionHypothesis fun before isPrefix =>
          allowed before (isPrefix.trans (List.prefix_append items [item]))
      rw [deliveries, List.foldl_concat]
      exact step item before (allowed _ List.prefix_rfl)

end Runs

end InOrderDelivery
