import MultiSocketRudp.BotTester.NodeExecution

/-!
# Assertions in action graphs

An `AssertNode` evaluates its condition and executes its next nodes, or its
failure nodes, within one `try`.  The handler for exceptions executes the failure
nodes and the next nodes, whether the condition has thrown or a node of a branch.
-/

namespace MultiSocketRudp
namespace Assertions

open NodeExecution

/-- `AssertNode`, with its condition in a given world. -/
structure AssertNode (Node World : Type) where
  condition : Option (World → Except Thrown Bool × World)
  errorMessage : Option String
  stopOnFailure : Bool
  nextNodes : List Node
  failureNodes : List Node

/-- The start of a chain, by its index in its branch. -/
inductive Event
  | nextNode (index : Nat)
  | failureNode (index : Nat)
  deriving DecidableEq, Repr

/-- What an execution has started, and what reaches the caller. -/
structure Execution (World : Type) where
  started : List Event
  thrown : Option Thrown
  world : World

section ExecuteImpl

variable {Node World : Type} [DecidableEq Node] [Fintype Node]
variable (graph : Node → ActionNode Node World) (path : Finset Node)

/-- `NextNodes`, with a new set of visited nodes. -/
def executeNextNodes (node : AssertNode Node World) (world : World) :
    Execution World :=
  let branch := executeBranch graph path node.nextNodes world
  ⟨branch.started.map .nextNode, branch.outcome.thrown, branch.outcome.world⟩

/-- `FailureNodes`, with a new set of visited nodes. -/
def executeFailureNodes (node : AssertNode Node World) (world : World) :
    Execution World :=
  let branch := executeBranch graph path node.failureNodes world
  ⟨branch.started.map .failureNode, branch.outcome.thrown, branch.outcome.world⟩

/-- A statement, and the next one when it has not thrown. -/
def Execution.andThen
    (first : Execution World) (next : World → Execution World) :
    Execution World :=
  match first.thrown with
  | some _ => first
  | none =>
      let second := next first.world
      ⟨first.started ++ second.started, second.thrown, second.world⟩

/-- A `try` block and its handler. -/
def Execution.catch
    (tried : Execution World) (handler : Thrown → World → Execution World) :
    Execution World :=
  match tried.thrown with
  | none => tried
  | some exception =>
      let handled := handler exception tried.world
      ⟨tried.started ++ handled.started, handled.thrown, handled.world⟩

/-- The handler for exceptions other than failed assertions. -/
def handleException
    (node : AssertNode Node World) (exception : Thrown) (world : World) :
    Execution World :=
  (executeFailureNodes graph path node world).andThen fun world =>
    if node.stopOnFailure then ⟨[], some exception, world⟩
    else executeNextNodes graph path node world

/-- `AssertNode.ExecuteImpl`. -/
def executeImpl (node : AssertNode Node World) (world : World) :
    Execution World :=
  match node.condition with
  | none => ⟨[], none, world⟩
  | some condition =>
      let tried : Execution World :=
        match condition world with
        | (.error exception, world) => ⟨[], some exception, world⟩
        | (.ok true, world) => executeNextNodes graph path node world
        | (.ok false, world) =>
            let message := node.errorMessage.getD "Assertion failed"
            (executeFailureNodes graph path node world).andThen fun world =>
              if node.stopOnFailure then
                ⟨[], some (.assertionFailed message), world⟩
              else executeNextNodes graph path node world
      tried.catch fun exception world =>
        if exception.isAssertionFailed then ⟨[], some exception, world⟩
        else handleException graph path node exception world

/-! ## What an assertion promises -/

/-- The condition holds. -/
def Passes
    (condition : World → Except Thrown Bool × World) (world : World) : Prop :=
  (condition world).1 = .ok true

/-- Each chain is started at most once, failure nodes only when the condition does
not hold, and a failure that stops reaches the caller before any next node. -/
structure Dispatches
    (node : AssertNode Node World)
    (condition : World → Except Thrown Bool × World) (world : World)
    (execution : Execution World) : Prop where
  once : ∀ event, execution.started.count event ≤ 1
  failure : ∀ index, .failureNode index ∈ execution.started →
    ¬ Passes condition world
  stops : node.stopOnFailure = true → ¬ Passes condition world →
    (∀ index, .nextNode index ∉ execution.started) ∧ execution.thrown ≠ none

/-- Some chain of a branch throws something else than a failed assertion. -/
def Throws (execution : Execution World) : Prop :=
  ∃ exception, execution.thrown = some exception ∧
    exception.isAssertionFailed = false

theorem Throws.thrown {execution : Execution World} (throws : Throws execution) :
    execution.thrown ≠ none := by
  obtain ⟨exception, thrown, -⟩ := throws
  rw [thrown]
  nofun

/-- No chain that runs under the `try` throws anything else than a failed
assertion, unless this only ends an assertion that has passed and has no failure
nodes. -/
def Harmless
    (node : AssertNode Node World)
    (condition : World → Except Thrown Bool × World) (world : World) : Prop :=
  match condition world with
  | (.error _, _) => True
  | (.ok true, world) =>
      Throws (executeNextNodes graph path node world) →
        node.stopOnFailure = true ∧ ∀ failureNode ∈ node.failureNodes,
          failureNode ∈ path
  | (.ok false, world) =>
      ¬ Throws (executeFailureNodes graph path node world) ∧
        (node.stopOnFailure = false →
          (executeFailureNodes graph path node world).thrown = none →
          ¬ Throws (executeNextNodes graph path node
            (executeFailureNodes graph path node world).world))

/-! ## The branches -/

variable {graph path}

section Branches

variable (node : AssertNode Node World) (world : World)

theorem nextNodes_nodup :
    (executeNextNodes graph path node world).started.Nodup :=
  (executeBranch_nodup graph path node.nextNodes world).map fun _ _ => Event.nextNode.inj

theorem failureNodes_nodup :
    (executeFailureNodes graph path node world).started.Nodup :=
  (executeBranch_nodup graph path node.failureNodes world).map
    fun _ _ => Event.failureNode.inj

theorem failureNode_notMem_nextNodes (index : Nat) :
    .failureNode index ∉ (executeNextNodes graph path node world).started := by
  simp [executeNextNodes]

theorem nextNode_notMem_failureNodes (index : Nat) :
    .nextNode index ∉
      (executeFailureNodes graph path node world).started := by
  simp [executeFailureNodes]

/-- A branch of each kind starts no chain twice. -/
theorem failureNodes_nextNodes_nodup (world' : World) :
    ((executeFailureNodes graph path node world).started ++
      (executeNextNodes graph path node world').started).Nodup := by
  refine (failureNodes_nodup node world).append (nextNodes_nodup node world') ?_
  intro event failure next
  cases event with
  | nextNode index => exact nextNode_notMem_failureNodes node world index failure
  | failureNode index =>
      exact failureNode_notMem_nextNodes node world' index next

variable {node world}

/-- A branch that has thrown starts a chain again when it is executed again. -/
theorem nextNodes_repeat
    (thrown : (executeNextNodes graph path node world).thrown ≠ none)
    (world' : World) :
    ¬ ((executeNextNodes graph path node world).started ++
      (executeNextNodes graph path node world').started).Nodup := by
  intro nodup
  obtain ⟨index, first, second⟩ :=
    executeBranch_repeats (executeBranch_thrown thrown) world'
  exact (List.nodup_append.mp nodup).2.2 _ (List.mem_map_of_mem first) _
    (List.mem_map_of_mem second) rfl

theorem failureNodes_repeat
    (begun : (executeFailureNodes graph path node world).started ≠ [])
    (world' : World) :
    ¬ ((executeFailureNodes graph path node world).started ++
      (executeFailureNodes graph path node world').started).Nodup := by
  intro nodup
  have begun' : (executeBranch graph path node.failureNodes world).started ≠
      [] := fun nothing =>
    begun (by rw [executeFailureNodes, nothing]; rfl)
  obtain ⟨index, first, second⟩ := executeBranch_repeats begun' world'
  exact (List.nodup_append.mp nodup).2.2 _ (List.mem_map_of_mem first) _
    (List.mem_map_of_mem second) rfl

theorem failureNodes_started_eq_nil :
    (executeFailureNodes graph path node world).started = [] ↔
      ∀ failureNode ∈ node.failureNodes, failureNode ∈ path := by
  rw [executeFailureNodes, List.map_eq_nil_iff, executeBranch_started_eq_nil]

theorem failureNodes_begun
    (thrown : (executeFailureNodes graph path node world).thrown ≠ none) :
    (executeFailureNodes graph path node world).started ≠ [] := fun nothing =>
  executeBranch_thrown thrown (List.map_eq_nil_iff.mp nothing)

end Branches

/-! ## The handler -/

section Handler

theorem andThen_of_thrown
    {first : Execution World} (thrown : first.thrown ≠ none)
    (next : World → Execution World) :
    first.andThen next = first := by
  rw [Execution.andThen]
  cases reason : first.thrown with
  | none => exact absurd reason thrown
  | some exception => rfl

theorem andThen_of_none
    {first : Execution World} (returned : first.thrown = none)
    (next : World → Execution World) :
    first.andThen next =
      ⟨first.started ++ (next first.world).started,
        (next first.world).thrown, (next first.world).world⟩ := by
  rw [Execution.andThen, returned]

variable (node : AssertNode Node World) (exception : Thrown) (world : World)

/-- The failure nodes, and then the next nodes when nothing stops the handler. -/
theorem handleException_started :
    (handleException graph path node exception world).started =
      (executeFailureNodes graph path node world).started ++
        if (executeFailureNodes graph path node world).thrown = none ∧
            node.stopOnFailure = false then
          (executeNextNodes graph path node
            (executeFailureNodes graph path node world).world).started
        else [] := by
  rw [handleException]
  by_cases returned : (executeFailureNodes graph path node world).thrown = none
  · rw [andThen_of_none returned]
    cases node.stopOnFailure <;> simp [returned]
  · rw [andThen_of_thrown returned]
    simp [returned]

theorem handleException_nodup :
    (handleException graph path node exception world).started.Nodup := by
  rw [handleException_started]
  split_ifs
  · exact failureNodes_nextNodes_nodup node world _
  · rw [List.append_nil]
    exact failureNodes_nodup node world

/-- The handler begins with the failure nodes. -/
theorem failureNodes_sublist_handleException :
    (executeFailureNodes graph path node world).started.Sublist
      (handleException graph path node exception world).started := by
  rw [handleException_started]
  exact List.sublist_append_left _ _

/-- Without failure nodes the handler starts the next nodes at once, if
anything. -/
theorem handleException_of_nil
    (nothing : (executeFailureNodes graph path node world).started = []) :
    (handleException graph path node exception world).started =
      if node.stopOnFailure = false then
        (executeNextNodes graph path node
          (executeFailureNodes graph path node world).world).started
      else [] := by
  have returned : (executeFailureNodes graph path node world).thrown = none := by
    by_contra thrown
    exact failureNodes_begun thrown nothing
  simp only [handleException_started, nothing, returned, true_and,
    List.nil_append]

/-- A handler that stops starts no next node and throws. -/
theorem handleException_stops
    (stop : node.stopOnFailure = true) :
    (∀ index, .nextNode index ∉
      (handleException graph path node exception world).started) ∧
      (handleException graph path node exception world).thrown ≠ none := by
  constructor
  · intro index
    rw [handleException_started, stop]
    simpa using nextNode_notMem_failureNodes node world index
  · rw [handleException]
    by_cases returned :
        (executeFailureNodes graph path node world).thrown = none
    · rw [andThen_of_none returned]
      simp [stop]
    · rw [andThen_of_thrown returned]
      exact returned

end Handler

/-! ## The outcome -/

/-- What has been tried stands, unless it throws something else than a failed
assertion. -/
theorem executeImpl_eq
    {node : AssertNode Node World}
    {condition : World → Except Thrown Bool × World}
    (defined : node.condition = some condition) (world : World) :
    executeImpl graph path node world =
      let tried : Execution World :=
        match condition world with
        | (.error exception, world) => ⟨[], some exception, world⟩
        | (.ok true, world) => executeNextNodes graph path node world
        | (.ok false, world) =>
            (executeFailureNodes graph path node world).andThen fun world =>
              if node.stopOnFailure then
                ⟨[], some (.assertionFailed
                  (node.errorMessage.getD "Assertion failed")), world⟩
              else executeNextNodes graph path node world
      tried.catch fun exception world =>
        if exception.isAssertionFailed then ⟨[], some exception, world⟩
        else handleException graph path node exception world := by
  rw [executeImpl, defined]

theorem catch_of_not_throws
    {tried : Execution World} (harmless : ¬ Throws tried)
    (handler : Thrown → World → Execution World) :
    tried.catch (fun exception world =>
      if exception.isAssertionFailed then ⟨[], some exception, world⟩
      else handler exception world) = tried := by
  rw [Execution.catch]
  cases reason : tried.thrown with
  | none => rfl
  | some exception =>
      have asserted : exception.isAssertionFailed = true := by
        by_contra other
        exact harmless ⟨exception, reason, Bool.not_eq_true _ ▸ other⟩
      simp only [asserted, if_true, List.append_nil]
      rw [← reason]

theorem catch_of_throws
    {tried : Execution World} (throws : Throws tried)
    (handler : Thrown → World → Execution World) :
    ∃ exception,
      tried.catch (fun exception world =>
        if exception.isAssertionFailed then ⟨[], some exception, world⟩
        else handler exception world) =
      ⟨tried.started ++ (handler exception tried.world).started,
        (handler exception tried.world).thrown,
        (handler exception tried.world).world⟩ := by
  obtain ⟨exception, reason, other⟩ := throws
  refine ⟨exception, ?_⟩
  rw [Execution.catch, reason]
  simp [other]

variable {node : AssertNode Node World}
variable {condition : World → Except Thrown Bool × World}
variable {world after : World}

/-- A condition that throws is handled once. -/
theorem dispatches_of_error
    (defined : node.condition = some condition)
    {exception : Thrown}
    (evaluated : condition world = (.error exception, after)) :
    Dispatches node condition world (executeImpl graph path node world) := by
  have fails : ¬ Passes condition world := by
    rw [Passes, evaluated]
    nofun
  rw [executeImpl_eq defined, evaluated]
  by_cases throws : Throws (⟨[], some exception, after⟩ : Execution World)
  · obtain ⟨reason, caught⟩ := catch_of_throws throws
      (handleException graph path node)
    simp only [caught, List.nil_append]
    exact
      { once := List.nodup_iff_count_le_one.mp
          (handleException_nodup node reason after)
        failure := fun _ _ => fails
        stops := fun stop _ => handleException_stops node reason after stop }
  · simp only [catch_of_not_throws throws]
    exact
      { once := fun event => by simp
        failure := fun _ _ => fails
        stops := fun _ _ => ⟨fun _ => nofun, nofun⟩ }

/-- A condition that holds leads to the next nodes, and an exception there to the
failure nodes. -/
theorem dispatches_of_true
    (defined : node.condition = some condition)
    (evaluated : condition world = (.ok true, after)) :
    Dispatches node condition world (executeImpl graph path node world) ↔
      (Throws (executeNextNodes graph path node after) →
        node.stopOnFailure = true ∧
          ∀ failureNode ∈ node.failureNodes, failureNode ∈ path) := by
  have passes : Passes condition world := by
    rw [Passes, evaluated]
  rw [executeImpl_eq defined, evaluated]
  by_cases throws : Throws (executeNextNodes graph path node after)
  · obtain ⟨reason, caught⟩ := catch_of_throws throws
      (handleException graph path node)
    have thrown : (executeNextNodes graph path node after).thrown ≠ none :=
      throws.thrown
    simp only [caught, throws, true_implies]
    generalize (executeNextNodes graph path node after).world = left
    have behind : (executeFailureNodes graph path node left).started = [] ↔
        ∀ failureNode ∈ node.failureNodes, failureNode ∈ path :=
      failureNodes_started_eq_nil
    rw [← behind]
    constructor
    · intro dispatches
      have nothing :
          (executeFailureNodes graph path node left).started = [] := by
        by_contra begun
        obtain ⟨event, among⟩ := List.exists_mem_of_ne_nil _ begun
        obtain ⟨index, -, rfl⟩ := List.mem_map.mp among
        exact dispatches.failure index (List.mem_append_right _
          ((failureNodes_sublist_handleException node reason left).mem among))
          passes
      refine ⟨?_, nothing⟩
      by_contra continues
      rw [Bool.not_eq_true] at continues
      have nodup := List.nodup_iff_count_le_one.mpr dispatches.once
      rw [handleException_of_nil node reason left nothing, if_pos continues]
        at nodup
      exact nextNodes_repeat thrown _ nodup
    · rintro ⟨stop, nothing⟩
      rw [handleException_of_nil node reason left nothing,
        if_neg (by simp [stop]), List.append_nil]
      exact
        { once := List.nodup_iff_count_le_one.mp (nextNodes_nodup node after)
          failure := fun index among =>
            absurd among (failureNode_notMem_nextNodes node after index)
          stops := fun _ fails => absurd passes fails }
  · simp only [catch_of_not_throws throws, throws, false_implies, iff_true]
    exact
      { once := List.nodup_iff_count_le_one.mp (nextNodes_nodup node after)
        failure := fun index among =>
          absurd among (failureNode_notMem_nextNodes node after index)
        stops := fun _ fails => absurd passes fails }

/-- A condition that does not hold leads to the failure nodes, and an exception
behind it to the failure nodes once more. -/
theorem dispatches_of_false
    (defined : node.condition = some condition)
    (evaluated : condition world = (.ok false, after)) :
    Dispatches node condition world (executeImpl graph path node world) ↔
      ¬ Throws (executeFailureNodes graph path node after) ∧
        (node.stopOnFailure = false →
          (executeFailureNodes graph path node after).thrown = none →
          ¬ Throws (executeNextNodes graph path node
            (executeFailureNodes graph path node after).world)) := by
  have fails : ¬ Passes condition world := by
    rw [Passes, evaluated]
    nofun
  rw [executeImpl_eq defined, evaluated]
  by_cases throws : Throws (executeFailureNodes graph path node after)
  · have thrown : (executeFailureNodes graph path node after).thrown ≠ none :=
      throws.thrown
    obtain ⟨reason, caught⟩ := catch_of_throws throws
      (handleException graph path node)
    simp only [andThen_of_thrown thrown, caught, throws, not_true_eq_false,
      false_and, iff_false]
    intro dispatches
    have nodup := List.nodup_iff_count_le_one.mpr dispatches.once
    exact failureNodes_repeat (failureNodes_begun thrown) _ (nodup.sublist
      ((List.Sublist.refl _).append
        (failureNodes_sublist_handleException node reason _)))
  simp only [throws, not_false_eq_true, true_and]
  by_cases returned : (executeFailureNodes graph path node after).thrown = none
  case neg =>
    simp only [andThen_of_thrown returned, catch_of_not_throws throws, returned,
      false_implies, implies_true, iff_true]
    exact
      { once := List.nodup_iff_count_le_one.mp (failureNodes_nodup node after)
        failure := fun _ _ => fails
        stops := fun _ _ =>
          ⟨nextNode_notMem_failureNodes node after, returned⟩ }
  cases stop : node.stopOnFailure with
  | true =>
      have asserted (message : String) : ¬ Throws
          (⟨(executeFailureNodes graph path node after).started,
            some (.assertionFailed message),
            (executeFailureNodes graph path node after).world⟩ :
              Execution World) := by
        rintro ⟨exception, thrown, other⟩
        cases thrown
        cases other
      simp only [andThen_of_none returned, if_true, List.append_nil,
        catch_of_not_throws (asserted _), Bool.true_eq_false, false_implies,
        iff_true]
      exact
        { once := List.nodup_iff_count_le_one.mp (failureNodes_nodup node after)
          failure := fun _ _ => fails
          stops := fun _ _ => ⟨nextNode_notMem_failureNodes node after, nofun⟩ }
  | false =>
      simp only [andThen_of_none returned, Bool.false_eq_true, if_false,
        returned, true_implies]
      generalize continued : executeNextNodes graph path node
        (executeFailureNodes graph path node after).world = next
      by_cases throwsNext : Throws next
      · have throwsLater : Throws (⟨(executeFailureNodes graph path node
            after).started ++ next.started, next.thrown, next.world⟩ :
              Execution World) := throwsNext
        obtain ⟨reason, caught⟩ := catch_of_throws throwsLater
          (handleException graph path node)
        simp only [caught, throwsNext, not_true_eq_false, iff_false]
        intro dispatches
        have nodup := List.nodup_iff_count_le_one.mpr dispatches.once
        -- The handler starts a failure node again, or else a next node.
        by_cases nothing :
            (executeFailureNodes graph path node next.world).started = []
        · rw [handleException_of_nil node reason _ nothing, if_pos stop] at nodup
          subst continued
          exact nextNodes_repeat throwsNext.thrown _ (nodup.sublist
            ((List.sublist_append_right _ _).append (List.Sublist.refl _)))
        · have begun :
              (executeFailureNodes graph path node after).started ≠ [] :=
            fun empty => nothing (failureNodes_started_eq_nil.mpr
              (failureNodes_started_eq_nil.mp empty))
          exact failureNodes_repeat begun next.world (nodup.sublist
            ((List.sublist_append_left _ _).append
              (failureNodes_sublist_handleException node reason _)))
      · have harmless : ¬ Throws (⟨(executeFailureNodes graph path node
            after).started ++ next.started, next.thrown, next.world⟩ :
              Execution World) := throwsNext
        simp only [catch_of_not_throws harmless, throwsNext, not_false_eq_true,
          iff_true]
        subst continued
        exact
          { once := List.nodup_iff_count_le_one.mp
              (failureNodes_nextNodes_nodup node after _)
            failure := fun _ _ => fails
            stops := fun stops _ => absurd (stop ▸ stops) Bool.false_ne_true }

/-- An assertion dispatches as it promises if and only if no chain throws anything
else than a failed assertion under its `try`, or this only ends an assertion that
has passed and has no failure nodes. -/
theorem dispatches_iff_harmless
    (defined : node.condition = some condition)
    (world : World) :
    Dispatches node condition world (executeImpl graph path node world) ↔
      Harmless graph path node condition world := by
  rw [Harmless]
  match evaluated : condition world with
  | (.error exception, after) =>
      exact iff_of_true (dispatches_of_error defined evaluated) trivial
  | (.ok true, after) => exact dispatches_of_true defined evaluated
  | (.ok false, after) => exact dispatches_of_false defined evaluated

end ExecuteImpl

/-- An assertion that passes, with the throwing node behind it and the other one
for a failure. -/
def passingNode : AssertNode Bool Unit where
  condition := some fun world => (.ok true, world)
  errorMessage := none
  stopOnFailure := true
  nextNodes := [true]
  failureNodes := [false]

/-- The same assertion with the nodes exchanged. -/
def quietNode : AssertNode Bool Unit :=
  { passingNode with nextNodes := [false], failureNodes := [true] }

theorem quietNode_dispatches_iff :
    Dispatches quietNode (fun world => (.ok true, world)) ()
        (executeImpl throwingGraph ∅ quietNode ()) ↔
      Harmless throwingGraph ∅ quietNode (fun world => (.ok true, world)) () :=
  dispatches_iff_harmless rfl ()

/-- A next node throws, and the failure node of the assertion is executed although
its condition holds. -/
theorem passingNode_fails :
    ¬ ∀ (graph : Bool → ActionNode Bool Unit) (path : Finset Bool)
        (node : AssertNode Bool Unit)
        (condition : Unit → Except Thrown Bool × Unit) (world : Unit),
      node.condition = some condition →
      Dispatches node condition world (executeImpl graph path node world) := by
  intro holds
  exact (holds throwingGraph ∅ passingNode _ () rfl).failure 0 (by decide) rfl

end Assertions
end MultiSocketRudp
