import MultiSocketRudp.Lib.FinishingOrder
import Mathlib.Data.Finset.Basic

/-!
# The validation of an action graph's cycles

`ValidateCycles` searches the graph from each trigger node, depth first, and with
one set of visited nodes for all of them.  An edge to a node that is still being
searched closes a cycle.  It is expected at a loop or a repeat timer and an error
anywhere else.
-/

namespace MultiSocketRudp
namespace GraphValidator

/-! ## Action graphs -/

/-- The nodes that lead to others in a way of their own, with these others. -/
inductive NodeKind (Node : Type)
  | action
  | conditionalNode (trueNodes falseNodes : List Node)
  | loopNode (loopBody exitNodes : List Node)
  | repeatTimerNode (repeatBody : List Node)
  | waitForPacketNode (timeoutNodes : List Node)
  | assertNode (failureNodes : List Node)
  | retryNode (retryBody successNodes failureNodes : List Node)
  | randomChoiceNode (choices : List (Option Node))

/-- `ActionNodeBase`. -/
structure ActionNode (Node : Type) where
  name : String
  hasTrigger : Bool
  nextNodes : List Node
  kind : NodeKind Node

namespace ActionNode

variable {Node : Type}

/-- `node is LoopNode or RepeatTimerNode`. -/
def isLoopOrRepeatTimer (node : ActionNode Node) : Bool :=
  match node.kind with
  | .loopNode _ _ | .repeatTimerNode _ => true
  | _ => false

/-- `GraphValidator.GetAllNextNodes`. -/
def getAllNextNodes (node : ActionNode Node) : List Node :=
  node.nextNodes ++
    match node.kind with
    | .action => []
    | .conditionalNode trueNodes falseNodes => trueNodes ++ falseNodes
    | .loopNode loopBody exitNodes => loopBody ++ exitNodes
    | .repeatTimerNode repeatBody => repeatBody
    | .waitForPacketNode timeoutNodes => timeoutNodes
    | .assertNode failureNodes => failureNodes
    | .retryNode retryBody successNodes failureNodes =>
        retryBody ++ successNodes ++ failureNodes
    | .randomChoiceNode choices => choices.filterMap id

end ActionNode

/-! ## `GraphValidationResult` -/

/-- `ValidationSeverity`. -/
inductive ValidationSeverity
  | error
  | warning
  | info
  deriving DecidableEq, Repr

/-- `ValidationIssue`. -/
structure ValidationIssue where
  severity : ValidationSeverity
  nodeName : String
  message : String
  category : String
  deriving DecidableEq, Repr

/-- `GraphValidationResult.ErrorCount`. -/
def errorCount (issues : List ValidationIssue) : Nat :=
  issues.countP fun issue => issue.severity = .error

/-! ## `ValidateCycles` -/

section ValidateCycles

variable {Node : Type} [DecidableEq Node]

/-- What the searches share. -/
structure Search (Node : Type) where
  visited : Finset Node := ∅
  recursionStack : Finset Node := ∅
  /-- The issues of the `GraphValidationResult`. -/
  issues : List ValidationIssue

namespace Search

/-- The search of a node begins. -/
def enter (search : Search Node) (node : Node) : Search Node :=
  { search with
    visited := insert node search.visited
    recursionStack := insert node search.recursionStack }

/-- The search of a node ends. -/
def leave (search : Search Node) (node : Node) : Search Node :=
  { search with recursionStack := search.recursionStack.erase node }

/-- `GraphValidationResult.AddError` and `AddInfo`, in the category `Cycles`. -/
def report
    (search : Search Node)
    (severity : ValidationSeverity)
    (nodeName message : String) :
    Search Node :=
  { search with
    issues := search.issues ++ [⟨severity, nodeName, message, "Cycles"⟩] }

end Search

/-- The loop of `DetectCycle` through the next nodes, with the call for a node
that has not been visited. -/
def detectCycleAmong
    (graph : Node → ActionNode Node)
    (detect : Node → Search Node → Bool × Search Node)
    (node : Node) (path : List String) :
    List Node → Search Node → Bool × Search Node
  | [], search => (false, search)
  | next :: nextNodes, search =>
      if next ∉ search.visited then
        match detect next search with
        | (true, search) => (true, search)
        | (false, search) =>
            detectCycleAmong graph detect node path nextNodes search
      else if next ∈ search.recursionStack then
        if (graph node).isLoopOrRepeatTimer then
          detectCycleAmong graph detect node path nextNodes
            (search.report .info (graph node).name "Expected loop structure")
        else
          let cyclePath := " → ".intercalate path ++ " → " ++ (graph next).name
          (true, search.report .error (graph node).name
            ("Circular dependency: " ++ cyclePath))
      else detectCycleAmong graph detect node path nextNodes search

/-- `GraphValidator.DetectCycle`.  So many levels are left: none at a depth of more
than 500. -/
def detectCycle (graph : Node → ActionNode Node) :
    Nat → Node → List String → Search Node → Bool × Search Node
  | 0, node, _, search =>
      (true, search.report .error (graph node).name
        "Graph depth exceeds 500 levels. Possible infinite recursion.")
  | levels + 1, node, path, search =>
      let path := path ++ [(graph node).name]
      match detectCycleAmong graph
          (fun next => detectCycle graph levels next path) node path
          (graph node).getAllNextNodes (search.enter node) with
      | (true, search) => (true, search)
      | (false, search) => (false, search.leave node)

/-- The deepest level that is searched. -/
def maxDepth : Nat := 500

/-- The loop of `ValidateCycles` through the trigger nodes. -/
def searchTriggers (graph : Node → ActionNode Node) :
    List Node → Search Node → Search Node
  | [], search => search
  | node :: nodes, search =>
      searchTriggers graph nodes <|
        if node ∉ search.visited then
          (detectCycle graph (maxDepth + 1) node [] search).2
        else search

/-- `GraphValidator.ValidateCycles`: the issues with those that it adds. -/
def validateCycles
    (graph : Node → ActionNode Node)
    (nodes : List Node)
    (issues : List ValidationIssue) :
    List ValidationIssue :=
  let triggers := nodes.filter fun node => (graph node).hasTrigger
  (searchTriggers graph triggers { issues }).issues

end ValidateCycles

/-! ## Errors -/

section ValidateCycles

variable {Node : Type}
variable (graph : Node → ActionNode Node)

/-- A search adds issues, and it adds an error when it gives up. -/
def Reports (search : Search Node) (result : Bool × Search Node) : Prop :=
  errorCount search.issues ≤ errorCount result.2.issues ∧
    (result.1 = true →
      errorCount search.issues < errorCount result.2.issues)

theorem errorCount_report
    (search : Search Node) (severity : ValidationSeverity)
    (nodeName message : String) :
    errorCount (search.report severity nodeName message).issues =
      errorCount search.issues + if severity = .error then 1 else 0 := by
  simp [Search.report, errorCount]

variable [DecidableEq Node]

theorem detectCycleAmong_reports
    {detect : Node → Search Node → Bool × Search Node}
    (reports : ∀ next search, Reports search (detect next search))
    (node : Node) (path : List String)
    (nextNodes : List Node) (search : Search Node) :
    Reports search
      (detectCycleAmong graph detect node path nextNodes search) := by
  induction nextNodes generalizing search with
  | nil => exact ⟨le_refl _, nofun⟩
  | cons next nextNodes inductionHypothesis =>
      by_cases unvisited : next ∉ search.visited
      · have first := reports next search
        rw [detectCycleAmong, if_pos unvisited]
        match result : detect next search with
        | (true, after) =>
            rw [result] at first
            exact first
        | (false, after) =>
            rw [result] at first
            have later := inductionHypothesis after
            exact ⟨first.1.trans later.1, fun found =>
              first.1.trans_lt (later.2 found)⟩
      · rw [detectCycleAmong, if_neg unvisited]
        split_ifs with active expected
        · have later := inductionHypothesis (search.report .info
            (graph node).name "Expected loop structure")
          rw [Reports, errorCount_report] at later
          exact later
        · rw [Reports, errorCount_report]
          exact ⟨Nat.le_succ _, fun _ => Nat.lt_succ_self _⟩
        · exact inductionHypothesis search

theorem detectCycle_reports
    (levels : Nat) (node : Node) (path : List String)
    (search : Search Node) :
    Reports search (detectCycle graph levels node path search) := by
  induction levels generalizing node path search with
  | zero =>
      rw [detectCycle, Reports, errorCount_report]
      exact ⟨Nat.le_succ _, fun _ => Nat.lt_succ_self _⟩
  | succ levels inductionHypothesis =>
      have among := detectCycleAmong_reports graph
        (fun next search => inductionHypothesis next
          (path ++ [(graph node).name]) search)
        node (path ++ [(graph node).name]) (graph node).getAllNextNodes
        (search.enter node)
      rw [detectCycle]
      split <;> rename_i result <;> rw [result] at among
      · exact among
      · exact ⟨among.1, nofun⟩

theorem errorCount_searchTriggers_le
    (triggers : List Node) (search : Search Node) :
    errorCount search.issues ≤
      errorCount (searchTriggers graph triggers search).issues := by
  induction triggers generalizing search with
  | nil => exact le_refl _
  | cons node triggers inductionHypothesis =>
      by_cases unvisited : node ∉ search.visited
      · rw [searchTriggers, if_pos unvisited]
        exact (detectCycle_reports graph _ node [] search).1.trans
          (inductionHypothesis _)
      · rw [searchTriggers, if_neg unvisited]
        exact inductionHypothesis search

/-! ## Finished nodes -/

/-- `GetAllNextNodes` of a node has another one. -/
def Edge (node next : Node) : Prop :=
  next ∈ (graph node).getAllNextNodes

/-- A cycle may be closed at a node. -/
def Expected (node : Node) : Prop :=
  (graph node).isLoopOrRepeatTimer = true

/-- These nodes have been finished, and the others that have been visited are still
being searched. -/
structure Searched (search : Search Node) (finished : List Node) : Prop where
  visited : ∀ node, node ∈ search.visited ↔
    node ∈ search.recursionStack ∨ node ∈ finished
  ordered : FinishingOrder.Ordered (Edge graph) (Expected graph) finished
  known : ∀ node ∈ finished, ∀ next, Edge graph node next →
    next ∈ search.visited

/-- A search has gone on and is back at the same point of the recursion. -/
structure Continues
    (search : Search Node) (finished : List Node)
    (later : Search Node) (finishedLater : List Node) : Prop where
  searched : Searched graph later finishedLater
  recursionStack : later.recursionStack = search.recursionStack
  finished : finished ⊆ finishedLater

variable {graph}

omit [DecidableEq Node] in
/-- Only issues have been added. -/
theorem Searched.report
    {search : Search Node} {finished : List Node}
    (searched : Searched graph search finished)
    (severity : ValidationSeverity) (nodeName message : String) :
    Searched graph (search.report severity nodeName message) finished :=
  ⟨searched.visited, searched.ordered, searched.known⟩

omit [DecidableEq Node] in
theorem Continues.refl
    {search : Search Node} {finished : List Node}
    (searched : Searched graph search finished) :
    Continues graph search finished search finished :=
  ⟨searched, rfl, List.Subset.refl _⟩

omit [DecidableEq Node] in
theorem Continues.trans
    {search middle later : Search Node}
    {finished finishedMiddle finishedLater : List Node}
    (first : Continues graph search finished middle finishedMiddle)
    (second : Continues graph middle finishedMiddle later finishedLater) :
    Continues graph search finished later finishedLater :=
  ⟨second.searched, second.recursionStack.trans first.recursionStack,
    List.Subset.trans first.finished second.finished⟩

omit [DecidableEq Node] in
/-- Visited nodes stay visited. -/
theorem Continues.visited
    {search later : Search Node} {finished finishedLater : List Node}
    (continues : Continues graph search finished later finishedLater)
    (searched : Searched graph search finished)
    {node : Node} (visited : node ∈ search.visited) :
    node ∈ later.visited := by
  rw [continues.searched.visited, continues.recursionStack]
  exact ((searched.visited node).mp visited).imp_right
    fun among => continues.finished among

/-- A node that has not been visited is being searched from now on. -/
theorem Searched.enter
    {search : Search Node} {finished : List Node}
    (searched : Searched graph search finished) (node : Node) :
    Searched graph (search.enter node) finished where
  visited other := by
    simp only [Search.enter, Finset.mem_insert, searched.visited, or_assoc]
  ordered := searched.ordered
  known other among next edge :=
    Finset.mem_insert_of_mem (searched.known other among next edge)

/-- A node is finished when its next nodes are, or it may close a cycle. -/
theorem Searched.leave
    {search : Search Node} {finished : List Node}
    (searched : Searched graph search finished)
    {node : Node}
    (active : node ∈ search.recursionStack)
    (visited : ∀ next, Edge graph node next → next ∈ search.visited)
    (behind : ∀ next, Edge graph node next →
      Expected graph node ∨ next ∈ finished) :
    Searched graph (search.leave node) (node :: finished) where
  visited other := by
    by_cases same : other = node
    · subst same
      simp [Search.leave, searched.visited, active]
    · simp [Search.leave, searched.visited, same]
  ordered := ⟨behind, searched.ordered⟩
  known := List.forall_mem_cons.mpr ⟨visited, searched.known⟩

/-- The loop over the next nodes has finished each of them, or found it active
where a cycle is expected. -/
theorem detectCycleAmong_continues
    {detect : Node → Search Node → Bool × Search Node}
    (detects : ∀ next search finished after,
      Searched graph search finished → next ∉ search.visited →
      detect next search = (false, after) →
      ∃ finishedAfter, next ∈ finishedAfter ∧
        Continues graph search finished after finishedAfter)
    {node : Node} {path : List String}
    {nextNodes : List Node}
    {search after : Search Node} {finished : List Node}
    (searched : Searched graph search finished)
    (ran : detectCycleAmong graph detect node path nextNodes search =
      (false, after)) :
    ∃ finishedAfter,
      Continues graph search finished after finishedAfter ∧
      ∀ next ∈ nextNodes, next ∈ after.visited ∧
        (Expected graph node ∨ next ∈ finishedAfter) := by
  induction nextNodes generalizing search finished with
  | nil =>
      cases ran
      exact ⟨finished, .refl searched, nofun⟩
  | cons next nextNodes inductionHypothesis =>
      by_cases unvisited : next ∉ search.visited
      · rw [detectCycleAmong, if_pos unvisited] at ran
        split at ran
        · cases ran
        rename_i middle detected
        obtain ⟨finishedMiddle, among, first⟩ :=
          detects next search finished middle searched unvisited detected
        obtain ⟨finishedAfter, later, all⟩ :=
          inductionHypothesis first.searched ran
        have remains := later.finished among
        exact ⟨finishedAfter, first.trans later, List.forall_mem_cons.mpr
          ⟨⟨(later.searched.visited next).mpr (.inr remains), .inr remains⟩,
            all⟩⟩
      · rw [detectCycleAmong, if_neg unvisited] at ran
        have visited := not_not.mp unvisited
        split_ifs at ran with active expected
        · obtain ⟨finishedAfter, later, all⟩ :=
            inductionHypothesis (searched.report _ _ _) ran
          have visitedAfter :=
            later.visited (searched.report _ _ _) visited
          exact ⟨finishedAfter,
            ⟨later.searched, later.recursionStack, later.finished⟩,
            List.forall_mem_cons.mpr ⟨⟨visitedAfter, .inl expected⟩, all⟩⟩
        · cases ran
        · obtain ⟨finishedAfter, later, all⟩ :=
            inductionHypothesis searched ran
          have among :=
            ((searched.visited next).mp visited).resolve_left active
          exact ⟨finishedAfter, later, List.forall_mem_cons.mpr
            ⟨⟨later.visited searched visited, .inr (later.finished among)⟩,
              all⟩⟩

/-- A search that finds nothing finishes its node. -/
theorem detectCycle_continues
    {levels : Nat} {node : Node} {path : List String}
    {search after : Search Node} {finished : List Node}
    (searched : Searched graph search finished)
    (unvisited : node ∉ search.visited)
    (ran : detectCycle graph levels node path search = (false, after)) :
    ∃ finishedAfter, node ∈ finishedAfter ∧
      Continues graph search finished after finishedAfter := by
  induction levels generalizing node path search after finished with
  | zero => cases ran
  | succ levels inductionHypothesis =>
      rw [detectCycle] at ran
      split at ran
      · cases ran
      rename_i inside among
      cases ran
      obtain ⟨finishedInside, continues, all⟩ :=
        detectCycleAmong_continues
          (fun next search finished after searched unvisited ran =>
            inductionHypothesis searched unvisited ran)
          (searched.enter node) among
      have inactive : node ∉ search.recursionStack := fun active =>
        unvisited ((searched.visited node).mpr (.inl active))
      have active : node ∈ inside.recursionStack := by
        rw [continues.recursionStack]
        exact Finset.mem_insert_self node _
      have back : (inside.leave node).recursionStack =
          search.recursionStack := by
        simp only [Search.leave, continues.recursionStack, Search.enter]
        exact Finset.erase_insert inactive
      refine ⟨node :: finishedInside, List.mem_cons_self, ?_, back, ?_⟩
      · exact continues.searched.leave active
          (fun next edge => (all next edge).1) fun next edge => (all next edge).2
      · exact fun other among => List.mem_cons_of_mem node
          (continues.finished among)

/-- When no error is added, every trigger is finished. -/
theorem searchTriggers_continues
    {triggers : List Node} {search : Search Node} {finished : List Node}
    (searched : Searched graph search finished)
    (empty : search.recursionStack = ∅)
    (valid : errorCount (searchTriggers graph triggers search).issues =
      errorCount search.issues) :
    ∃ finishedAfter,
      Continues graph search finished (searchTriggers graph triggers search)
        finishedAfter ∧
      ∀ node ∈ triggers, node ∈ finishedAfter := by
  induction triggers generalizing search finished with
  | nil => exact ⟨finished, .refl searched, nofun⟩
  | cons node triggers inductionHypothesis =>
      by_cases unvisited : node ∉ search.visited
      · rw [searchTriggers, if_pos unvisited] at valid ⊢
        have reports := detectCycle_reports graph (maxDepth + 1) node [] search
        have rest := errorCount_searchTriggers_le graph triggers
          (detectCycle graph (maxDepth + 1) node [] search).2
        match result : detectCycle graph (maxDepth + 1) node [] search with
        | (true, middle) =>
            rw [result] at reports rest valid
            have found := reports.2 rfl
            exact absurd (rest.trans valid.le) (Nat.not_le.mpr found)
        | (false, middle) =>
            rw [result] at reports rest valid
            obtain ⟨finishedMiddle, among, first⟩ :=
              detectCycle_continues searched unvisited result
            have same : errorCount middle.issues = errorCount search.issues :=
              (rest.trans valid.le).antisymm reports.1
            obtain ⟨finishedAfter, later, all⟩ :=
              inductionHypothesis first.searched
                (first.recursionStack.trans empty) (valid.trans same.symm)
            exact ⟨finishedAfter, first.trans later,
              List.forall_mem_cons.mpr ⟨later.finished among, all⟩⟩
      · rw [searchTriggers, if_neg unvisited] at valid ⊢
        have among := ((searched.visited node).mp
          (not_not.mp unvisited)).resolve_left (by simp [empty])
        obtain ⟨finishedAfter, later, all⟩ :=
          inductionHypothesis searched empty valid
        exact ⟨finishedAfter, later,
          List.forall_mem_cons.mpr ⟨later.finished among, all⟩⟩

/-- When `ValidateCycles` adds no error, the search has finished everything that can
be reached from a trigger node. -/
theorem finished_of_valid
    {nodes : List Node}
    {issues : List ValidationIssue}
    (valid : errorCount (validateCycles graph nodes issues) =
      errorCount issues) :
    ∃ finished, FinishingOrder.Ordered (Edge graph) (Expected graph) finished ∧
      ∀ trigger ∈ nodes, (graph trigger).hasTrigger = true →
        ∀ node, Relation.ReflTransGen (Edge graph) trigger node →
          node ∈ finished := by
  have begun : Searched graph ({ issues } : Search Node) [] :=
    ⟨by simp, trivial, nofun⟩
  obtain ⟨finished, continues, all⟩ :=
    searchTriggers_continues begun rfl valid
  have nothing := continues.recursionStack
  have closed : ∀ node ∈ finished, ∀ next, Edge graph node next →
      next ∈ finished := by
    intro node among next edge
    have visited := continues.searched.known node among next edge
    simpa [continues.searched.visited, nothing] using visited
  refine ⟨finished, continues.searched.ordered, ?_⟩
  intro trigger listed starts node reachable
  exact FinishingOrder.mem_of_reachable closed
    (all trigger (by simp [listed, starts])) reachable

/-- When `ValidateCycles` adds no error, every cycle that can be reached from a
trigger node has a loop or a repeat timer in it. -/
theorem validateCycles_sound
    (graph : Node → ActionNode Node)
    (nodes : List Node)
    (issues : List ValidationIssue)
    (valid : errorCount (validateCycles graph nodes issues) =
      errorCount issues)
    {trigger : Node}
    (listed : trigger ∈ nodes)
    (starts : (graph trigger).hasTrigger = true)
    {first : Node}
    (reachable : Relation.ReflTransGen (Edge graph) trigger first)
    {rest : List Node}
    (cycle : List.IsChain (Edge graph) (first :: (rest ++ [first]))) :
    ∃ node ∈ first :: rest, (graph node).isLoopOrRepeatTimer = true := by
  obtain ⟨finished, ordered, all⟩ := finished_of_valid valid
  exact ordered.excused_of_cycle (all trigger listed starts first reachable) cycle

/-- A trigger node before a loop whose body leads back to it. -/
def loopedGraph : Bool → ActionNode Bool
  | false => ⟨"start", true, [true], .action⟩
  | true => ⟨"loop", false, [], .loopNode [false] []⟩

theorem loopedGraph_sound :
    ∃ node ∈ [false, true], (loopedGraph node).isLoopOrRepeatTimer = true :=
  validateCycles_sound loopedGraph [false, true] [] (by decide)
    List.mem_cons_self rfl .refl (by simp [Edge, loopedGraph,
      ActionNode.getAllNextNodes])

end ValidateCycles

end GraphValidator
end MultiSocketRudp
