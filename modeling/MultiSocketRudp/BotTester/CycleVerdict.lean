import MultiSocketRudp.BotTester.GraphValidator
import Mathlib.Data.Fintype.Card

/-!
# Cycle verdicts and the listing of a graph

A graph can be listed in many ways: its nodes, and the edges of each node, can be
taken in any order.  `DetectCycle` decides whether a cycle is expected by the node
that closes it, and where a search comes into a cycle, and so what closes it,
depends on the listing.

Two kinds of graphs get the same verdict in every listing: those that have a cycle
without any loop or repeat timer, and those in which no search can close a cycle
at another node.
-/

namespace MultiSocketRudp
namespace GraphValidator

/-! ## Listings -/

/-- The kind of a node, without the nodes that it leads to. -/
def NodeKind.withoutNodes {Node : Type} : NodeKind Node → NodeKind Node
  | .action => .action
  | .conditionalNode _ _ => .conditionalNode [] []
  | .loopNode _ _ => .loopNode [] []
  | .repeatTimerNode _ => .repeatTimerNode []
  | .waitForPacketNode _ => .waitForPacketNode []
  | .assertNode _ => .assertNode []
  | .retryNode _ _ _ => .retryNode [] [] []
  | .randomChoiceNode _ => .randomChoiceNode []

section Listings

variable {Node : Type}

/-- The nodes differ in the order of their outgoing edges alone. -/
structure ActionNode.SameEdges (first second : ActionNode Node) : Prop where
  name : first.name = second.name
  hasTrigger : first.hasTrigger = second.hasTrigger
  kind : first.kind.withoutNodes = second.kind.withoutNodes
  edges : first.getAllNextNodes.Perm second.getAllNextNodes

/-- A graph with the order in which its nodes have been added. -/
structure Listing (Node : Type) where
  graph : Node → ActionNode Node
  nodes : List Node

namespace Listing

/-- Two listings of the same graph. -/
structure SameGraph (first second : Listing Node) : Prop where
  nodes : first.nodes.Perm second.nodes
  edges : ∀ node, (first.graph node).SameEdges (second.graph node)

/-- A trigger node of the graph. -/
def IsTrigger (listing : Listing Node) (node : Node) : Prop :=
  node ∈ listing.nodes ∧ (listing.graph node).hasTrigger = true

/-- A path from a trigger node that comes to no node twice, the last node first. -/
inductive SimplePath (listing : Listing Node) : List Node → Prop
  | trigger {node : Node} (starts : listing.IsTrigger node) :
      SimplePath listing [node]
  | step {node next : Node} {path : List Node}
      (before : SimplePath listing (node :: path))
      (edge : Edge listing.graph node next)
      (new : next ∉ node :: path) :
      SimplePath listing (next :: node :: path)

/-- Every path is shorter than the depth that `DetectCycle` allows. -/
def Shallow (listing : Listing Node) : Prop :=
  ∀ path, listing.SimplePath path → path.length ≤ maxDepth

/-- A cycle that can be reached from a trigger node has no loop and no repeat timer
in it. -/
def HasPlainCycle (listing : Listing Node) : Prop :=
  ∃ trigger, listing.IsTrigger trigger ∧
    ∃ first rest, Relation.ReflTransGen (Edge listing.graph) trigger first ∧
      List.IsChain (Edge listing.graph) (first :: (rest ++ [first])) ∧
      ∀ node ∈ first :: rest, ¬ Expected listing.graph node

/-- A path from a trigger node ends at a node that is neither loop nor repeat timer
and has an edge back into the path. -/
def ClosesElsewhere (listing : Listing Node) : Prop :=
  ∃ node path next, listing.SimplePath (node :: path) ∧
    Edge listing.graph node next ∧ next ∈ node :: path ∧
    ¬ Expected listing.graph node

variable [DecidableEq Node]

/-- `ValidateCycles` adds an error to the issues. -/
def AddsError
    (listing : Listing Node) (issues : List ValidationIssue) : Prop :=
  errorCount issues <
    errorCount (validateCycles listing.graph listing.nodes issues)

instance (listing : Listing Node) (issues : List ValidationIssue) :
    Decidable (listing.AddsError issues) :=
  inferInstanceAs (Decidable (_ < _))

end Listing

/-! ## What does not depend on the listing -/

theorem ActionNode.isLoopOrRepeatTimer_eq
    {first second : ActionNode Node}
    (same : first.kind.withoutNodes = second.kind.withoutNodes) :
    first.isLoopOrRepeatTimer = second.isLoopOrRepeatTimer := by
  obtain ⟨_, _, _, kind⟩ := first
  obtain ⟨_, _, _, kind'⟩ := second
  cases kind <;> cases kind' <;> first | rfl | cases same

namespace Listing.SameGraph

variable {first second : Listing Node}

theorem edge_iff (same : first.SameGraph second) (node next : Node) :
    Edge first.graph node next ↔ Edge second.graph node next :=
  (same.edges node).edges.mem_iff

theorem edge_eq (same : first.SameGraph second) :
    Edge first.graph = Edge second.graph := by
  funext node next
  exact propext (same.edge_iff node next)

theorem expected_iff (same : first.SameGraph second) (node : Node) :
    Expected first.graph node ↔ Expected second.graph node := by
  rw [Expected, Expected,
    ActionNode.isLoopOrRepeatTimer_eq (same.edges node).kind]

theorem isTrigger_iff (same : first.SameGraph second) (node : Node) :
    first.IsTrigger node ↔ second.IsTrigger node := by
  rw [IsTrigger, IsTrigger, same.nodes.mem_iff, (same.edges node).hasTrigger]

theorem symm (same : first.SameGraph second) : second.SameGraph first where
  nodes := same.nodes.symm
  edges node :=
    ⟨(same.edges node).name.symm, (same.edges node).hasTrigger.symm,
      (same.edges node).kind.symm, (same.edges node).edges.symm⟩

theorem simplePath
    (same : first.SameGraph second) {path : List Node}
    (simple : first.SimplePath path) :
    second.SimplePath path := by
  induction simple with
  | trigger starts => exact .trigger ((same.isTrigger_iff _).mp starts)
  | step _ edge new inductionHypothesis =>
      exact .step inductionHypothesis ((same.edge_iff _ _).mp edge) new

theorem shallow (same : first.SameGraph second) (shallow : first.Shallow) :
    second.Shallow :=
  fun path simple => shallow path (same.symm.simplePath simple)

theorem hasPlainCycle
    (same : first.SameGraph second) (plain : first.HasPlainCycle) :
    second.HasPlainCycle := by
  obtain ⟨trigger, starts, node, rest, reachable, cycle, strict⟩ := plain
  rw [same.edge_eq] at reachable cycle
  exact ⟨trigger, (same.isTrigger_iff trigger).mp starts, node, rest, reachable,
    cycle, fun node among expected =>
      strict node among ((same.expected_iff node).mpr expected)⟩

theorem closesElsewhere
    (same : first.SameGraph second) (closes : first.ClosesElsewhere) :
    second.ClosesElsewhere := by
  obtain ⟨node, path, next, simple, edge, back, strict⟩ := closes
  exact ⟨node, path, next, same.simplePath simple,
    (same.edge_iff node next).mp edge, back, fun expected =>
      strict ((same.expected_iff node).mpr expected)⟩

end Listing.SameGraph

/-! ## What a search reports -/

namespace Listing

variable [DecidableEq Node] {listing : Listing Node}

/-- A loop over the next nodes gives up at an edge back into the path, or because
the search of a next node does. -/
theorem closesElsewhere_of_among
    {detect : Node → Search Node → Bool × Search Node}
    {node : Node} {path : List Node} {names : List String}
    (simple : listing.SimplePath (node :: path))
    (detects : ∀ next search finished after,
      Searched listing.graph search finished → next ∉ search.visited →
      detect next search = (false, after) →
      ∃ finishedAfter, next ∈ finishedAfter ∧
        Continues listing.graph search finished after finishedAfter)
    (closes : ∀ next search finished after,
      Searched listing.graph search finished →
      (∀ other, other ∈ search.recursionStack ↔ other ∈ node :: path) →
      next ∉ search.visited →
      listing.SimplePath (next :: node :: path) →
      detect next search = (true, after) → listing.ClosesElsewhere)
    {nextNodes : List Node}
    (edges : ∀ next ∈ nextNodes, Edge listing.graph node next)
    {search after : Search Node} {finished : List Node}
    (searched : Searched listing.graph search finished)
    (active : ∀ other, other ∈ search.recursionStack ↔ other ∈ node :: path)
    (ran : detectCycleAmong listing.graph detect node names nextNodes search =
      (true, after)) :
    listing.ClosesElsewhere := by
  induction nextNodes generalizing search finished with
  | nil => cases ran
  | cons next nextNodes inductionHypothesis =>
      obtain ⟨edge, edges⟩ := List.forall_mem_cons.mp edges
      by_cases unvisited : next ∉ search.visited
      · rw [detectCycleAmong, if_pos unvisited] at ran
        split at ran
        next middle detected =>
          have new : next ∉ node :: path := fun among =>
            unvisited ((searched.visited next).mpr
              (.inl ((active next).mpr among)))
          exact closes next search finished middle searched active unvisited
            (.step simple edge new) detected
        next middle detected =>
          obtain ⟨finishedMiddle, -, continues⟩ :=
            detects next search finished middle searched unvisited detected
          refine inductionHypothesis edges continues.searched (fun other => ?_) ran
          rw [continues.recursionStack, active]
      · rw [detectCycleAmong, if_neg unvisited] at ran
        split_ifs at ran with back expected
        · exact inductionHypothesis edges (searched.report _ _ _) active ran
        · exact ⟨node, path, next, simple, edge, (active next).mp back, expected⟩
        · exact inductionHypothesis edges searched active ran

/-- A search that gives up has found an edge back into its path. -/
theorem closesElsewhere_of_detectCycle
    (shallow : listing.Shallow)
    {levels : Nat} {node : Node} {path : List Node} {names : List String}
    {search after : Search Node} {finished : List Node}
    (simple : listing.SimplePath (node :: path))
    (deep : maxDepth < levels + path.length)
    (searched : Searched listing.graph search finished)
    (active : ∀ other, other ∈ search.recursionStack ↔ other ∈ path)
    (ran : detectCycle listing.graph levels node names search = (true, after)) :
    listing.ClosesElsewhere := by
  induction levels generalizing node path names search after finished with
  | zero =>
      have short := shallow _ simple
      rw [List.length_cons] at short
      omega
  | succ levels inductionHypothesis =>
      rw [detectCycle] at ran
      split at ran
      next inside among =>
        refine closesElsewhere_of_among simple
          (fun next search finished after searched unvisited ran =>
            detectCycle_continues searched unvisited ran)
          (fun next search finished after searched active _ simple ran => ?_)
          (fun next edge => edge) (searched.enter node) (fun other => ?_) among
        · refine inductionHypothesis simple ?_ searched active ran
          rw [List.length_cons]
          omega
        · simp [Search.enter, active]
      next => cases ran

/-- A loop over the next nodes that goes on to the end adds no error. -/
theorem errorCount_of_among
    {graph : Node → ActionNode Node}
    {detect : Node → Search Node → Bool × Search Node}
    (detects : ∀ next search after, detect next search = (false, after) →
      errorCount after.issues = errorCount search.issues)
    {node : Node} {names : List String} {nextNodes : List Node}
    {search after : Search Node}
    (ran : detectCycleAmong graph detect node names nextNodes search =
      (false, after)) :
    errorCount after.issues = errorCount search.issues := by
  induction nextNodes generalizing search with
  | nil =>
      cases ran
      rfl
  | cons next nextNodes inductionHypothesis =>
      by_cases unvisited : next ∉ search.visited
      · rw [detectCycleAmong, if_pos unvisited] at ran
        split at ran
        next => cases ran
        next middle detected =>
          rw [inductionHypothesis ran, detects next search middle detected]
      · rw [detectCycleAmong, if_neg unvisited] at ran
        split_ifs at ran with back expected
        · rw [inductionHypothesis ran, errorCount_report]
          rfl
        · cases ran
        · exact inductionHypothesis ran

/-- A search that does not give up adds no error. -/
theorem errorCount_of_detectCycle
    {graph : Node → ActionNode Node}
    {levels : Nat} {node : Node} {names : List String}
    {search after : Search Node}
    (ran : detectCycle graph levels node names search = (false, after)) :
    errorCount after.issues = errorCount search.issues := by
  induction levels generalizing node names search after with
  | zero => cases ran
  | succ levels inductionHypothesis =>
      rw [detectCycle] at ran
      split at ran
      next => cases ran
      next inside among =>
        cases ran
        change errorCount inside.issues = errorCount search.issues
        rw [errorCount_of_among (fun next search after ran =>
          inductionHypothesis ran) among]
        rfl

/-- An error in a shallow graph comes from an edge back into a path. -/
theorem closesElsewhere_of_searchTriggers
    (shallow : listing.Shallow)
    {triggers : List Node}
    (start : ∀ node ∈ triggers, listing.IsTrigger node)
    {search : Search Node} {finished : List Node}
    (searched : Searched listing.graph search finished)
    (empty : search.recursionStack = ∅)
    (error : errorCount search.issues <
      errorCount (searchTriggers listing.graph triggers search).issues) :
    listing.ClosesElsewhere := by
  induction triggers generalizing search finished with
  | nil => exact absurd error (Nat.lt_irrefl _)
  | cons node triggers inductionHypothesis =>
      obtain ⟨starts, start⟩ := List.forall_mem_cons.mp start
      by_cases unvisited : node ∉ search.visited
      · rw [searchTriggers, if_pos unvisited] at error
        rcases result : detectCycle listing.graph (maxDepth + 1) node [] search
          with ⟨detected, middle⟩
        cases detected with
        | true =>
            exact closesElsewhere_of_detectCycle shallow (.trigger starts)
              (Nat.lt_succ_self _) searched (by simp [empty]) result
        | false =>
            obtain ⟨finishedMiddle, -, continues⟩ :=
              detectCycle_continues searched unvisited result
            rw [result] at error
            refine inductionHypothesis start continues.searched
              (continues.recursionStack.trans empty) ?_
            rwa [errorCount_of_detectCycle result]
      · rw [searchTriggers, if_neg unvisited] at error
        exact inductionHypothesis start searched empty error

/-- An error in a shallow graph comes from an edge back into a path. -/
theorem closesElsewhere_of_addsError
    (shallow : listing.Shallow)
    {issues : List ValidationIssue} (error : listing.AddsError issues) :
    listing.ClosesElsewhere := by
  have begun : Searched listing.graph ({ issues } : Search Node) [] :=
    ⟨by simp, trivial, nofun⟩
  refine closesElsewhere_of_searchTriggers shallow (fun node among => ?_)
    begun rfl error
  exact List.mem_filter.mp among

/-- A cycle without any loop or repeat timer is always an error. -/
theorem addsError_of_hasPlainCycle
    (plain : listing.HasPlainCycle) (issues : List ValidationIssue) :
    listing.AddsError issues := by
  obtain ⟨trigger, ⟨listed, starts⟩, first, rest, reachable, cycle, strict⟩ :=
    plain
  refine lt_of_le_of_ne
    (errorCount_searchTriggers_le listing.graph _ { issues }) fun valid => ?_
  obtain ⟨finished, ordered, all⟩ := finished_of_valid valid.symm
  obtain ⟨node, among, expected⟩ := ordered.excused_of_cycle
    (all trigger listed starts first reachable) cycle
  exact strict node among expected

/-! ## A listing that reports a cycle -/

/-- The node with one of its edges in front of the others. -/
def leadWith (node : ActionNode Node) (next : Node) : ActionNode Node :=
  { node with
    nextNodes := next :: node.getAllNextNodes.erase next
    kind := node.kind.withoutNodes }

theorem getAllNextNodes_leadWith (node : ActionNode Node) (next : Node) :
    (leadWith node next).getAllNextNodes =
      next :: node.getAllNextNodes.erase next := by
  obtain ⟨_, _, _, kind⟩ := node
  cases kind <;> exact List.append_nil _

theorem sameEdges_leadWith
    {node : ActionNode Node} {next : Node}
    (edge : next ∈ node.getAllNextNodes) :
    node.SameEdges (leadWith node next) where
  name := rfl
  hasTrigger := rfl
  kind := by
    obtain ⟨_, _, _, kind⟩ := node
    cases kind <;> rfl
  edges := by
    rw [getAllNextNodes_leadWith]
    exact List.perm_cons_erase edge

/-- The first edge of each node of the path leads to the node that comes later. -/
def Leads (graph : Node → ActionNode Node) : List Node → Node → Prop
  | [], _ => True
  | node :: path, next =>
      (graph node).getAllNextNodes.head? = some next ∧ Leads graph path node

omit [DecidableEq Node] in
theorem Leads.congr
    {graph graph' : Node → ActionNode Node} {path : List Node} {next : Node}
    (leads : Leads graph path next)
    (same : ∀ node ∈ path, graph' node = graph node) :
    Leads graph' path next := by
  induction path generalizing next with
  | nil => trivial
  | cons node path inductionHypothesis =>
      obtain ⟨here, same⟩ := List.forall_mem_cons.mp same
      refine ⟨?_, inductionHypothesis leads.2 same⟩
      rw [here]
      exact leads.1

/-- The edges can be put into an order that leads along a path. -/
theorem exists_leads
    {node next : Node} {path : List Node}
    (simple : listing.SimplePath (node :: path))
    (edge : Edge listing.graph node next) :
    ∃ graph, (∀ other, (listing.graph other).SameEdges (graph other)) ∧
      (∀ other, other ∉ node :: path → graph other = listing.graph other) ∧
      Leads graph (node :: path) next := by
  induction path generalizing node next with
  | nil =>
      refine ⟨Function.update listing.graph node (leadWith (listing.graph node) next),
        fun other => ?_, fun other outside => ?_, ?_, trivial⟩
      · rcases eq_or_ne other node with rfl | different
        · rw [Function.update_self]
          exact sameEdges_leadWith edge
        · rw [Function.update_of_ne different]
          exact ⟨rfl, rfl, rfl, .refl _⟩
      · rw [Function.update_of_ne (by simpa using outside)]
      · rw [Function.update_self, getAllNextNodes_leadWith]
        rfl
  | cons earlier path inductionHypothesis =>
      obtain _ | ⟨before, step, new⟩ := simple
      obtain ⟨graph, same, outside, leads⟩ := inductionHypothesis before step
      refine ⟨Function.update graph node (leadWith (listing.graph node) next),
        fun other => ?_, fun other away => ?_, ?_, ?_⟩
      · rcases eq_or_ne other node with rfl | different
        · rw [Function.update_self]
          exact sameEdges_leadWith edge
        · rw [Function.update_of_ne different]
          exact same other
      · obtain ⟨different, away⟩ := List.ne_and_not_mem_of_not_mem_cons away
        rw [Function.update_of_ne different]
        exact outside other away
      · rw [Function.update_self, getAllNextNodes_leadWith]
        rfl
      · refine leads.congr fun other among => Function.update_of_ne ?_ _ _
        rintro rfl
        exact new among

/-- A search that has gone straight along the path gives up behind it. -/
def GivesUp
    (graph : Node → ActionNode Node) (node : Node) (path : List Node) : Prop :=
  ∀ levels names (search : Search Node),
    (∀ other, other ∈ search.visited ↔ other ∈ path) →
    (∀ other, other ∈ search.recursionStack ↔ other ∈ path) →
    (detectCycle graph levels node names search).1 = true

/-- The edge back into the path is the first that the search looks at. -/
theorem givesUp_of_back
    {graph : Node → ActionNode Node} {node next : Node} {path : List Node}
    (first : (graph node).getAllNextNodes.head? = some next)
    (back : next ∈ node :: path)
    (strict : ¬ Expected graph node) :
    GivesUp graph node path := by
  intro levels names search visited active
  cases levels with
  | zero => rfl
  | succ levels =>
      obtain ⟨others, edges⟩ := List.head?_eq_some_iff.mp first
      have seen : next ∈ (search.enter node).visited := by
        simpa [Search.enter, visited] using back
      have stacked : next ∈ (search.enter node).recursionStack := by
        simpa [Search.enter, active] using back
      have unexpected : ¬ (graph node).isLoopOrRepeatTimer = true := strict
      rw [detectCycle, edges, detectCycleAmong, if_neg (not_not.mpr seen),
        if_pos stacked, if_neg unexpected]

/-- The edge to the next node of the path is the first that the search looks at. -/
theorem GivesUp.before
    {graph : Node → ActionNode Node} {node next : Node} {path : List Node}
    (givesUp : GivesUp graph next (node :: path))
    (first : (graph node).getAllNextNodes.head? = some next)
    (new : next ∉ node :: path) :
    GivesUp graph node path := by
  intro levels names search visited active
  cases levels with
  | zero => rfl
  | succ levels =>
      obtain ⟨others, edges⟩ := List.head?_eq_some_iff.mp first
      have unseen : next ∉ (search.enter node).visited := by
        simpa [Search.enter, visited] using new
      have later := givesUp levels (names ++ [(graph node).name])
        (search.enter node) (by simp [Search.enter, visited])
        (by simp [Search.enter, active])
      rw [detectCycle, edges, detectCycleAmong, if_pos unseen]
      rcases result : detectCycle graph levels next (names ++ [(graph node).name])
        (search.enter node) with ⟨detected, after⟩
      cases detected with
      | true => rfl
      | false =>
          rw [result] at later
          cases later

/-- From the trigger node on. -/
theorem givesUp_at_trigger
    {graph : Node → ActionNode Node} {node : Node} {path : List Node}
    (simple : listing.SimplePath (node :: path))
    (leads : Leads graph path node)
    (givesUp : GivesUp graph node path) :
    ∃ trigger, listing.IsTrigger trigger ∧ GivesUp graph trigger [] := by
  induction path generalizing node with
  | nil =>
      cases simple with
      | trigger starts => exact ⟨node, starts, givesUp⟩
  | cons earlier path inductionHypothesis =>
      obtain _ | ⟨before, step, new⟩ := simple
      exact inductionHypothesis before leads.2 (givesUp.before leads.1 new)

/-- Where a path has an edge back into it, some listing leads the search there. -/
theorem exists_addsError
    (closes : listing.ClosesElsewhere) (issues : List ValidationIssue) :
    ∃ other, listing.SameGraph other ∧ other.AddsError issues := by
  obtain ⟨node, path, next, simple, edge, back, strict⟩ := closes
  obtain ⟨graph, same, -, leads⟩ := exists_leads simple edge
  have strictly : ¬ Expected graph node := by
    rwa [Expected, ← ActionNode.isLoopOrRepeatTimer_eq (same node).kind]
  obtain ⟨trigger, ⟨listed, starts⟩, givesUp⟩ := givesUp_at_trigger simple
    leads.2 (givesUp_of_back leads.1 back strictly)
  refine ⟨⟨graph, trigger :: listing.nodes.erase trigger⟩,
    ⟨List.perm_cons_erase listed, same⟩, ?_⟩
  have first : (graph trigger).hasTrigger = true :=
    (same trigger).hasTrigger ▸ starts
  have found := (detectCycle_reports graph (maxDepth + 1) trigger []
    ({ issues } : Search Node)).2 (givesUp _ _ _ (by simp) (by simp))
  change errorCount issues < errorCount (searchTriggers graph
    ((trigger :: listing.nodes.erase trigger).filter
      fun node => (graph node).hasTrigger) { issues }).issues
  rw [List.filter_cons_of_pos (by exact first), searchTriggers,
    if_pos (Finset.notMem_empty trigger)]
  exact found.trans_le (errorCount_searchTriggers_le graph _ _)

/-! ## The verdict -/

/-- Every two listings of the graph get the same verdict. -/
def VerdictsAgree (listing : Listing Node) : Prop :=
  ∀ first second, listing.SameGraph first → listing.SameGraph second →
    ∀ issues issues', first.AddsError issues ↔ second.AddsError issues'

theorem addsError_iff_of_hasPlainCycle
    (plain : listing.HasPlainCycle) : listing.VerdictsAgree :=
  fun _ _ toFirst toSecond issues issues' =>
    iff_of_true
      (addsError_of_hasPlainCycle (toFirst.hasPlainCycle plain) issues)
      (addsError_of_hasPlainCycle (toSecond.hasPlainCycle plain) issues')

theorem addsError_iff_of_not_closesElsewhere
    (shallow : listing.Shallow)
    (never : ¬ listing.ClosesElsewhere) : listing.VerdictsAgree := by
  have accepted (other : Listing Node) (same : listing.SameGraph other)
      (issues : List ValidationIssue) : ¬ other.AddsError issues := fun error =>
    never (same.symm.closesElsewhere
      (closesElsewhere_of_addsError (same.shallow shallow) error))
  exact fun first second toFirst toSecond issues issues' =>
    iff_of_false (accepted first toFirst issues)
      (accepted second toSecond issues')

end Listing

end Listings

/-- A path begins at a trigger node. -/
theorem Listing.SimplePath.exists_trigger
    {Node : Type} {listing : Listing Node} {path : List Node}
    (simple : listing.SimplePath path) :
    ∃ trigger ∈ path, listing.IsTrigger trigger := by
  induction simple with
  | trigger starts => exact ⟨_, List.mem_cons_self, starts⟩
  | step _ _ _ inductionHypothesis =>
      obtain ⟨trigger, among, starts⟩ := inductionHypothesis
      exact ⟨trigger, List.mem_cons_of_mem _ among, starts⟩

/-- No path is longer than there are nodes. -/
theorem Listing.shallow_of_card
    {Node : Type} [Fintype Node] (listing : Listing Node)
    (few : Fintype.card Node ≤ maxDepth) :
    listing.Shallow := by
  intro path simple
  have nodup : path.Nodup := by
    induction simple with
    | trigger => exact List.nodup_singleton _
    | step _ _ new inductionHypothesis =>
        exact List.nodup_cons.mpr ⟨new, inductionHypothesis⟩
  exact nodup.length_le_card.trans few

/-- A trigger node with two edges, in this order.  The first leads to the body of the
loop and the second to the loop. -/
def enteredListing (edges : List (Fin 3)) : Listing (Fin 3) where
  graph
    | 0 => ⟨"start", true, edges, .action⟩
    | 1 => ⟨"body", false, [2], .action⟩
    | 2 => ⟨"loop", false, [], .loopNode [1] []⟩
  nodes := [0, 1, 2]

end GraphValidator
end MultiSocketRudp
