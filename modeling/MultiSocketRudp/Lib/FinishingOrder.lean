import Mathlib.Data.List.Chain

/-!
# The order in which a depth-first search finishes

A search finishes a node when it has finished, or excused, everything behind it.
Then each edge from a node that is not excused leads to a node that has been
finished earlier, and no cycle consists of such nodes alone.
-/

namespace FinishingOrder

universe u

variable {Node : Type u} (next : Node → Node → Prop) (excused : Node → Prop)

/-- Nodes in the order in which they have been finished, the latest one first. -/
def Ordered : List Node → Prop
  | [] => True
  | node :: earlier =>
      (∀ other, next node other → excused node ∨ other ∈ earlier) ∧
        Ordered earlier

/-- An edge from a node that is not excused. -/
def Descends (other node : Node) : Prop :=
  next node other ∧ ¬ excused node

variable {next excused}

/-- One cannot descend from a finished node forever. -/
theorem Ordered.acc
    {finished : List Node}
    (ordered : Ordered next excused finished)
    {node : Node} (member : node ∈ finished) :
    Acc (Descends next excused) node := by
  induction finished generalizing node with
  | nil => cases member
  | cons latest earlier inductionHypothesis =>
      rcases List.mem_cons.mp member with rfl | member
      · refine Acc.intro node fun other descends => ?_
        have finishedEarlier :=
          (ordered.1 other descends.1).resolve_left descends.2
        exact inductionHypothesis ordered.2 finishedEarlier
      · exact inductionHypothesis ordered.2 member

/-- A path leads from its first to its last node. -/
theorem transGen_of_isChain
    {edge : Node → Node → Prop} {first last : Node} {rest : List Node}
    (path : List.IsChain edge (first :: (rest ++ [last]))) :
    Relation.TransGen edge first last := by
  induction rest generalizing first with
  | nil => exact .single (List.isChain_cons_cons.mp path).1
  | cons second rest inductionHypothesis =>
      obtain ⟨begins, continues⟩ := List.isChain_cons_cons.mp path
      exact .head begins (inductionHypothesis continues)

theorem not_self_of_acc
    {relation : Node → Node → Prop} {node : Node}
    (accessible : Acc relation node) :
    ¬ relation node node := by
  induction accessible with
  | intro node _ inductionHypothesis =>
      exact fun related => inductionHypothesis node related related

/-- Some node of a cycle is excused. -/
theorem Ordered.excused_of_cycle
    {finished : List Node}
    (ordered : Ordered next excused finished)
    {first : Node} (member : first ∈ finished)
    {rest : List Node}
    (cycle : List.IsChain next (first :: (rest ++ [first]))) :
    ∃ node ∈ first :: rest, excused node := by
  by_contra strict
  push Not at strict
  have descends : List.IsChain (Function.swap (Descends next excused))
      (first :: (rest ++ [first])) :=
    cycle.imp_of_mem_imp fun node other among _ edge =>
      ⟨edge, strict node (by simpa [or_comm, or_left_comm] using among)⟩
  exact not_self_of_acc (ordered.acc member).transGen
    (Relation.transGen_swap.mp (transGen_of_isChain descends))

/-- What can be reached from a finished node is finished, when every edge from a
finished node leads to one. -/
theorem mem_of_reachable
    {finished : List Node}
    (closed : ∀ node ∈ finished, ∀ other, next node other → other ∈ finished)
    {node other : Node} (member : node ∈ finished)
    (reachable : Relation.ReflTransGen next node other) :
    other ∈ finished := by
  induction reachable with
  | refl => exact member
  | tail _ edge inductionHypothesis =>
      exact closed _ inductionHypothesis _ edge

end FinishingOrder
