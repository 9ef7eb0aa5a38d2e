import Mathlib.Data.Fintype.Card
import Mathlib.Data.List.Basic

/-!
# The execution of chains of nodes

`NodeExecutionHelper.ExecuteChain` executes a node and then its next nodes.  It
skips the nodes that have been visited and those that are being executed.  An
exception ends the chain.

What a node does is a parameter: it may change the world, execute chains of its
own and throw whatever it likes.
-/

namespace MultiSocketRudp
namespace NodeExecution

/-! ## Nodes -/

/-- An exception. -/
inductive Thrown
  | assertionFailed (message : String)
  | operationCanceled
  | other
  deriving DecidableEq, Repr

/-- The exception is an `AssertionFailedException`. -/
def Thrown.isAssertionFailed : Thrown → Bool
  | .assertionFailed _ => true
  | .operationCanceled | .other => false

/-- A node, as the chain that it is in sees it. -/
structure ActionNode (Node World : Type) where
  handlesOwnNextNode : Bool
  nextNodes : List Node
  /-- `Execute`, given the nodes that are being executed. -/
  execute : Finset Node → World → Option Thrown × World
  /-- The statistics that are kept of an execution which has succeeded or not. -/
  recordExecution : Bool → World → World

/-- What an execution leaves. -/
structure Outcome (Node World : Type) where
  thrown : Option Thrown
  visited : Finset Node
  world : World

section ExecuteChain

variable {Node World : Type}

/-- A loop over some nodes, which ends with the first exception. -/
def executeEach
    (chain : Node → Finset Node → World → Outcome Node World) :
    List Node → Finset Node → World → Outcome Node World
  | [], visited, world => ⟨none, visited, world⟩
  | node :: nodes, visited, world =>
      let outcome := chain node visited world
      match outcome.thrown with
      | some _ => outcome
      | none => executeEach chain nodes outcome.visited outcome.world

variable [DecidableEq Node]

/-- The body of `ExecuteChainWithStats`, with its recursive call. -/
def executeNode
    (graph : Node → ActionNode Node World)
    (chain : Finset Node → Node → Finset Node → World → Outcome Node World)
    (path : Finset Node) (node : Node)
    (visited : Finset Node) (world : World) :
    Outcome Node World :=
  if node ∈ path ∨ node ∈ visited then ⟨none, visited, world⟩
  else
    let visited := insert node visited
    let currentPath := insert node path
    let (thrown, world) := (graph node).execute currentPath world
    let outcome : Outcome Node World :=
      match thrown with
      | some exception => ⟨some exception, visited, world⟩
      | none =>
          if (graph node).handlesOwnNextNode then ⟨none, visited, world⟩
          else
            executeEach (chain currentPath) (graph node).nextNodes visited world
    { outcome with
      world := (graph node).recordExecution outcome.thrown.isNone outcome.world }

/-- `ExecuteChainWithStats`, while so many nodes are not being executed. -/
def executeChainWithin (graph : Node → ActionNode Node World) :
    Nat → Finset Node → Node → Finset Node → World → Outcome Node World
  | 0, _, _, visited, world => ⟨none, visited, world⟩
  | others + 1, path, node, visited, world =>
      executeNode graph (executeChainWithin graph others) path node visited world

variable [Fintype Node]

/-- `NodeExecutionHelper.ExecuteChain`, below the nodes of a path. -/
def executeChain
    (graph : Node → ActionNode Node World)
    (path : Finset Node) :
    Node → Finset Node → World → Outcome Node World :=
  executeChainWithin graph (Fintype.card Node - path.card) path

/-- A chain skips the nodes that are being executed, so that its calls are not
nested more deeply than there are nodes. -/
theorem executeChain_eq
    (graph : Node → ActionNode Node World)
    (path : Finset Node) (node : Node)
    (visited : Finset Node) (world : World) :
    executeChain graph path node visited world =
      executeNode graph (executeChain graph) path node visited world := by
  by_cases skipped : node ∈ path ∨ node ∈ visited
  · rw [executeNode, if_pos skipped, executeChain]
    cases Fintype.card Node - path.card with
    | zero => rfl
    | succ others => rw [executeChainWithin, executeNode, if_pos skipped]
  · have absent : node ∉ path := fun active => skipped (.inl active)
    have smaller : (insert node path).card ≤ Fintype.card Node :=
      Finset.card_le_univ _
    rw [Finset.card_insert_of_notMem absent] at smaller
    have others : Fintype.card Node - path.card =
        Fintype.card Node - (insert node path).card + 1 := by
      rw [Finset.card_insert_of_notMem absent]
      omega
    rw [executeChain, others, executeChainWithin, executeNode, executeNode,
      if_neg skipped, if_neg skipped]
    rfl

end ExecuteChain

/-! ## The chains of a branch -/

section Branch

variable {Node World : Type} [DecidableEq Node] [Fintype Node]

/-- What a loop over the chains of a branch has started, by their indices. -/
structure Branch (Node World : Type) where
  started : List Nat
  outcome : Outcome Node World

/-- `foreach (var node in nodes) ExecuteChain(context, node, visited)`, from an
index on. -/
def executeFrom
    (graph : Node → ActionNode Node World)
    (path : Finset Node) :
    Nat → List Node → Finset Node → World → Branch Node World
  | _, [], visited, world => ⟨[], ⟨none, visited, world⟩⟩
  | index, node :: nodes, visited, world =>
      let started := if node ∈ path ∨ node ∈ visited then [] else [index]
      let outcome := executeChain graph path node visited world
      match outcome.thrown with
      | some _ => ⟨started, outcome⟩
      | none =>
          let rest := executeFrom graph path (index + 1) nodes
            outcome.visited outcome.world
          ⟨started ++ rest.started, rest.outcome⟩

/-- A branch, with a new set of visited nodes. -/
def executeBranch
    (graph : Node → ActionNode Node World)
    (path : Finset Node) (nodes : List Node) (world : World) :
    Branch Node World :=
  executeFrom graph path 0 nodes ∅ world

variable {graph : Node → ActionNode Node World} {path : Finset Node}

/-- Nothing is thrown by a chain that is skipped. -/
theorem executeChain_skipped
    {node : Node} {visited : Finset Node}
    (skipped : node ∈ path ∨ node ∈ visited) (world : World) :
    executeChain graph path node visited world = ⟨none, visited, world⟩ := by
  rw [executeChain_eq, executeNode, if_pos skipped]

/-- A chain is skipped, or it is started and ends the loop, or the loop goes on
behind it. -/
theorem executeFrom_cons
    (index : Nat) (node : Node) (nodes : List Node)
    (visited : Finset Node) (world : World) :
    (executeFrom graph path index (node :: nodes) visited world).started =
      (if node ∈ path ∨ node ∈ visited then [] else [index]) ++
        if (executeChain graph path node visited world).thrown.isSome then []
        else (executeFrom graph path (index + 1) nodes
          (executeChain graph path node visited world).visited
          (executeChain graph path node visited world).world).started := by
  rw [executeFrom]
  cases (executeChain graph path node visited world).thrown with
  | none => rfl
  | some thrown => exact (List.append_nil _).symm

/-- Chains are started in their order, each of them once. -/
theorem executeFrom_started
    (index : Nat) (nodes : List Node) (visited : Finset Node) (world : World) :
    (executeFrom graph path index nodes visited world).started.Pairwise
        (· < ·) ∧
      ∀ started ∈ (executeFrom graph path index nodes visited world).started,
        index ≤ started := by
  induction nodes generalizing index visited world with
  | nil => exact ⟨.nil, nofun⟩
  | cons node nodes inductionHypothesis =>
      have later := inductionHypothesis (index + 1)
        (executeChain graph path node visited world).visited
        (executeChain graph path node visited world).world
      rw [executeFrom_cons]
      generalize (executeFrom graph path (index + 1) nodes _ _).started = rest
        at later
      have above : ∀ started ∈ rest, index < started := later.2
      split_ifs
      · exact ⟨.nil, nofun⟩
      · exact ⟨later.1, fun started among => (above started among).le⟩
      · exact ⟨List.pairwise_singleton _ _, by simp⟩
      · refine ⟨List.pairwise_cons.mpr ⟨above, later.1⟩, fun started among => ?_⟩
        rcases List.mem_cons.mp among with rfl | among
        · exact le_refl _
        · exact (above started among).le

/-- The first chain that is started is that of the first node that is not being
executed. -/
theorem executeFrom_head
    (index : Nat) (nodes : List Node) (world : World) :
    (executeFrom graph path index nodes ∅ world).started.head? =
      (nodes.findIdx? fun node => node ∉ path).map (index + ·) := by
  induction nodes generalizing index world with
  | nil => rfl
  | cons node nodes inductionHypothesis =>
      rw [executeFrom_cons, List.findIdx?_cons]
      by_cases active : node ∈ path
      · rw [executeChain_skipped (.inl active), if_pos (.inl active)]
        simp only [active, not_true_eq_false, decide_false, Option.isSome_none,
          Bool.false_eq_true, if_false, List.nil_append, inductionHypothesis,
          Option.map_map]
        congr 1
        funext position
        exact Nat.add_right_comm index 1 position
      · have begins : ¬ (node ∈ path ∨ node ∈ (∅ : Finset Node)) := by
          simp [active]
        rw [if_neg begins]
        simp [active]

/-- An exception comes from a chain that has been started. -/
theorem executeFrom_thrown
    {index : Nat} {nodes : List Node} {visited : Finset Node} {world : World}
    (thrown : (executeFrom graph path index nodes visited
      world).outcome.thrown ≠ none) :
    (executeFrom graph path index nodes visited world).started ≠ [] := by
  induction nodes generalizing index visited world with
  | nil => exact absurd rfl thrown
  | cons node nodes inductionHypothesis =>
      by_cases skipped : node ∈ path ∨ node ∈ visited
      · rw [executeFrom, executeChain_skipped skipped] at thrown
        rw [executeFrom_cons, executeChain_skipped skipped, if_pos skipped]
        exact inductionHypothesis thrown
      · rw [executeFrom_cons, if_neg skipped]
        simp

/-! ## Branches -/

variable (graph path) in
/-- A branch starts a chain at most once. -/
theorem executeBranch_nodup (nodes : List Node) (world : World) :
    (executeBranch graph path nodes world).started.Nodup :=
  (executeFrom_started 0 nodes ∅ world).1.imp fun smaller => smaller.ne

/-- A branch starts no chain when all of its nodes are being executed. -/
theorem executeBranch_started_eq_nil
    {nodes : List Node} {world : World} :
    (executeBranch graph path nodes world).started = [] ↔
      ∀ node ∈ nodes, node ∈ path := by
  rw [← List.head?_eq_none_iff, executeBranch, executeFrom_head]
  simp

/-- Whatever the world is, a branch begins with the same chain. -/
theorem executeBranch_repeats
    {nodes : List Node} {world : World}
    (begun : (executeBranch graph path nodes world).started ≠ [])
    (world' : World) :
    ∃ index,
      index ∈ (executeBranch graph path nodes world).started ∧
      index ∈ (executeBranch graph path nodes world').started := by
  obtain ⟨index, rest, first⟩ := List.exists_cons_of_ne_nil begun
  have same : (executeBranch graph path nodes world').started.head? =
      (executeBranch graph path nodes world).started.head? := by
    simp only [executeBranch, executeFrom_head]
  rw [first, List.head?_cons] at same
  exact ⟨index, by rw [first]; exact List.mem_cons_self,
    List.mem_of_head? same⟩

theorem executeBranch_thrown
    {nodes : List Node} {world : World}
    (thrown : (executeBranch graph path nodes world).outcome.thrown ≠ none) :
    (executeBranch graph path nodes world).started ≠ [] :=
  executeFrom_thrown thrown

end Branch

/-- A node that throws and one that does not. -/
def throwingGraph : Bool → ActionNode Bool Unit
  | true => ⟨false, [], fun _ world => (some .other, world), fun _ => id⟩
  | false => ⟨false, [], fun _ world => (none, world), fun _ => id⟩

end NodeExecution
end MultiSocketRudp
