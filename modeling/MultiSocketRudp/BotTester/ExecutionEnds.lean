import MultiSocketRudp.Lib.ForkingCalls
import Mathlib.Data.Fintype.Powerset
import Mathlib.Data.Fintype.Prod

/-!
# The execution of a graph and of the tasks that it starts

`ExecuteChain` executes a node that is neither on the active path nor visited, with
itself on the path.  The path flows into the tasks that nodes start.  The branches of
special nodes begin with nothing visited, so that the path alone keeps a node from
being executed within itself.

The conditions, the actions of plain nodes and what tasks await are open: they
return or throw.
-/

namespace MultiSocketRudp
namespace GraphExecution

open ForkingCalls

/-! ## Nodes -/

/-- An exception, as the handlers tell them apart. -/
inductive Fault
  | assertionFailed
  | operationCanceled
  | other
  deriving DecidableEq, Repr

instance : Fintype Fault where
  elems := {.assertionFailed, .operationCanceled, .other}
  complete fault := by cases fault <;> decide

/-- The classes of nodes, with what is executed of them. -/
inductive NodeKind (Node : Type)
  | plain
  | conditionalNode (hasCondition : Bool) (trueNodes falseNodes : List Node)
  | assertNode (hasCondition stopOnFailure : Bool) (failureNodes : List Node)
  | loopNode
      (hasContinueCondition : Bool) (maxIterations : Int)
      (loopBody exitNodes : List Node)
  | repeatTimerNode (repeatCount : Int) (repeatBody : List Node)
  | retryNode
      (maxRetries : Int) (hasSuccessCondition : Bool)
      (retryBody successNodes failureNodes : List Node)
  | waitForPacketNode (hasExpectedPacketId : Bool) (timeoutNodes : List Node)

/-- `ActionNodeBase`. -/
structure ActionNode (Node : Type) where
  nextNodes : List Node
  kind : NodeKind Node

/-- `HandlesOwnNextNode`. -/
def NodeKind.handlesOwnNextNode {Node : Type} : NodeKind Node → Bool
  | .plain => false
  | .conditionalNode .. | .assertNode .. | .loopNode .. | .repeatTimerNode ..
  | .retryNode .. | .waitForPacketNode .. => true

/-! ## Programs -/

/-- A call of `ExecuteChain`: the node and `visited`. -/
abbrev ChainCall (Node : Type) := Node × Finset Node

/-- A program that calls `ExecuteChain`, which leaves what is visited then. -/
abbrev NodeProgram (Node : Type) :=
  Program (ChainCall Node) (Finset Node) Fault

section Programs

variable {Node : Type}

/-- Something outside that returns or throws. -/
def outside : NodeProgram Node Unit := do
  let _ ← Program.answer

/-- `foreach (var node in nodes) ExecuteChain(context, node, visited)`. -/
def executeEach : List Node → Finset Node → NodeProgram Node (Finset Node)
  | [], visited => return visited
  | node :: nodes, visited => do
      let visited ← Program.result (node, visited)
      executeEach nodes visited

/-- The same with `new HashSet<ActionNodeBase>()`. -/
def executeBranch (nodes : List Node) : NodeProgram Node Unit := do
  let _ ← executeEach nodes ∅

/-- `ConditionalNode.ExecuteImpl`. -/
def executeConditional
    (hasCondition : Bool) (trueNodes falseNodes nextNodes : List Node) :
    NodeProgram Node Unit := do
  if hasCondition then
    let result ← Program.answer
    executeBranch (if result then trueNodes else falseNodes)
    executeBranch nextNodes

/-- `AssertNode.ExecuteImpl`. -/
def executeAssert
    (hasCondition stopOnFailure : Bool) (failureNodes nextNodes : List Node) :
    NodeProgram Node Unit := do
  if hasCondition then
    try
      if ← Program.answer then
        executeBranch nextNodes
      else
        executeBranch failureNodes
        if stopOnFailure then
          throw Fault.assertionFailed
        executeBranch nextNodes
    catch fault =>
      if fault = Fault.assertionFailed then
        throw fault
      executeBranch failureNodes
      if stopOnFailure then
        throw fault
      executeBranch nextNodes

/-- The `while` of `LoopNode`, with so many iterations left. -/
def loopFrom (loopBody : List Node) : Nat → NodeProgram Node Unit
  | 0 => return ()
  | left + 1 => do
      if ← Program.answer then
        -- The pending task is awaited before the body and behind it.
        outside
        executeBranch loopBody
        outside
        loopFrom loopBody left

/-- `LoopNode.ExecuteImpl`. -/
def executeLoop
    (hasContinueCondition : Bool) (maxIterations : Int)
    (loopBody exitNodes nextNodes : List Node) :
    NodeProgram Node Unit := do
  if hasContinueCondition then
    -- The token of the client.
    outside
    Program.fork do
      try
        loopFrom loopBody maxIterations.toNat
        executeBranch exitNodes
        executeBranch nextNodes
      catch fault =>
        if fault ≠ Fault.operationCanceled then
          throw fault

/-- The `for` of `RepeatTimerNode`, with so many iterations left: whether it gets to
its end. -/
def repeatFrom (repeatBody : List Node) : Nat → NodeProgram Node Bool
  | 0 => return true
  | left + 1 => do
      let isCancellationRequested ← Program.answer
      if isCancellationRequested then
        return false
      executeBranch repeatBody
      if 0 < left then
        outside
      repeatFrom repeatBody left

/-- `RepeatTimerNode.ExecuteImpl`. -/
def executeRepeatTimer
    (repeatCount : Int) (repeatBody nextNodes : List Node) :
    NodeProgram Node Unit := do
  outside
  Program.fork do
    try
      if ← repeatFrom repeatBody repeatCount.toNat then
        executeBranch nextNodes
    catch _ : Fault =>
      pure ()

/-- An attempt: whether it succeeds. -/
def attempt
    (hasSuccessCondition : Bool) (retryBody successNodes : List Node) :
    NodeProgram Node Bool := do
  try
    executeBranch retryBody
    let success ← if hasSuccessCondition then Program.answer else pure true
    if success then
      executeBranch successNodes
    pure success
  catch _ : Fault =>
    pure false

/-- The delay between two attempts: whether it is cancelled. -/
def delayCancelled : NodeProgram Node Bool := do
  try
    outside
    pure false
  catch fault =>
    if fault ≠ Fault.operationCanceled then
      throw fault
    pure true

/-- The `while` of `RetryNode`, with so many attempts left: `success`, unless the
task returns. -/
def retryFrom
    (hasSuccessCondition : Bool) (retryBody successNodes : List Node) :
    Nat → NodeProgram Node (Option Bool)
  | 0 => return some false
  | left + 1 => do
      if ← attempt hasSuccessCondition retryBody successNodes then
        return some true
      if left = 0 then
        return some false
      if ← delayCancelled then
        return none
      retryFrom hasSuccessCondition retryBody successNodes left

/-- `RetryNode.ExecuteImpl`. -/
def executeRetry
    (maxRetries : Int) (hasSuccessCondition : Bool)
    (retryBody successNodes failureNodes : List Node) :
    NodeProgram Node Unit := do
  outside
  Program.fork do
    try
      let success ←
        retryFrom hasSuccessCondition retryBody successNodes maxRetries.toNat
      if success = some false then
        executeBranch failureNodes
    catch _ : Fault =>
      pure ()

/-- `WaitForPacketNode.ExecuteImpl`.  What it awaits may be there at once; its task
then takes its steps before the others. -/
def executeWaitForPacket
    (hasExpectedPacketId : Bool) (timeoutNodes nextNodes : List Node) :
    NodeProgram Node Unit := do
  if hasExpectedPacketId then
    outside
    -- `WaitForNextPacketAsync` may throw as well.
    outside
    Program.fork do
      try
        let isReceived ← Program.answer
        executeBranch (if isReceived then nextNodes else timeoutNodes)
      catch _ : Fault =>
        pure ()

/-- `Execute`. -/
def ActionNode.execute (node : ActionNode Node) : NodeProgram Node Unit :=
  match node.kind with
  | .plain => outside
  | .conditionalNode hasCondition trueNodes falseNodes =>
      executeConditional hasCondition trueNodes falseNodes node.nextNodes
  | .assertNode hasCondition stopOnFailure failureNodes =>
      executeAssert hasCondition stopOnFailure failureNodes node.nextNodes
  | .loopNode hasContinueCondition maxIterations loopBody exitNodes =>
      executeLoop hasContinueCondition maxIterations loopBody exitNodes
        node.nextNodes
  | .repeatTimerNode repeatCount repeatBody =>
      executeRepeatTimer repeatCount repeatBody node.nextNodes
  | .retryNode maxRetries hasSuccessCondition retryBody successNodes
      failureNodes =>
      executeRetry maxRetries hasSuccessCondition retryBody successNodes
        failureNodes
  | .waitForPacketNode hasExpectedPacketId timeoutNodes =>
      executeWaitForPacket hasExpectedPacketId timeoutNodes node.nextNodes

end Programs

/-! ## `ExecuteChain` -/

section ExecuteChain

variable {Node : Type}

/-- What `ExecuteChainWithStats` does when it executes a node. -/
def executeNode
    (graph : Node → ActionNode Node) (node : Node) (visited : Finset Node) :
    NodeProgram Node (Finset Node) := do
  (graph node).execute
  if (graph node).kind.handlesOwnNextNode then
    return visited
  executeEach (graph node).nextNodes visited

variable [DecidableEq Node]

/-- `ExecuteChainWithStats`: a circular reference is skipped, and another node is
executed with the path that it belongs to as `activeExecutionPath`. -/
def executeChain (graph : Node → ActionNode Node) :
    Calls (Finset Node) (ChainCall Node) (Finset Node) Fault
  | inheritedPath, (node, visited) =>
      if node ∈ inheritedPath ∨ node ∈ visited then .inl visited
      else
        .inr (insert node inheritedPath,
          executeNode graph node (insert node visited))

/-- `ExecuteChain` is called for a trigger node. -/
def triggered
    (inheritedPath : Finset Node) (trigger : Node) (visited : Finset Node) :
    State (Finset Node) (ChainCall Node) (Finset Node) Fault where
  threads := [{
    control := .result (trigger, visited)
    environment := inheritedPath
    frames := []
    startedIn := [] }]

/-- The threads of an execution. -/
abbrev execution
    (graph : Node → ActionNode Node)
    (inheritedPath : Finset Node) (trigger : Node) (visited : Finset Node) :=
  system (executeChain graph) (triggered inheritedPath trigger visited)

/-- The nodes that the execution of a node is in are on the active path. -/
def OnPath (path : Finset Node) (ancestors : List (ChainCall Node)) : Prop :=
  ∀ ancestor ∈ ancestors, ancestor.1 ∈ path

variable {graph : Node → ActionNode Node}

/-- A node that is executed joins the path. -/
theorem executeChain_eq_inr
    {path within : Finset Node} {call : ChainCall Node}
    {body : NodeProgram Node (Finset Node)}
    (executes : executeChain graph path call = .inr (within, body)) :
    call.1 ∉ path ∧ within = insert call.1 path := by
  obtain ⟨node, visited⟩ := call
  rw [executeChain] at executes
  split at executes
  next => cases executes
  next fresh =>
    cases executes
    exact ⟨fun active => fresh (.inl active), rfl⟩

/-- No node is executed within itself, and the path grows with the ancestors. -/
theorem executeChain_tracks :
    Tracks (executeChain graph) OnPath
      fun call ancestors => ∀ ancestor ∈ ancestors, ancestor.1 ≠ call.1 where
  permitted path ancestors call within body onPath executes ancestor among same :=
    (executeChain_eq_inr executes).1 (same ▸ onPath ancestor among)
  within path ancestors call within body onPath executes := by
    obtain ⟨-, rfl⟩ := executeChain_eq_inr executes
    refine List.forall_mem_cons.mpr ⟨Finset.mem_insert_self _ _, ?_⟩
    exact fun ancestor among => Finset.mem_insert_of_mem (onPath ancestor among)

variable [Fintype Node]

/-- The longer the path is, the fewer nodes can be executed below. -/
theorem executeChain_deeper
    (path : Finset Node) (call : ChainCall Node) (within : Finset Node)
    (body : NodeProgram Node (Finset Node))
    (executes : executeChain graph path call = .inr (within, body)) :
    Fintype.card Node - within.card < Fintype.card Node - path.card := by
  obtain ⟨fresh, rfl⟩ := executeChain_eq_inr executes
  have bound := Finset.card_le_univ (insert call.1 path)
  rw [Finset.card_insert_of_notMem fresh] at bound ⊢
  omega

/-- The steps below a path, at most. -/
def chainCost (graph : Node → ActionNode Node) (path : Finset Node) : Nat :=
  levelCost (executeChain graph) (Fintype.card Node - path.card)

theorem covers_chainCost : Covers (executeChain graph) (chainCost graph) :=
  covers_levelCost executeChain_deeper

/-- The execution of a graph and of the tasks that it starts ends, in whatever order
the threads take their steps, and no node is executed within itself. -/
theorem executeChain_ends
    (graph : Node → ActionNode Node)
    (inheritedPath : Finset Node) (trigger : Node) (visited : Finset Node) :
    ∃ bound, ∀ labels state,
      (execution graph inheritedPath trigger visited).run
          (triggered inheritedPath trigger visited) labels = some state →
        labels.length ≤ bound ∧
          state.entered.length ≤ bound ∧
          (∀ entry ∈ state.entered, ∀ ancestor ∈ entry.ancestors,
            ancestor.1 ≠ entry.argument.1) ∧
          ((∀ label, state.step (executeChain graph) label = none) →
            ∀ thread ∈ state.threads, thread.Ended) := by
  refine ⟨(triggered inheritedPath trigger visited).weight (chainCost graph),
    fun labels state runs => ?_⟩
  have steps := length_le_weight covers_chainCost runs
  have begins : (triggered inheritedPath trigger visited).Tracked OnPath
      fun call ancestors => ∀ ancestor ∈ ancestors, ancestor.1 ≠ call.1 :=
    ⟨List.forall_mem_singleton.mpr ⟨nofun, trivial⟩, nofun⟩
  obtain ⟨tracked, entered⟩ := begins.run executeChain_tracks runs
  have bounded := (Nat.le_add_right _ _).trans steps
  refine ⟨bounded, ?_, tracked.entered, fun stops => ?_⟩
  · exact (entered.trans (Nat.zero_add _).le).trans bounded
  · exact State.ended_of_step (.ok true) fun index => stops (index, .ok true)

end ExecuteChain

/-- The body of a loop that leads back to it. -/
def loopedGraph : Bool → ActionNode Bool
  | true => ⟨[], .loopNode true 2 [false] []⟩
  | false => ⟨[true], .plain⟩

/-- The body is executed twice, and the loop is not executed below it. -/
example :
    ((execution loopedGraph ∅ true ∅).run (triggered ∅ true ∅)
        (List.replicate 4 (0, .ok true) ++ List.replicate 14 (1, .ok true))).map
      (fun state => state.entered.map fun entry =>
        (entry.argument.1, entry.ancestors.map Prod.fst)) =
      some [(false, [true]), (false, [true]), (true, [])] := by
  rfl

end GraphExecution
end MultiSocketRudp
