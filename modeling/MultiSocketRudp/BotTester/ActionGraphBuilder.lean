import MultiSocketRudp.BotTester.NodeConfigurations
import Mathlib.Data.Fin.Basic

/-!
# The fluent builder of action graphs

`ActionGraphBuilder` adds every node that it creates to the graph.  The builders of
branches do not: they put their nodes into the branches alone.  These are custom
actions, for which there is no rule.
-/

namespace MultiSocketRudp
namespace GraphBuilders

open GraphValidator

/-- The calls of `ActionGraphBuilder` and of the builders of branches.  The latter
have been returned for a node. -/
inductive Call (Node : Type)
  | onConnected (nodeName : String)
  | onDisconnected (nodeName : String)
  | onReceive (nodeName : String) (packetId : PacketId)
  | thenSend (nodeName : String) (packetId : PacketId) (hasPacketBuilder : Bool)
  | thenDo (nodeName : String)
  | thenLog (nodeName : String)
  | thenWait (nodeName : String) (milliseconds : Int)
  | thenIf (nodeName : String) (hasCondition : Bool)
  | thenLoop
      (nodeName : String) (hasContinueCondition : Bool) (maxIterations : Int)
  | thenRepeat (nodeName : String) (count intervalMs : Int)
  | trueDo (conditionalNode : Node) (nodeName : String)
  | falseDo (conditionalNode : Node) (nodeName : String)
  | endIf (conditionalNode : Node)
  | loopDo (loopNode : Node) (nodeName : String)
  | onExit (loopNode : Node) (nodeName : String)
  | endLoop (loopNode : Node)
  | repeatDo (repeatNode : Node) (nodeName : String)
  | endRepeat (repeatNode : Node)

/-- A node as its constructor leaves it. -/
def newNode {Node : Type} (name : String) (data : NodeData Node) :
    ConfiguredNode Node :=
  ⟨name, none, [], data⟩

/-- `ActionGraphBuilder`. -/
structure ActionGraphBuilder (Node : Type) where
  graph : ActionGraph Node := ⟨fun _ => newNode "" .customActionNode, []⟩
  lastNode : Option Node := none

namespace ActionGraphBuilder

variable {Node : Type} [DecidableEq Node]

/-- A node object is changed. -/
def setNode
    (builder : ActionGraphBuilder Node)
    (node : Node) (configured : ConfiguredNode Node) :
    ActionGraphBuilder Node :=
  { builder with graph.node := Function.update builder.graph.node node configured }

/-- `graph.AddNode` and `lastNode = node`. -/
def addNode
    (builder : ActionGraphBuilder Node)
    (node : Node) (configured : ConfiguredNode Node) :
    ActionGraphBuilder Node :=
  { builder.setNode node configured with
    graph.allNodes := builder.graph.allNodes ++ [node]
    lastNode := some node }

/-- A trigger node. -/
def onTrigger
    (builder : ActionGraphBuilder Node)
    (node : Node) (nodeName : String) (trigger : TriggerCondition) :
    ActionGraphBuilder Node :=
  builder.addNode node
    { newNode nodeName .customActionNode with trigger := some trigger }

/-- A node behind the last one. -/
def andThen
    (builder : ActionGraphBuilder Node)
    (node : Node) (nodeName : String) (data : NodeData Node) :
    ActionGraphBuilder Node :=
  let builder :=
    match builder.lastNode with
    | none => builder
    | some last =>
        let configured := builder.graph.node last
        builder.setNode last
          { configured with nextNodes := configured.nextNodes ++ [node] }
  builder.addNode node (newNode nodeName data)

/-- A custom action in a branch, which has been put into the data of its owner. -/
def branchDo
    (builder : ActionGraphBuilder Node)
    (owner : Node) (data : NodeData Node) (node : Node) (nodeName : String) :
    ActionGraphBuilder Node :=
  (builder.setNode owner { builder.graph.node owner with data }).setNode node
    (newNode nodeName .customActionNode)

/-- A call, with the node object that it creates if it creates one.  A builder of
branches has been made for a node of its own kind. -/
def call
    (builder : ActionGraphBuilder Node) (node : Node) :
    Call Node → ActionGraphBuilder Node
  | .onConnected nodeName => builder.onTrigger node nodeName .onConnected
  | .onDisconnected nodeName => builder.onTrigger node nodeName .onDisconnected
  | .onReceive nodeName packetId =>
      builder.onTrigger node nodeName (.onPacketReceived (some packetId))
  | .thenSend nodeName packetId hasPacketBuilder =>
      builder.andThen node nodeName (.sendPacketNode packetId hasPacketBuilder)
  | .thenDo nodeName => builder.andThen node nodeName .customActionNode
  | .thenLog nodeName => builder.andThen node nodeName .logNode
  | .thenWait nodeName milliseconds =>
      builder.andThen node nodeName (.delayNode milliseconds)
  | .thenIf nodeName hasCondition =>
      builder.andThen node nodeName (.conditionalNode hasCondition [] [])
  | .thenLoop nodeName hasContinueCondition maxIterations =>
      builder.andThen node nodeName
        (.loopNode hasContinueCondition maxIterations [] [])
  | .thenRepeat nodeName count intervalMs =>
      builder.andThen node nodeName (.repeatTimerNode intervalMs count [])
  | .trueDo conditionalNode nodeName =>
      match (builder.graph.node conditionalNode).data with
      | .conditionalNode hasCondition trueNodes falseNodes =>
          builder.branchDo conditionalNode
            (.conditionalNode hasCondition (trueNodes ++ [node]) falseNodes)
            node nodeName
      | _ => builder
  | .falseDo conditionalNode nodeName =>
      match (builder.graph.node conditionalNode).data with
      | .conditionalNode hasCondition trueNodes falseNodes =>
          builder.branchDo conditionalNode
            (.conditionalNode hasCondition trueNodes (falseNodes ++ [node]))
            node nodeName
      | _ => builder
  | .loopDo loopNode nodeName =>
      match (builder.graph.node loopNode).data with
      | .loopNode hasContinueCondition maxIterations loopBody exitNodes =>
          builder.branchDo loopNode
            (.loopNode hasContinueCondition maxIterations (loopBody ++ [node])
              exitNodes)
            node nodeName
      | _ => builder
  | .onExit loopNode nodeName =>
      match (builder.graph.node loopNode).data with
      | .loopNode hasContinueCondition maxIterations loopBody exitNodes =>
          builder.branchDo loopNode
            (.loopNode hasContinueCondition maxIterations loopBody
              (exitNodes ++ [node]))
            node nodeName
      | _ => builder
  | .repeatDo repeatNode nodeName =>
      match (builder.graph.node repeatNode).data with
      | .repeatTimerNode intervalMilliseconds repeatCount repeatBody =>
          builder.branchDo repeatNode
            (.repeatTimerNode intervalMilliseconds repeatCount
              (repeatBody ++ [node]))
            node nodeName
      | _ => builder
  | .endIf owner | .endLoop owner | .endRepeat owner =>
      { builder with lastNode := some owner }

/-- The graph that some calls build, each of which creates the node of its index. -/
def build {calls : Nat} (script : Fin calls → Call (Fin calls)) :
    ActionGraph (Fin calls) :=
  let builder : ActionGraphBuilder (Fin calls) :=
    (List.finRange calls).foldl
      (fun builder index => builder.call index (script index)) {}
  builder.graph

/-! ## What is added to the graph -/

/-- A node that has not been added to the graph is a custom action. -/
def Covers (builder : ActionGraphBuilder Node) : Prop :=
  ∀ node, node ∈ builder.graph.allNodes ∨
    (builder.graph.node node).data = .customActionNode

variable {builder : ActionGraphBuilder Node}

/-- Nodes of the graph may be changed, and others may become custom actions. -/
theorem Covers.setNode
    (covers : builder.Covers) {node : Node} {configured : ConfiguredNode Node}
    (changes : node ∈ builder.graph.allNodes ∨
      configured.data = .customActionNode) :
    (builder.setNode node configured).Covers := by
  intro other
  rcases eq_or_ne other node with rfl | different
  · simpa [ActionGraphBuilder.setNode] using changes
  · simpa [ActionGraphBuilder.setNode, different] using covers other

theorem Covers.addNode
    (covers : builder.Covers) (node : Node) (configured : ConfiguredNode Node) :
    (builder.addNode node configured).Covers := by
  intro other
  rcases eq_or_ne other node with rfl | different
  · exact .inl (List.mem_append_right _ List.mem_cons_self)
  · refine (covers other).imp (List.mem_append_left _) fun custom => ?_
    simpa [ActionGraphBuilder.addNode, ActionGraphBuilder.setNode, different] using custom

/-- Edges do not matter. -/
theorem Covers.andThen
    (covers : builder.Covers) (node : Node) (nodeName : String)
    (data : NodeData Node) :
    (builder.andThen node nodeName data).Covers := by
  unfold ActionGraphBuilder.andThen
  cases builder.lastNode with
  | none => exact covers.addNode node _
  | some last =>
      have linked : (builder.setNode last
          { builder.graph.node last with
            nextNodes := (builder.graph.node last).nextNodes ++ [node] }).Covers :=
        covers.setNode (covers last)
      exact linked.addNode node _

/-- A branch is put into a node of the graph. -/
theorem Covers.branchDo
    (covers : builder.Covers) {owner : Node}
    (special : (builder.graph.node owner).data ≠ .customActionNode)
    (data : NodeData Node) (node : Node) (nodeName : String) :
    (builder.branchDo owner data node nodeName).Covers := by
  have registered := (covers owner).resolve_right special
  have changed : (builder.setNode owner
      { builder.graph.node owner with data }).Covers :=
    covers.setNode (.inl registered)
  exact changed.setNode (.inr rfl)

/-- Every call keeps this. -/
theorem Covers.call
    (covers : builder.Covers) (node : Node) (call : Call Node) :
    (builder.call node call).Covers := by
  unfold ActionGraphBuilder.call
  cases call with
  | onConnected | onDisconnected | onReceive => exact covers.addNode node _
  | thenSend | thenDo | thenLog | thenWait | thenIf | thenLoop | thenRepeat =>
      exact covers.andThen node _ _
  | trueDo owner | falseDo owner | loopDo owner | onExit owner | repeatDo owner =>
      dsimp only
      split
      next stands => exact covers.branchDo (by rw [stands]; nofun) _ node _
      next => exact covers
  | endIf | endLoop | endRepeat => exact covers

/-- Every node of a built graph that is not in it is a custom action. -/
theorem covers_build
    {calls : Nat} (script : Fin calls → Call (Fin calls)) (node : Fin calls) :
    node ∈ (build script).allNodes ∨
      ((build script).node node).data = .customActionNode := by
  have kept (indices : List (Fin calls)) (builder : ActionGraphBuilder (Fin calls))
      (covers : builder.Covers) :
      (indices.foldl (fun builder index => builder.call index (script index))
        builder).Covers := by
    induction indices generalizing builder with
    | nil => exact covers
    | cons index indices inductionHypothesis =>
        exact inductionHypothesis _ (covers.call index (script index))
  exact kept _ {} (fun _ => .inr rfl) node

/-- All nodes of a valid graph satisfy the rules. -/
theorem errorRules_of_isValid
    {calls : Nat} (environment : Environment)
    (script : Fin calls → Call (Fin calls))
    (valid : isValid (validateGraph environment (build script)) = true)
    (node : Fin calls) :
    ErrorRules environment ((build script).node node).data := by
  rcases covers_build script node with registered | custom
  · exact ((isValid_validateGraph_iff environment _).mp valid).2.2 node registered
  · rw [custom]
    trivial

end ActionGraphBuilder

end GraphBuilders
end MultiSocketRudp
