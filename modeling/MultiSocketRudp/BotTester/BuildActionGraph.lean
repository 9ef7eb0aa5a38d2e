import Mathlib
import MultiSocketRudp.BotTester.ActionGraphBuilder

/-!
# The graph that is built from a window

`BuildActionGraph` makes a node for each visual, connects them, and adds those with
a trigger to the graph.  These are the root nodes, for whose configuration there is
no rule.  The other nodes are executed without having been checked: their
configuration is what the visuals say, and where they say nothing a default.
-/

namespace MultiSocketRudp
namespace GraphBuilders

open GraphValidator

/-! ## Visuals -/

/-- `NodeVisual.NodeType`. -/
inductive NodeType
  | sendPacketNode
  | delayNode
  | randomDelayNode
  | disconnectNode
  | waitForPacketNode
  | setVariableNode
  | getVariableNode
  | logNode
  | customActionNode
  | conditionalNode
  | loopNode
  | repeatTimerNode
  | packetParserNode
  | randomChoiceNode
  | assertNode
  | retryNode
  | other (name : String)
  deriving DecidableEq, Repr

/-- `Type.Name`. -/
def NodeType.name : NodeType → String
  | .sendPacketNode => "SendPacketNode"
  | .delayNode => "DelayNode"
  | .randomDelayNode => "RandomDelayNode"
  | .disconnectNode => "DisconnectNode"
  | .waitForPacketNode => "WaitForPacketNode"
  | .setVariableNode => "SetVariableNode"
  | .getVariableNode => "GetVariableNode"
  | .logNode => "LogNode"
  | .customActionNode => "CustomActionNode"
  | .conditionalNode => "ConditionalNode"
  | .loopNode => "LoopNode"
  | .repeatTimerNode => "RepeatTimerNode"
  | .packetParserNode => "PacketParserNode"
  | .randomChoiceNode => "RandomChoiceNode"
  | .assertNode => "AssertNode"
  | .retryNode => "RetryNode"
  | .other name => name

/-- The value of a property.  Of a `double`, a `float` or a `decimal` it is the
integral part, if there is one. -/
inductive PropertyValue
  | int (value : Int)
  | long (value : Int)
  | fractional (integralPart : Option Int)
  | bool (value : Bool)
  | string (value : String)
  | other
  deriving DecidableEq, Repr

/-- `NodeConfiguration`.  A property that is `null` is read like one that is
missing. -/
structure NodeConfiguration where
  packetId : Option PacketId := none
  intValue : Int := 0
  properties : String → Option PropertyValue := fun _ => none

/-- `NodeVisual`, with the action node that a root has got already. -/
structure NodeVisual (Existing Visual : Type) where
  root : Option Existing := none
  nodeType : Option NodeType := none
  configuration : Option NodeConfiguration := none
  next : Option Visual := none
  trueChild : Option Visual := none
  falseChild : Option Visual := none
  dynamicChildren : List (Option Visual) := []

/-- The nodes there are, and one that is made for each visual. -/
abbrev BuiltNode (Existing Visual : Type) := Existing ⊕ Visual

/-- The window: its visuals, and the action nodes that exist.  These are the root
nodes, and nodes of graphs that have been built before.  Wherever a root visual is
made, it gets a custom action with a trigger. -/
structure Window (Existing Visual : Type) where
  allNodes : List Visual
  visual : Visual → NodeVisual Existing Visual
  existing : Existing → ConfiguredNode Existing
  nodup : allNodes.Nodup
  rootAction : ∀ visual' ∈ allNodes, ∀ node, (visual visual').root = some node →
    (existing node).data = .customActionNode
  rootTrigger : ∀ visual' ∈ allNodes, ∀ node, (visual visual').root = some node →
    (existing node).trigger.isSome = true

/-! ## The builders of nodes -/

/-- An exception that a builder throws. -/
inductive BuildError
  | invalidOperation (message : String)
  | overflow
  | format
  deriving DecidableEq, Repr

/-- The library functions that the builders call, with those of the validator. -/
structure BuildEnvironment extends Environment where
  /-- `ToString`. -/
  toText : PropertyValue → String
  /-- What the `Parse` method of a field's type throws. -/
  parseField : FieldType → String → Option BuildError

section Builders

variable {Existing Visual : Type}

/-- The value of a property that is there. -/
def NodeVisual.property
    (visual : NodeVisual Existing Visual) (key : String) :
    Option PropertyValue :=
  visual.configuration.bind fun configuration => configuration.properties key

/-- `checked((int)value)`. -/
def checkedInt (value : Int) : Except BuildError Int :=
  if -2 ^ 31 ≤ value ∧ value < 2 ^ 31 then .ok value else .error .overflow

/-- `NodeConfigurationValueReader.GetInt`. -/
def getInt
    (environment : BuildEnvironment) (visual : NodeVisual Existing Visual)
    (key : String) (defaultValue : Int) :
    Except BuildError Int :=
  match visual.property key with
  | none => .ok defaultValue
  | some (.int value) => .ok value
  | some (.long value) => checkedInt value
  | some (.fractional (some value)) => checkedInt value
  | some (.fractional none) => .error .overflow
  | some (.string value) =>
      .ok ((environment.intTryParse value).getD defaultValue)
  | some (.bool _) | some .other => .ok defaultValue

/-- `Properties.GetValueOrDefault(key)?.ToString()`. -/
def propertyText
    (environment : BuildEnvironment) (visual : NodeVisual Existing Visual)
    (key : String) : Option String :=
  (visual.property key).map environment.toText

/-- `visual.Configuration?.PacketId ?? PacketId.InvalidPacketId`. -/
def NodeVisual.packetId (visual : NodeVisual Existing Visual) : PacketId :=
  (visual.configuration.bind NodeConfiguration.packetId).getD invalidPacketId

/-- `visual.Configuration?.IntValue ?? defaultValue`. -/
def NodeVisual.intValue
    (visual : NodeVisual Existing Visual) (defaultValue : Int) : Int :=
  (visual.configuration.map NodeConfiguration.intValue).getD defaultValue

/-- The fields of `SendPacketNodeBuilder`: the first of them that is not parsed. -/
def parseFields
    (environment : BuildEnvironment) (visual : NodeVisual Existing Visual) :
    List PacketFieldDef → Except BuildError Unit
  | [] => .ok ()
  | field :: fields =>
      match visual.property ("Field_" ++ field.name) with
      | none => parseFields environment visual fields
      | some value =>
          if field.type = .string then parseFields environment visual fields
          else
            match environment.parseField field.type
                (environment.toText value) with
            | some error => .error error
            | none => parseFields environment visual fields

/-- The data of the node that the builder of a type builds. -/
def buildData (Node : Type)
    (environment : BuildEnvironment) (visual : NodeVisual Existing Visual)
    (nodeType : NodeType) :
    Except BuildError (NodeData Node) :=
  match nodeType with
  | .sendPacketNode =>
      if visual.packetId = invalidPacketId then
        .error (.invalidOperation ("SendPacketNode '" ++ nodeType.name ++
          "' requires a valid PacketId. " ++
          "Please double-click the node to configure it."))
      else do
        parseFields environment visual
          ((environment.schema visual.packetId).getD [])
        return .sendPacketNode visual.packetId false
  | .delayNode => .ok (.delayNode (visual.intValue 1000))
  | .randomDelayNode => do
      let minDelay ← getInt environment visual "MinDelay" 500
      let maxDelay ← getInt environment visual "MaxDelay" 2000
      return .randomDelayNode minDelay maxDelay
  | .disconnectNode => .ok .disconnectNode
  | .waitForPacketNode =>
      if visual.packetId = invalidPacketId then
        .error (.invalidOperation ("WaitForPacketNode requires a valid PacketId. " ++
          "Please double-click the node to configure it."))
      else .ok (.waitForPacketNode visual.packetId (visual.intValue 5000) [])
  | .setVariableNode =>
      .ok (.setVariableNode
        ((propertyText environment visual "VariableName").getD "value")
        ((propertyText environment visual "ValueType").getD "int")
        ((propertyText environment visual "Value").getD "0"))
  | .getVariableNode => .ok .getVariableNode
  | .logNode => .ok .logNode
  | .customActionNode => .ok .customActionNode
  | .conditionalNode =>
      if visual.property "Left" = none ∨ visual.property "Op" = none ∨
          visual.property "Right" = none then
        .error (.invalidOperation ("ConditionalNode is not fully configured. " ++
          "Please double-click to configure it."))
      else .ok (.conditionalNode true [] [])
  | .loopNode => do
      let count ← getInt environment visual "LoopCount" 1
      return .loopNode true count [] []
  | .repeatTimerNode => do
      let repeatCount ← getInt environment visual "RepeatCount" 10
      return .repeatTimerNode (visual.intValue 1000) repeatCount []
  | .packetParserNode =>
      match propertyText environment visual "SetterMethod" with
      | none | some "" =>
          .error (.invalidOperation ("PacketParserNode requires a setter method. " ++
            "Please double-click to configure it."))
      | some _ => .ok .packetParserNode
  | .randomChoiceNode => .ok (.randomChoiceNode [])
  | .assertNode => .ok (.assertNode true [])
  | .retryNode => do
      let maxRetries ← getInt environment visual "MaxRetries" 3
      let retryDelay ← getInt environment visual "RetryDelay" 1000
      return .retryNode maxRetries retryDelay [] [] []
  | .other _ => .ok .customActionNode

/-- `NodeBuilderRegistry.TryBuild`. -/
def tryBuild (Node : Type)
    (environment : BuildEnvironment) (visual : NodeVisual Existing Visual) :
    Except BuildError (Option (ConfiguredNode Node)) :=
  match visual.nodeType with
  | none => .ok none
  | some nodeType => do
      let data ← buildData Node environment visual nodeType
      return some (newNode nodeType.name data)

end Builders

/-! ## `BuildActionGraph` -/

section BuildActionGraph

variable {Existing Visual : Type} [DecidableEq Existing] [DecidableEq Visual]

/-- The nodes that have been made, and the `mapping` to them. -/
structure Building (Existing Visual : Type) where
  node : BuiltNode Existing Visual → ConfiguredNode (BuiltNode Existing Visual)
  mapping : Visual → Option (BuiltNode Existing Visual)

/-- Before the first loop. -/
def Building.initial (window : Window Existing Visual) :
    Building Existing Visual where
  node := Sum.elim (fun node => (window.existing node).map .inl)
    fun _ => newNode "" .customActionNode
  mapping _ := none

/-- The first loop of `BuildActionGraph`. -/
def buildNodes
    (environment : BuildEnvironment) (window : Window Existing Visual) :
    List Visual → Building Existing Visual →
      Except (Option NodeType × BuildError) (Building Existing Visual)
  | [], building => .ok building
  | visual :: visuals, building =>
      match (window.visual visual).root with
      | some node =>
          buildNodes environment window visuals
            { building with
              mapping := Function.update building.mapping visual
                (some (.inl node)) }
      | none =>
          match tryBuild (BuiltNode Existing Visual) environment
              (window.visual visual) with
          | .error error => .error ((window.visual visual).nodeType, error)
          | .ok none => buildNodes environment window visuals building
          | .ok (some node) =>
              buildNodes environment window visuals
                { node := Function.update building.node (.inr visual) node
                  mapping := Function.update building.mapping visual
                    (some (.inr visual)) }

/-- `ConnectNext`. -/
def connectNext {Node : Type}
    (mapping : Visual → Option Node) (visual : NodeVisual Existing Visual)
    (node : ConfiguredNode Node) : ConfiguredNode Node :=
  { node with
    nextNodes := node.nextNodes ++ (visual.next.bind mapping).toList }

/-- The choices that `ConnectBranches` adds, from an index on. -/
def connectChoices {Node : Type}
    (mapping : Visual → Option Node) :
    Nat → List (Option Visual) → List (ChoiceOption Node)
  | _, [] => []
  | index, child :: children =>
      match child.bind mapping with
      | none => connectChoices mapping (index + 1) children
      | some node =>
          ⟨"Choice " ++ toString (index + 1), 1, some node⟩ ::
            connectChoices mapping (index + 1) children

/-- `ConnectBranches`. -/
def connectBranches {Node : Type}
    (mapping : Visual → Option Node) (visual : NodeVisual Existing Visual)
    (node : ConfiguredNode Node) : ConfiguredNode Node :=
  let trueChild := (visual.trueChild.bind mapping).toList
  let falseChild := (visual.falseChild.bind mapping).toList
  match node.data with
  | .conditionalNode hasCondition trueNodes falseNodes =>
      { node with
        data := .conditionalNode hasCondition (trueNodes ++ trueChild)
          (falseNodes ++ falseChild) }
  | .loopNode hasContinueCondition maxIterations loopBody exitNodes =>
      { node with
        data := .loopNode hasContinueCondition maxIterations
          (loopBody ++ trueChild) (exitNodes ++ falseChild) }
  | .repeatTimerNode intervalMilliseconds repeatCount repeatBody =>
      { node with
        data := .repeatTimerNode intervalMilliseconds repeatCount
          (repeatBody ++ trueChild) }
  | .waitForPacketNode expectedPacketId timeoutMilliseconds timeoutNodes =>
      { node with
        nextNodes := node.nextNodes ++ trueChild
        data := .waitForPacketNode expectedPacketId timeoutMilliseconds
          (timeoutNodes ++ falseChild) }
  | .assertNode hasCondition failureNodes =>
      { node with
        nextNodes := node.nextNodes ++ trueChild
        data := .assertNode hasCondition (failureNodes ++ falseChild) }
  | .retryNode maxRetries retryDelayMilliseconds retryBody successNodes
      failureNodes =>
      { node with
        data := .retryNode maxRetries retryDelayMilliseconds
          (retryBody ++ trueChild) successNodes (failureNodes ++ falseChild) }
  | .randomChoiceNode choices =>
      { node with
        data := .randomChoiceNode
          (choices ++ connectChoices mapping 0 visual.dynamicChildren) }
  | _ => node

/-- A visual's node with its connections. -/
def connect {Node : Type}
    (mapping : Visual → Option Node) (visual : NodeVisual Existing Visual)
    (node : ConfiguredNode Node) : ConfiguredNode Node :=
  connectBranches mapping visual (connectNext mapping visual node)

/-- The second loop of `BuildActionGraph`. -/
def connectNodes
    (window : Window Existing Visual)
    (mapping : Visual → Option (BuiltNode Existing Visual)) :
    List Visual → ActionGraph (BuiltNode Existing Visual) →
      ActionGraph (BuiltNode Existing Visual)
  | [], graph => graph
  | visual :: visuals, graph =>
      match mapping visual with
      | none => connectNodes window mapping visuals graph
      | some node =>
          let configured :=
            connect mapping (window.visual visual) (graph.node node)
          connectNodes window mapping visuals
            { node := Function.update graph.node node configured
              allNodes :=
                if configured.trigger.isSome then graph.allNodes ++ [node]
                else graph.allNodes }

/-- `BotActionGraphWindow.BuildActionGraph`. -/
def buildActionGraph
    (environment : BuildEnvironment) (window : Window Existing Visual) :
    Except (Option NodeType × BuildError)
      (ActionGraph (BuiltNode Existing Visual)) := do
  let building ← buildNodes environment window window.allNodes
    (.initial window)
  return connectNodes window building.mapping window.allNodes ⟨building.node, []⟩

end BuildActionGraph

end GraphBuilders
end MultiSocketRudp
