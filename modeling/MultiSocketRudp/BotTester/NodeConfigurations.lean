import MultiSocketRudp.BotTester.GraphValidator
import Mathlib.Data.Fintype.Card

/-!
# The validation of a graph

`ValidateGraph` checks the structure, the cycles, the configuration of the nodes and
what can be reached.  Only the cycles are looked for along the edges: the
configurations that it checks are those of the nodes that have been added to the
graph.
-/

namespace MultiSocketRudp
namespace GraphValidator

/-- `PacketId`. -/
abbrev PacketId := BitVec 32

/-- `PacketId.InvalidPacketId`. -/
def invalidPacketId : PacketId := 0

/-- `FieldType`. -/
inductive FieldType
  | byte
  | ushort
  | int
  | uint
  | ulong
  | string
  deriving DecidableEq, Repr

/-- `PacketFieldDef`. -/
structure PacketFieldDef where
  name : String
  type : FieldType

/-- The functions of strings that the validator calls, and the packet schemas that
are registered. -/
structure Environment where
  /-- `PacketSchema.Get`. -/
  schema : PacketId → Option (List PacketFieldDef)
  isNullOrWhiteSpace : String → Bool
  toLowerInvariant : String → String
  intTryParse : String → Option Int
  longTryParse : String → Bool
  floatTryParse : String → Bool
  doubleTryParse : String → Bool
  boolTryParse : String → Bool

/-! ## Nodes with their configuration -/

/-- `ChoiceOption`. -/
structure ChoiceOption (Node : Type) where
  name : String
  weight : Int
  node : Option Node

/-- The node classes, with what the validator reads of them. -/
inductive NodeData (Node : Type)
  | sendPacketNode (packetId : PacketId) (hasPacketBuilder : Bool)
  | delayNode (delayMilliseconds : Int)
  | randomDelayNode (minDelayMilliseconds maxDelayMilliseconds : Int)
  | disconnectNode
  | logNode
  | customActionNode
  | getVariableNode
  | packetParserNode
  | setVariableNode (variableName valueType stringValue : String)
  | waitForPacketNode
      (expectedPacketId : PacketId) (timeoutMilliseconds : Int)
      (timeoutNodes : List Node)
  | conditionalNode (hasCondition : Bool) (trueNodes falseNodes : List Node)
  | loopNode
      (hasContinueCondition : Bool) (maxIterations : Int)
      (loopBody exitNodes : List Node)
  | repeatTimerNode
      (intervalMilliseconds repeatCount : Int) (repeatBody : List Node)
  | assertNode (hasCondition : Bool) (failureNodes : List Node)
  | retryNode
      (maxRetries retryDelayMilliseconds : Int)
      (retryBody successNodes failureNodes : List Node)
  | randomChoiceNode (choices : List (ChoiceOption Node))

/-- The nodes that it leads to, by their kind. -/
def NodeData.kind {Node : Type} : NodeData Node → NodeKind Node
  | .waitForPacketNode _ _ timeoutNodes => .waitForPacketNode timeoutNodes
  | .conditionalNode _ trueNodes falseNodes =>
      .conditionalNode trueNodes falseNodes
  | .loopNode _ _ loopBody exitNodes => .loopNode loopBody exitNodes
  | .repeatTimerNode _ _ repeatBody => .repeatTimerNode repeatBody
  | .assertNode _ failureNodes => .assertNode failureNodes
  | .retryNode _ _ retryBody successNodes failureNodes =>
      .retryNode retryBody successNodes failureNodes
  | .randomChoiceNode choices => .randomChoiceNode (choices.map ChoiceOption.node)
  | _ => .action

/-- `TriggerCondition`. -/
inductive TriggerCondition
  | onConnected
  | onDisconnected
  | onPacketReceived (packetId : Option PacketId)
  | manual
  deriving DecidableEq, Repr

/-- `ActionNodeBase`, with the configuration of its class. -/
structure ConfiguredNode (Node : Type) where
  name : String
  trigger : Option TriggerCondition
  nextNodes : List Node
  data : NodeData Node

/-- A node, as the search for cycles sees it. -/
def ConfiguredNode.actionNode {Node : Type} (node : ConfiguredNode Node) :
    ActionNode Node where
  name := node.name
  hasTrigger := node.trigger.isSome
  nextNodes := node.nextNodes
  kind := node.data.kind

/-- The edges of a node, to what has become of its nodes. -/
def NodeData.map {Node Node' : Type} (become : Node → Node') :
    NodeData Node → NodeData Node'
  | .sendPacketNode packetId hasPacketBuilder =>
      .sendPacketNode packetId hasPacketBuilder
  | .delayNode delayMilliseconds => .delayNode delayMilliseconds
  | .randomDelayNode minDelayMilliseconds maxDelayMilliseconds =>
      .randomDelayNode minDelayMilliseconds maxDelayMilliseconds
  | .disconnectNode => .disconnectNode
  | .logNode => .logNode
  | .customActionNode => .customActionNode
  | .getVariableNode => .getVariableNode
  | .packetParserNode => .packetParserNode
  | .setVariableNode variableName valueType stringValue =>
      .setVariableNode variableName valueType stringValue
  | .waitForPacketNode expectedPacketId timeoutMilliseconds timeoutNodes =>
      .waitForPacketNode expectedPacketId timeoutMilliseconds
        (timeoutNodes.map become)
  | .conditionalNode hasCondition trueNodes falseNodes =>
      .conditionalNode hasCondition (trueNodes.map become)
        (falseNodes.map become)
  | .loopNode hasContinueCondition maxIterations loopBody exitNodes =>
      .loopNode hasContinueCondition maxIterations (loopBody.map become)
        (exitNodes.map become)
  | .repeatTimerNode intervalMilliseconds repeatCount repeatBody =>
      .repeatTimerNode intervalMilliseconds repeatCount (repeatBody.map become)
  | .assertNode hasCondition failureNodes =>
      .assertNode hasCondition (failureNodes.map become)
  | .retryNode maxRetries retryDelayMilliseconds retryBody successNodes
      failureNodes =>
      .retryNode maxRetries retryDelayMilliseconds (retryBody.map become)
        (successNodes.map become) (failureNodes.map become)
  | .randomChoiceNode choices =>
      .randomChoiceNode (choices.map fun choice =>
        ⟨choice.name, choice.weight, choice.node.map become⟩)

def ConfiguredNode.map {Node Node' : Type} (become : Node → Node')
    (node : ConfiguredNode Node) : ConfiguredNode Node' :=
  ⟨node.name, node.trigger, node.nextNodes.map become, node.data.map become⟩

theorem ConfiguredNode.getAllNextNodes_map {Node Node' : Type} (become : Node → Node')
    (node : ConfiguredNode Node) :
    (node.map become).actionNode.getAllNextNodes =
      node.actionNode.getAllNextNodes.map become := by
  unfold ConfiguredNode.actionNode ConfiguredNode.map ActionNode.getAllNextNodes
  rw [List.map_append]
  congr 1
  cases node.data with
  | randomChoiceNode choices =>
      simp [NodeData.map, NodeData.kind, List.filterMap_map, List.map_filterMap,
        Function.comp_def]
  | _ => simp [NodeData.map, NodeData.kind]

/-- `ActionGraph`, with the nodes that have been added to it. -/
structure ActionGraph (Node : Type) where
  node : Node → ConfiguredNode Node
  allNodes : List Node

namespace ActionGraph

variable {Node : Type}

/-- The graph, as the search for cycles sees it. -/
def actionNodes (graph : ActionGraph Node) (node : Node) : ActionNode Node :=
  (graph.node node).actionNode

/-- One can get from a trigger node to the node. -/
def Reachable (graph : ActionGraph Node) (node : Node) : Prop :=
  ∃ trigger ∈ graph.allNodes, (graph.node trigger).trigger.isSome = true ∧
    Relation.ReflTransGen (Edge graph.actionNodes) trigger node

end ActionGraph

/-! ## `ValidateNodeConfigurations` -/

section Configurations

variable {Node : Type}

/-- `IsSupportedVariableType`. -/
def isSupportedVariableType (environment : Environment) (valueType : String) : Bool :=
  environment.toLowerInvariant valueType ∈
    ["int", "long", "float", "double", "bool", "string"]

/-- `CanParseVariableValue`. -/
def canParseVariableValue
    (environment : Environment) (valueType stringValue : String) : Bool :=
  match environment.toLowerInvariant valueType with
  | "int" => (environment.intTryParse stringValue).isSome
  | "long" => environment.longTryParse stringValue
  | "float" => environment.floatTryParse stringValue
  | "double" => environment.doubleTryParse stringValue
  | "bool" => environment.boolTryParse stringValue
  | "string" => true
  | _ => false

/-- `AddError` and `AddWarning`. -/
def ConfiguredNode.issue
    (node : ConfiguredNode Node)
    (severity : ValidationSeverity) (message category : String) :
    Option ValidationIssue :=
  some ⟨severity, node.name, message, category⟩

/-- The `switch` of `ValidateNodeConfigurations`: its first case that matches. -/
def configurationIssue
    (environment : Environment) (node : ConfiguredNode Node) :
    Option ValidationIssue :=
  match node.data with
  | .sendPacketNode packetId hasPacketBuilder =>
      if packetId = invalidPacketId then
        node.issue .error "Invalid PacketId" "Configuration"
      else if ¬ hasPacketBuilder ∧ (environment.schema packetId).isNone then
        node.issue .error "No PacketBuilder or packet schema is available"
          "Configuration"
      else none
  | .delayNode delayMilliseconds =>
      if delayMilliseconds ≤ 0 then
        node.issue .error "Delay must be positive" "Configuration"
      else if delayMilliseconds > 60000 then
        node.issue .warning "Very long delay (>60s)" "Performance"
      else none
  | .waitForPacketNode expectedPacketId timeoutMilliseconds timeoutNodes =>
      if expectedPacketId = invalidPacketId then
        node.issue .error "Invalid expected PacketId" "Configuration"
      else if timeoutMilliseconds ≤ 0 then
        node.issue .error "Timeout must be positive" "Configuration"
      else if timeoutNodes.length = 0 then
        node.issue .warning "No timeout handler configured" "Logic"
      else none
  | .conditionalNode hasCondition _ _ =>
      if ¬ hasCondition then
        node.issue .error "Condition is null" "Configuration"
      else none
  | .loopNode hasContinueCondition maxIterations _ _ =>
      if ¬ hasContinueCondition then
        node.issue .error "Continue condition is null" "Configuration"
      else if maxIterations ≤ 0 then
        node.issue .error "Maximum iterations must be positive" "Configuration"
      else if maxIterations > 10000 then
        node.issue .warning "Very high iteration limit" "Performance"
      else none
  | .randomDelayNode minDelayMilliseconds maxDelayMilliseconds =>
      if minDelayMilliseconds < 0 then
        node.issue .error "Minimum delay cannot be negative" "Configuration"
      else if maxDelayMilliseconds < minDelayMilliseconds then
        node.issue .error
          "Maximum delay must be greater than or equal to minimum delay"
          "Configuration"
      else none
  | .repeatTimerNode intervalMilliseconds repeatCount _ =>
      if repeatCount ≤ 0 then
        node.issue .error "Repeat count must be positive" "Configuration"
      else if intervalMilliseconds < 0 then
        node.issue .error "Repeat interval cannot be negative" "Configuration"
      else none
  | .assertNode hasCondition failureNodes =>
      if ¬ hasCondition then
        node.issue .error "Condition is null" "Configuration"
      else if failureNodes.length = 0 then
        node.issue .warning "No failure handler configured" "Logic"
      else none
  | .retryNode maxRetries retryDelayMilliseconds _ _ _ =>
      if maxRetries ≤ 0 then
        node.issue .error "Maximum retries must be positive" "Configuration"
      else if retryDelayMilliseconds < 0 then
        node.issue .error "Retry delay cannot be negative" "Configuration"
      else none
  | .randomChoiceNode choices =>
      if choices.length < 2 then
        node.issue .error "RandomChoiceNode requires at least 2 choices"
          "Configuration"
      else if choices.any fun choice => choice.node.isNone then
        node.issue .error "Every random choice requires a target node"
          "Configuration"
      else if choices.any fun choice => choice.weight ≤ 0 then
        node.issue .error "Every random choice weight must be positive"
          "Configuration"
      else none
  | .setVariableNode variableName valueType stringValue =>
      if environment.isNullOrWhiteSpace variableName then
        node.issue .error "Variable name cannot be empty" "Configuration"
      else if ¬ isSupportedVariableType environment valueType then
        node.issue .error ("Unsupported variable type: " ++ valueType)
          "Configuration"
      else if ¬ canParseVariableValue environment valueType stringValue then
        node.issue .error ("Value is invalid for type " ++ valueType)
          "Configuration"
      else none
  | .disconnectNode | .logNode | .customActionNode | .getVariableNode
  | .packetParserNode => none

/-- `ValidateNodeConfigurations`. -/
def validateNodeConfigurations
    (environment : Environment)
    (graph : ActionGraph Node)
    (issues : List ValidationIssue) :
    List ValidationIssue :=
  issues ++ graph.allNodes.filterMap
    fun node => configurationIssue environment (graph.node node)

/-- The rules whose violation is an error. -/
def ErrorRules (environment : Environment) : NodeData Node → Prop
  | .sendPacketNode packetId hasPacketBuilder =>
      packetId ≠ invalidPacketId ∧
        (hasPacketBuilder = true ∨ (environment.schema packetId).isSome = true)
  | .delayNode delayMilliseconds => 0 < delayMilliseconds
  | .waitForPacketNode expectedPacketId timeoutMilliseconds _ =>
      expectedPacketId ≠ invalidPacketId ∧ 0 < timeoutMilliseconds
  | .conditionalNode hasCondition _ _ => hasCondition = true
  | .loopNode hasContinueCondition maxIterations _ _ =>
      hasContinueCondition = true ∧ 0 < maxIterations
  | .randomDelayNode minDelayMilliseconds maxDelayMilliseconds =>
      0 ≤ minDelayMilliseconds ∧ minDelayMilliseconds ≤ maxDelayMilliseconds
  | .repeatTimerNode intervalMilliseconds repeatCount _ =>
      0 < repeatCount ∧ 0 ≤ intervalMilliseconds
  | .assertNode hasCondition _ => hasCondition = true
  | .retryNode maxRetries retryDelayMilliseconds _ _ _ =>
      0 < maxRetries ∧ 0 ≤ retryDelayMilliseconds
  | .randomChoiceNode choices =>
      2 ≤ choices.length ∧
        (∀ choice ∈ choices, choice.node.isSome = true) ∧
        ∀ choice ∈ choices, 0 < choice.weight
  | .setVariableNode variableName valueType stringValue =>
      environment.isNullOrWhiteSpace variableName = false ∧
        isSupportedVariableType environment valueType = true ∧
        canParseVariableValue environment valueType stringValue = true
  | .disconnectNode | .logNode | .customActionNode | .getVariableNode
  | .packetParserNode => True

/-- The first case that matches reports an error if some rule is violated. -/
theorem configurationIssue_error_iff
    (environment : Environment) (node : ConfiguredNode Node) :
    (∃ issue, configurationIssue environment node = some issue ∧
      issue.severity = .error) ↔ ¬ ErrorRules environment node.data := by
  unfold configurationIssue ErrorRules ConfiguredNode.issue
  cases node.data with
  | disconnectNode | logNode | customActionNode | getVariableNode
  | packetParserNode => simp
  | randomChoiceNode choices =>
      have nodes : (choices.any fun choice => choice.node.isNone) = true ↔
          ¬ ∀ choice ∈ choices, choice.node.isSome = true := by
        simp [List.any_eq_true]
      have weights : (choices.any fun choice => decide (choice.weight ≤ 0)) = true ↔
          ¬ ∀ choice ∈ choices, 0 < choice.weight := by
        simp [List.any_eq_true]
      dsimp only
      split_ifs with few missing light
      · exact iff_of_true ⟨_, rfl, rfl⟩ fun rules => Nat.not_lt.mpr rules.1 few
      · exact iff_of_true ⟨_, rfl, rfl⟩ fun rules => nodes.mp missing rules.2.1
      · exact iff_of_true ⟨_, rfl, rfl⟩ fun rules => weights.mp light rules.2.2
      · have rules : 2 ≤ choices.length ∧
            (∀ choice ∈ choices, choice.node.isSome = true) ∧
            ∀ choice ∈ choices, 0 < choice.weight :=
          ⟨Nat.not_lt.mp few, not_not.mp (mt nodes.mpr missing),
            not_not.mp (mt weights.mpr light)⟩
        exact iff_of_false (by simp) (not_not.mpr rules)
  | _ =>
      dsimp only
      split_ifs <;> simp_all

/-- The rules do not look at the identity of nodes. -/
theorem errorRules_map
    {Node' : Type} (environment : Environment) (become : Node → Node')
    (data : NodeData Node) :
    ErrorRules environment (data.map become) ↔ ErrorRules environment data := by
  cases data with
  | randomChoiceNode choices =>
      simp [NodeData.map, ErrorRules]
  | _ => rfl

/-! ## `ValidateBasicStructure` and `ValidateConnectivity` -/

/-- `ValidateBasicStructure`. -/
def validateBasicStructure
    (graph : ActionGraph Node) : List ValidationIssue :=
  if graph.allNodes.length = 0 then
    [⟨.error, "Graph", "Graph has no nodes", "Structure"⟩]
  else if (graph.allNodes.filter fun node =>
      (graph.node node).trigger.isSome).length = 0 then
    [⟨.warning, "Graph", "No trigger nodes found. Graph will not execute.",
      "Structure"⟩]
  else []

variable [DecidableEq Node]

/-- `CollectReachable`, with its calls nested so many levels deep. -/
def collectReachableWithin (graph : ActionGraph Node) :
    Nat → Node → Finset Node → Finset Node
  | 0, _, reachable => reachable
  | levels + 1, node, reachable =>
      if node ∈ reachable then reachable
      else (graph.actionNodes node).getAllNextNodes.foldl
        (fun reachable next =>
          collectReachableWithin graph levels next reachable)
        (insert node reachable)

variable [Fintype Node]

/-- `CollectReachable`. -/
def collectReachable
    (graph : ActionGraph Node) (node : Node) (reachable : Finset Node) :
    Finset Node :=
  collectReachableWithin graph (Fintype.card Node + 1) node reachable

omit [Fintype Node] in
/-- What has been collected stays. -/
theorem subset_collectReachableWithin
    (graph : ActionGraph Node) (levels : Nat) (node : Node)
    (reachable : Finset Node) :
    reachable ⊆ collectReachableWithin graph levels node reachable := by
  induction levels generalizing node reachable with
  | zero => exact Finset.Subset.refl _
  | succ levels inductionHypothesis =>
      rw [collectReachableWithin]
      split_ifs
      · exact Finset.Subset.refl _
      · have among (nextNodes : List Node) (collected : Finset Node) :
            collected ⊆ nextNodes.foldl (fun reachable next =>
              collectReachableWithin graph levels next reachable) collected := by
          induction nextNodes generalizing collected with
          | nil => exact Finset.Subset.refl _
          | cons next nextNodes later =>
              exact (inductionHypothesis next collected).trans (later _)
        exact (Finset.subset_insert node reachable).trans (among _ _)

/-- Each nested call has one node more in its set, so that more levels than there are
other nodes do not matter. -/
theorem collectReachableWithin_eq
    (graph : ActionGraph Node) {levels more : Nat} {node : Node}
    {reachable : Finset Node}
    (enough : Fintype.card Node < levels + reachable.card)
    (enoughMore : Fintype.card Node < more + reachable.card) :
    collectReachableWithin graph levels node reachable =
      collectReachableWithin graph more node reachable := by
  induction levels generalizing more node reachable with
  | zero => exact absurd (Finset.card_le_univ reachable) (by omega)
  | succ levels inductionHypothesis =>
      cases more with
      | zero => exact absurd (Finset.card_le_univ reachable) (by omega)
      | succ more =>
          rw [collectReachableWithin, collectReachableWithin]
          split_ifs with collected
          · rfl
          have among (nextNodes : List Node) (collected : Finset Node)
              (larger : reachable.card < collected.card) :
              nextNodes.foldl (fun reachable next =>
                collectReachableWithin graph levels next reachable) collected =
              nextNodes.foldl (fun reachable next =>
                collectReachableWithin graph more next reachable) collected := by
            induction nextNodes generalizing collected with
            | nil => rfl
            | cons next nextNodes later =>
                have grows := Finset.card_le_card
                  (subset_collectReachableWithin graph more next collected)
                have same : collectReachableWithin graph levels next collected =
                    collectReachableWithin graph more next collected :=
                  inductionHypothesis (by omega) (by omega)
                rw [List.foldl_cons, List.foldl_cons, same]
                exact later _ (by omega)
          exact among _ _ (by rw [Finset.card_insert_of_notMem collected]; omega)

/-- `CollectReachable` is the recursion of the source. -/
theorem collectReachable_eq
    (graph : ActionGraph Node) (node : Node) (reachable : Finset Node) :
    collectReachable graph node reachable =
      if node ∈ reachable then reachable
      else (graph.actionNodes node).getAllNextNodes.foldl
        (fun reachable next => collectReachable graph next reachable)
        (insert node reachable) := by
  have unfolded : collectReachable graph node reachable =
      collectReachableWithin graph (Fintype.card Node + 2) node reachable :=
    collectReachableWithin_eq graph (by omega) (by omega)
  rw [unfolded, collectReachableWithin]
  rfl

/-- `ValidateConnectivity`. -/
def validateConnectivity
    (graph : ActionGraph Node) (issues : List ValidationIssue) :
    List ValidationIssue :=
  let roots := graph.allNodes.filter fun node =>
    (graph.node node).trigger.isSome
  let reachable := roots.foldl
    (fun reachable root => collectReachable graph root reachable) ∅
  issues ++ (graph.allNodes.eraseDups.filter (· ∉ reachable)).map fun node =>
    ⟨.warning, (graph.node node).name, "Unreachable from any trigger",
      "Connectivity"⟩

/-- `GraphValidator.ValidateGraph`. -/
def validateGraph
    (environment : Environment) (graph : ActionGraph Node) :
    List ValidationIssue :=
  let issues := validateBasicStructure graph
  let issues := validateCycles graph.actionNodes graph.allNodes issues
  let issues := validateNodeConfigurations environment graph issues
  validateConnectivity graph issues

/-- `GraphValidationResult.IsValid`. -/
def isValid (issues : List ValidationIssue) : Bool :=
  issues.all fun issue => issue.severity ≠ .error

/-! ## Valid graphs -/

omit [DecidableEq Node] [Fintype Node] in
theorem isValid_iff (issues : List ValidationIssue) :
    isValid issues = true ↔ errorCount issues = 0 := by
  simp [isValid, errorCount]

omit [DecidableEq Node] [Fintype Node] in
theorem errorCount_append (first second : List ValidationIssue) :
    errorCount (first ++ second) = errorCount first + errorCount second :=
  List.countP_append

omit [DecidableEq Node] [Fintype Node] in
/-- `ValidateNodeConfigurations` adds no error if the nodes of the graph satisfy the
rules. -/
theorem errorCount_validateNodeConfigurations
    (environment : Environment) (graph : ActionGraph Node)
    (issues : List ValidationIssue) :
    errorCount (validateNodeConfigurations environment graph issues) =
        errorCount issues ↔
      ∀ node ∈ graph.allNodes, ErrorRules environment (graph.node node).data := by
  rw [validateNodeConfigurations, errorCount_append, Nat.add_eq_left,
    errorCount, List.countP_eq_zero]
  simp only [List.mem_filterMap, forall_exists_index, and_imp]
  constructor
  · intro none node among
    by_contra violated
    obtain ⟨issue, found, error⟩ :=
      (configurationIssue_error_iff environment _).mpr violated
    exact none issue node among found (by simpa using error)
  · intro rules issue node among found error
    refine (configurationIssue_error_iff environment _).mp
      ⟨issue, found, by simpa using error⟩ (rules node among)

/-- `ValidateConnectivity` adds warnings alone. -/
theorem errorCount_validateConnectivity
    (graph : ActionGraph Node) (issues : List ValidationIssue) :
    errorCount (validateConnectivity graph issues) = errorCount issues := by
  rw [validateConnectivity, errorCount_append, Nat.add_eq_left, errorCount,
    List.countP_eq_zero]
  intro issue among
  obtain ⟨node, -, rfl⟩ := List.mem_map.mp among
  simp

/-- What a valid graph satisfies. -/
theorem isValid_validateGraph_iff
    (environment : Environment) (graph : ActionGraph Node) :
    isValid (validateGraph environment graph) = true ↔
      graph.allNodes ≠ [] ∧
        errorCount (validateCycles graph.actionNodes graph.allNodes
          (validateBasicStructure graph)) = 0 ∧
        ∀ node ∈ graph.allNodes,
          ErrorRules environment (graph.node node).data := by
  have begun := errorCount_searchTriggers_le graph.actionNodes
    (graph.allNodes.filter fun node => (graph.actionNodes node).hasTrigger)
    { issues := validateBasicStructure graph }
  have configured := errorCount_validateNodeConfigurations environment graph
    (validateCycles graph.actionNodes graph.allNodes
      (validateBasicStructure graph))
  have adds : errorCount (validateCycles graph.actionNodes graph.allNodes
        (validateBasicStructure graph)) ≤
      errorCount (validateNodeConfigurations environment graph
        (validateCycles graph.actionNodes graph.allNodes
          (validateBasicStructure graph))) := by
    rw [validateNodeConfigurations, errorCount_append]
    exact Nat.le_add_right _ _
  have nonempty : errorCount (validateBasicStructure graph) = 0 ↔
      graph.allNodes ≠ [] := by
    rw [validateBasicStructure, Ne, ← List.length_eq_zero_iff]
    split_ifs with none rootless <;> simp [errorCount, none]
  rw [isValid_iff, validateGraph, errorCount_validateConnectivity, ← configured,
    ← nonempty]
  change errorCount (validateBasicStructure graph) ≤
    errorCount (validateCycles graph.actionNodes graph.allNodes
      (validateBasicStructure graph)) at begun
  omega

end Configurations

end GraphValidator
end MultiSocketRudp
