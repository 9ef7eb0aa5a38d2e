import MultiSocketRudp.BotTester.BuildActionGraph
import MultiSocketRudp.Lib.GraphSearch
import MultiSocketRudp.Lib.TransitionSystem

/-!
# The graph editor

`BotActionGraphWindow` holds the visuals of a graph, which are drawn and connected
with the mouse.  A connection begins at an output port and ends at the input port
of another node; one that would close a cycle is rejected.  A graph can be saved to
a file, in which nodes refer to each other by numbers, and be loaded again.  A
window that is opened while another one has applied its graph shows a copy of it.

Visuals are objects: they are numbered in the order in which they are created, and
a deleted one may still be the source of a connection that is being drawn.  The
library that writes a file model as text and reads it is a parameter, and so are
the names of types.
-/

namespace MultiSocketRudp
namespace GraphEditor

open GraphBuilders TransitionSystems

/-- `NodeCategory`. -/
inductive NodeCategory
  | action
  | condition
  | loop
  deriving DecidableEq, Repr

/-- The type of a port, which is its tag. -/
inductive PortType
  | default
  | true
  | false
  | continue
  | exit
  | choice (index : Nat)
  deriving DecidableEq, Repr

/-- `NodeConfiguration`. -/
structure NodeConfiguration where
  packetId : Option GraphValidator.PacketId
  stringValue : Option String
  intValue : Int
  properties : String → Option PropertyValue

/-- `new NodeConfiguration()`. -/
def NodeConfiguration.new : NodeConfiguration where
  packetId := none
  stringValue := none
  intValue := 0
  properties _ := none

/-- `NodeVisual`; a position that is not set is none. -/
structure NodeVisual (Coordinate : Type) where
  isRoot : Bool := false
  nodeType : Option NodeType := none
  category : NodeCategory := .action
  left : Option Coordinate := none
  top : Option Coordinate := none
  configuration : Option NodeConfiguration := none
  outputPort : Option PortType := none
  outputPortTrue : Option PortType := none
  outputPortFalse : Option PortType := none
  next : Option Nat := none
  trueChild : Option Nat := none
  falseChild : Option Nat := none
  nextPortType : Option PortType := none
  truePortType : Option PortType := none
  falsePortType : Option PortType := none
  /-- There is a port of each of these types. -/
  dynamicPortTypes : List PortType := []
  dynamicChildren : List (Option Nat) := []

variable {Coordinate : Type}

namespace NodeVisual

/-- The nodes that a node is connected to, as `CreatesCycle` pushes them. -/
def children (visual : NodeVisual Coordinate) : List Nat :=
  visual.next.toList ++ visual.trueChild.toList ++ visual.falseChild.toList ++
    visual.dynamicChildren.filterMap id

/-- `CreateDynamicPorts`. -/
def createDynamicPorts (visual : NodeVisual Coordinate) (count : Nat) :
    NodeVisual Coordinate :=
  { visual with
    dynamicPortTypes := (List.range count).map PortType.choice
    dynamicChildren := List.replicate count none }

/-- The other two ports of a node that is no action. -/
def createBranchPorts (visual : NodeVisual Coordinate) :
    NodeVisual Coordinate :=
  if visual.category = .condition then
    { visual with
      outputPortTrue := some .true
      outputPortFalse := some .false }
  else
    { visual with
      outputPortTrue := some .continue
      outputPortFalse := some .exit }

/-- `ConfigureNewNodePorts`. -/
def configureNewNodePorts (visual : NodeVisual Coordinate) :
    NodeVisual Coordinate :=
  if visual.nodeType = some .randomChoiceNode then
    createDynamicPorts
      { visual with
        configuration := visual.configuration.map fun configuration =>
          { configuration with intValue := 2 } } 2
  else if visual.category = .action then
    { visual with outputPort := some .default }
  else visual.createBranchPorts

/-- `Connect`. -/
def connect (visual : NodeVisual Coordinate) (target : Nat) :
    PortType → NodeVisual Coordinate
  | .true =>
      { visual with trueChild := some target, truePortType := some .true }
  | .continue =>
      { visual with trueChild := some target, truePortType := some .continue }
  | .false =>
      { visual with falseChild := some target, falsePortType := some .false }
  | .exit =>
      { visual with falseChild := some target, falsePortType := some .exit }
  | .choice index =>
      match visual.dynamicPortTypes.idxOf? (.choice index) with
      | some place =>
          { visual with
            dynamicChildren := visual.dynamicChildren.set place (some target) }
      | none => visual
  | .default =>
      { visual with next := some target, nextPortType := some .default }

/-- One round of `DisconnectIncoming`. -/
def disconnect (visual : NodeVisual Coordinate) (node : Nat) :
    NodeVisual Coordinate :=
  { visual with
    next := visual.next.filter (· ≠ node)
    trueChild := visual.trueChild.filter (· ≠ node)
    falseChild := visual.falseChild.filter (· ≠ node)
    dynamicChildren := visual.dynamicChildren.map (·.filter (· ≠ node)) }

/-- The types of the output ports. -/
def ports (visual : NodeVisual Coordinate) : List PortType :=
  visual.outputPort.toList ++ visual.outputPortTrue.toList ++
    visual.outputPortFalse.toList ++ visual.dynamicPortTypes

end NodeVisual

/-- The category that `AddNode_Click` gives to a node. -/
def addedCategory (nodeType : NodeType) : NodeCategory :=
  let contains (part : String) : Bool :=
    decide (part.toList <:+: nodeType.name.toList)
  if contains "Condition" then .condition
  else if contains "Loop" || contains "Repeat" ||
      nodeType = .waitForPacketNode || nodeType = .retryNode ||
      nodeType = .randomChoiceNode then .loop
  else .action

/-- The visual of `AddNode_Click`. -/
def addedNode (nodeType : NodeType) (left top : Coordinate) :
    NodeVisual Coordinate :=
  NodeVisual.configureNewNodePorts
    { nodeType := some nodeType
      category := addedCategory nodeType
      left := some left
      top := some top
      configuration := some .new }

/-- The visual of `CreateRootNode`. -/
def rootNode (left top : Coordinate) : NodeVisual Coordinate where
  isRoot := true
  category := .action
  left := some left
  top := some top
  outputPort := some .default

/-! ## Graphs -/

/-- The visuals of the window, and the objects that they are. -/
structure Graph (Coordinate : Type) where
  allNodes : List Nat
  visual : Nat → NodeVisual Coordinate

namespace Graph

/-- A change to one visual. -/
def modify
    (graph : Graph Coordinate) (node : Nat)
    (change : NodeVisual Coordinate → NodeVisual Coordinate) :
    Graph Coordinate :=
  { graph with
    visual := Function.update graph.visual node (change (graph.visual node)) }

/-- `AddNodeToCanvas` for a new object. -/
def addNodeToCanvas
    (graph : Graph Coordinate) (node : Nat)
    (visual : NodeVisual Coordinate) : Graph Coordinate where
  allNodes := graph.allNodes ++ [node]
  visual := Function.update graph.visual node visual

/-- `DeleteNode`. -/
def deleteNode (graph : Graph Coordinate) (node : Nat) : Graph Coordinate :=
  if (graph.visual node).isRoot then graph
  else
    { allNodes := graph.allNodes.erase node
      visual := fun other =>
        if other ∈ graph.allNodes then (graph.visual other).disconnect node
        else graph.visual other }

/-- The nodes that a node is connected to. -/
def children (graph : Graph Coordinate) (node : Nat) : List Nat :=
  (graph.visual node).children

/-- `CreatesCycle`, with a round for each node that can come to the stack. -/
def createsCycle (graph : Graph Coordinate) (source target : Nat) :
    Option Bool :=
  GraphSearch.search graph.children source
    (1 + GraphSearch.unseen graph.children graph.allNodes []) [target] []

end Graph

/-! ## Files -/

/-- `JsonElement`, the value of a property in a file. -/
inductive JsonElement
  | string (value : String)
  | number (value : Int)
  | fractional (integralPart : Option Int)
  | true
  | false
  | null
  | other
  deriving DecidableEq, Repr

/-- `JsonSerializer.SerializeToElement` of the value of a property. -/
def serializeToElement : PropertyValue → JsonElement
  | .int value | .long value => .number value
  | .fractional integralPart => .fractional integralPart
  | .bool true => .true
  | .bool false => .false
  | .string value => .string value
  | .other => .other

/-- `ConvertJsonElementToPropertyValue`; the raw text of an object or an array is
not looked at. -/
def convertJsonElementToPropertyValue : JsonElement → PropertyValue
  | .string value => .string value
  | .number value =>
      if -2 ^ 31 ≤ value ∧ value < 2 ^ 31 then .int value
      else if -2 ^ 63 ≤ value ∧ value < 2 ^ 63 then .long value
      else .fractional (some value)
  | .fractional integralPart => .fractional integralPart
  | .true => .bool true
  | .false => .bool false
  | .null => .string ""
  | .other => .other

/-- `NodeConfigurationFileModel`. -/
structure NodeConfigurationFileModel where
  packetId : Option GraphValidator.PacketId
  stringValue : Option String
  intValue : Int
  properties : String → Option JsonElement

/-- `NodeVisualFileModel`. -/
structure NodeVisualFileModel (Coordinate TypeName : Type) where
  id : Nat
  isRoot : Bool
  nodeTypeName : Option TypeName
  category : NodeCategory
  left : Coordinate
  top : Coordinate
  configuration : Option NodeConfigurationFileModel
  nextPortType : Option PortType
  truePortType : Option PortType
  falsePortType : Option PortType
  nextNodeId : Option Nat
  trueChildId : Option Nat
  falseChildId : Option Nat
  dynamicPortTypes : List PortType
  dynamicChildIds : List (Option Nat)

/-- `GraphFileModel`. -/
structure GraphFileModel (Coordinate TypeName : Type) where
  name : String
  nodes : List (NodeVisualFileModel Coordinate TypeName)

/-- What the editor uses of libraries: the names of types, the texts of file models
and the position zero. -/
structure Library (Coordinate TypeName Text : Type) where
  zero : Coordinate
  /-- `Type.AssemblyQualifiedName`. -/
  assemblyQualifiedName : NodeType → TypeName
  /-- `string.IsNullOrWhiteSpace`. -/
  isWhiteSpace : TypeName → Bool
  /-- `Type.GetType`, and `Assembly.GetType` of what stands before the comma. -/
  getType : TypeName → Option NodeType
  getSimpleType : TypeName → Option NodeType
  /-- `JsonSerializer.Serialize` and `JsonSerializer.Deserialize`. -/
  serialize : GraphFileModel Coordinate TypeName → Text
  deserialize : Text → Option (GraphFileModel Coordinate TypeName)
  isWhiteSpace_name : ∀ nodeType,
    isWhiteSpace (assemblyQualifiedName nodeType) = false
  getType_name : ∀ nodeType,
    getType (assemblyQualifiedName nodeType) = some nodeType
  deserialize_serialize : ∀ file, deserialize (serialize file) = some file

variable {TypeName Text : Type}

/-- `CreateConfigurationFileModel`. -/
def createConfigurationFileModel (configuration : NodeConfiguration) :
    NodeConfigurationFileModel where
  packetId := configuration.packetId
  stringValue := configuration.stringValue
  intValue := configuration.intValue
  properties key := (configuration.properties key).map serializeToElement

/-- `CloneConfiguration`. -/
def cloneConfiguration (original : NodeConfigurationFileModel) :
    NodeConfiguration where
  packetId := original.packetId
  stringValue := original.stringValue
  intValue := original.intValue
  properties key :=
    (original.properties key).map convertJsonElementToPropertyValue

/-- `nodeIds`: nodes are numbered from 1. -/
def Graph.nodeId (graph : Graph Coordinate) (node : Nat) : Option Nat :=
  (graph.allNodes.idxOf? node).map (· + 1)

/-- The entry of a node in the file. -/
def Graph.nodeFileModel
    (library : Library Coordinate TypeName Text) (graph : Graph Coordinate)
    (node : Nat) : NodeVisualFileModel Coordinate TypeName :=
  let visual := graph.visual node
  { id := (graph.nodeId node).getD 0
    isRoot := visual.isRoot
    nodeTypeName := visual.nodeType.map library.assemblyQualifiedName
    category := visual.category
    left := visual.left.getD library.zero
    top := visual.top.getD library.zero
    configuration := visual.configuration.map createConfigurationFileModel
    nextPortType := visual.nextPortType
    truePortType := visual.truePortType
    falsePortType := visual.falsePortType
    nextNodeId := visual.next.bind graph.nodeId
    trueChildId := visual.trueChild.bind graph.nodeId
    falseChildId := visual.falseChild.bind graph.nodeId
    dynamicPortTypes := visual.dynamicPortTypes
    dynamicChildIds := visual.dynamicChildren.map (·.bind graph.nodeId) }

/-- `CreateGraphFileModel`; every graph that is built has the same name. -/
def Graph.createGraphFileModel
    (library : Library Coordinate TypeName Text) (graph : Graph Coordinate) :
    GraphFileModel Coordinate TypeName where
  name := "Bot Action Graph"
  nodes := graph.allNodes.map (graph.nodeFileModel library)

/-- `ResolveNodeType`, which throws when there is no such type. -/
def resolveNodeType
    (library : Library Coordinate TypeName Text)
    (nodeTypeName : Option TypeName) (isRoot : Bool) :
    Option (Option NodeType) :=
  if isRoot then some none
  else
    match nodeTypeName with
    | none => none
    | some name =>
        if library.isWhiteSpace name then none
        else ((library.getType name).or (library.getSimpleType name)).map some

/-- `CreateNodeFromFileModel`. -/
def createNodeFromFileModel
    (library : Library Coordinate TypeName Text)
    (saved : NodeVisualFileModel Coordinate TypeName) :
    Option (NodeVisual Coordinate) :=
  (resolveNodeType library saved.nodeTypeName saved.isRoot).map fun nodeType =>
    let newNode : NodeVisual Coordinate :=
      { isRoot := saved.isRoot
        nodeType
        category := saved.category
        left := some saved.left
        top := some saved.top
        configuration := saved.configuration.map cloneConfiguration
        nextPortType := saved.nextPortType
        truePortType := saved.truePortType
        falsePortType := saved.falsePortType }
    if nodeType = some .randomChoiceNode then
      newNode.createDynamicPorts saved.dynamicPortTypes.length
    else if saved.isRoot = false ∧ saved.category = .action then
      { newNode with outputPort := some .default }
    else if saved.isRoot = false then newNode.createBranchPorts
    else { newNode with outputPort := some .default }

/-- `CloneNodeVisual` at the position of the original; the clone of a configuration
equals it. -/
def cloneNodeVisual (original : NodeVisual Coordinate) :
    NodeVisual Coordinate :=
  let newNode : NodeVisual Coordinate :=
    { isRoot := original.isRoot
      nodeType := original.nodeType
      category := original.category
      left := original.left
      top := original.top
      configuration := original.configuration
      nextPortType := original.nextPortType
      truePortType := original.truePortType
      falsePortType := original.falsePortType }
  if original.nodeType = some .randomChoiceNode then newNode
  else if original.category = .action then
    { newNode with outputPort := some .default }
  else newNode.createBranchPorts

/-! ## Restoring a graph -/

/-- What the loops of `RestoreGraphFromFile` and `RestoreSavedGraph` take from a
saved node: its key in `nodeMapping`, its copy, unless making it throws, and its
references, which are keys. -/
structure SavedNode (Coordinate : Type) where
  key : Nat
  newNode : Option (NodeVisual Coordinate)
  next : Option Nat
  trueChild : Option Nat
  falseChild : Option Nat
  dynamicChildren : List (Option Nat)

/-- A saved node of `RestoreGraphFromFile`. -/
def NodeVisualFileModel.savedNode
    (library : Library Coordinate TypeName Text)
    (saved : NodeVisualFileModel Coordinate TypeName) :
    SavedNode Coordinate where
  key := saved.id
  newNode := createNodeFromFileModel library saved
  next := saved.nextNodeId
  trueChild := saved.trueChildId
  falseChild := saved.falseChildId
  dynamicChildren := saved.dynamicChildIds

/-- A saved node of `RestoreSavedGraph`. -/
def Graph.savedNode (graph : Graph Coordinate) (node : Nat) :
    SavedNode Coordinate :=
  let saved := graph.visual node
  { key := node
    newNode := some
      (if saved.nodeType = some .randomChoiceNode ∧
          0 < saved.dynamicPortTypes.length then
        (cloneNodeVisual saved).createDynamicPorts saved.dynamicPortTypes.length
      else cloneNodeVisual saved)
    next := saved.next
    trueChild := saved.trueChild
    falseChild := saved.falseChild
    dynamicChildren := saved.dynamicChildren }

/-- `nodeMapping`: the new objects. -/
abbrev NodeMapping := Nat → Option Nat

/-- The first loop, with the number of the next object; it ends without a mapping
when the making of a node throws. -/
def restoreNodes :
    Graph Coordinate → Nat → NodeMapping → List (SavedNode Coordinate) →
      Graph Coordinate × Nat × Option NodeMapping
  | graph, nextNode, mapping, [] => (graph, nextNode, some mapping)
  | graph, nextNode, mapping, saved :: rest =>
      match saved.newNode with
      | none => (graph, nextNode, none)
      | some newNode =>
          restoreNodes (graph.addNodeToCanvas nextNode newNode) (nextNode + 1)
            (Function.update mapping saved.key (some nextNode)) rest

/-- The object that a key stands for, or what is there. -/
def restoreChild
    (mapping : NodeMapping) (key child : Option Nat) : Option Nat :=
  (key.bind mapping).or child

/-- The loop over dynamic children, as long as there are both. -/
def restoreDynamicChildren (mapping : NodeMapping) :
    List (Option Nat) → List (Option Nat) → List (Option Nat)
  | key :: keys, child :: children =>
      restoreChild mapping key child ::
        restoreDynamicChildren mapping keys children
  | _, children => children

/-- One round of the second loop. -/
def restoreConnections
    (mapping : NodeMapping) (saved : SavedNode Coordinate)
    (visual : NodeVisual Coordinate) : NodeVisual Coordinate :=
  { visual with
    next := restoreChild mapping saved.next visual.next
    trueChild := restoreChild mapping saved.trueChild visual.trueChild
    falseChild := restoreChild mapping saved.falseChild visual.falseChild
    dynamicChildren :=
      restoreDynamicChildren mapping saved.dynamicChildren
        visual.dynamicChildren }

/-- The second loop. -/
def restoreAllConnections
    (mapping : NodeMapping) :
    Graph Coordinate → List (SavedNode Coordinate) → Graph Coordinate
  | graph, [] => graph
  | graph, saved :: rest =>
      restoreAllConnections mapping
        (match mapping saved.key with
        | none => graph
        | some node => graph.modify node (restoreConnections mapping saved))
        rest

/-- Both loops: the graph and the number of the next object. -/
def restore
    (graph : Graph Coordinate) (nextNode : Nat)
    (saved : List (SavedNode Coordinate)) : Graph Coordinate × Nat :=
  match restoreNodes graph nextNode (fun _ => none) saved with
  | (graph, nextNode, none) => (graph, nextNode)
  | (graph, nextNode, some mapping) =>
      (restoreAllConnections mapping graph saved, nextNode)

/-- `RestoreGraphFromFile`. -/
def restoreGraphFromFile
    (library : Library Coordinate TypeName Text)
    (graph : Graph Coordinate) (nextNode : Nat)
    (graphFile : GraphFileModel Coordinate TypeName) :
    Graph Coordinate × Nat :=
  restore graph nextNode (graphFile.nodes.map (·.savedNode library))

/-- `RestoreSavedGraph` in a window that has just been opened. -/
def restoreSavedGraph
    (graph : Graph Coordinate) (nextNode : Nat) (savedVisuals : List Nat) :
    Graph Coordinate × Nat :=
  restore { graph with allNodes := [] } nextNode
    (savedVisuals.map graph.savedNode)

/-- `GraphFileStorage.Load`, which throws when there are no nodes. -/
def load
    (library : Library Coordinate TypeName Text) (text : Text) :
    Option (GraphFileModel Coordinate TypeName) :=
  (library.deserialize text).filter fun graphFile => !graphFile.nodes.isEmpty

/-! ## The editor -/

/-- The editor, and the files that it has saved. -/
structure Editor (Coordinate Text : Type) where
  graph : Graph Coordinate
  /-- The number of the next object. -/
  nextNode : Nat
  /-- `connectingFromNode` and `connectingPortType`. -/
  connecting : Option (Nat × PortType)
  files : List Text

/-- What can be done with the editor. -/
inductive Label (Coordinate Text : Type)
  | addNode (nodeType : NodeType) (left top : Coordinate)
  | startConnection (node : Nat) (portType : PortType)
  | tryFinishConnection (node : Nat)
  | deleteNode (node : Nat)
  | drag (node : Nat) (left top : Coordinate)
  /-- A configuration panel saves. -/
  | configure (node : Nat) (configuration : NodeConfiguration)
  /-- The configuration panel of a random choice saves. -/
  | configureChoices (node : Nat) (count : Nat)
  | saveGraph
  | loadGraph (text : Text)

/-- One operation. -/
def step
    (library : Library Coordinate TypeName Text) (editor : Editor Coordinate Text) :
    Label Coordinate Text → Option (Editor Coordinate Text)
  | .addNode nodeType left top =>
      some
        { editor with
          graph :=
            editor.graph.addNodeToCanvas editor.nextNode
              (addedNode nodeType left top)
          nextNode := editor.nextNode + 1 }
  | .startConnection node portType =>
      if node ∈ editor.graph.allNodes ∧
          portType ∈ (editor.graph.visual node).ports then
        some { editor with connecting := some (node, portType) }
      else none
  | .tryFinishConnection target =>
      match editor.connecting with
      | none => none
      | some (source, portType) =>
          some
            { editor with
              graph :=
                if target ∉ editor.graph.allNodes ∨ target = source then
                  editor.graph
                else if editor.graph.createsCycle source target = some false then
                  editor.graph.modify source (·.connect target portType)
                else editor.graph
              connecting := none }
  | .deleteNode node =>
      some { editor with graph := editor.graph.deleteNode node }
  | .drag node left top =>
      if node ∈ editor.graph.allNodes then
        some
          { editor with
            graph := editor.graph.modify node fun visual =>
              { visual with left := some left, top := some top } }
      else none
  | .configure node configuration =>
      if node ∈ editor.graph.allNodes ∧
          (editor.graph.visual node).isRoot = false ∧
          (editor.graph.visual node).nodeType ≠ some .randomChoiceNode then
        some
          { editor with
            graph := editor.graph.modify node fun visual =>
              { visual with configuration := some configuration } }
      else none
  | .configureChoices node count =>
      if node ∈ editor.graph.allNodes ∧
          (editor.graph.visual node).nodeType = some .randomChoiceNode ∧
          2 ≤ count ∧ count < 2 ^ 31 then
        some
          { editor with
            graph := editor.graph.modify node fun visual =>
              NodeVisual.createDynamicPorts
                { visual with
                  configuration :=
                    some
                      { visual.configuration.getD .new with
                        intValue := count } } count }
      else none
  | .saveGraph =>
      some
        { editor with
          files :=
            library.serialize (editor.graph.createGraphFileModel library) ::
              editor.files }
  | .loadGraph text =>
      match load library text with
      | none => some editor
      | some file =>
          -- `ClearCurrentGraph` comes first.
          let (graph, nextNode) :=
            restoreGraphFromFile library { editor.graph with allNodes := [] }
              editor.nextNode file
          some { editor with graph, nextNode }

/-- The window has been opened. -/
def initial (left top : Coordinate) : Editor Coordinate Text where
  graph := ⟨[0], fun _ => rootNode left top⟩
  nextNode := 1
  connecting := none
  files := []

/-- The runs of the editor. -/
def system
    (library : Library Coordinate TypeName Text) (left top : Coordinate) :
    TransitionSystem (Editor Coordinate Text) (Label Coordinate Text) where
  Initial editor := editor = initial left top
  step := step library

/-- A value that the panels put into a property. -/
def Plain : PropertyValue → Prop
  | .int value => -2 ^ 31 ≤ value ∧ value < 2 ^ 31
  | .bool _ | .string _ => True
  | .long _ | .fractional _ | .other => False

/-- Files are the editor's own, and properties come from the panels. -/
def Own
    (editor : Editor Coordinate Text) (label : Label Coordinate Text) : Prop :=
  match label with
  | .loadGraph text => text ∈ editor.files
  | .configure _ configuration =>
      ∀ key value, configuration.properties key = some value → Plain value
  | _ => True

end GraphEditor
end MultiSocketRudp
