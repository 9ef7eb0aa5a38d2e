import MultiSocketRudp.BotTester.EditedGraphs

/-!
# Copies of graphs

A sound graph that is saved and loaded again, and one that is shown in another
window, becomes the same graph of other objects.  Both ways first make the nodes
and then their connections, from a description of the graph in which nodes stand
for keys: the saving shows that what is saved is such a description, and the
restoring that a description gives a copy.
-/

namespace MultiSocketRudp
namespace GraphEditor

open GraphBuilders GraphSearch Relation

variable {Coordinate TypeName Text : Type}

/-! ## Copies -/

/-- One graph is another one of other objects. -/
structure IsCopy
    (rename : Nat → Nat) (graph other : Graph Coordinate) : Prop where
  injective : ∀ first ∈ graph.allNodes, ∀ second ∈ graph.allNodes,
    rename first = rename second → first = second
  allNodes : other.allNodes = graph.allNodes.map rename
  visual : ∀ node ∈ graph.allNodes,
    other.visual (rename node) = (graph.visual node).rename rename

namespace IsCopy

variable {rename : Nat → Nat} {graph other : Graph Coordinate}

/-- The objects of a copy are those of the original. -/
theorem exists_of_mem
    (copies : IsCopy rename graph other)
    {node : Nat} (member : node ∈ other.allNodes) :
    ∃ original ∈ graph.allNodes, rename original = node := by
  rw [copies.allNodes] at member
  exact List.mem_map.mp member

theorem children
    (copies : IsCopy rename graph other)
    {node : Nat} (member : node ∈ graph.allNodes) :
    other.children (rename node) = (graph.children node).map rename := by
  rw [Graph.children, copies.visual node member, NodeVisual.children_rename]
  rfl

/-- A connection of a copy is one of the original. -/
theorem exists_edge
    (copies : IsCopy rename graph other) (sound : graph.Sound)
    {first second : Nat} (inside : first ∈ graph.allNodes)
    (edge : other.Edge (rename first) second) :
    ∃ last ∈ graph.allNodes, rename last = second ∧ graph.Edge first last := by
  obtain ⟨-, isChild⟩ := edge
  rw [copies.children inside] at isChild
  obtain ⟨child, old, rfl⟩ := List.mem_map.mp isChild
  exact ⟨child, sound.closed first inside child old, rfl, inside, old⟩

/-- A path of a copy is followed in the original. -/
theorem exists_path
    (copies : IsCopy rename graph other) (sound : graph.Sound)
    {first second : Nat} (inside : first ∈ graph.allNodes)
    (path : TransGen other.Edge (rename first) second) :
    ∃ last ∈ graph.allNodes,
      rename last = second ∧ TransGen graph.Edge first last := by
  induction path with
  | single edge =>
      obtain ⟨last, inside', isLast, edge⟩ :=
        copies.exists_edge sound inside edge
      exact ⟨last, inside', isLast, .single edge⟩
  | tail _ edge inductionHypothesis =>
      obtain ⟨middle, insideMiddle, rfl, path⟩ := inductionHypothesis
      obtain ⟨last, inside', isLast, edge⟩ :=
        copies.exists_edge sound insideMiddle edge
      exact ⟨last, inside', isLast, path.tail edge⟩

/-- A copy of a sound graph is sound. -/
theorem sound (copies : IsCopy rename graph other) (sound : graph.Sound) :
    other.Sound where
  distinct := by
    rw [copies.allNodes]
    exact List.Nodup.map_on copies.injective sound.distinct
  root := by
    have isRoot {node : Nat} (member : node ∈ graph.allNodes) :
        (other.visual (rename node)).isRoot = (graph.visual node).isRoot := by
      rw [copies.visual node member]
      rfl
    obtain ⟨root, ⟨member, rootIsRoot⟩, unique⟩ := sound.root
    refine ⟨rename root, ⟨?_, ?_⟩, ?_⟩
    · rw [copies.allNodes]
      exact List.mem_map_of_mem member
    · rwa [isRoot member]
    · rintro node ⟨member', isRoot'⟩
      obtain ⟨original, inside, rfl⟩ := copies.exists_of_mem member'
      rw [isRoot inside] at isRoot'
      rw [unique original ⟨inside, isRoot'⟩]
  closed := by
    intro node member child isChild
    obtain ⟨original, inside, rfl⟩ := copies.exists_of_mem member
    rw [copies.children inside] at isChild
    obtain ⟨child, old, rfl⟩ := List.mem_map.mp isChild
    rw [copies.allNodes]
    exact List.mem_map_of_mem (sound.closed original inside child old)
  acyclic := by
    intro node cycle
    have member : node ∈ other.allNodes := by
      obtain ⟨_, edge, -⟩ := TransGen.head'_iff.mp cycle
      exact edge.1
    obtain ⟨first, inside, rfl⟩ := copies.exists_of_mem member
    obtain ⟨last, inside', same, path⟩ :=
      copies.exists_path sound inside cycle
    rw [copies.injective last inside' first inside same] at path
    exact sound.acyclic first path
  consistent := by
    intro node member
    obtain ⟨original, inside, rfl⟩ := copies.exists_of_mem member
    rw [copies.visual original inside]
    exact (sound.consistent original inside).rename rename

end IsCopy

/-! ## Restoring -/

section Restoring

variable {saved : List (SavedNode Coordinate)}

/-- What the first loop leaves: new objects with consecutive numbers, which are the
copies, and their keys in the mapping. -/
structure NodesRestored
    (graph : Graph Coordinate) (nextNode : Nat) (mapping : NodeMapping)
    (saved : List (SavedNode Coordinate))
    (later : Graph Coordinate) (laterMapping : NodeMapping) : Prop where
  allNodes : later.allNodes =
    graph.allNodes ++ List.range' nextNode saved.length
  newNode : ∀ place (inside : place < saved.length),
    (saved[place]).newNode = some (later.visual (nextNode + place))
  others : ∀ node < nextNode, later.visual node = graph.visual node
  mapped : ∀ place (inside : place < saved.length),
    laterMapping (saved[place]).key = some (nextNode + place)
  unmapped : ∀ key, (∀ node ∈ saved, node.key ≠ key) →
    laterMapping key = mapping key

/-- The first loop, when no making of a node throws. -/
theorem restoreNodes_spec
    (keys : saved.Pairwise fun first second => first.key ≠ second.key)
    (made : ∀ node ∈ saved, node.newNode.isSome = true)
    (graph : Graph Coordinate) (nextNode : Nat) (mapping : NodeMapping) :
    ∃ later laterMapping,
      restoreNodes graph nextNode mapping saved =
          (later, nextNode + saved.length, some laterMapping) ∧
        NodesRestored graph nextNode mapping saved later laterMapping := by
  induction saved generalizing graph nextNode mapping with
  | nil =>
      exact ⟨graph, mapping, rfl,
        { allNodes := by simp
          newNode := nofun
          others := fun _ _ => rfl
          mapped := nofun
          unmapped := fun _ _ => rfl }⟩
  | cons first rest inductionHypothesis =>
      obtain ⟨firstKey, keys⟩ := List.pairwise_cons.mp keys
      obtain ⟨newNode, isNew⟩ :=
        Option.isSome_iff_exists.mp (made first List.mem_cons_self)
      obtain ⟨later, laterMapping, restored, restores⟩ :=
        inductionHypothesis keys
          (fun node member => made node (List.mem_cons_of_mem _ member))
          (graph.addNodeToCanvas nextNode newNode) (nextNode + 1)
          (Function.update mapping first.key (some nextNode))
      refine ⟨later, laterMapping, ?_, ?_⟩
      · simp only [restoreNodes, isNew, restored, List.length_cons]
        congr 2
        omega
      · exact
          { allNodes := by
              rw [restores.allNodes, List.length_cons, List.range'_succ]
              simp [Graph.addNodeToCanvas]
            newNode := by
              intro place inside
              cases place with
              | zero =>
                  rw [Nat.add_zero, restores.others nextNode (Nat.lt_succ_self _)]
                  simpa [Graph.addNodeToCanvas] using isNew
              | succ place =>
                  have := restores.newNode place (Nat.lt_of_succ_lt_succ inside)
                  rwa [Nat.add_right_comm] at this
            others := by
              intro node old
              rw [restores.others node (Nat.lt_succ_of_lt old)]
              simp [Graph.addNodeToCanvas, Nat.ne_of_lt old]
            mapped := by
              intro place inside
              cases place with
              | zero =>
                  rw [List.getElem_cons_zero, restores.unmapped first.key
                    fun node member => (firstKey node member).symm]
                  simp
              | succ place =>
                  have := restores.mapped place (Nat.lt_of_succ_lt_succ inside)
                  rwa [Nat.add_right_comm] at this
            unmapped := by
              intro key different
              rw [restores.unmapped key fun node member =>
                different node (List.mem_cons_of_mem _ member)]
              exact Function.update_of_ne
                (different first List.mem_cons_self).symm _ _ }

/-- The second loop, when the nodes stand for consecutive objects. -/
theorem restoreAllConnections_spec
    {mapping : NodeMapping} {start : Nat}
    (mapped : ∀ place (inside : place < saved.length),
      mapping (saved[place]).key = some (start + place))
    (graph : Graph Coordinate) :
    (restoreAllConnections mapping graph saved).allNodes = graph.allNodes ∧
      (∀ place (inside : place < saved.length),
        (restoreAllConnections mapping graph saved).visual (start + place) =
          restoreConnections mapping (saved[place])
            (graph.visual (start + place))) ∧
      ∀ node < start,
        (restoreAllConnections mapping graph saved).visual node =
          graph.visual node := by
  induction saved generalizing graph start with
  | nil => exact ⟨rfl, nofun, fun _ _ => rfl⟩
  | cons first rest inductionHypothesis =>
      have isFirst : mapping first.key = some start :=
        mapped 0 (Nat.succ_pos _)
      have mappedRest (place : Nat) (inside : place < rest.length) :
          mapping (rest[place]).key = some (start + 1 + place) := by
        rw [Nat.add_right_comm]
        exact mapped (place + 1) (Nat.succ_lt_succ inside)
      obtain ⟨allNodes, connected, others⟩ :=
        inductionHypothesis mappedRest
          (graph.modify start (restoreConnections mapping first))
      simp only [restoreAllConnections, isFirst]
      refine ⟨allNodes, ?_, ?_⟩
      · intro place inside
        cases place with
        | zero =>
            rw [Nat.add_zero, others start (Nat.lt_succ_self _)]
            simp [Graph.modify]
        | succ place =>
            have := connected place (Nat.lt_of_succ_lt_succ inside)
            rw [Nat.add_right_comm] at this
            rw [← Nat.add_assoc, this]
            simp [Graph.modify, Nat.add_assoc]
      · intro node old
        rw [others node (Nat.lt_succ_of_lt old)]
        simp [Graph.modify, Nat.ne_of_lt old]

end Restoring

/-! ## Saved graphs -/

/-- A node as it is saved, with keys for the nodes that it is connected to. -/
def NodeVisual.describe
    (key : Nat → Nat) (node : Nat) (visual : NodeVisual Coordinate) :
    SavedNode Coordinate where
  key := key node
  newNode := some visual.cleared
  next := visual.next.map key
  trueChild := visual.trueChild.map key
  falseChild := visual.falseChild.map key
  dynamicChildren := visual.dynamicChildren.map (·.map key)

/-- A graph as it is saved. -/
def Graph.describe (graph : Graph Coordinate) (key : Nat → Nat) :
    List (SavedNode Coordinate) :=
  graph.allNodes.map fun node => (graph.visual node).describe key node

section Described

variable {mapping : NodeMapping} {key rename : Nat → Nat}

theorem restoreChild_map {child : Option Nat}
    (mapped : ∀ node, child = some node →
      mapping (key node) = some (rename node)) :
    restoreChild mapping (child.map key) none = child.map rename := by
  cases child with
  | none => rfl
  | some node => simp [restoreChild, mapped node rfl]

theorem restoreDynamicChildren_map {children : List (Option Nat)}
    (mapped : ∀ node, some node ∈ children →
      mapping (key node) = some (rename node)) :
    restoreDynamicChildren mapping (children.map (·.map key))
        (List.replicate children.length none) =
      children.map (·.map rename) := by
  induction children with
  | nil => rfl
  | cons child children inductionHypothesis =>
      have here : restoreChild mapping (child.map key) none = child.map rename :=
        restoreChild_map fun node is =>
          mapped node (is ▸ List.mem_cons_self)
      have after := inductionHypothesis fun node member =>
        mapped node (List.mem_cons_of_mem _ member)
      simp only [List.map_cons, List.length_cons, List.replicate_succ,
        restoreDynamicChildren, here, after]

/-- The connections of a described node are restored. -/
theorem restoreConnections_describe
    {visual : NodeVisual Coordinate}
    (mapped : ∀ child ∈ visual.children,
      mapping (key child) = some (rename child))
    (node : Nat) :
    restoreConnections mapping (visual.describe key node) visual.cleared =
      visual.rename rename := by
  simp only [NodeVisual.mem_children] at mapped
  have next : restoreChild mapping (visual.next.map key) none =
      visual.next.map rename :=
    restoreChild_map fun child is => mapped child (.inl is)
  have trueChild : restoreChild mapping (visual.trueChild.map key) none =
      visual.trueChild.map rename :=
    restoreChild_map fun child is => mapped child (.inr (.inl is))
  have falseChild : restoreChild mapping (visual.falseChild.map key) none =
      visual.falseChild.map rename :=
    restoreChild_map fun child is => mapped child (.inr (.inr (.inl is)))
  have dynamicChildren :
      restoreDynamicChildren mapping (visual.dynamicChildren.map (·.map key))
          (List.replicate visual.dynamicChildren.length none) =
        visual.dynamicChildren.map (·.map rename) :=
    restoreDynamicChildren_map fun child is =>
      mapped child (.inr (.inr (.inr is)))
  simp only [restoreConnections, NodeVisual.describe, NodeVisual.cleared, next,
    trueChild, falseChild, dynamicChildren, NodeVisual.rename]

/-- A graph that is restored from what describes a sound one is a copy of it. -/
theorem restore_describe
    {graph : Graph Coordinate} (sound : graph.Sound) (key : Nat → Nat)
    (distinct : ∀ first ∈ graph.allNodes, ∀ second ∈ graph.allNodes,
      key first = key second → first = second)
    (visual : Nat → NodeVisual Coordinate) (nextNode : Nat) :
    ∃ rename restored,
      restore ⟨[], visual⟩ nextNode (graph.describe key) =
          (restored, nextNode + graph.allNodes.length) ∧
        IsCopy rename graph restored ∧
        ∀ node ∈ graph.allNodes, nextNode ≤ rename node ∧
          rename node < nextNode + graph.allNodes.length := by
  have length : (graph.describe key).length = graph.allNodes.length :=
    List.length_map _
  have keys : (graph.describe key).Pairwise
      fun first second => first.key ≠ second.key := by
    refine List.pairwise_map.mpr (sound.distinct.imp_of_mem ?_)
    intro first second inside inside' different same
    exact different (distinct first inside second inside' same)
  obtain ⟨later, mapping, restored, restores⟩ :=
    restoreNodes_spec keys (by simp [Graph.describe, NodeVisual.describe])
      ⟨[], visual⟩ nextNode fun _ => none
  obtain ⟨allNodes, connected, -⟩ :=
    restoreAllConnections_spec restores.mapped later
  rw [length] at restored
  refine ⟨fun node => nextNode + graph.allNodes.idxOf node,
    restoreAllConnections mapping later (graph.describe key), ?_, ?_, ?_⟩
  · simp only [restore, restored]
  · have place {node : Nat} (inside : node ∈ graph.allNodes) :
        ∃ within : graph.allNodes.idxOf node < (graph.describe key).length,
          (graph.describe key)[graph.allNodes.idxOf node] =
            (graph.visual node).describe key node := by
      have within := List.idxOf_lt_length_of_mem inside
      refine ⟨length ▸ within, ?_⟩
      simp [Graph.describe]
    exact
      { injective := by
          intro first inside second inside' same
          exact (List.idxOf_inj inside).mp (Nat.add_left_cancel same)
        allNodes := by
          rw [allNodes, restores.allNodes, length]
          refine List.ext_getElem (by simp) fun index within _ => ?_
          simp [sound.distinct.idxOf_getElem]
        visual := by
          intro node inside
          obtain ⟨within, described⟩ := place inside
          have newNode := restores.newNode _ within
          rw [described] at newNode
          rw [connected _ within, described, ← Option.some.inj newNode]
          refine restoreConnections_describe (fun child isChild => ?_) node
          have inside' := sound.closed node inside child isChild
          obtain ⟨within', described'⟩ := place inside'
          have mapped := restores.mapped _ within'
          rwa [described'] at mapped }
  · intro node inside
    exact
      ⟨Nat.le_add_right _ _,
        Nat.add_lt_add_left (List.idxOf_lt_length_of_mem inside) nextNode⟩

end Described

/-- A plain value is written to a file and read again. -/
theorem convertJsonElement_serializeToElement
    {value : PropertyValue} (plain : Plain value) :
    convertJsonElementToPropertyValue (serializeToElement value) = value := by
  cases value with
  | int value => exact if_pos plain
  | bool value => cases value <;> rfl
  | string value => rfl
  | long value => exact plain.elim
  | fractional integralPart => exact plain.elim
  | other => exact plain.elim

theorem cloneConfiguration_create
    {configuration : NodeConfiguration}
    (plain : PlainConfiguration configuration) :
    cloneConfiguration (createConfigurationFileModel configuration) =
      configuration := by
  have properties (key : String) :
      ((configuration.properties key).map serializeToElement).map
          convertJsonElementToPropertyValue =
        configuration.properties key := by
    cases found : configuration.properties key with
    | none => rfl
    | some value =>
        exact congrArg some
          (convertJsonElement_serializeToElement (plain key value found))
  simp only [cloneConfiguration, createConfigurationFileModel, properties]

/-- A consistent node without its connections is given by the data that is saved. -/
theorem NodeVisual.Consistent.cleared_eq
    {visual : NodeVisual Coordinate} (consistent : visual.Consistent) :
    visual.cleared =
      { isRoot := visual.isRoot
        nodeType := visual.nodeType
        category := visual.category
        left := visual.left
        top := visual.top
        configuration := visual.configuration
        outputPort := (portsOf visual.nodeType visual.category).1
        outputPortTrue := (portsOf visual.nodeType visual.category).2.1
        outputPortFalse := (portsOf visual.nodeType visual.category).2.2
        nextPortType := visual.nextPortType
        truePortType := visual.truePortType
        falsePortType := visual.falsePortType
        dynamicPortTypes :=
          (List.range visual.dynamicChildren.length).map .choice
        dynamicChildren :=
          List.replicate visual.dynamicChildren.length none } := by
  simp only [NodeVisual.cleared, ← consistent.ported,
    consistent.choosing.portTypes_eq]

/-- A node is made with the ports that it had when it was saved. -/
theorem createNodeFromFileModel_nodeFileModel
    (library : Library Coordinate TypeName Text)
    {graph : Graph Coordinate} {node : Nat}
    (consistent : (graph.visual node).Consistent) :
    createNodeFromFileModel library (graph.nodeFileModel library node) =
      some (graph.visual node).cleared := by
  generalize isVisual : graph.visual node = visual at consistent
  obtain ⟨left, isLeft⟩ := Option.isSome_iff_exists.mp consistent.placed.1
  obtain ⟨top, isTop⟩ := Option.isSome_iff_exists.mp consistent.placed.2
  have configuration :
      (visual.configuration.map createConfigurationFileModel).map
          cloneConfiguration =
        visual.configuration := by
    cases found : visual.configuration with
    | none => rfl
    | some configuration =>
        exact congrArg some
          (cloneConfiguration_create (consistent.plain configuration found))
  have resolved : resolveNodeType library
      (visual.nodeType.map library.assemblyQualifiedName) visual.isRoot =
        some visual.nodeType := by
    cases isType : visual.nodeType with
    | none => simp [resolveNodeType, consistent.typed.1, isType]
    | some nodeType =>
        simp [resolveNodeType, consistent.typed.1, isType,
          library.isWhiteSpace_name, library.getType_name]
  have count : visual.dynamicPortTypes.length =
      visual.dynamicChildren.length := by
    rw [consistent.choosing.portTypes_eq]
    simp
  rw [consistent.cleared_eq]
  simp only [createNodeFromFileModel, Graph.nodeFileModel, isVisual, resolved,
    Option.map_some, configuration, isLeft, isTop, Option.getD_some, count,
    NodeVisual.createDynamicPorts, NodeVisual.createBranchPorts]
  by_cases random : visual.nodeType = some .randomChoiceNode
  · simp [random, portsOf]
  · obtain none : visual.dynamicChildren = [] :=
      consistent.choosing.randomChoice.resolve_left random
    cases isRoot : visual.isRoot with
    | true =>
        simp [random, none, portsOf, consistent.typed.2 isRoot]
    | false =>
        cases visual.category <;> simp [random, none, portsOf]

/-- A clone is made with the ports of the original. -/
theorem newNode_savedNode
    {graph : Graph Coordinate} {node : Nat}
    (consistent : (graph.visual node).Consistent) :
    (graph.savedNode node).newNode = some (graph.visual node).cleared := by
  generalize isVisual : graph.visual node = visual at consistent
  have count : visual.dynamicPortTypes.length =
      visual.dynamicChildren.length := by
    rw [consistent.choosing.portTypes_eq]
    simp
  rw [consistent.cleared_eq]
  simp only [Graph.savedNode, isVisual, cloneNodeVisual, count]
  by_cases random : visual.nodeType = some .randomChoiceNode
  · by_cases choices : 0 < visual.dynamicChildren.length
    · simp [random, choices, NodeVisual.createDynamicPorts, portsOf]
    · obtain none : visual.dynamicChildren = [] :=
        List.length_eq_zero_iff.mp (Nat.eq_zero_of_not_pos choices)
      simp [random, none, portsOf]
  · obtain none : visual.dynamicChildren = [] :=
      consistent.choosing.randomChoice.resolve_left random
    cases visual.category <;>
      simp [random, none, portsOf, NodeVisual.createBranchPorts]

section Saved

variable {graph : Graph Coordinate}

/-- Nodes are numbered in their order. -/
theorem nodeId_of_mem {node : Nat} (inside : node ∈ graph.allNodes) :
    graph.nodeId node = some (graph.allNodes.idxOf node + 1) := by
  have found : graph.allNodes.idxOf? node =
      some (graph.allNodes.idxOf node) := by
    generalize graph.allNodes = nodes at inside
    induction nodes with
    | nil => cases inside
    | cons first rest inductionHypothesis =>
        by_cases same : first = node
        · simp [List.idxOf?_cons, same]
        · have := inductionHypothesis
            ((List.mem_cons.mp inside).resolve_left (Ne.symm same))
          simp [List.idxOf?_cons, same, this]
  simp [Graph.nodeId, found]

/-- A file describes the graph that has been saved. -/
theorem map_savedNode_file
    (library : Library Coordinate TypeName Text) (sound : graph.Sound) :
    (graph.createGraphFileModel library).nodes.map (·.savedNode library) =
      graph.describe fun node => graph.allNodes.idxOf node + 1 := by
  rw [Graph.createGraphFileModel, List.map_map]
  refine List.map_congr_left fun node inside => ?_
  have reference (child : Option Nat)
      (isChild : ∀ node', child = some node' →
        node' ∈ (graph.visual node).children) :
      child.bind graph.nodeId =
        child.map fun node => graph.allNodes.idxOf node + 1 := by
    cases child with
    | none => rfl
    | some child =>
        exact nodeId_of_mem
          (sound.closed node inside child (isChild child rfl))
  simp only [NodeVisual.mem_children] at reference
  have next := reference _ fun child is => .inl is
  have trueChild := reference _ fun child is => .inr (.inl is)
  have falseChild := reference _ fun child is => .inr (.inr (.inl is))
  have dynamicChildren :
      (graph.visual node).dynamicChildren.map (·.bind graph.nodeId) =
        (graph.visual node).dynamicChildren.map
          (·.map fun node => graph.allNodes.idxOf node + 1) :=
    List.map_congr_left fun child member =>
      reference child fun node' is => .inr (.inr (.inr (is ▸ member)))
  simp only [Function.comp_apply, NodeVisualFileModel.savedNode,
    createNodeFromFileModel_nodeFileModel library (sound.consistent node inside)]
  simp only [Graph.nodeFileModel, NodeVisual.describe, nodeId_of_mem inside,
    Option.getD_some, next, trueChild, falseChild, dynamicChildren]

/-- The saved visuals describe their graph. -/
theorem map_savedNode_visuals (sound : graph.Sound) :
    graph.allNodes.map graph.savedNode = graph.describe id := by
  refine List.map_congr_left fun node inside => ?_
  have newNode := newNode_savedNode (sound.consistent node inside)
  simp only [Graph.savedNode] at newNode
  simp [Graph.savedNode, NodeVisual.describe, newNode]

/-- A file that a graph has been saved to is loaded as a copy of the graph. -/
theorem load_serialize
    (library : Library Coordinate TypeName Text) (sound : graph.Sound)
    (visual : Nat → NodeVisual Coordinate) (nextNode : Nat) :
    load library (library.serialize (graph.createGraphFileModel library)) =
        some (graph.createGraphFileModel library) ∧
      ∃ rename restored,
        restoreGraphFromFile library ⟨[], visual⟩ nextNode
            (graph.createGraphFileModel library) =
          (restored, nextNode + graph.allNodes.length) ∧
        IsCopy rename graph restored ∧
        ∀ node ∈ graph.allNodes, nextNode ≤ rename node ∧
          rename node < nextNode + graph.allNodes.length := by
  obtain ⟨root, ⟨inside, -⟩, -⟩ := sound.root
  constructor
  · have : graph.allNodes ≠ [] := List.ne_nil_of_mem inside
    simp [load, library.deserialize_serialize, Graph.createGraphFileModel, this]
  · rw [restoreGraphFromFile, map_savedNode_file library sound]
    refine restore_describe sound _ (fun first inside second _ same => ?_)
      visual nextNode
    exact (List.idxOf_inj inside).mp (Nat.succ.inj same)

end Saved

end GraphEditor
end MultiSocketRudp
