import MultiSocketRudp.BotTester.GraphEditor

/-!
# Graphs that have been edited

A sound graph has one root and no cycle, no connection leads to a deleted node, and
each node has the ports of its type and connections from these only.  Adding,
connecting and deleting nodes keeps a graph sound, and the search for a cycle gives
the right answer on it.
-/

namespace MultiSocketRudp
namespace GraphEditor

open GraphBuilders GraphSearch Relation TransitionSystems

variable {Coordinate TypeName Text : Type}

/-! ## Consistent nodes -/

/-- The ports of a node of a type and a category, other than those of choices. -/
def portsOf (nodeType : Option NodeType) (category : NodeCategory) :
    Option PortType × Option PortType × Option PortType :=
  if nodeType = some .randomChoiceNode then (none, none, none)
  else
    match category with
    | .action => (some .default, none, none)
    | .condition => (none, some .true, some .false)
    | .loop => (none, some .continue, some .exit)

/-- Every value that a configuration has is plain. -/
def PlainConfiguration (configuration : NodeConfiguration) : Prop :=
  ∀ key value, configuration.properties key = some value → Plain value

/-- Only a random choice has choices, and each of them has its port. -/
structure Choosing
    (nodeType : Option NodeType) (portTypes : List PortType)
    (children : List (Option Nat)) : Prop where
  portTypes_eq : portTypes = (List.range children.length).map .choice
  randomChoice : nodeType = some .randomChoiceNode ∨ children = []

namespace NodeVisual

/-- Whether a node has a port of a type, unless it is that of a choice. -/
def Offers (visual : NodeVisual Coordinate) : PortType → Prop
  | .default => visual.outputPort.isSome = true
  | .true | .continue => visual.outputPortTrue.isSome = true
  | .false | .exit => visual.outputPortFalse.isSome = true
  | .choice _ => True

/-- What holds for each node. -/
structure Consistent (visual : NodeVisual Coordinate) : Prop where
  placed : visual.left.isSome = true ∧ visual.top.isSome = true
  /-- Only the root has no type, and it is an action. -/
  typed : visual.isRoot = visual.nodeType.isNone ∧
    (visual.isRoot = true → visual.category = .action)
  categorized : ∀ nodeType, visual.nodeType = some nodeType →
    visual.category = addedCategory nodeType
  ported : (visual.outputPort, visual.outputPortTrue, visual.outputPortFalse) =
    portsOf visual.nodeType visual.category
  choosing :
    Choosing visual.nodeType visual.dynamicPortTypes visual.dynamicChildren
  /-- There are connections from ports only. -/
  wired : (visual.next.isSome = true → visual.outputPort.isSome = true) ∧
    (visual.trueChild.isSome = true → visual.outputPortTrue.isSome = true) ∧
    (visual.falseChild.isSome = true → visual.outputPortFalse.isSome = true)
  plain : ∀ configuration ∈ visual.configuration,
    PlainConfiguration configuration

/-- The node with its connections leading to other objects. -/
def rename (rename : Nat → Nat) (visual : NodeVisual Coordinate) :
    NodeVisual Coordinate :=
  { visual with
    next := visual.next.map rename
    trueChild := visual.trueChild.map rename
    falseChild := visual.falseChild.map rename
    dynamicChildren := visual.dynamicChildren.map (·.map rename) }

/-- The node without its connections. -/
def cleared (visual : NodeVisual Coordinate) : NodeVisual Coordinate :=
  { visual with
    next := none
    trueChild := none
    falseChild := none
    dynamicChildren := List.replicate visual.dynamicChildren.length none }

variable {visual : NodeVisual Coordinate}

theorem mem_children {child : Nat} :
    child ∈ visual.children ↔
      visual.next = some child ∨ visual.trueChild = some child ∨
        visual.falseChild = some child ∨
        some child ∈ visual.dynamicChildren := by
  simp [children]

theorem children_rename (rename : Nat → Nat) :
    (visual.rename rename).children = visual.children.map rename := by
  simp [children, NodeVisual.rename, List.filterMap_map, List.map_filterMap,
    Option.toList_map]

/-- What is left is connected to other nodes. -/
theorem mem_children_disconnect {node child : Nat} :
    child ∈ (visual.disconnect node).children ↔
      child ∈ visual.children ∧ child ≠ node := by
  simp only [mem_children, disconnect, Option.filter_eq_some_iff, List.mem_map,
    decide_eq_true_eq]
  constructor
  · rintro (⟨is, ne⟩ | ⟨is, ne⟩ | ⟨is, ne⟩ | ⟨other, member, is, ne⟩)
    · exact ⟨.inl is, ne⟩
    · exact ⟨.inr (.inl is), ne⟩
    · exact ⟨.inr (.inr (.inl is)), ne⟩
    · exact ⟨.inr (.inr (.inr (is ▸ member))), ne⟩
  · rintro ⟨is | is | is | member, ne⟩
    · exact .inl ⟨is, ne⟩
    · exact .inr (.inl ⟨is, ne⟩)
    · exact .inr (.inr (.inl ⟨is, ne⟩))
    · exact .inr (.inr (.inr ⟨_, member, rfl, ne⟩))

@[simp] theorem isRoot_disconnect (node : Nat) :
    (visual.disconnect node).isRoot = visual.isRoot := rfl

@[simp] theorem rename_id : visual.rename id = visual := by
  simp [rename]

/-- A port that a consistent node shows is one that it offers. -/
theorem Consistent.offers
    (consistent : visual.Consistent)
    {portType : PortType} (shown : portType ∈ visual.ports) :
    visual.Offers portType := by
  have choice (inChoices : portType ∈ visual.dynamicPortTypes) :
      visual.Offers portType := by
    rw [consistent.choosing.portTypes_eq] at inChoices
    obtain ⟨index, -, rfl⟩ := List.mem_map.mp inChoices
    exact trivial
  have ported := consistent.ported
  unfold portsOf at ported
  by_cases random : visual.nodeType = some .randomChoiceNode
  · rw [if_pos random] at ported
    simp only [Prod.mk.injEq] at ported
    exact choice (by simpa [ports, ported] using shown)
  · rw [if_neg random] at ported
    cases category : visual.category <;>
      simp only [category, Prod.mk.injEq] at ported <;>
      simp only [ports, ported, Option.toList_some, Option.toList_none,
        List.append_nil, List.nil_append, List.mem_append,
        List.mem_singleton] at shown
    case action =>
      rcases shown with rfl | inChoices
      · simp [Offers, ported]
      · exact choice inChoices
    all_goals
      rcases shown with (rfl | rfl) | inChoices
      · simp [Offers, ported]
      · simp [Offers, ported]
      · exact choice inChoices

/-- A connection from a port that a node offers keeps the node consistent. -/
theorem Consistent.connect
    (consistent : visual.Consistent) (target : Nat)
    {portType : PortType} (offers : visual.Offers portType) :
    (visual.connect target portType).Consistent := by
  obtain ⟨next, trueChild, falseChild⟩ := consistent.wired
  cases portType with
  | default =>
      exact
        { consistent with wired := ⟨fun _ => offers, trueChild, falseChild⟩ }
  | «true» =>
      exact { consistent with wired := ⟨next, fun _ => offers, falseChild⟩ }
  | «continue» =>
      exact { consistent with wired := ⟨next, fun _ => offers, falseChild⟩ }
  | «false» =>
      exact { consistent with wired := ⟨next, trueChild, fun _ => offers⟩ }
  | exit =>
      exact { consistent with wired := ⟨next, trueChild, fun _ => offers⟩ }
  | choice index =>
      simp only [NodeVisual.connect]
      split
      · exact
          { consistent with
            choosing :=
              { portTypes_eq := by
                  simpa using consistent.choosing.portTypes_eq
                randomChoice :=
                  consistent.choosing.randomChoice.imp_right fun none => by
                    simp [none] } }
      · exact consistent

/-- A deleted node is disconnected from a consistent one. -/
theorem Consistent.disconnect
    (consistent : visual.Consistent) (node : Nat) :
    (visual.disconnect node).Consistent := by
  obtain ⟨next, trueChild, falseChild⟩ := consistent.wired
  have kept {child : Option Nat}
      (some : (child.filter (· ≠ node)).isSome = true) :
      child.isSome = true := by
    cases child with
    | none => cases some
    | some child => rfl
  exact
    { consistent with
      choosing :=
        { portTypes_eq := by
            simpa [NodeVisual.disconnect] using consistent.choosing.portTypes_eq
          randomChoice :=
            consistent.choosing.randomChoice.imp_right fun none => by
              simp [NodeVisual.disconnect, none] }
      wired :=
        ⟨fun some => next (kept some), fun some => trueChild (kept some),
          fun some => falseChild (kept some)⟩ }

/-- Consistency does not depend on the objects. -/
theorem Consistent.rename
    (consistent : visual.Consistent) (rename : Nat → Nat) :
    (visual.rename rename).Consistent :=
  { consistent with
    choosing :=
      { portTypes_eq := by
          simpa [NodeVisual.rename] using consistent.choosing.portTypes_eq
        randomChoice :=
          consistent.choosing.randomChoice.imp_right fun none => by
            simp [NodeVisual.rename, none] }
    wired := by simpa [NodeVisual.rename] using consistent.wired }

end NodeVisual

/-- A node that has just been added. -/
theorem NodeVisual.Consistent.added
    (nodeType : NodeType) (left top : Coordinate) :
    (addedNode nodeType left top).Consistent := by
  have plain (configuration : NodeConfiguration)
      (properties : configuration.properties = NodeConfiguration.new.properties) :
      PlainConfiguration configuration := by
    intro key value found
    rw [properties] at found
    cases found
  unfold addedNode NodeVisual.configureNewNodePorts
  split
  · next isChoice =>
      exact
        { placed := ⟨rfl, rfl⟩
          typed := ⟨rfl, nofun⟩
          categorized := by
            rintro _ ⟨⟩
            rfl
          ported := by simp_all [portsOf, NodeVisual.createDynamicPorts]
          choosing := ⟨by simp [NodeVisual.createDynamicPorts], .inl isChoice⟩
          wired := ⟨nofun, nofun, nofun⟩
          plain := by
            rintro _ ⟨⟩
            exact plain _ rfl }
  · split
    · exact
        { placed := ⟨rfl, rfl⟩
          typed := ⟨rfl, nofun⟩
          categorized := by
            rintro _ ⟨⟩
            rfl
          ported := by simp_all [portsOf]
          choosing := ⟨rfl, .inr rfl⟩
          wired := ⟨nofun, nofun, nofun⟩
          plain := by
            rintro _ ⟨⟩
            exact plain _ rfl }
    · unfold NodeVisual.createBranchPorts
      split <;>
        exact
          { placed := ⟨rfl, rfl⟩
            typed := ⟨rfl, nofun⟩
            categorized := by
              rintro _ ⟨⟩
              rfl
            ported := by
              unfold portsOf
              cases category : addedCategory nodeType <;> simp_all
            choosing := ⟨rfl, .inr rfl⟩
            wired := ⟨nofun, nofun, nofun⟩
            plain := by
              rintro _ ⟨⟩
              exact plain _ rfl }

/-- The root that a window has when it is opened. -/
theorem NodeVisual.Consistent.root (left top : Coordinate) :
    (rootNode left top).Consistent where
  placed := ⟨rfl, rfl⟩
  typed := ⟨rfl, fun _ => rfl⟩
  categorized := nofun
  ported := rfl
  choosing := ⟨rfl, .inr rfl⟩
  wired := ⟨nofun, nofun, nofun⟩
  plain := nofun

/-! ## Sound graphs -/

namespace Graph

/-- A node is connected to another one. -/
def Edge (graph : Graph Coordinate) (first second : Nat) : Prop :=
  first ∈ graph.allNodes ∧ second ∈ graph.children first

/-- What holds for each graph. -/
structure Sound (graph : Graph Coordinate) : Prop where
  distinct : graph.allNodes.Nodup
  root : ∃! node, node ∈ graph.allNodes ∧ (graph.visual node).isRoot = true
  closed : ∀ node ∈ graph.allNodes, ∀ child ∈ graph.children node,
    child ∈ graph.allNodes
  acyclic : Acyclic graph.Edge
  consistent : ∀ node ∈ graph.allNodes, (graph.visual node).Consistent

variable {graph : Graph Coordinate}

/-- From a node of a closed graph, the search follows the connections. -/
theorem reachable_iff
    (closed : ∀ node ∈ graph.allNodes, ∀ child ∈ graph.children node,
      child ∈ graph.allNodes)
    {first second : Nat} (inside : first ∈ graph.allNodes) :
    ReflTransGen (GraphSearch.Edge graph.children) first second ↔
      ReflTransGen graph.Edge first second := by
  constructor
  · intro path
    have stays : second ∈ graph.allNodes ∧
        ReflTransGen graph.Edge first second := by
      induction path with
      | refl => exact ⟨inside, .refl⟩
      | tail _ edge inductionHypothesis =>
          obtain ⟨member, path⟩ := inductionHypothesis
          exact ⟨closed _ member _ edge, path.tail ⟨member, edge⟩⟩
    exact stays.2
  · exact ReflTransGen.mono (fun _ _ edge => edge.2) _ _

namespace Sound

/-- The search for a cycle ends with the right answer. -/
theorem createsCycle
    (sound : graph.Sound) (source : Nat) {target : Nat}
    (inside : target ∈ graph.allNodes) :
    ∃ found, graph.createsCycle source target = some found ∧
      (found = true ↔ ReflTransGen graph.Edge target source) := by
  have ends : ∃ found, graph.createsCycle source target = some found ∧
      (found = true ↔
        ReflTransGen (GraphSearch.Edge graph.children) target source) :=
    search_start_iff sound.closed inside
  obtain ⟨found, searched, isFound⟩ := ends
  exact ⟨found, searched, isFound.trans (reachable_iff sound.closed inside)⟩

/-- A change to a node that gives it at most one new child, from which it cannot be
reached. -/
theorem modify
    (sound : graph.Sound) {node : Nat} (target : Nat)
    {change : NodeVisual Coordinate → NodeVisual Coordinate}
    (isRoot : (change (graph.visual node)).isRoot =
      (graph.visual node).isRoot)
    (children : ∀ child ∈ (change (graph.visual node)).children,
      child ∈ graph.children node ∨
        child = target ∧ target ∈ graph.allNodes ∧
          ¬ ReflTransGen graph.Edge target node)
    (consistent : node ∈ graph.allNodes → (graph.visual node).Consistent →
      (change (graph.visual node)).Consistent) :
    (graph.modify node change).Sound := by
  have sameRoot (other : Nat) :
      ((graph.modify node change).visual other).isRoot =
        (graph.visual other).isRoot := by
    by_cases same : other = node
    · subst same
      simpa [Graph.modify] using isRoot
    · simp [Graph.modify, same]
  have childrenOf (other child : Nat)
      (isChild : child ∈ (graph.modify node change).children other) :
      child ∈ graph.children other ∨
        other = node ∧ child = target ∧ target ∈ graph.allNodes ∧
          ¬ ReflTransGen graph.Edge target node := by
    by_cases same : other = node
    · subst same
      have := children child (by simpa [Graph.children, Graph.modify] using isChild)
      exact this.imp_right fun new => ⟨rfl, new⟩
    · exact .inl (by simpa [Graph.children, Graph.modify, same] using isChild)
  exact
    { distinct := sound.distinct
      root := by
        simp only [sameRoot]
        exact sound.root
      closed := fun other member child isChild =>
        match childrenOf other child isChild with
        | .inl old => sound.closed other member child old
        | .inr ⟨_, isTarget, inside, _⟩ => isTarget ▸ inside
      acyclic := by
        by_cases reached : ReflTransGen graph.Edge target node
        · refine sound.acyclic.mono fun first second ⟨member, isChild⟩ => ?_
          rcases childrenOf first second isChild with old | ⟨-, -, -, unreached⟩
          · exact ⟨member, old⟩
          · exact absurd reached unreached
        · refine sound.acyclic.insert (fun first second ⟨member, isChild⟩ => ?_)
            reached
          rcases childrenOf first second isChild with old | ⟨first, second, -⟩
          · exact .inl ⟨member, old⟩
          · exact .inr ⟨first, second⟩
      consistent := by
        intro other member
        by_cases same : other = node
        · subst same
          simpa [Graph.modify] using
            consistent member (sound.consistent other member)
        · simpa [Graph.modify, same] using sound.consistent other member }

/-- A new node that is not connected. -/
theorem addNodeToCanvas
    (sound : graph.Sound) {node : Nat} (new : node ∉ graph.allNodes)
    {visual : NodeVisual Coordinate} (consistent : visual.Consistent)
    (isRoot : visual.isRoot = false) (children : visual.children = []) :
    (graph.addNodeToCanvas node visual).Sound := by
  have other {node' : Nat} (member : node' ∈ graph.allNodes) :
      (graph.addNodeToCanvas node visual).visual node' =
        graph.visual node' := by
    have : node' ≠ node := fun same => new (same ▸ member)
    simp [Graph.addNodeToCanvas, this]
  have self : (graph.addNodeToCanvas node visual).visual node = visual := by
    simp [Graph.addNodeToCanvas]
  have cases {node' : Nat}
      (member : node' ∈ (graph.addNodeToCanvas node visual).allNodes) :
      node' ∈ graph.allNodes ∨ node' = node := by
    simpa [Graph.addNodeToCanvas] using member
  have childrenOf {node' child : Nat}
      (member : node' ∈ (graph.addNodeToCanvas node visual).allNodes)
      (isChild : child ∈ (graph.addNodeToCanvas node visual).children node') :
      node' ∈ graph.allNodes ∧ child ∈ graph.children node' := by
    rcases cases member with old | rfl
    · exact ⟨old, by rwa [Graph.children, other old] at isChild⟩
    · rw [Graph.children, self, children] at isChild
      cases isChild
  exact
    { distinct := by
        refine List.nodup_append.mpr
          ⟨sound.distinct, List.nodup_singleton node, ?_⟩
        rintro node' member _ inserted rfl
        exact new (List.mem_singleton.mp inserted ▸ member)
      root := by
        obtain ⟨root, ⟨member, root'⟩, unique⟩ := sound.root
        refine ⟨root, ⟨?_, ?_⟩, fun node' ⟨member', isRoot'⟩ => ?_⟩
        · exact List.mem_append_left _ member
        · rwa [other member]
        · rcases cases member' with old | rfl
          · exact unique node' ⟨old, by rwa [other old] at isRoot'⟩
          · rw [self, isRoot] at isRoot'
            cases isRoot'
      closed := fun node' member child isChild =>
        have ⟨old, isChild⟩ := childrenOf member isChild
        List.mem_append_left _ (sound.closed node' old child isChild)
      acyclic := sound.acyclic.mono fun _ _ ⟨member, isChild⟩ =>
        childrenOf member isChild
      consistent := by
        intro node' member
        rcases cases member with old | rfl
        · rw [other old]
          exact sound.consistent node' old
        · rwa [self] }

/-- A node is deleted with the connections to it. -/
theorem deleteNode (sound : graph.Sound) (node : Nat) :
    (graph.deleteNode node).Sound := by
  unfold Graph.deleteNode
  split
  · exact sound
  next notRoot =>
  have kept {other : Nat} (member : other ∈ graph.allNodes.erase node) :
      other ≠ node ∧ other ∈ graph.allNodes :=
    sound.distinct.mem_erase_iff.mp member
  exact
    { distinct := sound.distinct.erase node
      root := by
        obtain ⟨root, ⟨member, isRoot⟩, unique⟩ := sound.root
        refine ⟨root, ⟨?_, ?_⟩, fun other ⟨member', isRoot'⟩ => ?_⟩
        · refine sound.distinct.mem_erase_iff.mpr ⟨?_, member⟩
          rintro rfl
          exact notRoot isRoot
        · simpa [member] using isRoot
        · obtain ⟨-, old⟩ := kept member'
          exact unique other ⟨old, by simpa [old] using isRoot'⟩
      closed := by
        intro other member child isChild
        obtain ⟨-, old⟩ := kept member
        simp only [Graph.children, if_pos old] at isChild
        obtain ⟨isChild, different⟩ :=
          NodeVisual.mem_children_disconnect.mp isChild
        exact sound.distinct.mem_erase_iff.mpr
          ⟨different, sound.closed other old child isChild⟩
      acyclic := by
        refine sound.acyclic.mono fun first second ⟨member, isChild⟩ => ?_
        obtain ⟨-, old⟩ := kept member
        simp only [Graph.children, if_pos old] at isChild
        exact ⟨old, (NodeVisual.mem_children_disconnect.mp isChild).1⟩
      consistent := by
        intro other member
        obtain ⟨-, old⟩ := kept member
        simpa [old] using (sound.consistent other old).disconnect node }

end Sound
end Graph

end GraphEditor
end MultiSocketRudp
