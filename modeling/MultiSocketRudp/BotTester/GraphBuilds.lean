import MultiSocketRudp.BotTester.BuiltConnections
import MultiSocketRudp.BotTester.CycleVerdict
import MultiSocketRudp.BotTester.EditorRuns

/-!
# Builds in the editor

A build makes new action nodes for the visuals, except for the root: its action node
is made with it and gets the connection of each build in addition to those of the
builds before.  So the action nodes of different builds are connected at roots.

No cycle is ever closed, since a drawing has one root and no cycle, and what is
drawn is built, except for the connection from the exit of a repeat timer.
-/

namespace MultiSocketRudp
namespace GraphEditor

open GraphBuilders GraphSearch GraphValidator Relation TransitionSystems

variable {Coordinate TypeName Text : Type}

/-- An action node: that of a root, or one that a build has made for a visual. -/
inductive ActionObject
  | root (visual : Nat)
  | made (build visual : Nat)
  deriving DecidableEq, Repr

/-- The action nodes that exist.  That of a root is a custom action with a trigger. -/
structure ActionNodes where
  node : ActionObject → ConfiguredNode ActionObject
  rootAction : ∀ visual, (node (.root visual)).data = .customActionNode
  rootTrigger : ∀ visual, (node (.root visual)).trigger.isSome = true

namespace ActionNodes

/-- Before the first build. -/
def initial : ActionNodes where
  node _ :=
    { name := "OnConnected"
      trigger := some .onConnected
      nextNodes := []
      data := .customActionNode }
  rootAction _ := rfl
  rootTrigger _ := rfl

end ActionNodes

/-- A visual, as `BuildActionGraph` reads it. -/
def NodeVisual.forBuild (visual : NodeVisual Coordinate) (node : Nat) :
    GraphBuilders.NodeVisual ActionObject Nat where
  root := if visual.isRoot then some (.root node) else none
  nodeType := visual.nodeType
  configuration := visual.configuration.map fun configuration =>
    { packetId := configuration.packetId
      intValue := configuration.intValue
      properties := configuration.properties }
  next := visual.next
  trueChild := visual.trueChild
  falseChild := visual.falseChild
  dynamicChildren := visual.dynamicChildren

theorem root_forBuild
    {visual : NodeVisual Coordinate} {node : Nat} {action : ActionObject} :
    (visual.forBuild node).root = some action ↔
      visual.isRoot = true ∧ action = .root node := by
  unfold NodeVisual.forBuild
  rw [Option.ite_none_right_eq_some, Option.some.injEq]
  exact and_congr_right fun _ => eq_comm

/-- The window, as `BuildActionGraph` reads it. -/
def Graph.window
    (graph : Graph Coordinate) (nodup : graph.allNodes.Nodup)
    (actions : ActionNodes) : Window ActionObject Nat where
  allNodes := graph.allNodes
  visual node := (graph.visual node).forBuild node
  existing := actions.node
  nodup := nodup
  rootAction node _ action isAction := by
    obtain ⟨-, rfl⟩ := root_forBuild.mp isAction
    exact actions.rootAction node
  rootTrigger node _ action isAction := by
    obtain ⟨-, rfl⟩ := root_forBuild.mp isAction
    exact actions.rootTrigger node

/-- No two visuals have the same root action. -/
theorem Graph.roots_window
    {graph : Graph Coordinate} {nodup : graph.allNodes.Nodup}
    {actions : ActionNodes} (first second : Nat) (action : ActionObject)
    (isFirst : ((graph.window nodup actions).visual first).root = some action)
    (isSecond : ((graph.window nodup actions).visual second).root =
      some action) :
    first = second := by
  obtain ⟨-, rfl⟩ := root_forBuild.mp isFirst
  exact ActionObject.root.inj (root_forBuild.mp isSecond).2

/-- The object that a node of a built graph is. -/
def builtObject (build : Nat) : BuiltNode ActionObject Nat → ActionObject :=
  Sum.elim id (.made build)

/-- The node of a built graph that an object is. -/
def builtNode (build : Nat) : ActionObject → BuiltNode ActionObject Nat
  | .root visual => .inl (.root visual)
  | .made build' visual =>
      if build' = build then .inr visual else .inl (.made build' visual)

/-- The action nodes after a build. -/
def ActionNodes.afterBuild
    {environment : BuildEnvironment} {window : Window ActionObject Nat}
    {graph : ActionGraph (BuiltNode ActionObject Nat)}
    (actions : ActionNodes) (isExisting : window.existing = actions.node)
    (roots : ∀ first second node, (window.visual first).root = some node →
      (window.visual second).root = some node → first = second)
    (built : buildActionGraph environment window = .ok graph) (build : Nat) :
    ActionNodes where
  node object := (graph.node (builtNode build object)).map (builtObject build)
  rootAction visual := by
    have existing := (buildActionGraph_built built).existing (.root visual)
    rw [isExisting, actions.rootAction] at existing
    change ((graph.node (.inl (.root visual))).data).map _ = _
    rw [existing]
    rfl
  rootTrigger visual := by
    have trigger := trigger_built roots built (.root visual)
    rw [isExisting] at trigger
    change (graph.node (.inl (.root visual))).trigger.isSome = true
    rw [trigger]
    exact actions.rootTrigger visual

/-! ## The editor with its action nodes -/

/-- The editor, the action nodes that exist and the number of builds. -/
structure Workbench (Coordinate Text : Type) where
  editor : Editor Coordinate Text
  actions : ActionNodes
  builds : Nat
  /-- The nodes of `BuiltGraph`. -/
  builtGraph : Option (List ActionObject)

/-- An edit, or a click on the button that builds. -/
inductive WorkLabel (Coordinate Text : Type)
  | edit (label : Label Coordinate Text)
  | buildGraph

/-- Whether a graph is loaded, which takes `BuiltGraph` away. -/
def loads
    (library : Library Coordinate TypeName Text) :
    Label Coordinate Text → Bool
  | .loadGraph text => (load library text).isSome
  | _ => false

/-- What the button that builds leaves.  A build that throws changes nothing that is
read later. -/
def Workbench.buildGraph
    {environment : BuildEnvironment} (bench : Workbench Coordinate Text)
    {nodup : bench.editor.graph.allNodes.Nodup} :
    (result : Except (Option NodeType × BuildError)
      (ActionGraph (BuiltNode ActionObject Nat))) →
    (built : buildActionGraph environment
      (bench.editor.graph.window nodup bench.actions) = result) →
      Workbench Coordinate Text
  | .error _, _ => bench
  | .ok graph, built =>
      { bench with
        actions :=
          bench.actions.afterBuild rfl Graph.roots_window built bench.builds
        builds := bench.builds + 1
        builtGraph := some (graph.allNodes.map (builtObject bench.builds)) }

/-- One operation. -/
def workStep
    (library : Library Coordinate TypeName Text)
    (environment : BuildEnvironment) (bench : Workbench Coordinate Text) :
    WorkLabel Coordinate Text → Option (Workbench Coordinate Text)
  | .edit label =>
      (step library bench.editor label).map fun editor =>
        { bench with
          editor
          builtGraph := if loads library label then none else bench.builtGraph }
  | .buildGraph =>
      if nodup : bench.editor.graph.allNodes.Nodup then
        some
          (bench.buildGraph
            (buildActionGraph environment
              (bench.editor.graph.window nodup bench.actions)) rfl)
      else none

/-- The runs of the editor with builds. -/
def workbench
    (library : Library Coordinate TypeName Text)
    (environment : BuildEnvironment) (left top : Coordinate) :
    TransitionSystem (Workbench Coordinate Text) (WorkLabel Coordinate Text)
    where
  Initial bench := bench = ⟨initial left top, .initial, 0, none⟩
  step := workStep library environment

/-- Edits are the editor's own. -/
def OwnWork
    (bench : Workbench Coordinate Text) :
    WorkLabel Coordinate Text → Prop
  | .edit label => Own bench.editor label
  | .buildGraph => True

/-! ## What is built -/

/-- The action node of a visual in a build. -/
def Graph.actionObject
    (graph : Graph Coordinate) (build node : Nat) : ActionObject :=
  if (graph.visual node).isRoot then .root node else .made build node

/-- The connections of a visual that are built. -/
def NodeVisual.builtChildren (visual : NodeVisual Coordinate) : List Nat :=
  GraphBuilders.builtChildren (visual.forBuild 0)
    (match visual.nodeType with
    | some nodeType => kindOf Nat nodeType
    | none => .action)

/-- A connection between two nodes of a build is drawn. -/
def Graph.Drawn
    (graph : Graph Coordinate) (build : Nat) (first second : ActionObject) :
    Prop :=
  ∃ node ∈ graph.allNodes, ∃ child ∈ (graph.visual node).builtChildren,
    graph.actionObject build node = first ∧
      graph.actionObject build child = second

/-- An action node leads to another one. -/
def ActionNodes.Edge (actions : ActionNodes) (first second : ActionObject) :
    Prop :=
  GraphValidator.Edge (fun object => (actions.node object).actionNode) first
    second

@[simp] theorem builtObject_builtNode (build : Nat) (object : ActionObject) :
    builtObject build (builtNode build object) = object := by
  cases object with
  | root visual => rfl
  | made build' visual =>
      by_cases same : build' = build
      · subst same
        simp [builtNode, builtObject]
      · simp [builtNode, builtObject, same]

/-- The action nodes that are not of a build are nodes that exist. -/
theorem builtNode_eq_inl
    {build : Nat} {object existing : ActionObject} :
    builtNode build object = .inl existing ↔
      existing = object ∧ ∀ visual, object ≠ .made build visual := by
  cases object with
  | root visual => simp [builtNode, eq_comm]
  | made build' visual =>
      by_cases same : build' = build
      · simp [builtNode, same]
      · simp only [builtNode, if_neg same, Sum.inl.injEq]
        constructor
        · rintro rfl
          exact ⟨rfl, fun visual isMade => same (ActionObject.made.inj isMade).1⟩
        · rintro ⟨rfl, -⟩
          rfl

section Build

variable {graph : Graph Coordinate} {actions : ActionNodes}

/-- The mapping of a build. -/
theorem mapping_window
    (sound : graph.Sound) {node : Nat} (inside : node ∈ graph.allNodes)
    (build : Nat) :
    (graph.window sound.distinct actions).mapping node =
      some (builtNode build (graph.actionObject build node)) := by
  have typed := (sound.consistent node inside).typed.1
  have inWindow : node ∈ (graph.window sound.distinct actions).allNodes :=
    inside
  rw [Window.mapping, if_pos inWindow]
  cases isRoot : (graph.visual node).isRoot with
  | true =>
      simp [Window.target, Graph.window, NodeVisual.forBuild, isRoot,
        Graph.actionObject, builtNode]
  | false =>
      have isTyped : (graph.visual node).nodeType.isSome = true := by
        rw [isRoot] at typed
        exact Option.isSome_iff_ne_none.mpr fun none => by simp [none] at typed
      simp [Window.target, Graph.window, NodeVisual.forBuild, isRoot, isTyped,
        Graph.actionObject, builtNode]

/-- What is built is drawn. -/
theorem mem_children_of_built
    {visual : NodeVisual Coordinate} {child : Nat}
    (isBuilt : child ∈ visual.builtChildren) : child ∈ visual.children := by
  rw [NodeVisual.mem_children]
  unfold NodeVisual.builtChildren GraphBuilders.builtChildren at isBuilt
  simp only [NodeVisual.forBuild, List.mem_append, Option.mem_toList] at isBuilt
  rcases isBuilt with next | branch
  · exact .inl next
  · split at branch
    · cases branch
    all_goals
      simp only [List.mem_append, Option.mem_toList, List.mem_filterMap, id,
        exists_eq_right] at branch
      tauto

/-- A build reads the connections of a node by its type. -/
theorem builtChildren_window
    (sound : graph.Sound) {node : Nat} (inside : node ∈ graph.allNodes) :
    (graph.window sound.distinct actions).builtChildren node =
      (graph.visual node).builtChildren := by
  have typed := (sound.consistent node inside).typed.1
  unfold Window.builtChildren NodeVisual.builtChildren
  cases isRoot : (graph.visual node).isRoot with
  | true =>
      have none : (graph.visual node).nodeType = none :=
        Option.isNone_iff_eq_none.mp (typed ▸ isRoot)
      simp [Graph.window, NodeVisual.forBuild, isRoot, none,
        GraphBuilders.builtChildren]
  | false =>
      cases isType : (graph.visual node).nodeType with
      | none =>
          rw [isRoot, isType] at typed
          cases typed
      | some nodeType =>
          simp only [Graph.window, NodeVisual.forBuild, isRoot, isType]
          exact builtChildren_kindOf _ nodeType _ _

/-- The edges after a build: those from before, and one for each connection that is
built. -/
theorem edge_afterBuild_iff
    (sound : graph.Sound) {build : Nat}
    (fresh : ∀ visual next, ¬ actions.Edge (.made build visual) next)
    {environment : BuildEnvironment}
    {result : ActionGraph (BuiltNode ActionObject Nat)}
    (built : buildActionGraph environment
      (graph.window sound.distinct actions) = .ok result)
    (first second : ActionObject) :
    (actions.afterBuild rfl Graph.roots_window built build).Edge first second ↔
      actions.Edge first second ∨ graph.Drawn build first second := by
  have edges (target : BuiltNode ActionObject Nat) :=
    edge_built_iff Graph.roots_window built (builtNode build first) target
  have step : (actions.afterBuild rfl Graph.roots_window built build).Edge first
        second ↔
      ∃ target, GraphValidator.Edge result.actionNodes (builtNode build first)
          target ∧
        builtObject build target = second := by
    unfold ActionNodes.Edge ActionNodes.afterBuild GraphValidator.Edge
    rw [ConfiguredNode.getAllNextNodes_map, List.mem_map]
    rfl
  rw [step]
  simp only [edges, builtNode_eq_inl]
  constructor
  · rintro ⟨target, old | new, rfl⟩
    · obtain ⟨_, ⟨rfl, -⟩, old, isOld, rfl⟩ := old
      exact .inl isOld
    · obtain ⟨visual, mapped, child, isChild, isTarget⟩ := new
      have inside : visual ∈ graph.allNodes := mem_of_mapping mapped
      rw [mapping_window sound inside build, Option.some.injEq] at mapped
      rw [builtChildren_window sound inside] at isChild
      have insideChild :=
        sound.closed visual inside child (mem_children_of_built isChild)
      rw [mapping_window sound insideChild build, Option.some.injEq] at isTarget
      refine .inr ⟨visual, inside, child, isChild, ?_, ?_⟩
      · simpa using congrArg (builtObject build) mapped
      · simpa using congrArg (builtObject build) isTarget
  · rintro (old | ⟨node, inside, child, isChild, rfl, rfl⟩)
    · refine ⟨.inl second, .inl ⟨first, ⟨rfl, ?_⟩, second, old, rfl⟩, rfl⟩
      rintro visual rfl
      exact fresh visual second old
    · have insideChild :=
        sound.closed node inside child (mem_children_of_built isChild)
      refine ⟨builtNode build (graph.actionObject build child),
        .inr ⟨node, mapping_window sound inside build, child, ?_,
          mapping_window sound insideChild build⟩,
        builtObject_builtNode build _⟩
      rwa [builtChildren_window sound inside]

/-- The classes of nodes that have two ports. -/
def branchingTypes : List NodeType :=
  [.conditionalNode, .loopNode, .repeatTimerNode, .waitForPacketNode, .retryNode]

theorem branching_or_ports (nodeType : NodeType) :
    nodeType ∈ branchingTypes ∨ (∃ name, nodeType = .other name) ∨
      (portsOf (some nodeType) (addedCategory nodeType)).2 = (none, none) := by
  cases nodeType with
  | other name => exact .inr (.inl ⟨name, rfl⟩)
  | _ => first | exact .inl (by decide) | exact .inr (.inr (by decide))

/-- A node with two ports is of one of these classes. -/
theorem branching_of_port
    {visual : NodeVisual Coordinate} (consistent : visual.Consistent)
    (isSome : visual.outputPortTrue.isSome = true ∨
      visual.outputPortFalse.isSome = true) :
    ∃ nodeType, visual.nodeType = some nodeType ∧
      (nodeType ∈ branchingTypes ∨ ∃ name, nodeType = .other name) := by
  have noPorts (nothing : (portsOf visual.nodeType visual.category).2 =
      (none, none)) : False := by
    rw [← consistent.ported, Prod.mk.injEq] at nothing
    rw [nothing.1, nothing.2] at isSome
    rcases isSome with isSome | isSome <;> cases isSome
  cases isType : visual.nodeType with
  | none =>
      have isRoot : visual.isRoot = true := by
        rw [consistent.typed.1, isType]
        rfl
      rw [isType, consistent.typed.2 isRoot] at noPorts
      exact (noPorts rfl).elim
  | some nodeType =>
      refine ⟨nodeType, rfl, ?_⟩
      rcases branching_or_ports nodeType with branching | other | nothing
      · exact .inl branching
      · exact .inr other
      · rw [isType, consistent.categorized nodeType isType] at noPorts
        exact (noPorts nothing).elim

/-- Of the nodes of a class that there is, only a repeat timer has a branch that is
not built. -/
theorem built_or_dropped
    {visual : NodeVisual Coordinate} (consistent : visual.Consistent)
    {child : Nat} (isChild : child ∈ visual.children) :
    child ∈ visual.builtChildren ∨
      (visual.nodeType = some .repeatTimerNode ∧
        visual.falseChild = some child) ∨
      ∃ name, visual.nodeType = some (.other name) := by
  obtain ⟨-, trueWired, falseWired⟩ := consistent.wired
  rw [NodeVisual.mem_children] at isChild
  rcases isChild with next | isTrue | isFalse | isChoice
  · exact .inl (by simp [NodeVisual.builtChildren, GraphBuilders.builtChildren,
      NodeVisual.forBuild, next])
  · obtain ⟨nodeType, isType, branching | ⟨name, rfl⟩⟩ :=
      branching_of_port consistent (.inl (trueWired (by rw [isTrue]; rfl)))
    · refine .inl ?_
      simp only [branchingTypes, List.mem_cons, List.not_mem_nil,
        or_false] at branching
      rcases branching with rfl | rfl | rfl | rfl | rfl <;>
        simp [NodeVisual.builtChildren, GraphBuilders.builtChildren,
          NodeVisual.forBuild, isType, kindOf, isTrue]
    · exact .inr (.inr ⟨name, isType⟩)
  · obtain ⟨nodeType, isType, branching | ⟨name, rfl⟩⟩ :=
      branching_of_port consistent (.inr (falseWired (by rw [isFalse]; rfl)))
    · simp only [branchingTypes, List.mem_cons, List.not_mem_nil,
        or_false] at branching
      rcases branching with rfl | rfl | rfl | rfl | rfl
      case inr.inr.inl => exact .inr (.inl ⟨isType, isFalse⟩)
      all_goals
        exact .inl (by simp [NodeVisual.builtChildren,
          GraphBuilders.builtChildren, NodeVisual.forBuild, isType, kindOf,
          isFalse])
    · exact .inr (.inr ⟨name, isType⟩)
  · rcases consistent.choosing.randomChoice with isType | none
    · exact .inl (by simp [NodeVisual.builtChildren,
        GraphBuilders.builtChildren, NodeVisual.forBuild, isType, kindOf,
        isChoice])
    · rw [none] at isChoice
      cases isChoice

end Build

/-! ## No cycle -/

section Pieces

variable {graph : Graph Coordinate} {build : Nat} {first second : ActionObject}

/-- The visual that an action node is of. -/
def ActionObject.visual : ActionObject → Nat
  | .root visual | .made _ visual => visual

theorem visual_actionObject (node : Nat) :
    (graph.actionObject build node).visual = node := by
  unfold Graph.actionObject
  split <;> rfl

/-- A node of a build that is no root is of this build alone. -/
theorem build_of_actionObject {node build' visual : Nat}
    (same : graph.actionObject build node = .made build' visual) :
    build' = build := by
  unfold Graph.actionObject at same
  split at same
  · cases same
  · exact (ActionObject.made.inj same).1.symm

theorem isRoot_of_actionObject {node visual : Nat}
    (same : graph.actionObject build node = .root visual) :
    (graph.visual node).isRoot = true ∧ node = visual := by
  unfold Graph.actionObject at same
  split at same
  · next isRoot => exact ⟨isRoot, ActionObject.root.inj same⟩
  · cases same

/-- What is built of a sound graph has no cycle. -/
theorem acyclic_drawn (sound : graph.Sound) : Acyclic (graph.Drawn build) := by
  refine sound.acyclic.of_map ActionObject.visual ?_
  rintro _ _ ⟨node, inside, child, isChild, rfl, rfl⟩
  rw [visual_actionObject, visual_actionObject]
  exact ⟨inside, mem_children_of_built isChild⟩

/-- The action nodes of all builds have no cycle. -/
theorem acyclic_of_drawn
    {actions : ActionNodes} {picture : Nat → Graph Coordinate}
    (sound : ∀ build, (picture build).Sound)
    (drawn : ∀ first second, actions.Edge first second →
      ∃ build, (picture build).Drawn build first second) :
    Acyclic actions.Edge := by
  have own {build other : Nat} {first second third : ActionObject}
      (into : (picture build).Drawn build first second)
      (out : (picture other).Drawn other second third)
      (unshared : ¬ ∃ visual, second = .root visual) : build = other := by
    obtain ⟨_, -, child, -, -, isChild⟩ := into
    obtain ⟨node, -, _, -, isNode, -⟩ := out
    cases second with
    | root visual => exact absurd ⟨visual, rfl⟩ unshared
    | made build' visual =>
        exact (build_of_actionObject isChild).symm.trans
          (build_of_actionObject isNode)
  have single {build : Nat} {first second third last : ActionObject}
      (out : (picture build).Drawn build first second)
      (into : (picture build).Drawn build third last)
      (isFirst : ∃ visual, first = .root visual)
      (isLast : ∃ visual, last = .root visual) : first = last := by
    obtain ⟨node, inside, -, -, isNode, -⟩ := out
    obtain ⟨parent, insideParent, child, isChild, -, isObject⟩ := into
    obtain ⟨_, rfl⟩ := isFirst
    obtain ⟨_, rfl⟩ := isLast
    obtain ⟨isRoot, rfl⟩ := isRoot_of_actionObject isNode
    obtain ⟨isRoot', rfl⟩ := isRoot_of_actionObject isObject
    have inside' := (sound build).closed parent insideParent child
      (mem_children_of_built isChild)
    obtain ⟨root, -, unique⟩ := (sound build).root
    rw [unique node ⟨inside, isRoot⟩, unique child ⟨inside', isRoot'⟩]
  exact Acyclic.glue (fun build => acyclic_drawn (sound build)) drawn own single

end Pieces

/-- A path in a graph goes forward only. -/
theorem reaches_of_simplePath
    {Node : Type} {listing : Listing Node} {last : Node} {path : List Node}
    (simple : listing.SimplePath (last :: path)) {node : Node}
    (among : node ∈ last :: path) :
    ReflTransGen (GraphValidator.Edge listing.graph) node last := by
  induction path generalizing last with
  | nil =>
      rw [List.mem_singleton.mp among]
  | cons previous path inductionHypothesis =>
      cases simple with
      | step before edge new =>
          rcases List.mem_cons.mp among with rfl | earlier
          · exact .refl
          · exact (inductionHypothesis before earlier).tail edge

/-- A shallow graph without cycles is given no error. -/
theorem not_addsError_of_acyclic
    {Node : Type} [DecidableEq Node] {listing : Listing Node}
    (acyclic : Acyclic (GraphValidator.Edge listing.graph))
    (shallow : listing.Shallow) (issues : List ValidationIssue) :
    ¬ listing.AddsError issues := by
  intro error
  obtain ⟨node, path, next, simple, edge, back, -⟩ :=
    Listing.closesElsewhere_of_addsError shallow error
  exact acyclic next (.trans_right (reaches_of_simplePath simple back)
    (.single edge))

/-! ## The invariant -/

/-- What holds of the editor and its action nodes in every run. -/
structure Workbench.Sound
    (library : Library Coordinate TypeName Text)
    (bench : Workbench Coordinate Text) : Prop where
  editor : bench.editor.Sound library
  fresh : ∀ build visual next, bench.builds ≤ build →
    ¬ bench.actions.Edge (.made build visual) next
  /-- Each edge was drawn when it was built. -/
  drawn : ∃ picture : Nat → Graph Coordinate,
    (∀ build, (picture build).Sound) ∧
      ∀ first second, bench.actions.Edge first second →
        ∃ build < bench.builds, (picture build).Drawn build first second
  builtGraph : ∀ nodes, bench.builtGraph = some nodes →
    ∃ root, ∀ node, node ∈ nodes ↔ node = .root root

namespace Workbench.Sound

variable {library : Library Coordinate TypeName Text}
variable {environment : BuildEnvironment}
variable {bench next : Workbench Coordinate Text}

/-- The window has been opened. -/
theorem opened (left top : Coordinate) :
    (⟨initial left top, .initial, 0, none⟩ : Workbench Coordinate Text).Sound
      library := by
  have editor : (initial left top : Editor Coordinate Text).Sound library :=
    .opened left top
  exact
    { editor
      fresh _ _ _ _ edge := nomatch edge
      drawn :=
        ⟨fun _ => (initial left top : Editor Coordinate Text).graph,
          fun _ => editor.graph,
          fun _ _ edge => nomatch edge⟩
      builtGraph := nofun }

/-- The graph is built. -/
theorem build
    (sound : bench.Sound library)
    {result : ActionGraph (BuiltNode ActionObject Nat)}
    (built : buildActionGraph environment
      (bench.editor.graph.window sound.editor.graph.distinct bench.actions) =
        .ok result) :
    (bench.buildGraph (.ok result) built).Sound library := by
  have fresh (visual : Nat) (next : ActionObject) :=
    sound.fresh bench.builds visual next (Nat.le_refl _)
  have edges := edge_afterBuild_iff sound.editor.graph fresh built
  obtain ⟨picture, pictures, drawn⟩ := sound.drawn
  exact
    { editor := sound.editor
      fresh := by
        intro build visual next later edge
        rcases (edges _ _).mp edge with old | ⟨node, -, -, -, isNode, -⟩
        · exact sound.fresh build visual next (Nat.le_of_succ_le later) old
        · exact absurd (build_of_actionObject isNode) (Nat.ne_of_gt later)
      drawn := by
        refine ⟨Function.update picture bench.builds bench.editor.graph,
          fun build => ?_, fun first second edge => ?_⟩
        · by_cases same : build = bench.builds
          · rw [same, Function.update_self]
            exact sound.editor.graph
          · rw [Function.update_of_ne same]
            exact pictures build
        · rcases (edges _ _).mp edge with old | new
          · obtain ⟨build, earlier, isDrawn⟩ := drawn first second old
            refine ⟨build, Nat.lt_succ_of_lt earlier, ?_⟩
            rwa [Function.update_of_ne (Nat.ne_of_lt earlier)]
          · refine ⟨bench.builds, Nat.lt_succ_self _, ?_⟩
            rwa [Function.update_self]
      builtGraph := by
        rintro _ ⟨⟩
        have registered := (buildActionGraph_built built).allNodes
        obtain ⟨root, ⟨inside, isRoot⟩, unique⟩ := sound.editor.graph.root
        refine ⟨root, fun node => ?_⟩
        rw [List.mem_map]
        constructor
        · rintro ⟨target, isListed, rfl⟩
          obtain ⟨_, rfl, visual, inside', isAction⟩ :=
            (registered target).mp isListed
          obtain ⟨isRoot', rfl⟩ := root_forBuild.mp isAction
          rw [← unique visual ⟨inside', isRoot'⟩]
          rfl
        · rintro rfl
          exact
            ⟨.inl (.root root),
              (registered _).mpr
                ⟨_, rfl, root, inside, root_forBuild.mpr ⟨isRoot, rfl⟩⟩,
              rfl⟩ }

/-- A build throws, or the graph is built. -/
theorem buildGraph
    (sound : bench.Sound library)
    {outcome : Except (Option NodeType × BuildError)
      (ActionGraph (BuiltNode ActionObject Nat))}
    (result : buildActionGraph environment
      (bench.editor.graph.window sound.editor.graph.distinct bench.actions) =
        outcome) :
    (bench.buildGraph outcome result).Sound library := by
  cases outcome with
  | error error => exact sound
  | ok graph => exact sound.build result

/-- Each operation keeps the invariant. -/
theorem step
    {label : WorkLabel Coordinate Text}
    (sound : bench.Sound library) (own : OwnWork bench label)
    (moves : workStep library environment bench label = some next) :
    next.Sound library := by
  cases label with
  | edit label =>
      obtain ⟨editor, edits, rfl⟩ := Option.map_eq_some_iff.mp moves
      exact
        { editor := sound.editor.step own edits
          fresh := sound.fresh
          drawn := sound.drawn
          builtGraph := by
            intro nodes isBuilt
            split at isBuilt
            · cases isBuilt
            · exact sound.builtGraph nodes isBuilt }
  | buildGraph =>
      rw [workStep, dif_pos sound.editor.graph.distinct] at moves
      obtain rfl := Option.some.inj moves
      exact sound.buildGraph rfl

end Workbench.Sound

/-- What has been drawn is what is built. -/
structure Workbench.Faithful
    (library : Library Coordinate TypeName Text)
    (environment : BuildEnvironment) (bench : Workbench Coordinate Text) :
    Prop where
  /-- The action nodes of all the builds make no cycle. -/
  acyclic : Acyclic bench.actions.Edge
  /-- The validator finds no cycle either, unless it gives up at its depth. -/
  validated : ∀ nodes issues,
    Listing.Shallow ⟨fun object => (bench.actions.node object).actionNode, nodes⟩ →
      ¬ Listing.AddsError
        ⟨fun object => (bench.actions.node object).actionNode, nodes⟩ issues
  /-- A built graph starts at one root. -/
  started : ∀ nodes, bench.builtGraph = some nodes →
    ∃ root, ∀ node, node ∈ nodes ↔ node = .root root
  /-- A build that does not throw adds the edges that are drawn. -/
  translated : ∀ nodup result,
    buildActionGraph environment
        (bench.editor.graph.window nodup bench.actions) = .ok result →
      ∃ next, workStep library environment bench .buildGraph = some next ∧
        ∀ first second, next.actions.Edge first second ↔
          bench.actions.Edge first second ∨
            bench.editor.graph.Drawn bench.builds first second
  /-- These are all the connections but that from the exit of a repeat timer. -/
  complete : ∀ node ∈ bench.editor.graph.allNodes,
    ∀ child ∈ bench.editor.graph.children node,
      child ∈ (bench.editor.graph.visual node).builtChildren ∨
        ((bench.editor.graph.visual node).nodeType = some .repeatTimerNode ∧
          (bench.editor.graph.visual node).falseChild = some child) ∨
        ∃ name, (bench.editor.graph.visual node).nodeType = some (.other name)

/-- In every run of edits of the editor's own and of builds, the builds are
faithful. -/
theorem faithful_builds
    (library : Library Coordinate TypeName Text)
    (environment : BuildEnvironment) (left top : Coordinate)
    {bench : Workbench Coordinate Text}
    (reached :
      (workbench library environment left top).GuardedReachable OwnWork bench) :
    bench.Faithful library environment := by
  have sound : bench.Sound library := by
    induction reached with
    | initial isInitial =>
        subst isInitial
        exact .opened left top
    | step _ own moves inductionHypothesis =>
        exact inductionHypothesis.step own moves
  obtain ⟨picture, pictures, drawn⟩ := sound.drawn
  have acyclic : Acyclic bench.actions.Edge :=
    acyclic_of_drawn pictures fun first second edge =>
      have ⟨build, _, isDrawn⟩ := drawn first second edge
      ⟨build, isDrawn⟩
  exact
    { acyclic
      validated := by
        intro nodes issues shallow
        refine not_addsError_of_acyclic ?_ shallow issues
        exact acyclic
      started := sound.builtGraph
      translated := by
        intro nodup result built
        refine ⟨bench.buildGraph (.ok result) built, ?_, ?_⟩
        · rw [workStep, dif_pos nodup]
          congr 2
        · exact edge_afterBuild_iff sound.editor.graph
            (fun visual next =>
              sound.fresh bench.builds visual next (Nat.le_refl _)) built
      complete := fun node inside _ isChild =>
        built_or_dropped (sound.editor.graph.consistent node inside) isChild }

/-! ## A graph that is built twice -/

/-- A log is built, deleted and replaced by another one, which is built too. -/
def twoBuilds : List (WorkLabel Nat (GraphFileModel Nat NodeType)) :=
  [.edit (.addNode .logNode 400 300), .edit (.startConnection 0 .default),
    .edit (.tryFinishConnection 1), .buildGraph, .edit (.deleteNode 1),
    .edit (.addNode .logNode 420 320), .edit (.startConnection 0 .default),
    .edit (.tryFinishConnection 2), .buildGraph]

/-- Whether an operation draws or builds. -/
def drawsOrBuilds : WorkLabel Nat (GraphFileModel Nat NodeType) → Bool
  | .edit label => draws label
  | .buildGraph => true

/-- The editor after both builds. -/
def builtTwice : Option (Workbench Nat (GraphFileModel Nat NodeType)) :=
  (workbench plainLibrary plainEnvironment 50 200).guardedRun
    (fun _ label => drawsOrBuilds label = true) ⟨initial 50 200, .initial, 0, none⟩
    twoBuilds

theorem faithful_builds_builtTwice :
    builtTwice.map (fun bench =>
        (bench.builtGraph, (bench.actions.node (.root 0)).nextNodes)) =
      some (some [.root 0], [.made 0 1, .made 1 2]) ∧
    ∀ bench ∈ builtTwice, bench.Faithful plainLibrary plainEnvironment := by
  refine ⟨by decide, fun bench isBuilt => ?_⟩
  refine faithful_builds plainLibrary plainEnvironment 50 200
    (TransitionSystem.GuardedReachable.guardedRun_of_imp
      (fun state label harmless => ?_) (.initial rfl) isBuilt)
  cases label with
  | edit label => cases label <;> trivial
  | buildGraph => trivial

end GraphEditor
end MultiSocketRudp
