import MultiSocketRudp.BotTester.ValidationCoverage

/-!
# The connections of a built graph

What `BuildActionGraph` makes of the connections of a window, when no two visuals
have the same node: a node that exists keeps its edges, and each node of a visual
gets an edge for each child that its class has a place for.
-/

namespace MultiSocketRudp
namespace GraphBuilders

open GraphValidator

/-- The children of a visual that `ConnectNext` and `ConnectBranches` read for a node
of a kind. -/
def builtChildren {Existing Visual Node : Type}
    (visual : NodeVisual Existing Visual) (kind : NodeKind Node) : List Visual :=
  visual.next.toList ++
    match kind with
    | .action => []
    | .conditionalNode _ _ | .loopNode _ _ | .waitForPacketNode _
    | .assertNode _ | .retryNode _ _ _ =>
        visual.trueChild.toList ++ visual.falseChild.toList
    | .repeatTimerNode _ => visual.trueChild.toList
    | .randomChoiceNode _ => visual.dynamicChildren.filterMap id

/-- The kind of node that the builder of a type makes, without nodes that it leads
to. -/
def kindOf (Node : Type) : NodeType → NodeKind Node
  | .waitForPacketNode => .waitForPacketNode []
  | .conditionalNode => .conditionalNode [] []
  | .loopNode => .loopNode [] []
  | .repeatTimerNode => .repeatTimerNode []
  | .randomChoiceNode => .randomChoiceNode []
  | .assertNode => .assertNode []
  | .retryNode => .retryNode [] [] []
  | _ => .action

section Connect

variable {Existing Visual Node : Type} {mapping : Visual → Option Node}

/-- A choice is added for each child that has a node. -/
theorem mem_connectChoices
    (index : Nat) (children : List (Option Visual)) (next : Node) :
    some next ∈ (connectChoices mapping index children).map ChoiceOption.node ↔
      ∃ child, some child ∈ children ∧ mapping child = some next := by
  induction children generalizing index with
  | nil => simp [connectChoices]
  | cons child children inductionHypothesis =>
      rw [connectChoices]
      cases found : child.bind mapping with
      | none =>
          rw [inductionHypothesis]
          constructor
          · rintro ⟨other, among, mapped⟩
            exact ⟨other, List.mem_cons_of_mem _ among, mapped⟩
          · rintro ⟨other, among, mapped⟩
            rcases List.mem_cons.mp among with rfl | among
            · rw [Option.bind_some, mapped] at found
              cases found
            · exact ⟨other, among, mapped⟩
      | some node =>
          obtain ⟨here, rfl, isNode⟩ := Option.bind_eq_some_iff.mp found
          rw [List.map_cons, List.mem_cons, inductionHypothesis]
          constructor
          · rintro (same | ⟨other, among, mapped⟩)
            · obtain rfl := Option.some.inj same
              exact ⟨here, List.mem_cons_self, isNode⟩
            · exact ⟨other, List.mem_cons_of_mem _ among, mapped⟩
          · rintro ⟨other, among, mapped⟩
            rcases List.mem_cons.mp among with same | among
            · obtain rfl := Option.some.inj same
              exact .inl (mapped.symm.trans isNode)
            · exact .inr ⟨other, among, mapped⟩

/-- A visual gives its node the edges to the nodes of the children that are read. -/
theorem mem_connect
    (visual : NodeVisual Existing Visual) (node : ConfiguredNode Node)
    (next : Node) :
    next ∈ (connect mapping visual node).actionNode.getAllNextNodes ↔
      next ∈ node.actionNode.getAllNextNodes ∨
        ∃ child ∈ builtChildren visual node.data.kind,
          mapping child = some next := by
  have child (found : Option Visual) :
      next ∈ (found.bind mapping).toList ↔
        ∃ child, found = some child ∧ mapping child = some next := by
    rw [Option.mem_toList]
    exact Option.bind_eq_some_iff
  unfold connect connectBranches connectNext
  simp only [ConfiguredNode.actionNode, ActionNode.getAllNextNodes]
  cases stands : node.data with
  | randomChoiceNode choices =>
      simp only [NodeData.kind, builtChildren, List.mem_append, child,
        List.map_append, List.filterMap_append, Option.mem_toList,
        List.mem_filterMap, id, exists_eq_right, mem_connectChoices,
        or_and_right, exists_or]
      exact iff_of_eq (by ac_rfl)
  | _ =>
      simp only [NodeData.kind, builtChildren, List.mem_append, child,
        Option.mem_toList, List.not_mem_nil, or_and_right, exists_or,
        or_false] <;>
        exact iff_of_eq (by ac_rfl)

end Connect

/-- A builder makes the kind of node of its type, and leaves its branches to the
connections. -/
theorem kind_buildData
    {Existing Visual Node : Type} {environment : BuildEnvironment}
    {visual : NodeVisual Existing Visual} {nodeType : NodeType}
    {data : NodeData Node}
    (built : buildData Node environment visual nodeType = .ok data) :
    data.kind = kindOf Node nodeType := by
  cases nodeType with
  | waitForPacketNode | conditionalNode | packetParserNode =>
      rw [buildData] at built
      split at built
      all_goals cases built
      all_goals rfl
  | sendPacketNode =>
      rw [buildData] at built
      split at built
      next => cases built
      next =>
        obtain ⟨-, -, built⟩ := exists_ok_of_bind built
        obtain rfl := Except.ok.inj built
        rfl
  | loopNode | repeatTimerNode =>
      obtain ⟨_, -, built⟩ := exists_ok_of_bind built
      obtain rfl := Except.ok.inj built
      rfl
  | randomDelayNode | retryNode =>
      obtain ⟨_, -, built⟩ := exists_ok_of_bind built
      obtain ⟨_, -, built⟩ := exists_ok_of_bind built
      obtain rfl := Except.ok.inj built
      rfl
  | _ =>
      obtain rfl := Except.ok.inj built
      rfl

/-! ## The loops -/

section Loops

variable {Existing Visual : Type} [DecidableEq Visual]
variable {environment : BuildEnvironment} {window : Window Existing Visual}
variable {mapping : Visual → Option (BuiltNode Existing Visual)}

section ConnectNodes

variable [DecidableEq Existing]

/-- A node to which no visual is mapped stays as it is. -/
theorem connectNodes_unmapped
    {visuals : List Visual} {node : BuiltNode Existing Visual}
    (unmapped : ∀ visual ∈ visuals, mapping visual ≠ some node)
    (graph : ActionGraph (BuiltNode Existing Visual)) :
    (connectNodes window mapping visuals graph).node node = graph.node node := by
  induction visuals generalizing graph with
  | nil => rfl
  | cons visual visuals inductionHypothesis =>
      obtain ⟨here, unmapped⟩ := List.forall_mem_cons.mp unmapped
      rw [connectNodes]
      cases mapped : mapping visual with
      | none => exact inductionHypothesis unmapped graph
      | some other =>
          refine (inductionHypothesis unmapped _).trans ?_
          refine Function.update_of_ne (fun same => here ?_) _ _
          rw [mapped, same]

/-- A node to which one visual is mapped is connected like it. -/
theorem connectNodes_mapped
    (injective : ∀ first second node, mapping first = some node →
      mapping second = some node → first = second)
    {visuals : List Visual} (nodup : visuals.Nodup)
    {visual : Visual} (among : visual ∈ visuals)
    {node : BuiltNode Existing Visual} (mapped : mapping visual = some node)
    (graph : ActionGraph (BuiltNode Existing Visual)) :
    (connectNodes window mapping visuals graph).node node =
      connect mapping (window.visual visual) (graph.node node) := by
  induction visuals generalizing graph with
  | nil => cases among
  | cons head rest inductionHypothesis =>
      obtain ⟨new, nodup⟩ := List.nodup_cons.mp nodup
      rw [connectNodes]
      by_cases same : head = visual
      · subst same
        rw [mapped]
        refine (connectNodes_unmapped (fun other inRest isOther => ?_) _).trans
          (Function.update_self _ _ _)
        exact new (injective other head node isOther mapped ▸ inRest)
      · have inRest := (List.mem_cons.mp among).resolve_left (Ne.symm same)
        cases isHead : mapping head with
        | none => exact inductionHypothesis nodup inRest graph
        | some other =>
            rw [inductionHypothesis nodup inRest]
            have different : node ≠ other := by
              rintro rfl
              exact same (injective head visual node isHead mapped)
            dsimp only
            rw [Function.update_of_ne different]

end ConnectNodes

omit [DecidableEq Visual] in
/-- What is read depends on the class of the node alone. -/
theorem builtChildren_kindOf
    (visual : NodeVisual Existing Visual) (nodeType : NodeType)
    (First Second : Type) :
    builtChildren visual (kindOf First nodeType) =
      builtChildren visual (kindOf Second nodeType) := by
  cases nodeType <;> rfl

/-- The children of a visual that `BuildActionGraph` reads. -/
def Window.builtChildren
    (window : Window Existing Visual) (visual : Visual) : List Visual :=
  GraphBuilders.builtChildren (window.visual visual)
    (match (window.visual visual).root, (window.visual visual).nodeType with
    | none, some nodeType => kindOf Existing nodeType
    | _, _ => .action)

/-- Only the visuals of the window have nodes. -/
theorem mem_of_mapping
    {visual : Visual} {node : BuiltNode Existing Visual}
    (mapped : window.mapping visual = some node) :
    visual ∈ window.allNodes := by
  by_contra outside
  rw [Window.mapping, if_neg outside] at mapped
  cases mapped

/-- No two visuals have the same node, when this is so for the roots. -/
theorem mapping_injective
    (roots : ∀ first second node, (window.visual first).root = some node →
      (window.visual second).root = some node → first = second)
    (first second : Visual) (node : BuiltNode Existing Visual)
    (isFirst : window.mapping first = some node)
    (isSecond : window.mapping second = some node) :
    first = second := by
  cases node with
  | inl node =>
      exact roots first second node (mapping_inl.mp isFirst).2
        (mapping_inl.mp isSecond).2
  | inr visual =>
      exact (mapping_inr isFirst).1.symm.trans (mapping_inr isSecond).1

section BuildActionGraph

variable [DecidableEq Existing]
variable {graph : ActionGraph (BuiltNode Existing Visual)}

/-- A built graph is what the second loop makes of the first. -/
theorem exists_made_of_built
    (built : buildActionGraph environment window = .ok graph) :
    ∃ building,
      Made environment window window.allNodes (.initial window) building ∧
        graph = connectNodes window window.mapping window.allNodes
          ⟨building.node, []⟩ := by
  obtain ⟨building, ran, built⟩ := exists_ok_of_bind built
  have made := buildNodes_made ran
  have mapping : building.mapping = window.mapping := by
    funext visual
    rw [made.mapping]
    unfold Window.mapping Building.initial
    simp
  exact ⟨building, made, mapping ▸ (Except.ok.inj built).symm⟩

/-- The trigger of a node that exists stays as it is. -/
theorem trigger_built
    (roots : ∀ first second node, (window.visual first).root = some node →
      (window.visual second).root = some node → first = second)
    (built : buildActionGraph environment window = .ok graph)
    (node : Existing) :
    (graph.node (.inl node)).trigger = (window.existing node).trigger := by
  obtain ⟨building, made, rfl⟩ := exists_made_of_built built
  have existing : (building.node (.inl node)).trigger =
      (window.existing node).trigger :=
    congrArg ConfiguredNode.trigger (made.existing node)
  by_cases mapped : ∃ visual ∈ window.allNodes,
      window.mapping visual = some (.inl node)
  · obtain ⟨visual, among, mapped⟩ := mapped
    rw [connectNodes_mapped (mapping_injective roots) window.nodup among mapped,
      trigger_connect]
    exact existing
  · rw [connectNodes_unmapped fun visual among isMapped =>
      mapped ⟨visual, among, isMapped⟩]
    exact existing

/-- The edges of a built graph: those of the nodes that exist, and one for each
child that is read and has a node. -/
theorem edge_built_iff
    (roots : ∀ first second node, (window.visual first).root = some node →
      (window.visual second).root = some node → first = second)
    (built : buildActionGraph environment window = .ok graph)
    (node next : BuiltNode Existing Visual) :
    Edge graph.actionNodes node next ↔
      (∃ existing, node = .inl existing ∧
        ∃ old ∈ (window.existing existing).actionNode.getAllNextNodes,
          next = .inl old) ∨
      ∃ visual, window.mapping visual = some node ∧
        ∃ child ∈ window.builtChildren visual,
          window.mapping child = some next := by
  obtain ⟨building, made, rfl⟩ := exists_made_of_built built
  have injective := mapping_injective roots
  rw [Edge, ActionGraph.actionNodes]
  by_cases isMapped : ∃ visual, window.mapping visual = some node
  · obtain ⟨visual, mapped⟩ := isMapped
    have unique :
        (∃ other, window.mapping other = some node ∧
          ∃ child ∈ window.builtChildren other,
            window.mapping child = some next) ↔
        ∃ child ∈ window.builtChildren visual,
          window.mapping child = some next := by
      constructor
      · rintro ⟨other, isOther, children⟩
        exact injective other visual node isOther mapped ▸ children
      · exact fun children => ⟨visual, mapped, children⟩
    rw [unique, connectNodes_mapped injective window.nodup
      (mem_of_mapping mapped) mapped, mem_connect]
    dsimp only
    cases node with
    | inl node =>
        obtain ⟨inside, root⟩ := mapping_inl.mp mapped
        have existing : building.node (.inl node) =
            (window.existing node).map .inl := made.existing node
        have kind : ((window.existing node).map
            (.inl : Existing → BuiltNode Existing Visual)).data.kind =
              .action := by
          rw [ConfiguredNode.map, window.rootAction visual inside node root]
          rfl
        have children : window.builtChildren visual =
            builtChildren (window.visual visual)
              (.action : NodeKind (BuiltNode Existing Visual)) := by
          simp [Window.builtChildren, builtChildren, root]
        rw [existing, kind, children, ConfiguredNode.getAllNextNodes_map]
        simp [eq_comm]
    | inr other =>
        obtain ⟨rfl, inside, root, typed⟩ := mapping_inr mapped
        obtain ⟨nodeType, type⟩ := Option.isSome_iff_exists.mp typed
        obtain ⟨data, built, isNode⟩ := made.made _ inside root nodeType type
        have children : window.builtChildren other =
            builtChildren (window.visual other)
              (kindOf (BuiltNode Existing Visual) nodeType) := by
          simp only [Window.builtChildren, root, type]
          exact builtChildren_kindOf _ nodeType _ _
        have kind : (newNode nodeType.name data).data.kind =
            kindOf (BuiltNode Existing Visual) nodeType :=
          kind_buildData built
        rw [isNode, getAllNextNodes_buildData built, kind, children]
        simp
  · have unmapped : (connectNodes window window.mapping window.allNodes
        ⟨building.node, []⟩).node node = building.node node :=
      connectNodes_unmapped (fun visual _ mapped =>
        isMapped ⟨visual, mapped⟩) _
    have nothing : ¬ ∃ visual, window.mapping visual = some node ∧
        ∃ child ∈ window.builtChildren visual,
          window.mapping child = some next := by
      rintro ⟨visual, mapped, -⟩
      exact isMapped ⟨visual, mapped⟩
    rw [unmapped, or_iff_left nothing]
    cases node with
    | inl node =>
        have existing : building.node (.inl node) =
            (window.existing node).map .inl := made.existing node
        rw [existing, ConfiguredNode.getAllNextNodes_map]
        simp [eq_comm]
    | inr visual =>
        rw [(made.fresh visual).2]
        simp

end BuildActionGraph

end Loops

end GraphBuilders
end MultiSocketRudp
