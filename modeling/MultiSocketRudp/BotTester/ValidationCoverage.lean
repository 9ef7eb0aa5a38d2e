import MultiSocketRudp.BotTester.BuildActionGraph
import Mathlib.Data.Fintype.Sum

/-!
# What the validation of a built graph covers

The nodes that `BuildActionGraph` adds to the graph are root nodes, so that a valid
graph satisfies the rules if the values of the visuals that are executed do.  The
fluent builder adds every node that a rule is about.
-/

namespace MultiSocketRudp
namespace GraphBuilders

open GraphValidator

section Coverage

variable {Existing Visual : Type} [DecidableEq Visual]
variable {environment : BuildEnvironment} {window : Window Existing Visual}

/-- The node that a visual is mapped to, if it is one of the window. -/
def Window.target (window : Window Existing Visual) (visual : Visual) :
    Option (BuiltNode Existing Visual) :=
  match (window.visual visual).root with
  | some node => some (.inl node)
  | none =>
      if (window.visual visual).nodeType.isSome then some (.inr visual) else none

/-- The `mapping` of `BuildActionGraph`. -/
def Window.mapping (window : Window Existing Visual) (visual : Visual) :
    Option (BuiltNode Existing Visual) :=
  if visual ∈ window.allNodes then window.target visual else none

/-- The values of a visual satisfy the rules for the node that is built from them. -/
def InRange
    (environment : BuildEnvironment) (window : Window Existing Visual)
    (visual' : Visual) : Prop :=
  let visual := window.visual visual'
  match visual.nodeType with
  | some .sendPacketNode => (environment.schema visual.packetId).isSome = true
  | some .delayNode => 0 < visual.intValue 1000
  | some .waitForPacketNode => 0 < visual.intValue 5000
  | some .randomDelayNode =>
      ∀ minDelay, getInt environment visual "MinDelay" 500 = .ok minDelay →
        ∀ maxDelay, getInt environment visual "MaxDelay" 2000 = .ok maxDelay →
          0 ≤ minDelay ∧ minDelay ≤ maxDelay
  | some .loopNode =>
      ∀ count, getInt environment visual "LoopCount" 1 = .ok count → 0 < count
  | some .repeatTimerNode =>
      0 ≤ visual.intValue 1000 ∧
        ∀ count, getInt environment visual "RepeatCount" 10 = .ok count →
          0 < count
  | some .retryNode =>
      (∀ maxRetries, getInt environment visual "MaxRetries" 3 = .ok maxRetries →
        0 < maxRetries) ∧
      ∀ delay, getInt environment visual "RetryDelay" 1000 = .ok delay → 0 ≤ delay
  | some .randomChoiceNode =>
      2 ≤ visual.dynamicChildren.countP
        fun child => (child.bind window.mapping).isSome
  | some .setVariableNode =>
      let valueType := (propertyText environment visual "ValueType").getD "int"
      environment.isNullOrWhiteSpace
          ((propertyText environment visual "VariableName").getD "value") = false ∧
        isSupportedVariableType environment.toEnvironment valueType = true ∧
        canParseVariableValue environment.toEnvironment valueType
          ((propertyText environment visual "Value").getD "0") = true
  | _ => True

theorem mapping_inr
    {visual other : Visual}
    (mapped : window.mapping visual = some (.inr other)) :
    other = visual ∧ visual ∈ window.allNodes ∧
      (window.visual visual).root = none ∧
      (window.visual visual).nodeType.isSome = true := by
  unfold Window.mapping Window.target at mapped
  by_cases among : visual ∈ window.allNodes
  · rw [if_pos among] at mapped
    cases root : (window.visual visual).root with
    | some existing =>
        rw [root] at mapped
        cases mapped
    | none =>
        rw [root] at mapped
        obtain ⟨typed, same⟩ := Option.ite_none_right_eq_some.mp mapped
        exact ⟨(Sum.inr.inj (Option.some.inj same)).symm, among, rfl, typed⟩
  · rw [if_neg among] at mapped
    cases mapped

theorem mapping_inl
    {visual : Visual} {node : Existing} :
    window.mapping visual = some (.inl node) ↔
      visual ∈ window.allNodes ∧ (window.visual visual).root = some node := by
  unfold Window.mapping Window.target
  by_cases among : visual ∈ window.allNodes
  · rw [if_pos among]
    cases (window.visual visual).root with
    | some existing => simp [among]
    | none => simp
  · simp [among]

/-! ## The nodes that are made -/

/-- What the first loop has done. -/
structure Made
    (environment : BuildEnvironment) (window : Window Existing Visual)
    (visuals : List Visual) (building after : Building Existing Visual) :
    Prop where
  mapping : ∀ visual, after.mapping visual =
    if visual ∈ visuals then (window.target visual).or (building.mapping visual)
    else building.mapping visual
  existing : ∀ node, after.node (.inl node) = building.node (.inl node)
  made : ∀ visual ∈ visuals, (window.visual visual).root = none →
    ∀ nodeType, (window.visual visual).nodeType = some nodeType →
      ∃ data, buildData (BuiltNode Existing Visual) environment
          (window.visual visual) nodeType = .ok data ∧
        after.node (.inr visual) = newNode nodeType.name data
  others : ∀ visual, visual ∉ visuals ∨ window.target visual ≠ some (.inr visual) →
    after.node (.inr visual) = building.node (.inr visual)

/-- One visual, and then the others. -/
theorem Made.cons
    {visual : Visual} {visuals : List Visual}
    {building middle after : Building Existing Visual}
    (first : Made environment window [visual] building middle)
    (rest : Made environment window visuals middle after) :
    Made environment window (visual :: visuals) building after where
  mapping other := by
    have twice (before : Option (BuiltNode Existing Visual)) :
        (window.target other).or ((window.target other).or before) =
          (window.target other).or before := by
      cases window.target other <;> rfl
    rw [rest.mapping, first.mapping]
    by_cases later : other ∈ visuals <;> by_cases here : other ∈ [visual] <;>
      simp_all
  existing node := (rest.existing node).trans (first.existing node)
  made other among root nodeType type := by
    by_cases later : other ∈ visuals
    · exact rest.made other later root nodeType type
    · have same := (List.mem_cons.mp among).resolve_right later
      obtain ⟨data, built, made⟩ :=
        first.made other (List.mem_singleton.mpr same) root nodeType type
      exact ⟨data, built, (rest.others other (.inl later)).trans made⟩
  others other outside := by
    have outsideRest : other ∉ visuals ∨ window.target other ≠ some (.inr other) :=
      outside.imp_left fun outside later => outside (List.mem_cons_of_mem _ later)
    have outsideFirst : other ∉ [visual] ∨
        window.target other ≠ some (.inr other) :=
      outside.imp_left fun outside here => outside
        (List.mem_cons.mpr (.inl (List.mem_singleton.mp here)))
    exact (rest.others other outsideRest).trans (first.others other outsideFirst)

/-- A root visual is mapped to the node that it has. -/
theorem made_root
    {visual : Visual} {node : Existing}
    (root : (window.visual visual).root = some node)
    (building : Building Existing Visual) :
    Made environment window [visual] building
      { building with
        mapping := Function.update building.mapping visual (some (.inl node)) } where
  mapping other := by
    simp only [List.mem_singleton]
    split_ifs with same
    · subst same
      simp [Window.target, root]
    · exact Function.update_of_ne same _ _
  existing _ := rfl
  made other among notRoot := by
    rw [List.mem_singleton.mp among, root] at notRoot
    cases notRoot
  others _ _ := rfl

/-- A visual without a type is skipped. -/
theorem made_skipped
    {visual : Visual}
    (root : (window.visual visual).root = none)
    (untyped : (window.visual visual).nodeType = none)
    (building : Building Existing Visual) :
    Made environment window [visual] building building where
  mapping other := by
    simp only [List.mem_singleton]
    split_ifs with same
    · simp [Window.target, same, root, untyped]
    · rfl
  existing _ := rfl
  made other among _ nodeType type := by
    rw [List.mem_singleton.mp among, untyped] at type
    cases type
  others _ _ := rfl

variable [DecidableEq Existing]

/-- Any other visual is mapped to a node that is made for it. -/
theorem made_node
    {visual : Visual} {nodeType : NodeType}
    {data : NodeData (BuiltNode Existing Visual)}
    (root : (window.visual visual).root = none)
    (type : (window.visual visual).nodeType = some nodeType)
    (built : buildData (BuiltNode Existing Visual) environment
      (window.visual visual) nodeType = .ok data)
    (building : Building Existing Visual) :
    Made environment window [visual] building
      { node := Function.update building.node (.inr visual)
          (newNode nodeType.name data)
        mapping := Function.update building.mapping visual
          (some (.inr visual)) } where
  mapping other := by
    simp only [List.mem_singleton]
    split_ifs with same
    · subst same
      simp [Window.target, root, type]
    · exact Function.update_of_ne same _ _
  existing _ := by
    dsimp only
    rw [Function.update_of_ne Sum.inl_ne_inr]
  made other among _ otherType isType := by
    obtain rfl := List.mem_singleton.mp among
    rw [type, Option.some.injEq] at isType
    subst isType
    exact ⟨data, built, Function.update_self _ _ _⟩
  others other outside := by
    refine Function.update_of_ne (fun same => ?_) _ _
    obtain rfl := Sum.inr.inj same
    refine outside.elim (fun outside => outside List.mem_cons_self) fun untargeted =>
      untargeted ?_
    simp [Window.target, root, type]

theorem buildNodes_made
    {visuals : List Visual} {building after : Building Existing Visual}
    (ran : buildNodes environment window visuals building = .ok after) :
    Made environment window visuals building after := by
  induction visuals generalizing building with
  | nil =>
      cases ran
      exact ⟨by simp, fun _ => rfl, nofun, fun _ _ => rfl⟩
  | cons visual visuals inductionHypothesis =>
      rw [buildNodes] at ran
      split at ran
      next node root => exact (made_root root building).cons (inductionHypothesis ran)
      next root =>
        cases type : (window.visual visual).nodeType with
        | none =>
            have skipped : tryBuild (BuiltNode Existing Visual) environment
                (window.visual visual) = .ok none := by
              rw [tryBuild, type]
            rw [skipped] at ran
            exact (made_skipped root type building).cons (inductionHypothesis ran)
        | some nodeType =>
            have tried : tryBuild (BuiltNode Existing Visual) environment
                (window.visual visual) =
                (buildData (BuiltNode Existing Visual) environment
                  (window.visual visual) nodeType).map
                  fun data => some (newNode nodeType.name data) := by
              rw [tryBuild, type]
              rfl
            rw [tried] at ran
            cases built : buildData (BuiltNode Existing Visual) environment
                (window.visual visual) nodeType with
            | error error =>
                rw [built] at ran
                cases ran
            | ok data =>
                rw [built] at ran
                exact (made_node root type built building).cons
                  (inductionHypothesis ran)

/-- A step that has succeeded, and what came behind it. -/
theorem exists_ok_of_bind
    {Error First Second : Type} {first : Except Error First}
    {next : First → Except Error Second} {result : Second}
    (ran : (first >>= next) = .ok result) :
    ∃ value, first = .ok value ∧ next value = .ok result := by
  cases first with
  | error error => cases ran
  | ok value => exact ⟨value, rfl, ran⟩

omit [DecidableEq Visual] [DecidableEq Existing] in
/-- The builders leave the branches to the connections. -/
theorem getAllNextNodes_buildData
    {visual : NodeVisual Existing Visual} {nodeType : NodeType} {Node : Type}
    {data : NodeData Node}
    (built : buildData Node environment visual nodeType = .ok data) :
    (newNode nodeType.name data).actionNode.getAllNextNodes = [] := by
  cases nodeType with
  | waitForPacketNode | conditionalNode | packetParserNode =>
      rw [buildData] at built
      split at built
      all_goals cases built
      all_goals rfl
  | sendPacketNode =>
      rw [buildData] at built
      split at built
      next => cases built
      next =>
        obtain ⟨-, -, built⟩ := exists_ok_of_bind built
        obtain rfl := Except.ok.inj built
        rfl
  | loopNode | repeatTimerNode =>
      obtain ⟨_, -, built⟩ := exists_ok_of_bind built
      obtain rfl := Except.ok.inj built
      rfl
  | randomDelayNode | retryNode =>
      obtain ⟨_, -, built⟩ := exists_ok_of_bind built
      obtain ⟨_, -, built⟩ := exists_ok_of_bind built
      obtain rfl := Except.ok.inj built
      rfl
  | _ =>
      obtain rfl := Except.ok.inj built
      rfl

/-- A node that is made, or stands for a visual for which none is made, has neither a
trigger nor edges. -/
theorem Made.fresh
    {after : Building Existing Visual}
    (made : Made environment window window.allNodes (.initial window) after)
    (visual : Visual) :
    (after.node (.inr visual)).trigger = none ∧
      (after.node (.inr visual)).actionNode.getAllNextNodes = [] := by
  by_cases mapped : window.mapping visual = some (.inr visual)
  · obtain ⟨-, among, root, typed⟩ := mapping_inr mapped
    obtain ⟨nodeType, type⟩ := Option.isSome_iff_exists.mp typed
    obtain ⟨data, built, node⟩ := made.made visual among root nodeType type
    rw [node]
    exact ⟨rfl, getAllNextNodes_buildData built⟩
  · have untouched : visual ∉ window.allNodes ∨
        window.target visual ≠ some (.inr visual) := by
      by_contra touched
      push Not at touched
      rw [Window.mapping, if_pos touched.1] at mapped
      exact mapped touched.2
    rw [made.others visual untouched]
    exact ⟨rfl, rfl⟩

/-! ## Connections -/

section Connect

variable {Node : Type} (mapping : Visual → Option Node)
variable (visual : NodeVisual Existing Visual) (node : ConfiguredNode Node)

omit [DecidableEq Visual] [DecidableEq Existing]

@[simp] theorem trigger_connect :
    (connect mapping visual node).trigger = node.trigger := by
  unfold connect connectBranches connectNext
  cases node.data <;> rfl

/-- A custom action stays one. -/
theorem data_connect
    (custom : node.data = .customActionNode) :
    (connect mapping visual node).data = .customActionNode := by
  simp only [connect, connectBranches, connectNext, custom]

/-- Every choice that is added has a node and a weight. -/
theorem connectChoices_spec (index : Nat) (children : List (Option Visual)) :
    (connectChoices mapping index children).length =
        (children.countP fun child => (child.bind mapping).isSome) ∧
      ∀ choice ∈ connectChoices mapping index children,
        choice.weight = 1 ∧
          ∃ child node, mapping child = some node ∧ choice.node = some node := by
  induction children generalizing index with
  | nil => exact ⟨rfl, nofun⟩
  | cons child children inductionHypothesis =>
      obtain ⟨length, choices⟩ := inductionHypothesis (index + 1)
      rw [connectChoices]
      cases found : child.bind mapping with
      | none =>
          refine ⟨?_, choices⟩
          simp [found, length]
      | some node =>
          obtain ⟨visual, -, mapped⟩ := Option.bind_eq_some_iff.mp found
          refine ⟨by simp [found, length],
            List.forall_mem_cons.mpr ⟨⟨rfl, visual, node, mapped, rfl⟩, choices⟩⟩

/-- A connection leads to a node of the mapping. -/
theorem edge_connect
    {next : Node}
    (edge : next ∈ (connect mapping visual node).actionNode.getAllNextNodes) :
    next ∈ node.actionNode.getAllNextNodes ∨
      ∃ child, mapping child = some next := by
  have child (found : Option Visual) (among : next ∈ (found.bind mapping).toList) :
      ∃ child, mapping child = some next := by
    obtain ⟨visual, -, mapped⟩ :=
      Option.bind_eq_some_iff.mp (Option.mem_toList.mp among)
    exact ⟨visual, mapped⟩
  have behind := child visual.next
  have onTrue := child visual.trueChild
  have onFalse := child visual.falseChild
  unfold connect connectBranches connectNext at edge
  simp only [ConfiguredNode.actionNode, ActionNode.getAllNextNodes] at edge ⊢
  cases stands : node.data with
  | randomChoiceNode choices =>
      simp only [stands, NodeData.kind, List.mem_append, List.map_append,
        List.filterMap_append] at edge ⊢
      rcases edge with (edge | edge) | edge | edge
      · exact .inl (.inl edge)
      · exact .inr (behind edge)
      · exact .inl (.inr edge)
      · obtain ⟨choice, among, leads⟩ := List.mem_filterMap.mp edge
        obtain ⟨added, inside, rfl⟩ := List.mem_map.mp among
        obtain ⟨-, child, node, mapped, holds⟩ :=
          (connectChoices_spec mapping 0 visual.dynamicChildren).2 added inside
        rw [id, holds, Option.some.injEq] at leads
        exact .inr ⟨child, leads ▸ mapped⟩
  | _ =>
      simp only [stands, NodeData.kind, List.mem_append] at edge ⊢
      grind

end Connect

/-! ## The rules of the nodes that are made -/

omit [DecidableEq Existing] [DecidableEq Visual] in
/-- Only the number of choices depends on the connections. -/
theorem errorRules_connect
    (visual : NodeVisual Existing Visual) {Node : Type}
    (mapping : Visual → Option Node) (name : String) (data : NodeData Node) :
    ErrorRules environment.toEnvironment
        (connect mapping visual (newNode name data)).data ↔
      match data with
      | .randomChoiceNode choices =>
          ErrorRules environment.toEnvironment (.randomChoiceNode
            (choices ++ connectChoices mapping 0 visual.dynamicChildren))
      | data => ErrorRules environment.toEnvironment data := by
  unfold connect connectBranches connectNext newNode
  cases data <;> exact Iff.rfl

omit [DecidableEq Existing] in
/-- A node that is made satisfies the rules if the values of its visual do. -/
theorem errorRules_made
    {visual : Visual} {nodeType : NodeType}
    {data : NodeData (BuiltNode Existing Visual)}
    (type : (window.visual visual).nodeType = some nodeType)
    (built : buildData (BuiltNode Existing Visual) environment
      (window.visual visual) nodeType = .ok data) :
    ErrorRules environment.toEnvironment
        (connect window.mapping (window.visual visual)
          (newNode nodeType.name data)).data ↔
      InRange environment window visual := by
  rw [errorRules_connect]
  unfold InRange
  simp only [type]
  cases nodeType with
  | sendPacketNode =>
      rw [buildData] at built
      split at built
      next => cases built
      next valid =>
        obtain ⟨-, -, built⟩ := exists_ok_of_bind built
        obtain rfl := Except.ok.inj built
        simp [ErrorRules, valid]
  | waitForPacketNode =>
      rw [buildData] at built
      split at built
      next => cases built
      next valid =>
        obtain rfl := Except.ok.inj built
        simp [ErrorRules, valid]
  | conditionalNode =>
      rw [buildData] at built
      split at built
      next => cases built
      next =>
        obtain rfl := Except.ok.inj built
        simp [ErrorRules]
  | packetParserNode =>
      rw [buildData] at built
      split at built
      next => cases built
      next => cases built
      next =>
        obtain rfl := Except.ok.inj built
        simp [ErrorRules]
  | randomDelayNode =>
      obtain ⟨minDelay, readMin, built⟩ := exists_ok_of_bind built
      obtain ⟨maxDelay, readMax, built⟩ := exists_ok_of_bind built
      obtain rfl := Except.ok.inj built
      simp [ErrorRules, readMin, readMax]
  | loopNode =>
      obtain ⟨count, read, built⟩ := exists_ok_of_bind built
      obtain rfl := Except.ok.inj built
      simp [ErrorRules, read]
  | repeatTimerNode =>
      obtain ⟨repeatCount, read, built⟩ := exists_ok_of_bind built
      obtain rfl := Except.ok.inj built
      simp [ErrorRules, read, and_comm]
  | retryNode =>
      obtain ⟨maxRetries, readRetries, built⟩ := exists_ok_of_bind built
      obtain ⟨retryDelay, readDelay, built⟩ := exists_ok_of_bind built
      obtain rfl := Except.ok.inj built
      simp [ErrorRules, readRetries, readDelay]
  | randomChoiceNode =>
      obtain rfl := Except.ok.inj built
      obtain ⟨length, choices⟩ := connectChoices_spec window.mapping 0
        (window.visual visual).dynamicChildren
      simp only [List.nil_append, ErrorRules, length]
      refine and_iff_left ⟨fun choice among => ?_, fun choice among => ?_⟩
      · obtain ⟨-, child, node, -, leads⟩ := choices choice among
        rw [leads]
        rfl
      · rw [(choices choice among).1]
        exact Int.one_pos
  | _ =>
      obtain rfl := Except.ok.inj built
      simp [ErrorRules]

/-! ## The second loop -/

/-- What the second loop has done, with a mapping that gives no two visuals the same
new node and maps to custom actions among the nodes that exist. -/
structure Connected
    (window : Window Existing Visual)
    (mapping : Visual → Option (BuiltNode Existing Visual))
    (visuals : List Visual)
    (graph after : ActionGraph (BuiltNode Existing Visual)) : Prop where
  trigger : ∀ node, (after.node node).trigger = (graph.node node).trigger
  existing : ∀ node,
    (after.node (.inl node)).data = (graph.node (.inl node)).data
  made : visuals.Nodup → ∀ visual, mapping visual = some (.inr visual) →
    after.node (.inr visual) =
      if visual ∈ visuals then
        connect mapping (window.visual visual) (graph.node (.inr visual))
      else graph.node (.inr visual)
  edges : ∀ node next, next ∈ (after.actionNodes node).getAllNextNodes →
    next ∈ (graph.actionNodes node).getAllNextNodes ∨
      ∃ child, mapping child = some next
  allNodes : ∀ node, node ∈ after.allNodes ↔ node ∈ graph.allNodes ∨
    (∃ visual ∈ visuals, mapping visual = some node) ∧
      (graph.node node).trigger.isSome = true

/-- The connections of one visual. -/
theorem connected_visual
    {mapping : Visual → Option (BuiltNode Existing Visual)}
    {visual : Visual} {node : BuiltNode Existing Visual}
    (mapped : mapping visual = some node)
    (injective : ∀ other, mapping other = some (.inr other) →
      node = .inr other → other = visual)
    (graph : ActionGraph (BuiltNode Existing Visual))
    (custom : ∀ existing, node = .inl existing →
      (graph.node node).data = .customActionNode) :
    Connected window mapping [visual] graph
      { node := Function.update graph.node node
          (connect mapping (window.visual visual) (graph.node node))
        allNodes :=
          if (connect mapping (window.visual visual)
              (graph.node node)).trigger.isSome then graph.allNodes ++ [node]
          else graph.allNodes } where
  trigger other := by
    dsimp only
    rcases eq_or_ne other node with rfl | different
    · rw [Function.update_self, trigger_connect]
    · rw [Function.update_of_ne different]
  existing other := by
    dsimp only
    rcases eq_or_ne (.inl other) node with rfl | different
    · rw [Function.update_self, data_connect _ _ _ (custom other rfl),
        custom other rfl]
    · rw [Function.update_of_ne different]
  made _ other isMapped := by
    dsimp only
    rcases eq_or_ne (.inr other) node with rfl | different
    · obtain rfl := injective other isMapped rfl
      rw [Function.update_self, if_pos List.mem_cons_self]
    · rw [Function.update_of_ne different, if_neg]
      intro among
      obtain rfl := List.mem_singleton.mp among
      exact different (Option.some.inj (isMapped.symm.trans mapped))
  edges other next edge := by
    rcases eq_or_ne other node with rfl | different
    · rw [ActionGraph.actionNodes] at edge
      dsimp only at edge
      rw [Function.update_self] at edge
      exact edge_connect mapping _ _ edge
    · rw [ActionGraph.actionNodes] at edge
      dsimp only at edge
      rw [Function.update_of_ne different] at edge
      exact .inl edge
  allNodes other := by
    rw [trigger_connect]
    split_ifs with triggered
    · simp only [List.mem_append, List.mem_singleton, exists_eq_left, mapped,
        Option.some.injEq]
      refine or_congr_right ⟨fun same => ?_, fun same => same.1.symm⟩
      exact ⟨same.symm, same ▸ triggered⟩
    · simp only [List.mem_singleton, exists_eq_left, mapped, Option.some.injEq]
      refine (or_iff_left fun same => ?_).symm
      exact triggered (same.1 ▸ same.2)

omit [DecidableEq Existing] in
theorem Connected.cons
    {mapping : Visual → Option (BuiltNode Existing Visual)}
    {visual : Visual} {visuals : List Visual}
    {graph middle after : ActionGraph (BuiltNode Existing Visual)}
    (first : Connected window mapping [visual] graph middle)
    (rest : Connected window mapping visuals middle after) :
    Connected window mapping (visual :: visuals) graph after where
  trigger node := (rest.trigger node).trans (first.trigger node)
  existing node := (rest.existing node).trans (first.existing node)
  made nodup other mapped := by
    obtain ⟨new, nodup⟩ := List.nodup_cons.mp nodup
    rw [rest.made nodup other mapped,
      first.made (List.nodup_singleton visual) other mapped]
    rcases eq_or_ne other visual with rfl | different
    · simp [new]
    · simp [different]
  edges node next edge := by
    rcases rest.edges node next edge with edge | new
    · exact first.edges node next edge
    · exact .inr new
  allNodes node := by
    rw [rest.allNodes, first.allNodes, first.trigger]
    simp only [List.exists_mem_cons_iff, List.not_mem_nil, false_and, exists_false,
      or_false]
    tauto

omit [DecidableEq Existing] in
theorem Connected.skip
    {mapping : Visual → Option (BuiltNode Existing Visual)}
    {visual : Visual} (unmapped : mapping visual = none)
    (graph : ActionGraph (BuiltNode Existing Visual)) :
    Connected window mapping [visual] graph graph where
  trigger _ := rfl
  existing _ := rfl
  made _ other mapped := by
    rw [if_neg]
    intro among
    rw [List.mem_singleton.mp among, unmapped] at mapped
    cases mapped
  edges _ _ edge := .inl edge
  allNodes node := by simp [unmapped]

theorem connectNodes_connected
    {mapping : Visual → Option (BuiltNode Existing Visual)}
    (injective : ∀ visual other, mapping visual = some (.inr other) →
      other = visual)
    (visuals : List Visual)
    (graph : ActionGraph (BuiltNode Existing Visual))
    (custom : ∀ visual ∈ visuals, ∀ node, mapping visual = some (.inl node) →
      (graph.node (.inl node)).data = .customActionNode) :
    Connected window mapping visuals graph
      (connectNodes window mapping visuals graph) := by
  induction visuals generalizing graph with
  | nil => exact ⟨fun _ => rfl, fun _ => rfl, fun _ _ _ => rfl,
      fun _ _ edge => .inl edge, fun _ => by simp [connectNodes]⟩
  | cons visual visuals inductionHypothesis =>
      obtain ⟨customHere, custom⟩ := List.forall_mem_cons.mp custom
      rw [connectNodes]
      cases mapped : mapping visual with
      | none =>
          exact (Connected.skip mapped graph).cons (inductionHypothesis graph custom)
      | some node =>
          have first : Connected window mapping [visual] graph _ :=
            connected_visual mapped
              (fun other _ same => injective visual other (same ▸ mapped)) graph
              fun existing same => by
                subst same
                exact customHere existing mapped
          refine first.cons (inductionHypothesis _ fun other among node mapped => ?_)
          rw [first.existing]
          exact custom other among node mapped

/-! ## Built graphs -/

/-- What a built graph is like. -/
structure BuiltGraph
    (environment : BuildEnvironment) (window : Window Existing Visual)
    (graph : ActionGraph (BuiltNode Existing Visual)) : Prop where
  existing : ∀ node, (graph.node (.inl node)).data =
    ((window.existing node).data).map .inl
  made : ∀ visual, window.mapping visual = some (.inr visual) →
    (ErrorRules environment.toEnvironment (graph.node (.inr visual)).data ↔
      InRange environment window visual)
  edges : ∀ node next, next ∈ (graph.actionNodes node).getAllNextNodes →
    (∃ existing, next = .inl existing) ∨
      ∃ child, window.mapping child = some next
  allNodes : ∀ node, node ∈ graph.allNodes ↔
    ∃ existing, node = .inl existing ∧
      ∃ visual ∈ window.allNodes, (window.visual visual).root = some existing

theorem buildActionGraph_built
    {graph : ActionGraph (BuiltNode Existing Visual)}
    (built : buildActionGraph environment window = .ok graph) :
    BuiltGraph environment window graph := by
  obtain ⟨building, ran, built⟩ := exists_ok_of_bind built
  obtain rfl := Except.ok.inj built
  have made := buildNodes_made ran
  have mapping : building.mapping = window.mapping := by
    funext visual
    rw [made.mapping]
    unfold Window.mapping Building.initial
    simp
  have existing (node : Existing) : building.node (.inl node) =
      (window.existing node).map (.inl : Existing → BuiltNode Existing Visual) :=
    made.existing node
  have connected : Connected window building.mapping window.allNodes
      ⟨building.node, []⟩
      (connectNodes window building.mapping window.allNodes ⟨building.node, []⟩) := by
    rw [mapping]
    refine connectNodes_connected (fun visual other mapped =>
      (mapping_inr mapped).1) window.allNodes ⟨building.node, []⟩
      fun visual among node mapped => ?_
    have custom := window.rootAction visual among node (mapping_inl.mp mapped).2
    change (building.node (.inl node)).data = _
    rw [existing]
    change ((window.existing node).data).map _ = _
    rw [custom]
    rfl
  refine ⟨fun node => ?_, fun visual mapped => ?_, fun node next edge => ?_,
    fun node => ?_⟩
  · rw [connected.existing]
    change (building.node (.inl node)).data = _
    rw [existing]
    rfl
  · obtain ⟨-, among, root, typed⟩ := mapping_inr mapped
    obtain ⟨nodeType, type⟩ := Option.isSome_iff_exists.mp typed
    obtain ⟨data, built, node⟩ := made.made visual among root nodeType type
    rw [connected.made window.nodup visual (mapping ▸ mapped), if_pos among, mapping]
    change ErrorRules _ (connect window.mapping _ (building.node _)).data ↔ _
    rw [node]
    exact errorRules_made type built
  · rcases connected.edges node next edge with edge | new
    · cases node with
      | inl node =>
          rw [ActionGraph.actionNodes] at edge
          dsimp only at edge
          rw [existing, ConfiguredNode.getAllNextNodes_map] at edge
          obtain ⟨other, -, rfl⟩ := List.mem_map.mp edge
          exact .inl ⟨other, rfl⟩
      | inr visual =>
          rw [ActionGraph.actionNodes, (made.fresh visual).2] at edge
          cases edge
    · exact .inr (mapping ▸ new)
  · rw [connected.allNodes, mapping]
    simp only [List.not_mem_nil, false_or]
    constructor
    · rintro ⟨⟨visual, among, mapped⟩, triggered⟩
      cases node with
      | inl node => exact ⟨node, rfl, visual, among, (mapping_inl.mp mapped).2⟩
      | inr other =>
          rw [(made.fresh other).1] at triggered
          cases triggered
    · rintro ⟨node, rfl, visual, among, root⟩
      refine ⟨⟨visual, among, mapping_inl.mpr ⟨among, root⟩⟩, ?_⟩
      rw [existing]
      exact window.rootTrigger visual among node root

/-! ## Reachable nodes -/

namespace BuiltGraph

variable {graph : ActionGraph (BuiltNode Existing Visual)}

omit [DecidableEq Existing] in
/-- A node that is reached is one that exists or one that a visual is mapped to. -/
theorem mapping_of_reachable
    (built : BuiltGraph environment window graph)
    {visual : Visual} (reachable : graph.Reachable (.inr visual)) :
    window.mapping visual = some (.inr visual) := by
  obtain ⟨trigger, registered, -, path⟩ := reachable
  rcases path.cases_tail with same | ⟨previous, -, edge⟩
  · obtain ⟨existing, isExisting, -⟩ := (built.allNodes trigger).mp registered
    cases same.trans isExisting
  · rcases built.edges previous _ edge with ⟨existing, same⟩ | ⟨child, mapped⟩
    · cases same
    · obtain rfl := (mapping_inr mapped).1
      exact mapped

omit [DecidableEq Existing] in
/-- Roots are custom actions. -/
theorem errorRules_of_mem_allNodes
    (built : BuiltGraph environment window graph)
    {node : BuiltNode Existing Visual} (registered : node ∈ graph.allNodes) :
    ErrorRules environment.toEnvironment (graph.node node).data := by
  obtain ⟨existing, rfl, visual, among, root⟩ := (built.allNodes node).mp registered
  rw [built.existing, errorRules_map, window.rootAction visual among existing root]
  trivial

end BuiltGraph

/-- The values of the visuals whose nodes are reached satisfy the rules, and so do
the nodes of earlier graphs that are reached. -/
structure ReachableInRange
    (environment : BuildEnvironment) (window : Window Existing Visual)
    (graph : ActionGraph (BuiltNode Existing Visual)) : Prop where
  visuals : ∀ visual, graph.Reachable (.inr visual) →
    InRange environment window visual
  existing : ∀ node, graph.Reachable (.inl node) →
    ErrorRules environment.toEnvironment (window.existing node).data

omit [DecidableEq Existing] in
theorem BuiltGraph.errorRules_iff
    {graph : ActionGraph (BuiltNode Existing Visual)}
    (built : BuiltGraph environment window graph) :
    (∀ node, graph.Reachable node →
        ErrorRules environment.toEnvironment (graph.node node).data) ↔
      ReachableInRange environment window graph := by
  constructor
  · intro rules
    refine ⟨fun visual reachable => ?_, fun node reachable => ?_⟩
    · exact (built.made visual (built.mapping_of_reachable reachable)).mp
        (rules _ reachable)
    · have rule := rules _ reachable
      rwa [built.existing, errorRules_map] at rule
  · intro inRange node reachable
    cases node with
    | inl node =>
        rw [built.existing, errorRules_map]
        exact inRange.existing node reachable
    | inr visual =>
        exact (built.made visual (built.mapping_of_reachable reachable)).mpr
          (inRange.visuals visual reachable)

/-- A graph of the window without a root is empty, and the search for cycles says on
its own that a graph is not valid.  Any other graph is valid, whatever the values
are. -/
theorem validation_covers_iff
    [Fintype Existing] [Fintype Visual]
    (environment : BuildEnvironment) (window : Window Existing Visual)
    (graph : ActionGraph (BuiltNode Existing Visual))
    (built : buildActionGraph environment window = .ok graph) :
    ((isValid (validateGraph environment.toEnvironment graph) = true →
        ∀ node, graph.Reachable node →
          ErrorRules environment.toEnvironment (graph.node node).data) ↔
      (∀ visual ∈ window.allNodes, (window.visual visual).root = none) ∨
        errorCount (validateCycles graph.actionNodes graph.allNodes
          (validateBasicStructure graph)) ≠ 0 ∨
        ReachableInRange environment window graph) ∧
    ∀ calls (script : Fin calls → Call (Fin calls)),
      isValid (validateGraph environment.toEnvironment
          (ActionGraphBuilder.build script)) = true →
        ∀ node, (ActionGraphBuilder.build script).Reachable node →
          ErrorRules environment.toEnvironment
            ((ActionGraphBuilder.build script).node node).data := by
  have describes := buildActionGraph_built built
  refine ⟨?_, fun calls script valid node _ =>
    ActionGraphBuilder.errorRules_of_isValid _ script valid node⟩
  rw [isValid_validateGraph_iff, describes.errorRules_iff]
  have empty : graph.allNodes = [] ↔
      ∀ visual ∈ window.allNodes, (window.visual visual).root = none := by
    rw [List.eq_nil_iff_forall_not_mem]
    constructor
    · intro none visual among
      by_contra root
      obtain ⟨existing, root⟩ := Option.ne_none_iff_exists'.mp root
      exact none _ ((describes.allNodes _).mpr ⟨existing, rfl, visual, among, root⟩)
    · intro rootless node registered
      obtain ⟨existing, -, visual, among, root⟩ :=
        (describes.allNodes node).mp registered
      rw [rootless visual among] at root
      cases root
  have registered (node : BuiltNode Existing Visual) (among : node ∈ graph.allNodes) :=
    describes.errorRules_of_mem_allNodes among
  rw [← empty]
  tauto

end Coverage

/-! ## A root and a delay -/

/-- An environment without packets. -/
def plainEnvironment : BuildEnvironment where
  schema _ := none
  isNullOrWhiteSpace text := text.isEmpty
  toLowerInvariant text := text.toLower
  intTryParse text := text.toInt?
  longTryParse text := text.toInt?.isSome
  floatTryParse text := text.toInt?.isSome
  doubleTryParse text := text.toInt?.isSome
  boolTryParse text := text = "True" ∨ text = "False"
  toText _ := ""
  parseField _ text := if text.toInt?.isSome then none else some .format

/-- A root that is followed by a delay. -/
def delayWindow (delay : Int) : Window Unit Bool where
  allNodes := [false, true]
  visual
    | false => { root := some (), nodeType := some .customActionNode, next := some true }
    | true =>
        { nodeType := some .delayNode
          configuration := some { intValue := delay } }
  existing _ := ⟨"OnConnected", some .onConnected, [], .customActionNode⟩
  nodup := by decide
  rootAction _ _ _ _ := rfl
  rootTrigger _ _ _ _ := rfl

/-- What is built from it. -/
def delayGraph (delay : Int) : ActionGraph (BuiltNode Unit Bool) where
  node
    | .inl _ =>
        ⟨"OnConnected", some .onConnected, [.inr true], .customActionNode⟩
    | .inr true => newNode "DelayNode" (.delayNode delay)
    | .inr false => newNode "" .customActionNode
  allNodes := [.inl ()]

theorem buildActionGraph_delayWindow (delay : Int) :
    buildActionGraph plainEnvironment (delayWindow delay) =
      .ok (delayGraph delay) := by
  have ran : buildActionGraph plainEnvironment (delayWindow delay) =
      .ok ⟨_, [.inl ()]⟩ := rfl
  rw [ran, Except.ok.injEq, delayGraph, ActionGraph.mk.injEq]
  refine ⟨funext fun node => ?_, rfl⟩
  rcases node with _ | _ | _ <;> rfl

/-- A delay that is in range. -/
theorem delayGraph_covered :
    isValid (validateGraph plainEnvironment.toEnvironment (delayGraph 100)) = true ∧
      ∀ node, (delayGraph 100).Reachable node →
        ErrorRules plainEnvironment.toEnvironment
          ((delayGraph 100).node node).data := by
  have valid : isValid (validateGraph plainEnvironment.toEnvironment
      (delayGraph 100)) = true := by
    decide
  have inRange : ReachableInRange plainEnvironment (delayWindow 100)
      (delayGraph 100) := by
    refine ⟨fun visual _ => ?_, fun _ _ => trivial⟩
    cases visual with
    | false => trivial
    | true => exact (by decide : (0 : Int) < 100)
  exact ⟨valid, ((validation_covers_iff plainEnvironment (delayWindow 100) _
    (buildActionGraph_delayWindow 100)).1.mpr (.inr (.inr inRange))) valid⟩

/-- A delay as it is when its node has been added to the window. -/
theorem delayGraph_not_covered :
    buildActionGraph plainEnvironment (delayWindow 0) = .ok (delayGraph 0) ∧
      isValid (validateGraph plainEnvironment.toEnvironment (delayGraph 0)) = true ∧
      ∃ node, (delayGraph 0).Reachable node ∧
        ¬ ErrorRules plainEnvironment.toEnvironment ((delayGraph 0).node node).data := by
  refine ⟨buildActionGraph_delayWindow 0, by decide, .inr true, ?_, ?_⟩
  · exact ⟨.inl (), List.mem_cons_self, rfl, .single List.mem_cons_self⟩
  · exact (by decide : ¬ (0 : Int) < 0)

end GraphBuilders
end MultiSocketRudp
