import MultiSocketRudp.BotTester.GraphFiles

/-!
# Runs of the editor

In every run the graph is sound, and each file describes a sound graph.  A
connection that is being drawn begins at a port of its node, which may have been
deleted since; then it is drawn to no effect.
-/

namespace MultiSocketRudp
namespace GraphEditor

open GraphBuilders GraphSearch Relation TransitionSystems

variable {Coordinate TypeName Text : Type}

/-! ## What changes keep -/

section Changes

variable {graph : Graph Coordinate} {node : Nat}

/-- A connection is made from a port that there is. -/
theorem offers_connect
    (visual : NodeVisual Coordinate) (target : Nat) (portType : PortType) :
    (visual.connect target portType).Offers = visual.Offers := by
  cases portType with
  | choice index =>
      simp only [NodeVisual.connect]
      split <;> rfl
  | _ => rfl

theorem isRoot_connect
    (visual : NodeVisual Coordinate) (target : Nat) (portType : PortType) :
    (visual.connect target portType).isRoot = visual.isRoot := by
  cases portType with
  | choice index =>
      simp only [NodeVisual.connect]
      split <;> rfl
  | _ => rfl

/-- A connection adds at most its target. -/
theorem mem_children_connect
    {visual : NodeVisual Coordinate} {target child : Nat}
    {portType : PortType}
    (isChild : child ∈ (visual.connect target portType).children) :
    child ∈ visual.children ∨ child = target := by
  rw [NodeVisual.mem_children] at isChild ⊢
  cases portType with
  | choice index =>
      simp only [NodeVisual.connect] at isChild
      split at isChild
      · rcases isChild with is | is | is | member
        · exact .inl (.inl is)
        · exact .inl (.inr (.inl is))
        · exact .inl (.inr (.inr (.inl is)))
        · rcases List.mem_or_eq_of_mem_set member with old | new
          · exact .inl (.inr (.inr (.inr old)))
          · exact .inr (Option.some.inj new)
      · exact .inl isChild
  | _ =>
      simp only [NodeVisual.connect, Option.some.injEq] at isChild
      tauto

/-- A change that keeps the ports of a node keeps what each node offers. -/
theorem offers_modify
    {change : NodeVisual Coordinate → NodeVisual Coordinate}
    (kept : (change (graph.visual node)).Offers = (graph.visual node).Offers)
    (source : Nat) :
    ((graph.modify node change).visual source).Offers =
      (graph.visual source).Offers := by
  by_cases same : source = node
  · subst same
    simpa [Graph.modify] using kept
  · simp [Graph.modify, same]

theorem offers_deleteNode (source : Nat) :
    ((graph.deleteNode node).visual source).Offers =
      (graph.visual source).Offers := by
  unfold Graph.deleteNode
  split
  · rfl
  · dsimp only
    split <;> rfl

theorem mem_deleteNode {other : Nat}
    (member : other ∈ (graph.deleteNode node).allNodes) :
    other ∈ graph.allNodes := by
  unfold Graph.deleteNode at member
  split at member
  · exact member
  · exact List.mem_of_mem_erase member

@[simp] theorem isRoot_addedNode
    (nodeType : NodeType) (left top : Coordinate) :
    (addedNode nodeType left top).isRoot = false := by
  unfold addedNode NodeVisual.configureNewNodePorts
    NodeVisual.createBranchPorts
  split <;> [rfl; split <;> [rfl; split <;> rfl]]

@[simp] theorem children_addedNode
    (nodeType : NodeType) (left top : Coordinate) :
    (addedNode nodeType left top).children = [] := by
  unfold addedNode NodeVisual.configureNewNodePorts
    NodeVisual.createBranchPorts
  split <;> [rfl; split <;> [rfl; split <;> rfl]]

/-- New ports are not connected. -/
theorem mem_children_createDynamicPorts
    {visual : NodeVisual Coordinate} {count child : Nat}
    (isChild : child ∈ (visual.createDynamicPorts count).children) :
    child ∈ visual.children := by
  rw [NodeVisual.mem_children] at isChild ⊢
  rcases isChild with is | is | is | member
  · exact .inl is
  · exact .inr (.inl is)
  · exact .inr (.inr (.inl is))
  · cases List.eq_of_mem_replicate member

end Changes

/-! ## The invariant -/

/-- What holds of the editor in every run. -/
structure Editor.Sound
    (library : Library Coordinate TypeName Text)
    (editor : Editor Coordinate Text) : Prop where
  graph : editor.graph.Sound
  old : ∀ node ∈ editor.graph.allNodes, node < editor.nextNode
  connecting : ∀ source portType,
    editor.connecting = some (source, portType) →
      source < editor.nextNode ∧
        (source ∈ editor.graph.allNodes →
          (editor.graph.visual source).Offers portType)
  files : ∀ text ∈ editor.files, ∃ graph : Graph Coordinate,
    graph.Sound ∧ text = library.serialize (graph.createGraphFileModel library)

namespace Editor.Sound

variable {library : Library Coordinate TypeName Text}
variable {editor next : Editor Coordinate Text}

/-- The window has been opened. -/
theorem opened (left top : Coordinate) :
    (initial left top : Editor Coordinate Text).Sound library where
  graph :=
    { distinct := List.nodup_singleton 0
      root := ⟨0, ⟨List.mem_singleton_self 0, rfl⟩, fun _ ⟨member, _⟩ =>
        List.mem_singleton.mp member⟩
      closed := fun _ _ _ isChild => nomatch isChild
      acyclic := by
        intro node cycle
        obtain ⟨_, edge, -⟩ := TransGen.head'_iff.mp cycle
        exact nomatch edge.2
      consistent := fun _ _ => .root left top }
  old node member := by
    rw [List.mem_singleton.mp member]
    exact Nat.one_pos
  connecting _ _ isConnecting := nomatch isConnecting
  files _ member := nomatch member

/-- A new graph in the place of the old one, of the same nodes or fewer. -/
theorem withGraph
    (sound : editor.Sound library) {graph : Graph Coordinate}
    (isSound : graph.Sound)
    (fewer : ∀ node ∈ graph.allNodes, node ∈ editor.graph.allNodes)
    (offers : ∀ source, (graph.visual source).Offers =
      (editor.graph.visual source).Offers) :
    Editor.Sound library { editor with graph } where
  graph := isSound
  old node member := sound.old node (fewer node member)
  connecting source portType isConnecting := by
    obtain ⟨old, port⟩ := sound.connecting source portType isConnecting
    refine ⟨old, fun member => ?_⟩
    simp only [offers source]
    exact port (fewer source member)
  files := sound.files

/-- A node is added. -/
theorem addNode
    (sound : editor.Sound library)
    (nodeType : NodeType) (left top : Coordinate) :
    Editor.Sound library
      { editor with
        graph :=
          editor.graph.addNodeToCanvas editor.nextNode
            (addedNode nodeType left top)
        nextNode := editor.nextNode + 1 } where
  graph :=
    sound.graph.addNodeToCanvas
      (fun member => Nat.lt_irrefl _ (sound.old _ member))
      (.added nodeType left top) (by simp) (by simp)
  old node member := by
    rcases List.mem_append.mp member with old | new
    · exact Nat.lt_succ_of_lt (sound.old node old)
    · rw [List.mem_singleton.mp new]
      exact Nat.lt_succ_self _
  connecting source portType isConnecting := by
    obtain ⟨old, port⟩ := sound.connecting source portType isConnecting
    refine ⟨Nat.lt_succ_of_lt old, fun member => ?_⟩
    rcases List.mem_append.mp member with inside | new
    · simpa [Graph.addNodeToCanvas, Nat.ne_of_lt old] using port inside
    · exact absurd (List.mem_singleton.mp new) (Nat.ne_of_lt old)
  files := sound.files

/-- A change to a node that keeps its ports and gives it no new children. -/
theorem modify
    (sound : editor.Sound library) {node : Nat}
    {change : NodeVisual Coordinate → NodeVisual Coordinate}
    (isRoot : (change (editor.graph.visual node)).isRoot =
      (editor.graph.visual node).isRoot)
    (offers : (change (editor.graph.visual node)).Offers =
      (editor.graph.visual node).Offers)
    (fewer : ∀ child ∈ (change (editor.graph.visual node)).children,
      child ∈ (editor.graph.visual node).children)
    (consistent : node ∈ editor.graph.allNodes →
      (editor.graph.visual node).Consistent →
        (change (editor.graph.visual node)).Consistent) :
    Editor.Sound library
      { editor with graph := editor.graph.modify node change } :=
  sound.withGraph
    (sound.graph.modify node isRoot
      (fun child isChild => .inl (fewer child isChild)) consistent)
    (fun _ member => member) (offers_modify offers)

/-- A connection has been drawn to an input port. -/
theorem tryFinishConnection
    (sound : editor.Sound library) {source target : Nat} {portType : PortType}
    (isConnecting : editor.connecting = some (source, portType)) :
    Editor.Sound library
      { editor with
        graph :=
          if target ∉ editor.graph.allNodes ∨ target = source then
            editor.graph
          else if editor.graph.createsCycle source target = some false then
            editor.graph.modify source (·.connect target portType)
          else editor.graph
        connecting := none } := by
  have idle {graph : Graph Coordinate}
      (connected : Editor.Sound library { editor with graph }) :
      Editor.Sound library { editor with graph, connecting := none } :=
    { connected with connecting := nofun }
  obtain ⟨-, port⟩ := sound.connecting source portType isConnecting
  split
  · exact idle sound
  next isTarget =>
  have inside : target ∈ editor.graph.allNodes :=
    Decidable.not_not.mp fun outside => isTarget (.inl outside)
  split
  next noCycle =>
    obtain ⟨found, searched, isFound⟩ :=
      sound.graph.createsCycle source inside
    rw [noCycle, Option.some.injEq] at searched
    subst searched
    have unreached : ¬ ReflTransGen editor.graph.Edge target source :=
      fun path => nomatch isFound.mpr path
    refine idle (sound.withGraph ?_ (fun _ member => member)
      (offers_modify (offers_connect _ target portType)))
    refine sound.graph.modify target (isRoot_connect _ target portType)
      (fun child isChild => ?_)
      fun member consistent => consistent.connect target (port member)
    exact (mem_children_connect isChild).imp_right fun new =>
      ⟨new, inside, unreached⟩
  · exact idle sound

/-- One of the editor's files is loaded. -/
theorem loadGraph
    (sound : editor.Sound library) {text : Text} (own : text ∈ editor.files)
    (moves : step library editor (.loadGraph text) = some next) :
    next.Sound library := by
  obtain ⟨saved, savedSound, rfl⟩ := sound.files text own
  obtain ⟨loads, rename, restored, restores, copies, numbers⟩ :=
    load_serialize library savedSound editor.graph.visual editor.nextNode
  simp only [step, loads, restores, Option.some.injEq] at moves
  subst moves
  have range {node : Nat} (member : node ∈ restored.allNodes) :
      editor.nextNode ≤ node ∧
        node < editor.nextNode + saved.allNodes.length := by
    obtain ⟨original, inside, rfl⟩ := copies.exists_of_mem member
    exact numbers original inside
  exact
    { graph := copies.sound savedSound
      old := fun _ member => (range member).2
      connecting := fun source portType isConnecting =>
        have ⟨old, _⟩ := sound.connecting source portType isConnecting
        ⟨Nat.lt_of_lt_of_le old (Nat.le_add_right _ _), fun member =>
          absurd (range member).1 (Nat.not_le_of_lt old)⟩
      files := sound.files }

/-- Each operation keeps the invariant. -/
theorem step
    {label : Label Coordinate Text}
    (sound : editor.Sound library) (own : Own editor label)
    (moves : GraphEditor.step library editor label = some next) :
    next.Sound library := by
  cases label with
  | addNode nodeType left top =>
      cases moves
      exact sound.addNode nodeType left top
  | startConnection node portType =>
      simp only [GraphEditor.step, Option.ite_none_right_eq_some,
        Option.some.injEq] at moves
      obtain ⟨⟨inside, shown⟩, rfl⟩ := moves
      exact
        { sound with
          connecting := by
            rintro _ _ ⟨⟩
            exact
              ⟨sound.old node inside, fun _ =>
                (sound.graph.consistent node inside).offers shown⟩ }
  | tryFinishConnection target =>
      simp only [GraphEditor.step] at moves
      split at moves
      · cases moves
      next source portType isConnecting =>
        obtain rfl := Option.some.inj moves
        exact sound.tryFinishConnection isConnecting
  | deleteNode node =>
      cases moves
      exact sound.withGraph (sound.graph.deleteNode node)
        (fun _ member => mem_deleteNode member) offers_deleteNode
  | drag node left top =>
      simp only [GraphEditor.step, Option.ite_none_right_eq_some,
        Option.some.injEq] at moves
      obtain ⟨inside, rfl⟩ := moves
      exact sound.modify rfl rfl (fun _ isChild => isChild) fun _ consistent =>
        { consistent with placed := ⟨rfl, rfl⟩ }
  | configure node configuration =>
      simp only [GraphEditor.step, Option.ite_none_right_eq_some,
        Option.some.injEq] at moves
      obtain ⟨-, rfl⟩ := moves
      exact sound.modify rfl rfl (fun _ isChild => isChild) fun _ consistent =>
        { consistent with
          plain := by
            rintro _ ⟨⟩
            exact own }
  | configureChoices node count =>
      simp only [GraphEditor.step, Option.ite_none_right_eq_some,
        Option.some.injEq] at moves
      obtain ⟨⟨-, isChoice, -⟩, rfl⟩ := moves
      refine sound.modify rfl rfl
        (fun _ isChild => mem_children_createDynamicPorts isChild)
        fun _ consistent => ?_
      exact
        { consistent with
          choosing :=
            { portTypes_eq := by simp [NodeVisual.createDynamicPorts]
              randomChoice := .inl isChoice }
          plain := by
            rintro _ ⟨⟩ key value found
            cases isConfiguration :
                (editor.graph.visual node).configuration with
            | none =>
                rw [isConfiguration] at found
                cases found
            | some configuration =>
                rw [isConfiguration] at found
                exact consistent.plain configuration isConfiguration key value
                  found }
  | saveGraph =>
      cases moves
      exact
        { sound with
          files := by
            intro text member
            rcases List.mem_cons.mp member with rfl | old
            · exact ⟨editor.graph, sound.graph, rfl⟩
            · exact sound.files text old }
  | loadGraph text => exact sound.loadGraph own moves

end Editor.Sound

/-- What has been drawn is kept. -/
structure Editor.Faithful
    (library : Library Coordinate TypeName Text)
    (editor : Editor Coordinate Text) : Prop where
  sound : editor.graph.Sound
  /-- A connection to a node is rejected if and only if it closes a cycle. -/
  rejected : ∀ source, ∀ target ∈ editor.graph.allNodes, ∃ found,
    editor.graph.createsCycle source target = some found ∧
      (found = true ↔ ReflTransGen editor.graph.Edge target source)
  /-- A file to which the graph is saved is loaded, whenever, as a copy. -/
  loaded : ∀ later : Editor Coordinate Text, ∃ loaded rename,
    step library later
        (.loadGraph
          (library.serialize (editor.graph.createGraphFileModel library))) =
        some loaded ∧
      IsCopy rename editor.graph loaded.graph
  /-- Another window shows a copy. -/
  shown : ∃ rename,
    IsCopy rename editor.graph
      (restoreSavedGraph editor.graph editor.nextNode
        editor.graph.allNodes).1

/-- In every run with files of its own, the editor is faithful. -/
theorem faithful_editor
    (library : Library Coordinate TypeName Text) (left top : Coordinate)
    {editor : Editor Coordinate Text}
    (reached : (system library left top).GuardedReachable Own editor) :
    editor.Faithful library := by
  have sound : editor.Sound library := by
    induction reached with
    | initial isInitial =>
        subst isInitial
        exact .opened left top
    | step _ own moves inductionHypothesis =>
        exact inductionHypothesis.step own moves
  exact
    { sound := sound.graph
      rejected := fun source _ inside => sound.graph.createsCycle source inside
      loaded := by
        intro later
        obtain ⟨loads, rename, restored, restores, copies, -⟩ :=
          load_serialize library sound.graph later.graph.visual later.nextNode
        refine
          ⟨{ later with
              graph := restored
              nextNode := later.nextNode + editor.graph.allNodes.length },
            rename, ?_, copies⟩
        simp only [step, loads, restores]
      shown := by
        obtain ⟨rename, restored, restores, copies, -⟩ :=
          restore_describe sound.graph id (fun _ _ _ _ same => same)
            editor.graph.visual editor.nextNode
        refine ⟨rename, ?_⟩
        rw [restoreSavedGraph, map_savedNode_visuals sound.graph, restores]
        exact copies }

/-! ## A graph that is drawn, saved and loaded -/

/-- Names are types and texts are file models. -/
def plainLibrary : Library Nat NodeType (GraphFileModel Nat NodeType) where
  zero := 0
  assemblyQualifiedName := id
  isWhiteSpace _ := false
  getType := some
  getSimpleType := some
  serialize := id
  deserialize := some
  isWhiteSpace_name _ := rfl
  getType_name _ := rfl
  deserialize_serialize _ := rfl

/-- The root leads to a random choice, whose second choice leads to a log; from
there it does not go back to the root. -/
def drawing : List (Label Nat (GraphFileModel Nat NodeType)) :=
  [.addNode .logNode 400 300, .addNode .randomChoiceNode 420 320,
    .startConnection 0 .default, .tryFinishConnection 2,
    .startConnection 2 (.choice 1), .tryFinishConnection 1,
    .startConnection 1 .default, .tryFinishConnection 0, .saveGraph]

/-- Whether an operation neither loads nor configures. -/
def draws : Label Nat (GraphFileModel Nat NodeType) → Bool
  | .loadGraph _ | .configure _ _ => false
  | _ => true

/-- The editor after the drawing. -/
def drawn : Option (Editor Nat (GraphFileModel Nat NodeType)) :=
  (system plainLibrary 50 200).guardedRun (fun _ label => draws label = true)
    (initial 50 200) drawing

/-- The editor after its file has been loaded. -/
def reloaded : Option (Editor Nat (GraphFileModel Nat NodeType)) :=
  drawn.bind fun editor => editor.files.head?.bind fun text =>
    step plainLibrary editor (.loadGraph text)

theorem faithful_editor_reloaded :
    reloaded.map (fun editor =>
        (editor.graph.allNodes,
          editor.graph.allNodes.map editor.graph.children)) =
      some ([3, 4, 5], [[5], [], [4]]) ∧
    ∀ editor ∈ reloaded, editor.Faithful plainLibrary := by
  refine ⟨by decide, fun editor isReloaded => ?_⟩
  obtain ⟨before, isDrawn, isReloaded⟩ := Option.bind_eq_some_iff.mp isReloaded
  obtain ⟨text, isFile, loads⟩ := Option.bind_eq_some_iff.mp isReloaded
  have reached : (system plainLibrary 50 200).GuardedReachable Own before := by
    refine TransitionSystem.GuardedReachable.guardedRun_of_imp
      (fun state label harmless => ?_) (.initial rfl) isDrawn
    cases label <;> trivial
  have own : Own before (.loadGraph text) := List.mem_of_mem_head? isFile
  exact faithful_editor plainLibrary 50 200 (reached.step own loads)

end GraphEditor
end MultiSocketRudp
