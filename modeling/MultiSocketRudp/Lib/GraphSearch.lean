import Mathlib

/-!
# Depth-first search for one vertex

A search keeps a stack of vertices and a list of those that it has visited.  On
vertices that are closed under the edges it ends, and it finds its target if and
only if the target is reachable.  A graph without cycles has none after an edge has
been added whose source its target does not reach.
-/

namespace GraphSearch

open Relation

universe u v

variable {Vertex : Type u} {Other : Type v}

/-- No vertex reaches itself along one edge or more. -/
def Acyclic (edge : Vertex → Vertex → Prop) : Prop :=
  ∀ vertex, ¬ TransGen edge vertex vertex

namespace Acyclic

variable {edge later : Vertex → Vertex → Prop}

/-- Fewer edges make no cycle. -/
theorem mono
    (acyclic : Acyclic edge)
    (fewer : ∀ first second, later first second → edge first second) :
    Acyclic later :=
  fun vertex cycle => acyclic vertex (TransGen.mono fewer _ _ cycle)

/-- A cycle would be one in the image. -/
theorem of_map
    {image : Other → Other → Prop}
    (acyclic : Acyclic image) (describe : Vertex → Other)
    (maps : ∀ first second, edge first second →
      image (describe first) (describe second)) :
    Acyclic edge :=
  fun vertex cycle => acyclic (describe vertex) (cycle.lift describe maps)

/-- A path in a graph with one edge more is an old path, or it uses the edge. -/
theorem transGen_insert
    {source target : Vertex}
    (more : ∀ first second, later first second →
      edge first second ∨ first = source ∧ second = target)
    {first second : Vertex}
    (path : TransGen later first second) :
    TransGen edge first second ∨
      ReflTransGen edge first source ∧ ReflTransGen edge target second := by
  induction path with
  | single step =>
      rcases more _ _ step with old | ⟨rfl, rfl⟩
      · exact .inl (.single old)
      · exact .inr ⟨.refl, .refl⟩
  | tail _ step inductionHypothesis =>
      rcases more _ _ step with old | ⟨rfl, rfl⟩
      · exact inductionHypothesis.imp (·.tail old)
          fun ⟨before, after⟩ => ⟨before, after.tail old⟩
      · rcases inductionHypothesis with path | ⟨before, -⟩
        · exact .inr ⟨path.to_reflTransGen, .refl⟩
        · exact .inr ⟨before, .refl⟩

/-- An edge whose target does not reach its source makes no cycle. -/
theorem insert
    (acyclic : Acyclic edge)
    {source target : Vertex}
    (more : ∀ first second, later first second →
      edge first second ∨ first = source ∧ second = target)
    (unreachable : ¬ ReflTransGen edge target source) :
    Acyclic later := by
  intro vertex cycle
  rcases transGen_insert more cycle with old | ⟨before, after⟩
  · exact acyclic vertex old
  · exact unreachable (after.trans before)

/-! ### Pieces -/

section Pieces

universe w

variable {Index : Type w} {piece : Index → Vertex → Vertex → Prop}
variable {shared : Vertex → Prop}

/-- A path from a shared vertex stays in one piece, when a piece has one shared
vertex and the other vertices belong to one piece each. -/
theorem exists_piece_of_shared
    (acyclic : ∀ index, Acyclic (piece index))
    (edges : ∀ first second, edge first second →
      ∃ index, piece index first second)
    (own : ∀ {index other first second third}, piece index first second →
      piece other second third → ¬ shared second → index = other)
    (single : ∀ {index first second third last}, piece index first second →
      piece index third last → shared first → shared last → first = last)
    {start last : Vertex} (isShared : shared start)
    (path : TransGen edge start last) :
    ∃ index, TransGen (piece index) start last := by
  induction path with
  | single step =>
      obtain ⟨index, step⟩ := edges _ _ step
      exact ⟨index, .single step⟩
  | @tail middle last _ step inductionHypothesis =>
      obtain ⟨index, path⟩ := inductionHypothesis
      obtain ⟨other, step⟩ := edges _ _ step
      obtain ⟨before, -, into⟩ := TransGen.tail'_iff.mp path
      obtain ⟨after, out, -⟩ := TransGen.head'_iff.mp path
      by_cases sharesMiddle : shared middle
      · obtain rfl := single out into isShared sharesMiddle
        exact absurd path (acyclic index _)
      · obtain rfl := own into step sharesMiddle
        exact ⟨index, path.tail step⟩

/-- A path stays in one piece or comes through a shared vertex. -/
theorem exists_piece_or_shared
    (edges : ∀ first second, edge first second →
      ∃ index, piece index first second)
    (own : ∀ {index other first second third}, piece index first second →
      piece other second third → ¬ shared second → index = other)
    {start last : Vertex} (path : TransGen edge start last) :
    (∃ index, TransGen (piece index) start last) ∨
      ∃ middle, shared middle ∧ TransGen edge start middle ∧
        ReflTransGen edge middle last := by
  induction path with
  | single step =>
      obtain ⟨index, step⟩ := edges _ _ step
      exact .inl ⟨index, .single step⟩
  | @tail middle last path step inductionHypothesis =>
      rcases inductionHypothesis with
        ⟨index, inside⟩ | ⟨earlier, isShared, before, after⟩
      · by_cases sharesMiddle : shared middle
        · exact .inr ⟨middle, sharesMiddle, path, .single step⟩
        · obtain ⟨other, step⟩ := edges _ _ step
          obtain ⟨before, -, into⟩ := TransGen.tail'_iff.mp inside
          obtain rfl := own into step sharesMiddle
          exact .inl ⟨index, inside.tail step⟩
      · exact .inr ⟨earlier, isShared, before, after.tail step⟩

/-- Acyclic pieces make no cycle, when a piece has one shared vertex and the other
vertices belong to one piece each. -/
theorem glue
    (acyclic : ∀ index, Acyclic (piece index))
    (edges : ∀ first second, edge first second →
      ∃ index, piece index first second)
    (own : ∀ {index other first second third}, piece index first second →
      piece other second third → ¬ shared second → index = other)
    (single : ∀ {index first second third last}, piece index first second →
      piece index third last → shared first → shared last → first = last) :
    Acyclic edge := by
  have atShared (vertex : Vertex) (isShared : shared vertex) :
      ¬ TransGen edge vertex vertex := by
    intro cycle
    obtain ⟨index, cycle⟩ :=
      exists_piece_of_shared acyclic edges own single isShared cycle
    exact acyclic index vertex cycle
  intro vertex cycle
  rcases exists_piece_or_shared edges own cycle with
    ⟨index, cycle⟩ | ⟨middle, isShared, before, after⟩
  · exact acyclic index vertex cycle
  · exact atShared middle isShared (.trans_right after before)

end Pieces

end Acyclic

/-! ## The search -/

/-- Whether the target is found, with a bound on the number of rounds; a round takes
the top of the stack and, when it is new, puts its children on the stack. -/
def search
    [DecidableEq Vertex]
    (children : Vertex → List Vertex) (target : Vertex) :
    Nat → List Vertex → List Vertex → Option Bool
  | _, [], _ => some false
  | 0, _ :: _, _ => none
  | rounds + 1, vertex :: stack, visited =>
      if vertex ∈ visited then search children target rounds stack visited
      else if vertex = target then some true
      else
        search children target rounds ((children vertex).reverse ++ stack)
          (vertex :: visited)

variable {children : Vertex → List Vertex} {start target : Vertex}

/-- The edges to the children. -/
def Edge (children : Vertex → List Vertex) (first second : Vertex) : Prop :=
  second ∈ children first

/-- How many children the vertices have that are not visited. -/
def unseen
    [DecidableEq Vertex]
    (children : Vertex → List Vertex) (vertices visited : List Vertex) : Nat :=
  ((vertices.filter (· ∉ visited)).map fun vertex =>
    (children vertex).length).sum

/-- A visit takes the children of a vertex away. -/
theorem unseen_visit
    [DecidableEq Vertex]
    {vertices visited : List Vertex} {vertex : Vertex}
    (member : vertex ∈ vertices) (new : vertex ∉ visited) :
    unseen children vertices (vertex :: visited) +
        (children vertex).length ≤
      unseen children vertices visited := by
  have fewer (rest : List Vertex) :
      unseen children rest (vertex :: visited) ≤
        unseen children rest visited := by
    refine List.Sublist.sum_le_sum (List.Sublist.map _ ?_)
      fun _ _ => Nat.zero_le _
    refine List.monotone_filter_right rest fun other => ?_
    simp only [List.mem_cons, not_or, decide_eq_true_eq]
    exact And.right
  induction vertices with
  | nil => cases member
  | cons head rest inductionHypothesis =>
      by_cases same : head = vertex
      · subst same
        have visits : unseen children (head :: rest) (head :: visited) =
            unseen children rest (head :: visited) := by
          simp [unseen]
        have before : unseen children (head :: rest) visited =
            (children head).length + unseen children rest visited := by
          simp [unseen, new]
        have := fewer rest
        omega
      · have inRest : vertex ∈ rest :=
          (List.mem_cons.mp member).resolve_left (Ne.symm same)
        have := inductionHypothesis inRest
        by_cases seen : head ∈ visited
        · have visits : unseen children (head :: rest) (vertex :: visited) =
              unseen children rest (vertex :: visited) := by
            simp [unseen, seen]
          have before : unseen children (head :: rest) visited =
              unseen children rest visited := by
            simp [unseen, seen]
          omega
        · have visits : unseen children (head :: rest) (vertex :: visited) =
              (children head).length +
                unseen children rest (vertex :: visited) := by
            simp [unseen, seen, same]
          have before : unseen children (head :: rest) visited =
              (children head).length + unseen children rest visited := by
            simp [unseen, seen]
          omega

/-- Where a search stands that has not found its target. -/
structure Searching
    (children : Vertex → List Vertex) (vertices : List Vertex)
    (start target : Vertex) (stack visited : List Vertex) : Prop where
  reached : ∀ vertex ∈ stack, ReflTransGen (Edge children) start vertex
  inside : ∀ vertex ∈ stack, vertex ∈ vertices
  closed : ∀ vertex ∈ visited, ∀ child ∈ children vertex,
    child ∈ visited ∨ child ∈ stack
  started : start ∈ visited ∨ start ∈ stack
  missed : target ∉ visited

namespace Searching

variable {vertices stack visited : List Vertex} {vertex : Vertex}

/-- With an empty stack, everything reachable has been visited. -/
theorem mem_visited
    (searching : Searching children vertices start target [] visited)
    (path : ReflTransGen (Edge children) start vertex) :
    vertex ∈ visited := by
  induction path with
  | refl => exact searching.started.resolve_right List.not_mem_nil
  | tail _ edge inductionHypothesis =>
      exact (searching.closed _ inductionHypothesis _ edge).resolve_right
        List.not_mem_nil

/-- A vertex that is taken from the stack has been visited before. -/
theorem skip
    (searching :
      Searching children vertices start target (vertex :: stack) visited)
    (seen : vertex ∈ visited) :
    Searching children vertices start target stack visited where
  reached other member := searching.reached other (List.mem_cons_of_mem _ member)
  inside other member := searching.inside other (List.mem_cons_of_mem _ member)
  closed other member child edge := by
    rcases searching.closed other member child edge with old | waits
    · exact .inl old
    · rcases List.mem_cons.mp waits with rfl | later
      · exact .inl seen
      · exact .inr later
  started := by
    rcases searching.started with old | waits
    · exact .inl old
    · rcases List.mem_cons.mp waits with rfl | later
      · exact .inl seen
      · exact .inr later
  missed := searching.missed

/-- A vertex that is taken from the stack is visited. -/
theorem visit
    (searching :
      Searching children vertices start target (vertex :: stack) visited)
    (closed : ∀ vertex ∈ vertices, ∀ child ∈ children vertex,
      child ∈ vertices)
    (missed : vertex ≠ target) :
    Searching children vertices start target
      ((children vertex).reverse ++ stack) (vertex :: visited) := by
  have reached := searching.reached vertex List.mem_cons_self
  have inside := searching.inside vertex List.mem_cons_self
  have moves (other : Vertex) (waits : other ∈ vertex :: stack) :
      other ∈ vertex :: visited ∨
        other ∈ (children vertex).reverse ++ stack := by
    rcases List.mem_cons.mp waits with rfl | later
    · exact .inl List.mem_cons_self
    · exact .inr (List.mem_append_right _ later)
  exact
    { reached := by
        intro other member
        rcases List.mem_append.mp member with child | waits
        · exact reached.tail (List.mem_reverse.mp child)
        · exact searching.reached other (List.mem_cons_of_mem _ waits)
      inside := by
        intro other member
        rcases List.mem_append.mp member with child | waits
        · exact closed vertex inside other (List.mem_reverse.mp child)
        · exact searching.inside other (List.mem_cons_of_mem _ waits)
      closed := by
        intro other member child edge
        rcases List.mem_cons.mp member with rfl | old
        · exact .inr (List.mem_append_left _ (List.mem_reverse.mpr edge))
        · rcases searching.closed other old child edge with seen | waits
          · exact .inl (List.mem_cons_of_mem _ seen)
          · exact moves child waits
      started := by
        rcases searching.started with seen | waits
        · exact .inl (List.mem_cons_of_mem _ seen)
        · exact moves start waits
      missed := by
        intro member
        rcases List.mem_cons.mp member with rfl | old
        · exact missed rfl
        · exact searching.missed old }

/-- With enough rounds, the search finds the target if and only if it can be
reached. -/
theorem search_iff
    [DecidableEq Vertex]
    (searching : Searching children vertices start target stack visited)
    (closed : ∀ vertex ∈ vertices, ∀ child ∈ children vertex,
      child ∈ vertices)
    {rounds : Nat}
    (enough : stack.length + unseen children vertices visited ≤ rounds) :
    ∃ found, search children target rounds stack visited = some found ∧
      (found = true ↔ ReflTransGen (Edge children) start target) := by
  induction rounds generalizing stack visited with
  | zero =>
      obtain rfl : stack = [] := List.length_eq_zero_iff.mp (by omega)
      refine ⟨false, by rw [search], iff_of_false nofun fun path => ?_⟩
      exact searching.missed (searching.mem_visited path)
  | succ rounds inductionHypothesis =>
      cases stack with
      | nil =>
          refine ⟨false, by rw [search], iff_of_false nofun fun path => ?_⟩
          exact searching.missed (searching.mem_visited path)
      | cons vertex stack =>
          rw [search]
          rw [List.length_cons] at enough
          by_cases seen : vertex ∈ visited
          · rw [if_pos seen]
            exact inductionHypothesis (searching.skip seen) (by omega)
          · rw [if_neg seen]
            by_cases isTarget : vertex = target
            · rw [if_pos isTarget]
              refine ⟨true, rfl, iff_of_true rfl ?_⟩
              exact isTarget ▸ searching.reached vertex List.mem_cons_self
            · rw [if_neg isTarget]
              have visits : unseen children vertices (vertex :: visited) +
                  (children vertex).length ≤
                    unseen children vertices visited :=
                unseen_visit (searching.inside vertex List.mem_cons_self) seen
              refine inductionHypothesis (searching.visit closed isTarget) ?_
              rw [List.length_append, List.length_reverse]
              omega

end Searching

/-- A search from one vertex, with a round for each vertex that can come to the
stack. -/
theorem search_start_iff
    [DecidableEq Vertex]
    {vertices : List Vertex}
    (closed : ∀ vertex ∈ vertices, ∀ child ∈ children vertex,
      child ∈ vertices)
    (inside : start ∈ vertices) :
    ∃ found,
      search children target (1 + unseen children vertices []) [start] [] =
          some found ∧
        (found = true ↔ ReflTransGen (Edge children) start target) := by
  have searching : Searching children vertices start target [start] [] :=
    { reached := fun _ member => by
        rw [List.mem_singleton.mp member]
      inside := fun _ member => by
        rwa [List.mem_singleton.mp member]
      closed := fun _ member => nomatch member
      started := .inr (List.mem_singleton_self start)
      missed := List.not_mem_nil }
  exact searching.search_iff closed (Nat.le_refl _)

end GraphSearch
