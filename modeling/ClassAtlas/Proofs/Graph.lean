import Mathlib.Data.List.Induction
import Mathlib.Tactic.Tauto
import ClassAtlas.Index.Facts

/-!
# Edges of a graph

A graph is built from loose edges by merging ascending lists, and what is in it does not depend on
how they are merged: an edge is in the graph when it is among the loose ones (`mem_ofEdges_iff`),
and a graph of relations holds an edge when the edge or its inverse was given
(`has_ofRelations_iff`).

There are as many rounds of merging as there are edges, more than enough to end with one list.  So
the edges of such a graph are in strictly ascending order (`pairwise_ofEdges`), and so are the
targets of each kind and source (`pairwise_relation`).  Ascending edges are determined by what is
among them (`Ascending.eq_of_mem_iff`), so merging gives the graph that adding the edges one by one
gives (`ofRelations_eq_built`).
-/

set_option autoImplicit false

namespace ClassAtlas

@[simp] theorem Edge.inverse_inverse (edge : Edge) : edge.inverse.inverse = edge := by
  cases edge
  simp [Edge.inverse, RelationKind.inverse_inverse]

namespace Graph

theorem mem_mergeEdges_iff (edge : Edge) (left right : List Edge) :
    edge ∈ mergeEdges left right ↔ edge ∈ left ∨ edge ∈ right := by
  fun_induction mergeEdges left right with
  | case1 right => simp
  | case2 left nonempty => simp
  | case3 first left second right earlier ih =>
    rw [List.mem_cons, ih, List.mem_cons (l := left), or_assoc]
  | case4 first left right earlier ih =>
    rw [List.mem_cons, ih, List.mem_cons, List.mem_cons, or_or_distrib_left]
  | case5 first left second right earlier different ih =>
    rw [List.mem_cons, ih, List.mem_cons (l := right), or_left_comm]

theorem mem_mergePairs_iff (edge : Edge) (lists : List (List Edge)) :
    edge ∈ (mergePairs lists).flatten ↔ edge ∈ lists.flatten := by
  fun_induction mergePairs lists with
  | case1 first second rest ih =>
    rw [List.flatten_cons, List.mem_append, mem_mergeEdges_iff, ih, List.flatten_cons,
      List.flatten_cons, List.mem_append, List.mem_append, or_assoc]
  | case2 short _ => rfl

/-- Merging loses no edge and makes up none, however many rounds there are. -/
theorem mem_mergeAll_iff (edge : Edge) (rounds : Nat) (lists : List (List Edge)) :
    edge ∈ mergeAll rounds lists ↔ edge ∈ lists.flatten := by
  fun_induction mergeAll rounds lists with
  | case1 lists => rfl
  | case2 rounds _ => simp
  | case3 rounds only _ => simp
  | case4 rounds lists _ _ ih => rw [ih, mem_mergePairs_iff]

theorem mem_ofEdges_iff (edge : Edge) (edges : List Edge) :
    edge ∈ (ofEdges edges).edges ↔ edge ∈ edges := by
  rw [ofEdges, mem_mergeAll_iff, ← List.flatMap_def, List.flatMap_singleton']

theorem has_iff (graph : Graph) (source target : Nat) (kind : RelationKind) :
    graph.has source kind target = true ↔ ⟨kind, source, target⟩ ∈ graph.edges := by
  simp [has]

/-- A graph of relations holds those that were given, and their inverses. -/
theorem has_ofRelations_iff (edges : List Edge) (source target : Nat) (kind : RelationKind) :
    (ofRelations edges).has source kind target = true ↔
      ⟨kind, source, target⟩ ∈ edges ∨ ⟨kind.inverse, target, source⟩ ∈ edges := by
  rw [has_iff, ofRelations, mem_ofEdges_iff, List.mem_flatMap]
  constructor
  · rintro ⟨edge, given, member⟩
    rcases List.mem_cons.1 member with rfl | turned
    · exact .inl given
    · refine .inr ?_
      rw [List.mem_singleton] at turned
      have same : edge = ⟨kind.inverse, target, source⟩ := by
        rw [← edge.inverse_inverse, ← turned]
        rfl
      exact same ▸ given
  · rintro (given | given)
    · exact ⟨_, given, List.mem_cons_self⟩
    · refine ⟨_, given, ?_⟩
      simp [Edge.inverse, RelationKind.inverse_inverse]

theorem mem_relation_iff (graph : Graph) (kind : RelationKind) (source target : Nat) :
    target ∈ graph.relation kind source ↔ graph.has source kind target = true := by
  rw [has_iff, relation, List.mem_map]
  constructor
  · rintro ⟨⟨edgeKind, edgeSource, edgeTarget⟩, member, rfl⟩
    obtain ⟨listed, same⟩ := List.mem_filter.1 member
    obtain ⟨rfl, rfl⟩ : edgeKind = kind ∧ edgeSource = source := by simpa using same
    exact listed
  · intro listed
    exact ⟨_, List.mem_filter.2 ⟨listed, by simp⟩, rfl⟩

theorem mem_dropRepeats_iff (id : Nat) (ids : List Nat) :
    id ∈ dropRepeats ids ↔ id ∈ ids := by
  fun_induction dropRepeats ids with
  | case1 first rest ih => simp [ih]
  | case2 first second rest different ih => rw [List.mem_cons, ih, ← List.mem_cons]
  | case3 short _ => rfl

end Graph

/-! ## The order of edges -/

theorem RelationKind.mem_all (kind : RelationKind) : kind ∈ all := by
  cases kind <;> decide

/-- Kinds are told apart by their place in the order of kinds. -/
theorem RelationKind.rank_injective : Function.Injective rank := by
  have placed : ∀ kind : RelationKind, all[kind.rank]? = some kind := by
    intro kind
    cases kind <;> rfl
  intro left right same
  exact Option.some.inj ((placed left).symm.trans (same ▸ placed right))

namespace Edge

variable {first second third : Edge}

theorem before_iff : first.before second = true ↔
    first.kind.rank < second.kind.rank ∨ first.kind.rank = second.kind.rank ∧
      (first.source < second.source ∨
        first.source = second.source ∧ first.target < second.target) := by
  simp [before]

theorem before_trans (left : first.before second = true) (right : second.before third = true) :
    first.before third = true := by
  rw [before_iff] at *
  omega

theorem before_of_not_before (later : ¬first.before second = true) (different : first ≠ second) :
    second.before first = true := by
  rw [before_iff] at *
  have apart : ¬(first.kind.rank = second.kind.rank ∧ first.source = second.source ∧
      first.target = second.target) := by
    rintro ⟨rank, source, target⟩
    have kind := RelationKind.rank_injective rank
    cases first
    cases second
    simp_all
  omega

end Edge

namespace Graph

/-- Edges in strictly ascending order. -/
def Ascending (edges : List Edge) : Prop :=
  edges.Pairwise fun first second => first.before second = true

/-- An edge that is before the first edge of an ascending list is before all of them. -/
theorem Ascending.before_all {edge first : Edge} {rest : List Edge}
    (ascending : Ascending (first :: rest)) (earlier : edge.before first = true) :
    ∀ other ∈ first :: rest, edge.before other = true :=
  List.forall_mem_cons.2 ⟨earlier, fun other member =>
    Edge.before_trans earlier ((List.pairwise_cons.1 ascending).1 other member)⟩

/-- Two ascending lists are merged into an ascending one. -/
theorem pairwise_mergeEdges {left right : List Edge} (leftAscending : Ascending left)
    (rightAscending : Ascending right) : Ascending (mergeEdges left right) := by
  fun_induction mergeEdges left right with
  | case1 right => exact rightAscending
  | case2 left nonempty => exact leftAscending
  | case3 first left second right earlier ih =>
    obtain ⟨above, rest⟩ := List.pairwise_cons.1 leftAscending
    refine List.pairwise_cons.2 ⟨fun edge member => ?_, ih rest rightAscending⟩
    rcases (mem_mergeEdges_iff _ _ _).1 member with member | member
    · exact above edge member
    · exact rightAscending.before_all earlier edge member
  | case4 first left right earlier ih =>
    obtain ⟨leftAbove, leftRest⟩ := List.pairwise_cons.1 leftAscending
    obtain ⟨rightAbove, rightRest⟩ := List.pairwise_cons.1 rightAscending
    refine List.pairwise_cons.2 ⟨fun edge member => ?_, ih leftRest rightRest⟩
    rcases (mem_mergeEdges_iff _ _ _).1 member with member | member
    · exact leftAbove edge member
    · exact rightAbove edge member
  | case5 first left second right later different ih =>
    obtain ⟨above, rest⟩ := List.pairwise_cons.1 rightAscending
    refine List.pairwise_cons.2 ⟨fun edge member => ?_, ih leftAscending rest⟩
    rcases (mem_mergeEdges_iff _ _ _).1 member with member | member
    · exact leftAscending.before_all (Edge.before_of_not_before later different) edge member
    · exact above edge member

theorem pairwise_mergePairs {lists : List (List Edge)}
    (ascending : ∀ list ∈ lists, Ascending list) :
    ∀ list ∈ mergePairs lists, Ascending list := by
  fun_induction mergePairs lists with
  | case1 first second rest ih =>
    obtain ⟨firstAscending, others⟩ := List.forall_mem_cons.1 ascending
    obtain ⟨secondAscending, others⟩ := List.forall_mem_cons.1 others
    exact List.forall_mem_cons.2
      ⟨pairwise_mergeEdges firstAscending secondAscending, ih others⟩
  | case2 short _ => exact ascending

theorem length_mergePairs (lists : List (List Edge)) :
    (mergePairs lists).length = (lists.length + 1) / 2 := by
  fun_induction mergePairs lists with
  | case1 first second rest ih =>
    simp only [List.length_cons, ih]
    omega
  | case2 short few =>
    match short, few with
    | [], _ => rfl
    | [_], _ => simp
    | first :: second :: rest, few => exact absurd rfl (few first second rest)

/-- A round of merging halves the number of lists, so as many rounds as there are lists, less one,
end with one list. -/
theorem pairwise_mergeAll {rounds : Nat} {lists : List (List Edge)}
    (enough : lists.length ≤ rounds + 1) (ascending : ∀ list ∈ lists, Ascending list) :
    Ascending (mergeAll rounds lists) := by
  fun_induction mergeAll rounds lists with
  | case1 lists =>
    match lists, enough with
    | [], _ => exact .nil
    | [only], _ => simpa using ascending
  | case2 rounds _ => exact .nil
  | case3 rounds only _ => exact ascending only List.mem_cons_self
  | case4 rounds lists nonempty several ih =>
    refine ih ?_ (pairwise_mergePairs ascending)
    rw [length_mergePairs]
    omega

theorem pairwise_ofEdges (edges : List Edge) : Ascending (ofEdges edges).edges := by
  refine pairwise_mergeAll (by simp) fun list member => ?_
  obtain ⟨edge, _, rfl⟩ := List.mem_map.1 member
  exact List.pairwise_singleton _ edge

/-- **The targets of a kind are listed in ascending order, each once.** -/
theorem pairwise_relation {graph : Graph} (ascending : Ascending graph.edges) (kind : RelationKind)
    (source : Nat) : (graph.relation kind source).Pairwise (· < ·) := by
  rw [relation, List.pairwise_map]
  refine (ascending.filter _).imp_of_mem fun {first second} left right earlier => ?_
  obtain ⟨sameKind, sameSource⟩ : first.kind = kind ∧ first.source = source := by
    simpa using (List.mem_filter.1 left).2
  obtain ⟨sameKind', sameSource'⟩ : second.kind = kind ∧ second.source = source := by
    simpa using (List.mem_filter.1 right).2
  rw [Edge.before_iff, sameKind, sameKind', sameSource, sameSource'] at earlier
  omega

theorem Ascending.nodup {edges : List Edge} (ascending : Ascending edges) : edges.Nodup := by
  refine ascending.imp fun {first second} earlier equal => ?_
  rw [equal, Edge.before_iff] at earlier
  omega

/-- Ascending edges are determined by what is among them. -/
theorem Ascending.eq_of_mem_iff {left right : List Edge} (leftAscending : Ascending left)
    (rightAscending : Ascending right) (same : ∀ edge, edge ∈ left ↔ edge ∈ right) :
    left = right := by
  refine ((List.perm_ext_iff_of_nodup leftAscending.nodup rightAscending.nodup).2
    same).eq_of_pairwise (fun first second _ _ before after => ?_) leftAscending rightAscending
  rw [Edge.before_iff] at before after
  omega

/-! ## Graphs built edge by edge -/

theorem mem_insertEdge_iff (edge other : Edge) (edges : List Edge) :
    other ∈ insertEdge edge edges ↔ other = edge ∨ other ∈ edges := by
  fun_induction insertEdge edge edges with
  | case1 => simp
  | case2 first rest earlier => exact List.mem_cons
  | case3 rest later => simp
  | case4 first rest later different ih => rw [List.mem_cons, ih, List.mem_cons, or_left_comm]

theorem pairwise_insertEdge (edge : Edge) {edges : List Edge} (ascending : Ascending edges) :
    Ascending (insertEdge edge edges) := by
  fun_induction insertEdge edge edges with
  | case1 => exact List.pairwise_singleton _ edge
  | case2 first rest earlier => exact List.pairwise_cons.2 ⟨ascending.before_all earlier, ascending⟩
  | case3 rest later => exact ascending
  | case4 first rest later different ih =>
    obtain ⟨above, ascendingRest⟩ := List.pairwise_cons.1 ascending
    refine List.pairwise_cons.2 ⟨fun other member => ?_, ih ascendingRest⟩
    rcases (mem_insertEdge_iff _ _ _).1 member with rfl | member
    · exact Edge.before_of_not_before later different
    · exact above other member

theorem mem_add_iff (graph : Graph) (added edge : Edge) :
    edge ∈ (graph.add added.source added.kind added.target).edges ↔
      edge = added ∨ edge.inverse = added ∨ edge ∈ graph.edges := by
  have turned : edge = added.inverse ↔ edge.inverse = added :=
    ⟨fun same => by rw [same, added.inverse_inverse],
      fun same => by rw [← same, edge.inverse_inverse]⟩
  rw [add, insert, mem_insertEdge_iff, insert, mem_insertEdge_iff, turned, or_left_comm]

/-- The graph that edges make when they are added to no edges, one after the other. -/
def built (added : List Edge) : Graph :=
  added.foldl (fun graph edge => graph.add edge.source edge.kind edge.target) empty

theorem built_concat (added : List Edge) (last : Edge) :
    built (added ++ [last]) = (built added).add last.source last.kind last.target := by
  simp [built]

theorem mem_built_iff (added : List Edge) (edge : Edge) :
    edge ∈ (built added).edges ↔ edge ∈ added ∨ edge.inverse ∈ added := by
  induction added using List.reverseRecOn with
  | nil => simp [built, empty]
  | append_singleton added last ih =>
    rw [built_concat, mem_add_iff, ih]
    simp only [List.mem_append, List.mem_singleton]
    tauto

theorem pairwise_built (added : List Edge) : Ascending (built added).edges := by
  induction added using List.reverseRecOn with
  | nil => exact .nil
  | append_singleton added last ih =>
    rw [built_concat]
    exact pairwise_insertEdge _ (pairwise_insertEdge _ ih)

/-- **Merging relations gives the graph that adding them one by one gives.** -/
theorem ofRelations_eq_built (edges : List Edge) : ofRelations edges = built edges := by
  have same : (ofRelations edges).edges = (built edges).edges := by
    refine (pairwise_ofEdges _).eq_of_mem_iff (pairwise_built edges) fun edge => ?_
    have held := has_ofRelations_iff edges edge.source edge.target edge.kind
    rw [has_iff] at held
    exact held.trans (mem_built_iff edges edge).symm
  exact congrArg Graph.mk same

end Graph

end ClassAtlas
