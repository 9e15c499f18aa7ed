import Mathlib.Algebra.BigOperators.Group.List.Basic
import Mathlib.Algebra.GroupWithZero.Nat
import Mathlib.Data.List.Nodup
import ClassAtlas.Proofs.Graph

/-!
# What is read from a graph

A graph is asked whether it has an edge, for the targets of one kind of edges, for all kinds of
edges that leave a type, for all edges, and for their numbers.  When its edges ascend and come with
their inverses, all answers tell of the same edges (`tells_of_ascending`).

Adding edges one after the other keeps both conditions, whatever is added: a type may stand in a
relation to itself, and an edge may be added again, or again through its inverse.  So the answers
tell of the edges that were added and of their inverses, and neither the order nor the repetition of
the additions is to be seen (`built_tells`).
-/

set_option autoImplicit false

namespace ClassAtlas

namespace RelationKind

theorem pairwise_all : all.Pairwise fun first second => first.rank < second.rank := by
  decide

/-- What is listed for all kinds is listed in their order. -/
theorem pairwise_map_all {α : Type} (content : RelationKind → α) :
    (all.map fun kind => (kind, content kind)).Pairwise fun first second =>
      first.1.rank < second.1.rank :=
  List.pairwise_map.2 pairwise_all

/-- Each kind is one of all kinds exactly once. -/
theorem sum_all_eq_one (kind : RelationKind) :
    (all.map fun other => if kind = other then 1 else 0).sum = 1 := by
  cases kind <;> decide

end RelationKind

namespace Graph

/-- All answers of a graph tell of the same edges, those that a relation holds of. -/
structure Tells (graph : Graph) (holds : Nat → RelationKind → Nat → Prop) : Prop where
  /-- The graph has an edge exactly when the relation holds. -/
  has_iff : ∀ source kind target, graph.has source kind target = true ↔ holds source kind target
  /-- An edge and its inverse are both there or both absent. -/
  has_inverse : ∀ source kind target,
    graph.has target kind.inverse source = graph.has source kind target
  /-- Targets are listed in strictly ascending order. -/
  relation_ascends : ∀ kind source, (graph.relation kind source).Pairwise (· < ·)
  /-- Targets are those of the edges of the graph. -/
  mem_relation_iff : ∀ kind source target,
    target ∈ graph.relation kind source ↔ graph.has source kind target = true
  /-- The kinds of edges that leave a type are listed in their order, each once. -/
  relationsOf_ascends : ∀ source,
    (graph.relationsOf source).Pairwise fun first second => first.1.rank < second.1.rank
  /-- The kinds are those with a target, and come with their targets. -/
  mem_relationsOf_iff : ∀ source kind targets, (kind, targets) ∈ graph.relationsOf source ↔
    targets = graph.relation kind source ∧ targets ≠ []
  /-- No edge is listed twice. -/
  triples_nodup : graph.triples.Nodup
  /-- The edges that are listed are those of the graph. -/
  mem_triples_iff : ∀ source kind target,
    (kind, source, target) ∈ graph.triples ↔ graph.has source kind target = true
  /-- The kinds that are counted come in their order, each once. -/
  counts_ascends : graph.counts.Pairwise fun first second => first.1.rank < second.1.rank
  /-- What is counted for a kind is the number of its edges; kinds without edges are left out. -/
  mem_counts_iff : ∀ kind number, (kind, number) ∈ graph.counts ↔
    number = graph.triples.countP (fun triple => triple.1 = kind) ∧ number ≠ 0
  /-- A kind and its inverse have the same number. -/
  counts_inverse : ∀ kind number,
    (kind.inverse, number) ∈ graph.counts ↔ (kind, number) ∈ graph.counts
  /-- The number of all edges is the number of those that are listed. -/
  edgeCount_eq : graph.edgeCount = graph.triples.length
  /-- It is the sum of the numbers of all kinds. -/
  sum_counts : (graph.counts.map Prod.snd).sum = graph.edgeCount

/-! ## Edges of a type -/

section

variable {graph : Graph} {source target : Nat} {kind : RelationKind}

/-- The targets of a kind of edges that leave a type, found among the edges that leave it. -/
theorem relation_leaving (graph : Graph) (kind : RelationKind) (source : Nat) :
    Graph.relation ⟨graph.edges.filter fun edge => edge.source == source⟩ kind source =
      graph.relation kind source := by
  rw [relation, relation, List.filter_filter]
  congr 2
  funext edge
  rw [Bool.and_assoc, Bool.and_self]

theorem mem_relationsOf_iff {targets : List Nat} : (kind, targets) ∈ graph.relationsOf source ↔
    targets = graph.relation kind source ∧ targets ≠ [] := by
  simp only [relationsOf, relation_leaving, List.mem_filter, List.mem_map, Prod.mk.injEq,
    Bool.not_eq_true', List.isEmpty_eq_false_iff]
  constructor
  · rintro ⟨⟨_, -, rfl, same⟩, some⟩
    exact ⟨same.symm, some⟩
  · rintro ⟨same, some⟩
    exact ⟨⟨kind, kind.mem_all, rfl, same.symm⟩, some⟩

theorem relationsOf_ascends (graph : Graph) (source : Nat) :
    (graph.relationsOf source).Pairwise fun first second => first.1.rank < second.1.rank := by
  rw [relationsOf]
  exact (RelationKind.pairwise_map_all _).filter _

/-! ## All edges -/

theorem mem_triples_iff :
    (kind, source, target) ∈ graph.triples ↔ graph.has source kind target = true := by
  rw [has_iff, triples, List.mem_map]
  constructor
  · rintro ⟨⟨_, _, _⟩, listed, same⟩
    cases same
    exact listed
  · exact fun listed => ⟨_, listed, rfl⟩

theorem nodup_triples (ascending : Ascending graph.edges) : graph.triples.Nodup := by
  refine List.Nodup.map ?_ ascending.nodup
  rintro ⟨_, _, _⟩ ⟨_, _, _⟩ same
  cases same
  rfl

/-! ## Numbers of edges -/

theorem count_eq_countP (graph : Graph) (kind : RelationKind) :
    graph.count kind = graph.triples.countP fun triple => triple.1 = kind := by
  rw [count, triples, List.countP_map, List.countP_eq_length_filter]
  rfl

theorem mem_counts_iff {number : Nat} :
    (kind, number) ∈ graph.counts ↔ number = graph.count kind ∧ number ≠ 0 := by
  simp only [counts, List.mem_filter, List.mem_map, Prod.mk.injEq, decide_eq_true_eq]
  constructor
  · rintro ⟨⟨_, -, rfl, same⟩, some⟩
    exact ⟨same.symm, some⟩
  · rintro ⟨same, some⟩
    exact ⟨⟨kind, kind.mem_all, rfl, same.symm⟩, some⟩

theorem counts_ascends (graph : Graph) :
    graph.counts.Pairwise fun first second => first.1.rank < second.1.rank := by
  rw [counts]
  exact (RelationKind.pairwise_map_all _).filter _

/-- Turning the edges of a kind gives the edges of the inverse kind, so there are as many. -/
theorem count_inverse (ascending : Ascending graph.edges)
    (closed : ∀ edge ∈ graph.edges, edge.inverse ∈ graph.edges) (kind : RelationKind) :
    graph.count kind.inverse = graph.count kind := by
  have turned : ((graph.edges.filter fun edge => edge.kind == kind).map Edge.inverse).Perm
      (graph.edges.filter fun edge => edge.kind == kind.inverse) := by
    have injective : Function.Injective Edge.inverse := fun left right same => by
      rw [← left.inverse_inverse, same, right.inverse_inverse]
    refine (List.perm_ext_iff_of_nodup (.map injective (ascending.nodup.filter _))
      (ascending.nodup.filter _)).2 fun edge => ?_
    simp only [List.mem_map, List.mem_filter, beq_iff_eq]
    constructor
    · rintro ⟨other, ⟨listed, rfl⟩, rfl⟩
      exact ⟨closed other listed, rfl⟩
    · rintro ⟨listed, same⟩
      refine ⟨edge.inverse, ⟨closed edge listed, ?_⟩, edge.inverse_inverse⟩
      rw [Edge.inverse, same, RelationKind.inverse_inverse]
  rw [count, ← turned.length_eq, List.length_map, count]

/-- The numbers of all kinds add up to the number of edges: each edge is of one kind. -/
theorem sum_count (graph : Graph) : (RelationKind.all.map graph.count).sum = graph.edgeCount := by
  obtain ⟨edges⟩ := graph
  induction edges with
  | nil => decide
  | cons edge rest ih =>
    have counted : (count ⟨edge :: rest⟩) = fun kind =>
        (if edge.kind = kind then 1 else 0) + count ⟨rest⟩ kind := by
      funext kind
      by_cases same : edge.kind = kind
      · simp [count, same, Nat.add_comm]
      · simp [count, same]
    rw [counted, List.sum_map_add, RelationKind.sum_all_eq_one, ih, Nat.add_comm]
    rfl

/-- Kinds without edges add nothing. -/
theorem sum_counts (graph : Graph) : (graph.counts.map Prod.snd).sum = graph.edgeCount := by
  have dropped : ∀ pairs : List (RelationKind × Nat),
      ((pairs.filter fun pair => pair.2 ≠ 0).map Prod.snd).sum = (pairs.map Prod.snd).sum := by
    intro pairs
    induction pairs with
    | nil => rfl
    | cons pair rest ih =>
      by_cases none : pair.2 = 0
      · simpa [none] using ih
      · simpa [none] using ih
  rw [counts, dropped, List.map_map, ← sum_count]
  rfl

end

/-! ## All answers -/

/-- **When the edges of a graph ascend and come with their inverses, all answers tell of the same
edges.** -/
theorem tells_of_ascending {graph : Graph} (ascending : Ascending graph.edges)
    (closed : ∀ edge ∈ graph.edges, edge.inverse ∈ graph.edges) :
    graph.Tells fun source kind target => ⟨kind, source, target⟩ ∈ graph.edges where
  has_iff source kind target := graph.has_iff source target kind
  has_inverse source kind target := by
    refine Bool.eq_iff_iff.2 ?_
    rw [graph.has_iff, graph.has_iff]
    refine ⟨fun listed => ?_, closed _⟩
    have back := closed _ listed
    rwa [Edge.inverse, RelationKind.inverse_inverse] at back
  relation_ascends := pairwise_relation ascending
  mem_relation_iff kind source target := graph.mem_relation_iff kind source target
  relationsOf_ascends := graph.relationsOf_ascends
  mem_relationsOf_iff _ _ _ := Graph.mem_relationsOf_iff
  triples_nodup := nodup_triples ascending
  mem_triples_iff _ _ _ := Graph.mem_triples_iff
  counts_ascends := graph.counts_ascends
  mem_counts_iff kind number := by rw [Graph.mem_counts_iff, count_eq_countP]
  counts_inverse kind number := by
    rw [Graph.mem_counts_iff, Graph.mem_counts_iff, count_inverse ascending closed]
  edgeCount_eq := by rw [edgeCount, triples, List.length_map]
  sum_counts := graph.sum_counts

/-- The edges of a graph that is built come with their inverses. -/
theorem inverse_mem_built (added : List Edge) :
    ∀ edge ∈ (built added).edges, edge.inverse ∈ (built added).edges := by
  intro edge listed
  rw [mem_built_iff] at listed ⊢
  rw [edge.inverse_inverse]
  exact listed.symm

/-- **Whatever edges are added to no edges, all answers of the graph tell of the added edges and
their inverses**, and the order and the repetition of the additions do not matter. -/
theorem built_tells (added : List Edge) :
    ((built added).Tells fun source kind target =>
      ⟨kind, source, target⟩ ∈ added ∨ ⟨kind.inverse, target, source⟩ ∈ added) ∧
    ∀ again : List Edge, (∀ edge, edge ∈ again ↔ edge ∈ added) → built again = built added := by
  constructor
  · have tells := tells_of_ascending (pairwise_built added) (inverse_mem_built added)
    refine { tells with has_iff := fun source kind target => ?_ }
    exact (tells.has_iff source kind target).trans (mem_built_iff added _)
  · intro again same
    have edges : (built again).edges = (built added).edges := by
      refine (pairwise_built again).eq_of_mem_iff (pairwise_built added) fun edge => ?_
      rw [mem_built_iff, mem_built_iff, same, same]
    exact congrArg Graph.mk edges

/-- A relation of a type to itself and one that is added twice, the second time from its target, in
two orders. -/
theorem built_tells_selfEdge :
    (built [⟨.subclass, 2, 1⟩, ⟨.references, 1, 1⟩, ⟨.superClass, 1, 2⟩,
        ⟨.references, 1, 1⟩]).counts =
        [(.superClass, 1), (.subclass, 1), (.references, 1), (.referencedBy, 1)] ∧
      built [⟨.references, 1, 1⟩, ⟨.superClass, 1, 2⟩, ⟨.subclass, 2, 1⟩] =
        built [⟨.subclass, 2, 1⟩, ⟨.references, 1, 1⟩, ⟨.superClass, 1, 2⟩, ⟨.references, 1, 1⟩] :=
  ⟨by decide, (built_tells _).2 _ (by simp; tauto)⟩

end Graph

end ClassAtlas
