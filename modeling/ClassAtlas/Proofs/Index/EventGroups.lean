import ClassAtlas.Proofs.Index.Relations
import ClassAtlas.Proofs.Inheritance
import ClassAtlas.Proofs.Lookup

/-!
# The views of inheritance agree

What lies above a type is told in three ways: by the walk over the records, by the relations of the
graph of an index, and by its event groups.  The graph is built from the hierarchy that was read
once, and the groups from two relations of the graph.

An event group is its base followed by what inherits from it: a type that applies the base to
arguments inherits from it already, so the second relation adds nothing (`eventGroup_eq`).  A base
is looked up once, and stands for the same type whenever it is looked up later
(`eventGroups_eq_ok`).  Together the three ways agree on every snapshot that can be indexed
(`index_views_agree`).
-/

set_option autoImplicit false

namespace ClassAtlas

open Relation (ReflTransGen)

namespace Hierarchy

theorem unmet_of_met {met ids : List Nat} (known : ∀ id ∈ ids, id ∈ met) : unmet met ids = [] := by
  refine List.eq_nil_iff_forall_not_mem.2 fun id member => ?_
  obtain ⟨listed, new⟩ := mem_unmet_iff.1 member
  exact new (known id listed)

/-- Ids that are new and differ from each other are all kept. -/
theorem unmet_append {met fresh ids : List Nat} (distinct : fresh.Nodup)
    (new : ∀ id ∈ fresh, id ∉ met) :
    unmet met (fresh ++ ids) = fresh ++ unmet (fresh.reverse ++ met) ids := by
  induction fresh generalizing met with
  | nil => rfl
  | cons first rest ih =>
    obtain ⟨once, distinct⟩ := List.nodup_cons.1 distinct
    obtain ⟨firstNew, restNew⟩ := List.forall_mem_cons.1 new
    have onward : ∀ id ∈ rest, id ∉ first :: met := by
      intro id member known
      rcases List.mem_cons.1 known with rfl | known
      · exact once member
      · exact restNew id member known
    rw [List.cons_append, unmet, if_neg (by simpa using firstNew), ih distinct onward]
    simp

end Hierarchy

/-! ## Groups -/

namespace Graph

variable {graph : Graph} {base : Nat}

/-- **A group is its base and what inherits from it**, when every application of the base does. -/
theorem eventGroup_eq (ascending : Ascending graph.edges)
    (other : graph.has base .inheritedBy base = false)
    (variants : ∀ target, graph.has base .parameterizedVariant target = true →
      target = base ∨ graph.has base .inheritedBy target = true) :
    graph.eventGroup base = base :: graph.relation .inheritedBy base := by
  have distinct : (graph.relation .inheritedBy base).Nodup :=
    (pairwise_relation ascending _ _).imp Nat.ne_of_lt
  rw [eventGroup, Hierarchy.unmet_append distinct, Hierarchy.unmet_of_met, List.append_nil]
  · intro target member
    rw [List.mem_append, List.mem_reverse, List.mem_singleton, mem_relation_iff]
    exact (variants target ((mem_relation_iff _ _ _ _).1 member)).symm
  · intro target member same
    rw [List.mem_singleton.1 same, mem_relation_iff, other] at member
    cases member

end Graph

theorem lookup_putGroup (name other : String) (group : List Nat)
    (groups : List (String × List Nat)) :
    (putGroup name group groups).lookup other =
      if other = name then some group else groups.lookup other := by
  induction groups with
  | nil =>
    rw [putGroup, List.lookup_cons, List.lookup_nil]
    by_cases same : other = name
    · rw [if_pos same, beq_iff_eq.2 same]
    · rw [if_neg same, beq_eq_false_iff_ne.2 same]
  | cons entry rest ih =>
    obtain ⟨first, members⟩ := entry
    rw [putGroup]
    by_cases same : other = name
    · subst same
      rw [if_pos rfl] at ih ⊢
      split
      · exact List.lookup_cons_self
      · split
        · exact List.lookup_cons_self
        · next different => rw [List.lookup_cons, beq_eq_false_iff_ne.2 different, ih]
    · rw [if_neg same] at ih ⊢
      split
      · rw [List.lookup_cons, beq_eq_false_iff_ne.2 same]
      · split
        · next here =>
          subst here
          rw [List.lookup_cons, List.lookup_cons, beq_eq_false_iff_ne.2 same]
        · rw [List.lookup_cons, List.lookup_cons, ih]

namespace Atlas

variable {atlas : Atlas} {graph : Graph} {before after : Memory}

/-- One base: it is looked up, and has a group when it is found. -/
theorem eventGroups_cons (base : String) (rest : List String)
    (groups : List (String × List Nat)) :
    atlas.eventGroups graph (base :: rest) groups =
      atlas.findByName base >>= fun found => atlas.eventGroups graph rest
        (found.elim groups fun ref => putGroup base (graph.eventGroup ref.id) groups) := by
  rw [eventGroups]
  congr 1
  funext found
  cases found <;> rfl

/-- After the pass over the bases each of them stands for what it stood for when its group was
made, and no other group was touched.  By induction on the bases: a base that occurs again is looked
up again, with the same result. -/
theorem eventGroups_eq_ok {bases : List String} {groups result : List (String × List Nat)}
    (run : atlas.eventGroups graph bases groups before = (.ok result, after)) :
    before.Within after ∧
      (∀ name, name ∉ bases → after.found[name]? = before.found[name]? ∧
        result.lookup name = groups.lookup name) ∧
      ∀ base ∈ bases, ∃ found, (atlas.findByName base after).1 = .ok found ∧
        ∀ ref ∈ found, result.lookup base = some (graph.eventGroup ref.id) := by
  induction bases generalizing groups before with
  | nil =>
    cases run
    exact ⟨.refl _, fun _ _ => ⟨rfl, rfl⟩, fun _ listed => absurd listed List.not_mem_nil⟩
  | cons base rest ih =>
    rw [eventGroups_cons] at run
    obtain ⟨found, between, looked, run⟩ := Work.bind_eq_ok.1 run
    obtain ⟨within, untouched, stand⟩ := ih run
    have here : before.Within between := by
      have step := atlas.findByName_within base before
      rwa [looked] at step
    refine ⟨here.trans within, fun name outside => ?_, List.forall_mem_cons.2 ⟨?_, stand⟩⟩
    · obtain ⟨different, outside⟩ := not_or.1 (mt List.mem_cons.2 outside)
      obtain ⟨keptName, keptGroup⟩ := untouched name outside
      have kept := atlas.findByName_found_of_ne before different
      rw [looked] at kept
      refine ⟨keptName.trans kept, keptGroup.trans ?_⟩
      cases found with
      | none => rfl
      | some ref => exact (lookup_putGroup _ _ _ _).trans (if_neg different)
    · by_cases again : base ∈ rest
      · exact stand base again
      · obtain ⟨keptName, keptGroup⟩ := untouched base again
        have given : (atlas.findByName base before).1 = .ok found := by rw [looked]
        refine ⟨found, findByName_again given ?_ ?_, fun ref member => ?_⟩
        · rw [looked]
          exact within
        · rw [looked]
          exact keptName
        · cases member
          exact keptGroup.trans ((lookup_putGroup _ _ _ _).trans (if_pos rfl))

end Atlas

/-! ## The three views -/

namespace Tables

variable {snapshot : Snapshot}

/-- The graph of the findings of all types holds what the records call for. -/
theorem has_ofRelations_facts_iff {hierarchy : Hierarchy} {findings : Findings}
    (read : Hierarchy.ofTables (ofSnapshot snapshot) = .ok hierarchy)
    (found : (ofSnapshot snapshot).facts hierarchy (ofSnapshot snapshot).typeIds = .ok findings)
    (kind : RelationKind) (a b : Nat) :
    (Graph.ofRelations findings.edges).has a kind b = true ↔
      (ofSnapshot snapshot).CallsFor kind a b := by
  have put : ∀ kind a b, ⟨kind, a, b⟩ ∈ findings.edges ↔
      ∃ stated, kind ∈ stated.putDown ∧ (ofSnapshot snapshot).Fact a stated b := by
    intro kind a b
    rw [(facts_eq_ok read found).1]
    refine and_iff_right_of_imp ?_
    rintro ⟨_, _, fact⟩
    exact List.mem_range.2 fact.lt
  rw [Graph.has_ofRelations_iff, put, put, callsFor_iff]

variable {tables : Tables} {a b : Nat}

theorem callsFor_inherits_iff :
    tables.CallsFor .inherits a b ↔ b ≠ a ∧ ReflTransGen tables.Above a b :=
  or_iff_left id

theorem callsFor_inheritedBy_iff :
    tables.CallsFor .inheritedBy b a ↔ b ≠ a ∧ ReflTransGen tables.Above a b :=
  or_iff_right id

/-- A type that applies a class to arguments is one step below it. -/
theorem above_of_callsFor (calls : tables.CallsFor .parameterizedVariant b a) :
    tables.Above a b := by
  rcases calls with none | fact
  · exact none.elim
  · cases fact with
    | @stated data _ _ read fact =>
      cases fact with
      | named written =>
        refine ⟨data, read, ?_⟩
        cases data with
        | parameterized record => exact List.mem_map_of_mem written
        | rawClass | typeVariable | wildcard => cases written

section

variable {graph : Graph}
  (holds : ∀ kind a b, graph.has a kind b = true ↔ tables.CallsFor kind a b)

include holds

/-- In a graph that holds what the records call for, the types below a base are those on whose walk
the base lies. -/
theorem mem_inheritedBy_iff {hierarchy : Hierarchy}
    (read : Hierarchy.ofTables tables = .ok hierarchy) (base id : Nat) :
    id ∈ graph.relation .inheritedBy base ↔
      id ≠ base ∧ ∃ order, tables.inherited id = .ok order ∧ base ∈ order := by
  rw [Graph.mem_relation_iff, holds, callsFor_inheritedBy_iff, mem_inherited_iff read, ne_comm]
  refine and_congr_right fun other => (and_iff_right_of_imp fun way => ?_).symm
  obtain rfl | ⟨_, step, _⟩ := way.cases_head
  · exact absurd rfl other
  · exact step.lt

/-- The group of a base is the base and the types below it: the types that apply the base to
arguments are below it, so they add nothing. -/
theorem eventGroup_eq_inheritedBy (ascending : Graph.Ascending graph.edges) (base : Nat) :
    graph.eventGroup base = base :: graph.relation .inheritedBy base := by
  refine Graph.eventGroup_eq ascending ?_ fun target variant => ?_
  · rw [Bool.eq_false_iff, ne_eq, holds, callsFor_inheritedBy_iff]
    exact fun self => self.1 rfl
  · refine or_iff_not_imp_left.2 fun other => ?_
    rw [holds, callsFor_inheritedBy_iff]
    exact ⟨Ne.symm other, .single (above_of_callsFor ((holds _ _ _).1 variant))⟩

end

end Tables

/-- **The three views of inheritance agree.**  On every snapshot that can be indexed, whatever was
remembered before, the walk up from a type of the snapshot ends; the graph relates the type to
exactly the other types on its walk, in both directions; and the group of an event base that is
found is the base followed, in strictly ascending order, by exactly the other types on whose walk
the base lies. -/
theorem index_views_agree {snapshot : Snapshot} {config : Config} {before after : Memory}
    {index : Index}
    (run : Atlas.index ⟨.ofSnapshot snapshot, config⟩ before = (.ok index, after)) :
    let atlas : Atlas := ⟨.ofSnapshot snapshot, config⟩
    (∀ id < atlas.tables.typeCount, ∃ order, atlas.tables.inherited id = .ok order ∧
      ∀ target, target ∈ index.graph.relation .inherits id ↔ target ∈ order ∧ target ≠ id) ∧
    (∀ base id, id ∈ index.graph.relation .inheritedBy base ↔
      id ≠ base ∧ ∃ order, atlas.tables.inherited id = .ok order ∧ base ∈ order) ∧
    ∀ base ∈ config.eventBaseClasses, ∀ ref, (atlas.findByName base after).1 = .ok (some ref) →
      ∃ others, index.events.lookup base = some (ref.id :: others) ∧
        others.Pairwise (· < ·) ∧
        ∀ id, id ∈ others ↔
          id ≠ ref.id ∧ ∃ order, atlas.tables.inherited id = .ok order ∧ ref.id ∈ order := by
  intro atlas
  obtain ⟨hierarchy, findings, between, -, read, found, graph, -, grouped, -⟩ :=
    Atlas.index_parts run
  have holds : ∀ kind a b, index.graph.has a kind b = true ↔ atlas.tables.CallsFor kind a b := by
    rw [graph]
    exact Tables.has_ofRelations_facts_iff read found
  have ascending : Graph.Ascending index.graph.edges := by
    rw [graph]
    exact Graph.pairwise_ofEdges _
  have below := Tables.mem_inheritedBy_iff holds read
  refine ⟨fun id inside => ?_, below, fun base listed ref looked => ?_⟩
  · obtain ⟨order, walked, spec⟩ := Tables.inherited_eq_ok read inside
    refine ⟨order, walked, fun target => ?_⟩
    rw [Graph.mem_relation_iff, holds, Tables.callsFor_inherits_iff, spec, and_comm]
  · have group := Tables.eventGroup_eq_inheritedBy holds ascending ref.id
    obtain ⟨ref', lookedAgain, put⟩ := (Atlas.eventGroups_eq_ok grouped).2.2 base listed
    cases looked.symm.trans lookedAgain
    exact ⟨_, (put ref rfl).trans (congrArg some group), Graph.pairwise_relation ascending _ _,
      below ref.id⟩

/-- A class, and two classes that extend each other, of which the second one extends the first class
as well. -/
def Snapshot.knottedHeirs : Snapshot :=
  { empty with
    types := [
      .object [("n", .nat 0)],
      .object [("n", .nat 1), ("s", .nat 2)],
      .object [("n", .nat 2), ("s", .nat 1), ("i", .array [.nat 0])]]
    names := [.text "Base", .text "Left", .text "Right"] }

/-- The snapshot `knottedHeirs` with the class in front as an event base. -/
def Atlas.knottedHeirs : Atlas :=
  ⟨.ofSnapshot .knottedHeirs, { Config.default with eventBaseClasses := ["Base"] }⟩

namespace Atlas

/-- The types by variant are grouped first. -/
theorem index_knottedHeirs : ∃ index after,
    knottedHeirs.index .empty = (.ok index, after) ∧
      (knottedHeirs.findByName "Base" after).1 = .ok (some (.plain 0)) := by
  let grouped : Memory := { Memory.empty with partitions := some ⟨[], [], [], [0, 1, 2]⟩ }
  obtain ⟨record, known, bare, entry⟩ : ∃ record,
      knottedHeirs.tables.typeData 0 = .ok (.rawClass record) ∧ record.Bare ∧
        knottedHeirs.tables.names[record.name]? = some (.text "Base") :=
    ⟨_, rfl, ⟨rfl, rfl, rfl⟩, rfl⟩
  obtain ⟨after, looked⟩ : ∃ after, knottedHeirs.findByName "Base" grouped =
      (.ok (some (.plain 0)), after) :=
    findByName_of_bare known bare rfl rfl rfl rfl rfl entry (by decide +kernel)
      (by decide +kernel) (by decide +kernel) (by decide +kernel) rfl
  have read : Hierarchy.ofTables knottedHeirs.tables = .ok ⟨#[[], [2], [1, 0]]⟩ := rfl
  obtain ⟨base, ofBase⟩ : ∃ findings, knottedHeirs.tables.typeFacts ⟨#[[], [2], [1, 0]]⟩ 0 =
    .ok findings := Tables.exists_typeFacts (by decide) rfl (by decide +kernel)
  obtain ⟨left, ofLeft⟩ : ∃ findings, knottedHeirs.tables.typeFacts ⟨#[[], [2], [1, 0]]⟩ 1 =
    .ok findings := Tables.exists_typeFacts (by decide) rfl (by decide +kernel)
  obtain ⟨right, ofRight⟩ : ∃ findings, knottedHeirs.tables.typeFacts ⟨#[[], [2], [1, 0]]⟩ 2 =
    .ok findings := Tables.exists_typeFacts (by decide) rfl (by decide +kernel)
  obtain ⟨findings, found⟩ : ∃ findings, knottedHeirs.tables.facts ⟨#[[], [2], [1, 0]]⟩
      knottedHeirs.tables.typeIds = .ok findings :=
    ⟨_, Outcome.bind_eq_ok.2 ⟨_, ofBase, Outcome.bind_eq_ok.2 ⟨_, Outcome.bind_eq_ok.2
      ⟨_, ofLeft, Outcome.bind_eq_ok.2 ⟨_, Outcome.bind_eq_ok.2 ⟨_, ofRight, rfl⟩, rfl⟩⟩, rfl⟩⟩⟩
  have groups : knottedHeirs.eventGroups (.ofRelations findings.edges) ["Base"] [] grouped =
      (.ok [("Base", Graph.eventGroup (.ofRelations findings.edges) 0)], after) := by
    rw [eventGroups_cons]
    exact Work.bind_eq_ok.2 ⟨_, _, looked, rfl⟩
  have sorted : knottedHeirs.tables.partitions .empty = (.ok _, grouped) := rfl
  have again := findByName_remembers (congrArg Prod.fst looked)
  rw [looked] at again
  exact ⟨_, after, index_of_parts sorted read found groups,
    congrArg Prod.fst (findByName_of_known again)⟩

/-- Each of the two classes is above the other one, and the first class is above both. -/
theorem knottedHeirs_inherited :
    knottedHeirs.tables.inherited 1 = .ok [1, 2, 0] ∧
      knottedHeirs.tables.inherited 2 = .ok [2, 1, 0] := by
  have finish : walkUp knottedHeirs.tables.above [] [] = .ok [] := by rw [walkUp]
  have base : walkUp knottedHeirs.tables.above [0] [0] = .ok [0] :=
    Tables.walkUp_cons_eq_ok.2 ⟨[], rfl, .inl ⟨by decide, [], finish, rfl⟩⟩
  have afterLeft : walkUp knottedHeirs.tables.above [0] [1, 0] = .ok [0] :=
    Tables.walkUp_cons_eq_ok.2 ⟨[2], rfl, .inr ⟨by decide, base⟩⟩
  have afterRight : walkUp knottedHeirs.tables.above [0] [2, 0] = .ok [0] :=
    Tables.walkUp_cons_eq_ok.2 ⟨[1, 0], rfl, .inr ⟨by decide, base⟩⟩
  have right : walkUp knottedHeirs.tables.above [0, 2] [2] = .ok [2, 0] :=
    Tables.walkUp_cons_eq_ok.2 ⟨[1, 0], rfl, .inl ⟨by decide, [0], afterLeft, rfl⟩⟩
  have left : walkUp knottedHeirs.tables.above [0, 1] [1, 0] = .ok [1, 0] :=
    Tables.walkUp_cons_eq_ok.2 ⟨[2], rfl, .inl ⟨by decide, [0], afterRight, rfl⟩⟩
  exact ⟨Tables.walkUp_cons_eq_ok.2 ⟨[2], rfl, .inl ⟨by decide, [2, 0], right, rfl⟩⟩,
    Tables.walkUp_cons_eq_ok.2 ⟨[1, 0], rfl, .inl ⟨by decide, [1, 0], left, rfl⟩⟩⟩

end Atlas

/-- The two classes inherit from each other and from the base, and the group of the base is the base
with both of them. -/
theorem index_views_agree_knottedHeirs : ∃ index after others,
    Atlas.knottedHeirs.index .empty = (.ok index, after) ∧
      (Atlas.knottedHeirs.findByName "Base" after).1 = .ok (some (.plain 0)) ∧
      (∀ target, target ∈ index.graph.relation .inherits 1 ↔ target = 0 ∨ target = 2) ∧
      1 ∈ index.graph.relation .inheritedBy 2 ∧
      index.events.lookup "Base" = some (0 :: others) ∧ 1 ∈ others ∧ 2 ∈ others := by
  obtain ⟨index, after, run, looked⟩ := Atlas.index_knottedHeirs
  obtain ⟨above, below, groups⟩ := index_views_agree run
  obtain ⟨left, right⟩ := Atlas.knottedHeirs_inherited
  obtain ⟨others, group, -, members⟩ := groups "Base" List.mem_cons_self _ looked
  obtain ⟨order, walked, targets⟩ := above 1 (by decide)
  cases left.symm.trans walked
  refine ⟨index, after, others, run, looked, fun target => (targets target).trans ?_,
    (below 2 1).2 ⟨by decide, _, left, by decide⟩, group,
    (members 1).2 ⟨by decide, _, left, by decide⟩, (members 2).2 ⟨by decide, _, right, by decide⟩⟩
  simp only [List.mem_cons, List.not_mem_nil, or_false]
  omega

end ClassAtlas
