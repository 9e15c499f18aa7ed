import ClassAtlas.Proofs.Graph
import ClassAtlas.Proofs.Json.Members
import ClassAtlas.Proofs.Json.Reading
import ClassAtlas.Proofs.Json.Shapes

/-!
# The written form of a graph

A written graph lists edges under the names of their kinds and the numerals of their sources
(`Graph.Lists`).  A name may be spelled in many ways and so may a numeral, so an edge can be listed
in several places and more than once in each; the graph that is read holds it once (`mem_ofText?`).

The writer gives each kind its own name and each source its plain numeral, so what it writes lists
the edges of the graph and no others (`lists_toJson_iff`).  A graph is determined by its edges, as
they stand in ascending order, so a graph is read back as it was, whether it was built edge by edge
or read before.
-/

set_option autoImplicit false

namespace ClassAtlas

/-! ## Names of kinds -/

namespace RelationKind

theorem ofWireName?_wireName (kind : RelationKind) : ofWireName? kind.wireName = some kind := by
  have named : ∀ kind ∈ all, ofWireName? kind.wireName = some kind := by decide +kernel
  exact named kind (mem_all kind)

theorem normalizeName_wireName (kind : RelationKind) :
    normalizeName kind.wireName = kind.wireName := by
  have plain : ∀ kind ∈ all, normalizeName kind.wireName = kind.wireName := by decide +kernel
  exact plain kind (mem_all kind)

theorem wireName_injective : Function.Injective wireName := fun left right same =>
  Option.some.inj <| by rw [← ofWireName?_wireName left, same, ofWireName?_wireName]

theorem ofWireName?_eq_some_iff {name : String} {kind : RelationKind} :
    ofWireName? name = some kind ↔ name = kind.wireName := by
  constructor
  · intro found
    rw [ofWireName?, List.find?_eq_some_iff_append] at found
    exact (eq_of_beq found.1).symm
  · rintro rfl
    exact ofWireName?_wireName kind

/-- A name means a kind when it is a spelling of the name of the kind. -/
theorem parse?_eq_some_iff {name : String} {kind : RelationKind} :
    parse? name = some kind ↔ normalizeName name = kind.wireName :=
  ofWireName?_eq_some_iff

end RelationKind

namespace Graph

/-! ## What a value lists -/

/-- A value lists an edge if it has, under a spelling of the kind and a numeral for the source, a
list with the target.  Of equal keys the last one counts. -/
def Lists (value : Json) (edge : Edge) : Prop :=
  ∃ name sources key targets, Json.field? name value = some (.object sources) ∧
    RelationKind.normalizeName name = edge.kind.wireName ∧
    Json.member? sources key = some (.array targets) ∧
    Text.readNat limit32 key = some edge.source ∧ Json.nat edge.target ∈ targets

/-- A value that is a written graph throughout: every name means a kind, every key below it is a
numeral, and every item of the lists a number of 32 bits. -/
def Readable (value : Json) : Prop :=
  ∃ kinds, value = .object kinds ∧ ∀ kind ∈ kinds,
    (∃ meant, RelationKind.parse? kind.1 = some meant) ∧
    ∃ sources, kind.2 = .object sources ∧ ∀ source ∈ sources,
      (∃ id, Text.readNat limit32 source.1 = some id) ∧
      ∃ targets, source.2 = .ofList .nat targets ∧ ∀ target ∈ targets, target < limit32

/-! ## Reading -/

theorem mem_readTargets {kind : RelationKind} {key : String} {value : Json} {edges : List Edge}
    (read : readTargets kind key value = some edges) (edge : Edge) :
    edge ∈ edges ↔ edge.kind = kind ∧ Text.readNat limit32 key = some edge.source ∧
      ∃ targets, value = .array targets ∧ Json.nat edge.target ∈ targets := by
  obtain ⟨source, numeral, read⟩ := Option.bind_eq_some_iff.1 read
  split at read
  case h_2 => cases read
  next targets =>
  split at read
  case h_2 => cases read
  next ids items =>
  obtain rfl := Option.some.inj read
  obtain ⟨rfl, -⟩ := Shape.eq_map_of_items items
  simp only [List.mem_map, numeral, Option.some.injEq, Json.array.injEq, exists_eq_left']
  constructor
  · rintro ⟨target, listed, rfl⟩
    exact ⟨rfl, rfl, target, listed, rfl⟩
  · rintro ⟨rfl, rfl, target, listed, same⟩
    exact ⟨target, listed, by rw [Json.nat_injective same]⟩

theorem mem_readSources {kind : RelationKind} {members : List (String × Json)} {edges : List Edge}
    (read : readSources kind members = some edges) (edge : Edge) :
    edge ∈ edges ↔ edge.kind = kind ∧ ∃ key targets, (key, .array targets) ∈ members ∧
      Text.readNat limit32 key = some edge.source ∧ Json.nat edge.target ∈ targets := by
  induction members generalizing edges with
  | nil =>
    obtain rfl := Option.some.inj read
    simp
  | cons member rest ih =>
    obtain ⟨first, here, read⟩ := Option.bind_eq_some_iff.1 read
    obtain ⟨others, there, read⟩ := Option.bind_eq_some_iff.1 read
    obtain rfl := Option.some.inj read
    rw [List.mem_append, mem_readTargets here, ih there, ← and_or_left]
    refine and_congr_right fun _ => ⟨?_, ?_⟩
    · rintro (⟨numeral, targets, same, listed⟩ | ⟨key, targets, member', numeral, listed⟩)
      · exact ⟨member.1, targets, by rw [← same]; exact List.mem_cons_self, numeral, listed⟩
      · exact ⟨key, targets, List.mem_cons_of_mem _ member', numeral, listed⟩
    · rintro ⟨key, targets, written, numeral, listed⟩
      rcases List.mem_cons.1 written with rfl | written
      · exact .inl ⟨numeral, targets, rfl, listed⟩
      · exact .inr ⟨key, targets, written, numeral, listed⟩

theorem mem_readKinds {members : List (String × Json)} {edges : List Edge}
    (read : readKinds members = some edges) (edge : Edge) :
    edge ∈ edges ↔ ∃ name sources key targets, (name, .object sources) ∈ members ∧
      RelationKind.parse? name = some edge.kind ∧ (key, .array targets) ∈ sources ∧
      Text.readNat limit32 key = some edge.source ∧ Json.nat edge.target ∈ targets := by
  fun_induction readKinds members generalizing edges with
  | case1 =>
    obtain rfl := Option.some.inj read
    simp
  | case2 name sources rest ih =>
    obtain ⟨kind, named, read⟩ := Option.bind_eq_some_iff.1 read
    obtain ⟨first, here, read⟩ := Option.bind_eq_some_iff.1 read
    obtain ⟨others, there, read⟩ := Option.bind_eq_some_iff.1 read
    obtain rfl := Option.some.inj read
    rw [List.mem_append, mem_readSources here, ih there]
    constructor
    · rintro (⟨rfl, key, targets, written, found⟩ | ⟨other, others, key, targets, written, found⟩)
      · exact ⟨name, sources, key, targets, List.mem_cons_self, named, written, found⟩
      · exact ⟨other, others, key, targets, List.mem_cons_of_mem _ written, found⟩
    · rintro ⟨other, others, key, targets, member, parsed, written, found⟩
      rcases List.mem_cons.1 member with same | member
      · obtain ⟨rfl, sameSources⟩ := Prod.mk.inj same
        obtain rfl := Json.object.inj sameSources
        exact .inl ⟨Option.some.inj (parsed.symm.trans named), key, targets, written, found⟩
      · exact .inr ⟨other, others, key, targets, member, parsed, written, found⟩
  | case3 => cases read

/-- **A graph that is read has exactly the edges that its value lists.** -/
theorem mem_ofJson?_canonical {value : Json} {graph : Graph}
    (read : ofJson? value.canonical = some graph) (edge : Edge) :
    edge ∈ graph.edges ↔ Lists value edge := by
  unfold ofJson? at read
  split at read
  case h_2 => cases read
  next kinds shape =>
  obtain ⟨written, rfl, rfl⟩ := Json.canonical_eq_object_iff.1 shape
  obtain ⟨edges, readEdges, rfl⟩ := Option.map_eq_some_iff.1 read
  rw [mem_ofEdges_iff, mem_readKinds readEdges]
  simp only [Json.mem_canonicalMembers_iff, RelationKind.parse?_eq_some_iff]
  constructor
  · rintro ⟨name, _, key, _, ⟨value, field, object⟩, named, listed, numeral, target⟩
    obtain ⟨sources, rfl, rfl⟩ := Json.canonical_eq_object_iff.1 object
    obtain ⟨value, member, array⟩ := (Json.mem_canonicalMembers_iff _ _ _).1 listed
    obtain ⟨targets, rfl, rfl⟩ := Json.canonical_eq_array_iff.1 array
    obtain ⟨item, listed, same⟩ := List.mem_map.1 target
    rw [Json.canonical_eq_nat_iff.1 same] at listed
    exact ⟨name, sources, key, targets, field, named, member, numeral, listed⟩
  · rintro ⟨name, sources, key, targets, field, named, member, numeral, target⟩
    refine ⟨name, _, key, _, ⟨_, field, rfl⟩, named, ?_, numeral,
      List.mem_map.2 ⟨_, target, Json.canonical_eq_nat_iff.2 rfl⟩⟩
    exact (Json.mem_canonicalMembers_iff _ _ _).2
      ⟨_, member, Json.canonical_eq_array_iff.2 ⟨targets, rfl, rfl⟩⟩

/-- The edges of a graph that is read are between numbers of 32 bits. -/
theorem lt_of_lists {value : Json} (shape : hasShape value = true) {edge : Edge}
    (listed : Lists value edge) : edge.source < limit32 ∧ edge.target < limit32 := by
  obtain ⟨name, sources, key, targets, field, -, member, numeral, target⟩ := listed
  constructor
  · have bounded := (Option.filter_eq_some_iff.1 numeral).2
    simpa using bounded
  · cases value with
    | object kinds =>
      have shape := List.all_eq_true.1 shape _ (Json.mem_of_member? field)
      have shape := List.all_eq_true.1 shape _ (Json.mem_of_member? member)
      cases items : Shape.items Shape.nat32 targets with
      | error mismatch => simp [Shape.list, items, Except.isOk, Except.toBool] at shape
      | ok ids =>
        obtain ⟨rfl, below⟩ := Shape.eq_map_of_items items
        obtain ⟨id, listed, same⟩ := List.mem_map.1 target
        exact Json.nat_injective same ▸ below id listed
    | _ => cases field

theorem mem_ofText? {text : String} {graph : Graph} (read : ofText? text = some graph) :
    ∃ value, Json.ofText? text = some value ∧ hasShape value = true ∧
      ∀ edge, edge ∈ graph.edges ↔ Lists value edge := by
  obtain ⟨value, parsed, read⟩ := Option.bind_eq_some_iff.1 read
  split at read
  · next shape => exact ⟨value, parsed, shape, mem_ofJson?_canonical read⟩
  · cases read

theorem pairwise_ofJson? {value : Json} {graph : Graph} (read : ofJson? value = some graph) :
    Ascending graph.edges := by
  unfold ofJson? at read
  split at read
  · obtain ⟨edges, -, rfl⟩ := Option.map_eq_some_iff.1 read
    exact pairwise_ofEdges edges
  · cases read

theorem pairwise_ofText? {text : String} {graph : Graph} (read : ofText? text = some graph) :
    Ascending graph.edges := by
  obtain ⟨value, -, read⟩ := Option.bind_eq_some_iff.1 read
  split at read
  · exact pairwise_ofJson? read
  · cases read

/-! ## What is accepted -/

theorem exists_readSources (kind : RelationKind) {members : List (String × Json)}
    (readable : ∀ source ∈ members, (∃ id, Text.readNat limit32 source.1 = some id) ∧
      ∃ targets, source.2 = .ofList .nat targets ∧ ∀ target ∈ targets, target < limit32) :
    ∃ edges, readSources kind members = some edges := by
  induction members with
  | nil => exact ⟨[], rfl⟩
  | cons member rest ih =>
    obtain ⟨others, readRest⟩ := ih fun source listed =>
      readable source (List.mem_cons_of_mem _ listed)
    obtain ⟨⟨id, numeral⟩, targets, list, below⟩ := readable member List.mem_cons_self
    have first : readTargets kind member.1 member.2 =
        some (targets.map fun target => ⟨kind, id, target⟩) := by
      simp [readTargets, numeral, list, Json.ofList, Shape.items_map_nat below]
    rw [readSources, first, readRest]
    exact ⟨_, rfl⟩

theorem exists_readKinds {members : List (String × Json)} (readable : Readable (.object members)) :
    ∃ edges, readKinds members = some edges := by
  obtain ⟨_, same, readable⟩ := readable
  obtain rfl := Json.object.inj same
  induction members with
  | nil => exact ⟨[], rfl⟩
  | cons member rest ih =>
    obtain ⟨name, value⟩ := member
    obtain ⟨⟨kind, named⟩, sources, rfl, legible⟩ := readable _ List.mem_cons_self
    obtain ⟨first, readFirst⟩ := exists_readSources kind legible
    obtain ⟨others, readRest⟩ := ih rfl fun other listed =>
      readable other (List.mem_cons_of_mem _ listed)
    simp only [readKinds, named, readFirst, readRest, Option.bind_eq_bind, Option.bind_some]
    exact ⟨_, rfl⟩

theorem Readable.canonical {value : Json} (readable : Readable value) :
    Readable value.canonical := by
  obtain ⟨kinds, rfl, readable⟩ := readable
  refine ⟨_, rfl, fun kind listed => ?_⟩
  obtain ⟨_, field, same⟩ := (Json.mem_canonicalMembers_iff _ _ _).1 listed
  obtain ⟨named, sources, object, legible⟩ := readable _ (Json.mem_of_member? field)
  obtain rfl : _ = Json.object sources := object
  refine ⟨named, _, same.symm, fun source listed => ?_⟩
  obtain ⟨_, member, same⟩ := (Json.mem_canonicalMembers_iff _ _ _).1 listed
  obtain ⟨numeral, targets, array, below⟩ := legible _ (Json.mem_of_member? member)
  obtain rfl : _ = Json.ofList .nat targets := array
  refine ⟨numeral, targets, ?_, below⟩
  rw [← same, Json.ofList, Json.canonical, Json.canonicalItems_eq_map, List.map_map]
  rfl

theorem Readable.hasShape {value : Json} (readable : Readable value) : hasShape value = true := by
  obtain ⟨kinds, rfl, readable⟩ := readable
  refine List.all_eq_true.2 fun kind listed => ?_
  obtain ⟨-, sources, object, legible⟩ := readable kind listed
  rw [object]
  refine List.all_eq_true.2 fun source listed => ?_
  obtain ⟨-, targets, array, below⟩ := legible source listed
  rw [array, Json.ofList, Shape.list, Shape.items_map_nat below]
  rfl

/-- A readable value is accepted. -/
theorem Readable.exists_ofJson? {value : Json} (readable : Readable value) :
    ∃ graph, ofJson? value.canonical = some graph := by
  obtain ⟨members, shape⟩ : ∃ members, value.canonical = .object members := by
    obtain ⟨kinds, rfl, -⟩ := readable
    exact ⟨_, rfl⟩
  obtain ⟨edges, read⟩ := exists_readKinds (shape ▸ readable.canonical)
  exact ⟨ofEdges edges, by rw [shape, ofJson?, read]; rfl⟩

/-! ## Writing -/

variable {graph : Graph}

/-- The edges of a graph are between numbers of 32 bits. -/
def Bounded (graph : Graph) : Prop :=
  ∀ edge ∈ graph.edges, edge.source < limit32 ∧ edge.target < limit32

/-- The edges of one kind. -/
def ofKind (graph : Graph) (kind : RelationKind) : Graph :=
  ⟨graph.edges.filter fun edge => edge.kind == kind⟩

theorem mem_ofKind_iff {kind : RelationKind} {edge : Edge} :
    edge ∈ (graph.ofKind kind).edges ↔ edge ∈ graph.edges ∧ edge.kind = kind := by
  simp [ofKind]

theorem mem_sourcesOf_iff {kind : RelationKind} {source : Nat} :
    source ∈ graph.sourcesOf kind ↔
      ∃ edge ∈ graph.edges, edge.kind = kind ∧ edge.source = source := by
  simp [sourcesOf, mem_dropRepeats_iff, and_assoc]

/-- The kinds that are written are those of some edge. -/
theorem mem_kinds_iff {kind : RelationKind} :
    kind ∈ graph.counts.map Prod.fst ↔ ∃ edge ∈ graph.edges, edge.kind = kind := by
  simp [counts, count, RelationKind.mem_all]

theorem toString_injective : Function.Injective (toString : Nat → String) := by
  intro left right same
  have inside : left < left + right + 1 := by omega
  have read := Text.readNat_toString inside
  rw [same, Text.readNat_toString (by omega)] at read
  exact (Option.some.inj read).symm

theorem mem_relation_ofKind_iff {kind : RelationKind} {source target : Nat} :
    target ∈ (graph.ofKind kind).relation kind source ↔ ⟨kind, source, target⟩ ∈ graph.edges := by
  rw [mem_relation_iff, has_iff, mem_ofKind_iff]
  exact and_iff_left rfl

/-- The sources of a kind as texts, each with its targets. -/
def sourceMembers (graph : Graph) (kind : RelationKind) : List (String × Json) :=
  ((graph.ofKind kind).sourcesOf kind).map fun source =>
    (toString source, .ofList .nat ((graph.ofKind kind).relation kind source))

theorem kindToJson_eq (kind : RelationKind) :
    graph.kindToJson kind = .object (Json.sortMembers (graph.sourceMembers kind)) :=
  rfl

/-- Below a kind there is a member for each source of an edge of the kind. -/
theorem member?_sourceMembers {kind : RelationKind} {key : String} {value : Json} :
    Json.member? (Json.sortMembers (graph.sourceMembers kind)) key = some value ↔
      ∃ edge ∈ graph.edges, edge.kind = kind ∧ toString edge.source = key ∧
        .ofList .nat ((graph.ofKind kind).relation kind edge.source) = value := by
  rw [Json.member?_sortMembers, sourceMembers,
    Json.member?_map_eq_some_iff fun left _ right _ same => toString_injective same]
  constructor
  · rintro ⟨source, leaves, named, written⟩
    obtain ⟨edge, listed, -, rfl⟩ := mem_sourcesOf_iff.1 leaves
    exact ⟨edge, (mem_ofKind_iff.1 listed).1, (mem_ofKind_iff.1 listed).2, named, written⟩
  · rintro ⟨edge, listed, sameKind, named, written⟩
    have leaves := mem_ofKind_iff.2 ⟨listed, sameKind⟩
    exact ⟨edge.source, mem_sourcesOf_iff.2 ⟨edge, leaves, sameKind, rfl⟩, named, written⟩

/-- There is a member for each kind of an edge. -/
theorem field?_toJson {name : String} {value : Json} :
    Json.field? name graph.toJson = some value ↔
      ∃ edge ∈ graph.edges, edge.kind.wireName = name ∧ graph.kindToJson edge.kind = value := by
  rw [toJson, Json.field?, Json.member?_sortMembers,
    Json.member?_map_eq_some_iff fun left _ right _ same => RelationKind.wireName_injective same]
  constructor
  · rintro ⟨kind, written, named, object⟩
    obtain ⟨edge, listed, rfl⟩ := mem_kinds_iff.1 written
    exact ⟨edge, listed, named, object⟩
  · rintro ⟨edge, listed, named, object⟩
    exact ⟨edge.kind, mem_kinds_iff.2 ⟨edge, listed, rfl⟩, named, object⟩

theorem readable_toJson (bounded : graph.Bounded) : Readable graph.toJson := by
  refine ⟨_, rfl, ?_⟩
  rintro ⟨name, value⟩ listed
  have field : Json.field? name graph.toJson = some value := by
    rw [toJson, Json.field?, Json.member?_sortMembers]
    exact (Json.mem_sortMembers_iff _ _ _).1 listed
  obtain ⟨leaving, -, rfl, rfl⟩ := field?_toJson.1 field
  refine ⟨⟨leaving.kind, RelationKind.parse?_eq_some_iff.2 (RelationKind.normalizeName_wireName _)⟩,
    _, kindToJson_eq _, ?_⟩
  rintro ⟨key, targets⟩ listed
  have member : Json.member? (Json.sortMembers (graph.sourceMembers leaving.kind)) key =
      some targets := by
    rw [Json.member?_sortMembers]
    exact (Json.mem_sortMembers_iff _ _ _).1 listed
  obtain ⟨edge, edgeListed, -, rfl, rfl⟩ := member?_sourceMembers.1 member
  refine ⟨⟨_, Text.readNat_toString (bounded edge edgeListed).1⟩, _, rfl, fun target reached => ?_⟩
  exact (bounded _ (mem_relation_ofKind_iff.1 reached)).2

theorem spelled_toJson (bounded : graph.Bounded) (levels : Nat) :
    Json.Spelled (levels + 3) graph.toJson := by
  obtain ⟨kinds, object, readable⟩ := readable_toJson bounded
  rw [object]
  refine .object fun kind listed => ?_
  obtain ⟨-, sources, object, legible⟩ := readable kind listed
  rw [object]
  refine .object fun source listed => ?_
  obtain ⟨-, targets, array, below⟩ := legible source listed
  rw [array]
  refine .array fun item listed => ?_
  obtain ⟨target, reached, rfl⟩ := List.mem_map.1 listed
  exact .nat (below target reached)

/-- **What is written lists the edges of the graph**, and no others. -/
theorem lists_toJson_iff (bounded : graph.Bounded) (edge : Edge) :
    Lists graph.toJson edge ↔ edge ∈ graph.edges := by
  constructor
  · rintro ⟨name, sources, key, targets, field, named, member, numeral, target⟩
    obtain ⟨leaving, -, rfl, object⟩ := field?_toJson.1 field
    rw [RelationKind.normalizeName_wireName] at named
    rw [RelationKind.wireName_injective named] at object
    obtain rfl := Json.object.inj object
    obtain ⟨other, listed, -, rfl, array⟩ := member?_sourceMembers.1 member
    rw [Text.readNat_toString (bounded other listed).1] at numeral
    obtain rfl := Json.array.inj array
    obtain ⟨reached, related, same⟩ := List.mem_map.1 target
    rw [Json.nat_injective same, Option.some.inj numeral] at related
    exact mem_relation_ofKind_iff.1 related
  · intro listed
    exact ⟨edge.kind.wireName, _, toString edge.source, _,
      field?_toJson.2 ⟨edge, listed, rfl, kindToJson_eq _⟩, RelationKind.normalizeName_wireName _,
      member?_sourceMembers.2 ⟨edge, listed, rfl, rfl, rfl⟩,
      Text.readNat_toString (bounded edge listed).1,
      List.mem_map.2 ⟨edge.target, mem_relation_ofKind_iff.2 listed, rfl⟩⟩

/-- A graph is read back from its value. -/
theorem ofJson?_toJson (bounded : graph.Bounded) (ascending : Ascending graph.edges) :
    ofJson? graph.toJson.canonical = some graph := by
  obtain ⟨again, read⟩ := (readable_toJson bounded).exists_ofJson?
  have same : again.edges = graph.edges :=
    (pairwise_ofJson? read).eq_of_mem_iff ascending fun edge =>
      (mem_ofJson?_canonical read edge).trans (lists_toJson_iff bounded edge)
  rw [read, show again = graph from congrArg Graph.mk same]

/-- **A graph is read back from its text.** -/
theorem ofText?_toText (bounded : graph.Bounded) (ascending : Ascending graph.edges) :
    ofText? graph.toText = some graph := by
  have parsed : Json.ofText? graph.toText = some graph.toJson :=
    Json.ofText?_compact (spelled_toJson bounded _)
  refine Option.bind_eq_some_iff.2 ⟨_, parsed, ?_⟩
  rw [if_pos (readable_toJson bounded).hasShape, ofJson?_toJson bounded ascending]

theorem bounded_built {added : List Edge}
    (small : ∀ edge ∈ added, edge.source < limit32 ∧ edge.target < limit32) :
    (built added).Bounded := by
  intro edge member
  rcases (mem_built_iff added edge).1 member with given | turned
  · exact small edge given
  · exact (small edge.inverse turned).symm

theorem bounded_ofText? {text : String} (read : ofText? text = some graph) : graph.Bounded := by
  obtain ⟨value, -, shape, listed⟩ := mem_ofText? read
  exact fun edge member => lt_of_lists shape ((listed edge).1 member)

/-- **The written form loses nothing and makes nothing up.**  Every graph that is built edge by edge
is read back from its text.  Every text that is accepted gives a graph with exactly the edges that
the text lists, each once, and this graph is read back from its own text. -/
theorem readBack :
    (∀ added : List Edge, (∀ edge ∈ added, edge.source < limit32 ∧ edge.target < limit32) →
      ofText? (built added).toText = some (built added)) ∧
    ∀ (text : String) (graph : Graph), ofText? text = some graph →
      (∃ value, Json.ofText? text = some value ∧
        ∀ edge, edge ∈ graph.edges ↔ Lists value edge) ∧
      Ascending graph.edges ∧ ofText? graph.toText = some graph := by
  refine ⟨fun added small => ofText?_toText (bounded_built small) (pairwise_built added),
    fun text graph read => ?_⟩
  obtain ⟨value, parsed, -, listed⟩ := mem_ofText? read
  exact ⟨⟨value, parsed, listed⟩, pairwise_ofText? read,
    ofText?_toText (bounded_ofText? read) (pairwise_ofText? read)⟩

/-- A text that spells a kind and one source in ways of its own, and repeats a target. -/
theorem ofText?_spellings :
    ofText? "\x7b\" super-class \":\x7b\"+1\":[2,2],\"01\":[3]\x7d\x7d" =
      some ⟨[⟨.superClass, 1, 2⟩, ⟨.superClass, 1, 3⟩]⟩ := by
  let kinds : List (String × Json) :=
    [(" super-class ", .object [("+1", .ofList .nat [2, 2]), ("01", .ofList .nat [3])])]
  let listed : List Edge := [⟨.superClass, 1, 2⟩, ⟨.superClass, 1, 2⟩, ⟨.superClass, 1, 3⟩]
  have written : (Json.object kinds).compact =
      "\x7b\" super-class \":\x7b\"+1\":[2,2],\"01\":[3]\x7d\x7d" := by
    decide +kernel
  have spelled : Json.Spelled Json.levelLimit (.object kinds) :=
    .object (List.forall_mem_singleton.2 (.object (List.forall_mem_cons.2
      ⟨.nats (by decide), List.forall_mem_singleton.2 (.nats (by decide))⟩)))
  have parsed := Json.ofText?_compact spelled
  rw [written] at parsed
  have ascending : Ascending [⟨.superClass, 1, 2⟩, ⟨.superClass, 1, 3⟩] :=
    List.pairwise_pair.2 (by decide)
  have once : ofEdges listed = ⟨[⟨.superClass, 1, 2⟩, ⟨.superClass, 1, 3⟩]⟩ :=
    congrArg Graph.mk <| (pairwise_ofEdges listed).eq_of_mem_iff ascending fun edge => by
      simp [mem_ofEdges_iff, listed]
  have shape : hasShape (.object kinds) = true := by decide +kernel
  have read : readKinds (Json.sortMembers (Json.canonicalMembers kinds)) = some listed := by
    decide +kernel
  rw [ofText?, parsed, Option.bind_eq_bind, Option.bind_some, if_pos shape, Json.canonical, ofJson?,
    read, Option.map_some, once]

/-- The graph of that text is read back, and so is a graph that is built from one relation. -/
theorem readBack_spellings :
    ofText? (built [⟨.superClass, 1, 2⟩]).toText = some (built [⟨.superClass, 1, 2⟩]) ∧
    ofText? (Graph.toText ⟨[⟨.superClass, 1, 2⟩, ⟨.superClass, 1, 3⟩]⟩) =
      some ⟨[⟨.superClass, 1, 2⟩, ⟨.superClass, 1, 3⟩]⟩ :=
  ⟨readBack.1 _ (by decide), (readBack.2 _ _ ofText?_spellings).2.2⟩

end Graph

end ClassAtlas
