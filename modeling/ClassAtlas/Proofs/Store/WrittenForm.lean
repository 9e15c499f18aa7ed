import ClassAtlas.Proofs.Graph.WrittenForm
import ClassAtlas.Proofs.Index.Relations
import ClassAtlas.Proofs.Lookup
import ClassAtlas.Proofs.Record.References
import ClassAtlas.Store.Text

/-!
# The written form of a stored index

A stored index is kept as the text of an object with its stamps and its parts.  When its numbers are
numbers of 32 bits (`Index.Bounded`) it is read back from this text as it was
(`StoredFile.ofText_toText`).

The index of a snapshot with that few types is so (`Index.bounded_of_run`): its types are types of
the snapshot, whether they were grouped, related or looked up, and what was looked up has as many
dimensions as the name that was asked for.
-/

set_option autoImplicit false

namespace ClassAtlas

open Shape (field list_ofList nat32 nat32_nat required)

/-! ## Reading the parts -/

namespace Shape

variable {α β : Type} {members : List (String × Json)} {key : String} {shape : Shape α}
  {value : Json} {result : α}

/-- A field that is written once is read from its value. -/
theorem required_of_mem (apart : (members.map Prod.fst).Nodup) (listed : (key, value) ∈ members)
    (read : shape value = .ok result) :
    (field members key shape >>= required key) = .ok result := by
  rw [field_eq (occurrences_le_one apart key), (Json.member?_eq_some_iff apart).2 listed]
  simp only [read]
  rfl

theorem pair_array {second : Shape β} {other : Json} {right : β} (first : shape value = .ok result)
    (last : second other = .ok right) :
    pair shape second (.array [value, other]) = .ok (result, right) := by
  rw [pair, first, last]
  rfl

theorem list_string_texts (texts : List String) : list string (.texts texts) = .ok texts :=
  list_ofList fun _ _ => rfl

theorem list_nat32_ofList {ids : List Nat} (below : ∀ id ∈ ids, id < limit32) :
    list nat32 (.ofList .nat ids) = .ok ids :=
  list_ofList fun id listed => nat32_nat (below id listed)

theorem partitions_toJson {groups : Partitions} (below : ∀ id ∈ groups.all, id < limit32) :
    partitions groups.toJson = .ok groups := by
  simp only [Partitions.all, List.mem_append, or_imp, forall_and] at below
  obtain ⟨⟨⟨wildcards, parameterized⟩, typeVariables⟩, rawClasses⟩ := below
  have apart : ["wildcards", "parameterized", "type_variables", "raw"].Nodup := by decide
  exact Outcome.bind_eq_ok.2 ⟨_, rfl,
    Outcome.bind_eq_ok.2 ⟨_, required_of_mem apart (by simp) (list_nat32_ofList wildcards),
    Outcome.bind_eq_ok.2 ⟨_, required_of_mem apart (by simp) (list_nat32_ofList parameterized),
    Outcome.bind_eq_ok.2 ⟨_, required_of_mem apart (by simp) (list_nat32_ofList typeVariables),
    Outcome.bind_eq_ok.2 ⟨_, required_of_mem apart (by simp) (list_nat32_ofList rawClasses),
      rfl⟩⟩⟩⟩⟩

end Shape

/-- An index whose numbers are numbers of 32 bits and whose graph is in order. -/
structure Index.Bounded (index : Index) : Prop where
  graph : index.graph.Bounded
  ascending : Graph.Ascending index.graph.edges
  partitions : ∀ id ∈ index.partitions.all, id < limit32
  events : ∀ group ∈ index.events, ∀ id ∈ group.2, id < limit32
  lookups : ∀ entry ∈ index.lookups, entry.2.InRange

/-- An index is read back from its value. -/
theorem Shape.index_toJson {index : Index} (bounded : index.Bounded) :
    Shape.index index.toJson = .ok index := by
  have apart : ["graph", "partitions", "events", "lookups", "warnings"].Nodup := by decide
  have graph : Shape.graph index.graph.toJson = .ok index.graph := by
    rw [Shape.graph, Graph.ofJson?_toJson bounded.graph bounded.ascending]
  have events : Shape.list (pair string (list nat32))
      (.ofList (fun group => .array [.text group.1, .ofList .nat group.2]) index.events) =
        .ok index.events :=
    list_ofList fun group listed => pair_array rfl (list_nat32_ofList (bounded.events group listed))
  have lookups : Shape.list (pair string typeRef)
      (.ofList (fun entry => .array [.text entry.1, entry.2.toJson]) index.lookups) =
        .ok index.lookups :=
    list_ofList fun entry listed => pair_array rfl (typeRef_toJson (bounded.lookups entry listed))
  exact Outcome.bind_eq_ok.2 ⟨_, rfl,
    Outcome.bind_eq_ok.2 ⟨_, required_of_mem apart (by simp) graph,
    Outcome.bind_eq_ok.2 ⟨_, required_of_mem apart (by simp) (partitions_toJson bounded.partitions),
    Outcome.bind_eq_ok.2 ⟨_, required_of_mem apart (by simp) events,
    Outcome.bind_eq_ok.2 ⟨_, required_of_mem apart (by simp) lookups,
    Outcome.bind_eq_ok.2 ⟨_, required_of_mem apart (by simp) (list_string_texts _), rfl⟩⟩⟩⟩⟩⟩

/-! ## Spelling the parts -/

open Json (Spelled)

theorem TypeRef.InRange.spelled {ref : TypeRef} (inRange : ref.InRange) (levels : Nat) :
    Spelled (levels + 1) ref.toJson := by
  by_cases plain : ref.depth = 0
  · rw [toJson_of_plain plain]
    exact .nat inRange.1
  · rw [toJson_of_array plain]
    exact .nats (List.forall_mem_cons.2 ⟨inRange.1, List.forall_mem_singleton.2 inRange.2⟩)

theorem Partitions.spelled_toJson {groups : Partitions} (below : ∀ id ∈ groups.all, id < limit32)
    (levels : Nat) : Spelled (levels + 2) groups.toJson := by
  simp only [Partitions.all, List.mem_append, or_imp, forall_and] at below
  obtain ⟨⟨⟨wildcards, parameterized⟩, typeVariables⟩, rawClasses⟩ := below
  refine .object ?_
  simp only [List.forall_mem_cons, List.not_mem_nil, IsEmpty.forall_iff, implies_true, and_true]
  exact ⟨.nats wildcards, .nats parameterized, .nats typeVariables, .nats rawClasses⟩

theorem Index.Bounded.spelled_toJson {index : Index} (bounded : index.Bounded) (levels : Nat) :
    Spelled (levels + 4) index.toJson := by
  refine .object ?_
  simp only [List.forall_mem_cons, List.not_mem_nil, IsEmpty.forall_iff, implies_true, and_true]
  refine ⟨Graph.spelled_toJson bounded.graph levels,
    Partitions.spelled_toJson bounded.partitions _, .ofList fun group listed => .array ?_,
    .ofList fun entry listed => .array ?_, .ofList fun text _ => .text _ text⟩
  · simp only [List.forall_mem_cons, List.not_mem_nil, IsEmpty.forall_iff, implies_true, and_true]
    exact ⟨.text _ _, .nats (bounded.events group listed)⟩
  · simp only [List.forall_mem_cons, List.not_mem_nil, IsEmpty.forall_iff, implies_true, and_true]
    exact ⟨.text _ _, (bounded.lookups entry listed).spelled _⟩

/-- **A stored index is read back from its text.** -/
theorem StoredFile.ofText_toText {stored : StoredIndex} (small : stored.version < limit32)
    (bounded : stored.index.Bounded) : ofText (toText (.saved stored)) = .saved stored := by
  let value : Json := .object [
    ("version", .nat stored.version), ("source", .text stored.source),
    ("index", stored.index.toJson)]
  have spelled : Spelled Json.levelLimit value := by
    refine .object ?_
    simp only [List.forall_mem_cons, List.not_mem_nil, IsEmpty.forall_iff, implies_true, and_true]
    exact ⟨.nat small, .text _ _, bounded.spelled_toJson _⟩
  have apart : ["version", "source", "index"].Nodup := by decide
  have source : Shape.string (.text stored.source) = .ok stored.source := rfl
  have read : Shape.storedIndex value = .ok stored :=
    Outcome.bind_eq_ok.2 ⟨_, rfl,
      Outcome.bind_eq_ok.2 ⟨_, Shape.required_of_mem apart (by simp) (nat32_nat small),
      Outcome.bind_eq_ok.2 ⟨_, Shape.required_of_mem apart (by simp) source,
      Outcome.bind_eq_ok.2 ⟨_, Shape.required_of_mem apart (by simp)
        (Shape.index_toJson bounded), rfl⟩⟩⟩⟩
  rw [ofText, toText, Json.ofText?_compact spelled]
  simp only [read]

/-! ## What an index is made of -/

/-- A memory in which every name stands for a reference with numbers of 32 bits. -/
def Memory.FindsInRange (memory : Memory) : Prop :=
  ∀ (name : String) (ref : TypeRef), memory.found[name]? = some ref → ref.InRange

namespace Atlas

variable {atlas : Atlas} {partitions : Partitions} {memory after : Memory}

/-- The type that has a name is one of those that were asked. -/
theorem mem_of_findAmong {element : String} {ids : List Nat} {id : Nat}
    (found : atlas.findAmong element ids memory = (.ok (some id), after)) : id ∈ ids := by
  induction ids generalizing memory with
  | nil => cases found
  | cons first rest ih =>
    obtain ⟨view, _, -, found⟩ := Work.bind_eq_ok.1 found
    obtain ⟨named, _, -, found⟩ := Work.bind_eq_ok.1 found
    cases named with
    | true =>
      cases found
      exact List.mem_cons_self
    | false => exact List.mem_cons_of_mem _ (ih found)

variable (grouped : memory.partitions = some partitions)
  (below : ∀ id ∈ partitions.all, id < limit32) {name : String}
  (flat : (splitDimensions name).2 < limit32)

include grouped below flat

/-- What a name is found to stand for is a type of the groups, with the dimensions of the name. -/
theorem inRange_of_seek {ref : TypeRef}
    (sought : (atlas.seek name memory).1 = .ok (some ref)) : ref.InRange := by
  have run : atlas.seek name memory = (.ok (some ref), _) := Prod.ext sought rfl
  rw [seek] at run
  dsimp only at run
  split at run
  · cases run
  · obtain ⟨_, _, sorted, run⟩ := Work.bind_eq_ok.1 run
    cases (atlas.tables.partitions_of_known grouped).symm.trans sorted
    obtain ⟨found, _, among, run⟩ := Work.bind_eq_ok.1 run
    cases found with
    | none => cases run
    | some id =>
      cases run
      exact ⟨below id (Partitions.mem_all_of_mem_candidates (mem_of_findAmong among)), flat⟩

/-- Looking a name up keeps what is remembered in range. -/
theorem findByName_inRange (inRange : memory.FindsInRange) {found : Option TypeRef}
    (run : atlas.findByName name memory = (.ok found, after)) :
    (∀ ref ∈ found, ref.InRange) ∧ after.FindsInRange := by
  have stands : ∀ ref ∈ found, ref.InRange := by
    rintro ref rfl
    rcases atlas.findByName_cases name memory with
      ⟨other, known, looked⟩ | ⟨-, ⟨other, _, sought, looked⟩ | ⟨none, looked⟩⟩
    · cases looked.symm.trans run
      exact inRange name _ known
    · cases looked.symm.trans run
      exact inRange_of_seek grouped below flat (congrArg Prod.fst sought)
    · exact absurd (congrArg Prod.fst (looked.symm.trans run)) (none ref)
  refine ⟨stands, fun other ref known => ?_⟩
  by_cases same : other = name
  · subst same
    have remembers := findByName_remembers (congrArg Prod.fst run)
    rw [run] at remembers
    exact stands ref (remembers.symm.trans known)
  · have kept := atlas.findByName_found_of_ne memory same
    rw [run] at kept
    exact inRange other ref (kept.symm.trans known)

end Atlas

theorem mem_putGroup {name : String} {group : List Nat} {groups : List (String × List Nat)}
    {entry : String × List Nat} (listed : entry ∈ putGroup name group groups) :
    entry = (name, group) ∨ entry ∈ groups := by
  fun_induction putGroup name group groups with
  | case1 => exact .inl (List.mem_singleton.1 listed)
  | case2 first rest before =>
    rcases List.mem_cons.1 listed with same | listed
    · exact .inl same
    · exact .inr listed
  | case3 first rest =>
    rcases List.mem_cons.1 listed with same | listed
    · exact .inl same
    · exact .inr (List.mem_cons_of_mem _ listed)
  | case4 first rest _ _ ih =>
    rcases List.mem_cons.1 listed with rfl | listed
    · exact .inr List.mem_cons_self
    · exact (ih listed).imp id (List.mem_cons_of_mem _)

/-- The types of a group are related to its base. -/
theorem Graph.lt_of_mem_eventGroup {graph : Graph} (bounded : graph.Bounded) {base id : Nat}
    (small : base < limit32) (listed : id ∈ graph.eventGroup base) : id < limit32 := by
  rcases List.mem_cons.1 listed with rfl | listed
  · exact small
  · obtain ⟨listed, -⟩ := Hierarchy.mem_unmet_iff.1 listed
    rcases List.mem_append.1 listed with related | related
    all_goals exact (bounded _ ((has_iff ..).1 ((mem_relation_iff ..).1 related))).2

/-- Looking event bases up keeps groups and names in range.  By induction on the bases: each of them
is looked up in a memory in which the types by variant stay known. -/
theorem Atlas.eventGroups_inRange {atlas : Atlas} {graph : Graph} (bounded : graph.Bounded)
    {partitions : Partitions} (below : ∀ id ∈ partitions.all, id < limit32) {bases : List String}
    (flat : ∀ base ∈ bases, (splitDimensions base).2 < limit32)
    {groups result : List (String × List Nat)} {before after : Memory}
    (grouped : before.partitions = some partitions) (inRange : before.FindsInRange)
    (small : ∀ group ∈ groups, ∀ id ∈ group.2, id < limit32)
    (run : atlas.eventGroups graph bases groups before = (.ok result, after)) :
    after.FindsInRange ∧ ∀ group ∈ result, ∀ id ∈ group.2, id < limit32 := by
  induction bases generalizing groups before with
  | nil =>
    cases run
    exact ⟨inRange, small⟩
  | cons base rest ih =>
    obtain ⟨here, there⟩ := List.forall_mem_cons.1 flat
    obtain ⟨found, between, looked, run⟩ := Work.bind_eq_ok.1 run
    obtain ⟨stands, later⟩ := findByName_inRange grouped below here inRange looked
    have within := (atlas.findByName_within base before).partitions grouped
    rw [looked] at within
    cases found with
    | none => exact ih there within later small run
    | some ref =>
      refine ih there within later (fun group listed => ?_) run
      rcases mem_putGroup listed with rfl | listed
      · exact fun id => Graph.lt_of_mem_eventGroup bounded (stands ref rfl).1
      · exact small group listed

/-- **The index of a snapshot can be kept.**  When the snapshot has few enough types, and no event
base too many dimensions, the numbers of its index are numbers of 32 bits. -/
theorem Index.bounded_of_run {snapshot : Snapshot} {config : Config} {index : Index}
    {before after : Memory} (few : (Tables.ofSnapshot snapshot).typeCount ≤ limit32)
    (flat : ∀ base ∈ config.eventBaseClasses, (splitDimensions base).2 < limit32)
    (ungrouped : before.partitions = none) (unfound : before.found = ∅)
    (run : Atlas.index ⟨.ofSnapshot snapshot, config⟩ before = (.ok index, after)) :
    index.Bounded := by
  obtain ⟨hierarchy, findings, between, sorted, -, -, graph, -, grouped, lookups⟩ :=
    Atlas.index_parts run
  have bounded : index.graph.Bounded := fun edge listed => by
    have inside := (index_graph run).2.2 _ _ _ ((Graph.has_iff ..).2 listed)
    exact ⟨inside.1.trans_le few, inside.2.trans_le few⟩
  obtain ⟨_, _, got, sorted⟩ := Work.bind_eq_ok.1 sorted
  cases got
  rw [ungrouped] at sorted
  obtain ⟨partitions, _, fresh, sorted⟩ := Work.bind_eq_ok.1 sorted
  obtain ⟨read, rfl⟩ := Work.lift_eq_ok.1 fresh
  cases sorted
  have below : ∀ id ∈ index.partitions.all, id < limit32 := fun id listed =>
    (List.mem_range.1 (Partitions.mem_of_mem_all read listed)).trans_le few
  have empty : Memory.FindsInRange { before with partitions := some index.partitions } :=
    fun name ref known => by
      have none : before.found[name]? = none := unfound ▸ Std.HashMap.getElem?_empty
      cases none.symm.trans known
  obtain ⟨inRange, events⟩ := Atlas.eventGroups_inRange bounded below flat rfl empty
    (fun _ listed => absurd listed List.not_mem_nil) grouped
  refine ⟨bounded, graph ▸ Graph.pairwise_ofEdges _, below, events, fun entry listed => ?_⟩
  rw [lookups, Memory.lookups, List.mem_mergeSort] at listed
  exact inRange _ _ (Std.HashMap.mem_toList_iff_getElem?_eq_some.1 listed)

end ClassAtlas
