import ClassAtlas.Proofs.Lookup
import ClassAtlas.Proofs.Search.Complement
import ClassAtlas.Proofs.Search.Findings
import Mathlib.Data.List.Flatten

/-!
# Types apart in a search

A search visits all types one after the other and lists what it has found.  What it finds at a type
is what a visit of that type alone finds, whatever the visits before it found and whether they
failed, so a fault costs the search no subject of another type (`SearchQuery.run_separates`).  A
type without a failure contributes its subjects that pass the filters of their kind; one with a
failure contributes the first of them.  Hits are listed by their names, and among hits of equal
names the order is that of the types and their members.

For this the listing has to end, and it asks each listed type for its simple name.  So it is stated
for snapshots in which no type is named after itself, and it fails where such a type is listed
(`SearchQuery.run_ownedByItself`).
-/

set_option autoImplicit false

namespace ClassAtlas

namespace SearchQuery

/-! ## All types -/

/-- What a visit of a type finds when nothing was asked before. -/
def foundAt (query : SearchQuery) (atlas : Atlas) (id : Nat) : SearchHits :=
  (query.visit atlas id (.empty, .empty)).2.2

/-- Whether a visit of a type fails when nothing was asked before. -/
def failsAt (query : SearchQuery) (atlas : Atlas) (id : Nat) : Bool :=
  (query.visit atlas id (.empty, .empty)).1.toOption.isNone

section

variable {atlas : Atlas} (searchable : atlas.Searchable)

include searchable

/-- **A visit finds what it finds at first, whatever was asked and found before.** -/
theorem finds_visit (query : SearchQuery) (id : Nat) :
    Finds atlas (query.visit atlas id) (query.foundAt atlas id).subjects (query.failsAt atlas id) ∧
      (∀ kind, (query.foundAt atlas id).subjects kind <+:
        Filter.chosen atlas (query.get kind) (atlas.subjectsOf id kind)) ∧
      (query.failsAt atlas id = false → ∀ kind,
        (query.foundAt atlas id).subjects kind =
          Filter.chosen atlas (query.get kind) (atlas.subjectsOf id kind) ∧
        (query.get kind ≠ [] →
          (atlas.subjectsOf id kind).map Subject.place = atlas.tables.placesOf id kind)) := by
  obtain ⟨gain, fails, finds, first, all⟩ := yields_visit searchable query id
  obtain ⟨-, gains, ended⟩ := finds .empty .empty (Memory.faithful_empty atlas)
  have same : (query.foundAt atlas id).subjects = gain := by
    funext kind
    have nothing : SearchHits.empty.subjects kind = [] := by cases kind <;> rfl
    rw [foundAt, gains.subjects, nothing, List.nil_append]
  have sameFails : query.failsAt atlas id = fails := by
    cases fails with
    | true =>
      obtain ⟨fault, failed, -⟩ := ended
      rw [failsAt, failed]
      rfl
    | false =>
      have went : (query.visit atlas id (.empty, .empty)).1 = .ok () := ended
      rw [failsAt, went]
      rfl
  rw [same, sameFails]
  refine ⟨finds, first, fun fine kind => ?_⟩
  obtain ⟨rfl, complete⟩ := all fine
  exact ⟨rfl, complete kind⟩

/-- **Types are visited as if each one were alone.** -/
theorem visitAll_finds (query : SearchQuery) (ids : List Nat) (hits : SearchHits) {memory : Memory}
    (faithful : memory.Faithful atlas) :
    ∃ found after, query.visitAll atlas ids hits memory = (.ok found, after) ∧
      after.Faithful atlas ∧
      (∀ kind, found.subjects kind =
        hits.subjects kind ++ ids.flatMap fun id => (query.foundAt atlas id).subjects kind) ∧
      found.failures.map SearchFailure.type =
        hits.failures.map SearchFailure.type ++ ids.filter (query.failsAt atlas) ∧
      ((∀ failure ∈ hits.failures, failure.fault.Final) →
        ∀ failure ∈ found.failures, failure.fault.Final) := by
  induction ids generalizing hits memory with
  | nil => exact ⟨hits, memory, rfl, faithful, fun _ => (List.append_nil _).symm,
      (List.append_nil _).symm, id⟩
  | cons id rest ih =>
    obtain ⟨kept, gains, ended⟩ := (finds_visit searchable query id).1 memory hits faithful
    rcases run : query.visit atlas id (memory, hits) with ⟨outcome, between, few⟩
    rw [run] at kept gains ended
    cases fails : query.failsAt atlas id with
    | true =>
      rw [fails] at ended
      obtain ⟨fault, failed, final⟩ := ended
      cases failed
      obtain ⟨found, after, visited, kept', subjects, failures, finals⟩ :=
        ih { few with failures := few.failures ++ [⟨id, fault⟩] } kept
      have before : ∀ kind, ({ few with failures := few.failures ++ [⟨id, fault⟩] } :
          SearchHits).subjects kind = few.subjects kind := fun kind => by cases kind <;> rfl
      refine ⟨found, after, (visitAll_of_final run final).trans visited, kept', fun kind => ?_, ?_,
        fun ends => finals ?_⟩
      · rw [subjects, before, gains.subjects, List.flatMap_cons, List.append_assoc]
      · rw [failures, gains.failures, List.filter_cons_of_pos fails, List.map_append,
          List.append_assoc]
        rfl
      · rw [gains.failures, List.forall_mem_append]
        exact ⟨ends, List.forall_mem_singleton.2 final⟩
    | false =>
      rw [fails] at ended
      obtain rfl : outcome = .ok () := ended
      obtain ⟨found, after, visited, kept', subjects, failures, finals⟩ := ih few kept
      refine ⟨found, after, (visitAll_of_ok run).trans visited, kept', fun kind => ?_, ?_,
        fun ends => finals ?_⟩
      · rw [subjects, gains.subjects, List.flatMap_cons, List.append_assoc]
      · rw [failures, gains.failures, List.filter_cons_of_neg (by simp [fails])]
      · rwa [gains.failures]

end

end SearchQuery

/-! ## Sorting by keys -/

/-- Items that come in some order still do among those of one key when they are sorted by keys. -/
theorem pairwise_mergeSort_of_pairwise {α : Type} {key : α → String} {before : α → α → Prop}
    {items : List α} (ordered : items.Pairwise before) :
    (items.mergeSort fun first second => decide (key first ≤ key second)).Pairwise
      fun first second =>
        key first < key second ∨ key first = key second ∧ before first second := by
  have trans : ∀ a b c : α, decide (key a ≤ key b) = true → decide (key b ≤ key c) = true →
      decide (key a ≤ key c) = true := fun a b c left right =>
    decide_eq_true (String.le_trans (of_decide_eq_true left) (of_decide_eq_true right))
  have total : ∀ a b : α, (decide (key a ≤ key b) || decide (key b ≤ key a)) = true := fun a b => by
    simpa using String.le_total (key a) (key b)
  -- sorting leaves the items of one key as they are
  have stable : ∀ text, (items.mergeSort fun first second => decide (key first ≤ key second)).filter
      (key · = text) = items.filter (key · = text) := by
    intro text
    have alike : (items.filter (key · = text)).Pairwise fun a b => decide (key a ≤ key b) = true :=
      List.pairwise_of_forall_mem_list fun a here b there => by
        have same : key a = text := of_decide_eq_true (List.mem_filter.1 here).2
        have same' : key b = text := of_decide_eq_true (List.mem_filter.1 there).2
        exact decide_eq_true (same.trans same'.symm ▸ String.le_refl (key a))
    have kept :=
      (List.sublist_mergeSort trans total alike List.filter_sublist).filter (key · = text)
    rw [List.filter_filter] at kept
    simp only [Bool.and_self] at kept
    exact (kept.eq_of_length ((List.mergeSort_perm items _).filter _).length_eq.symm).symm
  rw [List.pairwise_iff_forall_sublist] at ordered ⊢
  intro first second listed
  have below : key first ≤ key second := of_decide_eq_true
    (List.pairwise_iff_forall_sublist.1 (List.pairwise_mergeSort trans total items) listed)
  by_cases same : key first = key second
  · have pair := listed.filter (key · = key second)
    rw [stable] at pair
    simp only [List.filter_cons, same, decide_true, if_true, List.filter_nil] at pair
    exact .inr ⟨same, ordered (pair.trans List.filter_sublist)⟩
  · refine .inl (String.not_le.1 fun above => same (String.le_antisymm below above))

/-! ## Listing -/

namespace Subject

/-- The name under which a subject is listed: the simple name of a type, the name of a member. -/
def listName (subject : Subject) (atlas : Atlas) : Work (Option String) :=
  match subject with
  | .type view => do return some (← view.simpleName atlas)
  | .field member => atlas.tables.optionalName member.record.name
  | .method member => atlas.tables.optionalName member.record.name
  | .parameter member => atlas.tables.optionalName member.record.name

/-- A name in lower case, empty if it is missing or cannot be given. -/
def keyOf : Except Fault (Option String) → String
  | .ok (some text) => Text.lower text
  | .ok none => ""
  | .error _ => ""

/-- The key under which a subject is listed. -/
def listKey (subject : Subject) (atlas : Atlas) : String :=
  keyOf (subject.listName atlas .empty).1

/-- The order of a listing: by keys, and then by places. -/
def ListedBefore (atlas : Atlas) (first second : Subject) : Prop :=
  first.listKey atlas < second.listKey atlas ∨
    first.listKey atlas = second.listKey atlas ∧ first.place.Before second.place

end Subject

section

variable {atlas : Atlas} {α : Type}

theorem sortKey_always {name : Work (Option String)}
    (sure : Work.Sure (Memory.Faithful atlas) name fun _ => True) :
    Work.Always (Memory.Faithful atlas) (sortKey name) (Subject.keyOf (name .empty).1) := by
  intro memory faithful
  have kept := (sure.ends memory faithful).1
  have final := (sure.ends memory faithful).2
  have same := sure.steady.ok_iff faithful (Memory.faithful_empty atlas)
  rw [sortKey, Work.bind_apply, Work.attempt]
  rcases run : name memory with ⟨fault | text, after⟩
  · rw [run] at kept final same
    have failed : Subject.keyOf (name .empty).1 = "" := by
      cases fresh : (name .empty).1 with
      | error flaw => rfl
      | ok text => cases (same text).2 fresh
    rw [failed]
    cases fault with
    | endless id => exact absurd rfl (final id)
    | _ => exact ⟨kept, rfl⟩
  · rw [run] at kept same
    rw [(same text).1 rfl]
    cases text <;> exact ⟨kept, rfl⟩

/-- **Items are listed in the order of their keys.** -/
theorem sortedBy_always {name : α → Work (Option String)} {key : α → String}
    (keys : ∀ item, Work.Always (Memory.Faithful atlas) (sortKey (name item)) (key item))
    (items : List α) :
    Work.Always (Memory.Faithful atlas) (sortedBy name items)
      (items.mergeSort fun first second => key first ≤ key second) := by
  have keyed : Work.Always (Memory.Faithful atlas)
      (Work.forAll (fun item => do return (← sortKey (name item), item)) items)
      (items.map fun item => (key item, item)) := by
    induction items with
    | nil => exact Work.always_pure []
    | cons item rest ih =>
      have first : Work.Always (Memory.Faithful atlas) (do return (← sortKey (name item), item))
          (key item, item) := (keys item).bind (Work.always_pure (key item, item))
      exact first.bind (ih.bind (Work.always_pure _))
  rw [sortedBy]
  split
  · next short =>
    have alone : (items.mergeSort fun first second => decide (key first ≤ key second)) = items := by
      rcases items with _ | ⟨item, _ | ⟨other, rest⟩⟩
      · exact List.mergeSort_nil
      · exact List.mergeSort_singleton item
      · exact absurd short (by simp)
    rw [alone]
    exact Work.always_pure items
  · have dropped : ((items.map fun item => (key item, item)).mergeSort
        fun left right => decide (left.1 ≤ right.1)).map Prod.snd =
          items.mergeSort fun first second => decide (key first ≤ key second) := by
      rw [List.map_mergeSort (s := fun first second => decide (key first ≤ key second)),
        List.map_map]
      · exact congrArg (List.mergeSort · _) (List.map_id items)
      · intro left here right there
        obtain ⟨_, -, rfl⟩ := List.mem_map.1 here
        obtain ⟨_, -, rfl⟩ := List.mem_map.1 there
        rfl
    refine keyed.bind ?_
    rw [dropped]
    exact Work.always_pure _

end

section

variable {atlas : Atlas} (searchable : atlas.Searchable)

include searchable

theorem Subject.listName_sure (subject : Subject) :
    Work.Sure (Memory.Faithful atlas) (subject.listName atlas) fun _ => True := by
  cases subject with
  | type view => exact (view.simpleName_sure searchable).bind fun _ _ => Work.sure_pure trivial
  | field | method | parameter => exact Tables.optionalName_sure searchable _

/-- **Hits of each kind are listed in the order of their keys.** -/
theorem SearchHits.sorted_always (hits : SearchHits) :
    ∃ listed, Work.Always (Memory.Faithful atlas) (hits.sorted atlas) listed ∧
      listed.failures = hits.failures ∧
      ∀ kind, listed.subjects kind = (hits.subjects kind).mergeSort fun first second =>
        first.listKey atlas ≤ second.listKey atlas := by
  have keys : ∀ subject : Subject, Work.Always (Memory.Faithful atlas)
      (sortKey (subject.listName atlas)) (subject.listKey atlas) :=
    fun subject => sortKey_always (subject.listName_sure searchable)
  have classes := sortedBy_always (fun view => keys (.type view)) hits.classes
  have fields := sortedBy_always (fun field => keys (.field field)) hits.fields
  have methods := sortedBy_always (fun method => keys (.method method)) hits.methods
  have parameters :=
    sortedBy_always (fun hit : ParameterHit => keys (.parameter hit.parameter)) hits.parameters
  refine ⟨_, classes.bind (fields.bind (methods.bind (parameters.bind (Work.always_pure _)))), rfl,
    fun kind => ?_⟩
  cases kind <;> exact List.map_mergeSort fun _ _ _ _ => rfl

end

/-! ## Searches -/

namespace SearchQuery

/-- What holds of the hits of a search that keeps types apart. -/
structure Separates (query : SearchQuery) (atlas : Atlas) (found : SearchHits) : Prop where
  /-- The failures are those of the types whose visits fail alone, each once. -/
  failures : found.failures.map SearchFailure.type =
    if query.isEmpty then [] else atlas.tables.typeIds.filter (query.failsAt atlas)
  once : (found.failures.map SearchFailure.type).Nodup
  final : ∀ failure ∈ found.failures, failure.fault.Final
  /-- The hits are those of the visits of single types. -/
  hits : ∀ kind, (found.subjects kind).Perm
    (atlas.tables.typeIds.flatMap fun id => (query.foundAt atlas id).subjects kind)
  distinct : ∀ kind, (found.places kind).Nodup
  ordered : ∀ kind, (found.subjects kind).Pairwise (Subject.ListedBefore atlas)
  unasked : ∀ kind, query.get kind = [] → found.subjects kind = []
  /-- Every type contributes subjects that pass, the first of them at least. -/
  first : ∀ id kind, (query.foundAt atlas id).subjects kind <+:
    Filter.chosen atlas (query.get kind) (atlas.subjectsOf id kind)
  /-- A type without a failure contributes all of them, and all that it declares is asked. -/
  all : ∀ id < atlas.tables.typeCount, id ∉ found.failures.map SearchFailure.type → ∀ kind,
    (query.foundAt atlas id).subjects kind =
      Filter.chosen atlas (query.get kind) (atlas.subjectsOf id kind) ∧
    (query.get kind ≠ [] →
      (atlas.subjectsOf id kind).map Subject.place = atlas.tables.placesOf id kind)

section

variable {atlas : Atlas} (searchable : atlas.Searchable) (query : SearchQuery)

include searchable

theorem foundAt_places (id : Nat) (kind : SearchKind) :
    (((query.foundAt atlas id).subjects kind).map Subject.place).Sublist
      (atlas.tables.placesOf id kind) :=
  ((((finds_visit searchable query id).2.1 kind).sublist.trans
    (Filter.chosen_sublist _)).map _).trans (subjectsOf_sublist id kind)

/-- What is found at the types, one after the other, comes in the order of the places. -/
theorem flatMap_foundAt_places (kind : SearchKind) :
    ((atlas.tables.typeIds.flatMap fun id => (query.foundAt atlas id).subjects kind).map
      Subject.place).Sublist (atlas.tables.places kind) := by
  rw [List.map_flatMap]
  exact List.Sublist.flatMap_right _ fun id _ => foundAt_places searchable query id kind

theorem foundAt_eq_nil {kind : SearchKind} (unasked : query.get kind = []) (id : Nat) :
    (query.foundAt atlas id).subjects kind = [] := by
  have found := (finds_visit searchable query id).2.1 kind
  rw [unasked] at found
  exact List.prefix_nil.1 found

theorem flatMap_foundAt_eq_nil {kind : SearchKind} (unasked : query.get kind = []) :
    (atlas.tables.typeIds.flatMap fun id => (query.foundAt atlas id).subjects kind) = [] :=
  List.flatMap_eq_nil_iff.2 fun id _ => foundAt_eq_nil searchable query unasked id

/-- A search without filters finds nothing. -/
theorem separates_of_isEmpty (bare : query.isEmpty = true) : query.Separates atlas .empty := by
  have unasked := get_eq_nil_of_isEmpty bare
  have nothing : ∀ kind, SearchHits.empty.subjects kind = [] := fun kind => by cases kind <;> rfl
  exact {
    failures := by rw [bare]; rfl
    once := List.nodup_nil
    final := List.forall_mem_nil _
    hits := fun kind => by
      rw [nothing, flatMap_foundAt_eq_nil searchable query (unasked kind)]
    distinct := fun kind => by
      rw [SearchHits.places, nothing]
      exact List.nodup_nil
    ordered := fun kind => by
      rw [nothing]
      exact List.Pairwise.nil
    unasked := fun kind _ => nothing kind
    first := fun id => (finds_visit searchable query id).2.1
    all := fun id _ _ kind => by
      rw [foundAt_eq_nil searchable query (unasked kind), unasked kind]
      exact ⟨rfl, fun asked => absurd rfl asked⟩ }

/-- **A search of a searchable snapshot keeps its types apart.** -/
theorem separates_of_searchable {memory : Memory} (faithful : memory.Faithful atlas) :
    ∃ found after, query.run atlas memory = (.ok found, after) ∧ after.Faithful atlas ∧
      query.Separates atlas found := by
  cases asks : query.isEmpty with
  | true =>
    exact ⟨.empty, memory, run_of_isEmpty asks memory, faithful,
      separates_of_isEmpty searchable query asks⟩
  | false =>
    obtain ⟨gathered, between, visited, kept, subjects, failures, finals⟩ :=
      visitAll_finds searchable query atlas.tables.typeIds .empty faithful
    obtain ⟨_, listing, same, sorted⟩ := SearchHits.sorted_always searchable gathered
    obtain ⟨found, after, listed, rfl⟩ := listing.exists_ok kept
    have ran : query.run atlas memory = (.ok found, after) := by
      rw [run, asks]
      exact Work.bind_eq_ok.2 ⟨gathered, between, visited, listed⟩
    have failed : found.failures.map SearchFailure.type =
        atlas.tables.typeIds.filter (query.failsAt atlas) := by
      rw [same, failures]
      rfl
    have gains : ∀ kind, gathered.subjects kind =
        atlas.tables.typeIds.flatMap fun id => (query.foundAt atlas id).subjects kind := by
      intro kind
      rw [subjects]
      cases kind <;> rfl
    have perm : ∀ kind, (found.subjects kind).Perm
        (atlas.tables.typeIds.flatMap fun id => (query.foundAt atlas id).subjects kind) :=
      fun kind => by
        rw [sorted, gains]
        exact List.mergeSort_perm _ _
    refine ⟨found, after, ran, (listing.of_ok kept listed).1, ?_⟩
    exact {
      failures := by rw [failed, asks]; rfl
      once := failed ▸ List.nodup_range.filter _
      final := same ▸ finals (List.forall_mem_nil _)
      hits := perm
      distinct := fun kind =>
        ((perm kind).map Subject.place).nodup_iff.2
          ((atlas.tables.nodup_places kind).sublist (flatMap_foundAt_places searchable query kind))
      ordered := fun kind => by
        rw [sorted, gains]
        exact pairwise_mergeSort_of_pairwise (List.pairwise_map.1
          ((atlas.tables.pairwise_places kind).sublist
            (flatMap_foundAt_places searchable query kind)))
      unasked := fun kind unasked => List.perm_nil.1
        (flatMap_foundAt_eq_nil searchable query unasked ▸ perm kind)
      first := fun id => (finds_visit searchable query id).2.1
      all := fun id inside fine => by
        refine (finds_visit searchable query id).2.2 (Bool.eq_false_iff.2 fun fails => fine ?_)
        rw [failed]
        exact List.mem_filter.2 ⟨List.mem_range.2 inside, fails⟩ }

end

/-- **A search keeps types apart.**  On every snapshot in which no supertype has an owner, names and
packages are nested within the limit, the names of the types end and no type is named after itself,
every search has an answer, whatever was asked before.  A type is among its failures if a visit of
that type fails, and at most once; its hits are those of the visits, each one once, whatever
happened at other types, and each list of them has its order. -/
theorem run_separates (snapshot : Snapshot) (config : Config)
    (nested : (Tables.ofSnapshot snapshot).Nested)
    (unowned : (Tables.ofSnapshot snapshot).SupertypesUnowned)
    (namings : Atlas.NamesEnd ⟨.ofSnapshot snapshot, config⟩)
    (proper : ∀ id, ¬(Tables.ofSnapshot snapshot).NamesItself id) (query : SearchQuery)
    {memory : Memory} (faithful : memory.Faithful ⟨.ofSnapshot snapshot, config⟩) :
    ∃ found after, query.run ⟨.ofSnapshot snapshot, config⟩ memory = (.ok found, after) ∧
      after.Faithful ⟨.ofSnapshot snapshot, config⟩ ∧
      query.Separates ⟨.ofSnapshot snapshot, config⟩ found :=
  separates_of_searchable (Atlas.searchable_ofSnapshot nested unowned namings proper) query faithful

end SearchQuery

/-! ### A record that cannot be read -/

/-- Two classes, and between them a record that has no name. -/
def Snapshot.brokenBetween : Snapshot :=
  { empty with
    types := [.object [("n", .nat 0)], .object [("n", .bool true)], .object [("n", .nat 1)]]
    names := [.text "Crate", .text "Box"] }

/-- The search for all classes. -/
def SearchQuery.rawClasses : SearchQuery :=
  ⟨[.leaf (.variant .rawClass true)], [], [], []⟩

namespace SearchQuery

/-- Both classes are found, and the record between them is the only failure. -/
theorem run_separates_brokenBetween :
    ∃ found after,
      rawClasses.run ⟨.ofSnapshot .brokenBetween, .default⟩ .empty = (.ok found, after) ∧
      found.failures.map SearchFailure.type = [1] ∧
      (found.places .classes).Perm [.type 0, .type 2] := by
  set atlas : Atlas := ⟨.ofSnapshot .brokenBetween, .default⟩
  have classes : ∀ id data, atlas.tables.typeData id = .ok data →
      ∃ record text, data = .rawClass record ∧ record.Bare ∧ record.package = none ∧
        atlas.tables.names[record.name]? = some (.text text) := by
    intro id data known
    have inside : id < 3 := Tables.typeData_lt known
    interval_cases id <;> cases known <;> exact ⟨_, _, rfl, ⟨rfl, rfl, rfl⟩, rfl, rfl⟩
  have nested : atlas.tables.Nested := by
    refine Tables.nested_of_flat ?_ ?_
    · rw [show atlas.tables.names = #[.text "Crate", .text "Box"] from rfl]
      simp [NameEntry.refers]
    · rw [show atlas.tables.packages = #[] from rfl]
      simp
  have unowned : atlas.tables.SupertypesUnowned := by
    intro id cls supertype record known listed
    obtain ⟨_, _, same, bare, -⟩ := classes _ _ known
    cases same
    rw [bare.supertypes] at listed
    cases listed
  have namings : atlas.NamesEnd := by
    refine Atlas.namesEnd_of_unbound ⟨Atlas.detached_of_unowned unowned, nested.legible⟩ ?_
    intro id data known
    obtain ⟨record, text, rfl, bare, unpackaged, named⟩ := classes _ _ known
    refine ⟨bare.plain, ⟨1, ?_⟩, fun appendPackage includeGenerics => ⟨1, text, ?_⟩⟩
    · exact congrArg Prod.fst (Atlas.computeMap_of_rootless known bare.supertypes _ _ _)
    · exact Tables.textAlone_of_undeclared known bare.undeclared rfl
        (Tables.rawClassName_of_unpackaged unpackaged named appendPackage) 0
  have proper : ∀ id, ¬atlas.tables.NamesItself id := by
    rintro id ⟨part, -, cycle⟩
    refine Descent.not_cycle_of_lt (fun step => ?_) part cycle
    obtain ⟨_, known, _, listed, -⟩ := step
    obtain ⟨_, _, rfl, -⟩ := classes _ _ known
    cases listed
  obtain ⟨found, after, ran, -, separates⟩ := run_separates .brokenBetween .default nested unowned
    namings proper rawClasses (Memory.faithful_empty atlas)
  refine ⟨found, after, ran, separates.failures, ?_⟩
  exact (separates.hits .classes).map Subject.place

end SearchQuery

/-! ### A type that is named after itself -/

namespace Atlas

/-- The snapshot `ownedByItself` with the usual settings. -/
def ownedByItself : Atlas :=
  ⟨.ofSnapshot .ownedByItself, .default⟩

/-- Binding the owners of a type that is its own owner ends, since their number is limited. -/
theorem ownedByItself_mergeOwners (left : Nat) (memory : MapMemory) :
    ownedByItself.mergeOwners (fun other => Work.lift (ownedByItself.mapAlone 1 other)) [1] left
      (some (.plain 1)) .empty memory = (.ok .empty, memory) := by
  induction left with
  | zero => rfl
  | succ left ih => exact ih

theorem ownedByItself_mapAlone : ownedByItself.mapAlone 2 1 = .ok .empty := by
  have computed : ownedByItself.computeMap
      (fun other => Work.lift (ownedByItself.mapAlone 1 other)) [1] 1 ∅ = (.ok .empty, ∅) := by
    rw [computeMap]
    refine Work.bind_eq_ok.2 ⟨.parameterized ⟨.plain 0, some (.plain 1), []⟩, ∅, rfl, ?_⟩
    refine Work.bind_eq_ok.2 ⟨.empty, ∅, rfl, ?_⟩
    refine Work.bind_eq_ok.2 ⟨.empty, ∅, rfl, ?_⟩
    exact Work.bind_eq_ok.2 ⟨.empty, ∅, ownedByItself_mergeOwners _ _, rfl⟩
  exact congrArg Prod.fst computed

end Atlas

/-- No name and no package refers to another one, no supertype has an owner, and both types end when
they are asked for their names.  But the search for the types outside of a package lists a type that
is named after itself, and it has no answer. -/
theorem SearchQuery.run_ownedByItself :
    let atlas : Atlas := ⟨.ofSnapshot .ownedByItself, .default⟩
    atlas.tables.Nested ∧ atlas.tables.SupertypesUnowned ∧ atlas.NamesEnd ∧
      ∃ query, ofParams ⟨[("class-package", "demo")], false, false, none⟩ = .ok query ∧
        (query.run atlas .empty).1 = .error (.endless 0) := by
  intro atlas
  have nested : atlas.tables.Nested := by
    refine Tables.nested_of_flat ?_ ?_
    · rw [show atlas.tables.names = #[.text "Box"] from rfl]
      simp [NameEntry.refers]
    · rw [show atlas.tables.packages = #[] from rfl]
      simp
  have unowned : atlas.tables.SupertypesUnowned := by
    intro id cls supertype record known listed
    have inside : id < 2 := Tables.typeData_lt known
    interval_cases id
    · cases known
      cases listed
    · cases known
  refine ⟨nested, unowned, ?_, _, rfl, by with_unfolding_all rfl⟩
  refine Atlas.namesEnd_of_unbound ⟨Atlas.detached_of_unowned unowned, nested.legible⟩ ?_
  intro id data known
  have inside : id < 2 := Tables.typeData_lt known
  interval_cases id <;> cases known
  · refine ⟨rfl, ⟨1, rfl⟩, fun appendPackage includeGenerics => ⟨1, "Box", ?_⟩⟩
    cases appendPackage <;> with_unfolding_all rfl
  · refine ⟨rfl, ⟨2, Atlas.ownedByItself_mapAlone⟩, fun appendPackage includeGenerics =>
      ⟨4, "Box$Box", ?_⟩⟩
    cases appendPackage <;> cases includeGenerics <;> with_unfolding_all rfl

end ClassAtlas
