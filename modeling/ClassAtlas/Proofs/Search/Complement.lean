import ClassAtlas.Proofs.Search.Listing
import Mathlib.Tactic.IntervalCases

/-!
# Exclusive search

An exclusive search for a term finds what the inclusive one does not find: each subject of a kind
that the term speaks of is found by exactly one of the two, and subjects without a text are always
found by the exclusive one (`exclusive_complements`).

The visits complement each other without any condition.  Listing does not: a search puts the types
that it has found into order by simple name, and a simple name that is made of itself is never
complete.  So the exclusive search can be without an answer where the inclusive one has one and has
met no fault (`exclusive_ownedByItself`), and the complement is stated for snapshots in which no
type on the exclusive side is named after itself.
-/

set_option autoImplicit false

namespace ClassAtlas

open Memory (Resumes)

/-- A type on the second side of a complement is one of the snapshot, and not on the first side. -/
theorem Tables.second_of_complement (tables : Tables) {filters : List Filter}
    {first second : List Place} {id : Nat}
    (perm : (first ++ second).Perm (Place.asked filters (tables.places .classes)))
    (listed : .type id ∈ second) :
    filters ≠ [] ∧ id < tables.typeCount ∧ .type id ∉ first := by
  have here := perm.mem_iff.1 (List.mem_append_right first listed)
  cases filters with
  | nil => exact absurd here List.not_mem_nil
  | cons filter others =>
    have apart := (List.nodup_append.1 (perm.nodup_iff.2 (tables.nodup_places .classes))).2.2
    exact ⟨List.cons_ne_nil _ _, tables.mem_places_type.1 here,
      fun there => apart _ there _ listed rfl⟩

namespace SearchQuery

/-! ## Searches for one term -/

section

variable {key value : String} {term : Term} (exact : Bool) (caseSensitive : Option Bool)

theorem ofParams_single {inclusive : Bool} {filters : KindFilters}
    (known : Term.ofKey? key = some term)
    (given : term.filters value ⟨inclusive, exact, caseSensitive.getD exact⟩ = .ok filters) :
    ofParams ⟨[(key, value)], inclusive, exact, caseSensitive⟩ = .ok (empty.push filters) := by
  have expanded : Term.expand key value ⟨inclusive, exact, caseSensitive.getD exact⟩ =
      .ok (some filters) := by
    simp only [Term.expand, known, given, Except.map]
  simp only [ofParams, pushTerms, MatchOptions.ofParams, SearchParams.isCaseSensitive, expanded]
  rfl

/-- The two searches for a term that compares are opposite. -/
theorem ofParams_opposed (known : Term.ofKey? key = some term) (comparing : term.compares = true) :
    ∃ inclusive exclusive,
      ofParams ⟨[(key, value)], true, exact, caseSensitive⟩ = .ok inclusive ∧
      ofParams ⟨[(key, value)], false, exact, caseSensitive⟩ = .ok exclusive ∧
      ∀ kind, Opposed (inclusive.get kind) (exclusive.get kind) := by
  obtain ⟨wanted, unwanted, given, given', opposite⟩ :=
    Term.filters_opposite value exact (caseSensitive.getD exact) comparing
  refine ⟨_, _, ofParams_single exact caseSensitive known given,
    ofParams_single exact caseSensitive known given', fun kind => ?_⟩
  rw [KindFilters.get_push_empty, KindFilters.get_push_empty]
  exact .of_rel (opposite kind)

end

/-! ## Runs -/

variable {atlas : Atlas} {query : SearchQuery}

theorem run_of_isEmpty (bare : query.isEmpty = true) (memory : Memory) :
    query.run atlas memory = (.ok .empty, memory) := by
  rw [run, bare]
  rfl

/-- A search without failures is a visit of all types and a listing of what was found. -/
theorem visits_of_run {before after : Memory} {hits : SearchHits} (asks : query.isEmpty = false)
    (run : query.run atlas before = (.ok hits, after)) (clean : hits.failures = []) :
    ∃ found between,
      each (query.visit atlas) atlas.tables.typeIds (before, .empty) = (.ok (), between, found) ∧
      between.Within after ∧ ∀ kind, (hits.subjects kind).Perm (found.subjects kind) := by
  rw [SearchQuery.run, asks] at run
  obtain ⟨found, between, gathered, listed⟩ := Work.bind_eq_ok.1 run
  have listing : Work.Meets between.Within (found.sorted atlas) _ fun _ => True :=
    SearchHits.sorted_meets between fun view _ memory _ =>
      ⟨trivial, (Outcome.meets_true _).mono (fun _ same => same) fun _ => .inr⟩
  obtain ⟨within, failures, perm⟩ := listing.of_ok (.refl between) listed
  have visited := visitAll_iff_each.1 ⟨gathered, failures.symm.trans clean⟩
  exact ⟨found, between, visited, within, perm⟩

/-- A visit of all types without faults is a search without failures, if the names of the types that
it lists end. -/
theorem run_of_visits {start halfway : Memory} {rest : SearchHits} (asks : query.isEmpty = false)
    (visited : each (query.visit atlas) atlas.tables.typeIds (start, .empty) =
      (.ok (), halfway, rest))
    (ends : ∀ view ∈ rest.classes,
      Work.Meets (fun _ => True) (view.simpleName atlas) (fun _ => True) Fault.Final) :
    ∃ others finish, query.run atlas start = (.ok others, finish) ∧ others.failures = [] ∧
      ∀ kind, (others.subjects kind).Perm (rest.subjects kind) := by
  obtain ⟨gathered, clean⟩ := visitAll_iff_each.2 visited
  have listing : Work.Meets halfway.Within (rest.sorted atlas) _ fun _ => False :=
    SearchHits.sorted_meets halfway fun view listed =>
      (ends view listed).mono (fun _ same => same) fun _ => .inl
  obtain ⟨others, finish, listed, failures, perm⟩ := listing.exists_ok (.refl halfway)
  refine ⟨others, finish, ?_, failures.trans clean, perm⟩
  rw [run, asks]
  exact Work.bind_eq_ok.2 ⟨rest, halfway, gathered, listed⟩

/-! ## The two sides -/

variable {wanted unwanted : SearchQuery}

theorem isEmpty_of_opposed (opposed : ∀ kind, Opposed (wanted.get kind) (unwanted.get kind)) :
    wanted.isEmpty = unwanted.isEmpty := by
  have classes : wanted.classes.isEmpty = unwanted.classes.isEmpty := (opposed .classes).isEmpty
  have fields : wanted.fields.isEmpty = unwanted.fields.isEmpty := (opposed .fields).isEmpty
  have methods : wanted.methods.isEmpty = unwanted.methods.isEmpty := (opposed .methods).isEmpty
  have parameters : wanted.parameters.isEmpty = unwanted.parameters.isEmpty :=
    (opposed .parameters).isEmpty
  rw [isEmpty, isEmpty, classes, fields, methods, parameters]

theorem get_eq_nil_of_isEmpty (bare : query.isEmpty = true) (kind : SearchKind) :
    query.get kind = [] := by
  simp only [isEmpty, Bool.and_eq_true, List.isEmpty_iff] at bare
  obtain ⟨⟨⟨classes, fields⟩, methods⟩, parameters⟩ := bare
  cases kind <;> assumption

/-- What the two visits of all types find, taken together, are the places of the kinds that are
searched. -/
theorem visits_complement (opposed : ∀ kind, Opposed (wanted.get kind) (unwanted.get kind))
    {before between start : Memory} {found : SearchHits}
    (visited : each (wanted.visit atlas) atlas.tables.typeIds (before, .empty) =
      (.ok (), between, found))
    (resumes : Resumes before between start) :
    ∃ halfway rest,
      each (unwanted.visit atlas) atlas.tables.typeIds (start, .empty) = (.ok (), halfway, rest) ∧
      ∀ kind, (found.places kind ++ rest.places kind).Perm
        (Place.asked (wanted.get kind) (atlas.tables.places kind)) := by
  obtain ⟨-, splits⟩ := visits_splits opposed atlas.tables.typeIds visited
  obtain ⟨halfway, rest, mine, theirs, revisited, -, gains, gains', perm⟩ :=
    splits start .empty resumes
  refine ⟨halfway, rest, revisited, fun kind => ?_⟩
  have nothing : SearchHits.empty.places kind = [] := by cases kind <;> rfl
  have together := perm kind
  rw [List.map_append] at together
  rw [gains.places, gains'.places, nothing, List.nil_append, List.nil_append, Tables.places,
    ← Place.flatMap_asked]
  exact together

/-- A subject that is found is not one whose texts are all missing. -/
theorem not_blank_of_justified (opposed : ∀ kind, Opposed (wanted.get kind) (unwanted.get kind))
    {memory later : Memory} {found : SearchHits}
    (justified : Justified atlas wanted (memory, found))
    (known : memory.Within later) {kind : SearchKind} {subject : Subject}
    (listed : subject ∈ found.subjects kind) (asked : wanted.get kind ≠ []) :
    ¬subject.Blank atlas (Filter.testsOf (wanted.get kind)) later := by
  obtain ⟨before, after, passed, within⟩ := justified kind subject listed
  have side := opposed kind
  generalize wanted.get kind = filters at passed asked side ⊢
  generalize unwanted.get kind = others at side
  cases side with
  | none => exact absurd rfl asked
  | some opposite =>
    rw [Filter.evaluateAll_singleton] at passed
    rw [Filter.testsOf, Filter.testsOf, List.append_nil]
    exact opposite.wants.not_blank passed (within.trans known)

/-- Opposite searches complement each other where the names on the second side end. -/
theorem run_complement (opposed : ∀ kind, Opposed (wanted.get kind) (unwanted.get kind))
    (reads : atlas.tables.Reads)
    {before after start : Memory} {hits : SearchHits}
    (run : wanted.run atlas before = (.ok hits, after)) (clean : hits.failures = [])
    (proper : wanted.get .classes ≠ [] → ∀ id < atlas.tables.typeCount,
      .type id ∉ hits.places .classes → ¬atlas.tables.NamesItself id)
    (resumes : Resumes before after start) :
    ∃ others finish, unwanted.run atlas start = (.ok others, finish) ∧ others.failures = [] ∧
      ∀ kind, wanted.get kind ≠ [] →
        (hits.places kind ++ others.places kind).Perm (atlas.tables.places kind) ∧
        ∀ subject ∈ hits.subjects kind, ∀ later : Memory, after.Within later →
          ¬subject.Blank atlas (Filter.testsOf (wanted.get kind)) later := by
  cases asks : wanted.isEmpty with
  | true =>
    refine ⟨.empty, start, run_of_isEmpty ((isEmpty_of_opposed opposed).symm.trans asks) start, rfl,
      fun kind asked => absurd (get_eq_nil_of_isEmpty asks kind) asked⟩
  | false =>
    obtain ⟨found, between, visited, within, same⟩ := visits_of_run asks run clean
    obtain ⟨halfway, rest, revisited, together⟩ :=
      visits_complement opposed visited (resumes.first within)
    have samePlaces : ∀ kind, (hits.places kind).Perm (found.places kind) :=
      fun kind => (same kind).map Subject.place
    have ends : ∀ view ∈ rest.classes,
        Work.Meets (fun _ => True) (view.simpleName atlas) (fun _ => True) Fault.Final := by
      intro view listed
      have here : Place.type view.ref.id ∈ rest.places .classes :=
        List.mem_map_of_mem (List.mem_map_of_mem listed)
      obtain ⟨asked, inside, apart⟩ := atlas.tables.second_of_complement (together .classes) here
      exact TypeView.simpleName_final reads (proper asked view.ref.id inside fun there =>
        apart ((samePlaces .classes).mem_iff.1 there))
    obtain ⟨others, finish, ran, cleanly, same'⟩ :=
      run_of_visits ((isEmpty_of_opposed opposed).symm.trans asks) revisited ends
    refine ⟨others, finish, ran, cleanly, fun kind asked =>
      ⟨?_, fun subject listed later known => ?_⟩⟩
    · have all := together kind
      obtain ⟨filter, more, present⟩ := List.exists_cons_of_ne_nil asked
      rw [present, Place.asked_cons] at all
      exact ((samePlaces kind).append ((same' kind).map Subject.place)).trans all
    · exact not_blank_of_justified opposed (visits_justified visited) (within.trans known)
        ((same kind).mem_iff.1 listed) asked

/-- **An exclusive search is the complement of the inclusive one.**  For every term that compares
texts or ids, every value and every setting: when the inclusive search meets no fault, and no type
that it leaves to the exclusive one is named after itself, the exclusive search has an answer and
meets no fault, be it asked at the same time or at any later one.  Each place of a kind that the
term speaks of is that of exactly one hit of exactly one of the two searches, and no subject whose
texts are all missing is a hit of the inclusive one. -/
theorem exclusive_complements (snapshot : Snapshot) (config : Config) (key value : String)
    (exact : Bool) (caseSensitive : Option Bool) {term : Term}
    (known : Term.ofKey? key = some term) (comparing : term.compares = true) :
    ∃ inclusive exclusive,
      ofParams ⟨[(key, value)], true, exact, caseSensitive⟩ = .ok inclusive ∧
      ofParams ⟨[(key, value)], false, exact, caseSensitive⟩ = .ok exclusive ∧
      let atlas : Atlas := ⟨.ofSnapshot snapshot, config⟩
      ∀ {before after start : Memory} {hits : SearchHits},
        inclusive.run atlas before = (.ok hits, after) → hits.failures = [] →
        (inclusive.get .classes ≠ [] → ∀ id < atlas.tables.typeCount,
          .type id ∉ hits.places .classes → ¬atlas.tables.NamesItself id) →
        start = before ∨ after.Within start →
          ∃ others finish,
            exclusive.run atlas start = (.ok others, finish) ∧ others.failures = [] ∧
            ∀ kind, inclusive.get kind ≠ [] →
              (atlas.tables.places kind).Nodup ∧
              (hits.places kind ++ others.places kind).Perm (atlas.tables.places kind) ∧
              ∀ subject ∈ hits.subjects kind, ∀ later : Memory, after.Within later →
                ¬subject.Blank atlas (Filter.testsOf (inclusive.get kind)) later := by
  obtain ⟨inclusive, exclusive, asked, against, opposed⟩ :=
    ofParams_opposed exact caseSensitive known comparing
  refine ⟨inclusive, exclusive, asked, against, fun run clean proper resumes => ?_⟩
  obtain ⟨others, finish, ran, cleanly, sides⟩ :=
    run_complement opposed (Tables.ofSnapshot_reads snapshot) run clean proper resumes
  exact ⟨others, finish, ran, cleanly, fun kind addressed =>
    ⟨Tables.nodup_places _ kind, sides kind addressed⟩⟩

end SearchQuery

/-- Two classes, of which the first one has a package. -/
def Snapshot.packagedPair : Snapshot :=
  { empty with
    types := [.object [("n", .nat 0), ("P", .nat 0)], .object [("n", .nat 1)]]
    names := [.text "Box", .text "Crate"]
    packages := [⟨"demo", none⟩] }

/-- The search for the types of a package. -/
def SearchQuery.demoTypes : SearchQuery :=
  ⟨[.text (.type .package) "demo" ⟨true, false, false⟩], [], [], []⟩

/-- The class in the package is found by one search, the class without a package by the other. -/
theorem SearchQuery.exclusive_complements_packagedPair :
    ∃ inclusive exclusive hits others after finish,
      ofParams ⟨[("class-package", "demo")], true, false, none⟩ = .ok inclusive ∧
      ofParams ⟨[("class-package", "demo")], false, false, none⟩ = .ok exclusive ∧
      inclusive.run ⟨.ofSnapshot .packagedPair, .default⟩ .empty = (.ok hits, after) ∧
      exclusive.run ⟨.ofSnapshot .packagedPair, .default⟩ after = (.ok others, finish) ∧
      hits.places .classes = [.type 0] ∧ others.places .classes = [.type 1] := by
  have known : Term.ofKey? "class-package" = some (.typeText .package (some .classes)) := by rfl
  obtain ⟨inclusive, exclusive, asked, against, complement⟩ :=
    exclusive_complements .packagedPair .default "class-package" "demo" false none known rfl
  have compiled : ofParams ⟨[("class-package", "demo")], true, false, none⟩ = .ok demoTypes := rfl
  obtain rfl := Except.ok.inj (asked.symm.trans compiled)
  -- the simple name of a class is made of no other one
  have classes : ∀ id < 2, ∃ record,
      (Tables.ofSnapshot .packagedPair).typeData id = .ok (.rawClass record) := by
    intro id inside
    interval_cases id <;> exact ⟨_, rfl⟩
  have alone : ∀ id part, ¬(Tables.ofSnapshot .packagedPair).NamedBy id part := by
    rintro id part ⟨data, known, ref, listed, -⟩
    obtain ⟨record, read⟩ := classes id (Tables.typeData_lt known)
    cases read.symm.trans known
    cases listed
  have computed : (demoTypes.run ⟨.ofSnapshot .packagedPair, .default⟩ .empty).1.map
      (fun hits => (hits.failures.length, hits.places .classes)) = .ok (0, [.type 0]) := by
    with_unfolding_all rfl
  rcases run : demoTypes.run ⟨.ofSnapshot .packagedPair, .default⟩ .empty with
    ⟨fault | hits, after⟩
  · rw [run] at computed
    cases computed
  rw [run] at computed
  obtain ⟨clean, found⟩ := Prod.mk.inj (Except.ok.inj computed)
  have proper : ∀ id, ¬(Tables.ofSnapshot .packagedPair).NamesItself id := by
    rintro id ⟨part, -, cycle⟩
    obtain ⟨inner, step, -⟩ := Relation.TransGen.head'_iff.1 cycle
    exact alone part inner step
  obtain ⟨others, finish, ran, -, sides⟩ := complement run (List.length_eq_zero_iff.1 clean)
    (fun _ id _ _ => proper id) (.inr (.refl after))
  have perm := (sides .classes (List.cons_ne_nil _ _)).2.1
  rw [found] at perm
  exact ⟨_, exclusive, hits, others, after, finish, asked, against, run, ran, found,
    List.perm_singleton.1 (List.perm_cons _ |>.1 perm)⟩

/-- A class, and a type that is written with itself as its owner. -/
def Snapshot.ownedByItself : Snapshot :=
  { empty with
    types := [.object [("n", .nat 0)], .object [("r", .nat 0), ("o", .nat 1)]]
    names := [.text "Box"] }

/-- No type is in the package, so the inclusive search finds nothing and meets no fault.  The
exclusive one finds both types and asks for their simple names, of which one is made of itself. -/
theorem SearchQuery.exclusive_ownedByItself :
    ∃ inclusive exclusive hits after,
      ofParams ⟨[("class-package", "demo")], true, false, none⟩ = .ok inclusive ∧
      ofParams ⟨[("class-package", "demo")], false, false, none⟩ = .ok exclusive ∧
      inclusive.run ⟨.ofSnapshot .ownedByItself, .default⟩ .empty = (.ok hits, after) ∧
      hits.failures = [] ∧
      (exclusive.run ⟨.ofSnapshot .ownedByItself, .default⟩ .empty).1 = .error (.endless 0) :=
  ⟨_, _, _, _, by rfl, by rfl, rfl, rfl, by with_unfolding_all rfl⟩

end ClassAtlas
