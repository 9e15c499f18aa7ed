import ClassAtlas.Proofs.Search.Searchable

/-!
# What a visit finds

There is a list of subjects to find at a type: the type itself and, if it is a class, its fields,
its methods and the parameters of its methods (`Atlas.subjectsOf`).  A visit of the type finds those
that pass the filters of their kind, and it does so whatever was asked and found before.  If it
fails, it always fails, and then it has found those that come before the fault.

This is stated for the steps of a visit (`Yields`) and passes from the steps of a sequence to the
sequence (`Yields.bind`, `yields_each`).
-/

set_option autoImplicit false

namespace ClassAtlas

/-! ## What there is to find -/

/-- Items of one kind only. -/
def SearchKind.only {α : Type} (kind : SearchKind) (items : List α) (other : SearchKind) : List α :=
  if other = kind then items else []

/-- A list that is asked for at first, empty if that fails. -/
def Work.listed {α : Type} (step : Work (List α)) : List α :=
  (step .empty).1.toOption.getD []

theorem Work.listed_of_ok {α : Type} {step : Work (List α)} {items : List α}
    (given : (step .empty).1 = .ok items) : step.listed = items := by
  rw [listed, given]
  rfl

theorem Work.listed_of_error {α : Type} {step : Work (List α)} {fault : Fault}
    (given : (step .empty).1 = .error fault) : step.listed = [] := by
  rw [listed, given]
  rfl

/-- The places of the parameters of a method. -/
def Method.parameterPlaces (method : Method) : List Place :=
  (List.range method.record.parameters.length).map
    (.parameter method.declaring (.method method.index))

/-- The parameters of a method, none if they cannot be read. -/
def Method.listedParameters (method : Method) (tables : Tables) : List Subject :=
  ((method.parameters tables).toOption.getD []).map .parameter

namespace TypeView

/-- The members of a class, and the parameters of its methods. -/
def memberSubjects (view : TypeView) (atlas : Atlas) : SearchKind → List Subject
  | .classes => []
  | .fields => (Work.listed (view.fields atlas true)).map .field
  | .methods => (Work.listed (view.methods atlas true)).map .method
  | .parameters =>
    (Work.listed (view.methods atlas true)).flatMap (·.listedParameters atlas.tables)

/-- A type, and what belongs to it if it is a class. -/
def subjects (view : TypeView) (atlas : Atlas) (kind : SearchKind) : List Subject :=
  SearchKind.only .classes [.type view] kind ++
    if view.data.isClass then view.memberSubjects atlas kind else []

end TypeView

/-- The subjects of a kind at a type, none if the type cannot be read. -/
def Atlas.subjectsOf (atlas : Atlas) (id : Nat) (kind : SearchKind) : List Subject :=
  match atlas.tables.view (.plain id) with
  | .ok view => view.subjects atlas kind
  | .error _ => []

namespace Filter

/-- Whether a subject passes all filters. -/
def accepts (atlas : Atlas) (filters : List Filter) (subject : Subject) : Bool :=
  (evaluateAll atlas subject filters .empty).1.toOption.getD false

/-- The subjects that pass all filters.  Without filters nothing is looked for. -/
def chosen (atlas : Atlas) (filters : List Filter) (subjects : List Subject) : List Subject :=
  if filters.isEmpty then [] else subjects.filter (accepts atlas filters)

variable {atlas : Atlas} {filters : List Filter}

theorem chosen_nil (filters : List Filter) : chosen atlas filters [] = [] :=
  ite_self []

theorem chosen_append (first second : List Subject) :
    chosen atlas filters (first ++ second) =
      chosen atlas filters first ++ chosen atlas filters second := by
  unfold chosen
  split
  · rfl
  · exact List.filter_append ..

theorem chosen_flatMap {α : Type} (items : List α) (subjects : α → List Subject) :
    chosen atlas filters (items.flatMap subjects) =
      items.flatMap fun item => chosen atlas filters (subjects item) := by
  induction items with
  | nil => exact chosen_nil filters
  | cons item rest ih => rw [List.flatMap_cons, List.flatMap_cons, chosen_append, ih]

theorem chosen_sublist (subjects : List Subject) :
    (chosen atlas filters subjects).Sublist subjects := by
  unfold chosen
  split
  · exact List.nil_sublist _
  · exact List.filter_sublist

end Filter

theorem SearchKind.flatMap_only {α β : Type} (kind other : SearchKind) (items : List α)
    (parts : α → List β) :
    items.flatMap (fun item => kind.only (parts item) other) =
      kind.only (items.flatMap parts) other := by
  unfold only
  split
  · rfl
  · exact List.flatMap_eq_nil_iff.2 fun _ _ => rfl

namespace SearchQuery

/-! ## Steps that find -/

/-- How a step ends: with a fault of its own if it fails. -/
def Concludes (fails : Bool) (outcome : Except Fault Unit) : Prop :=
  if fails then ∃ fault, outcome = .error fault ∧ fault.Final else outcome = .ok ()

/-- Whatever was asked and found before, a step finds the same subjects, and it always fails or
never. -/
def Finds (atlas : Atlas) (step : Visit) (gain : SearchKind → List Subject) (fails : Bool) : Prop :=
  ∀ (memory : Memory) (hits : SearchHits), memory.Faithful atlas →
    (step (memory, hits)).2.1.Faithful atlas ∧ Gains hits (step (memory, hits)).2.2 gain ∧
      Concludes fails (step (memory, hits)).1

/-- A step finds wanted subjects: all of them unless it fails, and in any case the first ones.  What
else holds if it does not fail is `complete`. -/
def Yields (atlas : Atlas) (step : Visit) (wanted : SearchKind → List Subject) (complete : Prop) :
    Prop :=
  ∃ gain fails, Finds atlas step gain fails ∧ (∀ kind, gain kind <+: wanted kind) ∧
    (fails = false → gain = wanted ∧ complete)

variable {atlas : Atlas} {step step' : Visit} {wanted wanted' : SearchKind → List Subject}
  {complete complete' : Prop}

theorem Yields.congr (yields : Yields atlas step wanted complete)
    (same : ∀ kind, wanted kind = wanted' kind) (onward : complete → complete') :
    Yields atlas step wanted' complete' := by
  obtain rfl := funext same
  obtain ⟨gain, fails, finds, first, all⟩ := yields
  exact ⟨gain, fails, finds, first, fun fine => ⟨(all fine).1, onward (all fine).2⟩⟩

theorem yields_pure : Yields atlas (pure ()) (fun _ => []) True :=
  ⟨fun _ => [], false, fun _ hits faithful => ⟨faithful, .refl hits, rfl⟩,
    fun _ => List.prefix_rfl, fun _ => ⟨rfl, trivial⟩⟩

theorem Yields.bind (left : Yields atlas step wanted complete)
    (right : Yields atlas step' wanted' complete') :
    Yields atlas (step >>= fun _ => step') (fun kind => wanted kind ++ wanted' kind)
      (complete ∧ complete') := by
  obtain ⟨gain, fails, finds, first, all⟩ := left
  cases fails with
  | true =>
    refine ⟨gain, true, fun memory hits faithful => ?_,
      fun kind => (first kind).trans (List.prefix_append _ _), fun fine => by cases fine⟩
    obtain ⟨kept, gains, fault, failed, final⟩ := finds memory hits faithful
    rw [Work.bind_apply]
    rcases run : step (memory, hits) with ⟨outcome, after⟩
    rw [run] at kept gains failed
    cases failed
    exact ⟨kept, gains, fault, rfl, final⟩
  | false =>
    obtain ⟨rfl, here⟩ := all rfl
    obtain ⟨gain', fails', finds', first', all'⟩ := right
    refine ⟨fun kind => gain kind ++ gain' kind, fails', fun memory hits faithful => ?_,
      fun kind => List.prefix_append_right_inj _ |>.2 (first' kind), fun fine => ?_⟩
    · obtain ⟨kept, gains, ended⟩ := finds memory hits faithful
      rw [Work.bind_apply]
      rcases run : step (memory, hits) with ⟨outcome, between, few⟩
      rw [run] at kept gains ended
      obtain rfl : outcome = .ok () := ended
      obtain ⟨kept', gains', ended'⟩ := finds' between few kept
      exact ⟨kept', gains.trans gains', ended'⟩
    · obtain ⟨rfl, there⟩ := all' fine
      exact ⟨rfl, here, there⟩

/-- A question that is sure is answered, or it always fails. -/
theorem Yields.aside_bind {α : Type} {question : Work α} {next : α → Visit} {result : α → Prop}
    (sure : Work.Sure (Memory.Faithful atlas) question result)
    (then_ : ∀ value, result value → Yields atlas (next value) wanted complete) :
    Yields atlas (aside question >>= next) wanted complete := by
  obtain ⟨answer, holds, meets⟩ := sure.steady
  have answered : ∀ {memory hits value after}, question memory = (.ok value, after) →
      (aside question >>= next) (memory, hits) = next value (after, hits) :=
    fun given => Work.bind_of_ok (by rw [aside, given])
  have refused : ∀ {memory hits fault after}, question memory = (.error fault, after) →
      (aside question >>= next) (memory, hits) = (.error fault, after, hits) :=
    fun given => Work.bind_of_error (by rw [aside, given])
  cases answer with
  | none =>
    refine ⟨fun _ => [], true, fun memory hits faithful => ?_, fun kind => List.nil_prefix,
      fun fine => by cases fine⟩
    obtain ⟨kept, outcome⟩ := meets memory faithful
    have final := (sure.ends memory faithful).2
    rcases run : question memory with ⟨fault | value, after⟩
    · rw [run] at kept final
      rw [refused run]
      exact ⟨kept, .refl hits, fault, rfl, final⟩
    · rw [run] at outcome
      cases outcome
  | some value =>
    obtain ⟨gain, fails, finds, rest⟩ := then_ value (holds value rfl)
    refine ⟨gain, fails, fun memory hits faithful => ?_, rest⟩
    obtain ⟨kept, outcome⟩ := meets memory faithful
    rcases run : question memory with ⟨fault | value', after⟩
    · rw [run] at outcome
      cases outcome
    · rw [run] at kept outcome
      cases outcome
      rw [answered run]
      exact finds after hits kept

theorem yields_each {α : Type} {step : α → Visit} {wanted : α → SearchKind → List Subject}
    {complete : α → Prop} (each_ : ∀ item, Yields atlas (step item) (wanted item) (complete item))
    (items : List α) :
    Yields atlas (each step items) (fun kind => items.flatMap (wanted · kind))
      (∀ item ∈ items, complete item) := by
  induction items with
  | nil => exact yields_pure.congr (fun _ => rfl) fun _ => List.forall_mem_nil _
  | cons item rest ih =>
    exact ((each_ item).bind ih).congr (fun _ => rfl) fun both => List.forall_mem_cons.2 both

/-! ## Subjects that are considered -/

section

variable (searchable : atlas.Searchable)

include searchable

/-- **A subject is found if it passes.** -/
theorem yields_consider {kind : SearchKind} {subject : Subject} {add : SearchHits → SearchHits}
    (adds : Adds kind subject add) (seen : subject.Seen atlas.tables) (filters : List Filter) :
    Yields atlas (consider atlas filters subject add)
      (kind.only (Filter.chosen atlas filters [subject])) True := by
  cases asked : filters.isEmpty with
  | true =>
    have idle : consider atlas filters subject add = pure () := by
      funext state
      rw [consider, asked]
      rfl
    rw [idle, Filter.chosen, asked]
    exact yields_pure.congr (fun other => (ite_self []).symm) id
  | false =>
    have steps : consider atlas filters subject add =
        aside (Filter.evaluateAll atlas subject filters) >>= fun answer state =>
          (.ok (), state.1, if answer then add state.2 else state.2) := by
      funext state
      rw [consider, asked, Work.bind_apply, aside]
      rcases Filter.evaluateAll atlas subject filters state.1 with ⟨fault | answer, after⟩
      · rfl
      · cases answer <;> rfl
    rw [steps]
    refine Yields.aside_bind ((Filter.evaluateAll_sure searchable seen filters).given
      (Memory.faithful_empty atlas)) fun answer given => ?_
    have passes : Filter.accepts atlas filters subject = answer := by
      rw [Filter.accepts, given]
      rfl
    have found : Filter.chosen atlas filters [subject] = if answer then [subject] else [] := by
      rw [Filter.chosen, asked, List.filter_singleton, passes]
      cases answer <;> rfl
    rw [found]
    refine ⟨_, false, fun memory hits faithful => ⟨faithful, ?_, rfl⟩, fun _ => List.prefix_rfl,
      fun _ => ⟨rfl, trivial⟩⟩
    cases answer with
    | true => exact adds hits
    | false =>
      have nothing : (kind.only (α := Subject) []) = fun _ => [] := funext fun _ => ite_self []
      exact nothing ▸ Gains.refl hits

theorem yields_considerEach {α : Type} {kind : SearchKind} {subject : α → Subject}
    {add : α → SearchHits → SearchHits} (adds : ∀ item, Adds kind (subject item) (add item))
    (seen : ∀ item, (subject item).Seen atlas.tables) (filters : List Filter) (items : List α) :
    Yields atlas (each (fun item => consider atlas filters (subject item) (add item)) items)
      (kind.only (Filter.chosen atlas filters (items.map subject))) True := by
  refine (yields_each (fun item => yields_consider searchable (adds item) (seen item) filters)
    items).congr (fun other => ?_) fun _ => trivial
  rw [SearchKind.flatMap_only, ← Filter.chosen_flatMap, List.map_eq_flatMap]

/-! ## Members -/

theorem yields_visitParameters (filters : List Filter) (method : Method) :
    Yields atlas (visitParameters atlas filters method)
      (SearchKind.only .parameters
        (Filter.chosen atlas filters (method.listedParameters atlas.tables)))
      (filters ≠ [] → ∃ parameters, method.parameters atlas.tables = .ok parameters) := by
  cases filters with
  | nil =>
    exact yields_pure.congr (fun other => (ite_self []).symm) fun _ asked => absurd rfl asked
  | cons filter rest =>
    refine Yields.aside_bind (Method.parameters_sure searchable method) fun parameters given => ?_
    have listed : method.listedParameters atlas.tables = parameters.map .parameter := by
      rw [Method.listedParameters, given]
      rfl
    rw [listed]
    exact (yields_considerEach searchable (adds_parameter method)
      (fun _ _ => Subject.view_of_view) _ parameters).congr (fun _ => rfl)
        fun _ _ => ⟨parameters, given⟩

variable {view : TypeView} (seen : atlas.tables.view view.ref = .ok view)

include seen

theorem yields_visitFields (filters : List Filter) :
    Yields atlas (visitFields atlas filters view)
      (SearchKind.only .fields
        (Filter.chosen atlas filters (view.memberSubjects atlas .fields)))
      (filters ≠ [] → ∃ fields, (view.fields atlas true .empty).1 = .ok fields) := by
  cases filters with
  | nil =>
    exact yields_pure.congr (fun other => (ite_self []).symm) fun _ asked => absurd rfl asked
  | cons filter rest =>
    refine Yields.aside_bind ((TypeView.members_sure searchable seen ClassMembers.fields).given
      (Memory.faithful_empty atlas)) fun fields given => ?_
    replace given : (view.fields atlas true .empty).1 = .ok fields := given
    rw [TypeView.memberSubjects, Work.listed_of_ok given]
    exact (yields_considerEach searchable adds_field (fun _ _ => Subject.view_of_view) _
      fields).congr (fun _ => rfl) fun _ _ => ⟨fields, given⟩

theorem yields_visitMethods (methods parameters : List Filter) :
    Yields atlas (visitMethods atlas methods parameters view)
      (fun kind =>
        SearchKind.only .parameters
          (Filter.chosen atlas parameters (view.memberSubjects atlas .parameters)) kind ++
        SearchKind.only .methods
          (Filter.chosen atlas methods (view.memberSubjects atlas .methods)) kind)
      (methods ≠ [] ∨ parameters ≠ [] →
        ∃ found, (view.methods atlas true .empty).1 = .ok found ∧
          (parameters ≠ [] → ∀ method ∈ found,
            ∃ parameters, method.parameters atlas.tables = .ok parameters)) := by
  rw [visitMethods]
  split
  · next bare =>
    obtain ⟨rfl, rfl⟩ : methods = [] ∧ parameters = [] := by simpa using bare
    exact yields_pure.congr (fun kind => by simp [Filter.chosen, SearchKind.only])
      fun _ asked => absurd asked (by simp)
  · refine Yields.aside_bind ((TypeView.members_sure searchable seen ClassMembers.methods).given
      (Memory.faithful_empty atlas)) fun found given => ?_
    replace given : (view.methods atlas true .empty).1 = .ok found := given
    simp only [TypeView.memberSubjects, Work.listed_of_ok given]
    refine (yields_each (fun method => (yields_visitParameters searchable parameters method).bind
      (yields_consider searchable (adds_method method) (fun _ => Subject.view_of_view) methods))
        found).congr (fun kind => ?_) fun each _ => ⟨found, given, fun asked method listed =>
          (each method listed).1 asked⟩
    cases kind with
    | classes | fields => simp [SearchKind.only]
    | methods =>
      simp only [SearchKind.only, reduceCtorEq, if_false, if_true, List.nil_append]
      rw [← Filter.chosen_flatMap, List.map_eq_flatMap]
    | parameters =>
      simp only [SearchKind.only, reduceCtorEq, if_false, if_true, List.append_nil]
      rw [← Filter.chosen_flatMap]

end

/-! ## Places of what is found -/

section

variable {id : Nat} {record : ClassRecord}
  (known : atlas.tables.typeData id = .ok (.rawClass record))

include known

theorem fields_places {memory : Memory} {fields : List Field}
    (given : (TypeView.fields ⟨.plain id, .rawClass record, .empty⟩ atlas true memory).1 =
      .ok fields) :
    (fields.map Subject.field).map Subject.place = atlas.tables.placesOf id .fields := by
  obtain ⟨map, rfl⟩ := members_of_class known given
  rw [List.map_map]
  exact map_mapIdx_eq_range fun _ _ => rfl

theorem methods_places {memory : Memory} {methods : List Method}
    (given : (TypeView.methods ⟨.plain id, .rawClass record, .empty⟩ atlas true memory).1 =
      .ok methods) :
    (methods.map Subject.method).map Subject.place = atlas.tables.placesOf id .methods ∧
      methods.flatMap Method.parameterPlaces = atlas.tables.placesOf id .parameters := by
  obtain ⟨map, rfl⟩ := members_of_class known given
  refine ⟨?_, ?_⟩
  · rw [List.map_map]
    exact map_mapIdx_eq_range fun _ _ => rfl
  · rw [Tables.placesOf, List.flatMap_def, List.mapIdx_eq_zipIdx_map, List.map_map,
      List.mapIdx_eq_zipIdx_map]
    rfl

end

section

variable (tables : Tables)

theorem listedParameters_of_ok {method : Method}
    (read : ∃ parameters, method.parameters tables = .ok parameters) :
    (method.listedParameters tables).map Subject.place = method.parameterPlaces := by
  obtain ⟨parameters, read⟩ := read
  have places := parametersOf_places (read : method.parametersOf _ _ _ 0 = .ok parameters)
  rw [Method.listedParameters, read, Method.parameterPlaces, List.range_eq_range', ← places]
  exact List.map_map ..

/-- The parameters that can be read are at places of parameters. -/
theorem listedParameters_sublist (methods : List Method) :
    ((methods.flatMap (·.listedParameters tables)).map Subject.place).Sublist
      (methods.flatMap Method.parameterPlaces) := by
  induction methods with
  | nil => exact .refl []
  | cons method rest ih =>
    rw [List.flatMap_cons, List.flatMap_cons, List.map_append]
    refine List.Sublist.append ?_ ih
    cases read : method.parameters tables with
    | ok parameters => rw [listedParameters_of_ok tables ⟨parameters, read⟩]
    | error flaw =>
      rw [Method.listedParameters, read]
      exact List.nil_sublist _

theorem listedParameters_eq {methods : List Method}
    (read : ∀ method ∈ methods, ∃ parameters, method.parameters tables = .ok parameters) :
    (methods.flatMap (·.listedParameters tables)).map Subject.place =
      methods.flatMap Method.parameterPlaces := by
  rw [List.map_flatMap]
  exact List.flatMap_congr fun method listed => listedParameters_of_ok tables (read method listed)

end

/-- Whatever can be read of the members of a class is at places of the class, in their order. -/
theorem memberSubjects_sublist {id : Nat} {record : ClassRecord}
    (known : atlas.tables.typeData id = .ok (.rawClass record)) (kind : SearchKind) :
    ((TypeView.memberSubjects ⟨.plain id, .rawClass record, .empty⟩ atlas kind).map
      Subject.place).Sublist (atlas.tables.placesOf id kind) := by
  cases kind with
  | classes => exact List.nil_sublist _
  | fields =>
    rw [TypeView.memberSubjects]
    cases given : (TypeView.fields ⟨.plain id, .rawClass record, .empty⟩ atlas true .empty).1 with
    | error flaw => rw [Work.listed_of_error given]; exact List.nil_sublist _
    | ok fields => rw [Work.listed_of_ok given, fields_places known given]
  | methods =>
    rw [TypeView.memberSubjects]
    cases given : (TypeView.methods ⟨.plain id, .rawClass record, .empty⟩ atlas true .empty).1 with
    | error flaw => rw [Work.listed_of_error given]; exact List.nil_sublist _
    | ok methods => rw [Work.listed_of_ok given, (methods_places known given).1]
  | parameters =>
    rw [TypeView.memberSubjects]
    cases given : (TypeView.methods ⟨.plain id, .rawClass record, .empty⟩ atlas true .empty).1 with
    | error flaw => rw [Work.listed_of_error given]; exact List.nil_sublist _
    | ok methods =>
      rw [Work.listed_of_ok given, ← (methods_places known given).2]
      exact listedParameters_sublist atlas.tables methods

/-- Whatever can be read of a type is at places of the type, in their order. -/
theorem subjectsOf_sublist (id : Nat) (kind : SearchKind) :
    ((atlas.subjectsOf id kind).map Subject.place).Sublist (atlas.tables.placesOf id kind) := by
  rw [Atlas.subjectsOf]
  split
  · next view viewed =>
    obtain ⟨data, known, same⟩ := Outcome.bind_eq_ok.1 viewed
    cases same
    have known : atlas.tables.typeData id = .ok data := known
    cases data with
    | rawClass record =>
      cases kind with
      | classes => exact .refl _
      | fields => exact memberSubjects_sublist known .fields
      | methods => exact memberSubjects_sublist known .methods
      | parameters => exact memberSubjects_sublist known .parameters
    | parameterized | typeVariable | wildcard =>
      cases kind with
      | classes => exact .refl _
      | fields | methods | parameters => exact List.nil_sublist _
  · exact List.nil_sublist _

/-! ## Visits -/

section

variable (searchable : atlas.Searchable) {query : SearchQuery}

include searchable

/-- A visit of the members of a class finds those that pass. -/
theorem yields_visitMembers (query : SearchQuery) {id : Nat} {record : ClassRecord}
    (known : atlas.tables.typeData id = .ok (.rawClass record)) :
    Yields atlas (visitMembers atlas query ⟨.plain id, .rawClass record, .empty⟩)
      (fun kind => Filter.chosen atlas (query.get kind)
        (TypeView.memberSubjects ⟨.plain id, .rawClass record, .empty⟩ atlas kind))
      (∀ kind, kind ≠ .classes → query.get kind ≠ [] →
        (TypeView.memberSubjects ⟨.plain id, .rawClass record, .empty⟩ atlas kind).map
          Subject.place = atlas.tables.placesOf id kind) := by
  have seen : atlas.tables.view (.plain id) = .ok ⟨.plain id, .rawClass record, .empty⟩ :=
    Outcome.bind_eq_ok.2 ⟨_, known, rfl⟩
  rw [visitMembers_eq]
  refine ((yields_visitFields searchable seen query.fields).bind
    (yields_visitMethods searchable seen query.methods query.parameters)).congr
      (fun kind => ?_) ?_
  · cases kind <;>
      simp [SearchKind.only, TypeView.memberSubjects, SearchQuery.get, Filter.chosen_nil]
  · rintro ⟨readsFields, readsMethods⟩ kind member asked
    cases kind with
    | classes => exact absurd rfl member
    | fields =>
      obtain ⟨fields, given⟩ := readsFields asked
      rw [TypeView.memberSubjects, Work.listed_of_ok given]
      exact fields_places known given
    | methods =>
      obtain ⟨methods, given, -⟩ := readsMethods (.inl asked)
      rw [TypeView.memberSubjects, Work.listed_of_ok given]
      exact (methods_places known given).1
    | parameters =>
      obtain ⟨methods, given, read⟩ := readsMethods (.inr asked)
      rw [TypeView.memberSubjects, Work.listed_of_ok given, ← (methods_places known given).2]
      exact listedParameters_eq atlas.tables (read asked)

/-- **A visit finds the subjects of a type that pass.** -/
theorem yields_visit (query : SearchQuery) (id : Nat) :
    Yields atlas (query.visit atlas id)
      (fun kind => Filter.chosen atlas (query.get kind) (atlas.subjectsOf id kind))
      (∀ kind, query.get kind ≠ [] →
        (atlas.subjectsOf id kind).map Subject.place = atlas.tables.placesOf id kind) := by
  refine Yields.aside_bind (Tables.view_sure searchable _) fun view viewed => ?_
  have subjects : ∀ kind, atlas.subjectsOf id kind = view.subjects atlas kind := fun kind => by
    rw [Atlas.subjectsOf, viewed]
  have seen : atlas.tables.view view.ref = .ok view := Subject.view_of_view viewed
  obtain ⟨data, known, same⟩ := Outcome.bind_eq_ok.1 viewed
  cases same
  have known : atlas.tables.typeData id = .ok data := known
  simp only [subjects]
  have own : Yields atlas (consider atlas query.classes _ _) _ True :=
    yields_consider searchable (adds_type ⟨.plain id, data, .empty⟩)
      (fun _ same => Except.ok.inj same ▸ seen) query.classes
  cases data with
  | rawClass record =>
    refine (own.bind (yields_visitMembers searchable query known)).congr (fun kind => ?_)
      fun facts kind asked => ?_
    · cases kind <;> simp [SearchKind.only, TypeView.subjects, TypeView.memberSubjects,
        TypeData.isClass, TypeData.asClass?, SearchQuery.get, Filter.chosen_nil]
    · cases kind with
      | classes =>
        simp [SearchKind.only, TypeView.subjects, TypeView.memberSubjects, Tables.placesOf,
          Subject.place, TypeRef.plain]
      | fields | methods | parameters => exact facts.2 _ (by decide) asked
  | parameterized record | typeVariable record | wildcard record =>
    have bare : atlas.tables.declaredMembers id = ⟨[], [], []⟩ := by
      simp only [Tables.declaredMembers, known]
    refine (own.bind yields_pure).congr (fun kind => ?_) fun _ kind _ => ?_
    · cases kind <;> simp [SearchKind.only, TypeView.subjects, TypeData.isClass, TypeData.asClass?,
        Filter.chosen, SearchQuery.get]
    · cases kind <;> simp [SearchKind.only, TypeView.subjects, TypeData.isClass, TypeData.asClass?,
        Tables.placesOf, bare, Subject.place, TypeRef.plain]

end

end SearchQuery

end ClassAtlas
