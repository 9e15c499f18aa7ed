import ClassAtlas.Proofs.Answer.Listing
import ClassAtlas.Proofs.Session.Reachable

/-!
# Queries that are answered with a table

The classes around a type, its relations and the bindings of the snapshot are listed one by one, and
an item whose row cannot be made is a failure beside the rows of the others.  What is to be listed
has to be found first, and this could fail as well.  In a ready session it does not for related
classes and relations, because the pass over the types has read every type and checked what lies
above it.  So all that such a query can suffer from is a row that never ends
(`Desk.Reachable.table_queries`).

The bindings are read for the query only, and together.  One that cannot be read lets the query
fail (`Desk.bindings_strayBinding`).
-/

set_option autoImplicit false

namespace ClassAtlas

/-! ## What is related -/

namespace RelatedClass

/-- Classes inside the snapshot. -/
def Inside (tables : Tables) (related : List RelatedClass) : Prop :=
  ∀ found ∈ related, found.type.id < tables.typeCount

theorem mem_of_mem_unmet {met : List Nat} {related : List RelatedClass} {found : RelatedClass}
    (fresh : found ∈ (unmet met related).1) : found ∈ related := by
  induction related generalizing met with
  | nil => cases fresh
  | cons first rest ih =>
    rw [unmet] at fresh
    split at fresh
    · exact List.mem_cons_of_mem _ (ih fresh)
    · rcases List.mem_cons.1 fresh with rfl | fresh
      · exact List.mem_cons_self
      · exact List.mem_cons_of_mem _ (ih fresh)

theorem Inside.unmet {tables : Tables} {related : List RelatedClass}
    (inside : Inside tables related) (met : List Nat) :
    Inside tables (RelatedClass.unmet met related).1 :=
  fun found fresh => inside found (mem_of_mem_unmet fresh)

theorem type_mem_of_mem_ofClass {record : ClassRecord} {found : RelatedClass}
    (listed : found ∈ ofClass record) : found.type ∈ record.supertypes := by
  rw [ofClass, List.mem_append] at listed
  rw [ClassRecord.supertypes, List.mem_append]
  rcases listed with extended | implemented
  · obtain ⟨ref, written, rfl⟩ := List.mem_map.1 extended
    exact .inl written
  · obtain ⟨ref, written, rfl⟩ := List.mem_map.1 implemented
    exact .inr written

section

variable {tables : Tables} {hierarchy : Hierarchy}
  (read : Hierarchy.ofTables tables = .ok hierarchy)

include read

/-- The direct supertypes of a class lie inside the snapshot. -/
theorem inside_ofClass {id : Nat} {record : ClassRecord}
    (known : tables.typeData id = .ok (.rawClass record)) : Inside tables (ofClass record) := by
  intro found listed
  have above : tables.Above id found.type.id :=
    ⟨_, known, List.mem_map.2 ⟨found.type, type_mem_of_mem_ofClass listed, rfl⟩⟩
  exact Hierarchy.above_lt read above

/-- The direct supertypes of a type can be found. -/
theorem direct_eq_ok {id : Nat} {data : TypeData} (known : tables.typeData id = .ok data) :
    ∃ found, direct tables data = .ok found ∧ Inside tables found := by
  cases data with
  | rawClass record => exact ⟨_, rfl, inside_ofClass read known⟩
  | parameterized record =>
    have above : tables.Above id record.rawType.id := ⟨_, known, List.mem_singleton.2 rfl⟩
    have raw := Hierarchy.above_lt read above
    obtain ⟨data, knownRaw, -, -⟩ := Hierarchy.ofTables_row read raw
    rw [direct, Tables.class?, knownRaw]
    cases data with
    | rawClass record => exact ⟨_, rfl, inside_ofClass read knownRaw⟩
    | parameterized | wildcard | typeVariable => exact ⟨[], rfl, by rintro _ ⟨⟩⟩
  | wildcard | typeVariable => exact ⟨[], rfl, by rintro _ ⟨⟩⟩

/-- So can those of the types of a level. -/
theorem nextLevel_eq_ok {level : List TypeRef} (met : List Nat)
    (inside : ∀ ref ∈ level, ref.id < tables.typeCount) :
    ∃ fresh met', nextLevel tables met level = .ok (fresh, met') ∧ Inside tables fresh := by
  induction level generalizing met with
  | nil => exact ⟨[], met, rfl, by rintro _ ⟨⟩⟩
  | cons current rest ih =>
    obtain ⟨here, there⟩ := List.forall_mem_cons.1 inside
    obtain ⟨data, known, -, -⟩ := Hierarchy.ofTables_row read here
    obtain ⟨found, directly, foundInside⟩ := direct_eq_ok read known
    let indirect := found.map fun related => { related with relation := related.relation.indirect }
    have indirectInside : Inside tables indirect := by
      intro related listed
      obtain ⟨original, member, rfl⟩ := List.mem_map.1 listed
      exact foundInside original member
    obtain ⟨others, met', others_eq, othersInside⟩ := ih (unmet met indirect).2 there
    refine ⟨(unmet met indirect).1 ++ others, met', ?_, ?_⟩
    · simp only [nextLevel, known, directly, Outcome.ok_bind]
      rw [others_eq]
      rfl
    · intro related listed
      rcases List.mem_append.1 listed with fresh | other
      · exact indirectInside.unmet met related fresh
      · exact othersInside related other

theorem further_eq_ok (levels : Nat) (met : List Nat) {level : List TypeRef}
    (inside : ∀ ref ∈ level, ref.id < tables.typeCount) :
    ∃ found, further tables levels met level = .ok found := by
  induction levels generalizing met level with
  | zero => cases level <;> exact ⟨_, rfl⟩
  | succ levels ih =>
    cases level with
    | nil => exact ⟨_, rfl⟩
    | cons current rest =>
      obtain ⟨fresh, met', next, freshInside⟩ := nextLevel_eq_ok read met inside
      have further : ∀ ref ∈ fresh.map RelatedClass.type, ref.id < tables.typeCount := by
        intro ref listed
        obtain ⟨related, member, rfl⟩ := List.mem_map.1 listed
        exact freshInside related member
      obtain ⟨others, others_eq⟩ := ih met' further
      refine ⟨(fresh ++ others.1, others.2), ?_⟩
      simp only [RelatedClass.further, next, Outcome.ok_bind]
      rw [others_eq]
      rfl

/-- **The classes around a type can be found.** -/
theorem relatedClasses_eq_ok {id : Nat} {view : TypeView}
    (seen : tables.view (.plain id) = .ok view) :
    ∃ related, view.relatedClasses tables = .ok related := by
  obtain ⟨data, known, seen⟩ := Outcome.bind_eq_ok.1 seen
  cases seen
  obtain ⟨found, directly, inside⟩ := direct_eq_ok read known
  have near : ∀ ref ∈ (unmet [id] found).1.map RelatedClass.type, ref.id < tables.typeCount := by
    intro ref listed
    obtain ⟨related, member, rfl⟩ := List.mem_map.1 listed
    exact inside.unmet [id] related member
  obtain ⟨far, further⟩ := further_eq_ok read (tables.typeCount + 1) (unmet [id] found).2 near
  refine ⟨(unmet [id] found).1 ++ far.1 ++ (unmet far.2 (nesting data)).1, ?_⟩
  simp only [TypeView.relatedClasses, directly, Outcome.ok_bind, TypeRef.plain] at further ⊢
  rw [further]
  rfl

end

end RelatedClass

/-! ## Answers -/

namespace Answering

variable {α β : Type}

theorem bind_of_ok {first : Answering α} {next : α → Answering β} {before between : Memory}
    {value : α} (run : first before = (.ok value, between)) :
    (first >>= next) before = next value between := by
  show (ExceptT.bind first next) before = _
  simp only [ExceptT.bind, ExceptT.mk, bind, StateT.bind, run, ExceptT.bindCont]

theorem bind_of_error {first : Answering α} {next : α → Answering β} {before after : Memory}
    {flaw : RequestError} (run : first before = (.error flaw, after)) :
    (first >>= next) before = (.error flaw, after) := by
  show (ExceptT.bind first next) before = _
  simp only [ExceptT.bind, ExceptT.mk, bind, StateT.bind, run, ExceptT.bindCont]
  rfl

end Answering

theorem Work.requested_of_ok {α : Type} {step : Work α} {before after : Memory} {value : α}
    (run : step before = (.ok value, after)) : requested step before = (.ok value, after) := by
  rw [requested, run]
  rfl

theorem Work.requested_of_error {α : Type} {step : Work α} {before after : Memory} {fault : Fault}
    (run : step before = (.error fault, after)) :
    requested step before = (.error (.ofFault fault), after) := by
  rw [requested, run]
  rfl

/-- A target that is the number of a type in decimal digits, blanks around it aside. -/
def DocQuery.Numeral (target : String) (id : Nat) : Prop :=
  (Text.trimmed target).toList ≠ [] ∧ (Text.trimmed target).toList.all Text.isDigit = true ∧
    Text.readNat limit32 (Text.trimmed target) = some id

instance (target : String) (id : Nat) : Decidable (DocQuery.Numeral target id) :=
  inferInstanceAs (Decidable (_ ∧ _ ∧ _))

/-- The number of a type leads to the type, whatever is remembered. -/
theorem DocQuery.target_of_numeral {atlas : Atlas} {target : String} {id : Nat} {view : TypeView}
    (numeral : Numeral target id) (inside : id < atlas.tables.typeCount)
    (seen : atlas.tables.view (.plain id) = .ok view) (memory : Memory) :
    DocQuery.target atlas target memory = (.ok view, memory) := by
  obtain ⟨nonempty, digits, read⟩ := numeral
  have resolved : atlas.resolve target memory = (.ok (some (.plain id)), memory) := by
    have digital : (!(Text.trimmed target).isEmpty &&
        (Text.trimmed target).toList.all Text.isDigit) = true := by
      rw [digits, Bool.and_true]
      simpa [String.isEmpty_iff, ← String.toList_eq_nil_iff] using nonempty
    simp only [Atlas.resolve, digital, if_true, read, Option.filter_some, decide_eq_true inside]
    rfl
  rw [DocQuery.target, Answering.bind_of_ok (Work.requested_of_ok resolved)]
  exact Work.requested_of_ok (Work.lift_eq_ok.2 ⟨seen, rfl⟩)

/-- The row of a related class, as it is seen from the type that is asked about. -/
def TypeView.relatedRow (view : TypeView) (atlas : Atlas) (found : RelatedClass) :
    Work RelatedEntry := do
  let seen ← view.relatedView atlas found
  return ⟨found.relation.label, ← ClassEntry.ofView atlas seen⟩

/-- The row of a relation. -/
def Atlas.relationRow (atlas : Atlas) (pair : RelationKind × Nat) : Work RelationEntry := do
  return ⟨pair.1, ← DocQuery.entryOf atlas pair.2⟩

/-- How a relation is called in failures. -/
def DocQuery.relationSubject (pair : RelationKind × Nat) : String :=
  s!"{pair.1.wireName} {typeSubject pair.2}"

/-- A query that a session answers with a table of items: one row or one failure for each, as long
as every row ends. -/
def Session.Lists {ι α : Type} (session : Session) (query : DocQuery)
    (form : Listing α → QueryResult) (subject : ι → String) (row : ι → Work α)
    (items : List ι) : Prop :=
  (Listing.Ends row items session.memory →
    ∃ listing after, session.query query = (.ok (form listing), { session with memory := after }) ∧
      Listing.Accounts subject row items session.memory listing after) ∧
  (¬Listing.Ends row items session.memory →
    ∃ id after, session.query query =
      (.error (.ofFault (.endless id)), { session with memory := after }))

/-- A ready session that can be reached answers from its index. -/
theorem Desk.Reachable.ready_eq {desk : Desk} {brought : Brought}
    (reachable : desk.Reachable brought) (standing : desk.session.state = .ready) :
    ∃ index, desk.session.index? = some index ∧
      desk.session.ready = .ok ⟨desk.session.atlas, index, desk.session.loadedFromCache⟩ := by
  obtain ⟨index, installed⟩ := Option.isSome_iff_exists.1 (reachable.backed.installed standing)
  exact ⟨index, installed, Session.ready_eq_ok_iff.2 ⟨standing, index, installed, rfl⟩⟩

section

variable {session : Session} {prepared : Prepared}

theorem Session.query_of_run (ready : session.ready = .ok prepared) {query : DocQuery}
    {outcome : Except RequestError QueryResult} {after : Memory}
    (run : query.run prepared session.memory = (outcome, after)) :
    session.query query = (outcome, { session with memory := after }) := by
  simp only [Session.query, ready, run]

/-- A query that only lists items is answered with a table. -/
theorem Session.lists_of_run {ι α : Type} {query : DocQuery} {form : Listing α → QueryResult}
    {subject : ι → String} {row : ι → Work α} {items : List ι}
    (ready : session.ready = .ok prepared)
    (run : query.run prepared session.memory =
      (do return form (← Work.requested (Listing.build subject row items)) : Answering QueryResult)
        session.memory) :
    session.Lists query form subject row items := by
  constructor
  · intro ends
    obtain ⟨listing, after, built, accounts⟩ := Listing.build_of_ends subject ends
    refine ⟨listing, after, Session.query_of_run ready ?_, accounts⟩
    rw [run, Answering.bind_of_ok (Work.requested_of_ok built)]
    rfl
  · intro endless
    obtain ⟨id, after, built⟩ := Listing.build_of_not_ends subject endless
    refine ⟨id, after, Session.query_of_run ready ?_⟩
    rw [run, Answering.bind_of_error (Work.requested_of_error built)]

end

/-- Bindings of which one cannot be read are not answered with a table. -/
theorem Session.query_bindings_of_unread {session : Session} {prepared : Prepared}
    (ready : session.ready = .ok prepared) {fault : Fault}
    (unread : prepared.atlas.tables.readBindings = .error fault) :
    session.query .bindings = (.error (.ofFault fault), session) := by
  have failed : Work.lift prepared.atlas.tables.readBindings session.memory =
      (.error fault, session.memory) := by
    rw [Work.lift_apply, unread]
  refine query_of_run ready ?_
  rw [DocQuery.run, Answering.bind_of_error (Work.requested_of_error failed)]

/-- Bindings that can be read are one for each entry. -/
theorem Tables.readBindings_eq_ok {tables : Tables} {bindings : List Binding}
    (read : tables.readBindings = .ok bindings) :
    List.Forall₂ (fun raw binding => readBinding raw = .ok binding) tables.bindings bindings := by
  rw [readBindings] at read
  generalize tables.bindings = entries at read
  induction entries generalizing bindings with
  | nil =>
    cases read
    exact .nil
  | cons raw rest ih =>
    obtain ⟨first, here, read⟩ := Outcome.bind_eq_ok.1 read
    obtain ⟨others, there, read⟩ := Outcome.bind_eq_ok.1 read
    cases read
    exact .cons here (ih there)

/-- **Tables leave no item out.**  In every ready session that can be reached, the classes around a
type that is given by its number, its relations of one kind or of all kinds, and the bindings if all
of them can be read, are each answered with a table that has one row or one failure for each item,
in the order of the items, unless a row never ends.  Finding the items does not fail.  Bindings of
which one cannot be read have no table. -/
theorem Desk.Reachable.table_queries {desk : Desk} {brought : Brought}
    (reachable : desk.Reachable brought) (ready : desk.session.state = .ready) :
    let session := desk.session
    let atlas := session.atlas
    (∀ target id, DocQuery.Numeral target id → id < atlas.tables.typeCount →
      ∃ view, atlas.tables.view (.plain id) = .ok view ∧
        (∃ related, view.relatedClasses atlas.tables = .ok related ∧
          session.Lists (.related target) .related
            (fun found => DocQuery.typeSubject found.type.id) (view.relatedRow atlas) related) ∧
        ∃ index, session.index? = some index ∧ ∀ kind,
          session.Lists (.relations target kind) .relations DocQuery.relationSubject
            atlas.relationRow (DocQuery.relationPairs index.graph id kind)) ∧
    (∀ bindings, atlas.tables.readBindings = .ok bindings →
      List.Forall₂ (fun raw binding => Tables.readBinding raw = .ok binding)
        atlas.tables.bindings bindings ∧
      session.Lists .bindings .bindings (fun binding => s!"binding {binding.name}")
        (BindingEntry.ofBinding atlas) bindings) ∧
    ∀ fault, atlas.tables.readBindings = .error fault →
      session.query .bindings = (.error (.ofFault fault), session) := by
  intro session atlas
  obtain ⟨hierarchy, read⟩ := reachable.hierarchy ready
  obtain ⟨index, installed, prepared⟩ := reachable.ready_eq ready
  refine ⟨fun target id numeral inside => ?_, fun bindings readable =>
    ⟨Tables.readBindings_eq_ok readable, ?_⟩, fun _ => Session.query_bindings_of_unread prepared⟩
  · obtain ⟨data, known, -, -⟩ := Hierarchy.ofTables_row read inside
    have seen : atlas.tables.view (.plain id) = .ok ⟨.plain id, data, .empty⟩ :=
      Outcome.bind_eq_ok.2 ⟨data, known, rfl⟩
    obtain ⟨related, found⟩ := RelatedClass.relatedClasses_eq_ok read seen
    have aimed := DocQuery.target_of_numeral numeral inside seen session.memory
    refine ⟨_, seen, ⟨related, found, Session.lists_of_run prepared ?_⟩, index, installed,
      fun kind => Session.lists_of_run prepared ?_⟩
    · have listed := Work.requested_of_ok (Work.lift_eq_ok.2 ⟨found, rfl⟩ :
        Work.lift _ session.memory = (.ok related, session.memory))
      rw [DocQuery.run, Answering.bind_of_ok aimed, Answering.bind_of_ok listed]
      rfl
    · rw [DocQuery.run, Answering.bind_of_ok aimed]
      rfl
  · have listed := Work.requested_of_ok (Work.lift_eq_ok.2 ⟨readable, rfl⟩ :
      Work.lift _ session.memory = (.ok bindings, session.memory))
    refine Session.lists_of_run prepared ?_
    rw [DocQuery.run, Answering.bind_of_ok listed]

/-! ### A binding to a type outside the snapshot -/

/-- A class, and a binding to a type that is not there. -/
def Snapshot.farBinding : Snapshot :=
  { empty with
    types := [.object [("n", .nat 0)]]
    names := [.text "Box"]
    bindings := [.array [.text "far", .nat 7]] }

/-- A desk with a session on `farBinding`, prepared. -/
def Desk.farBinding : Desk :=
  (prepare ⟨.ofSnapshot { Config.default with eventBaseClasses := [] } .farBinding, none⟩).2

/-- The binding can be read but has no row, so the table has one failure.  Nothing is around the
class. -/
theorem Desk.table_queries_farBinding :
    (∃ listing after, farBinding.session.query .bindings = (.ok (.bindings listing), after) ∧
      listing.rows.length + listing.failures.length = 1) ∧
    ∃ listing after, farBinding.session.query (.related "0") = (.ok (.related listing), after) ∧
      listing.rows.length + listing.failures.length = 0 := by
  obtain ⟨brought, reachable⟩ : ∃ brought, farBinding.Reachable brought :=
    (Reachable.opened _ _ honest_none).prepare
  have ready : farBinding.session.state = .ready := by decide +kernel
  have atlas : farBinding.session.atlas.tables = .ofSnapshot .farBinding := by
    rw [farBinding, prepare_atlas]
    rfl
  obtain ⟨around, bound, -⟩ := reachable.table_queries ready
  rw [atlas] at around bound
  constructor
  · obtain ⟨-, answered, -⟩ := bound [⟨"far", ⟨7, 0⟩, none⟩] rfl
    have rowless : ∀ memory, BindingEntry.ofBinding farBinding.session.atlas ⟨"far", ⟨7, 0⟩, none⟩
        memory = (.error (.invalidId .types 7 1), memory) := by
      intro memory
      rw [BindingEntry.ofBinding, atlas]
      exact Work.bind_of_error rfl
    obtain ⟨listing, after, given, accounts⟩ := answered
      ⟨by rw [rowless]; exact Outcome.ends_error.2 (by rintro _ ⟨⟩), trivial⟩
    exact ⟨listing, _, given, accounts.length⟩
  · obtain ⟨view, seen, ⟨related, found, answered, -⟩, -⟩ :=
      around "0" 0 (by decide +kernel) (by decide +kernel)
    cases seen
    cases found
    obtain ⟨listing, after, given, accounts⟩ := answered trivial
    exact ⟨listing, _, given, accounts.length⟩

/-- **A binding that cannot be read leaves a ready session without the table of bindings**, with a
fault in its place. -/
theorem Desk.bindings_strayBinding : ∃ desk brought fault, Reachable desk brought ∧
    desk.session.state = .ready ∧ desk.session.atlas.tables = .ofSnapshot .strayBinding ∧
    desk.session.query .bindings = (.error (.ofFault fault), desk.session) := by
  obtain ⟨ready, prepared, atlas, standing, -⟩ := prepare_strayBinding_eq
  obtain ⟨brought, reachable⟩ : ∃ brought, (prepare ⟨.strayBinding, none⟩).2.Reachable brought :=
    (Reachable.opened _ _ honest_none).prepare
  rw [prepared] at reachable
  obtain ⟨index, -, answering⟩ := reachable.ready_eq standing
  obtain ⟨fault, unread⟩ := Session.strayBinding_bindings
  have tables : ready.atlas.tables = .ofSnapshot .strayBinding := by
    rw [atlas]
    rfl
  exact ⟨⟨ready, none⟩, brought, fault, reachable, standing, tables,
    Session.query_bindings_of_unread answering (tables ▸ unread)⟩

end ClassAtlas
