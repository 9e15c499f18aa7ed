import ClassAtlas.Proofs.Rendering.Nesting
import ClassAtlas.Proofs.Rendering.Questions
import ClassAtlas.Proofs.Search.Listing

/-!
# What a search asks

A search asks for members, for names and for packages.  On a searchable snapshot each of these
questions has one answer, or it always fails, and it always ends (`Atlas.Searchable`).  The same
then holds of whether a subject passes a filter (`Filter.evaluate_sure`).

A snapshot is searchable when no supertype has an owner, names and packages are nested no deeper
than the limit, types end when they are asked for their names, and no type is named after itself
(`Atlas.searchable_ofSnapshot`).  Records that cannot be read do no harm: reading them ends in a
fault of their own.
-/

set_option autoImplicit false

namespace ClassAtlas

/-! ## Records -/

theorem Outcome.meets_mapM {α β : Type} {step : α → Except Fault β} {items : List α}
    {fault : Fault → Prop} (each : ∀ item ∈ items, Meets (step item) (fun _ => True) fault) :
    Meets (items.mapM step) (fun _ => True) fault := by
  induction items with
  | nil => trivial
  | cons item rest ih =>
    obtain ⟨here, there⟩ := List.forall_mem_cons.1 each
    rw [List.mapM_cons]
    exact here.bind fun first _ => (ih there).bind fun others _ => trivial

namespace Record

theorem readPayload_final (body : List Char) :
    Outcome.Meets (readPayload body) (fun _ => True) Fault.Final := by
  rw [readPayload]
  repeat' split
  all_goals first | trivial | exact fun id same => by cases same

theorem readScalar_final (text : List Char) :
    Outcome.Meets (readScalar text) (fun _ => True) Fault.Final := by
  fun_induction readScalar text with
  | case1 | case2 | case3 => trivial
  | case4 text first body _ _ _ _ ih =>
    refine (Outcome.meets_mapM fun piece _ => ?_).bind fun items _ => trivial
    exact ih piece.1 piece.2
  | case5 text first body =>
    have payload := readPayload_final (dropClose '\x7d' body)
    cases read : readPayload (dropClose '\x7d' body) with
    | error flaw => rwa [read] at payload
    | ok value => trivial
  | case6 => trivial
  | case7 => exact fun id same => by cases same

theorem readFields_final (keys parts : List String) :
    Outcome.Meets (readFields keys parts) (fun _ => True) Fault.Final := by
  induction keys generalizing parts with
  | nil => cases parts <;> trivial
  | cons key keys ih =>
    cases parts with
    | nil => trivial
    | cons part parts =>
      exact (readScalar_final part.toList).bind fun value _ => (ih parts).bind fun rest _ => trivial

theorem checkArity_final (kind : RecordKind) (found : Nat) (raw : Json) :
    Outcome.Meets (checkArity kind found raw) (fun _ => True) Fault.Final := by
  rw [checkArity]
  split
  · trivial
  · exact fun id same => by cases same

theorem keyed_final (kind : RecordKind) (raw : Json) :
    Outcome.Meets (keyed kind raw) (fun _ => True) Fault.Final := by
  cases raw with
  | object members => trivial
  | text encoded =>
    refine (checkArity_final kind _ _).bind fun _ _ => ?_
    exact (readFields_final kind.schema _).bind fun members _ => trivial
  | array items => exact (checkArity_final kind _ _).bind fun _ _ => trivial
  | null | bool | number => exact fun id same => by cases same

/-- Reading a record of a member either succeeds or ends in a fault of the record. -/
theorem decode_final {α : Type} (kind : RecordKind)
    (read : List (String × Json) → Except Mismatch α) (raw : Json) :
    Outcome.Meets (decode kind read raw) (fun _ => True) Fault.Final := by
  refine (keyed_final kind raw).bind fun members _ => ?_
  cases read members with
  | ok record => trivial
  | error cause => exact fun id same => by cases same

end Record

theorem decodeAll_final {α : Type} {decode : Json → Except Fault α}
    (each : ∀ raw, Outcome.Meets (decode raw) (fun _ => True) Fault.Final) (raws : List Json) :
    Outcome.Meets (decodeAll decode raws) (fun _ => True) Fault.Final := by
  induction raws with
  | nil => trivial
  | cons raw rest ih => exact (each raw).bind fun first _ => ih.bind fun others _ => trivial

theorem ClassMembers.ofType_final {outcome : Except Fault TypeData}
    (reads : Outcome.Meets outcome (fun _ => True) Fault.Final) :
    Outcome.Meets (ofType outcome) (fun _ => True) Fault.Final := by
  cases outcome with
  | error flaw => exact reads
  | ok data =>
    cases data with
    | rawClass record =>
      refine (decodeAll_final (Record.decode_final _ _) _).bind fun fields _ => ?_
      refine (decodeAll_final (Record.decode_final _ _) _).bind fun methods _ => ?_
      exact (decodeAll_final (Record.decode_final _ _) _).bind fun constructors _ => trivial
    | parameterized | typeVariable | wildcard => trivial

namespace Tables

theorem entry_final {α : Type} {table : Table} {entries : Array (Except Fault α)} {id : Nat}
    (each : ∀ found, entries[id]? = some found → Outcome.Meets found (fun _ => True) Fault.Final) :
    Outcome.Meets (entry table entries id) (fun _ => True) Fault.Final := by
  rw [entry]
  cases listed : entries[id]? with
  | some found => exact each found listed
  | none => exact fun other same => by cases same

theorem ofSnapshot_membersOf_final (snapshot : Snapshot) (id : Nat) :
    Outcome.Meets ((ofSnapshot snapshot).membersOf id) (fun _ => True) Fault.Final := by
  refine entry_final fun found listed => ?_
  rw [show (ofSnapshot snapshot).members = (ofSnapshot snapshot).types.map ClassMembers.ofType from
    rfl, Array.getElem?_map] at listed
  obtain ⟨outcome, there, rfl⟩ := Option.map_eq_some_iff.1 listed
  refine ClassMembers.ofType_final ?_
  have reads := ofSnapshot_reads snapshot id
  rw [typeData, entry, there] at reads
  cases outcome with
  | error flaw => exact reads
  | ok data => trivial

theorem ofSnapshot_parameter_final (snapshot : Snapshot) (id : Nat) :
    Outcome.Meets ((ofSnapshot snapshot).parameter id) (fun _ => True) Fault.Final := by
  refine entry_final fun found listed => ?_
  rw [show (ofSnapshot snapshot).parameters =
    (snapshot.parameters.map Record.parameter).toArray from rfl, List.getElem?_toArray,
    List.getElem?_map] at listed
  obtain ⟨raw, -, rfl⟩ := Option.map_eq_some_iff.1 listed
  exact Record.decode_final _ _ raw

end Tables

/-! ## Searchable snapshots -/

namespace Tables

variable {tables : Tables}

theorem packageWithin_final_outside {id : Nat} (outside : ¬id < tables.typeCount) (levels : Nat) :
    Work.Meets (fun _ => True) (tables.packageWithin (levels + 1) id) (fun _ => True)
      Fault.Final := by
  intro memory _
  rw [packageWithin, Work.bind_apply, typeData_eq_error outside]
  exact ⟨trivial, fun other same => by cases same⟩

/-- The package of a type ends where its simple name does: it is that of the class which the type is
named after. -/
theorem packageWithin_final (reads : tables.Reads) {levels id : Nat}
    (within : Descent.Within (fun outer part => tables.NamedBy outer part ∧
      part < tables.typeCount) levels id) :
    Work.Meets (fun _ => True) (tables.packageWithin (levels + 1) id) (fun _ => True)
      Fault.Final := by
  induction levels generalizing id with
  | zero => cases within
  | succ levels ih =>
    refine (Work.meets_lift (reads id)).bind fun data known => ?_
    cases data with
    | wildcard | typeVariable => exact Work.meets_pure trivial
    | rawClass record =>
      cases written : record.package with
      | none =>
        simp only [written]
        exact Work.meets_pure trivial
      | some package =>
        simp only [written]
        exact (packageName_meets (fun _ _ _ => trivial) package).mono (fun _ _ => trivial)
          fun _ fails => fails.1
    | parameterized record =>
      by_cases inside : record.rawType.id < tables.typeCount
      · exact ih (within _ ⟨⟨_, known, record.rawType, List.mem_cons_self, rfl⟩, inside⟩)
      · exact packageWithin_final_outside inside levels

end Tables

theorem TypeView.packageName_final {atlas : Atlas} {view : TypeView} (reads : atlas.tables.Reads)
    (proper : ¬atlas.tables.NamesItself view.ref.id) :
    Work.Meets (fun _ => True) (view.packageName atlas) (fun _ => True) Fault.Final := by
  by_cases inside : view.ref.id < atlas.tables.typeCount
  · exact Tables.packageWithin_final reads (Tables.within_namedBy inside proper)
  · exact Tables.packageWithin_final_outside inside _

namespace Atlas

/-- Every type ends when it is asked for its names, whatever was asked before. -/
def NamesEnd (atlas : Atlas) : Prop :=
  ∀ view, atlas.tables.view view.ref = .ok view → ∀ appendPackage includeGenerics,
    Work.Meets (Memory.Faithful atlas)
      (view.nameOptions atlas appendPackage includeGenerics >>= view.nameWith atlas)
      (fun _ => True) Fault.Final

/-- Snapshots of which every question of a search has one answer, or always fails, and ends. -/
structure Searchable (atlas : Atlas) : Prop where
  steadfast : atlas.Steadfast
  names : ∀ id, atlas.tables.ShallowName id
  reads : atlas.tables.Reads
  members : ∀ id, Outcome.Meets (atlas.tables.membersOf id) (fun _ => True) Fault.Final
  parameters : ∀ id, Outcome.Meets (atlas.tables.parameter id) (fun _ => True) Fault.Final
  namings : atlas.NamesEnd
  proper : ∀ id, ¬atlas.tables.NamesItself id

theorem searchable_ofSnapshot {snapshot : Snapshot} {config : Config}
    (nested : (Tables.ofSnapshot snapshot).Nested)
    (unowned : (Tables.ofSnapshot snapshot).SupertypesUnowned)
    (namings : Atlas.NamesEnd ⟨.ofSnapshot snapshot, config⟩)
    (proper : ∀ id, ¬(Tables.ofSnapshot snapshot).NamesItself id) :
    Atlas.Searchable ⟨.ofSnapshot snapshot, config⟩ where
  steadfast := ⟨detached_of_unowned unowned, nested.legible⟩
  names := nested.shallowName
  reads := Tables.ofSnapshot_reads snapshot
  members := Tables.ofSnapshot_membersOf_final snapshot
  parameters := Tables.ofSnapshot_parameter_final snapshot
  namings := namings
  proper := proper

end Atlas

/-! ### Types without variables -/

section

variable {atlas : Atlas} (steadfast : atlas.Steadfast)

include steadfast

/-- A type whose map is empty has no bindings, whatever is remembered. -/
theorem TypeView.variableMap_always {view : TypeView} (bare : view.outer = .empty) {levels : Nat}
    (unbound : atlas.mapAlone levels view.ref.id = .ok .empty) :
    Work.Always (Memory.Faithful atlas) (view.variableMap atlas) .empty := by
  refine (variableMap_steady steadfast).always (Memory.faithful_empty atlas) ?_
  have own : (atlas.exhaustive view.ref.id ∅).1 = .ok .empty :=
    (Atlas.exhaustive_ok_iff (steadfast.detached _) (MapMemory.settled_empty atlas) _).2
      (Atlas.settles_of_mapAlone unbound)
  rcases run : atlas.exhaustive view.ref.id ∅ with ⟨outcome, maps⟩
  rw [run] at own
  obtain rfl : outcome = .ok .empty := own
  have known : atlas.typeVariableMap view.ref.id .empty =
      (.ok .empty, { Memory.empty with maps := maps }) :=
    Work.bind_eq_ok.2 ⟨_, _, Work.onMaps_of_eq run, rfl⟩
  rw [variableMap, Work.bind_of_ok known, bare]
  rfl

/-- Types end when they are asked for their names if they have no variables, their maps are empty
and they can be written. -/
theorem Atlas.namesEnd_of_unbound
    (unbound : ∀ id data, atlas.tables.typeData id = .ok data →
      data.declaredVariables = [] ∧ (∃ levels, atlas.mapAlone levels id = .ok .empty) ∧
        ∀ appendPackage includeGenerics, ∃ levels text,
          atlas.tables.textAlone levels (.plain id)
            ⟨.empty, false, appendPackage, includeGenerics, false⟩ = .ok text) :
    atlas.NamesEnd := by
  rintro ⟨ref, data, outer⟩ seen appendPackage includeGenerics
  obtain ⟨_, known, same⟩ := Outcome.bind_eq_ok.1 seen
  obtain ⟨plain, ⟨_, empty⟩, written⟩ := unbound _ _ known
  obtain ⟨_, text, given⟩ := written appendPackage includeGenerics
  cases same
  set options : NameOptions := ⟨.empty, false, appendPackage, includeGenerics, false⟩
  have map : Work.Always (Memory.Faithful atlas)
      (TypeView.variableMap ⟨ref, data, .empty⟩ atlas) .empty :=
    TypeView.variableMap_always steadfast rfl empty
  have asked : Work.Always (Memory.Faithful atlas) (TypeView.nameOptions ⟨ref, data, .empty⟩ atlas
      appendPackage includeGenerics) options := map.bind (Work.always_pure options)
  have base : Work.Always (Memory.Faithful atlas) (atlas.tables.render ref.element options) text :=
    Tables.render_always steadfast.legible given
  have suffix : Work.Always (Memory.Faithful atlas)
      (TypeView.declaredSuffix ⟨ref, data, .empty⟩ atlas options) "" := by
    rw [TypeView.declaredSuffix, plain]
    exact Work.always_pure ""
  have named : Work.Always (Memory.Faithful atlas)
      (TypeView.nameWith ⟨ref, data, .empty⟩ atlas options) (text ++ "" ++ arraySuffix ref.depth) :=
    base.bind (suffix.bind (Work.always_pure _))
  exact (asked.bind named).mono (fun _ _ => trivial) fun _ never => never.elim

end

/-! ## Questions -/

section

variable {atlas : Atlas} (searchable : atlas.Searchable)

include searchable

theorem Tables.view_sure (ref : TypeRef) :
    Work.Sure (Memory.Faithful atlas) (Work.lift (atlas.tables.view ref))
      (atlas.tables.view ref = .ok ·) := by
  refine Work.sure_lift ?_
  refine (searchable.reads ref.id).bind fun data _ => ?_
  trivial

theorem Method.parameters_sure (method : Method) :
    Work.Sure (Memory.Faithful atlas) (Work.lift (method.parameters atlas.tables))
      (method.parameters atlas.tables = .ok ·) := by
  refine Work.sure_lift ?_
  have final : ∀ ids index, Outcome.Meets
      (method.parametersOf atlas.tables (.method method.index) ids index) (fun _ => True)
      Fault.Final := by
    intro ids
    induction ids with
    | nil => exact fun index => trivial
    | cons id rest ih =>
      exact fun index => (searchable.parameters id).bind fun record _ =>
        (ih (index + 1)).bind fun others _ => trivial
  exact final _ _

theorem Tables.optionalName_sure (id : Option Nat) :
    Work.Sure (Memory.Faithful atlas) (atlas.tables.optionalName id) fun _ => True := by
  refine Work.Steady.sure ?_ (optionalName_final id)
  cases id with
  | none => exact Work.steady_pure trivial
  | some id => exact (name_steady (searchable.names id)).bind fun _ _ => Work.steady_pure trivial

namespace TypeView

theorem simpleName_sure (view : TypeView) :
    Work.Sure (Memory.Faithful atlas) (view.simpleName atlas) fun _ => True :=
  (simpleName_steady searchable.steadfast).sure
    (simpleName_final searchable.reads (searchable.proper _))

theorem packageName_sure (view : TypeView) :
    Work.Sure (Memory.Faithful atlas) (view.packageName atlas) fun _ => True :=
  (packageName_steady searchable.steadfast).sure
    (packageName_final searchable.reads (searchable.proper _))

variable {view : TypeView} (seen : atlas.tables.view view.ref = .ok view)

include seen

theorem naming_sure (appendPackage includeGenerics : Bool) :
    Work.Sure (Memory.Faithful atlas)
      (view.nameOptions atlas appendPackage includeGenerics >>= view.nameWith atlas)
      fun _ => True :=
  ⟨nameOptions_bind_steady searchable.steadfast appendPackage includeGenerics,
    searchable.namings view seen appendPackage includeGenerics⟩

/-- The variables of a type are asked for whenever its name is. -/
theorem variableMap_sure :
    Work.Sure (Memory.Faithful atlas) (view.variableMap atlas) fun _ => True := by
  refine ⟨variableMap_steady searchable.steadfast, fun memory faithful => ?_⟩
  refine ⟨((variableMap_steady searchable.steadfast).keeps memory faithful).1, ?_⟩
  have naming := (searchable.namings view seen true true memory faithful).2
  rcases run : view.variableMap atlas memory with ⟨fault | map, after⟩
  · have options : view.nameOptions atlas true true memory = (.error fault, after) :=
      Work.bind_of_error run
    rwa [Work.bind_of_error options] at naming
  · trivial

theorem members_sure {α : Type} (part : ClassMembers → List α) :
    Work.Sure (Memory.Faithful atlas) (view.members atlas part true) fun _ => True := by
  have among : ∀ classes, Work.Sure (Memory.Faithful atlas) (view.membersIn atlas part classes)
      fun _ => True := by
    intro classes
    induction classes with
    | nil => exact Work.sure_pure trivial
    | cons declaring rest ih =>
      refine (Work.sure_lift (searchable.members declaring)).bind fun members _ => ?_
      dsimp only
      split
      · exact (Work.sure_pure trivial).bind fun map (_ : True) => ih.bind fun others _ =>
          Work.sure_pure trivial
      · exact (variableMap_sure searchable seen).bind fun map _ => ih.bind fun others _ =>
          Work.sure_pure trivial
  exact among view.ownClass

end TypeView

/-! ## Attributes -/

namespace Subject

omit searchable in
/-- The type that tests on a subject ask is one that is seen without bindings from outside. -/
def Seen (subject : Subject) (tables : Tables) : Prop :=
  ∀ view, subject.typeView tables = .ok view → tables.view view.ref = .ok view

omit searchable in
theorem view_of_view {tables : Tables} {ref : TypeRef} {view : TypeView}
    (given : tables.view ref = .ok view) : tables.view view.ref = .ok view := by
  obtain ⟨data, known, same⟩ := Outcome.bind_eq_ok.1 given
  cases same
  exact given

theorem memberName_sure (subject : Subject) :
    Work.Sure (Memory.Faithful atlas) (subject.memberName atlas.tables) fun _ => True := by
  cases subject with
  | type view => exact Work.sure_pure trivial
  | field | method | parameter => exact Tables.optionalName_sure searchable _

theorem typeAttribute_sure {view : TypeView} (seen : atlas.tables.view view.ref = .ok view)
    (aspect : TypeAttribute) :
    Work.Sure (Memory.Faithful atlas) (typeAttribute atlas view aspect) fun _ => True := by
  have some : ∀ {step : Work String}, Work.Sure (Memory.Faithful atlas) step (fun _ => True) →
      Work.Sure (Memory.Faithful atlas) (do return some (← step)) fun _ => True :=
    fun sure => sure.bind fun _ _ => Work.sure_pure trivial
  cases aspect with
  | referenceName => exact some (TypeView.naming_sure searchable seen true true)
  | name => exact some (TypeView.naming_sure searchable seen false true)
  | simpleName => exact some (view.simpleName_sure searchable)
  | package => exact some (view.packageName_sure searchable)
  | rawType =>
    rw [typeAttribute]
    split
    · refine (Tables.view_sure searchable _).bind fun raw given => ?_
      exact some (TypeView.naming_sure searchable (view_of_view given) true false)
    · exact Work.sure_pure trivial

variable {subject : Subject} (seen : subject.Seen atlas.tables)

include seen

theorem typeView_sure :
    Work.Sure (Memory.Faithful atlas) (Work.lift (subject.typeView atlas.tables))
      (subject.typeView atlas.tables = .ok ·) := by
  refine Work.sure_lift ?_
  have read : ∀ ref, Outcome.Meets (atlas.tables.view ref) (fun _ => True) Fault.Final :=
    fun ref => (searchable.reads ref.id).bind fun data _ => trivial
  cases subject with
  | type view => trivial
  | field | method | parameter => exact read _

theorem attributeText_sure (aspect : Attribute) :
    Work.Sure (Memory.Faithful atlas) (subject.attributeText atlas aspect) fun _ => True := by
  cases aspect with
  | memberName => exact subject.memberName_sure searchable
  | type aspect =>
    exact (typeView_sure searchable seen).bind fun view given =>
      typeAttribute_sure searchable (seen view given) aspect

theorem passes_sure (test : Predicate) :
    Work.Sure (Memory.Faithful atlas) (subject.passes atlas test) fun _ => True := by
  cases test with
  | text aspect matcher =>
    exact (attributeText_sure searchable seen aspect).bind fun text _ => Work.sure_pure trivial
  | id id inclusive =>
    exact (typeView_sure searchable seen).bind fun view _ => Work.sure_pure trivial
  | parameterCount count => cases subject <;> exact Work.sure_pure trivial
  | variant wanted expected =>
    exact (typeView_sure searchable seen).bind fun view _ => Work.sure_pure trivial
  | never => exact Work.sure_pure trivial

end Subject

end

/-! ## Filters -/

namespace Filter

variable {atlas : Atlas} {subject : Subject}

mutual
/-- **A subject passes a filter or not, or it fails to say so, whatever was asked before.** -/
theorem evaluate_sure (searchable : atlas.Searchable) (seen : subject.Seen atlas.tables)
    (filter : Filter) :
    Work.Sure (Memory.Faithful atlas) (evaluate atlas subject filter) fun _ => True := by
  cases filter with
  | leaf test => exact Subject.passes_sure searchable seen test
  | all filters => exact evaluateAll_sure searchable seen filters
  | any filters => exact evaluateAny_sure searchable seen filters
  | not filter =>
    exact (evaluate_sure searchable seen filter).bind fun answer _ => Work.sure_pure trivial

theorem evaluateAll_sure (searchable : atlas.Searchable) (seen : subject.Seen atlas.tables)
    (filters : List Filter) :
    Work.Sure (Memory.Faithful atlas) (evaluateAll atlas subject filters) fun _ => True := by
  cases filters with
  | nil => exact Work.sure_pure trivial
  | cons filter rest =>
    refine (evaluate_sure searchable seen filter).bind fun answer _ => ?_
    split
    · exact evaluateAll_sure searchable seen rest
    · exact Work.sure_pure trivial

theorem evaluateAny_sure (searchable : atlas.Searchable) (seen : subject.Seen atlas.tables)
    (filters : List Filter) :
    Work.Sure (Memory.Faithful atlas) (evaluateAny atlas subject filters) fun _ => True := by
  cases filters with
  | nil => exact Work.sure_pure trivial
  | cons filter rest =>
    refine (evaluate_sure searchable seen filter).bind fun answer _ => ?_
    split
    · exact Work.sure_pure trivial
    · exact evaluateAny_sure searchable seen rest
end

end Filter

end ClassAtlas
