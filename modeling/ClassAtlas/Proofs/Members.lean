import ClassAtlas.Proofs.Inheritance
import ClassAtlas.Proofs.Rendering.Members

/-!
# Listing members

A class has three lists of member records.  What the listings of fields, methods and constructors
have in common is told once, for a part of the members (`MemberPart`).

A listing goes through classes one after the other and gives the records of each class in their
order, every one with its class and its place there (`MemberPart.Lists`).  The walk up from a type
enters each class once, however many ways lead to it, so among the inherited members every place in
a class above the type occurs once (`MemberPart.ListsAbove`).
-/

set_option autoImplicit false

namespace ClassAtlas

open Relation (ReflTransGen)

/-- The class and the place there of a member. -/
def Member.place {α : Type} (member : Member α) : Nat × Nat :=
  (member.declaring, member.index)

/-- A part of the members of a class: its records there, how such a record is read, and where the
part is among all members. -/
structure MemberPart (α : Type) where
  written : ClassRecord → List Json
  read : Json → Except Fault α
  among : ClassMembers → List α
  decodes : ∀ {record : ClassRecord} {members : ClassMembers},
    ClassMembers.ofType (.ok (.rawClass record)) = .ok members →
      decodeAll read (written record) = .ok (among members)
  none : among ⟨[], [], []⟩ = []

namespace MemberPart

/-- The fields of a class. -/
def fields : MemberPart FieldRecord where
  written := ClassRecord.fields
  read := Record.field
  among := ClassMembers.fields
  decodes run := (ClassMembers.ofType_eq_ok run).1
  none := rfl

/-- The methods of a class. -/
def methods : MemberPart MethodRecord where
  written := ClassRecord.methods
  read := Record.method
  among := ClassMembers.methods
  decodes run := (ClassMembers.ofType_eq_ok run).2.1
  none := rfl

/-- The constructors of a class. -/
def constructors : MemberPart ConstructorRecord where
  written := ClassRecord.constructors
  read := Record.constructor
  among := ClassMembers.constructors
  decodes run := (ClassMembers.ofType_eq_ok run).2.2
  none := rfl

variable {α : Type} (part : MemberPart α)

/-- The records of a part that a type has; only classes have any. -/
def entries (tables : Tables) (id : Nat) : List Json :=
  match tables.class? id with
  | .ok (some record) => part.written record
  | _ => []

/-- The records of a part that a type has, each with its place and with what it is decoded to. -/
def rows (tables : Tables) (id : Nat) : List ((Nat × Nat) × Except Fault α) :=
  (part.entries tables id).mapIdx fun index raw => ((id, index), part.read raw)

/-- What is listed are the decoded records of some classes, class by class and in the order of the
records. -/
def Lists (tables : Tables) (classes : List Nat) (listed : List (Member α)) : Prop :=
  listed.map (fun member => (member.place, Except.ok member.record)) =
    classes.flatMap (part.rows tables)

/-- What is listed are the records of a type and of all types above it in the order of the
inheritance walk, and each place in one of these types is listed once. -/
structure ListsAbove (tables : Tables) (id : Nat) (listed : List (Member α)) : Prop where
  ordered : ∃ order, tables.inherited id = .ok order ∧ part.Lists tables order listed
  once : (listed.map Member.place).Nodup
  complete : ∀ declaring index, (declaring, index) ∈ listed.map Member.place ↔
    ReflTransGen tables.Above id declaring ∧ index < (part.entries tables declaring).length

variable {part} {tables : Tables} {snapshot : Snapshot} {id : Nat}

/-- A type that is no class has no members. -/
theorem rows_of_class?_none (none : tables.class? id = .ok .none) : part.rows tables id = [] := by
  rw [rows, entries, none]
  rfl

/-- What could be read of the members of a type are its decoded records. -/
theorem rows_of_membersOf {members : ClassMembers}
    (run : (Tables.ofSnapshot snapshot).membersOf id = .ok members) :
    (part.among members).mapIdx (fun index record => ((id, index), Except.ok record)) =
      part.rows (.ofSnapshot snapshot) id := by
  obtain ⟨data, known⟩ := Tables.reads_of_membersOf run
  rw [Tables.ofSnapshot_membersOf known] at run
  have class? : (Tables.ofSnapshot snapshot).class? id = .ok data.asClass? :=
    Outcome.map_eq_ok.2 ⟨data, known, rfl⟩
  cases data with
  | rawClass record =>
    have entries : part.entries (.ofSnapshot snapshot) id = part.written record := by
      rw [entries, class?]
      rfl
    rw [rows, entries]
    refine List.ext_getElem? fun index => ?_
    have decoded : ((part.among members)[index]?).map Except.ok =
        ((part.written record)[index]?).map part.read := by
      rw [← List.getElem?_map, ← List.getElem?_map, map_of_decodeAll (part.decodes run)]
    have placed := congrArg (Option.map (Prod.mk (id, index))) decoded
    rw [Option.map_map, Option.map_map] at placed
    rw [List.getElem?_mapIdx, List.getElem?_mapIdx]
    exact placed
  | parameterized | typeVariable | wildcard =>
    cases run
    rw [part.none, rows_of_class?_none class?]
    rfl

/-- The places of the records of a type. -/
theorem map_fst_rows :
    (part.rows tables id).map Prod.fst =
      (List.range (part.entries tables id).length).map (Prod.mk id) := by
  apply List.ext_getElem
  · simp [rows]
  · intro index _ _
    simp [rows]

theorem Lists.places {classes : List Nat} {listed : List (Member α)}
    (lists : part.Lists tables classes listed) :
    listed.map Member.place = classes.flatMap fun declaring =>
      (List.range (part.entries tables declaring).length).map (Prod.mk declaring) := by
  have places := congrArg (List.map Prod.fst) lists
  rw [List.map_map, List.map_flatMap] at places
  exact places.trans (congrArg (List.flatMap · classes) (funext fun _ => map_fst_rows))

/-- Listing distinct classes repeats no place. -/
theorem Lists.once {classes : List Nat} {listed : List (Member α)}
    (lists : part.Lists tables classes listed) (distinct : classes.Nodup) :
    (listed.map Member.place).Nodup := by
  rw [lists.places, List.nodup_flatMap]
  constructor
  · intro declaring _
    exact List.nodup_range.map (Prod.mk_right_injective declaring)
  · apply distinct.imp
    intro declaring other apart place here there
    obtain ⟨_, -, rfl⟩ := List.mem_map.1 here
    obtain ⟨_, -, same⟩ := List.mem_map.1 there
    exact apart (congrArg Prod.fst same).symm

theorem Lists.mem_places {classes : List Nat} {listed : List (Member α)}
    (lists : part.Lists tables classes listed) (declaring index : Nat) :
    (declaring, index) ∈ listed.map Member.place ↔
      declaring ∈ classes ∧ index < (part.entries tables declaring).length := by
  rw [lists.places, List.mem_flatMap]
  constructor
  · rintro ⟨other, listed, place⟩
    obtain ⟨_, inside, same⟩ := List.mem_map.1 place
    cases same
    exact ⟨listed, List.mem_range.1 inside⟩
  · rintro ⟨listed, inside⟩
    exact ⟨declaring, listed, List.mem_map_of_mem (List.mem_range.2 inside)⟩

/-- A listing of all types on the walk up. -/
theorem Lists.above {order : List Nat} {listed : List (Member α)}
    (walked : tables.inherited id = .ok order) (lists : part.Lists tables order listed) :
    part.ListsAbove tables id listed := by
  obtain ⟨distinct, reached⟩ := Tables.inherited_spec walked
  refine ⟨⟨order, walked, lists⟩, lists.once distinct, fun declaring index => ?_⟩
  rw [lists.mem_places, reached]

end MemberPart

/-! ## Parameters -/

/-- Parameters are the ones with given ids, in their order; each has its position, and the class
and the place of the member that it belongs to. -/
def Member.HasParameters {α : Type} (member : Member α) (tables : Tables) (owner : ParameterOwner)
    (ids : List Nat) (parameters : List Parameter) : Prop :=
  parameters.map (fun parameter => (parameter.declaring, parameter.owner, parameter.index,
      parameter.id, Except.ok parameter.record)) =
    ids.mapIdx fun index id => (member.declaring, owner, index, id, tables.parameter id)

/-- Parameters that are read from a position on have the positions from there on. -/
theorem Member.parametersOf_eq_ok {α : Type} {member : Member α} {tables : Tables}
    {owner : ParameterOwner} {ids : List Nat} {start : Nat} {parameters : List Parameter}
    (run : member.parametersOf tables owner ids start = .ok parameters) :
    parameters.map (fun parameter => (parameter.declaring, parameter.owner, parameter.index,
        parameter.id, Except.ok parameter.record)) =
      ids.mapIdx fun index id =>
        (member.declaring, owner, start + index, id, tables.parameter id) := by
  induction ids generalizing start parameters with
  | nil =>
    cases run
    rfl
  | cons id rest ih =>
    obtain ⟨record, here, run⟩ := Outcome.bind_eq_ok.1 run
    obtain ⟨others, there, run⟩ := Outcome.bind_eq_ok.1 run
    cases run
    rw [List.map_cons, List.mapIdx_cons, ih there, here]
    simp only [Nat.add_zero, Nat.add_right_comm, Nat.add_assoc]

theorem Member.hasParameters_of_run {α : Type} {member : Member α} {tables : Tables}
    {owner : ParameterOwner} {ids : List Nat} {parameters : List Parameter}
    (run : member.parametersOf tables owner ids 0 = .ok parameters) :
    member.HasParameters tables owner ids parameters := by
  rw [HasParameters, parametersOf_eq_ok run]
  simp only [Nat.zero_add]

/-! ## The listings of a type -/

/-- The class whose members are those of a type itself: the type, or the class of a parameterized
type. -/
def Tables.ownClasses (tables : Tables) (id : Nat) : List Nat :=
  match tables.typeData id with
  | .ok (.rawClass _) => [id]
  | .ok (.parameterized record) => [record.rawType.id]
  | _ => []

/-- Every listing of members that a type gives is a listing of the classes it stands for, and every
list of parameters leads back to its member. -/
structure TypeView.ListsMembers (view : TypeView) (atlas : Atlas) (before : Memory) : Prop where
  allFields : ∀ fields, (view.fields atlas false before).1 = .ok fields →
    MemberPart.fields.ListsAbove atlas.tables view.ref.id fields
  allMethods : ∀ methods, (view.methods atlas false before).1 = .ok methods →
    MemberPart.methods.ListsAbove atlas.tables view.ref.id methods
  ownFields : ∀ fields, (view.fields atlas true before).1 = .ok fields →
    MemberPart.fields.Lists atlas.tables (atlas.tables.ownClasses view.ref.id) fields
  ownMethods : ∀ methods, (view.methods atlas true before).1 = .ok methods →
    MemberPart.methods.Lists atlas.tables (atlas.tables.ownClasses view.ref.id) methods
  constructors : ∀ constructors, (view.constructors atlas before).1 = .ok constructors →
    MemberPart.constructors.Lists atlas.tables (atlas.tables.ownClasses view.ref.id) constructors
  ofMethod : ∀ (method : Method) parameters, method.parameters atlas.tables = .ok parameters →
    method.HasParameters atlas.tables (.method method.index) method.record.parameters parameters
  ofConstructor : ∀ (constructor : Constructor) parameters,
    constructor.parameters atlas.tables = .ok parameters →
      constructor.HasParameters atlas.tables (.constructor constructor.index)
        constructor.record.parameters parameters

namespace TypeView

open MemberPart (rows_of_class?_none rows_of_membersOf)

variable {α : Type} {part : MemberPart α} {tables : Tables} {snapshot : Snapshot} {config : Config}
  {view : TypeView} {before after : Memory} {classes : List Nat} {listed : List (Member α)}

/-- Leaving out the types that are no classes leaves out no records. -/
theorem flatMap_rows_of_classesOf {ids : List Nat} (run : classesOf tables ids = .ok classes) :
    classes.flatMap (part.rows tables) = ids.flatMap (part.rows tables) := by
  induction ids generalizing classes with
  | nil =>
    cases run
    rfl
  | cons id rest ih =>
    obtain ⟨found, here, run⟩ := Outcome.bind_eq_ok.1 run
    obtain ⟨others, there, run⟩ := Outcome.bind_eq_ok.1 run
    cases run
    cases found with
    | none => exact (ih there).trans (by rw [List.flatMap_cons, rows_of_class?_none here]; rfl)
    | some record => exact congrArg (part.rows tables id ++ ·) (ih there)

/-- One class after the other is listed. -/
theorem membersIn_lists
    (run : view.membersIn ⟨.ofSnapshot snapshot, config⟩ part.among classes before =
      (.ok listed, after)) :
    part.Lists (.ofSnapshot snapshot) classes listed := by
  induction classes generalizing before listed with
  | nil =>
    cases run
    rfl
  | cons declaring rest ih =>
    obtain ⟨members, _, here, run⟩ := Work.bind_eq_ok.1 run
    obtain ⟨read, rfl⟩ := Work.lift_eq_ok.1 here
    -- the bindings are computed or not; what is listed has the same places and records
    obtain ⟨map, others, between, there, rfl⟩ : ∃ map others between,
        view.membersIn ⟨.ofSnapshot snapshot, config⟩ part.among rest between =
          (.ok others, after) ∧
        listed = (part.among members).mapIdx
          (fun index record => ⟨declaring, index, map, record⟩) ++ others := by
      split at run
      all_goals
        obtain ⟨map, _, -, run⟩ := Work.bind_eq_ok.1 run
        obtain ⟨others, _, there, run⟩ := Work.bind_eq_ok.1 run
        cases run
        exact ⟨_, _, _, there, rfl⟩
    rw [MemberPart.Lists, List.map_append, List.flatMap_cons, ih there, ← rows_of_membersOf read]
    congr 1
    apply List.ext_getElem
    · simp
    · intro index _ _
      simp [Member.place]

theorem ownClass_eq (known : tables.typeData view.ref.id = .ok view.data) :
    view.ownClass = tables.ownClasses view.ref.id := by
  rw [ownClass, Tables.ownClasses, known]
  cases view.data <;> rfl

/-- With all that is inherited the classes on the walk up are listed. -/
theorem members_listsAbove (part : MemberPart α) {listed : List (Member α)}
    (run : (view.members ⟨.ofSnapshot snapshot, config⟩ part.among false before).1 = .ok listed) :
    part.ListsAbove (.ofSnapshot snapshot) view.ref.id listed := by
  obtain ⟨classes, _, here, run⟩ := Work.bind_eq_ok.1 (Prod.ext run rfl)
  obtain ⟨classesRun, rfl⟩ := Work.lift_eq_ok.1 here
  obtain ⟨order, walked, classesRun⟩ := Outcome.bind_eq_ok.1 classesRun
  apply MemberPart.Lists.above walked
  rw [MemberPart.Lists, membersIn_lists run, flatMap_rows_of_classesOf classesRun]

/-- Alone the members of a type are those of its own class. -/
theorem members_listsOwn (part : MemberPart α) {listed : List (Member α)}
    (known : (Tables.ofSnapshot snapshot).typeData view.ref.id = .ok view.data)
    (run : (view.members ⟨.ofSnapshot snapshot, config⟩ part.among true before).1 = .ok listed) :
    part.Lists (.ofSnapshot snapshot) ((Tables.ofSnapshot snapshot).ownClasses view.ref.id)
      listed := by
  obtain ⟨classes, _, here, run⟩ := Work.bind_eq_ok.1 (Prod.ext run rfl)
  obtain ⟨own, rfl⟩ := Work.lift_eq_ok.1 here
  cases own
  rw [← ownClass_eq known]
  exact membersIn_lists run

/-- **Listing members neither loses nor repeats any.** -/
theorem members_listed
    (known : (Tables.ofSnapshot snapshot).typeData view.ref.id = .ok view.data) :
    view.ListsMembers ⟨.ofSnapshot snapshot, config⟩ before where
  allFields _ run := members_listsAbove .fields run
  allMethods _ run := members_listsAbove .methods run
  ownFields _ run := members_listsOwn .fields known run
  ownMethods _ run := members_listsOwn .methods known run
  constructors _ run := members_listsOwn .constructors known run
  ofMethod _ _ run := Member.hasParameters_of_run run
  ofConstructor _ _ run := Member.hasParameters_of_run run

end TypeView

/-- A class with a field, a method with two parameters, and a variable; the box of arrays of boxes;
and a class with a constructor that extends this box and implements the class of boxes as well. -/
def Snapshot.boxTwice : Snapshot :=
  { empty with
    types := [
      .object [("f", .object [("n", .nat 2), ("t", .nat 1)]),
        ("m", .object [("n", .nat 3), ("p", .array [.nat 0, .nat 1]), ("t", .nat 1)]),
        ("n", .nat 0), ("v", .array [.nat 1])],
      .object [("tv", .nat 1)],
      .object [("r", .nat 0), ("v", .array [.array [.nat 0, .nat 1]])],
      .object [("c", .object [("p", .nat 2)]), ("i", .nat 0), ("n", .nat 4), ("s", .nat 2)]]
    parameters := [
      .object [("n", .nat 2), ("t", .nat 1)],
      .object [("t", .nat 0)],
      .object [("n", .nat 2), ("t", .nat 2)]]
    names := [.text "Box", .text "T", .text "value", .text "swap", .text "Crate"] }

/-- The snapshot `boxTwice` with the usual settings. -/
def Atlas.boxTwice : Atlas :=
  ⟨.ofSnapshot .boxTwice, .default⟩

namespace Atlas

theorem boxTwice_exhaustive :
    (Work.onMaps (boxTwice.exhaustive 3) .empty).1 = .ok (VarMap.empty.insert 1 ⟨0, 1⟩) :=
  exhaustive_of_mapAlone (.of_behind (by decide)) (show boxTwice.mapAlone 2 3 = _ from rfl)

/-- Two ways lead to the class of boxes, and the walk enters it once. -/
theorem boxTwice_inherited : boxTwice.tables.inherited 3 = .ok [3, 2, 0] := by
  have finish : walkUp boxTwice.tables.above [1] [] = .ok [] := by rw [walkUp]
  have again : walkUp boxTwice.tables.above [1] [0] = .ok [] :=
    Tables.walkUp_cons_eq_ok.2 ⟨[], rfl, .inr ⟨by decide, finish⟩⟩
  have first : walkUp boxTwice.tables.above [0, 1] [0, 0] = .ok [0] :=
    Tables.walkUp_cons_eq_ok.2 ⟨[], rfl, .inl ⟨by decide, [], again, rfl⟩⟩
  have box : walkUp boxTwice.tables.above [0, 1, 2] [2, 0] = .ok [2, 0] :=
    Tables.walkUp_cons_eq_ok.2 ⟨[0], rfl, .inl ⟨by decide, [0], first, rfl⟩⟩
  exact Tables.walkUp_cons_eq_ok.2 ⟨[2, 0], rfl, .inl ⟨by decide, [2, 0], box, rfl⟩⟩

/-- The field and the method of a box are listed once, for the class of boxes; the constructor is
the one of the type itself; and the parameters lead back to the method and to the constructor. -/
theorem members_listed_boxTwice :
    ∃ (view : TypeView) (field : Field) (method : Method) (constructor : Constructor)
      (left right only : Parameter) (after : Memory),
      boxTwice.tables.view (.plain 3) = .ok view ∧
      view.fields boxTwice false .empty = (.ok [field], after) ∧ field.place = (0, 0) ∧
      view.methods boxTwice false .empty = (.ok [method], after) ∧ method.place = (0, 0) ∧
      view.constructors boxTwice .empty = (.ok [constructor], after) ∧
      constructor.place = (3, 0) ∧
      method.parameters boxTwice.tables = .ok [left, right] ∧
      right.place = (0, 1) ∧ right.owner = .method 0 ∧
      constructor.parameters boxTwice.tables = .ok [only] ∧
      only.place = (3, 0) ∧ only.owner = .constructor 0 ∧
      view.ListsMembers boxTwice .empty := by
  have seen : boxTwice.tables.view (.plain 3) = .ok _ := rfl
  obtain ⟨maps, run⟩ := TypeView.variableMap_of_exhaustive seen boxTwice_exhaustive
  have sub : (Tables.ofSnapshot .boxTwice).typeData 3 = .ok _ := rfl
  have box : (Tables.ofSnapshot .boxTwice).typeData 0 = .ok _ := rfl
  have classes : TypeView.classesOf boxTwice.tables [3, 2, 0] = .ok [3, 0] := rfl
  have subMembers := (Tables.ofSnapshot_membersOf sub).trans rfl
  have boxMembers := (Tables.ofSnapshot_membersOf box).trans rfl
  have fields := TypeView.members_of_above ClassMembers.fields run boxMembers rfl
    boxTwice_inherited classes subMembers rfl
  have methods := TypeView.members_of_above ClassMembers.methods run boxMembers rfl
    boxTwice_inherited classes subMembers rfl
  have constructors := TypeView.members_of_run ClassMembers.constructors run subMembers rfl rfl
  exact ⟨_, _, _, _, _, _, _, _, seen, fields, rfl, methods, rfl, constructors, rfl, rfl, rfl, rfl,
    rfl, rfl, rfl, TypeView.members_listed sub⟩

end Atlas

end ClassAtlas
