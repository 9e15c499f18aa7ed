import ClassAtlas.Lookup
import ClassAtlas.Proofs.Outcome

/-!
# What is asked of a type

Every question about a type is a sequence of requests for names, packages, substitution maps and
texts.  So what holds of these requests and passes through sequences holds of every question
(`Atlas.Asked`): that it recalls its answer, that it has one answer whatever was asked before, or
that it is answered when less is remembered.

The questions are looked at here once for all such properties.
-/

set_option autoImplicit false

namespace ClassAtlas

/-- A property of steps that passes through sequences and holds of the requests that questions about
types are made of. -/
structure Atlas.Asked (atlas : Atlas) (good : {α : Type} → Work α → Prop) : Prop where
  lift : ∀ {α : Type} (outcome : Except Fault α), good (Work.lift outcome)
  bind : ∀ {α β : Type} {first : Work α} {next : α → Work β}, good first →
    (∀ value, good (next value)) → good (first >>= next)
  className : ∀ {id : Nat} {record : ClassRecord},
    atlas.tables.typeData id = .ok (.rawClass record) → good (atlas.tables.name record.name)
  variableName : ∀ {id : Nat} {record : TypeVariableRecord},
    atlas.tables.typeData id = .ok (.typeVariable record) → good (atlas.tables.name record.name)
  package : ∀ {id : Nat} {record : ClassRecord},
    atlas.tables.typeData id = .ok (.rawClass record) → ∀ package ∈ record.package,
      good (atlas.tables.packageName package)
  map : ∀ id, good (atlas.typeVariableMap id)
  text : ∀ ref options, good (atlas.tables.render ref options)

/-- Whether a type has a name is asked by putting its names together. -/
theorem TypeView.hasName_of_names {atlas : Atlas} {view : TypeView}
    (good : {α : Type} → Work α → Prop)
    (pure_ : ∀ {α : Type} (value : α), good (pure value))
    (bind : ∀ {α β : Type} {first : Work α} {next : α → Work β}, good first →
      (∀ value, good (next value)) → good (first >>= next))
    (names : ∀ appendPackage includeGenerics, good
      (view.nameOptions atlas appendPackage includeGenerics >>= view.nameWith atlas))
    (simple : good (view.simpleName atlas)) (package : good (view.packageName atlas))
    (element : String) : good (view.hasName atlas element) := by
  rw [hasName]
  split
  · refine bind (names true true) fun reference => ?_
    split
    · exact pure_ true
    · exact bind (names true false) fun qualified => pure_ _
  · refine bind (names false true) fun own => ?_
    split
    · exact pure_ true
    · refine bind simple fun simple => ?_
      split
      · exact pure_ true
      · split
        · refine bind (bind (names true false) fun qualified => bind package fun outer => ?_)
            fun binary => pure_ _
          dsimp only
          split <;> exact pure_ _
        · exact pure_ false

namespace Atlas.Asked

variable {atlas : Atlas} {good : {α : Type} → Work α → Prop} (asked : atlas.Asked good)

include asked

theorem pure {α : Type} (value : α) : good (Pure.pure value : Work α) :=
  asked.lift (.ok value)

/-- What begins with an outcome goes on from its value. -/
theorem lift_bind {α β : Type} {outcome : Except Fault α} {next : α → Work β}
    (then_ : ∀ value, outcome = .ok value → good (next value)) :
    good (Work.lift outcome >>= next) := by
  cases outcome with
  | error fault => exact asked.lift (.error fault)
  | ok value => exact then_ value rfl

theorem forAll {α β : Type} {step : α → Work β} (each : ∀ item, good (step item))
    (items : List α) : good (Work.forAll step items) := by
  induction items with
  | nil => exact asked.pure []
  | cons item rest ih =>
    exact asked.bind (each item) fun first => asked.bind ih fun others => asked.pure _

/-! ## Packages and simple names -/

theorem packageWithin (levels id : Nat) : good (atlas.tables.packageWithin levels id) := by
  induction levels generalizing id with
  | zero => exact asked.lift (.error _)
  | succ levels ih =>
    refine asked.lift_bind fun data known => ?_
    cases data with
    | rawClass record =>
      cases written : record.package with
      | none =>
        simp only [written]
        exact asked.pure ""
      | some package =>
        simp only [written]
        exact asked.package known package written
    | parameterized record => exact ih record.rawType.id
    | typeVariable | wildcard => exact asked.pure ""

theorem simpleNameWithin (levels id : Nat) : good (atlas.tables.simpleNameWithin levels id) := by
  induction levels generalizing id with
  | zero => exact asked.lift (.error _)
  | succ levels ih =>
    refine asked.lift_bind fun data known => ?_
    cases data with
    | wildcard record => exact asked.pure "?"
    | typeVariable record => exact asked.variableName known
    | rawClass record => exact asked.className known
    | parameterized record =>
      refine asked.bind (ih record.rawType.id) fun name => ?_
      cases record.ownerType with
      | none => exact asked.pure name
      | some owner => exact asked.bind (ih owner.id) fun outer => asked.pure _

/-! ## Names -/

variable (view : TypeView)

theorem variableMap : good (view.variableMap atlas) :=
  asked.bind (asked.map view.ref.id) fun _ => asked.pure _

theorem nameOptions (appendPackage includeGenerics : Bool) :
    good (view.nameOptions atlas appendPackage includeGenerics) :=
  asked.bind (asked.variableMap view) fun _ => asked.pure _

theorem nameWith (options : NameOptions) : good (view.nameWith atlas options) := by
  refine asked.bind (asked.text _ _) fun base => asked.bind ?_ fun suffix => asked.pure _
  rw [TypeView.declaredSuffix]
  split
  · exact asked.pure ""
  · have joined : good (Tables.renderJoined atlas.tables.render
        (view.data.declaredVariables.map TypeRef.plain) ", " options) :=
      asked.bind (asked.forAll (fun ref => asked.text ref options) _) fun _ => asked.pure _
    exact asked.bind joined fun parts => asked.pure _

/-- A name with a choice of package and type arguments. -/
theorem naming (appendPackage includeGenerics : Bool) :
    good (view.nameOptions atlas appendPackage includeGenerics >>= view.nameWith atlas) :=
  asked.bind (asked.nameOptions view appendPackage includeGenerics) (asked.nameWith view)

theorem simpleName : good (view.simpleName atlas) :=
  asked.bind (asked.simpleNameWithin _ _) fun _ => asked.pure _

theorem packageName : good (view.packageName atlas) :=
  asked.packageWithin _ _

theorem hasName (element : String) : good (view.hasName atlas element) :=
  TypeView.hasName_of_names good asked.pure asked.bind (asked.naming view) (asked.simpleName view)
    (asked.packageName view) element

/-- Some types are asked for a name one after the other. -/
theorem findAmong (element : String) (ids : List Nat) : good (atlas.findAmong element ids) := by
  induction ids with
  | nil => exact asked.pure none
  | cons id rest ih =>
    refine asked.bind (asked.lift _) fun view =>
      asked.bind (asked.hasName view element) fun found => ?_
    split
    · exact asked.pure (some id)
    · exact ih

end Atlas.Asked

end ClassAtlas
