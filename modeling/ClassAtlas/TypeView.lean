import ClassAtlas.Render.Text
import ClassAtlas.Substitution

/-!
# Types as they are seen

A view of a type holds its reference and its record, and bindings from the place from which it is
seen.  Bindings from outside go before the bindings of the type itself.

What only some variants have is empty or absent for the others, so every question can be asked of
every type.
-/

set_option autoImplicit false

namespace ClassAtlas

namespace TypeData

/-- The super class of a class. -/
def superClass (data : TypeData) : Option TypeRef :=
  data.asClass?.bind ClassRecord.superClass

/-- The interfaces of a class. -/
def interfaces (data : TypeData) : List TypeRef :=
  (data.asClass?.map ClassRecord.interfaces).getD []

/-- The type variables that a class declares. -/
def declaredVariables (data : TypeData) : List Nat :=
  (data.asClass?.map ClassRecord.typeVariables).getD []

/-- The type arguments of a parameterized type. -/
def arguments (data : TypeData) : List TypeRef :=
  (data.asParameterized?.map ParameterizedRecord.arguments).getD []

/-- The class of a parameterized type. -/
def rawType (data : TypeData) : Option TypeRef :=
  data.asParameterized?.map ParameterizedRecord.rawType

/-- The owner type of a parameterized type. -/
def ownerType (data : TypeData) : Option TypeRef :=
  data.asParameterized?.bind ParameterizedRecord.ownerType

/-- The bounds of a type variable. -/
def bounds (data : TypeData) : List TypeRef :=
  (data.asTypeVariable?.map TypeVariableRecord.bounds).getD []

/-- The upper bounds of a wildcard. -/
def upperBounds (data : TypeData) : List TypeRef :=
  (data.asWildcard?.map WildcardRecord.upper).getD []

/-- The lower bounds of a wildcard. -/
def lowerBounds (data : TypeData) : List TypeRef :=
  (data.asWildcard?.map WildcardRecord.lower).getD []

/-- The class around a class. -/
def enclosingClass (data : TypeData) : Option TypeRef :=
  data.asClass?.bind ClassRecord.enclosingClass

/-- The class that declares a class. -/
def declaringClass (data : TypeData) : Option TypeRef :=
  data.asClass?.bind ClassRecord.declaringClass

/-- The classes inside a class. -/
def innerClasses (data : TypeData) : List TypeRef :=
  (data.asClass?.map ClassRecord.innerClasses).getD []

/-- The modifiers of a class. -/
def modifiers (data : TypeData) : Modifiers :=
  (data.asClass?.map ClassRecord.modifiers).getD Modifiers.empty

/-- The annotations of a class. -/
def annotations (data : TypeData) : List Nat :=
  (data.asClass?.map ClassRecord.annotations).getD []

/-- Whether the type is a class. -/
def isClass (data : TypeData) : Bool :=
  data.asClass?.isSome

end TypeData

/-- A type with the bindings from the place from which it is seen. -/
structure TypeView where
  ref : TypeRef
  data : TypeData
  outer : VarMap

namespace Tables

/-- The view of a type without bindings from outside. -/
def view (tables : Tables) (ref : TypeRef) : Except Fault TypeView := do
  let data ← tables.typeData ref.id
  return ⟨ref, data, .empty⟩

/-- The package of a type: that of its class, looked for so many levels deep. -/
def packageWithin (tables : Tables) : Nat → Nat → Work String
  | 0, id => throw (.endless id)
  | levels + 1, id => do
    match ← Work.lift (tables.typeData id) with
    | .rawClass record =>
      match record.package with
      | some package => tables.packageName package
      | none => return ""
    | .parameterized record => packageWithin tables levels record.rawType.id
    | .typeVariable _ => return ""
    | .wildcard _ => return ""

/-- The name of a type without package, declaring class and type arguments, looked for so many
levels deep. -/
def simpleNameWithin (tables : Tables) : Nat → Nat → Work String
  | 0, id => throw (.endless id)
  | levels + 1, id => do
    match ← Work.lift (tables.typeData id) with
    | .wildcard _ => return "?"
    | .typeVariable record => tables.name record.name
    | .rawClass record => tables.name record.name
    | .parameterized record => do
      let name ← simpleNameWithin tables levels record.rawType.id
      match record.ownerType with
      | some owner => do
        let outer ← simpleNameWithin tables levels owner.id
        return s!"{outer}${name}"
      | none => return name

end Tables

namespace TypeView

open Work (lift)

/-- Adds bindings from outside, over those that are there. -/
def withBindings (view : TypeView) (map : VarMap) : TypeView :=
  { view with outer := view.outer.override map }

/-- What the type variables stand for in this view. -/
def variableMap (view : TypeView) (atlas : Atlas) : Work VarMap := do
  let own ← atlas.typeVariableMap view.ref.id
  return (own.override view.outer).stripSelf

/-- The options of a name in this view. -/
def nameOptions (view : TypeView) (atlas : Atlas) (appendPackage includeGenerics : Bool) :
    Work NameOptions := do
  let map ← view.variableMap atlas
  return { NameOptions.plain with
    map := map, appendPackage := appendPackage, includeGenerics := includeGenerics }

/-- The type variables that a class declares, in angle brackets. -/
def declaredSuffix (view : TypeView) (atlas : Atlas) (options : NameOptions) : Work String := do
  let declared := view.data.declaredVariables
  if declared.isEmpty || !options.includeGenerics then return ""
  else do
    let parts ← Tables.renderJoined atlas.tables.render (declared.map TypeRef.plain) ", " options
    return s!"<{parts}>"

/-- The text of the type inside its array dimensions, its declared variables, the dimensions. -/
def nameWith (view : TypeView) (atlas : Atlas) (options : NameOptions) : Work String := do
  let base ← atlas.tables.render view.ref.element options
  let suffix ← view.declaredSuffix atlas options
  return base ++ suffix ++ arraySuffix view.ref.depth

/-- The name with the package, perhaps with type arguments. -/
def qualifiedName (view : TypeView) (atlas : Atlas) (includeGenerics : Bool) : Work String := do
  let options ← view.nameOptions atlas true includeGenerics
  view.nameWith atlas options

/-- The name with the package and with type arguments, which tells types apart. -/
def referenceName (view : TypeView) (atlas : Atlas) : Work String :=
  view.qualifiedName atlas true

/-- The name without the package, with type arguments. -/
def name (view : TypeView) (atlas : Atlas) : Work String := do
  let options ← view.nameOptions atlas false true
  view.nameWith atlas options

/-- The name without package, declaring class and type arguments. -/
def simpleName (view : TypeView) (atlas : Atlas) : Work String := do
  let name ← atlas.tables.simpleNameWithin (atlas.tables.typeCount + 1) view.ref.id
  return name ++ arraySuffix view.ref.depth

/-- The package of the class, empty for types that have none. -/
def packageName (view : TypeView) (atlas : Atlas) : Work String :=
  atlas.tables.packageWithin (atlas.tables.typeCount + 1) view.ref.id

/-- The text of the type with the bindings of this view. -/
def render (view : TypeView) (atlas : Atlas) (options : NameOptions) : Work String := do
  let map ← view.variableMap atlas
  atlas.tables.render view.ref (options.withMap map)

end TypeView

end ClassAtlas
