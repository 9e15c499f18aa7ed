import ClassAtlas.Names

/-!
# The text of a type

A type is written as it stands in source code: `java.util.Map$Entry<K, V>`, `? extends Number`,
`T extends Comparable<T>`.  Before a type is written, a type variable is followed through the
bindings of the options; the array dimensions met on the way are written last.

A type may be written inside itself, since a variable may occur in its own bounds or in what it is
bound to.  Marks in the options end such nesting in the bounds of a variable.  What is nested deeper
than there are types and marks to tell the levels apart would be nested without end, and that is a
fault.

Texts are remembered, by reference and options, as soon as they are complete.
-/

set_option autoImplicit false

namespace ClassAtlas

/-- As many pairs of brackets as there are array dimensions. -/
def arraySuffix (depth : Nat) : String :=
  String.join (List.replicate depth "[]")

namespace Tables

open Work (lift)

/-- Follows a variable through bindings, for as many steps as are left, to a type that is no
variable or to a variable without a binding.  A type that was met before is not entered again. -/
def followBindings (tables : Tables) (map : VarMap) :
    Nat → List Nat → TypeRef → Except Fault TypeRef
  | 0, _, current => .ok current
  | left + 1, met, current => do
    if ← tables.isVariable current then
      match map.find? current.id with
      | none => return current
      | some next =>
        let next := next.deepen current.depth
        if met.contains next.id then return current
        else followBindings tables map left (next.id :: met) next
    else return current

/-- The type that stands for a reference under the options.  Each step uses another binding, so
there is one step more than there are bindings. -/
def standIn (tables : Tables) (ref : TypeRef) (options : NameOptions) : Except Fault TypeRef :=
  if options.definingVariable || options.map.isEmpty then .ok ref
  else tables.followBindings options.map (options.map.entries.length + 1) [ref.id] ref

/-- The name of a class, after its package if that is asked for and not empty. -/
def rawClassName (tables : Tables) (record : ClassRecord) (appendPackage : Bool) : Work String := do
  let name ← tables.name record.name
  if appendPackage then
    match record.package with
    | none => return name
    | some package => do
      let outer ← tables.packageName package
      return if outer.isEmpty then name else s!"{outer}.{name}"
  else return name

/-- How the parts of a type are written. -/
abbrev Renderer : Type := TypeRef → NameOptions → Work String

/-- Several types with a text between them. -/
def renderJoined (render : Renderer) (refs : List TypeRef) (separator : String)
    (options : NameOptions) : Work String := do
  let parts ← Work.forAll (fun ref => render ref options) refs
  return separator.intercalate parts

/-- The text of a class: behind its declaring class and a dollar sign, or behind its package. -/
def renderClass (tables : Tables) (render : Renderer) (id : Nat) (record : ClassRecord)
    (options : NameOptions) : Work String := do
  match record.declaringClass with
  | some declaring =>
    if options.definingParameterized then tables.rawClassName record options.appendPackage
    else if declaring.id == id then throw (.decode (.selfDeclared id))
    else do
      let outer ← render declaring options
      let name ← tables.rawClassName record false
      return s!"{outer}${name}"
  | none => tables.rawClassName record options.appendPackage

/-- The text of a type variable: its name, with its bounds unless those are being written. -/
def renderVariable (tables : Tables) (render : Renderer) (record : TypeVariableRecord)
    (options : NameOptions) : Work String := do
  let name ← tables.name record.name
  if options.definingVariable || record.bounds.isEmpty then return name
  else do
    let bounds ← renderJoined render record.bounds " & " { options with definingVariable := true }
    return s!"{name} extends {bounds}"

/-- The text of a wildcard; lower bounds win over upper ones. -/
def renderWildcard (render : Renderer) (record : WildcardRecord) (options : NameOptions) :
    Work String := do
  if !record.lower.isEmpty then
    let bounds ← renderJoined render record.lower " & " options
    return s!"? super {bounds}"
  else if !record.upper.isEmpty then
    let bounds ← renderJoined render record.upper " & " options
    return s!"? extends {bounds}"
  else return "?"

/-- What stands before the name of a parameterized type: its owner type and a dollar sign. -/
def renderOwner (render : Renderer) (record : ParameterizedRecord) (options : NameOptions) :
    Work String := do
  match record.ownerType with
  | none => return ""
  | some owner =>
    if options.definingParameterized then return ""
    else do
      let outer ← render owner { options with definingParameterized := true }
      return s!"{outer}$"

/-- What stands behind the name of a parameterized type: its type arguments. -/
def renderArguments (render : Renderer) (record : ParameterizedRecord) (options : NameOptions) :
    Work String := do
  if options.includeGenerics && !record.arguments.isEmpty then
    let parts ← renderJoined render record.arguments ", "
      { options with definingParameterized := true }
    return s!"<{parts}>"
  else return ""

/-- The text of a parameterized type.  Its class is written without a package behind an owner. -/
def renderParameterized (render : Renderer) (record : ParameterizedRecord)
    (options : NameOptions) : Work String := do
  let name ← render record.rawType { options with
    definingParameterized := true
    appendPackage := options.appendPackage && record.ownerType.isNone }
  let owner ← renderOwner render record options
  let arguments ← renderArguments render record options
  return owner ++ name ++ arguments

/-- The text of a type from the texts of its parts. -/
def renderVariant (tables : Tables) (render : Renderer) (id : Nat) (options : NameOptions) :
    Work String := do
  match ← lift (tables.typeData id) with
  | .rawClass record => tables.renderClass render id record options
  | .typeVariable record => tables.renderVariable render record options
  | .wildcard record => renderWildcard render record options
  | .parameterized record => renderParameterized render record options

/-- The text of a type, with parts nested at most so many levels deep. -/
def renderWithin (tables : Tables) : Nat → TypeRef → NameOptions → Work String
  | levels, ref, options => do
    match (← get).texts[(ref, options)]? with
    | some text => return text
    | none =>
      match levels with
      | 0 => throw (.endless ref.id)
      | levels + 1 => do
        let resolved ← lift (tables.standIn ref.element options)
        let text ← tables.renderVariant (renderWithin tables levels) resolved.id options
        let text := text ++ arraySuffix (resolved.deepen ref.depth).depth
        modify fun memory => { memory with texts := memory.texts.insert (ref, options) text }
        return text

/-- The text of a type.  Levels differ in their type or in one of three marks, unless they are
nested without end. -/
def render (tables : Tables) (ref : TypeRef) (options : NameOptions) : Work String :=
  tables.renderWithin (8 * tables.typeCount + 2) ref options

end Tables

end ClassAtlas
