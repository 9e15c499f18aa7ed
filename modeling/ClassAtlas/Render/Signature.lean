import ClassAtlas.Members
import ClassAtlas.Text.Case

/-!
# Declarations of members

Members as they are declared in source code, such as
`public static <T> List<T> of(T first, T second) throws IOException`, annotations such as
`@java.lang.Deprecated(since = "1.2")`, and the line of a script that loads a class.

Members without a name are written `<unnamed>`, and a parameter without a name after its place.
-/

set_option autoImplicit false

namespace ClassAtlas

open Work (lift)

/-- An annotation: its type behind an at sign, its text in parentheses. -/
def Tables.annotationText (tables : Tables) (id : Nat) : Work String := do
  let record ← lift (tables.annotationUse id)
  let type ← tables.render record.type .qualified
  match record.text with
  | some (.name id) => do
    let text ← tables.name id
    return s!"@{type}({text})"
  | some (.literal text) => return s!"@{type}({text})"
  | none => return s!"@{type}"

/-- Several annotations. -/
def Tables.annotationTexts (tables : Tables) (ids : List Nat) : Work (List String) :=
  Work.forAll tables.annotationText ids

/-- The annotations of a class. -/
def TypeView.annotationTexts (view : TypeView) (atlas : Atlas) : Work (List String) :=
  atlas.tables.annotationTexts view.data.annotations

/-- A declaration behind its modifiers. -/
def behindModifiers (modifiers : Modifiers) (declaration : String) : String :=
  let keywords := modifiers.toText
  if keywords.isEmpty then declaration else s!"{keywords} {declaration}"

/-- The type variables that a member declares, before a space. -/
def variablesText (render : TypeRef → Work String) (declared : List Nat) : Work String := do
  if declared.isEmpty then return ""
  else do
    let parts ← Work.forAll (fun id => render (.plain id)) declared
    let list := ", ".intercalate parts
    return s!"<{list}> "

/-- The exceptions that a member throws, behind the keyword. -/
def throwsText (render : TypeRef → Work String) (exceptions : List TypeRef) : Work String := do
  if exceptions.isEmpty then return ""
  else do
    let parts ← Work.forAll render exceptions
    let list := ", ".intercalate parts
    return s!" throws {list}"

/-- How an unnamed field or method is written. -/
def unnamed : String := "<unnamed>"

/-- A parameter: its type and its name. -/
def Parameter.signature (parameter : Parameter) (tables : Tables) : Work String := do
  let type ← parameter.render tables parameter.record.type .short
  match ← tables.optionalName parameter.record.name with
  | some name => return s!"{type} {name}"
  | none => return s!"{type} arg{parameter.index}"

/-- Parameters in parentheses. -/
def parametersText (tables : Tables) (parameters : List Parameter) : Work String := do
  let parts ← Work.forAll (fun parameter => Parameter.signature parameter tables) parameters
  let list := ", ".intercalate parts
  return s!"({list})"

/-- A field: its modifiers, its type and its name. -/
def Field.signature (field : Field) (tables : Tables) : Work String := do
  let type ← field.render tables field.record.type .short
  let name ← tables.optionalName field.record.name
  let name := name.getD unnamed
  return behindModifiers field.record.modifiers s!"{type} {name}"

/-- A method: its modifiers, type variables, return type, name, parameters and exceptions. -/
def Method.signature (method : Method) (tables : Tables) : Work String := do
  let render := fun ref => method.render tables ref .short
  let declared ← variablesText render method.record.typeVariables
  let returned ← render method.record.returnType
  let name ← tables.optionalName method.record.name
  let name := name.getD unnamed
  let parameters ← parametersText tables (← lift (method.parameters tables))
  let thrown ← throwsText render method.record.exceptions
  return behindModifiers method.record.modifiers s!"{declared}{returned} {name}{parameters}{thrown}"

/-- A constructor: its modifiers, type variables, class, parameters and exceptions. -/
def Constructor.signature (constructor : Constructor) (atlas : Atlas) : Work String := do
  let render := fun ref => constructor.render atlas.tables ref .short
  let declared ← variablesText render constructor.record.typeVariables
  let declaring ← lift (constructor.declaringView atlas.tables)
  let name ← declaring.simpleName atlas
  let parameters ← parametersText atlas.tables (← lift (constructor.parameters atlas.tables))
  let thrown ← throwsText render constructor.record.exceptions
  return behindModifiers constructor.record.modifiers s!"{declared}{name}{parameters}{thrown}"

/-- The line of a script that loads a class under the name of a constant. -/
def TypeView.loadSnippet (view : TypeView) (atlas : Atlas) : Work String := do
  let simple ← view.simpleName atlas
  let qualified ← view.qualifiedName atlas false
  return "const $" ++ Text.upper simple ++ " = Java.loadClass(\"" ++ qualified ++ "\");"

end ClassAtlas
