import ClassAtlas.RelationKind
import ClassAtlas.Related
import ClassAtlas.Render.Signature
import ClassAtlas.Search.Hits

/-!
# Rows of answers

Types, members and bindings with everything that is shown of them, all names rendered.
-/

set_option autoImplicit false

namespace ClassAtlas

open Work (lift)

/-- What is shown of a type.  Only classes have a line that loads them. -/
structure ClassEntry where
  id : Nat
  arrayDepth : Nat
  variant : TypeVariant
  referenceName : String
  name : String
  simpleName : String
  package : String
  modifiers : String
  superClass : Option String
  interfaces : List String
  annotations : List String
  loadSnippet : Option String
  deriving DecidableEq, Repr

/-- Whether a member is a field, a method, a constructor or a parameter. -/
inductive MemberKind where
  | field
  | method
  | constructor
  | parameter
  deriving DecidableEq, Repr

/-- The name of a kind of members. -/
def MemberKind.label : MemberKind → String
  | .field => "field"
  | .method => "method"
  | .constructor => "constructor"
  | .parameter => "parameter"

/-- What is shown of a member. -/
structure MemberEntry where
  kind : MemberKind
  declaringClass : Nat
  declaringClassName : String
  index : Nat
  name : String
  typeName : String
  modifiers : String
  signature : String
  parameterCount : Option Nat
  deriving DecidableEq, Repr

/-- A class with the reason why it is related to another one. -/
structure RelatedEntry where
  relation : String
  type : ClassEntry
  deriving DecidableEq, Repr

/-- A type with the kind of relation in which another one stands to it. -/
structure RelationEntry where
  relation : RelationKind
  type : ClassEntry
  deriving DecidableEq, Repr

/-- An event base class with the types of its group. -/
structure EventEntry where
  base : String
  classes : List ClassEntry
  deriving DecidableEq, Repr

/-- What is shown of a binding. -/
structure BindingEntry where
  id : String
  name : String
  typeId : Nat
  typeName : String
  data : Option Json
  deriving Repr

/-! ## Making rows -/

namespace ClassEntry

/-- The reference names of those related classes that have a relation. -/
def supertypeNames (atlas : Atlas) (view : TypeView) :
    List RelatedClass → Work (List (Relatedness × String))
  | [] => pure []
  | related :: rest =>
    if related.relation = .extended ∨ related.relation = .implemented then do
      let found ← view.relatedView atlas related
      let name ← found.referenceName atlas
      let others ← supertypeNames atlas view rest
      return (related.relation, name) :: others
    else supertypeNames atlas view rest

/-- The line that loads a class, for classes that are no arrays. -/
def snippetOf (atlas : Atlas) (view : TypeView) : Work (Option String) := do
  if view.data.isClass && view.ref.depth == 0 then return some (← view.loadSnippet atlas)
  else return none

/-- The row of a type. -/
def ofView (atlas : Atlas) (view : TypeView) : Work ClassEntry := do
  let related ← lift (view.relatedClasses atlas.tables)
  let supertypes ← supertypeNames atlas view related
  let named (relation : Relatedness) : List String :=
    (supertypes.filter fun pair => pair.1 = relation).map Prod.snd
  return {
    id := view.ref.id
    arrayDepth := view.ref.depth
    variant := view.data.variant
    referenceName := ← view.referenceName atlas
    name := ← view.name atlas
    simpleName := ← view.simpleName atlas
    package := ← view.packageName atlas
    modifiers := view.data.modifiers.toText
    superClass := (named .extended).getLast?
    interfaces := named .implemented
    annotations := ← view.annotationTexts atlas
    loadSnippet := ← snippetOf atlas view }

end ClassEntry

namespace MemberEntry

/-- The row of a field. -/
def ofField (atlas : Atlas) (field : Field) : Work MemberEntry := do
  let declaring ← lift (field.declaringView atlas.tables)
  return {
    kind := .field
    declaringClass := field.declaring
    declaringClassName := ← declaring.qualifiedName atlas false
    index := field.index
    name := (← atlas.tables.optionalName field.record.name).getD ""
    typeName := ← field.render atlas.tables field.record.type .short
    modifiers := field.record.modifiers.toText
    signature := ← Field.signature field atlas.tables
    parameterCount := none }

/-- The row of a method. -/
def ofMethod (atlas : Atlas) (method : Method) : Work MemberEntry := do
  let declaring ← lift (method.declaringView atlas.tables)
  return {
    kind := .method
    declaringClass := method.declaring
    declaringClassName := ← declaring.qualifiedName atlas false
    index := method.index
    name := (← atlas.tables.optionalName method.record.name).getD ""
    typeName := ← method.render atlas.tables method.record.returnType .short
    modifiers := method.record.modifiers.toText
    signature := ← Method.signature method atlas.tables
    parameterCount := some method.record.parameters.length }

/-- The row of a constructor, under the name of its class. -/
def ofConstructor (atlas : Atlas) (constructor : Constructor) : Work MemberEntry := do
  let declaring ← lift (constructor.declaringView atlas.tables)
  return {
    kind := .constructor
    declaringClass := constructor.declaring
    declaringClassName := ← declaring.qualifiedName atlas false
    index := constructor.index
    name := ← declaring.simpleName atlas
    typeName := ← declaring.name atlas
    modifiers := constructor.record.modifiers.toText
    signature := ← Constructor.signature constructor atlas
    parameterCount := some constructor.record.parameters.length }

/-- The row of a parameter, with the declaration of its method. -/
def ofParameter (atlas : Atlas) (hit : ParameterHit) : Work MemberEntry := do
  let parameter := hit.parameter
  let name ← atlas.tables.optionalName parameter.record.name
  let declaring ← lift (parameter.declaringView atlas.tables)
  return {
    kind := .parameter
    declaringClass := parameter.declaring
    declaringClassName := ← declaring.qualifiedName atlas false
    index := parameter.index
    name := name.getD s!"arg{parameter.index}"
    typeName := ← parameter.render atlas.tables parameter.record.type .short
    modifiers := parameter.record.modifiers.toText
    signature := ← Method.signature hit.method atlas.tables
    parameterCount := some hit.method.record.parameters.length }

end MemberEntry

/-- The row of a binding. -/
def BindingEntry.ofBinding (atlas : Atlas) (binding : Binding) : Work BindingEntry := do
  let view ← lift (atlas.tables.view binding.type)
  return {
    id := binding.id
    name := binding.name
    typeId := binding.type.id
    typeName := ← view.referenceName atlas
    data := binding.data }

/-! ## Rows as JSON -/

/-- The row of a type as JSON. -/
def ClassEntry.toJson (entry : ClassEntry) : Json :=
  .object ([
    ("id", .nat entry.id),
    ("array_depth", .nat entry.arrayDepth),
    ("variant", .text entry.variant.wireName),
    ("reference_name", .text entry.referenceName),
    ("name", .text entry.name),
    ("simple_name", .text entry.simpleName),
    ("package", .text entry.package),
    ("modifiers", .text entry.modifiers),
    ("super_class", .ofOption .text entry.superClass),
    ("interfaces", .texts entry.interfaces),
    ("annotations", .texts entry.annotations)] ++
    (entry.loadSnippet.map fun snippet => ("load_snippet", Json.text snippet)).toList)

/-- The row of a member as JSON. -/
def MemberEntry.toJson (entry : MemberEntry) : Json :=
  .object [
    ("kind", .text entry.kind.label),
    ("declaring_class", .nat entry.declaringClass),
    ("declaring_class_name", .text entry.declaringClassName),
    ("index", .nat entry.index),
    ("name", .text entry.name),
    ("type_name", .text entry.typeName),
    ("modifiers", .text entry.modifiers),
    ("signature", .text entry.signature),
    ("parameter_count", .ofOption .nat entry.parameterCount)]

/-- The row of a related class as JSON. -/
def RelatedEntry.toJson (entry : RelatedEntry) : Json :=
  .object [("relation", .text entry.relation), ("class", entry.type.toJson)]

/-- The row of a relation as JSON. -/
def RelationEntry.toJson (entry : RelationEntry) : Json :=
  .object [("relation", .text entry.relation.wireName), ("class", entry.type.toJson)]

/-- An event group as JSON. -/
def EventEntry.toJson (entry : EventEntry) : Json :=
  .object [("base", .text entry.base), ("classes", .ofList ClassEntry.toJson entry.classes)]

/-- The row of a binding as JSON. -/
def BindingEntry.toJson (entry : BindingEntry) : Json :=
  .object [
    ("id", .text entry.id),
    ("name", .text entry.name),
    ("type_id", .nat entry.typeId),
    ("type_name", .text entry.typeName),
    ("data", .ofOption (fun data => data) entry.data)]

end ClassAtlas
