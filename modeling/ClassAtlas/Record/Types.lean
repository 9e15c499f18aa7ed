import ClassAtlas.Modifiers
import ClassAtlas.TypeRef

/-!
# Records of a snapshot

The four variants of a type (class, parameterized type, type variable, wildcard) and the records of
fields, methods, constructors, parameters and annotations, each with its reader and its writer.

On the wire the keys are single letters.  A reader goes through the keys in ascending order, so that
of several bad members the one with the least key is reported.
-/

set_option autoImplicit false

namespace ClassAtlas

open Shape

/-- Whether a type is a class, a parameterized type, a wildcard or a type variable. -/
inductive TypeVariant where
  | rawClass
  | parameterized
  | wildcard
  | typeVariable
  deriving DecidableEq, Repr

/-- The name of a variant in answers. -/
def TypeVariant.wireName : TypeVariant → String
  | .rawClass => "raw_class"
  | .parameterized => "parameterized"
  | .wildcard => "wildcard"
  | .typeVariable => "type_variable"

/-- The name of a variant in tables for readers. -/
def TypeVariant.toText : TypeVariant → String
  | .rawClass => "class"
  | .parameterized => "parameterized"
  | .wildcard => "wildcard"
  | .typeVariable => "type variable"

/-- A class as written: its name, its place, its supertypes and its members, the members still in
their encoded form. -/
structure ClassRecord where
  name : Nat
  package : Option Nat
  superClass : Option TypeRef
  interfaces : List TypeRef
  typeVariables : List Nat
  annotations : List Nat
  modifiers : Modifiers
  constructors : List Json
  fields : List Json
  methods : List Json
  innerClasses : List TypeRef
  enclosingClass : Option TypeRef
  declaringClass : Option TypeRef
  deriving Repr

/-- A class applied to type arguments, perhaps inside an owner type. -/
structure ParameterizedRecord where
  rawType : TypeRef
  ownerType : Option TypeRef
  arguments : List TypeRef
  deriving DecidableEq, Repr

/-- A type variable with its bounds. -/
structure TypeVariableRecord where
  name : Nat
  bounds : List TypeRef
  deriving DecidableEq, Repr

/-- A wildcard with its upper and lower bounds. -/
structure WildcardRecord where
  upper : List TypeRef
  lower : List TypeRef
  deriving DecidableEq, Repr

/-- A type of the snapshot. -/
inductive TypeData where
  | rawClass (record : ClassRecord)
  | parameterized (record : ParameterizedRecord)
  | typeVariable (record : TypeVariableRecord)
  | wildcard (record : WildcardRecord)
  deriving Repr

/-- A field. -/
structure FieldRecord where
  name : Option Nat
  type : TypeRef
  modifiers : Modifiers
  annotations : List Nat
  deriving DecidableEq, Repr

/-- A method. -/
structure MethodRecord where
  name : Option Nat
  modifiers : Modifiers
  returnType : TypeRef
  annotations : List Nat
  parameters : List Nat
  typeVariables : List Nat
  exceptions : List TypeRef
  deriving DecidableEq, Repr

/-- A constructor. -/
structure ConstructorRecord where
  modifiers : Modifiers
  annotations : List Nat
  exceptions : List TypeRef
  typeVariables : List Nat
  parameters : List Nat
  deriving DecidableEq, Repr

/-- A parameter of a method or constructor. -/
structure ParameterRecord where
  name : Option Nat
  type : TypeRef
  modifiers : Modifiers
  annotations : List Nat
  deriving DecidableEq, Repr

/-- The text of an annotation: an entry of the name table, or the text itself. -/
inductive AnnotationText where
  | name (id : Nat)
  | literal (text : String)
  deriving DecidableEq, Repr

/-- An annotation: its type and perhaps the text of its arguments. -/
structure AnnotationRecord where
  type : TypeRef
  text : Option AnnotationText
  deriving DecidableEq, Repr

/-- A named global of the snapshot with its type and perhaps a value. -/
structure Binding where
  name : String
  type : TypeRef
  data : Option Json
  deriving Repr

/-- The members of a class. -/
structure ClassMembers where
  fields : List FieldRecord
  methods : List MethodRecord
  constructors : List ConstructorRecord
  deriving Repr

namespace TypeData

/-- The variant of a type. -/
def variant : TypeData → TypeVariant
  | .rawClass _ => .rawClass
  | .parameterized _ => .parameterized
  | .typeVariable _ => .typeVariable
  | .wildcard _ => .wildcard

/-- The record of a class. -/
def asClass? : TypeData → Option ClassRecord
  | .rawClass record => some record
  | _ => none

/-- The record of a parameterized type. -/
def asParameterized? : TypeData → Option ParameterizedRecord
  | .parameterized record => some record
  | _ => none

/-- The record of a type variable. -/
def asTypeVariable? : TypeData → Option TypeVariableRecord
  | .typeVariable record => some record
  | _ => none

/-- The record of a wildcard. -/
def asWildcard? : TypeData → Option WildcardRecord
  | .wildcard record => some record
  | _ => none

end TypeData

/-- The super class and then the interfaces, in written order. -/
def ClassRecord.supertypes (record : ClassRecord) : List TypeRef :=
  record.superClass.toList ++ record.interfaces

/-- The identifier of a binding: its name and its type. -/
def Binding.id (binding : Binding) : String :=
  s!"{binding.name}-{binding.type.id}"

/-! ## Reading -/

/-- A bit mask of modifiers. -/
def Shape.modifiers : Shape Modifiers := fun value =>
  (nat32 value).map Modifiers.mk

/-- The text of an annotation. -/
def Shape.annotationText : Shape AnnotationText
  | .text value => .ok (.literal value)
  | other =>
    match nat32 other with
    | .ok id => .ok (.name id)
    | .error _ => .error (.noAlternative "AnnotationText")

/-- A field that may be absent or `null`. -/
def Shape.optionalField {α : Type} (members : List (String × Json)) (key : String)
    (shape : Shape α) : Except Mismatch (Option α) :=
  fieldOr members key (optional shape) none

/-- A field with one item or a list, perhaps absent or `null`. -/
def Shape.manyField {α : Type} (members : List (String × Json)) (key : String)
    (shape : Shape α) : Except Mismatch (List α) :=
  fieldOr members key (oneOrMany shape) []

/-- Reads a class. -/
def ClassRecord.ofMembers (members : List (String × Json)) : Except Mismatch ClassRecord := do
  let declaringClass ← optionalField members "D" typeRef
  let enclosingClass ← optionalField members "E" typeRef
  let innerClasses ← manyField members "I" typeRef
  let modifiers ← fieldOr members "M" Shape.modifiers Modifiers.empty
  let package ← optionalField members "P" nat32
  let annotations ← manyField members "a" nat32
  let constructors ← manyField members "c" any
  let fields ← manyField members "f" any
  let interfaces ← manyField members "i" typeRef
  let methods ← manyField members "m" any
  let name ← field members "n" nat32
  let superClass ← optionalField members "s" typeRef
  let typeVariables ← manyField members "v" nat32
  let name ← required "n" name
  return { name, package, superClass, interfaces, typeVariables, annotations, modifiers,
           constructors, fields, methods, innerClasses, enclosingClass, declaringClass }

/-- Reads a parameterized type. -/
def ParameterizedRecord.ofMembers (members : List (String × Json)) :
    Except Mismatch ParameterizedRecord := do
  let ownerType ← optionalField members "o" typeRef
  let rawType ← field members "r" typeRef
  let arguments ← manyField members "v" typeRef
  let rawType ← required "r" rawType
  return { rawType, ownerType, arguments }

/-- Reads a wildcard. -/
def WildcardRecord.ofMembers (members : List (String × Json)) : Except Mismatch WildcardRecord := do
  let lower ← manyField members "l" typeRef
  let upper ← manyField members "u" typeRef
  return { upper, lower }

/-- Reads a type variable; its name, under one of two keys, may be missing. -/
def TypeVariableRecord.ofMembers (members : List (String × Json)) :
    Except Mismatch (Option Nat × List TypeRef) := do
  let bounds ← manyField members "b" typeRef
  let className ← optionalField members "n" nat32
  let variableName ← optionalField members "tv" nat32
  return (variableName <|> className, bounds)

/-- Reads a field. -/
def FieldRecord.ofMembers (members : List (String × Json)) : Except Mismatch FieldRecord := do
  let modifiers ← fieldOr members "M" Shape.modifiers Modifiers.empty
  let annotations ← manyField members "a" nat32
  let name ← optionalField members "n" nat32
  let type ← field members "t" typeRef
  let type ← required "t" type
  return { name, type, modifiers, annotations }

/-- Reads a method. -/
def MethodRecord.ofMembers (members : List (String × Json)) : Except Mismatch MethodRecord := do
  let modifiers ← fieldOr members "M" Shape.modifiers Modifiers.empty
  let annotations ← manyField members "a" nat32
  let exceptions ← manyField members "e" typeRef
  let name ← optionalField members "n" nat32
  let parameters ← manyField members "p" nat32
  let returnType ← field members "t" typeRef
  let typeVariables ← manyField members "v" nat32
  let returnType ← required "t" returnType
  return { name, modifiers, returnType, annotations, parameters, typeVariables, exceptions }

/-- Reads a constructor. -/
def ConstructorRecord.ofMembers (members : List (String × Json)) :
    Except Mismatch ConstructorRecord := do
  let modifiers ← fieldOr members "M" Shape.modifiers Modifiers.empty
  let annotations ← manyField members "a" nat32
  let exceptions ← manyField members "e" typeRef
  let parameters ← manyField members "p" nat32
  let typeVariables ← manyField members "v" nat32
  return { modifiers, annotations, exceptions, typeVariables, parameters }

/-- Reads a parameter. -/
def ParameterRecord.ofMembers (members : List (String × Json)) :
    Except Mismatch ParameterRecord := do
  let modifiers ← fieldOr members "M" Shape.modifiers Modifiers.empty
  let annotations ← manyField members "a" nat32
  let name ← optionalField members "n" nat32
  let type ← field members "t" typeRef
  let type ← required "t" type
  return { name, type, modifiers, annotations }

/-- Reads an annotation. -/
def AnnotationRecord.ofMembers (members : List (String × Json)) :
    Except Mismatch AnnotationRecord := do
  let text ← optionalField members "s" annotationText
  let type ← field members "t" typeRef
  let type ← required "t" type
  return { type, text }

/-- Reads a binding: a list of its name, its type and perhaps its value. -/
def Shape.binding : Shape Binding
  | .array parts =>
    match parts with
    | .text name :: type :: rest =>
      if 1 < rest.length then .error (.bindingParts parts.length)
      else
        (typeRef type).map fun type =>
          { name, type, data := rest.head?.filter (!·.isNull) }
    | first :: _ :: rest =>
      if 1 < rest.length then .error (.bindingParts parts.length)
      else .error (.bindingName first)
    | _ => .error (.bindingParts parts.length)
  | other => .error (.wrongKind other "a sequence")

/-! ## Writing -/

namespace ClassRecord

/-- The wire form of a class, every field present. -/
def toJson (record : ClassRecord) : Json :=
  .object [
    ("n", .nat record.name),
    ("P", .ofOption .nat record.package),
    ("s", .ofOption TypeRef.toJson record.superClass),
    ("i", .ofList TypeRef.toJson record.interfaces),
    ("v", .ofList .nat record.typeVariables),
    ("a", .ofList .nat record.annotations),
    ("M", .nat record.modifiers.bits),
    ("c", .array record.constructors),
    ("f", .array record.fields),
    ("m", .array record.methods),
    ("I", .ofList TypeRef.toJson record.innerClasses),
    ("E", .ofOption TypeRef.toJson record.enclosingClass),
    ("D", .ofOption TypeRef.toJson record.declaringClass)]

end ClassRecord

/-- The wire form of a type, every field present. -/
def TypeData.toJson : TypeData → Json
  | .rawClass record => record.toJson
  | .parameterized record =>
    .object [
      ("r", record.rawType.toJson),
      ("o", .ofOption TypeRef.toJson record.ownerType),
      ("v", .ofList TypeRef.toJson record.arguments)]
  | .typeVariable record =>
    .object [("name", .nat record.name), ("bounds", .ofList TypeRef.toJson record.bounds)]
  | .wildcard record =>
    .object [
      ("u", .ofList TypeRef.toJson record.upper),
      ("l", .ofList TypeRef.toJson record.lower)]

/-- The wire form of a field, every member present. -/
def FieldRecord.toJson (record : FieldRecord) : Json :=
  .object [
    ("n", .ofOption .nat record.name),
    ("t", record.type.toJson),
    ("M", .nat record.modifiers.bits),
    ("a", .ofList .nat record.annotations)]

/-- The wire form of a method, every member present. -/
def MethodRecord.toJson (record : MethodRecord) : Json :=
  .object [
    ("n", .ofOption .nat record.name),
    ("M", .nat record.modifiers.bits),
    ("t", record.returnType.toJson),
    ("a", .ofList .nat record.annotations),
    ("p", .ofList .nat record.parameters),
    ("v", .ofList .nat record.typeVariables),
    ("e", .ofList TypeRef.toJson record.exceptions)]

/-- The wire form of a constructor, every member present. -/
def ConstructorRecord.toJson (record : ConstructorRecord) : Json :=
  .object [
    ("M", .nat record.modifiers.bits),
    ("a", .ofList .nat record.annotations),
    ("e", .ofList TypeRef.toJson record.exceptions),
    ("v", .ofList .nat record.typeVariables),
    ("p", .ofList .nat record.parameters)]

/-- The wire form of a parameter, every member present. -/
def ParameterRecord.toJson (record : ParameterRecord) : Json :=
  .object [
    ("n", .ofOption .nat record.name),
    ("t", record.type.toJson),
    ("M", .nat record.modifiers.bits),
    ("a", .ofList .nat record.annotations)]

/-- The wire form of the text of an annotation. -/
def AnnotationText.toJson : AnnotationText → Json
  | .name id => .nat id
  | .literal text => .text text

/-- The wire form of an annotation, every member present. -/
def AnnotationRecord.toJson (record : AnnotationRecord) : Json :=
  .object [
    ("t", record.type.toJson),
    ("s", .ofOption AnnotationText.toJson record.text)]

/-- The members of a class, each in its wire form. -/
def ClassMembers.toJson (members : ClassMembers) : Json :=
  .object [
    ("fields", .ofList FieldRecord.toJson members.fields),
    ("methods", .ofList MethodRecord.toJson members.methods),
    ("constructors", .ofList ConstructorRecord.toJson members.constructors)]

end ClassAtlas
