import ClassAtlas.Record.Scalar
import ClassAtlas.Record.Types

/-!
# Decoding member records

A member record is written in one of three ways: as an object under its keys, as a list by position
with `null` for what is absent, or as a text of comma-separated fields.  The first step,
`Record.keyed`, turns all three into the members of an object; the second reads the typed record.
-/

set_option autoImplicit false

namespace ClassAtlas.Record

/-- Refuses a positional record with too few or too many fields. -/
def checkArity (kind : RecordKind) (found : Nat) (raw : Json) : Except Fault Unit :=
  if found = kind.schema.length then .ok () else .error (.schemaMismatch kind found raw)

/-- Reads the fields of a positional text under their keys; absent fields are left out. -/
def readFields : List String → List String → Except Fault (List (String × Json))
  | key :: keys, part :: parts => do
    let value ← scalar part
    let rest ← readFields keys parts
    return match value with
      | some value => (key, value) :: rest
      | none => rest
  | _, _ => .ok []

/-- The members of a record in any of its three forms, keys ascending. -/
def keyed (kind : RecordKind) (raw : Json) : Except Fault (List (String × Json)) :=
  match raw with
  | .object members => .ok members
  | .text encoded => do
    let parts := Text.pieces ',' encoded
    checkArity kind parts.length raw
    let members ← readFields kind.schema parts
    return Json.sortMembers members
  | .array items => do
    checkArity kind items.length raw
    return Json.sortMembers ((kind.schema.zip items).filter fun member => !member.2.isNull)
  | other => .error (.decode (.recordStructure kind other))

/-- Decodes a record into typed data. -/
def decode {α : Type} (kind : RecordKind)
    (read : List (String × Json) → Except Mismatch α) (raw : Json) : Except Fault α := do
  let members ← keyed kind raw
  match read members with
  | .ok record => .ok record
  | .error cause => .error (.decode (.record kind raw cause))

/-- Decodes a field. -/
def field (raw : Json) : Except Fault FieldRecord :=
  decode .field FieldRecord.ofMembers raw

/-- Decodes a method. -/
def method (raw : Json) : Except Fault MethodRecord :=
  decode .method MethodRecord.ofMembers raw

/-- Decodes a constructor. -/
def constructor (raw : Json) : Except Fault ConstructorRecord :=
  decode .constructor ConstructorRecord.ofMembers raw

/-- Decodes a parameter. -/
def parameter (raw : Json) : Except Fault ParameterRecord :=
  decode .parameter ParameterRecord.ofMembers raw

/-- Decodes an annotation. -/
def annotationUse (raw : Json) : Except Fault AnnotationRecord :=
  decode .annotationUse AnnotationRecord.ofMembers raw

end ClassAtlas.Record
