import ClassAtlas.Record.Decode
import ClassAtlas.Snapshot

/-!
# Decoded tables

The tables of a snapshot with every record decoded.  Decoding is pure, so each entry is decoded once
and an entry that cannot be decoded holds its fault; only those who ask for that entry meet it.

The variant of a type is decided by the keys of its record, in this order: a type variable has `tv`
or `b`, a parameterized type `r`, a class `n`, a wildcard `u` or `l` or no key at all but private
ones, which start with an underscore.
-/

set_option autoImplicit false

namespace ClassAtlas

/-- Whether a record has a member with a key. -/
def hasKey (members : List (String × Json)) (key : String) : Bool :=
  members.any fun member => member.1 == key

/-- Reads the record of a type. -/
def TypeData.ofJson (id : Nat) (raw : Json) : Except Fault TypeData :=
  let refused (cause : Mismatch) : Fault := .decode (.typeRecord id raw cause)
  match raw with
  | .null => .error (.decode (.noTypeData id))
  | .object members =>
    if hasKey members "tv" || hasKey members "b" then
      match TypeVariableRecord.ofMembers members with
      | .error cause => .error (refused cause)
      | .ok (none, _) => .error (.decode (.namelessVariable id))
      | .ok (some name, bounds) => .ok (.typeVariable ⟨name, bounds⟩)
    else if hasKey members "r" then
      ((ParameterizedRecord.ofMembers members).map TypeData.parameterized).mapError refused
    else if hasKey members "n" then
      ((ClassRecord.ofMembers members).map TypeData.rawClass).mapError refused
    else if hasKey members "u" || hasKey members "l" ||
        members.all fun member => member.1.startsWith "_" then
      ((WildcardRecord.ofMembers members).map TypeData.wildcard).mapError refused
    else .error (.unknownType id raw)
  | other => .error (.unknownType id other)

/-- Decodes records one after the other. -/
def decodeAll {α : Type} (decode : Json → Except Fault α) : List Json → Except Fault (List α)
  | [] => .ok []
  | raw :: rest => do
    let first ← decode raw
    let others ← decodeAll decode rest
    return first :: others

/-- Decodes the members of a type; only classes have any. -/
def ClassMembers.ofType : Except Fault TypeData → Except Fault ClassMembers
  | .error fault => .error fault
  | .ok (.rawClass record) => do
    let fields ← decodeAll Record.field record.fields
    let methods ← decodeAll Record.method record.methods
    let constructors ← decodeAll Record.constructor record.constructors
    return { fields, methods, constructors }
  | .ok _ => .ok ⟨[], [], []⟩

/-- The tables of a snapshot. -/
structure Tables where
  rawTypes : Array Json
  types : Array (Except Fault TypeData)
  members : Array (Except Fault ClassMembers)
  parameters : Array (Except Fault ParameterRecord)
  annotations : Array (Except Fault AnnotationRecord)
  names : Array NameEntry
  packages : Array PackageEntry
  bindings : List Json

namespace Tables

/-- Decodes the tables of a snapshot. -/
def ofSnapshot (snapshot : Snapshot) : Tables :=
  let types := (snapshot.types.mapIdx fun id raw => TypeData.ofJson id raw).toArray
  { rawTypes := snapshot.types.toArray
    types := types
    members := types.map ClassMembers.ofType
    parameters := (snapshot.parameters.map Record.parameter).toArray
    annotations := (snapshot.annotations.map Record.annotationUse).toArray
    names := snapshot.names.toArray
    packages := snapshot.packages.toArray
    bindings := snapshot.bindings }

/-- The number of types. -/
def typeCount (tables : Tables) : Nat :=
  tables.types.size

/-- The ids of all types, ascending. -/
def typeIds (tables : Tables) : List Nat :=
  List.range tables.typeCount

/-- An entry of a table, or the fault of its absence or of its record. -/
def entry {α : Type} (table : Table) (entries : Array (Except Fault α)) (id : Nat) :
    Except Fault α :=
  match entries[id]? with
  | some found => found
  | none => .error (.invalidId table id entries.size)

/-- The type with an id. -/
def typeData (tables : Tables) (id : Nat) : Except Fault TypeData :=
  entry .types tables.types id

/-- The class with an id, `none` if the type is no class. -/
def class? (tables : Tables) (id : Nat) : Except Fault (Option ClassRecord) :=
  (tables.typeData id).map TypeData.asClass?

/-- The members of a type. -/
def membersOf (tables : Tables) (id : Nat) : Except Fault ClassMembers :=
  entry .types tables.members id

/-- The parameter with an id. -/
def parameter (tables : Tables) (id : Nat) : Except Fault ParameterRecord :=
  entry .parameters tables.parameters id

/-- The annotation with an id. -/
def annotationUse (tables : Tables) (id : Nat) : Except Fault AnnotationRecord :=
  entry .annotations tables.annotations id

/-- Refuses a reference that points outside the table of types. -/
def checkRef (tables : Tables) (ref : TypeRef) : Except Fault Unit :=
  if ref.id < tables.typeCount then .ok ()
  else .error (.invalidId .types ref.id tables.typeCount)

/-- The record of a type as it is written, for messages. -/
def rawType (tables : Tables) (id : Nat) : String :=
  match tables.rawTypes[id]? with
  | some raw => raw.compact
  | none => "<missing>"

/-- Reads one binding. -/
def readBinding (raw : Json) : Except Fault Binding :=
  (Shape.binding raw).mapError fun cause => .decode (.binding raw cause)

/-- All bindings, or the fault of the first one that cannot be read. -/
def readBindings (tables : Tables) : Except Fault (List Binding) :=
  decodeAll readBinding tables.bindings

/-- Whether a reference leads to a type variable. -/
def isVariable (tables : Tables) (ref : TypeRef) : Except Fault Bool :=
  (tables.typeData ref.id).map fun data => data.asTypeVariable?.isSome

end Tables

end ClassAtlas
