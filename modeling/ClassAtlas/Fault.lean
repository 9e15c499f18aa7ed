import ClassAtlas.Json.Shape
import ClassAtlas.Record.Kind
import ClassAtlas.Text.Base64

/-!
# Faults

What can go wrong while a snapshot is read, indexed and queried.  A fault names its cause; the
wording is given once, by `Fault.message`.
-/

set_option autoImplicit false

namespace ClassAtlas

/-- The tables of a snapshot that ids point into. -/
inductive Table where
  | types
  | parameters
  | annotations
  | names
  | packages
  deriving DecidableEq, Repr

/-- The name of a table in messages. -/
def Table.label : Table → String
  | .types => "type"
  | .parameters => "parameter"
  | .annotations => "annotation"
  | .names => "name"
  | .packages => "package"

/-- Where a session stands: without an index, while one is being built, or with one. -/
inductive SessionState where
  | empty
  | indexing
  | ready
  deriving DecidableEq, Repr

/-- The name of a state. -/
def SessionState.label : SessionState → String
  | .empty => "empty"
  | .indexing => "indexing"
  | .ready => "ready"

/-- A part of a snapshot that cannot be understood. -/
inductive Flaw where
  | scalar (source : String)
  | recordStructure (kind : RecordKind) (raw : Json)
  | record (kind : RecordKind) (raw : Json) (cause : Mismatch)
  | typeRecord (id : Nat) (raw : Json) (cause : Mismatch)
  | noTypeData (id : Nat)
  | namelessVariable (id : Nat)
  | cyclicName (id : Nat)
  | cyclicPackage (id : Nat)
  | binding (raw : Json) (cause : Mismatch)
  | rawNotClass (raw owner : Nat) (found : Option String)
  | selfDeclared (id : Nat)
  deriving Repr

/-- The wording of a flaw. -/
def Flaw.message : Flaw → String
  | .scalar source => "unrecognized field encoding: " ++ Text.quoted source
  | .recordStructure kind raw => s!"invalid {kind.label} structure: {raw.compact}"
  | .record kind raw cause => s!"invalid {kind.label} record {raw.compact}: {cause.message}"
  | .typeRecord id raw cause => s!"invalid type record {id}: {raw.compact} ({cause.message})"
  | .noTypeData id => s!"type {id} has no data"
  | .namelessVariable id => s!"type variable {id} has no name"
  | .cyclicName id => s!"name {id} has a cyclic alias chain"
  | .cyclicPackage id => s!"package {id} is its own parent"
  | .binding raw cause => s!"invalid binding {raw.compact}: {cause.message}"
  | .rawNotClass raw owner found =>
    let plain := s!"raw type {raw} of parameterized type {owner} is not a class"
    match found with
    | some found => s!"{plain}: {found}"
    | none => plain
  | .selfDeclared id => s!"class {id} declares itself"

/-- A query that cannot be understood. -/
inductive QueryFlaw where
  | unknownTerm (key : String)
  | parameterCount (value : String)
  deriving DecidableEq, Repr

/-- The wording of a query flaw. -/
def QueryFlaw.message : QueryFlaw → String
  | .unknownTerm key => "unknown search term " ++ Text.quoted key
  | .parameterCount value => "parameter-count expects a number, got " ++ Text.quoted value

/-- What can go wrong below the level of a request. -/
inductive Fault where
  | unreadable (detail : String)
  | malformed
  | base64 (cause : Base64.Flaw)
  | invalidId (table : Table) (id size : Nat)
  | schemaMismatch (kind : RecordKind) (found : Nat) (raw : Json)
  | decode (cause : Flaw)
  | unknownType (id : Nat) (raw : Json)
  | substitutionLoop (id hops : Nat)
  | inheritanceCycle (id : Nat)
  | invalidQuery (cause : QueryFlaw)
  | notReady (state : SessionState)
  | storage (detail : String)
  | endless (id : Nat)
  deriving Repr

namespace Fault

/-- The wording of a fault. -/
def message : Fault → String
  | .unreadable detail => s!"I/O error: {detail}"
  | .malformed => "JSON serialization/deserialization error"
  | .base64 cause => s!"Base64 payload error: {cause.message}"
  | .invalidId table id size => s!"Invalid {table.label} id {id} (table holds {size} entries)"
  | .schemaMismatch kind found raw =>
    s!"Schema mismatch for {kind.label}: expected {kind.schema.length} fields, found {found} in " ++
      Text.quoted raw.compact
  | .decode cause => s!"Decode error: {cause.message}"
  | .unknownType id raw => s!"Unknown type {id}: {raw.compact}"
  | .substitutionLoop id hops => s!"Type variable substitution for {id} exceeded {hops} hops"
  | .inheritanceCycle id => s!"Type {id} inherits from itself"
  | .invalidQuery cause => s!"Invalid query: {cause.message}"
  | .notReady state => s!"Relationship graph queried while {state.label}"
  | .storage detail => s!"Index storage error: {detail}"
  | .endless id => s!"Rendering of type {id} does not end"

/-- The short name of the cause of a fault. -/
def code : Fault → String
  | .unreadable _ => "io"
  | .malformed => "json"
  | .base64 _ => "base64"
  | .invalidId .. => "invalid-id"
  | .schemaMismatch .. => "schema-mismatch"
  | .decode _ => "decode"
  | .unknownType .. => "unknown-type"
  | .substitutionLoop .. => "substitution-loop"
  | .inheritanceCycle _ => "inheritance-cycle"
  | .invalidQuery _ => "invalid-query"
  | .notReady _ => "not-ready"
  | .storage _ => "storage"
  | .endless _ => "internal"

end Fault

/-- What is wrong with a request, as a front end tells it apart. -/
inductive RequestError where
  | notFound (subject : String)
  | invalidArgument (detail : String)
  | notReady (state : SessionState)
  | storage (detail : String)
  | internal (detail : String)
  deriving DecidableEq, Repr

namespace RequestError

/-- The wording of a request error. -/
def message : RequestError → String
  | .notFound subject => s!"{subject} not found in the snapshot"
  | .invalidArgument detail => s!"Invalid query: {detail}"
  | .notReady state => s!"Documentation index is not ready (state: {state.label})"
  | .storage detail => s!"Index storage failed: {detail}"
  | .internal detail => s!"Internal error: {detail}"

/-- The stable name of a request error. -/
def code : RequestError → String
  | .notFound _ => "not-found"
  | .invalidArgument _ => "invalid-argument"
  | .notReady _ => "not-ready"
  | .storage _ => "storage"
  | .internal _ => "internal"

/-- Whether the same request can succeed once the session is prepared. -/
def isRetryable : RequestError → Bool
  | .notReady _ => true
  | _ => false

/-- The error of a request that a fault ends. -/
def ofFault : Fault → RequestError
  | .notReady state => .notReady state
  | .invalidQuery cause => .invalidArgument cause.message
  | .storage detail => .storage detail
  | other => .internal other.message

/-- A request error as a JSON object. -/
def toJson (error : RequestError) : Json :=
  .object [("error", .text error.code), ("message", .text error.message)]

end RequestError

end ClassAtlas
