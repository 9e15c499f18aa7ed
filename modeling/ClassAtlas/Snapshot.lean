import ClassAtlas.Json.Document
import ClassAtlas.Json.Shape

/-!
# Snapshots

The document a session is opened from: tables of types, parameters, packages, names, annotations and
bindings.  Records stay in their encoded form here; names and packages are read at once.

A document is an object; a list of its tables in the order of the fields means the same.  A missing
table is empty, an unknown member is passed over, and a table that is written twice is refused.
-/

set_option autoImplicit false

namespace ClassAtlas

/-- An entry of the name table: a text, another entry, or entries to be joined. -/
inductive NameEntry where
  | text (value : String)
  | alias (other : Nat)
  | parts (others : List Nat)
  deriving DecidableEq, Repr

/-- An entry of the package table: a segment, perhaps inside a parent package. -/
structure PackageEntry where
  segment : String
  parent : Option Nat
  deriving DecidableEq, Repr

/-- A snapshot document. -/
structure Snapshot where
  types : List Json
  parameters : List Json
  packages : List PackageEntry
  names : List NameEntry
  annotations : List Json
  bindings : List Json
  deriving Repr

/-- A document without any entries. -/
def Snapshot.empty : Snapshot := ⟨[], [], [], [], [], []⟩

/-- An entry of the name table. -/
def Shape.nameEntry : Shape NameEntry
  | .text value => .ok (.text value)
  | .array others =>
    match items nat32 others with
    | .ok others => .ok (.parts others)
    | .error _ => .error (.noAlternative "NameEntry")
  | other =>
    match nat32 other with
    | .ok id => .ok (.alias id)
    | .error _ => .error (.noAlternative "NameEntry")

/-- An entry of the package table: a text, a list of a text, or a list of a text and a parent. -/
def Shape.packageEntry : Shape PackageEntry
  | .text segment => .ok ⟨segment, none⟩
  | .array [.text segment] => .ok ⟨segment, none⟩
  | .array [.text segment, parent] =>
    match nat32 parent with
    | .ok parent => .ok ⟨segment, some parent⟩
    | .error _ => .error (.noAlternative "PackageEntry")
  | _ => .error (.noAlternative "PackageEntry")

/-- The fields of a snapshot document, in their order. -/
def Snapshot.keys : List String :=
  ["types", "parameters", "packages", "names", "annotations", "bindings"]

/-- A snapshot document.  Encoded records are kept in their canonical form. -/
def Shape.snapshot : Shape Snapshot := fun value => do
  let raw : Shape Json := fun record => .ok record.canonical
  let fields ← members Snapshot.keys "a snapshot" value
  let types ← fieldOr fields "types" (list raw) []
  let parameters ← fieldOr fields "parameters" (list raw) []
  let packages ← fieldOr fields "packages" (list packageEntry) []
  let names ← fieldOr fields "names" (list nameEntry) []
  let annotations ← fieldOr fields "annotations" (list raw) []
  let bindings ← fieldOr fields "bindings" (list raw) []
  return { types, parameters, packages, names, annotations, bindings }

/-- The snapshot that a text spells. -/
def Snapshot.ofText? (text : String) : Option Snapshot :=
  match Json.ofDocument? keys text with
  | none => none
  | some value =>
    match Shape.snapshot value with
    | .ok snapshot => some snapshot
    | .error _ => none

end ClassAtlas
