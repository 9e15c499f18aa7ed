/-!
# Kinds of member records

A snapshot describes fields, methods, constructors, parameters and annotations by records.  A record
may be written by position, and then its kind says which key each position stands for.
-/

set_option autoImplicit false

namespace ClassAtlas

/-- The kinds of records that have a positional form. -/
inductive RecordKind where
  | field
  | method
  | constructor
  | parameter
  | annotationUse
  deriving DecidableEq, Repr

namespace RecordKind

/-- The keys of a record in the order of its positions. -/
def schema : RecordKind → List String
  | .field => ["n", "t", "M", "a"]
  | .method => ["n", "M", "t", "a", "p", "v", "e"]
  | .constructor => ["M", "a", "e", "v", "p"]
  | .parameter => ["n", "t", "M", "a"]
  | .annotationUse => ["t", "s"]

/-- The name of a kind in messages. -/
def label : RecordKind → String
  | .field => "field"
  | .method => "method"
  | .constructor => "constructor"
  | .parameter => "parameter"
  | .annotationUse => "annotation"

/-- All kinds. -/
def all : List RecordKind := [.field, .method, .constructor, .parameter, .annotationUse]

/-- The kind with a label. -/
def ofLabel? (label : String) : Option RecordKind :=
  all.find? fun kind => kind.label == label

end RecordKind

end ClassAtlas
