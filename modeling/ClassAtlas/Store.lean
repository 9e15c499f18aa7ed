import ClassAtlas.Index.Build

/-!
# Stored indices

The index of a snapshot file can be kept in a file of its own, stamped with the version of the
format and with the text of the snapshot it was made from.  A stored index serves only a snapshot
with exactly that text.  A file that cannot serve is removed when it is looked at.
-/

set_option autoImplicit false

namespace ClassAtlas

/-- A stored index with its stamps. -/
structure StoredIndex where
  version : Nat
  source : String
  index : Index
  deriving DecidableEq, Repr

/-- What is kept beside a snapshot file: a stored index, or bytes that are none. -/
inductive StoredFile where
  | damaged
  | saved (stored : StoredIndex)
  deriving DecidableEq, Repr

namespace StoredFile

/-- The version of the format. -/
def currentVersion : Nat := 1

/-- The file that keeps an index of a snapshot. -/
def ofIndex (source : String) (index : Index) : StoredFile :=
  .saved ⟨currentVersion, source, index⟩

/-- The index for a snapshot with a given text, if the file can serve. -/
def usable? (source : String) : StoredFile → Option Index
  | .damaged => none
  | .saved stored =>
    if stored.version = currentVersion ∧ stored.source = source then some stored.index else none

/-- Looks at the file, if there is one: the index it serves, and the file afterwards. -/
def load (source : String) (file : Option StoredFile) : Option Index × Option StoredFile :=
  match file.bind (usable? source) with
  | some index => (some index, file)
  | none => (none, none)

/-- The same file with another version stamped on it. -/
def restamp (version : Nat) : StoredFile → StoredFile
  | .damaged => .damaged
  | .saved stored => .saved { stored with version := version }

end StoredFile

end ClassAtlas
