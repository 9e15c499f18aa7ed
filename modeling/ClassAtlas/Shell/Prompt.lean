import ClassAtlas.Shell.Command
import ClassAtlas.Shell.Style

/-!
# The prompt

What stands before and behind the line that is typed: the label of the snapshot and the current
class on the left, the number of types on the right.
-/

set_option autoImplicit false

namespace ClassAtlas.Shell

/-- What the prompt shows.  There is no number of types before the index is ready. -/
structure Prompt where
  label : String
  current : Option CurrentClass
  types : Option Nat
  deriving DecidableEq, Repr

namespace Prompt

/-- How many bytes of a class name are shown in full. -/
def maxLocation : Nat := 30

/-- The current class, by its short name when the name is long. -/
def location (prompt : Prompt) : String :=
  match prompt.current with
  | none => "/"
  | some current =>
    if current.name.utf8ByteSize > maxLocation then shortName current.name else current.name

/-- The left side. -/
def left (prompt : Prompt) : String :=
  let label := (Style.bold .lightBlue).paint prompt.label
  let location := (Style.coloured .yellow).paint prompt.location
  s!"{label}:{location} > "

/-- The right side. -/
def right (prompt : Prompt) : String :=
  match prompt.types with
  | some types => (Style.coloured .darkGrey).paint s!"{types} types"
  | none => (Style.coloured .red).paint "not indexed"

/-- What stands between the left side and the line. -/
def indicator : String := ""

/-- What stands before each further line of a line that was broken. -/
def continuation : String := "::: "

/-- What stands before the line while its history is searched for a term. -/
def historySearch (failing : Bool) (term : String) : String :=
  let state := if failing then "failing " else ""
  s!"({state}history: {term}) "

end Prompt

end ClassAtlas.Shell
