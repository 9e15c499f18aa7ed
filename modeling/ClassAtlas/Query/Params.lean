import ClassAtlas.Json.Shape
import ClassAtlas.Text.Blank

/-!
# Flat search parameters

A flat search is a list of terms, each a key with a value, and three settings that hold for all of
them.  It is typed as `key=value` pairs with `&` between them; a pair whose key names a setting
changes that setting instead of adding a term.
-/

set_option autoImplicit false

namespace ClassAtlas

/-- The terms of a flat search in the order they were given, and its settings. -/
structure SearchParams where
  terms : List (String × String)
  inclusive : Bool
  exact : Bool
  caseSensitive : Option Bool
  deriving DecidableEq, Repr

namespace SearchParams

/-- No terms; inclusive and not exact. -/
def empty : SearchParams := ⟨[], true, false, none⟩

/-- Adds a term at the end. -/
def term (params : SearchParams) (key value : String) : SearchParams :=
  { params with terms := params.terms ++ [(key, value)] }

/-- Takes one pair: a setting if its key names one, else a term. -/
def addPair (params : SearchParams) (key value : String) : SearchParams :=
  if key = "inclusive" then { params with inclusive := value = "true" }
  else if key = "exact" then { params with exact := value = "true" }
  else if key = "case_sensitive" ∨ key = "case-sensitive" then
    { params with caseSensitive := some (value = "true") }
  else params.term key value

/-- The parameters that pairs describe, taken from left to right. -/
def ofPairs (pairs : List (String × String)) : SearchParams :=
  pairs.foldl (fun params pair => params.addPair pair.1 pair.2) empty

/-- A pair as it is typed; without an equals sign the value is empty. -/
def readPair (segment : List Char) : String × String :=
  match Text.cutFirst '=' segment with
  | some (key, value) => (String.ofList key, String.ofList value)
  | none => (String.ofList segment, "")

/-- The parameters that a typed search describes.  Leading `#` signs and then leading question marks
are dropped, and so are empty segments. -/
def parse (query : String) : SearchParams :=
  let body := (query.toList.dropWhile (· == '#')).dropWhile (· == '?')
  ofPairs (((Text.split (· == '&') body).filter fun segment => !segment.isEmpty).map readPair)

/-- Whether letters of different case differ: as set, or else as exactness says. -/
def isCaseSensitive (params : SearchParams) : Bool :=
  params.caseSensitive.getD params.exact

/-- The parameters as a JSON object. -/
def toJson (params : SearchParams) : Json :=
  .object [
    ("terms", .ofList (fun term => .texts [term.1, term.2]) params.terms),
    ("inclusive", .bool params.inclusive),
    ("exact", .bool params.exact),
    ("case_sensitive", .ofOption .bool params.caseSensitive)]

end SearchParams

/-- A term of a flat search: a list of its key and its value. -/
def Shape.termPair : Shape (String × String)
  | .array [key, value] => do
    let key ← string key
    let value ← string value
    return (key, value)
  | other => .error (.wrongKind other "a tuple of size 2")

/-- Flat search parameters. -/
def Shape.searchParams : Shape SearchParams := fun value => do
  let fields ← members ["terms", "inclusive", "exact", "case_sensitive"] "search parameters" value
  let terms ← field fields "terms" (list termPair)
  let inclusive ← fieldOr fields "inclusive" boolean true
  let exact ← fieldOr fields "exact" boolean false
  let caseSensitive ← fieldOr fields "case_sensitive" (optional boolean) none
  let terms ← required "terms" terms
  return { terms, inclusive, exact, caseSensitive }

end ClassAtlas
