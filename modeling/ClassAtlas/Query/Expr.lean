import ClassAtlas.Json.Shape

/-!
# Structured search expressions

Boolean combinations of search terms.  On the wire an expression is an object with exactly one
member, whose key says how its value is to be taken.
-/

set_option autoImplicit false

namespace ClassAtlas

/-- A boolean combination of terms. -/
inductive QueryExpr where
  | and (parts : List QueryExpr)
  | or (parts : List QueryExpr)
  | not (part : QueryExpr)
  | term (key value : String)
  deriving Repr, Inhabited

namespace QueryExpr

mutual
/-- The expression as JSON. -/
def toJson : QueryExpr → Json
  | .and parts => .object [("and", .array (listToJson parts))]
  | .or parts => .object [("or", .array (listToJson parts))]
  | .not part => .object [("not", toJson part)]
  | .term key value =>
    .object [("term", .object [("key", .text key), ("value", .text value)])]

/-- Expressions as JSON. -/
def listToJson : List QueryExpr → List Json
  | [] => []
  | part :: rest => toJson part :: listToJson rest
end

/-- A term: an object with its key and its value, or a list of both. -/
def readTerm (value : Json) : Except Mismatch QueryExpr := do
  let fields ← Shape.members ["key", "value"] "a search term" value
  let key ← Shape.field fields "key" Shape.string
  let text ← Shape.field fields "value" Shape.string
  let key ← Shape.required "key" key
  let text ← Shape.required "value" text
  return .term key text

mutual
/-- Reads an expression. -/
def ofJson : Json → Except Mismatch QueryExpr
  | .object [("and", .array parts)] => (listOfJson parts).map .and
  | .object [("or", .array parts)] => (listOfJson parts).map .or
  | .object [("not", part)] => (ofJson part).map .not
  | .object [("term", value)] => readTerm value
  | .object [("and", other)] => .error (.wrongKind other "a sequence")
  | .object [("or", other)] => .error (.wrongKind other "a sequence")
  | .object [(name, _)] => .error (.unknownAlternative name)
  | other => .error (.wrongKind other "map with a single key")

/-- Reads expressions one after the other. -/
def listOfJson : List Json → Except Mismatch (List QueryExpr)
  | [] => .ok []
  | part :: rest => do
    let first ← ofJson part
    let others ← listOfJson rest
    return first :: others
end

end QueryExpr

end ClassAtlas
