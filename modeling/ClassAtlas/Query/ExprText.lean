import ClassAtlas.Json.Document
import ClassAtlas.Query.Expr

/-!
# Texts of search expressions

Reading an expression straight from its JSON text.  A term written as an object is a document with
the keys of a term, so what else its object holds is passed over by its outline alone; everything
around it is read strictly.  Lists and objects of expressions count towards the limit on nesting,
the values that are passed over do not.
-/

set_option autoImplicit false

namespace ClassAtlas.QueryExpr

open ClassAtlas.Json (skipSpace readKey readItems readValue readDocument levelLimit)

/-- The members of a list, whose items `part` reads. -/
def readList (part : List Char → Option (QueryExpr × List Char)) (text : List Char) :
    Option (List QueryExpr × List Char) :=
  match skipSpace text with
  | '[' :: rest => readItems ']' part rest
  | _ => none

/-- The key and the value of a term, in an object or in a list. -/
def readTermText (text : List Char) : Option (QueryExpr × List Char) :=
  match skipSpace text with
  | '\x7b' :: rest => do
    let (members, rest) ← readDocument ["key", "value"] rest
    let term ← (readTerm (.object members)).toOption
    return (term, rest)
  | other => do
    let (value, rest) ← readValue levelLimit other
    let term ← (readTerm value).toOption
    return (term, rest)

/-- An expression with at most `levels` lists and objects around each of its parts. -/
def readText : Nat → List Char → Option (QueryExpr × List Char)
  | 0, _ => none
  | levels + 1, text =>
    match skipSpace text with
    | '\x7b' :: rest => do
      let (name, rest) ← readKey rest
      let (expr, rest) ← match name, levels with
        | "not", levels => (readText levels rest).map fun (part, rest) => (.not part, rest)
        | "and", inner + 1 =>
          (readList (readText inner) rest).map fun (parts, rest) => (.and parts, rest)
        | "or", inner + 1 =>
          (readList (readText inner) rest).map fun (parts, rest) => (.or parts, rest)
        | "term", _ + 1 => readTermText rest
        | _, _ => none
      match skipSpace rest with
      | '\x7d' :: rest => some (expr, rest)
      | _ => none
    | _ => none

/-- The expression that a text spells. -/
def ofText? (text : String) : Option QueryExpr :=
  match readText levelLimit text.toList with
  | some (expr, rest) => if (skipSpace rest).isEmpty then some expr else none
  | none => none

end ClassAtlas.QueryExpr
