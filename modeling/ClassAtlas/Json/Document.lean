import ClassAtlas.Json.Reader

/-!
# Reading documents

A document is an object whose members are known by their keys.  The known members are read; any
other member is passed over by its outline alone.  Its brackets have to match and its texts, words
and numerals have to be well formed, but a numeral may be of any size, an escape may spell half of a
surrogate pair, and lists and objects may be nested to any depth, because nothing of the value is
kept.
-/

set_option autoImplicit false

namespace ClassAtlas.Json

/-! ## Outlines -/

/-- Whether a character may follow a backslash, hexadecimal escapes apart. -/
def isShortEscape (c : Char) : Bool :=
  c == '"' || c == '\\' || c == '/' || c == 'b' || c == 'f' || c == 'n' || c == 'r' || c == 't'

/-- What follows the closing quote of a text, given what follows the opening one. -/
def skipText : List Char → Option (List Char)
  | [] => none
  | '"' :: rest => some rest
  | '\\' :: 'u' :: a :: b :: c :: d :: rest =>
    if [a, b, c, d].all fun digit => (hexValue digit).isSome then skipText rest else none
  | '\\' :: c :: rest => if isShortEscape c then skipText rest else none
  | c :: rest => if c == '\\' || c.toNat < 32 then none else skipText rest

/-- What follows a member of an object whose value `value` passes over. -/
def skipMember (value : List Char → Option (Unit × List Char)) (text : List Char) :
    Option (Unit × List Char) :=
  match skipSpace text with
  | '"' :: rest => do
    let rest ← skipText rest
    match skipSpace rest with
    | ':' :: rest => value rest
    | _ => none
  | _ => none

/-- What follows a value; `levels` bounds how deep its lists and objects are nested. -/
def skipValue (levels : Nat) (text : List Char) : Option (Unit × List Char) :=
  match skipSpace text with
  | '"' :: rest => (skipText rest).map fun rest => ((), rest)
  | '[' :: rest =>
    match levels with
    | 0 => none
    | levels + 1 => (readItems ']' (skipValue levels) rest).map fun (_, rest) => ((), rest)
  | '\x7b' :: rest =>
    match levels with
    | 0 => none
    | levels + 1 =>
      (readItems '\x7d' (skipMember (skipValue levels)) rest).map fun (_, rest) => ((), rest)
  | 'n' :: rest => (readWord "ull".toList rest).map fun rest => ((), rest)
  | 't' :: rest => (readWord "rue".toList rest).map fun rest => ((), rest)
  | 'f' :: rest => (readWord "alse".toList rest).map fun rest => ((), rest)
  | other => (readNumeral other).map fun (_, rest) => ((), rest)

/-! ## Documents -/

/-- A member of a document, `none` if its key is unknown.  No text has more levels than
characters, so an unknown member may be nested to any depth. -/
def readKnown (keys : List String) (text : List Char) :
    Option (Option (String × Json) × List Char) := do
  let (key, rest) ← readKey text
  if keys.contains key then
    let (value, rest) ← readValue (levelLimit - 1) rest
    return (some (key, value), rest)
  else
    let (_, rest) ← skipValue rest.length rest
    return (none, rest)

/-- The members of known keys, read after the opening brace of a document. -/
def readDocument (keys : List String) (text : List Char) :
    Option (List (String × Json) × List Char) := do
  let (members, rest) ← readItems '\x7d' (readKnown keys) text
  return (members.filterMap fun member => member, rest)

/-- The value that the text of a document spells, without the members of unknown keys.  A text that
spells no object is read as it is. -/
def ofDocument? (keys : List String) (text : String) : Option Json :=
  match skipSpace text.toList with
  | '\x7b' :: rest =>
    match readDocument keys rest with
    | some (members, rest) => if (skipSpace rest).isEmpty then some (.object members) else none
    | none => none
  | _ => ofText? text

end ClassAtlas.Json
