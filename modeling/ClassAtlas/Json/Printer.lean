import ClassAtlas.Json.Value
import ClassAtlas.Text.Numerals

/-!
# Writing JSON

Two spellings of a value: `Json.compact` without any blank, and `Json.pretty` with one item or
member a line and two spaces a level.  Members are written in the order of the list that holds
them.  Inside a text only quotes, backslashes and control characters are escaped.
-/

set_option autoImplicit false

namespace ClassAtlas.Json

/-- The spelling of one character inside a JSON text. -/
def escapeChar (c : Char) : List Char :=
  if c == '"' then ['\\', '"']
  else if c == '\\' then ['\\', '\\']
  else if c == '\n' then ['\\', 'n']
  else if c == '\r' then ['\\', 'r']
  else if c == '\t' then ['\\', 't']
  else if c.toNat == 8 then ['\\', 'b']
  else if c.toNat == 12 then ['\\', 'f']
  else if c.toNat < 16 then ['\\', 'u', '0', '0', '0'] ++ Text.hexDigits c.toNat
  else if c.toNat < 32 then ['\\', 'u', '0', '0'] ++ Text.hexDigits c.toNat
  else [c]

/-- A text with quotes and escapes. -/
def textChars (value : String) : List Char :=
  '"' :: value.toList.flatMap escapeChar ++ ['"']

/-- Lists with a separator between neighbours. -/
def separated (separator : List Char) : List (List Char) → List Char
  | [] => []
  | [only] => only
  | first :: second :: rest => first ++ separator ++ separated separator (second :: rest)

mutual
/-- The characters of the spelling without blanks. -/
def compactChars : Json → List Char
  | .null => "null".toList
  | .bool true => "true".toList
  | .bool false => "false".toList
  | .number value => value.toText.toList
  | .text value => textChars value
  | .array items => '[' :: separated [','] (compactItems items) ++ [']']
  | .object members => '\x7b' :: separated [','] (compactMembers members) ++ ['\x7d']

/-- The spellings of the items of a list. -/
def compactItems : List Json → List (List Char)
  | [] => []
  | item :: rest => compactChars item :: compactItems rest

/-- The spellings of the members of an object. -/
def compactMembers : List (String × Json) → List (List Char)
  | [] => []
  | (key, value) :: rest => (textChars key ++ ':' :: compactChars value) :: compactMembers rest
end

/-- The spelling without blanks. -/
def compact (value : Json) : String :=
  String.ofList (compactChars value)

/-- A line break and the indentation of a level. -/
def lineBreak (level : Nat) : List Char :=
  '\n' :: List.replicate (2 * level) ' '

mutual
/-- The characters of the spelling with one item a line, at an indentation level. -/
def prettyChars (level : Nat) : Json → List Char
  | .null => "null".toList
  | .bool true => "true".toList
  | .bool false => "false".toList
  | .number value => value.toText.toList
  | .text value => textChars value
  | .array [] => ['[', ']']
  | .array (item :: rest) =>
    '[' :: lineBreak (level + 1) ++
      separated (',' :: lineBreak (level + 1)) (prettyItems (level + 1) (item :: rest)) ++
      lineBreak level ++ [']']
  | .object [] => ['\x7b', '\x7d']
  | .object (member :: rest) =>
    '\x7b' :: lineBreak (level + 1) ++
      separated (',' :: lineBreak (level + 1)) (prettyMembers (level + 1) (member :: rest)) ++
      lineBreak level ++ ['\x7d']

/-- The spellings of the items of a list, at a level. -/
def prettyItems (level : Nat) : List Json → List (List Char)
  | [] => []
  | item :: rest => prettyChars level item :: prettyItems level rest

/-- The spellings of the members of an object, at a level. -/
def prettyMembers (level : Nat) : List (String × Json) → List (List Char)
  | [] => []
  | (key, value) :: rest =>
    (textChars key ++ ':' :: ' ' :: prettyChars level value) :: prettyMembers level rest
end

/-- The spelling with one item or member a line. -/
def pretty (value : Json) : String :=
  String.ofList (prettyChars 0 value)

end ClassAtlas.Json
