import ClassAtlas.Json.Printer
import ClassAtlas.Text.EscapeTable
import ClassAtlas.Text.Numerals

/-!
# Shapes of JSON values

Reading typed data out of a JSON value.  A reader gives the data or a `Mismatch`, which says what
was found and what was expected; its wording is part of the messages that users see.  A text in a
message stands in double quotes, with a backslash before quotes and backslashes, short escapes for
the common control characters, and the code point in braces for every other character without a
visible form of its own.

A record is read from the members of an object.  Its keys are checked in ascending order, so of
several bad members the one with the least key is reported, and a missing field only when no member
is bad.  A field that may hold one item or a list is read as a list first.
-/

set_option autoImplicit false

namespace ClassAtlas

/-! ## Texts in messages -/

namespace Text

/-- The spelling of one character inside quotes. -/
def quoteChar (c : Char) : List Char :=
  if c == '"' then ['\\', '"']
  else if c == '\\' then ['\\', '\\']
  else if c == '\n' then ['\\', 'n']
  else if c == '\r' then ['\\', 'r']
  else if c == '\t' then ['\\', 't']
  else if c.toNat == 0 then ['\\', '0']
  else if 32 ≤ c.toNat && c.toNat < 127 then [c]
  else if inRanges hiddenRanges c then ['\\', 'u', '\x7b'] ++ hexDigits c.toNat ++ ['\x7d']
  else [c]

/-- A text in double quotes. -/
def quoted (text : String) : String :=
  String.ofList ('"' :: text.toList.flatMap quoteChar ++ ['"'])

end Text

/-! ## Values in messages -/

/-- Why a value does not have the shape that is asked for. -/
inductive Mismatch where
  | wrongKind (found : Json) (expected : String)
  | outOfRange (found : JsonNumber) (expected : String)
  | missingField (name : String)
  | repeatedField (name : String)
  | noAlternative (name : String)
  | wrongLength (expected : String)
  | unknownAlternative (name : String)
  | bindingParts (count : Nat)
  | bindingName (found : Json)
  deriving Repr

namespace Json

/-- How a message names a value that was found in place of another one. -/
def found : Json → String
  | .null => "null"
  | .bool value => s!"boolean `{value}`"
  | .number (.real value) => s!"floating point `{value.toText}`"
  | .number value => s!"integer `{value.toText}`"
  | .text value => "string " ++ Text.quoted value
  | .array _ => "sequence"
  | .object _ => "map"

mutual
/-- The spelling of a value with the names of its alternatives. -/
def spelled : Json → String
  | .null => "Null"
  | .bool value => s!"Bool({value})"
  | .number value => s!"Number({value.toText})"
  | .text value => "String(" ++ Text.quoted value ++ ")"
  | .array items => "Array [" ++ ", ".intercalate (spelledItems items) ++ "]"
  | .object members => "Object \x7b" ++ ", ".intercalate (spelledMembers members) ++ "\x7d"

/-- The spellings of the items of a list. -/
def spelledItems : List Json → List String
  | [] => []
  | item :: rest => spelled item :: spelledItems rest

/-- The spellings of the members of an object. -/
def spelledMembers : List (String × Json) → List String
  | [] => []
  | (key, value) :: rest => (Text.quoted key ++ ": " ++ spelled value) :: spelledMembers rest
end

end Json

/-- The wording of a mismatch. -/
def Mismatch.message : Mismatch → String
  | .wrongKind found expected => s!"invalid type: {found.found}, expected {expected}"
  | .outOfRange found expected => s!"invalid value: integer `{found.toText}`, expected {expected}"
  | .missingField name => s!"missing field `{name}`"
  | .repeatedField name => s!"duplicate field `{name}`"
  | .noAlternative name => s!"data did not match any variant of untagged enum {name}"
  | .wrongLength expected => s!"invalid length, expected {expected}"
  | .unknownAlternative name => s!"unknown variant `{name}`"
  | .bindingParts count => s!"binding must have 2 or 3 parts, found {count}"
  | .bindingName value => s!"binding name must be a string, found Some({value.spelled})"

/-- A reader of typed data. -/
abbrev Shape (α : Type) : Type := Json → Except Mismatch α

namespace Shape

/-- A whole number below a bound, which messages call by `name`. -/
def boundedNat (bound : Nat) (name : String) : Shape Nat
  | .number (.natural value) =>
    if value < bound then .ok value else .error (.outOfRange (.natural value) name)
  | .number (.negative magnitude) => .error (.outOfRange (.negative magnitude) name)
  | other => .error (.wrongKind other name)

/-- A whole number of 32 bits. -/
def nat32 : Shape Nat := boundedNat limit32 "u32"

/-- A whole number of 64 bits. -/
def nat64 : Shape Nat := boundedNat limit64 "usize"

/-- A text. -/
def string : Shape String
  | .text value => .ok value
  | other => .error (.wrongKind other "a string")

/-- A truth value. -/
def boolean : Shape Bool
  | .bool value => .ok value
  | other => .error (.wrongKind other "a boolean")

/-- Any value. -/
def any : Shape Json := .ok

/-- Reads the items of a list one after the other. -/
def items {α : Type} (item : Shape α) : List Json → Except Mismatch (List α)
  | [] => .ok []
  | value :: rest => do
    let first ← item value
    let others ← items item rest
    return first :: others

/-- A list. -/
def list {α : Type} (item : Shape α) : Shape (List α)
  | .array values => items item values
  | other => .error (.wrongKind other "a sequence")

/-- A value that may be `null`. -/
def optional {α : Type} (shape : Shape α) : Shape (Option α)
  | .null => .ok none
  | other => (shape other).map some

/-- A list, or one item alone, or `null` for no item.  What can be read as a list is read so. -/
def oneOrMany {α : Type} (item : Shape α) : Shape (List α)
  | .null => .ok []
  | other =>
    match list item other with
    | .ok values => .ok values
    | .error _ =>
      match item other with
      | .ok value => .ok [value]
      | .error _ => .error (.noAlternative "OneOrMany")

/-! ## Fields of records -/

/-- How many members have a key. -/
def occurrences (key : String) (members : List (String × Json)) : Nat :=
  (members.filter fun member => member.1 = key).length

/-- A field with its value if some member gives it; a key that is written twice is refused. -/
def field {α : Type} (members : List (String × Json)) (key : String) (shape : Shape α) :
    Except Mismatch (Option α) :=
  if 1 < occurrences key members then .error (.repeatedField key)
  else
    match Json.member? members key with
    | none => .ok none
    | some value => (shape value).map some

/-- A field with a value for the case that no member gives it. -/
def fieldOr {α : Type} (members : List (String × Json)) (key : String) (shape : Shape α)
    (default : α) : Except Mismatch α :=
  (field members key shape).map (·.getD default)

/-- What is given, or a complaint that the field is missing. -/
def required {α : Type} (key : String) : Option α → Except Mismatch α
  | some value => .ok value
  | none => .error (.missingField key)

/-- The members of a record whose fields are given in order by a list. -/
def zipFields (keys : List String) (values : List Json) : List (String × Json) :=
  keys.zip values

/-- The members of a record: those of an object, or the items of a list in the order of the fields.
A list may stop early but not go on. -/
def members (keys : List String) (expected : String) : Shape (List (String × Json))
  | .object members => .ok members
  | .array values =>
    if keys.length < values.length then .error (.wrongLength expected)
    else .ok (zipFields keys values)
  | other => .error (.wrongKind other expected)

end Shape

end ClassAtlas
