import ClassAtlas.Json.Binary64

/-!
# JSON values

The values of the data format.  An object is the list of its members as they are written: in
written order, repetitions included.  `Json.canonical` gives the form in which every key occurs
once, the last one written winning, and keys ascend; two objects with the same meaning have the same
canonical form.

Whole numbers are kept exactly as far as 64 bits go; all other numbers are binary floating point.
-/

set_option autoImplicit false

namespace ClassAtlas

/-- A number: a natural number below `2 ^ 64`, the negative of a positive number up to `2 ^ 63`, or
a floating-point number. -/
inductive JsonNumber where
  | natural (value : Nat)
  | negative (magnitude : Nat)
  | real (value : Binary64)
  deriving DecidableEq, Repr

/-- The text of a number. -/
def JsonNumber.toText : JsonNumber → String
  | .natural value => toString value
  | .negative magnitude => "-" ++ toString magnitude
  | .real value => value.toText

/-- A JSON value. -/
inductive Json where
  | null
  | bool (value : Bool)
  | number (value : JsonNumber)
  | text (value : String)
  | array (items : List Json)
  | object (members : List (String × Json))
  deriving Inhabited, Repr

namespace Json

/-- A natural number as a value. -/
def nat (value : Nat) : Json :=
  .number (.natural value)

/-- A whole number as a value. -/
def int : Int → Json
  | .ofNat value => .number (.natural value)
  | .negSucc value => .number (.negative (value + 1))

/-- An optional value, `null` when absent. -/
def ofOption {α : Type} (encode : α → Json) : Option α → Json
  | some value => encode value
  | none => .null

/-- A list of values. -/
def ofList {α : Type} (encode : α → Json) (items : List α) : Json :=
  .array (items.map encode)

/-- A list of texts. -/
def texts (items : List String) : Json :=
  .array (items.map .text)

/-- Puts a member into a list with ascending keys, in the place of an older member of its key. -/
def putMember (key : String) (value : Json) : List (String × Json) → List (String × Json)
  | [] => [(key, value)]
  | (other, old) :: rest =>
    if key = other then (key, value) :: rest
    else if key < other then (key, value) :: (other, old) :: rest
    else (other, old) :: putMember key value rest

/-- The members in ascending order of keys, the last one of each key. -/
def sortMembers (members : List (String × Json)) : List (String × Json) :=
  members.foldl (fun sorted member => putMember member.1 member.2 sorted) []

mutual
/-- The form of a value with ascending keys and no key twice. -/
def canonical : Json → Json
  | .array items => .array (canonicalItems items)
  | .object members => .object (sortMembers (canonicalMembers members))
  | .null => .null
  | .bool value => .bool value
  | .number value => .number value
  | .text value => .text value

/-- The canonical forms of the items of a list. -/
def canonicalItems : List Json → List Json
  | [] => []
  | item :: rest => canonical item :: canonicalItems rest

/-- The members with canonical values. -/
def canonicalMembers : List (String × Json) → List (String × Json)
  | [] => []
  | (key, value) :: rest => (key, canonical value) :: canonicalMembers rest
end

/-- The value of the last member with a key. -/
def member? (members : List (String × Json)) (key : String) : Option Json :=
  members.foldl (fun found member => if member.1 = key then some member.2 else found) none

/-- The value of a member of an object. -/
def field? (key : String) : Json → Option Json
  | .object members => member? members key
  | _ => none

/-- Whether a value is `null`. -/
def isNull : Json → Bool
  | .null => true
  | _ => false

end Json

end ClassAtlas
