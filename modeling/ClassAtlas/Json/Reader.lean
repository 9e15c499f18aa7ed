import ClassAtlas.Json.Value
import ClassAtlas.Text.Numerals

/-!
# Reading JSON

A strict reader: no comments, no trailing commas, no text after the value, no raw control
characters inside texts, no half of a surrogate pair.  Lists and objects may be nested 127 deep; the
number of levels that are left is the argument the reader recurses on.

A whole number keeps its exact value within 64 bits.  Of a longer numeral the leading digits that
fit count and the rest only shifts the decimal point; a number too large for floating point is
refused.
-/

set_option autoImplicit false

namespace ClassAtlas.Json

open ClassAtlas.Text (isDigit digitValue)

/-- The blanks of the format: space, tabulator, line feed, carriage return. -/
def isSpace (c : Char) : Bool :=
  c == ' ' || c == '\t' || c == '\n' || c == '\r'

/-- The text after its leading blanks. -/
def skipSpace (text : List Char) : List Char :=
  text.dropWhile isSpace

/-! ## Texts -/

/-- The value of a hexadecimal digit. -/
def hexValue (c : Char) : Option Nat :=
  if '0' ≤ c ∧ c ≤ '9' then some (c.toNat - 48)
  else if 'a' ≤ c ∧ c ≤ 'f' then some (c.toNat - 87)
  else if 'A' ≤ c ∧ c ≤ 'F' then some (c.toNat - 55)
  else none

/-- Four hexadecimal digits. -/
def readUnit : List Char → Option (Nat × List Char)
  | a :: b :: c :: d :: rest => do
    let a ← hexValue a
    let b ← hexValue b
    let c ← hexValue c
    let d ← hexValue d
    return (((a * 16 + b) * 16 + c) * 16 + d, rest)
  | _ => none

/-- The second half of a surrogate pair, whose first half is `high`. -/
def readLowHalf (high : Nat) : List Char → Option (Char × List Char)
  | '\\' :: 'u' :: rest =>
    match readUnit rest with
    | some (low, rest) =>
      if 0xDC00 ≤ low ∧ low ≤ 0xDFFF then
        some (Char.ofNat (0x10000 + (high - 0xD800) * 0x400 + (low - 0xDC00)), rest)
      else none
    | none => none
  | _ => none

/-- The character that an escape stands for, read after its backslash. -/
def readEscape : List Char → Option (Char × List Char)
  | '"' :: rest => some ('"', rest)
  | '\\' :: rest => some ('\\', rest)
  | '/' :: rest => some ('/', rest)
  | 'b' :: rest => some (Char.ofNat 8, rest)
  | 'f' :: rest => some (Char.ofNat 12, rest)
  | 'n' :: rest => some ('\n', rest)
  | 'r' :: rest => some ('\r', rest)
  | 't' :: rest => some ('\t', rest)
  | 'u' :: rest =>
    match readUnit rest with
    | some (unit, rest) =>
      if 0xD800 ≤ unit ∧ unit ≤ 0xDBFF then readLowHalf unit rest
      else if 0xDC00 ≤ unit ∧ unit ≤ 0xDFFF then none
      else some (Char.ofNat unit, rest)
    | none => none
  | _ => none

theorem readUnit_length {text rest : List Char} {unit : Nat}
    (h : readUnit text = some (unit, rest)) : rest.length < text.length := by
  unfold readUnit at h
  split at h
  · simp only [Option.bind_eq_bind, Option.bind_eq_some_iff, Option.pure_def, Option.some.injEq,
      Prod.mk.injEq] at h
    obtain ⟨_, _, _, _, _, _, _, _, _, rfl⟩ := h
    simp only [List.length_cons]
    omega
  · simp at h

theorem readLowHalf_length {high : Nat} {text rest : List Char} {c : Char}
    (h : readLowHalf high text = some (c, rest)) : rest.length < text.length := by
  unfold readLowHalf at h
  split at h
  · split at h
    · next heq =>
      have shorter := readUnit_length heq
      split at h
      · simp only [Option.some.injEq, Prod.mk.injEq] at h
        obtain ⟨_, rfl⟩ := h
        simp only [List.length_cons]
        omega
      · simp at h
    · simp at h
  · simp at h

/-- An escape takes at least one character. -/
theorem readEscape_length {text rest : List Char} {c : Char}
    (h : readEscape text = some (c, rest)) : rest.length < text.length := by
  unfold readEscape at h
  split at h
  case h_9 =>
    split at h
    · next heq =>
      have := readUnit_length heq
      split at h
      · have := readLowHalf_length h
        simp only [List.length_cons]
        omega
      · split at h
        · simp at h
        · simp_all
          omega
    · simp at h
  all_goals simp_all

/-- The characters of a text up to its closing quote, read after the opening one. -/
def readText (text : List Char) : Option (List Char × List Char) :=
  match text with
  | [] => none
  | c :: rest =>
    if c == '"' then some ([], rest)
    else if c == '\\' then
      match h : readEscape rest with
      | none => none
      | some (escaped, after) =>
        have : after.length < rest.length := readEscape_length h
        (readText after).map fun (chars, rest) => (escaped :: chars, rest)
    else if c.toNat < 32 then none
    else (readText rest).map fun (chars, rest) => (c :: chars, rest)
termination_by text.length
decreasing_by
  all_goals simp only [List.length_cons]
  all_goals omega

/-! ## Numbers -/

/-- Appends digits to a number while it stays below `2 ^ 64`; the second part counts the digits
from the first one that no longer fits. -/
def absorb (value : Nat) : List Char → Nat × Nat
  | [] => (value, 0)
  | c :: rest =>
    if value * 10 + digitValue c < limit64 then absorb (value * 10 + digitValue c) rest
    else (value, rest.length + 1)

/-- The digits after a decimal point, `[]` if there is no point. -/
def readFraction : List Char → Option (List Char × List Char)
  | '.' :: rest =>
    let digits := rest.takeWhile isDigit
    if digits.isEmpty then none else some (digits, rest.drop digits.length)
  | rest => some ([], rest)

/-- The sign and digits after an exponent mark, if there is one. -/
def readExponent : List Char → Option (Option (Bool × Nat) × List Char)
  | c :: rest =>
    if c == 'e' || c == 'E' then
      let (negative, rest) := match rest with
        | '+' :: rest => (false, rest)
        | '-' :: rest => (true, rest)
        | rest => (false, rest)
      let digits := rest.takeWhile isDigit
      if digits.isEmpty then none
      else
        some (some (negative, digits.foldl (fun value c => value * 10 + digitValue c) 0),
          rest.drop digits.length)
    else some (none, c :: rest)
  | [] => some (none, [])

/-- The parts of a numeral: its sign, its digits before and after the point, and its exponent with
a sign of its own. -/
structure Numeral where
  negative : Bool
  whole : List Char
  fraction : List Char
  exponent : Option (Bool × Nat)
  deriving DecidableEq, Repr

/-- A numeral: no leading zeros, and digits on both sides of a point. -/
def readNumeral (text : List Char) : Option (Numeral × List Char) := do
  let (negative, rest) := match text with
    | '-' :: rest => (true, rest)
    | rest => (false, rest)
  let whole := rest.takeWhile isDigit
  if whole.isEmpty then none
  else if whole.head? = some '0' ∧ whole.length ≠ 1 then none
  else
    let (fraction, rest) ← readFraction (rest.drop whole.length)
    let (exponent, rest) ← readExponent rest
    return (⟨negative, whole, fraction, exponent⟩, rest)

/-- The number that a numeral stands for. -/
def Numeral.number? (numeral : Numeral) : Option JsonNumber :=
  let negative := numeral.negative
  let (significand, dropped) := absorb 0 numeral.whole
  if numeral.fraction.isEmpty ∧ numeral.exponent.isNone ∧ dropped = 0 then
    if negative then
      if significand = 0 then some (.real { Binary64.zero with negative := true })
      else if significand ≤ limit63 then some (.negative significand)
      else (Binary64.ofNat true significand).map .real
    else some (.natural significand)
  else
    let (significand, unused) := absorb significand numeral.fraction
    let shift : Int := Int.ofNat dropped - Int.ofNat (numeral.fraction.length - unused)
    match numeral.exponent with
    | none => (Binary64.ofParts negative significand shift).map .real
    | some (down, size) =>
      if 0x80000000 ≤ size then
        if significand ≠ 0 ∧ !down then none
        else some (.real { Binary64.zero with negative := negative })
      else
        let shift := if down then shift - Int.ofNat size else shift + Int.ofNat size
        (Binary64.ofParts negative significand shift).map .real

/-- A number. -/
def readNumber (text : List Char) : Option (JsonNumber × List Char) := do
  let (numeral, rest) ← readNumeral text
  let value ← numeral.number?
  return (value, rest)

/-! ## Values -/

/-- The rest of a text after a word. -/
def readWord (word : List Char) (text : List Char) : Option (List Char) :=
  if word.isPrefixOf text then some (text.drop word.length) else none

/-- The items of a list after the first one: a comma and an item each, then the closing
character.  `steps` bounds the number of items. -/
def readTail {α : Type} (close : Char) (item : List Char → Option (α × List Char)) :
    Nat → List Char → Option (List α × List Char)
  | 0, _ => none
  | steps + 1, source =>
    match skipSpace source with
    | c :: rest =>
      if c == close then some ([], rest)
      else if c == ',' then do
        let (first, rest) ← item rest
        let (items, rest) ← readTail close item steps rest
        return (first :: items, rest)
      else none
    | [] => none

/-- Items between an opening character, already read, and a closing one. -/
def readItems {α : Type} (close : Char) (item : List Char → Option (α × List Char))
    (text : List Char) :
    Option (List α × List Char) :=
  match skipSpace text with
  | c :: rest =>
    if c == close then some ([], rest)
    else do
      let (first, rest) ← item text
      let (items, rest) ← readTail close item (text.length + 1) rest
      return (first :: items, rest)
  | [] => none

/-- The key of a member of an object, with the colon after it. -/
def readKey (text : List Char) : Option (String × List Char) :=
  match skipSpace text with
  | '"' :: rest => do
    let (key, rest) ← readText rest
    match skipSpace rest with
    | ':' :: rest => some (String.ofList key, rest)
    | _ => none
  | _ => none

/-- A member of an object, whose value `value` reads. -/
def readMember (value : List Char → Option (Json × List Char)) (text : List Char) :
    Option ((String × Json) × List Char) := do
  let (key, rest) ← readKey text
  let (value, rest) ← value rest
  return ((key, value), rest)

/-- A value with at most `levels` lists and objects around each of its parts. -/
def readValue (levels : Nat) (text : List Char) : Option (Json × List Char) :=
  match skipSpace text with
  | '"' :: rest => do
    let (chars, rest) ← readText rest
    return (.text (String.ofList chars), rest)
  | '[' :: rest =>
    match levels with
    | 0 => none
    | levels + 1 => do
      let (items, rest) ← readItems ']' (readValue levels) rest
      return (.array items, rest)
  | '\x7b' :: rest =>
    match levels with
    | 0 => none
    | levels + 1 => do
      let (members, rest) ← readItems '\x7d' (readMember (readValue levels)) rest
      return (.object members, rest)
  | 'n' :: rest => (readWord "ull".toList rest).map fun rest => (.null, rest)
  | 't' :: rest => (readWord "rue".toList rest).map fun rest => (.bool true, rest)
  | 'f' :: rest => (readWord "alse".toList rest).map fun rest => (.bool false, rest)
  | other => (readNumber other).map fun (value, rest) => (.number value, rest)

/-- How many lists and objects may be nested. -/
def levelLimit : Nat := 127

/-- The value that a text spells, members as written. -/
def ofText? (text : String) : Option Json :=
  match readValue levelLimit text.toList with
  | some (value, rest) => if (skipSpace rest).isEmpty then some value else none
  | none => none

end ClassAtlas.Json
