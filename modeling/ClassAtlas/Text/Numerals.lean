/-!
# Characters and numerals

A property of characters is a list of closed ranges of code points, and membership is a search
through the list.

Whole numbers are read from decimal texts.  A numeral has at least one digit and nothing but digits
after an optional sign; leading zeros are allowed.  The bound is part of the reading: a numeral
above it is no numeral of that size.  Ids and depths have 32 binary digits, counts and whole numbers
of JSON 64, and 63 are left where one digit is a sign.
-/

set_option autoImplicit false

namespace ClassAtlas

/-- The number of numbers with 32 binary digits. -/
def limit32 : Nat := 0x100000000

/-- The number of numbers with 63 binary digits. -/
def limit63 : Nat := 0x8000000000000000

/-- The number of numbers with 64 binary digits. -/
def limit64 : Nat := 0x10000000000000000

namespace Text

/-! ## Characters -/

/-- Whether a character lies in one of the closed ranges. -/
def inRanges (ranges : List (Nat × Nat)) (c : Char) : Bool :=
  ranges.any fun range => range.1 ≤ c.toNat && c.toNat ≤ range.2

/-- A decimal digit of ASCII. -/
def isDigit (c : Char) : Bool :=
  '0' ≤ c && c ≤ '9'

/-- The value of a decimal digit of ASCII. -/
def digitValue (c : Char) : Nat :=
  c.toNat - 48

/-- The lower case of an ASCII letter; every other character is kept. -/
def lowerAscii (c : Char) : Char :=
  if 'A' ≤ c ∧ c ≤ 'Z' then Char.ofNat (c.toNat + 32) else c

/-- The upper case of an ASCII letter; every other character is kept. -/
def upperAscii (c : Char) : Char :=
  if 'a' ≤ c ∧ c ≤ 'z' then Char.ofNat (c.toNat - 32) else c

/-- Two texts that differ at most in the case of ASCII letters. -/
def sameIgnoringAsciiCase (left right : String) : Bool :=
  left.toList.map lowerAscii == right.toList.map lowerAscii

/-! ## Numerals -/

/-- A number in lower-case hexadecimal digits. -/
def hexDigits (number : Nat) : List Char :=
  Nat.toDigits 16 number

/-- The number that a list of digits spells, `none` if some character is no digit. -/
def digitsValue (digits : List Char) : Option Nat :=
  if digits.all isDigit then some (digits.foldl (fun value c => value * 10 + digitValue c) 0)
  else none

/-- The number that one or more digits spell. -/
def unsignedValue (digits : List Char) : Option Nat :=
  if digits.isEmpty then none else digitsValue digits

/-- A number below `bound`, with an optional plus sign. -/
def readNat (bound : Nat) (text : String) : Option Nat :=
  let digits := match text.toList with
    | '+' :: rest => rest
    | other => other
  (unsignedValue digits).filter (· < bound)

/-- A number of 64 bits with a sign. -/
def readInt64 (text : String) : Option Int :=
  match text.toList with
  | '-' :: rest => ((unsignedValue rest).filter (· ≤ limit63)).map fun value => -Int.ofNat value
  | '+' :: rest => ((unsignedValue rest).filter (· < limit63)).map Int.ofNat
  | other => ((unsignedValue other).filter (· < limit63)).map Int.ofNat

end Text

end ClassAtlas
