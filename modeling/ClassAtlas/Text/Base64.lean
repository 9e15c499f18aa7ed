import ClassAtlas.Text.Numerals

/-!
# Base64

The standard alphabet with required padding.  Decoding is strict: the padding must make the length a
multiple of four, padding stands only at the end, and the bits of the last symbol that carry no data
are zero.  Of several faults the one that the reading from the left meets first is reported, with
one exception: a stray last character that no symbol can be is noticed before everything else.
-/

set_option autoImplicit false

namespace ClassAtlas.Base64

/-- Why a text is no base64. -/
inductive Flaw where
  | badSymbol (byte offset : Nat)
  | badLength (length : Nat)
  | badLastSymbol (byte offset : Nat)
  | badPadding
  deriving DecidableEq, Repr

/-- The wording of a flaw. -/
def Flaw.message : Flaw → String
  | .badSymbol byte offset => s!"Invalid symbol {byte}, offset {offset}."
  | .badLength length => s!"Invalid input length: {length}"
  | .badLastSymbol byte offset => s!"Invalid last symbol {byte}, offset {offset}."
  | .badPadding => "Invalid padding"

/-- The padding byte, an equals sign. -/
def padding : Nat := 61

/-- The six bits of a symbol. -/
def symbolValue (byte : Nat) : Option Nat :=
  if 65 ≤ byte ∧ byte ≤ 90 then some (byte - 65)
  else if 97 ≤ byte ∧ byte ≤ 122 then some (byte - 71)
  else if 48 ≤ byte ∧ byte ≤ 57 then some (byte + 4)
  else if byte = 43 then some 62
  else if byte = 47 then some 63
  else none

/-- The symbol of six bits. -/
def symbol (value : Nat) : Nat :=
  if value < 26 then value + 65
  else if value < 52 then value + 71
  else if value < 62 then value - 4
  else if value = 62 then 43
  else 47

/-- The values of symbols that start at an offset. -/
def symbolValues (offset : Nat) : List Nat → Except Flaw (List Nat)
  | [] => .ok []
  | byte :: rest =>
    match symbolValue byte with
    | none => .error (.badSymbol byte offset)
    | some value => (symbolValues (offset + 1) rest).map (value :: ·)

/-- The three bytes of each complete group of four values. -/
def groupBytes : List Nat → List Nat
  | a :: b :: c :: d :: rest =>
    let bits := ((a * 64 + b) * 64 + c) * 64 + d
    bits / 65536 :: bits / 256 % 256 :: bits % 256 :: groupBytes rest
  | _ => []

/-- The last group, four bytes at most, that starts at an offset: its symbols, then its padding. -/
def lastGroup (offset : Nat) (group : List Nat) : Except Flaw (List Nat) :=
  let symbols := group.takeWhile (· != padding)
  let rest := group.drop symbols.length
  match symbolValues offset symbols with
  | .error flaw => .error flaw
  | .ok values =>
    if !rest.isEmpty && values.length < 2 then .error (.badSymbol padding (offset + values.length))
    else if rest.any (· != padding) then .error (.badSymbol padding (offset + values.length))
    else if values.length < 2 then .error (.badLength (offset + values.length))
    else if group.length ≠ 4 then .error .badPadding
    else
      let last := offset + values.length - 1
      let lastByte := symbols.getLast?.getD 0
      match values with
      | [a, b] =>
        if b % 16 ≠ 0 then .error (.badLastSymbol lastByte last) else .ok [a * 4 + b / 16]
      | [a, b, c] =>
        if c % 4 ≠ 0 then .error (.badLastSymbol lastByte last)
        else .ok [a * 4 + b / 16, b % 16 * 16 + c / 4]
      | values => .ok (groupBytes values)

/-- The bytes that a base64 text spells, given by its own bytes. -/
def decode (source : List Nat) : Except Flaw (List Nat) :=
  if source.isEmpty then .ok []
  else
    let lastByte := source.getLast?.getD 0
    if source.length % 4 = 1 ∧ lastByte ≠ padding ∧ (symbolValue lastByte).isNone then
      .error (.badSymbol lastByte (source.length - 1))
    else
      let complete := (source.length - 1) / 4 * 4
      match symbolValues 0 (source.take complete) with
      | .error flaw => .error flaw
      | .ok values => (lastGroup complete (source.drop complete)).map (groupBytes values ++ ·)

/-- The base64 text of bytes, as bytes. -/
def encode : List Nat → List Nat
  | [] => []
  | [a] => [symbol (a / 4), symbol (a % 4 * 16), padding, padding]
  | [a, b] =>
    [symbol (a / 4), symbol (a % 4 * 16 + b / 16), symbol (b % 16 * 4), padding]
  | a :: b :: c :: rest =>
    symbol (a / 4) :: symbol (a % 4 * 16 + b / 16) :: symbol (b % 16 * 4 + c / 64) ::
      symbol (c % 64) :: encode rest

end ClassAtlas.Base64
