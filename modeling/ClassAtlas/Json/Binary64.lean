/-!
# Binary floating point, in exact arithmetic

Finite numbers of the 64-bit binary format as a sign, a whole mantissa and a power of two.  Rounding
a quotient of whole numbers is done once, exactly, to the nearest number with ties to the even
mantissa; products and quotients of such numbers round through it.

The second half chooses decimal digits: the fewest that read back as the same number, and of those
the nearest to it.
-/

set_option autoImplicit false

namespace ClassAtlas

/-- A finite number of the 64-bit binary format: `mantissa * 2 ^ exponent`, with a sign that zero
has too.  A mantissa below `2 ^ 52` goes with the exponent -1074 only. -/
structure Binary64 where
  negative : Bool
  mantissa : Nat
  exponent : Int
  deriving DecidableEq, Repr

namespace Binary64

/-- The least exponent. -/
def leastExponent : Int := -1074

/-- The greatest exponent of a finite number. -/
def greatestExponent : Int := 971

/-- The least mantissa with all 53 binary digits. -/
def leastFull : Nat := 0x10000000000000

/-- Zero, without a sign. -/
def zero : Binary64 := ⟨false, 0, leastExponent⟩

/-- The two whole numbers whose quotient is `mantissa * 2 ^ exponent`. -/
def fraction (mantissa : Nat) (exponent : Int) : Nat × Nat :=
  if 0 ≤ exponent then (mantissa * Nat.pow 2 exponent.toNat, 1)
  else (mantissa, Nat.pow 2 (-exponent).toNat)

/-- The absolute value as a quotient of whole numbers. -/
def ratio (number : Binary64) : Nat × Nat :=
  fraction number.mantissa number.exponent

/-- The whole part of `num / den / 2 ^ exponent` with what is left, over the same denominator. -/
def scaledDiv (num den : Nat) (exponent : Int) : Nat × Nat × Nat :=
  if 0 ≤ exponent then
    let den := den * Nat.pow 2 exponent.toNat
    (num / den, num % den, den)
  else
    let num := num * Nat.pow 2 (-exponent).toNat
    (num / den, num % den, den)

/-- The exponent at which the quotient has 53 binary digits, and at least the least one. -/
def exponentOf (num den : Nat) : Int :=
  let guess : Int := Int.ofNat num.log2 - Int.ofNat den.log2 - 52
  let exponent := if (scaledDiv num den guess).1 < leastFull then guess - 1 else guess
  max exponent leastExponent

/-- The number nearest to a quotient of whole numbers, the even one of two; `none` when it is too
large for the format. -/
def ofRatio (negative : Bool) (num den : Nat) : Option Binary64 :=
  if num = 0 then some ⟨negative, 0, leastExponent⟩
  else
    let exponent := exponentOf num den
    let (whole, rest, den) := scaledDiv num den exponent
    let mantissa :=
      if 2 * rest > den ∨ (2 * rest = den ∧ whole % 2 = 1) then whole + 1 else whole
    let (mantissa, exponent) :=
      if mantissa = 2 * leastFull then (leastFull, exponent + 1) else (mantissa, exponent)
    if greatestExponent < exponent then none else some ⟨negative, mantissa, exponent⟩

/-- The nearest number to a whole number. -/
def ofNat (negative : Bool) (value : Nat) : Option Binary64 :=
  ofRatio negative value 1

/-- The rounded product of the absolute values. -/
def mul (left right : Binary64) : Option Binary64 :=
  ofRatio left.negative (left.ratio.1 * right.ratio.1) (left.ratio.2 * right.ratio.2)

/-- The rounded quotient of the absolute values; the divisor is not zero. -/
def div (left right : Binary64) : Option Binary64 :=
  ofRatio left.negative (left.ratio.1 * right.ratio.2) (left.ratio.2 * right.ratio.1)

/-- Scales by a power of ten in steps of at most 308 decades, rounding after each step.  Small
numbers come down to zero; a number that grows too large is `none`. -/
def scaleByTen : Nat → Binary64 → Int → Option Binary64
  | 0, number, _ => some { number with mantissa := 0, exponent := leastExponent }
  | steps + 1, number, exponent =>
    if exponent.natAbs ≤ 308 then
      (ofNat false (Nat.pow 10 exponent.natAbs)).bind fun power =>
        if 0 ≤ exponent then number.mul power else number.div power
    else if number.mantissa = 0 then some number
    else if 0 ≤ exponent then none
    else
      (ofNat false (Nat.pow 10 308)).bind fun power =>
        (number.div power).bind fun smaller => scaleByTen steps smaller (exponent + 308)

/-- The number `significand * 10 ^ exponent` with a sign, rounded first as a whole number and then
at every scaling step. -/
def ofParts (negative : Bool) (significand : Nat) (exponent : Int) : Option Binary64 :=
  (ofNat negative significand).bind fun number => scaleByTen 8 number exponent

/-! ## The fewest decimal digits that read back -/

/-- The bounds of the numbers that round to this one, over four times the denominator of its
ratio: the lower bound, the number itself, the upper bound, and that denominator. -/
def interval (number : Binary64) : Nat × Nat × Nat × Nat :=
  let (num, den) := fraction (4 * number.mantissa) number.exponent
  let (unit, _) := fraction 1 number.exponent
  let below :=
    if number.mantissa = leastFull ∧ leastExponent < number.exponent then unit else 2 * unit
  (num - below, num, num + 2 * unit, 4 * den)

/-- The candidate nearest to `value / den` on the grid of multiples of `10 ^ power` that lies in
the interval, as a multiple. -/
def gridPoint (low value high den : Nat) (closed : Bool) (power : Int) : Option Nat :=
  let (scaleUp, scaleDown) : Nat × Nat :=
    if 0 ≤ power then (Nat.pow 10 power.toNat, 1) else (1, Nat.pow 10 (-power).toNat)
  let unit := den * scaleUp
  let low := low * scaleDown
  let value := value * scaleDown
  let high := high * scaleDown
  let inside (point : Nat) : Bool :=
    if closed then low ≤ point * unit && point * unit ≤ high
    else low < point * unit && point * unit < high
  let down := value / unit
  let up := down + 1
  match inside down && 0 < down, inside up with
  | true, true =>
    let toDown := value - down * unit
    let toUp := up * unit - value
    if toDown < toUp ∨ (toDown = toUp ∧ down % 2 = 0) then some down else some up
  | true, false => some down
  | false, true => some up
  | false, false => none

/-- Searches the grids from coarse to fine, the first with a point in the interval wins. -/
def searchGrid (low value high den : Nat) (closed : Bool) : Nat → Int → Nat × Int
  | 0, power => (0, power)
  | tries + 1, power =>
    match gridPoint low value high den closed power with
    | some point => (point, power)
    | none => searchGrid low value high den closed tries (power - 1)

/-- Digits and decimal exponent of a number that is not zero: its absolute value reads back from
`digits * 10 ^ exponent`. -/
def shortest (number : Binary64) : Nat × Int :=
  let (low, value, high, den) := number.interval
  let magnitude : Int :=
    (Int.ofNat (Nat.log2 value) - Int.ofNat (Nat.log2 den) + 1) * 30103 / 100000
  searchGrid low value high den (number.mantissa % 2 = 0) 24 (magnitude + 1)

/-- The mark that moves the point of a number: a letter, a sign, the number of places. -/
def exponentMark (places : Int) : List Char :=
  'e' :: (if 0 ≤ places then '+' else '-') :: Nat.toDigits 10 places.natAbs

/-- The text of a number: positional while the point stands within sixteen digits of the first one
or at most four zeros follow it, with at least one digit on each side, and with an exponent
otherwise. -/
def toText (number : Binary64) : String :=
  let sign := if number.negative then "-" else ""
  if number.mantissa = 0 then sign ++ "0.0"
  else
    let (significand, exponent) := number.shortest
    let digits := Nat.toDigits 10 significand
    let point : Int := Int.ofNat digits.length + exponent
    let body : List Char :=
      if 0 ≤ exponent ∧ point ≤ 16 then
        digits ++ List.replicate exponent.toNat '0' ++ ['.', '0']
      else if 0 < point ∧ point ≤ 16 then
        digits.take point.toNat ++ '.' :: digits.drop point.toNat
      else if -5 < point ∧ point ≤ 0 then
        '0' :: '.' :: List.replicate (-point).toNat '0' ++ digits
      else
        let mark := exponentMark (point - 1)
        match digits with
        | [digit] => digit :: mark
        | first :: rest => first :: '.' :: rest ++ mark
        | [] => mark
    sign ++ String.ofList body

end Binary64

end ClassAtlas
