import ClassAtlas.Text.CaseTable
import ClassAtlas.Text.Numerals

/-!
# Lower and upper case

The full case mappings: a character may become several characters, and a capital sigma becomes a
final sigma at the end of a word.  ASCII letters are answered without a look at the tables.
-/

set_option autoImplicit false

namespace ClassAtlas.Text

/-- The image of a code point under a list of runs. -/
def shiftBy (runs : List (Nat × Nat × Nat × Int)) (code : Nat) : Option Nat :=
  runs.findSome? fun (first, last, step, shift) =>
    if first ≤ code ∧ code ≤ last ∧ (code - first) % step = 0 then
      some (Int.ofNat code + shift).toNat
    else none

/-- The image of a character: its own entry, else its run, else the character itself. -/
def mapCase (special : List (Nat × List Nat)) (runs : List (Nat × Nat × Nat × Int)) (c : Char) :
    List Char :=
  match special.lookup c.toNat with
  | some codes => codes.map Char.ofNat
  | none => [((shiftBy runs c.toNat).map Char.ofNat).getD c]

/-- The lower case of one character, by itself. -/
def lowerChar (c : Char) : List Char :=
  if c.toNat < 128 then [lowerAscii c] else mapCase lowerSpecial lowerRuns c

/-- The upper case of one character. -/
def upperChar (c : Char) : List Char :=
  if c.toNat < 128 then [upperAscii c] else mapCase upperSpecial upperRuns c

/-- Whether, past characters that do not count, the text starts with a cased character. -/
def startsCased (text : List Char) : Bool :=
  match text.dropWhile (inRanges caseIgnorableRanges) with
  | [] => false
  | c :: _ => inRanges casedRanges c

/-- Lower case of a text that stands after `before` (nearest character first). -/
def lowerAfter (before : List Char) : List Char → List Char
  | [] => []
  | c :: rest =>
    let image :=
      if c == 'Σ' then [if startsCased before && !startsCased rest then 'ς' else 'σ']
      else lowerChar c
    image ++ lowerAfter (c :: before) rest

/-- The lower case of a string. -/
def lower (text : String) : String :=
  String.ofList (lowerAfter [] text.toList)

/-- The upper case of a string. -/
def upper (text : String) : String :=
  String.ofList (text.toList.flatMap upperChar)

end ClassAtlas.Text
