/-!
# Blanks

Blank characters, trimming, and cutting a text at blanks.  A blank is any character with the
property `White_Space`, so the no-break space and the ideographic space count as well as the plain
space and the tabulator.

Every function is given on character lists; `trimmed` is the one that callers with strings use.
-/

set_option autoImplicit false

namespace ClassAtlas.Text

/-- A character with the property `White_Space`. -/
def isBlank (c : Char) : Bool :=
  let code := c.toNat
  (9 ≤ code && code ≤ 13) || code == 0x20 || code == 0x85 || code == 0xA0 || code == 0x1680 ||
    (0x2000 ≤ code && code ≤ 0x200A) || code == 0x2028 || code == 0x2029 || code == 0x202F ||
    code == 0x205F || code == 0x3000

/-- The text without its leading blanks. -/
def trimStart (text : List Char) : List Char :=
  text.dropWhile isBlank

/-- The text without its trailing blanks. -/
def trimEnd (text : List Char) : List Char :=
  (text.reverse.dropWhile isBlank).reverse

/-- The text without leading and trailing blanks. -/
def trim (text : List Char) : List Char :=
  trimEnd (trimStart text)

/-- A string without leading and trailing blanks. -/
def trimmed (text : String) : String :=
  String.ofList (trim text.toList)

/-- Cuts a text at every character that `cuts` holds of; the cutting characters are dropped.
There is always one piece more than there are cuts. -/
def split (cuts : Char → Bool) : List Char → List (List Char)
  | [] => [[]]
  | c :: rest =>
    if cuts c then [] :: split cuts rest
    else match split cuts rest with
      | [] => [[c]]
      | piece :: pieces => (c :: piece) :: pieces

/-- Cuts a text after every character that `cuts` holds of; the cutting characters are kept, and no
piece is empty. -/
def splitAfter (cuts : Char → Bool) : List Char → List (List Char)
  | [] => []
  | c :: rest =>
    if cuts c then [c] :: splitAfter cuts rest
    else match splitAfter cuts rest with
      | [] => [[c]]
      | piece :: pieces => (c :: piece) :: pieces

/-- The words of a text: its longest parts without a blank. -/
def words (text : List Char) : List (List Char) :=
  (split isBlank text).filter fun piece => !piece.isEmpty

/-- The pieces of a string between the occurrences of one character. -/
def pieces (cut : Char) (text : String) : List String :=
  (split (· == cut) text.toList).map String.ofList

/-- Cuts a text at the first occurrence of a character, if there is one. -/
def cutFirst (cut : Char) (text : List Char) : Option (List Char × List Char) :=
  match text.span (· != cut) with
  | (_, []) => none
  | (before, _ :: after) => some (before, after)

/-- Whether `part` starts at some position of the text. -/
def hasInfix (part : List Char) : List Char → Bool
  | [] => part.isEmpty
  | c :: rest => part.isPrefixOf (c :: rest) || hasInfix part rest

/-- Whether a string occurs somewhere in another one. -/
def occursIn (part text : String) : Bool :=
  hasInfix part.toList text.toList

/-- Nothing is lost when a text is cut after its blanks. -/
theorem flatten_splitAfter (cuts : Char → Bool) (text : List Char) :
    (splitAfter cuts text).flatten = text := by
  induction text with
  | nil => rfl
  | cons c rest ih =>
    simp only [splitAfter]
    split
    · simp [ih]
    · split
      · next h => rw [h] at ih; simpa using ih
      · next piece pieces h => rw [h] at ih; simpa using ih

end ClassAtlas.Text
