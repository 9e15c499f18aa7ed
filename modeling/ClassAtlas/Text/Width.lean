import ClassAtlas.Text.EmojiTable
import ClassAtlas.Text.Numerals
import ClassAtlas.Text.WidthTable

/-!
# Columns of a text

How many columns of a terminal line a text takes.  A character by itself takes one, two for wide
characters, none for characters that attach to the one before.  Some sequences take fewer columns
than their characters: letters that their script writes as one, pictures that are joined into one
picture, a line end of two characters.  Others take more or less because of a selector.

A text is measured from its end: the columns of a character depend on what follows it, as far as
`Following` tells.  Plain text has one column for each character (`width_plain`).
-/

set_option autoImplicit false

namespace ClassAtlas.Text

/-- What can follow a character and change its columns. -/
inductive Follower where
  /-- nothing of that kind -/
  | other
  | lineFeed
  /-- the Arabic letter alef in one of its forms -/
  | alef
  /-- the Hebrew letter lamed -/
  | lamed
  /-- the Buginese letter ya -/
  | ya
  /-- the Buginese vowel sign i before a joined ya -/
  | vowelYa
  /-- a Tifinagh consonant -/
  | consonant
  /-- the Tifinagh joiner before a consonant -/
  | joinedConsonant
  /-- a second Lisu tone letter -/
  | toneLetter
  /-- the Old Turkic letter i of the Orkhon script -/
  | orkhonI
  /-- a Khmer letter that can stand below another one -/
  | subscriptLetter
  /-- the Kirat Rai vowel sign e -/
  | signE
  /-- the Kirat Rai vowel sign ai -/
  | signAi
  /-- a skin tone -/
  | skinTone
  /-- a single letter of a flag -/
  | flagLetter
  /-- several letters of flags -/
  | flagLetters
  /-- a picture -/
  | picture
  /-- a joiner before a picture -/
  | joinedPicture
  /-- a key cap before a joined picture -/
  | joinedKeycap
  /-- one letter of a flag before a joined picture -/
  | joinedFlagLetter
  /-- an even number of letters of flags before a joined picture -/
  | joinedFlagsEven
  /-- an odd number of letters of flags, three at least, before a joined picture -/
  | joinedFlagsOdd
  /-- tags of a region before a joined picture: so many letters and the end of the tags -/
  | tagLetters (count : Nat)
  /-- tags of a region before a joined picture: so many digits and what follows digits -/
  | tagDigits (count : Nat)
  deriving DecidableEq, Repr

namespace Follower

/-- Whether the follower joins with a letter before it, past joiners and most selectors. -/
def joins : Follower → Bool
  | .lamed => true
  | .ya => true
  | .vowelYa => true
  | .consonant => true
  | .joinedConsonant => true
  | .toneLetter => true
  | .orkhonI => true
  | .subscriptLetter => true
  | _ => false

/-- Whether the follower is remembered behind every selector. -/
def outlasts : Follower → Bool
  | .alef => true
  | follower => follower.joins

/-- Whether the follower belongs to a picture that is joined to the one before. -/
def isJoined : Follower → Bool
  | .joinedPicture => true
  | .joinedKeycap => true
  | _ => false

end Follower

/-- What follows a character: a follower, and what stands between it and the character. -/
structure Following where
  follower : Follower
  /-- a joiner stands between -/
  joiner : Bool
  /-- the selector for pictures stands between -/
  emojiSelector : Bool
  /-- the selector for plain signs stands between -/
  textSelector : Bool
  /-- the selector for wide quotation marks stands between -/
  quoteSelector : Bool
  deriving DecidableEq, Repr

namespace Following

/-- A follower right behind the character. -/
def of (follower : Follower) : Following := ⟨follower, false, false, false, false⟩

/-- Nothing that matters follows. -/
def nothing : Following := of .other

/-- What is remembered behind a selector. -/
def kept (next : Following) (outlasts : Bool) : Following :=
  if outlasts then next else nothing

end Following

/-! ## Characters -/

/-- A letter of a flag. -/
def isFlagLetter (c : Char) : Bool :=
  0x1F1E6 ≤ c.toNat && c.toNat ≤ 0x1F1FF

/-- A skin tone. -/
def isSkinTone (c : Char) : Bool :=
  0x1F3FB ≤ c.toNat && c.toNat ≤ 0x1F3FF

/-- A letter among the tags of a region. -/
def isTagLetter (c : Char) : Bool :=
  0xE0061 ≤ c.toNat && c.toNat ≤ 0xE007A

/-- A digit among the tags of a region. -/
def isTagDigit (c : Char) : Bool :=
  0xE0030 ≤ c.toNat && c.toNat ≤ 0xE0039

/-- A Tifinagh consonant. -/
def isConsonant (c : Char) : Bool :=
  0x2D31 ≤ c.toNat && c.toNat ≤ 0x2D65 || c.toNat == 0x2D6F

/-- An Arabic letter lam in one of its forms. -/
def isLam (c : Char) : Bool :=
  [0x644, 0x76A, 0x8A6, 0x8C7].contains c.toNat || (0x6B5 ≤ c.toNat && c.toNat ≤ 0x6B8)

/-- A mark that letters join across. -/
def isJoinedAcross (c : Char) : Bool :=
  [0x34F, 0x17B4, 0x17B5].contains c.toNat || (0x180B ≤ c.toNat && c.toNat ≤ 0x180D) ||
    c.toNat == 0x180F || (0xFE00 ≤ c.toNat && c.toNat ≤ 0xFE0F) ||
    (0xE0100 ≤ c.toNat && c.toNat ≤ 0xE01EF)

/-- A curved quotation mark. -/
def isCurvedQuote (c : Char) : Bool :=
  [0x2018, 0x2019, 0x201C, 0x201D].contains c.toNat

/-- The columns of a character by itself. -/
def charWidth (c : Char) : Nat :=
  if c.toNat ≤ 0xA0 then 1
  else if c.toNat == 0x17D8 then 3
  else if inRanges zeroWidthRanges c then 0
  else if inRanges doubleWidthRanges c then 2
  else 1

/-- What a character is to the one before it. -/
def Follower.ofChar (c : Char) : Follower :=
  if c == '\n' then .lineFeed
  else if c.toNat ≤ 0xA0 then .other
  else if c.toNat == 0x5DC then .lamed
  else if inRanges alefRanges c then .alef
  else if inRanges subscriptLetterRanges c then .subscriptLetter
  else if c.toNat == 0x1A10 then .ya
  else if isConsonant c then .consonant
  else if c.toNat == 0xA4FC || c.toNat == 0xA4FD then .toneLetter
  else if c.toNat == 0x10C03 then .orkhonI
  else if c.toNat == 0x16D67 then .signE
  else if c.toNat == 0x16D68 then .signAi
  else if isFlagLetter c then .flagLetter
  else if isSkinTone c then .skinTone
  else if inRanges emojiRanges c then .picture
  else .other

/-! ## Sequences -/

/-- A character that its follower leaves alone. -/
def alone (c : Char) : Int × Following :=
  (Int.ofNat (charWidth c), .of (.ofChar c))

/-- Letters and marks that a script writes together: the columns of the first one, and what it is to
the character before it. -/
def scriptSequence (c : Char) (next : Following) : Option (Int × Following) :=
  match next.follower with
  | .alef =>
    if isLam c then some (0, .nothing)
    else if charWidth c == 0 && !inRanges partingMarkRanges c then some (0, next)
    else none
  | .lamed => if next.joiner && c.toNat == 0x5D0 then some (0, .nothing) else none
  | .ya => if next.joiner && c.toNat == 0x1A17 then some (0, .of .vowelYa) else none
  | .vowelYa => if c.toNat == 0x1A15 then some (0, .nothing) else none
  | .consonant =>
    if c.toNat == 0x2D7F then some (1, .of .joinedConsonant)
    else if next.joiner && isConsonant c then some (0, .nothing)
    else none
  | .joinedConsonant => if isConsonant c then some (-1, .nothing) else none
  | .toneLetter =>
    if 0xA4F8 ≤ c.toNat && c.toNat ≤ 0xA4FB then some (0, .nothing) else none
  | .orkhonI => if next.joiner && c.toNat == 0x10C32 then some (0, .nothing) else none
  | .subscriptLetter => if c.toNat == 0x17D2 then some (-1, .nothing) else none
  | .signE =>
    if c.toNat == 0x16D63 || c.toNat == 0x16D69 then some (0, .nothing)
    else if c.toNat == 0x16D67 then some (0, .of .signAi)
    else if c.toNat == 0x16D68 then some (1, .of .signE)
    else none
  | .signAi => if c.toNat == 0x16D63 then some (0, .nothing) else none
  | _ => none

/-- The part of a picture that a joiner ties to another picture. -/
def joinedSequence (c : Char) : Option (Int × Following) :=
  if c.toNat == 0x20E3 then some (0, .of .joinedKeycap)
  else if isFlagLetter c then some (1, .of .joinedFlagLetter)
  else if isSkinTone c then some (0, .of .skinTone)
  else if c.toNat == 0xE007F then some (0, .of (.tagLetters 0))
  else if inRanges emojiRanges c then some (0, .of .picture)
  else none

/-- The tags of a region and the black flag before them.  At most six letters and three digits name
a region. -/
def tagSequence (c : Char) : Follower → Option (Int × Following)
  | .tagLetters count =>
    if isTagLetter c && count < 6 then some (0, .of (.tagLetters (count + 1)))
    else if isTagDigit c && count < 5 then some (0, .of (.tagDigits 1))
    else if c.toNat == 0x1F3F4 && 3 ≤ count then some (0, .of .picture)
    else none
  | .tagDigits count =>
    if isTagDigit c && count < 3 then some (0, .of (.tagDigits (count + 1)))
    else if c.toNat == 0x1F3F4 && count == 3 then some (0, .of .picture)
    else none
  | _ => none

/-- Pictures that are written with several characters: the columns of the first one, and what it is
to the character before it. -/
def pictureSequence (c : Char) (follower : Follower) : Option (Int × Following) :=
  let joined : Option (Int × Following) :=
    if c.toNat == 0x200D then some (0, .of .joinedPicture) else none
  match follower with
  | .skinTone => if inRanges skinToneBaseRanges c then some (0, .of .picture) else joined
  | .flagLetter => if isFlagLetter c then some (1, .of .flagLetters) else none
  | .flagLetters => if isFlagLetter c then some (1, .of .flagLetters) else joined
  | .picture => joined
  | .joinedPicture => joinedSequence c
  | .joinedFlagLetter => if isFlagLetter c then some (-1, .of .joinedFlagsEven) else none
  | .joinedFlagsEven => if isFlagLetter c then some (3, .of .joinedFlagsOdd) else joined
  | .joinedFlagsOdd => if isFlagLetter c then some (-1, .of .joinedFlagsEven) else joined
  | _ => tagSequence c follower

/-- A character before a follower.  Joining letters are looked for past joiners and marks; a
selector for wide quotation marks that is still there keeps every other sequence from forming. -/
def beforeFollower (c : Char) (next : Following) : Int × Following :=
  if next.follower.joins && c.toNat == 0x200D then (0, { next with joiner := true })
  else if next.follower.joins && isJoinedAcross c then (0, next)
  else if next.quoteSelector then alone c
  else ((scriptSequence c next).or (pictureSequence c next.follower)).getD (alone c)

/-- A character beyond the first code points, before what does not start with the selector for
pictures.  The other two selectors count for the character right before them only. -/
def beforeSelector (c : Char) (next : Following) : Int × Following :=
  let outlasts := next.follower.outlasts
  if c.toNat == 0xFE0F then
    (0, { next.kept (outlasts || next.follower.isJoined) with emojiSelector := true })
  else if c.toNat == 0xFE0E then (0, { next.kept outlasts with textSelector := true })
  else if c.toNat == 0xFE01 then (0, { next.kept outlasts with quoteSelector := true })
  else if next.textSelector then
    if inRanges textSelectableRanges c then (1, .nothing)
    else beforeFollower c { next with textSelector := false }
  else if next.quoteSelector then
    if isCurvedQuote c then (2, .nothing)
    else beforeFollower c { next with quoteSelector := false }
  else beforeFollower c next

/-- A character before what does not start with the selector for pictures.  Among the first code
points only the line end of two characters is a sequence. -/
def beforeAny (c : Char) (next : Following) : Int × Following :=
  if c.toNat ≤ 0xA0 then
    if c == '\r' && next == .of .lineFeed then (0, .nothing) else alone c
  else beforeSelector c next

/-- The columns that a character adds to what follows it, and what both are to the character before
them. -/
def step (c : Char) (next : Following) : Int × Following :=
  if next.emojiSelector then
    if inRanges emojiSelectableRanges c then
      (if next.follower.isJoined then 0 else 2, .of .picture)
    else beforeAny c { next.kept next.follower.outlasts with emojiSelector := false }
  else beforeAny c next

/-- The columns of a text, and what it is to a character before it. -/
def measure : List Char → Int × Following
  | [] => (0, .nothing)
  | c :: rest =>
    let (columns, next) := measure rest
    let (more, next) := step c next
    (more + columns, next)

/-- The columns of a text. -/
def width (text : List Char) : Nat :=
  (measure text).1.toNat

/-! ## Plain text -/

/-- A visible character of the first code points, before nothing that matters, takes one column. -/
theorem step_nothing {c : Char} (visible : ' ' ≤ c) (early : c.toNat ≤ 0xA0) :
    step c .nothing = (1, .nothing) := by
  have noLineEnd : (c == '\n') = false := by
    apply beq_false_of_ne
    rintro rfl
    exact absurd visible (by decide)
  have noReturn : (c == '\r') = false := by
    apply beq_false_of_ne
    rintro rfl
    exact absurd visible (by decide)
  simp [step, beforeAny, alone, charWidth, Follower.ofChar, Following.nothing, Following.of,
    early, noLineEnd, noReturn]

/-- A text of visible characters of the first code points takes as many columns as it has
characters. -/
theorem measure_plain {text : List Char} (plain : ∀ c ∈ text, ' ' ≤ c ∧ c.toNat ≤ 0xA0) :
    measure text = (Int.ofNat text.length, .nothing) := by
  induction text with
  | nil => rfl
  | cons c rest ih =>
    obtain ⟨visible, early⟩ := plain c List.mem_cons_self
    have tail := ih fun c member => plain c (List.mem_cons_of_mem _ member)
    simp only [measure, tail, step_nothing visible early, List.length_cons]
    exact congrArg (·, _) (Int.add_comm _ _)

/-- Plain text has one column for each character. -/
theorem width_plain {text : List Char} (plain : ∀ c ∈ text, ' ' ≤ c ∧ c.toNat ≤ 0xA0) :
    width text = text.length := by
  simp [width, measure_plain plain]

end ClassAtlas.Text
