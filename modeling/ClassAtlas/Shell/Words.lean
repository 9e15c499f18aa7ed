/-!
# Words of a command line

How one line is cut into words.  Words are separated by spaces, tabulators and line ends.  Single
quotes keep everything up to the next single quote; between double quotes a backslash still guards
the dollar sign, the backtick, the double quote and itself; outside of quotes it guards any
character.  A guarded line end is dropped.  A hash sign where a word could start begins a remark
that goes on to the end of its line.  A quote without its end is a mistake, and so is a backslash at
the very end.
-/

set_option autoImplicit false

namespace ClassAtlas.Shell

/-- Where in a line its reader stands. -/
inductive Spot where
  /-- between two words -/
  | gap
  /-- in a remark -/
  | remark
  /-- in a word, outside of quotes -/
  | bare
  /-- in a word, right after a backslash outside of quotes -/
  | guarded
  /-- between single quotes -/
  | single
  /-- between double quotes -/
  | double
  /-- between double quotes, right after a backslash -/
  | doubleGuarded
  deriving DecidableEq, Repr

/-- The characters that separate words. -/
def isGap (c : Char) : Bool :=
  c == ' ' || c == '\t' || c == '\n'

/-- The characters that a backslash guards between double quotes. -/
def isGuardable (c : Char) : Bool :=
  c == '$' || c == '\x60' || c == '"' || c == '\\'

/-- Takes one more character of a word outside of quotes.  The word is kept backwards. -/
def takeBare (word : List Char) (c : Char) : Spot × List Char :=
  if c == '"' then (.double, word)
  else if c == '\'' then (.single, word)
  else if c == '\\' then (.guarded, word)
  else (.bare, c :: word)

/-- The words of the rest of a line, for a reader that stands at the spot and has read the
characters of `word`, the last one first. -/
def wordsFrom : Spot → (word : List Char) → List Char → Option (List (List Char))
  | .gap, _, [] => some []
  | .remark, _, [] => some []
  | .bare, word, [] => some [word.reverse]
  | .guarded, _, [] => none
  | .single, _, [] => none
  | .double, _, [] => none
  | .doubleGuarded, _, [] => none
  | .gap, _, c :: rest =>
    if isGap c then wordsFrom .gap [] rest
    else if c == '#' then wordsFrom .remark [] rest
    else
      let (spot, word) := takeBare [] c
      wordsFrom spot word rest
  | .remark, _, c :: rest => wordsFrom (if c == '\n' then .gap else .remark) [] rest
  | .bare, word, c :: rest =>
    if isGap c then (wordsFrom .gap [] rest).map (word.reverse :: ·)
    else
      let (spot, word) := takeBare word c
      wordsFrom spot word rest
  | .guarded, word, c :: rest => wordsFrom .bare (if c == '\n' then word else c :: word) rest
  | .single, word, c :: rest =>
    if c == '\'' then wordsFrom .bare word rest else wordsFrom .single (c :: word) rest
  | .double, word, c :: rest =>
    if c == '"' then wordsFrom .bare word rest
    else if c == '\\' then wordsFrom .doubleGuarded word rest
    else wordsFrom .double (c :: word) rest
  | .doubleGuarded, word, c :: rest =>
    let word :=
      if isGuardable c then c :: word else if c == '\n' then word else c :: '\\' :: word
    wordsFrom .double word rest

/-- The words of a line, or nothing when its quotes do not match up. -/
def wordsOf? (line : String) : Option (List String) :=
  (wordsFrom .gap [] line.toList).map (·.map String.ofList)

end ClassAtlas.Shell
