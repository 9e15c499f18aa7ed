import ClassAtlas.Session
import ClassAtlas.Shell.Command

/-!
# Completion

What can stand in place of the word before the cursor: a command at the start of the line, a class
where a command takes one.  A suggestion says which bytes of the line it replaces.
-/

set_option autoImplicit false

namespace ClassAtlas.Shell

open Work (lift)

/-- A suggestion for the bytes of the line from `start` up to `stop`. -/
structure Suggestion where
  value : String
  description : Option String
  start : Nat
  stop : Nat
  deriving DecidableEq, Repr

/-- The number of bytes of a text. -/
def byteSize (text : List Char) : Nat :=
  text.foldr (fun c size => c.utf8Size + size) 0

/-- The suggestion to put `value` in place of a word that ends at the cursor. -/
def Suggestion.replacing (word : List Char) (cursor : Nat) (description : Option String)
    (value : String) : Suggestion :=
  ⟨value, description, cursor - byteSize word, cursor⟩

/-- The characters of a line that lie within its first bytes. -/
def before : (bytes : Nat) → List Char → List Char
  | _, [] => []
  | bytes, c :: rest =>
    if c.utf8Size ≤ bytes then c :: before (bytes - c.utf8Size) rest else []

/-- Whether a class name, or its part after the last dot, starts with a word. -/
def nameStartsWith (word name : List Char) : Bool :=
  word.isPrefixOf name || word.isPrefixOf ((Text.split (· == '.') name).getLast?.getD [])

/-- The names of the first classes that start with a word, at most `limit` many.  Classes without a
readable name are passed over. -/
def matchingNames (atlas : Atlas) (word : List Char) : (limit : Nat) → List Nat → Work (List String)
  | 0, _ => pure []
  | _ + 1, [] => pure []
  | limit + 1, id :: ids => do
    let named ← Work.attempt do
      let view ← lift (atlas.tables.view (.plain id))
      view.qualifiedName atlas false
    match named with
    | .ok name =>
      if nameStartsWith word name.toList then
        return name :: (← matchingNames atlas word limit ids)
      else matchingNames atlas word (limit + 1) ids
    | .error _ => matchingNames atlas word (limit + 1) ids

/-- How many classes are suggested at most. -/
def maxClassSuggestions : Nat := 20

/-- The class names of an atlas that start with a word. -/
def classNames (atlas : Atlas) (word : List Char) : Work (List String) := do
  match ← Work.attempt atlas.tables.partitions with
  | .ok partitions => matchingNames atlas word maxClassSuggestions partitions.rawClasses
  | .error _ => return []

/-- Whether a suggestion comes before another one: shorter values first, equally long ones in the
order of their characters. -/
def Suggestion.precedes (first second : Suggestion) : Bool :=
  let (size, otherSize) := (first.value.utf8ByteSize, second.value.utf8ByteSize)
  size < otherSize || (size == otherSize && !(second.value < first.value))

/-- The last word before the cursor; it is empty right after a space. -/
def lastWord (typed : List Char) : List Char :=
  if typed.getLast? == some ' ' then []
  else ((Text.words typed).getLast?).getD []

/-- The commands that start with what is typed. -/
def commandSuggestions (typed : List Char) (cursor : Nat) : List Suggestion :=
  (commandNames.filter fun name => typed.isPrefixOf name.toList).map
    (Suggestion.replacing typed cursor none)

/-- Whether the first word of what is typed takes a class, and a word of it has been typed. -/
def wantsClass (typed : List Char) : Bool :=
  let word := lastWord typed
  ((Text.words typed).head?.any fun verb => takesClass (String.ofList verb)) &&
    !word.isEmpty && word.head? != some '-'

/-- The suggestions for a line with the cursor behind so many bytes. -/
def completions (session : Session) (line : String) (cursor : Nat) : List Suggestion × Session :=
  let typed := Text.trimStart (before cursor line.toList)
  if !typed.contains ' ' then (commandSuggestions typed cursor, session)
  else if !wantsClass typed then ([], session)
  else match session.ready with
    | .error _ => ([], session)
    | .ok _ =>
      let word := lastWord typed
      let (names, session) := session.work fun atlas => classNames atlas word
      let suggestions := match names with
        | .ok names => names.map (Suggestion.replacing word cursor (some "class"))
        | .error _ => []
      (suggestions.mergeSort Suggestion.precedes, session)

end ClassAtlas.Shell
