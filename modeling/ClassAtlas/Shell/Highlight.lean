import ClassAtlas.Shell.Command
import ClassAtlas.Shell.Style
import ClassAtlas.Text.Blank

/-!
# Highlighting of the line that is typed

The line is cut after its blanks.  The first piece with a word in it is a command or a mistake; the
later ones are options, terms, names and numbers, or anything else.  Main statement: the pieces
together are the line.
-/

set_option autoImplicit false

namespace ClassAtlas.Shell

/-- The style of the first word. -/
def firstWordStyle (word : String) : Style :=
  if commandNames.contains word then .bold .lightGreen else .coloured .red

/-- The style of a later word. -/
def laterWordStyle (word : List Char) : Style :=
  if word.head? == some '-' then .coloured .cyan
  else if word.contains '=' || word.head? == some '{' then .coloured .magenta
  else if word.contains '.' || word.all Char.isDigit then .coloured .yellow
  else .plain

/-- The pieces with their styles; `first` says that there was no word yet. -/
def styled (first : Bool) : List (List Char) → List (Style × List Char)
  | [] => []
  | piece :: pieces =>
    let word := Text.trim piece
    if word.isEmpty then (.plain, piece) :: styled first pieces
    else
      let style := if first then firstWordStyle (String.ofList word) else laterWordStyle word
      (style, piece) :: styled false pieces

/-- The pieces of a line with their styles. -/
def highlight (line : String) : List (Style × String) :=
  (styled true (Text.splitAfter Text.isBlank line.toList)).map fun (style, piece) =>
    (style, String.ofList piece)

/-- Styling keeps the pieces. -/
theorem map_snd_styled (first : Bool) (pieces : List (List Char)) :
    (styled first pieces).map Prod.snd = pieces := by
  induction pieces generalizing first with
  | nil => rfl
  | cons piece pieces ih => simp only [styled]; split <;> simp [ih]

/-- **Nothing is lost**: the pieces together are the line. -/
theorem join_highlight (line : String) :
    ((highlight line).map fun pair => pair.2.toList).flatten = line.toList := by
  have pieces : (highlight line).map (fun pair => pair.2.toList) =
      Text.splitAfter Text.isBlank line.toList := by
    simp only [highlight, List.map_map, Function.comp_def, String.toList_ofList]
    exact map_snd_styled true _
  rw [pieces, Text.flatten_splitAfter]

end ClassAtlas.Shell
