import ClassAtlas.Text.Blank

/-!
# Styles of terminal text

Coloured and bold text, by the control sequences that switch a style on and off.

Long class names are shown in a short form: the last two parts of a dotted name stay as they are; of
the parts before them only the first characters stay, and nothing of a part that is empty.
-/

set_option autoImplicit false

namespace ClassAtlas.Shell

/-- The colours in use. -/
inductive Colour where
  | red
  | yellow
  | magenta
  | cyan
  | darkGrey
  | lightGreen
  | lightBlue
  deriving DecidableEq, Repr

/-- The number of a text colour. -/
def Colour.code : Colour → Nat
  | .red => 31
  | .yellow => 33
  | .magenta => 35
  | .cyan => 36
  | .darkGrey => 90
  | .lightGreen => 92
  | .lightBlue => 94

/-- How a text looks. -/
inductive Style where
  | plain
  | coloured (colour : Colour)
  | bold (colour : Colour)
  deriving DecidableEq, Repr

namespace Style

/-- What switches the style on. -/
def opening : Style → String
  | .plain => ""
  | .coloured colour => s!"\x1b[{colour.code}m"
  | .bold colour => s!"\x1b[1;{colour.code}m"

/-- What switches the style off. -/
def closing : Style → String
  | .plain => ""
  | .coloured _ => "\x1b[0m"
  | .bold _ => "\x1b[0m"

/-- A text in a style. -/
def paint (style : Style) (text : String) : String :=
  style.opening ++ text ++ style.closing

/-- Plain text has no control sequences. -/
theorem paint_plain (text : String) : plain.paint text = text := by
  simp [paint, opening, closing]

end Style

/-- The first character of a part of a name, with the dot after it. -/
def initial (part : String) : String :=
  match part.toList with
  | [] => ""
  | c :: _ => String.ofList [c, '.']

/-- The short form of a dotted name. -/
def shortName (name : String) : String :=
  let parts := Text.pieces '.' name
  let shortened := parts.take (parts.length - 2)
  String.join (shortened.map initial) ++ ".".intercalate (parts.drop (parts.length - 2))

end ClassAtlas.Shell
