import ClassAtlas.Text.Blank
import ClassAtlas.Text.Width

/-!
# Tables of text

Rows of cells under headings, in columns as wide as their widest cell.  A bar separates columns and
a rule the headings from the rows.  A cell of several lines makes its row as many lines high; the
other cells of that row are filled up below.
-/

set_option autoImplicit false

namespace ClassAtlas.Shell

/-- A table.  Every row has one cell for each heading. -/
structure Grid where
  headings : List String
  rows : List (List String)
  deriving DecidableEq, Repr

/-- The lines of a cell, at least one. -/
abbrev Cell : Type := List (List Char)

namespace Cell

/-- A cell with a text. -/
def ofText (text : String) : Cell :=
  Text.split (· == '\n') text.toList

/-- The width of the widest line. -/
def width (cell : Cell) : Nat :=
  (cell.map Text.width).foldl max 0

end Cell

namespace Grid

/-- A line of a cell with one space before it and as many after it as the column needs. -/
def padded (width : Nat) (line : List Char) : String :=
  String.ofList (' ' :: line ++ List.replicate (width - Text.width line + 1) ' ')

/-- The lines of a row. -/
def rowLines (widths : List Nat) (cells : List Cell) : List String :=
  let height := (cells.map List.length).foldl max 0
  (List.range height).map fun line =>
    "|".intercalate
      (List.zipWith (fun width cell => padded width (cell[line]?.getD [])) widths cells)

/-- The rule between the headings and the rows. -/
def rule (widths : List Nat) : String :=
  "+".intercalate (widths.map fun width => String.ofList (List.replicate (width + 2) '-'))

/-- The widths of the columns. -/
def columnWidths (headings : List Cell) (rows : List (List Cell)) : List Nat :=
  rows.foldl (fun widths row => List.zipWith max widths (row.map Cell.width))
    (headings.map Cell.width)

/-- The lines of a table. -/
def lines (grid : Grid) : List String :=
  let headings := grid.headings.map Cell.ofText
  let rows := grid.rows.map (·.map Cell.ofText)
  let widths := columnWidths headings rows
  rowLines widths headings ++ rule widths :: rows.flatMap (rowLines widths)

/-- The text of a table, without a line end after the last line. -/
def text (grid : Grid) : String :=
  "\n".intercalate grid.lines

end Grid

end ClassAtlas.Shell
