import Phrasebook.Catalog
import Phrasebook.Modifier
import Phrasebook.Text.Width

/-!
# Tables

Tables as they are shown on a terminal: a frame, a header over a double line, and left-aligned
columns as wide as their widest cell. A cell may hold several lines.
-/

namespace Phrasebook

/-- A header and rows under it. -/
structure Table where
  header : List String
  rows : List (List String)
  deriving DecidableEq, Repr

namespace Table

/-- The lines of a cell. -/
def cellLines (cell : String) : List (List Char) :=
  cell.toList.splitOn '\n'

/-- The columns that a cell takes on a terminal. -/
def cellWidth (cell : String) : Nat :=
  ((cellLines cell).map Text.width).foldl max 0

/-- The widths of columns that fit a further row. -/
def widen (widths : List Nat) (row : List String) : List Nat :=
  (widths.zip row).map fun (w, cell) => max w (cellWidth cell)

/-- The widths of the columns. -/
def widths (t : Table) : List Nat :=
  t.rows.foldl widen (t.header.map cellWidth)

/-- A line of a cell, with blanks up to the width of its column. -/
def padTo (width : Nat) (line : List Char) : List Char :=
  line ++ List.replicate (width - Text.width line) ' '

/-- One terminal line of a row; a cell with fewer lines is blank there. -/
def rowLine (widths : List Nat) (cells : List (List (List Char))) (index : Nat) : List Char :=
  let parts := (widths.zip cells).map fun (w, lines) => ' ' :: padTo w (lines.getD index []) ++ [' ']
  '│' :: [' '].intercalate parts ++ ['│']

/-- The terminal lines of a row. -/
def rowLines (widths : List Nat) (row : List String) : List (List Char) :=
  let cells := row.map cellLines
  let height := (cells.map List.length).foldl max 0
  (List.range height).map (rowLine widths cells)

/-- A line of the frame. -/
def border (widths : List Nat) (left fill right : Char) : List Char :=
  let inner := widths.foldr (fun width others => width + 2 + others) 0 + (widths.length - 1)
  left :: List.replicate inner fill ++ [right]

/-- The text of a table. -/
def render (t : Table) : String :=
  let w := t.widths
  let lines :=
    [border w '┌' '─' '┐'] ++ rowLines w t.header ++ [border w '╞' '═' '╡'] ++
      t.rows.flatMap (rowLines w) ++ [border w '└' '─' '┘']
  String.ofList (['\n'].intercalate lines)

/-- The table of the coverage of a catalog with the given number of keys. -/
def ofCoverage (total : Nat) (coverage : List Coverage) : Table where
  header := ["Dictionary", "Language", "Coverage", "Missing"]
  rows := coverage.map fun c =>
    [c.role.name, c.iso.getD sentinel, s!"{c.translated}/{total}", toString c.missing.length]

/-- The table of modifiers. -/
def ofModifiers (names : List String) : Table where
  header := ["Modifier", "Matches when"]
  rows := names.map fun name => [name, Modifier.describe name]

end Table

end Phrasebook
