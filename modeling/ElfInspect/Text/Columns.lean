import ElfInspect.Text.Width

/-!
# Columns

A table of text cells without rules. Every column is as wide as its widest line, every cell
is filled up with spaces to that width and has a space on either side, and a further space
stands between two cells. A cell with line breaks makes its row higher, and the cells beside
it are filled up with blank lines.
-/

namespace ElfInspect.Columns

abbrev Cell := List Char

abbrev Row := List Cell

/-- The lines of a cell. A break at the end leaves an empty last line. -/
def lines (cell : Cell) : List Cell :=
  cell.splitOn '\n'

/-- The width of a cell's widest line. -/
def cellWidth (cell : Cell) : Nat :=
  ((lines cell).map Width.ofChars).foldl max 0

/-- The width of each column over all rows. -/
def widths (heading : Row) (rows : List Row) : List Nat :=
  rows.foldl (fun widths row => List.zipWith max widths (row.map cellWidth))
    (heading.map cellWidth)

/-- A line of a cell in a column of some width. -/
def fill (width : Nat) (line : Cell) : List Char :=
  ' ' :: line ++ List.replicate (width - Width.ofChars line) ' ' ++ [' ']

/-- How many lines a row takes. -/
def height (row : Row) : Nat :=
  (row.map fun cell => (lines cell).length).foldl max 0

/-- One line of a row. -/
def rowLine (widths : List Nat) (row : Row) (index : Nat) : List Char :=
  [' '].intercalate (List.zipWith (fun width cell => fill width ((lines cell)[index]?.getD []))
    widths row)

def rowLines (widths : List Nat) (row : Row) : List (List Char) :=
  (List.range (height row)).map (rowLine widths row)

/-- The lines of a table, the heading first. -/
def tableLines (heading : Row) (rows : List Row) : List (List Char) :=
  let widths := widths heading rows
  (heading :: rows).flatMap (rowLines widths)

/-- The lines of a table with a break between any two. -/
def render (heading : Row) (rows : List Row) : String :=
  String.ofList (['\n'].intercalate (tableLines heading rows))

theorem lines_of_not_mem {cell : Cell} (h : '\n' ∉ cell) : lines cell = [cell] := by
  have hcells : ∀ c ∈ [cell], '\n' ∉ c := by simpa using h
  simpa [lines] using List.splitOn_intercalate '\n' hcells (by simp)

end ElfInspect.Columns
