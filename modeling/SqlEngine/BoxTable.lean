import SqlEngine.Text.Split

/-!
# Tables drawn with lines

Rows of texts are drawn in boxes.  A column is as wide as the longest line in it, and has a space on
either side; a cell with several lines makes its row as high.
-/

namespace SqlEngine
namespace BoxTable

/-- The lines of a cell. -/
abbrev Cell := List (List Char)

/-- The lines of a text. -/
def cellOf (text : String) : Cell :=
  Text.splitAll '\n' text.toList

/-- The length of the longest line of a cell. -/
def width (cell : Cell) : Nat :=
  (cell.map List.length).foldl max 0

/-- The larger of two widths in every column. -/
def wider : List Nat → List Nat → List Nat
  | first :: firsts, second :: seconds => max first second :: wider firsts seconds
  | [], seconds => seconds
  | firsts, [] => firsts

/-- The widths of the columns, none of which is less than one. -/
def widths (rows : List (List Cell)) : List Nat :=
  ((rows.map fun row => row.map width).foldl wider []).map (max 1)

/-- The strokes of a horizontal line: its left end, its run, its crossings and its right end. -/
structure Strokes where
  /-- The left end. -/
  left : Char
  /-- The run above or below a column. -/
  run : Char
  /-- The crossing between two columns. -/
  crossing : Char
  /-- The right end. -/
  right : Char

/-- Parts with a separator between them. -/
def join (separator : Char) : List (List Char) → List Char
  | [] => []
  | [last] => last
  | part :: parts => part ++ separator :: join separator parts

/-- A horizontal line. -/
def rule (strokes : Strokes) (widths : List Nat) : List Char :=
  strokes.left :: join strokes.crossing (widths.map fun width => List.replicate (width + 2) strokes.run)
    ++ [strokes.right]

/-- A line of a cell with a space on either side, filled up to the width of its column. -/
def padded (width : Nat) (line : List Char) : List Char :=
  ' ' :: line ++ List.replicate (width + 1 - line.length) ' '

/-- The line of a row at a given height. -/
def rowLine (widths : List Nat) (row : List Cell) (height : Nat) : List Char :=
  let lines := (widths.zip row).map fun (width, cell) => padded width (cell[height]?.getD [])
  '│' :: join '┆' lines ++ ['│']

/-- The lines of a row. -/
def rowLines (widths : List Nat) (row : List Cell) : List (List Char) :=
  (List.range ((row.map List.length).foldl max 0)).map (rowLine widths row)

/-- The lines of rows, with a line between two of them. -/
def bodyLines (widths : List Nat) : List (List Cell) → List (List Char)
  | [] => []
  | [last] => rowLines widths last
  | row :: rows => rowLines widths row ++ rule ⟨'├', '╌', '┼', '┤'⟩ widths :: bodyLines widths rows

/-- A header and rows as a drawing. -/
def draw (header : List String) (rows : List (List String)) : String :=
  let header := header.map cellOf
  let rows := rows.map fun row => row.map cellOf
  let widths := widths (header :: rows)
  let lines := rule ⟨'┌', '─', '┬', '┐'⟩ widths :: rowLines widths header
    ++ rule ⟨'╞', '═', '╪', '╡'⟩ widths :: bodyLines widths rows
    ++ [rule ⟨'└', '─', '┴', '┘'⟩ widths]
  String.ofList (join '\n' lines)

end BoxTable
end SqlEngine
