import LintLedger.Text.Blank
import LintLedger.Text.Width

/-!
# Tables in boxes

A table has a header and rows of cells.  A column is as wide as its widest cell, with one blank
on either side; the lines between rows are dashed.

## Main Definitions

* `Table` -- header and rows
* `Table.render` -- the lines of the box
-/

namespace LintLedger

/-- On which side of its column a cell stands. -/
inductive Alignment where
  | left
  | center
  | right
deriving DecidableEq, Repr

/-- A cell. -/
structure TableCell where
  text : String
  alignment : Alignment := .left

/-- A table; every row has as many cells as the header. -/
structure Table where
  header : List String
  rows : List (List TableCell)

namespace Table

/-- The lines of a cell. -/
def cellLines (c : TableCell) : List String := Text.splitOnChar (· == '\n') c.text

/-- The columns that a cell needs. -/
def cellWidth (c : TableCell) : Nat := ((cellLines c).map Text.width).foldl max 0

/-- The header as a row. -/
def headerCells (t : Table) : List TableCell := t.header.map fun text => { text := text }

/-- The greater of two widths, column by column. -/
def widest : List Nat → List Nat → List Nat
  | a :: as, b :: bs => max a b :: widest as bs
  | [], bs => bs
  | as, [] => as

/-- The width of every column. -/
def widths (t : Table) : List Nat :=
  (t.headerCells :: t.rows).foldl (fun ws row => widest ws (row.map cellWidth)) []

/-- Blanks. -/
def blanks (n : Nat) : String := String.ofList (List.replicate n ' ')

/-- A text in a column. -/
def padded (alignment : Alignment) (width : Nat) (text : String) : String :=
  let free := width - Text.width text
  match alignment with
  | .left => text ++ blanks free
  | .right => blanks free ++ text
  | .center => blanks (free - free / 2) ++ text ++ blanks (free / 2)

/-- A line across the table. -/
def rule (first : String) (fill : Char) (between last : String) (ws : List Nat) : String :=
  first ++ between.intercalate (ws.map fun w => String.ofList (List.replicate (w + 2) fill))
    ++ last

/-- One line of a row. -/
def rowLine (ws : List Nat) (row : List TableCell) (i : Nat) : String :=
  "│" ++ "┆".intercalate (ws.zipWith (fun w c =>
    " " ++ padded c.alignment w ((cellLines c)[i]?.getD "") ++ " ") row) ++ "│"

/-- The lines of a row. -/
def rowLines (ws : List Nat) (row : List TableCell) : List String :=
  let height := (row.map fun c => (cellLines c).length).foldl max 1
  (List.range height).map (rowLine ws row)

/-- The rows with a dashed line between each and the next. -/
def bodyLines (ws : List Nat) : List (List TableCell) → List String
  | [] => []
  | [row] => rowLines ws row
  | row :: rest => rowLines ws row ++ [rule "├" '╌' "┼" "┤" ws] ++ bodyLines ws rest

/-- The lines of a table. -/
def render (t : Table) : List String :=
  let ws := t.widths
  [rule "┌" '─' "┬" "┐" ws] ++ rowLines ws t.headerCells ++ [rule "╞" '═' "╪" "╡" ws]
    ++ bodyLines ws t.rows ++ [rule "└" '─' "┴" "┘" ws]

end Table

end LintLedger
