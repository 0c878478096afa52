import DiceRoller.Text.Blank
import DiceRoller.Text.Padding
import DiceRoller.Value

/-!
# Tables

Cells in columns. Each column is as wide as its widest cell, the first row says
how many columns there are, and a row that is too short for them is a fault. A
finished row never ends in blanks, so the last cells of a row are not padded on
the page, and empty ones at its end leave no trace but their separators.

A table may have a header: the first row is centred whatever the others are, and
a row of dashes follows it.

## Main definitions

* `Table.Fault`: Why a table cannot be laid out.
* `Table.widths`: The widths of the columns.
* `Table.align`: A cell padded to a width.
* `Table.row`: A finished row.
* `Table.render`: A finished table.
-/

namespace DiceRoller

namespace Table

/-- Why a table cannot be laid out. -/
inductive Fault where
  /-- A row has no cell in some column, or there is no row at all. -/
  | missingCell
  /-- A mapping has no entry under the number of a column. -/
  | missingEntry
  /-- Something has no length, or is nothing that can be gone through. -/
  | unmeasured
  /-- A padding cannot be read. -/
  | unreadable
  /-- A number in a cell has too many digits to be written. -/
  | unwritten
  /-- A width is too great to be reached. -/
  | unreachable
  /-- The separator is no text. -/
  | noSeparator
deriving DecidableEq

/-- The greatest measure in one column, row by row from the top. -/
def width {α : Type} (measure : α → Except Fault Nat) (column : Nat) :
    List (List α) → Except Fault Nat
  | [] => .ok 0
  | r :: rest =>
    match r[column]? with
    | none => .error .missingCell
    | some cell => do
      let n ← measure cell
      return max n (← width measure column rest)

/-- The width of each column of the first row. -/
def widths {α : Type} (measure : α → Except Fault Nat) (rows : List (List α)) :
    Except Fault (List Nat) :=
  match rows with
  | [] => .error .missingCell
  | first :: _ => (List.range first.length).mapM fun column => width measure column rows

/-- The length of a value that has one: characters, items or entries. -/
def measure : Value → Except Fault Nat
  | .text t => .ok t.length
  | .list items => .ok items.length
  | .dict entries => .ok entries.length
  | _ => .error .unmeasured

/-- The side on which the cells of a row stand. -/
def side (center : Bool) : Padding.Side := if center then .middle else .left

/-- A cell padded to a width: on the right, or on both sides with the odd space
    on the right. A cell that is too wide stays as it is. -/
def align (center : Bool) (width : Nat) (cell : Text) : Text :=
  Padding.place { side := side center, width := width } cell

/-- The cells of a row with their padding. Without widths nothing is padded;
    with them, cells beyond the last width are left out. -/
def cells (center : Bool) (widths : List Nat) (entries : List Text) : List Text :=
  if widths = [] then entries else List.zipWith (align center) widths entries

/-- A finished row. -/
def row (sep : Text) (center : Bool) (widths : List Nat) (entries : List Text) : Text :=
  (Text.join sep (cells center widths entries)).trimEnd

/-- The row of dashes below a header. -/
def divider (sep : Text) (widths : List Nat) : Text :=
  row sep false [] (widths.map fun w => List.replicate w '-')

/-- The finished rows of a table whose columns have the given widths. -/
def rowsWith (sep : Text) (center header : Bool) (widths : List Nat) :
    List (List Text) → List Text
  | [] => []
  | first :: rest =>
    let body := (if header then rest else first :: rest).map (row sep center widths)
    if header then row sep true widths first :: divider sep widths :: body else body

/-- The finished rows of a table. -/
def renderRows (sep : Text) (center header : Bool) (rows : List (List Text)) :
    Except Fault (List Text) := do
  let widths ← widths (fun cell => .ok cell.length) rows
  return rowsWith sep center header widths rows

/-- A finished table, one line for each of its rows. -/
def render (sep : Text) (center header : Bool) (rows : List (List Text)) : Except Fault Text :=
  (renderRows sep center header rows).map (Text.join ['\n'])

/-- The separator between cells unless another one is asked for. -/
def bar : Text := [' ', '|', ' ']

end Table

end DiceRoller
