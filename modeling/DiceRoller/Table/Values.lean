import DiceRoller.Table

/-!
# Tables of values

Tables whose rows and widths are values of any form, as long as there is something
to go through in them. A cell is shown as it is shown alone.

A width beside a cell is a padding in writing, in front of which the side stands
that the row asks for. So a whole number is a width, and everything else is read
as far as it makes sense.

## Main definitions

* `Table.cellText`: The text of a cell.
* `Table.columnWidths`: The widths of the columns of rows.
* `Table.rowOf`: A finished row.
* `Table.renderValues`: A finished table.
-/

namespace DiceRoller

namespace Table

/-- What there is to go through in a value that has to have parts. -/
def parts (v : Value) : Except Fault (List Value) :=
  match v.parts? with
  | some vs => .ok vs
  | none => .error .unmeasured

/-- The text of a cell. A number with too many digits has none. -/
def cellText (v : Value) : Except Fault Text :=
  match v.write? with
  | some t => .ok t
  | none => .error .unwritten

/-- The part of a row in a column. The entries of a mapping have no numbers. -/
def cell (row : Value) (column : Nat) : Except Fault Value :=
  match row with
  | .dict _ => .error .missingEntry
  | row => do
    match (← parts row)[column]? with
    | some v => .ok v
    | none => .error .missingCell

/-- The width of a column, row by row from the top. -/
def columnWidth (column : Nat) : List Value → Except Fault Nat
  | [] => .ok 0
  | row :: rest => do
    let n ← measure (← cell row column)
    return max n (← columnWidth column rest)

/-- The width of each column of the first row. -/
def columnWidths (rows : Value) : Except Fault (List Nat) := do
  let count ← measure (← cell rows 0)
  let rows ← parts rows
  (List.range count).mapM fun column => columnWidth column rows

/-- The padding that is written for a cell of a row. -/
def padding (center : Bool) (width : Value) : Except Fault Padding := do
  match Padding.read? ((if center then '^' else '<') :: (← cellText width)) with
  | some p => .ok p
  | none => .error .unreadable

/-- A cell brought to the width beside it. -/
def fitted (center : Bool) (entry width : Value) : Except Fault Text := do
  let shown ← cellText entry
  match (← padding center width).fit? shown with
  | some t => .ok t
  | none => .error .unreachable

/-- Texts with a separator between each two of them, which has to be a text. -/
def separated (sep : Value) (ts : List Text) : Except Fault Text :=
  match sep with
  | .text s => .ok (Text.join s ts)
  | _ => .error .noSeparator

/-- A finished row. Widths that count as absent pad nothing; with others, what has
    no width beside it is left out. -/
def rowOf (sep : Value) (center : Bool) (widths entries : Value) : Except Fault Text := do
  let entries ← parts entries
  let shown ←
    if widths.isVacant then entries.mapM cellText
    else do (List.zip entries (← parts widths)).mapM fun e => fitted center e.1 e.2
  return (← separated sep shown).trimEnd

/-- A finished table. Nothing is said about the separator unless all columns have
    a width. -/
def renderValues (sep : Value) (center header : Bool) (rows : Value) : Except Fault Text := do
  let rows ← (← parts rows).mapM fun row => do (← parts row).mapM cellText
  match sep with
  | .text s => render s center header rows
  | _ => do
    let _ ← widths (fun cell => .ok cell.length) rows
    .error .noSeparator

end Table

end DiceRoller
