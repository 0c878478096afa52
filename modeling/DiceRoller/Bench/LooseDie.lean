import DiceRoller.Bench.Fault
import DiceRoller.Dice.Die

/-!
# Loose dice

A die that is put together by hand. Its faces, the values on them, the value on
top and the marks can be of any form, and what does not fit is found out when it
is used. The number of faces is compared with one and shown, nothing else; the
values are compared to find out whether the die is at an end; the marks are taken
apart to find out whether the die counts.

A value counts as standing on a face when it is like one of the values there. It
is kept as it was given, so a die may show a truth value where a number stands.

Numbers may have more digits than can be written. Such a die can be thrown, compared
and counted like any other, and fails only where it is written or displayed.

## Main definitions

* `LooseDie`: A die with parts of any form.
* `LooseDie.make`, `LooseDie.makeFate`: New dice.
* `LooseDie.setTop`: Another value on top.
* `LooseDie.render`, `LooseDie.worth`: What it is displayed as, and its worth.
* `LooseDie.ofKind`: Unthrown dice of a kind that a notation can name.
-/

namespace DiceRoller

/-- A die with parts of any form. -/
structure LooseDie where
  /-- Whether the die is a Fate die. -/
  fate : Bool
  /-- The number of faces that the die is said to have. -/
  faces : Value
  /-- The values that a throw can show, one for each equal chance. -/
  values : List Value
  /-- The value on top, nothing until the die is thrown. -/
  top : Value := .null
  /-- The marks, of which the lowest two bits tell whether the die counts and
      whether it is struck out. -/
  marks : Value := .int 1

namespace LooseDie

open Bench

/-- The die has been thrown. -/
def isThrown (d : LooseDie) : Bool :=
  match d.top with
  | .null => false
  | _ => true

/-- The marks as a number. -/
def bits (d : LooseDie) : Except Bench.Fault Int := counted d.marks

/-- The die still counts. -/
def isKept (d : LooseDie) : Except Bench.Fault Bool := do return (← d.bits) % 2 == 1

/-- The die is struck out. -/
def isDropped (d : LooseDie) : Except Bench.Fault Bool := do return (← d.bits) / 2 % 2 == 1

/-- The die counts again and carries no other mark. -/
def keep (d : LooseDie) : LooseDie := { d with marks := .int 1 }

/-- The die is struck out and carries no other mark. -/
def drop (d : LooseDie) : Except Bench.Fault LooseDie := do
  let _ ← d.bits
  return { d with marks := .int 2 }

/-- The name of the kind of die. -/
def kindName (d : LooseDie) : Text := if d.fate then "FateDie".toList else "Die".toList

/-- How the faces are written behind the `d` of a roll. -/
def faceText (d : LooseDie) : Except Bench.Fault Text :=
  if d.fate then .ok ['F'] else texted d.faces.write?

/-- The marks around a value: brackets, and a strike through a dropped one. They are
    looked at before the value is. -/
def dress (d : LooseDie) (shown : Except Bench.Fault Text) : Except Bench.Fault Text := do
  if ← d.isDropped then return ['~', '~', '['] ++ (← shown) ++ [']', '~', '~']
  else return '[' :: (← shown) ++ [']']

/-- The die as it is displayed. Before the first throw that is its kind. -/
def render (d : LooseDie) : Except Bench.Fault Text :=
  if d.isThrown then d.dress (texted d.top.write?)
  else do return ['(', 'd'] ++ (← d.faceText) ++ [')']

/-- What the die is worth: its value, nothing before the first throw. -/
def worth (d : LooseDie) : Value := if d.isThrown then d.top else .int 0

/-- A thrown die shows the value at one end of its values. -/
def isAt (d : LooseDie) (ending? : List Value → Option Value) : Except Bench.Fault Bool :=
  if d.isThrown then
    match ending? d.values with
    | some v => .ok (d.top.same v)
    | none => .error .unfit
  else .ok false

/-- A thrown die shows its greatest value. -/
def isGreatest (d : LooseDie) : Except Bench.Fault Bool := d.isAt Value.greatest?

/-- A thrown die shows its least value. -/
def isLeast (d : LooseDie) : Except Bench.Fault Bool := d.isAt Value.least?

/-- Dice are equal when their faces and values are, whatever they show. -/
def same (a b : LooseDie) : Bool := a.faces.same b.faces && Value.areAlike a.values b.values

/-- The die described with all that tells it from another. -/
def describe (d : LooseDie) : Except Bench.Fault Text := do
  return d.kindName ++ "(faces=".toList ++ (← texted d.faces.describe?) ++ ", value=".toList ++
    (← texted d.top.describe?) ++ ", flags=".toList ++ (← texted d.marks.describe?) ++ [')']

/-- The die with another value on top, which must stand on a face; with nothing, it
    is unthrown again. -/
def setTop (d : LooseDie) (v : Value) : Except Bench.Fault LooseDie :=
  match v with
  | .null => .ok { d with top := .null }
  | v =>
    if d.values.any v.alike then .ok { d with top := v }
    else .error (.refused ((d.values.mapM Value.describe?).map Die.notAFace))

/-- The die as it was before its first throw. -/
def fresh (d : LooseDie) : LooseDie := { d with top := .null, marks := .int 1 }

/-- A throw: every value has the same chance, and the die counts until a selector
    says otherwise. -/
def throw (d : LooseDie) (draws : Draws) : LooseDie × Draws :=
  let (k, draws) := draws.next d.values.length
  ({ d with top := (d.values[k]?).getD .null, marks := .int 1 }, draws)

/-- The values from one upwards on a number of faces. -/
def upTo (faces : Value) : Except Bench.Fault (List Value) := do
  let s ← (DieSpec.numbered? (← counted faces).toNat).mapError Fault.ofExcess
  return s.distribution.map .int

/-- The values on the faces of a die. Where none are given they run from one
    upwards. -/
def valuesOf (faces values : Value) : Except Bench.Fault (List Value) :=
  if values.isVacant then upTo faces
  else
    match values.parts? with
    | some vs => .ok vs
    | none => .error .unfit

/-- A new die with the given faces, values, value on top and marks. -/
def make (faces values top marks : Value) : Except Bench.Fault LooseDie := do
  atLeastOne Die.noFace faces
  let values ← valuesOf faces values
  setTop ⟨false, faces, values, .null, marks⟩ top

/-- A kind of die as it is before the first throw. -/
def ofKind (s : DieSpec) : LooseDie :=
  { fate := s.fate, faces := .int s.faces, values := s.distribution.map .int }

/-- A new Fate die with the given value on top and marks. -/
def makeFate (top marks : Value) : Except Bench.Fault LooseDie :=
  setTop { ofKind .fateDie with marks := marks } top

/-- A die of a kind with what it shows. -/
def showing (d : LooseDie) (s : Showing) : LooseDie :=
  { d with top := s.value.elim .null .int, marks := .int s.flags }

end LooseDie

end DiceRoller
