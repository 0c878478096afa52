import DiceRoller.Dice.Draws
import DiceRoller.Text.Quoted

/-!
# Dice

A die is what it is and what it shows. `DieSpec` is the part that never changes:
how many faces it is said to have, the values on them, and whether it is a Fate
die. `Showing` is the part that throws and selectors change: the value on top, if
the die has been thrown, and the marks that tell whether it counts. Selectors
look at `Showing` alone, which is why the two are kept apart.

The marks are two bits of one number, and other bits may be set by hand. Dropping
a die and throwing it again both replace the number as a whole, so stray bits
last only until then.

## Main definitions

* `DieSpec`: Faces, values and kind of a die.
* `DieSpec.plain`, `DieSpec.fateDie`: The two kinds that a notation can name.
* `DieSpec.numbered?`: A die whose values run from one upwards, if they can be stored.
* `DieSpec.same`: Equality of dice, which looks at faces and values only.
* `Showing`: The value on top and the marks.
* `Showing.drop`, `Showing.keep`: Setting the marks.
* `Showing.throw`: A throw with the next draw.
* `Showing.render`: What a die shows, as it is displayed.
* `Die`: A die with what it shows.

## Theorems

* `DieSpec.numbered?_of_lt`, `DieSpec.numbered?_of_le`: Which numbers of faces have values.
-/

namespace DiceRoller

/-- What a die is: a stated number of faces, the values on them and whether it
    is written as a Fate die. -/
structure DieSpec where
  /-- The number of faces that the die is said to have. -/
  faces : Nat
  /-- The values that a throw can show, one for each equal chance. -/
  distribution : List Int
  /-- Whether the die is a Fate die. -/
  fate : Bool
deriving DecidableEq

namespace DieSpec

/-- The die with the values from one to `n`. -/
def plain (n : Nat) : DieSpec :=
  { faces := n, distribution := (List.range n).map fun (k : Nat) => (k : Int) + 1, fate := false }

/-- The Fate die: three faces, valued minus one, zero and one. -/
def fateDie : DieSpec := { faces := 3, distribution := [-1, 0, 1], fate := true }

/-- The number of faces from which on the values from one upwards cannot be
    stored. -/
def mostFaces : Nat := 10000000000

/-- The greatest number of faces that the values from one upwards can be counted
    for. -/
def countableFaces : Nat := 9223372036854775807

/-- Why the values from one upwards cannot be put on the faces of a die. -/
inductive Excess where
  /-- There are more of them than can be stored. -/
  | unstorable
  /-- There are more of them than can be counted. -/
  | uncountable
deriving DecidableEq

/-- The die with the values from one to `n`, unless these are too many. They are
    counted before they are stored. -/
def numbered? (n : Nat) : Except Excess DieSpec :=
  if countableFaces < n then .error .uncountable
  else if mostFaces ≤ n then .error .unstorable
  else .ok (plain n)

/-- Below a bound there is a value for every face. -/
theorem numbered?_of_lt {n : Nat} (h : n < mostFaces) : numbered? n = .ok (plain n) := by
  simp only [mostFaces] at h
  rw [numbered?, if_neg (by simp only [countableFaces]; omega),
    if_neg (by simp only [mostFaces]; omega)]

/-- From the bound on there is none, and what is wrong depends on how many faces
    there are. -/
theorem numbered?_of_le {n : Nat} (h : mostFaces ≤ n) :
    numbered? n = .error (if countableFaces < n then .uncountable else .unstorable) := by
  rw [numbered?, if_pos h]
  split <;> rfl

/-- How the faces are written behind the `d` of a roll. -/
def faceText (s : DieSpec) : Text := if s.fate then ['F'] else Text.ofNat s.faces

/-- Dice are equal when their faces and values are; a Fate die equals a die of
    other kind with the same three values. -/
def same (a b : DieSpec) : Bool := a.faces == b.faces && a.distribution == b.distribution

/-- The greatest value of the die, zero if it has none. -/
def greatest (s : DieSpec) : Int := s.distribution.max?.getD 0

/-- The least value of the die, zero if it has none. -/
def least (s : DieSpec) : Int := s.distribution.min?.getD 0

/-- The name of the kind of die. -/
def kindName (s : DieSpec) : Text := if s.fate then "FateDie".toList else "Die".toList

end DieSpec

/-- What a die shows: the value on top once it is thrown, and its marks. -/
structure Showing where
  /-- The value on top, absent until the die is thrown. -/
  value : Option Int := none
  /-- The marks: the lowest bit is set while the die counts, the next one while
      it is struck out. -/
  flags : Int := 1
deriving DecidableEq

namespace Showing

/-- The die still counts. -/
def isKept (d : Showing) : Bool := d.flags % 2 == 1

/-- The die is struck out. -/
def isDropped (d : Showing) : Bool := d.flags / 2 % 2 == 1

/-- The die has been thrown. -/
def isRolled (d : Showing) : Bool := d.value.isSome

/-- The die counts again and carries no other mark. -/
def keep (d : Showing) : Showing := { d with flags := 1 }

/-- The die is struck out and carries no other mark. -/
def drop (d : Showing) : Showing := { d with flags := 2 }

/-- What the die is worth: its value, nothing before the first throw. -/
def total (d : Showing) : Int := d.value.getD 0

/-- The marks around a value: brackets, and a strike through a dropped one. -/
def dress (d : Showing) (shown : Text) : Text :=
  if d.isDropped then ['~', '~', '['] ++ shown ++ [']', '~', '~'] else '[' :: shown ++ [']']

/-- What a die of the given kind shows, as it is displayed. Before the first
    throw that is the kind itself. -/
def render (s : DieSpec) (d : Showing) : Text :=
  match d.value with
  | none => ['(', 'd'] ++ s.faceText ++ [')']
  | some v => d.dress (Text.ofInt v)

/-- A thrown die shows the greatest value of its kind. -/
def isGreatest (s : DieSpec) (d : Showing) : Bool := d.value == some s.greatest

/-- A thrown die shows the least value of its kind. -/
def isLeast (s : DieSpec) (d : Showing) : Bool := d.value == some s.least

/-- A throw of a die of kind `s`: every value has the same chance, and the die
    counts until a selector says otherwise. -/
def throw (s : DieSpec) (d : Draws) : Showing × Draws :=
  let (k, d) := d.next s.distribution.length
  ({ value := s.distribution[k]?, flags := 1 }, d)

end Showing

/-- A die with what it shows. -/
structure Die where
  /-- What the die is. -/
  spec : DieSpec
  /-- What it shows. -/
  showing : Showing := {}
deriving DecidableEq

namespace Die

/-- The wording for a die with fewer than one face. -/
def noFace : Text := "A die must have at least 1 face.".toList

/-- The wording for a value that stands on none of the faces, which are given by
    their descriptions. -/
def notAFace (faces : List Text) : Text :=
  "Die value must be one of: ".toList ++ Text.parenthesised faces

/-- The text of a value that may be absent. -/
def valueText : Option Int → Text
  | none => "None".toList
  | some v => Text.ofInt v

/-- The die described with all that tells it from another. -/
def describe (d : Die) : Text :=
  d.spec.kindName ++ "(faces=".toList ++ Text.ofNat d.spec.faces ++ ", value=".toList ++
    valueText d.showing.value ++ ", flags=".toList ++ Text.ofInt d.showing.flags ++ [')']

end Die

end DiceRoller
