import DiceRoller.Text.Numeral

/-!
# Limits

How many dice a roll may have and how many faces a die. A limit is normally a
number. One that comes from a configuration may also be a fraction, beyond all
numbers, no number at all, or absent, and then the common ceilings stand in for it.

## Main definitions

* `Ceiling`: Something that a number is compared with.
* `Ceiling.exceeded?`: Whether a number is above it.
* `Limits`: The ceilings for dice and faces.
* `Limits.common`: The ceilings that hold when none is given.
-/

namespace DiceRoller

/-- Something that a whole number is compared with. -/
inductive Ceiling where
  /-- The greatest whole number allowed, with the limit as it is shown. -/
  | atMost (bound : Int) (shown : Text)
  /-- Nothing is above the limit. -/
  | unbounded
  /-- The limit is no number, so nothing can be compared with it. -/
  | unordered
deriving DecidableEq

namespace Ceiling

/-- The ceiling at a whole number. -/
def ofInt (n : Int) : Ceiling := .atMost n (Text.ofInt n)

/-- The limit as it is shown to a number above it; nothing if the number is
    allowed. A limit that is no number is the error. -/
def exceeded? (c : Ceiling) (n : Int) : Except Unit (Option Text) :=
  match c with
  | .atMost bound shown => .ok (if n ≤ bound then none else some shown)
  | .unbounded => .ok none
  | .unordered => .error ()

end Ceiling

/-- The ceilings for the dice of a roll and the faces of a die. -/
structure Limits where
  /-- The ceiling for the dice of a roll. -/
  dice : Ceiling
  /-- The ceiling for the faces of a die. -/
  faces : Ceiling

namespace Limits

/-- The ceiling that holds when none is given. -/
def commonBound : Int := 10000

/-- The ceilings that hold when none is given. -/
def common : Limits := ⟨.ofInt commonBound, .ofInt commonBound⟩

end Limits

end DiceRoller
