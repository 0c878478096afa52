/-!
# Double precision

Numbers with a binary significand of 53 digits. A number that does not fit is
replaced by the nearest one that does, and of two that are equally near by the
one whose last digit is even. No digit weighs less than `2 ^ -1074`, so tiny
numbers have fewer digits. A number from `2 ^ 1024` on is too great to be one of
these, which `Double.isTooGreat` says and `Double.nearest` leaves alone.

Every number stays an exact fraction, so a calculation in double precision is an
exact one in which each result passes through `Double.nearest`.

## Main definitions

* `Double.halfEven`: The nearest whole number.
* `Double.exponent`: The weight of the last digit of a significand.
* `Double.nearest`: The nearest number in double precision.
* `Double.isTooGreat`: Whether a number is beyond all of these.
-/

namespace DiceRoller

namespace Double

/-- The whole number nearest to a fraction, of two the even one. -/
def halfEven (q : Rat) : Int :=
  let below := q.floor
  let rest := q - below
  if 1 < 2 * rest || (2 * rest == 1 && below % 2 == 1) then below + 1 else below

/-- The number of binary digits of a significand. -/
def precision : Nat := 53

/-- A power of two. -/
def power (e : Int) : Rat :=
  if 0 ≤ e then (Nat.pow 2 e.toNat : Nat) else 1 / (Nat.pow 2 (-e).toNat : Nat)

/-- The exponent of the least digit that there is. -/
def least : Int := -1074

/-- The exponent for which the significand of a fraction other than zero has
    exactly the digits of the precision before its point, or the least one.
    Comparing the lengths of numerator and denominator leaves two candidates. -/
def exponent (q : Rat) : Int :=
  let e : Int := (q.num.natAbs.log2 : Int) - (q.den.log2 : Int) - (precision - 1 : Nat)
  max least (if power (precision - 1 : Nat) * power e ≤ (if q < 0 then -q else q) then e else e - 1)

/-- The number in double precision that is nearest to a fraction. -/
def nearest (q : Rat) : Rat :=
  if q = 0 then 0
  else
    let e := power (exponent q)
    (halfEven (q / e) : Rat) * e

/-- Whether a fraction is too great, above or below zero. -/
def isTooGreat (q : Rat) : Bool := power 1024 ≤ (if q < 0 then -q else q)

end Double

end DiceRoller
