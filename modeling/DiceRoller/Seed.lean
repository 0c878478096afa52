import DiceRoller.Number.Double
import DiceRoller.Text.Numeral

/-!
# Seeds

The number that makes a sequence of throws repeatable. Whatever number is given,
the seed is its remainder by `2 ^ 32 - 1`.

When none is given the seed is taken from the clock. The seconds since 1970 are
multiplied with one more than each decimal digit of the microseconds, from the
last digit on. The digits are cut off by dividing in double precision, so every
digit after the first carries the fraction that is still left below it, and the
product is rounded from the second digit on.

## Main definitions

* `Seed.ofInt`, `Seed.ofNumber`: The seed for a given number.
* `Seed.scramble`: The product of the seconds and the digits.
* `Seed.ofClock`: The seed for a moment.
-/

namespace DiceRoller

namespace Seed

/-- The number of different seeds, which is one less than a power of two. -/
def modulus : Int := 0xFFFFFFFF

/-- The microseconds in a second. -/
def microseconds : Int := 1000000

/-- The seed for a given number. -/
def ofInt (n : Int) : Int := n % modulus

theorem ofInt_nonneg (n : Int) : 0 ≤ ofInt n := Int.emod_nonneg n (by decide)

theorem ofInt_lt (n : Int) : ofInt n < modulus := Int.emod_lt_of_pos n (by decide)

/-- The whole part of a fraction, without what is behind its point. -/
def wholePart (q : Rat) : Int := if q < 0 then -(-q).floor else q.floor

/-- The remainder of a fraction by a whole number, with the sign of the
    fraction. -/
def remainder (q : Rat) (n : Int) : Rat := q - n * wholePart (q / n)

/-- The seconds multiplied by one more than each remaining digit. Every
    intermediate result is rounded. There are at most `rounds` digits. -/
def scramble : Nat → Rat → Rat → Rat
  | 0, seconds, _ => seconds
  | rounds + 1, seconds, micro =>
    if micro ≤ 1 then seconds
    else
      let factor := Double.nearest (remainder micro 10 + 1)
      scramble rounds (Double.nearest (Double.nearest seconds * factor))
        (Double.nearest (micro / 10))

/-- The whole seconds that a clock shows, which counts in double precision. -/
def wholeSeconds (seconds micro : Int) : Int :=
  (Double.nearest (((seconds * microseconds + micro : Int) : Rat) / microseconds)).floor

/-- The product for a moment: exact for the last digit of the microseconds, and
    rounded from the next one on. -/
def product (seconds : Int) (micro : Nat) : Rat :=
  let whole := wholeSeconds seconds micro
  if micro ≤ 1 then whole
  else
    scramble (Text.ofNat micro).length (whole * ((micro % 10 : Nat) + 1 : Int) : Int)
      (Double.nearest (micro / 10))

/-- The seed for a number in double precision. A remainder below zero is moved up
    by the modulus, which rounds it and may give the modulus itself, and what is
    behind the point is dropped. -/
def ofNumber (q : Rat) : Int :=
  let r := remainder q modulus
  (if r < 0 then Double.nearest (r + modulus) else r).floor

/-- The seed for a moment. -/
def ofClock (seconds : Int) (micro : Nat) : Int := ofNumber (product seconds micro)

/-- The seed that is used: for the given number, or else for the moment. -/
def choose (given : Option Int) (moment : Int) : Int := ofInt (given.getD moment)

end Seed

end DiceRoller
