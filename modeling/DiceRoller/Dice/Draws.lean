/-!
# Draws

Where chance comes from. A stream of natural numbers is fixed before anything is
rolled, and each throw takes the next number of it, so a roll is a function of
the stream and everything said about rolling holds for all streams.

## Main definitions

* `Draws`: A stream, with the number of draws already taken.
* `Draws.next`: The next draw, among a given number of equal chances.
-/

namespace DiceRoller

/-- A stream of numbers and how many of them have been taken. -/
structure Draws where
  /-- The numbers of the stream, by position. -/
  stream : Nat → Nat
  /-- How many numbers have been taken. -/
  taken : Nat := 0

namespace Draws

/-- The stream that repeats a list over and over; an empty list counts as a
    single zero. -/
def ofCycle (numbers : Array Nat) : Draws :=
  { stream := fun k => numbers.getD (k % numbers.size) 0 }

/-- Takes the next number, reduced to one of `n` equal chances. -/
def next (d : Draws) (n : Nat) : Nat × Draws :=
  (d.stream d.taken % n, { d with taken := d.taken + 1 })

end Draws

end DiceRoller
