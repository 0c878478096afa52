import DiceRoller.Number.Double
import DiceRoller.Text.Numeral

/-!
# Shortest decimals

How a number in double precision is written: with the fewest decimal digits that
still denote it and no other one. For each number of digits there are only two
candidates, the neighbours of the number among the decimals with so many digits,
and of two that both denote it the nearer one is taken.

Digits are written around a point as long as that point is not too far from them.
Otherwise the first digit stands before the point, and the exponent behind an `e`.

## Main definitions

* `Shortest.place`: Where the first digit of a number stands.
* `Shortest.candidate?`: The decimal of a given length that denotes a number.
* `Shortest.digits`: The fewest digits that denote a number, and where they begin.
* `Shortest.write`: A number as it is written.
-/

namespace DiceRoller

namespace Shortest

/-- A power of ten. -/
def power (e : Int) : Rat :=
  if 0 ≤ e then (Nat.pow 10 e.toNat : Nat) else 1 / (Nat.pow 10 (-e).toNat : Nat)

/-- How many digits stand before the point of a number above zero; below zero, how
    many zeros follow the point. -/
def place (q : Rat) : Int :=
  if 1 ≤ q then (Text.ofNat q.floor.toNat).length
  else
    let e : Int := 1 - (Text.ofNat (1 / q).floor.toNat).length
    if power e ≤ q then e + 1 else e

/-- The most digits that a number in double precision can need. -/
def mostDigits : Nat := 17

/-- The whole number of steps that denotes a number, if one of its two neighbours
    does. Of two that do it is the nearer one. -/
def candidate? (step q : Rat) : Option Nat :=
  let below := (q / step).floor.toNat
  let isIt (n : Nat) : Bool := Double.nearest (n * step) == q
  match isIt below, isIt (below + 1) with
  | false, false => none
  | true, false => some below
  | false, true => some (below + 1)
  | true, true => some (Double.halfEven (q / step)).toNat

/-- The fewest digits that denote a number above zero, of the lengths given, and how
    many of them stand before the point. A candidate may reach the next power of
    ten, which has one more digit before the point and a single one in all. -/
def digitsFrom (q : Rat) (place : Int) : List Nat → Text × Int
  | [] => ([], place)
  | length :: rest =>
    match candidate? (power (place - length)) q with
    | some n =>
      let ds := Text.ofNat n
      if length < ds.length then (['1'], place + 1) else (ds, place)
    | none => digitsFrom q place rest

/-- The fewest digits that denote a number above zero, and how many of them stand
    before the point. -/
def digits (q : Rat) : Text × Int :=
  digitsFrom q (place q) ((List.range mostDigits).map (· + 1))

/-- Digits with the point among them, before them or behind them. -/
def around (ds : Text) (place : Int) : Text :=
  if place ≤ 0 then ['0', '.'] ++ List.replicate (-place).toNat '0' ++ ds
  else if ds.length ≤ place.toNat then
    ds ++ List.replicate (place.toNat - ds.length) '0' ++ ['.', '0']
  else ds.take place.toNat ++ '.' :: ds.drop place.toNat

/-- Digits with an exponent of at least two digits. -/
def scientific (ds : Text) (exponent : Int) : Text :=
  let rest := ds.drop 1
  let size := Text.ofNat exponent.natAbs
  ds.take 1 ++ (if rest.isEmpty then [] else '.' :: rest) ++
    ['e', if exponent < 0 then '-' else '+'] ++ List.replicate (2 - size.length) '0' ++ size

/-- A number above zero as it is written. The point may be up to 16 digits behind
    the beginning, or up to three zeros before it. -/
def writePositive (q : Rat) : Text :=
  let (ds, p) := digits q
  if -4 < p && p ≤ 16 then around ds p else scientific ds (p - 1)

/-- A number in double precision as it is written. -/
def write (q : Rat) : Text :=
  if q = 0 then ['0', '.', '0']
  else if q < 0 then '-' :: writePositive (-q)
  else writePositive q

end Shortest

end DiceRoller
