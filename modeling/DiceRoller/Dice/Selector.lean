import DiceRoller.Dice.Die

/-!
# Selectors

A selector narrows a roll to some of its dice: it keeps or drops a number of the
highest or lowest ones. It looks only at the dice that still count, and one that
asks for as many of them as there are, or more, changes nothing.

The dice that count are lined up best first, where the better of two dice is the
one with the value that the selector looks for, and of equal ones the earlier.
Each die enters the line with its position, so the order is a strict one and the
line-up is determined by it alone. The dice that fall out are those behind the
cut for a selector that keeps, those before it for one that drops.

Dice that were never thrown cannot be lined up. A selector that would have to
line up such a die does nothing at all, which `dropped?` reports by `none`.

## Main definitions

* `Selector`: Keep or drop, high or low, and how many.
* `Selector.candidates`: The dice that still count, with their positions.
* `Selector.isBefore`: The order of the line-up.
* `Selector.dropped?`: The positions of the dice that fall out.
* `Selector.narrowed?`: The dice after the selector.
-/

namespace DiceRoller

/-- A selector: whether it keeps or drops, whether it looks for high or low
    values, and how many dice. -/
structure Selector where
  /-- Keeps the dice selected rather than drop them. -/
  keep : Bool := true
  /-- Selects the highest dice rather than the lowest. -/
  high : Bool := true
  /-- How many dice are selected. -/
  num : Nat := 1
deriving DecidableEq

namespace Selector

/-- The two letters of a selector. -/
def kind (s : Selector) : Text :=
  [if s.keep then 'k' else 'd', if s.high then 'h' else 'l']

/-- A selector as it is written behind a roll. -/
def written (s : Selector) : Text := s.kind ++ Text.ofNat s.num

/-- The selector with two given letters, if they are letters of a selector. -/
def ofKind? (kind : Text) (num : Nat) : Option Selector :=
  match kind with
  | ['k', 'h'] => some ⟨true, true, num⟩
  | ['k', 'l'] => some ⟨true, false, num⟩
  | ['d', 'h'] => some ⟨false, true, num⟩
  | ['d', 'l'] => some ⟨false, false, num⟩
  | _ => none

/-- The wording for a selector that would select nothing. -/
def tooFew : Text := "A selector must select at least 1 die.".toList

/-- The text of a truth value in a description. -/
def truthText (b : Bool) : Text := if b then "True".toList else "False".toList

/-- The selector described with all that tells it from another. -/
def describe (s : Selector) : Text :=
  "Selector(keep=".toList ++ truthText s.keep ++ ", high=".toList ++ truthText s.high ++
    ", num=".toList ++ Text.ofNat s.num ++ [')']

/-- The dice that still count, each with its position. -/
def candidates (dice : List Showing) : List (Showing × Nat) :=
  dice.zipIdx.filter fun p => p.1.isKept

/-- The order of the line-up on values with positions: better values first, and
    the earlier of two equal ones. -/
def isBefore (s : Selector) (a b : Int × Nat) : Bool :=
  (if s.high then b.1 < a.1 else a.1 < b.1) || (a.1 == b.1 && a.2 ≤ b.2)

/-- The values of dice with their positions, if all have been thrown. -/
def values? (dice : List (Showing × Nat)) : Option (List (Int × Nat)) :=
  dice.mapM fun p => p.1.value.map fun v => (v, p.2)

/-- The positions of the dice that fall out, or nothing if a die would have to
    be lined up that was never thrown. -/
def dropped? (s : Selector) (dice : List Showing) : Option (List Nat) :=
  let active := candidates dice
  if active.length ≤ s.num then some []
  else (values? active).map fun values =>
    let lineUp := values.mergeSort s.isBefore
    ((if s.keep then lineUp.drop s.num else lineUp.take s.num).map (·.2))

/-- The dice with those at the given positions struck out. -/
def strikeOut (positions : List Nat) (dice : List Showing) : List Showing :=
  dice.zipIdx.map fun p => if positions.contains p.2 then p.1.drop else p.1

/-- The dice after the selector, or nothing if it could not line them up. -/
def narrowed? (s : Selector) (dice : List Showing) : Option (List Showing) :=
  (s.dropped? dice).map fun positions => strikeOut positions dice

/-- The dice after the selector, left as they are if it could not line them
    up. -/
def narrow (s : Selector) (dice : List Showing) : List Showing := (s.narrowed? dice).getD dice

end Selector

end DiceRoller
