import DiceRoller.Dice.Selector

/-!
# Rolls

A roll is a number of dice of one kind and the selectors that narrow it. All its
dice are of the same kind by construction, so a roll holds the kind once and then
what each die shows. Rolling throws every die in order and then applies the
selectors in the order written, each to what the earlier ones left.

## Main definitions

* `Roll`: A kind of die, what each die shows, and the selectors.
* `Roll.fresh`: A roll that was never thrown.
* `Roll.written`: The roll as it is written in a notation.
* `Roll.render`: The roll as it is displayed.
* `Roll.total`: The sum of the dice that count.
* `Roll.throw`: The roll thrown and narrowed.
-/

namespace DiceRoller

/-- Dice of one kind rolled together, then narrowed by selectors. -/
structure Roll where
  /-- The kind of the dice. -/
  spec : DieSpec
  /-- What each die shows, in order. -/
  shown : List Showing
  /-- The selectors, in the order in which they are applied. -/
  selectors : List Selector := []
deriving DecidableEq

namespace Roll

/-- The wording for a roll without dice. -/
def noDie : Text := "A roll needs at least 1 die.".toList

/-- A roll of `quantity` dice that was never thrown. -/
def fresh (quantity : Nat) (spec : DieSpec) (selectors : List Selector) : Roll :=
  { spec := spec, shown := List.replicate quantity {}, selectors := selectors }

/-- The number of dice. -/
def quantity (r : Roll) : Nat := r.shown.length

/-- The dice of the roll. -/
def dice (r : Roll) : List Die := r.shown.map fun d => ⟨r.spec, d⟩

/-- The selectors as they are written behind the dice. -/
def selectorText (selectors : List Selector) : Text := selectors.flatMap Selector.written

/-- Quantity and kind as they are written in front of the selectors. -/
def head (quantity : Nat) (spec : DieSpec) : Text :=
  Text.ofNat quantity ++ 'd' :: spec.faceText

/-- Quantity, kind and selectors as they are written in a notation. -/
def spell (quantity : Nat) (spec : DieSpec) (selectors : List Selector) : Text :=
  head quantity spec ++ selectorText selectors

/-- The roll as it is written in a notation. -/
def written (r : Roll) : Text := spell r.quantity r.spec r.selectors

/-- Rolls are equal when their quantities, kinds and selectors are. -/
def same (a b : Roll) : Bool :=
  a.quantity == b.quantity && a.spec.same b.spec && a.selectors == b.selectors

/-- Every die has been thrown. -/
def isRolled (r : Roll) : Bool := r.shown.all Showing.isRolled

/-- The dice that count. -/
def active (r : Roll) : List Showing := r.shown.filter Showing.isKept

/-- The sum of the dice that count. -/
def total (r : Roll) : Int := (r.active.map Showing.total).foldr (· + ·) 0

/-- The roll as it is displayed: all its dice, or what is written for it until
    each of them has been thrown. -/
def render (r : Roll) : Text :=
  if r.isRolled then r.shown.flatMap (Showing.render r.spec) else r.written

/-- Every die shows its greatest value, those that do not count included. -/
def isGreatest (r : Roll) : Bool := r.shown.all (Showing.isGreatest r.spec)

/-- Every die shows its least value, those that do not count included. -/
def isLeast (r : Roll) : Bool := r.shown.all (Showing.isLeast r.spec)

/-- Throws of `n` dice of one kind, one after the other. -/
def throwAll (spec : DieSpec) : Nat → Draws → List Showing × Draws
  | 0, draws => ([], draws)
  | n + 1, draws =>
    let (first, draws) := Showing.throw spec draws
    let (rest, draws) := throwAll spec n draws
    (first :: rest, draws)

/-- The dice after all selectors, in the order written. -/
def narrow (selectors : List Selector) (dice : List Showing) : List Showing :=
  selectors.foldl (fun dice s => s.narrow dice) dice

/-- The roll with every die thrown and the selectors applied. -/
def throw (r : Roll) (draws : Draws) : Roll × Draws :=
  let (shown, draws) := throwAll r.spec r.quantity draws
  ({ r with shown := narrow r.selectors shown }, draws)

/-- A roll described, by what is said of its dice and of its selectors. -/
def describeWith (quantity : Nat) (dice selectors : Text) : Text :=
  "Roll(quantity=".toList ++ Text.ofNat quantity ++ ", dice=".toList ++ dice ++
    ", selectors=".toList ++ selectors ++ [')']

/-- The roll described with all that tells it from another. -/
def describe (r : Roll) : Text :=
  describeWith r.quantity (Text.parenthesised (r.dice.map Die.describe))
    (Text.parenthesised (r.selectors.map Selector.describe))

end Roll

end DiceRoller
