import DiceRoller.Bench.Reading

/-!
# Throwing on the shelf

Throwing, striking out and selecting change the dice on the shelf itself, wherever
else those are part of. What was done before a fault stays done.

A roll is thrown die by die, then narrowed by what lies in the places of its
selectors. At last it is noted how the roll is written, how it is displayed and what it
is worth, and that fails if a number is too long to be written or if the values that
fell do not add up. By then the dice lie as the throw left them.

## Main definitions

* `Shelf.select`: A selector applied to the dice at some places.
* `Shelf.noteRoll`: What is noted of a roll that was thrown.
* `Shelf.throw`: Throwing what lies at a place.
-/

namespace DiceRoller

namespace Shelf

open Bench

/-- Strikes out the dice at the places whose positions in the list are given. -/
def strikeOut (shelf : Shelf) (places : List Place) (positions : List Nat) :
    Except Bench.Fault Shelf :=
  let places := places.toArray
  positions.foldlM (fun shelf k =>
    match places[k]? with
    | none => .ok shelf
    | some place =>
      match shelf.die? place with
      | none => .error .lacking
      | some d => do return shelf.set place (.die (← d.drop))) shelf

/-- Applies a selector to the dice at some places. -/
def select (shelf : Shelf) (s : LooseSelector) (places : List Place) :
    Except Bench.Fault Shelf := do
  let dice ← selectable shelf places
  shelf.strikeOut places (← s.dropped dice)
where
  /-- The dice at some places, up to the first that is none or whose marks cannot be
      taken apart. -/
  selectable (shelf : Shelf) : List Place → Except Bench.Fault (List LooseDie)
    | [] => .ok []
    | place :: rest =>
      match shelf.die? place with
      | none => .error .lacking
      | some d => do
        let _ ← d.isKept
        return d :: (← selectable shelf rest)

/-- Throws the die at a place. -/
def throwDie (shelf : Shelf) (place : Place) (draws : Draws) : Shelf × Draws :=
  match shelf.die? place with
  | some d =>
    let (d, draws) := d.throw draws
    (shelf.set place (.die d), draws)
  | none => (shelf, draws)

/-- Throws the dice at some places, one after the other. -/
def throwDice (shelf : Shelf) (draws : Draws) : List Place → Shelf × Draws
  | [] => (shelf, draws)
  | place :: rest =>
    let (shelf, draws) := shelf.throwDie place draws
    shelf.throwDice draws rest

/-- What a change of the shelf leaves behind, and the fault if it did not succeed. -/
abbrev Change := (Shelf × Draws) × Option Bench.Fault

/-- Applies what lies at some places to the dice at others, up to the first fault. -/
def narrow (shelf : Shelf) (dice : List Place) : List Place → Shelf × Option Bench.Fault
  | [] => (shelf, none)
  | place :: rest =>
    match shelf.cell? place with
    | some (.selector s) =>
      match shelf.select s dice with
      | .ok shelf => shelf.narrow dice rest
      | .error f => (shelf, some f)
    | _ => (shelf, some .lacking)

/-- What is noted of a roll that was thrown: how it is written, how it is displayed and
    what it is worth. It is put together whether or not there is a journal to note it in. -/
def noteRoll (shelf : Shelf) (dice selectors : List Place) :
    Except Bench.Fault (Text × Text × Value) := do
  let written ← shelf.rollText shelf.render dice selectors
  let shown ← shelf.renderRoll shelf.render dice selectors
  return (written, shown, ← shelf.diceTotal dice)

/-- Throws the dice of a roll, applies its selectors and notes what came of it. -/
def throwRoll (shelf : Shelf) (draws : Draws) (dice selectors : List Place) : Change :=
  let (shelf, draws) := shelf.throwDice draws dice
  match shelf.narrow dice selectors with
  | (shelf, some f) => ((shelf, draws), some f)
  | (shelf, none) =>
    match shelf.noteRoll dice selectors with
    | .ok _ => ((shelf, draws), none)
    | .error f => ((shelf, draws), some f)

/-- Does something at some places one after the other, up to the first fault. -/
def throwEach (throwAt : Place → Shelf → Draws → Change) (shelf : Shelf) (draws : Draws) :
    List Place → Change
  | [] => ((shelf, draws), none)
  | place :: rest =>
    match throwAt place shelf draws with
    | ((shelf, draws), none) => throwEach throwAt shelf draws rest
    | (reached, some fault) => (reached, some fault)

/-- Throws what lies at a place if it is a roll. -/
def throwIfRoll (place : Place) (shelf : Shelf) (draws : Draws) : Change :=
  match shelf.cell? place with
  | some (.roll dice selectors) => shelf.throwRoll draws dice selectors
  | _ => ((shelf, draws), none)

/-- Throws what lies at a place, by following a way of at most `levels` levels. Dice,
    rolls, expressions and sets can be thrown; an expression throws only the rolls
    directly in it. -/
def throwWithin : Nat → Place → Shelf → Draws → Change
  | 0, _, shelf, draws => ((shelf, draws), some .endless)
  | levels + 1, place, shelf, draws =>
    match shelf.cell? place with
    | some (.die _) => (shelf.throwDie place draws, none)
    | some (.roll dice selectors) => shelf.throwRoll draws dice selectors
    | some (.expression terms) => throwEach throwIfRoll shelf draws (terms.map (·.2))
    | some (.rollSet expressions _) => throwEach (throwWithin levels) shelf draws expressions
    | _ => ((shelf, draws), some .lacking)

/-- Throws what lies at a place. -/
def throw (shelf : Shelf) (place : Place) (draws : Draws) : Change :=
  throwWithin shelf.levels place shelf draws

end Shelf

end DiceRoller
