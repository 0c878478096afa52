import DiceRoller.Bench.LooseSelector
import DiceRoller.Dice.RollSet

/-!
# The shelf

Where nodes lie that are put together by hand. Such nodes are shared: a roll that
stands in two expressions is one roll, and throwing it changes both. So a node
holds the places of the nodes below it, and only the shelf holds the nodes.

Nothing is ever taken off the shelf, so a place stays good. A node can be made part
of itself, and then following the places never ends. Whatever follows them is
allowed as many levels as there are nodes that hold others, and two more: a way down
that is longer has come round again.

## Main definitions

* `Place`: A place on the shelf.
* `Cell`: A node with the places of the nodes below it.
* `Shelf`: The cells, by place.
* `Shelf.levels`: How many levels a way down can have.
* `Shelf.children`: The places directly below a place.
* `Shelf.addRollSet`: A set with all its nodes put on the shelf.
-/

namespace DiceRoller

/-- A place on the shelf. -/
abbrev Place := Nat

/-- A node whose parts lie elsewhere on the shelf. -/
inductive Cell where
  /-- A die. -/
  | die (d : LooseDie)
  /-- A constant. -/
  | constant (n : Int)
  /-- A selector. -/
  | selector (s : LooseSelector)
  /-- A roll of dice, with its selectors, or whatever was put in their place. -/
  | roll (dice selectors : List Place)
  /-- Nodes joined by signs, or whatever was put in their place. -/
  | expression (terms : List (Value × Place))
  /-- Nodes totalled apart, and what they are said to be read from. -/
  | rollSet (expressions : List Place) (spec : Value)
  /-- Nothing but the nodes in it. -/
  | group (nodes : List Place)
  /-- A node that does not say what is in it. -/
  | abstract

namespace Cell

/-- Whether the node may hold others that hold others in turn. -/
def isHolder : Cell → Bool
  | .roll _ _ => true
  | .expression _ => true
  | .rollSet _ _ => true
  | .group _ => true
  | _ => false

end Cell

/-- The cells, each at its place. -/
structure Shelf where
  /-- The cells in the order in which they were put there. -/
  cells : Array Cell := #[]

namespace Shelf

open Bench

/-- Puts a cell at a new place. -/
def add (shelf : Shelf) (c : Cell) : Place × Shelf :=
  (shelf.cells.size, ⟨shelf.cells.push c⟩)

/-- Puts cells at new places. -/
def addAll (shelf : Shelf) : List Cell → List Place × Shelf
  | [] => ([], shelf)
  | c :: rest =>
    let (place, shelf) := shelf.add c
    let (places, shelf) := shelf.addAll rest
    (place :: places, shelf)

/-- Replaces the cell at a place. -/
def set (shelf : Shelf) (place : Place) (c : Cell) : Shelf :=
  ⟨shelf.cells.setIfInBounds place c⟩

/-- The cell at a place. -/
def cell? (shelf : Shelf) (place : Place) : Option Cell := shelf.cells[place]?

/-- The die at a place. -/
def die? (shelf : Shelf) (place : Place) : Option LooseDie :=
  match shelf.cell? place with
  | some (.die d) => some d
  | _ => none

/-- The dice at some places. -/
def diceAt (shelf : Shelf) (places : List Place) : List LooseDie := places.filterMap shelf.die?

/-- How many levels a way down can have that does not come round again. -/
def levels (shelf : Shelf) : Nat := (shelf.cells.filter Cell.isHolder).size + 2

/-- Puts a roll of unthrown dice on the shelf, with what lies at some places for
    its selectors. -/
def addDice (shelf : Shelf) (quantity : Nat) (d : LooseDie) (selectors : List Place) :
    Place × Shelf :=
  let (dice, shelf) := shelf.addAll (List.replicate quantity (.die d.fresh))
  shelf.add (.roll dice selectors)

/-- Puts a roll with its dice and selectors on the shelf. -/
def addRoll (shelf : Shelf) (r : Roll) : Place × Shelf :=
  let kind := LooseDie.ofKind r.spec
  let (dice, shelf) := shelf.addAll (r.shown.map fun s => .die (kind.showing s))
  let (selectors, shelf) :=
    shelf.addAll (r.selectors.map fun s => .selector (LooseSelector.ofSelector s))
  shelf.add (.roll dice selectors)

/-- Puts terms on the shelf. -/
def addTerms (shelf : Shelf) : List (Sign × Term) → List (Value × Place) × Shelf
  | [] => ([], shelf)
  | (s, .roll r) :: rest =>
    let (place, shelf) := shelf.addRoll r
    let (places, shelf) := shelf.addTerms rest
    ((.text s.written, place) :: places, shelf)
  | (s, .constant n) :: rest =>
    let (place, shelf) := shelf.add (.constant n)
    let (places, shelf) := shelf.addTerms rest
    ((.text s.written, place) :: places, shelf)

/-- Puts expressions on the shelf. -/
def addExpressions (shelf : Shelf) : List Expression → List Place × Shelf
  | [] => ([], shelf)
  | e :: rest =>
    let (terms, shelf) := shelf.addTerms e.terms
    let (place, shelf) := shelf.add (.expression terms)
    let (places, shelf) := shelf.addExpressions rest
    (place :: places, shelf)

/-- Puts a set with all its nodes on the shelf. -/
def addRollSet (shelf : Shelf) (s : RollSet) : Place × Shelf :=
  let (expressions, shelf) := shelf.addExpressions s.expressions
  shelf.add (.rollSet expressions (s.spec.elim .null .text))

/-- The places directly below a place. -/
def children (shelf : Shelf) (place : Place) : Except Bench.Fault (List Place) :=
  match shelf.cell? place with
  | some (.die _) => .ok []
  | some (.constant _) => .ok []
  | some (.roll dice _) => .ok dice
  | some (.expression terms) => .ok (terms.map (·.2))
  | some (.rollSet expressions _) => .ok expressions
  | some (.group nodes) => .ok nodes
  | some .abstract => .error .noChildren
  | _ => .error .lacking

/-- The name of the kind of node at a place. -/
def kindName (shelf : Shelf) (place : Place) : Text :=
  match shelf.cell? place with
  | some (.die d) => d.kindName
  | some (.constant _) => "Modifier".toList
  | some (.selector _) => "Selector".toList
  | some (.roll _ _) => "Roll".toList
  | some (.expression _) => "Expression".toList
  | some (.rollSet _ _) => "RollSet".toList
  | some (.group _) => "Group".toList
  | some .abstract => "Abstract".toList
  | none => []

theorem cell?_add (shelf : Shelf) (c : Cell) :
    (shelf.add c).2.cell? (shelf.add c).1 = some c := by
  simp [add, cell?]

theorem cell?_add_of_lt {shelf : Shelf} {c : Cell} {place : Place}
    (h : place < shelf.cells.size) : (shelf.add c).2.cell? place = shelf.cell? place := by
  simp [add, cell?, Array.getElem?_push, Nat.ne_of_lt h]

end Shelf

end DiceRoller
