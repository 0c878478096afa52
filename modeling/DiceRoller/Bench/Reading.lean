import DiceRoller.Bench.Shelf
import DiceRoller.Report

/-!
# Reading off the shelf

What can be told of the node at a place without changing anything: how it is
displayed, what it is worth, whether its dice are all at an end, and how it is
described. Unless a kind of node says otherwise it is the sum of what it holds, and
shows its greatest value when all of that does. What a node cannot do is a fault,
and the first one met from left to right is the one reported.

A node that is part of itself is followed round until the levels run out, which is
a fault of its own. Much can still be told of it: a total may meet another fault
first, and dice that have all been thrown are displayed without looking at the
selectors. A description never goes round: where a node is met again on its own way
down, its parts are left out.

## Main definitions

* `Shelf.render`, `Shelf.written`: How a node is displayed, and how a roll is
  written.
* `Shelf.total`, `Shelf.groupTotals`: What a node is worth, and the totals of a set.
* `Shelf.isGreatest`, `Shelf.isLeast`: Whether all dice below are at an end.
* `Shelf.dice`: The dice below.
* `Shelf.describe`: All that tells a node from another.
* `Shelf.report`: The report on a set.
-/

namespace DiceRoller

namespace Shelf

open Bench

/-- Whether every die of a roll has been thrown. -/
def isThrown (shelf : Shelf) (dice : List Place) : Bool :=
  (shelf.diceAt dice).all LooseDie.isThrown

/-- Quantity and kind of dice as they are written in front of the selectors. There are
    never so many dice that their number could not be written. -/
def head (shelf : Shelf) (dice : List Place) : Except Bench.Fault Text := do
  let faces ← ((shelf.diceAt dice).head?.map LooseDie.faceText).getD (.ok [])
  return Text.ofNat dice.length ++ 'd' :: faces

/-- What is written for a selector, or whatever stands in its place. -/
def selectorText (shelf : Shelf) (render : Place → Except Bench.Fault Text) (place : Place) :
    Except Bench.Fault Text :=
  match shelf.cell? place with
  | some (.selector s) => s.written
  | _ => render place

/-- How a roll is written. The selectors are put into words first. -/
def rollText (shelf : Shelf) (render : Place → Except Bench.Fault Text)
    (dice selectors : List Place) : Except Bench.Fault Text := do
  let texts ← selectors.mapM (shelf.selectorText render)
  return (← shelf.head dice) ++ texts.flatten

/-- How a roll is displayed: its dice, or what is written for it as long as one of them
    has not been thrown. -/
def renderRoll (shelf : Shelf) (render : Place → Except Bench.Fault Text)
    (dice selectors : List Place) : Except Bench.Fault Text :=
  if shelf.isThrown dice then do return (← (shelf.diceAt dice).mapM LooseDie.render).flatten
  else shelf.rollText render dice selectors

/-- Terms behind their signs, which have to be texts. In front of the first term a
    plus is left out. -/
def renderTerms (render : Place → Except Bench.Fault Text) :
    Bool → List (Value × Place) → Except Bench.Fault Text
  | _, [] => .ok []
  | first, (sign, place) :: rest => do
    let lead ← match sign with
      | .text t => .ok (if first && t == ['+'] then [] else t)
      | _ => .error .unfit
    let t ← render place
    return lead ++ t ++ (← renderTerms render false rest)

/-- A node as it is displayed, by following a way of at most `levels` levels. -/
def renderWithin (shelf : Shelf) : Nat → Place → Except Bench.Fault Text
  | 0, _ => .error .endless
  | levels + 1, place =>
    match shelf.cell? place with
    | some (.die d) => d.render
    | some (.constant n) => texted (Numeral.write? n)
    | some (.roll dice selectors) => shelf.renderRoll (renderWithin shelf levels) dice selectors
    | some (.expression terms) => renderTerms (renderWithin shelf levels) true terms
    | some (.rollSet expressions _) => do
      return Text.join [';', ' '] (← expressions.mapM (renderWithin shelf levels))
    | some (.group nodes) => do return (← nodes.mapM (renderWithin shelf levels)).flatten
    | some .abstract => .error .noChildren
    | _ => .error .lacking

/-- A node as it is displayed. -/
def render (shelf : Shelf) (place : Place) : Except Bench.Fault Text :=
  shelf.renderWithin shelf.levels place

/-- How a roll is written. -/
def written (shelf : Shelf) (place : Place) : Except Bench.Fault Text :=
  match shelf.cell? place with
  | some (.roll dice selectors) => shelf.rollText shelf.render dice selectors
  | _ => .error .lacking

/-- The dice of a roll that count. -/
def active (shelf : Shelf) (dice : List Place) : Except Bench.Fault (List LooseDie) :=
  (shelf.diceAt dice).filterM LooseDie.isKept

/-- What nodes are worth together, added up one after another. -/
def sumFrom {α : Type} (worth : α → Except Bench.Fault Value) (start : Value) :
    List α → Except Bench.Fault Value
  | [] => .ok start
  | a :: rest => do sumFrom worth (← plus start (← worth a)) rest

/-- What terms are worth together behind their signs. -/
def sumTerms (worth : Place → Except Bench.Fault Value) (start : Value) :
    List (Value × Place) → Except Bench.Fault Value
  | [] => .ok start
  | (.text ['+'], place) :: rest => do sumTerms worth (← plus start (← worth place)) rest
  | (.text ['-'], place) :: rest => do sumTerms worth (← minus start (← worth place)) rest
  | (sign, _) :: _ => .error (.ofSign sign)

/-- What the dice of a roll are worth that count. -/
def diceTotal (shelf : Shelf) (dice : List Place) : Except Bench.Fault Value := do
  sumFrom (fun d : LooseDie => .ok d.worth) (.int 0) (← shelf.active dice)

/-- What a node is worth, by following a way of at most `levels` levels. -/
def totalWithin (shelf : Shelf) : Nat → Place → Except Bench.Fault Value
  | 0, _ => .error .endless
  | levels + 1, place =>
    match shelf.cell? place with
    | some (.die d) => .ok d.worth
    | some (.constant n) => .ok (.int n)
    | some (.roll dice _) => shelf.diceTotal dice
    | some (.expression terms) => sumTerms (totalWithin shelf levels) (.int 0) terms
    | some (.rollSet _ _) => .error .noSingleTotal
    | some (.group nodes) => sumFrom (totalWithin shelf levels) (.int 0) nodes
    | some .abstract => .error .noChildren
    | _ => .error .lacking

/-- What a node is worth. -/
def total (shelf : Shelf) (place : Place) : Except Bench.Fault Value :=
  shelf.totalWithin shelf.levels place

/-- The totals of a set. -/
def groupTotals (shelf : Shelf) (place : Place) : Except Bench.Fault (List Value) :=
  match shelf.cell? place with
  | some (.rollSet expressions _) => expressions.mapM shelf.total
  | _ => .error .lacking

/-- Whether all of several things answer yes. Nothing is asked beyond the first that
    does not. -/
def allOf {α : Type} (ask : α → Except Bench.Fault Bool) : List α → Except Bench.Fault Bool
  | [] => .ok true
  | a :: rest => do if ← ask a then allOf ask rest else .ok false

/-- Whether all dice below a node answer yes, by following a way of at most `levels`
    levels. A constant has no dice to answer no. -/
def allDiceWithin (shelf : Shelf) (ask : LooseDie → Except Bench.Fault Bool) :
    Nat → Place → Except Bench.Fault Bool
  | 0, _ => .error .endless
  | levels + 1, place =>
    match shelf.cell? place with
    | some (.die d) => ask d
    | some (.constant _) => .ok true
    | some (.roll dice _) => allOf ask (shelf.diceAt dice)
    | some (.expression terms) => allOf (allDiceWithin shelf ask levels) (terms.map (·.2))
    | some (.rollSet expressions _) => allOf (allDiceWithin shelf ask levels) expressions
    | some (.group nodes) => allOf (allDiceWithin shelf ask levels) nodes
    | some .abstract => .error .noChildren
    | _ => .error .lacking

/-- All dice below a node show their greatest value. -/
def isGreatest (shelf : Shelf) (place : Place) : Except Bench.Fault Bool :=
  shelf.allDiceWithin LooseDie.isGreatest shelf.levels place

/-- All dice below a node show their least value. -/
def isLeast (shelf : Shelf) (place : Place) : Except Bench.Fault Bool :=
  shelf.allDiceWithin LooseDie.isLeast shelf.levels place

/-- The dice below a node from left to right, by following a way of at most `levels`
    levels. -/
def diceWithin (shelf : Shelf) : Nat → Place → Except Bench.Fault (List LooseDie)
  | 0, _ => .error .endless
  | levels + 1, place =>
    match shelf.cell? place with
    | some (.die d) => .ok [d]
    | some (.roll dice _) => .ok (shelf.diceAt dice)
    | _ => do return (← (← shelf.children place).mapM (diceWithin shelf levels)).flatten

/-- The dice below a node from left to right. -/
def dice (shelf : Shelf) (place : Place) : Except Bench.Fault (List LooseDie) :=
  shelf.diceWithin shelf.levels place

/-- A node described, by following a way of at most `levels` levels. Of a node that
    is already on the way its parts are left out. -/
def describeWithin (shelf : Shelf) : Nat → List Place → Place → Except Bench.Fault Text
  | 0, _, _ => .ok []
  | levels + 1, way, place =>
    let below := describeWithin shelf levels (place :: way)
    let isRepeated := way.contains place
    match shelf.cell? place with
    | some (.die d) => d.describe
    | some (.constant n) => (texted (Numeral.write? n)).map Term.describeConstant
    | some (.selector s) => s.describe
    | some (.roll dice selectors) => do
      let shown ← (shelf.diceAt dice).mapM LooseDie.describe
      let narrowed ← if isRepeated then .ok "(...)".toList
        else (selectors.mapM below).map Text.parenthesised
      return Roll.describeWith dice.length (Text.parenthesised shown) narrowed
    | some (.expression terms) =>
      if isRepeated then .ok (Expression.describeWith "[...]".toList)
      else do
        return Expression.describeTerms
          (← terms.mapM fun t => do return (← texted t.1.describe?, ← below t.2))
    | some (.rollSet expressions spec) => do
      let held ← if isRepeated then .ok "[...]".toList
        else (expressions.mapM below).map Text.bracketed
      return RollSet.describeWith (← texted spec.describe?) held
    | some (.group _) => .ok "Group()".toList
    | some .abstract => .ok "Abstract()".toList
    | none => .ok []

/-- A node described with all that tells it from another. -/
def describe (shelf : Shelf) (place : Place) : Except Bench.Fault Text :=
  shelf.describeWithin shelf.levels [] place

/-- The rolls of an expression. -/
def rolls (shelf : Shelf) (place : Place) : Except Bench.Fault (List Place) :=
  match shelf.cell? place with
  | some (.expression terms) => .ok ((terms.map (·.2)).filter fun p =>
      match shelf.cell? p with
      | some (.roll _ _) => true
      | _ => false)
  | _ => .error .lacking

/-- Whether one of the nodes has rolls. Nothing is asked beyond the first that
    has. -/
def anyRolls (shelf : Shelf) : List Place → Except Bench.Fault Bool
  | [] => .ok false
  | place :: rest => do
    if (← shelf.rolls place).isEmpty then shelf.anyRolls rest else .ok true

/-- The report on a set that may hold anything. -/
def report (shelf : Shelf) (place : Place) : Except Bench.Fault Text :=
  match shelf.cell? place with
  | some (.rollSet expressions spec) => do
    let totals ← (← shelf.groupTotals place).mapM fun v => texted v.write?
    let hasDice ← shelf.anyRolls expressions
    let critical ← if hasDice then shelf.isGreatest place else .ok false
    let fumble ← if hasDice then shelf.isLeast place else .ok false
    let spec ← texted spec.write?
    let render ← shelf.render place
    return Report.line spec render (Text.join [',', ' '] totals) critical fumble
  | _ => .error .lacking

end Shelf

end DiceRoller
