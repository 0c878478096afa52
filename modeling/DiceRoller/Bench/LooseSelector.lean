import DiceRoller.Bench.LooseDie
import DiceRoller.Dice.Selector

/-!
# Loose selectors

A selector that is put together by hand. Its number is compared with one when it
is made and with the number of dice that count when it is applied. Only if it asks
for fewer is more needed of it: a number that says which way to look, values that
can be lined up, and a whole number to cut the line at.

Values of any form are lined up by insertion. The values up to the first that
breaks the order are taken as they come, turned round if they go down, and each
following one is put behind all that it does not come before. Its place is looked
for by halves, so values that have no order among themselves still get one. A line
from the highest value down is the reverse of the line upwards of the values in
reverse, which keeps equal ones in their order.

## Main definitions

* `LooseSelector`: A selector with parts of any form.
* `LooseSelector.make`: A new selector.
* `LineUp.ascending?`: Values lined up by insertion.
* `LooseSelector.lineUp?`: The values of dice in the order of a selector.
* `LooseSelector.dropped`: The positions of the dice that fall out.
-/

namespace DiceRoller

namespace LineUp

/-- A value with its position. -/
abbrev Entry := Value × Nat

/-- How many of the values, at least one, go one way up to the first that does not:
    down, each below the one before it, or up. -/
def run? (down : Bool) (before : Entry) : List Entry → Option Nat
  | [] => some 1
  | e :: rest => do
    if (← e.1.isBelow? before.1) == down then return (← run? down e rest) + 1 else return 1

/-- The place between two others in a row that has a value behind all that it does
    not come before, found by at most `steps` halvings. -/
def place? (row : Array Entry) (e : Entry) : Nat → Nat → Nat → Option Nat
  | 0, left, _ => some left
  | steps + 1, left, right =>
    if right ≤ left then some left
    else
      let middle := (left + right) / 2
      match row[middle]? with
      | none => some left
      | some m => do
        if ← e.1.isBelow? m.1 then place? row e steps left middle
        else place? row e steps (middle + 1) right

/-- Values put into a row one after another. -/
def insertAll? (row : Array Entry) : List Entry → Option (Array Entry)
  | [] => some row
  | e :: rest => do
    let k ← place? row e (row.size + 1) 0 row.size
    insertAll? (row.extract 0 k ++ #[e] ++ row.extract k row.size) rest

/-- Values lined up from the lowest on; nothing if two that are compared have no
    order. -/
def ascending? (entries : List Entry) : Option (List Entry) :=
  match entries with
  | first :: second :: rest => do
    let down ← second.1.isBelow? first.1
    let n := (← run? down second rest) + 1
    let front := entries.take n
    return (← insertAll? (if down then front.reverse else front).toArray (entries.drop n)).toList
  | entries => some entries

/-- Values that are all whole numbers. -/
def whole? (entries : List Entry) : Option (List (Int × Nat)) :=
  entries.mapM fun e =>
    match e.1 with
    | .int n => some (n, e.2)
    | _ => none

end LineUp

/-- A selector with parts of any form. -/
structure LooseSelector where
  /-- Keeps the dice selected rather than drop them, unless it counts as absent. -/
  keep : Value
  /-- Selects the highest dice rather than the lowest, unless it counts as absent. -/
  high : Value
  /-- How many dice are selected. -/
  num : Value

namespace LooseSelector

open Bench

/-- A new selector, which has to select something. -/
def make (keep high num : Value) : Except Bench.Fault LooseSelector := do
  atLeastOne Selector.tooFew num
  return ⟨keep, high, num⟩

/-- The selector with the letters in a value, and the given number of dice. -/
def ofKind (kind num : Value) : Except Bench.Fault LooseSelector :=
  match kind with
  | .text t =>
    match Selector.ofKind? t 1 with
    | some s => make (.bool s.keep) (.bool s.high) num
    | none => .error .noSuchKind
  | v => .error (if v.isKey then .noSuchKind else .unfit)

/-- A selector that a notation can name. -/
def ofSelector (s : Selector) : LooseSelector := ⟨.bool s.keep, .bool s.high, .int s.num⟩

/-- The two letters of a selector. -/
def kind (s : LooseSelector) : Text := Selector.kind ⟨!s.keep.isVacant, !s.high.isVacant, 1⟩

/-- A selector as it is written behind a roll. -/
def written (s : LooseSelector) : Except Bench.Fault Text := do
  return s.kind ++ (← texted s.num.write?)

/-- The selector described with all that tells it from another. -/
def describe (s : LooseSelector) : Except Bench.Fault Text := do
  return "Selector(keep=".toList ++ (← texted s.keep.describe?) ++ ", high=".toList ++
    (← texted s.high.describe?) ++ ", num=".toList ++ (← texted s.num.describe?) ++ [')']

/-- Selectors are equal when their parts are alike. -/
def same (a b : LooseSelector) : Bool :=
  a.keep.alike b.keep && a.high.alike b.high && a.num.alike b.num

/-- The greatest number that can say which way to look. -/
def mostWays : Int := 2147483647

/-- Whether a line goes down from the highest value, as a number says. -/
def isDownward (v : Value) : Except Bench.Fault Bool := do
  let n ← counted v
  if mostWays < n || n < -mostWays - 1 then .error .tooGreat else return n != 0

/-- The values of dice in the order in which a selector takes them. -/
def lineUp? (down : Bool) (entries : List LineUp.Entry) : Option (List Nat) :=
  match LineUp.whole? entries with
  | some values => some ((values.mergeSort (Selector.isBefore ⟨true, down, 1⟩)).map (·.2))
  | none =>
    if down then (LineUp.ascending? entries.reverse).map fun line => (line.map (·.2)).reverse
    else (LineUp.ascending? entries).map fun line => line.map (·.2)

/-- The dice that still count, each with its position. -/
def candidates (dice : List LooseDie) : Except Bench.Fault (List (LooseDie × Nat)) :=
  dice.zipIdx.filterM fun p => p.1.isKept

/-- The positions of the dice that fall out. -/
def dropped (s : LooseSelector) (dice : List LooseDie) : Except Bench.Fault (List Nat) := do
  let active ← candidates dice
  let count := Value.int active.length
  if count.same s.num || (← compared (count.isBelow? s.num)) then return []
  let down ← isDownward s.high
  match lineUp? down (active.map fun p => (p.1.top, p.2)) with
  | none => .error .unfit
  | some line =>
    let n := (← counted s.num).toNat
    return if s.keep.isVacant then line.take n else line.drop n

end LooseSelector

end DiceRoller
