import DiceRoller.Bench.Likeness

/-!
# Questions

What can be asked about the node at a place of the shelf, and the answers. An answer
is a value, or all that can be seen of a node at once, in which what the node cannot
tell is replaced by the fault.

## Main definitions

* `Question`: A question about one node.
* `State`: All that can be seen of a node.
* `Shelf.state`: The state of the node at a place.
* `Shelf.answer`: The answer to a question.
-/

namespace DiceRoller

/-- A question about one node. -/
inductive Question where
  /-- How it is displayed, with the letters of a selector for a selector. -/
  | text
  /-- What it is worth, as a number. -/
  | number
  /-- All that tells it from another. -/
  | description
  /-- How many expressions are in the set. -/
  | size
  /-- All that can be seen of it. -/
  | state
  /-- The expressions of the set. -/
  | items
  /-- The nodes directly below. -/
  | children
  /-- The rolls of the expression. -/
  | rolls
  /-- The dice of the roll that count. -/
  | active
  /-- The value of the die or constant. -/
  | value
  /-- The marks of the die. -/
  | flags
  /-- The stated number of faces. -/
  | faces
  /-- The values on the faces. -/
  | distribution
  /-- How the faces are written. -/
  | faceText
  /-- How the roll is written. -/
  | written
  /-- The number of dice. -/
  | quantity
  /-- The letters of the selector. -/
  | kind
  /-- The number of the selector. -/
  | num
  /-- Whether the selector keeps. -/
  | keep
  /-- Whether the selector looks for high values. -/
  | high
  /-- The text that the set was read from. -/
  | spec
  /-- What it is worth. -/
  | total
  /-- How it is displayed. -/
  | render
  /-- Whether all dice show their greatest value. -/
  | isGreatest
  /-- Whether all dice show their least value. -/
  | isLeast
  /-- Whether the die or every die of the roll was thrown. -/
  | isRolled
  /-- Whether the die counts. -/
  | isKept
  /-- Whether the die is struck out. -/
  | isDropped
  /-- The marks around a value of the die, with the place of the value. -/
  | dress
  /-- The totals of the expressions of the set. -/
  | totals
  /-- The report on the set. -/
  | report
deriving DecidableEq

/-- What a node is worth: one total, or one for each expression of a set. -/
inductive Worth where
  /-- A single total. -/
  | single (total : Except Bench.Fault Value)
  /-- The totals of a set. -/
  | several (totals : Except Bench.Fault (List Value))

/-- All that can be seen of a node. -/
inductive State where
  /-- A selector, as it is written. -/
  | selector (written : Text)
  /-- Any other node: its kind, how it is displayed, what it is worth, whether
      all its dice are at an end, and what they show with their marks. -/
  | node (kind : Text) (render : Except Bench.Fault Text) (worth : Worth)
      (isGreatest isLeast : Bool) (dice : List (Value × Value))

/-- What a step at the bench tells. -/
inductive Answer where
  /-- A value. -/
  | value (v : Value)
  /-- The state of a node. -/
  | state (s : State)
  /-- The states of nodes. -/
  | states (ss : List State)
  /-- A set that was read. -/
  | set (s : RollSet)

namespace State

/-- Whether a state can be written down. -/
def isWritable : State → Bool
  | .selector _ => true
  | .node _ _ worth _ _ dice =>
    let totals := match worth with
      | .single (.ok v) => [v]
      | .several (.ok vs) => vs
      | _ => []
    totals.all Value.isWritable && dice.all fun d => d.1.isWritable && d.2.isWritable

end State

namespace Answer

/-- A text as an answer. -/
def text (t : Text) : Answer := .value (.text t)

/-- Texts as an answer. -/
def texts (ts : List Text) : Answer := .value (.list (ts.map .text))

/-- A truth value as an answer. -/
def truth (b : Bool) : Answer := .value (.bool b)

/-- A number of things as an answer. -/
def count (n : Nat) : Answer := .value (.int n)

/-- Whether an answer can be written down. -/
def isWritable : Answer → Bool
  | .value v => v.isWritable
  | .state s => s.isWritable
  | .states ss => ss.all State.isWritable
  | .set _ => true

end Answer

namespace Shelf

open Bench

/-- All that can be seen of the node at a place. A node whose dice cannot be found
    has no state. -/
def state (shelf : Shelf) (place : Place) : Except Bench.Fault State :=
  match shelf.cell? place with
  | some (.selector s) => s.written.map .selector
  | cell => do
    let worth := match cell with
      | some (.rollSet _ _) => Worth.several (shelf.groupTotals place)
      | _ => Worth.single (shelf.total place)
    let greatest ← shelf.isGreatest place
    let least ← shelf.isLeast place
    let dice ← shelf.dice place
    return .node (shelf.kindName place) (shelf.render place) worth greatest least
      (dice.map fun d => (d.top, d.marks))

/-- A value as a whole number: what counts as one is one, and nothing else can be
    made one. -/
def wholeOf (v : Value) : Except Bench.Fault Answer :=
  match v.asNumber? with
  | some n => .ok (.value (.int n))
  | none => .error .unfit

/-- The answer to a question about a die, if it is one that only dice have. -/
def answerOfDie (d : LooseDie) : Question → Except Bench.Fault Answer
  | .value => .ok (.value d.top)
  | .flags => .ok (.value d.marks)
  | .faces => .ok (.value d.faces)
  | .distribution => .ok (.value (.list d.values))
  | .faceText => d.faceText.map .text
  | .isRolled => .ok (.truth d.isThrown)
  | .isKept => d.isKept.map .truth
  | .isDropped => d.isDropped.map .truth
  | .dress => (d.dress (.ok ['\x7b', '\x7d'])).map .text
  | _ => .error .lacking

/-- The answer to a question about a selector, if it is one that only selectors
    have. -/
def answerOfSelector (s : LooseSelector) : Question → Except Bench.Fault Answer
  | .kind => .ok (.text s.kind)
  | .num => .ok (.value s.num)
  | .keep => .ok (.value s.keep)
  | .high => .ok (.value s.high)
  | _ => .error .lacking

/-- The answer to a question about a roll, if it is one that only rolls have. -/
def answerOfRoll (shelf : Shelf) (place : Place) (dice : List Place) :
    Question → Except Bench.Fault Answer
  | .written => (shelf.written place).map .text
  | .quantity => .ok (.count dice.length)
  | .isRolled => .ok (.truth (shelf.isThrown dice))
  | .active => do return .texts (← (← shelf.active dice).mapM LooseDie.render)
  | _ => .error .lacking

/-- The answer to a question that only nodes of one kind have. -/
def answerOfKind (shelf : Shelf) (place : Place) (q : Question) : Except Bench.Fault Answer :=
  match shelf.cell? place with
  | some (.die d) => answerOfDie d q
  | some (.constant n) => if q = .value then .ok (.value (.int n)) else .error .lacking
  | some (.selector s) => answerOfSelector s q
  | some (.roll dice _) => shelf.answerOfRoll place dice q
  | some (.rollSet _ spec) => if q = .spec then .ok (.value spec) else .error .lacking
  | _ => .error .lacking

/-- The answer to a question about the node at a place. -/
def answer (shelf : Shelf) (place : Place) (q : Question) : Except Bench.Fault Answer :=
  match q, shelf.cell? place with
  | .text, some (.selector s) => s.written.map .text
  | .text, _ => (shelf.render place).map .text
  | .number, some (.selector _) => .error .unfit
  | .number, _ => do wholeOf (← shelf.total place)
  | .description, _ => (shelf.describe place).map .text
  | .size, some (.rollSet expressions _) => .ok (.count expressions.length)
  | .size, _ => .error .unfit
  | .state, _ => (shelf.state place).map .state
  | .items, some (.rollSet expressions _) => (expressions.mapM shelf.render).map .texts
  | .items, _ => .error .unfit
  | .children, _ => do return .texts (← (← shelf.children place).mapM shelf.render)
  | .rolls, _ => do return .texts (← (← shelf.rolls place).mapM shelf.render)
  | .total, _ => (shelf.total place).map .value
  | .render, _ => (shelf.render place).map .text
  | .isGreatest, _ => (shelf.isGreatest place).map .truth
  | .isLeast, _ => (shelf.isLeast place).map .truth
  | .totals, _ => (shelf.groupTotals place).map fun vs => .value (.list vs)
  | .report, _ => (shelf.report place).map .text
  | q, _ => shelf.answerOfKind place q

end Shelf

end DiceRoller
