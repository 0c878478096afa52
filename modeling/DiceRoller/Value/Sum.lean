import DiceRoller.Number.Shortest
import DiceRoller.Value.Order

/-!
# Sums of values

Adding and subtracting values. Truth values and whole numbers add up to a whole
number. As soon as a number with a fraction is among them the sum is one in double
precision: whole numbers are brought to it first, which the greatest of them cannot
be, and a sum that is too great lies beyond all numbers.

## Main definitions

* `Value.SumFault`: Why values do not add up.
* `Value.plus`, `Value.minus`: The sum and the difference of two values.
-/

namespace DiceRoller

namespace Value

/-- Why values do not add up. -/
inductive SumFault where
  /-- One of them is no number. -/
  | noNumber
  /-- A whole number is too great for double precision. -/
  | tooGreat
deriving DecidableEq

/-- What a number is worth in double precision. -/
def double? (v : Value) : Except SumFault Worth :=
  match v.worth? with
  | none => .error .noNumber
  | some (.exact q) =>
    let q := Double.nearest q
    if Double.isTooGreat q then .error .tooGreat else .ok (.exact q)
  | some w => .ok w

/-- A number in double precision as a value. -/
def ofDouble (q : Rat) : Value :=
  if Double.isTooGreat q then .infinite (q < 0) else .decimal (Shortest.write q)

/-- The sum of two numbers in double precision. -/
def addDoubles : Worth → Worth → Value
  | .exact p, .exact q => ofDouble (Double.nearest (p + q))
  | .exact _, .infinite below => .infinite below
  | .infinite below, .exact _ => .infinite below
  | .infinite below, .infinite below' => if below = below' then .infinite below else .undefined
  | _, _ => .undefined

/-- A number with the other sign. -/
def Worth.negated : Worth → Worth
  | .exact q => .exact (-q)
  | .infinite below => .infinite (!below)
  | .undefined => .undefined

/-- The sum of two values. -/
def plus (v w : Value) : Except SumFault Value :=
  match v.asNumber?, w.asNumber? with
  | some m, some n => .ok (.int (m + n))
  | _, _ =>
    if w.worth?.isNone then .error .noNumber
    else do return addDoubles (← v.double?) (← w.double?)

/-- The difference of two values. -/
def minus (v w : Value) : Except SumFault Value :=
  match v.asNumber?, w.asNumber? with
  | some m, some n => .ok (.int (m - n))
  | _, _ =>
    if w.worth?.isNone then .error .noNumber
    else do return addDoubles (← v.double?) (← w.double?).negated

theorem plus_int (m n : Int) : plus (.int m) (.int n) = .ok (.int (m + n)) := rfl

theorem minus_int (m n : Int) : minus (.int m) (.int n) = .ok (.int (m - n)) := rfl

end Value

end DiceRoller
