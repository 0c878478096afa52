import DiceRoller.Grammar.Mistake
import DiceRoller.Value.Sum

/-!
# Faults at the bench

Why something that is put together by hand cannot be made, or cannot do what it is
asked to. Anything can be put anywhere by hand, so most faults show only when a
part is used.

## Main definitions

* `Bench.Fault`: Why something cannot be made or done.
* `Bench.texted`: What was written, if it could be.
* `Bench.atLeastOne`: The check that a number counts something.
-/

namespace DiceRoller

namespace Bench

/-- Why something cannot be made or done. -/
inductive Fault where
  /-- Nodes of this kind cannot be asked that. -/
  | lacking
  /-- A value or a node does not fit where it is used. -/
  | unfit
  /-- A set has no single total. -/
  | noSingleTotal
  /-- An abstract node does not say what is in it. -/
  | noChildren
  /-- Something else stands in the place of a sign. -/
  | unknownSign (sign : Value)
  /-- Nothing is filed under the name. -/
  | noSlot
  /-- There is no child at the position. -/
  | noChild
  /-- The letters are not those of a selector. -/
  | noSuchKind
  /-- The value is refused, with the wording if there is one. -/
  | refused (message : Option Text)
  /-- The text is no notation. -/
  | misread (mistake : Mistake)
  /-- A node is part of itself. -/
  | endless
  /-- There are more faces than can be stored. -/
  | tooMany
  /-- A number is too great to count or to calculate with. -/
  | tooGreat

/-- The wording for the total of a set. -/
def noSingleTotal : Text :=
  "A RollSet has no single total, see group_totals().".toList

/-- The fault of values that do not add up. -/
def Fault.ofSum : Value.SumFault → Fault
  | .noNumber => .unfit
  | .tooGreat => .tooGreat

/-- The fault of faces that are too many. -/
def Fault.ofExcess : DieSpec.Excess → Fault
  | .unstorable => .tooMany
  | .uncountable => .tooGreat

/-- The fault of something else in the place of a sign. It is told what stands there, which
    has to be written for that. -/
def Fault.ofSign (sign : Value) : Fault :=
  if sign.isWritable then .unknownSign sign else .refused none

/-- The sum of two values. -/
def plus (v w : Value) : Except Fault Value := (v.plus w).mapError Fault.ofSum

/-- The difference of two values. -/
def minus (v w : Value) : Except Fault Value := (v.minus w).mapError Fault.ofSum

/-- What was written. A number with too many digits is refused. -/
def texted : Option Text → Except Fault Text
  | some t => .ok t
  | none => .error (.refused none)

/-- The truth of a comparison, if there is one. -/
def compared : Option Bool → Except Fault Bool
  | some b => .ok b
  | none => .error .unfit

/-- A number that counts something is not below one; otherwise the wording says
    what is missing. -/
def atLeastOne (wording : Text) (v : Value) : Except Fault Unit := do
  if ← compared (v.isBelow? (.int 1)) then .error (.refused (some wording)) else .ok ()

/-- A whole number to count with. Truth values count as numbers. -/
def counted (v : Value) : Except Fault Int :=
  match v.asNumber? with
  | some n => .ok n
  | none => .error .unfit

end Bench

end DiceRoller
