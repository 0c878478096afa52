import DiceRoller.Text.Quoted

/-!
# Signed sequences

The parts of an expression are joined by signs. Both ways to read such a sequence
are defined once, for parts of any kind: how it is displayed, and what it adds up
to. A sign is normally a plus or a minus, but an expression that is put together
by hand may hold any text in that place; it is displayed as it is and cannot be
added up.

## Main definitions

* `Sign`: Plus, minus or some other text.
* `Signed.render`: The parts with their signs, without a leading plus.
* `Signed.total`: The signed sum, up to the first sign that is none.
-/

namespace DiceRoller

/-- What stands in front of a term. -/
inductive Sign where
  /-- The term is added. -/
  | plus
  /-- The term is subtracted. -/
  | minus
  /-- A text that is no sign. -/
  | other (text : Text)
deriving DecidableEq

namespace Sign

/-- The sign as it is written. -/
def written : Sign → Text
  | .plus => ['+']
  | .minus => ['-']
  | .other t => t

/-- The wording for something else in the place of a sign, by its description. -/
def unknown (described : Text) : Text := "Unknown operator in expression: ".toList ++ described

end Sign

namespace Signed

/-- Parts behind their signs. -/
def renderRest (parts : List (Sign × Text)) : Text :=
  parts.flatMap fun p => p.1.written ++ p.2

/-- Parts with their signs between them; the first one shows its sign only if it
    is not a plus. -/
def render : List (Sign × Text) → Text
  | [] => []
  | (s, t) :: rest => (if s = .plus then t else s.written ++ t) ++ renderRest rest

/-- Adds the parts to `start` from left to right. A text that is no sign ends the
    sum before its part is looked at; otherwise the first part without a value
    does. -/
def totalFrom {ε : Type} (unknown : Text → ε) (start : Int) :
    List (Sign × Except ε Int) → Except ε Int
  | [] => .ok start
  | (.plus, v) :: rest => do totalFrom unknown (start + (← v)) rest
  | (.minus, v) :: rest => do totalFrom unknown (start - (← v)) rest
  | (.other t, _) :: _ => .error (unknown t)

/-- The signed sum of the parts. -/
def total {ε : Type} (unknown : Text → ε) (parts : List (Sign × Except ε Int)) : Except ε Int :=
  totalFrom unknown 0 parts

end Signed

end DiceRoller
