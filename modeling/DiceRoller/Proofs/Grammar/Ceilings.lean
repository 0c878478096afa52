import DiceRoller.Command
import DiceRoller.Proofs.Grammar.Form
import Mathlib.Data.PNat.Notation

/-!
# Limits that a caller gives

A caller gives each limit as a positive number, or leaves it out. Reading looks at a
ceiling instead, which a setting may fill with anything. Here the two meet: an optional
bound is a value that is turned into a ceiling, and the ceiling is always that of a
number. So whatever is said about reading under a number for each limit holds under the
limits of a caller.

## Main definitions

* `Limits.bound`: The number that an optional limit stands at.
* `Limits.ofBounds`: The limits that two optional bounds set.

## Theorems

* `Limits.ceilingOf_given`: An optional bound is a ceiling at a number.
* `Limits.ofBounds_eq_upTo`: Optional bounds set limits at numbers.
-/

namespace DiceRoller

namespace Limits

/-- The number that an optional limit stands at. -/
def bound (limit : Option ℕ+) : Nat := limit.elim 10000 PNat.val

/-- The value by which a caller gives an optional limit. -/
def given (limit : Option ℕ+) : Value := limit.elim .null fun n => .int n.val

/-- The limits that optional bounds for dice and faces set. -/
def ofBounds (dice faces : Option ℕ+) : Limits :=
  ⟨ceilingOf (given dice), ceilingOf (given faces)⟩

/-- Only a value that counts as absent is passed over for the common bound, and a
    positive number does not. -/
theorem ceilingOf_given (limit : Option ℕ+) : ceilingOf (given limit) = .ofInt (bound limit) := by
  rcases limit with _ | n
  · rfl
  · have hpos : 0 < n.val := n.property
    have hv : (Value.int n.val).isVacant = false := by
      simp only [Value.isVacant, beq_eq_false_iff_ne]
      omega
    rw [ceilingOf, show given (some n) = .int n.val from rfl, if_neg (by rw [hv]; decide)]
    rfl

/-- Optional bounds set limits at numbers. -/
theorem ofBounds_eq_upTo (dice faces : Option ℕ+) :
    ofBounds dice faces = upTo (bound dice) (bound faces) := by
  rw [ofBounds, ceilingOf_given, ceilingOf_given, upTo]

end Limits

end DiceRoller
