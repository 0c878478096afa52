import DiceRoller.Proofs.Dice.Evaluation
import Mathlib.Data.PNat.Basic

/-!
# Dice within the limits

What the limits of a reader say about the dice that come out. The rolls of a set that
was read are those of a form, and a form holds the bounds of its quantities and of its
numbers of faces, so none of this looks at how a text is read.

The limit for faces is one for numbers of faces. A Fate die is named by a letter, which
no limit is compared with, so its three values come through under a limit of one or two
as well. It is the only die that does.

## Theorems

* `FacesForm.length_distribution`: The values of a die, counted.
* `RollSet.exists_form_of_mem_rolls_of_read`: A roll that was read is a roll of a form
  within the limits.
* `RollSet.within_limits_of_read`: The dice of a set that was read keep to the limits.
* `RollSet.within_limits_of_read_three_dice`: As many dice as the limit says, and as many
  faces.
* `RollSet.exists_read_above_limit`: A Fate die need not.
-/

namespace DiceRoller

variable {maxDice maxFaces : Nat}

/-- A die of a form has no more values than the bound says, unless it is a Fate die and
    the bound is below its three. -/
theorem FacesForm.length_distribution (f : FacesForm maxFaces) :
    f.value.distribution.length ≤ maxFaces ∨ (f.value = .fateDie ∧ maxFaces < 3) := by
  cases f with
  | numbered count _ hle =>
      refine Or.inl ?_
      rw [value, DieSpec.plain, List.length_map, List.length_range]
      exact hle
  | fate =>
      -- Three values are more than the bound allows only if it is below three.
      rcases Nat.lt_or_ge maxFaces 3 with hlt | hge
      · exact Or.inr ⟨rfl, hlt⟩
      · exact Or.inl hge

namespace RollSet

/-- A roll that was read is a roll of a form within the limits. -/
theorem exists_form_of_mem_rolls_of_read {text : Text} {s : RollSet} {r : Roll}
    (h : read (.upTo maxDice maxFaces) text = .ok s) (hr : r ∈ s.rolls) :
    ∃ f : RollForm maxDice maxFaces, f.value = r := by
  rcases exists_form_of_read h with ⟨f, -, rfl⟩
  rw [f.rolls_expressions] at hr
  rcases List.mem_map.mp hr with ⟨g, -, hg⟩
  exact ⟨g, hg⟩

/-- Every roll that was read has at most as many dice as the limit says, and each of its
    dice at most as many values, unless it is a Fate die under a limit below three. -/
theorem within_limits_of_read (dice faces : Option ℕ+) (text : Text) (s : RollSet)
    (h : read (.ofBounds dice faces) text = .ok s) :
    ∀ r ∈ s.rolls, r.dice.length ≤ Limits.bound dice ∧
      ∀ d ∈ r.dice, d.spec.distribution.length ≤ Limits.bound faces ∨
        (d.spec = .fateDie ∧ Limits.bound faces < 3) := by
  intro r hr
  rw [Limits.ofBounds_eq_upTo] at h
  rcases exists_form_of_mem_rolls_of_read h hr with ⟨f, rfl⟩
  refine ⟨?_, fun d hd => ?_⟩
  · rw [Roll.dice, List.length_map]
    exact Nat.le_trans (Nat.le_of_eq f.quantity_value) f.le_max
  · -- All dice of a roll are of its kind.
    rcases List.mem_map.mp hd with ⟨shown, -, rfl⟩
    exact f.faces.length_distribution

-- As many dice as the limit says, and as many faces.
theorem within_limits_of_read_three_dice :
    ∃ (s : RollSet) (r : Roll) (d : Die),
      read (.ofBounds (some 3) (some 6)) ['3', 'd', '6'] = .ok s ∧ r ∈ s.rolls ∧ d ∈ r.dice ∧
        r.dice.length ≤ Limits.bound (some 3) ∧
        (d.spec.distribution.length ≤ Limits.bound (some 6) ∨
          (d.spec = .fateDie ∧ Limits.bound (some 6) < 3)) := by
  have hread : read (.ofBounds (some 3) (some 6)) ['3', 'd', '6']
      = .ok ⟨[⟨[(.plus, .roll (.fresh 3 (.plain 6) []))]⟩], some ['3', 'd', '6']⟩ := by
    decide +kernel
  rcases within_limits_of_read _ _ _ _ hread (.fresh 3 (.plain 6) []) List.mem_cons_self with
    ⟨hdice, hfaces⟩
  exact ⟨_, _, ⟨.plain 6, {}⟩, hread, List.mem_cons_self, List.mem_cons_self, hdice,
    hfaces _ List.mem_cons_self⟩

/-- Not every die keeps to the limit for faces: a Fate die is read under a limit of
    two. -/
theorem exists_read_above_limit :
    ¬ ∀ (dice faces : ℕ+) (text : Text) (s : RollSet),
      read (.ofBounds (some dice) (some faces)) text = .ok s →
        ∀ r ∈ s.rolls, r.dice.length ≤ dice ∧
          ∀ d ∈ r.dice, d.spec.distribution.length ≤ faces := by
  intro hall
  have hread : read (.ofBounds (some 1) (some 2)) ['1', 'd', 'F']
      = .ok ⟨[⟨[(.plus, .roll (.fresh 1 .fateDie []))]⟩], some ['1', 'd', 'F']⟩ := by
    decide +kernel
  -- The one roll that was read has a die with three values, and the limit is two.
  have hle := (hall 1 2 _ _ hread (.fresh 1 .fateDie []) List.mem_cons_self).2
    ⟨.fateDie, {}⟩ List.mem_cons_self
  exact absurd hle (by decide)

end RollSet

end DiceRoller
