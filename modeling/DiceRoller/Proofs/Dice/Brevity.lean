import DiceRoller.Proofs.Dice.Standing

/-!
# Numbers that fit into words

What is said of a roll is put together of numbers: how many faces its dice have, how many of
them a selector selects, and what has fallen. Any of these may have too many digits to be
written. A roll is written by its faces and selectors. It is displayed by the values on top
once all dice have been thrown, and until then by what is written for it.

The numbers that a notation can name are short, since it names them by their digits. In a
roll of such numbers, which is called brief, nothing that the dice can show is too long. And
what makes a roll brief is in its kind of dice and its selectors, so that it stays brief
through whatever is done to its dice.

## Main definitions

* `DieSpec.IsSpellable`, `Roll.IsSpellable`: Faces and selectors that can be written.
* `Showing.IsDisplayable`, `Roll.IsDisplayable`, `Term.IsDisplayable`: What can be displayed.
* `Roll.IsNotable`: A roll that can be written and displayed.
* `Roll.IsBrief`, `Term.IsBrief`, `RollSet.IsBrief`: Numbers that can always be written.

## Theorems

* `RollSet.IsBrief.of_mem_rolls`: The rolls of a brief set are brief.
* `Roll.IsBrief.isDisplayable`, `Term.IsBrief.isDisplayable`: What brief rolls and terms
  show can be displayed.
* `Roll.IsBrief.isNotable_throw`: A brief roll can be noted after a throw.
* `Term.isBrief_unthrown`, `RollSet.IsBrief.of_shape`: Brevity is a matter of the shape.
* `DigitRun.isShort`, `RollForm.isBrief_value`: What a notation names is short.
* `FacesForm.isSpellable_value`: The faces that a notation names have short values and can
  be written.
* `RollSet.isBrief_of_read`: A set that was read is brief.
-/

namespace DiceRoller

open Numeral (IsShort)

/-- The faces of the die can be written: they are those of a Fate die, or their number is
    short. -/
def DieSpec.IsSpellable (s : DieSpec) : Prop := s.fate = true ∨ IsShort s.faces

/-- A die of the kind can be displayed: its value is short, or if there is none its faces
    can be written. -/
def Showing.IsDisplayable (kind : DieSpec) (d : Showing) : Prop :=
  d.value.elim kind.IsSpellable IsShort

namespace Roll

/-- The roll can be written. -/
def IsSpellable (r : Roll) : Prop := (∀ s ∈ r.selectors, IsShort s.num) ∧ r.spec.IsSpellable

/-- The roll can be displayed. -/
def IsDisplayable (r : Roll) : Prop :=
  if r.isRolled then ∀ d ∈ r.shown, d.IsDisplayable r.spec else r.IsSpellable

/-- The roll can be noted: it can be written and it can be displayed. -/
def IsNotable (r : Roll) : Prop := r.IsSpellable ∧ r.IsDisplayable

/-- All numbers of the roll are short, those among them that no die shows yet. -/
structure IsBrief (r : Roll) : Prop where
  spellable : r.IsSpellable
  values : ∀ v ∈ r.spec.distribution, IsShort v

end Roll

namespace Term

/-- The term can be displayed. -/
def IsDisplayable : Term → Prop
  | .roll r => r.IsDisplayable
  | .constant n => IsShort n

/-- All numbers of the term are short. -/
def IsBrief : Term → Prop
  | .roll r => r.IsBrief
  | .constant n => IsShort n

end Term

/-- All numbers of the set are short. -/
def RollSet.IsBrief (s : RollSet) : Prop := ∀ e ∈ s.expressions, ∀ p ∈ e.terms, p.2.IsBrief

/-- A roll of a brief set is brief. -/
theorem RollSet.IsBrief.of_mem_rolls {s : RollSet} (h : s.IsBrief) {r : Roll} (hr : r ∈ s.rolls) :
    r.IsBrief := by
  rcases List.mem_flatMap.mp hr with ⟨e, he, hr⟩
  rcases List.mem_filterMap.mp hr with ⟨⟨sign, t⟩, hp, hroll⟩
  have hbrief := h e he _ hp
  cases t with
  | roll r' =>
      cases hroll
      exact hbrief
  | constant n => cases hroll

section Decidable

variable (kind : DieSpec) (d : Showing) (r : Roll)

instance : Decidable kind.IsSpellable := inferInstanceAs (Decidable (_ ∨ _))

instance : Decidable (d.IsDisplayable kind) :=
  match hv : d.value with
  | none => decidable_of_iff kind.IsSpellable (by rw [Showing.IsDisplayable, hv]; rfl)
  | some v => decidable_of_iff (IsShort v) (by rw [Showing.IsDisplayable, hv]; rfl)

instance : Decidable r.IsSpellable := inferInstanceAs (Decidable (_ ∧ _))

instance : Decidable r.IsDisplayable := inferInstanceAs (Decidable (ite _ _ _))

instance : Decidable r.IsNotable := inferInstanceAs (Decidable (_ ∧ _))

end Decidable

section Shows

variable {strict : Prop} {r : Roll}

/-- What the dice of a brief roll can show can be displayed. -/
theorem Roll.IsBrief.isDisplayable (h : r.IsBrief)
    (hsound : ∀ d ∈ r.shown, d.IsSound strict r.spec) : r.IsDisplayable := by
  rw [IsDisplayable]
  split
  · intro d hd
    -- A die without a value displays its kind, any other die the value.
    rw [Showing.IsDisplayable]
    rcases hv : d.value with _ | v
    · exact h.spellable.2
    · exact h.values v ((hsound d hd).value v hv)
  · exact h.spellable

/-- What a brief term can show can be displayed. -/
theorem Term.IsBrief.isDisplayable {t : Term} (h : t.IsBrief)
    (hsound : ∀ r, t.roll? = some r → ∀ d ∈ r.shown, d.IsSound strict r.spec) :
    t.IsDisplayable := by
  cases t with
  | roll r => exact Roll.IsBrief.isDisplayable h (hsound r rfl)
  | constant n => exact h

/-- A brief roll that was thrown can be noted. The throw leaves its faces and selectors as
    they are, and shows values that stand on the faces. -/
theorem Roll.IsBrief.isNotable_throw (h : r.IsBrief) (draws : Draws) :
    (r.throw draws).1.IsNotable :=
  ⟨h.spellable, isDisplayable ⟨h.spellable, h.values⟩ (r.isSound_throw True draws)⟩

end Shows

section Shape

/-- Whether a term is brief does not depend on what its dice show. -/
theorem Term.isBrief_unthrown (t : Term) : t.unthrown.IsBrief ↔ t.IsBrief := by
  cases t with
  | roll r => exact ⟨fun h => ⟨h.spellable, h.values⟩, fun h => ⟨h.spellable, h.values⟩⟩
  | constant n => exact Iff.rfl

/-- Whether a set is brief is a matter of its shape. -/
theorem RollSet.IsBrief.of_shape {s t : RollSet} (h : s.IsBrief)
    (hshape : t.expressions.map Expression.unthrown = s.expressions.map Expression.unthrown) :
    t.IsBrief := by
  intro e he p hp
  have hmem : e.unthrown ∈ s.expressions.map Expression.unthrown :=
    hshape ▸ List.mem_map_of_mem he
  rcases List.mem_map.mp hmem with ⟨e', he', heq⟩
  have hterm : (p.1, p.2.unthrown) ∈ e'.unthrown.terms := by
    rw [heq]
    exact List.mem_map_of_mem (f := fun p : Sign × Term => (p.1, p.2.unthrown)) hp
  rcases List.mem_map.mp hterm with ⟨p', hp', heq'⟩
  rw [← Term.isBrief_unthrown, ← (Prod.mk.inj heq').2, Term.isBrief_unthrown]
  exact h e' he' p' hp'

end Shape

section Read

theorem DigitRun.isShort (d : DigitRun) : IsShort d.value := d.value_lt

variable {maxDice maxFaces : Nat}

/-- The faces that a notation names have short values and can be written. -/
theorem FacesForm.isSpellable_value (f : FacesForm maxFaces) :
    f.value.IsSpellable ∧ ∀ v ∈ f.value.distribution, IsShort v := by
  cases f with
  | fate => exact ⟨.inl rfl, fun v hv => Numeral.isShort_of_le ((by decide :
      ∀ v ∈ DieSpec.fateDie.distribution, v.natAbs ≤ 10000) v hv)⟩
  | numbered d pos le few =>
      -- A value on a numbered die is no greater than the number of its faces, which was read.
      refine ⟨.inr d.isShort, fun v hv => ?_⟩
      rcases List.mem_map.mp hv with ⟨k, hk, rfl⟩
      have hlt := List.mem_range.mp hk
      exact d.isShort.mono (by omega)

/-- The rolls that a notation names are brief. -/
theorem RollForm.isBrief_value (f : RollForm maxDice maxFaces) : f.value.IsBrief := by
  rcases f.faces.isSpellable_value with ⟨hspec, hvalues⟩
  refine ⟨⟨fun s hs => ?_, hspec⟩, hvalues⟩
  rcases List.mem_map.mp hs with ⟨g, -, rfl⟩
  exact g.count.isShort

/-- A set that was read is brief. -/
theorem RollSet.isBrief_of_read {text : Text} {s : RollSet}
    (h : RollSet.read (.upTo maxDice maxFaces) text = .ok s) : s.IsBrief := by
  rcases RollSet.exists_form_of_read h with ⟨f, -, rfl⟩
  intro e he p hp
  rcases List.mem_map.mp he with ⟨g, -, rfl⟩
  rcases ExpressionForm.exists_form_of_mem_terms hp with ⟨k, hk⟩
  cases k with
  | constant d =>
      rw [hk]
      exact d.isShort
  | roll f =>
      rw [hk]
      exact f.isBrief_value

end Read

end DiceRoller
