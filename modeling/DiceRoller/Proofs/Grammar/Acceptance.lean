import DiceRoller.Proofs.Grammar.Origin
import DiceRoller.Proofs.Grammar.Uniqueness

/-!
# Which texts are notations

Reading put beside the grammar. A text is read exactly if a form has it, the set is
what the form means, two forms of one text differ only in blanks, and every other
text is refused. The limits are given as a caller gives them: each is absent, or a
positive number.

What the other texts are refused for is a mistake in them, with one exception. A limit
for faces may be so high that a die within it has more faces than there can be values
for. Such a text has no form either, but its author is not told of a mistake.

## Theorems

* `RollSet.read_iff_exists_form`: Reading accepts the grammar, and means what it means.
* `RollSet.exists_excess_of_countless_faces`: A die within its limit that is no mistake
  and is not read.
-/

namespace DiceRoller

/-- A text is read exactly if it is the text of a form, and then as what the form
    means. There is only one form of a text, blanks apart. A text without a form is
    refused for a mistake in it, never for its limits, or for a number of faces within
    its limit that has too many values to store or to count. -/
theorem RollSet.read_iff_exists_form (dice faces : Option ℕ+) (text : Text) :
    (∀ s : RollSet, RollSet.read (.ofBounds dice faces) text = .ok s ↔
      ∃ f : NotationForm (Limits.bound dice) (Limits.bound faces),
        f.text = text ∧ s = ⟨f.expressions, some text.trim⟩) ∧
    (∀ f g : NotationForm (Limits.bound dice) (Limits.bound faces),
      f.text = text → g.text = text → f.parts = g.parts) ∧
    ((¬ ∃ f : NotationForm (Limits.bound dice) (Limits.bound faces), f.text = text) →
      ∃ m : Mistake, RollSet.read (.ofBounds dice faces) text = .error m ∧
        (m.fault.isMistake = true ∨ m.IsExcess (Limits.bound faces))) := by
  rw [Limits.ofBounds_eq_upTo]
  refine ⟨fun s => ⟨RollSet.exists_form_of_read, ?_⟩, ?_, fun hnone => ?_⟩
  · rintro ⟨f, rfl, rfl⟩
    exact RollSet.read_text f
  · intro f g hf hg
    exact NotationForm.parts_eq_of_text (hf.trans hg.symm)
  · -- What is read has a form, so a text without one is refused.
    rcases hr : RollSet.read (.upTo (Limits.bound dice) (Limits.bound faces)) text with m | s
    · exact ⟨m, rfl, RollSet.isMistake_or_isExcess_of_read hr⟩
    · rcases RollSet.exists_form_of_read hr with ⟨f, hf, -⟩
      exact absurd ⟨f, hf⟩ hnone

-- One die with one face more than can be counted, under a limit that allows just as many.
theorem RollSet.exists_excess_of_countless_faces :
    ∃ quantity faces : DigitRun,
      quantity.digits ++ 'd' :: faces.digits = "1d9223372036854775808".toList ∧
        1 ≤ quantity.value ∧ quantity.value ≤ Limits.bound none ∧
        1 ≤ faces.value ∧ faces.value ≤ Limits.bound (some ⟨9223372036854775808, by decide⟩) ∧
        ∃ m, RollSet.read (.ofBounds none (some ⟨9223372036854775808, by decide⟩))
            "1d9223372036854775808".toList = .error m ∧
          m.fault = .excess .uncountable ∧ m.fault.isMistake = false := by
  have hread : RollSet.read (.ofBounds none (some ⟨9223372036854775808, by decide⟩))
      "1d9223372036854775808".toList
      = .error ⟨.excess .uncountable, "1d9223372036854775808".toList, 2,
        "9223372036854775808".toList⟩ := by
    decide +kernel
  exact ⟨⟨['1'], by decide, List.all_eq_true.mp rfl, by decide⟩,
    ⟨"9223372036854775808".toList, by decide, List.all_eq_true.mp rfl, by decide⟩, by decide,
    by decide, by decide, by decide, by decide, _, hread, rfl, rfl⟩

end DiceRoller
