import DiceRoller.Text.Blank
import Mathlib.Data.List.TakeWhile

/-!
# Trimming

What becomes of a text without the blanks at its ends. Blanks that are added at an end are
trimmed again, and what is trimmed is blank. So a text is its trimmed one between blanks, and
trimming it a second time changes nothing.

## Theorems

* `Text.trimEnd_append`: Blanks behind a text are trimmed with those at its end.
* `Text.trim_append`, `Text.trim_blanks_append`: Blanks at the ends are trimmed.
* `Text.trimEnd_concat_append`: Only the blanks behind the last character that is none are
  trimmed at the end.
* `Text.exists_trimEnd`, `Text.exists_trim`: What is trimmed is blank.
* `Text.isBlank_getLast_trimEnd`: The last character that is left is no blank.
* `Text.trim_trim`, `Text.trim_eq_self`: Where nothing is left to be trimmed.
* `Text.trim_eq_self_of_forall`: A text without blanks stays as it is.
* `Text.trimEnd_subset`: Trimming adds nothing.
* `Text.trim_subset`: What is trimmed was there.
-/

namespace DiceRoller

namespace Text

/-- Blanks behind a text are trimmed with those at its end. -/
theorem trimEnd_append {t blanks : Text} (h : ∀ c ∈ blanks, isBlank c = true) :
    (t ++ blanks).trimEnd = t.trimEnd := by
  rw [trimEnd, dropEndWhile, List.reverse_append, List.dropWhile_append_of_pos, trimEnd,
    dropEndWhile]
  exact fun c hc => h c (List.mem_reverse.mp hc)

theorem trim_blanks_append {blanks : Text} (h : ∀ c ∈ blanks, isBlank c = true) (t : Text) :
    (blanks ++ t).trim = t.trim := by
  rw [trim, trimStart, List.dropWhile_append_of_pos h, trim, trimStart]

/-- Blanks behind a text are trimmed, also if the text is nothing but blanks itself. -/
theorem trim_append {t blanks : Text} (h : ∀ c ∈ blanks, isBlank c = true) :
    (t ++ blanks).trim = t.trim := by
  rw [trim, trimStart, List.dropWhile_append, trim]
  split
  · -- A blank text has nothing left on either side.
    rename_i hempty
    rw [List.dropWhile_eq_nil_iff.mpr h, trimStart, List.isEmpty_iff.mp hempty]
  · exact trimEnd_append h

/-- Only the blanks behind the last character that is none are trimmed at the end. -/
theorem trimEnd_concat_append {c : Char} (hc : isBlank c = false) (front : Text) {blanks : Text}
    (h : ∀ c ∈ blanks, isBlank c = true) : (front ++ c :: blanks).trimEnd = front ++ [c] := by
  have hline : front ++ c :: blanks = (front ++ [c]) ++ blanks := by
    rw [List.append_assoc]
    rfl
  have hlast : (c :: front.reverse).dropWhile isBlank = c :: front.reverse :=
    List.dropWhile_cons_of_neg (by rw [hc]; exact Bool.false_ne_true)
  rw [hline, trimEnd_append h, trimEnd, dropEndWhile, List.reverse_append, List.reverse_singleton,
    List.singleton_append, hlast, List.reverse_cons, List.reverse_reverse]

/-- What is trimmed at the end is blank. -/
theorem exists_trimEnd (t : Text) :
    ∃ blanks : Text, (∀ c ∈ blanks, isBlank c = true) ∧ t = t.trimEnd ++ blanks := by
  -- What is trimmed are the blanks that the reversed text begins with.
  refine ⟨(t.reverse.takeWhile isBlank).reverse, fun c hc => ?_, ?_⟩
  · exact List.mem_takeWhile_imp (List.mem_reverse.mp hc)
  · rw [trimEnd, dropEndWhile, ← List.reverse_append, List.takeWhile_append_dropWhile,
      List.reverse_reverse]

/-- A text is its trimmed one between blanks. -/
theorem exists_trim (t : Text) :
    ∃ front back : Text, (∀ c ∈ front, isBlank c = true) ∧ (∀ c ∈ back, isBlank c = true) ∧
      t = front ++ (t.trim ++ back) := by
  rcases exists_trimEnd t.trimStart with ⟨back, hback, htrim⟩
  refine ⟨t.takeWhile isBlank, back, fun c hc => List.mem_takeWhile_imp hc, hback, ?_⟩
  rw [trim, ← htrim, trimStart, List.takeWhile_append_dropWhile]

/-- The last character that is left is no blank. -/
theorem isBlank_getLast_trimEnd (t : Text) : ∀ c ∈ t.trimEnd.getLast?, isBlank c = false := by
  intro c hc
  have hfirst := List.head?_dropWhile_not isBlank t.reverse
  rw [trimEnd, dropEndWhile, List.getLast?_reverse] at hc
  rw [Option.mem_def.mp hc] at hfirst
  exact hfirst

theorem trim_trim (t : Text) : t.trim.trim = t.trim := by
  -- The text is its trimmed one between blanks, and blanks at the ends do not matter.
  rcases exists_trim t with ⟨front, back, hfront, hback, ht⟩
  rw [← trim_append hback, ← trim_blanks_append hfront, ← ht]

/-- A text that neither begins nor ends in a blank stays as it is. -/
theorem trim_eq_self {t : Text} (hfirst : ∀ c ∈ t.head?, isBlank c = false)
    (hlast : ∀ c ∈ t.getLast?, isBlank c = false) : t.trim = t := by
  -- Dropping stops at once on both sides.
  have hkeep : ∀ u : Text, (∀ c ∈ u.head?, isBlank c = false) → u.dropWhile isBlank = u := by
    intro u hu
    rcases u with _ | ⟨c, u⟩
    · rfl
    · exact List.dropWhile_cons_of_neg (by rw [hu c rfl]; exact Bool.false_ne_true)
  rw [← List.head?_reverse] at hlast
  rw [trim, trimStart, hkeep t hfirst, trimEnd, dropEndWhile, hkeep t.reverse hlast,
    List.reverse_reverse]

theorem trim_eq_self_of_forall {t : Text} (h : ∀ c ∈ t, isBlank c = false) : t.trim = t :=
  trim_eq_self (fun c hc => h c (List.mem_of_head? hc)) fun c hc => h c (List.mem_of_getLast? hc)

theorem trimEnd_subset (t : Text) : t.trimEnd ⊆ t := by
  rcases exists_trimEnd t with ⟨blanks, -, ht⟩
  intro c hc
  rw [ht]
  exact List.mem_append_left _ hc

/-- What is trimmed was there. -/
theorem trim_subset (t : Text) : t.trim ⊆ t := by
  rcases exists_trim t with ⟨front, back, -, -, ht⟩
  intro c hc
  rw [ht]
  exact List.mem_append_right _ (List.mem_append_left _ hc)

end Text

end DiceRoller
