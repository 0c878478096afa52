import DiceRoller.Proofs.Grammar.Acceptance
import DiceRoller.Proofs.Grammar.Writable
import DiceRoller.Proofs.Text.Trimming
import Mathlib.Data.List.Basic

/-!
# Blanks at the ends of a text

Blanks in front of a notation can be counted to its margin, and blanks behind it to its
end, so the text with more of them has a form with the same expressions. Trimming takes
them off again, and the set keeps the same text.

There is one end that does not take all blanks. Behind a last separator a notation may
have ASCII blanks only, while behind a last expression it may have blanks of any kind.
Which end a notation has can be seen from its text: without its blanks it ends in a
semicolon, or in a digit or the letter of a Fate die. So the blanks that may be added
behind a notation are known from its text and from the blanks, and with any others
behind it the text is refused.

Blanks may be taken away at either end, whatever they are. A notation without them is one
with the same expressions, so the text that a set keeps is read as that set.

## Main definitions

* `Text.EndsInSeparator`: A text whose last character is a semicolon, blanks apart.
* `Text.EndsInTerm`: A text whose last character is one with which a term may end.
* `NotationForm.trimmed`: A notation without blanks at its ends.

## Theorems

* `Text.EndsInTerm.append`: How a text ends does not depend on what stands in front of it.
* `Text.EndsInTerm.flatMap_append`: More parts that end so may follow a text that does.
* `Text.suffix_of_append_eq`: A text without a character stands behind the last place
  where that character does.
* `DigitRun.endsInTerm`: The last digit of a run is neither a blank nor a semicolon.
* `SelectorForm.endsInTerm`: A selector ends in a digit.
* `FacesForm.endsInTerm`: Faces end in a digit or in the letter of a Fate die.
* `TermForm.endsInTerm`, `ExpressionForm.endsInTerm`: How terms and expressions end.
* `NotationForm.exists_front`: What stands before the end of a form ends in the last term,
  whatever the end is.
* `NotationForm.exists_endsInTerm`: A notation is a text that ends in a term, and its end.
* `NotationForm.endsInSeparator_iff`: The end of a form is seen from its text.
* `EndForm.trimEnd_append`: Of the end of a notation no more is trimmed than blanks behind
  it.
* `NotationForm.expressions_trimmed`: Trimming takes no expression away.
* `NotationForm.trim_text`, `RollSet.read_trim`: A notation that is trimmed is read as the
  same set.
* `RollSet.read_blanks_append`: Blanks in front of a notation are counted to its margin.
* `RollSet.read_append_blanks`, `RollSet.isSpace_of_read_append`: Which blanks may stand
  behind a notation.
* `RollSet.read_between_blanks`: A notation between blanks is read as without them.
* `RollSet.read_between_blanks_of_separator`: Two ASCII blanks around a notation that ends
  in a separator.
* `RollSet.exists_read_not_read_append_blank`: Not with every blank behind it.
-/

namespace DiceRoller

namespace Text

/-- Without the blanks at its end the text ends in a semicolon. -/
def EndsInSeparator (t : Text) : Prop := t.trimEnd.getLast? = some ';'

/-- The text ends in a character that is neither a blank nor a semicolon, as a term
    does. -/
def EndsInTerm (t : Text) : Prop := ∃ front c, t = front ++ [c] ∧ isBlank c = false ∧ c ≠ ';'

/-- How a text ends does not depend on what stands in front of it. -/
theorem EndsInTerm.append {t : Text} (h : EndsInTerm t) (front : Text) :
    EndsInTerm (front ++ t) := by
  rcases h with ⟨front', c, rfl, hc⟩
  exact ⟨front ++ front', c, (List.append_assoc _ _ _).symm, hc⟩

/-- More parts that end so may follow a text that does. -/
theorem EndsInTerm.flatMap_append {α : Type} {t : Text} (h : EndsInTerm t) {part : α → Text}
    (hpart : ∀ x, EndsInTerm (part x)) (xs : List α) : EndsInTerm (t ++ xs.flatMap part) := by
  rcases List.eq_nil_or_concat' xs with rfl | ⟨front, x, rfl⟩
  · rw [List.flatMap_nil, List.append_nil]
    exact h
  · rw [List.flatMap_append, List.flatMap_singleton]
    exact ((hpart x).append _).append _

/-- A text without a character stands behind the last place where that character does. -/
theorem suffix_of_append_eq {c : Char} {front front' t tail : Text}
    (h : front ++ t = front' ++ c :: tail) (hc : c ∉ t) : t <:+ tail := by
  have htail : c :: tail <:+ front' ++ c :: tail := List.suffix_append _ _
  -- Both are ends of one text, so the shorter one is an end of the longer one.
  rcases Nat.lt_or_ge tail.length t.length with hlt | hge
  · have hsuffix : c :: tail <:+ t := List.suffix_of_suffix_length_le htail ⟨front, h⟩ hlt
    exact absurd (hsuffix.subset List.mem_cons_self) hc
  · exact List.suffix_of_suffix_length_le ⟨front, h⟩ ((List.suffix_cons _ _).trans htail) hge

end Text

open Text

/-- The last digit of a run is neither a blank nor a semicolon. -/
theorem DigitRun.endsInTerm (r : DigitRun) : r.digits.EndsInTerm := by
  rcases List.eq_nil_or_concat' r.digits with hnil | ⟨front, c, hdigits⟩
  · exact absurd hnil r.ne_nil
  · have hc : Numeral.isDigit c = true := r.isDigit c (by
      rw [hdigits]
      exact List.mem_append_right _ List.mem_cons_self)
    refine ⟨front, c, hdigits, isBlank_of_isDigit hc, ?_⟩
    rintro rfl
    exact absurd hc (by decide)

theorem SelectorForm.endsInTerm (f : SelectorForm) : f.text.EndsInTerm :=
  f.count.endsInTerm.append [_, _]

variable {maxDice maxFaces : Nat}

theorem FacesForm.endsInTerm (f : FacesForm maxFaces) : f.text.EndsInTerm := by
  cases f with
  | numbered count => exact count.endsInTerm
  | fate => exact ⟨[], 'F', rfl, rfl, by decide⟩

/-- A roll ends in its last selector, or in its faces if it has none. -/
theorem TermForm.endsInTerm (f : TermForm maxDice maxFaces) : f.text.EndsInTerm := by
  cases f with
  | constant n => exact n.endsInTerm
  | roll r =>
      have htail := r.faces.endsInTerm.flatMap_append SelectorForm.endsInTerm r.selectors
      exact (htail.append ['d']).append r.quantity.digits

theorem ExpressionForm.endsInTerm (f : ExpressionForm maxDice maxFaces) : f.text.EndsInTerm :=
  (f.first.endsInTerm.flatMap_append (fun p => p.2.endsInTerm.append p.1.text) f.more).append _

namespace NotationForm

/-- What stands before the end of a form ends in the last term, whatever the end is. -/
theorem exists_front (f : NotationForm maxDice maxFaces) :
    ∃ front : Text, front.EndsInTerm ∧
      ∀ ending, text { f with ending := ending } = front ++ ending.text := by
  have hfront := f.first.endsInTerm.flatMap_append
    (fun p : SeparatorForm × ExpressionForm maxDice maxFaces => p.2.endsInTerm.append p.1.text)
    f.more
  refine ⟨_, hfront.append f.margin.text, fun ending => ?_⟩
  rw [text, moreText, List.append_assoc, List.append_assoc]

theorem exists_endsInTerm (f : NotationForm maxDice maxFaces) :
    ∃ front : Text, f.text = front ++ f.ending.text ∧ front.EndsInTerm := by
  rcases f.exists_front with ⟨front, hterm, htext⟩
  exact ⟨front, htext f.ending, hterm⟩

/-- Whether a notation ends in a separator is seen from its text. -/
theorem endsInSeparator_iff (f : NotationForm maxDice maxFaces) :
    f.text.EndsInSeparator ↔ ∃ s : SeparatorForm, f.ending = .separator s := by
  rcases f.exists_endsInTerm with ⟨front, htext, last, c, rfl, hblank, hc⟩
  rw [EndsInSeparator, htext]
  cases hending : f.ending with
  | blanks b =>
      -- Behind a term only blanks are trimmed, and the term does not end in a semicolon.
      have htrim := trimEnd_concat_append hblank last b.isBlank
      rw [EndForm.text, List.append_assoc, List.singleton_append, htrim, List.getLast?_concat]
      constructor
      · exact fun h => absurd (Option.some.inj h) hc
      · rintro ⟨s, hs⟩
        exact absurd hs (by simp only [reduceCtorEq, not_false_eq_true])
  | separator s =>
      have htrim := trimEnd_concat_append (rfl : isBlank ';' = false)
        (last ++ [c] ++ s.before.text) fun c hc => isBlank_of_isSpace (s.after.isSpace c hc)
      rw [EndForm.text, SeparatorForm.text, ← List.append_assoc, htrim, List.getLast?_concat]
      exact ⟨fun _ => ⟨s, rfl⟩, fun _ => rfl⟩

end NotationForm

/-- The end without blanks behind it. -/
def EndForm.trimmed : EndForm → EndForm
  | blanks _ => blanks .empty
  | separator s => separator { s with after := .empty }

/-- Of the end of a notation no more is trimmed than blanks behind it. -/
theorem EndForm.trimEnd_append {front : Text} (h : front.EndsInTerm) (e : EndForm) :
    (front ++ e.text).trimEnd = front ++ e.trimmed.text := by
  rcases h with ⟨last, c, rfl, hblank, -⟩
  cases e with
  | blanks b =>
      rw [text, List.append_assoc, List.singleton_append,
        trimEnd_concat_append hblank last b.isBlank]
      exact (List.append_nil _).symm
  | separator s =>
      have htrim := trimEnd_concat_append (rfl : isBlank ';' = false)
        (last ++ [c] ++ s.before.text) fun c hc => isBlank_of_isSpace (s.after.isSpace c hc)
      rw [text, SeparatorForm.text, ← List.append_assoc, htrim, List.append_assoc]
      rfl

namespace NotationForm

/-- The notation without blanks at its ends. A sign in front of it may have had some. -/
def trimmed (f : NotationForm maxDice maxFaces) : NotationForm maxDice maxFaces :=
  ⟨.empty, f.first.flush, f.more, f.ending.trimmed⟩

theorem expressions_trimmed (f : NotationForm maxDice maxFaces) :
    f.trimmed.expressions = f.expressions := by
  rw [expressions, forms, List.map_cons, trimmed, f.first.value_flush]
  rfl

/-- Trimming the text of a notation gives the text of the notation without blanks at its ends.
    -/
theorem trim_text (f : NotationForm maxDice maxFaces) : f.text.trim = f.trimmed.text := by
  rcases exists_front { f with margin := .empty, first := f.first.flush } with
    ⟨front, hterm, htext⟩
  have hstart : f.text.trimStart = front ++ f.ending.text := by
    rw [f.trimStart_text]
    exact htext f.ending
  rw [trim, hstart, f.ending.trimEnd_append hterm]
  exact (htext f.ending.trimmed).symm

end NotationForm

namespace RollSet

/-- A notation without blanks at its ends is read as the same set. -/
theorem read_trim {text : Text} {s : RollSet}
    (h : read (.upTo maxDice maxFaces) text = .ok s) :
    read (.upTo maxDice maxFaces) text.trim = .ok s := by
  rcases exists_form_of_read h with ⟨f, rfl, rfl⟩
  have hread := read_text f.trimmed
  rw [f.expressions_trimmed, ← f.trim_text, trim_trim] at hread
  exact hread

/-- Blanks in front of a notation are counted to its margin. -/
theorem read_blanks_append {text blanks : Text} {s : RollSet}
    (hblank : ∀ c ∈ blanks, isBlank c = true)
    (h : read (.upTo maxDice maxFaces) text = .ok s) :
    read (.upTo maxDice maxFaces) (blanks ++ text) = .ok s := by
  rcases exists_form_of_read h with ⟨f, rfl, rfl⟩
  have hmargin : ∀ c ∈ blanks ++ f.margin.text, isBlank c = true := by
    intro c hc
    rcases List.mem_append.mp hc with hc | hc
    · exact hblank c hc
    · exact f.margin.isBlank c hc
  have hread := read_text { f with margin := ⟨_, hmargin⟩ }
  have htext : NotationForm.text { f with margin := ⟨_, hmargin⟩ } = blanks ++ f.text := by
    rw [NotationForm.text, NotationForm.text, List.append_assoc]
  rw [htext, trim_blanks_append hblank] at hread
  exact hread

/-- Blanks behind a notation are counted to its end, which takes ASCII blanks only if it
    is a separator. -/
theorem read_append_blanks {text blanks : Text} {s : RollSet}
    (hblank : ∀ c ∈ blanks, isBlank c = true)
    (hspace : text.EndsInSeparator → ∀ c ∈ blanks, isSpace c = true)
    (h : read (.upTo maxDice maxFaces) text = .ok s) :
    read (.upTo maxDice maxFaces) (text ++ blanks) = .ok s := by
  rcases exists_form_of_read h with ⟨f, rfl, rfl⟩
  -- The blanks become a part of the end, which has to be able to hold them.
  have hending : ∃ e : EndForm, e.text = f.ending.text ++ blanks := by
    cases hend : f.ending with
    | blanks b =>
        refine ⟨.blanks ⟨b.text ++ blanks, fun c hc => ?_⟩, rfl⟩
        rcases List.mem_append.mp hc with hc | hc
        · exact b.isBlank c hc
        · exact hblank c hc
    | separator g =>
        refine ⟨.separator ⟨g.before, ⟨g.after.text ++ blanks, fun c hc => ?_⟩⟩, ?_⟩
        · rcases List.mem_append.mp hc with hc | hc
          · exact g.after.isSpace c hc
          · exact hspace (f.endsInSeparator_iff.mpr ⟨g, hend⟩) c hc
        · simp only [EndForm.text, SeparatorForm.text, List.append_assoc, List.cons_append]
  rcases hending with ⟨e, he⟩
  have hread := read_text { f with ending := e }
  have htext : NotationForm.text { f with ending := e } = f.text ++ blanks := by
    simp only [NotationForm.text, NotationForm.moreText, he, List.append_assoc]
  rw [htext, trim_append hblank] at hread
  exact hread

/-- Behind a last separator there are only ASCII blanks. -/
theorem isSpace_of_read_append {text blanks : Text} {s : RollSet}
    (hblank : ∀ c ∈ blanks, isBlank c = true) (hsep : text.EndsInSeparator)
    (h : read (.upTo maxDice maxFaces) (text ++ blanks) = .ok s) :
    ∀ c ∈ blanks, isSpace c = true := by
  rcases exists_form_of_read h with ⟨f, hf, -⟩
  -- The text with the blanks ends in a separator as well.
  have hsep' : f.text.EndsInSeparator := by
    rw [hf, EndsInSeparator, trimEnd_append hblank]
    exact hsep
  rcases f.endsInSeparator_iff.mp hsep' with ⟨g, hending⟩
  rcases f.exists_endsInTerm with ⟨front, htext, -⟩
  rw [hf, hending, EndForm.text, SeparatorForm.text, ← List.append_assoc] at htext
  -- The blanks hold no semicolon, so they stand behind that of the separator.
  have hsemicolon : ';' ∉ blanks := fun hmem => absurd (hblank ';' hmem) (by decide)
  have hsuffix := suffix_of_append_eq htext hsemicolon
  exact fun c hc => g.after.isSpace c (hsuffix.subset hc)

/-- A notation with blanks in front of it is read as the same set. So is one with blanks
    behind it, except that a text that ends in a separator may be followed by ASCII
    blanks only; with others behind it, it is not read at all. -/
theorem read_between_blanks (dice faces : Option ℕ+) (text blanks : Text) (s : RollSet)
    (hblank : ∀ c ∈ blanks, isBlank c = true)
    (h : read (.ofBounds dice faces) text = .ok s) :
    read (.ofBounds dice faces) (blanks ++ text) = .ok s ∧
      ∀ t : RollSet, read (.ofBounds dice faces) (text ++ blanks) = .ok t ↔
        t = s ∧ (text.EndsInSeparator → ∀ c ∈ blanks, isSpace c = true) := by
  rw [Limits.ofBounds_eq_upTo] at h ⊢
  refine ⟨read_blanks_append hblank h, fun t => ⟨fun ht => ?_, ?_⟩⟩
  · have hspace : text.EndsInSeparator → ∀ c ∈ blanks, isSpace c = true :=
      fun hsep => isSpace_of_read_append hblank hsep ht
    rw [read_append_blanks hblank hspace h] at ht
    exact ⟨(Except.ok.inj ht).symm, hspace⟩
  · rintro ⟨rfl, hspace⟩
    exact read_append_blanks hblank hspace h

-- Two ASCII blanks around a notation that ends in a separator.
theorem read_between_blanks_of_separator :
    ∃ s : RollSet, read (.ofBounds none none) ['1', 'd', '4', ';'] = .ok s ∧
      (∀ c ∈ [' ', '\t'], isBlank c = true) ∧
      read (.ofBounds none none) [' ', '\t', '1', 'd', '4', ';'] = .ok s ∧
      read (.ofBounds none none) ['1', 'd', '4', ';', ' ', '\t'] = .ok s := by
  have hread : read (.ofBounds none none) ['1', 'd', '4', ';']
      = .ok ⟨[⟨[(.plus, .roll (.fresh 1 (.plain 4) []))]⟩], some ['1', 'd', '4', ';']⟩ := by
    decide +kernel
  have hblank : ∀ c ∈ [' ', '\t'], isBlank c = true := List.all_eq_true.mp rfl
  rcases read_between_blanks none none _ _ _ hblank hread with ⟨hfront, hbehind⟩
  exact ⟨_, hread, hblank, hfront, (hbehind _).mpr ⟨rfl, fun _ => List.all_eq_true.mp rfl⟩⟩

/-- A notation that is read need not be read with every blank behind it: a no-break
    space is trimmed at the end, but not skipped behind a separator. -/
theorem exists_read_not_read_append_blank :
    ¬ ∀ (text blanks : Text) (s : RollSet), (∀ c ∈ blanks, isBlank c = true) →
      read (.ofBounds none none) text = .ok s →
        ∃ t : RollSet, read (.ofBounds none none) (text ++ blanks) = .ok t := by
  intro hall
  have hread : read (.ofBounds none none) ['1', 'd', '2', '0', ';']
      = .ok ⟨[⟨[(.plus, .roll (.fresh 1 (.plain 20) []))]⟩], some ['1', 'd', '2', '0', ';']⟩ := by
    decide +kernel
  have hrefused : read (.ofBounds none none) ['1', 'd', '2', '0', ';', '\u00a0']
      = .error ⟨.noTerm, ['1', 'd', '2', '0', ';', '\u00a0'], 5, ['\u00a0']⟩ := by
    decide +kernel
  rcases hall _ ['\u00a0'] _ (List.all_eq_true.mp rfl) hread with ⟨t, ht⟩
  exact absurd (hrefused.symm.trans ht) (by simp only [reduceCtorEq, not_false_eq_true])

end RollSet

end DiceRoller
