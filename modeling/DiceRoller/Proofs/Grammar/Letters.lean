import DiceRoller.Proofs.Grammar.Form

/-!
# The letters of a notation

Few characters are needed to write a notation. An expression is written with digits, ASCII
blanks, signs and the letters of rolls and selectors. Between expressions there are semicolons,
and around the whole there may be blanks of other kinds.

What is said here of one character after the other is what is used of it elsewhere: no
expression runs over a semicolon, and what a report says below a notation is never a part of
the notation itself.

## Main definitions

* `Text.isLetter`: The characters of an expression.

## Theorems

* `DigitRun.isLetter`: Digits are letters of an expression.
* `SpaceRun.isLetter`: ASCII blanks are letters of an expression.
* `SelectorForm.isLetter`: A selector has two letters and digits.
* `FacesForm.isLetter`: Faces are digits or the letter of a Fate die.
* `TermForm.isLetter`: A roll has a letter between its quantity and its faces.
* `SignForm.isLetter`: A sign may have blanks around it.
* `ExpressionForm.isLetter`: An expression has no other characters.
* `SeparatorForm.isLetter_or`: A separator is a semicolon, perhaps with blanks around it.
* `NotationForm.isLetter_or`: Neither has a notation, but for semicolons and blanks.
* `NotationForm.not_mem_text`: So a notation does not have a character that is none of
  these.
-/

namespace DiceRoller

/-- Whether an expression can have the character. -/
def Text.isLetter (c : Char) : Bool :=
  Numeral.isDigit c || isSpace c || ['d', 'F', 'k', 'h', 'l', '+', '-'].contains c

open Text

variable {maxDice maxFaces : Nat} {c : Char}

theorem DigitRun.isLetter (r : DigitRun) (h : c ∈ r.digits) : isLetter c = true := by
  simp only [Text.isLetter, r.isDigit c h, Bool.true_or]

theorem SpaceRun.isLetter (b : SpaceRun) (h : c ∈ b.text) : isLetter c = true := by
  simp only [Text.isLetter, b.isSpace c h, Bool.or_true, Bool.true_or]

/-- A selector has two letters and digits. -/
theorem SelectorForm.isLetter (f : SelectorForm) (h : c ∈ f.text) : isLetter c = true := by
  rw [text, List.mem_cons, List.mem_cons] at h
  rcases h with rfl | rfl | h
  · cases f.keep <;> rfl
  · cases f.high <;> rfl
  · exact f.count.isLetter h

/-- Faces are digits or the letter of a Fate die. -/
theorem FacesForm.isLetter (f : FacesForm maxFaces) (h : c ∈ f.text) : isLetter c = true := by
  cases f with
  | numbered count => exact count.isLetter h
  | fate =>
      rw [List.mem_singleton.mp h]
      rfl

/-- A roll has a letter between its quantity and its faces. -/
theorem TermForm.isLetter (f : TermForm maxDice maxFaces) (h : c ∈ f.text) :
    isLetter c = true := by
  cases f with
  | constant n => exact n.isLetter h
  | roll r =>
      rw [text, RollForm.text, List.mem_append, List.mem_cons, List.mem_append] at h
      rcases h with h | rfl | h | h
      · exact r.quantity.isLetter h
      · rfl
      · exact r.faces.isLetter h
      · rcases List.mem_flatMap.mp h with ⟨f, -, hf⟩
        exact f.isLetter hf

theorem SignForm.isLetter (f : SignForm) (h : c ∈ f.text) : isLetter c = true := by
  rw [text, List.mem_append, List.mem_cons] at h
  rcases h with h | rfl | h
  · exact f.before.isLetter h
  · cases f.negative <;> rfl
  · exact f.after.isLetter h

/-- An expression has no other characters. -/
theorem ExpressionForm.isLetter (f : ExpressionForm maxDice maxFaces) (h : c ∈ f.text) :
    isLetter c = true := by
  rw [text, List.mem_append, List.mem_append] at h
  rcases h with h | h | h
  · cases hlead : f.leading with
    | none =>
        rw [hlead] at h
        exact absurd h List.not_mem_nil
    | some s =>
        rw [hlead] at h
        exact s.isLetter h
  · exact f.first.isLetter h
  · rcases List.mem_flatMap.mp h with ⟨p, -, hp⟩
    rcases List.mem_append.mp hp with hp | hp
    · exact p.1.isLetter hp
    · exact p.2.isLetter hp

/-- A separator is a semicolon, perhaps with blanks around it. -/
theorem SeparatorForm.isLetter_or (f : SeparatorForm) (h : c ∈ f.text) :
    isLetter c = true ∨ c = ';' := by
  rw [text, List.mem_append, List.mem_cons] at h
  rcases h with h | rfl | h
  · exact .inl (f.before.isLetter h)
  · exact .inr rfl
  · exact .inl (f.after.isLetter h)

/-- A notation has no other characters but semicolons and blanks. -/
theorem NotationForm.isLetter_or (f : NotationForm maxDice maxFaces) (h : c ∈ f.text) :
    isLetter c = true ∨ isBlank c = true ∨ c = ';' := by
  have hsep : ∀ s : SeparatorForm, c ∈ s.text → isLetter c = true ∨ isBlank c = true ∨ c = ';' :=
    fun s hs => (s.isLetter_or hs).imp_right .inr
  rw [text, List.mem_append, List.mem_append, moreText, List.mem_append] at h
  rcases h with h | h | h | h
  · exact .inr (.inl (f.margin.isBlank c h))
  · exact .inl (f.first.isLetter h)
  · rcases List.mem_flatMap.mp h with ⟨p, -, hp⟩
    rcases List.mem_append.mp hp with hp | hp
    · exact hsep p.1 hp
    · exact .inl (p.2.isLetter hp)
  · cases hend : f.ending with
    | blanks b =>
        rw [hend] at h
        exact .inr (.inl (b.isBlank c h))
    | separator s =>
        rw [hend] at h
        exact hsep s h

theorem NotationForm.not_mem_text (f : NotationForm maxDice maxFaces) (hletter : isLetter c = false)
    (hblank : isBlank c = false) (hsep : c ≠ ';') : c ∉ f.text := by
  intro hmem
  rcases f.isLetter_or hmem with h | h | h
  · exact Bool.false_ne_true (hletter.symm.trans h)
  · exact Bool.false_ne_true (hblank.symm.trans h)
  · exact hsep h

end DiceRoller
