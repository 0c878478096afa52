import DiceRoller.Proofs.Grammar.Lexemes

/-!
# What a reader has to accept

The text of every form is read, and what is read is what the form means. This is
the direction in which the ends of lexemes matter: a part of a form is read as that
part only if what stands behind it does not go on with it, so each lemma asks for a
rest that stops, and the lemma for a whole says why the rests of its parts do.

An expression is read up to a rest at which it may end. `Reader.MayEnd` collects
what that takes: the last term does not go on, no sign follows, and what follows is
blanks alone or a separator. The ends of notations and the separators between
expressions are such rests.

The blanks in front of a leading sign never reach the reader of an expression. They
are ASCII blanks, and whoever hands the line over has skipped these already,
together with the blanks of the margin or behind the separator. The expression is
then read as if its leading sign had none, which is what `ExpressionForm.flush`
makes of it.

## Main definitions

* `Reader.MayEnd`: A rest at which an expression may end.
* `ExpressionForm.flush`: An expression without blanks in front.

## Theorems

* `SpaceRun.stops_append`: No term goes on with a blank, so it does not go on with blanks
  if it does not go on with what is behind them.
* `SignForm.stops_text_append`: No term goes on with a sign, nor with the blanks in front
  of it.
* `TermForm.exists_digits_append`: Every term begins with digits.
* `TermForm.stops_text_append`: A term begins with a digit, so a class without digits does
  not begin it.
* `TermForm.text_ne_nil`: No term is empty.
* `TermForm.skipSpaces_text_append`: There are no blanks to be skipped in front of a term.
* `Lexeme.sign?_eq_none`: No sign where neither a plus nor a minus follows the blanks.
* `Lexeme.separator?_eq_none`: No separator where no semicolon follows the blanks.
* `Lexeme.sign?_term`: The front of a term is no sign.
* `Lexeme.stops_skipSpaces_blanks`: Blanks hold neither a sign nor a separator.
* `Reader.number_digits`: A run of digits has a number, since it is no longer than a
  number may be.
* `Reader.selector_append`: A selector is read as what its form means.
* `Reader.selector_of_stops`: Where a term does not go on, there is no selector.
* `Reader.stops_selectors`: Digits end where selectors begin.
* `Reader.selectors_of_none`: Without a selector in front the loop ends at once.
* `Reader.selectors_step`: One turn of the loop: a selector, and what the rest of the loop
  reads.
* `Reader.selectors_append`: Selectors are read up to where they end.
* `FacesForm.text_lexeme`: Faces are written like their lexeme.
* `FacesForm.isWritten_lexeme`: It is a lexeme that can be written.
* `RollForm.rollHead?_text_append`: The head of a roll and its selectors are what a reader
  finds at the front of the text of the roll.
* `Reader.exceeded?_ofInt`: A number within a bound does not exceed its ceiling.
* `Reader.quantity_digits`: The quantity of a form is accepted.
* `Reader.spec_lexeme`: The faces of a form are accepted, as the dice that they mean.
* `Reader.constant_append`: A constant is read up to where its digits end.
* `Reader.term_append`: So is a term.
* `Reader.stops_moreText`: Where a term is followed by more terms behind signs, it does
  not go on.
* `Reader.signedTerms_step`: One turn of the loop: a sign, a term, and what the rest of
  the loop reads.
* `Reader.signedTerms_of_none`: Without a sign in front the loop ends at once.
* `Reader.signedTerms_append`: So are terms behind signs.
* `Reader.mayEnd_separator`: An expression may end where a separator follows.
* `Reader.mayEnd_ending`: It may end where the notation does.
* `Reader.expression_append`: So is an expression.
* `ExpressionForm.value_flush`: The blanks in front of an expression do not change what it
  means.
* `ExpressionForm.parts_flush`: They do not change its parts.
* `ExpressionForm.dropWhile_text_append`: Skipping a class of blanks in front of an
  expression takes the blanks before its leading sign, and nothing else of it.
* `ExpressionForm.skipSpaces_text_append`: Skipping ASCII blanks in front of an expression
  makes it flush.
* `ExpressionForm.trimStart_text_append`: So does trimming.
* `ExpressionForm.text_ne_nil`: No expression is empty.
* `Reader.afterExpression_ending`: What is left to read behind an end is nothing.
* `Reader.expressions_step`: One turn of the loop: an expression, and what is left to read
  behind it.
* `Reader.expressions_append`: One more expression in front is read in front of the
  others.
* `NotationForm.mayEnd_moreText`: Behind an expression of a notation there is a rest at
  which it may end.
* `NotationForm.moreText_nil`: Behind the last expression there is the end.
* `NotationForm.afterExpression_moreText_cons`: Behind a separator the next expression
  stands flush.
* `Reader.expressions_flush`: So are expressions with separators between them.
* `NotationForm.trimStart_text`: Trimming a notation takes its margin and makes the first
  expression flush.
* `RollSet.read_text`: The text of a form is read as what the form means.
-/

namespace DiceRoller

variable {maxDice maxFaces : Nat}

/-- A run without ASCII blanks. -/
def SpaceRun.empty : SpaceRun := ⟨[], fun _ h => absurd h List.not_mem_nil⟩

/-- No term goes on with a blank, so it does not go on with blanks if it does not go on
    with what is behind them. -/
theorem SpaceRun.stops_append (b : SpaceRun) {t : Text} (h : t.Stops Lexeme.goesOn) :
    (b.text ++ t).Stops Lexeme.goesOn := by
  rcases hb : b.text with _ | ⟨c, blanks⟩
  · exact h
  · refine Text.stops_cons_iff.mpr (Lexeme.goesOn_of_isBlank (Text.isBlank_of_isSpace ?_))
    exact b.isSpace c (by rw [hb]; exact List.mem_cons_self)

/-- No term goes on with a sign, nor with the blanks in front of it. -/
theorem SignForm.stops_text_append (f : SignForm) (t : Text) :
    (f.text ++ t).Stops Lexeme.goesOn := by
  rw [text, List.append_assoc]
  exact f.before.stops_append (Text.stops_cons_iff.mpr (by split <;> rfl))

namespace TermForm

/-- Every term begins with digits. -/
theorem exists_digits_append (f : TermForm maxDice maxFaces) :
    ∃ (r : DigitRun) (tail : Text), f.text = r.digits ++ tail := by
  cases f with
  | roll r => exact ⟨r.quantity, _, rfl⟩
  | constant n => exact ⟨n, [], (List.append_nil _).symm⟩

/-- A term begins with a digit, so a class without digits does not begin it. -/
theorem stops_text_append {p : Char → Bool}
    (hp : ∀ c, Numeral.isDigit c = true → p c = false)
    (f : TermForm maxDice maxFaces) (t : Text) : (f.text ++ t).Stops p := by
  rcases exists_digits_append f with ⟨r, tail, h⟩
  rw [h, List.append_assoc]
  exact Lexeme.stops_of_isDigits hp (Lexeme.isDigits_run r) _

theorem text_ne_nil (f : TermForm maxDice maxFaces) : f.text ≠ [] := by
  rcases exists_digits_append f with ⟨r, tail, h⟩
  rw [h]
  exact List.append_ne_nil_of_left_ne_nil r.ne_nil tail

theorem skipSpaces_text_append (f : TermForm maxDice maxFaces) (t : Text) :
    (f.text ++ t).skipSpaces = f.text ++ t :=
  Text.dropWhile_of_stops (f.stops_text_append
    (fun _ hc => Text.isSpace_of_isBlank (Text.isBlank_of_isDigit hc)) t)

end TermForm

namespace Lexeme

/-- No sign where neither a plus nor a minus follows the blanks. -/
theorem sign?_eq_none {line : Text}
    (h : line.skipSpaces.Stops fun c => c == '+' || c == '-') : sign? line = none := by
  unfold sign?
  split
  · rename_i rest hrest
    rw [hrest] at h
    exact absurd (Text.stops_cons_iff.mp h) (by decide)
  · rename_i rest hrest
    rw [hrest] at h
    exact absurd (Text.stops_cons_iff.mp h) (by decide)
  · rfl

/-- No separator where no semicolon follows the blanks. -/
theorem separator?_eq_none {line : Text} (h : line.skipSpaces.Stops (· == ';')) :
    separator? line = none := by
  unfold separator?
  split
  · rename_i rest hrest
    rw [hrest] at h
    exact absurd (Text.stops_cons_iff.mp h) (by decide)
  · rfl

/-- The front of a term is no sign. -/
theorem sign?_term (f : TermForm maxDice maxFaces) (t : Text) : sign? (f.text ++ t) = none := by
  refine sign?_eq_none ?_
  rw [f.skipSpaces_text_append]
  refine f.stops_text_append (fun c hc => ?_) t
  have hplus := Text.beq_of_class hc (rfl : Numeral.isDigit '+' = false)
  have hminus := Text.beq_of_class hc (rfl : Numeral.isDigit '-' = false)
  rw [hplus, hminus, Bool.or_self]

theorem stops_skipSpaces_blanks {p : Char → Bool} (hp : ∀ c, Text.isBlank c = true → p c = false)
    (b : BlankRun) : b.text.skipSpaces.Stops p := by
  intro c hc
  refine hp c (b.isBlank c ((List.dropWhile_sublist _).subset (List.mem_of_mem_head? hc)))

end Lexeme

namespace Reader

/-- A run of digits has a number, since it is no longer than a number may be. -/
theorem number_digits (line : Text) (position : Nat) (r : DigitRun) :
    number line position r.digits = .ok r.value := by
  rw [number, if_pos r.length_le, DigitRun.value]

/-- A selector is read as what its form means. -/
theorem selector_append (f : SelectorForm) {rest : Text} (h : rest.Stops Numeral.isDigit) :
    selector (f.text ++ rest) = .ok (some (f.value, rest)) := by
  have hone := f.one_le
  simp only [selector, Lexeme.selector?_text_append f h, number_digits, bind, Except.bind,
    if_neg (by omega : ¬ f.count.value < 1), SelectorForm.value]

/-- Where a term does not go on, there is no selector. -/
theorem selector_of_stops {rest : Text} (h : rest.Stops Lexeme.goesOn) :
    selector rest = .ok none := by
  have hnone : Lexeme.selector? rest = none := by
    unfold Lexeme.selector?
    split
    · rename_i a b line
      have ha := Text.stops_cons_iff.mp h
      simp only [Lexeme.goesOn, Bool.or_eq_false_iff, beq_eq_false_iff_ne] at ha
      -- A selector begins with a letter with which a term goes on.
      have hkeep : Lexeme.keeps? a = none := by
        unfold Lexeme.keeps?
        split
        · exact absurd rfl ha.1.2
        · exact absurd rfl ha.2
        · rfl
      rw [hkeep]
    · rfl
  rw [selector, hnone]

/-- Digits end where selectors begin. -/
theorem stops_selectors (fs : List SelectorForm) {rest : Text} (h : rest.Stops Lexeme.goesOn) :
    Text.Stops Numeral.isDigit (fs.flatMap SelectorForm.text ++ rest) := by
  rcases fs with _ | ⟨f, fs⟩
  · exact Lexeme.stops_isDigit h
  · exact Text.stops_cons_iff.mpr (by split <;> rfl)

/-- Without a selector in front the loop ends at once. -/
theorem selectors_of_none {line : Text} (h : selector line = .ok none) :
    selectors line = .ok ([], line) := by
  rw [selectors]
  split
  · rename_i m hm
    exact absurd (h.symm.trans hm) (by simp only [reduceCtorEq, not_false_eq_true])
  · rfl
  · rename_i s tail hm
    exact absurd (h.symm.trans hm)
      (by simp only [Except.ok.injEq, reduceCtorEq, not_false_eq_true])

/-- One turn of the loop: a selector, and what the rest of the loop reads. -/
theorem selectors_step {line rest rest' : Text} {s : Selector} {more : List Selector}
    (h : selector line = .ok (some (s, rest))) (hm : selectors rest = .ok (more, rest')) :
    selectors line = .ok (s :: more, rest') := by
  rw [selectors]
  split
  · rename_i m hs
    exact absurd (h.symm.trans hs) (by simp only [reduceCtorEq, not_false_eq_true])
  · rename_i hs
    exact absurd (h.symm.trans hs)
      (by simp only [Except.ok.injEq, reduceCtorEq, not_false_eq_true])
  · rename_i s' tail hs
    rw [h] at hs
    simp only [Except.ok.injEq, Option.some.injEq, Prod.mk.injEq] at hs
    rcases hs with ⟨rfl, rfl⟩
    rw [hm]

/-- Selectors are read one after the other, up to where they end. -/
theorem selectors_append (fs : List SelectorForm) {rest : Text} (h : rest.Stops Lexeme.goesOn) :
    selectors (fs.flatMap SelectorForm.text ++ rest)
      = .ok (fs.map SelectorForm.value, rest) := by
  induction fs with
  | nil => exact selectors_of_none (selector_of_stops h)
  | cons f fs ih =>
      -- Behind a selector there is another one or the rest, and neither is a digit.
      have hs := selector_append f (stops_selectors fs h)
      rw [List.flatMap_cons, List.append_assoc]
      exact selectors_step hs ih

end Reader

/-- The faces of a form as a lexeme. -/
def FacesForm.lexeme : FacesForm maxFaces → Lexeme.Faces
  | numbered count _ _ _ => .numbered count.digits
  | fate => .fate

namespace FacesForm

theorem text_lexeme (f : FacesForm maxFaces) : f.lexeme.text = f.text := by
  cases f <;> rfl

theorem isWritten_lexeme (f : FacesForm maxFaces) : f.lexeme.IsWritten := by
  cases f with
  | numbered count => exact Lexeme.isDigits_run count
  | fate => trivial

end FacesForm

/-- The head of a roll and its selectors are what a reader finds at the front of the
    text of the roll. -/
theorem RollForm.rollHead?_text_append (f : RollForm maxDice maxFaces) {rest : Text}
    (h : rest.Stops Lexeme.goesOn) :
    Lexeme.rollHead? (f.text ++ rest) = some ⟨f.quantity.digits, f.faces.lexeme,
      f.selectors.flatMap SelectorForm.text ++ rest⟩ := by
  rw [RollForm.text, List.append_assoc, List.cons_append, List.append_assoc, ← f.faces.text_lexeme]
  exact Lexeme.rollHead?_append (Lexeme.isDigits_run f.quantity) f.faces.isWritten_lexeme
    (Reader.stops_selectors f.selectors h)

namespace Reader

theorem exceeded?_ofInt {n bound : Nat} (h : n ≤ bound) :
    (Ceiling.ofInt bound).exceeded? n = .ok none := by
  rw [Ceiling.ofInt, Ceiling.exceeded?, if_pos (by omega)]

/-- The quantity of a form is accepted. -/
theorem quantity_digits (f : RollForm maxDice maxFaces) (line : Text) (faces : Lexeme.Faces)
    (rest : Text) :
    quantity (.upTo maxDice maxFaces) line ⟨f.quantity.digits, faces, rest⟩
      = .ok f.quantity.value := by
  have hone := f.one_le
  simp only [quantity, number_digits, bind, Except.bind, Limits.upTo, exceeded?_ofInt f.le_max,
    if_neg (by omega : ¬ f.quantity.value < 1)]

/-- The faces of a form are accepted, as the dice that they mean. -/
theorem spec_lexeme (f : FacesForm maxFaces) (line quantity rest : Text) :
    spec (.upTo maxDice maxFaces) line ⟨quantity, f.lexeme, rest⟩ = .ok f.value := by
  cases f with
  | fate => rfl
  | numbered count hone hle hfew =>
      simp only [spec, FacesForm.lexeme, number_digits, bind, Except.bind, Limits.upTo,
        exceeded?_ofInt hle, if_neg (by omega : ¬ count.value < 1), FacesForm.value,
        DieSpec.numbered?_of_lt hfew]
      rfl

/-- A constant is read up to where its digits end. -/
theorem constant_append (r : DigitRun) {rest : Text} (h : rest.Stops Numeral.isDigit) :
    constant (r.digits ++ rest) = .ok (r.value, rest) := by
  have hd := Lexeme.isDigits_run r
  simp only [constant, Lexeme.digits_append hd h, Lexeme.afterDigits_append hd h, if_neg hd.1,
    number_digits, bind, Except.bind, pure, Except.pure]

/-- A term is read as what its form means, up to where it ends. -/
theorem term_append (f : TermForm maxDice maxFaces) {rest : Text}
    (h : rest.Stops Lexeme.goesOn) :
    term (.upTo maxDice maxFaces) (f.text ++ rest) = .ok (f.value, rest) := by
  cases f with
  | roll r =>
      simp only [term, TermForm.text, r.rollHead?_text_append h, rollFrom, quantity_digits,
        spec_lexeme, selectors_append r.selectors h, bind, Except.bind, pure, Except.pure]
      rfl
  | constant n =>
      have hd := Lexeme.isDigits_run n
      have hstop := Lexeme.stops_isDigit h
      simp only [term, TermForm.text, Lexeme.rollHead?_constant hd h,
        Lexeme.digits_append hd hstop, if_neg hd.1, constant_append n hstop, bind, Except.bind,
        pure, Except.pure]
      rfl

/-- Where a term is followed by more terms behind signs, it does not go on. -/
theorem stops_moreText (fs : List (SignForm × TermForm maxDice maxFaces)) {rest : Text}
    (h : rest.Stops Lexeme.goesOn) : (ExpressionForm.moreText fs ++ rest).Stops Lexeme.goesOn := by
  rcases fs with _ | ⟨⟨s, t⟩, fs⟩
  · exact h
  · rw [ExpressionForm.moreText, List.flatMap_cons, List.append_assoc, List.append_assoc]
    exact s.stops_text_append _

/-- One turn of the loop: a sign, a term, and what the rest of the loop reads. -/
theorem signedTerms_step {limits : Limits} {line rest rest' rest'' : Text} {s : Sign} {t : Term}
    {more : List (Sign × Term)} (hs : Lexeme.sign? line = some (s, rest))
    (ht : term limits rest = .ok (t, rest'))
    (hm : signedTerms limits rest' = .ok (more, rest'')) :
    signedTerms limits line = .ok ((s, t) :: more, rest'') := by
  rw [signedTerms]
  split
  · rename_i hn
    rw [hs] at hn
    exact absurd hn (by simp only [reduceCtorEq, not_false_eq_true])
  · rename_i s' tail hs'
    rw [hs] at hs'
    simp only [Option.some.injEq, Prod.mk.injEq] at hs'
    rcases hs' with ⟨rfl, rfl⟩
    split
    · rename_i m hn
      rw [ht] at hn
      exact absurd hn (by simp only [reduceCtorEq, not_false_eq_true])
    · rename_i t' tail' ht'
      rw [ht] at ht'
      simp only [Except.ok.injEq, Prod.mk.injEq] at ht'
      rcases ht' with ⟨rfl, rfl⟩
      rw [hm]

/-- Without a sign in front the loop ends at once. -/
theorem signedTerms_of_none {limits : Limits} {line : Text} (h : Lexeme.sign? line = none) :
    signedTerms limits line = .ok ([], line) := by
  rw [signedTerms]
  split
  · rfl
  · rename_i s tail hs
    exact absurd (h.symm.trans hs) (by simp only [reduceCtorEq, not_false_eq_true])

/-- Terms behind signs are read one after the other, up to where they end. -/
theorem signedTerms_append (fs : List (SignForm × TermForm maxDice maxFaces)) {rest : Text}
    (h : rest.Stops Lexeme.goesOn) (hsign : Lexeme.sign? rest = none) :
    signedTerms (.upTo maxDice maxFaces) (ExpressionForm.moreText fs ++ rest)
      = .ok (ExpressionForm.moreValue fs, rest) := by
  induction fs with
  | nil => exact signedTerms_of_none hsign
  | cons p fs ih =>
      rcases p with ⟨s, t⟩
      have hline : ExpressionForm.moreText ((s, t) :: fs) ++ rest
          = s.text ++ (t.text ++ (ExpressionForm.moreText fs ++ rest)) := by
        simp only [ExpressionForm.moreText, List.flatMap_cons, List.append_assoc]
      -- The sign takes its blanks along, and the term behind them begins with none.
      have hs := Lexeme.sign?_text_append s (t.text ++ (ExpressionForm.moreText fs ++ rest))
      rw [t.skipSpaces_text_append] at hs
      rw [hline]
      exact signedTerms_step hs (term_append t (stops_moreText fs h)) ih

/-- A rest at which an expression may end: its last term does not go on, no sign
    follows, and what follows is blanks alone or a separator. -/
structure MayEnd (rest : Text) : Prop where
  stops : rest.Stops Lexeme.goesOn
  sign : Lexeme.sign? rest = none
  ending : rest.trimStart = [] ∨ (Lexeme.separator? rest).isSome

/-- An expression may end where a separator follows. -/
theorem mayEnd_separator (f : SeparatorForm) (rest : Text) : MayEnd (f.text ++ rest) := by
  have hsemicolon : Text.Stops Lexeme.goesOn (';' :: (f.after.text ++ rest)) :=
    Text.stops_cons_iff.mpr rfl
  have hline : f.text ++ rest = f.before.text ++ ';' :: (f.after.text ++ rest) := by
    rw [SeparatorForm.text, List.append_assoc, List.cons_append]
  refine ⟨?_, Lexeme.sign?_eq_none ?_, Or.inr ?_⟩
  · rw [hline]
    exact f.before.stops_append hsemicolon
  · rw [hline, Text.skipSpaces,
      Text.dropWhile_append f.before.isSpace (Text.stops_cons_iff.mpr rfl)]
    exact Text.stops_cons_iff.mpr rfl
  · rw [Lexeme.separator?_text_append]
    rfl

/-- It may end where the notation does. -/
theorem mayEnd_ending (f : EndForm) : MayEnd f.text := by
  cases f with
  | separator s =>
      have h := mayEnd_separator s []
      rw [List.append_nil] at h
      exact h
  | blanks b =>
      -- A blank is neither a character of a term nor a sign.
      refine ⟨?_, Lexeme.sign?_eq_none (Lexeme.stops_skipSpaces_blanks ?_ b), Or.inl ?_⟩
      · intro c hc
        exact Lexeme.goesOn_of_isBlank (b.isBlank c (List.mem_of_mem_head? hc))
      · intro c hc
        have hplus := Text.beq_of_class hc (rfl : Text.isBlank '+' = false)
        have hminus := Text.beq_of_class hc (rfl : Text.isBlank '-' = false)
        rw [hplus, hminus, Bool.or_self]
      · exact List.dropWhile_eq_nil_iff.mpr b.isBlank

/-- An expression is read as what its form means, up to where it may end. -/
theorem expression_append (f : ExpressionForm maxDice maxFaces) {rest : Text}
    (h : MayEnd rest) :
    expression (.upTo maxDice maxFaces) (f.text ++ rest) = .ok (f.value, rest) := by
  have hterm := term_append f.first (stops_moreText f.more h.stops)
  have hmore := signedTerms_append f.more h.stops h.sign
  have hcheck : checkEnd rest = .ok () := if_pos h.ending
  -- What the sign in front leaves is the line of the first term, sign or none.
  have hsign : (Lexeme.sign? (f.text ++ rest)).getD (.plus, f.text ++ rest)
      = (f.leading.elim .plus SignForm.value,
          f.first.text ++ (ExpressionForm.moreText f.more ++ rest)) := by
    rcases hl : f.leading with _ | s
    · rw [ExpressionForm.text, hl, Option.elim_none, List.nil_append, List.append_assoc,
        Lexeme.sign?_term]
      rfl
    · rw [ExpressionForm.text, hl, Option.elim_some, List.append_assoc, List.append_assoc,
        Lexeme.sign?_text_append, f.first.skipSpaces_text_append]
      rfl
  simp only [expression, hsign, hterm, hmore, hcheck, bind, Except.bind, pure, Except.pure]
  rfl

end Reader

namespace ExpressionForm

/-- The expression without blanks in front of its leading sign. -/
def flush (f : ExpressionForm maxDice maxFaces) : ExpressionForm maxDice maxFaces :=
  { f with leading := f.leading.map fun s => { s with before := .empty } }

/-- The blanks in front of an expression do not change what it means. -/
theorem value_flush (f : ExpressionForm maxDice maxFaces) : f.flush.value = f.value := by
  rcases f with ⟨_ | s, first, more⟩ <;> rfl

theorem parts_flush (f : ExpressionForm maxDice maxFaces) : f.flush.parts = f.parts := by
  rcases f with ⟨_ | s, first, more⟩ <;> rfl

/-- Skipping a class of blanks in front of an expression takes the blanks before its
    leading sign, and nothing else of it. -/
theorem dropWhile_text_append {p : Char → Bool} (hspace : ∀ c, Text.isSpace c = true → p c = true)
    (hdigit : ∀ c, Numeral.isDigit c = true → p c = false) (hplus : p '+' = false)
    (hminus : p '-' = false) (f : ExpressionForm maxDice maxFaces) (t : Text) :
    (f.text ++ t).dropWhile p = f.flush.text ++ t := by
  -- Without a leading sign the expression begins with a digit, which is not skipped.
  rcases f with ⟨_ | s, first, more⟩
  · refine Text.dropWhile_of_stops ?_
    rw [text, Option.elim_none, List.nil_append, List.append_assoc]
    exact first.stops_text_append hdigit _
  · simp only [text, flush, Option.elim_some, Option.map_some, SignForm.text, SpaceRun.empty,
      List.append_assoc, List.cons_append, List.nil_append]
    refine Text.dropWhile_append (fun c hc => hspace c (s.before.isSpace c hc)) ?_
    exact Text.stops_cons_iff.mpr (by split <;> assumption)

/-- Skipping ASCII blanks in front of an expression makes it flush. -/
theorem skipSpaces_text_append (f : ExpressionForm maxDice maxFaces) (t : Text) :
    (f.text ++ t).skipSpaces = f.flush.text ++ t :=
  dropWhile_text_append (fun _ hc => hc)
    (fun _ hc => Text.isSpace_of_isBlank (Text.isBlank_of_isDigit hc)) rfl rfl f t

theorem trimStart_text_append (f : ExpressionForm maxDice maxFaces) (t : Text) :
    (f.text ++ t).trimStart = f.flush.text ++ t :=
  dropWhile_text_append (fun _ hc => Text.isBlank_of_isSpace hc)
    (fun _ hc => Text.isBlank_of_isDigit hc) rfl rfl f t

theorem text_ne_nil (f : ExpressionForm maxDice maxFaces) : f.text ≠ [] := by
  intro hc
  simp only [text, List.append_eq_nil_iff] at hc
  exact f.first.text_ne_nil hc.2.1

end ExpressionForm

namespace Reader

/-- What is left to read behind an end is nothing. -/
theorem afterExpression_ending (f : EndForm) : afterExpression f.text = [] := by
  cases f with
  | separator s =>
      have h := Lexeme.separator?_text_append s []
      rw [List.append_nil] at h
      rw [EndForm.text, afterExpression, h]
      rfl
  | blanks b =>
      have h : Lexeme.separator? b.text = none := by
        refine Lexeme.separator?_eq_none (Lexeme.stops_skipSpaces_blanks (fun c hc => ?_) b)
        exact Text.beq_of_class hc (rfl : Text.isBlank ';' = false)
      rw [EndForm.text, afterExpression, h]
      rfl

/-- One turn of the loop: an expression, and what is left to read behind it. -/
theorem expressions_step {limits : Limits} {line rest : Text} {e : Expression}
    {es : List Expression} (hne : line ≠ []) (he : expression limits line = .ok (e, rest))
    (hes : expressions limits (afterExpression rest) = .ok es) :
    expressions limits line = .ok (e :: es) := by
  rw [expressions, if_neg hne]
  split
  · rename_i m hm
    exact absurd (he.symm.trans hm) (by simp only [reduceCtorEq, not_false_eq_true])
  · rename_i e' tail hm
    rw [he] at hm
    simp only [Except.ok.injEq, Prod.mk.injEq] at hm
    rcases hm with ⟨rfl, rfl⟩
    rw [hes]

/-- One more expression in front is read in front of the others. -/
theorem expressions_append (f : ExpressionForm maxDice maxFaces) {rest : Text}
    {es : List Expression} (h : MayEnd rest)
    (hes : expressions (.upTo maxDice maxFaces) (afterExpression rest) = .ok es) :
    expressions (.upTo maxDice maxFaces) (f.text ++ rest) = .ok (f.value :: es) :=
  expressions_step (fun hc => f.text_ne_nil (List.append_eq_nil_iff.mp hc).1)
    (expression_append f h) hes

end Reader

namespace NotationForm

/-- Behind an expression of a notation there is a rest at which it may end. -/
theorem mayEnd_moreText (more : List (SeparatorForm × ExpressionForm maxDice maxFaces))
    (ending : EndForm) : Reader.MayEnd (moreText more ending) := by
  rcases more with _ | ⟨⟨s, f⟩, more⟩
  · exact Reader.mayEnd_ending ending
  · simp only [moreText, List.flatMap_cons, List.append_assoc]
    exact Reader.mayEnd_separator s _

theorem moreText_nil (ending : EndForm) :
    moreText ([] : List (SeparatorForm × ExpressionForm maxDice maxFaces)) ending = ending.text :=
  rfl

/-- Behind a separator the next expression stands flush. -/
theorem afterExpression_moreText_cons (s : SeparatorForm) (f : ExpressionForm maxDice maxFaces)
    (more : List (SeparatorForm × ExpressionForm maxDice maxFaces)) (ending : EndForm) :
    Reader.afterExpression (moreText ((s, f) :: more) ending)
      = f.flush.text ++ moreText more ending := by
  simp only [moreText, List.flatMap_cons, List.append_assoc]
  rw [Reader.afterExpression, Lexeme.separator?_text_append, Option.getD_some,
    f.skipSpaces_text_append]

end NotationForm

namespace Reader

/-- Expressions with separators between them are read one after the other, once the first stands
    flush. -/
theorem expressions_flush (first : ExpressionForm maxDice maxFaces)
    (more : List (SeparatorForm × ExpressionForm maxDice maxFaces)) (ending : EndForm) :
    expressions (.upTo maxDice maxFaces)
        (first.flush.text ++ NotationForm.moreText more ending)
      = .ok ((first :: more.map Prod.snd).map ExpressionForm.value) := by
  induction more generalizing first with
  | nil =>
      -- Behind the end nothing is left to read.
      have hes : expressions (.upTo maxDice maxFaces)
          (afterExpression (NotationForm.moreText
            ([] : List (SeparatorForm × ExpressionForm maxDice maxFaces)) ending)) = .ok [] := by
        rw [NotationForm.moreText_nil, afterExpression_ending, expressions, if_pos rfl]
      rw [expressions_append first.flush (NotationForm.mayEnd_moreText [] ending) hes,
        first.value_flush]
      rfl
  | cons p more ih =>
      rcases p with ⟨s, f⟩
      -- Behind the separator the next expression stands flush again.
      have hes := ih f
      rw [← NotationForm.afterExpression_moreText_cons s] at hes
      rw [expressions_append first.flush (NotationForm.mayEnd_moreText ((s, f) :: more) ending) hes,
        first.value_flush]
      rfl

end Reader

/-- Trimming a notation takes its margin and makes the first expression flush. -/
theorem NotationForm.trimStart_text (f : NotationForm maxDice maxFaces) :
    f.text.trimStart = f.first.flush.text ++ moreText f.more f.ending := by
  rw [← f.first.trimStart_text_append, text]
  exact List.dropWhile_append_of_pos f.margin.isBlank

/-- The text of a form is read, as what the form means. -/
theorem RollSet.read_text (f : NotationForm maxDice maxFaces) :
    RollSet.read (.upTo maxDice maxFaces) f.text
      = .ok ⟨f.expressions, some f.text.trim⟩ := by
  -- Behind its margin a notation has an expression.
  have hne : f.text.trimStart ≠ [] := by
    rw [f.trimStart_text]
    exact fun hc => f.first.flush.text_ne_nil (List.append_eq_nil_iff.mp hc).1
  rw [RollSet.read, if_neg hne, f.trimStart_text, Reader.expressions_flush]
  rfl

end DiceRoller
