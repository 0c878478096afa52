import DiceRoller.Proofs.Grammar.Form
import Mathlib.Data.List.TakeWhile

/-!
# Where lexemes end

A lexeme takes as many digits or blanks as it can, so where it ends depends on what
follows. The lemmas here come in pairs. One way, a lexeme that was recognised is the
text of a part of a form with the rest of the line behind it. The other way, the
text of a part is recognised as a whole, and nothing but it is taken, provided that
what follows does not go on with the same class of characters.

What can follow a term in a notation is a blank, a sign, a separator or nothing, and
none of these goes on like a term: with a digit, or with the first letter of a
selector or of the faces. `Lexeme.goesOn` is that class, and `Text.Stops` says of a
line that it does not begin with a class.

## Main definitions

* `Text.Stops`: A text that does not begin with a class of characters.
* `SpaceRun.front`: The ASCII blanks at the front of a line.
* `Lexeme.goesOn`: The characters with which a term may go on.
* `Lexeme.IsDigits`: Digits, and at least one.

## Theorems

* `Text.stops_nil`: An empty text begins with nothing.
* `Text.stops_cons_iff`: Whether a text begins with a class depends on its first
  character.
* `Text.dropWhile_of_stops`: A text that does not begin with a run of its own begins with
  none at all.
* `Text.takeWhile_append`, `Text.dropWhile_append`: A run ends where the class does.
* `Text.beq_of_class`: A character of a class is none that stands outside of it.
* `Text.isBlank_of_isDigit`: No digit is a blank.
* `Text.isSpace_of_isBlank`: What is no blank is no ASCII blank.
* `SpaceRun.front_append`: A line is its blanks in front and what is left when these are
  skipped.
* `SpaceRun.skipSpaces_append`: Blanks in front of a text are skipped together with those
  it begins with.
* `Lexeme.goesOn_of_isBlank`: No term goes on with a blank.
* `Lexeme.stops_isDigit`: Where a term does not go on, no digits do.
* `Lexeme.isDigits_digits`: The digits at the front of a line are digits, if there are
  any.
* `Lexeme.isDigits_run`: So are those of a form.
* `Lexeme.digits_append_afterDigits`: A line is its digits in front and what follows them.
* `Lexeme.digits_append`: Digits are recognised as a whole if no digit follows them.
* `Lexeme.afterDigits_append`: What follows them is left over then.
* `Lexeme.exists_cons_of_isDigits`: Digits begin with a digit.
* `Lexeme.stops_of_isDigits`: A class without digits does not begin digits.
* `Lexeme.sign?_text_append`, `Lexeme.exists_of_sign?`, `Lexeme.exists_leading`: Signs.
* `Lexeme.separator?_text_append`, `Lexeme.exists_of_separator?`: Separators.
* `Lexeme.selector?_text_append`, `Lexeme.eq_of_selector?`: Selectors.
* `Lexeme.eq_of_keeps?`: A first letter that was recognised is the one that asks for the
  choice.
* `Lexeme.eq_of_takesHigh?`: A second letter that was recognised is the one that asks for
  the choice.
* `Lexeme.faces?_append`: Faces are recognised as a whole where their digits end.
* `Lexeme.eq_of_faces?`: What was recognised as faces is written so.
* `Lexeme.rollHead?_append`, `Lexeme.eq_of_rollHead?`: Heads of rolls.
* `Lexeme.rollHead?_constant`: A constant is not the head of a roll.
-/

namespace DiceRoller

namespace Text

/-- The text does not begin with a character of the class. -/
def Stops (p : Char → Bool) (t : Text) : Prop := ∀ c ∈ t.head?, p c = false

theorem stops_nil (p : Char → Bool) : Stops p [] := by
  intro c hc
  exact absurd hc (by simp only [List.head?_nil, Option.mem_def, reduceCtorEq, not_false_eq_true])

/-- Whether a text begins with a class depends on its first character. -/
theorem stops_cons_iff {p : Char → Bool} {c : Char} {t : Text} :
    Stops p (c :: t) ↔ p c = false := by
  simp only [Stops, List.head?_cons, Option.mem_def, Option.some.injEq, forall_eq']

/-- A text that does not begin with a run of its own begins with none at all. -/
theorem dropWhile_of_stops {p : Char → Bool} {t : Text} (h : Stops p t) : t.dropWhile p = t := by
  rcases t with _ | ⟨c, t⟩
  · rfl
  · rw [List.dropWhile_cons_of_neg (by rw [stops_cons_iff.mp h]; exact Bool.false_ne_true)]

/-- A text behind a run is a run only if there is nothing behind it, so the run is
    the longest at the front. -/
theorem takeWhile_append {p : Char → Bool} {run t : Text} (hr : ∀ c ∈ run, p c = true)
    (h : Stops p t) : (run ++ t).takeWhile p = run := by
  rw [List.takeWhile_append_of_pos hr]
  rcases t with _ | ⟨c, t⟩
  · rw [List.takeWhile_nil, List.append_nil]
  · rw [List.takeWhile_cons_of_neg (by rw [stops_cons_iff.mp h]; exact Bool.false_ne_true),
      List.append_nil]

/-- What follows the longest run at the front is what stands behind it. -/
theorem dropWhile_append {p : Char → Bool} {run t : Text} (hr : ∀ c ∈ run, p c = true)
    (h : Stops p t) : (run ++ t).dropWhile p = t := by
  rw [List.dropWhile_append_of_pos hr, dropWhile_of_stops h]

/-- A character of a class is none that stands outside of it. -/
theorem beq_of_class {p : Char → Bool} {c d : Char} (hc : p c = true) (hd : p d = false) :
    (c == d) = false := by
  rw [beq_eq_false_iff_ne]
  rintro rfl
  exact absurd (hc.symm.trans hd) (by decide)

/-- No digit is a blank. -/
theorem isBlank_of_isDigit {c : Char} (h : Numeral.isDigit c = true) : isBlank c = false := by
  simp only [Numeral.isDigit, Bool.and_eq_true, decide_eq_true_eq] at h
  simp only [isBlank, Bool.or_eq_false_iff, Bool.and_eq_false_imp, decide_eq_true_eq,
    decide_eq_false_iff_not, beq_eq_false_iff_ne]
  omega

theorem isSpace_of_isBlank {c : Char} (h : isBlank c = false) : isSpace c = false :=
  Bool.eq_false_iff.mpr fun hc => Bool.eq_false_iff.mp h (isBlank_of_isSpace hc)

end Text

namespace SpaceRun

/-- The ASCII blanks at the front of a line. -/
def front (line : Text) : SpaceRun :=
  ⟨line.takeWhile Text.isSpace, fun _ hc => List.mem_takeWhile_imp hc⟩

/-- A line is its blanks in front and what is left when these are skipped. -/
theorem front_append (line : Text) : (front line).text ++ line.skipSpaces = line :=
  List.takeWhile_append_dropWhile

/-- Blanks in front of a text are skipped together with those it begins with. -/
theorem skipSpaces_append (b : SpaceRun) (t : Text) : (b.text ++ t).skipSpaces = t.skipSpaces :=
  List.dropWhile_append_of_pos b.isSpace

end SpaceRun

namespace Lexeme

/-- The characters with which a term may go on: digits, and the letters that can
    follow digits in it. -/
def goesOn (c : Char) : Bool := Numeral.isDigit c || c == 'k' || c == 'd'

/-- No term goes on with a blank. -/
theorem goesOn_of_isBlank {c : Char} (h : Text.isBlank c = true) : goesOn c = false := by
  have hd : Numeral.isDigit c = false :=
    Bool.eq_false_iff.mpr fun hc => Bool.eq_false_iff.mp (Text.isBlank_of_isDigit hc) h
  have hk := Text.beq_of_class h (rfl : Text.isBlank 'k' = false)
  have hd' := Text.beq_of_class h (rfl : Text.isBlank 'd' = false)
  rw [goesOn, hd, hk, hd', Bool.or_self, Bool.or_self]

/-- Where a term does not go on, no digits do. -/
theorem stops_isDigit {t : Text} (h : t.Stops goesOn) : t.Stops Numeral.isDigit := by
  intro c hc
  have := h c hc
  simp only [goesOn, Bool.or_eq_false_iff] at this
  exact this.1.1

/-- Digits, and at least one. -/
def IsDigits (ds : Text) : Prop := ds ≠ [] ∧ ∀ c ∈ ds, Numeral.isDigit c = true

theorem isDigits_digits {line : Text} (h : digits line ≠ []) : IsDigits (digits line) :=
  ⟨h, fun _ hc => List.mem_takeWhile_imp hc⟩

theorem isDigits_run (r : DigitRun) : IsDigits r.digits := ⟨r.ne_nil, r.isDigit⟩

theorem digits_append_afterDigits (line : Text) : digits line ++ afterDigits line = line :=
  List.takeWhile_append_dropWhile

theorem digits_append {ds rest : Text} (hd : IsDigits ds) (h : rest.Stops Numeral.isDigit) :
    digits (ds ++ rest) = ds :=
  Text.takeWhile_append hd.2 h

theorem afterDigits_append {ds rest : Text} (hd : IsDigits ds) (h : rest.Stops Numeral.isDigit) :
    afterDigits (ds ++ rest) = rest :=
  Text.dropWhile_append hd.2 h

/-- Digits begin with a digit. -/
theorem exists_cons_of_isDigits {ds : Text} (h : IsDigits ds) :
    ∃ c ds', ds = c :: ds' ∧ Numeral.isDigit c = true := by
  rcases ds with _ | ⟨c, ds'⟩
  · exact absurd rfl h.1
  · exact ⟨c, ds', rfl, h.2 c List.mem_cons_self⟩

theorem stops_of_isDigits {p : Char → Bool} (hp : ∀ c, Numeral.isDigit c = true → p c = false)
    {ds : Text} (h : IsDigits ds) (rest : Text) : (ds ++ rest).Stops p := by
  rcases exists_cons_of_isDigits h with ⟨c, ds', rfl, hc⟩
  exact Text.stops_cons_iff.mpr (hp c hc)

/-- A sign is recognised with its blanks, and the blanks behind it are taken. -/
theorem sign?_text_append (f : SignForm) (rest : Text) :
    sign? (f.text ++ rest) = some (f.value, rest.skipSpaces) := by
  have hskip : (f.text ++ rest).skipSpaces
      = (if f.negative then '-' else '+') :: (f.after.text ++ rest) := by
    rw [SignForm.text, List.append_assoc, List.cons_append]
    exact Text.dropWhile_append f.before.isSpace (Text.stops_cons_iff.mpr (by split <;> rfl))
  -- Both signs are recognised in the same way.
  rcases hn : f.negative with _ | _
  all_goals simp only [sign?, hskip, hn, SignForm.value, f.after.skipSpaces_append,
    Bool.false_eq_true, if_true, if_false]

/-- What was recognised as a sign is one, with blanks around it. -/
theorem exists_of_sign? {line rest : Text} {s : Sign} (h : sign? line = some (s, rest)) :
    ∃ f : SignForm, line = f.text ++ rest ∧ f.value = s := by
  have hline := SpaceRun.front_append line
  unfold sign? at h
  split at h
  case h_3 => exact absurd h (by simp only [reduceCtorEq, not_false_eq_true])
  all_goals
    -- The line is blanks, the sign, blanks again and the rest.
    rename_i tail hskip
    have htail := SpaceRun.front_append tail
    simp only [Option.some.injEq, Prod.mk.injEq] at h
    rw [h.2] at htail
    rw [hskip] at hline
  · refine ⟨⟨.front line, false, .front tail⟩, ?_, h.1⟩
    simp only [SignForm.text, List.append_assoc, List.cons_append, htail, Bool.false_eq_true,
      if_false, hline]
  · refine ⟨⟨.front line, true, .front tail⟩, ?_, h.1⟩
    simp only [SignForm.text, List.append_assoc, List.cons_append, htail, if_true, hline]

/-- In front of a line there is a sign or none, and what is read next is the line
    behind it. -/
theorem exists_leading (line : Text) :
    ∃ leading : Option SignForm,
      line = leading.elim [] SignForm.text ++ ((sign? line).getD (.plus, line)).2 ∧
        leading.elim .plus SignForm.value = ((sign? line).getD (.plus, line)).1 := by
  rcases hs : sign? line with _ | ⟨s, tail⟩
  · exact ⟨none, rfl, rfl⟩
  · rcases exists_of_sign? hs with ⟨f, hline, hf⟩
    exact ⟨some f, hline, hf⟩

/-- A separator is recognised with its blanks, and the blanks behind it are taken. -/
theorem separator?_text_append (f : SeparatorForm) (rest : Text) :
    separator? (f.text ++ rest) = some rest.skipSpaces := by
  have hskip : (f.text ++ rest).skipSpaces = ';' :: (f.after.text ++ rest) := by
    rw [SeparatorForm.text, List.append_assoc, List.cons_append]
    exact Text.dropWhile_append f.before.isSpace (Text.stops_cons_iff.mpr rfl)
  simp only [separator?, hskip, f.after.skipSpaces_append]

/-- What was recognised as a separator is one, with blanks around it. -/
theorem exists_of_separator? {line rest : Text} (h : separator? line = some rest) :
    ∃ f : SeparatorForm, line = f.text ++ rest := by
  have hline := SpaceRun.front_append line
  unfold separator? at h
  split at h
  · rename_i tail hskip
    have htail := SpaceRun.front_append tail
    rw [Option.some.inj h] at htail
    rw [hskip] at hline
    refine ⟨⟨.front line, .front tail⟩, ?_⟩
    simp only [SeparatorForm.text, List.append_assoc, List.cons_append, htail, hline]
  · exact absurd h (by simp only [reduceCtorEq, not_false_eq_true])

/-- A selector is recognised as a whole where its digits end. -/
theorem selector?_text_append (f : SelectorForm) {rest : Text}
    (h : rest.Stops Numeral.isDigit) :
    selector? (f.text ++ rest) = some (f.keep, f.high, f.count.digits, rest) := by
  have hk : keeps? (if f.keep then 'k' else 'd') = some f.keep := by
    cases f.keep <;> rfl
  have hh : takesHigh? (if f.high then 'h' else 'l') = some f.high := by
    cases f.high <;> rfl
  have hd := isDigits_run f.count
  simp only [selector?, SelectorForm.text, List.cons_append, hk, hh, digits_append hd h,
    afterDigits_append hd h, if_neg hd.1]

/-- A first letter that was recognised is the one that asks for the choice. -/
theorem eq_of_keeps? {c : Char} {keep : Bool} (h : keeps? c = some keep) :
    c = if keep then 'k' else 'd' := by
  unfold keeps? at h
  split at h
  · rw [← Option.some.inj h, if_pos rfl]
  · rw [← Option.some.inj h, if_neg Bool.false_ne_true]
  · exact absurd h (by simp only [reduceCtorEq, not_false_eq_true])

/-- A second letter that was recognised is the one that asks for the choice. -/
theorem eq_of_takesHigh? {c : Char} {high : Bool} (h : takesHigh? c = some high) :
    c = if high then 'h' else 'l' := by
  unfold takesHigh? at h
  split at h
  · rw [← Option.some.inj h, if_pos rfl]
  · rw [← Option.some.inj h, if_neg Bool.false_ne_true]
  · exact absurd h (by simp only [reduceCtorEq, not_false_eq_true])

/-- What was recognised as a selector is two letters and digits. -/
theorem eq_of_selector? {line ds rest : Text} {keep high : Bool}
    (h : selector? line = some (keep, high, ds, rest)) :
    line = (if keep then 'k' else 'd') :: (if high then 'h' else 'l') :: (ds ++ rest) ∧
      IsDigits ds := by
  unfold selector? at h
  split at h
  · rename_i a b tail
    -- Both letters have to be recognised, and a digit has to follow them.
    split at h
    · rename_i keep' high' hk hh
      split at h
      · exact absurd h (by simp only [reduceCtorEq, not_false_eq_true])
      · rename_i hd
        simp only [Option.some.injEq, Prod.mk.injEq] at h
        rcases h with ⟨rfl, rfl, rfl, rfl⟩
        rw [← eq_of_keeps? hk, ← eq_of_takesHigh? hh, digits_append_afterDigits]
        exact ⟨rfl, isDigits_digits hd⟩
    · exact absurd h (by simp only [reduceCtorEq, not_false_eq_true])
  · exact absurd h (by simp only [reduceCtorEq, not_false_eq_true])

/-- The faces of a roll head as they are written. -/
def Faces.text : Faces → Text
  | numbered ds => ds
  | fate => ['F']

/-- The faces of a roll head are digits, or the letter of a Fate die. -/
def Faces.IsWritten : Faces → Prop
  | numbered ds => IsDigits ds
  | fate => True

/-- Faces are recognised as a whole where their digits end. -/
theorem faces?_append {f : Faces} (hf : f.IsWritten) {rest : Text}
    (h : rest.Stops Numeral.isDigit) : faces? (f.text ++ rest) = some (f, rest) := by
  cases f with
  | fate => rfl
  | numbered ds =>
      rcases exists_cons_of_isDigits hf with ⟨c, ds', rfl, hc⟩
      -- A digit is not the letter of a Fate die.
      have hF : c ≠ 'F' := by
        rintro rfl
        exact absurd hc (by decide)
      unfold faces?
      split
      · rename_i tail heq
        exact absurd (List.cons.inj heq).1 hF
      · simp only [Faces.text, digits_append hf h, afterDigits_append hf h, if_neg hf.1]

/-- What was recognised as faces is written so. -/
theorem eq_of_faces? {line rest : Text} {f : Faces} (h : faces? line = some (f, rest)) :
    line = f.text ++ rest ∧ f.IsWritten := by
  unfold faces? at h
  split at h
  · simp only [Option.some.injEq, Prod.mk.injEq] at h
    rcases h with ⟨rfl, rfl⟩
    exact ⟨rfl, trivial⟩
  · -- Without the letter there have to be digits.
    split at h
    · exact absurd h (by simp only [reduceCtorEq, not_false_eq_true])
    · rename_i hd
      simp only [Option.some.injEq, Prod.mk.injEq] at h
      rcases h with ⟨rfl, rfl⟩
      exact ⟨(digits_append_afterDigits line).symm, isDigits_digits hd⟩

/-- The head of a roll is recognised as a whole where its faces end. -/
theorem rollHead?_append {ds : Text} (hd : IsDigits ds) {f : Faces} (hf : f.IsWritten)
    {rest : Text} (h : rest.Stops Numeral.isDigit) :
    rollHead? (ds ++ 'd' :: (f.text ++ rest)) = some ⟨ds, f, rest⟩ := by
  have hstop : Text.Stops Numeral.isDigit ('d' :: (f.text ++ rest)) :=
    Text.stops_cons_iff.mpr rfl
  simp only [rollHead?, digits_append hd hstop, afterDigits_append hd hstop, if_neg hd.1,
    faces?_append hf h, Option.map_some]

/-- What was recognised as the head of a roll is digits, a `d` and faces. -/
theorem eq_of_rollHead? {line : Text} {r : RollHead} (h : rollHead? line = some r) :
    line = r.quantity ++ 'd' :: (r.faces.text ++ r.rest) ∧ IsDigits r.quantity ∧
      r.faces.IsWritten := by
  unfold rollHead? at h
  split at h
  · exact absurd h (by simp only [reduceCtorEq, not_false_eq_true])
  · rename_i hd
    -- Behind the digits the letter of a roll is looked for.
    split at h
    · rename_i tail htail
      rcases Option.map_eq_some_iff.mp h with ⟨⟨f, rest⟩, hf, rfl⟩
      rcases eq_of_faces? hf with ⟨heq, hw⟩
      refine ⟨?_, isDigits_digits hd, hw⟩
      rw [← heq, ← htail, digits_append_afterDigits]
    · exact absurd h (by simp only [reduceCtorEq, not_false_eq_true])

/-- Digits are not the head of a roll where a term does not go on behind them. -/
theorem rollHead?_constant {ds rest : Text} (hd : IsDigits ds) (h : rest.Stops goesOn) :
    rollHead? (ds ++ rest) = none := by
  unfold rollHead?
  rw [digits_append hd (stops_isDigit h), afterDigits_append hd (stops_isDigit h), if_neg hd.1]
  -- Only a `d` behind the digits could make a head of them.
  split
  · exact absurd (Text.stops_cons_iff.mp h) (by decide)
  · rfl

end Lexeme

end DiceRoller
