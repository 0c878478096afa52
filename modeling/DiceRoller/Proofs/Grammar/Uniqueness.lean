import DiceRoller.Proofs.Grammar.Completeness

/-!
# One form for each text

Two forms of the same text are the same but for where blanks are counted to. The
argument is the one that makes reading succeed: a lexeme that is recognised at the
front of a line is a function of the line, so two forms of a line agree on their
first part, and then on the rest by induction.

Expressions are compared by their parts, since the blanks in front of a leading sign
can be counted to the sign or to what stands before it, and nothing else is left
open.

## Theorems

* `SelectorForm.eq_of_text_append`: Lists of selectors are told apart by their text.
* `FacesForm.eq_of_lexeme`: Faces are told apart by their lexeme.
* `TermForm.eq_of_text_append`: So are terms.
* `SignForm.negative_eq_of_value`: A form of a sign means what it says.
* `SignForm.eq_of_text_append`: Two signs in front of terms are the same sign, and the
  lines behind them are the same.
* `ExpressionForm.more_eq_of_text_append`: Terms behind signs are told apart by their
  text, blanks apart.
* `ExpressionForm.parts_eq_of_text_append`: So are expressions, blanks apart.
* `NotationForm.forms_parts_eq`: So are the expressions of a notation, once the first
  stands flush.
* `NotationForm.parts_eq_of_text`: So are notations, blanks apart.
-/

namespace DiceRoller

variable {maxDice maxFaces : Nat}

namespace SelectorForm

/-- Selectors up to where a term ends are told apart by their text. -/
theorem eq_of_text_append {fs gs : List SelectorForm} {r r' : Text}
    (hr : r.Stops Lexeme.goesOn) (hr' : r'.Stops Lexeme.goesOn)
    (h : fs.flatMap text ++ r = gs.flatMap text ++ r') : fs = gs ∧ r = r' := by
  -- A rest that stops is not the text of a selector, so both lists end together.
  have hnot : ∀ (f : SelectorForm) (t : Text), ¬ (f.text ++ t).Stops Lexeme.goesOn := by
    intro f t hs
    have hs := Text.stops_cons_iff.mp hs
    split at hs
    all_goals exact absurd hs (by decide)
  induction fs generalizing gs with
  | nil =>
      cases gs with
      | nil => exact ⟨rfl, h⟩
      | cons g gs =>
          simp only [List.flatMap_nil, List.nil_append, List.flatMap_cons, List.append_assoc] at h
          rw [h] at hr
          exact absurd hr (hnot g _)
  | cons f fs ih =>
      cases gs with
      | nil =>
          simp only [List.flatMap_nil, List.nil_append, List.flatMap_cons, List.append_assoc] at h
          rw [← h] at hr'
          exact absurd hr' (hnot f _)
      | cons g gs =>
          -- What is recognised at the front is the first selector of either list.
          simp only [List.flatMap_cons, List.append_assoc] at h
          have hf := Lexeme.selector?_text_append f (Reader.stops_selectors fs hr)
          rw [h, Lexeme.selector?_text_append g (Reader.stops_selectors gs hr')] at hf
          simp only [Option.some.injEq, Prod.mk.injEq] at hf
          rcases hf with ⟨hkeep, hhigh, hcount, htail⟩
          have hfg : f = g := SelectorForm.ext hkeep.symm hhigh.symm (DigitRun.ext hcount.symm)
          rcases ih htail.symm with ⟨hfs, hrest⟩
          exact ⟨by rw [hfg, hfs], hrest⟩

end SelectorForm

/-- Faces are told apart by their lexeme. -/
theorem FacesForm.eq_of_lexeme {f g : FacesForm maxFaces} (h : f.lexeme = g.lexeme) : f = g := by
  cases f with
  | fate =>
      cases g with
      | fate => rfl
      | numbered => exact absurd h (by simp only [lexeme, reduceCtorEq, not_false_eq_true])
  | numbered count =>
      cases g with
      | fate => exact absurd h (by simp only [lexeme, reduceCtorEq, not_false_eq_true])
      | numbered count' =>
          simp only [lexeme, Lexeme.Faces.numbered.injEq] at h
          have hcount : count = count' := DigitRun.ext h
          subst hcount
          rfl

namespace TermForm

/-- Terms are told apart by their text, and it shows where they end. -/
theorem eq_of_text_append {f g : TermForm maxDice maxFaces} {r r' : Text}
    (hr : r.Stops Lexeme.goesOn) (hr' : r'.Stops Lexeme.goesOn)
    (h : f.text ++ r = g.text ++ r') : f = g ∧ r = r' := by
  -- Both sides begin with the head of a roll, or neither does.
  cases f with
  | roll a =>
      have ha := a.rollHead?_text_append hr
      cases g with
      | roll b =>
          simp only [text] at h
          rw [h, b.rollHead?_text_append hr'] at ha
          simp only [Option.some.injEq, Lexeme.RollHead.mk.injEq] at ha
          rcases ha with ⟨hq, hf, hs⟩
          rcases SelectorForm.eq_of_text_append hr' hr hs with ⟨hss, hrest⟩
          rcases a with ⟨q, _, _, faces, ss⟩
          rcases b with ⟨q', _, _, faces', ss'⟩
          have hquantity : q = q' := DigitRun.ext hq.symm
          have hfaces : faces = faces' := FacesForm.eq_of_lexeme hf.symm
          have hselectors : ss = ss' := hss.symm
          subst hquantity hfaces hselectors
          exact ⟨rfl, hrest.symm⟩
      | constant n =>
          simp only [text] at h
          rw [h, Lexeme.rollHead?_constant (Lexeme.isDigits_run n) hr'] at ha
          exact absurd ha (by simp only [reduceCtorEq, not_false_eq_true])
  | constant m =>
      have hm := Lexeme.isDigits_run m
      cases g with
      | roll b =>
          have hb := b.rollHead?_text_append hr'
          simp only [text] at h
          rw [← h, Lexeme.rollHead?_constant hm hr] at hb
          exact absurd hb (by simp only [reduceCtorEq, not_false_eq_true])
      | constant n =>
          have hn := Lexeme.isDigits_run n
          simp only [text] at h
          -- The digits of a constant end where its term does.
          have hd := Lexeme.digits_append hm (Lexeme.stops_isDigit hr)
          have ha := Lexeme.afterDigits_append hm (Lexeme.stops_isDigit hr)
          rw [h, Lexeme.digits_append hn (Lexeme.stops_isDigit hr')] at hd
          rw [h, Lexeme.afterDigits_append hn (Lexeme.stops_isDigit hr')] at ha
          exact ⟨by rw [DigitRun.ext hd], ha.symm⟩

end TermForm

namespace SignForm

/-- A form of a sign means what it says. -/
theorem negative_eq_of_value {s s' : SignForm} (h : s.value = s'.value) :
    s.negative = s'.negative := by
  rcases s with ⟨_, _ | _, _⟩ <;> rcases s' with ⟨_, _ | _, _⟩
  · rfl
  · exact Sign.noConfusion h
  · exact Sign.noConfusion h
  · rfl

/-- Two signs in front of terms are the same sign, and the lines behind them are the
    same. -/
theorem eq_of_text_append {s s' : SignForm} {f g : TermForm maxDice maxFaces} {t t' : Text}
    (h : s.text ++ (f.text ++ t) = s'.text ++ (g.text ++ t')) :
    s.negative = s'.negative ∧ f.text ++ t = g.text ++ t' := by
  have hs := Lexeme.sign?_text_append s (f.text ++ t)
  rw [h, Lexeme.sign?_text_append, f.skipSpaces_text_append, g.skipSpaces_text_append] at hs
  simp only [Option.some.injEq, Prod.mk.injEq] at hs
  exact ⟨(negative_eq_of_value hs.1).symm, hs.2.symm⟩

end SignForm

namespace ExpressionForm

/-- Terms behind signs are told apart by their text, blanks apart. -/
theorem more_eq_of_text_append {fs gs : List (SignForm × TermForm maxDice maxFaces)} {r r' : Text}
    (hr : Reader.MayEnd r) (hr' : Reader.MayEnd r')
    (h : moreText fs ++ r = moreText gs ++ r') :
    (fs.map fun p => (p.1.negative, p.2)) = (gs.map fun p => (p.1.negative, p.2)) ∧ r = r' := by
  have hcons : ∀ (s : SignForm) (f : TermForm maxDice maxFaces) fs (r : Text),
      moreText ((s, f) :: fs) ++ r = s.text ++ (f.text ++ (moreText fs ++ r)) := by
    intro s f fs r
    simp only [moreText, List.flatMap_cons, List.append_assoc]
  induction fs generalizing gs with
  | nil =>
      cases gs with
      | nil => exact ⟨rfl, h⟩
      | cons p gs =>
          -- Where one side may end the other goes on with a sign.
          have hs := hr.sign
          rw [show r = moreText (p :: gs) ++ r' from h, hcons, Lexeme.sign?_text_append] at hs
          exact absurd hs (by simp only [reduceCtorEq, not_false_eq_true])
  | cons p fs ih =>
      cases gs with
      | nil =>
          have hs := hr'.sign
          rw [show r' = moreText (p :: fs) ++ r from h.symm, hcons,
            Lexeme.sign?_text_append] at hs
          exact absurd hs (by simp only [reduceCtorEq, not_false_eq_true])
      | cons q gs =>
          rw [hcons, hcons] at h
          -- Both sides go on with a sign, and behind it with the same term.
          rcases SignForm.eq_of_text_append h with ⟨hneg, hline⟩
          rcases TermForm.eq_of_text_append (Reader.stops_moreText fs hr.stops)
            (Reader.stops_moreText gs hr'.stops) hline with ⟨hterm, htail⟩
          rcases ih htail with ⟨hmore, hrest⟩
          exact ⟨by rw [List.map_cons, List.map_cons, hneg, hterm, hmore], hrest⟩

/-- Expressions are told apart by their text, blanks apart, up to where they may end. -/
theorem parts_eq_of_text_append {f g : ExpressionForm maxDice maxFaces} {r r' : Text}
    (hr : Reader.MayEnd r) (hr' : Reader.MayEnd r') (h : f.text ++ r = g.text ++ r') :
    f.parts = g.parts ∧ r = r' := by
  rcases f with ⟨l, a, fs⟩
  rcases g with ⟨l', b, gs⟩
  simp only [text, List.append_assoc] at h
  -- A leading sign on one side only would be one in front of a term.
  have hlead : l.map SignForm.negative = l'.map SignForm.negative ∧
      a.text ++ (moreText fs ++ r) = b.text ++ (moreText gs ++ r') := by
    cases l with
    | none =>
        cases l' with
        | none => exact ⟨rfl, h⟩
        | some s' =>
            have hs := Lexeme.sign?_term a (moreText fs ++ r)
            simp only [Option.elim_none, Option.elim_some, List.nil_append] at h
            rw [h, Lexeme.sign?_text_append] at hs
            exact absurd hs (by simp only [reduceCtorEq, not_false_eq_true])
    | some s =>
        cases l' with
        | none =>
            have hs := Lexeme.sign?_term b (moreText gs ++ r')
            simp only [Option.elim_none, Option.elim_some, List.nil_append] at h
            rw [← h, Lexeme.sign?_text_append] at hs
            exact absurd hs (by simp only [reduceCtorEq, not_false_eq_true])
        | some s' =>
            rcases SignForm.eq_of_text_append h with ⟨hneg, hline⟩
            exact ⟨by rw [Option.map_some, Option.map_some, hneg], hline⟩
  rcases TermForm.eq_of_text_append (Reader.stops_moreText fs hr.stops)
    (Reader.stops_moreText gs hr'.stops) hlead.2 with ⟨hterm, htail⟩
  rcases more_eq_of_text_append hr hr' htail with ⟨hmore, hrest⟩
  -- The parts of the further terms, each with a sign in front of it.
  have hmap := congrArg (List.map fun p => (some p.1, p.2)) hmore
  simp only [List.map_map, Function.comp_def] at hmap
  exact ⟨by simp only [parts, hlead.1, hterm, hmap], hrest⟩

end ExpressionForm

namespace NotationForm

/-- So are the expressions of a notation, once the first stands flush. -/
theorem forms_parts_eq {f g : ExpressionForm maxDice maxFaces}
    {fs gs : List (SeparatorForm × ExpressionForm maxDice maxFaces)} {e e' : EndForm}
    (h : f.flush.text ++ moreText fs e = g.flush.text ++ moreText gs e') :
    (f :: fs.map Prod.snd).map ExpressionForm.parts
      = (g :: gs.map Prod.snd).map ExpressionForm.parts := by
  induction fs generalizing f g gs with
  | nil =>
      rcases ExpressionForm.parts_eq_of_text_append (mayEnd_moreText [] e)
        (mayEnd_moreText gs e') h with ⟨hparts, hrest⟩
      rw [f.parts_flush, g.parts_flush] at hparts
      cases gs with
      | nil => simp only [List.map_cons, List.map_nil, hparts]
      | cons q gs =>
          -- One side ends here, on the other an expression is left to read.
          have hafter := congrArg Reader.afterExpression hrest
          rw [afterExpression_moreText_cons, moreText_nil, Reader.afterExpression_ending] at hafter
          exact absurd (List.append_eq_nil_iff.mp hafter.symm).1 q.2.flush.text_ne_nil
  | cons p fs ih =>
      rcases ExpressionForm.parts_eq_of_text_append (mayEnd_moreText (p :: fs) e)
        (mayEnd_moreText gs e') h with ⟨hparts, hrest⟩
      rw [f.parts_flush, g.parts_flush] at hparts
      have hafter := congrArg Reader.afterExpression hrest
      cases gs with
      | nil =>
          rw [afterExpression_moreText_cons, moreText_nil, Reader.afterExpression_ending] at hafter
          exact absurd (List.append_eq_nil_iff.mp hafter).1 p.2.flush.text_ne_nil
      | cons q gs =>
          rw [afterExpression_moreText_cons, afterExpression_moreText_cons] at hafter
          rw [List.map_cons, List.map_cons (a := q), List.map_cons, List.map_cons (a := g),
            ih hafter, hparts]

theorem parts_eq_of_text {f g : NotationForm maxDice maxFaces} (h : f.text = g.text) :
    f.parts = g.parts := by
  -- The margin goes, and the blanks in front of the first expression with it.
  have htrim := congrArg Text.trimStart h
  rw [f.trimStart_text, g.trimStart_text] at htrim
  exact forms_parts_eq htrim

end NotationForm

end DiceRoller
