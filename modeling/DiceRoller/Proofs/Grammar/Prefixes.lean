import DiceRoller.Proofs.Grammar.Origin
import DiceRoller.Proofs.Grammar.Writable
import Mathlib.Data.PNat.Basic

/-!
# What stands before a mistake

Up to its mistake a text can still become a notation. No reader reports a mistake later
than it has to, so what stands in front of the reported position is the beginning of
some text that is read under the same limits.

For each kind of text, from selectors to a whole notation, there is the predicate that
says a text is of the kind, and `Mistake.IsAfterStart` says of a mistake in a line that
what stands before it is the beginning of such a text. What completes it depends on
where the reading stopped. Where a term should begin, or the digits behind a `d` or
behind the letters of a selector, a single digit does; a one is within every limit. In
front of a selector that selects nothing, and behind a term that nothing may follow, the
text is complete as it stands.

The text in front of the mistake is not read again in any of this. It was read by steps
that succeeded, each step took the text of a form, and a form followed by the completion
is a form of the whole.

## Main definitions

* `DigitRun.one`: The digit that completes a text.
* `Text.WritesSelectors`, `Text.WritesTerm`, `Text.WritesMore`, `Text.WritesExpression`,
  `Text.WritesExpressions`: The kinds of texts.
* `Mistake.IsAfterStart`: What stands before a mistake begins a text of a kind.

## Theorems

* `DigitRun.one_le_one`: A one selects something, and makes a roll or a die.
* `DigitRun.one_le`: A one is within every limit that is not zero.
* `Mistake.IsAfterStart.append`: What begins a part begins the whole behind the parts
  before it.
* `Mistake.isAfterStart_of_place`: A mistake of the line itself, with something before it
  that can be completed.
* `Reader.isAfterStart_of_selector`: Before the mistake of a selector stand its letters,
  or nothing.
* `Reader.isAfterStart_of_selectors`, `Reader.isAfterStart_of_term`,
  `Reader.isAfterStart_of_signedTerms`, `Reader.isAfterStart_of_expression`,
  `Reader.isAfterStart_of_expressions`: What each reader read before it failed.
* `Reader.isAfterStart_of_front`: A digit makes a term where one should begin.
* `Reader.isAfterStart_of_rollFrom`: Before a mistake in a roll stands as much of a roll
  as was read: nothing, the quantity and its letter, or all of its head with selectors.
* `Reader.isAfterStart_of_checkEnd`: Before what may not follow an expression there are
  only blanks.
* `Limits.one_le_bound`: No limit is below one.
* `RollSet.exists_form_take_append`: What stands in a text before its mistake can be
  completed to the text of a form.
* `RollSet.exists_read_take_append`: A text up to its mistake can be completed.
* `RollSet.exists_read_take_append_too_many_faces`: The faces are above their limit, and
  the quantity in front of them is not.
-/

namespace DiceRoller

/-- The number one, which may be written wherever digits may. -/
def DigitRun.one : DigitRun := .ofCommon 1 (by decide)

theorem DigitRun.one_le_one : 1 ≤ one.value := Nat.le_of_eq (value_ofCommon 1 _).symm

theorem DigitRun.one_le {n : Nat} (h : 1 ≤ n) : one.value ≤ n :=
  Nat.le_trans (Nat.le_of_eq (value_ofCommon 1 _)) h

namespace Text

variable (maxDice maxFaces : Nat)

/-- The text is selectors one after the other, perhaps none. -/
def WritesSelectors (t : Text) : Prop :=
  ∃ fs : List SelectorForm, fs.flatMap SelectorForm.text = t

/-- The text is a term. -/
def WritesTerm (t : Text) : Prop := ∃ f : TermForm maxDice maxFaces, f.text = t

/-- The text is terms behind signs, perhaps none. -/
def WritesMore (t : Text) : Prop :=
  ∃ fs : List (SignForm × TermForm maxDice maxFaces), ExpressionForm.moreText fs = t

/-- The text is an expression, perhaps with blanks behind it. -/
def WritesExpression (t : Text) : Prop :=
  ∃ (f : ExpressionForm maxDice maxFaces) (b : BlankRun), f.text ++ b.text = t

/-- The text is expressions with separators between them, perhaps with blanks behind. -/
def WritesExpressions (t : Text) : Prop :=
  ∃ (f : ExpressionForm maxDice maxFaces)
    (more : List (SeparatorForm × ExpressionForm maxDice maxFaces)) (b : BlankRun),
    f.text ++ NotationForm.moreText more (.blanks b) = t

end Text

/-- What stands in the line before the mistake is the beginning of a text of the kind. -/
def Mistake.IsAfterStart (kind : Text → Prop) (m : Mistake) (line : Text) : Prop :=
  ∃ front tail, line = front ++ m.line.drop m.position ∧ kind (front ++ tail)

namespace Mistake

/-- Behind a part that leads from texts of one kind to texts of another, the beginning
    of a text of the one kind becomes the beginning of a text of the other. -/
theorem IsAfterStart.append {kind kind' : Text → Prop} {m : Mistake} {line : Text}
    (h : m.IsAfterStart kind line) (part : Text) (hkind : ∀ t, kind t → kind' (part ++ t)) :
    m.IsAfterStart kind' (part ++ line) := by
  rcases h with ⟨front, tail, hline, hfront⟩
  refine ⟨part ++ front, tail, ?_, ?_⟩
  · rw [hline, List.append_assoc]
  · rw [List.append_assoc]
    exact hkind _ hfront

/-- A mistake of the line itself, with something before it that can be completed. -/
theorem isAfterStart_of_place {kind : Text → Prop} {m : Mistake} {front rest : Text}
    (h : m.line = front ++ rest ∧ m.position = front.length) (tail : Text)
    (hkind : kind (front ++ tail)) : m.IsAfterStart kind (front ++ rest) := by
  refine ⟨front, tail, ?_, hkind⟩
  rw [h.1, h.2, List.drop_left]

end Mistake

namespace Reader

open Text

/-- Before the mistake of a selector stand its letters, or nothing. -/
theorem isAfterStart_of_selector {line : Text} {m : Mistake} (h : selector line = .error m) :
    m.IsAfterStart WritesSelectors line := by
  unfold selector at h
  split at h
  · exact absurd h (by simp only [reduceCtorEq, not_false_eq_true])
  · rename_i keep high ds rest hs
    rcases Lexeme.eq_of_selector? hs with ⟨hline, -⟩
    subst hline
    rcases bind_eq_error h with hn | ⟨n, -, h⟩
    · -- The letters stand; a number can still follow them.
      have hfront : WritesSelectors
          ([if keep then 'k' else 'd', if high then 'h' else 'l'] ++ DigitRun.one.digits) :=
        ⟨[⟨keep, high, .one, DigitRun.one_le_one⟩], rfl⟩
      exact Mistake.isAfterStart_of_place (place_of_number hn) _ hfront
    · split at h
      · rw [← Except.error.inj h]
        exact ⟨[], [], rfl, [], rfl⟩
      · exact absurd h (by simp only [reduceCtorEq, not_false_eq_true])

/-- Before a mistake in selectors stand selectors, the last of them perhaps without its number.
    -/
theorem isAfterStart_of_selectors {line : Text} {m : Mistake} (h : selectors line = .error m) :
    m.IsAfterStart WritesSelectors line := by
  fun_induction selectors line with
  | case1 line m' hs =>
      rw [Except.error.inj h] at hs
      exact isAfterStart_of_selector hs
  | case2 line hs => exact absurd h (by simp only [reduceCtorEq, not_false_eq_true])
  | case3 line s rest hs m' hm ih =>
      rw [Except.error.inj h] at hm
      rcases exists_of_selector hs with ⟨f, rfl, -⟩
      -- The selector was read, so it goes in front of what completes the others.
      refine (ih hm).append f.text ?_
      rintro t ⟨fs, rfl⟩
      exact ⟨f :: fs, List.flatMap_cons⟩
  | case4 line s rest hs more rest' hm ih =>
      exact absurd h (by simp only [reduceCtorEq, not_false_eq_true])

variable {maxDice maxFaces : Nat}

theorem isAfterStart_of_front {line : Text} {m : Mistake}
    (h : m.line = line ∧ m.position = 0) : m.IsAfterStart (WritesTerm maxDice maxFaces) line :=
  ⟨[], DigitRun.one.digits, by rw [h.1, h.2, List.drop_zero, List.nil_append], .constant .one, rfl⟩

/-- Before a mistake in a roll stands as much of a roll as was read: nothing, the quantity and
    its letter, or all of its head with selectors. -/
theorem isAfterStart_of_rollFrom (hfaces : 1 ≤ maxFaces) {head : Lexeme.RollHead} {line : Text}
    {m : Mistake} (hh : Lexeme.rollHead? line = some head)
    (h : rollFrom (.upTo maxDice maxFaces) line head = .error m) :
    m.IsAfterStart (WritesTerm maxDice maxFaces) line := by
  rcases Lexeme.eq_of_rollHead? hh with ⟨hline, hd, hw⟩
  unfold rollFrom at h
  rcases bind_eq_error h with hq | ⟨n, hn, h⟩
  · exact isAfterStart_of_front (place_of_quantity hq)
  -- The quantity was read, so it is within the limit.
  rcases exists_of_quantity hd hn with ⟨q, hq, rfl, hone, hle⟩
  rcases bind_eq_error h with hs | ⟨s, hs, h⟩
  · -- One face is within the limit too, and one value can be stored.
    have hfew : DigitRun.one.value < DieSpec.mostFaces :=
      Nat.lt_of_le_of_lt (DigitRun.one_le (Nat.le_refl 1)) (by decide)
    have hfront : WritesTerm maxDice maxFaces
        ((head.quantity ++ ['d']) ++ DigitRun.one.digits) := by
      refine ⟨.roll ⟨q, hone, hle,
        .numbered .one DigitRun.one_le_one (DigitRun.one_le hfaces) hfew, []⟩, ?_⟩
      rw [TermForm.text, RollForm.text, hq, List.flatMap_nil, List.append_nil, List.append_assoc]
      rfl
    have hcut : line = (head.quantity ++ ['d']) ++ (head.faces.text ++ head.rest) := by
      rw [hline, List.append_assoc]
      rfl
    have hplace := place_of_spec hs
    rw [hcut] at hplace ⊢
    refine Mistake.isAfterStart_of_place ⟨hplace.1, ?_⟩ _ hfront
    rw [hplace.2, List.length_append]
    rfl
  rcases exists_of_spec hw hs with ⟨f, hf, -⟩
  rcases bind_eq_error h with hss | ⟨ss, -, h⟩
  · have hcut : line = (head.quantity ++ 'd' :: head.faces.text) ++ head.rest := by
      rw [hline, List.append_assoc]
      rfl
    rw [hcut]
    refine (isAfterStart_of_selectors hss).append _ ?_
    rintro t ⟨fs, rfl⟩
    refine ⟨.roll ⟨q, hone, hle, f, fs⟩, ?_⟩
    rw [TermForm.text, RollForm.text, hq, hf, List.append_assoc, List.cons_append]
  · exact absurd h (by simp only [pure, Except.pure, reduceCtorEq, not_false_eq_true])

/-- Before a mistake in a term stands the beginning of a term. -/
theorem isAfterStart_of_term (hfaces : 1 ≤ maxFaces) {line : Text} {m : Mistake}
    (h : term (.upTo maxDice maxFaces) line = .error m) :
    m.IsAfterStart (WritesTerm maxDice maxFaces) line := by
  unfold term at h
  split at h
  · rename_i head hh
    rcases bind_eq_error h with hr | ⟨r, -, h⟩
    · exact isAfterStart_of_rollFrom hfaces hh hr
    · exact absurd h (by simp only [pure, Except.pure, reduceCtorEq, not_false_eq_true])
  · split at h
    · rw [← Except.error.inj h]
      exact isAfterStart_of_front ⟨rfl, rfl⟩
    · rcases bind_eq_error h with hc | ⟨r, -, h⟩
      · exact isAfterStart_of_front (place_of_constant hc)
      · exact absurd h (by simp only [pure, Except.pure, reduceCtorEq, not_false_eq_true])

/-- Before a mistake in the terms behind signs stand such terms, the last of them perhaps up to
    its mistake. -/
theorem isAfterStart_of_signedTerms (hfaces : 1 ≤ maxFaces) {line : Text} {m : Mistake}
    (h : signedTerms (.upTo maxDice maxFaces) line = .error m) :
    m.IsAfterStart (WritesMore maxDice maxFaces) line := by
  fun_induction signedTerms (.upTo maxDice maxFaces) line with
  | case1 line hs => exact absurd h (by simp only [reduceCtorEq, not_false_eq_true])
  | case2 line sign rest hs m' ht =>
      rw [Except.error.inj h] at ht
      rcases Lexeme.exists_of_sign? hs with ⟨s, rfl, -⟩
      refine (isAfterStart_of_term hfaces ht).append s.text ?_
      rintro t ⟨f, rfl⟩
      refine ⟨[(s, f)], ?_⟩
      rw [ExpressionForm.moreText, List.flatMap_cons, List.flatMap_nil, List.append_nil]
  | case3 line sign rest hs t rest' ht m' hm ih =>
      rw [Except.error.inj h] at hm
      rcases Lexeme.exists_of_sign? hs with ⟨s, rfl, -⟩
      rcases exists_of_term ht with ⟨f, rfl, -⟩
      -- The sign and the term that were read make one front.
      rw [← List.append_assoc]
      refine (ih hm).append (s.text ++ f.text) ?_
      rintro t ⟨fs, rfl⟩
      exact ⟨(s, f) :: fs, List.flatMap_cons⟩
  | case4 line sign rest hs t rest' ht more rest'' hm ih =>
      exact absurd h (by simp only [reduceCtorEq, not_false_eq_true])

/-- Before what may not follow an expression there are only blanks. -/
theorem isAfterStart_of_checkEnd {line : Text} {m : Mistake} (h : checkEnd line = .error m) :
    m.IsAfterStart (fun t => ∃ b : BlankRun, b.text = t) line := by
  have hline : line.takeWhile isBlank ++ line.trimStart = line := List.takeWhile_append_dropWhile
  have hplace := place_of_checkEnd h
  have hafter : m.IsAfterStart (fun t => ∃ b : BlankRun, b.text = t)
      (line.takeWhile isBlank ++ line.trimStart) :=
    Mistake.isAfterStart_of_place ⟨hplace.1.trans hline.symm, hplace.2⟩ []
      ⟨⟨_, fun _ hc => List.mem_takeWhile_imp hc⟩, (List.append_nil _).symm⟩
  rw [hline] at hafter
  exact hafter

/-- Before a mistake in an expression stands the beginning of an expression. The mistake is in
    the first term, in the terms behind it, or in what follows them. -/
theorem isAfterStart_of_expression (hfaces : 1 ≤ maxFaces) {line : Text} {m : Mistake}
    (h : expression (.upTo maxDice maxFaces) line = .error m) :
    m.IsAfterStart (WritesExpression maxDice maxFaces) line := by
  -- The sign in front, if there is one, and the line behind it.
  rcases Lexeme.exists_leading line with ⟨leading, hline, -⟩
  simp only [expression] at h
  rw [hline]
  rcases bind_eq_error h with ht | ⟨⟨t, rest⟩, ht, h⟩
  · refine (isAfterStart_of_term hfaces ht).append _ ?_
    rintro t ⟨f, rfl⟩
    refine ⟨⟨leading, f, []⟩, .empty, ?_⟩
    simp only [ExpressionForm.text, ExpressionForm.moreText, List.flatMap_nil, BlankRun.empty,
      List.append_nil]
  rcases exists_of_term ht with ⟨f, hrest, -⟩
  rw [hrest, ← List.append_assoc]
  rcases bind_eq_error h with hm | ⟨⟨more, rest'⟩, hm, h⟩
  · refine (isAfterStart_of_signedTerms hfaces hm).append _ ?_
    rintro t ⟨fs, rfl⟩
    refine ⟨⟨leading, f, fs⟩, .empty, ?_⟩
    simp only [ExpressionForm.text, BlankRun.empty, List.append_nil, List.append_assoc]
  rcases exists_of_signedTerms hm with ⟨fs, hrest', -⟩
  simp only at hrest'
  rw [hrest', ← List.append_assoc]
  rcases bind_eq_error h with hc | ⟨u, -, h⟩
  · refine (isAfterStart_of_checkEnd hc).append _ ?_
    rintro t ⟨b, rfl⟩
    refine ⟨⟨leading, f, fs⟩, b, ?_⟩
    simp only [ExpressionForm.text, List.append_assoc]
  · exact absurd h (by simp only [pure, Except.pure, reduceCtorEq, not_false_eq_true])

/-- Before a mistake in expressions stand expressions with separators between them, the last of
    them perhaps up to its mistake. -/
theorem isAfterStart_of_expressions (hfaces : 1 ≤ maxFaces) {line : Text} {m : Mistake}
    (h : expressions (.upTo maxDice maxFaces) line = .error m) :
    m.IsAfterStart (WritesExpressions maxDice maxFaces) line := by
  fun_induction expressions (.upTo maxDice maxFaces) line with
  | case1 => exact absurd h (by simp only [reduceCtorEq, not_false_eq_true])
  | case2 line hne m' he =>
      rw [Except.error.inj h] at he
      refine (isAfterStart_of_expression hfaces he).append [] ?_
      rintro t ⟨f, b, rfl⟩
      exact ⟨f, [], b, rfl⟩
  | case3 line hne e rest he m' hm ih =>
      rw [Except.error.inj h] at hm
      rcases exists_of_expression he with ⟨⟨f, rfl, -⟩, -⟩
      rcases hs : Lexeme.separator? rest with _ | tail
      · -- Without a separator nothing is left that could fail.
        rw [afterExpression, hs, Option.getD_none, expressions, if_pos rfl] at hm
        exact absurd hm (by simp only [reduceCtorEq, not_false_eq_true])
      · rcases Lexeme.exists_of_separator? hs with ⟨g, rfl⟩
        rw [afterExpression, hs, Option.getD_some] at hm ih
        rw [← List.append_assoc]
        refine (ih hm).append (f.text ++ g.text) ?_
        rintro t ⟨f', more, b, rfl⟩
        refine ⟨f, (g, f') :: more, b, ?_⟩
        simp only [NotationForm.moreText, List.flatMap_cons, List.append_assoc]
  | case4 line hne e rest he more hm ih =>
      exact absurd h (by simp only [reduceCtorEq, not_false_eq_true])

end Reader

theorem Limits.one_le_bound (limit : Option ℕ+) : 1 ≤ bound limit := by
  rcases limit with _ | n
  · decide
  · exact n.property

namespace RollSet

variable {maxDice maxFaces : Nat}

/-- What stands in a text before its mistake can be completed to the text of a form. -/
theorem exists_form_take_append (hfaces : 1 ≤ maxFaces) {text : Text} {m : Mistake}
    (h : read (.upTo maxDice maxFaces) text = .error m) :
    ∃ (tail : Text) (f : NotationForm maxDice maxFaces),
      f.text = text.take m.position ++ tail := by
  unfold read at h
  split at h
  · -- Nothing stands before the mistake of a blank text.
    rw [← Except.error.inj h]
    exact ⟨DigitRun.one.digits, ⟨.empty, ⟨none, .constant .one, []⟩, [], .blanks .empty⟩, rfl⟩
  · split at h
    · rename_i raised hraised
      rcases Reader.isAfterStart_of_expressions hfaces hraised with
        ⟨front, tail, hline, f, more, b, hfront⟩
      have hplaced := Reader.isPlacedIn_of_expressions hraised
      have hle := hplaced.position_le
      have hmargin : text.takeWhile Text.isBlank ++ text.trimStart = text :=
        List.takeWhile_append_dropWhile
      -- The mistake is moved to where the margin and the front end.
      have hposition : (raised.within text).position
          = (text.takeWhile Text.isBlank ++ front).length := by
        have hsuffix := hplaced.suffix.length_le
        have hlen := congrArg List.length hline
        have htext := congrArg List.length hmargin
        simp only [List.length_append, List.length_drop] at hlen htext
        simp only [Mistake.within, List.length_append]
        omega
      have htake : text.take (raised.within text).position
          = text.takeWhile Text.isBlank ++ front := by
        have happend : text = (text.takeWhile Text.isBlank ++ front)
            ++ raised.line.drop raised.position := by
          rw [List.append_assoc, ← hline, hmargin]
        have htake := congrArg (List.take (text.takeWhile Text.isBlank ++ front).length) happend
        rw [List.take_left] at htake
        rw [hposition, htake]
      rw [← Except.error.inj h, htake]
      refine ⟨tail, ⟨⟨text.takeWhile Text.isBlank, fun _ hc => List.mem_takeWhile_imp hc⟩, f, more,
        .blanks b⟩, ?_⟩
      rw [NotationForm.text, hfront, List.append_assoc]
    · exact absurd h (by simp only [reduceCtorEq, not_false_eq_true])

/-- The position of a mistake is never behind the first thing that is wrong: what stands
    before it can be completed to a text that is read under the same limits. -/
theorem exists_read_take_append (dice faces : Option ℕ+) (text : Text) (m : Mistake)
    (h : read (.ofBounds dice faces) text = .error m) :
    ∃ (tail : Text) (s : RollSet),
      read (.ofBounds dice faces) (text.take m.position ++ tail) = .ok s := by
  rw [Limits.ofBounds_eq_upTo] at h ⊢
  rcases exists_form_take_append (Limits.one_le_bound faces) h with ⟨tail, f, hf⟩
  exact ⟨tail, _, hf ▸ read_text f⟩

-- The faces are above their limit, and the quantity in front of them is not.
theorem exists_read_take_append_too_many_faces :
    ∃ m : Mistake, read (.ofBounds (some 3) (some 6)) ['4', '+', '2', 'd', '8'] = .error m ∧
      m.position = 4 ∧
      ∃ (tail : Text) (s : RollSet),
        read (.ofBounds (some 3) (some 6)) (['4', '+', '2', 'd'] ++ tail) = .ok s := by
  have hread : read (.ofBounds (some 3) (some 6)) ['4', '+', '2', 'd', '8']
      = .error ⟨.tooManyFaces ['6'], ['4', '+', '2', 'd', '8'], 4, ['8']⟩ := by
    decide +kernel
  exact ⟨_, hread, rfl, exists_read_take_append _ _ _ _ hread⟩

end RollSet

end DiceRoller
