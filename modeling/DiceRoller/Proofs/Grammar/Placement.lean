import DiceRoller.Proofs.Grammar.Soundness

/-!
# Where mistakes stand

A reader sees a suffix of the whole text and nothing else, and a mistake holds the
line of the reader that found it. So the line of a mistake is a suffix of every line
that was handed down on the way to it, the text to blame stands at its position, and
the lengths of the two lines tell where that is in the whole text.

`Mistake.IsPlacedIn` is that invariant, and each reader keeps it. The successful
steps before a failing one leave suffixes, which is all that the soundness lemmas are
used for here.

A reader that reads no parts gives its own line, and a position that can be told from
what it reads. The lemmas about places say which position that is.

## Main definitions

* `Mistake.IsPlacedIn`: A mistake that stands in a line.

## Theorems

* `Mistake.IsPlacedIn.mono`: What stands in a suffix stands in the line.
* `Mistake.isPlacedIn_append`: A text that stands behind the first part of a line stands
  in the line.
* `Mistake.isPlacedIn_whole`: A line that is to blame as a whole stands in itself.
* `Reader.bind_eq_error`: Two steps that fail in a row fail at the first or at the second.
* `Reader.mapError_eq_error`: What was made of an error was made of some error.
* `Reader.place_of_number`, `Reader.place_of_quantity`, `Reader.place_of_spec`,
  `Reader.place_of_constant`, `Reader.place_of_checkEnd`: The line and the position that a
  reader gives.
* `Reader.isPlacedIn_of_number`: Digits that are too many stand where they were read.
* `Reader.isPlacedIn_of_selector`: The mistake of a selector stands in its line.
* `Reader.isPlacedIn_of_selectors`: So does that of one of several selectors.
* `Reader.isPlacedIn_of_quantity`: A quantity that is refused stands at the front of the
  roll.
* `Reader.isPlacedIn_of_spec`: Faces that are refused stand behind the quantity and the
  letter of a roll.
* `Reader.isPlacedIn_of_rollFrom`: The mistake of a roll stands in its line, also if a
  selector made it.
* `Reader.isPlacedIn_of_constant`: The mistake of a constant is the constant, or that
  there is none.
* `Reader.isPlacedIn_of_term`, `Reader.isPlacedIn_of_expression`,
  `Reader.isPlacedIn_of_expressions`: Readers place their mistakes.
* `Reader.isPlacedIn_of_signedTerms`: So does that of one of several terms.
* `Reader.isPlacedIn_of_checkEnd`: What may not follow an expression stands behind it.
* `Reader.suffix_afterExpression`: What is left to read behind an expression is a suffix
  of what it left.
* `RollSet.isPlacedIn_of_read`: The mistake of a text stands in it.
-/

namespace DiceRoller

/-- A mistake that stands in a line: its own line is a suffix of it, and the text to
    blame stands at its position. -/
structure Mistake.IsPlacedIn (m : Mistake) (line : Text) : Prop where
  suffix : m.line <:+ line
  position_le : m.position ≤ m.line.length
  substring : m.substring <+: m.line.drop m.position

namespace Mistake

theorem IsPlacedIn.mono {m : Mistake} {line line' : Text} (h : m.IsPlacedIn line)
    (hs : line <:+ line') : m.IsPlacedIn line' :=
  ⟨h.suffix.trans hs, h.position_le, h.substring⟩

/-- A text that stands behind the first part of a line stands in the line. -/
theorem isPlacedIn_append (fault : Fault) (front part rest : Text) :
    IsPlacedIn ⟨fault, front ++ (part ++ rest), front.length, part⟩ (front ++ (part ++ rest)) := by
  refine ⟨List.suffix_rfl, ?_, ?_⟩
  · rw [List.length_append]
    exact Nat.le_add_right _ _
  · rw [List.drop_left]
    exact List.prefix_append _ _

theorem isPlacedIn_whole (fault : Fault) (line : Text) : (whole fault line).IsPlacedIn line :=
  ⟨List.suffix_rfl, Nat.zero_le _, List.prefix_rfl⟩

end Mistake

namespace Reader

/-- Two steps that fail in a row fail at the first or at the second. -/
theorem bind_eq_error {ε α β : Type} {x : Except ε α} {f : α → Except ε β} {e : ε}
    (h : (x >>= f) = .error e) : x = .error e ∨ ∃ a, x = .ok a ∧ f a = .error e := by
  cases x with
  | error e' =>
      have he : e' = e := Except.error.inj (show (.error e' : Except ε β) = .error e from h)
      exact Or.inl (by rw [he])
  | ok a => exact Or.inr ⟨a, rfl, h⟩

/-- What was made of an error was made of some error. -/
theorem mapError_eq_error {ε ε' α : Type} {x : Except ε α} {f : ε → ε'} {e : ε'}
    (h : x.mapError f = .error e) : ∃ e', x = .error e' ∧ f e' = e := by
  cases x with
  | error e' => exact ⟨e', rfl, Except.error.inj h⟩
  | ok a => exact nomatch h

/-- A number fails where it was said to stand. -/
theorem place_of_number {line ds : Text} {position : Nat} {m : Mistake}
    (h : number line position ds = .error m) : m.line = line ∧ m.position = position := by
  unfold number at h
  split at h
  · exact absurd h (by simp only [reduceCtorEq, not_false_eq_true])
  · rw [← Except.error.inj h]
    exact ⟨rfl, rfl⟩

/-- The quantity stands in front. -/
theorem place_of_quantity {limits : Limits} {line : Text} {head : Lexeme.RollHead} {m : Mistake}
    (h : quantity limits line head = .error m) : m.line = line ∧ m.position = 0 := by
  unfold quantity at h
  rcases bind_eq_error h with hn | ⟨n, -, h⟩
  · exact place_of_number hn
  · split at h
    · rw [← Except.error.inj h]
      exact ⟨rfl, rfl⟩
    · split at h
      · rw [← Except.error.inj h]
        exact ⟨rfl, rfl⟩
      · rw [← Except.error.inj h]
        exact ⟨rfl, rfl⟩
      · exact absurd h (by simp only [reduceCtorEq, not_false_eq_true])

/-- The faces stand behind the quantity and the `d`. -/
theorem place_of_spec {limits : Limits} {line : Text} {head : Lexeme.RollHead} {m : Mistake}
    (h : spec limits line head = .error m) :
    m.line = line ∧ m.position = head.quantity.length + 1 := by
  unfold spec at h
  split at h
  · exact absurd h (by simp only [reduceCtorEq, not_false_eq_true])
  · rcases bind_eq_error h with hn | ⟨n, -, h⟩
    · exact place_of_number hn
    · split at h
      · rw [← Except.error.inj h]
        exact ⟨rfl, rfl⟩
      · split at h
        · rw [← Except.error.inj h]
          exact ⟨rfl, rfl⟩
        · rw [← Except.error.inj h]
          exact ⟨rfl, rfl⟩
        · rcases mapError_eq_error h with ⟨e, -, rfl⟩
          exact ⟨rfl, rfl⟩

theorem place_of_constant {line : Text} {m : Mistake} (h : constant line = .error m) :
    m.line = line ∧ m.position = 0 := by
  unfold constant at h
  split at h
  · rw [← Except.error.inj h]
    exact ⟨rfl, rfl⟩
  · rcases bind_eq_error h with hn | ⟨n, -, h⟩
    · exact place_of_number hn
    · exact absurd h (by simp only [pure, Except.pure, reduceCtorEq, not_false_eq_true])

/-- What may not follow an expression stands behind the blanks. -/
theorem place_of_checkEnd {line : Text} {m : Mistake} (h : checkEnd line = .error m) :
    m.line = line ∧ m.position = (line.takeWhile Text.isBlank).length := by
  unfold checkEnd at h
  split at h
  · exact absurd h (by simp only [reduceCtorEq, not_false_eq_true])
  · have hline : line.takeWhile Text.isBlank ++ line.trimStart = line :=
      List.takeWhile_append_dropWhile
    have hlen := congrArg List.length hline
    rw [List.length_append] at hlen
    rw [← Except.error.inj h]
    exact ⟨rfl, by simp only; omega⟩

/-- Digits that are too many stand where they were read. -/
theorem isPlacedIn_of_number (front ds rest : Text) {m : Mistake}
    (h : number (front ++ (ds ++ rest)) front.length ds = .error m) :
    m.IsPlacedIn (front ++ (ds ++ rest)) := by
  unfold number at h
  split at h
  · exact absurd h (by simp only [reduceCtorEq, not_false_eq_true])
  · rw [← Except.error.inj h]
    exact Mistake.isPlacedIn_append _ _ _ _

/-- The mistake of a selector stands in its line. -/
theorem isPlacedIn_of_selector {line : Text} {m : Mistake} (h : selector line = .error m) :
    m.IsPlacedIn line := by
  unfold selector at h
  split at h
  · exact absurd h (by simp only [reduceCtorEq, not_false_eq_true])
  · rename_i keep high ds rest hs
    rcases Lexeme.eq_of_selector? hs with ⟨hline, -⟩
    -- Which letters they are does not matter here, only that they are two.
    generalize (if keep then 'k' else 'd') = a at hline
    generalize (if high then 'h' else 'l') = b at hline
    subst hline
    rcases bind_eq_error h with hn | ⟨n, -, h⟩
    · exact isPlacedIn_of_number [a, b] ds rest hn
    · split at h
      · rw [← Except.error.inj h]
        -- The whole selector is to blame: its letters together with its digits.
        exact Mistake.isPlacedIn_append _ [] (a :: b :: ds) rest
      · exact absurd h (by simp only [reduceCtorEq, not_false_eq_true])

/-- The mistake of one of several selectors stands in the line. -/
theorem isPlacedIn_of_selectors {line : Text} {m : Mistake} (h : selectors line = .error m) :
    m.IsPlacedIn line := by
  fun_induction selectors line with
  | case1 line m' hs =>
      rw [← Except.error.inj h]
      exact isPlacedIn_of_selector hs
  | case2 line hs => exact absurd h (by simp only [reduceCtorEq, not_false_eq_true])
  | case3 line s rest hs m' hm ih =>
      -- The mistake stands in what the first selector leaves.
      rcases exists_of_selector hs with ⟨f, hline, -⟩
      rw [Except.error.inj h] at hm
      exact (ih hm).mono ⟨f.text, hline.symm⟩
  | case4 line s rest hs more rest' hm ih =>
      exact absurd h (by simp only [reduceCtorEq, not_false_eq_true])

variable {maxDice maxFaces : Nat}

/-- A quantity that is refused stands at the front of the roll. -/
theorem isPlacedIn_of_quantity {head : Lexeme.RollHead} {line tail : Text} {m : Mistake}
    (hline : line = head.quantity ++ tail)
    (h : quantity (.upTo maxDice maxFaces) line head = .error m) : m.IsPlacedIn line := by
  subst hline
  -- Whatever is wrong, the digits of the quantity are to blame.
  have hplaced : ∀ fault : Fault,
      Mistake.IsPlacedIn ⟨fault, head.quantity ++ tail, 0, head.quantity⟩
        (head.quantity ++ tail) := fun fault => Mistake.isPlacedIn_append fault [] _ _
  unfold quantity at h
  rcases bind_eq_error h with hn | ⟨n, -, h⟩
  · exact isPlacedIn_of_number [] head.quantity tail hn
  · split at h
    · rw [← Except.error.inj h]
      exact hplaced _
    · simp only [Limits.upTo, Ceiling.ofInt, Ceiling.exceeded?] at h
      by_cases hle : (n : Int) ≤ maxDice
      · simp only [if_pos hle, reduceCtorEq] at h
      · simp only [if_neg hle, Except.error.injEq] at h
        rw [← h]
        exact hplaced _

/-- Faces that are refused stand behind the quantity and the letter of a roll. -/
theorem isPlacedIn_of_spec {head : Lexeme.RollHead} {line : Text} {m : Mistake}
    (hline : line = head.quantity ++ 'd' :: (head.faces.text ++ head.rest))
    (h : spec (.upTo maxDice maxFaces) line head = .error m) : m.IsPlacedIn line := by
  -- The faces stand behind the quantity and the `d`.
  have hfront : line = (head.quantity ++ ['d']) ++ (head.faces.text ++ head.rest) := by
    rw [hline, List.append_assoc]
    rfl
  have hlen : head.quantity.length + 1 = (head.quantity ++ ['d']).length := by
    rw [List.length_append]
    rfl
  unfold spec at h
  split at h
  · exact absurd h (by simp only [reduceCtorEq, not_false_eq_true])
  · rename_i ds hf
    rw [hf] at hfront
    simp only [Lexeme.Faces.text] at hfront
    simp only [hlen, hfront] at h
    rw [hfront]
    -- Whatever is wrong, the digits of the faces are to blame.
    have hplaced : ∀ fault : Fault,
        Mistake.IsPlacedIn ⟨fault, (head.quantity ++ ['d']) ++ (ds ++ head.rest),
          (head.quantity ++ ['d']).length, ds⟩ ((head.quantity ++ ['d']) ++ (ds ++ head.rest)) :=
      fun fault => Mistake.isPlacedIn_append fault _ _ _
    rcases bind_eq_error h with hn | ⟨n, -, h⟩
    · exact isPlacedIn_of_number (head.quantity ++ ['d']) ds head.rest hn
    · split at h
      · rw [← Except.error.inj h]
        exact hplaced _
      · simp only [Limits.upTo, Ceiling.ofInt, Ceiling.exceeded?] at h
        by_cases hle : (n : Int) ≤ maxFaces
        · simp only [if_pos hle] at h
          rcases mapError_eq_error h with ⟨e, -, rfl⟩
          exact hplaced _
        · simp only [if_neg hle, Except.error.injEq] at h
          rw [← h]
          exact hplaced _

/-- The mistake of a roll stands in its line, also if a selector made it. -/
theorem isPlacedIn_of_rollFrom {head : Lexeme.RollHead} {line : Text} {m : Mistake}
    (hh : Lexeme.rollHead? line = some head)
    (h : rollFrom (.upTo maxDice maxFaces) line head = .error m) : m.IsPlacedIn line := by
  rcases Lexeme.eq_of_rollHead? hh with ⟨hline, -, -⟩
  unfold rollFrom at h
  rcases bind_eq_error h with hq | ⟨n, -, h⟩
  · exact isPlacedIn_of_quantity hline hq
  rcases bind_eq_error h with hf | ⟨s, -, h⟩
  · exact isPlacedIn_of_spec hline hf
  rcases bind_eq_error h with hs | ⟨ss, -, h⟩
  · -- The selectors are what the head of the roll leaves.
    refine (isPlacedIn_of_selectors hs).mono ?_
    rw [hline]
    exact ((List.suffix_append _ _).trans (List.suffix_cons _ _)).trans (List.suffix_append _ _)
  · exact absurd h (by simp only [pure, Except.pure, reduceCtorEq, not_false_eq_true])

/-- The mistake of a constant is the constant, or that there is none. -/
theorem isPlacedIn_of_constant {line : Text} {m : Mistake} (h : constant line = .error m) :
    m.IsPlacedIn line := by
  unfold constant at h
  split at h
  · rw [← Except.error.inj h]
    exact Mistake.isPlacedIn_whole _ line
  · rcases bind_eq_error h with hn | ⟨n, -, h⟩
    · have hline := Lexeme.digits_append_afterDigits line
      generalize Lexeme.digits line = ds at hn hline
      rw [← hline] at hn ⊢
      exact isPlacedIn_of_number [] ds (Lexeme.afterDigits line) hn
    · exact absurd h (by simp only [pure, Except.pure, reduceCtorEq, not_false_eq_true])

/-- The mistake of a term stands in its line. -/
theorem isPlacedIn_of_term {line : Text} {m : Mistake}
    (h : term (.upTo maxDice maxFaces) line = .error m) : m.IsPlacedIn line := by
  unfold term at h
  split at h
  · rename_i head hh
    rcases bind_eq_error h with hr | ⟨r, -, h⟩
    · exact isPlacedIn_of_rollFrom hh hr
    · exact absurd h (by simp only [pure, Except.pure, reduceCtorEq, not_false_eq_true])
  · split at h
    · rw [← Except.error.inj h]
      exact Mistake.isPlacedIn_whole _ line
    · rcases bind_eq_error h with hc | ⟨r, -, h⟩
      · exact isPlacedIn_of_constant hc
      · exact absurd h (by simp only [pure, Except.pure, reduceCtorEq, not_false_eq_true])

/-- The mistake of one of several terms behind signs stands in the line. -/
theorem isPlacedIn_of_signedTerms {line : Text} {m : Mistake}
    (h : signedTerms (.upTo maxDice maxFaces) line = .error m) : m.IsPlacedIn line := by
  fun_induction signedTerms (.upTo maxDice maxFaces) line with
  | case1 line hs => exact absurd h (by simp only [reduceCtorEq, not_false_eq_true])
  | case2 line sign rest hs m' ht =>
      rcases Lexeme.exists_of_sign? hs with ⟨f, hline, -⟩
      rw [← Except.error.inj h]
      exact (isPlacedIn_of_term ht).mono ⟨f.text, hline.symm⟩
  | case3 line sign rest hs t rest' ht m' hm ih =>
      rcases Lexeme.exists_of_sign? hs with ⟨f, hline, -⟩
      -- The line of the mistake is left by a sign and a term.
      rcases exists_of_term ht with ⟨g, hrest, -⟩
      rw [Except.error.inj h] at hm
      exact ((ih hm).mono ⟨g.text, hrest.symm⟩).mono ⟨f.text, hline.symm⟩
  | case4 line sign rest hs t rest' ht more rest'' hm ih =>
      exact absurd h (by simp only [reduceCtorEq, not_false_eq_true])

/-- What may not follow an expression stands behind it. -/
theorem isPlacedIn_of_checkEnd {line : Text} {m : Mistake} (h : checkEnd line = .error m) :
    m.IsPlacedIn line := by
  have hplace := place_of_checkEnd h
  unfold checkEnd at h
  split at h
  · exact absurd h (by simp only [reduceCtorEq, not_false_eq_true])
  · rw [← Except.error.inj h] at hplace ⊢
    -- What is to blame is the line without the blanks in front.
    have hline : line.takeWhile Text.isBlank ++ line.trimStart = line :=
      List.takeWhile_append_dropWhile
    have hdrop := congrArg (List.drop (line.takeWhile Text.isBlank).length) hline
    rw [List.drop_left] at hdrop
    refine ⟨List.suffix_rfl, Nat.sub_le _ _, ?_⟩
    exact ⟨[], by rw [List.append_nil, hplace.2, ← hdrop]⟩

/-- The mistake of an expression stands in its line. -/
theorem isPlacedIn_of_expression {line : Text} {m : Mistake}
    (h : expression (.upTo maxDice maxFaces) line = .error m) : m.IsPlacedIn line := by
  have hsign : ((Lexeme.sign? line).getD (.plus, line)).2 <:+ line := by
    rcases Lexeme.exists_leading line with ⟨leading, hline, -⟩
    exact ⟨_, hline.symm⟩
  simp only [expression] at h
  -- The first step that fails got a suffix of the line from the steps before it.
  rcases bind_eq_error h with ht | ⟨⟨t, rest⟩, ht, h⟩
  · exact (isPlacedIn_of_term ht).mono hsign
  rcases exists_of_term ht with ⟨g, hrest, -⟩
  have hrest : rest <:+ line := List.IsSuffix.trans ⟨g.text, hrest.symm⟩ hsign
  rcases bind_eq_error h with hm | ⟨⟨more, rest'⟩, hm, h⟩
  · exact (isPlacedIn_of_signedTerms hm).mono hrest
  rcases exists_of_signedTerms hm with ⟨gs, hrest', -⟩
  rcases bind_eq_error h with hc | ⟨u, -, h⟩
  · exact (isPlacedIn_of_checkEnd hc).mono (List.IsSuffix.trans ⟨_, hrest'.symm⟩ hrest)
  · exact absurd h (by simp only [pure, Except.pure, reduceCtorEq, not_false_eq_true])

/-- What is left to read behind an expression is a suffix of what it left. -/
theorem suffix_afterExpression (line : Text) : afterExpression line <:+ line := by
  unfold afterExpression
  rcases hs : Lexeme.separator? line with _ | rest
  · exact List.nil_suffix
  · rcases Lexeme.exists_of_separator? hs with ⟨f, hline⟩
    exact ⟨f.text, hline.symm⟩

/-- The mistake of one of several expressions stands in the line of them all. -/
theorem isPlacedIn_of_expressions {line : Text} {m : Mistake}
    (h : expressions (.upTo maxDice maxFaces) line = .error m) : m.IsPlacedIn line := by
  fun_induction expressions (.upTo maxDice maxFaces) line with
  | case1 => exact absurd h (by simp only [reduceCtorEq, not_false_eq_true])
  | case2 line hne m' he =>
      rw [← Except.error.inj h]
      exact isPlacedIn_of_expression he
  | case3 line hne e rest he m' hm ih =>
      -- The line of the mistake is left by an expression and a separator.
      rcases exists_of_expression he with ⟨⟨f, hline, -⟩, -⟩
      rw [Except.error.inj h] at hm
      exact ((ih hm).mono (suffix_afterExpression rest)).mono ⟨f.text, hline.symm⟩
  | case4 line hne e rest he more hm ih =>
      exact absurd h (by simp only [reduceCtorEq, not_false_eq_true])

end Reader

/-- The mistake of a text stands in it, and nowhere but in the text itself. -/
theorem RollSet.isPlacedIn_of_read {maxDice maxFaces : Nat} {text : Text} {m : Mistake}
    (h : RollSet.read (.upTo maxDice maxFaces) text = .error m) :
    m.IsPlacedIn text ∧ m.line = text := by
  unfold RollSet.read at h
  split at h
  · rw [← Except.error.inj h]
    exact ⟨Mistake.isPlacedIn_whole _ text, rfl⟩
  · split at h
    · rename_i m' hm
      rw [← Except.error.inj h]
      -- The line of the mistake is what some front of the text leaves.
      have hp := (Reader.isPlacedIn_of_expressions hm).mono (List.dropWhile_suffix Text.isBlank)
      rcases hp.suffix with ⟨front, hfront⟩
      have hlen := congrArg List.length hfront
      rw [List.length_append] at hlen
      have hpos := hp.position_le
      refine ⟨⟨List.suffix_rfl, ?_, ?_⟩, rfl⟩
      · simp only [Mistake.within]
        omega
      · -- The front is as long as the lengths differ, so dropping it leads to the line.
        have hsub := hp.substring
        have hdiff : text.length - m'.line.length = front.length := by omega
        simp only [Mistake.within, hdiff, ← List.drop_drop]
        rw [← hfront, List.drop_left]
        exact hsub
    · exact absurd h (by simp only [reduceCtorEq, not_false_eq_true])

end DiceRoller
