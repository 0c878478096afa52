import DiceRoller.Proofs.Grammar.Lexemes

/-!
# What a reader accepts

Everything that a reader takes off the front of a line is the text of a form, and
what it returns is what the form means. Each reader has one lemma of this kind, and
the lemma for a loop is an induction along the loop. The bounds of a form are the
numbers at which the limits of the reader stand.

The whole text needs one more look at its end. An expression may be followed by
blanks of any kind, after which nothing is left to read, or by a separator. In the
second case reading goes on behind the separator, and if nothing stands there, the
separator itself was the end.

## Theorems

* `Reader.bind_eq_ok`: Two steps that succeed in a row succeed one by one.
* `Reader.exists_of_number`: Digits that were read as a number are a run of digits.
* `Reader.exists_of_selector`: A selector that was read has a form.
* `Reader.exists_of_selectors`: Selectors are the text of selector forms.
* `Reader.exists_of_quantity`: A quantity that was read is a run of digits within the
  bound.
* `Reader.exists_of_spec`: The faces of a head that were read have a form.
* `Reader.exists_of_rollFrom`: A roll that was read behind its head has a form.
* `Reader.exists_of_constant`: A constant that was read is a run of digits.
* `Reader.exists_of_term`: A term is the text of a form.
* `Reader.exists_of_signedTerms`: So are the terms behind signs.
* `Reader.exists_of_expression`: So is an expression.
* `Reader.exists_of_expressions`: So are expressions up to the end of a line.
* `RollSet.exists_form_of_read`: So is a whole text.
-/

namespace DiceRoller

namespace Reader

/-- Two steps that succeed in a row succeed one by one. -/
theorem bind_eq_ok {ε α β : Type} {x : Except ε α} {f : α → Except ε β} {b : β}
    (h : (x >>= f) = .ok b) : ∃ a, x = .ok a ∧ f a = .ok b := by
  cases x with
  | error e => exact absurd h (by simp only [bind, Except.bind, reduceCtorEq, not_false_eq_true])
  | ok a => exact ⟨a, rfl, h⟩

/-- Digits that were read as a number are a run of digits. -/
theorem exists_of_number {line ds : Text} {position n : Nat} (hd : Lexeme.IsDigits ds)
    (h : number line position ds = .ok n) : ∃ r : DigitRun, r.digits = ds ∧ r.value = n := by
  unfold number at h
  split at h
  · rename_i hlen
    exact ⟨⟨ds, hd.1, hd.2, hlen⟩, rfl, Except.ok.inj h⟩
  · exact absurd h (by simp only [reduceCtorEq, not_false_eq_true])

/-- A selector that was read has a form. -/
theorem exists_of_selector {line rest : Text} {s : Selector}
    (h : selector line = .ok (some (s, rest))) :
    ∃ f : SelectorForm, line = f.text ++ rest ∧ f.value = s := by
  unfold selector at h
  split at h
  · exact absurd h (by simp only [Except.ok.injEq, reduceCtorEq, not_false_eq_true])
  · rename_i keep high ds tail hs
    rcases Lexeme.eq_of_selector? hs with ⟨hline, hd⟩
    rcases bind_eq_ok h with ⟨n, hn, h⟩
    -- The number was checked, which is what the form asks for.
    split at h
    · exact absurd h (by simp only [reduceCtorEq, not_false_eq_true])
    · rename_i hpos
      simp only [Except.ok.injEq, Option.some.injEq, Prod.mk.injEq] at h
      rcases h with ⟨rfl, rfl⟩
      rcases exists_of_number hd hn with ⟨r, rfl, rfl⟩
      exact ⟨⟨keep, high, r, by omega⟩, hline, rfl⟩

/-- Selectors that were read have forms. -/
theorem exists_of_selectors {line rest : Text} {ss : List Selector}
    (h : selectors line = .ok (ss, rest)) :
    ∃ fs : List SelectorForm,
      line = fs.flatMap SelectorForm.text ++ rest ∧ fs.map SelectorForm.value = ss := by
  fun_induction selectors line generalizing ss with
  | case1 line m hs => exact absurd h (by simp only [reduceCtorEq, not_false_eq_true])
  | case2 line hs =>
      simp only [Except.ok.injEq, Prod.mk.injEq] at h
      rcases h with ⟨rfl, rfl⟩
      exact ⟨[], rfl, rfl⟩
  | case3 line s tail hs m hm => exact absurd h (by simp only [reduceCtorEq, not_false_eq_true])
  | case4 line s tail hs more tail' hm ih =>
      simp only [Except.ok.injEq, Prod.mk.injEq] at h
      rcases h with ⟨rfl, rfl⟩
      rcases exists_of_selector hs with ⟨f, hline, rfl⟩
      rcases ih hm with ⟨fs, htail, rfl⟩
      refine ⟨f :: fs, ?_, rfl⟩
      rw [hline, htail, List.flatMap_cons, List.append_assoc]

variable {maxDice maxFaces : Nat}

/-- A quantity that was read is a run of digits within the bound. -/
theorem exists_of_quantity {line : Text} {head : Lexeme.RollHead} {n : Nat}
    (hd : Lexeme.IsDigits head.quantity)
    (h : quantity (.upTo maxDice maxFaces) line head = .ok n) :
    ∃ r : DigitRun, r.digits = head.quantity ∧ r.value = n ∧ 1 ≤ n ∧ n ≤ maxDice := by
  unfold quantity at h
  rcases bind_eq_ok h with ⟨k, hk, h⟩
  split at h
  · exact absurd h (by simp only [reduceCtorEq, not_false_eq_true])
  · rename_i hpos
    -- The ceiling is a whole number, so it is exceeded or it is not.
    simp only [Limits.upTo, Ceiling.ofInt, Ceiling.exceeded?] at h
    by_cases hle : (k : Int) ≤ maxDice
    · simp only [if_pos hle, Except.ok.injEq] at h
      rcases exists_of_number hd hk with ⟨r, hr, hv⟩
      exact ⟨r, hr, by omega, by omega, by omega⟩
    · simp only [if_neg hle, reduceCtorEq] at h

/-- The faces of a head that were read have a form. -/
theorem exists_of_spec {line : Text} {head : Lexeme.RollHead} {s : DieSpec}
    (hw : head.faces.IsWritten) (h : spec (.upTo maxDice maxFaces) line head = .ok s) :
    ∃ f : FacesForm maxFaces, f.text = head.faces.text ∧ f.value = s := by
  unfold spec at h
  split at h
  · rename_i hf
    exact ⟨.fate, by rw [hf]; rfl, Except.ok.inj h⟩
  · rename_i ds hf
    rw [hf] at hw
    rcases bind_eq_ok h with ⟨k, hk, h⟩
    rcases exists_of_number hw hk with ⟨r, hr, rfl⟩
    split at h
    · exact absurd h (by simp only [reduceCtorEq, not_false_eq_true])
    · rename_i hpos
      simp only [Limits.upTo, Ceiling.ofInt, Ceiling.exceeded?] at h
      by_cases hle : (r.value : Int) ≤ maxFaces
      · simp only [if_pos hle] at h
        -- A die has been put together, so there is a value for each of its faces.
        by_cases hfew : r.value < DieSpec.mostFaces
        · rw [DieSpec.numbered?_of_lt hfew] at h
          exact ⟨.numbered r (by omega) (by omega) hfew, by rw [hf, ← hr]; rfl, Except.ok.inj h⟩
        · rw [DieSpec.numbered?_of_le (Nat.le_of_not_lt hfew)] at h
          exact nomatch h
      · simp only [if_neg hle, reduceCtorEq] at h

/-- A roll that was read behind its head has a form. -/
theorem exists_of_rollFrom {line rest : Text} {head : Lexeme.RollHead} {r : Roll}
    (hh : Lexeme.rollHead? line = some head)
    (h : rollFrom (.upTo maxDice maxFaces) line head = .ok (r, rest)) :
    ∃ f : RollForm maxDice maxFaces, line = f.text ++ rest ∧ f.value = r := by
  rcases Lexeme.eq_of_rollHead? hh with ⟨hline, hd, hw⟩
  unfold rollFrom at h
  -- The quantity, the faces and the selectors, in the order in which they are read.
  rcases bind_eq_ok h with ⟨n, hn, h⟩
  rcases bind_eq_ok h with ⟨s, hs, h⟩
  rcases bind_eq_ok h with ⟨⟨ss, tail⟩, hss, h⟩
  simp only [pure, Except.pure, Except.ok.injEq, Prod.mk.injEq] at h
  rcases h with ⟨rfl, rfl⟩
  rcases exists_of_quantity hd hn with ⟨q, hq, rfl, hone, hle⟩
  rcases exists_of_spec hw hs with ⟨f, hf, rfl⟩
  rcases exists_of_selectors hss with ⟨fs, htail, rfl⟩
  refine ⟨⟨q, hone, hle, f, fs⟩, ?_, rfl⟩
  simp only [RollForm.text, hline, hq, hf, htail, List.append_assoc, List.cons_append]

/-- A constant that was read is a run of digits. -/
theorem exists_of_constant {line rest : Text} {n : Int} (h : constant line = .ok (n, rest)) :
    ∃ r : DigitRun, line = r.digits ++ rest ∧ (r.value : Int) = n := by
  unfold constant at h
  split at h
  · exact absurd h (by simp only [reduceCtorEq, not_false_eq_true])
  · rename_i hd
    rcases bind_eq_ok h with ⟨k, hk, h⟩
    simp only [pure, Except.pure, Except.ok.injEq, Prod.mk.injEq] at h
    rcases h with ⟨rfl, rfl⟩
    rcases exists_of_number (Lexeme.isDigits_digits hd) hk with ⟨r, hr, rfl⟩
    exact ⟨r, by rw [hr, Lexeme.digits_append_afterDigits], rfl⟩

/-- A term that was read has a form. -/
theorem exists_of_term {line rest : Text} {t : Term}
    (h : term (.upTo maxDice maxFaces) line = .ok (t, rest)) :
    ∃ f : TermForm maxDice maxFaces, line = f.text ++ rest ∧ f.value = t := by
  unfold term at h
  split at h
  · rename_i head hh
    rcases bind_eq_ok h with ⟨⟨r, tail⟩, hr, h⟩
    simp only [pure, Except.pure, Except.ok.injEq, Prod.mk.injEq] at h
    rcases h with ⟨rfl, rfl⟩
    rcases exists_of_rollFrom hh hr with ⟨f, hline, rfl⟩
    exact ⟨.roll f, hline, rfl⟩
  · -- No head of a roll, so a run of digits alone.
    split at h
    · exact absurd h (by simp only [reduceCtorEq, not_false_eq_true])
    · rcases bind_eq_ok h with ⟨⟨n, tail⟩, hc, h⟩
      simp only [pure, Except.pure, Except.ok.injEq, Prod.mk.injEq] at h
      rcases h with ⟨rfl, rfl⟩
      rcases exists_of_constant hc with ⟨r, hline, rfl⟩
      exact ⟨.constant r, hline, rfl⟩

/-- Terms behind signs that were read have forms. -/
theorem exists_of_signedTerms {line rest : Text} {ts : List (Sign × Term)}
    (h : signedTerms (.upTo maxDice maxFaces) line = .ok (ts, rest)) :
    ∃ fs : List (SignForm × TermForm maxDice maxFaces),
      line = ExpressionForm.moreText fs ++ rest ∧ ExpressionForm.moreValue fs = ts := by
  fun_induction signedTerms (.upTo maxDice maxFaces) line generalizing ts with
  | case1 line hs =>
      simp only [Except.ok.injEq, Prod.mk.injEq] at h
      rcases h with ⟨rfl, rfl⟩
      exact ⟨[], rfl, rfl⟩
  | case2 line sign tail hs m ht => exact absurd h (by simp only [reduceCtorEq, not_false_eq_true])
  | case3 line sign tail hs t tail' ht m hm =>
      exact absurd h (by simp only [reduceCtorEq, not_false_eq_true])
  | case4 line sign tail hs t tail' ht more tail'' hm ih =>
      simp only [Except.ok.injEq, Prod.mk.injEq] at h
      rcases h with ⟨rfl, rfl⟩
      rcases Lexeme.exists_of_sign? hs with ⟨f, hline, rfl⟩
      rcases exists_of_term ht with ⟨g, htail, rfl⟩
      rcases ih hm with ⟨fs, htail', rfl⟩
      refine ⟨(f, g) :: fs, ?_, rfl⟩
      -- The sign, the term and what the rest of the loop took, one behind the other.
      simp only [ExpressionForm.moreText, List.flatMap_cons, List.append_assoc] at htail' ⊢
      rw [hline, htail, htail']

/-- An expression that was read has a form, and it may end where the rest begins. -/
theorem exists_of_expression {line rest : Text} {e : Expression}
    (h : expression (.upTo maxDice maxFaces) line = .ok (e, rest)) :
    (∃ f : ExpressionForm maxDice maxFaces, line = f.text ++ rest ∧ f.value = e) ∧
      (rest.trimStart = [] ∨ (Lexeme.separator? rest).isSome) := by
  -- The sign in front, if there is one, and the line behind it.
  rcases Lexeme.exists_leading line with ⟨leading, hline, hlead⟩
  simp only [expression] at h
  rcases bind_eq_ok h with ⟨⟨t, tail⟩, ht, h⟩
  rcases bind_eq_ok h with ⟨⟨more, tail'⟩, hm, h⟩
  rcases bind_eq_ok h with ⟨u, hc, h⟩
  simp only [pure, Except.pure, Except.ok.injEq, Prod.mk.injEq] at h
  rcases h with ⟨rfl, rfl⟩
  rcases exists_of_term ht with ⟨g, htail, rfl⟩
  rcases exists_of_signedTerms hm with ⟨fs, htail', rfl⟩
  refine ⟨⟨⟨leading, g, fs⟩, ?_, ?_⟩, ?_⟩
  · rw [ExpressionForm.text, List.append_assoc, List.append_assoc, ← htail', ← htail, ← hline]
  · rw [ExpressionForm.value, hlead]
  · -- The check at the end passed, and it names the two ways to end.
    unfold checkEnd at hc
    split at hc
    · assumption
    · exact absurd hc (by simp only [reduceCtorEq, not_false_eq_true])

/-- Expressions that were read up to the end of a line have forms. -/
theorem exists_of_expressions {line : Text} {es : List Expression}
    (h : expressions (.upTo maxDice maxFaces) line = .ok es) (hne : line ≠ []) :
    ∃ (first : ExpressionForm maxDice maxFaces)
      (more : List (SeparatorForm × ExpressionForm maxDice maxFaces)) (ending : EndForm),
      line = first.text ++ NotationForm.moreText more ending ∧
        (first :: more.map Prod.snd).map ExpressionForm.value = es := by
  fun_induction expressions (.upTo maxDice maxFaces) line generalizing es with
  | case1 => exact absurd rfl hne
  | case2 line _ m he => exact absurd h (by simp only [reduceCtorEq, not_false_eq_true])
  | case3 line _ e rest he m hm => exact absurd h (by simp only [reduceCtorEq, not_false_eq_true])
  | case4 line _ e rest he more hm ih =>
      rw [← Except.ok.inj h]
      rcases exists_of_expression he with ⟨⟨f, hline, rfl⟩, hend⟩
      rcases hs : Lexeme.separator? rest with _ | tail
      · -- No separator: the rest is blanks, and nothing is left to read.
        have hblank : ∀ c ∈ rest, Text.isBlank c = true := by
          rcases hend with hend | hend
          · exact List.dropWhile_eq_nil_iff.mp hend
          · rw [hs] at hend
            exact absurd hend (by simp only [Option.isSome_none, Bool.false_eq_true,
              not_false_eq_true])
        simp only [afterExpression, hs, Option.getD_none] at hm
        rw [expressions, if_pos rfl] at hm
        rw [← Except.ok.inj hm]
        exact ⟨f, [], .blanks ⟨rest, hblank⟩, hline, rfl⟩
      · rcases Lexeme.exists_of_separator? hs with ⟨g, hrest⟩
        simp only [afterExpression, hs, Option.getD_some] at hm ih
        by_cases htail : tail = []
        · -- Nothing behind the separator: it was the end.
          rw [htail, expressions, if_pos rfl] at hm
          rw [← Except.ok.inj hm]
          refine ⟨f, [], .separator g, ?_, rfl⟩
          rw [hline, hrest, htail, List.append_nil]
          rfl
        · rcases ih hm htail with ⟨f', more', ending, htail', rfl⟩
          refine ⟨f, (g, f') :: more', ending, ?_, rfl⟩
          rw [hline, hrest, htail']
          simp only [NotationForm.moreText, List.flatMap_cons, List.append_assoc]

end Reader

/-- A text that was read has a form, and the set is what the form means. -/
theorem RollSet.exists_form_of_read {maxDice maxFaces : Nat} {text : Text} {s : RollSet}
    (h : RollSet.read (.upTo maxDice maxFaces) text = .ok s) :
    ∃ f : NotationForm maxDice maxFaces,
      f.text = text ∧ s = ⟨f.expressions, some text.trim⟩ := by
  unfold RollSet.read at h
  split at h
  · exact absurd h (by simp only [reduceCtorEq, not_false_eq_true])
  · rename_i hne
    split at h
    · exact absurd h (by simp only [reduceCtorEq, not_false_eq_true])
    · rename_i es hes
      -- The margin is what trimming took off the front.
      rcases Reader.exists_of_expressions hes hne with ⟨first, more, ending, hline, hval⟩
      refine ⟨⟨⟨text.takeWhile Text.isBlank, fun c hc => List.mem_takeWhile_imp hc⟩, first, more,
        ending⟩, ?_, ?_⟩
      · rw [NotationForm.text, ← hline]
        exact List.takeWhile_append_dropWhile
      · rw [← Except.ok.inj h, NotationForm.expressions, NotationForm.forms, hval]

end DiceRoller
