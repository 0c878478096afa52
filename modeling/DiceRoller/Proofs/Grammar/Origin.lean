import DiceRoller.Proofs.Grammar.Ceilings
import DiceRoller.Proofs.Grammar.Placement

/-!
# Where mistakes come from

Only some readers find mistakes of their own. A reader of a whole is done when one of
its parts fails, and hands the mistake on as it got it. So the mistake that comes out
in the end is one that a reader of a selector, of a term or of what stands behind the
terms found in the very line that it was given, and that line is a suffix of the text.
Nothing is done to it on the way but one thing: the length of what stands in front of
that suffix is added to its position.

A number is read from digits that some reader had recognised, so its mistakes count as
those of that reader. They are the only ones that do not stand at the front of the line
or directly behind the `d` of a roll.

What is raised under limits that are numbers is a mistake of the notation, unless it is
that the values of a die cannot be put together. Only the reader of faces can find that,
and it has compared the faces with their limit by then.

## Main definitions

* `Reader.Raises`: A mistake that a reader found in its own line.
* `Mistake.IsExcess`: Faces within a bound, but too many to have values.

## Theorems

* `Reader.line_of_selector`, `Reader.selector_of_selectors`, `Reader.line_of_rollFrom`:
  The line in which a selector or a roll fails.
* `Reader.raises_of_term`, `Reader.raises_of_signedTerms`, `Reader.raises_of_expression`,
  `Reader.raises_of_expressions`: What is handed on was raised.
* `RollSet.exists_raised`: The mistake of a text that is not blank was raised.
* `Reader.isMistake_of_number`: Too many digits are a mistake.
* `Reader.isMistake_of_selector`: A selector is refused for a mistake only.
* `Reader.isMistake_of_constant`: So is a constant.
* `Reader.isMistake_of_quantity`: The limit is a number, so it can be compared with.
* `Reader.isMistake_or_isExcess_of_spec`, `Reader.isMistake_or_isExcess_of_raises`: What
  is raised is a mistake, or that faces have too many values.
* `Reader.isMistake_or_isExcess_of_term`: A term is refused for a mistake, or for its
  faces.
* `RollSet.isMistake_or_isExcess_of_read`, `RollSet.isMistake_of_read`: So is what a text
  is refused for, and under a low limit it is a mistake.
* `RollSet.exists_raised_of_read`: The mistake of a text is one that was raised, moved to
  its place.
* `RollSet.exists_raised_of_read_two_separators`: The second separator of two in a row is
  where a term should begin.
-/

namespace DiceRoller

namespace Reader

/-- A mistake that some reader finds in the line that it was given: the reader of a
    selector, of a term, or of the end of an expression. -/
def Raises (limits : Limits) (m : Mistake) : Prop :=
  selector m.line = .error m ∨ term limits m.line = .error m ∨ checkEnd m.line = .error m

/-- A selector fails in its own line. -/
theorem line_of_selector {line : Text} {m : Mistake} (h : selector line = .error m) :
    m.line = line := by
  unfold selector at h
  split at h
  · exact absurd h (by simp only [reduceCtorEq, not_false_eq_true])
  · rcases bind_eq_error h with hn | ⟨n, -, h⟩
    · exact (place_of_number hn).1
    · split at h
      · rw [← Except.error.inj h]
      · exact absurd h (by simp only [reduceCtorEq, not_false_eq_true])

/-- One of several selectors failed, in its own line. -/
theorem selector_of_selectors {line : Text} {m : Mistake} (h : selectors line = .error m) :
    selector m.line = .error m := by
  fun_induction selectors line with
  | case1 line m' hs =>
      rw [Except.error.inj h] at hs
      rw [line_of_selector hs]
      exact hs
  | case2 line hs => exact absurd h (by simp only [reduceCtorEq, not_false_eq_true])
  | case3 line s rest hs m' hm ih =>
      rw [Except.error.inj h] at hm
      exact ih hm
  | case4 line s rest hs more rest' hm ih =>
      exact absurd h (by simp only [reduceCtorEq, not_false_eq_true])

/-- A roll fails in its own line unless one of its selectors does. -/
theorem line_of_rollFrom {limits : Limits} {line : Text} {head : Lexeme.RollHead} {m : Mistake}
    (h : rollFrom limits line head = .error m) : m.line = line ∨ selector m.line = .error m := by
  unfold rollFrom at h
  rcases bind_eq_error h with hq | ⟨n, -, h⟩
  · exact Or.inl (place_of_quantity hq).1
  rcases bind_eq_error h with hf | ⟨s, -, h⟩
  · exact Or.inl (place_of_spec hf).1
  rcases bind_eq_error h with hs | ⟨ss, -, h⟩
  · exact Or.inr (selector_of_selectors hs)
  · exact absurd h (by simp only [pure, Except.pure, reduceCtorEq, not_false_eq_true])

variable {limits : Limits}

/-- A term fails itself, or one of its selectors does. -/
theorem raises_of_term {line : Text} {m : Mistake} (h : term limits line = .error m) :
    Raises limits m := by
  have hline : m.line = line ∨ selector m.line = .error m := by
    unfold term at h
    split at h
    · rcases bind_eq_error h with hr | ⟨r, -, h⟩
      · exact line_of_rollFrom hr
      · exact absurd h (by simp only [pure, Except.pure, reduceCtorEq, not_false_eq_true])
    · split at h
      · rw [← Except.error.inj h]
        exact Or.inl rfl
      · rcases bind_eq_error h with hc | ⟨r, -, h⟩
        · exact Or.inl (place_of_constant hc).1
        · exact absurd h (by simp only [pure, Except.pure, reduceCtorEq, not_false_eq_true])
  rcases hline with rfl | hs
  · exact Or.inr (Or.inl h)
  · exact Or.inl hs

/-- Terms behind signs hand on what one of them raised. -/
theorem raises_of_signedTerms {line : Text} {m : Mistake} (h : signedTerms limits line = .error m) :
    Raises limits m := by
  fun_induction signedTerms limits line with
  | case1 line hs => exact absurd h (by simp only [reduceCtorEq, not_false_eq_true])
  | case2 line sign rest hs m' ht =>
      rw [Except.error.inj h] at ht
      exact raises_of_term ht
  | case3 line sign rest hs t rest' ht m' hm ih =>
      rw [Except.error.inj h] at hm
      exact ih hm
  | case4 line sign rest hs t rest' ht more rest'' hm ih =>
      exact absurd h (by simp only [reduceCtorEq, not_false_eq_true])

/-- An expression hands on what its terms raised, or fails at its end. -/
theorem raises_of_expression {line : Text} {m : Mistake} (h : expression limits line = .error m) :
    Raises limits m := by
  simp only [expression] at h
  -- The parts in the order in which they are read: a term, further terms, the end.
  rcases bind_eq_error h with ht | ⟨t, -, h⟩
  · exact raises_of_term ht
  rcases bind_eq_error h with hm | ⟨more, -, h⟩
  · exact raises_of_signedTerms hm
  rcases bind_eq_error h with hc | ⟨u, -, h⟩
  · rw [← (place_of_checkEnd hc).1] at hc
    exact Or.inr (Or.inr hc)
  · exact absurd h (by simp only [pure, Except.pure, reduceCtorEq, not_false_eq_true])

/-- A text hands on what one of its expressions raised. -/
theorem raises_of_expressions {line : Text} {m : Mistake}
    (h : expressions limits line = .error m) : Raises limits m := by
  fun_induction expressions limits line with
  | case1 => exact absurd h (by simp only [reduceCtorEq, not_false_eq_true])
  | case2 line hne m' he =>
      rw [Except.error.inj h] at he
      exact raises_of_expression he
  | case3 line hne e rest he m' hm ih =>
      rw [Except.error.inj h] at hm
      exact ih hm
  | case4 line hne e rest he more hm ih =>
      exact absurd h (by simp only [reduceCtorEq, not_false_eq_true])

end Reader

namespace RollSet

/-- Unless it is blank, a text that cannot be read has the mistake of a reader, moved by
    the length of what stands in front of the line of that reader. -/
theorem exists_raised {maxDice maxFaces : Nat} {text : Text} {m : Mistake}
    (h : RollSet.read (.upTo maxDice maxFaces) text = .error m) :
    m = .whole .nothing text ∨
      ∃ (raised : Mistake) (front : Text), Reader.Raises (.upTo maxDice maxFaces) raised ∧
        front ++ raised.line = text ∧
        m = { raised with line := text, position := front.length + raised.position } := by
  unfold RollSet.read at h
  split at h
  · exact Or.inl (Except.error.inj h).symm
  · split at h
    · rename_i raised hraised
      -- The line of the reader is a suffix of the text, so something stands in front of it.
      have hplaced := (Reader.isPlacedIn_of_expressions hraised).mono
        (List.dropWhile_suffix Text.isBlank)
      rcases hplaced.suffix with ⟨front, hfront⟩
      refine Or.inr ⟨raised, front, Reader.raises_of_expressions hraised, hfront, ?_⟩
      -- The lengths of the two lines differ by that of what stands in front.
      have hlen : text.length - raised.line.length = front.length := by
        rw [← hfront, List.length_append]
        omega
      rw [← Except.error.inj h, Mistake.within, hlen]
    · exact absurd h (by simp only [reduceCtorEq, not_false_eq_true])

end RollSet

/-- Faces that are within a bound, but have more values than can be stored or even
    counted. -/
def Mistake.IsExcess (m : Mistake) (maxFaces : Nat) : Prop :=
  ∃ r : DigitRun, r.digits = m.substring ∧ DieSpec.mostFaces ≤ r.value ∧ r.value ≤ maxFaces ∧
    m.fault = .excess (if DieSpec.countableFaces < r.value then .uncountable else .unstorable)

namespace Reader

/-- Too many digits are a mistake. -/
theorem isMistake_of_number {line ds : Text} {position : Nat} {m : Mistake}
    (h : number line position ds = .error m) : m.fault.isMistake = true := by
  unfold number at h
  split at h
  · exact nomatch h
  · rw [← Except.error.inj h]
    rfl

/-- A selector is refused for a mistake only. -/
theorem isMistake_of_selector {line : Text} {m : Mistake} (h : selector line = .error m) :
    m.fault.isMistake = true := by
  unfold selector at h
  split at h
  · exact nomatch h
  · rcases bind_eq_error h with hn | ⟨n, -, h⟩
    · exact isMistake_of_number hn
    · split at h
      · rw [← Except.error.inj h]
        rfl
      · exact nomatch h

theorem isMistake_of_constant {line : Text} {m : Mistake} (h : constant line = .error m) :
    m.fault.isMistake = true := by
  unfold constant at h
  split at h
  · rw [← Except.error.inj h]
    rfl
  · rcases bind_eq_error h with hn | ⟨n, -, h⟩
    · exact isMistake_of_number hn
    · exact nomatch h

variable {maxDice maxFaces : Nat}

-- The limit is a number, so it can be compared with.
theorem isMistake_of_quantity {line : Text} {head : Lexeme.RollHead} {m : Mistake}
    (h : quantity (.upTo maxDice maxFaces) line head = .error m) : m.fault.isMistake = true := by
  unfold quantity at h
  rcases bind_eq_error h with hn | ⟨n, -, h⟩
  · exact isMistake_of_number hn
  · split at h
    · rw [← Except.error.inj h]
      rfl
    · simp only [Limits.upTo, Ceiling.ofInt, Ceiling.exceeded?] at h
      -- Within the limit a quantity is accepted.
      by_cases hle : (n : Int) ≤ maxDice
      · simp only [if_pos hle, reduceCtorEq] at h
      · simp only [if_neg hle, Except.error.injEq] at h
        rw [← h]
        rfl

/-- Faces are refused for a mistake, or because their values are too many. -/
theorem isMistake_or_isExcess_of_spec {line : Text} {head : Lexeme.RollHead} {m : Mistake}
    (hw : head.faces.IsWritten) (h : spec (.upTo maxDice maxFaces) line head = .error m) :
    m.fault.isMistake = true ∨ m.IsExcess maxFaces := by
  unfold spec at h
  split at h
  · simp only [reduceCtorEq] at h
  · rename_i ds hf
    rw [hf] at hw
    rcases bind_eq_error h with hn | ⟨n, hn, h⟩
    · exact Or.inl (isMistake_of_number hn)
    · rcases exists_of_number hw hn with ⟨r, rfl, rfl⟩
      split at h
      · rw [← Except.error.inj h]
        exact Or.inl rfl
      · simp only [Limits.upTo, Ceiling.ofInt, Ceiling.exceeded?] at h
        by_cases hle : (r.value : Int) ≤ maxFaces
        · -- Within the limit there is nothing left to fail but the values.
          simp only [if_pos hle] at h
          by_cases hfew : r.value < DieSpec.mostFaces
          · rw [DieSpec.numbered?_of_lt hfew] at h
            cases h
          · rw [DieSpec.numbered?_of_le (Nat.le_of_not_lt hfew)] at h
            rw [← Except.error.inj h]
            exact Or.inr ⟨r, rfl, Nat.le_of_not_lt hfew, Int.ofNat_le.mp hle, rfl⟩
        · simp only [if_neg hle, Except.error.injEq] at h
          rw [← h]
          exact Or.inl rfl

/-- A term is refused for a mistake, or for its faces. -/
theorem isMistake_or_isExcess_of_term {line : Text} {m : Mistake}
    (h : term (.upTo maxDice maxFaces) line = .error m) :
    m.fault.isMistake = true ∨ m.IsExcess maxFaces := by
  unfold term at h
  split at h
  · rename_i head hh
    rcases Lexeme.eq_of_rollHead? hh with ⟨-, -, hw⟩
    rcases bind_eq_error h with hr | ⟨r, -, h⟩
    · -- The parts of a roll in the order in which they are read.
      unfold rollFrom at hr
      rcases bind_eq_error hr with hq | ⟨n, -, hr⟩
      · exact Or.inl (isMistake_of_quantity hq)
      rcases bind_eq_error hr with hf | ⟨s, -, hr⟩
      · exact isMistake_or_isExcess_of_spec hw hf
      rcases bind_eq_error hr with hs | ⟨ss, -, hr⟩
      · exact Or.inl (isMistake_of_selector (selector_of_selectors hs))
      · exact nomatch hr
    · exact nomatch h
  · split at h
    · rw [← Except.error.inj h]
      exact Or.inl rfl
    · rcases bind_eq_error h with hc | ⟨r, -, h⟩
      · exact Or.inl (isMistake_of_constant hc)
      · exact nomatch h

/-- What a reader raises is a mistake, or that faces have too many values. -/
theorem isMistake_or_isExcess_of_raises {m : Mistake} (h : Raises (.upTo maxDice maxFaces) m) :
    m.fault.isMistake = true ∨ m.IsExcess maxFaces := by
  rcases h with hs | ht | hc
  · exact Or.inl (isMistake_of_selector hs)
  · exact isMistake_or_isExcess_of_term ht
  · unfold checkEnd at hc
    split at hc
    · exact nomatch hc
    · rw [← Except.error.inj hc]
      exact Or.inl rfl

end Reader

namespace RollSet

variable {maxDice maxFaces : Nat} {text : Text} {m : Mistake}

/-- A text is refused for a mistake in it, or for faces that have too many values. -/
theorem isMistake_or_isExcess_of_read (h : RollSet.read (.upTo maxDice maxFaces) text = .error m) :
    m.fault.isMistake = true ∨ m.IsExcess maxFaces := by
  rcases exists_raised h with rfl | ⟨raised, front, hraises, -, rfl⟩
  · exact Or.inl rfl
  · -- Moving a mistake changes neither what is wrong nor what is to blame.
    have hraised := Reader.isMistake_or_isExcess_of_raises hraises
    exact hraised

/-- Under a limit below which all values can be stored there are only mistakes. -/
theorem isMistake_of_read (h : RollSet.read (.upTo maxDice maxFaces) text = .error m)
    (hfew : maxFaces < DieSpec.mostFaces) : m.fault.isMistake = true := by
  rcases isMistake_or_isExcess_of_read h with hmistake | ⟨r, -, hmost, hle, -⟩
  · exact hmistake
  · -- So many faces would be above the limit.
    exact absurd (Nat.le_trans hmost hle) (Nat.not_le.mpr hfew)

/-- The mistake of a text is placed in the whole text. Its position is one of the text,
    and what is to blame stands there. Unless the text holds nothing but blanks, the
    mistake is one that a reader raised for its own line, with the length of what stands
    in front of that line added to its position. -/
theorem exists_raised_of_read (dice faces : Option ℕ+) (text : Text) (m : Mistake)
    (h : RollSet.read (.ofBounds dice faces) text = .error m) :
    m.line = text ∧ m.position ≤ text.length ∧
      (text.drop m.position).take m.substring.length = m.substring ∧
      (m = .whole .nothing text ∨
        ∃ (raised : Mistake) (front : Text), Reader.Raises (.ofBounds dice faces) raised ∧
          front ++ raised.line = text ∧
          m = { raised with line := text, position := front.length + raised.position }) := by
  rw [Limits.ofBounds_eq_upTo] at h ⊢
  rcases isPlacedIn_of_read h with ⟨hplaced, hline⟩
  have hle := hplaced.position_le
  have hsub := hplaced.substring
  rw [hline] at hle hsub
  exact ⟨hline, hle, List.prefix_iff_eq_take.mp hsub |>.symm, exists_raised h⟩

-- The second separator of two in a row is where a term should begin.
theorem exists_raised_of_read_two_separators :
    ∃ m : Mistake,
      RollSet.read (.ofBounds none none) ['1', 'd', '4', ';', ';', '2'] = .error m ∧
        m.position = 4 ∧ m.substring = [';', '2'] ∧
        (List.drop m.position ['1', 'd', '4', ';', ';', '2']).take m.substring.length
          = m.substring ∧
        ∃ (raised : Mistake) (front : Text), Reader.Raises (.ofBounds none none) raised ∧
          front ++ raised.line = ['1', 'd', '4', ';', ';', '2'] ∧
          m.position = front.length + raised.position := by
  have hread : RollSet.read (.ofBounds none none) ['1', 'd', '4', ';', ';', '2']
      = .error ⟨.noTerm, ['1', 'd', '4', ';', ';', '2'], 4, [';', '2']⟩ := by
    decide +kernel
  rcases exists_raised_of_read none none _ _ hread with ⟨-, -, hsub, hnothing | hraised⟩
  · exact absurd (congrArg Mistake.fault hnothing) (by decide)
  · rcases hraised with ⟨raised, front, hraises, htext, hm⟩
    exact ⟨_, hread, rfl, rfl, hsub, raised, front, hraises, htext, congrArg Mistake.position hm⟩

end RollSet

end DiceRoller
