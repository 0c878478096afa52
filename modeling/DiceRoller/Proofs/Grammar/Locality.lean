import DiceRoller.Proofs.Grammar.Acceptance
import DiceRoller.Proofs.Grammar.Loops

/-!
# What a reader takes

A reader takes something off the front of its line and leaves the rest. Lexemes are
recognised by looking further than they reach: whether digits are the quantity of a roll
or a constant is seen from what follows them, and a selector is one only with a digit
behind its letters. Nonetheless what was taken is enough: read alone, it gives the same
value and nothing is left.

The reason is that what was taken is the text of a form, and the text of a form is read
wherever what follows does not go on with it. An empty rest never goes on with anything.
The rest in the line may have done so without harm, as a `d` does behind a constant when
there are no faces behind the `d`.

Only selectors may be none. Every other reader takes at least a digit, so the loops that
call them get a shorter line with every turn, and end.

## Main definitions

* `Reader.Takes`: What a reader takes off a line, read alone.
* `Lexeme.BeginsSelector`: A line that begins with a complete selector.

## Theorems

* `Lexeme.digits_append_ne_nil`: A text that begins with digits has digits at its front.
* `Lexeme.selector?_ne_none`: A complete selector is recognised, whatever its number.
* `Reader.takes_of_append`: A text that is read as a whole with nothing behind it is read
  alone.
* `Reader.exists_taken_of_selectors`, `Reader.exists_taken_of_roll`,
  `Reader.exists_taken_of_constant`, `Reader.exists_taken_of_term`,
  `Reader.exists_taken_of_expression`: What each reader takes.
* `Reader.not_beginsSelector_of_selectors`: No complete selector stands where reading
  selectors stopped.
* `Reader.term_roll_iff`: The terms that are rolls are what is read as a roll.
* `Reader.not_beginsSelector_of_roll`: No selector is left behind a roll.
* `Reader.mayFollow_of_expression`: What is left behind an expression.
* `Reader.exists_taken_and_runs`: Readers take what they can read alone, and their loops
  end.
* `Reader.exists_taken_and_runs_roll_and_constant`: A roll with a selector, a constant
  behind it, and a blank in front of a semicolon.
-/

namespace DiceRoller

namespace Lexeme

/-- The line begins with a complete selector: its two letters and at least one digit. -/
def BeginsSelector (line : Text) : Prop :=
  ∃ a b ds tail, (a = 'k' ∨ a = 'd') ∧ (b = 'h' ∨ b = 'l') ∧ IsDigits ds ∧
    line = a :: b :: (ds ++ tail)

/-- A text that begins with digits has digits at its front. -/
theorem digits_append_ne_nil {ds : Text} (h : IsDigits ds) (tail : Text) :
    digits (ds ++ tail) ≠ [] := by
  rcases exists_cons_of_isDigits h with ⟨c, ds', rfl, hc⟩
  rw [digits, List.cons_append, List.takeWhile_cons_of_pos hc]
  exact List.cons_ne_nil _ _

/-- A complete selector is recognised, whatever its number. -/
theorem selector?_ne_none {line : Text} (h : BeginsSelector line) : selector? line ≠ none := by
  rcases h with ⟨a, b, ds, tail, ha, hb, hds, rfl⟩
  have hne := digits_append_ne_nil hds tail
  have hkeep : ∃ keep, keeps? a = some keep := by
    rcases ha with rfl | rfl
    · exact ⟨true, rfl⟩
    · exact ⟨false, rfl⟩
  have hhigh : ∃ high, takesHigh? b = some high := by
    rcases hb with rfl | rfl
    · exact ⟨true, rfl⟩
    · exact ⟨false, rfl⟩
  rcases hkeep with ⟨keep, hkeep⟩
  rcases hhigh with ⟨high, hhigh⟩
  simp only [selector?, hkeep, hhigh, if_neg hne, ne_eq, reduceCtorEq, not_false_eq_true]

end Lexeme

namespace Reader

/-- What a reader that returned a value took off the front of its line: the rest stands
    behind it, and read alone it gives the same value with nothing left. -/
structure Takes {α : Type} (read : Text → Except Mistake (α × Text)) (line taken : Text) (a : α)
    (rest : Text) : Prop where
  line_eq : line = taken ++ rest
  alone : read taken = .ok (a, [])

/-- A text that is read as a whole with nothing behind it is read alone. -/
theorem takes_of_append {α : Type} {read : Text → Except Mistake (α × Text)}
    {line taken rest : Text} {a : α} (hline : line = taken ++ rest)
    (hread : read (taken ++ []) = .ok (a, [])) : Takes read line taken a rest :=
  ⟨hline, by rw [← hread, List.append_nil]⟩

theorem exists_taken_of_selectors {line rest : Text} {ss : List Selector}
    (h : selectors line = .ok (ss, rest)) : ∃ taken, Takes selectors line taken ss rest := by
  rcases exists_of_selectors h with ⟨fs, hline, rfl⟩
  exact ⟨_, takes_of_append hline (selectors_append fs (Text.stops_nil _))⟩

/-- A constant is read alone although what follows it may be a letter of a roll. -/
theorem exists_taken_of_constant {line rest : Text} {n : Int} (h : constant line = .ok (n, rest)) :
    ∃ taken, taken ≠ [] ∧ Takes constant line taken n rest := by
  rcases exists_of_constant h with ⟨r, hline, rfl⟩
  exact ⟨_, r.ne_nil, takes_of_append hline (constant_append r (Text.stops_nil _))⟩

/-- No complete selector stands where reading selectors stopped. -/
theorem not_beginsSelector_of_selectors {line rest : Text} {ss : List Selector}
    (h : selectors line = .ok (ss, rest)) : ¬ Lexeme.BeginsSelector rest := by
  intro hbegins
  rcases Loop.exists_runs_selectors line with ⟨n, -, hruns⟩
  have hover : selector rest = .ok none := hruns.turn_of_ok h
  -- A selector there would have been read, or its number would have been a mistake.
  unfold selector at hover
  split at hover
  · rename_i hnone
    exact Lexeme.selector?_ne_none hbegins hnone
  · rcases bind_eq_ok hover with ⟨k, -, hover⟩
    split at hover
    · exact absurd hover (by simp only [reduceCtorEq, not_false_eq_true])
    · exact absurd hover (by simp only [Except.ok.injEq, reduceCtorEq, not_false_eq_true])

variable {limits : Limits}

/-- The terms that are rolls are what is read as a roll. -/
theorem term_roll_iff {line rest : Text} {r : Roll} :
    term limits line = .ok (.roll r, rest) ↔ roll limits line = .ok (r, rest) := by
  rcases hh : Lexeme.rollHead? line with _ | head
  · simp only [term, roll, hh]
    constructor
    · intro h
      split at h
      · exact absurd h (by simp only [reduceCtorEq, not_false_eq_true])
      · rcases bind_eq_ok h with ⟨⟨n, tail⟩, -, h⟩
        exact absurd h (by simp only [pure, Except.pure, Except.ok.injEq, Prod.mk.injEq,
          reduceCtorEq, false_and, not_false_eq_true])
    · intro h
      exact absurd h (by simp only [reduceCtorEq, not_false_eq_true])
  · simp only [term, roll, hh]
    -- A head was found, so both readers go on with the rest of the roll.
    rcases rollFrom limits line head with m | ⟨r', rest'⟩ <;>
      simp only [bind, Except.bind, pure, Except.pure, Except.ok.injEq, Prod.mk.injEq,
        Term.roll.injEq, reduceCtorEq]

/-- Reading a roll ends where reading its selectors does. -/
theorem not_beginsSelector_of_roll {line rest : Text} {r : Roll}
    (h : roll limits line = .ok (r, rest)) : ¬ Lexeme.BeginsSelector rest := by
  unfold roll at h
  split at h
  · exact absurd h (by simp only [reduceCtorEq, not_false_eq_true])
  · unfold rollFrom at h
    rcases bind_eq_ok h with ⟨n, -, h⟩
    rcases bind_eq_ok h with ⟨s, -, h⟩
    rcases bind_eq_ok h with ⟨⟨ss, tail⟩, hss, h⟩
    simp only [pure, Except.pure, Except.ok.injEq, Prod.mk.injEq] at h
    rcases h with ⟨-, rfl⟩
    exact not_beginsSelector_of_selectors hss

variable {maxDice maxFaces : Nat}

theorem exists_taken_of_term {line rest : Text} {t : Term}
    (h : term (.upTo maxDice maxFaces) line = .ok (t, rest)) :
    ∃ taken, taken ≠ [] ∧ Takes (term (.upTo maxDice maxFaces)) line taken t rest := by
  rcases exists_of_term h with ⟨f, hline, rfl⟩
  exact ⟨_, f.text_ne_nil, takes_of_append hline (term_append f (Text.stops_nil _))⟩

/-- What a roll takes is what it takes as a term. -/
theorem exists_taken_of_roll {line rest : Text} {r : Roll}
    (h : roll (.upTo maxDice maxFaces) line = .ok (r, rest)) :
    ∃ taken, taken ≠ [] ∧ Takes (roll (.upTo maxDice maxFaces)) line taken r rest := by
  rcases exists_taken_of_term (term_roll_iff.mpr h) with ⟨taken, hne, htakes⟩
  exact ⟨taken, hne, htakes.line_eq, term_roll_iff.mp htakes.alone⟩

theorem exists_taken_of_expression {line rest : Text} {e : Expression}
    (h : expression (.upTo maxDice maxFaces) line = .ok (e, rest)) :
    ∃ taken, taken ≠ [] ∧ Takes (expression (.upTo maxDice maxFaces)) line taken e rest := by
  rcases exists_of_expression h with ⟨⟨f, hline, rfl⟩, -⟩
  exact ⟨_, f.text_ne_nil,
    takes_of_append hline (expression_append f ⟨Text.stops_nil _, rfl, .inl rfl⟩)⟩

/-- Behind an expression there are blanks of any kind and nothing else, or ASCII blanks
    and a semicolon. -/
theorem mayFollow_of_expression {line rest : Text} {e : Expression}
    (h : expression (.upTo maxDice maxFaces) line = .ok (e, rest)) :
    (∀ c ∈ rest, Text.isBlank c = true) ∨
      ∃ (b : SpaceRun) (tail : Text), rest = b.text ++ ';' :: tail := by
  rcases (exists_of_expression h).2 with hblank | hseparator
  · exact .inl (List.dropWhile_eq_nil_iff.mp hblank)
  · rcases Option.isSome_iff_exists.mp hseparator with ⟨tail, htail⟩
    rcases Lexeme.exists_of_separator? htail with ⟨f, hrest⟩
    refine .inr ⟨f.before, f.after.text ++ tail, ?_⟩
    rw [hrest, SeparatorForm.text, List.append_assoc, List.cons_append]

/-- What a reader takes off the front of a line is something, except that there may be no
    selectors, and read alone it gives the same. No selector is left behind a roll, and
    behind an expression only what may follow one. The loops of the readers take a shorter
    line from turn to turn, so they end on every line, and with what the readers return. -/
theorem exists_taken_and_runs (dice faces : Option ℕ+) (line : Text) :
    (∀ ss rest, selectors line = .ok (ss, rest) → ∃ taken, Takes selectors line taken ss rest) ∧
    (∀ r rest, roll (.ofBounds dice faces) line = .ok (r, rest) →
      (∃ taken, taken ≠ [] ∧ Takes (roll (.ofBounds dice faces)) line taken r rest) ∧
        ¬ Lexeme.BeginsSelector rest) ∧
    (∀ n rest, constant line = .ok (n, rest) →
      ∃ taken, taken ≠ [] ∧ Takes constant line taken n rest) ∧
    (∀ t rest, term (.ofBounds dice faces) line = .ok (t, rest) →
      ∃ taken, taken ≠ [] ∧ Takes (term (.ofBounds dice faces)) line taken t rest) ∧
    (∀ e rest, expression (.ofBounds dice faces) line = .ok (e, rest) →
      (∃ taken, taken ≠ [] ∧ Takes (expression (.ofBounds dice faces)) line taken e rest) ∧
        ((∀ c ∈ rest, Text.isBlank c = true) ∨
          ∃ (b : SpaceRun) (tail : Text), rest = b.text ++ ';' :: tail)) ∧
    (Loop.selectors.Shortens ∧
      ∃ n ≤ line.length, Loop.selectors.Runs line n (selectors line)) ∧
    ((Loop.terms (.ofBounds dice faces)).Shortens ∧
      ∃ n ≤ line.length, ∃ outcome,
        (Loop.terms (.ofBounds dice faces)).Runs (false, line) n outcome ∧
        expression (.ofBounds dice faces) line = do
          let (ts, _, rest) ← outcome
          checkEnd rest
          return (⟨ts⟩, rest)) ∧
    ((Loop.expressions (.ofBounds dice faces)).Shortens ∧
      ∃ n ≤ line.length, ∃ outcome,
        (Loop.expressions (.ofBounds dice faces)).Runs line.trimStart n outcome ∧
        RollSet.read (.ofBounds dice faces) line =
          if line.trimStart = [] then .error (.whole .nothing line)
          else match outcome with
            | .error m => .error (m.within line)
            | .ok (es, _) => .ok ⟨es, some line.trim⟩) := by
  -- Each part was shown for limits at numbers, and for the loops on their own.
  rw [Limits.ofBounds_eq_upTo]
  refine ⟨fun ss rest h => exists_taken_of_selectors h, fun r rest h => ?_,
    fun n rest h => exists_taken_of_constant h, fun t rest h => exists_taken_of_term h,
    fun e rest h => ?_, ?_, ?_, ?_⟩
  · exact ⟨exists_taken_of_roll h, not_beginsSelector_of_roll h⟩
  · exact ⟨exists_taken_of_expression h, mayFollow_of_expression h⟩
  · exact ⟨Loop.selectors_shortens, Loop.exists_runs_selectors line⟩
  · exact ⟨Loop.terms_shortens _, Loop.exists_runs_terms _ line⟩
  · exact ⟨Loop.expressions_shortens _, Loop.exists_runs_read _ line⟩

-- A roll with a selector, a constant behind it, and a blank in front of a semicolon. What
-- is read as a roll goes on behind what is read as a constant.
theorem exists_taken_and_runs_roll_and_constant :
    ∃ (line : Text) (r : Roll) (e : Expression),
      line = ['2', 'd', '6', 'k', 'h', '1', '-', '3', ' ', ';'] ∧
      selectors line = .ok ([], line) ∧
      (∃ taken, Takes selectors line taken [] line) ∧
      roll (.ofBounds none none) line = .ok (r, ['-', '3', ' ', ';']) ∧
      (∃ taken, taken ≠ [] ∧
        Takes (roll (.ofBounds none none)) line taken r ['-', '3', ' ', ';']) ∧
      constant line = .ok (2, ['d', '6', 'k', 'h', '1', '-', '3', ' ', ';']) ∧
      (∃ taken, taken ≠ [] ∧
        Takes constant line taken 2 ['d', '6', 'k', 'h', '1', '-', '3', ' ', ';']) ∧
      term (.ofBounds none none) line = .ok (.roll r, ['-', '3', ' ', ';']) ∧
      (∃ taken, taken ≠ [] ∧
        Takes (term (.ofBounds none none)) line taken (.roll r) ['-', '3', ' ', ';']) ∧
      expression (.ofBounds none none) line = .ok (e, [' ', ';']) ∧
      (∃ taken, taken ≠ [] ∧
        Takes (expression (.ofBounds none none)) line taken e [' ', ';']) := by
  let line : Text := ['2', 'd', '6', 'k', 'h', '1', '-', '3', ' ', ';']
  let r : Roll := .fresh 2 (.plain 6) [⟨true, true, 1⟩]
  let e : Expression := ⟨[(.plus, .roll r), (.minus, .constant 3)]⟩
  have hselectors : selectors line = .ok ([], line) := by decide +kernel
  have hroll : roll (.ofBounds none none) line = .ok (r, ['-', '3', ' ', ';']) := by
    decide +kernel
  have hconstant : constant line = .ok (2, ['d', '6', 'k', 'h', '1', '-', '3', ' ', ';']) := by
    decide +kernel
  have hterm : term (.ofBounds none none) line = .ok (.roll r, ['-', '3', ' ', ';']) :=
    term_roll_iff.mpr hroll
  have hexpression : expression (.ofBounds none none) line = .ok (e, [' ', ';']) := by
    decide +kernel
  rcases exists_taken_and_runs none none line with ⟨hs, hr, hc, ht, he, -⟩
  exact ⟨line, r, e, rfl, hselectors, hs _ _ hselectors, hroll, (hr _ _ hroll).1, hconstant,
    hc _ _ hconstant, hterm, ht _ _ hterm, hexpression, (he _ _ hexpression).1⟩

end Reader

end DiceRoller
