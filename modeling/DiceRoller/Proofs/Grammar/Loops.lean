import DiceRoller.Proofs.Grammar.Soundness

/-!
# Loops over a line

A notation is read by three loops, one inside the other: over the selectors of a roll,
over the terms of an expression and over the expressions of a text. None of them counts.
Each goes on as long as it finds something to read, and all that ends it is that the
line gets shorter.

The readers are recursions on the length of the line, so that they end is built into
them. Here the loops are said once more, turn by turn and without any such promise: a
loop is what one turn of it does, and `Loop.Runs` says what comes of taking turns. A loop
that went on for ever would have no run at all. That every turn shortens the line is a
fact about the turn alone, and from it follows a run from every state, with no more turns
than the line has characters.

The loop over the terms of an expression is the only one that is entered before anything
is tested. Its first turn takes a sign if there is one, and every later turn needs one, so
its state remembers whether a turn was taken.

## Main definitions

* `Loop`: What one turn of a loop does.
* `Loop.Shortens`: Every turn leaves a shorter line.
* `Loop.Runs`: A loop ends after a number of turns, with an outcome.
* `Loop.Describes`: A reader does what the loop does.
* `Loop.selectors`, `Loop.terms`, `Loop.expressions`: The three loops.

## Theorems

* `Loop.exists_runs`: A loop that shortens its line ends, with the outcome of the reader
  that it describes.
* `Loop.Runs.turn_of_ok`: A loop that ends without a mistake has nothing to go on with.
* `Loop.selectors_shortens`: A selector takes at least its letters.
* `Loop.selectors_describes`: Selectors are read as the loop takes its turns.
* `Loop.exists_runs_selectors`, `Loop.exists_runs_terms`, `Loop.exists_runs_expressions`:
  The three loops end on every line.
* `Loop.terms_shortens`: Every turn reads a term, and a term has at least a digit.
* `Loop.terms_describes`: The first term is read without a test for a sign, the others
  with one.
* `Loop.expressions_shortens`: Every turn reads an expression, and what follows it is no
  longer than what it leaves.
* `Loop.expressions_describes`: Expressions are read until nothing is left of the line.
* `Loop.exists_runs_read`: So the reading of every text ends.
-/

namespace DiceRoller

/-- A loop that works on a line. A turn finds a mistake, or that the loop is over, or it
    reads an item and leaves a state for the next turn. -/
structure Loop (σ α : Type) where
  /-- The line that is left in a state. -/
  line : σ → Text
  /-- One turn in a state. -/
  turn : σ → Except Mistake (Option (α × σ))

namespace Loop

section Runs

variable {σ α : Type} {loop : Loop σ α}

/-- Every turn that reads an item leaves a shorter line. -/
def Shortens (loop : Loop σ α) : Prop :=
  ∀ s a s', loop.turn s = .ok (some (a, s')) → (loop.line s').length < (loop.line s).length

/-- An outcome with one more item in front. -/
def withItem (a : α) (outcome : Except Mistake (List α × σ)) : Except Mistake (List α × σ) :=
  outcome.map fun p => (a :: p.1, p.2)

/-- From a state the loop ends after so many turns, with a mistake or with the items read
    and the state in which it is over. -/
inductive Runs (loop : Loop σ α) : σ → Nat → Except Mistake (List α × σ) → Prop
  | fails {s : σ} {m : Mistake} (h : loop.turn s = .error m) : Runs loop s 0 (.error m)
  | stops {s : σ} (h : loop.turn s = .ok none) : Runs loop s 0 (.ok ([], s))
  | goesOn {s s' : σ} {a : α} {n : Nat} {outcome : Except Mistake (List α × σ)}
      (h : loop.turn s = .ok (some (a, s'))) (hr : Runs loop s' n outcome) :
      Runs loop s (n + 1) (withItem a outcome)

/-- The reader does in a state what a turn of the loop does there, and goes on with the
    state that the turn leaves. -/
def Describes (loop : Loop σ α) (read : σ → Except Mistake (List α × σ)) : Prop :=
  ∀ s, read s = match loop.turn s with
    | .error m => .error m
    | .ok none => .ok ([], s)
    | .ok (some (a, s')) => withItem a (read s')

/-- A loop that shortens its line with every turn ends, after no more turns than the line
    has characters, and with the outcome of the reader that it describes. -/
theorem exists_runs {read : σ → Except Mistake (List α × σ)} (hshort : loop.Shortens)
    (hread : loop.Describes read) (s : σ) :
    ∃ n ≤ (loop.line s).length, loop.Runs s n (read s) := by
  -- The induction is on the length of the line, which is what a turn makes smaller.
  induction hlen : (loop.line s).length using Nat.strong_induction_on generalizing s with
  | h len ih =>
      have hs := hread s
      rcases hturn : loop.turn s with m | _ | ⟨a, s'⟩
      · simp only [hturn] at hs
        rw [hs]
        exact ⟨0, Nat.zero_le _, .fails hturn⟩
      · simp only [hturn] at hs
        rw [hs]
        exact ⟨0, Nat.zero_le _, .stops hturn⟩
      · simp only [hturn] at hs
        have hlt := hshort s a s' hturn
        rcases ih _ (by omega) s' rfl with ⟨n, hn, hruns⟩
        rw [hs]
        exact ⟨n + 1, by omega, .goesOn hturn hruns⟩

/-- Where a loop ended without a mistake, a turn would find it over. -/
theorem Runs.turn_of_ok {s s' : σ} {n : Nat} {as : List α} {outcome : Except Mistake (List α × σ)}
    (h : loop.Runs s n outcome) (hok : outcome = .ok (as, s')) : loop.turn s' = .ok none := by
  induction h generalizing as with
  | fails => exact absurd hok (by simp only [reduceCtorEq, not_false_eq_true])
  | stops hturn =>
      simp only [Except.ok.injEq, Prod.mk.injEq] at hok
      rw [← hok.2]
      exact hturn
  | @goesOn _ _ _ _ outcome _ _ ih =>
      -- The items before it do not matter for the last state.
      rcases outcome with m | ⟨as', s''⟩
      · exact absurd hok (by simp only [withItem, Except.map, reduceCtorEq, not_false_eq_true])
      · simp only [withItem, Except.map, Except.ok.injEq, Prod.mk.injEq] at hok
        exact ih (by rw [hok.2])

end Runs

open Reader

/-- The loop over the selectors of a roll. -/
def selectors : Loop Text Selector := ⟨id, selector⟩

theorem selectors_shortens : selectors.Shortens := fun _ _ _ h => length_selector h

/-- Selectors are read as the loop takes its turns. -/
theorem selectors_describes : selectors.Describes Reader.selectors := by
  intro line
  rw [Reader.selectors]
  split
  · rename_i m hs
    simp only [selectors, hs]
  · rename_i hs
    simp only [selectors, hs]
  · rename_i s rest hs
    simp only [selectors, hs]
    rcases Reader.selectors rest with m | ⟨more, rest'⟩ <;> rfl

/-- The loop over the selectors ends on every line, and with what is read as selectors. -/
theorem exists_runs_selectors (line : Text) :
    ∃ n ≤ line.length, selectors.Runs line n (Reader.selectors line) :=
  exists_runs selectors_shortens selectors_describes line

variable (limits : Limits)

/-- The loop over the terms of an expression. A state is whether a term was read already,
    so that only a sign lets the expression go on, and the line that is left. -/
def terms : Loop (Bool × Text) (Sign × Term) where
  line := Prod.snd
  turn s :=
    if s.1 = true ∧ Lexeme.sign? s.2 = none then .ok none
    else do
      let (sign, line) := (Lexeme.sign? s.2).getD (.plus, s.2)
      let (t, rest) ← term limits line
      return some ((sign, t), true, rest)

/-- Every turn reads a term, and a term has at least a digit. -/
theorem terms_shortens : (terms limits).Shortens := by
  intro s a s' h
  simp only [terms] at h ⊢
  split at h
  · exact absurd h (by simp only [Except.ok.injEq, reduceCtorEq, not_false_eq_true])
  · rcases bind_eq_ok h with ⟨⟨t, rest⟩, ht, h⟩
    simp only [pure, Except.pure, Except.ok.injEq, Option.some.injEq, Prod.mk.injEq] at h
    rcases h with ⟨-, rfl⟩
    -- A sign takes nothing away if there is none, but a term always does.
    rcases Lexeme.exists_leading s.2 with ⟨leading, hline, -⟩
    have hsign := congrArg List.length hline
    have hterm := length_term ht
    rw [List.length_append] at hsign
    simp only at hterm ⊢
    omega

/-- What the loop over the terms reads from a state. -/
def readTerms : Bool × Text → Except Mistake (List (Sign × Term) × Bool × Text)
  | (false, line) => do
    let (sign, line) := (Lexeme.sign? line).getD (.plus, line)
    let (t, line) ← term limits line
    let (more, line) ← signedTerms limits line
    return ((sign, t) :: more, true, line)
  | (true, line) => (signedTerms limits line).map fun p => (p.1, true, p.2)

/-- The first term is read without a test for a sign, the others with one. -/
theorem terms_describes : (terms limits).Describes (readTerms limits) := by
  rintro ⟨begun, line⟩
  cases begun with
  | false =>
      simp only [readTerms, terms, Bool.false_eq_true, false_and, if_false]
      rcases term limits ((Lexeme.sign? line).getD (.plus, line)).2 with m | ⟨t, rest⟩
      · rfl
      · simp only [bind, Except.bind, pure, Except.pure]
        rcases signedTerms limits rest with m | ⟨more, rest'⟩ <;> rfl
  | true =>
      simp only [readTerms]
      rw [signedTerms]
      split
      · rename_i hs
        simp only [terms, hs, and_self, if_true, Except.map]
      · rename_i sign rest hs
        simp only [terms, hs, reduceCtorEq, and_false, if_false, Option.getD_some]
        rcases term limits rest with m | ⟨t, rest'⟩
        · rfl
        · simp only [bind, Except.bind, pure, Except.pure]
          rcases signedTerms limits rest' with m | ⟨more, rest''⟩ <;> rfl

/-- The loop over the terms ends on every line, and an expression is what it reads, if it
    may end there. -/
theorem exists_runs_terms (line : Text) :
    ∃ n ≤ line.length, ∃ outcome, (terms limits).Runs (false, line) n outcome ∧
      expression limits line = do
        let (ts, _, rest) ← outcome
        checkEnd rest
        return (⟨ts⟩, rest) := by
  rcases exists_runs (terms_shortens limits) (terms_describes limits) (false, line) with
    ⟨n, hn, hruns⟩
  refine ⟨n, hn, _, hruns, ?_⟩
  simp only [expression, readTerms]
  rcases term limits ((Lexeme.sign? line).getD (.plus, line)).2 with m | ⟨t, rest⟩
  · rfl
  · -- The outcome of the loop is checked at its end, as the reader does.
    rcases hm : signedTerms limits rest with m | ⟨more, rest'⟩ <;>
      simp only [bind, Except.bind, hm, pure, Except.pure]

/-- The loop over the expressions of a text. -/
def expressions : Loop Text Expression where
  line := id
  turn line :=
    if line = [] then .ok none
    else (expression limits line).map fun p => some (p.1, afterExpression p.2)

/-- Every turn reads an expression, and what follows it is no longer than what it leaves. -/
theorem expressions_shortens : (expressions limits).Shortens := by
  intro line e rest h
  simp only [expressions, id] at h ⊢
  split at h
  · exact absurd h (by simp only [Except.ok.injEq, reduceCtorEq, not_false_eq_true])
  · rcases he : expression limits line with m | ⟨e', rest'⟩
    · rw [he] at h
      exact absurd h (by simp only [Except.map, reduceCtorEq, not_false_eq_true])
    · rw [he] at h
      simp only [Except.map, Except.ok.injEq, Option.some.injEq, Prod.mk.injEq] at h
      have hlt := length_expression he
      -- The separator may be taken away as well.
      have hle := length_afterExpression_le rest'
      rw [← h.2]
      simp only at hlt
      omega

/-- What the loop over the expressions reads of a line. Nothing is left of it. -/
def readExpressions (line : Text) : Except Mistake (List Expression × Text) :=
  (Reader.expressions limits line).map fun es => (es, [])

/-- Expressions are read until nothing is left of the line. -/
theorem expressions_describes : (expressions limits).Describes (readExpressions limits) := by
  intro line
  rw [readExpressions, Reader.expressions]
  split
  · rename_i hnil
    rw [hnil]
    rfl
  · rename_i hne
    simp only [expressions, if_neg hne]
    rcases expression limits line with m | ⟨e, rest⟩
    · rfl
    · simp only [Except.map, readExpressions]
      rcases Reader.expressions limits (afterExpression rest) with m | more <;> rfl

/-- The loop over the expressions ends on every line, with nothing left of it unless a
    mistake ended it, and with what is read as expressions. -/
theorem exists_runs_expressions (line : Text) :
    ∃ n ≤ line.length, (expressions limits).Runs line n
      ((Reader.expressions limits line).map fun es => (es, [])) :=
  exists_runs (expressions_shortens limits) (expressions_describes limits) line

/-- The loop over the expressions ends on every text without its blanks in front, and the
    text is read as what the loop reads, unless it is blank. -/
theorem exists_runs_read (text : Text) :
    ∃ n ≤ text.length, ∃ outcome, (expressions limits).Runs text.trimStart n outcome ∧
      RollSet.read limits text =
        if text.trimStart = [] then .error (.whole .nothing text)
        else match outcome with
          | .error m => .error (m.within text)
          | .ok (es, _) => .ok ⟨es, some text.trim⟩ := by
  rcases exists_runs_expressions limits text.trimStart with ⟨n, hn, hruns⟩
  have htrim : text.trimStart.length ≤ text.length := (List.dropWhile_sublist _).length_le
  refine ⟨n, Nat.le_trans hn htrim, _, hruns, ?_⟩
  rw [RollSet.read]
  rcases Reader.expressions limits text.trimStart with m | es <;> rfl

end Loop

end DiceRoller
