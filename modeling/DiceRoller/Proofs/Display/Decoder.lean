import DiceRoller.Grammar.Lexeme
import DiceRoller.Text.Numeral

/-!
# Reading a display

What a reader of a displayed set can make of the text alone. Expressions are apart
from each other by a semicolon and a space. Each is terms behind signs, the first
sign perhaps left out. A term is a decimal number, or cells one behind the other:
a number in brackets, which counts, or one that is also struck through, which does
not. Nothing of the set is looked at, neither the dice nor their marks nor the
selectors.

Cells of one roll touch, so two struck ones next to each other share a run of four
strokes, and a cell may hold a minus. Reading from the left still finds where a cell
ends, because a cell ends at its bracket and has its strokes on both sides or none.

## Main definitions

* `Decoder.pieces`: The texts between the separators.
* `Decoder.cell?`, `Decoder.cells`: A cell, and as many as there are.
* `Decoder.term?`, `Decoder.signedTerms?`, `Decoder.expression?`: Terms.
* `Decoder.decode`: The number that each expression comes to.

## Theorems

* `Decoder.length_natural?`: Reading a number takes at least one digit.
* `Decoder.length_integer?`: So does reading one that may be negative.
* `Decoder.length_cell?`, `Decoder.length_term?`: Reading a cell takes at least its
  brackets.
* `Decoder.cells_of_none`: Where no cell begins there are no cells.
* `Decoder.cells_of_some`: A cell is followed by the cells of the rest.
* `Decoder.length_cells_le`: Cells leave no more than the line.
-/

namespace DiceRoller

namespace Decoder

/-- The texts between the separators, at least one. -/
def pieces : Text → List Text
  | [] => [[]]
  | ';' :: ' ' :: line => [] :: pieces line
  | c :: line =>
    match pieces line with
    | [] => [[c]]
    | piece :: more => (c :: piece) :: more

/-- The decimal number at the front of the line, with the rest. -/
def natural? (line : Text) : Option (Nat × Text) :=
  if Lexeme.digits line = [] then none
  else some (Numeral.ofDigits (Lexeme.digits line), Lexeme.afterDigits line)

/-- The number at the front of the line, perhaps with a minus. -/
def integer? : Text → Option (Int × Text)
  | '-' :: line => (natural? line).map fun p => (-p.1, p.2)
  | line => (natural? line).map fun p => (p.1, p.2)

/-- The cell at the front of the line, by what it counts, with the rest. -/
def cell? : Text → Option (Int × Text)
  | '[' :: line =>
    match integer? line with
    | some (v, ']' :: rest) => some (v, rest)
    | _ => none
  | '~' :: '~' :: '[' :: line =>
    match integer? line with
    | some (_, ']' :: '~' :: '~' :: rest) => some (0, rest)
    | _ => none
  | _ => none

/-- Reading a number takes at least one digit. -/
theorem length_natural? {line rest : Text} {n : Nat} (h : natural? line = some (n, rest)) :
    rest.length < line.length := by
  unfold natural? at h
  split at h
  · exact absurd h (by simp only [reduceCtorEq, not_false_eq_true])
  · rename_i hne
    have hpos := List.length_pos_iff.mpr hne
    have hlen := Lexeme.length_digits line
    simp only [Option.some.injEq, Prod.mk.injEq] at h
    rw [← h.2]
    omega

theorem length_integer? {line rest : Text} {v : Int} (h : integer? line = some (v, rest)) :
    rest.length < line.length := by
  unfold integer? at h
  split at h
  · rcases Option.map_eq_some_iff.mp h with ⟨p, hp, heq⟩
    rw [← (Prod.mk.inj heq).2]
    exact Nat.lt_succ_of_lt (length_natural? hp)
  · rcases Option.map_eq_some_iff.mp h with ⟨p, hp, heq⟩
    rw [← (Prod.mk.inj heq).2]
    exact length_natural? hp

/-- What a cell leaves is shorter than the line, so that reading cells comes to an end. -/
theorem length_cell? {line rest : Text} {v : Int} (h : cell? line = some (v, rest)) :
    rest.length < line.length := by
  unfold cell? at h
  split at h
  case h_3 => exact absurd h (by simp only [reduceCtorEq, not_false_eq_true])
  -- Plain or struck through, behind the number stands a bracket at least.
  all_goals
    split at h
    case h_2 => exact absurd h (by simp only [reduceCtorEq, not_false_eq_true])
    rename_i hint
    have hlen := length_integer? hint
    simp only [Option.some.injEq, Prod.mk.injEq] at h
    rw [← h.2]
    simp only [List.length_cons] at hlen ⊢
    omega

/-- The cells at the front of the line, by their sum, with the rest. -/
def cells (line : Text) : Int × Text :=
  match _h : cell? line with
  | none => (0, line)
  | some (v, rest) => (v + (cells rest).1, (cells rest).2)
termination_by line.length
decreasing_by all_goals exact length_cell? _h

/-- Where no cell begins there are no cells. -/
theorem cells_of_none {line : Text} (h : cell? line = none) : cells line = (0, line) := by
  rw [cells]
  split
  · rfl
  · rename_i hc
    exact absurd (h.symm.trans hc) (by simp only [reduceCtorEq, not_false_eq_true])

/-- A cell is followed by the cells of the rest. -/
theorem cells_of_some {line rest : Text} {v : Int} (h : cell? line = some (v, rest)) :
    cells line = (v + (cells rest).1, (cells rest).2) := by
  rw [cells]
  split
  · rename_i hc
    exact absurd (h.symm.trans hc) (by simp only [reduceCtorEq, not_false_eq_true])
  · rename_i hc
    rw [h, Option.some.injEq, Prod.mk.injEq] at hc
    rw [hc.1, hc.2]

theorem length_cells_le (line : Text) : (cells line).2.length ≤ line.length := by
  fun_induction cells line with
  | case1 line => exact Nat.le_refl _
  | case2 line v rest h ih => exact Nat.le_of_lt (Nat.lt_of_le_of_lt ih (length_cell? h))

/-- The term at the front of the line, by what it comes to, with the rest. -/
def term? (line : Text) : Option (Int × Text) :=
  match cell? line with
  | some _ => some (cells line)
  | none => (natural? line).map fun p => (p.1, p.2)

/-- A term leaves no more than the line, and the sign in front of it is taken anyway. -/
theorem length_term? {line rest : Text} {v : Int} (h : term? line = some (v, rest)) :
    rest.length ≤ line.length := by
  unfold term? at h
  split at h
  · have hlen := length_cells_le line
    rw [Option.some.inj h] at hlen
    exact hlen
  · rcases Option.map_eq_some_iff.mp h with ⟨p, hp, heq⟩
    rw [← (Prod.mk.inj heq).2]
    exact Nat.le_of_lt (length_natural? hp)

/-- By what a sign multiplies the term behind it. -/
def factor? (c : Char) : Option Int :=
  if c = '+' then some 1 else if c = '-' then some (-1) else none

/-- Terms behind signs to the end of the line, by their signed sum. -/
def signedTerms? : Text → Option Int
  | [] => some 0
  | c :: line =>
    match factor? c, _h : term? line with
    | some k, some (v, rest) => (signedTerms? rest).map fun sum => k * v + sum
    | _, _ => none
termination_by line => line.length
decreasing_by exact Nat.lt_succ_of_le (length_term? _h)

/-- An expression, by its signed sum. A first sign that was left out is a plus. -/
def expression? (line : Text) : Option Int :=
  if (line.head?.bind factor?).isSome then signedTerms? line else signedTerms? ('+' :: line)

/-- What each expression of a display comes to. -/
def decode (t : Text) : Option (List Int) := (pieces t).mapM expression?

end Decoder

end DiceRoller
