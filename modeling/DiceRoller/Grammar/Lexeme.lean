import DiceRoller.Dice.Signed

/-!
# Lexemes

The five lexemes of a notation, each recognised at the front of a line: a run of
digits, the head of a roll, a selector, a sign and a separator. A lexeme takes as
many digits and blanks as it can, and what it leaves is a proper suffix of the
line, which is why reading ends on every text.

A roll head is only recognised as a whole. Digits followed by a lone `d` are
therefore a constant and a rest that nothing can follow, not half a roll.

## Main definitions

* `Lexeme.digits`, `Lexeme.afterDigits`: The run of digits at the front.
* `Lexeme.rollHead?`: Quantity and faces of a roll.
* `Lexeme.selector?`: A selector.
* `Lexeme.sign?`: A sign with the blanks around it.
* `Lexeme.separator?`: A separator with the blanks around it.

## Theorems

* `Lexeme.length_digits`: A line is its digits and what follows them.
* `Lexeme.length_rollHead?`, `Lexeme.length_selector?`, `Lexeme.length_sign?`,
  `Lexeme.length_separator?`: What a lexeme leaves is shorter than the line.
-/

namespace DiceRoller

namespace Lexeme

/-- The longest run of digits at the front. -/
def digits (line : Text) : Text := line.takeWhile Numeral.isDigit

/-- What follows the digits at the front. -/
def afterDigits (line : Text) : Text := line.dropWhile Numeral.isDigit

/-- A line is its digits and what follows them. -/
theorem length_digits (line : Text) :
    (digits line).length + (afterDigits line).length = line.length := by
  rw [digits, afterDigits, ← List.length_append, List.takeWhile_append_dropWhile]

/-- The faces of a roll as they are written: a number, or the letter of a Fate
    die. -/
inductive Faces where
  /-- The digits of a number of faces. -/
  | numbered (digits : Text)
  /-- The letter that stands for a Fate die. -/
  | fate
deriving DecidableEq

/-- The head of a roll: the digits of its quantity, its faces, and the rest of
    the line. -/
structure RollHead where
  /-- The digits of the quantity. -/
  quantity : Text
  /-- The faces as they are written. -/
  faces : Faces
  /-- What follows the faces. -/
  rest : Text

/-- The faces behind the `d` of a roll, with the rest of the line. -/
def faces? : Text → Option (Faces × Text)
  | 'F' :: rest => some (.fate, rest)
  | line => if digits line = [] then none else some (.numbered (digits line), afterDigits line)

/-- The head of a roll at the front of the line. -/
def rollHead? (line : Text) : Option RollHead :=
  if digits line = [] then none
  else match afterDigits line with
    | 'd' :: line' => (faces? line').map fun f => ⟨digits line, f.1, f.2⟩
    | _ => none

/-- Whether the first letter of a selector asks to keep. -/
def keeps? : Char → Option Bool
  | 'k' => some true
  | 'd' => some false
  | _ => none

/-- Whether the second letter of a selector asks for high values. -/
def takesHigh? : Char → Option Bool
  | 'h' => some true
  | 'l' => some false
  | _ => none

/-- A selector at the front of the line: its two choices, the digits of its
    number, and the rest of the line. -/
def selector? : Text → Option (Bool × Bool × Text × Text)
  | a :: b :: line =>
    match keeps? a, takesHigh? b with
    | some keep, some high =>
      if digits line = [] then none else some (keep, high, digits line, afterDigits line)
    | _, _ => none
  | _ => none

/-- A sign at the front of the line, with any ASCII blanks around it. -/
def sign? (line : Text) : Option (Sign × Text) :=
  match line.skipSpaces with
  | '+' :: rest => some (.plus, Text.skipSpaces rest)
  | '-' :: rest => some (.minus, Text.skipSpaces rest)
  | _ => none

/-- What follows a separator at the front of the line, any ASCII blanks around it
    included. -/
def separator? (line : Text) : Option Text :=
  match line.skipSpaces with
  | ';' :: rest => some (Text.skipSpaces rest)
  | _ => none

/-- Skipping blanks never makes a line longer. -/
theorem length_skipSpaces_le (line : Text) : line.skipSpaces.length ≤ line.length :=
  (List.dropWhile_sublist _).length_le

/-- Faces take something of the line. -/
theorem length_faces? {line : Text} {f : Faces × Text} (h : faces? line = some f) :
    f.2.length < line.length := by
  unfold faces? at h
  split at h
  · rw [← Option.some.inj h]
    simp only [List.length_cons]
    omega
  · split at h
    · exact absurd h (by simp only [reduceCtorEq, not_false_eq_true])
    · rename_i hd
      have hpos := List.length_pos_iff.mpr hd
      have hlen := length_digits line
      rw [← Option.some.inj h]
      simp only
      omega

/-- A roll head takes something of the line. -/
theorem length_rollHead? {line : Text} {r : RollHead} (h : rollHead? line = some r) :
    r.rest.length < line.length := by
  unfold rollHead? at h
  split at h
  · exact absurd h (by simp only [reduceCtorEq, not_false_eq_true])
  · split at h
    · rename_i line' hline
      rcases Option.map_eq_some_iff.mp h with ⟨f, hf, rfl⟩
      have hfaces := length_faces? hf
      have hlen := length_digits line
      rw [hline, List.length_cons] at hlen
      simp only
      omega
    · exact absurd h (by simp only [reduceCtorEq, not_false_eq_true])

/-- A selector takes something of the line. -/
theorem length_selector? {line : Text} {s : Bool × Bool × Text × Text}
    (h : selector? line = some s) : s.2.2.2.length < line.length := by
  unfold selector? at h
  split at h
  · rename_i a b line'
    split at h
    · split at h
      · exact absurd h (by simp only [reduceCtorEq, not_false_eq_true])
      · have hlen := length_digits line'
        rw [← Option.some.inj h]
        simp only [List.length_cons]
        omega
    · exact absurd h (by simp only [reduceCtorEq, not_false_eq_true])
  · exact absurd h (by simp only [reduceCtorEq, not_false_eq_true])

/-- A sign takes something of the line. -/
theorem length_sign? {line : Text} {s : Sign × Text} (h : sign? line = some s) :
    s.2.length < line.length := by
  have hskip := length_skipSpaces_le line
  unfold sign? at h
  split at h
  case h_3 => exact absurd h (by simp only [reduceCtorEq, not_false_eq_true])
  all_goals
    rename_i rest hrest
    rw [hrest, List.length_cons] at hskip
    have := length_skipSpaces_le rest
    rw [← Option.some.inj h]
    simp only
    omega

/-- A separator takes something of the line. -/
theorem length_separator? {line rest : Text} (h : separator? line = some rest) :
    rest.length < line.length := by
  have hskip := length_skipSpaces_le line
  unfold separator? at h
  split at h
  · rename_i rest' hrest
    rw [hrest, List.length_cons] at hskip
    have := length_skipSpaces_le rest'
    rw [← Option.some.inj h]
    omega
  · exact absurd h (by simp only [reduceCtorEq, not_false_eq_true])

end Lexeme

end DiceRoller
