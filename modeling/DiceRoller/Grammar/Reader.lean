import DiceRoller.Grammar.Lexeme
import DiceRoller.Grammar.Limits
import DiceRoller.Grammar.Mistake
import DiceRoller.Dice.RollSet

/-!
# Reading a notation

From text to a roll set that was never thrown. A notation is expressions with
separators between them, and perhaps one more at the end; an expression is terms
with signs between them, and perhaps one more in front; a term is a roll with its
selectors, or a constant.

Each reader takes a line and returns what it read together with the rest of the
line, which is shorter. The readers for parts report mistakes relative to the
line they were given; `RollSet.read` moves them to the whole text.

The ends of the text are trimmed of every blank, but blanks between the parts are
ASCII ones only. The trimming at the end needs no step of its own: an expression
may be followed by blanks of any kind as long as nothing else follows them.

## Main definitions

* `Reader.number`, `Reader.selectors`, `Reader.roll`, `Reader.constant`,
  `Reader.term`, `Reader.expression`: The readers for the parts.
* `RollSet.read`: The set that a text describes.

## Theorems

* `Reader.length_selectors`, `Reader.length_term`, `Reader.length_expression`:
  What a reader leaves is no longer than its line, and shorter but for selectors.
-/

namespace DiceRoller

namespace Reader

/-- The number that the digits at a position of the line denote. -/
def number (line : Text) (position : Nat) (digits : Text) : Except Mistake Nat :=
  if digits.length ≤ Numeral.maxDigits then .ok (Numeral.ofDigits digits)
  else .error ⟨.numberTooLarge, line, position, digits⟩

/-- One selector at the front of the line, if there is one, with the rest. -/
def selector (line : Text) : Except Mistake (Option (Selector × Text)) :=
  match Lexeme.selector? line with
  | none => .ok none
  | some (keep, high, digits, rest) => do
    let num ← number line 2 digits
    if num < 1 then
      .error ⟨.selectorCount, line, 0, line.take 2 ++ digits⟩
    else
      .ok (some (⟨keep, high, num⟩, rest))

/-- A selector takes something of the line. -/
theorem length_selector {line : Text} {s : Selector × Text}
    (h : selector line = .ok (some s)) : s.2.length < line.length := by
  unfold selector at h
  split at h
  · exact absurd h (by simp only [Except.ok.injEq, reduceCtorEq, not_false_eq_true])
  · rename_i keep high digits rest hs
    have hlen := Lexeme.length_selector? hs
    rcases hn : number line 2 digits with e | num
    · simp only [hn, bind, Except.bind, reduceCtorEq] at h
    · simp only [hn, bind, Except.bind] at h
      split at h
      · exact absurd h (by simp only [reduceCtorEq, not_false_eq_true])
      · rw [← Option.some.inj (Except.ok.inj h)]
        exact hlen

/-- The selectors at the front of the line, in the order written. -/
def selectors (line : Text) : Except Mistake (List Selector × Text) :=
  match _h : selector line with
  | .error m => .error m
  | .ok none => .ok ([], line)
  | .ok (some (s, rest)) =>
    match selectors rest with
    | .error m => .error m
    | .ok (more, rest) => .ok (s :: more, rest)
termination_by line.length
decreasing_by exact length_selector _h

/-- The kind of die that the faces of a roll head name. Its values are put together
    as soon as its faces are known to be within the limit. -/
def spec (limits : Limits) (line : Text) (head : Lexeme.RollHead) : Except Mistake DieSpec :=
  match head.faces with
  | .fate => .ok .fateDie
  | .numbered digits => do
    let position := head.quantity.length + 1
    let faces ← number line position digits
    if faces < 1 then .error ⟨.faceCount, line, position, digits⟩
    else match limits.faces.exceeded? faces with
      | .error () => .error ⟨.unordered, line, position, digits⟩
      | .ok (some shown) => .error ⟨.tooManyFaces shown, line, position, digits⟩
      | .ok none =>
        (DieSpec.numbered? faces).mapError fun e => ⟨.excess e, line, position, digits⟩

/-- The quantity of a roll head. -/
def quantity (limits : Limits) (line : Text) (head : Lexeme.RollHead) : Except Mistake Nat := do
  let n ← number line 0 head.quantity
  if n < 1 then .error ⟨.diceCount, line, 0, head.quantity⟩
  else match limits.dice.exceeded? n with
    | .error () => .error ⟨.unordered, line, 0, head.quantity⟩
    | .ok (some shown) => .error ⟨.tooManyDice shown, line, 0, head.quantity⟩
    | .ok none => .ok n

/-- The roll that begins with the given head. -/
def rollFrom (limits : Limits) (line : Text) (head : Lexeme.RollHead) :
    Except Mistake (Roll × Text) := do
  let n ← quantity limits line head
  let spec ← spec limits line head
  let (selectors, rest) ← selectors head.rest
  return (.fresh n spec selectors, rest)

/-- The roll at the front of the line. -/
def roll (limits : Limits) (line : Text) : Except Mistake (Roll × Text) :=
  match Lexeme.rollHead? line with
  | none => .error (.whole .noRoll line)
  | some head => rollFrom limits line head

/-- The constant at the front of the line. -/
def constant (line : Text) : Except Mistake (Int × Text) :=
  if Lexeme.digits line = [] then .error (.whole .noConstant line)
  else do
    let n ← number line 0 (Lexeme.digits line)
    return (n, Lexeme.afterDigits line)

/-- The term at the front of the line. What begins like a roll is one; only then
    may it be a constant. -/
def term (limits : Limits) (line : Text) : Except Mistake (Term × Text) :=
  match Lexeme.rollHead? line with
  | some head => do
    let (r, rest) ← rollFrom limits line head
    return (.roll r, rest)
  | none =>
    if Lexeme.digits line = [] then .error (.whole .noTerm line)
    else do
      let (n, rest) ← constant line
      return (.constant n, rest)

/-- Selectors never make the line longer. -/
theorem length_selectors {line : Text} {r : List Selector × Text}
    (h : selectors line = .ok r) : r.2.length ≤ line.length := by
  fun_induction selectors line generalizing r with
  | case1 line m hs => exact absurd h (by simp only [reduceCtorEq, not_false_eq_true])
  | case2 line hs =>
      exact Nat.le_of_eq (by rw [← Except.ok.inj h])
  | case3 line s rest hs m hm => exact absurd h (by simp only [reduceCtorEq, not_false_eq_true])
  | case4 line s rest hs more rest' hm ih =>
      have hlen := length_selector hs
      have := ih hm
      rw [← Except.ok.inj h]
      simp only at this hlen ⊢
      omega

/-- A roll takes something of the line. -/
theorem length_rollFrom {limits : Limits} {line : Text} {head : Lexeme.RollHead} {r : Roll × Text}
    (hh : Lexeme.rollHead? line = some head) (h : rollFrom limits line head = .ok r) :
    r.2.length < line.length := by
  have hhead := Lexeme.length_rollHead? hh
  unfold rollFrom at h
  rcases hq : quantity limits line head with e | n
  · simp only [hq, bind, Except.bind, reduceCtorEq] at h
  rcases hf : spec limits line head with e | s
  · simp only [hq, hf, bind, Except.bind, reduceCtorEq] at h
  rcases hs : selectors head.rest with e | ⟨ss, rest⟩
  · simp only [hq, hf, hs, bind, Except.bind, reduceCtorEq] at h
  simp only [hq, hf, hs, bind, Except.bind, pure, Except.pure] at h
  have := length_selectors hs
  rw [← Except.ok.inj h]
  simp only at this ⊢
  omega

/-- A constant takes something of the line. -/
theorem length_constant {line : Text} {r : Int × Text} (h : constant line = .ok r) :
    r.2.length < line.length := by
  unfold constant at h
  split at h
  · exact absurd h (by simp only [reduceCtorEq, not_false_eq_true])
  · rename_i hd
    rcases hn : number line 0 (Lexeme.digits line) with e | n
    · simp only [hn, bind, Except.bind, reduceCtorEq] at h
    · simp only [hn, bind, Except.bind, pure, Except.pure] at h
      have hpos := List.length_pos_iff.mpr hd
      have hlen := Lexeme.length_digits line
      rw [← Except.ok.inj h]
      simp only
      omega

/-- A term takes something of the line. -/
theorem length_term {limits : Limits} {line : Text} {r : Term × Text}
    (h : term limits line = .ok r) : r.2.length < line.length := by
  unfold term at h
  split at h
  · rename_i head hh
    rcases hr : rollFrom limits line head with e | ⟨roll, rest⟩
    · simp only [hr, bind, Except.bind, reduceCtorEq] at h
    · simp only [hr, bind, Except.bind, pure, Except.pure] at h
      rw [← Except.ok.inj h]
      exact length_rollFrom hh hr
  · split at h
    · exact absurd h (by simp only [reduceCtorEq, not_false_eq_true])
    · rcases hc : constant line with e | ⟨n, rest⟩
      · simp only [hc, bind, Except.bind, reduceCtorEq] at h
      · simp only [hc, bind, Except.bind, pure, Except.pure] at h
        rw [← Except.ok.inj h]
        exact length_constant hc

/-- The terms behind signs at the front of the line, up to where no sign
    follows. -/
def signedTerms (limits : Limits) (line : Text) :
    Except Mistake (List (Sign × Term) × Text) :=
  match _hs : Lexeme.sign? line with
  | none => .ok ([], line)
  | some (sign, rest) =>
    match _ht : term limits rest with
    | .error m => .error m
    | .ok (t, rest') =>
      match signedTerms limits rest' with
      | .error m => .error m
      | .ok (more, rest'') => .ok ((sign, t) :: more, rest'')
termination_by line.length
decreasing_by
  have h₁ := Lexeme.length_sign? _hs
  have h₂ := length_term _ht
  simp only at h₁ h₂
  omega

/-- Further signed terms never make the line longer. -/
theorem length_signedTerms {limits : Limits} {line : Text} {r : List (Sign × Term) × Text}
    (h : signedTerms limits line = .ok r) : r.2.length ≤ line.length := by
  fun_induction signedTerms limits line generalizing r with
  | case1 line hs =>
      exact Nat.le_of_eq (by rw [← Except.ok.inj h])
  | case2 line sign rest hs m ht => exact absurd h (by simp only [reduceCtorEq, not_false_eq_true])
  | case3 line sign rest hs t rest' ht m hm =>
      exact absurd h (by simp only [reduceCtorEq, not_false_eq_true])
  | case4 line sign rest hs t rest' ht more rest'' hm ih =>
      have h₁ := Lexeme.length_sign? hs
      have h₂ := length_term ht
      have h₃ := ih hm
      rw [← Except.ok.inj h]
      simp only at h₁ h₂ h₃ ⊢
      omega

/-- Checks that an expression may end where the given rest begins: only blanks
    follow, or a separator. -/
def checkEnd (line : Text) : Except Mistake Unit :=
  if line.trimStart = [] ∨ (Lexeme.separator? line).isSome then .ok ()
  else .error ⟨.noSeparator, line, line.length - line.trimStart.length, line.trimStart⟩

/-- The expression at the front of the line. A first term without a sign counts
    as one with a plus. -/
def expression (limits : Limits) (line : Text) : Except Mistake (Expression × Text) := do
  let (sign, line) := (Lexeme.sign? line).getD (.plus, line)
  let (t, line) ← term limits line
  let (more, line) ← signedTerms limits line
  checkEnd line
  return (⟨(sign, t) :: more⟩, line)

/-- An expression takes something of the line. -/
theorem length_expression {limits : Limits} {line : Text} {r : Expression × Text}
    (h : expression limits line = .ok r) : r.2.length < line.length := by
  have hsign : ((Lexeme.sign? line).getD (.plus, line)).2.length ≤ line.length := by
    rcases hs : Lexeme.sign? line with _ | s
    · exact Nat.le_refl _
    · exact Nat.le_of_lt (Lexeme.length_sign? hs)
  simp only [expression] at h
  rcases ht : term limits ((Lexeme.sign? line).getD (.plus, line)).2 with e | ⟨t, rest⟩
  · simp only [ht, bind, Except.bind, reduceCtorEq] at h
  rcases hm : signedTerms limits rest with e | ⟨more, rest'⟩
  · simp only [ht, hm, bind, Except.bind, reduceCtorEq] at h
  rcases hc : checkEnd rest' with e | u
  · simp only [ht, hm, hc, bind, Except.bind, reduceCtorEq] at h
  simp only [ht, hm, hc, bind, Except.bind, pure, Except.pure] at h
  have h₁ := length_term ht
  have h₂ := length_signedTerms hm
  rw [← Except.ok.inj h]
  simp only at h₁ h₂ ⊢
  omega

/-- What remains to be read behind an expression: what follows a separator, or
    nothing if there is none. -/
def afterExpression (line : Text) : Text := (Lexeme.separator? line).getD []

/-- A line never grows behind an expression. -/
theorem length_afterExpression_le (line : Text) :
    (afterExpression line).length ≤ line.length := by
  unfold afterExpression
  rcases hs : Lexeme.separator? line with _ | rest
  · exact Nat.zero_le _
  · exact Nat.le_of_lt (Lexeme.length_separator? hs)

/-- The expressions of a line, with a separator behind each but perhaps the
    last. -/
def expressions (limits : Limits) (line : Text) : Except Mistake (List Expression) :=
  if line = [] then .ok []
  else
    match _h : expression limits line with
    | .error m => .error m
    | .ok (e, rest) =>
      match expressions limits (afterExpression rest) with
      | .error m => .error m
      | .ok more => .ok (e :: more)
termination_by line.length
decreasing_by
  have h₁ := length_expression _h
  have h₂ := length_afterExpression_le rest
  simp only at h₁
  omega

end Reader

/-- The set that a text describes, its dice not thrown yet. Mistakes are placed
    in the whole text, and nothing is kept of a text that has one. -/
def RollSet.read (limits : Limits) (text : Text) : Except Mistake RollSet :=
  if text.trimStart = [] then .error (.whole .nothing text)
  else match Reader.expressions limits text.trimStart with
    | .error m => .error (m.within text)
    | .ok expressions => .ok ⟨expressions, some text.trim⟩

end DiceRoller
