import DiceRoller.Text.Basic

/-!
# Patterns

Patterns that names are looked for with. A star stands for any run of code
points, a question mark for any one, and brackets for one out of a set, or for
one that is not in it when the set begins with an exclamation mark. Everything
else stands for itself, also a bracket that is never closed.

A pattern is read into pieces first, so that matching is one recursion over them
and knows nothing of brackets. That recursion says what fits, but it tries every
end of the text anew for every star. What is computed is a row of answers, one
for each end of the pieces, and the row for a text follows from the row for the
text without its first code point.

## Main definitions

* `Pattern.Mark`: What a set lists: one code point, or a span of them.
* `Pattern.Piece`: A piece of a pattern.
* `Pattern.read`: The pieces of a pattern.
* `Pattern.accepts`: Whether a text as a whole fits pieces.
* `Pattern.row`: The answers for all ends of the pieces.
* `Pattern.fits`: Whether a text as a whole fits a pattern.

## Theorems

* `Pattern.row_eq_answers`: The row holds the answers.
* `Pattern.fits_eq_accepts`: A text fits a pattern when its pieces accept it.
* `Pattern.accepts_run_iff`: A star is free to stand for any front of the text.
-/

namespace DiceRoller

namespace Pattern

/-- What a set lists. -/
inductive Mark where
  /-- One code point. -/
  | one (c : Char)
  /-- The code points from one to another. -/
  | span (a b : Char)
deriving DecidableEq

/-- Whether a mark stands for no code point at all. -/
def Mark.isVoid : Mark → Bool
  | .one _ => false
  | .span a b => b.toNat < a.toNat

/-- Whether a mark stands for a code point, among others. -/
def Mark.admits (c : Char) : Mark → Bool
  | .one d => c == d
  | .span a b => a.toNat ≤ c.toNat && c.toNat ≤ b.toNat

/-- A piece of a pattern. -/
inductive Piece where
  /-- Any run of code points. -/
  | run
  /-- Any code point. -/
  | any
  /-- The code point itself. -/
  | char (c : Char)
  /-- A code point out of a set, or one that is not in it. -/
  | set (excluded : Bool) (marks : List Mark)
deriving DecidableEq

/-- Whether a piece that stands for one code point stands for this one. -/
def Piece.admits (c : Char) : Piece → Bool
  | .run => true
  | .any => true
  | .char d => c == d
  | .set excluded marks => marks.any (Mark.admits c) != excluded

/-- The marks of a set as they stand one after another. A hyphen makes a span of
    its neighbours; at either end, or right after a span, it is a mark itself. -/
def marks : Text → List Mark
  | a :: '-' :: b :: rest => .span a b :: marks rest
  | a :: rest => .one a :: marks rest
  | [] => []

/-- The marks of a set that stand for something. -/
def marksOf (body : Text) : List Mark := (marks body).filter fun m => !m.isVoid

/-- The set between two brackets. An exclamation mark also excludes when nothing
    but void spans comes before it; the hyphen after it is then a mark. -/
def setOf : Text → Piece
  | '!' :: rest => .set true (marksOf rest)
  | body =>
    match marksOf body with
    | .one '!' :: rest => .set true rest
    | .span '!' b :: rest => .set true (.one '-' :: .one b :: rest)
    | ms => .set false ms

/-- How much of a text after an opening bracket is not looked at for the closing
    one: a set is never empty, so a closing bracket at its front is a mark. -/
def guarded : Text → Nat
  | '!' :: ']' :: _ => 2
  | '!' :: _ => 1
  | ']' :: _ => 1
  | _ => 0

/-- What stands before the closing bracket, in a text after an opening one.
    There is nothing if the bracket is never closed. -/
def body? (t : Text) : Option Text :=
  let n := guarded t
  if (t.drop n).contains ']' then some (t.take n ++ (t.drop n).takeWhile (· != ']')) else none

/-- The pieces of a pattern. The first `skip` code points belong to the set that
    was read last and are passed over, together with its closing bracket. A row of
    stars says no more than one of them. -/
def readFrom : Nat → Text → List Piece
  | _, [] => []
  | skip + 1, _ :: t => readFrom skip t
  | 0, '*' :: t => if t.head? == some '*' then readFrom 0 t else .run :: readFrom 0 t
  | 0, '?' :: t => .any :: readFrom 0 t
  | 0, '[' :: t =>
    match body? t with
    | some body => setOf body :: readFrom (body.length + 1) t
    | none => .char '[' :: readFrom 0 t
  | 0, c :: t => .char c :: readFrom 0 t

/-- The pieces of a pattern. -/
def read (t : Text) : List Piece := readFrom 0 t

/-- Whether some end of a text satisfies `p`. -/
def anyEnd (p : Text → Bool) : Text → Bool
  | [] => p []
  | c :: t => p (c :: t) || anyEnd p t

/-- Whether a text as a whole fits the pieces. -/
def accepts : List Piece → Text → Bool
  | [], t => t.isEmpty
  | .run :: ps, t => anyEnd (accepts ps) t
  | p :: ps, c :: t => p.admits c && accepts ps t
  | _ :: _, [] => false

/-- For each end of the pieces, whether a text as a whole fits it. -/
def answers (t : Text) : List Piece → List Bool
  | [] => [accepts [] t]
  | p :: ps => accepts (p :: ps) t :: answers t ps

/-- The row for the empty text. -/
def lastRow : List Piece → List Bool
  | [] => [true]
  | p :: ps =>
    let below := lastRow ps
    (p == .run && below.headD false) :: below

/-- The row for a text from the one for the text without its first code point. -/
def nextRow (c : Char) : List Piece → List Bool → List Bool
  | [], _ => [false]
  | p :: ps, row =>
    let below := nextRow c ps row.tail
    (if p == .run then below.headD false || row.headD false
      else p.admits c && row.tail.headD false) :: below

/-- The answers for all ends of the pieces. -/
def row (ps : List Piece) : Text → List Bool
  | [] => lastRow ps
  | c :: t => nextRow c ps (row ps t)

/-- Whether a text as a whole fits a pattern. -/
def fits (pattern t : Text) : Bool := (row (read pattern) t).headD false

theorem anyEnd_iff {p : Text → Bool} {t : Text} :
    anyEnd p t = true ↔ ∃ u v, t = u ++ v ∧ p v = true := by
  induction t with
  | nil =>
    constructor
    · exact fun h => ⟨[], [], rfl, h⟩
    · rintro ⟨u, v, h, hp⟩
      obtain ⟨-, rfl⟩ := List.append_eq_nil_iff.mp h.symm
      exact hp
  | cons c t ih =>
    rw [anyEnd, Bool.or_eq_true, ih]
    constructor
    · rintro (h | ⟨u, v, rfl, hp⟩)
      · exact ⟨[], c :: t, rfl, h⟩
      · exact ⟨c :: u, v, rfl, hp⟩
    · rintro ⟨u, v, h, hp⟩
      -- The end is the whole text, or one of what follows its first code point.
      cases u with
      | nil => exact .inl (h ▸ hp)
      | cons d u => exact .inr ⟨u, v, (List.cons.inj h).2, hp⟩

/-- A star is free to stand for any front of the text. -/
theorem accepts_run_iff {ps : List Piece} {t : Text} :
    accepts (.run :: ps) t = true ↔ ∃ u v, t = u ++ v ∧ accepts ps v = true := anyEnd_iff

theorem headD_answers (t : Text) (ps : List Piece) :
    (answers t ps).headD false = accepts ps t := by
  cases ps <;> rfl

theorem accepts_cons_nil (p : Piece) (ps : List Piece) :
    accepts (p :: ps) [] = (p == .run && accepts ps []) := by
  cases p <;> simp [accepts, anyEnd]

theorem accepts_cons_cons (p : Piece) (ps : List Piece) (c : Char) (t : Text) :
    accepts (p :: ps) (c :: t) =
      if p == .run then accepts ps (c :: t) || accepts (p :: ps) t
      else p.admits c && accepts ps t := by
  cases p <;> simp [accepts, anyEnd]

theorem lastRow_eq_answers (ps : List Piece) : lastRow ps = answers [] ps := by
  induction ps with
  | nil => rfl
  | cons p ps ih => simp only [lastRow, answers, ih, headD_answers, accepts_cons_nil]

theorem nextRow_answers (c : Char) (t : Text) (ps : List Piece) :
    nextRow c ps (answers t ps) = answers (c :: t) ps := by
  induction ps with
  | nil => rfl
  | cons p ps ih =>
    simp only [nextRow, answers, List.tail_cons, List.headD_cons, ih, headD_answers,
      accepts_cons_cons]

theorem row_eq_answers (ps : List Piece) (t : Text) : row ps t = answers t ps := by
  induction t with
  | nil => exact lastRow_eq_answers ps
  | cons c t ih => rw [row, ih, nextRow_answers]

theorem fits_eq_accepts (pattern t : Text) : fits pattern t = accepts (read pattern) t := by
  rw [fits, row_eq_answers, headD_answers]

end Pattern

end DiceRoller
