import DiceRoller.Text.Numeral

/-!
# Padding

How a text is brought to a width, and how such a padding is written. The first
code point may say what fills the gap, if the side on which the text stands comes
next: an angle bracket for the left or the right, a caret for the middle. Then
come the width, a point with the number of code points that are kept at most, and
the letter s. Every part may be left out. A zero before the width fills with
zeros, unless something else is said to fill.

Nothing in this is about numbers: what would be a sign, a digit group or a side
between sign and digits cannot be used for a text.

A text is never cut to the width, so a padding that is too narrow does nothing.

## Main definitions

* `Padding.Side`: Where a text stands.
* `Padding`: What fills, where the text stands, how wide, and how much is kept.
* `Padding.read?`: The padding that a text describes.
* `Padding.fit?`: A text brought to a width.
-/

namespace DiceRoller

namespace Padding

/-- Where a text stands in its width. -/
inductive Side where
  /-- On the left. -/
  | left
  /-- On the right. -/
  | right
  /-- In the middle, with the odd code point of the gap on the right. -/
  | middle
deriving DecidableEq

end Padding

/-- How a text is brought to a width. -/
structure Padding where
  /-- What fills the gap. -/
  fill : Char := ' '
  /-- Where the text stands. -/
  side : Padding.Side := .left
  /-- The width, zero if there is none. -/
  width : Nat := 0
  /-- How many code points are kept at most. -/
  most : Option Nat := none
deriving DecidableEq

namespace Padding

/-- The side that a code point stands for. -/
def Side.ofChar? : Char → Option Side
  | '<' => some .left
  | '>' => some .right
  | '^' => some .middle
  | _ => none

/-- Whether a code point is read as a side. The equals sign is, although no text
    can stand on that side. -/
def marksSide (c : Char) : Bool := (Side.ofChar? c).isSome || c == '='

/-- The greatest number that a width can be written as. -/
def greatest : Nat := 9223372036854775807

/-- The number at the front of a text, and what follows it. Without a digit there
    is no number; one that is too great cannot be read. -/
def number? (t : Text) : Option (Option Nat × Text) :=
  let digits := (t.map Numeral.digit?).takeWhile Option.isSome
  let n := digits.foldl (fun n d => 10 * n + d.getD 0) 0
  if digits.isEmpty then some (none, t)
  else if n ≤ greatest then some (some n, t.drop digits.length)
  else none

/-- The fill that is said, the mark of a side, and what follows them. -/
def sides (t : Text) : Option Char × Char × Text :=
  match t with
  | fill :: mark :: rest =>
    if marksSide mark then (some fill, mark, rest)
    else if marksSide fill then (none, fill, mark :: rest)
    else (none, '<', t)
  | [mark] => if marksSide mark then (none, mark, []) else (none, '<', t)
  | [] => (none, '<', [])

/-- The number behind a point, if there is a point, and what follows it. -/
def most? : Text → Option (Option Nat × Text)
  | '.' :: t =>
    match number? t with
    | some (some n, rest) => some (some n, rest)
    | _ => none
  | t => some (none, t)

/-- The padding that a text describes. -/
def read? (t : Text) : Option Padding := do
  let (fill, mark, t) := sides t
  let side ← Side.ofChar? mark
  let isZero := fill.isNone && t.head? == some '0'
  let (width, t) ← number? (if isZero then t.drop 1 else t)
  let (most, t) ← most? t
  if t == [] || t == ['s'] then
    return ⟨fill.getD (if isZero then '0' else ' '), side, width.getD 0, most⟩
  else none

/-- A text on its side of a width. -/
def place (p : Padding) (t : Text) : Text :=
  let gap := p.width - t.length
  let before := match p.side with
    | .left => 0
    | .right => gap
    | .middle => gap / 2
  List.replicate before p.fill ++ t ++ List.replicate (gap - before) p.fill

/-- The width that no text is brought to. -/
def unreachable : Nat := 10000000000

/-- A text brought to a width, which must not be too great. -/
def fit? (p : Padding) (t : Text) : Option Text :=
  let kept := match p.most with
    | none => t
    | some n => t.take n
  if kept.length < p.width && unreachable ≤ p.width then none else some (p.place kept)

theorem length_place (p : Padding) (t : Text) : (p.place t).length = max p.width t.length := by
  have before (gap : Nat) : (match p.side with
      | .left => 0
      | .right => gap
      | .middle => gap / 2) ≤ gap := by
    split <;> omega
  simp only [place, List.length_append, List.length_replicate]
  have := before (p.width - t.length)
  omega

theorem place_of_le {p : Padding} {t : Text} (h : p.width ≤ t.length) : p.place t = t := by
  have gap : p.width - t.length = 0 := by omega
  have none : (match p.side with
      | .left => 0
      | .right => 0
      | .middle => 0 / 2) = 0 := by
    split <;> rfl
  simp only [place, gap, none, Nat.sub_zero, List.replicate_zero, List.append_nil, List.nil_append]

end Padding

end DiceRoller
