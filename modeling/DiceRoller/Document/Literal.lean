import DiceRoller.Text.Basic

/-!
# Literals

Texts between double quotes, as documents hold them. A backslash names a code
point by a letter, or one of its halves by four hexadecimal digits; the halves are
put together once all of them are read.

What stands between the quotes as it is may run over several lines. The blanks
around a line break do not count. The first break of a row stands for a blank if
it is the only one and for nothing if more follow. The breaks that part lines or
paragraphs always stand for themselves. Nothing of this holds for a break that a
backslash names.

Only a literal that is short and stands on one line can be a name in a mapping.

## Main definitions

* `Literal.write`: A text between quotes.
* `Literal.Mark`: A code unit with the number of code points that it was written
  with.
* `Literal.fold`: The code units that marks stand for.
* `Literal.read?`: The literal whose opening quote has been read.
-/

namespace DiceRoller

namespace Literal

/-- A digit of a hexadecimal number. -/
def hexDigit (n : Nat) : Char := Char.ofNat (if n < 10 then 48 + n else 87 + n)

/-- A code point between quotes. What cannot be shown is named by its digits. -/
def escape (c : Char) : Text :=
  match c with
  | '"' => ['\\', '"']
  | '\\' => ['\\', '\\']
  | '\n' => ['\\', 'n']
  | '\t' => ['\\', 't']
  | '\r' => ['\\', 'r']
  | '\x08' => ['\\', 'b']
  | '\x0c' => ['\\', 'f']
  | c =>
    if c.toNat < 0x20 then
      ['\\', 'u', '0', '0', hexDigit (c.toNat / 16), hexDigit (c.toNat % 16)]
    else [c]

/-- A text between quotes. -/
def write (t : Text) : Text := '"' :: (t.flatMap escape ++ ['"'])

/-- A code unit as it was written. -/
structure Mark where
  /-- The code unit, or the code point if it stands for itself. -/
  unit : Nat
  /-- The number of code points that it was written with. -/
  size : Nat
deriving DecidableEq

/-- The value of a hexadecimal digit. -/
def nibble? (c : Char) : Option Nat :=
  if '0' ≤ c ∧ c ≤ '9' then some (c.toNat - 48)
  else if 'a' ≤ c ∧ c ≤ 'f' then some (c.toNat - 87)
  else if 'A' ≤ c ∧ c ≤ 'F' then some (c.toNat - 55)
  else none

/-- The code unit that four hexadecimal digits name. -/
def unit? (a b c d : Char) : Option Nat := do
  return ((← nibble? a) * 16 + (← nibble? b)) * 256 + ((← nibble? c) * 16 + (← nibble? d))

/-- The code unit that one letter behind a backslash names. -/
def short? (c : Char) : Option Nat :=
  match c with
  | 'n' => some 0x0A
  | 't' => some 0x09
  | 'r' => some 0x0D
  | 'b' => some 0x08
  | 'f' => some 0x0C
  | '"' => some 0x22
  | '\\' => some 0x5C
  | '/' => some 0x2F
  | _ => none

/-- The marks up to the closing quote, and what follows it. -/
def marks? : Text → Option (List Mark × Text)
  | [] => none
  | '"' :: t => some ([], t)
  | '\\' :: 'u' :: a :: b :: c :: d :: t => do
    let n ← unit? a b c d
    let (ms, rest) ← marks? t
    return (⟨n, 6⟩ :: ms, rest)
  | '\\' :: c :: t => do
    let n ← short? c
    let (ms, rest) ← marks? t
    return (⟨n, 2⟩ :: ms, rest)
  | c :: t => do
    let (ms, rest) ← marks? t
    return (⟨c.toNat, 1⟩ :: ms, rest)

namespace Mark

/-- Whether a mark stands for itself. -/
def isBare (m : Mark) : Bool := m.size == 1

/-- Whether a mark is a break that stands for itself wherever it is. -/
def isLasting (m : Mark) : Bool := m.isBare && (m.unit == 0x2028 || m.unit == 0x2029)

/-- Whether a mark ends a line. -/
def isBreak (m : Mark) : Bool :=
  m.isLasting || m.isBare && (m.unit == 0x0A || m.unit == 0x0D || m.unit == 0x85)

/-- Whether a mark is a blank or ends a line. -/
def isGap (m : Mark) : Bool :=
  m.isBreak || m.isBare && (m.unit == 0x20 || m.unit == 0x09)

/-- What a break stands for once it counts. -/
def kept (m : Mark) : Nat := if m.isLasting then m.unit else 0x0A

end Mark

/-- What a row of blanks and breaks stands for. -/
def ofGap (gap : List Mark) : List Nat :=
  match gap.filter Mark.isBreak with
  | [] => gap.map (·.unit)
  | [m] => if m.isLasting then [m.unit] else [0x20]
  | m :: more =>
    if m.isLasting then m.unit :: more.map Mark.kept else more.map Mark.kept

/-- The code units that marks stand for. -/
def fold : List Mark → List Nat
  | [] => []
  | m :: rest =>
    if m.isGap then ofGap (m :: rest.takeWhile Mark.isGap) ++ fold (rest.dropWhile Mark.isGap)
    else m.unit :: fold rest
termination_by ms => ms.length
decreasing_by
  · exact Nat.lt_succ_of_le ((List.dropWhile_sublist Mark.isGap).length_le)
  · exact Nat.lt_succ_self _

@[simp]
theorem fold_nil : fold [] = [] := by rw [fold]

theorem fold_cons_of_not_isGap {m : Mark} (h : m.isGap = false) (ms : List Mark) :
    fold (m :: ms) = m.unit :: fold ms := by
  rw [fold, if_neg (by simp [h])]

/-- Marks without a blank or a break among them stand for their own code units. -/
theorem fold_eq_map {ms : List Mark} (h : ∀ m ∈ ms, m.isGap = false) :
    fold ms = ms.map (·.unit) := by
  induction ms with
  | nil => simp
  | cons m ms ih =>
    rw [fold_cons_of_not_isGap (h m (by simp)), ih fun m' h' => h m' (by simp [h'])]
    simp

/-- Whether a code unit is the first half of a code point. -/
def isFirst (n : Nat) : Bool := 0xD800 ≤ n && n < 0xDC00

/-- Whether a code unit is the second half of a code point. -/
def isSecond (n : Nat) : Bool := 0xDC00 ≤ n && n < 0xE000

/-- Code units as code points, two halves put together to one. -/
def join : List Nat → Text
  | [] => []
  | [n] => [Char.ofNat n]
  | m :: n :: rest =>
    if isFirst m && isSecond n then
      Char.ofNat (0x10000 + (m - 0xD800) * 0x400 + (n - 0xDC00)) :: join rest
    else Char.ofNat m :: join (n :: rest)

/-- The greatest number of code points of a name, with its quotes. -/
def nameLimit : Nat := 1024

/-- Whether marks between quotes can be a name. -/
def canName (ms : List Mark) : Bool :=
  ms.foldl (fun n m => n + m.size) 2 ≤ nameLimit && !ms.any Mark.isBreak

end Literal

/-- What is read between quotes. -/
structure Literal where
  /-- The text. -/
  text : Text
  /-- Whether it can be a name. -/
  isName : Bool

namespace Literal

/-- The literal whose opening quote has been read, and what follows it. -/
def read? (t : Text) : Option (Literal × Text) :=
  (marks? t).map fun p => (⟨join (fold p.1), canName p.1⟩, p.2)

end Literal

end DiceRoller
