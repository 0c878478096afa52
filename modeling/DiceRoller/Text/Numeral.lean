import DiceRoller.Text.Blank

/-!
# Numerals

How whole numbers are written and read. Numbers are written in ASCII decimal
digits without leading zeros, a minus in front of a negative one. A number word
is read more liberally: digits of any decimal script, a sign, and single
underscores between digits. Neither direction handles more than `maxDigits`
digits, and a longer number is a failure of its own, not a wrong value.

## Main definitions

* `Text.ofNat`, `Text.ofInt`: The numeral of a number.
* `Numeral.maxDigits`: The number of digits beyond which a number is refused.
* `Numeral.write?`: The numeral of a number, if it is not too long.
* `Numeral.digit?`: The value of a decimal digit of any script.
* `Numeral.read?`: The number that a number word denotes.
-/

namespace DiceRoller

namespace Text

/-- The decimal numeral of a natural number. -/
def ofNat (n : Nat) : Text := Nat.toDigits 10 n

/-- The decimal numeral of a whole number. -/
def ofInt : Int → Text
  | .ofNat n => ofNat n
  | .negSucc n => '-' :: ofNat (n + 1)

end Text

namespace Numeral

/-- The number of decimal digits beyond which a number is neither read nor
    written. -/
def maxDigits : Nat := 4300

/-- The numeral of a number, or nothing if it has too many digits. -/
def write? (n : Int) : Option Text :=
  if (Text.ofNat n.natAbs).length ≤ maxDigits then some (Text.ofInt n) else none

/-- An ASCII decimal digit. -/
def isDigit (c : Char) : Bool := 0x30 ≤ c.toNat && c.toNat ≤ 0x39

/-- The number that a run of ASCII digits denotes. -/
def ofDigits (ds : Text) : Nat := Nat.ofDigitChars 10 ds 0

/-- The zeros of the decimal scripts of Unicode; the digits of a script follow
    its zero in order. The mathematical digits are five scripts in a row. -/
def zeros : List Nat :=
  [0x30, 0x660, 0x6F0, 0x7C0, 0x966, 0x9E6, 0xA66, 0xAE6, 0xB66, 0xBE6, 0xC66, 0xCE6, 0xD66,
    0xDE6, 0xE50, 0xED0, 0xF20, 0x1040, 0x1090, 0x17E0, 0x1810, 0x1946, 0x19D0, 0x1A80, 0x1A90,
    0x1B50, 0x1BB0, 0x1C40, 0x1C50, 0xA620, 0xA8D0, 0xA900, 0xA9D0, 0xA9F0, 0xAA50, 0xABF0,
    0xFF10, 0x104A0, 0x10D30, 0x11066, 0x110F0, 0x11136, 0x111D0, 0x112F0, 0x11450, 0x114D0,
    0x11650, 0x116C0, 0x11730, 0x118E0, 0x11950, 0x11C50, 0x11D50, 0x11DA0, 0x16A60, 0x16AC0,
    0x16B50, 0x1D7CE, 0x1D7D8, 0x1D7E2, 0x1D7EC, 0x1D7F6, 0x1E140, 0x1E2F0, 0x1E950, 0x1FBF0]

/-- The value of a decimal digit of any script. -/
def digit? (c : Char) : Option Nat :=
  (zeros.find? fun z => z ≤ c.toNat && c.toNat < z + 10).map (c.toNat - ·)

/-- The blanks that may surround a number word: all but the four information
    separators. -/
def isMargin (c : Char) : Bool :=
  Text.isBlank c && !(0x1C ≤ c.toNat && c.toNat ≤ 0x1F)

/-- The values of digits of which each two neighbours may have one underscore
    between them. The word neither begins nor ends with an underscore. -/
def digits? : Text → Option (List Nat)
  | [] => none
  | [c] => (digit? c).map ([·])
  | c :: '_' :: rest => do
    let d ← digit? c
    return d :: (← digits? rest)
  | c :: x :: rest => do
    let d ← digit? c
    return d :: (← digits? (x :: rest))

/-- The value of a digit word of at most `maxDigits` digits. -/
def magnitude? (t : Text) : Option Nat := do
  let ds ← digits? t
  if ds.length ≤ maxDigits then some (ds.foldl (fun n d => 10 * n + d) 0) else none

/-- The number that a number word denotes: blanks at its ends are ignored, one
    sign may precede the digits. -/
def read? (t : Text) : Option Int :=
  match Text.dropEndWhile isMargin (t.dropWhile isMargin) with
  | '-' :: rest => (magnitude? rest).map fun n => -(n : Int)
  | '+' :: rest => (magnitude? rest).map Int.ofNat
  | rest => (magnitude? rest).map Int.ofNat

end Numeral

end DiceRoller
