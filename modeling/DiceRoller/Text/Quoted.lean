import DiceRoller.Text.Printable
import DiceRoller.Text.Numeral

/-!
# Quoted text

A text as it is shown inside a description: in quotes, with everything that
would not show as itself written as an escape. Apostrophes are the quotes unless
the text holds an apostrophe and no double quote.

## Main definitions

* `Quoted.mark`: The quote that is used for a text.
* `Quoted.escape`: How one character is shown between the quotes.
* `Text.quoted`: The quoted text.
* `Text.bracketed`, `Text.parenthesised`: Descriptions in brackets, separated by
  commas.
-/

namespace DiceRoller

namespace Quoted

/-- The quote for a text: the apostrophe, unless only the double quote is free
    of occurrences in it. -/
def mark (t : Text) : Char :=
  if t.contains '\'' && !t.contains '"' then '"' else '\''

/-- The last `width` hexadecimal digits of a number, in lower case. -/
def hex (width n : Nat) : Text :=
  let ds := Nat.toDigits 16 n
  List.replicate (width - ds.length) '0' ++ ds

/-- How one character is shown between quotes `q`: the quote, the backslash and
    the three common controls by a letter of their own, other characters that
    do not show by their number. -/
def escape (q c : Char) : Text :=
  if c = q || c = '\\' then ['\\', c]
  else if c = '\n' then ['\\', 'n']
  else if c = '\r' then ['\\', 'r']
  else if c = '\t' then ['\\', 't']
  else if Text.isPrintable c then [c]
  else if c.toNat < 0x100 then '\\' :: 'x' :: hex 2 c.toNat
  else if c.toNat < 0x10000 then '\\' :: 'u' :: hex 4 c.toNat
  else '\\' :: 'U' :: hex 8 c.toNat

end Quoted

namespace Text

/-- The text in quotes, with escapes for what would not show as itself. -/
def quoted (t : Text) : Text :=
  let q := Quoted.mark t
  q :: t.flatMap (Quoted.escape q) ++ [q]

/-- Descriptions in square brackets. -/
def bracketed (ts : List Text) : Text := '[' :: join [',', ' '] ts ++ [']']

/-- Descriptions in round brackets. A single one is followed by a comma, which
    tells it from a description in brackets of its own. -/
def parenthesised : List Text → Text
  | [t] => '(' :: t ++ [',', ')']
  | ts => '(' :: join [',', ' '] ts ++ [')']

end Text

end DiceRoller
