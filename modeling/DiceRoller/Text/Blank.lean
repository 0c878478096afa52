import DiceRoller.Text.Basic

/-!
# Blanks

Two notions of white space meet in a notation. The ends of a text are trimmed of
every blank of Unicode, while around signs and separators only the six ASCII
blanks are skipped. The first class contains the second, and the difference is
what makes a no-break space an error inside a notation but harmless at its ends.

## Main definitions

* `Text.isBlank`: The blanks that trimming removes.
* `Text.isSpace`: The six ASCII blanks that may stand around a sign.
* `Text.trimStart`, `Text.trimEnd`, `Text.trim`: Text without blanks at its ends.
* `Text.skipSpaces`: What follows the ASCII blanks at the front.

## Theorems

* `Text.isBlank_of_isSpace`: Every ASCII blank is a blank.
-/

namespace DiceRoller

namespace Text

/-- The blanks of Unicode: tabulation to carriage return, the four information
    separators, the space, the next-line control, and every space, line and
    paragraph separator. -/
def isBlank (c : Char) : Bool :=
  let n := c.toNat
  (0x09 ≤ n && n ≤ 0x0D) || (0x1C ≤ n && n ≤ 0x20) || n == 0x85 || n == 0xA0 || n == 0x1680 ||
    (0x2000 ≤ n && n ≤ 0x200A) || n == 0x2028 || n == 0x2029 || n == 0x202F || n == 0x205F ||
    n == 0x3000

/-- The six ASCII blanks: tabulation to carriage return, and the space. -/
def isSpace (c : Char) : Bool :=
  (0x09 ≤ c.toNat && c.toNat ≤ 0x0D) || c.toNat == 0x20

/-- Every ASCII blank is a blank. -/
theorem isBlank_of_isSpace {c : Char} (h : isSpace c = true) : isBlank c = true := by
  simp only [isSpace, isBlank, Bool.or_eq_true, Bool.and_eq_true, decide_eq_true_eq,
    beq_iff_eq] at h ⊢
  omega

/-- The text without the blanks at its front. -/
def trimStart (t : Text) : Text := t.dropWhile isBlank

/-- The text without the blanks at its end. -/
def trimEnd (t : Text) : Text := t.dropEndWhile isBlank

/-- The text without the blanks at either end. -/
def trim (t : Text) : Text := t.trimStart.trimEnd

/-- What follows the ASCII blanks at the front. -/
def skipSpaces (t : Text) : Text := t.dropWhile isSpace

end Text

end DiceRoller
