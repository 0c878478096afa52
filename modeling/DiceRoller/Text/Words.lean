import DiceRoller.Text.Basic

/-!
# Words

A line as the words that a shell hands to a program. Gaps between words are runs
of spaces, tabulations and line ends. Between single quotes everything stands for
itself; between double quotes a backslash takes the meaning of a quote or a
backslash after it, and is kept before anything else; outside quotes it takes the
meaning of whatever comes next. Quotes join what is around them to one word, which
may be empty.

The reader goes over the line once. What it has read of a word becomes the front
of the first word of the rest, so no word has to be kept aside.

## Main definitions

* `Words.Mode`: How the reader takes what comes next.
* `Words.readFrom`: The words of what is left of a line.
* `Words.split?`: The words of a line.
-/

namespace DiceRoller

namespace Words

/-- How the reader takes what comes next. -/
inductive Mode where
  /-- Between words. -/
  | gap
  /-- In a word, outside quotes. -/
  | word
  /-- Between single quotes. -/
  | literal
  /-- Between double quotes. -/
  | quoted
deriving DecidableEq

/-- Whether a code point divides words. -/
def isGap (c : Char) : Bool := c == ' ' || c == '\t' || c == '\r' || c == '\n'

/-- Words with a code point more at the front of the first one. -/
def addFront (c : Char) : List Text → List Text
  | [] => [[c]]
  | w :: ws => (c :: w) :: ws

/-- The words of what is left of a line. Within a word, the first of them is what
    is left of that word. There are no words if a quote is left open, or if nothing
    comes after a backslash. -/
def readFrom : Mode → Text → Option (List Text)
  | .gap, [] => some []
  | .word, [] => some [[]]
  | .literal, [] => none
  | .quoted, [] => none
  | .gap, '\\' :: c :: t => (readFrom .word t).map (addFront c)
  | .word, '\\' :: c :: t => (readFrom .word t).map (addFront c)
  | .quoted, '\\' :: c :: t =>
    if c = '"' || c = '\\' then (readFrom .quoted t).map (addFront c)
    else (readFrom .quoted t).map fun ws => addFront '\\' (addFront c ws)
  | .literal, c :: t =>
    if c = '\'' then readFrom .word t else (readFrom .literal t).map (addFront c)
  | .quoted, c :: t =>
    if c = '"' then readFrom .word t
    else if c = '\\' then none
    else (readFrom .quoted t).map (addFront c)
  | .gap, c :: t =>
    if isGap c then readFrom .gap t
    else if c = '\'' then readFrom .literal t
    else if c = '"' then readFrom .quoted t
    else if c = '\\' then none
    else (readFrom .word t).map (addFront c)
  | .word, c :: t =>
    if isGap c then (readFrom .gap t).map ([] :: ·)
    else if c = '\'' then readFrom .literal t
    else if c = '"' then readFrom .quoted t
    else if c = '\\' then none
    else (readFrom .word t).map (addFront c)

/-- The words of a line, or nothing if it breaks off within one. -/
def split? (line : Text) : Option (List Text) := readFrom .gap line

end Words

end DiceRoller
