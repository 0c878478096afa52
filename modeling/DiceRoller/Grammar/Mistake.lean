import DiceRoller.Dice.Die

/-!
# Mistakes

What can be wrong with a notation, and where. A reader that fails knows only the
line that it was given, so a mistake holds that line and a position in it; since
every reader is given a suffix of the whole text, the lengths of the two tell
where the mistake stands in the whole.

Two faults are none of the notation. A limit may be no number, and a die that is
within its limit may have too many faces for its values. Reading ends there as it
does at a mistake, but whoever asked for it is not told of one.

## Main definitions

* `Fault`: What is wrong.
* `Fault.isMistake`: Whether it is wrong with the notation.
* `Fault.reason`: The wording of a fault.
* `Mistake`: A fault with its place.
* `Mistake.within`: A mistake moved to its place in the whole text.
* `Mistake.message`: The wording of a mistake.
-/

namespace DiceRoller

/-- What is wrong with a notation. The limits that are exceeded are held as they
    are shown. -/
inductive Fault where
  /-- A run of digits is too long for a number. -/
  | numberTooLarge
  /-- A selector selects no die. -/
  | selectorCount
  /-- No roll begins here. -/
  | noRoll
  /-- A roll has no dice. -/
  | diceCount
  /-- A roll has more dice than the limit. -/
  | tooManyDice (limit : Text)
  /-- A die has no faces. -/
  | faceCount
  /-- A die has more faces than the limit. -/
  | tooManyFaces (limit : Text)
  /-- No constant begins here. -/
  | noConstant
  /-- Neither a roll nor a constant begins here. -/
  | noTerm
  /-- Something stands where only a sign or a separator could follow. -/
  | noSeparator
  /-- The text holds nothing but blanks. -/
  | nothing
  /-- What was given is no text. -/
  | notText
  /-- The limit is no number, so nothing can be compared with it. -/
  | unordered
  /-- A die has more faces than there can be values for. -/
  | excess (e : DieSpec.Excess)
deriving DecidableEq

/-- Whether the fault is one of the notation, which its author is told of. -/
def Fault.isMistake : Fault → Bool
  | .unordered => false
  | .excess _ => false
  | _ => true

/-- The wording of a fault. -/
def Fault.reason : Fault → Text
  | .numberTooLarge => "Number is too large".toList
  | .selectorCount => "Selector count must be positive".toList
  | .noRoll => "Invalid dice roll".toList
  | .diceCount => "Dice quantity must be positive".toList
  | .tooManyDice limit => "Too many dice, the limit is ".toList ++ limit
  | .faceCount => "Dice faces must be positive".toList
  | .tooManyFaces limit => "Too many faces, the limit is ".toList ++ limit
  | .noConstant => "Invalid modifier".toList
  | .noTerm => "Expected a roll or a modifier".toList
  | .noSeparator => "Expected '+', '-' or ';'".toList
  | .nothing => "No dice notation detected".toList
  | .notText => "Notation must be a string".toList
  | .unordered => "The limit is not a number".toList
  | .excess .unstorable => "The values of the die cannot be stored".toList
  | .excess .uncountable => "The values of the die cannot be counted".toList

/-- A fault with its place: the line that the reader was given, a position in it
    and the text that is to blame. -/
structure Mistake where
  /-- What is wrong. -/
  fault : Fault
  /-- The line that the reader was given. -/
  line : Text
  /-- Where in the line the fault stands. -/
  position : Nat
  /-- The text that is to blame. -/
  substring : Text
deriving DecidableEq

namespace Mistake

/-- A fault of the whole line. -/
def whole (fault : Fault) (line : Text) : Mistake := ⟨fault, line, 0, line⟩

/-- The mistake of giving something else than a text, by its description. -/
def notText (description : Text) : Mistake := ⟨.notText, [], 0, description⟩

/-- The mistake moved to its place in a text of which its line is a suffix. -/
def within (text : Text) (m : Mistake) : Mistake :=
  { m with line := text, position := text.length - m.line.length + m.position }

/-- The wording of a mistake with a reason and a place. -/
def wording (reason position substring : Text) : Text :=
  reason ++ " at position ".toList ++ position ++ ": '".toList ++ substring ++ ['\'']

/-- The wording of a mistake. -/
def message (m : Mistake) : Text :=
  wording m.fault.reason (Text.ofInt m.position) m.substring

end Mistake

end DiceRoller
