import DiceRoller.Grammar.Reader

/-!
# Written forms

The grammar of notations, said without a reader. A form is a notation taken apart:
every run of digits as it is written, every sign and every separator with the
blanks around it. The text of a form is its parts one after the other, and what it
means is read off the parts, so neither needs to know how a text is searched for
them.

A form cannot be built wrong. A run of digits is never empty and never too long for
a number, quantities and numbers of faces are within the bounds that the form is
made for, a die has no more faces than there can be values for, and selectors select
something. What remains to be said about reading is
then only that a text is read exactly if some form has it.

Blanks are part of a form, and one of them may have two places: an ASCII blank in
front of a leading sign can be counted to the sign or to what stands before the
expression. `NotationForm.parts` forgets the blanks, and forms are compared by it.

## Main definitions

* `DigitRun`, `SpaceRun`, `BlankRun`: Runs of digits, of ASCII blanks, of blanks.
* `SelectorForm`, `FacesForm`, `RollForm`, `TermForm`: The parts of a term.
* `SignForm`, `ExpressionForm`: Signed terms.
* `SeparatorForm`, `EndForm`, `NotationForm`: A whole notation.
* `NotationForm.text`: The text of a form.
* `NotationForm.expressions`: What a form means.
* `NotationForm.parts`: A form without its blanks.
-/

namespace DiceRoller

/-- A run of ASCII digits that is a number: there is a digit, and there are not too
    many of them. -/
@[ext]
structure DigitRun where
  digits : Text
  ne_nil : digits ≠ []
  isDigit : ∀ c ∈ digits, Numeral.isDigit c = true
  length_le : digits.length ≤ Numeral.maxDigits

/-- The number that a run of digits denotes. -/
def DigitRun.value (r : DigitRun) : Nat := Numeral.ofDigits r.digits

/-- A run of ASCII blanks, perhaps an empty one. -/
structure SpaceRun where
  text : Text
  isSpace : ∀ c ∈ text, Text.isSpace c = true

/-- A run of blanks of any kind, perhaps an empty one. -/
structure BlankRun where
  text : Text
  isBlank : ∀ c ∈ text, Text.isBlank c = true

/-- A selector: its two letters and its number, which is at least one. -/
@[ext]
structure SelectorForm where
  keep : Bool
  high : Bool
  count : DigitRun
  one_le : 1 ≤ count.value

namespace SelectorForm

/-- The selector as it is written. -/
def text (f : SelectorForm) : Text :=
  (if f.keep then 'k' else 'd') :: (if f.high then 'h' else 'l') :: f.count.digits

/-- The selector that is meant. -/
def value (f : SelectorForm) : Selector := ⟨f.keep, f.high, f.count.value⟩

end SelectorForm

/-- The faces of a roll: a number within the bound and with a value for each face, or
    the letter of a Fate die. -/
inductive FacesForm (maxFaces : Nat) where
  | numbered (count : DigitRun) (one_le : 1 ≤ count.value) (le_max : count.value ≤ maxFaces)
      (few : count.value < DieSpec.mostFaces)
  | fate

namespace FacesForm

variable {maxFaces : Nat}

/-- The faces as they are written. -/
def text : FacesForm maxFaces → Text
  | numbered count _ _ _ => count.digits
  | fate => ['F']

/-- The kind of die that is meant. -/
def value : FacesForm maxFaces → DieSpec
  | numbered count _ _ _ => .plain count.value
  | fate => .fateDie

end FacesForm

/-- A roll: a quantity within the bound, faces, and selectors. -/
structure RollForm (maxDice maxFaces : Nat) where
  quantity : DigitRun
  one_le : 1 ≤ quantity.value
  le_max : quantity.value ≤ maxDice
  faces : FacesForm maxFaces
  selectors : List SelectorForm

namespace RollForm

variable {maxDice maxFaces : Nat}

/-- The roll as it is written. -/
def text (f : RollForm maxDice maxFaces) : Text :=
  f.quantity.digits ++ 'd' :: (f.faces.text ++ f.selectors.flatMap SelectorForm.text)

/-- The roll that is meant, its dice not thrown yet. -/
def value (f : RollForm maxDice maxFaces) : Roll :=
  .fresh f.quantity.value f.faces.value (f.selectors.map SelectorForm.value)

end RollForm

/-- A term: a roll, or a run of digits alone. -/
inductive TermForm (maxDice maxFaces : Nat) where
  | roll (r : RollForm maxDice maxFaces)
  | constant (n : DigitRun)

namespace TermForm

variable {maxDice maxFaces : Nat}

/-- The term as it is written. -/
def text : TermForm maxDice maxFaces → Text
  | roll r => r.text
  | constant n => n.digits

/-- The term that is meant. -/
def value : TermForm maxDice maxFaces → Term
  | roll r => .roll r.value
  | constant n => .constant n.value

end TermForm

/-- A sign with the ASCII blanks around it. -/
structure SignForm where
  before : SpaceRun
  negative : Bool
  after : SpaceRun

namespace SignForm

/-- The sign as it is written. -/
def text (f : SignForm) : Text :=
  f.before.text ++ (if f.negative then '-' else '+') :: f.after.text

/-- The sign that is meant. -/
def value (f : SignForm) : Sign := if f.negative then .minus else .plus

end SignForm

/-- An expression: terms with signs between them, and perhaps one more in front. -/
structure ExpressionForm (maxDice maxFaces : Nat) where
  leading : Option SignForm
  first : TermForm maxDice maxFaces
  more : List (SignForm × TermForm maxDice maxFaces)

namespace ExpressionForm

variable {maxDice maxFaces : Nat}

/-- Terms behind their signs as they are written. -/
def moreText (more : List (SignForm × TermForm maxDice maxFaces)) : Text :=
  more.flatMap fun p => p.1.text ++ p.2.text

/-- The expression as it is written. -/
def text (f : ExpressionForm maxDice maxFaces) : Text :=
  f.leading.elim [] SignForm.text ++ (f.first.text ++ moreText f.more)

/-- Terms with their signs as they are meant. -/
def moreValue (more : List (SignForm × TermForm maxDice maxFaces)) : List (Sign × Term) :=
  more.map fun p => (p.1.value, p.2.value)

/-- The expression that is meant. Without a sign in front the first term is
    added. -/
def value (f : ExpressionForm maxDice maxFaces) : Expression :=
  ⟨(f.leading.elim .plus SignForm.value, f.first.value) :: moreValue f.more⟩

/-- The expression without its blanks: for each term whether a minus stands in
    front of it, if a sign does, and the term as it is written. -/
def parts (f : ExpressionForm maxDice maxFaces) :
    List (Option Bool × TermForm maxDice maxFaces) :=
  (f.leading.map SignForm.negative, f.first) ::
    f.more.map fun p => (some p.1.negative, p.2)

end ExpressionForm

/-- A separator with the ASCII blanks around it. -/
structure SeparatorForm where
  before : SpaceRun
  after : SpaceRun

/-- The separator as it is written. -/
def SeparatorForm.text (f : SeparatorForm) : Text := f.before.text ++ ';' :: f.after.text

/-- What follows the last expression: blanks of any kind, or one more separator. -/
inductive EndForm where
  | blanks (b : BlankRun)
  | separator (s : SeparatorForm)

/-- The end as it is written. -/
def EndForm.text : EndForm → Text
  | blanks b => b.text
  | separator s => s.text

/-- A notation: blanks of any kind, expressions with separators between them, and
    what follows the last one. -/
structure NotationForm (maxDice maxFaces : Nat) where
  margin : BlankRun
  first : ExpressionForm maxDice maxFaces
  more : List (SeparatorForm × ExpressionForm maxDice maxFaces)
  ending : EndForm

namespace NotationForm

variable {maxDice maxFaces : Nat}

/-- Expressions behind their separators, and the end, as they are written. -/
def moreText (more : List (SeparatorForm × ExpressionForm maxDice maxFaces))
    (ending : EndForm) : Text :=
  (more.flatMap fun p => p.1.text ++ p.2.text) ++ ending.text

/-- The notation as it is written. -/
def text (f : NotationForm maxDice maxFaces) : Text :=
  f.margin.text ++ (f.first.text ++ moreText f.more f.ending)

/-- The expressions of the notation, in the order written. -/
def forms (f : NotationForm maxDice maxFaces) : List (ExpressionForm maxDice maxFaces) :=
  f.first :: f.more.map Prod.snd

/-- The expressions that are meant. -/
def expressions (f : NotationForm maxDice maxFaces) : List Expression :=
  f.forms.map ExpressionForm.value

/-- The notation without its blanks, expression by expression. -/
def parts (f : NotationForm maxDice maxFaces) :
    List (List (Option Bool × TermForm maxDice maxFaces)) :=
  f.forms.map ExpressionForm.parts

end NotationForm

namespace Limits

/-- The ceilings at two whole numbers. -/
def upTo (maxDice maxFaces : Nat) : Limits := ⟨.ofInt maxDice, .ofInt maxFaces⟩

end Limits

end DiceRoller
