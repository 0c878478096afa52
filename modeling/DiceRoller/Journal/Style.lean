import DiceRoller.Journal.Record
import DiceRoller.Text.Numeral

/-!
# Styles

How a record is written. A style is a text with fields: a percent sign, the name
of the field in parentheses, flags, a width, a precision behind a point, and a
letter, where all between the name and the letter may be left out. A text is cut
to the precision and then padded to the width, on its right when there is a minus
among the flags and on its left otherwise. The letter r asks for the text with its
quotes. Two percent signs stand for one.

A style is refused unless there is a field somewhere in its text, of whatever name
and with any letter for which there is a form. This is looked for in the text as
it stands, so two percent signs in front of a name in parentheses make up a style
that shows the name.

## Main definitions

* `Style.Field`: What a style can show of a record.
* `Style`: Fields between fixed texts.
* `Style.hasField`: Whether there is a field in a text.
* `Style.read?`: The style that a text describes.
* `Style.line`: A record in a style.
-/

namespace DiceRoller

namespace Style

/-- What a style can show of a record. -/
inductive Field where
  /-- The name of its level. -/
  | level
  /-- What it says. -/
  | message
  /-- The part of the program that sent it. -/
  | origin
  /-- The journal it was sent to. -/
  | journal
deriving DecidableEq

/-- The field with a name. -/
def Field.named? (t : Text) : Option Field :=
  match String.ofList t with
  | "levelname" => some .level
  | "message" => some .message
  | "relmod" => some .origin
  | "name" => some .journal
  | _ => none

/-- How a field is shown. -/
structure Form where
  /-- The least number of code points. -/
  width : Nat
  /-- Whether a short text is padded on its right. -/
  onRight : Bool
  /-- The greatest number of code points of the text, if there is one. -/
  most : Option Nat
  /-- Whether the text is quoted. -/
  isQuoted : Bool
deriving DecidableEq

/-- A part of a style. -/
inductive Piece where
  /-- A code point of a fixed text. -/
  | fixed (c : Char)
  /-- A field and how it is shown. -/
  | field (f : Field) (form : Form)
deriving DecidableEq

end Style

/-- Fields between fixed texts. -/
structure Style where
  /-- The parts in order. -/
  pieces : List Style.Piece
deriving DecidableEq

namespace Style

/-- Whether a code point is a flag of a field. -/
def isFlag (c : Char) : Bool := c == '#' || c == '0' || c == '+' || c == ' ' || c == '-'

/-- Whether a code point can stand in the name of a field. -/
def isNameChar (c : Char) : Bool := c.isAlphanum || c == '_'

/-- Whether there is a form for a letter. Capitals do not matter. -/
def isLetter (c : Char) : Bool := "diouxefgcrsa%".toList.contains c.toLower

/-- What follows a number, or a star in its place, at the front of a text. -/
def afterCount (t : Text) : Text :=
  match t with
  | '*' :: t => t
  | t => t.dropWhile Numeral.isDigit

/-- What follows a point and a number at the front of a text. Without a number the
    point stays. -/
def afterPrecision (t : Text) : Text :=
  match t with
  | '.' :: rest => if (afterCount rest).length < rest.length then afterCount rest else t
  | t => t

/-- Whether a field stands at the front of a text. -/
def isField (t : Text) : Bool :=
  match t with
  | '%' :: '(' :: t =>
    let behind := t.dropWhile isNameChar
    match behind with
    | ')' :: rest =>
      behind.length < t.length &&
        (afterPrecision (afterCount (rest.dropWhile isFlag))).head?.any isLetter
    | _ => false
  | _ => false

/-- Whether there is a field in a text. -/
def hasField : Text → Bool
  | [] => false
  | c :: t => isField (c :: t) || hasField t

/-- The form that is described in front of a letter, and what follows the letter. -/
def form? (t : Text) : Option (Form × Text) :=
  let flags := t.takeWhile isFlag
  let t := t.drop flags.length
  let width := t.takeWhile Numeral.isDigit
  let t := t.drop width.length
  let (most, t) := match t with
    | '.' :: t =>
      let digits := t.takeWhile Numeral.isDigit
      (some (Numeral.ofDigits digits), t.drop digits.length)
    | t => (none, t)
  let form (isQuoted : Bool) : Form :=
    ⟨Numeral.ofDigits width, flags.contains '-', most, isQuoted⟩
  match t with
  | 's' :: rest => some (form false, rest)
  | 'r' :: rest => some (form true, rest)
  | _ => none

/-- A field behind a percent sign, and how many code points it takes up. -/
def field? (t : Text) : Option (Piece × Nat) :=
  match t with
  | '(' :: rest =>
    let name := rest.takeWhile (· != ')')
    match Field.named? name, form? (rest.drop (name.length + 1)) with
    | some f, some (form, after) => some (.field f form, t.length - after.length)
    | _, _ => none
  | _ => none

/-- The parts that a text describes. Code points that were read as part of a
    field are still to be passed over. -/
def parts : Nat → Text → List Piece
  | _, [] => []
  | skip + 1, _ :: t => parts skip t
  | 0, '%' :: '%' :: t => .fixed '%' :: parts 1 ('%' :: t)
  | 0, '%' :: t =>
    match field? t with
    | some (piece, n) => piece :: parts n t
    | none => .fixed '%' :: parts 0 t
  | 0, c :: t => .fixed c :: parts 0 t

/-- The style that shows what a record says and nothing else. -/
def plain : Style := ⟨[.field .message ⟨0, false, none, false⟩]⟩

/-- The style that a text describes, if there is a field in it. -/
def read? (t : Text) : Option Style := if hasField t then some ⟨parts 0 t⟩ else none

/-- What a field shows of a record. -/
def shown (r : Record) : Field → Text
  | .level => r.level.name
  | .message => r.message
  | .origin => r.origin
  | .journal => r.journal

/-- A text in a form. -/
def Form.apply (form : Form) (t : Text) : Text :=
  let t := if form.isQuoted then t.quoted else t
  let t := form.most.elim t fun n => t.take n
  let blank := Text.spaces (form.width - t.length)
  if form.onRight then t ++ blank else blank ++ t

/-- A part of a style for a record. -/
def piece (r : Record) : Piece → Text
  | .fixed c => [c]
  | .field f form => form.apply (shown r f)

/-- A record in a style. -/
def line (s : Style) (r : Record) : Text := s.pieces.flatMap (piece r)

/-- The style of the program's own journal. -/
def standard : Style :=
  ⟨parts 0 "[%(levelname)-8s] %(relmod)s | %(message)s".toList⟩

theorem line_plain (r : Record) : plain.line r = r.message := by
  simp [line, plain, piece, Form.apply, shown, Text.spaces]

/-- A text that describes a style has a field in it. -/
theorem isSome_read?_iff (t : Text) : (read? t).isSome = true ↔ hasField t = true := by
  unfold read?
  split <;> simp_all

end Style

end DiceRoller
