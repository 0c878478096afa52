import DiceRoller.Document.Literal
import DiceRoller.Value

/-!
# Documents

The text form of values, as files hold them: names and texts between double
quotes, lists between square brackets, mappings between curly ones, and plain
words for numbers, truth values and no value, with blanks anywhere between them.
A word that is none of these is a text.

Writing puts a value on a single line. Reading it back gives the value, but for a
few that have no form of their own: a number with an exponent and no point, or one
beyond all numbers, comes back as the text it is written with.

The depth to which values are nested is bounded by the length of the text, which
is what reading recurses on.

## Main definitions

* `Document.Fault`: Why a text is no document.
* `Document.write`: A value as a document.
* `Document.plain`: The value that a word stands for.
* `Document.value`: The value at the front of a text.
* `Document.read`: The value that a whole text describes.
-/

namespace DiceRoller

namespace Document

/-- Why a text is no document. -/
inductive Fault where
  /-- It holds a code point that no document can hold. -/
  | unprintable
  /-- Something that can stand nowhere follows the value. -/
  | stray
  /-- Its parts do not fit together. -/
  | malformed
deriving DecidableEq

mutual

/-- A value as a document. -/
def write : Value → Text
  | .null => "null".toList
  | .bool b => if b then "true".toList else "false".toList
  | .int n => Text.ofInt n
  | .decimal t => t
  | .infinite below => if below then "-Infinity".toList else "Infinity".toList
  | .undefined => "NaN".toList
  | .text t => Literal.write t
  | .list items => '[' :: (Text.join [',', ' '] (writeItems items) ++ [']'])
  | .dict entries => '\x7b' :: (Text.join [',', ' '] (writeEntries entries) ++ ['\x7d'])

/-- The items of a list, each as a document. -/
def writeItems : List Value → List Text
  | [] => []
  | v :: rest => write v :: writeItems rest

/-- The entries of a mapping, each with its name in front. -/
def writeEntries : List (Text × Value) → List Text
  | [] => []
  | (k, v) :: rest => (Literal.write k ++ [':', ' '] ++ write v) :: writeEntries rest

end

/-- What follows the blanks at the front. -/
def skip (t : Text) : Text := t.skipSpaces

/-- Whether a code point can stand in a number. -/
def isNumeric (c : Char) : Bool :=
  Numeral.isDigit c || c == '-' || c == '+' || c == '.' || c == 'e' || c == 'E'

/-- Whether a code point can stand in a word. -/
def isPlain (c : Char) : Bool := isNumeric c || c.isAlpha || c == '_'

/-- What a word of a number's code points stands for. An exponent belongs to a
    number only where there is a point before it; without one all of it is a text. -/
def number (w : Text) : Value :=
  if w.contains '.' then .decimal w
  else
    match Numeral.read? w with
    | some n => .int n
    | none => .text w

/-- The value that a word stands for. -/
def plain (w : Text) : Value :=
  match String.ofList w with
  | "true" => .bool true
  | "false" => .bool false
  | "null" => .null
  | _ => if w.all isNumeric then number w else .text w

/-- A mapping with one more entry, which takes the place of one with its name. -/
def put (name : Text) (v : Value) (entries : List (Text × Value)) : List (Text × Value) :=
  if entries.any fun e => e.1 == name then
    entries.map fun e => if e.1 == name then (name, v) else e
  else entries ++ [(name, v)]

mutual

/-- The value at the front of a text, nested at most `depth` deep, and what
    follows it. -/
def value : Nat → Text → Option (Value × Text)
  | 0, _ => none
  | depth + 1, t =>
    match skip t with
    | '"' :: rest => (Literal.read? rest).map fun p => (.text p.1.text, p.2)
    | '[' :: rest =>
      match skip rest with
      | ']' :: rest => some (.list [], rest)
      | rest => (items depth rest).map fun p => (.list p.1, p.2)
    | '\x7b' :: rest =>
      match skip rest with
      | '\x7d' :: rest => some (.dict [], rest)
      | rest => (entries depth [] rest).map fun p => (.dict p.1, p.2)
    | t =>
      let word := t.takeWhile isPlain
      if word.isEmpty then none else some (plain word, t.drop word.length)

/-- The items up to the closing bracket, and what follows it. -/
def items : Nat → Text → Option (List Value × Text)
  | 0, _ => none
  | depth + 1, t => do
    let (v, rest) ← value depth t
    match skip rest with
    | ',' :: rest => do
      let (vs, rest) ← items depth rest
      return (v :: vs, rest)
    | ']' :: rest => return ([v], rest)
    | _ => none

/-- The entries up to the closing bracket, and what follows it. -/
def entries : Nat → List (Text × Value) → Text → Option (List (Text × Value) × Text)
  | 0, _, _ => none
  | depth + 1, before, t => do
    let (name, rest) ← match skip t with
      | '"' :: rest => Literal.read? rest
      | _ => none
    if !name.isName then none
    else
      let (v, rest) ← match skip rest with
        | ':' :: rest => value depth rest
        | _ => none
      match skip rest with
      | ',' :: rest => entries depth (put name.text v before) rest
      | '\x7d' :: rest => return (put name.text v before, rest)
      | _ => none

end

/-- Whether no document can hold a code point: the ones that control a terminal,
    but for those that end a line, and two that are no characters. -/
def isBarred (c : Char) : Bool :=
  let n := c.toNat
  n < 0x20 && !(n == 0x09 || n == 0x0A || n == 0x0D) ||
    0x7F ≤ n && n < 0xA0 && n != 0x85 || n == 0xFFFE || n == 0xFFFF

/-- Whether a code point begins nothing that can follow a value. -/
def isStray (c : Char) : Bool := c == '%' || c == '@' || c.toNat == 0x60

/-- Whether a code point opens a value that has to be closed. -/
def isOpening (c : Char) : Bool := c == '"' || c == '[' || c == '\x7b'

/-- The value that a whole text describes. Every value takes up at least one code
    point, and every step from one to the next goes one level down. A text that
    opens nothing and is no single word stands for itself. -/
def read (t : Text) : Except Fault Value :=
  let opens := (skip t).head?.any isOpening
  if t.any isBarred then .error .unprintable
  else
    match value (t.length + 1) t with
    | none => if opens then .error .malformed else .ok (.text t)
    | some (v, rest) =>
      match skip rest with
      | [] => .ok v
      | c :: _ =>
        if !opens then .ok (.text t)
        else if isStray c then .error .stray
        else .error .malformed

/-- What a value is once it is written to a document and read again. -/
def filed (v : Value) : Except Fault Value := read (write v)

end Document

end DiceRoller
