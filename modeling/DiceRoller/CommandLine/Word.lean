import DiceRoller.CommandLine.Switch

/-!
# Words

What each word of a command line is, decided from the word alone. A word that
does not begin with a dash is plain, and so is a dash alone, a negative number,
and an unknown option with a space in it. Long spellings may be cut short as long
as one option is meant. An argument is attached to any spelling by an equals
sign, and to a short one also directly.

The first word that is nothing but two dashes ends the options: every word after
it is plain.

## Main definitions

* `Word`: What a word is.
* `Word.ofText`: What a word is, as long as options are allowed.
* `Word.ofTexts`: What each word of a command line is.
-/

namespace DiceRoller

/-- What a word of a command line is. -/
inductive Word where
  /-- A word of the notation or an argument. -/
  | plain
  /-- The end of the options. -/
  | terminator
  /-- An option, whether its spelling is short, and what is attached to it. -/
  | known (switch : Switch) (isShort : Bool) (attached : Option Text)
  /-- An option that does not exist. -/
  | unknown
deriving DecidableEq

namespace Word

/-- The part of a word in front of its first equals sign, and the part behind it
    if there is one. -/
def halves (t : Text) : Text × Option Text :=
  match t.dropWhile (· != '=') with
  | [] => (t, none)
  | _ :: rest => (t.takeWhile (· != '='), some rest)

/-- Whether a word is a negative number: a minus and digits, with digits after a
    point if there is one. A line break may follow. -/
def isNegativeNumber (t : Text) : Bool :=
  let isDigits (u : Text) := !u.isEmpty && u.all fun c => (Numeral.digit? c).isSome
  match if t.getLast? == some '\n' then t.dropLast else t with
  | '-' :: number =>
    isDigits number ||
      match number.dropWhile (· != '.') with
      | '.' :: places =>
        isDigits places && (number.takeWhile (· != '.')).all fun c => (Numeral.digit? c).isSome
      | _ => false
  | _ => false

/-- The options that a word may stand for without being a full spelling: a long
    spelling cut short, or a short one with its argument. -/
def candidates (t : Text) : List (Text × Word) :=
  if Text.startsWith ['-', '-'] t then
    let (start, value) := halves t
    (Switch.beginning start).map fun e => (e.1, .known e.2 (Switch.isShort e.1) value)
  else
    match Switch.spelled? (t.take 2) with
    | some s => [(t.take 2, .known s true (some (t.drop 2)))]
    | none => []

/-- What a word is that stands for no option. -/
def leftOver (t : Text) : Word :=
  if isNegativeNumber t || t.contains ' ' then .plain else .unknown

/-- What a word is, as long as options are allowed. A word that may stand for
    several options is a failure, with the spellings it may stand for. -/
def ofText (t : Text) : Except (List Text) Word :=
  if t.head? != some '-' then .ok .plain
  else if t == ['-', '-'] then .ok .terminator
  else
    match Switch.spelled? t with
    | some s => .ok (.known s (Switch.isShort t) none)
    | none =>
      if t == ['-'] then .ok .plain
      else
        match halves t with
        | (start, some value) =>
          match Switch.spelled? start with
          | some s => .ok (.known s (Switch.isShort start) (some value))
          | none => choose t
        | (_, none) => choose t
where
  /-- What a word is that is no full spelling. -/
  choose (t : Text) : Except (List Text) Word :=
    match candidates t with
    | [] => .ok (leftOver t)
    | [(_, w)] => .ok w
    | several => .error (several.map (·.1))

/-- What each word of a command line is, together with the word. A failure holds
    the word that may stand for several options. -/
def ofTexts : List Text → Except (Text × List Text) (List (Text × Word))
  | [] => .ok []
  | t :: rest =>
    match ofText t with
    | .error spellings => .error (t, spellings)
    | .ok .terminator => .ok ((t, .terminator) :: rest.map fun u => (u, .plain))
    | .ok w => (ofTexts rest).map ((t, w) :: ·)

end Word

end DiceRoller
