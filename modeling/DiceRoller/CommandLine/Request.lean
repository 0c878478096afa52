import DiceRoller.CommandLine.Manual
import DiceRoller.CommandLine.Word
import DiceRoller.Text.Quoted

/-!
# Requests

What a command line asks for. Its words are taken from left to right and the
first that is wrong decides. The notation is the first unbroken run of plain
words; plain words after an option that follows it are left over, like options
that do not exist. What is left over is reported only after everything else, and
only if there is a notation.

The page of the manual can be asked for at any place. It is shown as soon as its
option is reached, unless something before it is wrong.

A short option that takes no argument may be followed by the letters of others in
the same word, of which the last may have an argument. Nothing in such a word is
done before all of it is understood and the argument is found.

Two dashes end the options even where they are attached to an option as its
argument: they are taken away like everywhere else, and the option is left with
nothing, which is neither a value of its own nor the same as leaving it out.

## Main definitions

* `Count.read`: How often to roll.
* `Usage`: Why a command line asks for no throw.
* `Usage.message`: The wording of a wrong command line.
* `Given`: An argument of an option.
* `Request`: What a command line asks for.
* `Request.read`: The request of the words of a command line.
-/

namespace DiceRoller

namespace Count

/-- Why a word does not say how often to roll. -/
inductive Fault where
  /-- The word, given by its description, is no number. -/
  | notNumber (described : Text)
  /-- The number is below one. -/
  | tooSmall (n : Int)
deriving DecidableEq

/-- The wording of a fault. -/
def Fault.message : Fault → Text
  | .notNumber described => "invalid integer: ".toList ++ described
  | .tooSmall n => "must be at least 1, got ".toList ++ Text.ofInt n

/-- A number as a number of rolls, which is at least one. -/
def ofInt (n : Int) : Except Fault Nat := if n < 1 then .error (.tooSmall n) else .ok n.toNat

/-- The number of rolls that a word asks for. -/
def read (word : Text) : Except Fault Nat :=
  match Numeral.read? word with
  | none => .error (.notNumber word.quoted)
  | some n => ofInt n

theorem one_le_of_ofInt {k : Int} {n : Nat} (h : ofInt k = .ok n) : 1 ≤ n := by
  unfold ofInt at h
  split at h
  · cases h
  · injection h with h
    omega

theorem one_le_of_read {word : Text} {n : Nat} (h : read word = .ok n) : 1 ≤ n := by
  unfold read at h
  split at h
  · cases h
  · exact one_le_of_ofInt h

end Count

/-- Why a command line asks for no throw. -/
inductive Usage where
  /-- The page of the manual is asked for. -/
  | help
  /-- A word may stand for several options. -/
  | ambiguous (word : Text) (spellings : List Text)
  /-- An option has an argument but takes none. -/
  | ignored (switch : Switch) (argument : Text)
  /-- An option takes an argument but has none. -/
  | missing (switch : Switch)
  /-- The number of rolls is wrong. -/
  | count (fault : Count.Fault)
  /-- The seed is no number. -/
  | seed (word : Text)
  /-- There is no notation. -/
  | noWords
  /-- Some words have no meaning. -/
  | leftOver (words : List Text)
deriving DecidableEq

namespace Usage

/-- A complaint about an option. -/
def about (s : Switch) (complaint : Text) : Text :=
  "argument ".toList ++ s.title ++ ": ".toList ++ complaint

/-- The wording of a wrong command line; for help, the page of the manual. -/
def message : Usage → Text
  | .help => Manual.page
  | .ambiguous word spellings =>
    "ambiguous option: ".toList ++ word ++ " could match ".toList ++ Text.join [',', ' '] spellings
  | .ignored s argument => about s ("ignored explicit argument ".toList ++ argument.quoted)
  | .missing s => about s "expected one argument".toList
  | .count f => about .repeat f.message
  | .seed word => about .seed ("invalid int value: ".toList ++ word.quoted)
  | .noWords => "the following arguments are required: notation".toList
  | .leftOver words => "unrecognized arguments: ".toList ++ Text.join [' '] words

end Usage

/-- An argument of an option. -/
inductive Given (α : Type) where
  /-- A value. -/
  | value (a : α)
  /-- Nothing, where two dashes stand in its place. -/
  | nothing
deriving DecidableEq

/-- The argument that a text is, with a reading of its values. -/
def Given.read {α ε : Type} (reading : Text → Except ε α) (t : Text) : Except ε (Given α) :=
  if t == ['-', '-'] then .ok .nothing else (reading t).map .value

/-- What a command line asks for. -/
structure Request where
  /-- The words of the notation. -/
  words : List Text
  /-- How often to roll. -/
  count : Given Nat := .value 1
  /-- The seed to start from. -/
  seed : Option (Given Int) := none
  /-- The file with the settings. -/
  config : Option (Given Text) := none
  /-- Whether to keep a journal. -/
  log : Bool := true

namespace Request

/-- How far the notation has been read. -/
inductive Progress where
  /-- No word of it has been found. -/
  | awaited
  /-- The next plain words belong to it. -/
  | growing
  /-- An option has followed it. -/
  | closed
deriving DecidableEq

/-- A request while its words are taken, with the words left over so far. -/
structure Draft where
  /-- The request so far. -/
  request : Request
  /-- How far the notation has been read. -/
  progress : Progress
  /-- The words left over, in order. -/
  leftOver : List Text

namespace Draft

/-- The request of an empty command line. -/
def start : Draft := ⟨{ words := [] }, .awaited, []⟩

/-- A word with no meaning. -/
def leave (d : Draft) (t : Text) : Draft := { d with leftOver := d.leftOver ++ [t] }

/-- A plain word, which belongs to the notation if that is not closed. -/
def plain (d : Draft) (t : Text) : Draft :=
  if d.progress = .closed then d.leave t
  else
    { d with
      request := { d.request with words := d.request.words ++ [t] }
      progress := .growing }

/-- The end of the options. It is left over only if no notation can follow. -/
def terminator (d : Draft) (t : Text) : Draft :=
  if d.progress = .closed then d.leave t else d

/-- An option, which closes the notation if there is one. -/
def option (d : Draft) : Draft :=
  { d with progress := if d.progress = .awaited then .awaited else .closed }

/-- The seed that a word is. -/
def seedOf (t : Text) : Except Usage Int :=
  match Numeral.read? t with
  | some n => .ok n
  | none => .error (.seed t)

/-- An argument given to an option. -/
def give (d : Draft) (s : Switch) (t : Text) : Except Usage Draft :=
  match s with
  | .repeat => do
    let n ← Given.read (fun t => (Count.read t).mapError .count) t
    return { d with request := { d.request with count := n } }
  | .seed => do
    let n ← Given.read seedOf t
    return { d with request := { d.request with seed := some n } }
  | .config => do
    let path ← Given.read .ok t
    return { d with request := { d.request with config := some path } }
  | .help => .error .help
  | .noLog => .ok { d with request := { d.request with log := false } }

/-- Options without arguments taken one after another. -/
def raise (d : Draft) : List Switch → Except Usage Draft
  | [] => .ok d
  | s :: rest => do (← d.give s []).raise rest

/-- The finished request. -/
def finish (d : Draft) : Except Usage Request :=
  if d.progress = .awaited then .error .noWords
  else if d.leftOver = [] then .ok d.request
  else .error (.leftOver d.leftOver)

end Draft

/-- The options in a word that begins with a short one: those without arguments,
    and the last one with what is attached to it. An option that takes an argument
    takes all of the text behind it; behind any other one the letter of another
    has to stand. -/
def unbundle (s : Switch) : Text → Except Usage (List Switch × Switch × Option Text)
  | [] => if s.takesArgument then .ok ([], s, some []) else .error (.ignored s [])
  | c :: t =>
    if s.takesArgument then .ok ([], s, some (c :: t))
    else
      match Switch.spelled? ['-', c] with
      | none => .error (.ignored s (c :: t))
      | some next =>
        if t.isEmpty then .ok ([s], next, none)
        else (unbundle next t).map fun (flags, rest) => (s :: flags, rest)

/-- The options in a word: those without arguments, and the last one with what is
    attached to it. A long option stands alone. -/
def options (s : Switch) (isShort : Bool) :
    Option Text → Except Usage (List Switch × Switch × Option Text)
  | none => .ok ([], s, none)
  | some a =>
    if isShort then unbundle s a
    else if s.takesArgument then .ok ([], s, some a)
    else .error (.ignored s a)

/-- The words of a command line taken from left to right. -/
def take (d : Draft) : List (Text × Word) → Except Usage Draft
  | [] => .ok d
  | (t, .plain) :: rest => take (d.plain t) rest
  | (t, .terminator) :: rest => take (d.terminator t) rest
  | (t, .unknown) :: rest => take (d.option.leave t) rest
  | (_, .known s isShort attached) :: rest =>
    match options s isShort attached with
    | .error u => .error u
    | .ok (flags, last, some a) => do
      take (← (← d.option.raise flags).give last a) rest
    | .ok (flags, last, none) =>
      if last.takesArgument then
        match rest with
        | (t, .plain) :: rest => do take (← (← d.option.raise flags).give last t) rest
        | _ => .error (.missing last)
      else do take (← d.option.raise (flags ++ [last])) rest

/-- The request of the words of a command line. -/
def read (words : List Text) : Except Usage Request :=
  match Word.ofTexts words with
  | .error (word, spellings) => .error (.ambiguous word spellings)
  | .ok ws => do (← take .start ws).finish

end Request

end DiceRoller
