import DiceRoller.Incident
import DiceRoller.Journal.Record

/-!
# Notices

The record of an incident: its kind and what it says, a rule, and the notation at
which it happened with its length. The level is the one that the incident asks
for. One that has no such level, or one that is none, is noted at the level that
was asked for instead, which has to be a level in any case.

## Main definitions

* `Level.ofWord?`: The level that a word asks for.
* `Notice.Fault`: Why there is no record.
* `Notice.body`: The text of the record.
* `Notice.level`: The level of the record.
* `Record.ofMistake`: The record of a notation that could not be read.
-/

namespace DiceRoller

/-- The level that a word asks for. An exception is noted as an error. -/
def Level.ofWord? (word : Text) : Option Level :=
  match String.ofList word with
  | "debug" => some .debug
  | "info" => some .info
  | "warning" => some .warning
  | "warn" => some .warning
  | "error" => some .error
  | "critical" => some .critical
  | "fatal" => some .critical
  | "exception" => some .error
  | _ => none

namespace Notice

/-- The rule below the head of a notice. -/
def rule : Text := List.replicate 20 '='

/-- Why there is no record. -/
inductive Fault where
  /-- The word asks for no level. -/
  | noLevel
  /-- A level is asked for by something that is no word. -/
  | noWord
  /-- The notation has no length. -/
  | noLength
  /-- A number in the notation has too many digits to be written. -/
  | unwritten
deriving DecidableEq

/-- What is noted about a notation, by its description and its length. -/
def about (described : Text) (length : Nat) : Text :=
  "Notation: ".toList ++ described ++ "\n    Length: ".toList ++ Text.ofNat length

/-- The text of the record of an incident, by the name of its kind, what it says
    and what is noted about the notation. -/
def body (name said noted : Text) : Text :=
  '\n' :: name ++ ": ".toList ++ said ++ '\n' :: rule ++ '\n' :: noted

/-- What is noted about a notation of any form, as long as it has a length. -/
def aboutValue (whole : Value) : Except Fault Text :=
  match whole.describe?, whole with
  | none, _ => .error .unwritten
  | some described, .text t => .ok (about described t.length)
  | some described, .list items => .ok (about described items.length)
  | some described, .dict entries => .ok (about described entries.length)
  | some _, _ => .error .noLength

/-- The level of the record of an incident, by the word that it asks for, if any,
    and the word to be used otherwise. -/
def level (asked : Option Value) (otherwise : Value) : Except Fault Level :=
  match otherwise with
  | .text word =>
    match Level.ofWord? word, asked with
    | none, _ => .error .noLevel
    | some fallback, none => .ok fallback
    | some fallback, some (.text word) => .ok ((Level.ofWord? word).getD fallback)
    | some _, some _ => .error .noWord
  | _ => .error .noWord

end Notice

namespace Record

/-- The record of a notation that could not be read. -/
def ofMistake (whole : Text) (m : Mistake) : Record :=
  { level := .info, journal := "dicenote.main".toList, origin := "dicenote/exc".toList,
    message :=
      Notice.body Incident.Kind.misreading.name m.message
        (Notice.about whole.quoted whole.length) }

end Record

end DiceRoller
