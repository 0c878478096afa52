import DiceRoller.Dice.RollSet

/-!
# Records

What the program notes about its own work. A record has a level, the name of the
journal it is sent to, the part of the program that sent it and a message. The
records about reading and rolling follow from the results alone, so they are
functions of the sets and nothing has to be threaded through reading or rolling.

## Main definitions

* `Level`: The weight of a record.
* `Record`: A note with its weight and where it comes from.
* `Record.ofReading`: The record of a text that was read.
* `Record.ofThrow`: The records of a set that was rolled, one for each roll.
-/

namespace DiceRoller

/-- The weight of a record. -/
inductive Level where
  /-- No weight at all. -/
  | unset
  /-- Details of the work. -/
  | debug
  /-- Ordinary news. -/
  | info
  /-- Something that may be wrong. -/
  | warning
  /-- Something that went wrong. -/
  | error
  /-- Something that ends the work. -/
  | critical
deriving DecidableEq

namespace Level

/-- The weights in figures, by which they are compared. -/
def weight : Level → Nat
  | .unset => 0
  | .debug => 10
  | .info => 20
  | .warning => 30
  | .error => 40
  | .critical => 50

/-- The name of a level. -/
def name : Level → Text
  | .unset => "NOTSET".toList
  | .debug => "DEBUG".toList
  | .info => "INFO".toList
  | .warning => "WARNING".toList
  | .error => "ERROR".toList
  | .critical => "CRITICAL".toList

/-- The level with a name. Two of them have another name besides. -/
def named? (t : Text) : Option Level :=
  match String.ofList t with
  | "NOTSET" => some .unset
  | "DEBUG" => some .debug
  | "INFO" => some .info
  | "WARNING" => some .warning
  | "WARN" => some .warning
  | "ERROR" => some .error
  | "CRITICAL" => some .critical
  | "FATAL" => some .critical
  | _ => none

end Level

/-- A note that the program makes about its work. -/
structure Record where
  /-- The weight. -/
  level : Level
  /-- The journal that the record is sent to. -/
  journal : Text
  /-- The part of the program that sent it. -/
  origin : Text
  /-- What it says. -/
  message : Text

namespace Record

/-- The record of a text that was read. -/
def ofReading (text : Text) (s : RollSet) : Record :=
  { level := .debug, journal := "dicenote.notation".toList, origin := "dicenote/notation".toList,
    message := "Parsed ".toList ++ text.quoted ++ " into ".toList ++
      Text.ofNat s.expressions.length ++ " expression(s): ".toList ++ s.render }

/-- The record of a roll whose dice were thrown. -/
def ofRoll (r : Roll) : Record :=
  { level := .debug, journal := "dicenote.dice".toList, origin := "dicenote/dice".toList,
    message := "Rolled ".toList ++ r.written ++ [':', ' '] ++ r.render ++ " = ".toList ++
      Text.ofInt r.total }

/-- The records of a set that was rolled, in the order of its rolls. -/
def ofThrow (s : RollSet) : List Record :=
  s.expressions.flatMap fun e => e.rolls.map ofRoll

end Record

end DiceRoller
