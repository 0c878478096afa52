import DiceRoller.Grammar.Mistake
import DiceRoller.Settings

/-!
# Incidents

What can go wrong in the program as a whole, sorted into kinds. Each kind is a
case of a more general one, up to the most general kind of all, and has a level
at which incidents of it are noted unless the incident says otherwise. What the
user did is ordinary news; what the program did wrong is not.

A misreading is the incident of a notation that could not be read. It holds the
whole notation, the position of the fault and the text to blame, which is the
rest of the notation unless it is given. Whoever reports an incident by hand may
give any values for these, as long as the rest can be taken where it is needed. What they
say is nothing if a number in it has too many digits.

## Main definitions

* `Incident.Kind`: The kinds of incidents.
* `Incident.Kind.lineage`: A kind and what it is a case of, nearest first.
* `Misreading`: A notation that could not be read.
* `Incident`: An incident of some kind.
* `Incident.message?`, `Incident.level`: What it says, and how it is noted.
-/

namespace DiceRoller

namespace Incident

/-- The kinds of incidents. -/
inductive Kind where
  /-- Any incident. -/
  | general
  /-- Something the user did. -/
  | user
  /-- A command line that cannot be read. -/
  | usage
  /-- A request for help. -/
  | help
  /-- A notation that cannot be read. -/
  | misreading
  /-- Something the program did wrong. -/
  | internal
  /-- A text in the place of a sign. -/
  | unknownSign
deriving DecidableEq

namespace Kind

/-- The name of a kind. -/
def name : Kind → Text
  | .general => "DiceException".toList
  | .user => "UserException".toList
  | .usage => "ArgumentParseError".toList
  | .help => "ArgumentHelpError".toList
  | .misreading => "ParseError".toList
  | .internal => "InternalException".toList
  | .unknownSign => "InvalidOperator".toList

/-- A kind and the kinds that it is a case of, nearest first. -/
def lineage : Kind → List Kind
  | .general => [.general]
  | .user => [.user, .general]
  | .usage => [.usage, .user, .general]
  | .help => [.help, .user, .general]
  | .misreading => [.misreading, .user, .general]
  | .internal => [.internal, .general]
  | .unknownSign => [.unknownSign, .internal, .general]

/-- Whether incidents of this kind are the program's own fault. -/
def isInternal (k : Kind) : Bool := k.lineage.contains .internal

/-- The level at which incidents of this kind are noted. -/
def level (k : Kind) : Text :=
  if k.isInternal then "exception".toList else "info".toList

/-- Every kind. -/
def all : List Kind := [.general, .user, .usage, .help, .misreading, .internal, .unknownSign]

/-- The kind with a name. -/
def ofName? (t : Text) : Option Kind := all.find? fun k => k.name == t

theorem ofName?_name (k : Kind) : ofName? k.name = some k := by
  cases k <;> decide

end Kind

end Incident

/-- The end of a value from a position on. Only a text or a list has one, and the
    position is a number, or nothing for the whole. -/
def Value.fromPosition? (v position : Value) : Option Value :=
  let taken {α : Type} (items : List α) : Option (List α) :=
    match position with
    | .null => some items
    | p => p.asNumber?.map fun n =>
      if n < 0 then items.drop (items.length - n.natAbs) else items.drop n.toNat
  match v with
  | .text t => (taken t).map .text
  | .list vs => (taken vs).map .list
  | _ => none

/-- A notation that could not be read. -/
structure Misreading where
  /-- What is wrong. -/
  reason : Value
  /-- The whole notation. -/
  whole : Value
  /-- Where in the notation the fault stands. -/
  position : Value
  /-- The text that is to blame. -/
  substring : Value

namespace Misreading

/-- The misreading of a notation at a position. Without a text to blame it is
    the rest of the notation from there, if that can be taken. -/
def inText? (reason whole position blamed : Value) : Option Misreading :=
  match blamed with
  | .null => (whole.fromPosition? position).map fun rest => ⟨reason, whole, position, rest⟩
  | blamed => some ⟨reason, whole, position, blamed⟩

/-- The misreading that a mistake amounts to. -/
def ofMistake (m : Mistake) : Misreading :=
  ⟨.text m.fault.reason, .text m.line, .int m.position, .text m.substring⟩

/-- The wording of a misreading. -/
def message? (m : Misreading) : Option Text := do
  return Mistake.wording (← m.reason.write?) (← m.position.write?) (← m.substring.write?)

theorem message?_ofMistake {m : Mistake} (h : (Numeral.write? m.position).isSome) :
    (ofMistake m).message? = some m.message := by
  simp only [message?, ofMistake, Value.write?, Value.isWritable, h, if_true]
  rfl

end Misreading

/-- An incident, with the level that it asks to be noted at. -/
inductive Incident where
  /-- An incident of a kind, with what it says. -/
  | plain (kind : Incident.Kind) (said level : Value)
  /-- A notation that could not be read. -/
  | misread (m : Misreading)

namespace Incident

/-- The kind of an incident. -/
def kind : Incident → Kind
  | .plain k _ _ => k
  | .misread _ => .misreading

/-- What an incident says. -/
def message? : Incident → Option Text
  | .plain _ said _ => said.write?
  | .misread m => m.message?

/-- The level that an incident asks to be noted at. -/
def level : Incident → Value
  | .plain _ _ l => l
  | .misread _ => .text Kind.misreading.level

/-- An incident of a kind that says something. Incidents that are the program's
    own fault have to say something. -/
def make? (kind : Kind) (said level : Option Value) : Option Incident :=
  if kind.isInternal && said.isNone then none
  else some (.plain kind (said.getD .null) (level.getD (.text kind.level)))

end Incident

end DiceRoller
