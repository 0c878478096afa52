import DiceRoller.Number.Double
import DiceRoller.Text.Quoted

/-!
# Values

The values that a configuration or a table cell can hold, and the two texts that
each of them has: as it is shown alone, and as it is described inside another
value. They differ for texts only, which are quoted when described.

A number with a fraction is kept as it was written, since that is how it is shown.
What it is worth is the number in double precision that is nearest to it. Three
values are numbers only by name: the two that lie beyond all others, and the one
that is nowhere among them.

A whole number with too many digits has neither text, and then nothing that holds it
has one. `Value.describe` and `Value.shown` are the texts of values without such a
number; `Value.describe?` and `Value.write?` are what to write any value with.

## Main definitions

* `Value`: A value.
* `Value.describe`: The text of a value inside another one.
* `Value.shown`: The text of a value alone.
* `Value.isWritable`: Whether no number in a value has too many digits.
* `Value.describe?`, `Value.write?`: The texts of a value that can be written.
* `Value.number`: What a written number is worth.
* `Value.floor`, `Value.truncate`: The whole number below it, and its whole part.
* `Value.isVacant`: Whether a value counts as absent where a default exists.
* `Value.asNumber?`: The whole number that a value is.
* `Value.parts?`: What there is to go through in a value.
-/

namespace DiceRoller

/-- A value of a configuration or a table cell. -/
inductive Value where
  /-- No value. -/
  | null
  /-- A truth value. -/
  | bool (b : Bool)
  /-- A whole number. -/
  | int (n : Int)
  /-- A number with a fraction, as it is written. -/
  | decimal (written : Text)
  /-- What lies beyond all numbers, above or below them. -/
  | infinite (below : Bool)
  /-- What is no number, though it stands for one. -/
  | undefined
  /-- A text. -/
  | text (t : Text)
  /-- Values in order. -/
  | list (items : List Value)
  /-- Values with keys, in order. -/
  | dict (entries : List (Text × Value))

namespace Value

mutual

/-- The text of a value inside another one. -/
def describe : Value → Text
  | .null => "None".toList
  | .bool b => if b then "True".toList else "False".toList
  | .int n => Text.ofInt n
  | .decimal written => written
  | .infinite below => if below then "-inf".toList else "inf".toList
  | .undefined => "nan".toList
  | .text t => t.quoted
  | .list items => '[' :: Text.join [',', ' '] (describeItems items) ++ [']']
  | .dict entries => '\x7b' :: Text.join [',', ' '] (describeEntries entries) ++ ['\x7d']

/-- The texts of the values of a list. -/
def describeItems : List Value → List Text
  | [] => []
  | v :: rest => describe v :: describeItems rest

/-- The texts of keys with their values. -/
def describeEntries : List (Text × Value) → List Text
  | [] => []
  | (k, v) :: rest => (k.quoted ++ [':', ' '] ++ describe v) :: describeEntries rest

end

/-- The text of a value alone. -/
def shown : Value → Text
  | .text t => t
  | v => v.describe

mutual

/-- Whether a value can be written: no whole number in it has too many digits. -/
def isWritable : Value → Bool
  | .int n => (Numeral.write? n).isSome
  | .list items => areWritable items
  | .dict entries => entriesAreWritable entries
  | _ => true

/-- Whether all values of a list can be written. -/
def areWritable : List Value → Bool
  | [] => true
  | v :: rest => isWritable v && areWritable rest

/-- Whether the values of all keys can be written. -/
def entriesAreWritable : List (Text × Value) → Bool
  | [] => true
  | (_, v) :: rest => isWritable v && entriesAreWritable rest

end

/-- The text of a value inside another one, or nothing if a number in it has too many
    digits. -/
def describe? (v : Value) : Option Text := if v.isWritable then some v.describe else none

/-- The text of a value alone, or nothing if a number in it has too many digits. -/
def write? (v : Value) : Option Text := if v.isWritable then some v.shown else none

/-- A written number with a fraction as a whole number and a power of ten that
    it is to be multiplied with. -/
def decimalParts (written : Text) : Int × Int :=
  let mantissa := written.takeWhile fun c => c != 'e' && c != 'E'
  let exponent := (Numeral.read? (written.drop (mantissa.length + 1))).getD 0
  let whole := mantissa.filter Numeral.isDigit
  let places := ((mantissa.dropWhile (· != '.')).drop 1).length
  let n : Int := Numeral.ofDigits whole
  (if mantissa.head? = some '-' then -n else n, exponent - places)

/-- A power of ten. -/
def tenTo (e : Nat) : Nat := Nat.pow 10 e

/-- What a written number is worth in double precision. -/
def number (written : Text) : Rat :=
  let (m, e) := decimalParts written
  Double.nearest (if 0 ≤ e then m * (tenTo e.toNat : Nat) else m / (tenTo (-e).toNat : Nat))

/-- The greatest whole number that a written number reaches. -/
def floor (written : Text) : Int := (number written).floor

/-- The whole part of a written number, without its fraction. -/
def truncate (written : Text) : Int :=
  let q := number written
  if q < 0 then -(-q).floor else q.floor

/-- Whether the value counts as absent where there is a default: nothing, false,
    zero, or something empty. -/
def isVacant : Value → Bool
  | .null => true
  | .bool b => !b
  | .int n => n == 0
  | .decimal written => (decimalParts written).1 == 0
  | .infinite _ => false
  | .undefined => false
  | .text t => t.isEmpty
  | .list items => items.isEmpty
  | .dict entries => entries.isEmpty

/-- The whole number that a value is. Truth values count as numbers. -/
def asNumber? : Value → Option Int
  | .int n => some n
  | .bool b => some (if b then 1 else 0)
  | _ => none

/-- Whether the value can be looked up: what holds other values cannot. -/
def isKey : Value → Bool
  | .list _ => false
  | .dict _ => false
  | _ => true

/-- What there is to go through in a value: the items of a list, the code points
    of a text, the keys of a mapping. -/
def parts? : Value → Option (List Value)
  | .list items => some items
  | .text t => some (t.map fun c => .text [c])
  | .dict entries => some (entries.map fun e => .text e.1)
  | _ => none

/-- The value under a key of a mapping. -/
def get? (key : Text) (entries : List (Text × Value)) : Option Value :=
  (entries.find? fun e => e.1 == key).map (·.2)

end Value

end DiceRoller
