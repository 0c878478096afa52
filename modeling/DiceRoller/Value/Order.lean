import DiceRoller.Text.Order
import DiceRoller.Value

/-!
# The order of values

Which values are alike, and which comes first. Truth values, whole numbers and
numbers with a fraction are compared by what they are worth, exactly. Texts are
compared by their code points, and lists by their first items that differ. Nothing
else has an order, and neither have values of different forms.

What is no number comes neither before nor after anything and equals nothing, not
even itself. As a part of something else it is still like itself, which is why
there are two kinds of equality.

## Main definitions

* `Value.Worth`: What a value is worth as a number.
* `Value.alike`: Whether two values can stand for each other as parts.
* `Value.same`: Whether two values are equal.
* `Value.isBelow?`: Whether a value comes before another, if they have an order.
* `Value.greatest?`, `Value.least?`: The last and the first of several values.
-/

namespace DiceRoller

namespace Value

/-- What a value is worth as a number. -/
inductive Worth where
  /-- A number. -/
  | exact (q : Rat)
  /-- More than every number, or less. -/
  | infinite (below : Bool)
  /-- Nothing that could be compared. -/
  | undefined

namespace Worth

/-- Whether one is less than the other. -/
def isBelow : Worth → Worth → Bool
  | .exact p, .exact q => p < q
  | .exact _, .infinite below => !below
  | .infinite below, .exact _ => below
  | .infinite below, .infinite below' => below && !below'
  | _, _ => false

/-- Whether both are the same. -/
def same : Worth → Worth → Bool
  | .exact p, .exact q => p == q
  | .infinite below, .infinite below' => below == below'
  | _, _ => false

end Worth

/-- What a value is worth as a number, if it can be. -/
def worth? : Value → Option Worth
  | .int n => some (.exact n)
  | .bool b => some (.exact (if b then 1 else 0))
  | .decimal written => some (.exact (number written))
  | .infinite below => some (.infinite below)
  | .undefined => some .undefined
  | _ => none

mutual

/-- Whether two values can stand for each other as parts of something. -/
def alike : Value → Value → Bool
  | .null, .null => true
  | .int m, .int n => m == n
  | .text t, .text u => t == u
  | .undefined, .undefined => true
  | .list items, .list others => areAlike items others
  | .dict entries, .dict others => entries.length == others.length && holdsAll others entries
  | v, w =>
    match worth? v, worth? w with
    | some a, some b => a.same b
    | _, _ => false

/-- Whether values can stand for each other one by one. -/
def areAlike : List Value → List Value → Bool
  | [], [] => true
  | v :: rest, w :: others => alike v w && areAlike rest others
  | _, _ => false

/-- Whether all entries are among others, whatever their order. -/
def holdsAll (others : List (Text × Value)) : List (Text × Value) → Bool
  | [] => true
  | (k, v) :: rest =>
    (match get? k others with
      | some w => alike v w
      | none => false) && holdsAll others rest

end

/-- Whether two values are equal. -/
def same : Value → Value → Bool
  | .undefined, _ => false
  | v, w => alike v w

mutual

/-- Whether a value comes before another; nothing if they have no order. -/
def isBelow? : Value → Value → Option Bool
  | .int m, .int n => some (m < n)
  | .text t, .text u => some (!Text.isUpTo u t)
  | .list items, .list others => areBelow? items others
  | v, w => do return (← worth? v).isBelow (← worth? w)

/-- Whether values come before others by the first two that are not alike, or by
    their number if there are none. -/
def areBelow? : List Value → List Value → Option Bool
  | [], others => some (!others.isEmpty)
  | _ :: _, [] => some false
  | v :: rest, w :: others => if alike v w then areBelow? rest others else isBelow? v w

end

/-- The last of several values by an order, the first of them if there are more;
    nothing if two that are compared have no order. -/
def extreme? (isBelow? : Value → Value → Option Bool) (best : Value) : List Value → Option Value
  | [] => some best
  | v :: rest => do
    if ← isBelow? best v then extreme? isBelow? v rest else extreme? isBelow? best rest

/-- The greatest of several values. -/
def greatest? : List Value → Option Value
  | [] => none
  | v :: rest => extreme? isBelow? v rest

/-- The least of several values. -/
def least? : List Value → Option Value
  | [] => none
  | v :: rest => extreme? (fun a b => isBelow? b a) v rest

end Value

end DiceRoller
