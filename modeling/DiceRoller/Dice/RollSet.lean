import DiceRoller.Dice.Roll
import DiceRoller.Dice.Signed

/-!
# Roll sets

What a notation describes: expressions, each a signed sequence of rolls and
constants. The expressions of a set are rolled together but totalled apart. A set
also holds the text that it was read from, which is no part of its meaning: sets
are equal when their expressions are.

Rolling walks a set from left to right and throws every die once, so the draws of
a stream are handed out in the order in which the dice stand in the text.

## Main definitions

* `Term`: A roll or a constant.
* `Expression`: Signed terms.
* `RollSet`: Expressions and the text that they were read from.
* `RollSet.render`: The set as it is displayed.
* `RollSet.totals`: The total of each expression.
* `RollSet.throw`: The set with every die thrown.
* `RollSet.same`: Equality of sets, whatever their dice show.
-/

namespace DiceRoller

/-- A part of an expression: a roll, or a constant. -/
inductive Term where
  /-- A roll of dice. -/
  | roll (r : Roll)
  /-- A number that is always the same. -/
  | constant (n : Int)
deriving DecidableEq

namespace Term

/-- The term as it is displayed. -/
def render : Term → Text
  | .roll r => r.render
  | .constant n => Text.ofInt n

/-- What the term is worth. -/
def total : Term → Int
  | .roll r => r.total
  | .constant n => n

/-- The roll, if the term is one. -/
def roll? : Term → Option Roll
  | .roll r => some r
  | .constant _ => none

/-- All dice of the term show their greatest value; a constant has no dice to
    miss it. -/
def isGreatest : Term → Bool
  | .roll r => r.isGreatest
  | .constant _ => true

/-- All dice of the term show their least value. -/
def isLeast : Term → Bool
  | .roll r => r.isLeast
  | .constant _ => true

/-- Terms are equal when they are equal rolls or the same constant. -/
def same : Term → Term → Bool
  | .roll a, .roll b => a.same b
  | .constant m, .constant n => m == n
  | _, _ => false

/-- The term with its dice thrown. -/
def throw : Term → Draws → Term × Draws
  | .roll r, draws =>
    let (r, draws) := r.throw draws
    (.roll r, draws)
  | .constant n, draws => (.constant n, draws)

/-- A constant described, by its numeral. -/
def describeConstant (shown : Text) : Text := "Modifier(value=".toList ++ shown ++ [')']

/-- The term described with all that tells it from another. -/
def describe : Term → Text
  | .roll r => r.describe
  | .constant n => describeConstant (Text.ofInt n)

end Term

/-- Terms joined by signs. -/
structure Expression where
  /-- The terms with their signs, in order. -/
  terms : List (Sign × Term) := []
deriving DecidableEq

namespace Expression

/-- The rolls among the terms, in order. -/
def rolls (e : Expression) : List Roll := e.terms.filterMap fun p => p.2.roll?

/-- The expression as it is displayed. -/
def render (e : Expression) : Text := Signed.render (e.terms.map fun p => (p.1, p.2.render))

/-- The signed sum of the terms; a text in the place of a sign is the error. -/
def total (e : Expression) : Except Text Int :=
  Signed.total id (e.terms.map fun p => (p.1, .ok p.2.total))

/-- All dice of the expression show their greatest value. -/
def isGreatest (e : Expression) : Bool := e.terms.all fun p => p.2.isGreatest

/-- All dice of the expression show their least value. -/
def isLeast (e : Expression) : Bool := e.terms.all fun p => p.2.isLeast

/-- Equality term by term. -/
def sameTerms : List (Sign × Term) → List (Sign × Term) → Bool
  | [], [] => true
  | (s, a) :: as, (t, b) :: bs => s == t && a.same b && sameTerms as bs
  | _, _ => false

/-- Expressions are equal when they have equal terms behind equal signs. -/
def same (a b : Expression) : Bool := sameTerms a.terms b.terms

/-- Terms with their dice thrown, from left to right. -/
def throwTerms : List (Sign × Term) → Draws → List (Sign × Term) × Draws
  | [], draws => ([], draws)
  | (s, t) :: rest, draws =>
    let (t, draws) := t.throw draws
    let (rest, draws) := throwTerms rest draws
    ((s, t) :: rest, draws)

/-- The expression with its dice thrown. -/
def throw (e : Expression) (draws : Draws) : Expression × Draws :=
  let (terms, draws) := throwTerms e.terms draws
  (⟨terms⟩, draws)

/-- An expression described, with what is said of its terms. -/
def describeWith (terms : Text) : Text := "Expression(terms=".toList ++ terms ++ [')']

/-- Described terms behind their described signs. -/
def describeTerms (terms : List (Text × Text)) : Text :=
  describeWith (Text.bracketed (terms.map fun p => Text.parenthesised [p.1, p.2]))

/-- The expression described with all that tells it from another. -/
def describe (e : Expression) : Text :=
  describeTerms (e.terms.map fun p => (p.1.written.quoted, p.2.describe))

end Expression

/-- The expressions of a notation and the text that they were read from. -/
structure RollSet where
  /-- The expressions, in order. -/
  expressions : List Expression := []
  /-- The text that the set was read from, if it was. -/
  spec : Option Text := none
deriving DecidableEq

namespace RollSet

/-- The set as it is displayed. -/
def render (s : RollSet) : Text := Text.join [';', ' '] (s.expressions.map Expression.render)

/-- The total of each expression; a text in the place of a sign is the error. -/
def totals (s : RollSet) : Except Text (List Int) := s.expressions.mapM Expression.total

/-- All dice of the set show their greatest value. -/
def isGreatest (s : RollSet) : Bool := s.expressions.all Expression.isGreatest

/-- All dice of the set show their least value. -/
def isLeast (s : RollSet) : Bool := s.expressions.all Expression.isLeast

/-- Some expression has dice. -/
def hasDice (s : RollSet) : Bool := s.expressions.any fun e => !e.rolls.isEmpty

/-- Equality expression by expression. -/
def sameExpressions : List Expression → List Expression → Bool
  | [], [] => true
  | a :: as, b :: bs => a.same b && sameExpressions as bs
  | _, _ => false

/-- Sets are equal when their expressions are. -/
def same (a b : RollSet) : Bool := sameExpressions a.expressions b.expressions

/-- Expressions with their dice thrown, from left to right. -/
def throwExpressions : List Expression → Draws → List Expression × Draws
  | [], draws => ([], draws)
  | e :: rest, draws =>
    let (e, draws) := e.throw draws
    let (rest, draws) := throwExpressions rest draws
    (e :: rest, draws)

/-- The set with every die thrown and all selectors applied. -/
def throw (s : RollSet) (draws : Draws) : RollSet × Draws :=
  let (expressions, draws) := throwExpressions s.expressions draws
  ({ s with expressions := expressions }, draws)

/-- A set described, with what is said of its text and of its expressions. -/
def describeWith (spec expressions : Text) : Text :=
  "RollSet(spec=".toList ++ spec ++ ", expressions=".toList ++ expressions ++ [')']

/-- What is said of the text that a set was read from. -/
def describeSpec : Option Text → Text
  | none => "None".toList
  | some t => t.quoted

/-- The set described with all that tells it from another. -/
def describe (s : RollSet) : Text :=
  describeWith (describeSpec s.spec) (Text.bracketed (s.expressions.map Expression.describe))

end RollSet

end DiceRoller
