import DiceRoller.Bench.Question
import DiceRoller.Bench.Throwing

/-!
# Steps at the bench

A bench is a shelf with names for some of its places and a stream of draws. Work
at it goes step by step: making a node and naming it, changing one, or asking
something. A step that fails leaves all names as they were, and what a failing
throw has already done to the dice stays done.

A value or marks can be set by hand on a node that has none of its own. They are
only pinned to it: they are told when asked for, and nothing else looks at them.

Names are looked up before anything else happens, so a name that was never given
is the fault even where the step would fail for another reason. Everything else is
given as values of any form, and one that does not fit is a fault of the step that
needs it, or stays unnoticed until it is needed.

An answer is written down in the end, and a number with too many digits cannot
be. Then there is no answer, but what the step did stays done.

## Main definitions

* `Step`: What can be done at the bench.
* `Bench`: The shelf, the names and the draws.
* `Bench.take`: A step at the bench.
* `Bench.takeAll`: Steps one after the other.
-/

namespace DiceRoller

/-- What can be done at the bench. Nodes are named. -/
inductive Step where
  /-- Makes a die. -/
  | die (name : Text) (faces distribution value flags : Value)
  /-- Makes a Fate die. -/
  | fate (name : Text) (value flags : Value)
  /-- Makes a constant of a value. -/
  | constant (name : Text) (value : Value)
  /-- Makes a selector. -/
  | selector (name : Text) (keep high num : Value)
  /-- Makes the selector with two letters. -/
  | selectorOfKind (name : Text) (kind num : Value)
  /-- Makes a roll of duplicates of a die, or of ordinary dice, with any nodes for
      its selectors. -/
  | roll (name : Text) (quantity : Value) (die : Option Text) (selectors : List Text)
  /-- Makes an expression. -/
  | expression (name : Text) (terms : List (Value × Text))
  /-- Makes a set. -/
  | rollSet (name : Text) (expressions : List Text) (spec : Value)
  /-- Makes a group. -/
  | group (name : Text) (nodes : List Text)
  /-- Makes an abstract node. -/
  | abstract (name : Text)
  /-- Tries to make a node of no kind at all. -/
  | bare
  /-- Reads a set from a value, which has to be a text. -/
  | read (name : Text) (limits : Limits) (source : Value)
  /-- Makes an unthrown duplicate of a die, to be named or only described. -/
  | duplicate (name : Option Text) (node : Text)
  /-- Names a node directly below another; positions below zero count from the
      end. -/
  | child (name : Text) (node : Text) (index : Value)
  /-- Sets the value of a die, or pins a value to another node. -/
  | setValue (node : Text) (value : Value)
  /-- Sets the marks of a die, or pins marks to another node. -/
  | setFlags (node : Text) (flags : Value)
  /-- Adds a term at the end of an expression. -/
  | addTerm (node : Text) (sign : Value) (term : Text)
  /-- Throws a node. -/
  | throw (node : Text)
  /-- Strikes out a die. -/
  | drop (node : Text)
  /-- Makes a die count again. -/
  | keep (node : Text)
  /-- Applies a selector to dice. -/
  | select (node : Text) (dice : List Text)
  /-- Applies a selector to the dice of a roll. -/
  | selectRoll (node roll : Text)
  /-- Compares two nodes both ways. -/
  | compare (first second : Text)
  /-- Counts the nodes that a collection of these would hold. -/
  | distinct (nodes : List Text)
  /-- Shows the table of the totals of sets. -/
  | totalsTable (sets : List Text)
  /-- Asks something about a node. -/
  | ask (question : Question) (node : Text)

/-- The set that a value describes, which has to be a text. Of anything else it is told
    what it is. -/
def RollSet.ofValue (limits : Limits) (source : Value) : Except Bench.Fault RollSet :=
  match source with
  | .text t => (RollSet.read limits t).mapError .misread
  | v => do .error (.misread (.notText (← Bench.texted v.describe?)))

/-- The shelf, the names of places on it, and the draws. -/
structure Bench where
  /-- The nodes. -/
  shelf : Shelf := {}
  /-- The names, the latest first. -/
  names : List (Text × Place) := []
  /-- The values pinned to places whose nodes have none of their own, the latest
      first. -/
  pins : List ((Place × Question) × Value) := []
  /-- The draws. -/
  draws : Draws

namespace Bench

/-- The constant that a value stands for: a whole number, the whole part of one
    with a fraction, or a number word. -/
def constantOf : Value → Except Fault Int
  | .decimal written => .ok (Value.truncate written)
  | .infinite _ => .error .tooGreat
  | .undefined => .error (.refused none)
  | .text t =>
    match Numeral.read? t with
    | some n => .ok n
    | none => .error (.refused none)
  | v => counted v

/-- The number of dice of a roll. -/
def quantityOf (v : Value) : Except Fault Nat := do
  atLeastOne Roll.noDie v
  return (← counted v).toNat

/-- The place with a name. -/
def find (b : Bench) (name : Text) : Except Fault Place :=
  match b.names.find? fun e => e.1 == name with
  | some e => .ok e.2
  | none => .error .noSlot

/-- The bench with a name given to a place. -/
def call (b : Bench) (name : Text) (place : Place) : Bench :=
  { b with names := (name, place) :: b.names }

/-- The bench with a value pinned to a place. -/
def pin (b : Bench) (place : Place) (q : Question) (v : Value) : Bench :=
  { b with pins := ((place, q), v) :: b.pins }

/-- The value pinned to a place. -/
def pinned? (b : Bench) (place : Place) (q : Question) : Option Value :=
  (b.pins.find? fun e => e.1 == (place, q)).map (·.2)

/-- The bench with a new cell that has a name. -/
def make (b : Bench) (name : Text) (c : Cell) : Bench :=
  let (place, shelf) := b.shelf.add c
  { b with shelf := shelf }.call name place

/-- The description of what lies at a place, as an answer. -/
def described (b : Bench) (place : Place) : Except Fault Answer :=
  (b.shelf.describe place).map .text

/-- A step that makes a node: the answer is its description. -/
def made (b : Bench) (name : Text) (c : Except Fault Cell) : Bench × Except Fault Answer :=
  match c with
  | .error f => (b, .error f)
  | .ok c =>
    let b := b.make name c
    (b, (b.find name).bind b.described)

/-- An answer that is to be written down. -/
def told (a : Answer) : Except Fault Answer :=
  if a.isWritable then .ok a else .error (.refused none)

/-- The state at a place. -/
def stateAt (b : Bench) (place : Place) : Except Fault Answer := do
  told (.state (← b.shelf.state place))

/-- A step that makes a node: the answer is its state, and without one the node
    is not named. -/
def madeWithState (b : Bench) (name : Text) (c : Cell) : Bench × Except Fault Answer :=
  let (place, shelf) := b.shelf.add c
  let reached : Bench := { b with shelf := shelf }
  match reached.stateAt place with
  | .ok a => (reached.call name place, .ok a)
  | .error f => (b, .error f)

/-- The state at a place, as the answer of a step that reached this bench. -/
def seen (b : Bench) (place : Place) : Bench × Except Fault Answer := (b, b.stateAt place)

/-- A step that names a place: the answer is the state there, and without one
    the place is not named. -/
def named (b : Bench) (name : Text) (place : Place) : Bench × Except Fault Answer :=
  match b.stateAt place with
  | .ok a => (b.call name place, .ok a)
  | .error f => (b, .error f)

/-- A step that changes the die at a place. -/
def changed (b : Bench) (place : Place) (change : LooseDie → Except Fault LooseDie) :
    Bench × Except Fault Answer :=
  match b.shelf.die? place with
  | none => (b, .error .lacking)
  | some d =>
    match change d with
    | .error f => (b, .error f)
    | .ok d => { b with shelf := b.shelf.set place (.die d) }.seen place

/-- A step that makes a roll of duplicates of the die at a place, or of ordinary
    dice. -/
def makeRoll (b : Bench) (name : Text) (quantity : Value) (die : Option Place)
    (selectors : List Place) : Bench × Except Fault Answer :=
  let template := match die with
    | none => some (LooseDie.ofKind (DieSpec.plain 6))
    | some p => b.shelf.die? p
  match quantityOf quantity, template with
  | .error f, _ => (b, .error f)
  | .ok _, none => (b, .error .lacking)
  | .ok n, some d =>
    let (place, shelf) := b.shelf.addDice n d selectors
    let b : Bench := { b with shelf := shelf }.call name place
    (b, b.described place)

/-- The position in a list of the given length that an index means; below zero
    it counts from the end. -/
def position (length : Nat) (index : Int) : Option Nat :=
  if 0 ≤ index then (if index.toNat < length then some index.toNat else none)
  else if (-index).toNat ≤ length then some (length - (-index).toNat) else none

/-- The number of expressions of a set. -/
def sizeOf (b : Bench) (place : Place) : Except Fault Nat :=
  match b.shelf.cell? place with
  | some (.rollSet expressions _) => .ok expressions.length
  | _ => .error .unfit

/-- The table of the totals of sets. -/
def tableOf (b : Bench) (sets : List Place) : Except Fault Text := do
  let _ ← sets.mapM b.sizeOf
  if sets.isEmpty then .error (.refused none)
  else
    let totals ← sets.mapM b.shelf.groupTotals
    let written ← totals.mapM fun vs => vs.mapM fun v => texted v.write?
    (Report.tableOf written).mapError fun _ => .refused none

/-- A step once its names are found. -/
def takeFound (b : Bench) : Step → Except Fault (Bench × Except Fault Answer)
  | .die name faces values top marks =>
    .ok (b.made name ((LooseDie.make faces values top marks).map .die))
  | .fate name top marks => .ok (b.made name ((LooseDie.makeFate top marks).map .die))
  | .constant name value => .ok (b.made name ((constantOf value).map .constant))
  | .selector name keep high num =>
    .ok (b.made name ((LooseSelector.make keep high num).map .selector))
  | .selectorOfKind name kind num =>
    .ok (b.made name ((LooseSelector.ofKind kind num).map .selector))
  | .roll name quantity die selectors => do
    let die ← die.mapM b.find
    let selectors ← selectors.mapM b.find
    return b.makeRoll name quantity die selectors
  | .expression name terms => do
    let terms ← terms.mapM fun t => do return (t.1, ← b.find t.2)
    return b.made name (.ok (.expression terms))
  | .rollSet name expressions spec => do
    return b.made name (.ok (.rollSet (← expressions.mapM b.find) spec))
  | .group name nodes => do
    return b.madeWithState name (.group (← nodes.mapM b.find))
  | .abstract name => .ok (b.make name .abstract, .ok (.text "Abstract".toList))
  | .bare => .error .unfit
  | .read name limits source =>
    match RollSet.ofValue limits source with
    | .error f => .error f
    | .ok s =>
      let (place, shelf) := b.shelf.addRollSet s
      .ok ({ b with shelf := shelf }.call name place, .ok (.set s))
  | .duplicate name node => do
    let place ← b.find node
    match b.shelf.die? place with
    | none => .error .lacking
    | some d =>
      match name with
      | some name => return b.made name (.ok (.die d.fresh))
      | none => return (b, d.fresh.describe.map .text)
  | .child name node index => do
    let places ← b.shelf.children (← b.find node)
    match (position places.length (← counted index)).bind (places[·]?) with
    | none => .error .noChild
    | some place => return b.named name place
  | .setValue node value => do
    let place ← b.find node
    match b.shelf.cell? place with
    | some (.die _) => return b.changed place fun d => d.setTop value
    | some (.constant _) => .error .lacking
    | _ => return (b.pin place .value value).seen place
  | .setFlags node flags => do
    let place ← b.find node
    match b.shelf.cell? place with
    | some (.die _) => return b.changed place fun d => .ok { d with marks := flags }
    | _ => return (b.pin place .flags flags).seen place
  | .addTerm node sign term => do
    let place ← b.find node
    let added ← b.find term
    match b.shelf.cell? place with
    | some (.expression terms) =>
      let cell := Cell.expression (terms ++ [(sign, added)])
      return { b with shelf := b.shelf.set place cell }.seen place
    | _ => .error .lacking
  | .throw node => do
    let place ← b.find node
    match b.shelf.throw place b.draws with
    | ((shelf, draws), none) => return { b with shelf := shelf, draws := draws }.seen place
    | ((shelf, draws), some f) => return ({ b with shelf := shelf, draws := draws }, .error f)
  | .drop node => do return b.changed (← b.find node) LooseDie.drop
  | .keep node => do return b.changed (← b.find node) fun d => .ok d.keep
  | .select node dice => do
    let places ← dice.mapM b.find
    let place ← b.find node
    match b.shelf.cell? place with
    | some (.selector s) =>
      let b := { b with shelf := ← b.shelf.select s places }
      return (b, do return .states (← places.mapM b.shelf.state))
    | _ => .error .lacking
  | .selectRoll node roll => do
    let rollPlace ← b.find roll
    let place ← b.find node
    match b.shelf.cell? place, b.shelf.cell? rollPlace with
    | some (.selector s), some (.roll dice _) =>
      return { b with shelf := ← b.shelf.select s dice }.seen rollPlace
    | _, _ => .error .lacking
  | .compare first second => do
    let p ← b.find first
    let q ← b.find second
    let forth ← b.shelf.same p q
    let back ← b.shelf.same q p
    return (b, .ok (.value (.list [.bool forth, .bool back, .bool !forth])))
  | .distinct nodes => do
    let places ← nodes.mapM b.find
    return (b, .ok (.count (← b.shelf.distinct places).length))
  | .totalsTable sets => do
    let places ← sets.mapM b.find
    return (b, .ok (.text (← b.tableOf places)))
  | .ask question node => do
    let place ← b.find node
    match b.pinned? place question with
    | some v => return (b, .ok (.value v))
    | none => return (b, b.shelf.answer place question)

/-- A step at the bench. -/
def take (b : Bench) (s : Step) : Bench × Except Fault Answer :=
  match b.takeFound s with
  | .ok (b, a) => (b, a.bind told)
  | .error f => (b, .error f)

/-- Steps one after the other, whether they fail or not. -/
def takeAll (b : Bench) : List Step → List (Except Fault Answer) × Bench
  | [] => ([], b)
  | s :: rest =>
    let (b, a) := b.take s
    let (answers, b) := b.takeAll rest
    (a :: answers, b)

end Bench

end DiceRoller
