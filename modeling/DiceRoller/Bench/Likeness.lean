import DiceRoller.Bench.Reading

/-!
# Likeness of nodes

Equality of what lies at two places, and the keys under which a collection files
nodes. Both are defined side by side, since a collection that keeps one of each
node finds equal nodes by their keys. What dice show plays no part in either, and
neither does what a set is said to be read from.

As a part of something else a node is always like itself, whatever is in it. So two
ways down are compared only where they lie at different places, and the comparison
never ends if it comes back to two places that are being compared already.

## Main definitions

* `Shelf.same`: Equality of what lies at two places.
* `Bench.Key`: The key under which a collection files a node.
* `Shelf.key`: The key of a node.
* `Shelf.distinct`: One of each node.
-/

namespace DiceRoller

namespace Bench

/-- Equality of things one by one, up to the first two that differ. Things without a
    partner differ. -/
def sameEach {α : Type} (same : α → α → Except Bench.Fault Bool) :
    List α → List α → Except Bench.Fault Bool
  | [], [] => .ok true
  | a :: as, b :: bs => do if ← same a b then sameEach same as bs else .ok false
  | _, _ => .ok false

end Bench

namespace Shelf

open Bench

/-- Whether two rolls have as many dice of the same kind. -/
def sameDice (shelf : Shelf) (dice others : List Place) : Bool :=
  dice.length == others.length &&
    match (shelf.diceAt dice).head?, (shelf.diceAt others).head? with
    | some a, some b => a.same b
    | _, _ => false

/-- Equality of what lies at two places, by comparing at most `levels` pairs of places
    one below the other, of which those in `way` are being compared already. Terms
    and expressions are not looked into when their numbers differ, selectors are. -/
def sameWithin (shelf : Shelf) :
    Nat → List (Place × Place) → Place → Place → Except Bench.Fault Bool
  | 0, _, _, _ => .error .endless
  | levels + 1, way, p, q =>
    let below (a b : Place) : Except Bench.Fault Bool :=
      if a = b then .ok true
      else if way.contains (a, b) then .error .endless
      else sameWithin shelf levels ((a, b) :: way) a b
    match shelf.cell? p, shelf.cell? q with
    | some (.die a), some (.die b) => .ok (a.same b)
    | some (.constant m), some (.constant n) => .ok (m == n)
    | some (.selector a), some (.selector b) => .ok (a.same b)
    | some (.roll dice as), some (.roll others bs) =>
      if shelf.sameDice dice others then sameEach below as bs else .ok false
    | some (.expression as), some (.expression bs) =>
      if as.length = bs.length then
        sameEach (fun a b => if a.1.alike b.1 then below a.2 b.2 else .ok false) as bs
      else .ok false
    | some (.rollSet as _), some (.rollSet bs _) =>
      if as.length = bs.length then sameEach below as bs else .ok false
    | some (.group _), some (.group _) => .ok (p == q)
    | some .abstract, some .abstract => .ok (p == q)
    | _, _ => .ok false

/-- Equality of what lies at two places. No way down has more pairs of places than
    there are pairs of nodes that hold others, and two more. -/
def same (shelf : Shelf) (p q : Place) : Except Bench.Fault Bool :=
  shelf.sameWithin (shelf.levels * shelf.levels) [(p, q)] p q

end Shelf

namespace Bench

/-- The key under which a collection files a node. -/
inductive Key where
  /-- A die goes by its faces and values. -/
  | die (faces : Value) (values : List Value)
  /-- A constant goes by its value. -/
  | constant (n : Int)
  /-- Selectors and rolls go by what is written for them. -/
  | written (t : Text)
  /-- An expression goes by its signs and the keys of its terms. -/
  | terms (signs : List Value) (keys : List Key)
  /-- A set goes by the keys of its expressions. -/
  | expressions (keys : List Key)
  /-- A group or an abstract node goes by its place. -/
  | place (p : Place)

mutual

/-- Equality of keys. -/
def Key.same : Key → Key → Bool
  | .die f v, .die g w => f.alike g && Value.areAlike v w
  | .constant m, .constant n => m == n
  | .written s, .written t => s == t
  | .terms s as, .terms t bs => Value.areAlike s t && Key.allSame as bs
  | .expressions as, .expressions bs => Key.allSame as bs
  | .place p, .place q => p == q
  | _, _ => false

/-- Equality of keys, one by one. -/
def Key.allSame : List Key → List Key → Bool
  | [], [] => true
  | a :: as, b :: bs => Key.same a b && Key.allSame as bs
  | _, _ => false

end

/-- Something that can be part of a key. -/
def keyed (v : Value) : Except Bench.Fault Unit := if v.isKey then .ok () else .error .unfit

end Bench

namespace Shelf

open Bench

/-- The key under which a collection files a node, by following a way of at most
    `levels` levels. -/
def keyWithin (shelf : Shelf) : Nat → Place → Except Bench.Fault Key
  | 0, _ => .error .endless
  | levels + 1, place =>
    match shelf.cell? place with
    | some (.die d) => do
      (d.faces :: d.values).forM keyed
      return .die d.faces d.values
    | some (.constant n) => .ok (.constant n)
    | some (.selector s) => s.written.map .written
    | some (.roll _ _) => (shelf.written place).map .written
    | some (.expression terms) => do
      let keys ← terms.mapM fun t => do
        keyed t.1
        keyWithin shelf levels t.2
      return .terms (terms.map (·.1)) keys
    | some (.rollSet expressions _) => do
      return .expressions (← expressions.mapM (keyWithin shelf levels))
    | some (.group _) => .ok (.place place)
    | some .abstract => .ok (.place place)
    | none => .error .lacking

/-- The key under which a collection files a node. -/
def key (shelf : Shelf) (place : Place) : Except Bench.Fault Key :=
  shelf.keyWithin shelf.levels place

/-- Whether a collection that holds some nodes with their keys takes one of them for
    another node: it is that node, or is filed under the same key and equals it. -/
def holds (shelf : Shelf) (k : Key) (place : Place) :
    List (Key × Place) → Except Bench.Fault Bool
  | [] => .ok false
  | (k', place') :: rest => do
    let found ←
      if place' = place then .ok true
      else if Key.same k' k then shelf.same place' place
      else .ok false
    if found then .ok true else shelf.holds k place rest

/-- The nodes of a collection with their keys after further nodes are put in. -/
def collect (shelf : Shelf) (kept : List (Key × Place)) :
    List Place → Except Bench.Fault (List (Key × Place))
  | [] => .ok kept
  | place :: rest => do
    let k ← shelf.key place
    if ← shelf.holds k place kept then shelf.collect kept rest
    else shelf.collect (kept ++ [(k, place)]) rest

/-- One of each node, the first where several are taken for one. A node without a key
    cannot be collected. -/
def distinct (shelf : Shelf) (places : List Place) : Except Bench.Fault (List Place) := do
  return (← shelf.collect [] places).map (·.2)

end Shelf

end DiceRoller
