import DiceRoller.Value

/-!
# Settings

The values that the program is configured with. A setting is found by following
keys from the outermost value inwards: a name leads into a mapping, a number into
a list or a text, where numbers below zero count from the end. A key that a
mapping does not have may be replaced by a default. Every other key that leads
nowhere is a fault, default or not.

## Main definitions

* `Settings.Fault`: Why a setting cannot be found.
* `Value.under`: The value under one key.
* `Value.follow`: The value at the end of a way of keys.
* `Value.setting`: The value at the end of a way, or else the default.
* `Settings.standard`: The settings that hold when no others are given.
-/

namespace DiceRoller

namespace Settings

/-- Why a setting cannot be found. -/
inductive Fault where
  /-- A mapping does not have the key. -/
  | missing
  /-- A list or a text does not reach as far as the number. -/
  | outside
  /-- The value has no keys of this form, or no keys at all. -/
  | unfit
deriving DecidableEq

end Settings

namespace Value

/-- The item at a number, counted from the end if it is below zero. -/
def itemAt {α : Type} (items : List α) (n : Int) : Except Settings.Fault α :=
  let place := if n < 0 then n + items.length else n
  match if place < 0 then none else items[place.toNat]? with
  | some a => .ok a
  | none => .error .outside

/-- The value under one key. -/
def under (v key : Value) : Except Settings.Fault Value :=
  match v with
  | .dict entries =>
    match key with
    | .text k =>
      match get? k entries with
      | some found => .ok found
      | none => .error .missing
    | key => .error (if key.isKey then .missing else .unfit)
  | .list items =>
    match key.asNumber? with
    | some n => itemAt items n
    | none => .error .unfit
  | .text t =>
    match key.asNumber? with
    | some n => (itemAt t n).map fun c => .text [c]
    | none => .error .unfit
  | _ => .error .unfit

/-- The value at the end of a way of keys. -/
def follow (v : Value) : List Value → Except Settings.Fault Value
  | [] => .ok v
  | key :: way => do follow (← v.under key) way

/-- The value at the end of a way of keys. Where a mapping does not have the
    next key it is the default, if there is one. -/
def setting (v : Value) (way : List Value) (default : Value) : Except Settings.Fault Value :=
  match v.follow way, default with
  | .error .missing, .null => .error .missing
  | .error .missing, d => .ok d
  | r, _ => r

end Value

namespace Settings

/-- A mapping from names to values. -/
def mapping (entries : List (String × Value)) : Value :=
  .dict (entries.map fun e => (e.1.toList, e.2))

/-- A way of names. -/
def way (names : List String) : List Value := names.map fun n => .text n.toList

/-- The settings that hold when no others are given. -/
def standard : Value :=
  mapping
    [("paths", mapping [("log_conf", .text "data/log.yml".toList)]),
      ("limits", mapping [("dice", .int 1000), ("faces", .int 1000)]),
      ("cli", mapping [("repeat_limit", .int 100)])]

end Settings

end DiceRoller
