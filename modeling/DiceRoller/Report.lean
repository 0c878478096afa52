import DiceRoller.Grammar.Reader
import DiceRoller.Table

/-!
# Reports

What is shown to the user about rolled sets: a line for each set with what was
asked for, what fell and what it adds up to, and a table of all totals. A line
says in addition when every die shows its greatest or its least value, provided
that there are dice at all.

Totals are sums of numbers that may each have as many digits as a number can
have. A sum with more digits than that cannot be written, and is the fault.

## Main definitions

* `Report.Fault`: Why a report cannot be written.
* `Report.line`: The line for a set.
* `Report.totalsTable`: The table of the totals of sets.
* `RollSet.report`: The line for a rolled set.
* `RollSet.throwReported`: A set thrown several times, with a report each time.
-/

namespace DiceRoller

namespace Report

/-- Why a report cannot be written. -/
inductive Fault where
  /-- A text stands in the place of a sign. -/
  | unknownSign (text : Text)
  /-- A total has too many digits. -/
  | totalTooLong
  /-- There is no set to report on. -/
  | noSets
  /-- The table cannot be laid out. -/
  | layout (fault : Table.Fault)
deriving DecidableEq

/-- The numeral of a total. -/
def totalText (n : Int) : Except Fault Text :=
  match Numeral.write? n with
  | some t => .ok t
  | none => .error .totalTooLong

/-- The totals of a set, separated by commas. -/
def totalsText (totals : List Int) : Except Fault Text := do
  return Text.join [',', ' '] (← totals.mapM totalText)

/-- A remark on a line of its own below the report. -/
def remark (t : Text) : Text := '\n' :: Text.spaces 8 ++ t

/-- The line for a set: what it was read from, how it is displayed, its totals, and
    the remarks that it deserves. -/
def line (spec render totals : Text) (critical fumble : Bool) : Text :=
  spec ++ " = ".toList ++ render ++ " = ".toList ++ totals ++
    (if critical then remark "CRITICAL!".toList else []) ++
    (if fumble then remark "FUMBLE!".toList else [])

/-- The head of a table of totals with `n` columns of totals. -/
def tableHead (n : Nat) : List Text :=
  "Roll".toList :: (List.range n).map fun k => "Expr ".toList ++ Text.ofNat (k + 1)

/-- A row of the table: the number of the set, its totals, and empty cells up to
    the width of the table. -/
def tableRow (n number : Nat) (totals : List Text) : List Text :=
  Text.ofNat number :: totals ++ List.replicate (n - totals.length) []

/-- The table for the written totals of sets, numbered from one. -/
def tableRows (totals : List (List Text)) : List (List Text) :=
  let n := (totals.map List.length).max?.getD 0
  tableHead n :: totals.zipIdx.map fun p => tableRow n (p.2 + 1) p.1

/-- The table of the written totals of sets, numbered from one. -/
def tableOf (written : List (List Text)) : Except Fault Text :=
  match Table.render Table.bar false true (tableRows written) with
  | .ok t => .ok t
  | .error f => .error (.layout f)

/-- The table of the totals of sets, numbered from one. -/
def totalsTable (totals : List (List Int)) : Except Fault Text := do
  if totals = [] then .error .noSets
  else tableOf (← totals.mapM fun ts => ts.mapM totalText)

end Report

namespace RollSet

/-- The totals of a set, as a step of a report. -/
def reportedTotals (s : RollSet) : Except Report.Fault (List Int) :=
  match s.totals with
  | .ok totals => .ok totals
  | .error t => .error (.unknownSign t)

/-- The line for a rolled set. -/
def report (s : RollSet) : Except Report.Fault Text := do
  let totals ← Report.totalsText (← s.reportedTotals)
  let spec := s.spec.getD "None".toList
  return Report.line spec s.render totals (s.hasDice && s.isGreatest) (s.hasDice && s.isLeast)

/-- A set thrown several times, each throw reported on before the next one: the
    thrown sets with their lines, the draws that are left, and the last set with
    the fault if it cannot be reported on. -/
def throwReported (s : RollSet) : Nat → Draws →
    List (RollSet × Text) × Draws × Option (RollSet × Report.Fault)
  | 0, draws => ([], draws, none)
  | n + 1, draws =>
    let (thrown, draws) := s.throw draws
    match thrown.report with
    | .error f => ([], draws, some (thrown, f))
    | .ok line =>
      let (more, draws, fault) := throwReported thrown n draws
      ((thrown, line) :: more, draws, fault)

end RollSet

end DiceRoller
