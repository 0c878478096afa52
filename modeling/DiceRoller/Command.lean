import DiceRoller.CommandLine.Request
import DiceRoller.Disk
import DiceRoller.Document
import DiceRoller.Journal.Notice
import DiceRoller.Report
import DiceRoller.Seed
import DiceRoller.Settings

/-!
# The command

What the program does for a request: it seeds, looks up the limits, reads the
notation and throws it as often as it is asked to, and reports. Every throw reads
the notation anew, so each set starts unrolled. The steps have a fixed order and
the first that fails decides how the command ends.

A command ends with an exit code and what it puts out, or with a fault that is
not the user's. Exit code 0 is a throw or the manual, 1 a notation that cannot be
read, and 2 anything else that the user can mend.

## Main definitions

* `Command.Fault`: Why a command is broken off.
* `Command.Ending`: How a command ends.
* `Command.settle`: The ending of a command line that asks for no throw.
* `Command.throws`: The sets that are thrown.
* `Command.perform`: What is done for a request.
-/

namespace DiceRoller

/-- A ceiling as a setting gives it. Only numbers can be compared with. What is
    counted is never below one, so a limit below all numbers is as good as zero. -/
def Ceiling.ofValue : Value → Ceiling
  | .int n => .ofInt n
  | .bool b => .atMost (if b then 1 else 0) (Value.bool b).shown
  | .decimal written => .atMost (Value.floor written) written
  | .infinite below =>
    if below then .atMost 0 (Value.infinite below).shown else .unbounded
  | .undefined => .unbounded
  | _ => .unordered

/-- A ceiling as a setting gives it. One that counts as absent is the common
    one. -/
def Limits.ceilingOf (v : Value) : Ceiling :=
  if v.isVacant then .ofInt commonBound else .ofValue v

namespace Command

/-- Why a command is broken off. -/
inductive Fault where
  /-- A setting cannot be found, or is of the wrong form. -/
  | setting (f : Settings.Fault)
  /-- An option has nothing where a number is needed. -/
  | noNumber
  /-- A document of the journals cannot be used. -/
  | invalid
  /-- A file cannot be used. -/
  | blocked (o : Disk.Obstacle)
  /-- A file is no document. -/
  | unreadable (f : Document.Fault)
  /-- The notation cannot be read, though nothing is wrong with it. -/
  | unread (f : DiceRoller.Fault)
  /-- The thrown sets cannot be reported. -/
  | report (f : Report.Fault)
deriving DecidableEq

/-- How a command ends. -/
inductive Ending where
  /-- With an exit code and what is put out, apart for errors. -/
  | finished (code : Nat) (out err : Text)
  /-- With a fault that is not the user's. -/
  | broken (f : Fault)
deriving DecidableEq

/-- What is done for a request. -/
structure Performance where
  /-- How it ends. -/
  ending : Ending
  /-- What is noted on the way. -/
  records : List Record
  /-- The draws that are left. -/
  draws : Draws

namespace Ending

/-- The ending with a complaint about how the program is used. -/
def complaint (what : Text) : Ending :=
  .finished 2 [] ("dicenote: error: ".toList ++ what ++ ['\n'])

/-- The ending for a file that is not there. -/
def missingFile (path : Text) : Ending := complaint ("Missing config file: ".toList ++ path)

/-- The ending for a notation that cannot be read. -/
def misread (m : Mistake) : Ending :=
  .finished 1 [] ("Error: ".toList ++ m.message ++ ['\n', '\n'] ++ Manual.reference ++ ['\n'])

end Ending

/-- The ending of a command line that asks for no throw. -/
def settle (u : Usage) : Ending :=
  if u = .help then .finished 0 (u.message ++ ['\n']) [] else .complaint u.message

/-- The greatest number of throws unless the settings say otherwise. -/
def commonRepeats : Value := .int 100

/-- The record of the seed. -/
def ofSeed (seed : Int) : Record :=
  { level := .info, journal := "dicenote.main".toList, origin := "dicenote/main".toList,
    message := "Seeding numpy/random with: ".toList ++ Text.ofInt seed }

/-- The sets of a text that is read and thrown several times, with the records
    about them and the draws that are left. -/
def throws (limits : Limits) (text : Text) :
    Nat → Draws → List RollSet × List Record × Except Mistake Draws
  | 0, draws => ([], [], .ok draws)
  | n + 1, draws =>
    match RollSet.read limits text with
    | .error m => ([], [], .error m)
    | .ok s =>
      let (thrown, draws) := s.throw draws
      let (sets, records, rest) := throws limits text n draws
      (thrown :: sets, Record.ofReading text s :: Record.ofThrow thrown ++ records, rest)

/-- What is shown of thrown sets: a line for each, and a table of the totals if
    there is more than one total to show. -/
def shown (sets : List RollSet) : Except Report.Fault Text := do
  let lines ← sets.mapM RollSet.report
  let several := sets.length > 1 || sets.head?.any fun s => s.expressions.length > 1
  if several then
    let totals ← sets.mapM RollSet.reportedTotals
    return Text.join ['\n'] (lines ++ [[], ← Report.totalsTable totals]) ++ ['\n']
  else return Text.join ['\n'] lines ++ ['\n']

/-- The limits that the settings give. -/
def limitsOf (settings : Value) : Except Settings.Fault Limits := do
  let dice ← settings.setting (Settings.way ["limits", "dice"]) (.int 0)
  let faces ← settings.setting (Settings.way ["limits", "faces"]) (.int 0)
  return ⟨Limits.ceilingOf dice, Limits.ceilingOf faces⟩

/-- Throwing a text, with everything that is noted and shown. -/
def throwText (limits : Limits) (text : Text) (count : Nat) (draws : Draws) : Performance :=
  match throws limits text count draws with
  | (_, records, .error m) =>
    if m.fault.isMistake then ⟨Ending.misread m, records ++ [Record.ofMistake text m], draws⟩
    else ⟨.broken (.unread m.fault), records, draws⟩
  | (sets, records, .ok rest) =>
    match shown sets with
    | .ok out => ⟨.finished 0 out [], records, rest⟩
    | .error f => ⟨.broken (.report f), records, rest⟩

/-- What is done for a request once the settings are there. -/
def performWith (settings : Value) (r : Request) (draws : Draws) : Performance :=
  match settings.setting (Settings.way ["cli", "repeat_limit"]) commonRepeats, r.count with
  | .error f, _ => ⟨.broken (.setting f), [], draws⟩
  | .ok _, .nothing => ⟨.broken .noNumber, [], draws⟩
  | .ok most, .value count =>
    match (Ceiling.ofValue most).exceeded? count with
    | .error () => ⟨.broken (.setting .unfit), [], draws⟩
    | .ok (some limit) =>
      ⟨Ending.complaint ("Please repeat at most ".toList ++ limit ++ " times.".toList), [], draws⟩
    | .ok none =>
      match limitsOf settings with
      | .error f => ⟨.broken (.setting f), [], draws⟩
      | .ok limits => throwText limits (Text.join [' '] r.words) count draws

/-- The seed of a request at a moment, if there is a number to seed with. -/
def seedOf? (r : Request) (moment : Int) : Option Int :=
  match r.seed with
  | none => some (Seed.choose none moment)
  | some (.value n) => some (Seed.choose (some n) moment)
  | some .nothing => none

/-- What is done for a request once the seed is noted. Without settings the command
    ends as it is told to. -/
def performOn (settings : Except Ending Value) (r : Request) (draws : Draws) : Performance :=
  match settings with
  | .error e => ⟨e, [], draws⟩
  | .ok v => performWith v r draws

/-- What is done for a request. -/
def perform (settings : Except Ending Value) (r : Request) (moment : Int) (draws : Draws) :
    Performance :=
  match seedOf? r moment with
  | none => ⟨.broken .noNumber, [], draws⟩
  | some seed =>
    let p := performOn settings r draws
    { p with records := ofSeed seed :: p.records }

end Command

end DiceRoller
