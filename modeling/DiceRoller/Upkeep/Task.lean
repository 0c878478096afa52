import DiceRoller.Disk.Search
import DiceRoller.Text.Blank
import DiceRoller.Upkeep.Course
import DiceRoller.Value

/-!
# Tasks of upkeep

What is done now and then to a project: what was built is cleaned away, what it
depends on is installed, and its tests are run, with a report of what they cover
or without. Cleaning and installing ask before they do anything. The tests are run
only if the plugin that measures coverage is there.

Cleaning collects what it finds into one line and hands that to the removing
program word by word, so a name with a gap in it is more than one word.

## Main definitions

* `Upkeep.Place`: Where a task is done.
* `Upkeep.Place.find`: The files that are searched for by a pattern.
* `Upkeep.cleaningLine`: The line that removes what was built.
* `Upkeep.clean`, `Upkeep.install`, `Upkeep.test`, `Upkeep.cover`: The tasks.
-/

namespace DiceRoller

namespace Upkeep

/-- Where a task is done. -/
structure Place where
  /-- The folder of the project. -/
  root : Text
  /-- The folder that the task starts in. -/
  home : Text
  /-- The disk. -/
  disk : Disk

namespace Place

/-- The paths of the files below the home whose names fit a pattern. -/
def find (p : Place) (pattern : Text) : List Text :=
  (p.disk.search (Path.absoluteSegments [] p.home) pattern).map (Path.join p.home)

/-- The names in the home that fit a pattern. -/
def look (p : Place) (pattern : Text) : List Text :=
  p.disk.look (Path.absoluteSegments [] p.home) pattern

/-- What was compiled. -/
def compiled (p : Place) : List Text := p.find "*.pyc".toList

/-- What was packed up. -/
def packed (p : Place) : List Text := p.look "*.egg-info".toList ++ p.look "*.egg".toList

end Place

/-- A line that is said before it is handed to a program. -/
def announced (line : Text) : Text := "Executing: ".toList ++ line ++ ['\n']

/-- The question before something is done. -/
def question : Text := "OK? y/n  ".toList

/-- Whether a reply agrees: its first code point that is not blank says so. -/
def agrees (reply : Text) : Bool :=
  (Text.trim reply).head?.any fun c => c == 'y' || c == 'Y'

/-- What a line to the removing program begins with. -/
def cleaningStart : Text := "rm -vrf .eggs .tox .pytest_cache build dist ".toList

/-- The line that removes what was built, once that is found. -/
def cleaningLine (compiled packed : List Text) : Text :=
  cleaningStart ++ (Text.join [' '] compiled ++ ' ' :: Text.join [' '] packed)

/-- Something that is done if the person agrees to it. -/
def ifAgreed (w : Circumstances) (c : Course) : Course :=
  match w.ask question with
  | (acts, none) => ⟨acts, [], .broken .noReply⟩
  | (acts, some reply) => if agrees reply then c.after acts [] else ⟨acts, [], .done⟩

/-- What was built is removed. -/
def clean (w : Circumstances) (p : Place) : Course :=
  let line := cleaningLine p.compiled p.packed
  (ifAgreed w (w.callAll p.home [line])).after [] (announced line)

/-- What the project needs to run. -/
def runNeeds : List Text := ["numpy", "pyyaml"].map String.toList

/-- What the project needs to be tested. -/
def testNeeds : List Text :=
  ["coverage", "flake8", "mock", "pylint", "pytest", "pytest-cov"].map String.toList

/-- The line that installs what the project needs. -/
def installLine : Text :=
  "pip install -U ".toList ++ Text.join [' '] (runNeeds ++ testNeeds)

/-- How many seconds installing may take. -/
def installSeconds : Nat := 150

/-- What is said when installing takes longer. -/
def installOverdue : Text :=
  "Deps installation took over 150 seconds, something is wrong.\n".toList

/-- What the project needs is installed by a program that runs alongside. One that
    is not done in time is left alone. -/
def installing (w : Circumstances) (p : Place) : Course :=
  let out : Stream := if w.consent then .dropped else .shared
  let c := w.start p.home installLine out .shared (some installSeconds)
  if c.ending = .broken .overdue then { c with said := installOverdue, ending := .done } else c

/-- What the project needs is installed. A word given beforehand replaces the
    question, and agrees only if it begins with a small letter. What counts as
    absent replaces nothing, and nothing else can take the place of a word. -/
def install (w : Circumstances) (p : Place) (given : Value) : Course :=
  let said := "Installing/Upgrading runtime & testing dependencies\n".toList ++
    announced installLine
  let c :=
    if given.isVacant then ifAgreed w (installing w p)
    else
      match given with
      | .text (c :: _) => if c == 'y' then installing w p else ⟨[], [], .done⟩
      | _ => ⟨[], [], .broken .noWord⟩
  c.after [] said

/-- The plugin that measures coverage. -/
def plugin : Text := "pytest-cov".toList

/-- What is said when the plugin is not there. -/
def pluginMissing : Text := "Please run: python setup.py deps\n".toList

/-- Something that is done if the plugin is there. The test program names its
    plugins where it says errors. -/
def ifPlugin (w : Circumstances) (p : Place) (c : Course) : Course :=
  let check := w.start p.home "py.test --version".toList .sink .file none
  if check.ending = .done then
    if Text.occursIn plugin w.remark then c.after check.acts check.said
    else { check with said := check.said ++ pluginMissing, ending := .stopped 1 }
  else check

/-- The line that runs the tests. -/
def testLine : Text := "py.test --cov=dicenote".toList

/-- The tests are run. -/
def test (w : Circumstances) (p : Place) : Course :=
  ifPlugin w p (w.callAll p.root [testLine])

/-- The lines that run the tests and show a report of what they cover. -/
def coverLines (spare : Text) : List Text :=
  let folder := Path.join spare ["dicenoteCoverage".toList]
  [testLine, "coverage html -d ".toList ++ folder,
    "xdg-open ".toList ++ Path.join folder ["index.html".toList]]

/-- The tests are run, and a report of what they cover is shown. -/
def cover (w : Circumstances) (p : Place) : Course :=
  ifPlugin w p (w.callAll p.root (coverLines w.spare))

end Upkeep

end DiceRoller
