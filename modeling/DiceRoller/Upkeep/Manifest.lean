import DiceRoller.Upkeep.Task
import DiceRoller.Value

/-!
# The manifest

What the project says of itself to those who pack it up: its name and version, who
made it, what it needs, what it is made of, and its tasks of upkeep. Only what it
is made of depends on anything, namely on the packages that are found.

## Main definitions

* `Manifest.Chore`: A task as the manifest lists it.
* `Manifest`: What the project says of itself.
* `Manifest.ofPackages`: The manifest for some packages.
* `Manifest.find`: The manifest for the packages below a folder.
* `Manifest.value`: The manifest as a value.
-/

namespace DiceRoller

namespace Manifest

/-- A choice that a task offers on its command line. -/
structure Choice where
  /-- What it is called. -/
  name : Text
  /-- What it is called for short. -/
  short : Option Text
  /-- What it does. -/
  about : Text
deriving DecidableEq

/-- A task as the manifest lists it. -/
structure Chore where
  /-- What it is called on a command line. -/
  name : Text
  /-- What it is called by those who pack the project up. -/
  title : Text
  /-- What it does, if the manifest says so. -/
  about : Option Text
  /-- The choices that it offers. -/
  choices : List Choice
deriving DecidableEq

end Manifest

/-- What the project says of itself. -/
structure Manifest where
  /-- What it is called. -/
  name : Text
  /-- The version. -/
  version : Text
  /-- What it is, in short and at length. -/
  description : Text
  /-- Where it is found. -/
  url : Text
  /-- Who made it, and looks after it. -/
  author : Text
  /-- Where to write to. -/
  email : Text
  /-- On which terms it may be used. -/
  license : Text
  /-- What it runs on. -/
  platforms : List Text
  /-- The classes that it belongs to. -/
  classifiers : List Text
  /-- What it may be looked for by. -/
  keywords : Text
  /-- What it is made of. -/
  packages : List Text
  /-- The language version that it runs on. -/
  language : Text
  /-- What it needs to run. -/
  runNeeds : List Text
  /-- What it needs to be tested. -/
  testNeeds : List Text
  /-- The programs that it is started by. -/
  programs : List Text
  /-- Its tasks of upkeep. -/
  chores : List Manifest.Chore
deriving DecidableEq

namespace Manifest

/-- The names of packages that are no part of the project. -/
def excluded : List Text := ["venv", ".tox", "tests", "tests.*"].map String.toList

/-- The tasks of upkeep, as they are listed. -/
def listed : List Chore :=
  [⟨"clean".toList, "Clean".toList, none, []⟩,
    ⟨"coverage".toList, "Coverage".toList, none, []⟩,
    ⟨"deps".toList, "InstallDeps".toList, some "Install the depencies for the project.".toList,
      [⟨"force=".toList, none, "Bypass prompt.".toList⟩]⟩,
    ⟨"test".toList, "Test".toList, none, []⟩]

/-- The manifest for some packages. -/
def ofPackages (packages : List Text) : Manifest where
  name := "dicenote".toList
  version := "0.1.0".toList
  description := "Parse and roll dice notation like 4d20kh3+2;2d6".toList
  url := "https://github.com/starcraftman/diceBot".toList
  author := "Jeremy Pallats / starcraft.man".toList
  email := "N/A".toList
  license := "BSD".toList
  platforms := ["any".toList]
  classifiers :=
    ["Development Status :: 2 - Pre-Alpha", "Environment :: Console",
      "Intended Audience :: Developers", "Intended Audience :: End Users/Desktop",
      "License :: OSI Approved :: BSD License", "Operating System :: POSIX :: Linux",
      "Programming Language :: Python", "Programming Language :: Python :: 3"].map String.toList
  keywords := "dice notation tabletop".toList
  packages := packages
  language := ">=3.6".toList
  runNeeds := Upkeep.runNeeds
  testNeeds := Upkeep.testNeeds
  programs := ["dicenote = dicenote.main:main".toList]
  chores := listed

/-- The manifest for the packages below a folder. -/
def find (d : Disk) (folder : Text) : Manifest :=
  ofPackages (d.packages (Path.absoluteSegments [] folder) excluded)

/-- A list of texts as a value. -/
def texts (ts : List Text) : Value := .list (ts.map .text)

/-- A mapping from names to values. -/
def fields (entries : List (String × Value)) : Value :=
  .dict (entries.map fun e => (e.1.toList, e.2))

/-- A choice as a value. -/
def Choice.value (c : Choice) : Value :=
  .list [.text c.name, c.short.elim .null .text, .text c.about]

/-- A task as a value. -/
def Chore.value (c : Chore) : Value :=
  .list [.text c.title, c.about.elim .null .text, .list (c.choices.map Choice.value)]

/-- The manifest as a value, under the names that those who pack it up look for. -/
def value (m : Manifest) : Value :=
  fields
    [("name", .text m.name), ("version", .text m.version),
      ("description", .text m.description), ("long_description", .text m.description),
      ("url", .text m.url), ("author", .text m.author), ("author_email", .text m.email),
      ("maintainer", .text m.author), ("maintainer_email", .text m.email),
      ("license", .text m.license), ("platforms", texts m.platforms),
      ("classifiers", texts m.classifiers), ("keywords", .text m.keywords),
      ("packages", texts m.packages), ("python_requires", .text m.language),
      ("install_requires", texts m.runNeeds),
      ("extras_require", fields [("test", texts m.testNeeds)]),
      ("entry_points", fields [("console_scripts", texts m.programs)]),
      ("commands", .dict (m.chores.map fun c => (c.name, c.value)))]

end Manifest

end DiceRoller
