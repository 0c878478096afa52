import DiceRoller.Disk
import DiceRoller.Text.Order
import DiceRoller.Text.Pattern

/-!
# Searching a disk

What is found below a folder. A walk visits a folder's own files before anything
in its subfolders, and finishes one subfolder before the next, each time in the
order of names. Since names are lists of segments, this is an order on them, and
a walk is the sorted list of the files below a folder.

Names that begin with a dot are hidden. A walk visits them; looking into a single
folder passes over them.

## Main definitions

* `Disk.isEarlier`: The order in which a walk visits names.
* `Disk.filesBelow`: The files below a folder, as a walk visits them.
* `Disk.search`: The files below a folder whose names fit a pattern.
* `Disk.look`: What in a folder fits a pattern.
* `Disk.packages`: The nested packages below a folder.
-/

namespace DiceRoller

namespace Disk

/-- Whether a walk does not visit a name after another. Where two names part, a
    file comes before a subfolder and two of a kind come in order. -/
def isEarlier : List Text → List Text → Bool
  | [], _ => true
  | _ :: _, [] => false
  | [a], [b] => Text.isUpTo a b
  | [_], _ :: _ :: _ => true
  | _ :: _ :: _, [_] => false
  | a :: p, b :: q => if a = b then isEarlier p q else Text.isUpTo a b

/-- Whether a name leads to a file. -/
def isFile (d : Disk) (p : List Text) : Bool :=
  match d.lookup? p with
  | some (.page _) => true
  | _ => false

/-- The names below a folder that satisfy `p`, seen from the folder. -/
def namesBelow (d : Disk) (folder : List Text) (p : List Text → Bool) : List (List Text) :=
  ((d.entries.map (·.1)).filter fun n =>
    folder.isPrefixOf n && n != folder && p n).map (·.drop folder.length)

/-- The files below a folder, seen from it, as a walk visits them. -/
def filesBelow (d : Disk) (folder : List Text) : List (List Text) :=
  (d.namesBelow folder d.isFile).mergeSort isEarlier

/-- The files below a folder, seen from it, whose own names fit a pattern. -/
def search (d : Disk) (folder : List Text) (pattern : Text) : List (List Text) :=
  (d.filesBelow folder).filter fun n => n.getLast?.any (Pattern.fits pattern)

/-- Whether a name is hidden. -/
def isHidden (name : Text) : Bool := name.head? == some '.'

/-- The names in a folder that fit a pattern and are not hidden, in order. -/
def look (d : Disk) (folder : List Text) (pattern : Text) : List Text :=
  let names := (d.namesBelow folder fun _ => true).filterMap fun n =>
    match n with
    | [name] => if !isHidden name && Pattern.fits pattern name then some name else none
    | _ => none
  Text.sortBy id names

/-- The file that makes a folder a package. -/
def packageMark : Text := "__init__.py".toList

/-- Whether a folder, seen from an outer one, is a package within packages. A
    name with a dot in it cannot be written in a dotted name. -/
def isPackage (d : Disk) (folder n : List Text) : Bool :=
  !n.any (·.contains '.') &&
    (List.range n.length).all fun k => d.isFile (folder ++ n.take (k + 1) ++ [packageMark])

/-- The patterns of packages that are never meant: the program that installs the
    tools for packages, and what is kept of compiled files. -/
def neverPackages : List Text := ["ez_setup".toList, "*__pycache__".toList]

/-- The dotted names of the packages below a folder, in order, but for those that
    are never meant and those that fit one of some patterns. -/
def packages (d : Disk) (folder : List Text) (excluded : List Text) : List Text :=
  let found := (d.namesBelow folder d.isFolder).filter (d.isPackage folder)
  Text.sortBy id ((found.map (Text.join ['.'])).filter fun name =>
    !(neverPackages ++ excluded).any fun pattern => Pattern.fits pattern name)

/-- Everything that a search finds is a file below the folder. -/
theorem mem_filesBelow_of_mem_search {d : Disk} {folder n : List Text} {pattern : Text}
    (h : n ∈ d.search folder pattern) : n ∈ d.filesBelow folder := (List.mem_filter.mp h).1

end Disk

end DiceRoller
