import DiceRoller.Path

/-!
# Disks

Files and folders, as far as journals need them. A name on the disk leads to a
folder or to a page of text. Pages are numbered apart from their names, so a page
that is being written can be renamed, and what is written later still goes to it.

Paths are given as segments from the root of all files, which is itself a folder
and has no name.

## Main definitions

* `Disk`: What names lead to, and the pages.
* `Disk.Obstacle`: Why a name cannot be used.
* `Disk.tryFolders`: Makes the folders of a path up to the first obstacle.
* `Disk.Opening`: How a page is opened.
* `Disk.openPage?`: The page with a name, opened.
* `Disk.write`: Text added to a page.
* `Disk.move`, `Disk.remove`: Renaming and removing.
* `Disk.text`: The text at a path.
* `Disk.listing`: The pages and empty folders below a folder.
-/

namespace DiceRoller

namespace Disk

/-- What a name leads to. -/
inductive Entry where
  /-- A folder. -/
  | folder
  /-- A page, by its number. -/
  | page (id : Nat)
deriving DecidableEq

/-- How a page is opened. -/
inductive Opening where
  /-- What is written comes behind what is there. -/
  | behind
  /-- What is there is dropped. -/
  | anew
  /-- There may be nothing there. -/
  | first
deriving DecidableEq

/-- Why a name cannot be used. -/
inductive Obstacle where
  /-- There is nothing with the name. -/
  | nothing
  /-- There is something with the name. -/
  | taken
  /-- The name leads to a folder. -/
  | folder
  /-- Something on the way is no folder. -/
  | noFolder
  /-- The path or one of its segments has too many bytes. -/
  | tooLong
  /-- The path holds the code point zero. -/
  | broken
  /-- Too many folders are missing one below the other. -/
  | tooDeep
deriving DecidableEq

end Disk

/-- What names lead to, and the pages. -/
structure Disk where
  /-- The names in use. -/
  entries : List (List Text × Disk.Entry) := []
  /-- The pages by their numbers. -/
  pages : List Text := []

namespace Disk

/-- What a name leads to. -/
def lookup? (d : Disk) (p : List Text) : Option Entry :=
  if p = [] then some .folder else (d.entries.find? fun e => e.1 == p).map (·.2)

/-- Whether a name leads to a folder. -/
def isFolder (d : Disk) (p : List Text) : Bool :=
  match d.lookup? p with
  | some .folder => true
  | _ => false

/-- A new name. -/
def enter (d : Disk) (p : List Text) (e : Entry) : Disk :=
  { d with entries := d.entries ++ [(p, e)] }

/-- The folders of a path, made one after another below a folder that is there, up
    to the first obstacle. The path has `before` bytes in front of the segments. -/
def makeBelow (d : Disk) (start : List Text) (before : Nat) :
    List Text → Disk × Option Obstacle
  | [] => (d, none)
  | s :: rest =>
    let size := before + Path.bytes s
    if s.isEmpty || s == Path.here then makeBelow d start (size + 1) rest
    else if Path.isBroken s then (d, some .broken)
    else
      match d.lookup? start with
      | some .folder =>
        if s == Path.above then makeBelow d start.dropLast (size + 1) rest
        else
          let p := start ++ [s]
          if (d.lookup? p).isSome then makeBelow d p (size + 1) rest
          else if Path.isSegmentTooLong s || Path.isTooLong size then (d, some .tooLong)
          else makeBelow (d.enter p .folder) p (size + 1) rest
      | _ => (d, some .noFolder)

/-- How many segments of a path lead to nothing that is there, below a folder that
    is there. -/
def missing (d : Disk) (start : List Text) : List Text → Nat
  | [] => 0
  | s :: rest =>
    if s.isEmpty || s == Path.here then missing d start rest
    else if s == Path.above then missing d start.dropLast rest
    else if (d.lookup? (start ++ [s])).isSome then missing d (start ++ [s]) rest
    else (rest.filter fun s => !s.isEmpty).length + 1

/-- The number of missing folders from which on none of them is made. -/
def depthLimit : Nat := 985

/-- The folders of a path that is seen from a folder, made up to the first
    obstacle. -/
def tryFolders (d : Disk) (home p : Text) : Disk × Option Obstacle :=
  let start := if Path.isAbsolute p then [] else Path.absoluteSegments [] home
  let segs := Path.segments p
  if d.missing start segs < depthLimit then d.makeBelow start 0 segs else (d, some .tooDeep)

/-- The folders of a path that is given from the root, made as far as nothing is
    in the way. -/
def makeFolders (d : Disk) (p : Text) : Disk := (d.tryFolders ['/'] p).1

/-- Whether a page can be made with a name, as far as the name goes. -/
def isUsable (p : List Text) : Bool :=
  let name := p.getLast?.getD []
  !(Path.isBroken name || Path.isSegmentTooLong name ||
    Path.isTooLong (Path.bytes (Path.ofSegments p)))

/-- The page with a name, made if it is not there. Nothing can be made in what is
    no folder, and a folder is no page. -/
def reach? (d : Disk) (p : List Text) : Option (Nat × Disk) :=
  match d.lookup? p with
  | some (.page id) => some (id, d)
  | some .folder => none
  | none =>
    if d.isFolder p.dropLast && isUsable p then
      some (d.pages.length, { d with
        entries := d.entries ++ [(p, .page d.pages.length)]
        pages := d.pages ++ [[]] })
    else none

/-- The disk on which a page has a text and no other. -/
def fill (d : Disk) (id : Nat) (t : Text) : Disk := { d with pages := d.pages.set id t }

/-- The page with a name, opened. -/
def openPage? (d : Disk) (how : Opening) (p : List Text) : Option (Nat × Disk) :=
  match how with
  | .behind => d.reach? p
  | .anew => (d.reach? p).map fun r => (r.1, r.2.fill r.1 [])
  | .first => if (d.lookup? p).isSome then none else d.reach? p

/-- Text added to a page. -/
def write (d : Disk) (id : Nat) (t : Text) : Disk :=
  { d with pages := d.pages.modify id (· ++ t) }

/-- The disk without a name. What it leads to may still be in use. -/
def remove (d : Disk) (p : List Text) : Disk :=
  { d with entries := d.entries.filter fun e => e.1 != p }

/-- The disk with a name changed, and with it every name below. -/
def move (d : Disk) (p q : List Text) : Disk :=
  { d with
    entries := d.entries.map fun e =>
      if p.isPrefixOf e.1 then (q ++ e.1.drop p.length, e.2) else e }

/-- The name that a path leads to, seen from a name that is there. Every segment
    but the last must lead to a folder. -/
def walk (d : Disk) (start : List Text) : List Text → Except Obstacle (List Text)
  | [] => .ok start
  | s :: rest =>
    match d.lookup? start with
    | none => .error .nothing
    | some .folder =>
      if Path.isSegmentTooLong s then .error .tooLong
      else
        walk d
          (if s.isEmpty || s == Path.here then start
            else if s == Path.above then start.dropLast
            else start ++ [s])
          rest
    | some _ => .error .noFolder

/-- The text at a path that is given from the root. -/
def text (d : Disk) (p : Text) : Except Obstacle Text :=
  if Path.isBroken p then .error .broken
  else if Path.isTooLong (Path.bytes p) then .error .tooLong
  else do
    let name ← d.walk [] (Path.segments p)
    match d.lookup? name with
    | none => .error .nothing
    | some .folder => .error .folder
    | some (.page id) => .ok (d.pages.getD id [])

/-- A page with a text, and the folders that lead to it. -/
def place (d : Disk) (p : Text) (t : Text) : Disk :=
  let d := d.makeFolders (Path.parent p)
  match d.reach? (Path.absoluteSegments [] p) with
  | some (id, d) => d.fill id t
  | none => d

/-- The pages below a folder with their texts, and the empty folders below it
    with a slash at their ends. -/
def listing (d : Disk) (folder : List Text) : List (Text × Option Text) :=
  d.entries.filterMap fun e =>
    if folder.isPrefixOf e.1 && e.1 != folder then
      let name := Text.join ['/'] (e.1.drop folder.length)
      match e.2 with
      | .page id => some (name, some (d.pages.getD id []))
      | .folder =>
        if d.entries.any fun f => e.1.isPrefixOf f.1 && f.1 != e.1 then none
        else some (name ++ ['/'], none)
    else none

end Disk

end DiceRoller
