import DiceRoller.Journal.Layout

/-!
# Desks

The journals as they are kept while the program runs. Opening a desk prepares the
disk in a fixed order: first the folders of all outlets, then the page of each
outlet in the order of their names, and at last every series that is used by the
program's own journal is put aside, so that it starts with an empty page. What
was done before a fault stays done.

A record belongs to a journal. The nearest journal on the way to the root that
has a weight of its own decides whether the record is taken at all. Then it goes
to the outlets of its journal and, as long as records are passed on, to those of
the journals above, and each outlet looks only at its own weight.

## Main definitions

* `Desk.Fault`: Why a desk cannot be opened.
* `Desk`: Open outlets and the branches that use them.
* `Disk.putAside`: A page becomes the first of the older pages of its series.
* `Desk.start`: The desk for a document.
* `Desk.deliver`: What writing a record leaves behind.
-/

namespace DiceRoller

namespace Desk

/-- Why a desk cannot be opened. -/
inductive Fault where
  /-- The document is no layout. -/
  | layout (f : Layout.Fault)
  /-- Something is in the way of a folder or of an older page. -/
  | blocked (o : Disk.Obstacle)
deriving DecidableEq

/-- An outlet that is ready to write. -/
structure Outlet where
  /-- Where it writes to. -/
  sink : DiceRoller.Outlet.Sink
  /-- The page that it writes to, if any. -/
  page : Option Nat
  /-- How it writes. -/
  style : Style
  /-- The least weight that it writes. -/
  weight : Int

end Desk

/-- Open outlets and the branches that use them. -/
structure Desk where
  /-- The folder that paths are seen from. -/
  home : Text
  /-- The outlets with their names. -/
  outlets : List (Text × Desk.Outlet)
  /-- The branches. -/
  branches : List Branch

namespace Disk

/-- The name of an older page of a series. -/
def older (p : List Text) (i : Nat) : List Text :=
  p.dropLast ++ [p.getLast?.getD [] ++ '.' :: Text.ofNat i]

/-- The disk with a page or a folder renamed to another name in its folder. What
    has that name is removed, which a folder cannot be. -/
def replace (d : Disk) (p q : List Text) : Disk × Option Obstacle :=
  match d.lookup? q with
  | some .folder => (d, some .folder)
  | some _ => ((d.remove q).move p q, none)
  | none => if isUsable q then (d.move p q, none) else (d, some .tooLong)

/-- The older pages of a series moved one place back, beginning with page `i`, up
    to the first obstacle. -/
def shift (d : Disk) (p : List Text) : Nat → Disk × Option Obstacle
  | 0 => (d, none)
  | i + 1 =>
    if (d.lookup? (older p (i + 1))).isSome then
      match d.replace (older p (i + 1)) (older p (i + 2)) with
      | (d, none) => shift d p i
      | stopped => stopped
    else shift d p i

/-- The disk on which a page has become the first of at most `keep` older pages.
    Without older pages it stays as it is. -/
def putAside (d : Disk) (p : List Text) (keep : Nat) : Disk × Option Obstacle :=
  match keep with
  | 0 => (d, none)
  | n + 1 =>
    match d.shift p n with
    | (d, none) => d.replace p (older p 1)
    | stopped => stopped

end Disk

namespace Desk

/-- The name that a path has on the disk, seen from a folder. -/
def nameOf (home path : Text) : List Text := Path.absoluteSegments home path

/-- The style of an outlet. -/
def styleOf (styles : List (Text × Style)) (entries : List (Text × Value)) :
    Except Layout.Fault Style :=
  match Layout.said? "formatter" entries with
  | none => .ok .plain
  | some (.text t) =>
    match styles.find? fun s => s.1 == t with
    | some s => .ok s.2
    | none => .error .invalid
  | some _ => .error .invalid

/-- Whether a value can say what code points are to be written as. -/
def isEncodingName : Option Value → Bool
  | none => true
  | some .null => true
  | some (.text t) => !Path.isBroken t
  | some _ => false

/-- Whether code points can be written as a value says. -/
def isEncoding : Option Value → Bool
  | some (.text t) => DiceRoller.Outlet.isEncoding t
  | _ => true

/-- The page of a sink, opened on the disk unless it is opened late. What code
    points are to be written as is looked at only once the page is there. -/
def openSink (home : Text) (d : Disk) (encoding : Option Value)
    (sink : DiceRoller.Outlet.Sink) : Disk × Except Layout.Fault (Option Nat) :=
  match sink.filing? with
  | none => (d, .ok none)
  | some f =>
    if f.isLate then (d, .ok none)
    else if !isEncodingName encoding then (d, .error .invalid)
    else
      match d.openPage? f.opening (nameOf home f.path) with
      | none => (d, .error .invalid)
      | some (id, d) => (d, if isEncoding encoding then .ok (some id) else .error .invalid)

/-- The outlet that an entry describes, with the disk on which it is open. Its
    weight is looked at last, so a wrong one leaves the page behind. -/
def openOutlet (home : Text) (styles : List (Text × Style)) (d : Disk) (v : Value) :
    Disk × Except Layout.Fault Outlet :=
  match v with
  | .dict entries =>
    match styleOf styles entries, DiceRoller.Outlet.sink entries with
    | .error f, _ => (d, .error f)
    | .ok _, .error f => (d, .error f)
    | .ok style, .ok sink =>
      match openSink home d (Layout.part? "encoding" entries) sink with
      | (d, .error f) => (d, .error f)
      | (d, .ok page) =>
        (d, (Layout.weightOr 0 (Layout.part? "level" entries)).map fun w => ⟨sink, page, style, w⟩)
  | _ => (d, .error .invalid)

/-- The outlets that entries describe, one after another. -/
def openOutlets (home : Text) (styles : List (Text × Style)) (d : Disk) :
    List (Text × Value) → Disk × Except Layout.Fault (List (Text × Outlet))
  | [] => (d, .ok [])
  | e :: rest =>
    match openOutlet home styles d e.2 with
    | (d, .error f) => (d, .error f)
    | (d, .ok o) =>
      let (d, others) := openOutlets home styles d rest
      (d, others.map ((e.1, o) :: ·))

/-- The name of the program's own journal. -/
def own : Text := "dicenote".toList

/-- The names of the outlets that a journal uses itself. -/
def used (branches : List Branch) (name : Text) : List Text :=
  ((branches.find? fun b => b.name == name).map (·.outlets)).getD []

/-- What is in the way of a page that is opened again. -/
def again (f : DiceRoller.Outlet.Filing) : Disk.Obstacle :=
  if f.opening = .first then .taken else .folder

/-- An outlet at the start of the program: a series is put aside, and its page is
    opened again unless that is done late. -/
def renew (home : Text) (d : Disk) (o : Outlet) : Disk × Except Fault Outlet :=
  match o.sink with
  | .series _ none => (d, .error (.layout (.lookup .unfit)))
  | .series f (some keep) =>
    match d.putAside (nameOf home f.path) keep.toNat with
    | (d, some o) => (d, .error (.blocked o))
    | (d, none) =>
      if f.isLate then (d, .ok o)
      else
        match d.openPage? f.opening (nameOf home f.path) with
        | some (id, d) => (d, .ok { o with page := some id })
        | none => (d, .error (.blocked (again f)))
  | _ => (d, .ok o)

/-- The named outlets renewed one after another. -/
def renewAll (home : Text) (d : Disk) (outlets : List (Text × Outlet)) :
    List Text → Disk × Except Fault (List (Text × Outlet))
  | [] => (d, .ok outlets)
  | name :: rest =>
    match (outlets.find? fun e => e.1 == name) with
    | none => renewAll home d outlets rest
    | some e =>
      match renew home d e.2 with
      | (d, .error f) => (d, .error f)
      | (d, .ok o) =>
        renewAll home d (outlets.map fun e => if e.1 == name then (name, o) else e) rest

/-- The folders of the outlets of a document, made on the disk. Most obstacles
    show only when the outlets are opened; a path that is broken, or too deep to
    be made, is a fault at once. -/
def makeFolders (home : Text) (d : Disk) : List Text → Disk × Option Disk.Obstacle
  | [] => (d, none)
  | p :: rest =>
    match d.tryFolders home p with
    | (d, some .broken) => (d, some .broken)
    | (d, some .tooDeep) => (d, some .tooDeep)
    | (d, _) => makeFolders home d rest

/-- The desk of a document whose folders are there. -/
def lay (home : Text) (d : Disk) (entries : List (Text × Value)) :
    Disk × Except Fault Desk :=
  if !Layout.hasVersion entries then (d, .error (.layout .invalid))
  else
    match Layout.styles (Layout.part? "formatters" entries) with
    | .error f => (d, .error (.layout f))
    | .ok styles =>
      match openOutlets home styles d (Layout.outlets entries) with
      | (d, .error _) => (d, .error (.layout .invalid))
      | (d, .ok outlets) =>
        match Layout.branches (outlets.map (·.1)) entries with
        | .error f => (d, .error (.layout f))
        | .ok branches =>
          let (d, renewed) := renewAll home d outlets (used branches own)
          (d, renewed.map fun outlets => ⟨home, outlets, branches⟩)

/-- The desk for a document, with the disk on which it is open. The folders of
    the outlets before a wrong one are made all the same. -/
def start (home : Text) (d : Disk) (document : Value) : Disk × Except Fault Desk :=
  let (folders, fault) := Layout.folders document
  match makeFolders home d folders, fault, document with
  | (d, some o), _, _ => (d, .error (.blocked o))
  | (d, none), some f, _ => (d, .error (.layout (.lookup f)))
  | (d, none), none, .dict entries => lay home d entries
  | (d, none), none, _ => (d, .error (.layout .invalid))

/-- The names of a journal and of those above it, the nearest first. -/
def lineage (journal : Text) : List Text :=
  let segs := Text.splitOn '.' journal
  (List.range segs.length).map (fun n => Text.join ['.'] (segs.take (segs.length - n))) ++ [[]]

/-- The weight that a record of a journal needs. The journal that all others are
    below has one of its own. -/
def threshold (desk : Desk) (journal : Text) : Int :=
  ((lineage journal).findSome? fun name =>
    match desk.branches.find? fun b => b.name == name with
    | some b => if b.weight = 0 && !name.isEmpty then none else some b.weight
    | none => none).getD 30

/-- The names of the outlets that a record of a journal reaches. -/
def reached (desk : Desk) : List Text → List Text
  | [] => []
  | name :: above =>
    match desk.branches.find? fun b => b.name == name with
    | none => reached desk above
    | some b => b.outlets ++ if b.passesOn then reached desk above else []

/-- The names of the outlets that write a record. -/
def receivers (desk : Desk) (r : Record) : List Text :=
  if r.level.weight < desk.threshold r.journal then [] else desk.reached (lineage r.journal)

/-- What records leave behind. -/
structure Trace where
  /-- The desk. -/
  desk : Desk
  /-- The disk. -/
  disk : Disk
  /-- What was written to the output. -/
  out : Text := []
  /-- What was written to the output for errors. -/
  err : Text := []

/-- What is left behind once the page of an outlet is open, and the page, if there
    is one. -/
def reach (t : Trace) (name : Text) (o : Outlet) : Trace × Option Nat :=
  match o.page, o.sink.filing? with
  | some id, _ => (t, some id)
  | none, none => (t, none)
  | none, some f =>
    match t.disk.openPage? f.opening (nameOf t.desk.home f.path) with
    | none => (t, none)
    | some (id, d) =>
      let outlets := t.desk.outlets.map fun e =>
        if e.1 == name then (name, { o with page := some id }) else e
      ({ t with desk := { t.desk with outlets := outlets }, disk := d }, some id)

/-- A record written by one outlet. -/
def put (r : Record) (t : Trace) (name : Text) : Trace :=
  match (t.desk.outlets.find? fun e => e.1 == name).map (·.2) with
  | none => t
  | some o =>
    if (r.level.weight : Int) < o.weight then t
    else
      let line := o.style.line r ++ ['\n']
      match o.sink with
      | .output => { t with out := t.out ++ line }
      | .errors => { t with err := t.err ++ line }
      | _ =>
        match reach t name o with
        | (t, some id) => { t with disk := t.disk.write id line }
        | (t, none) => t

/-- What writing a record leaves behind. -/
def deliver (t : Trace) (r : Record) : Trace := (t.desk.receivers r).foldl (put r) t

end Desk

end DiceRoller
