import DiceRoller.Disk
import DiceRoller.Journal.Style
import DiceRoller.Settings
import DiceRoller.Text.Order

/-!
# Layouts

How the journals are kept, as a document says it. The document names styles,
outlets that write records down, and branches of the tree of journals with the
outlets that they use. Everything is checked while it is read, and what is read
here needs no disk: an outlet that writes to a file knows its path and nothing
else.

A missing part of the document is an empty one. A part that is no mapping cannot
be gone through, which is a different fault from a part with wrong contents.

## Main definitions

* `Layout.Fault`: Why a document is no layout.
* `Layout.styles`: The named styles of a document.
* `Layout.folders`: The folders that a document needs.
* `Layout.outlets`, `Layout.branches`: Its outlets and branches.
* `Outlet.Sink`: Where an outlet writes to.
* `Branch`: A journal with its level and its outlets.
* `Branch.heed`: A journal after an entry about it.
-/

namespace DiceRoller

namespace Layout

/-- Why a document is no layout. -/
inductive Fault where
  /-- Something is missing that has to be there, or has the wrong form. -/
  | lookup (f : Settings.Fault)
  /-- Something is there that cannot be used. -/
  | invalid
deriving DecidableEq

/-- The entries of a part of a document. An empty list or text has none. -/
def entriesOf : Option Value → Except Fault (List (Text × Value))
  | none => .ok []
  | some (.dict entries) => .ok entries
  | some (.list []) => .ok []
  | some (.text []) => .ok []
  | some (.list _) => .error .invalid
  | some (.text _) => .error .invalid
  | some _ => .error (.lookup .unfit)

/-- The weight that a level in a document has, by its name or in figures. -/
def weight? : Value → Option Int
  | .int n => some n
  | .bool b => some (if b then 1 else 0)
  | .text t => (Level.named? t).map fun l => (l.weight : Int)
  | _ => none

/-- The weight of a level that may be left out. -/
def weightOr (otherwise : Int) : Option Value → Except Fault Int
  | none => .ok otherwise
  | some .null => .ok otherwise
  | some v =>
    match weight? v with
    | some n => .ok n
    | none => .error .invalid

/-- The value of an entry. -/
def part? (name : String) (entries : List (Text × Value)) : Option Value :=
  Value.get? name.toList entries

/-- The entry of a document as far as it says anything. -/
def said? (name : String) (entries : List (Text × Value)) : Option Value :=
  (part? name entries).filter fun v => !v.isVacant

/-- The names of the classes of styles. -/
def styleClasses : List String := ["logging.Formatter", "dicenote.util.ModFormatter"]

/-- The style that an entry describes. -/
def style (v : Value) : Except Fault Style :=
  match v with
  | .dict entries =>
    let known := match said? "class" entries with
      | none => true
      | some (.text t) => styleClasses.contains (String.ofList t)
      | some _ => false
    if !known then .error .invalid
    else
      match said? "format" entries with
      | none => .ok .plain
      | some (.text t) =>
        match Style.read? t with
        | some s => .ok s
        | none => .error .invalid
      | some _ => .error .invalid
  | _ => .error .invalid

/-- The named styles of a document. -/
def styles (v : Option Value) : Except Fault (List (Text × Style)) := do
  (← entriesOf v).mapM fun e => do return (e.1, ← style e.2)

end Layout

namespace Outlet

/-- A page as an outlet uses it. -/
structure Filing where
  /-- The path of its name. -/
  path : Text
  /-- How it is opened. -/
  opening : Disk.Opening
  /-- Whether it is opened only when there is something to write. -/
  isLate : Bool
deriving DecidableEq

/-- Where an outlet writes to. -/
inductive Sink where
  /-- The output of the program. -/
  | output
  /-- Its output for errors. -/
  | errors
  /-- A page that grows. -/
  | page (f : Filing)
  /-- A page that is put aside at every start. A number says how many older pages
      are kept; without one the page cannot be put aside. -/
  | series (f : Filing) (keep : Option Int)
deriving DecidableEq

/-- The page that a sink writes to, if it is one. -/
def Sink.filing? : Sink → Option Filing
  | .output => none
  | .errors => none
  | .page f => some f
  | .series f _ => some f

/-- The arguments that outlets of a class may have. -/
def arguments? (t : Text) : Option (List String) :=
  match String.ofList t with
  | "logging.StreamHandler" => some ["stream"]
  | "logging.FileHandler" => some ["filename", "mode", "encoding", "delay", "errors"]
  | "logging.handlers.RotatingFileHandler" =>
    some ["filename", "mode", "maxBytes", "backupCount", "encoding", "delay", "errors"]
  | _ => none

/-- The entries of an outlet that are no arguments of its class. -/
def common : List String := ["class", "formatter", "level", "filters"]

/-- How many older pages are kept of a series. A number with a fraction cannot be
    counted to, but one that is not above zero is as good as none. -/
def keep? : Value → Option Int
  | .decimal written => if 0 < Value.number written then none else some 0
  | v => v.asNumber?

/-- The way of opening that a text names: one letter for the way, and a plus or
    the letter for texts anywhere beside it. -/
def opening? (t : Text) : Option Disk.Opening :=
  if t.eraseDups.length < t.length then none
  else
    match t.filter fun c => c != '+' && c != 't' with
    | ['a'] => some .behind
    | ['w'] => some .anew
    | ['x'] => some .first
    | _ => none

/-- How a page is opened, by what a document says about it. -/
def opening (v : Option Value) : Except Layout.Fault Disk.Opening :=
  match v with
  | none => .ok .behind
  | some (.text t) =>
    match opening? t with
    | some how => .ok how
    | none => .error .invalid
  | some _ => .error .invalid

/-- Whether a page can be full, if a value can be its size. -/
def isBounded? : Value → Option Bool
  | .int n => some (0 < n)
  | .bool b => some b
  | .decimal written => some (0 < Value.number written)
  | .infinite below => some !below
  | .undefined => some false
  | _ => none

/-- The ways of writing code points as bytes that agree on what is written here. -/
def encodings : List String :=
  ["utf8", "utf_8", "u8", "utf", "utf8_ucs2", "utf8_ucs4", "cp65001", "ascii", "us_ascii", "646",
    "ansi_x3.4_1968", "iso646_us", "latin1", "latin_1", "latin", "l1", "iso8859_1", "iso_8859_1",
    "iso8859", "8859", "cp819", "cp1252", "locale"]

/-- Whether a text names a way of writing code points as bytes. Capitals do not
    matter, and a hyphen or a blank is as good as an underscore. -/
def isEncoding (t : Text) : Bool :=
  encodings.contains (String.ofList (t.map fun c =>
    if c == '-' || c == ' ' then '_' else c.toLower))

/-- Where an outlet to a stream writes to. -/
def stream (v : Option Value) : Except Layout.Fault Sink :=
  match v with
  | none => .ok .errors
  | some .null => .ok .errors
  | some (.text t) =>
    if t == "ext://sys.stderr".toList then .ok .errors
    else if t == "ext://sys.stdout".toList then .ok .output
    else .error .invalid
  | some _ => .error .invalid

/-- The page that entries describe. One that can be full is never dropped. -/
def filing (entries : List (Text × Value)) (isBounded : Bool) : Except Layout.Fault Filing :=
  match Layout.part? "filename" entries with
  | some (.text path) => do
    let how ←
      if isBounded then .ok Disk.Opening.behind else opening (Layout.part? "mode" entries)
    return ⟨path, how, (Layout.said? "delay" entries).isSome⟩
  | _ => .error .invalid

/-- The sink that entries describe. -/
def sink (entries : List (Text × Value)) : Except Layout.Fault Sink :=
  match Layout.part? "class" entries with
  | some (.text name) =>
    match arguments? name with
    | none => .error .invalid
    | some arguments =>
      if entries.any fun e => !(arguments ++ common).contains (String.ofList e.1) then
        .error .invalid
      else if arguments.contains "stream" then stream (Layout.part? "stream" entries)
      else if arguments.contains "backupCount" then
        match isBounded? ((Layout.part? "maxBytes" entries).getD (.int 0)) with
        | none => .error .invalid
        | some isBounded =>
          (filing entries isBounded).map fun f =>
            .series f (keep? ((Layout.part? "backupCount" entries).getD (.int 0)))
      else (filing entries false).map .page
  | _ => .error .invalid

end Outlet

/-- A journal with what is said about it. -/
structure Branch where
  /-- The name of the journal. The one that all others are below has no name. -/
  name : Text
  /-- The least weight that it takes; zero if the journal above it decides. -/
  weight : Int
  /-- The names of its outlets. -/
  outlets : List Text
  /-- Whether its records go to the journal above it, too. -/
  passesOn : Bool

namespace Branch

/-- The names in a list of outlets. The code points of a text count as names. -/
def names : Option Value → Except Layout.Fault (List Text)
  | none => .ok []
  | some v =>
    if v.isVacant then .ok []
    else
      match v with
      | .list items => items.mapM fun i => match i with
        | .text t => .ok t
        | _ => .error .invalid
      | .text t => .ok (t.map fun c => [c])
      | .dict entries => .ok (entries.map (·.1))
      | _ => .error .invalid

/-- The name of a journal as it is used. The one that all others are below may
    also be called the root. -/
def called (t : Text) : Text := if t == "root".toList then [] else t

/-- A journal of which nothing is said. The one that all others are below takes
    warnings and what weighs more. -/
def unsaid (name : Text) : Branch := ⟨name, if name.isEmpty then 30 else 0, [], true⟩

/-- A journal after an entry about it. The outlets are always replaced, and what
    else the entry does not say stays as it is. -/
def heed (b : Branch) (known : List Text) (v : Value) : Except Layout.Fault Branch := do
  match v with
  | .dict entries =>
    let weight ← Layout.weightOr b.weight (Layout.part? "level" entries)
    let outlets ← names (Layout.part? "handlers" entries)
    if outlets.any fun n => !known.contains n then .error .invalid
    else
      let passesOn := match Layout.part? "propagate" entries with
        | none => b.passesOn
        | some .null => b.passesOn
        | some v => !v.isVacant
      return { b with weight := weight, outlets := outlets.eraseDups, passesOn := passesOn }
  | _ => .error .invalid

/-- Journals after one more entry, which may be about one of them. -/
def heedIn (known : List Text) (branches : List Branch) (e : Text × Value) :
    Except Layout.Fault (List Branch) := do
  let name := called e.1
  let b := (branches.find? fun b => b.name == name).getD (unsaid name)
  return branches.filter (fun b => b.name != name) ++ [← b.heed known e.2]

end Branch

namespace Layout

/-- The folder that has to be there for one outlet of a document. An outlet that
    writes to no file needs none. -/
def folder? (outlets key : Value) : Except Settings.Fault (Option Text) :=
  match (outlets.under key).bind fun o => o.under (.text "filename".toList) with
  | .ok (.text path) => .ok (some (Path.parent path))
  | .ok _ => .error .unfit
  | .error .missing => .ok none
  | .error f => .error f

/-- The folders for outlets up to the first that is wrong, and the fault if there
    is one. -/
def foldersUpTo (outlets : Value) : List Value → List Text × Option Settings.Fault
  | [] => ([], none)
  | key :: rest =>
    match folder? outlets key with
    | .error f => ([], some f)
    | .ok path? =>
      let (paths, fault) := foldersUpTo outlets rest
      (path?.toList ++ paths, fault)

/-- The folders that have to be there for the outlets of a document, in its
    order, up to the first outlet that is wrong. -/
def folders (document : Value) : List Text × Option Settings.Fault :=
  match document.under (.text "handlers".toList) with
  | .error f => ([], some f)
  | .ok outlets =>
    match outlets with
    | .dict entries => foldersUpTo outlets (entries.map fun e => .text e.1)
    | .list items => foldersUpTo outlets items
    | .text t => foldersUpTo outlets (t.map fun c => .text [c])
    | _ => ([], some .unfit)

/-- Whether a document says that it is of the version that is understood here. -/
def hasVersion (entries : List (Text × Value)) : Bool :=
  match part? "version" entries with
  | some (.int n) => n == 1
  | some (.bool b) => b
  | some (.decimal written) => Value.number written == 1
  | _ => false

/-- The branches of a document, after all that is said about them. -/
def branches (known : List Text) (entries : List (Text × Value)) :
    Except Fault (List Branch) := do
  let named ← (← entriesOf (part? "loggers" entries)).foldlM (Branch.heedIn known) []
  match said? "root" entries with
  | none => return named
  | some v => Branch.heedIn known named ([], v)

/-- The outlets of a document in the order of their names. -/
def outlets (entries : List (Text × Value)) : List (Text × Value) :=
  match part? "handlers" entries with
  | some (.dict outlets) => Text.sortBy (·.1) outlets
  | _ => []

end Layout

end DiceRoller
