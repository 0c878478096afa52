import DiceRoller.Command
import DiceRoller.Journal.Desk

/-!
# Sites

The place where commands run: a root that the program's own files are below, a
home that relative paths start from, and a disk. A command finds its settings in
a document on the disk, and, if it is to keep journals, how they are kept in
another one that the settings name. Opening the journals comes before everything
else, and what they take down may go to the same outputs as the report.

## Main definitions

* `Site`: Where commands run.
* `Site.settingsPath`: The document with the settings of a request.
* `Site.openJournals`: The desk of a request.
* `Site.run`: What a command line does at a site.
-/

namespace DiceRoller

/-- Where commands run. -/
structure Site where
  /-- What the program's own files are below. -/
  root : Text
  /-- Where relative paths start. -/
  home : Text
  /-- The disk. -/
  disk : Disk
  /-- Whether journals are kept when a command asks for them. -/
  keepsJournals : Bool

namespace Site

/-- The document with the settings of a request. -/
def settingsPath (s : Site) (r : Request) : Text :=
  match r.config with
  | some (.value (c :: path)) => Path.absolute s.home (c :: path)
  | _ => Path.join s.root ["data".toList, "config.yml".toList]

/-- The value of a document that a command needs; otherwise the command ends. -/
def document (s : Site) (path : Text) : Except Command.Ending Value :=
  match s.disk.text path with
  | .error .nothing => .error (.missingFile path)
  | .error o => .error (.broken (.blocked o))
  | .ok t =>
    match Document.read t with
    | .ok v => .ok v
    | .error f => .error (.broken (.unreadable f))

/-- The settings for a request as they are on the disk. -/
def settings (s : Site) (r : Request) : Except Command.Ending Value :=
  s.document (s.settingsPath r)

/-- The fault of a desk that cannot be opened, as the fault of the command. -/
def ofDeskFault : Desk.Fault → Command.Fault
  | .layout (.lookup f) => .setting f
  | .layout .invalid => .invalid
  | .blocked o => .blocked o

/-- The document that says how the journals of a request are kept. -/
def layout (s : Site) (r : Request) : Except Command.Ending Value := do
  let settings ← s.settings r
  match settings.setting (Settings.way ["paths", "log_conf"]) .null with
  | .error f => .error (.broken (.setting f))
  | .ok (.text path) => s.document (Path.join s.root [path])
  | .ok _ => .error (.broken (.setting .unfit))

/-- The desk of a request, with the disk on which it is open. -/
def openJournals (s : Site) (r : Request) : Disk × Except Command.Ending Desk :=
  match s.layout r with
  | .error e => (s.disk, .error e)
  | .ok v =>
    match Desk.start s.home s.disk v with
    | (d, .ok desk) => (d, .ok desk)
    | (d, .error f) => (d, .error (.broken (ofDeskFault f)))

/-- What a command line does at a site. -/
structure Outcome where
  /-- The site afterwards. -/
  site : Site
  /-- Whether journals were asked for. -/
  asked : Bool
  /-- What was put out before the command ended, apart for errors. -/
  aside : Text × Text
  /-- How the command ended. -/
  ending : Command.Ending
  /-- What was noted. -/
  records : List Record
  /-- The draws that are left. -/
  draws : Draws

/-- What a request does at a site without journals. -/
def runQuietly (s : Site) (r : Request) (moment : Int) (draws : Draws) : Outcome :=
  let p := Command.perform (s.settings r) r moment draws
  ⟨s, r.log, ([], []), p.ending, p.records, p.draws⟩

/-- What a request does at a site with journals. The settings are read once the seed
    is noted, and a journal may have been kept in their file. -/
def runAloud (s : Site) (r : Request) (moment : Int) (draws : Draws) : Outcome :=
  match s.openJournals r with
  | (d, .error e) => ⟨{ s with disk := d }, true, ([], []), e, [], draws⟩
  | (d, .ok desk) =>
    match Command.seedOf? r moment with
    | none => ⟨{ s with disk := d }, true, ([], []), .broken .noNumber, [], draws⟩
    | some seed =>
      let first := Command.ofSeed seed
      let t := Desk.deliver { desk := desk, disk := d } first
      let p := Command.performOn ({ s with disk := t.disk }.settings r) r draws
      let t := p.records.foldl Desk.deliver t
      ⟨{ s with disk := t.disk }, true, (t.out, t.err), p.ending, first :: p.records, p.draws⟩

/-- What a command line does at a site, at a moment that a seed can be taken
    from. -/
def run (s : Site) (moment : Int) (words : List Text) (draws : Draws) : Outcome :=
  match Request.read words with
  | .error u => ⟨s, false, ([], []), Command.settle u, [], draws⟩
  | .ok r =>
    if r.log && s.keepsJournals then s.runAloud r moment draws
    else s.runQuietly r moment draws

end Site

end DiceRoller
