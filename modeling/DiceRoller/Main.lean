import DiceRoller.Site

/-!
# The program

The command line of the program. What it does is decided by `Site.run`; here the
words are taken from the shell, the moment from the clock and the settings from
the file that is named, and what was put out is printed. Without a file the
standard settings hold.

Where draws come from is not the program's to say. It is given a generator, which it
seeds once and then takes every draw from.

Journals live on the disk of a site. This program does not write that disk back,
so it keeps none.

## Main definitions

* `Program.site`: The site for a request.
* `Program.run`: The program on the words of a command line.
-/

namespace DiceRoller

namespace Program

/-- The site for a request, in a home, with the text of the file that it names if
    there is one. -/
def site (home : Text) (named : Option (Text × Text)) : Site :=
  let path := Path.join home ["data".toList, "config.yml".toList]
  let disk := ({} : Disk).place path (Document.write Settings.standard)
  { root := home, home := home, keepsJournals := false
    disk := named.elim disk fun file => disk.place file.1 file.2 }

/-- The path of the file that the words of a command line name. -/
def namedPath? (home : Text) (words : List Text) : Option Text :=
  match Request.read words with
  | .ok { config := some (.value path), .. } => some (Path.absolute home path)
  | _ => none

/-- The seed that the words of a command line lead to at a moment. -/
def seedFor (words : List Text) (moment : Int) : Int :=
  match Request.read words with
  | .ok r => (Command.seedOf? r moment).getD 0
  | .error _ => Seed.ofInt moment

/-- The path and the text of a file, if it can be read. -/
def contents? (path : Text) : IO (Option (Text × Text)) := do
  try
    let t ← IO.FS.readFile (String.ofList path)
    return some (path, t.toList)
  catch _ => return none

/-- The exit code of an ending, once it is printed. -/
def settle (e : Command.Ending) : IO UInt32 := do
  match e with
  | .finished code out err =>
    IO.print (String.ofList out)
    IO.eprint (String.ofList err)
    return code.toUInt32
  | .broken _ =>
    IO.eprintln "dicenote: error: The settings cannot be used."
    return 1

/-- Runs the program on the words of a command line; the result is its exit code. The
    generator makes the draws of a seed. -/
def run (generator : Nat → Draws) (words : List Text) : IO UInt32 := do
  let home := (← IO.currentDir).toString.toList
  let nanos ← IO.monoNanosNow
  let moment := Seed.ofClock (nanos / 1000000000 : Nat) (nanos / 1000 % 1000000)
  let named ← match namedPath? home words with
    | some path => contents? path
    | none => pure none
  let draws := generator (seedFor words moment).toNat
  settle ((site home named).run moment words draws).ending

end Program

end DiceRoller
