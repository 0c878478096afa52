import DiceRoller.Text.Numeral

/-!
# Switches

The options of the command line. Each has a long spelling, and some have a short
one, which is a dash and a letter. A switch that takes an argument finds it
attached to its spelling or in the next word.

## Main definitions

* `Switch`: The options.
* `Switch.spellings`: How an option is spelled.
* `Switch.title`: How an option is called in a message.
* `Switch.spelled?`: The option with a spelling.
* `Switch.isShort`: Whether a spelling is a dash and a letter.
* `Switch.beginning`: The long spellings that begin with a text.
-/

namespace DiceRoller

/-- The options of the command line. -/
inductive Switch where
  /-- Show how the program is used. -/
  | help
  /-- Roll several times. -/
  | repeat
  /-- Start from a given seed. -/
  | seed
  /-- Use other settings. -/
  | config
  /-- Keep no journal. -/
  | noLog
deriving DecidableEq

namespace Switch

/-- How an option is spelled, its short spelling first. -/
def spellings : Switch → List Text
  | .help => ["-h".toList, "--help".toList]
  | .repeat => ["-n".toList, "--repeat".toList]
  | .seed => ["--seed".toList]
  | .config => ["--config".toList]
  | .noLog => ["--no-log".toList]

/-- How an option is called in a message. -/
def title (s : Switch) : Text := Text.join ['/'] s.spellings

/-- Whether an option takes an argument. -/
def takesArgument : Switch → Bool
  | .help => false
  | .repeat => true
  | .seed => true
  | .config => true
  | .noLog => false

/-- Every option, in the order in which they are shown. -/
def all : List Switch := [.help, .repeat, .seed, .config, .noLog]

/-- Every spelling with its option. -/
def table : List (Text × Switch) := all.flatMap fun s => s.spellings.map fun t => (t, s)

/-- The option with a spelling. -/
def spelled? (t : Text) : Option Switch := (table.find? fun e => e.1 == t).map (·.2)

/-- Whether a spelling is a dash and a letter. -/
def isShort (spelling : Text) : Bool := spelling.length == 2

/-- The spellings that begin with a text, with their options. -/
def beginning (t : Text) : List (Text × Switch) := table.filter fun e => Text.startsWith t e.1

theorem spelled?_of_mem {s : Switch} {t : Text} (h : t ∈ s.spellings) : spelled? t = some s := by
  cases s <;> simp only [spellings, List.mem_cons, List.not_mem_nil, or_false] at h
  -- Every spelling is looked up on its own.
  · rcases h with rfl | rfl <;> decide
  · rcases h with rfl | rfl <;> decide
  · subst h; decide
  · subst h; decide
  · subst h; decide

end Switch

end DiceRoller
