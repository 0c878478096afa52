import DiceRoller.Text.Words

/-!
# Courses

What a task of upkeep does is its course: the questions it asks, the programs it
runs, what it says, and how it ends. None of it touches the disk. A task hands
words to other programs, and the words are what matters.

How the person and the programs answer is not for a task to know beforehand, so it
is a value of its own, and a course is a function of it.

## Main definitions

* `Upkeep.Circumstances`: How the person and the programs answer.
* `Upkeep.Act`: One thing that a task does.
* `Upkeep.Course`: What a task does.
* `Upkeep.askAll`, `Upkeep.ask`: Asking the person.
* `Upkeep.callAll`: Running programs one after another.
-/

namespace DiceRoller

namespace Upkeep

/-- How the person and the programs answer. -/
structure Circumstances where
  /-- Whether the person agrees to everything without being asked. -/
  consent : Bool := false
  /-- What the person replies, one question after another. -/
  replies : List Text := []
  /-- The call, counted from one, whose program is not there. -/
  missing : Option Nat := none
  /-- What a program that runs alongside says apart, as errors are said. -/
  remark : Text := []
  /-- Whether a program that runs alongside is never done in time. -/
  overdue : Bool := false
  /-- The folder for what is not to be kept. -/
  spare : Text := []

/-- Where something that a program says goes. -/
inductive Stream where
  /-- Where the task's own words go. -/
  | shared
  /-- Nowhere. -/
  | dropped
  /-- Into the file that keeps nothing. -/
  | sink
  /-- Into a file. -/
  | file
deriving DecidableEq

/-- One thing that a task does. -/
inductive Act where
  /-- A question is put to the person. -/
  | asked (question : Text)
  /-- A program runs in a folder, and the task waits until it is done. -/
  | called (words : List Text) (folder : Text)
  /-- A program starts in a folder, to run alongside. -/
  | started (words : List Text) (out err : Stream) (folder : Text)
  /-- The task waits for it, some seconds at most or as long as it takes. -/
  | awaited (seconds : Option Nat)
deriving DecidableEq

/-- Why a task is broken off. -/
inductive Fault where
  /-- The person has no more replies. -/
  | noReply
  /-- A line breaks off within a word. -/
  | openWord
  /-- A program is not there. -/
  | noProgram
  /-- A program is not done in time. -/
  | overdue
  /-- What was given in place of a reply is no word. -/
  | noWord
deriving DecidableEq

/-- How a task ends. -/
inductive Ending where
  /-- It is done. -/
  | done
  /-- It gives up, with an exit code. -/
  | stopped (code : Nat)
  /-- It is broken off. -/
  | broken (f : Fault)
deriving DecidableEq

/-- What a task does. -/
structure Course where
  /-- What it does, in order. -/
  acts : List Act
  /-- What it says. -/
  said : Text
  /-- How it ends. -/
  ending : Ending
deriving DecidableEq

/-- The course with acts and words before it. -/
def Course.after (acts : List Act) (said : Text) (c : Course) : Course :=
  { c with acts := acts ++ c.acts, said := said ++ c.said }

/-- The reply to every question of a person who agrees to everything. -/
def yes : Text := "yes".toList

/-- The word on a command line that gives consent. -/
def consentWord : Text := "--yes".toList

/-- Whether the words of a command line give consent, and the words without the
    first that does. -/
def takeConsent (words : List Text) : Bool × List Text :=
  (words.contains consentWord, words.erase consentWord)

/-- Questions put one after another to a person with some replies. -/
def askEach : List Text → List Text → List Act × Option (List Text)
  | [], _ => ([], some [])
  | q :: _, [] => ([.asked q], none)
  | q :: qs, r :: rs =>
    let (acts, replies) := askEach qs rs
    (.asked q :: acts, replies.map (r :: ·))

namespace Circumstances

/-- Questions put one after another, with the replies if there are enough. -/
def askAll (w : Circumstances) (questions : List Text) : List Act × Option (List Text) :=
  if w.consent then ([], some (questions.map fun _ => yes)) else askEach questions w.replies

/-- One question, with the reply if there is one. -/
def ask (w : Circumstances) (question : Text) : List Act × Option Text :=
  let (acts, replies) := w.askAll [question]
  (acts, replies.bind List.head?)

/-- Lines handed to programs one after another in a folder, after `k` calls. The
    first that fails is the last. -/
def callFrom (w : Circumstances) (folder : Text) : Nat → List Text → List Act × Ending
  | _, [] => ([], .done)
  | k, line :: lines =>
    match Words.split? line with
    | none => ([], .broken .openWord)
    | some words =>
      if w.missing = some (k + 1) then ([.called words folder], .broken .noProgram)
      else
        let (acts, ending) := w.callFrom folder (k + 1) lines
        (.called words folder :: acts, ending)

/-- Lines handed to programs one after another in a folder. -/
def callAll (w : Circumstances) (folder : Text) (lines : List Text) : Course :=
  let (acts, ending) := w.callFrom folder 0 lines
  ⟨acts, [], ending⟩

/-- A line handed to a program that runs alongside in a folder, for some seconds
    at most or as long as it takes. -/
def start (w : Circumstances) (folder line : Text) (out err : Stream) (seconds : Option Nat) :
    Course :=
  match Words.split? line with
  | none => ⟨[], [], .broken .openWord⟩
  | some words =>
    ⟨[.started words out err folder, .awaited seconds], [],
      if w.overdue then .broken .overdue else .done⟩

/-- A person who agrees to everything is not asked. -/
theorem ask_of_consent {w : Circumstances} (h : w.consent = true) (question : Text) :
    w.ask question = ([], some yes) := by
  simp only [ask, askAll, h, if_true, List.map_cons, List.map_nil, Option.bind_some,
    List.head?_cons]

end Circumstances

end Upkeep

end DiceRoller
