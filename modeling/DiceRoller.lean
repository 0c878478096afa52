import DiceRoller.Bench.Fault
import DiceRoller.Bench.Likeness
import DiceRoller.Bench.LooseDie
import DiceRoller.Bench.LooseSelector
import DiceRoller.Bench.Question
import DiceRoller.Bench.Reading
import DiceRoller.Bench.Shelf
import DiceRoller.Bench.Step
import DiceRoller.Bench.Throwing
import DiceRoller.Command
import DiceRoller.CommandLine.Manual
import DiceRoller.CommandLine.Request
import DiceRoller.CommandLine.Switch
import DiceRoller.CommandLine.Word
import DiceRoller.Dice.Die
import DiceRoller.Dice.Draws
import DiceRoller.Dice.Roll
import DiceRoller.Dice.RollSet
import DiceRoller.Dice.Selector
import DiceRoller.Dice.Signed
import DiceRoller.Disk
import DiceRoller.Disk.Search
import DiceRoller.Document
import DiceRoller.Document.Literal
import DiceRoller.Grammar.Lexeme
import DiceRoller.Grammar.Limits
import DiceRoller.Grammar.Mistake
import DiceRoller.Grammar.Reader
import DiceRoller.Incident
import DiceRoller.Journal.Desk
import DiceRoller.Journal.Layout
import DiceRoller.Journal.Notice
import DiceRoller.Journal.Record
import DiceRoller.Journal.Style
import DiceRoller.Main
import DiceRoller.Number.Double
import DiceRoller.Number.Shortest
import DiceRoller.Path
import DiceRoller.Proofs.Bench.Building
import DiceRoller.Proofs.Bench.Chaining
import DiceRoller.Proofs.Bench.Deeds
import DiceRoller.Proofs.Bench.Filing
import DiceRoller.Proofs.Bench.Holding
import DiceRoller.Proofs.Bench.Likeness
import DiceRoller.Proofs.Bench.Making
import DiceRoller.Proofs.Bench.Parts
import DiceRoller.Proofs.Bench.Ranking
import DiceRoller.Proofs.Bench.Reading
import DiceRoller.Proofs.Bench.Rethrow
import DiceRoller.Proofs.Bench.Selecting
import DiceRoller.Proofs.Bench.Throwing
import DiceRoller.Proofs.Bench.Trees
import DiceRoller.Proofs.Bench.Twins
import DiceRoller.Proofs.Bench.Writing
import DiceRoller.Proofs.Command.Endings
import DiceRoller.Proofs.Command.Outcome
import DiceRoller.Proofs.Dice.Attainable
import DiceRoller.Proofs.Dice.Better
import DiceRoller.Proofs.Dice.Bounds
import DiceRoller.Proofs.Dice.Brevity
import DiceRoller.Proofs.Dice.Chains
import DiceRoller.Proofs.Dice.Evaluation
import DiceRoller.Proofs.Dice.Extremes
import DiceRoller.Proofs.Dice.Fairness
import DiceRoller.Proofs.Dice.Mirror
import DiceRoller.Proofs.Dice.Outcomes
import DiceRoller.Proofs.Dice.Ranks
import DiceRoller.Proofs.Dice.Span
import DiceRoller.Proofs.Dice.Standing
import DiceRoller.Proofs.Dice.Survivors
import DiceRoller.Proofs.Dice.Throws
import DiceRoller.Proofs.Dice.Twins
import DiceRoller.Proofs.Dice.Window
import DiceRoller.Proofs.Display.Agreement
import DiceRoller.Proofs.Display.Asked
import DiceRoller.Proofs.Display.Decoder
import DiceRoller.Proofs.Display.Remarks
import DiceRoller.Proofs.Display.Totals
import DiceRoller.Proofs.Grammar.Acceptance
import DiceRoller.Proofs.Grammar.Ceilings
import DiceRoller.Proofs.Grammar.Completeness
import DiceRoller.Proofs.Grammar.Form
import DiceRoller.Proofs.Grammar.Letters
import DiceRoller.Proofs.Grammar.Lexemes
import DiceRoller.Proofs.Grammar.Locality
import DiceRoller.Proofs.Grammar.Loops
import DiceRoller.Proofs.Grammar.Margins
import DiceRoller.Proofs.Grammar.Origin
import DiceRoller.Proofs.Grammar.Placement
import DiceRoller.Proofs.Grammar.Prefixes
import DiceRoller.Proofs.Grammar.RoundTrip
import DiceRoller.Proofs.Grammar.Segments
import DiceRoller.Proofs.Grammar.Soundness
import DiceRoller.Proofs.Grammar.Uniqueness
import DiceRoller.Proofs.Grammar.Writable
import DiceRoller.Proofs.Settings.Ways
import DiceRoller.Proofs.Table.Columns
import DiceRoller.Proofs.Table.Fields
import DiceRoller.Proofs.Text.Numerals
import DiceRoller.Proofs.Text.Pieces
import DiceRoller.Proofs.Text.Trimming
import DiceRoller.Proofs.Text.Words
import DiceRoller.Proofs.Upkeep.Cleaning
import DiceRoller.Report
import DiceRoller.Seed
import DiceRoller.Settings
import DiceRoller.Site
import DiceRoller.Table
import DiceRoller.Table.Values
import DiceRoller.Text.Basic
import DiceRoller.Text.Blank
import DiceRoller.Text.Numeral
import DiceRoller.Text.Order
import DiceRoller.Text.Padding
import DiceRoller.Text.Pattern
import DiceRoller.Text.Printable
import DiceRoller.Text.Quoted
import DiceRoller.Text.Words
import DiceRoller.Upkeep.Course
import DiceRoller.Upkeep.Manifest
import DiceRoller.Upkeep.Task
import DiceRoller.Value
import DiceRoller.Value.Order
import DiceRoller.Value.Sum
