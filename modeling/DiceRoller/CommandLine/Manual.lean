import DiceRoller.Text.Basic

/-!
# The manual

What the program says about its own use: the page that is shown on request, and
the short reference of the notation that follows every mistake.

## Main definitions

* `Manual.page`: How the program is used.
* `Manual.reference`: How a notation is written.
-/

namespace DiceRoller

namespace Manual

/-- Lines, each with its end. -/
def lines (ls : List String) : Text := ls.flatMap fun l => l.toList ++ ['\n']

/-- How the program is used. -/
def page : Text := lines
  ["usage: dicenote [-h] [-n REPEAT] [--seed SEED] [--config CONFIG] [--no-log]",
    "                notation [notation ...]",
    "",
    "Parse dice notation, roll it and print the results.",
    "",
    "dicenote 4d20kh3 + 2",
    "        Roll 4d20, keep the 3 highest and add 2.",
    "dicenote '1d20; 1d20'",
    "        Roll 1d20 twice, each is totalled separately.",
    "dicenote -n 6 4d6dl1",
    "        Roll 4d6 and drop the lowest, 6 times.",
    "dicenote -- -2 + 1d4",
    "        Use -- when the notation starts with a sign.",
    "",
    "positional arguments:",
    "  notation              The dice notation, joined with spaces.",
    "",
    "options:",
    "  -h, --help            show this help message and exit",
    "  -n REPEAT, --repeat REPEAT",
    "                        Roll the notation this many times.",
    "  --seed SEED           Seed the random generators for a repeatable roll.",
    "  --config CONFIG       Use this yaml config instead of data/config.yml.",
    "  --no-log              Do not configure file logging."]

/-- How a notation is written. -/
def reference : Text := lines
  ["__Quick Reference__",
    "",
    "    4d6 + 2                 Roll 4d6 and add 2",
    "    1d20; 1d20              Roll 1d20 twice, separately",
    "    4d6kh3                  Roll 4d6 and keep the 3 highest",
    "    4d6kl3                  Roll 4d6 and keep the 3 lowest",
    "    4d6dh1                  Roll 4d6 and drop the highest",
    "    4d6dl1                  Roll 4d6 and drop the lowest",
    "    4dF                     Roll 4 Fate dice, each -1, 0 or +1",
    "",
    "Every roll needs a quantity, write 1d20 not d20."]

end Manual

end DiceRoller
