/-!
# Text

Every text of the library is a list of code points. Positions, lengths and
widths are counted in code points throughout, and a reader that consumes a text
always leaves a suffix of it, so lists are the shape in which both are plain.

## Main definitions

* `Text`: A text, as the list of its code points.
* `Text.join`: Pieces with a separator between each two.
* `Text.splitOn`: The pieces between the occurrences of a code point.
* `Text.spaces`: A run of spaces.
* `Text.occursIn`, `Text.replace`: Looking for a text in another.
-/

namespace DiceRoller

/-- A text, as the list of its code points. -/
abbrev Text := List Char

namespace Text

/-- The pieces in order, with the separator between each two of them. -/
def join (sep : Text) : List Text → Text
  | [] => []
  | [t] => t
  | t :: u :: rest => t ++ sep ++ join sep (u :: rest)

/-- The pieces between the occurrences of `c`. A text without `c` is its own
    only piece, so there is always at least one. -/
def splitOn (c : Char) : Text → List Text
  | [] => [[]]
  | x :: rest =>
    if x = c then [] :: splitOn c rest
    else match splitOn c rest with
      | [] => [[x]]
      | piece :: pieces => (x :: piece) :: pieces

/-- A run of `n` spaces. -/
def spaces (n : Nat) : Text := List.replicate n ' '

/-- Whether `t` begins with `start`. -/
def startsWith (start t : Text) : Bool := start.isPrefixOf t

/-- Every occurrence of `old` in the text replaced by `new`. Occurrences are
    found from the left and never overlap: `skip` code points of the one found
    last are still to be passed over. -/
def replaceFrom (old new : Text) : Nat → Text → Text
  | _, [] => []
  | skip + 1, _ :: t => replaceFrom old new skip t
  | 0, c :: t =>
    if startsWith old (c :: t) then new ++ replaceFrom old new (old.length - 1) t
    else c :: replaceFrom old new 0 t

/-- Every occurrence of a text that is not empty replaced by another. -/
def replace (old new t : Text) : Text := replaceFrom old new 0 t

/-- The text without the code points at its end that satisfy `p`. -/
def dropEndWhile (p : Char → Bool) (t : Text) : Text :=
  (t.reverse.dropWhile p).reverse

/-- Whether `part` stands somewhere in the text. -/
def occursIn (part : Text) : Text → Bool
  | [] => part.isEmpty
  | c :: t => startsWith part (c :: t) || occursIn part t

end Text

end DiceRoller
