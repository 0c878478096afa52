import DiceRoller.Text.Basic

/-!
# Paths

Names of files. A path is a text whose segments are separated by slashes, and one
that begins with a slash starts at the root of all files. Joining and making
absolute look at the text alone: nothing here asks whether a file is there.

Paths are stored as bytes, and neither a segment nor a path as a whole may have
too many of them. The code point zero would end a path, so none can hold it.

## Main definitions

* `Path.join`: A path continued by another one.
* `Path.segments`, `Path.ofSegments`: A path as its segments, and back.
* `Path.absolute`: A path seen from a folder, without detours.
* `Path.parent`: What stands before the last segment.
* `Path.sourceName`: The name of a source file below a root.
* `Path.isTooLong`, `Path.isSegmentTooLong`: Whether there are too many bytes.
* `Path.isBroken`: Whether a path holds the code point zero.
-/

namespace DiceRoller

namespace Path

/-- Whether a path starts at the root of all files. -/
def isAbsolute (p : Text) : Bool := p.head? == some '/'

/-- A path continued by another one, which replaces it when it is absolute. -/
def join₂ (p q : Text) : Text :=
  if isAbsolute q then q
  else if p.isEmpty || p.getLast? == some '/' then p ++ q
  else p ++ '/' :: q

/-- A path continued by others, one after another. -/
def join (p : Text) (parts : List Text) : Text := parts.foldl join₂ p

/-- The segments of a path, with the empty ones. -/
def segments (p : Text) : List Text := Text.splitOn '/' p

/-- The segment that stands for the folder itself. -/
def here : Text := ['.']

/-- The segment that stands for the folder above. -/
def above : Text := ['.', '.']

/-- Segments from the root of all files, as a path. -/
def ofSegments (segs : List Text) : Text := '/' :: Text.join ['/'] segs

/-- A segment added to segments from the root of all files, the last one first.
    There is nothing above the root. -/
def enter (segs : List Text) (s : Text) : List Text :=
  if s.isEmpty || s == here then segs
  else if s == above then segs.drop 1
  else s :: segs

/-- The segments from the root of all files without detours, of a path seen from
    a folder. -/
def absoluteSegments (folder p : Text) : List Text :=
  ((segments (join₂ folder p)).foldl enter []).reverse

/-- A path seen from a folder, without detours. Exactly two slashes at its
    beginning are kept as they are. -/
def absolute (folder p : Text) : Text :=
  let whole := join₂ folder p
  let path := ofSegments (absoluteSegments folder p)
  if Text.startsWith ['/', '/'] whole && !Text.startsWith ['/', '/', '/'] whole then '/' :: path
  else path

/-- What stands before the last slash. Slashes at its end are dropped, unless it
    is nothing but slashes. -/
def parent (p : Text) : Text :=
  let upTo := Text.dropEndWhile (· != '/') p
  let bare := Text.dropEndWhile (· == '/') upTo
  if bare.isEmpty then upTo else bare

/-- The name of a source file below a root: the root is removed wherever it
    stands, and so are the three characters of the ending. -/
def sourceName (root p : Text) : Text :=
  let t := Text.replace (root ++ ['/']) [] p
  t.take (t.length - 3)

/-- The number of bytes of a text. -/
def bytes (t : Text) : Nat := t.foldl (fun n c => n + c.utf8Size) 0

/-- Whether a segment has more bytes than a name can have. -/
def isSegmentTooLong (s : Text) : Bool := bytes s > 255

/-- Whether a path with that many bytes is longer than a path can be. -/
def isTooLong (size : Nat) : Bool := size > 4095

/-- Whether a path would end before its last code point. -/
def isBroken (p : Text) : Bool := p.contains '\x00'

end Path

end DiceRoller
