import DiceRoller.Proofs.Display.Totals
import DiceRoller.Proofs.Text.Pieces
import DiceRoller.Proofs.Text.Trimming
import DiceRoller.Proofs.Text.Numerals
import DiceRoller.Table.Values
import Mathlib.Order.Bounds.Basic

/-!
# Where the cells of a table stand

A table is a text, and what was put in its cells can be found there again. Every column is as wide
as the longest text in it, so it begins at the same place on all lines, behind the columns in front
of it and their separators. There the cell stands, with spaces on one side or on both.

A line of the table loses its blanks at the end. They may come from the padding of the last cells,
from separators between empty cells, or from the last cell itself, and then they need not be
spaces. So a line is filled up with spaces before it is looked at, and what stands in a column is
compared with the cell blanks apart. The dashes below a header have no blanks among them and stay
as they are.

## Main definitions

* `Table.IsWidth`: The width of a column.
* `Table.inColumn`: What stands in a column of a line.
* `Table.Line`, `Table.lines`: What the lines of a table are to show.
* `Table.Shows`: A text shows a line.

## Theorems

* `Table.exists_of_width_cons`: A width has been measured at every row: the row has a cell
  there, and the width is the greater of its length and the width of the rest.
* `Table.length_le_width`: No text in a column is longer than the column is wide.
* `Table.exists_length_eq_width`: Some row is as long as its column is wide, if there are
  rows.
* `Table.isWidth_of_width`: A column that is measured is as wide as its longest text.
* `Table.isBlank_spaces`: Spaces are blanks.
* `Table.exists_align`: A cell is padded with spaces on either side.
* `Table.trim_align`: A cell is the same, blanks apart, once it is padded.
* `Table.mem_align`: In a padded cell there is nothing but spaces and the cell.
* `Table.length_align`: A cell that fits its column fills it once it is padded.
* `Table.map_length_zipWith_align`: Cells that fit their columns fill them.
* `Table.row_eq`: A row is its padded cells with separators between them, without blanks
  at the end.
* `Table.divider_eq`: A divider is dashes with separators between them, without blanks at
  the end.
* `Table.map_length_dashes`: The dashes of a divider are as many as the columns are wide.
* `Table.exists_filled`: Pieces that are joined and trimmed at the end are as broad as
  before once they are filled up; only the blanks behind them have become spaces.
* `Table.take_drop_append`: A slice of two texts is a slice of the first and one of the
  second, and of the first only its length matters for the second.
* `Table.exists_inColumn`: In a column of the joined pieces stands the piece, though
  blanks at its end may have become spaces.
* `Table.length_trimEnd_join_le`: Joined and trimmed pieces are no longer than the table
  is broad.
* `Table.shows_joined`: Joined and trimmed pieces show a line, if the line has every
  piece, also when blanks at the end of it have become spaces.
* `Table.shows_row`, `Table.shows_divider`: What a finished row shows.
* `Table.forall₂_shows_rowsWith`: The rows of a table show its lines.
* `Table.not_mem_of_mem_zipWith_align`: Padding adds nothing but spaces.
* `Table.not_mem_of_mem_dashes`: There is nothing but dashes in the columns of a divider.
* `Table.not_mem_trimEnd_join`: What is in joined and trimmed pieces comes from the
  separator or from a piece.
* `Table.not_mem_row`: A character that is no space stands in a row only if it stands in
  the separator or a cell.
* `Table.not_mem_divider`: A character that is no dash stands in a divider only if it
  stands in the separator.
* `Table.not_mem_of_mem_rowsWith`: A character that is no space and no dash stands in a
  line of a table only if it stands in the separator or a cell.
* `Table.rowsWith_ne_nil`: A table with rows has lines.
* `Table.exists_rowsWith`: Rows of one length are laid out in columns that have room for
  them.
* `Table.mapM_cellText`: The cells of a row are the texts that its values are shown as, if
  all of them can be written.
* `Table.renderValues_eq`: A table of lists of values is the table of the texts that the
  values are shown as.
* `Table.exists_shows_renderValues`: The lines of a table of values show its rows.
* `Table.exists_shows_renderValues_two_columns`: The header is centred in columns of one
  and of two.
-/

namespace DiceRoller

open Text

namespace Table

/-- The width of a column is the greatest length of the texts in it. -/
def IsWidth (rows : List (List Text)) (k w : Nat) : Prop :=
  IsGreatest {n | ∃ r ∈ rows, ∃ cell, r[k]? = some cell ∧ cell.length = n} w

/-- Where a column begins: behind the ones in front of it and their separators. -/
def offset (sep : Text) (ws : List Nat) (k : Nat) : Nat := (ws.take k).sum + k * sep.length

/-- How broad a table is whose columns have some widths. -/
def breadth (sep : Text) (ws : List Nat) : Nat := ws.sum + (ws.length - 1) * sep.length

/-- A row that is filled up with spaces until it is as broad as the table. -/
def filled (sep : Text) (ws : List Nat) (row : Text) : Text :=
  row ++ spaces (breadth sep ws - row.length)

/-- What stands in a column of a row. -/
def inColumn (sep : Text) (ws : List Nat) (k : Nat) (row : Text) : Text :=
  ((filled sep ws row).drop (offset sep ws k)).take (ws.getD k 0)

/-- What a line of a table is to show: the cells of a row, or the dashes below a header. -/
inductive Line where
  /-- The cells of a row. -/
  | texts (ts : List Text)
  /-- Dashes in every column. -/
  | dashes

/-- The lines of a table: one for each row, and the dashes behind the first with a header. -/
def lines (header : Bool) : List (List Text) → List Line
  | [] => []
  | first :: rest => .texts first :: ((if header then [.dashes] else []) ++ rest.map .texts)

/-- What a line has in a column of some width: the cell, blanks apart, or as many dashes. -/
def Line.Has (k w : Nat) : Line → Text → Prop
  | .texts ts, t => ∃ cell, ts[k]? = some cell ∧ t.trim = cell.trim
  | .dashes, t => t = List.replicate w '-'

/-- A text shows a line of a table. It does not end in a blank, it is no longer than the table is
    broad, and once it is filled up, there stands in every column what the line has there, over
    the whole width of the column. -/
structure Shows (sep : Text) (ws : List Nat) (line : Line) (row : Text) : Prop where
  isBlank_getLast : ∀ c ∈ row.getLast?, isBlank c = false
  length_le : row.length ≤ breadth sep ws
  length_inColumn : ∀ k w, ws[k]? = some w → (inColumn sep ws k row).length = w
  has : ∀ k w, ws[k]? = some w → line.Has k w (inColumn sep ws k row)

section Width

variable {rows : List (List Text)} {k w : Nat}

/-- A width has been measured at every row: the row has a cell there, and the width is the
    greater of its length and the width of the rest. -/
theorem exists_of_width_cons {r : List Text}
    (h : width (fun cell : Text => .ok cell.length) k (r :: rows) = .ok w) :
    ∃ cell n, r[k]? = some cell ∧ width (fun cell : Text => .ok cell.length) k rows = .ok n ∧
      w = max cell.length n := by
  rw [width] at h
  rcases hcell : r[k]? with _ | cell
  · rw [hcell] at h
    cases h
  · rw [hcell] at h
    rcases Reader.bind_eq_ok h with ⟨m, hm, h⟩
    rcases Reader.bind_eq_ok h with ⟨n, hn, h⟩
    cases hm
    exact ⟨cell, n, rfl, hn, (Except.ok.inj h).symm⟩

/-- No text in a column is longer than the column is wide. -/
theorem length_le_width (h : width (fun cell : Text => .ok cell.length) k rows = .ok w)
    {r : List Text} (hr : r ∈ rows) {cell : Text} (hcell : r[k]? = some cell) :
    cell.length ≤ w := by
  induction rows generalizing w with
  | nil => exact absurd hr List.not_mem_nil
  | cons r' rows ih =>
      rcases exists_of_width_cons h with ⟨cell', n, hcell', hn, rfl⟩
      rcases List.mem_cons.mp hr with rfl | hr
      · rw [hcell] at hcell'
        rw [Option.some.inj hcell']
        exact Nat.le_max_left ..
      · exact (ih hn hr).trans (Nat.le_max_right ..)

/-- Some row is as long as its column is wide, if there are rows. -/
theorem exists_length_eq_width (hne : rows ≠ [])
    (h : width (fun cell : Text => .ok cell.length) k rows = .ok w) :
    ∃ r ∈ rows, ∃ cell, r[k]? = some cell ∧ cell.length = w := by
  induction rows generalizing w with
  | nil => exact absurd rfl hne
  | cons r rows ih =>
      rcases exists_of_width_cons h with ⟨cell, n, hcell, hn, rfl⟩
      by_cases hle : n ≤ cell.length
      · exact ⟨r, List.mem_cons_self, cell, hcell, (Nat.max_eq_left hle).symm⟩
      · -- A longer cell stands further down, so there are more rows.
        have hmore : rows ≠ [] := by
          rintro rfl
          cases hn
          exact hle (Nat.zero_le _)
        rcases ih hmore hn with ⟨r', hr', cell', hcell', rfl⟩
        exact ⟨r', List.mem_cons_of_mem r hr', cell', hcell',
          (Nat.max_eq_right (Nat.le_of_not_le hle)).symm⟩

/-- A column that is measured is as wide as its longest text. -/
theorem isWidth_of_width (hne : rows ≠ [])
    (h : width (fun cell : Text => .ok cell.length) k rows = .ok w) : IsWidth rows k w := by
  refine ⟨exists_length_eq_width hne h, ?_⟩
  rintro n ⟨r, hr, cell, hcell, rfl⟩
  exact length_le_width h hr hcell

end Width

section Cells

variable {center : Bool} {w : Nat} {cell : Text} {ws : List Nat} {entries : List Text}

theorem isBlank_spaces (n : Nat) : ∀ c ∈ spaces n, isBlank c = true := by
  intro c hc
  rw [List.eq_of_mem_replicate hc]
  rfl

theorem exists_align (center : Bool) (w : Nat) (cell : Text) :
    ∃ m n, align center w cell = spaces m ++ (cell ++ spaces n) :=
  ⟨_, _, List.append_assoc ..⟩

theorem trim_align (center : Bool) (w : Nat) (cell : Text) :
    (align center w cell).trim = cell.trim := by
  rcases exists_align center w cell with ⟨m, n, halign⟩
  rw [halign, trim_blanks_append (isBlank_spaces m), trim_append (isBlank_spaces n)]

/-- In a padded cell there is nothing but spaces and the cell. -/
theorem mem_align {c : Char} (h : c ∈ align center w cell) : c = ' ' ∨ c ∈ cell := by
  rcases exists_align center w cell with ⟨m, n, halign⟩
  rw [halign, List.mem_append, List.mem_append] at h
  rcases h with h | h | h
  · exact .inl (List.eq_of_mem_replicate h)
  · exact .inr h
  · exact .inl (List.eq_of_mem_replicate h)

theorem length_align (h : cell.length ≤ w) : (align center w cell).length = w := by
  rw [align, Padding.length_place]
  exact Nat.max_eq_left h

/-- Cells that fit their columns fill them. -/
theorem map_length_zipWith_align (h : List.Forall₂ (fun w cell => cell.length ≤ w) ws entries) :
    (List.zipWith (align center) ws entries).map List.length = ws := by
  induction h with
  | nil => rfl
  | cons hfit _ ih => rw [List.zipWith_cons_cons, List.map_cons, length_align hfit, ih]

/-- A row is its padded cells with separators between them, without blanks at the end. -/
theorem row_eq (sep : Text) (hne : ws ≠ []) (center : Bool) (entries : List Text) :
    row sep center ws entries
      = (join sep (List.zipWith (align center) ws entries)).trimEnd := by
  rw [row, cells, if_neg hne]

/-- A divider is dashes with separators between them, without blanks at the end. -/
theorem divider_eq (sep : Text) (ws : List Nat) :
    divider sep ws = (join sep (ws.map fun w => List.replicate w '-')).trimEnd := by
  rw [divider, row, cells, if_pos rfl]

/-- The dashes of a divider are as many as the columns are wide. -/
theorem map_length_dashes (ws : List Nat) :
    (ws.map fun w => List.replicate w '-').map List.length = ws := by
  simp only [List.map_map, Function.comp_def, List.length_replicate, List.map_id']

end Cells

section Joined

variable {sep : Text} {pieces : List Text}

/-- Pieces that are joined and trimmed at the end are as broad as before once they are filled up;
    only the blanks behind them have become spaces. -/
theorem exists_filled (sep : Text) (pieces : List Text) :
    ∃ blanks : Text, (∀ c ∈ blanks, isBlank c = true) ∧
      join sep pieces = (join sep pieces).trimEnd ++ blanks ∧
      filled sep (pieces.map List.length) (join sep pieces).trimEnd
        = (join sep pieces).trimEnd ++ spaces blanks.length := by
  rcases exists_trimEnd (join sep pieces) with ⟨blanks, hblanks, hjoin⟩
  have hlength : breadth sep (pieces.map List.length)
      = (join sep pieces).trimEnd.length + blanks.length := by
    rw [breadth, List.length_map, ← List.length_flatten, ← length_join, ← List.length_append,
      ← hjoin]
  refine ⟨blanks, hblanks, hjoin, ?_⟩
  rw [filled, hlength, Nat.add_sub_cancel_left]

/-- A slice of two texts is a slice of the first and one of the second, and of the first only its
    length matters for the second. -/
theorem take_drop_append (t u : Text) (m n : Nat) :
    ((t ++ u).drop m).take n
      = (t.drop m).take n ++ (u.drop (m - t.length)).take (n - (t.length - m)) := by
  rw [List.drop_append, List.take_append, List.length_drop]

/-- In a column of the joined pieces stands the piece, though blanks at its end may have become
    spaces. -/
theorem exists_inColumn {k : Nat} {piece : Text} (h : pieces[k]? = some piece) :
    ∃ front blanks : Text, (∀ c ∈ blanks, isBlank c = true) ∧ piece = front ++ blanks ∧
      inColumn sep (pieces.map List.length) k (join sep pieces).trimEnd
        = front ++ spaces blanks.length := by
  rcases exists_filled sep pieces with ⟨blanks, hblanks, hjoin, hfilled⟩
  have hwidth : (pieces.map List.length).getD k 0 = piece.length := by
    rw [List.getD_eq_getElem?_getD, List.getElem?_map, h]
    rfl
  have hoffset : offset sep (pieces.map List.length) k
      = (pieces.take k).flatten.length + k * sep.length := by
    rw [offset, ← List.map_take, ← List.length_flatten]
  -- The piece is the slice of the text before it was trimmed. What was trimmed off is as long as
  -- the spaces that fill the line up, so a column has as much of the ones as of the others.
  have hpiece := take_drop_join sep h
  rw [hjoin, ← hoffset, take_drop_append] at hpiece
  refine ⟨_, _, fun c hc => ?_, hpiece.symm, ?_⟩
  · exact hblanks c (List.mem_of_mem_drop (List.mem_of_mem_take hc))
  · rw [inColumn, hfilled, hwidth, take_drop_append]
    congr 1
    rw [spaces, spaces, List.drop_replicate, List.take_replicate, List.length_take,
      List.length_drop]

/-- Joined and trimmed pieces are no longer than the table is broad. -/
theorem length_trimEnd_join_le (sep : Text) (pieces : List Text) :
    (join sep pieces).trimEnd.length ≤ breadth sep (pieces.map List.length) := by
  rcases exists_trimEnd (join sep pieces) with ⟨blanks, -, hjoin⟩
  have hlength := congrArg List.length hjoin
  rw [length_join, List.length_append] at hlength
  rw [breadth, List.length_map, ← List.length_flatten, hlength]
  exact Nat.le_add_right ..

/-- Joined and trimmed pieces show a line, if the line has every piece, also when blanks at the end
    of it have become spaces. -/
theorem shows_joined (sep : Text) {line : Line} (h : ∀ k piece, pieces[k]? = some piece →
      ∀ front blanks : Text, (∀ c ∈ blanks, isBlank c = true) → piece = front ++ blanks →
        line.Has k piece.length (front ++ spaces blanks.length)) :
    Shows sep (pieces.map List.length) line (join sep pieces).trimEnd := by
  have hcolumns : ∀ k w, (pieces.map List.length)[k]? = some w →
      (inColumn sep (pieces.map List.length) k (join sep pieces).trimEnd).length = w ∧
        line.Has k w (inColumn sep (pieces.map List.length) k (join sep pieces).trimEnd) := by
    intro k w hw
    rw [List.getElem?_map] at hw
    rcases Option.map_eq_some_iff.mp hw with ⟨piece, hpiece, rfl⟩
    rcases exists_inColumn hpiece with ⟨front, blanks, hblanks, hfront, hcolumn⟩
    rw [hcolumn]
    refine ⟨?_, h k piece hpiece front blanks hblanks hfront⟩
    -- As many spaces as there were blanks.
    rw [hfront, List.length_append, spaces, List.length_replicate, List.length_append]
  exact ⟨isBlank_getLast_trimEnd _, length_trimEnd_join_le sep pieces,
    fun k w hw => (hcolumns k w hw).1, fun k w hw => (hcolumns k w hw).2⟩

end Joined

section Shows

variable {ws : List Nat} {entries : List Text}

/-- A row shows its cells. -/
theorem shows_row (sep : Text) (center : Bool) (hne : ws ≠ [])
    (h : List.Forall₂ (fun w cell => cell.length ≤ w) ws entries) :
    Shows sep ws (.texts entries) (row sep center ws entries) := by
  have hshows : Shows sep ((List.zipWith (align center) ws entries).map List.length)
      (.texts entries) (join sep (List.zipWith (align center) ws entries)).trimEnd := by
    refine shows_joined sep fun k piece hpiece front blanks hblanks hfront => ?_
    -- The piece is a padded cell, and padding and filling up are both undone by trimming.
    rcases List.getElem?_zipWith_eq_some.mp hpiece with ⟨w, cell, -, hcell, rfl⟩
    refine ⟨cell, hcell, ?_⟩
    rw [trim_append (isBlank_spaces _), ← trim_align center w cell, hfront, trim_append hblanks]
  rw [map_length_zipWith_align h] at hshows
  rw [row_eq sep hne]
  exact hshows

/-- A divider shows dashes. -/
theorem shows_divider (sep : Text) (ws : List Nat) : Shows sep ws .dashes (divider sep ws) := by
  have hshows : Shows sep ((ws.map fun w => List.replicate w '-').map List.length) .dashes
      (join sep (ws.map fun w => List.replicate w '-')).trimEnd := by
    refine shows_joined sep fun k piece hpiece front blanks hblanks hfront => ?_
    rw [List.getElem?_map] at hpiece
    rcases Option.map_eq_some_iff.mp hpiece with ⟨w, -, rfl⟩
    -- A dash is no blank, so there is none behind them.
    have hnone : blanks = [] := by
      refine List.eq_nil_iff_forall_not_mem.mpr fun c hc => ?_
      have hdash : c ∈ List.replicate w '-' := by
        rw [hfront]
        exact List.mem_append_right _ hc
      have hblank := hblanks c hc
      rw [List.eq_of_mem_replicate hdash] at hblank
      exact absurd hblank (by decide)
    rw [hnone, List.append_nil] at hfront
    rw [hnone, ← hfront, List.length_replicate]
    exact List.append_nil _
  rw [map_length_dashes] at hshows
  rw [divider_eq]
  exact hshows

/-- The rows of a table show its lines. -/
theorem forall₂_shows_rowsWith (sep : Text) (center header : Bool) (hne : ws ≠ [])
    {rows : List (List Text)}
    (h : ∀ r ∈ rows, List.Forall₂ (fun w cell => cell.length ≤ w) ws r) :
    List.Forall₂ (Shows sep ws) (lines header rows) (rowsWith sep center header ws rows) := by
  have hbody : ∀ rest ⊆ rows, List.Forall₂ (Shows sep ws) (rest.map .texts)
      (rest.map (row sep center ws)) := by
    intro rest hrest
    rw [List.forall₂_map_left_iff, List.forall₂_map_right_iff, List.forall₂_same]
    exact fun r hr => shows_row sep center hne (h r (hrest hr))
  rcases rows with _ | ⟨first, rest⟩
  · exact .nil
  · have hrest := hbody rest (List.subset_cons_self first rest)
    have hfirst := fun center => shows_row sep center hne (h first List.mem_cons_self)
    -- A header is centred even if the other rows are not.
    cases header with
    | false => exact .cons (hfirst center) hrest
    | true => exact .cons (hfirst true) (.cons (shows_divider sep ws) hrest)

end Shows

section Absent

variable {c : Char} {sep : Text} {ws : List Nat}

/-- Padding adds nothing but spaces. -/
theorem not_mem_of_mem_zipWith_align {center : Bool} {entries : List Text} (hspace : c ≠ ' ')
    (h : ∀ cell ∈ entries, c ∉ cell) :
    ∀ piece ∈ List.zipWith (align center) ws entries, c ∉ piece := by
  intro piece hpiece hc
  rcases List.mem_iff_getElem?.mp hpiece with ⟨k, hk⟩
  rcases List.getElem?_zipWith_eq_some.mp hk with ⟨w, cell, -, hcell, rfl⟩
  rcases mem_align hc with hc | hc
  · exact hspace hc
  · exact h cell (List.mem_of_getElem? hcell) hc

/-- There is nothing but dashes in the columns of a divider. -/
theorem not_mem_of_mem_dashes (hdash : c ≠ '-') :
    ∀ piece ∈ ws.map fun w => List.replicate w '-', c ∉ piece := by
  intro piece hpiece hc
  rcases List.mem_map.mp hpiece with ⟨w, -, rfl⟩
  exact hdash (List.eq_of_mem_replicate hc)

/-- What is in joined and trimmed pieces comes from the separator or from a piece. -/
theorem not_mem_trimEnd_join {pieces : List Text} (hsep : c ∉ sep)
    (h : ∀ piece ∈ pieces, c ∉ piece) : c ∉ (join sep pieces).trimEnd := by
  intro hmem
  rcases mem_join (trimEnd_subset _ hmem) with hc | ⟨piece, hpiece, hc⟩
  · exact hsep hc
  · exact h piece hpiece hc

/-- A character that is no space stands in a row only if it stands in the separator or a cell. -/
theorem not_mem_row (center : Bool) (hne : ws ≠ []) (hspace : c ≠ ' ') (hsep : c ∉ sep)
    {entries : List Text} (h : ∀ cell ∈ entries, c ∉ cell) : c ∉ row sep center ws entries := by
  rw [row_eq sep hne]
  exact not_mem_trimEnd_join hsep (not_mem_of_mem_zipWith_align hspace h)

/-- A character that is no dash stands in a divider only if it stands in the separator. -/
theorem not_mem_divider (hdash : c ≠ '-') (hsep : c ∉ sep) : c ∉ divider sep ws := by
  rw [divider_eq]
  exact not_mem_trimEnd_join hsep (not_mem_of_mem_dashes hdash)

/-- A character that is no space and no dash stands in a line of a table only if it stands in
    the separator or a cell. -/
theorem not_mem_of_mem_rowsWith (center header : Bool) (hne : ws ≠ []) (hspace : c ≠ ' ')
    (hdash : c ≠ '-') (hsep : c ∉ sep) {rows : List (List Text)}
    (h : ∀ r ∈ rows, ∀ cell ∈ r, c ∉ cell) {line : Text}
    (hline : line ∈ rowsWith sep center header ws rows) : c ∉ line := by
  have hrow : ∀ center, ∀ r ∈ rows, c ∉ row sep center ws r :=
    fun center r hr => not_mem_row center hne hspace hsep (h r hr)
  rcases rows with _ | ⟨first, rest⟩
  · exact absurd hline List.not_mem_nil
  · cases header with
    | false =>
        rcases List.mem_map.mp hline with ⟨r, hr, rfl⟩
        exact hrow center r hr
    | true =>
        rcases List.mem_cons.mp hline with rfl | hline
        · exact hrow true first List.mem_cons_self
        · rcases List.mem_cons.mp hline with rfl | hline
          · exact not_mem_divider hdash hsep
          · rcases List.mem_map.mp hline with ⟨r, hr, rfl⟩
            exact hrow center r (List.mem_cons_of_mem first hr)

end Absent

/-- A table with rows has lines. -/
theorem rowsWith_ne_nil (sep : Text) (center header : Bool) (ws : List Nat)
    {rows : List (List Text)} (hne : rows ≠ []) : rowsWith sep center header ws rows ≠ [] := by
  rcases rows with _ | ⟨first, rest⟩
  · exact absurd rfl hne
  · cases header with
    | false => exact List.cons_ne_nil _ _
    | true => exact List.cons_ne_nil _ _

/-- Rows of one length have columns with widths, in which their cells fit, and are laid out in
    them. -/
theorem exists_rowsWith {rows : List (List Text)} {count : Nat} (hne : rows ≠ [])
    (hlength : ∀ r ∈ rows, r.length = count) :
    ∃ ws : List Nat, ws.length = count ∧ (∀ k w, ws[k]? = some w → IsWidth rows k w) ∧
      (∀ r ∈ rows, List.Forall₂ (fun w cell => cell.length ≤ w) ws r) ∧
      ∀ sep center header, render sep center header rows
        = .ok (join ['\n'] (rowsWith sep center header ws rows)) := by
  rcases rows with _ | ⟨first, rest⟩
  · exact absurd rfl hne
  · have hfirst := hlength first List.mem_cons_self
    -- The first row says how many columns there are, and no other row has fewer cells.
    have hrest : ∀ r ∈ rest, first.length ≤ r.length := by
      intro r hr
      rw [hfirst, hlength r (List.mem_cons_of_mem first hr)]
    rcases exists_widths hrest with ⟨ws, hwidths, hall⟩
    have hcount : ws.length = count := by
      rw [← hall.length_eq, List.length_range, hfirst]
    -- The widths were measured column by column, in order.
    have hwidth : ∀ k w, ws[k]? = some w → IsWidth (first :: rest) k w := by
      intro k w hk
      rcases List.getElem?_eq_some_iff.mp hk with ⟨hlt, rfl⟩
      have hcolumn := hall.get (hall.length_eq ▸ hlt) hlt
      rw [List.get_eq_getElem, List.getElem_range] at hcolumn
      exact isWidth_of_width (List.cons_ne_nil first rest) hcolumn
    refine ⟨ws, hcount, hwidth, fun r hr => ?_, fun sep center header => ?_⟩
    · refine List.forall₂_of_length_eq_of_get (hcount.trans (hlength r hr).symm) fun k hw hr' => ?_
      exact (hwidth k _ (List.getElem?_eq_getElem hw)).2
        ⟨r, hr, _, List.getElem?_eq_getElem hr', rfl⟩
    · simp only [render, renderRows, hwidths, bind, Except.bind]
      rfl

/-- The cells of a row are the texts that its values are shown as, if all of them can be
    written. -/
theorem mapM_cellText (r : List Value) :
    r.mapM cellText = if r.all Value.isWritable then .ok (r.map Value.shown)
      else .error .unwritten := by
  induction r with
  | nil => rfl
  | cons v r ih =>
      rw [List.mapM_cons, ih, cellText, Value.write?, List.all_cons]
      cases v.isWritable with
      | false => rfl
      | true =>
          cases r.all Value.isWritable with
          | false => rfl
          | true => rfl

/-- A table of lists of values is the table of the texts that the values are shown as. If one
    of them cannot be written there is no table. -/
theorem renderValues_eq (sep : Text) (center header : Bool) (rows : List (List Value)) :
    renderValues (.text sep) center header (.list (rows.map .list))
      = if rows.all (List.all · Value.isWritable) then
          render sep center header (rows.map fun r => r.map Value.shown)
        else .error .unwritten := by
  -- The rows are turned into texts one after the other, so by induction on them.
  have hrows : ((rows.map Value.list).mapM fun row => do (← parts row).mapM cellText)
      = if rows.all (List.all · Value.isWritable) then .ok (rows.map fun r => r.map Value.shown)
        else .error .unwritten := by
    induction rows with
    | nil => rfl
    | cons r rows ih =>
        have hparts : (do (← parts (.list r)).mapM cellText) = r.mapM cellText := rfl
        rw [List.map_cons, List.mapM_cons, hparts, mapM_cellText, ih, List.all_cons]
        cases r.all Value.isWritable with
        | false => rfl
        | true =>
            cases rows.all (List.all · Value.isWritable) with
            | false => rfl
            | true => rfl
  have hparts : parts (.list (rows.map .list)) = .ok (rows.map .list) := rfl
  simp only [renderValues, hparts, bind, Except.bind] at hrows ⊢
  rw [hrows]
  by_cases hall : rows.all (List.all · Value.isWritable) = true
  · rw [if_pos hall, if_pos hall]
  · rw [if_neg hall, if_neg hall]

/-- A table loses and misplaces nothing. Where all rows have the same number of cells, and these
    have texts that do not break a line and neither does the separator, there is a table with a
    line for each row, and one more with a header. Every column is as wide as its longest text.
    Every line, once it is filled up with spaces, shows the cells of its row where the columns
    stand, and these are the same places on all lines. -/
theorem exists_shows_renderValues (sep : Text) (center header : Bool) (rows : List (List Value))
    (count : Nat) (hne : rows ≠ []) (hpos : 1 ≤ count) (hlength : ∀ r ∈ rows, r.length = count)
    (hsep : '\n' ∉ sep)
    (hcells : ∀ r ∈ rows, ∀ v ∈ r, ∃ text, v.write? = some text ∧ '\n' ∉ text) :
    ∃ t ws, renderValues (.text sep) center header (.list (rows.map .list)) = .ok t ∧
      ws.length = count ∧
      (∀ k w, ws[k]? = some w → IsWidth (rows.map fun r => r.map Value.shown) k w) ∧
      List.Forall₂ (Shows sep ws) (lines header (rows.map fun r => r.map Value.shown))
        (splitOn '\n' t) := by
  have hlength' : ∀ r ∈ rows.map fun r => r.map Value.shown, r.length = count := by
    intro r hr
    rcases List.mem_map.mp hr with ⟨vs, hvs, rfl⟩
    rw [List.length_map, hlength vs hvs]
  have hcells' : ∀ r ∈ rows.map fun r => r.map Value.shown, ∀ cell ∈ r, '\n' ∉ cell := by
    intro r hr cell hcell
    rcases List.mem_map.mp hr with ⟨vs, hvs, rfl⟩
    rcases List.mem_map.mp hcell with ⟨v, hv, rfl⟩
    rcases hcells vs hvs v hv with ⟨text, htext, hline⟩
    rw [(Value.write?_eq_some_iff.mp htext).2]
    exact hline
  have hwritable : rows.all (List.all · Value.isWritable) = true := by
    refine List.all_eq_true.mpr fun r hr => List.all_eq_true.mpr fun v hv => ?_
    rcases hcells r hr v hv with ⟨text, htext, -⟩
    exact (Value.write?_eq_some_iff.mp htext).1
  rcases exists_rowsWith (List.map_eq_nil_iff.not.mpr hne) hlength' with
    ⟨ws, hcount, hwidths, hfits, hrender⟩
  have hws : ws ≠ [] := List.ne_nil_of_length_pos (hcount ▸ hpos)
  have hshows := forall₂_shows_rowsWith sep center header hws hfits
  have htable := renderValues_eq sep center header rows
  rw [if_pos hwritable, hrender sep center header] at htable
  refine ⟨_, ws, htable, hcount, hwidths, ?_⟩
  -- No line is broken, so the lines of the text are those that were laid out.
  rw [splitOn_join]
  · exact hshows
  · exact fun line hline =>
      not_mem_of_mem_rowsWith center header hws (by decide) (by decide) hsep hcells' hline
  · exact rowsWith_ne_nil sep center header ws (List.map_eq_nil_iff.not.mpr hne)

-- The header is centred in columns of one and of two. The last cell is empty, so its row ends in
-- what is left of the separator.
theorem exists_shows_renderValues_two_columns :
    ∃ t, renderValues (.text [' ', '|', ' ']) true true
        (.list ([[.text ['a'], .text ['b', 'c']], [.int 7, .text []]].map .list)) = .ok t ∧
      splitOn '\n' t = ["a | bc".toList, "- | --".toList, "7 |".toList] ∧
      List.Forall₂ (Shows [' ', '|', ' '] [1, 2])
        [.texts [['a'], ['b', 'c']], .dashes, .texts [['7'], []]] (splitOn '\n' t) := by
  have hcells : ∀ r ∈ [[.text ['a'], .text ['b', 'c']], [.int 7, .text []]], ∀ v ∈ r,
      ∃ text, Value.write? v = some text ∧ '\n' ∉ text := by
    have htexts : ∀ r ∈ [[Value.text ['a'], .text ['b', 'c']], [.int 7, .text []]], ∀ v ∈ r,
        v.isWritable = true ∧ '\n' ∉ v.shown := by decide
    exact fun r hr v hv => ⟨v.shown, Value.write?_eq_some_iff.mpr ⟨(htexts r hr v hv).1, rfl⟩,
      (htexts r hr v hv).2⟩
  rcases exists_shows_renderValues [' ', '|', ' '] true true
      [[.text ['a'], .text ['b', 'c']], [.int 7, .text []]] 2 (by decide) (by decide) (by decide)
      (by decide) hcells with ⟨t, ws, ht, hcount, hwidths, hshows⟩
  rcases ws with _ | ⟨v, _ | ⟨w, _ | ⟨_, _⟩⟩⟩
  · exact nomatch hcount
  · exact nomatch hcount
  · have hv : v = 1 := (hwidths 0 v rfl).unique (isWidth_of_width (by decide) rfl)
    have hw : w = 2 := (hwidths 1 w rfl).unique (isWidth_of_width (by decide) rfl)
    rw [hv, hw] at hshows
    have htext : t = "a | bc\n- | --\n7 |".toList :=
      Except.ok.inj (ht.symm.trans (by decide +kernel))
    refine ⟨t, ht, ?_, hshows⟩
    rw [htext]
    decide +kernel
  · exact nomatch hcount

end Table

end DiceRoller
