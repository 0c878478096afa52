import DiceRoller.Proofs.Display.Agreement
import DiceRoller.Proofs.Display.Remarks
import DiceRoller.Proofs.Table.Columns

/-!
# Tables that are read back

A table with bars between its columns can be read without knowing how wide they are. It is divided
into its lines, a line is divided at the bars, and blanks around the fields are left out. What the
padding has added is gone then, and what the end of a line has lost were blanks only. So the cells
come back, provided that they hold no bars themselves and have no blanks at their ends, and empty
cells come back as empty fields. A bar is never lost, not even behind the last cell of a row that
is not empty, so that all bars stand one below another.

The table of totals has such cells. Its sets may have different numbers of expressions, and the
widest of them says how many columns there are.

## Main definitions

* `Table.grid`: The fields of all lines of a text.
* `Table.bars`: Where the bars of a line stand.
* `Table.IsPlain`: A cell that can be read back.

## Theorems

* `Table.fields_append`: Blanks behind a line do not change its fields.
* `Table.fields_trimEnd`: So a line has the same fields without its blanks at the end.
* `Table.fields_space_cons`: Nor does a space in front of it.
* `Table.fields_of_not_mem`: A line without bars is one field.
* `Table.fields_join`: Pieces that are joined by bars are the fields, blanks apart.
* `Table.bars_of_not_mem`: A text without bars has none.
* `Table.bars_append`: The bars of a text behind another are shifted by its length.
* `Table.bars_trimEnd`: A line that loses its blanks at the end loses no bar.
* `Table.length_fields`: There is one field more than there are bars.
* `Table.bars_join`: Where the bars between some pieces stand depends on the lengths of
  the pieces only.
* `Table.map_trim_zipWith_align`: Cells that fit their columns are the same, blanks apart,
  once they are padded.
* `Table.fields_row`, `Table.fields_divider`: The fields of a finished row.
* `Table.bars_row`, `Table.bars_divider`: Its bars.
* `Table.exists_grid_render`: A table with a header is read back.
* `Table.isBlank_of_isShown`: No character of what is displayed is a blank.
* `Table.isPlain_ofInt`: Numerals can be read back.
* `Table.isPlain_ofNat`: So can the numeral of a natural number.
* `Table.isPlain_nil`: And so can nothing at all.
* `Table.isPlain_expr`: The name of a column can be read back too, although it has a blank
  in its middle.
* `Report.isPlain_of_mem_tableHead`: The names of the columns can be read back, and none
  of them is empty.
* `Report.isPlain_of_mem_tableRow`: A row whose totals can be read back can be read back
  whole.
* `Report.length_tableRow`: A row is filled up with empty cells to the number of columns.
* `Report.exists_grid_tableOf`: What the table of written totals has in its rows is read
  back, with as many columns as the longest row of totals needs.
* `Report.totalsTable_eq_tableOf`: Short totals are written as their numerals.
* `Report.exists_grid_totals`: The table of short totals is read back as their numerals.
* `RollSet.exists_greatest_length`: One of some sets is the widest.
* `RollSet.exists_grid_totalsTable`: What is read from the table of totals of some sets.
* `RollSet.exists_grid_totalsTable_two_sets`: Two dice and a loss in the first set, and
  only one expression in the second.
-/

namespace DiceRoller

open Text

namespace Table

/-- The fields of a line: what stands between its bars, without the blanks at the ends. -/
def fields (line : Text) : List Text := (splitOn '|' line).map trim

/-- The fields of all lines of a text. -/
def grid (t : Text) : List (List Text) := (splitOn '\n' t).map fields

/-- Where the bars of a line stand. -/
def bars (line : Text) : List Nat := line.findIdxs (· == '|')

/-- A text that can be read back when it is put into a cell. -/
structure IsPlain (cell : Text) : Prop where
  trim_eq : cell.trim = cell
  no_bar : '|' ∉ cell
  no_break : '\n' ∉ cell

section Fields

/-- Blanks behind a line do not change its fields. -/
theorem fields_append {blanks : Text} (h : ∀ c ∈ blanks, isBlank c = true) (line : Text) :
    fields (line ++ blanks) = fields line := by
  have hbar : '|' ∉ blanks := fun hmem => absurd (h _ hmem) (by decide)
  rcases splitOn_append hbar line with ⟨front, last, hline, happend⟩
  rw [fields, fields, hline, happend, List.map_append, List.map_append, List.map_singleton,
    List.map_singleton, trim_append h]

theorem fields_trimEnd (line : Text) : fields line.trimEnd = fields line := by
  rcases exists_trimEnd line with ⟨blanks, hblanks, hline⟩
  rw [← fields_append hblanks, ← hline]

theorem fields_space_cons (line : Text) : fields (' ' :: line) = fields line := by
  have hspace : ∀ t : Text, trim ([' '] ++ t) = t.trim :=
    trim_blanks_append (List.forall_mem_singleton.mpr rfl)
  rw [fields, fields, splitOn, if_neg (by decide)]
  rcases hsplit : splitOn '|' line with _ | ⟨first, more⟩
  · exact absurd hsplit (splitOn_ne_nil '|' line)
  · exact congrArg (· :: more.map trim) (hspace first)

theorem fields_of_not_mem {line : Text} (h : '|' ∉ line) : fields line = [line.trim] := by
  have hsplit : splitOn '|' line = [line] :=
    splitOn_join (List.forall_mem_singleton.mpr h) (List.cons_ne_nil line [])
  rw [fields, hsplit, List.map_singleton]

/-- Pieces that are joined by bars are the fields, blanks apart. -/
theorem fields_join {pieces : List Text} (h : ∀ piece ∈ pieces, '|' ∉ piece)
    (hne : pieces ≠ []) : fields (join bar pieces) = pieces.map trim := by
  induction pieces with
  | nil => exact absurd rfl hne
  | cons piece pieces ih =>
      have hpiece := fields_of_not_mem (h piece List.mem_cons_self)
      by_cases hmore : pieces = []
      · rw [hmore]
        exact hpiece
      · -- The bar of the separator has a space on either side, which belongs to the field
        -- there.
        have hline : join bar (piece :: pieces)
            = (piece ++ [' ']) ++ '|' :: ' ' :: join bar pieces := by
          rw [join_cons bar piece hmore, List.append_assoc]
          rfl
        have hrest := ih (fun t ht => h t (List.mem_cons_of_mem piece ht)) hmore
        rw [hline, fields, splitOn_append_cons, List.map_append, ← fields, ← fields,
          fields_append (List.forall_mem_singleton.mpr rfl), fields_space_cons, hpiece, hrest]
        rfl

end Fields

section Bars

theorem bars_of_not_mem {line : Text} (h : '|' ∉ line) : bars line = [] :=
  List.findIdxs_eq_nil_iff.mpr fun _ hc => beq_eq_false_iff_ne.mpr fun heq => h (heq ▸ hc)

/-- The bars of a text behind another are shifted by its length. -/
theorem bars_append (t u : Text) : bars (t ++ u) = bars t ++ (bars u).map (· + t.length) := by
  have hrest : u.findIdxs (· == '|') t.length = (bars u).map (· + t.length) := List.findIdxs_start
  rw [bars, List.findIdxs_append, Nat.zero_add, hrest]
  rfl

/-- A line that loses its blanks at the end loses no bar. -/
theorem bars_trimEnd (line : Text) : bars line.trimEnd = bars line := by
  rcases exists_trimEnd line with ⟨blanks, hblanks, hline⟩
  have hbar : '|' ∉ blanks := fun hmem => absurd (hblanks _ hmem) (by decide)
  conv_rhs => rw [hline, bars_append, bars_of_not_mem hbar]
  exact (List.append_nil _).symm

/-- There is one field more than there are bars. -/
theorem length_fields (line : Text) : (fields line).length = (bars line).length + 1 := by
  rw [fields, List.length_map, length_splitOn, bars, List.length_findIdxs]

/-- Where the bars between some pieces stand depends on the lengths of the pieces only. -/
theorem bars_join {pieces : List Text} (h : ∀ piece ∈ pieces, '|' ∉ piece) :
    bars (join bar pieces) = bars (join bar ((pieces.map List.length).map spaces)) := by
  have hspaces : ∀ n, '|' ∉ spaces n := fun n hmem =>
    absurd (List.eq_of_mem_replicate hmem) (by decide)
  induction pieces with
  | nil => rfl
  | cons piece pieces ih =>
      have hpiece := bars_of_not_mem (h piece List.mem_cons_self)
      have hrest := ih fun t ht => h t (List.mem_cons_of_mem piece ht)
      by_cases hmore : pieces = []
      · rw [hmore]
        exact hpiece.trans (bars_of_not_mem (hspaces piece.length)).symm
      · -- The bars further on are shifted by the length of the piece, whatever it is.
        have hmore' : (pieces.map List.length).map spaces ≠ [] := by
          rwa [Ne, List.map_eq_nil_iff, List.map_eq_nil_iff]
        rw [join_cons bar piece hmore, List.map_cons, List.map_cons, join_cons bar _ hmore',
          bars_append, bars_append (spaces _), bars_append bar, bars_append bar, hpiece,
          bars_of_not_mem (hspaces _), hrest, spaces, List.length_replicate]

end Bars

section Rows

variable {ws : List Nat} {entries : List Text}

/-- Cells that fit their columns are the same, blanks apart, once they are padded. -/
theorem map_trim_zipWith_align {center : Bool}
    (h : List.Forall₂ (fun w cell => cell.length ≤ w) ws entries) :
    (List.zipWith (align center) ws entries).map trim = entries.map trim := by
  induction h with
  | nil => rfl
  | cons _ _ ih => rw [List.zipWith_cons_cons, List.map_cons, trim_align, ih, List.map_cons]

/-- The fields of a row are its cells. -/
theorem fields_row (center : Bool) (hne : ws ≠ []) (hplain : ∀ cell ∈ entries, IsPlain cell)
    (h : List.Forall₂ (fun w cell => cell.length ≤ w) ws entries) :
    fields (row bar center ws entries) = entries := by
  have hpieces : List.zipWith (align center) ws entries ≠ [] := by
    intro hnil
    have hlength : (List.zipWith (align center) ws entries).map List.length = ws :=
      map_length_zipWith_align h
    rw [hnil] at hlength
    exact hne hlength.symm
  -- Plain cells are found as they were, because there was nothing to trim.
  have htrim : entries.map trim = entries :=
    (List.map_congr_left fun cell hcell => (hplain cell hcell).trim_eq).trans (List.map_id' _)
  have hbars : ∀ piece ∈ List.zipWith (align center) ws entries, '|' ∉ piece :=
    not_mem_of_mem_zipWith_align (by decide) fun cell hcell => (hplain cell hcell).no_bar
  rw [row_eq bar hne, fields_trimEnd, fields_join hbars hpieces, map_trim_zipWith_align h, htrim]

/-- Its bars stand where they would stand between blank cells of the same widths. -/
theorem bars_row (center : Bool) (hne : ws ≠ []) (hplain : ∀ cell ∈ entries, IsPlain cell)
    (h : List.Forall₂ (fun w cell => cell.length ≤ w) ws entries) :
    bars (row bar center ws entries) = bars (join bar (ws.map spaces)) := by
  have hbars : ∀ piece ∈ List.zipWith (align center) ws entries, '|' ∉ piece :=
    not_mem_of_mem_zipWith_align (by decide) fun cell hcell => (hplain cell hcell).no_bar
  rw [row_eq bar hne, bars_trimEnd, bars_join hbars, map_length_zipWith_align h]

/-- The fields of a divider are its dashes. -/
theorem fields_divider (hne : ws ≠ []) :
    fields (divider bar ws) = ws.map fun w => List.replicate w '-' := by
  -- There is nothing to trim from a dash.
  have hdashes : ∀ w, trim (List.replicate w '-') = List.replicate w '-' := by
    refine fun w => trim_eq_self_of_forall fun c hc => ?_
    rw [List.eq_of_mem_replicate hc]
    rfl
  have hpieces : (ws.map fun w => List.replicate w '-') ≠ [] := List.map_eq_nil_iff.not.mpr hne
  rw [divider_eq, fields_trimEnd, fields_join (not_mem_of_mem_dashes (by decide)) hpieces,
    List.map_map]
  exact List.map_congr_left fun w _ => hdashes w

/-- The bars of a divider stand where those of a row of the same widths do. -/
theorem bars_divider : bars (divider bar ws) = bars (join bar (ws.map spaces)) := by
  rw [divider_eq, bars_trimEnd, bars_join (not_mem_of_mem_dashes (by decide)), map_length_dashes]

end Rows

/-- A table with a header is read back. Its grid is the header, a row of dashes, as many of them
    in a column as the column is wide, and the other rows. All lines have their bars at the same
    places. -/
theorem exists_grid_render (center : Bool) {first : List Text} {rest : List (List Text)}
    {count : Nat} (hlength : ∀ r ∈ first :: rest, r.length = count + 1)
    (hplain : ∀ r ∈ first :: rest, ∀ cell ∈ r, IsPlain cell) :
    ∃ (t : Text) (ws places : List Nat), render bar center true (first :: rest) = .ok t ∧
      grid t = first :: (ws.map fun w => List.replicate w '-') :: rest ∧
      ws.length = count + 1 ∧ (∀ k w, ws[k]? = some w → IsWidth (first :: rest) k w) ∧
      places.length = count ∧ ∀ line ∈ splitOn '\n' t, bars line = places := by
  rcases exists_rowsWith (List.cons_ne_nil first rest) hlength with
    ⟨ws, hcount, hwidths, hfits, hrender⟩
  have hws : ws ≠ [] := List.ne_nil_of_length_eq_add_one hcount
  -- No cell breaks a line, so the lines of the text are those that were laid out.
  have hlines : splitOn '\n' (join ['\n'] (rowsWith bar center true ws (first :: rest)))
      = row bar true ws first :: divider bar ws :: rest.map (row bar center ws) := by
    refine splitOn_join (fun line hline => ?_) (rowsWith_ne_nil bar center true ws ?_)
    · exact not_mem_of_mem_rowsWith center true hws (by decide) (by decide) (by decide)
        (fun r hr cell hcell => (hplain r hr cell hcell).no_break) hline
    · exact List.cons_ne_nil first rest
  -- The header is centred and the other rows are not, so each line is looked at both ways.
  have hfields : ∀ center, ∀ r ∈ first :: rest, fields (row bar center ws r) = r :=
    fun center r hr => fields_row center hws (hplain r hr) (hfits r hr)
  have hbars : ∀ center, ∀ r ∈ first :: rest,
      bars (row bar center ws r) = bars (join bar (ws.map spaces)) :=
    fun center r hr => bars_row center hws (hplain r hr) (hfits r hr)
  refine ⟨_, ws, bars (join bar (ws.map spaces)), hrender bar center true, ?_, hcount, hwidths,
    ?_, ?_⟩
  · have hrest : rest.map (fields ∘ row bar center ws) = rest :=
      (List.map_congr_left fun r hr => hfields center r (List.mem_cons_of_mem first hr)).trans
        (List.map_id' _)
    rw [grid, hlines, List.map_cons, List.map_cons, hfields true first List.mem_cons_self,
      fields_divider hws, List.map_map, hrest]
  · -- The dashes have one field for each column.
    have hdashes := length_fields (divider bar ws)
    rw [fields_divider hws, List.length_map, bars_divider, hcount] at hdashes
    exact (Nat.succ.inj hdashes).symm
  · rw [hlines]
    intro line hline
    rcases List.mem_cons.mp hline with rfl | hline
    · exact hbars true first List.mem_cons_self
    · rcases List.mem_cons.mp hline with rfl | hline
      · exact bars_divider
      · rcases List.mem_map.mp hline with ⟨r, hr, rfl⟩
        exact hbars center r (List.mem_cons_of_mem first hr)

section Plain

/-- No character of what is displayed is a blank. -/
theorem isBlank_of_isShown {c : Char} (h : Decoder.isShown c = true) : isBlank c = false := by
  rw [Decoder.isShown, Bool.or_eq_true] at h
  rcases h with h | h
  · exact isBlank_of_isDigit h
  · -- The brackets, the tilde and the signs, one by one.
    have hmarks : ∀ c ∈ ['[', ']', '~', '+', '-'], isBlank c = false := by
      simp only [List.forall_mem_cons]
      exact ⟨rfl, rfl, rfl, rfl, rfl, List.forall_mem_nil _⟩
    exact hmarks c (List.contains_iff_mem.mp h)

theorem isPlain_ofInt (n : Int) : IsPlain (ofInt n) where
  trim_eq := trim_eq_self_of_forall fun _ hc => isBlank_of_isShown (Decoder.isShown_ofInt hc)
  no_bar := fun hmem => absurd (Decoder.isShown_ofInt hmem) (by decide)
  no_break := fun hmem => absurd (Decoder.isShown_ofInt hmem) (by decide)

theorem isPlain_ofNat (n : Nat) : IsPlain (ofNat n) := isPlain_ofInt n

theorem isPlain_nil : IsPlain [] := ⟨rfl, List.not_mem_nil, List.not_mem_nil⟩

/-- The name of a column can be read back too, although it has a blank in its middle. -/
theorem isPlain_expr (n : Nat) : IsPlain ("Expr ".toList ++ ofNat n) := by
  have hnumeral := isPlain_ofNat n
  have hname : ∀ c, c ∉ "Expr ".toList → c ∉ ofNat n → c ∉ "Expr ".toList ++ ofNat n :=
    fun c hname hdigits hmem => (List.mem_append.mp hmem).elim hname hdigits
  refine ⟨trim_eq_self (fun c hc => ?_) fun c hc => ?_, hname _ (by decide) hnumeral.no_bar,
    hname _ (by decide) hnumeral.no_break⟩
  · cases (Option.some.inj hc : 'E' = c)
    rfl
  · -- The last character is one of the numeral.
    rw [List.getLast?_append_of_ne_nil _ (Decoder.isDigits_ofNat n).1] at hc
    exact isBlank_of_isDigit (Numeral.isDigit_of_mem_ofNat (List.mem_of_getLast? hc))

end Plain

end Table

namespace Report

open Table

variable {n : Nat}

/-- The names of the columns can be read back, and none of them is empty. -/
theorem isPlain_of_mem_tableHead : ∀ cell ∈ tableHead n, IsPlain cell ∧ 1 ≤ cell.length := by
  intro cell hcell
  rcases List.mem_cons.mp hcell with rfl | hcell
  · exact ⟨⟨by decide, by decide, by decide⟩, by decide⟩
  · rcases List.mem_map.mp hcell with ⟨k, -, rfl⟩
    exact ⟨isPlain_expr (k + 1), Nat.succ_le_succ (Nat.zero_le _)⟩

/-- A row whose totals can be read back can be read back whole. -/
theorem isPlain_of_mem_tableRow (number : Nat) {totals : List Text}
    (h : ∀ t ∈ totals, IsPlain t) : ∀ cell ∈ tableRow n number totals, IsPlain cell := by
  intro cell hcell
  rcases List.mem_append.mp hcell with hcell | hcell
  · rcases List.mem_cons.mp hcell with rfl | hcell
    · exact isPlain_ofNat number
    · exact h cell hcell
  · rw [List.eq_of_mem_replicate hcell]
    exact isPlain_nil

/-- A row is filled up with empty cells to the number of columns. -/
theorem length_tableRow (number : Nat) {totals : List Text} (h : totals.length ≤ n) :
    (tableRow n number totals).length = n + 1 := by
  rw [tableRow, List.length_append, List.length_cons, List.length_replicate]
  omega

/-- What the table of written totals has in its rows is read back, with as many columns as the
    longest row of totals needs. -/
theorem exists_grid_tableOf {written : List (List Text)}
    (hn : IsGreatest {m | ∃ ts ∈ written, ts.length = m} n)
    (hplain : ∀ ts ∈ written, ∀ t ∈ ts, IsPlain t) :
    ∃ (t : Text) (ws places : List Nat), tableOf written = .ok t ∧
      grid t = tableHead n :: (ws.map fun w => List.replicate w '-') ::
        (written.zipIdx.map fun p => tableRow n (p.2 + 1) p.1) ∧
      ws.length = n + 1 ∧ (∀ w ∈ ws, 1 ≤ w) ∧
      places.length = n ∧ ∀ line ∈ splitOn '\n' t, bars line = places := by
  -- The number of columns is worked out as a greatest length, with none for no rows.
  have hmax : (written.map List.length).max?.getD 0 = n := by
    have hsome : (written.map List.length).max? = some n := by
      refine List.max?_eq_some_iff.mpr ⟨List.mem_map.mpr hn.1, fun m hm => ?_⟩
      exact hn.2 (List.mem_map.mp hm)
    rw [hsome, Option.getD_some]
  have hrow : ∀ p ∈ written.zipIdx, p.1 ∈ written := fun p hp => List.fst_mem_of_mem_zipIdx hp
  have hlength : ∀ r ∈ tableHead n :: written.zipIdx.map (fun p => tableRow n (p.2 + 1) p.1),
      r.length = n + 1 := by
    intro r hr
    rcases List.mem_cons.mp hr with rfl | hr
    · rw [tableHead, List.length_cons, List.length_map, List.length_range]
    · rcases List.mem_map.mp hr with ⟨p, hp, rfl⟩
      exact length_tableRow _ (hn.2 ⟨p.1, hrow p hp, rfl⟩)
  have hcells : ∀ r ∈ tableHead n :: written.zipIdx.map (fun p => tableRow n (p.2 + 1) p.1),
      ∀ cell ∈ r, IsPlain cell := by
    intro r hr
    rcases List.mem_cons.mp hr with rfl | hr
    · exact fun cell hcell => (isPlain_of_mem_tableHead cell hcell).1
    · rcases List.mem_map.mp hr with ⟨p, hp, rfl⟩
      exact isPlain_of_mem_tableRow _ (hplain p.1 (hrow p hp))
  rcases exists_grid_render false hlength hcells with
    ⟨t, ws, places, hrender, hgrid, hcount, hwidths, hplaces, hbars⟩
  refine ⟨t, ws, places, ?_, hgrid, hcount, fun w hw => ?_, hplaces, hbars⟩
  · rw [tableOf, tableRows, hmax, hrender]
  · -- A column is at least as wide as its name in the head.
    rcases List.mem_iff_getElem?.mp hw with ⟨k, hk⟩
    have hlt : k < (tableHead n).length := by
      rw [hlength _ List.mem_cons_self, ← hcount]
      exact (List.getElem?_eq_some_iff.mp hk).1
    have hname : (tableHead n)[k].length ≤ w :=
      (hwidths k w hk).2 ⟨_, List.mem_cons_self, _, List.getElem?_eq_getElem hlt, rfl⟩
    exact (isPlain_of_mem_tableHead _ (List.getElem_mem hlt)).2.trans hname

/-- Short totals are written as their numerals. -/
theorem totalsTable_eq_tableOf {totals : List (List Int)} (hne : totals ≠ [])
    (h : ∀ ns ∈ totals, ∀ n ∈ ns, Numeral.IsShort n) :
    totalsTable totals = tableOf (totals.map fun ns => ns.map ofInt) := by
  have hwritten : (totals.mapM fun ns => ns.mapM totalText)
      = .ok (totals.map fun ns => ns.map ofInt) := by
    rw [mapM_eq_ok_iff, List.forall₂_map_right_iff, List.forall₂_same]
    exact fun ns hns => mapM_totalText (h ns hns)
  rw [totalsTable, if_neg hne, hwritten]
  rfl

/-- The table of short totals is read back as their numerals. -/
theorem exists_grid_totals {totals : List (List Int)}
    (hn : IsGreatest {m | ∃ ns ∈ totals, ns.length = m} n)
    (h : ∀ ns ∈ totals, ∀ n ∈ ns, Numeral.IsShort n) :
    ∃ (t : Text) (ws places : List Nat), totalsTable totals = .ok t ∧
      grid t = tableHead n :: (ws.map fun w => List.replicate w '-') ::
        (totals.zipIdx.map fun p =>
          ofNat (p.2 + 1) :: (p.1.map ofInt ++ List.replicate (n - p.1.length) [])) ∧
      ws.length = n + 1 ∧ (∀ w ∈ ws, 1 ≤ w) ∧
      places.length = n ∧ ∀ line ∈ splitOn '\n' t, bars line = places := by
  have hne : totals ≠ [] := by
    rcases hn.1 with ⟨ns, hns, -⟩
    exact List.ne_nil_of_mem hns
  have hn' : IsGreatest {m | ∃ ts ∈ totals.map fun ns => ns.map ofInt, ts.length = m} n := by
    simpa only [List.mem_map, exists_exists_and_eq_and, List.length_map] using hn
  have hplain : ∀ ts ∈ totals.map fun ns => ns.map ofInt, ∀ t ∈ ts, IsPlain t := by
    intro ts hts t ht
    rcases List.mem_map.mp hts with ⟨ns, -, rfl⟩
    rcases List.mem_map.mp ht with ⟨m, -, rfl⟩
    exact isPlain_ofInt m
  have hrow : ∀ p : List Int × Nat, tableRow n (p.2 + 1) (p.1.map ofInt)
      = ofNat (p.2 + 1) :: (p.1.map ofInt ++ List.replicate (n - p.1.length) []) := by
    intro p
    rw [tableRow, List.length_map]
    rfl
  rcases exists_grid_tableOf hn' hplain with ⟨t, ws, places, htable, hgrid, hmore⟩
  refine ⟨t, ws, places, (totalsTable_eq_tableOf hne h).trans htable, ?_, hmore⟩
  rw [hgrid, List.zipIdx_map, List.map_map]
  exact congrArg _ (congrArg _ (List.map_congr_left fun p _ => hrow p))

end Report

namespace RollSet

open Table

/-- One of some sets is the widest. -/
theorem exists_greatest_length {sets : List RollSet} (hne : sets ≠ []) :
    ∃ n, IsGreatest {m | ∃ s ∈ sets, s.expressions.length = m} n := by
  rcases hmax : (sets.map fun s => s.expressions.length).max? with _ | n
  · exact absurd (List.map_eq_nil_iff.mp (List.max?_eq_none_iff.mp hmax)) hne
  · rcases List.max?_eq_some_iff.mp hmax with ⟨hmem, hle⟩
    exact ⟨n, List.mem_map.mp hmem, fun m hm => hle m (List.mem_map.mpr hm)⟩

/-- The table of the totals of some sets can be read back. Divided into fields it has the names of
    its columns, as many as the widest set needs, dashes, and for each set its number, its totals
    in decimal and in order, and empty fields in the columns that are left. In all lines the bars
    stand at the same places. -/
theorem exists_grid_totalsTable (sets : List RollSet) (hne : sets ≠ [])
    (hsigns : ∀ s ∈ sets, ∀ e ∈ s.expressions, ∀ p ∈ e.terms, p.1 = .plus ∨ p.1 = .minus)
    (hshort : ∀ s ∈ sets, ∀ ns, s.totals = .ok ns → ∀ n ∈ ns, Numeral.IsShort n) :
    ∃ (totals : List (List Int)) (t : Text) (n : Nat) (ws places : List Nat),
      List.Forall₂ (fun s ns => s.totals = .ok ns) sets totals ∧
      (sets.mapM reportedTotals >>= Report.totalsTable) = .ok t ∧
      IsGreatest {m | ∃ s ∈ sets, s.expressions.length = m} n ∧
      grid t = ("Roll".toList :: (List.range n).map fun j => "Expr ".toList ++ ofNat (j + 1)) ::
        (ws.map fun w => List.replicate w '-') ::
        (totals.zipIdx.map fun p =>
          ofNat (p.2 + 1) :: (p.1.map ofInt ++ List.replicate (n - p.1.length) [])) ∧
      ws.length = n + 1 ∧ (∀ w ∈ ws, 1 ≤ w) ∧
      places.length = n ∧ ∀ line ∈ splitOn '\n' t, bars line = places := by
  have htotals : ∀ s ∈ sets, s.totals = .ok (s.expressions.map Expression.worth) :=
    fun s hs => totals_eq_worth (hsigns s hs)
  have hreported : sets.mapM reportedTotals
      = .ok (sets.map fun s => s.expressions.map Expression.worth) := by
    rw [mapM_eq_ok_iff, List.forall₂_map_right_iff, List.forall₂_same]
    intro s hs
    rw [reportedTotals, htotals s hs]
  have hshort' : ∀ ns ∈ sets.map fun s => s.expressions.map Expression.worth,
      ∀ n ∈ ns, Numeral.IsShort n := by
    intro ns hns
    rcases List.mem_map.mp hns with ⟨s, hs, rfl⟩
    exact hshort s hs _ (htotals s hs)
  rcases exists_greatest_length hne with ⟨n, hn⟩
  -- A set has as many totals as expressions.
  have hn' : IsGreatest {m | ∃ ns ∈ sets.map fun s => s.expressions.map Expression.worth,
      ns.length = m} n := by
    simpa only [List.mem_map, exists_exists_and_eq_and, List.length_map] using hn
  rcases Report.exists_grid_totals hn' hshort' with ⟨t, ws, places, htable, hmore⟩
  refine ⟨sets.map fun s => s.expressions.map Expression.worth, t, n, ws, places, ?_, ?_, hn,
    ?_⟩
  · rw [List.forall₂_map_right_iff, List.forall₂_same]
    exact htotals
  · rw [hreported]
    exact htable
  · exact hmore

-- Two dice and a loss in the first set, and only one expression in the second.
theorem exists_grid_totalsTable_two_sets :
    ∃ t, (List.mapM reportedTotals
        [⟨[⟨[(.plus, .roll ((Roll.fresh 2 (.plain 6) []).throw ⟨fun _ => 2, 0⟩).1)]⟩,
          ⟨[(.minus, .constant 10)]⟩], none⟩, ⟨[⟨[(.plus, .constant 12)]⟩], none⟩] >>=
        Report.totalsTable) = .ok t ∧
      grid t = [["Roll".toList, "Expr 1".toList, "Expr 2".toList],
        ["----".toList, "------".toList, "------".toList],
        [['1'], ['6'], "-10".toList], [['2'], "12".toList, []]] ∧
      ∀ line ∈ splitOn '\n' t, bars line = [5, 14] := by
  have hdigits : ∀ n ∈ [6, -10, 12], Numeral.IsShort n := by
    intro n hn
    refine (Numeral.length_ofNat_le_iff n.natAbs).mp ?_
    revert n
    decide
  have hshort : ∀ s ∈
      ([⟨[⟨[(.plus, .roll ((Roll.fresh 2 (.plain 6) []).throw ⟨fun _ => 2, 0⟩).1)]⟩,
        ⟨[(.minus, .constant 10)]⟩], none⟩, ⟨[⟨[(.plus, .constant 12)]⟩], none⟩] : List RollSet),
      ∀ ns, s.totals = .ok ns → ∀ n ∈ ns, Numeral.IsShort n := by
    intro s hs ns hns n hn
    rcases List.mem_pair.mp hs with rfl | rfl
    · have hloss : ns = [6, -10] := Except.ok.inj (hns.symm.trans (by cbv))
      rw [hloss] at hn
      exact hdigits n (List.mem_append_left [12] hn)
    · have hgain : ns = [12] := Except.ok.inj (hns.symm.trans (by cbv))
      rw [hgain] at hn
      exact hdigits n (List.mem_append_right [6, -10] hn)
  rcases exists_grid_totalsTable _ (by decide) (by decide) hshort with
    ⟨totals, t, n, ws, places, -, ht, -, -, -, -, -, hbars⟩
  have htext : t = join ['\n'] ["Roll | Expr 1 | Expr 2".toList, "---- | ------ | ------".toList,
      "1    | 6      | -10".toList, "2    | 12     |".toList] :=
    Except.ok.inj (ht.symm.trans (by cbv))
  have hhead : "Roll | Expr 1 | Expr 2".toList ∈ splitOn '\n' t := by
    rw [htext]
    decide +kernel
  refine ⟨t, ht, ?_, fun line hline => ?_⟩
  · rw [htext]
    decide +kernel
  · rw [hbars line hline, ← hbars _ hhead]
    decide +kernel

end RollSet

end DiceRoller
