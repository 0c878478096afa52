import DiceRoller.Proofs.Grammar.Letters
import DiceRoller.Proofs.Grammar.Margins
import DiceRoller.Proofs.Text.Pieces
import Mathlib.Data.List.Forall2

/-!
# Segments

A notation taken apart at its semicolons. The reader never does that: it reads one
expression after the other from what is left of the text, and looks for a separator
behind each of them. It is shown here that it could. The pieces between the semicolons
are read or refused each on its own, the text is read exactly if all of them are, and
its expressions are theirs. A blank piece behind the last semicolon belongs to that
semicolon and counts for none.

This is so for texts in which all blanks are ASCII blanks. Around a semicolon no other
blank is skipped, while at the ends of a piece that stands alone any blank is trimmed.

Both directions go through one kind of form. A segment is an expression between blanks.
The text of a notation is the texts of segments with semicolons between them, perhaps
with blanks behind one more semicolon, and every such text is the text of a notation.

## Main definitions

* `Text.dropBlankEnd`, `Text.segments`: The pieces between the semicolons that count.
* `SegmentForm`: An expression between ASCII blanks.
* `SegmentForm.lineUp`: The text of segments in order.

## Theorems

* `Text.dropBlankEnd_append`: A last piece is dropped exactly if it is blank, provided
  that another stands before it and that one is not blank.
* `Text.exists_dropBlankEnd_append`: What is dropped is at most one piece, which is blank.
* `SpaceRun.not_mem`: A blank is no semicolon.
* `ExpressionForm.not_mem`: There is no semicolon in an expression.
* `SegmentForm.not_mem`: There is no semicolon in a segment.
* `SegmentForm.all_isBlank_text`: A segment is not blank, since the expression in it ends
  in a letter or a digit.
* `SegmentForm.lineUp_cons`: Behind the first segment stands a semicolon and then the
  others.
* `SegmentForm.segments_lineUp`, `SegmentForm.exists_lineUp`: Segments with semicolons
  between them, perhaps with a blank end, are cut into those segments, and a text that is
  cut into segments is such a row.
* `SegmentForm.exists_moreText`: Behind its front a row of segments is an expression with
  more of them behind separators.
* `NotationForm.exists_lineUp_of_moreText`: Behind its margin a notation is a row of
  segments, the first of which has the margin for its front.
* `NotationForm.exists_segments`, `SegmentForm.exists_notation`: Notations are segments in
  order.
* `SegmentForm.exists_of_read`, `SegmentForm.read_text`: A piece is read on its own
  exactly if it is a segment.
* `SegmentForm.exists_map_of_read`: Pieces that are each read on their own are segments.
* `Text.mem_splitOn_of_mem_segments`: A segment is one of the pieces between the
  semicolons.
* `Text.subset_of_mem_segments`: A segment has only characters of the text.
* `RollSet.exists_segments_of_read`: The segments of a text that is read are segments, and
  give its expressions.
* `RollSet.exists_read_of_segments`: A text of which each segment is read on its own is
  read.
* `RollSet.read_iff_segments`: A text is read exactly if its segments are.
* `RollSet.read_iff_segments_roll_and_constant`: Two segments with blanks around them and
  behind one more semicolon.
-/

namespace DiceRoller

namespace Text

/-- Without the last piece, if that is blank and not the only one. -/
def dropBlankEnd (pieces : List Text) : List Text :=
  if 1 < pieces.length ∧ (pieces.getLastD []).all isBlank = true then pieces.dropLast else pieces

/-- The pieces between the semicolons, without a blank one behind the last semicolon. -/
def segments (t : Text) : List Text := dropBlankEnd (splitOn ';' t)

/-- A last piece is dropped exactly if it is blank, provided that another stands before
    it and that one is not blank. -/
theorem dropBlankEnd_append {pieces last : List Text} (hne : pieces ≠ [])
    (hpieces : ∀ t ∈ pieces, t.all isBlank = false)
    (hlast : last = [] ∨ ∃ b : Text, b.all isBlank = true ∧ last = [b]) :
    dropBlankEnd (pieces ++ last) = pieces := by
  rcases hlast with rfl | ⟨b, hb, rfl⟩
  · rcases List.eq_nil_or_concat' pieces with hnil | ⟨front, t, rfl⟩
    · exact absurd hnil hne
    · have ht := hpieces t (List.mem_append_right _ List.mem_cons_self)
      rw [List.append_nil, dropBlankEnd, List.getLastD_concat, ht, if_neg]
      exact fun h => Bool.false_ne_true h.2
  · rw [dropBlankEnd, List.getLastD_concat, List.dropLast_concat, if_pos]
    refine ⟨?_, hb⟩
    have hlen := List.length_pos_iff.mpr hne
    rw [List.length_append, List.length_singleton]
    omega

/-- What is dropped is at most one piece, which is blank. -/
theorem exists_dropBlankEnd_append {pieces : List Text} (hne : pieces ≠ []) :
    dropBlankEnd pieces ≠ [] ∧ ∃ last : List Text, pieces = dropBlankEnd pieces ++ last ∧
      (last = [] ∨ ∃ b : Text, b.all isBlank = true ∧ last = [b]) := by
  rcases List.eq_nil_or_concat' pieces with hnil | ⟨front, t, rfl⟩
  · exact absurd hnil hne
  · rw [dropBlankEnd, List.getLastD_concat, List.dropLast_concat]
    split
    · rename_i h
      refine ⟨?_, [t], rfl, .inr ⟨t, h.2, rfl⟩⟩
      rintro rfl
      exact absurd h.1 (Nat.lt_irrefl 1)
    · exact ⟨hne, [], (List.append_nil _).symm, .inl rfl⟩

end Text

open Text

theorem SpaceRun.not_mem (b : SpaceRun) : ';' ∉ b.text := fun h =>
  absurd (b.isLetter h) (by decide)

variable {maxDice maxFaces : Nat}

theorem ExpressionForm.not_mem (f : ExpressionForm maxDice maxFaces) : ';' ∉ f.text := fun h =>
  absurd (f.isLetter h) (by decide)

/-- An expression between ASCII blanks. -/
structure SegmentForm (maxDice maxFaces : Nat) where
  before : SpaceRun
  expression : ExpressionForm maxDice maxFaces
  after : SpaceRun

namespace SegmentForm

/-- The segment as it is written. -/
def text (f : SegmentForm maxDice maxFaces) : Text :=
  f.before.text ++ (f.expression.text ++ f.after.text)

/-- The expression that is meant. -/
def value (f : SegmentForm maxDice maxFaces) : Expression := f.expression.value

/-- Segments with semicolons between them, perhaps with one more and blanks behind it. -/
def lineUp (fs : List (SegmentForm maxDice maxFaces)) (last : Option SpaceRun) : Text :=
  join [';'] (fs.map text ++ last.toList.map SpaceRun.text)

theorem not_mem (f : SegmentForm maxDice maxFaces) : ';' ∉ f.text := by
  simp only [text, List.mem_append, not_or]
  exact ⟨f.before.not_mem, f.expression.not_mem, f.after.not_mem⟩

/-- A segment is not blank, since the expression in it ends in a letter or a digit. -/
theorem all_isBlank_text (f : SegmentForm maxDice maxFaces) : f.text.all isBlank = false := by
  rcases f.expression.endsInTerm with ⟨front, c, htext, hc, -⟩
  rw [List.all_eq_false]
  refine ⟨c, ?_, by rw [hc]; exact Bool.false_ne_true⟩
  simp only [text, htext, List.mem_append, List.mem_singleton, or_true, true_or]

/-- Behind the first segment stands a semicolon and then the others. -/
theorem lineUp_cons (f g : SegmentForm maxDice maxFaces)
    (fs : List (SegmentForm maxDice maxFaces)) (last : Option SpaceRun) :
    lineUp (f :: g :: fs) last = f.text ++ ';' :: lineUp (g :: fs) last :=
  join_cons _ _ (List.cons_ne_nil _ _)

/-- The segments of a text made of segments are those. -/
theorem segments_lineUp {fs : List (SegmentForm maxDice maxFaces)} (hne : fs ≠ [])
    (last : Option SpaceRun) : (lineUp fs last).segments = fs.map text := by
  have hpieces : ∀ t ∈ fs.map text ++ last.toList.map SpaceRun.text, ';' ∉ t := by
    intro t ht
    rcases List.mem_append.mp ht with ht | ht
    · rcases List.mem_map.mp ht with ⟨f, -, rfl⟩
      exact f.not_mem
    · rcases List.mem_map.mp ht with ⟨b, -, rfl⟩
      exact b.not_mem
  have hmap : fs.map text ≠ [] := fun h => hne (List.map_eq_nil_iff.mp h)
  rw [segments, lineUp, splitOn_join hpieces (List.append_ne_nil_of_left_ne_nil hmap _)]
  -- No segment is blank, and what stands behind the last semicolon is.
  refine dropBlankEnd_append hmap ?_ ?_
  · intro t ht
    rcases List.mem_map.mp ht with ⟨f, -, rfl⟩
    exact f.all_isBlank_text
  · cases last with
    | none => exact .inl rfl
    | some b =>
        refine .inr ⟨b.text, List.all_eq_true.mpr fun c hc => ?_, rfl⟩
        exact isBlank_of_isSpace (b.isSpace c hc)

/-- A text is made of its segments, if they are segments and its blanks ASCII blanks. -/
theorem exists_lineUp {t : Text} {fs : List (SegmentForm maxDice maxFaces)}
    (hspace : ∀ c ∈ t, isBlank c = true → isSpace c = true) (h : t.segments = fs.map text) :
    fs ≠ [] ∧ ∃ last : Option SpaceRun, t = lineUp fs last := by
  have hjoin := join_splitOn ';' t
  rcases exists_dropBlankEnd_append (splitOn_ne_nil ';' t) with ⟨hne, last, hsplit, hlast⟩
  rw [segments] at h
  rw [h] at hne hsplit
  rw [hsplit] at hjoin
  refine ⟨fun hnil => hne (List.map_eq_nil_iff.mpr hnil), ?_⟩
  rcases hlast with rfl | ⟨b, hb, rfl⟩
  · exact ⟨none, hjoin.symm⟩
  · -- The piece that was dropped is made of blanks of the text, so they are ASCII blanks.
    have hmem : b ∈ fs.map text ++ [b] := List.mem_append_right _ List.mem_cons_self
    have hrun : ∀ c ∈ b, isSpace c = true := by
      intro c hc
      have hct : c ∈ join [';'] (fs.map text ++ [b]) := subset_join hmem hc
      rw [hjoin] at hct
      exact hspace c hct (List.all_eq_true.mp hb c hc)
    exact ⟨some ⟨b, hrun⟩, hjoin.symm⟩

/-- Behind its front a row of segments is an expression with more of them behind
    separators. -/
theorem exists_moreText (f : SegmentForm maxDice maxFaces)
    (fs : List (SegmentForm maxDice maxFaces)) (last : Option SpaceRun) :
    ∃ (more : List (SeparatorForm × ExpressionForm maxDice maxFaces)) (ending : EndForm),
      lineUp (f :: fs) last
        = f.before.text ++ (f.expression.text ++ NotationForm.moreText more ending) ∧
      more.map Prod.snd = fs.map expression := by
  induction fs generalizing f with
  | nil =>
      cases last with
      | none =>
          refine ⟨[], .blanks ⟨f.after.text, fun c hc => ?_⟩, rfl, rfl⟩
          exact isBlank_of_isSpace (f.after.isSpace c hc)
      | some b =>
          refine ⟨[], .separator ⟨f.after, b⟩, ?_, rfl⟩
          simp only [lineUp, text, List.map_cons, List.map_nil, Option.toList_some,
            List.cons_append, List.nil_append, join, NotationForm.moreText, List.flatMap_nil,
            EndForm.text, SeparatorForm.text, List.append_assoc]
  | cons g fs ih =>
      rcases ih g with ⟨more, ending, hline, hmore⟩
      -- The blanks behind one segment and in front of the next stand around one separator.
      refine ⟨(⟨f.after, g.before⟩, g.expression) :: more, ending, ?_, ?_⟩
      · rw [lineUp_cons, hline]
        simp only [text, NotationForm.moreText, List.flatMap_cons, SeparatorForm.text,
          List.append_assoc, List.cons_append]
      · rw [List.map_cons, hmore, List.map_cons]

/-- Segments in order are a notation. -/
theorem exists_notation {fs : List (SegmentForm maxDice maxFaces)} (hne : fs ≠ [])
    (last : Option SpaceRun) :
    ∃ g : NotationForm maxDice maxFaces, g.text = lineUp fs last ∧
      g.expressions = fs.map value := by
  rcases fs with _ | ⟨f, fs⟩
  · exact absurd rfl hne
  · rcases exists_moreText f fs last with ⟨more, ending, hline, hmore⟩
    have hmargin : ∀ c ∈ f.before.text, isBlank c = true := fun c hc =>
      isBlank_of_isSpace (f.before.isSpace c hc)
    refine ⟨⟨⟨f.before.text, hmargin⟩, f.expression, more, ending⟩, hline.symm, ?_⟩
    rw [NotationForm.expressions, NotationForm.forms, hmore, List.map_cons, List.map_map]
    rfl

end SegmentForm

namespace NotationForm

/-- Behind its margin a notation is a row of segments, the first of which has the margin
    for its front. -/
theorem exists_lineUp_of_moreText (front : SpaceRun) (first : ExpressionForm maxDice maxFaces)
    (more : List (SeparatorForm × ExpressionForm maxDice maxFaces)) {ending : EndForm}
    (hspace : ∀ c ∈ ending.text, isBlank c = true → isSpace c = true) :
    ∃ (f : SegmentForm maxDice maxFaces) (fs : List (SegmentForm maxDice maxFaces))
      (last : Option SpaceRun),
      front.text ++ (first.text ++ moreText more ending) = SegmentForm.lineUp (f :: fs) last ∧
      (f :: fs).map SegmentForm.expression = first :: more.map Prod.snd := by
  induction more generalizing front first with
  | nil =>
      cases ending with
      | blanks b =>
          have hb : ∀ c ∈ b.text, isSpace c = true := fun c hc => hspace c hc (b.isBlank c hc)
          exact ⟨⟨front, first, ⟨b.text, hb⟩⟩, [], none, rfl, rfl⟩
      | separator s =>
          refine ⟨⟨front, first, s.before⟩, [], some s.after, ?_, rfl⟩
          simp only [SegmentForm.lineUp, SegmentForm.text, List.map_cons, List.map_nil,
            Option.toList_some, List.cons_append, List.nil_append, join, moreText,
            List.flatMap_nil, EndForm.text, SeparatorForm.text, List.append_assoc]
  | cons p more ih =>
      rcases p with ⟨s, e⟩
      rcases ih s.after e with ⟨f, fs, last, hline, hforms⟩
      -- The separator is cut at its semicolon, and its blanks go to the two segments.
      refine ⟨⟨front, first, s.before⟩, f :: fs, last, ?_, ?_⟩
      · rw [SegmentForm.lineUp_cons, ← hline]
        simp only [SegmentForm.text, moreText, List.flatMap_cons, SeparatorForm.text,
          List.append_assoc, List.cons_append]
      · rw [List.map_cons, hforms, List.map_cons]

/-- A notation is segments in order, if its blanks are ASCII blanks. -/
theorem exists_segments (g : NotationForm maxDice maxFaces)
    (hspace : ∀ c ∈ g.text, isBlank c = true → isSpace c = true) :
    ∃ (fs : List (SegmentForm maxDice maxFaces)) (last : Option SpaceRun), fs ≠ [] ∧
      g.text = SegmentForm.lineUp fs last ∧ g.expressions = fs.map SegmentForm.value := by
  have hmargin : ∀ c ∈ g.margin.text, isSpace c = true := fun c hc =>
    hspace c (List.mem_append_left _ hc) (g.margin.isBlank c hc)
  have hending : ∀ c ∈ g.ending.text, isBlank c = true → isSpace c = true := fun c hc =>
    hspace c (List.mem_append_right _ (List.mem_append_right _ (List.mem_append_right _ hc)))
  rcases exists_lineUp_of_moreText ⟨g.margin.text, hmargin⟩ g.first g.more hending with
    ⟨f, fs, last, hline, hforms⟩
  refine ⟨f :: fs, last, List.cons_ne_nil f fs, hline, ?_⟩
  rw [expressions, forms, ← hforms, List.map_map]
  rfl

end NotationForm

namespace SegmentForm

/-- A segment is read on its own, as its expression. -/
theorem read_text (f : SegmentForm maxDice maxFaces) :
    RollSet.read (.upTo maxDice maxFaces) f.text = .ok ⟨[f.value], some f.text.trim⟩ := by
  rcases exists_notation (List.cons_ne_nil f []) none with ⟨g, htext, hvalue⟩
  have hread := RollSet.read_text g
  rw [hvalue, htext] at hread
  exact hread

/-- A piece that is read on its own is a segment, if its blanks are ASCII blanks. -/
theorem exists_of_read {t : Text} {s : RollSet} (hsep : ';' ∉ t)
    (hspace : ∀ c ∈ t, isBlank c = true → isSpace c = true)
    (h : RollSet.read (.upTo maxDice maxFaces) t = .ok s) :
    ∃ f : SegmentForm maxDice maxFaces, f.text = t := by
  rcases RollSet.exists_form_of_read h with ⟨g, rfl, -⟩
  rcases g.exists_segments hspace with ⟨fs, last, hne, htext, -⟩
  -- A text without semicolons is its own only piece.
  have hone : splitOn ';' g.text = [g.text] :=
    splitOn_join (fun t ht => by rw [List.mem_singleton.mp ht]; exact hsep)
      (List.cons_ne_nil g.text [])
  have hsegments := segments_lineUp hne last
  rw [← htext, segments, hone] at hsegments
  rcases List.map_eq_singleton_iff.mp hsegments.symm with ⟨f, -, hf⟩
  exact ⟨f, hf⟩

/-- Pieces that are each read on their own are segments. -/
theorem exists_map_of_read {ts : List Text} (hsep : ∀ t ∈ ts, ';' ∉ t)
    (hspace : ∀ t ∈ ts, ∀ c ∈ t, isBlank c = true → isSpace c = true)
    (h : ∀ t ∈ ts, ∃ s, RollSet.read (.upTo maxDice maxFaces) t = .ok s) :
    ∃ fs : List (SegmentForm maxDice maxFaces), ts = fs.map text := by
  induction ts with
  | nil => exact ⟨[], rfl⟩
  | cons t ts ih =>
      rcases h t List.mem_cons_self with ⟨s, hs⟩
      rcases exists_of_read (hsep t List.mem_cons_self) (hspace t List.mem_cons_self) hs with
        ⟨f, rfl⟩
      rcases ih (fun t ht => hsep t (List.mem_cons_of_mem _ ht))
        (fun t ht => hspace t (List.mem_cons_of_mem _ ht))
        (fun t ht => h t (List.mem_cons_of_mem _ ht)) with ⟨fs, rfl⟩
      exact ⟨f :: fs, rfl⟩

end SegmentForm

namespace Text

/-- A segment is one of the pieces between the semicolons. -/
theorem mem_splitOn_of_mem_segments {t piece : Text} (h : piece ∈ t.segments) :
    piece ∈ splitOn ';' t := by
  rcases exists_dropBlankEnd_append (splitOn_ne_nil ';' t) with ⟨-, last, hsplit, -⟩
  rw [hsplit]
  exact List.mem_append_left _ h

theorem subset_of_mem_segments {t piece : Text} (h : piece ∈ t.segments) : piece ⊆ t :=
  subset_of_mem_splitOn (mem_splitOn_of_mem_segments h)

end Text

namespace RollSet

/-- The segments of a text that is read are segments, and give its expressions. -/
theorem exists_segments_of_read {text : Text} {s : RollSet}
    (hspace : ∀ c ∈ text, isBlank c = true → isSpace c = true)
    (h : read (.upTo maxDice maxFaces) text = .ok s) :
    ∃ fs : List (SegmentForm maxDice maxFaces),
      text.segments = fs.map SegmentForm.text ∧ s.expressions = fs.map SegmentForm.value := by
  rcases exists_form_of_read h with ⟨g, rfl, rfl⟩
  rcases g.exists_segments hspace with ⟨fs, last, hne, htext, hvalue⟩
  exact ⟨fs, by rw [htext, SegmentForm.segments_lineUp hne last], hvalue⟩

/-- A text of which each segment is read on its own is read. -/
theorem exists_read_of_segments {text : Text}
    (hspace : ∀ c ∈ text, isBlank c = true → isSpace c = true)
    (h : ∀ t ∈ text.segments, ∃ s, read (.upTo maxDice maxFaces) t = .ok s) :
    ∃ s, read (.upTo maxDice maxFaces) text = .ok s := by
  have hsep : ∀ t ∈ text.segments, ';' ∉ t := fun t ht =>
    not_mem_of_mem_splitOn (mem_splitOn_of_mem_segments ht)
  rcases SegmentForm.exists_map_of_read hsep
    (fun t ht c hc => hspace c (subset_of_mem_segments ht hc)) h with ⟨fs, hfs⟩
  -- Segments in order are a notation, and a notation is read.
  rcases SegmentForm.exists_lineUp hspace hfs with ⟨hne, last, rfl⟩
  rcases SegmentForm.exists_notation hne last with ⟨g, htext, -⟩
  rw [← htext]
  exact ⟨_, read_text g⟩

/-- A text whose blanks are ASCII blanks is read exactly if each of its segments is read
    on its own. Each segment then gives one expression, and those are the expressions of
    the text in order. -/
theorem read_iff_segments (dice faces : Option ℕ+) (text : Text)
    (hspace : ∀ c ∈ text, isBlank c = true → isSpace c = true) :
    ((∃ s, read (.ofBounds dice faces) text = .ok s) ↔
      ∀ t ∈ text.segments, ∃ s, read (.ofBounds dice faces) t = .ok s) ∧
    ∀ s, read (.ofBounds dice faces) text = .ok s →
      List.Forall₂ (fun t e => ∃ u, read (.ofBounds dice faces) t = .ok u ∧ u.expressions = [e])
        text.segments s.expressions := by
  rw [Limits.ofBounds_eq_upTo]
  refine ⟨⟨?_, exists_read_of_segments hspace⟩, fun s hs => ?_⟩
  · rintro ⟨s, hs⟩ t ht
    rcases exists_segments_of_read hspace hs with ⟨fs, hfs, -⟩
    rw [hfs] at ht
    rcases List.mem_map.mp ht with ⟨f, -, rfl⟩
    exact ⟨_, f.read_text⟩
  · rcases exists_segments_of_read hspace hs with ⟨fs, hfs, hvalue⟩
    rw [hfs, hvalue, List.forall₂_map_left_iff, List.forall₂_map_right_iff, List.forall₂_same]
    exact fun f _ => ⟨_, f.read_text, rfl⟩

-- Two segments with blanks around them and behind one more semicolon.
theorem read_iff_segments_roll_and_constant :
    (∀ c ∈ ['1', 'd', '6', ' ', ';', '\t', '2', ';', ' '], isBlank c = true → isSpace c = true) ∧
      segments ['1', 'd', '6', ' ', ';', '\t', '2', ';', ' ']
        = [['1', 'd', '6', ' '], ['\t', '2']] ∧
      ∃ s, read (.ofBounds none none) ['1', 'd', '6', ' ', ';', '\t', '2', ';', ' '] = .ok s := by
  have hspace : ∀ c ∈ ['1', 'd', '6', ' ', ';', '\t', '2', ';', ' '],
      isBlank c = true → isSpace c = true := by
    have hall : ['1', 'd', '6', ' ', ';', '\t', '2', ';', ' '].all
        (fun c => !isBlank c || isSpace c) = true := by decide
    intro c hc hblank
    simpa [hblank] using List.all_eq_true.mp hall c hc
  have hsegments : segments ['1', 'd', '6', ' ', ';', '\t', '2', ';', ' ']
      = [['1', 'd', '6', ' '], ['\t', '2']] := rfl
  refine ⟨hspace, hsegments, (read_iff_segments none none _ hspace).1.mpr ?_⟩
  rw [hsegments]
  intro t ht
  rcases List.mem_pair.mp ht with rfl | rfl
  · exact ⟨⟨[⟨[(.plus, .roll (.fresh 1 (.plain 6) []))]⟩], some ['1', 'd', '6']⟩, by decide +kernel⟩
  · exact ⟨⟨[⟨[(.plus, .constant 2)]⟩], some ['2']⟩, by decide +kernel⟩

end RollSet

end DiceRoller
