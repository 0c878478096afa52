import DiceRoller.Proofs.Text.Pieces
import DiceRoller.Text.Words

/-!
# Texts that are words

Texts that are put on one line with spaces between them need not be the words of that line. A
text comes back as it was if it is plain: nothing in it divides words, and nothing in it changes
how what follows is taken. For other texts this fails, and not only for the text itself, since a
quote that is opened in one text may be closed in another.

That it always fails is seen by counting. Reading leaves out some of the line and changes
nothing else. Outside quotes it leaves out the first mark, whatever comes behind, so the words
of a line with marks hold fewer of them than the line does.

## Main definitions

* `Words.isMark`: The code points that change how others are taken.
* `Words.IsPlain`: A text that stands for itself on a line.

## Theorems

* `Words.isMark_eq_false`: What is no mark is none of the three.
* `Words.flatten_addFront`: A code point in front of the first word is in front of all
  words.
* `Words.readFrom_gap_cons`: A gap between words is left out.
* `Words.readFrom_word_cons`: A gap behind a word ends it.
* `Words.readFrom_cons`: A code point that is nothing else is a part of the word.
* `Words.readFrom_append`: A plain text in front of the end of a word is the front of that
  word.
* `Words.readFrom_join`: Plain texts come back as they were.
* `Words.flatten_sublist_cons`: A code point that is taken over keeps the words within the
  line.
* `Words.flatten_sublist`: Words are what is left of a line.
* `Words.flatten_sublist_of_isMark`: Outside quotes a mark is left out, whatever comes
  behind it.
* `Words.countP_isMark_lt`: A line with marks has words with fewer of them.
* `Words.not_isGap_of_readFrom`: Without marks no word holds a gap.
-/

namespace DiceRoller

namespace Words

/-- Whether a code point changes how others are taken: the quotes and the backslash. -/
def isMark (c : Char) : Bool := c == '\'' || c == '"' || c == '\\'

/-- A text that stands for itself on a line. -/
def IsPlain (t : Text) : Prop := ∀ c ∈ t, isGap c = false ∧ isMark c = false

instance : DecidablePred IsPlain := fun t =>
  decidable_of_iff (t.all fun c => !isGap c && !isMark c)
    (by simp only [IsPlain, List.all_eq_true, Bool.and_eq_true, Bool.not_eq_true'])

/-- Outside quotes, between words or in one. -/
def Mode.IsOpen (m : Mode) : Prop := m = .gap ∨ m = .word

theorem isMark_eq_false {c : Char} (h : isMark c = false) : c ≠ '\'' ∧ c ≠ '"' ∧ c ≠ '\\' := by
  simp only [isMark, Bool.or_eq_false_iff, beq_eq_false_iff_ne] at h
  exact ⟨h.1.1, h.1.2, h.2⟩

/-- A code point in front of the first word is in front of all words. -/
theorem flatten_addFront (c : Char) (ws : List Text) :
    (addFront c ws).flatten = c :: ws.flatten := by
  cases ws <;> rfl

section Plain

variable {c : Char} {t rest : Text} {ts ws : List Text}

theorem readFrom_gap_cons (h : isGap c = true) : readFrom .gap (c :: t) = readFrom .gap t := by
  rw [readFrom, if_pos h]
  rintro d u rfl
  exact absurd h (by decide)

/-- A gap behind a word ends it. -/
theorem readFrom_word_cons (h : isGap c = true) :
    readFrom .word (c :: t) = (readFrom .gap t).map ([] :: ·) := by
  rw [readFrom, if_pos h]
  rintro d u rfl
  exact absurd h (by decide)

-- A code point that is nothing else is a part of the word.
theorem readFrom_cons {m : Mode} (hm : m.IsOpen) (hgap : isGap c = false)
    (hmark : isMark c = false) : readFrom m (c :: t) = (readFrom .word t).map (addFront c) := by
  rcases isMark_eq_false hmark with ⟨h₁, h₂, h₃⟩
  have hno : ¬ isGap c = true := by
    rw [hgap]
    exact Bool.false_ne_true
  rcases hm with rfl | rfl
  · rw [readFrom, if_neg hno, if_neg h₁, if_neg h₂, if_neg h₃]
    exact fun d u hd => absurd hd h₃
  · rw [readFrom, if_neg hno, if_neg h₁, if_neg h₂, if_neg h₃]
    exact fun d u hd => absurd hd h₃

/-- A plain text in front of the end of a word is the front of that word. -/
theorem readFrom_append (ht : IsPlain t) (hne : t ≠ []) (hrest : ∀ c ∈ rest.head?, isGap c = true)
    (h : readFrom .gap rest = some ws) : readFrom .gap (t ++ rest) = some (t :: ws) := by
  -- Behind the first code point the reader is in a word until the text ends.
  have hword : ∀ t, IsPlain t → readFrom .word (t ++ rest) = some (t :: ws) := by
    intro t ht
    induction t with
    | nil =>
        cases rest with
        | nil =>
            rw [← Option.some.inj h]
            rfl
        | cons c rest =>
            have hgap := hrest c rfl
            rw [readFrom_gap_cons hgap] at h
            rw [List.nil_append, readFrom_word_cons hgap, h]
            rfl
    | cons c t ih =>
        rcases ht c List.mem_cons_self with ⟨hgap, hmark⟩
        rw [List.cons_append, readFrom_cons (.inr rfl) hgap hmark,
          ih fun d hd => ht d (List.mem_cons_of_mem c hd)]
        rfl
  cases t with
  | nil => exact absurd rfl hne
  | cons c t =>
      rcases ht c List.mem_cons_self with ⟨hgap, hmark⟩
      rw [List.cons_append, readFrom_cons (.inl rfl) hgap hmark,
        hword t fun d hd => ht d (List.mem_cons_of_mem c hd)]
      rfl

/-- Plain texts with spaces between them come back as they were. -/
theorem readFrom_join (hts : ∀ t ∈ ts, IsPlain t ∧ t ≠ [])
    (hrest : ∀ c ∈ rest.head?, isGap c = true) (h : readFrom .gap rest = some ws) :
    readFrom .gap (Text.join [' '] ts ++ rest) = some (ts ++ ws) := by
  induction ts with
  | nil => exact h
  | cons t ts ih =>
      rcases hts t List.mem_cons_self with ⟨ht, hne⟩
      have hmore := ih fun u hu => hts u (List.mem_cons_of_mem t hu)
      cases ts with
      | nil => exact readFrom_append ht hne hrest h
      | cons u ts =>
          rw [Text.join_cons _ _ (List.cons_ne_nil u ts), List.append_assoc, List.append_assoc]
          -- The space that was put between the texts ends the word.
          refine readFrom_append ht hne (fun c hc => ?_) ?_
          · rw [← Option.some.inj hc]
            rfl
          · exact (readFrom_gap_cons rfl).trans hmore

end Plain

section Marked

variable {m : Mode} {c : Char} {t : Text} {ws : List Text}

/-- A code point that is taken over keeps the words within the line. -/
theorem flatten_sublist_cons {r : Option (List Text)}
    (hr : ∀ {ws}, r = some ws → ws.flatten.Sublist t) (h : r.map (addFront c) = some ws) :
    ws.flatten.Sublist (c :: t) := by
  rcases Option.map_eq_some_iff.mp h with ⟨ws', hws', rfl⟩
  rw [flatten_addFront]
  exact (hr hws').cons_cons c

/-- Words are what is left of a line: the reader leaves out some of it and changes nothing. -/
theorem flatten_sublist (h : readFrom m t = some ws) : ws.flatten.Sublist t := by
  fun_induction readFrom m t generalizing ws
  -- The line ends.
  case case1 | case2 =>
    rw [← Option.some.inj h]
    exact List.nil_sublist []
  case case3 | case4 | case12 | case17 | case22 => exact absurd h (Option.some_ne_none ws).symm
  -- A backslash, which stays only between double quotes.
  case case5 ih | case6 ih | case7 ih => exact (flatten_sublist_cons ih h).cons _
  case case8 ih =>
    rcases Option.map_eq_some_iff.mp h with ⟨ws', hws', rfl⟩
    rw [flatten_addFront, flatten_addFront]
    exact ((ih hws').cons_cons _).cons_cons _
  -- A quote or a gap, which is left out.
  case case9 ih | case11 ih | case14 ih | case15 ih | case16 ih | case20 ih | case21 ih =>
    exact (ih h).cons _
  case case19 ih =>
    rcases Option.map_eq_some_iff.mp h with ⟨ws', hws', rfl⟩
    exact (ih hws').cons _
  -- A part of a word.
  case case10 ih | case13 ih | case18 ih | case23 ih => exact flatten_sublist_cons ih h

-- Outside quotes a mark is left out, whatever comes behind it.
theorem flatten_sublist_of_isMark (hm : m.IsOpen) (hc : isMark c = true)
    (h : readFrom m (c :: t) = some ws) : ws.flatten.Sublist t := by
  have hmark : c = '\'' ∨ c = '"' ∨ c = '\\' := by
    simp only [isMark, Bool.or_eq_true, beq_iff_eq] at hc
    exact or_assoc.mp hc
  rcases hmark with rfl | rfl | rfl
  · have hrest : readFrom .literal t = some ws := by
      rcases hm with rfl | rfl <;> exact h
    exact flatten_sublist hrest
  · have hrest : readFrom .quoted t = some ws := by
      rcases hm with rfl | rfl <;> exact h
    exact flatten_sublist hrest
  · -- What the backslash stands before is taken instead.
    cases t with
    | nil => rcases hm with rfl | rfl <;> exact absurd h (Option.some_ne_none ws).symm
    | cons d t =>
        have hrest : (readFrom .word t).map (addFront d) = some ws := by
          rcases hm with rfl | rfl <;> exact h
        rcases Option.map_eq_some_iff.mp hrest with ⟨ws', hws', rfl⟩
        rw [flatten_addFront]
        exact (flatten_sublist hws').cons_cons d

/-- The words of a line with marks hold fewer of them than the line does. -/
theorem countP_isMark_lt (hm : m.IsOpen) (h : readFrom m t = some ws)
    (hmark : ∃ c ∈ t, isMark c = true) : ws.flatten.countP isMark < t.countP isMark := by
  induction t generalizing m ws with
  | nil =>
      rcases hmark with ⟨c, hc, -⟩
      exact absurd hc List.not_mem_nil
  | cons c t ih =>
      rcases hc : isMark c with _ | _
      · -- The mark is behind this code point, which is a gap or a part of a word.
        have hrest : ∃ d ∈ t, isMark d = true := by
          rcases hmark with ⟨d, hd, hdmark⟩
          rcases List.mem_cons.mp hd with rfl | hd
          · exact absurd (hc.symm.trans hdmark) Bool.false_ne_true
          · exact ⟨d, hd, hdmark⟩
        rw [List.countP_cons_of_neg (by rw [hc]; exact Bool.false_ne_true)]
        rcases hgap : isGap c with _ | _
        · rw [readFrom_cons hm hgap hc] at h
          rcases Option.map_eq_some_iff.mp h with ⟨ws', hws', rfl⟩
          rw [flatten_addFront, List.countP_cons_of_neg (by rw [hc]; exact Bool.false_ne_true)]
          exact ih (.inr rfl) hws' hrest
        · rcases hm with rfl | rfl
          · rw [readFrom_gap_cons hgap] at h
            exact ih (.inl rfl) h hrest
          · -- The word that ends here holds no code point of the rest.
            rw [readFrom_word_cons hgap] at h
            rcases Option.map_eq_some_iff.mp h with ⟨ws', hws', rfl⟩
            have hless := ih (.inl rfl) hws' hrest
            exact hless
      · -- This is the first mark. It is left out, and the words hold no more than what is
        -- behind it.
        rw [List.countP_cons_of_pos hc]
        exact Nat.lt_succ_of_le (flatten_sublist_of_isMark hm hc h).countP_le

/-- Without marks on the line no word holds a gap. -/
theorem not_isGap_of_readFrom (hm : m.IsOpen) (h : readFrom m t = some ws)
    (hmark : ∀ c ∈ t, isMark c = false) : ∀ w ∈ ws, ∀ c ∈ w, isGap c = false := by
  induction t generalizing m ws with
  | nil =>
      intro w hw c hc
      rcases hm with rfl | rfl
      · rw [← Option.some.inj h] at hw
        exact absurd hw List.not_mem_nil
      · -- The word that the line ends in is empty so far.
        rw [← Option.some.inj h, List.mem_singleton] at hw
        rw [hw] at hc
        exact absurd hc List.not_mem_nil
  | cons c t ih =>
      have hrest : ∀ d ∈ t, isMark d = false := fun d hd => hmark d (List.mem_cons_of_mem c hd)
      rcases hgap : isGap c with _ | _
      · rw [readFrom_cons hm hgap (hmark c List.mem_cons_self)] at h
        rcases Option.map_eq_some_iff.mp h with ⟨ws', hws', rfl⟩
        have hwords := ih (.inr rfl) hws' hrest
        -- The code point is in front of the first of these words.
        cases ws' with
        | nil =>
            intro w hw d hd
            rw [List.mem_singleton.mp hw] at hd
            rw [List.mem_singleton.mp hd]
            exact hgap
        | cons w ws' =>
            rw [List.forall_mem_cons] at hwords
            exact List.forall_mem_cons.mpr ⟨List.forall_mem_cons.mpr ⟨hgap, hwords.1⟩, hwords.2⟩
      · rcases hm with rfl | rfl
        · rw [readFrom_gap_cons hgap] at h
          exact ih (.inl rfl) h hrest
        · rw [readFrom_word_cons hgap] at h
          rcases Option.map_eq_some_iff.mp h with ⟨ws', hws', rfl⟩
          rw [List.forall_mem_cons]
          exact ⟨fun c hc => absurd hc List.not_mem_nil, ih (.inl rfl) hws' hrest⟩

end Marked

end Words

end DiceRoller
