import DiceRoller.Text.Basic

/-!
# Pieces

Joining texts and splitting them again. A text is split at one code point, so splitting
undoes joining if no piece holds that one, and joining always undoes splitting. A text that
is put together of others with the code point between them is split into their pieces.

## Theorems

* `Text.splitOn_eq`: Splitting is that of the standard library.
* `Text.join_eq`: So is joining.
* `Text.splitOn_join`, `Text.join_splitOn`: Splitting undoes joining, and joining
  splitting.
* `Text.splitOn_ne_nil`: Every text has at least one piece, also the empty one.
* `Text.not_mem_of_mem_splitOn`: No piece holds the character that separates the pieces.
* `Text.splitOn_append_cons`, `Text.splitOn_append`: Splitting a text behind another one.
* `Text.length_splitOn`: There is one piece more than there are separators.
* `Text.join_cons`: A text in front of at least one more is followed by the separator.
* `Text.subset_join`, `Text.mem_join`, `Text.countP_join`: What a joined text is made of.
* `Text.subset_of_mem_splitOn`: A piece holds nothing that was not in the text.
* `Text.length_join`, `Text.take_drop_join`: How long it is, and where its pieces stand.
* `Text.join_eq_flatMap_append`: In front of a piece every other one has a separator
  behind it.
-/

namespace DiceRoller

namespace Text

/-- Splitting is that of the standard library. -/
theorem splitOn_eq (c : Char) (t : Text) : splitOn c t = List.splitOn c t := by
  induction t with
  | nil => rfl
  | cons x t ih =>
      rw [splitOn, List.splitOn_cons_eq_if_modifyHead, ← ih]
      -- The separator begins a new piece; anything else is put in front of the first one.
      by_cases hx : x = c
      · rw [if_pos hx, if_pos (beq_iff_eq.mpr hx)]
      · rw [if_neg hx, if_neg (by rw [beq_iff_eq]; exact hx)]
        rcases hsplit : splitOn c t with _ | ⟨piece, more⟩
        · exact absurd (ih.symm.trans hsplit) (List.splitOn_ne_nil c t)
        · rfl

theorem join_eq (sep : Text) (pieces : List Text) : join sep pieces = sep.intercalate pieces := by
  induction pieces with
  | nil => rfl
  | cons t pieces ih =>
      rcases pieces with _ | ⟨u, pieces⟩
      · rw [join, List.intercalate_singleton]
      · rw [join, ih, List.intercalate_cons_cons]

/-- Joined pieces come apart again. -/
theorem splitOn_join {c : Char} {pieces : List Text} (h : ∀ t ∈ pieces, c ∉ t)
    (hne : pieces ≠ []) : splitOn c (join [c] pieces) = pieces := by
  rw [splitOn_eq, join_eq, List.splitOn_intercalate c h hne]

/-- The pieces of a text joined again. -/
theorem join_splitOn (c : Char) (t : Text) : join [c] (splitOn c t) = t := by
  rw [splitOn_eq, join_eq, List.intercalate_splitOn]

theorem splitOn_ne_nil (c : Char) (t : Text) : splitOn c t ≠ [] := by
  rw [splitOn_eq]
  exact List.splitOn_ne_nil c t

/-- No piece holds the character that separates the pieces. -/
theorem not_mem_of_mem_splitOn {c : Char} {t piece : Text} (h : piece ∈ splitOn c t) :
    c ∉ piece := by
  induction t generalizing piece with
  | nil =>
      rw [List.mem_singleton.mp h]
      exact List.not_mem_nil
  | cons x t ih =>
      rw [splitOn] at h
      split at h
      · rcases List.mem_cons.mp h with rfl | hmem
        · exact List.not_mem_nil
        · exact ih hmem
      · rename_i hne
        split at h
        · rw [List.mem_singleton.mp h]
          exact fun hmem => hne (List.mem_singleton.mp hmem).symm
        · -- The first piece has grown by a character that is no separator.
          rename_i first more hsplit
          rcases List.mem_cons.mp h with rfl | hmem
          · have hfirst := ih (by rw [hsplit]; exact List.mem_cons_self)
            exact fun hmem => hfirst ((List.mem_cons.mp hmem).resolve_left (Ne.symm hne))
          · exact ih (by rw [hsplit]; exact List.mem_cons_of_mem _ hmem)

/-- A text behind another one and the separator has its own pieces. -/
theorem splitOn_append_cons (c : Char) (t u : Text) :
    splitOn c (t ++ c :: u) = splitOn c t ++ splitOn c u := by
  rw [splitOn_eq, splitOn_eq, splitOn_eq]
  exact List.splitOnP_append_cons t u (beq_self_eq_true c)

/-- A text with something behind it that has no separator is longer in its last piece. -/
theorem splitOn_append {c : Char} {u : Text} (h : c ∉ u) (t : Text) :
    ∃ front last, splitOn c t = front ++ [last] ∧ splitOn c (t ++ u) = front ++ [last ++ u] := by
  induction t with
  | nil =>
      refine ⟨[], [], rfl, ?_⟩
      exact splitOn_join (List.forall_mem_singleton.mpr h) (List.cons_ne_nil u [])
  | cons x t ih =>
      rcases ih with ⟨front, last, ht, htu⟩
      rw [List.cons_append, splitOn, splitOn, ht, htu]
      by_cases hx : x = c
      · rw [if_pos hx, if_pos hx]
        exact ⟨[] :: front, last, rfl, rfl⟩
      · rw [if_neg hx, if_neg hx]
        -- Without a piece in front, the last piece is also the first and grows in front.
        rcases front with _ | ⟨piece, front⟩
        · exact ⟨[], x :: last, rfl, rfl⟩
        · exact ⟨(x :: piece) :: front, last, rfl, rfl⟩

/-- There is one piece more than there are separators. -/
theorem length_splitOn (c : Char) (t : Text) :
    (splitOn c t).length = t.countP (· == c) + 1 := by
  induction t with
  | nil => rfl
  | cons x t ih =>
      rw [splitOn, List.countP_cons]
      by_cases hx : x = c
      · rw [if_pos hx, if_pos (beq_iff_eq.mpr hx), List.length_cons, ih]
      · rw [if_neg hx, if_neg (by rw [beq_iff_eq]; exact hx), ← ih]
        rcases hsplit : splitOn c t with _ | ⟨piece, more⟩
        · exact absurd hsplit (splitOn_ne_nil c t)
        · rfl

/-- A text in front of at least one more is followed by the separator. -/
theorem join_cons (sep t : Text) {pieces : List Text} (h : pieces ≠ []) :
    join sep (t :: pieces) = t ++ (sep ++ join sep pieces) := by
  rcases pieces with _ | ⟨u, pieces⟩
  · exact absurd rfl h
  · rw [join, List.append_assoc]

/-- Every character of a piece is one of the joined text. -/
theorem subset_join {sep t : Text} {pieces : List Text} (h : t ∈ pieces) :
    t ⊆ join sep pieces := by
  induction pieces with
  | nil => exact absurd h List.not_mem_nil
  | cons u pieces ih =>
      rcases pieces with _ | ⟨v, pieces⟩
      · rw [List.mem_singleton.mp h]
        exact List.Subset.refl u
      · rw [join_cons sep u (List.cons_ne_nil v pieces)]
        -- The piece is the first one, or it stands behind the separator.
        rcases List.mem_cons.mp h with rfl | hmem
        · exact List.subset_append_left _ _
        · exact List.subset_append_of_subset_right _
            (List.subset_append_of_subset_right _ (ih hmem))

/-- A piece holds nothing that was not in the text. -/
theorem subset_of_mem_splitOn {c : Char} {t piece : Text} (h : piece ∈ splitOn c t) :
    piece ⊆ t := by
  have hsubset : piece ⊆ join [c] (splitOn c t) := subset_join h
  rw [join_splitOn] at hsubset
  exact hsubset

/-- A character of a joined text is one of the separator or of a piece. -/
theorem mem_join {c : Char} {sep : Text} {pieces : List Text} (h : c ∈ join sep pieces) :
    c ∈ sep ∨ ∃ t ∈ pieces, c ∈ t := by
  induction pieces with
  | nil => exact absurd h List.not_mem_nil
  | cons u pieces ih =>
      rcases pieces with _ | ⟨v, pieces⟩
      · exact .inr ⟨u, List.mem_cons_self, h⟩
      · rw [join_cons sep u (List.cons_ne_nil v pieces), List.mem_append, List.mem_append] at h
        rcases h with h | h | h
        · exact .inr ⟨u, List.mem_cons_self, h⟩
        · exact .inl h
        · exact (ih h).imp_right fun ⟨t, ht, hc⟩ => ⟨t, List.mem_cons_of_mem u ht, hc⟩

/-- What the separator does not count for, the pieces alone are counted for. -/
theorem countP_join (p : Char → Bool) {sep : Text} (hsep : sep.countP p = 0)
    (pieces : List Text) : (join sep pieces).countP p = pieces.flatten.countP p := by
  induction pieces with
  | nil => rfl
  | cons t pieces ih =>
      cases pieces with
      | nil => rw [join, List.flatten_cons, List.flatten_nil, List.append_nil]
      | cons u pieces =>
          rw [join_cons sep t (List.cons_ne_nil u pieces), List.countP_append, List.countP_append,
            hsep, Nat.zero_add, ih, List.flatten_cons (l := t), List.countP_append]

/-- The length of a joined text. A separator stands between two pieces only, so there is one
    less of them than there are pieces. -/
theorem length_join (sep : Text) (pieces : List Text) : (join sep pieces).length
    = pieces.flatten.length + (pieces.length - 1) * sep.length := by
  induction pieces with
  | nil => rw [join, List.flatten_nil, List.length_nil, List.length_nil, Nat.zero_sub, Nat.zero_mul]
  | cons t pieces ih =>
      rcases pieces with _ | ⟨u, pieces⟩
      · simp [join]
      · -- One more piece brings one more separator.
        have hmul : (t :: u :: pieces).length - 1 = ((u :: pieces).length - 1) + 1 := rfl
        rw [join_cons sep t (List.cons_ne_nil u pieces), List.length_append, List.length_append, ih,
          List.flatten_cons (l := t), List.length_append, hmul, Nat.succ_mul]
        omega

/-- In front of a piece every other one has a separator behind it. -/
theorem join_eq_flatMap_append (sep : Text) {pieces : List Text} {k : Nat}
    (h : k < pieces.length) :
    join sep pieces = (pieces.take k).flatMap (· ++ sep) ++ join sep (pieces.drop k) := by
  induction k generalizing pieces with
  | zero => rfl
  | succ k ih =>
      rcases pieces with _ | ⟨t, pieces⟩
      · exact absurd h (Nat.not_lt_zero _)
      · -- There is a piece behind the first, so that the first has a separator.
        have hk : k < pieces.length := Nat.lt_of_succ_lt_succ h
        have hne : pieces ≠ [] := List.ne_nil_of_length_pos (Nat.zero_lt_of_lt hk)
        rw [join_cons sep t hne, ih hk, List.take_succ_cons, List.drop_succ_cons, List.flatMap_cons]
        simp only [List.append_assoc]

theorem length_flatMap_append (sep : Text) (pieces : List Text) :
    (pieces.flatMap (· ++ sep)).length = pieces.flatten.length + pieces.length * sep.length := by
  induction pieces with
  | nil => rw [List.flatMap_nil, List.flatten_nil, List.length_nil, List.length_nil, Nat.zero_mul]
  | cons t pieces ih =>
      rw [List.flatMap_cons, List.length_append, List.length_append, ih, List.flatten_cons,
        List.length_append, List.length_cons, Nat.succ_mul]
      omega

/-- A piece stands behind those in front of it and their separators. -/
theorem take_drop_join (sep : Text) {pieces : List Text} {k : Nat} {piece : Text}
    (h : pieces[k]? = some piece) :
    ((join sep pieces).drop ((pieces.take k).flatten.length + k * sep.length)).take
      piece.length = piece := by
  have hk : k < pieces.length := (List.getElem?_eq_some_iff.mp h).1
  have hfront := length_flatMap_append sep (pieces.take k)
  rw [List.length_take_of_le (Nat.le_of_lt hk)] at hfront
  have hdrop : pieces.drop k = piece :: pieces.drop (k + 1) := by
    rw [List.drop_eq_getElem_cons hk, (List.getElem?_eq_some_iff.mp h).2]
  rw [join_eq_flatMap_append sep hk, List.drop_left' hfront, hdrop]
  -- The piece is the last one, or a separator follows it.
  rcases pieces.drop (k + 1) with _ | ⟨u, more⟩
  · rw [join, List.take_length]
  · rw [join_cons sep piece (List.cons_ne_nil u more), List.take_left]

end Text

end DiceRoller
