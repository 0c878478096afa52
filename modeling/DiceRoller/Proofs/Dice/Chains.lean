import DiceRoller.Proofs.Dice.Ranks
import DiceRoller.Proofs.Dice.Window

/-!
# Selectors one after the other

Two selectors in a row often come to one. What makes this more than arithmetic is that the
second one lines up other dice than the first. But the dice left by a cut through a line-up
stand in the order in which they stood, so the part of the line in front of the cut, or
behind it, is their line-up. Keeping some and then fewer is keeping fewer, and dropping
some and then more is dropping all of these at once.

Dropping at both ends is different, for there are two line-ups and neither is a part of
the other. Still it makes no difference which end comes first. Whether a die survives can be
told from three numbers: how many dice show a better value, how many a worse one, and how
many the same and stand earlier. Dice with the same value are taken from the front by both
selectors, so of these the two take as many as both of them together still want, and the
condition for that does not change if the ends change places.

Marks are followed through all this by the positions that count. What selectors do to dice
is to strike out those that counted and do so no more.

## Main definitions

* `Beats`: The better of two values.
* `better`, `tied`: How many dice show a better value, and how many the same one earlier.

## Theorems

* `precedes_iff`: A position precedes another with a better value, or with the same one
  earlier.
* `Beats.ne`: A value is never better from one end and not worse from the other.
* `Precedes.not_beats`: A die that precedes another does not show a worse value.
* `Precedes.not_beats_of_eq`: A die that comes behind one of two equal ones does not beat
  the other.
* `countP_precedes`: A die is preceded by those with a better value and by earlier ones
  with its own.
* `IsLineUp.front`: The part of a line-up in front of a cut is the line-up of what stands
  there.
* `IsLineUp.back`: So is the part behind the cut.
* `IsLineUp.rank_behind`: The rank of a die among those behind a cut, from the other end.
* `Selector.Narrows.of_le`: A selector that asks for enough leaves what there was.
* `Selector.Narrows.of_keep`: What a selector keeps is the front of a line-up, if it asks
  for fewer than there are.
* `Selector.Narrows.of_drop`: What a selector drops is the front of a line-up, if it asks
  for fewer than there are.
* `Survive.singleton`: What survives one selector is what it leaves.
* `Survive.exists_of_pair`: Between two selectors there is what the first one leaves.
* `Survive.keep_keep`, `Survive.drop_drop`, `Survive.drop_ends`: What survives two
  selectors.
* `Selector.mem_counting_of_getElem?`: The position of a die counts if the die does.
* `Selector.Leaves.refl`: Nothing may be struck out.
* `Selector.Leaves.subset`: What is left of dice counted before.
* `Selector.Leaves.trans`: What is left of what is left is left.
* `Selector.Leaves.eq`: What is left is known from the positions that count.
* `Selector.leaves_strikeOut`: Striking out dice that count strikes out exactly those that
  count no more.
* `Selector.leaves_narrow`: A selector strikes out dice that count, and no others.
* `Roll.leaves_narrow`: So do several selectors, one after the other.
* `Roll.narrow_congr`: Selectors that leave the same positions leave the same dice.
* `Roll.narrow_keep_keep`: Keeping twice from the same end is keeping the fewer dice once.
* `Roll.narrow_drop_drop`: Dropping twice from the same end is dropping the sum, if that
  leaves a die.
* `Roll.narrow_drop_comm`: It makes no difference from which end the first dice are
  dropped.
-/

namespace DiceRoller

/-- The die at one position shows a better value than the die at another. -/
def Beats (high : Bool) (values : List Int) (i j : Nat) : Prop :=
  if high then values.getD j 0 < values.getD i 0 else values.getD i 0 < values.getD j 0

instance (high : Bool) (values : List Int) (i j : Nat) : Decidable (Beats high values i j) :=
  inferInstanceAs (Decidable (ite _ _ _))

/-- How many of the positions show a better value than the one at `i`. -/
def better (high : Bool) (values : List Int) (positions : List Nat) (i : Nat) : Nat :=
  positions.countP fun j => Beats high values j i

/-- How many of them show the same value and stand earlier. -/
def tied (values : List Int) (positions : List Nat) (i : Nat) : Nat :=
  positions.countP fun j => values.getD j 0 = values.getD i 0 ∧ j < i

section Positions

variable {high : Bool} {values : List Int} {counting line left : List Nat} {i j : Nat}

theorem precedes_iff :
    Precedes high values j i ↔
      Beats high values j i ∨ (values.getD j 0 = values.getD i 0 ∧ j < i) := Iff.rfl

-- A value is never better from one end and not worse from the other.
theorem Beats.ne (h : Beats high values j i) : values.getD j 0 ≠ values.getD i 0 := by
  rw [Beats] at h
  cases high
  · rw [if_neg Bool.false_ne_true] at h
    omega
  · rw [if_pos rfl] at h
    omega

/-- A die that precedes another does not show a worse value. -/
theorem Precedes.not_beats (h : Precedes high values j i) : ¬ Beats (!high) values j i := by
  simp only [Precedes, Beats] at h ⊢
  cases high
  · simp only [Bool.false_eq_true, if_false, Bool.not_false, if_true] at h ⊢
    omega
  · simp only [if_true, Bool.not_true, Bool.false_eq_true, if_false] at h ⊢
    omega

-- A die that comes behind one of two equal ones does not beat the other.
theorem Precedes.not_beats_of_eq {k : Nat} (h : Precedes high values j k)
    (htie : values.getD j 0 = values.getD i 0) : ¬ Beats high values k i := by
  simp only [Precedes, Beats] at h ⊢
  cases high
  · simp only [Bool.false_eq_true, if_false] at h ⊢
    omega
  · simp only [if_true] at h ⊢
    omega

/-- A die is preceded by those with a better value and by earlier ones with its own. -/
theorem countP_precedes (positions : List Nat) :
    positions.countP (fun j => Precedes high values j i)
      = better high values positions i + tied values positions i := by
  rw [better, tied]
  induction positions with
  | nil => rfl
  | cons j positions ih =>
      rw [List.countP_cons, List.countP_cons, List.countP_cons, ih]
      -- A better value is not the same value, so no position is counted twice.
      by_cases hbeats : Beats high values j i
      · have htie : ¬ (values.getD j 0 = values.getD i 0 ∧ j < i) := fun h => hbeats.ne h.1
        simp only [precedes_iff, hbeats, htie, or_false, decide_true, decide_false, if_true,
          Bool.false_eq_true, if_false]
        omega
      · simp only [precedes_iff, hbeats, false_or, decide_false, Bool.false_eq_true, if_false]
        omega

/-- The part of a line-up in front of a cut is the line-up of what stands there. -/
theorem IsLineUp.front (h : IsLineUp high values counting line) (hnodup : counting.Nodup)
    (n : Nat) :
    IsLineUp high values (counting.filter fun i => decide (i ∈ line.take n)) (line.take n) :=
  ⟨(h.filter_perm_take hnodup n).symm, h.sorted.sublist (List.take_sublist n line)⟩

theorem IsLineUp.back (h : IsLineUp high values counting line) (hnodup : counting.Nodup)
    (n : Nat) :
    IsLineUp high values (counting.filter fun i => decide (i ∉ line.take n)) (line.drop n) :=
  ⟨(h.filter_perm_drop hnodup n).symm, h.sorted.sublist (List.drop_sublist n line)⟩

/-- Behind a cut a die is preceded, from the other end, by all dice with a worse value and by
    those with its own that stand earlier and were not cut off. -/
theorem IsLineUp.rank_behind (h : IsLineUp high values counting line) {n : Nat}
    (hn : n ≤ line.length) (hi : i ∈ line.drop n) :
    (line.drop n).countP (fun j => Precedes (!high) values j i) + n
      = better (!high) values counting i + tied values counting i
        + min n (better high values counting i) := by
  -- What is counted over all positions is counted in front of the cut and behind it.
  have hsplit : ∀ p : Nat → Bool, counting.countP p
      = (line.take n).countP p + (line.drop n).countP p := by
    intro p
    rw [← List.countP_append, List.take_append_drop]
    exact (h.perm.countP_eq p).symm
  have hsorted := h.sorted
  rw [← List.take_append_drop n line] at hsorted
  have hcut : ∀ j ∈ line.take n, ∀ k ∈ line.drop n, Precedes high values j k :=
    (List.pairwise_append.mp hsorted).2.2
  -- All that was cut off precedes the die, so none of it shows a worse value.
  have hworse : better (!high) values (line.take n) i = 0 := by
    refine List.countP_eq_zero.mpr fun j hj => ?_
    rw [decide_eq_true_eq]
    exact (hcut j hj i hi).not_beats
  have hfront : better high values (line.take n) i + tied values (line.take n) i = n := by
    rw [← countP_precedes, List.countP_eq_length.mpr, List.length_take, Nat.min_eq_left hn]
    exact fun j hj => decide_eq_true (hcut j hj i hi)
  -- If one die of those shows no better value, then no die behind the cut does.
  have hbetter : better high values (line.take n) i = n ∨
      better high values (line.drop n) i = 0 := by
    by_cases hall : ∀ j ∈ line.take n, Beats high values j i
    · left
      rw [better, List.countP_eq_length.mpr, List.length_take, Nat.min_eq_left hn]
      exact fun j hj => decide_eq_true (hall j hj)
    · right
      push Not at hall
      rcases hall with ⟨j, hj, hnot⟩
      have htie := (precedes_iff.mp (hcut j hj i hi)).resolve_left hnot
      refine List.countP_eq_zero.mpr fun k hk => ?_
      rw [decide_eq_true_eq]
      exact (hcut j hj k hk).not_beats_of_eq htie.1
  have hb : better high values counting i
      = better high values (line.take n) i + better high values (line.drop n) i := hsplit _
  have hw : better (!high) values counting i
      = better (!high) values (line.take n) i + better (!high) values (line.drop n) i := hsplit _
  have ht : tied values counting i
      = tied values (line.take n) i + tied values (line.drop n) i := hsplit _
  rw [countP_precedes]
  omega

namespace Selector.Narrows

variable {n : Nat}

/-- A selector that asks for enough leaves what there was. -/
theorem of_le {s : Selector} (h : s.Narrows values counting left)
    (hle : counting.length ≤ s.num) : left = counting := by
  cases h with
  | idle => rfl
  | keep line hlt => omega
  | drop line hlt => omega

/-- What a selector keeps is the front of a line-up, if it asks for fewer than there are. -/
theorem of_keep (h : Narrows ⟨true, high, n⟩ values counting left) (hlt : n < counting.length) :
    ∃ line, IsLineUp high values counting line ∧
      left = counting.filter fun i => decide (i ∈ line.take n) := by
  cases h with
  | idle hle => exact absurd hle (Nat.not_le_of_lt hlt)
  | keep line _ _ hl => exact ⟨line, hl, rfl⟩
  | drop line _ hk => cases hk

/-- What a selector drops is the front of a line-up, if it asks for fewer than there are. -/
theorem of_drop (h : Narrows ⟨false, high, n⟩ values counting left) (hlt : n < counting.length) :
    ∃ line, IsLineUp high values counting line ∧
      left = counting.filter fun i => decide (i ∉ line.take n) := by
  cases h with
  | idle hle => exact absurd hle (Nat.not_le_of_lt hlt)
  | keep line _ hk => cases hk
  | drop line _ _ hl => exact ⟨line, hl, rfl⟩

end Selector.Narrows

namespace Survive

variable {a b : Nat}

theorem singleton {s : Selector} (h : s.Narrows values counting left) :
    Survive values [s] counting left := .cons h (.nil left)

/-- Between two selectors there is what the first one leaves. -/
theorem exists_of_pair {s s' : Selector} (h : Survive values [s, s'] counting left) :
    ∃ mid, s.Narrows values counting mid ∧ s'.Narrows values mid left := by
  cases h with
  | cons hs h =>
      cases h with
      | cons hs' h =>
          cases h
          exact ⟨_, hs, hs'⟩

/-- Keeping some and then others is keeping the fewer of the two. -/
theorem keep_keep (hnodup : counting.Nodup)
    (h : Survive values [⟨true, high, a⟩, ⟨true, high, b⟩] counting left) :
    Survive values [⟨true, high, min a b⟩] counting left := by
  rcases exists_of_pair h with ⟨mid, h₁, h₂⟩
  by_cases ha : counting.length ≤ a
  · -- The first selector is idle, and the second one goes on as if it were not there.
    have hmid := h₁.of_le ha
    subst hmid
    by_cases hb : mid.length ≤ b
    · rw [h₂.of_le hb]
      exact singleton (.idle (by simp only; omega))
    · rw [Nat.min_eq_right (by omega)]
      exact singleton h₂
  · rcases h₁.of_keep (Nat.lt_of_not_le ha) with ⟨line, hline, rfl⟩
    have hlen := (hline.filter_perm_take hnodup a).length_eq
    rw [List.length_take, hline.perm.length_eq] at hlen
    by_cases hb : a ≤ b
    · rw [h₂.of_le (by simp only; omega), Nat.min_eq_left hb]
      exact singleton (.keep line (by simp only; omega) rfl hline)
    · -- What the second selector keeps stands in front of what the first one kept.
      rcases h₂.of_keep (by omega) with ⟨line', hline', rfl⟩
      rw [hline'.unique (hline.front hnodup a), List.take_take, List.filter_filter,
        Nat.min_comm b a]
      have hkept := Selector.Narrows.keep (s := ⟨true, high, min a b⟩) line
        (by simp only; omega) rfl hline
      have hfilter : (counting.filter fun i =>
            decide (i ∈ line.take (min a b)) && decide (i ∈ line.take a))
          = counting.filter fun i => decide (i ∈ line.take (min a b)) := by
        refine List.filter_congr fun i _ => ?_
        rw [← Bool.decide_and, decide_eq_decide, and_iff_left_iff_imp]
        exact fun hi => (List.take_subset_take_left line (Nat.min_le_left a b)) hi
      rw [hfilter]
      exact singleton hkept

/-- Dropping some and then others from the same end is dropping them all at once. -/
theorem drop_drop (hnodup : counting.Nodup) (hlt : a + b < counting.length)
    (h : Survive values [⟨false, high, a⟩, ⟨false, high, b⟩] counting left) :
    Survive values [⟨false, high, a + b⟩] counting left := by
  rcases exists_of_pair h with ⟨mid, h₁, h₂⟩
  rcases h₁.of_drop (by omega) with ⟨line, hline, rfl⟩
  have hlen := (hline.filter_perm_drop hnodup a).length_eq
  rw [List.length_drop, hline.perm.length_eq] at hlen
  rcases h₂.of_drop (by omega) with ⟨line', hline', rfl⟩
  rw [hline'.unique (hline.back hnodup a), List.filter_filter]
  have hdropped := Selector.Narrows.drop (s := ⟨false, high, a + b⟩) line hlt rfl hline
  -- To be among the first of both cuts is to be among the first of the longer one.
  have hfilter : (counting.filter fun i => decide (i ∉ (line.drop a).take b) &&
      decide (i ∉ line.take a)) = counting.filter fun i => decide (i ∉ line.take (a + b)) := by
    refine List.filter_congr fun i _ => ?_
    rw [← Bool.decide_and, decide_eq_decide, List.take_add, List.mem_append, not_or]
    exact and_comm
  rw [hfilter]
  exact singleton hdropped

/-- Dropping from both ends, a die survives if three numbers are great enough. None of the
    three changes if the ends change places. -/
theorem drop_ends (hnodup : counting.Nodup) (hlt : a + b < counting.length)
    (h : Survive values [⟨false, high, a⟩, ⟨false, !high, b⟩] counting left) :
    left = counting.filter fun i => decide
      (a ≤ better high values counting i + tied values counting i ∧
        b ≤ better (!high) values counting i + tied values counting i ∧
        a + b ≤ better high values counting i + better (!high) values counting i
          + tied values counting i) := by
  rcases exists_of_pair h with ⟨mid, h₁, h₂⟩
  rcases h₁.of_drop (by omega) with ⟨line, hline, rfl⟩
  have hperm := hline.filter_perm_drop hnodup a
  have hlen := hperm.length_eq
  rw [List.length_drop, hline.perm.length_eq] at hlen
  rcases h₂.of_drop (by omega) with ⟨line', hline', rfl⟩
  rw [List.filter_filter]
  refine List.filter_congr fun i hi => ?_
  rw [← Bool.decide_and, decide_eq_decide]
  have hrank := hline.mem_take_iff hi a
  rw [countP_precedes] at hrank
  by_cases hfront : i ∈ line.take a
  · -- Dropped by the first selector, the die fails the first of the conditions.
    have hlow := hrank.mp hfront
    constructor
    · exact fun h => absurd hfront h.2
    · intro h
      omega
  · have hback := (hline.mem_drop_iff hnodup hi a).mpr hfront
    have hmid : i ∈ counting.filter fun i => decide (i ∉ line.take a) :=
      List.mem_filter.mpr ⟨hi, decide_eq_true hfront⟩
    -- From the other end the die has a rank among those that the first selector left.
    have hhigh := hline.rank_behind (by rw [hline.perm.length_eq]; omega) hback
    rw [← hperm.countP_eq] at hhigh
    rw [hline'.mem_take_iff hmid, hrank]
    omega

end Survive

end Positions

namespace Selector

/-- What is left of dice: those that counted and do so no more are struck out, and all others
    are as they were. -/
def Leaves (dice dice' : List Showing) : Prop :=
  ∀ i : Nat, dice'[i]? = dice[i]?.map fun d =>
    if d.isKept = true ∧ i ∉ counting dice' then d.drop else d

variable {dice dice' dice'' : List Showing}

theorem mem_counting_of_getElem? {i : Nat} {d : Showing} (hd : dice[i]? = some d) :
    i ∈ counting dice ↔ d.isKept = true := by
  rw [mem_counting_iff, hd]
  simp only [Option.some.injEq, exists_eq_left']

namespace Leaves

/-- Nothing may be struck out. -/
theorem refl (dice : List Showing) : Leaves dice dice := by
  intro i
  cases hd : dice[i]? with
  | none => rfl
  | some d =>
      rw [Option.map_some, if_neg]
      rw [mem_counting_of_getElem? hd]
      exact and_not_self

/-- What is left of dice counted before. -/
theorem subset (h : Leaves dice dice') : counting dice' ⊆ counting dice := by
  intro i hi
  rcases mem_counting_iff.mp hi with ⟨d', hd', hkept⟩
  have hget := h i
  rw [hd'] at hget
  rcases Option.map_eq_some_iff.mp hget.symm with ⟨d, hd, heq⟩
  rw [if_neg fun hnot => hnot.2 hi] at heq
  exact mem_counting_iff.mpr ⟨d, hd, heq ▸ hkept⟩

/-- What is left of what is left is left. -/
theorem trans (h : Leaves dice dice') (h' : Leaves dice' dice'') : Leaves dice dice'' := by
  intro i
  rw [h' i, h i, Option.map_map]
  congr 1
  funext d
  rw [Function.comp_apply]
  -- A die is struck out by the first step, by the second, or by neither.
  by_cases hfirst : d.isKept = true ∧ i ∉ counting dice'
  · -- Struck out before, the die does not count and is left as it is.
    have hnot : i ∉ counting dice'' := fun hmem => hfirst.2 (h'.subset hmem)
    have hdropped : ¬ (d.drop.isKept = true ∧ i ∉ counting dice'') := by
      rw [Showing.isKept_drop]
      exact fun h => absurd h.1 Bool.false_ne_true
    rw [if_pos hfirst, if_neg hdropped, if_pos ⟨hfirst.1, hnot⟩]
  · rw [if_neg hfirst]

theorem eq (h : Leaves dice dice') (h' : Leaves dice dice'')
    (hcounting : counting dice' = counting dice'') : dice' = dice'' := by
  refine List.ext_getElem? fun i => ?_
  rw [h i, h' i, hcounting]

end Leaves

/-- Striking out dice that count strikes out exactly those that count no more. -/
theorem leaves_strikeOut {positions : List Nat} (h : positions ⊆ counting dice) :
    Leaves dice (strikeOut positions dice) := by
  intro i
  rw [getElem?_strikeOut, counting_strikeOut]
  cases hd : dice[i]? with
  | none => rfl
  | some d =>
      have hcount := mem_counting_of_getElem? hd
      -- A die that counts is struck out exactly if its position is gone behind that.
      have hstruck : positions.contains i = true ↔
          d.isKept = true ∧ i ∉ (counting dice).filter fun i => !positions.contains i := by
        rw [List.mem_filter, hcount]
        constructor
        · intro hi
          have hkept := hcount.mp (h (List.contains_iff_mem.mp hi))
          exact ⟨hkept, fun hmem => by rw [hi] at hmem; exact absurd hmem.2 (by decide)⟩
        · intro hnot
          by_contra hi
          rw [Bool.not_eq_true] at hi
          exact hnot.2 ⟨hnot.1, by rw [hi]; rfl⟩
      exact congrArg some (if_congr hstruck rfl rfl)

/-- A selector strikes out dice that count, and no others. -/
theorem leaves_narrow (s : Selector) (h : ∀ d ∈ dice, d.value.isSome) :
    Leaves dice (s.narrow dice) := by
  by_cases hle : (counting dice).length ≤ s.num
  · rw [narrow_of_le hle]
    exact .refl dice
  · rcases narrow_eq_strikeOut h (Nat.lt_of_not_le hle) with ⟨line, hline, hnarrow⟩
    rw [hnarrow]
    refine leaves_strikeOut fun i hi => hline.perm.mem_iff.mp ?_
    split at hi
    · exact List.mem_of_mem_drop hi
    · exact List.mem_of_mem_take hi

end Selector

namespace Roll

variable {dice : List Showing}

theorem leaves_narrow (ss : List Selector) (h : ∀ d ∈ dice, d.value.isSome) :
    Selector.Leaves dice (narrow ss dice) := by
  induction ss generalizing dice with
  | nil => exact .refl dice
  | cons s ss ih => exact (s.leaves_narrow h).trans (ih (s.isSome_narrow h))

/-- Selectors that leave the same positions leave the same dice. -/
theorem narrow_congr {ss ss' : List Selector} (h : ∀ d ∈ dice, d.value.isSome)
    (hsame : ∀ left left', Survive (dice.map Showing.total) ss (Selector.counting dice) left →
      Survive (dice.map Showing.total) ss' (Selector.counting dice) left' → left = left') :
    narrow ss dice = narrow ss' dice :=
  (leaves_narrow ss h).eq (leaves_narrow ss' h)
    (hsame _ _ (survive_of_rolled ss h) (survive_of_rolled ss' h))

variable {high : Bool} {a b : Nat}

/-- Keeping twice from the same end is keeping the fewer dice once. -/
theorem narrow_keep_keep (h : ∀ d ∈ dice, d.value.isSome) :
    narrow [⟨true, high, a⟩, ⟨true, high, b⟩] dice = narrow [⟨true, high, min a b⟩] dice :=
  narrow_congr h fun _ _ hpair hone =>
    (hpair.keep_keep (Selector.nodup_counting dice)).unique hone

/-- Dropping twice from the same end is dropping the sum, if that leaves a die. -/
theorem narrow_drop_drop (h : ∀ d ∈ dice, d.value.isSome)
    (hlt : a + b < (Selector.counting dice).length) :
    narrow [⟨false, high, a⟩, ⟨false, high, b⟩] dice = narrow [⟨false, high, a + b⟩] dice :=
  narrow_congr h fun _ _ hpair hone =>
    (hpair.drop_drop (Selector.nodup_counting dice) hlt).unique hone

/-- It makes no difference from which end the first dice are dropped. -/
theorem narrow_drop_comm (h : ∀ d ∈ dice, d.value.isSome)
    (hlt : a + b < (Selector.counting dice).length) :
    narrow [⟨false, high, a⟩, ⟨false, !high, b⟩] dice
      = narrow [⟨false, !high, b⟩, ⟨false, high, a⟩] dice := by
  refine narrow_congr h fun left left' hpair hpair' => ?_
  have hnodup := Selector.nodup_counting dice
  -- Seen from the other end, the ends of the second pair come in the order of the first.
  have hends : Survive (dice.map Showing.total) [⟨false, !high, b⟩, ⟨false, !(!high), a⟩]
      (Selector.counting dice) left' := by
    rw [Bool.not_not]
    exact hpair'
  rw [hpair.drop_ends hnodup hlt, hends.drop_ends hnodup (by omega), Bool.not_not]
  refine List.filter_congr fun i _ => ?_
  rw [decide_eq_decide]
  omega

end Roll

end DiceRoller
