import DiceRoller.Dice.Roll
import Mathlib.Data.List.Nodup

/-!
# Which dice survive

The rule by which selectors narrow a roll, said without sorting. A selector lines the
dice up that still count: the better value first, and of equal values the earlier
die. If there are more of them than it asks for, it keeps the first ones of the line
or drops these, and otherwise it does nothing. What survives several selectors is
what survives them one after the other.

The rule speaks of positions and of the values there. It does not say how a line is
found, only what it is, and that is enough: of two dice exactly one precedes the
other, so the positions that count have one line-up and a chain of selectors one
outcome.

`Selector.narrow` computes that outcome on dice whose values are known and whose
marks are those of a throw. Striking dice out changes the marks at some positions and
nothing else, so it acts on the positions that count as a filter.

## Main definitions

* `Precedes`: The order of a line-up, by values and positions.
* `IsLineUp`: The positions that count, in that order.
* `Selector.Narrows`: What one selector leaves of the positions that count.
* `Survive`: What several selectors leave, one after the other.
* `Selector.counting`: The positions of the dice that count.
* `Showing.IsSettled`: A die that was thrown, with the marks of a throw.

## Theorems

* `Precedes.asymm`: Of two positions at most one precedes the other.
* `IsLineUp.unique`, `Survive.unique`: The rule has one outcome.
* `IsLineUp.mem_drop_iff`: Behind a cut through a line-up stand those positions that do
  not stand before it.
* `Selector.Narrows.unique`: What one selector leaves is settled by the values and the
  positions that count.
* `Selector.Narrows.sublist`: A selector never lets a position count that did not count
  before.
* `Showing.IsSettled.drop`: A settled die is settled after it was struck out.
* `Showing.isKept_drop`: A die that was struck out does not count.
* `Showing.map_total_eq`: Dice with equal values are worth the same.
* `Showing.IsSettled.isDropped_eq`: With the marks of a throw a die either counts or is
  struck out.
* `Selector.nodup_counting`: Each position counts once.
* `Selector.mem_counting_iff`: A position counts if there is a die that counts.
* `Selector.map_flags_eq_of_counting`: The marks of a throw say no more than which dice
  count.
* `Selector.map_snd_candidates`: The candidates stand at the positions that count, in the
  same order.
* `Selector.values?_of_rolled`: Dice with values have values to be lined up by.
* `Selector.isBefore_trans`: The comparison of the sort is transitive.
* `Selector.isBefore_total`: Of two entries one may stand before the other, so that the
  sort can line them up.
* `Selector.isLineUp_mergeSort`: The dice that count, with their values, sorted: their
  positions are the line-up.
* `Selector.length_strikeOut`: Striking out loses no die.
* `Selector.getElem?_strikeOut`: The die at a position is struck out if the position is
  among those given.
* `Selector.strikeOut_nil`: Without positions nothing is struck out.
* `Selector.map_value_strikeOut`: Striking dice out changes no value.
* `Selector.isSettled_strikeOut`: Settled dice stay settled, whether or not they are
  struck out.
* `Selector.counting_strikeOut`: On the positions that count, striking dice out is a
  filter.
* `Selector.length_candidates`: There are as many candidates as positions that count.
* `Selector.dropped?_of_le`: Of no more dice than are asked for none falls out.
* `Selector.exists_dropped?_of_rolled`: The positions that fall out, once those that count
  are lined up.
* `Selector.narrow_eq_strikeOut`: The dice that a selector strikes out, once those that
  count are lined up.
* `Selector.narrow_of_le`: A selector that asks for as many dice as count, or more, does
  nothing.
* `Selector.map_value_narrow`: A selector changes marks only.
* `Selector.isSome_narrow`: Thrown dice still show a value after a selector.
* `Selector.narrows_of_rolled`: A selector acts by the rule.
* `Selector.isSettled_narrow`: Settled dice are settled after a selector.
* `Roll.map_value_narrow`: Selectors change no value, however many there are.
* `Roll.survive_of_rolled`: So do several, one after the other.
* `Roll.survive_narrow`: On settled dice selectors act by the rule and leave settled dice.
-/

namespace DiceRoller

/-- The die at one position precedes the die at another: it shows the better value,
    or the same value and stands earlier. -/
def Precedes (high : Bool) (values : List Int) (i j : Nat) : Prop :=
  (if high then values.getD j 0 < values.getD i 0 else values.getD i 0 < values.getD j 0) ∨
    (values.getD i 0 = values.getD j 0 ∧ i < j)

/-- Of two positions at most one precedes the other. -/
theorem Precedes.asymm {high : Bool} {values : List Int} {i j : Nat}
    (h : Precedes high values i j) : ¬ Precedes high values j i := by
  intro h'
  -- Of two values one is the better, and of two positions one is the earlier.
  simp only [Precedes] at h h'
  cases high
  · simp only [Bool.false_eq_true, if_false] at h h'
    omega
  · simp only [if_true] at h h'
    omega

/-- The positions that count, each before those that it precedes. -/
structure IsLineUp (high : Bool) (values : List Int) (counting line : List Nat) : Prop where
  perm : line.Perm counting
  sorted : line.Pairwise (Precedes high values)

/-- The positions that count have one line-up. -/
theorem IsLineUp.unique {high : Bool} {values : List Int} {counting line line' : List Nat}
    (h : IsLineUp high values counting line) (h' : IsLineUp high values counting line') :
    line = line' :=
  -- Two line-ups hold the same positions, and none of them may be swapped.
  List.Perm.eq_of_pairwise (fun _ _ _ _ hab hba => absurd hba hab.asymm) h.sorted h'.sorted
    (h.perm.trans h'.perm.symm)

/-- Behind a cut through a line-up stand those positions that do not stand before it. -/
theorem IsLineUp.mem_drop_iff {high : Bool} {values : List Int} {counting line : List Nat}
    (h : IsLineUp high values counting line) (hnodup : counting.Nodup) {i : Nat}
    (hi : i ∈ counting) (n : Nat) : i ∈ line.drop n ↔ i ∉ line.take n := by
  have hparts : (line.take n ++ line.drop n).Nodup := by
    rw [List.take_append_drop]
    exact h.perm.nodup_iff.mpr hnodup
  have hmem : i ∈ line.take n ∨ i ∈ line.drop n := by
    rw [← List.mem_append, List.take_append_drop]
    exact h.perm.mem_iff.mpr hi
  exact ⟨fun hd ht => List.disjoint_of_nodup_append hparts ht hd, hmem.resolve_left⟩

/-- What a selector leaves of the positions that count. If it asks for as many as
    there are, or more, it leaves them all. Otherwise it keeps the first of their
    line-up, or drops these. -/
inductive Selector.Narrows (s : Selector) (values : List Int) (counting : List Nat) :
    List Nat → Prop where
  | idle (h : counting.length ≤ s.num) : Narrows s values counting counting
  | keep (line : List Nat) (h : s.num < counting.length) (hk : s.keep = true)
      (hl : IsLineUp s.high values counting line) :
      Narrows s values counting (counting.filter fun i => decide (i ∈ line.take s.num))
  | drop (line : List Nat) (h : s.num < counting.length) (hk : s.keep = false)
      (hl : IsLineUp s.high values counting line) :
      Narrows s values counting (counting.filter fun i => decide (i ∉ line.take s.num))

/-- What one selector leaves is settled by the values and the positions that count. -/
theorem Selector.Narrows.unique {s : Selector} {values : List Int} {counting left left' : List Nat}
    (h : s.Narrows values counting left) (h' : s.Narrows values counting left') :
    left = left' := by
  -- The number of positions and the choice leave one rule, and it has one line-up.
  cases h with
  | idle h =>
      cases h' with
      | idle => rfl
      | keep line hlt => omega
      | drop line hlt => omega
  | keep line hlt hk hl =>
      cases h' with
      | idle h => omega
      | keep line' _ _ hl' => rw [hl.unique hl']
      | drop line' _ hd => exact absurd (hk.symm.trans hd) (by decide)
  | drop line hlt hd hl =>
      cases h' with
      | idle h => omega
      | keep line' _ hk => exact absurd (hk.symm.trans hd) (by decide)
      | drop line' _ _ hl' => rw [hl.unique hl']

-- A selector never lets a position count that did not count before.
theorem Selector.Narrows.sublist {s : Selector} {values : List Int} {counting left : List Nat}
    (h : s.Narrows values counting left) : left.Sublist counting := by
  cases h with
  | idle => exact List.Sublist.refl counting
  | keep => exact List.filter_sublist
  | drop => exact List.filter_sublist

/-- What selectors leave of the positions that count, one selector after the other. -/
inductive Survive (values : List Int) : List Selector → List Nat → List Nat → Prop where
  | nil (counting : List Nat) : Survive values [] counting counting
  | cons {s : Selector} {ss : List Selector} {counting left left' : List Nat}
      (h : s.Narrows values counting left) (h' : Survive values ss left left') :
      Survive values (s :: ss) counting left'

theorem Survive.unique {values : List Int} {ss : List Selector} {counting left left' : List Nat}
    (h : Survive values ss counting left) (h' : Survive values ss counting left') :
    left = left' := by
  induction h with
  | nil counting =>
      cases h' with
      | nil => rfl
  | cons hs _ ih =>
      cases h' with
      | cons hs' hss' =>
          rw [hs'.unique hs] at hss'
          exact ih hss'

/-- A die that was thrown and carries one of the two marks of a throw. -/
structure Showing.IsSettled (d : Showing) : Prop where
  rolled : d.value.isSome
  flags : d.flags = 1 ∨ d.flags = 2

namespace Showing

theorem IsSettled.drop {d : Showing} (h : d.IsSettled) : d.drop.IsSettled := ⟨h.rolled, Or.inr rfl⟩

theorem isKept_drop (d : Showing) : d.drop.isKept = false := rfl

/-- Dice with equal values are worth the same. -/
theorem map_total_eq {dice dice' : List Showing}
    (h : dice.map Showing.value = dice'.map Showing.value) :
    dice.map Showing.total = dice'.map Showing.total := by
  have hmap := congrArg (List.map (·.getD 0)) h
  rw [List.map_map, List.map_map] at hmap
  exact hmap

/-- With the marks of a throw a die either counts or is struck out. -/
theorem IsSettled.isDropped_eq {d : Showing} (h : d.IsSettled) : d.isDropped = !d.isKept := by
  rcases h.flags with hf | hf
  · rw [isDropped, isKept, hf]
    rfl
  · rw [isDropped, isKept, hf]
    rfl

end Showing

namespace Selector

/-- The positions of the dice that count. -/
def counting (dice : List Showing) : List Nat :=
  (List.range dice.length).filter fun i => dice[i]?.any Showing.isKept

theorem nodup_counting (dice : List Showing) : (counting dice).Nodup :=
  List.nodup_range.filter _

/-- A position counts if there is a die that counts. -/
theorem mem_counting_iff {dice : List Showing} {i : Nat} :
    i ∈ counting dice ↔ ∃ d, dice[i]? = some d ∧ d.isKept = true := by
  rw [counting, List.mem_filter, List.mem_range, Option.any_eq_true]
  constructor
  · exact fun ⟨_, d, hd, hkept⟩ => ⟨d, hd, hkept⟩
  · exact fun ⟨d, hd, hkept⟩ => ⟨(List.getElem?_eq_some_iff.mp hd).1, d, hd, hkept⟩

/-- The marks of a throw say no more than which dice count. -/
theorem map_flags_eq_of_counting {dice dice' : List Showing} (h : ∀ d ∈ dice, d.IsSettled)
    (h' : ∀ d ∈ dice', d.IsSettled) (hlen : dice.length = dice'.length)
    (hcounting : counting dice = counting dice') :
    dice.map Showing.flags = dice'.map Showing.flags := by
  refine List.ext_getElem (by rw [List.length_map, List.length_map, hlen]) fun i hi hi' => ?_
  rw [List.length_map] at hi hi'
  -- At each position the dice of both lists count, or neither does.
  have hmem : dice[i].isKept = true ↔ dice'[i].isKept = true := by
    have hget := List.getElem?_eq_getElem hi
    have hget' := List.getElem?_eq_getElem hi'
    have hcount : i ∈ counting dice ↔ i ∈ counting dice' := by rw [hcounting]
    simp only [mem_counting_iff, hget, hget', Option.some.injEq, exists_eq_left'] at hcount
    exact hcount
  rw [List.getElem_map, List.getElem_map]
  -- A mark is one or two, and it is one exactly if the die counts.
  rcases (h _ (List.getElem_mem hi)).flags with hf | hf <;>
    rcases (h' _ (List.getElem_mem hi')).flags with hf' | hf' <;>
    simp only [Showing.isKept, hf, hf'] at hmem ⊢
  · exact absurd (hmem.mp rfl) (by decide)
  · exact absurd (hmem.mpr rfl) (by decide)

/-- The candidates stand at the positions that count, in the same order. -/
theorem map_snd_candidates (dice : List Showing) :
    (candidates dice).map Prod.snd = counting dice := by
  -- Whether the die at a position counts can be asked of the position alone.
  have hfilter : candidates dice
      = dice.zipIdx.filter ((fun i => dice[i]?.any Showing.isKept) ∘ Prod.snd) := by
    refine List.filter_congr fun p hp => ?_
    rw [List.mem_zipIdx_iff_getElem?] at hp
    rw [Function.comp_apply, hp, Option.any_some]
  rw [hfilter, ← List.filter_map, List.zipIdx_map_snd, counting, List.range_eq_range']

/-- Dice with values have values to be lined up by. -/
theorem values?_of_rolled {active : List (Showing × Nat)} (h : ∀ p ∈ active, p.1.value.isSome) :
    values? active = some (active.map fun p => (p.1.total, p.2)) := by
  induction active with
  | nil => rfl
  | cons p active ih =>
      rcases Option.isSome_iff_exists.mp (h p List.mem_cons_self) with ⟨v, hv⟩
      have hrest := ih fun q hq => h q (List.mem_cons_of_mem p hq)
      rw [values?] at hrest ⊢
      rw [List.mapM_cons, hrest, hv, List.map_cons, Showing.total, hv]
      rfl

/-- The comparison of the sort is transitive. -/
theorem isBefore_trans (s : Selector) (a b c : Int × Nat) (hab : s.isBefore a b = true)
    (hbc : s.isBefore b c = true) : s.isBefore a c = true := by
  simp only [isBefore, Bool.or_eq_true, Bool.and_eq_true, beq_iff_eq, decide_eq_true_eq]
    at hab hbc ⊢
  -- The better value is the smaller one or the greater one.
  cases hs : s.high
  · simp only [hs, Bool.false_eq_true, if_false, decide_eq_true_eq] at hab hbc ⊢
    omega
  · simp only [hs, if_true, decide_eq_true_eq] at hab hbc ⊢
    omega

/-- Of two entries one may stand before the other, so that the sort can line them up. -/
theorem isBefore_total (s : Selector) (a b : Int × Nat) :
    (s.isBefore a b || s.isBefore b a) = true := by
  simp only [isBefore, Bool.or_eq_true, Bool.and_eq_true, beq_iff_eq, decide_eq_true_eq]
  cases hs : s.high
  · simp only [Bool.false_eq_true, if_false, decide_eq_true_eq]
    omega
  · simp only [if_true, decide_eq_true_eq]
    omega

/-- The dice that count, with their values, sorted: their positions are the line-up. -/
theorem isLineUp_mergeSort (s : Selector) (dice : List Showing) :
    IsLineUp s.high (dice.map Showing.total) (counting dice)
      ((((candidates dice).map fun p => (p.1.total, p.2)).mergeSort s.isBefore).map Prod.snd) := by
  -- Sorting moves the candidates, so it moves their positions.
  have hperm : ((((candidates dice).map fun p => (p.1.total, p.2)).mergeSort s.isBefore).map
      Prod.snd).Perm (counting dice) := by
    have h := (List.mergeSort_perm ((candidates dice).map fun p => (p.1.total, p.2))
      s.isBefore).map Prod.snd
    rw [List.map_map] at h
    rw [← map_snd_candidates]
    exact h
  refine ⟨hperm, ?_⟩
  -- Each entry of the line holds the value of its position.
  have hvalue : ∀ a ∈ ((candidates dice).map fun p => (p.1.total, p.2)).mergeSort s.isBefore,
      (dice.map Showing.total).getD a.2 0 = a.1 := by
    intro a ha
    rcases List.mem_map.mp (List.mem_mergeSort.mp ha) with ⟨p, hp, rfl⟩
    have hget := List.mem_zipIdx_iff_getElem?.mp (List.mem_filter.mp hp).1
    rw [List.getD_eq_getElem?_getD, List.getElem?_map, hget]
    rfl
  -- The sort allows equal entries, but no position stands in the line twice.
  have hnodup := hperm.nodup_iff.mpr (nodup_counting dice)
  have hsorted := List.pairwise_mergeSort (isBefore_trans s) (isBefore_total s)
    ((candidates dice).map fun p => (p.1.total, p.2))
  rw [List.pairwise_map]
  refine (hsorted.and (List.pairwise_map.mp hnodup)).imp_of_mem ?_
  intro a b ha hb hab
  rcases hab with ⟨hbefore, hne⟩
  rw [Precedes, hvalue a ha, hvalue b hb]
  simp only [isBefore, Bool.or_eq_true, Bool.and_eq_true, beq_iff_eq, decide_eq_true_eq] at hbefore
  cases hs : s.high
  · simp only [hs, Bool.false_eq_true, if_false, decide_eq_true_eq] at hbefore ⊢
    omega
  · simp only [hs, if_true, decide_eq_true_eq] at hbefore ⊢
    omega

theorem length_strikeOut (positions : List Nat) (dice : List Showing) :
    (strikeOut positions dice).length = dice.length := by
  rw [strikeOut, List.length_map, List.length_zipIdx]

/-- The die at a position is struck out if the position is among those given. -/
theorem getElem?_strikeOut (positions : List Nat) (dice : List Showing) (i : Nat) :
    (strikeOut positions dice)[i]?
      = dice[i]?.map fun d => if positions.contains i then d.drop else d := by
  rw [strikeOut, List.getElem?_map, List.getElem?_zipIdx, Option.map_map, Nat.zero_add]
  rfl

theorem strikeOut_nil (dice : List Showing) : strikeOut [] dice = dice := by
  refine List.ext_getElem? fun i => ?_
  rw [getElem?_strikeOut]
  exact Option.map_id'

/-- Striking dice out changes no value. -/
theorem map_value_strikeOut (positions : List Nat) (dice : List Showing) :
    (strikeOut positions dice).map Showing.value = dice.map Showing.value := by
  refine List.ext_getElem? fun i => ?_
  rw [List.getElem?_map, List.getElem?_map, getElem?_strikeOut, Option.map_map]
  congr 1
  funext d
  rw [Function.comp_apply]
  split <;> rfl

/-- Settled dice stay settled, whether or not they are struck out. -/
theorem isSettled_strikeOut {positions : List Nat} {dice : List Showing}
    (h : ∀ d ∈ dice, d.IsSettled) : ∀ d ∈ strikeOut positions dice, d.IsSettled := by
  intro d hd
  rcases List.mem_map.mp hd with ⟨p, hp, rfl⟩
  have hmem := h p.1 (List.mem_of_getElem? (List.mem_zipIdx_iff_getElem?.mp hp))
  split
  · exact hmem.drop
  · exact hmem

/-- On the positions that count, striking dice out is a filter. -/
theorem counting_strikeOut (positions : List Nat) (dice : List Showing) :
    counting (strikeOut positions dice)
      = (counting dice).filter fun i => !positions.contains i := by
  rw [counting, counting, length_strikeOut, List.filter_filter]
  refine List.filter_congr fun i _ => ?_
  rw [getElem?_strikeOut]
  rcases dice[i]? with _ | d
  · rw [Option.map_none, Option.any_none, Bool.and_false]
  · rw [Option.map_some, Option.any_some, Option.any_some]
    cases positions.contains i
    · rfl
    · rfl

theorem length_candidates (dice : List Showing) :
    (candidates dice).length = (counting dice).length := by
  rw [← map_snd_candidates, List.length_map]

theorem dropped?_of_le {s : Selector} {dice : List Showing}
    (hle : (counting dice).length ≤ s.num) : s.dropped? dice = some [] := by
  rw [dropped?, if_pos (by rw [length_candidates]; exact hle)]

/-- The positions that fall out, once those that count are lined up. -/
theorem exists_dropped?_of_rolled {s : Selector} {dice : List Showing}
    (h : ∀ p ∈ candidates dice, p.1.value.isSome) (hlt : s.num < (counting dice).length) :
    ∃ line, IsLineUp s.high (dice.map Showing.total) (counting dice) line ∧
      s.dropped? dice = some (if s.keep then line.drop s.num else line.take s.num) := by
  refine ⟨_, isLineUp_mergeSort s dice, ?_⟩
  have hlen := length_candidates dice
  simp only [dropped?, values?_of_rolled h, if_neg (by omega : ¬ (candidates dice).length ≤ s.num),
    Option.map_some]
  -- A selector that keeps drops what stands behind the cut, one that drops what stands before
  -- it.
  cases s.keep
  · simp only [Bool.false_eq_true, if_false, List.map_take]
  · simp only [if_true, List.map_drop]

/-- The dice that a selector strikes out, once those that count are lined up. -/
theorem narrow_eq_strikeOut {s : Selector} {dice : List Showing}
    (h : ∀ d ∈ dice, d.value.isSome) (hlt : s.num < (counting dice).length) :
    ∃ line, IsLineUp s.high (dice.map Showing.total) (counting dice) line ∧
      s.narrow dice = strikeOut (if s.keep then line.drop s.num else line.take s.num) dice := by
  have hrolled : ∀ p ∈ candidates dice, p.1.value.isSome := by
    intro p hp
    have hget := List.mem_zipIdx_iff_getElem?.mp (List.mem_filter.mp hp).1
    exact h p.1 (List.mem_of_getElem? hget)
  rcases exists_dropped?_of_rolled hrolled hlt with ⟨line, hline, hdropped⟩
  refine ⟨line, hline, ?_⟩
  rw [narrow, narrowed?, hdropped, Option.map_some, Option.getD_some]

/-- A selector that asks for as many dice as count, or more, does nothing. -/
theorem narrow_of_le {s : Selector} {dice : List Showing}
    (hle : (counting dice).length ≤ s.num) : s.narrow dice = dice := by
  rw [narrow, narrowed?, dropped?_of_le hle, Option.map_some, Option.getD_some, strikeOut_nil]

/-- A selector changes marks only. -/
theorem map_value_narrow (s : Selector) (dice : List Showing) :
    (s.narrow dice).map Showing.value = dice.map Showing.value := by
  rw [narrow, narrowed?]
  rcases s.dropped? dice with _ | positions
  · rfl
  · exact map_value_strikeOut positions dice

/-- Thrown dice still show a value after a selector. -/
theorem isSome_narrow (s : Selector) {dice : List Showing} (h : ∀ d ∈ dice, d.value.isSome) :
    ∀ d ∈ s.narrow dice, d.value.isSome := by
  intro d hd
  -- The value of the die was there before the selector.
  have hmem := List.mem_map_of_mem (f := Showing.value) hd
  rw [map_value_narrow] at hmem
  rcases List.mem_map.mp hmem with ⟨d', hd', heq⟩
  rw [← heq]
  exact h d' hd'

/-- A selector acts by the rule on dice with values, whatever their marks are. -/
theorem narrows_of_rolled (s : Selector) {dice : List Showing}
    (h : ∀ d ∈ dice, d.value.isSome) :
    s.Narrows (dice.map Showing.total) (counting dice) (counting (s.narrow dice)) := by
  by_cases hle : (counting dice).length ≤ s.num
  · -- As many as there are, or more: nothing happens.
    rw [narrow_of_le hle]
    exact .idle hle
  · have hlt : s.num < (counting dice).length := by omega
    rcases narrow_eq_strikeOut h hlt with ⟨line, hline, hnarrow⟩
    rw [hnarrow, counting_strikeOut]
    cases hk : s.keep
    · -- Dropped is what stands before the cut, which are the dice struck out.
      have hdrop := Narrows.drop line hlt hk hline
      have hfilter : ((counting dice).filter fun i => decide (i ∉ line.take s.num))
          = (counting dice).filter fun i => !(line.take s.num).contains i := by
        refine List.filter_congr fun i _ => ?_
        rw [List.contains_eq_mem, decide_not]
      rw [hfilter] at hdrop
      rw [if_neg Bool.false_ne_true]
      exact hdrop
    · -- Kept is what stands before the cut, and that is all that does not stand behind it.
      have hkeep := Narrows.keep line hlt hk hline
      have hfilter : ((counting dice).filter fun i => decide (i ∈ line.take s.num))
          = (counting dice).filter fun i => !(line.drop s.num).contains i := by
        refine List.filter_congr fun i hi => ?_
        rw [List.contains_eq_mem, ← decide_not]
        refine decide_eq_decide.mpr ?_
        rw [hline.mem_drop_iff (nodup_counting dice) hi, not_not]
      rw [hfilter] at hkeep
      rw [if_pos rfl]
      exact hkeep

/-- Settled dice are settled after a selector. -/
theorem isSettled_narrow (s : Selector) {dice : List Showing} (h : ∀ d ∈ dice, d.IsSettled) :
    ∀ d ∈ s.narrow dice, d.IsSettled := by
  by_cases hle : (counting dice).length ≤ s.num
  · rw [narrow_of_le hle]
    exact h
  · rcases narrow_eq_strikeOut (fun d hd => (h d hd).rolled) (Nat.lt_of_not_le hle) with
      ⟨line, -, hnarrow⟩
    rw [hnarrow]
    exact isSettled_strikeOut h

end Selector

namespace Roll

/-- Selectors change no value, however many there are. -/
theorem map_value_narrow (ss : List Selector) (dice : List Showing) :
    (narrow ss dice).map Showing.value = dice.map Showing.value := by
  induction ss generalizing dice with
  | nil => rfl
  | cons s ss ih => exact (ih (s.narrow dice)).trans (s.map_value_narrow dice)

/-- Selectors one after the other act by the rule. Values stay as they are, so the
    line-ups of all of them are by the same values. -/
theorem survive_of_rolled (ss : List Selector) {dice : List Showing}
    (h : ∀ d ∈ dice, d.value.isSome) :
    Survive (dice.map Showing.total) ss (Selector.counting dice)
      (Selector.counting (narrow ss dice)) := by
  induction ss generalizing dice with
  | nil => exact .nil _
  | cons s ss ih =>
      -- The next selectors find dice with the values of the throw again.
      have hrest := ih (s.isSome_narrow h)
      rw [Showing.map_total_eq (s.map_value_narrow dice)] at hrest
      exact .cons (s.narrows_of_rolled h) hrest

/-- On settled dice selectors act by the rule and leave settled dice. -/
theorem survive_narrow (ss : List Selector) {dice : List Showing} (h : ∀ d ∈ dice, d.IsSettled) :
    Survive (dice.map Showing.total) ss (Selector.counting dice)
        (Selector.counting (narrow ss dice)) ∧
      ∀ d ∈ narrow ss dice, d.IsSettled := by
  refine ⟨survive_of_rolled ss fun d hd => (h d hd).rolled, ?_⟩
  induction ss generalizing dice with
  | nil => exact h
  | cons s ss ih => exact ih (s.isSettled_narrow h)

end Roll

end DiceRoller
