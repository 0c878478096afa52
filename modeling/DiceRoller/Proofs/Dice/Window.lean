import DiceRoller.Proofs.Dice.Standing
import Mathlib.Algebra.BigOperators.Group.List.Basic
import Mathlib.Data.List.GetD
import Mathlib.Data.List.Sort

/-!
# What is left, in order of value

Selectors take dice away from the two ends. Put the values of a throw in order. The
highest or lowest of them stand at an end of that order, so what a selector leaves is a
stretch of it, what the next one leaves is a stretch of that, and so on. Where a stretch
begins and how long it is depends on how many dice there were and on the selectors, and
on nothing that the dice show. So the number of dice that count after a throw is known
before it, and it is never zero.

Which dice are left among equal ones is another matter, and a matter of positions. The
values do not show it.

## Main definitions

* `Window`: A stretch of a list, by its beginning and its length.
* `Selector.window`: What a selector leaves of a stretch.
* `Window.after`: What selectors leave of a number of dice.
* `Window.Holds`: The values at the positions that count are a stretch of all values.

## Theorems

* `Window.length_cut`: A window that fits into a list cuts out as many entries as it is
  long.
* `Window.sublist_cut`: What is cut out keeps its order.
* `Window.take_cut`: The first entries in a window are those in a shorter one.
* `Window.drop_cut`: The other entries in a window are those in one that begins later.
* `Window.Holds.length_eq`: As many positions count as the window is long.
* `IsLineUp.map_eq`: The values of a line-up are a stretch in order or in reverse.
* `IsLineUp.filter_perm_take`: The positions in front of a cut through a line-up.
* `IsLineUp.filter_perm_drop`: The positions behind it.
* `Selector.Narrows.window`: What a selector leaves of a stretch is a stretch.
* `Survive.window`: So it is for several selectors.
* `Window.holds_range`: Before the first selector all dice count, and the stretch is
  everything.
* `Showing.map_value_eq`: Rolled dice show what they are worth.
* `Roll.window_throw`: The dice that count after a throw.
* `Roll.window_throw_of_four`: Four dice, of which the lowest is dropped and the two
  highest of the others are kept.
-/

namespace DiceRoller

/-- A stretch of a list: where it begins and how long it is. -/
structure Window where
  low : Nat
  size : Nat
deriving DecidableEq

/-- What a selector leaves of a stretch of values in order. If it asks for as many as
    there are, or more, it leaves them all. -/
def Selector.window (s : Selector) (w : Window) : Window :=
  if s.num < w.size then
    match s.keep, s.high with
    | true, true => ⟨w.low + w.size - s.num, s.num⟩
    | true, false => ⟨w.low, s.num⟩
    | false, true => ⟨w.low, w.size - s.num⟩
    | false, false => ⟨w.low + s.num, w.size - s.num⟩
  else w

namespace Window

/-- What selectors leave of a number of dice, one selector after the other. -/
def after (quantity : Nat) (ss : List Selector) : Window :=
  ss.foldl (fun w s => s.window w) ⟨0, quantity⟩

/-- The part of a list that lies in the window. -/
def cut {α : Type} (w : Window) (l : List α) : List α := (l.drop w.low).take w.size

/-- A window that fits into a list cuts out as many entries as it is long. -/
theorem length_cut {α : Type} {w : Window} {l : List α} (h : w.low + w.size ≤ l.length) :
    (w.cut l).length = w.size := by
  rw [cut, List.length_take, List.length_drop]
  omega

theorem sublist_cut {α : Type} (w : Window) (l : List α) : (w.cut l).Sublist l :=
  (List.take_sublist _ _).trans (List.drop_sublist _ _)

theorem take_cut {α : Type} {w : Window} {n : Nat} (h : n ≤ w.size) (l : List α) :
    (w.cut l).take n = cut ⟨w.low, n⟩ l := by
  rw [cut, List.take_take, Nat.min_eq_left h, cut]

/-- The other entries in a window are those in one that begins later. -/
theorem drop_cut {α : Type} (w : Window) (n : Nat) (l : List α) :
    (w.cut l).drop n = cut ⟨w.low + n, w.size - n⟩ l := by
  rw [cut, List.drop_take, List.drop_drop, cut]

/-- The values at the positions that count are those in a window of all values. -/
structure Holds (w : Window) (sorted values : List Int) (counting : List Nat) : Prop where
  nodup : counting.Nodup
  one_le : 1 ≤ w.size
  fits : w.low + w.size ≤ sorted.length
  perm : (counting.map fun i => values.getD i 0).Perm (w.cut sorted)

/-- As many positions count as the window is long. -/
theorem Holds.length_eq {w : Window} {sorted values : List Int} {counting : List Nat}
    (h : w.Holds sorted values counting) : counting.length = w.size := by
  have hlen := h.perm.length_eq
  rw [List.length_map, length_cut h.fits] at hlen
  exact hlen

end Window

variable {sorted values : List Int} {counting line : List Nat} {w : Window}

/-- The values of a line-up stand in order, or in reverse if high values come first. -/
theorem IsLineUp.map_eq {high : Bool} (h : IsLineUp high values counting line)
    (hsorted : sorted.Pairwise (· ≤ ·)) (hw : w.Holds sorted values counting) :
    line.map (fun i => values.getD i 0)
      = if high then (w.cut sorted).reverse else w.cut sorted := by
  have hperm : (line.map fun i => values.getD i 0).Perm (w.cut sorted) :=
    (h.perm.map _).trans hw.perm
  have hcut : (w.cut sorted).Pairwise (· ≤ ·) := hsorted.sublist (w.sublist_cut sorted)
  -- Both lists hold the same values, and there is one way to put values in order.
  cases high with
  | false =>
      have hline : (line.map fun i => values.getD i 0).Pairwise (· ≤ ·) := by
        refine List.pairwise_map.mpr (h.sorted.imp fun hij => ?_)
        simp only [Precedes, Bool.false_eq_true, if_false] at hij
        omega
      exact hperm.eq_of_pairwise (fun _ _ _ _ => Int.le_antisymm) hline hcut
  | true =>
      have hline : (line.map fun i => values.getD i 0).Pairwise (fun a b => b ≤ a) := by
        refine List.pairwise_map.mpr (h.sorted.imp fun hij => ?_)
        simp only [Precedes, if_true] at hij
        omega
      exact (hperm.trans (List.reverse_perm _).symm).eq_of_pairwise
        (fun _ _ _ _ hab hba => Int.le_antisymm hba hab) hline (List.pairwise_reverse.mpr hcut)

/-- The positions in front of a cut through a line-up. -/
theorem IsLineUp.filter_perm_take {high : Bool} (h : IsLineUp high values counting line)
    (hnodup : counting.Nodup) (n : Nat) :
    (counting.filter fun i => decide (i ∈ line.take n)).Perm (line.take n) := by
  have hline := h.perm.nodup_iff.mpr hnodup
  -- Neither list holds a position twice, so it is enough that they hold the same ones.
  refine (List.perm_ext_iff_of_nodup (hnodup.filter _) (hline.sublist (List.take_sublist n _))).mpr
    fun i => ?_
  rw [List.mem_filter, decide_eq_true_eq]
  exact ⟨And.right, fun hi => ⟨h.perm.mem_iff.mp (List.mem_of_mem_take hi), hi⟩⟩

/-- The positions behind it. -/
theorem IsLineUp.filter_perm_drop {high : Bool} (h : IsLineUp high values counting line)
    (hnodup : counting.Nodup) (n : Nat) :
    (counting.filter fun i => decide (i ∉ line.take n)).Perm (line.drop n) := by
  have hline := h.perm.nodup_iff.mpr hnodup
  refine (List.perm_ext_iff_of_nodup (hnodup.filter _) (hline.sublist (List.drop_sublist n _))).mpr
    fun i => ?_
  rw [List.mem_filter, decide_eq_true_eq]
  -- A position that counts stands behind the cut exactly if it does not stand in front of it.
  constructor
  · exact fun ⟨hi, hnot⟩ => (h.mem_drop_iff hnodup hi n).mpr hnot
  · intro hi
    have hmem := h.perm.mem_iff.mp (List.mem_of_mem_drop hi)
    exact ⟨hmem, (h.mem_drop_iff hnodup hmem n).mp hi⟩

/-- What a selector leaves of a stretch is the stretch that its numbers say. -/
theorem Selector.Narrows.window {s : Selector} {left : List Nat} (hone : 1 ≤ s.num)
    (hsorted : sorted.Pairwise (· ≤ ·)) (h : s.Narrows values counting left)
    (hw : w.Holds sorted values counting) : (s.window w).Holds sorted values left := by
  have hlen := hw.length_eq
  have hfits := hw.fits
  cases h with
  | idle h =>
      rw [Selector.window, if_neg (by omega)]
      exact hw
  | keep line hlt hk hl =>
      have hperm := (hl.filter_perm_take hw.nodup s.num).map fun i => values.getD i 0
      rw [List.map_take, hl.map_eq hsorted hw] at hperm
      rw [Selector.window, if_pos (by omega), hk]
      cases hs : s.high
      · rw [hs, if_neg Bool.false_ne_true, Window.take_cut (by omega)] at hperm
        exact ⟨hw.nodup.filter _, hone, by simp only; omega, hperm⟩
      · -- The highest values are the last ones in order.
        rw [hs, if_pos rfl, List.take_reverse, Window.length_cut hw.fits, Window.drop_cut] at hperm
        refine ⟨hw.nodup.filter _, hone, by simp only; omega, ?_⟩
        have hcut : (⟨w.low + (w.size - s.num), w.size - (w.size - s.num)⟩ : Window)
            = ⟨w.low + w.size - s.num, s.num⟩ := by
          congr 1 <;> omega
        rw [← hcut]
        exact hperm.trans (List.reverse_perm _)
  | drop line hlt hk hl =>
      have hperm := (hl.filter_perm_drop hw.nodup s.num).map fun i => values.getD i 0
      rw [List.map_drop, hl.map_eq hsorted hw] at hperm
      rw [Selector.window, if_pos (by omega), hk]
      -- Without the lowest values the window begins later, without the highest it ends earlier.
      cases hs : s.high
      · rw [hs, if_neg Bool.false_ne_true, Window.drop_cut] at hperm
        exact ⟨hw.nodup.filter _, by simp only; omega, by simp only; omega, hperm⟩
      · rw [hs, if_pos rfl, List.drop_reverse, Window.length_cut hw.fits,
          Window.take_cut (by omega)] at hperm
        exact ⟨hw.nodup.filter _, by simp only; omega, by simp only; omega,
          hperm.trans (List.reverse_perm _)⟩

/-- What selectors leave of a stretch, one after the other. -/
theorem Survive.window {ss : List Selector} {left : List Nat} (hone : ∀ s ∈ ss, 1 ≤ s.num)
    (hsorted : sorted.Pairwise (· ≤ ·)) (h : Survive values ss counting left)
    (hw : w.Holds sorted values counting) :
    (ss.foldl (fun w s => s.window w) w).Holds sorted values left := by
  induction h generalizing w with
  | nil counting => exact hw
  | cons hs _ ih =>
      exact ih (fun s hs => hone s (List.mem_cons_of_mem _ hs))
        (hs.window (hone _ List.mem_cons_self) hsorted hw)

/-- Before the first selector all dice count, and the stretch is everything. -/
theorem Window.holds_range {values : List Int} (h : 1 ≤ values.length) :
    Holds ⟨0, values.length⟩ values.mergeSort values (List.range values.length) := by
  have hperm := List.mergeSort_perm values fun a b => decide (a ≤ b)
  -- The values at all positions are the values.
  have hrange : (List.range values.length).map (fun i => values.getD i 0) = values := by
    refine List.ext_getElem (by rw [List.length_map, List.length_range]) fun i _ hi => ?_
    rw [List.getElem_map, List.getElem_range, List.getD_eq_getElem values 0 hi]
  refine ⟨List.nodup_range, h, by rw [hperm.length_eq, Nat.zero_add], ?_⟩
  rw [hrange, cut, List.drop_zero, List.take_of_length_le (Nat.le_of_eq hperm.length_eq)]
  exact hperm.symm

/-- Rolled dice show what they are worth. -/
theorem Showing.map_value_eq {dice : List Showing} (h : ∀ d ∈ dice, d.value.isSome) :
    dice.map Showing.value = (dice.map Showing.total).map some := by
  rw [List.map_map]
  refine List.map_congr_left fun d hd => ?_
  rcases Option.isSome_iff_exists.mp (h d hd) with ⟨v, hv⟩
  rw [Function.comp_apply, total, hv, Option.getD_some]

/-- After a throw the dice that count show a stretch of all values in order, which is
    known from the number of dice and from the selectors, is not empty, and adds up to
    the total. -/
theorem Roll.window_throw (r : Roll) (draws : Draws) (h : r.IsThrowable)
    (hquantity : 1 ≤ r.quantity) :
    1 ≤ (Window.after r.quantity r.selectors).size ∧
    (Window.after r.quantity r.selectors).low + (Window.after r.quantity r.selectors).size
      ≤ r.quantity ∧
    (r.throw draws).1.active.length = (Window.after r.quantity r.selectors).size ∧
    ∃ values : List Int, (r.throw draws).1.shown.map Showing.value = values.map some ∧
      ((r.throw draws).1.active.map Showing.value).Perm
        (((Window.after r.quantity r.selectors).cut values.mergeSort).map some) ∧
      (r.throw draws).1.total
        = ((Window.after r.quantity r.selectors).cut values.mergeSort).sum := by
  rcases r.survive_throw h.distribution draws with ⟨hsurvive, hsettled⟩
  rw [quantity_throw, throw_selectors] at hsurvive
  generalize hvalues : (r.throw draws).1.shown.map Showing.total = values at hsurvive
  have hlen : values.length = r.quantity := by
    rw [← hvalues, List.length_map]
    exact quantity_throw r draws
  have hsorted : values.mergeSort.Pairwise (· ≤ ·) := List.pairwise_mergeSort' (· ≤ ·) values
  have hall : Window.Holds ⟨0, values.length⟩ values.mergeSort values
      (List.range values.length) := Window.holds_range (by omega)
  rw [hlen] at hall
  -- Each selector of the roll makes the window of all values smaller.
  have hleft : (Window.after r.quantity r.selectors).Holds values.mergeSort values
      (Selector.counting (r.throw draws).1.shown) :=
    hsurvive.window h.selectors hsorted hall
  -- The dice that count are those at the positions that count.
  have hactive := map_total_active (r.throw draws).1
  rw [hvalues] at hactive
  have hperm := hleft.perm
  rw [← hactive] at hperm
  have hrolled : ∀ d ∈ (r.throw draws).1.active, d.value.isSome := fun d hd =>
    (hsettled d (List.mem_filter.mp hd).1).rolled
  refine ⟨hleft.one_le, ?_, ?_, values, ?_, ?_, ?_⟩
  · have hfits := hleft.fits
    rw [(List.mergeSort_perm values _).length_eq, hlen] at hfits
    exact hfits
  · rw [← hleft.length_eq, ← List.length_map (f := Showing.total), hactive, List.length_map]
  · rw [← hvalues]
    exact Showing.map_value_eq fun d hd => (hsettled d hd).rolled
  · rw [Showing.map_value_eq hrolled]
    exact hperm.map some
  · exact hperm.sum_eq

-- Four dice, of which the lowest is dropped and the two highest of the others are kept.
theorem Roll.window_throw_of_four :
    IsThrowable (.fresh 4 (.plain 6) [⟨false, false, 1⟩, ⟨true, true, 2⟩]) ∧
      1 ≤ (fresh 4 (.plain 6) [⟨false, false, 1⟩, ⟨true, true, 2⟩]).quantity ∧
      Window.after 4 [⟨false, false, 1⟩, ⟨true, true, 2⟩] = ⟨2, 2⟩ ∧
      ((fresh 4 (.plain 6) [⟨false, false, 1⟩, ⟨true, true, 2⟩]).throw
        (.ofCycle #[3, 1, 3, 5])).1.active.length = 2 := by
  have hthrowable : IsThrowable (.fresh 4 (.plain 6) [⟨false, false, 1⟩, ⟨true, true, 2⟩]) :=
    ⟨by decide, by decide⟩
  have hquantity : 1 ≤ (fresh 4 (.plain 6) [⟨false, false, 1⟩, ⟨true, true, 2⟩]).quantity := by
    decide
  have hactive := (window_throw _ (.ofCycle #[3, 1, 3, 5]) hthrowable hquantity).2.2.1
  exact ⟨hthrowable, hquantity, rfl, hactive⟩

end DiceRoller
