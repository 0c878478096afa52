import DiceRoller.Proofs.Dice.Outcomes
import Mathlib.Algebra.Order.BigOperators.Group.List

/-!
# Better throws

A throw that is better die by die is worth no less. Die by die this cannot be seen, for when
one value passes another a different die may count. It can be seen of the values in order:
the least of them is no worse than it was, and neither is the second, and so on. The total is
the sum of a stretch of that order, and the selectors say which stretch it is without a look
at the values. So the two totals are sums over the same places, and place by place the better
throw has the greater value.

The order in which the values fell is lost when they are put in order. So it makes no
difference to the total, and the dice may change places before the throws are compared.

## Theorems

* `orderedInsert_eq_cons`: A value that is no greater than any other goes to the front.
* `forall₂_orderedInsert`: Each of two lists in order gets a value of its own, the upper
  list the greater one.
* `forall₂_mergeSort`: Lists that compare one by one still do when each is put in order.
* `Roll.Falls.total_le`: A throw with better values is worth no less.
* `Roll.total_mono`: So it is if the dice may change places.
* `Roll.total_mono_two_of_three`: The values change places and one of them is raised.
-/

namespace DiceRoller

section Order

variable {values values' : List Int}

/-- A value that is no greater than any other goes to the front. -/
theorem orderedInsert_eq_cons {a : Int} {l : List Int} (h : ∀ x ∈ l, a ≤ x) :
    l.orderedInsert (· ≤ ·) a = a :: l := by
  cases l with
  | nil => rfl
  | cons x l => exact List.orderedInsert_cons_of_le _ l (h x List.mem_cons_self)

-- Each of two lists in order gets a value of its own, the upper list the greater one. If the
-- values go to different places, the lists are moved by one against each other between these.
theorem forall₂_orderedInsert (h : List.Forall₂ (· ≤ ·) values values')
    (hsorted : values.Pairwise (· ≤ ·)) (hsorted' : values'.Pairwise (· ≤ ·)) {a b : Int}
    (hab : a ≤ b) :
    List.Forall₂ (· ≤ ·) (values.orderedInsert (· ≤ ·) a)
      (values'.orderedInsert (· ≤ ·) b) := by
  induction h generalizing a b with
  | nil => exact .cons hab .nil
  | @cons x y l m hxy hlm ih =>
      rcases List.pairwise_cons.mp hsorted with ⟨hx, hl⟩
      rcases List.pairwise_cons.mp hsorted' with ⟨hy, hm⟩
      by_cases hax : a ≤ x
      · rw [List.orderedInsert_cons_of_le _ l hax]
        by_cases hby : b ≤ y
        · rw [List.orderedInsert_cons_of_le _ m hby]
          exact .cons hab (.cons hxy hlm)
        · -- What stood in front is below all others, as if it had been inserted.
          have hrest := ih hl hm (show x ≤ b by omega)
          rw [orderedInsert_eq_cons hx] at hrest
          rw [List.orderedInsert_of_not_le _ m hby]
          exact .cons (show a ≤ y by omega) hrest
      · rw [List.orderedInsert_of_not_le _ l hax]
        by_cases hby : b ≤ y
        · -- The other way round: here the lower list goes on, and what stood in front of the
          -- upper one is moved back.
          have hrest := ih hl hm (show a ≤ y by omega)
          rw [orderedInsert_eq_cons hy] at hrest
          rw [List.orderedInsert_cons_of_le _ m hby]
          exact .cons (show x ≤ b by omega) hrest
        · rw [List.orderedInsert_of_not_le _ m hby]
          exact .cons hxy (ih hl hm hab)

/-- Lists that compare one by one still do when each is put in order. -/
theorem forall₂_mergeSort (h : List.Forall₂ (· ≤ ·) values values') :
    List.Forall₂ (· ≤ ·) values.mergeSort values'.mergeSort := by
  -- Inserting one value after the other gives the same list and can be done pair by pair.
  rw [List.mergeSort_eq_insertionSort, List.mergeSort_eq_insertionSort]
  induction h with
  | nil => exact .nil
  | cons hab _ ih =>
      exact forall₂_orderedInsert ih (List.pairwise_insertionSort _ _)
        (List.pairwise_insertionSort _ _) hab

end Order

namespace Roll

variable {r : Roll} {draws draws' : Draws} {v w : List Int}

/-- A throw with better values is worth no less, if the dice may change places. -/
theorem Falls.total_le (hv : r.Falls draws v) (hw : r.Falls draws' w) (hthrow : r.IsThrowable)
    (hquantity : 1 ≤ r.quantity) {u : List Int} (hperm : u.Perm v)
    (hle : List.Forall₂ (· ≤ ·) u w) : (r.throw draws).1.total ≤ (r.throw draws').1.total := by
  rw [hv.total_eq_sum_cut hthrow hquantity, hw.total_eq_sum_cut hthrow hquantity]
  -- There is one way to put values in order.
  have hsort : v.mergeSort = u.mergeSort := by
    refine List.Perm.eq_of_pairwise (fun _ _ _ _ => Int.le_antisymm)
      (List.pairwise_mergeSort' (· ≤ ·) v) (List.pairwise_mergeSort' (· ≤ ·) u) ?_
    exact (List.mergeSort_perm v _).trans (hperm.symm.trans (List.mergeSort_perm u _).symm)
  -- Both totals are sums over the same places of lists that compare place by place.
  have hcut : List.Forall₂ (· ≤ ·) ((Window.after r.quantity r.selectors).cut u.mergeSort)
      ((Window.after r.quantity r.selectors).cut w.mergeSort) :=
    List.forall₂_take _ (List.forall₂_drop _ (forall₂_mergeSort hle))
  rw [hsort]
  exact hcut.sum_le_sum

/-- Of two throws of a roll the one with better values is worth no less, where the dice may
    change places. In particular the places make no difference, and neither does it do any
    harm if some dice show more. -/
theorem total_mono (r : Roll) (hthrow : r.IsThrowable) (hquantity : 1 ≤ r.quantity)
    (draws draws' : Draws) (v w : List Int) (hv : r.Falls draws v) (hw : r.Falls draws' w) :
    ((∃ u, u.Perm v ∧ List.Forall₂ (· ≤ ·) u w) →
      (r.throw draws).1.total ≤ (r.throw draws').1.total) ∧
    (v.Perm w → (r.throw draws).1.total = (r.throw draws').1.total) ∧
    (List.Forall₂ (· ≤ ·) v w → (r.throw draws).1.total ≤ (r.throw draws').1.total) := by
  refine ⟨fun ⟨u, hperm, hle⟩ => hv.total_le hw hthrow hquantity hperm hle, fun hperm => ?_,
    fun hle => hv.total_le hw hthrow hquantity (.refl v) hle⟩
  -- Rearranged, each of the throws is as good as the other.
  refine Int.le_antisymm ?_ ?_
  · exact hv.total_le hw hthrow hquantity hperm.symm (List.forall₂_refl w)
  · exact hw.total_le hv hthrow hquantity hperm (List.forall₂_refl v)

-- The values change places and one of them is raised. Of the highest two it is another pair
-- of dice that counts, and one more is shown on them.
theorem total_mono_two_of_three :
    IsThrowable (.fresh 3 (.plain 6) [⟨true, true, 2⟩]) ∧
    1 ≤ (fresh 3 (.plain 6) [⟨true, true, 2⟩]).quantity ∧
    (fresh 3 (.plain 6) [⟨true, true, 2⟩]).Falls (.ofCycle #[5, 0, 2]) [6, 1, 3] ∧
    (fresh 3 (.plain 6) [⟨true, true, 2⟩]).Falls (.ofCycle #[0, 3, 5]) [1, 4, 6] ∧
    (∃ u : List Int, u.Perm [6, 1, 3] ∧ List.Forall₂ (· ≤ ·) u [1, 4, 6]) ∧
    ((fresh 3 (.plain 6) [⟨true, true, 2⟩]).throw (.ofCycle #[5, 0, 2])).1.total
      ≤ ((fresh 3 (.plain 6) [⟨true, true, 2⟩]).throw (.ofCycle #[0, 3, 5])).1.total := by
  have hthrow : IsThrowable (.fresh 3 (.plain 6) [⟨true, true, 2⟩]) := ⟨by decide, by decide⟩
  have hquantity : 1 ≤ (fresh 3 (.plain 6) [⟨true, true, 2⟩]).quantity := by decide
  have hv : (fresh 3 (.plain 6) [⟨true, true, 2⟩]).Falls (.ofCycle #[5, 0, 2]) [6, 1, 3] := by
    cbv
  have hw : (fresh 3 (.plain 6) [⟨true, true, 2⟩]).Falls (.ofCycle #[0, 3, 5]) [1, 4, 6] := by
    cbv
  have hbetter : ∃ u : List Int, u.Perm [6, 1, 3] ∧ List.Forall₂ (· ≤ ·) u [1, 4, 6] :=
    ⟨[1, 3, 6], by decide, .cons (by decide) (.cons (by decide) (.cons (by decide) .nil))⟩
  have htotal := (total_mono _ hthrow hquantity _ _ _ _ hv hw).1 hbetter
  exact ⟨hthrow, hquantity, hv, hw, hbetter, htotal⟩

end Roll

end DiceRoller
