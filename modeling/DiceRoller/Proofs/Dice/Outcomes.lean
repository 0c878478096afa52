import DiceRoller.Proofs.Dice.Window

/-!
# The values that fall

A throw of a roll depends on the draws through the values that fall and through nothing
else. So what can be said of a throw is said of these values: which dice count behind it is
what survives the selectors on them, and the total is a stretch of them in order.

Any values that stand on the faces can fall. Each die takes one draw and shows the value at
that place of its own, so the draws for given values can be written down, die by die. They
are numbers at the beginning of a stream. What the stream holds behind them does not matter,
and so the numbers for one roll can be put in front of those for the next.

## Main definitions

* `Draws.Begins`: The next draws of a stream are given numbers.
* `Roll.Falls`: The values that fall in a throw.

## Theorems

* `Draws.begins_ofCycle`: A stream that repeats some numbers begins with them.
* `Draws.Begins.of_append`: A stream that begins with two lists of numbers begins with the
  second once the first is taken.
* `DieSpec.mem_plain_iff`: The numbers from one on stand on a die with numbered faces.
* `DieSpec.mem_fateDie_iff`: A Fate die shows one of three numbers around zero.
* `falls_of_begins`: Dice of one kind show given values if the draws are the places of
  these on the faces.
* `Roll.exists_numbers`: Any values on the faces fall when the draws begin with some
  numbers.
* `Roll.exists_falls`: Any values on the faces fall with some draws.
* `Roll.exists_values`: What falls stands on the faces.
* `Roll.Falls.map_total`: What fell is what the dice are worth.
* `Roll.Falls.length_eq`: One value falls for each die.
* `Roll.Falls.survive`: Which dice count, by the values that fell.
* `Roll.Falls.map_total_active`: The dice that count show the values at their positions.
* `Roll.Falls.total_eq`: The total is the sum of the values at the positions that count.
* `Roll.Falls.holds`: What counts behind the throw is a stretch of the values in order.
* `Roll.Falls.total_eq_sum_cut`: The total, by the values that fell in order.
* `Roll.length_active_throw`: How many dice count behind a throw is known before it.
-/

namespace DiceRoller

namespace Draws

/-- The next draws are the given numbers, one after the other. -/
def Begins (draws : Draws) (numbers : List Nat) : Prop :=
  ∀ i n, numbers[i]? = some n → draws.stream (draws.taken + i) = n

/-- A stream that repeats some numbers begins with them. -/
theorem begins_ofCycle (numbers : List Nat) : (ofCycle numbers.toArray).Begins numbers := by
  intro i n hi
  have hlt : i < numbers.length := (List.getElem?_eq_some_iff.mp hi).1
  simp only [ofCycle, Nat.zero_add, List.size_toArray, Nat.mod_eq_of_lt hlt,
    Array.getD_eq_getD_getElem?, List.getElem?_toArray, hi, Option.getD_some]

/-- A stream that begins with two lists of numbers begins with the second once the first is
    taken. -/
theorem Begins.of_append {draws : Draws} {numbers numbers' : List Nat}
    (h : draws.Begins (numbers ++ numbers')) :
    draws.Begins numbers ∧ (draws.skip numbers.length).Begins numbers' := by
  constructor
  · intro i n hi
    have hlt : i < numbers.length := (List.getElem?_eq_some_iff.mp hi).1
    refine h i n ?_
    rw [List.getElem?_append_left hlt]
    exact hi
  · intro i n hi
    -- A position behind the first numbers is one among the others.
    have hget := h (numbers.length + i) n
    rw [List.getElem?_append_right (Nat.le_add_right _ _), Nat.add_sub_cancel_left] at hget
    have hdraw := hget hi
    rw [← Nat.add_assoc] at hdraw
    exact hdraw

end Draws

namespace DieSpec

/-- The numbers from one on stand on a die with numbered faces. -/
theorem mem_plain_iff {n : Nat} {v : Int} : v ∈ (plain n).distribution ↔ 1 ≤ v ∧ v ≤ n := by
  rw [plain, List.mem_map]
  constructor
  · rintro ⟨k, hk, rfl⟩
    rw [List.mem_range] at hk
    omega
  · intro h
    refine ⟨(v - 1).toNat, List.mem_range.mpr (by omega), ?_⟩
    omega

theorem mem_fateDie_iff {v : Int} : v ∈ fateDie.distribution ↔ -1 ≤ v ∧ v ≤ 1 := by
  simp only [fateDie, List.mem_cons, List.not_mem_nil, or_false]
  omega

end DieSpec

/-- Dice of one kind show given values if the draws are the places of these on the faces. -/
theorem falls_of_begins {kind : DieSpec} {values : List Int} {draws : Draws}
    (hfaces : ∀ v ∈ values, v ∈ kind.distribution)
    (hdraws : draws.Begins (values.map fun v => kind.distribution.idxOf v)) :
    falls (List.replicate values.length kind) draws = values.map some := by
  refine List.ext_getElem? fun i => ?_
  rw [getElem?_falls, List.getElem?_map, List.getElem?_replicate]
  by_cases hi : i < values.length
  · have hvalue := List.getElem?_eq_getElem hi
    generalize values[i] = v at hvalue
    have hmem : v ∈ kind.distribution := hfaces v (List.mem_of_getElem? hvalue)
    have hplace : draws.stream (draws.taken + i) = kind.distribution.idxOf v := by
      refine hdraws i _ ?_
      rw [List.getElem?_map, hvalue, Option.map_some]
    -- The place is one of the die, so reducing the draw leaves it as it is.
    rw [if_pos hi, hvalue, Option.map_some, Option.map_some, hplace,
      Nat.mod_eq_of_lt (List.idxOf_lt_length_of_mem hmem), List.getElem?_idxOf hmem]
  · rw [if_neg hi, List.getElem?_eq_none (Nat.le_of_not_lt hi)]
    rfl

namespace Roll

/-- The values that fall when the roll is thrown with some draws. -/
def Falls (r : Roll) (draws : Draws) (values : List Int) : Prop :=
  (r.throw draws).1.shown.map Showing.value = values.map some

variable {r : Roll} {draws : Draws} {values : List Int}

/-- Any values on the faces fall when the draws begin with some numbers, one for each die. -/
theorem exists_numbers (hlen : values.length = r.quantity)
    (hfaces : ∀ v ∈ values, v ∈ r.spec.distribution) :
    ∃ numbers : List Nat, numbers.length = r.quantity ∧
      ∀ draws : Draws, draws.Begins numbers → r.Falls draws values := by
  -- The numbers are the places of the values on the die.
  refine ⟨values.map fun v => r.spec.distribution.idxOf v, ?_, fun draws hdraws => ?_⟩
  · rw [List.length_map, hlen]
  · rw [Falls, map_value_throw, map_spec_dice, ← hlen]
    exact falls_of_begins hfaces hdraws

theorem exists_falls (hlen : values.length = r.quantity)
    (hfaces : ∀ v ∈ values, v ∈ r.spec.distribution) : ∃ draws, r.Falls draws values := by
  rcases exists_numbers hlen hfaces with ⟨numbers, -, hfalls⟩
  exact ⟨_, hfalls _ (Draws.begins_ofCycle numbers)⟩

/-- What falls stands on the faces. -/
theorem exists_values (h : r.spec.distribution ≠ []) (draws : Draws) :
    ∃ values, r.Falls draws values ∧ ∀ v ∈ values, v ∈ r.spec.distribution := by
  refine ⟨(r.throw draws).1.shown.map Showing.total, ?_, fun v hv => ?_⟩
  · exact Showing.map_value_eq fun d hd => ((r.survive_throw h draws).2 d hd).rolled
  · rcases List.mem_map.mp hv with ⟨d, hd, rfl⟩
    have hrolled := ((r.survive_throw h draws).2 d hd).rolled
    rcases Option.isSome_iff_exists.mp hrolled with ⟨n, hn⟩
    rw [Showing.total, hn]
    exact (isSound_throw True r draws d hd).value n hn

namespace Falls

/-- What fell is what the dice are worth. -/
theorem map_total (h : r.Falls draws values) :
    (r.throw draws).1.shown.map Showing.total = values := by
  have hmap := congrArg (List.map (·.getD 0)) h
  rw [List.map_map, List.map_map] at hmap
  exact hmap.trans (List.map_id values)

theorem length_eq (h : r.Falls draws values) : values.length = r.quantity := by
  have hlen := congrArg List.length h.map_total
  rw [List.length_map] at hlen
  exact hlen.symm.trans (r.quantity_throw draws)

/-- Of the values that fell those survive that stand at the positions that count. -/
theorem survive (h : r.Falls draws values) (hfaces : r.spec.distribution ≠ []) :
    Survive values r.selectors (List.range r.quantity)
      (Selector.counting (r.throw draws).1.shown) := by
  have hsurvive := (r.survive_throw hfaces draws).1
  rw [quantity_throw, throw_selectors, h.map_total] at hsurvive
  exact hsurvive

theorem map_total_active (h : r.Falls draws values) :
    (r.throw draws).1.active.map Showing.total
      = (Selector.counting (r.throw draws).1.shown).map fun i => values.getD i 0 := by
  rw [Roll.map_total_active, h.map_total]

/-- The total is the sum of the values at the positions that count. -/
theorem total_eq (h : r.Falls draws values) :
    (r.throw draws).1.total
      = ((Selector.counting (r.throw draws).1.shown).map fun i => values.getD i 0).sum :=
  congrArg List.sum h.map_total_active

/-- What counts behind the throw is a stretch of the values in order. -/
theorem holds (h : r.Falls draws values) (hthrow : r.IsThrowable) (hquantity : 1 ≤ r.quantity) :
    (Window.after r.quantity r.selectors).Holds values.mergeSort values
      (Selector.counting (r.throw draws).1.shown) := by
  have hsurvive := h.survive hthrow.distribution
  have hlen := h.length_eq
  have hsorted : values.mergeSort.Pairwise (· ≤ ·) := List.pairwise_mergeSort' (· ≤ ·) values
  rw [← hlen] at hsurvive hquantity ⊢
  exact hsurvive.window hthrow.selectors hsorted (Window.holds_range hquantity)

/-- The total is the sum of a stretch of the values in order. -/
theorem total_eq_sum_cut (h : r.Falls draws values) (hthrow : r.IsThrowable)
    (hquantity : 1 ≤ r.quantity) :
    (r.throw draws).1.total
      = ((Window.after r.quantity r.selectors).cut values.mergeSort).sum := by
  rw [h.total_eq]
  exact (h.holds hthrow hquantity).perm.sum_eq

end Falls

/-- How many dice count behind a throw is known before it. -/
theorem length_active_throw (hthrow : r.IsThrowable) (hquantity : 1 ≤ r.quantity)
    (draws : Draws) :
    (r.throw draws).1.active.length = (Window.after r.quantity r.selectors).size := by
  -- How many dice count can be asked of any values that fell.
  rcases exists_values hthrow.distribution draws with ⟨values, h, -⟩
  have hactive := congrArg List.length h.map_total_active
  rw [List.length_map, List.length_map, (h.holds hthrow hquantity).length_eq] at hactive
  exact hactive

end Roll

end DiceRoller
