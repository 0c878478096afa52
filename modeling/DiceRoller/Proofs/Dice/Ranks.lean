import DiceRoller.Proofs.Dice.Survivors

/-!
# Which dice fall out, by rank

What a selector strikes out, said for each die alone. The rank of a die is the number of
dice that count and precede it, and it can be found by comparing the die with the others,
without a line-up of all of them. A selector that keeps strikes out the dice whose rank
is not below its number, a selector that drops those whose rank is.

A line-up is only a way to find the ranks. Those who stand before a die in it are the
ones that precede it, so its rank is its place, and the dice before a cut are those whose
rank is below the cut.

Dice that do not count have no part in this, whatever they show. They may be unthrown,
but a die that counts and would have to be ranked may not.

## Main definitions

* `Selector.rank`: How many dice that count precede one.
* `Selector.FallsOut`: Whether the die at a position is struck out.

## Theorems

* `Precedes.irrefl`: No position precedes itself.
* `IsLineUp.mem_take_iff`: Places in a line-up are ranks.
* `Selector.exists_mem_candidates_iff`: The dice that count are the candidates of a
  selector.
* `Selector.values?_eq_none`: Dice of which one has no value have no values to be ranked
  by.
* `Selector.dropped?_eq_none`: A selector cannot rank unthrown dice.
* `Selector.exists_dropped?_by_rank`: What a selector drops, by rank.
-/

namespace DiceRoller

instance (high : Bool) (values : List Int) (i j : Nat) : Decidable (Precedes high values i j) :=
  inferInstanceAs (Decidable (_ ∨ _))

theorem Precedes.irrefl {high : Bool} {values : List Int} {i : Nat} :
    ¬ Precedes high values i i := fun h => h.asymm h

/-- In a line-up the positions in front of a cut are those that fewer positions precede
    than stand there. -/
theorem IsLineUp.mem_take_iff {high : Bool} {values : List Int} {counting line : List Nat}
    (h : IsLineUp high values counting line) {i : Nat} (hi : i ∈ counting) (n : Nat) :
    i ∈ line.take n ↔ counting.countP (fun j => Precedes high values j i) < n := by
  rw [← h.perm.countP_eq]
  rcases List.append_of_mem (h.perm.mem_iff.mpr hi) with ⟨front, back, rfl⟩
  rcases List.pairwise_append.mp h.sorted with ⟨-, hback, hfront⟩
  -- Those that precede a position stand in front of it, and no others do.
  have hbefore : ∀ j ∈ front, Precedes high values j i := fun j hj =>
    hfront j hj i List.mem_cons_self
  have hbehind : ∀ j ∈ i :: back, ¬ Precedes high values j i := by
    intro j hj
    rcases List.mem_cons.mp hj with rfl | hj
    · exact Precedes.irrefl
    · exact (List.rel_of_pairwise_cons hback hj).asymm
  have hrank : (front ++ i :: back).countP (fun j => decide (Precedes high values j i))
      = front.length := by
    rw [List.countP_append, List.countP_eq_length.mpr, List.countP_eq_zero.mpr, Nat.add_zero]
    · exact fun j hj => by rw [decide_eq_true_eq]; exact hbehind j hj
    · exact fun j hj => decide_eq_true (hbefore j hj)
  rw [hrank, List.take_append, List.mem_append]
  -- The rank is the place, so the position stands before the cut if its place does.
  constructor
  · rintro (hmem | hmem)
    · exact absurd (hbefore i (List.mem_of_mem_take hmem)) Precedes.irrefl
    · by_contra hge
      rw [Nat.sub_eq_zero_of_le (Nat.le_of_not_lt hge), List.take_zero] at hmem
      exact absurd hmem List.not_mem_nil
  · intro hlt
    obtain ⟨k, hk⟩ : ∃ k, n - front.length = k + 1 := ⟨n - front.length - 1, by omega⟩
    rw [hk, List.take_succ_cons]
    exact .inr List.mem_cons_self

namespace Selector

/-- How many of the dice that count precede the one at a position: they show a better
    value, or the same value and stand earlier. -/
def rank (s : Selector) (dice : List Showing) (i : Nat) : Nat :=
  (counting dice).countP fun j => Precedes s.high (dice.map Showing.total) j i

/-- The die at a position counts, and its rank is not among those that are kept. -/
def FallsOut (s : Selector) (dice : List Showing) (i : Nat) : Prop :=
  i ∈ counting dice ∧ if s.keep then s.num ≤ s.rank dice i else s.rank dice i < s.num

instance (s : Selector) (dice : List Showing) (i : Nat) : Decidable (s.FallsOut dice i) :=
  inferInstanceAs (Decidable (_ ∧ _))

/-- The dice that count are the candidates of a selector. -/
theorem exists_mem_candidates_iff {dice : List Showing} {d : Showing} :
    (∃ i, (d, i) ∈ candidates dice) ↔ d ∈ dice ∧ d.isKept = true := by
  constructor
  · rintro ⟨i, hi⟩
    rcases List.mem_filter.mp hi with ⟨hmem, hkept⟩
    exact ⟨List.mem_of_getElem? (List.mem_zipIdx_iff_getElem?.mp hmem), hkept⟩
  · rintro ⟨hmem, hkept⟩
    rcases List.mem_iff_getElem?.mp hmem with ⟨i, hi⟩
    exact ⟨i, List.mem_filter.mpr ⟨List.mem_zipIdx_iff_getElem?.mpr hi, hkept⟩⟩

/-- Dice of which one has no value have no values to be ranked by. -/
theorem values?_eq_none {active : List (Showing × Nat)} (h : ∃ p ∈ active, p.1.value = none) :
    values? active = none := by
  rcases h with ⟨p, hmem, hp⟩
  induction active with
  | nil => exact absurd hmem List.not_mem_nil
  | cons q active ih =>
      rw [values?] at ih ⊢
      rw [List.mapM_cons]
      -- Looking for values ends at the first die without one.
      rcases List.mem_cons.mp hmem with rfl | hmem
      · rw [hp]
        rfl
      · rw [ih hmem]
        cases q.1.value <;> rfl

/-- A selector that would have to rank an unthrown die drops none. -/
theorem dropped?_eq_none {s : Selector} {dice : List Showing} (hlt : s.num < (counting dice).length)
    (h : ∃ d ∈ dice, d.isKept = true ∧ d.value = none) : s.dropped? dice = none := by
  rcases h with ⟨d, hmem, hkept, hd⟩
  rcases exists_mem_candidates_iff.mpr ⟨hmem, hkept⟩ with ⟨i, hi⟩
  have hlen := length_candidates dice
  simp only [dropped?, if_neg (by omega : ¬ (candidates dice).length ≤ s.num),
    values?_eq_none ⟨_, hi, hd⟩, Option.map_none]

/-- A selector that asks for fewer dice than count drops dice by their rank. -/
theorem exists_dropped?_by_rank {s : Selector} {dice : List Showing}
    (hlt : s.num < (counting dice).length)
    (h : ∀ d ∈ dice, d.isKept = true → d.value ≠ none) :
    ∃ positions, s.dropped? dice = some positions ∧ ∀ i, i ∈ positions ↔ s.FallsOut dice i := by
  have hrolled : ∀ p ∈ candidates dice, p.1.value.isSome := by
    intro p hp
    rcases exists_mem_candidates_iff.mp ⟨p.2, hp⟩ with ⟨hmem, hkept⟩
    exact Option.isSome_iff_ne_none.mpr (h p.1 hmem hkept)
  rcases exists_dropped?_of_rolled hrolled hlt with ⟨line, hline, hdropped⟩
  refine ⟨_, hdropped, fun i => ?_⟩
  rw [FallsOut]
  -- A selector that drops strikes out what stands before the cut, one that keeps the rest.
  cases s.keep
  · rw [if_neg Bool.false_ne_true, if_neg Bool.false_ne_true]
    constructor
    · intro hi
      have hmem := hline.perm.mem_iff.mp (List.mem_of_mem_take hi)
      exact ⟨hmem, (hline.mem_take_iff hmem _).mp hi⟩
    · exact fun ⟨hmem, hi⟩ => (hline.mem_take_iff hmem _).mpr hi
  · rw [if_pos rfl, if_pos rfl]
    -- Behind the cut stands what does not stand before it.
    have hbehind : ∀ i ∈ counting dice, i ∈ line.drop s.num ↔ s.num ≤ s.rank dice i := by
      intro i hi
      rw [hline.mem_drop_iff (nodup_counting dice) hi, hline.mem_take_iff hi, Nat.not_lt, rank]
    constructor
    · intro hi
      have hmem := hline.perm.mem_iff.mp (List.mem_of_mem_drop hi)
      exact ⟨hmem, (hbehind i hmem).mp hi⟩
    · exact fun ⟨hmem, hi⟩ => (hbehind i hmem).mpr hi

end Selector

end DiceRoller
