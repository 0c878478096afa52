import DiceRoller.Bench.Step
import DiceRoller.Proofs.Bench.Selecting
import DiceRoller.Proofs.Dice.Ranks

/-!
# Selectors on dice put together by hand

A selector may be applied to any dice that lie on the shelf, of one make or of several,
with any marks on them. All that it looks at is which of them count and what these show,
and all that it changes is the marks of the dice that fall out, so what it does is what
their ranks say.

It is all or nothing. A selector that cannot rank the dice fails before the first of
them is struck out, and the step at the bench leaves everything as it was.

## Main definitions

* `Cell.struckOut`: A die struck out.

## Theorems

* `Shelf.exists_strikeOut`: Striking out dice at some positions.
* `Shelf.mem_filterMap_places_iff`: No die lies at two of the places, so a place stands
  for its position.
* `Shelf.select_of_holdsLoose`: A selector on the shelf strikes out what it strikes out of
  what is shown, or fails at once.
* `Shelf.exists_select_by_rank`: Which dice a selector strikes out.
* `Bench.take_select`: The step that applies a selector, by rank.
* `Bench.take_select_equal_dice`: Of the two the later one is struck out.
-/

namespace DiceRoller

/-- The node with a die in it struck out. -/
def Cell.struckOut : Cell → Cell
  | .die d => .die { d with marks := .int 2 }
  | c => c

namespace Shelf

open Bench Selector

/-- Striking out changes the dice at the positions, and nothing else on the shelf. -/
theorem exists_strikeOut {shelf : Shelf} {places : List Place}
    (h : ∀ p ∈ places, ∃ x, shelf.HoldsLooseDie p x) (positions : List Nat) :
    ∃ shelf', shelf.strikeOut places positions = .ok shelf' ∧
      ∀ q, shelf'.cell? q = if q ∈ positions.filterMap (places[·]?)
        then (shelf.cell? q).map Cell.struckOut else shelf.cell? q := by
  induction positions generalizing shelf with
  | nil => exact ⟨shelf, rfl, fun q => (if_neg List.not_mem_nil).symm⟩
  | cons k positions ih =>
      simp only [strikeOut, List.foldlM_cons, List.getElem?_toArray, bind, Except.bind] at ih ⊢
      rcases hk : places[k]? with _ | p
      · -- No die is at the position, so none is struck out there.
        rw [List.filterMap_cons_none hk]
        exact ih h
      rcases h p (List.mem_of_getElem? hk) with ⟨x, hx⟩
      have hset : ∀ q, (shelf.set p (.die (x.1.showing x.2.drop))).cell? q
          = if p = q then (shelf.cell? q).map Cell.struckOut else shelf.cell? q := by
        intro q
        rw [cell?_set hx]
        split
        · rename_i hq
          rw [← hq, hx]
          rfl
        · rfl
      have h' : ∀ q ∈ places, ∃ y,
          (shelf.set p (.die (x.1.showing x.2.drop))).HoldsLooseDie q y := by
        intro q hq
        rcases h q hq with ⟨y, hy⟩
        rw [HoldsLooseDie] at hy
        by_cases hpq : p = q
        · refine ⟨(y.1, y.2.drop), ?_⟩
          rw [HoldsLooseDie, hset, if_pos hpq, hy]
          rfl
        · refine ⟨y, ?_⟩
          rw [HoldsLooseDie, hset, if_neg hpq, hy]
      rcases ih h' with ⟨shelf', hstrike, hcell⟩
      have hdie : shelf.die? p = some (x.1.showing x.2) := by
        rw [die?, show shelf.cell? p = _ from hx]
      refine ⟨shelf', ?_, fun q => ?_⟩
      · simp only [hdie, LooseDie.drop_showing, pure, Except.pure]
        exact hstrike
      · rw [hcell, hset, List.filterMap_cons_some hk]
        by_cases hpq : p = q
        · -- Struck out once more, the die stays as it is.
          rw [if_pos hpq, hpq, if_pos List.mem_cons_self, Option.map_map]
          split
          · congr 1
            funext c
            cases c <;> rfl
          · rfl
        · simp only [if_neg hpq, List.mem_cons, Ne.symm hpq, false_or]

-- No die lies at two of the places, so a place stands for its position.
theorem mem_filterMap_places_iff {places : List Place} (hnodup : places.Nodup) {i : Nat}
    {p : Place} (hp : places[i]? = some p) (positions : List Nat) :
    p ∈ positions.filterMap (places[·]?) ↔ i ∈ positions := by
  have hi : i < places.length := (List.getElem?_eq_some_iff.mp hp).1
  rw [List.mem_filterMap]
  constructor
  · rintro ⟨k, hk, hpk⟩
    rw [(List.getElem?_inj hi hnodup).mp (hp.trans hpk.symm)]
    exact hk
  · exact fun hi => ⟨i, hi, hp⟩

/-- A selector on the shelf strikes out what it strikes out of what is shown, or fails at once.
    -/
theorem select_of_holdsLoose {shelf : Shelf} {places : List Place} {s : Selector}
    {dice : List (LooseDie × Showing)} (hone : 1 ≤ s.num)
    (hdice : List.Forall₂ shelf.HoldsLooseDie places dice) :
    shelf.select (.ofSelector s) places
      = (s.dropped? (dice.map Prod.snd)).elim (.error .unfit) (shelf.strikeOut places) := by
  simp only [select, selectable_of_holds hdice, LooseSelector.dropped_showing hone, bind,
    Except.bind]
  cases s.dropped? (dice.map Prod.snd) <;> rfl

/-- A selector that can rank the dice strikes out those that fall out. -/
theorem exists_select_by_rank {shelf : Shelf} {places : List Place} {s : Selector}
    {dice : List (LooseDie × Showing)} (hone : 1 ≤ s.num) (hnodup : places.Nodup)
    (hdice : List.Forall₂ shelf.HoldsLooseDie places dice)
    (hlt : s.num < (counting (dice.map Prod.snd)).length)
    (hrolled : ∀ d ∈ dice.map Prod.snd, d.isKept = true → d.value ≠ none) :
    ∃ shelf', shelf.select (.ofSelector s) places = .ok shelf' ∧
      (∀ (i : Nat) (p : Place) (d : LooseDie) (shown : Showing),
        places[i]? = some p → dice[i]? = some (d, shown) →
          shelf'.cell? p = some (.die (d.showing
            (if s.FallsOut (dice.map Prod.snd) i then ⟨shown.value, 2⟩ else shown)))) ∧
      ∀ q, q ∉ places → shelf'.cell? q = shelf.cell? q := by
  have hselect := select_of_holdsLoose hone hdice
  rcases exists_dropped?_by_rank hlt hrolled with ⟨positions, hpositions, hfalls⟩
  rw [hpositions, Option.elim_some] at hselect
  rcases List.forall₂_iff_get.mp hdice with ⟨hlen, hget⟩
  have hheld : ∀ p ∈ places, ∃ x, shelf.HoldsLooseDie p x := by
    intro p hp
    rcases List.getElem_of_mem hp with ⟨i, hi, rfl⟩
    exact ⟨_, hget i hi (hlen ▸ hi)⟩
  rcases exists_strikeOut hheld positions with ⟨shelf', hstrike, hcell⟩
  rw [hstrike] at hselect
  refine ⟨shelf', hselect, fun i p d shown hp hd => ?_, fun q hq => ?_⟩
  · rcases List.getElem?_eq_some_iff.mp hp with ⟨hi, rfl⟩
    rcases List.getElem?_eq_some_iff.mp hd with ⟨hi', hdie⟩
    have hbefore : shelf.HoldsLooseDie places[i] (d, shown) := hdie ▸ hget i hi hi'
    -- The place of a die stands for its position, since no other die lies there.
    have hmem := (mem_filterMap_places_iff hnodup hp positions).trans (hfalls i)
    rw [hcell, show shelf.cell? places[i] = _ from hbefore]
    by_cases hfall : s.FallsOut (dice.map Prod.snd) i
    · rw [if_pos (hmem.mpr hfall), if_pos hfall]
      rfl
    · rw [if_neg fun h => hfall (hmem.mp h), if_neg hfall]
  · have hnot : q ∉ positions.filterMap (places[·]?) := by
      intro hmem
      rcases List.mem_filterMap.mp hmem with ⟨k, -, hk⟩
      exact hq (List.mem_of_getElem? hk)
    rw [hcell, if_neg hnot]

end Shelf

open Bench Selector

/-- A selector applied at the bench to dice of any make. If it asks for as many dice as
    count, or more, nothing changes. Otherwise it fails if one of these was never thrown,
    and leaves all as it was; and if all were thrown, it strikes out those that fall out
    by their rank, and changes nothing else. -/
theorem Bench.take_select (b : Bench) (node : Text) (names : List Text) (place : Place)
    (places : List Place) (s : Selector) (dice : List (LooseDie × Showing)) (hone : 1 ≤ s.num)
    (hnode : b.find node = .ok place) (hs : b.shelf.HoldsSelector place s)
    (hnames : names.mapM b.find = .ok places) (hnodup : places.Nodup)
    (hdice : List.Forall₂ b.shelf.HoldsLooseDie places dice) :
    ((counting (dice.map Prod.snd)).length ≤ s.num →
      b.shelf.select (.ofSelector s) places = .ok b.shelf ∧ (b.take (.select node names)).1 = b) ∧
    (s.num < (counting (dice.map Prod.snd)).length →
      ((∃ d ∈ dice.map Prod.snd, d.isKept = true ∧ d.value = none) →
        b.take (.select node names) = (b, .error .unfit)) ∧
      ((∀ d ∈ dice.map Prod.snd, d.isKept = true → d.value ≠ none) →
        ∃ shelf', b.shelf.select (.ofSelector s) places = .ok shelf' ∧
          (b.take (.select node names)).1 = { b with shelf := shelf' } ∧
          (∀ (i : Nat) (p : Place) (d : LooseDie) (shown : Showing),
            places[i]? = some p → dice[i]? = some (d, shown) →
              shelf'.cell? p = some (.die (d.showing
                (if s.FallsOut (dice.map Prod.snd) i then ⟨shown.value, 2⟩ else shown)))) ∧
          ∀ q, q ∉ places → shelf'.cell? q = b.shelf.cell? q)) := by
  have hselect := Shelf.select_of_holdsLoose hone hdice
  -- The step succeeds on the shelf where the selector does, whatever it answers.
  have hok : ∀ shelf', b.shelf.select (.ofSelector s) places = .ok shelf' →
      (b.take (.select node names)).1 = { b with shelf := shelf' } := by
    intro shelf' h
    simp only [take, takeFound, hnames, hnode, show b.shelf.cell? place = _ from hs, h, bind,
      Except.bind, pure, Except.pure]
  refine ⟨fun hle => ?_, fun hlt => ⟨fun hnone => ?_, fun hrolled => ?_⟩⟩
  · rw [dropped?_of_le hle] at hselect
    exact ⟨hselect, hok b.shelf hselect⟩
  · -- A die that was never thrown cannot be ranked, and the step keeps the old shelf.
    rw [dropped?_eq_none hlt hnone, Option.elim_none] at hselect
    simp only [take, takeFound, hnames, hnode, show b.shelf.cell? place = _ from hs, hselect, bind,
      Except.bind]
  · rcases Shelf.exists_select_by_rank hone hnodup hdice hlt hrolled with
      ⟨shelf', hshelf, hcells, hrest⟩
    exact ⟨shelf', hshelf, hok shelf' hshelf, hcells, hrest⟩

/-- A selector that keeps the lowest die, two ordinary dice with the same value, and one
    between them that was struck out. -/
def Bench.withEqualDice : Bench where
  shelf := ⟨#[.selector (.ofSelector ⟨true, false, 1⟩),
    .die ((LooseDie.ofKind (.plain 6)).showing ⟨some 3, 1⟩),
    .die ((LooseDie.ofKind (.plain 6)).showing ⟨some 1, 2⟩),
    .die ((LooseDie.ofKind (.plain 6)).showing ⟨some 3, 1⟩)]⟩
  names := [(['s'], 0), (['a'], 1), (['b'], 2), (['c'], 3)]
  draws := .ofCycle #[]

-- Of the two the later one is struck out.
theorem Bench.take_select_equal_dice :
    withEqualDice.find ['s'] = .ok 0 ∧
    withEqualDice.shelf.HoldsSelector 0 ⟨true, false, 1⟩ ∧
    [['a'], ['b'], ['c']].mapM withEqualDice.find = .ok [1, 2, 3] ∧ [1, 2, 3].Nodup ∧
    List.Forall₂ withEqualDice.shelf.HoldsLooseDie [1, 2, 3]
      [(.ofKind (.plain 6), ⟨some 3, 1⟩), (.ofKind (.plain 6), ⟨some 1, 2⟩),
        (.ofKind (.plain 6), ⟨some 3, 1⟩)] ∧
    ∃ shelf', (withEqualDice.take (.select ['s'] [['a'], ['b'], ['c']])).1
        = { withEqualDice with shelf := shelf' } ∧
      shelf'.cell? 1 = some (.die ((LooseDie.ofKind (.plain 6)).showing ⟨some 3, 1⟩)) ∧
      shelf'.cell? 3 = some (.die ((LooseDie.ofKind (.plain 6)).showing ⟨some 3, 2⟩)) := by
  have hdice : List.Forall₂ withEqualDice.shelf.HoldsLooseDie [1, 2, 3]
      [(.ofKind (.plain 6), ⟨some 3, 1⟩), (.ofKind (.plain 6), ⟨some 1, 2⟩),
        (.ofKind (.plain 6), ⟨some 3, 1⟩)] := .cons rfl (.cons rfl (.cons rfl .nil))
  have hrolled : ∀ d ∈ [(⟨some 3, 1⟩ : Showing), ⟨some 1, 2⟩, ⟨some 3, 1⟩],
      d.isKept = true → d.value ≠ none := by decide
  rcases (take_select withEqualDice ['s'] [['a'], ['b'], ['c']] 0 [1, 2, 3] ⟨true, false, 1⟩ _
    (Nat.le_refl 1) rfl rfl rfl (by decide) hdice).2 (by decide) with ⟨-, hselect⟩
  rcases hselect hrolled with ⟨shelf', -, htake, hcells, -⟩
  exact ⟨rfl, rfl, rfl, by decide, hdice, shelf', htake, hcells 0 1 _ _ rfl rfl,
    hcells 2 3 _ _ rfl rfl⟩

end DiceRoller
