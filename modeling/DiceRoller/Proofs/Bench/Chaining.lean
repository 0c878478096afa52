import DiceRoller.Proofs.Bench.Ranking
import DiceRoller.Proofs.Dice.Chains

/-!
# Selectors one after the other, on dice put together by hand

What holds of selectors in a row holds of any dice that lie on the shelf and were thrown.
They may be of several makes and carry any marks, for a selector changes what the dice show,
by the rule, and leaves everything else on the shelf as it was. The shelf behind some
selectors is known from what the dice show there, so two rows of selectors that leave the
same of what is shown leave the same shelf.

## Main definitions

* `Shelf.selectEach`: Selectors applied one after the other.

## Theorems

* `Shelf.selectEach_cons`: The first selector goes first.
* `Shelf.eq_of_cell?`: A shelf is known from what lies at each place.
* `Shelf.HoldsThrown.map_snd`: What thrown dice show is what is given.
* `Shelf.HoldsThrown.cell?`: Position by position, the die at a place shows what is given
  for it.
* `Shelf.HoldsThrown.length_places`: There are as many places as things shown.
* `Shelf.HoldsThrown.eq`: The shelf is known from what the dice show and from what lies
  elsewhere.
* `Shelf.exists_select_narrow`: A selector changes what dice on the shelf show as it
  changes any dice.
* `Shelf.exists_selectEach`: What the dice show behind some selectors.
* `Shelf.selectEach_eq`: When two rows of selectors do the same.
* `Shelf.one_le_of_mem_pair`: Two selectors that each select something.
* `Shelf.select_algebra`: Keeping twice, dropping twice, and dropping at both ends.
* `Shelf.select_algebra_ties`: One die is dropped from below and two from above, in either
  order.
-/

namespace DiceRoller

namespace Shelf

open Bench Selector

/-- Applies selectors to the dice at some places, one after the other. -/
def selectEach (shelf : Shelf) (ss : List Selector) (places : List Place) :
    Except Bench.Fault Shelf :=
  ss.foldlM (fun shelf s => shelf.select (.ofSelector s) places) shelf

/-- The first selector goes first. -/
theorem selectEach_cons (shelf : Shelf) (s : Selector) (ss : List Selector)
    (places : List Place) :
    shelf.selectEach (s :: ss) places
      = (shelf.select (.ofSelector s) places).bind fun shelf => shelf.selectEach ss places :=
  List.foldlM_cons

/-- A shelf is known from what lies at each place. -/
theorem eq_of_cell? {shelf shelf' : Shelf} (h : ∀ q, shelf.cell? q = shelf'.cell? q) :
    shelf = shelf' := by
  rcases shelf with ⟨cells⟩
  rcases shelf' with ⟨cells'⟩
  exact congrArg Shelf.mk (Array.ext_getElem? h)

/-- At the places lie dice of some makes, no two at one place, all of them thrown. -/
structure HoldsThrown (shelf : Shelf) (places : List Place) (makes : List LooseDie)
    (shown : List Showing) : Prop where
  nodup : places.Nodup
  length_eq : makes.length = shown.length
  dice : List.Forall₂ shelf.HoldsLooseDie places (makes.zip shown)
  rolled : ∀ d ∈ shown, d.value.isSome

variable {shelf shelf' : Shelf} {places : List Place} {makes : List LooseDie}
  {shown shown' : List Showing}

theorem HoldsThrown.map_snd (h : shelf.HoldsThrown places makes shown) :
    (makes.zip shown).map Prod.snd = shown := List.map_snd_zip (Nat.le_of_eq h.length_eq.symm)

-- Position by position, the die at a place shows what is given for it.
theorem HoldsThrown.cell? (h : shelf.HoldsThrown places makes shown) {i : Nat}
    (hi : i < places.length) (hm : i < makes.length) (hs : i < shown.length) :
    shelf.cell? places[i] = some (.die (makes[i].showing shown[i])) := by
  have hzip : i < (makes.zip shown).length := by
    rw [List.length_zip]
    omega
  have hget := (List.forall₂_iff_get.mp h.dice).2 i hi hzip
  simp only [HoldsLooseDie, List.get_eq_getElem, List.getElem_zip] at hget
  exact hget

/-- There are as many places as things shown. -/
theorem HoldsThrown.length_places (h : shelf.HoldsThrown places makes shown) :
    places.length = shown.length := by
  have hlen := h.dice.length_eq
  rw [List.length_zip, h.length_eq, Nat.min_self] at hlen
  exact hlen

/-- The shelf is known from what the dice show and from what lies elsewhere. -/
theorem HoldsThrown.eq (h : shelf.HoldsThrown places makes shown)
    (h' : shelf'.HoldsThrown places makes shown)
    (hrest : ∀ q, q ∉ places → shelf.cell? q = shelf'.cell? q) : shelf = shelf' := by
  refine eq_of_cell? fun q => ?_
  by_cases hq : q ∈ places
  · rcases List.getElem_of_mem hq with ⟨i, hi, rfl⟩
    have hs : i < shown.length := h.length_places ▸ hi
    have hm : i < makes.length := h.length_eq.symm ▸ hs
    rw [h.cell? hi hm hs, h'.cell? hi hm hs]
  · exact hrest q hq

/-- A selector changes what dice on the shelf show as it changes any dice. -/
theorem exists_select_narrow {s : Selector} (hone : 1 ≤ s.num)
    (h : shelf.HoldsThrown places makes shown) :
    ∃ shelf', shelf.select (.ofSelector s) places = .ok shelf' ∧
      shelf'.HoldsThrown places makes (s.narrow shown) ∧
      ∀ q, q ∉ places → shelf'.cell? q = shelf.cell? q := by
  have hselect := select_of_holdsLoose hone h.dice
  rw [h.map_snd] at hselect
  -- Thrown dice can be lined up, so some of them are struck out.
  rcases Option.map_eq_some_iff.mp (s.narrowed?_of_rolled h.rolled) with
    ⟨positions, hpositions, hnarrow⟩
  rw [hpositions, Option.elim_some] at hselect
  have hheld : ∀ p ∈ places, ∃ x, shelf.HoldsLooseDie p x := by
    intro p hp
    rcases List.getElem_of_mem hp with ⟨i, hi, rfl⟩
    have hs : i < shown.length := h.length_places ▸ hi
    have hm : i < makes.length := h.length_eq.symm ▸ hs
    exact ⟨(makes[i], shown[i]), h.cell? hi hm hs⟩
  rcases exists_strikeOut hheld positions with ⟨shelf', hstrike, hcell⟩
  have hlen : (s.narrow shown).length = shown.length := by
    rw [← hnarrow, length_strikeOut]
  refine ⟨shelf', hselect.trans hstrike, ?_, fun q hq => ?_⟩
  · refine ⟨h.nodup, h.length_eq.trans hlen.symm, ?_, s.isSome_narrow h.rolled⟩
    refine List.forall₂_iff_get.mpr ⟨?_, fun i hi hi' => ?_⟩
    · rw [List.length_zip, h.length_eq, hlen, Nat.min_self, h.length_places]
    · have hs : i < shown.length := h.length_places ▸ hi
      have hm : i < makes.length := h.length_eq.symm ▸ hs
      -- Struck out are the positions, here among what is shown and there among the places.
      have hafter := getElem?_strikeOut positions shown i
      rw [hnarrow, List.getElem?_eq_getElem (hlen.symm ▸ hs), List.getElem?_eq_getElem hs,
        Option.map_some, Option.some.injEq] at hafter
      have hmem := mem_filterMap_places_iff h.nodup (List.getElem?_eq_getElem hi) positions
      simp only [HoldsLooseDie, List.get_eq_getElem, List.getElem_zip]
      rw [hcell, h.cell? hi hm hs, hafter]
      by_cases hstruck : i ∈ positions
      · rw [if_pos (hmem.mpr hstruck), if_pos (List.contains_iff_mem.mpr hstruck)]
        rfl
      · rw [if_neg fun hp => hstruck (hmem.mp hp),
          if_neg fun hp => hstruck (List.contains_iff_mem.mp hp)]
  · rw [hcell, if_neg]
    -- Only places of the dice are struck out.
    intro hmem
    rcases List.mem_filterMap.mp hmem with ⟨k, -, hk⟩
    exact hq (List.mem_of_getElem? hk)

/-- Selectors in a row change what dice on the shelf show as they change any dice. -/
theorem exists_selectEach {ss : List Selector} (hone : ∀ s ∈ ss, 1 ≤ s.num)
    (h : shelf.HoldsThrown places makes shown) :
    ∃ shelf', shelf.selectEach ss places = .ok shelf' ∧
      shelf'.HoldsThrown places makes (Roll.narrow ss shown) ∧
      ∀ q, q ∉ places → shelf'.cell? q = shelf.cell? q := by
  induction ss generalizing shelf shown with
  | nil => exact ⟨shelf, rfl, h, fun _ _ => rfl⟩
  | cons s ss ih =>
      rcases exists_select_narrow (hone s List.mem_cons_self) h with ⟨mid, hselect, hmid, hrest⟩
      rcases ih (fun t ht => hone t (List.mem_cons_of_mem s ht)) hmid with
        ⟨shelf', hrun, hholds, hrest'⟩
      -- The rest of the selectors meet dice of the same makes.
      refine ⟨shelf', ?_, hholds, fun q hq => (hrest' q hq).trans (hrest q hq)⟩
      rw [selectEach_cons, hselect]
      exact hrun

/-- Two rows of selectors that do the same to what is shown do the same to the shelf. -/
theorem selectEach_eq {ss ss' : List Selector} (hone : ∀ s ∈ ss, 1 ≤ s.num)
    (hone' : ∀ s ∈ ss', 1 ≤ s.num) (h : shelf.HoldsThrown places makes shown)
    (hnarrow : Roll.narrow ss shown = Roll.narrow ss' shown) :
    ∃ shelf', shelf.selectEach ss places = .ok shelf' ∧
      shelf.selectEach ss' places = .ok shelf' := by
  rcases exists_selectEach hone h with ⟨shelf', hrun, hholds, hrest⟩
  rcases exists_selectEach hone' h with ⟨shelf'', hrun', hholds', hrest'⟩
  rw [← hnarrow] at hholds'
  have hsame : shelf' = shelf'' :=
    hholds.eq hholds' fun q hq => (hrest q hq).trans (hrest' q hq).symm
  exact ⟨shelf', hrun, hsame ▸ hrun'⟩

/-- Two selectors that each select something. -/
theorem one_le_of_mem_pair {s t : Selector} (hs : 1 ≤ s.num) (ht : 1 ≤ t.num) :
    ∀ u ∈ [s, t], 1 ≤ u.num := by
  intro u hu
  rcases List.mem_pair.mp hu with rfl | rfl
  · exact hs
  · exact ht

/-- Two selectors in a row, on thrown dice at some places. Keeping twice from one end is
    keeping the fewer. If together they ask for fewer dice than count, dropping twice from
    one end is dropping as many at once, and dropping from both ends can be done in either
    order. Nothing fails, and the whole shelf is the same, with the marks of every die. -/
theorem select_algebra (h : shelf.HoldsThrown places makes shown) {a b : Nat} (ha : 1 ≤ a)
    (hb : 1 ≤ b) :
    (∀ high, ∃ shelf', shelf.selectEach [⟨true, high, a⟩, ⟨true, high, b⟩] places = .ok shelf' ∧
      shelf.selectEach [⟨true, high, min a b⟩] places = .ok shelf') ∧
    (a + b < (counting shown).length →
      (∀ high, ∃ shelf',
        shelf.selectEach [⟨false, high, a⟩, ⟨false, high, b⟩] places = .ok shelf' ∧
        shelf.selectEach [⟨false, high, a + b⟩] places = .ok shelf') ∧
      ∃ shelf', shelf.selectEach [⟨false, false, a⟩, ⟨false, true, b⟩] places = .ok shelf' ∧
        shelf.selectEach [⟨false, true, b⟩, ⟨false, false, a⟩] places = .ok shelf') := by
  refine ⟨fun high => ?_, fun hlt => ⟨fun high => ?_, ?_⟩⟩
  · refine selectEach_eq (one_le_of_mem_pair ha hb) (List.forall_mem_singleton.mpr ?_) h
      (Roll.narrow_keep_keep h.rolled)
    exact Nat.le_min.mpr ⟨ha, hb⟩
  · refine selectEach_eq (one_le_of_mem_pair ha hb) (List.forall_mem_singleton.mpr ?_) h
      (Roll.narrow_drop_drop h.rolled hlt)
    exact Nat.le_trans ha (Nat.le_add_right a b)
  · exact selectEach_eq (one_le_of_mem_pair ha hb) (one_le_of_mem_pair hb ha) h
      (Roll.narrow_drop_comm h.rolled hlt)

/-- Five ordinary dice. Four of them count, and three of these show the same value. -/
def withTies : Shelf :=
  ⟨#[.die ((LooseDie.ofKind (.plain 6)).showing ⟨some 3, 1⟩),
    .die ((LooseDie.ofKind (.plain 6)).showing ⟨some 3, 1⟩),
    .die ((LooseDie.ofKind (.plain 6)).showing ⟨some 5, 2⟩),
    .die ((LooseDie.ofKind (.plain 6)).showing ⟨some 3, 1⟩),
    .die ((LooseDie.ofKind (.plain 6)).showing ⟨some 6, 1⟩)]⟩

-- One die is dropped from below and two from above, in either order. Both times the last of
-- the three equal dice is left, though the first of the others falls to another selector.
theorem select_algebra_ties :
    withTies.HoldsThrown [0, 1, 2, 3, 4] (List.replicate 5 (.ofKind (.plain 6)))
      [⟨some 3, 1⟩, ⟨some 3, 1⟩, ⟨some 5, 2⟩, ⟨some 3, 1⟩, ⟨some 6, 1⟩] ∧ 1 ≤ 1 ∧ 1 ≤ 2 ∧
    1 + 2 < (counting
      [⟨some 3, 1⟩, ⟨some 3, 1⟩, ⟨some 5, 2⟩, ⟨some 3, 1⟩, ⟨some 6, 1⟩]).length ∧
    ∃ shelf',
      withTies.selectEach [⟨false, false, 1⟩, ⟨false, true, 2⟩] [0, 1, 2, 3, 4] = .ok shelf' ∧
      withTies.selectEach [⟨false, true, 2⟩, ⟨false, false, 1⟩] [0, 1, 2, 3, 4] = .ok shelf' := by
  have hdice : withTies.HoldsThrown [0, 1, 2, 3, 4] (List.replicate 5 (.ofKind (.plain 6)))
      [⟨some 3, 1⟩, ⟨some 3, 1⟩, ⟨some 5, 2⟩, ⟨some 3, 1⟩, ⟨some 6, 1⟩] :=
    ⟨by decide, rfl, .cons rfl (.cons rfl (.cons rfl (.cons rfl (.cons rfl .nil)))), by decide⟩
  have hlt : 1 + 2 < (counting
      [⟨some 3, 1⟩, ⟨some 3, 1⟩, ⟨some 5, 2⟩, ⟨some 3, 1⟩, ⟨some 6, 1⟩]).length := by decide
  have hends := ((select_algebra hdice (Nat.le_refl 1) (by decide : 1 ≤ 2)).2 hlt).2
  exact ⟨hdice, Nat.le_refl 1, by decide, hlt, hends⟩

end Shelf

end DiceRoller
