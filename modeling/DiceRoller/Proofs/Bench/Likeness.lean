import DiceRoller.Proofs.Bench.Filing
import DiceRoller.Proofs.Bench.Making
import Mathlib.Tactic.IntervalCases

/-!
# Equality and keys

A collection finds equal nodes by their keys, so equal nodes must not be filed under
different keys. Equality and keys are defined node by node, each in its own way, and
they go together for every kind of node but one. Rolls are equal when their first dice
have the same faces and values, while their key is what is written for them. A roll of
dice that only pass for Fate dice equals a roll of Fate dice, and a collection keeps
both.

Of two equal nodes of a built shelf that do not differ in this way anywhere below them
either both have a key and the keys are the same, or a number below each of them has too
many digits and neither has one. The proof goes along the comparison. Where it finds a
node compared with itself, it needs that the node is filed like itself, which is a matter
of levels: a comparison that comes to an end does not say that the way down is short
enough for a key.

## Main definitions

* `Cell.OneKind`: Two nodes of the same kind.
* `Shelf.IsLong`: Comparisons on the way down that need some levels.
* `Shelf.IsApart`: Two nodes that are not equal.
* `Shelf.IsCollection`: Nodes under their keys, no two of them equal.

## Theorems

* `Shelf.oneKind_or`: Nodes of different kinds differ.
* `Shelf.forall₂_of_sameEach`, `Shelf.eq_or_of_sameBelow`: What a comparison that came out
  equal has compared.
* `Shelf.head_eq_of_sameDice`: Equal rolls begin with the same text.
* `Shelf.exists_selector_of_sameEach`: Selectors of two rolls that are equal one by one
  are the same selectors.
* `Shelf.filedAlike_of_sameTerms`: Terms that are equal one by one have the same signs,
  and their nodes are filed alike.
* `Shelf.filedAlike_of_sameWithin`: Equal nodes are filed alike.
* `Shelf.sameEach_swap`: Comparing one by one can be done the other way round if each
  comparison can.
* `Shelf.sameDice_comm`: Only the first dice are compared, and those of a built shelf
  either way.
* `Shelf.sameWithin_swap`, `Shelf.exists_sameWithin`, `Shelf.exists_same`: A comparison
  can be made either way and comes to an end.
* `Shelf.exists_sameEach`: Comparing one by one comes to an end if each comparison does.
* `Shelf.exists_cells_of_sameWithin`: What was compared is on the shelf.
* `Shelf.Mixes.exists_falseFate`: Where nodes mix, one of the rolls on the shelf is of
  dice that only pass for Fate dice.
* `Shelf.filedAlike_of_same`: The levels that a shelf allows are enough for the keys of
  equal nodes.
* `Shelf.exists_tellsIf_key`: A node has a key if no number below it is too long, and
  otherwise is refused.
* `Shelf.exists_holds`, `Shelf.exists_collect`, `Shelf.exists_distinct`: What a collection
  finds and keeps.
* `Bench.key_of_same`: Equal nodes have the same key or none, and a collection keeps one.
* `Bench.isMade_withRolls`: The steps that fill such a bench are steps that make one.
* `Bench.key_of_same_fate_dice`: Two rolls of one Fate die each.
* `Bench.exists_same_with_other_key`: The roll for which they do not go together.
-/

namespace DiceRoller

/-- Two nodes of the same kind. -/
inductive Cell.OneKind : Cell → Cell → Prop where
  | die (a b : LooseDie) : OneKind (.die a) (.die b)
  | constant (m n : Int) : OneKind (.constant m) (.constant n)
  | selector (a b : LooseSelector) : OneKind (.selector a) (.selector b)
  | roll (dice others as bs : List Place) : OneKind (.roll dice as) (.roll others bs)
  | expression (as bs : List (Value × Place)) : OneKind (.expression as) (.expression bs)
  | rollSet (as bs : List Place) (spec spec' : Value) :
      OneKind (.rollSet as spec) (.rollSet bs spec')

namespace Shelf

open Bench

section Sameness

variable {shelf : Shelf} {p q : Place} {levels : Nat}

/-- Nodes of different kinds are not equal, whichever comes first. -/
theorem oneKind_or {c c' : Cell} (h : c.IsWhole shelf p) (hc : shelf.cell? p = some c)
    (hc' : shelf.cell? q = some c') : c.OneKind c' ∨ ∀ fuel way,
      shelf.sameWithin (fuel + 1) way p q = .ok false ∧
        shelf.sameWithin (fuel + 1) way q p = .ok false := by
  simp only [sameWithin, hc, hc']
  cases c with
  | die a =>
      cases c' with
      | die b => exact .inl (.die a b)
      | _ => exact .inr fun _ _ => ⟨rfl, rfl⟩
  | constant m =>
      cases c' with
      | constant n => exact .inl (.constant m n)
      | _ => exact .inr fun _ _ => ⟨rfl, rfl⟩
  | selector a =>
      cases c' with
      | selector b => exact .inl (.selector a b)
      | _ => exact .inr fun _ _ => ⟨rfl, rfl⟩
  | roll dice as =>
      cases c' with
      | roll others bs => exact .inl (.roll dice others as bs)
      | _ => exact .inr fun _ _ => ⟨rfl, rfl⟩
  | expression as =>
      cases c' with
      | expression bs => exact .inl (.expression as bs)
      | _ => exact .inr fun _ _ => ⟨rfl, rfl⟩
  | rollSet as spec =>
      cases c' with
      | rollSet bs spec' => exact .inl (.rollSet as bs spec spec')
      | _ => exact .inr fun _ _ => ⟨rfl, rfl⟩
  | group nodes => cases h
  | abstract => cases h

/-- Things that came out equal were compared one by one, each with its partner. -/
theorem forall₂_of_sameEach {α : Type} {same : α → α → Except Bench.Fault Bool} {as bs : List α}
    (h : sameEach same as bs = .ok true) :
    List.Forall₂ (fun a b => (a, b) ∈ as.zip bs ∧ same a b = .ok true) as bs := by
  induction as generalizing bs with
  | nil =>
      cases bs with
      | nil => exact .nil
      | cons b bs => cases h
  | cons a as ih =>
      cases bs with
      | nil => cases h
      | cons b bs =>
          rw [sameEach] at h
          rcases Reader.bind_eq_ok h with ⟨r, hab, h⟩
          cases r with
          | false => cases h
          | true =>
              refine .cons ⟨List.mem_cons_self, hab⟩ ((ih h).imp fun a' b' h' => ?_)
              exact ⟨List.mem_cons_of_mem (a, b) h'.1, h'.2⟩

/-- Parts that came out equal are one part, or were compared. -/
theorem eq_or_of_sameBelow {fuel : Nat} {way : List (Place × Place)}
    (h : shelf.sameBelow fuel way p q = .ok true) :
    p = q ∨ shelf.sameWithin fuel ((p, q) :: way) p q = .ok true := by
  rw [sameBelow] at h
  split at h
  · next heq => exact .inl heq
  · split at h
    · cases h
    · exact .inr h

/-- Both rolls name the same number of dice and the same faces, or both are refused. -/
theorem head_eq_of_sameDice (h : shelf.IsWhole) {dice others as bs : List Place}
    (hp : shelf.cell? p = some (.roll dice as)) (hq : shelf.cell? q = some (.roll others bs))
    (hmix : ¬ shelf.Mixes p q) (hsame : shelf.sameDice dice others = true) :
    shelf.head dice = shelf.head others := by
  rw [sameDice, Bool.and_eq_true, beq_iff_eq] at hsame
  rcases hsame with ⟨hlength, hfirst⟩
  rcases ha : (shelf.diceAt dice).head? with _ | a
  · rw [ha] at hfirst
    cases hfirst
  rcases hb : (shelf.diceAt others).head? with _ | b
  · rw [ha, hb] at hfirst
    cases hfirst
  rw [ha, hb] at hfirst
  have hfaces : a.faceText = b.faceText :=
    LooseDie.faceText_eq_of_same (h.of_mem_diceAt (List.mem_of_head? ha))
      (h.of_mem_diceAt (List.mem_of_head? hb)) (fun hf => hmix (.rolls hp hq ha hb hf)) hfirst
  rw [head, head, ha, hb, hlength, Option.map_some, Option.map_some, hfaces]

/-- Selectors of two rolls that are equal one by one are the same selectors. -/
theorem exists_selector_of_sameEach {fuel : Nat} {way : List (Place × Place)}
    {as bs : List Place} (has : ∀ q ∈ as, ∃ s, shelf.HoldsSelector q s)
    (hbs : ∀ q ∈ bs, ∃ s, shelf.HoldsSelector q s)
    (hsame : sameEach (shelf.sameBelow fuel way) as bs = .ok true) :
    List.Forall₂ (fun a b => ∃ s, shelf.HoldsSelector a s ∧ shelf.HoldsSelector b s) as bs := by
  refine (forall₂_of_sameEach hsame).imp fun a b hab => ?_
  rcases hab with ⟨hmem, hab⟩
  rcases List.of_mem_zip hmem with ⟨ha, hb⟩
  rcases has a ha with ⟨s, hs⟩
  rcases eq_or_of_sameBelow hab with rfl | hab
  · exact ⟨s, hs, hs⟩
  · rcases hbs b hb with ⟨t, ht⟩
    cases fuel with
    | zero => cases hab
    | succ fuel =>
        rw [sameWithin, hs, ht] at hab
        have heq := LooseSelector.same_iff.mp (Except.ok.inj hab)
        exact ⟨s, hs, heq ▸ ht⟩

/-- Terms that are equal one by one have the same signs, and their nodes are filed alike. -/
theorem filedAlike_of_sameTerms {same : Place → Place → Except Bench.Fault Bool}
    {as bs : List (Value × Place)} (has : ∀ t ∈ as, t.2 < p ∧ ∃ sign, t.1 = .text sign)
    (hbs : ∀ t ∈ bs, t.2 < q ∧ ∃ sign, t.1 = .text sign)
    (hpart : ∀ {a b}, a < p → b < q → (a, b) ∈ (as.map (·.2)).zip (bs.map (·.2)) →
      same a b = .ok true → shelf.FiledAlike levels a b)
    (h : sameEach (fun a b => if a.1.alike b.1 then same a.2 b.2 else .ok false) as bs = .ok true) :
    List.Forall₂ (fun a b => (∃ sign, a.1 = .text sign ∧ b.1 = .text sign) ∧
      shelf.FiledAlike levels a.2 b.2) as bs := by
  refine (forall₂_of_sameEach h).imp fun a b hab => ?_
  rcases hab with ⟨hmem, hab⟩
  rcases List.of_mem_zip hmem with ⟨ha, hb⟩
  rcases has a ha with ⟨hlt, sign, hsign⟩
  rcases hbs b hb with ⟨hlt', sign', hsign'⟩
  have hplaces : (a.2, b.2) ∈ (as.map (·.2)).zip (bs.map (·.2)) := by
    rw [List.zip_map]
    exact List.mem_map_of_mem hmem
  split at hab
  · next hsigns =>
      rw [hsign, hsign', Value.alike, beq_iff_eq] at hsigns
      exact ⟨⟨sign, hsign, hsigns ▸ hsign'⟩, hpart hlt hlt' hplaces hab⟩
  · cases hab

/-- Equal nodes are filed alike, where no roll of dice that only pass for Fate dice is
    compared with a roll of Fate dice. -/
theorem filedAlike_of_sameWithin (h : shelf.IsWhole) {fuel : Nat} {way : List (Place × Place)}
    {c c' : Cell} (hc : shelf.cell? p = some c) (hc' : shelf.cell? q = some c')
    (hneed : shelf.need p c ≤ levels) (hneed' : shelf.need q c' ≤ levels)
    (hmix : ¬ shelf.Mixes p q) (hsame : shelf.sameWithin fuel way p q = .ok true) :
    shelf.FiledAlike levels p q := by
  -- By induction on the comparison; the levels for the keys go down with it.
  induction fuel generalizing levels way p q c c' with
  | zero => cases hsame
  | succ fuel ih =>
      cases levels with
      | zero => exact absurd hneed (Nat.not_le.mpr (shelf.need_pos p c))
      | succ levels =>
          -- The parts of both nodes need less. Two that are one node were not compared.
          have hpart : c.isHolder = true → c'.isHolder = true → ∀ {as bs},
              shelf.children p = .ok as → shelf.children q = .ok bs → ∀ {a b}, a < p → b < q →
              (a, b) ∈ as.zip bs → shelf.sameBelow fuel way a b = .ok true →
              shelf.FiledAlike levels a b := by
            intro hholder hholder' as bs has hbs a b ha hb hmem hab
            rcases exists_cell?_of_lt hc ha with ⟨d, hd⟩
            rcases exists_cell?_of_lt hc' hb with ⟨d', hd'⟩
            -- A part needs less, so one level down its key can still be found.
            have hless := Nat.le_of_lt_succ (Nat.lt_of_lt_of_le (need_lt hd hholder ha) hneed)
            have hless' := Nat.le_of_lt_succ (Nat.lt_of_lt_of_le (need_lt hd' hholder' hb) hneed')
            rcases eq_or_of_sameBelow hab with rfl | hab
            · exact filedAlike_self h hd hless
            · exact ih hd hd' hless hless' (fun hm => hmix (.inside has hbs hmem hm)) hab
          have hwhole := h p c hc
          have hwhole' := h q c' hc'
          rcases oneKind_or hwhole hc hc' with hkind | hapart
          · rw [sameWithin, hc, hc'] at hsame
            rw [children, children, hc, hc'] at hpart
            cases hkind with
            | die a b => exact filedAlike_die hc hc' hwhole hwhole' (Except.ok.inj hsame)
            | constant m n =>
                have heq := beq_iff_eq.mp (Except.ok.inj hsame)
                exact filedAlike_constant hc (heq ▸ hc')
            | selector a b =>
                rcases hwhole with ⟨s, rfl⟩
                rcases hwhole' with ⟨t, rfl⟩
                have heq := LooseSelector.same_iff.mp (Except.ok.inj hsame)
                exact filedAlike_selector hc (heq ▸ hc')
            | roll dice others as bs =>
                simp only at hsame
                split at hsame
                · next hdice =>
                    exact filedAlike_roll h hc hc' (head_eq_of_sameDice h hc hc' hmix hdice)
                      (exists_selector_of_sameEach hwhole.2.2 hwhole'.2.2 hsame)
                · cases hsame
            | expression as bs =>
                simp only at hsame
                split at hsame
                · exact filedAlike_expression hc hc'
                    (filedAlike_of_sameTerms hwhole hwhole' (hpart rfl rfl rfl rfl) hsame)
                · cases hsame
            | rollSet as bs spec spec' =>
                simp only at hsame
                split at hsame
                · refine filedAlike_rollSet hc hc'
                    ((forall₂_of_sameEach hsame).imp fun a b hab => ?_)
                  rcases List.of_mem_zip hab.1 with ⟨ha, hb⟩
                  exact hpart rfl rfl rfl rfl (hwhole a ha) (hwhole' b hb) hab.1 hab.2
                · cases hsame
          · rw [(hapart fuel way).1] at hsame
            cases hsame

/-- Comparing one by one can be done the other way round if each comparison can. -/
theorem sameEach_swap {α : Type} {f g : α → α → Except Bench.Fault Bool} {as bs : List α}
    (h : ∀ a ∈ as, ∀ b ∈ bs, f a b = g b a) : sameEach f as bs = sameEach g bs as := by
  induction as generalizing bs with
  | nil =>
      cases bs with
      | nil => rfl
      | cons b bs => rfl
  | cons a as ih =>
      cases bs with
      | nil => rfl
      | cons b bs =>
          rw [sameEach, sameEach, h a List.mem_cons_self b List.mem_cons_self,
            ih fun a' ha b' hb => h a' (List.mem_cons_of_mem _ ha) b' (List.mem_cons_of_mem _ hb)]

/-- Only the first dice are compared, and those of a built shelf either way. -/
theorem sameDice_comm (h : shelf.IsWhole) (dice others : List Place) :
    shelf.sameDice dice others = shelf.sameDice others dice := by
  have hfirst : ∀ a b, (shelf.diceAt dice).head? = some a → (shelf.diceAt others).head? = some b →
      a.same b = b.same a := fun a b ha hb =>
    LooseDie.same_comm (h.of_mem_diceAt (List.mem_of_head? ha))
      (h.of_mem_diceAt (List.mem_of_head? hb))
  rw [sameDice, sameDice, Bool.beq_comm]
  congr 1
  rcases ha : (shelf.diceAt dice).head? with _ | a
  · rcases (shelf.diceAt others).head? with _ | b
    · rfl
    · rfl
  · rcases hb : (shelf.diceAt others).head? with _ | b
    · rfl
    · exact hfirst a b ha hb

/-- A comparison can be made the other way round. -/
theorem sameWithin_swap (h : shelf.IsWhole) {fuel : Nat} {way : List (Place × Place)} {c c' : Cell}
    (hc : shelf.cell? p = some c) (hc' : shelf.cell? q = some c') :
    shelf.sameWithin fuel way p q = shelf.sameWithin fuel (way.map Prod.swap) q p := by
  induction fuel generalizing way p q c c' with
  | zero => rfl
  | succ fuel ih =>
      have hpart : ∀ {a b d d'}, shelf.cell? a = some d → shelf.cell? b = some d' →
          shelf.sameBelow fuel way a b = shelf.sameBelow fuel (way.map Prod.swap) b a := by
        intro a b d d' hd hd'
        have hmem : way.contains (a, b) = (way.map Prod.swap).contains (b, a) := by
          rw [Bool.eq_iff_iff, List.contains_iff_mem, List.contains_iff_mem]
          exact (List.mem_map_of_injective Prod.swap_injective).symm
        rw [sameBelow, sameBelow, ih hd hd', hmem, List.map_cons, Prod.swap_prod_mk]
        simp only [eq_comm]
      have hwhole := h p c hc
      have hwhole' := h q c' hc'
      rcases oneKind_or hwhole hc hc' with hkind | hapart
      · rw [sameWithin, sameWithin, hc, hc']
        cases hkind with
        | die a b => exact congrArg Except.ok (LooseDie.same_comm hwhole hwhole')
        | constant m n => exact congrArg Except.ok (Bool.beq_comm)
        | selector a b =>
            rcases hwhole with ⟨s, rfl⟩
            rcases hwhole' with ⟨t, rfl⟩
            refine congrArg Except.ok (Bool.eq_iff_iff.mpr ?_)
            rw [LooseSelector.same_iff, LooseSelector.same_iff, eq_comm]
        | roll dice others as bs =>
            simp only [sameDice_comm h dice others]
            split
            · refine sameEach_swap fun a ha b hb => ?_
              rcases hwhole.2.2 a ha with ⟨s, hs⟩
              rcases hwhole'.2.2 b hb with ⟨t, ht⟩
              exact hpart hs ht
            · rfl
        | expression as bs =>
            simp only [eq_comm (a := bs.length)]
            split
            · refine sameEach_swap fun a ha b hb => ?_
              rcases hwhole a ha with ⟨hlt, sign, hsign⟩
              rcases hwhole' b hb with ⟨hlt', sign', hsign'⟩
              rcases exists_cell?_of_lt hc hlt with ⟨d, hd⟩
              rcases exists_cell?_of_lt hc' hlt' with ⟨d', hd'⟩
              rw [hsign, hsign', Value.alike, Value.alike, Bool.beq_comm]
              split
              · exact hpart hd hd'
              · rfl
            · rfl
        | rollSet as bs spec spec' =>
            simp only [eq_comm (a := bs.length)]
            split
            · refine sameEach_swap fun a ha b hb => ?_
              rcases exists_cell?_of_lt hc (hwhole a ha) with ⟨d, hd⟩
              rcases exists_cell?_of_lt hc' (hwhole' b hb) with ⟨d', hd'⟩
              exact hpart hd hd'
            · rfl
      · rw [(hapart fuel way).1, (hapart fuel _).2]

/-- Comparing one by one comes to an end if each comparison does. -/
theorem exists_sameEach {α : Type} {same : α → α → Except Bench.Fault Bool} {as bs : List α}
    (h : ∀ a ∈ as, ∀ b ∈ bs, ∃ r, same a b = .ok r) : ∃ r, sameEach same as bs = .ok r := by
  induction as generalizing bs with
  | nil =>
      cases bs with
      | nil => exact ⟨true, rfl⟩
      | cons b bs => exact ⟨false, rfl⟩
  | cons a as ih =>
      cases bs with
      | nil => exact ⟨false, rfl⟩
      | cons b bs =>
          rw [sameEach]
          rcases h a List.mem_cons_self b List.mem_cons_self with ⟨r, hr⟩
          rw [hr]
          cases r with
          | false => exact ⟨false, rfl⟩
          | true =>
              exact ih fun a' ha b' hb =>
                h a' (List.mem_cons_of_mem _ ha) b' (List.mem_cons_of_mem _ hb)

/-- All nodes on the way down need some levels, or more. -/
def IsLong (shelf : Shelf) (least : Nat) (way : List (Place × Place)) : Prop :=
  ∀ x ∈ way, ∃ c, shelf.cell? x.1 = some c ∧ least ≤ shelf.need x.1 c

/-- The comparison comes to an end, since it gets to nodes that need less and less. -/
theorem exists_sameWithin (h : shelf.IsWhole) {fuel : Nat} {way : List (Place × Place)}
    {c c' : Cell} (hc : shelf.cell? p = some c) (hc' : shelf.cell? q = some c')
    (hneed : shelf.need p c ≤ fuel) (hway : shelf.IsLong (shelf.need p c) way) :
    ∃ r, shelf.sameWithin fuel way p q = .ok r := by
  induction fuel generalizing way p q c c' with
  | zero => exact absurd hneed (Nat.not_le.mpr (shelf.need_pos p c))
  | succ fuel ih =>
      have hpart : ∀ {a b d d'}, shelf.cell? a = some d → shelf.cell? b = some d' →
          shelf.need a d < shelf.need p c → ∃ r, shelf.sameBelow fuel way a b = .ok r := by
        intro a b d d' hd hd' hless
        rw [sameBelow]
        split
        · exact ⟨true, rfl⟩
        · -- What is being compared already needs more than this part.
          have hnot : ¬ way.contains (a, b) = true := by
            intro hmem
            rcases hway _ (List.contains_iff_mem.mp hmem) with ⟨e, he, hle⟩
            rw [hd] at he
            rw [← Option.some.inj he] at hle
            exact absurd hless (Nat.not_lt.mpr hle)
          rw [if_neg hnot]
          refine ih hd hd' (by omega) fun x hx => ?_
          rcases List.mem_cons.mp hx with rfl | hx
          · exact ⟨d, hd, Nat.le_refl _⟩
          · exact (hway x hx).imp fun e he => ⟨he.1, by omega⟩
      have hwhole := h p c hc
      have hwhole' := h q c' hc'
      rcases oneKind_or hwhole hc hc' with hkind | hapart
      · rw [sameWithin, hc, hc']
        cases hkind with
        | die a b => exact ⟨_, rfl⟩
        | constant m n => exact ⟨_, rfl⟩
        | selector a b => exact ⟨_, rfl⟩
        | roll dice others as bs =>
            simp only
            split
            · refine exists_sameEach fun a ha b hb => ?_
              rcases hwhole.2.2 a ha with ⟨s, hs⟩
              rcases hwhole'.2.2 b hb with ⟨t, ht⟩
              -- Selectors may lie anywhere, but hold nothing themselves.
              exact hpart hs ht (need_lt_of_not_isHolder rfl rfl)
            · exact ⟨false, rfl⟩
        | expression as bs =>
            simp only
            split
            · refine exists_sameEach fun a ha b hb => ?_
              have hlt := (hwhole a ha).1
              rcases exists_cell?_of_lt hc hlt with ⟨d, hd⟩
              rcases exists_cell?_of_lt hc' (hwhole' b hb).1 with ⟨d', hd'⟩
              split
              · exact hpart hd hd' (need_lt hd rfl hlt)
              · exact ⟨false, rfl⟩
            · exact ⟨false, rfl⟩
        | rollSet as bs spec spec' =>
            simp only
            split
            · refine exists_sameEach fun a ha b hb => ?_
              rcases exists_cell?_of_lt hc (hwhole a ha) with ⟨d, hd⟩
              rcases exists_cell?_of_lt hc' (hwhole' b hb) with ⟨d', hd'⟩
              exact hpart hd hd' (need_lt hd rfl (hwhole a ha))
            · exact ⟨false, rfl⟩
      · exact ⟨false, (hapart fuel way).1⟩

end Sameness

section Keeping

variable {shelf : Shelf} {p q : Place}

/-- Nodes of a built shelf can be compared, either way with the same result. -/
theorem exists_same (h : shelf.IsWhole) {c c' : Cell} (hc : shelf.cell? p = some c)
    (hc' : shelf.cell? q = some c') :
    ∃ r, shelf.same p q = .ok r ∧ shelf.same q p = .ok r := by
  have hneed : shelf.need p c ≤ shelf.levels * shelf.levels :=
    (need_le_levels hc).trans (Nat.le_mul_of_pos_left _ (Nat.succ_pos _))
  have hway : shelf.IsLong (shelf.need p c) [(p, q)] := by
    intro x hx
    rw [List.mem_singleton.mp hx]
    exact ⟨c, hc, Nat.le_refl _⟩
  -- It comes to an end one way, and the other way is the same comparison.
  rcases exists_sameWithin h hc hc' hneed hway with ⟨r, hr⟩
  exact ⟨r, hr, (sameWithin_swap h hc hc').symm.trans hr⟩

/-- What was compared is on the shelf. -/
theorem exists_cells_of_sameWithin {fuel : Nat} {way : List (Place × Place)}
    (hsame : shelf.sameWithin fuel way p q = .ok true) :
    ∃ c c', shelf.cell? p = some c ∧ shelf.cell? q = some c' := by
  cases fuel with
  | zero => cases hsame
  | succ fuel =>
      rw [sameWithin] at hsame
      rcases hc : shelf.cell? p with _ | c
      · rw [hc] at hsame
        cases hsame
      rcases hc' : shelf.cell? q with _ | c'
      · rw [hc, hc'] at hsame
        cases c <;> cases hsame
      · exact ⟨c, c', rfl, rfl⟩

/-- Where nodes mix, one of the rolls on the shelf is of dice that only pass for Fate dice. -/
theorem Mixes.exists_falseFate (h : shelf.Mixes p q) :
    ∃ r dice selectors d, shelf.cell? r = some (.roll dice selectors) ∧
      (shelf.diceAt dice).head? = some d ∧ d.IsFalseFate := by
  induction h with
  | rolls hp hq ha hb h =>
      rcases h with ⟨hfalse, -⟩ | ⟨-, hfalse⟩
      · exact ⟨_, _, _, _, hp, ha, hfalse⟩
      · exact ⟨_, _, _, _, hq, hb, hfalse⟩
  | inside _ _ _ _ ih => exact ih

/-- The levels that a shelf allows are enough for the keys of equal nodes. -/
theorem filedAlike_of_same (h : shelf.IsWhole) (hmix : ¬ shelf.Mixes p q)
    (hsame : shelf.same p q = .ok true) : shelf.FiledAlike shelf.levels p q := by
  rcases exists_cells_of_sameWithin hsame with ⟨c, c', hc, hc'⟩
  exact filedAlike_of_sameWithin h hc hc' (need_le_levels hc) (need_le_levels hc') hmix hsame

/-- A node has a key if no number below it is too long, and otherwise is refused. -/
theorem exists_tellsIf_key (h : shelf.IsWhole) {c : Cell} (hc : shelf.cell? p = some c) :
    ∃ k, TellsIf (¬ shelf.HasLongNumber p) (shelf.key p) k := by
  rcases filedAlike_self h hc (need_le_levels hc) with ⟨-, k, -, hk, -, -⟩
  exact ⟨k, hk⟩

/-- Two nodes that are not equal, whichever comes first. -/
def IsApart (shelf : Shelf) (p q : Place) : Prop :=
  shelf.same p q = .ok false ∧ shelf.same q p = .ok false

/-- The nodes of a collection are some of those that were put into it, filed under their
    keys, and no two are equal. -/
structure IsCollection (shelf : Shelf) (places : List Place) (kept : List (Key × Place)) :
    Prop where
  filed : ∀ x ∈ kept, x.2 ∈ places ∧ shelf.key x.2 = .ok x.1
  apart : kept.Pairwise fun x y => shelf.IsApart x.2 y.2

/-- Either a collection has a node that it takes for a new one, or none is equal to that. -/
theorem exists_holds {k : Key} {kept : List (Key × Place)} (h : shelf.IsWhole) {c : Cell}
    (hc : shelf.cell? p = some c) (hk : shelf.key p = .ok k)
    (hkept : ∀ x ∈ kept, (x.2 ≠ p → ¬ shelf.Mixes x.2 p) ∧ shelf.key x.2 = .ok x.1 ∧
      ∃ c, shelf.cell? x.2 = some c) :
    shelf.holds k p kept = .ok true ∨
      (shelf.holds k p kept = .ok false ∧ ∀ x ∈ kept, shelf.IsApart x.2 p) := by
  induction kept with
  | nil => exact .inr ⟨rfl, fun x hx => absurd hx List.not_mem_nil⟩
  | cons x kept ih =>
      rcases x with ⟨k', p'⟩
      rcases hkept _ List.mem_cons_self with ⟨hmix, hk', d, hd⟩
      rcases exists_same h hd hc with ⟨r, hr, hr'⟩
      simp only [holds, hr, bind, Except.bind]
      by_cases hself : p' = p
      · exact .inl (by rw [if_pos hself]; rfl)
      rw [if_neg hself]
      have hrest := ih fun y hy => hkept y (List.mem_cons_of_mem _ hy)
      cases r with
      | false =>
          simp only [Bool.false_eq_true, if_false, ite_self]
          refine hrest.imp_right fun hnone => ⟨hnone.1, fun y hy => ?_⟩
          rcases List.mem_cons.mp hy with rfl | hy
          · exact ⟨hr, hr'⟩
          · exact hnone.2 y hy
      | true =>
          -- Equal nodes that both have a key are found under the same one.
          rcases filedAlike_of_same h (hmix hself) hr with ⟨-, l', l, hl', hl, hsame⟩
          rw [← key, hk'] at hl'
          rw [← key, hk] at hl
          rw [← hl'.eq_of_ok, ← hl.eq_of_ok] at hsame
          exact .inl (by rw [if_pos hsame]; rfl)

/-- Nodes that are put into a collection leave no two equal ones in it. If a number below
    one of them is too long, they cannot be put into it. -/
theorem exists_collect {places all : List Place} {kept : List (Key × Place)} (h : shelf.IsWhole)
    (hall : ∀ p ∈ all, ∃ c, shelf.cell? p = some c)
    (hmix : ∀ p ∈ all, ∀ q ∈ all, p ≠ q → ¬ shelf.Mixes p q) (hplaces : places ⊆ all)
    (hkept : shelf.IsCollection all kept) :
    ∃ kept', TellsIf (∀ p ∈ places, ¬ shelf.HasLongNumber p) (shelf.collect kept places) kept' ∧
      shelf.IsCollection all kept' := by
  -- By induction on the nodes that are left, with a growing collection.
  induction places generalizing kept with
  | nil => exact ⟨kept, .inl ⟨fun p hp => absurd hp List.not_mem_nil, rfl⟩, hkept⟩
  | cons p places ih =>
      have hmem : p ∈ all := hplaces List.mem_cons_self
      have hrest : places ⊆ all := fun q hq => hplaces (List.mem_cons_of_mem p hq)
      rcases hall p hmem with ⟨c, hc⟩
      rcases exists_tellsIf_key h hc with ⟨k, hk | ⟨hlong, hk⟩⟩
      · rcases hk with ⟨hshort, hk⟩
        -- What becomes of the rest is told if no number below it is too long.
        have hcongr : (∀ q ∈ places, ¬ shelf.HasLongNumber q) ↔
            ∀ q ∈ p :: places, ¬ shelf.HasLongNumber q := by
          rw [List.forall_mem_cons, and_iff_right hshort]
        rw [collect, hk]
        rcases exists_holds h hc hk fun x hx => ⟨hmix _ (hkept.filed x hx).1 p hmem,
          (hkept.filed x hx).2, hall _ (hkept.filed x hx).1⟩ with hfound | ⟨hfound, hnone⟩
        · simp only [hfound, bind, Except.bind, if_true]
          rcases ih hrest hkept with ⟨kept', hcollect, hkept'⟩
          exact ⟨kept', hcollect.congr hcongr, hkept'⟩
        · simp only [hfound, bind, Except.bind, Bool.false_eq_true, if_false]
          have hnext : shelf.IsCollection all (kept ++ [(k, p)]) := by
            refine ⟨fun x hx => ?_, ?_⟩
            · rcases List.mem_append.mp hx with hx | hx
              · exact hkept.filed x hx
              · rw [List.mem_singleton.mp hx]
                exact ⟨hmem, hk⟩
            · refine List.pairwise_append.mpr ⟨hkept.apart, List.pairwise_singleton _ _, ?_⟩
              intro x hx y hy
              rw [List.mem_singleton.mp hy]
              exact hnone x hx
          rcases ih hrest hnext with ⟨kept', hcollect, hkept'⟩
          exact ⟨kept', hcollect.congr hcongr, hkept'⟩
      · refine ⟨kept, .inr ⟨fun hall => hlong (hall p List.mem_cons_self), ?_⟩, hkept⟩
        rw [collect, hk]
        rfl

/-- A collection that can be made never keeps two equal nodes. -/
theorem exists_distinct {places : List Place} (h : shelf.IsWhole)
    (hplaces : ∀ p ∈ places, ∃ c, shelf.cell? p = some c)
    (hmix : ∀ p ∈ places, ∀ q ∈ places, p ≠ q → ¬ shelf.Mixes p q) :
    ∃ kept, TellsIf (∀ p ∈ places, ¬ shelf.HasLongNumber p) (shelf.distinct places) kept ∧
      kept.Pairwise shelf.IsApart := by
  have hempty : shelf.IsCollection places [] := ⟨fun x hx => absurd hx List.not_mem_nil, .nil⟩
  rcases exists_collect h hplaces hmix (List.Subset.refl places) hempty with
    ⟨kept, hcollect, hkept⟩
  exact ⟨kept.map Prod.snd, hcollect.frame (List.map Prod.snd), List.pairwise_map.mpr hkept.apart⟩

end Keeping

end Shelf

namespace Bench

/-- On a shelf that steps at the bench have filled equal nodes have the same key, or a
    number below both has too many digits and neither has a key. A collection never keeps
    two equal nodes, and cannot be made of nodes without a key. Left out are nodes of which
    one has a roll of Fate dice where the other has a roll of dice that only pass for Fate
    dice. -/
theorem key_of_same {b : Bench} (h : b.IsMade) :
    (∀ p q, b.shelf.same p q = .ok true → ¬ b.shelf.Mixes p q →
      (¬ b.shelf.HasLongNumber p ∧ ¬ b.shelf.HasLongNumber q ∧
        ∃ k k', b.shelf.key p = .ok k ∧ b.shelf.key q = .ok k' ∧ k.same k' = true) ∨
      (b.shelf.HasLongNumber p ∧ b.shelf.HasLongNumber q ∧
        b.shelf.key p = .error (.refused none) ∧ b.shelf.key q = .error (.refused none))) ∧
    ∀ places, (∀ p ∈ places, ∃ c, b.shelf.cell? p = some c) →
      (∀ p ∈ places, ∀ q ∈ places, p ≠ q → ¬ b.shelf.Mixes p q) →
      ((∀ p ∈ places, ¬ b.shelf.HasLongNumber p) ∧
        ∃ kept, b.shelf.distinct places = .ok kept ∧ kept.Pairwise b.shelf.IsApart) ∨
      ((∃ p ∈ places, b.shelf.HasLongNumber p) ∧
        b.shelf.distinct places = .error (.refused none)) := by
  have hwhole := h.isStocked.built.isWhole
  constructor
  · intro p q hsame hmix
    rcases Shelf.filedAlike_of_same hwhole hmix hsame with ⟨hiff, k, k', hk, hk', hkeys⟩
    by_cases hlong : b.shelf.HasLongNumber p
    · have hlong' := not_iff_not.mp hiff |>.mp hlong
      exact .inr ⟨hlong, hlong', hk.eq_error (not_not_intro hlong),
        hk'.eq_error (not_not_intro hlong')⟩
    · have hshort := hiff.mp hlong
      exact .inl ⟨hlong, hshort, k, k', hk.eq_ok hlong, hk'.eq_ok hshort, hkeys⟩
  · intro places hplaces hmix
    rcases Shelf.exists_distinct hwhole hplaces hmix with ⟨kept, ⟨hall, hd⟩ | ⟨hlong, hd⟩, hapart⟩
    · exact .inl ⟨hall, kept, hd, hapart⟩
    · refine .inr ⟨?_, hd⟩
      simpa only [not_forall, not_not, exists_prop] using hlong

/-- A Fate die, another die, and a roll of one die like each. -/
def withRolls (die : Step) : List Step :=
  [.fate ['f'] .null (.int 1), die, .roll ['a'] (.int 1) (some ['f']) [],
    .roll ['b'] (.int 1) (some ['c']) []]

/-- The steps that fill such a bench are steps that make one. -/
theorem isMade_withRolls {die : Step} (h : ∀ b : Bench, b.IsPlain die) (draws : Draws) :
    (takeAll { draws := draws } (withRolls die)).2.IsMade := by
  refine (IsMade.start draws).takeAll fun s hs b => ?_
  simp only [withRolls, List.mem_cons, List.not_mem_nil, or_false] at hs
  rcases hs with rfl | rfl | rfl | rfl
  · exact .inl (.fate ..)
  · exact h b
  · exact .inl (.roll _ _ _ fun s hs => absurd hs List.not_mem_nil)
  · exact .inl (.roll _ _ _ fun s hs => absurd hs List.not_mem_nil)

-- Two rolls of one Fate die each.
theorem key_of_same_fate_dice :
    ∃ b : Bench, b = (takeAll { draws := ⟨fun _ => 0, 0⟩ }
        (withRolls (.fate ['c'] .null (.int 1)))).2 ∧ b.IsMade ∧
      b.shelf.same 3 5 = .ok true ∧ ¬ b.shelf.Mixes 3 5 ∧
      ∃ k k', b.shelf.key 3 = .ok k ∧ b.shelf.key 5 = .ok k' ∧ k.same k' = true := by
  have hmade := isMade_withRolls (fun b => .inl (.fate ['c'] .null (.int 1))) ⟨fun _ => 0, 0⟩
  have hmix : ¬ (takeAll { draws := ⟨fun _ => 0, 0⟩ }
      (withRolls (.fate ['c'] .null (.int 1)))).2.shelf.Mixes 3 5 := by
    intro hmix
    rcases hmix.exists_falseFate with ⟨p, dice, selectors, d, hp, hd, hfate, -⟩
    have hlt : p < 6 := Shelf.cell?_lt hp
    interval_cases p <;> cases hp <;> cases hd <;> cases hfate
  refine ⟨_, rfl, hmade, rfl, hmix, ?_⟩
  rcases (key_of_same hmade).1 3 5 rfl hmix with ⟨-, -, hkeys⟩ | ⟨-, -, hrefused, -⟩
  · exact hkeys
  · cases hrefused

/-- A die that has the faces and values of a Fate die. A roll of it equals a roll of a Fate
    die, and a collection keeps both. -/
theorem exists_same_with_other_key :
    ∃ b : Bench, b = (takeAll { draws := ⟨fun _ => 0, 0⟩ }
        (withRolls (.die ['c'] (.int 3) (.list [.int (-1), .int 0, .int 1]) .null (.int 1)))).2 ∧
      b.IsMade ∧ b.shelf.same 3 5 = .ok true ∧
      (∃ k k', b.shelf.key 3 = .ok k ∧ b.shelf.key 5 = .ok k' ∧ k.same k' = false) ∧
      (b.takeAll [.compare ['a'] ['b'], .distinct [['a'], ['b']]]).1
        = [.ok (.value (.list [.bool true, .bool true, .bool false])), .ok (.count 2)] := by
  have hmade := isMade_withRolls
    (fun b => .inl (.die ['c'] 3 (some [-1, 0, 1]) .null (.int 1))) ⟨fun _ => 0, 0⟩
  exact ⟨_, rfl, hmade, rfl, ⟨.written "1dF".toList, .written "1d3".toList, rfl, rfl, rfl⟩, rfl⟩

end Bench

end DiceRoller
