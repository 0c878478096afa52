import DiceRoller.Proofs.Bench.Writing
import DiceRoller.Proofs.Dice.Twins
import Mathlib.Data.List.Lattice

/-!
# Throwing held sets

A set that is thrown on the shelf changes cell by cell, and what its place holds
afterwards is the set thrown as a whole. So throwing on the shelf takes the draws that
throwing the set takes, and it depends on the shelf through nothing but the set.

Each roll is noted once it was thrown, which fails if one of its numbers is too long. Then the
rolls behind it are left as they are. All numbers of a set that was read are short, so that
throwing one never fails.

The statement is carried up the tree by what a throw leaves alone. `Reworks` says that
only dice at given places changed, and what holds of each of them now, and a tree
elsewhere does not notice. Since no die of a tree lies at two places, the
parts of it can be thrown one after the other.

## Main definitions

* `Shelf.Reworks`: Dice at given places changed to what they can show now.
* `Roll.noteFault`, `Term.noteFault`: The fault of noting a roll and a term.
* `Term.throwNoted`: A term thrown behind its sign and noted.

## Theorems

* `LooseDie.worth_showing`, `LooseDie.ofKind_injective`, `Shelf.HoldsDie.kind_eq`: What a
  held die is.
* `Term.throwNoted_of_isBrief`, `Term.exists_of_noteFault`,
  `Term.isDisplayable_of_noteFault`: What keeps a term from being noted, and what is known
  of one that was noted.
* `Shelf.Reworks.refl`, `Shelf.Reworks.trans`, `Shelf.Reworks.mono`, `Shelf.Reworks.keep`,
  `Shelf.Reworks.cell?_eq`: What becomes of a shelf on which dice change.
* `Shelf.exists_holdsDie_of_mem`: One of some held dice shows one of the things that they
  show.
* `Shelf.Turns.reworks`: Turning dice changes them.
* `Shelf.active_of_holds`, `Shelf.sumFrom_showing`, `Shelf.diceTotal_of_holds`: What held
  dice are worth.
* `Shelf.tellsIf_noteRoll`: What is noted of a held roll.
* `Shelf.throwRoll_of_holds`, `Shelf.throwIfRoll_of_holds`, `Shelf.throwTerm_of_holds`:
  Throwing a held roll and a held term.
* `Shelf.throwEach_of_holds`, `Shelf.throwBehind_of_holds`: Throwing held things one after
  the other.
* `Shelf.throwTerms_of_holds`, `Shelf.throwExpression_of_holds`,
  `Shelf.throwExpressions_of_holds`, `Shelf.throw_of_holds`: Throwing what is brief.
-/

namespace DiceRoller

namespace LooseDie

theorem worth_showing (d : LooseDie) (s : Showing) : (d.showing s).worth = .int s.total := by
  rcases s with ⟨_ | v, flags⟩
  · rfl
  · rfl

/-- From a die on the shelf its kind can be told. -/
theorem ofKind_injective {kind kind' : DieSpec} {s s' : Showing}
    (h : (ofKind kind).showing s = (ofKind kind').showing s') : kind = kind' := by
  have hfate : kind.fate = kind'.fate := congrArg LooseDie.fate h
  have hfaces : kind.faces = kind'.faces :=
    Int.ofNat.inj (Value.int.inj (congrArg LooseDie.faces h))
  have hvalues : kind.distribution = kind'.distribution :=
    List.map_injective_iff.mpr (fun _ _ hv => Value.int.inj hv) (congrArg LooseDie.values h)
  rcases kind
  rcases kind'
  simp only at hfate hfaces hvalues
  rw [hfate, hfaces, hvalues]

end LooseDie

/-- The fault of noting the roll, if a number in it is too long. -/
def Roll.noteFault (r : Roll) : Option Bench.Fault :=
  if r.IsNotable then none else some (.refused none)

namespace Term

/-- The fault of noting the term. Of a constant nothing is noted. -/
def noteFault : Term → Option Bench.Fault
  | .roll r => r.noteFault
  | .constant _ => none

/-- The term thrown and noted, with whatever stands in front of it left there. -/
def throwNoted {α : Type} (p : α × Term) (draws : Draws) :
    ((α × Term) × Draws) × Option Bench.Fault :=
  (throwBehind p draws, (p.2.throw draws).1.noteFault)

/-- A brief term is noted without a fault. -/
theorem throwNoted_of_isBrief {α : Type} (p : α × Term) (h : p.2.IsBrief) (draws : Draws) :
    throwNoted p draws = (throwBehind p draws, none) := by
  rcases p with ⟨s, r | n⟩
  · have hnote : (r.throw draws).1.noteFault = none := if_pos (Roll.IsBrief.isNotable_throw h draws)
    rw [throwNoted, throw, noteFault, hnote]
  · rfl

end Term

namespace Shelf

open Bench

variable {strict : Prop} {shelf shelf' shelf'' : Shelf} {kind : DieSpec} {place : Place}
  {dice dice' : List Place} {shown shown' : List Showing}

theorem HoldsDie.kind_eq {kind' : DieSpec} {d d' : Showing} (h : shelf.HoldsDie kind place d)
    (h' : shelf.HoldsDie kind' place d') : kind = kind' := by
  rw [HoldsDie, h] at h'
  exact LooseDie.ofKind_injective (Cell.die.inj (Option.some.inj h'))

/-- Nothing changed but dice at the given places, and what these show now is something
    that they can show. -/
def Reworks (strict : Prop) (dice : List Place) (shelf shelf' : Shelf) : Prop :=
  ∀ p, shelf'.cell? p = shelf.cell? p ∨
    p ∈ dice ∧ ∃ kind d d', shelf.HoldsDie kind p d ∧ shelf'.HoldsDie kind p d' ∧
      d'.IsSound strict kind

namespace Reworks

theorem refl (strict : Prop) (dice : List Place) (shelf : Shelf) :
    Reworks strict dice shelf shelf :=
  fun _ => Or.inl rfl

/-- Dice that change twice change to what they can show. -/
theorem trans (h : Reworks strict dice shelf shelf') (h' : Reworks strict dice shelf' shelf'') :
    Reworks strict dice shelf shelf'' := by
  intro p
  rcases h' p with heq' | ⟨hp, kind', d', d'', hd', hd'', hsound'⟩
  · rcases h p with heq | ⟨hp, kind, d, d', hd, hd', hsound⟩
    · exact Or.inl (heq'.trans heq)
    · exact Or.inr ⟨hp, kind, d, d', hd, heq'.trans hd', hsound⟩
  · rcases h p with heq | ⟨_, kind, d, e, hd, he, -⟩
    · exact Or.inr ⟨hp, kind', d', d'', heq.symm.trans hd', hd'', hsound'⟩
    · -- A die stays one of its kind.
      rw [he.kind_eq hd'] at hd
      exact Or.inr ⟨hp, kind', d, d'', hd, hd'', hsound'⟩

theorem mono (h : Reworks strict dice shelf shelf') (hsub : ∀ p ∈ dice, p ∈ dice') :
    Reworks strict dice' shelf shelf' :=
  fun p => (h p).imp_right fun hp => ⟨hsub p hp.1, hp.2⟩

/-- A tree with its dice elsewhere does not notice. -/
theorem keep (h : Reworks strict dice shelf shelf') (hdisj : dice.Disjoint dice') :
    Keeps dice' shelf shelf' := by
  intro p c hc hdie
  rcases h p with heq | ⟨hp, kind, d, d', hd, -, -⟩
  · rw [heq, hc]
  · rw [hd] at hc
    rw [← Option.some.inj hc] at hdie
    exact absurd (hdie trivial) (hdisj hp)

theorem cell?_eq (h : Reworks strict dice shelf shelf') {p : Place} {c : Cell}
    (hc : shelf.cell? p = some c) (hdie : ¬ c.IsDie) : shelf'.cell? p = some c :=
  h.keep (List.disjoint_nil_right dice) p c hc fun hd => absurd hd hdie

end Reworks

/-- One of some held dice shows one of the things that they show. -/
theorem exists_holdsDie_of_mem (h : List.Forall₂ (shelf.HoldsDie kind) dice shown) {p : Place}
    (hp : p ∈ dice) : ∃ d ∈ shown, shelf.HoldsDie kind p d := by
  induction h with
  | nil => exact absurd hp List.not_mem_nil
  | cons hd _ ih =>
      rcases List.mem_cons.mp hp with rfl | hp
      · exact ⟨_, List.mem_cons_self, hd⟩
      · rcases ih hp with ⟨d, hmem, hd⟩
        exact ⟨d, List.mem_cons_of_mem _ hmem, hd⟩

/-- Dice that are turned to what they can show are changed to that. -/
theorem Turns.reworks (h : Turns kind dice shown shown' shelf shelf')
    (hsound : ∀ d ∈ shown', d.IsSound strict kind) : Reworks strict dice shelf shelf' := by
  intro p
  by_cases hp : p ∈ dice
  · rcases exists_holdsDie_of_mem h.before hp with ⟨d, -, hd⟩
    rcases exists_holdsDie_of_mem h.after hp with ⟨d', hmem, hd'⟩
    exact Or.inr ⟨hp, kind, d, d', hd, hd', hsound d' hmem⟩
  · exact Or.inl (h.outside p hp)

/-- The dice of a roll that count are those of what it shows. -/
theorem active_of_holds (h : List.Forall₂ (shelf.HoldsDie kind) dice shown) :
    shelf.active dice = .ok ((shown.filter Showing.isKept).map (LooseDie.ofKind kind).showing) := by
  rw [active, diceAt_of_holds h,
    filterM_eq_ok (p := fun d => (d.isKept.toOption).getD false), List.filter_map]
  · rfl
  · intro d hd
    rcases List.mem_map.mp hd with ⟨s, -, rfl⟩
    rfl

/-- What dice are worth is added up behind a number. -/
theorem sumFrom_showing (d : LooseDie) (n : Int) (shown : List Showing) :
    sumFrom (fun d : LooseDie => .ok d.worth) (.int n) (shown.map d.showing)
      = .ok (.int (n + (shown.map Showing.total).sum)) := by
  induction shown generalizing n with
  | nil => rw [List.map_nil, sumFrom, List.map_nil, List.sum_nil, Int.add_zero]
  | cons s shown ih =>
      rw [List.map_cons, sumFrom]
      simp only [LooseDie.worth_showing, bind, Except.bind, plus, Value.plus_int, Except.mapError,
        ih, List.map_cons, List.sum_cons]
      rw [Int.add_assoc]

/-- What held dice are worth is what they show, those that count. -/
theorem diceTotal_of_holds {r : Roll} (h : List.Forall₂ (shelf.HoldsDie r.spec) dice r.shown) :
    shelf.diceTotal dice = .ok (.int r.total) := by
  rw [diceTotal, active_of_holds h]
  simp only [bind, Except.bind, sumFrom_showing]
  rw [Int.zero_add]
  rfl

/-- What is noted of a held roll is there if the roll can be written and displayed. What its
    dice are worth is always there. -/
theorem tellsIf_noteRoll {r : Roll} {selectors : List Place}
    (h : List.Forall₂ (shelf.HoldsDie r.spec) dice r.shown)
    (hsel : List.Forall₂ shelf.HoldsSelector selectors r.selectors) (hne : dice ≠ []) :
    TellsIf r.IsNotable (shelf.noteRoll dice selectors) (r.written, r.render, .int r.total) := by
  have htotal : TellsIf True (shelf.diceTotal dice) (.int r.total) := by
    rw [diceTotal_of_holds h]
    exact .always _
  refine ((tellsIf_rollText h hsel hne).bind ((tellsIf_renderRoll h hsel hne).bind
    (htotal.frame fun total => (r.written, r.render, total)))).congr ?_
  rw [and_iff_left trivial, Roll.IsNotable]

/-- Throwing held dice and applying selectors to them. Nothing fails before the roll is
    noted. -/
theorem throwRoll_of_holds {r : Roll} {selectors : List Place}
    (h : List.Forall₂ (shelf.HoldsDie r.spec) dice r.shown)
    (hsel : List.Forall₂ shelf.HoldsSelector selectors r.selectors) (hne : dice ≠ [])
    (hn : dice.Nodup) (hr : r.IsThrowable) (draws : Draws) :
    ∃ shelf', shelf.throwRoll draws dice selectors
        = ((shelf', (r.throw draws).2), (r.throw draws).1.noteFault) ∧
      Turns r.spec dice r.shown (r.throw draws).1.shown shelf shelf' := by
  rcases turns_throwDice h hn draws with ⟨hturns, hdraws⟩
  -- The selectors lie where they lay, and find dice that were all thrown.
  have hkeep : Keeps [] shelf (shelf.throwDice draws dice).1 :=
    keeps_of_outside (exists_die_of_forall₂ h) (List.disjoint_nil_right dice) hturns.outside
  have hthere := hsel.imp fun _ _ hq => hkeep _ _ hq False.elim
  rcases exists_turns_narrow hturns.after hn hthere hr.selectors
    (Roll.isSome_throwAll hr.distribution _ draws) with ⟨shelf', hnarrow, hturns'⟩
  have hkeep' : Keeps [] (shelf.throwDice draws dice).1 shelf' :=
    keeps_of_outside (exists_die_of_forall₂ hturns.after) (List.disjoint_nil_right dice)
      hturns'.outside
  refine ⟨shelf', ?_, hturns.trans hturns'⟩
  -- Only the note can still fail, and it is taken of the roll as it is now.
  have hnote := tellsIf_noteRoll (r := (r.throw draws).1) hturns'.after
    (hthere.imp fun _ _ hq => hkeep' _ _ hq False.elim) hne
  simp only [throwRoll, hnarrow, hdraws, Roll.noteFault]
  by_cases hnotable : (r.throw draws).1.IsNotable
  · rw [hnote.eq_ok hnotable, if_pos hnotable]
    rfl
  · rw [hnote.eq_error hnotable, if_neg hnotable]
    rfl

/-- Throwing a held roll throws what is held and notes it. -/
theorem throwIfRoll_of_holds {r : Roll} (h : shelf.HoldsRoll place dice r) (hn : dice.Nodup)
    (hr : r.IsThrowable) (draws : Draws) :
    ∃ shelf', throwIfRoll place shelf draws
        = ((shelf', (r.throw draws).2), (r.throw draws).1.noteFault) ∧
      shelf'.HoldsRoll place dice (r.throw draws).1 ∧ Reworks strict dice shelf shelf' := by
  rcases h.cell with ⟨selectors, hc, hsel⟩
  rcases throwRoll_of_holds h.shown hsel h.ne_nil hn hr draws with ⟨shelf', hthrow, hturns⟩
  have hrework := hturns.reworks (r.isSound_throw strict draws)
  -- The roll and its selectors are no dice, so they lie where they lay.
  refine ⟨shelf', ?_, ⟨h.ne_nil, ⟨selectors, hrework.cell?_eq hc id, ?_⟩, hturns.after⟩, hrework⟩
  · rw [throwIfRoll, hc]
    exact hthrow
  · exact hsel.imp fun _ _ hq => hrework.cell?_eq hq id

/-- Throwing held things one after the other throws what is held, up to the first fault. Each
    of them is thrown where the others have left the shelf, and does not notice. -/
theorem throwEach_of_holds {α β : Type} (holds : Shelf → β → List Place → α → Prop)
    (placeOf : β → Place) (throw : α → Draws → (α × Draws) × Option Bench.Fault)
    (Ready : α → Prop) {throwAt : Place → Shelf → Draws → Change}
    (hkeep : ∀ {shelf shelf' b dice a}, holds shelf b dice a →
      Keeps dice shelf shelf' → holds shelf' b dice a)
    (hthrow : ∀ {shelf b dice a}, holds shelf b dice a → dice.Nodup → Ready a → ∀ draws,
      ∃ shelf', throwAt (placeOf b) shelf draws
          = ((shelf', (throw a draws).1.2), (throw a draws).2) ∧
        holds shelf' b dice (throw a draws).1.1 ∧ Reworks strict dice shelf shelf')
    {bs : List β} {as : List α} (h : HoldsEach (holds shelf) bs dice as)
    (hn : dice.Nodup) (hready : ∀ a ∈ as, Ready a) (draws : Draws) :
    ∃ shelf', throwEach throwAt shelf draws (bs.map placeOf)
        = ((shelf', (throwUpTo throw as draws).1.2), (throwUpTo throw as draws).2) ∧
      HoldsEach (holds shelf') bs dice (throwUpTo throw as draws).1.1 ∧
      Reworks strict dice shelf shelf' := by
  -- By induction on the things; `Reworks` says what the first throw leaves to the rest.
  induction as generalizing shelf bs dice draws with
  | nil =>
      cases h
      exact ⟨shelf, rfl, .nil, .refl _ _ _⟩
  | cons a as ih =>
      rcases h with _ | @⟨_, b, dice₁, dice₂, _, bs, ha, has⟩
      rcases List.nodup_append'.mp hn with ⟨hn₁, hn₂, hdisj⟩
      rcases hthrow ha hn₁ (hready a List.mem_cons_self) draws with
        ⟨shelf₁, hthrow₁, hh₁, hrework₁⟩
      have hrest := has.keep hkeep (hrework₁.keep hdisj)
      have hfirst : Reworks strict (dice₁ ++ dice₂) shelf shelf₁ :=
        hrework₁.mono fun _ hp => List.mem_append_left _ hp
      rw [List.map_cons, throwEach, hthrow₁]
      rcases hone : throw a draws with ⟨⟨a', draws'⟩, _ | f⟩
      · rw [hone] at hh₁
        rcases ih hrest hn₂ (fun a' ha' => hready a' (List.mem_cons_of_mem a ha')) draws' with
          ⟨shelf', hthrow', hh, hrework⟩
        rw [throwUpTo_cons_of_none hone]
        exact ⟨shelf', hthrow', .cons (hkeep hh₁ (hrework.keep hdisj.symm)) hh,
          hfirst.trans (hrework.mono fun _ hp => List.mem_append_right _ hp)⟩
      · -- What follows a fault is left as it is.
        rw [hone] at hh₁
        rw [throwUpTo_cons_of_some hone]
        exact ⟨shelf₁, rfl, .cons hh₁ hrest, hfirst⟩

/-- Throwing a held term throws what is held. A constant is no roll, so nothing is thrown. -/
theorem throwTerm_of_holds {t : Term} (h : shelf.HoldsTerm place dice t) (hn : dice.Nodup)
    (ht : t.IsThrowable) (draws : Draws) :
    ∃ shelf', throwIfRoll place shelf draws
        = ((shelf', (t.throw draws).2), (t.throw draws).1.noteFault) ∧
      shelf'.HoldsTerm place dice (t.throw draws).1 ∧ Reworks strict dice shelf shelf' := by
  cases h with
  | constant hc =>
      refine ⟨shelf, ?_, .constant hc, .refl _ _ _⟩
      rw [throwIfRoll, hc]
      rfl
  | @roll _ r h =>
      rcases throwIfRoll_of_holds h hn (ht r rfl) draws with ⟨shelf', hthrow, hh, hrework⟩
      exact ⟨shelf', hthrow, .roll hh, hrework⟩

/-- Throwing held terms throws them one after the other, behind whatever signs. -/
theorem throwBehind_of_holds {α : Type} {stands : Value → α → Prop} {places : List (Value × Place)}
    {ts : List (α × Term)} (h : HoldsEach (shelf.HoldsBehind stands) places dice ts)
    (hn : dice.Nodup) (ht : ∀ t ∈ ts, t.2.IsThrowable) (draws : Draws) :
    ∃ shelf', throwEach throwIfRoll shelf draws (places.map (·.2))
        = ((shelf', (throwUpTo Term.throwNoted ts draws).1.2),
          (throwUpTo Term.throwNoted ts draws).2) ∧
      HoldsEach (shelf'.HoldsBehind stands) places dice
        (throwUpTo Term.throwNoted ts draws).1.1 ∧
      Reworks strict dice shelf shelf' := by
  refine throwEach_of_holds (fun shelf => shelf.HoldsBehind stands) (·.2) Term.throwNoted
    (fun t => t.2.IsThrowable) HoldsBehind.keep ?_ h hn ht draws
  intro shelf x dice t hx hn ht draws
  rcases throwTerm_of_holds hx.2 hn ht draws with ⟨shelf', hthrow, hh, hrework⟩
  exact ⟨shelf', hthrow, ⟨hx.1, hh⟩, hrework⟩

/-- Throwing held terms that are brief throws all of them, in front of what follows. -/
theorem throwTerms_of_holds {places : List (Value × Place)} {ts : List (Sign × Term)}
    (h : shelf.HoldsTerms places dice ts) (hn : dice.Nodup)
    (hr : ∀ r ∈ ts.filterMap fun p => p.2.roll?, r.IsThrowable)
    (hbrief : ∀ p ∈ ts, p.2.IsBrief) (draws : Draws) :
    ∃ shelf', throwEach throwIfRoll shelf draws (places.map (·.2))
        = ((shelf', (Expression.throwTerms ts draws).2), none) ∧
      shelf'.HoldsTerms places dice (Expression.throwTerms ts draws).1 ∧
      Reworks strict dice shelf shelf' := by
  rcases throwBehind_of_holds (holdsTerms_iff.mp h) hn
      (fun t ht r hr' => hr r (List.mem_filterMap.mpr ⟨t, ht, hr'⟩)) draws with
    ⟨shelf', hthrow, hh, hrework⟩
  rw [throwUpTo_eq_throwInTurn fun t ht => Term.throwNoted_of_isBrief t (hbrief t ht)] at hthrow hh
  rw [Expression.throwTerms_eq]
  exact ⟨shelf', hthrow, holdsTerms_iff.mpr hh, hrework⟩

/-- Throwing a held expression that is brief throws what is held. -/
theorem throwExpression_of_holds {e : Expression} (h : shelf.HoldsExpression place dice e)
    (hn : dice.Nodup) (hr : ∀ r ∈ e.rolls, r.IsThrowable) (hbrief : ∀ p ∈ e.terms, p.2.IsBrief)
    (levels : Nat) (draws : Draws) :
    ∃ shelf', throwWithin (levels + 1) place shelf draws = ((shelf', (e.throw draws).2), none) ∧
      shelf'.HoldsExpression place dice (e.throw draws).1 ∧ Reworks strict dice shelf shelf' := by
  rcases h with ⟨places, hc, hts⟩
  rcases throwTerms_of_holds hts hn hr hbrief draws with ⟨shelf', hthrow, hh, hrework⟩
  refine ⟨shelf', ?_, ⟨places, hrework.cell?_eq hc id, hh⟩, hrework⟩
  rw [throwWithin, hc]
  exact hthrow

/-- Throwing held expressions that are brief throws them one after the other. -/
theorem throwExpressions_of_holds {places : List Place} {es : List Expression}
    (h : shelf.HoldsExpressions places dice es) (hn : dice.Nodup)
    (hr : ∀ r ∈ es.flatMap Expression.rolls, r.IsThrowable)
    (hbrief : ∀ e ∈ es, ∀ p ∈ e.terms, p.2.IsBrief) (levels : Nat) (draws : Draws) :
    ∃ shelf', throwEach (throwWithin (levels + 1)) shelf draws places
        = ((shelf', (RollSet.throwExpressions es draws).2), none) ∧
      shelf'.HoldsExpressions places dice (RollSet.throwExpressions es draws).1 ∧
      Reworks strict dice shelf shelf' := by
  rcases throwEach_of_holds HoldsExpression id (fun e draws => (e.throw draws, none))
      (fun e => (∀ r ∈ e.rolls, r.IsThrowable) ∧ ∀ p ∈ e.terms, p.2.IsBrief) HoldsExpression.keep
      (fun he hn' hready => throwExpression_of_holds he hn' hready.1 hready.2 levels)
      (holdsExpressions_iff.mp h) hn (fun e he =>
        ⟨fun r hr' => hr r (List.mem_flatMap.mpr ⟨e, he, hr'⟩), hbrief e he⟩) draws with
    ⟨shelf', hthrow, hh, hrework⟩
  rw [throwUpTo_eq_throwInTurn fun e _ _ => rfl] at hthrow hh
  rw [List.map_id] at hthrow
  rw [RollSet.throwExpressions_eq]
  exact ⟨shelf', hthrow, holdsExpressions_iff.mpr hh, hrework⟩

/-- Throwing a held set that is brief throws what is held. It does not fail, and it takes the
    draws that the set takes. -/
theorem throw_of_holds {s : RollSet} (h : shelf.HoldsSet place dice s) (hn : dice.Nodup)
    (hs : s.IsThrowable) (hbrief : s.IsBrief) (draws : Draws) :
    ∃ shelf', shelf.throw place draws = ((shelf', (s.throw draws).2), none) ∧
      shelf'.HoldsSet place dice (s.throw draws).1 ∧ Reworks strict dice shelf shelf' := by
  rcases h with ⟨places, hc, hes⟩
  rcases throwExpressions_of_holds hes hn hs hbrief (shelf.cells.filter Cell.isHolder).size draws
    with ⟨shelf', hthrow, hh, hrework⟩
  refine ⟨shelf', ?_, ⟨places, hrework.cell?_eq hc id, hh⟩, hrework⟩
  rw [throw, levels, throwWithin, hc]
  exact hthrow

end Shelf

end DiceRoller
