import DiceRoller.Bench.Likeness
import DiceRoller.Proofs.Bench.Throwing
import DiceRoller.Proofs.Display.Totals
import Mathlib.Tactic.Ring

/-!
# Telling of held sets

What is told of a place that holds a set is what is told of the set: how it is
displayed, its totals, and the key under which a collection files it. All of it is
found by following the places down, which takes three levels below a set, and a shelf
with a set on it allows as many.

Two places that hold sets of the same shape are equal, whatever their dice show. The
comparison goes down both trees at once, and it gives up where it comes back to a pair
of places that it is comparing already. It never does: on the way down the nodes get
lower, from a set to an expression, a roll and a selector.

## Main definitions

* `Cell.height`: How high a node stands in a tree.
* `Term.key`, `Expression.key`, `RollSet.key`: The keys of what a notation describes.

## Theorems

* `Roll.written_unthrown`: What dice show plays no part in how a roll is written.
* `Term.key_unthrown`: Nor in the key of a term.
* `Expression.key_unthrown`: Nor in that of an expression.
* `RollSet.key_eq_of_unthrown`: What dice show plays no part in the key.
* `Shelf.HoldsRoll.tellsIf_written`: A held roll is written if the numbers that are
  written are short.
* `Shelf.HoldsTerm.totalWithin`: What a held term is worth.
* `Shelf.HoldsTerm.keyWithin`: A held roll is filed if it can be written, and a held
  constant anyway.
* `Shelf.forall_isDisplayable_cons`: A term can be displayed with the others.
* `Shelf.HoldsTerms.tellsIf_renderTerms`: Behind the first term every sign is displayed.
* `Shelf.HoldsExpression.tellsIf_renderWithin`: A held expression is displayed if all of
  its terms can be.
* `Shelf.HoldsTerms.sumTerms`: Held terms are added up behind a number.
* `Shelf.HoldsExpression.totalWithin`: What a held expression is worth.
* `Shelf.HoldsTerms.mapM_keyWithin`: Held terms are filed by their keys, with their signs
  in front.
* `Shelf.HoldsExpression.keyWithin`: A held expression is filed by its key.
* `Shelf.HoldsExpressions.forall₂`: Expressions are held one by one.
* `Shelf.exists_levels_of_isHolder`: Where a node lies that holds others, three levels are
  allowed.
* `Shelf.HoldsSet.exists_levels`: Three levels are allowed below a held set.
* `Shelf.tellsIf_render`: A held set is displayed as what is held if all of its terms can
  be displayed.
* `Shelf.render_of_holds`, `Shelf.groupTotals_of_holds`, `Shelf.key_of_holds`: What is
  told of a held set.
* `Shelf.IsAbove.cons`: A node goes onto the way down if it is higher than what comes
  below.
* `Shelf.sameBelow_eq`: A lower node is not on the way.
* `Shelf.sameEach_eq`: Things that are equal one by one are equal.
* `Shelf.areAlike_map_int`: Whole numbers are like themselves.
* `Shelf.same_showing`: A die equals another of its kind, whatever both show.
* `Shelf.same_ofSelector`: A selector equals itself.
* `Shelf.sameWithin_of_holdsSelector`: So do two places that hold it.
* `Shelf.sameWithin_of_holdsRoll`: Held rolls that were the same before any throw are
  equal.
* `Shelf.sameBelow_of_holdsTerm`: Held terms that were the same before any throw are
  equal.
* `Shelf.forall₂_of_holdsTerms`: And so are such terms behind the same signs, one by one.
* `Shelf.sameBelow_of_holdsExpression`: Held expressions that were the same before any
  throw are equal.
* `Shelf.forall₂_of_holdsExpressions`: And so are such expressions, one by one.
* `Shelf.same_of_holds`: Held sets of the same shape are equal.
-/

namespace DiceRoller

/-- How high a node stands in a tree that was read. -/
def Cell.height : Cell → Nat
  | .rollSet _ _ => 3
  | .expression _ => 2
  | .roll _ _ => 1
  | _ => 0

/-- A constant is filed by its value, a roll by what is written for it. -/
def Term.key : Term → Bench.Key
  | .roll r => .written r.written
  | .constant n => .constant n

/-- An expression is filed by its signs and terms. -/
def Expression.key (e : Expression) : Bench.Key :=
  .terms (e.terms.map fun p => .text p.1.written) (e.terms.map fun p => p.2.key)

/-- A set is filed by its expressions. -/
def RollSet.key (s : RollSet) : Bench.Key := .expressions (s.expressions.map Expression.key)

theorem Roll.written_unthrown (r : Roll) : r.unthrown.written = r.written := by
  rw [written, quantity_unthrown]
  rfl

theorem Term.key_unthrown (t : Term) : t.unthrown.key = t.key := by
  cases t with
  | roll r => rw [unthrown, key, r.written_unthrown, key]
  | constant n => rfl

theorem Expression.key_unthrown (e : Expression) : e.unthrown.key = e.key := by
  rw [key, unthrown, List.map_map, List.map_map, key]
  simp only [Function.comp_def, Term.key_unthrown]

/-- What dice show plays no part in the key. -/
theorem RollSet.key_eq_of_unthrown {s t : RollSet}
    (h : s.expressions.map Expression.unthrown = t.expressions.map Expression.unthrown) :
    s.key = t.key := by
  have hkey : ∀ u : RollSet, u.expressions.map Expression.key
      = (u.expressions.map Expression.unthrown).map Expression.key := by
    intro u
    rw [List.map_map]
    exact List.map_congr_left fun e _ => e.key_unthrown.symm
  rw [key, key, hkey s, hkey t, h]

namespace Shelf

open Bench

section Telling

variable {shelf : Shelf} {place : Place} {dice : List Place}

/-- A held roll is written if the numbers that are written are short. -/
theorem HoldsRoll.tellsIf_written {r : Roll} (h : shelf.HoldsRoll place dice r) :
    TellsIf r.IsSpellable (shelf.written place) r.written := by
  rcases h.cell with ⟨selectors, hc, hsel⟩
  rw [Shelf.written, hc]
  exact tellsIf_rollText h.shown hsel h.ne_nil

/-- What a held term is worth. -/
theorem HoldsTerm.totalWithin {t : Term} (h : shelf.HoldsTerm place dice t) (levels : Nat) :
    shelf.totalWithin (levels + 1) place = .ok (.int t.worth) := by
  cases h with
  | roll h =>
      rcases h.cell with ⟨selectors, hc, -⟩
      rw [Shelf.totalWithin, hc]
      simp only [diceTotal_of_holds h.shown, Roll.total_eq_worth, Term.worth]
  | constant h =>
      rw [Shelf.totalWithin, h]
      rfl

/-- A held roll is filed if it can be written, and a held constant anyway. -/
theorem HoldsTerm.keyWithin {t : Term} (h : shelf.HoldsTerm place dice t) (hbrief : t.IsBrief)
    (levels : Nat) : shelf.keyWithin (levels + 1) place = .ok t.key := by
  cases h with
  | roll h =>
      rcases h.cell with ⟨selectors, hc, -⟩
      rw [Shelf.keyWithin, hc]
      exact (h.tellsIf_written.map Key.written).eq_ok (Roll.IsBrief.spellable hbrief)
  | constant h =>
      rw [Shelf.keyWithin, h]
      rfl

-- A term can be displayed with the others.
theorem forall_isDisplayable_cons {α : Type} (s : α) (t : Term) (ts : List (α × Term)) :
    (t.IsDisplayable ∧ ∀ p ∈ ts, p.2.IsDisplayable) ↔
      ∀ p ∈ (s, t) :: ts, p.2.IsDisplayable := by
  rw [List.forall_mem_cons]

/-- Behind the first term every sign is displayed. -/
theorem HoldsTerms.tellsIf_renderTerms {places : List (Value × Place)} {ts : List (Sign × Term)}
    (h : shelf.HoldsTerms places dice ts) (levels : Nat) :
    TellsIf (∀ p ∈ ts, p.2.IsDisplayable)
      (Shelf.renderTerms (shelf.renderWithin (levels + 1)) false places)
      (Signed.renderRest (ts.map fun p => (p.1, p.2.render))) := by
  induction h with
  | nil => exact .inl ⟨fun p hp => absurd hp List.not_mem_nil, rfl⟩
  | @cons s t _ _ _ _ ts _ ht _ ih =>
      rw [Shelf.renderTerms]
      exact ((ht.tellsIf_renderWithin levels).bind
        (ih.frame fun rest => s.written ++ t.render ++ rest)).congr
        (forall_isDisplayable_cons s t ts)

/-- A held expression is displayed if all of its terms can be. -/
theorem HoldsExpression.tellsIf_renderWithin {e : Expression}
    (h : shelf.HoldsExpression place dice e) (levels : Nat) :
    TellsIf (∀ p ∈ e.terms, p.2.IsDisplayable) (shelf.renderWithin (levels + 2) place)
      e.render := by
  rcases e with ⟨ts⟩
  rcases h with ⟨places, hc, hts⟩
  rw [Shelf.renderWithin, hc, Expression.render]
  simp only at hts ⊢
  cases hts with
  | nil => exact .inl ⟨fun p hp => absurd hp List.not_mem_nil, rfl⟩
  | @cons s t _ _ _ _ ts hs ht hts =>
      -- A plus is left out in front of the first term.
      have hrest := hts.tellsIf_renderTerms levels
      have hboth := forall_isDisplayable_cons s t ts
      rw [Shelf.renderTerms]
      rcases hs with rfl | rfl
      · exact ((ht.tellsIf_renderWithin levels).bind
          (hrest.frame fun rest => t.render ++ rest)).congr hboth
      · exact ((ht.tellsIf_renderWithin levels).bind
          (hrest.frame fun rest => ['-'] ++ t.render ++ rest)).congr hboth

/-- Held terms are added up behind a number. -/
theorem HoldsTerms.sumTerms {places : List (Value × Place)} {ts : List (Sign × Term)}
    (h : shelf.HoldsTerms places dice ts) (levels : Nat) (n : Int) :
    Shelf.sumTerms (shelf.totalWithin (levels + 1)) (.int n) places
      = .ok (.int (n + (ts.map fun p => p.1.factor * p.2.worth).sum)) := by
  induction h generalizing n with
  | nil => rw [Shelf.sumTerms, List.map_nil, List.sum_nil, Int.add_zero]
  | cons hs ht _ ih =>
      -- A plus adds the term, and a minus takes it away.
      rcases hs with rfl | rfl
      · rw [Sign.written, Shelf.sumTerms, ht.totalWithin levels]
        simp only [bind, Except.bind, plus, Value.plus_int, Except.mapError, ih, List.map_cons,
          List.sum_cons, Sign.factor]
        congr 2
        omega
      · rw [Sign.written, Shelf.sumTerms, ht.totalWithin levels]
        simp only [bind, Except.bind, minus, Value.minus_int, Except.mapError, ih, List.map_cons,
          List.sum_cons, Sign.factor]
        congr 2
        omega

/-- What a held expression is worth. -/
theorem HoldsExpression.totalWithin {e : Expression} (h : shelf.HoldsExpression place dice e)
    (levels : Nat) : shelf.totalWithin (levels + 2) place = .ok (.int e.worth) := by
  rcases h with ⟨places, hc, hts⟩
  rw [Shelf.totalWithin, hc]
  simp only [hts.sumTerms levels, Int.zero_add]
  rfl

/-- Held terms are filed by their keys, with their signs in front. -/
theorem HoldsTerms.mapM_keyWithin {places : List (Value × Place)} {ts : List (Sign × Term)}
    (h : shelf.HoldsTerms places dice ts) (hbrief : ∀ p ∈ ts, p.2.IsBrief) (levels : Nat) :
    (places.mapM fun t => do
        keyed t.1
        shelf.keyWithin (levels + 1) t.2) = .ok (ts.map fun p => p.2.key) ∧
      places.map (·.1) = ts.map fun p => .text p.1.written := by
  induction h with
  | nil => exact ⟨rfl, rfl⟩
  | cons _ ht _ ih =>
      rcases List.forall_mem_cons.mp hbrief with ⟨hfirst, hrest⟩
      refine ⟨?_, by rw [List.map_cons, (ih hrest).2, List.map_cons]⟩
      rw [List.mapM_cons, (ih hrest).1, ht.keyWithin hfirst levels]
      rfl

/-- A held expression is filed by its key. -/
theorem HoldsExpression.keyWithin {e : Expression} (h : shelf.HoldsExpression place dice e)
    (hbrief : ∀ p ∈ e.terms, p.2.IsBrief) (levels : Nat) :
    shelf.keyWithin (levels + 2) place = .ok e.key := by
  rcases h with ⟨places, hc, hts⟩
  rcases hts.mapM_keyWithin hbrief levels with ⟨hkeys, hsigns⟩
  rw [Shelf.keyWithin, hc]
  simp only [hkeys, hsigns]
  rfl

theorem HoldsExpressions.forall₂ {places : List Place} {es : List Expression}
    (h : shelf.HoldsExpressions places dice es) :
    List.Forall₂ (fun p e => ∃ dice, shelf.HoldsExpression p dice e) places es :=
  (holdsExpressions_iff.mp h).forall₂

/-- Where a node lies that holds others, three levels are allowed. -/
theorem exists_levels_of_isHolder {c : Cell} (hc : shelf.cell? place = some c)
    (h : c.isHolder = true) : ∃ n, shelf.levels = n + 3 := by
  have hpos : 0 < (shelf.cells.filter Cell.isHolder).size := by
    refine Array.size_pos_iff.mpr fun hnil => ?_
    have hmem := Array.mem_of_getElem? hc
    exact absurd h (Array.filter_eq_empty_iff.mp hnil _ hmem)
  refine ⟨(shelf.cells.filter Cell.isHolder).size - 1, ?_⟩
  rw [Shelf.levels]
  omega

theorem HoldsSet.exists_levels {s : RollSet} (h : shelf.HoldsSet place dice s) :
    ∃ n, shelf.levels = n + 3 := by
  rcases h with ⟨places, hc, -⟩
  exact exists_levels_of_isHolder hc rfl

/-- A held set is displayed as what is held if all of its terms can be displayed. -/
theorem tellsIf_render {s : RollSet} (h : shelf.HoldsSet place dice s) :
    TellsIf (∀ e ∈ s.expressions, ∀ p ∈ e.terms, p.2.IsDisplayable) (shelf.render place)
      s.render := by
  rcases h.exists_levels with ⟨n, hn⟩
  rcases h with ⟨places, hc, hes⟩
  rw [render, hn, Shelf.renderWithin, hc]
  refine TellsIf.frame ?_ (Text.join [';', ' '])
  exact TellsIf.mapM (hes.forall₂.imp fun _ _ he => he.elim fun _ he => he.tellsIf_renderWithin n)

/-- Of a brief set whatever its dice can show is displayed. -/
theorem render_of_holds {strict : Prop} {s : RollSet} (h : shelf.HoldsSet place dice s)
    (hbrief : s.IsBrief) (hsound : s.IsSound strict) : shelf.render place = .ok s.render := by
  refine (tellsIf_render h).eq_ok fun e he p hp => ?_
  have hshown : ∀ r, p.2.roll? = some r → ∀ d ∈ r.shown, d.IsSound strict r.spec := fun r hr =>
    hsound r (List.mem_flatMap.mpr ⟨e, he, List.mem_filterMap.mpr ⟨p, hp, hr⟩⟩)
  exact (hbrief e he p hp).isDisplayable hshown

/-- The totals of a held set are those of its expressions. -/
theorem groupTotals_of_holds {s : RollSet} (h : shelf.HoldsSet place dice s) :
    shelf.groupTotals place = .ok (s.expressions.map fun e => .int e.worth) := by
  rcases h.exists_levels with ⟨n, hn⟩
  rcases h with ⟨places, hc, hes⟩
  rw [groupTotals, hc]
  refine mapM_eq_ok_iff.mpr (List.forall₂_map_right_iff.mpr
    (hes.forall₂.imp fun p e he => he.elim fun _ he => ?_))
  rw [total, hn]
  exact he.totalWithin (n + 1)

/-- A brief set that is held is filed by its key. -/
theorem key_of_holds {s : RollSet} (h : shelf.HoldsSet place dice s) (hbrief : s.IsBrief) :
    shelf.key place = .ok s.key := by
  rcases h.exists_levels with ⟨n, hn⟩
  rcases h with ⟨places, hc, hes⟩
  have hkeys : places.mapM (shelf.keyWithin (n + 2)) = .ok (s.expressions.map Expression.key) :=
    mapM_eq_ok_iff.mpr (List.forall₂_map_right_iff.mpr
      ((forall₂_and_mem hes.forall₂).imp fun _ e he => he.1.elim fun _ hheld =>
        hheld.keyWithin (hbrief e he.2.2) n))
  rw [key, hn, Shelf.keyWithin, hc]
  simp only [hkeys]
  rfl

end Telling

/-- Equality one step further down, where a node is like itself and a pair on the way is
    not looked into again. -/
def sameBelow (shelf : Shelf) (levels : Nat) (way : List (Place × Place)) (a b : Place) :
    Except Bench.Fault Bool :=
  if a = b then .ok true
  else if way.contains (a, b) then .error .endless
  else shelf.sameWithin levels ((a, b) :: way) a b

/-- All nodes on the way down are higher than some height. -/
def IsAbove (shelf : Shelf) (height : Nat) (way : List (Place × Place)) : Prop :=
  ∀ x ∈ way, ∃ c, shelf.cell? x.1 = some c ∧ height < c.height

section Likeness

variable {shelf : Shelf} {p q : Place} {dice dice' : List Place} {way : List (Place × Place)}

/-- A node goes onto the way down if it is higher than what comes below. -/
theorem IsAbove.cons {height height' : Nat} {c : Cell} (h : shelf.IsAbove height way)
    (hc : shelf.cell? p = some c) (hle : height' ≤ height) (hlt : height' < c.height) :
    shelf.IsAbove height' ((p, q) :: way) := by
  intro x hx
  rcases List.mem_cons.mp hx with rfl | hx
  · exact ⟨c, hc, hlt⟩
  · rcases h x hx with ⟨d, hd, hheight⟩
    exact ⟨d, hd, by omega⟩

/-- A lower node is not on the way. -/
theorem sameBelow_eq {c : Cell} (h : shelf.IsAbove c.height way) (hc : shelf.cell? p = some c)
    {levels : Nat} (hsame : shelf.sameWithin levels ((p, q) :: way) p q = .ok true) :
    shelf.sameBelow levels way p q = .ok true := by
  rw [sameBelow]
  split
  · rfl
  · have hnot : ¬ way.contains (p, q) = true := by
      intro hmem
      rcases h _ (List.contains_iff_mem.mp hmem) with ⟨d, hd, hlt⟩
      rw [hc] at hd
      rw [Option.some.inj hd] at hlt
      omega
    rw [if_neg hnot, hsame]

/-- Things that are equal one by one are equal. -/
theorem sameEach_eq {α : Type} {same : α → α → Except Bench.Fault Bool} {as bs : List α}
    (h : List.Forall₂ (fun a b => same a b = .ok true) as bs) : sameEach same as bs = .ok true := by
  induction h with
  | nil => rfl
  | cons hab _ ih =>
      rw [sameEach, hab]
      exact ih

/-- Whole numbers are like themselves. -/
theorem areAlike_map_int (ns : List Int) :
    Value.areAlike (ns.map Value.int) (ns.map Value.int) = true := by
  induction ns with
  | nil => rfl
  | cons n ns ih =>
      rw [List.map_cons, Value.areAlike, ih, Value.alike, beq_self_eq_true, Bool.and_self]

/-- A die equals another of its kind, whatever both show. -/
theorem same_showing (kind : DieSpec) (s s' : Showing) :
    ((LooseDie.ofKind kind).showing s).same ((LooseDie.ofKind kind).showing s') = true := by
  rw [LooseDie.same, Bool.and_eq_true]
  refine ⟨?_, areAlike_map_int kind.distribution⟩
  exact (Value.same_int _ _).trans (beq_self_eq_true _)

/-- A selector equals itself. -/
theorem same_ofSelector (s : Selector) :
    (LooseSelector.ofSelector s).same (.ofSelector s) = true := by
  have hnum : (Value.int s.num).alike (.int s.num) = true := by
    rw [Value.alike, beq_self_eq_true]
  rcases s with ⟨keep, high, num⟩
  rw [LooseSelector.same, Bool.and_eq_true]
  refine ⟨?_, hnum⟩
  cases keep <;> cases high <;> rfl

theorem sameWithin_of_holdsSelector {s : Selector} (h : shelf.HoldsSelector p s)
    (h' : shelf.HoldsSelector q s) (levels : Nat) :
    shelf.sameWithin (levels + 1) way p q = .ok true := by
  rw [sameWithin, h, h']
  exact congrArg Except.ok (same_ofSelector s)

/-- Held rolls that were the same before any throw are equal. -/
theorem sameWithin_of_holdsRoll {r r' : Roll} (h : shelf.HoldsRoll p dice r)
    (h' : shelf.HoldsRoll q dice' r') (hr : r.unthrown = r'.unthrown) (levels : Nat)
    (hway : shelf.IsAbove 0 way) : shelf.sameWithin (levels + 2) way p q = .ok true := by
  rcases Roll.eq_of_unthrown hr with ⟨hspec, hselectors, hquantity⟩
  rcases h.cell with ⟨selectors, hc, hsel⟩
  rcases h'.cell with ⟨selectors', hc', hsel'⟩
  -- The first die of each roll stands for all of them.
  have hdice : shelf.sameDice dice dice' = true := by
    rw [sameDice, diceAt_of_holds h.shown, diceAt_of_holds h'.shown, h.shown.length_eq,
      h'.shown.length_eq]
    rw [Roll.quantity, Roll.quantity] at hquantity
    rw [hquantity, beq_self_eq_true, Bool.true_and, ← hspec]
    have hne := h.ne_nil
    have hlen := h.shown.length_eq
    cases hs : r.shown with
    | nil =>
        rw [hs, List.length_nil] at hlen
        exact absurd (List.length_eq_zero_iff.mp hlen) hne
    | cons d ds =>
        cases hs' : r'.shown with
        | nil =>
            rw [hs, hs'] at hquantity
            cases hquantity
        | cons d' ds' => exact same_showing r.spec d d'
  rw [← hselectors] at hsel'
  -- The selectors are the same ones, and lie below the roll.
  have hboth : List.Forall₂ (fun a b => shelf.sameBelow (levels + 1) way a b = .ok true)
      selectors selectors' := by
    refine List.forall₂_iff_get.mpr ⟨by rw [hsel.length_eq, hsel'.length_eq], fun i hi hi' => ?_⟩
    have hs := hsel.get hi (by rw [← hsel.length_eq]; exact hi)
    have hs' := hsel'.get hi' (by rw [← hsel.length_eq]; exact hi)
    exact sameBelow_eq hway hs (sameWithin_of_holdsSelector hs hs' levels)
  rw [sameWithin, hc, hc']
  simp only [hdice, if_true]
  exact sameEach_eq hboth

/-- Held terms that were the same before any throw are equal. -/
theorem sameBelow_of_holdsTerm {t t' : Term} (h : shelf.HoldsTerm p dice t)
    (h' : shelf.HoldsTerm q dice' t') (ht : t.unthrown = t'.unthrown) (levels : Nat)
    (hway : shelf.IsAbove 1 way) : shelf.sameBelow (levels + 2) way p q = .ok true := by
  cases h with
  | @roll _ r h =>
      cases h' with
      | @roll _ r' h' =>
          rcases h.cell with ⟨selectors, hc, -⟩
          exact sameBelow_eq hway hc (sameWithin_of_holdsRoll h h' (Term.roll.inj ht) levels
            (hway.cons hc (Nat.zero_le 1) Nat.zero_lt_one))
      | constant h' => cases ht
  | @constant n h =>
      cases h' with
      | roll h' => cases ht
      | @constant n' h' =>
          refine sameBelow_eq (fun x hx => ?_) h ?_
          · rcases hway x hx with ⟨c, hc, hlt⟩
            exact ⟨c, hc, Nat.zero_lt_of_lt hlt⟩
          · rw [sameWithin, h, h', Term.constant.inj ht]
            simp only [beq_self_eq_true]

/-- Held terms that were the same before any throw are equal one by one, behind the same signs.
    -/
theorem forall₂_of_holdsTerms {places places' : List (Value × Place)} {ts ts' : List (Sign × Term)}
    (h : shelf.HoldsTerms places dice ts) (h' : shelf.HoldsTerms places' dice' ts')
    (hts : (ts.map fun p => (p.1, p.2.unthrown)) = ts'.map fun p => (p.1, p.2.unthrown))
    (levels : Nat) (hway : shelf.IsAbove 1 way) :
    List.Forall₂ (fun a b => (if a.1.alike b.1 then shelf.sameBelow (levels + 2) way a.2 b.2
      else .ok false) = .ok true) places places' := by
  induction h generalizing places' dice' ts' with
  | nil =>
      cases h' with
      | nil => exact .nil
      | cons => cases hts
  | cons _ ht _ ih =>
      cases h' with
      | nil => cases hts
      | cons _ ht' hrest' =>
          rcases List.cons.inj hts with ⟨hfirst, hrest⟩
          rcases Prod.mk.inj hfirst with ⟨hsign, hterm⟩
          refine .cons ?_ (ih hrest' hrest)
          have halike : ∀ t : Text, (Value.text t).alike (.text t) = true := by
            intro t
            rw [Value.alike, beq_self_eq_true]
          simp only at hsign
          rw [hsign, if_pos (halike _)]
          exact sameBelow_of_holdsTerm ht ht' hterm levels hway

/-- Held expressions that were the same before any throw are equal. -/
theorem sameBelow_of_holdsExpression {e e' : Expression} (h : shelf.HoldsExpression p dice e)
    (h' : shelf.HoldsExpression q dice' e') (he : e.unthrown = e'.unthrown) (levels : Nat)
    (hway : shelf.IsAbove 2 way) : shelf.sameBelow (levels + 3) way p q = .ok true := by
  rcases h with ⟨places, hc, hts⟩
  rcases h' with ⟨places', hc', hts'⟩
  refine sameBelow_eq hway hc ?_
  have hway' : shelf.IsAbove 1 ((p, q) :: way) := hway.cons hc (Nat.le_succ 1) Nat.one_lt_two
  have hboth := forall₂_of_holdsTerms hts hts' (Expression.mk.inj he) levels hway'
  rw [sameWithin, hc, hc']
  simp only [hboth.length_eq, if_true]
  exact sameEach_eq hboth

/-- Held expressions that were the same before any throw are equal one by one. -/
theorem forall₂_of_holdsExpressions {places places' : List Place} {es es' : List Expression}
    (h : shelf.HoldsExpressions places dice es) (h' : shelf.HoldsExpressions places' dice' es')
    (hes : es.map Expression.unthrown = es'.map Expression.unthrown) (levels : Nat)
    (hway : shelf.IsAbove 2 way) :
    List.Forall₂ (fun a b => shelf.sameBelow (levels + 3) way a b = .ok true) places places' := by
  induction h generalizing places' dice' es' with
  | nil =>
      cases h' with
      | nil => exact .nil
      | cons => cases hes
  | cons he _ ih =>
      cases h' with
      | nil => cases hes
      | cons he' hrest' =>
          rcases List.cons.inj hes with ⟨hfirst, hrest⟩
          exact .cons (sameBelow_of_holdsExpression he he' hfirst levels hway) (ih hrest' hrest)

/-- Places that hold sets of the same shape are equal, whatever their dice show. -/
theorem same_of_holds {s s' : RollSet} (h : shelf.HoldsSet p dice s)
    (h' : shelf.HoldsSet q dice' s')
    (hs : s.expressions.map Expression.unthrown = s'.expressions.map Expression.unthrown) :
    shelf.same p q = .ok true := by
  rcases h.exists_levels with ⟨n, hn⟩
  rcases h with ⟨places, hc, hes⟩
  rcases h' with ⟨places', hc', hes'⟩
  -- A comparison may go as deep as there are pairs of levels, and needs four.
  have hfuel : ∃ m, shelf.levels * shelf.levels = m + 4 := by
    rw [hn]
    exact ⟨n * n + 6 * n + 5, by ring⟩
  rcases hfuel with ⟨m, hm⟩
  have hway : shelf.IsAbove 2 [(p, q)] := by
    intro x hx
    rw [List.mem_singleton.mp hx]
    exact ⟨_, hc, Nat.lt_succ_self 2⟩
  have hboth := forall₂_of_holdsExpressions hes hes' hs m hway
  rw [same, hm, sameWithin, hc, hc']
  simp only [hboth.length_eq, if_true]
  exact sameEach_eq hboth

end Likeness

end Shelf

end DiceRoller
