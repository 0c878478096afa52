import DiceRoller.Proofs.Bench.Throwing

/-!
# Parts of held sets

Which places belong to a set that is held, and what becomes of the set when some of
its dice change.

A place is part of another if the way down leads to it. Below a held set that is the
set itself, its expressions, their rolls and constants, and the dice; the selectors of
a roll are not on the way. Dice lead nowhere, so whatever changes of dice alone leaves
the parts as they are.

A set some of whose dice changed is still a set of the same shape. Which one it is
depends on what the dice show now, but all that a notation says of it is as before.

## Main definitions

* `Shelf.IsPart`: A place at another or below it.
* `Shelf.IsNode`: What there is at and below a held set.

## Theorems

* `Shelf.exists_holdsTerm_of_mem`: One of some held terms is held with its own part of the
  dice.
* `Shelf.exists_holdsExpression_of_mem`: One of some held expressions is held with its own
  part of the dice.
* `Shelf.IsNode.below`: One step down from a part of a set leads to a part of it.
* `Shelf.isNode_of_isPart`: The parts of a held set.
* `Shelf.Reworks.children_eq`: A change of dice leaves the way down from a place as it is.
* `Shelf.Reworks.isPart`: Changing dice leaves the parts as they are.
* `Shelf.exists_forall₂_of_reworks`: After a change of dice, dice that lay at some places
  still lie there and can show what they show.
* `Shelf.exists_holdsRoll_of_reworks`: After a change of dice a roll has other things to
  show and is the same otherwise.
* `Shelf.exists_holdsTerms_of_reworks`: After a change of dice terms are the same but for
  what is shown.
* `Shelf.exists_holdsExpressions_of_reworks`: After a change of dice expressions are the
  same but for what is shown.
* `Shelf.exists_holdsSet_of_reworks`: Changing dice leaves a set of the same shape.
-/

namespace DiceRoller

namespace Shelf

/-- A place lies at another, or anywhere below it. -/
inductive IsPart (shelf : Shelf) (place : Place) : Place → Prop where
  | self : IsPart shelf place place
  | under {q r : Place} {places : List Place} (h : IsPart shelf place q)
      (hq : shelf.children q = .ok places) (hr : r ∈ places) : IsPart shelf place r

/-- What lies at a place is a set or some part of it. -/
inductive IsNode (shelf : Shelf) (dice : List Place) (s : RollSet) : Place → Prop where
  | whole {q : Place} (h : shelf.HoldsSet q dice s) : IsNode shelf dice s q
  | expression {q : Place} {ds : List Place} {e : Expression} (h : shelf.HoldsExpression q ds e)
      (hds : ds.Sublist dice) (he : e ∈ s.expressions) : IsNode shelf dice s q
  | roll {q : Place} {ds : List Place} {r : Roll} (h : shelf.HoldsRoll q ds r)
      (hds : ds.Sublist dice) (hr : r ∈ s.rolls) : IsNode shelf dice s q
  | constant {q : Place} {n : Int} (h : shelf.cell? q = some (.constant n)) : IsNode shelf dice s q
  | die {q : Place} {r : Roll} {d : Showing} (h : shelf.HoldsDie r.spec q d) (hq : q ∈ dice)
      (hr : r ∈ s.rolls) (hd : d ∈ r.shown) : IsNode shelf dice s q

section Parts

variable {strict : Prop} {shelf shelf' : Shelf} {place q : Place} {dice dice' : List Place}
  {s : RollSet}

/-- One of some held terms is held with its own part of the dice. -/
theorem exists_holdsTerm_of_mem {places : List (Value × Place)} {ts : List (Sign × Term)}
    (h : shelf.HoldsTerms places dice ts) (hq : q ∈ places.map (·.2)) :
    ∃ ds p, shelf.HoldsTerm q ds p.2 ∧ ds.Sublist dice ∧ p ∈ ts := by
  induction h with
  | nil => exact absurd hq List.not_mem_nil
  | cons _ ht _ ih =>
      rcases List.mem_cons.mp hq with rfl | hq
      · exact ⟨_, _, ht, List.sublist_append_left _ _, List.mem_cons_self⟩
      · rcases ih hq with ⟨ds, p, hp, hds, hmem⟩
        exact ⟨ds, p, hp, hds.trans (List.sublist_append_right _ _), List.mem_cons_of_mem _ hmem⟩

/-- One of some held expressions is held with its own part of the dice. -/
theorem exists_holdsExpression_of_mem {places : List Place} {es : List Expression}
    (h : shelf.HoldsExpressions places dice es) (hq : q ∈ places) :
    ∃ ds e, shelf.HoldsExpression q ds e ∧ ds.Sublist dice ∧ e ∈ es := by
  induction h with
  | nil => exact absurd hq List.not_mem_nil
  | cons he _ ih =>
      rcases List.mem_cons.mp hq with rfl | hq
      · exact ⟨_, _, he, List.sublist_append_left _ _, List.mem_cons_self⟩
      · rcases ih hq with ⟨ds, e, he, hds, hmem⟩
        exact ⟨ds, e, he, hds.trans (List.sublist_append_right _ _), List.mem_cons_of_mem _ hmem⟩

/-- One step down from a part of a set leads to a part of it. -/
theorem IsNode.below {r : Place} {places : List Place} (h : shelf.IsNode dice s q)
    (hq : shelf.children q = .ok places) (hr : r ∈ places) : shelf.IsNode dice s r := by
  cases h with
  | whole h =>
      rcases h with ⟨expressions, hc, hes⟩
      rw [children, hc] at hq
      cases hq
      rcases exists_holdsExpression_of_mem hes hr with ⟨ds, e, he, hds, hmem⟩
      exact .expression he hds hmem
  | expression h hds he =>
      rcases h with ⟨terms, hc, hts⟩
      rw [children, hc] at hq
      cases hq
      rcases exists_holdsTerm_of_mem hts hr with ⟨ds', ⟨sign, t⟩, ht, hds', hmem⟩
      cases ht with
      | roll ht =>
          exact .roll ht (hds'.trans hds) (List.mem_flatMap.mpr ⟨_, he,
            List.mem_filterMap.mpr ⟨_, hmem, rfl⟩⟩)
      | constant ht => exact .constant ht
  | roll h hds hroll =>
      rcases h.cell with ⟨selectors, hc, -⟩
      rw [children, hc] at hq
      cases hq
      -- Below a roll lie its dice, not its selectors.
      rcases exists_holdsDie_of_mem h.shown hr with ⟨d, hd, hdie⟩
      exact .die hdie (hds.subset hr) hroll hd
  | constant h =>
      rw [children, h] at hq
      cases hq
      exact absurd hr List.not_mem_nil
  | die h _ _ _ =>
      rw [children, h] at hq
      cases hq
      exact absurd hr List.not_mem_nil

/-- The parts of a held set are its nodes. -/
theorem isNode_of_isPart (h : shelf.HoldsSet place dice s) (hq : shelf.IsPart place q) :
    shelf.IsNode dice s q := by
  induction hq with
  | self => exact .whole h
  | under _ hc hr ih => exact ih.below hc hr

/-- A change of dice leaves the way down from a place as it is. -/
theorem Reworks.children_eq (h : Reworks strict dice shelf shelf') (q : Place) :
    shelf'.children q = shelf.children q := by
  rcases h q with heq | ⟨-, kind, d, d', hd, hd', -⟩
  · rw [children, heq, children]
  · rw [children, hd', children, hd]

/-- Changing dice leaves the parts as they are. -/
theorem Reworks.isPart (h : Reworks strict dice shelf shelf') (hq : shelf.IsPart place q) :
    shelf'.IsPart place q := by
  induction hq with
  | self => exact .self
  | under _ hc hr ih => exact .under ih ((h.children_eq _).trans hc) hr

end Parts

section Rebuilding

variable {strict : Prop} {shelf shelf' : Shelf} {place : Place} {dice dice' : List Place}

/-- After a change of dice, dice that lay at some places still lie there and can show what they
    show. -/
theorem exists_forall₂_of_reworks {kind : DieSpec} {shown : List Showing}
    (h : List.Forall₂ (shelf.HoldsDie kind) dice shown)
    (hrework : Reworks strict dice' shelf shelf')
    (hsound : ∀ d ∈ shown, d.IsSound strict kind) :
    ∃ shown', List.Forall₂ (shelf'.HoldsDie kind) dice shown' ∧
      ∀ d ∈ shown', d.IsSound strict kind := by
  induction h with
  | nil => exact ⟨[], .nil, fun d hd => absurd hd List.not_mem_nil⟩
  | @cons p d _ ds hd _ ih =>
      rcases ih fun d' hd' => hsound d' (List.mem_cons_of_mem d hd') with ⟨ds', hds', hsound'⟩
      -- The first die was changed or it was not, and then its kind is the same.
      have hfirst : ∃ d', shelf'.HoldsDie kind p d' ∧ d'.IsSound strict kind := by
        rcases hrework p with heq | ⟨-, kind', e, e', he, he', hesound⟩
        · exact ⟨d, heq.trans hd, hsound d List.mem_cons_self⟩
        · rw [he.kind_eq hd] at he' hesound
          exact ⟨e', he', hesound⟩
      rcases hfirst with ⟨d', hd', hdsound⟩
      refine ⟨d' :: ds', .cons hd' hds', fun x hx => ?_⟩
      rcases List.mem_cons.mp hx with rfl | hx
      · exact hdsound
      · exact hsound' x hx

/-- After a change of dice a roll has other things to show and is the same otherwise. -/
theorem exists_holdsRoll_of_reworks {r : Roll} (h : shelf.HoldsRoll place dice r)
    (hrework : Reworks strict dice' shelf shelf')
    (hsound : ∀ d ∈ r.shown, d.IsSound strict r.spec) :
    ∃ r', shelf'.HoldsRoll place dice r' ∧ r'.unthrown = r.unthrown ∧
      ∀ d ∈ r'.shown, d.IsSound strict r'.spec := by
  rcases h.cell with ⟨selectors, hc, hsel⟩
  rcases exists_forall₂_of_reworks h.shown hrework hsound with ⟨shown', hshown', hsound'⟩
  refine ⟨{ r with shown := shown' }, ⟨h.ne_nil, ⟨selectors, hrework.cell?_eq hc id,
    hsel.imp fun _ _ hs => hrework.cell?_eq hs id⟩, hshown'⟩, ?_, hsound'⟩
  -- As many dice lie at the places as before.
  have hlen : shown'.length = r.shown.length := by
    rw [← hshown'.length_eq, h.shown.length_eq]
  rw [Roll.unthrown, Roll.unthrown, Roll.quantity, Roll.quantity, hlen]

/-- After a change of dice terms are the same but for what is shown. -/
theorem exists_holdsTerms_of_reworks {places : List (Value × Place)} {ts : List (Sign × Term)}
    (h : shelf.HoldsTerms places dice ts) (hrework : Reworks strict dice' shelf shelf')
    (hsound : ∀ r ∈ ts.filterMap fun p => p.2.roll?, ∀ d ∈ r.shown, d.IsSound strict r.spec) :
    ∃ ts', shelf'.HoldsTerms places dice ts' ∧
      (ts'.map fun p => (p.1, p.2.unthrown)) = ts.map (fun p => (p.1, p.2.unthrown)) ∧
      ∀ r ∈ ts'.filterMap fun p => p.2.roll?, ∀ d ∈ r.shown, d.IsSound strict r.spec := by
  induction h with
  | nil => exact ⟨[], .nil, rfl, hsound⟩
  | @cons sign t _ _ _ _ ts hs ht _ ih =>
      cases ht with
      | @constant n hc =>
          rcases ih hsound with ⟨ts', hts', hshape, hsound'⟩
          have hconstant : shelf'.HoldsTerm _ [] (.constant n) :=
            .constant (hrework.cell?_eq hc id)
          refine ⟨(sign, .constant n) :: ts', .cons hs hconstant hts', ?_, hsound'⟩
          rw [List.map_cons, hshape, List.map_cons]
      | @roll _ r hroll =>
          rcases ih fun x hx => hsound x (List.mem_cons_of_mem r hx) with
            ⟨ts', hts', hshape, hsound'⟩
          rcases exists_holdsRoll_of_reworks hroll hrework (hsound r List.mem_cons_self) with
            ⟨r', hr', hshape', hrsound⟩
          refine ⟨(sign, .roll r') :: ts', .cons hs (.roll hr') hts', ?_, fun x hx => ?_⟩
          · rw [List.map_cons, hshape, List.map_cons, Term.unthrown, hshape', Term.unthrown]
          · rcases List.mem_cons.mp hx with rfl | hx
            · exact hrsound
            · exact hsound' x hx

/-- After a change of dice expressions are the same but for what is shown. -/
theorem exists_holdsExpressions_of_reworks {places : List Place} {es : List Expression}
    (h : shelf.HoldsExpressions places dice es) (hrework : Reworks strict dice' shelf shelf')
    (hsound : ∀ r ∈ es.flatMap Expression.rolls, ∀ d ∈ r.shown, d.IsSound strict r.spec) :
    ∃ es', shelf'.HoldsExpressions places dice es' ∧
      es'.map Expression.unthrown = es.map Expression.unthrown ∧
      ∀ r ∈ es'.flatMap Expression.rolls, ∀ d ∈ r.shown, d.IsSound strict r.spec := by
  induction h with
  | nil => exact ⟨[], .nil, rfl, hsound⟩
  | @cons e _ _ _ _ es he _ ih =>
      rw [List.flatMap_cons] at hsound
      rcases ih fun x hx => hsound x (List.mem_append_right _ hx) with ⟨es', hes', hshape, hsound'⟩
      rcases he with ⟨terms, hc, hts⟩
      rcases exists_holdsTerms_of_reworks hts hrework
        (fun x hx => hsound x (List.mem_append_left _ hx)) with ⟨ts', hts', hshape', htsound⟩
      refine ⟨⟨ts'⟩ :: es', .cons ⟨terms, hrework.cell?_eq hc id, hts'⟩ hes', ?_, fun x hx => ?_⟩
      · rw [List.map_cons, hshape, List.map_cons, Expression.unthrown, hshape', Expression.unthrown]
      · rw [List.flatMap_cons] at hx
        rcases List.mem_append.mp hx with hx | hx
        · exact htsound x hx
        · exact hsound' x hx

/-- Changing dice leaves a set of the same shape. -/
theorem exists_holdsSet_of_reworks {s : RollSet} (h : shelf.HoldsSet place dice s)
    (hrework : Reworks strict dice' shelf shelf') (hsound : s.IsSound strict) :
    ∃ s', shelf'.HoldsSet place dice s' ∧ s'.spec = s.spec ∧
      s'.expressions.map Expression.unthrown = s.expressions.map Expression.unthrown ∧
      s'.IsSound strict := by
  rcases h with ⟨places, hc, hes⟩
  rcases exists_holdsExpressions_of_reworks hes hrework hsound with ⟨es', hes', hshape, hsound'⟩
  exact ⟨⟨es', s.spec⟩, ⟨places, hrework.cell?_eq hc id, hes'⟩, rfl, hshape, hsound'⟩

end Rebuilding

end Shelf

end DiceRoller
