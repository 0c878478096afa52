import DiceRoller.Proofs.Dice.Evaluation
import DiceRoller.Proofs.Grammar.RoundTrip

/-!
# What a die can show

A die shows one of its own values or none yet, and it either counts or is struck out.
Every operation keeps it so, whatever was done before: a throw takes a value off the
faces and lets the die count, striking out and taking back set the marks as a whole,
and a value that stands on no face is refused. Only where marks are set by hand they
can be anything, so what is said of them is said of dice on which none were.

A notation promises more of its rolls: their dice have values, and their selectors
select something. That is all a throw needs, so `IsThrowable` is kept apart from what
the dice show. A throw never looks at the values and marks that it replaces.

## Main definitions

* `Showing.IsSound`: What a die of a kind can show.
* `Roll.IsThrowable`, `RollSet.IsThrowable`: A roll and a set that can be thrown.
* `RollSet.IsSound`: A set all dice of which show what they can show.

## Theorems

* `Showing.IsSound.unthrown`: A die without a value shows nothing wrong.
* `Showing.IsSound.keep`: A die stays sound when it is taken back.
* `Showing.IsSound.drop`: It stays sound when it is struck out.
* `Showing.IsSound.setValue`: A value of its kind may be put on top of a die.
* `Showing.IsSound.mark`: Marks may be set by hand where nothing is said of them.
* `Showing.IsSound.isDropped_eq`: A die counts or is struck out, and not both.
* `Showing.isSound_throw`: A throw puts a value of its kind on top of a die and lets it
  count.
* `Selector.isSound_narrowed`: A selector strikes dice out, and changes nothing else.
* `Roll.isSound_throwAll`: Dice that are thrown one after the other show what they can
  show.
* `Roll.isSound_narrow`: Selectors keep it so.
* `Roll.isSound_throw`: The dice of a roll after a throw, whatever they showed before.
* `Roll.isSome_throwAll`: A throw leaves no die without a value.
* `Roll.eq_of_unthrown`: Rolls that are the same before a throw agree in all but what
  their dice show.
* `Expression.rolls_unthrown`: Taking the values back does so roll by roll.
* `RollSet.IsThrowable.of_shape`: Whether a set can be thrown is a matter of its shape.
* `RollSet.isSound_throw`: The dice of a set after a throw show what they can show.
* `RollForm.isThrowable_value`: The rolls that a notation names can be thrown.
* `RollSet.standing_of_read`: How a set stands that was read.
-/

namespace DiceRoller

/-- A die of a kind shows one of its values, or none yet. Unless marks may have been set
    by hand it carries one of the two marks. -/
structure Showing.IsSound (strict : Prop) (kind : DieSpec) (d : Showing) : Prop where
  value : ∀ v, d.value = some v → v ∈ kind.distribution
  flags : strict → d.flags = 1 ∨ d.flags = 2

namespace Showing.IsSound

variable {strict : Prop} {kind : DieSpec} {d : Showing}

theorem unthrown (strict : Prop) (kind : DieSpec) : IsSound strict kind {} :=
  ⟨fun _ h => absurd h (Option.some_ne_none _).symm, fun _ => Or.inl rfl⟩

theorem keep (h : d.IsSound strict kind) : d.keep.IsSound strict kind :=
  ⟨h.value, fun _ => Or.inl rfl⟩

theorem drop (h : d.IsSound strict kind) : d.drop.IsSound strict kind :=
  ⟨h.value, fun _ => Or.inr rfl⟩

theorem setValue (h : d.IsSound strict kind) {v : Option Int}
    (hv : ∀ n, v = some n → n ∈ kind.distribution) :
    IsSound strict kind { d with value := v } :=
  ⟨hv, h.flags⟩

theorem mark (h : d.IsSound strict kind) (hstrict : ¬ strict) (n : Int) :
    IsSound strict kind { d with flags := n } :=
  ⟨h.value, fun hs => absurd hs hstrict⟩

/-- A die counts or is struck out, and not both. -/
theorem isDropped_eq (h : d.IsSound True kind) : d.isDropped = !d.isKept := by
  rcases h.flags trivial with hf | hf
  · rw [isDropped, isKept, hf]
    rfl
  · rw [isDropped, isKept, hf]
    rfl

end Showing.IsSound

/-- A throw puts a value of its kind on top of a die and lets it count. -/
theorem Showing.isSound_throw (strict : Prop) (kind : DieSpec) (draws : Draws) :
    (Showing.throw kind draws).1.IsSound strict kind :=
  ⟨fun _ h => List.mem_of_getElem? h, fun _ => Or.inl rfl⟩

/-- A selector strikes dice out, and changes nothing else. -/
theorem Selector.isSound_narrowed {strict : Prop} {kind : DieSpec} {s : Selector}
    {dice dice' : List Showing} (h : ∀ d ∈ dice, d.IsSound strict kind)
    (hs : s.narrowed? dice = some dice') : ∀ d ∈ dice', d.IsSound strict kind := by
  rw [narrowed?] at hs
  rcases Option.map_eq_some_iff.mp hs with ⟨positions, -, rfl⟩
  intro d hd
  rcases List.mem_map.mp hd with ⟨p, hp, rfl⟩
  have hmem := h p.1 (List.mem_of_getElem? (List.mem_zipIdx_iff_getElem?.mp hp))
  split
  · exact hmem.drop
  · exact hmem

/-- The dice of a roll have values, and its selectors select something. -/
structure Roll.IsThrowable (r : Roll) : Prop where
  distribution : r.spec.distribution ≠ []
  selectors : ∀ s ∈ r.selectors, 1 ≤ s.num

namespace Roll

/-- Dice that are thrown one after the other show what they can show. -/
theorem isSound_throwAll (strict : Prop) (kind : DieSpec) (n : Nat) (draws : Draws) :
    ∀ d ∈ (throwAll kind n draws).1, d.IsSound strict kind := by
  induction n generalizing draws with
  | zero => exact fun d hd => absurd hd List.not_mem_nil
  | succ n ih =>
      intro d hd
      rcases List.mem_cons.mp hd with rfl | hd
      · exact Showing.isSound_throw strict kind draws
      · exact ih _ d hd

/-- Selectors keep it so. -/
theorem isSound_narrow {strict : Prop} {kind : DieSpec} {dice : List Showing}
    (ss : List Selector) (h : ∀ d ∈ dice, d.IsSound strict kind) :
    ∀ d ∈ narrow ss dice, d.IsSound strict kind := by
  induction ss generalizing dice with
  | nil => exact h
  | cons s ss ih =>
      refine ih ?_
      change ∀ d ∈ s.narrow dice, d.IsSound strict kind
      -- A selector that cannot line the dice up leaves them.
      rcases hs : s.narrowed? dice with _ | dice'
      · rw [Selector.narrow, hs]
        exact h
      · rw [Selector.narrow, hs]
        exact Selector.isSound_narrowed h hs

/-- The dice of a roll after a throw show what they can show, whatever it was before. -/
theorem isSound_throw (strict : Prop) (r : Roll) (draws : Draws) :
    ∀ d ∈ (r.throw draws).1.shown, d.IsSound strict r.spec :=
  isSound_narrow r.selectors (isSound_throwAll strict r.spec _ draws)

/-- A throw leaves no die without a value. -/
theorem isSome_throwAll {kind : DieSpec} (h : kind.distribution ≠ []) (n : Nat) (draws : Draws) :
    ∀ d ∈ (throwAll kind n draws).1, d.value.isSome := by
  -- What the dice show is what falls on faces, and there are faces.
  rw [throwAll_eq]
  intro d hd
  rcases List.mem_map.mp hd with ⟨v, hv, rfl⟩
  exact isSome_of_mem_falls (fun s hs => (List.mem_replicate.mp hs).2 ▸ h) hv

end Roll

/-- Every roll of the set can be thrown. -/
def RollSet.IsThrowable (s : RollSet) : Prop := ∀ r ∈ s.rolls, r.IsThrowable

/-- Every die of the set shows what it can show. -/
def RollSet.IsSound (strict : Prop) (s : RollSet) : Prop :=
  ∀ r ∈ s.rolls, ∀ d ∈ r.shown, d.IsSound strict r.spec

/-- Rolls that are the same before a throw agree in all but what their dice show. -/
theorem Roll.eq_of_unthrown {r r' : Roll} (h : r.unthrown = r'.unthrown) :
    r.spec = r'.spec ∧ r.selectors = r'.selectors ∧ r.quantity = r'.quantity := by
  have hspec := congrArg Roll.spec h
  have hselectors := congrArg Roll.selectors h
  have hquantity := congrArg Roll.quantity h
  rw [quantity_unthrown, quantity_unthrown] at hquantity
  exact ⟨hspec, hselectors, hquantity⟩

/-- Taking the values back does so roll by roll. -/
theorem Expression.rolls_unthrown (e : Expression) :
    e.unthrown.rolls = e.rolls.map Roll.unthrown := by
  rw [rolls, rolls, unthrown, List.filterMap_map, List.map_filterMap]
  congr 1
  funext p
  rcases p with ⟨s, r | n⟩
  · rfl
  · rfl

/-- Whether a set can be thrown is a matter of its shape. -/
theorem RollSet.IsThrowable.of_shape {s t : RollSet} (h : s.IsThrowable)
    (hshape : t.expressions.map Expression.unthrown = s.expressions.map Expression.unthrown) :
    t.IsThrowable := by
  -- The rolls without their values can be had from the shape.
  have hrolls : ∀ u : RollSet, u.rolls.map Roll.unthrown
      = (u.expressions.map Expression.unthrown).flatMap Expression.rolls := by
    intro u
    rw [rolls, List.map_flatMap, List.flatMap_map]
    simp only [Expression.rolls_unthrown]
  intro r hr
  have hmem : r.unthrown ∈ s.rolls.map Roll.unthrown := by
    rw [hrolls s, ← hshape, ← hrolls t]
    exact List.mem_map_of_mem hr
  rcases List.mem_map.mp hmem with ⟨r', hr', heq⟩
  rcases Roll.eq_of_unthrown heq with ⟨hspec, hselectors, -⟩
  have hthrowable := h r' hr'
  exact ⟨hspec ▸ hthrowable.distribution, hselectors ▸ hthrowable.selectors⟩

/-- The dice of a set after a throw show what they can show. -/
theorem RollSet.isSound_throw (strict : Prop) (s : RollSet) (draws : Draws) :
    (s.throw draws).1.IsSound strict := by
  intro r hr
  have hrolls : (s.throw draws).1.rolls = (Roll.throwAllOf s.rolls draws).1 :=
    congrArg Prod.fst (s.rolls_throw draws)
  rw [hrolls] at hr
  rcases Roll.mem_throwAllOf hr with ⟨r', -, draws', rfl⟩
  exact Roll.isSound_throw strict r' draws'

/-- The rolls that a notation names can be thrown. -/
theorem RollForm.isThrowable_value {maxDice maxFaces : Nat} (f : RollForm maxDice maxFaces) :
    f.value.IsThrowable := by
  refine ⟨f.faces.distribution_ne_nil, fun s hs => ?_⟩
  rcases List.mem_map.mp hs with ⟨g, -, rfl⟩
  exact g.one_le

/-- How a set stands that was read. It can be thrown, but was not thrown yet. Its signs
    are signs, and none of its rolls is without dice. -/
theorem RollSet.standing_of_read {maxDice maxFaces : Nat} {text : Text} {s : RollSet}
    (h : RollSet.read (.upTo maxDice maxFaces) text = .ok s) :
    s.IsThrowable ∧ s.IsSound True ∧
      s.expressions.map Expression.unthrown = s.expressions ∧
      (∀ e ∈ s.expressions, ∀ p ∈ e.terms, p.1 = .plus ∨ p.1 = .minus) ∧
      ∀ e ∈ s.expressions, ∀ p ∈ e.terms, ∀ r, p.2 = .roll r → r.shown ≠ [] := by
  rcases RollSet.exists_form_of_read h with ⟨f, -, rfl⟩
  refine ⟨fun r hr => ?_, fun r hr d hd => ?_, f.unthrown_expressions, fun e he p hp => ?_,
    fun e he p hp r hr => ?_⟩
  · rw [f.rolls_expressions] at hr
    rcases List.mem_map.mp hr with ⟨g, -, rfl⟩
    exact g.isThrowable_value
  · rw [f.rolls_expressions] at hr
    rcases List.mem_map.mp hr with ⟨g, -, rfl⟩
    -- Reading leaves every die of a roll unthrown.
    rw [(List.mem_replicate.mp hd).2]
    exact .unthrown True _
  · rcases List.mem_map.mp he with ⟨g, -, rfl⟩
    exact g.isSign_value p hp
  · rcases List.mem_map.mp he with ⟨g, -, rfl⟩
    rcases ExpressionForm.exists_form_of_mem_terms hp with ⟨k, hk⟩
    cases k with
    | constant k =>
        rw [hr] at hk
        cases hk
    | roll k =>
        rw [hr] at hk
        rw [Term.roll.inj hk]
        intro hnil
        -- A form asks for one die at least.
        have hone := k.one_le
        rw [← k.quantity_value, Roll.quantity, hnil, List.length_nil] at hone
        omega

end DiceRoller
