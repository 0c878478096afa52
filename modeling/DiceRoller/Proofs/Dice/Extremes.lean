import DiceRoller.Proofs.Dice.Attainable
import DiceRoller.Proofs.Dice.Better
import DiceRoller.Proofs.Dice.Bounds
import Mathlib.Order.Bounds.Basic

/-!
# Throws at an end

A throw in which every die shows the greatest value of its kind, or every die the least. A set
finds out by asking its expressions, these ask their terms, and a roll asks its dice, whether
they count or not. A constant has no dice that could say no. So the answer is yes exactly if
each die of the set says yes, and a set without dice says yes as well.

Both ends are reached at once by dice that have one face, and by no others.

Where no roll stands behind a minus, a throw with all greatest values comes to the greatest
total. No other throw shows more on any die, and a roll is worth no less when its dice show no
less, whatever its selectors are.

## Main definitions

* `Die.ShowsGreatest`, `Die.ShowsLeast`: A die at an end of its values.
* `Expression.AddsRolls`: No roll stands behind a minus.
* `RollSet.ComesTo`: The total of one of the expressions.

## Theorems

* `DieSpec.isGreatest_greatest`: The greatest value of a kind stands on its faces, and no
  other one is above it.
* `DieSpec.isLeast_least`: The least value of a kind stands on its faces, and no other one
  is below it.
* `Die.showsGreatest_iff`: A die shows the greatest value of its kind exactly if that is
  what is on top.
* `Die.showsLeast_iff`: The same for the least value.
* `FacesForm.greatest_eq_least_iff`: The ends of a die that a notation names are the same
  exactly if it has one face.
* `Die.showsBoth_iff`: A die that a notation names is at both ends exactly if it has one
  face.
* `RollSet.mem_dice_iff`: The dice of a set are those of the rolls among its terms.
* `RollSet.all_show_iff`: A set asks its dice by asking its expressions, which ask their
  terms.
* `RollSet.isGreatest_iff`, `RollSet.isLeast_iff`: A set asks its dice.
* `RollSet.hasDice_iff`: A set has dice if one of its expressions has rolls, as no roll is
  without dice.
* `RollSet.exists_faces_of_mem_dice_throw`: A die of a notation that is thrown is of a
  kind that a notation names, and shows one of its values.
* `RollSet.dice_throw_ne_nil_iff`: A throw neither adds the first die nor takes the last
  one.
* `RollSet.hasDice_throw_iff`: A set that was read says behind a throw whether it has
  dice.
* `RollSet.isGreatest_throw_iff`: Behind a throw a set that was read says whether all its
  dice show the greatest values of their kinds.
* `RollSet.isLeast_throw_iff`: The same for the least values.
* `RollSet.showsBoth_throw_iff`: Dice at both ends have one face.
* `Roll.total_throw_le`: If no die of a throw shows more than any die of another, the
  other is worth no less.
* `Roll.total_mem_distribution`: A die of an ordinary roll shows a value of its kind
  behind a throw.
* `Term.worth_throw_le`: If no die of a thrown term shows more than any die of another
  throw, it is worth no more.
* `Term.worth_throw_le_of_isGreatest`: No throw is worth more than one that shows the
  greatest values.
* `Term.worth_throw_le_of_isLeast`: No throw is worth less than one that shows the least
  values.
* `forall₂_throwInTurn_twice`: A list thrown twice compares place by place if each thing
  does.
* `Expression.worth_throw_le`: Where no roll is taken off, an expression is worth no less
  if its terms are worth no less.
* `RollSet.exists_throw_getElem?`: The expression at a place of a thrown set is thrown
  with some of the draws.
* `RollSet.comesTo_worth`: A thrown set comes to what its expressions are worth.
* `RollSet.comesTo_greatest`, `RollSet.comesTo_least`: What a throw at an end comes to.
-/

namespace DiceRoller

/-- The die shows a value of its kind, and its kind has no greater one. -/
def Die.ShowsGreatest (d : Die) : Prop :=
  ∃ v, d.showing.value = some v ∧ IsGreatest {n | n ∈ d.spec.distribution} v

/-- The die shows a value of its kind, and its kind has no lesser one. -/
def Die.ShowsLeast (d : Die) : Prop :=
  ∃ v, d.showing.value = some v ∧ IsLeast {n | n ∈ d.spec.distribution} v

section Values

variable {kind : DieSpec} {d : Die}

/-- The greatest value of a kind stands on its faces, and no other one is above it. -/
theorem DieSpec.isGreatest_greatest (h : kind.distribution ≠ []) :
    IsGreatest {n | n ∈ kind.distribution} kind.greatest := by
  rcases hmax : kind.distribution.max? with _ | m
  · exact absurd (List.max?_eq_none_iff.mp hmax) h
  · rw [greatest, hmax]
    exact List.max?_eq_some_iff.mp hmax

/-- The least value of a kind stands on its faces, and no other one is below it. -/
theorem DieSpec.isLeast_least (h : kind.distribution ≠ []) :
    IsLeast {n | n ∈ kind.distribution} kind.least := by
  rcases hmin : kind.distribution.min? with _ | m
  · exact absurd (List.min?_eq_none_iff.mp hmin) h
  · rw [least, hmin]
    exact List.min?_eq_some_iff.mp hmin

/-- A die shows the greatest value of its kind exactly if that is what is on top. -/
theorem Die.showsGreatest_iff (h : d.spec.distribution ≠ []) :
    d.ShowsGreatest ↔ d.showing.value = some d.spec.greatest := by
  constructor
  · rintro ⟨v, hv, hend⟩
    rw [hv, hend.unique (DieSpec.isGreatest_greatest h)]
  · exact fun hv => ⟨_, hv, DieSpec.isGreatest_greatest h⟩

/-- The same for the least value. -/
theorem Die.showsLeast_iff (h : d.spec.distribution ≠ []) :
    d.ShowsLeast ↔ d.showing.value = some d.spec.least := by
  constructor
  · rintro ⟨v, hv, hend⟩
    rw [hv, hend.unique (DieSpec.isLeast_least h)]
  · exact fun hv => ⟨_, hv, DieSpec.isLeast_least h⟩

/-- The ends of a die that a notation names are the same exactly if it has one face. -/
theorem FacesForm.greatest_eq_least_iff {maxFaces : Nat} (f : FacesForm maxFaces) :
    f.value.greatest = f.value.least ↔ f.value.faces = 1 := by
  cases f with
  | numbered count hone hle hfew =>
      have hne : (DieSpec.plain count.value).distribution ≠ [] :=
        (numbered count hone hle hfew).distribution_ne_nil
      -- The ends of numbered faces are one and their number.
      have hhigh : IsGreatest {n | n ∈ (DieSpec.plain count.value).distribution}
          (count.value : Int) :=
        ⟨DieSpec.mem_plain_iff.mpr (by omega), fun v hv => (DieSpec.mem_plain_iff.mp hv).2⟩
      have hlow : IsLeast {n | n ∈ (DieSpec.plain count.value).distribution} 1 :=
        ⟨DieSpec.mem_plain_iff.mpr (by omega), fun v hv => (DieSpec.mem_plain_iff.mp hv).1⟩
      have hfaces : (DieSpec.plain count.value).faces = count.value := rfl
      rw [value, (DieSpec.isGreatest_greatest hne).unique hhigh,
        (DieSpec.isLeast_least hne).unique hlow, hfaces]
      omega
  | fate =>
      rw [value]
      decide

/-- A die that a notation names is at both ends exactly if it has one face. -/
theorem Die.showsBoth_iff {maxFaces : Nat} {f : FacesForm maxFaces} (hf : d.spec = f.value)
    {v : Int} (hv : d.showing.value = some v) (hface : v ∈ d.spec.distribution) :
    d.ShowsGreatest ∧ d.ShowsLeast ↔ d.spec.faces = 1 := by
  have hne := List.ne_nil_of_mem hface
  have hhigh := DieSpec.isGreatest_greatest hne
  have hlow := DieSpec.isLeast_least hne
  rw [showsGreatest_iff hne, showsLeast_iff hne, hv, Option.some.injEq, Option.some.injEq]
  have hone := f.greatest_eq_least_iff
  rw [← hf] at hone
  rw [← hone]
  constructor
  · exact fun h => h.1.symm.trans h.2
  · -- Between two ends that are the same there is no other value.
    intro hends
    have hle : v ≤ d.spec.greatest := hhigh.2 hface
    have hge : d.spec.least ≤ v := hlow.2 hface
    omega

end Values

namespace RollSet

variable {s : RollSet}

/-- The dice of a set are those of the rolls among its terms. -/
theorem mem_dice_iff {d : Die} :
    d ∈ s.dice ↔ ∃ e ∈ s.expressions, ∃ p ∈ e.terms, ∃ r, p.2.roll? = some r ∧ d ∈ r.dice := by
  simp only [dice, rolls, Expression.rolls, List.mem_flatMap, List.mem_filterMap]
  constructor
  · rintro ⟨r, ⟨e, he, p, hp, hr⟩, hd⟩
    exact ⟨e, he, p, hp, r, hr, hd⟩
  · rintro ⟨e, he, p, hp, r, hr, hd⟩
    exact ⟨r, ⟨e, he, p, hp, hr⟩, hd⟩

-- A set asks its dice by asking its expressions, which ask their terms. A constant says yes.
theorem all_show_iff (pick : DieSpec → Int) :
    (s.expressions.all fun e => e.terms.all fun p =>
      match p.2 with
      | .roll r => r.shown.all fun d => d.value == some (pick r.spec)
      | .constant _ => true) = true ↔
      ∀ d ∈ s.dice, d.showing.value = some (pick d.spec) := by
  simp only [List.all_eq_true]
  constructor
  · intro hall d hd
    rcases mem_dice_iff.mp hd with ⟨e, he, ⟨sign, t⟩, hp, r, hr, hd⟩
    -- The die belongs to a roll, and the term with that roll was asked.
    have hasked := hall e he _ hp
    cases t with
    | constant n => exact absurd hr (Option.some_ne_none r).symm
    | roll r' =>
        rw [Option.some.inj hr] at hasked
        rcases List.mem_map.mp hd with ⟨shown, hshown, rfl⟩
        exact beq_iff_eq.mp (List.all_eq_true.mp hasked shown hshown)
  · rintro hall e he ⟨sign, t⟩ hp
    cases t with
    | constant n => rfl
    | roll r =>
        refine List.all_eq_true.mpr fun d hd => beq_iff_eq.mpr ?_
        exact hall ⟨r.spec, d⟩ (mem_dice_iff.mpr ⟨e, he, _, hp, r, rfl, List.mem_map_of_mem hd⟩)

/-- All dice of a set show their greatest values if the set says so. -/
theorem isGreatest_iff :
    s.isGreatest = true ↔ ∀ d ∈ s.dice, d.showing.value = some d.spec.greatest :=
  all_show_iff DieSpec.greatest

/-- All dice of a set show their least values if the set says so. -/
theorem isLeast_iff : s.isLeast = true ↔ ∀ d ∈ s.dice, d.showing.value = some d.spec.least :=
  all_show_iff DieSpec.least

/-- A set has dice if one of its expressions has rolls, as no roll is without dice. -/
theorem hasDice_iff (h : ∀ r ∈ s.rolls, r.dice ≠ []) : s.hasDice = true ↔ s.dice ≠ [] := by
  -- The set only looks for a roll, not for a die.
  have hrolls : s.hasDice = true ↔ ∃ r, r ∈ s.rolls := by
    simp only [hasDice, rolls, List.any_eq_true, List.mem_flatMap, Bool.not_eq_true',
      List.isEmpty_eq_false_iff_exists_mem]
    constructor
    · rintro ⟨e, he, r, hr⟩
      exact ⟨r, e, he, hr⟩
    · rintro ⟨r, e, he, hr⟩
      exact ⟨e, he, r, hr⟩
  rw [hrolls, dice, Ne, List.flatMap_eq_nil_iff]
  constructor
  · rintro ⟨r, hr⟩ hnone
    exact h r hr (hnone r hr)
  · intro hsome
    refine List.exists_mem_of_ne_nil s.rolls fun hnil => hsome ?_
    rw [hnil]
    exact fun r hr => absurd hr List.not_mem_nil

section Read

variable {maxDice maxFaces : Nat} {text : Text} {draws : Draws}

/-- A die of a notation that is thrown is of a kind that a notation names, and shows one of
    its values. -/
theorem exists_faces_of_mem_dice_throw (h : read (.upTo maxDice maxFaces) text = .ok s) :
    ∀ d ∈ (s.throw draws).1.dice, ∃ (f : FacesForm maxFaces) (v : Int), d.spec = f.value ∧
      d.showing.value = some v ∧ v ∈ d.spec.distribution := by
  intro d hd
  rcases exists_form_of_read h with ⟨f, -, rfl⟩
  rcases List.mem_flatMap.mp hd with ⟨r, hr, hd⟩
  rcases exists_form_of_mem_rolls hr with ⟨g, draws', rfl⟩
  rcases List.mem_map.mp hd with ⟨shown, hshown, rfl⟩
  have hrolled := ((g.value.survive_throw g.faces.distribution_ne_nil draws').2 _ hshown).rolled
  rcases Option.isSome_iff_exists.mp hrolled with ⟨v, hv⟩
  refine ⟨g.faces, v, rfl, hv, ?_⟩
  exact (Roll.isSound_throw True g.value draws' shown hshown).value v hv

theorem dice_throw_ne_nil_iff (s : RollSet) (draws : Draws) :
    (s.throw draws).1.dice ≠ [] ↔ s.dice ≠ [] := by
  have hmap := s.map_spec_dice_throw draws
  rw [Ne, Ne, ← List.map_eq_nil_iff (f := Die.spec), hmap, List.map_eq_nil_iff]

/-- A set that was read says behind a throw whether it has dice. -/
theorem hasDice_throw_iff (h : read (.upTo maxDice maxFaces) text = .ok s) :
    (s.throw draws).1.hasDice = true ↔ s.dice ≠ [] := by
  rw [← s.dice_throw_ne_nil_iff draws]
  refine hasDice_iff fun r hr => ?_
  rcases exists_form_of_read h with ⟨f, -, rfl⟩
  rcases exists_form_of_mem_rolls hr with ⟨g, draws', rfl⟩
  -- A form asks for one die at least, and the throw keeps their number.
  have hquantity := g.value.quantity_throw draws'
  rw [g.quantity_value] at hquantity
  intro hnil
  rw [Roll.quantity, List.map_eq_nil_iff.mp hnil] at hquantity
  exact absurd g.one_le (by rw [← hquantity]; decide)

/-- Behind a throw a set that was read says whether all its dice show the greatest values of
    their kinds. -/
theorem isGreatest_throw_iff (h : read (.upTo maxDice maxFaces) text = .ok s) :
    (s.throw draws).1.isGreatest = true ↔ ∀ d ∈ (s.throw draws).1.dice, d.ShowsGreatest := by
  rw [isGreatest_iff]
  refine forall₂_congr fun d hd => ?_
  rcases exists_faces_of_mem_dice_throw h d hd with ⟨f, v, -, -, hface⟩
  exact (Die.showsGreatest_iff (List.ne_nil_of_mem hface)).symm

/-- The same for the least values. -/
theorem isLeast_throw_iff (h : read (.upTo maxDice maxFaces) text = .ok s) :
    (s.throw draws).1.isLeast = true ↔ ∀ d ∈ (s.throw draws).1.dice, d.ShowsLeast := by
  rw [isLeast_iff]
  refine forall₂_congr fun d hd => ?_
  rcases exists_faces_of_mem_dice_throw h d hd with ⟨f, v, -, -, hface⟩
  exact (Die.showsLeast_iff (List.ne_nil_of_mem hface)).symm

/-- The dice of a throw are at both ends exactly if each of them has one face. -/
theorem showsBoth_throw_iff (h : read (.upTo maxDice maxFaces) text = .ok s) :
    ((∀ d ∈ (s.throw draws).1.dice, d.ShowsGreatest) ∧
        ∀ d ∈ (s.throw draws).1.dice, d.ShowsLeast) ↔ ∀ d ∈ s.dice, d.spec.faces = 1 := by
  -- What a die is made of is the same before and behind the throw.
  have hmap := s.map_spec_dice_throw draws
  have hspec : (∀ d ∈ s.dice, d.spec.faces = 1) ↔
      ∀ d ∈ (s.throw draws).1.dice, d.spec.faces = 1 := by
    have hkinds : ∀ dice : List Die, (∀ k ∈ dice.map Die.spec, k.faces = 1) ↔
        ∀ d ∈ dice, d.spec.faces = 1 := fun _ => List.forall_mem_map
    rw [← hkinds, ← hmap, hkinds]
  rw [hspec, ← forall₂_and]
  refine forall₂_congr fun d hd => ?_
  rcases exists_faces_of_mem_dice_throw h d hd with ⟨f, v, hf, hv, hface⟩
  exact Die.showsBoth_iff hf hv hface

end Read

end RollSet

/-- No roll stands behind a minus. -/
def Expression.AddsRolls (e : Expression) : Prop := ∀ p ∈ e.terms, p.1 = .minus → p.2.roll? = none

section Comparison

variable {draws draws' : Draws}

/-- If no die of a throw shows more than any die of another, the other is worth no less. -/
theorem Roll.total_throw_le {r : Roll} (h : r.IsOrdinary)
    (hle : ∀ d ∈ (r.throw draws).1.shown, ∀ d' ∈ (r.throw draws').1.shown, d.total ≤ d'.total) :
    (r.throw draws).1.total ≤ (r.throw draws').1.total := by
  rcases exists_values h.throwable.distribution draws with ⟨v, hv, -⟩
  rcases exists_values h.throwable.distribution draws' with ⟨w, hw, -⟩
  -- It is enough to compare the throws die by die.
  refine hv.total_le hw h.throwable h.one_le (.refl v) ?_
  rw [← hv.map_total, ← hw.map_total, List.forall₂_map_left_iff, List.forall₂_map_right_iff]
  have hlen : (r.throw draws).1.shown.length = (r.throw draws').1.shown.length :=
    (r.quantity_throw draws).trans (r.quantity_throw draws').symm
  exact List.forall₂_iff_zip.mpr
    ⟨hlen, fun hab => hle _ (List.of_mem_zip hab).1 _ (List.of_mem_zip hab).2⟩

/-- A die of an ordinary roll shows a value of its kind behind a throw. -/
theorem Roll.total_mem_distribution {r : Roll} (h : r.IsOrdinary) {d : Showing}
    (hd : d ∈ (r.throw draws).1.shown) : d.total ∈ r.spec.distribution := by
  rcases exists_values h.throwable.distribution draws with ⟨v, hv, hfaces⟩
  refine hfaces d.total ?_
  rw [← hv.map_total]
  exact List.mem_map_of_mem hd

namespace Term

variable {t : Term}

/-- If no die of a thrown term shows more than any die of another throw, it is worth no more. -/
theorem worth_throw_le (h : t.IsOrdinary)
    (hle : ∀ d ∈ (t.throw draws).1.shown, ∀ d' ∈ (t.throw draws').1.shown, d.total ≤ d'.total) :
    (t.throw draws).1.worth ≤ (t.throw draws').1.worth := by
  cases t with
  | constant n => exact Int.le_refl n
  | roll r =>
      have htotal := r.total_throw_le (h r rfl) hle
      rw [Roll.total_eq_worth, Roll.total_eq_worth] at htotal
      exact htotal

/-- No throw is worth more than one that shows the greatest values. -/
theorem worth_throw_le_of_isGreatest (h : t.IsOrdinary)
    (hend : (t.throw draws').1.isGreatest = true) :
    (t.throw draws).1.worth ≤ (t.throw draws').1.worth := by
  refine worth_throw_le h fun d hd d' hd' => ?_
  cases t with
  | constant n => exact absurd hd List.not_mem_nil
  | roll r =>
      have hr := h r rfl
      have hvalue := beq_iff_eq.mp (List.all_eq_true.mp hend d' hd')
      -- The better throw shows the end of the values on every die.
      have htotal : d'.total = r.spec.greatest := by
        rw [Showing.total, hvalue]
        rfl
      rw [htotal]
      exact (DieSpec.isGreatest_greatest hr.throwable.distribution).2
        (Roll.total_mem_distribution hr hd)

/-- No throw is worth less than one that shows the least values. -/
theorem worth_throw_le_of_isLeast (h : t.IsOrdinary)
    (hend : (t.throw draws).1.isLeast = true) :
    (t.throw draws).1.worth ≤ (t.throw draws').1.worth := by
  refine worth_throw_le h fun d hd d' hd' => ?_
  cases t with
  | constant n => exact absurd hd List.not_mem_nil
  | roll r =>
      have hr := h r rfl
      have hvalue := beq_iff_eq.mp (List.all_eq_true.mp hend d hd)
      -- The lesser throw shows the end of the values on every die.
      have htotal : d.total = r.spec.least := by
        rw [Showing.total, hvalue]
        rfl
      rw [htotal]
      exact (DieSpec.isLeast_least hr.throwable.distribution).2
        (Roll.total_mem_distribution hr hd')

end Term

-- A list thrown twice compares place by place if each thing does.
theorem forall₂_throwInTurn_twice {α : Type} {throw : α → Draws → α × Draws} {R : α → α → Prop}
    {as : List α} (h : ∀ a ∈ as, ∀ draws draws', R (throw a draws).1 (throw a draws').1)
    (draws draws' : Draws) :
    List.Forall₂ R (throwInTurn throw as draws).1 (throwInTurn throw as draws').1 := by
  induction as generalizing draws draws' with
  | nil => exact .nil
  | cons a as ih =>
      rw [throwInTurn_cons, throwInTurn_cons]
      exact .cons (h a List.mem_cons_self draws draws')
        (ih (fun a' ha' => h a' (List.mem_cons_of_mem a ha')) _ _)

/-- Where no roll is taken off, an expression is worth no less if its terms are worth no less. -/
theorem Expression.worth_throw_le {e : Expression} (h : e.IsOrdinary) (hadds : e.AddsRolls)
    {P Q : Term → Prop}
    (hle : ∀ {t : Term} {draws draws'}, t.IsOrdinary → P (t.throw draws).1 →
      Q (t.throw draws').1 → (t.throw draws).1.worth ≤ (t.throw draws').1.worth)
    (hP : ∀ p ∈ (e.throw draws).1.terms, P p.2) (hQ : ∀ p ∈ (e.throw draws').1.terms, Q p.2) :
    (e.throw draws).1.worth ≤ (e.throw draws').1.worth := by
  have hterms : ∀ p ∈ e.terms, ∀ draws draws', P (p.2.throw draws).1 → Q (p.2.throw draws').1 →
      p.1.factor * (p.2.throw draws).1.worth ≤ p.1.factor * (p.2.throw draws').1.worth := by
    rintro ⟨sign, t⟩ hp draws draws' ht ht'
    rcases h.isSign _ hp with rfl | rfl
    · simp only [Sign.factor, Int.one_mul]
      exact hle (h.terms _ hp) ht ht'
    · -- Behind a minus there is a constant, which no throw changes.
      cases t with
      | constant n => exact Int.le_refl _
      | roll r => exact absurd (hadds _ hp rfl) (Option.some_ne_none r)
  rw [throw_eq] at hP hQ ⊢
  rw [throw_eq, worth, worth]
  refine List.Forall₂.sum_le_sum ?_
  rw [List.forall₂_map_left_iff, List.forall₂_map_right_iff]
  -- Both throws go through the same terms, with the same signs.
  have hboth : List.Forall₂
      (fun p p' => P p.2 → Q p'.2 → p.1.factor * p.2.worth ≤ p'.1.factor * p'.2.worth)
      (throwInTurn Term.throwBehind e.terms draws).1
      (throwInTurn Term.throwBehind e.terms draws').1 :=
    forall₂_throwInTurn_twice hterms draws draws'
  exact (forall₂_and_mem hboth).imp fun p p' hpp' => hpp'.1 (hP p hpp'.2.1) (hQ p' hpp'.2.2)

end Comparison

namespace RollSet

variable {s : RollSet} {i : Nat} {e : Expression} {draws : Draws}

/-- The expression at a place has a total. -/
def ComesTo (s : RollSet) (i : Nat) (t : Int) : Prop :=
  ∃ e, s.expressions[i]? = some e ∧ e.total = .ok t

/-- The expression at a place of a thrown set is thrown with some of the draws. -/
theorem exists_throw_getElem? (hi : s.expressions[i]? = some e) (draws : Draws) :
    ∃ draws', (s.throw draws).1.expressions[i]? = some (e.throw draws').1 := by
  rw [expressions_throw]
  rcases exists_getElem?_of_forall₂ (forall₂_thrown s.expressions draws) hi with
    ⟨_, hget, draws', rfl⟩
  exact ⟨draws', hget⟩

/-- A thrown set comes to what its expressions are worth. -/
theorem comesTo_worth (h : e.IsOrdinary) {draws' : Draws}
    (hi : (s.throw draws).1.expressions[i]? = some (e.throw draws').1) :
    (s.throw draws).1.ComesTo i (e.throw draws').1.worth := ⟨_, hi, Expression.total_throw h draws'⟩

/-- With all greatest values an expression that adds its rolls comes to its greatest total. -/
theorem comesTo_greatest (h : e.IsOrdinary) (hadds : e.AddsRolls)
    (hi : s.expressions[i]? = some e) (hend : (s.throw draws).1.isGreatest = true) :
    ∃ t, (s.throw draws).1.ComesTo i t ∧
      ∀ draws', ∃ t', (s.throw draws').1.ComesTo i t' ∧ t' ≤ t := by
  rcases exists_throw_getElem? hi draws with ⟨mine, hmine⟩
  -- All dice of the set show their greatest values, so those of this expression do.
  have hterms : ∀ p ∈ (e.throw mine).1.terms, p.2.isGreatest = true :=
    List.all_eq_true.mp (List.all_eq_true.mp hend _ (List.mem_of_getElem? hmine))
  refine ⟨_, comesTo_worth h hmine, fun draws' => ?_⟩
  rcases exists_throw_getElem? hi draws' with ⟨others, hothers⟩
  refine ⟨_, comesTo_worth h hothers, ?_⟩
  exact Expression.worth_throw_le (P := fun _ => True) (Q := fun t => t.isGreatest = true) h hadds
    (fun ht _ hend => Term.worth_throw_le_of_isGreatest ht hend) (fun _ _ => trivial) hterms

/-- With all least values it comes to its least total. -/
theorem comesTo_least (h : e.IsOrdinary) (hadds : e.AddsRolls)
    (hi : s.expressions[i]? = some e) (hend : (s.throw draws).1.isLeast = true) :
    ∃ t, (s.throw draws).1.ComesTo i t ∧
      ∀ draws', ∃ t', (s.throw draws').1.ComesTo i t' ∧ t ≤ t' := by
  rcases exists_throw_getElem? hi draws with ⟨mine, hmine⟩
  -- All dice of the set show their least values, so those of this expression do.
  have hterms : ∀ p ∈ (e.throw mine).1.terms, p.2.isLeast = true :=
    List.all_eq_true.mp (List.all_eq_true.mp hend _ (List.mem_of_getElem? hmine))
  refine ⟨_, comesTo_worth h hmine, fun draws' => ?_⟩
  rcases exists_throw_getElem? hi draws' with ⟨others, hothers⟩
  refine ⟨_, comesTo_worth h hothers, ?_⟩
  exact Expression.worth_throw_le (P := fun t => t.isLeast = true) (Q := fun _ => True) h hadds
    (fun ht hend _ => Term.worth_throw_le_of_isLeast ht hend) hterms (fun _ _ => trivial)

end RollSet

end DiceRoller
