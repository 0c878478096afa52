import DiceRoller.Proofs.Dice.Throws
import DiceRoller.Proofs.Grammar.Acceptance
import Mathlib.Algebra.Module.Submodule.Lattice
import Mathlib.Data.List.Permutation

/-!
# What a notation comes to

Reading, throwing and adding up, one behind the other. A text that is read has a
form, and the rolls of the form, from left to right, are those of the set. The set
takes as many draws as these have dice, the dice show what their draws select, the
selectors of each roll leave what the rule leaves, and each expression is worth the
signed sum of its constants and of the dice that were left.

Two properties of a form carry this over to every text. Its dice have values, so
none of them is still unthrown behind a throw and no selector is passed over; and
the signs in front of its terms are signs, so every expression adds up.

## Main definitions

* `NotationForm.rolls`, `NotationForm.quantity`: The rolls of a form and the number
  of their dice.
* `Roll.worth`, `Expression.worth`: What is left of a roll and of an expression,
  added up by positions and by factors.
* `Expression.IsSettled`: An expression behind a throw.

## Theorems

* `Roll.map_total_active`: The values of the dice that count are those at the positions
  that count.
* `Roll.total_eq_worth`, `Expression.total_eq_worth`: The totals are these sums.
* `Term.total_eq_worth`: The total of a term is what it is worth.
* `Signed.totalFrom_eq`: Added up one by one, terms behind signs come to the sum with
  their factors.
* `RollSet.totals_eq_worth`: Expressions that add up have their totals in order.
* `FacesForm.distribution_ne_nil`: The faces of a form are values that can be shown.
* `TermForm.roll?_value`: A term is a roll if its form is one.
* `ExpressionForm.rolls_value`: The rolls of an expression are those of its form, in
  order.
* `NotationForm.rolls_expressions`: The rolls of what a notation means are those of its
  form, from left to right.
* `NotationForm.quantity_expressions`: So the notation says how many dice there are.
* `RollSet.exists_form_of_mem_rolls`: Each roll behind a throw is a roll of a form,
  thrown.
* `RollSet.isSettled_throw`: A throw settles what a form means.
* `RollSet.shows_draw`: Each die shows its own draw.
* `RollSet.evaluate_read`: What a notation comes to.
* `RollSet.evaluate_read_better_of_two`: Of two dice that show one and four the better one
  counts, and one is taken off.
-/

namespace DiceRoller

-- By what a sign multiplies the term behind it. A text that is no sign has no place
-- in the sum.
def Sign.factor : Sign → Int
  | .plus => 1
  | .minus => -1
  | .other _ => 0

/-- The values at the positions that count, added up. -/
def Roll.worth (r : Roll) : Int :=
  ((Selector.counting r.shown).map fun i => (r.shown.map Showing.total).getD i 0).sum

/-- A constant is worth itself, a roll what is left of it. -/
def Term.worth : Term → Int
  | .roll r => r.worth
  | .constant n => n

/-- The signed sum of what the terms are worth. -/
def Expression.worth (e : Expression) : Int :=
  (e.terms.map fun p => p.1.factor * p.2.worth).sum

/-- The values of the dice that count are those at the positions that count. -/
theorem Roll.map_total_active (r : Roll) :
    r.active.map Showing.total
      = (Selector.counting r.shown).map fun i => (r.shown.map Showing.total).getD i 0 := by
  -- Both lists run over the candidates of a selector, which hold dice and positions.
  have hactive : r.active = (Selector.candidates r.shown).map Prod.fst := by
    have h := List.filter_map (f := Prod.fst) (p := Showing.isKept) (l := r.shown.zipIdx)
    rw [List.zipIdx_map_fst] at h
    exact h
  have hvalue : ∀ p ∈ Selector.candidates r.shown,
      (r.shown.map Showing.total).getD p.2 0 = p.1.total := by
    intro p hp
    have hget := List.mem_zipIdx_iff_getElem?.mp (List.mem_filter.mp hp).1
    rw [List.getD_eq_getElem?_getD, List.getElem?_map, hget]
    rfl
  rw [hactive, ← Selector.map_snd_candidates, List.map_map, List.map_map]
  exact List.map_congr_left fun p hp => (hvalue p hp).symm

theorem Roll.total_eq_worth (r : Roll) : r.total = r.worth :=
  congrArg List.sum r.map_total_active

theorem Term.total_eq_worth (t : Term) : t.total = t.worth := by
  cases t with
  | roll r => exact r.total_eq_worth
  | constant n => rfl

/-- Added up one by one, terms behind signs come to the sum with their factors. -/
theorem Signed.totalFrom_eq {ε : Type} (unknown : Text → ε) (start : Int)
    {parts : List (Sign × Term)} (h : ∀ p ∈ parts, p.1 = .plus ∨ p.1 = .minus) :
    totalFrom unknown start (parts.map fun p => (p.1, .ok p.2.total))
      = .ok (start + (parts.map fun p => p.1.factor * p.2.worth).sum) := by
  induction parts generalizing start with
  | nil => rw [List.map_nil, totalFrom, List.map_nil, List.sum_nil, Int.add_zero]
  | cons p parts ih =>
      rcases p with ⟨sign, t⟩
      have hrest := fun start => ih start fun q hq => h q (List.mem_cons_of_mem _ hq)
      -- The sum so far takes the first part with its sign.
      rcases h (sign, t) List.mem_cons_self with rfl | rfl
      · simp only [List.map_cons, totalFrom, bind, Except.bind, hrest, List.sum_cons,
          Sign.factor, t.total_eq_worth]
        congr 1
        omega
      · simp only [List.map_cons, totalFrom, bind, Except.bind, hrest, List.sum_cons,
          Sign.factor, t.total_eq_worth]
        congr 1
        omega

/-- An expression whose signs are signs has its worth as its total. -/
theorem Expression.total_eq_worth {e : Expression}
    (h : ∀ p ∈ e.terms, p.1 = .plus ∨ p.1 = .minus) : e.total = .ok e.worth := by
  rw [total, Signed.total, Signed.totalFrom_eq id 0 h, Int.zero_add, worth]

/-- Expressions that add up have their totals in order. -/
theorem RollSet.totals_eq_worth {s : RollSet}
    (h : ∀ e ∈ s.expressions, ∀ p ∈ e.terms, p.1 = .plus ∨ p.1 = .minus) :
    s.totals = .ok (s.expressions.map Expression.worth) := by
  rw [totals]
  -- The induction is on the expressions alone, not on the set that holds them.
  generalize s.expressions = es at h
  induction es with
  | nil => rfl
  | cons e es ih =>
      have hrest := ih fun e' he' => h e' (List.mem_cons_of_mem e he')
      rw [List.mapM_cons, Expression.total_eq_worth (h e List.mem_cons_self), hrest]
      rfl

/-- The faces of a form are values that can be shown. -/
theorem FacesForm.distribution_ne_nil {maxFaces : Nat} (f : FacesForm maxFaces) :
    f.value.distribution ≠ [] := by
  cases f with
  | numbered count hone _ _ =>
      -- Counted faces begin with one, so there is at least one of them.
      intro h
      have hlen := congrArg List.length h
      simp only [value, DieSpec.plain, List.length_map, List.length_range, List.length_nil] at hlen
      omega
  | fate => exact List.cons_ne_nil _ _

-- The roll of a term, if the term is one.
def TermForm.roll? {maxDice maxFaces : Nat} :
    TermForm maxDice maxFaces → Option (RollForm maxDice maxFaces)
  | roll r => some r
  | constant _ => none

/-- A term is a roll if its form is one. -/
theorem TermForm.roll?_value {maxDice maxFaces : Nat} (f : TermForm maxDice maxFaces) :
    f.value.roll? = f.roll?.map RollForm.value := by
  cases f with
  | roll r => rfl
  | constant n => rfl

/-- The rolls of an expression, in order. -/
def ExpressionForm.rolls {maxDice maxFaces : Nat} (f : ExpressionForm maxDice maxFaces) :
    List (RollForm maxDice maxFaces) :=
  (f.first :: f.more.map Prod.snd).filterMap TermForm.roll?

/-- The rolls of an expression are those of its form, in order. -/
theorem ExpressionForm.rolls_value {maxDice maxFaces : Nat} (f : ExpressionForm maxDice maxFaces) :
    f.value.rolls = f.rolls.map RollForm.value := by
  -- Signs aside, the terms are those of the form one by one.
  have hterms : f.value.terms.map Prod.snd
      = (f.first :: f.more.map Prod.snd).map TermForm.value := by
    rw [List.map_cons, List.map_map, value, List.map_cons, moreValue, List.map_map]
    rfl
  have hroll : (Option.map RollForm.value ∘ TermForm.roll?)
      = (Term.roll? ∘ TermForm.value : TermForm maxDice maxFaces → Option Roll) := by
    funext g
    exact g.roll?_value.symm
  rw [rolls, List.map_filterMap]
  change f.value.terms.filterMap (Term.roll? ∘ Prod.snd)
    = List.filterMap (Option.map RollForm.value ∘ TermForm.roll?) _
  rw [← List.filterMap_map, hterms, hroll, List.filterMap_map]

namespace NotationForm

variable {maxDice maxFaces : Nat}

/-- The rolls of a notation, from left to right. -/
def rolls (f : NotationForm maxDice maxFaces) : List (RollForm maxDice maxFaces) :=
  f.forms.flatMap ExpressionForm.rolls

/-- The number of dice of a notation, the quantities of its rolls together. -/
def quantity (f : NotationForm maxDice maxFaces) : Nat :=
  (f.rolls.map fun r => r.quantity.value).sum

/-- The rolls of what a notation means are those of its form, from left to right. -/
theorem rolls_expressions (f : NotationForm maxDice maxFaces) (spec : Option Text) :
    RollSet.rolls ⟨f.expressions, spec⟩ = f.rolls.map RollForm.value := by
  rw [RollSet.rolls, expressions, List.flatMap_map, rolls, List.map_flatMap]
  congr 1
  funext g
  exact g.rolls_value

theorem quantity_expressions (f : NotationForm maxDice maxFaces) (spec : Option Text) :
    RollSet.quantity ⟨f.expressions, spec⟩ = f.quantity := by
  rw [RollSet.quantity, f.rolls_expressions, List.map_map, quantity]
  congr 1
  exact List.map_congr_left fun r _ => r.quantity_value

end NotationForm

/-- A term behind a throw: dice, each of them settled, or a constant that a notation
    can say. -/
def Term.IsSettled : Term → Prop
  | .roll r => r.shown ≠ [] ∧ ∀ d ∈ r.shown, d.IsSettled
  | .constant n => 0 ≤ n

/-- An expression behind a throw. -/
structure Expression.IsSettled (e : Expression) : Prop where
  ne_nil : e.terms ≠ []
  isSign : ∀ p ∈ e.terms, p.1 = .plus ∨ p.1 = .minus
  terms : ∀ p ∈ e.terms, p.2.IsSettled

namespace RollSet

/-- Each roll behind a throw is a roll of a form, thrown. -/
theorem exists_form_of_mem_rolls {maxDice maxFaces : Nat} {f : NotationForm maxDice maxFaces}
    {spec : Option Text} {draws : Draws} {t : Roll}
    (h : t ∈ ((⟨f.expressions, spec⟩ : RollSet).throw draws).1.rolls) :
    ∃ (g : RollForm maxDice maxFaces) (draws' : Draws), t = (g.value.throw draws').1 := by
  have hrolls := congrArg Prod.fst (rolls_throw ⟨f.expressions, spec⟩ draws)
  rw [f.rolls_expressions] at hrolls
  have hmem : t ∈ (Roll.throwAllOf (f.rolls.map RollForm.value) draws).1 := by
    rw [← hrolls]
    exact h
  rcases Roll.mem_throwAllOf hmem with ⟨r, hr, draws', ht⟩
  rcases List.mem_map.mp hr with ⟨g, -, rfl⟩
  exact ⟨g, draws', ht⟩

/-- A throw settles what a form means. -/
theorem isSettled_throw {maxDice maxFaces : Nat} (f : NotationForm maxDice maxFaces)
    (spec : Option Text) (draws : Draws) :
    ∀ e ∈ ((⟨f.expressions, spec⟩ : RollSet).throw draws).1.expressions, e.IsSettled := by
  intro e he
  have hunthrown := unthrown_throw ⟨f.expressions, spec⟩ draws
  rw [f.unthrown_expressions] at hunthrown
  -- Before the throw the expression was that of a form.
  have hform : ∃ g : ExpressionForm maxDice maxFaces, e.unthrown = g.value := by
    have hmem : e.unthrown ∈ f.expressions := by
      rw [← hunthrown]
      exact List.mem_map_of_mem he
    rcases List.mem_map.mp hmem with ⟨g, -, hg⟩
    exact ⟨g, hg.symm⟩
  rcases hform with ⟨g, hg⟩
  have hterm : ∀ p ∈ e.terms, (p.1, p.2.unthrown) ∈ g.value.terms := by
    intro p hp
    rw [← hg]
    exact List.mem_map_of_mem hp
  -- Signs are those of the form; rolls were thrown, and constants stayed as they were.
  refine ⟨?_, fun p hp => g.isSign_value (p.1, p.2.unthrown) (hterm p hp),
    fun p hp => ?_⟩
  · -- A form has a first term, so the thrown expression has one.
    intro hnil
    have hlen := congrArg (fun e => e.terms.length) hg
    simp only [Expression.unthrown, hnil, List.map_nil, List.length_nil, ExpressionForm.value,
      List.length_cons] at hlen
    omega
  · rcases p with ⟨sign, r | n⟩
    · have hmem : r ∈ ((⟨f.expressions, spec⟩ : RollSet).throw draws).1.rolls :=
        List.mem_flatMap.mpr ⟨e, he, List.mem_filterMap.mpr ⟨_, hp, rfl⟩⟩
      rcases exists_form_of_mem_rolls hmem with ⟨k, draws', rfl⟩
      refine ⟨fun hnil => ?_, (Roll.survive_throw k.value k.faces.distribution_ne_nil draws').2⟩
      -- A form asks for one die at least, and the throw keeps their number.
      have hquantity := k.value.quantity_throw draws'
      rw [k.quantity_value, Roll.quantity, hnil, List.length_nil] at hquantity
      have hone := k.one_le
      omega
    · rcases ExpressionForm.exists_form_of_mem_terms (hterm _ hp) with ⟨k, hk⟩
      -- A throw leaves a constant, and that of a form is a natural number.
      cases k with
      | roll k => exact absurd hk (by simp only [Term.unthrown, TermForm.value, reduceCtorEq,
          not_false_eq_true])
      | constant k =>
          rw [Term.IsSettled, Term.constant.inj hk]
          exact Int.natCast_nonneg _

/-- The die at a position shows what the draw at that position selects. -/
theorem shows_draw {maxDice maxFaces : Nat} (f : NotationForm maxDice maxFaces)
    (spec : Option Text) (draws : Draws) {i : Nat} (hi : i < f.quantity) :
    ∃ (d : Die) (v : Int), ((⟨f.expressions, spec⟩ : RollSet).throw draws).1.dice[i]? = some d ∧
      d.showing.value = some v ∧
      d.spec.distribution[draws.stream (draws.taken + i) % d.spec.distribution.length]?
        = some v := by
  rw [← f.quantity_expressions spec, ← length_dice_throw _ draws] at hi
  have hget := List.getElem?_eq_getElem hi
  generalize ((⟨f.expressions, spec⟩ : RollSet).throw draws).1.dice[i] = d at hget
  -- No die is unthrown, for each belongs to a thrown roll.
  have hrolled : d.showing.value.isSome := by
    rcases List.mem_flatMap.mp (List.mem_of_getElem? hget) with ⟨r, hr, hd⟩
    rcases List.mem_map.mp hd with ⟨shown, hshown, rfl⟩
    rcases exists_form_of_mem_rolls hr with ⟨g, draws', rfl⟩
    exact ((Roll.survive_throw g.value g.faces.distribution_ne_nil draws').2 shown hshown).rolled
  rcases Option.isSome_iff_exists.mp hrolled with ⟨v, hv⟩
  have hfalls := congrArg (·[i]?) (falls_throw ⟨f.expressions, spec⟩ draws)
  simp only [List.getElem?_map, getElem?_falls, hget, Option.map_some, Option.some.injEq]
    at hfalls
  exact ⟨d, v, hget, hv, hfalls.symm.trans hv⟩

/-- What a notation comes to. A text that is read has a form. Its dice, from left to
    right, take one draw each and nothing else does; each shows what its draw selects
    of its own values. The dice of a roll that count are those that survive its
    selectors. The totals are the signed sums of the constants and of these dice. -/
theorem evaluate_read (dice faces : Option ℕ+) (text : Text) (s : RollSet) (draws : Draws)
    (h : RollSet.read (.ofBounds dice faces) text = .ok s) :
    ∃ f : NotationForm (Limits.bound dice) (Limits.bound faces),
      f.text = text ∧ s.expressions = f.expressions ∧
      (s.throw draws).2 = draws.skip f.quantity ∧
      (s.throw draws).1.expressions.map Expression.unthrown = f.expressions ∧
      (∀ i, i < f.quantity → ∃ (d : Die) (v : Int),
        (s.throw draws).1.dice[i]? = some d ∧ d.showing.value = some v ∧
        d.spec.distribution[draws.stream (draws.taken + i) % d.spec.distribution.length]?
          = some v) ∧
      (∀ r ∈ (s.throw draws).1.rolls, ∀ left,
        Survive (r.shown.map Showing.total) r.selectors (List.range r.quantity) left ↔
          left = Selector.counting r.shown) ∧
      (s.throw draws).1.totals = .ok ((s.throw draws).1.expressions.map Expression.worth) := by
  rw [Limits.ofBounds_eq_upTo] at h
  rcases exists_form_of_read h with ⟨f, hf, rfl⟩
  refine ⟨f, hf, rfl, ?_, ?_, ?_, ?_, ?_⟩
  · rw [throw_snd, f.quantity_expressions]
  · rw [unthrown_throw, f.unthrown_expressions]
  · exact fun i hi => shows_draw f _ draws hi
  · intro r hr left
    rcases exists_form_of_mem_rolls hr with ⟨g, draws', rfl⟩
    have hsurvive := (Roll.survive_throw g.value g.faces.distribution_ne_nil draws').1
    -- What counts survives, and nothing else can.
    constructor
    · exact fun hleft => hleft.unique hsurvive
    · rintro rfl
      exact hsurvive
  · exact totals_eq_worth fun e he => (isSettled_throw f _ draws e he).isSign

-- Of two dice that show one and four the better one counts, and one is taken off.
theorem evaluate_read_better_of_two :
    ∃ s, read (.ofBounds none none) ['2', 'd', '6', 'k', 'h', '1', '-', '1'] = .ok s ∧
      (s.throw ⟨fun k => 3 * k, 0⟩).2.taken = 2 ∧
      (s.throw ⟨fun k => 3 * k, 0⟩).1.totals = .ok [3] := by
  have hread := read_text (⟨.empty, ⟨none,
    .roll ⟨.ofCommon 2 (by decide), by decide, by decide,
      .numbered (.ofCommon 6 (by decide)) (by decide) (by decide) (by decide),
      [⟨true, true, .ofCommon 1 (by decide), by decide⟩]⟩,
    [(.bare true, .constant (.ofCommon 1 (by decide)))]⟩, [], .blanks .empty⟩ :
    NotationForm (Limits.bound none) (Limits.bound none))
  rw [← Limits.ofBounds_eq_upTo] at hread
  rcases evaluate_read none none _ _ ⟨fun k => 3 * k, 0⟩ hread with
    ⟨f, -, hf, htaken, -, -, -, htotals⟩
  refine ⟨_, hread, ?_, ?_⟩
  · rw [htaken, ← f.quantity_expressions none, ← hf]
    decide
  · rw [htotals]
    cbv

end RollSet

end DiceRoller
