import DiceRoller.Proofs.Dice.Span
import DiceRoller.Proofs.Dice.Twins

/-!
# Attainable totals

The totals of an expression are the numbers of a span. A constant is the only number of its
own, a roll comes to the numbers of its span, a minus turns a span around, and the spans of
the terms are added up.

That no total lies outside is seen term by term. That every number inside is a total takes
one throw that does several things at once. The number is divided among the terms, and each
roll has draws for its part. These draws stand at the beginning of a stream, whatever follows
them, and the roll takes them all and no others. So they can be put one behind the other, for
the rolls of an expression and then for the expressions of a set.

## Main definitions

* `CanCome`: A throw can have an outcome, with some draws at the beginning.
* `Sign.span`, `Term.span`, `Expression.span`: What a term and an expression can come to.

## Theorems

* `exists_getElem?_of_forall₂`: Lists that are related one by one have partners at the
  same places.
* `exists_forall₂_of_getElem?`: One place of a list that is related one by one can be
  chosen, whatever is taken elsewhere.
* `canCome_throwInTurn`: Outcomes of several throws that can come can come together.
* `forall₂_thrown`: Each of several things is thrown with some of the draws.
* `Sign.contains_span_iff`: Behind its sign a term comes to the numbers that it can come
  to, with the factor of the sign.
* `Sign.low_le_high_span`: A sign keeps the ends in order.
* `Term.contains_worth_throw`: What a thrown term is worth lies in its span.
* `Term.IsOrdinary.low_le_high`: So the span of a term is not empty.
* `Term.canCome_worth`: Every number of its span can come.
* `Term.canCome_behind`: Behind a sign every number of the span that the sign makes of it
  can come.
* `Roll.map_length_active_throwAllOf`: How many dice count behind a throw of several rolls
  is known before it.
* `Expression.throw_eq`: Throwing an expression throws its terms in turn.
* `Expression.total_throw`: A throw of an expression has a total, for a sign stays a sign.
* `Expression.contains_total_throw`: No total lies outside the span.
* `Expression.IsOrdinary.low_le_high`: The span of an expression is not empty.
* `Expression.canCome_total`: Every number of the span can come.
* `Expression.isOrdinary_of_mem_rolls`: The rolls of an ordinary expression are ordinary.
* `Expression.map_length_active_throw`: How many dice of an expression count behind a
  throw is known before it.
* `FacesForm.isFull_value`: On the dice that a notation names stand all numbers of their
  span.
* `RollForm.isOrdinary_value`: The rolls that a notation names are ordinary.
* `ExpressionForm.isOrdinary_value`: So are its expressions.
* `RollSet.isOrdinary_of_read`: The expressions of a set that was read are ordinary.
* `RollSet.expressions_throw`: Throwing a set throws its expressions in turn.
* `RollSet.exists_totals`: The expressions of a set come to their totals independently.
* `RollSet.attainable_of_read`: The totals of what was read.
* `RollSet.attainable_of_read_two_of_three`: The better two of three dice, two Fate dice
  taken off, and one more.
-/

namespace DiceRoller

section Lists

variable {α β : Type} {R : α → β → Prop} {as : List α} {bs : List β} {i : Nat} {a : α} {b : β}

-- Lists that are related one by one have partners at the same places.
theorem exists_getElem?_of_forall₂ (h : List.Forall₂ R as bs) (hi : as[i]? = some a) :
    ∃ b, bs[i]? = some b ∧ R a b := by
  induction h generalizing i with
  | nil => exact absurd hi (Option.some_ne_none a).symm
  | cons hab _ ih =>
      cases i with
      | zero =>
          rw [← Option.some.inj hi]
          exact ⟨_, rfl, hab⟩
      | succ i => exact ih hi

-- One place of a list that is related one by one can be chosen, whatever is taken elsewhere.
theorem exists_forall₂_of_getElem? {f : α → β} (h : ∀ a ∈ as, R a (f a)) (hi : as[i]? = some a)
    (hab : R a b) : ∃ bs, List.Forall₂ R as bs ∧ bs[i]? = some b := by
  induction as generalizing i with
  | nil => exact absurd hi (Option.some_ne_none a).symm
  | cons a' as ih =>
      have hrest := fun a ha => h a (List.mem_cons_of_mem a' ha)
      -- At the chosen place stands the given partner, elsewhere the function says which.
      cases i with
      | zero =>
          rw [← Option.some.inj hi] at hab
          refine ⟨b :: as.map f, .cons hab ?_, rfl⟩
          exact List.forall₂_map_right_iff.mpr (List.forall₂_same.mpr hrest)
      | succ i =>
          rcases ih hrest hi with ⟨bs, hbs, hb⟩
          exact ⟨f a' :: bs, .cons (h a' List.mem_cons_self) hbs, hb⟩

end Lists

section InTurn

variable {α β : Type} {throw : α → Draws → α × Draws}

/-- A throw of the thing has an outcome if the draws begin with some numbers. It takes these,
    and none of what follows them. -/
def CanCome (throw : α → Draws → α × Draws) (a : α) (outcome : α → Prop) : Prop :=
  ∃ numbers : List Nat, ∀ draws : Draws, draws.Begins numbers →
    outcome (throw a draws).1 ∧ (throw a draws).2 = draws.skip numbers.length

/-- Outcomes of several throws that can come can come together, one after the other. -/
theorem canCome_throwInTurn {R : α → β → Prop} {as : List α} {bs : List β}
    (h : List.Forall₂ (fun a b => CanCome throw a (R · b)) as bs) :
    CanCome (throwInTurn throw) as (List.Forall₂ R · bs) := by
  induction h with
  | nil => exact ⟨[], fun draws _ => ⟨.nil, rfl⟩⟩
  | cons hab _ ih =>
      rcases hab with ⟨numbers, hfirst⟩
      rcases ih with ⟨numbers', hrest⟩
      refine ⟨numbers ++ numbers', fun draws hdraws => ?_⟩
      -- What the first throw leaves of the stream begins with the numbers for the others.
      rcases hdraws.of_append with ⟨hbegins, hbegins'⟩
      rcases hfirst draws hbegins with ⟨houtcome, hleft⟩
      rw [← hleft] at hbegins'
      rcases hrest _ hbegins' with ⟨houtcomes, hleft'⟩
      rw [throwInTurn_cons]
      refine ⟨.cons houtcome houtcomes, ?_⟩
      rw [hleft', hleft, Draws.skip_skip, List.length_append]

/-- Each of several things is thrown with some of the draws. -/
theorem forall₂_thrown (as : List α) (draws : Draws) :
    List.Forall₂ (fun a a' => ∃ draws', a' = (throw a draws').1) as
      (throwInTurn throw as draws).1 := by
  induction as generalizing draws with
  | nil => exact .nil
  | cons a as ih => exact .cons ⟨draws, rfl⟩ (ih _)

end InTurn

/-- What a term can come to behind its sign. A text that is no sign has no place in the sum. -/
def Sign.span : Sign → Span → Span
  | .plus, s => s
  | .minus, s => ⟨-s.high, -s.low⟩
  | .other _, _ => ⟨0, 0⟩

/-- Behind its sign a term comes to the numbers that it can come to, with the factor of the
    sign. -/
theorem Sign.contains_span_iff (sign : Sign) {s : Span} (hs : s.low ≤ s.high) {n : Int} :
    (sign.span s).Contains n ↔ ∃ m, s.Contains m ∧ sign.factor * m = n := by
  -- A plus keeps the span, a minus turns it around, and anything else makes it nothing.
  cases sign with
  | plus =>
      simp only [span, factor, Int.one_mul, exists_eq_right]
  | minus =>
      simp only [span, factor, Span.Contains]
      constructor
      · intro h
        exact ⟨-n, by omega, by omega⟩
      · rintro ⟨m, hm, hn⟩
        omega
  | other t =>
      simp only [span, factor, Span.Contains, Int.zero_mul]
      constructor
      · intro h
        exact ⟨s.low, ⟨Int.le_refl _, hs⟩, by omega⟩
      · rintro ⟨m, -, hn⟩
        omega

/-- A sign keeps the ends in order. It is for this that a minus exchanges them. -/
theorem Sign.low_le_high_span (sign : Sign) {s : Span} (hs : s.low ≤ s.high) :
    (sign.span s).low ≤ (sign.span s).high := by
  cases sign with
  | plus => exact hs
  | minus => exact Int.neg_le_neg hs
  | other t => exact Int.le_refl 0

namespace Term

/-- What the term can come to. -/
def span : Term → Span
  | .roll r => r.span
  | .constant n => ⟨n, n⟩

/-- The term is a constant or an ordinary roll. -/
def IsOrdinary (t : Term) : Prop := ∀ r, t.roll? = some r → r.IsOrdinary

variable {t : Term}

/-- What a thrown term is worth lies in its span. -/
theorem contains_worth_throw (h : t.IsOrdinary) (draws : Draws) :
    t.span.Contains (t.throw draws).1.worth := by
  cases t with
  | constant n => exact ⟨Int.le_refl n, Int.le_refl n⟩
  | roll r =>
      have htotal := r.contains_total_throw (h r rfl) draws
      rw [Roll.total_eq_worth] at htotal
      exact htotal

theorem IsOrdinary.low_le_high (h : t.IsOrdinary) : t.span.low ≤ t.span.high := by
  have htotal := contains_worth_throw h (.ofCycle #[])
  exact Int.le_trans htotal.1 htotal.2

/-- Every number of its span can come. -/
theorem canCome_worth (h : t.IsOrdinary) {n : Int} (hn : t.span.Contains n) :
    CanCome Term.throw t fun t' => t'.worth = n := by
  -- A constant takes no draws, a roll takes the numbers for its total.
  cases t with
  | constant m => exact ⟨[], fun draws _ => ⟨Int.le_antisymm hn.1 hn.2, rfl⟩⟩
  | roll r =>
      rcases r.exists_numbers_of_contains (h r rfl) hn with ⟨numbers, hlen, htotal⟩
      refine ⟨numbers, fun draws hdraws => ⟨?_, ?_⟩⟩
      · have hworth := htotal draws hdraws
        rw [Roll.total_eq_worth] at hworth
        exact hworth
      · rw [hlen]
        exact r.throw_snd draws

/-- Behind a sign every number of the span that the sign makes of it can come. -/
theorem canCome_behind (h : t.IsOrdinary) (sign : Sign) {n : Int}
    (hn : (sign.span t.span).Contains n) :
    CanCome throwBehind (sign, t) fun p => p.1.factor * p.2.worth = n := by
  rcases (sign.contains_span_iff h.low_le_high).mp hn with ⟨m, hm, hfactor⟩
  rcases canCome_worth h hm with ⟨numbers, hcome⟩
  refine ⟨numbers, fun draws hdraws => ?_⟩
  rcases hcome draws hdraws with ⟨hworth, hleft⟩
  refine ⟨?_, hleft⟩
  change sign.factor * (t.throw draws).1.worth = n
  rw [hworth, hfactor]

end Term

/-- How many dice count behind a throw of several rolls is known before it. -/
theorem Roll.map_length_active_throwAllOf {rs : List Roll} (h : ∀ r ∈ rs, r.IsOrdinary)
    (draws : Draws) :
    (throwAllOf rs draws).1.map (fun r => r.active.length) = rs.map left := by
  induction rs generalizing draws with
  | nil => rfl
  | cons r rs ih =>
      have hr := h r List.mem_cons_self
      have hrest := ih fun r' hr' => h r' (List.mem_cons_of_mem r hr')
      rw [throwAllOf_cons, List.map_cons, List.map_cons, hrest, left,
        length_active_throw hr.throwable hr.one_le draws]

namespace Expression

/-- What the expression can come to, the spans of its terms added up. -/
def span (e : Expression) : Span := .total (e.terms.map fun p => p.1.span p.2.span)

/-- The terms are ordinary, and the signs in front of them are signs. -/
structure IsOrdinary (e : Expression) : Prop where
  isSign : ∀ p ∈ e.terms, p.1 = .plus ∨ p.1 = .minus
  terms : ∀ p ∈ e.terms, p.2.IsOrdinary

variable {e : Expression}

theorem throw_eq (e : Expression) (draws : Draws) :
    e.throw draws = (⟨(throwInTurn Term.throwBehind e.terms draws).1⟩,
      (throwInTurn Term.throwBehind e.terms draws).2) := by
  rw [throw, throwTerms_eq]

/-- A throw of an expression has a total, for a sign stays a sign. -/
theorem total_throw (h : e.IsOrdinary) (draws : Draws) :
    (e.throw draws).1.total = .ok (e.throw draws).1.worth := by
  refine total_eq_worth ?_
  rw [throw_eq]
  exact forall_mem_throwInTurn (P := fun p => p.1 = .plus ∨ p.1 = .minus) (fun hp _ => hp)
    h.isSign draws

/-- No total lies outside the span. -/
theorem contains_total_throw (h : e.IsOrdinary) (draws : Draws) :
    ∃ t, (e.throw draws).1.total = .ok t ∧ e.span.Contains t := by
  refine ⟨_, total_throw h draws, ?_⟩
  rw [throw_eq, worth, span]
  -- What the terms are worth lies in their spans, place by place.
  refine Span.contains_total (List.forall₂_map_left_iff.mpr (List.forall₂_map_right_iff.mpr ?_))
  refine (forall₂_and_mem (forall₂_thrown e.terms draws)).imp ?_
  rintro ⟨sign, t⟩ _ ⟨⟨draws', rfl⟩, hmem, -⟩
  have ht := h.terms _ hmem
  -- The sign stays in front of the term.
  exact (sign.contains_span_iff ht.low_le_high).mpr ⟨_, Term.contains_worth_throw ht draws', rfl⟩

theorem IsOrdinary.low_le_high (h : e.IsOrdinary) : e.span.low ≤ e.span.high := by
  rcases contains_total_throw h (.ofCycle #[]) with ⟨t, -, ht⟩
  exact Int.le_trans ht.1 ht.2

/-- Every number of the span can come. -/
theorem canCome_total (h : e.IsOrdinary) {t : Int} (ht : e.span.Contains t) :
    CanCome Expression.throw e fun e' => e'.total = .ok t := by
  have hspans : ∀ s ∈ e.terms.map fun p => p.1.span p.2.span, s.low ≤ s.high := by
    intro s hs
    rcases List.mem_map.mp hs with ⟨p, hp, rfl⟩
    exact p.1.low_le_high_span (h.terms p hp).low_le_high
  -- Each term comes to its part of the total, all of them in one throw.
  rcases Span.exists_parts hspans ht with ⟨parts, hparts, hsum⟩
  have hterms : List.Forall₂ (fun p n => CanCome Term.throwBehind p
      fun p' => p'.1.factor * p'.2.worth = n) e.terms parts := by
    refine (forall₂_and_mem (List.forall₂_map_left_iff.mp hparts)).imp fun p n hn => ?_
    exact Term.canCome_behind (h.terms p hn.2.1) p.1 hn.1
  rcases canCome_throwInTurn hterms with ⟨numbers, hcome⟩
  refine ⟨numbers, fun draws hdraws => ?_⟩
  rcases hcome draws hdraws with ⟨hworth, hleft⟩
  have htotal := total_throw h draws
  rw [throw_eq] at htotal ⊢
  refine ⟨htotal.trans ?_, hleft⟩
  -- The thrown terms are worth the parts one by one, so they add up to the total.
  have hmap : ((throwInTurn Term.throwBehind e.terms draws).1.map fun p =>
      p.1.factor * p.2.worth) = parts :=
    List.forall₂_eq_eq_eq ▸ List.forall₂_map_left_iff.mpr hworth
  rw [worth, hmap, hsum]

theorem isOrdinary_of_mem_rolls (h : e.IsOrdinary) : ∀ r ∈ e.rolls, r.IsOrdinary := by
  intro r hr
  rcases List.mem_filterMap.mp hr with ⟨p, hp, hroll⟩
  exact h.terms p hp r hroll

/-- How many dice of an expression count behind a throw is known before it. -/
theorem map_length_active_throw (h : e.IsOrdinary) (draws : Draws) :
    (e.throw draws).1.rolls.map (fun r => r.active.length) = e.rolls.map Roll.left := by
  have hrolls : (e.throw draws).1.rolls = (Roll.throwAllOf e.rolls draws).1 :=
    congrArg Prod.fst (rolls_throwTerms e.terms draws)
  rw [hrolls]
  exact Roll.map_length_active_throwAllOf (isOrdinary_of_mem_rolls h) draws

end Expression

/-- On the dice that a notation names stand all numbers of their span. -/
theorem FacesForm.isFull_value {maxFaces : Nat} (f : FacesForm maxFaces) : f.value.IsFull := by
  cases f with
  | numbered count _ _ => exact DieSpec.isFull_plain count.value
  | fate => exact DieSpec.isFull_fateDie

/-- The rolls that a notation names are ordinary. -/
theorem RollForm.isOrdinary_value {maxDice maxFaces : Nat} (f : RollForm maxDice maxFaces) :
    f.value.IsOrdinary := by
  refine ⟨f.isThrowable_value, ?_, f.faces.isFull_value⟩
  rw [f.quantity_value]
  exact f.one_le

theorem ExpressionForm.isOrdinary_value {maxDice maxFaces : Nat}
    (f : ExpressionForm maxDice maxFaces) : f.value.IsOrdinary := by
  refine ⟨f.isSign_value, fun p hp r hr => ?_⟩
  rcases exists_form_of_mem_terms hp with ⟨g, hg⟩
  rw [hg, g.roll?_value] at hr
  rcases Option.map_eq_some_iff.mp hr with ⟨k, -, rfl⟩
  exact k.isOrdinary_value

namespace RollSet

variable {s : RollSet}

/-- The expressions of a set that was read are ordinary. -/
theorem isOrdinary_of_read {maxDice maxFaces : Nat} {text : Text}
    (h : read (.upTo maxDice maxFaces) text = .ok s) : ∀ e ∈ s.expressions, e.IsOrdinary := by
  rcases exists_form_of_read h with ⟨f, -, rfl⟩
  intro e he
  rcases List.mem_map.mp he with ⟨g, -, rfl⟩
  exact g.isOrdinary_value

theorem expressions_throw (s : RollSet) (draws : Draws) :
    (s.throw draws).1.expressions = (throwInTurn Expression.throw s.expressions draws).1 := by
  rw [throw, throwExpressions_eq]

/-- The expressions of a set come to their totals independently: whatever each of them can
    come to, there are draws for all of it. -/
theorem exists_totals (h : ∀ e ∈ s.expressions, e.IsOrdinary) {ts : List Int}
    (hts : List.Forall₂ (fun e t => e.span.Contains t) s.expressions ts) :
    ∃ draws, List.Forall₂ (fun e t => e.total = .ok t) (s.throw draws).1.expressions ts := by
  have hcome : List.Forall₂ (fun e t => CanCome Expression.throw e fun e' => e'.total = .ok t)
      s.expressions ts :=
    (forall₂_and_mem hts).imp fun e _ ht => Expression.canCome_total (h e ht.2.1) ht.1
  -- One list of numbers serves all expressions, each taking its own.
  rcases canCome_throwInTurn hcome with ⟨numbers, hall⟩
  refine ⟨.ofCycle numbers.toArray, ?_⟩
  rw [expressions_throw]
  exact (hall _ (Draws.begins_ofCycle numbers)).1

/-- The totals that an expression of a notation can come to are the numbers from the least to
    the greatest of its span: no throw leads to another total, and for each of these numbers
    there is a throw. A throw leaves as many dice of each roll as the span is made for. -/
theorem attainable_of_read (dice faces : Option ℕ+) (text : Text) (s : RollSet)
    (h : read (.ofBounds dice faces) text = .ok s) (i : Nat) (e : Expression)
    (he : s.expressions[i]? = some e) :
    (∀ draws, ∃ e', (s.throw draws).1.expressions[i]? = some e' ∧
      e'.rolls.map (fun r => r.active.length) = e.rolls.map Roll.left ∧
      ∃ t, e'.total = .ok t ∧ e.span.Contains t) ∧
    ∀ t, e.span.Contains t →
      ∃ draws e', (s.throw draws).1.expressions[i]? = some e' ∧ e'.total = .ok t := by
  rw [Limits.ofBounds_eq_upTo] at h
  have hordinary := isOrdinary_of_read h
  have hexpression := hordinary e (List.mem_of_getElem? he)
  refine ⟨fun draws => ?_, fun t ht => ?_⟩
  · rw [expressions_throw]
    rcases exists_getElem?_of_forall₂ (forall₂_thrown s.expressions draws) he with
      ⟨_, hget, draws', rfl⟩
    exact ⟨_, hget, Expression.map_length_active_throw hexpression draws',
      Expression.contains_total_throw hexpression draws'⟩
  · -- The other expressions come to the least that they can.
    have hlow : ∀ e ∈ s.expressions, e.span.Contains e.span.low := fun e he =>
      ⟨Int.le_refl _, (hordinary e he).low_le_high⟩
    rcases exists_forall₂_of_getElem? hlow he ht with ⟨ts, hts, hget⟩
    rcases exists_totals hordinary hts with ⟨draws, htotals⟩
    rcases exists_getElem?_of_forall₂ htotals.flip hget with ⟨e', he', htotal⟩
    exact ⟨draws, e', he', htotal⟩

-- The better two of three dice, two Fate dice taken off, and one more. The greatest total
-- takes the greatest value of the dice in front and the least of those behind the minus.
theorem attainable_of_read_two_of_three :
    ∃ s e draws e', read (.ofBounds none none)
        ['3', 'd', '6', 'k', 'h', '2', '-', '2', 'd', 'F', '+', '1'] = .ok s ∧
      s.expressions[0]? = some e ∧ e.span = ⟨1, 15⟩ ∧
      (s.throw draws).1.expressions[0]? = some e' ∧ e'.total = .ok 15 := by
  have hread : read (.ofBounds none none)
      ['3', 'd', '6', 'k', 'h', '2', '-', '2', 'd', 'F', '+', '1']
      = .ok ⟨[⟨[(.plus, .roll (.fresh 3 (.plain 6) [⟨true, true, 2⟩])),
          (.minus, .roll (.fresh 2 .fateDie [])), (.plus, .constant 1)]⟩],
        some ['3', 'd', '6', 'k', 'h', '2', '-', '2', 'd', 'F', '+', '1']⟩ := by
    decide +kernel
  rcases attainable_of_read none none _ _ hread 0 _ rfl with ⟨-, hattained⟩
  rcases hattained 15 ⟨by decide, by decide⟩ with ⟨draws, e', he', htotal⟩
  exact ⟨_, _, draws, e', hread, rfl, by decide, he', htotal⟩

end RollSet

end DiceRoller
