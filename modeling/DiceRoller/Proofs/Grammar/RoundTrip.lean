import DiceRoller.Proofs.Grammar.Acceptance
import DiceRoller.Proofs.Grammar.Writable

/-!
# Displayed sets are read back

A set that can be written is displayed as a text that is read as the same set, with
the same kind of die in every roll. What is read can be written, so the displayed
text is a canonical form: two sets that were read are equal exactly if they are
displayed alike.

Equality of sets looks at the values on the dice only and takes a Fate die and a die
with the same three values for one. No notation can name the second, so on writable
sets equality is equality of everything but what the dice show, and what is displayed
of a set before a throw depends on nothing else.

## Theorems

* `DieSpec.eq_of_same`: The dice that can be written are told apart by their faces and
  values.
* `DieSpec.same_self`: A kind of dice equals itself.
* `Roll.quantity_unthrown`: Taking the values back keeps the dice.
* `Roll.same_unthrown`: A roll equals itself before it was thrown.
* `Roll.unthrown_eq_of_same`: Equal writable rolls are the same before a throw.
* `Term.same_unthrown`: A term equals itself before it was thrown.
* `Term.unthrown_eq_of_same`: Equal writable terms are the same before a throw.
* `Expression.sameTerms_unthrown`: Terms equal themselves before they were thrown.
* `Expression.same_unthrown`: So does an expression.
* `Expression.unthrown_eq_of_sameTerms`: Equal lists of writable terms are the same before
  a throw, sign by sign.
* `Expression.unthrown_eq_of_same`: So are equal writable expressions.
* `RollSet.sameExpressions_unthrown`: Expressions equal themselves before they were
  thrown.
* `RollSet.same_unthrown`: A set equals itself before it was thrown.
* `RollSet.unthrown_eq_of_sameExpressions`: Equal lists of writable expressions are the
  same before a throw.
* `RollSet.unthrown_eq_of_same`: Equal writable sets are the same before a throw.
* `RollSet.isWritable_of_read`: What was read under the common limits can be written, and
  shows no throw.
* `RollSet.read_render`: What is displayed of a writable set is read as the set before a
  throw.
* `RollSet.read_render_canonical`: Displaying a set is writing it canonically.
-/

namespace DiceRoller

namespace DieSpec

/-- The dice that can be written are told apart by their faces and values. -/
theorem eq_of_same {a b : DieSpec} (ha : a.IsWritable) (hb : b.IsWritable)
    (h : a.same b = true) : a = b := by
  -- A plain die with three faces has other values than a Fate die.
  have hthree : ∀ n, (plain n).same fateDie = false ∧ fateDie.same (plain n) = false := by
    intro n
    by_cases hn : n = 3
    · rw [hn]
      exact ⟨rfl, rfl⟩
    · have h3 : (n == 3) = false := beq_eq_false_iff_ne.mpr hn
      have h3' : (3 == n) = false := beq_eq_false_iff_ne.mpr (Ne.symm hn)
      simp only [same, plain, fateDie, h3, h3', Bool.false_and, and_self]
  -- There are two kinds of dice on either side.
  rcases ha with ⟨n, -, -, rfl⟩ | rfl <;> rcases hb with ⟨m, -, -, rfl⟩ | rfl
  · simp only [same, plain, Bool.and_eq_true, beq_iff_eq] at h
    rw [h.1]
  · rw [(hthree n).1] at h
    exact Bool.noConfusion h
  · rw [(hthree m).2] at h
    exact Bool.noConfusion h
  · rfl

theorem same_self (a : DieSpec) : a.same a = true := by
  simp only [same, beq_self_eq_true, Bool.and_self]

end DieSpec

namespace Roll

theorem quantity_unthrown (r : Roll) : r.unthrown.quantity = r.quantity := List.length_replicate

theorem same_unthrown (r : Roll) : r.unthrown.same r = true := by
  rw [same, quantity_unthrown]
  simp only [unthrown, fresh, DieSpec.same_self, beq_self_eq_true, Bool.and_self]

/-- Equal writable rolls are the same before a throw. -/
theorem unthrown_eq_of_same {a b : Roll} (ha : a.IsWritable) (hb : b.IsWritable)
    (h : a.same b = true) : a.unthrown = b.unthrown := by
  simp only [same, Bool.and_eq_true, beq_iff_eq] at h
  rcases h with ⟨⟨hq, hs⟩, hss⟩
  rw [unthrown, unthrown, hq, hss, DieSpec.eq_of_same ha.spec hb.spec hs]

end Roll

namespace Term

theorem same_unthrown (t : Term) : t.unthrown.same t = true := by
  cases t with
  | roll r => exact r.same_unthrown
  | constant n => exact beq_self_eq_true n

/-- Equal writable terms are the same before a throw. -/
theorem unthrown_eq_of_same {a b : Term} (ha : a.IsWritable) (hb : b.IsWritable)
    (h : a.same b = true) : a.unthrown = b.unthrown := by
  cases a with
  | roll r =>
      cases b with
      | roll r' => rw [unthrown, unthrown, Roll.unthrown_eq_of_same ha hb h]
      | constant n => exact absurd h Bool.false_ne_true
  | constant m =>
      cases b with
      | roll r' => exact absurd h Bool.false_ne_true
      | constant n =>
          simp only [same, beq_iff_eq] at h
          rw [h]

end Term

namespace Expression

theorem sameTerms_unthrown (ts : List (Sign × Term)) :
    sameTerms (ts.map fun p => (p.1, p.2.unthrown)) ts = true := by
  induction ts with
  | nil => rfl
  | cons p ts ih =>
      rw [List.map_cons, sameTerms, ih, Term.same_unthrown, beq_self_eq_true]
      rfl

theorem same_unthrown (e : Expression) : e.unthrown.same e = true := sameTerms_unthrown e.terms

/-- Equal lists of writable terms are the same before a throw, sign by sign. -/
theorem unthrown_eq_of_sameTerms {as bs : List (Sign × Term)}
    (ha : ∀ p ∈ as, p.2.IsWritable) (hb : ∀ p ∈ bs, p.2.IsWritable)
    (h : sameTerms as bs = true) :
    (as.map fun p => (p.1, p.2.unthrown)) = bs.map fun p => (p.1, p.2.unthrown) := by
  induction as generalizing bs with
  | nil =>
      cases bs with
      | nil => rfl
      | cons q bs => exact absurd h Bool.false_ne_true
  | cons p as ih =>
      cases bs with
      | nil => exact absurd h Bool.false_ne_true
      | cons q bs =>
          simp only [sameTerms, Bool.and_eq_true, beq_iff_eq] at h
          rcases h with ⟨⟨hsign, hterm⟩, hrest⟩
          -- Signs are compared as they are, terms without their values.
          have hunthrown := Term.unthrown_eq_of_same (ha p List.mem_cons_self)
            (hb q List.mem_cons_self) hterm
          have hmore := ih (fun r hr => ha r (List.mem_cons_of_mem p hr))
            (fun r hr => hb r (List.mem_cons_of_mem q hr)) hrest
          rw [List.map_cons, List.map_cons, hmore, hsign, hunthrown]

/-- So are equal writable expressions. -/
theorem unthrown_eq_of_same {a b : Expression} (ha : a.IsWritable) (hb : b.IsWritable)
    (h : a.same b = true) : a.unthrown = b.unthrown := by
  rw [unthrown, unthrown, unthrown_eq_of_sameTerms ha.terms hb.terms h]

end Expression

namespace RollSet

theorem sameExpressions_unthrown (es : List Expression) :
    sameExpressions (es.map Expression.unthrown) es = true := by
  induction es with
  | nil => rfl
  | cons e es ih => rw [List.map_cons, sameExpressions, ih, e.same_unthrown, Bool.and_self]

/-- A set equals itself before it was thrown, whatever text it was read from. -/
theorem same_unthrown {s t : RollSet} (h : t.expressions = s.expressions.map Expression.unthrown) :
    t.same s = true := by
  rw [same, h, sameExpressions_unthrown]

/-- Equal lists of writable expressions are the same before a throw. -/
theorem unthrown_eq_of_sameExpressions {as bs : List Expression}
    (ha : ∀ e ∈ as, e.IsWritable) (hb : ∀ e ∈ bs, e.IsWritable)
    (h : sameExpressions as bs = true) :
    as.map Expression.unthrown = bs.map Expression.unthrown := by
  induction as generalizing bs with
  | nil =>
      cases bs with
      | nil => rfl
      | cons b bs => exact absurd h Bool.false_ne_true
  | cons a as ih =>
      cases bs with
      | nil => exact absurd h Bool.false_ne_true
      | cons b bs =>
          simp only [sameExpressions, Bool.and_eq_true] at h
          rw [List.map_cons, List.map_cons,
            Expression.unthrown_eq_of_same (ha a List.mem_cons_self) (hb b List.mem_cons_self) h.1,
            ih (fun e he => ha e (List.mem_cons_of_mem a he))
              (fun e he => hb e (List.mem_cons_of_mem b he)) h.2]

/-- Equal writable sets are the same before a throw. -/
theorem unthrown_eq_of_same {a b : RollSet} (ha : a.IsWritable) (hb : b.IsWritable)
    (h : a.same b = true) :
    a.expressions.map Expression.unthrown = b.expressions.map Expression.unthrown :=
  unthrown_eq_of_sameExpressions ha.expressions hb.expressions h

/-- What was read under the common limits can be written, and shows no throw. -/
theorem isWritable_of_read {text : Text} {s : RollSet}
    (h : RollSet.read (.ofBounds none none) text = .ok s) :
    s.IsWritable ∧ s.expressions.map Expression.unthrown = s.expressions := by
  rw [Limits.ofBounds_eq_upTo] at h
  rcases exists_form_of_read h with ⟨f, -, rfl⟩
  exact ⟨NotationForm.isWritable f _, f.unthrown_expressions⟩

/-- What is displayed of a writable set is read as the set before a throw. -/
theorem read_render {s : RollSet} (h : s.IsWritable) :
    ∃ t, RollSet.read (.ofBounds none none) s.render = .ok t ∧
      t.expressions = s.expressions.map Expression.unthrown := by
  rcases exists_form_of_isWritable h with ⟨f, hf, he⟩
  rw [Limits.ofBounds_eq_upTo, ← hf]
  exact ⟨_, read_text f, he⟩

/-- Displaying is writing canonically. What is displayed of a writable set is read as
    an equal set with the same dice, what is read is writable, and sets that were read
    are equal exactly if they are displayed alike. -/
theorem read_render_canonical :
    (∀ s : RollSet, s.IsWritable →
      ∃ t, RollSet.read (.ofBounds none none) s.render = .ok t ∧ t.same s = true ∧
        t.expressions = s.expressions.map Expression.unthrown) ∧
    (∀ (text : Text) (s : RollSet),
      RollSet.read (.ofBounds none none) text = .ok s → s.IsWritable) ∧
    (∀ (text text' : Text) (s s' : RollSet),
      RollSet.read (.ofBounds none none) text = .ok s →
      RollSet.read (.ofBounds none none) text' = .ok s' →
      (s.same s' = true ↔ s.render = s'.render)) := by
  refine ⟨fun s h => ?_, fun text s h => (isWritable_of_read h).1, ?_⟩
  · rcases read_render h with ⟨t, ht, he⟩
    exact ⟨t, ht, same_unthrown he, he⟩
  · intro text text' s s' h h'
    rcases isWritable_of_read h with ⟨hw, hu⟩
    rcases isWritable_of_read h' with ⟨hw', hu'⟩
    constructor
    · -- Nothing is displayed of an unthrown set but what equality looks at.
      intro hsame
      have he := unthrown_eq_of_same hw hw' hsame
      rw [hu, hu'] at he
      rw [render, render, he]
    · intro hrender
      -- One text is read back, as either set.
      rcases read_render hw with ⟨t, ht, he⟩
      rcases read_render hw' with ⟨t', ht', he'⟩
      rw [hrender, ht'] at ht
      rw [Except.ok.inj ht, he, hu, hu'] at he'
      exact same_unthrown (by rw [hu', he'])

end RollSet

end DiceRoller
