import DiceRoller.Proofs.Bench.Deeds

/-!
# Throwing forgets

A throw replaces everything that dice show, and it looks at nothing of it before. So a
set that is thrown comes out the same whatever was done to it, if only the draws are the
same. A command reads its text anew for every throw that it is asked for; it might as
well read it once and throw the one set again and again, with the draws handed on.

## Theorems

* `Roll.throw_unthrown`: A roll is thrown like the roll before any throw.
* `Term.throw_unthrown`: So is a term.
* `Expression.throwTerms_unthrown`: So are terms behind signs, one after the other.
* `Expression.throw_unthrown`: So is an expression.
* `RollSet.throwExpressions_unthrown`: So are expressions, one after the other.
* `RollSet.throw_eq_of_shape`: A throw depends on the shape of a set alone.
* `Shelf.Stands.throw`: A set that stands is thrown as the one that was read.
* `Shelf.Stands.render_eq`: A set that stands is displayed, since it is brief.
* `Shelf.Stands.performAll_throws`: A set that is thrown again and again, the draws handed
  on, is each time the set that was read thrown with what was left of the draws.
* `Command.throws_of_read`: The sets that a command throws.
* `Deed.throw_forgets`: Throwing after any deeds, and throwing again and again.
* `Deed.throw_forgets_two_dice`: The first of two dice is turned to six and marked as both
  counting and struck out.
-/

namespace DiceRoller

theorem Roll.throw_unthrown (r : Roll) (draws : Draws) :
    r.unthrown.throw draws = r.throw draws := by
  rw [throw, quantity_unthrown]
  rfl

theorem Term.throw_unthrown (t : Term) (draws : Draws) :
    t.unthrown.throw draws = t.throw draws := by
  cases t with
  | roll r => rw [unthrown, throw, throw, r.throw_unthrown]
  | constant n => rfl

theorem Expression.throwTerms_unthrown (ts : List (Sign × Term)) (draws : Draws) :
    throwTerms (ts.map fun p => (p.1, p.2.unthrown)) draws = throwTerms ts draws := by
  induction ts generalizing draws with
  | nil => rfl
  | cons p ts ih => simp only [List.map_cons, throwTerms, Term.throw_unthrown, ih]

theorem Expression.throw_unthrown (e : Expression) (draws : Draws) :
    e.unthrown.throw draws = e.throw draws := by
  rw [throw, unthrown, throwTerms_unthrown, throw]

theorem RollSet.throwExpressions_unthrown (es : List Expression) (draws : Draws) :
    throwExpressions (es.map Expression.unthrown) draws = throwExpressions es draws := by
  induction es generalizing draws with
  | nil => rfl
  | cons e es ih =>
      simp only [List.map_cons, throwExpressions, Expression.throw_unthrown, ih]

/-- A throw depends on the shape of a set alone. -/
theorem RollSet.throw_eq_of_shape {s t : RollSet} (hspec : t.spec = s.spec)
    (hshape : t.expressions.map Expression.unthrown = s.expressions) (draws : Draws) :
    t.throw draws = s.throw draws := by
  rw [throw, throw, ← hshape, throwExpressions_unthrown, hspec]

namespace Shelf

variable {strict : Prop} {shelf : Shelf} {place : Place} {dice : List Place} {s t : RollSet}

/-- A set that stands is thrown as the set that was read, and stands again. -/
theorem Stands.throw (h : shelf.Stands strict s place dice t) (draws : Draws) :
    ∃ shelf', shelf.throw place draws = ((shelf', draws.skip s.quantity), none) ∧
      shelf'.Stands strict s place dice (s.throw draws).1 := by
  have heq := RollSet.throw_eq_of_shape h.spec h.shape draws
  rcases @throw_of_holds strict _ _ _ _ h.holds h.nodup h.throwable h.brief draws with
    ⟨shelf', hthrow, hholds, -⟩
  rw [heq] at hthrow hholds
  rw [s.throw_snd] at hthrow
  -- Thrown, the set has the shape that it had before.
  have hshape : (s.throw draws).1.expressions.map Expression.unthrown = s.expressions := by
    rw [← heq, t.unthrown_throw, h.shape]
  have hsame := hshape.trans h.shape.symm
  exact ⟨shelf', hthrow, hholds, h.nodup, h.throwable.of_shape hsame, h.brief.of_shape hsame,
    s.isSound_throw strict draws, rfl, hshape⟩

/-- A set that stands is displayed, since it is brief. -/
theorem Stands.render_eq (h : shelf.Stands strict s place dice t) :
    shelf.render place = .ok t.render :=
  render_of_holds h.holds h.brief h.sound

/-- A set that is thrown again and again, the draws handed on, is each time the set that
    was read thrown with what was left of the draws. -/
theorem Stands.performAll_throws (h : shelf.Stands strict s place dice t) (n : Nat)
    (draws : Draws) :
    ∃ shelf' t', Deed.performAll (List.replicate n (.throw place)) shelf draws
        = (shelf', draws.skip (n * s.quantity)) ∧
      shelf'.Stands strict s place dice t' ∧
      ∀ k, n = k + 1 → t' = (s.throw (draws.skip (k * s.quantity))).1 := by
  induction n with
  | zero =>
      exact ⟨shelf, t, by rw [Nat.zero_mul]; rfl, h, fun k hk => absurd hk k.succ_ne_zero.symm⟩
  | succ n ih =>
      rcases ih with ⟨shelf', t', hall, hstands, -⟩
      rcases hstands.throw (draws.skip (n * s.quantity)) with ⟨shelf'', hthrow, hstands'⟩
      refine ⟨shelf'', _, ?_, hstands', fun k hk => by rw [Nat.succ.inj hk]⟩
      -- The last throw is the one that is looked at, so the throws are taken apart at their
      -- end.
      rw [List.replicate_succ', Deed.performAll_append, hall, Deed.performAll, Deed.perform, hthrow,
        Draws.skip_skip, Nat.succ_mul]
      rfl

end Shelf

/-- The sets that a command throws are those that one set becomes that is thrown again
    and again. -/
theorem Command.throws_of_read {limits : Limits} {text : Text} {s : RollSet}
    (h : RollSet.read limits text = .ok s) (n : Nat) (draws : Draws) :
    ∃ records, throws limits text n draws
      = ((List.range n).map fun k => (s.throw (draws.skip (k * s.quantity))).1, records,
        .ok (draws.skip (n * s.quantity))) := by
  induction n generalizing draws with
  | zero => exact ⟨[], by rw [Nat.zero_mul]; rfl⟩
  | succ n ih =>
      -- The first throw takes its draws, and the others take theirs behind them.
      rcases ih (draws.skip s.quantity) with ⟨records, hrest⟩
      refine ⟨Record.ofReading text s :: Record.ofThrow (s.throw draws).1 ++ records, ?_⟩
      rw [throws, h]
      simp only [s.throw_snd, hrest, Draws.skip_skip, List.range_succ_eq_map, List.map_cons,
        List.map_map, Function.comp_def, Nat.zero_mul, Nat.succ_mul, Nat.add_comm s.quantity]
      rfl

/-- Throwing forgets what was done before. After any deeds on a set that was read and on
    its parts, the set and a fresh copy of it are thrown alike with the same draws. And
    the sets that a command throws are the states of one set thrown again and again, with
    as many draws as it has dice for each throw. -/
theorem Deed.throw_forgets (dice faces : Option ℕ+) (text : Text) (s : RollSet)
    (h : RollSet.read (.ofBounds dice faces) text = .ok s) (shelf : Shelf) (draws : Draws)
    (deeds : List Deed) (start reached copied : Shelf) (p q : Place) (left : Draws)
    (hstart : shelf.addRollSet s = (p, start))
    (hdeeds : ∀ d ∈ deeds, start.IsPart p d.place)
    (hreached : performAll deeds start draws = (reached, left))
    (hcopied : reached.addRollSet s = (q, copied)) :
    (∀ fresh : Draws, ∃ again anew places places' t, ∃ rest : Draws,
      reached.throw p fresh = ((again, rest), none) ∧
      copied.throw q fresh = ((anew, rest), none) ∧
      again.HoldsSet p places t ∧ anew.HoldsSet q places' t ∧
      again.render p = .ok t.render ∧ anew.render q = .ok t.render ∧
      again.groupTotals p = .ok (t.expressions.map fun e => .int e.worth) ∧
      anew.groupTotals q = .ok (t.expressions.map fun e => .int e.worth)) ∧
    ∀ (n : Nat) (fresh : Draws), ∃ sets records,
      Command.throws (.ofBounds dice faces) text n fresh
        = (sets, records, .ok (fresh.skip (n * s.quantity))) ∧ sets.length = n ∧
      ∀ k, k < n → ∃ state places t,
        performAll (List.replicate (k + 1) (.throw p)) start fresh
          = (state, fresh.skip ((k + 1) * s.quantity)) ∧
        sets[k]? = some t ∧ state.HoldsSet p places t := by
  rcases Command.throws_of_read h with hcommand
  rw [Limits.ofBounds_eq_upTo] at h
  rcases Shelf.exists_stands_addRollSet h shelf with ⟨places, -, hfirst⟩
  rw [hstart] at hfirst
  constructor
  · intro fresh
    -- Marks may have been set by hand, so nothing is said of them.
    have hloose : start.Stands False s p places s := hfirst.weaken
    rcases hloose.performAll (fun d hd => ⟨hdeeds d hd, fun hfalse => hfalse.elim⟩) draws with
      ⟨t, ht, -⟩
    rcases Shelf.exists_stands_addRollSet h reached with ⟨places', -, hcopy⟩
    rw [hreached] at ht
    rw [hcopied] at hcopy
    rcases ht.throw fresh with ⟨again, hagain, hstands⟩
    rcases hcopy.throw fresh with ⟨anew, hanew, hstands'⟩
    exact ⟨again, anew, places, places', _, _, hagain, hanew, hstands.holds, hstands'.holds,
      hstands.render_eq, hstands'.render_eq,
      Shelf.groupTotals_of_holds hstands.holds, Shelf.groupTotals_of_holds hstands'.holds⟩
  · intro n fresh
    rcases hcommand n fresh with ⟨records, hthrows⟩
    refine ⟨_, records, hthrows, by rw [List.length_map, List.length_range], fun k hk => ?_⟩
    rcases hfirst.performAll_throws (k + 1) fresh with ⟨state, t, hall, hstands, hlast⟩
    refine ⟨state, places, t, hall, ?_, hstands.holds⟩
    rw [List.getElem?_map, List.getElem?_range hk, hlast k rfl]
    rfl

-- The first of two dice is turned to six and marked as both counting and struck out.
theorem Deed.throw_forgets_two_dice :
    RollSet.read (.ofBounds none none) ['2', 'd', '6'] = .ok .twoDice ∧
      ∃ start reached copied p q left, ({} : Shelf).addRollSet .twoDice = (p, start) ∧
        performAll [.throw 4, .setValue 0 (some 6), .setMarks 0 3] start ⟨fun k => k, 0⟩
          = (reached, left) ∧
        reached.addRollSet .twoDice = (q, copied) ∧
        ∃ again anew rest rest' t, reached.throw p left = ((again, rest), none) ∧
          copied.throw q left = ((anew, rest'), none) ∧
          again.render p = .ok t ∧ anew.render q = .ok t := by
  have hdeeds : ∀ d ∈ [Deed.throw 4, .setValue 0 (some 6), .setMarks 0 3],
      (Shelf.addRollSet {} .twoDice).2.IsPart 4 d.place := by
    intro d hd
    simp only [List.mem_cons, List.not_mem_nil, or_false] at hd
    rcases hd with rfl | rfl | rfl
    · exact .self
    · exact Shelf.isPart_twoDice.2
    · exact Shelf.isPart_twoDice.2
  rcases (Deed.throw_forgets none none _ _ RollSet.read_twoDice {} ⟨fun k => k, 0⟩ _ _ _ _ _ _ _ rfl
    hdeeds rfl rfl).1 _ with ⟨again, anew, -, -, t, rest, hagain, hanew, -, -, hrender, hrender', -⟩
  exact ⟨RollSet.read_twoDice, _, _, _, _, _, _, rfl, rfl, rfl, again, anew, rest, rest, t.render,
    hagain, hanew, hrender, hrender'⟩

end DiceRoller
