import DiceRoller.Proofs.Dice.Survivors
import DiceRoller.Proofs.Grammar.Writable

/-!
# Where the draws go

Throwing walks a set: expressions, terms, rolls, dice. Each level hands what is left
of the stream to the next part, and the selectors of a roll come between its own
throws and those of the next. None of that shows in what the dice are worth. The
levels only nest one list of rolls, and of a roll's dice only the values come from
the stream, so the draws go to the dice of the whole set in the order in which these
stand there: the die at a position shows what the draw at that position selects of
its own values.

That order is the order of the text as well, because throwing changes nothing but
what the dice show. The set before the throw can be had back from the set behind it.

## Main definitions

* `Draws.skip`: The draws that are left after some.
* `falls`: The values of dice, one draw each.
* `RollSet.rolls`, `RollSet.dice`, `RollSet.quantity`: The rolls of a set, its dice,
  and how many there are.
* `Roll.throwAllOf`: Rolls thrown one after the other.

## Theorems

* `Draws.skip_skip`: Draws that are taken one after the other add up.
* `length_falls`: Every die shows something, so there are as many values as kinds.
* `getElem?_falls`: The die at a position shows what the draw at that position selects.
* `falls_append`: Further dice take the draws behind those of the first ones.
* `isSome_of_mem_falls`: A die with values shows one of them.
* `Roll.throwAll_eq`: Dice of one kind take consecutive draws.
* `Roll.throw_snd`: A roll takes one draw for each of its dice.
* `Roll.throw_spec`: Throwing keeps the kind of the dice.
* `Roll.throw_selectors`: It keeps the selectors.
* `Roll.map_spec_dice`: All dice of a roll are of one kind.
* `Roll.map_value_throw`: What the dice of a roll show, after its selectors as before
  them.
* `Roll.quantity_throw`: Throwing a roll keeps the number of its dice.
* `Roll.map_spec_dice_throw`: The kinds of the dice are those from before the throw.
* `Roll.counting_thrown`: Dice that were just thrown all count.
* `Roll.survive_throw`: What survives the selectors of a roll counts.
* `Roll.throwAllOf_cons`: The first of some rolls is thrown first.
* `Roll.throwAllOf_append`: Further rolls are thrown with what the first ones leave.
* `Roll.throwAllOf_snd`: Rolls take as many draws as they have dice together.
* `Roll.mem_throwAllOf`: Each roll is thrown with some of the draws.
* `Roll.length_flatMap_dice`: Rolls have as many dice as their quantities come to.
* `Roll.map_value_dice`: The values of the dice of a roll are those that are shown.
* `Roll.falls_throwAllOf`: The draws go to the dice of rolls in order.
* `Roll.map_spec_dice_throwAllOf`: Throwing rolls keeps the kinds of all their dice.
* `Expression.rolls_throwTerms`: Throwing terms throws the rolls among them, one after the
  other.
* `Expression.unthrown_throwTerms`: Taking the values back after a throw gives the terms
  from before it.
* `RollSet.rolls_throwExpressions`: Throwing expressions throws all of their rolls, one
  after the other.
* `RollSet.rolls_throw`: Throwing a set throws its rolls one after the other.
* `RollSet.throw_snd`: A set takes as many draws as it has dice.
* `RollSet.dice_throw`: The dice of a thrown set are those of its rolls thrown one after
  the other.
* `RollSet.map_spec_dice_throw`: The kinds of the dice of a set are those from before the
  throw.
* `RollSet.falls_throw`: The draws go to the dice in order, one each.
* `RollSet.length_dice_throw`: A thrown set shows as many dice as its rolls ask for.
* `RollSet.unthrown_throw`: Throwing changes only what the dice show.
-/

namespace DiceRoller

namespace Draws

/-- The draws that are left once `n` more have been taken. -/
def skip (draws : Draws) (n : Nat) : Draws := { draws with taken := draws.taken + n }

theorem skip_skip (draws : Draws) (m n : Nat) : (draws.skip m).skip n = draws.skip (m + n) := by
  simp only [skip, Nat.add_assoc]

end Draws

/-- The values that dice of the given kinds show, thrown with one draw each. -/
def falls (kinds : List DieSpec) (draws : Draws) : List (Option Int) :=
  kinds.mapIdx fun i s =>
    s.distribution[draws.stream (draws.taken + i) % s.distribution.length]?

/-- Every die shows something, so there are as many values as kinds. -/
theorem length_falls (kinds : List DieSpec) (draws : Draws) :
    (falls kinds draws).length = kinds.length :=
  List.length_mapIdx

/-- The die at a position shows what the draw at that position selects. -/
theorem getElem?_falls (kinds : List DieSpec) (draws : Draws) (i : Nat) :
    (falls kinds draws)[i]? = kinds[i]?.map fun s =>
      s.distribution[draws.stream (draws.taken + i) % s.distribution.length]? :=
  List.getElem?_mapIdx

/-- Further dice take the draws behind those of the first ones. -/
theorem falls_append (kinds kinds' : List DieSpec) (draws : Draws) :
    falls (kinds ++ kinds') draws
      = falls kinds draws ++ falls kinds' (draws.skip kinds.length) := by
  -- A position among the second dice is behind all of the first.
  rw [falls, List.mapIdx_append, falls, falls]
  congr 1
  simp only [Draws.skip, Nat.add_assoc, Nat.add_comm kinds.length]

/-- A die with values shows one of them. -/
theorem isSome_of_mem_falls {kinds : List DieSpec} {draws : Draws} {v : Option Int}
    (h : ∀ s ∈ kinds, s.distribution ≠ []) (hv : v ∈ falls kinds draws) : v.isSome := by
  rcases List.mem_iff_getElem?.mp hv with ⟨i, hi⟩
  rw [getElem?_falls] at hi
  rcases Option.map_eq_some_iff.mp hi with ⟨s, hs, rfl⟩
  -- The draw is divided by the number of values, so what it selects is there.
  have hpos := List.length_pos_iff.mpr (h s (List.mem_of_getElem? hs))
  rw [List.getElem?_eq_getElem (Nat.mod_lt _ hpos)]
  rfl

namespace Roll

/-- Dice of one kind take consecutive draws, and each of them counts at first. -/
theorem throwAll_eq (spec : DieSpec) (n : Nat) (draws : Draws) :
    throwAll spec n draws
      = ((falls (List.replicate n spec) draws).map fun v => { value := v, flags := 1 },
        draws.skip n) := by
  induction n generalizing draws with
  | zero => rfl
  | succ n ih =>
      -- The first die takes one draw, and the others begin with the next.
      have hcons : falls (List.replicate (n + 1) spec) draws
          = falls [spec] draws ++ falls (List.replicate n spec) (draws.skip 1) :=
        falls_append [spec] (List.replicate n spec) draws
      have hskip := draws.skip_skip 1 n
      rw [Nat.add_comm 1 n] at hskip
      rw [hcons, ← hskip, throwAll]
      simp only [Showing.throw, Draws.next]
      rw [show ({ draws with taken := draws.taken + 1 } : Draws) = draws.skip 1 from rfl, ih]
      rfl

/-- A roll takes one draw for each of its dice. -/
theorem throw_snd (r : Roll) (draws : Draws) : (r.throw draws).2 = draws.skip r.quantity := by
  rw [throw, throwAll_eq]

theorem throw_spec (r : Roll) (draws : Draws) : (r.throw draws).1.spec = r.spec := rfl

theorem throw_selectors (r : Roll) (draws : Draws) :
    (r.throw draws).1.selectors = r.selectors := rfl

theorem map_spec_dice (r : Roll) : r.dice.map Die.spec = List.replicate r.quantity r.spec := by
  rw [dice, List.map_map, quantity]
  exact List.map_const'

/-- What the dice of a roll show, after its selectors as before them. -/
theorem map_value_throw (r : Roll) (draws : Draws) :
    (r.throw draws).1.shown.map Showing.value = falls (r.dice.map Die.spec) draws := by
  rw [throw, throwAll_eq, map_spec_dice]
  simp only
  rw [map_value_narrow, List.map_map]
  exact List.map_id _

/-- Throwing a roll keeps the number of its dice. -/
theorem quantity_throw (r : Roll) (draws : Draws) :
    (r.throw draws).1.quantity = r.quantity := by
  -- There are as many values behind the throw as there are dice before it.
  have hlen := congrArg List.length (map_value_throw r draws)
  rw [List.length_map, length_falls, map_spec_dice, List.length_replicate] at hlen
  exact hlen

theorem map_spec_dice_throw (r : Roll) (draws : Draws) :
    (r.throw draws).1.dice.map Die.spec = r.dice.map Die.spec := by
  rw [map_spec_dice, quantity_throw, throw_spec, map_spec_dice]

/-- Dice that were just thrown all count. -/
theorem counting_thrown (values : List (Option Int)) :
    Selector.counting (values.map fun v => { value := v, flags := 1 })
      = List.range values.length := by
  rw [Selector.counting, List.length_map]
  refine List.filter_eq_self.mpr fun i hi => ?_
  rw [List.getElem?_map, List.getElem?_eq_getElem (List.mem_range.mp hi)]
  rfl

/-- A roll of dice with values is settled by a throw, and all of its dice that survive
    its selectors count. -/
theorem survive_throw (r : Roll) (h : r.spec.distribution ≠ []) (draws : Draws) :
    Survive ((r.throw draws).1.shown.map Showing.total) (r.throw draws).1.selectors
        (List.range (r.throw draws).1.quantity) (Selector.counting (r.throw draws).1.shown) ∧
      ∀ d ∈ (r.throw draws).1.shown, d.IsSettled := by
  rw [quantity_throw, throw_selectors, throw, throwAll_eq]
  simp only
  -- The dice between their throws and the selectors.
  generalize hvs : falls (List.replicate r.quantity r.spec) draws = vs
  have hlen : vs.length = r.quantity := by rw [← hvs, length_falls, List.length_replicate]
  have hfresh : ∀ d ∈ vs.map fun v => ({ value := v, flags := 1 } : Showing), d.IsSettled := by
    intro d hd
    rcases List.mem_map.mp hd with ⟨v, hv, rfl⟩
    rw [← hvs] at hv
    refine ⟨isSome_of_mem_falls (fun s hs => ?_) hv, Or.inl rfl⟩
    rw [(List.mem_replicate.mp hs).2]
    exact h
  -- Before the first selector all of them count, and no selector changes a value.
  have hsurvive := survive_narrow r.selectors hfresh
  rw [counting_thrown, hlen,
    ← Showing.map_total_eq (map_value_narrow r.selectors _)] at hsurvive
  exact hsurvive

/-- Rolls thrown one after the other. -/
def throwAllOf : List Roll → Draws → List Roll × Draws
  | [], draws => ([], draws)
  | r :: rest, draws =>
    let (r, draws) := r.throw draws
    let (rest, draws) := throwAllOf rest draws
    (r :: rest, draws)

theorem throwAllOf_cons (r : Roll) (rest : List Roll) (draws : Draws) :
    throwAllOf (r :: rest) draws
      = ((r.throw draws).1 :: (throwAllOf rest (r.throw draws).2).1,
        (throwAllOf rest (r.throw draws).2).2) := rfl

/-- Further rolls are thrown with what the first ones leave. -/
theorem throwAllOf_append (rs rs' : List Roll) (draws : Draws) :
    throwAllOf (rs ++ rs') draws
      = ((throwAllOf rs draws).1 ++ (throwAllOf rs' (throwAllOf rs draws).2).1,
        (throwAllOf rs' (throwAllOf rs draws).2).2) := by
  induction rs generalizing draws with
  | nil => rfl
  | cons r rs ih => rw [List.cons_append, throwAllOf_cons, ih, throwAllOf_cons, List.cons_append]

/-- Rolls take as many draws as they have dice together. -/
theorem throwAllOf_snd (rs : List Roll) (draws : Draws) :
    (throwAllOf rs draws).2 = draws.skip (rs.map quantity).sum := by
  induction rs generalizing draws with
  | nil => rfl
  | cons r rs ih =>
      rw [throwAllOf_cons, ih, throw_snd, Draws.skip_skip, List.map_cons, List.sum_cons]

/-- Each roll is thrown with some of the draws. -/
theorem mem_throwAllOf {rs : List Roll} {draws : Draws} {t : Roll}
    (h : t ∈ (throwAllOf rs draws).1) : ∃ r ∈ rs, ∃ draws' : Draws, t = (r.throw draws').1 := by
  induction rs generalizing draws with
  | nil => exact absurd h List.not_mem_nil
  | cons r rs ih =>
      rw [throwAllOf_cons] at h
      -- It is the first roll, or one that is thrown with what the first leaves.
      rcases List.mem_cons.mp h with rfl | h
      · exact ⟨r, List.mem_cons_self, draws, rfl⟩
      · rcases ih h with ⟨r', hr', hthrow⟩
        exact ⟨r', List.mem_cons_of_mem r hr', hthrow⟩

theorem length_dice (r : Roll) : r.dice.length = r.quantity := List.length_map ..

/-- Rolls have as many dice as their quantities come to. -/
theorem length_flatMap_dice (rs : List Roll) :
    (rs.flatMap dice).length = (rs.map quantity).sum := by
  rw [List.length_flatMap]
  congr 1
  exact List.map_congr_left fun r _ => r.length_dice

theorem map_value_dice (r : Roll) :
    (r.dice.map fun d => d.showing.value) = r.shown.map Showing.value := by
  rw [dice, List.map_map]
  rfl

/-- The draws go to the dice of rolls in order. -/
theorem falls_throwAllOf (rs : List Roll) (draws : Draws) :
    (((throwAllOf rs draws).1.flatMap dice).map fun d => d.showing.value)
      = falls ((rs.flatMap dice).map Die.spec) draws := by
  induction rs generalizing draws with
  | nil => rfl
  | cons r rs ih =>
      -- What the first roll leaves of the stream begins where its dice end.
      rw [throwAllOf_cons, List.flatMap_cons, List.map_append, ih, map_value_dice, map_value_throw,
        List.flatMap_cons, List.map_append, falls_append, List.length_map, length_dice, throw_snd]

/-- Throwing rolls keeps the kinds of all their dice. -/
theorem map_spec_dice_throwAllOf (rs : List Roll) (draws : Draws) :
    ((throwAllOf rs draws).1.flatMap dice).map Die.spec = (rs.flatMap dice).map Die.spec := by
  induction rs generalizing draws with
  | nil => rfl
  | cons r rs ih =>
      rw [throwAllOf_cons, List.flatMap_cons, List.map_append, ih, map_spec_dice_throw,
        List.flatMap_cons, List.map_append]

end Roll

namespace Expression

/-- Throwing terms throws the rolls among them, one after the other. -/
theorem rolls_throwTerms (terms : List (Sign × Term)) (draws : Draws) :
    ((throwTerms terms draws).1.filterMap fun p => p.2.roll?, (throwTerms terms draws).2)
      = Roll.throwAllOf (terms.filterMap fun p => p.2.roll?) draws := by
  induction terms generalizing draws with
  | nil => rfl
  | cons p terms ih =>
      rcases p with ⟨sign, r | n⟩
      · -- A roll is thrown here, and the other terms with what it leaves.
        have hcons : (((sign, Term.roll r) :: terms).filterMap fun p => p.2.roll?)
            = r :: terms.filterMap fun p => p.2.roll? := rfl
        rw [hcons, Roll.throwAllOf_cons, ← ih (r.throw draws).2]
        rfl
      · -- A constant takes no draw.
        exact ih draws

/-- Taking the values back after a throw gives the terms from before it. -/
theorem unthrown_throwTerms (terms : List (Sign × Term)) (draws : Draws) :
    ((throwTerms terms draws).1.map fun p => (p.1, p.2.unthrown))
      = terms.map fun p => (p.1, p.2.unthrown) := by
  induction terms generalizing draws with
  | nil => rfl
  | cons p terms ih =>
      rcases p with ⟨sign, r | n⟩
      · -- A thrown roll has its quantity, its kind and its selectors still.
        have hroll : (r.throw draws).1.unthrown = r.unthrown := by
          rw [Roll.unthrown, Roll.quantity_throw, Roll.throw_spec, Roll.throw_selectors]
          rfl
        rw [List.map_cons, Term.unthrown, ← hroll, ← ih (r.throw draws).2]
        rfl
      · rw [List.map_cons, ← ih draws]
        rfl

end Expression

namespace RollSet

/-- The rolls of the set, in order. -/
def rolls (s : RollSet) : List Roll := s.expressions.flatMap Expression.rolls

/-- The dice of the set, in order. -/
def dice (s : RollSet) : List Die := s.rolls.flatMap Roll.dice

/-- The number of dice of the set, the quantities of its rolls together. -/
def quantity (s : RollSet) : Nat := (s.rolls.map Roll.quantity).sum

/-- Throwing expressions throws all of their rolls, one after the other. -/
theorem rolls_throwExpressions (es : List Expression) (draws : Draws) :
    ((throwExpressions es draws).1.flatMap Expression.rolls, (throwExpressions es draws).2)
      = Roll.throwAllOf (es.flatMap Expression.rolls) draws := by
  induction es generalizing draws with
  | nil => rfl
  | cons e es ih =>
      -- The rolls of the first expression are thrown in front of those of the others.
      have hfirst : ((e.throw draws).1.rolls, (e.throw draws).2)
          = Roll.throwAllOf e.rolls draws := Expression.rolls_throwTerms e.terms draws
      rw [List.flatMap_cons, Roll.throwAllOf_append, ← hfirst, ← ih]
      rfl

theorem rolls_throw (s : RollSet) (draws : Draws) :
    ((s.throw draws).1.rolls, (s.throw draws).2) = Roll.throwAllOf s.rolls draws :=
  rolls_throwExpressions s.expressions draws

/-- A set takes as many draws as it has dice. -/
theorem throw_snd (s : RollSet) (draws : Draws) :
    (s.throw draws).2 = draws.skip s.quantity :=
  (congrArg Prod.snd (rolls_throw s draws)).trans (Roll.throwAllOf_snd s.rolls draws)

/-- The dice of a thrown set are those of its rolls thrown one after the other. -/
theorem dice_throw (s : RollSet) (draws : Draws) :
    (s.throw draws).1.dice = (Roll.throwAllOf s.rolls draws).1.flatMap Roll.dice :=
  congrArg (fun p => p.1.flatMap Roll.dice) (rolls_throw s draws)

/-- The kinds of the dice of a set are those from before the throw. -/
theorem map_spec_dice_throw (s : RollSet) (draws : Draws) :
    (s.throw draws).1.dice.map Die.spec = s.dice.map Die.spec := by
  rw [dice_throw, Roll.map_spec_dice_throwAllOf]
  rfl

/-- The draws go to the dice of the set in order, one each. -/
theorem falls_throw (s : RollSet) (draws : Draws) :
    ((s.throw draws).1.dice.map fun d => d.showing.value)
      = falls ((s.throw draws).1.dice.map Die.spec) draws := by
  rw [map_spec_dice_throw, dice_throw, Roll.falls_throwAllOf]
  rfl

/-- A thrown set shows as many dice as its rolls ask for. -/
theorem length_dice_throw (s : RollSet) (draws : Draws) :
    (s.throw draws).1.dice.length = s.quantity := by
  have hlen := congrArg List.length (map_spec_dice_throw s draws)
  rw [List.length_map, List.length_map] at hlen
  exact hlen.trans (Roll.length_flatMap_dice s.rolls)

/-- Throwing changes only what the dice show. -/
theorem unthrown_throw (s : RollSet) (draws : Draws) :
    (s.throw draws).1.expressions.map Expression.unthrown
      = s.expressions.map Expression.unthrown := by
  -- The draws differ from one expression to the next, so this is shown for all of them.
  have h : ∀ (es : List Expression) (draws : Draws),
      (throwExpressions es draws).1.map Expression.unthrown = es.map Expression.unthrown := by
    intro es
    induction es with
    | nil => exact fun _ => rfl
    | cons e es ih =>
        intro draws
        have hfirst : (e.throw draws).1.unthrown = e.unthrown :=
          congrArg Expression.mk (Expression.unthrown_throwTerms e.terms draws)
        rw [List.map_cons, ← hfirst, ← ih (e.throw draws).2]
        rfl
  exact h s.expressions draws

end RollSet

end DiceRoller
