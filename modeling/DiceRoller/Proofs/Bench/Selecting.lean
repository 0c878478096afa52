import DiceRoller.Bench.Throwing
import DiceRoller.Proofs.Bench.Holding
import DiceRoller.Proofs.Dice.Throws

/-!
# Turning held dice

Throwing and selecting change what dice on the shelf show, one cell at a time. `Turns`
says what such a change comes to: at the places of the dice they show something else
than before, and everywhere else the shelf is as it was. Changes of the same dice are
composed by it, so a chain of selectors is followed one selector at a time.

A selector that is applied to held dice does what the same selector does to what they
show. The one thing that is not obvious is how it fails. It lines up the dice that
count only if it selects fewer of them, and if one of these was never thrown then some
comparison on the way has no answer, whatever the order of the comparisons. So it
fails before it has struck out any die.

## Main definitions

* `Shelf.HoldsLooseDie`: A place that holds a die of any make.
* `Shelf.Turns`: Dice turned from what they showed to something else.

## Theorems

* `LooseDie.throw_showing`: A die on the shelf is thrown as what it shows is.
* `LooseDie.isKept_showing`: It counts as what it shows does.
* `LooseDie.drop_showing`: It is struck out as what it shows is.
* `Value.isBelow?_null_left`: No value is below nothing, nor can it be asked.
* `Value.isBelow?_null_right`: It cannot be asked the other way round either.
* `Value.same_int`: Whole numbers are the same if they are equal.
* `Value.isBelow?_int`: Whole numbers are compared as such.
* `LineUp.run?_ne_null`: While a run is counted every value in it is compared with the one
  before, so none is missing.
* `LineUp.insertAll?_ne_null`: Every value that is inserted into a row is compared with
  one of the row, so none is missing.
* `LineUp.ascending?_eq_none`: Dice without a value cannot be lined up.
* `filterM_eq_ok`: Asking one by one, if every answer is there, filters.
* `LooseSelector.candidates_showing`: Of a die only what it shows decides whether it
  counts and where it stands.
* `LooseSelector.whole?_top`: Dice can be lined up by whole numbers if they have values.
* `LooseSelector.exists_null_of_values?`: Where dice have no values one of them shows
  none.
* `LooseSelector.lineUp?_top`: Two dice or more are lined up by their values, or cannot be
  if one has none.
* `LooseSelector.dropped_showing`: Which dice a selector strikes out.
* `Selector.strikeOut_cons`: Dice are struck out one after the other.
* `Selector.narrowed?_of_rolled`: Dice with values can be lined up.
* `Shelf.Turns.refl`: Dice that show what they showed.
* `Shelf.Turns.trans`: Dice that were turned and turned again.
* `Shelf.keeps_of_outside`: A cell at the place of no die of these is of no account to
  them.
* `Shelf.exists_die_of_forall₂`: At the places of held dice lie dice.
* `Shelf.die?_of_holds`: A held die is found.
* `Shelf.turns_set_head`: The first of held dice turned.
* `Shelf.Turns.cons`: A die turned in front of others that are turned after it.
* `Shelf.turns_modify`: The die at a position turned, what it shows changed by a function.
* `Shelf.turns_throwDice`: Throwing held dice.
* `Shelf.diceAt_of_holds`: Held dice are found, in order.
* `Shelf.selectable_of_holds`: Dice of any make can be selected from.
* `Shelf.exists_turns_strikeOut`: Striking out held dice.
* `Shelf.select_of_holds`: A selector applied to held dice.
* `Shelf.exists_turns_narrow`: Selectors applied to thrown dice.
-/

namespace DiceRoller

/-- The value on top of a die that shows what is given. -/
def Showing.top (d : Showing) : Value := d.value.elim .null .int

namespace LooseDie

/-- A die on the shelf is thrown as what it shows is. -/
theorem throw_showing (kind : DieSpec) (d : Showing) (draws : Draws) :
    ((ofKind kind).showing d).throw draws
      = ((ofKind kind).showing (Showing.throw kind draws).1, (Showing.throw kind draws).2) := by
  simp only [throw, Showing.throw, Draws.next, showing, ofKind, List.length_map, List.getElem?_map]
  rcases kind.distribution[draws.stream draws.taken % kind.distribution.length]? with _ | v
  · rfl
  · rfl

theorem isKept_showing (d : LooseDie) (s : Showing) : (d.showing s).isKept = .ok s.isKept := rfl

theorem drop_showing (d : LooseDie) (s : Showing) :
    (d.showing s).drop = .ok (d.showing s.drop) := rfl

end LooseDie

namespace Value

theorem isBelow?_null_left (v : Value) : isBelow? .null v = none := by
  cases v <;> simp only [isBelow?, worth?, Option.bind_eq_bind, Option.bind_none]

theorem isBelow?_null_right (v : Value) : isBelow? v .null = none := by
  cases v <;> simp only [isBelow?, worth?, Option.bind_eq_bind, Option.bind_none, Option.bind_some]

theorem same_int (m n : Int) : (Value.int m).same (.int n) = (m == n) := by
  rw [same, alike]
  exact fun h => nomatch h

theorem isBelow?_int (m n : Int) : (Value.int m).isBelow? (.int n) = some (decide (m < n)) := by
  rw [isBelow?]

end Value

namespace LineUp

/-- While a run is counted every value in it is compared with the one before, so none is
    missing. -/
theorem run?_ne_null {down : Bool} {before : Entry} {rest : List Entry} {n : Nat}
    (h : run? down before rest = some n) : ∀ e ∈ rest.take n, e.1 ≠ .null := by
  induction rest generalizing before n with
  | nil =>
      intro e he
      rw [List.take_nil] at he
      exact absurd he List.not_mem_nil
  | cons e rest ih =>
      rw [run?] at h
      rcases hb : e.1.isBelow? before.1 with _ | b
      · rw [hb] at h
        cases h
      have hne : e.1 ≠ .null := by
        intro hnull
        rw [hnull, Value.isBelow?_null_left] at hb
        cases hb
      simp only [hb, Option.bind_eq_bind, Option.bind_some] at h
      split at h
      · -- The run goes on behind this value.
        rcases hr : run? down e rest with _ | k
        · rw [hr] at h
          cases h
        rw [hr] at h
        cases h
        intro x hx
        rw [List.take_succ_cons] at hx
        rcases List.mem_cons.mp hx with rfl | hx
        · exact hne
        · exact ih hr x hx
      · cases h
        intro x hx
        rw [List.take_succ_cons, List.take_zero] at hx
        rw [List.mem_singleton.mp hx]
        exact hne

/-- Every value that is inserted into a row is compared with one of the row, so none is missing.
    -/
theorem insertAll?_ne_null {row row' : Array Entry} {rest : List Entry} (hrow : 0 < row.size)
    (h : insertAll? row rest = some row') : ∀ e ∈ rest, e.1 ≠ .null := by
  induction rest generalizing row with
  | nil => exact fun e he => absurd he List.not_mem_nil
  | cons e rest ih =>
      rw [insertAll?] at h
      rcases hp : place? row e (row.size + 1) 0 row.size with _ | k
      · rw [hp] at h
        cases h
      rw [hp] at h
      intro x hx
      rcases List.mem_cons.mp hx with rfl | hx
      · -- The row is not empty, so the value is compared with one in the middle of it.
        intro hnull
        have hmid : (0 + row.size) / 2 < row.size := by omega
        have hget := Array.getElem?_eq_getElem hmid
        rw [place?, if_neg (by omega)] at hp
        simp only [hget, hnull, Value.isBelow?_null_left] at hp
        cases hp
      · refine ih ?_ h x hx
        simp only [Array.size_append, List.size_toArray, List.length_singleton]
        omega

/-- Dice without a value cannot be lined up: each of two or more is compared with
    another at some time. -/
theorem ascending?_eq_none {entries : List Entry} (hlen : 2 ≤ entries.length)
    (h : ∃ e ∈ entries, e.1 = .null) : ascending? entries = none := by
  rcases entries with _ | ⟨first, _ | ⟨second, rest⟩⟩
  · simp only [List.length_nil] at hlen
    omega
  · simp only [List.length_singleton] at hlen
    omega
  rcases h with ⟨e, he, hnull⟩
  by_contra hsome
  rcases Option.ne_none_iff_exists'.mp hsome with ⟨line, hline⟩
  rw [ascending?] at hline
  rcases hb : second.1.isBelow? first.1 with _ | down
  · rw [hb] at hline
    cases hline
  rcases hr : run? down second rest with _ | r
  · simp only [hb, hr, Option.bind_eq_bind, Option.bind_some, Option.bind_none] at hline
    cases hline
  simp only [hb, hr, Option.bind_eq_bind, Option.bind_some] at hline
  rcases hi : insertAll? (if down then ((first :: second :: rest).take (r + 1)).reverse
      else (first :: second :: rest).take (r + 1)).toArray ((first :: second :: rest).drop (r + 1))
    with _ | row
  · rw [hi] at hline
    cases hline
  have hrow : 0 < (if down then ((first :: second :: rest).take (r + 1)).reverse
      else (first :: second :: rest).take (r + 1)).toArray.size := by
    cases down
    · exact Nat.succ_pos _
    · rw [if_pos rfl, List.size_toArray, List.length_reverse]
      exact Nat.succ_pos _
  have hbehind := insertAll?_ne_null hrow hi
  -- The first two are compared with each other, those of the run while it is counted,
  -- and all others while they are inserted.
  rcases List.mem_cons.mp he with rfl | he
  · rw [hnull, Value.isBelow?_null_right] at hb
    cases hb
  rcases List.mem_cons.mp he with rfl | he
  · rw [hnull, Value.isBelow?_null_left] at hb
    cases hb
  rw [← List.take_append_drop r rest] at he
  rcases List.mem_append.mp he with he | he
  · exact run?_ne_null hr e he hnull
  · refine hbehind e ?_ hnull
    have hdrop : rest.drop r = ((second :: rest).drop r).drop 1 := by
      rw [List.drop_drop, List.drop_succ_cons]
    rw [List.drop_succ_cons]
    rw [hdrop] at he
    exact List.mem_of_mem_drop he

end LineUp

/-- Asking one by one, if every answer is there, filters. -/
theorem filterM_eq_ok {α ε : Type} {ask : α → Except ε Bool} {p : α → Bool} {as : List α}
    (h : ∀ a ∈ as, ask a = .ok (p a)) : as.filterM ask = .ok (as.filter p) := by
  -- The answers are collected in reverse.
  have haux : ∀ (as kept : List α), (∀ a ∈ as, ask a = .ok (p a)) →
      List.filterAuxM ask as kept = .ok ((as.filter p).reverse ++ kept) := by
    intro as
    induction as with
    | nil => exact fun _ _ => rfl
    | cons a as ih =>
        intro kept h
        rw [List.filterAuxM, h a List.mem_cons_self]
        simp only [bind, Except.bind, ih _ fun b hb => h b (List.mem_cons_of_mem a hb),
          List.filter_cons]
        cases p a
        · rfl
        · simp only [cond_true, if_true, List.reverse_cons, List.append_assoc,
            List.singleton_append]
  rw [List.filterM, haux as [] h]
  simp only [bind, Except.bind, pure, Except.pure, List.append_nil, List.reverse_reverse]

namespace LooseSelector

/-- Of a die only what it shows decides whether it counts and where it stands. -/
theorem candidates_showing (dice : List (LooseDie × Showing)) :
    ∃ active : List (LooseDie × Nat),
      candidates (dice.map fun x => x.1.showing x.2) = .ok active ∧
      active.map (fun p => (p.1.top, p.2))
        = (Selector.candidates (dice.map Prod.snd)).map fun p => (p.1.top, p.2) := by
  refine ⟨_, filterM_eq_ok (p := fun p => (p.1.isKept.toOption).getD false) ?_, ?_⟩
  · intro p hp
    rw [List.zipIdx_map] at hp
    rcases List.mem_map.mp hp with ⟨q, -, rfl⟩
    rfl
  · rw [List.zipIdx_map, List.filter_map, List.map_map, Selector.candidates, List.zipIdx_map,
      List.filter_map, List.map_map]
    rfl

/-- Dice can be lined up by whole numbers if they have values. -/
theorem whole?_top (active : List (Showing × Nat)) :
    LineUp.whole? (active.map fun p => (p.1.top, p.2)) = Selector.values? active := by
  induction active with
  | nil => rfl
  | cons p active ih =>
      rw [LineUp.whole?] at ih ⊢
      rw [Selector.values?] at ih ⊢
      rw [List.map_cons, List.mapM_cons, List.mapM_cons, ih]
      rcases p with ⟨⟨_ | v, flags⟩, i⟩
      · rfl
      · rfl

/-- Where dice have no values one of them shows none. -/
theorem exists_null_of_values? {active : List (Showing × Nat)}
    (h : Selector.values? active = none) :
    ∃ e ∈ active.map fun p => (p.1.top, p.2), e.1 = .null := by
  by_contra hnone
  have hrolled : ∀ p ∈ active, p.1.value.isSome := by
    intro p hp
    rcases hv : p.1.value with _ | v
    · refine absurd ⟨_, List.mem_map_of_mem hp, ?_⟩ hnone
      simp only [Showing.top, hv, Option.elim_none]
    · rfl
  rw [Selector.values?_of_rolled hrolled] at h
  cases h

/-- Two dice or more are lined up by their values, or cannot be if one has none. -/
theorem lineUp?_top (s : Selector) {active : List (Showing × Nat)} (hlen : 2 ≤ active.length) :
    lineUp? s.high (active.map fun p => (p.1.top, p.2))
      = (Selector.values? active).map fun values => (values.mergeSort s.isBefore).map (·.2) := by
  rw [lineUp?, whole?_top]
  rcases hv : Selector.values? active with _ | values
  · have hlen' : 2 ≤ (active.map fun p => (p.1.top, p.2)).length := by
      rw [List.length_map]
      exact hlen
    rcases exists_null_of_values? hv with ⟨e, he, hnull⟩
    simp only [Option.map_none]
    split
    · -- The line is sought in reverse, which leaves the same dice in it.
      rw [LineUp.ascending?_eq_none (by rw [List.length_reverse]; exact hlen')
        ⟨e, List.mem_reverse.mpr he, hnull⟩]
      rfl
    · rw [LineUp.ascending?_eq_none hlen' ⟨e, he, hnull⟩]
      rfl
  · rfl

/-- The dice that a selector strikes out are those that it strikes out of what is shown;
    it fails where the dice cannot be lined up. -/
theorem dropped_showing {s : Selector} (hs : 1 ≤ s.num) (dice : List (LooseDie × Showing)) :
    (ofSelector s).dropped (dice.map fun x => x.1.showing x.2)
      = (s.dropped? (dice.map Prod.snd)).elim (.error .unfit) .ok := by
  rcases candidates_showing dice with ⟨active, hactive, htop⟩
  have hlen := congrArg List.length htop
  rw [List.length_map, List.length_map] at hlen
  generalize dice.map Prod.snd = shown at htop hlen ⊢
  simp only [dropped, hactive, hlen, htop, bind, Except.bind, ofSelector, Value.same_int,
    Value.isBelow?_int, Bench.compared, Selector.dropped?]
  by_cases hle : (Selector.candidates shown).length ≤ s.num
  · -- As many dice as count, or more: nothing is lined up.
    rw [if_pos hle]
    have hcount : (((Selector.candidates shown).length : Int) == (s.num : Int)
        || decide (((Selector.candidates shown).length : Int) < (s.num : Int))) = true := by
      rw [Bool.or_eq_true, beq_iff_eq, decide_eq_true_eq]
      omega
    simp only [hcount, if_true]
    rfl
  · rw [if_neg hle]
    have hcount : (((Selector.candidates shown).length : Int) == (s.num : Int)
        || decide (((Selector.candidates shown).length : Int) < (s.num : Int))) = false := by
      rw [Bool.or_eq_false_iff, beq_eq_false_iff_ne, decide_eq_false_iff_not]
      omega
    have hdown : isDownward (.bool s.high) = .ok s.high := by
      cases s.high <;> rfl
    have htwo : 2 ≤ (Selector.candidates shown).length := by omega
    simp only [hcount, hdown, Bool.false_eq_true, if_false, lineUp?_top s htwo]
    rcases Selector.values? (Selector.candidates shown) with _ | values
    · rfl
    · -- Which end of the line is struck out is told by whether the selector keeps or drops.
      have hvacant : (Value.bool s.keep).isVacant = !s.keep := rfl
      simp only [Option.map_some, Option.elim_some, hvacant]
      by_cases hk : s.keep = true
      · simp only [hk, Bool.not_true, if_true, Bool.false_eq_true, if_false, List.map_drop]
        rfl
      · simp only [hk, Bool.not_false, if_true, Bool.false_eq_true, if_false, List.map_take]
        rfl

end LooseSelector

namespace Selector

/-- Dice are struck out one after the other. -/
theorem strikeOut_cons (k : Nat) (positions : List Nat) (dice : List Showing) :
    strikeOut (k :: positions) dice = strikeOut positions (dice.modify k Showing.drop) := by
  refine List.ext_getElem? fun i => ?_
  rw [getElem?_strikeOut, getElem?_strikeOut, List.getElem?_modify, List.contains_cons,
    Option.map_eq_map, Option.map_map]
  congr 1
  funext d
  rw [Function.comp_apply]
  by_cases hi : k = i
  · rw [if_pos hi, hi, beq_self_eq_true, Bool.true_or, if_pos rfl]
    -- Striking a die out once more leaves it struck out.
    split
    · rfl
    · rfl
  · rw [if_neg hi, beq_eq_false_iff_ne.mpr (Ne.symm hi), Bool.false_or]

/-- Dice with values can be lined up. -/
theorem narrowed?_of_rolled (s : Selector) {dice : List Showing}
    (h : ∀ d ∈ dice, d.value.isSome) : s.narrowed? dice = some (s.narrow dice) := by
  have hactive : ∀ p ∈ candidates dice, p.1.value.isSome := by
    intro p hp
    have hget := List.mem_zipIdx_iff_getElem?.mp (List.mem_filter.mp hp).1
    exact h p.1 (List.mem_of_getElem? hget)
  simp only [narrow, narrowed?, dropped?, values?_of_rolled hactive]
  split
  · rfl
  · rfl

end Selector

namespace Shelf

open Bench

/-- A place holds a die of any make that shows what is given. -/
def HoldsLooseDie (shelf : Shelf) (place : Place) (x : LooseDie × Showing) : Prop :=
  shelf.cell? place = some (.die (x.1.showing x.2))

/-- Dice of one kind at given places, turned from what they showed to something else.
    Nothing changes elsewhere. -/
structure Turns (kind : DieSpec) (dice : List Place) (shown shown' : List Showing)
    (shelf shelf' : Shelf) : Prop where
  before : List.Forall₂ (shelf.HoldsDie kind) dice shown
  after : List.Forall₂ (shelf'.HoldsDie kind) dice shown'
  outside : ∀ place, place ∉ dice → shelf'.cell? place = shelf.cell? place

section Turning

variable {shelf shelf' shelf'' : Shelf} {kind : DieSpec} {dice : List Place}
  {shown shown' shown'' : List Showing}

theorem Turns.refl (h : List.Forall₂ (shelf.HoldsDie kind) dice shown) :
    Turns kind dice shown shown shelf shelf :=
  ⟨h, h, fun _ _ => rfl⟩

theorem Turns.trans (h : Turns kind dice shown shown' shelf shelf')
    (h' : Turns kind dice shown' shown'' shelf' shelf'') :
    Turns kind dice shown shown'' shelf shelf'' :=
  ⟨h.before, h'.after, fun place hp => (h'.outside place hp).trans (h.outside place hp)⟩

/-- A cell at the place of no die of these is of no account to them. -/
theorem keeps_of_outside {dice' : List Place}
    (hdice : ∀ p ∈ dice, ∃ d, shelf.cell? p = some (.die d)) (hdisj : dice.Disjoint dice')
    (hout : ∀ place, place ∉ dice → shelf'.cell? place = shelf.cell? place) :
    Keeps dice' shelf shelf' := by
  intro place c hc hdie
  by_cases hp : place ∈ dice
  · -- Here lies a die, so the place would be among the other dice as well.
    rcases hdice place hp with ⟨d, hd⟩
    rw [hd] at hc
    rw [← Option.some.inj hc] at hdie
    exact absurd (hdie trivial) (hdisj hp)
  · rw [hout place hp, hc]

/-- At the places of held dice lie dice. -/
theorem exists_die_of_forall₂ (h : List.Forall₂ (shelf.HoldsDie kind) dice shown) :
    ∀ p ∈ dice, ∃ d, shelf.cell? p = some (.die d) := by
  induction h with
  | nil => exact fun p hp => absurd hp List.not_mem_nil
  | cons hd _ ih =>
      intro p hp
      rcases List.mem_cons.mp hp with rfl | hp
      · exact ⟨_, hd⟩
      · exact ih p hp

theorem die?_of_holds {p : Place} {d : Showing} (h : shelf.HoldsDie kind p d) :
    shelf.die? p = some ((LooseDie.ofKind kind).showing d) := by
  rw [die?, h]

/-- The first of held dice turned. -/
theorem turns_set_head {p : Place} {d : Showing} (d' : Showing)
    (h : List.Forall₂ (shelf.HoldsDie kind) (p :: dice) (d :: shown)) (hp : p ∉ dice) :
    Turns kind (p :: dice) (d :: shown) (d' :: shown) shelf
      (shelf.set p (.die ((LooseDie.ofKind kind).showing d'))) := by
  rcases List.forall₂_cons.mp h with ⟨hd, hrest⟩
  have hout : ∀ q, q ≠ p →
      (shelf.set p (.die ((LooseDie.ofKind kind).showing d'))).cell? q = shelf.cell? q := by
    intro q hq
    rw [cell?_set hd, if_neg (Ne.symm hq)]
  have hkeep : Keeps dice shelf (shelf.set p (.die ((LooseDie.ofKind kind).showing d'))) :=
    keeps_of_outside (fun q hq => ⟨_, List.mem_singleton.mp hq ▸ hd⟩)
      (List.singleton_disjoint.mpr hp) fun q hq => hout q fun heq => hq (List.mem_singleton.mpr heq)
  refine ⟨h, .cons ?_ (forall₂_holdsDie_keep hrest hkeep fun q hq => hq),
    fun q hq => hout q fun heq => hq (heq ▸ List.mem_cons_self)⟩
  rw [HoldsDie, cell?_set hd, if_pos rfl]

/-- A die turned in front of others that are turned after it. -/
theorem Turns.cons {p : Place} {d : Showing} (h : Turns kind dice shown shown' shelf shelf')
    (hd : shelf.HoldsDie kind p d) (hp : p ∉ dice) :
    Turns kind (p :: dice) (d :: shown) (d :: shown') shelf shelf' :=
  ⟨.cons hd h.before, .cons ((h.outside p hp).trans hd) h.after,
    fun q hq => h.outside q fun hmem => hq (List.mem_cons_of_mem p hmem)⟩

/-- The die at a position turned, what it shows changed by a function. -/
theorem turns_modify (h : List.Forall₂ (shelf.HoldsDie kind) dice shown) (hn : dice.Nodup)
    {k : Nat} {p : Place} (hk : dice[k]? = some p) (f : Showing → Showing) :
    ∃ d, shelf.HoldsDie kind p d ∧ Turns kind dice shown (shown.modify k f) shelf
      (shelf.set p (.die ((LooseDie.ofKind kind).showing (f d)))) := by
  induction h generalizing k with
  | nil => cases hk
  | cons hd hrest ih =>
      rcases List.nodup_cons.mp hn with ⟨hp, hn'⟩
      cases k with
      | zero =>
          cases hk
          exact ⟨_, hd, turns_set_head _ (.cons hd hrest) hp⟩
      | succ k =>
          rw [List.getElem?_cons_succ] at hk
          rcases ih hn' hk with ⟨d, hd', hturns⟩
          exact ⟨d, hd', hturns.cons hd hp⟩

/-- Throwing held dice. -/
theorem turns_throwDice (h : List.Forall₂ (shelf.HoldsDie kind) dice shown) (hn : dice.Nodup)
    (draws : Draws) :
    Turns kind dice shown (Roll.throwAll kind shown.length draws).1 shelf
        (shelf.throwDice draws dice).1 ∧
      (shelf.throwDice draws dice).2 = (Roll.throwAll kind shown.length draws).2 := by
  induction dice generalizing shelf shown draws with
  | nil =>
      cases h
      exact ⟨.refl .nil, rfl⟩
  | cons p places ih =>
      rcases h with _ | @⟨_, d, _, ds, hd, hrest⟩
      rcases List.nodup_cons.mp hn with ⟨hp, hn'⟩
      have hall : List.Forall₂ (shelf.HoldsDie kind) (p :: places) (d :: ds) := .cons hd hrest
      -- The first die takes a draw, and the others are thrown where it lies already.
      have hthrow : shelf.throwDie p draws
          = (shelf.set p (.die ((LooseDie.ofKind kind).showing (Showing.throw kind draws).1)),
            (Showing.throw kind draws).2) := by
        rw [throwDie, die?_of_holds hd]
        simp only [LooseDie.throw_showing]
      have hfirst := turns_set_head (Showing.throw kind draws).1 hall hp
      rcases List.forall₂_cons.mp hfirst.after with ⟨hd', hrest'⟩
      rcases ih hrest' hn' (Showing.throw kind draws).2 with ⟨hturns, hdraws⟩
      rw [throwDice, hthrow, List.length_cons, Roll.throwAll]
      exact ⟨hfirst.trans (hturns.cons hd' hp), hdraws⟩

/-- Held dice are found, in order. -/
theorem diceAt_of_holds (h : List.Forall₂ (shelf.HoldsDie kind) dice shown) :
    shelf.diceAt dice = shown.map (LooseDie.ofKind kind).showing := by
  induction h with
  | nil => rfl
  | cons hd _ ih =>
      rw [diceAt] at ih ⊢
      rw [List.filterMap_cons, die?_of_holds hd, ih, List.map_cons]

/-- Dice of any make can be selected from. -/
theorem selectable_of_holds {faces : List (LooseDie × Showing)}
    (h : List.Forall₂ shelf.HoldsLooseDie dice faces) :
    select.selectable shelf dice = .ok (faces.map fun x => x.1.showing x.2) := by
  induction h with
  | nil => rfl
  | cons hd _ ih =>
      rw [select.selectable, die?, hd]
      simp only [LooseDie.isKept_showing, bind, Except.bind, ih]
      rfl

/-- Striking out held dice. -/
theorem exists_turns_strikeOut (h : List.Forall₂ (shelf.HoldsDie kind) dice shown)
    (hn : dice.Nodup) (positions : List Nat) :
    ∃ shelf', shelf.strikeOut dice positions = .ok shelf' ∧
      Turns kind dice shown (Selector.strikeOut positions shown) shelf shelf' := by
  induction positions generalizing shelf shown with
  | nil => exact ⟨shelf, rfl, by rw [Selector.strikeOut_nil]; exact .refl h⟩
  | cons k positions ih =>
      rw [Selector.strikeOut_cons]
      simp only [strikeOut, List.foldlM_cons, List.getElem?_toArray, bind, Except.bind] at ih ⊢
      rcases hk : dice[k]? with _ | p
      · -- No die is at the position, so none is struck out there.
        have hlen : shown.length ≤ k := by
          rw [← h.length_eq]
          exact List.getElem?_eq_none_iff.mp hk
        rw [List.modify_eq_self hlen]
        exact ih h
      · rcases turns_modify h hn hk Showing.drop with ⟨d, hd, hturns⟩
        simp only [die?_of_holds hd, LooseDie.drop_showing, pure, Except.pure]
        rcases ih hturns.after with ⟨shelf', hstrike, hturns'⟩
        exact ⟨shelf', hstrike, hturns.trans hturns'⟩

/-- A selector applied to held dice strikes out what it strikes out of what they show,
    or fails and strikes out none. -/
theorem select_of_holds (h : List.Forall₂ (shelf.HoldsDie kind) dice shown) (hn : dice.Nodup)
    {s : Selector} (hs : 1 ≤ s.num) :
    (s.narrowed? shown = none ∧ shelf.select (.ofSelector s) dice = .error .unfit) ∨
      ∃ shown' shelf', s.narrowed? shown = some shown' ∧
        shelf.select (.ofSelector s) dice = .ok shelf' ∧
        Turns kind dice shown shown' shelf shelf' := by
  have hfaces : List.Forall₂ shelf.HoldsLooseDie dice
      (shown.map fun d => (LooseDie.ofKind kind, d)) := List.forall₂_map_right_iff.mpr h
  have hshown : (shown.map fun d => (LooseDie.ofKind kind, d)).map Prod.snd = shown := by
    rw [List.map_map]
    exact List.map_id shown
  simp only [select, selectable_of_holds hfaces, LooseSelector.dropped_showing hs, hshown, bind,
    Except.bind, Selector.narrowed?]
  rcases s.dropped? shown with _ | positions
  · exact Or.inl ⟨rfl, rfl⟩
  · rcases exists_turns_strikeOut h hn positions with ⟨shelf', hstrike, hturns⟩
    exact Or.inr ⟨_, shelf', rfl, hstrike, hturns⟩

/-- Selectors applied to held dice that were thrown. -/
theorem exists_turns_narrow (h : List.Forall₂ (shelf.HoldsDie kind) dice shown) (hn : dice.Nodup)
    {selectors : List Place} {ss : List Selector}
    (hs : List.Forall₂ shelf.HoldsSelector selectors ss) (hone : ∀ s ∈ ss, 1 ≤ s.num)
    (hrolled : ∀ d ∈ shown, d.value.isSome) :
    ∃ shelf', shelf.narrow dice selectors = (shelf', none) ∧
      Turns kind dice shown (Roll.narrow ss shown) shelf shelf' := by
  induction selectors generalizing shelf shown ss with
  | nil =>
      cases hs
      exact ⟨shelf, rfl, .refl h⟩
  | cons p selectors ih =>
      rcases hs with _ | @⟨_, s, _, ss, hsel, hrest⟩
      rcases select_of_holds h hn (hone s List.mem_cons_self) with ⟨hnone, -⟩ | hsome
      · rw [s.narrowed?_of_rolled hrolled] at hnone
        cases hnone
      rcases hsome with ⟨shown', shelf', hnarrowed, hselect, hturns⟩
      rw [s.narrowed?_of_rolled hrolled] at hnarrowed
      rw [← Option.some.inj hnarrowed] at hturns
      -- A selector changes no value, and the other selectors lie elsewhere.
      have hrolled' := s.isSome_narrow hrolled
      have hkeep : Keeps [] shelf shelf' := keeps_of_outside (exists_die_of_forall₂ h)
        (List.disjoint_nil_right dice) hturns.outside
      rcases ih hturns.after (hrest.imp fun _ _ hq => hkeep _ _ hq False.elim)
        (fun t ht => hone t (List.mem_cons_of_mem s ht)) hrolled' with ⟨shelf'', hrun, hturns'⟩
      refine ⟨shelf'', ?_, hturns.trans hturns'⟩
      rw [narrow, hsel]
      simp only [hselect, hrun]

end Turning

end Shelf

end DiceRoller
