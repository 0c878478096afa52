import DiceRoller.Bench.Step
import DiceRoller.Proofs.Bench.Parts
import DiceRoller.Proofs.Bench.Reading

/-!
# Deeds at the bench

What can be done to a set that was read, and to any of its parts: it is thrown, dice
are struck out, taken back and turned by hand, and selectors are applied to rolls. Such
deeds come in any order, and the next one is done whether the last one failed or not.

One deed either changes dice of the set to what they can show, or it fails and changes
nothing. So a set stays what it was read as through any number of deeds, and only what
its dice show tells it from a fresh copy: the two are equal and are filed under the
same key. Setting marks by hand is among the deeds as well, but only what is said of
marks gives way to it.

## Main definitions

* `Deed`, `Deed.perform`, `Deed.performAll`: What is done to a set or a part of it.
* `Bench.Does`, `Bench.DoesAll`: The steps at the bench that do deeds.
* `Shelf.Stands`: A place holds a set that differs from a read one in what its dice
  show, and in nothing else.

## Theorems

* `Deed.performAll_append`: Deeds are done up to any of them, and from there on.
* `Bench.changed_fst`: A change of a die at the bench is a deed that is settled.
* `Bench.settle_draws`: Settling takes no draws.
* `Bench.take_of_does`, `Bench.takeAll_of_doesAll`: Steps at the bench do deeds.
* `LooseDie.setTop_showing`: A die is turned to the values that stand on its faces, and to
  none.
* `Shelf.reworks_set`: A die of the set that is changed to what it can show is a change of
  dice.
* `Shelf.settles_settle_error`: What fails at once changes nothing.
* `Shelf.settles_alter`: A die of the set is changed to what it can show.
* `Shelf.settles_throw`: Throwing a part of the set throws its dice.
* `Shelf.settles_select`: A selector strikes dice of a roll out, or is refused before it
  has struck out any.
* `Shelf.Stands.perform`: One deed changes dice, or fails and changes nothing.
* `Shelf.Stands.of_reworks`: A set stands where dice of it changed.
* `Shelf.Stands.performAll`: Sets through any number of deeds.
* `Shelf.exists_stands_addRollSet`: A set that was read stands where it is put on the
  shelf.
* `Shelf.Stands.weaken`: A set that stands with its marks stands without regard to them.
* `Deed.standing_performAll`: What a set that was read stays through all of them.
* `RollSet.read_upTo_twoDice`: A roll of two ordinary dice is read under every limit that
  allows it.
* `RollSet.read_twoDice`: It is read without limits too.
* `Shelf.isPart_twoDice`: The roll and its first die are parts of the set.
* `Deed.standing_performAll_two_dice`: A die is turned to a value that it does not have,
  the better of two unthrown dice is sought, and both fail.
-/

namespace DiceRoller

/-- The die at a place changed, where there is one and it can be changed so. -/
def Shelf.alter (shelf : Shelf) (place : Place)
    (change : LooseDie → Except Bench.Fault LooseDie) : Except Bench.Fault Shelf :=
  match shelf.die? place with
  | none => .error .lacking
  | some d => do return shelf.set place (.die (← change d))

/-- What is done to a set or to a part of it. -/
inductive Deed where
  /-- Throws what lies at a place. -/
  | throw (place : Place)
  /-- Strikes out a die. -/
  | drop (place : Place)
  /-- Makes a die count again. -/
  | keep (place : Place)
  /-- Turns a die to a value, or back to none. -/
  | setValue (place : Place) (value : Option Int)
  /-- Sets the marks of a die by hand. -/
  | setMarks (place : Place) (marks : Int)
  /-- Applies a selector, which has to select something, to the dice of a roll. -/
  | select (s : Selector) (hs : 1 ≤ s.num) (place : Place)

namespace Deed

/-- The place of a deed. -/
def place : Deed → Place
  | throw p => p
  | drop p => p
  | keep p => p
  | setValue p _ => p
  | setMarks p _ => p
  | select _ _ p => p

/-- The deed sets marks by hand. -/
def SetsMarks : Deed → Prop
  | setMarks _ _ => True
  | _ => False

/-- A shelf that changed, or the one before it with the fault. -/
def settle (shelf : Shelf) (draws : Draws) : Except Bench.Fault Shelf → Shelf.Change
  | .ok shelf' => ((shelf', draws), none)
  | .error f => ((shelf, draws), some f)

/-- Does a deed. -/
def perform (shelf : Shelf) (draws : Draws) : Deed → Shelf.Change
  | throw p => shelf.throw p draws
  | drop p => settle shelf draws (shelf.alter p LooseDie.drop)
  | keep p => settle shelf draws (shelf.alter p fun d => .ok d.keep)
  | setValue p v => settle shelf draws (shelf.alter p fun d => d.setTop (v.elim .null .int))
  | setMarks p n => settle shelf draws (shelf.alter p fun d => .ok { d with marks := .int n })
  | select s _ p => settle shelf draws
      (match shelf.cell? p with
        | some (.roll dice _) => shelf.select (.ofSelector s) dice
        | _ => .error .lacking)

/-- Does deeds one after the other, whether they fail or not. -/
def performAll : List Deed → Shelf → Draws → Shelf × Draws
  | [], shelf, draws => (shelf, draws)
  | d :: rest, shelf, draws =>
    let reached := (d.perform shelf draws).1
    performAll rest reached.1 reached.2

/-- Deeds are done up to any of them, and from there on. -/
theorem performAll_append (ds ds' : List Deed) (shelf : Shelf) (draws : Draws) :
    performAll (ds ++ ds') shelf draws
      = performAll ds' (performAll ds shelf draws).1 (performAll ds shelf draws).2 := by
  induction ds generalizing shelf draws with
  | nil => rfl
  | cons d ds ih => rw [List.cons_append, performAll, ih, performAll]

end Deed

namespace Bench

/-- The bench after a deed. -/
def after (b : Bench) (d : Deed) : Bench :=
  { b with
    shelf := (d.perform b.shelf b.draws).1.1
    draws := (d.perform b.shelf b.draws).1.2 }

/-- The step that does a deed, its nodes given by name. A value or marks are pinned to
    a node that is no die, which does nothing to it. -/
inductive Does (b : Bench) : Step → Deed → Prop where
  | throw {node : Text} {p : Place} (h : b.find node = .ok p) : Does b (.throw node) (.throw p)
  | drop {node : Text} {p : Place} (h : b.find node = .ok p) : Does b (.drop node) (.drop p)
  | keep {node : Text} {p : Place} (h : b.find node = .ok p) : Does b (.keep node) (.keep p)
  | setValue {node : Text} {p : Place} {d : LooseDie} (h : b.find node = .ok p)
      (hd : b.shelf.cell? p = some (.die d)) (v : Option Int) :
      Does b (.setValue node (v.elim .null .int)) (.setValue p v)
  | setMarks {node : Text} {p : Place} {d : LooseDie} (h : b.find node = .ok p)
      (hd : b.shelf.cell? p = some (.die d)) (n : Int) :
      Does b (.setFlags node (.int n)) (.setMarks p n)
  | select {node roll : Text} {p q : Place} {s : Selector} (hq : b.find roll = .ok q)
      (hp : b.find node = .ok p) (h : b.shelf.cell? p = some (.selector (.ofSelector s)))
      (hs : 1 ≤ s.num) : Does b (.selectRoll node roll) (.select s hs q)

/-- A change of a die at the bench is a deed that is settled. -/
theorem changed_fst (b : Bench) (p : Place) (change : LooseDie → Except Fault LooseDie) :
    (b.changed p change).1
      = { b with shelf := (Deed.settle b.shelf b.draws (b.shelf.alter p change)).1.1 } := by
  rw [changed, Shelf.alter]
  rcases b.shelf.die? p with _ | d
  · rfl
  · simp only
    rcases change d with f | d'
    · rfl
    · rfl

theorem settle_draws (shelf : Shelf) (draws : Draws) (e : Except Fault Shelf) :
    (Deed.settle shelf draws e).1.2 = draws := by
  cases e <;> rfl

/-- A step at the bench does its deed, and leaves the bench otherwise as it is. -/
theorem take_of_does {b : Bench} {step : Step} {d : Deed} (h : b.Does step d) :
    (b.take step).1 = b.after d := by
  cases h with
  | throw h =>
      rw [take, takeFound, h, after, Deed.perform]
      simp only [bind, Except.bind]
      -- What a throw has turned stays turned, whether it fails in the end or not.
      rcases b.shelf.throw _ b.draws with ⟨⟨shelf, draws⟩, _ | f⟩
      · rfl
      · rfl
  | drop h =>
      rw [take, takeFound, h, after, Deed.perform, settle_draws, ← changed_fst]
      rfl
  | keep h =>
      rw [take, takeFound, h, after, Deed.perform, settle_draws, ← changed_fst]
      rfl
  | setValue h hd v =>
      rw [take, takeFound, h, after, Deed.perform, settle_draws, ← changed_fst]
      simp only [bind, Except.bind, hd]
      rfl
  | setMarks h hd n =>
      rw [take, takeFound, h, after, Deed.perform, settle_draws, ← changed_fst]
      simp only [bind, Except.bind, hd]
      rfl
  | @select _ _ _ q s hq hp h hs =>
      rw [take, takeFound, hq, hp, after, Deed.perform, settle_draws]
      simp only [bind, Except.bind, h]
      rcases b.shelf.cell? q with _ | c
      · rfl
      cases c with
      | roll dice selectors =>
          simp only
          rcases b.shelf.select (.ofSelector s) dice with f | shelf
          · rfl
          · rfl
      | _ => rfl

/-- Steps that do deeds one after the other, each at the bench that the last one left. -/
inductive DoesAll : Bench → List Step → List Deed → Prop where
  | nil (b : Bench) : DoesAll b [] []
  | cons {b : Bench} {step : Step} {d : Deed} {steps : List Step} {deeds : List Deed}
      (h : b.Does step d) (hrest : DoesAll (b.after d) steps deeds) :
      DoesAll b (step :: steps) (d :: deeds)

/-- Steps at the bench do their deeds. -/
theorem takeAll_of_doesAll {b : Bench} {steps : List Step} {deeds : List Deed}
    (h : DoesAll b steps deeds) :
    ((b.takeAll steps).2.shelf, (b.takeAll steps).2.draws)
      = Deed.performAll deeds b.shelf b.draws := by
  induction h with
  | nil b => rfl
  | cons h _ ih =>
      rw [takeAll, Deed.performAll]
      simp only [take_of_does h]
      exact ih

end Bench

namespace LooseDie

/-- A die is turned to the values that stand on its faces, and to none. -/
theorem setTop_showing (kind : DieSpec) (d : Showing) (v : Option Int) :
    (∃ f, ((ofKind kind).showing d).setTop (v.elim .null .int) = .error f) ∨
      (∀ n, v = some n → n ∈ kind.distribution) ∧
        ((ofKind kind).showing d).setTop (v.elim .null .int)
          = .ok ((ofKind kind).showing { d with value := v }) := by
  rcases v with _ | n
  · exact Or.inr ⟨fun n h => absurd h (Option.some_ne_none n).symm, rfl⟩
  have hany : (kind.distribution.map Value.int).any (Value.int n).alike
      = kind.distribution.contains n := by
    rw [List.any_map, List.contains_eq_any_beq]
    rfl
  have htop : ((ofKind kind).showing d).setTop (.int n)
      = if kind.distribution.contains n then .ok ((ofKind kind).showing { d with value := some n })
        else .error (.refused
          (((kind.distribution.map Value.int).mapM Value.describe?).map Die.notAFace)) := by
    rw [← hany]
    rfl
  rw [Option.elim_some, htop]
  by_cases hn : kind.distribution.contains n = true
  · rw [if_pos hn]
    exact Or.inr ⟨fun m hm => Option.some.inj hm ▸ List.contains_iff_mem.mp hn, rfl⟩
  · rw [if_neg hn]
    exact Or.inl ⟨_, rfl⟩

end LooseDie

namespace Shelf

section Standing

variable {strict : Prop} {shelf shelf' : Shelf} {place : Place} {dice : List Place}
  {s t : RollSet}

/-- A place holds a set that differs from a read one in what its dice show, and in
    nothing else. -/
structure Stands (strict : Prop) (s : RollSet) (shelf : Shelf) (place : Place)
    (dice : List Place) (t : RollSet) : Prop where
  holds : shelf.HoldsSet place dice t
  nodup : dice.Nodup
  throwable : t.IsThrowable
  brief : t.IsBrief
  sound : t.IsSound strict
  spec : t.spec = s.spec
  shape : t.expressions.map Expression.unthrown = s.expressions

/-- A die of the set that is changed to what it can show is a change of dice. -/
theorem reworks_set {kind : DieSpec} {q : Place} {d d' : Showing} (h : shelf.HoldsDie kind q d)
    (hq : q ∈ dice) (hd' : d'.IsSound strict kind) :
    Reworks strict dice shelf (shelf.set q (.die ((LooseDie.ofKind kind).showing d'))) := by
  intro p
  by_cases hp : q = p
  · refine Or.inr ⟨hp ▸ hq, kind, d, d', hp ▸ h, ?_, hd'⟩
    rw [HoldsDie, cell?_set h, if_pos hp]
  · left
    rw [cell?_set h, if_neg hp]

/-- What a deed comes to: dice of the set changed to what they can show, or nothing
    changed and the deed failed. -/
def Settles (strict : Prop) (dice : List Place) (shelf : Shelf) (draws : Draws)
    (change : Change) : Prop :=
  (change.2 = none ∧ Reworks strict dice shelf change.1.1) ∨
    change.2 ≠ none ∧ change.1 = (shelf, draws)

theorem settles_settle_error (strict : Prop) (dice : List Place) (shelf : Shelf) (draws : Draws)
    (f : Bench.Fault) : Settles strict dice shelf draws (Deed.settle shelf draws (.error f)) :=
  Or.inr ⟨Option.some_ne_none f, rfl⟩

/-- A die of the set is changed to what it can show. -/
theorem settles_alter (hq : shelf.IsNode dice t place)
    {change : LooseDie → Except Bench.Fault LooseDie}
    (hchange : ∀ r ∈ t.rolls, ∀ d ∈ r.shown,
      (∃ f, change ((LooseDie.ofKind r.spec).showing d) = .error f) ∨
        ∃ d', d'.IsSound strict r.spec ∧
          change ((LooseDie.ofKind r.spec).showing d) = .ok ((LooseDie.ofKind r.spec).showing d'))
    (draws : Draws) :
    Settles strict dice shelf draws (Deed.settle shelf draws (shelf.alter place change)) := by
  -- What is no die cannot be changed like one, so nothing happens to it.
  have hnone : (∃ c, shelf.cell? place = some c ∧ ¬ c.IsDie) →
      Settles strict dice shelf draws (Deed.settle shelf draws (shelf.alter place change)) := by
    rintro ⟨c, hc, hdie⟩
    have hd : shelf.die? place = none := by
      rw [die?, hc]
      cases c with
      | die d => exact absurd trivial hdie
      | _ => rfl
    rw [alter, hd]
    exact settles_settle_error ..
  cases hq with
  | whole h => exact hnone (h.elim fun _ hc => ⟨_, hc.1, id⟩)
  | expression h => exact hnone (h.elim fun _ hc => ⟨_, hc.1, id⟩)
  | roll h => exact hnone (h.cell.elim fun _ hc => ⟨_, hc.1, id⟩)
  | constant h => exact hnone ⟨_, h, id⟩
  | die h hq hr hd =>
      rw [alter, die?_of_holds h]
      rcases hchange _ hr _ hd with ⟨f, hf⟩ | ⟨d', hd', hok⟩
      · simp only [hf, bind, Except.bind]
        exact settles_settle_error ..
      · simp only [hok, bind, Except.bind]
        exact Or.inl ⟨rfl, reworks_set h hq hd'⟩

/-- Throwing a part of the set throws its dice. Nothing happens to a constant. -/
theorem settles_throw (hq : shelf.IsNode dice t place) (hn : dice.Nodup) (ht : t.IsThrowable)
    (hbrief : t.IsBrief) (strict : Prop) (draws : Draws) :
    Settles strict dice shelf draws (shelf.throw place draws) := by
  have hlevels : shelf.levels = (shelf.cells.filter Cell.isHolder).size + 1 + 1 := rfl
  cases hq with
  | whole h =>
      rcases throw_of_holds h hn ht hbrief draws with ⟨shelf', hthrow, -, hrework⟩
      rw [hthrow]
      exact Or.inl ⟨rfl, hrework⟩
  | expression h hds he =>
      rcases throwExpression_of_holds h (hn.sublist hds)
        (fun r hr => ht r (List.mem_flatMap.mpr ⟨_, he, hr⟩)) (hbrief _ he) _ draws with
        ⟨shelf', hthrow, -, hrework⟩
      rw [throw, hlevels, hthrow]
      exact Or.inl ⟨rfl, hrework.mono fun _ hp => hds.subset hp⟩
  | roll h hds hr =>
      rcases throwIfRoll_of_holds h (hn.sublist hds) (ht _ hr) draws with
        ⟨shelf', hthrow, -, hrework⟩
      rcases h.cell with ⟨selectors, hc, -⟩
      -- The set is brief, so the throw can be noted and there is no fault behind it.
      have hnote : (Roll.throw _ draws).1.noteFault = none :=
        if_pos ((hbrief.of_mem_rolls hr).isNotable_throw draws)
      rw [throwIfRoll, hc, hnote] at hthrow
      rw [throw, hlevels, throwWithin, hc]
      simp only at hthrow ⊢
      rw [hthrow]
      exact Or.inl ⟨rfl, hrework.mono fun _ hp => hds.subset hp⟩
  | constant h =>
      rw [throw, hlevels, throwWithin, h]
      exact Or.inr ⟨Option.some_ne_none _, rfl⟩
  | @die r d h hq hr hd =>
      rw [throw, hlevels, throwWithin, h]
      simp only [throwDie, die?_of_holds h, LooseDie.throw_showing]
      exact Or.inl ⟨rfl, reworks_set h hq (Showing.isSound_throw strict r.spec draws)⟩

/-- A selector strikes dice of a roll out, or is refused before it has struck out any. -/
theorem settles_select (hq : shelf.IsNode dice t place) (hn : dice.Nodup) (ht : t.IsSound strict)
    {sel : Selector} (hs : 1 ≤ sel.num) (draws : Draws) :
    Settles strict dice shelf draws ((Deed.select sel hs place).perform shelf draws) := by
  rw [Deed.perform]
  cases hq with
  | whole h =>
      rcases h with ⟨places, hc, -⟩
      rw [hc]
      exact settles_settle_error ..
  | expression h =>
      rcases h with ⟨places, hc, -⟩
      rw [hc]
      exact settles_settle_error ..
  | constant h =>
      rw [h]
      exact settles_settle_error ..
  | die h =>
      rw [h]
      exact settles_settle_error ..
  | roll h hds hr =>
      rcases h.cell with ⟨selectors, hc, -⟩
      rw [hc]
      rcases select_of_holds h.shown (hn.sublist hds) hs with
        ⟨-, hselect⟩ | ⟨shown', shelf', hnarrowed, hselect, hturns⟩
      · simp only [hselect]
        exact settles_settle_error ..
      · simp only [hselect]
        have hsound := Selector.isSound_narrowed (ht _ hr) hnarrowed
        exact Or.inl ⟨rfl, (hturns.reworks hsound).mono fun _ hp => hds.subset hp⟩

/-- One deed on a part of a set changes dice, or fails and changes nothing. -/
theorem Stands.perform (h : shelf.Stands strict s place dice t) {d : Deed}
    (hd : shelf.IsPart place d.place) (hmarks : strict → ¬ d.SetsMarks) (draws : Draws) :
    Settles strict dice shelf draws (d.perform shelf draws) := by
  have hnode := isNode_of_isPart h.holds hd
  cases d with
  | throw p => exact settles_throw hnode h.nodup h.throwable h.brief strict draws
  | drop p =>
      exact settles_alter hnode (fun r hr d hd => Or.inr ⟨_, (h.sound r hr d hd).drop, rfl⟩) draws
  | keep p =>
      exact settles_alter hnode (fun r hr d hd => Or.inr ⟨_, (h.sound r hr d hd).keep, rfl⟩) draws
  | setValue p v =>
      refine settles_alter hnode (fun r hr d hd => ?_) draws
      rcases LooseDie.setTop_showing r.spec d v with hf | ⟨hv, hok⟩
      · exact Or.inl hf
      · exact Or.inr ⟨_, (h.sound r hr d hd).setValue hv, hok⟩
  | setMarks p n =>
      refine settles_alter hnode (fun r hr d hd => Or.inr ⟨{ d with flags := n }, ?_, rfl⟩) draws
      exact (h.sound r hr d hd).mark (fun hs => hmarks hs trivial) n
  | select sel hs p => exact settles_select hnode h.nodup h.sound hs draws

/-- A set stands where dice of it changed. -/
theorem Stands.of_reworks (h : shelf.Stands strict s place dice t)
    (hrework : Reworks strict dice shelf shelf') :
    ∃ t', shelf'.Stands strict s place dice t' := by
  rcases exists_holdsSet_of_reworks h.holds hrework h.sound with ⟨t', hholds, hspec, hshape, hsound⟩
  exact ⟨t', hholds, h.nodup, h.throwable.of_shape hshape, h.brief.of_shape hshape, hsound,
    hspec.trans h.spec, hshape.trans h.shape⟩

/-- Deeds on parts of a set leave it standing, and its parts where they are. -/
theorem Stands.performAll (h : shelf.Stands strict s place dice t) {deeds : List Deed}
    (hdeeds : ∀ d ∈ deeds, shelf.IsPart place d.place ∧ (strict → ¬ d.SetsMarks)) (draws : Draws) :
    ∃ t', (Deed.performAll deeds shelf draws).1.Stands strict s place dice t' ∧
      ∀ q, shelf.IsPart place q → (Deed.performAll deeds shelf draws).1.IsPart place q := by
  induction deeds generalizing shelf t draws with
  | nil => exact ⟨t, h, fun _ hq => hq⟩
  | cons d deeds ih =>
      rcases hdeeds d List.mem_cons_self with ⟨hd, hmarks⟩
      have hrest := fun d' hd' => hdeeds d' (List.mem_cons_of_mem d hd')
      rw [Deed.performAll]
      rcases h.perform hd hmarks draws with ⟨-, hrework⟩ | ⟨-, heq⟩
      · rcases h.of_reworks hrework with ⟨t', h'⟩
        rcases ih h' (fun d' hd' => (hrest d' hd').imp_left hrework.isPart)
          (d.perform shelf draws).1.2 with ⟨t'', h'', hparts⟩
        exact ⟨t'', h'', fun q hq => hparts q (hrework.isPart hq)⟩
      · -- The deed failed, and the others are done where it was tried.
        simp only [heq]
        exact ih h hrest draws

/-- A set that was read stands where it is put on the shelf. -/
theorem exists_stands_addRollSet {maxDice maxFaces : Nat} {text : Text}
    (h : RollSet.read (.upTo maxDice maxFaces) text = .ok s) (shelf : Shelf) :
    ∃ dice, Adds shelf (shelf.addRollSet s).2 dice ∧
      (shelf.addRollSet s).2.Stands True s (shelf.addRollSet s).1 dice s := by
  rcases RollSet.standing_of_read h with ⟨hthrowable, hsound, hshape, hsigns, hdice⟩
  rcases shelf.exists_holdsSet_addRollSet hsigns hdice with ⟨dice, hadds, hholds⟩
  exact ⟨dice, hadds, hholds, hadds.nodup, hthrowable, RollSet.isBrief_of_read h, hsound, rfl,
    hshape⟩

/-- A set that stands with its marks stands without regard to them. -/
theorem Stands.weaken (h : shelf.Stands True s place dice t) :
    shelf.Stands strict s place dice t :=
  ⟨h.holds, h.nodup, h.throwable, h.brief, fun r hr d hd =>
    ⟨(h.sound r hr d hd).value, fun _ => (h.sound r hr d hd).flags trivial⟩, h.spec, h.shape⟩

end Standing

end Shelf

/-- What a set that was read stays through any number of deeds on it and its parts.
    Every die shows one of its values or none, and it either counts or is struck out.
    All else is as it was read, so a fresh copy equals the set and is filed under the
    same key. And a further deed that fails changes nothing. -/
theorem Deed.standing_performAll (dice faces : Option ℕ+) (text : Text) (s : RollSet)
    (h : RollSet.read (.ofBounds dice faces) text = .ok s) (shelf : Shelf) (draws : Draws)
    (deeds : List Deed) (start reached copied : Shelf) (p q : Place) (left : Draws)
    (hstart : shelf.addRollSet s = (p, start))
    (hdeeds : ∀ d ∈ deeds, start.IsPart p d.place ∧ ¬ d.SetsMarks)
    (hreached : performAll deeds start draws = (reached, left))
    (hcopied : reached.addRollSet s = (q, copied)) :
    (∃ places t, reached.HoldsSet p places t ∧ t.spec = s.spec ∧
      t.expressions.map Expression.unthrown = s.expressions ∧
      ∀ r ∈ t.rolls, ∀ d ∈ r.shown,
        (∀ v, d.value = some v → v ∈ r.spec.distribution) ∧ d.isDropped = !d.isKept) ∧
    copied.same p q = .ok true ∧ copied.same q p = .ok true ∧
    (∃ k, copied.key p = .ok k ∧ copied.key q = .ok k) ∧
    ∀ d : Deed, start.IsPart p d.place → ¬ d.SetsMarks → (d.perform reached left).2 ≠ none →
      (d.perform reached left).1 = (reached, left) := by
  rw [Limits.ofBounds_eq_upTo] at h
  rcases Shelf.exists_stands_addRollSet h shelf with ⟨places, -, hfirst⟩
  rw [hstart] at hfirst
  rcases hfirst.performAll (fun d hd => (hdeeds d hd).imp_right fun hm _ => hm) draws with
    ⟨t, ht, hparts⟩
  rw [hreached] at ht hparts
  -- The copy is put beside the set, which does not notice.
  rcases Shelf.exists_stands_addRollSet h reached with ⟨places', hadds, hcopy⟩
  rw [hcopied] at hadds hcopy
  have hheld : copied.HoldsSet p places t := ht.holds.keep (hadds.keep places)
  have hshape : t.expressions.map Expression.unthrown = s.expressions.map Expression.unthrown :=
    ht.shape.trans hcopy.shape.symm
  refine ⟨⟨places, t, ht.holds, ht.spec, ht.shape, fun r hr d hd => ?_⟩,
    Shelf.same_of_holds hheld hcopy.holds hshape, Shelf.same_of_holds hcopy.holds hheld hshape.symm,
    ⟨s.key, ?_, Shelf.key_of_holds hcopy.holds hcopy.brief⟩, fun d hd hmarks hfault => ?_⟩
  · exact ⟨(ht.sound r hr d hd).value, (ht.sound r hr d hd).isDropped_eq⟩
  · rw [Shelf.key_of_holds hheld ht.brief, RollSet.key_eq_of_unthrown hshape]
  · rcases ht.perform (hparts _ hd) (fun _ => hmarks) left with ⟨hnone, -⟩ | ⟨-, heq⟩
    · exact absurd hnone hfault
    · exact heq

/-- A roll of two ordinary dice. -/
def RollSet.twoDice : RollSet :=
  ⟨[⟨[(.plus, .roll (.fresh 2 (.plain 6) []))]⟩], some ['2', 'd', '6']⟩

/-- A roll of two ordinary dice is read under every limit that allows it. -/
theorem RollSet.read_upTo_twoDice {most sides : Nat} (hmost : 2 ≤ most) (hsides : 6 ≤ sides) :
    RollSet.read (.upTo most sides) ['2', 'd', '6'] = .ok .twoDice :=
  RollSet.read_text (⟨.empty, ⟨none,
    .roll ⟨.ofCommon 2 (by decide), Nat.two_pos, hmost,
      .numbered (.ofCommon 6 (by decide)) (by decide) hsides (by decide), []⟩, []⟩, [],
    .blanks .empty⟩ : NotationForm most sides)

theorem RollSet.read_twoDice :
    RollSet.read (.ofBounds none none) ['2', 'd', '6'] = .ok .twoDice := by
  rw [Limits.ofBounds_eq_upTo]
  exact read_upTo_twoDice (by decide) (by decide)

/-- The roll and its first die are parts of the set. -/
theorem Shelf.isPart_twoDice :
    (addRollSet {} .twoDice).2.IsPart 4 2 ∧ (addRollSet {} .twoDice).2.IsPart 4 0 := by
  have hset : (addRollSet {} .twoDice).2.IsPart 4 4 := .self
  have hexpression : IsPart _ 4 3 := hset.under rfl List.mem_cons_self
  have hroll : IsPart _ 4 2 := hexpression.under rfl List.mem_cons_self
  exact ⟨hroll, hroll.under rfl List.mem_cons_self⟩

-- A die is turned to a value that it does not have, the better of two unthrown dice is
-- sought, and both fail. Then the set is thrown and the first die struck out.
theorem Deed.standing_performAll_two_dice :
    RollSet.read (.ofBounds none none) ['2', 'd', '6'] = .ok .twoDice ∧
      ∃ start reached copied p q left, ({} : Shelf).addRollSet .twoDice = (p, start) ∧
        performAll [.setValue 0 (some 7), .select ⟨true, true, 1⟩ (by decide) 2, .throw 4, .drop 0]
          start ⟨fun k => k, 0⟩ = (reached, left) ∧
        reached.addRollSet .twoDice = (q, copied) ∧ left.taken = 2 ∧
        copied.same p q = .ok true ∧ ∃ k, copied.key p = .ok k ∧ copied.key q = .ok k := by
  have hall := Deed.standing_performAll none none _ _ RollSet.read_twoDice {} ⟨fun k => k, 0⟩
    [.setValue 0 (some 7), .select ⟨true, true, 1⟩ (by decide) 2, .throw 4, .drop 0]
    _ _ _ _ _ _ rfl ?_ rfl rfl
  · exact ⟨RollSet.read_twoDice, _, _, _, _, _, _, rfl, rfl, rfl, rfl, hall.2.1, hall.2.2.2.1⟩
  · intro d hd
    rcases Shelf.isPart_twoDice with ⟨hroll, hdie⟩
    simp only [List.mem_cons, List.not_mem_nil, or_false] at hd
    rcases hd with rfl | rfl | rfl | rfl
    · exact ⟨hdie, id⟩
    · exact ⟨hroll, id⟩
    · exact ⟨.self, id⟩
    · exact ⟨hdie, id⟩

end DiceRoller
