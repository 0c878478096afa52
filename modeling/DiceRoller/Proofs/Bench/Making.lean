import DiceRoller.Bench.Step
import DiceRoller.Proofs.Bench.Building

/-!
# Making nodes at the bench

The steps that fill a shelf. Nodes are put together of whole numbers, truth values,
signs and nodes that have a name, dice are thrown, turned and struck out, and anything
is asked. Such steps come in any order and may fail, and the shelf is always one that
is built. What a step makes is added behind all that is there, so names stay good.

The steps that are left out put something else on the shelf: whole sets that are read,
nodes of no kind of their own, or terms that are added to an expression later, which is
how a node becomes part of itself.

## Main definitions

* `Shelf.Turned`: A shelf after dice on it were turned or marked.
* `Bench.Makes`, `Bench.Turns`, `Bench.Asks`: The steps.
* `Bench.IsMade`: A bench that such steps lead to.

## Theorems

* `Shelf.Turned.trans`: Turning and turning on.
* `Shelf.Turned.built`: A built shelf is built after dice on it were turned.
* `Shelf.Turned.exists_cell`: Nothing is taken off a shelf.
* `Shelf.cell?_of_die?`: A die that is found is the cell that lies there.
* `Shelf.turned_set`: Putting a die back with something else on top turns it.
* `Shelf.turned_throwDie`: Throwing a die turns it, and throwing what is no die turns
  nothing.
* `Shelf.turned_throwDice`: Throwing dice turns them.
* `Shelf.turned_strikeOut`: Striking dice out marks them.
* `Shelf.turned_narrow`: Selectors in a row turn no die, also where one of them fails.
* `Shelf.turned_throwRoll`: Throwing a roll turns its dice, whether it can be noted or
  not.
* `Shelf.turned_throwEach`: Throwing one thing after another turns dice, if throwing each
  of them does.
* `Shelf.turned_throwIfRoll`: Throwing what may be a roll turns dice.
* `Shelf.turned_throwWithin`: Throwing at any number of levels turns dice.
* `Shelf.turned_throw`, `Shelf.turned_select`: Throwing and selecting turn dice.
* `Shelf.IsWhole.exists_cell_of_mem_children`: Below a node of a shelf of whole cells
  there are nodes.
* `Bench.IsStocked.turned`: Turning dice leaves a bench stocked.
* `Bench.IsStocked.call`: So does naming a node that is there.
* `Bench.IsStocked.pin`: So does pinning a value to a node.
* `Bench.IsStocked.added`: What is made is put behind all that is there.
* `Bench.IsStocked.make`: So does making a node.
* `Bench.IsStocked.made`: So does trying to make one.
* `Bench.IsStocked.changed`: A die is changed in nothing but what it shows and how it is
  marked.
* `Bench.IsStocked.exists_cell`: A name leads to a node.
* `Bench.exists_of_map`: What a step that succeeds was made from.
* `Bench.exists_of_mem_mapM`: What one of some steps that succeed was made from.
* `Bench.IsStocked.makeRoll`: Trying to make a roll leaves a bench stocked.
* `Bench.exists_terms_of_mapM`: Terms with signs in front of them stay what they are once
  their nodes are found.
* `Bench.IsStocked.takeFound_of_makes`: A step that puts nodes together leaves a bench
  stocked.
* `Bench.IsStocked.takeFound_of_turns`: So does a step that turns dice.
* `Bench.takeFound_of_asks`: A step that asks changes nothing.
* `Bench.IsStocked.take`: A step leaves the shelf built and the names good.
* `Bench.IsMade.takeAll`: Such steps in a row lead from a made bench to a made bench.
* `Bench.IsMade.isStocked`: So do any number of them.
-/

namespace DiceRoller

namespace Shelf

open Bench

/-- A shelf after dice on it were turned or marked. -/
inductive Turned (shelf : Shelf) : Shelf → Prop where
  | refl : Turned shelf shelf
  | turn {shelf' : Shelf} {q : Place} {d : LooseDie} (h : Turned shelf shelf')
      (hd : shelf'.cell? q = some (.die d)) (top marks : Value) :
      Turned shelf (shelf'.set q (.die { d with top := top, marks := marks }))

section Turning

variable {shelf shelf' shelf'' : Shelf} {place q : Place} {d : LooseDie}

/-- Turning and turning on. -/
theorem Turned.trans (h : shelf.Turned shelf') (h' : shelf'.Turned shelf'') :
    shelf.Turned shelf'' := by
  induction h' with
  | refl => exact h
  | turn _ hd top marks ih => exact ih.turn hd top marks

theorem Turned.built (h : shelf.Turned shelf') (hbuilt : shelf.Built) : shelf'.Built := by
  induction h with
  | refl => exact hbuilt
  | turn _ hd top marks ih => exact ih.turned hd top marks

/-- Nothing is taken off a shelf. -/
theorem Turned.exists_cell (h : shelf.Turned shelf') (hc : ∃ c, shelf.cell? place = some c) :
    ∃ c, shelf'.cell? place = some c := by
  induction h with
  | refl => exact hc
  | turn _ hd top marks ih =>
      rw [cell?_set hd]
      split
      · exact ⟨_, rfl⟩
      · exact ih

/-- A die that is found is the cell that lies there. -/
theorem cell?_of_die? (h : shelf.die? q = some d) : shelf.cell? q = some (.die d) := by
  rw [die?] at h
  split at h
  · next hc =>
      cases h
      exact hc
  · cases h

theorem turned_set (h : shelf.die? q = some d) (top marks : Value) :
    shelf.Turned (shelf.set q (.die { d with top := top, marks := marks })) :=
  Turned.refl.turn (cell?_of_die? h) top marks

/-- Throwing a die turns it, and throwing what is no die turns nothing. -/
theorem turned_throwDie (shelf : Shelf) (place : Place) (draws : Draws) :
    shelf.Turned (shelf.throwDie place draws).1 := by
  rw [throwDie]
  split
  · next h => exact turned_set h _ _
  · exact .refl

/-- Throwing dice turns them. -/
theorem turned_throwDice (shelf : Shelf) (draws : Draws) (dice : List Place) :
    shelf.Turned (shelf.throwDice draws dice).1 := by
  induction dice generalizing shelf draws with
  | nil => exact .refl
  | cons p dice ih => exact (shelf.turned_throwDie p draws).trans (ih _ _)

/-- Striking dice out marks them. -/
theorem turned_strikeOut {dice : List Place} {positions : List Nat}
    (h : shelf.strikeOut dice positions = .ok shelf') : shelf.Turned shelf' := by
  induction positions generalizing shelf with
  | nil =>
      cases h
      exact .refl
  | cons k positions ih =>
      rw [strikeOut, List.foldlM_cons] at h
      rcases Reader.bind_eq_ok h with ⟨struck, hstruck, hrest⟩
      refine Turned.trans ?_ (ih hrest)
      split at hstruck
      · cases hstruck
        exact .refl
      · split at hstruck
        · cases hstruck
        · next d hd =>
            rcases Reader.bind_eq_ok hstruck with ⟨d', hd', hset⟩
            rcases Reader.bind_eq_ok hd' with ⟨-, -, hdrop⟩
            cases hdrop
            cases hset
            exact turned_set hd _ _

/-- A selector turns no die, but marks some. -/
theorem turned_select {s : LooseSelector} {dice : List Place}
    (h : shelf.select s dice = .ok shelf') : shelf.Turned shelf' := by
  rcases Reader.bind_eq_ok h with ⟨ds, -, h⟩
  rcases Reader.bind_eq_ok h with ⟨positions, -, h⟩
  exact turned_strikeOut h

/-- Selectors in a row turn no die, also where one of them fails. -/
theorem turned_narrow (shelf : Shelf) (dice selectors : List Place) :
    shelf.Turned (shelf.narrow dice selectors).1 := by
  induction selectors generalizing shelf with
  | nil => exact .refl
  | cons p selectors ih =>
      rw [narrow]
      split
      · split
        · next h => exact (turned_select h).trans (ih _)
        · exact .refl
      · exact .refl

/-- Throwing a roll turns its dice, whether it can be noted or not. -/
theorem turned_throwRoll (shelf : Shelf) (draws : Draws) (dice selectors : List Place) :
    shelf.Turned (shelf.throwRoll draws dice selectors).1.1 := by
  have hboth := (shelf.turned_throwDice draws dice).trans (turned_narrow _ dice selectors)
  rw [throwRoll]
  simp only
  -- The throw may fail at a selector, or at the note that is taken of it.
  split
  · next hnarrow =>
      rw [hnarrow] at hboth
      exact hboth
  · next hnarrow =>
      rw [hnarrow] at hboth
      split
      · exact hboth
      · exact hboth

/-- Throwing one thing after another turns dice, if throwing each of them does. -/
theorem turned_throwEach {throwAt : Place → Shelf → Draws → Change}
    (h : ∀ p (shelf : Shelf) draws, shelf.Turned (throwAt p shelf draws).1.1) (shelf : Shelf)
    (draws : Draws) (places : List Place) :
    shelf.Turned (throwEach throwAt shelf draws places).1.1 := by
  induction places generalizing shelf draws with
  | nil => exact .refl
  | cons p places ih =>
      have hfirst := h p shelf draws
      rw [throwEach]
      split
      · next heq =>
          rw [heq] at hfirst
          exact hfirst.trans (ih _ _)
      · next heq =>
          rw [heq] at hfirst
          exact hfirst

/-- Throwing what may be a roll turns dice. -/
theorem turned_throwIfRoll (place : Place) (shelf : Shelf) (draws : Draws) :
    shelf.Turned (throwIfRoll place shelf draws).1.1 := by
  rw [throwIfRoll]
  split
  · exact turned_throwRoll ..
  · exact .refl

/-- Throwing at any number of levels turns dice. -/
theorem turned_throwWithin (levels : Nat) (place : Place) (shelf : Shelf) (draws : Draws) :
    shelf.Turned (throwWithin levels place shelf draws).1.1 := by
  -- A group goes one level down, so by induction on the levels.
  induction levels generalizing place shelf draws with
  | zero => exact .refl
  | succ levels ih =>
      rw [throwWithin]
      split
      · exact turned_throwDie ..
      · exact turned_throwRoll ..
      · exact turned_throwEach turned_throwIfRoll ..
      · exact turned_throwEach ih ..
      · exact .refl

/-- A throw turns dice, also when it fails in the end. -/
theorem turned_throw (shelf : Shelf) (place : Place) (draws : Draws) :
    shelf.Turned (shelf.throw place draws).1.1 :=
  turned_throwWithin ..

/-- Below a node of a shelf of whole cells there are nodes. -/
theorem IsWhole.exists_cell_of_mem_children {places : List Place} (h : shelf.IsWhole)
    (hplaces : shelf.children place = .ok places) (hq : q ∈ places) :
    ∃ c, shelf.cell? q = some c := by
  rcases hc : shelf.cell? place with _ | c
  · rw [children, hc] at hplaces
    cases hplaces
  rw [children, hc] at hplaces
  have hwhole := h place c hc
  cases c with
  | die d =>
      cases hplaces
      exact absurd hq List.not_mem_nil
  | constant n =>
      cases hplaces
      exact absurd hq List.not_mem_nil
  | selector s => cases hplaces
  | roll dice selectors =>
      cases hplaces
      exact (hwhole.2.1 q hq).imp' _ fun d hd => hd
  | expression terms =>
      cases hplaces
      rcases List.mem_map.mp hq with ⟨t, ht, rfl⟩
      exact exists_cell?_of_lt hc (hwhole t ht).1
  | rollSet expressions spec =>
      cases hplaces
      exact exists_cell?_of_lt hc (hwhole q hq)
  | group nodes => cases hwhole
  | abstract => cases hwhole

end Turning

end Shelf

namespace Bench

/-- The steps that put nodes together of whole numbers, truth values, signs and other
    nodes. -/
inductive Makes (b : Bench) : Step → Prop where
  | die (name : Text) (faces : Int) (values : Option (List Int)) (top marks : Value) :
      Makes b (.die name (.int faces) (values.elim .null fun ns => .list (ns.map .int)) top marks)
  | fate (name : Text) (top marks : Value) : Makes b (.fate name top marks)
  | constant (name : Text) (n : Int) : Makes b (.constant name (.int n))
  | selector (name : Text) (keep high : Bool) (num : Int) :
      Makes b (.selector name (.bool keep) (.bool high) (.int num))
  | selectorOfKind (name kind : Text) (num : Int) :
      Makes b (.selectorOfKind name (.text kind) (.int num))
  | roll (name : Text) (quantity : Int) (die : Option Text) {selectors : List Text}
      (hs : ∀ s ∈ selectors, ∀ q, b.find s = .ok q → ∃ t, b.shelf.cell? q = some (.selector t)) :
      Makes b (.roll name (.int quantity) die selectors)
  | expression (name : Text) (terms : List (Text × Text)) :
      Makes b (.expression name (terms.map fun t => (.text t.1, t.2)))
  | rollSet (name : Text) (expressions : List Text) (spec : Value) :
      Makes b (.rollSet name expressions spec)
  | duplicate (name : Option Text) (node : Text) : Makes b (.duplicate name node)
  | child (name node : Text) (index : Value) : Makes b (.child name node index)

/-- The steps that turn and mark dice. -/
inductive Turns : Step → Prop where
  | setValue (node : Text) (value : Value) : Turns (.setValue node value)
  | setFlags (node : Text) (flags : Value) : Turns (.setFlags node flags)
  | throw (node : Text) : Turns (.throw node)
  | drop (node : Text) : Turns (.drop node)
  | keep (node : Text) : Turns (.keep node)
  | select (node : Text) (dice : List Text) : Turns (.select node dice)
  | selectRoll (node roll : Text) : Turns (.selectRoll node roll)

/-- The steps that change nothing. -/
inductive Asks : Step → Prop where
  | compare (first second : Text) : Asks (.compare first second)
  | distinct (nodes : List Text) : Asks (.distinct nodes)
  | totalsTable (sets : List Text) : Asks (.totalsTable sets)
  | ask (question : Question) (node : Text) : Asks (.ask question node)

/-- All these steps. -/
def IsPlain (b : Bench) (s : Step) : Prop := b.Makes s ∨ Turns s ∨ Asks s

/-- A bench that such steps lead to. -/
inductive IsMade : Bench → Prop where
  | start (draws : Draws) : IsMade { draws := draws }
  | step {b : Bench} {s : Step} (h : IsMade b) (hs : b.IsPlain s) : IsMade (b.take s).1

/-- The shelf is built, and names are those of nodes. -/
structure IsStocked (b : Bench) : Prop where
  built : b.shelf.Built
  named : ∀ e ∈ b.names, ∃ c, b.shelf.cell? e.2 = some c

section Stock

variable {b : Bench} {shelf : Shelf} {place : Place}

theorem IsStocked.turned (h : b.IsStocked) (hturned : b.shelf.Turned shelf) (draws : Draws) :
    IsStocked { b with shelf := shelf, draws := draws } :=
  ⟨hturned.built h.built, fun e he => hturned.exists_cell (h.named e he)⟩

theorem IsStocked.call (h : b.IsStocked) (name : Text) (hc : ∃ c, b.shelf.cell? place = some c) :
    (b.call name place).IsStocked := by
  refine ⟨h.built, fun e he => ?_⟩
  rcases List.mem_cons.mp he with rfl | he
  · exact hc
  · exact h.named e he

theorem IsStocked.pin (h : b.IsStocked) (q : Question) (v : Value) :
    (b.pin place q v).IsStocked :=
  ⟨h.built, h.named⟩

/-- What is made is put behind all that is there. -/
theorem IsStocked.added (h : b.IsStocked) (name : Text) {dice : List Place}
    (hadds : Shelf.Adds b.shelf shelf dice) (hbuilt : shelf.Built)
    (hc : ∃ c, shelf.cell? place = some c) :
    (Bench.call { b with shelf := shelf } name place).IsStocked := by
  have hadded : IsStocked { b with shelf := shelf } :=
    ⟨hbuilt, fun e he => (h.named e he).imp fun c hc => hadds.keeps e.2 c hc⟩
  exact hadded.call name hc

theorem IsStocked.make (h : b.IsStocked) (name : Text) {c : Cell}
    (hc : (b.shelf.add c).2.Built) : (b.make name c).IsStocked :=
  h.added name (b.shelf.adds_add c) hc ⟨c, b.shelf.cell?_add c⟩

theorem IsStocked.made (h : b.IsStocked) (name : Text) {e : Except Fault Cell}
    (he : ∀ c, e = .ok c → (b.shelf.add c).2.Built) : (b.made name e).1.IsStocked := by
  rcases e with f | c
  · exact h
  · exact h.make name (he c rfl)

/-- A die is changed in nothing but what it shows and how it is marked. -/
theorem IsStocked.changed (h : b.IsStocked) (place : Place)
    {change : LooseDie → Except Fault LooseDie}
    (hchange : ∀ d d', change d = .ok d' →
      ∃ top marks, d' = { d with top := top, marks := marks }) :
    (b.changed place change).1.IsStocked := by
  rw [Bench.changed]
  split
  · exact h
  · next d hd =>
      rcases hd' : change d with f | d'
      · exact h
      · rcases hchange d d' hd' with ⟨top, marks, rfl⟩
        exact h.turned (Shelf.turned_set hd top marks) b.draws

/-- A name leads to a node. -/
theorem IsStocked.exists_cell (h : b.IsStocked) {name : Text} (hfind : b.find name = .ok place) :
    ∃ c, b.shelf.cell? place = some c := by
  rw [find] at hfind
  split at hfind
  · next e he =>
      cases hfind
      exact h.named e (List.mem_of_find?_eq_some he)
  · cases hfind

/-- What a step that succeeds was made from. -/
theorem exists_of_map {α β ε : Type} {f : α → β} {e : Except ε α} {y : β} (h : e.map f = .ok y) :
    ∃ a, e = .ok a ∧ y = f a := by
  rcases e with e | a
  · cases h
  · exact ⟨a, rfl, (Except.ok.inj h).symm⟩

/-- What one of some steps that succeed was made from. -/
theorem exists_of_mem_mapM {α β ε : Type} {f : α → Except ε β} {as : List α} {bs : List β} {y : β}
    (h : as.mapM f = .ok bs) (hy : y ∈ bs) : ∃ a ∈ as, f a = .ok y := by
  induction as generalizing bs with
  | nil =>
      cases h
      exact absurd hy List.not_mem_nil
  | cons a as ih =>
      rw [List.mapM_cons] at h
      rcases Reader.bind_eq_ok h with ⟨x, ha, h⟩
      rcases Reader.bind_eq_ok h with ⟨xs, has, h⟩
      cases h
      rcases List.mem_cons.mp hy with rfl | hy
      · exact ⟨a, List.mem_cons_self, ha⟩
      · exact (ih has hy).imp fun a' ha' => ⟨List.mem_cons_of_mem a ha'.1, ha'.2⟩

/-- Trying to make a roll leaves a bench stocked. -/
theorem IsStocked.makeRoll (h : b.IsStocked) (name : Text) (quantity : Int) (die : Option Place)
    {selectors : List Place} (hs : ∀ q ∈ selectors, ∃ s, b.shelf.cell? q = some (.selector s)) :
    (b.makeRoll name (.int quantity) die selectors).1.IsStocked := by
  unfold Bench.makeRoll
  simp only
  split
  · exact h
  · exact h
  · next n d hn hd =>
      have hone : 1 ≤ n := by
        rcases Reader.bind_eq_ok hn with ⟨_, hleast, hn⟩
        have hleast := one_le_of_atLeastOne hleast
        cases hn
        omega
      -- Without a die the roll has six-sided ones, otherwise copies of one that is there.
      have hd' : d = .ofKind (.plain 6) ∨ ∃ q, b.shelf.cell? q = some (.die d) := by
        rcases die with _ | q
        · exact .inl (Option.some.inj hd).symm
        · exact .inr ⟨q, Shelf.cell?_of_die? hd⟩
      have hadds := (b.shelf.adds_addAll (List.replicate n (.die d.fresh))).1.trans
        (Shelf.adds_add _ (.roll (b.shelf.addAll (List.replicate n (.die d.fresh))).1 selectors))
      exact h.added name hadds (h.built.roll hone hd' hs) ⟨_, Shelf.cell?_add _ _⟩

/-- Terms with signs in front of them stay what they are once their nodes are found. -/
theorem exists_terms_of_mapM {terms : List (Text × Text)} {found : List (Value × Place)}
    (h : (terms.map fun t => (Value.text t.1, t.2)).mapM (fun t => do return (t.1, ← b.find t.2))
      = .ok found) :
    ∃ ts : List (Text × Place), found = ts.map (fun t => (.text t.1, t.2)) ∧
      ∀ t ∈ ts, ∃ name, b.find name = .ok t.2 := by
  induction terms generalizing found with
  | nil =>
      cases h
      exact ⟨[], rfl, fun t ht => absurd ht List.not_mem_nil⟩
  | cons t terms ih =>
      rw [List.map_cons, List.mapM_cons] at h
      rcases Reader.bind_eq_ok h with ⟨x, hx, h⟩
      rcases Reader.bind_eq_ok hx with ⟨q, hq, hx⟩
      rcases Reader.bind_eq_ok h with ⟨xs, hxs, h⟩
      cases hx
      cases h
      rcases ih hxs with ⟨ts, rfl, hts⟩
      refine ⟨(t.1, q) :: ts, rfl, fun t' ht' => ?_⟩
      rcases List.mem_cons.mp ht' with rfl | ht'
      · exact ⟨t.2, hq⟩
      · exact hts t' ht'

/-- A step that puts nodes together leaves a bench stocked. -/
theorem IsStocked.takeFound_of_makes (h : b.IsStocked) {s : Step} (hs : b.Makes s)
    {r : Bench × Except Fault Answer} (hr : b.takeFound s = .ok r) : r.1.IsStocked := by
  cases hs with
  | die name faces values top marks =>
      cases hr
      refine h.made name fun c hc => ?_
      rcases exists_of_map hc with ⟨d, hd, rfl⟩
      exact h.built.die hd
  | fate name top marks =>
      cases hr
      refine h.made name fun c hc => ?_
      rcases exists_of_map hc with ⟨d, hd, rfl⟩
      exact h.built.fate hd
  | constant name n =>
      cases hr
      refine h.made name fun c hc => ?_
      cases hc
      exact h.built.constant n
  | selector name keep high num =>
      cases hr
      refine h.made name fun c hc => ?_
      rcases exists_of_map hc with ⟨s, hs, rfl⟩
      exact h.built.selector hs
  | selectorOfKind name kind num =>
      cases hr
      refine h.made name fun c hc => ?_
      rcases exists_of_map hc with ⟨s, hs, rfl⟩
      rw [LooseSelector.ofKind] at hs
      split at hs
      · exact h.built.selector hs
      · cases hs
  | roll name quantity die hs =>
      rcases Reader.bind_eq_ok hr with ⟨die', -, hr⟩
      rcases Reader.bind_eq_ok hr with ⟨selectors', hselectors, hr⟩
      cases hr
      refine h.makeRoll name quantity die' fun q hq => ?_
      rcases exists_of_mem_mapM hselectors hq with ⟨s, hmem, hfind⟩
      exact hs s hmem q hfind
  | expression name terms =>
      rcases Reader.bind_eq_ok hr with ⟨found, hfound, hr⟩
      cases hr
      rcases exists_terms_of_mapM hfound with ⟨ts, rfl, hts⟩
      refine h.made name fun c hc => ?_
      cases hc
      exact h.built.expression fun t ht => (hts t ht).elim fun _ hfind => h.exists_cell hfind
  | rollSet name expressions spec =>
      rcases Reader.bind_eq_ok hr with ⟨places, hplaces, hr⟩
      cases hr
      refine h.made name fun c hc => ?_
      cases hc
      refine h.built.rollSet fun q hq => ?_
      rcases exists_of_mem_mapM hplaces hq with ⟨e, -, hfind⟩
      exact h.exists_cell hfind
  | duplicate name node =>
      rcases Reader.bind_eq_ok hr with ⟨place, -, hr⟩
      split at hr
      · cases hr
      · next d hd =>
          rcases name with _ | name
          · cases hr
            exact h
          · cases hr
            refine h.made name fun c hc => ?_
            cases hc
            exact h.built.duplicate (Shelf.cell?_of_die? hd)
  | child name node index =>
      rcases Reader.bind_eq_ok hr with ⟨q, -, hr⟩
      rcases Reader.bind_eq_ok hr with ⟨places, hplaces, hr⟩
      rcases Reader.bind_eq_ok hr with ⟨n, -, hr⟩
      split at hr
      · cases hr
      · next place hplace =>
          cases hr
          rcases Option.bind_eq_some_iff.mp hplace with ⟨k, -, hk⟩
          rw [Bench.named]
          split
          · exact h.call name
              (h.built.isWhole.exists_cell_of_mem_children hplaces (List.mem_of_getElem? hk))
          · exact h

/-- A step that turns dice leaves a bench stocked. -/
theorem IsStocked.takeFound_of_turns (h : b.IsStocked) {s : Step} (hs : Turns s)
    {r : Bench × Except Fault Answer} (hr : b.takeFound s = .ok r) : r.1.IsStocked := by
  cases hs with
  | setValue node value =>
      rcases Reader.bind_eq_ok hr with ⟨place, -, hr⟩
      split at hr
      · cases hr
        exact h.changed place fun d d' hd => LooseDie.exists_of_setTop hd
      · cases hr
      · cases hr
        exact h.pin .value value
  | setFlags node flags =>
      rcases Reader.bind_eq_ok hr with ⟨place, -, hr⟩
      split at hr
      · cases hr
        exact h.changed place fun d d' hd => ⟨d.top, flags, (Except.ok.inj hd).symm⟩
      · cases hr
        exact h.pin .flags flags
  | throw node =>
      rcases Reader.bind_eq_ok hr with ⟨place, -, hr⟩
      have hturned := b.shelf.turned_throw place b.draws
      split at hr
      · next heq =>
          cases hr
          rw [heq] at hturned
          exact h.turned hturned _
      · next heq =>
          cases hr
          rw [heq] at hturned
          exact h.turned hturned _
  | drop node =>
      rcases Reader.bind_eq_ok hr with ⟨place, -, hr⟩
      cases hr
      refine h.changed place fun d d' hd => ?_
      rcases Reader.bind_eq_ok hd with ⟨-, -, hd⟩
      exact ⟨d.top, .int 2, (Except.ok.inj hd).symm⟩
  | keep node =>
      rcases Reader.bind_eq_ok hr with ⟨place, -, hr⟩
      cases hr
      exact h.changed place fun d d' hd => ⟨d.top, .int 1, (Except.ok.inj hd).symm⟩
  | select node dice =>
      rcases Reader.bind_eq_ok hr with ⟨places, -, hr⟩
      rcases Reader.bind_eq_ok hr with ⟨place, -, hr⟩
      split at hr
      · rcases Reader.bind_eq_ok hr with ⟨shelf, hselect, hr⟩
        cases hr
        exact h.turned (Shelf.turned_select hselect) b.draws
      · cases hr
  | selectRoll node roll =>
      rcases Reader.bind_eq_ok hr with ⟨p, -, hr⟩
      rcases Reader.bind_eq_ok hr with ⟨place, -, hr⟩
      split at hr
      · rcases Reader.bind_eq_ok hr with ⟨shelf, hselect, hr⟩
        cases hr
        exact h.turned (Shelf.turned_select hselect) b.draws
      · cases hr

/-- A step that asks changes nothing. -/
theorem takeFound_of_asks {s : Step} (hs : Asks s) {r : Bench × Except Fault Answer}
    (hr : b.takeFound s = .ok r) : r.1 = b := by
  cases hs with
  | compare first second =>
      rcases Reader.bind_eq_ok hr with ⟨p, -, hr⟩
      rcases Reader.bind_eq_ok hr with ⟨q, -, hr⟩
      rcases Reader.bind_eq_ok hr with ⟨forth, -, hr⟩
      rcases Reader.bind_eq_ok hr with ⟨back, -, hr⟩
      cases hr
      rfl
  | distinct nodes =>
      rcases Reader.bind_eq_ok hr with ⟨places, -, hr⟩
      rcases Reader.bind_eq_ok hr with ⟨kept, -, hr⟩
      cases hr
      rfl
  | totalsTable sets =>
      rcases Reader.bind_eq_ok hr with ⟨places, -, hr⟩
      rcases Reader.bind_eq_ok hr with ⟨t, -, hr⟩
      cases hr
      rfl
  | ask question node =>
      rcases Reader.bind_eq_ok hr with ⟨place, -, hr⟩
      split at hr
      · cases hr
        rfl
      · cases hr
        rfl

/-- A step leaves the shelf built and the names good, whether it fails or not. -/
theorem IsStocked.take (h : b.IsStocked) {s : Step} (hs : b.IsPlain s) :
    (b.take s).1.IsStocked := by
  rw [Bench.take]
  rcases hfound : b.takeFound s with f | ⟨b', a⟩
  · exact h
  · -- Only the steps that put nodes together need to know which they are.
    have hstocked : b'.IsStocked := by
      rcases hs with hs | hs | hs
      · exact h.takeFound_of_makes hs hfound
      · exact h.takeFound_of_turns hs hfound
      · have hsame : b' = b := takeFound_of_asks hs hfound
        rw [hsame]
        exact h
    exact hstocked

/-- Such steps in a row lead from a made bench to a made bench. -/
theorem IsMade.takeAll {steps : List Step} (h : b.IsMade)
    (hs : ∀ s ∈ steps, ∀ b' : Bench, b'.IsPlain s) : (b.takeAll steps).2.IsMade := by
  induction steps generalizing b with
  | nil => exact h
  | cons s steps ih =>
      exact ih (h.step (hs s List.mem_cons_self b)) fun s' hs' => hs s' (List.mem_cons_of_mem s hs')

/-- Any number of such steps leave the shelf built and the names good. -/
theorem IsMade.isStocked (h : b.IsMade) : b.IsStocked := by
  induction h with
  | start draws => exact ⟨.empty, fun e he => absurd he List.not_mem_nil⟩
  | step _ hs ih => exact ih.take hs

end Stock

end Bench

end DiceRoller
