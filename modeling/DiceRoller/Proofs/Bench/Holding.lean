import DiceRoller.Bench.Shelf
import DiceRoller.Proofs.Grammar.Writable
import Mathlib.Data.List.Forall2
import Mathlib.Data.List.Nodup

/-!
# Sets on the shelf

A set that was read is a tree, and on the shelf it is cells that know each other's
places. A place holds a set when following the places from there gives the set back,
part by part. Everything that is done on the shelf can then be said of the set that is
held, and nothing about places remains.

The dice of a tree are the only cells of it that change, so the relation names their
places, in the order of the tree. Two facts carry everything else. What a place holds
depends on its own dice and on cells that are no dice, so a change of other dice does
not show. And a set that is put on the shelf lies at new places, no die at two of them.

## Main definitions

* `Shelf.HoldsRoll`, `Shelf.HoldsTerm`, `Shelf.HoldsExpression`, `Shelf.HoldsSet`: What
  a place holds, and the places of the dice below it.
* `Shelf.HoldsEach`, `Shelf.HoldsBehind`: Things that are held one by one, and a term that
  is held behind a sign.
* `Shelf.Keeps`: Cells that stay as they are, dice aside.
* `Shelf.Adds`: A shelf on which dice were put at new places.

## Theorems

* `Shelf.HoldsEach.forall₂`: Things that are held one by one stand over their places.
* `Shelf.holdsTerms_iff`: Held terms are terms that are held one by one behind signs.
* `Shelf.holdsExpressions_iff`: Held expressions are expressions that are held one by one.
* `Shelf.Keeps.mono`: What stays but for some dice stays but for more.
* `Shelf.forall₂_holdsDie_keep`: Dice at some places stay where these are kept.
* `Shelf.HoldsRoll.keep`: A held roll stays where its dice are kept.
* `Shelf.HoldsTerm.keep`: A held term stays where its dice are kept, and a constant
  anyway.
* `Shelf.HoldsBehind.keep`: A term stays held behind whatever stands in front of it.
* `Shelf.HoldsEach.keep`: Things that are held one by one stay, if each of them does.
* `Shelf.HoldsTerms.keep`: Held terms stay where their dice are kept.
* `Shelf.HoldsExpression.keep`: A held expression stays where its dice are kept.
* `Shelf.HoldsExpressions.keep`: Held expressions stay where their dice are kept.
* `Shelf.HoldsSet.keep`: What a place holds depends on its own dice.
* `Shelf.Adds.refl`: Nothing has been put on a shelf that is the same.
* `Shelf.Adds.trans`: What is put on a shelf in two steps.
* `Shelf.Adds.forget`: The dice may be passed over.
* `Shelf.Adds.keep`: What was on the shelf stays, with all its dice.
* `Shelf.cell?_lt`: A cell lies at a place that there is.
* `Shelf.cell?_set`: Another cell at a place, and the same ones elsewhere.
* `Shelf.adds_add`: One more cell on the shelf.
* `Shelf.adds_addAll`: Cells that are put on the shelf are found at their places.
* `Shelf.exists_holdsRoll_addRoll`: A roll that is put on the shelf is held there.
* `Shelf.exists_holdsTerms_addTerms`: Terms that are put on the shelf are held there, if
  their signs are signs and no roll is without dice.
* `Shelf.exists_holdsExpressions_addExpressions`: Expressions that are put on the shelf
  are held there.
* `Shelf.exists_holdsSet_addRollSet`: A set that is put on the shelf is held there.
-/

namespace DiceRoller

/-- The node is a die. -/
def Cell.IsDie : Cell → Prop
  | .die _ => True
  | _ => False

namespace Shelf

/-- A place holds a die of a kind that shows what is given. -/
def HoldsDie (shelf : Shelf) (kind : DieSpec) (place : Place) (d : Showing) : Prop :=
  shelf.cell? place = some (.die ((LooseDie.ofKind kind).showing d))

/-- A place holds a selector. -/
def HoldsSelector (shelf : Shelf) (place : Place) (s : Selector) : Prop :=
  shelf.cell? place = some (.selector (.ofSelector s))

/-- A place holds a roll, the dice of which are there and lie at the given places. -/
structure HoldsRoll (shelf : Shelf) (place : Place) (dice : List Place) (r : Roll) : Prop where
  ne_nil : dice ≠ []
  cell : ∃ selectors, shelf.cell? place = some (.roll dice selectors) ∧
    List.Forall₂ shelf.HoldsSelector selectors r.selectors
  shown : List.Forall₂ (shelf.HoldsDie r.spec) dice r.shown

/-- A place holds a term with its dice at the given places. -/
inductive HoldsTerm (shelf : Shelf) : Place → List Place → Term → Prop where
  | roll {place : Place} {dice : List Place} {r : Roll} (h : shelf.HoldsRoll place dice r) :
      HoldsTerm shelf place dice (.roll r)
  | constant {place : Place} {n : Int} (h : shelf.cell? place = some (.constant n)) :
      HoldsTerm shelf place [] (.constant n)

/-- Places with signs in front of them hold terms behind the same signs. -/
inductive HoldsTerms (shelf : Shelf) :
    List (Value × Place) → List Place → List (Sign × Term) → Prop where
  | nil : HoldsTerms shelf [] [] []
  | cons {s : Sign} {t : Term} {place : Place} {dice : List Place}
      {places : List (Value × Place)} {dice' : List Place} {ts : List (Sign × Term)}
      (hs : s = .plus ∨ s = .minus) (ht : shelf.HoldsTerm place dice t)
      (hts : HoldsTerms shelf places dice' ts) :
      HoldsTerms shelf ((.text s.written, place) :: places) (dice ++ dice') ((s, t) :: ts)

/-- A place holds an expression with its dice at the given places. -/
def HoldsExpression (shelf : Shelf) (place : Place) (dice : List Place) (e : Expression) : Prop :=
  ∃ places, shelf.cell? place = some (.expression places) ∧ shelf.HoldsTerms places dice e.terms

/-- Places hold expressions one by one. -/
inductive HoldsExpressions (shelf : Shelf) :
    List Place → List Place → List Expression → Prop where
  | nil : HoldsExpressions shelf [] [] []
  | cons {e : Expression} {place : Place} {dice places dice' : List Place} {es : List Expression}
      (he : shelf.HoldsExpression place dice e) (hes : HoldsExpressions shelf places dice' es) :
      HoldsExpressions shelf (place :: places) (dice ++ dice') (e :: es)

/-- A place holds a set with its dice at the given places. -/
def HoldsSet (shelf : Shelf) (place : Place) (dice : List Place) (s : RollSet) : Prop :=
  ∃ places, shelf.cell? place = some (.rollSet places (s.spec.elim .null .text)) ∧
    shelf.HoldsExpressions places dice s.expressions

/-- Things of one sort are held one by one, the dice of each at its share of the given
    places. -/
inductive HoldsEach {α β : Type} (holds : β → List Place → α → Prop) :
    List β → List Place → List α → Prop where
  | nil : HoldsEach holds [] [] []
  | cons {a : α} {b : β} {dice dice' : List Place} {as : List α} {bs : List β}
      (ha : holds b dice a) (has : HoldsEach holds bs dice' as) :
      HoldsEach holds (b :: bs) (dice ++ dice') (a :: as)

/-- A place with something in front of it holds a term, behind what stands for that. -/
def HoldsBehind {α : Type} (shelf : Shelf) (stands : Value → α → Prop) (x : Value × Place)
    (dice : List Place) (t : α × Term) : Prop :=
  stands x.1 t.1 ∧ shelf.HoldsTerm x.2 dice t.2

/-- The value is how a plus or a minus is written. -/
def IsWritten (v : Value) (s : Sign) : Prop := (s = .plus ∨ s = .minus) ∧ v = .text s.written

/-- Things that are held one by one stand over their places. -/
theorem HoldsEach.forall₂ {α β : Type} {holds : β → List Place → α → Prop} {bs : List β}
    {dice : List Place} {as : List α} (h : HoldsEach holds bs dice as) :
    List.Forall₂ (fun b a => ∃ dice, holds b dice a) bs as := by
  induction h with
  | nil => exact .nil
  | cons ha _ ih => exact .cons ⟨_, ha⟩ ih

/-- Held terms are terms that are held one by one behind signs. -/
theorem holdsTerms_iff {shelf : Shelf} {places : List (Value × Place)} {dice : List Place}
    {ts : List (Sign × Term)} :
    shelf.HoldsTerms places dice ts ↔ HoldsEach (shelf.HoldsBehind IsWritten) places dice ts := by
  constructor
  · intro h
    induction h with
    | nil => exact .nil
    | cons hs ht _ ih => exact .cons ⟨⟨hs, rfl⟩, ht⟩ ih
  · intro h
    induction h with
    | nil => exact .nil
    | @cons t x _ _ _ _ ht _ ih =>
        rcases x with ⟨v, place⟩
        rcases t with ⟨s, t⟩
        rcases ht with ⟨⟨hs, rfl⟩, ht⟩
        exact .cons hs ht ih

/-- Held expressions are expressions that are held one by one. -/
theorem holdsExpressions_iff {shelf : Shelf} {places dice : List Place} {es : List Expression} :
    shelf.HoldsExpressions places dice es ↔ HoldsEach shelf.HoldsExpression places dice es := by
  constructor
  · intro h
    induction h with
    | nil => exact .nil
    | cons he _ ih => exact .cons he ih
  · intro h
    induction h with
    | nil => exact .nil
    | cons he _ ih => exact .cons he ih

/-- Every cell of a shelf stays as it is on another, but for dice that are not at the
    given places. -/
def Keeps (dice : List Place) (shelf shelf' : Shelf) : Prop :=
  ∀ place c, shelf.cell? place = some c → (c.IsDie → place ∈ dice) → shelf'.cell? place = some c

theorem Keeps.mono {dice dice' : List Place} {shelf shelf' : Shelf}
    (h : Keeps dice shelf shelf') (hsub : ∀ p ∈ dice', p ∈ dice) : Keeps dice' shelf shelf' :=
  fun place c hc hdie => h place c hc fun hd => hsub place (hdie hd)

section Keep

variable {shelf shelf' : Shelf} {place : Place} {dice : List Place}

/-- Dice at some places stay where these are kept. -/
theorem forall₂_holdsDie_keep {kind : DieSpec} {places : List Place} {ds : List Showing}
    (h : List.Forall₂ (shelf.HoldsDie kind) places ds) (hk : Keeps dice shelf shelf')
    (hsub : ∀ p ∈ places, p ∈ dice) : List.Forall₂ (shelf'.HoldsDie kind) places ds := by
  induction h with
  | nil => exact .nil
  | cons hd _ ih =>
      exact .cons (hk _ _ hd fun _ => hsub _ List.mem_cons_self)
        (ih fun p hp => hsub p (List.mem_cons_of_mem _ hp))

/-- A held roll stays where its dice are kept. -/
theorem HoldsRoll.keep {r : Roll} (h : shelf.HoldsRoll place dice r)
    (hk : Keeps dice shelf shelf') : shelf'.HoldsRoll place dice r := by
  rcases h.cell with ⟨selectors, hc, hs⟩
  exact ⟨h.ne_nil,
    ⟨selectors, hk _ _ hc False.elim, hs.imp fun _ _ hsel => hk _ _ hsel False.elim⟩,
    forall₂_holdsDie_keep h.shown hk fun _ hp => hp⟩

/-- A held term stays where its dice are kept, and a constant anyway. -/
theorem HoldsTerm.keep {t : Term} (h : shelf.HoldsTerm place dice t)
    (hk : Keeps dice shelf shelf') : shelf'.HoldsTerm place dice t := by
  cases h with
  | roll h => exact .roll (h.keep hk)
  | constant h => exact .constant (hk _ _ h False.elim)

theorem HoldsBehind.keep {α : Type} {stands : Value → α → Prop} {x : Value × Place} {t : α × Term}
    (h : shelf.HoldsBehind stands x dice t) (hk : Keeps dice shelf shelf') :
    shelf'.HoldsBehind stands x dice t :=
  ⟨h.1, h.2.keep hk⟩

/-- Things that are held one by one stay, if each of them does. -/
theorem HoldsEach.keep {α β : Type} {holds holds' : β → List Place → α → Prop}
    (hkeep : ∀ {b dice a}, holds b dice a → Keeps dice shelf shelf' → holds' b dice a)
    {bs : List β} {as : List α} (h : HoldsEach holds bs dice as)
    (hk : Keeps dice shelf shelf') : HoldsEach holds' bs dice as := by
  induction h with
  | nil => exact .nil
  | cons ha _ ih =>
      exact .cons (hkeep ha (hk.mono fun _ hp => List.mem_append_left _ hp))
        (ih (hk.mono fun _ hp => List.mem_append_right _ hp))

theorem HoldsTerms.keep {places : List (Value × Place)} {ts : List (Sign × Term)}
    (h : shelf.HoldsTerms places dice ts) (hk : Keeps dice shelf shelf') :
    shelf'.HoldsTerms places dice ts :=
  holdsTerms_iff.mpr ((holdsTerms_iff.mp h).keep HoldsBehind.keep hk)

theorem HoldsExpression.keep {e : Expression} (h : shelf.HoldsExpression place dice e)
    (hk : Keeps dice shelf shelf') : shelf'.HoldsExpression place dice e := by
  rcases h with ⟨places, hc, hts⟩
  exact ⟨places, hk _ _ hc False.elim, hts.keep hk⟩

theorem HoldsExpressions.keep {places : List Place} {es : List Expression}
    (h : shelf.HoldsExpressions places dice es) (hk : Keeps dice shelf shelf') :
    shelf'.HoldsExpressions places dice es :=
  holdsExpressions_iff.mpr ((holdsExpressions_iff.mp h).keep HoldsExpression.keep hk)

/-- What a place holds as a set depends on its own dice. -/
theorem HoldsSet.keep {s : RollSet} (h : shelf.HoldsSet place dice s)
    (hk : Keeps dice shelf shelf') : shelf'.HoldsSet place dice s := by
  rcases h with ⟨places, hc, hes⟩
  exact ⟨places, hk _ _ hc False.elim, hes.keep hk⟩

end Keep

/-- A shelf on which cells were put at new places, those of dice among them, no die at
    two places. -/
structure Adds (shelf shelf' : Shelf) (dice : List Place) : Prop where
  size_le : shelf.cells.size ≤ shelf'.cells.size
  keeps : ∀ place c, shelf.cell? place = some c → shelf'.cell? place = some c
  nodup : dice.Nodup
  fresh : ∀ p : Nat, p ∈ dice → shelf.cells.size ≤ p ∧ p < shelf'.cells.size

namespace Adds

variable {shelf shelf' shelf'' : Shelf} {dice dice' : List Place}

theorem refl (shelf : Shelf) : Adds shelf shelf [] :=
  ⟨Nat.le_refl _, fun _ _ h => h, List.nodup_nil, fun _ h => absurd h List.not_mem_nil⟩

/-- What is put on a shelf in two steps. -/
theorem trans (h : Adds shelf shelf' dice) (h' : Adds shelf' shelf'' dice') :
    Adds shelf shelf'' (dice ++ dice') := by
  have hle := h.size_le
  have hle' := h'.size_le
  refine ⟨by omega, fun place c hc => h'.keeps place c (h.keeps place c hc), ?_, ?_⟩
  · -- The first dice lie before where the second begin.
    refine List.nodup_append.mpr ⟨h.nodup, h'.nodup, fun p hp q hq heq => ?_⟩
    have hp := h.fresh p hp
    have hq := h'.fresh q hq
    rw [heq] at hp
    omega
  · intro p hp
    rcases List.mem_append.mp hp with hp | hp
    · have hp := h.fresh p hp
      omega
    · have hp := h'.fresh p hp
      omega

theorem forget (h : Adds shelf shelf' dice) : Adds shelf shelf' [] :=
  ⟨h.size_le, h.keeps, List.nodup_nil, fun _ h => absurd h List.not_mem_nil⟩

theorem keep (h : Adds shelf shelf' dice') (dice : List Place) : Keeps dice shelf shelf' :=
  fun place c hc _ => h.keeps place c hc

end Adds

theorem cell?_lt {shelf : Shelf} {place : Place} {c : Cell} (h : shelf.cell? place = some c) :
    place < shelf.cells.size :=
  (Array.getElem?_eq_some_iff.mp h).1

/-- Another cell at a place, and the same ones elsewhere. -/
theorem cell?_set {shelf : Shelf} {place : Place} {c c' : Cell}
    (h : shelf.cell? place = some c) (q : Place) :
    (shelf.set place c').cell? q = if place = q then some c' else shelf.cell? q := by
  rw [cell?, set, Array.getElem?_setIfInBounds, if_pos (cell?_lt h)]
  rfl

/-- One more cell on the shelf. -/
theorem adds_add (shelf : Shelf) (c : Cell) :
    Adds shelf (shelf.add c).2 [(shelf.add c).1] := by
  have hsize : (shelf.add c).2.cells.size = shelf.cells.size + 1 := by
    rw [add, Array.size_push]
  refine ⟨by omega, fun place c' hc => ?_, List.nodup_singleton _, fun p hp => ?_⟩
  · rw [cell?_add_of_lt (cell?_lt hc), hc]
  · rw [List.mem_singleton.mp hp, hsize, add]
    omega

/-- Cells that are put on the shelf are found at their places. -/
theorem adds_addAll (shelf : Shelf) (cs : List Cell) :
    Adds shelf (shelf.addAll cs).2 (shelf.addAll cs).1 ∧
      List.Forall₂ (fun p c => (shelf.addAll cs).2.cell? p = some c) (shelf.addAll cs).1 cs := by
  induction cs generalizing shelf with
  | nil => exact ⟨.refl shelf, .nil⟩
  | cons c cs ih =>
      rcases ih (shelf.add c).2 with ⟨hadds, hcells⟩
      refine ⟨(shelf.adds_add c).trans hadds, .cons (hadds.keeps _ _ ?_) hcells⟩
      exact shelf.cell?_add c

/-- A roll that is put on the shelf is held there. -/
theorem exists_holdsRoll_addRoll (shelf : Shelf) {r : Roll} (h : r.shown ≠ []) :
    ∃ dice, Adds shelf (shelf.addRoll r).2 dice ∧
      (shelf.addRoll r).2.HoldsRoll (shelf.addRoll r).1 dice r := by
  -- The dice come first, then the selectors, and the roll behind both.
  have hd := shelf.adds_addAll (r.shown.map fun s => .die ((LooseDie.ofKind r.spec).showing s))
  simp only [addRoll]
  generalize shelf.addAll (r.shown.map fun s => .die ((LooseDie.ofKind r.spec).showing s)) = placed
    at hd
  rcases placed with ⟨dice, shelf₁⟩
  have hs := shelf₁.adds_addAll (r.selectors.map fun s => .selector (.ofSelector s))
  generalize shelf₁.addAll (r.selectors.map fun s => .selector (.ofSelector s)) = placed' at hs
  rcases placed' with ⟨selectors, shelf₂⟩
  have hr := shelf₂.adds_add (.roll dice selectors)
  rcases hd with ⟨hadds, hdice⟩
  rcases hs with ⟨hadds', hselectors⟩
  rw [List.forall₂_map_right_iff] at hdice hselectors
  have hall := (hadds.trans hadds'.forget).trans hr.forget
  rw [List.append_nil, List.append_nil] at hall
  refine ⟨dice, hall, ?_, ⟨selectors, shelf₂.cell?_add _, ?_⟩, ?_⟩
  · intro hnil
    have hlen := hdice.length_eq
    rw [hnil, List.length_nil] at hlen
    exact h (List.length_eq_zero_iff.mp hlen.symm)
  · exact hselectors.imp fun p s hp => hr.keeps _ _ hp
  · exact hdice.imp fun p d hp => hr.keeps _ _ (hadds'.keeps _ _ hp)

/-- Terms that are put on the shelf are held there, if their signs are signs and no
    roll is without dice. -/
theorem exists_holdsTerms_addTerms (shelf : Shelf) {ts : List (Sign × Term)}
    (hs : ∀ p ∈ ts, p.1 = .plus ∨ p.1 = .minus) (hr : ∀ p ∈ ts, ∀ r, p.2 = .roll r → r.shown ≠ []) :
    ∃ dice, Adds shelf (shelf.addTerms ts).2 dice ∧
      (shelf.addTerms ts).2.HoldsTerms (shelf.addTerms ts).1 dice ts := by
  induction ts generalizing shelf with
  | nil => exact ⟨[], .refl shelf, .nil⟩
  | cons p ts ih =>
      have hsign := hs p List.mem_cons_self
      have hsigns := fun q hq => hs q (List.mem_cons_of_mem p hq)
      have hrolls := fun q hq => hr q (List.mem_cons_of_mem p hq)
      rcases p with ⟨s, r | n⟩
      · rcases shelf.exists_holdsRoll_addRoll (hr _ List.mem_cons_self r rfl) with ⟨dice, ha, hh⟩
        rcases ih (shelf.addRoll r).2 hsigns hrolls with ⟨dice', ha', hh'⟩
        -- What is put there later leaves the roll as it is.
        exact ⟨dice ++ dice', ha.trans ha', .cons hsign (.roll (hh.keep (ha'.keep _))) hh'⟩
      · have ha := (shelf.adds_add (.constant n)).forget
        rcases ih (shelf.add (.constant n)).2 hsigns hrolls with ⟨dice', ha', hh'⟩
        exact ⟨dice', ha.trans ha',
          .cons hsign (.constant (ha'.keeps _ _ (shelf.cell?_add _))) hh'⟩

/-- Expressions that are put on the shelf are held there. -/
theorem exists_holdsExpressions_addExpressions (shelf : Shelf) {es : List Expression}
    (hs : ∀ e ∈ es, ∀ p ∈ e.terms, p.1 = .plus ∨ p.1 = .minus)
    (hr : ∀ e ∈ es, ∀ p ∈ e.terms, ∀ r, p.2 = .roll r → r.shown ≠ []) :
    ∃ dice, Adds shelf (shelf.addExpressions es).2 dice ∧
      (shelf.addExpressions es).2.HoldsExpressions (shelf.addExpressions es).1 dice es := by
  induction es generalizing shelf with
  | nil => exact ⟨[], .refl shelf, .nil⟩
  | cons e es ih =>
      rcases shelf.exists_holdsTerms_addTerms (hs e List.mem_cons_self) (hr e List.mem_cons_self)
        with ⟨dice, ha, hh⟩
      have hc := (shelf.addTerms e.terms).2.adds_add (.expression (shelf.addTerms e.terms).1)
      have hcell := (shelf.addTerms e.terms).2.cell?_add (.expression (shelf.addTerms e.terms).1)
      rcases ih ((shelf.addTerms e.terms).2.add (.expression (shelf.addTerms e.terms).1)).2
        (fun e' he' => hs e' (List.mem_cons_of_mem e he'))
        (fun e' he' => hr e' (List.mem_cons_of_mem e he')) with ⟨dice', ha', hh'⟩
      have hall := (ha.trans hc.forget).trans ha'
      rw [List.append_nil] at hall
      -- The expression lies behind its terms, and in front of the others.
      refine ⟨dice ++ dice', hall, .cons ⟨_, ha'.keeps _ _ hcell, ?_⟩ hh'⟩
      exact hh.keep ((hc.forget.trans ha').keep _)

/-- A set that is put on the shelf is held there, with its dice at new places. -/
theorem exists_holdsSet_addRollSet (shelf : Shelf) {s : RollSet}
    (hs : ∀ e ∈ s.expressions, ∀ p ∈ e.terms, p.1 = .plus ∨ p.1 = .minus)
    (hr : ∀ e ∈ s.expressions, ∀ p ∈ e.terms, ∀ r, p.2 = .roll r → r.shown ≠ []) :
    ∃ dice, Adds shelf (shelf.addRollSet s).2 dice ∧
      (shelf.addRollSet s).2.HoldsSet (shelf.addRollSet s).1 dice s := by
  rcases shelf.exists_holdsExpressions_addExpressions hs hr with ⟨dice, ha, hh⟩
  have hc := (shelf.addExpressions s.expressions).2.adds_add
    (.rollSet (shelf.addExpressions s.expressions).1 (s.spec.elim .null .text))
  have hall := ha.trans hc.forget
  rw [List.append_nil] at hall
  exact ⟨dice, hall, _, cell?_add _ _, hh.keep (hc.keep _)⟩

end Shelf

end DiceRoller
