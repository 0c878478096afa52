import DiceRoller.Proofs.Bench.Selecting
import DiceRoller.Proofs.Dice.Brevity

/-!
# Putting held rolls into words

What is told of a roll on the shelf is put together of numbers, and some of them may have too
many digits. Then nothing is told. So all that is said of the texts of held things is said on
a condition: either the condition holds and the text is there, or a number is refused. Texts
that are put together of others are there if all of them are.

It does not matter which number is refused or in what order they are looked at. A refused
number is the same fault everywhere, and as long as signs are texts there is no other.

## Main definitions

* `Bench.TellsIf`: A text that is there on a condition.

## Theorems

* `Bench.TellsIf.always`: Nothing is refused where there is nothing to refuse.
* `Bench.TellsIf.eq_ok`, `Bench.TellsIf.eq_error`, `Bench.TellsIf.eq_of_iff`: What is told
  where the condition is decided, and on one condition twice.
* `Bench.TellsIf.eq_of_ok`: What is there is what was told.
* `Bench.TellsIf.congr`: What is told on one condition is told on any other that comes to
  the same.
* `Bench.TellsIf.bind`, `Bench.TellsIf.frame`, `Bench.TellsIf.map`, `Bench.TellsIf.mapM`:
  Texts that are put together of others.
* `Bench.tellsIf_write?`: The numeral of a number is there if the number is short.
* `LooseDie.isThrown_showing`: A die on the shelf is thrown if what it shows is.
* `LooseDie.tellsIf_faceText`, `LooseDie.tellsIf_dress`, `LooseDie.tellsIf_render`,
  `LooseSelector.tellsIf_written`: What is told of a die and of a selector.
* `Shelf.isThrown_of_holds`: A held roll is thrown if what is held is.
* `Shelf.tellsIf_head`, `Shelf.tellsIf_selectorTexts`, `Shelf.tellsIf_rollText`,
  `Shelf.tellsIf_renderRoll`: What is told of the dice and selectors of a held roll.
* `Shelf.HoldsRoll.tellsIf_renderWithin`, `Shelf.HoldsTerm.tellsIf_renderWithin`: How a
  held roll and a held term are displayed.
-/

namespace DiceRoller

namespace Bench

/-- Something is told if a condition holds. Otherwise a number in it is refused, since it
    has too many digits. -/
def TellsIf {α : Type} (p : Prop) (x : Except Fault α) (a : α) : Prop :=
  (p ∧ x = .ok a) ∨ (¬ p ∧ x = .error (.refused none))

namespace TellsIf

variable {α β γ δ : Type} {p q : Prop} {x y : Except Fault α} {a : α} {b : β}

theorem always (a : α) : TellsIf True (.ok a) a := .inl ⟨trivial, rfl⟩

theorem eq_ok (h : TellsIf p x a) (hp : p) : x = .ok a := by
  rcases h with ⟨-, hx⟩ | ⟨hn, -⟩
  · exact hx
  · exact absurd hp hn

theorem eq_error (h : TellsIf p x a) (hp : ¬ p) : x = .error (.refused none) := by
  rcases h with ⟨hp', -⟩ | ⟨-, hx⟩
  · exact absurd hp' hp
  · exact hx

theorem eq_of_ok {a' : α} (h : TellsIf p (.ok a') a) : a' = a := by
  rcases h with ⟨-, hx⟩ | ⟨-, hx⟩
  · exact Except.ok.inj hx
  · cases hx

/-- What is told on one condition is told on any other that comes to the same. -/
theorem congr (h : TellsIf p x a) (hpq : p ↔ q) : TellsIf q x a := by
  rw [TellsIf, ← hpq]
  exact h

theorem eq_of_iff (h : TellsIf p x a) (h' : TellsIf q y a) (hpq : p ↔ q) : x = y := by
  by_cases hp : p
  · rw [h.eq_ok hp, h'.eq_ok (hpq.mp hp)]
  · rw [h.eq_error hp, h'.eq_error fun hq => hp (hpq.mpr hq)]

/-- What is told first may be used for what is told next. -/
theorem bind {f : α → Except Fault β} (h : TellsIf p x a) (h' : TellsIf q (f a) b) :
    TellsIf (p ∧ q) (x >>= f) b := by
  rcases h with ⟨hp, rfl⟩ | ⟨hp, rfl⟩
  · rcases h' with ⟨hq, hf⟩ | ⟨hq, hf⟩
    · exact .inl ⟨⟨hp, hq⟩, hf⟩
    · exact .inr ⟨fun hpq => hq hpq.2, hf⟩
  · exact .inr ⟨fun hpq => hp hpq.1, rfl⟩

theorem frame (h : TellsIf p x a) (f : α → β) : TellsIf p (x >>= fun a => .ok (f a)) (f a) :=
  (h.bind (always (f a))).congr (and_iff_left trivial)

theorem map (h : TellsIf p x a) (f : α → β) : TellsIf p (x.map f) (f a) := by
  rcases h with ⟨hp, rfl⟩ | ⟨hp, rfl⟩
  · exact .inl ⟨hp, rfl⟩
  · exact .inr ⟨hp, rfl⟩

/-- Things are told one by one, up to the first that is not. -/
theorem mapM {cond : δ → Prop} {tell : γ → Except Fault α} {text : δ → α} {cs : List γ}
    {ds : List δ} (h : List.Forall₂ (fun c d => TellsIf (cond d) (tell c) (text d)) cs ds) :
    TellsIf (∀ d ∈ ds, cond d) (cs.mapM tell) (ds.map text) := by
  induction h with
  | nil => exact .inl ⟨fun d hd => absurd hd List.not_mem_nil, rfl⟩
  | cons hcd _ ih =>
      rw [List.mapM_cons]
      -- The first is told before the others, and the condition is that of both.
      exact (hcd.bind (ih.frame _)).congr List.forall_mem_cons.symm

end TellsIf

/-- The numeral of a number is there if the number is short. -/
theorem tellsIf_write? (n : Int) :
    TellsIf (Numeral.IsShort n) (texted (Numeral.write? n)) (Text.ofInt n) := by
  rcases Numeral.write?_eq n with ⟨hn, hw⟩ | ⟨hn, hw⟩
  · exact .inl ⟨hn, by rw [hw]; rfl⟩
  · exact .inr ⟨hn, by rw [hw]; rfl⟩

end Bench

open Bench

namespace LooseDie

theorem isThrown_showing (d : LooseDie) (s : Showing) : (d.showing s).isThrown = s.isRolled := by
  rcases s with ⟨_ | v, flags⟩
  · rfl
  · rfl

/-- The faces of a die are written if there are few enough, or if it is a Fate die. -/
theorem tellsIf_faceText (kind : DieSpec) (s : Showing) :
    TellsIf kind.IsSpellable ((ofKind kind).showing s).faceText kind.faceText := by
  have hfate : ((ofKind kind).showing s).fate = kind.fate := rfl
  have hfaces : ((ofKind kind).showing s).faces = .int kind.faces := rfl
  rw [faceText, DieSpec.faceText, hfate, hfaces, Value.write?_int, DieSpec.IsSpellable]
  cases kind.fate with
  | true => exact .inl ⟨.inl rfl, rfl⟩
  | false =>
      -- No Fate die, so its number of faces is what counts.
      refine (tellsIf_write? kind.faces).congr ⟨.inr, fun h => ?_⟩
      exact h.resolve_left Bool.false_ne_true

/-- A die that is struck out is displayed as such, if it is displayed at all. -/
theorem tellsIf_dress (d : LooseDie) (s : Showing) {p : Prop} {x : Except Bench.Fault Text}
    {t : Text} (h : TellsIf p x t) : TellsIf p ((d.showing s).dress x) (s.dress t) := by
  have hdropped : (d.showing s).isDropped = .ok s.isDropped := rfl
  rw [dress, hdropped, Showing.dress]
  cases s.isDropped with
  | true => exact h.frame fun t => ['~', '~', '['] ++ t ++ [']', '~', '~']
  | false => exact h.frame fun t => '[' :: t ++ [']']

/-- A die is displayed if its value can be written, or before it has one its faces. -/
theorem tellsIf_render (kind : DieSpec) (s : Showing) :
    TellsIf (s.IsDisplayable kind) ((ofKind kind).showing s).render (s.render kind) := by
  rw [render, isThrown_showing, Showing.isRolled, Showing.render, Showing.IsDisplayable]
  rcases hv : s.value with _ | v
  · exact (tellsIf_faceText kind s).frame fun t => ['(', 'd'] ++ t ++ [')']
  · have htop : ((ofKind kind).showing s).top = .int v := by rw [showing, hv]; rfl
    rw [htop, Value.write?_int]
    exact tellsIf_dress _ s (tellsIf_write? v)

end LooseDie

/-- A selector is written if its number is short. -/
theorem LooseSelector.tellsIf_written (s : Selector) :
    TellsIf (Numeral.IsShort s.num) (ofSelector s).written s.written := by
  have hkind : (ofSelector s).kind = s.kind := by
    rcases s with ⟨keep, high, num⟩
    cases keep <;> cases high <;> rfl
  have hnum : (ofSelector s).num = .int s.num := rfl
  rw [LooseSelector.written, hkind, hnum, Value.write?_int, Selector.written]
  exact (tellsIf_write? s.num).frame fun t => s.kind ++ t

namespace Shelf

section Rolls

variable {shelf : Shelf} {place : Place} {dice selectors : List Place}
  {render : Place → Except Bench.Fault Text}

theorem isThrown_of_holds {r : Roll} (h : List.Forall₂ (shelf.HoldsDie r.spec) dice r.shown) :
    shelf.isThrown dice = r.isRolled := by
  rw [isThrown, diceAt_of_holds h, List.all_map, Roll.isRolled]
  exact congrArg r.shown.all (funext fun s => LooseDie.isThrown_showing _ s)

/-- The first die names the faces of all of them. -/
theorem tellsIf_head {r : Roll} (h : List.Forall₂ (shelf.HoldsDie r.spec) dice r.shown)
    (hne : dice ≠ []) :
    TellsIf r.spec.IsSpellable (shelf.head dice) (Roll.head r.quantity r.spec) := by
  rw [head, diceAt_of_holds h, h.length_eq, Roll.head, Roll.quantity]
  cases hs : r.shown with
  | nil =>
      have hlen := h.length_eq
      rw [hs, List.length_nil] at hlen
      exact absurd (List.length_eq_zero_iff.mp hlen) hne
  | cons d ds =>
      exact (LooseDie.tellsIf_faceText r.spec d).frame
        fun t => Text.ofNat (d :: ds).length ++ 'd' :: t

/-- Selectors are written if their numbers are short. -/
theorem tellsIf_selectorTexts {ss : List Selector}
    (h : List.Forall₂ shelf.HoldsSelector selectors ss) :
    TellsIf (∀ s ∈ ss, Numeral.IsShort s.num) (selectors.mapM (shelf.selectorText render))
      (ss.map Selector.written) := by
  refine TellsIf.mapM (h.imp fun p s hs => ?_)
  rw [selectorText, hs]
  exact LooseSelector.tellsIf_written s

/-- A held roll is written if the numbers of its selectors and the number of faces are
    short. -/
theorem tellsIf_rollText {r : Roll} (h : List.Forall₂ (shelf.HoldsDie r.spec) dice r.shown)
    (hsel : List.Forall₂ shelf.HoldsSelector selectors r.selectors) (hne : dice ≠ []) :
    TellsIf r.IsSpellable (shelf.rollText render dice selectors) r.written :=
  (tellsIf_selectorTexts hsel).bind
    ((tellsIf_head h hne).frame fun t => t ++ (r.selectors.map Selector.written).flatten)

/-- A held roll is displayed if the values on top are short, or as long as there are dice
    without a value if it can be written. -/
theorem tellsIf_renderRoll {r : Roll} (h : List.Forall₂ (shelf.HoldsDie r.spec) dice r.shown)
    (hsel : List.Forall₂ shelf.HoldsSelector selectors r.selectors) (hne : dice ≠ []) :
    TellsIf r.IsDisplayable (shelf.renderRoll render dice selectors) r.render := by
  rw [renderRoll, isThrown_of_holds h, Roll.IsDisplayable, Roll.render]
  cases r.isRolled with
  | true =>
      rw [diceAt_of_holds h]
      have hdice : List.Forall₂ (fun d s => TellsIf (s.IsDisplayable r.spec) (LooseDie.render d)
          (s.render r.spec)) (r.shown.map (LooseDie.ofKind r.spec).showing) r.shown :=
        List.forall₂_map_left_iff.mpr
          (List.forall₂_same.mpr fun s _ => LooseDie.tellsIf_render r.spec s)
      exact (TellsIf.mapM hdice).frame List.flatten
  -- A roll that was not thrown is displayed as it is written.
  | false => exact tellsIf_rollText h hsel hne

/-- A held roll is displayed if it can be. -/
theorem HoldsRoll.tellsIf_renderWithin {r : Roll} (h : shelf.HoldsRoll place dice r)
    (levels : Nat) : TellsIf r.IsDisplayable (shelf.renderWithin (levels + 1) place) r.render := by
  rcases h.cell with ⟨selectors, hc, hsel⟩
  rw [Shelf.renderWithin, hc]
  exact tellsIf_renderRoll h.shown hsel h.ne_nil

theorem HoldsTerm.tellsIf_renderWithin {t : Term} (h : shelf.HoldsTerm place dice t)
    (levels : Nat) : TellsIf t.IsDisplayable (shelf.renderWithin (levels + 1) place) t.render := by
  cases h with
  | roll h => exact h.tellsIf_renderWithin levels
  | constant h =>
      rw [Shelf.renderWithin, h]
      exact tellsIf_write? _

end Rolls

end Shelf

end DiceRoller
