import DiceRoller.Proofs.Bench.Building
import DiceRoller.Proofs.Bench.Parts
import DiceRoller.Proofs.Bench.Reading

/-!
# Filing nodes

A collection files a node under its key. Each kind of node has a key of its own, made
of what the node says of itself: the faces and values of a die, what is written for a
roll or selector, the keys of the parts of anything else. `FiledAlike` says that two
nodes are filed alike, and one lemma for each kind says when they are.

What is written for a node may be refused, where a number in it has too many digits. A
node with such a number below it has no key, and cannot be filed at all. So two nodes
are filed alike if their keys are the same, or if neither has one.

Dice with the same faces and values are equal, but what is written for them may differ:
a Fate die goes by its letter, and a die that only passes for it by the number of its
faces. `Mixes` says that two trees differ in this way at the same place in both.

## Main definitions

* `Bench.FoundAlike`: Two things that are there on one condition, and are the same.
* `LooseDie.HasLongNumber`, `LooseSelector.HasLongNumber`, `Shelf.HasLongNumber`: Numbers
  that have too many digits to be written.
* `LooseDie.IsFalseFate`: A die that passes for a Fate die.
* `Shelf.Mixes`: Trees that have a roll of Fate dice and a roll of dice that only pass for
  Fate dice at the same place.
* `Shelf.FiledAlike`: Two nodes with the same key, or without one.

## Theorems

* `Bench.FoundAlike.always`: Where nothing can be refused only the things have to be the
  same.
* `Bench.FoundAlike.of_tellsIf`: One thing that is told on two conditions.
* `Bench.FoundAlike.congr`: What is found alike on some conditions is found alike on
  others that come to the same.
* `Bench.FoundAlike.frame`: Both may be put into frames that leave them the same.
* `Bench.FoundAlike.mapM`: Keys that are found alike one by one.
* `Bench.TellsIf.exists_mapM`: Things that are each told on a condition are told together.
* `Bench.mapM_congr_forall₂`: What is told one by one of two lists is the same if it is of
  each two things.
* `areAlike_map_int_iff`: Whole numbers one by one are alike if they are the same numbers.
* `LooseDie.same_iff`, `LooseDie.same_comm`, `LooseSelector.same_iff`: Equal dice and
  selectors.
* `LooseDie.faceText_eq_of_same`: How equal dice are written.
* `LooseDie.exists_tellsIf_faceText`: The faces of a die are written unless there are too
  many.
* `LooseDie.forM_keyed_of_isWhole`: Whole numbers can be part of a key.
* `Value.alike_bool`: Truth values are alike if they are equal.
* `LooseSelector.exists_tellsIf_written`: A selector is written unless its number is too
  long.
* `Shelf.IsPart.eq_or_below`: A part of a node is the node, or a part of something just
  below.
* `Shelf.IsPart.of_child`: What is part of something just below a node is part of the
  node.
* `Shelf.hasLongNumber_iff`: A number lies at a node or below one of its parts.
* `Shelf.not_hasLongNumber_die`: The values of dice are not written for a key.
* `Shelf.not_hasLongNumber_constant`: Nor is the value of a constant written.
* `Shelf.hasLongNumber_selector_iff`, `Shelf.hasLongNumber_roll_iff`,
  `Shelf.hasLongNumber_expression_iff`, `Shelf.hasLongNumber_rollSet_iff`: Where the
  numbers of each kind of node lie.
* `Shelf.filedAlike_die`, `Shelf.filedAlike_constant`, `Shelf.filedAlike_selector`,
  `Shelf.filedAlike_roll`, `Shelf.filedAlike_expression`, `Shelf.filedAlike_rollSet`: When
  nodes of each kind are filed alike.
* `Shelf.exists_tellsIf_head`: The first die tells what is written for the dice of a roll,
  if it can be written.
* `Shelf.exists_tellsIf_key_roll`: A roll has a key unless a number that is written for it
  is too long.
* `Shelf.not_exists_long_iff`: Nothing below is too long.
* `Shelf.keyOfTerm_eq`: A sign that is a text can be part of a key, and adds nothing to
  that of the term.
* `Shelf.keyWithin_expression`: The key of an expression is made of its signs and of the
  keys of its terms.
* `Shelf.filedAlike_self`: A node of a built shelf is filed like itself.
-/

namespace DiceRoller

namespace Bench

/-- Two things are there on one condition each, of which both hold or neither does, and are
    the same. -/
def FoundAlike {α : Type} (same : α → α → Bool) (p q : Prop) (x y : Except Fault α) : Prop :=
  (p ↔ q) ∧ ∃ a b, TellsIf p x a ∧ TellsIf q y b ∧ same a b = true

namespace FoundAlike

variable {α β : Type} {same : α → α → Bool} {p q : Prop} {x y : Except Fault α} {a b : α}

/-- Where nothing can be refused only the things have to be the same. -/
theorem always (hp : p) (hq : q) (h : same a b = true) : FoundAlike same p q (.ok a) (.ok b) :=
  ⟨iff_of_true hp hq, a, b, .inl ⟨hp, rfl⟩, .inl ⟨hq, rfl⟩, h⟩

/-- One thing that is told on two conditions. -/
theorem of_tellsIf (h : TellsIf p x a) (h' : TellsIf q x b) (hself : same a a = true) :
    FoundAlike same p q x x := by
  rcases h with ⟨hp, hx⟩ | ⟨hp, hx⟩
  · rcases h' with ⟨hq, -⟩ | ⟨-, hx'⟩
    · exact ⟨iff_of_true hp hq, a, a, .inl ⟨hp, hx⟩, .inl ⟨hq, hx⟩, hself⟩
    · rw [hx] at hx'
      cases hx'
  · rcases h' with ⟨-, hx'⟩ | ⟨hq, -⟩
    · rw [hx] at hx'
      cases hx'
    · exact ⟨iff_of_false hp hq, a, a, .inr ⟨hp, hx⟩, .inr ⟨hq, hx⟩, hself⟩

/-- What is found alike on some conditions is found alike on others that come to the same. -/
theorem congr {p' q' : Prop} (h : FoundAlike same p q x y) (hp : p ↔ p') (hq : q ↔ q') :
    FoundAlike same p' q' x y := by
  rw [FoundAlike, ← hp, ← hq]
  exact h

theorem frame {same' : β → β → Bool} {f g : α → β} (h : FoundAlike same p q x y)
    (hframe : ∀ {a b}, same a b = true → same' (f a) (g b) = true) :
    FoundAlike same' p q (x >>= fun a => .ok (f a)) (y >>= fun b => .ok (g b)) := by
  rcases h with ⟨hpq, a, b, ha, hb, hsame⟩
  exact ⟨hpq, f a, g b, ha.frame f, hb.frame g, hframe hsame⟩

/-- Keys that are found alike one by one. -/
theorem mapM {γ δ : Type} {cond : γ → Prop} {cond' : δ → Prop} {find : γ → Except Fault Key}
    {find' : δ → Except Fault Key} {cs : List γ} {ds : List δ}
    (h : List.Forall₂ (fun c d => FoundAlike Key.same (cond c) (cond' d) (find c) (find' d))
      cs ds) :
    FoundAlike Key.allSame (∀ c ∈ cs, cond c) (∀ d ∈ ds, cond' d) (cs.mapM find)
      (ds.mapM find') := by
  induction h with
  | nil =>
      exact always (fun c hc => absurd hc List.not_mem_nil) (fun d hd => absurd hd List.not_mem_nil)
        rfl
  | cons hcd _ ih =>
      rcases hcd with ⟨hiff, k, k', hk, hk', hsame⟩
      rcases ih with ⟨hiffs, ks, ks', hks, hks', hall⟩
      rw [List.mapM_cons, List.mapM_cons]
      refine congr ⟨and_congr hiff hiffs, k :: ks, k' :: ks', hk.bind (hks.frame _),
        hk'.bind (hks'.frame _), ?_⟩ List.forall_mem_cons.symm List.forall_mem_cons.symm
      rw [Key.allSame, hsame, hall, Bool.and_self]

end FoundAlike

/-- Things that are each told on a condition are told together. -/
theorem TellsIf.exists_mapM {α γ : Type} {cond : γ → Prop} {tell : γ → Except Fault α}
    {cs : List γ} (h : ∀ c ∈ cs, ∃ a, TellsIf (cond c) (tell c) a) :
    ∃ as, TellsIf (∀ c ∈ cs, cond c) (cs.mapM tell) as := by
  induction cs with
  | nil => exact ⟨[], .inl ⟨fun c hc => absurd hc List.not_mem_nil, rfl⟩⟩
  | cons c cs ih =>
      rcases h c List.mem_cons_self with ⟨a, ha⟩
      rcases ih fun c' hc' => h c' (List.mem_cons_of_mem c hc') with ⟨as, has⟩
      refine ⟨a :: as, ?_⟩
      rw [List.mapM_cons]
      exact (ha.bind (has.frame _)).congr List.forall_mem_cons.symm

/-- What is told one by one of two lists is the same if it is of each two things. -/
theorem mapM_congr_forall₂ {α β γ ε : Type} {f : α → Except ε γ} {g : β → Except ε γ}
    {as : List α} {bs : List β} (h : List.Forall₂ (fun a b => f a = g b) as bs) :
    as.mapM f = bs.mapM g := by
  induction h with
  | nil => rfl
  | cons hab _ ih => rw [List.mapM_cons, List.mapM_cons, hab, ih]

end Bench

/-- Whole numbers one by one are alike if they are the same numbers. -/
theorem areAlike_map_int_iff {ms ns : List Int} :
    Value.areAlike (ms.map Value.int) (ns.map Value.int) = true ↔ ms = ns := by
  constructor
  · intro h
    induction ms generalizing ns with
    | nil =>
        cases ns with
        | nil => rfl
        | cons n ns => cases h
    | cons m ms ih =>
        cases ns with
        | nil => cases h
        | cons n ns =>
            rw [List.map_cons, List.map_cons, Value.areAlike, Value.alike, Bool.and_eq_true,
              beq_iff_eq] at h
            rw [h.1, ih h.2]
  · rintro rfl
    exact Shelf.areAlike_map_int ms

namespace LooseDie

/-- Dice with whole numbers on their faces are equal when those are the same. -/
theorem same_iff {a b : LooseDie} (ha : a.IsWhole) (hb : b.IsWhole) :
    a.same b = true ↔ a.faces = b.faces ∧ a.values = b.values := by
  rcases ha.faces with ⟨m, hm⟩
  rcases hb.faces with ⟨n, hn⟩
  rcases ha.values with ⟨ms, hms⟩
  rcases hb.values with ⟨ns, hns⟩
  have hinj : Function.Injective Value.int := fun _ _ => Value.int.inj
  rw [same, hm, hn, hms, hns, Value.same_int, Bool.and_eq_true, beq_iff_eq, areAlike_map_int_iff,
    hinj.eq_iff, (List.map_injective_iff.mpr hinj).eq_iff]

theorem same_comm {a b : LooseDie} (ha : a.IsWhole) (hb : b.IsWhole) : a.same b = b.same a := by
  rw [Bool.eq_iff_iff, same_iff ha hb, same_iff hb ha, eq_comm, @eq_comm _ a.values]

/-- The die has the faces and values of a Fate die and is none. -/
def IsFalseFate (d : LooseDie) : Prop :=
  d.fate = false ∧ d.faces = .int 3 ∧ d.values = [-1, 0, 1].map Value.int

/-- Of two equal dice both are Fate dice or neither is, unless one only passes for it. -/
theorem faceText_eq_of_same {a b : LooseDie} (ha : a.IsWhole) (hb : b.IsWhole)
    (hmix : ¬ (a.IsFalseFate ∧ b.fate = true ∨ a.fate = true ∧ b.IsFalseFate))
    (h : a.same b = true) : a.faceText = b.faceText := by
  rcases (same_iff ha hb).mp h with ⟨hfaces, hvalues⟩
  rw [faceText, faceText, hfaces]
  cases hfatea : a.fate with
  | true =>
      cases hfateb : b.fate with
      | true => rfl
      | false =>
          -- A Fate die has the faces and values of one, so the other die passes for it.
          rcases ha.fate hfatea with ⟨hthree, hthose⟩
          exact absurd (.inr ⟨hfatea, hfateb, hfaces ▸ hthree, hvalues ▸ hthose⟩) hmix
  | false =>
      cases hfateb : b.fate with
      | false => rfl
      | true =>
          rcases hb.fate hfateb with ⟨hthree, hthose⟩
          exact absurd (.inl ⟨⟨hfatea, hfaces ▸ hthree, hvalues ▸ hthose⟩, hfateb⟩) hmix

/-- The number of faces, which is written for any die but a Fate die, has too many
    digits. -/
def HasLongNumber (d : LooseDie) : Prop := d.fate = false ∧ d.faces.write? = none

/-- The faces of a die are written unless there are too many. -/
theorem exists_tellsIf_faceText (d : LooseDie) :
    ∃ t, Bench.TellsIf (¬ d.HasLongNumber) d.faceText t := by
  rw [HasLongNumber, faceText]
  cases d.fate with
  | true => exact ⟨_, .inl ⟨fun h => Bool.noConfusion h.1, rfl⟩⟩
  | false =>
      rcases hw : d.faces.write? with _ | t
      · exact ⟨[], .inr ⟨not_not_intro ⟨rfl, rfl⟩, rfl⟩⟩
      · exact ⟨t, .inl ⟨fun h => Option.some_ne_none t h.2, rfl⟩⟩

/-- Whole numbers can be part of a key. -/
theorem forM_keyed_of_isWhole {d : LooseDie} (h : d.IsWhole) :
    (d.faces :: d.values).forM Bench.keyed = .ok () := by
  rcases h.faces with ⟨n, hn⟩
  rcases h.values with ⟨ns, hns⟩
  rw [hn, hns, ← List.map_cons]
  induction n :: ns with
  | nil => rfl
  | cons m ms ih => exact ih

end LooseDie

theorem Value.alike_bool (a b : Bool) : (Value.bool a).alike (.bool b) = (a == b) := by
  cases a <;> cases b <;> rfl

namespace LooseSelector

/-- Selectors that a notation can name are equal if they are the same. -/
theorem same_iff {s t : Selector} : (ofSelector s).same (ofSelector t) = true ↔ s = t := by
  rcases s with ⟨keep, high, num⟩
  rcases t with ⟨keep', high', num'⟩
  simp only [same, ofSelector, Bool.and_eq_true, Value.alike_bool, Value.alike, beq_iff_eq,
    Int.natCast_inj, Selector.mk.injEq, and_assoc]

/-- The number of the selector has too many digits to be written. -/
def HasLongNumber (s : LooseSelector) : Prop := s.num.write? = none

/-- A selector is written unless its number is too long. -/
theorem exists_tellsIf_written (s : LooseSelector) :
    ∃ t, Bench.TellsIf (¬ s.HasLongNumber) s.written t := by
  rw [HasLongNumber, written]
  rcases s.num.write? with _ | t
  · exact ⟨[], .inr ⟨not_not_intro rfl, rfl⟩⟩
  · exact ⟨s.kind ++ t, .inl ⟨Option.some_ne_none t, rfl⟩⟩

end LooseSelector

namespace Shelf

open Bench

/-- A number that is written for the node itself has too many digits: the number of a
    selector, or of a roll the number of faces or that of one of its selectors. -/
def OwnsLongNumber (shelf : Shelf) (p : Place) : Prop :=
  match shelf.cell? p with
  | some (.selector s) => s.HasLongNumber
  | some (.roll dice selectors) =>
      (∃ d, (shelf.diceAt dice).head? = some d ∧ d.HasLongNumber) ∨
        ∃ q ∈ selectors, ∃ s, shelf.cell? q = some (.selector s) ∧ s.HasLongNumber
  | _ => False

/-- A number that is written for the node or for something below it has too many digits. -/
def HasLongNumber (shelf : Shelf) (p : Place) : Prop :=
  ∃ q, shelf.IsPart p q ∧ shelf.OwnsLongNumber q

/-- At the same place below two nodes there is a roll of Fate dice on one side and on the
    other a roll of dice that only pass for Fate dice. -/
inductive Mixes (shelf : Shelf) : Place → Place → Prop where
  | rolls {p q : Place} {dice others as bs : List Place} {a b : LooseDie}
      (hp : shelf.cell? p = some (.roll dice as)) (hq : shelf.cell? q = some (.roll others bs))
      (ha : (shelf.diceAt dice).head? = some a) (hb : (shelf.diceAt others).head? = some b)
      (h : a.IsFalseFate ∧ b.fate = true ∨ a.fate = true ∧ b.IsFalseFate) : Mixes shelf p q
  | inside {p q a b : Place} {as bs : List Place} (hp : shelf.children p = .ok as)
      (hq : shelf.children q = .ok bs) (hab : (a, b) ∈ as.zip bs) (h : Mixes shelf a b) :
      Mixes shelf p q

/-- The key of a term, behind a sign that can be part of one. -/
def keyOfTerm (shelf : Shelf) (levels : Nat) (t : Value × Place) : Except Bench.Fault Key := do
  keyed t.1
  shelf.keyWithin levels t.2

/-- Two nodes have the same key, each found within some levels, or both have none since a
    number below them is too long. -/
def FiledAlike (shelf : Shelf) (levels : Nat) (p q : Place) : Prop :=
  FoundAlike Key.same (¬ shelf.HasLongNumber p) (¬ shelf.HasLongNumber q)
    (shelf.keyWithin levels p) (shelf.keyWithin levels q)

section Numbers

variable {shelf : Shelf} {p q : Place}

/-- A part of a node is the node, or a part of something just below. -/
theorem IsPart.eq_or_below (h : shelf.IsPart p q) :
    q = p ∨ ∃ places, shelf.children p = .ok places ∧ ∃ r ∈ places, shelf.IsPart r q := by
  induction h with
  | self => exact .inl rfl
  | under _ hq hr ih =>
      rcases ih with rfl | ⟨places, hp, r, hmem, hbelow⟩
      · exact .inr ⟨_, hq, _, hr, .self⟩
      · exact .inr ⟨places, hp, r, hmem, hbelow.under hq hr⟩

/-- What is part of something just below a node is part of the node. -/
theorem IsPart.of_child {r : Place} {places : List Place} (hp : shelf.children p = .ok places)
    (hr : r ∈ places) (h : shelf.IsPart r q) : shelf.IsPart p q := by
  induction h with
  | self => exact .under .self hp hr
  | under _ hq hmem ih => exact .under ih hq hmem

/-- A long number is one of the node itself, or lies below a part. -/
theorem hasLongNumber_iff : shelf.HasLongNumber p ↔ shelf.OwnsLongNumber p ∨
    ∃ places, shelf.children p = .ok places ∧ ∃ q ∈ places, shelf.HasLongNumber q := by
  constructor
  · rintro ⟨q, hq, hlong⟩
    rcases hq.eq_or_below with rfl | ⟨places, hp, r, hr, hbelow⟩
    · exact .inl hlong
    · exact .inr ⟨places, hp, r, hr, q, hbelow, hlong⟩
  · rintro (hlong | ⟨places, hp, r, hr, q, hbelow, hlong⟩)
    · exact ⟨p, .self, hlong⟩
    · exact ⟨q, hbelow.of_child hp hr, hlong⟩

/-- The values of dice are not written for a key. -/
theorem not_hasLongNumber_die {d : LooseDie} (hc : shelf.cell? p = some (.die d)) :
    ¬ shelf.HasLongNumber p := by
  rw [hasLongNumber_iff, OwnsLongNumber, hc, children, hc]
  rintro (h | ⟨_, ⟨⟩, q, hq, -⟩)
  · exact h
  · exact absurd hq List.not_mem_nil

theorem not_hasLongNumber_constant {n : Int} (hc : shelf.cell? p = some (.constant n)) :
    ¬ shelf.HasLongNumber p := by
  rw [hasLongNumber_iff, OwnsLongNumber, hc, children, hc]
  rintro (h | ⟨_, ⟨⟩, q, hq, -⟩)
  · exact h
  · exact absurd hq List.not_mem_nil

theorem hasLongNumber_selector_iff {s : LooseSelector} (hc : shelf.cell? p = some (.selector s)) :
    shelf.HasLongNumber p ↔ s.HasLongNumber := by
  rw [hasLongNumber_iff, OwnsLongNumber, hc, children, hc, or_iff_left]
  rintro ⟨_, ⟨⟩, -⟩

/-- Below a roll there are only dice, so its numbers are its own. -/
theorem hasLongNumber_roll_iff {dice selectors : List Place}
    (hc : shelf.cell? p = some (.roll dice selectors))
    (hdice : ∀ q ∈ dice, ∃ d, shelf.cell? q = some (.die d)) :
    shelf.HasLongNumber p ↔ (∃ d, (shelf.diceAt dice).head? = some d ∧ d.HasLongNumber) ∨
      ∃ q ∈ selectors, ∃ s, shelf.cell? q = some (.selector s) ∧ s.HasLongNumber := by
  rw [hasLongNumber_iff, OwnsLongNumber, hc, children, hc, or_iff_left]
  rintro ⟨_, ⟨⟩, q, hq, hlong⟩
  rcases hdice q hq with ⟨d, hd⟩
  exact not_hasLongNumber_die hd hlong

/-- An expression has no numbers of its own, so they lie below its terms. -/
theorem hasLongNumber_expression_iff {terms : List (Value × Place)}
    (hc : shelf.cell? p = some (.expression terms)) :
    shelf.HasLongNumber p ↔ ∃ t ∈ terms, shelf.HasLongNumber t.2 := by
  rw [hasLongNumber_iff, OwnsLongNumber, hc, children, hc]
  simp only [false_or, Except.ok.injEq, exists_eq_left', List.mem_map, exists_exists_and_eq_and]

theorem hasLongNumber_rollSet_iff {expressions : List Place} {spec : Value}
    (hc : shelf.cell? p = some (.rollSet expressions spec)) :
    shelf.HasLongNumber p ↔ ∃ q ∈ expressions, shelf.HasLongNumber q := by
  rw [hasLongNumber_iff, OwnsLongNumber, hc, children, hc]
  simp only [false_or, Except.ok.injEq, exists_eq_left']

end Numbers

section Filing

variable {shelf : Shelf} {p q : Place} {levels : Nat}

/-- Equal dice are filed alike. -/
theorem filedAlike_die {a b : LooseDie} (hp : shelf.cell? p = some (.die a))
    (hq : shelf.cell? q = some (.die b)) (ha : a.IsWhole) (hb : b.IsWhole) (h : a.same b = true) :
    shelf.FiledAlike (levels + 1) p q := by
  have hkey : (Key.die a.faces a.values).same (.die b.faces b.values) = true := by
    rcases ha.faces with ⟨m, hm⟩
    rcases ha.values with ⟨ms, hms⟩
    rcases (LooseDie.same_iff ha hb).mp h with ⟨hfaces, hvalues⟩
    rw [Key.same, ← hfaces, ← hvalues, hm, hms, Value.alike, beq_self_eq_true, areAlike_map_int,
      Bool.and_self]
  rw [FiledAlike, keyWithin, keyWithin, hp, hq]
  simp only [LooseDie.forM_keyed_of_isWhole ha, LooseDie.forM_keyed_of_isWhole hb]
  exact .always (not_hasLongNumber_die hp) (not_hasLongNumber_die hq) hkey

/-- Equal constants are filed alike. -/
theorem filedAlike_constant {n : Int} (hp : shelf.cell? p = some (.constant n))
    (hq : shelf.cell? q = some (.constant n)) : shelf.FiledAlike (levels + 1) p q := by
  rw [FiledAlike, keyWithin, keyWithin, hp, hq]
  refine .always (not_hasLongNumber_constant hp) (not_hasLongNumber_constant hq) ?_
  rw [Key.same, beq_self_eq_true]

/-- One selector at both places is written once or refused twice. -/
theorem filedAlike_selector {s : LooseSelector} (hp : shelf.cell? p = some (.selector s))
    (hq : shelf.cell? q = some (.selector s)) : shelf.FiledAlike (levels + 1) p q := by
  rcases s.exists_tellsIf_written with ⟨t, ht⟩
  have hkey := ht.map Key.written
  rw [FiledAlike, keyWithin, keyWithin, hp, hq]
  refine .of_tellsIf (hkey.congr (not_congr (hasLongNumber_selector_iff hp).symm))
    (hkey.congr (not_congr (hasLongNumber_selector_iff hq).symm)) ?_
  rw [Key.same, beq_self_eq_true]

/-- The first die tells what is written for the dice of a roll, if it can be written. -/
theorem exists_tellsIf_head (shelf : Shelf) (dice : List Place) :
    ∃ t, TellsIf (¬ ∃ d, (shelf.diceAt dice).head? = some d ∧ d.HasLongNumber)
      (shelf.head dice) t := by
  rw [head]
  rcases (shelf.diceAt dice).head? with _ | d
  · refine ⟨_, .inl ⟨?_, rfl⟩⟩
    rintro ⟨d, hd, -⟩
    exact Option.some_ne_none d hd.symm
  · rcases d.exists_tellsIf_faceText with ⟨t, ht⟩
    refine ⟨_, (ht.frame fun t => Text.ofNat dice.length ++ 'd' :: t).congr (not_congr ?_)⟩
    simp only [Option.some.injEq, exists_eq_left']

/-- A roll has a key unless a number that is written for it is too long. -/
theorem exists_tellsIf_key_roll (levels : Nat) {dice selectors : List Place}
    (hc : shelf.cell? p = some (.roll dice selectors))
    (hdice : ∀ q ∈ dice, ∃ d, shelf.cell? q = some (.die d))
    (hselectors : ∀ q ∈ selectors, ∃ s, shelf.cell? q = some (.selector s)) :
    ∃ t, TellsIf (¬ shelf.HasLongNumber p) (shelf.keyWithin (levels + 1) p) (.written t) := by
  have htexts : ∃ ts, TellsIf (∀ q ∈ selectors, ¬ ∃ s, shelf.cell? q = some (.selector s) ∧
      s.HasLongNumber) (selectors.mapM (shelf.selectorText shelf.render)) ts := by
    refine TellsIf.exists_mapM fun q hq => ?_
    rcases hselectors q hq with ⟨s, hs⟩
    rcases s.exists_tellsIf_written with ⟨t, ht⟩
    rw [selectorText, hs]
    refine ⟨t, ht.congr (not_congr ?_)⟩
    simp only [Option.some.injEq, Cell.selector.injEq, exists_eq_left']
  rcases htexts with ⟨ts, hts⟩
  rcases shelf.exists_tellsIf_head dice with ⟨t, ht⟩
  refine ⟨t ++ ts.flatten, ?_⟩
  rw [keyWithin, hc]
  simp only [written, hc, rollText]
  refine ((hts.bind (ht.frame fun t => t ++ ts.flatten)).map Key.written).congr ?_
  -- The selectors are looked at first, and the number of faces behind them.
  rw [hasLongNumber_roll_iff hc hdice, not_or, and_comm]
  simp only [not_exists, not_and]

/-- Both rolls are written alike, or refused alike. -/
theorem filedAlike_roll (h : shelf.IsWhole) {dice others as bs : List Place}
    (hp : shelf.cell? p = some (.roll dice as)) (hq : shelf.cell? q = some (.roll others bs))
    (hhead : shelf.head dice = shelf.head others)
    (hselectors : List.Forall₂ (fun a b => ∃ s, shelf.HoldsSelector a s ∧ shelf.HoldsSelector b s)
      as bs) : shelf.FiledAlike (levels + 1) p q := by
  have hsel : ∀ {r : Place} {dice selectors : List Place},
      shelf.cell? r = some (.roll dice selectors) →
      ∀ q ∈ selectors, ∃ s, shelf.cell? q = some (.selector s) :=
    fun hr q hq => ((h _ _ hr).2.2 q hq).imp' _ fun _ hs => hs
  -- The first dice and the selectors say all that is written for a roll.
  have hsame : shelf.keyWithin (levels + 1) p = shelf.keyWithin (levels + 1) q := by
    have htexts : as.mapM (shelf.selectorText shelf.render)
        = bs.mapM (shelf.selectorText shelf.render) := by
      refine mapM_congr_forall₂ (hselectors.imp fun a b hab => ?_)
      rcases hab with ⟨s, ha, hb⟩
      rw [selectorText, selectorText, ha, hb]
    rw [keyWithin, keyWithin, hp, hq]
    simp only [written, hp, hq, rollText, htexts, hhead]
  rcases exists_tellsIf_key_roll levels hp (h p _ hp).2.1 (hsel hp) with ⟨t, ht⟩
  rcases exists_tellsIf_key_roll levels hq (h q _ hq).2.1 (hsel hq) with ⟨t', ht'⟩
  rw [← hsame] at ht'
  rw [FiledAlike, ← hsame]
  refine .of_tellsIf ht ht' ?_
  rw [Key.same, beq_self_eq_true]

-- Nothing below is too long.
theorem not_exists_long_iff {α : Type} {f : α → Place} {as : List α} :
    (∀ a ∈ as, ¬ shelf.HasLongNumber (f a)) ↔ ¬ ∃ a ∈ as, shelf.HasLongNumber (f a) := by
  simp only [not_exists, not_and]

/-- Sets are filed alike if their expressions are, one by one. -/
theorem filedAlike_rollSet {as bs : List Place} {spec spec' : Value}
    (hp : shelf.cell? p = some (.rollSet as spec)) (hq : shelf.cell? q = some (.rollSet bs spec'))
    (h : List.Forall₂ (shelf.FiledAlike levels) as bs) : shelf.FiledAlike (levels + 1) p q := by
  rw [FiledAlike, keyWithin, keyWithin, hp, hq, hasLongNumber_rollSet_iff hp,
    hasLongNumber_rollSet_iff hq]
  refine ((FoundAlike.mapM h).congr not_exists_long_iff not_exists_long_iff).frame fun hkeys => ?_
  rw [Key.same, hkeys]

/-- A sign that is a text can be part of a key, and adds nothing to that of the term. -/
theorem keyOfTerm_eq {t : Value × Place} {sign : Text} (h : t.1 = .text sign) :
    shelf.keyOfTerm levels t = shelf.keyWithin levels t.2 := by
  rw [keyOfTerm, h]
  rfl

/-- The key of an expression is made of its signs and of the keys of its terms. -/
theorem keyWithin_expression {terms : List (Value × Place)}
    (hp : shelf.cell? p = some (.expression terms)) :
    shelf.keyWithin (levels + 1) p = (do
      let keys ← terms.mapM (shelf.keyOfTerm levels)
      return .terms (terms.map (·.1)) keys) := by
  rw [keyWithin, hp]
  rfl

/-- Expressions are filed alike if their signs are the same texts and their terms are filed
    alike. -/
theorem filedAlike_expression {as bs : List (Value × Place)}
    (hp : shelf.cell? p = some (.expression as)) (hq : shelf.cell? q = some (.expression bs))
    (h : List.Forall₂ (fun a b => (∃ sign, a.1 = .text sign ∧ b.1 = .text sign) ∧
      shelf.FiledAlike levels a.2 b.2) as bs) : shelf.FiledAlike (levels + 1) p q := by
  have hsigns : Value.areAlike (as.map (·.1)) (bs.map (·.1)) = true := by
    clear hp hq
    induction h with
    | nil => rfl
    | cons hab _ ih =>
        rcases hab with ⟨⟨sign, ha, hb⟩, -⟩
        rw [List.map_cons, List.map_cons, Value.areAlike, ih, ha, hb, Value.alike, beq_self_eq_true,
          Bool.and_self]
  have hterms : List.Forall₂ (fun a b => FoundAlike Key.same (¬ shelf.HasLongNumber a.2)
      (¬ shelf.HasLongNumber b.2) (shelf.keyOfTerm levels a) (shelf.keyOfTerm levels b)) as bs := by
    refine h.imp fun a b hab => ?_
    rcases hab with ⟨⟨sign, ha, hb⟩, halike⟩
    rw [keyOfTerm_eq ha, keyOfTerm_eq hb]
    exact halike
  rw [FiledAlike, keyWithin_expression hp, keyWithin_expression hq,
    hasLongNumber_expression_iff hp, hasLongNumber_expression_iff hq]
  refine ((FoundAlike.mapM hterms).congr not_exists_long_iff not_exists_long_iff).frame
    fun hkeys => ?_
  rw [Key.same, hsigns, hkeys, Bool.and_self]

/-- A node of a built shelf is filed like itself. -/
theorem filedAlike_self (h : shelf.IsWhole) {c : Cell} (hc : shelf.cell? p = some c)
    (hneed : shelf.need p c ≤ levels) : shelf.FiledAlike levels p p := by
  induction levels generalizing p c with
  | zero => exact absurd hneed (Nat.not_le.mpr (shelf.need_pos p c))
  | succ levels ih =>
      -- What lies below needs fewer levels, so that the key of it can be found one level down.
      have hpart : c.isHolder = true → ∀ {q}, q < p → shelf.FiledAlike levels q q := by
        intro hholder q hlt
        rcases exists_cell?_of_lt hc hlt with ⟨c', hc'⟩
        exact ih hc' (Nat.le_of_lt_succ (Nat.lt_of_lt_of_le (need_lt hc' hholder hlt) hneed))
      have hwhole := h p c hc
      cases c with
      | die d =>
          exact filedAlike_die hc hc hwhole hwhole
            ((LooseDie.same_iff hwhole hwhole).mpr ⟨rfl, rfl⟩)
      | constant n => exact filedAlike_constant hc hc
      | selector s => exact filedAlike_selector hc hc
      | roll dice selectors =>
          exact filedAlike_roll h hc hc rfl (List.forall₂_same.mpr fun q hq =>
            (hwhole.2.2 q hq).imp fun s hs => And.intro hs hs)
      | expression terms =>
          refine filedAlike_expression hc hc (List.forall₂_same.mpr fun t ht => ?_)
          rcases hwhole t ht with ⟨hlt, sign, hsign⟩
          exact ⟨⟨sign, hsign, hsign⟩, hpart rfl hlt⟩
      | rollSet expressions spec =>
          exact filedAlike_rollSet hc hc
            (List.forall₂_same.mpr fun q hq => hpart rfl (hwhole q hq))
      | group nodes => cases hwhole
      | abstract => cases hwhole

end Filing

end Shelf

end DiceRoller
