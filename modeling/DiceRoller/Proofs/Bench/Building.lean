import DiceRoller.Bench.Likeness
import DiceRoller.Proofs.Bench.Selecting
import DiceRoller.Proofs.Grammar.Soundness

/-!
# Built shelves

Nodes that are put together from whole numbers, truth values and signs, one after the
other, each of nodes that are there already. Such a shelf is never circular: the parts
of a node lie at smaller places. So a way down gets past each node that holds others at
most once, and the levels that a shelf allows are enough for every way down.

`Built` says how such a shelf comes about, step by step, and `IsWhole` what holds of
each of its cells. Dice may be turned at any time, since the values on top and the
marks play no part in it.

## Main definitions

* `LooseDie.IsWhole`: A die with whole numbers on its faces.
* `Shelf.Built`: How a shelf is filled.
* `Cell.IsWhole`, `Shelf.IsWhole`: What holds of the cells of such a shelf.
* `Shelf.need`: The levels that a node needs.

## Theorems

* `Bench.one_le_of_atLeastOne`: A whole number that passes the check for a count is at
  least one.
* `LooseDie.IsWhole.turned`: A whole die is whole whatever it shows and however it is
  marked.
* `LooseDie.isWhole_ofKind`: A die of a kind is whole, if its kind is no mock Fate die.
* `LooseDie.exists_of_setTop`: Turning a die changes what it shows and nothing on its
  faces.
* `LooseDie.isWhole_setTop`: So a whole die that is turned is whole.
* `LooseDie.exists_of_valuesOf`: The values that are given, or those that run from one
  upwards.
* `LooseDie.isWhole_make`: A die that is made of whole numbers is whole.
* `LooseDie.isWhole_makeFate`: A Fate die that is made is whole.
* `LooseSelector.exists_of_make`: A selector made of truth values and a whole number is
  one that a notation can name.
* `Shelf.isWhole_mono`: A cell stays whole where dice stay dice, and selectors what they
  are.
* `Shelf.IsWhole.add`: A shelf of whole cells with one more is a shelf of whole cells.
* `Shelf.IsWhole.addAll`: So it is with any number of dice.
* `Shelf.IsWhole.addDice`: And with a roll and the dice that are made for it.
* `Shelf.IsWhole.set`: A whole die may stand in for a die, and all cells stay whole.
* `Shelf.IsWhole.of_mem_diceAt`: Dice that are found on a shelf of whole cells are whole.
* `Shelf.Built.isWhole`: The cells of a built shelf are whole.
* `Shelf.holdersBefore_lt`: More nodes that hold others lie up to such a node than before
  it.
* `Shelf.exists_cell?_of_lt`: Something lies at every place before one where something
  lies.
* `Shelf.need_pos`: Every node needs a level.
* `Shelf.need_lt_of_not_isHolder`: A node that holds none needs less than one that holds
  others.
* `Shelf.need_lt`, `Shelf.need_le_levels`: A part needs less than the node that it is part
  of, and nothing needs more than there is.
* `Shelf.levels_eq`: How many levels there are.
-/

namespace DiceRoller

/-- A whole number that passes the check for a count is at least one. -/
theorem Bench.one_le_of_atLeastOne {wording : Text} {n : Int} {u : Unit}
    (h : atLeastOne wording (.int n) = .ok u) : 1 ≤ n := by
  rw [atLeastOne, Value.isBelow?_int] at h
  by_cases hlt : n < 1
  · rw [decide_eq_true hlt] at h
    cases h
  · exact Int.not_lt.mp hlt

namespace LooseDie

/-- The faces and values of the die are whole numbers, and a Fate die has its own. -/
structure IsWhole (d : LooseDie) : Prop where
  faces : ∃ n, d.faces = .int n
  values : ∃ ns : List Int, d.values = ns.map Value.int
  fate : d.fate = true → d.faces = .int 3 ∧ d.values = [-1, 0, 1].map Value.int

/-- A whole die is whole whatever it shows and however it is marked. -/
theorem IsWhole.turned {d : LooseDie} (h : d.IsWhole) (top marks : Value) :
    IsWhole { d with top := top, marks := marks } :=
  ⟨h.faces, h.values, h.fate⟩

/-- A die of a kind is whole, if its kind is no mock Fate die. -/
theorem isWhole_ofKind {kind : DieSpec}
    (h : kind.fate = true → kind.faces = 3 ∧ kind.distribution = [-1, 0, 1]) :
    (ofKind kind).IsWhole :=
  ⟨⟨_, rfl⟩, ⟨_, rfl⟩, fun hf => ⟨congrArg (fun n : Nat => Value.int n) (h hf).1,
    congrArg (List.map Value.int) (h hf).2⟩⟩

/-- Turning a die changes what it shows and nothing on its faces. -/
theorem exists_of_setTop {d d' : LooseDie} {v : Value} (hd : d.setTop v = .ok d') :
    ∃ top marks, d' = { d with top := top, marks := marks } := by
  unfold setTop at hd
  split at hd
  · exact ⟨.null, d.marks, (Except.ok.inj hd).symm⟩
  · split at hd
    · exact ⟨v, d.marks, (Except.ok.inj hd).symm⟩
    · cases hd

theorem isWhole_setTop {d d' : LooseDie} {v : Value} (h : d.IsWhole) (hd : d.setTop v = .ok d') :
    d'.IsWhole := by
  rcases exists_of_setTop hd with ⟨top, marks, rfl⟩
  exact h.turned top marks

/-- The values that are given, or those that run from one upwards. There is always one. -/
theorem exists_of_valuesOf {faces : Int} {values : Option (List Int)} {vs : List Value}
    (hone : 1 ≤ faces)
    (h : valuesOf (.int faces) (values.elim .null fun ns => .list (ns.map .int)) = .ok vs) :
    ∃ ns : List Int, ns ≠ [] ∧ vs = ns.map Value.int := by
  have hup : upTo (.int faces) = .ok vs → ∃ ns : List Int, ns ≠ [] ∧ vs = ns.map Value.int := by
    intro h
    rcases Reader.bind_eq_ok h with ⟨n, hn, h⟩
    rcases Reader.bind_eq_ok h with ⟨s, hs, h⟩
    rw [← Except.ok.inj hn] at hs
    rw [← Except.ok.inj h]
    -- The values were put together, so there are few enough of them.
    by_cases hfew : faces.toNat < DieSpec.mostFaces
    · rw [DieSpec.numbered?_of_lt hfew] at hs
      refine ⟨_, fun hnil => ?_, rfl⟩
      have hlen := congrArg List.length hnil
      rw [← Except.ok.inj hs, DieSpec.plain, List.length_map, List.length_range,
        List.length_nil] at hlen
      omega
    · rw [DieSpec.numbered?_of_le (Nat.le_of_not_lt hfew)] at hs
      cases hs
  rw [valuesOf] at h
  split at h
  · exact hup h
  · next hgiven =>
      rcases values with _ | ns
      · cases h
      · cases h
        refine ⟨ns, fun hnil => hgiven ?_, rfl⟩
        rw [hnil]
        rfl

/-- A die that is made of whole numbers is whole. -/
theorem isWhole_make {faces : Int} {values : Option (List Int)} {top marks : Value} {d : LooseDie}
    (h : make (.int faces) (values.elim .null fun ns => .list (ns.map .int)) top marks = .ok d) :
    d.IsWhole := by
  rw [make] at h
  rcases Reader.bind_eq_ok h with ⟨_, hone, h⟩
  rcases Reader.bind_eq_ok h with ⟨vs, hvalues, h⟩
  rcases exists_of_valuesOf (Bench.one_le_of_atLeastOne hone) hvalues with ⟨ns, -, hns⟩
  exact isWhole_setTop ⟨⟨faces, rfl⟩, ⟨ns, hns⟩, fun hf => absurd hf Bool.false_ne_true⟩ h

theorem isWhole_makeFate {top marks : Value} {d : LooseDie} (h : makeFate top marks = .ok d) :
    d.IsWhole :=
  isWhole_setTop ((isWhole_ofKind fun _ => ⟨rfl, rfl⟩).turned .null marks) h

end LooseDie

/-- A selector made of truth values and a whole number is one that a notation can name. -/
theorem LooseSelector.exists_of_make {s : LooseSelector} {keep high : Bool} {num : Int}
    (h : make (.bool keep) (.bool high) (.int num) = .ok s) :
    ∃ t : Selector, s = .ofSelector t ∧ 1 ≤ t.num := by
  rcases Reader.bind_eq_ok h with ⟨_, hone, h⟩
  have hone := Bench.one_le_of_atLeastOne hone
  have hnum : ((num.toNat : Nat) : Int) = num := Int.toNat_of_nonneg (by omega)
  refine ⟨⟨keep, high, num.toNat⟩, (Except.ok.inj h).symm.trans ?_, by simp only; omega⟩
  rw [ofSelector, hnum]

/-- What holds of a cell at a place of a built shelf. -/
def Cell.IsWhole (shelf : Shelf) (place : Place) : Cell → Prop
  | .die d => d.IsWhole
  | .constant _ => True
  | .selector s => ∃ t, s = .ofSelector t
  | .roll dice selectors => dice ≠ [] ∧ (∀ q ∈ dice, ∃ d, shelf.cell? q = some (.die d)) ∧
      ∀ q ∈ selectors, ∃ s, shelf.HoldsSelector q s
  | .expression terms => ∀ t ∈ terms, t.2 < place ∧ ∃ sign, t.1 = .text sign
  | .rollSet expressions _ => ∀ q ∈ expressions, q < place
  | _ => False

namespace Shelf

/-- A shelf that is filled step by step. -/
inductive Built : Shelf → Prop where
  | empty : Built {}
  | die {shelf : Shelf} {d : LooseDie} {faces : Int} {values : Option (List Int)}
      {top marks : Value} (h : Built shelf)
      (hd : LooseDie.make (.int faces) (values.elim .null fun ns => .list (ns.map .int)) top marks
        = .ok d) : Built (shelf.add (.die d)).2
  | fate {shelf : Shelf} {d : LooseDie} {top marks : Value} (h : Built shelf)
      (hd : LooseDie.makeFate top marks = .ok d) : Built (shelf.add (.die d)).2
  | duplicate {shelf : Shelf} {q : Place} {d : LooseDie} (h : Built shelf)
      (hd : shelf.cell? q = some (.die d)) : Built (shelf.add (.die d.fresh)).2
  | constant {shelf : Shelf} (h : Built shelf) (n : Int) : Built (shelf.add (.constant n)).2
  | selector {shelf : Shelf} {s : LooseSelector} {keep high : Bool} {num : Int} (h : Built shelf)
      (hs : LooseSelector.make (.bool keep) (.bool high) (.int num) = .ok s) :
      Built (shelf.add (.selector s)).2
  | roll {shelf : Shelf} {quantity : Nat} {d : LooseDie} {selectors : List Place} (h : Built shelf)
      (hone : 1 ≤ quantity)
      (hd : d = .ofKind (.plain 6) ∨ ∃ q, shelf.cell? q = some (.die d))
      (hs : ∀ q ∈ selectors, ∃ s, shelf.cell? q = some (.selector s)) :
      Built (shelf.addDice quantity d selectors).2
  | expression {shelf : Shelf} {terms : List (Text × Place)} (h : Built shelf)
      (hterms : ∀ t ∈ terms, ∃ c, shelf.cell? t.2 = some c) :
      Built (shelf.add (.expression (terms.map fun t => (.text t.1, t.2)))).2
  | rollSet {shelf : Shelf} {expressions : List Place} {spec : Value} (h : Built shelf)
      (hes : ∀ q ∈ expressions, ∃ c, shelf.cell? q = some c) :
      Built (shelf.add (.rollSet expressions spec)).2
  | turned {shelf : Shelf} {q : Place} {d : LooseDie} (h : Built shelf)
      (hd : shelf.cell? q = some (.die d)) (top marks : Value) :
      Built (shelf.set q (.die { d with top := top, marks := marks }))

/-- Every cell of the shelf is whole. -/
def IsWhole (shelf : Shelf) : Prop := ∀ p c, shelf.cell? p = some c → c.IsWhole shelf p

section Whole

variable {shelf shelf' : Shelf} {p : Place} {c : Cell}

/-- A cell stays whole where dice stay dice, and selectors what they are. -/
theorem isWhole_mono (h : c.IsWhole shelf p)
    (hdice : ∀ q d, shelf.cell? q = some (.die d) → ∃ d', shelf'.cell? q = some (.die d'))
    (hselectors : ∀ q s, shelf.HoldsSelector q s → shelf'.HoldsSelector q s) :
    c.IsWhole shelf' p := by
  cases c with
  | roll dice selectors =>
      rcases h with ⟨hne, hd, hs⟩
      exact ⟨hne, fun q hq => (hd q hq).elim fun d hd => hdice q d hd,
        fun q hq => (hs q hq).imp fun s hs => hselectors q s hs⟩
  | _ => exact h

/-- A shelf of whole cells with one more is a shelf of whole cells. -/
theorem IsWhole.add (h : shelf.IsWhole) (hc : c.IsWhole shelf shelf.cells.size) :
    (shelf.add c).2.IsWhole := by
  have hkeep := (shelf.adds_add c).keeps
  have hmono : ∀ {p : Place} {c' : Cell}, c'.IsWhole shelf p → c'.IsWhole (shelf.add c).2 p :=
    fun hc' => isWhole_mono hc' (fun q d hd => ⟨d, hkeep q _ hd⟩) fun q s hs => hkeep q _ hs
  intro p c' hc'
  by_cases hp : p < shelf.cells.size
  · rw [cell?_add_of_lt hp] at hc'
    exact hmono (h p c' hc')
  · -- A place that was not there before is the last.
    have hlast : p = shelf.cells.size := by
      have hlt := cell?_lt hc'
      rw [Shelf.add, Array.size_push] at hlt
      exact Nat.le_antisymm (Nat.lt_succ_iff.mp hlt) (Nat.not_lt.mp hp)
    have hnew := shelf.cell?_add c
    rw [hlast] at hc' ⊢
    rw [show (shelf.add c).1 = shelf.cells.size from rfl, hc'] at hnew
    rw [Option.some.inj hnew]
    exact hmono hc

theorem IsWhole.addAll (h : shelf.IsWhole) {cs : List Cell}
    (hcs : ∀ c ∈ cs, ∃ d, c = .die d ∧ d.IsWhole) : (shelf.addAll cs).2.IsWhole := by
  induction cs generalizing shelf with
  | nil => exact h
  | cons c cs ih =>
      rcases hcs c List.mem_cons_self with ⟨d, rfl, hd⟩
      have hfirst : (shelf.add (.die d)).2.IsWhole := h.add hd
      exact ih hfirst fun c' hc' => hcs c' (List.mem_cons_of_mem _ hc')

/-- A roll that is put on the shelf behind dice of its own leaves all cells whole. -/
theorem IsWhole.addDice (h : shelf.IsWhole) {quantity : Nat} {d : LooseDie}
    {selectors : List Place} (hone : 1 ≤ quantity) (hd : d.IsWhole)
    (hs : ∀ q ∈ selectors, ∃ s, shelf.HoldsSelector q s) :
    (shelf.addDice quantity d selectors).2.IsWhole := by
  have hcells : ∀ c ∈ List.replicate quantity (Cell.die d.fresh), ∃ d', c = .die d' ∧ d'.IsWhole :=
    fun c hc => ⟨d.fresh, (List.mem_replicate.mp hc).2, hd.turned _ _⟩
  rcases shelf.adds_addAll (List.replicate quantity (.die d.fresh)) with ⟨hadds, hall⟩
  refine (h.addAll hcells).add ⟨?_, fun q hq => ?_, fun q hq => ?_⟩
  · intro hnil
    have hlen := hall.length_eq
    rw [hnil, List.length_nil, List.length_replicate] at hlen
    omega
  · -- Each of the new places holds one of the new dice.
    rcases List.mem_iff_get.mp hq with ⟨i, rfl⟩
    have hi := hall.get i.isLt (by rw [← hall.length_eq]; exact i.isLt)
    exact ⟨d.fresh, hi.trans (congrArg some (List.mem_replicate.mp (List.get_mem _ _)).2)⟩
  · exact (hs q hq).imp fun s hs => hadds.keeps q _ hs

/-- A whole die may stand in for a die, and all cells stay whole. -/
theorem IsWhole.set (h : shelf.IsWhole) {d d' : LooseDie} (hd : shelf.cell? p = some (.die d))
    (hd' : d'.IsWhole) : (shelf.set p (.die d')).IsWhole := by
  have hmono : ∀ {q : Place} {c : Cell}, c.IsWhole shelf q →
      c.IsWhole (shelf.set p (.die d')) q := by
    intro q c hc
    refine isWhole_mono hc (fun q e he => ?_) fun q s hs => ?_
    · rw [cell?_set hd]
      split
      · exact ⟨d', rfl⟩
      · exact ⟨e, he⟩
    · rw [HoldsSelector, cell?_set hd, if_neg fun heq => ?_, hs]
      -- A selector does not lie where a die does.
      rw [HoldsSelector, ← heq, hd] at hs
      cases hs
  intro q c hc
  rw [cell?_set hd] at hc
  split at hc
  · rw [← Option.some.inj hc]
    exact hd'
  · exact hmono (h q c hc)

/-- Dice that are found on a shelf of whole cells are whole. -/
theorem IsWhole.of_mem_diceAt (h : shelf.IsWhole) {dice : List Place} {d : LooseDie}
    (hd : d ∈ shelf.diceAt dice) : d.IsWhole := by
  rcases List.mem_filterMap.mp hd with ⟨q, -, hq⟩
  rw [die?] at hq
  split at hq
  · next hc =>
      cases hq
      exact h q _ hc
  · cases hq

/-- The cells of a built shelf are whole. -/
theorem Built.isWhole (h : Built shelf) : shelf.IsWhole := by
  induction h with
  | empty => exact fun p c hc => absurd (cell?_lt hc) (Nat.not_lt_zero p)
  | die _ hd ih => exact ih.add (LooseDie.isWhole_make hd)
  | fate _ hd ih => exact ih.add (LooseDie.isWhole_makeFate hd)
  | duplicate _ hd ih => exact ih.add ((ih _ _ hd).turned _ _)
  | constant _ n ih => exact ih.add trivial
  | selector _ hs ih => exact ih.add ((LooseSelector.exists_of_make hs).imp fun _ ht => ht.1)
  | roll _ hone hd hs ih =>
      refine ih.addDice hone ?_ fun q hq => ?_
      · rcases hd with rfl | ⟨q, hq⟩
        · exact LooseDie.isWhole_ofKind fun hf => absurd hf Bool.false_ne_true
        · exact ih q _ hq
      · rcases hs q hq with ⟨s, hs⟩
        rcases ih q _ hs with ⟨t, rfl⟩
        exact ⟨t, hs⟩
  | expression _ hterms ih =>
      refine ih.add fun t ht => ?_
      rcases List.mem_map.mp ht with ⟨t', ht', rfl⟩
      exact ⟨(hterms t' ht').elim fun _ hc => cell?_lt hc, t'.1, rfl⟩
  | rollSet _ hes ih => exact ih.add fun q hq => (hes q hq).elim fun _ hc => cell?_lt hc
  | turned _ hd top marks ih => exact ih.set hd ((ih _ _ hd).turned top marks)

end Whole

/-- How many nodes that hold others lie before a place. -/
def holdersBefore (shelf : Shelf) (p : Place) : Nat :=
  (shelf.cells.toList.take p).countP Cell.isHolder

/-- The levels that a way down from a node needs. -/
def need (shelf : Shelf) (p : Place) (c : Cell) : Nat :=
  if c.isHolder then shelf.holdersBefore p + 2 else 1

section Levels

variable {shelf : Shelf} {p q : Place} {c c' : Cell}

/-- More nodes that hold others lie up to such a node than before it. -/
theorem holdersBefore_lt (hc : shelf.cell? p = some c) (hholder : c.isHolder = true) {n : Nat}
    (hlt : p < n) :
    shelf.holdersBefore p < (shelf.cells.toList.take n).countP Cell.isHolder := by
  have hget : shelf.cells.toList[p]? = some c := by
    rw [Array.getElem?_toList]
    exact hc
  -- The node itself is counted once its place is passed.
  have hsucc : (shelf.cells.toList.take (p + 1)).countP Cell.isHolder
      = shelf.holdersBefore p + 1 := by
    rw [List.take_add_one, hget, List.countP_append, holdersBefore, Option.toList_some,
      List.countP_singleton, if_pos hholder]
  have hsub : (shelf.cells.toList.take (p + 1)).Sublist (shelf.cells.toList.take n) :=
    (List.take_prefix_take_left hlt).sublist
  have hle := hsub.countP_le (p := Cell.isHolder)
  omega

/-- Something lies at every place before one where something lies. -/
theorem exists_cell?_of_lt (hc : shelf.cell? p = some c) (hlt : q < p) :
    ∃ c', shelf.cell? q = some c' :=
  ⟨_, Array.getElem?_eq_getElem (Nat.lt_trans hlt (cell?_lt hc))⟩

/-- Every node needs a level. -/
theorem need_pos (shelf : Shelf) (p : Place) (c : Cell) : 0 < shelf.need p c := by
  rw [need]
  split
  · exact Nat.succ_pos _
  · exact Nat.one_pos

/-- A node that holds none needs less than one that holds others. -/
theorem need_lt_of_not_isHolder (h : c'.isHolder = false) (hholder : c.isHolder = true) :
    shelf.need q c' < shelf.need p c := by
  rw [need, need, if_pos hholder, if_neg (Bool.eq_false_iff.mp h)]
  exact Nat.lt_add_left _ Nat.one_lt_two

/-- A part at a smaller place needs less than a node that holds it. -/
theorem need_lt (hq : shelf.cell? q = some c') (hholder : c.isHolder = true) (hlt : q < p) :
    shelf.need q c' < shelf.need p c := by
  rw [need, need, if_pos hholder]
  split
  · next h =>
      have hbefore := holdersBefore_lt hq h hlt
      rw [← holdersBefore] at hbefore
      omega
  · omega

/-- There are as many levels as nodes that hold others, and two more. -/
theorem levels_eq (shelf : Shelf) :
    shelf.levels = shelf.cells.toList.countP Cell.isHolder + 2 := by
  rw [levels, ← Array.countP_eq_size_filter, ← Array.countP_toList]

/-- No node needs more levels than there are. -/
theorem need_le_levels (hc : shelf.cell? p = some c) : shelf.need p c ≤ shelf.levels := by
  rw [need, levels_eq]
  split
  · next h =>
      have hbefore := holdersBefore_lt hc h (cell?_lt hc)
      rw [← Array.length_toList, List.take_length] at hbefore
      omega
  · omega

end Levels

end Shelf

end DiceRoller
