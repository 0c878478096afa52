import DiceRoller.Proofs.Dice.Outcomes
import Mathlib.Data.List.Forall2
import Mathlib.Tactic.Ring

/-!
# What a roll can come to

The dice that count show values from the least to the greatest of their kind, and how many of
them count is known before the throw. So the total of a roll lies in a span that its quantity,
its dice and its selectors determine.

Every number of that span is the total of some throw. The values for it are found in order. As
many numbers as there are dice that count are taken from the faces so that they add up to it.
The dice that the selectors take away show the least value if they go from the lower end and
the greatest if they go from the upper end. So none of them comes between the others, and the
numbers stand in the stretch that is left.

## Main definitions

* `Span`: The whole numbers from one to another.
* `Span.total`: Spans added up.
* `Roll.left`: The number of dice that count behind a throw.
* `Roll.span`: What a roll can come to.

## Theorems

* `Span.contains_total`: Numbers of some spans add up to a number of the sum of these.
* `Span.low_le_high_total`: A sum of spans has its ends in order if each of them has.
* `Span.exists_parts`: A number of a sum of spans is a sum of numbers of these.
* `Span.total_replicate`: As many copies of a span reach as far as a multiple of its ends.
* `Span.forall₂_replicate_iff`: Numbers of copies of one span are that many numbers of it.
* `Span.contains_of_mem_surround`: Numbers of a span, its ends added, are numbers of the
  span.
* `Span.pairwise_surround`: Numbers in order stay in order with the ends of their span
  around them.
* `Window.cut_surround`: The window looks past the ends and shows the numbers between
  them.
* `Window.exists_values`: A sum of as many numbers of a span as a window is wide is what
  the window shows of some numbers of the span in order, added up.
* `DieSpec.isFull_plain`: All numbers from one to their number stand on numbered faces.
* `DieSpec.isFull_fateDie`: All three numbers around zero stand on a Fate die.
* `Roll.IsOrdinary.low_le_high`: A die that can be thrown has a value, so its span is not
  empty.
* `Roll.contains_total_throw`: The total of a throw lies in the span of the roll.
* `Roll.exists_numbers_of_contains`: Every number of the span is the total of some throw.
-/

namespace DiceRoller

/-- The whole numbers from one to another, both of them included. -/
structure Span where
  low : Int
  high : Int
deriving DecidableEq

namespace Span

/-- The number is one of the span. -/
def Contains (s : Span) (n : Int) : Prop := s.low ≤ n ∧ n ≤ s.high

/-- Spans added up, end by end. -/
def total (spans : List Span) : Span := ⟨(spans.map low).sum, (spans.map high).sum⟩

variable {s : Span} {spans : List Span} {parts : List Int}

/-- Numbers of some spans add up to a number of the sum of these. -/
theorem contains_total (h : List.Forall₂ Contains spans parts) :
    (total spans).Contains parts.sum := by
  induction h with
  | nil => exact ⟨Int.le_refl 0, Int.le_refl 0⟩
  | @cons s n spans parts hn _ ih =>
      have hlow := Int.add_le_add hn.1 ih.1
      have hhigh := Int.add_le_add hn.2 ih.2
      exact ⟨hlow, hhigh⟩

/-- A sum of spans has its ends in order if each of them has. -/
theorem low_le_high_total (h : ∀ s ∈ spans, s.low ≤ s.high) :
    (total spans).low ≤ (total spans).high := by
  induction spans with
  | nil => exact Int.le_refl 0
  | cons s spans ih =>
      have hrest := ih fun s' hs' => h s' (List.mem_cons_of_mem s hs')
      exact Int.add_le_add (h s List.mem_cons_self) hrest

/-- A number of a sum of spans is a sum of numbers of these. -/
theorem exists_parts (h : ∀ s ∈ spans, s.low ≤ s.high) {t : Int} (ht : (total spans).Contains t) :
    ∃ parts, List.Forall₂ Contains spans parts ∧ parts.sum = t := by
  induction spans generalizing t with
  | nil =>
      have hzero : 0 = t := Int.le_antisymm ht.1 ht.2
      exact ⟨[], .nil, hzero⟩
  | cons s spans ih =>
      have hs := h s List.mem_cons_self
      have hspans := fun s' hs' => h s' (List.mem_cons_of_mem s hs')
      have hrest := low_le_high_total hspans
      have hlow : s.low + (total spans).low ≤ t := ht.1
      have hhigh : t ≤ s.high + (total spans).high := ht.2
      -- The first part is as small as it can be while the others still reach the rest.
      have hfirst : s.Contains (max s.low (t - (total spans).high)) := by
        constructor <;> omega
      have hleft : (total spans).Contains (t - max s.low (t - (total spans).high)) := by
        constructor <;> omega
      rcases ih hspans hleft with ⟨parts, hparts, hsum⟩
      refine ⟨_ :: parts, .cons hfirst hparts, ?_⟩
      rw [List.sum_cons, hsum]
      omega

/-- As many copies of a span reach as far as a multiple of its ends. -/
theorem total_replicate (n : Nat) (s : Span) :
    total (List.replicate n s) = ⟨n * s.low, n * s.high⟩ := by
  rw [total, List.map_replicate, List.map_replicate, List.sum_replicate, List.sum_replicate,
    nsmul_eq_mul, nsmul_eq_mul]

/-- Numbers of copies of one span are that many numbers of it. -/
theorem forall₂_replicate_iff {n : Nat} :
    List.Forall₂ Contains (List.replicate n s) parts ↔
      parts.length = n ∧ ∀ v ∈ parts, s.Contains v := by
  induction n generalizing parts with
  | zero =>
      rw [List.replicate_zero, List.forall₂_nil_left_iff, List.length_eq_zero_iff]
      refine ⟨fun h => ⟨h, fun v hv => ?_⟩, And.left⟩
      rw [h] at hv
      exact absurd hv List.not_mem_nil
  | succ n ih =>
      -- The first number belongs to the first copy, and the others to the rest.
      cases parts with
      | nil => exact ⟨fun h => (nomatch h), fun h => (nomatch h.1)⟩
      | cons v parts =>
          rw [List.replicate_succ, List.forall₂_cons, ih, List.length_cons,
            Nat.add_right_cancel_iff, List.forall_mem_cons]
          exact and_left_comm

/-- Numbers with the least one of a span in front and the greatest one behind. -/
def surround (s : Span) (before behind : Nat) (parts : List Int) : List Int :=
  List.replicate before s.low ++ parts ++ List.replicate behind s.high

/-- Numbers of a span, its ends added, are numbers of the span. -/
theorem contains_of_mem_surround (hs : s.low ≤ s.high) (hparts : ∀ v ∈ parts, s.Contains v)
    {before behind : Nat} : ∀ v ∈ s.surround before behind parts, s.Contains v := by
  intro v hv
  rcases List.mem_append.mp hv with hv | hv
  · rcases List.mem_append.mp hv with hv | hv
    · rw [List.eq_of_mem_replicate hv]
      exact ⟨Int.le_refl _, hs⟩
    · exact hparts v hv
  · rw [List.eq_of_mem_replicate hv]
    exact ⟨hs, Int.le_refl _⟩

/-- Numbers in order stay in order with the ends of their span around them. -/
theorem pairwise_surround (hs : s.low ≤ s.high) (hparts : ∀ v ∈ parts, s.Contains v)
    (hsorted : parts.Pairwise (· ≤ ·)) (before behind : Nat) :
    (s.surround before behind parts).Pairwise (· ≤ ·) := by
  have hconst : ∀ (n : Nat) (v : Int), (List.replicate n v).Pairwise (· ≤ ·) := fun n v =>
    List.pairwise_replicate.mpr (Or.inr (Int.le_refl v))
  refine List.pairwise_append.mpr ⟨List.pairwise_append.mpr ⟨hconst _ _, hsorted, ?_⟩,
    hconst _ _, ?_⟩
  · intro a ha b hb
    rw [List.eq_of_mem_replicate ha]
    exact (hparts b hb).1
  · intro a ha b hb
    have hmem : a ∈ s.surround before behind parts := List.mem_append_left _ ha
    rw [List.eq_of_mem_replicate hb]
    exact (contains_of_mem_surround hs hparts a hmem).2

end Span

/-- The window looks past the ends and shows the numbers between them. -/
theorem Window.cut_surround {w : Window} {parts : List Int} (hlen : parts.length = w.size)
    (s : Span) (behind : Nat) : w.cut (s.surround w.low behind parts) = parts := by
  have hfront : (List.replicate w.low s.low).length = w.low := List.length_replicate
  rw [cut, Span.surround, List.append_assoc, List.drop_left' hfront, List.take_left' hlen]

/-- A sum of as many numbers of a span as a window is wide is what the window shows of some
    numbers of the span in order, added up. -/
theorem Window.exists_values {w : Window} {n : Nat} {s : Span} (hfits : w.low + w.size ≤ n)
    (hs : s.low ≤ s.high) {t : Int} (ht : (Span.total (List.replicate w.size s)).Contains t) :
    ∃ values : List Int, values.length = n ∧ (∀ v ∈ values, s.Contains v) ∧
      (w.cut values.mergeSort).sum = t := by
  have hspans : ∀ s' ∈ List.replicate w.size s, s'.low ≤ s'.high := by
    intro s' hs'
    rw [List.eq_of_mem_replicate hs']
    exact hs
  rcases Span.exists_parts hspans ht with ⟨parts, hparts, hsum⟩
  rcases Span.forall₂_replicate_iff.mp hparts with ⟨hlen, hcontains⟩
  -- The parts are put in order, so that sorting leaves the whole list as it is.
  have hperm := List.mergeSort_perm parts fun a b => decide (a ≤ b)
  have hmem : ∀ v ∈ parts.mergeSort, s.Contains v := fun v hv =>
    hcontains v (hperm.mem_iff.mp hv)
  have hlen' : parts.mergeSort.length = w.size := hperm.length_eq.trans hlen
  have hsorted := Span.pairwise_surround hs hmem (List.pairwise_mergeSort' (· ≤ ·) parts) w.low
    (n - (w.low + w.size))
  refine ⟨s.surround w.low (n - (w.low + w.size)) parts.mergeSort, ?_,
    Span.contains_of_mem_surround hs hmem, ?_⟩
  · rw [Span.surround, List.length_append, List.length_append, List.length_replicate,
      List.length_replicate, hlen']
    omega
  · -- The list is in order already, so the window shows the parts.
    rw [List.mergeSort_eq_self _ hsorted, cut_surround hlen', hperm.sum_eq, hsum]

/-- The values from the least to the greatest of the dice that a notation can name. -/
def DieSpec.span (kind : DieSpec) : Span := if kind.fate then ⟨-1, 1⟩ else ⟨1, kind.faces⟩

/-- The values on the faces are the numbers of a span. -/
def DieSpec.IsFull (kind : DieSpec) : Prop := ∀ v, v ∈ kind.distribution ↔ kind.span.Contains v

theorem DieSpec.isFull_plain (n : Nat) : (plain n).IsFull := fun _ => mem_plain_iff

theorem DieSpec.isFull_fateDie : fateDie.IsFull := fun _ => mem_fateDie_iff

namespace Roll

/-- The number of dice that count behind a throw. -/
def left (r : Roll) : Nat := (Window.after r.quantity r.selectors).size

/-- The totals that the roll can come to, by the number of dice that count. -/
def span (r : Roll) : Span := ⟨r.left * r.spec.span.low, r.left * r.spec.span.high⟩

/-- The roll has dice, all numbers of their span stand on them, and it can be thrown. -/
structure IsOrdinary (r : Roll) : Prop where
  throwable : r.IsThrowable
  one_le : 1 ≤ r.quantity
  isFull : r.spec.IsFull

variable {r : Roll}

-- A die that can be thrown has a value, so its span is not empty.
theorem IsOrdinary.low_le_high (h : r.IsOrdinary) : r.spec.span.low ≤ r.spec.span.high := by
  rcases List.exists_mem_of_ne_nil _ h.throwable.distribution with ⟨v, hv⟩
  have hspan := (h.isFull v).mp hv
  exact Int.le_trans hspan.1 hspan.2

/-- The total of a throw lies in the span of the roll. -/
theorem contains_total_throw (h : r.IsOrdinary) (draws : Draws) :
    r.span.Contains (r.throw draws).1.total := by
  rcases exists_values h.throwable.distribution draws with ⟨values, hfalls, hfaces⟩
  have hholds := hfalls.holds h.throwable h.one_le
  have hcut : List.Forall₂ Span.Contains (List.replicate r.left r.spec.span)
      ((Window.after r.quantity r.selectors).cut values.mergeSort) := by
    refine Span.forall₂_replicate_iff.mpr ⟨Window.length_cut hholds.fits, fun v hv => ?_⟩
    have hmem : v ∈ values.mergeSort := (Window.sublist_cut _ _).mem hv
    exact (h.isFull v).mp (hfaces v ((List.mergeSort_perm values _).mem_iff.mp hmem))
  -- As many spans as there are dice that count add up to the span of the roll.
  have hsum := Span.contains_total hcut
  rw [Span.total_replicate] at hsum
  rw [hfalls.total_eq_sum_cut h.throwable h.one_le]
  exact hsum

/-- Every number of the span is the total of the throws that begin with some draws. -/
theorem exists_numbers_of_contains (h : r.IsOrdinary) {t : Int} (ht : r.span.Contains t) :
    ∃ numbers : List Nat, numbers.length = r.quantity ∧
      ∀ draws : Draws, draws.Begins numbers → (r.throw draws).1.total = t := by
  -- Which stretch of the values counts is the same for all draws, so any will do.
  have hwindow := (window_throw r (.ofCycle #[]) h.throwable h.one_le).2.1
  rw [span, ← Span.total_replicate] at ht
  rcases Window.exists_values hwindow h.low_le_high ht with ⟨values, hlen, hspan, hsum⟩
  -- The numbers that were found stand on the faces, so that they can fall.
  have hfaces : ∀ v ∈ values, v ∈ r.spec.distribution := fun v hv =>
    (h.isFull v).mpr (hspan v hv)
  rcases exists_numbers hlen hfaces with ⟨numbers, hquantity, hfalls⟩
  refine ⟨numbers, hquantity, fun draws hdraws => ?_⟩
  rw [(hfalls draws hdraws).total_eq_sum_cut h.throwable h.one_le]
  exact hsum

end Roll

end DiceRoller
