import DiceRoller.Proofs.Dice.Outcomes
import Mathlib.Tactic.Ring

/-!
# Rolls in a mirror

Turn the values of the dice round, so that the highest becomes the lowest, and let every
selector look at the other end. Then nothing happens to other dice than before.

What has to be seen for this is where ties go. Equal values stay equal in the mirror, and of
equal dice the earlier one precedes, whichever end a selector looks at. So a line-up in the
mirror is the same line of positions, not the reverse of it, and a cut through it falls
between the same two dice. A line-up that broke ties towards the earlier die at one end and
towards the later die at the other would not have this property.

From one selector to several there is nothing left to do: in the mirror each of them finds
the positions that it found before.

## Main definitions

* `Selector.mirrored`, `Roll.mirrored`: High and low exchanged.

## Theorems

* `getD_mirror`: In the mirror the value at a position is the opposite one.
* `Precedes.mirror`: In the mirror a position precedes those that it preceded before.
* `IsLineUp.mirror`: A line-up in the mirror.
* `Selector.Narrows.mirror`: What a selector leaves is what the selector for the other end
  leaves in the mirror.
* `Survive.mirror`: What survives selectors in the mirror.
* `sum_mirror`: Values and their opposites at some positions add up to a multiple.
* `DieSpec.OppositeSum.mem`: The opposite of a value stands on the die too.
* `DieSpec.OppositeSum.ne_nil`: Dice with opposite faces have faces.
* `Roll.throw_mirrored`: A roll and its mirror image, thrown.
* `Roll.throw_mirrored_tie`: Two dice show the highest value, and the earlier one is kept.
-/

namespace DiceRoller

/-- The selector that looks at the other end. -/
def Selector.mirrored (s : Selector) : Selector := { s with high := !s.high }

/-- The roll with high and low exchanged in its selectors. -/
def Roll.mirrored (r : Roll) : Roll := { r with selectors := r.selectors.map Selector.mirrored }

section Mirror

variable {high : Bool} {values : List Int} {c : Int} {counting line left : List Nat}

/-- In the mirror the value at a position is the opposite one. -/
theorem getD_mirror {i : Nat} (hi : i < values.length) :
    (values.map fun v => c - v).getD i 0 = c - values.getD i 0 := by
  have hi' : i < (values.map fun v => c - v).length := by
    rw [List.length_map]
    exact hi
  rw [List.getD_eq_getElem _ _ hi', List.getD_eq_getElem _ _ hi, List.getElem_map]

/-- In the mirror a position precedes those that it preceded before. -/
theorem Precedes.mirror {i j : Nat} (h : Precedes high values i j) (hi : i < values.length)
    (hj : j < values.length) : Precedes (!high) (values.map fun v => c - v) i j := by
  simp only [Precedes] at h ⊢
  rw [getD_mirror hi, getD_mirror hj]
  cases high
  · simp only [Bool.false_eq_true, if_false, Bool.not_false, if_true] at h ⊢
    omega
  · simp only [if_true, Bool.not_true, Bool.false_eq_true, if_false] at h ⊢
    omega

/-- In the mirror the positions stand in the same line. -/
theorem IsLineUp.mirror (h : IsLineUp high values counting line)
    (hcounting : ∀ i ∈ counting, i < values.length) :
    IsLineUp (!high) (values.map fun v => c - v) counting line := by
  refine ⟨h.perm, h.sorted.imp_of_mem fun {i j} hi hj hij => ?_⟩
  exact hij.mirror (hcounting i (h.perm.mem_iff.mp hi)) (hcounting j (h.perm.mem_iff.mp hj))

/-- What a selector leaves is what the selector for the other end leaves in the mirror. -/
theorem Selector.Narrows.mirror {s : Selector} (h : s.Narrows values counting left)
    (hcounting : ∀ i ∈ counting, i < values.length) :
    s.mirrored.Narrows (values.map fun v => c - v) counting left := by
  cases h with
  | idle hle => exact .idle hle
  | keep line hlt hk hl => exact .keep (s := s.mirrored) line hlt hk (hl.mirror hcounting)
  | drop line hlt hk hl => exact .drop (s := s.mirrored) line hlt hk (hl.mirror hcounting)

/-- In the mirror the same positions survive. -/
theorem Survive.mirror {ss : List Selector} (h : Survive values ss counting left)
    (hcounting : ∀ i ∈ counting, i < values.length) :
    Survive (values.map fun v => c - v) (ss.map Selector.mirrored) counting left := by
  induction h with
  | nil counting => exact .nil counting
  | cons hs _ ih =>
      -- No selector adds a position, so those that are left are still positions of values.
      exact .cons (hs.mirror hcounting) (ih fun i hi => hcounting i (hs.sublist.subset hi))

/-- Values and their opposites at some positions add up to a multiple. -/
theorem sum_mirror (hcounting : ∀ i ∈ counting, i < values.length) :
    (counting.map fun i => values.getD i 0).sum
        + (counting.map fun i => (values.map fun v => c - v).getD i 0).sum
      = counting.length * c := by
  induction counting with
  | nil => simp only [List.map_nil, List.sum_nil, List.length_nil, Nat.cast_zero, Int.zero_mul,
      Int.add_zero]
  | cons i counting ih =>
      have hrest := ih fun j hj => hcounting j (List.mem_cons_of_mem i hj)
      -- Each die and its image are worth the same together.
      rw [List.map_cons, List.map_cons, List.sum_cons, List.sum_cons,
        getD_mirror (hcounting i List.mem_cons_self), List.length_cons, Nat.cast_add,
        Nat.cast_one, Int.add_mul, Int.one_mul]
      omega

end Mirror

/-- Opposite faces of a die add up to a number: one more than there are faces on an ordinary
    die, and nothing on a Fate die. -/
inductive DieSpec.OppositeSum : DieSpec → Int → Prop where
  | plain {n : Nat} (h : 1 ≤ n) : OppositeSum (plain n) (n + 1)
  | fate : OppositeSum fateDie 0

namespace DieSpec.OppositeSum

variable {kind : DieSpec} {c : Int}

/-- The opposite of a value stands on the die too. -/
theorem mem (h : kind.OppositeSum c) {v : Int} (hv : v ∈ kind.distribution) :
    c - v ∈ kind.distribution := by
  cases h with
  | plain hn =>
      rw [mem_plain_iff] at hv ⊢
      omega
  | fate =>
      rw [mem_fateDie_iff] at hv ⊢
      omega

theorem ne_nil (h : kind.OppositeSum c) : kind.distribution ≠ [] := by
  cases h with
  | plain hn => exact List.ne_nil_of_mem (mem_plain_iff.mpr ⟨Int.le_refl 1, by omega⟩)
  | fate => exact List.cons_ne_nil _ _

end DieSpec.OppositeSum

/-- Any values on the faces fall with some draws, and their opposites in the mirrored roll.
    Whenever they do, the same dice count in both rolls, and the totals together are what
    opposite faces add up to, as often as there are dice that count. -/
theorem Roll.throw_mirrored (r : Roll) (c : Int) (values : List Int)
    (hkind : r.spec.OppositeSum c) (hlen : values.length = r.quantity)
    (hfaces : ∀ v ∈ values, v ∈ r.spec.distribution) :
    (∃ draws, r.Falls draws values) ∧
    (∃ draws, r.mirrored.Falls draws (values.map fun v => c - v)) ∧
    ∀ draws draws', r.Falls draws values →
      r.mirrored.Falls draws' (values.map fun v => c - v) →
        (r.mirrored.throw draws').1.shown.map Showing.flags
            = (r.throw draws).1.shown.map Showing.flags ∧
          (r.throw draws).1.total + (r.mirrored.throw draws').1.total
            = (r.throw draws).1.active.length * c := by
  refine ⟨exists_falls hlen hfaces, ?_, fun draws draws' h h' => ?_⟩
  · -- The opposites stand on the faces too, so they can fall.
    refine exists_falls ?_ fun v hv => ?_
    · rw [List.length_map]
      exact hlen
    · rcases List.mem_map.mp hv with ⟨u, hu, rfl⟩
      exact hkind.mem (hfaces u hu)
  · have hne := hkind.ne_nil
    have hrange : ∀ i ∈ List.range r.quantity, i < values.length := by
      intro i hi
      rw [hlen]
      exact List.mem_range.mp hi
    -- The rule has one outcome, so behind both throws the same positions count.
    have hsurvive := h.survive hne
    have hcounting : Selector.counting (r.mirrored.throw draws').1.shown
        = Selector.counting (r.throw draws).1.shown :=
      (h'.survive hne).unique (hsurvive.mirror hrange)
    have hbound : ∀ i ∈ Selector.counting (r.throw draws).1.shown, i < values.length := by
      intro i hi
      rcases Selector.mem_counting_iff.mp hi with ⟨d, hd, -⟩
      have hlt := (List.getElem?_eq_some_iff.mp hd).1
      have hquantity := r.quantity_throw draws
      rw [quantity] at hquantity
      omega
    constructor
    · -- The marks of a throw say no more than which dice count.
      refine Selector.map_flags_eq_of_counting (r.mirrored.survive_throw hne draws').2
        (r.survive_throw hne draws).2 ?_ hcounting
      exact (r.mirrored.quantity_throw draws').trans (r.quantity_throw draws).symm
    · have hactive := congrArg List.length h.map_total_active
      rw [List.length_map, List.length_map] at hactive
      rw [h.total_eq, h'.total_eq, hcounting, sum_mirror hbound, hactive]

-- Two dice show the highest value, and the earlier one is kept. Their opposites are the
-- lowest ones, and the earlier one is kept again.
theorem Roll.throw_mirrored_tie :
    (DieSpec.plain 6).OppositeSum 7 ∧
    [4, 2, 4].length = (fresh 3 (.plain 6) [⟨true, true, 1⟩]).quantity ∧
    (∀ v ∈ [4, 2, 4], v ∈ (DieSpec.plain 6).distribution) ∧
    (fresh 3 (.plain 6) [⟨true, true, 1⟩]).Falls (.ofCycle #[3, 1, 3]) [4, 2, 4] ∧
    (fresh 3 (.plain 6) [⟨true, true, 1⟩]).mirrored.Falls (.ofCycle #[2, 4, 2]) [3, 5, 3] ∧
    ((fresh 3 (.plain 6) [⟨true, true, 1⟩]).mirrored.throw
        (.ofCycle #[2, 4, 2])).1.shown.map Showing.flags = [1, 2, 2] ∧
    ((fresh 3 (.plain 6) [⟨true, true, 1⟩]).throw (.ofCycle #[3, 1, 3])).1.total
        + ((fresh 3 (.plain 6) [⟨true, true, 1⟩]).mirrored.throw
          (.ofCycle #[2, 4, 2])).1.total = 7 := by
  have hkind : (DieSpec.plain 6).OppositeSum 7 := .plain (by decide)
  have hfaces : ∀ v ∈ [4, 2, 4], v ∈ (DieSpec.plain 6).distribution := by decide
  have hfalls : (fresh 3 (.plain 6) [⟨true, true, 1⟩]).Falls (.ofCycle #[3, 1, 3]) [4, 2, 4] := by
    cbv
  have hfalls' : (fresh 3 (.plain 6) [⟨true, true, 1⟩]).mirrored.Falls (.ofCycle #[2, 4, 2])
      [3, 5, 3] := by
    cbv
  rcases (throw_mirrored (fresh 3 (.plain 6) [⟨true, true, 1⟩]) 7 [4, 2, 4] hkind rfl
    hfaces).2.2 _ _ hfalls hfalls' with ⟨hflags, htotal⟩
  refine ⟨hkind, rfl, hfaces, hfalls, hfalls', hflags.trans ?_, htotal.trans ?_⟩
  · cbv
  · cbv

end DiceRoller
