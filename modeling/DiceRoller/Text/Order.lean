import DiceRoller.Text.Basic

/-!
# The order of texts

Texts in the order of their code points, as names are listed: the first place at
which two texts differ decides, and a text comes before its continuations.

## Main definitions

* `Text.isUpTo`: Whether a text does not come after another.
* `Text.sortBy`: Values in the order of their names.
-/

namespace DiceRoller

namespace Text

/-- Whether a text does not come after another. -/
def isUpTo : Text → Text → Bool
  | [], _ => true
  | _ :: _, [] => false
  | c :: t, d :: u => if c = d then isUpTo t u else c.toNat < d.toNat

theorem isUpTo_refl (t : Text) : isUpTo t t = true := by
  induction t with
  | nil => rfl
  | cons c t ih => simp only [isUpTo, if_true, ih]

theorem isUpTo_total (t u : Text) : (isUpTo t u || isUpTo u t) = true := by
  induction t generalizing u with
  | nil => rfl
  | cons c t ih =>
    cases u with
    | nil => rfl
    | cons d u =>
      by_cases h : c = d
      · subst h
        simpa only [isUpTo, if_true] using ih u
      · -- Different code points have different numbers, so one of them is smaller.
        have hne : c.toNat ≠ d.toNat := fun e => h (Char.toNat_inj.mp e)
        have h' : ¬ d = c := fun e => h e.symm
        simp only [isUpTo, if_neg h, if_neg h', Bool.or_eq_true, decide_eq_true_eq]
        omega

/-- Values in the order of their names. Values with the same name keep theirs. -/
def sortBy {α : Type} (name : α → Text) (values : List α) : List α :=
  values.mergeSort fun a b => isUpTo (name a) (name b)

theorem mem_sortBy {α : Type} {name : α → Text} {values : List α} {a : α} :
    a ∈ sortBy name values ↔ a ∈ values := List.mem_mergeSort

end Text

end DiceRoller
