import DiceRoller.Value
import Mathlib.Algebra.Order.Ring.Int

/-!
# Numbers that can be written

A numeral has a limited number of digits, so a number is written exactly if it is below a
power of ten. Reading keeps to the same limit. The digits of a number denote it again, and
a run of digits is worth less than the power of ten with as many zeros, so what was read can
always be written.

A sign is no digit and is not counted.

## Main definitions

* `Numeral.ceiling`: The least number with too many digits.
* `Numeral.IsShort`: A number that can be written.

## Theorems

* `Numeral.isDigit_of_mem_ofNat`, `Numeral.ofDigits_ofNat`: The numeral of a number.
* `Numeral.length_ofNat_le`, `Numeral.length_ofNat_le_iff`: How long a numeral is.
* `Numeral.ofDigits_lt`: The digits of a number bound it.
* `Numeral.write?_eq`: A number is written exactly if it is below the ceiling.
* `Numeral.IsShort.mono`: A number that is no further from zero than a short one is short
  too.
* `Numeral.isShort_of_le`: Small numbers can be written.
* `Value.write?_eq_some_iff`: When a value has a text of its own.
* `Value.write?_int`: A whole number as a value is written as the number.
-/

namespace DiceRoller

namespace Numeral

/-- A number that is less than this has no more digits than a number may have. -/
def ceiling : Nat := 10 ^ maxDigits

/-- The number has at most as many digits as can be written. -/
def IsShort (n : Int) : Prop := n.natAbs < ceiling

instance (n : Int) : Decidable (IsShort n) := inferInstanceAs (Decidable (_ < _))

/-- A numeral is made of digits. -/
theorem isDigit_of_mem_ofNat {n : Nat} {c : Char} (h : c ∈ Text.ofNat n) : isDigit c = true := by
  have hd : c.isDigit = true := Nat.isDigit_of_mem_toDigits (by decide) (by decide) h
  simp only [Char.isDigit, Bool.and_eq_true, decide_eq_true_eq, ge_iff_le,
    UInt32.le_iff_toNat_le] at hd
  simp only [isDigit, Bool.and_eq_true, decide_eq_true_eq, Char.toNat]
  exact hd

/-- A number below the ceiling has no more digits than it may have. -/
theorem length_ofNat_le {n : Nat} (h : n < ceiling) : (Text.ofNat n).length ≤ maxDigits :=
  (Nat.length_toDigits_le_iff (by decide) (by decide)).mpr h

theorem ofDigits_ofNat (n : Nat) : ofDigits (Text.ofNat n) = n := Nat.ofDigitChars_ten_toDigits

/-- Each digit is worth less than ten, so a run of digits is worth less than the power
    of ten with as many zeros. -/
theorem ofDigits_lt {ds : Text} (h : ∀ c ∈ ds, isDigit c = true) :
    ofDigits ds < 10 ^ ds.length := by
  induction ds with
  | nil => exact Nat.one_pos
  | cons c ds ih =>
      have hc := h c List.mem_cons_self
      simp only [isDigit, Bool.and_eq_true, decide_eq_true_eq] at hc
      have hrest := ih fun d hd => h d (List.mem_cons_of_mem c hd)
      have hzero : '0'.toNat = 48 := rfl
      have hdigit : c.toNat - '0'.toNat + 1 ≤ 10 := by omega
      simp only [ofDigits] at hrest ⊢
      rw [Nat.ofDigitChars_cons, Nat.ofDigitChars_eq_ofDigitChars_zero, Nat.mul_zero, Nat.zero_add,
        List.length_cons, Nat.pow_succ]
      -- The first digit counts the power of ten, and what is behind it is worth less than one
      -- more.
      calc 10 ^ ds.length * (c.toNat - '0'.toNat) + Nat.ofDigitChars 10 ds 0
          < 10 ^ ds.length * (c.toNat - '0'.toNat) + 10 ^ ds.length := by omega
        _ = 10 ^ ds.length * (c.toNat - '0'.toNat + 1) := by rw [Nat.mul_succ]
        _ ≤ 10 ^ ds.length * 10 := Nat.mul_le_mul_left _ hdigit

/-- A numeral is short enough exactly if its number is below the ceiling. -/
theorem length_ofNat_le_iff (n : Nat) : (Text.ofNat n).length ≤ maxDigits ↔ n < ceiling := by
  constructor
  · intro h
    -- The digits bound the number, and no more digits than there may be bound it by the
    -- ceiling.
    have hlt := ofDigits_lt fun c => isDigit_of_mem_ofNat (n := n)
    rw [ofDigits_ofNat] at hlt
    exact Nat.lt_of_lt_of_le hlt (Nat.pow_le_pow_right (by decide) h)
  · exact length_ofNat_le

/-- A number is written exactly if it is short. -/
theorem write?_eq (n : Int) :
    (IsShort n ∧ write? n = some (Text.ofInt n)) ∨ (¬ IsShort n ∧ write? n = none) := by
  by_cases hn : n.natAbs < ceiling
  · exact Or.inl ⟨hn, if_pos ((length_ofNat_le_iff _).mpr hn)⟩
  · exact Or.inr ⟨hn, if_neg fun hlen => hn ((length_ofNat_le_iff _).mp hlen)⟩

/-- A number that is no further from zero than a short one is short too. -/
theorem IsShort.mono {m n : Int} (h : IsShort n) (hle : m.natAbs ≤ n.natAbs) : IsShort m :=
  Nat.lt_of_le_of_lt hle h

/-- Numbers up to ten thousand have five digits, far fewer than a number may have. -/
theorem isShort_of_le {n : Int} (h : n.natAbs ≤ 10000) : IsShort n :=
  Nat.lt_of_le_of_lt h
    (Nat.pow_lt_pow_right (by decide) (by decide : 4 < maxDigits) : 10 ^ 4 < _)

end Numeral

namespace Value

/-- A value has a text of its own if it can be written, the one that it is shown as. -/
theorem write?_eq_some_iff {v : Value} {t : Text} :
    v.write? = some t ↔ v.isWritable = true ∧ v.shown = t := by
  rw [write?]
  cases v.isWritable with
  | true => exact ⟨fun h => ⟨rfl, Option.some.inj h⟩, fun h => congrArg some h.2⟩
  | false => exact ⟨nofun, fun h => absurd h.1 Bool.false_ne_true⟩

/-- A whole number is written as a value like it is written as a number. -/
theorem write?_int (n : Int) : (Value.int n).write? = Numeral.write? n := by
  rcases Numeral.write?_eq n with ⟨-, hn⟩ | ⟨-, hn⟩
  · rw [write?, isWritable, hn]
    rfl
  · rw [write?, isWritable, hn]
    rfl

end Value

end DiceRoller
