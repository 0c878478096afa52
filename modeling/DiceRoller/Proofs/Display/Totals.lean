import DiceRoller.Proofs.Dice.Evaluation
import DiceRoller.Proofs.Text.Numerals
import DiceRoller.Report
import Mathlib.Data.List.Forall2

/-!
# Totals that can be written

A numeral has a limited number of digits. The reader keeps to the limit, and so does
whatever is displayed of a set, which shows the numbers that were read and the values
of dice. A total is a sum of such numbers, and nothing keeps it below the limit. It is
the only thing that a report can fail on.

Everything else about a report is sound. The signs of a set are signs, so there are
totals. The table of several sets has a cell for each column in each row: its head is
as wide as the widest set, and a shorter row is filled up.

## Main definitions

* `RollSet.IsShort`: A set the totals of which can be written.

## Theorems

* `exists_mapM_or_error`: A step that succeeds for some things and fails in one way for
  the others, done for several of them.
* `mapM_eq_ok_iff`: Steps that all succeed give their results in order.
* `exists_mapM`: Steps that succeed for each of some things succeed for all of them.
* `Table.exists_width`: A column that every row has can be measured.
* `Table.exists_widths`: Every column has a width if no row is shorter than the first.
* `Table.exists_render`: A table is laid out if no row is shorter than the first.
* `Report.length_tableHead_le`: The row of a set is as wide as the table or wider.
* `Report.exists_tableOf`: Whatever is written for some sets, there is a table of it.
* `Report.totalText_eq`: A total has a text exactly if it is short, and otherwise it is
  what the report fails on.
* `Report.exists_totalsTable`: Short totals of sets have a table.
* `RollSet.totals_throw_of_read`: A set adds up after a throw, because it was read with
  signs in front of its terms.
* `RollSet.report_eq`: The line for a set, and why there is none.
-/

namespace DiceRoller

/-- A step that succeeds for some things and fails in one way for the others, done for
    several of them. -/
theorem exists_mapM_or_error {α β ε : Type} {f : α → Except ε β} {p : α → Prop} {fault : ε}
    {as : List α} (h : ∀ a ∈ as, (p a ∧ ∃ b, f a = .ok b) ∨ (¬ p a ∧ f a = .error fault)) :
    ((∀ a ∈ as, p a) ∧ ∃ bs, as.mapM f = .ok bs) ∨
      ((∃ a ∈ as, ¬ p a) ∧ as.mapM f = .error fault) := by
  induction as with
  | nil => exact Or.inl ⟨fun a ha => absurd ha List.not_mem_nil, [], rfl⟩
  | cons a as ih =>
      rw [List.mapM_cons]
      -- The first thing that fails decides, and those behind it are not looked at.
      rcases h a List.mem_cons_self with ⟨hp, b, hb⟩ | ⟨hp, hf⟩
      · rw [hb]
        rcases ih fun a' ha' => h a' (List.mem_cons_of_mem a ha') with
          ⟨hall, bs, hbs⟩ | ⟨⟨a', ha', hp'⟩, hfault⟩
        · rw [hbs]
          refine Or.inl ⟨fun a' ha' => ?_, b :: bs, rfl⟩
          rcases List.mem_cons.mp ha' with rfl | ha'
          · exact hp
          · exact hall a' ha'
        · rw [hfault]
          exact Or.inr ⟨⟨a', List.mem_cons_of_mem a ha', hp'⟩, rfl⟩
      · rw [hf]
        exact Or.inr ⟨⟨a, List.mem_cons_self, hp⟩, rfl⟩

-- Steps that all succeed give their results in order.
theorem mapM_eq_ok_iff {α β ε : Type} {f : α → Except ε β} {as : List α} {bs : List β} :
    as.mapM f = .ok bs ↔ List.Forall₂ (fun a b => f a = .ok b) as bs := by
  constructor
  · intro h
    induction as generalizing bs with
    | nil =>
        cases h
        exact .nil
    | cons a as ih =>
        rw [List.mapM_cons] at h
        rcases Reader.bind_eq_ok h with ⟨b, ha, h⟩
        rcases Reader.bind_eq_ok h with ⟨bs', has, h⟩
        cases h
        exact .cons ha (ih has)
  · intro h
    induction h with
    | nil => rfl
    | cons hab _ ih =>
        rw [List.mapM_cons, hab, ih]
        rfl

/-- Steps that succeed for each of some things succeed for all of them. -/
theorem exists_mapM {α β ε : Type} {f : α → Except ε β} {as : List α}
    (h : ∀ a ∈ as, ∃ b, f a = .ok b) : ∃ bs, as.mapM f = .ok bs := by
  induction as with
  | nil => exact ⟨[], rfl⟩
  | cons a as ih =>
      rcases h a List.mem_cons_self with ⟨b, hb⟩
      rcases ih fun a' ha' => h a' (List.mem_cons_of_mem a ha') with ⟨bs, hbs⟩
      exact ⟨b :: bs, by rw [List.mapM_cons, hb, hbs]; rfl⟩

namespace Table

/-- A column that every row has can be measured. -/
theorem exists_width {α : Type} {measure : α → Except Fault Nat} {column : Nat}
    {rows : List (List α)} (hmeasure : ∀ a, ∃ n, measure a = .ok n)
    (h : ∀ r ∈ rows, column < r.length) : ∃ n, width measure column rows = .ok n := by
  induction rows with
  | nil => exact ⟨0, rfl⟩
  | cons r rows ih =>
      rcases ih fun r' hr' => h r' (List.mem_cons_of_mem r hr') with ⟨n, hn⟩
      have hcolumn := h r List.mem_cons_self
      rcases hmeasure r[column] with ⟨m, hm⟩
      -- The column is as wide as its widest cell.
      refine ⟨max m n, ?_⟩
      rw [width, List.getElem?_eq_getElem hcolumn]
      simp only [hm, hn, bind, Except.bind]
      rfl

/-- Every column has a width if no row is shorter than the first. -/
theorem exists_widths {first : List Text} {rest : List (List Text)}
    (h : ∀ r ∈ rest, first.length ≤ r.length) :
    ∃ ws, widths (fun cell : Text => .ok cell.length) (first :: rest) = .ok ws ∧
      List.Forall₂ (fun k w => width (fun cell : Text => .ok cell.length) k (first :: rest) = .ok w)
        (List.range first.length) ws := by
  have hcolumns : ∀ column ∈ List.range first.length, ∃ n,
      width (fun cell : Text => .ok cell.length) column (first :: rest) = .ok n := by
    intro column hcolumn
    have hlt := List.mem_range.mp hcolumn
    refine exists_width (fun cell => ⟨cell.length, rfl⟩) fun r hr => ?_
    rcases List.mem_cons.mp hr with rfl | hr
    · exact hlt
    · exact Nat.lt_of_lt_of_le hlt (h r hr)
  rcases exists_mapM hcolumns with ⟨ws, hws⟩
  exact ⟨ws, hws, mapM_eq_ok_iff.mp hws⟩

/-- A table is laid out if no row is shorter than the first. -/
theorem exists_render (sep : Text) (center header : Bool) {first : List Text}
    {rest : List (List Text)} (h : ∀ r ∈ rest, first.length ≤ r.length) :
    ∃ t, render sep center header (first :: rest) = .ok t := by
  rcases exists_widths h with ⟨ws, hws, -⟩
  refine ⟨Text.join ['\n'] (rowsWith sep center header ws (first :: rest)), ?_⟩
  simp only [render, renderRows, hws, bind, Except.bind]
  rfl

end Table

namespace Report

/-- The row of a set is as wide as the table or wider. -/
theorem length_tableHead_le (n number : Nat) (totals : List Text) :
    (tableHead n).length ≤ (tableRow n number totals).length := by
  rw [tableHead, tableRow, List.length_cons, List.length_map, List.length_range, List.length_append,
    List.length_cons, List.length_replicate]
  omega

/-- Whatever is written for some sets, there is a table of it. -/
theorem exists_tableOf (written : List (List Text)) : ∃ t, tableOf written = .ok t := by
  have hrows : ∀ r ∈ (written.zipIdx.map fun p =>
      tableRow ((written.map List.length).max?.getD 0) (p.2 + 1) p.1),
      (tableHead ((written.map List.length).max?.getD 0)).length ≤ r.length := by
    intro r hr
    rcases List.mem_map.mp hr with ⟨p, -, rfl⟩
    exact length_tableHead_le ..
  rcases Table.exists_render Table.bar false true hrows with ⟨t, ht⟩
  exact ⟨t, by rw [tableOf, tableRows, ht]⟩

/-- A total has a text exactly if it is short, and otherwise it is what the report fails on. -/
theorem totalText_eq (n : Int) :
    (Numeral.IsShort n ∧ ∃ t, totalText n = .ok t) ∨
      (¬ Numeral.IsShort n ∧ totalText n = .error .totalTooLong) := by
  rcases Numeral.write?_eq n with ⟨hn, hw⟩ | ⟨hn, hw⟩
  · exact Or.inl ⟨hn, Text.ofInt n, by rw [totalText, hw]⟩
  · exact Or.inr ⟨hn, by rw [totalText, hw]⟩

/-- Short totals of at least one set have a table. -/
theorem exists_totalsTable {totals : List (List Int)} (hne : totals ≠ [])
    (h : ∀ ns ∈ totals, ∀ n ∈ ns, Numeral.IsShort n) : ∃ t, totalsTable totals = .ok t := by
  -- The totals of each set can be written.
  have hrow : ∀ ns ∈ totals, ∃ ts, ns.mapM totalText = .ok ts := by
    intro ns hns
    refine exists_mapM fun n hn => ?_
    rcases totalText_eq n with ⟨-, ht⟩ | ⟨hlong, -⟩
    · exact ht
    · exact absurd (h ns hns n hn) hlong
  rcases exists_mapM hrow with ⟨written, hwritten⟩
  rcases exists_tableOf written with ⟨t, ht⟩
  refine ⟨t, ?_⟩
  rw [totalsTable, if_neg hne, hwritten]
  exact ht

end Report

namespace RollSet

/-- All totals of the set can be written. -/
def IsShort (s : RollSet) : Prop := ∀ e ∈ s.expressions, Numeral.IsShort e.worth

/-- A set adds up after a throw, because it was read with signs in front of its terms. -/
theorem totals_throw_of_read {maxDice maxFaces : Nat} {text : Text} {s : RollSet}
    (h : RollSet.read (.upTo maxDice maxFaces) text = .ok s) (draws : Draws) :
    (s.throw draws).1.totals = .ok ((s.throw draws).1.expressions.map Expression.worth) := by
  rcases exists_form_of_read h with ⟨f, -, rfl⟩
  exact totals_eq_worth fun e he => (isSettled_throw f _ draws e he).isSign

/-- The line for a set that adds up. There is none exactly if a total is too long. -/
theorem report_eq {s : RollSet} (h : s.totals = .ok (s.expressions.map Expression.worth)) :
    (s.IsShort ∧ ∃ t, s.report = .ok t) ∨ (¬ s.IsShort ∧ s.report = .error .totalTooLong) := by
  have hreported : s.reportedTotals = .ok (s.expressions.map Expression.worth) := by
    rw [reportedTotals, h]
  -- Each total has a text, or is the one that is too long.
  have htotals : ∀ n ∈ s.expressions.map Expression.worth,
      (Numeral.IsShort n ∧ ∃ t, Report.totalText n = .ok t) ∨
        (¬ Numeral.IsShort n ∧ Report.totalText n = .error .totalTooLong) :=
    fun n _ => Report.totalText_eq n
  rcases exists_mapM_or_error htotals with ⟨hshort, ts, hts⟩ | ⟨⟨n, hn, hlong⟩, hfault⟩
  · refine Or.inl ⟨fun e he => hshort _ (List.mem_map_of_mem he), ?_⟩
    simp only [report, hreported, Report.totalsText, hts, bind, Except.bind]
    exact ⟨_, rfl⟩
  · rcases List.mem_map.mp hn with ⟨e, he, rfl⟩
    refine Or.inr ⟨fun hall => hlong (hall e he), ?_⟩
    simp only [report, hreported, Report.totalsText, hfault, bind, Except.bind]

end RollSet

end DiceRoller
