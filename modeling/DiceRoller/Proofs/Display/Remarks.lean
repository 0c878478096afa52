import DiceRoller.Proofs.Dice.Extremes
import DiceRoller.Proofs.Display.Agreement
import DiceRoller.Proofs.Display.Totals
import DiceRoller.Proofs.Grammar.Letters
import DiceRoller.Proofs.Text.Pieces
import DiceRoller.Proofs.Text.Trimming

/-!
# Remarks on a throw

Below the report on a set there is a remark if every die shows the greatest value of its kind,
and another one if every die shows the least. The remarks are lines of the report, and so they
are looked for here: a report is divided into its lines, and the question is whether a remark is
one of them. A notation may run over several lines itself, and these are shown as they are. But
neither a notation nor a display nor a total has an exclamation mark, so that no other line can
be taken for a remark.

## Main definitions

* `Report.critical`, `Report.fumble`: The lines with the remarks.

## Theorems

* `Report.splitOn_line`: The lines of a report.
* `Report.mem_splitOn_line_iff`: A line is a remark only if the remark is made, as long as
  the rest has no exclamation mark.
* `Report.totalText_of_isShort`: A short total is written as its number.
* `Report.mapM_totalText`: Short totals are written as their numbers.
* `RollSet.report_eq_line`: What is reported of a set whose totals can be written.
* `RollSet.not_mem_bare`: What a notation, a display and a total are made of leaves no
  room for an exclamation mark.
* `RollSet.remarks_of_read`: Which remarks are made on a notation that is thrown, and what
  they say about its totals.
* `RollSet.remarks_of_read_two_sixes`: Both dice show six.
-/

namespace DiceRoller

open Text

namespace Report

/-- The line of a report that says that all dice show their greatest values. -/
def critical : Text := spaces 8 ++ "CRITICAL!".toList

/-- The line of a report that says that all dice show their least values. -/
def fumble : Text := spaces 8 ++ "FUMBLE!".toList

/-- What stands in front of the remarks. -/
def bare (spec render totals : Text) : Text :=
  spec ++ " = ".toList ++ render ++ " = ".toList ++ totals

/-- A report has the lines of what is reported, and behind these the remarks. -/
theorem splitOn_line (spec render totals : Text) (great least : Bool) :
    splitOn '\n' (line spec render totals great least)
      = splitOn '\n' (bare spec render totals) ++
        ((if great then [critical] else []) ++ if least then [fumble] else []) := by
  have hcritical : splitOn '\n' critical = [critical] := by decide
  have hfumble : splitOn '\n' fumble = [fumble] := by decide
  have hline : line spec render totals great least = bare spec render totals ++
      ((if great then '\n' :: critical else []) ++ if least then '\n' :: fumble else []) :=
    List.append_assoc ..
  rw [hline]
  -- There are both remarks, one of them, or none.
  cases great
  · cases least
    · simp only [Bool.false_eq_true, if_false, List.append_nil]
    · simp only [Bool.false_eq_true, if_false, if_true, List.nil_append, splitOn_append_cons,
        hfumble]
  · cases least
    · simp only [Bool.false_eq_true, if_false, if_true, List.append_nil, splitOn_append_cons,
        hcritical]
    · simp only [if_true, List.cons_append, splitOn_append_cons, hcritical, hfumble]

/-- A line is a remark only if the remark is made, as long as the rest has no exclamation
    mark. -/
theorem mem_splitOn_line_iff {spec render totals : Text} (h : '!' ∉ bare spec render totals)
    (great least : Bool) :
    (critical ∈ splitOn '\n' (line spec render totals great least) ↔ great = true) ∧
      (fumble ∈ splitOn '\n' (line spec render totals great least) ↔ least = true) := by
  -- A line of the rest has no exclamation mark, and a remark has one.
  have hother : ∀ t : Text, '!' ∈ t → t ∉ splitOn '\n' (bare spec render totals) :=
    fun t ht hmem => h (subset_of_mem_splitOn hmem ht)
  have hne : critical ≠ fumble := by decide
  rw [splitOn_line]
  cases great
  all_goals
    cases least
    all_goals
      simp [hother critical (by decide), hother fumble (by decide), hne, hne.symm]

/-- A short total is written as its number. -/
theorem totalText_of_isShort {n : Int} (h : Numeral.IsShort n) :
    totalText n = .ok (Text.ofInt n) := by
  rcases Numeral.write?_eq n with ⟨-, hwrite⟩ | ⟨hlong, -⟩
  · rw [totalText, hwrite]
  · exact absurd h hlong

/-- Short totals are written as their numbers. -/
theorem mapM_totalText {ns : List Int} (h : ∀ n ∈ ns, Numeral.IsShort n) :
    ns.mapM totalText = .ok (ns.map Text.ofInt) := by
  rw [mapM_eq_ok_iff, List.forall₂_map_right_iff, List.forall₂_same]
  exact fun n hn => totalText_of_isShort (h n hn)

end Report

namespace RollSet

/-- What is reported of a set that adds up to totals that can be written. -/
theorem report_eq_line {s : RollSet} (h : s.totals = .ok (s.expressions.map Expression.worth))
    (hshort : s.IsShort) :
    s.report = .ok (Report.line (s.spec.getD "None".toList) s.render
      (join [',', ' '] (s.expressions.map fun e => Text.ofInt e.worth))
      (s.hasDice && s.isGreatest) (s.hasDice && s.isLeast)) := by
  have hwritten : (s.expressions.map Expression.worth).mapM Report.totalText
      = .ok (s.expressions.map fun e => Text.ofInt e.worth) := by
    rw [Report.mapM_totalText (List.forall_mem_map.mpr hshort), List.map_map]
    rfl
  simp only [report, reportedTotals, h, Report.totalsText, hwritten, bind, Except.bind]
  rfl

-- What a notation, a display and a total are made of leaves no room for an exclamation mark.
theorem not_mem_bare {maxDice maxFaces : Nat} (f : NotationForm maxDice maxFaces)
    {s : RollSet} (hsettled : ∀ e ∈ s.expressions, e.IsSettled) :
    '!' ∉ Report.bare f.text.trim s.render
      (join [',', ' '] (s.expressions.map fun e => Text.ofInt e.worth)) := by
  have hspec : '!' ∉ f.text.trim := fun hmem =>
    f.not_mem_text (by decide) (by decide) (by decide) (trim_subset f.text hmem)
  -- A display consists of expressions and of what separates them.
  have hrender : '!' ∉ s.render := by
    intro hmem
    rcases mem_join hmem with h | ⟨t, ht, h⟩
    · exact absurd h (by decide)
    · rcases List.mem_map.mp ht with ⟨e, he, rfl⟩
      exact absurd (Decoder.isShown_expression (hsettled e he) h) (by decide)
  have htotals : '!' ∉ join [',', ' '] (s.expressions.map fun e => Text.ofInt e.worth) := by
    intro hmem
    rcases mem_join hmem with h | ⟨t, ht, h⟩
    · exact absurd h (by decide)
    · rcases List.mem_map.mp ht with ⟨e, -, rfl⟩
      exact absurd (Decoder.isShown_ofInt h) (by decide)
  have hequals : '!' ∉ " = ".toList := by decide
  simp only [Report.bare, List.mem_append, not_or]
  exact ⟨⟨⟨⟨hspec, hequals⟩, hrender⟩, hequals⟩, htotals⟩

/-- The remarks on a notation that is thrown. There is a line that says that all dice show their
    greatest values, exactly if there are dice and all of them do, whether they count or not.
    The same goes for the least values. Both lines are there exactly if all dice have one face.
    And where there is one of the lines, no other throw leads to more, or to less, in an
    expression that takes no roll off. -/
theorem remarks_of_read (dice faces : Option ℕ+) (text : Text) (s : RollSet) (draws : Draws)
    (h : read (.ofBounds dice faces) text = .ok s) (hshort : (s.throw draws).1.IsShort) :
    ∃ t, (s.throw draws).1.report = .ok t ∧
      (Report.critical ∈ splitOn '\n' t ↔
        s.dice ≠ [] ∧ ∀ d ∈ (s.throw draws).1.dice, d.ShowsGreatest) ∧
      (Report.fumble ∈ splitOn '\n' t ↔
        s.dice ≠ [] ∧ ∀ d ∈ (s.throw draws).1.dice, d.ShowsLeast) ∧
      (Report.critical ∈ splitOn '\n' t ∧ Report.fumble ∈ splitOn '\n' t ↔
        s.dice ≠ [] ∧ ∀ d ∈ s.dice, d.spec.faces = 1) ∧
      (Report.critical ∈ splitOn '\n' t → ∀ i e, s.expressions[i]? = some e → e.AddsRolls →
        ∃ n, (s.throw draws).1.ComesTo i n ∧
          ∀ draws', ∃ n', (s.throw draws').1.ComesTo i n' ∧ n' ≤ n) ∧
      (Report.fumble ∈ splitOn '\n' t → ∀ i e, s.expressions[i]? = some e → e.AddsRolls →
        ∃ n, (s.throw draws).1.ComesTo i n ∧
          ∀ draws', ∃ n', (s.throw draws').1.ComesTo i n' ∧ n ≤ n') := by
  rw [Limits.ofBounds_eq_upTo] at h
  have hreport := report_eq_line (totals_throw_of_read h draws) hshort
  -- The notation that was read, its display and its totals leave the mark out.
  have hbare : '!' ∉ Report.bare ((s.throw draws).1.spec.getD "None".toList)
      (s.throw draws).1.render
      (join [',', ' '] ((s.throw draws).1.expressions.map fun e => Text.ofInt e.worth)) := by
    rcases exists_form_of_read h with ⟨f, hf, rfl⟩
    rw [← hf]
    exact not_mem_bare f (isSettled_throw f _ draws)
  rcases Report.mem_splitOn_line_iff hbare
      ((s.throw draws).1.hasDice && (s.throw draws).1.isGreatest)
      ((s.throw draws).1.hasDice && (s.throw draws).1.isLeast) with ⟨hgreat, hleast⟩
  rw [Bool.and_eq_true, hasDice_throw_iff h] at hgreat hleast
  refine ⟨_, hreport, ?_, ?_, ?_, ?_, ?_⟩
  · rw [hgreat, isGreatest_throw_iff h]
  · rw [hleast, isLeast_throw_iff h]
  · -- There is one condition for having dice, and one for both ends.
    rw [hgreat, hleast, ← and_and_left, isGreatest_throw_iff h, isLeast_throw_iff h,
      showsBoth_throw_iff h]
  · intro hline i e hi hadds
    have he := isOrdinary_of_read h e (List.mem_of_getElem? hi)
    exact comesTo_greatest he hadds hi (hgreat.mp hline).2
  · intro hline i e hi hadds
    have he := isOrdinary_of_read h e (List.mem_of_getElem? hi)
    exact comesTo_least he hadds hi (hleast.mp hline).2

-- Both dice show six. One of them is struck out, and it has a say all the same.
theorem remarks_of_read_two_sixes :
    ∃ s t, read (.ofBounds none none) ['2', 'd', '6', 'k', 'h', '1'] = .ok s ∧
      (s.throw ⟨fun _ => 5, 0⟩).1.IsShort ∧ (s.throw ⟨fun _ => 5, 0⟩).1.report = .ok t ∧
      Report.critical ∈ splitOn '\n' t ∧ Report.fumble ∉ splitOn '\n' t ∧
      ∀ d ∈ (s.throw ⟨fun _ => 5, 0⟩).1.dice, d.ShowsGreatest := by
  have hread : read (.ofBounds none none) ['2', 'd', '6', 'k', 'h', '1']
      = .ok ⟨[⟨[(.plus, .roll (.fresh 2 (.plain 6) [⟨true, true, 1⟩]))]⟩],
        some ['2', 'd', '6', 'k', 'h', '1']⟩ := by
    decide +kernel
  have hworth : (throw ⟨[⟨[(.plus, .roll (.fresh 2 (.plain 6) [⟨true, true, 1⟩]))]⟩],
      some ['2', 'd', '6', 'k', 'h', '1']⟩ ⟨fun _ => 5, 0⟩).1.expressions.map Expression.worth
      = [6] := by
    cbv
  have hshort : IsShort (throw ⟨[⟨[(.plus, .roll (.fresh 2 (.plain 6) [⟨true, true, 1⟩]))]⟩],
      some ['2', 'd', '6', 'k', 'h', '1']⟩ ⟨fun _ => 5, 0⟩).1 := by
    intro e he
    have hmem := List.mem_map_of_mem (f := Expression.worth) he
    rw [hworth, List.mem_singleton] at hmem
    rw [hmem]
    exact (Numeral.length_ofNat_le_iff 6).mp (by decide)
  rcases remarks_of_read none none _ _ ⟨fun _ => 5, 0⟩ hread hshort with
    ⟨t, hreport, hcritical, -, -, -, -⟩
  have htext : t = "2d6kh1 = [6]~~[6]~~ = 6\n        CRITICAL!".toList :=
    Except.ok.inj (hreport.symm.trans (by cbv))
  have hline : Report.critical ∈ splitOn '\n' t := by
    rw [htext]
    decide +kernel
  have hother : Report.fumble ∉ splitOn '\n' t := by
    rw [htext]
    decide +kernel
  exact ⟨_, t, hread, hshort, hreport, hline, hother, (hcritical.mp hline).2⟩

end RollSet

end DiceRoller
