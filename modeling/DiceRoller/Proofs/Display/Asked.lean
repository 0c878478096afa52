import DiceRoller.Proofs.Display.Remarks
import DiceRoller.Proofs.Grammar.Margins
import DiceRoller.Proofs.Grammar.RoundTrip

/-!
# What was asked for

A report begins with what was asked for: the text that the set was read from, without the blanks
at its ends. The text is cut there and not rewritten, so it may be as loose as the user left it,
and with other blanks at its ends it could have been refused. Without them it is a notation again,
and it is one for the same set. So whoever wants the same dice once more can copy the left side of
a report. It ends at the first equals sign, since no notation has one.

## Main definitions

* `Report.asked`: The left side of a report.

## Theorems

* `Report.asked_line`: What stands on the left side.
* `RollSet.read_asked`: The left side of a report is read as the set reported on.
* `RollSet.read_asked_between_blanks`: A no-break space in front, and a tabulation behind
  a last separator.
-/

namespace DiceRoller

open Text

/-- What was asked for, as a report shows it: what stands in front of the first equals sign,
    without the blanks at its ends. -/
def Report.asked (t : Text) : Text := trim (t.takeWhile (· != '='))

/-- On the left side stands the text that a set was read from, as long as it has no equals
    sign. -/
theorem Report.asked_line {spec : Text} (h : '=' ∉ spec) (render totals : Text)
    (great least : Bool) : asked (line spec render totals great least) = spec.trim := by
  have hspec : ∀ c ∈ spec, (c != '=') = true :=
    fun c hc => bne_iff_ne.mpr fun heq => h (heq ▸ hc)
  -- Of the line no more is needed than that an equals sign comes next.
  have hline : ∃ rest, line spec render totals great least = spec ++ ' ' :: '=' :: rest := by
    simp only [line, List.append_assoc]
    exact ⟨_, rfl⟩
  rcases hline with ⟨rest, hrest⟩
  rw [asked, hrest, List.takeWhile_append_of_pos hspec, List.takeWhile_cons_of_pos rfl,
    List.takeWhile_cons_of_neg (by decide)]
  exact trim_append (List.forall_mem_singleton.mpr rfl)

namespace RollSet

/-- The text that a set keeps stands for the set. Within the limits under which the set was read,
    the text is read as this set again, which equals itself. It is what a report on a throw of the
    set shows on its left side, and so that is read as the set too. -/
theorem read_asked (dice faces : Option ℕ+) (text : Text) (s : RollSet)
    (h : read (.ofBounds dice faces) text = .ok s) :
    ∃ spec, s.spec = some spec ∧ read (.ofBounds dice faces) spec = .ok s ∧ s.same s = true ∧
      ∀ draws line, (s.throw draws).1.report = .ok line →
        Report.asked line = spec ∧ read (.ofBounds dice faces) (Report.asked line) = .ok s := by
  rw [Limits.ofBounds_eq_upTo] at h ⊢
  have hagain := read_trim h
  rcases exists_form_of_read h with ⟨f, rfl, rfl⟩
  refine ⟨f.text.trim, rfl, hagain, same_unthrown f.unthrown_expressions.symm, ?_⟩
  intro draws line hline
  -- A throw keeps the text of the set, so the report begins with it.
  have hasked : Report.asked line = f.text.trim := by
    rcases report_eq (totals_throw_of_read h draws) with ⟨hshort, -⟩ | ⟨-, hfault⟩
    · have hequals : '=' ∉ f.text.trim := fun hmem =>
        f.not_mem_text (by decide) (by decide) (by decide) (trim_subset f.text hmem)
      have hreport := report_eq_line (totals_throw_of_read h draws) hshort
      rw [← Except.ok.inj (hreport.symm.trans hline)]
      exact (Report.asked_line hequals ..).trans f.text.trim_trim
    · exact nomatch hfault.symm.trans hline
  rw [hasked]
  exact ⟨rfl, hagain⟩

-- A no-break space in front, and a tabulation behind a last separator.
theorem read_asked_between_blanks :
    ∃ s line, read (.ofBounds none none) ['\u00a0', '1', 'd', '4', ' ', ';', '\t'] = .ok s ∧
      (s.throw ⟨fun _ => 2, 0⟩).1.report = .ok line ∧ line = "1d4 ; = [3] = 3".toList ∧
      Report.asked line = ['1', 'd', '4', ' ', ';'] ∧
      read (.ofBounds none none) ['1', 'd', '4', ' ', ';'] = .ok s := by
  have hread : read (.ofBounds none none) ['\u00a0', '1', 'd', '4', ' ', ';', '\t']
      = .ok ⟨[⟨[(.plus, .roll (.fresh 1 (.plain 4) []))]⟩], some ['1', 'd', '4', ' ', ';']⟩ := by
    decide +kernel
  have hline : (throw ⟨[⟨[(.plus, .roll (.fresh 1 (.plain 4) []))]⟩],
      some ['1', 'd', '4', ' ', ';']⟩ ⟨fun _ => 2, 0⟩).1.report
      = .ok "1d4 ; = [3] = 3".toList := by
    cbv
  rcases read_asked none none _ _ hread with ⟨spec, hspec, hagain, -, hasked⟩
  rw [← Option.some.inj hspec] at hagain hasked
  exact ⟨_, _, hread, hline, rfl, (hasked _ _ hline).1, hagain⟩

end RollSet

end DiceRoller
