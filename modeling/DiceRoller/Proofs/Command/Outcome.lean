import DiceRoller.Proofs.Command.Endings

/-!
# What a command comes to

A command that keeps no journal, with a number for each of its limits. What it does is decided
in three steps. It may be asked to repeat more often than the limit allows; then it gives up
with exit code 2. Its words may be no notation within the limits; then it gives up with exit
code 1. Otherwise it throws as often as it was asked to, and ends with exit code 0.

The steps come in this order, although the text is read anew for every throw. The first time
decides, and it is before the first draw. So a command that gives up has thrown nothing and put
out nothing but its complaint, which goes elsewhere. One that does not has taken as many draws
as all its throws have dice, and puts out the reports on these throws, one below the other. The
table of the totals follows where there is more than one total to show.

Broken off is a command only if it has no number to seed with, a die within its limit has too
many faces for its values, or a total cannot be written.

## Main definitions

* `Command.IsReportOn`: What is put out on sets.

## Theorems

* `Command.totals_of_reportedTotals`: Totals that are reported are the totals of the set.
* `Command.isReportOn_of_shown`: What is shown of sets is a report on them.
* `Command.length_thrown`: As many sets are thrown as were asked for.
* `Command.head?_thrown`: Only the first set is asked for its expressions, but all throws
  have as many.
* `Command.performWith_of_limits`: What a command does within limits.
* `Command.isOutcome_refused`: A command that is to throw more often than it may ends with
  2.
* `Command.isOutcome_misread`: A command whose words cannot be read ends with 1.
* `Command.isOutcome_done`: A command whose throws can be shown ends with 0.
* `Command.isOutcome_throwText`: A text that is thrown within its limits comes to an
  outcome unless it breaks off.
* `Command.exists_finished_throwText`: It breaks off only on a die without values or on a
  total that cannot be written.
* `Command.exists_seedOf?`: A command has a seed unless it was given one that is no
  number.
* `Site.runQuietly_of_seedOf?`: With a seed and settings, what a command does is a matter
  of the settings.
* `Site.runQuietly_of_no_seed`: Without a seed a command is broken off.
* `Site.outcome_runQuietly`: Exit code, draws and output of a command.
* `Site.outcome_runQuietly_two_dice_twice`: Two dice are thrown twice, so that there are
  two totals to show.
-/

namespace DiceRoller

open Text

namespace Command

/-- The lines on sets, one below the other, and where there is more than one total an empty line
    and the table of the totals. -/
def IsReportOn (sets : List RollSet) (several : Prop) (out : Text) : Prop :=
  ∃ lines, List.Forall₂ (fun s line => s.report = .ok line) sets lines ∧
    (several → ∃ totals table, List.Forall₂ (fun s ns => s.totals = .ok ns) sets totals ∧
      Report.totalsTable totals = .ok table ∧
      out = join ['\n'] (lines ++ [[], table]) ++ ['\n']) ∧
    (¬ several → out = join ['\n'] lines ++ ['\n'])

/-- Totals that are reported are the totals of the set. -/
theorem totals_of_reportedTotals {s : RollSet} {ns : List Int}
    (h : s.reportedTotals = .ok ns) : s.totals = .ok ns := by
  rw [RollSet.reportedTotals] at h
  rcases htotals : s.totals with t | totals
  · rw [htotals] at h
    exact absurd h (by simp only [reduceCtorEq, not_false_eq_true])
  · rw [htotals] at h
    rw [Except.ok.inj h]

/-- What is shown of sets is a report on them. -/
theorem isReportOn_of_shown {sets : List RollSet} {out : Text} (h : shown sets = .ok out) :
    IsReportOn sets (1 < sets.length ∨ ∃ s ∈ sets.head?, 1 < s.expressions.length) out := by
  rcases Reader.bind_eq_ok h with ⟨lines, hlines, hrest⟩
  have hasked : (decide (sets.length > 1) ||
      sets.head?.any fun s => decide (s.expressions.length > 1)) = true ↔
      1 < sets.length ∨ ∃ s ∈ sets.head?, 1 < s.expressions.length := by
    simp only [Bool.or_eq_true, decide_eq_true_eq, Option.any_eq_true, Option.mem_def, gt_iff_lt]
  refine ⟨lines, mapM_eq_ok_iff.mp hlines, fun hseveral => ?_, fun hsingle => ?_⟩
  · -- Several totals: the lines, an empty line and the table.
    simp only [hasked.mpr hseveral, if_true] at hrest
    rcases Reader.bind_eq_ok hrest with ⟨totals, htotals, hrest⟩
    rcases Reader.bind_eq_ok hrest with ⟨table, htable, hrest⟩
    refine ⟨totals, table, ?_, htable, (Except.ok.inj hrest).symm⟩
    exact (mapM_eq_ok_iff.mp htotals).imp fun s ns => totals_of_reportedTotals
  · have hno := Bool.of_not_eq_true fun hyes => hsingle (hasked.mp hyes)
    simp only [hno, Bool.false_eq_true, if_false] at hrest
    exact (Except.ok.inj hrest).symm

theorem length_thrown (s : RollSet) (count : Nat) (draws : Draws) :
    (thrown s count draws).length = count := by
  rw [thrown, List.length_map, List.length_range]

-- Only the first set is asked for its expressions, but all throws have as many.
theorem head?_thrown {s : RollSet} {count : Nat} (hone : 1 ≤ count) (draws : Draws) :
    (∃ t ∈ (thrown s count draws).head?, 1 < t.expressions.length) ↔ 1 < s.expressions.length := by
  have hlen : (s.throw draws).1.expressions.length = s.expressions.length := by
    have hmap := congrArg List.length (s.unthrown_throw draws)
    rwa [List.length_map, List.length_map] at hmap
  rcases Nat.exists_eq_succ_of_ne_zero (Nat.one_le_iff_ne_zero.mp hone) with ⟨n, rfl⟩
  have hhead : (thrown s (n + 1) draws).head? = some (s.throw draws).1 := by
    rw [thrown, List.range_succ_eq_map, List.map_cons, List.head?_cons, Nat.zero_mul]
    rfl
  rw [hhead, ← hlen]
  simp

section Limits

variable {settings : Value} {r : Request} {most : Int} {dice faces : ℕ+} {count : Nat}

/-- What a command does whose limits are numbers. -/
theorem performWith_of_limits
    (hmost : settings.setting (Settings.way ["cli", "repeat_limit"]) commonRepeats
      = .ok (.int most))
    (hdice : settings.setting (Settings.way ["limits", "dice"]) (.int 0) = .ok (.int dice))
    (hfaces : settings.setting (Settings.way ["limits", "faces"]) (.int 0) = .ok (.int faces))
    (hcount : r.count = .value count) (draws : Draws) :
    performWith settings r draws =
      if most < count then
        ⟨.complaint ("Please repeat at most ".toList ++ Text.ofInt most ++ " times.".toList), [],
          draws⟩
      else throwText (.ofBounds (some dice) (some faces)) (join [' '] r.words) count draws := by
  have hlimits : limitsOf settings = .ok (.ofBounds (some dice) (some faces)) := by
    simp only [limitsOf, hdice, hfaces, bind, Except.bind]
    rfl
  -- Too many repeats are complained about before the other limits are looked at.
  rw [performWith, hmost, hcount]
  simp only [Ceiling.ofValue, Ceiling.ofInt, Ceiling.exceeded?]
  by_cases hle : (count : Int) ≤ most
  · simp only [if_pos hle, if_neg (Int.not_lt.mpr hle), hlimits]
  · simp only [if_neg hle, if_pos (Int.not_le.mp hle)]

end Limits

/-- What a command comes to that may repeat `most` times and is to throw `count` times what was
    read: the exit code with which it ends, what it puts out, and the draws that it leaves. -/
structure IsOutcome (most : Int) (count : Nat) (reading : Except Mistake RollSet) (draws : Draws)
    (code : Nat) (out : Text) (left : Draws) : Prop where
  refused : code = 2 ↔ most < count
  misread : code = 1 ↔ count ≤ most ∧ ∃ m, reading = .error m
  done : code = 0 ↔ count ≤ most ∧ ∃ s, reading = .ok s
  untouched : code ≠ 0 → out = [] ∧ left = draws
  reported : code = 0 → ∀ s, reading = .ok s → left = draws.skip (count * s.quantity) ∧
    IsReportOn (thrown s count draws) (1 < count ∨ 1 < s.expressions.length) out

section Outcome

variable {most : Int} {count : Nat} {reading : Except Mistake RollSet} {draws : Draws}

/-- A command that is to throw more often than it may ends with 2. -/
theorem isOutcome_refused (h : most < count) : IsOutcome most count reading draws 2 [] draws := by
  have hno : ¬ (count : Int) ≤ most := Int.not_le.mpr h
  refine ⟨iff_of_true rfl h, iff_of_false (by decide) fun hle => hno hle.1,
    iff_of_false (by decide) fun hle => hno hle.1, fun _ => ⟨rfl, rfl⟩, fun hcode => ?_⟩
  exact absurd hcode (by decide)

/-- A command whose words cannot be read ends with 1. -/
theorem isOutcome_misread (h : (count : Int) ≤ most) {m : Mistake} (hread : reading = .error m) :
    IsOutcome most count reading draws 1 [] draws := by
  refine ⟨iff_of_false (by decide) (Int.not_lt.mpr h), iff_of_true rfl ⟨h, m, hread⟩,
    iff_of_false (by decide) ?_, fun _ => ⟨rfl, rfl⟩, fun hcode => absurd hcode (by decide)⟩
  rintro ⟨-, s, hs⟩
  exact nomatch hread.symm.trans hs

/-- A command whose throws can be shown ends with 0. -/
theorem isOutcome_done (h : (count : Int) ≤ most) (hone : 1 ≤ count) {s : RollSet}
    (hread : reading = .ok s) {out : Text} (hout : shown (thrown s count draws) = .ok out) :
    IsOutcome most count reading draws 0 out (draws.skip (count * s.quantity)) := by
  refine ⟨iff_of_false (by decide) (Int.not_lt.mpr h), iff_of_false (by decide) ?_,
    iff_of_true rfl ⟨h, s, hread⟩, fun hcode => absurd rfl hcode, fun _ t ht => ?_⟩
  · rintro ⟨-, m, hm⟩
    exact nomatch hread.symm.trans hm
  · -- There is one set that the text is read as.
    have hsame : t = s := Except.ok.inj (ht.symm.trans hread)
    have hreport := isReportOn_of_shown hout
    rw [length_thrown, head?_thrown hone] at hreport
    rw [hsame]
    exact ⟨rfl, hreport⟩

/-- A text that is thrown within its limits comes to an outcome unless it breaks off. -/
theorem isOutcome_throwText (h : (count : Int) ≤ most) (hone : 1 ≤ count) {dice faces : Option ℕ+}
    {text : Text} {code : Nat} {out err : Text}
    (hending : (throwText (.ofBounds dice faces) text count draws).ending
      = .finished code out err) :
    IsOutcome most count (RollSet.read (.ofBounds dice faces) text) draws code out
      (throwText (.ofBounds dice faces) text count draws).draws := by
  rw [Limits.ofBounds_eq_upTo] at hending ⊢
  rcases hread : RollSet.read (.upTo (Limits.bound dice) (Limits.bound faces)) text with m | s
  · rw [throwText_of_error hread hone] at hending ⊢
    -- A command that ends was not broken off, so it was told of a mistake.
    by_cases hmistake : m.fault.isMistake = true
    · rw [if_pos hmistake] at hending ⊢
      rcases Ending.finished.inj hending with ⟨rfl, rfl, -⟩
      exact isOutcome_misread h rfl
    · rw [if_neg hmistake] at hending
      exact nomatch hending
  · rcases throwText_of_ok hread count draws with
      ⟨hdraws, ⟨out', hout, hfinished⟩ | ⟨f, -, hbroken⟩⟩
    · rcases Ending.finished.inj (hfinished.symm.trans hending) with ⟨rfl, rfl, -⟩
      rw [hdraws]
      exact isOutcome_done h hone rfl hout
    · exact nomatch hbroken.symm.trans hending

/-- It breaks off only on a die without values or on a total that cannot be written. -/
theorem exists_finished_throwText (hone : 1 ≤ count) {dice faces : Option ℕ+} {text : Text}
    (hmistake : ∀ m, RollSet.read (.ofBounds dice faces) text = .error m →
      m.fault.isMistake = true)
    (hshort : ∀ s, RollSet.read (.ofBounds dice faces) text = .ok s →
      ∀ t ∈ thrown s count draws, t.IsShort) :
    ∃ code out err, (throwText (.ofBounds dice faces) text count draws).ending
      = .finished code out err := by
  rw [Limits.ofBounds_eq_upTo] at hmistake hshort ⊢
  rcases hread : RollSet.read (.upTo (Limits.bound dice) (Limits.bound faces)) text with m | s
  · exact ⟨_, _, _, ending_throwText_of_error hread (hmistake m hread) hone draws⟩
  · rcases ending_throwText_of_ok hread hone draws with ⟨-, out, hout⟩ | ⟨⟨k, hk, hlong⟩, -⟩
    · exact ⟨_, _, _, hout⟩
    · exact absurd (hshort s hread _ (List.mem_map_of_mem (List.mem_range.mpr hk))) hlong

end Outcome

end Command

section Quiet

variable {site : Site} {r : Request} {moment : Int}

/-- A command has a seed unless it was given one that is no number. -/
theorem Command.exists_seedOf? (h : r.seed ≠ some .nothing) :
    ∃ seed, seedOf? r moment = some seed := by
  rcases hs : r.seed with _ | n | _
  · exact ⟨_, by rw [seedOf?, hs]⟩
  · exact ⟨_, by rw [seedOf?, hs]⟩
  · exact absurd hs h

/-- With a seed and settings, what a command does is a matter of the settings. -/
theorem Site.runQuietly_of_seedOf? {seed : Int} (hseed : Command.seedOf? r moment = some seed)
    {settings : Value} (hsettings : site.settings r = .ok settings) (draws : Draws) :
    (site.runQuietly r moment draws).ending = (Command.performWith settings r draws).ending ∧
      (site.runQuietly r moment draws).draws = (Command.performWith settings r draws).draws := by
  rw [runQuietly, Command.perform, hseed, hsettings]
  exact ⟨rfl, rfl⟩

theorem Site.runQuietly_of_no_seed (hseed : Command.seedOf? r moment = none) (draws : Draws) :
    (site.runQuietly r moment draws).ending = .broken .noNumber := by
  rw [runQuietly, Command.perform, hseed]

end Quiet

/-- What a command comes to that keeps no journal, has numbers for its limits and is to throw at
    least once. If it is not broken off, it ends with exit code 2 if it is to throw more often than
    it may, otherwise with 1 if its words cannot be read within the limits, and otherwise with 0.
    With 1 and 2 it puts out nothing and leaves the draws as they are. With 0 it takes as many
    draws as its throws have dice, and reports on them. It is broken off only for want of a number
    to seed with, by a die with too many faces for its values, or by a total that cannot be
    written. -/
theorem Site.outcome_runQuietly (site : Site) (r : Request) (moment : Int) (draws : Draws)
    (settings : Value) (most : Int) (dice faces : ℕ+) (count : Nat)
    (hsettings : site.settings r = .ok settings)
    (hmost : settings.setting (Settings.way ["cli", "repeat_limit"]) Command.commonRepeats
      = .ok (.int most))
    (hdice : settings.setting (Settings.way ["limits", "dice"]) (.int 0) = .ok (.int dice))
    (hfaces : settings.setting (Settings.way ["limits", "faces"]) (.int 0) = .ok (.int faces))
    (hcount : r.count = .value count) (hone : 1 ≤ count) :
    (site.runQuietly r moment draws).aside = ([], []) ∧
    (∀ code out err, (site.runQuietly r moment draws).ending = .finished code out err →
      Command.IsOutcome most count
        (RollSet.read (.ofBounds (some dice) (some faces)) (join [' '] r.words)) draws code out
        (site.runQuietly r moment draws).draws) ∧
    (r.seed ≠ some .nothing →
      (∀ m, RollSet.read (.ofBounds (some dice) (some faces)) (join [' '] r.words) = .error m →
        m.fault.isMistake = true) →
      (∀ s, RollSet.read (.ofBounds (some dice) (some faces)) (join [' '] r.words) = .ok s →
        ∀ t ∈ Command.thrown s count draws, t.IsShort) →
      ∃ code out err, (site.runQuietly r moment draws).ending = .finished code out err) := by
  have hperform := Command.performWith_of_limits hmost hdice hfaces hcount draws
  refine ⟨rfl, ?_, ?_⟩
  · intro code out err hending
    rcases hseed : Command.seedOf? r moment with _ | seed
    · exact nomatch (runQuietly_of_no_seed hseed draws).symm.trans hending
    · rcases runQuietly_of_seedOf? hseed hsettings draws with ⟨hsame, hdraws⟩
      rw [hsame] at hending
      rw [hdraws]
      rw [hperform] at hending ⊢
      by_cases hmany : most < count
      · rw [if_pos hmany] at hending ⊢
        rcases Command.Ending.finished.inj hending with ⟨rfl, rfl, -⟩
        exact Command.isOutcome_refused hmany
      · rw [if_neg hmany] at hending ⊢
        exact Command.isOutcome_throwText (Int.not_lt.mp hmany) hone hending
  · intro hnumber hmistake hshort
    rcases Command.exists_seedOf? hnumber with ⟨seed, hseed⟩
    rw [(runQuietly_of_seedOf? hseed hsettings draws).1, hperform]
    by_cases hmany : most < count
    · rw [if_pos hmany]
      exact ⟨_, _, _, rfl⟩
    · rw [if_neg hmany]
      exact Command.exists_finished_throwText hone hmistake hshort

-- Two dice are thrown twice, so that there are two totals to show.
theorem Site.outcome_runQuietly_two_dice_twice :
    ∃ out err, (Site.plain.runQuietly
        { words := [['2', 'd', '6']], log := false, count := .value 2 } 0
        ⟨fun k => k, 0⟩).ending = .finished 0 out err ∧
      Command.IsReportOn (Command.thrown .twoDice 2 ⟨fun k => k, 0⟩) True out := by
  have hsettings : Site.plain.settings
      { words := [['2', 'd', '6']], log := false, count := .value 2 } = .ok Settings.standard := by
    with_unfolding_all rfl
  have hread : RollSet.read (.ofBounds (some 1000) (some 1000)) ['2', 'd', '6']
      = .ok .twoDice := by
    rw [Limits.ofBounds_eq_upTo]
    exact RollSet.read_upTo_twoDice (by decide) (by decide)
  have hworth : (Command.thrown .twoDice 2 ⟨fun k => k, 0⟩).map
      (fun t => t.expressions.map Expression.worth) = [[3], [7]] := by
    rfl
  have hshort : ∀ t ∈ Command.thrown .twoDice 2 ⟨fun k => k, 0⟩, t.IsShort := by
    intro t ht e he
    have hmem := List.mem_map_of_mem (f := fun t => t.expressions.map Expression.worth) ht
    have hworths := List.mem_map_of_mem (f := Expression.worth) he
    rw [hworth] at hmem
    rcases List.mem_pair.mp hmem with hnumbers | hnumbers
    · rw [hnumbers, List.mem_singleton] at hworths
      rw [hworths]
      exact (Numeral.length_ofNat_le_iff 3).mp (by decide)
    · rw [hnumbers, List.mem_singleton] at hworths
      rw [hworths]
      exact (Numeral.length_ofNat_le_iff 7).mp (by decide)
  rcases Site.outcome_runQuietly Site.plain _ 0 ⟨fun k => k, 0⟩ _ 100 1000 1000 2 hsettings rfl rfl
    rfl rfl (by decide) with ⟨-, houtcome, hreturns⟩
  rcases hreturns (Option.some_ne_none _).symm
    (fun m hm => by cases hread.symm.trans hm)
    (fun s hs => by rw [← Except.ok.inj (hread.symm.trans hs)]; exact hshort) with
    ⟨code, out, err, hending⟩
  have h := houtcome code out err hending
  have hcode : code = 0 := h.done.mpr ⟨by decide, _, hread⟩
  rw [hcode] at hending
  refine ⟨out, err, hending, ?_⟩
  have hreport := (h.reported hcode _ hread).2
  rwa [eq_true (.inl (by decide) : 1 < 2 ∨ 1 < RollSet.twoDice.expressions.length)] at hreport

end DiceRoller
