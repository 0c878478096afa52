import DiceRoller.Proofs.Bench.Rethrow
import DiceRoller.Proofs.Display.Totals
import DiceRoller.Site

/-!
# How a command ends

A command that keeps no journal and runs with the standard settings reads its text,
throws it and reports. Reading fails with a mistake that the user is told of, throwing
does not fail, and a report fails only on a total with too many digits. That one case
is no ending that the user is told of: the reader refuses a number with too many
digits, but a sum of numbers that it accepts may well have more, and then the command
is broken off.

## Main definitions

* `Command.thrown`: The sets that a set becomes when it is thrown again and again.

## Theorems

* `Command.shown_eq`: What is shown of sets, and why nothing is.
* `Command.setting_repeatLimit`: The standard settings allow a hundred throws.
* `Command.limitsOf_standard`: They allow a thousand dice to a roll and a thousand faces
  to a die.
* `Command.performWith_standard`: How a command ends with the standard settings.
* `Command.throwText_of_error`, `Command.throwText_of_ok`: A text refused, and a text
  thrown.
* `Command.ending_throwText_of_error`: A text with something wrong in it is complained
  about.
* `Command.ending_throwText_of_ok`: A text that was read is thrown and shown, unless a
  total of some throw is too long.
* `Site.ending_run`: How a command line ends that keeps no journal.
* `Site.ending_run_two_dice`: Two dice have totals that can be written.
* `DigitRun.digits_ofNat`: The digits of a number written without leading zeros.
* `DigitRun.digits_ofCommon`: The digits of a number up to the common limits.
* `RollSet.read_sum`: A sum of two numbers, without blanks, is read as that sum.
* `Command.ending_sum`: A sum of two numbers that can be read may be one that cannot be
  written.
* `Command.ending_longest_number_plus_one`: A sum that breaks a command off.
-/

namespace DiceRoller

namespace Command

/-- Sets that add up are shown, unless a total of one of them is too long. -/
theorem shown_eq {sets : List RollSet} (hne : sets ≠ [])
    (h : ∀ s ∈ sets, s.totals = .ok (s.expressions.map Expression.worth)) :
    ((∀ s ∈ sets, s.IsShort) ∧ ∃ out, shown sets = .ok out) ∨
      ((∃ s ∈ sets, ¬ s.IsShort) ∧ shown sets = .error .totalTooLong) := by
  rcases exists_mapM_or_error fun s hs => RollSet.report_eq (h s hs) with
    ⟨hshort, lines, hlines⟩ | ⟨hlong, hfault⟩
  · refine Or.inl ⟨hshort, ?_⟩
    simp only [shown, hlines, bind, Except.bind]
    split
    · -- With several totals to show there is a table of them.
      have hreported : sets.mapM RollSet.reportedTotals
          = .ok (sets.map fun s => s.expressions.map Expression.worth) := by
        refine mapM_eq_ok_iff.mpr (List.forall₂_map_right_iff.mpr (List.forall₂_same.mpr ?_))
        intro s hs
        rw [RollSet.reportedTotals, h s hs]
      have hshort' : ∀ ns ∈ sets.map fun s => s.expressions.map Expression.worth,
          ∀ n ∈ ns, Numeral.IsShort n := by
        intro ns hns n hn
        rcases List.mem_map.mp hns with ⟨s, hs, rfl⟩
        rcases List.mem_map.mp hn with ⟨e, he, rfl⟩
        exact hshort s hs e he
      rcases Report.exists_totalsTable (fun hnil => hne (List.map_eq_nil_iff.mp hnil)) hshort' with
        ⟨t, ht⟩
      simp only [hreported, ht]
      exact ⟨_, rfl⟩
    · exact ⟨_, rfl⟩
  · -- The lines come first, so a total that is too long for its line is found before any table.
    refine Or.inr ⟨hlong, ?_⟩
    simp only [shown, hfault, bind, Except.bind]

theorem setting_repeatLimit :
    Settings.standard.setting (Settings.way ["cli", "repeat_limit"]) commonRepeats
      = .ok (.int 100) :=
  rfl

theorem limitsOf_standard : limitsOf Settings.standard = .ok (.upTo 1000 1000) := rfl

/-- With the standard settings a request that repeats often enough, and not too often, is
    a matter of its text. -/
theorem performWith_standard {r : Request} {count : Nat} (hcount : r.count = .value count)
    (hmost : count ≤ 100) (draws : Draws) :
    performWith Settings.standard r draws
      = throwText (.upTo 1000 1000) (Text.join [' '] r.words) count draws := by
  have hallowed : (Ceiling.ofValue (.int 100)).exceeded? count = .ok none := by
    rw [Ceiling.ofValue, Ceiling.ofInt, Ceiling.exceeded?, if_pos (by omega)]
  -- The limit on repeats is the only thing that is asked before the text is read.
  rw [performWith, setting_repeatLimit, hcount]
  simp only [hallowed, limitsOf_standard]

section Text

variable {maxDice maxFaces count : Nat} {text : Text} {m : Mistake} {s : RollSet}

/-- A text that cannot be read ends the command before anything is thrown. It is
    complained about if something is wrong with it. -/
theorem throwText_of_error {limits : Limits} (h : RollSet.read limits text = .error m)
    (hone : 1 ≤ count) (draws : Draws) :
    throwText limits text count draws
      = if m.fault.isMistake then ⟨.misread m, [Record.ofMistake text m], draws⟩
        else ⟨.broken (.unread m.fault), [], draws⟩ := by
  -- The first throw reads the text, and there is a first throw.
  have hthrows : throws limits text count draws = ([], [], .error m) := by
    rcases Nat.exists_eq_succ_of_ne_zero (Nat.one_le_iff_ne_zero.mp hone) with ⟨n, rfl⟩
    rw [throws, h]
  rw [throwText, hthrows]
  rfl

theorem ending_throwText_of_error {limits : Limits} (h : RollSet.read limits text = .error m)
    (hmistake : m.fault.isMistake = true) (hone : 1 ≤ count) (draws : Draws) :
    (throwText limits text count draws).ending = .misread m := by
  rw [throwText_of_error h hone, if_pos hmistake]

/-- The sets that a set becomes when it is thrown again and again. -/
def thrown (s : RollSet) (count : Nat) (draws : Draws) : List RollSet :=
  (List.range count).map fun k => (s.throw (draws.skip (k * s.quantity))).1

/-- A text that was read is thrown, and it is left to what is shown how that ends. -/
theorem throwText_of_ok {limits : Limits} (h : RollSet.read limits text = .ok s) (count : Nat)
    (draws : Draws) :
    (throwText limits text count draws).draws = draws.skip (count * s.quantity) ∧
      ((∃ out, shown (thrown s count draws) = .ok out ∧
          (throwText limits text count draws).ending = .finished 0 out []) ∨
        ∃ f, shown (thrown s count draws) = .error f ∧
          (throwText limits text count draws).ending = .broken (.report f)) := by
  rcases throws_of_read h count draws with ⟨records, hthrows⟩
  rw [← thrown] at hthrows
  rcases hshown : shown (thrown s count draws) with f | out
  · have hperform : throwText limits text count draws
        = ⟨.broken (.report f), records, draws.skip (count * s.quantity)⟩ := by
      rw [throwText, hthrows]
      simp only [hshown]
    rw [hperform]
    exact ⟨rfl, .inr ⟨f, rfl, rfl⟩⟩
  · have hperform : throwText limits text count draws
        = ⟨.finished 0 out [], records, draws.skip (count * s.quantity)⟩ := by
      rw [throwText, hthrows]
      simp only [hshown]
    rw [hperform]
    exact ⟨rfl, .inl ⟨out, rfl, rfl⟩⟩

/-- A text that was read is thrown and shown, unless a total of some throw is too long. -/
theorem ending_throwText_of_ok (h : RollSet.read (.upTo maxDice maxFaces) text = .ok s)
    (hone : 1 ≤ count) (draws : Draws) :
    ((∀ k, k < count → (s.throw (draws.skip (k * s.quantity))).1.IsShort) ∧
        ∃ out, (throwText (.upTo maxDice maxFaces) text count draws).ending
          = .finished 0 out []) ∨
      ((∃ k, k < count ∧ ¬ (s.throw (draws.skip (k * s.quantity))).1.IsShort) ∧
        (throwText (.upTo maxDice maxFaces) text count draws).ending
          = .broken (.report .totalTooLong)) := by
  -- There is a throw to show, since there is a count.
  have hne : thrown s count draws ≠ [] := by
    intro hnil
    have hlen := congrArg List.length hnil
    rw [thrown, List.length_map, List.length_range, List.length_nil] at hlen
    omega
  have htotals : ∀ t ∈ thrown s count draws,
      t.totals = .ok (t.expressions.map Expression.worth) := by
    intro t ht
    rcases List.mem_map.mp ht with ⟨k, -, rfl⟩
    exact RollSet.totals_throw_of_read h _
  have hending := (throwText_of_ok h count draws).2
  rcases shown_eq hne htotals with ⟨hshort, out, hout⟩ | ⟨⟨t, ht, hlong⟩, hfault⟩
  · refine Or.inl ⟨fun k hk => hshort _ (List.mem_map_of_mem (List.mem_range.mpr hk)), out, ?_⟩
    rcases hending with ⟨out', hout', hending⟩ | ⟨f, hf, -⟩
    · rw [hending, Except.ok.inj (hout.symm.trans hout')]
    · exact absurd (hout.symm.trans hf) (by simp only [reduceCtorEq, not_false_eq_true])
  · rcases List.mem_map.mp ht with ⟨k, hk, rfl⟩
    refine Or.inr ⟨⟨k, List.mem_range.mp hk, hlong⟩, ?_⟩
    rcases hending with ⟨out, hout, -⟩ | ⟨f, hf, hending⟩
    · exact absurd (hfault.symm.trans hout) (by simp only [reduceCtorEq, not_false_eq_true])
    · rw [hending, Except.error.inj (hfault.symm.trans hf)]

end Text

end Command

/-- How a command line ends that keeps no journal, runs with the standard settings and has
    numbers where it gives a seed and a count. A text that cannot be read is complained
    about. One that is read is thrown as often as it was asked for and shown, unless some
    total is too long to be written; that breaks the command off, and nothing else does. -/
theorem Site.ending_run (site : Site) (moment : Int) (words : List Text) (draws : Draws)
    (r : Request) (count : Nat) (hread : Request.read words = .ok r)
    (hquiet : (r.log && site.keepsJournals) = false)
    (hsettings : site.settings r = .ok Settings.standard) (hseed : r.seed ≠ some .nothing)
    (hcount : r.count = .value count) (hone : 1 ≤ count) (hmost : count ≤ 100) :
    (∀ m, RollSet.read (.upTo 1000 1000) (Text.join [' '] r.words) = .error m →
      (site.run moment words draws).ending = .misread m) ∧
    ∀ s, RollSet.read (.upTo 1000 1000) (Text.join [' '] r.words) = .ok s →
      ((∀ k, k < count → (s.throw (draws.skip (k * s.quantity))).1.IsShort) ∧
          ∃ out, (site.run moment words draws).ending = .finished 0 out []) ∨
        ((∃ k, k < count ∧ ¬ (s.throw (draws.skip (k * s.quantity))).1.IsShort) ∧
          (site.run moment words draws).ending = .broken (.report .totalTooLong)) := by
  have hseeded : ∃ seed, Command.seedOf? r moment = some seed := by
    rcases hs : r.seed with _ | n | _
    · exact ⟨_, by rw [Command.seedOf?, hs]⟩
    · exact ⟨_, by rw [Command.seedOf?, hs]⟩
    · exact absurd hs hseed
  rcases hseeded with ⟨seed, hseeded⟩
  have hending : (site.run moment words draws).ending
      = (Command.throwText (.upTo 1000 1000) (Text.join [' '] r.words) count draws).ending := by
    rw [run, hread]
    simp only [hquiet, Bool.false_eq_true, if_false, runQuietly, Command.perform, hseeded,
      hsettings, Command.performOn, Command.performWith_standard hcount hmost]
  rw [hending]
  exact ⟨fun m hm => Command.ending_throwText_of_error hm
      (RollSet.isMistake_of_read hm (by decide)) hone draws,
    fun s hs => Command.ending_throwText_of_ok hs hone draws⟩

/-- A site with the standard settings on its disk. -/
def Site.plain : Site :=
  { root := ['/'], home := ['/'], keepsJournals := true
    disk := ({} : Disk).place (Path.join ['/'] ["data".toList, "config.yml".toList])
      (Document.write Settings.standard) }

-- Two dice have totals that can be written.
theorem Site.ending_run_two_dice :
    ∃ out, (Site.plain.run 0 ["--no-log".toList, ['2', 'd', '6']] ⟨fun k => k, 0⟩).ending
      = .finished 0 out [] := by
  have hread : Request.read ["--no-log".toList, ['2', 'd', '6']]
      = .ok { words := [['2', 'd', '6']], log := false } := by
    rfl
  have hsettings : Site.plain.settings { words := [['2', 'd', '6']], log := false }
      = .ok Settings.standard := by
    with_unfolding_all rfl
  have htext : RollSet.read (.upTo 1000 1000) ['2', 'd', '6'] = .ok .twoDice :=
    RollSet.read_upTo_twoDice (by decide) (by decide)
  rcases (Site.ending_run Site.plain 0 _ ⟨fun k => k, 0⟩ _ 1 hread rfl hsettings
    (Option.some_ne_none _).symm rfl (Nat.le_refl 1) (by decide)).2 _ htext with
    ⟨-, hout⟩ | ⟨⟨k, hk, hlong⟩, -⟩
  · exact hout
  · refine absurd (fun e he => ?_) hlong
    rw [Nat.lt_one_iff.mp hk] at he
    -- The dice show one and two.
    rw [List.mem_singleton.mp he]
    exact (Numeral.length_ofNat_le_iff 3).mp (by decide)

theorem DigitRun.digits_ofNat (n : Nat) (h : n < Numeral.ceiling) :
    (ofNat n h).digits = Text.ofNat n :=
  rfl

theorem DigitRun.digits_ofCommon (n : Nat) (h : n ≤ 10000) : (ofCommon n h).digits = Text.ofNat n :=
  rfl

/-- A sum of two numbers, without blanks, is read as that sum. -/
theorem RollSet.read_sum (m n : DigitRun) :
    ∃ spec, RollSet.read (.upTo 1000 1000) (m.digits ++ '+' :: n.digits)
      = .ok ⟨[⟨[(.plus, .constant m.value), (.plus, .constant n.value)]⟩], spec⟩ := by
  have hread := RollSet.read_text (⟨.empty, ⟨none, .constant m, [(.bare false, .constant n)]⟩, [],
    .blanks .empty⟩ : NotationForm 1000 1000)
  have htext : (⟨.empty, ⟨none, .constant m, [(.bare false, .constant n)]⟩, [],
      .blanks .empty⟩ : NotationForm 1000 1000).text = m.digits ++ '+' :: n.digits := by
    simp only [NotationForm.text, NotationForm.moreText, ExpressionForm.text,
      ExpressionForm.moreText, TermForm.text, SignForm.text, SignForm.bare, EndForm.text,
      BlankRun.empty, SpaceRun.empty, List.flatMap_cons, List.flatMap_nil, List.append_nil,
      List.nil_append, Option.elim_none]
    rfl
  rw [htext] at hread
  exact ⟨_, hread⟩

/-- A sum of two numbers that can be read may be one that cannot be written. -/
theorem Command.ending_sum {m n : DigitRun} (h : Numeral.ceiling ≤ m.value + n.value)
    (draws : Draws) :
    (perform (.ok Settings.standard) { words := [m.digits ++ '+' :: n.digits], log := false } 0
      draws).ending = .broken (.report .totalTooLong) := by
  rcases RollSet.read_sum m n with ⟨spec, hread⟩
  have hwords : (perform (.ok Settings.standard)
      { words := [m.digits ++ '+' :: n.digits], log := false } 0 draws).ending
      = (throwText (.upTo 1000 1000) (m.digits ++ '+' :: n.digits) 1 draws).ending := by
    have hwith := performWith_standard
      (r := { words := [m.digits ++ '+' :: n.digits], log := false }) rfl
      (Nat.le_of_ble_eq_true rfl) draws
    rw [perform, seedOf?]
    simp only [performOn, hwith]
    rfl
  rw [hwords]
  rcases ending_throwText_of_ok hread (Nat.le_refl 1) draws with ⟨hshort, -⟩ | ⟨-, hbroken⟩
  · -- Without dice a throw leaves the sum as it is.
    have hsum : Numeral.IsShort (1 * (m.value : Int) + (1 * (n.value : Int) + 0)) :=
      hshort 0 Nat.one_pos _ List.mem_cons_self
    rw [Numeral.IsShort] at hsum
    omega
  · exact hbroken

-- The greatest number that can be written, and one more.
theorem Command.ending_longest_number_plus_one :
    (Command.perform (.ok Settings.standard)
      { words := [Text.ofNat (Numeral.ceiling - 1) ++ ['+', '1']], log := false } 0
      ⟨fun _ => 0, 0⟩).ending = .broken (.report .totalTooLong) := by
  have hpos : 0 < Numeral.ceiling := Nat.pow_pos (by decide)
  have hlt : Numeral.ceiling - 1 < Numeral.ceiling := Nat.sub_lt hpos Nat.one_pos
  have hsum : Numeral.ceiling ≤ (DigitRun.ofNat (Numeral.ceiling - 1) hlt).value
      + (DigitRun.ofCommon 1 (by decide)).value := by
    rw [DigitRun.value_ofNat, DigitRun.value_ofCommon]
    omega
  have hending := ending_sum hsum ⟨fun _ => 0, 0⟩
  -- The second number is written as one digit.
  have hone : Text.ofNat 1 = ['1'] := rfl
  rw [DigitRun.digits_ofNat, DigitRun.digits_ofCommon, hone] at hending
  exact hending

end DiceRoller
