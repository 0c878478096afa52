import DiceRoller.Proofs.Text.Words
import DiceRoller.Upkeep.Task

/-!
# What cleaning removes

Cleaning finds paths, puts them on one line behind the names that it always removes, and hands
the line to the removing program word by word. The program is handed the names and the paths,
one word for each, exactly if every path is plain. A path with a gap, a quote or a backslash in
it is divided or changed, so that the program is told to remove something that was not found,
and what was found stays.

## Main definitions

* `Upkeep.removing`: The words that every removal begins with.
* `Upkeep.Place.holding`: A place with some files and folders and nothing else.

## Theorems

* `Path.join₂_ne_nil`: A path with something put behind it is not empty.
* `Upkeep.cleaningStart_eq`: The line begins with the words of every removal, one space
  behind each.
* `Upkeep.isPlain_of_mem_removing`: These words are plain.
* `Upkeep.split?_cleaningLine`: Plain paths are the words of the line, one for each.
* `Upkeep.countP_isMark_cleaningLine`: The line has the marks of its words and no others.
* `Upkeep.subset_cleaningLine`: The line has all characters of the paths.
* `Upkeep.isPlain_of_split?_cleaningLine`: If the paths are the words of the line, they
  are plain.
* `Upkeep.split?_cleaningLine_iff`: When the words of the line are what was found.
* `Upkeep.ne_nil_of_mem_find`: A path that was found by a pattern with something in it is
  not empty.
* `Upkeep.ne_nil_of_mem_look`: Nor is a name that was looked for at home.
* `Upkeep.ne_nil_of_found`: So no path that cleaning finds is empty.
* `Upkeep.acts_callAll_singleton`: A line on its own is handed to its program if it has
  words, there or not.
* `Upkeep.acts_clean`: What cleaning does once the person agrees.
* `Upkeep.clean_removes_found_iff`: When exactly what was found is removed.
* `Upkeep.clean_removes_found_tidy`: A compiled file and a folder that was packed up.
* `Upkeep.exists_clean_removes_other`: A file with a space in its name stays, and two
  other paths are removed instead.
-/

namespace DiceRoller

namespace Path

/-- A path with something put behind it is not empty. -/
theorem join₂_ne_nil (p : Text) {q : Text} (h : q ≠ []) : join₂ p q ≠ [] := by
  rw [join₂]
  split
  · exact h
  · split
    · exact List.append_ne_nil_of_right_ne_nil p h
    · exact List.append_ne_nil_of_right_ne_nil p (List.cons_ne_nil '/' q)

end Path

namespace Upkeep

/-- The words that every removal begins with. -/
def removing : List Text :=
  ["rm", "-vrf", ".eggs", ".tox", ".pytest_cache", "build", "dist"].map String.toList

/-- The line begins with the words of every removal, one space behind each. -/
theorem cleaningStart_eq : cleaningStart = Text.join [' '] removing ++ [' '] := by
  decide +kernel

theorem isPlain_of_mem_removing : ∀ t ∈ removing, Words.IsPlain t ∧ t ≠ [] := by
  decide +kernel

section Line

variable {compiled packed : List Text}

/-- Plain paths are the words of the line, one for each. -/
theorem split?_cleaningLine (h : ∀ t ∈ compiled ++ packed, Words.IsPlain t ∧ t ≠ []) :
    Words.split? (cleaningLine compiled packed) = some (removing ++ (compiled ++ packed)) := by
  have hpacked : Words.readFrom .gap (Text.join [' '] packed) = some packed := by
    have hnothing : ∀ c ∈ ([] : Text).head?, Words.isGap c = true := fun c hc => nomatch hc
    have hline := Words.readFrom_join (fun t ht => h t (List.mem_append_right compiled ht))
      hnothing rfl
    rwa [List.append_nil, List.append_nil] at hline
  have hgap : ∀ rest : Text, ∀ c ∈ (' ' :: rest).head?, Words.isGap c = true := by
    intro rest c hc
    rw [← Option.some.inj hc]
    rfl
  -- The line is read from its end: first the folders, then the files in front of them, then the
  -- words of every removal.
  have hcompiled := Words.readFrom_join
    (fun t ht => h t (List.mem_append_left packed ht)) (hgap (Text.join [' '] packed))
    ((Words.readFrom_gap_cons rfl).trans hpacked)
  rw [cleaningLine, cleaningStart_eq, List.append_assoc]
  exact Words.readFrom_join isPlain_of_mem_removing (hgap _)
    ((Words.readFrom_gap_cons rfl).trans hcompiled)

/-- The line has the marks of its words and no others. -/
theorem countP_isMark_cleaningLine (compiled packed : List Text) :
    (cleaningLine compiled packed).countP Words.isMark =
      (removing ++ (compiled ++ packed)).flatten.countP Words.isMark := by
  have hspace : [' '].countP Words.isMark = 0 := rfl
  have hcons : ∀ t : Text, (' ' :: t).countP Words.isMark = t.countP Words.isMark := fun _ =>
    List.countP_cons_of_neg (by decide)
  simp only [cleaningLine, cleaningStart_eq, List.countP_append, List.flatten_append, hcons,
    Text.countP_join _ hspace, List.countP_nil, Nat.add_zero]

/-- The line has all characters of the paths. -/
theorem subset_cleaningLine {t : Text} (h : t ∈ compiled ++ packed) :
    t ⊆ cleaningLine compiled packed := by
  refine List.subset_append_of_subset_right cleaningStart ?_
  rcases List.mem_append.mp h with ht | ht
  · exact List.subset_append_of_subset_left _ (Text.subset_join ht)
  · have hsubset : t ⊆ ' ' :: Text.join [' '] packed :=
      List.subset_cons_of_subset ' ' (Text.subset_join ht)
    exact List.subset_append_of_subset_right _ hsubset

/-- If the paths are the words of the line, they are plain. -/
theorem isPlain_of_split?_cleaningLine
    (h : Words.split? (cleaningLine compiled packed) = some (removing ++ (compiled ++ packed))) :
    ∀ t ∈ compiled ++ packed, Words.IsPlain t := by
  -- A mark on the line would be missing in the words.
  have hmark : ∀ c ∈ cleaningLine compiled packed, Words.isMark c = false := by
    intro c hc
    refine Bool.of_not_eq_true fun hmark => ?_
    have hless := Words.countP_isMark_lt (.inl rfl) h ⟨c, hc, hmark⟩
    rw [countP_isMark_cleaningLine] at hless
    exact Nat.lt_irrefl _ hless
  -- No gap is in a word where nothing is quoted, and without marks nothing is.
  have hgap := Words.not_isGap_of_readFrom (.inl rfl) h hmark
  exact fun t ht c hc =>
    ⟨hgap t (List.mem_append_right removing ht) c hc, hmark c (subset_cleaningLine ht hc)⟩

/-- The words of the line are what was found if and only if all of that is plain. -/
theorem split?_cleaningLine_iff (h : ∀ t ∈ compiled ++ packed, t ≠ []) :
    Words.split? (cleaningLine compiled packed) = some (removing ++ (compiled ++ packed)) ↔
      ∀ t ∈ compiled ++ packed, Words.IsPlain t :=
  ⟨isPlain_of_split?_cleaningLine, fun hplain =>
    split?_cleaningLine fun t ht => ⟨hplain t ht, h t ht⟩⟩

end Line

section Found

variable {p : Place} {pattern path : Text}

/-- A path that was found by a pattern with something in it is not empty. -/
theorem ne_nil_of_mem_find (hpattern : Pattern.fits pattern [] = false)
    (h : path ∈ p.find pattern) : path ≠ [] := by
  rcases List.mem_map.mp h with ⟨n, hn, rfl⟩
  -- The last segment fits, so it is not empty.
  rcases (Option.any_eq_true _ _).mp (List.mem_filter.mp hn).2 with ⟨s, hs, hfits⟩
  have hne : s ≠ [] := by
    rintro rfl
    exact absurd (hpattern.symm.trans hfits) Bool.false_ne_true
  rcases List.getLast?_eq_some_iff.mp hs with ⟨init, rfl⟩
  rw [Path.join, List.foldl_append]
  exact Path.join₂_ne_nil _ hne

theorem ne_nil_of_mem_look (hpattern : Pattern.fits pattern [] = false)
    (h : path ∈ p.look pattern) : path ≠ [] := by
  rintro rfl
  rcases List.mem_filterMap.mp (Text.mem_sortBy.mp h) with ⟨n, -, hn⟩
  split at hn
  · split at hn
    · rename_i hfits
      rw [Option.some.inj hn, hpattern, Bool.and_false] at hfits
      exact Bool.false_ne_true hfits
    · exact nomatch hn
  · exact nomatch hn

theorem ne_nil_of_found : ∀ path ∈ p.compiled ++ p.packed, path ≠ [] := by
  intro path h
  rcases List.mem_append.mp h with hcompiled | hpacked
  · exact ne_nil_of_mem_find (by decide +kernel) hcompiled
  · rcases List.mem_append.mp hpacked with hinfo | hegg
    · exact ne_nil_of_mem_look (by decide +kernel) hinfo
    · exact ne_nil_of_mem_look (by decide +kernel) hegg

end Found

section Agreed

variable {w : Circumstances} {acts : List Act} {reply : Text}

-- A line on its own is handed to its program if it has words, there or not.
theorem acts_callAll_singleton (w : Circumstances) (folder line : Text) :
    (w.callAll folder [line]).acts =
      ((Words.split? line).map fun words => Act.called words folder).toList := by
  simp only [Circumstances.callAll, Circumstances.callFrom]
  cases Words.split? line with
  | none => rfl
  | some words =>
      by_cases hmissing : w.missing = some (0 + 1)
      · simp only [if_pos hmissing, Option.map_some, Option.toList_some]
      · simp only [if_neg hmissing, Option.map_some, Option.toList_some]

/-- Once the person agrees, the line is handed to the removing program. -/
theorem acts_clean (hask : w.ask question = (acts, some reply)) (hreply : agrees reply = true)
    (p : Place) :
    (clean w p).acts = acts ++
      ((Words.split? (cleaningLine p.compiled p.packed)).map fun words =>
        Act.called words p.home).toList := by
  rw [clean, ifAgreed, hask]
  simp only [if_pos hreply, Course.after, List.nil_append, acts_callAll_singleton]

/-- What a person who agrees has removed is what was found, if and only if every path is plain:
the removing program is handed the names that it always removes and then the paths, one word for
each. -/
theorem clean_removes_found_iff (hask : w.ask question = (acts, some reply))
    (hreply : agrees reply = true) (p : Place) :
    (clean w p).acts = acts ++ [.called (removing ++ (p.compiled ++ p.packed)) p.home] ↔
      ∀ path ∈ p.compiled ++ p.packed, Words.IsPlain path := by
  rw [acts_clean hask hreply, List.append_cancel_left_eq, ← split?_cleaningLine_iff ne_nil_of_found]
  -- A line that cannot be divided is handed to nobody.
  cases Words.split? (cleaningLine p.compiled p.packed) with
  | none => exact ⟨fun h => absurd h.symm (List.cons_ne_nil _ _), fun h => nomatch h⟩
  | some words =>
      rw [Option.map_some, Option.toList_some, List.cons.injEq, Act.called.injEq, Option.some.injEq]
      exact ⟨fun h => h.1.1, fun h => ⟨⟨h, rfl⟩, rfl⟩⟩

end Agreed

/-- A place with some files and folders in its home, and nothing else. -/
def Place.holding (files folders : List Text) : Place where
  root := "/project".toList
  home := "/project".toList
  disk :=
    { entries := (["project".toList], .folder) ::
        ((folders.map fun name => (["project".toList, name], .folder)) ++
          files.mapIdx fun k name => (["project".toList, name], .page k))
      pages := files.map fun _ => [] }

-- A compiled file and a folder that was packed up.
theorem clean_removes_found_tidy :
    (clean { replies := ["y".toList] }
        (.holding ["a.pyc".toList] ["b.egg-info".toList])).acts =
      [.asked question,
        .called (removing ++ ["/project/a.pyc".toList, "b.egg-info".toList])
          "/project".toList] := by
  let p := Place.holding ["a.pyc".toList] ["b.egg-info".toList]
  have hfound : p.compiled ++ p.packed = ["/project/a.pyc".toList, "b.egg-info".toList] := by
    decide +kernel
  have hplain : ∀ path ∈ p.compiled ++ p.packed, Words.IsPlain path := by
    rw [hfound]
    decide +kernel
  have hask : Circumstances.ask { replies := ["y".toList] } question =
      ([.asked question], some "y".toList) := rfl
  have hacts := (clean_removes_found_iff hask (by decide +kernel) p).mpr hplain
  rw [hfound] at hacts
  exact hacts

/-- A file with a space in its name stays, and two other paths are removed instead. -/
theorem exists_clean_removes_other :
    ∃ (w : Circumstances) (p : Place) (acts : List Act) (reply : Text),
      w.ask question = (acts, some reply) ∧ agrees reply = true ∧
        p.compiled ++ p.packed = ["/project/a b.pyc".toList] ∧
        (clean w p).acts =
          acts ++ [.called (removing ++ ["/project/a".toList, "b.pyc".toList]) p.home] ∧
        (clean w p).acts ≠ acts ++ [.called (removing ++ (p.compiled ++ p.packed)) p.home] := by
  refine ⟨{ replies := ["y".toList] }, .holding ["a b.pyc".toList] [], [.asked question],
    "y".toList, ?_, ?_, ?_, ?_, ?_⟩
  all_goals decide +kernel

end Upkeep

end DiceRoller
