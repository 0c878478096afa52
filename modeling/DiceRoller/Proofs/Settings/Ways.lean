import DiceRoller.Document
import DiceRoller.Settings
import Mathlib.Data.List.Basic

/-!
# Where a way of names leads

A setting is looked up by names that lead from one mapping into the next. There are three ways
for this to go. The names may all be found, and then the value at the end is the setting. A
mapping on the way may not have the next name, and then the default takes the place of the
setting. Or the way may come to a value that is no mapping while there are names left: a section
that was left empty, a text, a number, a list, or a document with nothing in it. For that there
is no default, and the lookup fails.

So a default does not make a lookup safe. It stands in for a section that is not there, and does
not for one that is there and empty.

## Main definitions

* `Value.Leads`: Names that lead to a value.
* `Value.Misses`: Names that come to a mapping without the next one.
* `Value.IsBlocked`: Names that come to something else than a mapping.

## Theorems

* `Value.follow_append`: A way in two parts.
* `Value.follow_of_leads`: Names that lead to a value are followed to that value.
* `Value.follow_of_misses`: Where a mapping does not have the next name, the lookup finds
  nothing.
* `Value.under_text_of_ne_dict`: Under a name there is nothing in a value that is no
  mapping.
* `Value.follow_of_isBlocked`: At a value that is no mapping the lookup breaks off.
* `Value.Misses.into`: What misses a name further down misses it from above.
* `Value.IsBlocked.into`: What is blocked further down is blocked from above.
* `Value.leads_or_misses_or_isBlocked`: There is no other case.
* `Value.setting_of_leads`: Where the names lead to a value, that is the setting, and the
  default is left aside.
* `Value.setting_of_misses`: Where a mapping does not have the next name, the default is
  the setting.
* `Value.setting_of_isBlocked`: The default is not even looked at.
* `Value.setting_along_names`: What a lookup with a default comes to.
* `Value.setting_along_names_standard`: The standard settings have the limit, and a
  section that they lack is made up for.
* `Value.exists_read_unfit`: A document may have a section with nothing in it, and a name
  is looked for there in vain.
* `Value.exists_setting_not_default`: A lookup that fails although it has a default.
-/

namespace DiceRoller

namespace Value

/-- The names lead from mapping to mapping, each under the next name, and end at a value. -/
inductive Leads : Value → List Text → Value → Prop where
  /-- Without names the way ends where it begins. -/
  | here (v : Value) : Leads v [] v
  /-- A mapping has the first name, and the others lead on from what is there. -/
  | into {entries : List (Text × Value)} {name : Text} {names : List Text} {v w : Value} :
      get? name entries = some v → Leads v names w → Leads (.dict entries) (name :: names) w

/-- The names come to a mapping that does not have the next one. -/
def Misses (v : Value) (names : List Text) : Prop :=
  ∃ front name back entries, names = front ++ name :: back ∧
    v.Leads front (.dict entries) ∧ get? name entries = none

/-- The names come to a value that is no mapping, and there are some left. -/
def IsBlocked (v : Value) (names : List Text) : Prop :=
  ∃ front name back w, names = front ++ name :: back ∧
    v.Leads front w ∧ ∀ entries, w ≠ .dict entries

/-- A way in two parts is followed to the end of the first, and from there on. -/
theorem follow_append (v : Value) (front back : List Value) :
    v.follow (front ++ back) = (v.follow front).bind fun w => w.follow back := by
  induction front generalizing v with
  | nil => rfl
  | cons key front ih =>
      rw [List.cons_append, follow, follow]
      rcases v.under key with f | w
      · rfl
      · exact ih w

/-- Names that lead to a value are followed to that value. -/
theorem follow_of_leads {v w : Value} {names : List Text} (h : v.Leads names w) :
    v.follow (names.map .text) = .ok w := by
  induction h with
  | here v => rfl
  | into hname _ ih =>
      rw [List.map_cons, follow, under, hname]
      exact ih

/-- Where a mapping does not have the next name, the lookup finds nothing. -/
theorem follow_of_misses {v : Value} {names : List Text} (h : v.Misses names) :
    v.follow (names.map .text) = .error .missing := by
  rcases h with ⟨front, name, back, entries, rfl, hfront, hname⟩
  rw [List.map_append, follow_append, follow_of_leads hfront, List.map_cons]
  simp only [Except.bind, follow, under, hname, bind]

/-- Under a name there is nothing in a value that is no mapping. -/
theorem under_text_of_ne_dict {w : Value} (h : ∀ entries, w ≠ .dict entries) (name : Text) :
    w.under (.text name) = .error .unfit := by
  cases w with
  | dict entries => exact absurd rfl (h entries)
  | _ => rfl

/-- At a value that is no mapping the lookup breaks off. -/
theorem follow_of_isBlocked {v : Value} {names : List Text} (h : v.IsBlocked names) :
    v.follow (names.map .text) = .error .unfit := by
  rcases h with ⟨front, name, back, w, rfl, hfront, hw⟩
  rw [List.map_append, follow_append, follow_of_leads hfront, List.map_cons]
  -- The first name behind the front is asked of something that has no names.
  simp only [Except.bind, follow, under_text_of_ne_dict hw, bind]

section Into

variable {entries : List (Text × Value)} {name : Text} {names : List Text} {v : Value}

theorem Misses.into (hname : get? name entries = some v) (h : v.Misses names) :
    Misses (.dict entries) (name :: names) := by
  rcases h with ⟨front, next, back, inner, rfl, hfront, hnext⟩
  exact ⟨name :: front, next, back, inner, rfl, .into hname hfront, hnext⟩

theorem IsBlocked.into (hname : get? name entries = some v) (h : v.IsBlocked names) :
    IsBlocked (.dict entries) (name :: names) := by
  rcases h with ⟨front, next, back, w, rfl, hfront, hw⟩
  exact ⟨name :: front, next, back, w, rfl, .into hname hfront, hw⟩

end Into

/-- Names lead somewhere, or come to a mapping without the next one, or to something else. -/
theorem leads_or_misses_or_isBlocked (v : Value) (names : List Text) :
    (∃ w, v.Leads names w) ∨ v.Misses names ∨ v.IsBlocked names := by
  induction names generalizing v with
  | nil => exact .inl ⟨v, .here v⟩
  | cons name names ih =>
      by_cases hdict : ∃ entries, v = .dict entries
      · rcases hdict with ⟨entries, rfl⟩
        rcases hname : get? name entries with _ | inner
        · exact .inr (.inl ⟨[], name, names, entries, rfl, .here _, hname⟩)
        · -- The mapping has the name, so the rest of the way decides.
          rcases ih inner with ⟨w, hw⟩ | hmisses | hblocked
          · exact .inl ⟨w, .into hname hw⟩
          · exact .inr (.inl (hmisses.into hname))
          · exact .inr (.inr (hblocked.into hname))
      · -- What is no mapping blocks the way at once.
        exact .inr (.inr ⟨[], name, names, v, rfl, .here v, fun entries h => hdict ⟨entries, h⟩⟩)

section Setting

variable {v : Value} {names : List Text}

/-- Where the names lead to a value, that is the setting, and the default is left aside. -/
theorem setting_of_leads {w : Value} (h : v.Leads names w) (default : Value) :
    v.setting (names.map .text) default = .ok w := by
  unfold setting
  rw [follow_of_leads h]

/-- Where a mapping does not have the next name, the default is the setting. -/
theorem setting_of_misses {default : Value} (hdefault : default ≠ .null) (h : v.Misses names) :
    v.setting (names.map .text) default = .ok default := by
  unfold setting
  rw [follow_of_misses h]
  -- No default counts the same as a default that is null.
  cases default with
  | null => exact absurd rfl hdefault
  | _ => rfl

-- The default is not even looked at.
theorem setting_of_isBlocked (h : v.IsBlocked names) (default : Value) :
    v.setting (names.map .text) default = .error .unfit := by
  unfold setting
  rw [follow_of_isBlocked h]

end Setting

/-- What a lookup with a default comes to. It gives the value to which the names lead, or the
    default where a mapping does not have the next name. It fails exactly if the names come to
    something that is no mapping, whatever the default is. -/
theorem setting_along_names (v : Value) (names : List Text) (default : Value)
    (hdefault : default ≠ .null) :
    (∀ w, v.Leads names w → v.setting (names.map .text) default = .ok w) ∧
    ((∀ w, ¬ v.Leads names w) → ¬ v.IsBlocked names →
      v.setting (names.map .text) default = .ok default) ∧
    ∀ f, v.setting (names.map .text) default = .error f ↔ v.IsBlocked names ∧ f = .unfit := by
  refine ⟨fun w hw => setting_of_leads hw default, fun hnowhere hfree => ?_,
    fun f => ⟨fun hfault => ?_, ?_⟩⟩
  · rcases leads_or_misses_or_isBlocked v names with ⟨w, hw⟩ | hmisses | hblocked
    · exact absurd hw (hnowhere w)
    · exact setting_of_misses hdefault hmisses
    · exact absurd hblocked hfree
  · -- Only a blocked way fails, and it fails in one way.
    rcases leads_or_misses_or_isBlocked v names with ⟨w, hw⟩ | hmisses | hblocked
    · exact nomatch (setting_of_leads hw default).symm.trans hfault
    · exact nomatch (setting_of_misses hdefault hmisses).symm.trans hfault
    · have hunfit := setting_of_isBlocked hblocked default
      exact ⟨hblocked, Except.error.inj (hfault.symm.trans hunfit)⟩
  · rintro ⟨hblocked, rfl⟩
    exact setting_of_isBlocked hblocked default

-- The standard settings have the limit, and a section that they lack is made up for.
theorem setting_along_names_standard :
    Settings.standard.setting [.text "limits".toList, .text "dice".toList] (.int 0)
        = .ok (.int 1000) ∧
      Settings.standard.setting [.text "colours".toList, .text "dice".toList] (.int 0)
        = .ok (.int 0) := by
  have hleads : Settings.standard.Leads ["limits".toList, "dice".toList] (.int 1000) :=
    .into rfl (.into rfl (.here _))
  have hnot : ∀ w, ¬ Settings.standard.Leads ["colours".toList, "dice".toList] w := by
    rintro w (_ | ⟨hname, -⟩)
    exact nomatch hname
  have hfree : ¬ Settings.standard.IsBlocked ["colours".toList, "dice".toList] := by
    intro hblocked
    exact nomatch (setting_of_isBlocked hblocked (.int 0)).symm.trans rfl
  exact ⟨(setting_along_names _ _ (.int 0) nofun).1 _ hleads,
    (setting_along_names _ _ (.int 0) nofun).2.1 hnot hfree⟩

/-- A document may have a section with nothing in it, and a name is looked for there in vain. -/
theorem exists_read_unfit :
    ∃ v, Document.read "\x7b\"limits\": null\x7d".toList = .ok v ∧
      v.setting (["limits".toList, "dice".toList].map .text) (.int 0) = .error .unfit := by
  -- Values are not compared by computation, so what is looked up is left out.
  have hlook : (Document.read "\x7b\"limits\": null\x7d".toList).toOption.any (fun v =>
      decide ((v.setting (["limits".toList, "dice".toList].map .text) (.int 0)).map (fun _ => ())
        = .error .unfit)) = true := by
    decide +kernel
  rcases hread : Document.read "\x7b\"limits\": null\x7d".toList with f | v
  · rw [hread] at hlook
    exact absurd hlook Bool.false_ne_true
  · rw [hread] at hlook
    have hfault := of_decide_eq_true hlook
    refine ⟨v, rfl, ?_⟩
    rcases hsetting : v.setting (["limits".toList, "dice".toList].map .text) (.int 0) with f | w
    · rw [hsetting] at hfault
      rw [Except.error.inj hfault]
    · rw [hsetting] at hfault
      cases hfault

/-- A default need not come to the rescue. -/
theorem exists_setting_not_default :
    ¬ ∀ (t : Text) (v : Value) (names : List Text) (default : Value),
      Document.read t = .ok v → default ≠ .null →
      (∀ w, v.Leads names w → v.setting (names.map .text) default = .ok w) ∧
      ((∀ w, ¬ v.Leads names w) → v.setting (names.map .text) default = .ok default) := by
  intro hall
  rcases exists_read_unfit with ⟨v, hread, hfault⟩
  have hnot : ∀ w, ¬ v.Leads ["limits".toList, "dice".toList] w :=
    fun w hw => nomatch (setting_of_leads hw (.int 0)).symm.trans hfault
  have hdefault := (hall _ v _ (.int 0) hread nofun).2 hnot
  exact nomatch hfault.symm.trans hdefault

end Value

end DiceRoller
