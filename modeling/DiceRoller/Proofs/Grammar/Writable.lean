import DiceRoller.Proofs.Grammar.Completeness
import DiceRoller.Proofs.Text.Numerals

/-!
# Sets that can be written

A set that was put together by hand can hold things that no notation says: a die
with other values than the plain ones, a text in the place of a sign, a constant
below zero. `RollSet.IsWritable` is what is left when these are ruled out. The
numbers of a writable set are short enough to be read, its rolls keep to the common
limits, and none of its dice has been thrown.

What is displayed of a writable set is the text of a form, and the form means the
set. Numbers are written without leading zeros, so the run of digits of a number is
`DigitRun.ofNat`; signs are written without blanks, and separators with one blank
behind them.

## Main definitions

* `Roll.unthrown`, `Expression.unthrown`: A roll and an expression before a throw.
* `RollSet.IsWritable`: A set that a notation can describe.
* `DigitRun.ofNat`, `DigitRun.ofCommon`: A number written without leading zeros.

## Theorems

* `DigitRun.value_ofNat`: A number written without leading zeros means itself.
* `DigitRun.value_ofCommon`: So does a number up to the common limits.
* `DigitRun.value_lt`: A run of digits is short enough to be read, so its value is below
  the ceiling.
* `Selector.exists_form`: A writable selector has a form, which is written as it is
  displayed.
* `Selector.exists_forms`: Writable selectors have forms, which are written one after the
  other.
* `DieSpec.exists_form`: A writable kind of die has a form within the common limits.
* `Roll.render_of_isWritable`: A writable roll is displayed as it is written: it has a
  die, which has not been thrown.
* `Roll.exists_form`: A writable roll has a form, which means the roll before any throw.
* `Term.exists_form`: A writable term has a form, which means the term before any throw.
* `Sign.exists_bare`: A sign is displayed as a form without blanks.
* `Expression.exists_more`: Terms behind signs are displayed as forms without blanks
  between them.
* `Expression.exists_form`: A writable expression has a form, which means the expression
  before any throw.
* `RollSet.exists_more`: Behind a front, displayed expressions are forms with a separator
  before each.
* `RollSet.exists_form_of_isWritable`: What is displayed of a writable set has a form.
* `SelectorForm.isWritable_value`: What the form of a selector means is writable.
* `FacesForm.isWritable_value`: What the form of faces within the common limits means is
  writable.
* `RollForm.quantity_value`: The roll of a form has as many dice as its digits say.
* `RollForm.isWritable_value`: What the form of a roll within the common limits means is
  writable.
* `RollForm.unthrown_value`: The roll of a form has not been thrown.
* `TermForm.isWritable_value`: What the form of a term within the common limits means is
  writable.
* `TermForm.unthrown_value`: Nothing in the term of a form has been thrown.
* `SignForm.value_isSign`: The sign of a form is a plus or a minus.
* `ExpressionForm.isSign_value`: So are the signs in the expression of a form, also the
  one that is not written.
* `ExpressionForm.exists_form_of_mem_terms`: The terms of an expression are those of its
  form.
* `ExpressionForm.isWritable_value`: What the form of an expression within the common
  limits means is writable.
* `ExpressionForm.unthrown_value`: Nothing in the expression of a form has been thrown.
* `NotationForm.isWritable`: What a form means is writable.
* `NotationForm.unthrown_expressions`: Nothing in what the form of a notation means has
  been thrown.
-/

namespace DiceRoller

namespace DigitRun

/-- A number written without leading zeros. -/
def ofNat (n : Nat) (h : n < Numeral.ceiling) : DigitRun :=
  ⟨Text.ofNat n, Nat.toDigits_ne_nil, fun _ hc => Numeral.isDigit_of_mem_ofNat hc,
    Numeral.length_ofNat_le h⟩

theorem value_ofNat (n : Nat) (h : n < Numeral.ceiling) : (ofNat n h).value = n :=
  Numeral.ofDigits_ofNat n

/-- A number up to the common limits. -/
def ofCommon (n : Nat) (h : n ≤ 10000) : DigitRun :=
  .ofNat n (Numeral.isShort_of_le (n := (n : Int)) h)

theorem value_ofCommon (n : Nat) (h : n ≤ 10000) : (ofCommon n h).value = n := value_ofNat n _

/-- A run of digits is short enough to be read, so its value is below the ceiling. -/
theorem value_lt (r : DigitRun) : r.value < Numeral.ceiling :=
  Nat.lt_of_lt_of_le (Numeral.ofDigits_lt r.isDigit) (Nat.pow_le_pow_right (by decide) r.length_le)

end DigitRun

/-- A selector that can be written: it selects something, and its number is short
    enough. -/
structure Selector.IsWritable (s : Selector) : Prop where
  one_le : 1 ≤ s.num
  lt_ceiling : s.num < Numeral.ceiling

/-- A kind of die that can be written under the common limits: the values from one to
    the number of faces, or a Fate die. -/
def DieSpec.IsWritable (s : DieSpec) : Prop :=
  (∃ n, 1 ≤ n ∧ n ≤ 10000 ∧ s = .plain n) ∨ s = .fateDie

/-- A roll that can be written under the common limits and whose dice have not been
    thrown. -/
structure Roll.IsWritable (r : Roll) : Prop where
  one_le : 1 ≤ r.quantity
  le_common : r.quantity ≤ 10000
  spec : r.spec.IsWritable
  selectors : ∀ s ∈ r.selectors, s.IsWritable
  unthrown : ∀ d ∈ r.shown, d.value = none

/-- A term that can be written under the common limits. -/
def Term.IsWritable : Term → Prop
  | .roll r => r.IsWritable
  | .constant n => 0 ≤ n ∧ n < Numeral.ceiling

/-- An expression that can be written: there is a term, and every sign is one. -/
structure Expression.IsWritable (e : Expression) : Prop where
  ne_nil : e.terms ≠ []
  isSign : ∀ p ∈ e.terms, p.1 = .plus ∨ p.1 = .minus
  terms : ∀ p ∈ e.terms, p.2.IsWritable

/-- A set that a notation can describe under the common limits. -/
structure RollSet.IsWritable (s : RollSet) : Prop where
  ne_nil : s.expressions ≠ []
  expressions : ∀ e ∈ s.expressions, e.IsWritable

/-- The roll before its dice were ever thrown. -/
def Roll.unthrown (r : Roll) : Roll := .fresh r.quantity r.spec r.selectors

/-- The term before its dice were ever thrown. -/
def Term.unthrown : Term → Term
  | .roll r => .roll r.unthrown
  | .constant n => .constant n

/-- The expression before its dice were ever thrown. -/
def Expression.unthrown (e : Expression) : Expression :=
  ⟨e.terms.map fun p => (p.1, p.2.unthrown)⟩

/-- A writable selector has a form, which is written as it is displayed. -/
theorem Selector.exists_form {s : Selector} (h : s.IsWritable) :
    ∃ f : SelectorForm, f.text = s.written ∧ f.value = s := by
  have hv := DigitRun.value_ofNat s.num h.lt_ceiling
  refine ⟨⟨s.keep, s.high, .ofNat s.num h.lt_ceiling, by rw [hv]; exact h.one_le⟩, rfl, ?_⟩
  show Selector.mk s.keep s.high (DigitRun.ofNat s.num h.lt_ceiling).value = s
  rw [hv]

/-- Writable selectors have forms, which are written one after the other. -/
theorem Selector.exists_forms {ss : List Selector} (h : ∀ s ∈ ss, s.IsWritable) :
    ∃ fs : List SelectorForm,
      fs.flatMap SelectorForm.text = Roll.selectorText ss ∧ fs.map SelectorForm.value = ss := by
  induction ss with
  | nil => exact ⟨[], rfl, rfl⟩
  | cons s ss ih =>
      rcases exists_form (h s List.mem_cons_self) with ⟨f, hf, hv⟩
      rcases ih fun t ht => h t (List.mem_cons_of_mem s ht) with ⟨fs, hfs, hvs⟩
      refine ⟨f :: fs, ?_, ?_⟩
      · rw [List.flatMap_cons, hf, hfs, Roll.selectorText, Roll.selectorText, List.flatMap_cons]
      · rw [List.map_cons, hv, hvs]

/-- A writable kind of die has a form within the common limits. -/
theorem DieSpec.exists_form {s : DieSpec} (h : s.IsWritable) :
    ∃ f : FacesForm 10000, f.text = s.faceText ∧ f.value = s := by
  rcases h with ⟨n, hone, hle, rfl⟩ | rfl
  · have hv := DigitRun.value_ofCommon n hle
    refine ⟨.numbered (.ofCommon n hle) ?_ ?_ ?_, rfl, ?_⟩
    · rw [hv]
      exact hone
    · rw [hv]
      exact hle
    · rw [hv]
      exact Nat.lt_of_le_of_lt hle (by decide)
    · rw [FacesForm.value, hv]
  · exact ⟨.fate, rfl, rfl⟩

namespace Roll

/-- A writable roll is displayed as it is written: it has a die, which has not been thrown. -/
theorem render_of_isWritable {r : Roll} (h : r.IsWritable) : r.render = r.written := by
  have hone := h.one_le
  rcases hs : r.shown with _ | ⟨d, ds⟩
  · rw [quantity, hs, List.length_nil] at hone
    omega
  · have hd := h.unthrown d (by rw [hs]; exact List.mem_cons_self)
    have hrolled : r.isRolled = false := by
      rw [isRolled, hs, List.all_cons, Showing.isRolled, hd]
      rfl
    rw [render, hrolled, if_neg Bool.false_ne_true]

/-- A writable roll has a form, which means the roll before any throw. -/
theorem exists_form {r : Roll} (h : r.IsWritable) :
    ∃ f : RollForm 10000 10000, f.text = r.render ∧ f.value = r.unthrown := by
  have hv := DigitRun.value_ofCommon r.quantity h.le_common
  rcases DieSpec.exists_form h.spec with ⟨faces, hfaces, hspec⟩
  rcases Selector.exists_forms h.selectors with ⟨ss, hss, hsv⟩
  refine ⟨⟨.ofCommon r.quantity h.le_common, ?_, ?_, faces, ss⟩, ?_, ?_⟩
  · rw [hv]
    exact h.one_le
  · rw [hv]
    exact h.le_common
  · rw [render_of_isWritable h, written, spell, head, RollForm.text, hfaces, hss,
      List.append_assoc, List.cons_append]
    rfl
  · show fresh (DigitRun.ofCommon r.quantity h.le_common).value faces.value
        (ss.map SelectorForm.value)
      = r.unthrown
    rw [hv, hspec, hsv, unthrown]

end Roll

/-- A writable term has a form, which means the term before any throw. -/
theorem Term.exists_form {t : Term} (h : t.IsWritable) :
    ∃ f : TermForm 10000 10000, f.text = t.render ∧ f.value = t.unthrown := by
  cases t with
  | roll r =>
      rcases Roll.exists_form h with ⟨f, hf, hv⟩
      exact ⟨.roll f, hf, by rw [TermForm.value, hv, unthrown]⟩
  | constant n =>
      rcases h with ⟨hpos, hlt⟩
      rcases Int.eq_ofNat_of_zero_le hpos with ⟨k, rfl⟩
      have hlt' : k < Numeral.ceiling := by omega
      refine ⟨.constant (.ofNat k hlt'), rfl, ?_⟩
      rw [TermForm.value, DigitRun.value_ofNat, unthrown]

/-- A run without blanks. -/
def BlankRun.empty : BlankRun := ⟨[], fun _ h => absurd h List.not_mem_nil⟩

/-- A sign without blanks around it. -/
def SignForm.bare (negative : Bool) : SignForm := ⟨.empty, negative, .empty⟩

/-- A sign is displayed as a form without blanks. -/
theorem Sign.exists_bare {s : Sign} (h : s = .plus ∨ s = .minus) :
    ∃ negative, (SignForm.bare negative).text = s.written ∧
      (SignForm.bare negative).value = s := by
  rcases h with rfl | rfl
  · exact ⟨false, rfl, rfl⟩
  · exact ⟨true, rfl, rfl⟩

namespace Expression

/-- Terms behind signs are displayed as forms without blanks between them. -/
theorem exists_more {ts : List (Sign × Term)} (hs : ∀ p ∈ ts, p.1 = .plus ∨ p.1 = .minus)
    (ht : ∀ p ∈ ts, p.2.IsWritable) :
    ∃ fs : List (SignForm × TermForm 10000 10000),
      ExpressionForm.moreText fs = Signed.renderRest (ts.map fun p => (p.1, p.2.render)) ∧
        ExpressionForm.moreValue fs = ts.map fun p => (p.1, p.2.unthrown) := by
  induction ts with
  | nil => exact ⟨[], rfl, rfl⟩
  | cons p ts ih =>
      rcases Sign.exists_bare (hs p List.mem_cons_self) with ⟨negative, hsign, hsv⟩
      rcases Term.exists_form (ht p List.mem_cons_self) with ⟨f, hf, hv⟩
      rcases ih (fun q hq => hs q (List.mem_cons_of_mem p hq))
        (fun q hq => ht q (List.mem_cons_of_mem p hq)) with ⟨fs, hfs, hvs⟩
      refine ⟨(.bare negative, f) :: fs, ?_, ?_⟩
      · simp only [ExpressionForm.moreText, Signed.renderRest] at hfs ⊢
        rw [List.flatMap_cons, hsign, hf, hfs, List.map_cons, List.flatMap_cons]
      · simp only [ExpressionForm.moreValue] at hvs ⊢
        rw [List.map_cons, hsv, hv, hvs, List.map_cons]

/-- A writable expression has a form, which means the expression before any throw. -/
theorem exists_form {e : Expression} (h : e.IsWritable) :
    ∃ f : ExpressionForm 10000 10000, f.text = e.render ∧ f.value = e.unthrown := by
  rcases e with ⟨_ | ⟨⟨s, t⟩, ts⟩⟩
  · exact absurd rfl h.ne_nil
  rcases Term.exists_form (h.terms (s, t) List.mem_cons_self) with ⟨f, hf, hv⟩
  rcases exists_more (fun q hq => h.isSign q (List.mem_cons_of_mem _ hq))
    (fun q hq => h.terms q (List.mem_cons_of_mem _ hq)) with ⟨fs, hfs, hvs⟩
  -- A leading plus is not displayed, a leading minus is.
  rcases h.isSign (s, t) List.mem_cons_self with rfl | rfl
  · refine ⟨⟨none, f, fs⟩, ?_, ?_⟩
    · rw [ExpressionForm.text, hf, hfs]
      rfl
    · rw [ExpressionForm.value, hv, hvs]
      rfl
  · refine ⟨⟨some (.bare true), f, fs⟩, ?_, ?_⟩
    · rw [ExpressionForm.text, hf, hfs]
      rfl
    · rw [ExpressionForm.value, hv, hvs]
      rfl

end Expression

namespace RollSet

/-- The separator between displayed expressions. -/
def displayed : SeparatorForm := ⟨.empty, ⟨[' '], fun c hc => by
  rw [List.mem_singleton.mp hc]
  rfl⟩⟩

/-- Behind a front, displayed expressions are forms with a separator before each. -/
theorem exists_more {es : List Expression} (h : ∀ e ∈ es, e.IsWritable) (front : Text) :
    ∃ fs : List (SeparatorForm × ExpressionForm 10000 10000),
      front ++ NotationForm.moreText fs (.blanks .empty)
          = Text.join [';', ' '] (front :: es.map Expression.render) ∧
        fs.map (fun p => p.2.value) = es.map Expression.unthrown := by
  induction es generalizing front with
  | nil =>
      refine ⟨[], ?_, rfl⟩
      rw [NotationForm.moreText, List.flatMap_nil, EndForm.text, BlankRun.empty, List.append_nil,
        List.append_nil]
      rfl
  | cons e es ih =>
      rcases Expression.exists_form (h e List.mem_cons_self) with ⟨f, hf, hv⟩
      rcases ih (fun q hq => h q (List.mem_cons_of_mem e hq)) e.render with ⟨fs, hfs, hvs⟩
      -- The displayed expression is the front of those behind it.
      refine ⟨(displayed, f) :: fs, ?_, ?_⟩
      · rw [List.map_cons, Text.join, ← hfs]
        simp only [NotationForm.moreText, List.flatMap_cons, List.append_assoc, hf]
        rfl
      · rw [List.map_cons, List.map_cons, hv, hvs]

/-- What is displayed of a writable set is the text of a form, which means the expressions of
    the set before any throw. -/
theorem exists_form_of_isWritable {s : RollSet} (h : s.IsWritable) :
    ∃ f : NotationForm 10000 10000,
      f.text = s.render ∧ f.expressions = s.expressions.map Expression.unthrown := by
  rcases s with ⟨_ | ⟨e, es⟩, spec⟩
  · exact absurd rfl h.ne_nil
  -- What is displayed has no margin and no end of its own.
  rcases Expression.exists_form (h.expressions e List.mem_cons_self) with ⟨f, hf, hv⟩
  rcases exists_more (fun q hq => h.expressions q (List.mem_cons_of_mem e hq)) e.render with
    ⟨fs, hfs, hvs⟩
  refine ⟨⟨.empty, f, fs, .blanks .empty⟩, ?_, ?_⟩
  · rw [NotationForm.text, hf, hfs]
    rfl
  · simp only [NotationForm.expressions, NotationForm.forms, List.map_cons, List.map_map,
      Function.comp_def, hv, hvs]

end RollSet

theorem SelectorForm.isWritable_value (f : SelectorForm) : f.value.IsWritable :=
  ⟨f.one_le, f.count.value_lt⟩

/-- What the form of faces within the common limits means is writable. -/
theorem FacesForm.isWritable_value (f : FacesForm 10000) : f.value.IsWritable := by
  cases f with
  | numbered count hone hle _ => exact Or.inl ⟨count.value, hone, hle, rfl⟩
  | fate => exact Or.inr rfl

namespace RollForm

theorem quantity_value {maxDice maxFaces : Nat} (f : RollForm maxDice maxFaces) :
    f.value.quantity = f.quantity.value := List.length_replicate

/-- What the form of a roll within the common limits means is writable. -/
theorem isWritable_value (f : RollForm 10000 10000) : f.value.IsWritable := by
  refine ⟨?_, ?_, f.faces.isWritable_value, ?_, ?_⟩
  · rw [f.quantity_value]
    exact f.one_le
  · rw [f.quantity_value]
    exact f.le_max
  · intro s hs
    rcases List.mem_map.mp hs with ⟨g, -, rfl⟩
    exact g.isWritable_value
  · intro d hd
    rw [(List.mem_replicate.mp hd).2]

theorem unthrown_value {maxDice maxFaces : Nat} (f : RollForm maxDice maxFaces) :
    f.value.unthrown = f.value := by
  rw [Roll.unthrown, f.quantity_value]
  rfl

end RollForm

namespace TermForm

/-- What the form of a term within the common limits means is writable. -/
theorem isWritable_value (f : TermForm 10000 10000) : f.value.IsWritable := by
  cases f with
  | roll r => exact r.isWritable_value
  | constant n =>
      have hlt := n.value_lt
      exact ⟨Int.natCast_nonneg _, by omega⟩

/-- Nothing in the term of a form has been thrown. -/
theorem unthrown_value {maxDice maxFaces : Nat} (f : TermForm maxDice maxFaces) :
    f.value.unthrown = f.value := by
  cases f with
  | roll r => rw [value, Term.unthrown, r.unthrown_value]
  | constant n => rfl

end TermForm

/-- The sign of a form is a plus or a minus. -/
theorem SignForm.value_isSign (f : SignForm) : f.value = .plus ∨ f.value = .minus := by
  rw [value]
  cases f.negative
  · exact Or.inl rfl
  · exact Or.inr rfl

namespace ExpressionForm

theorem isSign_value {maxDice maxFaces : Nat} (f : ExpressionForm maxDice maxFaces) :
    ∀ p ∈ f.value.terms, p.1 = .plus ∨ p.1 = .minus := by
  intro p hp
  rcases List.mem_cons.mp hp with rfl | hp
  · change f.leading.elim Sign.plus SignForm.value = .plus ∨
      f.leading.elim Sign.plus SignForm.value = .minus
    rcases f.leading with _ | s
    · exact Or.inl rfl
    · exact s.value_isSign
  · rcases List.mem_map.mp hp with ⟨q, -, rfl⟩
    exact q.1.value_isSign

/-- The terms of an expression are those of its form. -/
theorem exists_form_of_mem_terms {maxDice maxFaces : Nat} {f : ExpressionForm maxDice maxFaces}
    {p : Sign × Term} (h : p ∈ f.value.terms) :
    ∃ g : TermForm maxDice maxFaces, p.2 = g.value := by
  rcases List.mem_cons.mp h with rfl | h
  · exact ⟨f.first, rfl⟩
  · rcases List.mem_map.mp h with ⟨q, -, rfl⟩
    exact ⟨q.2, rfl⟩

/-- What the form of an expression within the common limits means is writable. -/
theorem isWritable_value (f : ExpressionForm 10000 10000) : f.value.IsWritable := by
  refine ⟨List.cons_ne_nil _ _, f.isSign_value, fun p hp => ?_⟩
  rcases exists_form_of_mem_terms hp with ⟨g, hg⟩
  rw [hg]
  exact g.isWritable_value

theorem unthrown_value {maxDice maxFaces : Nat} (f : ExpressionForm maxDice maxFaces) :
    f.value.unthrown = f.value := by
  simp only [value, Expression.unthrown, moreValue, List.map_cons, List.map_map,
    Function.comp_def, TermForm.unthrown_value]

end ExpressionForm

namespace NotationForm

/-- What the form of a notation within the common limits means is writable. -/
theorem isWritable (f : NotationForm 10000 10000) (spec : Option Text) :
    RollSet.IsWritable ⟨f.expressions, spec⟩ := by
  refine ⟨List.cons_ne_nil _ _, fun e he => ?_⟩
  rcases List.mem_map.mp he with ⟨g, -, rfl⟩
  exact g.isWritable_value

/-- Nothing in what the form of a notation means has been thrown. -/
theorem unthrown_expressions {maxDice maxFaces : Nat} (f : NotationForm maxDice maxFaces) :
    f.expressions.map Expression.unthrown = f.expressions := by
  simp only [expressions, List.map_map, Function.comp_def, ExpressionForm.unthrown_value]

end NotationForm

end DiceRoller
