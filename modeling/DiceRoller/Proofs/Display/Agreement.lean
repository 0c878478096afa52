import DiceRoller.Proofs.Dice.Evaluation
import DiceRoller.Proofs.Display.Decoder

/-!
# What is shown is what is counted

A display and a total are made apart. A display shows every die and looks at the
mark that strikes a die out; a total adds up some dice and looks at the mark by
which a die counts. Behind a throw each die has exactly one of the two marks, so the
number that a reader of the display arrives at is the total.

Reading back goes by what follows. The text of a part is read as the whole part if
the line behind it does not go on with it, and behind a term of an expression there
is a sign or nothing. Semicolons are never shown within an expression, so they part
the display where the expressions were joined.

## Main definitions

* `Decoder.goesOn`: The characters with which a term may go on.
* `Decoder.isShown`: The characters of a display.

## Theorems

* `Decoder.stops_isDigit`: Where a term does not go on, no digit follows.
* `Decoder.cell?_of_stops`: Where a term does not go on, no cell begins.
* `Decoder.goesOn_of_factor?`: A sign does not go on with the term in front of it.
* `Decoder.isDigits_ofNat`: A numeral is a run of digits.
* `Decoder.natural?_ofNat`: A numeral is read as its number, if no digit follows it.
* `Decoder.integer?_ofInt`, `Decoder.cell?_render`, `Decoder.cells_render`,
  `Decoder.term?_render`: What is shown of a number, a die, dice and a term.
* `Decoder.render_roll`: A settled roll is shown by its dice.
* `Decoder.term?_of_stops`: Where a term does not go on, none begins.
* `Decoder.signedTerms?_cons`: A sign and the term behind it count before the rest.
* `Decoder.exists_factor?`: A sign is shown as one character, which says by what it
  multiplies.
* `Decoder.shownMore_cons`: Terms behind their signs are shown one behind the other.
* `Decoder.stops_shownMore`: Behind a term there is a sign or nothing.
* `Decoder.signedTerms?_shownMore`: What is shown of terms behind their signs comes to
  their signed sum.
* `Decoder.expression?_render`: What is shown of an expression comes to its worth.
* `Decoder.isShown_ofInt`: A number is shown by digits and perhaps a minus.
* `Decoder.isShown_die`: A die is shown by its number, brackets and strokes.
* `Decoder.isShown_term`: A term is shown by nothing else than its dice or its number.
* `Decoder.isShown_expression`: The display of an expression behind a throw has no other
  characters.
* `Decoder.not_mem_render`: No separator is shown within an expression.
* `Decoder.pieces_append`: A text without a separator at the front belongs to the first
  piece.
* `Decoder.pieces_join`: Joined expressions come apart again.
* `Decoder.decode_join`: The display of settled expressions comes to what they are worth.
* `RollSet.decode_render`: The display of a thrown set comes to its totals.
* `RollSet.decode_render_struck_fate_die`: Two Fate dice behind a minus, of which the
  first is struck out.
-/

namespace DiceRoller

namespace Decoder

-- The characters with which a term goes on, and with one of which it begins.
def goesOn (c : Char) : Bool := Numeral.isDigit c || c == '[' || c == '~'

/-- Where a term does not go on, no digit follows. -/
theorem stops_isDigit {rest : Text} (h : rest.Stops goesOn) : rest.Stops Numeral.isDigit := by
  intro c hc
  have hstop := h c hc
  simp only [goesOn, Bool.or_eq_false_iff] at hstop
  exact hstop.1.1

/-- Where a term does not go on, no cell begins. -/
theorem cell?_of_stops {rest : Text} (h : rest.Stops goesOn) : cell? rest = none := by
  unfold cell?
  split
  · exact absurd (Text.stops_cons_iff.mp h) (by decide)
  · exact absurd (Text.stops_cons_iff.mp h) (by decide)
  · rfl

/-- A sign does not go on with the term in front of it. -/
theorem goesOn_of_factor? {c : Char} {k : Int} (h : factor? c = some k) : goesOn c = false := by
  unfold factor? at h
  split at h
  · rename_i hc
    rw [hc]
    decide
  · split at h
    · rename_i hc
      rw [hc]
      decide
    · exact absurd h (by simp only [reduceCtorEq, not_false_eq_true])

theorem isDigits_ofNat (n : Nat) : Lexeme.IsDigits (Text.ofNat n) :=
  ⟨Nat.toDigits_ne_nil, fun _ hc => Numeral.isDigit_of_mem_ofNat hc⟩

/-- A numeral is read as its number, if no digit follows it. -/
theorem natural?_ofNat (n : Nat) {rest : Text} (h : rest.Stops Numeral.isDigit) :
    natural? (Text.ofNat n ++ rest) = some (n, rest) := by
  have hd := isDigits_ofNat n
  -- The digits are those of the numeral, as none stands behind it.
  rw [natural?, Lexeme.digits_append hd h, Lexeme.afterDigits_append hd h, if_neg hd.1,
    Numeral.ofDigits_ofNat]

/-- A number is read back with its sign, if no digit follows it. -/
theorem integer?_ofInt (v : Int) {rest : Text} (h : rest.Stops Numeral.isDigit) :
    integer? (Text.ofInt v ++ rest) = some (v, rest) := by
  cases v with
  | ofNat n =>
      -- A number that is not negative begins with a digit, so no minus is taken off.
      have hnat := natural?_ofNat n h
      rcases Lexeme.exists_cons_of_isDigits (isDigits_ofNat n) with ⟨c, ds, hds, hc⟩
      have hne : c ≠ '-' := by
        rintro rfl
        exact absurd hc (by decide)
      rw [hds, List.cons_append] at hnat
      rw [Text.ofInt, hds, List.cons_append]
      unfold integer?
      split
      · rename_i heq
        exact absurd (List.cons.inj heq).1 hne
      · rw [hnat]
        rfl
  | negSucc n =>
      rw [Text.ofInt, List.cons_append, integer?, natural?_ofNat (n + 1) h]
      rfl

/-- What is shown of a settled die counts as much as the die. -/
theorem cell?_render (s : DieSpec) {d : Showing} (h : d.IsSettled) (rest : Text) :
    cell? (d.render s ++ rest) = some (if d.isKept then d.total else 0, rest) := by
  rcases Option.isSome_iff_exists.mp h.rolled with ⟨v, hv⟩
  have htotal : d.total = v := by
    rw [Showing.total, hv]
    rfl
  rw [Showing.render, hv]
  simp only
  rw [Showing.dress, h.isDropped_eq, htotal]
  cases d.isKept
  · -- A struck die: the strokes stand on both sides of the brackets.
    have hint : integer? (Text.ofInt v ++ ']' :: '~' :: '~' :: rest)
        = some (v, ']' :: '~' :: '~' :: rest) :=
      integer?_ofInt v (Text.stops_cons_iff.mpr (by decide))
    simp only [Bool.not_false, if_true, Bool.false_eq_true, if_false, List.append_assoc,
      List.cons_append, List.nil_append, cell?, hint]
  · have hint : integer? (Text.ofInt v ++ ']' :: rest) = some (v, ']' :: rest) :=
      integer?_ofInt v (Text.stops_cons_iff.mpr (by decide))
    simp only [Bool.not_true, if_true, Bool.false_eq_true, if_false, List.append_assoc,
      List.cons_append, List.nil_append, cell?, hint]

/-- What is shown of settled dice counts as much as those of them that count. -/
theorem cells_render (s : DieSpec) {dice : List Showing} (h : ∀ d ∈ dice, d.IsSettled)
    {rest : Text} (hr : cell? rest = none) :
    cells (dice.flatMap (Showing.render s) ++ rest)
      = (((dice.filter Showing.isKept).map Showing.total).sum, rest) := by
  induction dice with
  | nil => exact cells_of_none hr
  | cons d dice ih =>
      have hcell := cell?_render s (h d List.mem_cons_self)
        (dice.flatMap (Showing.render s) ++ rest)
      rw [List.flatMap_cons, List.append_assoc, cells_of_some hcell,
        ih fun d' hd' => h d' (List.mem_cons_of_mem d hd')]
      -- A die that was struck out adds nothing.
      cases hk : d.isKept
      · rw [List.filter_cons_of_neg (by rw [hk]; exact Bool.false_ne_true),
          if_neg Bool.false_ne_true, Int.zero_add]
      · rw [List.filter_cons_of_pos hk, if_pos rfl, List.map_cons, List.sum_cons]

theorem render_roll {r : Roll} (h : (Term.roll r).IsSettled) :
    (Term.roll r).render = r.shown.flatMap (Showing.render r.spec) := by
  have hrolled : r.isRolled = true := List.all_eq_true.mpr fun d hd => (h.2 d hd).rolled
  rw [Term.render, Roll.render, if_pos hrolled]

/-- What is shown of a settled term comes to its worth. -/
theorem term?_render {t : Term} (h : t.IsSettled) {rest : Text} (hr : rest.Stops goesOn) :
    term? (t.render ++ rest) = some (t.worth, rest) := by
  have hnone := cell?_of_stops hr
  cases t with
  | roll r =>
      have hrender := render_roll h
      rcases h with ⟨hne, hsettled⟩
      have hcells := cells_render r.spec hsettled hnone
      -- A roll has a first die, and its cell tells the roll from a constant.
      have hcell : ∃ p, cell? (r.shown.flatMap (Showing.render r.spec) ++ rest) = some p := by
        rcases hs : r.shown with _ | ⟨d, dice⟩
        · exact absurd hs hne
        · rw [List.flatMap_cons, List.append_assoc,
            cell?_render r.spec (hsettled d (by rw [hs]; exact List.mem_cons_self))]
          exact ⟨_, rfl⟩
      rcases hcell with ⟨p, hp⟩
      have htotal : r.worth = ((r.shown.filter Showing.isKept).map Showing.total).sum :=
        r.total_eq_worth.symm
      rw [hrender, term?, hp, Term.worth, htotal]
      exact congrArg some hcells
  | constant n =>
      -- A constant is not negative, and its digits are no cell.
      rcases Int.eq_ofNat_of_zero_le h with ⟨k, rfl⟩
      have hnat := natural?_ofNat k (stops_isDigit hr)
      have hcell : cell? (Text.ofNat k ++ rest) = none := by
        rcases Lexeme.exists_cons_of_isDigits (isDigits_ofNat k) with ⟨c, ds, hds, hc⟩
        rw [hds, List.cons_append]
        unfold cell?
        split
        · rename_i heq
          rw [(List.cons.inj heq).1] at hc
          exact absurd hc (by decide)
        · rename_i heq
          rw [(List.cons.inj heq).1] at hc
          exact absurd hc (by decide)
        · rfl
      have hrender : (Term.constant (k : Int)).render = Text.ofNat k := rfl
      rw [hrender, term?, hcell]
      simp only [hnat, Option.map_some, Term.worth]

/-- Where a term does not go on, none begins. -/
theorem term?_of_stops {line : Text} (h : line.Stops goesOn) : term? line = none := by
  have hdigits : Lexeme.digits line = [] := by
    rcases line with _ | ⟨c, line⟩
    · rfl
    · have hc := Text.stops_cons_iff.mp (stops_isDigit h)
      rw [Lexeme.digits, List.takeWhile_cons_of_neg (by rw [hc]; exact Bool.false_ne_true)]
  rw [term?, cell?_of_stops h]
  simp only [natural?, hdigits, if_true, Option.map_none]

/-- A sign and the term behind it count before the rest. -/
theorem signedTerms?_cons {c : Char} {k v : Int} {line rest : Text} (hk : factor? c = some k)
    (ht : term? line = some (v, rest)) :
    signedTerms? (c :: line) = (signedTerms? rest).map fun sum => k * v + sum := by
  rw [signedTerms?]
  split
  · rename_i hk' ht'
    rw [hk] at hk'
    rw [ht] at ht'
    simp only [Option.some.injEq, Prod.mk.injEq] at hk' ht'
    rw [hk', ht'.1, ht'.2]
  · rename_i hno
    exact absurd ht (hno k v rest hk)

/-- A sign is shown as one character, which says by what it multiplies. -/
theorem exists_factor? {s : Sign} (h : s = .plus ∨ s = .minus) :
    ∃ c, s.written = [c] ∧ factor? c = some s.factor := by
  rcases h with rfl | rfl
  · exact ⟨'+', rfl, rfl⟩
  · exact ⟨'-', rfl, rfl⟩

/-- Terms behind their signs, as they are shown. -/
def shownMore (parts : List (Sign × Term)) : Text :=
  Signed.renderRest (parts.map fun p => (p.1, p.2.render))

theorem shownMore_cons (s : Sign) (t : Term) (parts : List (Sign × Term)) :
    shownMore ((s, t) :: parts) = s.written ++ (t.render ++ shownMore parts) := by
  rw [shownMore, Signed.renderRest, List.map_cons, List.flatMap_cons, List.append_assoc]
  rfl

/-- Behind a term there is a sign or nothing. -/
theorem stops_shownMore {parts : List (Sign × Term)}
    (hs : ∀ p ∈ parts, p.1 = .plus ∨ p.1 = .minus) : (shownMore parts).Stops goesOn := by
  rcases parts with _ | ⟨⟨s, t⟩, parts⟩
  · exact Text.stops_nil goesOn
  · rcases exists_factor? (hs (s, t) List.mem_cons_self) with ⟨c, hc, hk⟩
    rw [shownMore_cons, hc]
    exact Text.stops_cons_iff.mpr (goesOn_of_factor? hk)

/-- What is shown of terms behind their signs comes to their signed sum. -/
theorem signedTerms?_shownMore {parts : List (Sign × Term)}
    (hs : ∀ p ∈ parts, p.1 = .plus ∨ p.1 = .minus) (ht : ∀ p ∈ parts, p.2.IsSettled) :
    signedTerms? (shownMore parts) = some (parts.map fun p => p.1.factor * p.2.worth).sum := by
  induction parts with
  | nil => exact signedTerms?.eq_1
  | cons p parts ih =>
      -- The first term ends where the sign of the next one stands.
      rcases p with ⟨s, t⟩
      have hs' : ∀ q ∈ parts, q.1 = .plus ∨ q.1 = .minus :=
        fun q hq => hs q (List.mem_cons_of_mem _ hq)
      rcases exists_factor? (hs (s, t) List.mem_cons_self) with ⟨c, hc, hk⟩
      have hterm := term?_render (ht (s, t) List.mem_cons_self) (stops_shownMore hs')
      have hrest := ih hs' fun q hq => ht q (List.mem_cons_of_mem _ hq)
      rw [shownMore_cons, hc, List.singleton_append, signedTerms?_cons hk hterm, hrest,
        Option.map_some, List.map_cons, List.sum_cons]

/-- What is shown of an expression comes to its worth. -/
theorem expression?_render {e : Expression} (h : e.IsSettled) :
    expression? e.render = some e.worth := by
  rcases e with ⟨_ | ⟨⟨s, t⟩, parts⟩⟩
  · exact absurd rfl h.ne_nil
  have hall := signedTerms?_shownMore h.isSign h.terms
  have hterm := term?_render (h.terms (s, t) List.mem_cons_self)
    (stops_shownMore fun q hq => h.isSign q (List.mem_cons_of_mem _ hq))
  rw [shownMore_cons] at hall
  rcases h.isSign (s, t) List.mem_cons_self with rfl | rfl
  · -- A plus in front is not shown, and no term begins with a sign.
    have hrender : (⟨(.plus, t) :: parts⟩ : Expression).render = t.render ++ shownMore parts := by
      rw [Expression.render, List.map_cons, Signed.render, if_pos rfl]
      rfl
    have hsign : ((t.render ++ shownMore parts).head?.bind factor?) = none := by
      rcases hline : t.render ++ shownMore parts with _ | ⟨c, line⟩
      · rfl
      · rcases hk : factor? c with _ | k
        · exact hk
        · rw [hline, term?_of_stops (Text.stops_cons_iff.mpr (goesOn_of_factor? hk))] at hterm
          exact absurd hterm (by simp only [reduceCtorEq, not_false_eq_true])
    rw [hrender, expression?, hsign, if_neg (by decide)]
    exact hall
  · have hrender : (⟨(.minus, t) :: parts⟩ : Expression).render
        = '-' :: (t.render ++ shownMore parts) := by
      rw [Expression.render, List.map_cons, Signed.render,
        if_neg (by simp only [reduceCtorEq, not_false_eq_true])]
      rfl
    rw [hrender, expression?, if_pos (by rfl)]
    exact hall

/-- Whether the display of an expression can have the character. -/
def isShown (c : Char) : Bool := Numeral.isDigit c || ['[', ']', '~', '+', '-'].contains c

section Shown

variable {c : Char}

/-- A number is shown by digits and perhaps a minus. -/
theorem isShown_ofInt {v : Int} (h : c ∈ Text.ofInt v) : isShown c = true := by
  have hnat : ∀ n, c ∈ Text.ofNat n → isShown c = true := fun n h => by
    simp only [isShown, Numeral.isDigit_of_mem_ofNat h, Bool.true_or]
  cases v with
  | ofNat n => exact hnat n h
  | negSucc n =>
      rcases List.mem_cons.mp h with rfl | h
      · rfl
      · exact hnat (n + 1) h

/-- A die is shown by its number, brackets and strokes. -/
theorem isShown_die {s : DieSpec} {d : Showing} (hd : d.IsSettled) (h : c ∈ d.render s) :
    isShown c = true := by
  rcases Option.isSome_iff_exists.mp hd.rolled with ⟨v, hv⟩
  rw [Showing.render, hv] at h
  simp only at h
  -- There is nothing around the number but brackets and strokes.
  have hparts : c ∈ ['~', '~', '['] ∨ c ∈ Text.ofInt v ∨ c ∈ [']', '~', '~'] := by
    rw [Showing.dress] at h
    split at h
    · rwa [List.mem_append, List.mem_append, or_assoc] at h
    · rw [List.mem_append, List.mem_cons, List.mem_singleton] at h
      rcases h with (rfl | h) | rfl
      · exact .inl (by decide)
      · exact .inr (.inl h)
      · exact .inr (.inr (by decide))
  have hdress : ∀ c ∈ ['~', '~', '['] ++ [']', '~', '~'], isShown c = true :=
    List.all_eq_true.mp rfl
  rcases hparts with h | h | h
  · exact hdress c (List.mem_append_left _ h)
  · exact isShown_ofInt h
  · exact hdress c (List.mem_append_right _ h)

/-- A term is shown by nothing else than its dice or its number. -/
theorem isShown_term {t : Term} (ht : t.IsSettled) (h : c ∈ t.render) : isShown c = true := by
  cases t with
  | roll r =>
      rw [render_roll ht] at h
      rcases List.mem_flatMap.mp h with ⟨d, hd, h⟩
      exact isShown_die (ht.2 d hd) h
  | constant n => exact isShown_ofInt h

/-- The display of an expression behind a throw has no other characters. -/
theorem isShown_expression {e : Expression} (he : e.IsSettled) (h : c ∈ e.render) :
    isShown c = true := by
  have hpart : ∀ p ∈ e.terms, c ∈ p.1.written ++ p.2.render → isShown c = true := by
    intro p hp hmem
    rcases List.mem_append.mp hmem with hmem | hmem
    · rcases he.isSign p hp with hs | hs
      · rw [hs] at hmem
        rw [List.mem_singleton.mp hmem]
        rfl
      · rw [hs] at hmem
        rw [List.mem_singleton.mp hmem]
        rfl
    · exact isShown_term (he.terms p hp) hmem
  -- With its first sign or without it, nothing is shown but parts of terms.
  have hmore : c ∈ shownMore e.terms → isShown c = true := by
    intro hmem
    rcases List.mem_flatMap.mp hmem with ⟨q, hq, hmem⟩
    rcases List.mem_map.mp hq with ⟨p, hp, rfl⟩
    exact hpart p hp hmem
  rcases e with ⟨_ | ⟨⟨s, t⟩, parts⟩⟩
  · exact absurd h List.not_mem_nil
  · rw [shownMore_cons] at hmore
    rw [Expression.render, List.map_cons, Signed.render] at h
    split at h
    · exact hmore (List.mem_append_right _ h)
    · rw [List.append_assoc] at h
      exact hmore h

end Shown

theorem not_mem_render {e : Expression} (h : e.IsSettled) : ';' ∉ e.render := fun hmem =>
  absurd (isShown_expression h hmem) (by decide)

/-- A text without a separator at the front belongs to the first piece. -/
theorem pieces_append {t : Text} (h : ';' ∉ t) {line piece : Text} {more : List Text}
    (hp : pieces line = piece :: more) : pieces (t ++ line) = (t ++ piece) :: more := by
  induction t with
  | nil => exact hp
  | cons c t ih =>
      have hrest := ih fun hmem => h (List.mem_cons_of_mem c hmem)
      have hne : c ≠ ';' := fun hc => h (by rw [hc]; exact List.mem_cons_self)
      rw [List.cons_append]
      -- None of the characters in front is a separator.
      unfold pieces
      split
      · rename_i heq
        exact absurd heq (List.cons_ne_nil c _)
      · rename_i heq
        exact absurd (List.cons.inj heq).1 hne
      · rename_i heq
        rcases List.cons.inj heq with ⟨rfl, rfl⟩
        rw [hrest]
        rfl

/-- Joined texts without separators come apart again. -/
theorem pieces_join {ts : List Text} (h : ∀ t ∈ ts, ';' ∉ t) (hne : ts ≠ []) :
    pieces (Text.join [';', ' '] ts) = ts := by
  induction ts with
  | nil => exact absurd rfl hne
  | cons t ts ih =>
      rcases ts with _ | ⟨u, ts⟩
      · have hpieces := pieces_append (h t List.mem_cons_self) (show pieces [] = [[]] from rfl)
        rw [List.append_nil] at hpieces
        exact hpieces
      · have hrest := ih (fun t' ht' => h t' (List.mem_cons_of_mem t ht')) (List.cons_ne_nil u ts)
        have hsep : pieces ([';', ' '] ++ Text.join [';', ' '] (u :: ts)) = [] :: u :: ts :=
          congrArg ([] :: ·) hrest
        have hpieces := pieces_append (h t List.mem_cons_self) hsep
        rw [List.append_nil] at hpieces
        rw [Text.join, List.append_assoc]
        exact hpieces

/-- The display of settled expressions comes to what they are worth. -/
theorem decode_join {es : List Expression} (h : ∀ e ∈ es, e.IsSettled) (hne : es ≠ []) :
    decode (Text.join [';', ' '] (es.map Expression.render)) = some (es.map Expression.worth) := by
  have hpieces : pieces (Text.join [';', ' '] (es.map Expression.render))
      = es.map Expression.render := by
    refine pieces_join (fun t ht => ?_) fun hnil => hne (List.map_eq_nil_iff.mp hnil)
    rcases List.mem_map.mp ht with ⟨e, he, rfl⟩
    exact not_mem_render (h e he)
  rw [decode, hpieces]
  -- Each piece is read for itself.
  clear hpieces hne
  induction es with
  | nil => rfl
  | cons e es ih =>
      rw [List.map_cons, List.mapM_cons, expression?_render (h e List.mem_cons_self),
        ih fun e' he' => h e' (List.mem_cons_of_mem e he')]
      rfl

end Decoder

/-- What is shown is what is counted. Behind a throw of what was read, the display
    comes to the totals. -/
theorem RollSet.decode_render (dice faces : Option ℕ+) (text : Text) (s : RollSet)
    (draws : Draws) (h : RollSet.read (.ofBounds dice faces) text = .ok s) :
    ∃ totals, (s.throw draws).1.totals = .ok totals ∧
      Decoder.decode (s.throw draws).1.render = some totals := by
  rw [Limits.ofBounds_eq_upTo] at h
  rcases exists_form_of_read h with ⟨f, -, rfl⟩
  have hsettled := isSettled_throw f (some text.trim) draws
  -- A form has a first expression, and a throw keeps it.
  have hne : (throw ⟨f.expressions, some text.trim⟩ draws).1.expressions ≠ [] := by
    intro hnil
    have hunthrown := unthrown_throw ⟨f.expressions, some text.trim⟩ draws
    rw [hnil, f.unthrown_expressions] at hunthrown
    exact absurd hunthrown.symm (List.cons_ne_nil _ _)
  exact ⟨_, totals_eq_worth fun e he => (hsettled e he).isSign, Decoder.decode_join hsettled hne⟩

-- Two Fate dice behind a minus, of which the first is struck out.
theorem RollSet.decode_render_struck_fate_die :
    ∃ s, RollSet.read (.ofBounds none none) ['-', '2', 'd', 'F', 'd', 'l', '1', ';', '3'] = .ok s ∧
      (s.throw ⟨fun _ => 0, 0⟩).1.render
        = ['-', '~', '~', '[', '-', '1', ']', '~', '~', '[', '-', '1', ']', ';', ' ', '3'] ∧
      Decoder.decode (s.throw ⟨fun _ => 0, 0⟩).1.render = some [1, 3] := by
  have hread := read_text (⟨.empty, ⟨some (.bare true),
    .roll ⟨.ofCommon 2 (by decide), by decide, by decide, .fate,
      [⟨false, false, .ofCommon 1 (by decide), by decide⟩]⟩, []⟩,
    [(⟨.empty, .empty⟩, ⟨none, .constant (.ofCommon 3 (by decide)), []⟩)], .blanks .empty⟩ :
    NotationForm (Limits.bound none) (Limits.bound none))
  rw [← Limits.ofBounds_eq_upTo] at hread
  rcases decode_render none none _ _ ⟨fun _ => 0, 0⟩ hread with ⟨totals, htotals, hdecode⟩
  have hvalue : totals = [1, 3] := Except.ok.inj (htotals.symm.trans (by cbv))
  exact ⟨_, hread, by cbv, by rw [hdecode, hvalue]⟩

end DiceRoller
