import DiceRoller.Proofs.Dice.Bounds
import DiceRoller.Proofs.Dice.Outcomes
import Mathlib.Data.Set.Function

/-!
# Fair dice

If all draws are equally likely, so is everything that the dice of a notation can show
together. Whatever the dice and however they are nested, there is one draw for each of them,
and one number below the number of its faces for each of its values. So the draws that matter
and the outcomes are the same sets up to naming: every outcome falls, and with exactly one
choice of draws.

No value stands on two faces of a die, or it would be the likelier one. This holds of the dice
that a notation can name, and it is the only thing that is asked of them here.

## Main definitions

* `drawsFor`: The draws for dice of some kinds, one number for each die.
* `outcomesOf`: What dice of some kinds can show together.
* `picked`: What dice of some kinds show for such draws.
* `RollSet.fallen`: What the dice of a set show behind a throw.

## Theorems

* `picked_mem_outcomesOf`: What is picked is one of the outcomes.
* `falls_of_mem_drawsFor`: Draws that begin with numbers pick these values.
* `existsUnique_picked`: Every outcome is picked by exactly one choice of draws.
* `bijOn_picked`: Choices of draws and outcomes are the same sets up to naming.
* `DieSpec.nodup_plain`: No number stands on two numbered faces.
* `DieSpec.nodup_fateDie`: Nor does one stand on two faces of a Fate die.
* `FacesForm.nodup_distribution`: No value stands on two faces of a die that a notation
  names.
* `RollSet.fallen_eq_falls`: What falls depends on the kinds of the dice and on the draws.
* `RollSet.nodup_distribution_of_read`: No value stands on two faces of a die that was
  read.
* `RollSet.bijOn_fallen_of_read`: The same for the dice of a notation that are thrown.
* `RollSet.bijOn_fallen_of_read_two_kinds`: Two sides and a minus: the draws are the
  places of the values.
-/

namespace DiceRoller

/-- The draws for dice of some kinds: for each die a number below the number of its values. -/
def drawsFor (kinds : List DieSpec) : Set (List Nat) :=
  {numbers | List.Forall₂ (fun k n => n < k.distribution.length) kinds numbers}

/-- What dice of some kinds can show together: each of them one of its own values. -/
def outcomesOf (kinds : List DieSpec) : Set (List (Option Int)) :=
  {values | List.Forall₂ (fun k v => ∃ n ∈ k.distribution, v = some n) kinds values}

/-- The values at given places of dice of some kinds. -/
def picked (kinds : List DieSpec) (numbers : List Nat) : List (Option Int) :=
  List.zipWith (fun k n => k.distribution[n]?) kinds numbers

variable {kinds : List DieSpec} {numbers : List Nat} {values : List (Option Int)}

/-- What is picked is one of the outcomes. -/
theorem picked_mem_outcomesOf (h : numbers ∈ drawsFor kinds) :
    picked kinds numbers ∈ outcomesOf kinds := by
  induction h with
  | nil => exact .nil
  | @cons k n kinds numbers hn _ ih =>
      exact .cons ⟨_, List.getElem_mem hn, List.getElem?_eq_getElem hn⟩ ih

/-- Draws that begin with a number for each die pick the values at these places. -/
theorem falls_of_mem_drawsFor (h : numbers ∈ drawsFor kinds) {draws : Draws}
    (hdraws : draws.Begins numbers) : falls kinds draws = picked kinds numbers := by
  induction h generalizing draws with
  | nil => rfl
  | @cons k n kinds numbers hn _ ih =>
      -- The first die takes the first number, and the others begin with the next.
      have hcons : falls (k :: kinds) draws = falls [k] draws ++ falls kinds (draws.skip 1) :=
        falls_append [k] kinds draws
      have hfirst : draws.stream draws.taken = n := hdraws 0 n rfl
      have hbegins : draws.Begins ([n] ++ numbers) := hdraws
      have hrest : (draws.skip 1).Begins numbers := hbegins.of_append.2
      have hpick : falls [k] draws = [k.distribution[n]?] := by
        change [k.distribution[draws.stream draws.taken % k.distribution.length]?] = _
        rw [hfirst, Nat.mod_eq_of_lt hn]
      rw [hcons, hpick, ih hrest]
      rfl

/-- Every outcome is picked by exactly one choice of draws, if no value stands on two faces. -/
theorem existsUnique_picked (hnodup : ∀ k ∈ kinds, k.distribution.Nodup)
    (h : values ∈ outcomesOf kinds) :
    ∃! numbers, numbers ∈ drawsFor kinds ∧ picked kinds numbers = values := by
  induction h with
  | nil => exact ⟨[], ⟨.nil, rfl⟩, fun numbers h => List.forall₂_nil_left_iff.mp h.1⟩
  | @cons k v kinds values hv _ ih =>
      rcases hv with ⟨n, hn, rfl⟩
      rcases ih fun k' hk' => hnodup k' (List.mem_cons_of_mem k hk') with
        ⟨numbers, ⟨hnumbers, hpicked⟩, hunique⟩
      -- The number for the first die is the place of its value.
      have hplace := List.idxOf_lt_length_of_mem hn
      refine ⟨k.distribution.idxOf n :: numbers, ⟨.cons hplace hnumbers, ?_⟩, ?_⟩
      · rw [picked, List.zipWith_cons_cons, List.getElem?_idxOf hn]
        exact congrArg (some n :: ·) hpicked
      · rintro _ ⟨hother, heq⟩
        rcases List.forall₂_cons_left_iff.mp hother with ⟨m, ms, hm, hms, rfl⟩
        rw [picked, List.zipWith_cons_cons] at heq
        rcases List.cons.inj heq with ⟨hfirst, hrest⟩
        -- Two places with the same value are the same place.
        have hsame : k.distribution[m]? = k.distribution[k.distribution.idxOf n]? := by
          rw [hfirst, List.getElem?_idxOf hn]
        rw [(List.getElem?_inj hm (hnodup k List.mem_cons_self)).mp hsame,
          hunique ms ⟨hms, hrest⟩]

/-- Choices of draws and outcomes are the same sets up to naming. -/
theorem bijOn_picked (hnodup : ∀ k ∈ kinds, k.distribution.Nodup) :
    Set.BijOn (picked kinds) (drawsFor kinds) (outcomesOf kinds) := by
  refine ⟨fun numbers h => picked_mem_outcomesOf h, ?_, ?_⟩
  · -- Two choices that pick the same outcome are both the one for it.
    intro numbers h numbers' h' heq
    exact (existsUnique_picked hnodup (picked_mem_outcomesOf h)).unique ⟨h, rfl⟩ ⟨h', heq.symm⟩
  · intro values h
    rcases (existsUnique_picked hnodup h).exists with ⟨numbers, hnumbers, hpicked⟩
    exact ⟨numbers, hnumbers, hpicked⟩

theorem DieSpec.nodup_plain (n : Nat) : (plain n).distribution.Nodup := by
  refine List.nodup_range.map fun i j hij => ?_
  omega

theorem DieSpec.nodup_fateDie : fateDie.distribution.Nodup := by decide

/-- No value stands on two faces of a die that a notation names. -/
theorem FacesForm.nodup_distribution {maxFaces : Nat} (f : FacesForm maxFaces) :
    f.value.distribution.Nodup := by
  cases f with
  | numbered count _ _ => exact DieSpec.nodup_plain count.value
  | fate => exact DieSpec.nodup_fateDie

namespace RollSet

/-- What the dice of the set show behind a throw, in order. -/
def fallen (s : RollSet) (draws : Draws) : List (Option Int) :=
  (s.throw draws).1.dice.map fun d => d.showing.value

/-- What falls depends on the kinds of the dice and on the draws. -/
theorem fallen_eq_falls (s : RollSet) (draws : Draws) :
    s.fallen draws = falls (s.dice.map Die.spec) draws := by
  rw [fallen, falls_throw, map_spec_dice_throw]

/-- No value stands on two faces of a die that was read. -/
theorem nodup_distribution_of_read {maxDice maxFaces : Nat} {text : Text} {s : RollSet}
    (h : read (.upTo maxDice maxFaces) text = .ok s) :
    ∀ k ∈ s.dice.map Die.spec, k.distribution.Nodup := by
  intro k hk
  rcases List.mem_map.mp hk with ⟨d, hd, rfl⟩
  rcases List.mem_flatMap.mp hd with ⟨r, hr, hd⟩
  rcases exists_form_of_mem_rolls_of_read h hr with ⟨f, rfl⟩
  rcases List.mem_map.mp hd with ⟨shown, -, rfl⟩
  exact f.faces.nodup_distribution

/-- The draws decide what falls, and nothing else does. A throw of what was read takes a
    number for each die, and the draws that begin with such numbers pick the values. What the
    dice show together is one of their outcomes, and each outcome falls with exactly one
    choice of numbers. -/
theorem bijOn_fallen_of_read (dice faces : Option ℕ+) (text : Text) (s : RollSet)
    (h : read (.ofBounds dice faces) text = .ok s) :
    (∀ numbers ∈ drawsFor (s.dice.map Die.spec), ∀ draws : Draws, draws.Begins numbers →
      (s.throw draws).2 = draws.skip numbers.length ∧
      s.fallen draws = picked (s.dice.map Die.spec) numbers) ∧
    Set.BijOn (fun numbers => s.fallen (.ofCycle numbers.toArray))
      (drawsFor (s.dice.map Die.spec)) (outcomesOf (s.dice.map Die.spec)) := by
  rw [Limits.ofBounds_eq_upTo] at h
  have hfallen : ∀ numbers ∈ drawsFor (s.dice.map Die.spec), ∀ draws : Draws,
      draws.Begins numbers → s.fallen draws = picked (s.dice.map Die.spec) numbers := by
    intro numbers hnumbers draws hdraws
    rw [fallen_eq_falls, falls_of_mem_drawsFor hnumbers hdraws]
  refine ⟨fun numbers hnumbers draws hdraws => ⟨?_, hfallen numbers hnumbers draws hdraws⟩, ?_⟩
  · -- There is one number for each die, and the throw takes one draw for each.
    have hlen := List.Forall₂.length_eq hnumbers
    rw [List.length_map, RollSet.dice, Roll.length_flatMap_dice] at hlen
    rw [throw_snd, quantity, hlen]
  · refine (bijOn_picked (nodup_distribution_of_read h)).congr fun numbers hnumbers => ?_
    exact (hfallen numbers hnumbers _ (Draws.begins_ofCycle numbers)).symm

-- Two sides and a minus: the draws are the places of the values.
theorem bijOn_fallen_of_read_two_kinds :
    ∃ s, read (.ofBounds none none) ['1', 'd', '2', '-', '1', 'd', 'F'] = .ok s ∧
      Set.BijOn (fun numbers => s.fallen (.ofCycle numbers.toArray))
        (drawsFor [.plain 2, .fateDie]) (outcomesOf [.plain 2, .fateDie]) ∧
      s.fallen (.ofCycle #[1, 0]) = [some 2, some (-1)] := by
  have hread : read (.ofBounds none none) ['1', 'd', '2', '-', '1', 'd', 'F']
      = .ok ⟨[⟨[(.plus, .roll (.fresh 1 (.plain 2) [])), (.minus, .roll (.fresh 1 .fateDie []))]⟩],
        some ['1', 'd', '2', '-', '1', 'd', 'F']⟩ := by
    decide +kernel
  rcases bijOn_fallen_of_read none none _ _ hread with ⟨hpicked, hbij⟩
  refine ⟨_, hread, hbij, ?_⟩
  have hnumbers : [1, 0] ∈ drawsFor [.plain 2, .fateDie] :=
    .cons (by decide) (.cons (by decide) .nil)
  exact (hpicked _ hnumbers _ (Draws.begins_ofCycle [1, 0])).2

end RollSet

end DiceRoller
