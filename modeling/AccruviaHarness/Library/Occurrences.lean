import Mathlib.Data.List.Infix

/-!
# Occurrences of a pattern

A pattern may occur in a text at several offsets, and its occurrences may
overlap.
-/

namespace Library

open List

universe u v

variable {Symbol : Type u}

def OccursAt (pattern text : List Symbol) (offset : Nat) : Prop := pattern <+: text.drop offset

def OccurrencesMeet (pattern text : List Symbol) : Prop :=
  ∀ first second, OccursAt pattern text first →
    OccursAt pattern text second → second < first + pattern.length

def OccursOnce (pattern text : List Symbol) : Prop := ∃! offset, OccursAt pattern text offset

/-- `replacement` in the place of the symbols from `offset` on. -/
def splice (offset length : Nat) (replacement items : List Symbol) : List Symbol :=
  items.take offset ++ replacement ++ items.drop (offset + length)

theorem map_splice {Other : Type v} (convert : Symbol → Other) (offset length : Nat)
    (replacement items : List Symbol) :
    (splice offset length replacement items).map convert =
      splice offset length (replacement.map convert) (items.map convert) := by
  simp only [splice, map_append, map_take, map_drop]

theorem occursAt_drop (pattern text : List Symbol) (skipped offset : Nat) :
    OccursAt pattern (text.drop skipped) offset ↔ OccursAt pattern text (skipped + offset) := by
  unfold OccursAt
  rw [drop_drop]

theorem not_occursAt_nil {pattern : List Symbol} (visible : pattern ≠ []) (offset : Nat) :
    ¬ OccursAt pattern [] offset := by
  unfold OccursAt
  rw [drop_nil, prefix_nil]
  exact visible

section

variable [DecidableEq Symbol]

def firstOffset (pattern : List Symbol) : List Symbol → Option Nat
  | [] => none
  | symbol :: rest =>
    if pattern <+: symbol :: rest then some 0
    else (firstOffset pattern rest).map (· + 1)

/-- The disjoint occurrences that a scan from the left meets. The first
`covered` symbols belong to an occurrence that has been counted. -/
def countFrom (pattern : List Symbol) : Nat → List Symbol → Nat
  | _, [] => 0
  | covered + 1, _ :: rest => countFrom pattern covered rest
  | 0, symbol :: rest =>
    if pattern <+: symbol :: rest then countFrom pattern (pattern.length - 1) rest + 1
    else countFrom pattern 0 rest

def replaceFirst (pattern replacement text : List Symbol) : List Symbol :=
  match firstOffset pattern text with
  | some offset => splice offset pattern.length replacement text
  | none => text

variable {pattern text : List Symbol}

theorem firstOffset_eq_some {offset : Nat} (found : firstOffset pattern text = some offset) :
    OccursAt pattern text offset ∧ ∀ other, OccursAt pattern text other → offset ≤ other := by
  induction text generalizing offset with
  | nil => cases found
  | cons _ _ ih =>
    unfold firstOffset at found
    split at found
    next here =>
      cases found
      exact ⟨here, fun other _ => Nat.zero_le other⟩
    next missing =>
      obtain ⟨_, foundLater, rfl⟩ := Option.map_eq_some_iff.mp found
      obtain ⟨occurs, least⟩ := ih foundLater
      refine ⟨occurs, ?_⟩
      intro other occursOther
      cases other with
      | zero => exact absurd occursOther missing
      | succ other => exact Nat.succ_le_succ (least other occursOther)

theorem firstOffset_eq_none (visible : pattern ≠ []) :
    firstOffset pattern text = none ↔ ∀ offset, ¬ OccursAt pattern text offset := by
  induction text with
  | nil =>
    constructor
    · intro _ offset
      exact not_occursAt_nil visible offset
    · intro _
      rfl
  | cons symbol rest ih =>
    unfold firstOffset
    by_cases here : pattern <+: symbol :: rest
    · rw [if_pos here]
      constructor
      · intro found
        cases found
      · intro nowhere
        exact absurd here (nowhere 0)
    · rw [if_neg here, Option.map_eq_none_iff, ih]
      constructor
      · intro nowhere offset
        cases offset with
        | zero => exact here
        | succ offset => exact nowhere offset
      · intro nowhere offset
        exact nowhere (offset + 1)

theorem countFrom_eq_drop (covered : Nat) :
    countFrom pattern covered text = countFrom pattern 0 (text.drop covered) := by
  induction text generalizing covered with
  | nil =>
    rw [drop_nil]
    cases covered <;> rfl
  | cons _ _ ih =>
    cases covered with
    | zero => rfl
    | succ covered => exact ih covered

theorem countFrom_cons_of_here {symbol : Symbol} {rest : List Symbol} (visible : pattern ≠ [])
    (here : pattern <+: symbol :: rest) :
    countFrom pattern 0 (symbol :: rest) =
      countFrom pattern 0 ((symbol :: rest).drop pattern.length) + 1 := by
  have something : 0 < pattern.length := length_pos_of_ne_nil visible
  obtain ⟨_, enough⟩ := Nat.exists_eq_succ_of_ne_zero something.ne'
  rw [countFrom, if_pos here, countFrom_eq_drop, enough]
  rfl

theorem countFrom_eq_zero_iff (visible : pattern ≠ []) :
    countFrom pattern 0 text = 0 ↔ ∀ offset, ¬ OccursAt pattern text offset := by
  rw [← firstOffset_eq_none visible]
  induction text with
  | nil => exact iff_of_true rfl rfl
  | cons symbol rest ih =>
    by_cases here : pattern <+: symbol :: rest
    · rw [countFrom_cons_of_here visible here, firstOffset, if_pos here]
      exact iff_of_false (Nat.succ_ne_zero _) (Option.some_ne_none 0)
    · rw [countFrom, if_neg here, firstOffset, if_neg here, Option.map_eq_none_iff]
      exact ih

theorem countFrom_of_firstOffset (visible : pattern ≠ []) {offset : Nat}
    (found : firstOffset pattern text = some offset) :
    countFrom pattern 0 text = countFrom pattern 0 (text.drop (offset + pattern.length)) + 1 := by
  induction text generalizing offset with
  | nil => cases found
  | cons _ _ ih =>
    unfold firstOffset at found
    split at found
    next here =>
      cases found
      rw [Nat.zero_add]
      exact countFrom_cons_of_here visible here
    next missing =>
      obtain ⟨later, foundLater, rfl⟩ := Option.map_eq_some_iff.mp found
      rw [countFrom, if_neg missing, ih foundLater,
        show later + 1 + pattern.length = later + pattern.length + 1 by omega,
        drop_succ_cons]

/-- The count is one where the pattern occurs, and only at offsets so close
that the occurrences overlap. -/
theorem countFrom_eq_one_iff (visible : pattern ≠ []) :
    countFrom pattern 0 text = 1 ↔ (∃ offset, OccursAt pattern text offset) ∧
        OccurrencesMeet pattern text := by
  cases found : firstOffset pattern text with
  | none =>
    have nowhere := (firstOffset_eq_none visible).mp found
    rw [(countFrom_eq_zero_iff visible).mpr nowhere]
    refine iff_of_false Nat.zero_ne_one ?_
    rintro ⟨⟨offset, occurs⟩, _⟩
    exact nowhere offset occurs
  | some first =>
    obtain ⟨occurs, least⟩ := firstOffset_eq_some found
    rw [countFrom_of_firstOffset visible found, Nat.add_eq_right, countFrom_eq_zero_iff visible]
    constructor
    · intro nowhere
      refine ⟨⟨first, occurs⟩, ?_⟩
      intro here there occursHere occursThere
      by_contra apart
      have early := least here occursHere
      apply nowhere (there - (first + pattern.length))
      rw [occursAt_drop]
      have place : first + pattern.length + (there - (first + pattern.length)) = there := by omega
      rw [place]
      exact occursThere
    · rintro ⟨_, meet⟩ _ occursLater
      rw [occursAt_drop] at occursLater
      have close := meet first _ occurs occursLater
      omega

theorem OccursOnce.countFrom_eq_one (once : OccursOnce pattern text) (visible : pattern ≠ []) :
    countFrom pattern 0 text = 1 := by
  obtain ⟨offset, occurs, only⟩ := once
  rw [countFrom_eq_one_iff visible]
  refine ⟨⟨offset, occurs⟩, ?_⟩
  intro first second occursFirst occursSecond
  have something : 0 < pattern.length := length_pos_of_ne_nil visible
  rw [only first occursFirst, only second occursSecond]
  exact Nat.lt_add_of_pos_right something

theorem occursOnce_iff_of_countFrom_eq_one
    (visible : pattern ≠ []) (counted : countFrom pattern 0 text = 1) :
    OccursOnce pattern text ↔ ¬ ∃ first second, first < second ∧ OccursAt pattern text first ∧
        OccursAt pattern text second := by
  constructor
  · rintro ⟨offset, _, only⟩ ⟨first, second, apart, here, there⟩
    rw [only first here, only second there] at apart
    exact Nat.lt_irrefl offset apart
  · intro alone
    obtain ⟨⟨offset, occurs⟩, _⟩ := (countFrom_eq_one_iff visible).mp counted
    refine ⟨offset, occurs, ?_⟩
    intro other occursOther
    rcases Nat.lt_trichotomy other offset with before | same | after
    · exact absurd ⟨other, offset, before, occursOther, occurs⟩ alone
    · exact same
    · exact absurd ⟨offset, other, after, occurs, occursOther⟩ alone

end

/-! ## Marks -/

section

variable [DecidableEq Symbol]

variable {mark : Symbol} {first second rest others : List Symbol}

theorem split_at_first (notInFirst : mark ∉ first) (notInSecond : mark ∉ second)
    (same : first ++ mark :: rest = second ++ mark :: others) :
    first = second ∧ rest = others := by
  have heads := congrArg (List.takeWhile fun symbol => symbol ≠ mark) same
  have shape : ∀ front back : List Symbol, mark ∉ front →
      (front ++ mark :: back).takeWhile (fun symbol => symbol ≠ mark) =
        front := by
    intro front back notIn
    rw [takeWhile_append_of_pos]
    · simp
    · intro symbol member
      have different : symbol ≠ mark := by
        rintro rfl
        exact notIn member
      simpa using different
  rw [shape first rest notInFirst, shape second others notInSecond] at heads
  subst heads
  exact ⟨rfl, by simpa using same⟩

theorem split_at_last (notInRest : mark ∉ rest) (notInOthers : mark ∉ others)
    (same : first ++ mark :: rest = second ++ mark :: others) :
    first = second ∧ rest = others := by
  have reversed := congrArg List.reverse same
  simp only [reverse_append, reverse_cons, append_assoc, singleton_append] at reversed
  obtain ⟨restSame, firstSame⟩ :=
    split_at_first (by simpa using notInRest) (by simpa using notInOthers) reversed
  exact ⟨reverse_injective firstSame, reverse_injective restSame⟩

end

end Library
