import Mathlib.Data.List.Basic
import Mathlib.Data.List.Infix

/-!
# Glob patterns

Patterns of literal symbols, a wildcard for one symbol and a wildcard for any
number of them, with the texts that they match.
-/

namespace Library

open List

universe u

inductive GlobToken (Symbol : Type u) where
  | exactly (symbol : Symbol)
  | one
  | star

namespace GlobToken

variable {Symbol : Type u}

inductive Matches : List (GlobToken Symbol) → List Symbol → Prop
  | nil : Matches [] []
  | exactly {pattern text} (symbol : Symbol) (rest : Matches pattern text) :
      Matches (.exactly symbol :: pattern) (symbol :: text)
  | one {pattern text} (symbol : Symbol) (rest : Matches pattern text) :
      Matches (.one :: pattern) (symbol :: text)
  | star {pattern text} (skipped : List Symbol) (rest : Matches pattern text) :
      Matches (.star :: pattern) (skipped ++ text)

variable {text : List Symbol} {pattern : List (GlobToken Symbol)}

theorem matches_nil_iff : Matches [] text ↔ text = [] := by
  constructor
  · intro matched
    cases matched
    rfl
  · rintro rfl
    exact .nil

theorem matches_exactly_iff {symbol : Symbol} :
    Matches (.exactly symbol :: pattern) text ↔
      ∃ rest, text = symbol :: rest ∧ Matches pattern rest := by
  constructor
  · intro matched
    cases matched with
    | exactly _ rest => exact ⟨_, rfl, rest⟩
  · rintro ⟨_, rfl, matched⟩
    exact .exactly symbol matched

theorem matches_one_iff :
    Matches (.one :: pattern) text ↔
      ∃ symbol rest, text = symbol :: rest ∧ Matches pattern rest := by
  constructor
  · intro matched
    cases matched with
    | one symbol rest => exact ⟨symbol, _, rfl, rest⟩
  · rintro ⟨symbol, _, rfl, matched⟩
    exact .one symbol matched

theorem matches_star_iff :
    Matches (.star :: pattern) text ↔
      ∃ skipped rest, text = skipped ++ rest ∧ Matches pattern rest := by
  constructor
  · intro matched
    cases matched with
    | star skipped rest => exact ⟨skipped, _, rfl, rest⟩
  · rintro ⟨skipped, _, rfl, matched⟩
    exact .star skipped matched

theorem matches_star (text : List Symbol) : Matches [.star] text := by
  have matched : Matches [.star] (text ++ []) := .star text .nil
  rwa [append_nil] at matched

theorem matches_literals_append_iff {literals : List Symbol} :
    Matches (literals.map .exactly ++ pattern) text ↔
      ∃ rest, text = literals ++ rest ∧ Matches pattern rest := by
  induction literals generalizing text with
  | nil => simp
  | cons _ literals ih =>
    rw [map_cons, cons_append, matches_exactly_iff]
    constructor
    · rintro ⟨rest, rfl, matched⟩
      obtain ⟨later, rfl, lastMatched⟩ := ih.mp matched
      exact ⟨later, rfl, lastMatched⟩
    · rintro ⟨rest, rfl, matched⟩
      exact ⟨literals ++ rest, rfl, ih.mpr ⟨rest, rfl, matched⟩⟩

theorem matches_literals_iff {literals : List Symbol} :
    Matches (literals.map .exactly) text ↔ text = literals := by
  have split : Matches (literals.map .exactly ++ []) text ↔
      ∃ rest, text = literals ++ rest ∧ Matches [] rest :=
    matches_literals_append_iff
  rw [append_nil] at split
  rw [split]
  constructor
  · rintro ⟨_, rfl, matched⟩
    rw [matches_nil_iff.mp matched, append_nil]
  · rintro rfl
    exact ⟨[], (append_nil text).symm, .nil⟩

section

variable [DecidableEq Symbol]

def isMatch : List (GlobToken Symbol) → List Symbol → Bool
  | [], text => text.isEmpty
  | .exactly symbol :: pattern, first :: text => symbol = first && isMatch pattern text
  | .exactly _ :: _, [] => false
  | .one :: pattern, _ :: text => isMatch pattern text
  | .one :: _, [] => false
  | .star :: pattern, text => text.tails.any fun rest => isMatch pattern rest

theorem isMatch_iff : isMatch pattern text = true ↔ Matches pattern text := by
  induction pattern generalizing text with
  | nil => rw [isMatch, List.isEmpty_iff, matches_nil_iff]
  | cons token _ ih =>
    cases token with
    | exactly _ =>
      rw [matches_exactly_iff]
      cases text with
      | nil => simp [isMatch]
      | cons _ text =>
        rw [isMatch, Bool.and_eq_true, decide_eq_true_eq, ih]
        constructor
        · rintro ⟨rfl, matched⟩
          exact ⟨text, rfl, matched⟩
        · rintro ⟨rest, same, matched⟩
          cases same
          exact ⟨rfl, matched⟩
    | one =>
      rw [matches_one_iff]
      cases text with
      | nil => simp [isMatch]
      | cons _ _ => simp [isMatch, ih]
    | star =>
      rw [matches_star_iff, isMatch, any_eq_true]
      constructor
      · rintro ⟨rest, suffix, matched⟩
        obtain ⟨skipped, split⟩ := (mem_tails rest text).mp suffix
        exact ⟨skipped, rest, split.symm, ih.mp matched⟩
      · rintro ⟨skipped, rest, split, matched⟩
        exact ⟨rest, (mem_tails rest text).mpr ⟨skipped, split.symm⟩, ih.mpr matched⟩

end

end GlobToken

end Library
