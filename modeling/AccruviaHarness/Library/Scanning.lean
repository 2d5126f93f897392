import Mathlib.Data.List.Infix

/-!
# Searching a text with a scanner

A scanner reads a value at the start of a text. A search tries it at each place
from the left and goes on after what it has read.
-/

namespace Library

open List

universe u v

section

variable {Symbol : Type u} {Value : Type v}

structure Scanner (Symbol : Type u) (Value : Type v) where
  scan : List Symbol → Option (Value × List Symbol)
  consumes : ∀ symbols value rest, scan symbols = some (value, rest) → rest.length < symbols.length

namespace Scanner

variable (scanner : Scanner Symbol Value)

/-- The matches, each with the text from its start on. The fuel counts the
symbols. -/
def findWithin : Nat → List Symbol → List (List Symbol × Value)
  | 0, _ => []
  | _ + 1, [] => []
  | fuel + 1, symbol :: rest =>
    match scanner.scan (symbol :: rest) with
    | some (value, after) => (symbol :: rest, value) :: findWithin fuel after
    | none => findWithin fuel rest

def findAll (symbols : List Symbol) : List (List Symbol × Value) :=
  scanner.findWithin symbols.length symbols

/-- The scanner reads nothing inside the first part of a text, also not
beyond its end. -/
def Quiet (front rest : List Symbol) : Prop :=
  ∀ start, start ≠ [] → start <:+ front → scanner.scan (start ++ rest) = none

variable {scanner}

variable {symbols rest front : List Symbol}

theorem findWithin_of_le {fuel : Nat} (enough : symbols.length ≤ fuel) :
    scanner.findWithin fuel symbols = scanner.findAll symbols := by
  induction fuel using Nat.strong_induction_on generalizing symbols with
  | h fuel ih =>
    cases symbols with
    | nil => cases fuel <;> rfl
    | cons symbol rest =>
      cases fuel with
      | zero => simp at enough
      | succ fuel =>
        rw [length_cons, Nat.add_le_add_iff_right] at enough
        unfold findAll
        rw [length_cons, findWithin, findWithin]
        cases scanned : scanner.scan (symbol :: rest) with
        | none => exact ih fuel (Nat.lt_succ_self fuel) enough
        | some found =>
          obtain ⟨_, _⟩ := found
          have shorter := scanner.consumes _ _ _ scanned
          rw [length_cons, Nat.lt_succ_iff] at shorter
          dsimp only
          rw [ih fuel (Nat.lt_succ_self fuel) (shorter.trans enough), ih rest.length
              (Nat.lt_succ_of_le enough) shorter]

theorem findAll_nil : scanner.findAll [] = [] := rfl

variable {value : Value} {symbol : Symbol}

theorem findAll_of_some (scanned : scanner.scan symbols = some (value, rest)) :
    scanner.findAll symbols = (symbols, value) :: scanner.findAll rest := by
  have shorter := scanner.consumes _ _ _ scanned
  cases symbols with
  | nil => simp at shorter
  | cons _ _ =>
    rw [length_cons, Nat.lt_succ_iff] at shorter
    unfold findAll
    rw [length_cons, findWithin, scanned]
    dsimp only
    rw [findWithin_of_le shorter]
    rfl

theorem findAll_of_none (scanned : scanner.scan (symbol :: rest) = none) :
    scanner.findAll (symbol :: rest) = scanner.findAll rest := by
  unfold findAll
  rw [length_cons, findWithin, scanned]

theorem exists_scan_of_mem_findAll
    {start : List Symbol} (found : (start, value) ∈ scanner.findAll symbols) :
    ∃ rest, scanner.scan start = some (value, rest) := by
  induction length : symbols.length using Nat.strong_induction_on generalizing symbols with
  | h length ih =>
    subst length
    cases symbols with
    | nil => simp [findAll_nil] at found
    | cons symbol tail =>
      cases scanned : scanner.scan (symbol :: tail) with
      | none =>
        rw [findAll_of_none scanned] at found
        exact ih _ (Nat.lt_succ_self _) found rfl
      | some read =>
        obtain ⟨_, after⟩ := read
        rw [findAll_of_some scanned] at found
        rcases mem_cons.mp found with same | found
        · cases same
          exact ⟨after, scanned⟩
        · exact ih _ (scanner.consumes _ _ _ scanned) found rfl

theorem quiet_nil (rest : List Symbol) : scanner.Quiet [] rest := by
  intro start nonempty suffix
  exact absurd (suffix_nil.mp suffix) nonempty

theorem quiet_cons_iff :
    scanner.Quiet (symbol :: front) rest ↔
      scanner.scan (symbol :: (front ++ rest)) = none ∧ scanner.Quiet front rest := by
  unfold Quiet
  constructor
  · intro quiet
    refine ⟨quiet (symbol :: front) (cons_ne_nil _ _) suffix_rfl, ?_⟩
    intro start nonempty suffix
    exact quiet start nonempty (suffix.trans (suffix_cons symbol front))
  · rintro ⟨here, quiet⟩ start nonempty suffix
    rcases suffix_cons_iff.mp suffix with same | later
    · rw [same]
      exact here
    · exact quiet start nonempty later

theorem findAll_append_of_quiet (quiet : scanner.Quiet front rest) :
    scanner.findAll (front ++ rest) = scanner.findAll rest := by
  induction front with
  | nil => rfl
  | cons _ _ ih =>
    obtain ⟨here, later⟩ := quiet_cons_iff.mp quiet
    rw [cons_append, findAll_of_none here, ih later]

theorem exists_match_of_not_quiet (loud : ¬ scanner.Quiet front rest) :
    ∃ start value, start ≠ [] ∧ start <:+ front ∧
      (start ++ rest, value) ∈ scanner.findAll (front ++ rest) := by
  induction front with
  | nil => exact absurd (quiet_nil rest) loud
  | cons symbol front ih =>
    cases scanned : scanner.scan (symbol :: (front ++ rest)) with
    | none =>
      have later : ¬ scanner.Quiet front rest := by
        intro quiet
        exact loud (quiet_cons_iff.mpr ⟨scanned, quiet⟩)
      obtain ⟨start, value, nonempty, suffix, found⟩ := ih later
      refine ⟨start, value, nonempty, suffix.trans (suffix_cons symbol front), ?_⟩
      rw [cons_append, findAll_of_none scanned]
      exact found
    | some found =>
      obtain ⟨value, _⟩ := found
      refine ⟨symbol :: front, value, cons_ne_nil _ _, suffix_rfl, ?_⟩
      rw [cons_append, findAll_of_some scanned]
      exact mem_cons_self

end Scanner

end

end Library
