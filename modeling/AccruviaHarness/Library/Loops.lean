import Mathlib.Order.Basic
import Mathlib.Order.WellFounded

/-!
# Loops that stop

The body of a loop answers the next state, or `none` where the loop stops.
-/

namespace Library

universe u

variable {State : Type u} {step : State → Option State}

/-- The loop after at most `bound` iterations. -/
def iterate (step : State → Option State) : Nat → State → State
  | 0, state => state
  | bound + 1, state =>
    match step state with
    | none => state
    | some next => iterate step bound next

variable {state : State}

theorem iterate_succ_of_some {bound : Nat} {next : State}
    (taken : step (iterate step bound state) = some next) :
    iterate step (bound + 1) state = next := by
  induction bound generalizing state with
  | zero =>
    have first : step state = some next := taken
    unfold iterate
    rw [first]
    rfl
  | succ _ ih =>
    unfold iterate at taken ⊢
    cases first : step state with
    | none =>
      rw [first] at taken
      rw [first] at taken
      cases taken
    | some _ =>
      rw [first] at taken
      exact ih taken

variable (invariant : State → Prop)

theorem iterate_invariant
    (preserved : ∀ state next, invariant state → step state = some next → invariant next)
    (bound : Nat) (holds : invariant state) :
    invariant (iterate step bound state) := by
  induction bound generalizing state with
  | zero => exact holds
  | succ _ ih =>
    unfold iterate
    cases taken : step state with
    | none => exact holds
    | some next => exact ih (preserved state next holds taken)

theorem step_iterate_of_measure (measure : State → Nat)
    (preserved : ∀ state next, invariant state → step state = some next → invariant next)
    (decreases : ∀ state next, invariant state → step state = some next →
      measure next < measure state)
    {bound : Nat} (holds : invariant state)
    (enough : measure state ≤ bound) :
    step (iterate step bound state) = none := by
  induction bound generalizing state with
  | zero =>
    show step state = none
    cases taken : step state with
    | none => rfl
    | some next =>
      have smaller := decreases state next holds taken
      omega
  | succ _ ih =>
    unfold iterate
    cases taken : step state with
    | none => exact taken
    | some next =>
      have smaller := decreases state next holds taken
      exact ih (preserved state next holds taken) (by omega)

/-- A loop whose body goes down in a well-founded order stops by itself, in a
state that satisfies its invariant. -/
theorem exists_stopped_of_wellFounded {relation : State → State → Prop}
    (wellFounded : WellFounded relation)
    (invariant : State → Prop)
    (preserved : ∀ state next, invariant state → step state = some next → invariant next)
    (decreases : ∀ state next, invariant state → step state = some next →
      relation next state) (holds : invariant state) :
    ∃ bound, step (iterate step bound state) = none ∧ invariant (iterate step bound state) := by
  induction state using wellFounded.induction with
  | _ state ih =>
    cases taken : step state with
    | none => exact ⟨0, taken, holds⟩
    | some next =>
      obtain ⟨bound, stopped, kept⟩ := ih next (decreases state next holds taken)
        (preserved state next holds taken)
      refine ⟨bound + 1, ?_, ?_⟩
      · unfold iterate
        rw [taken]
        exact stopped
      · unfold iterate
        rw [taken]
        exact kept

end Library
