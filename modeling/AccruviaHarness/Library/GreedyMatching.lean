import Mathlib.Data.List.Nodup

/-!
# Greedy matchings

A list of candidate pairs is gone through in its order; a pair is taken when
neither of its sides has been taken before.
-/

namespace Library

open List

universe u v

section GreedyMatching

variable {Left : Type u} {Right : Type v}

structure GreedyMatching (Left : Type u) (Right : Type v) where
  pairs : List (Left × Right)
  usedLeft : List Left
  usedRight : List Right

namespace GreedyMatching

variable [DecidableEq Left] [DecidableEq Right]

def consider (matching : GreedyMatching Left Right)
    (candidate : Left × Right) : GreedyMatching Left Right :=
  if candidate.1 ∈ matching.usedLeft ∨ candidate.2 ∈ matching.usedRight then matching
  else
    { pairs := matching.pairs ++ [candidate], usedLeft := matching.usedLeft ++ [candidate.1]
      usedRight := matching.usedRight ++ [candidate.2] }

def run (matching : GreedyMatching Left Right)
    (candidates : List (Left × Right)) : GreedyMatching Left Right :=
  candidates.foldl consider matching

/-- No side is taken twice, the used right sides are those of the pairs, and
a free left side that is taken is known to be. -/
structure Valid (free : Left → Prop)
    (matching : GreedyMatching Left Right) : Prop where
  leftDistinct : (matching.pairs.map Prod.fst).Nodup
  rightDistinct : (matching.pairs.map Prod.snd).Nodup
  used : ∀ right, right ∈ matching.usedRight ↔
    right ∈ matching.pairs.map Prod.snd
  known : ∀ left, free left → (left ∈ matching.usedLeft ↔ left ∈ matching.pairs.map Prod.fst)

variable {matching : GreedyMatching Left Right}

variable {free : Left → Prop} {candidate pair : Left × Right}
  {candidates : List (Left × Right)}

theorem consider_valid (valid : matching.Valid free) (candidateFree : free candidate.1) :
    (matching.consider candidate).Valid free := by
  unfold consider
  split
  · exact valid
  next fresh =>
    rw [not_or] at fresh
    obtain ⟨newLeft, newRight⟩ := fresh
    rw [valid.known _ candidateFree] at newLeft
    rw [valid.used] at newRight
    refine ⟨?leftDistinct, ?rightDistinct, ?used, ?known⟩
    case leftDistinct =>
      rw [map_append, map_singleton, ← concat_eq_append]
      exact valid.leftDistinct.concat newLeft
    case rightDistinct =>
      rw [map_append, map_singleton, ← concat_eq_append]
      exact valid.rightDistinct.concat newRight
    case used =>
      intro right
      rw [map_append, mem_append, mem_append, valid.used]
      exact .rfl
    case known =>
      intro left leftFree
      rw [map_append, mem_append, mem_append, valid.known left leftFree]
      exact .rfl

theorem mem_consider (member : pair ∈ (matching.consider candidate).pairs) :
    pair ∈ matching.pairs ∨ pair = candidate := by
  unfold consider at member
  split at member
  · exact .inl member
  · simpa using member

theorem run_valid (valid : matching.Valid free)
    (candidatesFree : ∀ candidate ∈ candidates, free candidate.1) :
    (matching.run candidates).Valid free := by
  induction candidates generalizing matching with
  | nil => exact valid
  | cons _ _ ih =>
    rw [forall_mem_cons] at candidatesFree
    exact ih (consider_valid valid candidatesFree.1) candidatesFree.2

theorem mem_run (member : pair ∈ (matching.run candidates).pairs) :
    pair ∈ matching.pairs ∨ pair ∈ candidates := by
  induction candidates generalizing matching with
  | nil => exact .inl member
  | cons candidate _ ih =>
    rcases ih member with earlier | later
    · rcases mem_consider earlier with fixed | taken
      · exact .inl fixed
      · exact .inr (mem_cons.mpr (.inl taken))
    · exact .inr (mem_cons_of_mem candidate later)

end GreedyMatching

end GreedyMatching

end Library
