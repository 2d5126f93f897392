import AccruviaHarness.Library.GreedyMatching

/-!
# What a greedy matching takes

Two pairs compete when they share a side. The pairs that a greedy run takes are
stable: every other candidate competes with a taken one that goes before it.
-/

namespace Library

open List

universe u v

section

variable {Left : Type u} {Right : Type v}

def Competes (first second : Left × Right) : Prop := first.1 = second.1 ∨ first.2 = second.2

/-- The chosen candidates do not compete with each other, and every other
candidate competes with a chosen one before it. -/
structure IsStable (isCandidate : Left × Right → Prop)
    (before : Left × Right → Left × Right → Prop)
    (chosen : Left × Right → Prop) : Prop where
  inside : ∀ pair, chosen pair → isCandidate pair
  apart : ∀ first second, chosen first → chosen second → Competes first second → first = second
  blocked : ∀ pair, isCandidate pair → ¬ chosen pair →
    ∃ other, chosen other ∧ before other pair ∧ Competes other pair

end

namespace GreedyMatching

section

variable {Left : Type u} {Right : Type v}
  [DecidableEq Left] [DecidableEq Right]

def Blocks (matching : GreedyMatching Left Right) (pair : Left × Right) :
    Prop :=
  pair.1 ∈ matching.usedLeft ∨ pair.2 ∈ matching.usedRight

variable {matching : GreedyMatching Left Right} {candidate : Left × Right}

theorem consider_of_blocks (blocks : matching.Blocks candidate) :
    matching.consider candidate = matching :=
  if_pos blocks

theorem consider_of_not_blocks (free : ¬ matching.Blocks candidate) :
    matching.consider candidate =
      { pairs := matching.pairs ++ [candidate], usedLeft := matching.usedLeft ++ [candidate.1]
        usedRight := matching.usedRight ++ [candidate.2] } :=
  if_neg free

theorem blocks_consider_of_not_blocks (free : ¬ matching.Blocks candidate) (pair : Left × Right) :
    (matching.consider candidate).Blocks pair ↔ matching.Blocks pair ∨ Competes candidate pair := by
  rw [consider_of_not_blocks free]
  unfold Blocks Competes
  simp only [mem_append, mem_singleton]
  constructor
  · rintro ((left | same) | right | same)
    · exact .inl (.inl left)
    · exact .inr (.inl same.symm)
    · exact .inl (.inr right)
    · exact .inr (.inr same.symm)
  · rintro ((left | right) | same | same)
    · exact .inl (.inl left)
    · exact .inr (.inl right)
    · exact .inl (.inr same.symm)
    · exact .inr (.inr same.symm)

variable {pair : Left × Right} {candidates : List (Left × Right)}

theorem mem_consider_of_mem (member : pair ∈ matching.pairs) :
    pair ∈ (matching.consider candidate).pairs := by
  unfold consider
  split
  · exact member
  · exact mem_append_left _ member

theorem mem_run_of_mem (member : pair ∈ matching.pairs) :
    pair ∈ (matching.run candidates).pairs := by
  induction candidates generalizing matching with
  | nil => exact member
  | cons _ _ ih => exact ih (mem_consider_of_mem member)

variable {before : Left × Right → Left × Right → Prop}

theorem mem_run_or_blocked (ordered : candidates.Pairwise before) (member : pair ∈ candidates) :
    pair ∈ (matching.run candidates).pairs ∨ matching.Blocks pair ∨
      ∃ other ∈ candidates, other ∈ (matching.run candidates).pairs ∧
        before other pair ∧ Competes other pair := by
  induction candidates generalizing matching with
  | nil => cases member
  | cons candidate rest ih =>
    obtain ⟨first, later⟩ := pairwise_cons.mp ordered
    by_cases blocks : matching.Blocks candidate
    · rcases mem_cons.mp member with rfl | inRest
      · exact .inr (.inl blocks)
      · have step : matching.run (candidate :: rest) = matching.run rest :=
          congrArg (fun next => run next rest) (consider_of_blocks blocks)
        rw [step]
        rcases ih later inRest with
          taken | blocked | ⟨other, otherMember, found⟩
        · exact .inl taken
        · exact .inr (.inl blocked)
        · exact .inr (.inr ⟨other, mem_cons_of_mem candidate otherMember, found⟩)
    · have taken : candidate ∈ (matching.run (candidate :: rest)).pairs := by
        have added : candidate ∈ (matching.consider candidate).pairs := by
          rw [consider_of_not_blocks blocks]
          exact mem_append_right _ (mem_singleton_self candidate)
        have kept : candidate ∈ ((matching.consider candidate).run rest).pairs :=
          mem_run_of_mem added
        exact kept
      rcases mem_cons.mp member with rfl | inRest
      · exact .inl taken
      · have continued := @ih (matching.consider candidate) later inRest
        rcases continued with here | blocked | ⟨other, otherMember, found⟩
        · exact .inl here
        · rcases (blocks_consider_of_not_blocks blocks pair).mp blocked with
            earlier | competes
          · exact .inr (.inl earlier)
          · exact .inr (.inr ⟨candidate, mem_cons_self, taken,
              first pair inRest, competes⟩)
        · exact .inr (.inr ⟨other, mem_cons_of_mem candidate otherMember, found⟩)

theorem isStable_run {free : Left → Prop} (valid : (matching.run candidates).Valid free)
    (ordered : candidates.Pairwise before)
    (unblocked : ∀ pair ∈ candidates, ¬ matching.Blocks pair) :
    IsStable (fun pair => pair ∈ candidates) before fun pair =>
      pair ∈ candidates ∧ pair ∈ (matching.run candidates).pairs := by
  refine ⟨fun pair chosen => chosen.1, ?apart, ?blocked⟩
  case apart =>
    rintro first second ⟨_, firstTaken⟩ ⟨_, secondTaken⟩ (left | right)
    · exact inj_on_of_nodup_map valid.leftDistinct firstTaken secondTaken
        left
    · exact inj_on_of_nodup_map valid.rightDistinct firstTaken secondTaken right
  case blocked =>
    intro pair member refused
    have considered : pair ∈ (matching.run candidates).pairs ∨ matching.Blocks pair ∨
          ∃ other ∈ candidates, other ∈ (matching.run candidates).pairs ∧
            before other pair ∧ Competes other pair :=
      mem_run_or_blocked ordered member
    rcases considered with
      taken | blocked | ⟨other, otherMember, taken, earlier, competes⟩
    · exact absurd ⟨member, taken⟩ refused
    · exact absurd blocked (unblocked pair member)
    · exact ⟨other, ⟨otherMember, taken⟩, earlier, competes⟩

variable {chosen : Left × Right → Prop}

/-- A run takes what is stable: when it comes to a candidate, the chosen ones
before it are those that block. -/
theorem mem_run_of_stable {seen rest : List (Left × Right)} (split : candidates = seen ++ rest)
    (ordered : candidates.Pairwise before)
    (antisymmetric : ∀ first ∈ candidates, ∀ second ∈ candidates,
      before first second → before second first → first = second)
    (stable : IsStable (fun pair => pair ∈ candidates) before chosen)
    (blocks : ∀ pair, matching.Blocks pair → pair ∈ candidates →
      ∃ other ∈ seen, chosen other ∧ Competes other pair)
    (blocked : ∀ other ∈ seen, chosen other → ∀ pair, Competes other pair → matching.Blocks pair)
    (taken : ∀ other ∈ seen, chosen other → other ∈ matching.pairs)
    (isChosen : chosen pair) :
    pair ∈ (matching.run rest).pairs := by
  induction rest generalizing matching seen with
  | nil =>
    have member := stable.inside pair isChosen
    rw [split, append_nil] at member
    exact taken pair member isChosen
  | cons candidate rest ih =>
    have inside : candidate ∈ candidates := by
      rw [split]
      exact mem_append_right _ mem_cons_self
    have next : candidates = (seen ++ [candidate]) ++ rest := by
      rw [split, append_assoc]
      rfl
    show pair ∈ ((matching.consider candidate).run rest).pairs
    by_cases refused : matching.Blocks candidate
    · rw [consider_of_blocks refused]
      have already : chosen candidate → candidate ∈ seen := by
        intro candidateChosen
        obtain ⟨other, otherSeen, otherChosen, competes⟩ := blocks candidate refused inside
        rw [← stable.apart other candidate otherChosen candidateChosen competes]
        exact otherSeen
      have seenBefore : ∀ other ∈ seen ++ [candidate], chosen other → other ∈ seen := by
        intro other member otherChosen
        rcases mem_append.mp member with here | last
        · exact here
        · rw [mem_singleton.mp last] at otherChosen ⊢
          exact already otherChosen
      refine ih next ?_ ?_ ?_
      · intro pair pairBlocked member
        obtain ⟨other, otherSeen, found⟩ := blocks pair pairBlocked member
        exact ⟨other, mem_append_left _ otherSeen, found⟩
      · intro other member otherChosen
        exact blocked other (seenBefore other member otherChosen) otherChosen
      · intro other member otherChosen
        exact taken other (seenBefore other member otherChosen) otherChosen
    · have candidateChosen : chosen candidate := by
        by_contra unchosen
        obtain ⟨other, otherChosen, earlier, competes⟩ := stable.blocked candidate inside unchosen
        have otherInside := stable.inside other otherChosen
        have member := otherInside
        rw [split] at member
        rcases mem_append.mp member with otherSeen | later
        · exact refused (blocked other otherSeen otherChosen candidate competes)
        · rcases mem_cons.mp later with same | inRest
          · exact unchosen (same ▸ otherChosen)
          · have sorted := ordered
            rw [split, pairwise_append] at sorted
            have after : before candidate other := (pairwise_cons.mp sorted.2.1).1 other inRest
            have same := antisymmetric other otherInside candidate inside earlier after
            exact unchosen (same ▸ otherChosen)
      have blocksNext := blocks_consider_of_not_blocks refused
      refine ih next ?_ ?_ ?_
      · intro pair pairBlocked member
        rcases (blocksNext pair).mp pairBlocked with earlier | competes
        · obtain ⟨other, otherSeen, found⟩ := blocks pair earlier member
          exact ⟨other, mem_append_left _ otherSeen, found⟩
        · exact ⟨candidate, mem_append_right _
            (mem_singleton_self candidate), candidateChosen, competes⟩
      · intro other member otherChosen pair competes
        rw [blocksNext pair]
        rcases mem_append.mp member with otherSeen | last
        · exact .inl (blocked other otherSeen otherChosen pair competes)
        · rw [mem_singleton.mp last] at competes
          exact .inr competes
      · intro other member otherChosen
        rcases mem_append.mp member with otherSeen | last
        · exact mem_consider_of_mem (taken other otherSeen otherChosen)
        · rw [mem_singleton.mp last, consider_of_not_blocks refused]
          exact mem_append_right _ (mem_singleton_self candidate)

theorem mem_run_of_isStable (ordered : candidates.Pairwise before)
    (antisymmetric : ∀ first ∈ candidates, ∀ second ∈ candidates,
      before first second → before second first → first = second)
    (unblocked : ∀ pair ∈ candidates, ¬ matching.Blocks pair)
    (stable : IsStable (fun pair => pair ∈ candidates) before chosen)
    (isChosen : chosen pair) :
    pair ∈ (matching.run candidates).pairs := by
  refine mem_run_of_stable (nil_append candidates).symm ordered
    antisymmetric stable ?blocks ?blocked ?taken isChosen
  case blocks =>
    intro pair blocked member
    exact absurd blocked (unblocked pair member)
  case blocked =>
    intro other member
    exact absurd member not_mem_nil
  case taken =>
    intro other member
    exact absurd member not_mem_nil

end

end GreedyMatching

end Library
