import AccruviaHarness.Services.BranchRuns
import AccruviaHarness.Services.StableRuns

/-!
# The runs that the loop returns

`run_until_stable` returns its runs and, where its last one branches, those of
the branches, as they were before the winner was selected.
-/

namespace AccruviaHarness

open Library

namespace RunService

open BranchService

/-! ## The time of a run -/

variable {work : WorkResult} {run : Run}

theorem createdAt_workPhase {answers : RunAnswers}
    (ended : workPhase store task answers = (next, .ok (work, run))) :
    run.createdAt = answers.now := by
  unfold workPhase at ended
  cases inserted : store.createRun (newRun store task answers) with
  | none =>
    simp only [inserted] at ended
    cases ended
  | some _ =>
    simp only [inserted] at ended
    cases worked : answers.workResult with
    | error _ =>
      simp only [worked] at ended
      cases ended
    | ok _ =>
      simp only [worked] at ended
      split at ended
      · split at ended
        · cases ended
        · cases ended
          rfl
      · cases ended
        rfl

variable {finished : Run} {first callsLeft : Nat} {runs : List Run}

theorem createdAt_concludeRun {answers : RunAnswers}
    (ended : concludeRun store task run work answers = (next, .ok finished)) :
    finished.createdAt = run.createdAt := by
  unfold concludeRun at ended
  dsimp only at ended
  split at ended
  · cases ended
  · cases ended
    rfl

theorem createdAt_validationPhase {answers : RunAnswers}
    (ended : validationPhase store task run work answers = (next, .ok finished)) :
    finished.createdAt = run.createdAt := by
  unfold validationPhase at ended
  split at ended
  · exact createdAt_concludeRun ended
  · exact createdAt_concludeRun ended

theorem createdAt_runOnceInner {answers : RunAnswers}
    (ended : runOnceInner store task answers = (next, .ok run)) :
    run.createdAt = answers.now := by
  unfold runOnceInner at ended
  rcases worked : workPhase store task answers with
    ⟨_, _ | ⟨_, _⟩⟩
  · simp only [worked] at ended
    cases ended
  · simp only [worked] at ended
    have created := createdAt_workPhase worked
    split at ended
    · cases ended
      exact created
    · exact (createdAt_validationPhase ended).trans created

theorem createdAt_runOnce {taskId : String} {answers : RunAnswers}
    (ended : runOnce store taskId answers = (next, .ok run)) :
    run.createdAt = answers.now := by
  unfold runOnce at ended
  split at ended
  · cases ended
  split at ended
  · cases ended
  split at ended
  · cases ended
  split at ended
  · cases ended
  split at ended
  · cases ended
  split at ended
  · rename_i inner
    cases ended
    exact createdAt_runOnceInner inner
  · cases ended

/-! ## The branching that ends a loop -/

instance inconclusiveDecidable (analysis : AnalyzeResult) : Decidable analysis.Inconclusive :=
  inferInstanceAs (Decidable (_ ∧ _))

def BranchesAt (store : Store) (task : Task) (answers : LoopAnswers) (number : Nat) : Prop :=
  (∃ work ∈ (answers.call number).workResult.toOption,
      (runAnalysis store task (answers.call number) work).Inconclusive) ∧
    task.maxAttempts ≤ store.nextAttempt task.id + number ∧ 1 < task.maxBranches

instance branchesAtDecidable (store : Store) (task : Task) (answers : LoopAnswers) (number : Nat) :
    Decidable (BranchesAt store task answers number) :=
  inferInstanceAs (Decidable (_ ∧ _))

def WinsAt (store : Store) (task : Task) (answers : LoopAnswers) (number : Nat) : Prop :=
  BranchesAt store task answers number ∧ HasWinner store task (answers.branches number)
      (store.nextAttempt task.id + (number + 1))

def creationTimes (store : Store) (task : Task) (answers : LoopAnswers)
    (first last : Nat) : List Int :=
  (List.range' first (last - first)).map (fun number =>
      (answers.call number).now) ++
    (answers.call last).now ::
      if BranchesAt store task answers last then
        (List.range task.maxBranches.toNat).map fun index => ((answers.branches last).run index).now
      else []

theorem creationTimes_succ (store : Store) (task : Task) (answers : LoopAnswers) {last : Nat}
    (before : first < last) :
    creationTimes store task answers first last = (answers.call first).now ::
        creationTimes store task answers (first + 1) last := by
  have length : last - first = (last - (first + 1)) + 1 := by omega
  unfold creationTimes
  rw [length, List.range'_succ, List.map_cons, List.cons_append]

def NewBranches (store : Store) (answers : LoopAnswers) : Prop :=
  ∀ number, ∀ run ∈ store.runs.rows, run.branchId ≠ some (answers.branches number).branchId

theorem NewBranches.append (newBranches : NewBranches store answers)
    (rows : next.runs.rows = store.runs.rows ++ [run])
    (outside : run.branchId = none) : NewBranches next answers := by
  intro number other member
  rw [rows, List.mem_append, List.mem_singleton] at member
  rcases member with earlier | rfl
  · exact newBranches number other earlier
  · simp [outside]

variable {start store next final : Store} {task : Task}
  {answers : LoopAnswers} {number : Nat}

theorem LastCall.branch_iff {current : Task} (round : Round start task answers number store)
    (last : LastCall start task answers number store next run current work) :
    (runDecision store current (answers.call number) work).action = .branch ↔
      BranchesAt start task answers number := by
  have worked := last.runnable.worked
  rw [round.decision last.runnable, DefaultDecider.decide_branch_iff]
  unfold BranchesAt
  rw [worked]
  have alone : (newRun start task (answers.call number)).branchId = none := rfl
  simp [Except.toOption, alone]

theorem contends_congr {earlier later : Store} {branch : RunAnswers} {first second : Run}
    (sameId : first.id = second.id)
    (artifacts :
      (later.artifacts.filter fun artifact => artifact.runId = first.id) =
        earlier.artifacts.filter fun artifact => artifact.runId = first.id) :
    Contends later task branch first ↔ Contends earlier task branch second := by
  have recorded : ∀ work, recordedArtifacts later branch first work =
      recordedArtifacts earlier branch second work := by
    intro work
    have rows : artifactRows branch first work.artifacts =
        artifactRows branch second work.artifacts := by
      unfold artifactRows
      rw [sameId]
    unfold recordedArtifacts
    rw [List.filter_append, List.filter_append, artifacts, rows, sameId]
  unfold Contends
  simp only [recorded]

theorem After.hasWinner_iff {calls : List RunAnswers} {branches : BranchAnswers} {attempt : Int}
    (after : After start task calls next)
    (fresh : ∀ index < task.maxBranches.toNat, ∀ run ∈ next.runs.rows,
      run.id ≠ (branches.run index).runId) :
    HasWinner next task branches attempt ↔ HasWinner start task branches attempt := by
  have same : ∀ index < task.maxBranches.toNat, (Contends next task (branches.run index)
          (branchRun task branches attempt task.maxBranches index) ↔
        Contends start task (branches.run index)
          (branchRun task branches attempt task.maxBranches index)) := by
    intro index inRange
    apply contends_congr rfl
    apply after.artifacts
    intro used
    obtain ⟨call, member, sameId⟩ := List.mem_map.mp used
    obtain ⟨run, stored, named⟩ := after.usedIds call member
    exact fresh index inRange run stored (named.trans sameId)
  unfold HasWinner
  constructor
  · rintro ⟨index, inRange, contends⟩
    exact ⟨index, inRange, (same index inRange).mp contends⟩
  · rintro ⟨index, inRange, contends⟩
    exact ⟨index, inRange, (same index inRange).mpr contends⟩

theorem Round.collects (round : Round start task answers number store)
    (stops : EndsLoop start task answers number)
    (newBranches : NewBranches store answers)
    (ended : runUntilStable answers task.id (callsLeft + 1) number store = some (final, .ok runs)) :
    CollectedRuns store task.id (creationTimes start task answers number number)
      (WinsAt start task answers number) runs final := by
  obtain ⟨status, found⟩ := round.after.found
  rw [runUntilStable_succ round.unfinished found] at ended
  rcases called : runOnce store task.id (answers.call number) with
    ⟨next, error | run⟩
  · simp only [called] at ended
    cases ended
  · simp only [called] at ended
    obtain ⟨_, _, last⟩ := round.lastCall stops called
    have own := last.nextRun.ofTask
    have time := createdAt_runOnce called
    have rows := last.leaves.runs
    have branches := last.branch_iff round
    by_cases branching : BranchesAt start task answers number
    · rw [last.chosen, branches.mpr branching, if_pos rfl] at ended
      rcases resolved : resolveBranching next task.id
        (answers.branches number) with ⟨left, _ | branchRuns⟩
      · simp only [resolved] at ended
        cases ended
      · simp only [resolved] at ended
        rw [runUntilStable_of_final (resolveBranching_settles resolved)]
          at ended
        cases ended
        have after := round.after.call last.nextRun last.leaves
        obtain ⟨reached, activeFound⟩ := after.found
        have newBranch := newBranches.append rows last.nextRun.branchId number
        have collected : CollectedRuns next task.id ((List.range task.maxBranches.toNat).map
              fun index => ((answers.branches number).run index).now)
            (HasWinner next task (answers.branches number)
              (next.nextAttempt task.id)) branchRuns left :=
          @resolveBranching_collects next left { task with status := reached }
            _ _ activeFound newBranch resolved
        have fresh : ∀ index < task.maxBranches.toNat,
            ∀ run ∈ next.runs.rows, run.id ≠ ((answers.branches number).run index).runId :=
          @resolveBranching_fresh next left { task with status := reached } _ _ activeFound resolved
        have wins := @After.hasWinner_iff _ _ task _ (answers.branches number)
          (next.nextAttempt task.id) after fresh
        have times : creationTimes start task answers number number = (answers.call number).now ::
              (List.range task.maxBranches.toNat).map fun index =>
                ((answers.branches number).run index).now := by
          simp [creationTimes, branching]
        have attempt : next.nextAttempt task.id = start.nextAttempt task.id + (number + 1) := by
          have counted := after.attempt
          simp only [callsBefore, List.length_append, List.length_map,
            List.length_range, List.length_singleton] at counted
          exact_mod_cast counted
        dsimp only
        rw [List.append_nil, times, ← time]
        apply (CollectedRuns.cons rows own collected).of_iff
        rw [wins, attempt]
        exact (and_iff_right branching).symm
    · have notBranch := mt branches.mp branching
      rw [last.chosen, if_neg (by simpa using notBranch),
        runUntilStable_of_final (last.settles notBranch)] at ended
      cases ended
      have nothing := CollectedRuns.nil next task.id
      have collected := CollectedRuns.cons rows own nothing
      rw [time] at collected
      have times : creationTimes start task answers number number =
          [(answers.call number).now] := by
        simp [creationTimes, branching]
      rw [times]
      apply collected.of_iff
      simp [WinsAt, branching]

def FirstEnding (store : Store) (task : Task) (answers : LoopAnswers) (first number : Nat) : Prop :=
  first ≤ number ∧ EndsLoop store task answers number ∧
    ∀ earlier, first ≤ earlier → earlier < number → ¬ EndsLoop store task answers earlier

theorem FirstEnding.unique {other : Nat} (one : FirstEnding start task answers first number)
    (another : FirstEnding start task answers first other) :
    number = other := by
  have notBefore := one.2.2 other another.1
  have notAfter := another.2.2 number one.1
  have ends := one.2.1
  have endsToo := another.2.1
  by_cases before : number < other
  · exact absurd ends (notAfter before)
  · by_cases after : other < number
    · exact absurd endsToo (notBefore after)
    · omega

theorem Round.returns (round : Round start task answers number store)
    (newBranches : NewBranches store answers)
    (ended : runUntilStable answers task.id callsLeft number store = some (final, .ok runs)) :
    ∃ last, FirstEnding start task answers number last ∧ CollectedRuns store task.id
        (creationTimes start task answers number last)
        (WinsAt start task answers last) runs final := by
  induction callsLeft generalizing number store runs with
  | zero =>
    obtain ⟨_, found⟩ := round.after.found
    have goesOn := round.unfinished _ found
    simp [runUntilStable, found, goesOn] at ended
  | succ _ ih =>
    by_cases stops : EndsLoop start task answers number
    · refine ⟨number, ⟨Nat.le_refl number, stops, ?_⟩, round.collects stops newBranches ended⟩
      intro earlier after before
      omega
    · obtain ⟨_, run, nextRound, called, nextRun, rows, same⟩ := round.goesOn stops
      rw [same, Option.map_eq_some_iff] at ended
      obtain ⟨⟨_, outcome⟩, rest, ended⟩ := ended
      obtain ⟨rfl, collected⟩ := Prod.ext_iff.mp ended
      cases outcome with
      | error _ => cases collected
      | ok later =>
        obtain rfl : run :: later = runs := Except.ok.inj collected
        have nextBranches := newBranches.append rows nextRun.branchId
        obtain ⟨last, ⟨after, ends, first⟩, restCollected⟩ := ih nextRound nextBranches rest
        refine ⟨last, ⟨by omega, ends, ?_⟩, ?_⟩
        · intro earlier notBefore before
          by_cases own : earlier = number
          · rw [own]
            exact stops
          · exact first earlier (by omega) before
        · rw [creationTimes_succ start task answers after, ← createdAt_runOnce called]
          exact CollectedRuns.cons rows nextRun.ofTask restCollected

end RunService

end AccruviaHarness
