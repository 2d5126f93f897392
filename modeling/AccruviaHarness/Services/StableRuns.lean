import AccruviaHarness.Services.BranchService
import AccruviaHarness.Services.OutageAttempts

/-!
# Runs until a task is stable

`run_until_stable` runs a task again until it is completed or failed. A run
that found no backend leaves the task pending, so it does not bring the loop
closer to its end, however many of them there are.
-/

namespace AccruviaHarness

open Library List

/-- What the loop takes from outside: the answers of its `run_once` calls, by
their number, and those of the branches after each of them. -/
structure LoopAnswers where
  call : Nat → RunAnswers
  branches : Nat → BranchAnswers

namespace RunService

/-- `run_until_stable` from the call with the number on, with so many
`run_once` calls left; none where they do not suffice. -/
def runUntilStable (answers : LoopAnswers) (taskId : String) :
    Nat → Nat → Store → Option (Store × Except PyError (List Run))
  | callsLeft, number, store =>
    match store.getTask taskId with
    | none => some (store, .error (.valueError ("Unknown task: " ++ taskId)))
    | some task =>
      if task.status = .completed ∨ task.status = .failed then some (store, .ok [])
      else
        match callsLeft with
        | 0 => none
        | callsLeft + 1 =>
          match runOnce store taskId (answers.call number) with
          | (store, .error error) => some (store, .error error)
          | (store, .ok run) =>
            let latestDecision := (store.listDecisions run.id).getLast?
            if latestDecision.map Decision.action = some .branch then
              match resolveBranching store taskId
                (answers.branches number) with
              | (store, .error error) => some (store, .error error)
              | (store, .ok branchRuns) =>
                (runUntilStable answers taskId callsLeft (number + 1)
                  store).map fun (store, runs) =>
                    (store, runs.map fun later => run :: branchRuns ++ later)
            else
              (runUntilStable answers taskId callsLeft (number + 1)
                store).map fun (store, runs) => (store, runs.map fun later => run :: later)

/-- The loop ends with so many `run_once` calls, in a result or in an
exception. -/
def HaltsWithin (answers : LoopAnswers) (taskId : String) (store : Store) (bound : Nat) : Prop :=
  (runUntilStable answers taskId bound 0 store).isSome

/-- The call with the number ends the loop: it raises, or its work is analysed
and either promoted or that of an attempt that uses up the budget. -/
def EndsLoop (store : Store) (task : Task) (answers : LoopAnswers) (number : Nat) : Prop :=
  objectiveGateBlock store task ≠ none ∨ store.getProject task.projectId = none ∨
      (∃ run ∈ store.runs.rows, run.id = (answers.call number).runId) ∨
        (∃ earlier < number, (answers.call earlier).runId = (answers.call number).runId) ∨
          (∃ error, (answers.call number).workResult = .error error) ∨
            isUnavailable (answers.call number) = false ∧
              (AnalysisAccepts store task (answers.call number) ∨
                task.maxAttempts ≤ store.nextAttempt task.id + number)

/-- The foreign key of `decisions`. -/
def DecisionsOfRuns (store : Store) : Prop :=
  ∀ decision ∈ store.decisions, ∃ run ∈ store.runs.rows,
    run.id = decision.runId

def callsBefore (answers : LoopAnswers) (number : Nat) : List RunAnswers :=
  (List.range number).map answers.call

theorem callsBefore_succ (answers : LoopAnswers) (number : Nat) :
    callsBefore answers (number + 1) = callsBefore answers number ++ [answers.call number] := by
  simp [callsBefore, range_succ]

theorem mem_runIds_callsBefore {runId : String} :
    runId ∈ (callsBefore answers number).map RunAnswers.runId ↔
      ∃ earlier < number, (answers.call earlier).runId = runId := by
  simp [callsBefore]

structure Round (start : Store) (task : Task) (answers : LoopAnswers)
    (number : Nat) (store : Store) : Prop where
  after : After start task (callsBefore answers number) store
  unfinished : Unfinished store task.id
  decisions : DecisionsOfRuns store

theorem Round.first {start : Store} {task : Task} (answers : LoopAnswers)
    (found : start.getTask task.id = some task)
    (unfinished : ¬ (task.status = .completed ∨ task.status = .failed))
    (decisions : DecisionsOfRuns start) : Round start task answers 0 start := by
  refine ⟨.nil found, ?_, decisions⟩
  intro other stored
  rw [found] at stored
  cases stored
  exact unfinished

variable {start store next : Store} {task : Task} {answers : LoopAnswers}
  {number : Nat}

theorem Round.runnable (round : Round start task answers number store)
    (goesOn : ¬ EndsLoop start task answers number) :
    ∃ current work, Runnable store task.id (answers.call number) current work := by
  simp only [EndsLoop, not_or] at goesOn
  obtain ⟨unblocked, project, unused, apart, worked, _⟩ := goesOn
  obtain ⟨_, found⟩ := round.after.found
  cases returned : (answers.call number).workResult with
  | error error => exact absurd ⟨error, returned⟩ worked
  | ok work =>
    refine ⟨_, work, found, round.unfinished _ found, ?_, ?_, returned, ?_⟩
    · rw [round.after.gate]
      exact not_not.mp unblocked
    · rw [Store.getProject, round.after.projects]
      exact project
    · intro run member same
      rcases round.after.runIds run member with
        ⟨earlier, earlierMember, named⟩ | used
      · exact unused ⟨earlier, earlierMember, named.trans same⟩
      · obtain ⟨earlier, before, named⟩ := mem_runIds_callsBefore.mp used
        exact apart ⟨earlier, before, named.trans same⟩

variable {current : Task} {work : WorkResult} {taskId : String} {run : Run}

theorem Round.endsLoop_iff (round : Round start task answers number store)
    (runnable : Runnable store task.id (answers.call number) current work) :
    EndsLoop start task answers number ↔ isUnavailable (answers.call number) = false ∧
        (AnalysisAccepts start task (answers.call number) ∨
          task.maxAttempts ≤ start.nextAttempt task.id + number) := by
  obtain ⟨_, found⟩ := round.after.found
  have same := runnable.found
  rw [found] at same
  cases same
  have unblocked : ¬ objectiveGateBlock start task ≠ none := by
    have open? := runnable.unblocked
    rw [round.after.gate] at open?
    exact not_not_intro open?
  have project : ¬ start.getProject task.projectId = none := by
    have known := runnable.project
    rw [Store.getProject, round.after.projects] at known
    exact known
  have unused : ¬ ∃ run ∈ start.runs.rows,
      run.id = (answers.call number).runId := by
    rintro ⟨run, member, named⟩
    obtain ⟨stored, storedMember, same⟩ := round.after.oldIds run member
    exact runnable.fresh stored storedMember (same.trans named)
  have apart : ¬ ∃ earlier < number,
      (answers.call earlier).runId = (answers.call number).runId := by
    rintro ⟨earlier, before, named⟩
    have used : answers.call earlier ∈ callsBefore answers number :=
      mem_map.mpr ⟨earlier, mem_range.mpr before, rfl⟩
    obtain ⟨stored, storedMember, same⟩ := round.after.usedIds _ used
    exact runnable.fresh stored storedMember (same.trans named)
  have worked : ¬ ∃ error, (answers.call number).workResult = .error error := by
    rw [runnable.worked]
    rintro ⟨_, raised⟩
    cases raised
  unfold EndsLoop
  rw [or_iff_right unblocked, or_iff_right project, or_iff_right unused,
    or_iff_right apart, or_iff_right worked]

/-! ## One round -/

theorem runUntilStable_of_final {taskId : String} (final : BranchService.IsFinal store taskId)
    (callsLeft : Nat) :
    runUntilStable answers taskId callsLeft number store = some (store, .ok []) := by
  obtain ⟨_, found, settled⟩ := final
  cases callsLeft with
  | zero => simp [runUntilStable, found, settled]
  | succ _ => simp [runUntilStable, found, settled]

variable {call : RunAnswers} {status : TaskStatus}

theorem listDecisions_of_leaves (decisions : DecisionsOfRuns store)
    (fresh : ∀ other ∈ store.runs.rows, other.id ≠ call.runId)
    (named : run.id = call.runId)
    (leaves : Leaves store store.runs.rows taskId run
      (chosenOn store current call work) status next) :
    next.listDecisions run.id = (chosenOn store current call work).toList := by
  have earlier : store.decisions.filter (fun decision =>
      decision.runId = run.id) = [] := by
    rw [filter_eq_nil_iff]
    intro decision member
    obtain ⟨other, stored, own⟩ := decisions decision member
    have different := fresh other stored
    rw [own] at different
    simpa [named] using different
  unfold Store.listDecisions
  rw [leaves.decisions, filter_append, earlier, nil_append]
  unfold chosenOn
  by_cases unavailable : backendsUnavailable work = true
  · rw [if_pos unavailable]
    rfl
  · rw [if_neg unavailable, named]
    simp [decisionRow, orderBy]

theorem DecisionsOfRuns.of_leaves (decisions : DecisionsOfRuns store) (named : run.id = call.runId)
    (leaves : Leaves store store.runs.rows taskId run
      (chosenOn store current call work) status next) :
    DecisionsOfRuns next := by
  intro decision member
  rw [leaves.decisions, mem_append] at member
  rw [leaves.runs]
  rcases member with earlier | own
  · obtain ⟨other, stored, same⟩ := decisions decision earlier
    exact ⟨other, mem_append_left _ stored, same⟩
  · refine ⟨run, mem_append_right _ mem_cons_self, ?_⟩
    unfold chosenOn at own
    by_cases unavailable : backendsUnavailable work = true
    · rw [if_pos unavailable] at own
      cases own
    · rw [if_neg unavailable] at own
      rw [mem_singleton.mp own, named]
      rfl

theorem Round.decision (round : Round start task answers number store)
    (runnable : Runnable store task.id (answers.call number) current work) :
    runDecision store current (answers.call number) work =
      DefaultDecider.decide (runAnalysis start task (answers.call number) work)
        { newRun start task (answers.call number) with
          attempt := start.nextAttempt task.id + number } task := by
  have length : (callsBefore answers number).length = number := by simp [callsBefore]
  rw [round.after.decision runnable.fresh runnable.found, length]

theorem Round.goesOn_iff (round : Round start task answers number store)
    (runnable : Runnable store task.id (answers.call number) current work) :
    ¬ EndsLoop start task answers number ↔ backendsUnavailable work = true ∨
        (runDecision store current (answers.call number) work).action =
          .retry := by
  have accepts : AnalysisAccepts start task (answers.call number) ↔
      (runAnalysis start task (answers.call number) work).Accepted := by
    unfold AnalysisAccepts
    rw [runnable.worked]
    simp
  rw [round.endsLoop_iff runnable, round.decision runnable,
    DefaultDecider.decide_retry_iff, accepts, isUnavailable_eq runnable.worked]
  cases backendsUnavailable work with
  | true => simp
  | false => simp

theorem runUntilStable_succ (goesOn : Unfinished store taskId)
    (found : store.getTask taskId = some current) (callsLeft : Nat) :
    runUntilStable answers taskId (callsLeft + 1) number store =
      match runOnce store taskId (answers.call number) with
      | (left, .error error) => some (left, .error error)
      | (left, .ok run) =>
        if (left.listDecisions run.id).getLast?.map Decision.action = some .branch then
          match resolveBranching left taskId (answers.branches number) with
          | (left, .error error) => some (left, .error error)
          | (left, .ok branchRuns) =>
            (runUntilStable answers taskId callsLeft (number + 1)
              left).map fun (left, runs) => (left, runs.map fun later => run :: branchRuns ++ later)
        else
          (runUntilStable answers taskId callsLeft (number + 1)
            left).map fun (left, runs) =>
              (left, runs.map fun later => run :: later) := by
  conv_lhs => unfold runUntilStable
  simp only [found, if_neg (goesOn current found)]

theorem Round.goesOn (round : Round start task answers number store)
    (stays : ¬ EndsLoop start task answers number) :
    ∃ next run, Round start task answers (number + 1) next ∧
      runOnce store task.id (answers.call number) = (next, .ok run) ∧
        NextRun store task.id (answers.call number) run ∧
          next.runs.rows = store.runs.rows ++ [run] ∧
            ∀ callsLeft, runUntilStable answers task.id (callsLeft + 1) number store =
                (runUntilStable answers task.id callsLeft (number + 1)
                  next).map fun (left, runs) =>
                    (left, runs.map fun later => run :: later) := by
  obtain ⟨_, _, runnable⟩ := round.runnable stays
  obtain ⟨next, run, ended, nextRun, leaves⟩ := runnable.ends
  have continues := (round.goesOn_iff runnable).mp stays
  have listed := listDecisions_of_leaves round.decisions runnable.fresh nextRun.named leaves
  refine ⟨next, run, ⟨?_, ?_, round.decisions.of_leaves nextRun.named leaves⟩, ended, nextRun,
    leaves.runs, ?_⟩
  · rw [callsBefore_succ]
    exact round.after.call nextRun leaves
  · rw [unfinished_iff runnable.found leaves]
    unfold statusAfter
    rcases continues with unavailable | retry
    · rw [if_pos unavailable]
      decide
    · rw [retry]
      split <;> decide
  · intro callsLeft
    have notBranch : (next.listDecisions run.id).getLast?.map Decision.action ≠ some .branch := by
      rw [listed]
      unfold chosenOn
      rcases continues with unavailable | retry
      · rw [if_pos unavailable]
        exact nofun
      · split
        · exact nofun
        · simp [decisionRow, retry]
    rw [runUntilStable_succ round.unfinished runnable.found, ended]
    simp only [if_neg notBranch]

structure LastCall (start : Store) (task : Task) (answers : LoopAnswers)
    (number : Nat) (store next : Store) (run : Run) (current : Task)
    (work : WorkResult) : Prop where
  runnable : Runnable store task.id (answers.call number) current work
  nextRun : NextRun store task.id (answers.call number) run
  leaves : Leaves store store.runs.rows task.id run
    (chosenOn store current (answers.call number) work)
    (statusAfter store current (answers.call number) work) next
  available : ¬ backendsUnavailable work = true
  notRetry :
    (runDecision store current (answers.call number) work).action ≠ .retry
  chosen : (next.listDecisions run.id).getLast?.map Decision.action =
    some (runDecision store current (answers.call number) work).action

theorem Round.lastCall (round : Round start task answers number store)
    (stops : EndsLoop start task answers number)
    (ended : runOnce store task.id (answers.call number) = (next, .ok run)) :
    ∃ current work, LastCall start task answers number store next run current work := by
  obtain ⟨current, work, runnable⟩ := runnable_of_ok ended
  obtain ⟨_, _, again, nextRun, leaves⟩ := runnable.ends
  rw [ended] at again
  cases again
  have decided := mt (round.goesOn_iff runnable).mpr (not_not_intro stops)
  rw [not_or] at decided
  obtain ⟨available, notRetry⟩ := decided
  have listed := listDecisions_of_leaves round.decisions runnable.fresh nextRun.named leaves
  have chosen : (next.listDecisions run.id).getLast?.map Decision.action =
      some (runDecision store current (answers.call number) work).action := by
    rw [listed]
    unfold chosenOn
    rw [if_neg available]
    simp [decisionRow]
  exact ⟨current, work, runnable, nextRun, leaves, available, notRetry, chosen⟩

theorem LastCall.settles (last : LastCall start task answers number store next run current work)
    (notBranch :
      (runDecision store current (answers.call number) work).action ≠ .branch) :
    BranchService.IsFinal next task.id := by
  refine ⟨{ current with
    status := statusAfter store current (answers.call number) work }, ?_, ?_⟩
  · exact last.leaves.getTask last.runnable.found
  · dsimp only
    unfold statusAfter
    rw [if_neg last.available]
    cases action :
        (runDecision store current (answers.call number) work).action with
    | retry => exact absurd action last.notRetry
    | branch => exact absurd action notBranch
    | promote => exact .inl rfl
    | fail => exact .inr rfl

theorem Round.ends (round : Round start task answers number store)
    (stops : EndsLoop start task answers number) (callsLeft : Nat) :
    (runUntilStable answers task.id (callsLeft + 1) number store).isSome := by
  obtain ⟨_, found⟩ := round.after.found
  rw [runUntilStable_succ round.unfinished found]
  rcases ended : runOnce store task.id (answers.call number) with
    ⟨next, error | _⟩
  · rfl
  · obtain ⟨current, work, last⟩ := round.lastCall stops ended
    dsimp only
    by_cases branch :
        (runDecision store current (answers.call number) work).action = .branch
    · rw [last.chosen, branch, if_pos rfl]
      rcases resolved : resolveBranching next task.id (answers.branches number) with ⟨_, _ | _⟩
      · rfl
      · simp only [Option.isSome_map]
        rw [runUntilStable_of_final (resolveBranching_settles resolved)]
        rfl
    · rw [last.chosen, if_neg (by simpa using branch), Option.isSome_map,
        runUntilStable_of_final (last.settles branch)]
      rfl

/-! ## The whole loop -/

theorem Round.halts_iff (round : Round start task answers number store) (callsLeft : Nat) :
    (runUntilStable answers task.id callsLeft number store).isSome ↔
      ∃ index < callsLeft, EndsLoop start task answers (number + index) := by
  induction callsLeft generalizing number store with
  | zero =>
    obtain ⟨_, found⟩ := round.after.found
    have goesOn := round.unfinished _ found
    simp [runUntilStable, found, goesOn]
  | succ callsLeft ih =>
    by_cases stops : EndsLoop start task answers number
    · exact iff_of_true (round.ends stops callsLeft) ⟨0, Nat.succ_pos callsLeft, stops⟩
    · obtain ⟨_, _, nextRound, _, _, _, same⟩ := round.goesOn stops
      rw [same, Option.isSome_map, ih nextRound]
      constructor
      · rintro ⟨index, before, ends⟩
        refine ⟨index + 1, by omega, ?_⟩
        rw [show number + (index + 1) = number + 1 + index by omega]
        exact ends
      · rintro ⟨index, _, ends⟩
        cases index with
        | zero => exact absurd ends stops
        | succ index =>
          refine ⟨index, by omega, ?_⟩
          rw [show number + 1 + index = number + (index + 1) by omega]
          exact ends

/-- The loop ends with so many calls, if and only if the task is unknown or
has a final status, or one of the calls ends it. -/
theorem runUntilStable_halts_iff
    (answers : LoopAnswers) (taskId : String) (store : Store) (bound : Nat)
    (decisions : DecisionsOfRuns store) :
    HaltsWithin answers taskId store bound ↔ ∀ task, store.getTask taskId = some task →
        (task.status = .completed ∨ task.status = .failed) ∨
          ∃ number < bound, EndsLoop store task answers number := by
  unfold HaltsWithin
  cases found : store.getTask taskId with
  | none =>
    have ended : (runUntilStable answers taskId bound 0 store).isSome = true := by
      cases bound <;> simp [runUntilStable, found]
    refine iff_of_true ended ?_
    intro task impossible
    cases impossible
  | some task =>
    obtain rfl : task.id = taskId := (store.tasks.lookup_eq_some_iff.mp found).2
    simp only [Option.some.injEq, forall_eq']
    by_cases final : task.status = .completed ∨ task.status = .failed
    · rw [runUntilStable_of_final ⟨task, found, final⟩]
      exact iff_of_true rfl (.inl final)
    · have round := Round.first answers found final decisions
      rw [round.halts_iff, or_iff_right final]
      simp

def everyCallOutage : LoopAnswers where
  call number := { outage with runId := String.ofList (.replicate number 'r') }
  branches _ := { branchId := "branch", run := fun _ => outage }

theorem not_endsLoop_outage (number : Nat) :
    ¬ EndsLoop twoAttemptsStore twoAttemptsTask everyCallOutage number := by
  have apart : ∀ earlier < number, (everyCallOutage.call earlier).runId ≠
        (everyCallOutage.call number).runId := by
    intro earlier before same
    have lengths := congrArg (fun text => text.toList.length) same
    simp only [everyCallOutage, String.toList_ofList, length_replicate]
      at lengths
    omega
  rintro (gate | project | ⟨run, member, _⟩ | ⟨earlier, before, same⟩ |
    ⟨error, raised⟩ | ⟨available, _⟩)
  · exact gate rfl
  · cases project
  · cases member
  · exact apart earlier before same
  · cases raised
  · cases available

theorem not_halts_without_backends : ¬ HaltsWithin everyCallOutage "task" twoAttemptsStore 5 := by
  intro halts
  rcases (runUntilStable_halts_iff everyCallOutage "task" twoAttemptsStore 5
    nofun).mp halts twoAttemptsTask rfl with final | ⟨number, _, ends⟩
  · exact absurd final (by decide)
  · exact not_endsLoop_outage number ends

theorem not_runUntilStable_bounded :
    ¬ ∃ bound : Int → Int → Nat,
      ∀ (answers : LoopAnswers) (store : Store) (task : Task),
        (∀ number, ∃ work, (answers.call number).workResult = .ok work) →
          store.getTask task.id = some task → HaltsWithin answers task.id store
              (bound task.maxAttempts task.maxBranches) := by
  rintro ⟨_, bounded⟩
  have halts := bounded everyCallOutage twoAttemptsStore twoAttemptsTask (fun _ => ⟨_, rfl⟩) rfl
  have round := Round.first everyCallOutage
    (rfl : twoAttemptsStore.getTask twoAttemptsTask.id = some twoAttemptsTask)
    (by decide) nofun
  obtain ⟨_, _, ends⟩ := (round.halts_iff _).mp halts
  exact not_endsLoop_outage _ ends

end RunService

end AccruviaHarness
