import AccruviaHarness.Library.Runs
import AccruviaHarness.Services.QueueService

/-!
# The attempt budget of a task

Tasks are driven by `process_next_task` and `recover_stale_state` alone.
-/

namespace AccruviaHarness

open Library List

/-- A `process_next_task` call whose worker returns a result, and not the one
that reports that no backend is reachable. -/
structure AnsweredRequest where
  request : DispatchRequest
  work : WorkResult
  answered : request.answers.workResult = .ok work
  available : RunService.backendsUnavailable work = false

inductive QueueEvent where
  | processNextTask (call : AnsweredRequest)
  | recoverStaleState (now : Int)

namespace AttemptBudget

open QueueService RunService

def step (store : Store) : QueueEvent → Option Store
  | .processNextTask call => some (processNextTask store call.request).1
  | .recoverStaleState now => some (store.recoverStaleState now).1

variable (store : Store)

def Settled (task : Task) : Prop :=
  task.status = .completed ∨ task.status = .failed ∨
    ∃ winner ∈ store.runs.rows, winner.taskId = task.id ∧
      winner.branchId ≠ none ∧ winner.status = .completed

instance (store : Store) (task : Task) : Decidable (Settled store task) :=
  inferInstanceAs (Decidable (_ ∨ _))

def LastAttemptsSettled : Prop :=
  ∀ task ∈ store.tasks.rows, ∀ run ∈ store.runs.rows,
    run.taskId = task.id → task.maxAttempts ≤ run.attempt → Settled store task

instance (store : Store) : Decidable (LastAttemptsSettled store) :=
  inferInstanceAs (Decidable (∀ task ∈ _, ∀ run ∈ _, _ → _ → _))

def RunsBounded : Prop :=
  ∀ task ∈ store.tasks.rows, ((store.runsOf task.id).length : Int) ≤
      task.maxAttempts + task.maxBranches

instance (store : Store) : Decidable (RunsBounded store) :=
  inferInstanceAs (Decidable (∀ task ∈ _, _))

def InconclusiveRun (task : Task) (answers : RunAnswers) (work : WorkResult) : Prop :=
  let run := newRun store task answers
  (analysedWork run answers work).Inconclusive task
    ((analysedArtifacts store run answers work).map Artifact.kind)

/-- The work of the run that the call starts, if it is the last attempt of a
task with several branches, is not inconclusive. -/
def LastAttemptConclusive : QueueEvent → Prop
  | .processNextTask call =>
    ∀ leased task,
      call.request.llmAvailable = true → dispatch store call.request = (leased, .leased task) →
          store.getProject task.projectId ≠ none →
            (∀ run ∈ store.runs.rows, run.id ≠ call.request.answers.runId) →
              task.maxAttempts ≤ store.nextAttempt task.id → 1 < task.maxBranches →
                  ¬ InconclusiveRun leased task call.request.answers call.work
  | .recoverStaleState _ => True

/-- Tasks that have not been run, with the bounds that `create_task` checks. -/
structure Unstarted (store : Store) : Prop where
  noRuns : store.runs.rows = []
  attempts : ∀ task ∈ store.tasks.rows, 1 ≤ task.maxAttempts
  branches : ∀ task ∈ store.tasks.rows, 1 ≤ task.maxBranches

def attemptsOf (taskId : String) : List Int := (store.runsOf taskId).map Run.attempt

theorem length_attemptsOf (taskId : String) :
    (attemptsOf store taskId).length = (store.runsOf taskId).length :=
  length_map _

/-- The attempts of a task are numbered without gaps, and a task that has used
them up has a final status. -/
structure WithinBudget (store : Store) : Prop where
  branches : ∀ task ∈ store.tasks.rows, 1 ≤ task.maxBranches
  numbered : ∀ taskId, (attemptsOf store taskId).foldl max 0 = (attemptsOf store taskId).length
  unbranched : ∀ run ∈ store.runs.rows, run.branchId = none
  settled : ∀ task ∈ store.tasks.rows, task.maxAttempts ≤ (attemptsOf store task.id).length →
      task.status = .completed ∨ task.status = .failed
  within : ∀ task ∈ store.tasks.rows, ((attemptsOf store task.id).length : Int) ≤ task.maxAttempts

variable {store : Store}

theorem Unstarted.withinBudget (unstarted : Unstarted store) : WithinBudget store := by
  have none : ∀ taskId, attemptsOf store taskId = [] := by
    intro taskId
    simp [attemptsOf, Store.runsOf, unstarted.noRuns]
  refine ⟨unstarted.branches, ?_, ?_, ?_, ?_⟩
  · intro taskId
    rw [none]
    rfl
  · intro run member
    rw [unstarted.noRuns] at member
    cases member
  · intro task member spent
    have positive := unstarted.attempts task member
    rw [none, length_nil] at spent
    omega
  · intro task member
    have positive := unstarted.attempts task member
    rw [none, length_nil]
    omega

theorem WithinBudget.nextAttempt (budget : WithinBudget store) (taskId : String) :
    store.nextAttempt taskId = (attemptsOf store taskId).length + 1 := by
  rw [← budget.numbered taskId]
  rfl

theorem WithinBudget.runsBounded (budget : WithinBudget store) : RunsBounded store := by
  intro task member
  have within := budget.within task member
  have branches := budget.branches task member
  rw [length_attemptsOf] at within
  omega

theorem WithinBudget.of_sameTasks {next : Store} (budget : WithinBudget store)
    (tasks : ∀ later ∈ next.tasks.rows, ∃ task ∈ store.tasks.rows,
      later.id = task.id ∧ later.maxAttempts = task.maxAttempts ∧
        later.maxBranches = task.maxBranches ∧ (task.status = .completed ∨ task.status = .failed →
            later.status = task.status))
    (attempts : ∀ taskId, attemptsOf next taskId = attemptsOf store taskId)
    (unbranched : ∀ run ∈ next.runs.rows, run.branchId = none) :
    WithinBudget next := by
  refine ⟨?_, ?_, unbranched, ?_, ?_⟩
  · intro later member
    obtain ⟨task, taskMember, _, _, branches, _⟩ := tasks later member
    rw [branches]
    exact budget.branches task taskMember
  · intro taskId
    rw [attempts]
    exact budget.numbered taskId
  · intro later member spent
    obtain ⟨task, taskMember, sameId, sameBound, _, stays⟩ := tasks later member
    rw [attempts, sameId, sameBound] at spent
    have final := budget.settled task taskMember spent
    rw [stays final]
    exact final
  · intro later member
    obtain ⟨task, taskMember, sameId, sameBound, _, _⟩ := tasks later member
    rw [attempts, sameId, sameBound]
    exact budget.within task taskMember

theorem WithinBudget.recoverStaleState (budget : WithinBudget store) (now : Int) :
    WithinBudget (store.recoverStaleState now).1 := by
  apply budget.of_sameTasks
  · intro later member
    obtain ⟨task, taskMember, rfl⟩ := Store.mem_tasks_recoverStaleState.mp member
    refine ⟨task, taskMember, ?_⟩
    by_cases orphaned :
        (store.deleteExpiredLeases now).isOrphaned task = true
    · have active : task.status = .active := by
        simp only [Store.isOrphaned, Bool.and_eq_true, decide_eq_true_eq]
          at orphaned
        exact orphaned.1
      rw [if_pos orphaned]
      refine ⟨rfl, rfl, rfl, ?_⟩
      rw [active]
      rintro (final | final) <;> cases final
    · rw [if_neg orphaned]
      exact ⟨rfl, rfl, rfl, fun _ => rfl⟩
  · intro taskId
    have placed := (store.deleteExpiredLeases now).failStaleRun_apply now
    simp only [attemptsOf, Store.runsOf, Store.rows_runs_recoverStaleState,
      filter_map, map_map, Function.comp_def, (placed _).1,
      (placed _).2.1]
  · intro run member
    rw [Store.rows_runs_recoverStaleState] at member
    obtain ⟨earlier, earlierMember, rfl⟩ := mem_map.mp member
    rw [(Store.failStaleRun_apply _ now earlier).2.2]
    exact budget.unbranched earlier earlierMember

theorem WithinBudget.finishRun {next : Store} (budget : WithinBudget store)
    {task : Task} {finished : Run} {status : TaskStatus}
    (stored : task ∈ store.tasks.rows) (pending : task.status = .pending)
    (tasks : next.tasks = (store.writeTaskStatus task.id status).tasks)
    (runs : next.runs.rows = store.runs.rows ++ [finished])
    (own : finished.taskId = task.id)
    (attempt : finished.attempt = store.nextAttempt task.id)
    (unbranched : finished.branchId = none)
    (settles : task.maxAttempts ≤ finished.attempt →
      status = .completed ∨ status = .failed) :
    WithinBudget next := by
  have numbered := budget.nextAttempt task.id
  have attempts : ∀ taskId, attemptsOf next taskId = attemptsOf store taskId ++
        if taskId = task.id then [finished.attempt] else [] := by
    intro taskId
    simp only [attemptsOf, Store.runsOf, runs, filter_append, map_append]
    congr 1
    by_cases same : taskId = task.id
    · simp [same, own]
    · simp [own, same, Ne.symm same]
  have rows : ∀ later ∈ next.tasks.rows, ∃ earlier ∈ store.tasks.rows,
      (if earlier.id = task.id then { earlier with status } else earlier) =
        later := by
    intro later member
    rw [tasks] at member
    exact Store.mem_tasks_writeTaskStatus.mp member
  have unspent : ((attemptsOf store task.id).length : Int) <
      task.maxAttempts := by
    by_contra spent
    have final := budget.settled task stored (by omega)
    rw [pending] at final
    rcases final with final | final <;> cases final
  refine ⟨?_, ?_, ?_, ?_, ?_⟩
  · intro later member
    obtain ⟨earlier, earlierMember, rfl⟩ := rows later member
    have branches := budget.branches earlier earlierMember
    split <;> exact branches
  · intro taskId
    rw [attempts]
    by_cases same : taskId = task.id
    · rw [if_pos same, foldl_append, budget.numbered taskId, same, length_append]
      simp only [foldl_cons, foldl_nil, length_singleton]
      rw [attempt, numbered]
      omega
    · rw [if_neg same, append_nil]
      exact budget.numbered taskId
  · intro run member
    rw [runs] at member
    rcases mem_append.mp member with earlier | added
    · exact budget.unbranched run earlier
    · rw [mem_singleton.mp added]
      exact unbranched
  · intro later member spent
    obtain ⟨earlier, earlierMember, rfl⟩ := rows later member
    by_cases same : earlier.id = task.id
    · have sameTask := store.tasks.eq_of_key_eq earlierMember stored same
      subst sameTask
      rw [if_pos rfl] at spent ⊢
      rw [attempts, if_pos rfl, length_append, length_singleton]
        at spent
      dsimp only at spent
      apply settles
      rw [attempt, numbered]
      omega
    · rw [if_neg same] at spent ⊢
      rw [attempts, if_neg same, append_nil] at spent
      exact budget.settled earlier earlierMember spent
  · intro later member
    obtain ⟨earlier, earlierMember, rfl⟩ := rows later member
    by_cases same : earlier.id = task.id
    · have sameTask := store.tasks.eq_of_key_eq earlierMember stored same
      subst sameTask
      rw [if_pos rfl, attempts, if_pos rfl, length_append, length_singleton]
      dsimp only
      omega
    · rw [if_neg same, attempts, if_neg same, append_nil]
      exact budget.within earlier earlierMember

theorem decidedTaskStatus_final {action : DecisionAction} (notRetry : action ≠ .retry)
    (notBranch : action ≠ .branch) :
    decidedTaskStatus action = .completed ∨ decidedTaskStatus action = .failed := by
  cases action with
  | retry => exact absurd rfl notRetry
  | branch => exact absurd rfl notBranch
  | promote => exact .inl rfl
  | fail => exact .inr rfl

theorem runDecision_branch_iff
    (store : Store) (task : Task) (answers : RunAnswers) (work : WorkResult) :
    (runDecision store task answers work).action = .branch ↔
      InconclusiveRun store task answers work ∧
        task.maxAttempts ≤ store.nextAttempt task.id ∧ 1 < task.maxBranches := by
  have conclusive : (runAnalysis store task answers work).Inconclusive ↔
      InconclusiveRun store task answers work :=
    DefaultAnalyzer.analyzeWork_inconclusive_iff task _ _
  unfold runDecision
  rw [DefaultDecider.decide_branch_iff, conclusive]
  simp [newRun]

theorem call_cases (store : Store) (call : AnsweredRequest) :
    ((processNextTask store call.request).1.tasks = store.tasks ∧
        (processNextTask store call.request).1.runs = store.runs ∧
          LastAttemptConclusive store (.processNextTask call)) ∨
      ∃ leased task finished action,
        ((runDecision leased task call.request.answers call.work).action = action ∧
          (processNextTask store call.request).1.tasks =
            (store.writeTaskStatus task.id (decidedTaskStatus action)).tasks ∧
          (processNextTask store call.request).1.runs.rows = store.runs.rows ++ [finished]) ∧
          (task ∈ store.tasks.rows ∧ task.status = .pending) ∧ (finished.taskId = task.id ∧
              finished.attempt = store.nextAttempt task.id ∧
                finished.branchId = none) ∧
              ((task.maxAttempts ≤ store.nextAttempt task.id → action ≠ .retry) ∧
                (action = .branch → task.maxAttempts ≤ store.nextAttempt task.id)) ∧
                (action ≠ .branch ↔ LastAttemptConclusive store (.processNextTask call)) := by
  rcases processNextTask_cases store call.request with
    ⟨taskLeases, _, same, ending⟩ |
      ⟨taskLeases, task, available, dispatched, stored, pending, unblocked, same⟩
  · refine .inl ⟨by rw [same], by rw [same], ?_⟩
    intro leased task available dispatched
    rcases ending with ⟨_, unavailable⟩ | ⟨_, idle⟩
    · rw [available] at unavailable
      cases unavailable
    · rw [dispatched] at idle
      cases idle
  · have gate := objectiveGateBlock_of_dispatchBlock unblocked
    have found : ({ store with taskLeases } : Store).getTask task.id =
        some task := store.tasks.lookup_of_mem stored
    have unfinished : ¬ (task.status = .completed ∨ task.status = .failed) := by
      rw [pending]
      decide
    rcases runOnce_cases found unfinished gate call.answered with
      ⟨next, error, ran, tasks, runs, refused⟩ |
        ⟨next, finished, ran, nextRun, leaves, project, fresh⟩
    · left
      have raised : processNextTask store call.request =
          (next.releaseTaskLease task.id (some call.request.workerId), .raised error) := by
        rw [same]
        simp only [runLeased, ran]
      refine ⟨by rw [raised]; exact tasks pending, by rw [raised]; exact runs, ?_⟩
      intro leased other _ redispatched project fresh
      rw [dispatched] at redispatched
      cases redispatched
      rcases refused with missing | ⟨run, member, used⟩
      · exact absurd missing project
      · exact absurd used (fresh run member)
    · right
      have processed : processNextTask store call.request =
          (next.releaseTaskLease task.id (some call.request.workerId),
            .processed (next.getTask task.id) finished) := by
        rw [same]
        simp only [runLeased, ran]
      have tasks := leaves.tasks
      unfold statusAfter at tasks
      rw [if_neg (by simp [call.available])] at tasks
      refine ⟨_, task, finished, _, ⟨rfl, by rw [processed]; exact tasks,
        by rw [processed]; exact leaves.runs⟩, ⟨stored, pending⟩,
        ⟨nextRun.ofTask, nextRun.attempt, nextRun.branchId⟩, ⟨?_, ?_⟩, ?_⟩
      · intro last
        exact DefaultDecider.decide_ne_retry last
      · intro branch
        exact ((runDecision_branch_iff _ _ _ _).mp branch).2.1
      · rw [Ne, runDecision_branch_iff]
        constructor
        · intro notBranch leased other _ redispatched _ _ last branches inconclusive
          rw [dispatched] at redispatched
          cases redispatched
          exact notBranch ⟨inconclusive, last, branches⟩
        · rintro conclusive ⟨inconclusive, last, branches⟩
          exact conclusive _ task available dispatched project fresh last branches inconclusive

theorem step_withinBudget (store : Store) (event : QueueEvent) (next : Store)
    (budget : WithinBudget store)
    (conclusive : LastAttemptConclusive store event)
    (taken : step store event = some next) : WithinBudget next := by
  cases event with
  | recoverStaleState now =>
    cases taken
    exact budget.recoverStaleState now
  | processNextTask call =>
    cases taken
    rcases call_cases store call with
      ⟨tasks, runs, _⟩ | ⟨_, _, _, _, ⟨_, tasks, runs⟩,
          ⟨stored, pending⟩, ⟨own, attempt, unbranched⟩, ⟨notRetry, _⟩,
          notBranch⟩
    · apply budget.of_sameTasks
      · intro later member
        rw [tasks] at member
        exact ⟨later, member, rfl, rfl, rfl, fun _ => rfl⟩
      · intro taskId
        simp only [attemptsOf, Store.runsOf, runs]
      · intro run member
        rw [runs] at member
        exact budget.unbranched run member
    · apply budget.finishRun stored pending tasks runs own attempt unbranched
      intro last
      rw [attempt] at last
      exact decidedTaskStatus_final (notRetry last) (notBranch.mpr conclusive)

theorem WithinBudget.lastAttemptsSettled (budget : WithinBudget store) :
    LastAttemptsSettled store := by
  intro task taskMember run member own last
  have counted : run.attempt ∈ attemptsOf store task.id := by
    apply mem_map_of_mem
    simp [Store.runsOf, member, own]
  have bounded : run.attempt ≤ (attemptsOf store task.id).foldl max 0 := by
    rw [foldl_max_eq_max (ne_nil_of_mem counted)]
    exact le_trans (le_max_of_mem counted) (le_max_right _ _)
  rw [budget.numbered] at bounded
  rcases budget.settled task taskMember (by omega) with completed | failed
  · exact .inl completed
  · exact .inr (.inl failed)

theorem lastAttemptsSettled_iff (store : Store) (event : QueueEvent) (next : Store)
    (budget : WithinBudget store) (taken : step store event = some next) :
    LastAttemptsSettled next ∧ RunsBounded next ↔ LastAttemptConclusive store event := by
  constructor
  · rintro ⟨settled, _⟩
    cases event with
    | recoverStaleState _ => trivial
    | processNextTask call =>
      cases taken
      rcases call_cases store call with
        ⟨_, _, conclusive⟩ | ⟨_, task, finished, _, ⟨_, tasks, runs⟩, ⟨stored, _⟩,
            ⟨own, attempt, unbranched⟩, ⟨_, exhausted⟩, notBranch⟩
      · exact conclusive
      · apply notBranch.mp
        intro branch
        subst branch
        -- A branched task stays active, and no run of it has a branch.
        have last : task.maxAttempts ≤ finished.attempt := by
          rw [attempt]
          exact exhausted rfl
        have member : { task with status := .active } ∈
            (processNextTask store call.request).1.tasks.rows := by
          rw [tasks]
          exact Store.mem_tasks_writeTaskStatus.mpr ⟨task, stored, if_pos rfl⟩
        have added : finished ∈ (processNextTask store call.request).1.runs.rows := by
          rw [runs]
          exact mem_append_right _ (mem_singleton_self _)
        rcases settled _ member finished added own last with
          completed | failed | ⟨winner, won, _, branched, _⟩
        · cases completed
        · cases failed
        · rw [runs] at won
          rcases mem_append.mp won with earlier | last
          · exact branched (budget.unbranched winner earlier)
          · rw [mem_singleton.mp last] at branched
            exact branched unbranched
  · intro conclusive
    have nextBudget := step_withinBudget store event next budget conclusive taken
    exact ⟨nextBudget.lastAttemptsSettled, nextBudget.runsBounded⟩

/-- From tasks that have not been run, every step of the two drivers leaves
the tasks settled and their runs bounded exactly when no last attempt of a task
with several branches ends in an inconclusive analysis. -/
theorem attempts_settle_iff_last_conclusive (store : Store) (unstarted : Unstarted store)
    (events : List QueueEvent) :
    EveryStep step (fun _ _ next => LastAttemptsSettled next ∧ RunsBounded next) store events ↔
      StepsMeet step LastAttemptConclusive store events := by
  apply everyStep_iff_of_invariant
  · intro store event next budget conclusive taken
    exact step_withinBudget store event next budget conclusive taken
  · intro store event next budget taken
    exact lastAttemptsSettled_iff store event next budget taken
  · exact unstarted.withinBudget

def branchingTask : Task where
  id := "task"
  projectId := "project"
  maxAttempts := 1
  maxBranches := 2

def branchingStore : Store where
  projects := .single { id := "project" }
  tasks := .single branchingTask

theorem branchingStore_unstarted : Unstarted branchingStore := ⟨rfl, by decide, by decide⟩

def failingCall (runId : String) : QueueEvent :=
  .processNextTask
    { request :=
        { now := 0
          answers :=
            { runId, workResult := .ok { summary := "", artifacts := [], outcome := "failed" } } }
      work := { summary := "", artifacts := [], outcome := "failed" }, answered := rfl
      available := rfl }

theorem attempts_settle_iff_last_conclusive_of_failures :
    EveryStep step (fun _ _ next => LastAttemptsSettled next ∧ RunsBounded next)
        branchingStore [failingCall "first"] ↔
      StepsMeet step LastAttemptConclusive branchingStore [failingCall "first"] :=
  attempts_settle_iff_last_conclusive branchingStore branchingStore_unstarted _

/-- The task is branched and left active; recovery puts it back to pending, and
the next call runs it again, past every bound. -/
theorem branched_task_runs_on :
    Unstarted branchingStore ∧ ∃ next, runEvents step branchingStore
            [failingCall "first", .recoverStaleState 1, failingCall "second", .recoverStaleState 2,
              failingCall "third", .recoverStaleState 3,
              failingCall "fourth"] = some next ∧
          ¬ LastAttemptsSettled next ∧ ¬ RunsBounded next := by
  refine ⟨branchingStore_unstarted, ?_⟩
  have outcome : (runEvents step branchingStore [failingCall "first", .recoverStaleState 1,
        failingCall "second", .recoverStaleState 2,
        failingCall "third", .recoverStaleState 3,
        failingCall "fourth"]).any (fun next =>
          decide (¬ LastAttemptsSettled next ∧ ¬ RunsBounded next)) := by
    decide
  obtain ⟨next, run, fails⟩ := (Option.any_eq_true _ _).mp outcome
  exact ⟨next, run, of_decide_eq_true fails⟩

end AttemptBudget

end AccruviaHarness
