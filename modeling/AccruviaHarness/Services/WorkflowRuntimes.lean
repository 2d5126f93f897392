import AccruviaHarness.Services.LoopRuns
import AccruviaHarness.Services.QueueProgress

/-!
# The two workflow runtimes

The local runtime returns what the engine does. The activity of the Temporal
runtime returns a summary, from which the runtime reads the task and its runs
out of the store again.
-/

namespace AccruviaHarness

open Library

/-- The arguments of `process_next_task` of a runtime, and what the run takes
from outside. -/
structure RuntimeCall where
  now : Int
  projectId : Option String := none
  workerId : String := "local-worker"
  leaseSeconds : Int := 300
  answers : RunAnswers

def RuntimeCall.request (call : RuntimeCall) (llmAvailable : Bool) :
    DispatchRequest where
  now := call.now
  workerId := call.workerId
  leaseSeconds := call.leaseSeconds
  projectId := call.projectId
  llmAvailable
  answers := call.answers

/-- What `process_next_task` returns beside `None`. -/
inductive QueueResult where
  | gateBlocked
  | processed (task : Option Task) (runs : List Run)

/-- What `run_task_until_stable` returns. -/
structure StableResult where
  task : Option Task
  runs : List Run

structure ActivitySummary where
  taskId : Option String
  taskStatus : Option TaskStatus
  runCount : Nat

def DispatchResult.returned :
    (result : DispatchResult) → result ≠ .outOfFuel → Except PyError (Option QueueResult)
  | .gateBlocked, _ => .ok (some .gateBlocked)
  | .idle, _ => .ok none
  | .processed task run, _ => .ok (some (.processed task [run]))
  | .raised error, _ => .error error
  | .outOfFuel, ended => (ended rfl).elim

namespace HarnessEngine

def processNextTask (store : Store) (request : DispatchRequest) :
    Store × Except PyError (Option QueueResult) :=
  ((QueueService.processNextTask store request).1,
    (QueueService.processNextTask store request).2.returned
      (QueueService.processNextTask_ne_outOfFuel store request))

end HarnessEngine

namespace TemporalBackend

/-- `process_next_task_activity`. The result of a closed gate has no task. -/
def processNextTaskActivity (store : Store) (request : DispatchRequest) :
    Store × Except PyError (Option ActivitySummary) :=
  match HarnessEngine.processNextTask store request with
  | (store, .error error) => (store, .error error)
  | (store, .ok none) => (store, .ok none)
  | (store, .ok (some .gateBlocked)) => (store, .error (.keyError "task"))
  | (store, .ok (some (.processed task runs))) =>
    (store, .ok (some
      { taskId := task.map Task.id, taskStatus := task.map Task.status
        runCount := runs.length }))

def taskToStableActivity (answers : LoopAnswers) (taskId : String) (bound : Nat) (store : Store) :
    Option (Store × Except PyError ActivitySummary) :=
  (RunService.runUntilStable answers taskId bound 0 store).map
    fun (store, outcome) =>
      (store, outcome.map fun runs =>
        { taskId := some taskId, taskStatus := (store.getTask taskId).map Task.status
          runCount := runs.length })

end TemporalBackend

namespace LocalWorkflowRuntime

def processNextTask (store : Store) (request : DispatchRequest) :
    Store × Except PyError (Option QueueResult) :=
  HarnessEngine.processNextTask store request

def runTaskUntilStable (answers : LoopAnswers) (taskId : String) (bound : Nat) (store : Store) :
    Option (Store × Except PyError StableResult) :=
  (RunService.runUntilStable answers taskId bound 0 store).map
    fun (store, outcome) =>
      (store, outcome.map fun runs =>
        { task := store.getTask taskId, runs })

end LocalWorkflowRuntime

namespace TemporalWorkflowRuntime

def processNextTask (store : Store) (request : DispatchRequest) :
    Store × Except PyError (Option QueueResult) :=
  match TemporalBackend.processNextTaskActivity store request with
  | (store, .error error) => (store, .error error)
  | (store, .ok none) => (store, .ok none)
  | (store, .ok (some result)) =>
    (store, .ok (some (.processed (result.taskId.bind store.getTask)
      (store.listRunsMatching result.taskId))))

def runTaskUntilStable (answers : LoopAnswers) (taskId : String) (bound : Nat) (store : Store) :
    Option (Store × Except PyError StableResult) :=
  (TemporalBackend.taskToStableActivity answers taskId bound store).map
    fun (store, outcome) =>
      (store, outcome.map fun _ =>
        { task := store.getTask taskId, runs := store.listRunsMatching (some taskId) })

end TemporalWorkflowRuntime

def Agree {Result : Type} (first second : Except PyError Result) : Prop :=
  first.toOption = second.toOption

namespace WorkflowRuntime

variable (store : Store)

/-- `process_next_task` of both runtimes. The gate of the engine that the
activity builds is its own. -/
def ProcessAgrees (call : RuntimeCall) (llmAvailable activityAvailable : Bool) : Prop :=
  Agree (LocalWorkflowRuntime.processNextTask store (call.request llmAvailable)).2
    (TemporalWorkflowRuntime.processNextTask store (call.request activityAvailable)).2

/-- `run_task_until_stable` of both runtimes, with a bound on the calls of
`run_once`. -/
def StableAgrees (answers : LoopAnswers) (taskId : String) (bound : Nat) (store : Store) : Prop :=
  (LocalWorkflowRuntime.runTaskUntilStable answers taskId bound store).map
      (fun outcome => outcome.2.toOption) =
    (TemporalWorkflowRuntime.runTaskUntilStable answers taskId bound store).map
      fun outcome => outcome.2.toOption

def CanRun (task : Task) (answers : RunAnswers) : Prop :=
  store.getProject task.projectId ≠ none ∧ (∃ work, answers.workResult = .ok work) ∧
      ∀ run ∈ store.runs.rows, run.id ≠ answers.runId

def FirstRunOnly (call : RuntimeCall) (llmAvailable : Bool) :
    Prop :=
  llmAvailable = true ∧
    ∀ task, QueueService.firstRunnable store (call.request llmAvailable) [] = some task →
        CanRun store task call.answers → store.listRunsMatching (some task.id) = []

def FreshLoop (taskId : String) (answers : LoopAnswers) :
    Prop :=
  store.listRunsMatching (some taskId) = [] ∧ ∀ task last, store.getTask taskId = some task →
      ¬ (task.status = .completed ∨ task.status = .failed) →
        RunService.FirstEnding store task answers 0 last →
          ¬ RunService.WinsAt store task answers last ∧
            (RunService.creationTimes store task answers 0 last).Pairwise (· ≤ ·)

/-! ## The stable task -/

variable {answers : LoopAnswers} {taskId : String} {bound : Nat}
  {store next : Store} {call : RuntimeCall} {llmAvailable : Bool}

theorem stableAgrees_of_raised (raised : ∀ final runs,
      RunService.runUntilStable answers taskId bound 0 store ≠ some (final, .ok runs)) :
    StableAgrees answers taskId bound store := by
  unfold StableAgrees LocalWorkflowRuntime.runTaskUntilStable
    TemporalWorkflowRuntime.runTaskUntilStable
    TemporalBackend.taskToStableActivity
  rcases ended : RunService.runUntilStable answers taskId bound 0 store with
    _ | ⟨final, _ | runs⟩
  · rfl
  · rfl
  · exact absurd ended (raised final runs)

variable {final : Store} {runs : List Run} {run : Run} {task : Task}

theorem stableAgrees_iff_listed
    (ended : RunService.runUntilStable answers taskId bound 0 store = some (final, .ok runs)) :
    StableAgrees answers taskId bound store ↔ final.listRunsMatching (some taskId) = runs := by
  unfold StableAgrees LocalWorkflowRuntime.runTaskUntilStable
    TemporalWorkflowRuntime.runTaskUntilStable
    TemporalBackend.taskToStableActivity
  rw [ended]
  simp [Except.map, Except.toOption, eq_comm]

theorem stableAgrees_iff (decisions : RunService.DecisionsOfRuns store)
    (newBranches : RunService.NewBranches store answers)
    (ended : RunService.runUntilStable answers taskId bound 0 store = some (final, .ok runs)) :
    StableAgrees answers taskId bound store ↔ FreshLoop store taskId answers := by
  rw [stableAgrees_iff_listed ended]
  unfold FreshLoop
  cases found : store.getTask taskId with
  | none =>
    exfalso
    cases bound <;> simp [RunService.runUntilStable, found] at ended
  | some task =>
    obtain rfl : task.id = taskId := (store.tasks.lookup_eq_some_iff.mp found).2
    by_cases settled : task.status = .completed ∨ task.status = .failed
    · have nothing := @RunService.runUntilStable_of_final store answers 0
        task.id ⟨task, found, settled⟩ bound
      rw [nothing] at ended
      cases ended
      constructor
      · intro none
        refine ⟨none, ?_⟩
        intro other last same unsettled
        obtain rfl := Option.some.inj same
        exact absurd settled unsettled
      · intro fresh
        exact fresh.1
    · have round := RunService.Round.first answers found settled decisions
      obtain ⟨last, first, collected⟩ := round.returns newBranches ended
      rw [collected.listed_iff]
      apply and_congr_right
      intro _
      constructor
      · intro current task other same _ firstToo
        obtain rfl := Option.some.inj same
        obtain rfl := first.unique firstToo
        exact current
      · intro current
        exact current task last rfl settled first

/-! ## The next task -/

theorem listRunsMatching_of_run {before after : Store} (own : run.taskId = taskId)
    (rows : after.runs.rows = before.runs.rows ++ [run]) :
    after.listRunsMatching (some taskId) = [run] ↔ before.listRunsMatching (some taskId) = [] := by
  have nothing := CollectedRuns.nil after taskId
  have collected := CollectedRuns.cons rows own nothing
  rw [collected.listed_iff]
  simp

theorem processNextTask_returned {request : DispatchRequest} {result : DispatchResult}
    (outcome : QueueService.processNextTask store request = (next, result))
    (ended : result ≠ .outOfFuel) :
    HarnessEngine.processNextTask store request = (next, result.returned ended) := by
  obtain ⟨rfl, rfl⟩ := Prod.ext_iff.mp outcome
  rfl

theorem temporal_ne_gateBlocked (store : Store) (request : DispatchRequest) :
    (TemporalWorkflowRuntime.processNextTask store request).2.toOption ≠
      some (some .gateBlocked) := by
  unfold TemporalWorkflowRuntime.processNextTask
  rcases TemporalBackend.processNextTaskActivity store request with
    ⟨_, _ | _ | _⟩
  · simp [Except.toOption]
  · simp [Except.toOption]
  · simp [Except.toOption]

theorem not_processAgrees_of_gate (store : Store) (call : RuntimeCall) (activityAvailable : Bool) :
    ¬ ProcessAgrees store call false activityAvailable := by
  have closed : QueueService.processNextTask store (call.request false) =
      (store, .gateBlocked) := rfl
  have blocked : (LocalWorkflowRuntime.processNextTask store
      (call.request false)).2 = .ok (some .gateBlocked) := by
    unfold LocalWorkflowRuntime.processNextTask
    rw [processNextTask_returned closed DispatchResult.noConfusion]
    rfl
  unfold ProcessAgrees Agree
  rw [blocked]
  exact (temporal_ne_gateBlocked store _).symm

theorem processAgrees_of_idle
    (idle : QueueService.processNextTask store (call.request llmAvailable) = (next, .idle)) :
    ProcessAgrees store call llmAvailable llmAvailable := by
  unfold ProcessAgrees LocalWorkflowRuntime.processNextTask TemporalWorkflowRuntime.processNextTask
    TemporalBackend.processNextTaskActivity
  rw [processNextTask_returned idle DispatchResult.noConfusion]
  rfl

theorem processAgrees_of_raised {error : PyError}
    (raised : QueueService.processNextTask store (call.request llmAvailable) =
      (next, .raised error)) :
    ProcessAgrees store call llmAvailable llmAvailable := by
  unfold ProcessAgrees LocalWorkflowRuntime.processNextTask TemporalWorkflowRuntime.processNextTask
    TemporalBackend.processNextTaskActivity
  rw [processNextTask_returned raised DispatchResult.noConfusion]
  rfl

theorem processAgrees_of_processed (found : next.getTask task.id = some task) (processed :
      QueueService.processNextTask store (call.request llmAvailable) =
        (next, .processed (some task) run)) :
    ProcessAgrees store call llmAvailable llmAvailable ↔
      next.listRunsMatching (some task.id) = [run] := by
  unfold ProcessAgrees LocalWorkflowRuntime.processNextTask TemporalWorkflowRuntime.processNextTask
    TemporalBackend.processNextTaskActivity
  rw [processNextTask_returned processed DispatchResult.noConfusion]
  simp [Agree, DispatchResult.returned, Except.toOption, found, eq_comm]

theorem processAgrees_of_leased {taskLeases : KeyedTable TaskLease.taskId}
    (pending : task.status = .pending)
    (found : store.getTask task.id = some task)
    (unblocked : objectiveGateBlock store task = none)
    (outcome :
      QueueService.processNextTask store (call.request llmAvailable) =
        QueueService.runLeased { store with taskLeases } task (call.request llmAvailable)) :
    ProcessAgrees store call llmAvailable llmAvailable ↔ (CanRun store task call.answers →
        store.listRunsMatching (some task.id) = []) := by
  have leasedFound : Store.getTask { store with taskLeases } task.id = some task := found
  have unfinished : ¬ (task.status = .completed ∨ task.status = .failed) := by
    rw [pending]
    decide
  rcases ran : RunService.runOnce { store with taskLeases } task.id
      call.answers with ⟨next, error | run⟩
  · have raised : QueueService.processNextTask store
        (call.request llmAvailable) = (next.releaseTaskLease task.id (some call.workerId),
            .raised error) := by
      rw [outcome, QueueService.runLeased]
      simp only [RuntimeCall.request, ran]
    refine iff_of_true (processAgrees_of_raised raised) ?_
    rintro ⟨project, ⟨work, worked⟩, fresh⟩
    have gate : objectiveGateBlock { store with taskLeases } task = none := unblocked
    rcases RunService.runOnce_cases leasedFound unfinished gate worked with
      ⟨_, _, _, _, _, missing | ⟨other, member, used⟩⟩ | ⟨_, _, ended, _⟩
    · exact absurd missing project
    · exact absurd used (fresh other member)
    · rw [ran] at ended
      cases ended
  · obtain ⟨_, work, runnable⟩ := RunService.runnable_of_ok ran
    obtain ⟨_, _, again, nextRun, leaves⟩ := runnable.ends
    rw [ran] at again
    cases again
    have canRun : CanRun store task call.answers := by
      have same := leasedFound.symm.trans runnable.found
      cases same
      exact ⟨runnable.project, ⟨work, runnable.worked⟩, runnable.fresh⟩
    rw [forall_prop_of_true canRun]
    have stored := leaves.getTask leasedFound
    have processed : QueueService.processNextTask store
        (call.request llmAvailable) = (next.releaseTaskLease task.id (some call.workerId),
            .processed (next.getTask task.id) run) := by
      rw [outcome, QueueService.runLeased]
      simp only [RuntimeCall.request, ran]
    rw [stored] at processed
    have agrees := processAgrees_of_processed (by exact stored) processed
    rw [agrees]
    exact listRunsMatching_of_run nextRun.ofTask leaves.runs

theorem processAgrees_iff {activityAvailable : Bool}
    (sameGate : llmAvailable = true → activityAvailable = true) :
    ProcessAgrees store call llmAvailable activityAvailable ↔
      FirstRunOnly store call llmAvailable := by
  cases llmAvailable with
  | false =>
    refine iff_of_false ?_ ?_
    · exact not_processAgrees_of_gate store call activityAvailable
    · intro open?
      cases open?.1
  | true =>
    obtain rfl := sameGate rfl
    unfold FirstRunOnly
    rw [and_iff_right rfl]
    rcases QueueService.processNextTask_finds store (call.request true) rfl
      with ⟨task, _, first, _, outcome⟩ | ⟨none, idle⟩
    · have only : (∀ other, QueueService.firstRunnable store
            (call.request true) [] = some other → CanRun store other call.answers →
                store.listRunsMatching (some other.id) = []) ↔
          (CanRun store task call.answers → store.listRunsMatching (some task.id) = []) := by
        constructor
        · intro fresh
          exact fresh task first
        · intro fresh other same
          obtain rfl := Option.some.inj (first.symm.trans same)
          exact fresh
      obtain ⟨available, unblocked, _⟩ := QueueService.firstRunnable_first first
      rw [only]
      exact processAgrees_of_leased available.pending (store.tasks.lookup_of_mem available.stored)
        (QueueService.objectiveGateBlock_of_dispatchBlock unblocked) outcome
    · refine iff_of_true (processAgrees_of_idle idle) ?_
      intro task first
      have impossible := none.symm.trans first
      cases impossible

/-- `process_next_task` agrees if and only if the gate is open and the task
that it runs had no run before. `run_task_until_stable` agrees where the loop
raises; where it returns, it agrees if and only if the task had no run before,
no branch wins, and the clock does not go back. -/
theorem runtimes_agree_iff
    (store : Store) (call : RuntimeCall) (llmAvailable activityAvailable : Bool)
    (answers : LoopAnswers) (taskId : String) (bound : Nat)
    (sameGate : llmAvailable = true → activityAvailable = true)
    (decisions : RunService.DecisionsOfRuns store)
    (newBranches : RunService.NewBranches store answers) :
    (ProcessAgrees store call llmAvailable activityAvailable ↔
        FirstRunOnly store call llmAvailable) ∧
      ((∀ final runs, RunService.runUntilStable answers taskId bound 0 store ≠
            some (final, .ok runs)) →
        StableAgrees answers taskId bound store) ∧
        ∀ final runs,
          RunService.runUntilStable answers taskId bound 0 store = some (final, .ok runs) →
            (StableAgrees answers taskId bound store ↔ FreshLoop store taskId answers) := by
  refine ⟨processAgrees_iff sameGate, stableAgrees_of_raised, ?_⟩
  intro final runs ended
  exact stableAgrees_iff decisions newBranches ended

def plainStore : Store where
  projects := .single { id := "project" }
  tasks := .single QueueService.plainTask

def plainAnswers : RunAnswers where
  runId := "run"
  workResult := .ok
    { summary := "", artifacts := [("plan", "plan.txt", ""), ("report", "report.json", "")] }

def plainLoop : LoopAnswers where
  call _ := plainAnswers
  branches _ := { branchId := "branch", run := fun _ => plainAnswers }

theorem endsLoop_plain : RunService.EndsLoop plainStore QueueService.plainTask plainLoop 0 := by
  right; right; right; right; right
  exact ⟨rfl, .inl ⟨_, rfl, rfl, rfl⟩⟩

theorem exists_returned {answers : LoopAnswers} {taskId : String} {bound : Nat} {store : Store}
    (returned : ((RunService.runUntilStable answers taskId bound 0 store).bind
      fun outcome => outcome.2.toOption).isSome = true) :
    ∃ final runs, RunService.runUntilStable answers taskId bound 0 store =
      some (final, .ok runs) := by
  rcases ended : RunService.runUntilStable answers taskId bound 0 store with
    _ | ⟨final, _ | runs⟩
  · simp [ended] at returned
  · simp [ended, Except.toOption] at returned
  · exact ⟨final, runs, rfl⟩

theorem runtimes_agree_on_plain_task :
    ProcessAgrees plainStore { now := 0, answers := plainAnswers } true true ∧
      StableAgrees plainLoop "plain" 1 plainStore := by
  have both := runtimes_agree_iff plainStore
    { now := 0, answers := plainAnswers } true true plainLoop "plain" 1
    (fun open? => open?) (fun _ member => absurd member List.not_mem_nil)
    (fun _ _ member => absurd member List.not_mem_nil)
  obtain ⟨final, runs, ended⟩ := @exists_returned plainLoop "plain" 1 plainStore (by decide +kernel)
  refine ⟨both.1.mpr ⟨rfl, ?_⟩, (both.2.2 final runs ended).mpr ⟨rfl, ?_⟩⟩
  · intro task _ _
    rfl
  · intro task last found _ first
    obtain rfl : QueueService.plainTask = task := Option.some.inj found
    have atOnce : last = 0 := by
      by_contra later
      exact first.2.2 0 (Nat.le_refl 0) (by omega) endsLoop_plain
    rw [atOnce]
    refine ⟨?_, by decide⟩
    rintro ⟨⟨_, _, several⟩, _⟩
    exact absurd several (by decide)

def retriedStore : Store :=
  { plainStore with
    runs := .single
      { id := "earlier", taskId := "plain", status := .failed, attempt := 1 } }

theorem retried_task_disagrees :
    ¬ ProcessAgrees retriedStore { now := 0, answers := plainAnswers } true true ∧
      ¬ StableAgrees plainLoop "plain" 1 retriedStore ∧
        ¬ ProcessAgrees plainStore { now := 0, answers := plainAnswers } false
          true := by
  refine ⟨?_, ?_, not_processAgrees_of_gate _ _ _⟩
  · rw [processAgrees_iff fun open? => open?]
    intro fresh
    have canRun : CanRun retriedStore QueueService.plainTask plainAnswers :=
      ⟨Option.some_ne_none _, ⟨_, rfl⟩, by decide⟩
    have empty := fresh.2 QueueService.plainTask rfl canRun
    exact absurd empty (by decide)
  · obtain ⟨_, _, ended⟩ := @exists_returned plainLoop "plain" 1 retriedStore (by decide +kernel)
    have noDecisions : RunService.DecisionsOfRuns retriedStore :=
      fun _ member => absurd member List.not_mem_nil
    have noBranches : RunService.NewBranches retriedStore plainLoop := by
      intro number run member
      obtain rfl := List.mem_singleton.mp member
      exact (Option.some_ne_none _).symm
    rw [stableAgrees_iff noDecisions noBranches ended]
    intro fresh
    exact absurd fresh.1 (by decide)

end WorkflowRuntime

end AccruviaHarness
