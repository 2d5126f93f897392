import AccruviaHarness.Concurrency.DecisionQueue
import AccruviaHarness.Services.RunService

/-!
# Two paths from an evaluation to the statuses

`DecisionService.process_one` decides on a queued evaluation, and the
validation phase of the run service on the analysis that it has just made.
-/

namespace AccruviaHarness

open Library

/-- The store with the columns of `tasks` that a `Task` leaves out. -/
structure DecisionStore where
  store : Store
  attemptMetadata : String → PyDict := fun _ => []
  updatedAt : String → Int := fun _ => 0

structure DecisionAnswers where
  now : Int := 0
  decisionId : String := ""

namespace DecisionStore

variable (state : DecisionStore)

def createDecision (answers : DecisionAnswers)
    (run : Run) (result : DecideResult) : DecisionStore :=
  { state with
    store := state.store.createDecision
      { id := answers.decisionId, runId := run.id, action := result.action
        rationale := result.rationale, createdAt := answers.now } }

def markRun (run : Run) (status : RunStatus) (summary : String) : DecisionStore :=
  { state with store := (state.store.markRun run status summary).1 }

def updateTaskStatus (taskId : String)
    (status : TaskStatus) (now : Int) : Except PyError DecisionStore :=
  match state.store.updateTaskStatus taskId status with
  | .error error => .error error
  | .ok store =>
    .ok
      { state with
        store, updatedAt := Function.update state.updatedAt taskId now }

def updateTaskAttemptMetadata (taskId : String)
    (metadata : PyDict) (now : Int) : Except PyError DecisionStore :=
  match state.store.getTask taskId with
  | none => .error (.valueError ("Unknown task: " ++ taskId))
  | some _ =>
    .ok
      { state with
        attemptMetadata := Function.update state.attemptMetadata taskId
          ((state.attemptMetadata taskId).update metadata)
        updatedAt := Function.update state.updatedAt taskId now }

def applyTaskStatusForRun (taskId : String)
    (status : TaskStatus) (now : Int) : Except PyError DecisionStore :=
  match state.store.keepsTaskStatus taskId status with
  | .error error => .error error
  | .ok (some _) => .ok state
  | .ok none => state.updateTaskStatus taskId status now

def taskRow (taskId : String) : Option Task × PyDict × Int :=
  (state.store.getTask taskId, state.attemptMetadata taskId, state.updatedAt taskId)

end DecisionStore

namespace RunService

/-- The metadata of `_record_attempt_metadata`. -/
def attemptMetadataOf (task : Task) (run : Run) (analysis : AnalyzeResult) :
    PyDict :=
  match (analysis.details.get "diagnostics").asDict with
  | none => []
  | some diagnostics =>
    let infrastructure : PyDict :=
      if (diagnostics.get "infrastructure_failure").truthy ∧
          ¬ (diagnostics.get "backends_unavailable").truthy then
        let category := (diagnostics.get "failure_category").orValue (.str "executor_failure")
        let message := (((diagnostics.get "failure_message").orValue
          (diagnostics.get "error")).orValue (diagnostics.get "blocked_reason")).orValue
              (.str analysis.summary)
        [("infrastructure_failure", .dict
          [("run_id", .str run.id), ("category", .str category.toStr),
            ("message", .str (pyStrip message.toStr))])]
      else []
    let category := pyStrip (diagnostics.getStr "failure_category")
    let atomicity : PyDict :=
      if category ∈ ["atomicity_decomposition", "policy_self_modification"]
      then
        let rationale := (diagnostics.get "failure_message").orValue (.str analysis.summary)
        [("atomicity_narrowing", .dict [("run_id", .str run.id), ("category", .str category),
            ("rationale", .str (pyStrip rationale.toStr))])]
      else []
    let timeout : PyDict :=
      if category ∈ ["validation_timeout", "stale_progress_timeout"] ∧
          task.strategy ∈ ["executor_repair", "bounded_unblocker"] then
        [("timeout_narrowing", .dict [("run_id", .str run.id), ("category", .str category),
            ("timeout_seconds", diagnostics.get "timeout_seconds")])]
      else []
    infrastructure ++ atomicity ++ timeout

variable (state : DecisionStore) (task : Task)

def recordAttemptMetadata (run : Run)
    (analysis : AnalyzeResult) (now : Int) : Except PyError DecisionStore :=
  let metadata := attemptMetadataOf task run analysis
  if metadata.isEmpty then .ok state
  else state.updateTaskAttemptMetadata task.id metadata now

/-- What `_validation_phase` writes once it has decided. -/
def persistDecision (run : Run) (analysis : AnalyzeResult) (answers : DecisionAnswers)
    (result : DecideResult) : DecisionStore × Except PyError Run :=
  let state := state.createDecision answers run result
  match recordAttemptMetadata state task run analysis answers.now with
  | .error error => (state, .error error)
  | .ok state =>
    let finalStatus := finalRunStatus analysis.verdict result.action
    let state := state.markRun run finalStatus result.rationale
    match state.applyTaskStatusForRun task.id
      (decidedTaskStatus result.action) answers.now with
    | .error error => (state, .error error)
    | .ok state =>
      (state, .ok
        { run with
          status := finalStatus, summary := result.rationale })

/-- The part of `_validation_phase` that follows the analysis. -/
def decisionPart (run : Run) (analysis : AnalyzeResult) (answers : DecisionAnswers) :
    DecisionStore × Except PyError Run :=
  persistDecision state task run analysis answers (DefaultDecider.decide analysis run task)

end RunService

namespace DecisionService

variable (verdict : EvaluationVerdict) (action : DecisionAction)

def finalStatus :
    RunStatus :=
  let status := if action = .promote then RunStatus.completed else .failed
  let status := if verdict = .blocked then .blocked else status
  if action = .branch then .failed else status

def taskStatus : TaskStatus :=
  let status := if action = .promote then TaskStatus.completed else .pending
  let status := if action = .fail then .failed else status
  if action = .branch then .active else status

variable (state : DecisionStore)

/-- The body of the `try` statement, with the status of the item that follows
it. An exception makes the item fail. -/
def decideItem (item : DecisionQueueItem)
    (answers : DecisionAnswers) : DecisionStore × DecisionItemStatus :=
  match state.store.getRun item.runId, state.store.getTask item.taskId with
  | some run, some task =>
    match (state.store.listEvaluations item.runId).find? fun evaluation =>
        evaluation.id = item.evaluationId with
    | none => (state, .failed)
    | some evaluation =>
      let analysis := evaluation.toAnalysis
      let result := DefaultDecider.decide analysis run task
      let state := state.createDecision answers run result
      let taskStatus := taskStatus result.action
      let state := state.markRun run (finalStatus analysis.verdict result.action) result.rationale
      match state.store.getTask task.id with
      | none => (state, .completed)
      | some current =>
        if current.status = .completed ∧ taskStatus ≠ .completed then (state, .completed)
        else
          match state.updateTaskStatus task.id taskStatus answers.now
          with
          | .error _ => (state, .failed)
          | .ok state => (state, .completed)
  | _, _ => (state, .failed)

def processOne (answers : DecisionAnswers) : DecisionStore × Bool :=
  match state.store.selectPendingDecision with
  | none => (state, false)
  | some item =>
    let dequeued := { state with
      store := state.store.markDecisionProcessing item.id answers.now }
    let (decided, status) := decideItem dequeued item answers
    ({ decided with
        store := decided.store.completeDecision item.id status answers.now },
      true)

theorem finalStatus_eq : finalStatus verdict action = RunService.finalRunStatus verdict action := by
  cases verdict <;> cases action <;> rfl

theorem taskStatus_eq : taskStatus action = RunService.decidedTaskStatus action := by
  cases action <;> rfl

end DecisionService

/-! ## What either path persists -/

def settledTasks (store : Store) (current : Task) (status : TaskStatus) : KeyedTable Task.id :=
  if current.status.Allows status then (store.writeTaskStatus current.id status).tasks
  else store.tasks

variable {store : Store} {current : Task}

theorem settledTasks_of_completed (status : TaskStatus)
    (found : store.getTask current.id = some current)
    (completed : current.status = .completed) :
    settledTasks store current status = store.tasks := by
  unfold settledTasks
  split_ifs with allowed
  · rw [completed] at allowed
    rw [allowed.eq_of_completed, ← completed, Store.writeTaskStatus_same found]
  · rfl

theorem lookup_settledTasks_of_completed {other : Task} {taskId : String}
    (status : TaskStatus) (found : store.getTask current.id = some current)
    (otherFound : store.getTask taskId = some other)
    (completed : other.status = .completed) :
    (settledTasks store current status).lookup taskId = some other := by
  by_cases same : taskId = current.id
  · subst same
    rw [found] at otherFound
    cases otherFound
    rw [settledTasks_of_completed status found completed]
    exact found
  · unfold settledTasks
    split_ifs with allowed
    · have kept := store.getTask_writeTaskStatus current.id taskId status
      rw [otherFound, Option.map_some, if_neg same] at kept
      exact kept
    · exact otherFound

theorem settledTasks_congr {other : Store} (tasks : store.tasks = other.tasks)
    (current : Task) (status : TaskStatus) :
    settledTasks store current status = settledTasks other current status := by
  unfold settledTasks Store.writeTaskStatus
  rw [tasks]

namespace DecisionStore

variable {current : Task} {state : DecisionStore}

theorem updateTaskStatus_cases (found : state.store.getTask current.id = some current)
    (status : TaskStatus) (now : Int) :
    (∃ next, state.updateTaskStatus current.id status now = .ok next ∧
        next.store.tasks = settledTasks state.store current status ∧
          next.store.runs = state.store.runs ∧
            next.attemptMetadata = state.attemptMetadata) ∨
      ∃ error, state.updateTaskStatus current.id status now = .error error ∧
        state.store.tasks = settledTasks state.store current status := by
  unfold updateTaskStatus settledTasks
  by_cases allowed : current.status.Allows status
  · have updated : state.store.updateTaskStatus current.id status =
        .ok (state.store.writeTaskStatus current.id status) :=
      Store.updateTaskStatus_eq_ok_iff.mpr ⟨⟨current, found, allowed⟩, rfl⟩
    rw [updated, if_pos allowed]
    exact .inl ⟨_, rfl, rfl, rfl, rfl⟩
  · rw [if_neg allowed]
    cases updated : state.store.updateTaskStatus current.id status with
    | error error => exact .inr ⟨error, rfl, rfl⟩
    | ok _ =>
      obtain ⟨⟨_, otherFound, otherAllowed⟩, _⟩ := Store.updateTaskStatus_eq_ok_iff.mp updated
      rw [found] at otherFound
      cases otherFound
      exact absurd otherAllowed allowed

theorem settledTasks_of_guard {store : Store} {status : TaskStatus}
    (guarded : current.status = .completed ∧ status ≠ .completed) :
    settledTasks store current status = store.tasks := by
  unfold settledTasks
  rw [if_neg]
  intro allowed
  rw [guarded.1] at allowed
  exact guarded.2 allowed.eq_of_completed

theorem applyTaskStatusForRun_cases (found : state.store.getTask current.id = some current)
    (status : TaskStatus) (now : Int) :
    (∃ next, state.applyTaskStatusForRun current.id status now = .ok next ∧
        next.store.tasks = settledTasks state.store current status ∧
          next.store.runs = state.store.runs) ∨
      ∃ error, state.applyTaskStatusForRun current.id status now = .error error ∧
          state.store.tasks = settledTasks state.store current status := by
  unfold applyTaskStatusForRun Store.keepsTaskStatus
  simp only [found]
  by_cases guarded : current.status = .completed ∧ status ≠ .completed
  · rw [if_pos guarded]
    exact .inl ⟨state, rfl, (settledTasks_of_guard guarded).symm, rfl⟩
  · rw [if_neg guarded]
    obtain ⟨next, updated, tasks, runs, _⟩ | refused := updateTaskStatus_cases found status now
    · exact .inl ⟨next, updated, tasks, runs⟩
    · exact .inr refused

end DecisionStore

namespace RunService

variable {state : DecisionStore} {task current : Task}

theorem recordAttemptMetadata_ok (found : state.store.getTask task.id = some current)
    (run : Run) (analysis : AnalyzeResult) (now : Int) :
    ∃ next, recordAttemptMetadata state task run analysis now = .ok next ∧
      next.store = state.store := by
  unfold recordAttemptMetadata
  dsimp only
  split_ifs with empty
  · exact ⟨state, rfl, rfl⟩
  · unfold DecisionStore.updateTaskAttemptMetadata
    rw [found]
    exact ⟨_, rfl, rfl⟩

theorem persistDecision_persists {state : DecisionStore} {task current : Task}
    (found : state.store.getTask current.id = some current)
    (same : task.id = current.id) (run : Run) (analysis : AnalyzeResult)
    (answers : DecisionAnswers) (result : DecideResult) :
    (persistDecision state task run analysis answers result).1.store.runs =
        (state.store.markRun run (finalRunStatus analysis.verdict result.action)
          result.rationale).1.runs ∧
      (persistDecision state task run analysis answers result).1.store.tasks =
        settledTasks state.store current (decidedTaskStatus result.action) := by
  have stillFound :
      (state.createDecision answers run result).store.getTask task.id = some current := by
    rw [same]
    exact found
  obtain ⟨recorded, recordedOk, recordedStore⟩ :=
    recordAttemptMetadata_ok stillFound run analysis answers.now
  unfold persistDecision
  simp only [recordedOk, same]
  generalize markedAs : recorded.markRun run
    (finalRunStatus analysis.verdict result.action) result.rationale = marked
  have tasks : marked.store.tasks = state.store.tasks := by
    rw [← markedAs]
    show recorded.store.tasks = (state.createDecision answers run result).store.tasks
    rw [recordedStore]
  have runs : marked.store.runs = (state.store.markRun run
      (finalRunStatus analysis.verdict result.action)
      result.rationale).1.runs := by
    rw [← markedAs, DecisionStore.markRun, recordedStore]
    rfl
  have markedFound : marked.store.getTask current.id = some current := by
    rw [← found, Store.getTask, tasks, Store.getTask]
  have settled := settledTasks_congr tasks current (decidedTaskStatus result.action)
  obtain ⟨_, applied, nextTasks, nextRuns⟩ | ⟨_, refused, kept⟩ :=
    DecisionStore.applyTaskStatusForRun_cases markedFound
      (decidedTaskStatus result.action) answers.now
  · rw [applied]
    exact ⟨nextRuns.trans runs, nextTasks.trans settled⟩
  · rw [refused]
    exact ⟨runs, kept.trans settled⟩

end RunService

namespace DecisionService

structure Queued (state : DecisionStore) (item : DecisionQueueItem)
    (run : Run) (task : Task) (evaluation : Evaluation) : Prop where
  selected : state.store.selectPendingDecision = some item
  runFound : state.store.getRun item.runId = some run
  taskFound : state.store.getTask item.taskId = some task
  evaluationFound : ((state.store.listEvaluations item.runId).find?
    fun evaluation => evaluation.id = item.evaluationId) = some evaluation

theorem decideItem_persists {state : DecisionStore} {item : DecisionQueueItem} {run : Run}
    {task : Task} {evaluation : Evaluation}
    (runFound : state.store.getRun item.runId = some run)
    (taskFound : state.store.getTask item.taskId = some task)
    (evaluationFound : ((state.store.listEvaluations item.runId).find?
      fun evaluation => evaluation.id = item.evaluationId) = some evaluation)
    (answers : DecisionAnswers) :
    (decideItem state item answers).1.store.runs = (state.store.markRun run
          (finalStatus evaluation.verdict
            (DefaultDecider.decide evaluation.toAnalysis run task).action)
          (DefaultDecider.decide evaluation.toAnalysis run task).rationale).1.runs ∧
      (decideItem state item answers).1.store.tasks = settledTasks state.store task (taskStatus
          (DefaultDecider.decide evaluation.toAnalysis run task).action) ∧
        (decideItem state item answers).1.attemptMetadata =
          state.attemptMetadata := by
  have own : item.taskId = task.id := (state.store.tasks.lookup_eq_some_iff.mp taskFound).2.symm
  rw [own] at taskFound
  unfold decideItem
  simp only [runFound, own, taskFound, evaluationFound]
  generalize DefaultDecider.decide evaluation.toAnalysis run task = result
  generalize markedAs : (state.createDecision answers run result).markRun run
    (finalStatus evaluation.toAnalysis.verdict result.action)
    result.rationale = marked
  have tasks : marked.store.tasks = state.store.tasks := by
    rw [← markedAs]
    rfl
  have runs : marked.store.runs = (state.store.markRun run
      (finalStatus evaluation.verdict result.action)
      result.rationale).1.runs := by
    rw [← markedAs]
    rfl
  have metadata : marked.attemptMetadata = state.attemptMetadata := by
    rw [← markedAs]
    rfl
  have markedFound : marked.store.getTask task.id = some task := by
    rw [← taskFound, Store.getTask, tasks, Store.getTask]
  have settled := settledTasks_congr tasks task (taskStatus result.action)
  simp only [markedFound]
  by_cases guarded :
      task.status = .completed ∧ taskStatus result.action ≠ .completed
  · rw [if_pos guarded]
    exact ⟨runs, tasks.trans (DecisionStore.settledTasks_of_guard guarded).symm, metadata⟩
  · rw [if_neg guarded]
    obtain ⟨_, updated, nextTasks, nextRuns, nextMetadata⟩ | ⟨_, refused, kept⟩ :=
      DecisionStore.updateTaskStatus_cases markedFound (taskStatus result.action) answers.now
    · rw [updated]
      exact ⟨nextRuns.trans runs, nextTasks.trans settled, nextMetadata.trans metadata⟩
    · rw [refused]
      exact ⟨runs, kept.trans settled, metadata⟩

theorem processOne_persists {state : DecisionStore} {item : DecisionQueueItem} {run : Run}
    {task : Task} {evaluation : Evaluation}
    (queued : Queued state item run task evaluation)
    (answers : DecisionAnswers) :
    (processOne state answers).1.store.runs = (state.store.markRun run
          (finalStatus evaluation.verdict
            (DefaultDecider.decide evaluation.toAnalysis run task).action)
          (DefaultDecider.decide evaluation.toAnalysis run task).rationale).1.runs ∧
      (processOne state answers).1.store.tasks = settledTasks state.store task (taskStatus
          (DefaultDecider.decide evaluation.toAnalysis run task).action) ∧
        (processOne state answers).1.attemptMetadata =
          state.attemptMetadata := by
  have decided := @decideItem_persists
    { state with
      store := state.store.markDecisionProcessing item.id answers.now }
    item run task evaluation queued.runFound queued.taskFound
    queued.evaluationFound answers
  unfold processOne
  simp only [queued.selected]
  exact decided

/-- What the run service holds when it decides: the rows as they were read,
apart from what it has written since. -/
structure Held (run : Run) (task : Task) (heldRun : Run)
    (heldTask : Task) : Prop where
  run : ∃ status summary, heldRun = { run with status, summary }
  task : ∃ status, heldTask = { task with status }

structure PathsAgree (state : DecisionStore) (run : Run) (task : Task)
    (evaluation : Evaluation) (queuePath runPath : DecisionStore) :
    Prop where
  run : ∃ summary, queuePath.store.getRun run.id = some
      { run with
        status := finalStatus evaluation.verdict
          (DefaultDecider.decide evaluation.toAnalysis run task).action
        summary }
  runs : runPath.store.runs = queuePath.store.runs
  tasks : runPath.store.tasks = queuePath.store.tasks
  completed : ∀ taskId other, state.store.getTask taskId = some other →
    other.status = .completed → queuePath.store.getTask taskId = some other ∧
        queuePath.attemptMetadata taskId = state.attemptMetadata taskId ∧
          runPath.store.getTask taskId = some other

theorem decision_paths_agree {state : DecisionStore} {item : DecisionQueueItem} {run heldRun : Run}
    {task heldTask : Task} {evaluation : Evaluation}
    (queued : Queued state item run task evaluation)
    (held : Held run task heldRun heldTask)
    (answers others : DecisionAnswers) :
    PathsAgree state run task evaluation (processOne state answers).1
      (RunService.decisionPart state heldTask heldRun evaluation.toAnalysis others).1 := by
  obtain ⟨⟨runStatus, summary, rfl⟩, ⟨status, rfl⟩⟩ := held
  have taskFound : state.store.getTask task.id = some task :=
    state.store.tasks.lookup_of_mem (state.store.tasks.lookup_eq_some_iff.mp queued.taskFound).1
  have runFound : state.store.getRun run.id = some run :=
    state.store.runs.lookup_of_mem (state.store.runs.lookup_eq_some_iff.mp queued.runFound).1
  have decision : DefaultDecider.decide evaluation.toAnalysis
      { run with
        status := runStatus, summary } { task with status } =
      DefaultDecider.decide evaluation.toAnalysis run task := rfl
  obtain ⟨queueRuns, queueTasks, queueMetadata⟩ := processOne_persists queued answers
  obtain ⟨directRuns, directTasks⟩ := @RunService.persistDecision_persists
    state { task with status } task taskFound rfl
    { run with
      status := runStatus, summary } evaluation.toAnalysis others
    (DefaultDecider.decide evaluation.toAnalysis run task)
  refine ⟨⟨(DefaultDecider.decide evaluation.toAnalysis run task).rationale, ?_⟩, ?_, ?_, ?_⟩
  · rw [Store.getRun, queueRuns]
    show (state.store.runs.updateAt run.id _).lookup run.id = _
    rw [KeyedTable.lookup_updateAt]
    rw [Store.getRun] at runFound
    rw [runFound, Option.map_some, if_pos rfl]
  · unfold RunService.decisionPart
    rw [decision, directRuns, queueRuns, finalStatus_eq]
    rfl
  · unfold RunService.decisionPart
    rw [decision, directTasks, queueTasks, taskStatus_eq]
  · intro taskId other found completed
    refine ⟨?_, congrFun queueMetadata taskId, ?_⟩
    · rw [Store.getTask, queueTasks]
      exact lookup_settledTasks_of_completed _ taskFound found completed
    · unfold RunService.decisionPart
      rw [decision, Store.getTask, directTasks]
      exact lookup_settledTasks_of_completed _ taskFound found completed

/-! ## An older run of a completed task -/

def completedTask : Task where
  id := "task"
  projectId := "project"
  status := .completed

def olderRun : Run where
  id := "run"
  taskId := "task"
  status := .deciding
  attempt := 1

def narrowedEvaluation : Evaluation where
  id := "evaluation"
  runId := "run"
  verdict := .blocked
  summary := ""
  details := [("diagnostics", .dict
    [("failure_category", .str "atomicity_decomposition")])]

def queuedItem : DecisionQueueItem where
  id := "item"
  runId := "run"
  taskId := "task"
  evaluationId := "evaluation"
  priority := 0

def olderRunState : DecisionStore where
  store :=
    { tasks := .single completedTask, runs := .single olderRun
      evaluations := [narrowedEvaluation], decisionQueue := .single queuedItem }

theorem queued_olderRun :
    Queued olderRunState queuedItem olderRun completedTask
      narrowedEvaluation :=
  ⟨rfl, rfl, rfl, rfl⟩

theorem paths_agree_on_olderRun :
    PathsAgree olderRunState olderRun completedTask narrowedEvaluation
      (processOne olderRunState { now := 1 }).1
      (RunService.decisionPart olderRunState completedTask olderRun
        narrowedEvaluation.toAnalysis { now := 1 }).1 :=
  decision_paths_agree queued_olderRun
    ⟨⟨.deciding, "", rfl⟩, ⟨.completed, rfl⟩⟩ { now := 1 } { now := 1 }

/-- The run service records how the run was narrowed in the row of its
completed task. -/
theorem completed_task_row_changes :
    ¬ ∀ (state : DecisionStore) (item : DecisionQueueItem) (run : Run)
        (task : Task) (evaluation : Evaluation) (answers : DecisionAnswers),
      Queued state item run task evaluation → task.status = .completed →
        (processOne state answers).1.taskRow task.id = state.taskRow task.id ∧
          (RunService.decisionPart state task run evaluation.toAnalysis
            answers).1.taskRow task.id = state.taskRow task.id := by
  intro unchanged
  have same := (unchanged olderRunState queuedItem olderRun completedTask
    narrowedEvaluation { now := 1 } queued_olderRun rfl).2
  have metadata := congrArg (fun row => row.2.1.isEmpty) same
  exact absurd metadata (by decide)

end DecisionService

end AccruviaHarness
