import AccruviaHarness.Library.Frames
import AccruviaHarness.Services.RunService
import AccruviaHarness.Store.Recovery

/-!
# Exceptions in a run

Every step of `run_once` may raise: a store call, which is a transaction of its
own, a callback, the workspace, the worker, the analyzer or the decider.
-/

namespace AccruviaHarness

open Library

/-- The steps of `run_once` that may raise, in the order of the code. -/
inductive RunStep where
  | cleanupWorkspaces
  | getTask
  | objectiveExecutionGate
  | getProject
  | activate
  | activatePhase
  -- `_work_phase`
  | taskActivated
  | nextAttempt
  | listRuns
  | previousEvaluations
  | previousDecisions
  | adviseRetry
  | createRun
  | reportCreated
  | runCreated
  | metricStarted
  | makeRunDirectory
  | projectAdapter
  | prepareWorkspace
  | validateWorkspace
  | metadataArtifact (index : Nat)
  | metadataRecorded (index : Nat)
  | workspacePrepared
  | buildWorker
  | workerSelected
  | plan
  | reportPlanning
  | planned
  | retrySelected
  | markWorking
  | reportWorking
  | setProgress
  | markAnnounced
  | reportAnnounced
  | resetProgress
  | failureEvidence
  | markUnavailable
  | readUnavailable
  | writeUnavailable
  | phaseUnavailable
  | reportUnavailable
  -- `_validation_phase`
  | reportReady
  | markValidating
  | reportValidating
  | validate
  | validationEvidence
  | workerCompleted
  | workArtifact (index : Nat)
  | workRecorded (index : Nat)
  | markAnalyzing
  | reportAnalyzing
  | metricResult
  | warnTimeout
  | analyze
  | createEvaluation
  | evaluationRecorded
  | markDeciding
  | reportDeciding
  | metricEvaluation
  | decide
  | createDecision
  | decisionRecorded
  | attemptMetadata
  | markFinal
  | readFinal
  | writeFinal
  | phaseFinal
  | statusChanged
  | failureDiagnostic
  | reportDiagnostic
  | metricFinished
  -- the `except` clause of `_run_once`
  | handlerRead
  | handlerWrite
  | handlerPhase
  deriving DecidableEq

abbrev RunFailures := RunStep → Option PyError

abbrev RunProgram (Result : Type) := EStateM PyError Store Result

def Store.besidesRuns (store : Store) :
    KeyedTable TaskLease.taskId × KeyedTable DecisionQueueItem.id :=
  (store.taskLeases, store.decisionQueue)

namespace RunService

variable (failures : RunFailures)

def takeSteps (steps : List RunStep) : RunProgram Unit := raiseFirst (steps.map failures)

def phaseSteps (phase : RunStep) (task : Task) : List RunStep :=
  if task.objective?.isSome then [phase] else []

/-- `update_task_status`: the status is committed before the phase of the
objective is brought up to date. -/
def updateTask (write phase : RunStep) (task : Task) (status : TaskStatus) :
    RunProgram Unit := do
  takeSteps failures [write]
  let updated ← valueOf ((← get).updateTaskStatus task.id status)
  set updated
  takeSteps failures (phaseSteps phase task)

/-- `_apply_task_status_for_run`. -/
def applyTask (read write phase : RunStep) (task : Task)
    (status : TaskStatus) : RunProgram TaskStatus := do
  takeSteps failures [read]
  match ← valueOf ((← get).keepsTaskStatus task.id status) with
  | some current => return current
  | none => do
      updateTask failures write phase task status
      return status

def mark (step : RunStep) (run : Run) (status : RunStatus)
    (summary : String) : RunProgram Run := do
  takeSteps failures [step]
  modifyGet fun store => (store.markRun run status summary).swap

def recordRows (create record : Nat → RunStep) :
    Nat → List Artifact → RunProgram Unit
  | _, [] => pure ()
  | index, row :: rows => do
      takeSteps failures [create index]
      modify fun store => store.createArtifact row
      takeSteps failures [record index]
      recordRows create record (index + 1) rows

/-- The steps of `_work_phase` before the run is stored. -/
def openingSteps : List RunStep :=
  [.taskActivated, .nextAttempt, .listRuns, .previousEvaluations,
    .previousDecisions, .adviseRetry, .createRun]

def preparingSteps : List RunStep :=
  [.reportCreated, .runCreated, .metricStarted, .makeRunDirectory,
    .projectAdapter, .prepareWorkspace, .validateWorkspace]

/-- Those up to the `working` status. -/
def planningSteps : List RunStep :=
  [.workspacePrepared, .buildWorker, .workerSelected, .plan, .reportPlanning,
    .planned, .retrySelected]

def storedRun (store : Store) (run : Run) : Except PyError Store :=
  (store.createRun run).elim (.error (.integrityError "UNIQUE constraint failed: runs.id")) .ok

/-- What `_phase_aware_progress` writes while the worker works. -/
def announceValidation (run : Run) (answers : RunAnswers) : RunProgram Unit :=
  if answers.announcesValidation then do
    let _ ← mark failures .markAnnounced run .validating "Compiling and running focused tests."
    takeSteps failures [.reportAnnounced]
  else pure ()

variable (task : Task) (answers : RunAnswers)

/-- `_work_phase`. -/
def workPhaseRaising :
    RunProgram (WorkResult × Run) := do
  takeSteps failures openingSteps
  let run := newRun (← get) task answers
  set (← valueOf (storedRun (← get) run))
  takeSteps failures preparingSteps
  recordRows failures .metadataArtifact .metadataRecorded 0
    (artifactRows answers run (metadataArtifacts answers))
  takeSteps failures planningSteps
  let run ← mark failures .markWorking run .working answers.planSummary
  takeSteps failures [.reportWorking, .setProgress]
  announceValidation failures run answers
  let work ← valueOf answers.workResult
  takeSteps failures [.resetProgress, .failureEvidence]
  let work := ensureFailureEvidence answers.workspaceRoot run work
  if backendsUnavailable work then do
    let run ← mark failures .markUnavailable run .blocked "All LLM backends unavailable."
    let _ ← applyTask failures .readUnavailable .writeUnavailable .phaseUnavailable task .pending
    takeSteps failures [.reportUnavailable]
    return (work, run)
  else return (work, run)

def reportingSteps : List RunStep :=
  [.statusChanged, .failureDiagnostic, .reportDiagnostic, .metricFinished]

/-- The second half of `_validation_phase`. -/
def concludeRunRaising (run : Run) (work : WorkResult)
    (answers : RunAnswers) : RunProgram Run := do
  takeSteps failures [.workerCompleted]
  recordRows failures .workArtifact .workRecorded 0 (artifactRows answers run work.artifacts)
  let run ← mark failures .markAnalyzing run .analyzing work.summary
  takeSteps failures [.reportAnalyzing, .metricResult, .warnTimeout, .analyze]
  let analysis := DefaultAnalyzer.analyzeWork task work ((← get).listArtifacts run.id)
  takeSteps failures [.createEvaluation]
  modify fun store => store.createEvaluation
    { id := answers.evaluationId, runId := run.id, verdict := analysis.verdict
      summary := analysis.summary, details := analysis.details, createdAt := answers.now }
  takeSteps failures [.evaluationRecorded]
  let run ← mark failures .markDeciding run .deciding analysis.summary
  takeSteps failures [.reportDeciding, .metricEvaluation, .decide]
  let result := DefaultDecider.decide analysis run task
  takeSteps failures [.createDecision]
  modify fun store => store.createDecision
    { id := answers.decisionId, runId := run.id, action := result.action
      rationale := result.rationale, createdAt := answers.now }
  takeSteps failures [.decisionRecorded, .attemptMetadata]
  let run ← mark failures .markFinal run
    (finalRunStatus analysis.verdict result.action) result.rationale
  let _ ← applyTask failures .readFinal .writeFinal .phaseFinal task
    (decidedTaskStatus result.action)
  takeSteps failures reportingSteps
  return run

/-- `_validation_phase`. -/
def validationPhaseRaising (run : Run) (work : WorkResult)
    (answers : RunAnswers) : RunProgram Run := do
  if needsExternalValidation work then do
    let run ← mark failures .markValidating run .validating "Running compile and test validation."
    takeSteps failures [.reportValidating, .validate, .validationEvidence]
    concludeRunRaising failures task run (validatedWork answers work) answers
  else concludeRunRaising failures task run work answers

/-- `_run_once_inner`. -/
def runOnceInnerRaising :
    RunProgram Run := do
  let (work, run) ← workPhaseRaising failures task answers
  if run.status = .blocked then return run
  else do
    takeSteps failures [.reportReady]
    validationPhaseRaising failures task run work answers

/-- The `except` clause of `_run_once`. -/
def reopenRaising : RunProgram Unit := do
  takeSteps failures [.handlerRead]
  match (← get).getTask task.id with
  | none => pure ()
  | some current =>
    if current.status = .active then updateTask failures .handlerWrite .handlerPhase task .pending
    else pure ()

variable (store : Store)

/-- What `run_once` asks of the task before it runs it. -/
def findTask (taskId : String) : Except PyError Task :=
  (store.getTask taskId).elim (.error (.valueError ("Unknown task: " ++ taskId))) .ok

def passGate (task : Task) : Except PyError Unit :=
  match objectiveGateBlock store task with
  | some detail => .error (.valueError detail)
  | none => .ok ()

def unfinished : Except PyError Unit :=
  if task.status = .completed ∨ task.status = .failed then
    .error (.valueError ("Task " ++ task.id ++ " is already " ++ task.status.value ++
        " — cannot run again"))
  else .ok ()

def findProject (task : Task) : Except PyError Project :=
  (store.getProject task.projectId).elim (.error (.valueError
      ("Unknown project for task: " ++ task.projectId))) .ok

def gateSteps : List RunStep :=
  if task.objective?.isSome && !taskBypassesObjectiveExecutionGate task then
    [.objectiveExecutionGate]
  else []

/-- The `try` statement of `_run_once`. -/
def guardedRun : RunProgram Run :=
  tryCatch (runOnceInnerRaising failures task answers) fun error => do
    reopenRaising failures task
    throw error

/-- The checks of `run_once`. -/
def checkTask (taskId : String) : RunProgram Task := do
  takeSteps failures [.cleanupWorkspaces, .getTask]
  let task ← valueOf (findTask (← get) taskId)
  takeSteps failures (gateSteps task)
  valueOf (passGate (← get) task)
  valueOf (unfinished task)
  takeSteps failures [.getProject]
  let _ ← valueOf (findProject (← get) task)
  return task

/-- `run_once`. -/
def runOnceRaising (taskId : String) (answers : RunAnswers) :
    RunProgram Run := do
  let task ← checkTask failures taskId
  updateTask failures .activate .activatePhase task .active
  guardedRun failures task answers

/-! ## What a run leaves alone -/

theorem keeps_takeSteps (steps : List RunStep) :
    Keeps Store.besidesRuns (takeSteps failures steps) :=
  .steps _

theorem keeps_updateTask (write phase : RunStep) (task : Task) (status : TaskStatus) :
    Keeps Store.besidesRuns (updateTask failures write phase task status) := by
  refine .bind (keeps_takeSteps failures _) fun _ => ?_
  apply Keeps.update
  · intro before after updated
    rw [(Store.updateTaskStatus_eq_ok_iff.mp updated).2]
    rfl
  · exact keeps_takeSteps failures _

theorem keeps_mark (step : RunStep) (run : Run) (status : RunStatus) (summary : String) :
    Keeps Store.besidesRuns (mark failures step run status summary) :=
  .bind (keeps_takeSteps failures _) fun _ => .changes fun _ => rfl

theorem keeps_applyTask (read write phase : RunStep) (task : Task) (status : TaskStatus) :
    Keeps Store.besidesRuns (applyTask failures read write phase task status) := by
  refine .bind (keeps_takeSteps failures _) fun _ => .bind .reads fun _ => ?_
  refine .bind (.value _) fun kept => ?_
  cases kept with
  | some _ => exact .returns _
  | none => exact .bind (keeps_updateTask failures _ _ _ _) fun _ => .returns _

theorem keeps_recordRows (create record : Nat → RunStep) (index : Nat) (rows : List Artifact) :
    Keeps Store.besidesRuns (recordRows failures create record index rows) := by
  induction rows generalizing index with
  | nil => exact .returns _
  | cons _ _ ih =>
    refine .bind (keeps_takeSteps failures _) fun _ => ?_
    refine .bind (.changes fun _ => rfl) fun _ => ?_
    exact .bind (keeps_takeSteps failures _) fun _ => ih _

theorem keeps_announceValidation (run : Run) (answers : RunAnswers) :
    Keeps Store.besidesRuns (announceValidation failures run answers) := by
  unfold announceValidation
  split
  · exact .bind (keeps_mark failures _ _ _ _) fun _ => keeps_takeSteps failures _
  · exact .returns _

theorem besidesRuns_of_storedRun {store created : Store} {run : Run}
    (stored : storedRun store run = .ok created) :
    created.besidesRuns = store.besidesRuns := by
  unfold storedRun Store.createRun at stored
  cases inserted : store.runs.insert? run with
  | none =>
    rw [inserted] at stored
    cases stored
  | some _ =>
    rw [inserted] at stored
    cases stored
    rfl

theorem keeps_workPhase : Keeps Store.besidesRuns (workPhaseRaising failures task answers) := by
  have steps := keeps_takeSteps failures
  refine .bind (steps _) fun _ => .bind .reads fun _ => ?_
  dsimp only
  refine .update ?_ ?_
  · intro before after stored
    exact besidesRuns_of_storedRun stored
  · refine .bind (steps _) fun _ => .bind (keeps_recordRows failures _ _ _ _)
      fun _ => .bind (steps _) fun _ => .bind (keeps_mark failures _ _ _ _)
        fun _ => .bind (steps _) fun _ =>
          .bind (keeps_announceValidation failures _ _) fun _ =>
            .bind (.value _) fun _ => .bind (steps _) fun _ => ?_
    split
    · exact .bind (keeps_mark failures _ _ _ _) fun _ =>
        .bind (keeps_applyTask failures _ _ _ _ _) fun _ => .bind (steps _) fun _ => .returns _
    · exact .returns _

theorem keeps_concludeRun (run : Run) (work : WorkResult) (answers : RunAnswers) :
    Keeps Store.besidesRuns (concludeRunRaising failures task run work answers) := by
  have steps := keeps_takeSteps failures
  have marks := keeps_mark failures
  refine .bind (steps _) fun _ => .bind (keeps_recordRows failures _ _ _ _)
    fun _ => .bind (marks _ _ _ _) fun _ => .bind (steps _) fun _ =>
      .bind .reads fun _ => .bind (steps _) fun _ => ?_
  refine .bind (.changes fun _ => rfl) fun _ => .bind (steps _) fun _ =>
    .bind (marks _ _ _ _) fun _ => .bind (steps _) fun _ => .bind (steps _) fun _ => ?_
  exact .bind (.changes fun _ => rfl) fun _ => .bind (steps _) fun _ =>
    .bind (marks _ _ _ _) fun _ =>
      .bind (keeps_applyTask failures _ _ _ _ _) fun _ => .bind (steps _) fun _ => .returns _

theorem keeps_validationPhase (run : Run) (work : WorkResult) (answers : RunAnswers) :
    Keeps Store.besidesRuns (validationPhaseRaising failures task run work answers) := by
  unfold validationPhaseRaising
  split
  · exact .bind (keeps_mark failures _ _ _ _) fun _ =>
      .bind (keeps_takeSteps failures _) fun _ => keeps_concludeRun failures _ _ _ _
  · exact keeps_concludeRun failures _ _ _ _

theorem keeps_reopen : Keeps Store.besidesRuns (reopenRaising failures task) := by
  refine .bind (keeps_takeSteps failures _) fun _ => .bind .reads fun _ => ?_
  split
  · exact .returns _
  · split
    · exact keeps_updateTask failures _ _ _ _
    · exact .returns _

theorem keeps_checkTask (taskId : String) : Keeps Store.besidesRuns (checkTask failures taskId) :=
  .bind (keeps_takeSteps failures _) fun _ => .bind .reads fun _ =>
    .bind (.value _) fun _ => .bind (keeps_takeSteps failures _) fun _ =>
      .bind .reads fun _ => .bind (.value _) fun _ => .bind (.value _)
        fun _ => .bind (keeps_takeSteps failures _) fun _ =>
          .bind .reads fun _ => .bind (.value _) fun _ => .returns _

theorem keeps_runOnce (taskId : String) (answers : RunAnswers) :
    Keeps Store.besidesRuns (runOnceRaising failures taskId answers) := by
  refine .bind (keeps_checkTask failures _) fun task =>
    .bind (keeps_updateTask failures _ _ _ _) fun _ => .caught ?_ fun _ => ?_
  · refine .bind (keeps_workPhase failures _ _) ?_
    rintro ⟨_, _⟩
    dsimp only
    split
    · exact .returns _
    · exact .bind (keeps_takeSteps failures _) fun _ => keeps_validationPhase failures _ _ _ _
  · exact .bind (keeps_reopen failures _) fun _ => .raises _

end RunService

end AccruviaHarness
