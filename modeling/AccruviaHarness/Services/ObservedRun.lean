import AccruviaHarness.Control.History
import AccruviaHarness.Services.RunFailures

/-!
# Runs with a progress callback

`run_once` reports its progress to a callback, which may write to the store
between the writes of the run. The program is the one of `RunFailures`, with
the steps left to a parameter.
-/

namespace AccruviaHarness

open Library

def Run.origin (run : Run) : String × Int := (run.taskId, run.createdAt)

def Store.objectiveOf (store : Store) (taskId : String) : Option String :=
  (store.getTask taskId).bind Task.objective?

/-- No run is created, no task changes its objective, and nothing recorded by
the control plane is lost. -/
structure Continues (before after : Store) : Prop where
  runs : after.runs.rows.map Run.origin = before.runs.rows.map Run.origin
  objectives : after.objectiveOf = before.objectiveOf
  control : before.control.Extends after.control

namespace Continues

variable {before middle after : Store}

instance : Std.Refl Continues where
  refl store := ⟨rfl, rfl, .refl store.control⟩

instance : IsTrans Store Continues where
  trans _ _ _ first second :=
    ⟨second.runs.trans first.runs, second.objectives.trans first.objectives,
      first.control.trans second.control⟩

theorem of_same (runs : after.runs = before.runs) (tasks : after.tasks = before.tasks)
    (control : after.control = before.control) :
    Continues before after where
  runs := congrArg (fun table => table.rows.map Run.origin) runs
  objectives := by
    funext taskId
    unfold Store.objectiveOf Store.getTask
    rw [tasks]
  control := control ▸ .refl before.control

theorem writeTaskStatus (store : Store) (taskId : String) (status : TaskStatus) :
    Continues store (store.writeTaskStatus taskId status) where
  runs := rfl
  objectives := by
    funext wanted
    have found := store.tasks.lookup_updateAt taskId wanted
      ⟨fun task => { task with status }, fun _ => rfl⟩
    unfold Store.objectiveOf Store.getTask Store.writeTaskStatus
    rw [found]
    cases store.tasks.lookup wanted with
    | none => rfl
    | some _ =>
      dsimp only [Option.map_some, Option.bind_some]
      split <;> rfl
  control := .refl store.control

theorem markRun (store : Store) (run : Run) (status : RunStatus) (summary : String) :
    Continues store (store.markRun run status summary).1 where
  runs := by
    have marked : (store.markRun run status summary).1.runs.rows = store.runs.rows.map _ := rfl
    rw [marked, List.map_map]
    refine List.map_congr_left fun row _ => ?_
    show Run.origin (if row.id = run.id then _ else row) = Run.origin row
    split <;> rfl
  objectives := rfl
  control := .refl store.control

theorem of_controlWrites (writes : ControlWrites before after) :
    Continues before after where
  runs := by
    obtain ⟨control, taskLeases, rfl⟩ := writes.onlyControl
    rfl
  objectives := by
    obtain ⟨control, _, rfl⟩ := writes.onlyControl
    rfl
  control := writes.extended

end Continues

/-- One run of the task is created at the given time, and the budget of its
objective is charged at the recording time. -/
structure StartsRun (taskId : String) (createdAt recordedAt : Int)
    (before after : Store) : Prop where
  runs : after.runs.rows.map Run.origin = before.runs.rows.map Run.origin ++ [(taskId, createdAt)]
  objectives : after.objectiveOf = before.objectiveOf
  control : before.control.Extends after.control
  charged : ∀ objectiveId, before.objectiveOf taskId = some objectiveId →
    ∀ cutoff ≤ recordedAt, before.control.usageFrom cutoff "objective" objectiveId + 1 ≤
        after.control.usageFrom cutoff "objective" objectiveId

namespace StartsRun

variable {taskId : String} {createdAt recordedAt : Int}
  {before middle after : Store}

theorem after_continues (first : Continues before middle)
    (second : StartsRun taskId createdAt recordedAt middle after) :
    StartsRun taskId createdAt recordedAt before after where
  runs := by rw [second.runs, first.runs]
  objectives := second.objectives.trans first.objectives
  control := first.control.trans second.control
  charged objectiveId same cutoff passed := by
    have found : middle.objectiveOf taskId = some objectiveId := by
      rw [first.objectives]
      exact same
    have kept := first.control.usage cutoff "objective" objectiveId
    have charged := second.charged objectiveId found cutoff passed
    exact (Int.add_le_add_right kept 1).trans charged

theorem then_continues (first : StartsRun taskId createdAt recordedAt before middle)
    (second : Continues middle after) :
    StartsRun taskId createdAt recordedAt before after where
  runs := by rw [second.runs, first.runs]
  objectives := second.objectives.trans first.objectives
  control := first.control.trans second.control
  charged objectiveId same cutoff passed :=
    (first.charged objectiveId same cutoff passed).trans
      (second.control.usage cutoff "objective" objectiveId)

end StartsRun

def MayStart (taskId : String) (createdAt recordedAt : Int) (before after : Store) : Prop :=
  Continues before after ∨ StartsRun taskId createdAt recordedAt before after

variable {taskId : String} {createdAt recordedAt : Int}
  {before middle after : Store}

theorem MayStart.after_continues (first : Continues before middle)
    (second : MayStart taskId createdAt recordedAt middle after) :
    MayStart taskId createdAt recordedAt before after := by
  rcases second with second | second
  · exact .inl (trans_of Continues first second)
  · exact .inr (second.after_continues first)

theorem MayStart.then_continues (first : MayStart taskId createdAt recordedAt before middle)
    (second : Continues middle after) :
    MayStart taskId createdAt recordedAt before after := by
  rcases first with first | first
  · exact .inl (trans_of Continues first second)
  · exact .inr (first.then_continues second)

namespace RunService

section

variable (take : RunStep → RunProgram Unit)

def takeEach : List RunStep → RunProgram Unit
  | [] => pure ()
  | step :: steps => do
      take step
      takeEach steps

/-- `update_task_status`. -/
def updateTaskWith (write phase : RunStep) (task : Task)
    (status : TaskStatus) : RunProgram Unit := do
  takeEach take [write]
  let updated ← valueOf ((← get).updateTaskStatus task.id status)
  set updated
  takeEach take (phaseSteps phase task)

/-- `_apply_task_status_for_run`. -/
def applyTaskWith (read write phase : RunStep) (task : Task)
    (status : TaskStatus) : RunProgram TaskStatus := do
  takeEach take [read]
  match ← valueOf ((← get).keepsTaskStatus task.id status) with
  | some current => return current
  | none => do
      updateTaskWith take write phase task status
      return status

def markWith (step : RunStep) (run : Run) (status : RunStatus)
    (summary : String) : RunProgram Run := do
  takeEach take [step]
  modifyGet fun store => (store.markRun run status summary).swap

def recordRowsWith (create record : Nat → RunStep) :
    Nat → List Artifact → RunProgram Unit
  | _, [] => pure ()
  | index, row :: rows => do
      takeEach take [create index]
      modify fun store => store.createArtifact row
      takeEach take [record index]
      recordRowsWith create record (index + 1) rows

def announceValidationWith (run : Run) (answers : RunAnswers) : RunProgram Unit :=
  if answers.announcesValidation then do
    let _ ← markWith take .markAnnounced run .validating "Compiling and running focused tests."
    takeEach take [.reportAnnounced]
  else pure ()

/-- Those of `preparingSteps` that follow the report of the new run. -/
def preparedSteps : List RunStep :=
  [.runCreated, .metricStarted, .makeRunDirectory, .projectAdapter,
    .prepareWorkspace, .validateWorkspace]

def openRunWith (report : Run → RunProgram Unit) (task : Task)
    (answers : RunAnswers) : RunProgram Run := do
  let run := newRun (← get) task answers
  set (← valueOf (storedRun (← get) run))
  report run
  return run

variable (task : Task) (answers : RunAnswers)

/-- What `_work_phase` does with the stored run. -/
def workRunWith (run : Run) :
    RunProgram (WorkResult × Run) := do
  takeEach take preparedSteps
  recordRowsWith take .metadataArtifact .metadataRecorded 0
    (artifactRows answers run (metadataArtifacts answers))
  takeEach take planningSteps
  let run ← markWith take .markWorking run .working answers.planSummary
  takeEach take [.reportWorking, .setProgress]
  announceValidationWith take run answers
  let work ← valueOf answers.workResult
  takeEach take [.resetProgress, .failureEvidence]
  let work := ensureFailureEvidence answers.workspaceRoot run work
  if backendsUnavailable work then do
    let run ← markWith take .markUnavailable run .blocked "All LLM backends unavailable."
    let _ ← applyTaskWith take .readUnavailable .writeUnavailable .phaseUnavailable task .pending
    takeEach take [.reportUnavailable]
    return (work, run)
  else return (work, run)

/-- The second half of `_validation_phase`. -/
def concludeRunWith (run : Run) (work : WorkResult)
    (answers : RunAnswers) : RunProgram Run := do
  takeEach take [.workerCompleted]
  recordRowsWith take .workArtifact .workRecorded 0 (artifactRows answers run work.artifacts)
  let run ← markWith take .markAnalyzing run .analyzing work.summary
  takeEach take [.reportAnalyzing, .metricResult, .warnTimeout, .analyze]
  let analysis := DefaultAnalyzer.analyzeWork task work ((← get).listArtifacts run.id)
  takeEach take [.createEvaluation]
  modify fun store => store.createEvaluation
    { id := answers.evaluationId, runId := run.id, verdict := analysis.verdict
      summary := analysis.summary, details := analysis.details, createdAt := answers.now }
  takeEach take [.evaluationRecorded]
  let run ← markWith take .markDeciding run .deciding analysis.summary
  takeEach take [.reportDeciding, .metricEvaluation, .decide]
  let result := DefaultDecider.decide analysis run task
  takeEach take [.createDecision]
  modify fun store => store.createDecision
    { id := answers.decisionId, runId := run.id, action := result.action
      rationale := result.rationale, createdAt := answers.now }
  takeEach take [.decisionRecorded, .attemptMetadata]
  let run ← markWith take .markFinal run
    (finalRunStatus analysis.verdict result.action) result.rationale
  let _ ← applyTaskWith take .readFinal .writeFinal .phaseFinal task
    (decidedTaskStatus result.action)
  takeEach take reportingSteps
  return run

/-- `_validation_phase`. -/
def validationPhaseWith (run : Run) (work : WorkResult)
    (answers : RunAnswers) : RunProgram Run := do
  if needsExternalValidation work then do
    let run ← markWith take .markValidating run .validating "Running compile and test validation."
    takeEach take [.reportValidating, .validate, .validationEvidence]
    concludeRunWith take task run (validatedWork answers work) answers
  else concludeRunWith take task run work answers

/-- `_run_once_inner` after the run is stored. -/
def finishRunWith (run : Run) :
    RunProgram Run := do
  let (work, run) ← workRunWith take task answers run
  if run.status = .blocked then return run
  else do
    takeEach take [.reportReady]
    validationPhaseWith take task run work answers

/-- The `except` clause of `_run_once`. -/
def reopenWith : RunProgram Unit := do
  takeEach take [.handlerRead]
  match (← get).getTask task.id with
  | none => pure ()
  | some current =>
    if current.status = .active then updateTaskWith take .handlerWrite .handlerPhase task .pending
    else pure ()

/-- The checks of `run_once`. -/
def checkTaskWith (taskId : String) : RunProgram Task := do
  takeEach take [.cleanupWorkspaces, .getTask]
  let task ← valueOf (findTask (← get) taskId)
  takeEach take (gateSteps task)
  valueOf (passGate (← get) task)
  valueOf (unfinished task)
  takeEach take [.getProject]
  let _ ← valueOf (findProject (← get) task)
  return task

/-- `run_once`, with what its steps do and what the callback does about the
new run. -/
def runOnceWith (report : Run → RunProgram Unit) (taskId : String)
    (answers : RunAnswers) : RunProgram Run := do
  let task ← checkTaskWith take taskId
  updateTaskWith take .activate .activatePhase task .active
  tryCatch
    (do
      takeEach take openingSteps
      let run ← openRunWith report task answers
      finishRunWith take task answers run)
    fun error => do
      reopenWith take task
      throw error

end

/-! ## What a reported run does -/

theorem id_of_checkTaskWith {take : RunStep → RunProgram Unit} {task : Task}
    (checked : checkTaskWith take taskId before = .ok task after) :
    task.id = taskId := by
  obtain ⟨_, _, _, checked⟩ := ok_of_bind checked
  obtain ⟨store, _, _, checked⟩ := ok_of_bind checked
  obtain ⟨_, _, read, checked⟩ := ok_of_bind checked
  obtain ⟨_, _, _, checked⟩ := ok_of_bind checked
  obtain ⟨_, _, _, checked⟩ := ok_of_bind checked
  obtain ⟨_, _, _, checked⟩ := ok_of_bind checked
  obtain ⟨_, _, _, checked⟩ := ok_of_bind checked
  obtain ⟨_, _, _, checked⟩ := ok_of_bind checked
  obtain ⟨_, _, _, checked⟩ := ok_of_bind checked
  obtain ⟨_, _, _, checked⟩ := ok_of_bind checked
  cases checked
  unfold findTask at read
  cases stored : store.getTask taskId with
  | none =>
    rw [stored] at read
    cases read
  | some _ =>
    rw [stored] at read
    cases read
    exact ((KeyedTable.lookup_eq_some_iff _).mp stored).2

section

variable {take : RunStep → RunProgram Unit}
  (taken : ∀ step, Follows Continues (take step))

include taken

theorem follows_takeEach (steps : List RunStep) : Follows Continues (takeEach take steps) := by
  induction steps with
  | nil => exact .returns _
  | cons step _ ih => exact .bind (taken step) fun _ => ih

theorem follows_updateTaskWith (write phase : RunStep) (task : Task) (status : TaskStatus) :
    Follows Continues (updateTaskWith take write phase task status) := by
  refine .bind (follows_takeEach taken _) fun _ => .update ?_ (follows_takeEach taken _)
  intro before after updated
  rw [(Store.updateTaskStatus_eq_ok_iff.mp updated).2]
  exact .writeTaskStatus before _ _

theorem follows_applyTaskWith (read write phase : RunStep) (task : Task) (status : TaskStatus) :
    Follows Continues (applyTaskWith take read write phase task status) := by
  refine .bind (follows_takeEach taken _) fun _ => .bind .reads fun _ =>
    .bind (.value _) fun kept => ?_
  cases kept with
  | some _ => exact .returns _
  | none => exact .bind (follows_updateTaskWith taken _ _ _ _) fun _ => .returns _

theorem follows_markWith (step : RunStep) (run : Run) (status : RunStatus) (summary : String) :
    Follows Continues (markWith take step run status summary) :=
  .bind (follows_takeEach taken _) fun _ =>
    .changes fun before => .markRun before run status summary

theorem follows_recordRowsWith
    (create record : Nat → RunStep) (index : Nat) (rows : List Artifact) :
    Follows Continues (recordRowsWith take create record index rows) := by
  induction rows generalizing index with
  | nil => exact .returns _
  | cons _ _ ih =>
    refine .bind (follows_takeEach taken _) fun _ => .bind ?_ fun _ =>
      .bind (follows_takeEach taken _) fun _ => ih _
    exact .changes fun _ => .of_same rfl rfl rfl

theorem follows_announceValidationWith (run : Run) (answers : RunAnswers) :
    Follows Continues (announceValidationWith take run answers) := by
  unfold announceValidationWith
  split
  · exact .bind (follows_markWith taken _ _ _ _) fun _ => follows_takeEach taken _
  · exact .returns _

variable (task : Task) (answers : RunAnswers)

theorem follows_workRunWith (run : Run) :
    Follows Continues (workRunWith take task answers run) := by
  have steps := follows_takeEach taken
  have marks := follows_markWith taken
  refine .bind (steps _) fun _ =>
    .bind (follows_recordRowsWith taken _ _ _ _) fun _ => .bind (steps _)
      fun _ => .bind (marks _ _ _ _) fun _ => .bind (steps _) fun _ =>
        .bind (follows_announceValidationWith taken _ _) fun _ =>
          .bind (.value _) fun _ => .bind (steps _) fun _ => ?_
  dsimp only
  split
  · exact .bind (marks _ _ _ _) fun _ =>
      .bind (follows_applyTaskWith taken _ _ _ _ _) fun _ => .bind (steps _) fun _ => .returns _
  · exact .returns _

theorem follows_concludeRunWith (run : Run) (work : WorkResult) (answers : RunAnswers) :
    Follows Continues (concludeRunWith take task run work answers) := by
  have steps := follows_takeEach taken
  have marks := follows_markWith taken
  refine .bind (steps _) fun _ =>
    .bind (follows_recordRowsWith taken _ _ _ _) fun _ =>
      .bind (marks _ _ _ _) fun _ => .bind (steps _) fun _ =>
        .bind .reads fun _ => .bind (steps _) fun _ => .bind ?_ fun _ => ?_
  · exact .changes fun _ => .of_same rfl rfl rfl
  refine .bind (steps _) fun _ => .bind (marks _ _ _ _) fun _ =>
    .bind (steps _) fun _ => .bind (steps _) fun _ => .bind ?_ fun _ => ?_
  · exact .changes fun _ => .of_same rfl rfl rfl
  exact .bind (steps _) fun _ => .bind (marks _ _ _ _) fun _ =>
    .bind (follows_applyTaskWith taken _ _ _ _ _) fun _ => .bind (steps _) fun _ => .returns _

theorem follows_finishRunWith (run : Run) :
    Follows Continues (finishRunWith take task answers run) := by
  refine .bind (follows_workRunWith taken _ _ _) fun worked => ?_
  dsimp only
  split
  · exact .returns _
  · refine .bind (follows_takeEach taken _) fun _ => ?_
    unfold validationPhaseWith
    split
    · exact .bind (follows_markWith taken _ _ _ _) fun _ =>
        .bind (follows_takeEach taken _) fun _ => follows_concludeRunWith taken _ _ _ _
    · exact follows_concludeRunWith taken _ _ _ _

theorem follows_reopenWith : Follows Continues (reopenWith take task) := by
  refine .bind (follows_takeEach taken _) fun _ => .bind .reads fun _ => ?_
  split
  · exact .returns _
  · split
    · exact follows_updateTaskWith taken _ _ _ _
    · exact .returns _

theorem follows_checkTaskWith (taskId : String) : Follows Continues (checkTaskWith take taskId) :=
  .bind (follows_takeEach taken _) fun _ => .bind .reads fun _ =>
    .bind (.value _) fun _ => .bind (follows_takeEach taken _) fun _ =>
      .bind .reads fun _ => .bind (.value _) fun _ => .bind (.value _)
        fun _ => .bind (follows_takeEach taken _) fun _ =>
          .bind .reads fun _ => .bind (.value _) fun _ => .returns _

theorem follows_runOnceWith {report : Run → RunProgram Unit} {answers : RunAnswers}
    (opened : ∀ task : Task, task.id = taskId → Follows (MayStart taskId answers.now recordedAt)
        (openRunWith report task answers)) :
    Follows (MayStart taskId answers.now recordedAt) (runOnceWith take report taskId answers) := by
  have stops : ∀ before left, Continues before left →
      MayStart taskId answers.now recordedAt before left :=
    fun _ _ => .inl
  have later : ∀ before middle after, Continues before middle →
      MayStart taskId answers.now recordedAt middle after →
        MayStart taskId answers.now recordedAt before after :=
    fun _ _ _ => MayStart.after_continues
  have sooner : ∀ before middle after,
      MayStart taskId answers.now recordedAt before middle → Continues middle after →
          MayStart taskId answers.now recordedAt before after :=
    fun _ _ _ => MayStart.then_continues
  refine (follows_checkTaskWith taken taskId).seq ?_ stops later
  intro before task middle checked
  have named := id_of_checkTaskWith checked
  have worked : Follows (MayStart taskId answers.now recordedAt) (do
      takeEach take openingSteps
      let run ← openRunWith report task answers
      finishRunWith take task answers run) := by
    refine (follows_takeEach taken _).seq ?_ stops later
    intro _ _ started _
    refine (opened task named).seq ?_ (fun _ _ ended => ended) sooner started
    exact fun _ run stored _ => follows_finishRunWith taken task answers run stored
  have guarded : Follows (MayStart taskId answers.now recordedAt) (tryCatch
        (do
          takeEach take openingSteps
          let run ← openRunWith report task answers
          finishRunWith take task answers run)
        fun error => do
          reopenWith take task
          throw error) := by
    refine worked.caught (fun error => ?_) sooner
    exact .bind (follows_reopenWith taken task) fun _ => .raises error
  refine (follows_updateTaskWith taken _ _ task _).seq ?_ stops later middle
  exact fun _ _ activated _ => guarded activated

end

end RunService

end AccruviaHarness
