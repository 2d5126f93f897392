import AccruviaHarness.Policy
import AccruviaHarness.Services.ObjectiveGate
import AccruviaHarness.Store.RunRecords
import AccruviaHarness.Store.TaskStatus

/-!
# One run of a task

`run_once` activates the task, lets the worker work, analyses the result and
decides on the next status of the task.
-/

namespace AccruviaHarness

open Library

/-- What the collaborators of one run answer: the id generator, the planner,
the project adapter, the worker and the validation service, which answers
`none` when none is wired. -/
structure RunAnswers where
  now : Int := 0
  runId : String
  evaluationId : String := ""
  decisionId : String := ""
  artifactId : Nat → String := fun _ => ""
  workspaceRoot : String := ""
  planSummary : String := ""
  metadataFiles : List String := []
  announcesValidation : Bool := false
  workResult : Except PyError WorkResult
  validated : Option WorkResult := none

namespace RunService

/-- `work.diagnostics` as an object; `None` reads as empty. -/
def diagnosticsOf (work : WorkResult) : PyDict := work.diagnostics.getD []

/-- `_ensure_failure_evidence`: a blocked or failed result without a report
gets one. -/
def ensureFailureEvidence (workspaceRoot : String) (run : Run) (work : WorkResult) : WorkResult :=
  if work.outcome ≠ "blocked" ∧ work.outcome ≠ "failed" then work
  else if work.artifacts.any fun artifact => artifact.1 = "report" then work
  else
    { work with
      artifacts := work.artifacts ++
        [("report", workspaceRoot ++ "/runs/" ++ run.id ++ "/report.json",
          "Structured failure evidence report")] }

/-- `work.diagnostics and work.diagnostics.get("backends_unavailable")`. -/
def backendsUnavailable (work : WorkResult) : Bool :=
  ((diagnosticsOf work).get "backends_unavailable").truthy

variable (answers : RunAnswers)

def isUnavailable : Bool :=
  match answers.workResult with
  | .ok work => backendsUnavailable work
  | .error _ => false

def needsExternalValidation (work : WorkResult) : Bool :=
  work.outcome = "success" && ((diagnosticsOf work).get "worker_outcome").isText "candidate" &&
      !((diagnosticsOf work).get "skip_external_validation").truthy

def validationEvidenceMessage : String :=
  "Candidate validation did not persist deterministic compile_check and " ++
    "test_check evidence. The run cannot be promoted until validation " ++
    "writes those report fields."

def enforceValidationEvidence (work : WorkResult) : WorkResult :=
  let diagnostics := diagnosticsOf work
  let check (key : String) : PyValue :=
    match (diagnostics.get key).asDict with
    | some entries => .dict entries
    | none => .none
  if diagnostics.getStr "worker_outcome" = "candidate" ∨ (check "compile_check").asDict.isNone ∨
        (check "test_check").asDict.isNone then
    { summary := validationEvidenceMessage, artifacts := work.artifacts, outcome := "failed"
      diagnostics := some <| diagnostics.update
        [("worker_outcome", .str "failed"),
          ("failure_category", .str "validation_evidence_missing"),
          ("failure_message", .str validationEvidenceMessage),
          ("compile_check", check "compile_check"),
          ("test_check", check "test_check")] }
  else work

def validatedWork (work : WorkResult) : WorkResult :=
  if needsExternalValidation work then enforceValidationEvidence (answers.validated.getD work)
  else work

def artifactRows (run : Run) (artifacts : List (String × String × String)) : List Artifact :=
  artifacts.zipIdx.map fun ((kind, path, summary), index) =>
    { id := answers.artifactId index, runId := run.id, kind, path, summary
      createdAt := answers.now }

def recordArtifacts (run : Run)
    (artifacts : List (String × String × String)) (store : Store) : Store :=
  (artifactRows answers run artifacts).foldl Store.createArtifact store

def metadataArtifacts : List (String × String × String) :=
  answers.metadataFiles.map fun path =>
    ("workspace_metadata", path, "Prepared project workspace metadata")

variable (store : Store) (task : Task)

def newRun (answers : RunAnswers) : Run where
  id := answers.runId
  taskId := task.id
  status := .planning
  attempt := store.nextAttempt task.id
  summary := "Run created."
  createdAt := answers.now

def workPhase (answers : RunAnswers) : Store × Except PyError (WorkResult × Run) :=
  let run := newRun store task answers
  match store.createRun run with
  | none => (store, .error (.integrityError "UNIQUE constraint failed: runs.id"))
  | some store =>
    let store := recordArtifacts answers run (metadataArtifacts answers) store
    let (store, run) := store.markRun run .working answers.planSummary
    let store :=
      if answers.announcesValidation then
        (store.markRun run .validating "Compiling and running focused tests.").1
      else store
    match answers.workResult with
    | .error error => (store, .error error)
    | .ok work =>
      let work := ensureFailureEvidence answers.workspaceRoot run work
      if backendsUnavailable work then
        let (store, run) := store.markRun run .blocked "All LLM backends unavailable."
        match store.applyTaskStatusForRun task.id .pending with
        | .error error => (store, .error error)
        | .ok (store, _) => (store, .ok (work, run))
      else (store, .ok (work, run))

def finalRunStatus (verdict : EvaluationVerdict) (action : DecisionAction) :
    RunStatus :=
  if action = .branch then .failed
  else if verdict = .blocked then .blocked
  else if action = .promote then .completed
  else .failed

def decidedTaskStatus : DecisionAction → TaskStatus
  | .promote => .completed
  | .fail => .failed
  | .branch => .active
  | .retry => .pending

/-- The second half of `_validation_phase`: record the artifacts, analyse,
decide and write the statuses. -/
def concludeRun (run : Run)
    (work : WorkResult) (answers : RunAnswers) : Store × Except PyError Run :=
  let store := recordArtifacts answers run work.artifacts store
  let (store, run) := store.markRun run .analyzing work.summary
  let analysis := DefaultAnalyzer.analyzeWork task work (store.listArtifacts run.id)
  let store := store.createEvaluation
    { id := answers.evaluationId, runId := run.id, verdict := analysis.verdict
      summary := analysis.summary, details := analysis.details, createdAt := answers.now }
  let (store, run) := store.markRun run .deciding analysis.summary
  let result := DefaultDecider.decide analysis run task
  let store := store.createDecision
    { id := answers.decisionId, runId := run.id, action := result.action
      rationale := result.rationale, createdAt := answers.now }
  let (store, run) := store.markRun run
    (finalRunStatus analysis.verdict result.action) result.rationale
  match store.applyTaskStatusForRun task.id
    (decidedTaskStatus result.action) with
  | .error error => (store, .error error)
  | .ok (store, _) => (store, .ok run)

def validationPhase (run : Run) (work : WorkResult) (answers : RunAnswers) :
    Store × Except PyError Run :=
  if needsExternalValidation work then
    let (store, run) := store.markRun run .validating "Running compile and test validation."
    concludeRun store task run (validatedWork answers work) answers
  else concludeRun store task run work answers

def runOnceInner (answers : RunAnswers) : Store × Except PyError Run :=
  match workPhase store task answers with
  | (store, .error error) => (store, .error error)
  | (store, .ok (work, run)) =>
    if run.status = .blocked then (store, .ok run)
    else validationPhase store task run work answers

/-- The `except` branch of `_run_once`: an active task goes back to pending. -/
def reopenActive (taskId : String) : Store :=
  match store.getTask taskId with
  | some task =>
    if task.status = .active then store.writeTaskStatus taskId .pending
    else store
  | none => store

def runOnce (taskId : String) (answers : RunAnswers) : Store × Except PyError Run :=
  match store.getTask taskId with
  | none => (store, .error (.valueError ("Unknown task: " ++ taskId)))
  | some task =>
    match objectiveGateBlock store task with
    | some detail => (store, .error (.valueError detail))
    | none =>
      if task.status = .completed ∨ task.status = .failed then
        (store, .error (.valueError ("Task " ++ taskId ++ " is already " ++ task.status.value ++
            " — cannot run again")))
      else
        match store.getProject task.projectId with
        | none => (store, .error (.valueError ("Unknown project for task: " ++ task.projectId)))
        | some _ =>
          match store.updateTaskStatus task.id .active with
          | .error error => (store, .error error)
          | .ok store =>
            match runOnceInner store task answers with
            | (store, .ok run) => (store, .ok run)
            | (store, .error error) => (reopenActive store task.id, .error error)

/-! ## What one run changes -/

theorem foldl_createArtifact (artifacts : List Artifact) (store : Store) :
    artifacts.foldl Store.createArtifact store =
      { store with artifacts := store.artifacts ++ artifacts } := by
  induction artifacts generalizing store with
  | nil => simp
  | cons _ _ ih =>
    rw [List.foldl_cons, ih]
    simp [Store.createArtifact]

theorem recordArtifacts_eq (run : Run)
    (artifacts : List (String × String × String)) (store : Store) :
    recordArtifacts answers run artifacts store =
      { store with
        artifacts := store.artifacts ++ artifactRows answers run artifacts } :=
  foldl_createArtifact _ store

/-- The row of the run is the last one; its status and its summary may differ
from those that the run service holds. -/
def OpenRun (earlier : List Run) (run : Run) : Prop :=
  (∃ status summary,
    store.runs.rows = earlier ++ [{ run with status, summary }]) ∧
    ∀ other ∈ earlier, other.id ≠ run.id

variable {store : Store} {earlier : List Run} {run : Run} {current task : Task}
  {answers : RunAnswers} {work : WorkResult}

theorem rows_markRun (openRun : OpenRun store earlier run) (status : RunStatus) (summary : String) :
    (store.markRun run status summary).1.runs.rows = earlier ++ [{ run with status, summary }] := by
  obtain ⟨⟨stored, storedSummary, rows⟩, others⟩ := openRun
  have alone : ∀ other ∈ earlier ++ [], other.id ≠ run.id := by simpa using others
  exact @KeyedTable.rows_updateAt Run String Run.id _ store.runs run.id
    { run with
      status := stored, summary := storedSummary } earlier [] _ rfl rows alone

theorem OpenRun.markRun (openRun : OpenRun store earlier run) (status : RunStatus)
    (summary : String) :
    OpenRun (store.markRun run status summary).1 earlier (store.markRun run status summary).2 :=
  ⟨⟨status, summary, rows_markRun openRun status summary⟩, openRun.2⟩

def analysedWork (run : Run) (answers : RunAnswers) (work : WorkResult) :
    WorkResult :=
  validatedWork answers (ensureFailureEvidence answers.workspaceRoot run work)

def analysedArtifacts (store : Store) (run : Run) (answers : RunAnswers)
    (work : WorkResult) : List Artifact :=
  orderBy Store.ArtifactOrder <|
    (store.artifacts ++ artifactRows answers run (metadataArtifacts answers) ++
      artifactRows answers run (analysedWork run answers work).artifacts).filter
        fun artifact => artifact.runId = run.id

def runAnalysis (store : Store) (task : Task) (answers : RunAnswers)
    (work : WorkResult) : AnalyzeResult :=
  let run := newRun store task answers
  DefaultAnalyzer.analyzeWork task (analysedWork run answers work)
    (analysedArtifacts store run answers work)

variable {taskId : String} {created : Store}

theorem applyTaskStatusForRun_of_active
    {later : Store} (found : store.getTask taskId = some current)
    (active : current.status = .active) (status : TaskStatus)
    (sameTasks : later.tasks = store.tasks) :
    later.applyTaskStatusForRun taskId status =
      .ok (later.writeTaskStatus taskId status, status) := by
  have stillFound : later.getTask taskId = some current := by
    rw [← found, Store.getTask, sameTasks, Store.getTask]
  have notCompleted : ¬ (current.status = .completed ∧ status ≠ .completed) := by
    rw [active]
    exact fun completed => absurd completed.1 (by decide)
  have allowed : current.status.Allows status := by
    rw [active]
    cases status <;> decide
  have updated : later.updateTaskStatus taskId status = .ok (later.writeTaskStatus taskId status) :=
    Store.updateTaskStatus_eq_ok_iff.mpr ⟨⟨current, stillFound, allowed⟩, rfl⟩
  simp only [Store.applyTaskStatusForRun, Store.keepsTaskStatus, stillFound,
    if_neg notCompleted, updated]

def decisionRow (answers : RunAnswers) (runId : String) (result : DecideResult) : Decision where
  id := answers.decisionId
  runId
  action := result.action
  rationale := result.rationale
  createdAt := answers.now

/-- What a run leaves: its row after the earlier ones, the status of its task,
artifacts of its own and the decision on it, if there was one. -/
structure Leaves (before : Store) (earlier : List Run) (taskId : String)
    (run : Run) (chosen : Option Decision) (status : TaskStatus)
    (after : Store) : Prop where
  tasks : after.tasks = (before.writeTaskStatus taskId status).tasks
  runs : after.runs.rows = earlier ++ [run]
  artifacts : ∃ rows, after.artifacts = before.artifacts ++ rows ∧ ∀ row ∈ rows, row.runId = run.id
  decisions : after.decisions = before.decisions ++ chosen.toList
  projects : after.projects = before.projects
  gate : objectiveGateBlock after = objectiveGateBlock before

theorem Leaves.getTask {before after : Store} {chosen : Option Decision} {status : TaskStatus}
    (leaves : Leaves before earlier taskId run chosen status after)
    (found : before.getTask taskId = some task) :
    after.getTask taskId = some { task with status } := by
  rw [Store.getTask, leaves.tasks]
  show (before.writeTaskStatus taskId status).getTask taskId = _
  rw [Store.getTask_writeTaskStatus, found]
  simp

theorem runId_of_mem_artifactRows {artifacts : List (String × String × String)} {row : Artifact}
    (member : row ∈ artifactRows answers run artifacts) :
    row.runId = run.id := by
  obtain ⟨_, _, rfl⟩ := List.mem_map.mp member
  rfl

theorem concludeRun_spec (openRun : OpenRun store earlier run)
    (found : store.getTask task.id = some current)
    (active : current.status = .active) :
    let analysis := DefaultAnalyzer.analyzeWork task work (orderBy Store.ArtifactOrder <|
        (store.artifacts ++ artifactRows answers run work.artifacts).filter
          fun artifact => artifact.runId = run.id)
    let result := DefaultDecider.decide analysis run task
    let finished : Run :=
      { run with
        status := finalRunStatus analysis.verdict result.action, summary := result.rationale }
    ∃ next, concludeRun store task run work answers = (next, .ok finished) ∧
        Leaves store earlier task.id finished (some (decisionRow answers run.id result))
          (decidedTaskStatus result.action) next := by
  intro analysis result finished
  unfold concludeRun
  simp only [recordArtifacts_eq]
  rw [applyTaskStatusForRun_of_active found active _ ?sameTasks]
  case sameTasks => rfl
  have recorded : OpenRun { store with
      artifacts := store.artifacts ++
        artifactRows answers run work.artifacts } earlier run := openRun
  have analysed := recorded.markRun .analyzing work.summary
  have deciding := analysed.markRun .deciding analysis.summary
  refine ⟨_, rfl, rfl, rows_markRun deciding _ _, ?_, rfl, rfl, rfl⟩
  exact ⟨_, rfl, fun row member => runId_of_mem_artifactRows member⟩

theorem validationPhase_spec {store : Store} {task current : Task} {run : Run} {work : WorkResult}
    {answers : RunAnswers} {earlier : List Run}
    (openRun : OpenRun store earlier run)
    (found : store.getTask task.id = some current)
    (active : current.status = .active) :
    let validated := validatedWork answers work
    let analysis := DefaultAnalyzer.analyzeWork task validated
      (orderBy Store.ArtifactOrder <| (store.artifacts ++
          artifactRows answers run validated.artifacts).filter
            fun artifact => artifact.runId = run.id)
    let result := DefaultDecider.decide analysis run task
    let finished : Run :=
      { run with
        status := finalRunStatus analysis.verdict result.action, summary := result.rationale }
    ∃ next, validationPhase store task run work answers = (next, .ok finished) ∧
        Leaves store earlier task.id finished (some (decisionRow answers run.id result))
          (decidedTaskStatus result.action) next := by
  unfold validationPhase
  by_cases external : needsExternalValidation work = true
  · rw [if_pos external]
    obtain ⟨next, ended, leaves⟩ := concludeRun_spec (openRun.markRun .validating _) found active
    exact ⟨next, ended, leaves.tasks, leaves.runs, leaves.artifacts,
      leaves.decisions, leaves.projects, leaves.gate⟩
  · have same : validatedWork answers work = work := if_neg external
    rw [if_neg external, same]
    exact concludeRun_spec openRun found active

theorem backendsUnavailable_ensureFailureEvidence
    (workspaceRoot : String) (run : Run) (work : WorkResult) :
    backendsUnavailable (ensureFailureEvidence workspaceRoot run work) =
      backendsUnavailable work := by
  unfold ensureFailureEvidence
  split_ifs <;> rfl

structure Opened (before : Store) (task : Task) (answers : RunAnswers)
    (run : Run) (after : Store) : Prop where
  openRun : OpenRun after before.runs.rows run
  tasks : after.tasks = before.tasks
  artifacts : after.artifacts = before.artifacts ++
    artifactRows answers (newRun before task answers) (metadataArtifacts answers)
  decisions : after.decisions = before.decisions
  projects : after.projects = before.projects
  gate : objectiveGateBlock after = objectiveGateBlock before

theorem Opened.leaves {before opened after : Store} {task : Task} {answers : RunAnswers}
    {run finished : Run} {chosen : Option Decision} {status : TaskStatus}
    (begun : Opened before task answers run opened)
    (own : finished.id = answers.runId)
    (leaves : Leaves opened before.runs.rows task.id finished chosen status after) :
    Leaves before before.runs.rows task.id finished chosen status after := by
  refine ⟨?_, leaves.runs, ?_, ?_, leaves.projects.trans begun.projects,
    leaves.gate.trans begun.gate⟩
  · rw [leaves.tasks]
    unfold Store.writeTaskStatus
    rw [begun.tasks]
  · obtain ⟨_, artifacts, ownRows⟩ := leaves.artifacts
    rw [artifacts, begun.artifacts, List.append_assoc]
    refine ⟨_, rfl, ?_⟩
    intro row member
    rcases List.mem_append.mp member with metadata | produced
    · rw [runId_of_mem_artifactRows metadata, own]
      rfl
    · exact ownRows row produced
  · rw [leaves.decisions, begun.decisions]

def workingRun (store : Store) (task : Task) (answers : RunAnswers) : Run :=
  { newRun store task answers with
    status := .working, summary := answers.planSummary }

theorem workPhase_opens (inserted : store.createRun (newRun store task answers) = some created)
    (worked : answers.workResult = .ok work) :
    ∃ opened, Opened store task answers (workingRun store task answers) opened ∧
        workPhase store task answers =
          let run := workingRun store task answers
          let work := ensureFailureEvidence answers.workspaceRoot run work
          if backendsUnavailable work then
            let (next, run) := opened.markRun run .blocked "All LLM backends unavailable."
            match next.applyTaskStatusForRun task.id .pending with
            | .error error => (next, .error error)
            | .ok (next, _) => (next, .ok (work, run))
          else (opened, .ok (work, run)) := by
  have fresh := Store.fresh_of_createRun inserted
  obtain ⟨runs, insertedRow, rfl⟩ := Option.map_eq_some_iff.mp inserted
  have rows := KeyedTable.rows_of_insert? insertedRow
  have recorded : OpenRun { store with
      runs
      artifacts := store.artifacts ++ artifactRows answers
        (newRun store task answers) (metadataArtifacts answers) }
      store.runs.rows (newRun store task answers) :=
    ⟨⟨_, _, rows⟩, fresh⟩
  have working := recorded.markRun .working answers.planSummary
  unfold workPhase
  simp only [inserted, recordArtifacts_eq, worked]
  by_cases announces : answers.announcesValidation = true
  · rw [if_pos announces]
    exact ⟨_, ⟨⟨⟨_, _, rows_markRun working .validating
      "Compiling and running focused tests."⟩, fresh⟩, rfl, rfl, rfl, rfl,
      rfl⟩, rfl⟩
  · rw [if_neg announces]
    exact ⟨_, ⟨working, rfl, rfl, rfl, rfl, rfl⟩, rfl⟩

def runDecision (store : Store) (task : Task) (answers : RunAnswers)
    (work : WorkResult) : DecideResult :=
  DefaultDecider.decide (runAnalysis store task answers work) (newRun store task answers) task

def chosenOn (store : Store) (task : Task) (answers : RunAnswers)
    (work : WorkResult) : Option Decision :=
  if backendsUnavailable work then none
  else some (decisionRow answers answers.runId (runDecision store task answers work))

def statusAfter (store : Store) (task : Task) (answers : RunAnswers)
    (work : WorkResult) : TaskStatus :=
  if backendsUnavailable work then .pending
  else decidedTaskStatus (runDecision store task answers work).action

structure NextRun (store : Store) (taskId : String) (answers : RunAnswers)
    (run : Run) : Prop where
  named : run.id = answers.runId
  ofTask : run.taskId = taskId
  attempt : run.attempt = store.nextAttempt taskId
  branchId : run.branchId = none

theorem runOnceInner_spec (found : store.getTask task.id = some current)
    (active : current.status = .active)
    (inserted : store.createRun (newRun store task answers) = some created)
    (worked : answers.workResult = .ok work) :
    ∃ next finished, runOnceInner store task answers = (next, .ok finished) ∧
        NextRun store task.id answers finished ∧
          Leaves store store.runs.rows task.id finished (chosenOn store task answers work)
            (statusAfter store task answers work) next := by
  obtain ⟨opened, begun, ended⟩ := workPhase_opens inserted worked
  have stillFound : opened.getTask task.id = some current := by
    rw [← found, Store.getTask, begun.tasks, Store.getTask]
  unfold runOnceInner chosenOn statusAfter
  rw [ended]
  simp only [backendsUnavailable_ensureFailureEvidence]
  by_cases unavailable : backendsUnavailable work = true
  · simp only [if_pos unavailable]
    rw [applyTaskStatusForRun_of_active stillFound active _ ?sameTasks]
    case sameTasks => rfl
    refine ⟨_, _, rfl, ⟨rfl, rfl, rfl, rfl⟩, begun.leaves rfl
      ⟨rfl, rows_markRun begun.openRun _ _, ⟨[], (List.append_nil _).symm,
        nofun⟩, (List.append_nil _).symm, rfl, rfl⟩⟩
  · simp only [if_neg unavailable]
    obtain ⟨next, validated, leaves⟩ :=
      @validationPhase_spec opened task current _ (ensureFailureEvidence answers.workspaceRoot
          (newRun store task answers) work) answers _ begun.openRun stillFound
          active
    rw [begun.artifacts] at validated leaves
    exact ⟨next, _, validated, ⟨rfl, rfl, rfl, rfl⟩, begun.leaves rfl leaves⟩

theorem runOnce_cases (found : store.getTask task.id = some task)
    (unfinished : ¬ (task.status = .completed ∨ task.status = .failed))
    (unblocked : objectiveGateBlock store task = none)
    (worked : answers.workResult = .ok work) :
    (∃ next error, runOnce store task.id answers = (next, .error error) ∧
          (task.status = .pending → next.tasks = store.tasks) ∧
            next.runs = store.runs ∧ (store.getProject task.projectId = none ∨
                ∃ other ∈ store.runs.rows, other.id = answers.runId)) ∨
      ∃ next finished, runOnce store task.id answers = (next, .ok finished) ∧
          NextRun store task.id answers finished ∧ Leaves store store.runs.rows task.id finished
              (chosenOn store task answers work)
              (statusAfter store task answers work) next ∧ store.getProject task.projectId ≠ none ∧
                  ∀ other ∈ store.runs.rows, other.id ≠ answers.runId := by
  have allowed : task.status.Allows .active := by
    cases status : task.status with
    | pending => decide
    | active => decide
    | completed => exact absurd (.inl status) unfinished
    | failed => exact absurd (.inr status) unfinished
  have activated : store.updateTaskStatus task.id .active =
      .ok (store.writeTaskStatus task.id .active) :=
    Store.updateTaskStatus_eq_ok_iff.mpr ⟨⟨task, found, allowed⟩, rfl⟩
  have activeTask : (store.writeTaskStatus task.id .active).getTask task.id =
      some { task with status := .active } := by
    rw [Store.getTask_writeTaskStatus, found]
    simp
  unfold runOnce
  simp only [found, unblocked, if_neg unfinished]
  cases project : store.getProject task.projectId with
  | none => exact .inl ⟨store, _, rfl, fun _ => rfl, rfl, .inl rfl⟩
  | some _ =>
    simp only [activated]
    cases inserted : (store.writeTaskStatus task.id .active).createRun
        (newRun (store.writeTaskStatus task.id .active) task answers) with
    | none =>
      left
      have refused :
          runOnceInner (store.writeTaskStatus task.id .active) task answers =
            (store.writeTaskStatus task.id .active, .error (.integrityError
                "UNIQUE constraint failed: runs.id")) := by
        simp only [runOnceInner, workPhase, inserted]
      have used : ∃ other ∈ store.runs.rows, other.id = answers.runId :=
        store.runs.insert?_eq_none_iff.mp (Option.map_eq_none_iff.mp inserted)
      have reopened :
          reopenActive (store.writeTaskStatus task.id .active) task.id =
            store.writeTaskStatus task.id .pending := by
        simp only [reopenActive, activeTask, if_true]
        exact store.writeTaskStatus_writeTaskStatus task.id _ _
      rw [refused]
      simp only [reopened]
      refine ⟨_, _, rfl, ?_, rfl, .inr used⟩
      intro pending
      rw [← pending]
      exact Store.writeTaskStatus_same found
    | some _ =>
      right
      obtain ⟨next, finished, outcome, nextRun, leaves⟩ :=
        runOnceInner_spec activeTask rfl inserted worked
      have fresh := Store.fresh_of_createRun inserted
      rw [outcome]
      refine ⟨next, finished, rfl, ⟨nextRun.named, nextRun.ofTask,
        nextRun.attempt, nextRun.branchId⟩, ?_, nofun, fresh⟩
      obtain ⟨tasks, runs, artifacts, decisions, projects, gate⟩ := leaves
      refine ⟨?_, runs, artifacts, decisions, projects, gate⟩
      rw [tasks, Store.writeTaskStatus_writeTaskStatus]
      rfl

end RunService

end AccruviaHarness
