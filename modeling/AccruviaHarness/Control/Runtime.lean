import AccruviaHarness.Control.Plane

/-!
# The runtime observer

`ControlRuntimeObserver.handle` turns the progress events of the workers into
control operations.
-/

namespace AccruviaHarness

open Library

structure FailureClassification where
  classification : String
  cooldownSeconds : Int
  deriving DecidableEq, Repr

/-- The events that the observer reads, with the fields that it reads. An
empty text stands for a field that the event does not have. -/
inductive ObserverEvent where
  | taskStarted
  | runCreated (runId taskId : String) (attempt : Int)
  | taskFinished (runId runStatus taskId status : String)
  | failureDiagnostic (runId taskId runStatus : String)
      (taskStatus : PyValue) (classified : FailureClassification)
      (bundleDir : String)
  | backendsUnavailable (classified : FailureClassification)
  | other (eventType : String)

/-- `ORDER BY started_at DESC`. -/
def NewestWorkerRun (first second : ControlWorkerRun) : Prop := second.startedAt ≤ first.startedAt

instance : DecidableRel NewestWorkerRun := fun _ _ => inferInstanceAs (Decidable (_ ≤ _))

namespace ControlTables

variable (control : ControlTables)

/-- `upsert_control_worker_run`. -/
def upsertWorkerRun (workerRun : ControlWorkerRun) :
    ControlTables :=
  { control with
    workerRuns :=
      match control.workerRuns.insert? workerRun with
      | some workerRuns => workerRuns
      | none =>
        control.workerRuns.updateAt workerRun.id
          ⟨fun stored => { workerRun with id := stored.id }, fun _ => rfl⟩ }

/-- `list_control_worker_runs`. -/
def listWorkerRuns : List ControlWorkerRun := orderBy NewestWorkerRun control.workerRuns.rows

end ControlTables

namespace ControlRuntimeObserver

open ControlPlane

/-- `value or default` for a text. -/
def orText (text default : String) : String := if text = "" then default else text

def infraFailures : List String :=
  ["provider_rate_limit", "provider_outage", "credit_exhaustion", "hung_process"]

def taskFailures : List String :=
  ["code_defect", "test_infrastructure_failure", "scope_too_broad",
    "artifact_contract_failure", "system_failure", "unknown"]

variable (store : Store)

def setWorkerLane (state : ControlLaneStateValue) (reason : String) : Store :=
  writeLane store "worker" state reason none

def applyClassificationPolicy (now : Int)
    (classified : FailureClassification) : Store × Except PyError Unit :=
  let classification := classified.classification
  if (classification = "provider_rate_limit" ∨
        classification = "provider_outage") ∧
      0 < classified.cooldownSeconds then
    let (store, entered) := enterCooldown store now "worker" classification
      classified.cooldownSeconds
    (store, entered.map fun _ => ())
  else if classification = "credit_exhaustion" then
    match pauseLane store now "worker" classification with
    | (store, .error error) => (store, .error error)
    | (store, .ok _) =>
      ((recordHumanEscalation store now "credit_exhaustion"
        [("reason", .str "Credit exhaustion requires operator action before more work can run.")]).1,
        .ok ())
  else if classification ∈ taskFailures then (setWorkerLane store .running classification, .ok ())
  else if classification ∈ infraFailures then
    let store := setWorkerLane store .paused classification
    ((markDegraded store now classification).1, .ok ())
  else (setWorkerLane store .running classification, .ok ())

variable (control : ControlTables)

def recentClassificationCount (classification : String) : Nat :=
  (control.listWorkerRuns.take 8).countP fun workerRun =>
    workerRun.classification = some classification

variable (now : Int)

/-- The worker run that `_record_failure` stores. -/
def failedWorkerRun (runId taskId runStatus : String) (classification bundleDir : String) :
    ControlWorkerRun :=
  let existing := (control.workerRuns.lookup runId).getD
    { id := runId, taskId := some taskId, startedAt := now }
  { existing with
    status := orText runStatus "failed", classification := some classification
    endedAt := some now, breadcrumbPath := some bundleDir }

/-- The rows that `_record_failure` stores before it applies a policy. -/
def storeFailure (runId taskId runStatus : String) (taskStatus : PyValue)
    (classification bundleDir : String) : Store :=
  let store := onControl store fun control =>
    control.upsertWorkerRun
      (failedWorkerRun control now runId taskId runStatus classification bundleDir)
  recordEvent store now "worker_failed" "task" (orText taskId runId)
    [("run_id", .str runId), ("classification", .str classification), ("task_status", taskStatus)]

def recordFailure (runId taskId runStatus : String) (taskStatus : PyValue)
    (classified : FailureClassification) (bundleDir : String) :
    Store × Except PyError Unit :=
  let classification := classified.classification
  let store := storeFailure store now runId taskId runStatus taskStatus classification bundleDir
  match applyClassificationPolicy store now classified with
  | (store, .error error) => (store, .error error)
  | (store, .ok ()) =>
    if classification = "unknown" ∧ 2 ≤ recentClassificationCount store.control "unknown" then
      ((recordHumanEscalation store now "unknown_repeated"
        [("reason", .str "Unknown classification occurred twice and requires operator review.")]).1,
        .ok ())
    else (store, .ok ())

variable (objectiveId : String)

def lacksProgress : Bool :=
  let recentRuns := (control.listWorkerRuns.filter fun workerRun =>
    workerRun.objectiveId = some objectiveId).take 3
  recentRuns.length = 3 && recentRuns.all fun workerRun => workerRun.status = "completed"

def enforceNoProgress (completedTask : Option Task) : Store :=
  match completedTask.bind Task.objective? with
  | none => store
  | some objectiveId =>
    match store.getObjective objectiveId with
    | none => store
    | some objective =>
      if objective.status = .resolved then store
      else if lacksProgress store.control objectiveId then
        (recordHumanEscalation store now "no_progress" [("objective_id", .str objectiveId),
            ("reason", .str noProgressReason)]).1
      else store

def spendObjectiveBudget : Store :=
  let store := onControl store fun control => control.recordBudgetUsage now "objective" objectiveId
  if store.control.budgetExhausted now "objective" objectiveId then
    (recordHumanEscalation store now "budget_exhausted" [("objective_id", .str objectiveId),
        ("reason", .str "Expensive coding run budget exhausted for this objective in the current hour.")]).1
  else store

/-- The handler of `run_created`. -/
def handleRunCreated (runId taskId : String) (attempt : Int) : Store :=
  let task := store.getTask taskId
  let store := onControl store fun control =>
    control.upsertWorkerRun
      { id := runId, taskId := some taskId, objectiveId := task.bind Task.objectiveId
        attempt := if attempt = 0 then 1 else attempt
        startedAt := now }
  match task.bind Task.objective? with
  | none =>
    onControl store fun control => control.recordBudgetUsage now "worker" "expensive_coding_runs"
  | some objectiveId => spendObjectiveBudget store now objectiveId

def finishWorkerRun (runId runStatus : String) : ControlTables :=
  match control.workerRuns.lookup runId with
  | none => control
  | some workerRun =>
    control.upsertWorkerRun
      { workerRun with
        status := orText runStatus "completed", endedAt := some now }

/-- The handler of `task_finished`. -/
def handleTaskFinished (runId runStatus taskId status : String) : Store :=
  let store := onControl store fun control => finishWorkerRun control now runId runStatus
  let completedTask := if taskId = "" then none else store.getTask taskId
  if status = "completed" then
    enforceNoProgress (markHealthy store now "task_completed").1 now completedTask
  else store

def handle (store : Store) (now : Int) :
    ObserverEvent → Store × Except PyError Unit
  | .taskStarted => (setWorkerLane store .running "task_started", .ok ())
  | .runCreated runId taskId attempt => (handleRunCreated store now runId taskId attempt, .ok ())
  | .taskFinished runId runStatus taskId status =>
    (handleTaskFinished store now runId runStatus taskId status, .ok ())
  | .failureDiagnostic runId taskId runStatus taskStatus classified
      bundleDir =>
      recordFailure store now runId taskId runStatus taskStatus classified bundleDir
  | .backendsUnavailable classified => applyClassificationPolicy store now classified
  | .other _ => (store, .ok ())

end ControlRuntimeObserver

inductive ControlOperation where
  | turnOn
  | turnOff
  | freeze (reason : String)
  | thaw
  | markDegraded (reason : String)
  | markHealthy (reason : String)
  | pauseLane (laneName reason : String)
  | resumeLane (laneName reason : String)
  | enterCooldown (laneName reason : String) (seconds : Int)
  | status
  | observe (event : ObserverEvent)

structure ControlCall where
  now : Int
  operation : ControlOperation

def performControl (store : Store) (call : ControlCall) : Store :=
  match call.operation with
  | .turnOn => (ControlPlane.turnOn store call.now).1
  | .turnOff => (ControlPlane.turnOff store call.now).1
  | .freeze reason => (ControlPlane.freeze store call.now reason).1
  | .thaw => (ControlPlane.thaw store call.now).1
  | .markDegraded reason => (ControlPlane.markDegraded store call.now reason).1
  | .markHealthy reason => (ControlPlane.markHealthy store call.now reason).1
  | .pauseLane laneName reason => (ControlPlane.pauseLane store call.now laneName reason).1
  | .resumeLane laneName reason => (ControlPlane.resumeLane store call.now laneName reason).1
  | .enterCooldown laneName reason seconds =>
    (ControlPlane.enterCooldown store call.now laneName reason seconds).1
  | .status => (ControlPlane.status store call.now).1
  | .observe event => (ControlRuntimeObserver.handle store call.now event).1

end AccruviaHarness
