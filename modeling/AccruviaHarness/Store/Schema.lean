import AccruviaHarness.Domain
import AccruviaHarness.Library.KeyedTable
import AccruviaHarness.Library.OrderedSelection

/-!
# The tables of the store

One field for each table that the modelled functions read or write. A table
with a primary key is a `KeyedTable`, so its uniqueness constraint is part of
its type; the tables that are only appended to are lists in insertion order.
-/

namespace AccruviaHarness

open Library

/-- The `control_*` tables. The lanes are listed by name. -/
structure ControlTables where
  systemState : ControlSystemState := {}
  laneStates : KeyedTable ControlLaneState.laneName := default
  workerRuns : KeyedTable ControlWorkerRun.id := default
  events : List ControlEvent := []
  budgets : List ControlBudget := []

structure Store where
  projects : KeyedTable Project.id := default
  tasks : KeyedTable Task.id := default
  taskLeases : KeyedTable TaskLease.taskId := default
  runs : KeyedTable Run.id := default
  artifacts : List Artifact := []
  evaluations : List Evaluation := []
  decisions : List Decision := []
  decisionQueue : KeyedTable DecisionQueueItem.id := default
  objectives : KeyedTable Objective.id := default
  /-- The objective ids of the intent models. -/
  intentModels : List String := []
  contextRecords : List ContextRecord := []
  mermaidArtifacts : List MermaidArtifact := []
  plans : KeyedTable Plan.id := default
  promotions : KeyedTable PromotionRecord.id := default
  control : ControlTables := {}

namespace Store

variable (store : Store)

def getTask (taskId : String) : Option Task := store.tasks.lookup taskId

def getProject (projectId : String) : Option Project := store.projects.lookup projectId

variable (objectiveId : String)

/-- `get_objective`. Its query does not select the `phase` column, and a row
without one is read as `created`. -/
def getObjective : Option Objective :=
  (store.objectives.lookup objectiveId).map fun row => { row with phase := .created }

def setObjectivePhase (phase : ObjectivePhase) : Store :=
  { store with
    objectives := store.objectives.updateAt objectiveId
      ⟨fun row => { row with phase, status := phaseToStatus phase }, fun _ => rfl⟩ }

/-- `ORDER BY priority DESC, created_at`. -/
def TaskOrder (first second : Task) : Prop :=
  second.priority < first.priority ∨
    (first.priority = second.priority ∧ first.createdAt ≤ second.createdAt)

instance : DecidableRel TaskOrder := fun _ _ => inferInstanceAs (Decidable (_ ∨ _))

def listTasks (projectId : String) : List Task :=
  orderBy TaskOrder <|
    store.tasks.rows.filter fun task => projectId = "" || task.projectId = projectId

/-- `ORDER BY created_at`. -/
def ContextOrder (first second : ContextRecord) : Prop := first.createdAt ≤ second.createdAt

instance : DecidableRel ContextOrder := fun _ _ => inferInstanceAs (Decidable (_ ≤ _))

/-- `ORDER BY version, created_at`. -/
def MermaidOrder (first second : MermaidArtifact) : Prop :=
  first.version < second.version ∨
    (first.version = second.version ∧ first.createdAt ≤ second.createdAt)

instance : DecidableRel MermaidOrder := fun _ _ => inferInstanceAs (Decidable (_ ∨ _))

def latestMermaidArtifact : Option MermaidArtifact :=
  (orderBy MermaidOrder <|
    store.mermaidArtifacts.filter fun artifact => artifact.objectiveId = objectiveId).getLast?

def listContextRecords (objectiveId recordType : String) : List ContextRecord :=
  orderBy ContextOrder <|
    store.contextRecords.filter fun record =>
      record.objectiveId = some objectiveId && record.recordType = recordType

/-- `UPDATE tasks SET status = ? WHERE id = ?`, without any check. -/
def writeTaskStatus (taskId : String) (status : TaskStatus) :
    Store :=
  { store with
    tasks := store.tasks.updateAt taskId
      ⟨fun task => { task with status }, fun _ => rfl⟩ }

def updateTaskExternalMetadata (taskId : String) (externalRefMetadata : PyDict) : Store :=
  { store with
    tasks := store.tasks.updateAt taskId
      ⟨fun task => { task with externalRefMetadata }, fun _ => rfl⟩ }

def createContextRecord (record : ContextRecord) : Store :=
  { store with contextRecords := store.contextRecords ++ [record] }

variable (task : Task)

def createTask : Store :=
  match store.tasks.insert? task with
  | some tasks => { store with tasks }
  | none => store

/-- `ORDER BY created_at, id`. -/
def PlanOrder (first second : Plan) : Prop :=
  first.createdAt < second.createdAt ∨ (first.createdAt = second.createdAt ∧ first.id ≤ second.id)

instance : DecidableRel PlanOrder := fun _ _ => inferInstanceAs (Decidable (_ ∨ _))

def listPlansForObjective : List Plan :=
  orderBy PlanOrder <| store.plans.rows.filter fun plan => plan.objectiveId = objectiveId

def getPlan (planId : String) : Option Plan := store.plans.lookup planId

def createPlan (plan : Plan) : Except PyError Store :=
  match store.plans.insert? plan with
  | some plans => .ok { store with plans }
  | none => .error (.integrityError "UNIQUE constraint failed: plans.id")

/-- `ORDER BY created_at`. -/
def CreatedOrder (first second : Task) : Prop := first.createdAt ≤ second.createdAt

instance : DecidableRel CreatedOrder := fun _ _ => inferInstanceAs (Decidable (_ ≤ _))

def getTaskByExternalRef (refType refId : String) : Option Task :=
  (orderBy CreatedOrder <|
    store.tasks.rows.filter fun task =>
      task.externalRefType = some refType &&
        task.externalRefId = some refId).head?

def findFollowOnTask (parentTaskId sourceRunId : String) : Option Task :=
  (orderBy CreatedOrder <|
    store.tasks.rows.filter fun task =>
      task.parentTaskId = some parentTaskId &&
        task.sourceRunId = some sourceRunId).head?

@[simp]
theorem writeTaskStatus_projects (taskId : String) (status : TaskStatus) :
    (store.writeTaskStatus taskId status).projects = store.projects := rfl

@[simp]
theorem writeTaskStatus_taskLeases (taskId : String) (status : TaskStatus) :
    (store.writeTaskStatus taskId status).taskLeases = store.taskLeases := rfl

@[simp]
theorem createTask_projects : (store.createTask task).projects = store.projects := by
  unfold createTask
  split <;> rfl

@[simp]
theorem createTask_taskLeases : (store.createTask task).taskLeases = store.taskLeases := by
  unfold createTask
  split <;> rfl

theorem getTask_writeTaskStatus (taskId wanted : String) (status : TaskStatus) :
    (store.writeTaskStatus taskId status).getTask wanted =
      (store.getTask wanted).map fun task =>
        if wanted = taskId then { task with status } else task :=
  store.tasks.lookup_updateAt taskId wanted _

theorem writeTaskStatus_writeTaskStatus (taskId : String) (first second : TaskStatus) :
    (store.writeTaskStatus taskId first).writeTaskStatus taskId second =
      store.writeTaskStatus taskId second := by
  unfold writeTaskStatus
  congr 1
  apply KeyedTable.ext
  simp only [KeyedTable.updateAt, KeyedTable.rows_modify, List.map_map]
  apply List.map_congr_left
  intro task _
  by_cases own : task.id = taskId
  · simp [RowUpdate.at, own]
  · simp [RowUpdate.at, own]

variable {store : Store} {taskId : String} {task : Task}

theorem writeTaskStatus_same (found : store.getTask taskId = some task) :
    (store.writeTaskStatus taskId task.status).tasks = store.tasks := by
  obtain ⟨member, own⟩ := store.tasks.lookup_eq_some_iff.mp found
  apply KeyedTable.ext
  refine (List.map_congr_left ?_).trans (List.map_id store.tasks.rows)
  intro other otherMember
  by_cases same : other.id = taskId
  · have sameTask := store.tasks.eq_of_key_eq otherMember member (same.trans own.symm)
    simp [RowUpdate.at, same, sameTask]
  · simp [RowUpdate.at, same]

theorem mem_tasks_writeTaskStatus {status : TaskStatus} {later : Task} :
    later ∈ (store.writeTaskStatus taskId status).tasks.rows ↔
      ∃ task ∈ store.tasks.rows,
        (if task.id = taskId then { task with status } else task) = later :=
  KeyedTable.mem_updateAt

theorem mem_tasks_createTask {stored : Task} (member : stored ∈ store.tasks.rows) :
    stored ∈ (store.createTask task).tasks.rows := by
  unfold createTask
  split
  next tasks inserted =>
    rw [KeyedTable.rows_of_insert? inserted]
    exact List.mem_append_left _ member
  · exact member

theorem getTask_createTask_of_some {stored : Task} (present : store.getTask taskId = some stored) :
    (store.createTask task).getTask taskId = some stored := by
  obtain ⟨member, same⟩ := store.tasks.lookup_eq_some_iff.mp present
  exact KeyedTable.lookup_eq_some_iff _ |>.mpr ⟨mem_tasks_createTask member, same⟩

end Store

end AccruviaHarness
