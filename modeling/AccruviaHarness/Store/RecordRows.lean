import AccruviaHarness.Domain
import AccruviaHarness.Library.ColumnTable
import AccruviaHarness.Python.JsonOrder

/-!
# The rows of tasks and objectives

`create_task` and `create_objective` write every field of a record into a
column of its own, the dictionaries and lists as JSON with sorted keys.
-/

namespace AccruviaHarness

open Library

inductive SqlValue where
  | null
  | integer (value : Int)
  | text (value : String)
  | timestamp (instant : Int)
  deriving DecidableEq

inductive RowError where
  | indexError
  | typeError
  | valueError
  deriving DecidableEq

namespace SqlValue

/-- The order of `ORDER BY`: `NULL`, numbers, texts. -/
def le : SqlValue → SqlValue → Bool
  | .null, _ => true
  | .integer first, .integer second => first ≤ second
  | .integer _, .null => false
  | .integer _, _ => true
  | .text first, .text second => first ≤ second
  | .timestamp first, .timestamp second => first ≤ second
  | .text _, .timestamp _ => true
  | _, _ => false

def ofOption : Option String → SqlValue
  | none => .null
  | some content => .text content

/-- `json.dumps(value, sort_keys=True)`. -/
def ofJson (value : PyValue) : SqlValue := .text (String.ofList (PyJson.dumpsSorted value))

def asText : SqlValue → Except RowError String
  | .text content => .ok content
  | _ => .error .typeError

def asOptionalText : SqlValue → Except RowError (Option String)
  | .null => .ok none
  | .text content => .ok (some content)
  | _ => .error .typeError

/-- `int(value)`. -/
def asInteger : SqlValue → Except RowError Int
  | .integer value => .ok value
  | _ => .error .typeError

/-- `parse_dt`. -/
def asTimestamp : SqlValue → Except RowError Int
  | .timestamp instant => .ok instant
  | _ => .error .typeError

/-- `_safe_json_loads`. -/
def asJson (fallback : PyValue) : SqlValue → Except RowError PyValue
  | .text content => .ok ((PyJson.loads content.toList).getD fallback)
  | _ => .ok fallback

theorem asOptionalText_ofOption (content : Option String) :
    asOptionalText (ofOption content) = .ok content := by
  cases content <;> rfl

theorem asJson_ofJson {value : PyValue} (encodable : PyJson.Encodable value) (fallback : PyValue) :
    asJson fallback (ofJson value) = .ok (PyJson.sortKeys value) := by
  have read := PyJson.loads_dumpsSorted_append encodable
    (fun _ member => absurd member List.not_mem_nil)
  rw [List.append_nil] at read
  show Except.ok ((PyJson.loads
    (String.ofList (PyJson.dumpsSorted value)).toList).getD fallback) = _
  rw [String.toList_ofList, read, Option.getD_some]

end SqlValue

/-- `row[column]`. -/
def required {Field : Type} (value : Option SqlValue)
    (read : SqlValue → Except RowError Field) : Except RowError Field :=
  match value with
  | some value => read value
  | none => .error .indexError

/-- `row[column] if column in row.keys() else default`. -/
def tolerated {Field : Type} (default : Field) (value : Option SqlValue)
    (read : SqlValue → Except RowError Field) : Except RowError Field :=
  match value with
  | some value => read value
  | none => .ok default

def memberOf {Member : Type} (members : List Member)
    (valueOf : Member → String) (value : SqlValue) :
    Except RowError Member :=
  match value with
  | .text text =>
    match members.find? fun member => valueOf member = text with
    | some member => .ok member
    | none => .error .valueError
  | _ => .error .valueError

/-! ## Tasks -/

inductive TaskColumn where
  | id
  | projectId
  | objectiveId
  | planId
  | mermaidNodeId
  | title
  | objective
  | priority
  | parentTaskId
  | sourceRunId
  | externalRefType
  | externalRefId
  | externalRefMetadataJson
  | validationProfile
  | validationMode
  | scopeJson
  | strategy
  | maxAttempts
  | maxBranches
  | requiredArtifactsJson
  | attemptMetadataJson
  | status
  | createdAt
  | updatedAt
  deriving DecidableEq

structure TaskRecord where
  id : String
  projectId : String
  title : String
  objective : String
  objectiveId : Option String := none
  planId : Option String := none
  mermaidNodeId : Option String := none
  priority : Int := 100
  parentTaskId : Option String := none
  sourceRunId : Option String := none
  externalRefType : Option String := none
  externalRefId : Option String := none
  externalRefMetadata : PyValue := .dict []
  validationProfile : String := "generic"
  validationMode : String := "default_focused"
  scope : PyValue := .dict []
  strategy : String := "default"
  maxAttempts : Int := 10
  maxBranches : Int := 1
  requiredArtifacts : PyValue := .list [.str "plan", .str "report"]
  attemptMetadata : PyValue := .dict []
  status : TaskStatus := .pending
  createdAt : Int := 0
  updatedAt : Int := 0

/-- The parameters of the `INSERT` of `create_task`. -/
def taskRow (task : TaskRecord) : TaskColumn → SqlValue
  | .id => .text task.id
  | .projectId => .text task.projectId
  | .objectiveId => .ofOption task.objectiveId
  | .planId => .ofOption task.planId
  | .mermaidNodeId => .ofOption task.mermaidNodeId
  | .title => .text task.title
  | .objective => .text task.objective
  | .priority => .integer task.priority
  | .parentTaskId => .ofOption task.parentTaskId
  | .sourceRunId => .ofOption task.sourceRunId
  | .externalRefType => .ofOption task.externalRefType
  | .externalRefId => .ofOption task.externalRefId
  | .externalRefMetadataJson => .ofJson task.externalRefMetadata
  | .validationProfile => .text task.validationProfile
  | .validationMode => .text task.validationMode
  | .scopeJson => .ofJson task.scope
  | .strategy => .text task.strategy
  | .maxAttempts => .integer task.maxAttempts
  | .maxBranches => .integer task.maxBranches
  | .requiredArtifactsJson => .ofJson task.requiredArtifacts
  | .attemptMetadataJson => .ofJson task.attemptMetadata
  | .status => .text task.status.value
  | .createdAt => .timestamp task.createdAt
  | .updatedAt => .timestamp task.updatedAt

/-- `TaskStatus(value)`. -/
def taskStatusOf : SqlValue → Except RowError TaskStatus :=
  memberOf [.pending, .active, .completed, .failed] TaskStatus.value

def taskFromRow (row : TaskColumn → Option SqlValue) :
    Except RowError TaskRecord := do
  let id ← required (row .id) SqlValue.asText
  let projectId ← required (row .projectId) SqlValue.asText
  let objectiveId ← tolerated none (row .objectiveId) SqlValue.asOptionalText
  let planId ← tolerated none (row .planId) SqlValue.asOptionalText
  let mermaidNodeId ←
    tolerated none (row .mermaidNodeId) SqlValue.asOptionalText
  let title ← required (row .title) SqlValue.asText
  let objective ← required (row .objective) SqlValue.asText
  let priority ← required (row .priority) SqlValue.asInteger
  let parentTaskId ← required (row .parentTaskId) SqlValue.asOptionalText
  let sourceRunId ← required (row .sourceRunId) SqlValue.asOptionalText
  let externalRefType ←
    required (row .externalRefType) SqlValue.asOptionalText
  let externalRefId ← required (row .externalRefId) SqlValue.asOptionalText
  let externalRefMetadata ←
    required (row .externalRefMetadataJson) (SqlValue.asJson (.dict []))
  let validationProfile ← required (row .validationProfile) SqlValue.asText
  let validationMode ←
    tolerated "default_focused" (row .validationMode) SqlValue.asText
  let scope ← required (row .scopeJson) (SqlValue.asJson (.dict []))
  let strategy ← required (row .strategy) SqlValue.asText
  let maxAttempts ← required (row .maxAttempts) SqlValue.asInteger
  let maxBranches ← tolerated 1 (row .maxBranches) SqlValue.asInteger
  let requiredArtifacts ←
    required (row .requiredArtifactsJson) (SqlValue.asJson (.list []))
  let attemptMetadata ←
    tolerated (.dict []) (row .attemptMetadataJson) (SqlValue.asJson (.dict []))
  let status ← required (row .status) taskStatusOf
  let createdAt ← required (row .createdAt) SqlValue.asTimestamp
  let updatedAt ← required (row .updatedAt) SqlValue.asTimestamp
  return {
    id, projectId, objectiveId, planId, mermaidNodeId, title, objective
    priority, parentTaskId, sourceRunId, externalRefType, externalRefId
    externalRefMetadata, validationProfile, validationMode, scope, strategy
    maxAttempts, maxBranches, requiredArtifacts, attemptMetadata, status
    createdAt, updatedAt }

namespace TaskRecord

structure Encodable (task : TaskRecord) : Prop where
  externalRefMetadata : PyJson.Encodable task.externalRefMetadata
  scope : PyJson.Encodable task.scope
  requiredArtifacts : PyJson.Encodable task.requiredArtifacts
  attemptMetadata : PyJson.Encodable task.attemptMetadata
  attemptObject : ∃ entries, task.attemptMetadata = .dict entries

variable (task : TaskRecord)

def canonical : TaskRecord :=
  { task with
    externalRefMetadata := PyJson.sortKeys task.externalRefMetadata
    scope := PyJson.sortKeys task.scope
    requiredArtifacts := PyJson.sortKeys task.requiredArtifacts
    attemptMetadata := PyJson.sortKeys task.attemptMetadata }

def Equal (first second : TaskRecord) : Prop := first.canonical = second.canonical

theorem canonical_canonical :
    task.canonical.canonical = task.canonical := by
  simp only [canonical, PyJson.sortKeys_sortKeys]

end TaskRecord

theorem taskStatusOf_value (status : TaskStatus) :
    taskStatusOf (.text status.value) = .ok status := by
  cases status <;> decide

/-- What `task_from_row` makes of the row of a record. -/
def readTask (columns : List TaskColumn) (task : TaskRecord) : TaskRecord :=
  if .objectiveId ∈ columns then task.canonical
  else { task.canonical with objectiveId := none }

theorem taskFromRow_fetch {columns : List TaskColumn} {task : TaskRecord}
    (encodable : task.Encodable)
    (others : ∀ column, column ≠ .objectiveId → column ∈ columns) :
    taskFromRow (fetch columns (taskRow task)) = .ok (readTask columns task) := by
  have fetched : ∀ column, column ≠ .objectiveId →
      fetch columns (taskRow task) column = some (taskRow task column) :=
    fun column other => fetch_of_mem (others column other) _
  have owned : tolerated none (fetch columns (taskRow task) .objectiveId)
      SqlValue.asOptionalText = .ok (readTask columns task).objectiveId := by
    unfold readTask
    by_cases named : TaskColumn.objectiveId ∈ columns
    · rw [fetch_of_mem named, if_pos named]
      exact SqlValue.asOptionalText_ofOption task.objectiveId
    · rw [fetch_of_not_mem named, if_neg named]
      rfl
  unfold taskFromRow
  rw [owned]
  simp only [fetched, ne_eq, reduceCtorEq, not_false_eq_true, required,
    tolerated, taskRow, SqlValue.asText, SqlValue.asInteger,
    SqlValue.asTimestamp, SqlValue.asOptionalText_ofOption,
    SqlValue.asJson_ofJson encodable.externalRefMetadata,
    SqlValue.asJson_ofJson encodable.scope,
    SqlValue.asJson_ofJson encodable.requiredArtifacts,
    SqlValue.asJson_ofJson encodable.attemptMetadata, taskStatusOf_value]
  unfold readTask
  split_ifs <;> rfl

/-! ## Objectives -/

inductive ObjectiveColumn where
  | id
  | projectId
  | title
  | summary
  | priority
  | status
  | phase
  | createdAt
  | updatedAt
  deriving DecidableEq

structure ObjectiveRecord where
  id : String
  projectId : String
  title : String
  summary : String
  priority : Int := 100
  status : ObjectiveStatus := .open
  phase : ObjectivePhase := .created
  createdAt : Int := 0
  updatedAt : Int := 0
  deriving DecidableEq

/-- The parameters of the `INSERT` of `create_objective`. -/
def objectiveRow (objective : ObjectiveRecord) : ObjectiveColumn → SqlValue
  | .id => .text objective.id
  | .projectId => .text objective.projectId
  | .title => .text objective.title
  | .summary => .text objective.summary
  | .priority => .integer objective.priority
  | .status => .text objective.status.value
  | .phase => .text objective.phase.value
  | .createdAt => .timestamp objective.createdAt
  | .updatedAt => .timestamp objective.updatedAt

/-- `ObjectiveStatus(value)`. -/
def objectiveStatusOf : SqlValue → Except RowError ObjectiveStatus :=
  memberOf [.open, .investigating, .planning, .executing, .paused, .resolved] ObjectiveStatus.value

/-- `ObjectivePhase(value)`. -/
def objectivePhaseOf : SqlValue → Except RowError ObjectivePhase :=
  memberOf [.created, .interrogating, .mermaidReview, .trioPlanning,
    .executing, .reviewing, .promoted, .failed] ObjectivePhase.value

/-- `objective_from_row`: a phase that is absent or unknown is `CREATED`. -/
def objectiveFromRow (row : ObjectiveColumn → Option SqlValue) :
    Except RowError ObjectiveRecord := do
  let phase :=
    match required (row .phase) objectivePhaseOf with
    | .ok phase => phase
    | .error _ => .created
  let id ← required (row .id) SqlValue.asText
  let projectId ← required (row .projectId) SqlValue.asText
  let title ← required (row .title) SqlValue.asText
  let summary ← required (row .summary) SqlValue.asText
  let priority ← required (row .priority) SqlValue.asInteger
  let status ← required (row .status) objectiveStatusOf
  let createdAt ← required (row .createdAt) SqlValue.asTimestamp
  let updatedAt ← required (row .updatedAt) SqlValue.asTimestamp
  return {
    id, projectId, title, summary, priority, status, phase, createdAt
    updatedAt }

theorem objectiveStatusOf_value (status : ObjectiveStatus) :
    objectiveStatusOf (.text status.value) = .ok status := by
  cases status <;> decide

theorem objectivePhaseOf_value (phase : ObjectivePhase) :
    objectivePhaseOf (.text phase.value) = .ok phase := by
  cases phase <;> decide

/-- What `objective_from_row` makes of the row of a record. -/
def readObjective (columns : List ObjectiveColumn)
    (objective : ObjectiveRecord) : ObjectiveRecord :=
  if .phase ∈ columns then objective
  else { objective with phase := .created }

theorem objectiveFromRow_fetch {columns : List ObjectiveColumn} (objective : ObjectiveRecord)
    (others : ∀ column, column ≠ .phase → column ∈ columns) :
    objectiveFromRow (fetch columns (objectiveRow objective)) =
      .ok (readObjective columns objective) := by
  have fetched : ∀ column, column ≠ .phase → fetch columns (objectiveRow objective) column =
        some (objectiveRow objective column) :=
    fun column other => fetch_of_mem (others column other) _
  unfold objectiveFromRow
  simp only [fetched, ne_eq, reduceCtorEq, not_false_eq_true, required,
    objectiveRow, SqlValue.asText, SqlValue.asInteger, SqlValue.asTimestamp,
    objectiveStatusOf_value]
  unfold readObjective
  by_cases named : ObjectiveColumn.phase ∈ columns
  · simp only [fetch_of_mem named, if_pos named, objectiveRow, objectivePhaseOf_value]
    rfl
  · simp only [fetch_of_not_mem named, if_neg named]
    rfl

end AccruviaHarness
