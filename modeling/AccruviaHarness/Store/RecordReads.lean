import AccruviaHarness.Store.RecordRows

/-!
# What the readers of tasks and objectives return

Every statement of the store that writes these two tables, and every reader
with its own list of columns.
-/

namespace AccruviaHarness

open Library List

abbrev TaskRow := TaskColumn → SqlValue

/-- `WHERE id = ?`. -/
def hasTaskId (taskId : String) (row : TaskRow) : Bool := row .id = .text taskId

/-- The statements that write `tasks`, with the clock where they read it. -/
inductive TaskRowWrite where
  | createTask (task : TaskRecord) (encodable : task.Encodable)
  | updateTaskStatus (taskId : String) (status : TaskStatus) (now : Int)
  | updateTaskAttemptMetadata (taskId : String) (metadata : PyDict)
      (encodable : PyJson.Encodable (.dict metadata)) (now : Int)
  | updateTaskExternalMetadata (taskId : String) (metadata : PyDict)
      (encodable : PyJson.Encodable (.dict metadata)) (now : Int)
  | recoverStaleState (leased : List String) (now : Int)

/-- The assigned columns of the `UPDATE` statements. -/
def assignStatus (status : TaskStatus) (now : Int) : TaskRow → TaskRow :=
  assign fun
    | .status => some (.text status.value)
    | .updatedAt => some (.timestamp now)
    | _ => none

def assignAttemptMetadata (metadata : PyValue) (now : Int) : TaskRow → TaskRow :=
  assign fun
    | .attemptMetadataJson => some (.ofJson metadata)
    | .updatedAt => some (.timestamp now)
    | _ => none

def assignExternalMetadata (metadata : PyValue) (now : Int) : TaskRow → TaskRow :=
  assign fun
    | .externalRefMetadataJson => some (.ofJson metadata)
    | .updatedAt => some (.timestamp now)
    | _ => none

/-- `json.loads(value) if value else \x7b\x7d`, whose `update` needs an
object. -/
def storedMetadata : SqlValue → Except PyError PyDict
  | .null => .ok []
  | .text content =>
    if content = "" then .ok []
    else
      match PyJson.loads content.toList with
      | none => .error (.valueError "JSONDecodeError")
      | some (.dict entries) => .ok entries
      | some _ => .error (.attributeError "no attribute 'update'")
  | _ => .error (.typeError "the JSON object must be str, bytes or bytearray")

/-- `status = 'active' AND id NOT IN (SELECT task_id FROM task_leases)`. -/
def isStale (leased : List String) (row : TaskRow) : Bool :=
  row .status = .text TaskStatus.active.value && !(leased.any fun taskId => hasTaskId taskId row)

namespace TaskRowWrite

def execute (rows : List TaskRow) : TaskRowWrite → Except PyError (List TaskRow)
  | .createTask task _ =>
    if rows.any (hasTaskId task.id) then
      .error (.integrityError "UNIQUE constraint failed: tasks.id")
    else .ok (rows ++ [taskRow task])
  | .updateTaskStatus taskId status now =>
    match rows.find? (hasTaskId taskId) with
    | none => .error (.valueError ("Unknown task: " ++ taskId))
    | some row =>
      match taskStatusOf (row .status) with
      | .error _ => .error (.valueError "not a valid TaskStatus")
      | .ok current =>
        match validateTaskTransition current status with
        | .error error => .error error
        | .ok () => .ok (updateWhere (hasTaskId taskId) (assignStatus status now) rows)
  | .updateTaskAttemptMetadata taskId metadata _ now =>
    match rows.find? (hasTaskId taskId) with
    | none => .error (.valueError ("Unknown task: " ++ taskId))
    | some row =>
      match storedMetadata (row .attemptMetadataJson) with
      | .error error => .error error
      | .ok existing =>
        .ok (updateWhere (hasTaskId taskId)
          (assignAttemptMetadata (.dict (existing.update metadata)) now)
          rows)
  | .updateTaskExternalMetadata taskId metadata _ now =>
    .ok (updateWhere (hasTaskId taskId) (assignExternalMetadata (.dict metadata) now) rows)
  | .recoverStaleState leased now =>
    .ok (updateWhere (isStale leased) (assignStatus .pending now) rows)

end TaskRowWrite

def runTaskWrites (writes : List TaskRowWrite) : List TaskRow :=
  runStatements TaskRowWrite.execute [] writes

/-! ## The records last written -/

namespace TaskRecord

def withStatus (status : TaskStatus) (now : Int) (task : TaskRecord) :
    TaskRecord :=
  { task with
    status, updatedAt := now }

def withExternalMetadata (metadata : PyDict) (now : Int) (task : TaskRecord) : TaskRecord :=
  { task with
    externalRefMetadata := .dict metadata, updatedAt := now }

def mergeAttemptMetadata (metadata : PyDict) (now : Int) (task : TaskRecord) : TaskRecord :=
  { task with
    attemptMetadata := .dict (task.attemptMetadata.asDict.getD []
      |>.update metadata)
    updatedAt := now }

def isStale (leased : List String) (task : TaskRecord) : Bool :=
  task.status = .active && !(leased.contains task.id)

end TaskRecord

namespace TaskRowWrite

/-- What the statement does to the records; `none` where it is refused. -/
def applied (records : KeyedTable TaskRecord.id) :
    TaskRowWrite → Option (KeyedTable TaskRecord.id)
  | .createTask task _ => records.insert? task
  | .updateTaskStatus taskId status now =>
    match records.lookup taskId with
    | none => none
    | some record =>
      if record.status.Allows status then
        some (records.updateAt taskId ⟨TaskRecord.withStatus status now, fun _ => rfl⟩)
      else none
  | .updateTaskAttemptMetadata taskId metadata _ now =>
    match records.lookup taskId with
    | none => none
    | some _ =>
      some (records.updateAt taskId ⟨TaskRecord.mergeAttemptMetadata metadata now, fun _ => rfl⟩)
  | .updateTaskExternalMetadata taskId metadata _ now =>
    some (records.updateAt taskId ⟨TaskRecord.withExternalMetadata metadata now, fun _ => rfl⟩)
  | .recoverStaleState leased now =>
    some (records.modify
      ⟨fun task =>
        if task.isStale leased then task.withStatus .pending now else task,
        fun task => by split <;> rfl⟩)

end TaskRowWrite

def lastWrittenTasks (writes : List TaskRowWrite) : KeyedTable TaskRecord.id :=
  runRecords TaskRowWrite.applied (KeyedTable.empty _) writes

/-! ## The rows encode the records -/

theorem ofJson_congr {first second : PyValue}
    (same : PyJson.sortKeys first = PyJson.sortKeys second) :
    SqlValue.ofJson first = SqlValue.ofJson second := by
  unfold SqlValue.ofJson PyJson.dumpsSorted
  rw [same]

theorem sortKeys_update_congr {first second : PyDict} (metadata : PyDict)
    (firstDistinct : (first.map Prod.fst).Nodup)
    (secondDistinct : (second.map Prod.fst).Nodup)
    (same : PyJson.sortKeys (.dict first) = PyJson.sortKeys (.dict second)) :
    PyJson.sortKeys (.dict (first.update metadata)) =
      PyJson.sortKeys (.dict (second.update metadata)) := by
  induction metadata generalizing first second with
  | nil => exact same
  | cons entry _ ih =>
    exact ih (PyJson.nodup_keys_set firstDistinct entry.1 entry.2)
      (PyJson.nodup_keys_set secondDistinct entry.1 entry.2)
      (PyJson.sortKeys_set_congr firstDistinct secondDistinct same entry.1 entry.2)

variable {entries : PyDict} {metadata : PyDict} {task : TaskRecord}

theorem encodable_update (encodable : PyJson.Encodable (.dict entries))
    (values : ∀ entry ∈ metadata, PyJson.Encodable entry.2) :
    PyJson.Encodable (.dict (entries.update metadata)) := by
  induction metadata generalizing entries with
  | nil => exact encodable
  | cons _ _ ih =>
    obtain ⟨first, others⟩ := forall_mem_cons.mp values
    exact ih (PyJson.encodable_set encodable first) others

theorem storedMetadata_ofJson (encodable : PyJson.Encodable (.dict entries)) :
    storedMetadata (.ofJson (.dict entries)) =
      .ok (PyJson.sortByKey (PyJson.sortEntries entries)) := by
  have read := PyJson.loads_dumpsSorted_append encodable (fun _ member => absurd member not_mem_nil)
  rw [append_nil] at read
  have nonempty : String.ofList (PyJson.dumpsSorted (.dict entries)) ≠ "" := by
    intro empty
    have blank := congrArg String.toList empty
    rw [String.toList_ofList] at blank
    rw [blank] at read
    cases read
  show (if String.ofList (PyJson.dumpsSorted (.dict entries)) = "" then _
    else _) = _
  rw [if_neg nonempty, String.toList_ofList, read]
  rfl

theorem hasTaskId_taskRow (taskId : String) (task : TaskRecord) :
    hasTaskId taskId (taskRow task) = decide (task.id = taskId) := by
  simp [hasTaskId, taskRow]

theorem assignStatus_taskRow (status : TaskStatus) (now : Int) (task : TaskRecord) :
    assignStatus status now (taskRow task) = taskRow (task.withStatus status now) := by
  funext column
  cases column <;> rfl

theorem assignExternalMetadata_taskRow (metadata : PyDict) (now : Int) (task : TaskRecord) :
    assignExternalMetadata (.dict metadata) now (taskRow task) =
      taskRow (task.withExternalMetadata metadata now) := by
  funext column
  cases column <;> rfl

theorem assignAttemptMetadata_taskRow (object : task.attemptMetadata = .dict entries)
    (distinct : (entries.map Prod.fst).Nodup) (metadata : PyDict)
    (now : Int) :
    assignAttemptMetadata (.dict ((PyJson.sortByKey (PyJson.sortEntries entries)).update
          metadata)) now (taskRow task) =
      taskRow (task.mergeAttemptMetadata metadata now) := by
  have sorted : ((PyJson.sortByKey (PyJson.sortEntries entries)).map Prod.fst).Nodup := by
    apply PyJson.nodup_keys_of_perm (PyJson.perm_sortByKey _)
    rw [PyJson.keys_sortEntries]
    exact distinct
  have merged := ofJson_congr (sortKeys_update_congr metadata sorted distinct
    (PyJson.sortKeys_sortKeys (.dict entries)))
  funext column
  cases column with
  | attemptMetadataJson =>
    unfold TaskRecord.mergeAttemptMetadata
    rw [object]
    exact merged
  | _ => rfl

theorem isStale_taskRow (leased : List String) (task : TaskRecord) :
    isStale leased (taskRow task) = task.isStale leased := by
  have active : decide (taskRow task .status =
      .text TaskStatus.active.value) = decide (task.status = .active) := by
    cases status : task.status <;> simp [taskRow, status, TaskStatus.value]
  have held : (leased.any fun taskId => hasTaskId taskId (taskRow task)) =
      leased.contains task.id := by
    rw [Bool.eq_iff_iff, any_eq_true, contains_iff_mem]
    simp [hasTaskId_taskRow]
  unfold isStale TaskRecord.isStale
  rw [active, held]

theorem encodable_updateAt {records : KeyedTable TaskRecord.id} {taskId : String}
    {update : RowUpdate TaskRecord.id}
    (encodable : ∀ task ∈ records.rows, task.Encodable)
    (keeps : ∀ task, task.Encodable → (update.apply task).Encodable) :
    ∀ task ∈ (records.updateAt taskId update).rows, task.Encodable := by
  intro task member
  obtain ⟨earlier, earlierMember, rfl⟩ := KeyedTable.mem_updateAt.mp member
  split_ifs
  · exact keeps earlier (encodable earlier earlierMember)
  · exact encodable earlier earlierMember

theorem encodable_mergeAttemptMetadata
    (encodable : task.Encodable) (values : PyJson.Encodable (.dict metadata))
    (now : Int) :
    (task.mergeAttemptMetadata metadata now).Encodable := by
  obtain ⟨_, object⟩ := encodable.attemptObject
  have stored := encodable.attemptMetadata
  rw [object] at stored
  refine ⟨encodable.externalRefMetadata, encodable.scope, encodable.requiredArtifacts, ?_, ⟨_, rfl⟩⟩
  unfold TaskRecord.mergeAttemptMetadata
  rw [object]
  exact encodable_update stored ((PyJson.encodableEntries_iff metadata).mp values.2)

theorem taskWrites_simulate :
    Simulates (fun records : KeyedTable TaskRecord.id =>
        records.rows.map taskRow)
      (fun records => ∀ task ∈ records.rows, task.Encodable)
      TaskRowWrite.execute TaskRowWrite.applied := by
  intro records write encodable
  cases write with
  | createTask task own =>
    unfold TaskRowWrite.applied TaskRowWrite.execute
    dsimp only
    have taken := any_encoded_iff hasTaskId_taskRow records task
    cases inserted : records.insert? task with
    | none =>
      rw [if_pos (taken.mpr inserted)]
      exact .inl ⟨_, rfl, rfl⟩
    | some next =>
      have rows := KeyedTable.rows_of_insert? inserted
      rw [inserted] at taken
      rw [if_neg (mt taken.mp nofun)]
      refine .inr ⟨next, rfl, ?_, ?_⟩
      · rw [rows, map_append]
        rfl
      · rw [rows]
        intro other member
        rcases mem_append.mp member with earlier | added
        · exact encodable other earlier
        · rw [mem_singleton.mp added]
          exact own
  | updateTaskStatus taskId status now =>
    unfold TaskRowWrite.applied TaskRowWrite.execute
    dsimp only
    rw [find?_encoded hasTaskId_taskRow]
    cases found : records.lookup taskId with
    | none => exact .inl ⟨_, rfl, rfl⟩
    | some task =>
      have current : taskStatusOf (taskRow task .status) =
          .ok task.status := taskStatusOf_value task.status
      simp only [Option.map_some, current]
      by_cases allowed : task.status.Allows status
      · rw [if_pos allowed, (validateTaskTransition_ok_iff _ _).mpr allowed]
        refine Or.inr ⟨_, rfl, congrArg Except.ok ?_, ?_⟩
        · exact updateWhere_encoded hasTaskId_taskRow _ fun other _ _ =>
            assignStatus_taskRow status now other
        · exact encodable_updateAt encodable fun _ kept =>
            ⟨kept.externalRefMetadata, kept.scope, kept.requiredArtifacts,
              kept.attemptMetadata, kept.attemptObject⟩
      · rw [if_neg allowed]
        cases validated : validateTaskTransition task.status status with
        | error _ => exact .inl ⟨_, rfl, rfl⟩
        | ok _ => exact absurd ((validateTaskTransition_ok_iff _ _).mp validated) allowed
  | updateTaskAttemptMetadata taskId metadata values now =>
    unfold TaskRowWrite.applied TaskRowWrite.execute
    dsimp only
    rw [find?_encoded hasTaskId_taskRow]
    cases found : records.lookup taskId with
    | none => exact .inl ⟨_, rfl, rfl⟩
    | some task =>
      obtain ⟨member, own⟩ := records.lookup_eq_some_iff.mp found
      obtain ⟨entries, object⟩ := (encodable task member).attemptObject
      have stored := (encodable task member).attemptMetadata
      rw [object] at stored
      have existing : storedMetadata (taskRow task .attemptMetadataJson) =
          .ok (PyJson.sortByKey (PyJson.sortEntries entries)) := by
        show storedMetadata (.ofJson task.attemptMetadata) = _
        rw [object]
        exact storedMetadata_ofJson stored
      simp only [Option.map_some, existing]
      refine Or.inr ⟨_, rfl, congrArg Except.ok ?_, ?_⟩
      · apply updateWhere_encoded hasTaskId_taskRow
        intro other otherMember same
        rw [records.eq_of_key_eq otherMember member (same.trans own.symm)]
        exact assignAttemptMetadata_taskRow object stored.1 metadata now
      · exact encodable_updateAt encodable fun _ kept =>
          encodable_mergeAttemptMetadata kept values now
  | updateTaskExternalMetadata _ metadata values now =>
    refine Or.inr ⟨_, rfl, congrArg Except.ok ?_, ?_⟩
    · exact updateWhere_encoded hasTaskId_taskRow _ fun other _ _ =>
        assignExternalMetadata_taskRow metadata now other
    · exact encodable_updateAt encodable fun _ kept =>
        ⟨values, kept.scope, kept.requiredArtifacts, kept.attemptMetadata, kept.attemptObject⟩
  | recoverStaleState _ now =>
    refine Or.inr ⟨_, rfl, congrArg Except.ok ?_, ?_⟩
    · rw [updateWhere_map taskRow (TaskRecord.withStatus .pending now)
        fun task _ _ => assignStatus_taskRow .pending now task]
      unfold updateWhere
      simp only [isStale_taskRow]
      rfl
    · intro task member
      obtain ⟨earlier, earlierMember, rfl⟩ := mem_map.mp member
      have kept := encodable earlier earlierMember
      dsimp only
      split_ifs
      · exact ⟨kept.externalRefMetadata, kept.scope, kept.requiredArtifacts,
          kept.attemptMetadata, kept.attemptObject⟩
      · exact kept

theorem runTaskWrites_eq (writes : List TaskRowWrite) :
    runTaskWrites writes = (lastWrittenTasks writes).rows.map taskRow ∧
      ∀ task ∈ (lastWrittenTasks writes).rows, task.Encodable :=
  @Simulates.run _ _ _ _ _ _ _ _ taskWrites_simulate (KeyedTable.empty _)
    (fun _ impossible => absurd impossible not_mem_nil) writes

/-! ## The readers of `tasks` -/

structure TaskStatement where
  columns : List TaskColumn
  query : Query TaskRow

/-- `[task_from_row(row) for row in rows]`; a reader of one row has at most
one. -/
def TaskStatement.read (statement : TaskStatement) (rows : List TaskRow) :
    Except RowError (List TaskRecord) :=
  (statement.query.select rows).mapM fun row => taskFromRow (fetch statement.columns row)

/-- `ORDER BY created_at`. -/
def createdFirst (first second : TaskRow) : Bool := (first .createdAt).le (second .createdAt)

/-- `ORDER BY priority DESC, created_at`. -/
def priorityFirst (first second : TaskRow) : Bool :=
  if first .priority = second .priority then createdFirst first second
  else (second .priority).le (first .priority)

/-- `AND project_id = ?`, when there is a project. -/
def ofProject (projectId : String) (row : TaskRow) : Bool :=
  projectId = "" || row .projectId = .text projectId

inductive TaskReader where
  | getTask (taskId : String)
  | listTasks (projectId : String)
  | getTaskByExternalRef (refType refId : String)
  | nextPendingTask (projectId : String)
  | findFollowOnTask (parentTaskId sourceRunId : String)
  | listChildTasks (parentTaskId : String)

namespace TaskReader

def getTaskStatement (taskId : String) : TaskStatement where
  columns :=
    [.id, .projectId, .objectiveId, .title, .objective, .priority,
      .parentTaskId, .sourceRunId, .planId, .mermaidNodeId, .externalRefType,
      .externalRefId, .externalRefMetadataJson, .validationProfile,
      .validationMode, .scopeJson, .strategy, .maxAttempts, .maxBranches,
      .requiredArtifactsJson, .attemptMetadataJson, .status, .createdAt,
      .updatedAt]
  query :=
    { condition := hasTaskId taskId, before := fun _ _ => true
      limit := some 1 }

variable (projectId : String)

def listTasksStatement : TaskStatement where
  columns :=
    [.id, .projectId, .title, .objective, .priority, .parentTaskId,
      .sourceRunId, .objectiveId, .planId, .mermaidNodeId, .externalRefType,
      .externalRefId, .externalRefMetadataJson, .validationProfile,
      .validationMode, .scopeJson, .strategy, .maxAttempts, .maxBranches,
      .requiredArtifactsJson, .attemptMetadataJson, .status, .createdAt,
      .updatedAt]
  query :=
    { condition := ofProject projectId, before := priorityFirst }

def getTaskByExternalRefStatement (refType refId : String) :
    TaskStatement where
  columns :=
    [.id, .projectId, .objectiveId, .title, .objective, .priority,
      .parentTaskId, .sourceRunId, .planId, .mermaidNodeId, .externalRefType,
      .externalRefId, .externalRefMetadataJson, .validationProfile,
      .validationMode, .scopeJson, .strategy, .maxAttempts, .maxBranches,
      .requiredArtifactsJson, .attemptMetadataJson, .status, .createdAt,
      .updatedAt]
  query :=
    { condition := fun row =>
        row .externalRefType = .text refType && row .externalRefId = .text refId
      before := createdFirst, limit := some 1 }

def nextPendingTaskStatement : TaskStatement where
  columns :=
    [.id, .projectId, .title, .objective, .priority, .parentTaskId,
      .sourceRunId, .planId, .mermaidNodeId, .externalRefType, .externalRefId,
      .externalRefMetadataJson, .validationProfile, .validationMode,
      .scopeJson, .strategy, .maxAttempts, .maxBranches,
      .requiredArtifactsJson, .attemptMetadataJson, .status, .createdAt,
      .updatedAt]
  query :=
    { condition := fun row =>
        row .status = .text TaskStatus.pending.value && ofProject projectId row
      before := priorityFirst, limit := some 1 }

def findFollowOnTaskStatement (parentTaskId sourceRunId : String) :
    TaskStatement where
  columns :=
    [.id, .projectId, .objectiveId, .title, .objective, .priority,
      .parentTaskId, .sourceRunId, .planId, .mermaidNodeId, .externalRefType,
      .externalRefId, .externalRefMetadataJson, .validationProfile,
      .validationMode, .scopeJson, .strategy, .maxAttempts, .maxBranches,
      .requiredArtifactsJson, .attemptMetadataJson, .status, .createdAt,
      .updatedAt]
  query :=
    { condition := fun row =>
        row .parentTaskId = .text parentTaskId && row .sourceRunId = .text sourceRunId
      before := createdFirst, limit := some 1 }

def listChildTasksStatement (parentTaskId : String) : TaskStatement where
  columns :=
    [.id, .projectId, .title, .objective, .priority, .parentTaskId,
      .sourceRunId, .planId, .mermaidNodeId, .externalRefType, .externalRefId,
      .externalRefMetadataJson, .validationProfile, .validationMode,
      .scopeJson, .strategy, .maxAttempts, .maxBranches,
      .requiredArtifactsJson, .attemptMetadataJson, .status, .createdAt,
      .updatedAt]
  query :=
    { condition := fun row => row .parentTaskId = .text parentTaskId
      before := createdFirst }

def statement : TaskReader → TaskStatement
  | .getTask taskId => getTaskStatement taskId
  | .listTasks projectId => listTasksStatement projectId
  | .getTaskByExternalRef refType refId => getTaskByExternalRefStatement refType refId
  | .nextPendingTask projectId => nextPendingTaskStatement projectId
  | .findFollowOnTask parentTaskId sourceRunId => findFollowOnTaskStatement parentTaskId sourceRunId
  | .listChildTasks parentTaskId => listChildTasksStatement parentTaskId

/-- The readers whose columns leave out `objective_id`. -/
def omitsObjective : TaskReader → Bool
  | .nextPendingTask _ => true
  | .listChildTasks _ => true
  | _ => false

variable (reader : TaskReader)

theorem objectiveId_mem_iff :
    TaskColumn.objectiveId ∈ reader.statement.columns ↔
      reader.omitsObjective = false := by
  cases reader <;>
    simp [statement, getTaskStatement, listTasksStatement,
      getTaskByExternalRefStatement, nextPendingTaskStatement,
      findFollowOnTaskStatement, listChildTasksStatement, omitsObjective]

theorem other_mem {column : TaskColumn} (other : column ≠ .objectiveId) :
    column ∈ reader.statement.columns := by
  cases reader <;> cases column <;>
    simp [statement, getTaskStatement, listTasksStatement,
      getTaskByExternalRefStatement, nextPendingTaskStatement,
      findFollowOnTaskStatement, listChildTasksStatement] at other ⊢

def matching (writes : List TaskRowWrite) : List TaskRecord :=
  (reader.statement.query.on taskRow).select (lastWrittenTasks writes).rows

theorem read_eq (writes : List TaskRowWrite) :
    reader.statement.read (runTaskWrites writes) = .ok ((reader.matching writes).map
        (readTask reader.statement.columns)) := by
  obtain ⟨rows, encodable⟩ := runTaskWrites_eq writes
  unfold TaskStatement.read
  rw [rows, Query.select_map, mapM_map]
  apply mapM_eq_ok
  intro task member
  exact taskFromRow_fetch (encodable task (Query.mem_of_mem_select member))
    fun _ other => other_mem reader other

theorem readTask_equal_iff (task : TaskRecord) :
    (readTask reader.statement.columns task).Equal task ↔
      task.objectiveId = none ∨ reader.omitsObjective = false := by
  unfold readTask TaskRecord.Equal
  by_cases omitted : reader.omitsObjective = false
  · rw [if_pos ((objectiveId_mem_iff reader).mpr omitted)]
    simp [omitted, TaskRecord.canonical_canonical]
  · rw [if_neg (mt (objectiveId_mem_iff reader).mp omitted), or_iff_left omitted]
    constructor
    · exact fun equal => (congrArg TaskRecord.objectiveId equal).symm
    · intro alone
      rw [← alone]
      exact task.canonical_canonical

end TaskReader

/-! ## Objectives -/

abbrev ObjectiveRow := ObjectiveColumn → SqlValue

def hasObjectiveId (objectiveId : String) (row : ObjectiveRow) : Bool := row .id = .text objectiveId

/-- The statements that write `objectives`. `update_objective_phase` writes
the status that it has derived by the statement of `update_objective_status`. -/
inductive ObjectiveRowWrite where
  | createObjective (objective : ObjectiveRecord)
  | updateObjectiveStatus (objectiveId : String) (status : ObjectiveStatus) (now : Int)
  | setObjectivePhase (objectiveId : String) (phase : ObjectivePhase)
      (status : Option ObjectiveStatus) (now : Int)

namespace ObjectiveRowWrite

def execute (rows : List ObjectiveRow) :
    ObjectiveRowWrite → Except PyError (List ObjectiveRow)
  | .createObjective objective =>
    if rows.any (hasObjectiveId objective.id) then
      .error (.integrityError "UNIQUE constraint failed: objectives.id")
    else .ok (rows ++ [objectiveRow objective])
  | .updateObjectiveStatus objectiveId status now =>
    .ok (updateWhere (hasObjectiveId objectiveId) (assign fun
        | .status => some (.text status.value)
        | .updatedAt => some (.timestamp now)
        | _ => none) rows)
  | .setObjectivePhase objectiveId phase status now =>
    .ok (updateWhere (hasObjectiveId objectiveId) (assign fun
        | .phase => some (.text phase.value)
        | .status => some (.text (status.getD (phaseToStatus phase)).value)
        | .updatedAt => some (.timestamp now)
        | _ => none) rows)

def applied (records : KeyedTable ObjectiveRecord.id) :
    ObjectiveRowWrite → Option (KeyedTable ObjectiveRecord.id)
  | .createObjective objective => records.insert? objective
  | .updateObjectiveStatus objectiveId status now =>
    some (records.updateAt objectiveId
      ⟨fun objective =>
        { objective with
          status, updatedAt := now }, fun _ => rfl⟩)
  | .setObjectivePhase objectiveId phase status now =>
    some (records.updateAt objectiveId
      ⟨fun objective =>
        { objective with
          phase, status := status.getD (phaseToStatus phase)
          updatedAt := now }, fun _ => rfl⟩)

end ObjectiveRowWrite

def runObjectiveWrites (writes : List ObjectiveRowWrite) : List ObjectiveRow :=
  runStatements ObjectiveRowWrite.execute [] writes

def lastWrittenObjectives (writes : List ObjectiveRowWrite) : KeyedTable ObjectiveRecord.id :=
  runRecords ObjectiveRowWrite.applied (KeyedTable.empty _) writes

theorem hasObjectiveId_objectiveRow (objectiveId : String) (objective : ObjectiveRecord) :
    hasObjectiveId objectiveId (objectiveRow objective) =
      decide (objective.id = objectiveId) := by
  simp [hasObjectiveId, objectiveRow]

theorem objectiveWrites_simulate :
    Simulates (fun records : KeyedTable ObjectiveRecord.id =>
        records.rows.map objectiveRow) (fun _ => True)
      ObjectiveRowWrite.execute ObjectiveRowWrite.applied := by
  intro records write _
  cases write with
  | createObjective objective =>
    unfold ObjectiveRowWrite.applied ObjectiveRowWrite.execute
    dsimp only
    have taken := any_encoded_iff hasObjectiveId_objectiveRow records objective
    cases inserted : records.insert? objective with
    | none =>
      rw [if_pos (taken.mpr inserted)]
      exact .inl ⟨_, rfl, rfl⟩
    | some next =>
      rw [inserted] at taken
      rw [if_neg (mt taken.mp nofun)]
      refine .inr ⟨next, rfl, ?_, trivial⟩
      rw [KeyedTable.rows_of_insert? inserted, map_append]
      rfl
  | updateObjectiveStatus _ _ _ =>
    refine Or.inr ⟨_, rfl, congrArg Except.ok ?_, trivial⟩
    apply updateWhere_encoded hasObjectiveId_objectiveRow
    intro objective _ _
    funext column
    cases column <;> rfl
  | setObjectivePhase _ _ _ _ =>
    refine Or.inr ⟨_, rfl, congrArg Except.ok ?_, trivial⟩
    apply updateWhere_encoded hasObjectiveId_objectiveRow
    intro objective _ _
    funext column
    cases column <;> rfl

theorem runObjectiveWrites_eq (writes : List ObjectiveRowWrite) :
    runObjectiveWrites writes = (lastWrittenObjectives writes).rows.map objectiveRow :=
  (@Simulates.run _ _ _ _ _ _ _ _ objectiveWrites_simulate (KeyedTable.empty _) trivial writes).1

structure ObjectiveStatement where
  columns : List ObjectiveColumn
  query : Query ObjectiveRow

def ObjectiveStatement.read (statement : ObjectiveStatement)
    (rows : List ObjectiveRow) : Except RowError (List ObjectiveRecord) :=
  (statement.query.select rows).mapM fun row => objectiveFromRow (fetch statement.columns row)

inductive ObjectiveReader where
  | getObjective (objectiveId : String)
  | listObjectives (projectId : String)

namespace ObjectiveReader

def getObjectiveStatement (objectiveId : String) : ObjectiveStatement where
  columns := [.id, .projectId, .title, .summary, .priority, .status, .createdAt, .updatedAt]
  query :=
    { condition := hasObjectiveId objectiveId, before := fun _ _ => true
      limit := some 1 }

def listObjectivesStatement (projectId : String) : ObjectiveStatement where
  columns := [.id, .projectId, .title, .summary, .priority, .status, .phase, .createdAt, .updatedAt]
  query :=
    { condition := fun row =>
        projectId = "" || row .projectId = .text projectId
      before := fun first second =>
        if first .priority = second .priority then (first .createdAt).le (second .createdAt)
        else (second .priority).le (first .priority) }

def statement : ObjectiveReader → ObjectiveStatement
  | .getObjective objectiveId => getObjectiveStatement objectiveId
  | .listObjectives projectId => listObjectivesStatement projectId

/-- The reader whose columns leave out `phase`. -/
def omitsPhase : ObjectiveReader → Bool
  | .getObjective _ => true
  | .listObjectives _ => false

variable (reader : ObjectiveReader)

theorem phase_mem_iff :
    ObjectiveColumn.phase ∈ reader.statement.columns ↔
      reader.omitsPhase = false := by
  cases reader <;>
    simp [statement, getObjectiveStatement, listObjectivesStatement, omitsPhase]

theorem other_mem {column : ObjectiveColumn} (other : column ≠ .phase) :
    column ∈ reader.statement.columns := by
  cases reader <;> cases column <;>
    simp [statement, getObjectiveStatement, listObjectivesStatement]
      at other ⊢

def matching (writes : List ObjectiveRowWrite) : List ObjectiveRecord :=
  (reader.statement.query.on objectiveRow).select (lastWrittenObjectives writes).rows

theorem read_eq (writes : List ObjectiveRowWrite) :
    reader.statement.read (runObjectiveWrites writes) = .ok ((reader.matching writes).map
        (readObjective reader.statement.columns)) := by
  unfold ObjectiveStatement.read
  rw [runObjectiveWrites_eq, Query.select_map, mapM_map]
  apply mapM_eq_ok
  intro objective _
  exact objectiveFromRow_fetch objective fun _ other => other_mem reader other

theorem readObjective_eq_iff (objective : ObjectiveRecord) :
    readObjective reader.statement.columns objective = objective ↔
      objective.phase = .created ∨ reader.omitsPhase = false := by
  unfold readObjective
  by_cases omitted : reader.omitsPhase = false
  · rw [if_pos ((phase_mem_iff reader).mpr omitted)]
    simp [omitted]
  · rw [if_neg (mt (phase_mem_iff reader).mp omitted), or_iff_left omitted]
    constructor
    · exact fun equal => (congrArg ObjectiveRecord.phase equal).symm
    · intro created
      rw [← created]

end ObjectiveReader

/-! ## Agreement of the readers -/

/-- The reader answers the records that it asks for as they were last written:
one for one and equal in every field. -/
def TaskReader.ReadsBack (reader : TaskReader) (writes : List TaskRowWrite) :
    Prop :=
  ∃ returned, reader.statement.read (runTaskWrites writes) = .ok returned ∧
    List.Forall₂ TaskRecord.Equal returned (reader.matching writes)

def ObjectiveReader.ReadsBack (reader : ObjectiveReader) (writes : List ObjectiveRowWrite) : Prop :=
  reader.statement.read (runObjectiveWrites writes) = .ok (reader.matching writes)

/-- A reader reads back what was last written if and only if it fetches the
column that some readers leave out, or the records have its default there. -/
theorem reads_back_iff (taskWrites : List TaskRowWrite) (objectiveWrites : List ObjectiveRowWrite) :
    (∀ reader : TaskReader, reader.ReadsBack taskWrites ↔
        ∀ task ∈ reader.matching taskWrites,
          task.objectiveId = none ∨ reader.omitsObjective = false) ∧
      ∀ reader : ObjectiveReader, reader.ReadsBack objectiveWrites ↔
        ∀ objective ∈ reader.matching objectiveWrites,
          objective.phase = .created ∨ reader.omitsPhase = false := by
  constructor
  · intro reader
    unfold TaskReader.ReadsBack
    simp only [reader.read_eq, Except.ok.injEq, exists_eq_left', forall₂_map_left_iff, forall₂_same,
      TaskReader.readTask_equal_iff]
  · intro reader
    unfold ObjectiveReader.ReadsBack
    rw [reader.read_eq, Except.ok.injEq]
    simp only [← reader.readObjective_eq_iff]
    constructor
    · intro same objective member
      exact map_inj_left.mp (same.trans (map_id _).symm) objective member
    · intro same
      exact (map_congr_left same).trans (map_id _)

/-! ## A pending child task of an objective -/

def pendingChild : TaskRecord where
  id := "task"
  projectId := "project"
  title := "Task"
  objective := "Write the report."
  objectiveId := some "objective"
  parentTaskId := some "parent"

theorem encodable_pendingChild : pendingChild.Encodable :=
  ⟨⟨nodup_nil, trivial⟩, ⟨nodup_nil, trivial⟩,
    ⟨trivial, trivial, trivial⟩, ⟨nodup_nil, trivial⟩, ⟨[], rfl⟩⟩

def executingObjective : ObjectiveRecord where
  id := "objective"
  projectId := "project"
  title := "Objective"
  summary := ""
  phase := .executing

/-- `next_pending_task` loses the objective of a task, and `get_objective` the
phase of an objective. -/
theorem not_all_readers_read_back :
    (¬ ∀ (reader : TaskReader) (writes : List TaskRowWrite), reader.ReadsBack writes) ∧
      ¬ ∀ (reader : ObjectiveReader) (writes : List ObjectiveRowWrite),
        reader.ReadsBack writes := by
  constructor
  · intro all
    obtain ⟨_, read, equal⟩ := all (.nextPendingTask "project")
      [.createTask pendingChild encodable_pendingChild]
    have matching : (TaskReader.nextPendingTask "project").matching
        [.createTask pendingChild encodable_pendingChild] = [pendingChild] := rfl
    rw [TaskReader.read_eq, matching] at read
    cases read
    rw [matching] at equal
    obtain ⟨same, _⟩ := forall₂_cons.mp equal
    rcases (TaskReader.readTask_equal_iff (.nextPendingTask "project")
      pendingChild).mp same with alone | fetched
    · cases alone
    · cases fetched
  · intro all
    have read := all (.getObjective "objective") [.createObjective executingObjective]
    have matching : (ObjectiveReader.getObjective "objective").matching
        [.createObjective executingObjective] = [executingObjective] := rfl
    unfold ObjectiveReader.ReadsBack at read
    rw [ObjectiveReader.read_eq, matching] at read
    cases read

end AccruviaHarness
