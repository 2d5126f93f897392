import AccruviaHarness.Services.TaskService
import AccruviaHarness.Store.ObjectiveTransitions
import AccruviaHarness.Store.RunRecords
import AccruviaHarness.Store.StaleState

/-!
# The stored status of an objective

The status column of an objective caches what `update_objective_phase` derives
from its tasks.
-/

namespace AccruviaHarness

open Library List

/-- `update_task_status`, with the derivation that ends it. -/
def Store.updateTaskStatusWithPhase (store : Store) (taskId : String)
    (status : TaskStatus) : Except PyError Store :=
  match store.updateTaskStatus taskId status with
  | .error error => .error error
  | .ok updated =>
    match (store.getTask taskId).bind Task.objective? with
    | some objectiveId => .ok (updated.updateObjectivePhase objectiveId).1
    | none => .ok updated

inductive FailedTaskDisposition where
  | retryAsIs
  | allowManualOperatorImplementation
  | waiveObsolete
  deriving DecidableEq, Repr

def FailedTaskDisposition.value : FailedTaskDisposition → String
  | .retryAsIs => "retry_as_is"
  | .allowManualOperatorImplementation => "allow_manual_operator_implementation"
  | .waiveObsolete => "waive_obsolete"

/-- The arguments of `apply_failed_task_disposition`. -/
structure DispositionRequest where
  taskId : String
  disposition : FailedTaskDisposition
  rationale : String := ""
  sourceRunId : Option String := none
  operatorTitle : Option String := none
  operatorObjective : Option String := none
  contextId : String := ""
  deriving DecidableEq, Repr

/-- The object that `apply_failed_task_disposition` returns. -/
structure DispositionResult where
  status : String
  taskId : String
  deriving DecidableEq, Repr

namespace TaskService

/-- `first or second` on texts. -/
def orText (first : Option String) (second : String) : String :=
  match first with
  | some text => if text = "" then second else text
  | none => second

/-- The arguments of `create_follow_on_task` that its callers here give. -/
structure FollowOnRequest where
  parentTaskId : String
  sourceRunId : String
  title : String
  objective : String
  strategy : String
  validationMode : String
  metadataOverrides : PyDict

def followOnPolicy (parent : Task) (request : FollowOnRequest) :
    TaskPolicy where
  projectId := parent.projectId
  objectiveId := parent.objectiveId
  title := request.title
  objective := request.objective
  priority := parent.priority
  parentTaskId := some request.parentTaskId
  sourceRunId := some request.sourceRunId
  externalRefType := parent.externalRefType
  externalRefId := parent.externalRefId
  externalRefMetadata := parent.externalRefMetadata.update request.metadataOverrides
  validationProfile := parent.validationProfile
  validationMode := some request.validationMode
  scope := some parent.scope
  strategy := if request.strategy = "" then parent.strategy else request.strategy
  maxAttempts := parent.maxAttempts
  requiredArtifacts := parent.requiredArtifacts

variable (identities : TaskIdentities) (store : Store)

def createFollowOnTask (request : FollowOnRequest) : Except PyError (Store × Task) :=
  match store.getTask request.parentTaskId with
  | none => .error (.valueError ("Unknown parent task: " ++ request.parentTaskId))
  | some parent => createTaskWithPolicy identities store (followOnPolicy parent request)

def effectiveRunId (request : DispositionRequest) : String :=
  orText request.sourceRunId <|
    match (store.listRuns request.taskId).getLast? with
    | some run => run.id
    | none => ""

def dispositionPayload (request : DispositionRequest) :
    PyDict :=
  [("kind", .str request.disposition.value), ("rationale", .str (pyStrip request.rationale)),
    ("source_run_id", .str (effectiveRunId store request))]

def mergedMetadata (request : DispositionRequest) (task : Task) : PyDict :=
  task.externalRefMetadata.set "failed_task_disposition" (.dict (dispositionPayload store request))

/-- `update_objective_status` with PLANNING, for a task that has an
objective. -/
def planObjective (task : Task) : Store :=
  match task.objective? with
  | some objectiveId => store.updateObjectiveStatus objectiveId .planning
  | none => store

def manualRequest (request : DispositionRequest) (task : Task) : FollowOnRequest where
  parentTaskId := task.id
  sourceRunId := effectiveRunId store request
  title := orText request.operatorTitle ("Manually implement: " ++ task.title)
  objective := orText request.operatorObjective task.objective
  strategy := "operator_ergonomics"
  validationMode := "lightweight_operator"
  metadataOverrides :=
    [("failed_task_disposition", .dict (dispositionPayload store request)),
      ("operator_owned", .bool true)]

def retryAsIs (request : DispositionRequest) (task : Task) :
    Except PyError (Store × DispositionResult) := do
  let store := store.updateTaskExternalMetadata task.id (mergedMetadata store request task)
  let store ← store.updateTaskStatusWithPhase task.id .pending
  return (planObjective store task, { status := "pending", taskId := task.id })

/-- `allow_manual_operator_implementation`. -/
def allowManual (request : DispositionRequest) (task : Task) :
    Except PyError (Store × DispositionResult) := do
  let metadata := mergedMetadata store request task
  let (store, followOn) ← createFollowOnTask identities store (manualRequest store request task)
  let store := store.updateTaskExternalMetadata task.id metadata
  return (planObjective store task,
    { status := "manual", taskId := followOn.id })

def waiveObsolete (request : DispositionRequest) (task : Task) : Store × DispositionResult :=
  let payload := dispositionPayload store request
  let store := store.updateTaskExternalMetadata task.id (mergedMetadata store request task)
  let rationale := pyStrip request.rationale
  let store :=
    match task.objective? with
    | none => store
    | some objectiveId =>
      ((store.createContextRecord
        { id := request.contextId, recordType := "failed_task_waived"
          objectiveId := some objectiveId
          content :=
            if rationale = "" then "Waived failed task " ++ task.title ++ "."
            else rationale
          metadata := payload
          createdAt := identities.now }).updateObjectivePhase
            objectiveId).1
  (store, { status := "waived", taskId := task.id })

def applyFailedTaskDisposition (request : DispositionRequest) :
    Except PyError (Store × DispositionResult) :=
  match store.getTask request.taskId with
  | none => .error (.valueError ("Unknown task: " ++ request.taskId))
  | some task =>
    if task.status ≠ .failed then
      .error <| .valueError <| "Task " ++ request.taskId ++
          " must be failed before applying a failed-task disposition"
    else
      match request.disposition with
      | .retryAsIs => retryAsIs store request task
      | .allowManualOperatorImplementation => allowManual identities store request task
      | .waiveObsolete => .ok (waiveObsolete identities store request task)

end TaskService

inductive ObjectiveCall where
  | createTaskWithPolicy (identities : TaskIdentities) (policy : TaskPolicy)
  | updateTaskStatus (taskId : String) (status : TaskStatus)
  | applyFailedTaskDisposition (identities : TaskIdentities) (request : DispositionRequest)
  | recoverStaleState (now : Int)

def ObjectiveCall.step (store : Store) : ObjectiveCall → Option Store
  | .createTaskWithPolicy identities policy =>
    (TaskService.createTaskWithPolicy identities store policy).toOption.map Prod.fst
  | .updateTaskStatus taskId status => (store.updateTaskStatusWithPhase taskId status).toOption
  | .applyFailedTaskDisposition identities request =>
    (TaskService.applyFailedTaskDisposition identities store request).toOption.map Prod.fst
  | .recoverStaleState now => some (store.recoverStaleState now).1

def StatusConsistent (objectiveId : String) (store : Store) : Prop :=
  ∀ current phase, store.objectiveStatus objectiveId = some current →
    derivedPhase (store.linkedRows objectiveId) = some phase →
      current = phase

/-! ## When a call keeps the status -/

def SomeActive (tasks : List Task) : Prop := ∃ task ∈ tasks, task.status = .active

/-- The tasks that compete with a new or requeued one: those that count, or
all of them when it does not count itself and neither does any other. -/
def competingTasks (ignored : Bool) (linked : List Task) : List Task :=
  if ignored = true ∧ effectiveTasks linked = [] then linked
  else effectiveTasks linked

/-- A new task of the objective leaves its status right: the new task does
not count and others do, or the objective is PLANNING already, or it is
EXECUTING because of a competing task. -/
def CreationKeeps (current : ObjectiveStatus) (linked : List Task) (created : Task) : Prop :=
  (created.isIgnoredObsolete = true ∧ effectiveTasks linked ≠ []) ∨
    current = .planning ∨
      current = .executing ∧ SomeActive (competingTasks created.isIgnoredObsolete linked)

/-- Requeuing a failed task, or replacing it by a new one, makes PLANNING the
right status: no competing task is active, and if the task is marked as
obsolete while others count, one of these is pending. -/
def RequeueKeeps (linked : List Task) (failed : Task) : Prop :=
  ¬ SomeActive (competingTasks failed.isIgnoredObsolete linked) ∧
    (failed.isIgnoredObsolete = true → effectiveTasks linked ≠ [] →
      ∃ task ∈ effectiveTasks linked, task.status = .pending)

def RecoveryKeeps (store : Store) (now : Int) (linked : List Task) : Prop :=
  (∀ task ∈ decidingTasks linked, ¬ store.Abandoned now task) ∨
    ∃ task ∈ decidingTasks linked,
      task.status = .active ∧ ¬ store.Abandoned now task

def CallKeeps (objectiveId : String) (store : Store) : ObjectiveCall → Prop
  | .createTaskWithPolicy identities policy =>
    policy.objectiveId = some objectiveId →
      ∀ current, store.objectiveStatus objectiveId = some current →
        let created := TaskService.policyTask identities policy
          (TaskService.contractScope identities policy objectiveId)
        (TaskService.referencedTask store created).isSome = true ∨
          CreationKeeps current (store.linkedRows objectiveId) created
  | .updateTaskStatus _ _ => True
  | .applyFailedTaskDisposition _ request =>
    request.disposition ≠ .waiveObsolete → ∀ failed, store.getTask request.taskId = some failed →
        failed.objectiveId = some objectiveId → request.taskId ≠ "" ∧
            RequeueKeeps (store.linkedRows objectiveId) failed
  | .recoverStaleState now => RecoveryKeeps store now (store.linkedRows objectiveId)

/-! ## What a change of the tasks does to the derivation -/

section

variable {linked changed : List Task}

theorem mem_effectiveTasks_of_pending
    {task : Task} (member : task ∈ linked) (pending : task.status = .pending)
    (counted : task.isIgnoredObsolete = false) :
    task ∈ effectiveTasks linked := by
  refine mem_effectiveTasks_iff.mpr ⟨member, ?_⟩
  rw [counts_of_not_failed (by rw [pending]; decide), counted]
  rfl

theorem decidingTasks_of_counted {task : Task} (counted : task ∈ effectiveTasks linked) :
    decidingTasks linked = effectiveTasks linked :=
  if_neg (ne_nil_of_mem counted)

theorem derivedPhase_requeued {failed requeued : Task} (keeps : RequeueKeeps linked failed)
    (member : requeued ∈ changed) (pending : requeued.status = .pending)
    (sameMark : requeued.isIgnoredObsolete = failed.isIgnoredObsolete)
    (active : ∀ task ∈ changed, task.status = .active → task ∈ linked ∧
      (task ∈ effectiveTasks changed → task ∈ effectiveTasks linked))
    (ignored : failed.isIgnoredObsolete = true → ∀ task,
      task ∈ effectiveTasks changed ↔ task ∈ effectiveTasks linked) :
    derivedPhase changed = some .planning := by
  obtain ⟨noneActive, somePending⟩ := keeps
  rw [derivedPhase_eq_planning_iff]
  cases mark : failed.isIgnoredObsolete with
  | false =>
    have counted := mem_effectiveTasks_of_pending member pending (sameMark.trans mark)
    have deciding := decidingTasks_of_counted counted
    have competing : competingTasks failed.isIgnoredObsolete linked = effectiveTasks linked := by
      rw [mark]
      exact if_neg fun both => Bool.false_ne_true both.1
    rw [competing] at noneActive
    refine ⟨?_, requeued, deciding ▸ counted, pending⟩
    rintro ⟨task, decides, isActive⟩
    rw [deciding] at decides
    have linkedTask := active task (mem_effectiveTasks_iff.mp decides).1 isActive
    exact noneActive ⟨task, linkedTask.2 decides, isActive⟩
  | true =>
    have same := ignored mark
    by_cases empty : effectiveTasks linked = []
    · have nowEmpty : effectiveTasks changed = [] := (nil_iff_congr same).mpr empty
      have deciding : decidingTasks changed = changed := if_pos nowEmpty
      have competing : competingTasks failed.isIgnoredObsolete linked =
          linked := if_pos ⟨mark, empty⟩
      rw [competing] at noneActive
      refine ⟨?_, requeued, deciding.symm ▸ member, pending⟩
      rintro ⟨task, decides, isActive⟩
      rw [deciding] at decides
      exact noneActive ⟨task, (active task decides isActive).1, isActive⟩
    · have nowCounted : effectiveTasks changed ≠ [] :=
        fun nowEmpty => empty ((nil_iff_congr same).mp nowEmpty)
      have deciding : decidingTasks changed = effectiveTasks changed := if_neg nowCounted
      have competing : competingTasks failed.isIgnoredObsolete linked =
          effectiveTasks linked := if_neg fun both => empty both.2
      rw [competing] at noneActive
      obtain ⟨task, counted, isPending⟩ := somePending mark empty
      refine ⟨?_, task, deciding ▸ (same task).mpr counted, isPending⟩
      rintro ⟨other, decides, isActive⟩
      rw [deciding] at decides
      exact noneActive ⟨other, (same other).mp decides, isActive⟩

theorem derivedPhase_created {created : Task} (pending : created.status = .pending)
    {current : ObjectiveStatus}
    (consistent : ∀ phase, derivedPhase linked = some phase → current = phase)
    (keeps : CreationKeeps current linked created) :
    derivedPhase (linked ++ [created]) = some current := by
  have uncompleted : created.status ≠ .completed := by
    rw [pending]
    decide
  have unfailed : created.status ≠ .failed := by
    rw [pending]
    decide
  obtain ⟨refs, dimensions⟩ := @completed_append linked [created]
    fun task member => mem_singleton.mp member ▸ uncompleted
  have counted : effectiveTasks (linked ++ [created]) = effectiveTasks linked ++
        if created.isIgnoredObsolete = true then [] else [created] := by
    have own := counts_of_not_failed unfailed (completedExternalRefs linked)
      (completedReviewDimensions linked)
    unfold Task.counts at own
    unfold effectiveTasks
    rw [refs, dimensions, filter_append, filter_singleton, own]
    cases created.isIgnoredObsolete <;> rfl
  have newest : created ∈ linked ++ [created] := mem_append_right _ (mem_singleton_self _)
  -- An active task that decided before makes the status EXECUTING.
  have executing : ∀ task ∈ decidingTasks linked, task.status = .active →
      current = .executing := fun task decides isActive =>
    consistent _ (derivedPhase_eq_executing_iff.mpr ⟨task, decides, isActive⟩)
  -- With the new task among the deciding ones, the old ones decide between
  -- EXECUTING and PLANNING.
  have among : ∀ others : List Task, decidingTasks (linked ++ [created]) = others ++ [created] →
        (∀ task ∈ others, task ∈ decidingTasks linked) →
          (current = .planning ∨ current = .executing ∧ SomeActive others) →
            derivedPhase (linked ++ [created]) = some current := by
    intro others deciding decided kept
    rcases kept with rfl | ⟨rfl, task, member, isActive⟩
    · refine derivedPhase_eq_planning_iff.mpr ⟨?_, created, ?_, pending⟩
      · rintro ⟨task, decides, isActive⟩
        rw [deciding] at decides
        rcases mem_append.mp decides with earlier | added
        · cases executing task (decided task earlier) isActive
        · rw [mem_singleton.mp added, pending] at isActive
          cases isActive
      · rw [deciding]
        exact mem_append_right _ (mem_singleton_self _)
    · refine derivedPhase_eq_executing_iff.mpr ⟨task, ?_, isActive⟩
      rw [deciding]
      exact mem_append_left _ member
  unfold CreationKeeps competingTasks at keeps
  cases mark : created.isIgnoredObsolete with
  | false =>
    simp only [mark, Bool.false_eq_true, false_and, false_or, if_false]
      at keeps counted
    have some_counts : created ∈ effectiveTasks (linked ++ [created]) := by
      rw [counted]
      exact mem_append_right _ (mem_singleton_self _)
    refine among (effectiveTasks linked) ((decidingTasks_of_counted some_counts).trans counted)
      (fun task member => ?_) keeps
    rwa [decidingTasks_of_counted member]
  | true =>
    simp only [mark, true_and, if_true, append_nil] at keeps counted
    by_cases empty : effectiveTasks linked = []
    · simp only [empty, ne_eq, not_true_eq_false, false_or, if_true]
        at keeps
      have decided : decidingTasks linked = linked := if_pos empty
      refine among linked (if_pos (counted.trans empty)) (fun task member => ?_) keeps
      rwa [decided]
    · have nonempty : linked ≠ [] := by
        rintro rfl
        exact empty rfl
      have sameDeciding : decidingTasks (linked ++ [created]) = decidingTasks linked := by
        unfold decidingTasks
        rw [counted, if_neg empty, if_neg empty]
      have same := derivedPhase_congr (ne_nil_of_mem newest) nonempty
        (fun status => by unfold DecidesWith; rw [sameDeciding])
        (by rw [counted])
      have before := derivedPhase_of_nonempty nonempty
      rw [same, before, consistent _ before]

section

variable (store : Store) (now : Int)

theorem recoveredTask_of_abandoned {task : Task} (abandoned : store.Abandoned now task) :
    store.recoveredTask now task = { task with status := .pending } :=
  if_pos abandoned

theorem recoveredTask_of_kept {task : Task} (kept : ¬ store.Abandoned now task) :
    store.recoveredTask now task = task := if_neg kept

theorem completed_recoveredTask (task : Task) :
    ((store.recoveredTask now task).status = .completed ↔
        task.status = .completed) ∧
      (task.status = .completed → store.recoveredTask now task = task) := by
  by_cases abandoned : store.Abandoned now task
  · rw [recoveredTask_of_abandoned store now abandoned]
    have active := abandoned.1
    refine ⟨⟨nofun, fun done => ?_⟩, fun done => ?_⟩
    · cases active.symm.trans done
    · cases active.symm.trans done
  · rw [recoveredTask_of_kept store now abandoned]
    exact ⟨.rfl, fun _ => rfl⟩

theorem counts_recoveredTask
    (task : Task) (refs : List (String × String)) (dimensions : List String) :
    (store.recoveredTask now task).counts refs dimensions = task.counts refs dimensions := by
  by_cases abandoned : store.Abandoned now task
  · have unfailed : task.status ≠ .failed := by
      rw [abandoned.1]
      decide
    rw [recoveredTask_of_abandoned store now abandoned,
      counts_of_not_failed unfailed, counts_of_not_failed (by simp)]
    rfl
  · rw [recoveredTask_of_kept store now abandoned]

theorem effectiveTasks_recovered :
    effectiveTasks (linked.map (store.recoveredTask now)) =
      (effectiveTasks linked).map (store.recoveredTask now) := by
  obtain ⟨refs, dimensions⟩ := @completed_map linked (store.recoveredTask now)
    fun task _ => completed_recoveredTask store now task
  have counted : ∀ task, (store.recoveredTask now task).counts
      (completedExternalRefs linked) (completedReviewDimensions linked) =
        task.counts (completedExternalRefs linked) (completedReviewDimensions linked) :=
    fun task => counts_recoveredTask store now task _ _
  unfold Task.counts at counted
  unfold effectiveTasks
  rw [refs, dimensions, filter_map]
  refine congrArg (List.map _) (filter_congr fun task _ => ?_)
  exact counted task

theorem decidingTasks_recovered :
    decidingTasks (linked.map (store.recoveredTask now)) =
      (decidingTasks linked).map (store.recoveredTask now) := by
  unfold decidingTasks
  rw [effectiveTasks_recovered]
  by_cases empty : effectiveTasks linked = []
  · rw [if_pos empty, if_pos (by rw [empty]; rfl)]
  · rw [if_neg empty, if_neg (by simpa using empty)]

theorem derivedPhase_recovered (keeps : RecoveryKeeps store now linked) :
    derivedPhase (linked.map (store.recoveredTask now)) = derivedPhase linked := by
  rcases keeps with untouched | ⟨task, decides, isActive, kept⟩
  · cases linked with
    | nil => rfl
    | cons task linked =>
      have same : decidingTasks
          ((task :: linked).map (store.recoveredTask now)) = decidingTasks (task :: linked) := by
        rw [decidingTasks_recovered]
        exact Store.map_eq_self fun other decides =>
          recoveredTask_of_kept store now (untouched other decides)
      refine derivedPhase_congr (by simp) (by simp)
        (fun status => by unfold DecidesWith; rw [same]) ?_
      rw [effectiveTasks_recovered]
      simp only [forall_mem_map, (completed_recoveredTask store now _).1]
  · have stays : derivedPhase linked = some .executing :=
      derivedPhase_eq_executing_iff.mpr ⟨task, decides, isActive⟩
    rw [stays, derivedPhase_eq_executing_iff]
    unfold DecidesWith
    rw [decidingTasks_recovered]
    exact ⟨_, mem_map_of_mem decides,
      (congrArg Task.status (recoveredTask_of_kept store now kept)).trans isActive⟩

end

theorem requeued_spec {extra : List Task} {failed : Task} {change : Task → Task}
    (isFailed : failed.status = .failed)
    (changed_failed : (change failed).status ≠ .completed ∧ (change failed).status ≠ .active ∧
        (change failed).isIgnoredObsolete = failed.isIgnoredObsolete)
    (fixed : ∀ task ∈ linked ++ extra, task ≠ failed → change task = task)
    (extraPending : ∀ task ∈ extra, task.status = .pending ∧
      task.isIgnoredObsolete = failed.isIgnoredObsolete) :
    (∀ task ∈ (linked ++ extra).map change, task.status = .active →
      task ∈ linked ∧ (task ∈ effectiveTasks ((linked ++ extra).map change) →
        task ∈ effectiveTasks linked)) ∧
    (failed.isIgnoredObsolete = true → ∀ task,
      task ∈ effectiveTasks ((linked ++ extra).map change) ↔ task ∈ effectiveTasks linked) := by
  obtain ⟨uncompleted, inactive, sameMark⟩ := changed_failed
  have completed : ∀ task ∈ linked ++ extra,
      ((change task).status = .completed ↔ task.status = .completed) ∧
        (task.status = .completed → change task = task) := by
    intro task member
    by_cases own : task = failed
    · subst own
      refine ⟨⟨fun done => absurd done uncompleted, fun done => ?_⟩, fun done => ?_⟩
      · cases isFailed.symm.trans done
      · cases isFailed.symm.trans done
    · rw [fixed task member own]
      exact ⟨.rfl, fun _ => rfl⟩
  have extraUncompleted : ∀ task ∈ extra, task.status ≠ .completed := by
    intro task member done
    cases (extraPending task member).1.symm.trans done
  obtain ⟨changedRefs, changedDimensions⟩ := completed_map completed
  obtain ⟨addedRefs, addedDimensions⟩ := @completed_append linked extra extraUncompleted
  have refs := changedRefs.trans addedRefs
  have dimensions := changedDimensions.trans addedDimensions
  constructor
  · intro task member isActive
    obtain ⟨earlier, earlierMember, rfl⟩ := mem_map.mp member
    have other : earlier ≠ failed := by
      rintro rfl
      exact inactive isActive
    rw [fixed earlier earlierMember other] at isActive ⊢
    have linkedTask : earlier ∈ linked := by
      rcases mem_append.mp earlierMember with here | added
      · exact here
      · cases (extraPending earlier added).1.symm.trans isActive
    refine ⟨linkedTask, fun counted => ?_⟩
    have counts := (mem_effectiveTasks_iff.mp counted).2
    rw [refs, dimensions] at counts
    exact mem_effectiveTasks_iff.mpr ⟨linkedTask, counts⟩
  · intro ignored task
    rw [mem_effectiveTasks_iff, mem_effectiveTasks_iff, refs, dimensions]
    refine and_congr_left fun counts => ?_
    have marked : task.isIgnoredObsolete = false := by
      cases mark : task.isIgnoredObsolete with
      | false => rfl
      | true =>
        rw [counts_of_ignored mark] at counts
        cases counts
    constructor
    · intro member
      obtain ⟨earlier, earlierMember, rfl⟩ := mem_map.mp member
      have other : earlier ≠ failed := by
        rintro rfl
        rw [sameMark, ignored] at marked
        cases marked
      rw [fixed earlier earlierMember other] at marked ⊢
      rcases mem_append.mp earlierMember with here | added
      · exact here
      · rw [(extraPending earlier added).2, ignored] at marked
        cases marked
    · intro member
      have other : task ≠ failed := by
        rintro rfl
        rw [ignored] at marked
        cases marked
      have appended : task ∈ linked ++ extra := mem_append_left _ member
      rw [← fixed task appended other]
      exact mem_map_of_mem appended

end

/-! ## What the calls write -/

section

variable {store after : Store} {objectiveId : String}

variable {change : Task → Task} {current : ObjectiveStatus}
  {status : TaskStatus} {request : DispositionRequest}

theorem linkedRows_map (rows : after.tasks.rows = store.tasks.rows.map change)
    (keeps : ∀ task, (change task).objectiveId = task.objectiveId) :
    after.linkedRows objectiveId = (store.linkedRows objectiveId).map change := by
  unfold Store.linkedRows
  rw [rows, filter_map]
  refine congrArg (List.map change) (filter_congr fun task _ => ?_)
  simp [keeps]

theorem linkedRows_append
    {created : Task} (rows : after.tasks.rows = store.tasks.rows ++ [created]) :
    after.linkedRows objectiveId = store.linkedRows objectiveId ++
      if created.objectiveId = some objectiveId then [created] else [] := by
  unfold Store.linkedRows
  rw [rows, filter_append, filter_singleton]
  by_cases owned : created.objectiveId = some objectiveId
  · simp [owned]
  · simp [owned]

variable {taskId : String} {task stored : Task} {identities : TaskIdentities}
  {policy : TaskPolicy}

theorem fixed_of_not_linked (found : store.getTask taskId = some task)
    (unlinked : task.objectiveId ≠ some objectiveId)
    (others : ∀ other, other.id ≠ taskId → change other = other) :
    (store.linkedRows objectiveId).map change = store.linkedRows objectiveId := by
  refine Store.map_eq_self fun row member => others row fun same => ?_
  obtain ⟨stored, owned⟩ := mem_filter.mp member
  have found_row := store.tasks.lookup_of_mem stored
  rw [same] at found_row
  have : row = task := Option.some.inj (found_row.symm.trans found)
  subst this
  exact unlinked (of_decide_eq_true owned)

theorem statusConsistent_of_same (consistent : StatusConsistent objectiveId store)
    (status : after.objectiveStatus objectiveId = store.objectiveStatus objectiveId)
    (derived : derivedPhase (after.linkedRows objectiveId) =
      derivedPhase (store.linkedRows objectiveId)) :
    StatusConsistent objectiveId after := by
  intro current phase stored derives
  rw [status] at stored
  rw [derived] at derives
  exact consistent current phase stored derives

theorem objectiveStatus_written (store : Store) (objectiveId : String) (written : ObjectiveStatus)
    (other : String) :
    (store.updateObjectiveStatus objectiveId written).objectiveStatus other =
      (store.objectiveStatus other).map fun current =>
        if other = objectiveId then written else current :=
  objectiveStatus_updateAt (fun _ => rfl) rfl other

theorem objectiveStatus_written_self {written : ObjectiveStatus}
    (stored : (store.updateObjectiveStatus objectiveId
      written).objectiveStatus objectiveId = some current) :
    current = written := by
  rw [objectiveStatus_written] at stored
  obtain ⟨_, _, same⟩ := Option.map_eq_some_iff.mp stored
  rw [if_pos rfl] at same
  exact same.symm

theorem objectiveStatus_written_other {other : String} (different : objectiveId ≠ other)
    (written : ObjectiveStatus) :
    (store.updateObjectiveStatus other written).objectiveStatus objectiveId =
      store.objectiveStatus objectiveId := by
  rw [objectiveStatus_written]
  simp [different]

theorem updateObjectivePhase_spec (store : Store) (objectiveId : String) :
    StatusConsistent objectiveId (store.updateObjectivePhase objectiveId).1 ∧
      (store.updateObjectivePhase objectiveId).1.tasks = store.tasks ∧
        ∀ other, other ≠ objectiveId →
          (store.updateObjectivePhase objectiveId).1.objectiveStatus other =
            store.objectiveStatus other := by
  unfold Store.updateObjectivePhase
  cases derived : derivedPhase (store.linkedRows objectiveId) with
  | none =>
    refine ⟨fun current phase _ derives => ?_, rfl, fun _ _ => rfl⟩
    cases derived.symm.trans derives
  | some written =>
    refine ⟨fun current phase stored derives => ?_, rfl,
      fun other different => objectiveStatus_written_other different written⟩
    have current_written := objectiveStatus_written_self stored
    exact current_written.trans (Option.some.inj (derived.symm.trans derives))

theorem statusConsistent_of_planning
    (planned : ∀ current, after.objectiveStatus objectiveId = some current →
      current = .planning)
    (derived : derivedPhase (after.linkedRows objectiveId) =
      some .planning) : StatusConsistent objectiveId after := by
  intro current phase stored derives
  rw [planned current stored]
  exact Option.some.inj (derived.symm.trans derives)

theorem updateTaskStatusWithPhase_cases
    (completes : store.updateTaskStatusWithPhase taskId status = .ok after) :
    ∃ task, store.getTask taskId = some task ∧
      match task.objective? with
      | some owner => after = ((store.writeTaskStatus taskId status).updateObjectivePhase owner).1
      | none => after = store.writeTaskStatus taskId status := by
  unfold Store.updateTaskStatusWithPhase at completes
  cases updated : store.updateTaskStatus taskId status with
  | error _ =>
    rw [updated] at completes
    cases completes
  | ok _ =>
    obtain ⟨⟨task, found, _⟩, rfl⟩ := Store.updateTaskStatus_eq_ok_iff.mp updated
    rw [updated, found] at completes
    refine ⟨task, found, ?_⟩
    dsimp only [Option.bind_some] at completes ⊢
    cases owner : task.objective? with
    | none =>
      rw [owner] at completes
      exact (Except.ok.inj completes).symm
    | some _ =>
      rw [owner] at completes
      exact (Except.ok.inj completes).symm

theorem objective?_eq_some_iff (named : objectiveId ≠ "") :
    task.objective? = some objectiveId ↔
      task.objectiveId = some objectiveId := by
  unfold Task.objective?
  rw [Option.filter_eq_some_iff]
  simp [named]

theorem statusConsistent_updateTaskStatus
    (named : objectiveId ≠ "") (consistent : StatusConsistent objectiveId store)
    (completes : store.updateTaskStatusWithPhase taskId status = .ok after) :
    StatusConsistent objectiveId after := by
  obtain ⟨task, found, outcome⟩ := updateTaskStatusWithPhase_cases completes
  by_cases owned : task.objectiveId = some objectiveId
  · rw [(objective?_eq_some_iff named).mpr owned] at outcome
    subst outcome
    exact (updateObjectivePhase_spec _ objectiveId).1
  · have sameRows : (store.writeTaskStatus taskId status).linkedRows
        objectiveId = store.linkedRows objectiveId := by
      rw [linkedRows_map rfl]
      · exact fixed_of_not_linked found owned fun other different => if_neg different
      · intro other
        simp only [RowUpdate.at]
        split
        · rfl
        · rfl
    have written : StatusConsistent objectiveId (store.writeTaskStatus taskId status) :=
      statusConsistent_of_same consistent rfl (congrArg derivedPhase sameRows)
    cases owner : task.objective? with
    | none =>
      rw [owner] at outcome
      exact outcome ▸ written
    | some other =>
      rw [owner] at outcome
      subst outcome
      have different : objectiveId ≠ other := by
        rintro rfl
        exact owned ((objective?_eq_some_iff named).mp owner)
      obtain ⟨_, tasks, statuses⟩ :=
        updateObjectivePhase_spec (store.writeTaskStatus taskId status) other
      refine statusConsistent_of_same written (statuses objectiveId different) ?_
      unfold Store.linkedRows
      rw [tasks]

theorem planObjective_tasks (store : Store) (task : Task) :
    (TaskService.planObjective store task).tasks = store.tasks := by
  unfold TaskService.planObjective
  split
  · rfl
  · rfl

theorem planObjective_self (named : objectiveId ≠ "") (owned : task.objectiveId = some objectiveId)
    (stored : (TaskService.planObjective store task).objectiveStatus
      objectiveId = some current) : current = .planning := by
  unfold TaskService.planObjective at stored
  rw [(objective?_eq_some_iff named).mpr owned] at stored
  exact objectiveStatus_written_self stored

theorem planObjective_other (named : objectiveId ≠ "")
    (unlinked : task.objectiveId ≠ some objectiveId) :
    (TaskService.planObjective store task).objectiveStatus objectiveId =
      store.objectiveStatus objectiveId := by
  unfold TaskService.planObjective
  split
  next other owner =>
    refine objectiveStatus_written_other ?_ .planning
    rintro rfl
    exact unlinked ((objective?_eq_some_iff named).mp owner)
  · rfl

theorem linkedRows_updateTaskExternalMetadata (found : store.getTask taskId = some task)
    (unlinked : task.objectiveId ≠ some objectiveId) (metadata : PyDict) :
    (store.updateTaskExternalMetadata taskId metadata).linkedRows objectiveId =
      store.linkedRows objectiveId := by
  rw [linkedRows_map rfl]
  · exact fixed_of_not_linked found unlinked fun other different => if_neg different
  · intro other
    simp only [RowUpdate.at]
    split
    · rfl
    · rfl

theorem linkedRows_congr (tasks : after.tasks = store.tasks) :
    after.linkedRows objectiveId = store.linkedRows objectiveId := by
  unfold Store.linkedRows
  rw [tasks]

theorem statusConsistent_waiveObsolete
    (named : objectiveId ≠ "") (consistent : StatusConsistent objectiveId store)
    (identities : TaskIdentities) (found : store.getTask task.id = some task) :
    StatusConsistent objectiveId (TaskService.waiveObsolete identities store request task).1 := by
  unfold TaskService.waiveObsolete
  by_cases owned : task.objectiveId = some objectiveId
  · rw [(objective?_eq_some_iff named).mpr owned]
    exact (updateObjectivePhase_spec _ objectiveId).1
  · have sameRows := linkedRows_updateTaskExternalMetadata found owned
      (TaskService.mergedMetadata store request task)
    split
    · exact statusConsistent_of_same consistent rfl (congrArg derivedPhase sameRows)
    next other owner =>
      have different : objectiveId ≠ other := by
        rintro rfl
        exact owned ((objective?_eq_some_iff named).mp owner)
      obtain ⟨_, tasks, statuses⟩ := updateObjectivePhase_spec
        ((store.updateTaskExternalMetadata task.id
          (TaskService.mergedMetadata store request task)).createContextRecord _)
        other
      refine statusConsistent_of_same consistent (statuses objectiveId different) ?_
      rw [linkedRows_congr tasks]
      exact congrArg derivedPhase sameRows

theorem isIgnoredObsolete_congr {first second : Task}
    (same : first.externalRefMetadata.get "workflow_state_disposition" =
      second.externalRefMetadata.get "workflow_state_disposition") :
    first.isIgnoredObsolete = second.isIgnoredObsolete := by
  unfold Task.isIgnoredObsolete Task.dispositionKind Task.metadataObject
  rw [same]

theorem mergedMetadata_get (request : DispositionRequest) (task : Task) :
    (TaskService.mergedMetadata store request task).get "workflow_state_disposition" =
      task.externalRefMetadata.get "workflow_state_disposition" := by
  unfold TaskService.mergedMetadata
  rw [PyDict.get_set]
  exact if_neg (by decide)

theorem id_ne_of_ne {other : Task} (found : store.getTask task.id = some task)
    (member : other ∈ store.linkedRows objectiveId) (different : other ≠ task) :
    other.id ≠ task.id := by
  intro same
  have stored := (mem_filter.mp member).1
  have present := ((store.tasks.lookup_eq_some_iff).mp found).1
  exact different (store.tasks.eq_of_key_eq stored present same)

theorem mem_linkedRows (found : store.getTask task.id = some task)
    (owned : task.objectiveId = some objectiveId) :
    task ∈ store.linkedRows objectiveId :=
  mem_filter.mpr ⟨((store.tasks.lookup_eq_some_iff).mp found).1, decide_eq_true owned⟩

theorem statusConsistent_retryAsIs
    (named : objectiveId ≠ "") (consistent : StatusConsistent objectiveId store)
    {result : DispositionResult}
    (found : store.getTask task.id = some task)
    (isFailed : task.status = .failed)
    (keeps : task.objectiveId = some objectiveId → RequeueKeeps (store.linkedRows objectiveId) task)
    (completes : TaskService.retryAsIs store request task =
      .ok (after, result)) : StatusConsistent objectiveId after := by
  unfold TaskService.retryAsIs at completes
  obtain ⟨written, updated, returned⟩ := exists_of_bind_ok completes
  cases returned
  by_cases owned : task.objectiveId = some objectiveId
  · obtain ⟨merged, mergedFound, outcome⟩ := updateTaskStatusWithPhase_cases updated
    have mergedTask : merged =
        { task with
          externalRefMetadata :=
            TaskService.mergedMetadata store request task } := by
      unfold Store.getTask Store.updateTaskExternalMetadata at mergedFound
      rw [KeyedTable.lookup_updateAt] at mergedFound
      change (store.getTask task.id).map _ = _ at mergedFound
      rw [found] at mergedFound
      simpa using mergedFound.symm
    have owner : merged.objective? = some objectiveId := by
      rw [mergedTask]
      exact (objective?_eq_some_iff named).mpr owned
    rw [owner] at outcome
    apply statusConsistent_of_planning
    · intro current stored
      exact planObjective_self named owned stored
    · let change : Task → Task := fun other =>
        if other.id = task.id then
          { other with
            externalRefMetadata := TaskService.mergedMetadata store request task
            status := .pending }
        else other
      have rows : (TaskService.planObjective written task).linkedRows
          objectiveId = (store.linkedRows objectiveId ++ []).map change := by
        rw [append_nil, linkedRows_congr (planObjective_tasks _ _),
          outcome, linkedRows_congr (updateObjectivePhase_spec _ _).2.1]
        refine linkedRows_map ?_ fun other => ?_
        · change (store.tasks.rows.map _).map _ = _
          rw [map_map]
          refine map_congr_left fun other _ => ?_
          by_cases own : other.id = task.id
          · simp [change, own, RowUpdate.at]
          · simp [change, own, RowUpdate.at]
        · simp only [change]
          split
          · rfl
          · rfl
      have requeued : change task =
          { task with
            externalRefMetadata := TaskService.mergedMetadata store request task
            status := .pending } := if_pos rfl
      have sameMark : (change task).isIgnoredObsolete =
          task.isIgnoredObsolete := by
        apply isIgnoredObsolete_congr
        rw [requeued]
        exact mergedMetadata_get request task
      have pending : (change task).status = .pending := by rw [requeued]
      obtain ⟨active, ignored⟩ := @requeued_spec
        (store.linkedRows objectiveId) [] task change isFailed
        ⟨by rw [pending]; decide, by rw [pending]; decide, sameMark⟩
        (fun other member different => if_neg (id_ne_of_ne found (by simpa using member) different))
        (fun _ impossible => absurd impossible not_mem_nil)
      rw [rows]
      refine derivedPhase_requeued (keeps owned) ?_ pending sameMark active ignored
      exact mem_map_of_mem (mem_append_left _ (mem_linkedRows found owned))
  · have merged : StatusConsistent objectiveId (store.updateTaskExternalMetadata task.id
          (TaskService.mergedMetadata store request task)) :=
      statusConsistent_of_same consistent rfl <| congrArg derivedPhase <|
        linkedRows_updateTaskExternalMetadata found owned _
    have requeued := statusConsistent_updateTaskStatus named merged updated
    exact statusConsistent_of_same requeued (planObjective_other named owned)
      (congrArg derivedPhase (linkedRows_congr (planObjective_tasks _ _)))

theorem createTask_of_policy
    (returned : TaskService.createTaskWithPolicy identities store policy = .ok (after, stored)) :
    ∃ scope, (∀ owner, policy.objectiveId = some owner →
        scope = TaskService.contractScope identities policy owner) ∧
      TaskService.createTask identities store (TaskService.policyTask identities policy scope) =
        .ok (after, stored) := by
  cases owned : policy.objectiveId with
  | none =>
    unfold TaskService.createTaskWithPolicy at returned
    rw [owned] at returned
    exact ⟨policy.scope, nofun, returned⟩
  | some owner =>
    refine ⟨TaskService.contractScope identities policy owner, ?_,
      TaskService.createTask_of_createTaskWithPolicy owned returned⟩
    rintro _ ⟨rfl⟩
    rfl

theorem createTaskWithPolicy_spec
    (returned : TaskService.createTaskWithPolicy identities store policy = .ok (after, stored)) :
    ∃ scope, (∀ owner, policy.objectiveId = some owner →
        scope = TaskService.contractScope identities policy owner) ∧
      let created := TaskService.policyTask identities policy scope
      ((TaskService.referencedTask store created).isSome = true ∧
          after = store) ∨
        TaskService.referencedTask store created = none ∧
          after.objectives = store.objectives ∧
            after.tasks.rows = store.tasks.rows ++ [stored] ∧
              stored.objectiveId = policy.objectiveId ∧
                stored.status = .pending ∧
                  stored.isIgnoredObsolete = created.isIgnoredObsolete := by
  obtain ⟨scope, contract, created⟩ := createTask_of_policy returned
  refine ⟨scope, contract, ?_⟩
  rcases TaskService.createTask_spec created with
    ⟨referenced, same⟩ | ⟨unreferenced, ⟨_, _, rfl, inserted⟩, _, _, rfl⟩
  · refine .inl ⟨?_, same⟩
    rw [referenced]
    rfl
  · exact .inr ⟨unreferenced, rfl, KeyedTable.rows_of_insert? inserted, rfl,
      rfl, rfl⟩

theorem linkedRows_created_other (rows : after.tasks.rows = store.tasks.rows ++ [stored])
    (unlinked : stored.objectiveId ≠ some objectiveId) :
    after.linkedRows objectiveId = store.linkedRows objectiveId := by
  rw [linkedRows_append rows, if_neg unlinked, append_nil]

theorem statusConsistent_createTaskWithPolicy (consistent : StatusConsistent objectiveId store)
    (keeps : CallKeeps objectiveId store (.createTaskWithPolicy identities policy))
    (returned : TaskService.createTaskWithPolicy identities store policy =
      .ok (after, stored)) : StatusConsistent objectiveId after := by
  obtain ⟨_, contract, outcome⟩ := createTaskWithPolicy_spec returned
  rcases outcome with
    ⟨_, rfl⟩ | ⟨unreferenced, objectives, rows, owner, pending, mark⟩
  · exact consistent
  · have statuses : after.objectiveStatus objectiveId = store.objectiveStatus objectiveId := by
      unfold Store.objectiveStatus
      rw [objectives]
    by_cases owned : policy.objectiveId = some objectiveId
    · intro current phase found derives
      rw [statuses] at found
      have creation := keeps owned current found
      rw [← contract objectiveId owned] at creation
      dsimp only at creation
      rw [unreferenced] at creation
      have kept := creation.resolve_left (by simp)
      unfold CreationKeeps at kept
      rw [← mark] at kept
      rw [linkedRows_append rows, if_pos (owner.trans owned)] at derives
      have derived := derivedPhase_created pending
        (fun phase derived => consistent current phase found derived) kept
      exact Option.some.inj (derived.symm.trans derives)
    · have unlinked : stored.objectiveId ≠ some objectiveId :=
        fun linkedTask => owned (owner.symm.trans linkedTask)
      exact statusConsistent_of_same consistent statuses
        (congrArg derivedPhase (linkedRows_created_other rows unlinked))

end

section

open TaskService

variable {store after : Store} {objectiveId : String}

theorem get_applyTaskAmendment (policy : TaskPolicy) (scope : PyDict) {key : String}
    (other : key ≠ "task_amendment") :
    (applyTaskAmendment policy scope).2.get key = policy.externalRefMetadata.get key := by
  unfold applyTaskAmendment
  split
  · rfl
  · dsimp only
    rw [PyDict.get_set]
    exact if_neg other

theorem isIgnoredObsolete_manual
    (identities : TaskIdentities) (request : DispositionRequest) (task : Task)
    (scope : Option PyDict) :
    (policyTask identities (followOnPolicy task (manualRequest store request task))
        scope).isIgnoredObsolete = task.isIgnoredObsolete := by
  apply isIgnoredObsolete_congr
  change (applyTaskAmendment _ _).2.get _ = _
  rw [get_applyTaskAmendment _ _ (by decide)]
  simp [followOnPolicy, manualRequest, PyDict.update, PyDict.get_set]

theorem referencedTask_manual {task : Task} (named : task.id ≠ "") (identities : TaskIdentities)
    (request : DispositionRequest) (scope : Option PyDict) :
    referencedTask store (policyTask identities
        (followOnPolicy task (manualRequest store request task)) scope) =
      none := by
  unfold referencedTask
  refine if_neg ?_
  rintro ⟨_, _, unnamed, _⟩
  exact named unnamed

theorem statusConsistent_allowManual
    (named : objectiveId ≠ "") (consistent : StatusConsistent objectiveId store)
    {identities : TaskIdentities} {request : DispositionRequest} {task : Task}
    {result : DispositionResult} (found : store.getTask task.id = some task)
    (isFailed : task.status = .failed)
    (keeps : task.objectiveId = some objectiveId →
      task.id ≠ "" ∧ RequeueKeeps (store.linkedRows objectiveId) task)
    (completes : allowManual identities store request task =
      .ok (after, result)) : StatusConsistent objectiveId after := by
  unfold allowManual at completes
  obtain ⟨⟨middle, followOn⟩, created, returned⟩ := exists_of_bind_ok completes
  cases returned
  unfold createFollowOnTask at created
  have parent : store.getTask (manualRequest store request task).parentTaskId = some task := found
  rw [parent] at created
  obtain ⟨scope, _, outcome⟩ := createTaskWithPolicy_spec created
  dsimp only at outcome
  let metadata := mergedMetadata store request task
  let change : Task → Task := fun other =>
    if other.id = task.id then { other with externalRefMetadata := metadata }
    else other
  have changedRows : (planObjective
      (middle.updateTaskExternalMetadata task.id metadata) task).linkedRows
        objectiveId = (middle.linkedRows objectiveId).map change := by
    rw [linkedRows_congr (planObjective_tasks _ _)]
    refine linkedRows_map ?_ fun other => ?_
    · rfl
    · simp only [change]
      split
      · rfl
      · rfl
  by_cases owned : task.objectiveId = some objectiveId
  · obtain ⟨namedTask, requeue⟩ := keeps owned
    rw [referencedTask_manual namedTask] at outcome
    obtain ⟨_, _, rows, owner, pending, mark⟩ := outcome.resolve_left (by simp)
    have middleRows : middle.linkedRows objectiveId =
        store.linkedRows objectiveId ++ [followOn] := by
      rw [linkedRows_append rows, if_pos (owner.trans owned)]
    have present : middle.getTask task.id = some task := by
      apply middle.tasks.lookup_of_mem
      rw [rows]
      exact mem_append_left _ ((store.tasks.lookup_eq_some_iff).mp found).1
    have sameMark : followOn.isIgnoredObsolete = task.isIgnoredObsolete :=
      mark.trans (isIgnoredObsolete_manual identities request task scope)
    have changed_task : change task =
        { task with externalRefMetadata := metadata } := if_pos rfl
    have failedStatus : (change task).status = .failed := by
      rw [changed_task]
      exact isFailed
    have changedMark : (change task).isIgnoredObsolete =
        task.isIgnoredObsolete := by
      apply isIgnoredObsolete_congr
      rw [changed_task]
      exact mergedMetadata_get request task
    have added : ∀ other ∈ [followOn], other.status = .pending ∧
        other.isIgnoredObsolete = task.isIgnoredObsolete := by
      intro other member
      rw [mem_singleton.mp member]
      exact ⟨pending, sameMark⟩
    have fixed : ∀ other ∈ store.linkedRows objectiveId ++ [followOn],
        other ≠ task → change other = other := fun other member different =>
      if_neg (id_ne_of_ne present (middleRows ▸ member) different)
    obtain ⟨active, ignored⟩ := requeued_spec isFailed
      ⟨by rw [failedStatus]; decide, by rw [failedStatus]; decide, changedMark⟩
      fixed added
    have newest : followOn ∈ store.linkedRows objectiveId ++ [followOn] :=
      mem_append_right _ (mem_singleton_self _)
    have notFailed : followOn ≠ task := by
      rintro rfl
      cases pending.symm.trans isFailed
    apply statusConsistent_of_planning
    · intro current stored
      exact planObjective_self named owned stored
    · rw [changedRows, middleRows]
      refine derivedPhase_requeued requeue ?_ pending sameMark active ignored
      exact mem_map.mpr ⟨followOn, newest, fixed followOn newest notFailed⟩
  · have sameMiddle : middle.linkedRows objectiveId = store.linkedRows objectiveId ∧
          middle.objectiveStatus objectiveId = store.objectiveStatus objectiveId := by
      rcases outcome with ⟨_, rfl⟩ | ⟨_, objectives, rows, owner, _, _⟩
      · exact ⟨rfl, rfl⟩
      · have unlinked : followOn.objectiveId ≠ some objectiveId :=
          fun linkedTask => owned (owner.symm.trans linkedTask)
        refine ⟨linkedRows_created_other rows unlinked, ?_⟩
        unfold Store.objectiveStatus
        rw [objectives]
    apply statusConsistent_of_same consistent
    · exact (planObjective_other named owned).trans sameMiddle.2
    · rw [changedRows, sameMiddle.1]
      exact congrArg derivedPhase (fixed_of_not_linked found owned
        fun other different => if_neg different)

end

/-! ## Runs -/

section

variable {store after : Store} {objectiveId : String}

theorem statusConsistent_recoverStaleState
    (consistent : StatusConsistent objectiveId store) {now : Int}
    (keeps : RecoveryKeeps store now (store.linkedRows objectiveId)) :
    StatusConsistent objectiveId (store.recoverStaleState now).1 := by
  have rows := (Store.recovered_recoverStaleState store now).tasks
  refine statusConsistent_of_same consistent rfl ?_
  rw [linkedRows_map rows]
  · exact derivedPhase_recovered store now keeps
  · intro task
    unfold Store.recoveredTask
    split
    · rfl
    · rfl

theorem statusConsistent_disposition
    (named : objectiveId ≠ "") (consistent : StatusConsistent objectiveId store)
    {identities : TaskIdentities} {request : DispositionRequest}
    {result : DispositionResult}
    (keeps : CallKeeps objectiveId store (.applyFailedTaskDisposition identities request))
    (completes : TaskService.applyFailedTaskDisposition identities store
      request = .ok (after, result)) : StatusConsistent objectiveId after := by
  unfold TaskService.applyFailedTaskDisposition at completes
  cases found : store.getTask request.taskId with
  | none =>
    rw [found] at completes
    cases completes
  | some task =>
    have own : request.taskId = task.id := ((store.tasks.lookup_eq_some_iff).mp found).2.symm
    rw [found] at completes
    dsimp only at completes
    split at completes
    · cases completes
    next failed =>
      have isFailed := not_not.mp failed
      have foundOwn : store.getTask task.id = some task := own ▸ found
      split at completes
      next disposition =>
        exact statusConsistent_retryAsIs named consistent foundOwn isFailed
          (fun owned => (keeps (by rw [disposition]; decide) task found owned).2) completes
      next disposition =>
        exact statusConsistent_allowManual named consistent foundOwn
          isFailed (fun owned => own ▸ keeps (by rw [disposition]; decide)
            task found owned) completes
      · have returned := Except.ok.inj completes
        have same : (TaskService.waiveObsolete identities store request
            task).1 = after := congrArg Prod.fst returned
        rw [← same]
        exact statusConsistent_waiveObsolete named consistent identities foundOwn

theorem statusConsistent_step
    (named : objectiveId ≠ "") (consistent : StatusConsistent objectiveId store)
    {call : ObjectiveCall} (keeps : CallKeeps objectiveId store call)
    (completes : ObjectiveCall.step store call = some after) :
    StatusConsistent objectiveId after := by
  have ok_of_toOption : ∀ {Value : Type} {answer : Except PyError Value}
      {value : Value}, answer.toOption = some value → answer = .ok value := by
    intro Value answer value answered
    cases answer with
    | error _ => cases answered
    | ok _ =>
      cases answered
      rfl
  cases call with
  | createTaskWithPolicy _ _ =>
    obtain ⟨⟨written, _⟩, returned, rfl⟩ := Option.map_eq_some_iff.mp completes
    exact statusConsistent_createTaskWithPolicy consistent keeps (ok_of_toOption returned)
  | updateTaskStatus _ _ =>
    exact statusConsistent_updateTaskStatus named consistent (ok_of_toOption completes)
  | applyFailedTaskDisposition _ _ =>
    obtain ⟨⟨_, _⟩, returned, rfl⟩ := Option.map_eq_some_iff.mp completes
    exact statusConsistent_disposition named consistent keeps (ok_of_toOption returned)
  | recoverStaleState _ =>
    cases completes
    exact statusConsistent_recoverStaleState consistent keeps

/-- In every run of completed calls that all meet their conditions, from an
objective without tasks or with the right status, the stored status of the
objective is the one that its tasks give it. -/
theorem objectiveStatus_consistent
    (store target : Store) (objectiveId : String) (named : objectiveId ≠ "")
    (initial : StatusConsistent objectiveId store)
    (calls : List ObjectiveCall)
    (meets : StepsMeet ObjectiveCall.step (CallKeeps objectiveId) store calls)
    (run : runEvents ObjectiveCall.step store calls = some target) :
    StatusConsistent objectiveId target := by
  have rule := @runEvents_invariant_of_guard Store ObjectiveCall
    ObjectiveCall.step (CallKeeps objectiveId) (StatusConsistent objectiveId)
  refine rule (fun before call next holds keeps completes => ?_) initial meets run
  exact statusConsistent_step named holds keeps completes

end

/-! ## An objective and its first task -/

def plainPolicy : TaskPolicy where
  projectId := "project"
  title := "Task"
  objective := "Do it."
  priority := 100
  parentTaskId := none
  sourceRunId := none
  externalRefType := none
  externalRefId := none
  objectiveId := some "objective"
  mermaidNodeId := some "node"
  planId := some "plan"

def plainIdentities : TaskIdentities where
  taskId := "task"
  planId := "plan"
  now := 0
  nonNegotiables := fun _ => none

def firstTaskCall : ObjectiveCall := .createTaskWithPolicy plainIdentities plainPolicy

def bareStore (status : ObjectiveStatus) : Store where
  objectives := ⟨[{ id := "objective", projectId := "project", status }], nodup_singleton _⟩

theorem status_consistent_when_planned :
    ∃ target, runEvents ObjectiveCall.step (bareStore .planning)
        [firstTaskCall, .updateTaskStatus "task" .completed] = some target ∧
      StatusConsistent "objective" target ∧
        target.objectiveStatus "objective" = some .resolved := by
  have created : ObjectiveCall.step (bareStore .planning) firstTaskCall =
      some { bareStore .planning with
        tasks := ⟨[{
          id := "task"
          projectId := "project"
          title := "Task"
          objective := "Do it."
          objectiveId := some "objective"
          planId := some "plan"
          mermaidNodeId := some "node"
          validationMode := "default_focused"
          maxAttempts := 3 }], nodup_singleton _⟩ } := by
    rfl
  refine ⟨_, runEvents_cons_some.mpr ⟨_, created, rfl⟩, ?_, ?_⟩
  · refine objectiveStatus_consistent (bareStore .planning) _ "objective"
      (by decide) ?_ [firstTaskCall, .updateTaskStatus "task" .completed] ?_
      (runEvents_cons_some.mpr ⟨_, created, rfl⟩)
    · intro current phase _ derives
      cases derives
    · intro next _
      refine ⟨fun _ current stored => .inr (.inr (.inl ?_)), fun _ _ => ⟨trivial, trivial⟩⟩
      exact (Option.some.inj stored).symm
  · decide +kernel

/-- The first task of an open objective leaves it open, and recovery leaves an
objective executing whose only task it has put back. -/
theorem status_not_always_consistent :
    (¬ ∀ (store target : Store) (objectiveId : String) (calls : List ObjectiveCall),
      store.objectiveStatus objectiveId ≠ none → store.linkedRows objectiveId = [] → calls ≠ [] →
          runEvents ObjectiveCall.step store calls = some target →
            StatusConsistent objectiveId target) ∧
      (runEvents ObjectiveCall.step (bareStore .planning)
        [firstTaskCall, .updateTaskStatus "task" .active,
          .recoverStaleState 0]).map (fun target =>
            (target.objectiveStatus "objective", derivedPhase (target.linkedRows "objective"))) =
        some (some .executing, some .planning) := by
  constructor
  · intro claim
    have created : runEvents ObjectiveCall.step (bareStore .open) [firstTaskCall] = some _ :=
      runEvents_cons_some.mpr ⟨_, rfl, rfl⟩
    have consistent := claim (bareStore .open) _ "objective" [firstTaskCall]
      (by decide) rfl (by simp) created
    have same := consistent .open .planning (by decide +kernel) (by decide +kernel)
    cases same
  · decide +kernel

end AccruviaHarness
