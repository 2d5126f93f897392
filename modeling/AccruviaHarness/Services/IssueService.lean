import AccruviaHarness.Library.Frames
import AccruviaHarness.Promotion.ObjectivePromotion
import AccruviaHarness.Services.TaskService

/-!
# Issues of a tracker

`IssueTaskService` turns issues of a repository into tasks, and writes what the
tracker says about an issue over the metadata of its task.
-/

namespace AccruviaHarness

open Library List

theorem getTask_updateTaskExternalMetadata
    (store : Store) (taskId wanted : String) (metadata : PyDict) :
    (store.updateTaskExternalMetadata taskId metadata).getTask wanted =
      (store.getTask wanted).map fun task =>
        if wanted = taskId then { task with externalRefMetadata := metadata }
        else task :=
  store.tasks.lookup_updateAt taskId wanted _

structure ExternalIssue where
  issueId : String
  title : String
  body : String
  state : String
  url : String
  labels : Option (List String) := none
  milestone : Option String := none
  assignees : Option (List String) := none
  deriving DecidableEq, Repr

namespace ExternalIssue

def metadata (issue : ExternalIssue) : PyDict :=
  [("labels", .list ((issue.labels.getD []).map .str)),
    ("milestone", PromotionMixin.optionalText issue.milestone),
    ("assignees", .list ((issue.assignees.getD []).map .str)),
    ("url", .str issue.url),
    ("state", .str issue.state)]

end ExternalIssue

structure IssueProvider where
  fetchIssue : String → String → Except PyError ExternalIssue
  listOpenIssues : String → Int → Except PyError (List ExternalIssue)
  closeIssue : String → String → Except PyError PUnit
  reopenIssue : String → String → Except PyError PUnit

/-- The answer of `desired_state`. -/
inductive DesiredIssueState where
  | open
  | closed
  | unchanged
  deriving DecidableEq, Repr

def DesiredIssueState.value : DesiredIssueState → String
  | .open => "open"
  | .closed => "closed"
  | .unchanged => "unchanged"

structure IssueStatePolicy where
  closeOnCompleted : Bool := true
  closeOnlyOnApprovedPromotion : Bool := false
  reopenOnPending : Bool := true
  reopenOnActive : Bool := true
  reopenOnFailed : Bool := true
  deriving DecidableEq, Repr

def IssueStatePolicy.desiredState (policy : IssueStatePolicy) (taskStatus : TaskStatus)
    (latestPromotionStatus : Option PromotionStatus) : DesiredIssueState :=
  if taskStatus = .completed ∧ policy.closeOnCompleted ∧ (¬ policy.closeOnlyOnApprovedPromotion ∨
        latestPromotionStatus = some .approved) then .closed
  else if taskStatus = .pending ∧ policy.reopenOnPending then .open
  else if taskStatus = .active ∧ policy.reopenOnActive then .open
  else if taskStatus = .failed ∧ policy.reopenOnFailed then .open
  else .unchanged

structure IssueState where
  store : Store
  events : List Event := []

abbrev IssueProgram (Result : Type) := EStateM PyError IssueState Result

structure IssueTaskService where
  refType : String
  eventPrefix : String
  statePolicy : IssueStatePolicy := {}

def gitHubTaskService : IssueTaskService where
  refType := "github_issue"
  eventPrefix := "github"

def gitLabTaskService : IssueTaskService where
  refType := "gitlab_issue"
  eventPrefix := "gitlab"

structure ImportOptions where
  priority : Int := 100
  validationProfile : String := "generic"
  strategy : String := "default"
  maxAttempts : Int := 3
  requiredArtifacts : List String := []

namespace IssueTaskService

variable (service : IssueTaskService)

/-- The arguments that `import_issue` gives to `create_task_with_policy`. -/
def importPolicy (projectId : String) (issue : ExternalIssue)
    (options : ImportOptions) : TaskPolicy where
  projectId
  title := issue.title
  objective :=
    let body := pyStrip issue.body
    if body = "" then issue.title else body
  priority := options.priority
  parentTaskId := none
  sourceRunId := none
  externalRefType := some service.refType
  externalRefId := some issue.issueId
  externalRefMetadata := issue.metadata
  validationProfile := options.validationProfile
  strategy := options.strategy
  maxAttempts := options.maxAttempts
  requiredArtifacts := options.requiredArtifacts

variable (identities : TaskIdentities) (projectId : String)

def importIssue
    (issue : ExternalIssue) (options : ImportOptions) : IssueProgram Task := do
  let before ← get
  let (store, task) ← valueOf (TaskService.createTaskWithPolicy identities
    before.store (service.importPolicy projectId issue options))
  set { before with store }
  return task

/-- `update_task_external_metadata`. -/
def writeMetadata (taskId : String) (metadata : PyDict) : IssueProgram PUnit :=
  modify fun state =>
    { state with
      store := state.store.updateTaskExternalMetadata taskId metadata }

/-- `get_task(task.id) or task`. -/
def storedTask (task : Task) : IssueProgram Task := do
  let state ← get
  return (state.store.getTask task.id).getD task

/-- The loop body of `sync_open_issues`. -/
def syncIssue
    (options : ImportOptions) (issue : ExternalIssue) : IssueProgram Task := do
  let task ← service.importIssue identities projectId issue options
  writeMetadata task.id issue.metadata
  storedTask task

def syncIssues (identities : Nat → TaskIdentities) (projectId : String) (options : ImportOptions) :
    Nat → List ExternalIssue → IssueProgram (List Task)
  | _, [] => return []
  | index, issue :: issues => do
      let task ← service.syncIssue (identities index) projectId options issue
      let tasks ← syncIssues identities projectId options (index + 1) issues
      return task :: tasks

def syncOpenIssues (identities : Nat → TaskIdentities) (projectId repo : String)
    (provider : IssueProvider) (limit : Int) (options : ImportOptions) :
    IssueProgram (List Task) := do
  let issues ← valueOf (provider.listOpenIssues repo limit)
  service.syncIssues identities projectId options 0 issues

variable (store : Store)

def linkedTask (taskId : String) : Except PyError (Task × String) :=
  match store.getTask taskId with
  | none => .error (.valueError ("Unknown task: " ++ taskId))
  | some task =>
    let refId := TaskService.orEmptyText task.externalRefId
    if task.externalRefType ≠ some service.refType ∨ refId = "" then
      .error <| .valueError <| "Task " ++ taskId ++ " is not linked to a " ++ service.refType ++
          " issue"
    else .ok (task, refId)

def recordEvent (taskId eventType : String) (payload : PyDict) : IssueProgram PUnit :=
  modify fun state =>
    { state with
      events := state.events ++ [{ entityType := "task", entityId := taskId, eventType, payload }] }

def latestPromotionStatus (taskId : String) : Option PromotionStatus :=
  (store.listPromotions taskId).getLast?.map PromotionRecord.status

structure Refreshed where
  task : Task
  refId : String
  issue : ExternalIssue

/-- The first part of `sync_issue_state` and `sync_issue_metadata`. -/
def refreshIssue (taskId repo : String) (provider : IssueProvider) :
    IssueProgram Refreshed := do
  let before ← get
  let linked ← valueOf (service.linkedTask before.store taskId)
  let issue ← valueOf (provider.fetchIssue repo linked.2)
  writeMetadata linked.1.id issue.metadata
  return { task := linked.1, refId := linked.2, issue }

def syncIssueState (taskId repo : String) (provider : IssueProvider) :
    IssueProgram Task := do
  let refreshed ← service.refreshIssue taskId repo provider
  let { task, refId, issue } := refreshed
  let state ← get
  let desired := service.statePolicy.desiredState task.status
    (latestPromotionStatus state.store task.id)
  let current : DesiredIssueState := if lowerAscii issue.state = "closed" then .closed else .open
  if desired = .unchanged ∨ desired = current then storedTask task
  else
    valueOf <|
      if desired = .closed then provider.closeIssue repo refId
      else provider.reopenIssue repo refId
    recordEvent task.id (service.eventPrefix ++ "_issue_state_synced")
      [("repo", .str repo), ("external_ref_id", .str refId),
        ("from_state", .str issue.state), ("to_state", .str desired.value)]
    storedTask task

def syncIssueMetadata (taskId repo : String) (provider : IssueProvider) :
    IssueProgram Task := do
  let refreshed ← service.refreshIssue taskId repo provider
  let { task, refId, issue } := refreshed
  recordEvent task.id (service.eventPrefix ++ "_metadata_synced")
    [("repo", .str repo), ("external_ref_id", .str refId), ("metadata", .dict issue.metadata)]
  storedTask task

/-! ## The task of an issue -/

def issueTask (issue : ExternalIssue) : Option Task :=
  if service.refType ≠ "" ∧ issue.issueId ≠ "" then
    store.getTaskByExternalRef service.refType issue.issueId
  else none

inductive Imported (projectId : String) (issue : ExternalIssue)
    (before after : Store) (task : Task) : Prop where
  | found (known : service.issueTask before issue = some task) (kept : after = before)
  | created (unknown : service.issueTask before issue = none)
      (placed : after.tasks.rows = before.tasks.rows ++ [task])
      (fresh : ∀ stored ∈ before.tasks.rows, stored.id ≠ task.id)
      (owned : task.projectId = projectId)
      (refType : task.externalRefType = some service.refType)
      (refId : task.externalRefId = some issue.issueId)

variable {service} {issue : ExternalIssue} {task : Task}

theorem mem_of_issueTask {store : Store} (found : service.issueTask store issue = some task) :
    task ∈ store.tasks.rows ∧ task.externalRefType = some service.refType ∧
      task.externalRefId = some issue.issueId := by
  unfold issueTask Store.getTaskByExternalRef at found
  split at found
  · have listed := (mem_orderBy _).mp (mem_of_head? found)
    simpa using listed
  · cases found

theorem issueTask_updateTaskExternalMetadata (store : Store) (taskId : String) (metadata : PyDict)
    (issue : ExternalIssue) :
    service.issueTask (store.updateTaskExternalMetadata taskId metadata) issue =
      (service.issueTask store issue).map fun task =>
        if task.id = taskId then { task with externalRefMetadata := metadata }
        else task := by
  unfold issueTask
  split
  · unfold Store.getTaskByExternalRef Store.updateTaskExternalMetadata KeyedTable.updateAt
    rw [KeyedTable.rows_modify, filter_map, orderBy_map, head?_map]
    · congr 3
      apply filter_congr
      intro task _
      by_cases own : task.id = taskId
      · simp [RowUpdate.at, own]
      · simp [RowUpdate.at, own]
    · intro first second
      unfold Store.CreatedOrder RowUpdate.at
      by_cases own : first.id = taskId
      · by_cases other : second.id = taskId <;> simp [own, other]
      · by_cases other : second.id = taskId <;> simp [own, other]
  · rfl

instance : Std.Total Store.CreatedOrder where
  total first second := Int.le_total first.createdAt second.createdAt

instance : IsTrans Task Store.CreatedOrder where
  trans _ _ _ := Int.le_trans

theorem issueTask_of_append {before after : Store} {found : Task}
    (placed : after.tasks.rows = before.tasks.rows ++ [task])
    (fresh : ∀ stored ∈ before.tasks.rows, stored.id ≠ task.id)
    (referenced : service.issueTask after issue = some found) :
    found = task ∨ service.issueTask before issue = some found := by
  unfold issueTask Store.getTaskByExternalRef at referenced ⊢
  split at referenced
  next named =>
    rw [if_pos named]
    have listed := (mem_orderBy _).mp (mem_of_head? referenced)
    rw [placed] at listed referenced
    rcases mem_append.mp (mem_filter.mp listed).1 with stored | same
    · right
      have others (keep : Task → Bool) (kept : keep found = true) :=
        head?_orderBy_filter Store.CreatedOrder referenced kept
      have left := others (fun stored => stored.id ≠ task.id) (decide_eq_true (fresh found stored))
      rw [filter_append, filter_append] at left
      have gone (reference : Task → Bool) :
          ([task].filter reference).filter (fun stored => stored.id ≠ task.id) = [] := by
        rw [filter_eq_nil_iff]
        intro stored member
        have same := mem_singleton.mp (mem_filter.mp member).1
        simp [same]
      have every (reference : Task → Bool) :
          (before.tasks.rows.filter reference).filter
            (fun stored => stored.id ≠ task.id) = before.tasks.rows.filter reference := by
        rw [filter_eq_self]
        intro stored member
        simpa using fresh stored (mem_filter.mp member).1
      rwa [gone, every, append_nil] at left
    · exact .inl (mem_singleton.mp same)
  · cases referenced

theorem imported_of_createTaskWithPolicy {identities : TaskIdentities} {projectId : String}
    {options : ImportOptions} {before after : Store}
    (returned : TaskService.createTaskWithPolicy identities before
      (service.importPolicy projectId issue options) = .ok (after, task)) :
    Imported service projectId issue before after task := by
  have stored : TaskService.createTask identities before (TaskService.policyTask identities
        (service.importPolicy projectId issue options) none) =
      .ok (after, task) := returned
  rcases TaskService.createTask_spec stored with
    ⟨known, rfl⟩ | ⟨unknown, ⟨_, tasks, rfl, inserted⟩, _, _, rfl⟩
  · refine .found ?_ rfl
    rw [← known]
    simp [issueTask, TaskService.referencedTask, TaskService.policyTask,
      importPolicy, TaskService.orEmptyText]
  · refine .created ?_ (KeyedTable.rows_of_insert? inserted) ?_ rfl rfl rfl
    · rw [← unknown]
      simp [issueTask, TaskService.referencedTask, TaskService.policyTask,
        importPolicy, TaskService.orEmptyText]
    · intro stored member same
      have refused : before.tasks.insert? _ = none :=
        (before.tasks.insert?_eq_none_iff).mpr ⟨stored, member, same⟩
      rw [refused] at inserted
      cases inserted

theorem importIssue_cases (identities : TaskIdentities) (projectId : String)
    (options : ImportOptions) (issue : ExternalIssue) (before : IssueState) :
    (∃ error, service.importIssue identities projectId issue options before = .error error before) ∨
      ∃ middle task, Imported service projectId issue before.store middle task ∧
        service.importIssue identities projectId issue options before =
          .ok task { before with store := middle } := by
  have applied : service.importIssue identities projectId issue options before =
      EStateM.bind (valueOf (TaskService.createTaskWithPolicy identities
        before.store (service.importPolicy projectId issue options)))
        (fun pair => do
          set { before with store := pair.1 }
          return pair.2) before := rfl
  rw [applied]
  cases imported : TaskService.createTaskWithPolicy identities before.store
      (service.importPolicy projectId issue options) with
  | error error => exact .inl ⟨error, rfl⟩
  | ok pair => exact .inr ⟨pair.1, pair.2, imported_of_createTaskWithPolicy imported, rfl⟩

theorem syncIssue_cases (identities : TaskIdentities) (projectId : String)
    (options : ImportOptions) (issue : ExternalIssue) (before : IssueState) :
    (∃ error, service.syncIssue identities projectId options issue before = .error error before) ∨
      ∃ middle task, Imported service projectId issue before.store middle task ∧
        service.syncIssue identities projectId options issue before =
          .ok (((middle.updateTaskExternalMetadata task.id
              issue.metadata).getTask task.id).getD task)
            { before with
              store :=
                middle.updateTaskExternalMetadata task.id issue.metadata } := by
  have applied : service.syncIssue identities projectId options issue before =
      EStateM.bind (service.importIssue identities projectId issue options)
        (fun task => do
          writeMetadata task.id issue.metadata
          storedTask task) before := rfl
  rw [applied]
  unfold EStateM.bind
  rcases @importIssue_cases service identities projectId options issue
    before with ⟨error, raised⟩ | ⟨middle, task, imported, returned⟩
  · rw [raised]
    exact .inl ⟨error, rfl⟩
  · rw [returned]
    exact .inr ⟨middle, task, imported, rfl⟩

end IssueTaskService

end AccruviaHarness
