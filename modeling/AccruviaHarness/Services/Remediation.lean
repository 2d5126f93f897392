import AccruviaHarness.Library.Frames
import AccruviaHarness.Services.ObjectiveConsistency
import AccruviaHarness.Services.RemediationTree

/-!
# Tasks from review findings

`create_tasks_from_review_findings` creates a task for every finding below a
failed task, unless the tree of the failure has reached its cap or the last
attempt has failed for the same reason as the one before.
-/

namespace AccruviaHarness

open Library List

def EvaluationVerdict.value : EvaluationVerdict → String
  | .acceptable => "acceptable"
  | .incomplete => "incomplete"
  | .failed => "failed"
  | .blocked => "blocked"

/-- A row of `failure_patterns`. -/
structure FailurePattern where
  taskId : String
  runId : String
  category : String
  createdAt : Int := 0
  deriving DecidableEq, Repr

/-- `ORDER BY created_at` of failure patterns. -/
def FailurePattern.CreatedOrder (first second : FailurePattern) : Prop :=
  first.createdAt ≤ second.createdAt

instance : DecidableRel FailurePattern.CreatedOrder := fun _ _ =>
  inferInstanceAs (Decidable (_ ≤ _))

/-- `ORDER BY created_at` of evaluations. -/
def Evaluation.CreatedOrder (first second : Evaluation) : Prop := first.createdAt ≤ second.createdAt

instance : DecidableRel Evaluation.CreatedOrder := fun _ _ => inferInstanceAs (Decidable (_ ≤ _))

structure RemediationHost where
  identities : Nat → TaskIdentities
  failurePatterns : List FailurePattern := []
  contextId : String := ""
  now : Int := 0

/-- The answer of `_failure_classification`. -/
structure RetryClassification where
  failureCategory : String := ""
  missingRequiredArtifacts : List String := []
  deriving DecidableEq, Repr

def RetryClassification.toDict (failure : RetryClassification) : PyDict :=
  [("failure_category", .str failure.failureCategory), ("missing_required_artifacts",
      .list (failure.missingRequiredArtifacts.map .str))]

structure RetryEntry where
  taskId : String
  taskTitle : String
  objective : String
  runId : String
  attempt : Int
  runStatus : String
  outcome : String
  verdict : String
  decision : String
  failure : RetryClassification
  deriving DecidableEq, Repr

def RetryEntry.toDict (entry : RetryEntry) : PyDict :=
  [("task_id", .str entry.taskId), ("task_title", .str entry.taskTitle),
    ("objective", .str entry.objective), ("run_id", .str entry.runId),
    ("attempt", .int entry.attempt), ("run_status", .str entry.runStatus),
    ("outcome", .str entry.outcome), ("verdict", .str entry.verdict),
    ("decision", .str entry.decision), ("failure", .dict entry.failure.toDict)]

namespace TaskService

def remediationTreeCap : Nat := 15

def retryHistoryMaxObjectiveChars : Nat := 280

/-- `sorted(texts)`. -/
def sortTexts (texts : List String) : List String :=
  orderBy (fun first second : String => first ≤ second) texts

/-- `" ".join(text.split())`. -/
def joinWords (text : String) : String :=
  " ".intercalate <|
    ((text.toList.splitOnP isPyWhitespace).filter fun word => word ≠ []).map String.ofList

section

variable (host : RemediationHost) (store : Store)

def latestEvaluation (runId : String) : Option Evaluation :=
  (orderBy Evaluation.CreatedOrder (store.listEvaluations runId)).getLast?

def evaluationCategory (evaluation : Evaluation) : String :=
  let diagnostics := (evaluation.details.get "diagnostics").asDict.getD []
  if (evaluation.details.get "failure_category").truthy then
    (evaluation.details.get "failure_category").toStr
  else if (diagnostics.get "failure_category").truthy then
    (diagnostics.get "failure_category").toStr
  else evaluation.verdict.value

def failureClassification (task : Task) (runId : String) :
    RetryClassification :=
  let named := (store.getRun runId).filter fun run => run.taskId = task.id
  match named <|> (store.listRuns task.id).getLast? with
  | none => {}
  | some run =>
    let evaluation := latestEvaluation store run.id
    let missing :=
      match evaluation.map fun evaluation =>
          evaluation.details.get "missing_required_artifacts" with
      | some (.list items) =>
        sortTexts <| (items.filter fun item => pyStrip item.toStr ≠ "").map PyValue.toStr
      | _ => []
    let patterns := orderBy FailurePattern.CreatedOrder <|
      host.failurePatterns.filter fun pattern =>
        (task.id = "" || pattern.taskId = task.id) && pattern.runId = run.id
    let category := (patterns.getLast?.map FailurePattern.category).getD ""
    { failureCategory :=
        if category = "" then (evaluation.map evaluationCategory).getD ""
        else category
      missingRequiredArtifacts := missing }

def retryEntry (task : Task) : Option RetryEntry :=
  (store.listRuns task.id).getLast?.map fun run =>
    let evaluation := latestEvaluation store run.id
    let decision := (store.listDecisions run.id).getLast?
    { taskId := task.id, taskTitle := task.title, objective := task.objective, runId := run.id
      attempt := run.attempt, runStatus := run.status.value
      outcome := (evaluation.map Evaluation.summary).getD run.summary
      verdict := (evaluation.map fun found => found.verdict.value).getD ""
      decision := (decision.map fun found => found.action.value).getD ""
      failure := failureClassification host store task run.id }

def buildRetryHistory (rootTask : Task) (descendants : List Task) : List RetryEntry :=
  (rootTask :: descendants).filterMap (retryEntry host store)

def previousRetryFailure (retryHistory : List RetryEntry)
    (currentTaskId : String) : Option RetryClassification :=
  (retryHistory.filter fun entry => entry.taskId ≠ currentTaskId).getLast?.map RetryEntry.failure

def sameFailureClassification (previous : Option RetryClassification)
    (current : RetryClassification) : Bool :=
  match previous with
  | none => false
  | some previous =>
    pyStrip previous.failureCategory = pyStrip current.failureCategory &&
      sortTexts previous.missingRequiredArtifacts = sortTexts current.missingRequiredArtifacts

def remediationBlockReason (parent rootTask : Task) (sourceRunId : String)
    (findings : List PyDict) :
    Option String × List RetryEntry × RetryClassification :=
  let descendants := retryTreeDescendants store rootTask
  let retryHistory := buildRetryHistory host store rootTask descendants
  let currentFailure := failureClassification host store parent sourceRunId
  if descendants.length ≥ remediationTreeCap ∨
      descendants.length + findings.length > remediationTreeCap then
    (some ("Retry tree for root failure '" ++ rootTask.title ++
        "' reached the hard cap of " ++ toString remediationTreeCap ++
        " remediation tasks."), retryHistory, currentFailure)
  else if sameFailureClassification
      (previousRetryFailure retryHistory parent.id) currentFailure then
    (some ("Latest remediation attempt repeated the previous root cause " ++
        "classification; escalating to blocked instead of spawning another " ++
        "retry."), retryHistory, currentFailure)
  else (none, retryHistory, currentFailure)

/-- A line of `_format_retry_history`. -/
def retryHistoryLine (entry : RetryEntry) (index : Nat) : String :=
  let objective := String.ofList
    ((joinWords entry.objective).toList.take retryHistoryMaxObjectiveChars)
  let missing := ", ".intercalate entry.failure.missingRequiredArtifacts
  toString (index + 1) ++ ". " ++ entry.taskTitle ++ " tried '" ++ objective ++ "'. Outcome: " ++
    orText (some (joinWords entry.outcome)) "no evaluation summary recorded" ++
    " (verdict=" ++ orText (some entry.verdict) "unknown" ++ ", decision=" ++
    orText (some entry.decision) "unknown" ++ ", failure_category=" ++
    orText (some entry.failure.failureCategory) "unknown" ++
    (if missing = "" then "" else ", missing_artifacts=" ++ missing) ++ ")."

def formatRetryHistory (retryHistory : List RetryEntry) : String :=
  "\n".intercalate (retryHistory.mapIdx fun index entry => retryHistoryLine entry index)

def composeRemediationObjective (baseObjective : String)
    (retryHistory : List RetryEntry) : String :=
  let summary := formatRetryHistory retryHistory
  if summary = "" then baseObjective
  else
    baseObjective ++ "\n\nPrior retry history for this root failure:\n" ++ summary ++
      "\n\nThis attempt must do something different from the prior rounds. " ++
      "Focus now on: " ++ baseObjective

def markRetryTreeBlocked (task rootTask : Task) (reason : String)
    (currentFailure : RetryClassification) : Store :=
  match task.objective? with
  | none => store
  | some objectiveId =>
    let investigated := store.updateObjectiveStatus objectiveId .investigating
    investigated.createContextRecord
      { id := host.contextId, recordType := "failed_task_retry_blocked"
        objectiveId := some objectiveId, content := reason
        metadata :=
          [("root_task_id", .str rootTask.id), ("retry_tree_descendants",
              .int (retryTreeDescendants investigated rootTask).length),
            ("failure_classification", .dict currentFailure.toDict)]
        createdAt := host.now }

end

/-! ## The tasks of the findings -/

structure RemediationContext where
  parent : Task
  rootTask : Task
  sourceRunId : String
  retryHistory : List RetryEntry
  currentFailure : RetryClassification

def findingMetadata (context : RemediationContext) (finding : PyDict) :
    Except PyError PyDict := do
  let findingIds ← finding.getList "finding_ids"
  let hints ← finding.getList "remediation_hints"
  return [ ("failed_task_disposition", .dict [("kind", .str "split_into_narrower_tasks"),
          ("source_task_id", .str context.parent.id),
          ("source_run_id", .str context.sourceRunId)]),
    ("retry_remediation", .dict [("root_task_id", .str context.rootTask.id),
          ("parent_task_id", .str context.parent.id),
          ("history", .list (context.retryHistory.map fun entry => .dict entry.toDict)),
          ("current_failure", .dict context.currentFailure.toDict),
          ("history_summary", .str (formatRetryHistory context.retryHistory))]),
    ("promotion_remediation", .dict [("finding_ids", .list findingIds),
          ("review_round_id", .str (finding.getStr "review_round_id")),
          ("dimension_name", .str (finding.getStr "dimension_name")),
          ("summary", .str (finding.getStr "summary")),
          ("remediation_hints", .list hints)])]

/-- `str(finding.get(key) or inherited or default)`. -/
def findingText (finding : PyDict) (key inherited default : String) : String :=
  if (finding.get key).truthy then (finding.get key).toStr
  else orText (some inherited) default

/-- The arguments of `create_follow_on_task` for a finding. -/
def findingRequest (context : RemediationContext) (index : Nat)
    (finding : PyDict) : Except PyError FollowOnRequest := do
  let metadata ← findingMetadata context finding
  let baseObjective :=
    orText (some (pyStrip (finding.getStr "objective")))
      "Address the failed-task review finding and keep the work on the same objective."
  return {
    parentTaskId := context.parent.id
    sourceRunId := context.sourceRunId
    title :=
      orText (some (pyStrip (finding.getStr "title")))
        ("Remediate review finding " ++ toString (index + 1))
    objective := composeRemediationObjective baseObjective context.retryHistory
    strategy := findingText finding "strategy" context.parent.strategy "atomic_from_mermaid"
    validationMode :=
      findingText finding "validation_mode" context.parent.validationMode "default_focused"
    metadataOverrides := metadata }

variable (host : RemediationHost)

def createFindingTask (context : RemediationContext)
    (index : Nat) (finding : PyDict) : EStateM PyError Store Task := do
  let request ← valueOf (findingRequest context index finding)
  let before ← get
  let created ← valueOf (createFollowOnTask (host.identities index) before request)
  set created.1
  return created.2

def createFindingTasks (host : RemediationHost) (context : RemediationContext) :
    Nat → List PyDict → EStateM PyError Store (List Task)
  | _, [] => return []
  | index, finding :: findings => do
      let task ← createFindingTask host context index finding
      let tasks ← createFindingTasks host context (index + 1) findings
      return task :: tasks

/-- What the call does by the answer of `_remediation_block_reason`. -/
def remediate (host : RemediationHost) (before : Store)
    (parent rootTask : Task) (sourceRunId : String) (findings : List PyDict) :
    Option String × List RetryEntry × RetryClassification → EStateM PyError Store (List Task)
  | (some reason, _, currentFailure) => do
      set (markRetryTreeBlocked host before parent rootTask reason currentFailure)
      return []
  | (none, retryHistory, currentFailure) => do
      let created ← createFindingTasks host
        { parent, rootTask, sourceRunId, retryHistory, currentFailure } 0
        findings
      modify fun store => if created = [] then store else planObjective store parent
      return created

def remediateParent (host : RemediationHost) (before : Store)
    (parentTaskId sourceRunId : String) (findings : List PyDict) :
    Option Task → EStateM PyError Store (List Task)
  | none => throw (.valueError ("Unknown parent task: " ++ parentTaskId))
  | some parent =>
    let rootTask := retryTreeRoot before parent
    remediate host before parent rootTask sourceRunId findings <|
      remediationBlockReason host before parent rootTask sourceRunId findings

def createTasksFromReviewFindings (parentTaskId sourceRunId : String) (findings : List PyDict) :
    EStateM PyError Store (List Task) := do
  let before ← get
  remediateParent host before parentTaskId sourceRunId findings (before.getTask parentTaskId)

/-! ## What a call adds to the table of tasks -/

theorem createFollowOnTask_spec {identities : TaskIdentities} {store written : Store}
    {request : FollowOnRequest} {parent task : Task}
    (stored : store.getTask request.parentTaskId = some parent)
    (named : request.parentTaskId ≠ "")
    (returned : createFollowOnTask identities store request = .ok (written, task)) :
    written.tasks.rows = store.tasks.rows ++ [task] ∧ ∃ scope planId mermaidNodeId, task =
          { policyTask identities (followOnPolicy parent request) scope with
            planId, mermaidNodeId } := by
  unfold createFollowOnTask at returned
  rw [stored] at returned
  have created : ∃ scope, createTask identities store
      (policyTask identities (followOnPolicy parent request) scope) = .ok (written, task) := by
    cases owned : (followOnPolicy parent request).objectiveId with
    | none =>
      unfold createTaskWithPolicy at returned
      dsimp only at returned
      rw [owned] at returned
      exact ⟨_, returned⟩
    | some objectiveId => exact ⟨_, createTask_of_createTaskWithPolicy owned returned⟩
  obtain ⟨scope, created⟩ := created
  rcases createTask_spec created with
    ⟨referenced, _⟩ | ⟨_, ⟨_, _, rfl, inserted⟩, planId, mermaidNodeId, rfl⟩
  · have unreferenced : referencedTask store
        (policyTask identities (followOnPolicy parent request) scope) =
          none := by
      unfold referencedTask
      simp [policyTask, followOnPolicy, orEmptyText, named]
    rw [unreferenced] at referenced
    cases referenced
  · exact ⟨KeyedTable.rows_of_insert? inserted, scope, planId, mermaidNodeId,
      rfl⟩

structure CreatedBelow (host : RemediationHost) (parent : Task) (bound : Nat)
    (task : Task) : Prop where
  linked : task.parentTaskId = some parent.id
  owned : task.projectId = parent.projectId
  identified : ∃ index < bound, task.id = (host.identities index).taskId

def GrowsBelow (parent : Task) (bound : Nat) (before after : Store) : Prop :=
  parent ∈ before.tasks.rows → ∃ created, after.tasks.rows = before.tasks.rows ++ created ∧
      ∀ task ∈ created, CreatedBelow host parent bound task

section

variable {host : RemediationHost} {context : RemediationContext}
  {bound : Nat}

instance (parent : Task) : Std.Refl (GrowsBelow host parent bound) where
  refl _ _ := ⟨[], (append_nil _).symm, fun _ member => absurd member not_mem_nil⟩

instance (parent : Task) : IsTrans Store (GrowsBelow host parent bound) where
  trans _ _ _ early late stored := by
    obtain ⟨first, placed, firstBelow⟩ := early stored
    have kept := mem_append_left first stored
    rw [← placed] at kept
    obtain ⟨second, later, secondBelow⟩ := late kept
    refine ⟨first ++ second, ?_, fun task member => ?_⟩
    · rw [later, placed, append_assoc]
    · exact (mem_append.mp member).elim (firstBelow task) (secondBelow task)

theorem parentTaskId_findingRequest {index : Nat} {finding : PyDict} {request : FollowOnRequest}
    (returned : findingRequest context index finding = .ok request) :
    request.parentTaskId = context.parent.id := by
  unfold findingRequest at returned
  obtain ⟨metadata, _, returned⟩ := exists_of_bind_ok returned
  cases returned
  rfl

theorem createFindingTask_cases
    (named : context.parent.id ≠ "") {index : Nat} (early : index < bound)
    (finding : PyDict) {before : Store}
    (stored : context.parent ∈ before.tasks.rows) :
    (∃ error, createFindingTask host context index finding before = .error error before) ∨
      ∃ task after, createFindingTask host context index finding before = .ok task after ∧
          after.tasks.rows = before.tasks.rows ++ [task] ∧
            CreatedBelow host context.parent bound task := by
  cases requested : findingRequest context index finding with
  | error error =>
    refine .inl ⟨error, ?_⟩
    show EStateM.bind (valueOf (findingRequest context index finding)) _
      before = _
    rw [requested]
    rfl
  | ok request =>
    have applied : createFindingTask host context index finding before =
        EStateM.bind (valueOf (createFollowOnTask (host.identities index) before request))
          (fun created => do
            set created.1
            return created.2) before := by
      show EStateM.bind (valueOf (findingRequest context index finding)) _
        before = _
      rw [requested]
      rfl
    rw [applied]
    cases created : createFollowOnTask (host.identities index) before request with
    | error error => exact .inl ⟨error, rfl⟩
    | ok pair =>
      obtain ⟨after, task⟩ := pair
      have parentId := parentTaskId_findingRequest requested
      have found : before.getTask request.parentTaskId = some context.parent := by
        rw [parentId]
        exact before.tasks.lookup_of_mem stored
      obtain ⟨placed, scope, planId, mermaidNodeId, row⟩ :=
        createFollowOnTask_spec found (parentId ▸ named) created
      refine .inr ⟨task, after, rfl, placed, ?_⟩
      rw [row]
      exact
        { linked := congrArg some parentId, owned := rfl, identified := ⟨index, early, rfl⟩ }

theorem follows_createFindingTasks
    (named : context.parent.id ≠ "") (index : Nat) (findings : List PyDict)
    (within : index + findings.length ≤ bound) :
    Follows (GrowsBelow host context.parent bound)
      (createFindingTasks host context index findings) := by
  induction findings generalizing index with
  | nil => exact .returns []
  | cons finding findings ih =>
    rw [length_cons] at within
    have first : Follows (GrowsBelow host context.parent bound)
        (createFindingTask host context index finding) := by
      intro before stored
      rcases @createFindingTask_cases host context bound named index
        (by omega) finding before stored with
        ⟨error, raised⟩ | ⟨task, after, returned, placed, below⟩
      · rw [raised]
        exact refl_of (GrowsBelow host context.parent bound) before stored
      · rw [returned]
        refine ⟨[task], placed, fun other member => ?_⟩
        rw [mem_singleton.mp member]
        exact below
    refine first.bind fun task => ?_
    refine (ih (index + 1) (by omega)).bind fun tasks => ?_
    exact .returns _

theorem rows_createFindingTasks
    (named : context.parent.id ≠ "") {index : Nat} {findings : List PyDict}
    (within : index + findings.length ≤ bound) {before after : Store}
    {created : List Task} (stored : context.parent ∈ before.tasks.rows)
    (returned : createFindingTasks host context index findings before = .ok created after) :
    after.tasks.rows = before.tasks.rows ++ created ∧
      created.length = findings.length ∧
        ∀ task ∈ created, CreatedBelow host context.parent bound task := by
  induction findings generalizing index before created with
  | nil =>
    cases returned
    exact ⟨(append_nil _).symm, rfl, fun _ member => absurd member not_mem_nil⟩
  | cons finding findings ih =>
    rw [length_cons] at within
    obtain ⟨task, middle, first, rest⟩ := ok_of_bind returned
    obtain ⟨tasks, final, later, last⟩ := ok_of_bind rest
    cases last
    rcases @createFindingTask_cases host context bound named index
      (by omega) finding before stored with
      ⟨error, raised⟩ | ⟨other, left, outcome, placed, below⟩
    · rw [raised] at first
      cases first
    · rw [outcome] at first
      cases first
      have kept : context.parent ∈ middle.tasks.rows := by
        rw [placed]
        exact mem_append_left _ stored
      obtain ⟨rows, length, others⟩ := ih (by omega) kept later
      refine ⟨?_, ?_, fun found member => ?_⟩
      · rw [rows, placed, append_assoc, singleton_append]
      · rw [length_cons, length_cons, length]
      · rcases mem_cons.mp member with rfl | member
        · exact below
        · exact others found member

end

end TaskService

/-! ## Histories of calls -/

/-- A call of `create_tasks_from_review_findings`. -/
structure RemediationCall where
  host : RemediationHost
  parentTaskId : String
  sourceRunId : String
  findings : List PyDict

namespace RemediationCall

def program (call : RemediationCall) : EStateM PyError Store (List Task) :=
  TaskService.createTasksFromReviewFindings call.host call.parentTaskId
    call.sourceRunId call.findings

def after (store : Store) (call : RemediationCall) : Store := stateOf (call.program store)

def run (store : Store) (calls : List RemediationCall) : Store := calls.foldl after store

/-- The ids that `new_id` makes for the call are not empty, and no stored task
names one of them as its parent. -/
def FreshIds (store : Store) (call : RemediationCall) : Prop :=
  ∀ index < call.findings.length, (call.host.identities index).taskId ≠ "" ∧
      ∀ task ∈ store.tasks.rows, task.parentTaskId ≠ some (call.host.identities index).taskId

def FreshHistory : Store → List RemediationCall → Prop
  | _, [] => True
  | store, call :: calls => call.FreshIds store ∧ FreshHistory (call.after store) calls

end RemediationCall

structure CreatesWithinCap (before after : Store) (parent : Task)
    (findings : List PyDict) (created : List Task) : Prop where
  added : after.tasks.rows = before.tasks.rows ++ created
  complete : created = [] ∨ created.length = findings.length
  capped : created ≠ [] → (TaskService.retryTreeDescendants after
      (TaskService.retryTreeRoot before parent)).length ≤ TaskService.remediationTreeCap
  below : ∀ task ∈ created, task ∈ TaskService.retryTreeDescendants after
    (TaskService.retryTreeRoot before parent)

/-- The climb to the root of the task and the search for the descendants of
the task stop by themselves. -/
structure WalksEnd (store : Store) (task : Task) : Prop where
  climb : TaskService.climbStep store (iterate (TaskService.climbStep store) store.tasks.rows.length
      { current := task, visited := [task.id] }) = none
  search :
    let tasks := store.listTasks task.projectId
    let children := TaskService.childrenByParent tasks
    searchStep Task.id children (iterate (searchStep Task.id children)
        (searchBound Task.id children tasks (children task.id))
        { stack := (children task.id).reverse }) = none

namespace RemediationCall

open TaskService

variable {call : RemediationCall} {projectId : String} {before : Store}

theorem markRetryTreeBlocked_tasks (host : RemediationHost) (store : Store) (task rootTask : Task)
    (reason : String) (failure : RetryClassification) :
    (markRetryTreeBlocked host store task rootTask reason failure).tasks =
      store.tasks := by
  unfold markRetryTreeBlocked
  split
  · rfl
  · rfl

inductive Outcome (call : RemediationCall) (before : Store) :
    EStateM.Result PyError Store (List Task) → Prop where
  | unknown (missing : before.getTask call.parentTaskId = none) error :
      Outcome call before (.error error before)
  | blocked {parent after} (found : before.getTask call.parentTaskId =
      some parent) (kept : after.tasks = before.tasks) :
      Outcome call before (.ok [] after)
  | raised {parent context error left} (found : before.getTask
      call.parentTaskId = some parent) (below : context.parent = parent)
      (stopped : createFindingTasks call.host context 0 call.findings before =
        .error error left) : Outcome call before (.error error left)
  | created {parent context created middle after}
      (found : before.getTask call.parentTaskId = some parent)
      (below : context.parent = parent)
      (room : (retryTreeDescendants before
        (retryTreeRoot before parent)).length + call.findings.length ≤ remediationTreeCap)
      (finished : createFindingTasks call.host context 0 call.findings before =
        .ok created middle) (kept : after.tasks = middle.tasks) :
      Outcome call before (.ok created after)

variable {parent : Task} {later : Store} {created : List Task}

theorem remediationBlockReason_eq_none
    {host : RemediationHost} {rootTask : Task} {sourceRunId : String}
    {findings : List PyDict} {history : List RetryEntry}
    {failure : RetryClassification}
    (passed : remediationBlockReason host before parent rootTask sourceRunId
      findings = (none, history, failure)) :
    (retryTreeDescendants before rootTask).length + findings.length ≤
      remediationTreeCap := by
  unfold remediationBlockReason at passed
  dsimp only at passed
  split at passed
  · cases passed
  next room => omega

theorem outcome_program (call : RemediationCall) (before : Store) :
    Outcome call before (call.program before) := by
  have applied : call.program before =
      remediateParent call.host before call.parentTaskId call.sourceRunId
        call.findings (before.getTask call.parentTaskId) before := rfl
  rw [applied]
  cases found : before.getTask call.parentTaskId with
  | none => exact .unknown found _
  | some parent =>
    unfold remediateParent
    dsimp only
    cases decided : remediationBlockReason call.host before parent
        (retryTreeRoot before parent) call.sourceRunId call.findings with
    | mk reason answer =>
    obtain ⟨history, failure⟩ := answer
    cases reason with
    | some reason => exact .blocked found (markRetryTreeBlocked_tasks _ _ _ _ _ _)
    | none =>
      have room := remediationBlockReason_eq_none decided
      have bound : remediate call.host before parent
          (retryTreeRoot before parent) call.sourceRunId call.findings
          (none, history, failure) before =
        EStateM.bind (createFindingTasks call.host
          { parent, rootTask := retryTreeRoot before parent
            sourceRunId := call.sourceRunId, retryHistory := history
            currentFailure := failure } 0 call.findings)
          (fun created => do
            modify fun store => if created = [] then store else planObjective store parent
            return created) before := rfl
      rw [bound]
      unfold EStateM.bind
      cases finished : createFindingTasks call.host
          { parent, rootTask := retryTreeRoot before parent
            sourceRunId := call.sourceRunId, retryHistory := history
            currentFailure := failure } 0 call.findings before with
      | error error left => exact .raised found rfl finished
      | ok created middle =>
        refine .created found rfl room finished ?_
        show (if created = [] then middle
          else planObjective middle parent).tasks = middle.tasks
        split
        · rfl
        · exact planObjective_tasks middle parent

theorem parent_of_getTask (single : OneProject projectId before)
    (found : before.getTask call.parentTaskId = some parent) :
    parent ∈ before.tasks.rows ∧ parent.id ≠ "" := by
  have stored := (before.tasks.lookup_eq_some_iff.mp found).1
  exact ⟨stored, single.named parent stored⟩

theorem oneProject_of_created (single : OneProject projectId before) (fresh : call.FreshIds before)
    (stored : parent ∈ before.tasks.rows)
    (placed : later.tasks.rows = before.tasks.rows ++ created)
    (below : ∀ task ∈ created, CreatedBelow call.host parent call.findings.length task) :
    OneProject projectId later := by
  constructor
  · intro task member
    rw [placed] at member
    rcases mem_append.mp member with earlier | new
    · exact single.owned task earlier
    · exact (below task new).owned.trans (single.owned parent stored)
  · intro task member
    rw [placed] at member
    rcases mem_append.mp member with earlier | new
    · exact single.named task earlier
    · obtain ⟨index, within, same⟩ := (below task new).identified
      rw [same]
      exact (fresh index within).1

theorem addedBelow_of_created (fresh : call.FreshIds before) (named : parent.id ≠ "")
    (placed : later.tasks.rows = before.tasks.rows ++ created)
    (below : ∀ task ∈ created, CreatedBelow call.host parent call.findings.length task) :
    AddedBelow parent created before later where
  placed := placed
  linked task member := by
    unfold parentLink
    rw [(below task member).linked]
    exact Option.filter_some_pos (by simpa using named)
  unlinked task member stored earlier link := by
    obtain ⟨index, within, same⟩ := (below task member).identified
    have named : stored.parentTaskId = some task.id := Option.eq_some_of_filter_eq_some link
    rw [same] at named
    exact (fresh index within).2 stored earlier named

theorem oneProject_after (single : OneProject projectId before) (fresh : call.FreshIds before) :
    OneProject projectId (call.after before) := by
  have unchanged {later : Store} (kept : later.tasks = before.tasks) : OneProject projectId later :=
    { owned := fun task member => single.owned task (kept ▸ member)
      named := fun task member => single.named task (kept ▸ member) }
  have outcome := outcome_program call before
  unfold after
  generalize call.program before = result at outcome ⊢
  cases outcome with
  | unknown missing error => exact single
  | blocked found kept => exact unchanged kept
  | raised found below stopped =>
    obtain ⟨stored, named⟩ := parent_of_getTask single found
    subst below
    have grown := @follows_createFindingTasks call.host _ _ named 0
      call.findings (Nat.le_of_eq (Nat.zero_add _)) before stored
    rw [stopped] at grown
    obtain ⟨created, placed, below⟩ := grown
    exact oneProject_of_created single fresh stored placed below
  | created found below room finished kept =>
    obtain ⟨stored, named⟩ := parent_of_getTask single found
    subst below
    obtain ⟨placed, _, below⟩ := rows_createFindingTasks named
      (Nat.le_of_eq (Nat.zero_add _)) stored finished
    rw [← kept] at placed
    exact oneProject_of_created single fresh stored placed below

theorem createsWithinCap_of_program
    (single : OneProject projectId before) (fresh : call.FreshIds before)
    (returned : call.program before = .ok created later) :
    ∃ parent, before.getTask call.parentTaskId = some parent ∧
      CreatesWithinCap before later parent call.findings created := by
  have outcome := outcome_program call before
  rw [returned] at outcome
  cases outcome with
  | blocked found kept =>
    refine ⟨_, found, ?_, .inl rfl, fun other => absurd rfl other,
      fun _ member => absurd member not_mem_nil⟩
    rw [kept, append_nil]
  | created found below room finished kept =>
    obtain ⟨stored, named⟩ := parent_of_getTask single found
    subst below
    obtain ⟨placed, length, below⟩ := rows_createFindingTasks named
      (Nat.le_of_eq (Nat.zero_add _)) stored finished
    rw [← kept] at placed
    have added := addedBelow_of_created fresh named placed below
    have after := oneProject_of_created single fresh stored placed below
    have rooted := (path_retryTreeRoot stored).1
    refine ⟨_, found, placed, .inr length, fun _ => ?_, fun task new =>
      mem_retryTreeDescendants_of_created added single after stored new⟩
    have grown := length_retryTreeDescendants_le added single after stored rooted
    rw [length] at grown
    exact grown.trans room

theorem oneProject_run {store : Store} (single : OneProject projectId store)
    {earlier later : List RemediationCall}
    (fresh : FreshHistory store (earlier ++ later)) :
    OneProject projectId (run store earlier) ∧ FreshHistory (run store earlier) later := by
  induction earlier generalizing store with
  | nil => exact ⟨single, fresh⟩
  | cons first earlier ih => exact ih (oneProject_after single fresh.1) fresh.2

end RemediationCall

/-- The cap on the tree of a retried failure, over every history of calls: a
call that returns has created a task for every finding or none, it leaves at
most as many descendants as the cap allows below the root that it has climbed
to, every created task is one of them, and the walks end in every store. -/
theorem remediation_capped {projectId : String} {store : Store}
    (single : TaskService.OneProject projectId store)
    {calls : List RemediationCall}
    (fresh : RemediationCall.FreshHistory store calls) :
    (∀ earlier call later, calls = earlier ++ call :: later →
        ∀ created after, call.program (RemediationCall.run store earlier) = .ok created after →
            ∃ parent, (RemediationCall.run store earlier).getTask call.parentTaskId = some parent ∧
                CreatesWithinCap (RemediationCall.run store earlier) after
                  parent call.findings created) ∧
      ∀ reached task, WalksEnd reached task := by
  constructor
  · intro earlier call later split created after returned
    rw [split] at fresh
    obtain ⟨reached, rest⟩ := RemediationCall.oneProject_run single fresh
    exact RemediationCall.createsWithinCap_of_program reached rest.1 returned
  · exact fun reached task =>
      ⟨TaskService.climb_stops reached task, TaskService.search_halts reached task⟩

def cyclicStore : Store where
  projects := .single { id := "project", promotionMode := .branchOnly }
  tasks :=
    ⟨[{ id := "left", projectId := "project", parentTaskId := some "right" },
      { id := "right", projectId := "project", parentTaskId := some "left" }],
      by decide⟩

def cyclicCall : RemediationCall where
  host :=
    { identities := fun index =>
        { taskId := if index = 0 then "first" else "second"
          planId := "plan", now := 0, nonNegotiables := fun _ => none } }
  parentTaskId := "left"
  sourceRunId := "run"
  findings := [[("title", .str "Narrow the task")], []]

def createdIds : EStateM.Result PyError Store (List Task) → List String
  | .ok created _ => created.map Task.id
  | .error _ _ => []

theorem cycle_remediated :
    ∃ parent created after, cyclicStore.getTask "left" = some parent ∧
        created.map Task.id = ["first", "second"] ∧
          CreatesWithinCap cyclicStore after parent cyclicCall.findings
            created := by
  have single : TaskService.OneProject "project" cyclicStore :=
    { owned := by decide
      named := by decide }
  have fresh : RemediationCall.FreshHistory cyclicStore [cyclicCall] :=
    ⟨by unfold RemediationCall.FreshIds; decide, trivial⟩
  have identified : createdIds (cyclicCall.program cyclicStore) = ["first", "second"] := by
    decide +kernel
  cases returned : cyclicCall.program cyclicStore with
  | error error left =>
    rw [returned] at identified
    cases identified
  | ok created after =>
    rw [returned] at identified
    obtain ⟨parent, found, within⟩ :=
      (remediation_capped single fresh).1 [] cyclicCall [] rfl created after returned
    exact ⟨parent, created, after, found, identified, within⟩

end AccruviaHarness
