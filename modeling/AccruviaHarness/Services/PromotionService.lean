import AccruviaHarness.Merging.MergeGate
import AccruviaHarness.Promotion.ObjectivePromotion
import AccruviaHarness.Promotion.RepositoryApply
import AccruviaHarness.Services.TaskService

/-!
# Affirming a promotion

`affirm_review` decides about a pending promotion of a task: by the answer of
the review skill and by the merge gate.
-/

namespace AccruviaHarness

open Library

structure ValidationIssue where
  summary : String
  followOnTitle : Option String
  followOnObjective : Option String

structure PromotionReviewResult where
  promotion : PromotionRecord
  followOnTaskId : Option String

structure AffirmHost where
  /-- An LLM router is configured. -/
  hasRouter : Bool
  /-- The review skill, on the inputs that are built from the artifacts. -/
  review : Except PyError SkillResult
  readReport : ReportReader
  apply : ApplyHost
  identities : TaskIdentities

/-- The store, the rows of `events`, and the workspace of the run. -/
structure AffirmState (Tree : Type) where
  store : Store
  events : List Event
  workspace : PushedHistory Tree

namespace PromotionService

def selectRun (store : Store) (taskId runId : String) : Except PyError Run :=
  let unknown := PyError.valueError ("Unknown run " ++ runId ++ " for task " ++ taskId)
  match store.getRun runId with
  | none => .error unknown
  | some run => if run.taskId = taskId then .ok run else .error unknown

def selectPromotion (store : Store) (taskId : String)
    (runId promotionId : Option String) : Except PyError PromotionRecord :=
  let promotions := store.listPromotions taskId
  match promotionId with
  | some wanted =>
    match promotions.find? fun promotion => promotion.id = wanted with
    | some promotion => .ok promotion
    | none => .error <| .valueError <| "Unknown promotion " ++ wanted ++ " for task " ++ taskId
  | none =>
    match runId with
    | some runId =>
      match (promotions.filter fun promotion => promotion.runId = runId).getLast? with
      | some promotion => .ok promotion
      | none =>
        .error <| .valueError <| "No promotion exists for run " ++ runId ++ " on task " ++ taskId
    | none =>
      match promotions.getLast? with
      | some promotion => .ok promotion
      | none => .error <| .valueError <| "Task " ++ taskId ++ " has no promotion reviews"

structure ReviewAnswer where
  approved : Bool
  rationale : String
  concerns : List PyValue

variable (result : SkillResult)

def reviewAnswer : Except PyError ReviewAnswer :=
  if !result.success then
    .ok
      { approved := false
        rationale := "promotion_review skill failed: " ++
          "; ".intercalate result.errors
        concerns := [] }
  else do
    let concerns ← result.output.getList "concerns"
    return {
      approved := (result.output.get "approved").truthy
      rationale := result.output.getStr "rationale"
      concerns }

def orText (default : String) : Option String → String
  | some text => if text = "" then default else text
  | none => default

/-- `details["affirmation"]`. -/
def affirmationOf (answer : ReviewAnswer) : PyDict :=
  [("backend", .str (orText "unknown" result.llmBackend)),
    ("response_path", .str (orText "" result.responsePath)),
    ("prompt_path", .str (orText "" result.promptPath)),
    ("rationale", .str answer.rationale),
    ("approved", .bool answer.approved),
    ("concerns", .list answer.concerns),
    ("skill", .str "promotion_review")]

def blockingConcerns (decision : MergeDecision) : List String :=
  decision.concerns.filter fun concern => concern ≠ "missing_report"

variable (host : AffirmHost)

/-- The merge gate of an approved review: whether the approval stands, and the
affirmation with what the gate has said. An exception leaves the approval. -/
def gateAffirmation (store : Store) (runId : String) (affirmation : PyDict) : Bool × PyDict :=
  match MergeGate.evaluateRun host.readReport store runId {} with
  | .ok decision =>
    ((blockingConcerns decision).isEmpty, affirmation.set "merge_gate_concerns"
        (.list (decision.concerns.map .str)))
  | .error error => (true, affirmation.set "merge_gate_error" (.str error.text))

structure Judgement where
  task : Task
  promotion : PromotionRecord
  run : Run
  approved : Bool
  details : PyDict
  backend : String

/-- `affirm_review` up to its decision. -/
def judge (store : Store) (taskId : String)
    (runId promotionId : Option String) : Except PyError Judgement :=
  if !host.hasRouter then .error (.valueError "No LLM router configured for promotion affirmation")
  else
    match store.getTask taskId with
    | none => .error (.valueError ("Unknown task: " ++ taskId))
    | some task => do
        let promotion ← selectPromotion store taskId runId promotionId
        if promotion.status ≠ .pending then
          .error <| .valueError <| "Promotion " ++ promotion.id ++ " is not pending affirmation"
        else
          let run ← selectRun store taskId promotion.runId
          let result ← host.review
          let answer ← reviewAnswer result
          let affirmation := affirmationOf result answer
          let gated :=
            if answer.approved then gateAffirmation host store run.id affirmation
            else (false, affirmation)
          return {
            task
            promotion
            run
            approved := gated.1
            details := promotion.details.set "affirmation" (.dict gated.2)
            backend := orText "unknown" result.llmBackend }

variable {Tree : Type}

abbrev AffirmProgram (Tree Result : Type) := EStateM PyError (AffirmState Tree) Result

def workspaceDetailsForRun (events : List Event) (runId : String) : Option PyDict :=
  ((orderBy PromotionMixin.EventOrder <| events.filter fun event =>
    event.entityType = "run" && event.entityId = runId).reverse.find?
      fun event => event.eventType = "project_workspace_prepared").map Event.payload

/-- `mode in {"git_worktree", "git_clone"}`. -/
def isGitMode : PyValue → Except PyError Bool
  | .str mode => .ok (mode = "git_worktree" || mode = "git_clone")
  | .list _ => .error (.typeError "unhashable type: 'list'")
  | .dict _ => .error (.typeError "unhashable type: 'dict'")
  | _ => .ok false

variable (details : PyDict)

/-- `Path(workspace_details["project_root"])`. -/
def projectRoot : Except PyError String :=
  if details.any fun entry => entry.1 = "project_root" then
    match details.get "project_root" with
    | .str root => .ok root
    | _ => .error <| .typeError "expected str, bytes or os.PathLike object"
  else .error (.keyError "project_root")

def remediationBranch (task : Task) : Option String :=
  match (task.externalRefMetadata.get "promotion_remediation").asDict with
  | some remediation =>
    let branch := remediation.get "branch_name"
    if branch.truthy then some branch.toStr else none
  | none => none

/-- `open_review=False if target_branch else None`. -/
def openReviewOf (task : Task) : Option Bool := (remediationBranch task).map fun _ => false

def skippedWorkspace : PyDict :=
  [("status", .str "skipped"), ("reason", .str "non_git_workspace"),
    ("workspace_mode", details.get "workspace_mode")]

def appliedWorkspace (host : ApplyHost) (project : Project) (task : Task)
    (applied : AppliedWorkspace) : PyDict :=
  [("status", .str "applied"), ("branch_name", .str applied.branchName),
    ("commit_sha", .str (host.commitSha applied.commit)),
    ("pushed_ref", .str applied.pushedRef),
    ("pr_url", PromotionMixin.optionalText applied.prUrl),
    ("promotion_mode", .str project.promotionMode.value),
    ("updated_existing_review", .bool (remediationBranch task).isSome)]

def inWorkspace {Result : Type} (program : GitProgram Tree Result) : AffirmProgram Tree Result :=
  fun state =>
    match program state.workspace with
    | .ok result workspace => .ok result { state with workspace }
    | .error error workspace => .error error { state with workspace }

/-- `except subprocess.CalledProcessError`. -/
def exceptCalledProcessError {Result : Type}
    (handler : AffirmProgram Tree Result) (error : PyError) :
    AffirmProgram Tree Result :=
  match error with
  | .calledProcessError _ => handler
  | other => throw other

variable (host : AffirmHost)

def applyGitWorkspace (project : Project) (task : Task)
    (details : PyDict) : AffirmProgram Tree PyDict :=
  tryCatch
    (do
      match projectRoot details with
      | .error error => throw error
      | .ok _ =>
        let applied ← inWorkspace <| RepositoryPromotionService.apply
          host.apply project (remediationBranch task) (openReviewOf task)
        return appliedWorkspace host.apply project task applied)
    (exceptCalledProcessError (return skippedWorkspace details))

def applyApprovedPromotion (task : Task) (run : Run) :
    AffirmProgram Tree PyDict := do
  let state ← get
  match state.store.getProject task.projectId with
  | none => throw <| .valueError ("Unknown project for task: " ++ task.projectId)
  | some project =>
    match workspaceDetailsForRun state.events run.id with
    | none => return [("status", .str "skipped"), ("reason", .str "missing_workspace_details")]
    | some details =>
      match isGitMode (details.get "workspace_mode") with
      | .error error => throw error
      | .ok false => return skippedWorkspace details
      | .ok true => applyGitWorkspace host project task details

def taskEvent (taskId eventType : String) (payload : PyDict) : Event where
  entityType := "task"
  entityId := taskId
  eventType
  payload

variable (judgement : Judgement) (applyback : PyDict)

def approvedPromotion :
    PromotionRecord :=
  { judgement.promotion with
    status := .approved, summary := "Promotion affirmed by deterministic gates and LLM review."
    details := judgement.details.set "applyback" (.dict applyback) }

def recordApproval :
    AffirmProgram Tree PromotionReviewResult := do
  let promotion := approvedPromotion judgement applyback
  let named : PyDict := [("promotion_id", .str promotion.id), ("run_id", .str judgement.run.id)]
  modify fun state =>
    { state with
      store := state.store.updatePromotion promotion
      events := state.events ++
        [taskEvent judgement.task.id "promotion_approved"
          (named ++ [("llm_backend", .str judgement.backend)])] ++
        if (applyback.get "status").isText "applied" then
          [taskEvent judgement.task.id "promotion_applied" (named.update applyback)]
        else [] }
  return { promotion, followOnTaskId := none }

def approve :
    AffirmProgram Tree PromotionReviewResult := do
  let applyback ← applyApprovedPromotion host judgement.task judgement.run
  recordApproval judgement applyback

def issueOf (issue : PyDict) : ValidationIssue where
  summary :=
    if issue.any fun entry => entry.1 = "summary" then (issue.get "summary").toStr
    else "Promotion issue"
  followOnTitle :=
    match issue.get "follow_on_title" with
    | .str title => some title
    | _ => none
  followOnObjective :=
    match issue.get "follow_on_objective" with
    | .str objective => some objective
    | _ => none

def issuesFromPromotionDetails (details : PyDict) :
    Except PyError (List ValidationIssue) := do
  let results ← details.iterate "validators"
  let issues ← (results.filterMap PyValue.asDict).mapM fun result => do
    let items ← result.iterate "issues"
    return (items.filterMap PyValue.asDict).map issueOf
  return issues.flatten

/-- `_follow_on_from_issues`, with what a rejection without issues asks for. -/
def followOnFromIssues (taskTitle : String) :
    List ValidationIssue → String × String
  | [] =>
    ("Address LLM promotion concerns for " ++ taskTitle,
      "Resolve the LLM promotion concerns recorded in the affirmation " ++
        "rationale and regenerate the candidate.")
  | first :: others =>
    let objectives := (first :: others).map fun issue =>
      "- " ++ orText issue.summary issue.followOnObjective
    (orText ("Resolve promotion failure for " ++ taskTitle)
        first.followOnTitle,
      "Address all recorded promotion issues:\n" ++ "\n".intercalate objectives)

/-- The task that `create_follow_on_task` makes from its parent. -/
def followOnPolicy (parent : Task) (sourceRunId title objective : String) :
    TaskPolicy where
  projectId := parent.projectId
  objectiveId := parent.objectiveId
  title
  objective
  priority := parent.priority
  parentTaskId := some parent.id
  sourceRunId := some sourceRunId
  externalRefType := parent.externalRefType
  externalRefId := parent.externalRefId
  externalRefMetadata := parent.externalRefMetadata
  validationProfile := parent.validationProfile
  validationMode := some parent.validationMode
  scope := some parent.scope
  strategy := parent.strategy
  maxAttempts := parent.maxAttempts
  requiredArtifacts := parent.requiredArtifacts

def followOnFor (store : Store) (judgement : Judgement) (issues : List ValidationIssue) :
    Except PyError (String × Option Store) :=
  let task := judgement.task
  match store.findFollowOnTask task.id judgement.run.id with
  | some existing => .ok (existing.id, none)
  | none => do
      let wanted := followOnFromIssues task.title issues
      let (store, created) ← TaskService.createTaskWithPolicy host.identities store
        (followOnPolicy task judgement.run.id wanted.1 wanted.2)
      return (created.id, some store)

def followOnTask
    (issues : List ValidationIssue) : AffirmProgram Tree String := do
  let state ← get
  match followOnFor host state.store judgement issues with
  | .error error => throw error
  | .ok (existing, none) => return existing
  | .ok (created, some store) =>
    set { state with
      store
      events := state.events ++
        [taskEvent created "follow_on_task_created" [("parent_task_id", .str judgement.task.id),
            ("source_run_id", .str judgement.run.id)]] }
    return created

def rejectedPromotion (followOn : PyValue) :
    PromotionRecord :=
  { judgement.promotion with
    status := .rejected, summary := "Promotion rejected by LLM affirmation."
    details := judgement.details.set "follow_on_task_id" followOn }

def recordRejection (followOnTaskId : Option String) :
    AffirmProgram Tree PromotionReviewResult := do
  let followOn := PromotionMixin.optionalText followOnTaskId
  let promotion := rejectedPromotion judgement followOn
  modify fun state =>
    { state with
      store := state.store.updatePromotion promotion
      events := state.events ++
        [taskEvent judgement.task.id "promotion_rejected" [("promotion_id", .str promotion.id),
            ("run_id", .str judgement.run.id),
            ("follow_on_task_id", followOn),
            ("llm_backend", .str judgement.backend)]] }
  return { promotion, followOnTaskId }

def reject (createFollowOn : Bool) : AffirmProgram Tree PromotionReviewResult :=
  match issuesFromPromotionDetails judgement.promotion.details with
  | .error error => throw error
  | .ok issues =>
    if createFollowOn then do
      let followOnTaskId ← followOnTask host judgement issues
      recordRejection judgement (some followOnTaskId)
    else recordRejection judgement none

def affirmReview (taskId : String) (runId promotionId : Option String) (createFollowOn : Bool) :
    AffirmProgram Tree PromotionReviewResult := do
  let state ← get
  match judge host state.store taskId runId promotionId with
  | .error error => throw error
  | .ok judgement =>
    if judgement.approved then approve host judgement
    else reject host judgement createFollowOn

end PromotionService

end AccruviaHarness
