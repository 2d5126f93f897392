import AccruviaHarness.Promotion.PathSync
import AccruviaHarness.Workflows.ObjectiveReview

/-!
# Promoting an objective to its repository

`promote_objective_to_repo` with the `apply_objective` under it. What git, the
checks and the review provider answer is a parameter.
-/

namespace AccruviaHarness

open Library

inductive PromotionStep where
  | addWorktree
  | commit
  | prePushChecks
  | push
  | listRemote
  | postPushChecks
  | rollback
  | openReview
  | removeWorktree
  deriving DecidableEq, Repr

structure PromotionHost (Content : Type) where
  /-- `Path.resolve`. -/
  resolvePath : String → String
  /-- The working tree at a repository root. -/
  workingTree : String → WorkingTree Content
  /-- The refs of a repository, after the fetch. -/
  commitOf : String → String → Option (CommitTree Content)
  gitFile : Content
  ignored : FilePath → Bool
  outcome : PromotionStep → Except PyError Unit
  branchToken : String
  commitSha : String
  remoteSha : String
  rollbackSha : String
  reviewUrl : Option String
  appliedAt : String
  contextRecordId : String
  promotionId : String
  now : Int

structure PromotionApplyResult (Content : Type) where
  branchName : String
  commitSha : String
  pushedRef : String
  prUrl : Option String
  cleanupPerformed : Bool
  verifiedRemoteSha : Option String
  /-- The files of the commit. -/
  files : CommitFiles Content

namespace RepositoryPromotionService

section

variable {Content : Type} (host : PromotionHost Content)

def refreshBaseRef (sourceRepoRoot baseBranch : String) : String :=
  if (host.commitOf sourceRepoRoot ("origin/" ++ baseBranch)).isSome then "origin/" ++ baseBranch
  else baseBranch

def verifyRemoteSha (baseBranch expectedSha : String) :
    Except PyError String := do
  host.outcome .listRemote
  if host.remoteSha = expectedSha then return host.remoteSha
  .error <| .runtimeError <| "Remote verification failed for origin/" ++ baseBranch ++
      ": expected " ++ expectedSha ++ ", found " ++
        (if host.remoteSha = "" then "nothing" else host.remoteSha)

variable (project : Project)

def openReview : Except PyError (Option String) :=
  if (project.repoName.getD "" = "") ∨ project.repoProvider = none then
    .error <| .runtimeError
      "Promotion mode branch_and_pr requires project repo_name and repo_provider"
  else (host.outcome .openReview).map fun _ => host.reviewUrl

/-- What follows the commit in `apply_objective`. -/
def pushObjective (branchName : String) (files : CommitFiles Content) :
    Except PyError (PromotionApplyResult Content) := do
  host.outcome .prePushChecks
  host.outcome .push
  if project.promotionMode = .directMain then
    let verified ← verifyRemoteSha host project.baseBranch host.commitSha
    match host.outcome .postPushChecks with
    | .error _ =>
      host.outcome .rollback
      .error <| .runtimeError <| "Post-merge validation failed after pushing " ++ host.commitSha ++
          "; rollback applied as " ++ host.rollbackSha ++ "."
    | .ok () =>
      return {
        branchName
        commitSha := host.commitSha
        pushedRef := host.commitSha ++ ":" ++ project.baseBranch
        prUrl := none
        cleanupPerformed := true
        verifiedRemoteSha := some verified
        files }
  else
    let prUrl ← if project.promotionMode = .branchAndPr then
        openReview host project
      else .ok none
    return {
      branchName
      commitSha := host.commitSha
      pushedRef := branchName
      prUrl
      cleanupPerformed := true
      verifiedRemoteSha := none
      files }

variable [DecidableEq Content] (project : Project)

/-- The body of `apply_objective` between the making of the worktree and its
removal. -/
def promoteWorktree (branchName : String) (source : WorkingTree Content) (base : CommitTree Content)
    (cleanedPaths : List String) :
    Except PyError (PromotionApplyResult Content) := do
  let worktree ← syncObjectivePaths source (base.checkout host.gitFile) cleanedPaths
  -- `git worktree remove` refuses a worktree with another `.git`.
  if DirectoryTree.fileAt [".git"] worktree ≠ some host.gitFile then
    .error (.calledProcessError "git worktree remove")
  let files := stagedFiles host.ignored base worktree
  if ¬ hasChanges base worktree files then
    .error <| .runtimeError
      "Objective promotion found no staged changes after syncing objective files"
  host.outcome .commit
  pushObjective host project branchName files

/-- `finally`: an exception of the cleanup replaces that of the body. -/
def finallyDo {Result : Type} (cleanup : Except PyError Unit)
    (body : Except PyError Result) : Except PyError Result :=
  match cleanup with
  | .error error => .error error
  | .ok () => body

def idSuffix (objectiveId : String) : String :=
  String.ofList (objectiveId.toList.drop (objectiveId.toList.length - 6))

def applyObjective (objectiveId sourceRepoRoot
    sourceWorkingRoot : String) (objectivePaths : List String) :
    Except PyError (PromotionApplyResult Content) := do
  let cleanedPaths := normalizeObjectivePaths objectivePaths
  if cleanedPaths = [] then
    .error <| .runtimeError "Objective promotion requires at least one tracked objective file path"
  let sourceRepoRoot := host.resolvePath sourceRepoRoot
  let source := host.workingTree (host.resolvePath sourceWorkingRoot)
  let branchName := "objective-" ++ idSuffix objectiveId ++ "-" ++ host.branchToken
  match host.commitOf sourceRepoRoot
    (refreshBaseRef host sourceRepoRoot project.baseBranch) with
  | none => .error (.calledProcessError "git worktree add")
  | some base =>
    host.outcome .addWorktree
    finallyDo (host.outcome .removeWorktree)
      (promoteWorktree host project branchName source base cleanedPaths)

end

end RepositoryPromotionService

namespace PromotionMixin

def latestCompletedRun (store : Store) (task : Task) : Option Run :=
  (store.listRuns task.id).reverse.find? fun run => run.status = .completed

def taskRepoApplied (task : Task) : Bool :=
  let applyback := (task.externalRefMetadata.get "repo_applyback").asDict.getD []
  pyStrip (applyback.getStr "applied_commit_sha") ≠ ""

def PromotionOrder (first second : Run × Task) : Prop :=
  first.1.createdAt < second.1.createdAt ∨ (first.1.createdAt = second.1.createdAt ∧
      (first.2.createdAt < second.2.createdAt ∨ (first.2.createdAt = second.2.createdAt ∧
          first.2.id ≤ second.2.id)))

instance : DecidableRel PromotionOrder := fun _ _ => inferInstanceAs (Decidable (_ ∨ _))

/-- `_completed_unapplied_tasks_for_objective`. -/
def completedUnappliedTasks (store : Store) (linkedTasks : List Task) : List Task :=
  let unapplied := linkedTasks.filter fun task => task.status = .completed && !taskRepoApplied task
  (orderBy PromotionOrder <| unapplied.filterMap fun task =>
    (latestCompletedRun store task).map fun run => (run, task)).map Prod.snd

variable (reports : RunReports)

/-- `_missing_repo_promotion_validation_reason`. -/
def missingValidationReason (store : Store) (runId : String) : Except PyError String :=
  match latestReport store runId with
  | none => .ok "The latest completed run does not have a structured report artifact."
  | some artifact => do
      match ← reports.readReport artifact.path with
      | none => return "The latest completed run has an unreadable structured report artifact."
      | some payload =>
        let entries ← payload.requireDict
        if (entries.get "compile_check").asDict.isSome ∧
            (entries.get "test_check").asDict.isSome then
          return ""
        return "The latest completed run is missing persisted compile/test validation evidence in report.json. Re-run or re-validate the task before repo promotion."

/-- `_unapplied_repo_promotion_blocker`. -/
def repoPromotionBlocker (reports : RunReports) (store : Store) :
    List Task → Except PyError String
  | [] => .ok ""
  | task :: tasks =>
    match latestCompletedRun store task with
    | none =>
      .ok ("Completed atomic unit '" ++ task.title ++
        "' does not have a completed run.")
    | some run => do
        let reason ← missingValidationReason reports store run.id
        if reason ≠ "" then
          return "Completed atomic unit '" ++ task.title ++
            "' is not ready for repo promotion. " ++ reason
        repoPromotionBlocker reports store tasks

/-- `ORDER BY created_at` of events. -/
def EventOrder (first second : Event) : Prop := first.createdAt ≤ second.createdAt

instance : DecidableRel EventOrder := fun _ _ => inferInstanceAs (Decidable (_ ≤ _))

/-- `_objective_source_repo_root`: the root in the last event that has one. -/
def objectiveSourceRepoRoot (store : Store) (linkedTasks : List Task) : Option String :=
  let runs := linkedTasks.reverse.flatMap fun task => (store.listRuns task.id).reverse
  let events := runs.flatMap fun run =>
    (orderBy EventOrder <| reports.events.filter fun event =>
      event.entityType = "run" && event.entityId = run.id).reverse
  events.findSome? fun event =>
    if event.eventType = "project_workspace_prepared" ∧
        pyStrip (event.payload.getStr "source_repo_root") ≠ "" then
      some (pyStrip (event.payload.getStr "source_repo_root"))
    else none

/-- An optional text, or `None`. -/
def optionalText : Option String → PyValue
  | some text => .str text
  | none => .none

section

variable {Content : Type} (host : PromotionHost Content)
  (reports : RunReports) (store : Store)

/-- `applyback`. -/
def applybackOf (project : Project) (sourceRepoRoot : String)
    (objectivePaths : List String) (candidateTasks : List Task)
    (applied : PromotionApplyResult Content) : PyDict :=
  [("status", .str "applied"), ("branch_name", .str applied.branchName),
   ("commit_sha", .str applied.commitSha),
   ("pushed_ref", .str applied.pushedRef),
   ("pr_url", optionalText applied.prUrl),
   ("promotion_mode", .str project.promotionMode.value),
   ("cleanup_performed", .bool applied.cleanupPerformed),
   ("verified_remote_sha", optionalText applied.verifiedRemoteSha),
   ("objective_paths", .list (objectivePaths.map .str)),
   ("applied_task_ids", .list (candidateTasks.map fun task => .str task.id)),
   ("applied_task_count", .int candidateTasks.length),
   ("source_repo_root", .str sourceRepoRoot)]

def repoApplyback (objective : Objective) (task : Task)
    (applied : PromotionApplyResult Content) : PyDict :=
  [("applied_commit_sha", .str applied.commitSha), ("applied_at", .str host.appliedAt),
   ("pushed_ref", .str applied.pushedRef),
   ("objective_id", .str objective.id),
   ("run_id", .str (((latestCompletedRun store task).map Run.id).getD ""))]

def recordPromotion (objective : Objective) (candidateTasks : List Task)
    (objectivePaths : List String) (taskId runId : String)
    (applyback : PyDict) (applied : PromotionApplyResult Content) : Store :=
  let marked := candidateTasks.foldl (fun marked task =>
    marked.updateTaskExternalMetadata task.id <| task.externalRefMetadata.set "repo_applyback"
        (.dict (repoApplyback host store objective task applied))) store
  marked.createContextRecord
    { id := host.contextRecordId, recordType := "action_receipt", objectiveId := some objective.id
      content := "Action receipt: Promoted the objective snapshot to the repository."
      metadata :=
        [("kind", .str "objective_repo_promotion"), ("task_id", .str taskId),
         ("run_id", .str runId),
         ("promotion_status", .str "approved"),
         ("applyback", .dict applyback),
         ("objective_paths", .list (objectivePaths.map .str)),
         ("applied_task_ids", .list (candidateTasks.map fun task => .str task.id))]
      createdAt := host.now }

structure Promoted (Content : Type) where
  receipt : PyDict
  applied : PromotionApplyResult Content
  store : Store

def requireClear (objective : Objective) (linkedTasks : List Task) :
    Except PyError Unit := do
  let review ← PromotionReviewBuilder.build store objective.id linkedTasks
  if ¬ review.reviewClear ∧ review.operatorOverride.isNone then
    .error (.valueError "Objective is not yet clear to promote")

variable [DecidableEq Content]

def applyRepoPromotionForTasks (objective : Objective) (project : Project)
    (linkedTasks candidateTasks : List Task) :
    Except PyError (Promoted Content) := do
  requireClear store objective linkedTasks
  let blockerReason ← repoPromotionBlocker reports store candidateTasks
  if blockerReason ≠ "" then .error (.valueError blockerReason)
  match objectiveSourceRepoRoot reports store linkedTasks with
  | none => .error <| .valueError "Objective promotion requires a git-backed source repository root"
  | some root =>
    let sourceRepoRoot := host.resolvePath root
    let objectivePaths ← objectiveRepoFileSet reports store candidateTasks
    if objectivePaths = [] then
      .error <| .valueError
        "Objective promotion could not determine any objective-related file paths to apply"
    -- The working root is the repository root, not the runs' workspaces.
    let applied ← RepositoryPromotionService.applyObjective host project
      objective.id sourceRepoRoot sourceRepoRoot objectivePaths
    let candidate := candidateTasks.getLast?
    let taskId := (candidate.map Task.id).getD ""
    let runId := ((candidate.bind (latestCompletedRun store)).map Run.id).getD ""
    let applyback := applybackOf project sourceRepoRoot objectivePaths candidateTasks applied
    .ok
      { receipt :=
          [("objective_id", .str objective.id), ("task_id", .str taskId), ("run_id", .str runId),
           ("promotion", .dict [("id", .str host.promotionId), ("task_id", .str taskId),
               ("run_id", .str runId),
               ("status", .str "approved"),
               ("summary", .str "Objective snapshot promoted to the repository."),
               ("created_at", .str host.appliedAt)]),
           ("applyback", .dict applyback)]
        applied
        store := recordPromotion host store objective candidateTasks
          objectivePaths taskId runId applyback applied }

def promoteObjectiveToRepo (objectiveId : String) : Except PyError (Promoted Content) :=
  match store.getObjective objectiveId with
  | none => .error (.valueError ("Unknown objective: " ++ objectiveId))
  | some objective =>
    match store.getProject objective.projectId with
    | none => .error <| .valueError <| "Unknown project for objective: " ++ objective.projectId
    | some project => do
        let linkedTasks := HarnessUIDataService.linkedTasks store objective
        requireClear store objective linkedTasks
        let candidateTasks := completedUnappliedTasks store linkedTasks
        if candidateTasks = [] then
          .error <| .valueError
            "No unapplied completed atomic units are available for repo promotion"
        applyRepoPromotionForTasks host reports store objective project linkedTasks candidateTasks

end

end PromotionMixin

end AccruviaHarness
