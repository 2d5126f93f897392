import AccruviaHarness.Library.FileListing
import AccruviaHarness.Mermaid.Parse
import AccruviaHarness.Promotion.ApplyObstacles
import AccruviaHarness.Promotion.LocalCi
import AccruviaHarness.Promotion.PromotedContent
import AccruviaHarness.Services.PromotionService

/-!
# Promoting a structural fix

`promote_completed_structural_fix` runs the local CI on the working tree of a
run and, when that passes, commits the paths of the run's report and pushes
them to main.
-/

namespace AccruviaHarness

open Library DirectoryTree RepositoryPromotionService

abbrev TrackedFiles (Content : Type) := FileListing String Content

structure StructuralFixPromotionResult where
  taskId : String
  objectiveId : Option String
  ciPassed : Bool
  failedStage : String
  summary : String
  commandSummary : List String := []
  commitSha : Option String := none
  pushStatus : String := "not_attempted"
  workspaceRoot : Option String := none
  logs : Option (List (String × String)) := none
  deriving DecidableEq, Repr

structure StructuralFixOutcome where
  status : String
  reason : Option String
  result : Option StructuralFixPromotionResult
  deriving DecidableEq, Repr

structure NotedAction where
  reason : String
  result : String
  deriving DecidableEq, Repr

structure StructuralFixHost (Content : Type) extends ApplyHost where
  ci : CiHost Content
  /-- `Path.resolve`. -/
  resolvePath : String → String
  workspaceExists : String → Bool
  /-- The directory of the database. -/
  stateRoot : String
  /-- What `git status --porcelain` prints. -/
  statusOutput : PushedHistory (TrackedFiles Content) → WorkingTree Content → String
  /-- What stops `git diff --cached`. -/
  diffFailure : Option PyError
  ignored : FilePath → Bool
  /-- git's reading of a pathspec. -/
  pathspecMatches : String → FilePath → Bool
  /-- What stops the storing of a result. -/
  recordFailure : StructuralFixPromotionResult → Option PyError

structure RepairState (Content : Type) where
  history : PushedHistory (TrackedFiles Content)
  tree : WorkingTree Content
  recorded : List StructuralFixPromotionResult := []
  actions : List NotedAction := []

abbrev RepairProgram (Content Result : Type) := EStateM PyError (RepairState Content) Result

namespace StructuralFixPromotionService

section

def changedPath (rawPath : PyValue) : Option String :=
  let path := String.ofList <|
    (pyStrip rawPath.orEmpty).toList.map fun character =>
      if character = '\\' then '/' else character
  if path = "" ∨ isAbsolute path ∨ ['.', '.', '/'].isPrefixOf path.toList ∨
      ['/', '.', '.', '/'] <:+: '/' :: path.toList then
    none
  else some (pathText path)

/-- `changed_files` of the report of a run. -/
def changedItems (stateRoot : String) (reports : RunReports)
    (runId : String) : Except PyError (List PyValue) := do
  let reportPath := stateRoot ++ "/workspace/runs/" ++ runId ++ "/report.json"
  match ← reports.readReport reportPath with
  | none => return []
  | some payload =>
    let entries ← payload.requireDict
    match entries.get "changed_files" with
    | .list items => return items
    | _ => return []

def stagedPaths (items : List PyValue) : List String :=
  PromotionMixin.sortedTexts (items.filterMap changedPath)

def changedPathsForRun (stateRoot : String) (reports : RunReports)
    (runId : String) : Except PyError (List String) :=
  (changedItems stateRoot reports runId).map stagedPaths

end

section

def afterArrow : List Char → Option (List Char)
  | [] => none
  | ' ' :: '-' :: '>' :: ' ' :: rest => some rest
  | _ :: rest => afterArrow rest

def unquoted (candidate : List Char) : List Char :=
  if candidate.head? = some '"' ∧ candidate.getLast? = some '"' then candidate.tail.dropLast
  else candidate

/-- The path of a line of `git status --porcelain`. -/
def statusPath (line : List Char) : Option String :=
  let candidate := Mermaid.strip (line.drop 3)
  if candidate = [] then none
  else
    let path := unquoted candidate
    match afterArrow path with
    | some renamed => some (String.ofList (Mermaid.strip renamed))
    | none => some (String.ofList path)

def unexpectedPaths (statusOutput : String) (allowed : List String) : List String :=
  ((Mermaid.splitLines statusOutput.toList).filterMap statusPath).filter fun path => path ∉ allowed

def missingEvidence : PyError :=
  .runtimeError <| "Shared-repo promotion needs explicit changed_files evidence before " ++
      "staging."

def unrelatedChanges (unexpected : List String) : PyError :=
  .runtimeError <| "Shared-repo promotion blocked because unrelated local changes are " ++
      "present: " ++
      ", ".intercalate (PromotionMixin.sortedTexts unexpected)

end

variable {Content : Type} (host : StructuralFixHost Content) (tree : WorkingTree Content)

variable (changedPaths : List String)

def assertNoUnrelatedSharedRepoChanges : GitProgram (TrackedFiles Content) Unit := do
  ensure (changedPaths ≠ []) missingEvidence
  takeStep host.toApplyHost .status
  let history ← get
  let unexpected := unexpectedPaths (host.statusOutput history tree) changedPaths
  ensure (unexpected = []) (unrelatedChanges unexpected)

variable (selected : FilePath → Bool)

/-- git adds the file at the path where the path is selected: it is tracked,
or not ignored, and outside git's own directory. -/
def addsFile (index : TrackedFiles Content) (path : FilePath) : Bool :=
  selected path && !decide (InGitDirectory path) && ((index.file path).isSome || !host.ignored path)

/-- The index after `git add -A` of the selected paths. -/
def addSelected (tree : WorkingTree Content)
    (index : TrackedFiles Content) : TrackedFiles Content :=
  index.takeOver (addsFile host selected index) selected tree

/-- `git add -A` of the selected paths. -/
def addPaths (tree : WorkingTree Content) :
    GitProgram (TrackedFiles Content) Unit := do
  takeStep host.toApplyHost .add
  modify fun history => history.stage (addSelected host selected tree history.staged)

def selectedBy (path : FilePath) : Bool :=
  changedPaths.isEmpty || changedPaths.any fun pathspec => host.pathspecMatches pathspec path

def undeterminedFiles : PyError :=
  .runtimeError <| "Unable to determine which repair files to stage in the shared " ++ "repository."

def stageRepairChanges (isolated : Bool) :
    GitProgram (TrackedFiles Content) Unit := do
  ensure (changedPaths ≠ [] ∨ isolated = true) undeterminedFiles
  addPaths host (selectedBy host changedPaths) tree

/-- `git diff --cached --name-only` prints something. -/
def hasStaged [DecidableEq Content] (history : PushedHistory (TrackedFiles Content)) : Bool :=
  match history.graph.treeAt history.head with
  | some files => !(FileListing.differences history.staged files).isEmpty
  | none => false

def missingRepair : PyError := .runtimeError "No repair changes were available to commit."

variable (workspaceMode : String)

/-- `workspace_mode in {"git_worktree", "git_clone"}`. -/
def isIsolated : Bool := workspaceMode = "git_worktree" || workspaceMode = "git_clone"

def guardSharedRepo (changedPaths : List String) : GitProgram (TrackedFiles Content) Unit :=
  if workspaceMode = "shared_repo" then assertNoUnrelatedSharedRepoChanges host tree changedPaths
  else pure ()

/-- `_commit_and_push` up to what it stages. -/
def stageFix (changedPaths : List String) :
    GitProgram (TrackedFiles Content) Unit := do
  guardSharedRepo host tree workspaceMode changedPaths
  stageRepairChanges host tree changedPaths (isIsolated workspaceMode)

variable [DecidableEq Content]

def pushFix : GitProgram (TrackedFiles Content) Nat := do
  raiseIf host.diffFailure
  let history ← get
  ensure (hasStaged history = true) missingRepair
  takeStep host.toApplyHost .commit
  modify PushedHistory.commitStaged
  takeStep host.toApplyHost .revParse
  let commit := (← get).head
  pushHead host.toApplyHost .push "main"
  return commit

def commitAndPush (reports : RunReports) (runId workspaceMode : String)
    (tree : WorkingTree Content) : GitProgram (TrackedFiles Content) Nat := do
  let changedPaths ← valueOf (changedPathsForRun host.stateRoot reports runId)
  stageFix host tree workspaceMode changedPaths
  let commit ← pushFix host
  verifyRemoteCommit host.toApplyHost .listRemote host.listedCommit "main" commit

section

variable (task : Task)

omit [DecidableEq Content] in
def onHistory {Result : Type} (program : GitProgram (TrackedFiles Content) Result) :
    RepairProgram Content Result :=
  fun state =>
    match program state.history with
    | .ok result history => .ok result { state with history }
    | .error error history => .error error { state with history }

omit [DecidableEq Content] in
def onTree {Result : Type} (program : EStateM PyError (WorkingTree Content) Result) :
    RepairProgram Content Result :=
  fun state =>
    match program state.tree with
    | .ok result tree => .ok result { state with tree }
    | .error error tree => .error error { state with tree }

omit [DecidableEq Content] in
/-- `_record`. -/
def recordResult (result : StructuralFixPromotionResult) :
    RepairProgram Content Unit := do
  raiseIf (host.recordFailure result)
  modify fun state => { state with recorded := state.recorded ++ [result] }

omit [DecidableEq Content] in
def recordFailureAction (ci : LocalCiResult) (reason : String) : RepairProgram Content Unit :=
  modify fun state =>
    { state with
      actions := state.actions ++ [{ reason, result := ci.failedStage }] }

def untestedResult (summary : String) (workspaceRoot : Option String) :
    StructuralFixPromotionResult where
  taskId := task.id
  objectiveId := task.objectiveId
  ciPassed := false
  failedStage := "unknown"
  summary
  workspaceRoot

def testedResult (ci : LocalCiResult) (workspaceRoot : String) :
    StructuralFixPromotionResult where
  taskId := task.id
  objectiveId := task.objectiveId
  ciPassed := ci.passed
  failedStage := ci.failedStage
  summary := ci.summary
  commandSummary := ci.commandSummary
  workspaceRoot := some workspaceRoot
  logs := some ci.logs

omit [DecidableEq Content] in
def recordSkipped (reason : String) (result : StructuralFixPromotionResult) :
    RepairProgram Content StructuralFixOutcome := do
  recordResult host result
  return { status := "skipped", reason := some reason, result := some result }

omit [DecidableEq Content] in
def recordPushFailure (ci : LocalCiResult)
    (result : StructuralFixPromotionResult) (error : PyError) :
    RepairProgram Content StructuralFixOutcome := do
  let failed := { result with
    pushStatus := "failed: " ++ error.text
    summary := "Local CI parity passed, but promotion to main failed: " ++ error.text }
  recordFailureAction ci "structural_fix_promotion_failed"
  recordResult host failed
  return {
    status := "blocked"
    reason := some "push_failed"
    result := some failed }

omit [DecidableEq Content] in
def recordCiFailure (ci : LocalCiResult) (result : StructuralFixPromotionResult) :
    RepairProgram Content StructuralFixOutcome := do
  recordFailureAction ci "structural_fix_ci_failed"
  recordResult host result
  return {
    status := "blocked"
    reason := some "ci_failed"
    result := some result }

omit [DecidableEq Content] in
def attempt {Result : Type} (program : RepairProgram Content Result) :
    RepairProgram Content (Except PyError Result) :=
  tryCatch (do return .ok (← program)) fun error => return .error error

omit [DecidableEq Content] in
def recordPushed (ci : LocalCiResult) (result : StructuralFixPromotionResult) (commit : Nat) :
    RepairProgram Content StructuralFixOutcome :=
  let pushed := { result with
    commitSha := some (host.commitSha commit)
    pushStatus := "pushed"
    summary := "Local CI parity passed and the structural fix was pushed to main." }
  tryCatch
    (do
      recordResult host pushed
      return { status := "pushed", reason := none, result := some pushed })
    (recordPushFailure host ci pushed)

def unknownProject : PyError := .runtimeError ("Unknown project for task " ++ task.id)

omit [DecidableEq Content] in
def recordOutcome (ci : LocalCiResult) (result : StructuralFixPromotionResult) :
    Except PyError Nat → RepairProgram Content StructuralFixOutcome
  | .ok commit => recordPushed host ci result commit
  | .error error => recordPushFailure host ci result error

variable (reports : RunReports) (store : Store)

def pushKnownProject (runId workspaceMode : String) (tree : WorkingTree Content) :
    RepairProgram Content Nat := do
  ensure (store.getProject task.projectId ≠ none) (unknownProject task)
  onHistory (commitAndPush host reports runId workspaceMode tree)

def promoteTested (runId workspaceMode : String) (ci : LocalCiResult)
    (result : StructuralFixPromotionResult) :
    RepairProgram Content StructuralFixOutcome := do
  let state ← get
  let outcome ← attempt <| pushKnownProject host task reports store runId workspaceMode state.tree
  recordOutcome host ci result outcome

def promoteWorkspace (runId workspaceMode workspaceRoot : String) :
    RepairProgram Content StructuralFixOutcome := do
  let ci ← onTree (runLocalCi host.ci)
  let result := testedResult task ci workspaceRoot
  if ci.passed then promoteTested host task reports store runId workspaceMode ci result
  else recordCiFailure host ci result

def promoteCompletedStructuralFix (runId : String) : RepairProgram Content StructuralFixOutcome :=
  if task.strategy ≠ "sa_structural_fix" then
    return {
      status := "skipped"
      reason := some "not_structural_fix"
      result := none }
  else
    match PromotionService.workspaceDetailsForRun reports.events runId with
    | none =>
      recordSkipped host "missing_workspace_details" <| untestedResult task
          "Structural fix promotion skipped because workspace details are missing."
          none
    | some details =>
      let workspaceRoot := host.resolvePath (details.getStr "project_root")
      if host.workspaceExists workspaceRoot then
        promoteWorkspace host task reports store runId
          (details.getStr "workspace_mode") workspaceRoot
      else
        recordSkipped host "workspace_missing" <| untestedResult task
            ("Structural fix promotion skipped because the prepared " ++ "workspace is missing.")
            (some workspaceRoot)

end

end StructuralFixPromotionService

end AccruviaHarness
