import AccruviaHarness.Library.Projections
import AccruviaHarness.Promotion.StructuralFix

/-!
# What a structural fix pushes

CI tests the whole working tree, and the commit is made of the paths that are
selected for `git add`, of the index as it was at the others, and of the
commits that the workspace already has.
-/

namespace AccruviaHarness

open Library DirectoryTree RepositoryPromotionService

namespace StructuralFixPromotionService

variable {Content : Type} (host : StructuralFixHost Content) (tree : WorkingTree Content)

/-- The histories after `git add -A`. -/
def stagedHistory (changedPaths : List String) (history : PushedHistory (TrackedFiles Content)) :
    PushedHistory (TrackedFiles Content) :=
  history.stage (addSelected host (selectedBy host changedPaths) tree history.staged)

variable (workspaceMode : String) (changedPaths : List String)

variable (history : PushedHistory (TrackedFiles Content))

def guardObstacles : List (Option PyError) :=
  if workspaceMode = "shared_repo" then
    let unexpected := unexpectedPaths (host.statusOutput history tree) changedPaths
    [if changedPaths ≠ [] then none else some missingEvidence, host.failure .status,
      if unexpected = [] then none else some (unrelatedChanges unexpected)]
  else []

def stageObstacles : List (Option PyError) :=
  guardObstacles host tree workspaceMode changedPaths history ++
    [if changedPaths ≠ [] ∨ isIsolated workspaceMode = true then none
      else some undeterminedFiles,
      host.failure .add]

variable [DecidableEq Content]

def pushFixObstacles (history : PushedHistory (TrackedFiles Content)) : List (Option PyError) :=
  [host.diffFailure,
    if hasStaged history = true then none else some missingRepair,
    host.failure .commit, host.failure .revParse] ++
      pushObstacles host.toApplyHost .push history.commitStaged "main"

/-- What stops `_commit_and_push` before its push has succeeded. -/
def fixObstacles (tree : WorkingTree Content) (workspaceMode : String) (changedPaths : List String)
    (history : PushedHistory (TrackedFiles Content)) :
    List (Option PyError) :=
  stageObstacles host tree workspaceMode changedPaths history ++
    pushFixObstacles host (stagedHistory host tree changedPaths history)

def fixedHistory (tree : WorkingTree Content) (changedPaths : List String)
    (history : PushedHistory (TrackedFiles Content)) :
    PushedHistory (TrackedFiles Content) :=
  (stagedHistory host tree changedPaths history).commitStaged.push "main"

/-- The inputs of a promotion that comes to its push: the tree that CI leaves,
the details of the workspace and the paths of the report. -/
structure ReachesPush (task : Task) (reports : RunReports) (store : Store)
    (runId : String) (before : RepairState Content)
    (tested : WorkingTree Content) (details : PyDict)
    (changedPaths : List String) : Prop where
  strategy : task.strategy = "sa_structural_fix"
  prepared : PromotionService.workspaceDetailsForRun reports.events runId = some details
  present : host.workspaceExists (host.resolvePath (details.getStr "project_root")) = true
  passed : CiPasses host.ci before.tree tested
  project : store.getProject task.projectId ≠ none
  report : changedPathsForRun host.stateRoot reports runId = .ok changedPaths
  clear : firstObstacle (fixObstacles host tested
    (details.getStr "workspace_mode") changedPaths before.history) = none

section

variable {host} {history : PushedHistory (TrackedFiles Content)}
  {tree : WorkingTree Content} {workspaceMode : String}
  {changedPaths : List String}

omit [DecidableEq Content] in
theorem unpushed_stagedHistory : Unpushed history (stagedHistory host tree changedPaths history) :=
  ⟨rfl, fun _ => rfl⟩

omit [DecidableEq Content] in
theorem stopsAt_guard :
    StopsAt (guardSharedRepo host tree workspaceMode changedPaths) history
      (guardObstacles host tree workspaceMode changedPaths history)
      (Unpushed history) () history := by
  unfold guardSharedRepo guardObstacles
  by_cases shared : workspaceMode = "shared_repo"
  · rw [if_pos shared, if_pos shared]
    unfold assertNoUnrelatedSharedRepoChanges
    refine (StopsAt.ensure unpushed_self).bind fun _ => ?_
    refine (stopsAt_takeStep unpushed_self).bind fun _ => ?_
    exact StopsAt.read (StopsAt.ensure unpushed_self)
  · rw [if_neg shared, if_neg shared]
    exact StopsAt.returns rfl

omit [DecidableEq Content] in
theorem stopsAt_stageFix :
    StopsAt (stageFix host tree workspaceMode changedPaths) history
      (stageObstacles host tree workspaceMode changedPaths history)
      (Unpushed history) ()
      (stagedHistory host tree changedPaths history) := by
  have adds : StopsAt (stageRepairChanges host tree changedPaths (isIsolated workspaceMode)) history
      [if changedPaths ≠ [] ∨ isIsolated workspaceMode = true then none
        else some undeterminedFiles,
        host.failure .add]
      (Unpushed history) ()
      (stagedHistory host tree changedPaths history) := by
    unfold stageRepairChanges addPaths
    refine (StopsAt.ensure unpushed_self).bind fun _ => ?_
    refine ((stopsAt_takeStep unpushed_self).bind fun _ =>
      StopsAt.returns ?_).relist (congrArg _ (List.append_nil _))
    rfl
  exact stopsAt_guard.bind fun _ => adds

theorem stopsAt_pushFix :
    StopsAt (pushFix host) history (pushFixObstacles host history)
      (Unpushed history) history.graph.next
      (history.commitStaged.push "main") := by
  unfold pushFix
  refine (StopsAt.raiseIf unpushed_self).bind fun _ => ?_
  refine StopsAt.read ?_
  refine (StopsAt.ensure unpushed_self).bind fun _ => ?_
  refine (stopsAt_takeStep unpushed_self).bind fun _ => ?_
  refine StopsAt.modified ?_
  refine (stopsAt_takeStep unpushed_commitStaged).bind fun _ => ?_
  refine StopsAt.read ?_
  have pushes : StopsAt
      (pushHead host.toApplyHost .push "main" >>= fun _ =>
        pure history.commitStaged.head) history.commitStaged
      (pushObstacles host.toApplyHost .push history.commitStaged "main" ++ [])
      (Unpushed history) history.graph.next
      (history.commitStaged.push "main") :=
    (stopsAt_pushHead unpushed_commitStaged).bind fun _ => StopsAt.returns rfl
  exact pushes.relist (congrArg _ (List.append_nil _))

variable {reports : RunReports} {runId : String}

theorem stateOf_commitAndPush_of_clear
    (report : changedPathsForRun host.stateRoot reports runId = .ok changedPaths)
    (clear : firstObstacle (fixObstacles host tree workspaceMode changedPaths history) = none) :
    stateOf (commitAndPush host reports runId workspaceMode tree history) =
      fixedHistory host tree changedPaths history := by
  unfold fixObstacles at clear
  rw [firstObstacle_append, Option.or_eq_none_iff] at clear
  obtain ⟨stages, pushes⟩ := clear
  unfold commitAndPush
  rw [report]
  have staged := stopsAt_stageFix.passed stages
  have pushed := stopsAt_pushFix.passed pushes
  have verified : StopsAt (verifyRemoteCommit host.toApplyHost .listRemote host.listedCommit
        "main" (stagedHistory host tree changedPaths history).graph.next)
      (fixedHistory host tree changedPaths history) _
      (fun left => left = fixedHistory host tree changedPaths history) _ _ :=
    stopsAt_verifyRemoteCommit rfl
  have run : commitAndPush host reports runId workspaceMode tree history =
      verifyRemoteCommit host.toApplyHost .listRemote host.listedCommit
        "main" (stagedHistory host tree changedPaths history).graph.next
        (fixedHistory host tree changedPaths history) := by
    unfold commitAndPush
    rw [report]
    exact (bind_of_ok staged).trans (bind_of_ok pushed)
  unfold commitAndPush at run
  rw [report] at run
  rw [run]
  cases found : firstObstacle (verifyObstacles host.toApplyHost .listRemote host.listedCommit "main"
    (stagedHistory host tree changedPaths history).graph.next) with
  | none =>
    rw [verified.passed found]
    rfl
  | some error =>
    obtain ⟨_, raised, same⟩ := verified.stopped error found
    rw [raised]
    exact same

theorem unpushed_commitAndPush_of_blocked (blocked : ∀ changedPaths,
      changedPathsForRun host.stateRoot reports runId = .ok changedPaths →
        firstObstacle (fixObstacles host tree workspaceMode changedPaths history) ≠ none) :
    Unpushed history (stateOf (commitAndPush host reports runId workspaceMode tree history)) := by
  unfold commitAndPush
  cases report : changedPathsForRun host.stateRoot reports runId with
  | error _ => exact unpushed_self
  | ok changedPaths =>
    have stops := blocked changedPaths report
    unfold fixObstacles at stops
    rw [firstObstacle_append] at stops
    have start {rest : List String → GitProgram (TrackedFiles Content) Nat} :
        ((valueOf (.ok changedPaths) : GitProgram _ _) >>= rest) history =
          rest changedPaths history := rfl
    rw [start]
    cases stages : firstObstacle (stageObstacles host tree workspaceMode changedPaths history) with
    | some error =>
      obtain ⟨left, raised, unpushed⟩ := stopsAt_stageFix.stopped error stages
      rw [bind_of_error raised]
      exact unpushed
    | none =>
      rw [stages, Option.none_or] at stops
      obtain ⟨error, found⟩ := Option.ne_none_iff_exists'.mp stops
      obtain ⟨_, raised, unpushed⟩ := stopsAt_pushFix.stopped error found
      rw [bind_of_ok (stopsAt_stageFix.passed stages), bind_of_error raised]
      exact unpushed_stagedHistory.trans unpushed

end

section

variable {host} {task : Task} {reports : RunReports} {store : Store}
  {runId : String} {before : RepairState Content}

def workspaceOf (state : RepairState Content) :
    PushedHistory (TrackedFiles Content) × WorkingTree Content :=
  (state.history, state.tree)

omit [DecidableEq Content] in
theorem keeps_recordResult (result : StructuralFixPromotionResult) :
    Keeps workspaceOf (recordResult host result) :=
  (Keeps.step _).bind fun _ => Keeps.changes fun _ => rfl

omit [DecidableEq Content] in
theorem keeps_recordFailureAction (ci : LocalCiResult) (reason : String) :
    Keeps workspaceOf (recordFailureAction ci reason : RepairProgram Content Unit) :=
  Keeps.changes fun _ => rfl

omit [DecidableEq Content] in
theorem keeps_recordPushFailure (ci : LocalCiResult) (result : StructuralFixPromotionResult)
    (error : PyError) :
    Keeps workspaceOf (recordPushFailure host ci result error) :=
  (keeps_recordFailureAction ci _).bind fun _ =>
    (keeps_recordResult _).bind fun _ => Keeps.returns _

omit [DecidableEq Content] in
variable (host) in
theorem keeps_recordCiFailure (ci : LocalCiResult) (result : StructuralFixPromotionResult) :
    Keeps workspaceOf (recordCiFailure host ci result) :=
  (keeps_recordFailureAction ci _).bind fun _ =>
    (keeps_recordResult _).bind fun _ => Keeps.returns _

omit [DecidableEq Content] in
theorem keeps_recordSkipped (reason : String) (result : StructuralFixPromotionResult) :
    Keeps workspaceOf (recordSkipped host reason result) :=
  (keeps_recordResult _).bind fun _ => Keeps.returns _

omit [DecidableEq Content] in
theorem keeps_recordPushed (ci : LocalCiResult) (result : StructuralFixPromotionResult)
    (commit : Nat) : Keeps workspaceOf (recordPushed host ci result commit) :=
  Keeps.caught ((keeps_recordResult _).bind fun _ => Keeps.returns _)
    fun error => keeps_recordPushFailure ci _ error

omit [DecidableEq Content] in
variable (before) in
theorem attempt_eq (program : RepairProgram Content Result) :
    ∃ outcome, attempt program before = .ok outcome (stateOf (program before)) := by
  unfold attempt
  cases ended : program before with
  | ok result after =>
    refine ⟨.ok result, ?_⟩
    have returned : (program >>= fun result => pure (.ok result))
        before = .ok (.ok result : Except PyError Result) after :=
      bind_of_ok ended
    exact caught_of_ok returned
  | error error left =>
    refine ⟨.error error, ?_⟩
    have raised : (program >>= fun result => pure (.ok result))
        before = (.error error left : EStateM.Result _ _ (Except PyError Result)) :=
      bind_of_error ended
    exact caught_of_error raised

omit [DecidableEq Content] in
theorem workspaceOf_onHistory (program : GitProgram (TrackedFiles Content) Result) :
    workspaceOf (stateOf (onHistory program before)) =
      (stateOf (program before.history), before.tree) := by
  unfold onHistory
  cases program before.history <;> rfl

section

variable {Result : Type} {left : WorkingTree Content}
  {program : EStateM PyError (WorkingTree Content) Result}

omit [DecidableEq Content] in
theorem onTree_of_ok {result : Result} (returned : program before.tree = .ok result left) :
    onTree program before = .ok result { before with tree := left } := by
  unfold onTree
  rw [returned]

omit [DecidableEq Content] in
theorem onTree_of_error {error : PyError} (raised : program before.tree = .error error left) :
    onTree program before = .error error { before with tree := left } := by
  unfold onTree
  rw [raised]

end

variable (host task reports store runId before) in
theorem workspaceOf_promoteTested (workspaceMode : String) (ci : LocalCiResult)
    (result : StructuralFixPromotionResult) :
    workspaceOf (stateOf (promoteTested host task reports store runId
        workspaceMode ci result before)) =
      if store.getProject task.projectId ≠ none then
        (stateOf (commitAndPush host reports runId workspaceMode before.tree
          before.history), before.tree)
      else workspaceOf before := by
  have records (outcome : Except PyError Nat) :
      Keeps workspaceOf (recordOutcome host ci result outcome) := by
    cases outcome with
    | ok commit => exact keeps_recordPushed ci result commit
    | error error => exact keeps_recordPushFailure ci result error
  obtain ⟨outcome, attempted⟩ := attempt_eq before
    (pushKnownProject host task reports store runId workspaceMode before.tree)
  have run : promoteTested host task reports store runId workspaceMode ci
      result before = recordOutcome host ci result outcome
        (stateOf (pushKnownProject host task reports store runId workspaceMode
          before.tree before)) := bind_of_ok attempted
  rw [run, records outcome]
  unfold pushKnownProject
  by_cases known : store.getProject task.projectId ≠ none
  · rw [if_pos known, ensure_bind known]
    exact workspaceOf_onHistory _
  · rw [if_neg known, ensure_of_not known]
    rfl

theorem workspaceOf_promote_of_reaches {tested : WorkingTree Content} {details : PyDict}
    {changedPaths : List String}
    (reaches : ReachesPush host task reports store runId before tested details changedPaths) :
    workspaceOf (stateOf (promoteCompletedStructuralFix host task reports store runId before)) =
      (fixedHistory host tested changedPaths before.history, tested) := by
  obtain ⟨_, ran, passed⟩ := runLocalCi_passed_iff.mpr reaches.passed
  unfold promoteCompletedStructuralFix
  rw [if_neg (not_not.mpr reaches.strategy), reaches.prepared]
  dsimp only
  rw [if_pos reaches.present]
  unfold promoteWorkspace
  rw [bind_of_ok (onTree_of_ok ran), if_pos passed,
    workspaceOf_promoteTested, if_pos reaches.project,
    stateOf_commitAndPush_of_clear reaches.report reaches.clear]

variable (host task reports store runId before) in
theorem unpushed_promote_of_not_reaches (blocked : ∀ tested details changedPaths,
      ¬ ReachesPush host task reports store runId before tested details changedPaths) :
    Unpushed before.history (stateOf (promoteCompletedStructuralFix host task
      reports store runId before)).history := by
  have kept {after : RepairState Content} (same : workspaceOf after = workspaceOf before) :
      Unpushed before.history after.history := by
    have history : after.history = before.history := congrArg Prod.fst same
    rw [history]
    exact unpushed_self
  unfold promoteCompletedStructuralFix
  by_cases strategy : task.strategy = "sa_structural_fix"
  · rw [if_neg (not_not.mpr strategy)]
    cases prepared : PromotionService.workspaceDetailsForRun reports.events runId with
    | none => exact kept (keeps_recordSkipped _ _ before)
    | some details =>
      dsimp only
      by_cases present : host.workspaceExists
        (host.resolvePath (details.getStr "project_root")) = true
      · rw [if_pos present]
        unfold promoteWorkspace
        cases ran : runLocalCi host.ci before.tree with
        | error _ _ =>
          rw [bind_of_error (onTree_of_error ran)]
          exact unpushed_self
        | ok ci tested =>
          rw [bind_of_ok (onTree_of_ok ran)]
          by_cases passed : ci.passed = true
          · rw [if_pos passed]
            have workspace := workspaceOf_promoteTested host task
              reports store runId { before with tree := tested }
              (details.getStr "workspace_mode") ci
              (testedResult task ci (host.resolvePath (details.getStr "project_root")))
            have history := congrArg Prod.fst workspace
            show Unpushed before.history (workspaceOf _).1
            rw [history]
            split
            next known =>
              apply unpushed_commitAndPush_of_blocked
              intro changedPaths report clear
              exact blocked tested details changedPaths ⟨strategy, prepared, present,
                  runLocalCi_passed_iff.mp ⟨ci, ran, passed⟩, known,
                  report, clear⟩
            · exact unpushed_self
          · rw [if_neg passed]
            have recorded := keeps_recordCiFailure host ci (testedResult task ci
                (host.resolvePath (details.getStr "project_root")))
              { before with tree := tested }
            have history := congrArg Prod.fst recorded
            show Unpushed before.history (workspaceOf _).1
            rw [history]
            exact unpushed_self
      · rw [if_neg present]
        exact kept (keeps_recordSkipped _ _ before)
  · rw [if_pos strategy]
    exact unpushed_self

end

end StructuralFixPromotionService

end AccruviaHarness
