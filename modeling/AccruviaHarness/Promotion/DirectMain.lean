import AccruviaHarness.Promotion.ApplyObstacles
import AccruviaHarness.Promotion.PromotedContent

/-!
# Taking a promotion back

A promotion in the direct mode pushes to the base branch and checks the result
there.
-/

namespace AccruviaHarness

open Library DirectoryTree RepositoryPromotionService

/-- What `apply_objective` is given besides the histories. -/
structure ObjectiveHost (Content : Type) extends ApplyHost where
  /-- `Path.resolve`. -/
  resolvePath : String → String
  workingTree : String → WorkingTree Content
  gitFile : Content
  ignored : FilePath → Bool
  branchToken : String
  /-- The refs of a repository, after the fetch. -/
  refOf : String → String → Option Nat
  /-- The tree of a commit that has the files. -/
  checkoutOf : CommitFiles Content → Option (CommitTree Content)
  checkoutFiles : ∀ files tree, checkoutOf files = some tree →
    tree.files = files

namespace PushedHistory

variable {Tree : Type}

def worktreeAt (history : PushedHistory Tree) (commit : Nat)
    (known : commit < history.graph.next) (staged : Tree) :
    PushedHistory Tree :=
  { history with
    head := commit, mergeHeads := [], staged, headKnown := known, mergeKnown := nofun }

end PushedHistory

namespace DirectMain

section

variable {Content : Type} (host : ObjectiveHost Content)

/-- The commit that `_refresh_base_ref` finds, with its files. -/
def worktreeBase (history : PushedHistory (CommitFiles Content))
    (sourceRepoRoot baseBranch : String) :
    Option (PushedHistory (CommitFiles Content) × CommitTree Content) := do
  let commit ← (host.refOf sourceRepoRoot ("origin/" ++ baseBranch)).or
    (host.refOf sourceRepoRoot baseBranch)
  let files ← history.graph.treeAt commit
  let base ← host.checkoutOf files
  if known : commit < history.graph.next then return (history.worktreeAt commit known files, base)
  else none

variable [DecidableEq Content]

/-- The worktree after `_sync_objective_paths`. -/
def syncWorktree (source : WorkingTree Content) (base : CommitTree Content)
    (cleanedPaths : List String) : Except PyError (WorkingTree Content) := do
  let worktree ← syncObjectivePaths source (base.checkout host.gitFile) cleanedPaths
  -- git does not work in a worktree with another `.git`.
  if fileAt [".git"] worktree = some host.gitFile then .ok worktree
  else .error (.calledProcessError "git worktree remove")

def computed {Tree Result : Type} :
    Except PyError Result → GitProgram Tree Result
  | .ok result => pure result
  | .error error => throw error

def missingObjectiveChanges : PyError :=
  .runtimeError "Objective promotion found no staged changes after syncing objective files"

/-- The end of `apply_objective`, from its commit on. -/
def commitAndPublish {Tree : Type} (host : ApplyHost) (project : Project)
    (branchName : String) : GitProgram Tree AppliedWorkspace := do
  let commit ← commitStaged host
  publish host project branchName branchName none commit

variable (project : Project)

/-- The body of `apply_objective` between the making of the worktree and its
removal. -/
def promoteWorktree (branchName : String) (source : WorkingTree Content) (base : CommitTree Content)
    (cleanedPaths : List String) :
    GitProgram (CommitFiles Content) AppliedWorkspace := do
  let worktree ← computed (syncWorktree host source base cleanedPaths)
  takeStep host.toApplyHost .status
  let files := stagedFiles host.ignored base worktree
  ensure (hasChanges base worktree files = true) missingObjectiveChanges
  modify fun history => { history with staged := files }
  commitAndPublish host.toApplyHost project branchName

def missingObjectivePaths : PyError :=
  .runtimeError "Objective promotion requires at least one tracked objective file path"

def applyObjective (objectiveId sourceRepoRoot
    sourceWorkingRoot : String) (objectivePaths : List String) :
    GitProgram (CommitFiles Content) AppliedWorkspace := do
  let cleanedPaths := normalizeObjectivePaths objectivePaths
  ensure (cleanedPaths ≠ []) missingObjectivePaths
  takeStep host.toApplyHost .makeStagingRoot
  let source := host.workingTree (host.resolvePath sourceWorkingRoot)
  let branchName := "objective-" ++ idSuffix objectiveId ++ "-" ++ host.branchToken
  match worktreeBase host (← get) (host.resolvePath sourceRepoRoot)
    project.baseBranch with
  | none => throw (.calledProcessError "git worktree add")
  | some (worktree, base) =>
    takeStep host.toApplyHost .addWorktree
    set worktree
    withCleanup (promoteWorktree host project branchName source base cleanedPaths)
      (takeStep host.toApplyHost .removeWorktree)

def stagedWorktree (source : WorkingTree Content) (base : CommitTree Content)
    (cleanedPaths : List String)
    (worktree : PushedHistory (CommitFiles Content)) :
    Option (PushedHistory (CommitFiles Content)) :=
  match syncWorktree host source base cleanedPaths with
  | .error _ => none
  | .ok synced =>
    let files := stagedFiles host.ignored base synced
    if host.failure .status = none ∧ hasChanges base synced files = true then
      some { worktree with staged := files }
    else none

/-- The worktree as `apply_objective` commits it, unless something stops it
before. -/
def preparedWorktree (sourceRepoRoot
    sourceWorkingRoot : String) (objectivePaths : List String)
    (history : PushedHistory (CommitFiles Content)) :
    Option (PushedHistory (CommitFiles Content)) :=
  if normalizeObjectivePaths objectivePaths = [] ∨ host.failure .makeStagingRoot ≠ none then none
  else
    match worktreeBase host history (host.resolvePath sourceRepoRoot)
      project.baseBranch with
    | none => none
    | some (worktree, base) =>
      if host.failure .addWorktree ≠ none then none
      else
        stagedWorktree host (host.workingTree (host.resolvePath sourceWorkingRoot)) base
          (normalizeObjectivePaths objectivePaths) worktree

end

section

variable {Tree Result : Type}

def Restores (baseBranch : String) (history : PushedHistory Tree)
    (run : EStateM.Result PyError (PushedHistory Tree) Result) : Prop :=
  ∀ error left, run = .error error left → left.pushes ≠ history.pushes →
    left.remoteTree baseBranch = history.remoteTree baseBranch

structure KeepsTree (host : ApplyHost) (baseBranch : String)
    (history : PushedHistory Tree) : Prop where
  undone : RollsBack host history →
    history.graph.treeAt history.head = history.remoteTree baseBranch
  landed : ¬ RollsBack host history → some history.staged = history.remoteTree baseBranch

variable {host : ApplyHost} {baseBranch : String}
  {history left : PushedHistory Tree}
  {run : EStateM.Result PyError (PushedHistory Tree) Result}

theorem keepsTree_iff_of_landed (landed : Landed host baseBranch history left) :
    left.remoteTree baseBranch = history.remoteTree baseBranch ↔
      KeepsTree host baseBranch history := by
  by_cases rolls : RollsBack host history
  · rw [landed.undone rolls]
    exact ⟨fun same => ⟨fun _ => same, absurd rolls⟩, fun keeps => keeps.undone rolls⟩
  · rw [landed.landed rolls]
    exact ⟨fun same => ⟨(absurd · rolls), fun _ => same⟩, fun keeps => keeps.landed rolls⟩

theorem pushes_ne_of_landed (landed : Landed host baseBranch history left) :
    left.pushes ≠ history.pushes := by
  intro same
  have longer := landed.changes.pushed.length_le
  rw [same, List.length_append, List.length_singleton] at longer
  omega

theorem restores_congr {middle : PushedHistory Tree} (unpushed : Unpushed history middle) :
    Restores baseBranch history run ↔ Restores baseBranch middle run := by
  unfold Restores
  rw [unpushed.pushes, unpushed.remoteTree baseBranch]

theorem restores_of_unpushed {error : PyError} (unpushed : Unpushed history left) :
    Restores baseBranch history (.error error left : EStateM.Result _ _ Result) := by
  rintro _ _ ⟨⟩ pushed
  exact absurd unpushed.pushes pushed

theorem restores_iff_of_landed
    {Fails : Prop} (fails : (∃ error left, run = .error error left) ↔ Fails)
    (landed : ∀ error left, run = .error error left → Landed host baseBranch history left) :
    Restores baseBranch history run ↔ (Fails → KeepsTree host baseBranch history) := by
  rw [← fails]
  constructor
  · rintro restores ⟨error, left, ended⟩
    have here := landed error left ended
    exact (keepsTree_iff_of_landed here).mp (restores error left ended (pushes_ne_of_landed here))
  · intro keeps error left ended _
    exact (keepsTree_iff_of_landed (landed error left ended)).mpr (keeps ⟨error, left, ended⟩)

end

section

variable {Tree : Type} {host : ApplyHost} {project : Project}
  {targetBranch : Option String} {openReview : Option Bool}
  {history : PushedHistory Tree}

theorem apply_restores_iff (direct : project.promotionMode = .directMain) :
    Restores project.baseBranch history (apply host project targetBranch openReview history) ↔
      (firstObstacle (obstaclesToPush host project targetBranch history) = none →
        firstObstacle (directMainObstacles host project.baseBranch history) ≠ none →
        KeepsTree host project.baseBranch history) := by
  cases found : firstObstacle (obstaclesToPush host project targetBranch history) with
  | some _ =>
    obtain ⟨left, stopped, unpushed⟩ := apply_of_unpushed found
    rw [stopped]
    exact iff_of_true (restores_of_unpushed unpushed) nofun
  | none =>
    obtain ⟨_, described⟩ := stopsAt_apply found
    have after : obstaclesAfterPush host project openReview history =
        directMainObstacles host project.baseBranch history := if_pos direct
    rw [after] at described
    rw [restores_iff_of_landed described.fails_iff fun error left failed =>
      (described.stays_of_error failed).2.landed direct]
    exact ⟨fun keeps _ => keeps, fun keeps => keeps rfl⟩

end

section

variable {Content : Type} [DecidableEq Content]
  {host : ObjectiveHost Content} {project : Project}
  {objectiveId sourceRepoRoot sourceWorkingRoot : String}
  {objectivePaths : List String}
  {history prepared : PushedHistory (CommitFiles Content)}

variable {worktree : PushedHistory (CommitFiles Content)}
  {base : CommitTree Content} {branchName : String}

omit [DecidableEq Content] in
theorem unpushed_of_worktreeBase {baseBranch : String}
    (found : worktreeBase host history sourceRepoRoot baseBranch =
      some (worktree, base)) : Unpushed history worktree := by
  unfold worktreeBase at found
  simp only [Option.bind_eq_bind, Option.bind_eq_some_iff] at found
  obtain ⟨_, _, _, _, _, _, found⟩ := found
  split at found
  · cases found
    exact ⟨rfl, fun _ => rfl⟩
  · cases found

variable {source : WorkingTree Content} {cleanedPaths : List String}
  {Tree : Type}

theorem promoteWorktree_of_unstaged
    (unstaged : stagedWorktree host source base cleanedPaths worktree = none) :
    ∃ error, promoteWorktree host project branchName source base cleanedPaths
      worktree = .error error worktree := by
  unfold stagedWorktree at unstaged
  unfold promoteWorktree
  cases synced : syncWorktree host source base cleanedPaths with
  | error error => exact ⟨error, rfl⟩
  | ok tree =>
    rw [synced] at unstaged
    dsimp only at unstaged
    cases status : host.failure .status with
    | some error =>
      rw [takeStep_of_fails status]
      exact ⟨error, rfl⟩
    | none =>
      have unchanged : ¬ hasChanges base tree (stagedFiles host.ignored base tree) = true := by
        intro changed
        rw [if_pos ⟨status, changed⟩] at unstaged
        cases unstaged
      rw [takeStep_of_passes status]
      simp only [computed, pure_bind, ensure_of_not unchanged]
      exact ⟨_, rfl⟩

theorem promoteWorktree_of_staged
    (staged : stagedWorktree host source base cleanedPaths worktree = some prepared) :
    Unpushed worktree prepared ∧ promoteWorktree host project branchName source base cleanedPaths
          worktree =
        commitAndPublish host.toApplyHost project branchName prepared := by
  unfold stagedWorktree at staged
  unfold promoteWorktree
  cases synced : syncWorktree host source base cleanedPaths with
  | error _ =>
    rw [synced] at staged
    cases staged
  | ok _ =>
    rw [synced] at staged
    dsimp only at staged
    split at staged
    next passes =>
      cases staged
      rw [takeStep_of_passes passes.1]
      simp only [computed, pure_bind, ensure_of passes.2]
      exact ⟨⟨rfl, fun _ => rfl⟩, rfl⟩
    · cases staged

theorem applyObjective_cases (host : ObjectiveHost Content) (project : Project)
    (objectiveId sourceRepoRoot sourceWorkingRoot : String)
    (objectivePaths : List String)
    (history : PushedHistory (CommitFiles Content)) :
    (preparedWorktree host project sourceRepoRoot sourceWorkingRoot objectivePaths history = none ∧
      ∃ error left, applyObjective host project objectiveId sourceRepoRoot
          sourceWorkingRoot objectivePaths history = .error error left ∧
        Unpushed history left) ∨
      ∃ prepared branchName, preparedWorktree host project sourceRepoRoot
          sourceWorkingRoot objectivePaths history = some prepared ∧
        Unpushed history prepared ∧
        applyObjective host project objectiveId sourceRepoRoot
            sourceWorkingRoot objectivePaths history =
          withCleanup (commitAndPublish host.toApplyHost project branchName)
            (takeStep host.toApplyHost .removeWorktree) prepared := by
  unfold applyObjective preparedWorktree
  by_cases empty : normalizeObjectivePaths objectivePaths = []
  · left
    rw [if_pos (.inl empty), ensure_of_not (not_not.mpr empty)]
    exact ⟨rfl, _, _, rfl, unpushed_self⟩
  rw [ensure_of empty, pure_bind]
  cases root : host.failure .makeStagingRoot with
  | some error =>
    left
    rw [if_pos (.inr nofun), takeStep_of_fails root]
    exact ⟨rfl, error, _, rfl, unpushed_self⟩
  | none =>
    rw [if_neg (by simp [empty]), takeStep_of_passes root, pure_bind]
    have read {rest : PushedHistory (CommitFiles Content) →
        GitProgram (CommitFiles Content) AppliedWorkspace} :
        (get >>= rest) history = rest history history := rfl
    rw [read]
    cases found : worktreeBase host history
      (host.resolvePath sourceRepoRoot) project.baseBranch with
    | none =>
      left
      exact ⟨rfl, _, _, rfl, unpushed_self⟩
    | some based =>
      obtain ⟨worktree, base⟩ := based
      have based := unpushed_of_worktreeBase found
      dsimp only
      cases added : host.failure .addWorktree with
      | some error =>
        left
        rw [if_pos nofun, takeStep_of_fails added]
        exact ⟨rfl, error, _, rfl, unpushed_self⟩
      | none =>
        rw [if_neg (by simp), takeStep_of_passes added, pure_bind]
        have stored {rest : PUnit → GitProgram (CommitFiles Content) AppliedWorkspace} :
            (set worktree >>= rest) history = rest ⟨⟩ worktree := rfl
        rw [stored]
        cases staged : stagedWorktree host
          (host.workingTree (host.resolvePath sourceWorkingRoot)) base
          (normalizeObjectivePaths objectivePaths) worktree with
        | none =>
          left
          obtain ⟨_, failed⟩ := promoteWorktree_of_unstaged staged
          obtain ⟨later, ended⟩ := withCleanup_of_error failed (runsOnOwn_takeStep .removeWorktree)
          exact ⟨rfl, later, worktree, ended, based⟩
        | some prepared =>
          right
          obtain ⟨unpushed, same⟩ := promoteWorktree_of_staged staged
          exact ⟨prepared, _, rfl, based.trans unpushed, withCleanup_congr same⟩

/-- What stops `apply_objective` between the staging and its push. -/
def obstaclesOfObjective {Tree : Type} (host : ApplyHost) (project : Project)
    (branchName : String) (prepared : PushedHistory Tree) :
    List (Option PyError) :=
  commitObstacles host ++ pushObstacles host .push prepared.commitStaged
      (publishedBranch project branchName)

theorem commitAndPublish_of_unpushed {host : ApplyHost} {prepared : PushedHistory Tree}
    {error : PyError}
    (found : firstObstacle (obstaclesOfObjective host project branchName prepared) = some error) :
    ∃ left, commitAndPublish host project branchName prepared =
      .error error left ∧ Unpushed prepared left := by
  unfold obstaclesOfObjective at found
  rw [firstObstacle_append] at found
  unfold commitAndPublish
  cases here : firstObstacle (commitObstacles host) with
  | some _ =>
    rw [here] at found
    cases found
    exact stopsAt_commitStaged.stopped_bind here
  | none =>
    rw [here] at found
    rw [stopsAt_commitStaged.passed_bind here]
    exact publish_of_refused found

theorem stopsAt_commitAndPublish {host : ApplyHost} {prepared : PushedHistory Tree}
    (clear : firstObstacle (obstaclesOfObjective host project branchName prepared) = none) :
    ∃ result, StopsAt (commitAndPublish host project branchName) prepared
      (obstaclesAfterPush host project none prepared)
      (Published host project branchName prepared) result
      (prepared.commitStaged.push (publishedBranch project branchName)) := by
  unfold obstaclesOfObjective at clear
  rw [firstObstacle_append, Option.or_eq_none_iff] at clear
  obtain ⟨result, described⟩ := stopsAt_publish clear.2
  refine ⟨result, described.congr ?_⟩
  unfold commitAndPublish
  exact stopsAt_commitStaged.passed_bind clear.1

theorem applyObjective_restores_iff (direct : project.promotionMode = .directMain) :
    Restores project.baseBranch history (applyObjective host project objectiveId sourceRepoRoot
          sourceWorkingRoot objectivePaths history) ↔
      ∀ prepared, preparedWorktree host project sourceRepoRoot
          sourceWorkingRoot objectivePaths history = some prepared →
        firstObstacle (obstaclesOfObjective host.toApplyHost project
          project.baseBranch prepared) = none →
        firstObstacle (host.failure .removeWorktree ::
          directMainObstacles host.toApplyHost project.baseBranch prepared) ≠
          none →
        KeepsTree host.toApplyHost project.baseBranch prepared := by
  rcases applyObjective_cases host project objectiveId sourceRepoRoot
    sourceWorkingRoot objectivePaths history with
    ⟨unprepared, error, left, failed, unpushed⟩ | ⟨prepared, branchName, found, unpushed, ended⟩
  · rw [failed]
    refine iff_of_true (restores_of_unpushed unpushed) ?_
    intro prepared found
    rw [unprepared] at found
    cases found
  · have target : obstaclesOfObjective host.toApplyHost project branchName
        prepared = obstaclesOfObjective host.toApplyHost project project.baseBranch prepared := by
      unfold obstaclesOfObjective publishedBranch
      rw [if_pos direct, if_pos direct]
    have only : (∀ other, preparedWorktree host project sourceRepoRoot
        sourceWorkingRoot objectivePaths history = some other →
          firstObstacle (obstaclesOfObjective host.toApplyHost project
            project.baseBranch other) = none →
          firstObstacle (host.failure .removeWorktree ::
            directMainObstacles host.toApplyHost project.baseBranch other) ≠
            none →
          KeepsTree host.toApplyHost project.baseBranch other) ↔
        (firstObstacle (obstaclesOfObjective host.toApplyHost project branchName prepared) = none →
          firstObstacle (host.failure .removeWorktree ::
            directMainObstacles host.toApplyHost project.baseBranch prepared) ≠ none →
          KeepsTree host.toApplyHost project.baseBranch prepared) := by
      rw [found, target]
      exact ⟨fun all => all prepared rfl, fun here other same => by
        cases same
        exact here⟩
    rw [ended, only, restores_congr unpushed]
    cases stopped : firstObstacle (obstaclesOfObjective host.toApplyHost
      project branchName prepared) with
    | some _ =>
      obtain ⟨left, failed, still⟩ := commitAndPublish_of_unpushed stopped
      obtain ⟨_, failed⟩ := withCleanup_of_error failed (runsOnOwn_takeStep .removeWorktree)
      rw [failed]
      exact iff_of_true (restores_of_unpushed still) nofun
    | none =>
      obtain ⟨_, described⟩ := stopsAt_commitAndPublish stopped
      have after : obstaclesAfterPush host.toApplyHost project none
          prepared = directMainObstacles host.toApplyHost
            project.baseBranch prepared := if_pos direct
      have here : publishedBranch project branchName =
          project.baseBranch := if_pos direct
      rw [after, here] at described
      have landed := described.weaken fun left published => published.landed direct
      have removal : RunsOnOwn (takeStep host.toApplyHost .removeWorktree :
          GitProgram (CommitFiles Content) Unit) _ :=
        runsOnOwn_takeStep .removeWorktree
      have cleaned := landed.withCleanup landed_of_passed removal
      rw [restores_iff_of_landed cleaned.fails_iff fun error left failed =>
        (cleaned.stays_of_error failed).2]
      exact ⟨fun keeps _ => keeps, fun keeps => keeps rfl⟩

end

/-- A failing promotion in the direct mode leaves the base branch's tree as it
was exactly when it has not pushed, or has rolled back onto the tree of the
base branch, or has pushed the very tree that the base branch had. -/
theorem directMain_restores_iff {Tree Content : Type} [DecidableEq Content] (project : Project)
    (host : ApplyHost) (targetBranch : Option String)
    (openReview : Option Bool) (history : PushedHistory Tree)
    (objectiveHost : ObjectiveHost Content)
    (objectiveId sourceRepoRoot sourceWorkingRoot : String)
    (objectivePaths : List String)
    (objectiveHistory : PushedHistory (CommitFiles Content)) :
    (project.promotionMode = .directMain → Restores project.baseBranch history
            (apply host project targetBranch openReview history) ∧
          Restores project.baseBranch objectiveHistory
            (applyObjective objectiveHost project objectiveId sourceRepoRoot
              sourceWorkingRoot objectivePaths objectiveHistory)) ↔
      (project.promotionMode = .directMain →
        (firstObstacle (obstaclesToPush host project targetBranch history) = none →
          firstObstacle (directMainObstacles host project.baseBranch history) ≠ none →
          KeepsTree host project.baseBranch history) ∧
        ∀ prepared, preparedWorktree objectiveHost project sourceRepoRoot
            sourceWorkingRoot objectivePaths objectiveHistory = some prepared →
          firstObstacle (obstaclesOfObjective objectiveHost.toApplyHost
            project project.baseBranch prepared) = none →
          firstObstacle (objectiveHost.failure .removeWorktree ::
            directMainObstacles objectiveHost.toApplyHost project.baseBranch prepared) ≠ none →
          KeepsTree objectiveHost.toApplyHost project.baseBranch prepared) :=
  forall_congr' fun direct =>
    and_congr (apply_restores_iff direct) (applyObjective_restores_iff direct)

section

def aheadHistory : PushedHistory String where
  graph :=
    { commits := [⟨[], "base"⟩, ⟨[0], "earlier commit"⟩]
      parentsEarlier := by
        intro id commit found
        have bound := (List.getElem?_eq_some_iff.mp found).1
        match id with
        | 0 | 1 =>
          cases found
          decide }
  remote := fun branch => if branch = "main" then some 0 else none
  head := 1
  mergeHeads := []
  staged := "changes"
  pushes := []
  remoteKnown := by
    intro branch commit found
    split at found
    · cases found
      decide
    · cases found
  headKnown := by decide
  mergeKnown := nofun

def hostFailingAt (step : ApplyStep) (error : PyError) : ApplyHost where
  failure := fun other => if other = step then some error else none
  branchName := "harness-task-run"
  hasChanges := true
  listedCommit := some 2
  listedRollback := some 3
  reviewUrl := none
  commitSha := toString

def leftAfter (run : EStateM.Result PyError (PushedHistory String)
    AppliedWorkspace) : Option (Nat × Option String) :=
  match run with
  | .ok _ _ => none
  | .error _ left => some (left.pushes.length, left.remoteTree "main")

theorem not_restores_of_leftAfter
    {run : EStateM.Result PyError (PushedHistory String) AppliedWorkspace}
    {pushes : Nat} {tree : Option String}
    (ended : leftAfter run = some (pushes + 1, tree))
    (other : tree ≠ some "base") : ¬ Restores "main" aheadHistory run := by
  intro restores
  cases run with
  | ok _ _ => cases ended
  | error error left =>
    obtain ⟨pushed, found⟩ := Prod.mk.inj (Option.some.inj ended)
    have kept := restores error left rfl <| by
      intro none
      rw [none] at pushed
      cases pushed
    exact other (found.symm.trans kept)

/-- The rollback of two commits takes one back, and a push that cannot be
verified is not taken back. -/
theorem two_commits_not_restored :
    ¬ Restores "main" aheadHistory
        (apply (hostFailingAt .postPushChecks (.runtimeError "make test-fast"))
          { id := "p", promotionMode := .directMain } none none
          aheadHistory) ∧
      ¬ Restores "main" aheadHistory (apply (hostFailingAt .listRemote
            (.calledProcessError "git ls-remote"))
          { id := "p", promotionMode := .directMain } none none
          aheadHistory) := by
  constructor
  · have ended : leftAfter (apply (hostFailingAt .postPushChecks (.runtimeError "make test-fast"))
          { id := "p", promotionMode := .directMain } none none
          aheadHistory) = some (1 + 1, some "earlier commit") := by
      decide +kernel
    exact not_restores_of_leftAfter ended (by decide)
  · have ended : leftAfter (apply (hostFailingAt .listRemote (.calledProcessError "git ls-remote"))
          { id := "p", promotionMode := .directMain } none none
          aheadHistory) = some (0 + 1, some "changes") := by
      decide +kernel
    exact not_restores_of_leftAfter ended (by decide)

end

end DirectMain

end AccruviaHarness
