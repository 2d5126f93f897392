import AccruviaHarness.Promotion.ObjectivePromotion

/-!
# What a promoted commit holds

A promotion is to land the workspaces of the candidate tasks' latest completed
runs.
-/

namespace AccruviaHarness

open Library DirectoryTree

namespace PromotedContent

open PromotionMixin RepositoryPromotionService

/-- The path that an item of `changed_files` names, as git prints it. -/
def namedPath (rawPath : PyValue) : Option FilePath :=
  let parts := pathParts rawPath.orEmpty
  if isAbsolute rawPath.orEmpty ∨ ".." ∈ parts ∨ parts = [] then none
  else some parts

def names (path : FilePath) (rawPath : PyValue) : Bool :=
  match namedPath rawPath with
  | some named => named.isPrefixOf path
  | none => false

section

variable {Content : Type} (host : PromotionHost Content)
  (reports : RunReports) (store : Store)

structure PromotionInputs (objectiveId : String) where
  objective : Objective
  project : Project
  root : String
  base : CommitTree Content
  found : store.getObjective objectiveId = some objective
  projectFound : store.getProject objective.projectId = some project
  rootFound : objectiveSourceRepoRoot reports store
    (HarnessUIDataService.linkedTasks store objective) = some root
  baseFound : host.commitOf (host.resolvePath (host.resolvePath root))
    (refreshBaseRef host (host.resolvePath (host.resolvePath root)) project.baseBranch) = some base

/-- `changed_files` of a run, none where the report cannot be read. -/
def reportedItems (runId : String) : List PyValue :=
  match changedFiles reports store runId with
  | .ok items => items
  | .error _ => []

variable {host reports store} {objectiveId : String}

namespace PromotionInputs

variable (inputs : PromotionInputs host reports store objectiveId)

def candidateTasks : List Task :=
  completedUnappliedTasks store (HarnessUIDataService.linkedTasks store inputs.objective)

def source : WorkingTree Content :=
  host.workingTree (host.resolvePath (host.resolvePath inputs.root))

variable (path : FilePath)

def latestRunOf : Option Run :=
  (inputs.candidateTasks.filterMap
    (latestCompletedRun store)).reverse.find? fun run =>
      (reportedItems reports store run.id).any (names path)

variable (workspaces : String → WorkingTree Content)

/-- What the commit is to hold: the file of the latest run's workspace, and
the file of the base where no such run reports a change. -/
def wantedFile (path : FilePath) : Option Content :=
  match inputs.latestRunOf path with
  | some run => fileAt path (workspaces run.id)
  | none => inputs.base.files path

def ReportedByAnyRun : Prop :=
  ∃ task ∈ inputs.candidateTasks, ∃ run ∈ store.listRuns task.id,
    ∃ rawPath ∈ reportedItems reports store run.id, CoversPath path rawPath

def stagedSource : Option Content :=
  stageable host.ignored inputs.base path (fileAt path inputs.source)

def LandsWorkspaces (files : CommitFiles Content) : Prop :=
  ∀ path, files path = inputs.wantedFile workspaces path

structure CheckoutAgrees (workspaces : String → WorkingTree Content) :
    Prop where
  /-- The checkout has the latest run's file of every applied path. -/
  changed : ∀ path run, inputs.latestRunOf path = some run → inputs.ReportedByAnyRun path →
      inputs.stagedSource path = fileAt path (workspaces run.id)
  /-- Where the cleaning of the paths drops a reported path, the base has the
  latest run's file. -/
  dropped : ∀ path run, inputs.latestRunOf path = some run → ¬ inputs.ReportedByAnyRun path →
      inputs.base.files path = fileAt path (workspaces run.id)
  /-- The checkout has the base's file of the paths that only other runs
  report. -/
  superseded : ∀ path, inputs.latestRunOf path = none → inputs.ReportedByAnyRun path →
      inputs.stagedSource path = inputs.base.files path

end PromotionInputs

theorem exists_item_iff {runId : String} {wanted : PyValue → Prop} :
    (∃ items, changedFiles reports store runId = .ok items ∧ ∃ rawPath ∈ items, wanted rawPath) ↔
      ∃ rawPath ∈ reportedItems reports store runId, wanted rawPath := by
  unfold reportedItems
  cases changedFiles reports store runId with
  | error _ => simp
  | ok _ => simp

theorem PromotionInputs.eq (first second : PromotionInputs host reports store objectiveId) :
    first = second := by
  obtain ⟨_, _, _, _, found, projectFound, rootFound, baseFound⟩ := first
  obtain ⟨objective', project', root', base', found', projectFound',
    rootFound', baseFound'⟩ := second
  obtain rfl := Option.some.inj (found.symm.trans found')
  obtain rfl := Option.some.inj (projectFound.symm.trans projectFound')
  obtain rfl := Option.some.inj (rootFound.symm.trans rootFound')
  obtain rfl := Option.some.inj (baseFound.symm.trans baseFound')
  rfl

variable {project : Project} {branchName : String}
  {applied : PromotionApplyResult Content}

theorem files_of_pushObjective {files : CommitFiles Content}
    (pushed : pushObjective host project branchName files = .ok applied) :
    applied.files = files := by
  unfold pushObjective at pushed
  obtain ⟨_, _, pushed⟩ := exists_of_bind_ok pushed
  obtain ⟨_, _, pushed⟩ := exists_of_bind_ok pushed
  split at pushed
  · obtain ⟨_, _, pushed⟩ := exists_of_bind_ok pushed
    split at pushed
    · obtain ⟨_, _, pushed⟩ := exists_of_bind_ok pushed
      cases pushed
    · cases pushed
      rfl
  · dsimp only at pushed
    split at pushed
    · obtain ⟨_, _, pushed⟩ := exists_of_bind_ok pushed
      cases pushed
      rfl
    · cases pushed
      rfl

variable [DecidableEq Content]

variable {base : CommitTree Content} {cleanedPaths : List String}
  {promoted : Promoted Content}

theorem promoteWorktree_eq_ok {source : WorkingTree Content}
    (promoted : promoteWorktree host project branchName source base
      cleanedPaths = .ok applied) :
    ∃ worktree, syncObjectivePaths source (base.checkout host.gitFile) cleanedPaths = .ok worktree ∧
        applied.files = stagedFiles host.ignored base worktree ∧ applied.files ≠ base.files := by
  unfold promoteWorktree at promoted
  obtain ⟨worktree, synced, promoted⟩ := exists_of_bind_ok promoted
  dsimp only at promoted
  split at promoted
  · cases promoted
  · split at promoted
    · cases promoted
    next changed =>
      obtain ⟨_, _, pushed⟩ := exists_of_bind_ok promoted
      have files := files_of_pushObjective pushed
      refine ⟨worktree, synced, files, ?_⟩
      rw [files]
      exact (hasChanges_iff host.ignored base worktree).mp (not_not.mp changed)

theorem files_of_promoteWorktree {source : WorkingTree Content}
    (promoted : promoteWorktree host project branchName source base
      cleanedPaths = .ok applied) (path : FilePath) :
    (Synced cleanedPaths path → applied.files path =
        stageable host.ignored base path (fileAt path source)) ∧
      (¬ Synced cleanedPaths path → applied.files path = base.files path) := by
  obtain ⟨_, synced, files, _⟩ := promoteWorktree_eq_ok promoted
  obtain ⟨ofSource, ofBase⟩ := fileAt_syncObjectivePaths synced path
  rw [files]
  unfold stagedFiles
  constructor
  · intro covered
    rw [ofSource covered]
  · intro uncovered
    rw [ofBase uncovered]
    by_cases inGit : InGitDirectory path
    · unfold stageable
      rw [if_pos inGit, files_of_inGitDirectory base inGit]
    · rw [fileAt_checkout base host.gitFile inGit, stageable_files]

theorem applyObjective_eq_ok {sourceRepoRoot sourceWorkingRoot : String}
    {objectivePaths : List String}
    (returned : applyObjective host project objectiveId sourceRepoRoot
      sourceWorkingRoot objectivePaths = .ok applied) :
    ∃ base branchName, host.commitOf (host.resolvePath sourceRepoRoot)
          (refreshBaseRef host (host.resolvePath sourceRepoRoot) project.baseBranch) = some base ∧
        promoteWorktree host project branchName
            (host.workingTree (host.resolvePath sourceWorkingRoot)) base
            (normalizeObjectivePaths objectivePaths) = .ok applied := by
  unfold applyObjective at returned
  dsimp only at returned
  split at returned
  · cases returned
  · split at returned
    · cases returned
    next base baseFound =>
      obtain ⟨_, _, returned⟩ := exists_of_bind_ok returned
      unfold finallyDo at returned
      split at returned
      · cases returned
      · exact ⟨base, _, baseFound, returned⟩

theorem applyRepoPromotionForTasks_eq_ok
    {objective : Objective} {linkedTasks candidateTasks : List Task}
    (returned : applyRepoPromotionForTasks host reports store objective project
      linkedTasks candidateTasks = .ok promoted) :
    ∃ root objectivePaths, objectiveSourceRepoRoot reports store linkedTasks = some root ∧
        objectiveRepoFileSet reports store candidateTasks = .ok objectivePaths ∧
          applyObjective host project objective.id (host.resolvePath root)
            (host.resolvePath root) objectivePaths = .ok promoted.applied := by
  unfold applyRepoPromotionForTasks at returned
  obtain ⟨_, _, returned⟩ := exists_of_bind_ok returned
  obtain ⟨_, _, returned⟩ := exists_of_bind_ok returned
  dsimp only at returned
  split at returned
  · cases returned
  · split at returned
    · cases returned
    next root rootFound =>
      obtain ⟨objectivePaths, collected, returned⟩ := exists_of_bind_ok returned
      split at returned
      · cases returned
      · obtain ⟨_, appliedHere, returned⟩ := exists_of_bind_ok returned
        cases returned
        exact ⟨root, objectivePaths, rootFound, collected, appliedHere⟩

theorem promoteObjectiveToRepo_eq_ok
    (returned : promoteObjectiveToRepo host reports store objectiveId = .ok promoted) :
    ∃ inputs : PromotionInputs host reports store objectiveId,
      promoted.applied.files ≠ inputs.base.files ∧ ∀ path, (inputs.ReportedByAnyRun path →
              promoted.applied.files path = inputs.stagedSource path) ∧
            (¬ inputs.ReportedByAnyRun path →
              promoted.applied.files path = inputs.base.files path) := by
  unfold promoteObjectiveToRepo at returned
  split at returned
  · cases returned
  next objective found =>
    split at returned
    · cases returned
    next project projectFound =>
      obtain ⟨_, _, returned⟩ := exists_of_bind_ok returned
      dsimp only at returned
      split at returned
      · cases returned
      · obtain ⟨root, objectivePaths, rootFound, collected, appliedHere⟩ :=
          applyRepoPromotionForTasks_eq_ok returned
        obtain ⟨base, _, baseFound, promotedHere⟩ := applyObjective_eq_ok appliedHere
        let inputs : PromotionInputs host reports store objectiveId :=
          { objective, project, root, base, found, projectFound, rootFound,
            baseFound }
        obtain ⟨_, _, _, changed⟩ := promoteWorktree_eq_ok promotedHere
        refine ⟨inputs, changed, ?_⟩
        intro path
        have reported : Synced (normalizeObjectivePaths objectivePaths) path ↔
            inputs.ReportedByAnyRun path := by
          unfold Synced PromotionInputs.ReportedByAnyRun
          rw [covered_by_objectivePaths_iff collected path]
          simp only [exists_item_iff]
          rfl
        rw [← reported]
        exact files_of_promoteWorktree promotedHere path

/-- A promotion that returns lands the workspaces exactly when the checkout
and the base agree with them. -/
theorem landsWorkspaces_iff_checkoutAgrees (inputs : PromotionInputs host reports store objectiveId)
    (workspaces : String → WorkingTree Content)
    (promoted : Promoted Content)
    (returned : promoteObjectiveToRepo host reports store objectiveId = .ok promoted) :
    inputs.LandsWorkspaces workspaces promoted.applied.files ↔
      inputs.CheckoutAgrees workspaces := by
  obtain ⟨started, _, files⟩ := promoteObjectiveToRepo_eq_ok returned
  obtain rfl := PromotionInputs.eq started inputs
  unfold PromotionInputs.LandsWorkspaces PromotionInputs.wantedFile
  constructor
  · intro lands
    constructor
    · intro path run latest reported
      have landed := lands path
      rw [latest] at landed
      exact ((files path).1 reported).symm.trans landed
    · intro path run latest unreported
      have landed := lands path
      rw [latest] at landed
      exact ((files path).2 unreported).symm.trans landed
    · intro path latest reported
      have landed := lands path
      rw [latest] at landed
      exact ((files path).1 reported).symm.trans landed
  · intro agrees path
    by_cases reported : started.ReportedByAnyRun path
    · rw [(files path).1 reported]
      cases latest : started.latestRunOf path with
      | none => exact agrees.superseded path latest reported
      | some run => exact agrees.changed path run latest reported
    · rw [(files path).2 reported]
      cases latest : started.latestRunOf path with
      | none => rfl
      | some run => exact agrees.dropped path run latest reported

end

section

def oneFile (content : String) : WorkingTree String := .directory [("notes.txt", .file content)]

def editedHost : PromotionHost String where
  resolvePath := id
  workingTree := fun _ => oneFile "local edit"
  commitOf := fun _ ref =>
    if ref = "origin/main" then
      some { entries := [("notes.txt", .file "base")], noGitEntry := by decide }
    else none
  gitFile := "gitdir"
  ignored := fun _ => false
  outcome := fun _ => .ok ()
  branchToken := "branch"
  commitSha := "commit"
  remoteSha := "commit"
  rollbackSha := "rollback"
  reviewUrl := none
  appliedAt := "now"
  contextRecordId := "receipt"
  promotionId := "promotion"
  now := 3

def notesReports : RunReports where
  events :=
    [{ entityType := "run", entityId := "run", eventType := "project_workspace_prepared"
       payload := [("source_repo_root", .str "repository")] }]
  readReport := fun _ => .ok <| some <| .dict
    [("changed_files", .list [.str "notes.txt"]), ("compile_check", .dict []),
     ("test_check", .dict [])]

def reviewedStore : Store where
  projects := .single { id := "project", promotionMode := .branchOnly }
  objectives := .single { id := "objective", projectId := "project" }
  tasks :=
    .single
      { id := "task", projectId := "project", objectiveId := some "objective"
        status := .completed }
  runs := .single { id := "run", taskId := "task", status := .completed, attempt := 1 }
  artifacts :=
    [{ id := "artifact", runId := "run", kind := "report",
       path := "report.json" }]
  contextRecords :=
    [{ id := "started", recordType := "objective_review_started", objectiveId := some "objective"
       metadata := [("review_id", .str "review")] },
     { id := "packet", recordType := "objective_review_packet", objectiveId := some "objective"
       metadata := [("review_id", .str "review"), ("verdict", .str "pass")], createdAt := 1 },
     { id := "completed", recordType := "objective_review_completed"
       objectiveId := some "objective", metadata := [("review_id", .str "review")]
       createdAt := 2 }]

def editedInputs :
    PromotionInputs editedHost notesReports reviewedStore "objective" where
  objective := { id := "objective", projectId := "project" }
  project := { id := "project", promotionMode := .branchOnly }
  root := "repository"
  base := { entries := [("notes.txt", .file "base")], noGitEntry := by decide }
  found := rfl
  projectFound := rfl
  rootFound := rfl
  baseFound := rfl

theorem edited_promotion_returns :
    ∃ promoted, promoteObjectiveToRepo editedHost notesReports reviewedStore
          "objective" = .ok promoted ∧
        promoted.applied.files ["notes.txt"] = some "local edit" := by
  have computed :
      ((promoteObjectiveToRepo editedHost notesReports reviewedStore
        "objective").toOption.map fun promoted => promoted.applied.files ["notes.txt"]) =
        some (some "local edit") := by
    decide +kernel
  cases returned : promoteObjectiveToRepo editedHost notesReports reviewedStore "objective" with
  | error _ =>
    rw [returned] at computed
    cases computed
  | ok promoted =>
    rw [returned] at computed
    exact ⟨promoted, rfl, Option.some.inj computed⟩

theorem landsWorkspaces_iff_checkoutAgrees_for_edit :
    ∃ promoted, promoteObjectiveToRepo editedHost notesReports reviewedStore
          "objective" = .ok promoted ∧
        (editedInputs.LandsWorkspaces (fun _ => oneFile "finished work") promoted.applied.files ↔
          editedInputs.CheckoutAgrees fun _ => oneFile "finished work") := by
  obtain ⟨promoted, returned, _⟩ := edited_promotion_returns
  exact ⟨promoted, returned, landsWorkspaces_iff_checkoutAgrees editedInputs
    (fun _ => oneFile "finished work") promoted returned⟩

/-- The commit has the edit of the checkout in place of the finished work. -/
theorem checkout_edit_promoted :
    ∃ promoted, promoteObjectiveToRepo editedHost notesReports reviewedStore
          "objective" = .ok promoted ∧
        ¬ editedInputs.LandsWorkspaces (fun _ => oneFile "finished work")
          promoted.applied.files := by
  obtain ⟨promoted, returned, edit⟩ := edited_promotion_returns
  refine ⟨promoted, returned, ?_⟩
  intro lands
  have wanted : editedInputs.wantedFile (fun _ => oneFile "finished work")
      ["notes.txt"] = some "finished work" := by
    decide +kernel
  have landed := lands ["notes.txt"]
  rw [edit, wanted] at landed
  exact absurd landed (by decide)

end

end PromotedContent

end AccruviaHarness
