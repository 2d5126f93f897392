import AccruviaHarness.Services.PromotionService

/-!
# Cleanup of run workspaces

Every run starts by removing the workspaces under `runs/` that are no longer
needed.
-/

namespace AccruviaHarness

open Library List

namespace RunService

/-- An entry of `<workspace_root>/runs`, with the path of its `workspace` where
that exists. -/
structure RunRoot where
  name : String
  isDir : Bool := true
  workspaceDir : Option String := none
  deriving DecidableEq, Repr

/-- The entries of `<workspace_root>/runs`. -/
abbrev RunsRoot : Type := KeyedTable RunRoot.name

structure CleanupSummary where
  removed : Nat := 0
  removedOrphaned : Nat := 0
  skippedActive : Nat := 0
  skippedArtifactBacked : Nat := 0
  skippedUnpromoted : Nat := 0
  missingRun : Nat := 0
  deriving DecidableEq, Repr

inductive RemovalCommand where
  | worktreeRemove (sourceRepoRoot workspaceDir : String)
  | worktreePrune (sourceRepoRoot : String)
  | rmtree (workspaceDir : String)
  deriving DecidableEq, Repr

structure CleanupState where
  roots : RunsRoot
  summary : CleanupSummary := {}
  commands : List RemovalCommand := []

structure CleanupHost where
  /-- `Path.resolve(strict=False)`. -/
  resolve : String → String
  /-- `git worktree remove --force` ends with return code 0. -/
  worktreeRemoved : String → String → Bool

section

variable (host : CleanupHost) (store : Store) (events : List Event)

def pathIsWithin (candidate parent : String) : Bool :=
  candidate = parent || (parent ++ "/").toList.isPrefixOf candidate.toList

variable (runId workspaceDir : String)

def workspaceContainsReferencedArtifacts :
    Bool :=
  (store.listArtifacts runId).any fun artifact =>
    let artifactPath := pyStrip artifact.path
    artifactPath ≠ "" && pathIsWithin (host.resolve artifactPath) (host.resolve workspaceDir)

def runIsPromoted (run : Run) : Bool :=
  match store.getTask run.taskId with
  | none => false
  | some task => (store.listPromotions task.id).any fun promotion => promotion.status = .approved

/-- The commands of `_remove_workspace_dir`. -/
def removalCommands : List RemovalCommand :=
  let payload := (PromotionService.workspaceDetailsForRun events runId).getD []
  let sourceRepoRoot := pyStrip (payload.getStr "source_repo_root")
  let workspaceMode := pyStrip (payload.getStr "workspace_mode")
  if workspaceMode = "git_worktree" ∧ sourceRepoRoot ≠ "" then
    .worktreeRemove sourceRepoRoot workspaceDir ::
      if host.worktreeRemoved sourceRepoRoot workspaceDir then [.worktreePrune sourceRepoRoot]
      else [.rmtree workspaceDir]
  else [.rmtree workspaceDir]

def withoutWorkspace : RowUpdate RunRoot.name where
  apply root := { root with workspaceDir := none }
  keepsKey _ := rfl

variable (state : CleanupState)

/-- `_remove_workspace_dir`: git or `rmtree` takes the directory away. -/
def removeWorkspaceDir (runId workspaceDir : String) :
    CleanupState :=
  { state with
    roots := state.roots.updateAt runId withoutWorkspace
    commands := state.commands ++ removalCommands host events runId workspaceDir }

def terminalStatuses : List RunStatus := [.completed, .failed, .blocked, .disposed]

/-- The loop body of `cleanup_stale_run_workspaces`. -/
def cleanupRunRoot (root : RunRoot) : CleanupState :=
  match root.isDir, root.workspaceDir with
  | true, some workspaceDir =>
    match store.getRun root.name with
    | none =>
      let removed := removeWorkspaceDir host events state root.name workspaceDir
      { removed with
        summary :=
          { removed.summary with
            missingRun := removed.summary.missingRun + 1
            removedOrphaned := removed.summary.removedOrphaned + 1 } }
    | some run =>
      if run.status ∉ terminalStatuses then
        { state with
          summary :=
            { state.summary with
              skippedActive := state.summary.skippedActive + 1 } }
      else if workspaceContainsReferencedArtifacts host store run.id workspaceDir then
        { state with
          summary :=
            { state.summary with
              skippedArtifactBacked := state.summary.skippedArtifactBacked + 1 } }
      else if run.status = .completed ∧ ¬ runIsPromoted store run then
        { state with
          summary :=
            { state.summary with
              skippedUnpromoted := state.summary.skippedUnpromoted + 1 } }
      else
        let removed := removeWorkspaceDir host events state run.id workspaceDir
        { removed with
          summary :=
            { removed.summary with
              removed := removed.summary.removed + 1 } }
  | _, _ => state

/-- `cleanup_stale_run_workspaces`. A missing `runs` directory has no
entries. -/
def cleanupStaleRunWorkspaces (roots : RunsRoot) : CleanupState :=
  roots.rows.foldl (cleanupRunRoot host store events) { roots }

end

/-! ## What a cleanup removes -/

section

variable {host : CleanupHost} {store : Store} {events : List Event}

def Removable (host : CleanupHost) (store : Store) (root : RunRoot) : Prop :=
  root.isDir = true ∧ ∃ workspaceDir, root.workspaceDir = some workspaceDir ∧
      ∀ run, store.getRun root.name = some run → run.status ∈ terminalStatuses ∧
          workspaceContainsReferencedArtifacts host store run.id
            workspaceDir = false ∧
          (run.status = .completed → runIsPromoted store run = true)

variable {root : RunRoot}

theorem cleanupRunRoot_of_removable (removable : Removable host store root) (state : CleanupState) :
    (cleanupRunRoot host store events state root).roots =
      state.roots.updateAt root.name withoutWorkspace := by
  obtain ⟨directory, _, present, stale⟩ := removable
  unfold cleanupRunRoot
  rw [directory, present]
  cases stored : store.getRun root.name with
  | none => rfl
  | some run =>
    obtain ⟨terminal, unreferenced, promoted⟩ := stale run stored
    have named : run.id = root.name := (store.runs.lookup_eq_some_iff.mp stored).2
    have merged : ¬ (run.status = .completed ∧ ¬ runIsPromoted store run) :=
      fun both => both.2 (promoted both.1)
    dsimp only
    rw [if_neg (not_not.mpr terminal), unreferenced,
      if_neg Bool.false_ne_true, if_neg merged, ← named]
    rfl

theorem cleanupRunRoot_of_not_removable (kept : ¬ Removable host store root)
    (state : CleanupState) :
    (cleanupRunRoot host store events state root).roots = state.roots := by
  unfold cleanupRunRoot
  split
  next workspaceDir directory present =>
    cases stored : store.getRun root.name with
    | none =>
      refine absurd ⟨directory, workspaceDir, present, ?_⟩ kept
      intro run other
      rw [stored] at other
      cases other
    | some _ =>
      dsimp only
      split
      · rfl
      next terminal =>
        split
        · rfl
        next unreferenced =>
          split
          · rfl
          next merged =>
            refine absurd ⟨directory, workspaceDir, present, ?_⟩ kept
            intro other found
            rw [stored] at found
            cases found
            refine ⟨not_not.mp terminal, Bool.eq_false_iff.mpr unreferenced, fun completed => ?_⟩
            exact not_not.mp fun unpromoted => merged ⟨completed, unpromoted⟩
  · rfl

open Classical in
noncomputable def cleaned (host : CleanupHost) (store : Store) (root : RunRoot) : RunRoot :=
  if Removable host store root then withoutWorkspace.apply root else root

theorem name_cleaned (root : RunRoot) : (cleaned host store root).name = root.name := by
  unfold cleaned
  split
  · rfl
  · rfl

theorem rows_cleanupRunRoot {state : CleanupState} {earlier later : List RunRoot}
    (placed : state.roots.rows = earlier.map (cleaned host store) ++ root :: later) :
    (cleanupRunRoot host store events state root).roots.rows =
      (earlier ++ [root]).map (cleaned host store) ++ later := by
  rw [map_append, append_assoc, map_singleton, singleton_append]
  by_cases removable : Removable host store root
  · have others : ∀ other ∈ earlier.map (cleaned host store) ++ later, other.name ≠ root.name := by
      have unique := state.roots.keysNodup
      rw [placed, map_append, map_cons] at unique
      have fresh := (nodup_middle.mp unique).notMem
      intro other member same
      rw [← same, ← map_append] at fresh
      exact fresh (mem_map_of_mem member)
    rw [cleanupRunRoot_of_removable removable,
      KeyedTable.rows_updateAt withoutWorkspace rfl placed others, cleaned,
      if_pos removable]
  · rw [cleanupRunRoot_of_not_removable removable, placed, cleaned, if_neg removable]

theorem rows_foldl_cleanupRunRoot (earlier later : List RunRoot) {state : CleanupState}
    (placed : state.roots.rows = earlier.map (cleaned host store) ++ later) :
    (later.foldl (cleanupRunRoot host store events) state).roots.rows =
      (earlier ++ later).map (cleaned host store) := by
  induction later generalizing earlier state with
  | nil => rw [foldl_nil, placed, append_nil, append_nil]
  | cons root later ih =>
    have step : (cleanupRunRoot host store events state root).roots.rows =
        (earlier ++ [root]).map (cleaned host store) ++ later :=
      rows_cleanupRunRoot placed
    have rest := ih (earlier ++ [root]) step
    rw [foldl_cons, rest, append_assoc, singleton_append]

theorem rows_cleanupStaleRunWorkspaces (roots : RunsRoot) :
    (cleanupStaleRunWorkspaces host store events roots).roots.rows =
      roots.rows.map (cleaned host store) :=
  rows_foldl_cleanupRunRoot [] roots.rows rfl

end

/-! ## Work that a cleanup may not lose -/

def RemovesWorkspace (before after : RunsRoot) (runId : String) : Prop :=
  (∃ root ∈ before.rows, root.name = runId ∧ root.workspaceDir ≠ none) ∧
    ∀ root ∈ after.rows, root.name = runId → root.workspaceDir = none

def ChangesApplied (store : Store) (runId : String) : Prop :=
  (∃ promotion ∈ store.promotions.rows, promotion.runId = runId ∧
      promotion.status = .approved ∧
      ((promotion.details.get "applyback").asDict.getD []).get "status" = .str "applied") ∨
    ∃ task ∈ store.tasks.rows,
      ((task.externalRefMetadata.get "repo_applyback").asDict.getD []).get "run_id" = .str runId

variable (host : CleanupHost) (store : Store)

/-- Runs that may still go on keep their workspaces, and completed ones keep
them until their changes are applied. -/
def KeepsWork (events : List Event) (roots : RunsRoot) : Prop :=
  ∀ run ∈ store.runs.rows, RemovesWorkspace roots
        (cleanupStaleRunWorkspaces host store events roots).roots run.id →
      run.status ∈ terminalStatuses ∧ (run.status = .completed → ChangesApplied store run.id)

def WorkspaceUnreferenced (roots : RunsRoot) (runId : String) : Prop :=
  ∃ root ∈ roots.rows, root.name = runId ∧ root.isDir = true ∧
    ∃ workspaceDir, root.workspaceDir = some workspaceDir ∧
      workspaceContainsReferencedArtifacts host store runId workspaceDir = false

def TaskPromoted (run : Run) : Prop :=
  ∃ task, store.getTask run.taskId = some task ∧
    ∃ promotion ∈ store.promotions.rows, (task.id = "" ∨ promotion.taskId = task.id) ∧
        promotion.status = .approved

section

variable {host : CleanupHost} {store : Store} {events : List Event}
  {roots : RunsRoot}

theorem runIsPromoted_iff {run : Run} :
    runIsPromoted store run = true ↔ TaskPromoted store run := by
  unfold runIsPromoted TaskPromoted
  cases found : store.getTask run.taskId with
  | none => simp
  | some _ => simp [Store.listPromotions, mem_orderBy, and_assoc]

theorem removesWorkspace_iff {runId : String} :
    RemovesWorkspace roots (cleanupStaleRunWorkspaces host store events roots).roots runId ↔
      ∃ root ∈ roots.rows, root.name = runId ∧ Removable host store root := by
  unfold RemovesWorkspace
  rw [rows_cleanupStaleRunWorkspaces]
  constructor
  · rintro ⟨⟨root, member, named, present⟩, gone⟩
    refine ⟨root, member, named, not_not.mp fun kept => present ?_⟩
    have left := gone _ (mem_map_of_mem member) ((name_cleaned root).trans named)
    rwa [cleaned, if_neg kept] at left
  · rintro ⟨root, member, named, removable⟩
    obtain ⟨directory, workspaceDir, present, stale⟩ := removable
    refine ⟨⟨root, member, named, ?_⟩, ?_⟩
    · rw [present]
      exact Option.some_ne_none workspaceDir
    · intro other otherMember same
      obtain ⟨earlier, earlierMember, rfl⟩ := mem_map.mp otherMember
      have own : earlier = root :=
        roots.eq_of_key_eq earlierMember member
          ((name_cleaned earlier).symm.trans (same.trans named.symm))
      rw [own, cleaned, if_pos ⟨directory, workspaceDir, present, stale⟩]
      rfl

theorem removesWorkspace_iff_of_stored {run : Run} (stored : run ∈ store.runs.rows) :
    RemovesWorkspace roots (cleanupStaleRunWorkspaces host store events roots).roots run.id ↔
      run.status ∈ terminalStatuses ∧ WorkspaceUnreferenced host store roots run.id ∧
        (run.status = .completed → TaskPromoted store run) := by
  have found : store.getRun run.id = some run := store.runs.lookup_of_mem stored
  rw [removesWorkspace_iff, ← runIsPromoted_iff]
  constructor
  · rintro ⟨root, member, named, directory, workspaceDir, present, stale⟩
    rw [named] at stale
    obtain ⟨terminal, unreferenced, promoted⟩ := stale run found
    exact ⟨terminal, ⟨root, member, named, directory, workspaceDir, present,
      unreferenced⟩, promoted⟩
  · rintro ⟨terminal, ⟨root, member, named, directory, workspaceDir, present,
      unreferenced⟩, promoted⟩
    refine ⟨root, member, named, directory, workspaceDir, present, ?_⟩
    intro other otherFound
    rw [named, found] at otherFound
    cases otherFound
    exact ⟨terminal, unreferenced, promoted⟩

/-- A cleanup loses no work exactly when the completed runs of promoted tasks
whose workspaces are there, without an artifact on record in them, are the
runs whose changes have been applied. -/
theorem cleanup_keepsWork_iff :
    KeepsWork host store events roots ↔ ∀ run ∈ store.runs.rows, run.status = .completed →
        WorkspaceUnreferenced host store roots run.id →
          TaskPromoted store run → ChangesApplied store run.id := by
  constructor
  · intro keeps run stored completed unreferenced promoted
    have terminal : run.status ∈ terminalStatuses := by
      rw [completed]
      decide
    have removed : RemovesWorkspace roots
        (cleanupStaleRunWorkspaces host store events roots).roots run.id :=
      (removesWorkspace_iff_of_stored stored).mpr ⟨terminal, unreferenced, fun _ => promoted⟩
    exact (keeps run stored removed).2 completed
  · intro applied run stored removed
    obtain ⟨terminal, unreferenced, promoted⟩ := (removesWorkspace_iff_of_stored stored).mp removed
    exact ⟨terminal, fun completed =>
      applied run stored completed unreferenced (promoted completed)⟩

end

/-! ## A workspace with the only copy of a change -/

def plainCleanup : CleanupHost where
  resolve := id
  worktreeRemoved := fun _ _ => true

def twiceRun : Store where
  tasks := .single { id := "task", projectId := "project" }
  runs :=
    ⟨[{ id := "first", taskId := "task", status := .completed, attempt := 1 },
      { id := "second", taskId := "task", status := .completed, attempt := 2 }], by decide⟩
  promotions := .single
    { id := "promotion", taskId := "task", runId := "first", status := .approved, summary := ""
      details := [("applyback", .dict [("status", .str "applied")])] }

def skippedApplication : Store where
  tasks := .single { id := "task", projectId := "project" }
  runs := .single
    { id := "second", taskId := "task", status := .completed, attempt := 1 }
  promotions := .single
    { id := "promotion", taskId := "task", runId := "second", status := .approved, summary := ""
      details := [("applyback", .dict [("status", .str "skipped")])] }

def secondWorkspace : RunsRoot :=
  .single { name := "second", workspaceDir := some "/runs/second/workspace" }

theorem cleanup_loses_work :
    ¬ KeepsWork plainCleanup twiceRun [] secondWorkspace ∧
      ¬ KeepsWork plainCleanup skippedApplication [] secondWorkspace := by
  have present (store : Store) (unreferenced : store.artifacts = []) :
      WorkspaceUnreferenced plainCleanup store secondWorkspace "second" := by
    refine ⟨_, mem_singleton.mpr rfl, rfl, rfl, _, rfl, ?_⟩
    unfold workspaceContainsReferencedArtifacts Store.listArtifacts
    rw [unreferenced]
    rfl
  have lost {store : Store} {run : Run} (stored : run ∈ store.runs.rows)
      (named : run.id = "second") (completed : run.status = .completed)
      (unreferenced : store.artifacts = []) (promoted : TaskPromoted store run)
      (unapplied : ¬ ChangesApplied store "second") :
      ¬ KeepsWork plainCleanup store [] secondWorkspace := by
    intro keeps
    have terminal : run.status ∈ terminalStatuses := by
      rw [completed]
      decide
    have applied := (keeps run stored <| (removesWorkspace_iff_of_stored stored).mpr
        ⟨terminal, named ▸ present store unreferenced, fun _ => promoted⟩).2 completed
    exact unapplied (named ▸ applied)
  constructor
  · refine lost (mem_cons_of_mem _ (mem_singleton.mpr rfl)) rfl rfl
      rfl ⟨_, rfl, _, mem_singleton.mpr rfl, .inr rfl, rfl⟩ ?_
    rintro (⟨promotion, member, ofRun, _⟩ | ⟨task, member, recorded⟩)
    · cases mem_singleton.mp member
      exact absurd ofRun (by decide)
    · cases mem_singleton.mp member
      cases recorded
  · refine lost (mem_singleton.mpr rfl) rfl rfl rfl
      ⟨_, rfl, _, mem_singleton.mpr rfl, .inr rfl, rfl⟩ ?_
    rintro (⟨promotion, member, _, _, applied⟩ | ⟨task, member, recorded⟩)
    · cases mem_singleton.mp member
      exact absurd (PyValue.str.inj applied) (by decide)
    · cases mem_singleton.mp member
      cases recorded

end RunService

end AccruviaHarness
