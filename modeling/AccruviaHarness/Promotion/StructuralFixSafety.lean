import AccruviaHarness.Promotion.StructuralFixPush

/-!
# Whether a structural fix is tested and reported

A pushed fix is safe when CI has passed, the pushed files are those that CI has
tested, and only reported paths differ from what main had.
-/

namespace AccruviaHarness

open Library DirectoryTree RepositoryPromotionService FileListing

namespace StructuralFixPromotionService

open PromotedContent

variable {Content : Type} (history : PushedHistory (TrackedFiles Content))

def commitFile (commit : Nat) (path : FilePath) : Option Content :=
  (history.graph.treeAt commit).bind fun files => files.file path

/-- The file that main of `origin` has. -/
def mainFile (path : FilePath) : Option Content :=
  (history.remoteTree "main").bind fun files => files.file path

def EveryStepPasses (host : CiHost Content) (before : WorkingTree Content) :
    Prop :=
  ∃ prepared tested, host.makeRunDir before = .ok prepared ∧ StepsPass host ciSteps prepared tested

def reportItems (stateRoot : String) (reports : RunReports) (runId : String) : List PyValue :=
  match changedItems stateRoot reports runId with
  | .ok items => items
  | .error _ => []

def LeftByCi (before tested : WorkingTree Content) (path : FilePath) : Prop :=
  ¬ InGitDirectory path ∧ fileAt path tested = fileAt path before

variable (host : StructuralFixHost Content)

structure SafePush (reports : RunReports) (runId : String)
    (before after : RepairState Content) (commit : Nat) : Prop where
  passed : EveryStepPasses host.ci before.tree
  tested : ∀ path, LeftByCi before.tree after.tree path →
    commitFile after.history commit path = fileAt path before.tree
  reported : ∀ path, commitFile after.history commit path ≠ mainFile before.history path →
      ∃ item ∈ reportItems host.stateRoot reports runId, names path item = true

def PushesSafely (reports : RunReports) (runId : String)
    (before after : RepairState Content) : Prop :=
  ∀ made, after.history.pushes = before.history.pushes ++ made →
    ∀ commit, ("main", commit) ∈ made → SafePush host reports runId before after commit

section

variable (changedPaths : List String) (tested : WorkingTree Content)
  (index : TrackedFiles Content)

variable (path : FilePath)

/-- What `git add` takes from the working tree. -/
def addedFile : Option Content :=
  if addsFile host (selectedBy host changedPaths) index path = true then fileAt path tested
  else none

def GivesWay : Prop :=
  displaced (addsFile host (selectedBy host changedPaths) index) tested path = true

structure StagesTested (before : WorkingTree Content) : Prop where
  /-- Where `git add` is not told to look, the index has the working tree's
  file. -/
  unselected : ∀ path, LeftByCi before tested path → selectedBy host changedPaths path = false →
      ¬ GivesWay host changedPaths tested index path → index.file path = fileAt path before
  /-- Where it is, no file is untracked and ignored. -/
  selected : ∀ path, LeftByCi before tested path →
    selectedBy host changedPaths path = true → fileAt path before ≠ none →
      (index.file path).isSome = true ∨ host.ignored path = false

structure StagesReported (items : List PyValue)
    (main : FilePath → Option Content) : Prop where
  unselected : ∀ path, (∀ item ∈ items, names path item = false) →
    selectedBy host changedPaths path = false →
      ¬ GivesWay host changedPaths tested index path → index.file path = main path
  displaced : ∀ path, (∀ item ∈ items, names path item = false) →
    selectedBy host changedPaths path = false →
      GivesWay host changedPaths tested index path → main path = none
  selected : ∀ path, (∀ item ∈ items, names path item = false) →
    selectedBy host changedPaths path = true →
      addedFile host changedPaths tested index path = main path

end

section

variable {host} {changedPaths : List String} {tested : WorkingTree Content}
  {index : TrackedFiles Content} {path : FilePath}

theorem selected_of_addsFile {selected : FilePath → Bool}
    (adds : addsFile host selected index path = true) :
    selected path = true := by
  unfold addsFile at adds
  rw [Bool.and_eq_true, Bool.and_eq_true] at adds
  exact adds.1.1

theorem file_of_selected (selected : selectedBy host changedPaths path = true) :
    (addSelected host (selectedBy host changedPaths) tested index).file path =
      addedFile host changedPaths tested index path := by
  unfold addSelected addedFile
  by_cases adds : addsFile host (selectedBy host changedPaths) index path = true
  · rw [if_pos adds]
    cases present : fileAt path tested with
    | some _ => exact file_takeOver_of_taken adds present
    | none => rw [file_takeOver_of_not_taken (.inr present), if_pos (.inl selected)]
  · rw [if_neg adds, file_takeOver_of_not_taken (.inl (Bool.eq_false_iff.mpr adds)),
      if_pos (.inl selected)]

variable (tested index) in
theorem file_of_unselected (unselected : selectedBy host changedPaths path = false) :
    (GivesWay host changedPaths tested index path →
        (addSelected host (selectedBy host changedPaths) tested index).file
          path = none) ∧
      (¬ GivesWay host changedPaths tested index path →
        (addSelected host (selectedBy host changedPaths) tested index).file
          path = index.file path) := by
  have notAdded : addsFile host (selectedBy host changedPaths) index path =
      false := by
    rw [Bool.eq_false_iff]
    intro adds
    rw [selected_of_addsFile adds] at unselected
    cases unselected
  unfold addSelected
  rw [file_takeOver_of_not_taken (.inl notAdded), unselected]
  constructor
  · intro gives
    exact if_pos (.inr gives)
  · intro stays
    exact if_neg (not_or.mpr ⟨Bool.false_ne_true, stays⟩)

theorem fileAt_of_givesWay (unselected : selectedBy host changedPaths path = false)
    (gives : GivesWay host changedPaths tested index path) :
    fileAt path tested = none := by
  obtain ⟨other, _, adds, present, near⟩ := displaced_iff.mp gives
  have different : other ≠ path := by
    rintro rfl
    rw [selected_of_addsFile adds] at unselected
    cases unselected
  rw [Option.eq_none_iff_forall_not_mem]
  intro found here
  rcases near with above | below
  · exact different (eq_of_fileAt_of_prefixed present here above)
  · exact different (eq_of_fileAt_of_prefixed here present below).symm

theorem tested_iff {before : WorkingTree Content} :
    (∀ path, LeftByCi before tested path →
        (addSelected host (selectedBy host changedPaths) tested index).file
          path = fileAt path before) ↔
      StagesTested host changedPaths tested index before := by
  constructor
  · intro same
    constructor
    · intro path left unselected stays
      exact ((file_of_unselected _ _ unselected).2 stays).symm.trans (same path left)
    · intro path left selected present
      have added := same path left
      rw [file_of_selected selected] at added
      unfold addedFile at added
      split at added
      next adds =>
        unfold addsFile at adds
        rw [Bool.and_eq_true, Bool.or_eq_true, Bool.not_eq_true'] at adds
        exact adds.2
      · exact absurd added.symm present
  · intro stages path left
    cases selected : selectedBy host changedPaths path with
    | false =>
      obtain ⟨gone, kept⟩ := file_of_unselected tested index selected
      by_cases gives : GivesWay host changedPaths tested index path
      · rw [gone gives, ← left.2, fileAt_of_givesWay selected gives]
      · rw [kept gives]
        exact stages.unselected path left selected gives
    | true =>
      rw [file_of_selected selected]
      unfold addedFile
      by_cases present : fileAt path before = none
      · rw [left.2, present, ite_self]
      · have tracked := stages.selected path left selected present
        have adds : addsFile host (selectedBy host changedPaths) index path =
            true := by
          unfold addsFile
          rw [selected, decide_eq_false left.1]
          simpa using tracked
        rw [if_pos adds]
        exact left.2

theorem reported_iff {items : List PyValue} {main : FilePath → Option Content} :
    (∀ path, (addSelected host (selectedBy host changedPaths) tested index).file
            path ≠ main path → ∃ item ∈ items, names path item = true) ↔
      StagesReported host changedPaths tested index items main := by
  have contrapose : (∀ path, (addSelected host (selectedBy host changedPaths) tested index).file
          path ≠ main path → ∃ item ∈ items, names path item = true) ↔
        ∀ path, (∀ item ∈ items, names path item = false) →
          (addSelected host (selectedBy host changedPaths) tested index).file
            path = main path := by
    refine forall_congr' fun path => ?_
    rw [← not_imp_not, not_not]
    refine imp_congr_left ?_
    simp
  rw [contrapose]
  constructor
  · intro same
    constructor
    · intro path unnamed unselected stays
      exact ((file_of_unselected _ _ unselected).2 stays).symm.trans (same path unnamed)
    · intro path unnamed unselected gives
      exact (same path unnamed).symm.trans ((file_of_unselected _ _ unselected).1 gives)
    · intro path unnamed selected
      exact (file_of_selected selected).symm.trans (same path unnamed)
  · intro stages path unnamed
    cases selected : selectedBy host changedPaths path with
    | false =>
      obtain ⟨gone, kept⟩ := file_of_unselected tested index selected
      by_cases gives : GivesWay host changedPaths tested index path
      · exact (gone gives).trans (stages.displaced path unnamed selected gives).symm
      · exact (kept gives).trans (stages.unselected path unnamed selected gives)
    | true => exact (file_of_selected selected).trans (stages.selected path unnamed selected)

end

section

variable [DecidableEq Content] {host} {task : Task} {reports : RunReports}
  {store : Store} {runId : String} {before : RepairState Content}

theorem safePush_iff_of_reaches {tested : WorkingTree Content} {details : PyDict}
    {changedPaths : List String} {after : RepairState Content}
    (reaches : ReachesPush host task reports store runId before tested details changedPaths)
    (left : workspaceOf after = (fixedHistory host tested changedPaths before.history, tested)) :
    SafePush host reports runId before after before.history.graph.next ↔
      StagesTested host changedPaths tested before.history.staged before.tree ∧
        StagesReported host changedPaths tested before.history.staged
          (reportItems host.stateRoot reports runId)
          (mainFile before.history) := by
  have history : after.history = fixedHistory host tested changedPaths before.history :=
    congrArg Prod.fst left
  have tree : after.tree = tested := congrArg Prod.snd left
  have committed : commitFile after.history before.history.graph.next =
      (addSelected host (selectedBy host changedPaths) tested before.history.staged).file := by
    funext path
    unfold commitFile
    have found : after.history.graph.treeAt before.history.graph.next =
        some (addSelected host (selectedBy host changedPaths) tested before.history.staged) := by
      rw [history]
      exact PushedHistory.treeAt_head_commitStaged
    rw [found]
    rfl
  have passed : EveryStepPasses host.ci before.tree := by
    obtain ⟨prepared, ended, _, _, made, steps, _⟩ := reaches.passed
    exact ⟨prepared, ended, made, steps⟩
  rw [← tested_iff, ← reported_iff]
  constructor
  · intro safe
    rw [← committed, ← tree]
    exact ⟨safe.tested, safe.reported⟩
  · rintro ⟨testedFiles, reportedFiles⟩
    rw [← committed] at testedFiles reportedFiles
    rw [← tree] at testedFiles
    exact ⟨passed, testedFiles, reportedFiles⟩

/-- A structural fix is pushed safely exactly when nothing stops it before its
push only where what it stages is tested and reported. -/
theorem structuralFix_pushed_safely_iff
    (host : StructuralFixHost Content) (task : Task) (reports : RunReports)
    (store : Store) (runId : String) (before : RepairState Content) :
    PushesSafely host reports runId before
        (stateOf (promoteCompletedStructuralFix host task reports store runId before)) ↔
      ∀ tested details changedPaths,
        ReachesPush host task reports store runId before tested details changedPaths →
          StagesTested host changedPaths tested before.history.staged before.tree ∧
            StagesReported host changedPaths tested before.history.staged
              (reportItems host.stateRoot reports runId)
              (mainFile before.history) := by
  constructor
  · intro safely tested details changedPaths reaches
    have left := workspaceOf_promote_of_reaches reaches
    apply (safePush_iff_of_reaches reaches left).mp
    have history := congrArg Prod.fst left
    apply safely [("main", before.history.graph.next)]
    · exact congrArg PushedHistory.pushes history
    · exact List.mem_singleton_self _
  · intro stages made pushed commit member
    by_cases reached : ∃ tested details changedPaths,
      ReachesPush host task reports store runId before tested details changedPaths
    · obtain ⟨tested, details, changedPaths, reaches⟩ := reached
      have left := workspaceOf_promote_of_reaches reaches
      have history := congrArg Prod.fst left
      have pushes := congrArg PushedHistory.pushes history
      have same := List.append_cancel_left (pushed.symm.trans pushes)
      rw [same, List.mem_singleton, Prod.mk.injEq] at member
      rw [member.2]
      exact (safePush_iff_of_reaches reaches left).mpr (stages tested details changedPaths reaches)
    · have unpushed := unpushed_promote_of_not_reaches host task reports
        store runId before fun tested details changedPaths reaches =>
          reached ⟨tested, details, changedPaths, reaches⟩
      rw [unpushed.pushes, List.self_eq_append_right] at pushed
      rw [pushed] at member
      cases member

end

section

def mainFiles : TrackedFiles String where
  entries := [(["fix.py"], "broken"), (["helper.py"], "helper")]
  apart := by decide

def earlierFiles : TrackedFiles String where
  entries := [(["fix.py"], "broken"), (["helper.py"], "unfinished")]
  apart := by decide

def exampleHistory (unpushed : Bool) :
    PushedHistory (TrackedFiles String) where
  graph :=
    { commits := [⟨[], mainFiles⟩, ⟨[0], earlierFiles⟩]
      parentsEarlier := by
        intro id commit found parent member
        match id, found with
        | 0, found =>
          cases found
          cases member
        | 1, found =>
          cases found
          cases member with
          | head => decide
          | tail _ rest => cases rest }
  remote branch := if branch = "main" then some 0 else none
  head := if unpushed then 1 else 0
  mergeHeads := []
  staged := if unpushed then earlierFiles else mainFiles
  pushes := []
  remoteKnown := by
    intro branch commit found
    split at found
    · cases found
      decide
    · cases found
  headKnown := by cases unpushed <;> decide
  mergeKnown := nofun

def exampleHost (statusOutput : String) : StructuralFixHost String where
  failure _ := none
  branchName := "harness-task"
  hasChanges := true
  listedCommit := some 2
  listedRollback := none
  reviewUrl := none
  commitSha commit := toString commit
  ci :=
    { runDir := ".accruvia-harness/ci-local/20260101T000000", makeRunDir := .ok
      runCommand := fun _ tree => (.ok ⟨0, ""⟩, tree)
      writeLog := fun name output tree =>
        match place [".accruvia-harness", "ci-local", "20260101T000000",
          name ++ ".log"] (.file output) tree with
        | some logged => .ok logged
        | none => .error (.osError "open") }
  resolvePath path := path
  workspaceExists _ := true
  stateRoot := "state"
  statusOutput _ _ := statusOutput
  diffFailure := none
  ignored path := path.head? = some ".accruvia-harness"
  pathspecMatches pathspec path := (pathParts pathspec).isPrefixOf path
  recordFailure _ := none

def exampleReports (workspaceMode : String) : RunReports where
  events :=
    [{ entityType := "run", entityId := "run", eventType := "project_workspace_prepared"
       payload := [("project_root", .str "workspace"),
         ("workspace_mode", .str workspaceMode)] }]
  readReport _ := .ok <| some <| .dict [("changed_files", .list [.str "fix.py"])]

def exampleStore : Store where
  projects := .single { id := "project" }

def exampleTask : Task where
  id := "task"
  projectId := "project"
  strategy := "sa_structural_fix"

def unreportedDeletion : RepairState String where
  history := exampleHistory false
  tree := .directory [("fix.py", .file "fixed")]

def unpushedCommit : RepairState String where
  history := exampleHistory true
  tree := .directory
    [("fix.py", .file "fixed"), ("helper.py", .file "unfinished")]

def exampleRun (workspaceMode statusOutput : String)
    (before : RepairState String) : RepairState String :=
  stateOf (promoteCompletedStructuralFix (exampleHost statusOutput) exampleTask
    (exampleReports workspaceMode) exampleStore "run" before)

theorem unsafe_fixes_pushed :
    (¬ PushesSafely (exampleHost " M fix.py\n D helper.py\n")
        (exampleReports "git_worktree") "run" unreportedDeletion
        (exampleRun "git_worktree" " M fix.py\n D helper.py\n" unreportedDeletion)) ∧
      ¬ PushesSafely (exampleHost " M fix.py\n") (exampleReports "shared_repo") "run" unpushedCommit
        (exampleRun "shared_repo" " M fix.py\n" unpushedCommit) := by
  constructor
  · intro safely
    have safe := safely [("main", 2)] (by decide +kernel) 2 (List.mem_singleton_self _)
    have left := safe.tested ["helper.py"] ⟨by decide, by decide +kernel⟩
    revert left
    decide +kernel
  · intro safely
    have safe := safely [("main", 2)] (by decide +kernel) 2 (List.mem_singleton_self _)
    have named := safe.reported ["helper.py"] (by decide +kernel)
    revert named
    decide +kernel

end

end StructuralFixPromotionService

end AccruviaHarness
