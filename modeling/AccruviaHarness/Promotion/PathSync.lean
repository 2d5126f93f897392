import AccruviaHarness.Promotion.ObjectivePaths

/-!
# Syncing paths into a worktree

`_sync_objective_paths` makes every objective path of the promotion worktree
the same as in the source working root. The commit holds what git then stages.
-/

namespace AccruviaHarness

open Library DirectoryTree

/-- A working tree. Its directories have no symbolic links, and a content is
the bytes of a file with its mode. -/
abbrev WorkingTree (Content : Type) := DirectoryTree String Content

abbrev CommitFiles (Content : Type) := FilePath → Option Content

structure CommitTree (Content : Type) where
  entries : List (String × WorkingTree Content)
  noGitEntry : childAt entries ".git" = none

namespace CommitTree

variable {Content : Type} (commit : CommitTree Content)

def files : CommitFiles Content := fun path => fileAt path (.directory commit.entries)

/-- A worktree of the commit, with the `.git` file that ties it to the
repository. -/
def checkout (gitFile : Content) : WorkingTree Content :=
  .directory (setChild commit.entries ".git" (.file gitFile))

end CommitTree

def InGitDirectory (path : FilePath) : Prop := path.head? = some ".git"

instance (path : FilePath) : Decidable (InGitDirectory path) := inferInstanceAs (Decidable (_ = _))

namespace RepositoryPromotionService

section

variable {Content : Type}

/-- One round of the loop of `_sync_objective_paths`. -/
def syncObjectivePath (source worktree : WorkingTree Content)
    (relativePath : String) : Except PyError (WorkingTree Content) :=
  match resolveParts (pathParts relativePath) with
  | none => .error <| .runtimeError <| "Refusing to sync path outside worktree: " ++ relativePath
  | some path =>
    match nodeAt path source, nodeAt path worktree with
    -- A directory replaces what `rmtree` has removed, and that must not
    -- have been a file.
    | some (.directory _), some (.file _) => .error (.osError "rmtree")
    | some node, _ =>
      match place path node worktree with
      | some synced => .ok synced
      | none => .error (.osError "mkdir")
    | none, some _ => .ok (remove path worktree)
    | none, none => .ok worktree

def syncObjectivePaths (source worktree : WorkingTree Content)
    (objectivePaths : List String) : Except PyError (WorkingTree Content) :=
  objectivePaths.foldlM (syncObjectivePath source) worktree

def Synced (objectivePaths : List String) (path : FilePath) : Prop :=
  ∃ relativePath ∈ objectivePaths,
    ∃ covered, resolveParts (pathParts relativePath) = some covered ∧ covered <+: path

variable {covered path : FilePath}
  {tree source worktree result : WorkingTree Content}

theorem fileAt_of_nodeAt {node : WorkingTree Content}
    (found : nodeAt covered tree = some node) (above : covered <+: path) :
    fileAt (path.drop covered.length) node = fileAt path tree := by
  obtain ⟨_, rfl⟩ := above
  rw [List.drop_left, fileAt_append, found, Option.bind_some]

theorem fileAt_of_nodeAt_eq_none (missing : nodeAt covered tree = none) (above : covered <+: path) :
    fileAt path tree = none := by
  obtain ⟨_, rfl⟩ := above
  rw [fileAt_append, missing, Option.bind_none]

theorem syncObjectivePath_eq_ok {relativePath : String}
    (synced : syncObjectivePath source worktree relativePath = .ok result) :
    ∃ covered, resolveParts (pathParts relativePath) = some covered ∧ ∀ path, fileAt path result =
        if covered <+: path then fileAt path source
        else fileAt path worktree := by
  unfold syncObjectivePath at synced
  cases resolved : resolveParts (pathParts relativePath) with
  | none =>
    rw [resolved] at synced
    cases synced
  | some covered =>
    rw [resolved] at synced
    refine ⟨covered, rfl, ?_⟩
    intro path
    dsimp only at synced
    split at synced
    · cases synced
    next node found _ =>
      split at synced
      next placed =>
        cases synced
        rw [fileAt_place placed]
        by_cases above : covered <+: path
        · rw [if_pos above, if_pos above, fileAt_of_nodeAt found above]
        · rw [if_neg above, if_neg above]
      · cases synced
    next missing _ =>
      cases synced
      rw [fileAt_remove]
      by_cases above : covered <+: path
      · rw [if_pos above, if_pos above, fileAt_of_nodeAt_eq_none missing above]
      · rw [if_neg above, if_neg above]
    next missing absent =>
      cases synced
      by_cases above : covered <+: path
      · rw [if_pos above, fileAt_of_nodeAt_eq_none missing above,
          fileAt_of_nodeAt_eq_none absent above]
      · rw [if_neg above]

theorem fileAt_syncObjectivePaths {objectivePaths : List String}
    (synced : syncObjectivePaths source worktree objectivePaths = .ok result)
    (path : FilePath) :
    (Synced objectivePaths path → fileAt path result = fileAt path source) ∧
      (¬ Synced objectivePaths path → fileAt path result = fileAt path worktree) := by
  unfold syncObjectivePaths at synced
  induction objectivePaths generalizing worktree with
  | nil =>
    cases synced
    exact ⟨fun covered => absurd covered (by simp [Synced]), fun _ => rfl⟩
  | cons relativePath objectivePaths ih =>
    rw [List.foldlM_cons] at synced
    obtain ⟨_, first, rest⟩ := exists_of_bind_ok synced
    obtain ⟨covered, resolved, files⟩ := syncObjectivePath_eq_ok first
    obtain ⟨later, others⟩ := ih rest
    have syncedCons : Synced (relativePath :: objectivePaths) path ↔
        covered <+: path ∨ Synced objectivePaths path := by
      simp [Synced, resolved]
    rw [syncedCons]
    by_cases again : Synced objectivePaths path
    · exact ⟨fun _ => later again, fun none => absurd (.inr again) none⟩
    · have here := (others again).trans (files path)
      by_cases above : covered <+: path
      · rw [if_pos above] at here
        exact ⟨fun _ => here, fun none => absurd (.inl above) none⟩
      · rw [if_neg above] at here
        exact ⟨fun either => either.elim (absurd · above) (absurd · again), fun _ => here⟩

end

section

variable {Content : Type} (ignored : FilePath → Bool) (base : CommitTree Content)

variable (path : FilePath)

/-- What `git add -A` stages of a file: a tracked file in any case, another
one only when it is not ignored, and nothing of git's own directory. -/
def stageable (file : Option Content) : Option Content :=
  if InGitDirectory path then none
  else file.filter fun _ => (base.files path).isSome || !ignored path

/-- The files of the commit that `git add -A` and `git commit` make. -/
def stagedFiles (worktree : WorkingTree Content) : CommitFiles Content :=
  fun path => stageable ignored base path (fileAt path worktree)

def hasChanges [DecidableEq Content] (base : CommitTree Content)
    (worktree : WorkingTree Content) (staged : CommitFiles Content) : Bool :=
  (filePaths worktree ++ filePaths (.directory base.entries)).any fun path =>
    staged path ≠ base.files path

theorem files_of_inGitDirectory {path : FilePath}
    (inGit : InGitDirectory path) : base.files path = none := by
  cases path with
  | nil => rfl
  | cons name _ =>
    have own : name = ".git" := Option.some.inj inGit
    unfold CommitTree.files
    rw [fileAt_cons_directory, own, base.noGitEntry, Option.bind_none]

theorem fileAt_checkout (gitFile : Content) {path : FilePath} (outside : ¬ InGitDirectory path) :
    fileAt path (base.checkout gitFile) = base.files path := by
  cases path with
  | nil => rfl
  | cons name _ =>
    have other : name ≠ ".git" := fun own => outside (congrArg some own)
    unfold CommitTree.checkout CommitTree.files
    rw [fileAt_cons_directory, fileAt_cons_directory, childAt_setChild, if_neg other]

theorem stageable_files : stageable ignored base path (base.files path) = base.files path := by
  unfold stageable
  by_cases inGit : InGitDirectory path
  · rw [if_pos inGit, files_of_inGitDirectory base inGit]
  · rw [if_neg inGit]
    cases base.files path <;> simp

theorem hasChanges_iff [DecidableEq Content] (ignored : FilePath → Bool) (base : CommitTree Content)
    (worktree : WorkingTree Content) :
    hasChanges base worktree (stagedFiles ignored base worktree) = true ↔
      stagedFiles ignored base worktree ≠ base.files := by
  unfold hasChanges
  rw [List.any_eq_true, Ne, funext_iff, not_forall]
  constructor
  · rintro ⟨path, _, changed⟩
    exact ⟨path, of_decide_eq_true changed⟩
  · rintro ⟨path, changed⟩
    refine ⟨path, ?_, decide_eq_true changed⟩
    rw [List.mem_append]
    by_cases present : fileAt path worktree = none
    · right
      apply mem_filePaths
      intro absent
      apply changed
      unfold stagedFiles stageable CommitTree.files
      rw [present, absent]
      simp
    · exact .inl (mem_filePaths present)

end

end RepositoryPromotionService

end AccruviaHarness
