import AccruviaHarness.Domain
import AccruviaHarness.Library.CommitGraph
import AccruviaHarness.Library.Obstacles

/-!
# Applying a workspace to its repository

`apply` of the repository promotion service commits what the workspace of a
task has and pushes it. A step of it either goes through or ends the call with
an exception; what git, the checks and the review provider answer is a
parameter.
-/

/-!
## A workspace and the branches of its origin

The commit that a workspace is at, what its next commit would hold, and the
branches of `origin`, with the commands that a promotion gives.
-/

namespace AccruviaHarness

open Library

structure PushedHistory (Tree : Type) where
  /-- The commits of the workspace and of `origin`. -/
  graph : CommitGraph Tree
  /-- The branches of `origin`. -/
  remote : String → Option Nat
  head : Nat
  /-- The other parents of the next commit, while a merge is unfinished. -/
  mergeHeads : List Nat
  /-- What `git add -A` stages. -/
  staged : Tree
  /-- The pushes that have succeeded, with the commits that they pushed. -/
  pushes : List (String × Nat)
  remoteKnown : ∀ branch commit, remote branch = some commit → commit < graph.next
  headKnown : head < graph.next
  mergeKnown : ∀ commit ∈ mergeHeads, commit < graph.next

namespace PushedHistory

variable {Tree : Type} (history : PushedHistory Tree) (branch : String)

/-- The tree at the head of a branch of `origin`. -/
def remoteTree : Option Tree := (history.remote branch).bind history.graph.treeAt

def stage (staged : Tree) : PushedHistory Tree := { history with staged }

/-- A new commit at `HEAD`. -/
def record (commit : Commit Tree) (known : ∀ parent ∈ commit.parents,
      parent < history.graph.commits.length) : PushedHistory Tree :=
  have grown {id : Nat} (old : id < history.graph.next) :
      id < (history.graph.add commit known).next := by
    have longer : (history.graph.add commit known).next =
        history.graph.next + 1 := List.length_append
    omega
  { history with
    graph := history.graph.add commit known, head := history.graph.next, mergeHeads := []
    remoteKnown := fun branch id found => grown (history.remoteKnown branch id found)
    headKnown := by
      have longer : (history.graph.add commit known).next =
          history.graph.next + 1 := List.length_append
      omega
    mergeKnown := nofun }

/-- `git add -A` and `git commit`. -/
def commitStaged : PushedHistory Tree :=
  history.record
    { parents := history.head :: history.mergeHeads, tree := history.staged }
    (List.forall_mem_cons.mpr ⟨history.headKnown, history.mergeKnown⟩)

/-- `git revert` of the commit at `HEAD`. A merge has no single parent to go
back to, and is refused. -/
def revertHead : Option (PushedHistory Tree) :=
  match history.graph.parentsOf history.head with
  | [parent] =>
    (history.graph.treeAt parent).map fun tree =>
      history.record { parents := [history.head], tree }
        (List.forall_mem_singleton.mpr history.headKnown)
  | _ => none

/-- A push without force moves a branch of `origin` only forward. -/
def accepts : Bool :=
  match history.remote branch with
  | none => true
  | some commit => history.graph.isAncestor commit history.head

/-- `git push origin HEAD:branch`, when `origin` takes it. -/
def push : PushedHistory Tree :=
  { history with
    remote := fun name => if name = branch then some history.head else history.remote name
    pushes := history.pushes ++ [(branch, history.head)]
    remoteKnown := by
      intro name commit found
      split at found
      · cases found
        exact history.headKnown
      · exact history.remoteKnown name commit found }

section

variable {history : PushedHistory Tree} {commit : Commit Tree}
  {known : ∀ parent ∈ commit.parents, parent < history.graph.commits.length}

theorem remoteTree_record (branch : String) :
    (history.record commit known).remoteTree branch = history.remoteTree branch := by
  show (history.remote branch).bind (history.graph.add commit known).treeAt =
    history.remoteTree branch
  unfold remoteTree
  cases found : history.remote branch with
  | none => rfl
  | some id => exact CommitGraph.treeAt_add_of_lt known (history.remoteKnown branch id found)

theorem find_head_record :
    (history.record commit known).graph.find (history.record commit known).head = some commit :=
  CommitGraph.find_add_next known

theorem treeAt_head_record :
    (history.record commit known).graph.treeAt
        (history.record commit known).head = some commit.tree :=
  CommitGraph.treeAt_add_next known

theorem parentsOf_head_record :
    (history.record commit known).graph.parentsOf
        (history.record commit known).head = commit.parents :=
  CommitGraph.parentsOf_add_next known

theorem find_record_of_lt {id : Nat} (old : id < history.graph.next) :
    (history.record commit known).graph.find id = history.graph.find id :=
  CommitGraph.find_add_of_lt known old

theorem treeAt_record_of_lt {id : Nat} (old : id < history.graph.next) :
    (history.record commit known).graph.treeAt id = history.graph.treeAt id :=
  CommitGraph.treeAt_add_of_lt known old

end

variable {history : PushedHistory Tree}

theorem remoteTree_push (branch : String) :
    (history.push branch).remoteTree branch = history.graph.treeAt history.head := by
  have moved : (history.push branch).remote branch = some history.head := if_pos rfl
  unfold remoteTree
  rw [moved]
  rfl

theorem find_commitStaged :
    history.commitStaged.graph.find history.graph.next = some
        { parents := history.head :: history.mergeHeads, tree := history.staged } :=
  find_head_record

theorem treeAt_head_commitStaged :
    history.commitStaged.graph.treeAt history.commitStaged.head = some history.staged :=
  treeAt_head_record

/-- The commits and `HEAD` are the same. -/
structure SameCommits (first second : PushedHistory Tree) : Prop where
  graph : second.graph = first.graph
  head : second.head = first.head

structure TakesBack (history pushed reverted : PushedHistory Tree) :
    Prop where
  head : reverted.head = history.graph.next + 1
  tree : reverted.graph.treeAt reverted.head = history.graph.treeAt history.head
  parents : reverted.graph.parentsOf reverted.head = [pushed.head]
  find : ∀ id < pushed.graph.next, reverted.graph.find id = pushed.graph.find id
  remoteTree : ∀ branch, reverted.remoteTree branch = pushed.remoteTree branch
  remote : reverted.remote = pushed.remote
  pushes : reverted.pushes = pushed.pushes

theorem exists_treeAt_head (history : PushedHistory Tree) :
    ∃ tree, history.graph.treeAt history.head = some tree := by
  have found : history.graph.find history.head =
      some (history.graph.commits.get ⟨history.head, history.headKnown⟩) :=
    List.getElem?_eq_getElem history.headKnown
  unfold CommitGraph.treeAt
  rw [found]
  exact ⟨_, rfl⟩

variable {pushed : PushedHistory Tree}

theorem revertHead_of_single (same : SameCommits history.commitStaged pushed)
    (single : history.mergeHeads = []) :
    ∃ reverted, pushed.revertHead = some reverted ∧ TakesBack history pushed reverted := by
  obtain ⟨tree, atHead⟩ := exists_treeAt_head history
  have parents : pushed.graph.parentsOf pushed.head = [history.head] := by
    rw [same.graph, same.head]
    exact parentsOf_head_record.trans (congrArg _ single)
  have old : pushed.graph.treeAt history.head = some tree := by
    rw [same.graph]
    exact (treeAt_record_of_lt history.headKnown).trans atHead
  have next : pushed.graph.next = history.graph.next + 1 := by
    rw [same.graph]
    exact List.length_append
  unfold revertHead
  rw [parents]
  dsimp only
  rw [old]
  refine ⟨_, rfl, next, ?_, parentsOf_head_record, ?_, ?_, rfl, rfl⟩
  · exact treeAt_head_record.trans atHead.symm
  · exact fun id old => find_record_of_lt old
  · exact fun branch => remoteTree_record branch

theorem revertHead_of_merge (same : SameCommits history.commitStaged pushed)
    (merging : history.mergeHeads ≠ []) : pushed.revertHead = none := by
  obtain ⟨other, others, found⟩ := List.exists_cons_of_ne_nil merging
  have parents : pushed.graph.parentsOf pushed.head = history.head :: other :: others := by
    rw [same.graph, same.head]
    exact parentsOf_head_record.trans (congrArg _ found)
  unfold revertHead
  rw [parents]

theorem accepts_of_parent
    {branch : String} {commit : Nat} (here : history.remote branch = some commit)
    (parent : commit ∈ history.graph.parentsOf history.head) :
    history.accepts branch = true := by
  unfold accepts
  rw [here]
  exact CommitGraph.isAncestor_iff.mpr (Relation.ReflTransGen.single parent)

end PushedHistory

end AccruviaHarness

/-! ## Applying a workspace to its repository -/

namespace AccruviaHarness

open Library

inductive ApplyStep where
  | makeStagingRoot
  | addWorktree
  | branchName
  | status
  | add
  | commit
  | revParse
  | prePushChecks
  | push
  | listRemote
  | postPushChecks
  | revert
  | revParseRollback
  | pushRollback
  | listRollback
  | openReview
  | removeWorktree
  deriving DecidableEq, Repr

structure ApplyHost where
  /-- The exception that ends a step, none where it goes through. -/
  failure : ApplyStep → Option PyError
  branchName : String
  /-- `git status --porcelain` prints something. -/
  hasChanges : Bool
  /-- What `git ls-remote` lists for the base branch after the push. -/
  listedCommit : Option Nat
  /-- What it lists after the push of a rollback. -/
  listedRollback : Option Nat
  reviewUrl : Option String
  commitSha : Nat → String

/-- What `apply` returns. -/
structure AppliedWorkspace where
  branchName : String
  commit : Nat
  pushedRef : String
  prUrl : Option String := none
  verifiedCommit : Option Nat := none
  deriving DecidableEq

abbrev GitProgram (Tree Result : Type) := EStateM PyError (PushedHistory Tree) Result

namespace RepositoryPromotionService

variable {Tree : Type} (host : ApplyHost)

def takeStep (step : ApplyStep) : GitProgram Tree Unit :=
  match host.failure step with
  | some error => throw error
  | none => pure ()

/-- `git push origin HEAD:branch`. -/
def pushHead (step : ApplyStep) (branch : String) : GitProgram Tree Unit := do
  takeStep host step
  let history ← get
  if history.accepts branch then set (history.push branch)
  else throw (.calledProcessError "git push")

variable (baseBranch : String)

/-- The text of `_verify_remote_sha`'s exception. -/
def verificationFailure (expected : Nat) (listed : Option Nat) : PyError :=
  .runtimeError <| "Remote verification failed for origin/" ++ baseBranch ++
      ": expected " ++ host.commitSha expected ++ ", found " ++
        match listed with
        | some commit => host.commitSha commit
        | none => "nothing"

/-- `_verify_remote_sha`. -/
def verifyRemoteCommit (step : ApplyStep) (listed : Option Nat)
    (baseBranch : String) (expected : Nat) : GitProgram Tree Nat := do
  takeStep host step
  if listed = some expected then return expected
  else throw (verificationFailure host baseBranch expected listed)

/-- `git revert --no-edit` of the commit at `HEAD`. -/
def revertCommit : GitProgram Tree Unit := do
  match (← get).revertHead with
  | some reverted => set reverted
  | none => throw (.calledProcessError "git revert")

def pushRevert : GitProgram Tree Nat := do
  takeStep host .revert
  revertCommit
  takeStep host .revParseRollback
  let rollback := (← get).head
  pushHead host .pushRollback baseBranch
  return rollback

/-- `_rollback_direct_main`, where `HEAD` is at the pushed commit. -/
def rollbackDirectMain : GitProgram Tree Nat := do
  let rollback ← pushRevert host baseBranch
  let _ ← verifyRemoteCommit host .listRollback host.listedRollback baseBranch rollback
  return rollback

def rolledBackFailure (commit rollback : Nat) : PyError :=
  .runtimeError <| "Post-merge validation failed after pushing " ++ host.commitSha commit ++
      "; rollback applied as " ++ host.commitSha rollback ++ "."

def checkDirectMain (commit : Nat) :
    GitProgram Tree Nat := do
  let verified ← verifyRemoteCommit host .listRemote host.listedCommit baseBranch commit
  try takeStep host .postPushChecks
  catch _ =>
    let rollback ← rollbackDirectMain host baseBranch
    throw (rolledBackFailure host commit rollback)
  return verified

def pushDirectMain (commit : Nat) :
    GitProgram Tree Nat := do
  pushHead host .push baseBranch
  checkDirectMain host baseBranch commit

/-- `git add -A`, `git commit`, `git rev-parse HEAD` and the checks before the
push. -/
def commitStaged : GitProgram Tree Nat := do
  takeStep host .add
  takeStep host .commit
  modify PushedHistory.commitStaged
  takeStep host .revParse
  let commit := (← get).head
  takeStep host .prePushChecks
  return commit

def missingProvider : PyError :=
  .runtimeError "Promotion mode branch_and_pr requires project repo_name and repo_provider"

variable (project : Project)

/-- `_open_review`. -/
def openPromotionReview :
    GitProgram Tree (Option String) := do
  ensure (¬ (project.repoName.getD "" = "" ∨ project.repoProvider = none)) missingProvider
  takeStep host .openReview
  return host.reviewUrl

def pushBranch (targetBranch : Option String) : String :=
  match targetBranch with
  | some target => if target = "" then pyStrip host.branchName else target
  | none => pyStrip host.branchName

def missingBranch : PyError :=
  .runtimeError <| "Promotion apply-back requires an isolated git branch in the prepared " ++
      "workspace"

def missingChanges : PyError :=
  .runtimeError "Promotion apply-back requires modified files in the prepared workspace"

/-- `apply` up to its push. -/
def commitWorkspace : GitProgram Tree Nat := do
  takeStep host .branchName
  ensure (pyStrip host.branchName ≠ "") missingBranch
  takeStep host .status
  ensure (host.hasChanges = true) missingChanges
  commitStaged host

/-- The end of `apply` where the base branch is not pushed to. -/
def pushForReview (branch : String) (openReview : Option Bool) (commit : Nat) :
    GitProgram Tree AppliedWorkspace := do
  pushHead host .push branch
  let prUrl ←
    if openReview.getD (project.promotionMode = .branchAndPr) then openPromotionReview host project
    else pure none
  return { branchName := branch, commit, pushedRef := branch, prUrl }

def publish (branchName branch : String) (openReview : Option Bool) (commit : Nat) :
    GitProgram Tree AppliedWorkspace :=
  if project.promotionMode = .directMain then do
    let verified ← pushDirectMain host project.baseBranch commit
    return {
      branchName
      commit
      pushedRef := host.commitSha commit ++ ":" ++ project.baseBranch
      verifiedCommit := some verified }
  else pushForReview host project branch openReview commit

def apply (project : Project) (targetBranch : Option String)
    (openReview : Option Bool) : GitProgram Tree AppliedWorkspace := do
  let commit ← commitWorkspace host
  publish host project (pyStrip host.branchName) (pushBranch host targetBranch) openReview commit

end RepositoryPromotionService

end AccruviaHarness
