import AccruviaHarness.Library.CommitGraph
import AccruviaHarness.Python.Value

/-!
# Executing a merge

`execute_merge` merges a run's branch into the target branch, runs the test
suite on the result and takes the merge back when the suite does not pass.
-/

/-!
## A local git repository

The branches, `HEAD` and the index of a repository, with the commands that the
merge gate gives.
-/

namespace AccruviaHarness

open Library

inductive GitHead where
  | branch (name : String)
  | detached (commit : Nat)
  deriving DecidableEq

structure GitRepository (Tree : Type) where
  graph : CommitGraph Tree
  branches : String → Option Nat
  /-- The other revisions with a name; they come before the branches. -/
  tags : String → Option Nat
  /-- The remote-tracking branches of `origin`. -/
  origin : String → Option Nat
  head : GitHead
  indexReadable : Bool
  /-- The tracked files are those of `HEAD`. -/
  trackedClean : Bool
  branchKnown : ∀ name commit, branches name = some commit → commit < graph.next
  tagKnown : ∀ name commit, tags name = some commit → commit < graph.next
  headKnown : ∀ commit, head = .detached commit → commit < graph.next
  /-- No branch can be named so. -/
  noHeadBranch : branches "HEAD" = none

namespace GitRepository

variable {Tree : Type} (repository : GitRepository Tree)

/-- `git rev-parse --verify`. -/
def resolve (name : String) : Option Nat := (repository.tags name).or (repository.branches name)

def headCommit : Option Nat :=
  match repository.head with
  | .branch name => repository.branches name
  | .detached commit => some commit

/-- The output of `git rev-parse --abbrev-ref HEAD`; the command fails on a
branch without a commit. -/
def abbreviatedHead : Option String :=
  match repository.head with
  | .branch name => (repository.branches name).map fun _ => name
  | .detached _ => some "HEAD"

variable {repository}

theorem resolve_known {name : String} {commit : Nat}
    (found : repository.resolve name = some commit) :
    commit < repository.graph.next := by
  rcases Option.or_eq_some_iff.mp found with tag | ⟨_, branch⟩
  · exact repository.tagKnown name commit tag
  · exact repository.branchKnown name commit branch

theorem headCommit_known {commit : Nat} (found : repository.headCommit = some commit) :
    commit < repository.graph.next := by
  unfold headCommit at found
  split at found
  next name _ => exact repository.branchKnown name commit found
  next other detached =>
    cases found
    exact repository.headKnown commit detached

/-- `HEAD`, with the branch that it is on, at another commit. -/
def moveHead (repository : GitRepository Tree) (commit : Nat)
    (known : commit < repository.graph.next) : GitRepository Tree :=
  match onBranch : repository.head with
  | .detached _ =>
    { repository with
      head := .detached commit, trackedClean := true
      headKnown := by
        rintro _ ⟨⟩
        exact known }
  | .branch current =>
    { repository with
      branches := fun name =>
        if name = current ∧ name ≠ "HEAD" then some commit
        else repository.branches name
      trackedClean := true
      branchKnown := by
        intro name other found
        split at found
        · cases found
          exact known
        · exact repository.branchKnown name other found
      noHeadBranch := by
        rw [if_neg (fun own => own.2 rfl)]
        exact repository.noHeadBranch
      headKnown := by
        intro other detached
        rw [onBranch] at detached
        cases detached }

def addCommit (repository : GitRepository Tree) (commit : Commit Tree)
    (known : ∀ parent ∈ commit.parents,
      parent < repository.graph.commits.length) : GitRepository Tree :=
  have grown {id : Nat} (old : id < repository.graph.next) :
      id < (repository.graph.add commit known).next := by
    have longer : (repository.graph.add commit known).next =
        repository.graph.next + 1 := List.length_append
    omega
  { repository with
    graph := repository.graph.add commit known
    branchKnown := fun name id found => grown (repository.branchKnown name id found)
    tagKnown := fun name id found => grown (repository.tagKnown name id found)
    headKnown := fun id detached => grown (repository.headKnown id detached) }

/-- `git checkout` of a name that stands for a commit. -/
def checkout (repository : GitRepository Tree) (name : String) (commit : Nat)
    (found : repository.resolve name = some commit) : GitRepository Tree :=
  if (repository.branches name).isSome then
    { repository with
      head := .branch name, headKnown := nofun }
  else
    { repository with
      head := .detached commit
      headKnown := by
        rintro _ ⟨⟩
        exact resolve_known found }

/-- `git merge --no-ff` of a commit into `HEAD`, when it succeeds: a commit
that `HEAD` has already is nothing to merge. -/
def mergeNoFf (repository : GitRepository Tree) (current merged : Nat)
    (atHead : repository.headCommit = some current)
    (known : merged < repository.graph.next) (tree : Tree) :
    GitRepository Tree :=
  if repository.graph.isAncestor merged current then repository
  else
    let commit : Commit Tree := { parents := [current, merged], tree }
    have parentsKnown : ∀ parent ∈ commit.parents, parent < repository.graph.commits.length := by
      intro parent member
      rcases List.mem_pair.mp member with rfl | rfl
      · exact headCommit_known atHead
      · exact known
    have grown : repository.graph.next < (repository.addCommit commit parentsKnown).graph.next := by
      have longer : (repository.graph.add commit parentsKnown).next =
          repository.graph.next + 1 := List.length_append
      show _ < (repository.graph.add commit parentsKnown).next
      omega
    (repository.addCommit commit parentsKnown).moveHead repository.graph.next grown

/-- `git reset --hard HEAD~1`, which fails on a commit without a parent. -/
def resetToFirstParent (repository : GitRepository Tree) : GitRepository Tree :=
  match atHead : repository.headCommit with
  | none => repository
  | some current =>
    match found : repository.graph.firstParent current with
    | none => repository
    | some parent =>
      have known : parent < repository.graph.next :=
        Nat.lt_trans (CommitGraph.parentsOf_lt (List.mem_of_mem_head? found))
          (headCommit_known atHead)
      repository.moveHead parent known

end GitRepository

end AccruviaHarness

/-! ## Executing a merge -/

namespace AccruviaHarness

open Library

structure MergeResult where
  merged : Bool
  commit : Option Nat := none
  conflicts : List String := []
  stderr : String := ""

/-- How `git merge` ends where there is something to merge. -/
inductive MergeAnswer (Tree : Type) where
  | completes (tree : Tree)
  | conflicts (paths : List String) (stderr : String)
  | refused (stderr : String)
  /-- The command is stopped, with or without a merge commit. -/
  | timesOut (finished : Option Tree)

inductive TestAnswer where
  | passed
  | failed (summary : String)
  | timedOut (message : String)
  | notFound (message : String)
  | raised (error : PyError)

structure MergeHost (Tree : Type) where
  /-- `(repo_root / ".git").exists()`. -/
  hasGit : Bool
  /-- Files in the way let `git checkout` fail. -/
  checkoutRefused : Bool
  merge : MergeAnswer Tree
  tests : TestAnswer

/-- What a call leaves: the repository, whether a merge commit was made, and
what it returns or raises. -/
structure MergeRun (Tree : Type) where
  repository : GitRepository Tree
  performed : Bool
  result : Except PyError MergeResult

namespace ExecuteMerge

variable {Tree : Type} (repository : GitRepository Tree)

def refuse (stderr : String) (conflicts : List String) : MergeRun Tree where
  repository
  performed := false
  result := .ok { merged := false, conflicts, stderr }

def runTests (performed : Bool) (answer : TestAnswer) : MergeRun Tree :=
  let rollBack message : MergeRun Tree :=
    { repository := repository.resetToFirstParent, performed
      result := .ok
        { merged := false, stderr := "full test suite failed after merge: " ++ message } }
  match answer with
  | .passed =>
    { repository, performed
      result := .ok { merged := true, commit := repository.headCommit } }
  | .failed summary => rollBack summary
  | .timedOut message => rollBack message
  | .notFound message => rollBack message
  | .raised error => { repository, performed, result := .error error }

variable (host : MergeHost Tree) (repository : GitRepository Tree)

/-- The merge of a commit into `HEAD`, and what follows it. -/
def mergeAndTest (current merged : Nat) (atHead : repository.headCommit = some current)
    (known : merged < repository.graph.next) : MergeRun Tree :=
  if !repository.indexReadable then refuse repository "merge failed" []
  else
    let upToDate := repository.graph.isAncestor merged current
    match host.merge with
    | .completes tree =>
      runTests (repository.mergeNoFf current merged atHead known tree) (!upToDate) host.tests
    | .conflicts paths stderr =>
      if upToDate then runTests repository false host.tests
      else refuse repository stderr paths
    | .refused stderr => refuse repository stderr []
    | .timesOut none =>
      { repository, performed := false
        result := .error (.timeoutExpired "git merge") }
    | .timesOut (some tree) =>
      { repository := repository.mergeNoFf current merged atHead known tree
        performed := !upToDate, result := .error (.timeoutExpired "git merge") }

/-- The checkout of the target, where `HEAD` is not on it. -/
def checkoutTarget (target : String) (commit : Nat)
    (found : repository.resolve target = some commit) :
    Option (GitRepository Tree) :=
  if repository.abbreviatedHead = some target then some repository
  else if host.checkoutRefused || !repository.indexReadable then none
  else some (repository.checkout target commit found)

theorem graph_checkoutTarget {host : MergeHost Tree} {repository ready : GitRepository Tree}
    {target : String} {commit : Nat}
    {found : repository.resolve target = some commit}
    (done : checkoutTarget host repository target commit found =
      some ready) : ready.graph = repository.graph := by
  unfold checkoutTarget at done
  split at done
  · cases done
    rfl
  · split at done
    · cases done
    · cases done
      unfold GitRepository.checkout
      split <;> rfl

def executeMerge (branchName targetBranch : String) : MergeRun Tree :=
  if !host.hasGit then refuse repository "not a git repository" []
  else
    match branchFound : repository.resolve branchName with
    | none => refuse repository ("branch not found: " ++ branchName) []
    | some merged =>
      match targetFound : repository.resolve targetBranch with
      | none => refuse repository ("target branch not found: " ++ targetBranch) []
      | some commit =>
        -- `status` that fails is taken for a clean tree.
        if repository.indexReadable && !repository.trackedClean then
          refuse repository "working tree is dirty" []
        else
          match ready : checkoutTarget host repository targetBranch commit
            targetFound with
          | none => refuse repository ("failed to checkout " ++ targetBranch) []
          | some checkedOut =>
            match atHead : checkedOut.headCommit with
            | none => refuse checkedOut "merge failed" []
            | some current =>
              mergeAndTest host checkedOut current merged atHead <| by
                rw [graph_checkoutTarget ready]
                exact GitRepository.resolve_known branchFound

end ExecuteMerge

end AccruviaHarness
