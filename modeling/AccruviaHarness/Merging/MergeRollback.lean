import AccruviaHarness.Merging.ExecuteMerge

/-!
# Taking a merge back

A merge commit's first parent is the commit that the target was at, so the
rollback restores the target after a merge.
-/

namespace AccruviaHarness

open Library

namespace GitRepository

variable {Tree : Type} {repository : GitRepository Tree}

/-- `HEAD` is on the branch, which is at the commit. -/
structure OnBranch (repository : GitRepository Tree) (name : String)
    (commit : Nat) : Prop where
  head : repository.head = .branch name
  branch : repository.branches name = some commit

variable {name : String} {commit target other : Nat}

theorem OnBranch.headCommit (onBranch : repository.OnBranch name commit) :
    repository.headCommit = some commit := by
  unfold GitRepository.headCommit
  rw [onBranch.head]
  exact onBranch.branch

theorem OnBranch.ne_head (onBranch : repository.OnBranch name commit) : name ≠ "HEAD" := by
  rintro rfl
  have none := repository.noHeadBranch
  rw [onBranch.branch] at none
  cases none

theorem OnBranch.moveHead (onBranch : repository.OnBranch name commit)
    (known : target < repository.graph.next) :
    (repository.moveHead target known).OnBranch name target := by
  have named := onBranch.ne_head
  unfold GitRepository.moveHead
  split
  next other detached =>
    rw [onBranch.head] at detached
    cases detached
  next current branch =>
    have same : current = name := by
      rw [onBranch.head] at branch
      cases branch
      rfl
    exact ⟨onBranch.head, if_pos ⟨same.symm, named⟩⟩

theorem branches_moveHead_of_detached (detached : repository.head = .detached other)
    (known : target < repository.graph.next) :
    (repository.moveHead target known).branches = repository.branches ∧
      (repository.moveHead target known).head = .detached target := by
  unfold moveHead
  split
  · exact ⟨rfl, rfl⟩
  next current branch =>
    rw [detached] at branch
    cases branch

theorem graph_moveHead (known : target < repository.graph.next) :
    (repository.moveHead target known).graph = repository.graph := by
  unfold moveHead
  split <;> rfl

theorem OnBranch.mergeNoFf {current merged : Nat} (onBranch : repository.OnBranch name current)
    (atHead : repository.headCommit = some current)
    (known : merged < repository.graph.next) (tree : Tree)
    (new : repository.graph.isAncestor merged current = false) :
    ∃ commit, (repository.mergeNoFf current merged atHead known tree).OnBranch name commit ∧
      (repository.mergeNoFf current merged atHead known
        tree).graph.firstParent commit = some current := by
  have stays commit parentsKnown :
      (repository.addCommit commit parentsKnown).OnBranch name current :=
    ⟨onBranch.head, onBranch.branch⟩
  unfold GitRepository.mergeNoFf
  rw [if_neg (by simp [new])]
  refine ⟨repository.graph.next, (stays _ _).moveHead _, ?_⟩
  rw [graph_moveHead]
  unfold CommitGraph.firstParent addCommit
  rw [CommitGraph.parentsOf_add_next]
  rfl

theorem OnBranch.resetToFirstParent {parent : Nat} (onBranch : repository.OnBranch name commit)
    (found : repository.graph.firstParent commit = some parent) :
    repository.resetToFirstParent.OnBranch name parent := by
  have atHead := onBranch.headCommit
  unfold GitRepository.resetToFirstParent
  split
  next missing =>
    rw [atHead] at missing
    cases missing
  next current here =>
    cases atHead.symm.trans here
    split
    next missing =>
      rw [found] at missing
      cases missing
    next other there =>
      cases found.symm.trans there
      exact onBranch.moveHead _

theorem resetToFirstParent_of_root (atHead : repository.headCommit = some commit)
    (root : repository.graph.firstParent commit = none) :
    repository.resetToFirstParent = repository := by
  unfold resetToFirstParent
  split
  · rfl
  next current here =>
    cases atHead.symm.trans here
    split
    · rfl
    next other there =>
      rw [root] at there
      cases there

theorem branches_resetToFirstParent_of_detached (detached : repository.head = .detached other) :
    repository.resetToFirstParent.branches = repository.branches := by
  unfold resetToFirstParent
  split
  · rfl
  · split
    · rfl
    · exact (branches_moveHead_of_detached detached _).1

theorem branches_mergeNoFf_of_detached
    {current merged : Nat} (detached : repository.head = .detached other)
    (atHead : repository.headCommit = some current)
    (known : merged < repository.graph.next) (tree : Tree) :
    (repository.mergeNoFf current merged atHead known tree).branches = repository.branches ∧
      ∃ later, (repository.mergeNoFf current merged atHead known tree).head = .detached later := by
  have stays commit parentsKnown :
      (repository.addCommit commit parentsKnown).head = .detached other :=
    detached
  unfold mergeNoFf
  split
  · exact ⟨rfl, other, detached⟩
  · exact ⟨(branches_moveHead_of_detached (stays _ _) _).1, _,
      (branches_moveHead_of_detached (stays _ _) _).2⟩

end GitRepository

namespace ExecuteMerge

variable {Tree : Type} {host : MergeHost Tree}
  {repository : GitRepository Tree} {branchName targetBranch : String}

/-- The repository is as before apart from `HEAD`, which is on the target if
the target is a branch. -/
structure ReadyToMerge (repository ready : GitRepository Tree)
    (target : String) : Prop where
  graph : ready.graph = repository.graph
  branches : ready.branches = repository.branches
  origin : ready.origin = repository.origin
  indexReadable : ready.indexReadable = repository.indexReadable
  onTarget : ∀ tip, repository.branches target = some tip →
    ready.head = .branch target
  detached : repository.branches target = none → ∃ commit, ready.head = .detached commit

variable {ready : GitRepository Tree}

theorem readyToMerge_of_checkoutTarget {commit : Nat}
    {found : repository.resolve targetBranch = some commit}
    (done : checkoutTarget host repository targetBranch commit found =
      some ready) : ReadyToMerge repository ready targetBranch := by
  unfold checkoutTarget at done
  split at done
  next already =>
    cases done
    unfold GitRepository.abbreviatedHead at already
    refine ⟨rfl, rfl, rfl, rfl, ?onTarget, ?detached⟩
    case onTarget =>
      intro tip onTip
      split at already
      next name onName =>
        obtain ⟨_, _, rfl⟩ := Option.map_eq_some_iff.mp already
        exact onName
      · cases already
        rw [repository.noHeadBranch] at onTip
        cases onTip
    case detached =>
      intro missing
      split at already
      next name onName =>
        obtain ⟨_, here, rfl⟩ := Option.map_eq_some_iff.mp already
        rw [missing] at here
        cases here
      next other isDetached => exact ⟨other, isDetached⟩
  · split at done
    · cases done
    · cases done
      unfold GitRepository.checkout
      by_cases branch : (repository.branches targetBranch).isSome = true
      · rw [if_pos branch]
        refine ⟨rfl, rfl, rfl, rfl, fun _ _ => rfl, ?_⟩
        intro missing
        rw [missing] at branch
        cases branch
      · rw [if_neg branch]
        refine ⟨rfl, rfl, rfl, rfl, ?_, fun _ => ⟨commit, rfl⟩⟩
        intro tip onTip
        rw [onTip] at branch
        exact absurd rfl branch

structure Reaches (host : MergeHost Tree) (repository : GitRepository Tree)
    (branchName targetBranch : String) (ready : GitRepository Tree)
    (current merged : Nat) : Prop where
  hasGit : host.hasGit = true
  branch : repository.resolve branchName = some merged
  clean : (repository.indexReadable && !repository.trackedClean) = false
  checkout : ∃ commit found, checkoutTarget host repository targetBranch commit found = some ready
  atHead : ready.headCommit = some current

variable {current merged : Nat}

theorem Reaches.known (reaches : Reaches host repository branchName targetBranch ready current
      merged) : merged < ready.graph.next := by
  obtain ⟨_, _, done⟩ := reaches.checkout
  rw [graph_checkoutTarget done]
  exact GitRepository.resolve_known reaches.branch

theorem executeMerge_cases (host : MergeHost Tree) (repository : GitRepository Tree)
    (branchName targetBranch : String) :
    (∃ left stderr, executeMerge host repository branchName targetBranch =
          refuse left stderr [] ∧ left.branches = repository.branches) ∨
      ∃ ready current merged,
        ∃ reaches : Reaches host repository branchName targetBranch ready current merged,
          executeMerge host repository branchName targetBranch =
            mergeAndTest host ready current merged reaches.atHead
              reaches.known := by
  unfold executeMerge
  split
  · exact .inl ⟨_, _, rfl, rfl⟩
  next hasGit =>
    have hasGit : host.hasGit = true := by simpa using hasGit
    split
    · exact .inl ⟨_, _, rfl, rfl⟩
    next merged branchFound =>
      split
      · exact .inl ⟨_, _, rfl, rfl⟩
      next commit targetFound =>
        split
        · exact .inl ⟨_, _, rfl, rfl⟩
        next clean =>
          have clean := Bool.eq_false_iff.mpr clean
          split
          · exact .inl ⟨_, _, rfl, rfl⟩
          next ready done =>
            split
            · exact .inl ⟨_, _, rfl, (readyToMerge_of_checkoutTarget done).branches⟩
            next current atHead =>
              exact .inr ⟨ready, current, merged,
                ⟨hasGit, branchFound, clean, ⟨commit, targetFound, done⟩, atHead⟩, rfl⟩

theorem executeMerge_of_reaches
    (reaches : Reaches host repository branchName targetBranch ready current merged) :
    executeMerge host repository branchName targetBranch =
      mergeAndTest host ready current merged reaches.atHead reaches.known := by
  obtain ⟨_, found, done⟩ := reaches.checkout
  have atHead := reaches.atHead
  unfold executeMerge
  rw [if_neg (by simp [reaches.hasGit])]
  split
  next missing =>
    rw [reaches.branch] at missing
    cases missing
  next other branchFound =>
    cases reaches.branch.symm.trans branchFound
    split
    next missing =>
      rw [found] at missing
      cases missing
    next other targetFound =>
      cases found.symm.trans targetFound
      rw [if_neg (by simp [reaches.clean])]
      split
      next refused =>
        rw [done] at refused
        cases refused
      next other again =>
        cases done.symm.trans again
        split
        next missing =>
          rw [atHead] at missing
          cases missing
        next other here =>
          cases atHead.symm.trans here
          rfl

end ExecuteMerge

def TestAnswer.RollsBack : TestAnswer → Prop
  | .passed => False
  | .failed _ => True
  | .timedOut _ => True
  | .notFound _ => True
  | .raised _ => False

def MergeAnswer.Ends {Tree : Type} : MergeAnswer Tree → Prop
  | .completes _ => True
  | .conflicts _ _ => True
  | .refused _ => False
  | .timesOut _ => False

def MergeAnswer.Commits {Tree : Type} : MergeAnswer Tree → Prop
  | .completes _ => True
  | .conflicts _ _ => False
  | .refused _ => False
  | .timesOut finished => finished.isSome = true

namespace ExecuteMerge

variable {Tree : Type} (repository : GitRepository Tree)

def KeepsTarget (target : String) (run : MergeRun Tree) : Prop :=
  ∀ result, run.result = .ok result → result.merged = false →
    run.repository.branches target = repository.branches target

/-- `origin` has a commit of the target that the local branch has not. -/
def Behind (target : String) : Prop :=
  ∃ tip ahead, repository.branches target = some tip ∧
    repository.origin target = some ahead ∧ ¬ repository.graph.Ancestor ahead tip

def RefusesStale (target : String) (run : MergeRun Tree) : Prop :=
  repository.trackedClean = false ∨ Behind repository target →
    run.performed = false

section

variable {host : MergeHost Tree} {ready : GitRepository Tree}
  {target : String} {tip merged : Nat}
  (atHead : ready.headCommit = some tip) (known : merged < ready.graph.next)

theorem performed_runTests (performed : Bool) (answer : TestAnswer) :
    (runTests ready performed answer).performed = performed := by
  cases answer <;> rfl

theorem performed_mergeAndTest_iff :
    (mergeAndTest host ready tip merged atHead known).performed = true ↔
      ready.indexReadable = true ∧
        ready.graph.isAncestor merged tip = false ∧ host.merge.Commits := by
  unfold mergeAndTest
  cases readable : ready.indexReadable with
  | false => simp [refuse]
  | true =>
    cases upToDate : ready.graph.isAncestor merged tip with
    | true =>
      cases host.merge with
      | completes _ => simp [performed_runTests]
      | conflicts _ _ => simp [performed_runTests]
      | refused _ => simp [refuse]
      | timesOut finished => cases finished <;> simp
    | false =>
      cases host.merge with
      | completes _ => simp [performed_runTests, MergeAnswer.Commits]
      | conflicts _ _ => simp [refuse, MergeAnswer.Commits]
      | refused _ => simp [refuse, MergeAnswer.Commits]
      | timesOut finished => cases finished <;> simp [MergeAnswer.Commits]

variable {left : GitRepository Tree}

theorem keepsTarget_refuse {stderr : String} {conflicts : List String}
    (same : left.branches target = ready.branches target) :
    KeepsTarget ready target (refuse left stderr conflicts) :=
  fun _ _ _ => same

theorem keepsTarget_raised {performed : Bool} {error : PyError} :
    KeepsTarget ready target ⟨left, performed, .error error⟩ :=
  fun _ raised _ => nomatch raised

theorem keepsTarget_runTests_iff {performed : Bool} {answer : TestAnswer} :
    KeepsTarget ready target (runTests left performed answer) ↔ (answer.RollsBack →
        left.resetToFirstParent.branches target = ready.branches target) := by
  have taken : ∀ message, KeepsTarget ready target ⟨left.resetToFirstParent, performed, .ok
        { merged := false, stderr := "full test suite failed after merge: " ++ message }⟩ ↔
        left.resetToFirstParent.branches target = ready.branches target := by
    intro message
    exact ⟨fun keeps => keeps _ rfl rfl, fun same _ _ _ => same⟩
  cases answer with
  | passed =>
    refine iff_of_true ?_ False.elim
    rintro _ ⟨⟩ unmerged
    cases unmerged
  | failed summary => exact (taken summary).trans ⟨fun same _ => same, fun same => same trivial⟩
  | timedOut message => exact (taken message).trans ⟨fun same _ => same, fun same => same trivial⟩
  | notFound message => exact (taken message).trans ⟨fun same _ => same, fun same => same trivial⟩
  | raised _ => exact iff_of_true keepsTarget_raised False.elim

theorem resetToFirstParent_keeps_iff (onTip : ready.OnBranch target tip) :
    ready.resetToFirstParent.branches target = ready.branches target ↔
      ready.graph.firstParent tip = none := by
  cases found : ready.graph.firstParent tip with
  | none =>
    refine iff_of_true ?_ rfl
    rw [GitRepository.resetToFirstParent_of_root onTip.headCommit found]
  | some parent =>
    refine iff_of_false ?_ nofun
    have back := onTip.resetToFirstParent found
    have earlier : parent < tip := CommitGraph.parentsOf_lt (List.mem_of_mem_head? found)
    rw [back.branch, onTip.branch, Option.some.injEq]
    exact Nat.ne_of_lt earlier

theorem keepsTarget_mergeAndTest_iff (onTip : ready.OnBranch target tip) :
    KeepsTarget ready target (mergeAndTest host ready tip merged atHead known) ↔
      (ready.indexReadable = true → host.merge.Ends →
        ready.graph.isAncestor merged tip = true → host.tests.RollsBack →
          ready.graph.firstParent tip = none) := by
  unfold mergeAndTest
  cases readable : ready.indexReadable with
  | false => exact iff_of_true (keepsTarget_refuse rfl) nofun
  | true =>
    rw [if_neg (by decide), forall_prop_of_true rfl]
    cases upToDate : ready.graph.isAncestor merged tip with
    | true =>
      have nothing tree : ready.mergeNoFf tip merged atHead known tree =
          ready := if_pos upToDate
      have tested performed :
          KeepsTarget ready target (runTests ready performed host.tests) ↔
            (host.tests.RollsBack → ready.graph.firstParent tip = none) := by
        rw [keepsTarget_runTests_iff, resetToFirstParent_keeps_iff onTip]
      cases host.merge with
      | completes _ =>
        dsimp only
        rw [nothing]
        exact (tested _).trans ⟨fun same _ _ => same, fun same => same trivial rfl⟩
      | conflicts _ _ =>
        dsimp only
        rw [if_pos rfl]
        exact (tested _).trans ⟨fun same _ _ => same, fun same => same trivial rfl⟩
      | refused _ => exact iff_of_true (keepsTarget_refuse rfl) False.elim
      | timesOut finished =>
        refine iff_of_true ?_ False.elim
        cases finished <;> exact keepsTarget_raised
    | false =>
      refine iff_of_true ?_ fun _ => nofun
      cases host.merge with
      | completes tree =>
        rw [keepsTarget_runTests_iff]
        intro _
        obtain ⟨_, onCommit, parent⟩ := onTip.mergeNoFf atHead known tree upToDate
        rw [(onCommit.resetToFirstParent parent).branch, onTip.branch]
      | conflicts _ _ =>
        dsimp only
        rw [if_neg (by decide)]
        exact keepsTarget_refuse rfl
      | refused _ => exact keepsTarget_refuse rfl
      | timesOut finished => cases finished <;> exact keepsTarget_raised

theorem keepsTarget_mergeAndTest_of_detached
    {other : Nat} (detached : ready.head = .detached other) :
    KeepsTarget ready target (mergeAndTest host ready tip merged atHead known) := by
  have kept := GitRepository.branches_resetToFirstParent_of_detached detached
  unfold mergeAndTest
  cases ready.indexReadable with
  | false => exact keepsTarget_refuse rfl
  | true =>
    rw [if_neg (by decide)]
    cases host.merge with
    | completes tree =>
      obtain ⟨same, _, still⟩ :=
        GitRepository.branches_mergeNoFf_of_detached detached atHead known tree
      have back := GitRepository.branches_resetToFirstParent_of_detached still
      refine keepsTarget_runTests_iff.mpr fun _ => ?_
      rw [back, same]
    | conflicts _ _ =>
      by_cases upToDate : ready.graph.isAncestor merged tip = true
      · dsimp only
        rw [if_pos upToDate]
        refine keepsTarget_runTests_iff.mpr fun _ => ?_
        rw [kept]
      · dsimp only
        rw [if_neg upToDate]
        exact keepsTarget_refuse rfl
    | refused _ => exact keepsTarget_refuse rfl
    | timesOut finished => cases finished <;> exact keepsTarget_raised

end

/-- The merge command is given, with `HEAD` on the target's tip. -/
structure TriesMerge {Tree : Type} (host : MergeHost Tree)
    (repository : GitRepository Tree) (branchName targetBranch : String)
    (merged tip : Nat) : Prop where
  hasGit : host.hasGit = true
  branch : repository.resolve branchName = some merged
  tip : repository.branches targetBranch = some tip
  readable : repository.indexReadable = true
  clean : repository.trackedClean = true
  checkout : repository.head = .branch targetBranch ∨
    host.checkoutRefused = false

variable (host : MergeHost Tree)

def LosesCommit (repository : GitRepository Tree) (branchName targetBranch : String) : Prop :=
  ∃ merged tip, TriesMerge host repository branchName targetBranch merged
      tip ∧ repository.graph.Ancestor merged tip ∧ host.merge.Ends ∧
    host.tests.RollsBack ∧ repository.graph.firstParent tip ≠ none

def MergesBehind (repository : GitRepository Tree) (branchName targetBranch : String) : Prop :=
  ∃ merged tip, TriesMerge host repository branchName targetBranch merged
      tip ∧ ¬ repository.graph.Ancestor merged tip ∧ host.merge.Commits ∧
    Behind repository targetBranch

section

variable {Tree : Type} {host : MergeHost Tree}
  {repository : GitRepository Tree} {branchName targetBranch : String}
  {merged tip : Nat}

theorem reaches_of_triesMerge
    (tries : TriesMerge host repository branchName targetBranch merged tip) :
    ∃ ready, ReadyToMerge repository ready targetBranch ∧ ready.OnBranch targetBranch tip ∧
        Reaches host repository branchName targetBranch ready tip merged := by
  have resolved : ∃ commit, repository.resolve targetBranch = some commit := by
    unfold GitRepository.resolve
    rw [tries.tip]
    cases repository.tags targetBranch with
    | none => exact ⟨tip, rfl⟩
    | some commit => exact ⟨commit, rfl⟩
  obtain ⟨commit, found⟩ := resolved
  have done : ∃ ready, checkoutTarget host repository targetBranch commit
      found = some ready := by
    unfold checkoutTarget
    rcases tries.checkout with already | allowed
    · have onTarget : repository.abbreviatedHead = some targetBranch := by
        unfold GitRepository.abbreviatedHead
        rw [already]
        dsimp only
        rw [tries.tip]
        rfl
      exact ⟨repository, if_pos onTarget⟩
    · split
      · exact ⟨repository, rfl⟩
      · rw [if_neg (by simp [allowed, tries.readable])]
        exact ⟨_, rfl⟩
  obtain ⟨ready, done⟩ := done
  have prepared := readyToMerge_of_checkoutTarget done
  have onTip : ready.OnBranch targetBranch tip :=
    ⟨prepared.onTarget tip tries.tip, prepared.branches ▸ tries.tip⟩
  exact ⟨ready, prepared, onTip, tries.hasGit, tries.branch,
    by simp [tries.clean], ⟨commit, found, done⟩, onTip.headCommit⟩

variable {ready : GitRepository Tree}

theorem triesMerge_of_reaches {current : Nat}
    (reaches : Reaches host repository branchName targetBranch ready current merged)
    (onTarget : repository.branches targetBranch = some tip)
    (readable : repository.indexReadable = true) :
    TriesMerge host repository branchName targetBranch merged tip := by
  have clean : repository.trackedClean = true := by
    have checked := reaches.clean
    rw [readable] at checked
    simpa using checked
  refine ⟨reaches.hasGit, reaches.branch, onTarget, readable, clean, ?_⟩
  obtain ⟨commit, found, done⟩ := reaches.checkout
  unfold checkoutTarget at done
  split at done
  next already =>
    have stays : checkoutTarget host repository targetBranch commit found =
        some repository := if_pos already
    have prepared := readyToMerge_of_checkoutTarget stays
    exact .inl (prepared.onTarget tip onTarget)
  · split at done
    · cases done
    next allowed =>
      refine .inr ?_
      cases refused : host.checkoutRefused with
      | false => rfl
      | true => simp [refused] at allowed

theorem performed_of_dirty {current : Nat}
    (reaches : Reaches host repository branchName targetBranch ready current
      merged) (dirty : repository.trackedClean = false) :
    (mergeAndTest host ready current merged reaches.atHead reaches.known).performed = false := by
  have unreadable : repository.indexReadable = false := by
    have checked := reaches.clean
    rw [dirty] at checked
    simpa using checked
  obtain ⟨_, _, done⟩ := reaches.checkout
  have prepared := readyToMerge_of_checkoutTarget done
  by_contra performed
  obtain ⟨readable, _, _⟩ :=
    (performed_mergeAndTest_iff reaches.atHead reaches.known).mp (by simpa using performed)
  rw [prepared.indexReadable, unreadable] at readable
  cases readable

theorem keepsTarget_congr {run : MergeRun Tree} (same : ready.branches = repository.branches) :
    KeepsTarget ready targetBranch run ↔ KeepsTarget repository targetBranch run := by
  unfold KeepsTarget
  rw [same]

/-- A call is all or nothing on the target, and refuses a stale target,
exactly when it does not take back a commit of the target's own and does not
merge into a target that is behind. -/
theorem executeMerge_atomic_iff (host : MergeHost Tree) (repository : GitRepository Tree)
    (branchName targetBranch : String) :
    KeepsTarget repository targetBranch (executeMerge host repository branchName targetBranch) ∧
      RefusesStale repository targetBranch (executeMerge host repository branchName targetBranch) ↔
    ¬ LosesCommit host repository branchName targetBranch ∧
      ¬ MergesBehind host repository branchName targetBranch := by
  constructor
  · rintro ⟨keeps, refuses⟩
    constructor
    · rintro ⟨merged, tip, tries, ancestor, ends, rollsBack, parent⟩
      obtain ⟨ready, prepared, onTip, reaches⟩ := reaches_of_triesMerge tries
      rw [executeMerge_of_reaches reaches, ← keepsTarget_congr prepared.branches,
        keepsTarget_mergeAndTest_iff reaches.atHead reaches.known onTip,
        prepared.graph, prepared.indexReadable] at keeps
      exact parent (keeps tries.readable ends (CommitGraph.isAncestor_iff.mpr ancestor) rollsBack)
    · rintro ⟨merged, tip, tries, new, commits, behind⟩
      obtain ⟨ready, prepared, onTip, reaches⟩ := reaches_of_triesMerge tries
      have unperformed := refuses (.inr behind)
      have performed := (performed_mergeAndTest_iff reaches.atHead
        reaches.known).mpr ⟨prepared.indexReadable ▸ tries.readable,
          prepared.graph ▸ Bool.eq_false_iff.mpr fun found =>
            new (CommitGraph.isAncestor_iff.mp found), commits⟩
      rw [executeMerge_of_reaches reaches, performed] at unperformed
      cases unperformed
  · rintro ⟨losesNone, mergesNone⟩
    rcases executeMerge_cases host repository branchName targetBranch with
      ⟨_, _, refused, same⟩ | ⟨ready, current, merged, reaches, tried⟩
    · rw [refused]
      exact ⟨fun _ _ _ => congrFun same targetBranch, fun _ => rfl⟩
    · obtain ⟨_, _, done⟩ := reaches.checkout
      have prepared := readyToMerge_of_checkoutTarget done
      rw [tried, ← keepsTarget_congr prepared.branches]
      cases onTarget : repository.branches targetBranch with
      | none =>
        obtain ⟨_, detached⟩ := prepared.detached onTarget
        refine ⟨keepsTarget_mergeAndTest_of_detached reaches.atHead reaches.known detached, ?_⟩
        rintro (dirty | ⟨tip, _, missing, _⟩)
        · exact performed_of_dirty reaches dirty
        · rw [onTarget] at missing
          cases missing
      | some tip =>
        have onTip : ready.OnBranch targetBranch tip :=
          ⟨prepared.onTarget tip onTarget, prepared.branches ▸ onTarget⟩
        obtain rfl : current = tip := Option.some.inj (reaches.atHead.symm.trans onTip.headCommit)
        constructor
        · rw [keepsTarget_mergeAndTest_iff reaches.atHead reaches.known
            onTip, prepared.graph, prepared.indexReadable]
          intro readable ends upToDate rollsBack
          by_contra parent
          exact losesNone ⟨merged, current, triesMerge_of_reaches reaches onTarget readable,
            CommitGraph.isAncestor_iff.mp upToDate, ends, rollsBack, parent⟩
        · rintro (dirty | behind)
          · exact performed_of_dirty reaches dirty
          · by_contra performed
            obtain ⟨readable, new, commits⟩ :=
              (performed_mergeAndTest_iff reaches.atHead reaches.known).mp
                (by simpa using performed)
            rw [prepared.indexReadable] at readable
            rw [prepared.graph] at new
            refine mergesNone ⟨merged, current,
              triesMerge_of_reaches reaches onTarget readable, ?_, commits,
              behind⟩
            intro ancestor
            rw [CommitGraph.isAncestor_iff.mpr ancestor] at new
            cases new

end

section

/-- Two commits of the target, one more of `origin`, and one of a branch. -/
def forkedGraph : CommitGraph Unit where
  commits := [⟨[], ()⟩, ⟨[0], ()⟩, ⟨[1], ()⟩, ⟨[1], ()⟩]
  parentsEarlier := by
    intro id commit found
    have bound := (List.getElem?_eq_some_iff.mp found).1
    match id with
    | 0 | 1 | 2 | 3 =>
      cases found
      decide

def forkedRepository : GitRepository Unit where
  graph := forkedGraph
  branches := fun name =>
    if name = "main" then some 1
    else if name = "merged" then some 0
    else if name = "feature" then some 3
    else none
  tags := fun _ => none
  origin := fun name => if name = "main" then some 2 else none
  head := .branch "main"
  indexReadable := true
  trackedClean := true
  branchKnown := by
    intro name commit found
    repeat' split at found
    all_goals cases found
    all_goals decide
  tagKnown := nofun
  headKnown := nofun
  noHeadBranch := by decide

def hostWith (tests : TestAnswer) : MergeHost Unit where
  hasGit := true
  checkoutRefused := false
  merge := .completes ()
  tests

/-- The target loses its own commit when the tests fail after a merge of
nothing, and a commit is merged into a target that is behind. -/
theorem merged_branch_loses_target_commit :
    ¬ KeepsTarget forkedRepository "main"
        (executeMerge (hostWith (.failed "1 failed")) forkedRepository "merged" "main") ∧
      ¬ RefusesStale forkedRepository "main"
        (executeMerge (hostWith .passed) forkedRepository "feature" "main") := by
  constructor
  · intro keeps
    have lost : (executeMerge (hostWith (.failed "1 failed"))
        forkedRepository "merged" "main").repository.branches "main" = some 0 := by
      decide +kernel
    have kept := keeps _ rfl rfl
    rw [lost] at kept
    exact absurd kept (by decide)
  · intro refuses
    have performed : (executeMerge (hostWith .passed) forkedRepository
        "feature" "main").performed = true := by
      decide +kernel
    have behind : Behind forkedRepository "main" := by
      refine ⟨1, 2, rfl, rfl, ?_⟩
      intro ancestor
      have found := CommitGraph.isAncestor_iff.mpr ancestor
      exact absurd found (by decide)
    rw [refuses (.inr behind)] at performed
    cases performed

end

end ExecuteMerge

end AccruviaHarness
