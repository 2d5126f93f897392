import AccruviaHarness.Promotion.RepositoryApply

/-!
# What can stop a promotion

The obstacles of `apply`, in the order in which it meets them: those up to its
push, where nothing has reached `origin`, and those after it.
-/

namespace AccruviaHarness

open Library List

namespace RepositoryPromotionService

variable {Tree : Type} (host : ApplyHost)

/-- What stops a push: the command itself, or `origin` refuses the commit. -/
def pushObstacles (step : ApplyStep) (history : PushedHistory Tree)
    (branch : String) : List (Option PyError) :=
  [host.failure step,
    if history.accepts branch then none
    else some (.calledProcessError "git push")]

def verifyObstacles (step : ApplyStep) (listed : Option Nat)
    (baseBranch : String) (expected : Nat) : List (Option PyError) :=
  [host.failure step,
    if listed = some expected then none
    else some (verificationFailure host baseBranch expected listed)]

/-- What stops `git add -A`, `git commit` and the checks before the push. -/
def commitObstacles : List (Option PyError) :=
  [host.failure .add, host.failure .commit, host.failure .revParse, host.failure .prePushChecks]

/-- What stops `apply` before the workspace is committed. -/
def workspaceObstacles : List (Option PyError) :=
  [host.failure .branchName,
    if pyStrip host.branchName ≠ "" then none else some missingBranch,
    host.failure .status,
    if host.hasChanges = true then none else some missingChanges]

variable (project : Project)

/-- The branch of `origin` that a promotion pushes to. -/
def publishedBranch (branch : String) : String :=
  if project.promotionMode = .directMain then project.baseBranch else branch

/-- What stops `apply` before its push has succeeded. -/
def obstaclesToPush (targetBranch : Option String)
    (history : PushedHistory Tree) : List (Option PyError) :=
  workspaceObstacles host ++ commitObstacles host ++ pushObstacles host .push history.commitStaged
      (publishedBranch project (pushBranch host targetBranch))

def pushRevertObstacles (history : PushedHistory Tree) : List (Option PyError) :=
  [host.failure .revert] ++
    ([if history.mergeHeads = [] then none
      else some (.calledProcessError "git revert")] ++
        ([host.failure .revParseRollback] ++ [host.failure .pushRollback]))

def directMainObstacles (baseBranch : String)
    (history : PushedHistory Tree) : List (Option PyError) :=
  verifyObstacles host .listRemote host.listedCommit baseBranch history.graph.next ++
    if host.failure .postPushChecks = none then []
    else
      pushRevertObstacles host history ++
        (verifyObstacles host .listRollback host.listedRollback baseBranch
            (history.graph.next + 1) ++
          [some (rolledBackFailure host history.graph.next (history.graph.next + 1))])

structure RollsBack (history : PushedHistory Tree) : Prop where
  listed : host.failure .listRemote = none
  verified : host.listedCommit = some history.graph.next
  checksFailed : host.failure .postPushChecks ≠ none
  reverted : host.failure .revert = none
  single : history.mergeHeads = []
  named : host.failure .revParseRollback = none
  pushed : host.failure .pushRollback = none

def reviewObstacles (openReview : Option Bool) : List (Option PyError) :=
  if openReview.getD (project.promotionMode = .branchAndPr) then
    [if ¬ (project.repoName.getD "" = "" ∨ project.repoProvider = none) then
        none
      else some missingProvider,
      host.failure .openReview]
  else []

/-- What stops `apply` after its push has succeeded. -/
def obstaclesAfterPush (openReview : Option Bool)
    (history : PushedHistory Tree) : List (Option PyError) :=
  if project.promotionMode = .directMain then directMainObstacles host project.baseBranch history
  else reviewObstacles host project openReview

structure PushedChanges (branch : String) (history left : PushedHistory Tree) :
    Prop where
  pushed : history.pushes ++ [(branch, history.graph.next)] <+: left.pushes
  committed : left.graph.find history.graph.next =
    some { parents := history.head :: history.mergeHeads, tree := history.staged }

/-- What a promotion leaves at the base branch after its push: the tree of the
commit that it has built on, where it rolls back, and its own tree
otherwise. -/
structure Landed (baseBranch : String) (history left : PushedHistory Tree) :
    Prop where
  changes : PushedChanges baseBranch history left
  undone : RollsBack host history →
    left.remoteTree baseBranch = history.graph.treeAt history.head
  landed : ¬ RollsBack host history →
    left.remoteTree baseBranch = some history.staged

section

variable {host} {history : PushedHistory Tree} {stays : PushedHistory Tree → Prop}

variable {step : ApplyStep}

theorem takeStep_of_passes (passes : host.failure step = none) :
    (takeStep host step : GitProgram Tree Unit) = pure () := by
  unfold takeStep
  rw [passes]

theorem takeStep_of_fails {error : PyError} (fails : host.failure step = some error) :
    (takeStep host step : GitProgram Tree Unit) = throw error := by
  unfold takeStep
  rw [fails]

theorem runsOnOwn_takeStep (step : ApplyStep) :
    RunsOnOwn (takeStep host step : GitProgram Tree Unit) (host.failure step) := by
  constructor
  · intro error fails history
    rw [takeStep_of_fails fails]
    rfl
  · intro passes history
    rw [takeStep_of_passes passes]
    rfl

theorem stopsAt_takeStep (kept : stays history) :
    StopsAt (takeStep host step) history [host.failure step] stays ()
      history := by
  have own : RunsOnOwn (takeStep host step : GitProgram Tree Unit) _ := runsOnOwn_takeStep step
  exact StopsAt.step kept (fun error found => own.fails error found history)
    fun found => own.ends found history

theorem stopsAt_pushHead {branch : String} (kept : stays history) :
    StopsAt (pushHead host step branch) history (pushObstacles host step history branch) stays ()
      (history.push branch) := by
  unfold pushHead
  refine (stopsAt_takeStep kept).bind fun _ => ?_
  exact StopsAt.read (StopsAt.guarded kept fun _ => rfl)

variable {baseBranch : String} {pushed : PushedHistory Tree}

theorem stopsAt_verifyRemoteCommit {listed : Option Nat} {expected : Nat} (kept : stays history) :
    StopsAt (verifyRemoteCommit host step listed baseBranch expected) history
      (verifyObstacles host step listed baseBranch expected) stays expected
      history := by
  unfold verifyRemoteCommit
  exact (stopsAt_takeStep kept).bind fun _ => StopsAt.guarded kept fun _ => rfl

/-- Up to the push the branches of `origin` stay, and so do the pushes. -/
structure Unpushed (history left : PushedHistory Tree) : Prop where
  pushes : left.pushes = history.pushes
  remoteTree : ∀ branch, left.remoteTree branch = history.remoteTree branch

theorem unpushed_commitStaged : Unpushed history history.commitStaged :=
  ⟨rfl, fun branch => PushedHistory.remoteTree_record branch⟩

theorem unpushed_self : Unpushed history history := ⟨rfl, fun _ => rfl⟩

theorem Unpushed.trans {middle left : PushedHistory Tree} (first : Unpushed history middle)
    (second : Unpushed middle left) : Unpushed history left :=
  ⟨second.pushes.trans first.pushes, fun branch =>
    (second.remoteTree branch).trans (first.remoteTree branch)⟩

theorem stopsAt_commitStaged :
    StopsAt (commitStaged host) history (commitObstacles host)
      (Unpushed history) history.commitStaged.head history.commitStaged := by
  unfold commitStaged
  refine (stopsAt_takeStep unpushed_self).bind fun _ => ?_
  refine (stopsAt_takeStep unpushed_self).bind fun _ => ?_
  refine StopsAt.modified ?_
  refine (stopsAt_takeStep unpushed_commitStaged).bind fun _ => ?_
  refine StopsAt.read ?_
  exact (stopsAt_takeStep unpushed_commitStaged).bind fun _ => StopsAt.returns rfl

theorem revertCommit_apply (pushed : PushedHistory Tree) :
    (revertCommit : GitProgram Tree Unit) pushed =
      match pushed.revertHead with
      | some reverted => .ok () reverted
      | none => .error (.calledProcessError "git revert") pushed := by
  show EStateM.run (match pushed.revertHead with
    | some reverted => set reverted
    | none => throw (.calledProcessError "git revert") :
      GitProgram Tree Unit) pushed = _
  cases pushed.revertHead <;> rfl

theorem stopsAt_revertCommit (same : PushedHistory.SameCommits history.commitStaged pushed)
    (kept : stays pushed) :
    ∃ reverted, StopsAt (revertCommit : GitProgram Tree Unit) pushed
        [if history.mergeHeads = [] then none
          else some (.calledProcessError "git revert")] stays () reverted ∧
      (history.mergeHeads = [] → PushedHistory.TakesBack history pushed reverted) := by
  have run := revertCommit_apply pushed
  by_cases single : history.mergeHeads = []
  · obtain ⟨reverted, found, takesBack⟩ := PushedHistory.revertHead_of_single same single
    rw [found] at run
    rw [if_pos single]
    exact ⟨reverted, StopsAt.step kept nofun fun _ => run, fun _ => takesBack⟩
  · rw [PushedHistory.revertHead_of_merge same single] at run
    rw [if_neg single]
    refine ⟨pushed, StopsAt.step kept ?_ nofun, fun own => absurd own single⟩
    rintro _ ⟨⟩
    exact run

theorem pushedChanges_push (branch : String) (history : PushedHistory Tree) :
    PushedChanges branch history (history.commitStaged.push branch) :=
  ⟨prefix_rfl, PushedHistory.find_commitStaged⟩

structure AtBase (baseBranch : String) (history pushed : PushedHistory Tree) :
    Prop where
  same : PushedHistory.SameCommits history.commitStaged pushed
  atBase : pushed.remote baseBranch = some pushed.head
  tree : pushed.remoteTree baseBranch = some history.staged
  changes : PushedChanges baseBranch history pushed

theorem atBase_push (baseBranch : String) (history : PushedHistory Tree) :
    AtBase baseBranch history (history.commitStaged.push baseBranch) where
  same := ⟨rfl, rfl⟩
  atBase := if_pos rfl
  tree := (PushedHistory.remoteTree_push baseBranch).trans
    PushedHistory.treeAt_head_commitStaged
  changes := pushedChanges_push baseBranch history

theorem stopsAt_pushRevert (atBase : AtBase baseBranch history pushed) (kept : stays pushed)
    (keptReverted : ∀ reverted, PushedHistory.TakesBack history pushed reverted → stays reverted) :
    ∃ left, StopsAt (pushRevert host baseBranch) pushed
        (pushRevertObstacles host history) stays (history.graph.next + 1)
        left ∧
      (history.mergeHeads = [] → ∃ reverted, PushedHistory.TakesBack history pushed reverted ∧
          left = reverted.push baseBranch) := by
  obtain ⟨reverted, reverts, takesBack⟩ := stopsAt_revertCommit atBase.same kept
  refine ⟨reverted.push baseBranch, ?_, fun single => ⟨reverted, takesBack single, rfl⟩⟩
  unfold pushRevert
  refine (stopsAt_takeStep kept).bind fun _ => ?_
  refine reverts.bind fun clear => ?_
  have single : history.mergeHeads = [] := by
    by_contra merging
    rw [if_neg merging] at clear
    cases clear
  have takesBack := takesBack single
  have keptReverted := keptReverted reverted takesBack
  refine (stopsAt_takeStep keptReverted).bind fun _ => ?_
  refine StopsAt.read ?_
  have accepted : reverted.accepts baseBranch = true := by
    have here : reverted.remote baseBranch = some pushed.head := by
      rw [takesBack.remote]
      exact atBase.atBase
    refine PushedHistory.accepts_of_parent here ?_
    rw [takesBack.parents]
    exact mem_singleton_self _
  have pushes : StopsAt (pushHead host .pushRollback baseBranch) reverted
      [host.failure .pushRollback] stays () (reverted.push baseBranch) := by
    refine (stopsAt_pushHead keptReverted).relist ?_
    unfold pushObstacles
    rw [if_pos accepted]
    simp [firstObstacle_cons]
  rw [takesBack.head, ← append_nil [host.failure .pushRollback]]
  exact pushes.bind fun _ => StopsAt.returns rfl

section

variable {pushed : PushedHistory Tree} {baseBranch : String}

theorem AtBase.landed (atBase : AtBase baseBranch history pushed)
    (stays : ¬ RollsBack host history) :
    Landed host baseBranch history pushed :=
  ⟨atBase.changes, fun rolls => absurd rolls stays, fun _ => atBase.tree⟩

theorem AtBase.changes_takesBack (atBase : AtBase baseBranch history pushed)
    {reverted : PushedHistory Tree}
    (takesBack : PushedHistory.TakesBack history pushed reverted) :
    PushedChanges baseBranch history reverted := by
  have known : history.graph.next < pushed.graph.next := by
    rw [atBase.same.graph]
    exact history.commitStaged.headKnown
  refine ⟨takesBack.pushes ▸ atBase.changes.pushed, ?_⟩
  exact (takesBack.find _ known).trans atBase.changes.committed

theorem rollsBack_iff_of_checksFailed (listed : host.failure .listRemote = none)
    (verified : host.listedCommit = some history.graph.next)
    (checksFailed : host.failure .postPushChecks ≠ none) :
    RollsBack host history ↔ firstObstacle (pushRevertObstacles host history) = none := by
  simp only [firstObstacle_eq_none_iff, pushRevertObstacles,
    singleton_append, forall_mem_cons, not_mem_nil,
    IsEmpty.forall_iff, implies_true, and_true, ite_eq_left_iff,
    reduceCtorEq, imp_false, not_not]
  constructor
  · intro rolls
    exact ⟨rolls.reverted, rolls.single, rolls.named, rolls.pushed⟩
  · rintro ⟨reverted, single, named, pushed⟩
    exact ⟨listed, verified, checksFailed, reverted, single, named, pushed⟩

theorem stopsAt_rollbackDirectMain (atBase : AtBase baseBranch history pushed)
    (rolls : RollsBack host history ↔ firstObstacle (pushRevertObstacles host history) = none) :
    ∃ left, StopsAt (rollbackDirectMain host baseBranch) pushed (pushRevertObstacles host history ++
        verifyObstacles host .listRollback host.listedRollback baseBranch
          (history.graph.next + 1)) (Landed host baseBranch history)
      (history.graph.next + 1) left ∧
      (firstObstacle (pushRevertObstacles host history) = none →
        Landed host baseBranch history left) := by
  unfold rollbackDirectMain
  by_cases clear : firstObstacle (pushRevertObstacles host history) = none
  · have rolls := rolls.mpr clear
    obtain ⟨left, pushes, pushedBack⟩ : ∃ left, StopsAt (pushRevert host baseBranch) pushed
            (pushRevertObstacles host history) (fun _ => True)
            (history.graph.next + 1) left ∧ _ :=
      stopsAt_pushRevert atBase trivial fun _ _ => trivial
    obtain ⟨reverted, takesBack, rfl⟩ := pushedBack rolls.single
    have landed : Landed host baseBranch history (reverted.push baseBranch) := by
      have changes := atBase.changes_takesBack takesBack
      refine ⟨⟨?_, changes.committed⟩, fun _ => ?_, fun stays => absurd rolls stays⟩
      · exact changes.pushed.trans (prefix_append _ _)
      · exact (PushedHistory.remoteTree_push baseBranch).trans takesBack.tree
    refine ⟨reverted.push baseBranch, (pushes.unstopped clear).bind fun _ => ?_, fun _ => landed⟩
    rw [← append_nil (verifyObstacles host _ _ _ _)]
    exact (stopsAt_verifyRemoteCommit landed).bind fun _ => StopsAt.returns rfl
  · have stays : ¬ RollsBack host history := fun own => clear (rolls.mp own)
    have keptReverted reverted (takesBack : PushedHistory.TakesBack history pushed reverted) :
        Landed host baseBranch history reverted :=
      ⟨atBase.changes_takesBack takesBack, fun own => absurd own stays,
        fun _ => (takesBack.remoteTree baseBranch).trans atBase.tree⟩
    obtain ⟨left, pushes, _⟩ : ∃ left, StopsAt (pushRevert host baseBranch) pushed
            (pushRevertObstacles host history)
            (Landed host baseBranch history) (history.graph.next + 1) left ∧
          _ := stopsAt_pushRevert atBase (atBase.landed stays) keptReverted
    exact ⟨pushed, pushes.bind fun found => absurd found clear, fun found => absurd found clear⟩

theorem stopsAt_checkDirectMain (atBase : AtBase baseBranch history pushed) :
    StopsAt (checkDirectMain host baseBranch history.graph.next) pushed
      (directMainObstacles host baseBranch history)
      (Landed host baseBranch history) history.graph.next pushed := by
  unfold checkDirectMain directMainObstacles
  by_cases clear : firstObstacle (verifyObstacles host .listRemote
      host.listedCommit baseBranch history.graph.next) = none
  · have verifies : StopsAt (verifyRemoteCommit host .listRemote
        host.listedCommit baseBranch history.graph.next) pushed
          (verifyObstacles host .listRemote host.listedCommit baseBranch
            history.graph.next) (fun _ => True) history.graph.next pushed :=
      stopsAt_verifyRemoteCommit trivial
    refine (verifies.unstopped clear).bind fun _ => ?_
    have listed : host.failure .listRemote = none :=
      firstObstacle_eq_none_iff.mp clear _ (by simp [verifyObstacles])
    have verified : host.listedCommit = some history.graph.next := by
      by_contra other
      have refused := firstObstacle_eq_none_iff.mp clear
        (some (verificationFailure host baseBranch history.graph.next
          host.listedCommit)) (by simp [verifyObstacles, other])
      cases refused
    cases checked : host.failure .postPushChecks with
    | none =>
      have passed : takeStep host .postPushChecks pushed = .ok () pushed := by
        rw [takeStep_of_passes checked]
        rfl
      rw [if_pos rfl, ← append_nil []]
      exact (StopsAt.uncaught passed).bind fun _ => StopsAt.returns rfl
    | some failed =>
      have raised : takeStep host .postPushChecks pushed = .error failed pushed := by
        rw [takeStep_of_fails checked]
        rfl
      have rolls := rollsBack_iff_of_checksFailed listed verified (by rw [checked]; nofun)
      obtain ⟨left, rollback, landed⟩ := stopsAt_rollbackDirectMain atBase rolls
      have handled : StopsAt
          (do
            let rollback ← rollbackDirectMain host baseBranch
            throw (rolledBackFailure host history.graph.next rollback) :
            GitProgram Tree Unit) pushed _ (Landed host baseBranch history)
          () left :=
        rollback.bind fun found => by
          rw [firstObstacle_append, Option.or_eq_none_iff] at found
          exact StopsAt.raise (landed found.1)
      rw [if_neg nofun, ← append_assoc, ← append_nil (_ ++ [_])]
      refine (StopsAt.caught raised handled).bind fun found => ?_
      rw [firstObstacle_append, Option.or_eq_none_iff] at found
      cases found.2
  · have stays : ¬ RollsBack host history := by
      intro rolls
      apply clear
      simp [firstObstacle_eq_none_iff, verifyObstacles, rolls.listed, rolls.verified]
    exact (stopsAt_verifyRemoteCommit (atBase.landed stays)).bind fun found => absurd found clear

theorem landed_of_passed (clear : firstObstacle (directMainObstacles host baseBranch history) =
      none) :
    Landed host baseBranch history (history.commitStaged.push baseBranch) := by
  refine (atBase_push baseBranch history).landed fun rolls => ?_
  unfold directMainObstacles at clear
  rw [if_neg rolls.checksFailed] at clear
  have last := firstObstacle_eq_none_iff.mp clear (some (rolledBackFailure host history.graph.next
      (history.graph.next + 1))) (by simp)
  cases last

end

theorem stopsAt_commitWorkspace :
    StopsAt (commitWorkspace host) history
      (workspaceObstacles host ++ commitObstacles host) (Unpushed history)
      history.commitStaged.head history.commitStaged := by
  unfold commitWorkspace workspaceObstacles
  refine (stopsAt_takeStep unpushed_self).bind fun _ => ?_
  refine (StopsAt.ensure unpushed_self).bind fun _ => ?_
  refine (stopsAt_takeStep unpushed_self).bind fun _ => ?_
  exact (StopsAt.ensure unpushed_self).bind fun _ => stopsAt_commitStaged

theorem stopsAt_openPromotionReview {project : Project} (kept : stays history) :
    StopsAt (openPromotionReview host project) history
      [if ¬ (project.repoName.getD "" = "" ∨ project.repoProvider = none) then
          none
        else some missingProvider,
        host.failure .openReview] stays host.reviewUrl history := by
  unfold openPromotionReview
  refine (StopsAt.ensure kept).bind fun _ => ?_
  exact (stopsAt_takeStep kept).bind fun _ => StopsAt.returns rfl

end

section

variable {host} {history : PushedHistory Tree} {project : Project}
  {branchName branch : String} {openReview : Option Bool}

theorem publish_of_refused {commit : Nat} {error : PyError}
    (found : firstObstacle (pushObstacles host .push history.commitStaged
      (publishedBranch project branch)) = some error) :
    ∃ left, publish host project branchName branch openReview commit
        history.commitStaged = .error error left ∧ Unpushed history left := by
  unfold publish
  unfold publishedBranch at found
  by_cases direct : project.promotionMode = .directMain
  · rw [if_pos direct] at found ⊢
    unfold pushDirectMain
    rw [bind_assoc]
    exact (stopsAt_pushHead unpushed_commitStaged).stopped_bind found
  · rw [if_neg direct] at found ⊢
    exact (stopsAt_pushHead unpushed_commitStaged).stopped_bind found

theorem stopsAt_pushDirectMain {baseBranch : String}
    (accepted : firstObstacle (pushObstacles host .push history.commitStaged baseBranch) = none) :
    StopsAt (pushDirectMain host baseBranch history.graph.next)
      history.commitStaged (directMainObstacles host baseBranch history)
      (Landed host baseBranch history) history.graph.next
      (history.commitStaged.push baseBranch) := by
  have pushes : StopsAt (pushHead host .push baseBranch) history.commitStaged
      _ (fun _ => True) () _ := stopsAt_pushHead trivial
  refine (stopsAt_checkDirectMain (atBase_push baseBranch history)).congr ?_
  unfold pushDirectMain
  exact pushes.passed_bind accepted

theorem stopsAt_pushForReview {commit : Nat}
    (accepted : firstObstacle (pushObstacles host .push history.commitStaged branch) = none) :
    ∃ result, StopsAt (pushForReview host project branch openReview commit)
      history.commitStaged (reviewObstacles host project openReview)
      (PushedChanges branch history) result
      (history.commitStaged.push branch) := by
  have pushes : StopsAt (pushHead host .push branch) history.commitStaged _
      (fun _ => True) () _ := stopsAt_pushHead trivial
  have kept := pushedChanges_push branch history
  unfold reviewObstacles
  by_cases opens : openReview.getD (project.promotionMode = .branchAndPr) = true
  · rw [if_pos opens, ← append_nil [_, _]]
    have opened : StopsAt (openPromotionReview host project) _ _ _ _ _ :=
      stopsAt_openPromotionReview kept
    have goesOn : pushForReview host project branch openReview commit history.commitStaged =
          (do
            let prUrl ← openPromotionReview host project
            return { branchName := branch, commit, pushedRef := branch, prUrl } :
              GitProgram Tree AppliedWorkspace)
            (history.commitStaged.push branch) := by
      unfold pushForReview
      rw [if_pos opens]
      exact pushes.passed_bind accepted
    refine ⟨{ branchName := branch, commit, pushedRef := branch
              prUrl := host.reviewUrl }, StopsAt.congr ?_ goesOn⟩
    exact opened.bind fun _ => StopsAt.returns rfl
  · rw [if_neg opens]
    refine ⟨{ branchName := branch, commit, pushedRef := branch }, StopsAt.returns ?_⟩
    unfold pushForReview
    rw [if_neg opens]
    exact pushes.passed_bind accepted

structure Published (host : ApplyHost) (project : Project) (branch : String)
    (history left : PushedHistory Tree) : Prop where
  changes : PushedChanges (publishedBranch project branch) history left
  landed : project.promotionMode = .directMain → Landed host project.baseBranch history left

theorem stopsAt_publish (accepted : firstObstacle (pushObstacles host .push history.commitStaged
      (publishedBranch project branch)) = none) :
    ∃ result, StopsAt (publish host project branchName branch openReview history.graph.next)
      history.commitStaged (obstaclesAfterPush host project openReview history)
      (Published host project branch history) result
      (history.commitStaged.push (publishedBranch project branch)) := by
  have target (direct : project.promotionMode = .directMain) :
      publishedBranch project branch = project.baseBranch := if_pos direct
  have other (review : project.promotionMode ≠ .directMain) :
      publishedBranch project branch = branch := if_neg review
  unfold publish obstaclesAfterPush
  by_cases direct : project.promotionMode = .directMain
  · rw [target direct] at accepted ⊢
    rw [if_pos direct, if_pos direct, ← append_nil (directMainObstacles host _ history)]
    have landed : StopsAt (pushDirectMain host project.baseBranch
        history.graph.next) history.commitStaged _
        (Published host project branch history) _ _ :=
      (stopsAt_pushDirectMain accepted).weaken fun left landed =>
        ⟨(target direct).symm ▸ landed.changes, fun _ => landed⟩
    refine ⟨{ branchName, commit := history.graph.next
              pushedRef := host.commitSha history.graph.next ++ ":" ++
                project.baseBranch
              verifiedCommit := some history.graph.next }, ?_⟩
    exact landed.bind fun _ => StopsAt.returns rfl
  · rw [other direct] at accepted ⊢
    rw [if_neg direct, if_neg direct]
    obtain ⟨result, described⟩ := stopsAt_pushForReview accepted
    exact ⟨result, described.weaken fun left changes =>
      ⟨(other direct).symm ▸ changes, fun own => absurd own direct⟩⟩

end

section

variable {host} {history : PushedHistory Tree} {project : Project}
  {targetBranch : Option String} {openReview : Option Bool}

theorem apply_of_unpushed {error : PyError}
    (found : firstObstacle (obstaclesToPush host project targetBranch history) = some error) :
    ∃ left, apply host project targetBranch openReview history =
        .error error left ∧ Unpushed history left := by
  unfold obstaclesToPush at found
  rw [firstObstacle_append] at found
  unfold apply
  cases here : firstObstacle (workspaceObstacles host ++ commitObstacles host) with
  | some _ =>
    rw [here] at found
    cases found
    exact stopsAt_commitWorkspace.stopped_bind here
  | none =>
    rw [here] at found
    rw [stopsAt_commitWorkspace.passed_bind here]
    exact publish_of_refused found

theorem stopsAt_apply (clear : firstObstacle (obstaclesToPush host project targetBranch
      history) = none) :
    ∃ result, StopsAt (apply host project targetBranch openReview) history
      (obstaclesAfterPush host project openReview history)
      (Published host project (pushBranch host targetBranch) history) result
      (history.commitStaged.push (publishedBranch project (pushBranch host targetBranch))) := by
  unfold obstaclesToPush at clear
  rw [firstObstacle_append, Option.or_eq_none_iff] at clear
  obtain ⟨result, described⟩ := stopsAt_publish clear.2
  refine ⟨result, described.congr ?_⟩
  unfold apply
  exact stopsAt_commitWorkspace.passed_bind clear.1

end

end RepositoryPromotionService

end AccruviaHarness
