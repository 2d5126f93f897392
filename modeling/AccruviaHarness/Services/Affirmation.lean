import AccruviaHarness.Promotion.ApplyObstacles
import AccruviaHarness.Services.PromotionService

/-!
# What an approved promotion stands for

An approval is to stand for an approved review, a merge gate without a blocking
concern and, for a git workspace, for changes that have been pushed.
-/

namespace AccruviaHarness

open Library RepositoryPromotionService List

namespace PromotionService

variable {Tree : Type}

def GitWorkspace (events : List Event) (runId : String) : Prop :=
  ∃ details, workspaceDetailsForRun events runId = some details ∧
    isGitMode (details.get "workspace_mode") = .ok true

structure SoundApproval (host : AffirmHost) (before after : AffirmState Tree)
    (runId : String) : Prop where
  reviewed : ∃ result, host.review = .ok result ∧ result.success = true ∧
    (result.output.get "approved").truthy = true
  gated : ∃ decision, MergeGate.evaluateRun host.readReport before.store runId {} =
      .ok decision ∧ blockingConcerns decision = []
  published : GitWorkspace before.events runId →
    ∃ branch, PushedChanges branch before.workspace after.workspace

def stateAfter {Result : Type} (run : EStateM.Result PyError (AffirmState Tree) Result) :
    AffirmState Tree :=
  match run with
  | .ok _ left => left
  | .error _ left => left

variable (host : AffirmHost) (before : AffirmState Tree)

def ApprovesSoundly (after : AffirmState Tree) : Prop :=
  ∀ promotion ∈ before.store.promotions.rows, promotion.status = .pending →
    (∃ row ∈ after.store.promotions.rows,
      row.id = promotion.id ∧ row.status = .approved) →
    SoundApproval host before after promotion.runId

structure ReachesGate (host : AffirmHost) (store : Store) (taskId : String)
    (runId promotionId : Option String) (task : Task)
    (promotion : PromotionRecord) (run : Run) : Prop where
  router : host.hasRouter = true
  task : store.getTask taskId = some task
  selected : selectPromotion store taskId runId promotionId = .ok promotion
  pending : promotion.status = .pending
  run : selectRun store taskId promotion.runId = .ok run
  approved : ∃ result, host.review = .ok result ∧ result.success = true ∧
    (result.output.get "approved").truthy = true ∧
      ∃ concerns, result.output.getList "concerns" = .ok concerns

def GateStands (store : Store) (runId : String) : Prop :=
  ∀ decision, MergeGate.evaluateRun host.readReport store runId {} =
    .ok decision → blockingConcerns decision = []

structure Applies (before : AffirmState Tree) (task : Task) (runId : String)
    (project : Project) : Prop where
  project : before.store.getProject task.projectId = some project
  workspace : ∃ details, workspaceDetailsForRun before.events runId = some details ∧
      isGitMode (details.get "workspace_mode") = .ok true ∧ ∃ root, projectRoot details = .ok root

variable (task : Task) (project : Project)

/-- The first thing that stops the application is a failed git command, and
it comes before the end of the push. -/
def SkipsPush : Prop :=
  ∃ command, firstObstacle (obstaclesToPush host.apply project
    (remediationBranch task) before.workspace) = some (.calledProcessError command)

def StopsOnlyAtGit : Prop :=
  ∀ error, firstObstacle (obstaclesToPush host.apply project
      (remediationBranch task) before.workspace ++
    obstaclesAfterPush host.apply project (openReviewOf task) before.workspace) = some error →
    ∃ command, error = .calledProcessError command

def ApplicationEnds (runId : String) : Prop :=
  (∃ project, before.store.getProject task.projectId = some project ∧
    (workspaceDetailsForRun before.events runId = none ∨
      ∃ details, workspaceDetailsForRun before.events runId = some details ∧
        isGitMode (details.get "workspace_mode") = .ok false)) ∨
    ∃ project, Applies before task runId project ∧ StopsOnlyAtGit host before task project

def FailsOpen (taskId : String) (runId promotionId : Option String) : Prop :=
  ∃ task promotion run, ReachesGate host before.store taskId runId promotionId task promotion run ∧
    (∃ error, MergeGate.evaluateRun host.readReport before.store
      promotion.runId {} = .error error) ∧
    ApplicationEnds host before task promotion.runId

/-- A git command fails before the changes are pushed, and the promotion is
approved as one without a git workspace. -/
def ApprovesUnpushed (taskId : String) (runId promotionId : Option String) : Prop :=
  ∃ task promotion run project,
    ReachesGate host before.store taskId runId promotionId task promotion run ∧
    GateStands host before.store promotion.runId ∧
    Applies before task promotion.runId project ∧
    SkipsPush host before task project

section

variable {host : AffirmHost} {store : Store} {taskId : String}
  {runId promotionId : Option String} {judgement : Judgement}

variable {wanted : String} {run : Run}

theorem id_of_selectRun (selected : selectRun store taskId wanted = .ok run) : run.id = wanted := by
  unfold selectRun at selected
  split at selected
  · cases selected
  next found stored =>
    split at selected
    · cases selected
      exact (store.runs.lookup_eq_some_iff.mp stored).2
    · cases selected

theorem gateAffirmation_stands_iff {affirmation : PyDict} :
    (gateAffirmation host store wanted affirmation).1 = true ↔ GateStands host store wanted := by
  unfold gateAffirmation GateStands
  cases MergeGate.evaluateRun host.readReport store wanted {} with
  | error _ => exact iff_of_true rfl nofun
  | ok decision =>
    rw [List.isEmpty_iff]
    exact ⟨fun none _ same => by cases same; exact none, fun none => none decision rfl⟩

theorem reviewAnswer_approved_iff {result : SkillResult} :
    (∃ answer, reviewAnswer result = .ok answer ∧ answer.approved = true) ↔
      result.success = true ∧ (result.output.get "approved").truthy = true ∧
          ∃ concerns, result.output.getList "concerns" = .ok concerns := by
  unfold reviewAnswer
  cases result.success with
  | false =>
    rw [Bool.not_false, if_pos rfl]
    constructor
    · rintro ⟨answer, answered, approved⟩
      cases answered
      cases approved
    · rintro ⟨success, _⟩
      cases success
  | true =>
    rw [Bool.not_true, if_neg (by decide)]
    constructor
    · rintro ⟨_, answered, approved⟩
      obtain ⟨concerns, listed, answered⟩ := exists_of_bind_ok answered
      cases answered
      exact ⟨rfl, approved, concerns, listed⟩
    · rintro ⟨_, approved, _, listed⟩
      rw [listed]
      exact ⟨_, rfl, approved⟩

theorem reachesGate_of_judge (judged : judge host store taskId runId promotionId = .ok judgement)
    (approved : judgement.approved = true) :
    ReachesGate host store taskId runId promotionId judgement.task
        judgement.promotion judgement.run ∧
      GateStands host store judgement.promotion.runId := by
  unfold judge at judged
  split at judged
  · cases judged
  next router =>
    split at judged
    · cases judged
    next task found =>
      obtain ⟨_, selected, judged⟩ := exists_of_bind_ok judged
      split at judged
      · cases judged
      next pending =>
        obtain ⟨_, chosen, judged⟩ := exists_of_bind_ok judged
        obtain ⟨result, reviewed, judged⟩ := exists_of_bind_ok judged
        obtain ⟨answer, answered, judged⟩ := exists_of_bind_ok judged
        cases judged
        cases accepted : answer.approved with
        | false =>
          rw [accepted] at approved
          cases approved
        | true =>
          rw [accepted, if_pos rfl] at approved
          have stands := gateAffirmation_stands_iff.mp approved
          rw [id_of_selectRun chosen] at stands
          refine ⟨⟨by simpa using router, found, selected,
            not_not.mp pending, chosen, result, reviewed, ?_⟩, stands⟩
          exact reviewAnswer_approved_iff.mp ⟨answer, answered, accepted⟩

theorem exists_judge_of_reachesGate {task : Task} {promotion : PromotionRecord}
    (reaches : ReachesGate host store taskId runId promotionId task promotion run)
    (stands : GateStands host store promotion.runId) :
    ∃ judgement, judge host store taskId runId promotionId = .ok judgement ∧
      judgement.approved = true ∧ judgement.task = task ∧
        judgement.promotion = promotion ∧ judgement.run = run := by
  obtain ⟨_, reviewed, success, accepted, concerns, listed⟩ := reaches.approved
  obtain ⟨_, answered, approved⟩ :=
    reviewAnswer_approved_iff.mpr ⟨success, accepted, concerns, listed⟩
  rw [← id_of_selectRun reaches.run] at stands
  unfold judge
  rw [if_neg (by simp [reaches.router]), reaches.task]
  rw [reaches.selected]
  dsimp only [bind, Except.bind]
  rw [if_neg (not_not.mpr reaches.pending), reaches.run]
  rw [reviewed]
  dsimp only
  rw [answered]
  refine ⟨_, rfl, ?_, rfl, rfl, rfl⟩
  rw [approved, if_pos rfl]
  exact gateAffirmation_stands_iff.mpr stands

end

section

variable {host : AffirmHost} {before : AffirmState Tree} {task : Task}
  {run : Run} {project : Project} {details : PyDict}

section

variable {root : String} (rooted : projectRoot details = .ok root)

include rooted

variable {workspace : PushedHistory Tree}

theorem applyGitWorkspace_of_ok {applied : AppliedWorkspace}
    (ended : RepositoryPromotionService.apply host.apply project
      (remediationBranch task) (openReviewOf task) before.workspace = .ok applied workspace) :
    applyGitWorkspace host project task details before =
      .ok (appliedWorkspace host.apply project task applied)
        { before with workspace } := by
  unfold applyGitWorkspace
  rw [rooted]
  show EStateM.tryCatch (EStateM.bind (inWorkspace _) _) _ before = _
  unfold EStateM.tryCatch EStateM.bind inWorkspace
  rw [ended]
  rfl

theorem applyGitWorkspace_of_error {error : PyError}
    (ended : RepositoryPromotionService.apply host.apply project
      (remediationBranch task) (openReviewOf task) before.workspace = .error error workspace) :
    applyGitWorkspace host project task details before =
      exceptCalledProcessError (return skippedWorkspace details) error
        { before with workspace } := by
  unfold applyGitWorkspace
  rw [rooted]
  show EStateM.tryCatch (EStateM.bind (inWorkspace _) _) _ before = _
  unfold EStateM.tryCatch EStateM.bind inWorkspace
  rw [ended]
  rfl

end

theorem applyGitWorkspace_of_rootless
    {error : PyError} (rootless : projectRoot details = .error error) :
    ∃ other, applyGitWorkspace host project task details before = .error other before := by
  unfold applyGitWorkspace
  rw [rootless]
  refine ⟨error, ?_⟩
  unfold projectRoot at rootless
  split at rootless
  · split at rootless
    · cases rootless
    · cases rootless
      rfl
  · cases rootless
    rfl

/-- How the application of a git workspace ends: it goes on exactly where
nothing but a failed git command stops it, and the changes are pushed exactly
where that command comes after the push. -/
structure GitOutcome (host : AffirmHost) (before : AffirmState Tree)
    (task : Task) (project : Project)
    (outcome : EStateM.Result PyError (AffirmState Tree) PyDict) : Prop where
  store : (stateAfter outcome).store = before.store
  events : (stateAfter outcome).events = before.events
  ends : (∃ applyback left, outcome = .ok applyback left) ↔ StopsOnlyAtGit host before task project
  published : (∃ applyback left, outcome = .ok applyback left) →
    ((∃ branch, PushedChanges branch before.workspace (stateAfter outcome).workspace) ↔
      ¬ SkipsPush host before task project)

theorem not_pushedChanges_of_unpushed
    {history left : PushedHistory Tree} (unpushed : Unpushed history left) :
    ¬ ∃ branch, PushedChanges branch history left := by
  rintro ⟨_, changes⟩
  have longer := changes.pushed.length_le
  rw [unpushed.pushes, length_append, length_singleton] at longer
  omega

theorem gitOutcome_of_error {error : PyError} {workspace : PushedHistory Tree}
    (found : firstObstacle (obstaclesToPush host.apply project
        (remediationBranch task) before.workspace ++
      obstaclesAfterPush host.apply project (openReviewOf task) before.workspace) = some error)
    (pushed : (∃ command, error = .calledProcessError command) →
      ((∃ branch, PushedChanges branch before.workspace workspace) ↔
        ¬ SkipsPush host before task project)) :
    GitOutcome host before task project
      (exceptCalledProcessError (return skippedWorkspace details) error
        { before with workspace }) := by
  by_cases git : ∃ command, error = .calledProcessError command
  · obtain ⟨command, rfl⟩ := git
    refine ⟨rfl, rfl, iff_of_true ⟨_, _, rfl⟩ ?_, fun _ => pushed ⟨command, rfl⟩⟩
    intro other again
    rw [found] at again
    cases again
    exact ⟨command, rfl⟩
  · have raised : exceptCalledProcessError (return skippedWorkspace details)
        error { before with workspace } = (.error error { before with workspace } :
            EStateM.Result _ _ PyDict) := by
      cases error
      case calledProcessError command => exact absurd ⟨command, rfl⟩ git
      all_goals rfl
    rw [raised]
    refine ⟨rfl, rfl, iff_of_false nofun fun only => git (only error found), nofun⟩

theorem gitOutcome_applyGitWorkspace {root : String} (rooted : projectRoot details = .ok root) :
    GitOutcome host before task project (applyGitWorkspace host project task details before) := by
  cases toPush : firstObstacle (obstaclesToPush host.apply project
    (remediationBranch task) before.workspace) with
  | some _ =>
    obtain ⟨left, failed, unpushed⟩ := apply_of_unpushed toPush
    rw [applyGitWorkspace_of_error rooted failed]
    refine gitOutcome_of_error ?_ ?_
    · rw [firstObstacle_append, toPush]
      rfl
    · rintro ⟨command, rfl⟩
      exact iff_of_false (not_pushedChanges_of_unpushed unpushed) (not_not.mpr ⟨command, toPush⟩)
  | none =>
    have pushes : ¬ SkipsPush host before task project := by
      rintro ⟨_, found⟩
      rw [toPush] at found
      cases found
    obtain ⟨_, described⟩ := stopsAt_apply toPush
    cases after : firstObstacle (obstaclesAfterPush host.apply project
      (openReviewOf task) before.workspace) with
    | some error =>
      obtain ⟨_, failed, published⟩ := described.stopped error after
      rw [applyGitWorkspace_of_error rooted failed]
      refine gitOutcome_of_error ?_ fun _ => iff_of_true ⟨_, published.changes⟩ pushes
      rw [firstObstacle_append, toPush, after]
      rfl
    | none =>
      rw [applyGitWorkspace_of_ok rooted (described.passed after)]
      refine ⟨rfl, rfl, iff_of_true ⟨_, _, rfl⟩ ?_, fun _ =>
        iff_of_true ⟨_, pushedChanges_push _ _⟩ pushes⟩
      intro error found
      rw [firstObstacle_append, toPush, after] at found
      cases found

structure ApplicationOutcome (host : AffirmHost) (before : AffirmState Tree)
    (task : Task) (runId : String)
    (outcome : EStateM.Result PyError (AffirmState Tree) PyDict) : Prop where
  store : (stateAfter outcome).store = before.store
  events : (stateAfter outcome).events = before.events
  ends : (∃ applyback left, outcome = .ok applyback left) ↔ ApplicationEnds host before task runId
  published : (∃ applyback left, outcome = .ok applyback left) →
    GitWorkspace before.events runId → ∃ project, Applies before task runId project ∧
        ((∃ branch, PushedChanges branch before.workspace (stateAfter outcome).workspace) ↔
          ¬ SkipsPush host before task project)

theorem applyApprovedPromotion_apply :
    applyApprovedPromotion host task run before =
      (match before.store.getProject task.projectId with
      | none => throw <| .valueError ("Unknown project for task: " ++ task.projectId)
      | some project =>
        match workspaceDetailsForRun before.events run.id with
        | none => return [("status", .str "skipped"), ("reason", .str "missing_workspace_details")]
        | some details =>
          match isGitMode (details.get "workspace_mode") with
          | .error error => throw error
          | .ok false => return skippedWorkspace details
          | .ok true => applyGitWorkspace host project task details :
      AffirmProgram Tree PyDict) before :=
  rfl

theorem applicationOutcome_applyApprovedPromotion :
    ApplicationOutcome host before task run.id (applyApprovedPromotion host task run before) := by
  rw [applyApprovedPromotion_apply]
  cases found : before.store.getProject task.projectId with
  | none =>
    refine ⟨rfl, rfl, iff_of_false nofun ?_, nofun⟩
    rintro (⟨project, here, _⟩ | ⟨project, applies, _⟩)
    · rw [found] at here
      cases here
    · have here := applies.project
      rw [found] at here
      cases here
  | some project =>
    cases prepared : workspaceDetailsForRun before.events run.id with
    | none =>
      refine ⟨rfl, rfl, iff_of_true ⟨_, _, rfl⟩ ?_, ?_⟩
      · exact .inl ⟨project, found, .inl prepared⟩
      · rintro _ ⟨details, here, _⟩
        rw [prepared] at here
        cases here
    | some details =>
      dsimp only
      have only {other : PyDict} (here : workspaceDetailsForRun before.events run.id =
            some other) : other = details :=
        Option.some.inj (here.symm.trans prepared)
      cases mode : isGitMode (details.get "workspace_mode") with
      | error _ =>
        refine ⟨rfl, rfl, iff_of_false nofun ?_, nofun⟩
        rintro (⟨_, _, none | ⟨other, here, same⟩⟩ | ⟨_, ⟨_, other, here, same, _⟩, _⟩)
        · rw [prepared] at none
          cases none
        · rw [only here, mode] at same
          cases same
        · rw [only here, mode] at same
          cases same
      | ok git =>
        cases git with
        | false =>
          refine ⟨rfl, rfl, iff_of_true ⟨_, _, rfl⟩ ?_, ?_⟩
          · exact .inl ⟨project, found, .inr ⟨details, prepared, mode⟩⟩
          · rintro _ ⟨other, here, same⟩
            rw [only here, mode] at same
            cases same
        | true =>
          have unique {other : Project} (here : before.store.getProject task.projectId =
                some other) : other = project :=
            Option.some.inj (here.symm.trans found)
          have notSkipped : ¬ (workspaceDetailsForRun before.events
              run.id = none ∨ ∃ other, workspaceDetailsForRun before.events run.id = some other ∧
                  isGitMode (other.get "workspace_mode") = .ok false) := by
            rintro (none | ⟨other, here, same⟩)
            · rw [prepared] at none
              cases none
            · rw [only here, mode] at same
              cases same
          cases rooted : projectRoot details with
          | error error =>
            obtain ⟨other, failed⟩ : ∃ other, applyGitWorkspace host project task details before =
                  .error other before :=
              applyGitWorkspace_of_rootless rooted
            dsimp only
            rw [failed]
            refine ⟨rfl, rfl, iff_of_false nofun ?_, nofun⟩
            rintro (⟨_, _, skipped⟩ | ⟨_, ⟨_, other, here, _, root, own⟩, _⟩)
            · exact notSkipped skipped
            · rw [only here, rooted] at own
              cases own
          | ok root =>
            have git : GitOutcome host before task project _ := gitOutcome_applyGitWorkspace rooted
            have applies : Applies before task run.id project :=
              ⟨found, details, prepared, mode, root, rooted⟩
            refine ⟨git.store, git.events, git.ends.trans ⟨?_, ?_⟩,
              fun ended _ => ⟨project, applies, git.published ended⟩⟩
            · intro stops
              exact .inr ⟨project, applies, stops⟩
            · rintro (⟨_, _, skipped⟩ | ⟨other, own, stops⟩)
              · exact absurd skipped notSkipped
              · exact unique own.project ▸ stops

end

section

variable {identities : TaskIdentities} {store written : Store}
  {promotion : PromotionRecord}

variable {task stored : Task} {host : AffirmHost}

theorem promotions_ensurePlanLinkage {linked : Task}
    (returned : TaskService.ensurePlanLinkage identities store task =
      .ok (written, linked)) : written.promotions = store.promotions := by
  unfold TaskService.ensurePlanLinkage at returned
  split at returned
  · cases returned
    rfl
  · split at returned
    · split at returned <;> cases returned <;> rfl
    · obtain ⟨_, _, returned⟩ := exists_of_bind_ok returned
      obtain ⟨_, created, returned⟩ := exists_of_bind_ok returned
      cases returned
      unfold Store.createPlan at created
      split at created
      · cases created
        rfl
      · cases created

theorem promotions_createTask (returned : TaskService.createTask identities store task =
      .ok (written, stored)) : written.promotions = store.promotions := by
  unfold TaskService.createTask at returned
  split at returned
  · cases returned
    rfl
  · cases linked : TaskService.ensurePlanLinkage identities store task with
    | error _ =>
      rw [linked] at returned
      cases returned
    | ok pair =>
      obtain ⟨_, _⟩ := pair
      rw [linked] at returned
      have kept := promotions_ensurePlanLinkage linked
      dsimp only at returned
      split at returned
      · cases returned
        exact kept
      · cases returned

theorem promotions_createTaskWithPolicy {policy : TaskPolicy}
    (returned : TaskService.createTaskWithPolicy identities store policy =
      .ok (written, stored)) : written.promotions = store.promotions := by
  unfold TaskService.createTaskWithPolicy at returned
  split at returned
  · exact promotions_createTask returned
  · split at returned
    · cases returned
    · split at returned
      · cases returned
      · exact promotions_createTask returned

theorem exists_status_updatePromotion {id : String} {status : PromotionStatus} :
    (∃ row ∈ (store.updatePromotion promotion).promotions.rows,
        row.id = id ∧ row.status = status) ↔
      ∃ row ∈ store.promotions.rows, row.id = id ∧
        (if row.id = promotion.id then promotion.status else row.status) =
          status := by
  unfold Store.updatePromotion
  simp only [KeyedTable.mem_updateAt]
  constructor
  · rintro ⟨_, ⟨row, member, rfl⟩, own, same⟩
    refine ⟨row, member, ?_⟩
    split at own
    next updated =>
      rw [if_pos updated] at same ⊢
      exact ⟨own, same⟩
    next other =>
      rw [if_neg other] at same ⊢
      exact ⟨own, same⟩
  · rintro ⟨row, member, own, same⟩
    refine ⟨_, ⟨row, member, rfl⟩, ?_⟩
    by_cases updated : row.id = promotion.id
    · rw [if_pos updated] at same ⊢
      exact ⟨own, same⟩
    · rw [if_neg updated] at same ⊢
      exact ⟨own, same⟩

theorem mem_of_selectPromotion {taskId : String} {runId promotionId : Option String}
    (selected : selectPromotion store taskId runId promotionId =
      .ok promotion) : promotion ∈ store.promotions.rows := by
  have listed (member : promotion ∈ store.listPromotions taskId) :
      promotion ∈ store.promotions.rows := by
    unfold Store.listPromotions at member
    rw [mem_orderBy, mem_filter] at member
    exact member.1
  apply listed
  unfold selectPromotion at selected
  dsimp only at selected
  split at selected
  · split at selected
    next found =>
      cases selected
      exact mem_of_find?_eq_some found
    · cases selected
  · split at selected
    · split at selected
      next found =>
        cases selected
        exact (mem_filter.mp (mem_of_getLast? found)).1
      · cases selected
    · split at selected
      next found =>
        cases selected
        exact mem_of_getLast? found
      · cases selected

variable {before after : AffirmState Tree}

def ApprovesNone (before after : AffirmState Tree) : Prop :=
  ∀ promotion ∈ before.store.promotions.rows, promotion.status = .pending →
    ¬ ∃ row ∈ after.store.promotions.rows,
      row.id = promotion.id ∧ row.status = .approved

theorem approvesNone_of_same (same : after.store.promotions = before.store.promotions) :
    ApprovesNone before after := by
  rintro _ member pending ⟨_, rowMember, own, approved⟩
  rw [same] at rowMember
  have unique := before.store.promotions.eq_of_key_eq rowMember member own
  rw [unique, pending] at approved
  cases approved

theorem approvesNone_of_rejected (rejected : promotion.status = .rejected)
    (updated : after.store.promotions = (before.store.updatePromotion promotion).promotions) :
    ApprovesNone before after := by
  intro other member pending
  rw [updated, exists_status_updatePromotion]
  rintro ⟨_, rowMember, own, approved⟩
  have unique := before.store.promotions.eq_of_key_eq rowMember member own
  split at approved
  · rw [rejected] at approved
    cases approved
  · rw [unique, pending] at approved
    cases approved

theorem approvesSoundly_of_none (none : ApprovesNone before after) :
    ApprovesSoundly host before after :=
  fun promotion member pending approved => absurd approved (none promotion member pending)

theorem approvesSoundly_iff_of_approved {approved : PromotionRecord}
    (member : promotion ∈ before.store.promotions.rows)
    (pending : promotion.status = .pending) (own : approved.id = promotion.id)
    (status : approved.status = .approved)
    (updated : after.store.promotions = (before.store.updatePromotion approved).promotions) :
    ApprovesSoundly host before after ↔ SoundApproval host before after promotion.runId := by
  unfold ApprovesSoundly
  rw [updated]
  simp only [exists_status_updatePromotion]
  constructor
  · intro sound
    refine sound promotion member pending ⟨promotion, member, rfl, ?_⟩
    rw [if_pos own.symm]
    exact status
  · rintro sound other otherMember otherPending ⟨_, rowMember, same, found⟩
    have unique := before.store.promotions.eq_of_key_eq rowMember otherMember same
    split at found
    next here =>
      have named : other.id = promotion.id := same.symm.trans (here.trans own)
      have again := before.store.promotions.eq_of_key_eq otherMember member named
      exact again ▸ sound
    · rw [unique, otherPending] at found
      cases found

end

section

variable {host : AffirmHost} {before : AffirmState Tree} {taskId : String}
  {runId promotionId : Option String} {createFollowOn : Bool}
  {judgement : Judgement}

variable {store : Store} {task : Task} {promotion : PromotionRecord} {run : Run}
  {left : AffirmState Tree}

theorem reachesGate_unique {other : Task} {second : PromotionRecord} {later : Run}
    (reaches : ReachesGate host store taskId runId promotionId task promotion run)
    (again : ReachesGate host store taskId runId promotionId other second
      later) : other = task ∧ second = promotion := by
  constructor
  · exact Option.some.inj (again.task.symm.trans reaches.task)
  · exact Except.ok.inj (again.selected.symm.trans reaches.selected)

theorem promotions_followOnFor {written : Store} {issues : List ValidationIssue} {created : String}
    (found : followOnFor host store judgement issues =
      .ok (created, some written)) : written.promotions = store.promotions := by
  unfold followOnFor at found
  dsimp only at found
  split at found
  · cases found
  · obtain ⟨⟨_, _⟩, returned, found⟩ := exists_of_bind_ok found
    cases found
    exact promotions_createTaskWithPolicy returned

theorem followOnTask_apply (host : AffirmHost) (judgement : Judgement)
    (issues : List ValidationIssue) (before : AffirmState Tree) :
    followOnTask host judgement issues before =
      (match followOnFor host before.store judgement issues with
      | .error error => throw error
      | .ok (existing, none) => return existing
      | .ok (created, some store) => do
          set { before with
            store
            events := before.events ++
              [taskEvent created "follow_on_task_created"
                [("parent_task_id", .str judgement.task.id),
                  ("source_run_id", .str judgement.run.id)]] }
          return created : AffirmProgram Tree String) before :=
  rfl

theorem promotions_followOnTask (host : AffirmHost) (judgement : Judgement)
    (issues : List ValidationIssue) (before : AffirmState Tree) :
    (stateAfter (followOnTask host judgement issues before)).store.promotions =
      before.store.promotions := by
  rw [followOnTask_apply]
  cases found : followOnFor host before.store judgement issues with
  | error _ => rfl
  | ok answer =>
    obtain ⟨_, stored⟩ := answer
    cases stored with
    | none => rfl
    | some _ => exact promotions_followOnFor found

theorem approvesNone_reject (before : AffirmState Tree) :
    ApprovesNone before (stateAfter (reject host judgement createFollowOn before)) := by
  have recorded {left : AffirmState Tree} (same : left.store.promotions = before.store.promotions)
      (followOnTaskId : Option String) : ApprovesNone before
        (stateAfter (recordRejection judgement followOnTaskId left)) := by
    have rejected : (rejectedPromotion judgement
        (PromotionMixin.optionalText followOnTaskId)).status = .rejected :=
      rfl
    refine approvesNone_of_rejected rejected ?_
    show (left.store.updatePromotion _).promotions = _
    unfold Store.updatePromotion
    rw [same]
  unfold reject
  cases issuesFromPromotionDetails judgement.promotion.details with
  | error _ => exact approvesNone_of_same rfl
  | ok issues =>
    cases createFollowOn with
    | false => exact recorded rfl none
    | true =>
      have kept := promotions_followOnTask host judgement issues before
      show ApprovesNone before (stateAfter (EStateM.bind
        (followOnTask host judgement issues) _ before))
      unfold EStateM.bind
      cases ended : followOnTask host judgement issues before with
      | ok created _ =>
        rw [ended] at kept
        exact recorded kept (some created)
      | error _ _ =>
        rw [ended] at kept
        exact approvesNone_of_same kept

theorem approve_of_error {error : PyError}
    (failed : applyApprovedPromotion host judgement.task judgement.run
      before = .error error left) :
    approve host judgement before = .error error left := by
  show EStateM.bind (applyApprovedPromotion host _ _) _ before = _
  unfold EStateM.bind
  rw [failed]

theorem approve_of_ok {applyback : PyDict}
    (ended : applyApprovedPromotion host judgement.task judgement.run
      before = .ok applyback left) :
    approve host judgement before = recordApproval judgement applyback left := by
  show EStateM.bind (applyApprovedPromotion host _ _) _ before = _
  unfold EStateM.bind
  rw [ended]

theorem applicationEnds_of_skipsPush {run : String} {project : Project}
    (applies : Applies before task run project)
    (skips : SkipsPush host before task project) :
    ApplicationEnds host before task run := by
  obtain ⟨command, first⟩ := skips
  refine .inr ⟨project, applies, ?_⟩
  intro error found
  rw [firstObstacle_append, first] at found
  cases found
  exact ⟨command, rfl⟩

theorem soundApproval_iff {after : AffirmState Tree}
    {outcome : EStateM.Result PyError (AffirmState Tree) PyDict}
    (reaches : ReachesGate host before.store taskId runId promotionId task promotion run)
    (stands : GateStands host before.store promotion.runId)
    (described : ApplicationOutcome host before task promotion.runId outcome)
    (ended : ∃ applyback left, outcome = .ok applyback left)
    (workspace : after.workspace = (stateAfter outcome).workspace) :
    SoundApproval host before after promotion.runId ↔
      (∀ error, MergeGate.evaluateRun host.readReport before.store
          promotion.runId {} ≠ .error error) ∧
        ∀ project, Applies before task promotion.runId project →
          ¬ SkipsPush host before task project := by
  have published := described.published ended
  rw [← workspace] at published
  constructor
  · intro sound
    constructor
    · intro error raised
      obtain ⟨decision, evaluated, _⟩ := sound.gated
      rw [raised] at evaluated
      cases evaluated
    · intro project applies
      obtain ⟨details, prepared, mode, _⟩ := applies.workspace
      have git : GitWorkspace before.events promotion.runId := ⟨details, prepared, mode⟩
      obtain ⟨other, own, pushed⟩ := published git
      have same : other = project := Option.some.inj (own.project.symm.trans applies.project)
      exact same ▸ pushed.mp (sound.published git)
  · rintro ⟨evaluates, pushes⟩
    obtain ⟨result, reviewed, success, approved, _⟩ := reaches.approved
    refine ⟨⟨result, reviewed, success, approved⟩, ?_, ?_⟩
    · cases evaluated : MergeGate.evaluateRun host.readReport before.store promotion.runId {} with
      | error error => exact absurd evaluated (evaluates error)
      | ok decision => exact ⟨decision, rfl, stands decision evaluated⟩
    · intro git
      obtain ⟨project, applies, pushed⟩ := published git
      exact pushed.mpr (pushes project applies)

theorem affirmReview_eq (host : AffirmHost) (before : AffirmState Tree) (taskId : String)
    (runId promotionId : Option String) (createFollowOn : Bool) :
    affirmReview host taskId runId promotionId createFollowOn before =
      (match judge host before.store taskId runId promotionId with
      | .error error => throw error
      | .ok judgement =>
        if judgement.approved then approve host judgement
        else reject host judgement createFollowOn :
      AffirmProgram Tree PromotionReviewResult) before := rfl

theorem closed_of_unapproved (unapproved : ∀ judgement, judge host before.store taskId runId
      promotionId = .ok judgement → judgement.approved = false) :
    ¬ FailsOpen host before taskId runId promotionId ∧
      ¬ ApprovesUnpushed host before taskId runId promotionId := by
  have closed {task : Task} {promotion : PromotionRecord} {run : Run}
      (reaches : ReachesGate host before.store taskId runId promotionId task promotion run)
      (stands : GateStands host before.store promotion.runId) : False := by
    obtain ⟨judgement, judged, approved, _⟩ := exists_judge_of_reachesGate reaches stands
    rw [unapproved judgement judged] at approved
    cases approved
  constructor
  · rintro ⟨task, promotion, run, reaches, ⟨_, raised⟩, _⟩
    refine closed reaches fun decision evaluated => ?_
    rw [raised] at evaluated
    cases evaluated
  · rintro ⟨_, _, _, _, reaches, stands, _⟩
    exact closed reaches stands

/-- A promotion becomes approved for good reasons only, exactly when the merge
gate does not raise on the way and no git command fails before the push. -/
theorem affirmReview_sound_iff (host : AffirmHost) (before : AffirmState Tree) (taskId : String)
    (runId promotionId : Option String) (createFollowOn : Bool) :
    ApprovesSoundly host before (stateAfter
          (affirmReview host taskId runId promotionId createFollowOn before)) ↔
      ¬ FailsOpen host before taskId runId promotionId ∧
        ¬ ApprovesUnpushed host before taskId runId promotionId := by
  rw [affirmReview_eq]
  cases judged : judge host before.store taskId runId promotionId with
  | error _ =>
    refine iff_of_true (approvesSoundly_of_none (approvesNone_of_same rfl))
      (closed_of_unapproved ?_)
    intro judgement found
    rw [judged] at found
    cases found
  | ok judgement =>
    dsimp only
    cases approved : judgement.approved with
    | false =>
      rw [if_neg (by decide)]
      refine iff_of_true (approvesSoundly_of_none (approvesNone_reject before))
        (closed_of_unapproved ?_)
      intro other found
      rw [judged] at found
      cases found
      exact approved
    | true =>
      rw [if_pos rfl]
      obtain ⟨reaches, stands⟩ := reachesGate_of_judge judged approved
      have named := id_of_selectRun reaches.run
      have described : ApplicationOutcome host before judgement.task
          judgement.run.id (applyApprovedPromotion host judgement.task judgement.run before) :=
        applicationOutcome_applyApprovedPromotion
      rw [named] at described
      cases ended : applyApprovedPromotion host judgement.task judgement.run before with
      | error _ _ =>
        rw [approve_of_error ended]
        rw [ended] at described
        have unended : ¬ ApplicationEnds host before judgement.task
            judgement.promotion.runId :=
          fun ends => nomatch described.ends.mpr ends
        refine iff_of_true (approvesSoundly_of_none (approvesNone_of_same
            (congrArg Store.promotions described.store))) ⟨?_, ?_⟩
        · rintro ⟨task, promotion, run, again, _, ends⟩
          obtain ⟨rfl, rfl⟩ := reachesGate_unique reaches again
          exact unended ends
        · rintro ⟨task, promotion, run, project, again, _, applies, skips⟩
          obtain ⟨rfl, rfl⟩ := reachesGate_unique reaches again
          exact unended (applicationEnds_of_skipsPush applies skips)
      | ok applyback left =>
        rw [approve_of_ok ended]
        rw [ended] at described
        have kept : left.store = before.store := described.store
        have updated : (stateAfter (recordApproval judgement applyback
            left)).store.promotions = (before.store.updatePromotion
              (approvedPromotion judgement applyback)).promotions := by
          rw [← kept]
          rfl
        have ends := described.ends.mp ⟨applyback, left, rfl⟩
        have workspace : (stateAfter (recordApproval judgement
            applyback left)).workspace = (stateAfter (.ok applyback
              left : EStateM.Result PyError _ PyDict)).workspace := rfl
        have own : (approvedPromotion judgement applyback).id =
            judgement.promotion.id := rfl
        rw [approvesSoundly_iff_of_approved
          (mem_of_selectPromotion reaches.selected) reaches.pending own
          rfl updated, soundApproval_iff reaches stands described ⟨applyback, left, rfl⟩ workspace]
        constructor
        · rintro ⟨evaluates, pushes⟩
          constructor
          · rintro ⟨task, promotion, run, again, ⟨error, raised⟩, _⟩
            obtain ⟨rfl, rfl⟩ := reachesGate_unique reaches again
            exact evaluates error raised
          · rintro ⟨_, _, _, project, again, _, applies, skips⟩
            obtain ⟨rfl, rfl⟩ := reachesGate_unique reaches again
            exact pushes project applies skips
        · rintro ⟨closed, pushed⟩
          constructor
          · intro error raised
            exact closed ⟨_, _, _, reaches, ⟨error, raised⟩, ends⟩
          · intro project applies skips
            exact pushed ⟨_, _, _, project, reaches, stands, applies, skips⟩

end

section

def pendingStore (artifacts : List Artifact) : Store where
  projects := .single { id := "project" }
  tasks := .single { id := "task", projectId := "project" }
  runs := .single { id := "run", taskId := "task", status := .completed, attempt := 1 }
  decisions := [{ id := "decision", runId := "run", action := .promote }]
  artifacts
  promotions :=
    .single
      { id := "promotion", taskId := "task", runId := "run", status := .pending, summary := ""
        details := [] }

/-- An approving review and a report whose `changed_files` is no list; every
git command goes through but the failing one. -/
def approvingHost (failing : Option ApplyStep) : AffirmHost where
  hasRouter := true
  review := .ok
    { success := true, output := [("approved", .bool true), ("rationale", .str "fine")]
      errors := [] }
  readReport := fun _ => .ok (some (.dict [("changed_files", .int 5)]))
  apply :=
    { failure := fun step =>
        if failing = some step then some (.calledProcessError "git push")
        else none
      branchName := "harness-task-run", hasChanges := true, listedCommit := none
      listedRollback := none, reviewUrl := none, commitSha := toString }
  identities := { taskId := "new", planId := "plan", now := 0, nonNegotiables := fun _ => none }

def workspaceOf (files : String) : PushedHistory String where
  graph :=
    { commits := [⟨[], "base"⟩]
      parentsEarlier := by
        intro id commit found
        have bound := (List.getElem?_eq_some_iff.mp found).1
        match id with
        | 0 =>
          cases found
          decide }
  remote := fun branch => if branch = "main" then some 0 else none
  head := 0
  mergeHeads := []
  staged := files
  pushes := []
  remoteKnown := by
    intro branch commit found
    split at found
    · cases found
      decide
    · cases found
  headKnown := by decide
  mergeKnown := nofun

def unjudgedState : AffirmState String where
  store := pendingStore
    [{ id := "artifact", runId := "run", kind := "report", path := "report" }]
  events := []
  workspace := workspaceOf "changes"

def unpushedState : AffirmState String where
  store := pendingStore []
  events :=
    [{ entityType := "run", entityId := "run", eventType := "project_workspace_prepared"
       payload :=
         [("workspace_mode", .str "git_worktree"), ("project_root", .str "/workspaces/run")] }]
  workspace := workspaceOf "changes"

theorem not_approvesSoundly_of_approved {host : AffirmHost} {before after : AffirmState String}
    {promotion : PromotionRecord}
    (stored : promotion ∈ before.store.promotions.rows)
    (pending : promotion.status = .pending)
    (approved : ∃ row ∈ after.store.promotions.rows,
      row.id = promotion.id ∧ row.status = .approved)
    (unsound : ¬ SoundApproval host before after promotion.runId) :
    ¬ ApprovesSoundly host before after :=
  fun sound => unsound (sound promotion stored pending approved)

/-- A promotion is approved where the gate has raised, and where the push of
its changes has failed. -/
theorem unsound_promotions_approved :
    ¬ ApprovesSoundly (approvingHost none) unjudgedState (stateAfter
          (affirmReview (approvingHost none) "task" none none true unjudgedState)) ∧
      ¬ ApprovesSoundly (approvingHost (some .push)) unpushedState (stateAfter
          (affirmReview (approvingHost (some .push)) "task" none none true unpushedState)) := by
  constructor
  · refine not_approvesSoundly_of_approved (mem_singleton_self _) rfl
      ⟨_, mem_singleton_self _, rfl, rfl⟩ ?_
    intro sound
    obtain ⟨_, evaluated, _⟩ := sound.gated
    cases evaluated
  · refine not_approvesSoundly_of_approved (mem_singleton_self _) rfl
      ⟨_, mem_singleton_self _, rfl, rfl⟩ ?_
    intro sound
    obtain ⟨_, changes⟩ := sound.published ⟨_, rfl, rfl⟩
    have none : (stateAfter (affirmReview (approvingHost (some .push)) "task"
        none none true unpushedState)).workspace.pushes = [] := by
      decide +kernel
    have longer := changes.pushed.length_le
    rw [none] at longer
    exact absurd longer (by simp)

end

end PromotionService

end AccruviaHarness
