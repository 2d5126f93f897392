import AccruviaHarness.Services.Affirmation
import AccruviaHarness.Services.TaskReview
import AccruviaHarness.Workflows.TaskCreation

/-!
# Which pending promotions can be affirmed

A review stores a pending promotion so that `affirm_review` decides about it.
-/

namespace AccruviaHarness

open Library

namespace TaskService

structure NewTaskFits (identities : TaskIdentities) (store : Store)
    (task : Task) : Prop where
  files : task.objective?.isSome → ∃ files, task.scope.getList "files_to_touch" = .ok files
  planFresh : task.objective?.isSome → ∀ plan ∈ store.plans.rows, plan.id ≠ identities.planId
  taskFresh : ∀ stored ∈ store.tasks.rows, stored.id ≠ task.id

theorem ensurePlanLinkage_returns_iff {identities : TaskIdentities} {store : Store} {task : Task}
    (unplanned : task.planId = none) :
    (∃ written linked, ensurePlanLinkage identities store task = .ok (written, linked)) ↔
      (task.objective?.isSome → ∃ files, task.scope.getList "files_to_touch" = .ok files) ∧
        (task.objective?.isSome → ∀ plan ∈ store.plans.rows, plan.id ≠ identities.planId) := by
  unfold ensurePlanLinkage
  cases task.objective? with
  | none => simp
  | some objectiveId =>
    rw [unplanned]
    dsimp only [Option.filter_none]
    cases listed : task.scope.getList "files_to_touch" with
    | error _ =>
      refine iff_of_false ?_ ?_
      · rintro ⟨_, _, linked⟩
        cases linked
      · rintro ⟨files, _⟩
        obtain ⟨_, same⟩ := files rfl
        cases same
    | ok files =>
      rw [ok_bind]
      unfold Store.createPlan
      cases inserted : store.plans.insert? (derivedPlan identities task objectiveId files) with
      | none =>
        obtain ⟨plan, stored, same⟩ := store.plans.insert?_eq_none_iff.mp inserted
        refine iff_of_false ?_ fun fits => fits.2 rfl plan stored same
        rintro ⟨_, _, linked⟩
        cases linked
      | some plans =>
        refine iff_of_true ⟨_, _, rfl⟩ ⟨fun _ => ⟨files, rfl⟩, fun _ plan stored same => ?_⟩
        have refused : store.plans.insert? (derivedPlan identities task objectiveId files) = none :=
          store.plans.insert?_eq_none_iff.mpr ⟨plan, stored, same⟩
        rw [refused] at inserted
        cases inserted

theorem createTask_returns_iff {identities : TaskIdentities} {store : Store} {task : Task}
    (unplanned : task.planId = none) :
    (∃ written created, createTask identities store task = .ok (written, created)) ↔
      referencedTask store task ≠ none ∨ NewTaskFits identities store task := by
  unfold createTask
  cases referenced : referencedTask store task with
  | some existing => exact iff_of_true ⟨_, _, rfl⟩ (.inl (Option.some_ne_none existing))
  | none =>
    rw [or_iff_right (not_not.mpr rfl)]
    have links := @ensurePlanLinkage_returns_iff identities store task unplanned
    cases linked : ensurePlanLinkage identities store task with
    | error _ =>
      refine iff_of_false ?_ fun fits => ?_
      · rintro ⟨_, _, created⟩
        cases created
      · obtain ⟨_, _, other⟩ := links.mpr ⟨fits.files, fits.planFresh⟩
        rw [linked] at other
        cases other
    | ok pair =>
      obtain ⟨_, _⟩ := pair
      obtain ⟨⟨_, rfl⟩, planId, mermaidNodeId, rfl⟩ := ensurePlanLinkage_spec linked
      obtain ⟨files, planFresh⟩ := links.mp ⟨_, _, linked⟩
      dsimp only
      cases inserted : store.tasks.insert?
          { task with planId, mermaidNodeId } with
      | none =>
        obtain ⟨stored, member, same⟩ := store.tasks.insert?_eq_none_iff.mp inserted
        refine iff_of_false ?_ fun fits => fits.taskFresh stored member same
        rintro ⟨_, _, created⟩
        cases created
      | some tasks =>
        refine iff_of_true ⟨_, _, rfl⟩ ⟨files, planFresh, fun stored member same => ?_⟩
        have refused : store.tasks.insert?
            { task with planId, mermaidNodeId } = none :=
          store.tasks.insert?_eq_none_iff.mpr ⟨stored, member, same⟩
        rw [refused] at inserted
        cases inserted

end TaskService

namespace PromotionService

open TaskService

variable {Tree : Type} (identities : TaskIdentities)

def followOnRow (parent : Task) (sourceRunId : String) : Task :=
  { parent with
    id := identities.taskId, planId := none, parentTaskId := some parent.id
    sourceRunId := some sourceRunId }

/-- The follow-on task of a run can be created: the parent's objective is one
of its project, and the new row is referenced already or fits. -/
structure FollowOnFits (identities : TaskIdentities) (store : Store)
    (parent : Task) (sourceRunId : String) : Prop where
  objective : ∀ objectiveId, parent.objectiveId = some objectiveId →
    ∃ objective, store.getObjective objectiveId = some objective ∧
      objective.projectId = parent.projectId
  row : let row := followOnRow identities parent sourceRunId
    referencedTask store row ≠ none ∨ NewTaskFits identities store row

theorem newTaskFits_congr {identities : TaskIdentities} {store : Store} {task other : Task}
    (id : task.id = other.id) (objective : task.objective? = other.objective?)
    (files : task.scope.get "files_to_touch" = other.scope.get "files_to_touch") :
    NewTaskFits identities store task ↔ NewTaskFits identities store other := by
  have listed : task.scope.getList "files_to_touch" = other.scope.getList "files_to_touch" := by
    unfold PyDict.getList
    rw [files]
  constructor
  · rintro ⟨filesFit, planFresh, taskFresh⟩
    exact ⟨listed ▸ objective ▸ filesFit, objective ▸ planFresh, id ▸ taskFresh⟩
  · rintro ⟨filesFit, planFresh, taskFresh⟩
    exact ⟨listed ▸ objective ▸ filesFit, objective ▸ planFresh, id ▸ taskFresh⟩

theorem followOn_returns_iff (store : Store) (parent : Task)
    (sourceRunId title objective : String) :
    (∃ written created, createTaskWithPolicy identities store
        (followOnPolicy parent sourceRunId title objective) = .ok (written, created)) ↔
      FollowOnFits identities store parent sourceRunId := by
  have stored (scope : Option PyDict) (files : (scope.getD []).get "files_to_touch" =
        parent.scope.get "files_to_touch") :
      (∃ written created, createTask identities store (policyTask identities
            (followOnPolicy parent sourceRunId title objective) scope) =
          .ok (written, created)) ↔
        (let row := followOnRow identities parent sourceRunId
        referencedTask store row ≠ none ∨ NewTaskFits identities store row) := by
    refine (createTask_returns_iff rfl).trans (or_congr .rfl ?_)
    exact newTaskFits_congr rfl rfl files
  unfold createTaskWithPolicy
  have given : (followOnPolicy parent sourceRunId title objective).objectiveId =
      parent.objectiveId := rfl
  rw [given]
  cases owned : parent.objectiveId with
  | none =>
    refine (stored _ rfl).trans ⟨fun row => ⟨?_, row⟩, FollowOnFits.row⟩
    intro objectiveId same
    rw [owned] at same
    cases same
  | some objectiveId =>
    dsimp only
    cases found : store.getObjective objectiveId with
    | none =>
      refine iff_of_false ?_ fun fits => ?_
      · rintro ⟨_, _, created⟩
        cases created
      · obtain ⟨_, known, _⟩ := fits.objective objectiveId owned
        rw [found] at known
        cases known
    | some known =>
      dsimp only
      split
      next foreign =>
        refine iff_of_false ?_ fun fits => ?_
        · rintro ⟨_, _, created⟩
          cases created
        · obtain ⟨other, same, own⟩ := fits.objective objectiveId owned
          rw [found] at same
          cases same
          exact foreign own
      next own =>
        refine (stored _ (filesToTouch_contractScope rfl _)).trans
          ⟨fun row => ⟨?_, row⟩, FollowOnFits.row⟩
        intro other same
        rw [owned] at same
        cases same
        exact ⟨known, found, not_not.mp own⟩

structure PromotionVerdict where
  result : SkillResult
  listed : ∃ concerns, result.output.getList "concerns" = .ok concerns

namespace PromotionVerdict

def Approves (verdict : PromotionVerdict) : Prop :=
  verdict.result.success = true ∧ (verdict.result.output.get "approved").truthy = true

def approving : PromotionVerdict where
  result :=
    { success := true
      output := [("approved", .bool true), ("rationale", .str "fine"),
        ("concerns", .list [])]
      errors := [] }
  listed := ⟨[], rfl⟩

def rejecting : PromotionVerdict where
  result := { success := false, output := [], errors := [] }
  listed := ⟨[], rfl⟩

theorem approves_approving : approving.Approves := ⟨rfl, rfl⟩

theorem not_approves_rejecting : ¬ rejecting.Approves := by
  intro approves
  cases approves.1

end PromotionVerdict

variable (host : AffirmHost)

def AffirmHost.withVerdict (verdict : PromotionVerdict) :
    AffirmHost :=
  { host with hasRouter := true, review := .ok verdict.result }

def DecidesPromotion (promotion : PromotionRecord) :
    EStateM.Result PyError (AffirmState Tree) PromotionReviewResult → Prop
  | .ok result after =>
    result.promotion.id = promotion.id ∧ (result.promotion.status = .approved ∨
        result.promotion.status = .rejected) ∧
        ∃ row ∈ after.store.promotions.rows, row.id = promotion.id ∧
          row.status = result.promotion.status
  | .error _ _ => False

def Affirmable (before : AffirmState Tree) (promotion : PromotionRecord) : Prop :=
  ∀ verdict, DecidesPromotion promotion
    (affirmReview (AffirmHost.withVerdict host verdict) promotion.taskId none
      (some promotion.id) true before)

section

variable {host : AffirmHost} {before : AffirmState Tree} {task : Task}
  {runTaskId : String} {promotion : PromotionRecord}

variable {store : Store}

theorem selectPromotion_of_awaits (awaits : AwaitsAffirmation store task runTaskId promotion) :
    selectPromotion store task.id none (some promotion.id) = .ok promotion := by
  have listed : promotion ∈ store.listPromotions task.id := by
    unfold Store.listPromotions
    rw [mem_orderBy, List.mem_filter]
    exact ⟨awaits.stored, by simp [awaits.own]⟩
  unfold selectPromotion
  dsimp only
  cases found : (store.listPromotions task.id).find? fun other => other.id = promotion.id with
  | none =>
    have refused := List.find?_eq_none.mp found promotion listed
    simp at refused
  | some other =>
    have member := List.mem_of_find?_eq_some found
    unfold Store.listPromotions at member
    rw [mem_orderBy, List.mem_filter] at member
    have named : other.id = promotion.id := by simpa using List.find?_some found
    rw [store.promotions.eq_of_key_eq member.1 awaits.stored named]

theorem selectRun_returns_iff (awaits : AwaitsAffirmation store task runTaskId promotion) :
    (∃ run, selectRun store task.id promotion.runId = .ok run) ↔
      runTaskId = task.id := by
  obtain ⟨run, stored, own⟩ := awaits.run
  unfold selectRun
  rw [stored]
  dsimp only
  rw [own]
  by_cases same : runTaskId = task.id
  · rw [if_pos same]
    exact iff_of_true ⟨run, rfl⟩ same
  · rw [if_neg same]
    refine iff_of_false ?_ same
    rintro ⟨_, selected⟩
    cases selected

theorem reviewAnswer_of_verdict (verdict : PromotionVerdict) :
    ∃ answer, reviewAnswer verdict.result = .ok answer ∧
      (answer.approved = true ↔ verdict.Approves) := by
  obtain ⟨_, listed⟩ := verdict.listed
  unfold reviewAnswer PromotionVerdict.Approves
  cases verdict.result.success with
  | false =>
    refine ⟨_, rfl, iff_of_false (fun approved => ?_) fun approves => ?_⟩
    · cases approved
    · cases approves.1
  | true =>
    rw [Bool.not_true, if_neg (by decide), listed]
    exact ⟨_, rfl, (and_iff_right rfl).symm⟩

theorem judge_of_awaits (host : AffirmHost)
    (awaits : AwaitsAffirmation store task runTaskId promotion)
    {run : Run} (selected : selectRun store task.id promotion.runId = .ok run)
    (verdict : PromotionVerdict) :
    ∃ judgement, judge (AffirmHost.withVerdict host verdict) store task.id none
          (some promotion.id) = .ok judgement ∧
        judgement.task = task ∧ judgement.promotion = promotion ∧
          judgement.run = run ∧ (judgement.approved = true ↔
              verdict.Approves ∧ GateStands host store promotion.runId) := by
  obtain ⟨answer, answered, approves⟩ := reviewAnswer_of_verdict verdict
  have named := id_of_selectRun selected
  unfold judge
  rw [if_neg (by simp [AffirmHost.withVerdict]), awaits.known]
  dsimp only
  rw [selectPromotion_of_awaits awaits, ok_bind,
    if_neg (not_not.mpr awaits.pending), selected, ok_bind]
  have reviewed : (AffirmHost.withVerdict host verdict).review = .ok verdict.result := rfl
  rw [reviewed, ok_bind, answered, ok_bind]
  refine ⟨_, rfl, rfl, rfl, rfl, ?_⟩
  rw [← approves]
  cases answer.approved with
  | false => simp
  | true =>
    rw [if_pos rfl, gateAffirmation_stands_iff, named]
    exact (and_iff_right rfl).symm

theorem exists_updated {left : Store} {stored updated : PromotionRecord}
    (member : stored ∈ store.promotions.rows) (own : updated.id = stored.id)
    (same : left.promotions = store.promotions) :
    ∃ row ∈ (left.updatePromotion updated).promotions.rows,
      row.id = stored.id ∧ row.status = updated.status := by
  rw [exists_status_updatePromotion, same]
  exact ⟨stored, member, rfl, if_pos own.symm⟩

theorem decides_approve_iff
    {judgement : Judgement} (stored : promotion ∈ before.store.promotions.rows)
    (judged : judgement.promotion = promotion)
    (ofRun : judgement.run.id = promotion.runId) :
    DecidesPromotion promotion (approve host judgement before) ↔
      ApplicationEnds host before judgement.task promotion.runId := by
  have described : ApplicationOutcome host before judgement.task judgement.run.id
      (applyApprovedPromotion host judgement.task judgement.run before) :=
    applicationOutcome_applyApprovedPromotion
  rw [ofRun] at described
  rw [← described.ends]
  cases ended : applyApprovedPromotion host judgement.task judgement.run before with
  | error _ _ =>
    rw [approve_of_error ended]
    refine iff_of_false id ?_
    rintro ⟨_, _, other⟩
    cases other
  | ok applyback left =>
    rw [ended] at described
    rw [approve_of_ok ended]
    refine iff_of_true ?_ ⟨_, _, rfl⟩
    have kept : left.store = before.store := described.store
    have own : (approvedPromotion judgement applyback).id =
        promotion.id := by
      rw [← judged]
      rfl
    exact ⟨own, .inl rfl, exists_updated stored own (congrArg Store.promotions kept)⟩

theorem decides_reject_iff
    {judgement : Judgement} (stored : promotion ∈ before.store.promotions.rows)
    (judged : judgement.promotion = promotion)
    (ofRun : judgement.run.id = promotion.runId)
    (issues : issuesFromPromotionDetails promotion.details = .ok []) :
    DecidesPromotion promotion (reject host judgement true before) ↔
      before.store.findFollowOnTask judgement.task.id promotion.runId ≠ none ∨
        FollowOnFits host.identities before.store judgement.task
          promotion.runId := by
  have rejected : reject host judgement true before = EStateM.bind (followOnTask host judgement [])
        (fun created => recordRejection judgement (some created)) before := by
    unfold reject
    rw [judged, issues]
    rfl
  have decided {left : AffirmState Tree} (same : left.store.promotions = before.store.promotions)
      (created : String) : DecidesPromotion promotion
        (recordRejection judgement (some created) left) := by
    have own : (rejectedPromotion judgement (.str created)).id =
        promotion.id := by
      rw [← judged]
      rfl
    exact ⟨own, .inr rfl, exists_updated stored own same⟩
  rw [rejected, EStateM.bind, followOnTask_apply]
  unfold followOnFor
  dsimp only
  rw [ofRun]
  cases found : before.store.findFollowOnTask judgement.task.id promotion.runId with
  | some existing =>
    exact iff_of_true (decided rfl existing.id) (.inl (Option.some_ne_none existing))
  | none =>
    rw [or_iff_right (not_not.mpr rfl)]
    have creates := followOn_returns_iff host.identities before.store judgement.task promotion.runId
      (followOnFromIssues judgement.task.title []).1
      (followOnFromIssues judgement.task.title []).2
    rw [← creates]
    cases created : TaskService.createTaskWithPolicy host.identities
      before.store (followOnPolicy judgement.task promotion.runId
        (followOnFromIssues judgement.task.title []).1
        (followOnFromIssues judgement.task.title []).2) with
    | error _ =>
      refine iff_of_false id ?_
      rintro ⟨_, _, other⟩
      cases other
    | ok pair =>
      obtain ⟨written, task⟩ := pair
      refine iff_of_true ?_ ⟨_, _, rfl⟩
      have kept : written.promotions = before.store.promotions :=
        promotions_createTaskWithPolicy created
      exact decided kept task.id

structure CanBeAffirmed (host : AffirmHost) (before : AffirmState Tree)
    (task : Task) (runTaskId : String) (promotion : PromotionRecord) :
    Prop where
  ownRun : runTaskId = task.id
  applies : GateStands host before.store promotion.runId →
    ApplicationEnds host before task promotion.runId
  rejects :
    before.store.findFollowOnTask task.id promotion.runId ≠ none ∨
      FollowOnFits host.identities before.store task promotion.runId

theorem affirmable_iff_of_awaits
    (awaits : AwaitsAffirmation before.store task runTaskId promotion) :
    Affirmable host before promotion ↔ CanBeAffirmed host before task runTaskId promotion := by
  have found := selectRun_returns_iff awaits
  by_cases ownRun : runTaskId = task.id
  · obtain ⟨run, selected⟩ := found.mpr ownRun
    have named := id_of_selectRun selected
    -- A verdict that passes the gate is applied, every other one rejected.
    have decides (verdict : PromotionVerdict) :
        DecidesPromotion promotion (affirmReview (AffirmHost.withVerdict host verdict)
              promotion.taskId none (some promotion.id) true before) ↔
          (verdict.Approves ∧ GateStands host before.store promotion.runId →
            ApplicationEnds host before task promotion.runId) ∧
          (¬ (verdict.Approves ∧ GateStands host before.store promotion.runId) →
            before.store.findFollowOnTask task.id promotion.runId ≠ none ∨
              FollowOnFits host.identities before.store task promotion.runId) := by
      obtain ⟨judgement, judged, ofTask, ofPromotion, ofRun, approved⟩ :=
        judge_of_awaits host awaits selected verdict
      have ran : judgement.run.id = promotion.runId := by
        rw [ofRun]
        exact named
      rw [affirmReview_eq, awaits.own, judged]
      dsimp only
      rw [← approved]
      cases accepted : judgement.approved with
      | true =>
        rw [if_pos rfl, decides_approve_iff awaits.stored ofPromotion ran, ofTask]
        exact ⟨fun ends => ⟨fun _ => ends, fun other => absurd rfl other⟩, fun both => both.1 rfl⟩
      | false =>
        rw [if_neg (by decide), decides_reject_iff awaits.stored ofPromotion ran awaits.issues,
          ofTask]
        refine ⟨fun rejects => ⟨fun other => ?_, fun _ => rejects⟩, fun both => both.2 (by decide)⟩
        cases other
    constructor
    · intro affirmable
      have approving := (decides .approving).mp (affirmable .approving)
      have rejecting := (decides .rejecting).mp (affirmable .rejecting)
      have refused : ¬ (PromotionVerdict.rejecting.Approves ∧
          GateStands host before.store promotion.runId) :=
        fun both => PromotionVerdict.not_approves_rejecting both.1
      exact ⟨ownRun, fun stands =>
        approving.1 ⟨PromotionVerdict.approves_approving, stands⟩,
        rejecting.2 refused⟩
    · intro can verdict
      exact (decides verdict).mpr ⟨fun both => can.applies both.2, fun _ => can.rejects⟩
  · refine iff_of_false ?_ fun can => ownRun can.ownRun
    intro affirmable
    have decided := affirmable .rejecting
    rw [affirmReview_eq, awaits.own] at decided
    have judged : ∃ error, judge (AffirmHost.withVerdict host .rejecting)
        before.store task.id none (some promotion.id) = .error error := by
      unfold judge
      rw [if_neg (by simp [AffirmHost.withVerdict]), awaits.known]
      dsimp only
      rw [selectPromotion_of_awaits awaits, ok_bind, if_neg (not_not.mpr awaits.pending)]
      cases selected : selectRun before.store task.id promotion.runId with
      | error error => exact ⟨error, rfl⟩
      | ok run => exact absurd (found.mp ⟨run, selected⟩) ownRun
    obtain ⟨_, raised⟩ := judged
    rw [raised] at decided
    exact decided

end

/-- A promotion that a review leaves pending can be affirmed exactly when its
run is one of the promoted task, nothing but a failed git command stops the
application of the workspace where the gate stands, and the follow-on task of
a rejection is there or can be created. -/
theorem pending_promotion_affirmable_iff
    {reviewHost : ReviewHost} {call : ReviewCall} {createFollowOn : Bool}
    {earlier before : AffirmState Tree} {result : PromotionReviewResult}
    (returned : call.perform reviewHost createFollowOn earlier = .ok result before)
    (pending : result.promotion.status = .pending) (host : AffirmHost) :
    ∃ task, before.store.getTask call.taskId = some task ∧
      (Affirmable host before result.promotion ↔
        CanBeAffirmed host before task call.runTaskId result.promotion) := by
  obtain ⟨task, named, awaits⟩ := awaits_of_perform returned pending
  exact ⟨task, named ▸ awaits.known, affirmable_iff_of_awaits awaits⟩

/-! ## Promotions that cannot be decided -/

def plainReview : ReviewHost where
  validators := fun _ => .ok []
  promotionId := "promotion"
  now := 0
  identities := { taskId := "new", planId := "plan", now := 0, nonNegotiables := fun _ => none }

def remediedStore : Store where
  projects := .single { id := "project", promotionMode := .branchOnly }
  tasks :=
    ⟨[{ id := "task", projectId := "project" },
      { id := "remedy", projectId := "project" }], by decide⟩
  runs :=
    ⟨[{ id := "run", taskId := "task", status := .completed, attempt := 1 },
      { id := "second", taskId := "remedy", status := .completed, attempt := 1 }], by decide⟩
  decisions := [{ id := "decision", runId := "run", action := .promote }]

def remediedState : AffirmState String where
  store := remediedStore
  events :=
    [{ entityType := "run", entityId := "run", eventType := "project_workspace_prepared"
       payload :=
         [("workspace_mode", .str "git_worktree"), ("project_root", .str "/workspaces/run")] }]
  workspace := workspaceOf "changes"

def AlwaysAffirmable (host : AffirmHost) (call : ReviewCall) : Prop :=
  ∀ (reviewHost : ReviewHost) (createFollowOn : Bool)
    (earlier before : AffirmState String) (result : PromotionReviewResult),
    call.perform reviewHost createFollowOn earlier = .ok result before →
      result.promotion.status = .pending → Affirmable host before result.promotion

theorem reviewed_promotion_affirmable :
    ∃ before result, reviewTask plainReview "task" none true remediedState = .ok result before ∧
        Affirmable (approvingHost none) before result.promotion := by
  refine ⟨_, _, rfl, ?_⟩
  have returned : (ReviewCall.review "task" none).perform plainReview true
      remediedState = .ok _ _ := rfl
  obtain ⟨_, known, affirmable⟩ :=
    pending_promotion_affirmable_iff returned rfl (approvingHost none)
  cases known
  refine affirmable.mpr ⟨rfl, fun _ => ?_, .inr ⟨nofun, .inr ?_⟩⟩
  · refine .inr ⟨_, ⟨rfl, _, rfl, rfl, _, rfl⟩, ?_⟩
    intro error found
    cases found
  · refine ⟨fun owned => ?_, fun owned => ?_, by decide⟩
    · cases owned
    · cases owned

/-- The promotion of a remediation run is not found by the affirmation, and
the one of a run that has committed its changes cannot be approved. -/
theorem promotions_left_undecided :
    (¬ ∀ host call, host.apply.hasChanges = true → AlwaysAffirmable host call) ∧
      ¬ ∀ host call, call.runTaskId = call.taskId → AlwaysAffirmable host call := by
  constructor
  · intro claim
    have affirmable := claim (approvingHost none)
      (.rereview "task" "remedy" none none) rfl plainReview true remediedState
      _ _ rfl rfl
    exact affirmable .approving
  · intro claim
    have affirmable := claim
      { approvingHost none with
        apply := { (approvingHost none).apply with hasChanges := false } }
      (.review "task" none) rfl plainReview true remediedState _ _ rfl rfl
    exact affirmable .approving

end PromotionService

end AccruviaHarness
