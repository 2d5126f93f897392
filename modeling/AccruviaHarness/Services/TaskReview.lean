import AccruviaHarness.Library.Frames
import AccruviaHarness.Services.PromotionService

/-!
# Reviewing a task for promotion

`review_task` and `rereview_task` let the validators judge the artifacts of a
run.
-/

namespace AccruviaHarness

open Library List

/-- A `ValidationIssue` with the fields that only its serialization reads. -/
structure ReportedIssue extends ValidationIssue where
  code : String
  details : PyDict

structure ValidationResult where
  validator : String
  ok : Bool
  summary : String
  issues : List ReportedIssue

abbrev PromotionValidator := Task → List Artifact → Except PyError ValidationResult

structure ReviewHost where
  /-- The validators of the service or of the task's validation profile. -/
  validators : Task → Except PyError (List PromotionValidator)
  promotionId : String
  now : Int
  identities : TaskIdentities

namespace PromotionService

variable {Tree : Type}

def serializeIssue (issue : ReportedIssue) : PyValue :=
  .dict [("code", .str issue.code), ("summary", .str issue.summary),
      ("details", .dict issue.details),
      ("follow_on_title", PromotionMixin.optionalText issue.followOnTitle),
      ("follow_on_objective", PromotionMixin.optionalText issue.followOnObjective)]

def serializeResult (result : ValidationResult) : PyValue :=
  .dict [("validator", .str result.validator), ("ok", .bool result.ok),
      ("summary", .str result.summary),
      ("issues", .list (result.issues.map serializeIssue))]

variable (results : List ValidationResult)

def serializedResults : PyValue := .list (results.map serializeResult)

def issuesOf : List ReportedIssue := results.flatMap ValidationResult.issues

/-- `_select_run` with an optional run. -/
def selectRunOrLast (store : Store) (taskId : String) :
    Option String → Except PyError Run
  | some runId => selectRun store taskId runId
  | none =>
    match (store.listRuns taskId).getLast? with
    | some run => .ok run
    | none => .error <| .valueError <| "Task " ++ taskId ++ " has no runs to review"

variable (host : ReviewHost) (task : Task)

def validate (artifacts : List Artifact) :
    Except PyError (List ValidationResult) := do
  let validators ← host.validators task
  validators.mapM fun validator => validator task artifacts

def createPromotion (promotion : PromotionRecord) :
    AffirmProgram Tree Unit := do
  let state ← get
  match state.store.promotions.insert? promotion with
  | none => throw <| .integrityError "UNIQUE constraint failed: promotions.id"
  | some promotions => set { state with store := { state.store with promotions } }

def recordEvents (events : List Event) : AffirmProgram Tree Unit :=
  modify fun state => { state with events := state.events ++ events }

def reviewFollowOn (identities : TaskIdentities) (parent : Task)
    (run : Run) (title : String) (issues : List ReportedIssue) :
    AffirmProgram Tree (Option String) := do
  let state ← get
  match state.store.findFollowOnTask parent.id run.id with
  | some existing => return some existing.id
  | none =>
    let wanted := followOnFromIssues title (issues.map ReportedIssue.toValidationIssue)
    match TaskService.createTaskWithPolicy identities state.store
      (followOnPolicy parent run.id wanted.1 wanted.2) with
    | .error error => throw error
    | .ok (store, created) =>
      set { state with
        store
        events := state.events ++
          [taskEvent created.id "follow_on_task_created" [("parent_task_id", .str parent.id),
              ("source_run_id", .str run.id)]] }
      return some created.id

def ifWanted (createFollowOn : Bool) (followOn : AffirmProgram Tree (Option String)) :
    AffirmProgram Tree (Option String) :=
  if createFollowOn then followOn else return none

structure ReviewRecord where
  /-- The parent of a follow-on task. -/
  parent : Task
  pendingSummary : String
  rejectedSummary : String
  pendingDetails : PyDict
  rejectedDetails : List ReportedIssue → PyDict
  pendingEvents : PyDict → List Event
  rejectedEvents : PyDict → List Event

def concludeReview (run : Run) (results : List ValidationResult) (record : ReviewRecord)
    (createFollowOn : Bool) : AffirmProgram Tree PromotionReviewResult := do
  let named : PyDict := [("promotion_id", .str host.promotionId), ("run_id", .str run.id)]
  if (issuesOf results).isEmpty then
    let promotion : PromotionRecord :=
      { id := host.promotionId, taskId := task.id, runId := run.id, status := .pending
        summary := record.pendingSummary
        details := ("validators", serializedResults results) :: record.pendingDetails
        createdAt := host.now }
    createPromotion promotion
    recordEvents (record.pendingEvents named)
    return { promotion, followOnTaskId := none }
  else
    let followOnTaskId ← ifWanted createFollowOn <|
      reviewFollowOn host.identities record.parent run task.title (issuesOf results)
    let followOn : PyDict := [("follow_on_task_id", PromotionMixin.optionalText followOnTaskId)]
    let promotion : PromotionRecord :=
      { id := host.promotionId, taskId := task.id, runId := run.id, status := .rejected
        summary := record.rejectedSummary
        details :=
          ("validators", serializedResults results) ::
            record.rejectedDetails (issuesOf results) ++ followOn
        createdAt := host.now }
    createPromotion promotion
    recordEvents (record.rejectedEvents (named ++ followOn))
    return { promotion, followOnTaskId }

def reviewRecord : ReviewRecord where
  parent := task
  pendingSummary := "Deterministic promotion gates passed; awaiting LLM affirmation."
  rejectedSummary := "Promotion review rejected the candidate."
  pendingDetails := [("affirmation_required", .bool true)]
  rejectedDetails issues := [("issue_count", .int issues.length)]
  pendingEvents named := [taskEvent task.id "promotion_pending" named]
  rejectedEvents named := [taskEvent task.id "promotion_rejected" named]

def reviewTask (taskId : String) (runId : Option String)
    (createFollowOn : Bool) : AffirmProgram Tree PromotionReviewResult := do
  let state ← get
  match state.store.getTask taskId with
  | none => throw <| .valueError ("Unknown task: " ++ taskId)
  | some task =>
    let run ← valueOf (selectRunOrLast state.store taskId runId)
    if run.status ≠ .completed then
      throw <| .valueError ("Run " ++ run.id ++ " is not promotion-eligible")
    else
      let results ← valueOf (validate host task (state.store.listArtifacts run.id))
      concludeReview host task run results (reviewRecord task) createFollowOn

def basePromotion (store : Store) (taskId : String) :
    Option String → Except PyError (Option PromotionRecord)
  | some promotionId =>
    if promotionId = "" then .ok (store.listPromotions taskId).getLast?
    else (selectPromotion store taskId none (some promotionId)).map some
  | none => .ok (store.listPromotions taskId).getLast?

def rereviewDetails (base : Option PromotionRecord)
    (remediationTaskId : String) (run : Run) : PyDict :=
  [("review_mode", .str "rereview"), ("base_promotion_id",
      PromotionMixin.optionalText (base.map PromotionRecord.id)),
    ("remediation_task_id", .str remediationTaskId),
    ("remediation_run_id", .str run.id)]

def rereviewRecord (remediationTask : Task) (base : Option PromotionRecord)
    (run : Run) : ReviewRecord where
  parent := remediationTask
  pendingSummary :=
    "Remediation candidate passed deterministic gates; awaiting LLM " ++ "affirmation."
  rejectedSummary := "Remediation candidate failed re-review."
  pendingDetails :=
    ("affirmation_required", .bool true) :: rereviewDetails base remediationTask.id run
  rejectedDetails _ := rereviewDetails base remediationTask.id run
  pendingEvents _ := []
  rejectedEvents _ := []

def rereviewTask (taskId remediationTaskId : String)
    (remediationRunId basePromotionId : Option String)
    (createFollowOn : Bool) : AffirmProgram Tree PromotionReviewResult := do
  let state ← get
  match state.store.getTask taskId, state.store.getTask remediationTaskId with
  | none, _ => throw <| .valueError ("Unknown task: " ++ taskId)
  | some _, none => throw <| .valueError ("Unknown remediation task: " ++ remediationTaskId)
  | some task, some remediationTask =>
    let base ← valueOf (basePromotion state.store taskId basePromotionId)
    let run ← valueOf (selectRunOrLast state.store remediationTaskId remediationRunId)
    let results ← valueOf (validate host task (state.store.listArtifacts run.id))
    concludeReview host task run results (rereviewRecord remediationTask base run) createFollowOn

/-! ## What a review leaves -/

inductive ReviewCall where
  | review (taskId : String) (runId : Option String)
  | rereview (taskId remediationTaskId : String) (remediationRunId basePromotionId : Option String)

namespace ReviewCall

def taskId : ReviewCall → String
  | review taskId _ => taskId
  | rereview taskId _ _ _ => taskId

def runTaskId : ReviewCall → String
  | review taskId _ => taskId
  | rereview _ remediationTaskId _ _ => remediationTaskId

def perform (host : ReviewHost) (createFollowOn : Bool) :
    ReviewCall → AffirmProgram Tree PromotionReviewResult
  | review taskId runId => reviewTask host taskId runId createFollowOn
  | rereview taskId remediationTaskId remediationRunId basePromotionId =>
    rereviewTask host taskId remediationTaskId remediationRunId basePromotionId createFollowOn

end ReviewCall

structure AwaitsAffirmation (store : Store) (task : Task)
    (runTaskId : String) (promotion : PromotionRecord) : Prop where
  known : store.getTask task.id = some task
  stored : promotion ∈ store.promotions.rows
  pending : promotion.status = .pending
  own : promotion.taskId = task.id
  run : ∃ run, store.getRun promotion.runId = some run ∧
    run.taskId = runTaskId
  issues : issuesFromPromotionDetails promotion.details = .ok []

variable {run : Run} {host : ReviewHost} {createFollowOn : Bool}
  {result : PromotionReviewResult}

theorem selectRunOrLast_spec {store : Store} {taskId : String} {runId : Option String}
    (selected : selectRunOrLast store taskId runId = .ok run) :
    store.getRun run.id = some run ∧ run.taskId = taskId := by
  cases runId with
  | some _ =>
    unfold selectRunOrLast selectRun at selected
    dsimp only at selected
    split at selected
    · cases selected
    next found stored =>
      split at selected
      next same =>
        cases selected
        have named := (store.runs.lookup_eq_some_iff.mp stored).2
        rw [named]
        exact ⟨stored, same⟩
      · cases selected
  | none =>
    unfold selectRunOrLast at selected
    dsimp only at selected
    split at selected
    next found last =>
      cases selected
      have listed := mem_of_getLast? last
      unfold Store.listRuns Store.runsOf at listed
      rw [mem_orderBy, mem_filter] at listed
      exact ⟨store.runs.lookup_of_mem listed.1, of_decide_eq_true listed.2⟩
    · cases selected

def recordedIssues (result : PyDict) :
    Except PyError (List ValidationIssue) := do
  let items ← result.iterate "issues"
  return (items.filterMap PyValue.asDict).map issueOf

variable {results : List ValidationResult} {before after : AffirmState Tree}

theorem recordedIssues_of_none (none : issuesOf results = []) :
    ((results.map serializeResult).filterMap PyValue.asDict).mapM recordedIssues =
      .ok (results.map fun _ => []) := by
  induction results with
  | nil => rfl
  | cons result _ ih =>
    obtain ⟨own, others⟩ := append_eq_nil_iff.mp none
    have first : recordedIssues [("validator", .str result.validator), ("ok", .bool result.ok),
          ("summary", .str result.summary),
          ("issues", .list (result.issues.map serializeIssue))] =
        .ok [] := by
      rw [own]
      rfl
    show List.mapM recordedIssues (_ :: _) = _
    rw [mapM_cons, first, ih others]
    rfl

theorem issuesFromPromotionDetails_of_none (none : issuesOf results = []) (details : PyDict) :
    issuesFromPromotionDetails (("validators", serializedResults results) :: details) = .ok [] := by
  have recorded : issuesFromPromotionDetails
      (("validators", serializedResults results) :: details) = (do
        let issues ← ((results.map serializeResult).filterMap PyValue.asDict).mapM recordedIssues
        return issues.flatten) := rfl
  rw [recorded, recordedIssues_of_none none, ok_bind]
  refine congrArg Except.ok (flatten_eq_nil_iff.mpr ?_)
  intro issues member
  obtain ⟨_, _, rfl⟩ := mem_map.mp member
  rfl

theorem createPromotion_ok {promotion : PromotionRecord} {result : Unit}
    (created : createPromotion promotion before = .ok result after) :
    ∃ promotions, before.store.promotions.insert? promotion = some promotions ∧
        after.store = { before.store with promotions } := by
  have applied : createPromotion promotion before =
      (match before.store.promotions.insert? promotion with
      | none => throw <| .integrityError "UNIQUE constraint failed: promotions.id"
      | some promotions => set { before with store := { before.store with promotions } } :
      AffirmProgram Tree Unit) before := rfl
  rw [applied] at created
  cases inserted : before.store.promotions.insert? promotion with
  | none =>
    rw [inserted] at created
    cases created
  | some promotions =>
    rw [inserted] at created
    cases created
    exact ⟨promotions, rfl, rfl⟩

theorem concludeReview_pending {task : Task} {record : ReviewRecord}
    (returned : concludeReview host task run results record createFollowOn
      before = .ok result after)
    (pending : result.promotion.status = .pending) :
    issuesOf results = [] ∧
      (∃ promotions, before.store.promotions.insert? result.promotion = some promotions ∧
          after.store = { before.store with promotions }) ∧
        result.promotion.taskId = task.id ∧
          result.promotion.runId = run.id ∧ result.promotion.details =
              ("validators", serializedResults results) ::
                record.pendingDetails := by
  unfold concludeReview at returned
  by_cases none : (issuesOf results).isEmpty = true
  · rw [if_pos none] at returned
    obtain ⟨_, _, created, returned⟩ := ok_of_bind returned
    have inserted := createPromotion_ok created
    cases returned
    exact ⟨isEmpty_iff.mp none, inserted, rfl, rfl, rfl⟩
  · rw [if_neg none] at returned
    obtain ⟨_, _, _, returned⟩ := ok_of_bind returned
    obtain ⟨_, _, _, returned⟩ := ok_of_bind returned
    cases returned
    cases pending

theorem awaits_of_perform {call : ReviewCall}
    (returned : call.perform host createFollowOn before = .ok result after)
    (pending : result.promotion.status = .pending) :
    ∃ task : Task, task.id = call.taskId ∧ AwaitsAffirmation after.store task call.runTaskId
        result.promotion := by
  -- Both calls end with the same steps, for a stored task and a stored run.
  have concluded {task : Task} {run : Run} {results : List ValidationResult}
      {record : ReviewRecord} {runTaskId : String}
      (known : before.store.getTask call.taskId = some task)
      (chosen : before.store.getRun run.id = some run ∧
        run.taskId = runTaskId)
      (ended : concludeReview host task run results record createFollowOn
        before = .ok result after) :
      task.id = call.taskId ∧ AwaitsAffirmation after.store task runTaskId result.promotion := by
    obtain ⟨none, ⟨promotions, inserted, store⟩, own, ofRun, details⟩ :=
      concludeReview_pending ended pending
    have named := (before.store.tasks.lookup_eq_some_iff.mp known).2
    refine ⟨named, ?_, ?_, pending, own, ⟨run, ?_, chosen.2⟩, ?_⟩
    · rw [store, named]
      exact known
    · rw [store]
      show result.promotion ∈ promotions.rows
      rw [KeyedTable.rows_of_insert? inserted]
      exact mem_append_right _ (mem_singleton_self _)
    · rw [store, ofRun]
      exact chosen.1
    · rw [details]
      exact issuesFromPromotionDetails_of_none none _
  cases call with
  | review taskId _ =>
    obtain ⟨state, _, read, returned⟩ := ok_of_bind returned
    cases read
    cases known : before.store.getTask taskId with
    | none =>
      rw [known] at returned
      cases returned
    | some task =>
      rw [known] at returned
      obtain ⟨run, _, selected, returned⟩ := ok_of_bind returned
      obtain ⟨rfl, chosen⟩ := ok_of_valueOf selected
      by_cases eligible : run.status ≠ .completed
      · rw [if_pos eligible] at returned
        cases returned
      · rw [if_neg eligible] at returned
        obtain ⟨results, _, validated, ended⟩ := ok_of_bind returned
        obtain ⟨rfl, _⟩ := ok_of_valueOf validated
        exact ⟨task, concluded known (selectRunOrLast_spec chosen) ended⟩
  | rereview taskId remediationTaskId _ _ =>
    obtain ⟨_, _, read, returned⟩ := ok_of_bind returned
    cases read
    cases known : before.store.getTask taskId with
    | none =>
      rw [known] at returned
      cases returned
    | some task =>
      cases remedied : before.store.getTask remediationTaskId with
      | none =>
        rw [known, remedied] at returned
        cases returned
      | some _ =>
        rw [known, remedied] at returned
        obtain ⟨_, _, based, returned⟩ := ok_of_bind returned
        obtain ⟨rfl, _⟩ := ok_of_valueOf based
        obtain ⟨_, _, selected, returned⟩ := ok_of_bind returned
        obtain ⟨rfl, chosen⟩ := ok_of_valueOf selected
        obtain ⟨_, _, validated, ended⟩ := ok_of_bind returned
        obtain ⟨rfl, _⟩ := ok_of_valueOf validated
        exact ⟨task, concluded known (selectRunOrLast_spec chosen) ended⟩

end PromotionService

end AccruviaHarness
