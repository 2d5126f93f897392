import AccruviaHarness.Store.Schema
import Mathlib.Algebra.GroupWithZero.Nat

/-!
# The promotion review of an objective

`PromotionReviewBuilder.build`: the context records of an objective are
grouped into review rounds, one for each start record, and the latest round
and the linked tasks decide whether the objective is clear to promote.
-/

namespace AccruviaHarness

open Library

structure VerdictCounts where
  pass : Nat
  concern : Nat
  remediationRequired : Nat
  deriving DecidableEq, Repr

def VerdictCounts.of (verdicts : List String) : VerdictCounts where
  pass := verdicts.count ReviewVerdict.pass.value
  concern := verdicts.count ReviewVerdict.concern.value
  remediationRequired := verdicts.count ReviewVerdict.remediationRequired.value

structure TaskCounts where
  total : Nat
  completed : Nat
  active : Nat
  pending : Nat
  failed : Nat
  deriving DecidableEq, Repr

def TaskCounts.of (statuses : List TaskStatus) : TaskCounts where
  total := statuses.length
  completed := statuses.count .completed
  active := statuses.count .active
  pending := statuses.count .pending
  failed := statuses.count .failed

structure PacketRow where
  reviewId : String
  reviewer : String
  dimension : String
  verdict : String
  progressStatus : String
  severity : String
  ownerScope : String
  summary : String
  findings : List PyValue
  evidence : List PyValue
  requiredArtifactType : String
  artifactSchema : PyDict
  closureCriteria : String
  evidenceRequired : String
  repeatReason : String
  backend : PyValue
  createdAt : Int

structure OverrideRow where
  recordId : String
  rationale : String
  createdAt : Int
  waivedTaskIds : List PyValue

structure RoundRow where
  reviewId : String
  roundNumber : Nat
  status : String
  startedAt : Int
  completedAt : Option Int
  failedAt : Option Int
  lastActivityAt : Int
  packetCount : Nat
  verdictCounts : VerdictCounts
  packets : List PacketRow
  operatorOverride : Option OverrideRow
  remediationCounts : TaskCounts
  remediationTasks : List (String × String × TaskStatus)
  needsRemediation : Bool

structure FailedEntry where
  taskId : String
  title : String
  objective : String
  effectiveStatus : String
  disposition : Option PyDict

structure PromotionReview where
  ready : Bool
  reviewClear : Bool
  phase : String
  recommendedView : String
  verdictCounts : VerdictCounts
  taskCounts : TaskCounts
  waivedFailedCount : Nat
  historicalFailedCount : Nat
  unresolvedFailedCount : Nat
  objectiveReviewPacketCount : Nat
  reviewRounds : List RoundRow
  canStartNewRound : Bool
  canForcePromote : Bool
  operatorOverride : Option OverrideRow
  failedTasks : List FailedEntry
  nextAction : String

/-- `sorted(…, key=(created_at, dimension), reverse=True)`. -/
def NewestPacket (first second : PacketRow) : Prop :=
  second.createdAt < first.createdAt ∨
    (first.createdAt = second.createdAt ∧ second.dimension ≤ first.dimension)

instance : DecidableRel NewestPacket := fun _ _ => inferInstanceAs (Decidable (_ ∨ _))

/-- `sorted(…, key=round_number, reverse=True)`. -/
def LatestRound (first second : RoundRow) : Prop := second.roundNumber ≤ first.roundNumber

instance : DecidableRel LatestRound := fun _ _ => inferInstanceAs (Decidable (_ ≤ _))

instance : Std.Total LatestRound where
  total first second := Nat.le_total second.roundNumber first.roundNumber

instance : IsTrans RoundRow LatestRound where
  trans _ _ _ first second := Nat.le_trans second first

/-- `sorted(…, key=created_at)` of tasks. -/
def OldestTask (first second : Task) : Prop := first.createdAt ≤ second.createdAt

instance : DecidableRel OldestTask := fun _ _ => inferInstanceAs (Decidable (_ ≤ _))

namespace PromotionReviewBuilder

/-- `list_context_records(objective_id=…)`. An empty id lists all records. -/
def objectiveRecords (store : Store) (objectiveId : String) : List ContextRecord :=
  orderBy Store.ContextOrder <|
    store.contextRecords.filter fun record =>
      objectiveId = "" || record.objectiveId = some objectiveId

variable (records : List ContextRecord)

def ofType (recordType : String) : List ContextRecord :=
  records.filter fun record => record.recordType = recordType

def startedReviewId (start : ContextRecord) : String :=
  ((start.metadata.get "review_id").orValue (.str start.id)).toStr

def ofReview (recordType reviewId : String) : List ContextRecord :=
  (ofType records recordType).filter fun record => record.metadata.getStr "review_id" = reviewId

def startOrder : List ContextRecord :=
  orderBy Store.ContextOrder (ofType records "objective_review_started")

def promotionRecordTypes : List String :=
  ["objective_review_started", "objective_review_completed",
    "objective_review_failed", "objective_review_packet",
    "objective_review_cycle_artifact", "objective_review_worker_response",
    "objective_review_reviewer_rebuttal",
    "objective_review_override_approved"]

def promotionStarted : Bool :=
  records.any fun record => promotionRecordTypes.contains record.recordType

variable (task : Task)

def failedTaskDisposition : Option PyDict :=
  (task.externalRefMetadata.get "failed_task_disposition").asDict

/-- The disposition is `waive_obsolete`. -/
def isWaivedObsolete : Bool :=
  match failedTaskDisposition task with
  | some disposition => disposition.getStr "kind" = "waive_obsolete"
  | none => false

def hasWaiver : Bool :=
  (ofType records "failed_task_waived").any fun record =>
    record.metadata.getStr "task_id" ≠ "" && record.metadata.getStr "task_id" = task.id

def effectiveStatus : String :=
  if hasWaiver records task ∨ isWaivedObsolete task then "waived"
  else if promotionStarted records then "historical"
  else "blocking"

def failedEntries (linkedTasks : List Task) : List FailedEntry :=
  (linkedTasks.filter fun task => task.status = .failed).map fun task =>
    { taskId := task.id, title := task.title, objective := task.objective
      effectiveStatus := effectiveStatus records task, disposition := failedTaskDisposition task }

def failedCount (linkedTasks : List Task) (status : String) : Nat :=
  (failedEntries records linkedTasks).countP fun entry => entry.effectiveStatus = status

/-- `ready`. -/
def isReady (linkedTasks : List Task) :
    Bool :=
  let counts := TaskCounts.of (linkedTasks.map Task.status)
  counts.active = 0 && counts.pending = 0 && failedCount records linkedTasks "blocking" = 0

def remediationTasks (linkedTasks : List Task) (reviewId : String) : List Task :=
  linkedTasks.filter fun task =>
    match (task.externalRefMetadata.get
      "objective_review_remediation").asDict with
    | some remediation =>
      remediation.getStr "review_id" ≠ "" && remediation.getStr "review_id" = reviewId
    | none => false

def remediationStatus : TaskStatus :=
  if task.status = .failed ∧ isWaivedObsolete task then .completed
  else task.status

def packetRow (reviewId : String) (record : ContextRecord) :
    Except PyError PacketRow := do
  let metadata := record.metadata
  let findings ← metadata.getList "findings"
  let evidence ← metadata.getList "evidence"
  return {
    reviewId
    reviewer := metadata.getStr "reviewer"
    dimension := metadata.getStr "dimension"
    verdict := metadata.getStr "verdict"
    progressStatus := ((metadata.get "progress_status").orValue (.str "not_applicable")).toStr
    severity := metadata.getStr "severity"
    ownerScope := metadata.getStr "owner_scope"
    summary := record.content
    findings
    evidence
    requiredArtifactType := metadata.getStr "required_artifact_type"
    artifactSchema := (metadata.get "artifact_schema").asDict.getD []
    closureCriteria := metadata.getStr "closure_criteria"
    evidenceRequired := metadata.getStr "evidence_required"
    repeatReason := metadata.getStr "repeat_reason"
    backend := metadata.get "backend"
    createdAt := record.createdAt }

def overrideRow (record : ContextRecord) : Except PyError OverrideRow := do
  let waivedTaskIds ← record.metadata.getList "waived_task_ids"
  return {
    recordId := record.id
    rationale := ((record.metadata.get "rationale").orValue
      (.str record.content)).toStr
    createdAt := record.createdAt
    waivedTaskIds }

/-- `status` of a round, before an override. -/
def roundStatus (failed completed needsRemediation : Bool) (remediation : TaskCounts) : String :=
  if failed then "failed"
  else if completed then
    if needsRemediation then
      if 0 < remediation.active ∨ 0 < remediation.pending then "remediating"
      else if 0 < remediation.total ∧ remediation.failed = 0 ∧
          remediation.completed = remediation.total then "ready_for_rerun"
      else "needs_remediation"
    else "passed"
  else "running"

def roundRow (linkedTasks : List Task)
    (start : ContextRecord) (roundNumber : Nat) : Except PyError RoundRow := do
  let reviewId := startedReviewId start
  let packetRecords := ofReview records "objective_review_packet" reviewId
  let packets ← packetRecords.mapM (packetRow reviewId)
  -- The scans run over the reversed lists and stop at the first match.
  let completed := (ofReview records "objective_review_completed" reviewId).getLast?
  let failed := (ofReview records "objective_review_failed" reviewId).getLast?
  let override := (ofReview records "objective_review_override_approved" reviewId).getLast?
  let operatorOverride ← override.mapM overrideRow
  let verdictCounts := VerdictCounts.of (packets.map PacketRow.verdict)
  let remediation := remediationTasks linkedTasks reviewId
  let remediationCounts := TaskCounts.of (remediation.map remediationStatus)
  let needsRemediation := 0 < verdictCounts.concern || 0 < verdictCounts.remediationRequired
  let activity := packetRecords.map ContextRecord.createdAt ++
    (completed.map ContextRecord.createdAt).toList ++ (failed.map ContextRecord.createdAt).toList
  return {
    reviewId
    roundNumber
    status :=
      if override.isSome then "passed"
      else roundStatus failed.isSome completed.isSome needsRemediation remediationCounts
    startedAt := start.createdAt
    completedAt := completed.map ContextRecord.createdAt
    failedAt := failed.map ContextRecord.createdAt
    lastActivityAt := activity.foldl max start.createdAt
    packetCount := packets.length
    verdictCounts
    packets := orderBy NewestPacket packets
    operatorOverride
    remediationCounts
    remediationTasks := (orderBy OldestTask remediation).map fun task =>
      (task.id, task.title, task.status)
    needsRemediation }

/-- `round_rows`, numbered from one in the order of their starts. -/
def roundRows (linkedTasks : List Task) : Except PyError (List RoundRow) :=
  ((startOrder records).zipIdx 1).mapM fun (start, roundNumber) =>
    roundRow records linkedTasks start roundNumber

/-- The review that `_objective_review_state` names: the one that was started
last. -/
def reviewStateId : String :=
  match (ofType records "objective_review_started").getLast? with
  | some start => startedReviewId start
  | none => ""

def canStartNewRound (records : List ContextRecord) (ready : Bool) :
    Option RoundRow → Bool
  | none => ready
  | some round =>
    ready && (round.status = "ready_for_rerun" || round.status = "failed" ||
        (round.status = "passed" && round.completedAt.isSome &&
          reviewStateId records ≠ round.reviewId))

def latestVerdictCounts (latestRound : Option RoundRow) : VerdictCounts :=
  VerdictCounts.of
    ((latestRound.elim [] RoundRow.packets).map fun packet => pyStrip packet.verdict)

/-- `phase` and `next_action`. -/
def phaseAndNextAction (ready : Bool) (counts : TaskCounts)
    (unresolvedFailedCount : Nat) (verdictCounts : VerdictCounts)
    (latestRound : Option RoundRow) : String × String :=
  let phase :=
    if latestRound.isSome then "promotion_review_active"
    else if ready then "promotion_review_pending"
    else "execution"
  let issues := verdictCounts.remediationRequired + verdictCounts.concern
  if 0 < counts.active ∨ 0 < counts.pending then
    ("execution",
      "Review findings were turned into remediation tasks. Continue in Atomic while the harness works through them.")
  else if 0 < unresolvedFailedCount then
    ("remediation_required",
      "Resolve or disposition the remaining failed tasks before promotion can proceed.")
  else
    match latestRound with
    | none =>
      (phase,
        "Execution is complete and no blockers remain. Automatic promotion review should begin next.")
    | some round =>
      if round.operatorOverride.isSome then
        ("promotion_review_active",
          "The latest promotion review round was operator-approved. The objective is clear to promote.")
      else if 0 < issues then
        if round.status = "ready_for_rerun" then
          ("promotion_review_pending", "Remediation from promotion review round " ++
              toString round.roundNumber ++
                " is complete. The harness should start the next review round now.")
        else
          ("remediation_required", "Promotion review found " ++ toString issues ++
              " issue(s). Route remediation back into Atomic before promoting.")
      else if round.status = "running" then
        ("promotion_review_active", "Promotion review round " ++ toString round.roundNumber ++
            " is running. Reviewer packets will appear as each agent finishes.")
      else
        (phase,
          "Review the latest promotion packets and LLM affirmation details, then decide whether to promote the objective.")

/-- What `build` returns for the rounds of the objective. -/
def reviewOfRounds (linkedTasks : List Task) (rounds : List RoundRow) : PromotionReview :=
  let counts := TaskCounts.of (linkedTasks.map Task.status)
  let unresolvedFailedCount := failedCount records linkedTasks "blocking"
  let ready := isReady records linkedTasks
  let reviewRounds := orderBy LatestRound rounds
  let latestRound := reviewRounds.head?
  let operatorOverride := latestRound.bind RoundRow.operatorOverride
  let verdictCounts := latestVerdictCounts latestRound
  let (phase, nextAction) := phaseAndNextAction ready counts
    unresolvedFailedCount verdictCounts latestRound
  { ready
    reviewClear := ready && latestRound.isSome &&
      (operatorOverride.isSome ||
        (verdictCounts.concern = 0 && verdictCounts.remediationRequired = 0))
    phase, recommendedView := if ready ∧ phase ≠ "execution" then "promotion-review" else "atomic"
    verdictCounts, taskCounts := counts
    waivedFailedCount := failedCount records linkedTasks "waived"
    historicalFailedCount := failedCount records linkedTasks "historical", unresolvedFailedCount
    objectiveReviewPacketCount := (reviewRounds.map RoundRow.packetCount).sum, reviewRounds
    canStartNewRound := canStartNewRound records ready latestRound
    canForcePromote := latestRound.isSome && operatorOverride.isNone &&
      counts.active = 0 && counts.pending = 0
    operatorOverride, failedTasks := failedEntries records linkedTasks
    nextAction }

def build (store : Store) (objectiveId : String) (linkedTasks : List Task) :
    Except PyError PromotionReview :=
  let records := objectiveRecords store objectiveId
  (roundRows records linkedTasks).map (reviewOfRounds records linkedTasks)

end PromotionReviewBuilder

end AccruviaHarness
