import AccruviaHarness.Library.Rounds
import AccruviaHarness.Reviews.RemediationService
import AccruviaHarness.Workflows.ObjectiveReview

/-!
# The threads that review an objective

`queue_objective_review`, `_maybe_resume_objective_review` and the worker
`_run_objective_review`, cut where another thread can come between.
-/

namespace AccruviaHarness

open Library

/-!
## The state of the current review round

`_objective_review_state` reads the round that was started last from the
context records. A round without an end counts as running until it has been
silent for too long.
-/

structure ObjectiveReviewState where
  status : String
  reviewId : String := ""
  startedAt : Option Int := none
  completedAt : Option Int := none
  failedAt : Option Int := none
  lastActivityAt : Option Int := none
  packetCount : Nat := 0
  error : String := ""
  deriving DecidableEq, Repr

namespace ReviewStateService

open PromotionReviewBuilder

def stateOfRound (records : List ContextRecord) (start : ContextRecord) :
    ObjectiveReviewState :=
  let reviewId := startedReviewId start
  -- The scans run over the reversed lists and stop at the first match.
  let completed := (ofReview records "objective_review_completed" reviewId).getLast?
  let failed := (ofReview records "objective_review_failed" reviewId).getLast?
  let packets := ofReview records "objective_review_packet" reviewId
  let activity := packets.map ContextRecord.createdAt ++
    (completed.map ContextRecord.createdAt).toList ++ (failed.map ContextRecord.createdAt).toList
  { status :=
      if failed.isSome then "failed"
      else if completed.isSome then "completed"
      else "running"
    reviewId, startedAt := some start.createdAt
    completedAt := completed.map ContextRecord.createdAt
    failedAt := failed.map ContextRecord.createdAt
    lastActivityAt := some (activity.foldl max start.createdAt), packetCount := packets.length
    error := (failed.map ContextRecord.content).getD "" }

def objectiveReviewState (store : Store) (objectiveId : String) :
    ObjectiveReviewState :=
  let records := objectiveRecords store objectiveId
  match (ofType records "objective_review_started").getLast? with
  | none => { status := "idle" }
  | some start => stateOfRound records start

/-- `_objective_review_is_stale`, in a process whose register has the
objective or not. -/
def objectiveReviewIsStale (registered : Bool) (now : Int)
    (state : ObjectiveReviewState) (objectiveId : String) : Bool :=
  if state.status ≠ "running" then false
  else if objectiveId ≠ "" ∧ registered then false
  else
    match state.lastActivityAt with
    | none => false
    | some lastActivity => decide (secondsSpan 300 < now - lastActivity)

def roundRecord (objective : Objective) (recordType recordId content : String)
    (now : Int) (metadata : PyDict) : ContextRecord where
  id := recordId
  recordType
  objectiveId := some objective.id
  content
  metadata
  createdAt := now

def roundReceipt (objective : Objective) (status reviewId recordId content :
    String) (now : Int) (further : PyDict) : ContextRecord :=
  roundRecord objective "action_receipt" recordId content now <|
    [("kind", .str "objective_review"), ("status", .str status),
      ("review_id", .str reviewId)] ++ further

def markObjectiveReviewInterrupted (store : Store) (objective : Objective)
    (reviewId recordId receiptId : String) (now : Int) : Store :=
  if reviewId = "" then store
  else
    (store.createContextRecord <| roundRecord objective "objective_review_failed" recordId
        ("Objective promotion review was interrupted before reviewer " ++
          "packets were recorded. The harness can restart the round.")
        now [("review_id", .str reviewId), ("interrupted", .bool true)])
      |>.createContextRecord <| roundReceipt objective "interrupted" reviewId receiptId
          ("Action receipt: Objective promotion review was interrupted and " ++
            "is eligible for restart.") now []

end ReviewStateService

/-! ## The threads that review an objective -/

open PromotionReviewBuilder ReviewStateService

def roundRecordTypes : List String :=
  ["objective_review_started", "objective_review_completed",
    "objective_review_failed", "objective_review_packet"]

variable (objectiveId : String)

def roundRecords (store : Store) : List ContextRecord :=
  (objectiveRecords store objectiveId).filter fun record =>
    roundRecordTypes.contains record.recordType

structure StoreChange (objectiveId : String) where
  apply : Store → Store
  kept : ∀ store, roundRecords objectiveId (apply store) = roundRecords objectiveId store

abbrev ReviewedObjective := { objective : Objective // objective.id = objectiveId }

theorem id_of_getObjective {store : Store} {objectiveId : String} {objective : Objective}
    (found : store.getObjective objectiveId = some objective) :
    objective.id = objectiveId := by
  obtain ⟨_, stored, rfl⟩ := Option.map_eq_some_iff.mp found
  exact (store.objectives.lookup_eq_some_iff.mp stored).2

def findObjective (store : Store) : Option (ReviewedObjective objectiveId) :=
  match found : store.getObjective objectiveId with
  | some objective => some ⟨objective, id_of_getObjective found⟩
  | none => none

inductive ReviewReturn where
  | queue
  | resume (linkedTasks : List Task)

inductive WorkerStage (objectiveId : String) where
  | entering
  | generating (objective : ReviewedObjective objectiveId)
  | recording (objective : ReviewedObjective objectiveId) (recorded packets : List PyDict)
  | remediating (objective : ReviewedObjective objectiveId) (packets : List PyDict)
  | concluding (objective : ReviewedObjective objectiveId) (createdTaskIds : List String)
  | promoting (objective : ReviewedObjective objectiveId)

inductive ReviewThread (objectiveId : String) where
  | checking
  | interrupting (reviewId : String)
      (objective : ReviewedObjective objectiveId) (back : ReviewReturn)
  | rechecking (objective : ReviewedObjective objectiveId)
  | weighing (objective : ReviewedObjective objectiveId)
  | starting (objective : ReviewedObjective objectiveId)
  | launching (reviewId : String)
  | resuming
  | reviewing (objective : ReviewedObjective objectiveId) (linkedTasks : List Task)
  | deciding (objective : ReviewedObjective objectiveId)
      (linkedTasks : List Task) (summary : PromotionReview)
      (state : ObjectiveReviewState)
  | working (reviewId : String) (stage : WorkerStage objectiveId)

/-- A call with the process that makes it; `background` is `async_mode`. -/
structure ReviewCaller (objectiveId : String) where
  process : Nat
  background : Bool
  thread : ReviewThread objectiveId

structure ReviewWorld (objectiveId : String) where
  store : Store
  now : Int
  running : List Nat
  threads : Nat → Option (ReviewCaller objectiveId)

/-- What a step is given from outside of the calls: what it raises, new ids,
the reviewers, whether failed tasks are retried, and its other writes. -/
structure ReviewChoice (objectiveId : String) where
  raises : Option PyError := none
  reviewId : String := ""
  recordId : String := ""
  receiptId : String := ""
  context : ServiceContext
  identities : Nat → TaskIdentities
  restarts : Bool := false
  notes : StoreChange objectiveId

inductive ThreadOutcome (objectiveId : String) where
  | goes (store : Store) (thread : ReviewThread objectiveId)
  | ends (store : Store)

namespace ReviewThread

variable {objectiveId : String}

def WorkerStage.isOpen : WorkerStage objectiveId → Bool
  | .entering | .generating _ | .recording _ _ _ => true
  | _ => false

def role : ReviewThread objectiveId → RoundRole String
  | interrupting reviewId _ _ => .interrupting reviewId
  | launching reviewId => .launching reviewId
  | working reviewId stage =>
    if WorkerStage.isOpen stage then .executing reviewId
    else .finishing reviewId
  | _ => .outside

/-! ## The worker -/

section

variable (now : Int) (choice : ReviewChoice objectiveId)
  (objective : ReviewedObjective objectiveId) (reviewId : String)

def packetMetadata (packet : PyDict) : PyDict :=
  ("review_id", .str reviewId) ::
    ["reviewer", "dimension", "verdict", "progress_status", "severity",
      "owner_scope", "findings", "evidence", "required_artifact_type",
      "artifact_schema", "evidence_contract", "closure_criteria",
      "evidence_required", "repeat_reason", "llm_usage", "llm_usage_reported",
      "llm_usage_source", "backend", "prompt_path", "response_path",
      "review_task_id", "review_run_id"].map fun key => (key, packet.get key)

variable (store : Store)

def failRound (error : PyError) : ThreadOutcome objectiveId :=
  .ends <| store.createContextRecord <|
    roundRecord objective "objective_review_failed" choice.recordId
      ("Automatic objective review failed: " ++ error.text) now
      [("review_id", .str reviewId)]

def readReview : Except PyError PromotionReview :=
  build store objective.val.id (HarnessUIDataService.linkedTasks store objective)

/-- `completed_record` and its receipt. -/
def completeRound (packets : List PyDict) (store : Store) : Store :=
  (store.createContextRecord <| roundRecord objective "objective_review_completed" choice.recordId
      ("Completed automatic objective review with " ++
        toString packets.length ++ " reviewer packet(s).") now
      [("review_id", .str reviewId), ("packet_count", .int packets.length)])
    |>.createContextRecord <| roundReceipt objective "completed" reviewId choice.receiptId
        ("Action receipt: Objective promotion review generated " ++
          toString packets.length ++ " reviewer packet(s).") now
        [("packet_count", .int packets.length)]

def recordPacket (packet : PyDict) (store : Store) : Store :=
  store.createContextRecord <| roundRecord objective "objective_review_packet" choice.recordId
      (packet.get "summary").toStr now (packetMetadata reviewId packet)

def reportCreated (createdTaskIds : List String) (store : Store) : Store :=
  store.createContextRecord <|
    roundReceipt objective "remediation_created" reviewId choice.receiptId
      ("Action receipt: Objective review created " ++ toString createdTaskIds.length ++
        " remediation task(s) and returned the objective to Atomic.") now
      [("task_ids", .list (createdTaskIds.map .str))]

/-- `_maybe_auto_promote_on_clear_review` for what the review says. The
promotion itself is one of the writes from outside. -/
def autoPromote (review : PromotionReview) (store : Store) : Store :=
  if review.reviewClear then choice.notes.apply store
  else
    choice.notes.apply <| store.createContextRecord <|
      roundRecord objective "objective_auto_promote_skipped" choice.recordId
        ("Auto-promotion skipped: review completed without remediation " ++
          "tasks but canonical review_clear is False.") now
        [("review_id", .str reviewId), ("reason", .str "canonical_review_not_clear"),
          ("next_action", .str review.nextAction)]

/-- A step of `_run_objective_review` inside of its `try`. -/
def workInside :
    WorkerStage objectiveId → ThreadOutcome objectiveId
  | .entering =>
    match readReview objective store with
    | .error error => failRound now choice objective reviewId store error
    | .ok _ => .goes (choice.notes.apply store) (.working reviewId (.generating objective))
  | .generating objective =>
    match HarnessUIDataService.generateObjectiveReviewPackets
      { context := choice.context, store } objective.val.id with
    | .error error => failRound now choice objective reviewId store error
    | .ok packets => .goes store (.working reviewId (.recording objective [] packets))
  | .recording objective recorded (packet :: packets) =>
    .goes (recordPacket now choice objective reviewId packet store) <|
      .working reviewId <| .recording objective (recorded ++
            [packet.set "packet_record_id" (.str choice.recordId)])
          packets
  | .recording objective recorded [] =>
    .goes (completeRound now choice objective reviewId recorded store)
      (.working reviewId (.remediating objective recorded))
  | .remediating objective packets =>
    match RemediationService.createRemediationTasks choice.identities
      objective reviewId packets store with
    | .error error left => failRound now choice objective reviewId left error
    | .ok createdTaskIds after =>
      .goes after (.working reviewId (.concluding objective createdTaskIds))
  | .concluding objective createdTaskIds =>
    if createdTaskIds = [] then
      .goes (choice.notes.apply store) (.working reviewId (.promoting objective))
    else
      .ends <| reportCreated now choice objective reviewId createdTaskIds (choice.notes.apply store)
  | .promoting objective =>
    match readReview objective store with
    | .error error => failRound now choice objective reviewId store error
    | .ok review => .ends (autoPromote now choice objective reviewId review store)

def WorkerStage.objective? (store : Store) :
    WorkerStage objectiveId → Option (ReviewedObjective objectiveId)
  | .entering => findObjective objectiveId store
  | .generating objective | .recording objective _ _
  | .remediating objective _ | .concluding objective _
  | .promoting objective => some objective

/-- A step of `_run_objective_review`. One that raises has made other writes
at most before its handler runs. -/
def work (stage : WorkerStage objectiveId) (store : Store) : ThreadOutcome objectiveId :=
  match WorkerStage.objective? store stage with
  | none => .ends store
  | some objective =>
    match choice.raises with
    | some error => failRound now choice objective reviewId (choice.notes.apply store) error
    | none => workInside now choice objective reviewId store stage

end

/-! ## The calls -/

variable (registered : Bool) (now : Int)

/-- `_objective_review_state` is running and stale. -/
def findsStale (objectiveId : String) (store : Store) : Bool :=
  let state := objectiveReviewState store objectiveId
  state.status = "running" && objectiveReviewIsStale registered now state objectiveId

/-- `queue_objective_review` until it has read the state. -/
def check (objectiveId : String) (store : Store) : ThreadOutcome objectiveId :=
  let state := objectiveReviewState store objectiveId
  match findObjective objectiveId store with
  | none => .ends store
  | some objective =>
    if findsStale registered now objectiveId store then
      .goes store (.interrupting state.reviewId objective .queue)
    else if state.status = "running" then .ends store
    else .goes store (.weighing objective)

/-- `queue_objective_review` reads the state after an interruption. -/
def recheck (objective : ReviewedObjective objectiveId) (store : Store) :
    ThreadOutcome objectiveId :=
  if (objectiveReviewState store objectiveId).status = "running" then .ends store
  else .goes store (.weighing objective)

/-- `queue_objective_review` reads whether a round can start. -/
def weigh (objective : ReviewedObjective objectiveId) (store : Store) : ThreadOutcome objectiveId :=
  match readReview objective store with
  | .error _ => .ends store
  | .ok summary =>
    if summary.ready ∧ summary.canStartNewRound then .goes store (.starting objective)
    else .ends store

/-- `_mark_objective_review_interrupted`. -/
def interrupt (choice : ReviewChoice objectiveId)
    (reviewId : String) (objective : ReviewedObjective objectiveId)
    (back : ReviewReturn) (store : Store) : ThreadOutcome objectiveId :=
  let interrupted := markObjectiveReviewInterrupted store objective reviewId
    choice.recordId choice.receiptId now
  match back with
  | .queue => .goes interrupted (.rechecking objective)
  | .resume linkedTasks => .goes interrupted (.reviewing objective linkedTasks)

/-- The records with which `queue_objective_review` starts a round. -/
def startRound (choice : ReviewChoice objectiveId)
    (objective : ReviewedObjective objectiveId) (store : Store) : Store :=
  choice.notes.apply <| (store.createContextRecord <|
      roundRecord objective "objective_review_started" choice.recordId
        "Started automatic objective promotion review." now
        [("review_id", .str choice.reviewId)])
      |>.createContextRecord <| roundReceipt objective "started" choice.reviewId choice.receiptId
          "Action receipt: Starting automatic objective promotion review." now
          []

/-- `_maybe_resume_objective_review` until it has read the state. -/
def resume (objectiveId : String) (store : Store) : ThreadOutcome objectiveId :=
  match findObjective objectiveId store with
  | none => .ends store
  | some objective =>
    let linkedTasks := HarnessUIDataService.linkedTasks store objective
    let state := objectiveReviewState store objectiveId
    match build store objectiveId linkedTasks with
    | .error _ => .ends store
    | .ok summary =>
      if findsStale registered now objectiveId store then
        .goes store (.interrupting state.reviewId objective (.resume linkedTasks))
      else .goes store (.deciding objective linkedTasks summary state)

/-- What `_maybe_resume_objective_review` reads after an interruption. -/
def rereview (objective : ReviewedObjective objectiveId)
    (linkedTasks : List Task) (store : Store) : ThreadOutcome objectiveId :=
  match build store objectiveId linkedTasks with
  | .error _ => .ends store
  | .ok summary =>
    .goes store <| .deciding objective linkedTasks summary (objectiveReviewState store objectiveId)

/-- The packets that `_maybe_resume_objective_review` takes from a round. -/
def roundPackets (round : RoundRow) : List PyDict :=
  round.packets.map fun packet =>
    [("reviewer", .str packet.reviewer), ("dimension", .str packet.dimension),
      ("verdict", .str packet.verdict), ("summary", .str packet.summary),
      ("findings", .list packet.findings)]

def hasFailedRemediation (linkedTasks : List Task) (reviewId : String) :
    Bool :=
  reviewId ≠ "" && linkedTasks.any fun task =>
    task.status = .failed && (RemediationService.remediationOf reviewId task).isSome

def lacksRemediation (round : RoundRow) : Bool :=
  round.needsRemediation && round.reviewId ≠ "" &&
    round.remediationCounts.active = 0 && round.remediationCounts.pending = 0 &&
      round.remediationCounts.total = 0

/-- The end of `_maybe_resume_objective_review`. -/
def resumeQueue (summary : PromotionReview) (state : ObjectiveReviewState) (store : Store) :
    ThreadOutcome objectiveId :=
  if ¬ summary.ready then .ends store
  else if state.status = "running" ∧ registered then .ends store
  else if ¬ summary.canStartNewRound then .ends store
  else .goes store .checking

/-- `_maybe_resume_objective_review` after it has read the state. -/
def resumeWith (choice : ReviewChoice objectiveId)
    (objective : ReviewedObjective objectiveId) (linkedTasks : List Task)
    (summary : PromotionReview) (state : ObjectiveReviewState)
    (store : Store) : ThreadOutcome objectiveId :=
  match summary.reviewRounds.head? with
  | none =>
    if objective.val.status ≠ .resolved then .ends store
    else resumeQueue registered summary state store
  | some round =>
    if hasFailedRemediation linkedTasks round.reviewId ∧ choice.restarts then
      .ends (choice.notes.apply store)
    else if objective.val.status ≠ .resolved ∧
        round.status ∉ ["ready_for_rerun", "failed"] then .ends store
    else if lacksRemediation round then
      .ends <| stateOf <| RemediationService.createRemediationTasks choice.identities objective
          round.reviewId (roundPackets round) store
    else resumeQueue registered summary state (choice.notes.apply store)

def advance (registered : Bool) (now : Int) (choice : ReviewChoice objectiveId) (store : Store) :
    ReviewThread objectiveId → ThreadOutcome objectiveId
  | checking => check registered now objectiveId store
  | interrupting reviewId objective back => interrupt now choice reviewId objective back store
  | rechecking objective => recheck objective store
  | weighing objective => weigh objective store
  | starting objective => .goes (startRound now choice objective store) (.launching choice.reviewId)
  | launching reviewId => .goes store (.working reviewId .entering)
  | resuming => resume registered now objectiveId store
  | reviewing objective linkedTasks => rereview objective linkedTasks store
  | deciding objective linkedTasks summary state =>
    resumeWith registered choice objective linkedTasks summary state store
  | working reviewId stage => work now choice reviewId stage store

end ReviewThread

/-! ## The world -/

namespace ReviewWorld

variable {objectiveId : String} (world : ReviewWorld objectiveId) (slot : Nat)

def place (caller : Option (ReviewCaller objectiveId)) : ReviewWorld objectiveId :=
  { world with threads := Function.update world.threads slot caller }

variable (caller : ReviewCaller objectiveId)

def release : List Nat :=
  match caller.background, caller.thread with
  | true, .working _ _ => world.running.filter (· ≠ caller.process)
  | _, _ => world.running

def settle :
    ThreadOutcome objectiveId → ReviewWorld objectiveId
  | .goes store thread => { world.place slot (some { caller with thread }) with store }
  | .ends store => { world.place slot none with store, running := world.release caller }

/-- `_OBJECTIVE_REVIEW.start` in the background, and the worker itself
otherwise. -/
def launch (reviewId : String) : ReviewWorld objectiveId :=
  let working := { caller with thread := .working reviewId .entering }
  if caller.background then
    if world.running.contains caller.process then world.place slot none
    else
      { world.place slot (some working) with
        running := caller.process :: world.running }
  else world.place slot (some working)

/-- `new_id` has given this id before. -/
def used (store : Store) (reviewId : String) : Bool :=
  reviewId = "" || store.contextRecords.any fun record =>
    startedReviewId record = reviewId || record.metadata.getStr "review_id" = reviewId

end ReviewWorld

inductive ReviewAction (objectiveId : String) where
  | call (slot process : Nat) (background resume : Bool)
  | advance (slot : Nat) (choice : ReviewChoice objectiveId)
  | wait (span : Nat)
  | crash (process : Nat)
  | change (change : StoreChange objectiveId)

namespace ReviewWorld

variable {objectiveId : String} (world : ReviewWorld objectiveId)

def advance (slot : Nat) (choice : ReviewChoice objectiveId) (caller : ReviewCaller objectiveId) :
    Option (ReviewWorld objectiveId) :=
  let outcome := caller.thread.advance
    (world.running.contains caller.process) world.now choice world.store
  match caller.thread with
  | .launching reviewId => some (world.launch slot caller reviewId)
  | .starting _ =>
    if used world.store choice.reviewId then none
    else some (world.settle slot caller outcome)
  | _ => some (world.settle slot caller outcome)

def perform :
    ReviewAction objectiveId → Option (ReviewWorld objectiveId)
  | .call slot process background resume =>
    match world.threads slot with
    | some _ => none
    | none =>
      some <| world.place slot <| some
        { process, background
          thread := if resume then .resuming else .checking }
  | .advance slot choice => (world.threads slot).bind (world.advance slot choice)
  | .wait span => some { world with now := world.now + span }
  | .crash process =>
    some
      { world with
        threads := fun slot => (world.threads slot).filter fun caller => caller.process ≠ process
        running := world.running.filter (· ≠ process) }
  | .change change => some { world with store := change.apply world.store }

end ReviewWorld

end AccruviaHarness
