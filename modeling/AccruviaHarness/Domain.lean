import AccruviaHarness.Python.Value

/-!
# Domain records

The enumerations and records of the harness, with the transition tables of its
status fields.
-/

namespace AccruviaHarness

def secondsSpan (seconds : Int) : Int := seconds * 1000000

inductive TaskStatus where
  | pending
  | active
  | completed
  | failed
  deriving DecidableEq, Repr

namespace TaskStatus

/-- The text stored in the `status` column. -/
def value : TaskStatus → String
  | .pending => "pending"
  | .active => "active"
  | .completed => "completed"
  | .failed => "failed"

end TaskStatus

def validTaskTransitions : TaskStatus → List TaskStatus
  | .pending => [.active, .completed, .failed]
  | .active => [.completed, .failed, .pending]
  | .completed => []
  | .failed => [.pending]

def validateTaskTransition (current target : TaskStatus) : Except PyError Unit :=
  if current = target then .ok ()
  else if target ∈ validTaskTransitions current then .ok ()
  else
    .error <| .valueError <| "Invalid task transition: " ++ current.value ++ " -> " ++ target.value

def TaskStatus.Allows (current target : TaskStatus) : Prop :=
  current = target ∨ target ∈ validTaskTransitions current

instance (current target : TaskStatus) : Decidable (current.Allows target) :=
  inferInstanceAs (Decidable (_ ∨ _))

theorem validateTaskTransition_ok_iff (current target : TaskStatus) :
    validateTaskTransition current target = .ok () ↔ current.Allows target := by
  cases current <;> cases target <;> decide

theorem TaskStatus.Allows.refl (status : TaskStatus) : status.Allows status := .inl rfl

theorem TaskStatus.Allows.eq_of_completed {target : TaskStatus}
    (allowed : TaskStatus.completed.Allows target) : target = .completed := by
  rcases allowed with same | listed
  · exact same.symm
  · simp [validTaskTransitions] at listed

inductive RunStatus where
  | planning
  | working
  | validating
  | analyzing
  | deciding
  | completed
  | failed
  | blocked
  | disposed
  deriving DecidableEq, Repr

/-- The texts stored in the `status` column of a run. -/
def RunStatus.value : RunStatus → String
  | .planning => "planning"
  | .working => "working"
  | .validating => "validating"
  | .analyzing => "analyzing"
  | .deciding => "deciding"
  | .completed => "completed"
  | .failed => "failed"
  | .blocked => "blocked"
  | .disposed => "disposed"

inductive EvaluationVerdict where
  | acceptable
  | incomplete
  | failed
  | blocked
  deriving DecidableEq, Repr

inductive DecisionAction where
  | retry
  | promote
  | fail
  | branch
  deriving DecidableEq, Repr

def DecisionAction.value : DecisionAction → String
  | .retry => "retry"
  | .promote => "promote"
  | .fail => "fail"
  | .branch => "branch"

/-- The texts that the `status` column of `decision_queue` takes. -/
inductive DecisionItemStatus where
  | pending
  | processing
  | completed
  | failed
  deriving DecidableEq, Repr

inductive ReviewVerdict where
  | pass
  | concern
  | remediationRequired
  deriving DecidableEq, Repr

namespace ReviewVerdict

def value : ReviewVerdict → String
  | .pass => "pass"
  | .concern => "concern"
  | .remediationRequired => "remediation_required"

end ReviewVerdict

inductive GlobalSystemState where
  | off
  | starting
  | healthy
  | degraded
  | frozen
  deriving DecidableEq, Repr

inductive ControlLaneStateValue where
  | running
  | paused
  | cooldown
  | disabled
  deriving DecidableEq, Repr

inductive ObjectiveStatus where
  | open
  | investigating
  | planning
  | executing
  | paused
  | resolved
  deriving DecidableEq, Repr

/-- The texts stored in the `status` column of an objective. -/
def ObjectiveStatus.value : ObjectiveStatus → String
  | .open => "open"
  | .investigating => "investigating"
  | .planning => "planning"
  | .executing => "executing"
  | .paused => "paused"
  | .resolved => "resolved"

inductive ObjectivePhase where
  | created
  | interrogating
  | mermaidReview
  | trioPlanning
  | executing
  | reviewing
  | promoted
  | failed
  deriving DecidableEq, Repr

namespace ObjectivePhase

def value : ObjectivePhase → String
  | .created => "created"
  | .interrogating => "interrogating"
  | .mermaidReview => "mermaid_review"
  | .trioPlanning => "trio_planning"
  | .executing => "executing"
  | .reviewing => "reviewing"
  | .promoted => "promoted"
  | .failed => "failed"

end ObjectivePhase

def validPhaseTransitions : ObjectivePhase → List ObjectivePhase
  | .created => [.interrogating, .failed]
  | .interrogating => [.mermaidReview, .failed]
  | .mermaidReview => [.trioPlanning, .failed]
  | .trioPlanning => [.executing, .failed]
  | .executing => [.reviewing, .failed]
  | .reviewing => [.promoted, .failed]
  | .promoted => []
  | .failed => []

def phaseToStatus : ObjectivePhase → ObjectiveStatus
  | .created => .open
  | .interrogating => .investigating
  | .mermaidReview => .planning
  | .trioPlanning => .planning
  | .executing => .executing
  | .reviewing => .resolved
  | .promoted => .resolved
  | .failed => .paused

inductive MermaidStatus where
  | draft
  | inReview
  | paused
  | finished
  | superseded
  deriving DecidableEq, Repr

inductive PromotionMode where
  | directMain
  | branchOnly
  | branchAndPr
  deriving DecidableEq, Repr

namespace PromotionMode

def value : PromotionMode → String
  | .directMain => "direct_main"
  | .branchOnly => "branch_only"
  | .branchAndPr => "branch_and_pr"

end PromotionMode

inductive RepoProvider where
  | github
  | gitlab
  deriving DecidableEq, Repr

structure Project where
  id : String
  promotionMode : PromotionMode := .branchAndPr
  repoProvider : Option RepoProvider := none
  repoName : Option String := none
  baseBranch : String := "main"
  maxConcurrentTasks : Int := 1
  createdAt : Int := 0
  deriving DecidableEq, Repr

structure Objective where
  id : String
  projectId : String
  title : String := ""
  summary : String := ""
  priority : Int := 100
  status : ObjectiveStatus := .open
  phase : ObjectivePhase := .created
  deriving DecidableEq, Repr

structure Task where
  id : String
  projectId : String
  title : String := ""
  objective : String := ""
  objectiveId : Option String := none
  planId : Option String := none
  mermaidNodeId : Option String := none
  priority : Int := 100
  parentTaskId : Option String := none
  sourceRunId : Option String := none
  externalRefType : Option String := none
  externalRefId : Option String := none
  externalRefMetadata : PyDict := []
  validationProfile : String := "generic"
  validationMode : String := "default_focused"
  scope : PyDict := []
  strategy : String := "default"
  maxAttempts : Int := 10
  maxBranches : Int := 1
  requiredArtifacts : List String := ["plan", "report"]
  status : TaskStatus := .pending
  createdAt : Int := 0
  deriving Repr

/-- `task.objective_id`, with an empty id read as none. -/
def Task.objective? (task : Task) : Option String :=
  task.objectiveId.filter fun objectiveId => objectiveId != ""

structure Plan where
  id : String
  objectiveId : String
  mermaidNodeId : Option String := none
  parentPlanId : Option String := none
  planRevision : Int := 1
  slice : PyDict := []
  atomicityAssessment : PyDict := []
  approvalStatus : String := "approved"
  createdAt : Int := 0
  deriving Repr

structure Run where
  id : String
  taskId : String
  status : RunStatus
  attempt : Int
  summary : String := ""
  branchId : Option String := none
  createdAt : Int := 0
  deriving DecidableEq, Repr

structure Artifact where
  id : String
  runId : String
  kind : String
  path : String
  summary : String := ""
  createdAt : Int := 0
  deriving DecidableEq, Repr

structure Evaluation where
  id : String
  runId : String
  verdict : EvaluationVerdict
  summary : String := ""
  details : PyDict := []
  createdAt : Int := 0
  deriving Repr

structure Decision where
  id : String
  runId : String
  action : DecisionAction
  rationale : String := ""
  createdAt : Int := 0
  deriving DecidableEq, Repr

structure DecisionQueueItem where
  id : String
  runId : String
  taskId : String
  evaluationId : String
  priority : Int := 100
  createdAt : Int := 0
  status : DecisionItemStatus := .pending
  startedAt : Option Int := none
  completedAt : Option Int := none
  deriving DecidableEq, Repr

structure Event where
  entityType : String
  entityId : String
  eventType : String
  payload : PyDict := []
  createdAt : Int := 0
  deriving Repr

inductive PromotionStatus where
  | pending
  | approved
  | rejected
  deriving DecidableEq, Repr

structure PromotionRecord where
  id : String
  taskId : String
  runId : String
  status : PromotionStatus
  summary : String
  details : PyDict
  createdAt : Int := 0
  deriving Repr

structure TaskLease where
  taskId : String
  workerId : String
  leaseExpiresAt : Int
  createdAt : Int := 0
  deriving DecidableEq, Repr

structure ContextRecord where
  id : String
  recordType : String
  objectiveId : Option String := none
  content : String := ""
  metadata : PyDict := []
  createdAt : Int := 0
  deriving Repr

structure MermaidArtifact where
  id : String
  objectiveId : String
  diagramType : String
  version : Int
  status : MermaidStatus
  summary : String := ""
  content : String := ""
  requiredForExecution : Bool := false
  blockingReason : String := ""
  authorType : String := "operator"
  createdAt : Int := 0
  deriving DecidableEq, Repr

structure ControlSystemState where
  globalState : GlobalSystemState := .off
  masterSwitch : Bool := false
  freezeReason : Option String := none
  deriving DecidableEq, Repr

structure ControlLaneState where
  laneName : String
  state : ControlLaneStateValue := .paused
  reason : Option String := none
  cooldownUntil : Option Int := none
  deriving DecidableEq, Repr

structure ControlEvent where
  eventType : String
  entityType : String
  entityId : String
  payload : PyDict := []
  createdAt : Int := 0
  deriving Repr

structure ControlWorkerRun where
  id : String
  taskId : Option String := none
  objectiveId : Option String := none
  attempt : Int := 1
  status : String := "started"
  classification : Option String := none
  startedAt : Int := 0
  endedAt : Option Int := none
  breadcrumbPath : Option String := none
  deriving DecidableEq, Repr

/-- `window_start` is one window length before `window_end`. -/
structure ControlBudget where
  budgetScope : String
  budgetKey : String
  windowEnd : Int
  usageCount : Int := 0
  deriving DecidableEq, Repr

end AccruviaHarness
