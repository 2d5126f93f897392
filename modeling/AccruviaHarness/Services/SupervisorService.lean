import AccruviaHarness.Library.PeriodicJobs
import AccruviaHarness.Library.Runs
import Mathlib.Data.Rat.Cast.Order

/-!
# The supervisor loop

`SupervisorService.run` goes round a loop whose passes either carry out the due
heartbeats or take one step of the queue.
-/

namespace AccruviaHarness

open Library

/-- The arguments of `SupervisorService.run` that steer the loop, with the
checks that it makes first. An interval may be `float("inf")`. -/
structure SupervisorArguments where
  watch : Bool := false
  idleSleepSeconds : ℚ := 30
  maxIdleCycles : Option Nat := some 1
  maxIterations : Option Nat := none
  heartbeatProjectIds : List String := []
  heartbeatIntervalSeconds : Option (WithTop ℚ) := none
  heartbeatAllProjects : Bool := false
  /-- Reviews are enabled, with an interval and a watcher. -/
  checksReviews : Bool := false
  hasMaintenanceCallback : Bool := false
  heartbeatFailureEscalationThreshold : Nat := 3
  maxIdleCycles_positive : ∀ cycles, maxIdleCycles = some cycles → 1 ≤ cycles
  maxIterations_positive :
    ∀ iterations, maxIterations = some iterations → 1 ≤ iterations
  idleSleepSeconds_nonneg : 0 ≤ idleSleepSeconds
  heartbeatIntervalSeconds_positive :
    ∀ interval, heartbeatIntervalSeconds = some interval → 0 < interval
  threshold_positive : 1 ≤ heartbeatFailureEscalationThreshold

namespace SupervisorArguments

/-! The defaults pass the checks. -/

theorem default_maxIterations :
    ∀ iterations, (none : Option Nat) = some iterations → 1 ≤ iterations := by
  simp

theorem default_idleSleepSeconds : (0 : ℚ) ≤ 30 := by norm_num

theorem default_threshold : 1 ≤ 3 := by norm_num

end SupervisorArguments

/-- What `cognition.heartbeat` does. A recommendation that is no number is
none, and `nan` is one that is not positive. -/
inductive HeartbeatOutcome where
  | failed
  | succeeded (recommended : Option (WithTop ℚ))

structure HeartbeatAnswer where
  outcome : HeartbeatOutcome
  /-- The clock as read after the heartbeat. -/
  recordedAt : ℚ

/-- What `process_next_task` answers. -/
inductive QueueAnswer where
  | gateBlocked (retryInSeconds : ℚ)
  | nothing
  | processed (taskId : String)

structure ReviewCounts where
  checked : Nat := 0
  conflict : Nat := 0
  merged : Nat := 0

structure SupervisorAnswers where
  stopRequested : Bool := false
  /-- The clock as read by `_due_heartbeat_projects`. -/
  checkedAt : ℚ := 0
  /-- The ids that `list_projects` answers with, each of one row. -/
  listedProjects : List String := []
  listedProjects_nodup : listedProjects.Nodup := by decide
  heartbeats : List HeartbeatAnswer := []
  queue : QueueAnswer := .nothing
  queueDepth : Nat := 0
  reviews : ReviewCounts := {}
  maintenanceChanged : Bool := false
  recoveredAny : Bool := false
  stopRequestedWhenIdle : Bool := false

inductive ExitReason where
  | idle
  | gracefulStopRequested
  | maxIterationsReached
  | maxIdleCyclesReached
  deriving DecidableEq, Repr

/-- The local variables of `run`. In `heartbeatIntervals` the last entry of a
project comes first. -/
structure SupervisorLoop where
  processedTaskIds : List String := []
  attemptedTaskIds : List String := []
  heartbeatRuns : List String := []
  heartbeatIntervals : List (String × WithTop ℚ) := []
  heartbeatFailures : String → Nat := fun _ => 0
  disabledHeartbeatProjects : List String := []
  heartbeatLastRun : String → Option ℚ := fun _ => none
  reviewCheckCount : Nat := 0
  reviewConflictCount : Nat := 0
  reviewMergedCount : Nat := 0
  idleCycles : Nat := 0
  sleepCount : Nat := 0
  sleptSeconds : ℚ := 0
  iterations : Nat := 0

namespace SupervisorLoop

def busy (loop : SupervisorLoop) : SupervisorLoop := { loop with idleCycles := 0 }

def idle (loop : SupervisorLoop) : SupervisorLoop := { loop with idleCycles := loop.idleCycles + 1 }

def slept (loop : SupervisorLoop) (seconds : ℚ) : SupervisorLoop :=
  { loop with
    sleepCount := loop.sleepCount + 1, sleptSeconds := loop.sleptSeconds + seconds }

end SupervisorLoop

structure SupervisorRun where
  loop : SupervisorLoop := {}
  clock : ℚ
  calls : List (LoopCall String ℚ) := []
  exitReason : Option ExitReason := none

def SupervisorRun.check (run : SupervisorRun) (now : ℚ) : SupervisorRun :=
  { run with
    loop := { run.loop with iterations := run.loop.iterations + 1 }, clock := now }

namespace SupervisorService

variable (arguments : SupervisorArguments)

/-- `(interval_overrides or {}).get(project_id, interval_seconds)`. -/
def heartbeatInterval (loop : SupervisorLoop) (projectId : String) : Option (WithTop ℚ) :=
  (loop.heartbeatIntervals.lookup projectId).or arguments.heartbeatIntervalSeconds

/-- The condition of `_due_heartbeat_projects` on one project. -/
def isDue (loop : SupervisorLoop) (now : ℚ) (projectId : String) : Bool :=
  !loop.disabledHeartbeatProjects.contains projectId &&
    match heartbeatInterval arguments loop projectId,
        loop.heartbeatLastRun projectId with
    | none, _ => false
    | some _, none => true
    | some interval, some lastRun => decide (interval ≤ ((now - lastRun : ℚ) : WithTop ℚ))

/-- The projects that `_due_heartbeat_projects` looks at. -/
def heartbeatProjects (answers : SupervisorAnswers) : List String :=
  if arguments.heartbeatAllProjects then answers.listedProjects
  else arguments.heartbeatProjectIds

def dueHeartbeatProjects (loop : SupervisorLoop) (answers : SupervisorAnswers) : List String :=
  if arguments.heartbeatIntervalSeconds.isNone && loop.heartbeatIntervals.isEmpty then []
  else (heartbeatProjects arguments answers).filter (isDue arguments loop answers.checkedAt)

def scheduledInterval (recommended : Option (WithTop ℚ)) : WithTop ℚ :=
  match recommended with
  | some seconds =>
    if 0 < seconds then seconds
    else arguments.heartbeatIntervalSeconds.getD 1800
  | none => arguments.heartbeatIntervalSeconds.getD 1800

def recordHeartbeat (loop : SupervisorLoop) (projectId : String) (answer : HeartbeatAnswer) :
    SupervisorLoop :=
  match answer.outcome with
  | .failed =>
    let consecutiveFailures := loop.heartbeatFailures projectId + 1
    { loop with
      heartbeatFailures := Function.update loop.heartbeatFailures projectId consecutiveFailures
      heartbeatLastRun := Function.update loop.heartbeatLastRun projectId (some answer.recordedAt)
      disabledHeartbeatProjects :=
        if arguments.heartbeatFailureEscalationThreshold ≤ consecutiveFailures then
          projectId :: loop.disabledHeartbeatProjects
        else loop.disabledHeartbeatProjects }
  | .succeeded recommended =>
    { loop with
      heartbeatRuns := loop.heartbeatRuns ++ [projectId]
      heartbeatFailures := Function.update loop.heartbeatFailures projectId 0
      heartbeatLastRun := Function.update loop.heartbeatLastRun projectId (some answer.recordedAt)
      heartbeatIntervals :=
        (projectId, scheduledInterval arguments recommended) :: loop.heartbeatIntervals }

def serveHeartbeat (run : SupervisorRun)
    (projectId : String) (answer : HeartbeatAnswer) : SupervisorRun :=
  let loop := recordHeartbeat arguments run.loop projectId answer
  { run with
    loop, clock := answer.recordedAt
    calls := run.calls ++ [.serve
      { key := projectId, startedAt := run.clock, endedAt := answer.recordedAt
        interval := (heartbeatInterval arguments loop projectId).getD ⊤ }] }

/-- The `for` loop over the due projects. The clock does not go back. -/
def serveHeartbeats (arguments : SupervisorArguments) :
    SupervisorRun → List String → List HeartbeatAnswer → Option SupervisorRun
  | run, [], [] => some run
  | run, projectId :: due, answer :: answers =>
    if answer.recordedAt < run.clock then none
    else serveHeartbeats arguments (serveHeartbeat arguments run projectId answer) due answers
  | _, _, _ => none

/-- The pass after `process_next_task` found nothing to run. -/
def idlePass (loop : SupervisorLoop)
    (answers : SupervisorAnswers) : SupervisorLoop × Option ExitReason :=
  if arguments.watch && !loop.attemptedTaskIds.isEmpty &&
      decide (0 < answers.queueDepth) then
    ({ loop with attemptedTaskIds := [] }, none)
  else if arguments.checksReviews && decide (0 < answers.reviews.checked) then
    ({ loop with
        reviewCheckCount := loop.reviewCheckCount + answers.reviews.checked
        reviewConflictCount := loop.reviewConflictCount + answers.reviews.conflict
        reviewMergedCount := loop.reviewMergedCount + answers.reviews.merged
        idleCycles := 0 }, none)
  else if arguments.hasMaintenanceCallback && answers.maintenanceChanged then (loop.busy, none)
  else if answers.recoveredAny then (loop.busy, none)
  else if !arguments.watch then (loop.idle, some .idle)
  else if answers.stopRequestedWhenIdle then (loop.idle, some .gracefulStopRequested)
  else if arguments.maxIdleCycles.any (· ≤ loop.idle.idleCycles) then
    (loop.idle, some .maxIdleCyclesReached)
  else (loop.idle.slept arguments.idleSleepSeconds, none)

/-- The pass from the answer of `process_next_task` on. -/
def queuePass (loop : SupervisorLoop)
    (answers : SupervisorAnswers) : SupervisorLoop × Option ExitReason :=
  match answers.queue with
  | .gateBlocked retryInSeconds => (loop.slept (min retryInSeconds 60), none)
  | .processed taskId =>
    ({ loop with
        processedTaskIds := loop.processedTaskIds ++ [taskId]
        attemptedTaskIds := taskId :: loop.attemptedTaskIds
        idleCycles := 0 }, none)
  | .nothing => idlePass arguments loop answers

/-- The call of `process_next_task` with the rest of its pass. -/
def queueStep (run : SupervisorRun) (answers : SupervisorAnswers) : SupervisorRun :=
  { run with
    loop := (queuePass arguments run.loop answers).1, calls := run.calls ++ [.work]
    exitReason := (queuePass arguments run.loop answers).2 }

/-- One pass of `while True`. An answer that the clock or the heartbeats could
not have given refuses it. A pass in which something raises is the beginning
of one in which nothing does. -/
def pass (run : SupervisorRun) (answers : SupervisorAnswers) : Option SupervisorRun :=
  if run.exitReason.isSome then none
  else if answers.stopRequested then some { run with exitReason := some .gracefulStopRequested }
  else if arguments.maxIterations.any (· ≤ run.loop.iterations) then
    some { run with exitReason := some .maxIterationsReached }
  else if answers.checkedAt < run.clock then none
  else
    match dueHeartbeatProjects arguments (run.check answers.checkedAt).loop
        answers with
    | [] => some (queueStep arguments (run.check answers.checkedAt) answers)
    | projectId :: due =>
      (serveHeartbeats arguments (run.check answers.checkedAt)
        (projectId :: due) answers.heartbeats).map fun served =>
          { served with loop := served.loop.busy }

/-- `SupervisorService.run` on the answers that its passes read. -/
def run (arguments : SupervisorArguments) (start : ℚ)
    (answers : List SupervisorAnswers) : Option SupervisorRun :=
  runEvents (pass arguments) { clock := start } answers

theorem pass_cases {arguments : SupervisorArguments}
    {run next : SupervisorRun} {answers : SupervisorAnswers}
    (passes : pass arguments run answers = some next) :
    run.exitReason = none ∧ ((∃ reason, next = { run with exitReason := some reason }) ∨
      (run.clock ≤ answers.checkedAt ∧
        dueHeartbeatProjects arguments (run.check answers.checkedAt).loop
          answers = [] ∧
        next = queueStep arguments (run.check answers.checkedAt) answers) ∨
      (run.clock ≤ answers.checkedAt ∧ ∃ served,
        serveHeartbeats arguments (run.check answers.checkedAt)
          (dueHeartbeatProjects arguments (run.check answers.checkedAt).loop
            answers) answers.heartbeats = some served ∧
        next = { served with loop := served.loop.busy })) := by
  unfold pass at passes
  by_cases left : run.exitReason.isSome = true
  · rw [if_pos left] at passes
    cases passes
  rw [if_neg left] at passes
  refine ⟨Option.not_isSome_iff_eq_none.mp left, ?_⟩
  split at passes
  · exact .inl ⟨_, (Option.some.inj passes).symm⟩
  split at passes
  · exact .inl ⟨_, (Option.some.inj passes).symm⟩
  by_cases back : answers.checkedAt < run.clock
  · rw [if_pos back] at passes
    cases passes
  rw [if_neg back] at passes
  have forward := not_lt.mp back
  cases due : dueHeartbeatProjects arguments (run.check answers.checkedAt).loop answers with
  | nil =>
    rw [due] at passes
    exact .inr (.inl ⟨forward, rfl, (Option.some.inj passes).symm⟩)
  | cons _ _ =>
    rw [due] at passes
    obtain ⟨served, serves, busy⟩ := Option.map_eq_some_iff.mp passes
    exact .inr (.inr ⟨forward, served, serves, busy.symm⟩)

end SupervisorService

end AccruviaHarness
