import AccruviaHarness.Services.QueueProgress
import AccruviaHarness.Services.QuietRun

/-!
# Exceptions in the task queue

Every call that `process_next_task` makes while it holds a lease may raise.
-/

namespace AccruviaHarness

open Library

inductive QueueCall where
  | workerLane
  | objectiveDispatch
  | objectiveGate
  | reportBlocked
  | metricsBefore
  | reportStarted
  | getTask
  | metricsAfter
  | reportFinished
  | postTask
  deriving DecidableEq

structure QueueFailures where
  call : String → QueueCall → Option PyError
  run : String → RunFailures

abbrev QueueProgram (Result : Type) := EStateM PyError Store Result

namespace QueueService

variable (failures : QueueFailures) (request : DispatchRequest)

def call (task : Task) (name : QueueCall) : QueueProgram Unit :=
  raiseIf (failures.call task.id name)

variable (task : Task)

def calls (names : List QueueCall) : QueueProgram Unit :=
  raiseFirst (names.map (failures.call task.id))

def objectiveDispatchCalls : List QueueCall :=
  if task.objective?.isSome then [.objectiveDispatch] else []

def objectiveGateCalls : List QueueCall :=
  if task.objective?.isSome && !taskBypassesObjectiveExecutionGate task then [.objectiveGate]
  else []

def checkLeased : QueueProgram Bool := do
  call failures task .workerLane
  let store ← get
  if workerLaneBlocks store then do
    call failures task .reportBlocked
    return true
  else do
    calls failures task (objectiveDispatchCalls task)
    if (objectiveDispatchBlockReason store request.now task).isSome then do
      call failures task .reportBlocked
      return true
    else do
      calls failures task (objectiveGateCalls task)
      if (objectiveGateBlock store task).isSome then do
        call failures task .reportBlocked
        return true
      else do
        calls failures task [.metricsBefore, .reportStarted]
        return false

def release : QueueProgram Unit :=
  modify fun store => store.releaseTaskLease task.id (some request.workerId)

/-- The body of the `try` statement. -/
def runReported : QueueProgram DispatchResult := do
  let run ← RunService.runOnceRaising (failures.run task.id) task.id request.answers
  call failures task .getTask
  let updated := (← get).getTask task.id
  call failures task .metricsAfter
  call failures task .reportFinished
  if updated.isSome then call failures task .postTask
  return .processed updated run

/-- The `while` loop. -/
def processRounds : Nat → List String → QueueProgram DispatchResult
  | 0, _ => pure .outOfFuel
  | fuel + 1, localExclusions => do
      let leased ← modifyGet fun store =>
        (store.acquireTaskLease request.now request.workerId
          request.leaseSeconds request.projectId localExclusions).swap
      match leased with
      | none => return .idle
      | some task =>
        if ← checkLeased failures request task then
          release request task
          processRounds fuel (task.id :: localExclusions)
        else withCleanup (runReported failures request task) (release request task)

variable (store : Store)

/-- `process_next_task`, with the calls that may raise. -/
def processNextTaskRaising : EStateM.Result PyError Store DispatchResult :=
  if !request.llmAvailable then .ok .gateBlocked store
  else processRounds failures request (store.tasks.rows.length + 1) request.excludeTaskIds store

/-- The calls that are made for a leased task outside of the `try`
statement. -/
def openCalls (now : Int) (task : Task) : List QueueCall :=
  .workerLane ::
    if workerLaneBlocks store then [.reportBlocked]
    else
      objectiveDispatchCalls task ++
        if (objectiveDispatchBlockReason store now task).isSome then [.reportBlocked]
        else
          objectiveGateCalls task ++
            if (objectiveGateBlock store task).isSome then [.reportBlocked]
            else [.metricsBefore, .reportStarted]

theorem dispatchBlock_isSome (now : Int) (task : Task) :
    (dispatchBlock store now task).isSome =
      if workerLaneBlocks store then true
      else if (objectiveDispatchBlockReason store now task).isSome then true
      else (objectiveGateBlock store task).isSome := by
  unfold dispatchBlock
  cases workerLaneBlocks store with
  | true => rfl
  | false =>
    cases objectiveDispatchBlockReason store now task with
    | none => rfl
    | some _ => rfl

theorem stopsAt_call {store : Store} (task : Task) (name : QueueCall) :
    StopsAt (call failures task name) store [failures.call task.id name]
      (fun left => left = store) ⟨⟩ store :=
  .raiseIf rfl

theorem stopsAt_calls {store : Store} (task : Task) (names : List QueueCall) :
    StopsAt (calls failures task names) store
      (names.map (failures.call task.id)) (fun left => left = store) ⟨⟩ store :=
  .raiseFirst _ rfl

theorem stopsAt_reportBlocked (task : Task) :
    StopsAt (do call failures task .reportBlocked; return true) store
      [failures.call task.id .reportBlocked] (fun left => left = store) true
      store :=
  (stopsAt_call failures task .reportBlocked).bind fun _ => .returns rfl

theorem stopsAt_checkLeased (store : Store) (task : Task) :
    StopsAt (checkLeased failures request task) store
      ((openCalls store request.now task).map (failures.call task.id))
      (fun left => left = store)
      (dispatchBlock store request.now task).isSome store := by
  have reported := stopsAt_reportBlocked failures store task
  rw [dispatchBlock_isSome]
  refine (stopsAt_call failures task .workerLane).bind fun _ => .read ?_
  by_cases lane : workerLaneBlocks store = true
  · simp only [if_pos lane]
    exact reported
  simp only [if_neg lane, List.map_append]
  refine (stopsAt_calls failures task _).bind fun _ => ?_
  by_cases dispatch :
      (objectiveDispatchBlockReason store request.now task).isSome = true
  · simp only [if_pos dispatch]
    exact reported
  simp only [if_neg dispatch, List.map_append]
  refine (stopsAt_calls failures task _).bind fun _ => ?_
  by_cases gate : (objectiveGateBlock store task).isSome = true
  · simp only [gate, if_true]
    exact reported
  · simp only [gate]
    exact (stopsAt_calls failures task _).bind fun _ => .returns rfl

/-! ## The lease of a call -/

def leasesFound : KeyedTable TaskLease.taskId :=
  if request.llmAvailable then (store.deleteExpiredLeases request.now).taskLeases
  else store.taskLeases

/-- Of the tasks in their lease order, up to the first one that no check
blocks: no call outside of the `try` statement raises. -/
def OpenCallsPass (store : Store) (now : Int) : List Task → Prop
  | [] => True
  | task :: rest =>
    (∀ name ∈ openCalls store now task, failures.call task.id name = none) ∧
      ((dispatchBlock store now task).isSome → OpenCallsPass store now rest)

theorem keeps_runReported : Keeps Store.taskLeases (runReported failures request task) := by
  refine .bind ((RunService.keeps_runOnce _ _ _).of_part Prod.fst) fun run => ?_
  refine .bind (.step _) fun _ => .bind .reads fun _ => ?_
  refine .bind (.step _) fun _ => .bind (.step _) fun _ => ?_
  split
  · exact .bind (.step _) fun _ => .returns _
  · exact .returns _

theorem releaseTaskLease_taskLeases
    {store other : Store} (same : store.taskLeases = other.taskLeases)
    (taskId : String) (workerId : Option String) :
    (store.releaseTaskLease taskId workerId).taskLeases =
      (other.releaseTaskLease taskId workerId).taskLeases := by
  unfold Store.releaseTaskLease
  cases workerId <;> simp only [same]

structure Leased (store : Store) (task : Task) (leased : Store) : Prop where
  apart : ∃ taskLeases, Holds store request task taskLeases ∧
    leased = { store.deleteExpiredLeases request.now with taskLeases }

variable {failures request} {store leased : Store} {task : Task}

variable {localExclusions : List String} {fuel : Nat}

theorem leased_of_cons {rest : List Task}
    (available : availableTasks store request localExclusions = task :: rest) :
    ∃ leased, Leased request store task leased ∧
      store.acquireTaskLease request.now request.workerId request.leaseSeconds
        request.projectId localExclusions = (leased, some task) := by
  obtain ⟨taskLeases, holds, acquired⟩ := acquireTaskLease_of_cons available
  exact ⟨_, ⟨taskLeases, holds, rfl⟩, acquired⟩

theorem Leased.stopsAt_checkLeased (holds : Leased request store task leased) :
    StopsAt (checkLeased failures request task) leased
      ((openCalls store request.now task).map (failures.call task.id))
      (fun left => left = leased)
      (dispatchBlock store request.now task).isSome leased := by
  obtain ⟨_, _, rfl⟩ := holds.apart
  exact QueueService.stopsAt_checkLeased failures request _ task

theorem Leased.release (holds : Leased request store task leased) :
    leased.releaseTaskLease task.id (some request.workerId) =
      store.deleteExpiredLeases request.now := by
  obtain ⟨_, held, rfl⟩ := holds.apart
  exact held.release

theorem Leased.not_released (holds : Leased request store task leased) :
    ¬ ∀ lease ∈ leased.taskLeases.rows,
      lease ∈ (store.deleteExpiredLeases request.now).taskLeases.rows := by
  obtain ⟨taskLeases, held, rfl⟩ := holds.apart
  intro found
  have member : leaseOf request task ∈ taskLeases.rows := by
    rw [held.rows]
    simp
  have stored := found (leaseOf request task) member
  exact Store.isLeased_eq_false_iff.mp held.unleased _ stored rfl

theorem Leased.run (holds : Leased request store task leased) :
    (stateOf (withCleanup (runReported failures request task)
      (QueueService.release request task) leased)).taskLeases =
      (store.deleteExpiredLeases request.now).taskLeases := by
  unfold QueueService.release
  rw [stateOf_withCleanup, releaseTaskLease_taskLeases (keeps_runReported failures request task _),
    holds.release]

variable (failures request)

theorem openCallsPass_deleteExpiredLeases (store : Store) (now : Int) (tasks : List Task) :
    OpenCallsPass failures (store.deleteExpiredLeases now) now tasks ↔
      OpenCallsPass failures store now tasks := by
  induction tasks with
  | nil => exact .rfl
  | cons _ _ ih => exact and_congr .rfl (imp_congr .rfl ih)

def ReleasesAll (store after : Store) : Prop :=
  ∀ lease ∈ after.taskLeases.rows, lease ∈ (store.deleteExpiredLeases request.now).taskLeases.rows

theorem bind_modifyGet {Result Next : Type} (change : Store → Result × Store)
    (rest : Result → QueueProgram Next) (store : Store) :
    (modifyGet change >>= rest) store = rest (change store).1 (change store).2 := rfl

theorem processRounds_idle
    {store : Store} (none : availableTasks store request localExclusions = []) :
    processRounds failures request (fuel + 1) localExclusions store =
      .ok .idle (store.deleteExpiredLeases request.now) := by
  unfold processRounds
  rw [bind_modifyGet, acquireTaskLease_of_nil none]
  rfl

def afterChecks (fuel : Nat) (localExclusions : List String) (task : Task)
    (blocked : Bool) : QueueProgram DispatchResult :=
  if blocked then do
    release request task
    processRounds failures request fuel (task.id :: localExclusions)
  else withCleanup (runReported failures request task) (release request task)

theorem processRounds_leased (acquired : store.acquireTaskLease request.now request.workerId
      request.leaseSeconds request.projectId localExclusions = (leased, some task)) :
    processRounds failures request (fuel + 1) localExclusions store =
      (checkLeased failures request task >>=
        afterChecks failures request fuel localExclusions task) leased := by
  conv_lhs => unfold processRounds
  rw [bind_modifyGet, acquired]
  rfl

theorem not_releasesAll_of_stopped (holds : Leased request store task leased)
    (stops : firstObstacle ((openCalls store request.now task).map
      (failures.call task.id)) ≠ none) :
    ¬ ReleasesAll request store (stateOf ((checkLeased failures request task >>=
        afterChecks failures request fuel localExclusions task) leased)) := by
  obtain ⟨error, here⟩ := Option.ne_none_iff_exists'.mp stops
  have checking := @Leased.stopsAt_checkLeased failures _ _ _ _ holds
  obtain ⟨_, raised, same⟩ := checking.stopped error here
  have stopped : (checkLeased failures request task >>=
      afterChecks failures request fuel localExclusions task) leased = .error error leased := by
    show EStateM.bind _ _ leased = _
    rw [EStateM.bind, raised, same]
  rw [stopped]
  exact holds.not_released

theorem processRounds_releases_iff (fuel : Nat) (store : Store) (localExclusions : List String)
    (enough :
      (availableTasks store request localExclusions).length < fuel) :
    ReleasesAll request store (stateOf (processRounds failures request fuel localExclusions
          store)) ↔
      OpenCallsPass failures store request.now (availableTasks store request localExclusions) := by
  induction fuel generalizing store localExclusions with
  | zero => omega
  | succ fuel ih =>
    cases available : availableTasks store request localExclusions with
    | nil =>
      rw [processRounds_idle failures request available]
      exact iff_of_true (fun _ member => member) trivial
    | cons task _ =>
      obtain ⟨_, holds, acquired⟩ := leased_of_cons available
      rw [processRounds_leased failures request acquired]
      show _ ↔ _ ∧ _
      by_cases clear : firstObstacle ((openCalls store request.now task).map
            (failures.call task.id)) = none
      · have passes : ∀ name ∈ openCalls store request.now task,
            failures.call task.id name = none := by
          simpa using firstObstacle_eq_none_iff.mp clear
        have checking := @Leased.stopsAt_checkLeased failures _ _ _ _ holds
        rw [checking.passed_bind clear, and_iff_right passes]
        unfold afterChecks
        cases blocked : (dispatchBlock store request.now task).isSome with
        | true =>
          have excluded := availableTasks_exclude available
          have purged := availableTasks_deleteExpiredLeases store request
            (task.id :: localExclusions)
          have fewer : (availableTasks (store.deleteExpiredLeases request.now) request
              (task.id :: localExclusions)).length < fuel := by
            rw [purged, excluded]
            rw [available, List.length_cons] at enough
            omega
          have later := ih _ _ fewer
          rw [openCallsPass_deleteExpiredLeases, purged, excluded]
            at later
          unfold ReleasesAll at later ⊢
          rw [Store.deleteExpiredLeases_deleteExpiredLeases] at later
          simp only [if_true, forall_const]
          rw [← later, ← holds.release]
          rfl
        | false =>
          simp only [Bool.false_eq_true, if_false, false_imp_iff, iff_true]
          unfold ReleasesAll
          rw [holds.run]
          exact fun _ member => member
      · refine iff_of_false (not_releasesAll_of_stopped failures request holds clear) ?_
        intro passes
        apply clear
        simpa [firstObstacle_eq_none_iff] using passes.1

/-- No lease that a call acquires is left at its end, in whichever way it
ends, if and only if no call outside of the `try` statement raises. -/
theorem processNextTask_releases_leases_iff
    (failures : QueueFailures) (store : Store) (request : DispatchRequest) :
    (∀ lease ∈ (stateOf (processNextTaskRaising failures request store)).taskLeases.rows,
      lease ∈ (leasesFound request store).rows) ↔
      (request.llmAvailable = true → OpenCallsPass failures store request.now
          (availableTasks store request request.excludeTaskIds)) := by
  unfold processNextTaskRaising leasesFound
  cases available : request.llmAvailable with
  | false => exact iff_of_true (fun _ member => member) nofun
  | true =>
    have ended := processRounds_releases_iff failures request _ store
      request.excludeTaskIds (length_availableTasks_lt store request)
    exact ended.trans ⟨fun passes _ => passes, fun passes => passes rfl⟩

def failingCallback : QueueFailures where
  call _ name := if name = .reportStarted then some (.runtimeError "callback") else none
  run _ := RunService.noFailures

def plainStore : Store where
  projects := .single { id := "project" }
  tasks := .single plainTask

theorem not_processNextTask_releases_leases :
    ¬ ∀ (failures : QueueFailures) (store : Store) (request : DispatchRequest),
      ∀ lease ∈ (stateOf (processNextTaskRaising failures request store)).taskLeases.rows,
        lease ∈ (leasesFound request store).rows := by
  intro releases
  have kept : leaseOf plainRequest plainTask ∈
      (stateOf (processNextTaskRaising failingCallback plainRequest
        plainStore)).taskLeases.rows := by
    decide +kernel
  exact absurd (releases _ _ _ _ kept) (by decide)

end QueueService

end AccruviaHarness
