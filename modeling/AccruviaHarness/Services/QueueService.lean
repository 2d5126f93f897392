import AccruviaHarness.Control.Plane
import AccruviaHarness.Services.RunService
import AccruviaHarness.Store.Recovery

/-!
# Dispatch of the task queue

`process_next_task` leases tasks one after the other until one passes the
checks of the control plane and of its objective, runs that task once, and
gives the lease back.
-/

namespace AccruviaHarness

open Library List

/-- The arguments of one `process_next_task` call and the answers of the run
that it may start. -/
structure DispatchRequest where
  now : Int
  workerId : String := "local-worker"
  leaseSeconds : Int := 3600
  projectId : Option String := none
  excludeTaskIds : List String := []
  llmAvailable : Bool := true
  answers : RunAnswers

inductive DispatchSelection where
  | idle
  | leased (task : Task)
  | outOfFuel

inductive DispatchResult where
  | gateBlocked
  | idle
  | processed (task : Option Task) (run : Run)
  | raised (error : PyError)
  | outOfFuel

namespace QueueService

variable (store : Store)

def workerLaneBlocks : Bool :=
  if !store.control.systemState.masterSwitch then false
  else
    match store.control.laneStates.lookup "worker" with
    | none => false
    | some lane => lane.state = .cooldown || lane.state = .paused

def objectiveDispatchBlockReason (now : Int) (task : Task) : Option String :=
  match task.objective? with
  | none => none
  | some objectiveId =>
    if store.control.budgetExhausted now "objective" objectiveId then
      some "Objective budget exhausted for the current hour."
    else if store.control.noProgressBlocked objectiveId then
      some "Objective is paused for no_progress; operator review required before more work on this objective."
    else none

def dispatchBlock (now : Int) (task : Task) : Option String :=
  if workerLaneBlocks store then some "Worker lane is paused."
  else
    match objectiveDispatchBlockReason store now task with
    | some reason => some reason
    | none => objectiveGateBlock store task

def runLeased (task : Task) (request : DispatchRequest) : Store × DispatchResult :=
  match RunService.runOnce store task.id request.answers with
  | (store, .error error) => (store.releaseTaskLease task.id (some request.workerId), .raised error)
  | (store, .ok run) =>
    (store.releaseTaskLease task.id (some request.workerId), .processed (store.getTask task.id) run)

/-- The `while` loop of `process_next_task`, up to the run. -/
def selectTask (request : DispatchRequest) :
    Nat → Store → List String → Store × DispatchSelection
  | 0, store, _ => (store, .outOfFuel)
  | fuel + 1, store, localExclusions =>
    match store.acquireTaskLease request.now request.workerId
      request.leaseSeconds request.projectId localExclusions with
    | (store, none) => (store, .idle)
    | (store, some task) =>
      match dispatchBlock store request.now task with
      | some _ =>
        selectTask request fuel (store.releaseTaskLease task.id (some request.workerId))
          (task.id :: localExclusions)
      | none => (store, .leased task)

def dispatch (request : DispatchRequest) : Store × DispatchSelection :=
  selectTask request (store.tasks.rows.length + 1) store request.excludeTaskIds

def processNextTask (request : DispatchRequest) : Store × DispatchResult :=
  if !request.llmAvailable then (store, .gateBlocked)
  else
    match dispatch store request with
    | (store, .idle) => (store, .idle)
    | (store, .outOfFuel) => (store, .outOfFuel)
    | (store, .leased task) => runLeased store task request

theorem selectTask_spec (request : DispatchRequest) (fuel : Nat) (store : Store)
    (localExclusions : List String) :
    ∃ taskLeases, (selectTask request fuel store localExclusions).1 =
          { store with taskLeases } ∧
        ∀ task, (selectTask request fuel store localExclusions).2 = .leased task →
            task ∈ store.tasks.rows ∧ task.status = .pending ∧
              dispatchBlock { store with taskLeases } request.now task =
                none := by
  induction fuel generalizing store localExclusions with
  | zero =>
    refine ⟨store.taskLeases, rfl, ?_⟩
    intro task leased
    cases leased
  | succ _ ih =>
    unfold selectTask
    rcases store.acquireTaskLease_cases request.now request.workerId
        request.leaseSeconds request.projectId localExclusions with
      ⟨_, outcome⟩ | ⟨task, taskLeases, scanned, _, _, _, outcome⟩
    · rw [outcome]
      refine ⟨(store.deleteExpiredLeases request.now).taskLeases, rfl, ?_⟩
      intro task leased
      cases leased
    · rw [outcome]
      have listed := mem_of_find?_eq_some scanned
      simp only [Store.leaseCandidates, mem_orderBy, mem_filter,
        Bool.and_eq_true, decide_eq_true_eq] at listed
      cases blocked : dispatchBlock
          { store.deleteExpiredLeases request.now with taskLeases }
          request.now task with
      | none =>
        simp only [blocked]
        refine ⟨taskLeases, rfl, ?_⟩
        rintro _ ⟨rfl⟩
        exact ⟨listed.1, listed.2.1.1.1, blocked⟩
      | some _ =>
        simp only [blocked]
        exact ih _ _

def remainingTasks (localExclusions : List String) : List Task :=
  store.tasks.rows.filter fun task => !localExclusions.contains task.id

variable {store : Store} {task : Task}

theorem remainingTasks_cons_lt {localExclusions : List String} (stored : task ∈ store.tasks.rows)
    (new : task.id ∉ localExclusions) :
    (remainingTasks store (task.id :: localExclusions)).length <
      (remainingTasks store localExclusions).length := by
  have narrowed : remainingTasks store (task.id :: localExclusions) =
      (remainingTasks store localExclusions).filter fun other => !decide (other.id = task.id) := by
    simp only [remainingTasks, filter_filter]
    apply filter_congr
    intro other _
    by_cases same : other.id = task.id
    · simp [same]
    · simp [same]
  rw [narrowed]
  apply length_filter_lt_length_iff_exists.mpr
  refine ⟨task, ?_, by simp⟩
  simp [remainingTasks, stored, new]

theorem selectTask_ne_outOfFuel (request : DispatchRequest) (fuel : Nat) (store : Store)
    (localExclusions : List String)
    (enough : (remainingTasks store localExclusions).length < fuel) :
    (selectTask request fuel store localExclusions).2 ≠ .outOfFuel := by
  induction fuel generalizing store localExclusions with
  | zero => omega
  | succ _ ih =>
    unfold selectTask
    rcases store.acquireTaskLease_cases request.now request.workerId
        request.leaseSeconds request.projectId localExclusions with
      ⟨_, outcome⟩ | ⟨task, taskLeases, scanned, _, _, _, outcome⟩
    · rw [outcome]
      intro same
      cases same
    · rw [outcome]
      have listed := mem_of_find?_eq_some scanned
      simp only [Store.leaseCandidates, mem_orderBy, mem_filter,
        Bool.and_eq_true, Bool.not_eq_true', contains_eq_mem,
        decide_eq_false_iff_not] at listed
      have fewer := remainingTasks_cons_lt listed.1 listed.2.2
      cases blocked : dispatchBlock
          { store.deleteExpiredLeases request.now with taskLeases }
          request.now task with
      | none =>
        simp only [blocked]
        intro same
        cases same
      | some _ =>
        simp only [blocked]
        apply ih
        exact Nat.lt_of_lt_of_le fewer (Nat.le_of_lt_succ enough)

theorem dispatch_ne_outOfFuel (store : Store) (request : DispatchRequest) :
    (dispatch store request).2 ≠ .outOfFuel := by
  apply selectTask_ne_outOfFuel
  exact Nat.lt_succ_of_le (length_filter_le _ _)

theorem processNextTask_cases (store : Store) (request : DispatchRequest) :
    (∃ taskLeases result, processNextTask store request = ({ store with taskLeases }, result) ∧
          (result = .gateBlocked ∧ request.llmAvailable = false ∨
            result = .idle ∧ (dispatch store request).2 = .idle)) ∨
      ∃ taskLeases task,
        request.llmAvailable = true ∧
          dispatch store request = ({ store with taskLeases }, .leased task) ∧
          task ∈ store.tasks.rows ∧ task.status = .pending ∧
            dispatchBlock { store with taskLeases } request.now task = none ∧
              processNextTask store request = runLeased { store with taskLeases } task request := by
  obtain ⟨taskLeases, onlyLeases, leased⟩ :=
    selectTask_spec request (store.tasks.rows.length + 1) store request.excludeTaskIds
  have enough := dispatch_ne_outOfFuel store request
  unfold processNextTask
  by_cases available : request.llmAvailable = true
  · simp only [available, Bool.not_true, Bool.false_eq_true, if_false]
    cases selection : (dispatch store request).2 with
    | idle =>
      have outcome : dispatch store request =
          ({ store with taskLeases }, .idle) := Prod.ext onlyLeases selection
      rw [outcome]
      exact .inl ⟨taskLeases, .idle, rfl, .inr ⟨rfl, rfl⟩⟩
    | outOfFuel => exact absurd selection enough
    | leased task =>
      have outcome : dispatch store request = ({ store with taskLeases }, .leased task) :=
        Prod.ext onlyLeases selection
      obtain ⟨stored, pending, unblocked⟩ := leased task selection
      rw [outcome]
      exact .inr ⟨taskLeases, task, trivial, rfl, stored, pending, unblocked, rfl⟩
  · simp only [available, Bool.not_false, if_true]
    exact .inl ⟨store.taskLeases, .gateBlocked, rfl, .inl ⟨rfl, trivial⟩⟩

theorem objectiveGateBlock_of_dispatchBlock
    {now : Int} (unblocked : dispatchBlock store now task = none) :
    objectiveGateBlock store task = none := by
  unfold dispatchBlock at unblocked
  split at unblocked
  · cases unblocked
  · split at unblocked
    · cases unblocked
    · exact unblocked

end QueueService

end AccruviaHarness
