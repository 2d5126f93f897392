import AccruviaHarness.Control.Soundness
import AccruviaHarness.Services.ObservedRun
import AccruviaHarness.Services.QueueFailures

/-!
# The task queue under observation

`process_next_task` with the runtime observer as its progress callback.
-/

namespace AccruviaHarness

open Library List

structure ObservedEvent where
  now : Int
  event : ObserverEvent

/-- A `process_next_task` call whose progress callback is the observer: its
clock readings, the steps of its run that raise, and what the observer handles
in the steps after the report of the new run. -/
structure ObservedCall where
  request : DispatchRequest
  recordedAt : Int
  finishedAt : Int
  unavailable : FailureClassification := { classification := "unknown", cooldownSeconds := 0 }
  failures : RunFailures := RunService.noFailures
  reported : RunStep → List ObservedEvent := fun _ => []
  checkedFirst : request.now ≤ request.answers.now
  createdFirst : request.answers.now ≤ recordedAt

namespace QueueService

def observe (now : Int) (event : ObserverEvent) : QueueProgram Unit :=
  fun store =>
    match ControlRuntimeObserver.handle store now event with
    | (left, .ok ()) => .ok () left
    | (left, .error error) => .error error left

def observeEach : List ObservedEvent → QueueProgram Unit
  | [] => pure ()
  | observed :: later => do
      observe observed.now observed.event
      observeEach later

end QueueService

namespace ObservedCall

open QueueService

variable (call : ObservedCall)

def take (step : RunStep) : RunProgram Unit := do
  raiseIf (call.failures step)
  observeEach (call.reported step)

/-- The `run_created` event. -/
def report (run : Run) : RunProgram Unit :=
  observe call.recordedAt (.runCreated run.id run.taskId run.attempt)

/-- The body of the `try` statement. -/
def runReported (task : Task) : QueueProgram DispatchResult := do
  let run ← RunService.runOnceWith call.take call.report task.id call.request.answers
  let updated := (← get).getTask task.id
  observe call.finishedAt (.taskFinished run.id run.status.value task.id
    (updated.elim "unknown" fun task => task.status.value))
  return .processed updated run

/-- `process_next_task` with the observer attached. The events about blocked
tasks are left out: the observer ignores them. -/
def process : QueueProgram DispatchResult := fun store =>
  if !call.request.llmAvailable then
    (do
      observe call.request.now (.backendsUnavailable call.unavailable)
      return .gateBlocked : QueueProgram DispatchResult) store
  else
    match dispatch store call.request with
    | (store, .idle) => .ok .idle store
    | (store, .outOfFuel) => .ok .outOfFuel store
    | (store, .leased task) =>
      (do
        observe call.request.now .taskStarted
        withCleanup (call.runReported task)
          (release call.request task) : QueueProgram DispatchResult) store

/-! ## What a call does -/

theorem follows_observe (now : Int) (event : ObserverEvent) :
    Follows Continues (observe now event) := by
  intro before
  have handled := ControlWrites.handle before now event
  unfold observe
  generalize ControlRuntimeObserver.handle before now event = outcome
    at handled
  rcases outcome with ⟨_, _ | _⟩
  · exact .of_controlWrites handled
  · exact .of_controlWrites handled

theorem follows_observeEach (events : List ObservedEvent) :
    Follows Continues (observeEach events) := by
  induction events with
  | nil => exact .returns _
  | cons _ _ ih => exact .bind (follows_observe _ _) fun _ => ih

theorem follows_take (step : RunStep) : Follows Continues (call.take step) :=
  .bind (.raisesIf _) fun _ => follows_observeEach _

theorem usageFrom_handleRunCreated {store : Store} {taskId objectiveId : String}
    (same : store.objectiveOf taskId = some objectiveId)
    {cutoff now : Int} (passed : cutoff ≤ now) (runId : String)
    (attempt : Int) :
    store.control.usageFrom cutoff "objective" objectiveId + 1 ≤
      (ControlRuntimeObserver.handleRunCreated store now runId taskId
        attempt).control.usageFrom cutoff "objective" objectiveId := by
  have charged : ∀ opened : Store, opened.control.usageFrom cutoff "objective" objectiveId + 1 ≤
        (ControlRuntimeObserver.spendObjectiveBudget opened now
          objectiveId).control.usageFrom cutoff "objective" objectiveId := by
    intro opened
    have recorded := opened.control.usageFrom_lt_recordBudgetUsage passed "objective" objectiveId
    unfold ControlRuntimeObserver.spendObjectiveBudget
    dsimp only
    split
    · refine recorded.trans ?_
      exact (ControlWrites.recordHumanEscalation _ now _ _).extended.usage
        cutoff "objective" objectiveId
    · exact recorded
  unfold Store.objectiveOf at same
  unfold ControlRuntimeObserver.handleRunCreated
  dsimp only
  rw [same]
  exact charged _

theorem follows_openRunWith {task : Task} {taskId : String} (named : task.id = taskId) :
    Follows (MayStart taskId call.request.answers.now call.recordedAt)
      (RunService.openRunWith call.report task call.request.answers) := by
  intro before
  generalize opened : RunService.newRun before task call.request.answers = run
  have taken : run.taskId = taskId := by
    rw [← opened]
    exact named
  have stamped : run.createdAt = call.request.answers.now := by
    rw [← opened]
    rfl
  show MayStart _ _ _ before (stateOf (EStateM.bind (valueOf (RunService.storedRun before
      (RunService.newRun before task call.request.answers))) _ before))
  rw [opened]
  cases stored : RunService.storedRun before run with
  | error _ => exact .inl (refl_of Continues before)
  | ok created =>
    obtain ⟨runs, inserted, rfl⟩ : ∃ runs,
        before.runs.insert? run = some runs ∧ created = { before with runs } := by
      unfold RunService.storedRun Store.createRun at stored
      cases inserted : before.runs.insert? run with
      | none =>
        rw [inserted] at stored
        cases stored
      | some runs =>
        rw [inserted] at stored
        cases stored
        exact ⟨runs, rfl, rfl⟩
    have writes := ControlWrites.handleRunCreated { before with runs }
      call.recordedAt run.id run.taskId run.attempt
    obtain ⟨_, _, reported⟩ := writes.onlyControl
    refine .inr ?_
    show StartsRun taskId call.request.answers.now call.recordedAt before
      (ControlRuntimeObserver.handleRunCreated { before with runs }
        call.recordedAt run.id run.taskId run.attempt)
    refine ⟨?runs, ?objectives, writes.extended, ?charged⟩
    case runs =>
      rw [reported, ← taken, ← stamped]
      show runs.rows.map Run.origin = _
      rw [KeyedTable.rows_of_insert? inserted, map_append]
      rfl
    case objectives =>
      rw [reported]
      rfl
    case charged =>
      intro objectiveId same cutoff passed
      have found : Store.objectiveOf { before with runs } run.taskId = some objectiveId := by
        rw [taken]
        exact same
      exact usageFrom_handleRunCreated found passed run.id run.attempt

theorem follows_runReported (task : Task) :
    Follows (MayStart task.id call.request.answers.now call.recordedAt)
      (call.runReported task) := by
  refine (RunService.follows_runOnceWith call.follows_take
    fun other named => call.follows_openRunWith named).seq ?_
    (fun _ _ ended => ended) fun _ _ _ => MayStart.then_continues
  intro before run middle _
  have finished : Follows Continues (do
      let updated := (← get).getTask task.id
      observe call.finishedAt (.taskFinished run.id run.status.value task.id
        (updated.elim "unknown" fun task => task.status.value))
      return .processed updated run : QueueProgram DispatchResult) :=
    .bind .reads fun _ => .bind (follows_observe _ _) fun _ => .returns _
  exact finished middle

theorem process_spec (store : Store) :
    Continues store (stateOf (call.process store)) ∨
      ∃ task, firstRunnable store call.request call.request.excludeTaskIds = some task ∧
        StartsRun task.id call.request.answers.now call.recordedAt store
          (stateOf (call.process store)) := by
  have leasesOnly : ∀ taskLeases, Continues store { store with taskLeases } :=
    fun _ => .of_same rfl rfl rfl
  have finds := dispatch_finds store call.request
  unfold process
  cases available : call.request.llmAvailable with
  | false =>
    have gated : Follows Continues (do
        observe call.request.now (.backendsUnavailable call.unavailable)
        return .gateBlocked : QueueProgram DispatchResult) :=
      .bind (follows_observe _ _) fun _ => .returns _
    exact .inl (gated store)
  | true =>
    simp only [Bool.not_true, Bool.false_eq_true, if_false]
    generalize dispatch store call.request = outcome at finds
    cases finds with
    | nothing _ => exact .inl (leasesOnly _)
    | @first task taskLeases found holds =>
      have ran : Follows
          (MayStart task.id call.request.answers.now call.recordedAt) (do
            observe call.request.now .taskStarted
            withCleanup (call.runReported task) (release call.request task) :
            QueueProgram DispatchResult) := by
        refine (follows_observe _ _).seq ?_ (fun _ _ => .inl)
          fun _ _ _ => MayStart.after_continues
        intro _ _ middle _
        unfold release
        rw [stateOf_withCleanup]
        exact (call.follows_runReported task middle).then_continues (.of_same rfl rfl rfl)
      have started := (ran { store.deleteExpiredLeases call.request.now with
        taskLeases }).after_continues (leasesOnly taskLeases)
      rcases started with kept | started
      · exact .inl kept
      · exact .inr ⟨task, found, started⟩

end ObservedCall

/-! ## Histories -/

inductive QueueAction where
  | process (call : ObservedCall)
  | control (call : ControlCall)

namespace QueueAction

def step (store : Store) : QueueAction → Option Store
  | process call => some (stateOf (call.process store))
  | control call => some (performControl store call)

def performed (store : Store) (actions : List QueueAction) : Store :=
  actions.foldl (fun store action => (action.step store).getD store) store

theorem runEvents_performed (store : Store) (actions : List QueueAction) :
    runEvents step store actions = some (performed store actions) := by
  induction actions generalizing store with
  | nil => rfl
  | cons action _ ih =>
    cases action with
    | process _ => exact ih _
    | control _ => exact ih _

/-- The run that the call starts leaves its objective below the limit: fewer
runs than the limit are counted for it in the past hour. -/
def BelowLimit (store : Store) : QueueAction → Prop
  | process call =>
    ∀ task objectiveId, QueueService.firstRunnable store call.request
          call.request.excludeTaskIds = some task →
        task.objective? = some objectiveId → store.control.recentUsage call.request.now "objective"
            objectiveId < expensiveCodingRunLimit
  | control _ => True

end QueueAction

def Store.runsCreated (store : Store) (earlier : Nat) (objectiveId : String)
    (accept : Int → Bool) : Nat :=
  ((store.runs.rows.map Run.origin).drop earlier).countP fun origin =>
    store.objectiveOf origin.1 = some objectiveId && accept origin.2

def Store.runsInHour (store : Store) (earlier : Nat) (objectiveId : String) (since : Int) : Nat :=
  store.runsCreated earlier objectiveId fun createdAt =>
    since ≤ createdAt && createdAt ≤ since + expensiveCodingRunWindow

section

variable {before after : Store} {earlier : Nat} {objectiveId : String}
  {accept : Int → Bool}

theorem runsCreated_of_continues (continues : Continues before after) :
    after.runsCreated earlier objectiveId accept =
      before.runsCreated earlier objectiveId accept := by
  unfold Store.runsCreated
  rw [continues.runs, continues.objectives]

theorem runsCreated_of_startsRun {taskId : String} {createdAt recordedAt : Int}
    (starts : StartsRun taskId createdAt recordedAt before after)
    (older : earlier ≤ before.runs.rows.length) :
    after.runsCreated earlier objectiveId accept = before.runsCreated earlier objectiveId accept +
        if before.objectiveOf taskId = some objectiveId && accept createdAt then 1 else 0 := by
  unfold Store.runsCreated
  rw [starts.runs, starts.objectives, drop_append_of_le_length,
    countP_append, countP_singleton]
  rw [length_map]
  exact older

theorem runsCreated_mono {wider : Int → Bool}
    (implied : ∀ createdAt, accept createdAt = true → wider createdAt = true) :
    before.runsCreated earlier objectiveId accept ≤
      before.runsCreated earlier objectiveId wider := by
  apply countP_mono_left
  intro origin _ accepted
  simp only [Bool.and_eq_true] at accepted ⊢
  exact ⟨accepted.1, implied _ accepted.2⟩

end

/-- Every run after the earlier ones is counted against the budget of its
objective, and no hour has more of them than the limit. -/
structure Metered (earlier : Nat) (limit : Int) (store : Store) : Prop where
  older : earlier ≤ store.runs.rows.length
  counted : ∀ objectiveId cutoff,
    (store.runsCreated earlier objectiveId fun createdAt =>
      cutoff ≤ createdAt : Nat) ≤ store.control.usageFrom cutoff "objective" objectiveId
  limited : ∀ objectiveId since, (store.runsInHour earlier objectiveId since : Int) ≤ limit

namespace Metered

variable {earlier : Nat} {limit : Int} {store after : Store}

theorem continues (metered : Metered earlier limit store)
    (kept : Continues store after) : Metered earlier limit after where
  older := by
    have same := congrArg List.length kept.runs
    rw [length_map, length_map] at same
    rw [same]
    exact metered.older
  counted objectiveId cutoff := by
    rw [runsCreated_of_continues kept]
    exact (metered.counted objectiveId cutoff).trans
      (kept.control.usage cutoff "objective" objectiveId)
  limited objectiveId since := by
    unfold Store.runsInHour
    rw [runsCreated_of_continues kept]
    exact metered.limited objectiveId since

theorem startsRun (metered : Metered earlier limit store)
    {taskId : String} {checkedAt createdAt recordedAt : Int}
    (checkedFirst : checkedAt ≤ createdAt)
    (createdFirst : createdAt ≤ recordedAt)
    (room : ∀ objectiveId, store.objectiveOf taskId = some objectiveId →
      store.control.recentUsage checkedAt "objective" objectiveId < limit)
    (starts : StartsRun taskId createdAt recordedAt store after) :
    Metered earlier limit after where
  older := by
    have same := congrArg List.length starts.runs
    rw [length_map, length_append, length_map] at same
    exact same ▸ Nat.le_add_right_of_le metered.older
  counted objectiveId cutoff := by
    rw [runsCreated_of_startsRun starts metered.older]
    have counted := metered.counted objectiveId cutoff
    split
    next both =>
      simp only [Bool.and_eq_true, decide_eq_true_eq] at both
      have charged := starts.charged objectiveId both.1 cutoff (both.2.trans createdFirst)
      rw [Nat.cast_add, Nat.cast_one]
      exact (Int.add_le_add_right counted 1).trans charged
    · exact counted.trans (starts.control.usage cutoff "objective" objectiveId)
  limited objectiveId since := by
    unfold Store.runsInHour
    rw [runsCreated_of_startsRun starts metered.older]
    split
    next both =>
      simp only [Bool.and_eq_true, decide_eq_true_eq] at both
      -- Each run of the hour is counted at the cutoff of the check.
      have seen : store.runsInHour earlier objectiveId since ≤
          store.runsCreated earlier objectiveId fun created =>
            checkedAt - expensiveCodingRunWindow ≤ created := by
        apply runsCreated_mono
        intro created accepted
        simp only [Bool.and_eq_true, decide_eq_true_eq] at accepted ⊢
        omega
      have counted := metered.counted objectiveId (checkedAt - expensiveCodingRunWindow)
      rw [← ControlTables.recentUsage_eq_usageFrom] at counted
      have few := lt_of_le_of_lt counted (room objectiveId both.1)
      unfold Store.runsInHour at seen
      rw [Nat.cast_add, Nat.cast_one]
      exact Int.add_one_le_of_lt (lt_of_le_of_lt (Int.ofNat_le.mpr seen) few)
    · exact metered.limited objectiveId since

theorem process (metered : Metered earlier limit store) {call : ObservedCall}
    (room : ∀ task objectiveId, QueueService.firstRunnable store call.request
          call.request.excludeTaskIds = some task →
        task.objective? = some objectiveId →
          store.control.recentUsage call.request.now "objective" objectiveId < limit) :
    Metered earlier limit (stateOf (call.process store)) := by
  rcases call.process_spec store with kept | ⟨task, found, starts⟩
  · exact metered.continues kept
  · refine metered.startsRun call.checkedFirst call.createdFirst ?_ starts
    intro objectiveId same
    have stored := (QueueService.firstRunnable_first found).1.stored
    have own : store.objectiveOf task.id = task.objective? := by
      unfold Store.objectiveOf Store.getTask
      rw [KeyedTable.lookup_of_mem _ stored]
      rfl
    exact room task objectiveId found (own ▸ same)

theorem initialized (store : Store) {limit : Int} (nonneg : 0 ≤ limit) :
    Metered store.runs.rows.length limit (ControlRun.initialized store) := by
  have none : ∀ objectiveId accept,
      (ControlRun.initialized store).runsCreated store.runs.rows.length objectiveId accept = 0 := by
    intro objectiveId accept
    unfold Store.runsCreated
    have all : (ControlRun.initialized store).runs.rows = store.runs.rows := rfl
    rw [all, drop_eq_nil_of_le (length_map _).le]
    rfl
  refine ⟨le_refl _, ?_, ?_⟩
  · intro objectiveId cutoff
    rw [none]
    exact le_refl 0
  · intro objectiveId since
    unfold Store.runsInHour
    rw [none]
    exact nonneg

end Metered

namespace QueueAction

variable {earlier : Nat} {store : Store}

/-- The check lets a run pass while at most as many runs as the limit are
counted: there may be one more. -/
theorem process_metered (metered : Metered earlier (expensiveCodingRunLimit + 1) store)
    (call : ObservedCall) :
    Metered earlier (expensiveCodingRunLimit + 1) (stateOf (call.process store)) := by
  refine metered.process fun task objectiveId found same => ?_
  have unblocked := (QueueService.firstRunnable_first found).2.1
  apply Int.lt_add_one_of_le
  by_contra more
  have exhausted : store.control.budgetExhausted call.request.now "objective"
      objectiveId = true := decide_eq_true (not_le.mp more)
  unfold QueueService.dispatchBlock QueueService.objectiveDispatchBlockReason
    at unblocked
  rw [same] at unblocked
  simp only [exhausted, if_true] at unblocked
  split at unblocked
  · cases unblocked
  · cases unblocked

theorem metered_step {limit : Int} {next : Store} {action : QueueAction}
    (metered : Metered earlier limit store)
    (processed : ∀ call, action = process call →
      Metered earlier limit (stateOf (call.process store)))
    (taken : action.step store = some next) :
    Metered earlier limit next := by
  cases action with
  | process call =>
    cases taken
    exact processed call rfl
  | control call =>
    cases taken
    exact metered.continues (.of_controlWrites (.perform store call))

/-- Whatever the workers do, an hour has at most one run of an objective more
than the limit. -/
theorem runsInHour_le_succ {target : Store} {actions : List QueueAction}
    (run : runEvents step (ControlRun.initialized store) actions =
      some target) (objectiveId : String) (since : Int) :
    (target.runsInHour store.runs.rows.length objectiveId since : Int) ≤
      expensiveCodingRunLimit + 1 := by
  refine Metered.limited (runEvents_invariant ?_
    (Metered.initialized store (by decide)) run) objectiveId since
  intro current action next metered taken
  exact metered_step metered (fun call _ => process_metered metered call) taken

/-- While every run leaves its objective below the limit, no hour has more
runs of an objective than the limit. -/
theorem runsInHour_le_limit {store target : Store} {actions : List QueueAction}
    (run : runEvents step (ControlRun.initialized store) actions = some target)
    (below : StepsMeet step BelowLimit (ControlRun.initialized store) actions)
    (objectiveId : String) (since : Int) :
    (target.runsInHour store.runs.rows.length objectiveId since : Int) ≤
      expensiveCodingRunLimit := by
  refine Metered.limited (runEvents_invariant_of_guard BelowLimit ?_
    (Metered.initialized store (by decide)) below run) objectiveId since
  intro current action next metered room taken
  refine metered_step metered (fun call same => ?_) taken
  subst same
  exact metered.process room

end QueueAction

/-! ## Four failing runs in one hour -/

def remediationStore : Store where
  projects := .single { id := "project" }
  objectives := .single { id := "objective", projectId := "project" }
  tasks := .single
    { id := "task", projectId := "project", objectiveId := some "objective"
      strategy := "objective_review_remediation" }

def fruitlessCall (index : Nat) : ObservedCall where
  request :=
    { now := secondsSpan (600 * index)
      answers :=
        { now := secondsSpan (600 * index), runId := toString index
          workResult := .ok { summary := "", artifacts := [] } } }
  recordedAt := secondsSpan (600 * index)
  finishedAt := secondsSpan (600 * index)
  checkedFirst := le_refl _
  createdFirst := le_refl _

theorem one_run_below_limit :
    let target := QueueAction.performed
      (ControlRun.initialized remediationStore) [.process (fruitlessCall 0)]
    target.runs.rows.length = 1 ∧
      (target.runsInHour remediationStore.runs.rows.length "objective" 0 :
        Int) ≤ expensiveCodingRunLimit := by
  have below : StepsMeet QueueAction.step QueueAction.BelowLimit
      (ControlRun.initialized remediationStore)
      [.process (fruitlessCall 0)] := by
    intro next _
    refine ⟨fun task objectiveId _ _ => ?_, trivial⟩
    exact show (0 : Int) < 3 by decide
  exact ⟨by decide +kernel, QueueAction.runsInHour_le_limit
    (QueueAction.runEvents_performed _ _) below "objective" 0⟩

/-- The check passes while three runs are counted, so a fourth one starts. -/
theorem four_runs_in_one_hour :
    ¬ ∀ (store target : Store) (calls : List ObservedCall),
      calls.Pairwise (fun earlier later =>
          earlier.finishedAt ≤ later.request.now) →
        (∀ call ∈ calls, call.request.workerId = "local-worker") →
          runEvents QueueAction.step (ControlRun.initialized store)
              (calls.map .process) = some target →
            ∀ objectiveId since, (target.runsInHour store.runs.rows.length objectiveId since :
                Int) ≤ expensiveCodingRunLimit := by
  intro limited
  have few := limited remediationStore _
    [fruitlessCall 0, fruitlessCall 1, fruitlessCall 2, fruitlessCall 3]
    (by decide +kernel) (by decide +kernel)
    (QueueAction.runEvents_performed _ _)
    "objective" 0
  exact absurd few (by decide +kernel)

theorem four_calls_within_succ :
    let target := QueueAction.performed (ControlRun.initialized remediationStore)
      ([0, 1, 2, 3].map fun index => .process (fruitlessCall index))
    (target.runsInHour remediationStore.runs.rows.length "objective" 0 : Int) ≤
      expensiveCodingRunLimit + 1 :=
  QueueAction.runsInHour_le_succ (QueueAction.runEvents_performed _ _) "objective" 0

end AccruviaHarness
