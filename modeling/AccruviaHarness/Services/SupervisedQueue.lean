import AccruviaHarness.Library.Loops
import AccruviaHarness.Services.DecisionService
import AccruviaHarness.Services.QueueProgress
import AccruviaHarness.Services.SupervisorService
import AccruviaHarness.Store.StaleState

/-!
# The supervisor loop over the store

A pass of the supervisor without heartbeats, with the store calls that its
answers come from: the recovery of stale state, the decision queue and
`process_next_task`.
-/

namespace AccruviaHarness

open Library

variable (store : Store)

/-- Every task belongs to a stored project: the foreign key of `tasks`. -/
def Store.ProjectsKnown : Prop := ∀ task ∈ store.tasks.rows, store.getProject task.projectId ≠ none

def Store.taskPlaces : List (String × String) :=
  store.tasks.rows.map fun task => (task.id, task.projectId)

/-- What surrounds one pass: the clock, the worker, which does not raise, the
progress callback, which writes the control tables, and the callback after a
task, which creates no task. -/
structure PassSurroundings where
  watched : ControlTables → ControlTables := id
  recoversAt : Int := 0
  decides : Nat → DecisionAnswers := fun _ => {}
  dispatchesAt : Int := 0
  answers : Store → RunAnswers
  worked : ∀ store, ∃ work, (answers store).workResult = .ok work
  fresh : ∀ store, ∀ run ∈ store.runs.rows, run.id ≠ (answers store).runId
  calledBack : Store → Store := id
  createsNoTask : ∀ store, (calledBack store).tasks.rows.map Task.id = store.tasks.rows.map Task.id
  keepsProjects : ∀ store, store.ProjectsKnown → (calledBack store).ProjectsKnown
  recoveredAt : Int := 0

structure SupervisorCall where
  /-- `decision_service` is not `None`. -/
  decidesQueued : Bool := true
  projectId : Option String := none
  workerId : String := "supervisor"
  leaseSeconds : Int := 300
  arguments : SupervisorArguments
  surroundings : Nat → PassSurroundings

structure SupervisorArguments.IsOneShot (arguments : SupervisorArguments) :
    Prop where
  watch : arguments.watch = false
  maxIterations : arguments.maxIterations = none
  heartbeatProjectIds : arguments.heartbeatProjectIds = []
  heartbeatAllProjects : arguments.heartbeatAllProjects = false
  checksReviews : arguments.checksReviews = false
  hasMaintenanceCallback : arguments.hasMaintenanceCallback = false

structure Supervision where
  store : Store
  run : SupervisorRun

def Store.pendingItems : Nat := store.decisionQueue.rows.countP fun item => item.status = .pending

namespace SupervisorService

/-- The `while` loop of `_drain_decision_queue` with the iterations that it
has left. -/
def drainDecisions (decides : Nat → DecisionAnswers) :
    Nat → Store → Store × Nat
  | 0, store => (store, 0)
  | left + 1, store =>
    match DecisionService.processOne { store } (decides left) with
    | (_, false) => (store, 0)
    | (state, true) =>
      let (drained, processed) := drainDecisions decides left state.store
      (drained, processed + 1)

def decisionsPerCycle : Nat := 50

def drainDecisionQueue (decidesQueued : Bool) (decides : Nat → DecisionAnswers)
    (store : Store) : Store × Nat :=
  if decidesQueued then drainDecisions decides decisionsPerCycle store
  else (store, 0)

def recoverWhileBusy (loop : SupervisorLoop) (now : Int) (store : Store) :
    Store :=
  if loop.processedTaskIds.length % 5 = 0 ∧ loop.processedTaskIds ≠ [] then
    (store.recoverStaleState now).1
  else store

end SupervisorService

namespace SupervisorCall

variable (call : SupervisorCall) (supervision : Supervision)

def around : PassSurroundings := call.surroundings supervision.run.loop.iterations

/-- The store at the call of `process_next_task`. -/
def beforeDispatch : Store :=
  let around := call.around supervision
  let observed :=
    { supervision.store with
      control := around.watched supervision.store.control }
  (SupervisorService.drainDecisionQueue call.decidesQueued around.decides
    (SupervisorService.recoverWhileBusy supervision.run.loop around.recoversAt observed)).1

def request : DispatchRequest where
  now := (call.around supervision).dispatchesAt
  workerId := call.workerId
  leaseSeconds := call.leaseSeconds
  projectId := call.projectId
  excludeTaskIds := supervision.run.loop.attemptedTaskIds
  answers := (call.around supervision).answers (call.beforeDispatch supervision)

def passAnswers (queue : QueueAnswer) (recoveredAny : Bool) : SupervisorAnswers where
  checkedAt := supervision.run.clock
  listedProjects_nodup := List.nodup_nil
  queue := queue
  recoveredAny := recoveredAny

def pass : Option Supervision :=
  match QueueService.processNextTask (call.beforeDispatch supervision)
    (call.request supervision) with
  | (store, .processed (some task) _) =>
    (SupervisorService.pass call.arguments supervision.run
      (passAnswers supervision (.processed task.id) false)).map fun run =>
        { store := (call.around supervision).calledBack store, run }
  | (store, .idle) =>
    let (recovered, counts) := store.recoverStaleState (call.around supervision).recoveredAt
    (SupervisorService.pass call.arguments supervision.run
      (passAnswers supervision .nothing counts.any)).map fun run => { store := recovered, run }
  | _ => none

def supervise (store : Store) (passes : Nat) : Supervision :=
  iterate call.pass passes { store, run := { clock := 0 } }

end SupervisorCall

/-! ## The places of the tasks -/

structure SamePlaces (before after : Store) : Prop where
  places : after.taskPlaces = before.taskPlaces
  projects : after.projects = before.projects

namespace SamePlaces

variable {before middle after : Store} (store : Store)

theorem refl : SamePlaces store store := ⟨rfl, rfl⟩

theorem trans (early : SamePlaces before middle)
    (late : SamePlaces middle after) : SamePlaces before after :=
  ⟨late.places.trans early.places, late.projects.trans early.projects⟩

theorem ids (same : SamePlaces before after) :
    after.tasks.rows.map Task.id = before.tasks.rows.map Task.id := by
  have firsts := congrArg (List.map Prod.fst) same.places
  simpa [Store.taskPlaces, Function.comp_def] using firsts

theorem projectsKnown (same : SamePlaces before after)
    (known : before.ProjectsKnown) : after.ProjectsKnown := by
  intro task member
  have placed : (task.id, task.projectId) ∈ before.taskPlaces := by
    rw [← same.places]
    exact List.mem_map_of_mem member
  obtain ⟨earlier, stored, place⟩ := List.mem_map.mp placed
  rw [← (Prod.mk.inj place).2]
  unfold Store.getProject
  rw [same.projects]
  exact known earlier stored

theorem modify {store : Store} {update : RowUpdate Task.id}
    (stays : ∀ task, (update.apply task).projectId = task.projectId) :
    SamePlaces store { store with tasks := store.tasks.modify update } := by
  refine ⟨?_, rfl⟩
  unfold Store.taskPlaces
  rw [KeyedTable.rows_modify, List.map_map]
  refine List.map_congr_left fun task _ => ?_
  show ((update.apply task).id, (update.apply task).projectId) = _
  rw [update.keepsKey, stays]

theorem writeTaskStatus (taskId : String) (status : TaskStatus) :
    SamePlaces store (store.writeTaskStatus taskId status) := by
  refine modify fun task => ?_
  unfold RowUpdate.at
  dsimp only
  split
  · rfl
  · rfl

theorem of_tasks (tasks : after.tasks = before.tasks)
    (projects : after.projects = before.projects) :
    SamePlaces before after := by
  refine ⟨?_, projects⟩
  unfold Store.taskPlaces
  rw [tasks]

theorem recoverStaleState (now : Int) : SamePlaces store (store.recoverStaleState now).1 := by
  have failed : SamePlaces store
      ((store.deleteExpiredLeases now).failStaleRuns now) := of_tasks rfl rfl
  refine failed.trans (modify fun task => ?_)
  unfold Store.resetOrphanedTask
  dsimp only
  split
  · rfl
  · rfl

end SamePlaces

end AccruviaHarness
