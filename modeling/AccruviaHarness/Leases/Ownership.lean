import AccruviaHarness.Library.Runs
import AccruviaHarness.Store.Recovery

/-!
# Ownership of leased tasks

Workers repeat `acquire_task_lease`, `run_once` and `release_task_lease`.
-/

namespace AccruviaHarness

open Library

inductive WorkerPhase where
  | leased
  | running
  | returned
  deriving DecidableEq, Repr

structure WorkerIteration where
  worker : Nat
  workerId : String
  taskId : String
  leaseExpiresAt : Int
  phase : WorkerPhase
  deriving DecidableEq, Repr

structure WorkerPool where
  clock : Int
  store : Store
  iterations : KeyedTable WorkerIteration.worker

/-- `writeTables` stands for the writes of `run_once` and of the other parts
of the harness: none of them touches `task_leases`. -/
inductive WorkerEvent where
  | advanceClock (microseconds : Nat)
  | writeTables (tables : Store)
  | listTaskLeases (projectId : Option String)
  | recoverStaleState
  | acquireTaskLease (worker : Nat) (workerId : String) (leaseSeconds : Int)
      (projectId : Option String) (excludeTaskIds : List String)
  | enterRunOnce (worker : Nat)
  | leaveRunOnce (worker : Nat)
  | releaseTaskLease (worker : Nat)
  | crash (worker : Nat)

namespace WorkerPool

def initial (clock : Int) (store : Store) : WorkerPool where
  clock
  store
  iterations := KeyedTable.empty _

variable (pool : WorkerPool) (worker : Nat)

def changePhase (source target : WorkerPhase) : Option WorkerPool :=
  match pool.iterations.lookup worker with
  | some iteration =>
    if iteration.phase = source then
      some
        { pool with
          iterations := pool.iterations.updateAt worker
            ⟨fun row => { row with phase := target }, fun _ => rfl⟩ }
    else none
  | none => none

def dropIteration : WorkerPool := { pool with iterations := pool.iterations.deleteAt worker }

def step (pool : WorkerPool) : WorkerEvent → Option WorkerPool
  | .advanceClock microseconds => some { pool with clock := pool.clock + microseconds }
  | .writeTables tables =>
    some
      { pool with store := { tables with taskLeases := pool.store.taskLeases } }
  | .listTaskLeases projectId =>
    some
      { pool with store := (pool.store.listTaskLeases pool.clock projectId).1 }
  | .recoverStaleState => some { pool with store := (pool.store.recoverStaleState pool.clock).1 }
  | .acquireTaskLease worker workerId leaseSeconds projectId excludeTaskIds =>
    let (store, result) := pool.store.acquireTaskLease pool.clock workerId
      leaseSeconds projectId excludeTaskIds
    match result with
    | none => some { pool with store }
    | some task =>
      let iteration : WorkerIteration :=
        { worker, workerId
          taskId := task.id, leaseExpiresAt := pool.clock + secondsSpan leaseSeconds
          phase := .leased }
      (pool.iterations.insert? iteration).map fun iterations => { pool with store, iterations }
  | .enterRunOnce worker => pool.changePhase worker .leased .running
  | .leaveRunOnce worker => pool.changePhase worker .running .returned
  | .releaseTaskLease worker =>
    match pool.iterations.lookup worker with
    | some iteration =>
      -- A blocked dispatch releases the task without running it.
      if iteration.phase = .running then none
      else
        some <| dropIteration
          { pool with
            store := pool.store.releaseTaskLease iteration.taskId
              (some iteration.workerId) }
          worker
    | none => none
  | .crash worker => some (pool.dropIteration worker)

/-- The worker is inside `run_once` for the task. -/
def Executes (taskId : String) : Prop :=
  ∃ iteration ∈ pool.iterations.rows,
    iteration.worker = worker ∧ iteration.taskId = taskId ∧
      iteration.phase = .running

instance (pool : WorkerPool) (worker : Nat) (taskId : String) :
    Decidable (pool.Executes worker taskId) :=
  inferInstanceAs (Decidable (∃ iteration ∈ pool.iterations.rows, _))

def ExecutionExclusive : Prop :=
  ∀ first second taskId, pool.Executes first taskId → pool.Executes second taskId → first = second

def purgesLeases : WorkerEvent → Bool
  | .listTaskLeases _ | .recoverStaleState | .acquireTaskLease .. => true
  | _ => false

/-- A call that deletes expired leases happens while the lease of every
worker in progress is unexpired. -/
def PurgesNoHeldLease (event : WorkerEvent) : Prop :=
  purgesLeases event = true →
    ∀ iteration ∈ pool.iterations.rows, pool.clock < iteration.leaseExpiresAt

instance (pool : WorkerPool) (event : WorkerEvent) : Decidable (pool.PurgesNoHeldLease event) :=
  inferInstanceAs (Decidable (_ → _))

def Owns (iteration : WorkerIteration) (lease : TaskLease) : Prop :=
  lease.taskId = iteration.taskId ∧ lease.workerId = iteration.workerId ∧
    lease.leaseExpiresAt = iteration.leaseExpiresAt

structure LeasesHeld (pool : WorkerPool) : Prop where
  owned : ∀ iteration ∈ pool.iterations.rows,
    ∃ lease ∈ pool.store.taskLeases.rows, Owns iteration lease
  exclusive : ∀ first ∈ pool.iterations.rows,
    ∀ second ∈ pool.iterations.rows,
      first.taskId = second.taskId → first.worker = second.worker

theorem initial_leasesHeld (clock : Int) (store : Store) : (initial clock store).LeasesHeld := by
  constructor
  · intro iteration member
    cases member
  · intro first member
    cases member

variable {pool next : WorkerPool} {worker : Nat} {store : Store}

theorem LeasesHeld.of_kept (held : pool.LeasesHeld) (source : ∀ iteration ∈ next.iterations.rows,
      ∃ earlier ∈ pool.iterations.rows, ∃ phase,
        iteration = { earlier with phase })
    (kept : ∀ iteration ∈ next.iterations.rows,
      ∀ lease ∈ pool.store.taskLeases.rows, Owns iteration lease →
        lease ∈ next.store.taskLeases.rows) :
    next.LeasesHeld := by
  constructor
  · intro iteration member
    obtain ⟨earlier, earlierMember, _, same⟩ := source iteration member
    obtain ⟨lease, leaseMember, owns⟩ := held.owned earlier earlierMember
    have ownsLater : Owns iteration lease := by
      rw [same]
      exact owns
    exact ⟨lease, kept iteration member lease leaseMember ownsLater, ownsLater⟩
  · intro first firstMember second secondMember sameTask
    obtain ⟨firstEarlier, firstKnown, _, rfl⟩ := source first firstMember
    obtain ⟨secondEarlier, secondKnown, _, rfl⟩ := source second secondMember
    exact held.exclusive firstEarlier firstKnown secondEarlier secondKnown sameTask

theorem LeasesHeld.changePhase (held : pool.LeasesHeld) {source target : WorkerPhase}
    (changed : pool.changePhase worker source target = some next) :
    next.LeasesHeld := by
  unfold WorkerPool.changePhase at changed
  split at changed
  next iteration found =>
    split at changed
    next phase =>
      cases changed
      apply held.of_kept
      · intro moved member
        obtain ⟨earlier, earlierMember, rfl⟩ := KeyedTable.mem_updateAt.mp member
        by_cases same : earlier.worker = worker
        · exact ⟨earlier, earlierMember, target, by rw [if_pos same]⟩
        · exact ⟨earlier, earlierMember, earlier.phase, by rw [if_neg same]⟩
      · intro moved _ lease leaseMember _
        exact leaseMember
    · cases changed
  · cases changed

theorem LeasesHeld.deleteExpiredLeases (held : pool.LeasesHeld)
    (unexpired : ∀ iteration ∈ pool.iterations.rows, pool.clock < iteration.leaseExpiresAt)
    (purged : store.taskLeases = (pool.store.deleteExpiredLeases pool.clock).taskLeases) :
    ({ pool with store } : WorkerPool).LeasesHeld := by
  apply held.of_kept
  · intro iteration member
    exact ⟨iteration, member, iteration.phase, rfl⟩
  · intro iteration member lease leaseMember owns
    have late : pool.clock < lease.leaseExpiresAt := by
      rw [owns.2.2]
      exact unexpired iteration member
    have spared : lease ∈ (pool.store.deleteExpiredLeases pool.clock).taskLeases.rows :=
      Store.mem_deleteExpiredLeases.mpr ⟨leaseMember, late⟩
    rw [← purged] at spared
    exact spared

theorem LeasesHeld.dropIteration (held : pool.LeasesHeld) (worker : Nat)
    (kept : ∀ iteration ∈ pool.iterations.rows, iteration.worker ≠ worker →
      ∀ lease ∈ pool.store.taskLeases.rows, Owns iteration lease → lease ∈ store.taskLeases.rows) :
    (({ pool with store } : WorkerPool).dropIteration worker).LeasesHeld := by
  have others : ∀ iteration ∈
      (({ pool with store } : WorkerPool).dropIteration worker).iterations.rows,
      iteration ∈ pool.iterations.rows ∧ iteration.worker ≠ worker := by
    intro iteration member
    exact KeyedTable.mem_deleteAt.mp member
  apply held.of_kept
  · intro iteration member
    exact ⟨iteration, (others iteration member).1, iteration.phase, rfl⟩
  · intro iteration member lease leaseMember owns
    obtain ⟨known, different⟩ := others iteration member
    exact kept iteration known different lease leaseMember owns

theorem LeasesHeld.addIteration (held : pool.LeasesHeld)
    {iteration : WorkerIteration} {lease : TaskLease}
    {iterations : KeyedTable WorkerIteration.worker}
    (unleased : ∀ earlier ∈ pool.store.taskLeases.rows, earlier.taskId ≠ iteration.taskId)
    (owns : Owns iteration lease)
    (leases : store.taskLeases.rows = pool.store.taskLeases.rows ++ [lease])
    (inserted : pool.iterations.insert? iteration = some iterations) :
    ({ pool with store, iterations } : WorkerPool).LeasesHeld := by
  have rows := KeyedTable.rows_of_insert? inserted
  have otherTask : ∀ earlier ∈ pool.iterations.rows, earlier.taskId ≠ iteration.taskId := by
    intro earlier member sameTask
    obtain ⟨row, rowMember, rowOwned⟩ := held.owned earlier member
    exact unleased row rowMember (rowOwned.1.trans sameTask)
  constructor
  · intro candidate member
    simp only [rows, List.mem_append, List.mem_singleton] at member
    simp only [leases]
    rcases member with earlier | rfl
    · obtain ⟨row, rowMember, rowOwned⟩ := held.owned candidate earlier
      exact ⟨row, List.mem_append_left _ rowMember, rowOwned⟩
    · exact ⟨lease, List.mem_append_right _ (List.mem_singleton_self lease), owns⟩
  · intro first firstMember second secondMember sameTask
    simp only [rows, List.mem_append, List.mem_singleton]
      at firstMember secondMember
    rcases firstMember with firstEarlier | rfl
    · rcases secondMember with secondEarlier | rfl
      · exact held.exclusive first firstEarlier second secondEarlier sameTask
      · exact absurd sameTask (otherTask first firstEarlier)
    · rcases secondMember with secondEarlier | rfl
      · exact absurd sameTask.symm (otherTask second secondEarlier)
      · rfl

theorem LeasesHeld.acquireTaskLease
    (held : pool.LeasesHeld) {workerId : String} {leaseSeconds : Int}
    {projectId : Option String} {excludeTaskIds : List String}
    (unexpired : ∀ iteration ∈ pool.iterations.rows, pool.clock < iteration.leaseExpiresAt)
    (taken : pool.step (.acquireTaskLease worker workerId leaseSeconds
      projectId excludeTaskIds) = some next) :
    next.LeasesHeld := by
  have purgedHeld : ({ pool with
      store := pool.store.deleteExpiredLeases pool.clock } :
        WorkerPool).LeasesHeld :=
    held.deleteExpiredLeases unexpired rfl
  rcases pool.store.acquireTaskLease_cases pool.clock workerId leaseSeconds
      projectId excludeTaskIds with
    ⟨_, outcome⟩ | ⟨_, _, _, unleased, _, leases, outcome⟩
  · simp only [step, outcome, Option.some.injEq] at taken
    subst taken
    exact purgedHeld
  · simp only [step, outcome, Option.map_eq_some_iff] at taken
    obtain ⟨_, inserted, rfl⟩ := taken
    exact purgedHeld.addIteration (Store.isLeased_eq_false_iff.mp unleased)
      ⟨rfl, rfl, rfl⟩ leases inserted

theorem LeasesHeld.releaseTaskLease (held : pool.LeasesHeld)
    (taken : pool.step (.releaseTaskLease worker) = some next) :
    next.LeasesHeld := by
  cases found : pool.iterations.lookup worker with
  | none => simp [step, found] at taken
  | some iteration =>
    obtain ⟨member, own⟩ := pool.iterations.lookup_eq_some_iff.mp found
    by_cases inside : iteration.phase = .running
    · simp [step, found, inside] at taken
    · simp only [step, found, inside, if_false, Option.some.injEq] at taken
      subst taken
      apply held.dropIteration worker
      intro other otherMember different lease leaseMember owns
      have otherTask : lease.taskId ≠ iteration.taskId := by
        intro sameTask
        apply different
        rw [← own]
        exact held.exclusive other otherMember iteration member (owns.1.symm.trans sameTask)
      simp [Store.releaseTaskLease, leaseMember, otherTask]

theorem step_leasesHeld (pool : WorkerPool) (event : WorkerEvent) (next : WorkerPool)
    (held : pool.LeasesHeld) (spares : pool.PurgesNoHeldLease event)
    (taken : pool.step event = some next) :
    next.LeasesHeld := by
  cases event with
  | advanceClock _ =>
    cases taken
    exact ⟨held.owned, held.exclusive⟩
  | writeTables _ =>
    cases taken
    exact ⟨held.owned, held.exclusive⟩
  | listTaskLeases _ =>
    cases taken
    exact held.deleteExpiredLeases (spares rfl) rfl
  | recoverStaleState =>
    cases taken
    exact held.deleteExpiredLeases (spares rfl) rfl
  | acquireTaskLease _ _ _ _ _ => exact held.acquireTaskLease (spares rfl) taken
  | enterRunOnce _ => exact held.changePhase taken
  | leaveRunOnce _ => exact held.changePhase taken
  | releaseTaskLease _ => exact held.releaseTaskLease taken
  | crash worker =>
    cases taken
    exact held.dropIteration worker fun _ _ _ lease leaseMember _ => leaseMember

def sampleStore : Store where
  projects := .single { id := "project", maxConcurrentTasks := 2 }
  tasks :=
    { rows :=
        [{ id := "first", projectId := "project", priority := 200 },
          { id := "second", projectId := "project" }]
      keysNodup := by decide }

def lastingEvents : List WorkerEvent :=
  [.acquireTaskLease 0 "local-worker" 3600 none [], .enterRunOnce 0,
    .advanceClock 1000000, .recoverStaleState,
    .acquireTaskLease 1 "local-worker" 3600 none [], .enterRunOnce 1]

/-- Worker 0 outlives its lease of one second inside `run_once`; recovery puts
its active task back to pending, and worker 1 takes it. -/
def outlivedEvents : List WorkerEvent :=
  [.acquireTaskLease 0 "local-worker" 1 none [], .enterRunOnce 0,
    .writeTables (sampleStore.writeTaskStatus "first" .active),
    .advanceClock 2000000, .recoverStaleState,
    .acquireTaskLease 1 "local-worker" 1 none [], .enterRunOnce 1]

end WorkerPool

end AccruviaHarness
