import AccruviaHarness.Services.QueueService

/-!
# Progress of the task queue

The search of `process_next_task` goes through the tasks that may be leased in
the order of the candidate query.
-/

namespace AccruviaHarness

open Library List

namespace Store

theorem deleteExpiredLeases_deleteExpiredLeases (store : Store) (now : Int) :
    (store.deleteExpiredLeases now).deleteExpiredLeases now = store.deleteExpiredLeases now := by
  have same :
      ((store.deleteExpiredLeases now).deleteExpiredLeases now).taskLeases =
        (store.deleteExpiredLeases now).taskLeases := by
    apply KeyedTable.ext
    simp [deleteExpiredLeases]
  unfold deleteExpiredLeases at same ⊢
  exact congrArg (fun taskLeases => { store with taskLeases }) same

theorem releaseTaskLease_added {store : Store} {taskLeases : KeyedTable TaskLease.taskId}
    {lease : TaskLease}
    (unleased : store.isLeased lease.taskId = false)
    (rows : taskLeases.rows = store.taskLeases.rows ++ [lease]) :
    ({ store with taskLeases } : Store).releaseTaskLease lease.taskId
      (some lease.workerId) = store := by
  have same : taskLeases.deleteWhere (fun other => other.taskId = lease.taskId &&
        other.workerId = lease.workerId) = store.taskLeases := by
    apply KeyedTable.ext
    have others := isLeased_eq_false_iff.mp unleased
    rw [KeyedTable.rows_deleteWhere, rows, filter_append, filter_eq_self.mpr]
    · simp
    · intro other member
      simp [others other member]
  unfold releaseTaskLease
  exact congrArg (fun taskLeases => { store with taskLeases }) same

end Store

namespace QueueService

def availableTasks (store : Store) (request : DispatchRequest)
    (localExclusions : List String) : List Task :=
  ((store.deleteExpiredLeases request.now).leaseCandidates request.projectId
    localExclusions).filter fun task =>
      !(store.deleteExpiredLeases request.now).atCapacity task.projectId

def leaseOf (request : DispatchRequest) (task : Task) : TaskLease where
  taskId := task.id
  workerId := request.workerId
  leaseExpiresAt := request.now + secondsSpan request.leaseSeconds
  createdAt := request.now

structure Holds (store : Store) (request : DispatchRequest) (task : Task)
    (taskLeases : KeyedTable TaskLease.taskId) : Prop where
  unleased :
    (store.deleteExpiredLeases request.now).isLeased task.id = false
  rows : taskLeases.rows = (store.deleteExpiredLeases request.now).taskLeases.rows ++
      [leaseOf request task]

/-- What a search may find: a stored pending task without a lease, of the
given project and under its cap. -/
structure Available (store : Store) (request : DispatchRequest)
    (task : Task) : Prop where
  stored : task ∈ store.tasks.rows
  pending : task.status = .pending
  unleased :
    (store.deleteExpiredLeases request.now).isLeased task.id = false
  inProject : Store.inGivenProject request.projectId task = true
  allowed : task.id ∉ request.excludeTaskIds
  underCap :
    (store.deleteExpiredLeases request.now).atCapacity task.projectId = false

variable {store : Store} {request : DispatchRequest} {task : Task}
  {localExclusions : List String}

theorem mem_availableTasks :
    task ∈ availableTasks store request request.excludeTaskIds ↔ Available store request task := by
  simp only [availableTasks, Store.leaseCandidates, mem_filter,
    mem_orderBy, Bool.and_eq_true, decide_eq_true_eq, Bool.not_eq_true',
    contains_eq_mem, decide_eq_false_iff_not,
    Store.deleteExpiredLeases_tasks]
  constructor
  · rintro ⟨⟨stored, ⟨⟨pending, unleased⟩, inProject⟩, allowed⟩, underCap⟩
    exact ⟨stored, pending, unleased, inProject, allowed, underCap⟩
  · rintro ⟨stored, pending, unleased, inProject, allowed, underCap⟩
    exact ⟨⟨stored, ⟨⟨pending, unleased⟩, inProject⟩, allowed⟩, underCap⟩

/-! ## One round -/

theorem availableTasks_deleteExpiredLeases (store : Store) (request : DispatchRequest)
    (localExclusions : List String) :
    availableTasks (store.deleteExpiredLeases request.now) request localExclusions =
      availableTasks store request localExclusions := by
  unfold availableTasks
  rw [Store.deleteExpiredLeases_deleteExpiredLeases]

theorem nodup_availableTasks (store : Store) (request : DispatchRequest)
    (localExclusions : List String) :
    ((availableTasks store request localExclusions).map Task.id).Nodup := by
  have candidates : (((store.deleteExpiredLeases request.now).leaseCandidates
      request.projectId localExclusions).map Task.id).Nodup :=
    nodup_map_orderBy DispatchOrder (store.tasks.keysNodup.sublist (filter_sublist.map Task.id))
  exact candidates.sublist (filter_sublist.map _)

variable {rest : List Task} {outcome : Store × DispatchSelection}

theorem availableTasks_exclude
    (available : availableTasks store request localExclusions = task :: rest) :
    availableTasks store request (task.id :: localExclusions) = rest := by
  have narrowed : availableTasks store request (task.id :: localExclusions) =
      (availableTasks store request localExclusions).filter
        fun other => !decide (other.id = task.id) := by
    simp only [availableTasks, Store.leaseCandidates, ← orderBy_filter DispatchOrder, filter_filter]
    congr 1
    apply filter_congr
    intro other _
    by_cases same : other.id = task.id
    · simp [same]
    · simp [same]
  have distinct := nodup_availableTasks store request localExclusions
  rw [available, map_cons, nodup_cons] at distinct
  rw [narrowed, available, filter_cons_of_neg (by simp), filter_eq_self]
  intro other member
  have different : other.id ≠ task.id := fun same =>
    distinct.1 (mem_map.mpr ⟨other, member, same⟩)
  simp [different]

theorem acquireTaskLease_of_nil (none : availableTasks store request localExclusions = []) :
    store.acquireTaskLease request.now request.workerId request.leaseSeconds
        request.projectId localExclusions =
      (store.deleteExpiredLeases request.now, .none) := by
  rcases store.acquireTaskLease_cases request.now request.workerId
      request.leaseSeconds request.projectId localExclusions with
    ⟨_, outcome⟩ | ⟨task, _, scanned, _⟩
  · exact outcome
  · have listed := mem_of_find?_eq_some scanned
    have under := find?_some scanned
    have member : task ∈ availableTasks store request localExclusions :=
      mem_filter.mpr ⟨listed, under⟩
    rw [none] at member
    cases member

theorem acquireTaskLease_of_cons
    (available : availableTasks store request localExclusions = task :: rest) :
    ∃ taskLeases, Holds store request task taskLeases ∧
      store.acquireTaskLease request.now request.workerId request.leaseSeconds
          request.projectId localExclusions =
        ({ store.deleteExpiredLeases request.now with taskLeases }, some task) := by
  have first : ((store.deleteExpiredLeases request.now).leaseCandidates
      request.projectId localExclusions).find? (fun task =>
        !(store.deleteExpiredLeases request.now).atCapacity task.projectId) =
      some task := by
    rw [← head?_filter]
    have head := congrArg List.head? available
    exact head
  rcases store.acquireTaskLease_cases request.now request.workerId
      request.leaseSeconds request.projectId localExclusions with
    ⟨nothing, _⟩ | ⟨_, taskLeases, scanned, unleased, _, rows, outcome⟩
  · rw [first] at nothing
    cases nothing
  · rw [first] at scanned
    cases scanned
    exact ⟨taskLeases, ⟨unleased, rows⟩, outcome⟩

theorem Holds.release {taskLeases : KeyedTable TaskLease.taskId}
    (holds : Holds store request task taskLeases) :
    Store.releaseTaskLease
        { store.deleteExpiredLeases request.now with taskLeases } task.id
        (some request.workerId) =
      store.deleteExpiredLeases request.now := by
  have own : (store.deleteExpiredLeases request.now).isLeased
      (leaseOf request task).taskId = false := holds.unleased
  exact Store.releaseTaskLease_added own holds.rows

/-! ## The whole search -/

def firstRunnable (store : Store) (request : DispatchRequest)
    (localExclusions : List String) : Option Task :=
  (availableTasks store request localExclusions).find? fun task =>
    (dispatchBlock store request.now task).isNone

theorem firstRunnable_of_nil (none : availableTasks store request localExclusions = []) :
    firstRunnable store request localExclusions = .none := by
  unfold firstRunnable
  rw [none]
  rfl

inductive Finds (store : Store) (request : DispatchRequest)
    (localExclusions : List String) : Store × DispatchSelection → Prop where
  | nothing (blocked : firstRunnable store request localExclusions = none) :
      Finds store request localExclusions (store.deleteExpiredLeases request.now, .idle)
  | first {task : Task} {taskLeases : KeyedTable TaskLease.taskId}
      (found : firstRunnable store request localExclusions = some task)
      (holds : Holds store request task taskLeases) :
      Finds store request localExclusions
        ({ store.deleteExpiredLeases request.now with taskLeases }, .leased task)

theorem Finds.of_purged (finds : Finds (store.deleteExpiredLeases request.now) request
      localExclusions outcome) :
    Finds store request localExclusions outcome := by
  have same : firstRunnable (store.deleteExpiredLeases request.now) request
      localExclusions = firstRunnable store request localExclusions := by
    unfold firstRunnable
    rw [availableTasks_deleteExpiredLeases]
    rfl
  have purged := store.deleteExpiredLeases_deleteExpiredLeases request.now
  cases finds with
  | nothing blocked =>
    rw [purged]
    exact .nothing (same ▸ blocked)
  | first found holds =>
    obtain ⟨unleased, rows⟩ := holds
    rw [purged] at unleased rows ⊢
    exact .first (same ▸ found) ⟨unleased, rows⟩

theorem Finds.of_same {first second : List String} (finds : Finds store request first outcome)
    (same : firstRunnable store request first = firstRunnable store request second) :
    Finds store request second outcome := by
  cases finds with
  | nothing blocked => exact .nothing (same ▸ blocked)
  | first found holds => exact .first (same ▸ found) holds

theorem selectTask_finds (request : DispatchRequest) (fuel : Nat) (store : Store)
    (localExclusions : List String)
    (enough :
      (availableTasks store request localExclusions).length < fuel) :
    Finds store request localExclusions (selectTask request fuel store localExclusions) := by
  induction fuel generalizing store localExclusions with
  | zero => omega
  | succ fuel ih =>
    unfold selectTask
    cases available : availableTasks store request localExclusions with
    | nil =>
      rw [acquireTaskLease_of_nil available]
      exact .nothing (firstRunnable_of_nil available)
    | cons task _ =>
      obtain ⟨taskLeases, holds, acquired⟩ := acquireTaskLease_of_cons available
      have check : dispatchBlock
          { store.deleteExpiredLeases request.now with taskLeases }
          request.now task = dispatchBlock store request.now task := rfl
      rw [acquired]
      simp only [check]
      cases blocked : dispatchBlock store request.now task with
      | none =>
        apply Finds.first ?_ holds
        unfold firstRunnable
        rw [available, find?_cons_of_pos (by rw [blocked]; rfl)]
      | some _ =>
        have excluded := availableTasks_exclude available
        have fewer : (availableTasks (store.deleteExpiredLeases request.now) request
            (task.id :: localExclusions)).length < fuel := by
          rw [availableTasks_deleteExpiredLeases, excluded]
          rw [available, length_cons] at enough
          omega
        have later := (ih _ _ fewer).of_purged
        have same : firstRunnable store request (task.id :: localExclusions) =
            firstRunnable store request localExclusions := by
          unfold firstRunnable
          rw [excluded, available, find?_cons_of_neg (by rw [blocked]; exact nofun)]
        simp only [holds.release]
        exact later.of_same same

theorem length_availableTasks_lt (store : Store) (request : DispatchRequest) :
    (availableTasks store request request.excludeTaskIds).length < store.tasks.rows.length + 1 := by
  have distinct := List.Nodup.of_map Task.id
    (nodup_availableTasks store request request.excludeTaskIds)
  have stored : availableTasks store request request.excludeTaskIds ⊆
      store.tasks.rows :=
    fun task member => (mem_availableTasks.mp member).stored
  exact Nat.lt_succ_of_le (subperm_of_subset distinct stored).length_le

theorem dispatch_finds (store : Store) (request : DispatchRequest) :
    Finds store request request.excludeTaskIds (dispatch store request) :=
  selectTask_finds request _ store _ (length_availableTasks_lt store request)

theorem firstRunnable_first
    (found : firstRunnable store request request.excludeTaskIds = some task) :
    Available store request task ∧ dispatchBlock store request.now task = none ∧
        ∀ other, Available store request other →
          dispatchBlock store request.now other = none → DispatchOrder task other := by
  have member := mem_availableTasks.mp (mem_of_find?_eq_some found)
  have open? := find?_some found
  refine ⟨member, Option.isNone_iff_eq_none.mp open?, ?_⟩
  unfold firstRunnable availableTasks Store.leaseCandidates at found
  rw [find?_filter] at found
  obtain ⟨_, _, first⟩ := find?_orderBy_first DispatchOrder found
  intro other available unblocked
  apply first other
  · rw [mem_filter]
    refine ⟨available.stored, ?_⟩
    simp [available.pending, available.unleased, available.inProject, available.allowed]
  · simp [available.underCap, unblocked]

theorem runLeased_ne_outOfFuel (store : Store) (task : Task) (request : DispatchRequest) :
    (runLeased store task request).2 ≠ .outOfFuel := by
  unfold runLeased
  rcases RunService.runOnce store task.id request.answers with
    ⟨_, _ | _⟩
  · exact nofun
  · exact nofun

theorem processNextTask_finds (store : Store) (request : DispatchRequest)
    (ungated : request.llmAvailable = true) :
    (∃ task taskLeases, firstRunnable store request request.excludeTaskIds = some task ∧
          Holds store request task taskLeases ∧ processNextTask store request = runLeased
                { store.deleteExpiredLeases request.now with taskLeases }
                task request) ∨
      firstRunnable store request request.excludeTaskIds = none ∧
        processNextTask store request = (store.deleteExpiredLeases request.now, .idle) := by
  have finds := dispatch_finds store request
  unfold processNextTask
  simp only [ungated, Bool.not_true, Bool.false_eq_true, if_false]
  generalize dispatch store request = outcome at finds
  cases finds with
  | nothing blocked => exact .inr ⟨blocked, rfl⟩
  | first found holds => exact .inl ⟨_, _, found, holds, rfl⟩

theorem blocked_of_firstRunnable
    (none : firstRunnable store request request.excludeTaskIds = none) :
    ∀ task, Available store request task → dispatchBlock store request.now task ≠ .none := by
  intro task available unblocked
  have refused := find?_eq_none.mp none task (mem_availableTasks.mpr available)
  exact refused (Option.isNone_iff_eq_none.mpr unblocked)

theorem processNextTask_ne_outOfFuel (store : Store) (request : DispatchRequest) :
    (processNextTask store request).2 ≠ .outOfFuel := by
  by_cases ungated : request.llmAvailable = true
  · rcases processNextTask_finds store request ungated with
      ⟨_, _, _, _, outcome⟩ | ⟨_, outcome⟩
    · rw [outcome]
      exact runLeased_ne_outOfFuel _ _ _
    · rw [outcome]
      exact nofun
  · unfold processNextTask
    simp [ungated]

/-- Without a gate, a call ends: it runs the first available task that no
check blocks, and it finds nothing only where a check blocks each of them. -/
theorem processNextTask_runs_first_runnable (store : Store) (request : DispatchRequest)
    (ungated : request.llmAvailable = true) :
    (processNextTask store request).2 ≠ .outOfFuel ∧
      ((∃ task taskLeases, (Available store request task ∧
            dispatchBlock store request.now task = none ∧ ∀ other, Available store request other →
                dispatchBlock store request.now other = none → DispatchOrder task other) ∧
            Holds store request task taskLeases ∧ processNextTask store request = runLeased
                  { store.deleteExpiredLeases request.now with taskLeases }
                  task request) ∨
        (∀ task, Available store request task → dispatchBlock store request.now task ≠ none) ∧
          processNextTask store request = (store.deleteExpiredLeases request.now, .idle)) := by
  refine ⟨processNextTask_ne_outOfFuel store request, ?_⟩
  rcases processNextTask_finds store request ungated with
    ⟨task, taskLeases, found, holds, outcome⟩ | ⟨none, outcome⟩
  · exact .inl ⟨task, taskLeases, firstRunnable_first found, holds, outcome⟩
  · exact .inr ⟨blocked_of_firstRunnable none, outcome⟩

def plainTask : Task where
  id := "plain"
  projectId := "project"

def blockedUrgentStore : Store where
  projects := .single { id := "project" }
  objectives := .single { id := "objective", projectId := "project" }
  tasks := ⟨[{ id := "urgent", projectId := "project", priority := 900
               objectiveId := some "objective" },
             plainTask], by decide⟩

def plainRequest : DispatchRequest where
  now := 0
  answers :=
    { runId := "run", workResult := .ok { summary := "", artifacts := [] } }

theorem processNextTask_runs_plain_task :
    ∃ task taskLeases,
      task.id = "plain" ∧ processNextTask blockedUrgentStore plainRequest = runLeased
            { blockedUrgentStore.deleteExpiredLeases plainRequest.now with
              taskLeases } task plainRequest := by
  obtain ⟨_, ⟨task, taskLeases, ⟨available, unblocked, _⟩, _, outcome⟩ | ⟨blocked, _⟩⟩ :=
    processNextTask_runs_first_runnable blockedUrgentStore plainRequest rfl
  · have plain : ∀ task ∈ blockedUrgentStore.tasks.rows,
        dispatchBlock blockedUrgentStore plainRequest.now task = none →
          task.id = "plain" := by
      decide
    exact ⟨task, taskLeases, plain task available.stored unblocked, outcome⟩
  · have open? : dispatchBlock blockedUrgentStore plainRequest.now plainTask =
        none := by
      decide
    exact absurd open? (blocked plainTask
      ⟨mem_cons_of_mem _ mem_cons_self, rfl, by decide, by decide, by decide, by decide⟩)

end QueueService

end AccruviaHarness
