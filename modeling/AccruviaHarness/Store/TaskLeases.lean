import AccruviaHarness.Store.Schema

/-!
# Task leases

`acquire_task_lease`, `release_task_lease` and `list_task_leases`. Each of them
is one write transaction, so each is one function from store to store.
-/

namespace AccruviaHarness

open Library

/-- `ORDER BY t.priority DESC, t.created_at`. -/
def DispatchOrder (first second : Task) : Prop :=
  second.priority < first.priority ∨
    (first.priority = second.priority ∧ first.createdAt ≤ second.createdAt)

instance : DecidableRel DispatchOrder := fun _ _ => inferInstanceAs (Decidable (_ ∨ _))

instance : Std.Total DispatchOrder where
  total first second := by
    unfold DispatchOrder
    omega

instance : IsTrans Task DispatchOrder where
  trans first second third := by
    unfold DispatchOrder
    omega

namespace Store

variable (store : Store)

/-- `DELETE FROM task_leases WHERE lease_expires_at <= ?`. -/
def deleteExpiredLeases (now : Int) : Store :=
  { store with
    taskLeases := store.taskLeases.deleteWhere
      fun lease => lease.leaseExpiresAt ≤ now }

/-- The lease row of the task is joined by `LEFT JOIN task_leases`. -/
def isLeased (taskId : String) : Bool := (store.taskLeases.lookup taskId).isSome

variable (projectId : Option String)

def inGivenProject (task : Task) : Bool :=
  match projectId with
  | some given => given = "" || task.projectId = given
  | none => true

def leaseCandidates (excludeTaskIds : List String) : List Task :=
  orderBy DispatchOrder <|
    store.tasks.rows.filter fun task =>
      task.status = .pending && !store.isLeased task.id &&
        inGivenProject projectId task && !excludeTaskIds.contains task.id

variable (projectId : String)

def leaseInProject (lease : TaskLease) : Bool :=
  match store.getTask lease.taskId with
  | some task => task.projectId = projectId
  | none => false

/-- `SELECT COUNT(*)` over the leases joined with the tasks of a project. -/
def activeLeaseCount : Nat := store.taskLeases.rows.countP (store.leaseInProject projectId)

/-- The project's `max_concurrent_tasks`, and `0` without a project row. -/
def maxConcurrentTasks : Int :=
  match store.getProject projectId with
  | some project => project.maxConcurrentTasks
  | none => 0

def atCapacity : Bool :=
  0 < store.maxConcurrentTasks projectId &&
    store.maxConcurrentTasks projectId ≤ store.activeLeaseCount projectId

variable (now : Int)

def acquireTaskLease (workerId : String) (leaseSeconds : Int) (projectId : Option String)
    (excludeTaskIds : List String) : Store × Option Task :=
  let store := store.deleteExpiredLeases now
  let candidates := store.leaseCandidates projectId excludeTaskIds
  match candidates.find? fun task => !store.atCapacity task.projectId with
  | none => (store, none)
  | some candidate =>
    let lease : TaskLease :=
      { taskId := candidate.id, workerId, leaseExpiresAt := now + secondsSpan leaseSeconds
        createdAt := now }
    match store.taskLeases.insert? lease with
    -- The `IntegrityError` branch: the row of another worker stands.
    | none => (store, none)
    | some taskLeases =>
      let store := { store with taskLeases }
      (store, store.getTask candidate.id)

def releaseTaskLease (taskId : String) (workerId : Option String) : Store :=
  { store with
    taskLeases := store.taskLeases.deleteWhere fun lease =>
      match workerId with
      | none => lease.taskId = taskId
      | some worker => lease.taskId = taskId && lease.workerId = worker }

/-- `ORDER BY l.created_at`. -/
def LeaseOrder (first second : TaskLease) : Prop := first.createdAt ≤ second.createdAt

instance : DecidableRel LeaseOrder := fun _ _ => inferInstanceAs (Decidable (_ ≤ _))

def listTaskLeases (projectId : Option String) : Store × List TaskLease :=
  let store := store.deleteExpiredLeases now
  let rows := store.taskLeases.rows.filter fun lease =>
    match projectId with
    | some given => given = "" || store.leaseInProject given lease
    | none => true
  (store, orderBy LeaseOrder rows)

@[simp]
theorem deleteExpiredLeases_tasks :
    (store.deleteExpiredLeases now).tasks = store.tasks := rfl

@[simp]
theorem deleteExpiredLeases_projects :
    (store.deleteExpiredLeases now).projects = store.projects := rfl

@[simp]
theorem releaseTaskLease_tasks (taskId : String) (workerId : Option String) :
    (store.releaseTaskLease taskId workerId).tasks = store.tasks := rfl

@[simp]
theorem releaseTaskLease_projects (taskId : String) (workerId : Option String) :
    (store.releaseTaskLease taskId workerId).projects = store.projects := rfl

theorem mem_deleteExpiredLeases {store : Store} {now : Int} {lease : TaskLease} :
    lease ∈ (store.deleteExpiredLeases now).taskLeases.rows ↔
      lease ∈ store.taskLeases.rows ∧ now < lease.leaseExpiresAt := by
  simp [deleteExpiredLeases]

theorem isLeased_eq_false_iff {store : Store} {taskId : String} :
    store.isLeased taskId = false ↔ ∀ lease ∈ store.taskLeases.rows, lease.taskId ≠ taskId := by
  unfold isLeased
  rw [Option.isSome_eq_false_iff, Option.isNone_iff_eq_none]
  exact store.taskLeases.lookup_eq_none_iff

theorem acquireTaskLease_cases (store : Store) (now : Int) (workerId : String)
    (leaseSeconds : Int) (projectId : Option String)
    (excludeTaskIds : List String) :
    let purged := store.deleteExpiredLeases now
    let scan := (purged.leaseCandidates projectId excludeTaskIds).find?
      fun task => !purged.atCapacity task.projectId
    let outcome := store.acquireTaskLease now workerId leaseSeconds projectId excludeTaskIds
    (scan = none ∧ outcome = (purged, none)) ∨
      ∃ task taskLeases,
        scan = some task ∧ purged.isLeased task.id = false ∧
          purged.atCapacity task.projectId = false ∧
          taskLeases.rows = purged.taskLeases.rows ++
              [{ taskId := task.id, workerId, leaseExpiresAt := now + secondsSpan leaseSeconds
                 createdAt := now }] ∧
          outcome = ({ purged with taskLeases }, some task) := by
  intro purged scan outcome
  cases scanned : scan with
  | none =>
    left
    refine ⟨rfl, ?_⟩
    simp only [outcome, acquireTaskLease]
    rw [show List.find? _ (purged.leaseCandidates projectId excludeTaskIds) = none from scanned]
  | some task =>
    right
    have member := List.mem_of_find?_eq_some scanned
    have open? := List.find?_some scanned
    simp only [leaseCandidates, mem_orderBy, List.mem_filter,
      Bool.and_eq_true, Bool.not_eq_true'] at member
    obtain ⟨stored, ⟨⟨_, unleased⟩, _⟩, _⟩ := member
    have fresh : ∀ existing ∈ purged.taskLeases.rows, existing.taskId ≠ task.id :=
      isLeased_eq_false_iff.mp unleased
    let lease : TaskLease :=
      { taskId := task.id, workerId, leaseExpiresAt := now + secondsSpan leaseSeconds
        createdAt := now }
    obtain ⟨taskLeases, inserted, rows⟩ := purged.taskLeases.insert?_of_fresh lease fresh
    refine ⟨task, taskLeases, rfl, unleased, by simpa using open?, rows, ?_⟩
    simp only [outcome, acquireTaskLease]
    rw [show List.find? _ (purged.leaseCandidates projectId excludeTaskIds)
      = some task from scanned]
    simp only
    rw [show KeyedTable.insert? _ lease = some taskLeases from inserted]
    rw [Prod.mk.injEq]
    exact ⟨rfl, purged.tasks.lookup_of_mem stored⟩

end Store

end AccruviaHarness
