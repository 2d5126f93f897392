import AccruviaHarness.Store.TaskLeases

/-!
# Recovery of stale state

`recover_stale_state` is one write transaction: it deletes the expired leases,
fails the runs in progress that no unexpired lease protects, and puts the
active tasks without a lease row back to pending.
-/

namespace AccruviaHarness

open Library

def inProgressStatuses : List RunStatus := [.planning, .working, .validating, .analyzing, .deciding]

/-- The counts that `recover_stale_state` answers with. -/
structure RecoveredCounts where
  runs : Nat
  tasks : Nat
  leases : Nat
  deriving DecidableEq, Repr

namespace Store

variable (store : Store) (now : Int)

def isStaleRun (run : Run) : Bool :=
  inProgressStatuses.contains run.status &&
    !store.taskLeases.rows.any fun lease => lease.taskId = run.taskId && now < lease.leaseExpiresAt

def failWorkerRun (staleRunIds : List String) :
    RowUpdate ControlWorkerRun.id where
  apply workerRun :=
    if staleRunIds.contains workerRun.id then
      { workerRun with
        status := "failed", classification := workerRun.classification.or (some "system_failure")
        endedAt := workerRun.endedAt.or (some now) }
    else workerRun
  keepsKey workerRun := by split <;> rfl

def failStaleRun : RowUpdate Run.id where
  apply run :=
    if store.isStaleRun now run then
      { run with
        status := .failed, summary := "Recovered: process crash detected" }
    else run
  keepsKey run := by split <;> rfl

def failStaleRuns : Store :=
  let staleRunIds := (store.runs.rows.filter (store.isStaleRun now)).map Run.id
  { store with
    runs := store.runs.modify (store.failStaleRun now)
    control :=
      { store.control with
        workerRuns := store.control.workerRuns.modify (failWorkerRun now staleRunIds) } }

def isOrphaned (task : Task) : Bool := task.status = .active && !store.isLeased task.id

def resetOrphanedTask : RowUpdate Task.id where
  apply task := if store.isOrphaned task then { task with status := .pending } else task
  keepsKey task := by split <;> rfl

def resetOrphanedTasks : Store := { store with tasks := store.tasks.modify store.resetOrphanedTask }

def recoverStaleState : Store × RecoveredCounts :=
  let purged := store.deleteExpiredLeases now
  let failed := purged.failStaleRuns now
  (failed.resetOrphanedTasks,
    { runs := purged.runs.rows.countP (purged.isStaleRun now)
      tasks := failed.tasks.rows.countP failed.isOrphaned
      leases := store.taskLeases.rows.countP
        fun lease => lease.leaseExpiresAt ≤ now })

theorem rows_runs_recoverStaleState :
    (store.recoverStaleState now).1.runs.rows = store.runs.rows.map
        ((store.deleteExpiredLeases now).failStaleRun now).apply := rfl

theorem failStaleRun_apply (run : Run) :
    ((store.failStaleRun now).apply run).taskId = run.taskId ∧
      ((store.failStaleRun now).apply run).attempt = run.attempt ∧
        ((store.failStaleRun now).apply run).branchId = run.branchId := by
  by_cases stale : store.isStaleRun now run = true
  · simp [failStaleRun, stale]
  · simp [failStaleRun, stale]

theorem mem_tasks_recoverStaleState {store : Store} {now : Int} {later : Task} :
    later ∈ (store.recoverStaleState now).1.tasks.rows ↔
      ∃ task ∈ store.tasks.rows,
        (if (store.deleteExpiredLeases now).isOrphaned task then { task with status := .pending }
        else task) = later :=
  List.mem_map

end Store

end AccruviaHarness
