import AccruviaHarness.Store.Schema

/-!
# Validated status writes

`update_task_status` is two statements: a `SELECT` whose result is validated,
and an unconditional `UPDATE`.
-/

namespace AccruviaHarness

open Library

namespace Store

variable (store : Store)

/-- The `SELECT` of `update_task_status` with its checks: the status it read. -/
def selectTaskStatus (taskId : String) (status : TaskStatus) : Except PyError TaskStatus :=
  match store.getTask taskId with
  | none => .error (.valueError ("Unknown task: " ++ taskId))
  | some task =>
    match validateTaskTransition task.status status with
    | .error error => .error error
    | .ok () => .ok task.status

/-- `update_task_status`, when nothing comes between its statements. -/
def updateTaskStatus (taskId : String) (status : TaskStatus) : Except PyError Store :=
  match store.selectTaskStatus taskId status with
  | .error error => .error error
  | .ok _ => .ok (store.writeTaskStatus taskId status)

/-- The outer read of `_apply_task_status_for_run`: the status it answers with
when it does not update the task. -/
def keepsTaskStatus (taskId : String) (status : TaskStatus) : Except PyError (Option TaskStatus) :=
  match store.getTask taskId with
  | none => .error (.valueError ("Unknown task: " ++ taskId))
  | some current =>
    if current.status = .completed ∧ status ≠ .completed then .ok (some current.status)
    else .ok none

def applyTaskStatusForRun (taskId : String)
    (status : TaskStatus) : Except PyError (Store × TaskStatus) :=
  match store.keepsTaskStatus taskId status with
  | .error error => .error error
  | .ok (some current) => .ok (store, current)
  | .ok none =>
    match store.updateTaskStatus taskId status with
    | .error error => .error error
    | .ok updated => .ok (updated, status)

variable {store : Store} {taskId : String} {status : TaskStatus}

theorem selectTaskStatus_eq_ok_iff {observed : TaskStatus} :
    store.selectTaskStatus taskId status = .ok observed ↔
      ∃ task, store.getTask taskId = some task ∧ task.status = observed ∧
        observed.Allows status := by
  unfold selectTaskStatus
  cases found : store.getTask taskId with
  | none => simp
  | some task =>
    simp only [Option.some.injEq, exists_eq_left']
    cases validated : validateTaskTransition task.status status with
    | error _ =>
      have refused : ¬ task.status.Allows status := by
        intro allowed
        rw [(validateTaskTransition_ok_iff _ _).mpr allowed] at validated
        cases validated
      simp only [reduceCtorEq, false_iff, not_and]
      rintro rfl
      exact refused
    | ok _ =>
      have allowed : task.status.Allows status := (validateTaskTransition_ok_iff _ _).mp validated
      simp only [Except.ok.injEq]
      constructor
      · rintro rfl
        exact ⟨rfl, allowed⟩
      · exact And.left

theorem updateTaskStatus_eq_ok_iff {updated : Store} :
    store.updateTaskStatus taskId status = .ok updated ↔
      (∃ task, store.getTask taskId = some task ∧ task.status.Allows status) ∧
        updated = store.writeTaskStatus taskId status := by
  unfold updateTaskStatus
  cases selected : store.selectTaskStatus taskId status with
  | error _ =>
    simp only [reduceCtorEq, false_iff, not_and]
    rintro ⟨task, found, allowed⟩
    have accepted := selectTaskStatus_eq_ok_iff.mpr ⟨task, found, rfl, allowed⟩
    rw [selected] at accepted
    cases accepted
  | ok _ =>
    obtain ⟨task, found, rfl, allowed⟩ := selectTaskStatus_eq_ok_iff.mp selected
    simp only [Except.ok.injEq]
    constructor
    · rintro rfl
      exact ⟨⟨task, found, allowed⟩, rfl⟩
    · rintro ⟨_, rfl⟩
      rfl

end Store

end AccruviaHarness
