import AccruviaHarness.Library.Runs
import AccruviaHarness.Store.ObjectivePhase

/-!
# Transitions of objectives

`VALID_OBJECTIVE_TRANSITIONS` says which statuses of an objective may follow
which, and `validate_objective_transition` checks it, but none of the writers
of the `status` column calls the check.
-/

namespace AccruviaHarness

open Library

def validObjectiveTransitions : ObjectiveStatus → List ObjectiveStatus
  | .open => [.investigating, .planning, .paused, .resolved]
  | .investigating => [.planning, .paused, .resolved]
  | .planning => [.executing, .investigating, .paused, .resolved]
  | .executing => [.planning, .paused, .resolved]
  | .paused => [.open, .investigating, .planning, .executing, .resolved]
  | .resolved => []

/-- `validate_objective_transition` accepts the change. -/
def ObjectiveStatus.Allows (current target : ObjectiveStatus) : Prop :=
  current = target ∨ target ∈ validObjectiveTransitions current

instance ObjectiveStatus.decidableAllows (current target : ObjectiveStatus) :
    Decidable (current.Allows target) :=
  inferInstanceAs (Decidable (_ ∨ _))

namespace Store

/-- `set_objective_phase`, with the status that may be given with the phase. -/
def setPhaseWithStatus (store : Store) (objectiveId : String)
    (phase : ObjectivePhase) (status : Option ObjectiveStatus) : Store :=
  { store with
    objectives := store.objectives.updateAt objectiveId
      ⟨fun row =>
          { row with phase, status := status.getD (phaseToStatus phase) },
        fun _ => rfl⟩ }

end Store

inductive ObjectiveWrite where
  | updateObjectivePhase (objectiveId : String)
  | updateObjectiveStatus (objectiveId : String) (status : ObjectiveStatus)
  | setObjectivePhase (objectiveId : String) (phase : ObjectivePhase)
      (status : Option ObjectiveStatus)
  | changeTasks (tasks : KeyedTable Task.id)

namespace ObjectiveWrite

def perform (store : Store) : ObjectiveWrite → Store
  | .updateObjectivePhase objectiveId => (store.updateObjectivePhase objectiveId).1
  | .updateObjectiveStatus objectiveId status => store.updateObjectiveStatus objectiveId status
  | .setObjectivePhase objectiveId phase status => store.setPhaseWithStatus objectiveId phase status
  | .changeTasks tasks => { store with tasks }

def step (store : Store) (write : ObjectiveWrite) : Option Store := some (write.perform store)

end ObjectiveWrite

def TransitionsValid (before after : Store) : Prop :=
  ∀ objectiveId current next, before.objectiveStatus objectiveId = some current →
      after.objectiveStatus objectiveId = some next → current.Allows next

/-- The tasks of an objective with the current status call for no status that
the table refuses: an open or investigated objective has no active work, and
the work of a resolved one is done. -/
def TasksAgree (current : ObjectiveStatus) (tasks : List Task) : Prop :=
  match current with
  | .open | .investigating => ¬ DecidesWith tasks .active
  | .resolved =>
    ¬ DecidesWith tasks .active ∧ ¬ DecidesWith tasks .pending ∧
      ∀ task ∈ effectiveTasks tasks, task.status = .completed
  | .planning | .executing | .paused => True

def WriteAllowed (store : Store) : ObjectiveWrite → Prop
  | .updateObjectivePhase objectiveId =>
    ∀ current, store.objectiveStatus objectiveId = some current →
      TasksAgree current (store.linkedRows objectiveId)
  | .updateObjectiveStatus objectiveId status =>
    ∀ current, store.objectiveStatus objectiveId = some current → current.Allows status
  | .setObjectivePhase objectiveId phase status =>
    ∀ current, store.objectiveStatus objectiveId = some current →
      current.Allows (status.getD (phaseToStatus phase))
  | .changeTasks _ => True

theorem allows_derivedPhase_iff {tasks : List Task} {current phase : ObjectiveStatus}
    (derived : derivedPhase tasks = some phase) :
    current.Allows phase ↔ TasksAgree current tasks := by
  have nonempty : tasks ≠ [] := by
    rintro rfl
    cases derived
  rw [derivedPhase_of_nonempty nonempty, Option.some.injEq] at derived
  subst derived
  unfold TasksAgree
  cases current <;> dsimp only <;> split_ifs <;>
    simp_all [ObjectiveStatus.Allows, validObjectiveTransitions]

theorem tasksAgree_nil (current : ObjectiveStatus) : TasksAgree current [] := by
  have counted : effectiveTasks [] = [] := rfl
  cases current <;>
    simp [TasksAgree, not_decidesWith_nil, counted]

variable {before after : Store}

variable {objectiveId : String} {written : ObjectiveStatus}

theorem objectiveStatus_updateAt {update : RowUpdate Objective.id}
    (writes : ∀ row, (update.apply row).status = written)
    (rows : after.objectives = before.objectives.updateAt objectiveId update)
    (other : String) :
    after.objectiveStatus other =
      (before.objectiveStatus other).map fun current =>
        if other = objectiveId then written else current := by
  unfold Store.objectiveStatus
  rw [rows, KeyedTable.lookup_updateAt, Option.map_map, Option.map_map]
  congr 1
  funext row
  by_cases own : other = objectiveId
  · simp [own, writes]
  · simp [own]

theorem transitionsValid_write_iff (statuses : ∀ other, after.objectiveStatus other =
      (before.objectiveStatus other).map fun current =>
        if other = objectiveId then written else current) :
    TransitionsValid before after ↔ ∀ current, before.objectiveStatus objectiveId = some current →
        current.Allows written := by
  constructor
  · intro valid current found
    apply valid objectiveId current written found
    rw [statuses, found, Option.map_some, if_pos rfl]
  · intro allowed other current next found after_found
    rw [statuses, found, Option.map_some, Option.some.injEq] at after_found
    by_cases own : other = objectiveId
    · subst own
      rw [if_pos rfl] at after_found
      exact after_found ▸ allowed current found
    · rw [if_neg own] at after_found
      exact .inl after_found

theorem transitionsValid_refl (same : after.objectives = before.objectives) :
    TransitionsValid before after := by
  intro objectiveId current next found after_found
  unfold Store.objectiveStatus at found after_found
  rw [same, found] at after_found
  exact .inl (Option.some.inj after_found)

theorem transitionsValid_perform_iff (store : Store) (write : ObjectiveWrite) :
    TransitionsValid store (write.perform store) ↔ WriteAllowed store write := by
  cases write with
  | updateObjectivePhase objectiveId =>
    simp only [ObjectiveWrite.perform, WriteAllowed, Store.updateObjectivePhase]
    cases derived : derivedPhase (store.linkedRows objectiveId) with
    | none =>
      have empty := derivedPhase_eq_none_iff.mp derived
      rw [empty]
      exact iff_of_true (transitionsValid_refl rfl) fun current _ => tasksAgree_nil current
    | some _ =>
      rw [transitionsValid_write_iff (objectiveStatus_updateAt (fun _ => rfl) rfl)]
      exact forall_congr' fun current => forall_congr' fun _ => allows_derivedPhase_iff derived
  | updateObjectiveStatus _ _ =>
    exact transitionsValid_write_iff (objectiveStatus_updateAt (fun _ => rfl) rfl)
  | setObjectivePhase _ _ _ =>
    exact transitionsValid_write_iff (objectiveStatus_updateAt (fun _ => rfl) rfl)
  | changeTasks _ => exact iff_of_true (transitionsValid_refl rfl) trivial

def openedStore : Store where
  objectives := .single { id := "objective", projectId := "project" }

def linkedTask (status : TaskStatus) : Task :=
  { id := "task", projectId := "project", objectiveId := some "objective", status }

def linkedTable (status : TaskStatus) : KeyedTable Task.id :=
  ⟨[linkedTask status], List.nodup_singleton _⟩

end AccruviaHarness
