import AccruviaHarness.Services.ObjectiveGate
import AccruviaHarness.Store.ObjectivePhase

/-!
# When an objective may be reviewed

`WorkflowService.review_readiness` judges the tasks of an objective once more,
apart from the status that `update_objective_phase` derives from them, and
`reconcile_objective` acts on both.
-/

namespace AccruviaHarness

open Library List

structure ObjectiveReadiness where
  stage : String
  ready : Bool
  checks : List GateCheck
  deriving DecidableEq, Repr

/-- The counters of `review_readiness`. -/
structure LinkedTaskCounts where
  completed : Nat := 0
  pending : Nat := 0
  active : Nat := 0
  unresolvedFailed : Nat := 0
  deriving DecidableEq, Repr

namespace WorkflowService

variable (store : Store) (objectiveId : String)

def planningReadiness :
    ObjectiveReadiness :=
  let execution := objectiveExecutionGate store objectiveId
  { stage := "planning", ready := execution.ready
    checks := execution.gateChecks.filter fun check =>
      !("_placeholder".toList.isSuffixOf check.key.toList) }

def linkedTasks : List Task :=
  match store.getObjective objectiveId with
  | none => []
  | some objective =>
    (store.listTasks objective.projectId).filter fun task => task.objectiveId = some objectiveId

def isWaivedFailedTask (task : Task) (completedRefs : List (String × String))
    (completedDimensions : List String) : Bool :=
  if task.isIgnoredObsolete then true
  else
    let (externalRefType, externalRefId) := task.externalRef
    let dimension := task.reviewDimension
    task.status = .failed && (task.dispositionKind "failed_task_disposition" = "waive_obsolete" ||
        (externalRefType = "objective_review" && ((externalRefId ≠ "" &&
              completedRefs.contains (externalRefType, externalRefId)) ||
            (dimension ≠ "" && completedDimensions.contains dimension))))

def countTask (completedRefs : List (String × String))
    (completedDimensions : List String) (counts : LinkedTaskCounts) (task : Task) :
    LinkedTaskCounts :=
  match task.status with
  | .completed => { counts with completed := counts.completed + 1 }
  | .pending => { counts with pending := counts.pending + 1 }
  | .active => { counts with active := counts.active + 1 }
  | .failed =>
    if isWaivedFailedTask task completedRefs completedDimensions then counts
    else { counts with unresolvedFailed := counts.unresolvedFailed + 1 }

variable (linked : List Task)

def countTasks : LinkedTaskCounts :=
  linked.foldl (countTask (completedExternalRefs linked) (completedReviewDimensions linked)) {}

/-- The checks of `review_readiness`. -/
def reviewChecks : List GateCheck :=
  let counts := countTasks linked
  [GateCheck.of "linked_tasks_exist" "Linked tasks exist" (!linked.isEmpty)
      "Review cannot start before the objective has linked tasks.",
    GateCheck.of "no_active_tasks" "No active tasks" (counts.active = 0)
      (toString counts.active ++ " task(s) are still active."),
    GateCheck.of "no_pending_tasks" "No pending tasks" (counts.pending = 0)
      (toString counts.pending ++ " task(s) are still pending."),
    GateCheck.of "no_unresolved_failed_tasks" "No unresolved failed tasks"
      (counts.unresolvedFailed = 0)
      (toString counts.unresolvedFailed ++ " failed task(s) still need disposition."),
    GateCheck.of "completed_task_exists" "Completed task exists"
      (0 < counts.completed) "Review requires at least one completed task."]

def reviewReadiness (given : List Task := []) : ObjectiveReadiness :=
  let linked := if given.isEmpty then linkedTasks store objectiveId else given
  let checks := reviewChecks linked
  { stage := "review", ready := checks.all GateCheck.ok, checks }

/-- The arguments of `reconcile_objective`. Of the callbacks, which start work
in the background, it matters whether they are given. -/
structure ReconcileRequest where
  startAtomic : Bool := false
  startReview : Bool := false
  atomicRunning : Bool := false
  reviewRunning : Bool := false
  reviewStartAllowed : Bool := false
  deriving DecidableEq, Repr

/-- The object that `reconcile_objective` returns. A missing objective has no
more than its id and no actions. -/
structure ReconcileReport where
  objectiveId : String
  changed : Bool
  actions : List String
  objectiveStatus : Option ObjectiveStatus := none
  planningReady : Option Bool := none
  reviewReady : Option Bool := none
  deriving DecidableEq, Repr

def reconcileObjective (request : ReconcileRequest) : Store × ReconcileReport :=
  match store.getObjective objectiveId with
  | none => (store, { objectiveId, changed := false, actions := [] })
  | some objective =>
    let before := objective.status
    let linked := linkedTasks store objectiveId
    let (store, derived) :=
      if linked.isEmpty then (store, some objective.status)
      else store.updateObjectivePhase objectiveId
    let status := (store.objectiveStatus objectiveId).getD before
    let phaseActions :=
      match derived with
      | some phase =>
        if phase ≠ before then ["phase:" ++ before.value ++ "->" ++ phase.value]
        else []
      | none => []
    let planning := planningReadiness store objectiveId
    let review := reviewReadiness store objectiveId linked
    let onlyTerminal := !linked.isEmpty &&
      !linked.any fun task => task.status = .pending || task.status = .active
    let restartAtomic := planning.ready && onlyTerminal &&
      (status = .paused || status = .planning) && !review.ready
    let atomicActions :=
      if planning.ready && request.startAtomic && !request.atomicRunning &&
          (linked.isEmpty || restartAtomic) then
        [if restartAtomic then "restart_atomic_generation"
          else "start_atomic_generation"]
      else []
    let reviewActions :=
      if review.ready && status = .resolved && request.startReview &&
          !request.reviewRunning && request.reviewStartAllowed then
        ["start_objective_review"]
      else []
    let actions := phaseActions ++ atomicActions ++ reviewActions
    (store,
      { objectiveId, changed := !actions.isEmpty
        actions, objectiveStatus := some status
        planningReady := some planning.ready, reviewReady := some review.ready })

/-! ## Readiness -/

section

variable {linked : List Task}

theorem foldl_countTask (refs : List (String × String)) (dimensions : List String)
    (tasks : List Task) (counts : LinkedTaskCounts) :
    tasks.foldl (countTask refs dimensions) counts =
      { completed := counts.completed + tasks.countP fun task => task.status = .completed
        pending := counts.pending +
          tasks.countP fun task => task.status = .pending
        active := counts.active +
          tasks.countP fun task => task.status = .active
        unresolvedFailed := counts.unresolvedFailed +
          tasks.countP fun task => task.status = .failed &&
            !isWaivedFailedTask task refs dimensions } := by
  induction tasks generalizing counts with
  | nil => rfl
  | cons task _ ih =>
    rw [foldl_cons, ih]
    simp only [countP_cons]
    cases status : task.status with
    | pending | active | completed =>
      simp [countTask, status]
      omega
    | failed =>
      cases waived : isWaivedFailedTask task refs dimensions with
      | true => simp [countTask, status, waived]
      | false =>
        simp [countTask, status, waived]
        omega

theorem isWaivedFailedTask_of_failed {task : Task} (failed : task.status = .failed)
    (refs : List (String × String)) (dimensions : List String) :
    isWaivedFailedTask task refs dimensions = (task.isIgnoredForObjectivePhase ||
        task.isSupersededByCompletedPeer refs dimensions) := by
  unfold isWaivedFailedTask Task.isIgnoredForObjectivePhase Task.isSupersededByCompletedPeer
  cases task.isIgnoredObsolete with
  | true => rfl
  | false =>
    by_cases untyped : task.externalRef.1 = ""
    · simp [failed, untyped]
    · simp [failed, untyped]

structure ReviewReady (linked : List Task) : Prop where
  noneActive : ∀ task ∈ linked, task.status ≠ .active
  nonePending : ∀ task ∈ linked, task.status ≠ .pending
  failedWaived : ∀ task ∈ linked, task.status = .failed → task ∉ effectiveTasks linked
  someCompleted : ∃ task ∈ linked, task.status = .completed

theorem not_mem_effectiveTasks_iff {task : Task} (member : task ∈ linked) :
    task ∉ effectiveTasks linked ↔ (task.isIgnoredForObjectivePhase ||
        task.isSupersededByCompletedPeer (completedExternalRefs linked)
          (completedReviewDimensions linked)) = true := by
  rw [effectiveTasks, mem_filter]
  simp only [member, true_and, Bool.not_eq_true', Bool.not_eq_false]

theorem reviewChecks_ready_iff :
    (reviewChecks linked).all GateCheck.ok = true ↔ ReviewReady linked := by
  have counts : countTasks linked = _ := foldl_countTask
    (completedExternalRefs linked) (completedReviewDimensions linked) linked {}
  have nonempty : (∃ task ∈ linked, task.status = .completed) → linked ≠ [] := by
    rintro ⟨task, member, _⟩ rfl
    exact absurd member not_mem_nil
  simp only [reviewChecks, counts, GateCheck.of, all_cons, all_nil,
    Bool.and_true, Bool.and_eq_true, decide_eq_true_eq, Nat.zero_add,
    Bool.not_eq_true', isEmpty_eq_false_iff, countP_eq_zero,
    countP_pos_iff]
  constructor
  · rintro ⟨_, active, pending, failed, completed⟩
    refine ⟨active, pending, fun task member isFailed => ?_, completed⟩
    rw [not_mem_effectiveTasks_iff member, ← isWaivedFailedTask_of_failed isFailed]
    simpa [isFailed] using failed task member
  · intro ready
    refine ⟨nonempty ready.someCompleted, ready.noneActive,
      ready.nonePending, fun task member => ?_, ready.someCompleted⟩
    rintro ⟨isFailed, unwaived⟩
    have waived := (not_mem_effectiveTasks_iff member).mp (ready.failedWaived task member isFailed)
    rw [← isWaivedFailedTask_of_failed isFailed, unwaived] at waived
    cases waived

/-- Some pending or active task is left out of the derivation, and all the
tasks that count, of which there are some, are completed. -/
def HidesOpenWork (linked : List Task) : Prop :=
  effectiveTasks linked ≠ [] ∧ (∀ task ∈ effectiveTasks linked, task.status = .completed) ∧
      ∃ task ∈ linked, task.status = .pending ∨ task.status = .active

instance (linked : List Task) : Decidable (HidesOpenWork linked) :=
  inferInstanceAs (Decidable (_ ∧ (∀ task ∈ _, _) ∧ ∃ task ∈ _, _))

theorem derivedPhase_of_ready (ready : ReviewReady linked) :
    derivedPhase linked = some .resolved := by
  rw [derivedPhase_eq_resolved_iff]
  obtain ⟨completed, member, _⟩ := ready.someCompleted
  refine ⟨List.ne_nil_of_mem member, ?_, ?_, fun task counted => ?_⟩
  · rintro ⟨task, deciding, active⟩
    exact ready.noneActive task (decidingTasks_subset deciding) active
  · rintro ⟨task, deciding, pending⟩
    exact ready.nonePending task (decidingTasks_subset deciding) pending
  · have linkedTask := (mem_filter.mp counted).1
    cases status : task.status with
    | pending => exact absurd status (ready.nonePending task linkedTask)
    | active => exact absurd status (ready.noneActive task linkedTask)
    | completed => rfl
    | failed => exact absurd counted (ready.failedWaived task linkedTask status)

theorem ready_of_derivedPhase (completed : ∃ task ∈ linked, task.status = .completed)
    (shown : ¬ HidesOpenWork linked)
    (resolved : derivedPhase linked = some .resolved) : ReviewReady linked := by
  obtain ⟨_, noActive, noPending, finished⟩ := derivedPhase_eq_resolved_iff.mp resolved
  have settled : ∀ task ∈ linked, task.status ≠ .pending ∧ task.status ≠ .active := by
    intro task member
    by_cases none_counts : effectiveTasks linked = []
    · have deciding : task ∈ decidingTasks linked := by
        unfold decidingTasks
        rwa [if_pos none_counts]
      exact ⟨fun pending => noPending ⟨task, deciding, pending⟩,
        fun active => noActive ⟨task, deciding, active⟩⟩
    · exact ⟨ fun pending => shown ⟨none_counts, finished, task, member, .inl pending⟩,
        fun active => shown ⟨none_counts, finished, task, member, .inr active⟩⟩
  refine ⟨fun task member => (settled task member).2, fun task member => (settled task member).1,
    fun task _ failed counted => ?_, completed⟩
  cases failed.symm.trans (finished task counted)

theorem resolved_not_ready_of_hidesOpenWork (hides : HidesOpenWork linked) :
    derivedPhase linked = some .resolved ∧ ¬ ReviewReady linked := by
  obtain ⟨some_counts, finished, task, member, open_⟩ := hides
  have deciding : decidingTasks linked = effectiveTasks linked := if_neg some_counts
  constructor
  · rw [derivedPhase_eq_resolved_iff]
    refine ⟨List.ne_nil_of_mem member, ?_, ?_, finished⟩
    · rintro ⟨other, counted, active⟩
      rw [deciding] at counted
      cases active.symm.trans (finished other counted)
    · rintro ⟨other, counted, pending⟩
      rw [deciding] at counted
      cases pending.symm.trans (finished other counted)
  · intro ready
    rcases open_ with pending | active
    · exact ready.nonePending task member pending
    · exact ready.noneActive task member active

theorem derivedPhase_ready_iff (completed : ∃ task ∈ linked, task.status = .completed) :
    (derivedPhase linked = some .resolved ↔ ReviewReady linked) ↔ ¬ HidesOpenWork linked := by
  constructor
  · intro agree hides
    obtain ⟨resolved, unready⟩ := resolved_not_ready_of_hidesOpenWork hides
    exact unready (agree.mp resolved)
  · intro shown
    exact ⟨ready_of_derivedPhase completed shown, derivedPhase_of_ready⟩

theorem reviewReady_congr {others : List Task} (same : ∀ task, task ∈ linked ↔ task ∈ others) :
    ReviewReady linked ↔ ReviewReady others := by
  have counted := mem_effectiveTasks_congr same
  constructor
  · rintro ⟨active, pending, failed, completed⟩
    simp only [same, counted] at active pending failed completed
    exact ⟨active, pending, failed, completed⟩
  · rintro ⟨active, pending, failed, completed⟩
    simp only [← same, ← counted] at active pending failed completed
    exact ⟨active, pending, failed, completed⟩

end

/-! ## Reconciliation -/

section

variable {store : Store} {objective : Objective}

theorem mem_linkedTasks_iff (found : store.getObjective objective.id = some objective)
    (inProject : ∀ task ∈ store.linkedRows objective.id,
      task.projectId = objective.projectId) (task : Task) :
    task ∈ linkedTasks store objective.id ↔ task ∈ store.linkedRows objective.id := by
  unfold linkedTasks
  rw [found]
  rw [mem_filter, Store.listTasks, mem_orderBy, mem_filter]
  constructor
  · rintro ⟨⟨member, _⟩, owned⟩
    exact mem_filter.mpr ⟨member, owned⟩
  · intro member
    obtain ⟨stored, owned⟩ := mem_filter.mp member
    refine ⟨⟨stored, ?_⟩, owned⟩
    simp [inProject task member]

theorem objectiveStatus_updateObjectiveStatus
    (found : store.getObjective objective.id = some objective)
    (status : ObjectiveStatus) :
    (store.updateObjectiveStatus objective.id status).objectiveStatus
      objective.id = some status := by
  unfold Store.objectiveStatus Store.updateObjectiveStatus
  rw [KeyedTable.lookup_updateAt]
  unfold Store.getObjective at found
  cases stored : store.objectives.lookup objective.id with
  | none =>
    rw [stored] at found
    cases found
  | some _ => simp

theorem reconcileObjective_spec (found : store.getObjective objective.id = some objective)
    (someLinked : linkedTasks store objective.id ≠ [])
    {phase : ObjectiveStatus}
    (derived : derivedPhase (store.linkedRows objective.id) = some phase)
    (request : ReconcileRequest) :
    let report := (reconcileObjective store objective.id request).2
    report.objectiveStatus = some phase ∧
      report.reviewReady = some
        ((reviewChecks (linkedTasks store objective.id)).all GateCheck.ok) := by
  have given : ¬ (linkedTasks store objective.id).isEmpty = true := by
    simpa [List.isEmpty_iff] using someLinked
  have updated : store.updateObjectivePhase objective.id =
      (store.updateObjectiveStatus objective.id phase, some phase) := by
    unfold Store.updateObjectivePhase
    rw [derived]
  have status := objectiveStatus_updateObjectiveStatus found phase
  unfold reconcileObjective
  rw [found]
  dsimp only
  rw [if_neg given, updated]
  constructor
  · rw [status]
    rfl
  · unfold reviewReadiness
    rw [if_neg given]

end

/-- The derived status is RESOLVED exactly when the review is ready, and a
reconciled objective that is RESOLVED may be reviewed, exactly when the tasks
hide no open work. -/
theorem review_agrees_iff (linked : List Task)
    (completed : ∃ task ∈ linked, task.status = .completed)
    (store : Store) (objective : Objective)
    (found : store.getObjective objective.id = some objective)
    (linkedRows : store.linkedRows objective.id = linked)
    (inProject : ∀ task ∈ linked, task.projectId = objective.projectId) :
    (((store.updateObjectivePhase objective.id).2 = some .resolved ↔
        (reviewReadiness store objective.id linked).ready = true) ↔
      ¬ HidesOpenWork linked) ∧
    ∀ request : ReconcileRequest,
      let report := (reconcileObjective store objective.id request).2
      (report.objectiveStatus = some .resolved →
          report.reviewReady = some true) ↔ ¬ HidesOpenWork linked := by
  subst linkedRows
  have same := mem_linkedTasks_iff found inProject
  obtain ⟨task, member, finished⟩ := completed
  have given : ¬ (store.linkedRows objective.id).isEmpty = true := by
    simpa [List.isEmpty_iff] using List.ne_nil_of_mem member
  have someLinked : linkedTasks store objective.id ≠ [] :=
    List.ne_nil_of_mem ((same task).mpr member)
  have agrees := derivedPhase_ready_iff ⟨task, member, finished⟩
  constructor
  · have returned : (store.updateObjectivePhase objective.id).2 =
        derivedPhase (store.linkedRows objective.id) := by
      unfold Store.updateObjectivePhase
      cases derivedPhase (store.linkedRows objective.id) with
      | none => rfl
      | some _ => rfl
    have ready : (reviewReadiness store objective.id (store.linkedRows objective.id)).ready = true ↔
          ReviewReady (store.linkedRows objective.id) := by
      unfold reviewReadiness
      dsimp only
      rw [if_neg given]
      exact reviewChecks_ready_iff
    rw [returned, ready]
    exact agrees
  · intro request
    cases derived : derivedPhase (store.linkedRows objective.id) with
    | none =>
      have empty := derivedPhase_eq_none_iff.mp derived
      exact absurd empty (List.ne_nil_of_mem member)
    | some _ =>
      obtain ⟨status, review⟩ := reconcileObjective_spec found someLinked derived request
      dsimp only
      rw [status, review, Option.some.injEq, Option.some.injEq,
        reviewChecks_ready_iff, reviewReady_congr same, ← agrees, derived,
        Option.some.injEq]
      constructor
      · intro reviewable
        refine ⟨reviewable, fun ready => ?_⟩
        have resolved := derivedPhase_of_ready ready
        rw [derived] at resolved
        exact Option.some.inj resolved
      · exact fun agree => agree.mp

def finishedTask : Task :=
  { id := "finished", projectId := "project", objectiveId := some "objective"
    status := .completed }

def waivedTask : Task :=
  { id := "waived", projectId := "project", objectiveId := some "objective"
    externalRefMetadata := [("failed_task_disposition", .dict [("kind", .str "waive_obsolete")])]
    status := .failed }

def obsoleteTask : Task :=
  { id := "obsolete", projectId := "project", objectiveId := some "objective"
    externalRefMetadata :=
      [("workflow_state_disposition", .dict [("kind", .str "ignore_obsolete")])]
    status := .pending }

def executedObjective : Objective :=
  { id := "objective", projectId := "project", status := .executing }

def waivedStore : Store where
  objectives := .single executedObjective
  tasks := ⟨[finishedTask, waivedTask], by decide⟩

def obsoleteStore : Store where
  objectives := .single executedObjective
  tasks := ⟨[finishedTask, obsoleteTask], by decide⟩

theorem waived_review_agrees :
    (waivedStore.updateObjectivePhase "objective").2 = some .resolved ↔
      (reviewReadiness waivedStore "objective" [finishedTask, waivedTask]).ready = true :=
  (review_agrees_iff [finishedTask, waivedTask] (by decide) waivedStore
    executedObjective rfl rfl (by decide)).1.mpr (by decide +kernel)

/-- A pending task that is marked as obsolete does not keep its objective from
being resolved, but it keeps the review from starting. -/
theorem obsolete_review_disagrees :
    (¬ ∀ (linked : List Task) (store : Store) (objectiveId : String),
      (∃ task ∈ linked, task.status = .completed) → store.linkedRows objectiveId = linked →
          ((store.updateObjectivePhase objectiveId).2 = some .resolved ↔
            (reviewReadiness store objectiveId linked).ready = true)) ∧
      (reconcileObjective obsoleteStore "objective" {}).2 =
        { objectiveId := "objective", changed := true, actions := ["phase:executing->resolved"]
          objectiveStatus := some .resolved, planningReady := some false
          reviewReady := some false } := by
  constructor
  · intro claim
    have agree := claim [finishedTask, obsoleteTask] obsoleteStore "objective" (by decide) rfl
    have resolved : (obsoleteStore.updateObjectivePhase "objective").2 = some .resolved := by
      decide +kernel
    have refused : (reviewReadiness obsoleteStore "objective"
        [finishedTask, obsoleteTask]).ready = false := by
      decide +kernel
    rw [agree.mp resolved] at refused
    cases refused
  · decide +kernel

end WorkflowService

end AccruviaHarness
