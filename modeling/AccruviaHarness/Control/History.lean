import AccruviaHarness.Control.Effects
import AccruviaHarness.Library.Frames
import AccruviaHarness.Library.WeightedTables
import Mathlib.Algebra.Order.BigOperators.Group.List
import Mathlib.Algebra.Order.Ring.Int

/-!
# What control calls never take back

A control call writes control tables and leases only. It appends to the event
log and it counts usage up, so what an earlier call has recorded stays on
record.
-/

namespace AccruviaHarness

open Library List

namespace ControlBudget

def usageFrom (cutoff : Int) (budgetScope budgetKey : String) (budget : ControlBudget) : Int :=
  if budget.budgetScope = budgetScope && budget.budgetKey = budgetKey &&
      cutoff ≤ budget.windowEnd then budget.usageCount
  else 0

end ControlBudget

namespace ControlTables

variable (control : ControlTables)

def usageFrom (cutoff : Int) (budgetScope budgetKey : String) : Int :=
  totalWeight (ControlBudget.usageFrom cutoff budgetScope budgetKey) control.budgets

variable (now : Int) (budgetScope budgetKey : String)

theorem recentUsage_eq_usageFrom :
    control.recentUsage now budgetScope budgetKey =
      control.usageFrom (now - expensiveCodingRunWindow) budgetScope
        budgetKey := by
  unfold recentUsage usageFrom
  exact totalWeight_filter _ _ _

variable (budget : ControlBudget)

def isCurrentBudget : Bool :=
  budget.budgetScope = budgetScope && budget.budgetKey = budgetKey &&
    budget.windowEnd = now

def usedOnce : ControlBudget :=
  if isCurrentBudget now budgetScope budgetKey budget then
    { budget with usageCount := budget.usageCount + 1 }
  else budget

theorem recordBudgetUsage_budgets :
    (control.recordBudgetUsage now budgetScope budgetKey).budgets =
      if control.budgets.any (isCurrentBudget now budgetScope budgetKey) then
        control.budgets.map (usedOnce now budgetScope budgetKey)
      else
        control.budgets ++ [{ budgetScope, budgetKey, windowEnd := now, usageCount := 1 }] := by
  unfold recordBudgetUsage
  change ControlTables.budgets (if control.budgets.any
    (isCurrentBudget now budgetScope budgetKey) = true then _ else _) = _
  split
  · rfl
  · rfl

theorem usageFrom_le_usedOnce
    (now cutoff : Int) (budgetScope budgetKey otherScope otherKey : String)
    (budget : ControlBudget) :
    budget.usageFrom cutoff otherScope otherKey ≤
      (usedOnce now budgetScope budgetKey budget).usageFrom cutoff otherScope
        otherKey := by
  unfold usedOnce
  split
  · unfold ControlBudget.usageFrom
    split
    · exact Int.le_add_of_nonneg_right Int.one_nonneg
    · exact le_refl 0
  · exact le_refl _

theorem usageFrom_usedOnce_of_current {now cutoff : Int} {budgetScope budgetKey : String}
    {budget : ControlBudget} (passed : cutoff ≤ now)
    (current : isCurrentBudget now budgetScope budgetKey budget = true) :
    (usedOnce now budgetScope budgetKey budget).usageFrom cutoff budgetScope
        budgetKey = budget.usageFrom cutoff budgetScope budgetKey + 1 := by
  unfold usedOnce
  rw [if_pos current]
  unfold isCurrentBudget at current
  simp only [Bool.and_eq_true, decide_eq_true_eq] at current
  obtain ⟨⟨rfl, rfl⟩, rfl⟩ := current
  simp [ControlBudget.usageFrom, passed]

theorem usageFrom_le_recordBudgetUsage (now cutoff : Int)
    (budgetScope budgetKey otherScope otherKey : String) :
    control.usageFrom cutoff otherScope otherKey ≤
      (control.recordBudgetUsage now budgetScope budgetKey).usageFrom cutoff
        otherScope otherKey := by
  unfold usageFrom
  rw [recordBudgetUsage_budgets]
  split
  · unfold totalWeight
    rw [map_map]
    exact sum_le_sum fun budget _ =>
      usageFrom_le_usedOnce now cutoff _ _ otherScope otherKey budget
  · rw [totalWeight_append, totalWeight_cons, totalWeight_nil, add_zero]
    refine Int.le_add_of_nonneg_right ?_
    unfold ControlBudget.usageFrom
    split
    · exact Int.one_nonneg
    · exact le_refl 0

theorem usageFrom_lt_recordBudgetUsage {now cutoff : Int} (passed : cutoff ≤ now)
    (budgetScope budgetKey : String) :
    control.usageFrom cutoff budgetScope budgetKey + 1 ≤
      (control.recordBudgetUsage now budgetScope budgetKey).usageFrom cutoff
        budgetScope budgetKey := by
  unfold usageFrom
  rw [recordBudgetUsage_budgets]
  split
  next found =>
    obtain ⟨_, member, current⟩ := any_eq_true.mp found
    obtain ⟨front, back, split⟩ := append_of_mem member
    have kept : ∀ budgets : List ControlBudget,
        totalWeight (ControlBudget.usageFrom cutoff budgetScope budgetKey) budgets ≤
          totalWeight (ControlBudget.usageFrom cutoff budgetScope budgetKey)
            (budgets.map (usedOnce now budgetScope budgetKey)) := by
      intro budgets
      unfold totalWeight
      rw [map_map]
      exact sum_le_sum fun other _ =>
        usageFrom_le_usedOnce now cutoff _ _ budgetScope budgetKey other
    have keptFront := kept front
    have keptBack := kept back
    have used := usageFrom_usedOnce_of_current passed current
    rw [split, map_append, map_cons]
    simp only [totalWeight_append, totalWeight_cons]
    omega
  · simp [ControlBudget.usageFrom, passed]

structure Extends (control next : ControlTables) : Prop where
  events : control.events <+: next.events
  usage : ∀ cutoff budgetScope budgetKey, control.usageFrom cutoff budgetScope budgetKey ≤
      next.usageFrom cutoff budgetScope budgetKey

namespace Extends

variable {control middle next : ControlTables}

theorem trans (first : control.Extends middle) (second : middle.Extends next) :
    control.Extends next where
  events := first.events.trans second.events
  usage cutoff budgetScope budgetKey :=
    (first.usage cutoff budgetScope budgetKey).trans (second.usage cutoff budgetScope budgetKey)

theorem of_sameBudgets (events : control.events <+: next.events)
    (budgets : next.budgets = control.budgets) : control.Extends next where
  events
  usage cutoff budgetScope budgetKey := by
    unfold usageFrom
    rw [budgets]

theorem refl (control : ControlTables) : control.Extends control :=
  of_sameBudgets prefix_rfl rfl

theorem recordBudgetUsage (control : ControlTables) (now : Int) (budgetScope budgetKey : String) :
    control.Extends (control.recordBudgetUsage now budgetScope budgetKey) where
  events := by
    unfold ControlTables.recordBudgetUsage
    dsimp only
    split <;> exact prefix_rfl
  usage cutoff otherScope otherKey :=
    usageFrom_le_recordBudgetUsage control now cutoff _ _ otherScope otherKey

end Extends

theorem reconcileSystemState_extends (control : ControlTables) :
    control.Extends control.reconcileSystemState := by
  unfold reconcileSystemState
  dsimp only
  split
  · exact .refl control
  · split
    · exact .refl control
    · exact .of_sameBudgets prefix_rfl rfl

theorem settled_extends (control : ControlTables) (now : Int) :
    control.Extends (control.expireCooldowns now).reconcileSystemState := by
  have expired : control.Extends (control.expireCooldowns now) :=
    .of_sameBudgets (prefix_append _ _) rfl
  exact expired.trans (reconcileSystemState_extends _)

end ControlTables

structure ControlWrites (before after : Store) : Prop where
  onlyControl : ∃ control taskLeases,
    after = { before with control, taskLeases }
  extended : before.control.Extends after.control

namespace ControlWrites

variable {before middle after : Store} (store : Store)

theorem refl : ControlWrites store store where
  onlyControl := ⟨store.control, store.taskLeases, rfl⟩
  extended := .refl store.control

theorem trans (first : ControlWrites before middle)
    (second : ControlWrites middle after) : ControlWrites before after where
  onlyControl := by
    obtain ⟨_, _, rfl⟩ := first.onlyControl
    obtain ⟨laterControl, laterLeases, rfl⟩ := second.onlyControl
    exact ⟨laterControl, laterLeases, rfl⟩
  extended := first.extended.trans second.extended

theorem onControl {change : ControlTables → ControlTables}
    (extended : store.control.Extends (change store.control)) :
    ControlWrites store (ControlPlane.onControl store change) where
  onlyControl := ⟨change store.control, store.taskLeases, rfl⟩
  extended := extended

theorem writeSystem (systemState : ControlSystemState)
    (lanes : Option (ControlLaneStateValue × String)) :
    ControlWrites store (ControlPlane.writeSystem store systemState lanes) :=
  onControl store (.of_sameBudgets prefix_rfl rfl)

theorem writeLane (laneName : String) (state : ControlLaneStateValue)
    (reason : String) (cooldownUntil : Option Int) :
    ControlWrites store (ControlPlane.writeLane store laneName state reason cooldownUntil) :=
  onControl store (.of_sameBudgets prefix_rfl rfl)

variable (now : Int)

theorem recordEvent (eventType entityType entityId : String) (payload : PyDict) :
    ControlWrites store (ControlPlane.recordEvent store now eventType entityType entityId
        payload) :=
  onControl store (.of_sameBudgets (prefix_append _ _) rfl)

theorem status :
    ControlWrites store (ControlPlane.status store now).1 where
  onlyControl := ⟨_, _, rfl⟩
  extended := store.control.settled_extends now

variable (reason : String)

theorem syncGlobalState :
    ControlWrites store (ControlPlane.syncGlobalState store now reason).1 := by
  have settled : ControlWrites store
      (ControlPlane.onControl store fun control =>
        (control.expireCooldowns now).reconcileSystemState) :=
    onControl store (store.control.settled_extends now)
  unfold ControlPlane.syncGlobalState
  dsimp only
  split
  · refine (settled.trans ?_).trans (status _ now)
    exact writeSystem _ _ none
  · exact settled.trans (status _ now)

theorem recordHumanEscalation (payload : PyDict) :
    ControlWrites store (ControlPlane.recordHumanEscalation store now reason payload).1 :=
  (recordEvent store now _ _ _ _).trans (status _ now)

theorem settledEvent {store written : Store} (write : ControlWrites store written) (now : Int)
    (eventType entityType entityId : String) (payload : PyDict)
    (reason : String) :
    ControlWrites store (ControlPlane.syncGlobalState
        (ControlPlane.recordEvent written now eventType entityType entityId
          payload) now reason).1 :=
  (write.trans (recordEvent written now _ _ _ _)).trans (syncGlobalState _ now reason)

theorem markDegraded : ControlWrites store (ControlPlane.markDegraded store now reason).1 := by
  unfold ControlPlane.markDegraded
  dsimp only
  split
  · exact status store now
  · exact settledEvent (writeSystem store _ _) now _ _ _ _ reason

theorem markHealthy : ControlWrites store (ControlPlane.markHealthy store now reason).1 := by
  unfold ControlPlane.markHealthy
  dsimp only
  split
  · exact status store now
  · exact settledEvent (refl store) now _ _ _ _ reason

theorem pauseLane (laneName reason : String) :
    ControlWrites store (ControlPlane.pauseLane store now laneName reason).1 := by
  unfold ControlPlane.pauseLane
  split
  · exact settledEvent (writeLane store _ _ _ _) now _ _ _ _ reason
  · exact refl store

theorem resumeLane (laneName reason : String) :
    ControlWrites store (ControlPlane.resumeLane store now laneName reason).1 := by
  unfold ControlPlane.resumeLane
  split
  · exact refl store
  · split
    · exact settledEvent (writeLane store _ _ _ _) now _ _ _ _ reason
    · exact refl store

theorem enterCooldown (laneName reason : String) (seconds : Int) :
    ControlWrites store (ControlPlane.enterCooldown store now laneName reason seconds).1 := by
  unfold ControlPlane.enterCooldown
  split
  · exact settledEvent (writeLane store _ _ _ _) now _ _ _ _ reason
  · exact refl store

section

open ControlRuntimeObserver

theorem setWorkerLane (store : Store) (state : ControlLaneStateValue) (reason : String) :
    ControlWrites store (setWorkerLane store state reason) :=
  writeLane store _ _ _ _

theorem applyClassificationPolicy (store : Store) (now : Int) (classified : FailureClassification) :
    ControlWrites store (applyClassificationPolicy store now classified).1 := by
  unfold ControlRuntimeObserver.applyClassificationPolicy
  dsimp only
  split
  · exact enterCooldown store now _ _ _
  · split
    · have paused := pauseLane store now "worker" classified.classification
      split
      next next_ error outcome =>
        rw [outcome] at paused
        exact paused
      next next_ report outcome =>
        rw [outcome] at paused
        exact paused.trans (recordHumanEscalation _ now _ _)
    · split
      · exact setWorkerLane store _ _
      · split
        · exact (setWorkerLane store _ _).trans (markDegraded _ now _)
        · exact setWorkerLane store _ _

theorem recordFailure (store : Store) (now : Int) (runId taskId runStatus : String)
    (taskStatus : PyValue) (classified : FailureClassification)
    (bundleDir : String) :
    ControlWrites store (recordFailure store now runId taskId runStatus taskStatus classified
        bundleDir).1 := by
  have stored : ControlWrites store (storeFailure store now runId taskId runStatus taskStatus
        classified.classification bundleDir) := by
    refine ControlWrites.trans ?_ (recordEvent _ now _ _ _ _)
    exact onControl store (.of_sameBudgets prefix_rfl rfl)
  unfold ControlRuntimeObserver.recordFailure
  dsimp only
  have applied := applyClassificationPolicy
    (storeFailure store now runId taskId runStatus taskStatus
      classified.classification bundleDir) now classified
  split
  next left error outcome =>
    rw [outcome] at applied
    exact stored.trans applied
  next left outcome =>
    rw [outcome] at applied
    split
    · exact (stored.trans applied).trans (recordHumanEscalation _ now _ _)
    · exact stored.trans applied

theorem spendObjectiveBudget (store : Store) (now : Int) (objectiveId : String) :
    ControlWrites store (spendObjectiveBudget store now objectiveId) := by
  have recorded : ControlWrites store
      (ControlPlane.onControl store fun control =>
        control.recordBudgetUsage now "objective" objectiveId) :=
    onControl store (.recordBudgetUsage _ now _ _)
  unfold ControlRuntimeObserver.spendObjectiveBudget
  dsimp only
  split
  · exact recorded.trans (recordHumanEscalation _ now _ _)
  · exact recorded

theorem handleRunCreated (store : Store) (now : Int) (runId taskId : String) (attempt : Int) :
    ControlWrites store (handleRunCreated store now runId taskId attempt) := by
  have upserted : ∀ workerRun, ControlWrites store
      (ControlPlane.onControl store fun control =>
        control.upsertWorkerRun workerRun) :=
    fun _ => onControl store (.of_sameBudgets prefix_rfl rfl)
  unfold ControlRuntimeObserver.handleRunCreated
  dsimp only
  split
  · refine (upserted _).trans (onControl _ ?_)
    exact .recordBudgetUsage _ now _ _
  · exact (upserted _).trans (spendObjectiveBudget _ now _)

theorem enforceNoProgress (store : Store) (now : Int) (completedTask : Option Task) :
    ControlWrites store (enforceNoProgress store now completedTask) := by
  unfold ControlRuntimeObserver.enforceNoProgress
  split
  · exact refl store
  · split
    · exact refl store
    · split_ifs
      · exact refl store
      · exact recordHumanEscalation store now _ _
      · exact refl store

theorem handleTaskFinished (store : Store) (now : Int) (runId runStatus taskId status : String) :
    ControlWrites store (handleTaskFinished store now runId runStatus taskId status) := by
  have finished : ControlWrites store
      (ControlPlane.onControl store fun control =>
        finishWorkerRun control now runId runStatus) := by
    refine onControl store ?_
    unfold finishWorkerRun
    split
    · exact .refl _
    · exact .of_sameBudgets prefix_rfl rfl
  unfold ControlRuntimeObserver.handleTaskFinished
  dsimp only
  split
  · exact (finished.trans (markHealthy _ now _)).trans (enforceNoProgress _ now _)
  · exact finished

theorem handle (store : Store) (now : Int) (event : ObserverEvent) :
    ControlWrites store (handle store now event).1 := by
  cases event with
  | taskStarted => exact setWorkerLane store _ _
  | runCreated runId taskId attempt => exact handleRunCreated store now runId taskId attempt
  | taskFinished runId runStatus taskId status =>
    exact handleTaskFinished store now runId runStatus taskId status
  | failureDiagnostic runId taskId runStatus taskStatus classified bundleDir =>
    exact recordFailure store now runId taskId runStatus taskStatus classified bundleDir
  | backendsUnavailable classified => exact applyClassificationPolicy store now classified
  | other _ => exact refl store

end

theorem perform (store : Store) (call : ControlCall) :
    ControlWrites store (performControl store call) := by
  obtain ⟨now, operation⟩ := call
  cases operation with
  | turnOn => exact settledEvent (writeSystem store _ _) now _ _ _ _ "system_on"
  | turnOff =>
    exact ((writeSystem store _ _).trans (recordEvent _ now _ _ _ _)).trans (status _ now)
  | freeze _ =>
    exact ((writeSystem store _ _).trans (recordEvent _ now _ _ _ _)).trans (status _ now)
  | thaw => exact settledEvent (writeSystem store _ _) now _ _ _ _ "thawed"
  | markDegraded reason => exact markDegraded store now reason
  | markHealthy reason => exact markHealthy store now reason
  | pauseLane laneName reason => exact pauseLane store now laneName reason
  | resumeLane laneName reason => exact resumeLane store now laneName reason
  | enterCooldown laneName reason seconds => exact enterCooldown store now laneName reason seconds
  | status => exact status store now
  | observe event => exact handle store now event

end ControlWrites

end AccruviaHarness
