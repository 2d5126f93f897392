import AccruviaHarness.Control.Runtime

/-!
# What a control call writes

Every call writes the row of the system state and one and the same change to
each lane row, and then settles the tables or not.
-/

namespace AccruviaHarness

open Library List

/-- The write of a call: the system state, the change of a lane row, and
whether the call settles the tables afterwards. -/
structure ControlEffect where
  systemState : ControlSystemState
  lane : RowUpdate ControlLaneState.laneName
  settles : Bool

namespace ControlEffect

def unchanged : RowUpdate ControlLaneState.laneName := ⟨id, fun _ => rfl⟩

def written (effect : ControlEffect) (control : ControlTables) :
    ControlTables :=
  { control with
    systemState := effect.systemState, laneStates := control.laneStates.modify effect.lane }

/-- The tables `next` are what the effect makes of the tables `control`. -/
structure Follows (effect : ControlEffect) (now : Int)
    (control next : ControlTables) : Prop where
  settled : effect.settles = true → Settled now (effect.written control) next
  raw : effect.settles = false →
    next.systemState = effect.systemState ∧
      next.laneStates.rows = control.laneStates.rows.map effect.lane.apply

end ControlEffect

namespace FailureClassification

variable (classified : FailureClassification)

def entersCooldown : Bool :=
  (classified.classification = "provider_rate_limit" ||
    classified.classification = "provider_outage") && 0 < classified.cooldownSeconds

def keepsRunning : Bool := !ControlRuntimeObserver.infraFailures.contains classified.classification

end FailureClassification

namespace ControlPlane

/-- What `pause_lane` writes. A missing lane is refused. -/
def pauseEffect (store : Store) (laneName reason : String) : ControlEffect where
  systemState := store.control.systemState
  lane := (ControlLaneState.write .paused reason none).at laneName
  settles := hasLane store laneName

/-- What `enter_cooldown` writes. A missing lane is refused. -/
def cooldownEffect (store : Store) (now : Int) (laneName reason : String)
    (seconds : Int) : ControlEffect where
  systemState := store.control.systemState
  lane := (ControlLaneState.write .cooldown reason
    (some (now + secondsSpan (max seconds 0)))).at laneName
  settles := hasLane store laneName

/-- The state that `mark_degraded` writes. -/
def degradedState (current : ControlSystemState) (reason : String) :
    ControlSystemState :=
  if current.globalState = .frozen then current
  else
    { current with
      globalState := .degraded, freezeReason := some reason }

end ControlPlane

namespace ControlRuntimeObserver

open ControlPlane

variable (store : Store) (now : Int)

def classifiedEffect (classified : FailureClassification) : ControlEffect :=
  let classification := classified.classification
  if classified.entersCooldown then
    cooldownEffect store now "worker" classification classified.cooldownSeconds
  else if classification = "credit_exhaustion" then pauseEffect store "worker" classification
  else if classified.keepsRunning then
    { systemState := store.control.systemState
      lane := (ControlLaneState.write .running classification none).at "worker"
      settles := false }
  else
    { systemState := degradedState store.control.systemState classification
      lane := (ControlLaneState.write .paused classification none).at "worker", settles := true }

/-- The second `unknown` among the latest worker runs is escalated. -/
def repeatsUnknown (runId taskId runStatus : String) (classification bundleDir : String) :
    Bool :=
  classification = "unknown" && 2 ≤ recentClassificationCount (store.control.upsertWorkerRun
        (failedWorkerRun store.control now runId taskId runStatus
          classification bundleDir)) "unknown"

def exceedsBudget (taskId : String) : Bool :=
  match (store.getTask taskId).bind Task.objective? with
  | none => false
  | some objectiveId =>
    (store.control.recordBudgetUsage now "objective"
      objectiveId).budgetExhausted now "objective" objectiveId

def eventEffect : ObserverEvent → ControlEffect
  | .taskStarted =>
    { systemState := store.control.systemState
      lane := (ControlLaneState.write .running "task_started" none).at "worker"
      settles := false }
  | .runCreated _ taskId _ =>
    { systemState := store.control.systemState, lane := ControlEffect.unchanged
      settles := exceedsBudget store now taskId }
  | .taskFinished _ _ _ status =>
    { systemState := store.control.systemState, lane := ControlEffect.unchanged
      settles := status = "completed" }
  | .failureDiagnostic runId taskId runStatus _ classified bundleDir =>
    let effect := classifiedEffect store now classified
    { effect with
      settles := effect.settles ||
        repeatsUnknown store now runId taskId runStatus classified.classification bundleDir }
  | .backendsUnavailable classified => classifiedEffect store now classified
  | .other _ =>
    { systemState := store.control.systemState, lane := ControlEffect.unchanged
      settles := false }

end ControlRuntimeObserver

open ControlPlane ControlRuntimeObserver in
def effectOf (store : Store) (now : Int) : ControlOperation → ControlEffect
  | .turnOn =>
    { systemState :=
        { globalState := .starting, masterSwitch := true, freezeReason := none }
      lane := ControlLaneState.writeEnabled .running "system_on", settles := true }
  | .turnOff =>
    { systemState :=
        { globalState := .off, masterSwitch := false, freezeReason := none }
      lane := ControlLaneState.writeEnabled .paused "system_off", settles := true }
  | .freeze reason =>
    { systemState :=
        { store.control.systemState with
          globalState := .frozen, freezeReason := some reason }
      lane := ControlLaneState.writeEnabled .paused "frozen", settles := true }
  | .thaw =>
    let current := store.control.systemState
    { systemState :=
        { current with
          globalState := if current.masterSwitch then .starting else .off
          freezeReason := none }
      lane :=
        if current.masterSwitch then ControlLaneState.writeEnabled .running "thawed"
        else ControlEffect.unchanged
      settles := true }
  | .markDegraded reason =>
    { systemState := degradedState store.control.systemState reason
      lane := ControlEffect.unchanged, settles := true }
  | .markHealthy _ | .status =>
    { systemState := store.control.systemState, lane := ControlEffect.unchanged, settles := true }
  | .pauseLane laneName reason => pauseEffect store laneName reason
  | .resumeLane laneName reason =>
    if store.control.systemState.globalState = .frozen then
      { systemState := store.control.systemState, lane := ControlEffect.unchanged
        settles := false }
    else
      { systemState := store.control.systemState
        lane := (ControlLaneState.write store.control.resumedState reason
          none).at laneName
        settles := hasLane store laneName }
  | .enterCooldown laneName reason seconds => cooldownEffect store now laneName reason seconds
  | .observe event => eventEffect store now event

namespace ControlEffect

variable {effect : ControlEffect} {now : Int} {control : ControlTables}

theorem Follows.of_settled {written next : ControlTables} (settles : effect.settles = true)
    (settled : Settled now written next)
    (systemState : written.systemState = effect.systemState)
    (lanes : written.laneStates.rows = control.laneStates.rows.map effect.lane.apply) :
    effect.Follows now control next := by
  refine ⟨fun _ => settled.congr systemState lanes, ?_⟩
  intro unsettled
  rw [settles] at unsettled
  cases unsettled

theorem Follows.of_raw {next : ControlTables} (settles : effect.settles = false)
    (systemState : next.systemState = effect.systemState)
    (lanes : next.laneStates.rows = control.laneStates.rows.map effect.lane.apply) :
    effect.Follows now control next := by
  refine ⟨?_, fun _ => ⟨systemState, lanes⟩⟩
  intro settled
  rw [settles] at settled
  cases settled

theorem Follows.status {store : Store} (follows : effect.Follows now control store.control) :
    ({ effect with settles := true } : ControlEffect).Follows now control
      (ControlPlane.status store now).1.control := by
  have settled := ControlPlane.settled_status store now
  refine ⟨?_, nofun⟩
  intro _
  by_cases before : effect.settles = true
  · exact (follows.settled before).trans settled
  · obtain ⟨systemState, lanes⟩ := follows.raw (Bool.not_eq_true _ |>.mp before)
    exact settled.congr systemState lanes

theorem Follows.congr {next other : ControlTables} (follows : effect.Follows now control next)
    (systemState : next.systemState = other.systemState)
    (lanes : next.laneStates = other.laneStates) :
    effect.Follows now control other := by
  refine ⟨?_, ?_⟩
  · intro settles
    have settled := follows.settled settles
    exact ⟨lanes ▸ settled.lanes, systemState ▸ settled.reconciled⟩
  · intro unsettled
    rw [← systemState, ← lanes]
    exact follows.raw unsettled

theorem Follows.of_sameLanes
    {earlier next : ControlTables} (follows : effect.Follows now control next)
    (lanes : control.laneStates = earlier.laneStates) :
    effect.Follows now earlier next := by
  refine ⟨?_, ?_⟩
  · intro settles
    refine (follows.settled settles).congr rfl ?_
    simp only [written, lanes]
  · intro unsettled
    rw [← lanes]
    exact follows.raw unsettled

end ControlEffect

namespace ControlPlane

variable (store : Store) (now : Int)

theorem not_hasLane_iff {laneName : String} :
    hasLane store laneName = false ↔ store.control.laneStates.lookup laneName = none := by
  simp [hasLane]

theorem lanes_of_missing {laneName : String} (missing : hasLane store laneName = false)
    (update : RowUpdate ControlLaneState.laneName) :
    store.control.laneStates.rows =
      store.control.laneStates.rows.map (update.at laneName).apply := by
  have other := (KeyedTable.lookup_eq_none_iff _).mp ((not_hasLane_iff store).mp missing)
  refine (map_id _).symm.trans (map_congr_left ?_)
  intro lane member
  exact (if_neg (other lane member)).symm

variable (laneName reason : String)

theorem pauseLane_follows :
    (pauseEffect store laneName reason).Follows now store.control
      (pauseLane store now laneName reason).1.control := by
  unfold pauseLane
  by_cases present : hasLane store laneName = true
  · rw [if_pos present]
    exact .of_settled present (settled_syncGlobalState _ now reason) rfl rfl
  · rw [if_neg present]
    have missing := Bool.not_eq_true _ |>.mp present
    exact .of_raw missing rfl (lanes_of_missing store missing _)

theorem enterCooldown_follows (seconds : Int) :
    (cooldownEffect store now laneName reason seconds).Follows now store.control
      (enterCooldown store now laneName reason seconds).1.control := by
  unfold enterCooldown
  by_cases present : hasLane store laneName = true
  · rw [if_pos present]
    exact .of_settled present (settled_syncGlobalState _ now reason) rfl rfl
  · rw [if_neg present]
    have missing := Bool.not_eq_true _ |>.mp present
    exact .of_raw missing rfl (lanes_of_missing store missing _)

theorem resumeLane_follows :
    (effectOf store now (.resumeLane laneName reason)).Follows now
      store.control (resumeLane store now laneName reason).1.control := by
  unfold resumeLane
  by_cases frozen : store.control.systemState.globalState = .frozen
  · simp only [effectOf, if_pos frozen]
    exact .of_raw rfl rfl (map_id _).symm
  · simp only [effectOf, if_neg frozen]
    by_cases present : hasLane store laneName = true
    · rw [if_pos present]
      exact .of_settled present (settled_syncGlobalState _ now reason) rfl
          rfl
    · rw [if_neg present]
      have missing := Bool.not_eq_true _ |>.mp present
      exact .of_raw missing rfl (lanes_of_missing store missing _)

theorem markDegraded_follows (reason : String) :
    (effectOf store now (.markDegraded reason)).Follows now
      store.control (markDegraded store now reason).1.control := by
  unfold markDegraded
  by_cases frozen : store.control.systemState.globalState = .frozen
  · simp only [effectOf, degradedState, if_pos frozen]
    exact .of_settled rfl (settled_status store now) rfl (map_id _).symm
  · simp only [effectOf, degradedState, if_neg frozen]
    exact .of_settled rfl (settled_syncGlobalState _ now reason) rfl (map_id _).symm

theorem markHealthy_follows (reason : String) :
    (effectOf store now (.markHealthy reason)).Follows now
      store.control (markHealthy store now reason).1.control := by
  unfold markHealthy
  dsimp only
  split
  · exact .of_settled rfl (settled_status store now) rfl (map_id _).symm
  · exact .of_settled rfl (settled_syncGlobalState _ now reason) rfl (map_id _).symm

theorem thaw_follows :
    (effectOf store now .thaw).Follows now store.control (thaw store now).1.control := by
  unfold thaw
  by_cases isOn : store.control.systemState.masterSwitch = true
  · simp only [effectOf, if_pos isOn]
    exact .of_settled rfl (settled_syncGlobalState _ now "thawed") rfl rfl
  · simp only [effectOf, if_neg isOn]
    exact .of_settled rfl (settled_syncGlobalState _ now "thawed") rfl (map_id _).symm

end ControlPlane

namespace FailureClassification

variable {classified : FailureClassification}

theorem entersCooldown_iff :
    classified.entersCooldown = true ↔ (classified.classification = "provider_rate_limit" ∨
          classified.classification = "provider_outage") ∧
        0 < classified.cooldownSeconds := by
  simp [entersCooldown]

theorem keepsRunning_iff :
    classified.keepsRunning = true ↔
      classified.classification ∉ ControlRuntimeObserver.infraFailures := by
  simp [keepsRunning]

theorem keepsRunning_of_taskFailure (listed : classified.classification ∈
      ControlRuntimeObserver.taskFailures) :
    classified.keepsRunning = true := by
  have disjoint : ∀ classification ∈ ControlRuntimeObserver.taskFailures,
      classification ∉ ControlRuntimeObserver.infraFailures := by
    decide
  exact keepsRunning_iff.mpr (disjoint _ listed)

end FailureClassification

namespace ControlRuntimeObserver

open ControlPlane

variable (store : Store) (now : Int) {control : ControlTables} {effect : ControlEffect}

theorem follows_escalation (follows : effect.Follows now control store.control)
    (reason : String) (payload : PyDict) :
    ({ effect with settles := true } : ControlEffect).Follows now control
      (recordHumanEscalation store now reason payload).1.control := by
  apply ControlEffect.Follows.status
  exact follows.congr rfl rfl

theorem pauseAndEscalate_follows (laneName reason : String) (payload : PyDict) :
    (pauseEffect store laneName reason).Follows now store.control
      (match pauseLane store now laneName reason with
        | (store, .error error) => (store, .error error)
        | (store, .ok _) =>
          ((recordHumanEscalation store now reason payload).1,
            .ok ()) : Store × Except PyError Unit).1.control := by
  have paused := pauseLane_follows store now laneName reason
  by_cases present : hasLane store laneName = true
  · have followed := follows_escalation _ now paused reason payload
    simp only [pauseLane, if_pos present] at followed ⊢
    simp only [pauseEffect, present]
    exact followed
  · simp only [pauseLane, if_neg present] at paused ⊢
    exact paused

theorem applyClassificationPolicy_follows (classified : FailureClassification) :
    (classifiedEffect store now classified).Follows now store.control
      (applyClassificationPolicy store now classified).1.control := by
  have enters := classified.entersCooldown_iff
  have keeps := classified.keepsRunning_iff
  unfold applyClassificationPolicy classifiedEffect
  by_cases limited : classified.entersCooldown = true
  · rw [if_pos limited, if_pos (enters.mp limited)]
    exact enterCooldown_follows store now "worker" _ _
  rw [if_neg limited, if_neg (mt enters.mpr limited)]
  by_cases credit : classified.classification = "credit_exhaustion"
  · rw [if_pos credit, if_pos credit, credit]
    exact pauseAndEscalate_follows store now "worker" "credit_exhaustion" _
  rw [if_neg credit, if_neg credit]
  by_cases running : classified.keepsRunning = true
  · rw [if_pos running]
    split_ifs with task infra
    · exact .of_raw rfl rfl rfl
    · exact absurd infra (keeps.mp running)
    · exact .of_raw rfl rfl rfl
  · have notTask : classified.classification ∉ taskFailures :=
      fun task => running (classified.keepsRunning_of_taskFailure task)
    have infra : classified.classification ∈ infraFailures := not_not.mp (mt keeps.mpr running)
    rw [if_neg running, if_neg notTask, if_pos infra]
    have degraded := markDegraded_follows
      (setWorkerLane store .paused classified.classification) now
      classified.classification
    exact .of_settled rfl (degraded.settled rfl) rfl (map_id _)

theorem recordFailure_follows (runId taskId runStatus : String) (taskStatus : PyValue)
    (classified : FailureClassification) (bundleDir : String) :
    (eventEffect store now (.failureDiagnostic runId taskId runStatus
        taskStatus classified bundleDir)).Follows now store.control
      (recordFailure store now runId taskId runStatus taskStatus classified
        bundleDir).1.control := by
  have applied : (classifiedEffect store now classified).Follows now store.control _ :=
    (applyClassificationPolicy_follows (storeFailure store now runId taskId runStatus taskStatus
        classified.classification bundleDir) now classified).of_sameLanes rfl
  unfold recordFailure
  dsimp only [eventEffect]
  by_cases unknown : classified.classification = "unknown"
  · have policy : applyClassificationPolicy
        (storeFailure store now runId taskId runStatus taskStatus
          classified.classification bundleDir) now classified =
          (setWorkerLane (storeFailure store now runId taskId runStatus taskStatus
              classified.classification bundleDir) .running "unknown",
            .ok ()) := by
      simp [applyClassificationPolicy, unknown, taskFailures]
    have escalates : repeatsUnknown store now runId taskId runStatus
        classified.classification bundleDir = true ↔
          classified.classification = "unknown" ∧ 2 ≤ recentClassificationCount (setWorkerLane
                (storeFailure store now runId taskId runStatus taskStatus
                  classified.classification bundleDir) .running
                "unknown").control "unknown" := by
      simp only [repeatsUnknown, Bool.and_eq_true, decide_eq_true_eq]
      exact .rfl
    rw [policy] at applied ⊢
    dsimp only
    by_cases repeated : repeatsUnknown store now runId taskId runStatus
        classified.classification bundleDir = true
    · rw [if_pos (escalates.mp repeated), repeated, Bool.or_true]
      exact follows_escalation _ now applied _ _
    · rw [if_neg (mt escalates.mpr repeated)]
      rw [Bool.not_eq_true] at repeated
      rw [repeated, Bool.or_false]
      exact applied
  · have once : repeatsUnknown store now runId taskId runStatus
        classified.classification bundleDir = false := by
      simp [repeatsUnknown, unknown]
    rw [once, Bool.or_false]
    cases outcome : applyClassificationPolicy
        (storeFailure store now runId taskId runStatus taskStatus
          classified.classification bundleDir) now classified with
    | mk _ result =>
      rw [outcome] at applied
      cases result with
      | error _ => exact applied
      | ok =>
        simp only [unknown, false_and, if_false]
        exact applied

theorem recordBudgetUsage_lanes (control : ControlTables) (budgetScope budgetKey : String) :
    (control.recordBudgetUsage now budgetScope budgetKey).systemState = control.systemState ∧
      (control.recordBudgetUsage now budgetScope budgetKey).laneStates =
        control.laneStates := by
  unfold ControlTables.recordBudgetUsage
  dsimp only
  split <;> exact ⟨rfl, rfl⟩

theorem budgetExhausted_upsertWorkerRun (control : ControlTables) (workerRun : ControlWorkerRun)
    (budgetScope budgetKey : String) :
    ((control.upsertWorkerRun workerRun).recordBudgetUsage now budgetScope
        budgetKey).budgetExhausted now budgetScope budgetKey =
      (control.recordBudgetUsage now budgetScope budgetKey).budgetExhausted
        now budgetScope budgetKey := by
  have same : (control.upsertWorkerRun workerRun).budgets =
      control.budgets := rfl
  simp only [ControlTables.budgetExhausted, ControlTables.recentUsage,
    ControlTables.recordBudgetUsage, same]
  split <;> rfl

theorem follows_unchanged {next : ControlTables}
    (systemState : next.systemState = control.systemState)
    (lanes : next.laneStates = control.laneStates) :
    ControlEffect.Follows
      { systemState := control.systemState, lane := ControlEffect.unchanged
        settles := false } now control next := by
  refine .of_raw rfl systemState ?_
  rw [lanes]
  exact (map_id _).symm

theorem spendObjectiveBudget_follows (objectiveId : String) :
    ControlEffect.Follows
      { systemState := store.control.systemState, lane := ControlEffect.unchanged
        settles := (store.control.recordBudgetUsage now "objective"
          objectiveId).budgetExhausted now "objective" objectiveId }
      now store.control
      (spendObjectiveBudget store now objectiveId).control := by
  obtain ⟨systemState, lanes⟩ := recordBudgetUsage_lanes now store.control "objective" objectiveId
  have recorded := follows_unchanged now systemState lanes
  unfold spendObjectiveBudget
  dsimp only [onControl]
  by_cases exhausted : (store.control.recordBudgetUsage now "objective"
      objectiveId).budgetExhausted now "objective" objectiveId = true
  · rw [if_pos exhausted, exhausted]
    exact follows_escalation
      (onControl store fun control =>
        control.recordBudgetUsage now "objective" objectiveId) now recorded _ _
  · rw [if_neg exhausted, Bool.not_eq_true _ |>.mp exhausted]
    exact recorded

theorem handleRunCreated_follows (runId taskId : String) (attempt : Int) :
    (eventEffect store now (.runCreated runId taskId attempt)).Follows now store.control
      (handleRunCreated store now runId taskId attempt).control := by
  unfold handleRunCreated
  simp only [eventEffect, exceedsBudget]
  cases (store.getTask taskId).bind Task.objective? with
  | none =>
    obtain ⟨systemState, lanes⟩ := recordBudgetUsage_lanes now
      (store.control.upsertWorkerRun _) "worker" "expensive_coding_runs"
    exact follows_unchanged now systemState lanes
  | some objectiveId =>
    dsimp only
    generalize ({
      id := runId
      taskId := some taskId
      objectiveId := (store.getTask taskId).bind Task.objectiveId
      attempt := if attempt = 0 then 1 else attempt
      startedAt := now } : ControlWorkerRun) = workerRun
    have spent := spendObjectiveBudget_follows
      (onControl store fun control => control.upsertWorkerRun workerRun)
      now objectiveId
    have sameBudget := budgetExhausted_upsertWorkerRun now store.control
      workerRun "objective" objectiveId
    rw [← sameBudget]
    exact spent.of_sameLanes rfl

theorem enforceNoProgress_follows (follows : effect.Follows now control store.control)
    (settles : effect.settles = true) (completedTask : Option Task) :
    effect.Follows now control (enforceNoProgress store now completedTask).control := by
  have same : ({ effect with settles := true } : ControlEffect) = effect := by rw [← settles]
  have escalated := follows_escalation store now follows
  rw [same] at escalated
  unfold enforceNoProgress
  split
  · exact follows
  · split
    · exact follows
    · split_ifs
      · exact follows
      · exact escalated _ _
      · exact follows

theorem finishWorkerRun_lanes (control : ControlTables) (runId runStatus : String) :
    (finishWorkerRun control now runId runStatus).systemState = control.systemState ∧
      (finishWorkerRun control now runId runStatus).laneStates =
        control.laneStates := by
  unfold finishWorkerRun
  split <;> exact ⟨rfl, rfl⟩

theorem handleTaskFinished_follows (runId runStatus taskId status : String) :
    (eventEffect store now (.taskFinished runId runStatus taskId status)).Follows now store.control
      (handleTaskFinished store now runId runStatus taskId status).control := by
  obtain ⟨systemState, lanes⟩ := finishWorkerRun_lanes now store.control runId runStatus
  unfold handleTaskFinished
  simp only [eventEffect]
  by_cases completed : status = "completed"
  · have healthy := markHealthy_follows
      (onControl store fun control =>
        finishWorkerRun control now runId runStatus) now "task_completed"
    rw [if_pos completed]
    have settled := enforceNoProgress_follows _ now healthy rfl
      (if taskId = "" then none else store.getTask taskId)
    have sameEffect : effectOf
        (onControl store fun control => finishWorkerRun control now runId runStatus) now
        (.markHealthy "task_completed") =
          { systemState := store.control.systemState, lane := ControlEffect.unchanged
            settles := true } := by
      simp only [effectOf, onControl, systemState]
    rw [sameEffect] at settled
    simp only [completed]
    exact settled.of_sameLanes lanes
  · rw [if_neg completed]
    simp only [completed]
    exact follows_unchanged now systemState lanes

theorem handle_follows (event : ObserverEvent) :
    (eventEffect store now event).Follows now store.control (handle store now event).1.control := by
  cases event with
  | taskStarted => exact .of_raw rfl rfl rfl
  | runCreated runId taskId attempt => exact handleRunCreated_follows store now runId taskId attempt
  | taskFinished runId runStatus taskId status =>
    exact handleTaskFinished_follows store now runId runStatus taskId status
  | failureDiagnostic runId taskId runStatus taskStatus classified bundleDir =>
    exact recordFailure_follows store now runId taskId runStatus taskStatus classified bundleDir
  | backendsUnavailable classified => exact applyClassificationPolicy_follows store now classified
  | other _ => exact .of_raw rfl rfl (map_id _).symm

end ControlRuntimeObserver

open ControlPlane in
theorem performControl_follows (store : Store) (call : ControlCall) :
    (effectOf store call.now call.operation).Follows call.now store.control
      (performControl store call).control := by
  obtain ⟨now, operation⟩ := call
  cases operation with
  | turnOn => exact .of_settled rfl (settled_syncGlobalState _ now "system_on") rfl rfl
  | turnOff => exact .of_settled rfl (settled_status _ now) rfl rfl
  | freeze _ => exact .of_settled rfl (settled_status _ now) rfl rfl
  | thaw => exact thaw_follows store now
  | markDegraded reason => exact markDegraded_follows store now reason
  | markHealthy reason => exact markHealthy_follows store now reason
  | pauseLane laneName reason => exact pauseLane_follows store now laneName reason
  | resumeLane laneName reason => exact resumeLane_follows store now laneName reason
  | enterCooldown laneName reason seconds =>
    exact enterCooldown_follows store now laneName reason seconds
  | status => exact .of_settled rfl (settled_status store now) rfl (map_id _).symm
  | observe event => exact ControlRuntimeObserver.handle_follows store now event

end AccruviaHarness
