import AccruviaHarness.Store.TaskLeases
import Mathlib.Algebra.Ring.Int.Defs

/-!
# The control plane

The operations of `ControlPlane`. Each of them writes lane rows and the row of
the system state, and most end by settling the two against each other: expired
cooldowns are resumed and the global state is derived from the lanes.
-/

namespace AccruviaHarness

open Library

def defaultControlLanes : List String := ["api", "harness", "worker", "watch", "telegram"]

def expensiveCodingRunLimit : Int := 3

def expensiveCodingRunWindow : Int := secondsSpan 3600

/-- The reason text of a `no_progress` escalation. -/
def noProgressReason : String :=
  "Three completed coding runs did not advance the objective to a mergeable state."

/-- `ORDER BY created_at DESC`. -/
def NewestEvent (first second : ControlEvent) : Prop := second.createdAt ≤ first.createdAt

instance : DecidableRel NewestEvent := fun _ _ => inferInstanceAs (Decidable (_ ≤ _))

/-- `ORDER BY lane_name`. -/
def LaneOrder (first second : ControlLaneState) : Prop := first.laneName ≤ second.laneName

instance : DecidableRel LaneOrder := fun _ _ => inferInstanceAs (Decidable (_ ≤ _))

/-- The texts stored in the `global_state` column. -/
def GlobalSystemState.value : GlobalSystemState → String
  | .off => "off"
  | .starting => "starting"
  | .healthy => "healthy"
  | .degraded => "degraded"
  | .frozen => "frozen"

/-- The texts stored in the `state` column of a lane. -/
def ControlLaneStateValue.value : ControlLaneStateValue → String
  | .running => "running"
  | .paused => "paused"
  | .cooldown => "cooldown"
  | .disabled => "disabled"

namespace ControlLaneState

def isLapsed (lane : ControlLaneState) (now : Int) : Bool :=
  lane.state = .cooldown &&
    match lane.cooldownUntil with
    | some deadline => deadline ≤ now
    | none => false

def isDegrading (lane : ControlLaneState) : Bool := lane.state = .paused || lane.state = .cooldown

variable (state : ControlLaneStateValue) (reason : String)

/-- `replace(lane, state=…, reason=…, cooldown_until=…)`. -/
def write (cooldownUntil : Option Int) : RowUpdate ControlLaneState.laneName where
  apply lane := { lane with state, reason := some reason, cooldownUntil }
  keepsKey _ := rfl

def writeEnabled :
    RowUpdate ControlLaneState.laneName where
  apply lane :=
    if lane.state = .disabled then lane
    else (write state reason none).apply lane
  keepsKey lane := by split <;> rfl

/-- The write of `_expire_cooldowns`. -/
def expire (resumed : ControlLaneStateValue) (now : Int) :
    RowUpdate ControlLaneState.laneName where
  apply lane :=
    if lane.isLapsed now then (write resumed "cooldown_expired" none).apply lane
    else lane
  keepsKey lane := by split <;> rfl

end ControlLaneState

namespace ControlTables

variable (control : ControlTables)

/-- `list_control_events` of one type. -/
def listEvents (eventType : String) (limit : Nat) : List ControlEvent :=
  (orderBy NewestEvent <| control.events.filter fun event => event.eventType = eventType).take limit

variable (now : Int) (budgetScope budgetKey : String)

def recentUsage : Int :=
  ((control.budgets.filter fun budget =>
    budget.budgetScope = budgetScope && budget.budgetKey = budgetKey &&
      now - expensiveCodingRunWindow ≤ budget.windowEnd).map ControlBudget.usageCount).sum

/-- `expensive_coding_budget_exhausted`. -/
def budgetExhausted : Bool :=
  expensiveCodingRunLimit < control.recentUsage now budgetScope budgetKey

/-- `objective_no_progress_blocked`. -/
def noProgressBlocked (objectiveId : String) :
    Bool :=
  (control.listEvents "human_escalation_required" 50).any fun event =>
    event.payload.getStr "objective_id" = objectiveId &&
      event.payload.getStr "reason" = noProgressReason

/-- `record_budget_usage` of one run. A budget of the same window is the one
that was recorded at the same clock reading. -/
def recordBudgetUsage : ControlTables :=
  let isCurrent (budget : ControlBudget) : Bool :=
    budget.budgetScope = budgetScope && budget.budgetKey = budgetKey &&
      budget.windowEnd = now
  if control.budgets.any isCurrent then
    { control with
      budgets := control.budgets.map fun budget =>
        if isCurrent budget then { budget with usageCount := budget.usageCount + 1 }
        else budget }
  else
    { control with
      budgets := control.budgets ++
        [{ budgetScope, budgetKey, windowEnd := now, usageCount := 1 }] }

/-- `list_control_lane_states`. -/
def listLaneStates : List ControlLaneState := orderBy LaneOrder control.laneStates.rows

def recordEvent (eventType entityType entityId : String) (payload : PyDict) :
    ControlTables :=
  { control with
    events := control.events ++
      [{ eventType, entityType, entityId, payload, createdAt := now }] }

def resumedState : ControlLaneStateValue :=
  if control.systemState.masterSwitch then .running else .paused

def expireCooldowns : ControlTables :=
  let resumed := control.resumedState
  let lapsed := control.listLaneStates.filter fun lane => lane.isLapsed now
  { control with
    laneStates := control.laneStates.modify (ControlLaneState.expire resumed now)
    events := control.events ++ lapsed.map fun lane =>
      { eventType := "lane_resumed", entityType := "lane", entityId := lane.laneName
        payload := [("reason", .str "cooldown_expired"), ("state", .str resumed.value)]
        createdAt := now } }

def expectedState : GlobalSystemState × Option String :=
  if !control.systemState.masterSwitch then (.off, none)
  else
    match control.listLaneStates.find? ControlLaneState.isDegrading with
    | some lane => (.degraded, lane.reason)
    | none => (.healthy, none)

def reconcileSystemState : ControlTables :=
  let current := control.systemState
  if current.globalState = .frozen then control
  else
    let (globalState, freezeReason) := control.expectedState
    if current.globalState = globalState ∧
        current.freezeReason = freezeReason then control
    else
      { control with
        systemState := { current with globalState, freezeReason } }

end ControlTables

/-- The object that `status` returns. -/
structure StatusReport where
  globalState : GlobalSystemState
  masterSwitch : Bool
  lanes : List (String × ControlLaneStateValue)
  activeTaskId : Option String
  latestFailureClass : Option String
  cooldowns : List (String × Int × Option String)
  lastMergeStatus : Option String
  frozenReason : Option String
  deriving DecidableEq, Repr

namespace ControlPlane

variable (store : Store)

def onControl (change : ControlTables → ControlTables) :
    Store :=
  { store with control := change store.control }

variable (control : ControlTables)

def lastMergeStatus : Option String :=
  match control.listEvents "merge_succeeded" 1,
    control.listEvents "merge_failed" 1 with
  | _ :: _, _ => some "succeeded"
  | [], _ :: _ => some "failed"
  | [], [] => none

def report (activeLeases : List TaskLease) :
    StatusReport :=
  let lanes := control.listLaneStates
  { globalState := control.systemState.globalState
    masterSwitch := control.systemState.masterSwitch
    lanes := lanes.map fun lane => (lane.laneName, lane.state)
    activeTaskId := activeLeases.head?.map TaskLease.taskId
    latestFailureClass := (lanes.find? ControlLaneState.isDegrading).bind ControlLaneState.reason
    cooldowns := lanes.filterMap fun lane =>
      if lane.state = .cooldown then
        lane.cooldownUntil.map fun deadline => (lane.laneName, deadline, lane.reason)
      else none
    lastMergeStatus := lastMergeStatus control, frozenReason := control.systemState.freezeReason }

variable (now : Int)

def status : Store × StatusReport :=
  let store := onControl store fun control => (control.expireCooldowns now).reconcileSystemState
  let (store, activeLeases) := store.listTaskLeases now none
  (store, report store.control activeLeases)

variable (reason : String)

def syncGlobalState : Store × StatusReport :=
  let control := (store.control.expireCooldowns now).reconcileSystemState
  let current := control.systemState
  if current.globalState = .degraded ∧ current.freezeReason ≠ some reason then
    status
      { store with
        control :=
          { control with
            systemState := { current with freezeReason := some reason } } }
      now
  else status { store with control } now

def ensureControlLanes : Store :=
  onControl store fun control =>
    defaultControlLanes.foldl
      (fun control laneName =>
        match control.laneStates.insert? { laneName } with
        | some laneStates => { control with laneStates }
        | none => control)
      control

def writeSystem (systemState : ControlSystemState)
    (lanes : Option (ControlLaneStateValue × String)) : Store :=
  onControl store fun control =>
    { control with
      systemState
      laneStates :=
        match lanes with
        | some (state, reason) =>
          control.laneStates.modify (ControlLaneState.writeEnabled state reason)
        | none => control.laneStates }

def recordEvent (eventType entityType entityId : String) (payload : PyDict) : Store :=
  onControl store fun control => control.recordEvent now eventType entityType entityId payload

/-- `_record_event` about the system itself. -/
def recordSystemEvent (eventType : String) (payload : PyDict) : Store :=
  recordEvent store now eventType "system" "system" payload

variable (laneName : String)

def writeLane (state : ControlLaneStateValue) (reason : String)
    (cooldownUntil : Option Int) : Store :=
  onControl store fun control =>
    { control with
      laneStates := control.laneStates.updateAt laneName
        (ControlLaneState.write state reason cooldownUntil) }

def turnOn : Store × StatusReport :=
  let state : ControlSystemState :=
    { globalState := .starting, masterSwitch := true, freezeReason := none }
  let store := writeSystem store state (some (.running, "system_on"))
  let store := recordSystemEvent store now "system_on"
    [("global_state", .str state.globalState.value)]
  syncGlobalState store now "system_on"

def turnOff : Store × StatusReport :=
  let state : ControlSystemState :=
    { globalState := .off, masterSwitch := false, freezeReason := none }
  let store := writeSystem store state (some (.paused, "system_off"))
  let store := recordSystemEvent store now "system_off"
    [("global_state", .str state.globalState.value)]
  status store now

def freeze : Store × StatusReport :=
  let state : ControlSystemState :=
    { store.control.systemState with
      globalState := .frozen, freezeReason := some reason }
  let store := writeSystem store state (some (.paused, "frozen"))
  let store := recordSystemEvent store now "system_frozen" [("reason", .str reason)]
  status store now

def markDegraded : Store × StatusReport :=
  let current := store.control.systemState
  if current.globalState = .frozen then status store now
  else
    let store := writeSystem store
      { current with
        globalState := .degraded, freezeReason := some reason } none
    let store := recordSystemEvent store now "system_degraded" [("reason", .str reason)]
    syncGlobalState store now reason

def markHealthy : Store × StatusReport :=
  let current := store.control.systemState
  if current.globalState = .frozen ∨ current.masterSwitch = false then status store now
  else
    let store := recordSystemEvent store now "system_healthy" [("reason", .str reason)]
    syncGlobalState store now reason

def thaw : Store × StatusReport :=
  let current := store.control.systemState
  let state : ControlSystemState :=
    { current with
      globalState := if current.masterSwitch then .starting else .off
      freezeReason := none }
  let store := writeSystem store state
    (if current.masterSwitch then some (.running, "thawed") else none)
  let store := recordSystemEvent store now "system_thawed"
    [("global_state", .str state.globalState.value)]
  syncGlobalState store now "thawed"

/-- The message of `_require_lane`. -/
def unknownLane : PyError := .valueError ("Unknown control lane: " ++ laneName)

def hasLane : Bool := (store.control.laneStates.lookup laneName).isSome

def pauseLane (laneName reason : String) : Store × Except PyError StatusReport :=
  if hasLane store laneName then
    let store := writeLane store laneName .paused reason none
    let store := recordEvent store now "lane_paused" "lane" laneName [("reason", .str reason)]
    let (store, status) := syncGlobalState store now reason
    (store, .ok status)
  else (store, .error (unknownLane laneName))

def resumeLane (laneName reason : String) : Store × Except PyError StatusReport :=
  if store.control.systemState.globalState = .frozen then
    (store, .error (.valueError "Cannot resume a lane while the system is frozen"))
  else if hasLane store laneName then
    let state := store.control.resumedState
    let store := writeLane store laneName state reason none
    let store := recordEvent store now "lane_resumed" "lane" laneName
      [("reason", .str reason), ("state", .str state.value)]
    let (store, status) := syncGlobalState store now reason
    (store, .ok status)
  else (store, .error (unknownLane laneName))

def enterCooldown (laneName reason : String)
    (seconds : Int) : Store × Except PyError StatusReport :=
  if hasLane store laneName then
    let deadline := now + secondsSpan (max seconds 0)
    let store := writeLane store laneName .cooldown reason (some deadline)
    let store := recordEvent store now "provider_degraded" "lane" laneName
      [("class", .str reason), ("cooldown_seconds", .int seconds)]
    let (store, status) := syncGlobalState store now reason
    (store, .ok status)
  else (store, .error (unknownLane laneName))

def recordHumanEscalation (payload : PyDict) : Store × StatusReport :=
  let payload := if payload.isEmpty then [("reason", .str reason)] else payload
  status (recordSystemEvent store now "human_escalation_required" payload) now

end ControlPlane

/-!
## Settling the control tables

What the end of most operations does to the lanes and to the system state:
lapsed cooldowns are resumed, a frozen system stays frozen, and every other
global state is derived from the master switch and the lanes.
-/

namespace ControlLaneState

@[simp]
theorem isLapsed_write (lane : ControlLaneState) (state : ControlLaneStateValue)
    (reason : String) (now : Int) :
    ((write state reason none).apply lane).isLapsed now = false := by
  simp [write, isLapsed]

theorem expire_expire (lane : ControlLaneState) (resumed : ControlLaneStateValue) (now : Int) :
    (expire resumed now).apply ((expire resumed now).apply lane) =
      (expire resumed now).apply lane := by
  by_cases lapsed : lane.isLapsed now = true
  · simp [expire, lapsed]
  · simp [expire, lapsed]

end ControlLaneState

/-- The global state of `next` is as the reconciliation leaves it. -/
structure Reconciled (current next : ControlSystemState) : Prop where
  masterSwitch : next.masterSwitch = current.masterSwitch
  frozen : current.globalState = .frozen → next.globalState = .frozen
  off : current.globalState ≠ .frozen → current.masterSwitch = false →
    next.globalState = .off
  on : current.globalState ≠ .frozen → current.masterSwitch = true →
    next.globalState = .healthy ∨ next.globalState = .degraded

theorem Reconciled.trans {first second third : ControlSystemState}
    (earlier : Reconciled first second) (later : Reconciled second third) :
    Reconciled first third := by
  have switch := earlier.masterSwitch
  refine ⟨later.masterSwitch.trans switch, ?_, ?_, ?_⟩
  · intro frozen
    exact later.frozen (earlier.frozen frozen)
  · intro unfrozen isOff
    have off := earlier.off unfrozen isOff
    refine later.off ?_ (switch.trans isOff)
    rw [off]
    decide
  · intro unfrozen isOn
    refine later.on ?_ (switch.trans isOn)
    rcases earlier.on unfrozen isOn with healthy | degraded
    · rw [healthy]
      decide
    · rw [degraded]
      decide

theorem Reconciled.withReason
    {current next : ControlSystemState} (reconciled : Reconciled current next)
    (freezeReason : Option String) :
    Reconciled current { next with freezeReason } :=
  ⟨reconciled.masterSwitch, reconciled.frozen, reconciled.off, reconciled.on⟩

/-- The tables `next` come from the tables `control` by settling them. -/
structure Settled (now : Int) (control next : ControlTables) : Prop where
  lanes : next.laneStates.rows = control.laneStates.rows.map
    (ControlLaneState.expire control.resumedState now).apply
  reconciled : Reconciled control.systemState next.systemState

variable {next first second : ControlTables} {now : Int}

theorem ControlTables.resumedState_congr {control : ControlTables}
    (switch : next.systemState.masterSwitch = control.systemState.masterSwitch) :
    next.resumedState = control.resumedState := by
  unfold ControlTables.resumedState
  rw [switch]

theorem Settled.congr (settled : Settled now first next)
    (systemState : first.systemState = second.systemState)
    (lanes : first.laneStates.rows = second.laneStates.rows) :
    Settled now second next := by
  have resumed : second.resumedState = first.resumedState := by
    apply ControlTables.resumedState_congr
    rw [systemState]
  refine ⟨?_, systemState ▸ settled.reconciled⟩
  rw [settled.lanes, lanes, resumed]

theorem Settled.trans {third : ControlTables}
    (earlier : Settled now first second) (later : Settled now second third) :
    Settled now first third := by
  refine ⟨?_, earlier.reconciled.trans later.reconciled⟩
  rw [later.lanes, earlier.lanes, List.map_map,
    ControlTables.resumedState_congr earlier.reconciled.masterSwitch]
  apply List.map_congr_left
  intro lane _
  exact lane.expire_expire first.resumedState now

namespace ControlTables

variable {control : ControlTables}

theorem expectedState_off (isOff : control.systemState.masterSwitch = false) :
    control.expectedState.1 = .off := by
  simp [expectedState, isOff]

theorem expectedState_on (isOn : control.systemState.masterSwitch = true) :
    control.expectedState.1 = .healthy ∨
      control.expectedState.1 = .degraded := by
  unfold expectedState
  rw [isOn]
  cases control.listLaneStates.find? ControlLaneState.isDegrading with
  | some _ => exact .inr rfl
  | none => exact .inl rfl

theorem reconcileSystemState_frozen (frozen : control.systemState.globalState = .frozen) :
    control.reconcileSystemState = control :=
  if_pos frozen

theorem reconcileSystemState_unfrozen (unfrozen : control.systemState.globalState ≠ .frozen) :
    control.reconcileSystemState =
      { control with
        systemState :=
          { control.systemState with
            globalState := control.expectedState.1
            freezeReason := control.expectedState.2 } } := by
  unfold reconcileSystemState
  simp only [if_neg unfrozen]
  split
  next same => rw [← same.1, ← same.2]
  · rfl

theorem reconcileSystemState_spec (control : ControlTables) :
    control.reconcileSystemState.laneStates = control.laneStates ∧ Reconciled control.systemState
        control.reconcileSystemState.systemState := by
  by_cases frozen : control.systemState.globalState = .frozen
  · rw [reconcileSystemState_frozen frozen]
    exact ⟨rfl, rfl, fun _ => frozen, fun unfrozen => absurd frozen unfrozen,
      fun unfrozen => absurd frozen unfrozen⟩
  · rw [reconcileSystemState_unfrozen frozen]
    exact ⟨rfl, rfl, fun isFrozen => absurd isFrozen frozen,
      fun _ => expectedState_off, fun _ => expectedState_on⟩

theorem settled_reconcile (control : ControlTables) (now : Int) :
    Settled now control (control.expireCooldowns now).reconcileSystemState := by
  obtain ⟨lanes, reconciled⟩ := (control.expireCooldowns now).reconcileSystemState_spec
  refine ⟨?_, reconciled⟩
  rw [lanes]
  rfl

end ControlTables

namespace ControlPlane

theorem settled_status (store : Store) (now : Int) :
    Settled now store.control (status store now).1.control :=
  store.control.settled_reconcile now

theorem status_of_settled {control : ControlTables} {store : Store} {now : Int}
    (settled : Settled now control store.control) :
    Settled now control (status store now).1.control :=
  settled.trans (settled_status store now)

theorem settled_syncGlobalState (store : Store) (now : Int) (reason : String) :
    Settled now store.control (syncGlobalState store now reason).1.control := by
  have once := store.control.settled_reconcile now
  unfold syncGlobalState
  dsimp only
  split
  · apply status_of_settled
    exact ⟨once.lanes, once.reconciled.withReason _⟩
  · apply status_of_settled
    exact once

end ControlPlane

end AccruviaHarness
