import AccruviaHarness.Control.Halt

/-!
# What a status report says

A frozen system stays frozen until it is thawed or switched, and every report
of an unfrozen system agrees with the master switch and with the lanes that it
lists.
-/

namespace AccruviaHarness

open Library List

def ControlLaneState.IsTimed (lane : ControlLaneState) : Prop :=
  lane.state = .cooldown → ∃ deadline, lane.cooldownUntil = some deadline

def TimedCooldowns (control : ControlTables) : Prop :=
  ∀ lane ∈ control.laneStates.rows, lane.IsTimed

/-- The report agrees with the switch and the lanes, unless it is about a
frozen system, and lists no cooldown past its end. -/
structure SoundReport (now : Int) (report : StatusReport) : Prop where
  off : report.globalState ≠ .frozen → (report.globalState = .off ↔ report.masterSwitch = false)
  degraded : report.globalState ≠ .frozen → report.masterSwitch = true →
    (∃ lane ∈ report.lanes, lane.2 = .paused ∨ lane.2 = .cooldown) →
      report.globalState = .degraded
  timed : ∀ laneName, (laneName, .cooldown) ∈ report.lanes →
    ∃ deadline reason, (laneName, deadline, reason) ∈ report.cooldowns
  unexpired : ∀ cooldown ∈ report.cooldowns, now < cooldown.2.1

namespace ControlLaneState

theorem IsTimed.write (lane : ControlLaneState) {state : ControlLaneStateValue}
    (reason : String) {cooldownUntil : Option Int}
    (ends : state = .cooldown → ∃ deadline, cooldownUntil = some deadline) :
    ((write state reason cooldownUntil).apply lane).IsTimed := ends

variable {lane : ControlLaneState} {state resumed : ControlLaneStateValue}

theorem IsTimed.writeAt (timed : lane.IsTimed) (laneName reason : String)
    {cooldownUntil : Option Int}
    (ends : state = .cooldown → ∃ deadline, cooldownUntil = some deadline) :
    (((ControlLaneState.write state reason cooldownUntil).at laneName).apply lane).IsTimed := by
  simp only [RowUpdate.at]
  split
  · exact IsTimed.write lane reason ends
  · exact timed

theorem IsTimed.writeEnabled (timed : lane.IsTimed) (other : state ≠ .cooldown) (reason : String) :
    ((ControlLaneState.writeEnabled state reason).apply lane).IsTimed := by
  simp only [ControlLaneState.writeEnabled]
  split
  · exact timed
  · exact IsTimed.write lane reason fun cooldown => absurd cooldown other

theorem IsTimed.expire (timed : lane.IsTimed) (other : resumed ≠ .cooldown) (now : Int) :
    ((ControlLaneState.expire resumed now).apply lane).IsTimed := by
  simp only [ControlLaneState.expire]
  split
  · exact IsTimed.write lane _ fun cooldown => absurd cooldown other
  · exact timed

theorem IsTimed.unexpired (timed : lane.IsTimed) (other : resumed ≠ .cooldown) {now : Int}
    (cooldown : ((ControlLaneState.expire resumed now).apply lane).state = .cooldown) :
    ∃ deadline, ((ControlLaneState.expire resumed now).apply
      lane).cooldownUntil = some deadline ∧ now < deadline := by
  simp only [ControlLaneState.expire] at cooldown ⊢
  split at cooldown
  · exact absurd cooldown other
  next running =>
    obtain ⟨deadline, ends⟩ := timed cooldown
    rw [if_neg running]
    refine ⟨deadline, ends, ?_⟩
    simpa [isLapsed, cooldown, ends] using running

end ControlLaneState

theorem ControlTables.resumedState_ne_cooldown (control : ControlTables) :
    control.resumedState ≠ .cooldown := by
  unfold ControlTables.resumedState
  split
  · decide
  · decide

/-! ## Reports -/

section

variable {control : ControlTables}

theorem mem_listLaneStates {lane : ControlLaneState} :
    lane ∈ control.listLaneStates ↔ lane ∈ control.laneStates.rows :=
  mem_orderBy LaneOrder

theorem expectedState_of_degrading (isOn : control.systemState.masterSwitch = true)
    {lane : ControlLaneState} (member : lane ∈ control.listLaneStates)
    (degrading : lane.isDegrading = true) :
    control.expectedState.1 = .degraded := by
  unfold ControlTables.expectedState
  rw [isOn]
  cases found : control.listLaneStates.find? ControlLaneState.isDegrading with
  | none => exact absurd degrading (find?_eq_none.mp found lane member)
  | some _ => rfl

theorem Reconciled.off_iff
    {current next : ControlSystemState} (reconciled : Reconciled current next)
    (unfrozen : current.globalState ≠ .frozen) :
    next.globalState = .off ↔ next.masterSwitch = false := by
  rw [reconciled.masterSwitch]
  refine ⟨fun off => ?_, reconciled.off unfrozen⟩
  cases switch : current.masterSwitch with
  | false => rfl
  | true =>
    rcases reconciled.on unfrozen switch with healthy | degraded
    · cases off.symm.trans healthy
    · cases off.symm.trans degraded

theorem soundReport_reconcile {now : Int}
    (running : ∀ lane ∈ control.laneStates.rows, lane.state = .cooldown →
      ∃ deadline, lane.cooldownUntil = some deadline ∧ now < deadline)
    (leases : List TaskLease) :
    SoundReport now (ControlPlane.report control.reconcileSystemState leases) := by
  obtain ⟨lanes, reconciled⟩ := control.reconcileSystemState_spec
  have listed : control.reconcileSystemState.listLaneStates =
      control.listLaneStates := by
    unfold ControlTables.listLaneStates
    rw [lanes]
  have unfrozen : control.reconcileSystemState.systemState.globalState ≠
      .frozen → control.systemState.globalState ≠ .frozen :=
    fun next frozen => next (reconciled.frozen frozen)
  refine ⟨fun next => reconciled.off_iff (unfrozen next), ?degraded, ?timed, ?unexpired⟩
  case degraded =>
    rintro next isOn ⟨entry, member, degrading⟩
    obtain ⟨lane, laneMember, rfl⟩ := mem_map.mp member
    rw [listed] at laneMember
    have switch : control.systemState.masterSwitch = true := reconciled.masterSwitch.symm.trans isOn
    have degraded := expectedState_of_degrading switch laneMember
      (by simpa [ControlLaneState.isDegrading] using degrading)
    change control.reconcileSystemState.systemState.globalState = _
    rw [ControlTables.reconcileSystemState_unfrozen (unfrozen next)]
    exact degraded
  case timed =>
    intro laneName member
    obtain ⟨lane, laneMember, same⟩ := mem_map.mp member
    obtain ⟨named, cooldown⟩ := Prod.mk.inj same
    have stored := mem_listLaneStates.mp (listed ▸ laneMember)
    obtain ⟨deadline, ends, _⟩ := running lane stored cooldown
    refine ⟨deadline, lane.reason, mem_filterMap.mpr ⟨lane, laneMember, ?_⟩⟩
    rw [if_pos cooldown, ends, named]
    rfl
  case unexpired =>
    intro entry member
    obtain ⟨lane, laneMember, reported⟩ := mem_filterMap.mp member
    split at reported
    next cooldown =>
      have stored := mem_listLaneStates.mp (listed ▸ laneMember)
      obtain ⟨_, ends, later⟩ := running lane stored cooldown
      rw [ends] at reported
      cases reported
      exact later
    · cases reported

theorem soundReport_status {store : Store} (timed : TimedCooldowns store.control) (now : Int) :
    SoundReport now (ControlPlane.status store now).2 := by
  refine soundReport_reconcile (fun lane member cooldown => ?_) _
  obtain ⟨earlier, stored, rfl⟩ := mem_map.mp member
  exact (timed earlier stored).unexpired store.control.resumedState_ne_cooldown cooldown

end

/-! ## What the operations keep -/

/-- The operations of the control plane, its construction included, and the
events of its observer. Recording the usage of a budget, of whatever amount and
window, writes the budgets and nothing else. -/
inductive ControlAction where
  | operation (operation : ControlOperation)
  | construct
  | recordBudgetUsage (budgets : List ControlBudget)
  | recordHumanEscalation (reason : String) (payload : PyDict)

structure TimedAction where
  now : Int
  action : ControlAction

namespace TimedAction

def perform (store : Store) (timed : TimedAction) : Store :=
  match timed.action with
  | .operation operation => performControl store ⟨timed.now, operation⟩
  | .construct => ControlPlane.ensureControlLanes store
  | .recordBudgetUsage budgets =>
    ControlPlane.onControl store fun control => { control with budgets }
  | .recordHumanEscalation reason payload =>
    (ControlPlane.recordHumanEscalation store timed.now reason payload).1

def answer (store : Store) (timed : TimedAction) : Option StatusReport :=
  match timed.action with
  | .operation .turnOn => some (ControlPlane.turnOn store timed.now).2
  | .operation .turnOff => some (ControlPlane.turnOff store timed.now).2
  | .operation (.freeze reason) => some (ControlPlane.freeze store timed.now reason).2
  | .operation .thaw => some (ControlPlane.thaw store timed.now).2
  | .operation (.markDegraded reason) => some (ControlPlane.markDegraded store timed.now reason).2
  | .operation (.markHealthy reason) => some (ControlPlane.markHealthy store timed.now reason).2
  | .operation (.pauseLane laneName reason) =>
    (ControlPlane.pauseLane store timed.now laneName reason).2.toOption
  | .operation (.resumeLane laneName reason) =>
    (ControlPlane.resumeLane store timed.now laneName reason).2.toOption
  | .operation (.enterCooldown laneName reason seconds) =>
    (ControlPlane.enterCooldown store timed.now laneName reason seconds).2.toOption
  | .operation .status => some (ControlPlane.status store timed.now).2
  | .operation (.observe _) => none
  | .construct => none
  | .recordBudgetUsage _ => none
  | .recordHumanEscalation reason payload =>
    some (ControlPlane.recordHumanEscalation store timed.now reason payload).2

def lifts (timed : TimedAction) : Bool :=
  match timed.action with
  | .operation .thaw | .operation .turnOn | .operation .turnOff => true
  | _ => false

end TimedAction

variable {control next : ControlTables} {now : Int} {store : Store}

theorem TimedCooldowns.modify (timed : TimedCooldowns control)
    {update : RowUpdate ControlLaneState.laneName}
    (rows : next.laneStates.rows = control.laneStates.rows.map update.apply)
    (keeps : ∀ lane, lane.IsTimed → (update.apply lane).IsTimed) :
    TimedCooldowns next := by
  intro lane member
  rw [rows] at member
  obtain ⟨earlier, stored, rfl⟩ := mem_map.mp member
  exact keeps earlier (timed earlier stored)

section

variable {store : Store} {lane : ControlLaneState}

theorem classifiedEffect_isTimed
    (timed : lane.IsTimed) (now : Int) (classified : FailureClassification) :
    ((ControlRuntimeObserver.classifiedEffect store now classified).lane.apply lane).IsTimed := by
  unfold ControlRuntimeObserver.classifiedEffect
  dsimp only
  split
  · exact timed.writeAt _ _ fun _ => ⟨_, rfl⟩
  · split
    · exact timed.writeAt _ _ nofun
    · split
      · exact timed.writeAt _ _ nofun
      · exact timed.writeAt _ _ nofun

theorem effectOf_isTimed (timed : lane.IsTimed) (now : Int) (operation : ControlOperation) :
    ((effectOf store now operation).lane.apply lane).IsTimed := by
  cases operation with
  | turnOn =>
    simp only [effectOf]
    exact timed.writeEnabled (by decide) _
  | turnOff =>
    simp only [effectOf]
    exact timed.writeEnabled (by decide) _
  | freeze _ =>
    simp only [effectOf]
    exact timed.writeEnabled (by decide) _
  | thaw =>
    simp only [effectOf]
    split
    · exact timed.writeEnabled (by decide) _
    · exact timed
  | markDegraded _ => exact timed
  | markHealthy _ => exact timed
  | status => exact timed
  | pauseLane _ _ => exact timed.writeAt _ _ fun same => by cases same
  | resumeLane _ _ =>
    simp only [effectOf]
    split
    · exact timed
    · exact timed.writeAt _ _ fun cooldown => absurd cooldown store.control.resumedState_ne_cooldown
  | enterCooldown _ _ _ => exact timed.writeAt _ _ fun _ => ⟨_, rfl⟩
  | observe event =>
    cases event with
    | taskStarted => exact timed.writeAt _ _ fun same => by cases same
    | runCreated _ _ _ => exact timed
    | taskFinished _ _ _ _ => exact timed
    | failureDiagnostic runId taskId runStatus taskStatus classified
        bundleDir => exact classifiedEffect_isTimed timed now classified
    | backendsUnavailable classified => exact classifiedEffect_isTimed timed now classified
    | other _ => exact timed

theorem degradedState_frozen {current : ControlSystemState} (frozen : current.globalState = .frozen)
    (reason : String) :
    (ControlPlane.degradedState current reason).globalState = .frozen := by
  rw [ControlPlane.degradedState, if_pos frozen]
  exact frozen

theorem classifiedEffect_frozen
    (frozen : store.control.systemState.globalState = .frozen) (now : Int)
    (classified : FailureClassification) :
    (ControlRuntimeObserver.classifiedEffect store now
      classified).systemState.globalState = .frozen := by
  unfold ControlRuntimeObserver.classifiedEffect
  dsimp only
  split_ifs
  · exact frozen
  · exact frozen
  · exact frozen
  · exact degradedState_frozen frozen _

theorem effectOf_frozen {now : Int} {operation : ControlOperation}
    (frozen : store.control.systemState.globalState = .frozen)
    (keeps : TimedAction.lifts ⟨now, .operation operation⟩ = false) :
    (effectOf store now operation).systemState.globalState = .frozen := by
  cases operation with
  | turnOn | turnOff | thaw => cases keeps
  | freeze _ => rfl
  | markDegraded reason => exact degradedState_frozen frozen reason
  | markHealthy | status | pauseLane | enterCooldown => exact frozen
  | resumeLane _ _ =>
    simp only [effectOf, if_pos frozen]
    exact frozen
  | observe event =>
    cases event with
    | taskStarted | runCreated | taskFinished | other => exact frozen
    | failureDiagnostic runId taskId runStatus taskStatus classified
        bundleDir => exact classifiedEffect_frozen frozen now classified
    | backendsUnavailable classified => exact classifiedEffect_frozen frozen now classified

end

theorem timedCooldowns_of_settled
    (timed : TimedCooldowns control) (settled : Settled now control next) :
    TimedCooldowns next :=
  timed.modify settled.lanes fun _ laneTimed =>
    laneTimed.expire control.resumedState_ne_cooldown now

theorem ensureControlLanes_spec (store : Store) :
    (ControlPlane.ensureControlLanes store).control.systemState = store.control.systemState ∧
      ∀ lane ∈ (ControlPlane.ensureControlLanes store).control.laneStates.rows,
        lane ∈ store.control.laneStates.rows ∨ lane.state = .paused := by
  unfold ControlPlane.ensureControlLanes ControlPlane.onControl
  dsimp only
  generalize defaultControlLanes = laneNames
  generalize store.control = control
  induction laneNames generalizing control with
  | nil => exact ⟨rfl, fun _ member => .inl member⟩
  | cons laneName _ ih =>
    rw [foldl_cons]
    cases inserted : control.laneStates.insert? { laneName } with
    | none => exact ih control
    | some laneStates =>
      obtain ⟨systemState, lanes⟩ := ih { control with laneStates }
      refine ⟨systemState, fun lane member => ?_⟩
      rcases lanes lane member with stored | paused
      · rw [KeyedTable.rows_of_insert? inserted] at stored
        rcases mem_append.mp stored with earlier | added
        · exact .inl earlier
        · rw [mem_singleton.mp added]
          exact .inr rfl
      · exact .inr paused

theorem timedCooldowns_perform (timed : TimedCooldowns store.control) (action : TimedAction) :
    TimedCooldowns (action.perform store).control := by
  obtain ⟨now, action⟩ := action
  cases action with
  | operation operation =>
    have follows := performControl_follows store ⟨now, operation⟩
    have keeps : ∀ lane : ControlLaneState, lane.IsTimed →
        ((effectOf store now operation).lane.apply lane).IsTimed :=
      fun lane laneTimed => effectOf_isTimed laneTimed now operation
    cases settles : (effectOf store now operation).settles with
    | true =>
      have written : TimedCooldowns ((effectOf store now operation).written store.control) :=
        timed.modify rfl keeps
      exact timedCooldowns_of_settled written (follows.settled settles)
    | false => exact timed.modify (follows.raw settles).2 keeps
  | construct =>
    intro lane member
    rcases (ensureControlLanes_spec store).2 lane member with
      stored | paused
    · exact timed lane stored
    · intro cooldown
      cases paused.symm.trans cooldown
  | recordBudgetUsage _ => exact timed
  | recordHumanEscalation _ _ =>
    apply timedCooldowns_of_settled ?_ (ControlPlane.settled_status _ now)
    exact timed

theorem frozen_perform {timed : TimedAction} (keeps : timed.lifts = false)
    (frozen : store.control.systemState.globalState = .frozen) :
    (timed.perform store).control.systemState.globalState = .frozen := by
  obtain ⟨now, action⟩ := timed
  cases action with
  | operation operation =>
    have follows := performControl_follows store ⟨now, operation⟩
    have written := effectOf_frozen frozen keeps
    cases settles : (effectOf store now operation).settles with
    | true => exact (follows.settled settles).reconciled.frozen written
    | false =>
      change (performControl store _).control.systemState.globalState = _
      rw [(follows.raw settles).1]
      exact written
  | construct =>
    change (ControlPlane.ensureControlLanes store).control.systemState.globalState = _
    rw [(ensureControlLanes_spec store).1]
    exact frozen
  | recordBudgetUsage _ => exact frozen
  | recordHumanEscalation _ _ =>
    apply (ControlPlane.settled_status _ now).reconciled.frozen
    exact frozen

/-! ## The reports that the operations answer with -/

def ReportsStatus (now : Int) (report : StatusReport) : Prop :=
  ∃ store : Store, TimedCooldowns store.control ∧
    report = (ControlPlane.status store now).2

theorem ReportsStatus.sound {report : StatusReport} (reports : ReportsStatus now report) :
    SoundReport now report := by
  obtain ⟨_, timed, rfl⟩ := reports
  exact soundReport_status timed now

section

open ControlPlane

variable {store : Store} (timed : TimedCooldowns store.control) (now : Int)

include timed

theorem reportsStatus_status : ReportsStatus now (status store now).2 := ⟨store, timed, rfl⟩

theorem reportsStatus_syncGlobalState (reason : String) :
    ReportsStatus now (syncGlobalState store now reason).2 := by
  have settled := store.control.settled_reconcile now
  have settledTimed := timedCooldowns_of_settled timed settled
  unfold syncGlobalState
  dsimp only
  split
  · exact ⟨_, settledTimed, rfl⟩
  · exact ⟨_, settledTimed, rfl⟩

theorem TimedCooldowns.recordEvent (eventType entityType entityId : String) (payload : PyDict) :
    TimedCooldowns (recordEvent store now eventType entityType entityId payload).control :=
  timed

theorem TimedCooldowns.writeSystem (systemState : ControlSystemState)
    (lanes : Option (ControlLaneStateValue × String))
    (enters : ∀ entry ∈ lanes, entry.1 ≠ .cooldown) :
    TimedCooldowns (writeSystem store systemState lanes).control := by
  cases lanes with
  | none => exact timed
  | some entry =>
    exact timed.modify rfl fun lane laneTimed => laneTimed.writeEnabled (enters entry rfl) _

theorem TimedCooldowns.writeLane
    (laneName : String) {state : ControlLaneStateValue} (reason : String)
    {cooldownUntil : Option Int}
    (ends : state = .cooldown → ∃ deadline, cooldownUntil = some deadline) :
    TimedCooldowns (writeLane store laneName state reason cooldownUntil).control :=
  timed.modify rfl fun _ laneTimed => laneTimed.writeAt _ _ ends

variable {report : StatusReport}

omit timed in
theorem ok_of_toOption {answer : Except PyError StatusReport}
    (answered : answer.toOption = some report) : answer = .ok report := by
  cases answer with
  | error _ => cases answered
  | ok _ =>
    cases answered
    rfl

variable (laneName reason : String)

theorem reportsStatus_pauseLane (answered : (pauseLane store now laneName reason).2 = .ok report) :
    ReportsStatus now report := by
  unfold pauseLane at answered
  split at answered
  · rw [← Except.ok.inj answered]
    apply reportsStatus_syncGlobalState
    exact TimedCooldowns.recordEvent (timed.writeLane laneName reason (by rintro ⟨⟩)) now _ _ _ _
  · cases answered

theorem reportsStatus_resumeLane
    (answered : (resumeLane store now laneName reason).2 = .ok report) :
    ReportsStatus now report := by
  unfold resumeLane at answered
  split_ifs at answered
  rw [← Except.ok.inj answered]
  apply reportsStatus_syncGlobalState
  exact TimedCooldowns.recordEvent
    (timed.writeLane laneName reason fun cooldown =>
      absurd cooldown store.control.resumedState_ne_cooldown) now _ _ _ _

theorem reportsStatus_enterCooldown (seconds : Int) (answered :
      (enterCooldown store now laneName reason seconds).2 = .ok report) :
    ReportsStatus now report := by
  unfold enterCooldown at answered
  split at answered
  · rw [← Except.ok.inj answered]
    apply reportsStatus_syncGlobalState
    exact TimedCooldowns.recordEvent (timed.writeLane laneName reason fun _ => ⟨_, rfl⟩) now _ _ _ _
  · cases answered

theorem reportsStatus_markDegraded (reason : String) :
    ReportsStatus now (markDegraded store now reason).2 := by
  unfold markDegraded
  dsimp only
  split
  · exact reportsStatus_status timed now
  · apply reportsStatus_syncGlobalState
    exact TimedCooldowns.recordEvent (timed.writeSystem _ none nofun) now _ _ _ _

theorem reportsStatus_markHealthy (reason : String) :
    ReportsStatus now (markHealthy store now reason).2 := by
  unfold markHealthy
  dsimp only
  split
  · exact reportsStatus_status timed now
  · exact reportsStatus_syncGlobalState (timed.recordEvent now _ _ _ _) now reason

theorem reportsStatus_thaw : ReportsStatus now (thaw store now).2 := by
  apply reportsStatus_syncGlobalState
  refine TimedCooldowns.recordEvent (timed.writeSystem _ _ ?_) now _ _ _ _
  intro entry member
  split at member
  · cases member
    decide
  · cases member

theorem reportsStatus_answer {action : ControlAction}
    (answered : TimedAction.answer store ⟨now, action⟩ = some report) :
    ReportsStatus now report := by
  cases action with
  | construct | recordBudgetUsage => cases answered
  | recordHumanEscalation _ _ =>
    cases answered
    apply reportsStatus_status
    exact timed.recordEvent now _ _ _ _
  | operation operation =>
    cases operation with
    | turnOn =>
      cases answered
      apply reportsStatus_syncGlobalState
      exact TimedCooldowns.recordEvent
        (timed.writeSystem _ (some _) (by rintro _ ⟨⟩; decide)) now _ _ _ _
    | turnOff =>
      cases answered
      apply reportsStatus_status
      exact TimedCooldowns.recordEvent
        (timed.writeSystem _ (some _) (by rintro _ ⟨⟩; decide)) now _ _ _ _
    | freeze _ =>
      cases answered
      apply reportsStatus_status
      exact TimedCooldowns.recordEvent
        (timed.writeSystem _ (some _) (by rintro _ ⟨⟩; decide)) now _ _ _ _
    | thaw =>
      cases answered
      exact reportsStatus_thaw timed now
    | markDegraded reason =>
      cases answered
      exact reportsStatus_markDegraded timed now reason
    | markHealthy reason =>
      cases answered
      exact reportsStatus_markHealthy timed now reason
    | status =>
      cases answered
      exact reportsStatus_status timed now
    | pauseLane laneName reason =>
      exact reportsStatus_pauseLane timed now laneName reason (ok_of_toOption answered)
    | resumeLane laneName reason =>
      exact reportsStatus_resumeLane timed now laneName reason (ok_of_toOption answered)
    | enterCooldown laneName reason seconds =>
      exact reportsStatus_enterCooldown timed now laneName reason seconds (ok_of_toOption answered)
    | observe _ => cases answered

end

/-! ## Whole runs -/

namespace ControlRun

def performed (store : Store) (actions : List TimedAction) : Store :=
  actions.foldl TimedAction.perform store

theorem initialized_timedCooldowns (store : Store) :
    TimedCooldowns (initialized store).control := by
  intro lane member
  have paused : ∀ lane ∈ (initialized {}).control.laneStates.rows,
      lane.state = .paused := by
    decide
  intro cooldown
  cases (paused lane member).symm.trans cooldown

theorem performed_timedCooldowns (timed : TimedCooldowns store.control)
    (actions : List TimedAction) :
    TimedCooldowns (performed store actions).control := by
  induction actions generalizing store with
  | nil => exact timed
  | cons action _ ih => exact ih (timedCooldowns_perform timed action)

theorem performed_frozen (frozen : store.control.systemState.globalState = .frozen)
    {actions : List TimedAction}
    (keeps : ∀ action ∈ actions, action.lifts = false) :
    (performed store actions).control.systemState.globalState = .frozen := by
  induction actions generalizing store with
  | nil => exact frozen
  | cons action _ ih =>
    have first := frozen_perform (keeps action mem_cons_self) frozen
    exact ih first fun other member => keeps other (mem_cons_of_mem _ member)

/-- In every run from an initialized store: a frozen system stays frozen until
it is thawed or switched, and every report that is answered is sound. -/
theorem control_sound (store : Store) (actions : List TimedAction) :
    ((performed (initialized store) actions).control.systemState.globalState = .frozen →
      ∀ later : List TimedAction, (∀ action ∈ later, action.lifts = false) →
        (performed (initialized store)
          (actions ++ later)).control.systemState.globalState = .frozen) ∧
    ∀ (next : TimedAction) (report : StatusReport),
      next.answer (performed (initialized store) actions) = some report →
        SoundReport next.now report := by
  constructor
  · intro frozen later keeps
    have run : performed (initialized store) (actions ++ later) =
        performed (performed (initialized store) actions) later :=
      foldl_append
    rw [run]
    exact performed_frozen frozen keeps
  · intro next report answered
    have timed := performed_timedCooldowns (initialized_timedCooldowns store) actions
    exact (reportsStatus_answer timed next.now answered).sound

end ControlRun

end AccruviaHarness
