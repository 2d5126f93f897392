import AccruviaHarness.Control.Soundness
import Mathlib.Data.List.Infix

/-!
# The degraded mark

`mark_degraded` writes the system state and then settles it against the lanes,
and so does every status after it.
-/

namespace AccruviaHarness

open Library List

namespace ControlLaneState

def degradesAt (lane : ControlLaneState) (time : Int) : Bool :=
  lane.isDegrading && !lane.isLapsed time

theorem isDegrading_expire (lane : ControlLaneState) (time : Int) :
    ((expire .running time).apply lane).isDegrading = lane.degradesAt time := by
  simp only [expire, degradesAt]
  by_cases lapsed : lane.isLapsed time = true
  · simp [lapsed, write, isDegrading]
  · simp [lapsed]

variable {lane : ControlLaneState} {earlier later : Int}

theorem expire_of_degradesAt {time : Int} (degrades : lane.degradesAt time = true)
    (resumed : ControlLaneStateValue) :
    (expire resumed time).apply lane = lane := by
  have unlapsed : lane.isLapsed time ≠ true := by
    intro lapsed
    simp [degradesAt, lapsed] at degrades
  exact if_neg unlapsed

theorem isLapsed_mono (ordered : earlier ≤ later)
    (lapsed : lane.isLapsed earlier = true) : lane.isLapsed later = true := by
  unfold isLapsed at lapsed ⊢
  cases ends : lane.cooldownUntil with
  | none => simp [ends] at lapsed
  | some _ =>
    simp only [ends, Bool.and_eq_true, decide_eq_true_eq] at lapsed ⊢
    exact ⟨lapsed.1, lapsed.2.trans ordered⟩

theorem degradesAt_expire (lane : ControlLaneState) (ordered : earlier ≤ later) :
    ((expire .running earlier).apply lane).degradesAt later = lane.degradesAt later := by
  by_cases lapsed : lane.isLapsed earlier = true
  · have stillLapsed := isLapsed_mono ordered lapsed
    simp only [expire, if_pos lapsed]
    simp [degradesAt, isDegrading, write, stillLapsed]
  · simp only [expire, if_neg lapsed]

end ControlLaneState

namespace ControlTables

variable (control : ControlTables)

def degradingLane (time : Int) : Option ControlLaneState :=
  control.listLaneStates.find? fun lane => lane.degradesAt time

def derivedState (time : Int) :
    ControlSystemState where
  masterSwitch := true
  globalState :=
    match control.degradingLane time with
    | some _ => .degraded
    | none => .healthy
  freezeReason :=
    match control.degradingLane time with
    | some lane => lane.reason
    | none => none

variable {control : ControlTables}

theorem degradingLane_isSome_iff {time : Int} :
    (control.degradingLane time).isSome = true ↔
      ∃ lane ∈ control.laneStates.rows, lane.degradesAt time = true := by
  unfold degradingLane
  rw [find?_isSome]
  simp only [mem_listLaneStates]

theorem listLaneStates_modify
    (control : ControlTables) (update : RowUpdate ControlLaneState.laneName) :
    listLaneStates
        { control with laneStates := control.laneStates.modify update } =
      control.listLaneStates.map update.apply := by
  refine (map_insertionSort LaneOrder LaneOrder update.apply _ ?_).symm
  intro first _ second _
  unfold LaneOrder
  rw [update.keepsKey, update.keepsKey]

theorem listLaneStates_expireCooldowns
    (isOn : control.systemState.masterSwitch = true) (now : Int) :
    (control.expireCooldowns now).listLaneStates = control.listLaneStates.map
        (ControlLaneState.expire .running now).apply := by
  have resumed : control.resumedState = .running := if_pos isOn
  rw [← resumed]
  exact control.listLaneStates_modify _

theorem find?_expire (lanes : List ControlLaneState) {earlier later : Int}
    (ordered : earlier ≤ later) :
    (lanes.map (ControlLaneState.expire .running earlier).apply).find?
        (fun lane => lane.degradesAt later) =
      lanes.find? fun lane => lane.degradesAt later := by
  induction lanes with
  | nil => rfl
  | cons lane _ ih =>
    rw [map_cons, find?_cons, find?_cons, lane.degradesAt_expire ordered, ih]
    cases degrades : lane.degradesAt later with
    | false => rfl
    | true =>
      have unlapsed : lane.degradesAt earlier = true := by
        simp only [ControlLaneState.degradesAt, Bool.and_eq_true, Bool.not_eq_true'] at degrades ⊢
        refine ⟨degrades.1, Bool.not_eq_true _ |>.mp fun lapsed => ?_⟩
        have later := ControlLaneState.isLapsed_mono ordered lapsed
        rw [later] at degrades
        cases degrades.2
      rw [ControlLaneState.expire_of_degradesAt unlapsed]

theorem degradingLane_expireCooldowns
    (isOn : control.systemState.masterSwitch = true) {earlier later : Int}
    (ordered : earlier ≤ later) :
    (control.expireCooldowns earlier).degradingLane later = control.degradingLane later := by
  unfold degradingLane
  rw [listLaneStates_expireCooldowns isOn, find?_expire _ ordered]

theorem expectedState_expireCooldowns (isOn : control.systemState.masterSwitch = true) (now : Int) :
    (control.expireCooldowns now).expectedState = ((control.derivedState now).globalState,
        (control.derivedState now).freezeReason) := by
  have same := degradingLane_expireCooldowns isOn (le_refl now)
  have asNow : (control.expireCooldowns now).listLaneStates.find?
      ControlLaneState.isDegrading = control.degradingLane now := by
    rw [← same]
    unfold degradingLane
    rw [listLaneStates_expireCooldowns isOn, find?_map, find?_map]
    congr 2
    funext lane
    simp only [Function.comp_apply, ControlLaneState.isDegrading_expire,
      lane.degradesAt_expire (le_refl now)]
  have switch : (control.expireCooldowns now).systemState.masterSwitch =
      true := isOn
  unfold expectedState derivedState
  rw [switch, asNow]
  cases control.degradingLane now with
  | none => rfl
  | some _ => rfl

theorem reconcile_derives (isOn : control.systemState.masterSwitch = true)
    (unfrozen : control.systemState.globalState ≠ .frozen) (now : Int) :
    (control.expireCooldowns now).reconcileSystemState.systemState = control.derivedState now := by
  have stays : (control.expireCooldowns now).systemState.globalState ≠
      .frozen := unfrozen
  rw [reconcileSystemState_unfrozen stays, expectedState_expireCooldowns isOn]
  have switch : (control.expireCooldowns now).systemState.masterSwitch =
      true := isOn
  change ControlSystemState.mk _ _ _ = _
  rw [switch]
  rfl

theorem degradingLane_congr {first second : ControlTables}
    (lanes : first.laneStates = second.laneStates) (time : Int) :
    first.degradingLane time = second.degradingLane time := by
  unfold degradingLane listLaneStates
  rw [lanes]

end ControlTables

/-! ## Marks and statuses -/

/-- Since a point in time the system is switched on and not frozen, and its
lanes degrade it as the lanes of `base` do. -/
structure StaysOn (base : ControlTables) (since : Int) (store : Store) :
    Prop where
  masterSwitch : store.control.systemState.masterSwitch = true
  unfrozen : store.control.systemState.globalState ≠ .frozen
  lanes : ∀ time, since ≤ time → store.control.degradingLane time = base.degradingLane time

/-- The system state is the one that the lanes of `base` call for. -/
def Derives (base : ControlTables) (time : Int) (store : Store) : Prop :=
  store.control.systemState = base.derivedState time

section

variable {base : ControlTables} {since now : Int} {store : Store}

theorem StaysOn.refl (isOn : store.control.systemState.masterSwitch = true)
    (unfrozen : store.control.systemState.globalState ≠ .frozen)
    (since : Int) : StaysOn store.control since store :=
  ⟨isOn, unfrozen, fun _ _ => rfl⟩

theorem derivedState_unfrozen (control : ControlTables) (time : Int) :
    (control.derivedState time).globalState ≠ .frozen := by
  unfold ControlTables.derivedState
  dsimp only
  split
  · decide
  · decide

theorem StaysOn.of_reconciled (stays : StaysOn base since store) (ordered : since ≤ now)
    (next : Store)
    (settled : next.control = (store.control.expireCooldowns now).reconcileSystemState) :
    StaysOn base now next ∧ Derives base now next := by
  have state := ControlTables.reconcile_derives stays.masterSwitch stays.unfrozen now
  have derived : next.control.systemState = base.derivedState now := by
    rw [settled, state]
    unfold ControlTables.derivedState
    rw [stays.lanes now ordered]
  refine ⟨⟨?_, ?_, fun time later => ?_⟩, derived⟩
  · rw [derived]
    rfl
  · rw [derived]
    exact derivedState_unfrozen base now
  · have sameLanes : next.control.laneStates = (store.control.expireCooldowns now).laneStates := by
      rw [settled]
      exact (ControlTables.reconcileSystemState_spec _).1
    rw [ControlTables.degradingLane_congr sameLanes,
      ControlTables.degradingLane_expireCooldowns stays.masterSwitch later]
    exact stays.lanes time (ordered.trans later)

theorem StaysOn.status (stays : StaysOn base since store) (ordered : since ≤ now) :
    StaysOn base now (ControlPlane.status store now).1 ∧
      Derives base now (ControlPlane.status store now).1 :=
  stays.of_reconciled ordered _ rfl

theorem StaysOn.withSystemState (stays : StaysOn base since store) (next : Store)
    (lanes : next.control.laneStates = store.control.laneStates)
    (isOn : next.control.systemState.masterSwitch = true)
    (unfrozen : next.control.systemState.globalState ≠ .frozen) :
    StaysOn base since next := by
  refine ⟨isOn, unfrozen, fun time later => ?_⟩
  rw [ControlTables.degradingLane_congr lanes]
  exact stays.lanes time later

theorem StaysOn.syncGlobalState (stays : StaysOn base since store) (ordered : since ≤ now)
    (reason : String) :
    StaysOn base now (ControlPlane.syncGlobalState store now reason).1 ∧ Derives base now
        (ControlPlane.syncGlobalState store now reason).1 := by
  obtain ⟨settled, _⟩ := stays.of_reconciled ordered
    { store with
      control := (store.control.expireCooldowns now).reconcileSystemState }
    rfl
  unfold ControlPlane.syncGlobalState
  dsimp only
  split
  · apply StaysOn.status ?_ le_rfl
    exact settled.withSystemState _ rfl settled.masterSwitch settled.unfrozen
  · exact settled.status le_rfl

theorem StaysOn.markDegraded (stays : StaysOn base since store) (ordered : since ≤ now)
    (reason : String) :
    StaysOn base now (ControlPlane.markDegraded store now reason).1 ∧
      Derives base now (ControlPlane.markDegraded store now reason).1 := by
  unfold ControlPlane.markDegraded
  rw [if_neg stays.unfrozen]
  apply StaysOn.syncGlobalState ?_ ordered reason
  refine stays.withSystemState _ rfl stays.masterSwitch ?_
  change GlobalSystemState.degraded ≠ .frozen
  decide

def statuses (store : Store) (times : List Int) : Store :=
  times.foldl (fun store time => (ControlPlane.status store time).1) store

theorem StaysOn.statuses (stays : StaysOn base since store) (derives : Derives base since store)
    {times : List Int} (advances : (since :: times).IsChain (· ≤ ·)) :
    ∃ last, since ≤ last ∧ Derives base last (statuses store times) := by
  induction times generalizing since store with
  | nil => exact ⟨since, le_rfl, derives⟩
  | cons _ _ ih =>
    obtain ⟨ordered, rest⟩ := isChain_cons_cons.mp advances
    obtain ⟨stays, derives⟩ := stays.status ordered
    obtain ⟨last, later, holds⟩ := ih stays derives rest
    exact ⟨last, ordered.trans later, holds⟩

end

def IsMarked (reason : String) (store : Store) : Prop :=
  store.control.systemState.globalState = .degraded ∧
    store.control.systemState.freezeReason = some reason

instance (reason : String) (store : Store) : Decidable (IsMarked reason store) :=
  inferInstanceAs (Decidable (_ ∧ _))

/-- The mark of `mark_degraded` survives every status that follows it. -/
def MarkStays (store : Store) (now : Int) (reason : String) : Prop :=
  ∀ times : List Int, (now :: times).IsChain (· ≤ ·) → IsMarked reason
      (statuses (ControlPlane.markDegraded store now reason).1 times)

def LanesGiveReason (control : ControlTables) (now : Int) (reason : String) :
    Prop :=
  ∀ time, now ≤ time → ∃ lane, control.degradingLane time = some lane ∧
      lane.reason = some reason

theorem isMarked_iff_of_derives {base : ControlTables} {time : Int} {store : Store}
    (derives : Derives base time store) (reason : String) :
    IsMarked reason store ↔ ∃ lane, base.degradingLane time = some lane ∧
        lane.reason = some reason := by
  unfold IsMarked
  rw [derives]
  unfold ControlTables.derivedState
  cases base.degradingLane time with
  | none => simp
  | some _ => simp

theorem markStays_iff {store : Store} (isOn : store.control.systemState.masterSwitch = true)
    (unfrozen : store.control.systemState.globalState ≠ .frozen) (now : Int)
    (reason : String) :
    MarkStays store now reason ↔ LanesGiveReason store.control now reason := by
  obtain ⟨stays, derives⟩ := (StaysOn.refl isOn unfrozen now).markDegraded le_rfl reason
  constructor
  · intro marked time later
    have advances : [now, time].IsChain (· ≤ ·) := by simpa using later
    exact (isMarked_iff_of_derives (stays.status later).2 reason).mp (marked [time] advances)
  · intro given times advances
    obtain ⟨last, later, holds⟩ := stays.statuses derives advances
    exact (isMarked_iff_of_derives holds reason).mpr (given last later)

/-! ## A tick of the watch service -/

namespace ControlLaneState

def mentions (word text : String) : Bool := word.toList <:+: (lowerAscii text).toList

/-- The pause that `_check_budget_recovery` looks for. -/
def isPausedForBudget (lane : ControlLaneState) : Bool :=
  let reason := lane.reason.getD ""
  lane.state = .paused && (mentions "budget" reason || mentions "credit" reason)

end ControlLaneState

/-- One call of `run_once`: its clock readings, the answers of the cost
tracker, and what the evaluation of the stuck state has found and recorded. -/
structure WatchTick where
  recoveredAt : Int
  markedAt : Int
  answeredAt : Int
  checkBudget : String → Except PyError Bool
  matchedRules : List String
  stuckEvents : List ControlEvent := []
  snapshots : List ControlEvent := []

namespace ControlWatchService

/-- `ORDER BY created_at`. -/
def OldestProject (first second : Project) : Prop := first.createdAt ≤ second.createdAt

instance : DecidableRel OldestProject := fun _ _ => inferInstanceAs (Decidable (_ ≤ _))

def firstWithinBudget (checkBudget : String → Except PyError Bool) :
    List Project → Option String
  | [] => none
  | project :: projects =>
    match checkBudget project.id with
    | .error _ => none
    | .ok true => some project.id
    | .ok false => firstWithinBudget checkBudget projects

variable (store : Store)

def recoveredProject (checkBudget : String → Except PyError Bool) : Option String :=
  match store.control.laneStates.lookup "worker" with
  | none => none
  | some lane =>
    if lane.isPausedForBudget then
      firstWithinBudget checkBudget (orderBy OldestProject store.projects.rows)
    else none

def checkBudgetRecovery (now : Int) (checkBudget : String → Except PyError Bool) : Store :=
  match recoveredProject store checkBudget with
  | none => store
  | some projectId =>
    match ControlPlane.resumeLane store now "worker" "budget_recovered" with
    | (store, .error _) => store
    | (store, .ok _) =>
      ControlPlane.recordEvent store now "budget_recovered" "lane"
        "worker" [("project_id", .str projectId)]

def recordEvents (events : List ControlEvent) : Store :=
  ControlPlane.onControl store fun control => { control with events := control.events ++ events }

variable (tick : WatchTick)

def runOnce : Store × StatusReport :=
  let store := checkBudgetRecovery store tick.recoveredAt tick.checkBudget
  let store :=
    if tick.matchedRules.isEmpty then
      (ControlPlane.markHealthy store tick.markedAt "stuck_checks_passed").1
    else
      let marked := ControlPlane.markDegraded store tick.markedAt
        (",".intercalate tick.matchedRules)
      recordEvents marked.1 tick.stuckEvents
  ControlPlane.status (recordEvents store tick.snapshots) tick.answeredAt

def Resumes (checkBudget : String → Except PyError Bool) (lane : ControlLaneState) : Prop :=
  lane.laneName = "worker" ∧ (recoveredProject store checkBudget).isSome = true

def LanesDegrade : Prop :=
  ∃ lane ∈ store.control.laneStates.rows, lane.degradesAt tick.answeredAt = true ∧
      ¬ Resumes store tick.checkBudget lane

section

variable {store : Store}

theorem hasLane_of_recoveredProject
    {checkBudget : String → Except PyError Bool} {projectId : String}
    (recovered : recoveredProject store checkBudget = some projectId) :
    ControlPlane.hasLane store "worker" = true := by
  unfold recoveredProject at recovered
  unfold ControlPlane.hasLane
  cases found : store.control.laneStates.lookup "worker" with
  | none =>
    rw [found] at recovered
    cases recovered
  | some _ => rfl

def recoveredBase (store : Store) (checkBudget : String → Except PyError Bool) : ControlTables :=
  match recoveredProject store checkBudget with
  | none => store.control
  | some _ => (ControlPlane.writeLane store "worker" .running "budget_recovered" none).control

theorem checkBudgetRecovery_staysOn (isOn : store.control.systemState.masterSwitch = true)
    (unfrozen : store.control.systemState.globalState ≠ .frozen) (now : Int)
    (checkBudget : String → Except PyError Bool) :
    StaysOn (recoveredBase store checkBudget) now (checkBudgetRecovery store now checkBudget) := by
  unfold checkBudgetRecovery recoveredBase
  cases recovered : recoveredProject store checkBudget with
  | none => exact StaysOn.refl isOn unfrozen now
  | some _ =>
    have present := hasLane_of_recoveredProject recovered
    have resumed : store.control.resumedState = .running := if_pos isOn
    unfold ControlPlane.resumeLane
    rw [if_neg unfrozen, if_pos present, resumed]
    have written : StaysOn (ControlPlane.writeLane store "worker" .running "budget_recovered"
          none).control now
        (ControlPlane.recordEvent (ControlPlane.writeLane store "worker" .running
            "budget_recovered" none) now "lane_resumed" "lane" "worker"
          [("reason", .str "budget_recovered"),
            ("state", .str ControlLaneStateValue.running.value)]) :=
      ⟨isOn, unfrozen, fun _ _ => rfl⟩
    obtain ⟨synced, _⟩ := written.syncGlobalState le_rfl "budget_recovered"
    exact synced.withSystemState _ rfl synced.masterSwitch synced.unfrozen

theorem degrades_recoveredBase_iff (checkBudget : String → Except PyError Bool) (time : Int) :
    (∃ lane ∈ (recoveredBase store checkBudget).laneStates.rows, lane.degradesAt time = true) ↔
      ∃ lane ∈ store.control.laneStates.rows,
        lane.degradesAt time = true ∧ ¬ Resumes store checkBudget lane := by
  unfold recoveredBase Resumes
  cases recovered : recoveredProject store checkBudget with
  | none => simp
  | some _ =>
    have resumedRuns : ∀ lane : ControlLaneState,
        ((ControlLaneState.write .running "budget_recovered" none).apply
          lane).degradesAt time = false := fun _ => rfl
    change (∃ lane ∈ store.control.laneStates.rows.map _, _) ↔ _
    simp only [mem_map, exists_exists_and_eq_and, Option.isSome_some, and_true, RowUpdate.at]
    refine exists_congr fun lane => and_congr_right fun _ => ?_
    by_cases named : lane.laneName = "worker"
    · simp [named, resumedRuns]
    · simp [named]

theorem runOnce_degraded_iff (isOn : store.control.systemState.masterSwitch = true)
    (unfrozen : store.control.systemState.globalState ≠ .frozen)
    {tick : WatchTick} (stuck : tick.matchedRules ≠ [])
    (marked : tick.recoveredAt ≤ tick.markedAt)
    (answered : tick.markedAt ≤ tick.answeredAt) :
    (runOnce store tick).2.globalState = .degraded ↔ LanesDegrade store tick := by
  have recovered := checkBudgetRecovery_staysOn isOn unfrozen tick.recoveredAt tick.checkBudget
  obtain ⟨stays, _⟩ := recovered.markDegraded marked (",".intercalate tick.matchedRules)
  have matched : ¬ tick.matchedRules.isEmpty = true := by simpa [List.isEmpty_iff] using stuck
  have noted := stays.withSystemState (recordEvents (recordEvents (ControlPlane.markDegraded
          (checkBudgetRecovery store tick.recoveredAt tick.checkBudget)
          tick.markedAt (",".intercalate tick.matchedRules)).1
        tick.stuckEvents) tick.snapshots)
    rfl stays.masterSwitch stays.unfrozen
  obtain ⟨_, derives⟩ := noted.status answered
  unfold LanesDegrade runOnce
  dsimp only
  rw [if_neg matched, ← degrades_recoveredBase_iff, ← ControlTables.degradingLane_isSome_iff]
  change (ControlPlane.status _ _).1.control.systemState.globalState = _ ↔ _
  rw [derives]
  unfold ControlTables.derivedState
  cases (recoveredBase store tick.checkBudget).degradingLane tick.answeredAt with
  | none => simp
  | some _ => simp

end

/-- In a system that is switched on and not frozen, the mark of
`mark_degraded` stays exactly when the lanes give its reason from then on, and
a stuck evaluation leaves a degraded status exactly when a lane degrades. -/
theorem markDegraded_stays_iff
    (store : Store) (isOn : store.control.systemState.masterSwitch = true)
    (unfrozen : store.control.systemState.globalState ≠ .frozen) :
    (∀ (now : Int) (reason : String),
      MarkStays store now reason ↔ LanesGiveReason store.control now reason) ∧
    ∀ tick : WatchTick, tick.matchedRules ≠ [] →
      tick.recoveredAt ≤ tick.markedAt → tick.markedAt ≤ tick.answeredAt →
        ((runOnce store tick).2.globalState = .degraded ↔ LanesDegrade store tick) :=
  ⟨fun now reason => markStays_iff isOn unfrozen now reason,
    fun _ stuck marked answered => runOnce_degraded_iff isOn unfrozen stuck marked answered⟩

def stuckStore : Store :=
  ControlRun.performed (ControlRun.initialized {})
    [⟨0, .operation .turnOn⟩, ⟨1, .operation (.pauseLane "worker" "stuck")⟩]

theorem mark_stays_on_paused_lane : MarkStays stuckStore 2 "stuck" := by
  refine ((markDegraded_stays_iff stuckStore (by decide) (by decide)).1 2 "stuck").mpr ?_
  intro time _
  exact ⟨_, rfl, rfl⟩

/-- Without a degrading lane the mark is lost at once, and with it the status
of a stuck evaluation. -/
theorem mark_lost_on_running_lanes :
    (¬ ∀ (actions : List TimedAction) (now : Int) (reason : String),
      let store := ControlRun.performed (ControlRun.initialized {}) actions
      store.control.systemState.masterSwitch = true →
        store.control.systemState.globalState ≠ .frozen → MarkStays store now reason) ∧
      (runOnce (ControlRun.performed (ControlRun.initialized {}) [⟨0, .operation .turnOn⟩])
        { recoveredAt := 1, markedAt := 1, answeredAt := 1, checkBudget := fun _ => .ok true
          matchedRules := ["Stalled objective exists"] }).2.globalState =
        .healthy := by
  constructor
  · intro claim
    have marked := claim [⟨0, .operation .turnOn⟩] 1 "stuck" (by decide) (by decide) [] (by simp)
    exact absurd marked (by decide)
  · decide

end ControlWatchService

end AccruviaHarness
