import AccruviaHarness.Control.Halt

/-!
# A pause of the worker lane

The worker lane that `pause_lane` has paused is set running again by exactly
two kinds of calls besides those that lift the pause: an event that sets it
running, and a call that finds its cooldown over.
-/

namespace AccruviaHarness

open Library

namespace ControlOperation

def liftsPause : ControlOperation → Bool
  | .turnOn | .thaw => true
  | .resumeLane laneName _ => laneName = "worker"
  | _ => false

/-- The operation reaches `pause_lane` with the worker lane. -/
def pausesWorker : ControlOperation → Bool
  | .pauseLane laneName _ => laneName = "worker"
  | .observe (.failureDiagnostic _ _ _ _ classified _) =>
    classified.classification = "credit_exhaustion"
  | .observe (.backendsUnavailable classified) => classified.classification = "credit_exhaustion"
  | _ => false

def writesWorker : ControlOperation → Bool
  | .turnOn | .turnOff | .freeze _ | .thaw => true
  | .pauseLane laneName _ | .resumeLane laneName _
  | .enterCooldown laneName _ _ => laneName = "worker"
  | .observe .taskStarted => true
  | .observe (.failureDiagnostic _ _ _ _ _ _) => true
  | .observe (.backendsUnavailable _) => true
  | _ => false

def entersSpentCooldown : ControlOperation → Bool
  | .enterCooldown laneName _ seconds => laneName = "worker" && seconds ≤ 0
  | _ => false

end ControlOperation

namespace WorkerPause

variable (store : Store)

def workerLane : Option ControlLaneState := store.control.laneStates.lookup "worker"

def WorkerRunning : Prop := (workerLane store).map ControlLaneState.state = some .running

instance (store : Store) : Decidable (WorkerRunning store) := inferInstanceAs (Decidable (_ = _))

def WorkerLapsed (now : Int) : Prop :=
  (workerLane store).map (fun lane => lane.isLapsed now) = some true

instance (store : Store) (now : Int) : Decidable (WorkerLapsed store now) :=
  inferInstanceAs (Decidable (_ = _))

/-- The call sets the worker lane running: an event does so, or the system is
switched on and a cooldown of the lane is over, one that the call enters or one
that it finds when it settles the tables. -/
def ResumesWorker (call : ControlCall) : Prop :=
  call.operation.setsRunning = true ∨ (store.control.systemState.masterSwitch = true ∧
      (call.operation.entersSpentCooldown = true ∨ (call.operation.writesWorker = false ∧
          (effectOf store call.now call.operation).settles = true ∧ WorkerLapsed store call.now)))

instance (store : Store) (call : ControlCall) : Decidable (ResumesWorker store call) :=
  inferInstanceAs (Decidable (_ ∨ _ ∧ (_ ∨ _ ∧ _ ∧ _)))

def step (store : Store) (call : ControlCall) : Option Store :=
  if call.operation.liftsPause then none else some (performControl store call)

def WorkerHalted : Prop := ∃ lane, workerLane store = some lane ∧ lane.state ≠ .running

def RunsAfter (effect : ControlEffect) (now : Int) (lane : ControlLaneState) :
    Prop :=
  (effect.lane.apply lane).state = .running ∨
    (effect.settles = true ∧ effect.systemState.masterSwitch = true ∧
      (effect.lane.apply lane).isLapsed now = true)

variable {lane : ControlLaneState} {store : Store}

theorem expire_running_iff {control : ControlTables} {now : Int} :
    ((ControlLaneState.expire control.resumedState now).apply lane).state = .running ↔
      lane.state = .running ∨ (control.systemState.masterSwitch = true ∧
          lane.isLapsed now = true) := by
  by_cases lapsed : lane.isLapsed now = true
  · have cooling : lane.state = .cooldown := by
      simp only [ControlLaneState.isLapsed, Bool.and_eq_true, decide_eq_true_eq] at lapsed
      exact lapsed.1
    cases switch : control.systemState.masterSwitch with
    | true =>
      simp [ControlLaneState.expire, lapsed, ControlLaneState.write,
        ControlTables.resumedState, switch]
    | false =>
      simp [ControlLaneState.expire, lapsed, ControlLaneState.write,
        ControlTables.resumedState, switch, cooling]
  · simp [ControlLaneState.expire, lapsed]

theorem workerRunning_perform (found : workerLane store = some lane) (call : ControlCall) :
    (∃ later, workerLane (performControl store call) = some later) ∧
      (WorkerRunning (performControl store call) ↔
        RunsAfter (effectOf store call.now call.operation) call.now lane) := by
  have follows := performControl_follows store call
  generalize effectOf store call.now call.operation = effect at follows ⊢
  have written : (effect.written store.control).laneStates.lookup "worker" =
      some (effect.lane.apply lane) := by
    refine (KeyedTable.lookup_modify _ _ _).trans ?_
    rw [show store.control.laneStates.lookup "worker" = some lane from found]
    rfl
  unfold WorkerRunning RunsAfter workerLane
  cases settles : effect.settles with
  | true =>
    have settled : (performControl store call).control.laneStates =
        (effect.written store.control).laneStates.modify (ControlLaneState.expire
            (effect.written store.control).resumedState call.now) :=
      KeyedTable.ext (follows.settled settles).lanes
    rw [settled, KeyedTable.lookup_modify, written]
    refine ⟨⟨_, rfl⟩, ?_⟩
    simp only [Option.map_some, Option.some.injEq, true_and]
    exact expire_running_iff
  | false =>
    have raw : (performControl store call).control.laneStates =
        store.control.laneStates.modify effect.lane :=
      KeyedTable.ext (follows.raw settles).2
    rw [raw]
    refine ⟨⟨_, written⟩, ?_⟩
    rw [show (store.control.laneStates.modify effect.lane).lookup "worker" =
      some (effect.lane.apply lane) from written]
    simp

theorem named_of_found (found : workerLane store = some lane) : lane.laneName = "worker" :=
  (KeyedTable.lookup_eq_some_iff _ |>.mp found).2

theorem hasLane_of_found (found : workerLane store = some lane) :
    ControlPlane.hasLane store "worker" = true := by
  unfold ControlPlane.hasLane
  rw [show store.control.laneStates.lookup "worker" = some lane from found]
  rfl

section

variable {store : Store} {lane : ControlLaneState}
  (found : workerLane store = some lane) (halted : lane.state ≠ .running)

include found in
theorem runsAfter_write (state : ControlLaneStateValue) (reason : String)
    (systemState : ControlSystemState) (settles : Bool) (now : Int) :
    RunsAfter
        { systemState, lane := (ControlLaneState.write state reason none).at "worker"
          settles } now lane ↔ state = .running := by
  have named := named_of_found found
  unfold RunsAfter
  simp only [RowUpdate.at, named, if_true, ControlLaneState.isLapsed_write,
    Bool.false_eq_true, and_false, or_false]
  exact .rfl

include found halted in
theorem runsAfter_unwritten {call : ControlCall}
    (switch : (effectOf store call.now call.operation).systemState.masterSwitch =
      store.control.systemState.masterSwitch)
    (unwritten : (effectOf store call.now call.operation).lane.apply lane = lane)
    (notRunning : call.operation.setsRunning = false)
    (notSpent : call.operation.entersSpentCooldown = false)
    (notWritten : call.operation.writesWorker = false) :
    RunsAfter (effectOf store call.now call.operation) call.now lane ↔
      ResumesWorker store call := by
  unfold RunsAfter ResumesWorker WorkerLapsed
  rw [unwritten, switch, found, notRunning, notSpent, notWritten]
  simp only [halted, false_or, Option.map_some, Option.some.injEq, Bool.false_eq_true, true_and]
  exact and_left_comm

theorem not_resumesWorker {call : ControlCall} (notRunning : call.operation.setsRunning = false)
    (notSpent : call.operation.entersSpentCooldown = false)
    (written : call.operation.writesWorker = true) :
    ¬ ResumesWorker store call := by
  unfold ResumesWorker
  rw [notRunning, notSpent, written]
  simp

include found in
theorem runsAfter_cooldown (now : Int) (reason : String) (seconds : Int)
    (systemState : ControlSystemState) (settles : Bool) :
    RunsAfter
        { systemState
          lane := (ControlLaneState.write .cooldown reason
            (some (now + secondsSpan (max seconds 0)))).at "worker"
          settles } now lane ↔
      settles = true ∧ systemState.masterSwitch = true ∧ seconds ≤ 0 := by
  have named := named_of_found found
  have spent : now + secondsSpan (max seconds 0) ≤ now ↔ seconds ≤ 0 := by
    unfold secondsSpan
    omega
  unfold RunsAfter
  simp [RowUpdate.at, named, ControlLaneState.write, ControlLaneState.isLapsed, spent]

include found in
theorem runsAfter_classified (now : Int) (classified : FailureClassification) (settles : Bool) :
    RunsAfter
        { ControlRuntimeObserver.classifiedEffect store now classified with
          settles } now lane ↔ classified.keepsRunning = true := by
  unfold ControlRuntimeObserver.classifiedEffect
  dsimp only
  split_ifs with limited credit keeps
  · have long := (FailureClassification.entersCooldown_iff.mp limited).2
    have listed := (FailureClassification.entersCooldown_iff.mp limited).1
    have failing : ¬ classified.keepsRunning = true := by
      rw [FailureClassification.keepsRunning_iff]
      rcases listed with rateLimit | outage
      · rw [rateLimit]
        decide
      · rw [outage]
        decide
    refine iff_of_false ?_ failing
    intro runs
    have spent := (runsAfter_cooldown found now _ _ _ settles).mp runs
    omega
  · have failing : ¬ classified.keepsRunning = true := by
      rw [FailureClassification.keepsRunning_iff, credit]
      decide
    refine iff_of_false ?_ failing
    intro runs
    cases (runsAfter_write found .paused _ _ settles now).mp runs
  · exact iff_of_true ((runsAfter_write found .running _ _ settles now).mpr rfl) keeps
  · refine iff_of_false ?_ keeps
    intro runs
    cases (runsAfter_write found .paused _ _ settles now).mp runs

omit found halted in
theorem not_runsAfter_pauseAll (reason : String) (systemState : ControlSystemState) (now : Int) :
    ¬ RunsAfter
        { systemState, lane := ControlLaneState.writeEnabled .paused reason
          settles := true } now lane := by
  by_cases disabled : lane.state = .disabled
  · simp [RunsAfter, ControlLaneState.writeEnabled, disabled, ControlLaneState.isLapsed]
  · simp [RunsAfter, ControlLaneState.writeEnabled, disabled,
      ControlLaneState.write, ControlLaneState.isLapsed]

include found in
theorem at_other {laneName : String} (other : laneName ≠ "worker")
    (update : RowUpdate ControlLaneState.laneName) :
    (update.at laneName).apply lane = lane := by
  have named := named_of_found found
  exact if_neg fun same => other (same.symm.trans named)

include found halted in
theorem runsAfter_event_iff (now : Int) (event : ObserverEvent) :
    RunsAfter (effectOf store now (.observe event)) now lane ↔
      ResumesWorker store { now, operation := .observe event } := by
  cases event with
  | taskStarted =>
    exact iff_of_true ((runsAfter_write found .running "task_started" _ false now).mpr rfl)
      (.inl rfl)
  | runCreated runId taskId attempt =>
    exact @runsAfter_unwritten store lane found halted
      { now, operation := .observe (.runCreated runId taskId attempt) }
      rfl rfl rfl rfl rfl
  | taskFinished runId runStatus taskId status =>
    exact @runsAfter_unwritten store lane found halted
      { now, operation := .observe (.taskFinished runId runStatus taskId status) }
      rfl rfl rfl rfl rfl
  | other eventType =>
    exact @runsAfter_unwritten store lane found halted
      { now, operation := .observe (.other eventType) } rfl rfl rfl rfl rfl
  | failureDiagnostic _ _ _ _ classified _ =>
    refine (runsAfter_classified found now classified _).trans ?_
    simp [ResumesWorker, ControlOperation.setsRunning,
      ControlOperation.entersSpentCooldown, ControlOperation.writesWorker]
  | backendsUnavailable classified =>
    refine (runsAfter_classified found now classified _).trans ?_
    simp [ResumesWorker, ControlOperation.setsRunning,
      ControlOperation.entersSpentCooldown, ControlOperation.writesWorker]

include found halted in
theorem runsAfter_iff (call : ControlCall) (unlifted : call.operation.liftsPause = false) :
    RunsAfter (effectOf store call.now call.operation) call.now lane ↔
      ResumesWorker store call := by
  obtain ⟨now, operation⟩ := call
  cases operation with
  | turnOn => cases unlifted
  | thaw => cases unlifted
  | turnOff => exact iff_of_false (not_runsAfter_pauseAll _ _ now) (not_resumesWorker rfl rfl rfl)
  | freeze _ => exact iff_of_false (not_runsAfter_pauseAll _ _ now) (not_resumesWorker rfl rfl rfl)
  | markDegraded _ =>
    refine runsAfter_unwritten found halted ?_ rfl rfl rfl rfl
    simp only [effectOf, ControlPlane.degradedState]
    split <;> rfl
  | markHealthy _ => exact runsAfter_unwritten found halted rfl rfl rfl rfl rfl
  | status => exact runsAfter_unwritten found halted rfl rfl rfl rfl rfl
  | pauseLane laneName reason =>
    by_cases named : laneName = "worker"
    · subst named
      refine iff_of_false ?_ (not_resumesWorker rfl rfl rfl)
      intro runs
      cases (runsAfter_write found .paused reason _ _ now).mp runs
    · exact runsAfter_unwritten found halted rfl (at_other found named _) rfl
        rfl (decide_eq_false named)
  | resumeLane laneName _ =>
    have other : laneName ≠ "worker" := of_decide_eq_false unlifted
    by_cases frozen : store.control.systemState.globalState = .frozen
    · refine runsAfter_unwritten found halted ?_ ?_ rfl rfl unlifted
      · simp only [effectOf, if_pos frozen]
      · simp only [effectOf, if_pos frozen]
        rfl
    · refine runsAfter_unwritten found halted ?_ ?_ rfl rfl unlifted
      · simp only [effectOf, if_neg frozen]
      · simp only [effectOf, if_neg frozen]
        exact at_other found other _
  | enterCooldown laneName reason seconds =>
    by_cases named : laneName = "worker"
    · subst named
      refine (runsAfter_cooldown found now reason seconds _ _).trans ?_
      simp [ResumesWorker, ControlOperation.setsRunning,
        ControlOperation.entersSpentCooldown, ControlOperation.writesWorker,
        hasLane_of_found found]
    · refine runsAfter_unwritten found halted rfl (at_other found named _) rfl
        ?_ (decide_eq_false named)
      simp [ControlOperation.entersSpentCooldown, named]
  | observe event => exact runsAfter_event_iff found halted now event

end

theorem workerHalted_perform (halted : WorkerHalted store) {call : ControlCall}
    (unlifted : call.operation.liftsPause = false) :
    (∃ lane, workerLane (performControl store call) = some lane) ∧
      (WorkerRunning (performControl store call) ↔ ResumesWorker store call) := by
  obtain ⟨_, found, notRunning⟩ := halted
  obtain ⟨present, running⟩ := workerRunning_perform found call
  exact ⟨present, running.trans (runsAfter_iff found notRunning call unlifted)⟩

theorem workerHalted_of_not_running (present : ∃ lane, workerLane store = some lane)
    (notRunning : ¬ WorkerRunning store) : WorkerHalted store := by
  obtain ⟨lane, found⟩ := present
  refine ⟨lane, found, ?_⟩
  intro running
  apply notRunning
  rw [WorkerRunning, found]
  exact congrArg some running

variable {pause : ControlCall}

theorem not_runsAfter_pause (found : workerLane store = some lane)
    (pauses : pause.operation.pausesWorker = true) :
    ¬ RunsAfter (effectOf store pause.now pause.operation) pause.now lane := by
  have exhausted : ∀ classified : FailureClassification,
      classified.classification = "credit_exhaustion" → ¬ classified.keepsRunning = true := by
    intro classified credit
    rw [FailureClassification.keepsRunning_iff, credit]
    decide
  obtain ⟨now, operation⟩ := pause
  intro runs
  cases operation with
  | pauseLane laneName reason =>
    have named : laneName = "worker" := of_decide_eq_true pauses
    subst named
    cases (runsAfter_write found .paused reason _ _ now).mp runs
  | observe event =>
    cases event with
    | failureDiagnostic runId taskId runStatus taskStatus classified
        bundleDir =>
        exact exhausted classified (of_decide_eq_true pauses)
          ((runsAfter_classified found now classified _).mp runs)
    | backendsUnavailable classified =>
      exact exhausted classified (of_decide_eq_true pauses)
        ((runsAfter_classified found now classified _).mp runs)
    | taskStarted | runCreated | taskFinished | other => cases pauses
  | turnOn | turnOff | freeze | thaw | markDegraded | markHealthy |
    resumeLane | enterCooldown | status => cases pauses

theorem workerHalted_of_pause (present : ControlPlane.hasLane store "worker" = true)
    (pauses : pause.operation.pausesWorker = true) :
    WorkerHalted (performControl store pause) := by
  obtain ⟨_, found⟩ := Option.isSome_iff_exists.mp present
  obtain ⟨later, running⟩ := workerRunning_perform found pause
  exact workerHalted_of_not_running later (mt running.mp (not_runsAfter_pause found pauses))

/-- After a pause of the worker lane, in every run up to a call that may lift
the pause, the lane is never running exactly when no call resumes it. -/
theorem pause_persists_iff_not_resumed (store : Store) (pause : ControlCall)
    (present : ControlPlane.hasLane store "worker" = true)
    (pauses : pause.operation.pausesWorker = true)
    (calls : List ControlCall) :
    EveryStep step (fun _ _ next => ¬ WorkerRunning next) (performControl store pause) calls ↔
      StepsMeet step (fun source call => ¬ ResumesWorker source call)
        (performControl store pause) calls := by
  have taken : ∀ {source next : Store} {call : ControlCall}, step source call = some next →
        call.operation.liftsPause = false ∧ performControl source call = next := by
    intro source next call outcome
    unfold step at outcome
    split at outcome
    · cases outcome
    next unlifted => exact ⟨Bool.not_eq_true _ |>.mp unlifted, Option.some.inj outcome⟩
  refine everyStep_iff_of_invariant ?_ ?_ (workerHalted_of_pause present pauses) calls
  · intro source call next halted notResumed outcome
    obtain ⟨unlifted, rfl⟩ := taken outcome
    obtain ⟨later, running⟩ := workerHalted_perform halted unlifted
    exact workerHalted_of_not_running later (mt running.mp notResumed)
  · intro source call next halted outcome
    obtain ⟨unlifted, rfl⟩ := taken outcome
    exact not_congr (workerHalted_perform halted unlifted).2

def switchedOnStore : Store :=
  performControl (ControlRun.initialized {}) { now := 0, operation := .turnOn }

def operatorPause : ControlCall where
  now := 1
  operation := .pauseLane "worker" "operator_pause"

theorem pause_persists_for_operator :
    EveryStep step (fun _ _ next => ¬ WorkerRunning next)
        (performControl switchedOnStore operatorPause)
        [{ now := 2, operation := .status }] ↔
      StepsMeet step (fun source call => ¬ ResumesWorker source call)
        (performControl switchedOnStore operatorPause)
        [{ now := 2, operation := .status }] :=
  pause_persists_iff_not_resumed switchedOnStore operatorPause rfl rfl _

/-- A task in flight that starts after an operator has paused the worker lane
sets it running; so does a failure of the task itself after the observer has
paused the lane for exhausted credit. -/
theorem paused_lane_runs_again :
    ¬ EveryStep step (fun _ _ next => ¬ WorkerRunning next)
        (performControl switchedOnStore operatorPause)
        [{ now := 2, operation := .observe .taskStarted }] ∧
      ¬ EveryStep step (fun _ _ next => ¬ WorkerRunning next) (performControl switchedOnStore
            { now := 1
              operation := .observe (.backendsUnavailable
                { classification := "credit_exhaustion", cooldownSeconds := 0 }) })
          [{ now := 2
             operation := .observe (.failureDiagnostic "run" "task" "failed"
              .none
              { classification := "code_defect", cooldownSeconds := 0 } "bundle") }] := by
  constructor
  · decide
  · decide

end WorkerPause

end AccruviaHarness
