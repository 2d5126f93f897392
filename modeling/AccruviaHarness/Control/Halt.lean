import AccruviaHarness.Control.Effects
import AccruviaHarness.Library.Runs
import AccruviaHarness.Services.QueueService

/-!
# A halt holds

A system that is frozen or off has no running lane, and a frozen system that is
switched on starts no run.
-/

namespace AccruviaHarness

open Library

structure StateRespects (system : ControlSystemState)
    (state : ControlLaneStateValue) : Prop where
  enabled : state ≠ .disabled
  halted : system.globalState = .frozen ∨ system.masterSwitch = false → state ≠ .running
  frozen : system.globalState = .frozen → system.masterSwitch = true → state ≠ .cooldown

def IsDerived (system : ControlSystemState) : Prop :=
  system.globalState = .frozen ∨ (system.masterSwitch = false ∧ system.globalState = .off) ∨
      (system.masterSwitch = true ∧
        (system.globalState = .healthy ∨ system.globalState = .degraded))

structure HaltInvariant (control : ControlTables) : Prop where
  derived : IsDerived control.systemState
  lanes : ∀ lane ∈ control.laneStates.rows, StateRespects control.systemState lane.state
  worker : ∃ lane ∈ control.laneStates.rows, lane.laneName = "worker"

namespace ControlOperation

def setsRunning : ControlOperation → Bool
  | .observe .taskStarted => true
  | .observe (.failureDiagnostic _ _ _ _ classified _) => classified.keepsRunning
  | .observe (.backendsUnavailable classified) => classified.keepsRunning
  | _ => false

def entersCooldown : ControlOperation → Bool
  | .enterCooldown _ _ _ => true
  | .observe (.failureDiagnostic _ _ _ _ classified _) => classified.entersCooldown
  | .observe (.backendsUnavailable classified) => classified.entersCooldown
  | _ => false

end ControlOperation

/-- The call does not set a lane running while the system is halted, and it
enters no cooldown, which ends by itself, while the system is frozen and
switched on. -/
structure RespectsHalt (store : Store) (call : ControlCall) : Prop where
  running : call.operation.setsRunning = true → store.control.systemState.globalState ≠ .frozen ∧
      store.control.systemState.globalState ≠ .off
  cooldown : call.operation.entersCooldown = true →
    store.control.systemState.globalState = .frozen →
      store.control.systemState.masterSwitch = false

namespace StateRespects

variable {system : ControlSystemState}

theorem paused (system : ControlSystemState) : StateRespects system .paused :=
  ⟨by decide, fun _ => by decide, fun _ _ => by decide⟩

theorem running (unfrozen : system.globalState ≠ .frozen)
    (isOn : system.masterSwitch = true) : StateRespects system .running := by
  refine ⟨by decide, ?_, fun _ _ => by decide⟩
  rintro (frozen | isOff)
  · exact absurd frozen unfrozen
  · rw [isOn] at isOff
    cases isOff

theorem cooldown (ends : system.globalState = .frozen → system.masterSwitch = false) :
    StateRespects system .cooldown := by
  refine ⟨by decide, fun _ => by decide, ?_⟩
  intro frozen isOn
  rw [ends frozen] at isOn
  cases isOn

variable {state : ControlLaneStateValue}

theorem congr {next : ControlSystemState} (respects : StateRespects system state)
    (frozen : next.globalState = .frozen → system.globalState = .frozen)
    (switch : next.masterSwitch = system.masterSwitch) :
    StateRespects next state := by
  refine ⟨respects.enabled, ?_, ?_⟩
  · rw [switch]
    rintro (isFrozen | isOff)
    · exact respects.halted (.inl (frozen isFrozen))
    · exact respects.halted (.inr isOff)
  · rw [switch]
    intro isFrozen
    exact respects.frozen (frozen isFrozen)

theorem writeAt {lane : ControlLaneState} (respects : StateRespects system lane.state)
    (written : StateRespects system state)
    (laneName reason : String) (cooldownUntil : Option Int) :
    StateRespects system (((ControlLaneState.write state reason cooldownUntil).at
        laneName).apply lane).state := by
  simp only [RowUpdate.at]
  split
  · exact written
  · exact respects

end StateRespects

theorem IsDerived.switchedOn {system : ControlSystemState} (derived : IsDerived system)
    (unfrozen : system.globalState ≠ .frozen)
    (notOff : system.globalState ≠ .off) : system.masterSwitch = true := by
  rcases derived with frozen | ⟨_, off⟩ | ⟨isOn, _⟩
  · exact absurd frozen unfrozen
  · exact absurd off notOff
  · exact isOn

namespace ControlLaneState

theorem writeEnabled_state {lane : ControlLaneState} (enabled : lane.state ≠ .disabled)
    (state : ControlLaneStateValue) (reason : String) :
    ((writeEnabled state reason).apply lane).state = state := by
  simp [writeEnabled, enabled, write]

end ControlLaneState

section

variable {store : Store} {lane : ControlLaneState}
  (derived : IsDerived store.control.systemState)
  (respects : StateRespects store.control.systemState lane.state)

include respects in
theorem degradedState_respects (reason : String) :
    StateRespects (ControlPlane.degradedState store.control.systemState reason)
      lane.state := by
  unfold ControlPlane.degradedState
  split
  · exact respects
  · exact respects.congr nofun rfl

include derived respects in
open ControlRuntimeObserver in
theorem classifiedEffect_respects (now : Int) (classified : FailureClassification)
    (running : classified.keepsRunning = true → store.control.systemState.globalState ≠ .frozen ∧
        store.control.systemState.globalState ≠ .off)
    (cooldown : classified.entersCooldown = true →
      store.control.systemState.globalState = .frozen →
        store.control.systemState.masterSwitch = false) :
    StateRespects (classifiedEffect store now classified).systemState
      ((classifiedEffect store now classified).lane.apply lane).state := by
  unfold classifiedEffect
  dsimp only
  split_ifs with limited credit keeps
  · exact respects.writeAt (StateRespects.cooldown (cooldown limited)) _ _ _
  · exact respects.writeAt (StateRespects.paused _) _ _ _
  · obtain ⟨unfrozen, notOff⟩ := running keeps
    have isOn := derived.switchedOn unfrozen notOff
    exact respects.writeAt (StateRespects.running unfrozen isOn) _ _ _
  · exact (degradedState_respects respects _).writeAt (StateRespects.paused _) _ _ _

include derived respects in
theorem effectOf_respects (call : ControlCall) (respectsHalt : RespectsHalt store call) :
    StateRespects (effectOf store call.now call.operation).systemState
      ((effectOf store call.now call.operation).lane.apply lane).state := by
  obtain ⟨now, operation⟩ := call
  have running := respectsHalt.running
  have cooldown := respectsHalt.cooldown
  cases operation with
  | turnOn =>
    simp only [effectOf, ControlLaneState.writeEnabled_state respects.enabled]
    exact StateRespects.running (by decide) rfl
  | turnOff =>
    simp only [effectOf, ControlLaneState.writeEnabled_state respects.enabled]
    exact StateRespects.paused _
  | freeze _ =>
    simp only [effectOf, ControlLaneState.writeEnabled_state respects.enabled]
    exact StateRespects.paused _
  | thaw =>
    by_cases isOn : store.control.systemState.masterSwitch = true
    · simp only [effectOf, if_pos isOn, ControlLaneState.writeEnabled_state respects.enabled]
      exact StateRespects.running GlobalSystemState.noConfusion isOn
    · simp only [effectOf, if_neg isOn]
      exact respects.congr (fun same => by cases same) rfl
  | markDegraded reason => exact degradedState_respects respects reason
  | markHealthy _ => exact respects
  | status => exact respects
  | pauseLane _ _ => exact respects.writeAt (StateRespects.paused _) _ _ _
  | resumeLane _ _ =>
    by_cases frozen : store.control.systemState.globalState = .frozen
    · simp only [effectOf, if_pos frozen]
      exact respects
    · simp only [effectOf, if_neg frozen]
      refine respects.writeAt ?_ _ _ _
      unfold ControlTables.resumedState
      split
      next isOn => exact StateRespects.running frozen isOn
      · exact StateRespects.paused _
  | enterCooldown _ _ _ => exact respects.writeAt (StateRespects.cooldown (cooldown rfl)) _ _ _
  | observe event =>
    cases event with
    | taskStarted =>
      obtain ⟨unfrozen, notOff⟩ := running rfl
      have isOn := derived.switchedOn unfrozen notOff
      exact respects.writeAt (StateRespects.running unfrozen isOn) _ _ _
    | runCreated _ _ _ => exact respects
    | taskFinished _ _ _ _ => exact respects
    | failureDiagnostic runId taskId runStatus taskStatus classified
        bundleDir =>
        exact classifiedEffect_respects derived respects now classified running cooldown
    | backendsUnavailable classified =>
      exact classifiedEffect_respects derived respects now classified running cooldown
    | other _ => exact respects

end

theorem effectOf_systemState (store : Store) (now : Int) (operation : ControlOperation)
    (unsettled : (effectOf store now operation).settles = false) :
    (effectOf store now operation).systemState =
      store.control.systemState := by
  have classified_systemState : ∀ classified,
      (ControlRuntimeObserver.classifiedEffect store now classified).settles = false →
        (ControlRuntimeObserver.classifiedEffect store now
          classified).systemState = store.control.systemState := by
    intro classified unsettled
    unfold ControlRuntimeObserver.classifiedEffect at unsettled ⊢
    dsimp only at unsettled ⊢
    split_ifs at unsettled ⊢ with limited credit keeps
    · rfl
    · rfl
    · rfl
  cases operation with
  | turnOn | turnOff | freeze | thaw | markDegraded => cases unsettled
  | markHealthy | status | pauseLane | enterCooldown => rfl
  | resumeLane _ _ =>
    simp only [effectOf]
    split <;> rfl
  | observe event =>
    cases event with
    | taskStarted | runCreated | taskFinished | other => rfl
    | failureDiagnostic runId taskId runStatus taskStatus classified
        bundleDir =>
        apply classified_systemState classified
        exact (Bool.or_eq_false_iff.mp unsettled).1
    | backendsUnavailable classified => exact classified_systemState classified unsettled

variable {current next : ControlSystemState} {control : ControlTables}

theorem Reconciled.isDerived (reconciled : Reconciled current next) : IsDerived next := by
  by_cases frozen : current.globalState = .frozen
  · exact .inl (reconciled.frozen frozen)
  · cases switch : current.masterSwitch with
    | false =>
      exact .inr (.inl ⟨reconciled.masterSwitch.trans switch, reconciled.off frozen switch⟩)
    | true =>
      exact .inr (.inr ⟨reconciled.masterSwitch.trans switch, reconciled.on frozen switch⟩)

theorem Reconciled.frozen_iff (reconciled : Reconciled current next) :
    next.globalState = .frozen ↔ current.globalState = .frozen := by
  refine ⟨?_, reconciled.frozen⟩
  intro frozen
  by_contra unfrozen
  cases switch : current.masterSwitch with
  | false =>
    rw [reconciled.off unfrozen switch] at frozen
    cases frozen
  | true =>
    rcases reconciled.on unfrozen switch with healthy | degraded
    · rw [healthy] at frozen
      cases frozen
    · rw [degraded] at frozen
      cases frozen

theorem StateRespects.expire {lane : ControlLaneState}
    (respects : StateRespects control.systemState lane.state) (now : Int) :
    StateRespects control.systemState
      ((ControlLaneState.expire control.resumedState now).apply lane).state := by
  simp only [ControlLaneState.expire]
  split
  next lapsed =>
    simp only [ControlLaneState.isLapsed, Bool.and_eq_true, decide_eq_true_eq] at lapsed
    simp only [ControlLaneState.write, ControlTables.resumedState]
    split
    next isOn =>
      refine StateRespects.running ?_ isOn
      intro frozen
      exact respects.frozen frozen isOn lapsed.1
    · exact StateRespects.paused _
  · exact respects

theorem HaltInvariant.of_settled {now : Int} {next : ControlTables}
    (lanes : ∀ lane ∈ control.laneStates.rows, StateRespects control.systemState lane.state)
    (worker : ∃ lane ∈ control.laneStates.rows, lane.laneName = "worker")
    (settled : Settled now control next) : HaltInvariant next := by
  refine ⟨settled.reconciled.isDerived, ?_, ?_⟩
  · intro lane member
    rw [settled.lanes] at member
    obtain ⟨earlier, earlierMember, rfl⟩ := List.mem_map.mp member
    exact ((lanes earlier earlierMember).expire now).congr
      settled.reconciled.frozen_iff.mp settled.reconciled.masterSwitch
  · obtain ⟨lane, member, named⟩ := worker
    rw [settled.lanes]
    exact ⟨_, List.mem_map_of_mem member, (RowUpdate.keepsKey _ lane).trans named⟩

theorem HaltInvariant.perform {store : Store} {call : ControlCall}
    (invariant : HaltInvariant store.control)
    (respectsHalt : RespectsHalt store call) :
    HaltInvariant (performControl store call).control := by
  have follows := performControl_follows store call
  have written : ∀ lane ∈ store.control.laneStates.rows,
      StateRespects (effectOf store call.now call.operation).systemState
        ((effectOf store call.now call.operation).lane.apply lane).state :=
    fun lane member => effectOf_respects invariant.derived
      (invariant.lanes lane member) call respectsHalt
  obtain ⟨workerLane, workerMember, named⟩ := invariant.worker
  cases settles : (effectOf store call.now call.operation).settles with
  | true =>
    apply HaltInvariant.of_settled ?_ ?_ (follows.settled settles)
    · intro lane member
      obtain ⟨earlier, earlierMember, rfl⟩ := List.mem_map.mp member
      exact written earlier earlierMember
    · exact ⟨_, List.mem_map_of_mem workerMember, (RowUpdate.keepsKey _ workerLane).trans named⟩
  | false =>
    obtain ⟨systemState, rows⟩ := follows.raw settles
    have sameSystem := effectOf_systemState store call.now call.operation settles
    refine ⟨?_, ?_, ?_⟩
    · rw [systemState, sameSystem]
      exact invariant.derived
    · intro lane member
      rw [rows] at member
      obtain ⟨earlier, earlierMember, rfl⟩ := List.mem_map.mp member
      rw [systemState]
      exact written earlier earlierMember
    · rw [rows]
      exact ⟨_, List.mem_map_of_mem workerMember, (RowUpdate.keepsKey _ workerLane).trans named⟩

namespace ControlRun

def step (store : Store) (call : ControlCall) : Option Store := some (performControl store call)

variable (store : Store)

def initialized : Store := ControlPlane.ensureControlLanes { store with control := {} }

theorem initialized_haltInvariant : HaltInvariant (initialized store).control := by
  refine ⟨.inr (.inl ⟨rfl, rfl⟩), ?_, ?_⟩
  · intro lane member
    have paused : ∀ lane ∈ (initialized {}).control.laneStates.rows,
        lane.state = .paused := by
      decide
    rw [paused lane member]
    exact StateRespects.paused _
  · have worker : ∃ lane ∈ (initialized {}).control.laneStates.rows,
        lane.laneName = "worker" := by
      decide
    exact worker

def LanesHalted : Prop :=
  store.control.systemState.globalState = .frozen ∨
      store.control.systemState.globalState = .off →
    ∀ lane ∈ store.control.laneStates.rows, lane.state ≠ .running

instance (store : Store) : Decidable (LanesHalted store) :=
  inferInstanceAs (Decidable (_ ∨ _ → ∀ lane ∈ _, _))

/-- `process_next_task` starts no run while the system is frozen and switched
on. -/
def DispatchHalted : Prop :=
  store.control.systemState.globalState = .frozen →
    store.control.systemState.masterSwitch = true →
      ∀ request, (QueueService.processNextTask store request).1.runs = store.runs

variable {store : Store}

theorem lanesHalted_of_invariant (invariant : HaltInvariant store.control) : LanesHalted store := by
  rintro halt lane member
  apply (invariant.lanes lane member).halted
  rcases halt with frozen | off
  · exact .inl frozen
  · rcases invariant.derived with frozen | ⟨isOff, _⟩ | ⟨_, healthy | degraded⟩
    · exact .inl frozen
    · exact .inr isOff
    · rw [off] at healthy
      cases healthy
    · rw [off] at degraded
      cases degraded

theorem workerLaneBlocks_of_frozen (invariant : HaltInvariant store.control)
    (frozen : store.control.systemState.globalState = .frozen)
    (isOn : store.control.systemState.masterSwitch = true) :
    QueueService.workerLaneBlocks store = true := by
  obtain ⟨lane, member, named⟩ := invariant.worker
  have found : store.control.laneStates.lookup "worker" = some lane :=
    (KeyedTable.lookup_eq_some_iff _).mpr ⟨member, named⟩
  have respects := invariant.lanes lane member
  have paused : lane.state = .paused := by
    cases state : lane.state with
    | running => exact absurd state (respects.halted (.inl frozen))
    | cooldown => exact absurd state (respects.frozen frozen isOn)
    | disabled => exact absurd state respects.enabled
    | paused => rfl
  simp [QueueService.workerLaneBlocks, isOn, found, paused]

theorem dispatchHalted_of_invariant (invariant : HaltInvariant store.control) :
    DispatchHalted store := by
  intro frozen isOn request
  have blocks := workerLaneBlocks_of_frozen invariant frozen isOn
  rcases QueueService.processNextTask_cases store request with
    ⟨taskLeases, _, outcome, _⟩ | ⟨taskLeases, task, _, _, _, _, unblocked, _⟩
  · rw [outcome]
  · have blocked : QueueService.dispatchBlock { store with taskLeases }
        request.now task = some "Worker lane is paused." :=
      if_pos blocks
    rw [blocked] at unblocked
    cases unblocked

/-- In every run from an initialized store whose calls respect a halt, no lane
runs while the system is frozen or off, and a frozen system that is switched
on starts no run. -/
theorem halt_holds (store target : Store) (calls : List ControlCall)
    (respects : StepsMeet step RespectsHalt (initialized store) calls)
    (run : runEvents step (initialized store) calls = some target) :
    LanesHalted target ∧ DispatchHalted target := by
  have rule := @runEvents_invariant_of_guard Store ControlCall step
    RespectsHalt fun store => HaltInvariant store.control
  have invariant : HaltInvariant target.control := by
    refine rule ?_ (initialized_haltInvariant store) respects run
    rintro _ _ _ holds respectsHalt ⟨rfl⟩
    exact holds.perform respectsHalt
  exact ⟨lanesHalted_of_invariant invariant, dispatchHalted_of_invariant invariant⟩

def frozenStore : Store :=
  performControl (performControl (initialized {}) { now := 0, operation := .turnOn })
    { now := 1, operation := .freeze "incident" }

theorem halt_holds_when_frozen :
    frozenStore.control.systemState.globalState = .frozen ∧
      frozenStore.control.systemState.masterSwitch = true ∧
        LanesHalted frozenStore ∧ DispatchHalted frozenStore := by
  refine ⟨rfl, rfl, ?_⟩
  refine halt_holds {} frozenStore [{ now := 0, operation := .turnOn },
      { now := 1, operation := .freeze "incident" }] ?_ rfl
  intro _ _
  refine ⟨⟨nofun, nofun⟩, ?_⟩
  intro _ _
  exact ⟨⟨nofun, nofun⟩, trivial⟩

def queuedStore : Store where
  projects := .single { id := "project" }
  tasks := .single { id := "task", projectId := "project" }

def queuedRequest : DispatchRequest where
  now := 0
  answers :=
    { runId := "run", workResult := .ok { summary := "", artifacts := [], outcome := "failed" } }

/-- A store that was never switched on is off, and its queue is worked. A task
that starts while the system is frozen, or a cooldown that is entered then and
ends, sets a lane running. -/
theorem halt_not_unconditional :
    (¬ ∀ (store target : Store) (calls : List ControlCall),
      runEvents step (initialized store) calls = some target → LanesHalted target ∧
          (target.control.systemState.globalState = .frozen ∨
              target.control.systemState.globalState = .off →
            ∀ request, (QueueService.processNextTask target request).1.runs = target.runs)) ∧
      ¬ LanesHalted (performControl frozenStore
          { now := 2, operation := .observe .taskStarted }) ∧
        ¬ LanesHalted (performControl (performControl frozenStore
              { now := 2, operation := .enterCooldown "worker" "provider_outage" 1 })
            { now := 2 + secondsSpan 1, operation := .status }) := by
  refine ⟨?_, by decide, by decide⟩
  intro claim
  have halted := (claim queuedStore (initialized queuedStore) [] rfl).2 (.inr rfl) queuedRequest
  have started : (QueueService.processNextTask (initialized queuedStore)
      queuedRequest).1.runs.rows.length = 1 := by
    decide
  rw [halted] at started
  cases started

end ControlRun

end AccruviaHarness
