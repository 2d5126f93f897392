import AccruviaHarness.Library.Runs
import AccruviaHarness.Workflows.LifecycleRunner

/-!
# The persisted phase of an objective

Runners of one objective are constructed and called in any order over one
store.
-/

namespace AccruviaHarness

open Library List
open ObjectiveLifecycleRunner (firstTarget)

structure LifecycleWorld where
  objectiveId : String
  store : Store
  /-- The phases that the runners have in memory. -/
  runners : List ObjectivePhase
  events : List LifecycleEvent

inductive LifecycleStep where
  | construct
  | call (runner : Nat) (call : RunnerCall)

namespace LifecycleWorld

def start (store : Store) (objectiveId : String) : LifecycleWorld where
  objectiveId
  store
  runners := []
  events := []

variable (world : LifecycleWorld)

def persistedPhase : Option ObjectivePhase := world.store.persistedPhase world.objectiveId

def runnerAt (phase : ObjectivePhase) :
    ObjectiveLifecycleRunner where
  objectiveId := world.objectiveId
  phase
  store := world.store
  persists := true
  events := world.events

def step (world : LifecycleWorld) : LifecycleStep → Option LifecycleWorld
  | .construct =>
    let phase := ObjectiveLifecycleRunner.initialPhase world.store world.objectiveId true
    some
      { world with
        runners := world.runners ++ [phase]
        events := world.events ++
          [.constructed phase world.persistedPhase] }
  | .call runner call =>
    world.runners[runner]?.map fun phase =>
      let called := (world.runnerAt phase).perform call
      { world with
        store := called.store, runners := world.runners.set runner called.phase
        events := called.events }

def Durable : LifecycleEvent → Prop
  | .constructed phase (some persisted) => phase = persisted
  | .entered phase (some persisted) => persisted.Allows phase
  | _ => True

def PhasesDurable : Prop := ∀ event ∈ world.events, Durable event

/-- A runner is constructed while the row is in its first phase, and a call
that enters a phase does it over a row that may go to that phase. -/
def GoesOnFromRow (world : LifecycleWorld) : LifecycleStep → Prop
  | .construct => ∀ persisted,
      world.persistedPhase = some persisted → persisted = .created
  | .call runner call => ∀ phase target persisted, world.runners[runner]? = some phase →
        firstTarget phase call = some target →
          world.persistedPhase = some persisted → persisted.Allows target

end LifecycleWorld

namespace ObjectiveLifecycleRunner

open LifecycleWorld

variable (runner : ObjectiveLifecycleRunner)

def Sound : Prop := ∀ event ∈ runner.events, Durable event

def Current : Prop :=
  runner.persists = true → ∀ persisted,
    runner.store.persistedPhase runner.objectiveId = some persisted →
      persisted = runner.phase

variable {runner : ObjectiveLifecycleRunner}

theorem sound_record_iff {event : LifecycleEvent}
    (harmless : Durable event) : (runner.record event).Sound ↔
      runner.Sound := by
  unfold Sound record
  rw [forall_mem_append, forall_mem_singleton]
  exact and_iff_left harmless

theorem persistedPhase_setObjectivePhase
    (store : Store) (objectiveId : String) (phase : ObjectivePhase) :
    (store.setObjectivePhase objectiveId phase).persistedPhase objectiveId =
      (store.persistedPhase objectiveId).map fun _ => phase := by
  unfold Store.persistedPhase Store.setObjectivePhase
  rw [KeyedTable.lookup_updateAt]
  cases store.objectives.lookup objectiveId <;> simp

theorem current_enter (runner : ObjectiveLifecycleRunner) (phase : ObjectivePhase) :
    (runner.enter phase).Current := by
  intro persists persisted found
  have persists : runner.persists = true := persists
  simp only [enter, persists, if_true,
    persistedPhase_setObjectivePhase, Option.map_eq_some_iff] at found
  obtain ⟨_, _, same⟩ := found
  exact same.symm

theorem sound_enter_iff (phase : ObjectivePhase) :
    (runner.enter phase).Sound ↔ runner.Sound ∧
      (runner.persists = true → ∀ persisted,
        runner.store.persistedPhase runner.objectiveId = some persisted →
          persisted.Allows phase) := by
  unfold Sound enter
  rw [forall_mem_append, forall_mem_singleton]
  refine and_congr_right fun _ => ?_
  by_cases persists : runner.persists = true
  · rw [if_pos persists, forall_prop_of_true persists]
    cases runner.store.persistedPhase runner.objectiveId with
    | none => exact iff_of_true trivial nofun
    | some persisted =>
      constructor
      · rintro allowed _ ⟨⟩
        exact allowed
      · intro allowed
        exact allowed persisted rfl
  · rw [if_neg persists]
    exact iff_of_true trivial fun given => absurd given persists

theorem firstTargetDecides_sound (call : RunnerCall) :
    FirstTargetDecides Sound Current call where
  entered := current_enter
  later := by
    intro runner current target _ allowed
    rw [sound_enter_iff]
    refine and_iff_left ?_
    intro persists persisted found
    rw [current persists persisted found]
    exact allowed
  recorded := by
    intro runner event recorded
    refine sound_record_iff ?_
    cases call with
    | approveMermaid =>
      cases mem_singleton.mp recorded
      trivial
    | completeTasks =>
      cases mem_singleton.mp recorded
      trivial
    | runReviewAndPromote answers =>
      cases mem_singleton.mp recorded
      cases answers.promotion <;> exact trivial
    | runThroughMermaid => cases recorded
    | runTrioAndCreateTasks => cases recorded
    | advance => cases recorded

theorem sound_perform_iff (persists : runner.persists = true)
    (sound : runner.Sound) (call : RunnerCall) :
    (runner.perform call).Sound ↔ ∀ target persisted, firstTarget runner.phase call = some target →
        runner.store.persistedPhase runner.objectiveId = some persisted →
          persisted.Allows target := by
  rw [holds_perform_iff (firstTargetDecides_sound call) runner]
  cases firstTarget runner.phase call with
  | none => exact iff_of_true sound nofun
  | some target =>
    dsimp only
    rw [sound_enter_iff, and_iff_right sound, forall_prop_of_true persists]
    constructor
    · rintro allowed _ persisted ⟨⟩ found
      exact allowed persisted found
    · intro allowed persisted found
      exact allowed target persisted rfl found

end ObjectiveLifecycleRunner

namespace LifecycleWorld

theorem initialPhase_eq_created (store : Store) (objectiveId : String) :
    ObjectiveLifecycleRunner.initialPhase store objectiveId true =
      .created := by
  unfold ObjectiveLifecycleRunner.initialPhase Store.getObjective
  cases store.objectives.lookup objectiveId <;> rfl

theorem phasesDurable_step_iff {world next : LifecycleWorld} {taken : LifecycleStep}
    (durable : world.PhasesDurable) (stepped : world.step taken = some next) :
    next.PhasesDurable ↔ world.GoesOnFromRow taken := by
  cases taken with
  | construct =>
    cases stepped
    have added : Durable (.constructed .created world.persistedPhase) ↔
        world.GoesOnFromRow .construct := by
      unfold GoesOnFromRow
      cases world.persistedPhase with
      | none => exact iff_of_true trivial nofun
      | some _ => simp [Durable, eq_comm]
    unfold PhasesDurable
    rw [forall_mem_append, forall_mem_singleton, initialPhase_eq_created]
    exact (and_iff_right durable).trans added
  | call _ call =>
    simp only [step, Option.map_eq_some_iff] at stepped
    obtain ⟨phase, found, rfl⟩ := stepped
    have sound : (world.runnerAt phase).Sound := durable
    refine (ObjectiveLifecycleRunner.sound_perform_iff rfl sound call).trans ?_
    constructor
    · intro allowed inMemory target persisted sameRunner first row
      cases found.symm.trans sameRunner
      exact allowed target persisted first row
    · intro goesOn target persisted first row
      exact goesOn phase target persisted found first row

/-- Over any store and any sequence of constructions and calls, the persisted
phase is durable in every state reached exactly when every step goes on from
the row's phase. -/
theorem phasesDurable_iff_steps_go_on_from_row
    (store : Store) (objectiveId : String) (steps : List LifecycleStep) :
    EveryStep step (fun _ _ next => next.PhasesDurable) (start store objectiveId) steps ↔
      StepsMeet step GoesOnFromRow (start store objectiveId) steps := by
  refine everyStep_iff_of_invariant ?preserved ?agree
    (show (start store objectiveId).PhasesDurable from nofun) steps
  case preserved =>
    intro world taken next durable goesOn stepped
    exact (phasesDurable_step_iff durable stepped).mpr goesOn
  case agree =>
    intro world taken next durable stepped
    exact phasesDurable_step_iff durable stepped

section

def createdStore : Store where
  objectives := .single { id := "objective", projectId := "project" }

def restartedRun : List LifecycleStep :=
  [.construct, .call 0 (.runThroughMermaid succeedingAnswers),
    .construct, .call 1 (.runThroughMermaid succeedingAnswers)]

/-- The restarted runner starts over, and the row goes back from the mermaid
review to the interrogation. -/
theorem restart_rewinds_persisted_phase :
    ∃ world, runEvents step (start createdStore "objective") restartedRun = some world ∧
        .constructed .created (some .mermaidReview) ∈ world.events ∧
        .entered .interrogating (some .mermaidReview) ∈ world.events ∧
        ¬ world.PhasesDurable := by
  refine ⟨_, rfl, ?constructed, ?entered, ?rewound⟩
  case constructed => decide
  case entered => decide
  case rewound =>
    intro durable
    have entered := durable (.entered .interrogating (some .mermaidReview)) (by decide)
    have refused : ¬ ObjectivePhase.mermaidReview.Allows .interrogating := by decide
    exact refused entered

end

end LifecycleWorld

end AccruviaHarness
