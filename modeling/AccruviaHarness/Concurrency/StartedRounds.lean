import AccruviaHarness.Reviews.ReviewRounds
import AccruviaHarness.Services.AtomicGeneration

/-!
# The rounds that are started

Calls of `queue_atomic_generation` and `queue_objective_review` in one process.
-/

namespace AccruviaHarness

open Library HarnessUIDataService List Option

inductive RoundKind where
  | generation
  | review
  deriving DecidableEq

/-- A call of `queue_atomic_generation`, cut at its store calls. A call whose
coordinator has started its worker goes on as the worker. -/
inductive GenerationStage where
  | entering
  | drawing (objective : Objective)
  | reading (objective : Objective) (version : Int)
  | interrupting (objective : Objective) (version : Int) (current : GenerationState)
  | rereading (objective : Objective) (version : Int)
  | starting (objective : Objective) (version : Int)
  | launching (generationId : String)
  | working (generationId : String)

namespace GenerationStage

def unlessCurrent (current : GenerationState) (objective : Objective) (version : Int) :
    Option GenerationStage :=
  if (current.status = .running ∨ current.status = .completed) ∧
      current.diagramVersion.getD 0 = version then none
  else some (.starting objective version)

def advance (registered : Bool) (answers : GenerationAnswers) (objectiveId : String)
    (store : Store) : GenerationStage → Store × Option GenerationStage
  | .entering => (store, (store.getObjective objectiveId).map .drawing)
  | .drawing objective =>
    (store, ((store.latestMermaidArtifactOf objectiveId workflowControl).filter
      fun mermaid => mermaid.status = .finished).map fun mermaid =>
        .reading objective mermaid.version)
  | .reading objective version =>
    (store, (atomicGenerationState store objectiveId).toOption.bind fun current =>
      if atomicGenerationIsStale { answers with threadAlive := registered } current then
        some (.interrupting objective version current)
      else unlessCurrent current objective version)
  | .interrupting objective version current =>
    (stateOf (markAtomicGenerationInterrupted answers objectiveId current store),
      some (.rereading objective version))
  | .rereading objective version =>
    (store, (atomicGenerationState store objectiveId).toOption.bind fun current =>
      unlessCurrent current objective version)
  | .starting objective version =>
    (stateOf (Generation.announce
        { objective, id := answers.generationId, diagramVersion := version } answers store),
      some (.launching answers.generationId))
  | .launching generationId => (store, some (.working generationId))
  | .working _ => (store, none)

end GenerationStage

inductive RoundCall where
  | generation (objectiveId : String) (stage : GenerationStage)
  | review (objectiveId : String) (thread : ReviewThread objectiveId)

structure RoundChoice where
  generation : GenerationAnswers
  review : ∀ objectiveId, ReviewChoice objectiveId

namespace RoundCall

def lane : RoundCall → RoundKind × String
  | generation objectiveId _ => (.generation, objectiveId)
  | review objectiveId _ => (.review, objectiveId)

def starts (choice : RoundChoice) : RoundCall → Option (RoundKind × String)
  | generation _ (.starting _ _) => some (.generation, choice.generation.generationId)
  | review objectiveId (.starting _) => some (.review, (choice.review objectiveId).reviewId)
  | _ => none

def launches : RoundCall → Option (RoundKind × String)
  | generation _ (.launching generationId) => some (.generation, generationId)
  | review _ (.launching reviewId) => some (.review, reviewId)
  | _ => none

def works : RoundCall → Bool
  | generation _ (.working _) | review _ (.working _ _) => true
  | _ => false

def advance (registered : Bool) (choice : RoundChoice) (store : Store) :
    RoundCall → Store × Option RoundCall
  | generation objectiveId stage =>
    let called := stage.advance registered choice.generation objectiveId store
    (called.1, called.2.map (generation objectiveId))
  | review objectiveId thread =>
    match thread.advance registered choice.generation.now (choice.review objectiveId)
        store with
    | .goes after next => (after, some (review objectiveId next))
    | .ends after => (after, none)

end RoundCall

/-- The store, the keys that the coordinators have registered, and the calls
and workers by their slots, with the rounds recorded as started and those
whose worker has been started. -/
structure StartWorld where
  store : Store
  running : List (RoundKind × String)
  calls : Nat → Option RoundCall
  started : List (RoundKind × String)
  executed : List (RoundKind × String)

inductive StartEvent where
  | queueAtomicGeneration (slot : Nat) (objectiveId : String)
  | queueObjectiveReview (slot : Nat) (objectiveId : String)
  | advance (slot : Nat) (choice : RoundChoice)
  /-- The call or worker raises. -/
  | raise (slot : Nat)
  /-- Any other writes: new diagrams, failures, what a worker records. -/
  | writes (change : Store → Store)

namespace StartWorld

def initial (store : Store) : StartWorld where
  store
  running := []
  calls := fun _ => none
  started := []
  executed := []

variable (world : StartWorld) (slot : Nat)

def place (call : Option RoundCall) : StartWorld :=
  { world with calls := Function.update world.calls slot call }

def finish (call : RoundCall) : StartWorld :=
  { world.place slot none with
    running := if call.works then world.running.filter (· ≠ call.lane) else world.running }

/-- `start` of the coordinator. -/
def launch (call : RoundCall) (next : Option RoundCall) (round : RoundKind × String) : StartWorld :=
  if call.lane ∈ world.running then world.place slot none
  else
    { world.place slot next with
      running := call.lane :: world.running, executed := round :: world.executed }

def proceed (choice : RoundChoice) (call : RoundCall) : Option StartWorld :=
  let called := call.advance (decide (call.lane ∈ world.running)) choice world.store
  match call.launches, call.starts choice, called.2 with
  | some round, _, next => some (world.launch slot call next round)
  | none, some round, next =>
    if round ∈ world.started then none
    else some { world.place slot next with
      store := called.1
      started := round :: world.started }
  | none, none, some next => some { world.place slot (some next) with store := called.1 }
  | none, none, none => some { world.finish slot call with store := called.1 }

def enter (call : RoundCall) : Option StartWorld :=
  match world.calls slot with
  | some _ => none
  | none => some (world.place slot (some call))

def step (world : StartWorld) : StartEvent → Option StartWorld
  | .queueAtomicGeneration slot objectiveId => world.enter slot (.generation objectiveId .entering)
  | .queueObjectiveReview slot objectiveId => world.enter slot (.review objectiveId .checking)
  | .advance slot choice => (world.calls slot).bind (world.proceed slot choice)
  | .raise slot => (world.calls slot).map (world.finish slot)
  | .writes change => some { world with store := change world.store }

def Launching (round : RoundKind × String) : Prop :=
  (world.calls slot).bind RoundCall.launches = some round

def NoOrphan : Prop :=
  ∀ round ∈ world.started, round ∈ world.executed ∨ ∃ slot, world.Launching slot round

/-- No worker runs where a call asks for one, and no call raises between its
record and its worker. -/
def StartsFree (world : StartWorld) : StartEvent → Prop
  | .advance slot _ => ∀ call ∈ world.calls slot, call.launches.isSome → call.lane ∉ world.running
  | .raise slot => ∀ call ∈ world.calls slot, call.launches = none
  | _ => True

instance decidableStartsFree (world : StartWorld) : DecidablePred world.StartsFree
  | .advance slot _ => inferInstanceAs (Decidable (∀ call ∈ world.calls slot, _))
  | .raise slot => inferInstanceAs (Decidable (∀ call ∈ world.calls slot, _))
  | .queueAtomicGeneration _ _ | .queueObjectiveReview _ _ | .writes _ => isTrue trivial

/-- No round has two workers, and a call about to ask for a worker is the only
one for its round, which has none. -/
structure Sound (world : StartWorld) : Prop where
  once : world.executed.Nodup
  executed : ∀ round ∈ world.executed, round ∈ world.started
  started : ∀ slot round, world.Launching slot round →
    round ∈ world.started ∧ round ∉ world.executed
  distinct : ∀ slot other round, world.Launching slot round →
    world.Launching other round → slot = other

end StartWorld

/-! ## The steps of a call -/

namespace RoundCall

variable {registered : Bool} {choice : RoundChoice} {store : Store} {call next : RoundCall}
  {round : RoundKind × String}

theorem exists_of_launches (launches : call.launches = some round) :
    call.starts choice = none ∧ ∃ next, (call.advance registered choice store).2 = some next ∧
        next.launches = none := by
  unfold RoundCall.launches at launches
  split at launches
  · exact ⟨rfl, _, rfl, rfl⟩
  · exact ⟨rfl, _, rfl, rfl⟩
  · cases launches

theorem exists_of_starts (starts : call.starts choice = some round) :
    call.launches = none ∧ ∃ next, (call.advance registered choice store).2 = some next ∧
        next.launches = some round := by
  unfold RoundCall.starts at starts
  split at starts
  · cases starts
    exact ⟨rfl, _, rfl, rfl⟩
  · cases starts
    exact ⟨rfl, _, rfl, rfl⟩
  · cases starts

theorem launches_generation_advance {answers : GenerationAnswers} {objectiveId : String}
    {stage after : GenerationStage}
    (unstarting : ∀ objective version, stage ≠ .starting objective version)
    (advanced : (stage.advance registered answers objectiveId store).2 = some after) :
    (generation objectiveId after).launches = none := by
  have decided : ∀ {current objective version after},
      GenerationStage.unlessCurrent current objective version = some after →
        (generation objectiveId after).launches = none := by
    intro current objective version after found
    unfold GenerationStage.unlessCurrent at found
    split at found
    · cases found
    · cases found
      rfl
  unfold GenerationStage.advance at advanced
  cases stage with
  | entering | drawing objective =>
    obtain ⟨_, _, rfl⟩ := map_eq_some_iff.mp advanced
    rfl
  | reading _ _ =>
    obtain ⟨current, _, found⟩ := bind_eq_some_iff.mp advanced
    split at found
    · cases found
      rfl
    · exact decided found
  | rereading _ _ =>
    obtain ⟨current, _, found⟩ := bind_eq_some_iff.mp advanced
    exact decided found
  | interrupting _ _ _ =>
    cases advanced
    rfl
  | launching _ =>
    cases advanced
    rfl
  | working _ => cases advanced
  | starting objective version => exact absurd rfl (unstarting objective version)

theorem launches_review_advance {objectiveId : String} {now : Int} {after : Store}
    {thread later : ReviewThread objectiveId}
    {given : ReviewChoice objectiveId}
    (unstarting : ∀ objective, thread ≠ .starting objective)
    (unlaunching : ∀ reviewId, thread ≠ .launching reviewId)
    (advanced : thread.advance registered now given store = .goes after later) :
    (review objectiveId later).launches = none := by
  have stepped := @ReviewThread.roundStep_advance objectiveId registered now given store
    thread unstarting unlaunching
  have elsewhere : ∀ reviewId, later.role ≠ .launching reviewId := by
    intro reviewId role
    rw [advanced] at stepped
    cases stepped with
    | stays _ kept =>
      rw [kept] at role
      cases thread with
      | launching other => exact unlaunching other rfl
      | working _ stage => cases stage <;> cases role
      | _ => cases role
    | judges _ _ _ judged => rw [judged] at role; cases role
    | interrupts _ _ left => rw [left] at role; cases role
    | dismisses _ _ left => rw [left] at role; cases role
    | completes _ _ completed => rw [completed] at role; cases role
  cases later with
  | launching reviewId => exact absurd rfl (elsewhere reviewId)
  | _ => rfl

theorem launches_advance (unlaunched : call.launches = none) (unstarted : call.starts choice = none)
    (advanced : (call.advance registered choice store).2 = some next) :
    next.launches = none := by
  cases call with
  | generation _ _ =>
    obtain ⟨after, going, rfl⟩ := map_eq_some_iff.mp advanced
    refine launches_generation_advance ?_ going
    rintro objective _ rfl
    cases unstarted
  | review _ _ =>
    unfold RoundCall.advance at advanced
    dsimp only at advanced
    split at advanced
    next after later going =>
      cases advanced
      refine launches_review_advance ?_ ?_ going
      · rintro _ rfl
        cases unstarted
      · rintro _ rfl
        cases unlaunched
    · cases advanced

end RoundCall

namespace StartWorld

variable {world next : StartWorld}

theorem launching_place (world : StartWorld) (slot other : Nat) (call : Option RoundCall)
    (round : RoundKind × String) :
    (world.place slot call).Launching other round ↔
      if other = slot then call.bind RoundCall.launches = some round
      else world.Launching other round := by
  unfold Launching place
  dsimp only
  rw [Function.update_apply]
  split <;> rfl

inductive StartStep (world next : StartWorld) (free : Prop) : Prop where
  | stays (isFree : free) (started : next.started = world.started)
      (executed : next.executed = world.executed)
      (same : ∀ slot round, next.Launching slot round ↔ world.Launching slot round)
  | starts {slot round} (isFree : free) (fresh : round ∉ world.started)
      (started : next.started = round :: world.started)
      (executed : next.executed = world.executed)
      (launching : ∀ other late, next.Launching other late ↔
        other = slot ∧ late = round ∨ world.Launching other late)
  | leaves {slot round} (held : world.Launching slot round) (started : next.started = world.started)
      (executed : free ∧ next.executed = round :: world.executed ∨
        ¬ free ∧ next.executed = world.executed)
      (launching : ∀ other late, next.Launching other late ↔
        other ≠ slot ∧ world.Launching other late)

variable {free : Prop} {slot : Nat} {call : RoundCall} {event : StartEvent}

theorem startStep_of_quiet (slot : Nat) (call : Option RoundCall)
    (isFree : free) (idle : ∀ round, ¬ world.Launching slot round)
    (quiet : call.bind RoundCall.launches = none)
    (started : next.started = world.started)
    (executed : next.executed = world.executed)
    (calls : next.calls = (world.place slot call).calls) :
    StartStep world next free := by
  refine .stays isFree started executed fun other round => ?_
  have placed := launching_place world slot other call round
  rw [quiet] at placed
  have same : next.Launching other round ↔ (world.place slot call).Launching other round := by
    unfold Launching
    rw [calls]
  rw [same, placed]
  split
  next own =>
    subst own
    exact iff_of_false (fun found => by cases found) (idle round)
  · exact .rfl

theorem startStep_proceed {choice : RoundChoice} (found : world.calls slot = some call)
    (proceeds : world.proceed slot choice call = some next) :
    StartStep world next (world.StartsFree (.advance slot choice)) := by
  have launching : ∀ round, world.Launching slot round ↔ call.launches = some round := by
    intro round
    unfold Launching
    rw [found, bind_some]
  have isFree : world.StartsFree (.advance slot choice) ↔
      (call.launches.isSome → call.lane ∉ world.running) := by
    show (∀ call ∈ world.calls slot, _) ↔ _
    rw [found]
    simp
  unfold proceed at proceeds
  dsimp only at proceeds
  cases launches : call.launches with
  | some round =>
    obtain ⟨unstarted, after, advanced, gone⟩ := RoundCall.exists_of_launches launches
    rw [launches, unstarted, advanced] at proceeds
    cases proceeds
    have left : ∀ (result : Option RoundCall), result.bind RoundCall.launches = none →
        ∀ other late, (world.place slot result).Launching other late ↔
          other ≠ slot ∧ world.Launching other late := by
      intro result quiet other late
      rw [launching_place, quiet]
      split
      next own => exact iff_of_false (fun found => by cases found) fun held => held.1 own
      next apart => exact (and_iff_right apart).symm
    unfold launch
    split
    next taken =>
      refine .leaves ((launching round).mpr launches) rfl (.inr ⟨?_, rfl⟩) (left none rfl)
      rw [isFree, launches]
      exact fun free => free rfl taken
    next untaken =>
      refine .leaves ((launching round).mpr launches) rfl (.inl ⟨?_, rfl⟩) (left (some after) gone)
      rw [isFree]
      exact fun _ => untaken
  | none =>
    have idle : ∀ round, ¬ world.Launching slot round := by
      intro round held
      rw [launching, launches] at held
      cases held
    have free : world.StartsFree (.advance slot choice) := by
      rw [isFree, launches]
      intro some
      cases some
    cases starts : call.starts choice with
    | some round =>
      obtain ⟨_, after, advanced, recorded⟩ := RoundCall.exists_of_starts starts
      rw [launches, starts, advanced] at proceeds
      dsimp only at proceeds
      split at proceeds
      · cases proceeds
      next fresh =>
        cases proceeds
        refine @StartStep.starts _ _ _ slot round free fresh rfl rfl fun other late => ?_
        show (world.place slot (some after)).Launching other late ↔ _
        rw [launching_place, bind_some, recorded]
        split
        next own =>
          subst own
          simp [idle late, eq_comm]
        next apart => simp [apart]
    | none =>
      rw [launches, starts] at proceeds
      cases advanced : (call.advance (decide (call.lane ∈ world.running)) choice world.store).2 with
      | none =>
        rw [advanced] at proceeds
        cases proceeds
        exact startStep_of_quiet slot none free idle rfl rfl rfl rfl
      | some after =>
        rw [advanced] at proceeds
        cases proceeds
        refine startStep_of_quiet slot (some after) free idle ?_ rfl rfl rfl
        exact RoundCall.launches_advance launches starts advanced

theorem startStep_enter (free : world.StartsFree event) (quiet : call.launches = none)
    (enters : world.enter slot call = some next) :
    StartStep world next (world.StartsFree event) := by
  unfold enter at enters
  split at enters
  · cases enters
  next vacant =>
    cases enters
    refine startStep_of_quiet slot (some call) free ?_ quiet rfl rfl rfl
    intro round held
    unfold Launching at held
    rw [vacant] at held
    cases held

theorem startStep_step (taken : world.step event = some next) :
    StartStep world next (world.StartsFree event) := by
  cases event with
  | queueAtomicGeneration _ _ => exact startStep_enter trivial rfl taken
  | queueObjectiveReview _ _ => exact startStep_enter trivial rfl taken
  | advance _ _ =>
    obtain ⟨call, found, proceeds⟩ := bind_eq_some_iff.mp taken
    exact startStep_proceed found proceeds
  | raise slot =>
    obtain ⟨call, found, rfl⟩ := map_eq_some_iff.mp taken
    have isFree : world.StartsFree (.raise slot) ↔ call.launches = none := by
      show (∀ call ∈ world.calls slot, _) ↔ _
      rw [found]
      simp
    have launching : ∀ round, world.Launching slot round ↔ call.launches = some round := by
      intro round
      unfold Launching
      rw [found, bind_some]
    cases launches : call.launches with
    | none =>
      refine startStep_of_quiet slot none (isFree.mpr launches) ?_ rfl rfl rfl
        rfl
      intro round held
      rw [launching, launches] at held
      cases held
    | some round =>
      refine .leaves ((launching round).mpr launches) rfl (.inr ⟨?_, rfl⟩) ?_
      · rw [isFree, launches]
        exact some_ne_none round
      · intro other late
        show (world.place slot none).Launching other late ↔ _
        rw [launching_place]
        split
        next own => exact iff_of_false (fun found => by cases found) fun held => held.1 own
        next apart => exact (and_iff_right apart).symm
  | writes _ =>
    cases taken
    exact .stays trivial rfl rfl fun _ _ => .rfl

/-! ## The runs -/

theorem Sound.of_step (sound : world.Sound) (stepped : StartStep world next free) : next.Sound := by
  cases stepped with
  | stays _ started executed same =>
    constructor
    case once => rw [executed]; exact sound.once
    case executed => rw [executed, started]; exact sound.executed
    case started =>
      intro slot round held
      rw [started, executed]
      exact sound.started slot round ((same slot round).mp held)
    case distinct =>
      intro slot other round held also
      exact sound.distinct slot other round ((same _ _).mp held) ((same _ _).mp also)
  | @starts slot round _ fresh started executed launching =>
    have unheld : ∀ other, ¬ world.Launching other round := fun other held =>
      fresh (sound.started other round held).1
    constructor
    case once => rw [executed]; exact sound.once
    case executed =>
      intro late member
      rw [executed] at member
      rw [started]
      exact mem_cons_of_mem round (sound.executed late member)
    case started =>
      intro other late held
      rw [started, executed]
      rcases (launching other late).mp held with ⟨_, rfl⟩ | earlier
      · exact ⟨mem_cons_self, fun ran => fresh (sound.executed _ ran)⟩
      · obtain ⟨listed, unexecuted⟩ := sound.started other late earlier
        exact ⟨mem_cons_of_mem round listed, unexecuted⟩
    case distinct =>
      intro one other late held also
      rcases (launching one late).mp held with ⟨rfl, rfl⟩ | earlier
      · rcases (launching other _).mp also with ⟨rfl, _⟩ | impossible
        · rfl
        · exact absurd impossible (unheld other)
      · rcases (launching other late).mp also with ⟨rfl, rfl⟩ | too
        · exact absurd earlier (unheld one)
        · exact sound.distinct one other late earlier too
  | @leaves slot round held started executed launching =>
    obtain ⟨listed, unexecuted⟩ := sound.started slot round held
    have rest : ∀ other late, next.Launching other late →
        world.Launching other late ∧ late ≠ round := by
      intro other late also
      obtain ⟨apart, earlier⟩ := (launching other late).mp also
      refine ⟨earlier, ?_⟩
      rintro rfl
      exact apart (sound.distinct other slot late earlier held)
    rcases executed with ⟨_, executed⟩ | ⟨_, executed⟩
    · constructor
      case once => rw [executed]; exact nodup_cons.mpr ⟨unexecuted, sound.once⟩
      case executed =>
        intro late member
        rw [executed] at member
        rw [started]
        rcases mem_cons.mp member with rfl | earlier
        · exact listed
        · exact sound.executed late earlier
      case started =>
        intro other late also
        obtain ⟨earlier, apart⟩ := rest other late also
        obtain ⟨known, unran⟩ := sound.started other late earlier
        rw [started, executed]
        exact ⟨known, not_mem_cons_of_ne_of_not_mem apart unran⟩
      case distinct =>
        intro one other late also too
        exact sound.distinct one other late (rest one late also).1 (rest other late too).1
    · constructor
      case once => rw [executed]; exact sound.once
      case executed => rw [executed, started]; exact sound.executed
      case started =>
        intro other late also
        rw [started, executed]
        exact sound.started other late (rest other late also).1
      case distinct =>
        intro one other late also too
        exact sound.distinct one other late (rest one late also).1 (rest other late too).1

theorem noOrphan_iff (sound : world.Sound) (attended : world.NoOrphan)
    (stepped : StartStep world next free) : next.NoOrphan ↔ free := by
  cases stepped with
  | stays isFree started executed same =>
    refine iff_of_true ?_ isFree
    intro round member
    rw [started] at member
    rw [executed]
    exact (attended round member).imp id fun ⟨slot, held⟩ => ⟨slot, (same slot round).mpr held⟩
  | @starts slot round isFree fresh started executed launching =>
    refine iff_of_true ?_ isFree
    intro late member
    rw [started] at member
    rw [executed]
    rcases mem_cons.mp member with rfl | earlier
    · exact .inr ⟨slot, (launching slot _).mpr (.inl ⟨rfl, rfl⟩)⟩
    · exact (attended late earlier).imp id fun ⟨other, held⟩ =>
        ⟨other, (launching other late).mpr (.inr held)⟩
  | @leaves slot round held started executed launching =>
    obtain ⟨listed, unexecuted⟩ := sound.started slot round held
    rcases executed with ⟨isFree, executed⟩ | ⟨notFree, executed⟩
    · refine iff_of_true ?_ isFree
      intro late member
      rw [started] at member
      rw [executed]
      by_cases own : late = round
      · exact .inl (own ▸ mem_cons_self)
      · rcases attended late member with ran | ⟨other, waits⟩
        · exact .inl (mem_cons_of_mem round ran)
        · refine .inr ⟨other, (launching other late).mpr ⟨?_, waits⟩⟩
          rintro rfl
          exact own (Option.some.inj (waits.symm.trans held))
    · refine iff_of_false ?_ notFree
      intro claim
      rw [← started] at listed
      rcases claim round listed with ran | ⟨other, waits⟩
      · rw [executed] at ran
        exact unexecuted ran
      · obtain ⟨apart, earlier⟩ := (launching other round).mp waits
        exact apart (sound.distinct other slot round earlier held)

theorem sound_initial (store : Store) : (initial store).Sound := by
  constructor
  case once => exact nodup_nil
  case executed => exact fun _ member => by cases member
  case started => exact fun _ _ held => by cases held
  case distinct => exact fun _ _ _ held => by cases held

theorem everyStep_noOrphan_iff (store : Store) (events : List StartEvent) :
    EveryStep step (fun _ _ next => next.NoOrphan) (initial store) events ↔
      StepsMeet step StartsFree (initial store) events := by
  have preserved : ∀ (world : StartWorld) event next, world.Sound ∧ world.NoOrphan →
      world.StartsFree event → world.step event = some next →
        next.Sound ∧ next.NoOrphan := by
    intro world event next ⟨sound, attended⟩ free taken
    have stepped := startStep_step taken
    exact ⟨sound.of_step stepped, (noOrphan_iff sound attended stepped).mpr free⟩
  refine everyStep_iff_of_invariant preserved ?_ ?_ events
  · intro world event next ⟨sound, attended⟩ taken
    exact noOrphan_iff sound attended (startStep_step taken)
  · exact ⟨sound_initial store, fun _ member => by cases member⟩

/-- In every run no round has two workers; and no round is left without one in
any state of the run exactly when every call finds its coordinator free and
none raises between its record and its worker. -/
theorem started_rounds_attended_iff (store : Store) (events : List StartEvent) :
    (∀ world, runEvents step (initial store) events = some world →
        world.executed.Nodup ∧ ∀ round ∈ world.executed, round ∈ world.started) ∧
      (EveryStep step (fun _ _ next => next.NoOrphan) (initial store) events ↔
        StepsMeet step StartsFree (initial store) events) := by
  refine ⟨?_, everyStep_noOrphan_iff store events⟩
  intro world run
  have sound : world.Sound := runEvents_invariant
    (fun _ _ _ sound taken => Sound.of_step sound (startStep_step taken))
    (sound_initial store) run
  exact ⟨sound.once, sound.executed⟩

/-! ## A second diagram -/

def finishedDiagram (version : Int) : MermaidArtifact :=
  { id := "diagram", objectiveId := "objective", diagramType := workflowControl, version
    status := .finished, content := "flowchart TD" }

def drawnStore : Store where
  objectives := .single { id := "objective", projectId := "project" }
  mermaidArtifacts := [finishedDiagram 1]

def choiceOf (generationId : String) : RoundChoice where
  generation :=
    { trio := .error (.runtimeError ""), planIds := fun _ => ""
      planTime := 0, identities := fun _ => ⟨"", "", 0, fun _ => none⟩
      generationId, stamps := ⟨fun count => toString count, fun _ => 0⟩
      threadAlive := false, now := 0 }
  review _ :=
    { context := ⟨[], none, ⟨[], false, ""⟩⟩, identities := fun _ => ⟨"", "", 0, fun _ => none⟩
      notes := ⟨id, fun _ => rfl⟩ }

def queueing (slot : Nat) (generationId : String) : List StartEvent :=
  .queueAtomicGeneration slot "objective" ::
    List.replicate 5 (.advance slot (choiceOf generationId))

def redrawnWhileRunning : List StartEvent :=
  queueing 0 "first" ++ .writes (fun store => store.createMermaidArtifact (finishedDiagram 2)) ::
      queueing 1 "second"

theorem started_round_orphaned :
    (runEvents step (initial drawnStore) redrawnWhileRunning).map
        (fun world => (world.started.map Prod.snd, world.executed.map Prod.snd)) =
      some (["second", "first"], ["first"]) ∧
    ¬ ∀ store events, EveryStep step (fun _ _ next => next.NoOrphan) (initial store)
        events := by
  constructor
  · decide +kernel
  · intro claim
    have meets := (everyStep_noOrphan_iff drawnStore redrawnWhileRunning).mp (claim _ _)
    have broken : ¬ StepsMeet step StartsFree (initial drawnStore) redrawnWhileRunning := by
      decide +kernel
    exact broken meets

end StartWorld

end AccruviaHarness
