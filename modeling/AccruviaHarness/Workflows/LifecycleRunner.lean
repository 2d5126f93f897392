import AccruviaHarness.Store.Schema

/-!
# The lifecycle runner of an objective

`ObjectiveLifecycleRunner` drives an objective through its phases. What the
activities answer is a parameter of the methods.
-/

namespace AccruviaHarness

open Library

inductive LifecycleEvent where
  | constructed (phase : ObjectivePhase) (persisted : Option ObjectivePhase)
  | entered (phase : ObjectivePhase) (persisted : Option ObjectivePhase)
  | mermaidApproved
  | tasksCompleted
  | promotionAnswered (success : Bool)
  deriving DecidableEq, Repr

def advanceObjectivePhase (current target : ObjectivePhase) : Except PyError ObjectivePhase :=
  if current = target then .ok target
  else if target ∈ validPhaseTransitions current then .ok target
  else
    let allowed := orderBy (fun first second : String => first ≤ second)
      ((validPhaseTransitions current).map ObjectivePhase.value)
    .error <| .valueError <| "Illegal phase transition: " ++ current.value ++ " -> " ++
        target.value ++ ". Allowed: " ++ (PyValue.list (allowed.map .str)).toStr

/-- The transitions that `advance_objective_phase` accepts. -/
def ObjectivePhase.Allows (current target : ObjectivePhase) : Prop :=
  current = target ∨ target ∈ validPhaseTransitions current

instance (current target : ObjectivePhase) : Decidable (current.Allows target) :=
  inferInstanceAs (Decidable (_ ∨ _))

variable {current target : ObjectivePhase}

theorem advanceObjectivePhase_of_allows (allowed : current.Allows target) :
    advanceObjectivePhase current target = .ok target := by
  unfold advanceObjectivePhase
  by_cases same : current = target
  · rw [if_pos same]
  · rw [if_neg same, if_pos (allowed.resolve_left same)]

theorem advanceObjectivePhase_of_not_allows (refused : ¬ current.Allows target) :
    ∃ error, advanceObjectivePhase current target = .error error := by
  obtain ⟨different, unlisted⟩ := not_or.mp refused
  unfold advanceObjectivePhase
  rw [if_neg different, if_neg unlisted]
  exact ⟨_, rfl⟩

structure ActivityAnswers where
  interrogation : Except PyError PyDict
  trioPlanning : Except PyError PyDict
  executeTasks : PyValue → Except PyError PyDict
  review : Except PyError PyDict
  promotion : Except PyError PyDict

/-- The activity returned a truthy `success`. -/
def Succeeds (answer : Except PyError PyDict) : Prop :=
  ∃ result, answer = .ok result ∧ (result.get "success").truthy = true

def succeedingAnswers : ActivityAnswers where
  interrogation := .ok [("success", .bool true)]
  trioPlanning := .ok [("success", .bool true)]
  executeTasks := fun _ => .ok [("success", .bool true)]
  review := .ok [("success", .bool true)]
  promotion := .ok [("success", .bool true)]

structure ObjectiveLifecycleRunner where
  objectiveId : String
  phase : ObjectivePhase
  store : Store
  /-- The runner was given the store. -/
  persists : Bool
  events : List LifecycleEvent

def Store.persistedPhase (store : Store) (objectiveId : String) : Option ObjectivePhase :=
  (store.objectives.lookup objectiveId).map Objective.phase

namespace ObjectiveLifecycleRunner

/-- The phase that `__init__` starts in. -/
def initialPhase (store : Store) (objectiveId : String) (persists : Bool) :
    ObjectivePhase :=
  if persists then
    match store.getObjective objectiveId with
    | some objective => objective.phase
    | none => .created
  else .created

def construct (store : Store) (objectiveId : String) (persists : Bool) :
    ObjectiveLifecycleRunner where
  objectiveId
  phase := initialPhase store objectiveId persists
  store
  persists
  events := []

variable (runner : ObjectiveLifecycleRunner)

def enter (phase : ObjectivePhase) :
    ObjectiveLifecycleRunner :=
  { runner with
    phase
    store :=
      if runner.persists then runner.store.setObjectivePhase runner.objectiveId phase
      else runner.store
    events := runner.events ++
      [.entered phase
        (if runner.persists then runner.store.persistedPhase runner.objectiveId
        else none)] }

def record (event : LifecycleEvent) :
    ObjectiveLifecycleRunner :=
  { runner with events := runner.events ++ [event] }

abbrev CallResult := ObjectiveLifecycleRunner × Except PyError PyValue

/-- `_advance`, with what follows it in the method. -/
def advancing (target : ObjectivePhase)
    (rest : ObjectiveLifecycleRunner → CallResult) : CallResult :=
  match advanceObjectivePhase runner.phase target with
  | .error error => (runner, .error error)
  | .ok phase => rest (runner.enter phase)

def afterActivity (answer : Except PyError PyDict) (rest : PyDict → CallResult) :
    CallResult :=
  match answer with
  | .error error => (runner, .error error)
  | .ok result => rest result

/-- The branch that every method has on the `success` of an activity. -/
def unlessFailed (result : PyDict) (rest : CallResult) : CallResult :=
  if (result.get "success").truthy then rest
  else runner.advancing .failed fun runner => (runner, .ok (.dict result))

variable (answers : ActivityAnswers)

def runThroughMermaid : CallResult :=
  runner.advancing .interrogating fun runner =>
    runner.afterActivity answers.interrogation fun result =>
      runner.unlessFailed result <|
        runner.advancing .mermaidReview fun runner => (runner, .ok (.dict result))

def approveMermaid : CallResult :=
  if runner.phase ≠ .mermaidReview then
    (runner, .error <| .valueError <| "Cannot approve mermaid in phase " ++ runner.phase.value)
  else (runner.record .mermaidApproved, .ok .none)

def runTrioAndCreateTasks : CallResult :=
  if runner.phase ≠ .mermaidReview then
    (runner, .error <| .valueError <| "Expected MERMAID_REVIEW, got " ++ runner.phase.value)
  else
    runner.advancing .trioPlanning fun runner =>
      runner.afterActivity answers.trioPlanning fun trioResult =>
        runner.unlessFailed trioResult <|
          runner.advancing .executing fun runner =>
            match ((trioResult.get "data").orValue (.dict [])).requireDict with
            | .error error => (runner, .error error)
            | .ok data =>
              let plansData := (data.get "plans").orValue (.list [])
              runner.afterActivity (answers.executeTasks plansData)
                fun execResult => runner.unlessFailed execResult (runner, .ok (.dict execResult))

def completeTasks : CallResult :=
  if runner.phase ≠ .executing then
    (runner, .error <| .valueError <| "Cannot complete tasks in phase " ++ runner.phase.value)
  else (runner.record .tasksCompleted, .ok .none)

/-- `sync_promotion` has answered. -/
def promotionAnswer (answer : Except PyError PyDict) : LifecycleEvent :=
  match answer with
  | .error _ => .promotionAnswered false
  | .ok result => .promotionAnswered (result.get "success").truthy

def runReviewAndPromote : CallResult :=
  if runner.phase ≠ .executing then
    (runner, .error <| .valueError <| "Expected EXECUTING, got " ++ runner.phase.value)
  else
    runner.advancing .reviewing fun runner =>
      runner.afterActivity answers.review fun reviewResult =>
        runner.unlessFailed reviewResult <|
          -- The phase is entered before the promotion is tried.
          runner.advancing .promoted fun runner =>
            (runner.record (promotionAnswer answers.promotion), answers.promotion.map .dict)

end ObjectiveLifecycleRunner

inductive RunnerCall where
  | runThroughMermaid (answers : ActivityAnswers)
  | approveMermaid
  | runTrioAndCreateTasks (answers : ActivityAnswers)
  | completeTasks
  | runReviewAndPromote (answers : ActivityAnswers)
  | advance (target : ObjectivePhase)

namespace ObjectiveLifecycleRunner

def perform (runner : ObjectiveLifecycleRunner) :
    RunnerCall → ObjectiveLifecycleRunner
  | .runThroughMermaid answers => (runner.runThroughMermaid answers).1
  | .approveMermaid => runner.approveMermaid.1
  | .runTrioAndCreateTasks answers => (runner.runTrioAndCreateTasks answers).1
  | .completeTasks => runner.completeTasks.1
  | .runReviewAndPromote answers => (runner.runReviewAndPromote answers).1
  | .advance target => (runner.advancing target fun runner => (runner, .ok .none)).1

def firstTarget (phase : ObjectivePhase) : RunnerCall → Option ObjectivePhase
  | .runThroughMermaid _ => if phase.Allows .interrogating then some .interrogating else none
  | .runTrioAndCreateTasks _ => if phase = .mermaidReview then some .trioPlanning else none
  | .runReviewAndPromote _ => if phase = .executing then some .reviewing else none
  | .advance target => if phase.Allows target then some target else none
  | .approveMermaid => none
  | .completeTasks => none

def laterTargets : RunnerCall → List ObjectivePhase
  | .runThroughMermaid _ => [.mermaidReview, .failed]
  | .runTrioAndCreateTasks _ => [.executing, .failed]
  | .runReviewAndPromote _ => [.promoted, .failed]
  | _ => []

def marks : RunnerCall → List LifecycleEvent
  | .approveMermaid => [.mermaidApproved]
  | .completeTasks => [.tasksCompleted]
  | .runReviewAndPromote answers => [promotionAnswer answers.promotion]
  | _ => []

/-- A property of a runner that only the first phase that a call enters can
change. A runner that has entered a phase is `settled`. -/
structure FirstTargetDecides
    (holds settled : ObjectiveLifecycleRunner → Prop) (call : RunnerCall) :
    Prop where
  entered : ∀ (runner : ObjectiveLifecycleRunner) phase, settled (runner.enter phase)
  later : ∀ (runner : ObjectiveLifecycleRunner), settled runner →
    ∀ target ∈ laterTargets call, runner.phase.Allows target →
      (holds (runner.enter target) ↔ holds runner)
  recorded : ∀ (runner : ObjectiveLifecycleRunner),
    ∀ event ∈ marks call, (holds (runner.record event) ↔ holds runner)

section

variable {holds settled : ObjectiveLifecycleRunner → Prop}

def Keeps (holds settled : ObjectiveLifecycleRunner → Prop)
    (rest : ObjectiveLifecycleRunner → CallResult) : Prop :=
  ∀ runner, settled runner → (holds (rest runner).1 ↔ holds runner)

theorem keeps_return (answer : Except PyError PyValue) :
    Keeps holds settled fun runner => (runner, answer) :=
  fun _ _ => .rfl

theorem keeps_afterActivity {answer : Except PyError PyDict}
    {rest : PyDict → ObjectiveLifecycleRunner → CallResult}
    (keeps : ∀ result, Keeps holds settled (rest result)) :
    Keeps holds settled fun runner =>
      runner.afterActivity answer fun result => rest result runner := by
  intro runner ready
  cases answer with
  | error _ => exact .rfl
  | ok result => exact keeps result runner ready

variable {runner : ObjectiveLifecycleRunner} {target : ObjectivePhase}
  {rest : ObjectiveLifecycleRunner → CallResult}

theorem advancing_of_allows (allowed : runner.phase.Allows target) :
    runner.advancing target rest = rest (runner.enter target) := by
  unfold advancing
  rw [advanceObjectivePhase_of_allows allowed]

theorem holds_advancing_of_allows (allowed : runner.phase.Allows target)
    (entered : settled (runner.enter target))
    (keeps : Keeps holds settled rest) :
    holds (runner.advancing target rest).1 ↔ holds (runner.enter target) := by
  rw [advancing_of_allows allowed]
  exact keeps (runner.enter target) entered

theorem advancing_of_not_allows (refused : ¬ runner.phase.Allows target) :
    (runner.advancing target rest).1 = runner := by
  obtain ⟨_, raised⟩ := advanceObjectivePhase_of_not_allows refused
  unfold advancing
  rw [raised]

variable {call : RunnerCall}

theorem keeps_advancing (decides : FirstTargetDecides holds settled call)
    (later : target ∈ laterTargets call) (keeps : Keeps holds settled rest) :
    Keeps holds settled fun runner => runner.advancing target rest := by
  intro runner ready
  show holds (runner.advancing target rest).1 ↔ holds runner
  by_cases allowed : runner.phase.Allows target
  · rw [holds_advancing_of_allows allowed (decides.entered runner target) keeps]
    exact decides.later runner ready target later allowed
  · rw [advancing_of_not_allows allowed]

theorem keeps_unlessFailed (decides : FirstTargetDecides holds settled call)
    (later : .failed ∈ laterTargets call)
    {result : PyDict} (keeps : Keeps holds settled rest) :
    Keeps holds settled fun runner =>
      runner.unlessFailed result (rest runner) := by
  intro runner ready
  show holds (runner.unlessFailed result (rest runner)).1 ↔ holds runner
  unfold unlessFailed
  by_cases success : (result.get "success").truthy = true
  · rw [if_pos success]
    exact keeps runner ready
  · rw [if_neg success]
    exact keeps_advancing decides later (keeps_return _) runner ready

theorem holds_perform_iff (decides : FirstTargetDecides holds settled call)
    (runner : ObjectiveLifecycleRunner) :
    holds (runner.perform call) ↔
      match firstTarget runner.phase call with
      | some target => holds (runner.enter target)
      | none => holds runner := by
  cases call with
  | runThroughMermaid answers =>
    have rest : Keeps holds settled fun runner =>
        runner.afterActivity answers.interrogation fun result =>
          runner.unlessFailed result <|
            runner.advancing .mermaidReview fun runner =>
              (runner, .ok (.dict result)) :=
      keeps_afterActivity fun _ =>
        keeps_unlessFailed decides (by simp [laterTargets])
          (keeps_advancing decides (by simp [laterTargets]) (keeps_return _))
    by_cases allowed : runner.phase.Allows .interrogating
    · rw [firstTarget, if_pos allowed]
      exact holds_advancing_of_allows allowed (decides.entered runner .interrogating) rest
    · rw [firstTarget, if_neg allowed]
      exact iff_of_eq (congrArg holds (advancing_of_not_allows allowed))
  | approveMermaid =>
    unfold perform approveMermaid
    by_cases elsewhere : runner.phase ≠ .mermaidReview
    · rw [if_pos elsewhere]
      exact .rfl
    · rw [if_neg elsewhere]
      exact decides.recorded runner .mermaidApproved (by decide)
  | runTrioAndCreateTasks _ =>
    unfold perform runTrioAndCreateTasks
    dsimp only
    by_cases elsewhere : runner.phase ≠ .mermaidReview
    · rw [if_pos elsewhere, firstTarget, if_neg elsewhere]
    · have here : runner.phase = .mermaidReview := not_not.mp elsewhere
      rw [if_neg elsewhere, firstTarget, if_pos here]
      have allowed : runner.phase.Allows .trioPlanning := by
        rw [here]
        decide
      refine holds_advancing_of_allows allowed (decides.entered runner .trioPlanning) ?_
      refine keeps_afterActivity fun trioResult =>
        keeps_unlessFailed decides (by simp [laterTargets])
          (keeps_advancing decides (by simp [laterTargets]) ?_)
      intro runner ready
      split
      · exact .rfl
      · exact keeps_afterActivity
          (fun execResult => keeps_unlessFailed decides (by simp [laterTargets])
            (keeps_return (.ok (.dict execResult)))) runner ready
  | completeTasks =>
    unfold perform completeTasks
    by_cases elsewhere : runner.phase ≠ .executing
    · rw [if_pos elsewhere]
      exact .rfl
    · rw [if_neg elsewhere]
      exact decides.recorded runner .tasksCompleted (by decide)
  | runReviewAndPromote _ =>
    unfold perform runReviewAndPromote
    dsimp only
    by_cases elsewhere : runner.phase ≠ .executing
    · rw [if_pos elsewhere, firstTarget, if_neg elsewhere]
    · have here : runner.phase = .executing := not_not.mp elsewhere
      rw [if_neg elsewhere, firstTarget, if_pos here]
      have allowed : runner.phase.Allows .reviewing := by
        rw [here]
        decide
      refine holds_advancing_of_allows allowed (decides.entered runner .reviewing) ?_
      refine keeps_afterActivity fun reviewResult =>
        keeps_unlessFailed decides (by simp [laterTargets])
          (keeps_advancing decides (by simp [laterTargets]) ?_)
      intro runner _
      exact decides.recorded runner _ (List.mem_singleton_self _)
  | advance target =>
    by_cases allowed : runner.phase.Allows target
    · rw [firstTarget, if_pos allowed]
      exact holds_advancing_of_allows allowed (decides.entered runner target) (keeps_return _)
    · rw [firstTarget, if_neg allowed]
      exact iff_of_eq (congrArg holds (advancing_of_not_allows allowed))

end

end ObjectiveLifecycleRunner

end AccruviaHarness
