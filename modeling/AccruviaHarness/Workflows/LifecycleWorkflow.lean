import AccruviaHarness.Workflows.LifecycleGates

/-!
# The lifecycle workflow of an objective

`ObjectiveLifecycleWorkflow` waits for signals where the runner waits for
calls. Signals arrive at any time, and a wait ends as soon as its flag is set.
-/

namespace AccruviaHarness

open Library List

inductive WorkflowPosition where
  | starting
  | interrogating
  | awaitingMermaid
  | planning
  | creatingTasks
  | awaitingTasks
  | reviewing
  | promoting
  | finished
  deriving DecidableEq, Repr

structure ObjectiveLifecycleWorkflow where
  mermaidApproved : Bool
  tasksCompleted : Bool
  currentPhase : ObjectivePhase
  position : WorkflowPosition
  events : List LifecycleEvent

inductive WorkflowStep where
  | run
  | signalMermaidApproved
  | signalTasksCompleted
  | activityAnswered (answer : Except PyError PyDict)
  /-- `wait_condition` returns, on its condition or on its timeout. -/
  | waitReturned
  /-- `wait_condition` raises on its timeout. -/
  | waitRaised

def WorkflowPosition.phase : WorkflowPosition → Option ObjectivePhase
  | .starting => some .created
  | .interrogating => some .interrogating
  | .awaitingMermaid => some .mermaidReview
  | .planning => some .trioPlanning
  | .creatingTasks => some .executing
  | .awaitingTasks => some .executing
  | .reviewing => some .reviewing
  | .promoting => some .promoted
  | .finished => none

namespace ObjectiveLifecycleWorkflow

def start : ObjectiveLifecycleWorkflow where
  mermaidApproved := false
  tasksCompleted := false
  currentPhase := .created
  position := .starting
  events := []

variable (workflow : ObjectiveLifecycleWorkflow)

def finish :
    ObjectiveLifecycleWorkflow :=
  { workflow with position := .finished }

def advance (target : ObjectivePhase) (position : WorkflowPosition) : ObjectiveLifecycleWorkflow :=
  match advanceObjectivePhase workflow.currentPhase target with
  | .error _ => workflow.finish
  | .ok phase =>
    { workflow with
      currentPhase := phase, position, events := workflow.events ++ [.entered phase none] }

def recordIn (phase : ObjectivePhase) (event : LifecycleEvent) : ObjectiveLifecycleWorkflow :=
  if workflow.currentPhase = phase then { workflow with events := workflow.events ++ [event] }
  else workflow

def afterActivity (answer : Except PyError PyDict) (rest : PyDict → ObjectiveLifecycleWorkflow) :
    ObjectiveLifecycleWorkflow :=
  match answer with
  | .error _ => workflow.finish
  | .ok result =>
    if (result.get "success").truthy then rest result
    else workflow.advance .failed .finished

def afterWait (signalled : Bool) (target : ObjectivePhase) (position : WorkflowPosition) :
    ObjectiveLifecycleWorkflow :=
  if signalled then workflow.advance target position
  else workflow.advance .failed .finished

def answered (answer : Except PyError PyDict) : Option ObjectiveLifecycleWorkflow :=
  match workflow.position with
  | .interrogating =>
    some <| workflow.afterActivity answer fun _ => workflow.advance .mermaidReview .awaitingMermaid
  | .planning =>
    some <| workflow.afterActivity answer fun trioResult =>
      -- The phase is entered before the plans are read from the answer.
      workflow.advance .executing <|
        match ((trioResult.get "data").orValue (.dict [])).requireDict with
        | .error _ => .finished
        | .ok _ => .creatingTasks
  | .creatingTasks =>
    some <| workflow.afterActivity answer fun _ => { workflow with position := .awaitingTasks }
  | .reviewing =>
    some <| workflow.afterActivity answer fun _ => workflow.advance .promoted .promoting
  | .promoting =>
    let promoted :=
      { workflow with
        events := workflow.events ++
          [ObjectiveLifecycleRunner.promotionAnswer answer] }
    some promoted.finish
  | _ => none

def step (workflow : ObjectiveLifecycleWorkflow) :
    WorkflowStep → Option ObjectiveLifecycleWorkflow
  | .run =>
    if workflow.position = .starting then some (workflow.advance .interrogating .interrogating)
    else none
  | .signalMermaidApproved =>
    if workflow.position = .finished then none
    else some (({ workflow with mermaidApproved := true }).recordIn .mermaidReview .mermaidApproved)
  | .signalTasksCompleted =>
    if workflow.position = .finished then none
    else some (({ workflow with tasksCompleted := true }).recordIn .executing .tasksCompleted)
  | .activityAnswered answer => workflow.answered answer
  | .waitReturned =>
    match workflow.position with
    | .awaitingMermaid => some (workflow.afterWait workflow.mermaidApproved .trioPlanning .planning)
    | .awaitingTasks => some (workflow.afterWait workflow.tasksCompleted .reviewing .reviewing)
    | _ => none
  | .waitRaised =>
    match workflow.position with
    | .awaitingMermaid | .awaitingTasks => some workflow.finish
    | _ => none

structure Lawful (workflow : ObjectiveLifecycleWorkflow) : Prop where
  approved : GatedBy .mermaidApproved .trioPlanning workflow.events
  completed : GatedBy .tasksCompleted .reviewing workflow.events
  promoted : workflow.position ≠ .promoting → PromotedSucceeded workflow.events

def GoesThroughGates (workflow : ObjectiveLifecycleWorkflow) :
    WorkflowStep → Prop
  | .waitReturned =>
    (workflow.position = .awaitingMermaid →
      workflow.mermaidApproved = true → .mermaidApproved ∈ workflow.events) ∧
      (workflow.position = .awaitingTasks →
        workflow.tasksCompleted = true → .tasksCompleted ∈ workflow.events)
  | .activityAnswered answer => workflow.position = .promoting → Succeeds answer
  | _ => True

/-- The phase of a reachable workflow is the one of its position, and its
promotion has not succeeded yet. -/
structure Consistent (workflow : ObjectiveLifecycleWorkflow) : Prop where
  phase : ∀ phase, workflow.position.phase = some phase →
    workflow.currentPhase = phase
  promoting : workflow.position = .promoting → ∃ event ∈ workflow.events, event.Enters .promoted
  unanswered : workflow.position ≠ .finished → .promotionAnswered true ∉ workflow.events

section

variable {workflow : ObjectiveLifecycleWorkflow}

theorem consistent_finish : workflow.finish.Consistent where
  phase := nofun
  promoting := nofun
  unanswered := fun running => absurd rfl running

variable {target : ObjectivePhase} {position : WorkflowPosition}

theorem consistent_advance (unanswered : .promotionAnswered true ∉ workflow.events)
    (waits : ∀ phase, position.phase = some phase → phase = target) :
    (workflow.advance target position).Consistent := by
  unfold advance
  by_cases allowed : workflow.currentPhase.Allows target
  · rw [advanceObjectivePhase_of_allows allowed]
    refine ⟨?phase, ?promoting, ?unanswered⟩
    case phase =>
      intro phase waiting
      exact (waits phase waiting).symm
    case promoting =>
      intro promotes
      have promotes : position = .promoting := promotes
      have promoted : target = .promoted := by
        rw [promotes] at waits
        exact (waits .promoted rfl).symm
      exact ⟨.entered target none, mem_append_right _ (mem_singleton_self _), promoted⟩
    case unanswered =>
      intro _ answered
      rcases mem_append.mp answered with earlier | added
      · exact unanswered earlier
      · cases mem_singleton.mp added
  · obtain ⟨_, refused⟩ := advanceObjectivePhase_of_not_allows allowed
    rw [refused]
    exact consistent_finish

theorem consistent_recordIn (consistent : workflow.Consistent) {phase : ObjectivePhase}
    {event : LifecycleEvent} (signal : event ≠ .promotionAnswered true) :
    (workflow.recordIn phase event).Consistent := by
  unfold recordIn
  by_cases here : workflow.currentPhase = phase
  · rw [if_pos here]
    refine ⟨consistent.phase, ?promoting, ?unanswered⟩
    case promoting =>
      intro promotes
      obtain ⟨earlier, member, enters⟩ := consistent.promoting promotes
      exact ⟨earlier, mem_append_left _ member, enters⟩
    case unanswered =>
      intro running answered
      rcases mem_append.mp answered with earlier | added
      · exact consistent.unanswered running earlier
      · exact signal (mem_singleton.mp added).symm
  · rw [if_neg here]
    exact consistent

theorem consistent_afterActivity (unanswered : .promotionAnswered true ∉ workflow.events)
    {answer : Except PyError PyDict}
    {rest : PyDict → ObjectiveLifecycleWorkflow}
    (consistent : ∀ result, (rest result).Consistent) :
    (workflow.afterActivity answer rest).Consistent := by
  unfold afterActivity
  cases answer with
  | error _ => exact consistent_finish
  | ok result =>
    dsimp only
    by_cases success : (result.get "success").truthy = true
    · rw [if_pos success]
      exact consistent result
    · rw [if_neg success]
      exact consistent_advance unanswered nofun

theorem consistent_afterWait (unanswered : .promotionAnswered true ∉ workflow.events)
    {signalled : Bool}
    (waits : ∀ phase, position.phase = some phase → phase = target) :
    (workflow.afterWait signalled target position).Consistent := by
  unfold afterWait
  cases signalled with
  | true => exact consistent_advance unanswered waits
  | false => exact consistent_advance unanswered nofun

theorem consistent_step {taken : WorkflowStep} {next : ObjectiveLifecycleWorkflow}
    (consistent : workflow.Consistent)
    (stepped : workflow.step taken = some next) : next.Consistent := by
  cases taken with
  | run =>
    dsimp only [step] at stepped
    split at stepped
    next starting =>
      cases stepped
      refine consistent_advance (consistent.unanswered ?_) ?_
      · rw [starting]
        decide
      · rintro _ ⟨⟩
        rfl
    · cases stepped
  | signalMermaidApproved =>
    dsimp only [step] at stepped
    split at stepped
    · cases stepped
    · cases stepped
      refine consistent_recordIn ?_ LifecycleEvent.noConfusion
      exact ⟨consistent.phase, consistent.promoting, consistent.unanswered⟩
  | signalTasksCompleted =>
    dsimp only [step] at stepped
    split at stepped
    · cases stepped
    · cases stepped
      refine consistent_recordIn ?_ LifecycleEvent.noConfusion
      exact ⟨consistent.phase, consistent.promoting, consistent.unanswered⟩
  | activityAnswered _ =>
    dsimp only [step, answered] at stepped
    split at stepped
    next here =>
      have running := consistent.unanswered (here ▸ by decide)
      cases stepped
      refine consistent_afterActivity running fun _ => consistent_advance running ?_
      rintro _ ⟨⟩
      rfl
    next here =>
      have running := consistent.unanswered (here ▸ by decide)
      cases stepped
      refine consistent_afterActivity running fun trioResult => consistent_advance running ?_
      intro phase waiting
      split at waiting <;> cases waiting
      rfl
    next here =>
      have running := consistent.unanswered (here ▸ by decide)
      cases stepped
      refine consistent_afterActivity running fun _ => ⟨?_, nofun, fun _ => running⟩
      rintro _ ⟨⟩
      apply consistent.phase
      rw [here]
      rfl
    next here =>
      have running := consistent.unanswered (here ▸ by decide)
      cases stepped
      refine consistent_afterActivity running fun _ => consistent_advance running ?_
      rintro _ ⟨⟩
      rfl
    · cases stepped
      exact consistent_finish
    · cases stepped
  | waitReturned =>
    dsimp only [step] at stepped
    split at stepped
    next here =>
      have running := consistent.unanswered (here ▸ by decide)
      cases stepped
      refine consistent_afterWait running ?_
      rintro _ ⟨⟩
      rfl
    next here =>
      have running := consistent.unanswered (here ▸ by decide)
      cases stepped
      refine consistent_afterWait running ?_
      rintro _ ⟨⟩
      rfl
    · cases stepped
  | waitRaised =>
    dsimp only [step] at stepped
    split at stepped <;> cases stepped <;> exact consistent_finish

end

section

variable {workflow : ObjectiveLifecycleWorkflow}

theorem lawful_finish (lawful : workflow.Lawful) (settled : workflow.position ≠ .promoting) :
    workflow.finish.Lawful :=
  ⟨lawful.approved, lawful.completed, fun _ => lawful.promoted settled⟩

variable {target : ObjectivePhase} {position : WorkflowPosition}
  {next : ObjectiveLifecycleWorkflow}

theorem lawful_advance_iff (lawful : workflow.Lawful) (settled : workflow.position ≠ .promoting)
    (allowed : workflow.currentPhase.Allows target)
    (promotes : target = .promoted → position = .promoting) :
    (workflow.advance target position).Lawful ↔
      (target = .trioPlanning → .mermaidApproved ∈ workflow.events) ∧
        (target = .reviewing → .tasksCompleted ∈ workflow.events) := by
  unfold advance
  rw [advanceObjectivePhase_of_allows allowed]
  have approved : GatedBy .mermaidApproved .trioPlanning
      (workflow.events ++ [.entered target none]) ↔
        (target = .trioPlanning → .mermaidApproved ∈ workflow.events) :=
    gatedBy_append_singleton.trans (and_iff_right lawful.approved)
  have completed : GatedBy .tasksCompleted .reviewing (workflow.events ++ [.entered target none]) ↔
        (target = .reviewing → .tasksCompleted ∈ workflow.events) :=
    gatedBy_append_singleton.trans (and_iff_right lawful.completed)
  constructor
  · intro after
    exact ⟨approved.mp after.approved, completed.mp after.completed⟩
  · rintro ⟨approvedFirst, completedFirst⟩
    refine ⟨approved.mpr approvedFirst, completed.mpr completedFirst, ?_⟩
    intro elsewhere
    refine (promotedSucceeded_append_quiet ?_
      LifecycleEvent.noConfusion).mpr (lawful.promoted settled)
    intro enters
    exact elsewhere (promotes enters)

theorem lawful_advance (lawful : workflow.Lawful) (settled : workflow.position ≠ .promoting)
    (allowed : workflow.currentPhase.Allows target)
    (promotes : target = .promoted → position = .promoting)
    (ungated : target ≠ .trioPlanning ∧ target ≠ .reviewing) :
    (workflow.advance target position).Lawful :=
  (lawful_advance_iff lawful settled allowed promotes).mpr
    ⟨fun same => absurd same ungated.1, fun same => absurd same ungated.2⟩

theorem lawful_recordIn (lawful : workflow.Lawful) {phase : ObjectivePhase}
    {event : LifecycleEvent} (enters : ∀ phase, ¬ event.Enters phase)
    (signal : event ≠ .promotionAnswered true) :
    (workflow.recordIn phase event).Lawful := by
  unfold recordIn
  by_cases here : workflow.currentPhase = phase
  · rw [if_pos here]
    refine ⟨?approved, ?completed, ?promoted⟩
    case approved =>
      exact gatedBy_append_singleton.mpr ⟨lawful.approved, fun entered => absurd entered (enters _)⟩
    case completed =>
      exact gatedBy_append_singleton.mpr
        ⟨lawful.completed, fun entered => absurd entered (enters _)⟩
    case promoted =>
      intro settled
      exact (promotedSucceeded_append_quiet (enters _) signal).mpr (lawful.promoted settled)
  · rw [if_neg here]
    exact lawful

variable {answer : Except PyError PyDict}

theorem lawful_afterActivity (lawful : workflow.Lawful) (settled : workflow.position ≠ .promoting)
    (fails : workflow.currentPhase.Allows .failed)
    {rest : PyDict → ObjectiveLifecycleWorkflow}
    (succeeds : ∀ result, (rest result).Lawful) :
    (workflow.afterActivity answer rest).Lawful := by
  unfold afterActivity
  cases answer with
  | error _ => exact lawful_finish lawful settled
  | ok result =>
    dsimp only
    by_cases success : (result.get "success").truthy = true
    · rw [if_pos success]
      exact succeeds result
    · rw [if_neg success]
      exact lawful_advance lawful settled fails nofun (by decide)

theorem lawful_promoted_iff (consistent : workflow.Consistent) (lawful : workflow.Lawful)
    (here : workflow.position = .promoting) (answer : Except PyError PyDict)
    (stepped : workflow.answered answer = some next) :
    next.Lawful ↔ Succeeds answer := by
  have quiet : ∀ phase, ¬ (ObjectiveLifecycleRunner.promotionAnswer answer).Enters phase := by
    cases answer <;> exact fun _ => not_false
  have unanswered := consistent.unanswered (here ▸ by decide)
  have promoted := promotedSucceeded_append_answer (consistent.promoting here) answer
  rw [or_iff_left unanswered] at promoted
  simp only [answered, here, Option.some.injEq] at stepped
  subst stepped
  constructor
  · intro after
    exact promoted.mp (after.promoted nofun)
  · intro succeeds
    refine ⟨?_, ?_, fun _ => promoted.mpr succeeds⟩
    · exact gatedBy_append_singleton.mpr ⟨lawful.approved, fun entered => absurd entered (quiet _)⟩
    · exact gatedBy_append_singleton.mpr ⟨lawful.completed, fun entered => absurd entered (quiet _)⟩

theorem Consistent.allows (consistent : workflow.Consistent) (here : workflow.position = position)
    {phase : ObjectivePhase}
    (waits : position.phase = some phase) (allowed : phase.Allows target) :
    workflow.currentPhase.Allows target := by
  rw [consistent.phase phase (here ▸ waits)]
  exact allowed

theorem lawful_answered (consistent : workflow.Consistent) (lawful : workflow.Lawful)
    (settled : workflow.position ≠ .promoting)
    (stepped : workflow.answered answer = some next) : next.Lawful := by
  unfold answered at stepped
  split at stepped
  next here =>
    cases stepped
    exact lawful_afterActivity lawful settled
      (consistent.allows here rfl (by decide)) fun _ =>
        lawful_advance lawful settled (consistent.allows here rfl (by decide)) nofun (by decide)
  next here =>
    cases stepped
    exact lawful_afterActivity lawful settled
      (consistent.allows here rfl (by decide)) fun _ =>
        lawful_advance lawful settled (consistent.allows here rfl (by decide)) nofun (by decide)
  next here =>
    cases stepped
    exact lawful_afterActivity lawful settled
      (consistent.allows here rfl (by decide)) fun _ =>
        ⟨lawful.approved, lawful.completed, fun _ => lawful.promoted settled⟩
  next here =>
    cases stepped
    exact lawful_afterActivity lawful settled
      (consistent.allows here rfl (by decide)) fun _ =>
        lawful_advance lawful settled
          (consistent.allows here rfl (by decide)) (fun _ => rfl) (by decide)
  next here => exact absurd here settled
  · cases stepped

theorem lawful_afterWait_iff (lawful : workflow.Lawful) (settled : workflow.position ≠ .promoting)
    (fails : workflow.currentPhase.Allows .failed)
    {signalled : Bool} (allowed : workflow.currentPhase.Allows target)
    (unpromoted : target ≠ .promoted) :
    (workflow.afterWait signalled target position).Lawful ↔ (signalled = true →
        (target = .trioPlanning → .mermaidApproved ∈ workflow.events) ∧
          (target = .reviewing → .tasksCompleted ∈ workflow.events)) := by
  unfold afterWait
  cases signalled with
  | true =>
    rw [if_pos rfl, forall_prop_of_true rfl]
    exact lawful_advance_iff lawful settled allowed fun promotes => absurd promotes unpromoted
  | false =>
    refine iff_of_true ?_ nofun
    exact lawful_advance lawful settled fails nofun (by decide)

theorem lawful_step_iff (consistent : workflow.Consistent) (lawful : workflow.Lawful)
    {taken : WorkflowStep} (stepped : workflow.step taken = some next) :
    next.Lawful ↔ workflow.GoesThroughGates taken := by
  cases taken with
  | run =>
    dsimp only [step] at stepped
    split at stepped
    next here =>
      cases stepped
      refine iff_of_true ?_ trivial
      exact lawful_advance lawful (here ▸ by decide)
        (consistent.allows here rfl (by decide)) nofun (by decide)
    · cases stepped
  | signalMermaidApproved =>
    dsimp only [step] at stepped
    split at stepped
    · cases stepped
    · cases stepped
      refine iff_of_true ?_ trivial
      refine lawful_recordIn ?_ (fun _ => not_false) LifecycleEvent.noConfusion
      exact ⟨lawful.approved, lawful.completed, lawful.promoted⟩
  | signalTasksCompleted =>
    dsimp only [step] at stepped
    split at stepped
    · cases stepped
    · cases stepped
      refine iff_of_true ?_ trivial
      refine lawful_recordIn ?_ (fun _ => not_false) LifecycleEvent.noConfusion
      exact ⟨lawful.approved, lawful.completed, lawful.promoted⟩
  | activityAnswered answer =>
    by_cases here : workflow.position = .promoting
    · refine (lawful_promoted_iff consistent lawful here answer stepped).trans ?_
      simp [GoesThroughGates, here]
    · exact iff_of_true (lawful_answered consistent lawful here stepped)
        fun promoting => absurd promoting here
  | waitReturned =>
    dsimp only [step] at stepped
    split at stepped
    next here =>
      cases stepped
      refine (lawful_afterWait_iff lawful (here ▸ by decide)
        (consistent.allows here rfl (by decide))
        (consistent.allows here rfl (by decide)) (by decide)).trans ?_
      simp [GoesThroughGates, here]
    next here =>
      cases stepped
      refine (lawful_afterWait_iff lawful (here ▸ by decide)
        (consistent.allows here rfl (by decide))
        (consistent.allows here rfl (by decide)) (by decide)).trans ?_
      simp [GoesThroughGates, here]
    · cases stepped
  | waitRaised =>
    refine iff_of_true ?_ trivial
    dsimp only [step] at stepped
    split at stepped <;> cases stepped
    next here => exact lawful_finish lawful (here ▸ by decide)
    next here => exact lawful_finish lawful (here ▸ by decide)

theorem consistent_start : start.Consistent where
  phase := by
    rintro _ ⟨⟩
    rfl
  promoting := nofun
  unanswered := fun _ => not_mem_nil

theorem lawful_start : start.Lawful :=
  ⟨lawsKept_nil.approved, lawsKept_nil.completed, fun _ => lawsKept_nil.promoted⟩

structure Sound (workflow : ObjectiveLifecycleWorkflow) : Prop where
  consistent : workflow.Consistent
  lawful : workflow.Lawful

theorem lawful_iff_steps_go_through_gates (sound : workflow.Sound) (steps : List WorkflowStep) :
    EveryStep step (fun _ _ next => next.Lawful) workflow steps ↔
      StepsMeet step GoesThroughGates workflow steps := by
  refine everyStep_iff_of_invariant ?preserved ?agree sound steps
  case preserved =>
    intro workflow taken next sound guarded stepped
    exact ⟨consistent_step sound.consistent stepped,
      (lawful_step_iff sound.consistent sound.lawful stepped).mpr guarded⟩
  case agree =>
    intro workflow taken next sound stepped
    exact lawful_step_iff sound.consistent sound.lawful stepped

end

end ObjectiveLifecycleWorkflow

/-- Over any calls of a runner, and over any signals, answers and waits of a
workflow, the three laws hold in every state reached exactly when every step
goes through the gates. -/
theorem lifecycle_laws_iff_steps_go_through_gates
    (store : Store) (objectiveId : String) (persists : Bool)
    (calls : List RunnerCall) (steps : List WorkflowStep) :
    (EveryStep ObjectiveLifecycleRunner.step (fun _ _ next => next.Lawful)
          (.construct store objectiveId persists) calls ↔
        StepsMeet ObjectiveLifecycleRunner.step ObjectiveLifecycleRunner.GoesThroughGates
          (.construct store objectiveId persists) calls) ∧
      (EveryStep ObjectiveLifecycleWorkflow.step (fun _ _ next => next.Lawful)
          ObjectiveLifecycleWorkflow.start steps ↔
        StepsMeet ObjectiveLifecycleWorkflow.step ObjectiveLifecycleWorkflow.GoesThroughGates
          ObjectiveLifecycleWorkflow.start steps) := by
  constructor
  · have lawful : (ObjectiveLifecycleRunner.construct store objectiveId
        persists).Lawful := lawsKept_nil
    exact ObjectiveLifecycleRunner.lawful_iff_calls_go_through_gates lawful calls
  · exact ObjectiveLifecycleWorkflow.lawful_iff_steps_go_through_gates
      ⟨ObjectiveLifecycleWorkflow.consistent_start, ObjectiveLifecycleWorkflow.lawful_start⟩ steps

section

/-- The trio planning without a call of `approve_mermaid`. -/
def unapprovedCalls : List RunnerCall :=
  [.runThroughMermaid succeedingAnswers, .runTrioAndCreateTasks succeedingAnswers]

def failedPromotion : List WorkflowStep :=
  let succeeds : WorkflowStep := .activityAnswered (.ok [("success", .bool true)])
  [.run, succeeds, .signalMermaidApproved, .waitReturned, succeeds,
    succeeds, .signalTasksCompleted, .waitReturned, succeeds,
    .activityAnswered (.ok [("success", .bool false)])]

/-- The runner plans without an approval, and the workflow is promoted without
a promotion. -/
theorem lifecycle_gates_skipped :
    (∃ runner, runEvents ObjectiveLifecycleRunner.step
          (.construct {} "objective" false) unapprovedCalls = some runner ∧
        .entered .trioPlanning none ∈ runner.events ∧
        .mermaidApproved ∉ runner.events ∧ ¬ runner.Lawful) ∧
      ∃ workflow, runEvents ObjectiveLifecycleWorkflow.step
            ObjectiveLifecycleWorkflow.start failedPromotion = some workflow ∧
          workflow.position = .finished ∧
          workflow.currentPhase = .promoted ∧ ¬ workflow.Lawful := by
  constructor
  · refine ⟨_, rfl, by decide, by decide, ?_⟩
    intro lawful
    obtain ⟨_, member, approves⟩ := lawful.approved
      [.entered .interrogating none, .entered .mermaidReview none]
      (.entered .trioPlanning none) [.entered .executing none] rfl rfl
    rw [approves] at member
    exact absurd member (by decide)
  · refine ⟨_, rfl, rfl, rfl, ?_⟩
    intro lawful
    have succeeded := lawful.promoted nofun ⟨.entered .promoted none, by decide, rfl⟩
    exact absurd succeeded (by decide)

end

end AccruviaHarness
