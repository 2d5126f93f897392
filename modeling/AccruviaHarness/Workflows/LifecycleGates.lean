import AccruviaHarness.Library.Runs
import AccruviaHarness.Workflows.LifecycleRunner

/-!
# The gates of an objective's lifecycle

The approval of the mermaid, the completion of the tasks and the success of the
promotion each stand before a phase.
-/

namespace AccruviaHarness

open Library List

def LifecycleEvent.Enters (phase : ObjectivePhase) : LifecycleEvent → Prop
  | .entered reached _ => reached = phase
  | _ => False

def GatedBy (gate : LifecycleEvent) (phase : ObjectivePhase)
    (history : List LifecycleEvent) : Prop :=
  GatedHistory (· = gate) (LifecycleEvent.Enters phase) history

def PromotedSucceeded (history : List LifecycleEvent) : Prop :=
  (∃ event ∈ history, event.Enters .promoted) → .promotionAnswered true ∈ history

structure LawsKept (history : List LifecycleEvent) : Prop where
  approved : GatedBy .mermaidApproved .trioPlanning history
  completed : GatedBy .tasksCompleted .reviewing history
  promoted : PromotedSucceeded history

def GateOpen (history : List LifecycleEvent) : ObjectivePhase → Prop
  | .trioPlanning => .mermaidApproved ∈ history
  | .reviewing => .tasksCompleted ∈ history
  | .promoted => .promotionAnswered true ∈ history
  | _ => True

theorem promotionAnswer_eq_true_iff {answer : Except PyError PyDict} :
    ObjectiveLifecycleRunner.promotionAnswer answer =
        .promotionAnswered true ↔ Succeeds answer := by
  cases answer with
  | error _ =>
    refine iff_of_false nofun ?_
    rintro ⟨_, ⟨⟩, _⟩
  | ok _ => simp [ObjectiveLifecycleRunner.promotionAnswer, Succeeds]

section

variable {history : List LifecycleEvent}

theorem lawsKept_nil : LawsKept [] where
  approved := gatedHistory_nil
  completed := gatedHistory_nil
  promoted := by
    rintro ⟨_, member, _⟩
    cases member

variable {added : LifecycleEvent} {phase : ObjectivePhase}

theorem gatedBy_append_singleton {gate : LifecycleEvent} :
    GatedBy gate phase (history ++ [added]) ↔
      GatedBy gate phase history ∧ (added.Enters phase → gate ∈ history) := by
  unfold GatedBy
  rw [gatedHistory_append_singleton]
  simp only [exists_eq_right]

theorem promotedSucceeded_append_quiet (enters : ¬ added.Enters .promoted)
    (answers : added ≠ .promotionAnswered true) :
    PromotedSucceeded (history ++ [added]) ↔ PromotedSucceeded history := by
  unfold PromotedSucceeded
  simp only [mem_append, mem_singleton, or_and_right, exists_or,
    exists_eq_left, answers.symm, enters, or_false]

theorem promotedSucceeded_append_promoted (persisted : Option ObjectivePhase) :
    PromotedSucceeded (history ++ [.entered .promoted persisted]) ↔
      .promotionAnswered true ∈ history := by
  have enters : ∃ event ∈ history ++ [.entered .promoted persisted], event.Enters .promoted :=
    ⟨.entered .promoted persisted, mem_append_right history (mem_singleton_self _), rfl⟩
  unfold PromotedSucceeded
  rw [forall_prop_of_true enters]
  simp

theorem promotedSucceeded_append_answer (promoted : ∃ event ∈ history, event.Enters .promoted)
    (answer : Except PyError PyDict) :
    PromotedSucceeded (history ++ [ObjectiveLifecycleRunner.promotionAnswer answer]) ↔
      Succeeds answer ∨ .promotionAnswered true ∈ history := by
  have still : ∃ event ∈ history ++ [ObjectiveLifecycleRunner.promotionAnswer answer],
        event.Enters .promoted := by
    obtain ⟨event, member, enters⟩ := promoted
    exact ⟨event, mem_append_left _ member, enters⟩
  unfold PromotedSucceeded
  rw [forall_prop_of_true still, mem_append, mem_singleton, eq_comm, promotionAnswer_eq_true_iff]
  exact or_comm

theorem gateOpen_iff :
    GateOpen history phase ↔ (phase = .trioPlanning → .mermaidApproved ∈ history) ∧
        (phase = .reviewing → .tasksCompleted ∈ history) ∧
          (phase = .promoted → .promotionAnswered true ∈ history) := by
  cases phase <;> simp [GateOpen]

end

namespace ObjectiveLifecycleRunner

def PromotionSucceeds (runner : ObjectiveLifecycleRunner) :
    RunnerCall → Prop
  | .runReviewAndPromote answers =>
    runner.phase = .executing → Succeeds answers.review → Succeeds answers.promotion ∨
        .promotionAnswered true ∈ runner.events
  | _ => True

structure GoesThroughGates (runner : ObjectiveLifecycleRunner)
    (call : RunnerCall) : Prop where
  first : ∀ target, firstTarget runner.phase call = some target → GateOpen runner.events target
  promotion : runner.PromotionSucceeds call

def step (runner : ObjectiveLifecycleRunner) (call : RunnerCall) :
    Option ObjectiveLifecycleRunner :=
  some (runner.perform call)

theorem not_enters_of_mem_marks
    {call : RunnerCall} {event : LifecycleEvent} (marked : event ∈ marks call)
    (phase : ObjectivePhase) : ¬ event.Enters phase := by
  cases call with
  | approveMermaid =>
    cases mem_singleton.mp marked
    exact not_false
  | completeTasks =>
    cases mem_singleton.mp marked
    exact not_false
  | runReviewAndPromote answers =>
    cases mem_singleton.mp marked
    cases answers.promotion <;> exact not_false
  | runThroughMermaid => cases marked
  | runTrioAndCreateTasks => cases marked
  | advance => cases marked

variable {runner : ObjectiveLifecycleRunner}

theorem gatedBy_perform_iff {gate : LifecycleEvent} {phase : ObjectivePhase} {call : RunnerCall}
    (first : phase ∉ laterTargets call)
    (gated : GatedBy gate phase runner.events) :
    GatedBy gate phase (runner.perform call).events ↔
      ∀ target, firstTarget runner.phase call = some target →
        target = phase → gate ∈ runner.events := by
  have decides : FirstTargetDecides (fun runner => GatedBy gate phase runner.events) (fun _ => True)
      call := by
    refine ⟨fun _ _ => trivial, ?later, ?recorded⟩
    case later =>
      intro runner _ target later _
      refine gatedBy_append_singleton.trans (and_iff_left ?_)
      intro enters
      have same : target = phase := enters
      exact absurd (same ▸ later) first
    case recorded =>
      intro runner event marked
      refine gatedBy_append_singleton.trans (and_iff_left ?_)
      intro enters
      exact absurd enters (not_enters_of_mem_marks marked phase)
  rw [holds_perform_iff decides runner]
  cases firstTarget runner.phase call with
  | none => exact iff_of_true gated nofun
  | some target =>
    refine gatedBy_append_singleton.trans ((and_iff_right gated).trans ?_)
    constructor
    · rintro gateOpened _ ⟨⟩ same
      exact gateOpened same
    · intro gateOpened same
      exact gateOpened target rfl same

theorem promotedSucceeded_enter_iff {target : ObjectivePhase}
    (before : PromotedSucceeded runner.events) :
    PromotedSucceeded (runner.enter target).events ↔
      (target = .promoted → .promotionAnswered true ∈ runner.events) := by
  by_cases promotes : target = .promoted
  · subst promotes
    rw [forall_prop_of_true rfl]
    exact promotedSucceeded_append_promoted _
  · refine iff_of_true ?_ fun same => absurd same promotes
    apply (promotedSucceeded_append_quiet _ _).mpr before
    · exact promotes
    · exact LifecycleEvent.noConfusion

theorem promotedSucceeded_runReviewAndPromote_iff
    (before : PromotedSucceeded runner.events) (answers : ActivityAnswers) :
    PromotedSucceeded (runner.runReviewAndPromote answers).1.events ↔
      runner.PromotionSucceeds (.runReviewAndPromote answers) := by
  unfold runReviewAndPromote PromotionSucceeds
  dsimp only
  by_cases elsewhere : runner.phase ≠ .executing
  · rw [if_pos elsewhere]
    exact iff_of_true before fun here => absurd here elsewhere
  have here : runner.phase = .executing := not_not.mp elsewhere
  have reviews : runner.phase.Allows .reviewing := by
    rw [here]
    decide
  have reviewing : PromotedSucceeded (runner.enter .reviewing).events :=
    (promotedSucceeded_enter_iff before).mpr nofun
  rw [if_neg elsewhere, advancing_of_allows reviews, forall_prop_of_true here]
  cases answers.review with
  | error _ =>
    refine iff_of_true reviewing ?_
    rintro ⟨_, returned, _⟩
    cases returned
  | ok reviewResult =>
    dsimp only [afterActivity, unlessFailed]
    have fails : (runner.enter .reviewing).phase.Allows .failed :=
      show ObjectivePhase.reviewing.Allows .failed by decide
    have promotes : (runner.enter .reviewing).phase.Allows .promoted :=
      show ObjectivePhase.reviewing.Allows .promoted by decide
    by_cases success : (reviewResult.get "success").truthy = true
    · rw [if_pos success, advancing_of_allows promotes,
        forall_prop_of_true ⟨reviewResult, rfl, success⟩]
      refine (promotedSucceeded_append_answer ?_ answers.promotion).trans ?_
      · exact ⟨_, mem_append_right _ (mem_singleton_self _), rfl⟩
      · simp [enter]
    · rw [if_neg success, advancing_of_allows fails]
      refine iff_of_true ((promotedSucceeded_enter_iff reviewing).mpr nofun) ?_
      rintro ⟨_, ⟨⟩, succeeded⟩
      exact absurd succeeded success

theorem promotedSucceeded_perform_iff
    (before : PromotedSucceeded runner.events) (call : RunnerCall) :
    PromotedSucceeded (runner.perform call).events ↔
      (∀ target, firstTarget runner.phase call = some target →
        target = .promoted → .promotionAnswered true ∈ runner.events) ∧
        runner.PromotionSucceeds call := by
  by_cases promotes : .promoted ∈ laterTargets call
  · -- Only the call that tries the promotion enters the phase later on.
    cases call with
    | runReviewAndPromote answers =>
      refine (promotedSucceeded_runReviewAndPromote_iff before
        answers).trans (and_iff_right ?_).symm
      intro target first promoted
      rw [promoted, firstTarget] at first
      split at first <;> cases first
    | runThroughMermaid => simp [laterTargets] at promotes
    | runTrioAndCreateTasks => simp [laterTargets] at promotes
    | approveMermaid => cases promotes
    | completeTasks => cases promotes
    | advance => cases promotes
  · have decides : FirstTargetDecides
        (fun runner => PromotedSucceeded runner.events) (fun _ => True)
        call := by
      refine ⟨fun _ _ => trivial, ?later, ?recorded⟩
      case later =>
        intro runner _ target later _
        refine promotedSucceeded_append_quiet ?_ LifecycleEvent.noConfusion
        intro enters
        have same : target = .promoted := enters
        exact promotes (same ▸ later)
      case recorded =>
        intro runner event marked
        refine promotedSucceeded_append_quiet (not_enters_of_mem_marks marked .promoted) ?_
        rintro rfl
        cases call with
        | runReviewAndPromote => exact promotes (mem_cons_self)
        | approveMermaid => cases mem_singleton.mp marked
        | completeTasks => cases mem_singleton.mp marked
        | runThroughMermaid => cases marked
        | runTrioAndCreateTasks => cases marked
        | advance => cases marked
    have succeeds : runner.PromotionSucceeds call := by
      cases call with
      | runReviewAndPromote => exact absurd (mem_cons_self) promotes
      | _ => exact trivial
    rw [holds_perform_iff decides runner, and_iff_left succeeds]
    cases firstTarget runner.phase call with
    | none =>
      refine iff_of_true before ?_
      intro target found
      cases found
    | some target =>
      refine (promotedSucceeded_enter_iff before).trans ?_
      constructor
      · rintro succeeded _ ⟨⟩ same
        exact succeeded same
      · intro succeeded same
        exact succeeded target rfl same

def Lawful (runner : ObjectiveLifecycleRunner) : Prop := LawsKept runner.events

theorem lawful_perform_iff (lawful : runner.Lawful) (call : RunnerCall) :
    (runner.perform call).Lawful ↔ runner.GoesThroughGates call := by
  have plansFirst : .trioPlanning ∉ laterTargets call := by cases call <;> simp [laterTargets]
  have reviewsFirst : .reviewing ∉ laterTargets call := by cases call <;> simp [laterTargets]
  have approved := gatedBy_perform_iff plansFirst lawful.approved
  have completed := gatedBy_perform_iff reviewsFirst lawful.completed
  have promoted := promotedSucceeded_perform_iff lawful.promoted call
  constructor
  · intro after
    have promotion := promoted.mp after.promoted
    refine ⟨?_, promotion.2⟩
    intro target first
    exact gateOpen_iff.mpr ⟨approved.mp after.approved target first,
        completed.mp after.completed target first,
        promotion.1 target first⟩
  · rintro ⟨opened, succeeds⟩
    have gates target first := gateOpen_iff.mp (opened target first)
    exact
      { approved := approved.mpr fun target first => (gates target first).1
        completed := completed.mpr fun target first => (gates target first).2.1
        promoted := promoted.mpr
          ⟨fun target first => (gates target first).2.2, succeeds⟩ }

theorem lawful_iff_calls_go_through_gates (lawful : runner.Lawful) (calls : List RunnerCall) :
    EveryStep step (fun _ _ next => next.Lawful) runner calls ↔
      StepsMeet step GoesThroughGates runner calls := by
  refine everyStep_iff_of_invariant ?preserved ?agree lawful calls
  case preserved =>
    rintro runner call _ lawful guarded ⟨⟩
    exact (lawful_perform_iff lawful call).mpr guarded
  case agree =>
    rintro _ call _ lawful ⟨⟩
    exact lawful_perform_iff lawful call

end ObjectiveLifecycleRunner

end AccruviaHarness
