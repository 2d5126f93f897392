import AccruviaHarness.Services.PublishedWork
import AccruviaHarness.Workflows.DurablePhase

/-!
# What a generation leaves

A generation returns, whatever the planner answers. It leaves the status that
the tasks give the objective, or the status of a failure, and the phase that
its runner has reached.
-/

namespace AccruviaHarness

open Library

namespace HarnessUIDataService

def publishes (answers : GenerationAnswers) (objective : Objective) (store : Store) : Bool :=
  match Generation.plannedPlans answers with
  | .error _ => false
  | .ok plansData =>
    match Plans.materializePlansFromSkillOutput store objective.id plansData
      "plan_draft_trio" answers.planTime with
    | (_, .error _) => false
    | (stored, .ok plans) => (createPlanTasks answers.identities objective stored 1 plans).2.isOk

/-! ## The objective has tasks after a publication -/

variable {store written : Store} {objective : Objective}

theorem linkedRows_createPlanTask {identities : TaskIdentities} {plan : Plan} {task : Task}
    (returned : createPlanTask identities store objective plan =
      .ok (written, task)) : written.linkedRows objective.id ≠ [] := by
  unfold createPlanTask at returned
  obtain ⟨_, _, returned⟩ := exists_of_bind_ok returned
  have stored := TaskService.createTask_of_createTaskWithPolicy rfl returned
  rcases TaskService.createTask_spec stored with
    ⟨referenced, _⟩ | ⟨_, ⟨_, tasks, same, inserted⟩, _, _, row⟩
  · unfold TaskService.referencedTask at referenced
    rw [if_neg fun given => given.1 rfl] at referenced
    cases referenced
  · have member : task ∈ written.tasks.rows := by
      rw [same]
      show task ∈ tasks.rows
      rw [KeyedTable.rows_of_insert? inserted]
      exact List.mem_append_right _ (List.mem_singleton_self task)
    have owned : task.objectiveId = some objective.id := by
      rw [row]
      rfl
    refine List.ne_nil_of_mem (?_ : task ∈ _)
    exact List.mem_filter.mpr ⟨member, decide_eq_true owned⟩

theorem linkedRows_createPlanTasks
    {identities : Nat → TaskIdentities} {index : Nat} {plans : List Plan}
    {taskIds : List String} (planned : plans ≠ [])
    (returned : createPlanTasks identities objective store index plans =
      (written, .ok taskIds)) : written.linkedRows objective.id ≠ [] := by
  induction plans generalizing store index taskIds with
  | nil => exact absurd rfl planned
  | cons plan plans ih =>
    rw [createPlanTasks] at returned
    cases created : createPlanTask (identities index) store objective plan with
    | error _ =>
      rw [created] at returned
      cases returned
    | ok stored =>
      rw [created] at returned
      dsimp only at returned
      cases plans with
      | nil =>
        cases returned
        exact linkedRows_createPlanTask created
      | cons next plans =>
        generalize tried : createPlanTasks identities objective
          stored.1 (index + 1) (next :: plans) = later at returned
        obtain ⟨_, outcome⟩ := later
        cases outcome with
        | error _ => cases returned
        | ok _ =>
          cases returned
          exact ih (List.cons_ne_nil _ _) tried

namespace Generation

variable (generation : Generation) (answers : GenerationAnswers)

theorem plannedPlans_ne_nil {plansData : List (String × PyDict)}
    (planned : plannedPlans answers = .ok plansData) : plansData ≠ [] := by
  unfold plannedPlans at planned
  obtain ⟨result, _, planned⟩ := exists_of_bind_ok planned
  by_cases refused : (!result.success || result.plans.isEmpty) = true
  · rw [if_pos refused] at planned
    cases planned
  · rw [if_neg refused] at planned
    cases planned
    simp only [Bool.or_eq_true, List.isEmpty_iff, not_or] at refused
    simpa using refused.2

theorem publication_of_publishes (succeeds : publishes answers generation.objective store = true) :
    ∃ count after, generation.publication answers store = .ok count after ∧
      after.linkedRows generation.objective.id ≠ [] := by
  unfold publishes at succeeds
  unfold publication
  cases planned : plannedPlans answers with
  | error _ =>
    rw [planned] at succeeds
    cases succeeds
  | ok plansData =>
    rw [planned] at succeeds
    dsimp only at succeeds
    generalize stores : Plans.materializePlansFromSkillOutput store
      generation.objective.id plansData "plan_draft_trio" answers.planTime =
        materialized at succeeds
    obtain ⟨stored, outcome⟩ := materialized
    cases outcome with
    | error _ => cases succeeds
    | ok plans =>
      dsimp only at succeeds
      generalize creates : createPlanTasks answers.identities
        generation.objective stored 1 plans = created at succeeds
      obtain ⟨after, outcome⟩ := created
      cases outcome with
      | error _ => cases succeeds
      | ok _ =>
        have some_plans : plans ≠ [] := by
          have ids := (Plans.materializeFrom_spec stores).2.1
          rintro rfl
          have none_planned := List.map_eq_nil_iff.mp ids.symm
          exact plannedPlans_ne_nil answers planned none_planned
        have tasked : generation.createTasks answers 1 plans stored = .ok ⟨⟩ after := by
          apply ofPair_of_ok
          rw [creates]
          rfl
        refine ⟨plans.length, after, ?_, linkedRows_createPlanTasks some_plans creates⟩
        have materialize : generation.materializePlans answers plansData
            store = .ok plans stored := ofPair_of_ok stores
        have value : (valueOf (.ok plansData) :
          EStateM PyError Store _) store = .ok plansData store := rfl
        rw [bind_of_ok value, bind_of_ok materialize, bind_of_ok tasked]
        rfl

theorem publication_of_not_publishes
    (fails : publishes answers generation.objective store = false) :
    ∃ error left, generation.publication answers store = .error error left := by
  unfold publishes at fails
  unfold publication
  cases planned : plannedPlans answers with
  | error error => exact ⟨error, store, rfl⟩
  | ok plansData =>
    rw [planned] at fails
    have value : (valueOf (.ok plansData) :
      EStateM PyError Store _) store = .ok plansData store := rfl
    rw [bind_of_ok value]
    dsimp only at fails
    generalize stores : Plans.materializePlansFromSkillOutput store
      generation.objective.id plansData "plan_draft_trio" answers.planTime = materialized at fails
    obtain ⟨stored, outcome⟩ := materialized
    cases outcome with
    | error error =>
      have materialize : generation.materializePlans answers plansData
          store = .error error stored := ofPair_of_error stores
      exact ⟨error, stored, bind_of_error materialize⟩
    | ok plans =>
      have materialize : generation.materializePlans answers plansData
          store = .ok plans stored := ofPair_of_ok stores
      rw [bind_of_ok materialize]
      dsimp only at fails
      generalize creates : createPlanTasks answers.identities
        generation.objective stored 1 plans = created at fails
      obtain ⟨left, outcome⟩ := created
      cases outcome with
      | ok _ => cases fails
      | error error =>
        have tasked : generation.createTasks answers 1 plans stored = .error error left := by
          apply ofPair_of_error
          rw [creates]
          rfl
        exact ⟨error, left, bind_of_error tasked⟩

theorem projects_createTasks (index : Nat) (plans : List Plan) :
    Projects Store.work (generation.createTasks answers index plans)
      (generation.createTasks answers index plans) := by
  induction plans generalizing index with
  | nil => exact fun _ => rfl
  | cons _ _ ih =>
    rw [createTasks_cons]
    refine (Projects.value _).bind fun planSlice => ?_
    refine Projects.bind (Projects.changes ?_) fun task => ih _
    intro store
    exact createTaskWithPolicy_work store _ _

theorem projects_publication :
    Projects Store.work (generation.publication answers) (generation.publication answers) := by
  refine (Projects.value _).bind fun plansData => ?_
  refine Projects.bind (Projects.pairs ?_) fun plans => ?_
  · intro store
    exact materializeFrom_work store _ _ _ _ _
  · exact (generation.projects_createTasks answers 1 plans).bind fun _ => Projects.returns _

def published (store : Store) : Store := (stateOf (generation.publication answers store)).work

section

variable {origin before : Store}

theorem keeps_objectives_publish : Keeps Store.objectives (generation.publish answers) := by
  apply generation.keeps_publish answers
  constructor
  · intro store record _
    rfl
  · intro store plans tasks
    rfl

theorem publish_of_publishes (same : before.work = origin.work)
    (succeeds : publishes answers generation.objective origin = true) :
    ∃ count after, generation.publish answers before = .ok count after ∧
      after.work = generation.published answers origin ∧
        after.objectives = before.objectives ∧ after.linkedRows generation.objective.id ≠ [] := by
  obtain ⟨count, view, returned, linked⟩ := generation.publication_of_publishes answers succeeds
  have shown := generation.projects_publication answers origin
  rw [returned] at shown
  have seen : generation.publication answers before.work = .ok count view.work := by
    rw [same]
    exact shown.symm
  obtain ⟨after, ended, viewed⟩ := (generation.projects_publish answers).returned seen
  have kept := generation.keeps_objectives_publish answers before
  rw [ended] at kept
  refine ⟨count, after, ended, ?work, kept, ?linked⟩
  case work =>
    rw [viewed]
    unfold published
    rw [returned]
    rfl
  case linked =>
    rw [← Store.linkedRows_work, viewed]
    exact linked

theorem publish_of_not_publishes (same : before.work = origin.work)
    (fails : publishes answers generation.objective origin = false) :
    ∃ error left, generation.publish answers before = .error error left ∧
      left.work = generation.published answers origin ∧
        left.objectives = before.objectives := by
  obtain ⟨error, view, raised⟩ := generation.publication_of_not_publishes answers fails
  have shown := generation.projects_publication answers origin
  rw [raised] at shown
  have seen : generation.publication answers before.work = .error error view.work := by
    rw [same]
    exact shown.symm
  obtain ⟨left, ended, viewed⟩ := (generation.projects_publish answers).raised seen
  have kept := generation.keeps_objectives_publish answers before
  rw [ended] at kept
  refine ⟨error, left, ended, ?_, kept⟩
  rw [viewed]
  unfold published
  rw [raised]
  rfl

end

end Generation

/-! ## The runner and the status -/

section

variable {objectiveId : String} {before : Store} {prior : ObjectivePhase}

theorem persistedPhase_updateObjectiveStatus
    (store : Store) (objectiveId : String) (status : ObjectiveStatus) :
    (store.updateObjectiveStatus objectiveId status).persistedPhase
      objectiveId = store.persistedPhase objectiveId := by
  unfold Store.persistedPhase Store.updateObjectiveStatus
  rw [KeyedTable.lookup_updateAt]
  cases store.objectives.lookup objectiveId <;> simp

theorem persistedPhase_updateObjectivePhase (store : Store) (objectiveId : String) :
    (store.updateObjectivePhase objectiveId).1.persistedPhase objectiveId =
      store.persistedPhase objectiveId := by
  unfold Store.updateObjectivePhase
  split
  · rfl
  · exact persistedPhase_updateObjectiveStatus store objectiveId _

theorem linkedRows_updateObjectivePhase (store : Store) (objectiveId : String) :
    (store.updateObjectivePhase objectiveId).1.linkedRows objectiveId =
      store.linkedRows objectiveId := by
  rw [← Store.linkedRows_work, Store.work_updateObjectivePhase, Store.linkedRows_work]

theorem objectiveStatus_update_of_phase (entered : before.persistedPhase objectiveId = some prior)
    (status : ObjectiveStatus) :
    (before.updateObjectiveStatus objectiveId status).objectiveStatus
      objectiveId = some status := by
  unfold Store.persistedPhase at entered
  unfold Store.objectiveStatus Store.updateObjectiveStatus
  rw [KeyedTable.lookup_updateAt]
  cases found : before.objectives.lookup objectiveId with
  | none =>
    rw [found] at entered
    cases entered
  | some _ => simp

theorem objectiveStatus_updateObjectivePhase
    (entered : before.persistedPhase objectiveId = some prior)
    (linked : before.linkedRows objectiveId ≠ []) :
    (before.updateObjectivePhase objectiveId).1.objectiveStatus objectiveId =
      derivedPhase (before.linkedRows objectiveId) := by
  unfold Store.updateObjectivePhase
  cases derived : derivedPhase (before.linkedRows objectiveId) with
  | none => exact absurd (derivedPhase_eq_none_iff.mp derived) linked
  | some status => exact objectiveStatus_update_of_phase entered status

theorem advanceRunner_of_allows {phase target : ObjectivePhase} (allowed : phase.Allows target)
    (store : Store) :
    advanceRunner objectiveId phase target store =
      .ok target (store.setObjectivePhase objectiveId target) := by
  unfold advanceRunner ObjectiveLifecycleRunner.advancing
  apply ofPair_of_ok
  dsimp only
  rw [advanceObjectivePhase_of_allows allowed]
  rfl

theorem advanceFrom_spec {expected target phase : ObjectivePhase} (allowed : expected.Allows target)
    (entered : before.persistedPhase objectiveId = some prior) :
    ∃ after, advanceFrom expected target objectiveId phase before =
          .ok (if phase = expected then target else phase) after ∧
        after.work = before.work ∧ after.persistedPhase objectiveId =
            some (if phase = expected then target else prior) := by
  unfold advanceFrom
  by_cases here : phase = expected
  · subst here
    simp only [if_true]
    refine ⟨_, advanceRunner_of_allows allowed before, Store.work_setObjectivePhase _ _ _, ?_⟩
    rw [ObjectiveLifecycleRunner.persistedPhase_setObjectivePhase, entered]
    rfl
  · simp only [if_neg here]
    exact ⟨before, rfl, rfl, entered⟩

end

namespace Generation

variable (generation : Generation) (answers : GenerationAnswers)

def reachedPhase (succeeds : Bool) (phase prior : ObjectivePhase) :
    ObjectivePhase :=
  if phase = .mermaidReview then if succeeds then .executing else .trioPlanning
  else prior

structure Settled (origin : Store) (phase prior : ObjectivePhase)
    (after : Store) : Prop where
  work : after.work = generation.published answers origin
  reached : after.persistedPhase generation.objective.id =
    some (reachedPhase (publishes answers generation.objective origin) phase prior)
  status : after.objectiveStatus generation.objective.id =
    if publishes answers generation.objective origin = true then
      derivedPhase (after.linkedRows generation.objective.id)
    else some .paused

section

variable {origin before : Store} {phase prior : ObjectivePhase}

theorem complete_spec (entered : before.persistedPhase generation.objective.id = some prior)
    (linked : before.linkedRows generation.objective.id ≠ [])
    (count : Nat) :
    ∃ after, generation.complete answers count before = .ok ⟨⟩ after ∧
      after.work = before.work ∧ after.persistedPhase generation.objective.id = some prior ∧
          after.objectiveStatus generation.objective.id =
            derivedPhase (after.linkedRows generation.objective.id) := by
  refine ⟨_, rfl, ?work, ?phase, ?status⟩
  case work => exact Store.work_updateObjectivePhase _ _
  case phase =>
    rw [persistedPhase_updateObjectivePhase]
    exact entered
  case status =>
    refine Eq.trans (@objectiveStatus_updateObjectivePhase _ _ prior entered linked) ?_
    exact congrArg derivedPhase (linkedRows_updateObjectivePhase _ generation.objective.id).symm

theorem fail_spec (entered : before.persistedPhase generation.objective.id = some prior)
    (error : PyError) :
    ∃ after, generation.fail answers error before = .ok ⟨⟩ after ∧
      after.work = before.work ∧ after.persistedPhase generation.objective.id = some prior ∧
          after.objectiveStatus generation.objective.id = some .paused := by
  refine ⟨_, rfl, ?work, ?phase, ?status⟩
  case work => exact Store.work_updateObjectiveStatus _ _ _
  case phase =>
    rw [persistedPhase_updateObjectiveStatus]
    exact entered
  case status => exact @objectiveStatus_update_of_phase _ _ prior entered _

theorem run_spec (same : before.work = origin.work)
    (entered : before.persistedPhase generation.objective.id = some prior)
    (starts : phase = .created ∨ phase = .mermaidReview) :
    ∃ after, generation.run answers phase before = .ok ⟨⟩ after ∧
      generation.Settled answers origin phase prior after := by
  have reads : Silent (fun store => (store.work, store.persistedPhase generation.objective.id))
      (generation.recordProgress answers "reading accepted flowchart"
        ("Reading accepted Mermaid v" ++ toString generation.diagramVersion ++
          " before decomposition.")) :=
    generation.silent_recordProgress answers (fun _ _ => rfl) _ _
  obtain ⟨_, read, reading, quiet⟩ := reads before
  obtain ⟨readWork, readPhase⟩ := Prod.mk.inj quiet
  have planning : ObjectivePhase.mermaidReview.Allows .trioPlanning := by decide
  have executing : ObjectivePhase.trioPlanning.Allows .executing := by decide
  obtain ⟨planned, advanced, plannedWork, plannedPhase⟩ :=
    @advanceFrom_spec _ read prior _ _ phase planning (readPhase.trans entered)
  have ready : planned.work = origin.work := plannedWork.trans (readWork.trans same)
  unfold run
  cases succeeds : publishes answers generation.objective origin with
  | true =>
    obtain ⟨count, stored, publishing, storedWork, rows, _⟩ :=
      generation.publish_of_publishes answers ready succeeds
    have storedPhase := plannedPhase
    unfold Store.persistedPhase at storedPhase
    rw [← rows] at storedPhase
    obtain ⟨executed, goesOn, executedWork, executedPhase⟩ :=
      @advanceFrom_spec _ stored _ _ _
        (if phase = .mermaidReview then .trioPlanning else phase) executing
        storedPhase
    have stillLinked : executed.linkedRows generation.objective.id ≠ [] := by
      rwa [← Store.linkedRows_work, executedWork, Store.linkedRows_work]
    obtain ⟨after, completed, afterWork, afterPhase, status⟩ :=
      generation.complete_spec answers executedPhase stillLinked count
    have attempted : generation.attempt answers phase before = .ok ⟨⟩ after := by
      unfold attempt
      rw [bind_of_ok reading, bind_of_ok advanced, bind_of_ok publishing,
        bind_of_ok goesOn, completed]
    refine ⟨after, caught_of_ok attempted, ?work, ?reached, ?status⟩
    case work => exact afterWork.trans (executedWork.trans storedWork)
    case reached =>
      rw [afterPhase, succeeds]
      rcases starts with rfl | rfl <;> rfl
    case status =>
      rw [if_pos succeeds]
      exact status
  | false =>
    obtain ⟨error, left, raising, leftWork, rows⟩ :=
      generation.publish_of_not_publishes answers ready succeeds
    have leftPhase := plannedPhase
    unfold Store.persistedPhase at leftPhase
    rw [← rows] at leftPhase
    obtain ⟨after, failed, afterWork, afterPhase, status⟩ :=
      @fail_spec generation answers left _ leftPhase error
    have attempted : generation.attempt answers phase before = .error error left := by
      unfold attempt
      rw [bind_of_ok reading, bind_of_ok advanced, bind_of_error raising]
    refine ⟨after, (caught_of_error attempted).trans failed, ?lost, ?stays, ?paused⟩
    case lost => exact afterWork.trans leftWork
    case stays =>
      rw [afterPhase, succeeds]
      rcases starts with rfl | rfl <;> rfl
    case paused =>
      rw [succeeds]
      exact status

end

/-! ## What a run leaves alone -/

structure BesideGeneration {View : Type} (part : Store → View) : Prop extends
    Unpublished part where
  objectives : ∀ store objectives, part { store with objectives } = part store

section

variable {View : Type} {part : Store → View}

theorem keeps_advanceFrom (unseen : BesideGeneration part) (expected target : ObjectivePhase)
    (objectiveId : String) (phase : ObjectivePhase) :
    Keeps part (advanceFrom expected target objectiveId phase) := by
  unfold advanceFrom
  refine Keeps.choice (Keeps.pairs ?_) (Keeps.returns _)
  intro store
  unfold ObjectiveLifecycleRunner.advancing
  dsimp only
  cases advanceObjectivePhase phase target with
  | error _ => rfl
  | ok _ => exact unseen.objectives store _

theorem part_updateObjectivePhase
    (unseen : BesideGeneration part) (store : Store) (objectiveId : String) :
    part (store.updateObjectivePhase objectiveId).1 = part store := by
  unfold Store.updateObjectivePhase
  split
  · rfl
  · exact unseen.objectives store _

theorem keeps_complete (unseen : BesideGeneration part) (count : Nat) :
    Keeps part (generation.complete answers count) := by
  have written := unseen.toUnpublished
  refine (generation.keeps_record answers written (by decide) _ _).bind fun _ => ?_
  refine (generation.keeps_receipt answers written _ _ _).bind fun _ => ?_
  exact Keeps.changes fun store => part_updateObjectivePhase unseen store _

theorem keeps_fail (unseen : BesideGeneration part) (error : PyError) :
    Keeps part (generation.fail answers error) := by
  have written := unseen.toUnpublished
  refine (generation.keeps_record answers written (by decide) _ _).bind fun _ => ?_
  refine (generation.keeps_receipt answers written _ _ _).bind fun _ => ?_
  exact Keeps.changes fun store => unseen.objectives store _

theorem keeps_run (unseen : BesideGeneration part) (phase : ObjectivePhase) :
    Keeps part (generation.run answers phase) := by
  have written := unseen.toUnpublished
  have attempted : Keeps part (generation.attempt answers phase) := by
    refine (generation.keeps_recordProgress answers written _ _).bind fun _ => ?_
    refine (keeps_advanceFrom unseen _ _ _ _).bind fun phase => ?_
    refine (generation.keeps_publish answers written).bind fun count => ?_
    refine (keeps_advanceFrom unseen _ _ _ _).bind fun _ => ?_
    exact generation.keeps_complete answers unseen count
  exact attempted.caught fun error => generation.keeps_fail answers unseen error

end

end Generation

end HarnessUIDataService

end AccruviaHarness
