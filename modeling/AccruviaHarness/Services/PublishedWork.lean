import AccruviaHarness.Services.AtomicGeneration

/-!
# What a generation publishes

The plans and the tasks that a generation stores depend on the planner's answer
and on the plans, the tasks and the projects of the objectives alone.
-/

namespace AccruviaHarness

open Library

def unsettled : RowUpdate Objective.id where
  apply row := { row with status := .open, phase := .created }
  keepsKey _ := rfl

namespace Store

variable (store : Store)

def work : Store where
  objectives := store.objectives.modify unsettled
  tasks := store.tasks
  plans := store.plans

@[simp]
theorem work_createContextRecord (record : ContextRecord) :
    (store.createContextRecord record).work = store.work := rfl

variable (objectiveId : String)

@[simp]
theorem work_updateObjectiveStatus (status : ObjectiveStatus) :
    (store.updateObjectiveStatus objectiveId status).work = store.work := by
  unfold work updateObjectiveStatus
  rw [KeyedTable.modify_updateAt]
  intro row
  rfl

@[simp]
theorem work_setObjectivePhase (phase : ObjectivePhase) :
    (store.setObjectivePhase objectiveId phase).work = store.work := by
  unfold work setObjectivePhase
  rw [KeyedTable.modify_updateAt]
  intro row
  rfl

@[simp]
theorem work_updateObjectivePhase :
    (store.updateObjectivePhase objectiveId).1.work = store.work := by
  unfold updateObjectivePhase
  split
  · rfl
  · exact work_updateObjectiveStatus store objectiveId _

theorem getObjective_work :
    store.work.getObjective objectiveId =
      (store.getObjective objectiveId).map fun row =>
        { row with status := .open } := by
  unfold getObjective work
  rw [KeyedTable.lookup_modify, Option.map_map, Option.map_map]
  rfl

theorem linkedRows_work :
    store.work.linkedRows objectiveId = store.linkedRows objectiveId := rfl

end Store

section

variable (store : Store)

theorem createPlan_work (plan : Plan) :
    store.work.createPlan plan = (store.createPlan plan).map Store.work := by
  have same : store.work.plans = store.plans := rfl
  unfold Store.createPlan
  rw [same]
  cases store.plans.insert? plan <;> rfl

variable (identities : TaskIdentities)

theorem ensurePlanLinkage_work (task : Task) :
    TaskService.ensurePlanLinkage identities store.work task =
      (TaskService.ensurePlanLinkage identities store task).map
        fun linked => (linked.1.work, linked.2) := by
  unfold TaskService.ensurePlanLinkage
  cases task.objective? with
  | none => rfl
  | some _ =>
    cases task.planId.filter fun planId => planId ≠ "" with
    | some _ =>
      dsimp only
      by_cases noded : TaskService.orEmptyText task.mermaidNodeId ≠ ""
      · rw [if_pos noded, if_pos noded]
        rfl
      · rw [if_neg noded, if_neg noded]
        rfl
    | none =>
      dsimp only
      cases task.scope.getList "files_to_touch" with
      | error _ => rfl
      | ok _ =>
        rw [ok_bind, ok_bind, createPlan_work]
        cases store.createPlan _ <;> rfl

theorem createTask_work (task : Task) :
    TaskService.createTask identities store.work task =
      (TaskService.createTask identities store task).map
        fun created => (created.1.work, created.2) := by
  have same : TaskService.referencedTask store.work task =
      TaskService.referencedTask store task := rfl
  unfold TaskService.createTask
  rw [same, ensurePlanLinkage_work]
  cases TaskService.referencedTask store task with
  | some _ => rfl
  | none =>
    cases TaskService.ensurePlanLinkage identities store task with
    | error _ => rfl
    | ok linked =>
      have table : linked.1.work.tasks = linked.1.tasks := rfl
      dsimp only [Except.map]
      rw [table]
      cases linked.1.tasks.insert? linked.2 <;> rfl

theorem createTaskWithPolicy_work (policy : TaskPolicy) :
    TaskService.createTaskWithPolicy identities store.work policy =
      (TaskService.createTaskWithPolicy identities store policy).map
        fun created => (created.1.work, created.2) := by
  unfold TaskService.createTaskWithPolicy
  cases policy.objectiveId with
  | none => exact createTask_work store identities _
  | some objectiveId =>
    dsimp only
    rw [Store.getObjective_work]
    cases store.getObjective objectiveId with
    | none => rfl
    | some objective =>
      dsimp only [Option.map_some]
      by_cases foreign : objective.projectId ≠ policy.projectId
      · rw [if_pos foreign, if_pos foreign]
        rfl
      · rw [if_neg foreign, if_neg foreign]
        exact createTask_work store identities _

theorem materializeFrom_work (objectiveId authorTag : String) (localToPlanId : Plans.LocalIds)
    (createdAt : Int) (plansData : List (String × PyDict)) :
    Plans.materializeFrom objectiveId authorTag store.work localToPlanId createdAt plansData =
      let materialized := Plans.materializeFrom objectiveId authorTag store
        localToPlanId createdAt plansData
      (materialized.1.work, materialized.2) := by
  induction plansData generalizing store localToPlanId createdAt with
  | nil => rfl
  | cons entry _ ih =>
    obtain ⟨planId, planData⟩ := entry
    unfold Plans.materializeFrom
    cases Plans.draftPlan objectiveId authorTag planId createdAt localToPlanId planData with
    | error _ => rfl
    | ok drafted =>
      dsimp only
      rw [createPlan_work]
      cases store.createPlan drafted.2 with
      | error _ => rfl
      | ok _ =>
        dsimp only [Except.map]
        cases drafted.1.requireKey with
        | error _ => rfl
        | ok _ =>
          dsimp only
          rw [ih]

end

theorem materializeFrom_frame (store : Store) (objectiveId authorTag : String)
    (localToPlanId : Plans.LocalIds) (createdAt : Int)
    (plansData : List (String × PyDict)) :
    ∃ plans, (Plans.materializeFrom objectiveId authorTag store localToPlanId
      createdAt plansData).1 = { store with plans } := by
  induction plansData generalizing store localToPlanId createdAt with
  | nil => exact ⟨_, rfl⟩
  | cons entry _ ih =>
    obtain ⟨planId, planData⟩ := entry
    unfold Plans.materializeFrom
    cases Plans.draftPlan objectiveId authorTag planId createdAt localToPlanId planData with
    | error _ => exact ⟨_, rfl⟩
    | ok drafted =>
      dsimp only
      unfold Store.createPlan
      cases store.plans.insert? drafted.2 with
      | none => exact ⟨_, rfl⟩
      | some plans =>
        cases drafted.1.requireKey with
        | error _ => exact ⟨_, rfl⟩
        | ok key =>
          obtain ⟨later, same⟩ := ih { store with plans } ((key, drafted.2.id) :: localToPlanId)
            (createdAt + 1000000)
          exact ⟨later, same⟩

theorem createTaskWithPolicy_frame {identities : TaskIdentities} {store written : Store}
    {policy : TaskPolicy} {objectiveId : String} {task : Task}
    (owned : policy.objectiveId = some objectiveId)
    (returned : TaskService.createTaskWithPolicy identities store policy = .ok (written, task)) :
    ∃ plans tasks, written = { store with plans, tasks } := by
  have stored := TaskService.createTask_of_createTaskWithPolicy owned returned
  rcases TaskService.createTask_spec stored with
    ⟨_, same⟩ | ⟨_, ⟨plans, tasks, same, _⟩, _⟩
  · exact ⟨_, _, same⟩
  · exact ⟨plans, tasks, same⟩

namespace HarnessUIDataService

def generationRecordTypes : List String :=
  ["atomic_generation_progress", "action_receipt", "atomic_unit_generated",
    "atomic_generation_completed", "atomic_generation_failed"]

structure Unpublished {View : Type} (part : Store → View) : Prop where
  records : ∀ store record, record.recordType ∈ generationRecordTypes →
    part (store.createContextRecord record) = part store
  work : ∀ store plans tasks, part { store with plans, tasks } = part store

variable {View : Type} {part : Store → View}

theorem keeps_writeRecord {recordType : String}
    (unseen : ∀ store record, record.recordType = recordType →
      part (store.createContextRecord record) = part store)
    (stamps : RowStamps) (objectiveId content : String) (metadata : PyDict) :
    Keeps part (writeRecord stamps objectiveId recordType content metadata) :=
  Keeps.changes fun store => unseen store _ rfl

theorem silent_writeRecord (unseen : ∀ store record,
      part (store.createContextRecord record) = part store)
    (stamps : RowStamps) (objectiveId recordType content : String)
    (metadata : PyDict) :
    Silent part (writeRecord stamps objectiveId recordType content metadata) :=
  Silent.modifies fun store => unseen store _

namespace Generation

variable (generation : Generation) (answers : GenerationAnswers)

section

variable {View : Type} {part : Store → View}

theorem silent_recordProgress (unseen : ∀ store record,
      part (store.createContextRecord record) = part store)
    (phase content : String) :
    Silent part (generation.recordProgress answers phase content) :=
  (silent_writeRecord unseen _ _ _ _ _).bind fun _ => silent_writeRecord unseen _ _ _ _ _

theorem silent_recordUnit (unseen : ∀ store record,
      part (store.createContextRecord record) = part store)
    (index : Nat) (plan : Plan) (planSlice : PlanSlice) (task : Task) :
    Silent part (generation.recordUnit answers index plan planSlice task) :=
  (silent_writeRecord unseen _ _ _ _ _).bind fun _ => silent_writeRecord unseen _ _ _ _ _

theorem keeps_record (unseen : Unpublished part) {recordType : String}
    (listed : recordType ∈ generationRecordTypes) (content : String)
    (metadata : PyDict) :
    Keeps part (generation.record answers recordType content metadata) := by
  apply keeps_writeRecord
  intro store record typed
  apply unseen.records
  rwa [typed]

theorem keeps_receipt (unseen : Unpublished part) (status content : String) (metadata : PyDict) :
    Keeps part (generation.receipt answers status content metadata) :=
  generation.keeps_record answers unseen (by decide) _ _

theorem keeps_recordProgress (unseen : Unpublished part) (phase content : String) :
    Keeps part (generation.recordProgress answers phase content) :=
  (generation.keeps_record answers unseen (by decide) _ _).bind fun _ =>
    generation.keeps_receipt answers unseen _ _ _

theorem keeps_recordUnit (unseen : Unpublished part) (index : Nat) (plan : Plan)
    (planSlice : PlanSlice) (task : Task) :
    Keeps part (generation.recordUnit answers index plan planSlice task) :=
  (generation.keeps_record answers unseen (by decide) _ _).bind fun _ =>
    generation.keeps_receipt answers unseen _ _ _

theorem keeps_materializePlans (unseen : Unpublished part) (plansData : List (String × PyDict)) :
    Keeps part (generation.materializePlans answers plansData) := by
  apply Keeps.pairs
  intro store
  obtain ⟨plans, same⟩ := materializeFrom_frame store generation.objective.id
    "plan_draft_trio" [] answers.planTime plansData
  unfold Plans.materializePlansFromSkillOutput
  rw [same]
  exact unseen.work store plans store.tasks

theorem keeps_publishUnits (unseen : Unpublished part) (index : Nat) (plans : List Plan) :
    Keeps part (generation.publishUnits answers index plans) := by
  induction plans generalizing index with
  | nil => exact Keeps.returns _
  | cons _ plans ih =>
    refine (Keeps.value _).bind fun planSlice => ?_
    refine Keeps.bind (Keeps.computes ?_) fun task => ?_
    · intro store written task created
      obtain ⟨plans, tasks, same⟩ := createTaskWithPolicy_frame rfl created
      rw [same]
      exact unseen.work store plans tasks
    · exact (generation.keeps_recordUnit answers unseen _ _ _ _).bind fun _ => ih _

theorem keeps_publish (unseen : Unpublished part) : Keeps part (generation.publish answers) := by
  refine (generation.keeps_recordProgress answers unseen _ _).bind fun _ => ?_
  refine (Keeps.value _).bind fun plansData => ?_
  have materialized := generation.keeps_materializePlans answers unseen plansData
  refine materialized.bind fun plans => ?_
  refine (generation.keeps_recordProgress answers unseen _ _).bind fun _ => ?_
  exact (generation.keeps_publishUnits answers unseen 1 plans).bind fun _ => Keeps.returns _

end

/-! ## The publication without its records -/

variable (index : Nat) (plans : List Plan)

def createTasks : EStateM PyError Store PUnit :=
  ofPair fun store =>
    let created := createPlanTasks answers.identities generation.objective store index plans
    (created.1, created.2.map fun _ => ⟨⟩)

/-- What `publish` does besides writing records. -/
def publication : EStateM PyError Store Nat := do
  let plansData ← valueOf (plannedPlans answers)
  let plans ← generation.materializePlans answers plansData
  generation.createTasks answers 1 plans
  return plans.length

theorem createTasks_cons (plan : Plan) (plans : List Plan) :
    generation.createTasks answers index (plan :: plans) = (do
      let planSlice ← valueOf (planSliceTyped plan)
      let _ ← ofChange fun store =>
        TaskService.createTaskWithPolicy (answers.identities index) store
          (planTaskPolicy generation.objective plan planSlice)
      generation.createTasks answers (index + 1) plans) := by
  funext store
  cases typed : planSliceTyped plan with
  | error _ =>
    unfold createTasks ofPair createPlanTasks createPlanTask
    rw [typed]
    rfl
  | ok planSlice =>
    have slice : (valueOf (.ok planSlice) :
        EStateM PyError Store PlanSlice) store = .ok planSlice store := rfl
    have body : createPlanTask (answers.identities index) store generation.objective plan =
          TaskService.createTaskWithPolicy (answers.identities index) store
            (planTaskPolicy generation.objective plan planSlice) := by
      unfold createPlanTask
      rw [typed]
      rfl
    rw [bind_of_ok slice]
    cases created : TaskService.createTaskWithPolicy (answers.identities index) store
          (planTaskPolicy generation.objective plan planSlice) with
    | error error =>
      have stops : createPlanTasks answers.identities
          generation.objective store index (plan :: plans) = (store, .error error) := by
        simp only [createPlanTasks, body, created]
      rw [bind_of_error (ofChange_of_error created)]
      apply ofPair_of_error
      rw [stops]
      rfl
    | ok written =>
      have goesOn : createPlanTasks answers.identities
          generation.objective store index (plan :: plans) =
            ((createPlanTasks answers.identities generation.objective
                written.1 (index + 1) plans).1,
              (createPlanTasks answers.identities generation.objective
                written.1 (index + 1) plans).2.map fun taskIds => written.2.id :: taskIds) := by
        simp only [createPlanTasks, body, created]
      rw [bind_of_ok (ofChange_of_ok created)]
      unfold createTasks ofPair
      dsimp only
      rw [goesOn]
      cases (createPlanTasks answers.identities generation.objective
          written.1 (index + 1) plans).2 <;> rfl

theorem projects_publishUnits :
    Projects Store.work (generation.publishUnits answers index plans)
      (generation.createTasks answers index plans) := by
  induction plans generalizing index with
  | nil => exact fun _ => rfl
  | cons plan _ ih =>
    rw [createTasks_cons]
    refine (Projects.value _).bind fun planSlice => ?_
    refine Projects.bind (Projects.changes ?_) fun task => ?_
    · intro store
      exact createTaskWithPolicy_work store _ _
    · have silent := generation.silent_recordUnit answers
        Store.work_createContextRecord index plan planSlice task
      exact Projects.after_silent silent (ih _)

theorem projects_publish :
    Projects Store.work (generation.publish answers) (generation.publication answers) := by
  have progress := generation.silent_recordProgress answers Store.work_createContextRecord
  refine Projects.after_silent (progress _ _) ?_
  refine (Projects.value _).bind fun plansData => ?_
  refine Projects.bind (Projects.pairs ?_) fun plans => ?_
  · intro store
    exact materializeFrom_work store _ _ _ _ _
  · refine Projects.after_silent (progress _ _) ?_
    exact (generation.projects_publishUnits answers 1 plans).bind fun _ => Projects.returns _

end Generation

end HarnessUIDataService

end AccruviaHarness
