import AccruviaHarness.Services.TaskService

/-!
# The tasks of the materialized plans

`sync_execute_tasks` is to create one task for each plan of an objective. It
asks the store for its plans through a method that no store has.
-/

namespace AccruviaHarness

open Library TaskService

def planTaskPolicy (objective : Objective) (plan : Plan) (planSlice : PlanSlice) : TaskPolicy where
  projectId := objective.projectId
  objectiveId := some objective.id
  title := if planSlice.label ≠ "" then planSlice.label else "Plan " ++ plan.id
  objective := planSlice.approach
  priority := objective.priority
  parentTaskId := none
  sourceRunId := none
  externalRefType := none
  externalRefId := none
  validationProfile := "generic"
  validationMode := some "lightweight_operator"
  scope := some planSlice.scope
  strategy := "trio_plan"
  maxAttempts := 3
  requiredArtifacts := ["plan", "report"]
  mermaidNodeId := plan.mermaidNodeId
  planId := some plan.id

def createPlanTask (identities : TaskIdentities) (store : Store)
    (objective : Objective) (plan : Plan) :
    Except PyError (Store × Task) := do
  let planSlice ← planSliceTyped plan
  createTaskWithPolicy identities store (planTaskPolicy objective plan planSlice)

/-- The loop of `sync_execute_tasks`. The tasks created before an exception
stay. -/
def createPlanTasks (identities : Nat → TaskIdentities) (objective : Objective) :
    Store → Nat → List Plan → Store × Except PyError (List String)
  | store, _, [] => (store, .ok [])
  | store, index, plan :: plans =>
    match createPlanTask (identities index) store objective plan with
    | .error error => (store, .error error)
    | .ok (store, task) =>
      let later := createPlanTasks identities objective store (index + 1) plans
      (later.1, later.2.map fun taskIds => task.id :: taskIds)

/-- `getattr(store, "list_plans", None)`. The query of the store is named
`list_plans_for_objective`. -/
def Store.listPlans? : Option (Store → String → List Plan) := none

def syncExecuteTasks (store : Store) (objectiveId : String)
    (_plansData : PyValue) (identities : Nat → TaskIdentities) :
    Store × Except PyError PyDict :=
  match store.getObjective objectiveId with
  | none =>
    (store, .ok [("phase", .str "executing"), ("success", .bool false),
        ("detail", .str "objective not found")])
  | some objective =>
    let plans :=
      match Store.listPlans? with
      | some listPlans => listPlans store objectiveId
      | none => []
    let created := createPlanTasks identities objective store 0 plans
    (created.1, created.2.map fun taskIds =>
      [("phase", .str "executing"), ("success", .bool true),
        ("detail", .str (toString taskIds.length ++ " tasks created")),
        ("data", .dict [("task_ids", .list (taskIds.map .str))])])

namespace Store

def HasTaskOf (store : Store) (plan : Plan) : Prop :=
  ∃ task,
    (store.tasks.rows.filter fun stored =>
        stored.planId = some plan.id) = [task] ∧
      task.mermaidNodeId = plan.mermaidNodeId ∧
        task.scope.get "files_to_touch" = .list (plan.pathParts.map .str)

def EveryPlanHasTask (store : Store) (objectiveId : String) : Prop :=
  ∀ plan ∈ store.listPlansForObjective objectiveId, store.HasTaskOf plan

end Store

theorem syncExecuteTasks_of_getObjective
    {store : Store} {objectiveId : String} {objective : Objective}
    (found : store.getObjective objectiveId = some objective)
    (plansData : PyValue) (identities : Nat → TaskIdentities) :
    syncExecuteTasks store objectiveId plansData identities = (store, .ok
        [("phase", .str "executing"), ("success", .bool true), ("detail", .str "0 tasks created"),
          ("data", .dict [("task_ids", .list [])])]) := by
  unfold syncExecuteTasks
  rw [found]
  rfl

/-- A successful call leaves every plan with its task exactly when the
objective is unknown or every plan had its task before. -/
theorem syncExecuteTasks_complete_iff (store : Store) (objectiveId : String) (plansData : PyValue)
    (identities : Nat → TaskIdentities) :
    (∀ written result,
        syncExecuteTasks store objectiveId plansData identities = (written, .ok result) →
          (result.get "success").truthy = true → written.EveryPlanHasTask objectiveId) ↔
      store.getObjective objectiveId = none ∨ store.EveryPlanHasTask objectiveId := by
  cases found : store.getObjective objectiveId with
  | none =>
    refine iff_of_true ?_ (.inl rfl)
    intro written result returned succeeded
    unfold syncExecuteTasks at returned
    rw [found] at returned
    cases returned
    cases succeeded
  | some _ =>
    rw [syncExecuteTasks_of_getObjective found]
    constructor
    · intro complete
      exact .inr (complete store _ rfl rfl)
    · rintro (missing | complete) written result returned _
      · cases missing
      · cases returned
        exact complete

section

variable {identities : TaskIdentities} {store written : Store}

theorem filesToTouch_contractScope
    {policy : TaskPolicy} {scope : PyDict} (given : policy.scope = some scope)
    (objectiveId : String) :
    ((contractScope identities policy objectiveId).getD []).get
        "files_to_touch" = scope.get "files_to_touch" := by
  unfold contractScope
  rw [given]
  dsimp only [Option.getD_some]
  split
  · rfl
  · split
    · rfl
    · rfl
    · rw [Option.getD_some, PyDict.get_set]
      simp

end

section

def plannedOutput : List (String × PyDict) :=
  [("plan_1", [("local_id", .str "p1"), ("label", .str "Add the parser"),
    ("target_impl", .str "src/parser.py::parse"),
    ("target_test", .str "tests/test_parser.py::test_parse")])]

def plannedStore : Store :=
  (Plans.materializePlansFromSkillOutput
    { objectives := .single { id := "objective", projectId := "project" } }
    "objective" plannedOutput "plan_draft_trio" 0).1

/-- The call succeeds and the plan has no task. -/
theorem planned_objective_gets_no_task :
    ∃ written result, syncExecuteTasks plannedStore "objective" .none
          (fun _ => ⟨"task_1", "plan_2", 0, fun _ => none⟩) = (written, .ok result) ∧
        (result.get "success").truthy = true ∧
          written.tasks.rows.length = 0 ∧
            (written.listPlansForObjective "objective").map Plan.pathParts =
              [["src/parser.py", "tests/test_parser.py"]] ∧
              ¬ written.EveryPlanHasTask "objective" := by
  refine ⟨plannedStore, _, rfl, rfl, rfl, by decide +kernel, ?_⟩
  intro complete
  have listed : ∃ plan, plan ∈ plannedStore.listPlansForObjective "objective" :=
    ⟨_, List.mem_of_mem_head? rfl⟩
  obtain ⟨plan, member⟩ := listed
  obtain ⟨_, only, _⟩ := complete plan member
  cases only

end

end AccruviaHarness
