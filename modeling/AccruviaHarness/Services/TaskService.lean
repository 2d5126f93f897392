import AccruviaHarness.Plans.PlanSlice

/-!
# Creating tasks

`TaskService` gives every new task of an objective its plan and its node in
the objective's diagram before the task is stored.
-/

namespace AccruviaHarness

def highRiskTaskStrategies : List String :=
  ["objective_review_remediation", "atomic_from_mermaid",
    "operator_ergonomics", "sa_structural_fix", "sa_watch_direct_repair"]

/-- The arguments of `create_task_with_policy`. -/
structure TaskPolicy where
  projectId : String
  title : String
  objective : String
  priority : Int
  parentTaskId : Option String
  sourceRunId : Option String
  externalRefType : Option String
  externalRefId : Option String
  objectiveId : Option String := none
  externalRefMetadata : PyDict := []
  validationProfile : String := "generic"
  validationMode : Option String := none
  scope : Option PyDict := none
  strategy : String := "default"
  maxAttempts : Int := 3
  maxBranches : Int := 1
  requiredArtifacts : List String := []
  mermaidNodeId : Option String := none
  planId : Option String := none

/-- What the service is given besides the store: new ids, the clock, and the
non-negotiables of the latest intent model of an objective. -/
structure TaskIdentities where
  taskId : String
  planId : String
  now : Int
  nonNegotiables : String → Option (List PyValue)

namespace TaskService

/-- `required_artifacts or ["plan", "report"]`. -/
def requiredArtifacts (policy : TaskPolicy) : List String :=
  if policy.requiredArtifacts = [] then ["plan", "report"]
  else policy.requiredArtifacts

/-- `str(validation_mode or "").strip() or "default_focused"`. -/
def validationMode (policy : TaskPolicy) : String :=
  let mode := pyStrip (policy.validationMode.getD "")
  if mode = "" then "default_focused" else mode

def orEmptyText : Option String → String
  | some text => text
  | none => ""

def amendmentLines (policy : TaskPolicy) (scope : PyDict) : List String :=
  ["- Address repository code and test changes before relying on summaries " ++ "or reports.",
    "- If no repository files change, the task is not complete.",
    "- Required artifacts for completion: " ++ ", ".intercalate (requiredArtifacts policy) ++ ".",
    "- Validation mode for this task: " ++ validationMode policy ++ "."] ++
    (if scope.isEmpty then []
      else ["- Follow the task scope strictly when deciding which files to " ++ "touch."]) ++
    (if policy.strategy = "objective_review_remediation" then
      ["- This is a promotion-review remediation task. Artifact-shaped prose " ++ "is not enough.",
        "- The final evidence artifact must be backed by real repository " ++
        "state, real tests, or other durable run artifacts."]
      else []) ++
    (if policy.strategy ∈ ["atomic_from_mermaid", "sa_structural_fix",
        "sa_watch_direct_repair", "operator_ergonomics"] then
      ["- This task is workflow-sensitive. Keep the change set narrow and " ++
        "avoid unrelated worker/control-plane modifications unless the " ++
        "objective explicitly requires them."]
      else [])

def applyTaskAmendment (policy : TaskPolicy) (scope : PyDict) : String × PyDict :=
  if policy.strategy ∉ highRiskTaskStrategies then (policy.objective, policy.externalRefMetadata)
  else
    let lines := amendmentLines policy scope
    let amendment : PyDict :=
      [("version", .int 1), ("strategy", .str policy.strategy), ("required_artifacts",
          .list ((requiredArtifacts policy).map .str)),
        ("validation_mode", .str (validationMode policy)),
        ("scope_present", .bool (!scope.isEmpty)),
        ("external_ref_type", .str (orEmptyText policy.externalRefType)),
        ("external_ref_id", .str (orEmptyText policy.externalRefId)),
        ("lines", .list (lines.map .str))]
    (pyRstrip policy.objective ++ "\n\n" ++ "\n".intercalate ("Task Amendment:" :: lines),
      policy.externalRefMetadata.set "task_amendment" (.dict amendment))

variable (identities : TaskIdentities)

def contractScope (policy : TaskPolicy) (objectiveId : String) : Option PyDict :=
  let scope := policy.scope.getD []
  if scope.any fun entry => entry.1 = "non_negotiables" then policy.scope
  else
    match identities.nonNegotiables objectiveId with
    | none | some [] => policy.scope
    | some items =>
      let texts := (items.map fun item => pyStrip item.toStr).filter fun text => text ≠ ""
      some (scope.set "non_negotiables" (.list (texts.map .str)))

def derivedPlan (task : Task) (objectiveId : String) (files : List PyValue) : Plan where
  id := identities.planId
  objectiveId
  mermaidNodeId := some (canonicalNodeId identities.planId)
  slice :=
    [("derived_from", .str "task_service.create_task"),
      ("task_id", .str task.id), ("task_title", .str task.title),
      ("label", .str task.title),
      ("files", .list files)]
  atomicityAssessment :=
    [("is_atomic", .bool true), ("violations", .list []), ("reason", .str "auto-created 1:1 plan")]
  approvalStatus := "approved"
  createdAt := identities.now

variable (store : Store) (task : Task)

def ensurePlanLinkage : Except PyError (Store × Task) :=
  match task.objective? with
  | none => .ok (store, task)
  | some objectiveId =>
    match task.planId.filter fun planId => planId ≠ "" with
    | some planId =>
      if orEmptyText task.mermaidNodeId ≠ "" then .ok (store, task)
      else
        .ok (store,
          { task with
            planId := some planId
            mermaidNodeId :=
              match store.getPlan planId with
              | some plan => plan.mermaidNodeId
              | none => task.mermaidNodeId })
    | none => do
        let files ← task.scope.getList "files_to_touch"
        let plan := derivedPlan identities task objectiveId files
        let store ← store.createPlan plan
        return (store,
          { task with
            planId := some plan.id, mermaidNodeId := plan.mermaidNodeId })

def referencedTask : Option Task :=
  let refType := orEmptyText task.externalRefType
  let refId := orEmptyText task.externalRefId
  if refType ≠ "" ∧ refId ≠ "" ∧ orEmptyText task.parentTaskId = "" ∧
      orEmptyText task.sourceRunId = "" then
    store.getTaskByExternalRef refType refId
  else none

def createTask : Except PyError (Store × Task) :=
  match referencedTask store task with
  | some existing => .ok (store, existing)
  | none =>
    match ensurePlanLinkage identities store task with
    | .error error => .error error
    | .ok (store, task) =>
      match store.tasks.insert? task with
      | some tasks => .ok ({ store with tasks }, task)
      | none => .error (.integrityError "UNIQUE constraint failed: tasks.id")

/-- The row that `create_task_with_policy` stores. -/
def policyTask (policy : TaskPolicy) (scope : Option PyDict) : Task :=
  let amended := applyTaskAmendment policy (scope.getD [])
  { id := identities.taskId, projectId := policy.projectId, objectiveId := policy.objectiveId
    planId := policy.planId, mermaidNodeId := policy.mermaidNodeId, title := policy.title
    objective := amended.1, priority := policy.priority, parentTaskId := policy.parentTaskId
    sourceRunId := policy.sourceRunId, externalRefType := policy.externalRefType
    externalRefId := policy.externalRefId, externalRefMetadata := amended.2
    validationProfile := policy.validationProfile, validationMode := validationMode policy
    scope := scope.getD [], strategy := policy.strategy, maxAttempts := policy.maxAttempts
    maxBranches := policy.maxBranches, requiredArtifacts := requiredArtifacts policy
    createdAt := identities.now }

def createTaskWithPolicy (policy : TaskPolicy) : Except PyError (Store × Task) :=
  match policy.objectiveId with
  | none => createTask identities store (policyTask identities policy policy.scope)
  | some objectiveId =>
    match store.getObjective objectiveId with
    | none => .error (.valueError ("Unknown objective: " ++ objectiveId))
    | some objective =>
      if objective.projectId ≠ policy.projectId then
        .error <| .valueError <| "Objective " ++ objectiveId ++
            " does not belong to project " ++ policy.projectId
      else
        createTask identities store (policyTask identities policy
            (contractScope identities policy objectiveId))

variable {identities : TaskIdentities} {store written : Store} {task : Task}

theorem ensurePlanLinkage_spec {linked : Task}
    (returned : ensurePlanLinkage identities store task = .ok (written, linked)) :
    (∃ plans, written = { store with plans }) ∧
      ∃ planId mermaidNodeId,
        linked = { task with planId, mermaidNodeId } := by
  unfold ensurePlanLinkage at returned
  split at returned
  · cases returned
    exact ⟨⟨_, rfl⟩, _, _, rfl⟩
  · split at returned
    · split at returned
      · cases returned
        exact ⟨⟨_, rfl⟩, _, _, rfl⟩
      · cases returned
        exact ⟨⟨_, rfl⟩, _, _, rfl⟩
    · obtain ⟨_, _, returned⟩ := exists_of_bind_ok returned
      obtain ⟨_, created, returned⟩ := exists_of_bind_ok returned
      cases returned
      unfold Store.createPlan at created
      split at created
      · cases created
        exact ⟨⟨_, rfl⟩, _, _, rfl⟩
      · cases created

theorem createTask_spec {stored : Task}
    (returned : createTask identities store task = .ok (written, stored)) :
    (referencedTask store task = some stored ∧ written = store) ∨
      referencedTask store task = none ∧ (∃ plans tasks, written = { store with plans, tasks } ∧
          store.tasks.insert? stored = some tasks) ∧
          ∃ planId mermaidNodeId,
            stored = { task with planId, mermaidNodeId } := by
  unfold createTask at returned
  split at returned
  next existing referenced =>
    cases returned
    exact .inl ⟨referenced, rfl⟩
  next unreferenced =>
    split at returned
    · cases returned
    next middle linked ensured =>
      obtain ⟨⟨plans, rfl⟩, row⟩ := ensurePlanLinkage_spec ensured
      split at returned
      next tasks inserted =>
        cases returned
        exact .inr ⟨unreferenced, ⟨plans, tasks, rfl, inserted⟩, row⟩
      · cases returned

theorem createTask_of_createTaskWithPolicy {policy : TaskPolicy} {objectiveId : String}
    (owned : policy.objectiveId = some objectiveId)
    (returned : createTaskWithPolicy identities store policy = .ok (written, task)) :
    createTask identities store (policyTask identities policy
          (contractScope identities policy objectiveId)) =
      .ok (written, task) := by
  unfold createTaskWithPolicy at returned
  rw [owned] at returned
  dsimp only at returned
  cases found : store.getObjective objectiveId with
  | none =>
    rw [found] at returned
    cases returned
  | some objective =>
    rw [found] at returned
    dsimp only at returned
    by_cases foreign : objective.projectId ≠ policy.projectId
    · rw [if_pos foreign] at returned
      cases returned
    · rw [if_neg foreign] at returned
      exact returned

end TaskService

end AccruviaHarness
