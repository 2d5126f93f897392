import AccruviaHarness.Library.Frames
import AccruviaHarness.Reviews.ReviewOrchestrator
import AccruviaHarness.Services.ObjectiveConsistency
import Mathlib.Data.List.Infix

/-!
# Remediation tasks of an objective review

`create_remediation_tasks` creates a task for every dimension in which a
reviewer of the round has found something, unless the round has one already.
-/

namespace AccruviaHarness

open Library

structure EvidenceContract where
  requiredArtifactType : String
  artifactSchema : PyDict
  closureCriteria : String
  evidenceRequired : String

open ObjectiveReviewOrchestrator (schemaOf contractOf)

def EvidenceContract.toDict (contract : EvidenceContract) : PyDict :=
  contractOf contract.requiredArtifactType contract.artifactSchema
    contract.closureCriteria contract.evidenceRequired

namespace RemediationService

/-- `part in text`. -/
def textIn (part text : String) : Bool := decide (part.toList <:+: text.toList)

/-- `text.replace('_', ' ')`. -/
def spaced (text : String) : String :=
  String.ofList <| text.toList.map fun character => if character = '_' then ' ' else character

def defaultRequiredFields (artifactType : String) : List String :=
  let lowered := lowerAscii artifactType
  if textIn "review_cycle" lowered ∨ textIn "telemetry" lowered then
    ["review_id", "start_event", "packet_persistence_events", "terminal_event", "linked_outcome"]
  else if textIn "review_packet" lowered then
    ["review_id", "reviewer", "dimension", "verdict", "artifacts"]
  else if textIn "test" lowered then ["artifact_path", "test_targets", "result"]
  else if lowered = "failed_task_disposition_record" then ["task_id", "disposition", "rationale"]
  else ["artifact_path", "summary"]

def strippedTexts (entries : PyDict) (key : String) :
    Except PyError (List String) := do
  let items ← entries.getList key
  return (items.map fun item => pyStrip item.toStr).filter fun text => text ≠ ""

def firstText (first second : String) : String := if first = "" then second else first

/-- `normalize_artifact_schema`; what is no object is normalized to none. -/
def normalizeArtifactSchema (raw : PyValue)
    (requiredArtifactType dimension : String) : Except PyError PyDict :=
  match raw.asDict with
  | none => .ok []
  | some schema => do
      let schemaType := firstText (pyStrip (schema.getStr "type")) <|
        firstText requiredArtifactType "review_artifact"
      let description := pyStrip (schema.getStr "description")
      let fields ← strippedTexts schema "required_fields"
      return schemaOf schemaType (firstText description
          ("Artifact for " ++ firstText dimension "review"))
        (if fields = [] then defaultRequiredFields schemaType else fields)

/-- `str(contract.get(key) or packet.get(key) or "").strip()`. -/
def contractText (contract packet : PyDict) (key : String) : String :=
  pyStrip ((contract.get key).orValue (packet.get key)).orEmpty

def extractEvidenceContract (packet : PyDict) :
    Except PyError EvidenceContract := do
  let contract := (packet.get "evidence_contract").asDict.getD []
  let requiredArtifactType := contractText contract packet "required_artifact_type"
  let artifactSchema ← normalizeArtifactSchema
    (if contract.isEmpty then packet.get "artifact_schema"
      else contract.get "artifact_schema")
    requiredArtifactType (packet.getStr "dimension")
  return {
    requiredArtifactType
    artifactSchema
    closureCriteria := contractText contract packet "closure_criteria"
    evidenceRequired := contractText contract packet "evidence_required" }

def labelled (label text : String) : List String := if text = "" then [] else [label ++ text]

def buildRemediationObjective (summary : String) (findings : List String)
    (contract : EvidenceContract) : Except PyError String := do
  let artifactType := firstText contract.requiredArtifactType "review_artifact"
  let fields ← strippedTexts contract.artifactSchema "required_fields"
  return "\n".intercalate <|
    ["A promotion reviewer raised findings that must be addressed before " ++
        "this objective can be promoted.",
      "Read the findings below carefully. They describe concrete problems " ++
        "the reviewer found in the actual codebase.",
      "Your job is to FIX the problems described in the findings — write " ++
        "code, refactor, add tests — whatever the findings require.",
      "After making the fixes, produce a `" ++ artifactType ++
        "` artifact documenting what you changed and proving the closure " ++
        "criteria are met.",
      "Do NOT fabricate evidence. If the reviewer says a function doesn't " ++
        "exist, you must CREATE it, not write a report claiming it exists."] ++
      labelled "Reviewer summary: " summary ++
      (if findings = [] then []
        else "Findings:" :: findings.map fun item => "- " ++ item) ++
      labelled "Closure criteria: " contract.closureCriteria ++
      labelled "Evidence required: " contract.evidenceRequired ++
      (if fields = [] then []
        else ["Artifact schema fields: " ++ ", ".intercalate fields]) ++
      ["Address the findings FIRST by making real code changes, THEN produce " ++
        "the evidence artifact showing what you did."]

variable (reviewId : String)

def remediationOf (task : Task) : Option PyDict :=
  (task.metadataObject "objective_review_remediation").filter
    fun remediation => remediation.getStr "review_id" = reviewId

def existingDimensions (store : Store) (objective : Objective) (reviewId : String) : List String :=
  ((store.listTasks objective.projectId).filter fun task =>
      task.objectiveId = some objective.id).filterMap fun task =>
    (remediationOf reviewId task).map fun remediation => remediation.getStr "dimension"

variable (packet : PyDict)

def asksForTask (dimensions : List String) : Bool :=
  let verdict := pyStrip (packet.getStr "verdict")
  let dimension := pyStrip (packet.getStr "dimension")
  (verdict = "concern" || verdict = "remediation_required") &&
    dimension ≠ "" && !dimensions.contains dimension

def remediationMetadata (contract : EvidenceContract) : PyDict :=
  [("objective_review_remediation", .dict [("review_id", .str reviewId),
        ("dimension", .str (pyStrip (packet.getStr "dimension"))),
        ("reviewer", .str (packet.getStr "reviewer")),
        ("verdict", .str (pyStrip (packet.getStr "verdict"))),
        ("finding_record_id", .str (packet.getStr "packet_record_id")),
        ("evidence_contract", .dict contract.toDict)])]

/-- The arguments of `create_task_with_policy` for a packet. -/
def remediationPolicy (objective : Objective) (reviewId : String)
    (packet : PyDict) : Except PyError TaskPolicy := do
  let findings ← strippedTexts packet "findings"
  let contract ← extractEvidenceContract packet
  let dimension := pyStrip (packet.getStr "dimension")
  let artifactType := firstText contract.requiredArtifactType "review_artifact"
  let text ← buildRemediationObjective (pyStrip (packet.getStr "summary")) findings contract
  return {
    projectId := objective.projectId
    objectiveId := some objective.id
    title := "Produce " ++ spaced artifactType ++ " for " ++ spaced dimension ++ " review finding"
    objective := text
    priority := objective.priority
    parentTaskId := none
    sourceRunId := none
    externalRefType := some "objective_review"
    externalRefId := some (objective.id ++ ":" ++ reviewId ++ ":" ++ dimension)
    externalRefMetadata := remediationMetadata reviewId packet contract
    validationProfile := "generic"
    validationMode := some "default_focused"
    scope := some []
    strategy := "objective_review_remediation"
    maxAttempts := 3
    requiredArtifacts :=
      if artifactType = "plan" ∨ artifactType = "report" then ["plan", "report"]
      else ["plan", "report", artifactType] }

theorem contextRecords_createTaskWithPolicy
    {identities : TaskIdentities} {store after : Store} {policy : TaskPolicy}
    {task : Task}
    (returned : TaskService.createTaskWithPolicy identities store policy =
      .ok (after, task)) : after.contextRecords = store.contextRecords := by
  obtain ⟨_, _, created⟩ := createTask_of_policy returned
  rcases TaskService.createTask_spec created with
    ⟨_, rfl⟩ | ⟨_, ⟨_, _, rfl, _⟩, _⟩
  · rfl
  · rfl

theorem contextRecords_updateObjectivePhase (store : Store) (objectiveId : String) :
    (store.updateObjectivePhase objectiveId).1.contextRecords =
      store.contextRecords := by
  unfold Store.updateObjectivePhase
  split <;> rfl

def createForPackets (identities : Nat → TaskIdentities)
    (objective : Objective) (reviewId : String) :
    Nat → List String → List PyDict → EStateM PyError Store (List String)
  | _, _, [] => return []
  | index, dimensions, packet :: packets =>
    if asksForTask packet dimensions then do
      let policy ← valueOf (remediationPolicy objective reviewId packet)
      let before ← get
      let created ← valueOf (TaskService.createTaskWithPolicy (identities index) before policy)
      set created.1
      let others ← createForPackets identities objective reviewId (index + 1)
        (pyStrip (packet.getStr "dimension") :: dimensions) packets
      return created.2.id :: others
    else createForPackets identities objective reviewId (index + 1) dimensions packets

variable (identities : Nat → TaskIdentities)

def createRemediationTasks (objective : Objective) (reviewId : String) (packets : List PyDict) :
    EStateM PyError Store (List String) := do
  let before ← get
  let created ← createForPackets identities objective reviewId 0
    (existingDimensions before objective reviewId) packets
  modify fun store =>
    if created = [] then store
    else (store.updateObjectivePhase objective.id).1
  return created

theorem createForPackets_keeps_contextRecords (objective : Objective)
    (reviewId : String) (index : Nat) (dimensions : List String)
    (packets : List PyDict) :
    Keeps Store.contextRecords (createForPackets identities objective reviewId index dimensions
        packets) := by
  induction packets generalizing index dimensions with
  | nil => exact .returns []
  | cons _ _ ih =>
    unfold createForPackets
    refine .choice ?_ (ih _ _)
    refine .bind (.value _) fun policy => ?_
    intro before
    show Store.contextRecords (stateOf (EStateM.bind (valueOf
      (TaskService.createTaskWithPolicy (identities index) before policy)) _ before)) = _
    cases created : TaskService.createTaskWithPolicy (identities index) before policy with
    | error _ => rfl
    | ok written =>
      have kept : written.1.contextRecords = before.contextRecords :=
        contextRecords_createTaskWithPolicy created
      exact (Keeps.bind (ih _ _) (fun others => .returns (written.2.id :: others))
          written.1).trans kept

theorem createRemediationTasks_keeps_contextRecords (objective : Objective)
    (reviewId : String) (packets : List PyDict) :
    Keeps Store.contextRecords (createRemediationTasks identities objective reviewId packets) := by
  unfold createRemediationTasks
  refine .bind .reads fun before => ?_
  refine .bind (createForPackets_keeps_contextRecords _ _ _ _ _ _) fun created => ?_
  refine .bind (.changes fun store => ?_) fun _ => .returns created
  split
  · rfl
  · exact contextRecords_updateObjectivePhase store objective.id

end RemediationService

end AccruviaHarness
