import AccruviaHarness.Reviews.PromotionReview
import AccruviaHarness.Reviews.ReviewOrchestrator

/-!
# The review activity of the objective lifecycle

`sync_objective_review` makes a service of its own, lets it generate the
review packets and unpacks what it gets into three parts.
-/

namespace AccruviaHarness

/-- What `_objective_review_usage_details` finds in the telemetry. -/
structure UsageDetails where
  usage : PyDict
  reported : Bool
  source : String

structure ServiceContext where
  attributes : List String
  /-- The reviewers behind `interrogation_service.llm_router`, when the
  router has executors. -/
  reviewers : Option Reviewers
  usageDetails : UsageDetails

namespace ServiceContext

variable (context : ServiceContext)

/-- Reading an attribute of a `SimpleNamespace`. -/
def requireAttribute (name : String) : Except PyError Unit :=
  if name ∈ context.attributes then .ok ()
  else
    .error <| .attributeError <| "'types.SimpleNamespace' object has no attribute '" ++ name ++ "'"

/-- `getattr(ctx, "interrogation_service", None)`, down to the reviewers. -/
def llmReviewers : Option Reviewers :=
  if "interrogation_service" ∈ context.attributes then context.reviewers
  else none

end ServiceContext

structure HarnessUIDataService where
  context : ServiceContext
  store : Store

namespace HarnessUIDataService

open ObjectiveReviewOrchestrator

def init (context : ServiceContext) (store : Store) :
    Except PyError HarnessUIDataService := do
  context.requireAttribute "store"
  context.requireAttribute "query_service"
  context.requireAttribute "config"
  return { context, store }

/-- `llm_usage` of the packets that no reviewer wrote. -/
def deterministicUsage : PyDict :=
  [("shared_invocation", .bool true), ("reported", .bool false),
   ("missing_reason", .str "deterministic_review_packet")]

variable (review : PromotionReview)

def intentPacket : ReviewPacket :=
  let unresolved := review.unresolvedFailedCount
  let schema := schemaOf "failed_task_disposition_record"
    "Each unresolved failed task must carry an explicit persisted disposition before promotion."
    ["task_id", "disposition", "rationale"]
  let closure :=
    "All failed tasks for the objective must be explicitly waived, superseded, or resolved so unresolved failed task count is zero."
  let required :=
    "Objective summary shows zero unresolved failed tasks and records explicit failed-task dispositions."
  let packet : ReviewPacket :=
    { reviewer := "Intent agent", dimension := "intent_fidelity"
      progressStatus := "not_applicable"
      summary :=
        "Execution completed and the objective reached a resolved state. Review the linked task outcomes against the original intent before promotion."
      evidence :=
        [.str ("Completed tasks: " ++ toString review.taskCounts.completed),
         .str ("Unresolved failed tasks: " ++ toString unresolved)]
      llmUsage := deterministicUsage, llmUsageSource := "deterministic" }
  if unresolved = 0 then { packet with verdict := .pass }
  else
    { packet with
      verdict := .concern, severity := "medium", ownerScope := "failed task governance"
      findings := [.str "There are unresolved failed tasks that still need explicit disposition."]
      requiredArtifactType := "failed_task_disposition_record", artifactSchema := schema
      evidenceContract := contractOf "failed_task_disposition_record" schema closure required
      closureCriteria := closure, evidenceRequired := required }

def qaPacket : ReviewPacket :=
  let schema := schemaOf "objective_review_packet"
    "QA closure requires a persisted review packet that cites the exact completed-task test artifacts."
    ["review_id", "reviewer", "dimension", "verdict", "artifacts"]
  let closure :=
    "Objective review packets must cite concrete unit-test or integration-test evidence from completed task artifacts for the QA dimensions."
  let required :=
    "A recorded review packet that references completed-task test artifacts and concludes QA pass or resolved concern status."
  { reviewer := "QA agent", dimension := "unit_test_coverage", verdict := .concern
    progressStatus := "new_concern", severity := "medium"
    ownerScope := "objective review evidence"
    summary :=
      "Unit and integration evidence should be reviewed from the completed task reports before promotion."
    findings := [.str "Objective-level QA packets are not yet derived from report artifacts."]
    evidence :=
      [.str ("Historical failed tasks: " ++ toString review.taskCounts.failed),
       .str ("Waived failed tasks: " ++ toString review.waivedFailedCount)]
    requiredArtifactType := "objective_review_packet", artifactSchema := schema
    evidenceContract := contractOf "objective_review_packet" schema closure required
    closureCriteria := closure, evidenceRequired := required, llmUsage := deterministicUsage
    llmUsageSource := "deterministic" }

def structurePacket : ReviewPacket :=
  let waived := review.waivedFailedCount
  let schema := schemaOf "failed_task_disposition_record"
    "Waived failed tasks must retain persisted superseding or waiver rationale."
    ["task_id", "disposition", "rationale"]
  let closure :=
    "Historical failed tasks must be superseded or waived with rationale so fragmented partial work is not left unresolved."
  let required :=
    "Failed-task records show explicit superseding or waiver rationale for every historical failure."
  let packet : ReviewPacket :=
    { reviewer := "Structure agent", dimension := "code_structure"
      summary :=
        "Historical control-plane failures were waived, so code structure should be reviewed carefully before promotion."
      evidence := [.str ("Waived failed tasks: " ++ toString waived)]
      llmUsage := deterministicUsage, llmUsageSource := "deterministic" }
  if waived = 0 then { packet with verdict := .pass, progressStatus := "not_applicable" }
  else
    { packet with
      verdict := .concern, progressStatus := "new_concern", severity := "medium"
      ownerScope := "code structure"
      findings := [.str "Waived control-plane failures deserve a human review pass."]
      requiredArtifactType := "failed_task_disposition_record", artifactSchema := schema
      evidenceContract := contractOf "failed_task_disposition_record" schema closure required
      closureCriteria := closure, evidenceRequired := required }

def deterministicObjectiveReviewPackets : List PyDict :=
  [(intentPacket review).toDict, (qaPacket review).toDict, (structurePacket review).toDict]

/-- `packet[key] = value` where the packet has no such value. -/
def setMissing (packet : PyDict) (key : String) (value : PyValue) : PyDict :=
  if (packet.get key).truthy then packet else packet.set key value

def completePacket (details : UsageDetails) (packet : PyDict) : PyDict :=
  let packet := packet.setDefault "backend" (.str "skills_orchestrator")
  let packet := packet.setDefault "prompt_path" (.str "")
  let packet := packet.setDefault "response_path" (.str "")
  let packet := setMissing packet "llm_usage" (.dict details.usage)
  let packet := setMissing packet "llm_usage_reported" (.bool details.reported)
  let packet := setMissing packet "llm_usage_source" (.str details.source)
  let packet := packet.setDefault "review_task_id" (.str "")
  packet.setDefault "review_run_id" (.str "")

def linkedTasks (store : Store) (objective : Objective) : List Task :=
  (store.listTasks objective.projectId).filter fun task => task.objectiveId = some objective.id

def generateObjectiveReviewPackets (service : HarnessUIDataService)
    (objectiveId : String) : Except PyError (List PyDict) :=
  match service.store.getObjective objectiveId with
  | none => .ok []
  | some objective => do
      let review ← PromotionReviewBuilder.build service.store objectiveId
        (linkedTasks service.store objective)
      match service.context.llmReviewers with
      | none => return deterministicObjectiveReviewPackets review
      | some reviewers =>
        let outcome ← execute service.store reviewers objectiveId
        if outcome.packets.isEmpty then return deterministicObjectiveReviewPackets review
        return outcome.packets.map (completePacket service.context.usageDetails)

end HarnessUIDataService

namespace ObjectiveLifecycle

open HarnessUIDataService

/-- `first, second, third = items`. -/
def unpackThree (items : List PyDict) : Except PyError (PyDict × PyDict × PyDict) :=
  match items with
  | [first, second, third] => .ok (first, second, third)
  | items =>
    if items.length < 3 then
      .error <| .valueError <| "not enough values to unpack (expected 3, got " ++
          toString items.length ++ ")"
    else .error (.valueError "too many values to unpack (expected 3)")

/-- `sync_objective_review` with the given namespace. -/
def syncObjectiveReviewIn (context : ServiceContext) (store : Store)
    (objectiveId reviewId : String) : Except PyError PyDict :=
  match store.getObjective objectiveId with
  | none =>
    .ok [("phase", .str "reviewing"), ("success", .bool false),
       ("detail", .str "objective not found")]
  | some _ => do
      let service ← HarnessUIDataService.init context store
      let generated ← service.generateObjectiveReviewPackets objectiveId
      let (packets, reviewClear, failedCount) ← unpackThree generated
      .ok [("phase", .str "reviewing"), ("success", .dict reviewClear), ("detail", .str <|
            "review_clear=" ++ (PyValue.dict reviewClear).toStr ++ ", " ++
              (PyValue.dict failedCount).toStr ++ " failed reviewers"),
         ("data", .dict [("review_id", .str reviewId), ("review_clear", .dict reviewClear),
             ("packet_count", .int packets.length),
             ("failed_count", .dict failedCount)])]

def activityContext : ServiceContext where
  attributes := ["store", "engine", "config"]
  reviewers := none
  usageDetails :=
    { usage :=
        [("shared_invocation", .bool true), ("reported", .bool false), ("missing_reason",
            .str "backend_did_not_report_token_usage")]
      reported := false, source := "unreported" }

def syncObjectiveReview (store : Store) (objectiveId reviewId : String) : Except PyError PyDict :=
  syncObjectiveReviewIn activityContext store objectiveId reviewId

/-- The activity returns, and what it returns is a success exactly when there
are packets and all of them pass. -/
def ReportsReview (answer : Except PyError PyDict) (packets : List PyDict) :
    Prop :=
  ∃ result, answer = .ok result ∧ ((result.get "success").truthy = true ↔
      packets ≠ [] ∧ ∀ packet ∈ packets, PacketPasses packet)

theorem syncObjectiveReview_of_objective
    {store : Store} {objectiveId reviewId : String} {objective : Objective}
    (found : store.getObjective objectiveId = some objective) :
    syncObjectiveReview store objectiveId reviewId = .error (.attributeError
        "'types.SimpleNamespace' object has no attribute 'query_service'") := by
  unfold syncObjectiveReview syncObjectiveReviewIn
  rw [found]
  rfl

/-- For the packets that any service generates, the activity reports the
review exactly when there is no objective to review. -/
theorem reportsReview_iff_no_objective
    (service : HarnessUIDataService) (objectiveId reviewId : String)
    (packets : List PyDict)
    (generated :
      service.generateObjectiveReviewPackets objectiveId = .ok packets) :
    ReportsReview (syncObjectiveReview service.store objectiveId reviewId) packets ↔
      service.store.getObjective objectiveId = none := by
  cases found : service.store.getObjective objectiveId with
  | none =>
    refine iff_of_true ?_ rfl
    unfold generateObjectiveReviewPackets at generated
    rw [found] at generated
    cases generated
    unfold syncObjectiveReview syncObjectiveReviewIn
    rw [found]
    exact ⟨_, rfl, iff_of_false nofun fun passes => passes.1 rfl⟩
  | some _ =>
    refine iff_of_false ?_ nofun
    rintro ⟨_, answered, _⟩
    rw [syncObjectiveReview_of_objective found] at answered
    cases answered

section

def reviewerSkills : List ReviewerSkill :=
  ObjectiveReviewOrchestrator.dimensions.map fun dimension =>
    { name := "review_" ++ dimension, dimension, reviewerLabel := dimension ++ "_reviewer" }

def passingService : HarnessUIDataService where
  context :=
    { attributes :=
        ["store", "query_service", "config", "interrogation_service"]
      reviewers := some
        { registry := reviewerSkills
          invokeSkill := fun skill => .ok
            { success := true
              output :=
                [("dimension", .str skill.dimension), ("verdict", .str "pass"),
                 ("summary", .str "Reviewed."), ("findings", .list [])]
              errors := [] } }
      usageDetails := activityContext.usageDetails }
  store := { objectives := .single { id := "objective", projectId := "project" } }

theorem reportsReview_iff_no_objective_when_all_pass :
    ∃ packets, passingService.generateObjectiveReviewPackets "objective" = .ok packets ∧
        (ReportsReview (syncObjectiveReview passingService.store "objective" "review") packets ↔
          passingService.store.getObjective "objective" = none) :=
  ⟨_, rfl, reportsReview_iff_no_objective passingService "objective" "review" _ rfl⟩

/-- All seven reviewers pass the objective, and the activity raises. -/
theorem passing_review_not_reported :
    ∃ packets, passingService.generateObjectiveReviewPackets "objective" = .ok packets ∧
        packets ≠ [] ∧ (∀ packet ∈ packets, PacketPasses packet) ∧
          ¬ ReportsReview (syncObjectiveReview passingService.store
            "objective" "review") packets := by
  refine ⟨_, rfl, nofun, by decide, ?_⟩
  rintro ⟨_, answered, _⟩
  cases answered

end

end ObjectiveLifecycle

end AccruviaHarness
