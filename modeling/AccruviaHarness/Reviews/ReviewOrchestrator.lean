import AccruviaHarness.Reviews.ReviewPacket
import AccruviaHarness.Store.Schema

/-!
# The objective review orchestrator

One reviewer skill is asked for each of the seven dimensions. A reviewer that
fails gets a stub packet, so that every dimension has a packet.
-/

namespace AccruviaHarness

open Library

structure ReviewerSkill where
  name : String
  dimension : String
  reviewerLabel : String
  deriving DecidableEq, Repr

structure SkillResult where
  success : Bool
  output : PyDict
  errors : List String
  llmBackend : Option String := none
  promptPath : Option String := none
  responsePath : Option String := none

structure Reviewers where
  registry : List ReviewerSkill
  invokeSkill : ReviewerSkill → Except PyError SkillResult

/-- What `execute` returns. -/
structure ReviewOutcome where
  packets : List PyDict
  reviewClear : Bool
  failedCount : Nat

def PacketPasses (packet : PyDict) : Prop := packet.getStr "verdict" = ReviewVerdict.pass.value

instance (packet : PyDict) : Decidable (PacketPasses packet) := inferInstanceAs (Decidable (_ = _))

namespace ObjectiveReviewOrchestrator

def dimensions : List String :=
  ["intent_fidelity", "unit_test_coverage", "integration_e2e_coverage",
    "security", "devops", "atomic_fidelity", "code_structure"]

/-- `first or second` of texts. -/
def orText (first second : String) : String := if first = "" then second else first

/-- `artifact_schema` in the form that the harness writes it. -/
def schemaOf (kind description : String) (fields : List String) : PyDict :=
  [("type", .str kind), ("description", .str description),
   ("required_fields", .list (fields.map .str))]

/-- `evidence_contract`. -/
def contractOf (kind : String) (schema : PyDict)
    (closureCriteria evidenceRequired : String) : PyDict :=
  [("required_artifact_type", .str kind), ("artifact_schema", .dict schema),
   ("closure_criteria", .str closureCriteria),
   ("evidence_required", .str evidenceRequired)]

def stubPacket (dimension errorMessage reviewer : String) : ReviewPacket :=
  let closure := "Reviewer skill '" ++ reviewer ++ "' must produce a valid " ++ dimension ++
      " packet for the objective. Current failure: " ++ errorMessage
  let artifactSchema := schemaOf "report" ("Diagnostic report explaining the " ++ dimension ++
      " reviewer failure and a re-review.")
    ["artifact_path", "summary"]
  let evidenceRequired := "report artifact summarising the reviewer failure and re-review outcome"
  { reviewer, dimension
    verdict := .remediationRequired, progressStatus := "new_concern", severity := "medium"
    ownerScope := "objective review orchestration"
    summary := "Reviewer skill failed for dimension " ++ dimension ++ ": " ++
      errorMessage
    findings := [.str ("Reviewer skill failure: " ++ errorMessage)]
    requiredArtifactType := "report", artifactSchema
    evidenceContract := contractOf "report" artifactSchema closure evidenceRequired
    closureCriteria := closure, evidenceRequired }

def strippedTexts (items : List PyValue) : List String :=
  (items.map fun item => pyStrip item.toStr).filter fun text => text ≠ ""

def packetFromSkillOutput (skill : ReviewerSkill) (output : PyDict) :
    Except PyError ReviewPacket := do
  let verdict := lowerAscii <| pyStrip ((output.get "verdict").orValue (.str "concern")).toStr
  let summary := pyStrip (output.getStr "summary")
  let findings ← output.getList "findings"
  let evidence ← output.getList "evidence"
  let findings := strippedTexts findings
  let evidence := (strippedTexts evidence).map PyValue.str
  let severity := lowerAscii (pyStrip (output.getStr "severity"))
  let ownerScope := pyStrip (output.getStr "owner_scope")
  let requiredArtifactType := orText (pyStrip
    ((output.get "required_artifact_type").orValue (.str "report")).toStr)
    "report"
  let closureCriteria := pyStrip (output.getStr "closure_criteria")
  let evidenceRequired := pyStrip (output.getStr "evidence_required")
  let artifactSchema := (output.get "artifact_schema").asDict.getD <|
    schemaOf requiredArtifactType ("Artifact for " ++ skill.dimension) ["artifact_path", "summary"]
  if verdict = ReviewVerdict.pass.value then
    return {
      reviewer := skill.reviewerLabel
      dimension := skill.dimension
      verdict := .pass
      progressStatus := "not_applicable"
      summary := orText summary (skill.dimension ++ " review passed.")
      findings := findings.map .str
      evidence }
  let closureCriteria := orText closureCriteria <| "All findings for the " ++ skill.dimension ++
      " dimension must be resolved with concrete evidence."
  let evidenceRequired := orText evidenceRequired
    "report artifact recording the resolution of the listed findings"
  let findings :=
    if findings = [] then
      [skill.dimension ++ " reviewer flagged a " ++ verdict ++
        " verdict without explicit findings."]
    else findings
  return {
    reviewer := skill.reviewerLabel
    dimension := skill.dimension
    verdict :=
      if verdict = ReviewVerdict.remediationRequired.value then .remediationRequired
      else .concern
    progressStatus := "new_concern"
    severity := if severity ∈ ["low", "medium", "high"] then severity
      else "medium"
    ownerScope := orText ownerScope "objective review orchestration"
    summary := orText summary (skill.dimension ++ " reviewer raised a finding.")
    findings := findings.map .str
    evidence
    requiredArtifactType
    artifactSchema
    evidenceContract := contractOf requiredArtifactType artifactSchema
      closureCriteria evidenceRequired
    closureCriteria
    evidenceRequired }

variable (reviewers : Reviewers)

/-- The text of the `KeyError` of `SkillRegistry.get`. -/
def unknownSkill (skillName : String) : String :=
  let available := orderBy (fun first second : String => first ≤ second)
    (reviewers.registry.map ReviewerSkill.name)
  PyValue.reprText ("Unknown skill: " ++ skillName ++ ". Available: " ++ ", ".intercalate available)

def reviewDimension (dimension : String) : Except PyError (ReviewPacket × Bool) :=
  let skillName := "review_" ++ dimension
  match reviewers.registry.find? fun skill => skill.name = skillName with
  | none =>
    .ok (stubPacket dimension ("skill_not_registered: " ++ unknownSkill reviewers skillName)
      skillName, true)
  | some skill => do
      let result ← reviewers.invokeSkill skill
      if result.success then
        let packet ← packetFromSkillOutput skill result.output
        return (packet, false)
      else
        return (stubPacket dimension (orText ("; ".intercalate result.errors) "unknown error")
          skill.reviewerLabel, true)

def execute (store : Store) (reviewers : Reviewers) (objectiveId : String) :
    Except PyError ReviewOutcome :=
  match store.getObjective objectiveId with
  | none => .ok { packets := [], reviewClear := false, failedCount := 0 }
  | some _ => do
      let rows ← dimensions.mapM (reviewDimension reviewers)
      let packets := rows.map fun row => row.1.toDict
      let failedCount := rows.countP Prod.snd
      return {
        packets
        reviewClear := failedCount = 0 && packets.all fun packet => PacketPasses packet
        failedCount }

end ObjectiveReviewOrchestrator

end AccruviaHarness
