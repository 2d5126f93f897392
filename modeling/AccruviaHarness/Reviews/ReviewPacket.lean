import AccruviaHarness.Domain

/-!
# Review packets

The typed packet of one reviewer, with its conversions from and to the
objects that are stored and passed on.
-/

namespace AccruviaHarness

/-- `_safe_enum` of a verdict. The letters of the verdicts have no other
lower-case sources than their own capitals. -/
def parseVerdict (value : PyValue) (default : ReviewVerdict) : ReviewVerdict :=
  if value.isText "" then default
  else
    match value with
    | .none => default
    | value =>
      let text := lowerAscii (pyStrip value.toStr)
      if text = ReviewVerdict.pass.value then .pass
      else if text = ReviewVerdict.concern.value then .concern
      else if text = ReviewVerdict.remediationRequired.value then .remediationRequired
      else default

structure ReviewPacket where
  reviewer : String := ""
  dimension : String := ""
  verdict : ReviewVerdict := .concern
  progressStatus : String := ""
  severity : String := ""
  ownerScope : String := ""
  summary : String := ""
  findings : List PyValue := []
  evidence : List PyValue := []
  requiredArtifactType : String := ""
  artifactSchema : PyDict := []
  evidenceContract : PyDict := []
  closureCriteria : String := ""
  evidenceRequired : String := ""
  repeatReason : String := ""
  llmUsage : PyDict := []
  llmUsageReported : Bool := false
  llmUsageSource : String := ""
  backend : String := ""
  promptPath : String := ""
  responsePath : String := ""
  reviewTaskId : String := ""
  reviewRunId : String := ""
  packetRecordId : String := ""

namespace ReviewPacket

def fromDict (entries : PyDict) : Except PyError ReviewPacket := do
  let findings ← entries.getList "findings"
  let evidence ← entries.getList "evidence"
  let artifactSchema ← entries.getDict "artifact_schema"
  let evidenceContract ← entries.getDict "evidence_contract"
  let llmUsage ← entries.getDict "llm_usage"
  return {
    reviewer := entries.getStr "reviewer"
    dimension := entries.getStr "dimension"
    verdict := parseVerdict (entries.get "verdict") .concern
    progressStatus := entries.getStr "progress_status"
    severity := entries.getStr "severity"
    ownerScope := entries.getStr "owner_scope"
    summary := entries.getStr "summary"
    findings
    evidence
    requiredArtifactType := entries.getStr "required_artifact_type"
    artifactSchema
    evidenceContract
    closureCriteria := entries.getStr "closure_criteria"
    evidenceRequired := entries.getStr "evidence_required"
    repeatReason := entries.getStr "repeat_reason"
    llmUsage
    llmUsageReported := (entries.get "llm_usage_reported").truthy
    llmUsageSource := entries.getStr "llm_usage_source"
    backend := entries.getStr "backend"
    promptPath := entries.getStr "prompt_path"
    responsePath := entries.getStr "response_path"
    reviewTaskId := entries.getStr "review_task_id"
    reviewRunId := entries.getStr "review_run_id"
    packetRecordId := entries.getStr "packet_record_id" }

def toDict (packet : ReviewPacket) : PyDict :=
  [("reviewer", .str packet.reviewer), ("dimension", .str packet.dimension),
   ("verdict", .str packet.verdict.value),
   ("progress_status", .str packet.progressStatus),
   ("severity", .str packet.severity),
   ("owner_scope", .str packet.ownerScope),
   ("summary", .str packet.summary),
   ("findings", .list packet.findings),
   ("evidence", .list packet.evidence),
   ("required_artifact_type", .str packet.requiredArtifactType),
   ("artifact_schema", .dict packet.artifactSchema),
   ("evidence_contract", .dict packet.evidenceContract),
   ("closure_criteria", .str packet.closureCriteria),
   ("evidence_required", .str packet.evidenceRequired),
   ("repeat_reason", .str packet.repeatReason),
   ("llm_usage", .dict packet.llmUsage),
   ("llm_usage_reported", .bool packet.llmUsageReported),
   ("llm_usage_source", .str packet.llmUsageSource),
   ("backend", .str packet.backend),
   ("prompt_path", .str packet.promptPath),
   ("response_path", .str packet.responsePath),
   ("review_task_id", .str packet.reviewTaskId),
   ("review_run_id", .str packet.reviewRunId),
   ("packet_record_id", .str packet.packetRecordId)]

theorem verdict_of_fromDict {entries : PyDict} {packet : ReviewPacket}
    (parsed : fromDict entries = .ok packet) :
    packet.verdict = parseVerdict (entries.get "verdict") .concern := by
  unfold fromDict at parsed
  obtain ⟨_, _, parsed⟩ := exists_of_bind_ok parsed
  obtain ⟨_, _, parsed⟩ := exists_of_bind_ok parsed
  obtain ⟨_, _, parsed⟩ := exists_of_bind_ok parsed
  obtain ⟨_, _, parsed⟩ := exists_of_bind_ok parsed
  obtain ⟨_, _, parsed⟩ := exists_of_bind_ok parsed
  cases parsed
  rfl

theorem parseVerdict_of_pass {entries : PyDict}
    (pass : entries.getStr "verdict" = ReviewVerdict.pass.value) :
    parseVerdict (entries.get "verdict") .concern = .pass := by
  have text : (entries.get "verdict").truthy = true ∧
      (entries.get "verdict").toStr = ReviewVerdict.pass.value := by
    unfold PyDict.getStr PyValue.orEmpty at pass
    split at pass
    next truthy => exact ⟨truthy, pass⟩
    · exact absurd pass (by decide)
  have parsed : lowerAscii (pyStrip ReviewVerdict.pass.value) =
      ReviewVerdict.pass.value := by
    decide
  generalize entries.get "verdict" = value at text
  obtain ⟨truthy, reads⟩ := text
  have nonempty : ¬ value.isText "" = true := by
    intro empty
    cases value with
    | str _ =>
      simp only [PyValue.isText, beq_iff_eq] at empty
      subst empty
      cases truthy
    | none | bool | int | float | list | dict => cases empty
  unfold parseVerdict
  rw [if_neg nonempty]
  cases value with
  | none => cases truthy
  | bool | int | float | str | list | dict => simp only [reads, parsed, if_true]

end ReviewPacket

end AccruviaHarness
