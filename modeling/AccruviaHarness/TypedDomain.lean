import AccruviaHarness.Plans.PlanSlice
import AccruviaHarness.Python.JsonOrder
import AccruviaHarness.Reviews.ReviewPacket

/-!
# Typed records

The typed views of the objects that plans, reviews and interrogations are
stored as. `from_dict` fills in defaults, `to_dict` leaves some of them out.
-/

namespace AccruviaHarness

/-! ## Objects with fields that may be left out -/

namespace PyDict

def present (fields : List (String × Option PyValue)) : PyDict :=
  fields.filterMap fun field => field.2.map fun value => (field.1, value)

def given (condition : Bool) (value : PyValue) : Option PyValue :=
  if condition then some value else none

@[simp]
theorem get_cons (name key : String) (value : PyValue) (rest : PyDict) :
    PyDict.get ((name, value) :: rest) key =
      if name = key then value else PyDict.get rest key := by
  unfold PyDict.get
  by_cases same : name = key
  · simp [same]
  · simp [same]

@[simp]
theorem get_present_cons (name key : String) (value : Option PyValue)
    (rest : List (String × Option PyValue)) :
    (present ((name, value) :: rest)).get key =
      if name = key then value.getD ((present rest).get key)
      else (present rest).get key := by
  cases value with
  | none => simp [present]
  | some value =>
    show PyDict.get ((name, value) :: present rest) key = _
    exact get_cons name key value (present rest)

@[simp]
theorem get_present_nil (key : String) : (present []).get key = .none := rfl

end PyDict

namespace PyValue

@[simp]
theorem orEmpty_str (text : String) : (PyValue.str text).orEmpty = text := by
  by_cases empty : text = ""
  · simp [orEmpty, truthy, empty]
  · simp [orEmpty, truthy, empty]

@[simp]
theorem orEmpty_given (text : String) :
    ((PyDict.given (text != "") (.str text)).getD .none).orEmpty = text := by
  by_cases empty : text = ""
  · simp [PyDict.given, orEmpty, truthy, empty]
  · simp [PyDict.given, orEmpty, truthy, empty]

end PyValue

namespace TypedDomain

structure ArtifactSchema where
  type : String := ""
  description : String := ""
  requiredFields : List PyValue := []

namespace ArtifactSchema

def fromDict (entries : PyDict) : Except PyError ArtifactSchema := do
  let requiredFields ← entries.getList "required_fields"
  return {
    type := entries.getStr "type"
    description := entries.getStr "description"
    requiredFields }

/-- `from_dict` of a value that may be no object. -/
def fromValue : PyValue → Except PyError ArtifactSchema
  | .dict entries => fromDict entries
  | _ => .ok {}

def toDict (schema : ArtifactSchema) : PyDict :=
  [("type", .str schema.type), ("description", .str schema.description),
    ("required_fields", .list schema.requiredFields)]

end ArtifactSchema

structure EvidenceContract where
  requiredArtifactType : String := ""
  artifactSchema : Option ArtifactSchema := none
  closureCriteria : String := ""
  evidenceRequired : String := ""

namespace EvidenceContract

def fromDict (entries : PyDict) : Except PyError EvidenceContract := do
  let schemaRaw := entries.get "artifact_schema"
  let artifactSchema ←
    if schemaRaw.truthy then (ArtifactSchema.fromValue schemaRaw).map some
    else .ok none
  return {
    requiredArtifactType := entries.getStr "required_artifact_type"
    artifactSchema
    closureCriteria := entries.getStr "closure_criteria"
    evidenceRequired := entries.getStr "evidence_required" }

def toDict (contract : EvidenceContract) : PyDict :=
  [("required_artifact_type", .str contract.requiredArtifactType), ("artifact_schema",
      match contract.artifactSchema with
      | some schema => .dict schema.toDict
      | none => .none),
    ("closure_criteria", .str contract.closureCriteria),
    ("evidence_required", .str contract.evidenceRequired)]

end EvidenceContract

structure InterrogationReview where
  completed : Bool := false
  summary : String := ""
  planElements : List PyValue := []
  questions : List PyValue := []
  generatedBy : String := "deterministic"
  backend : PyValue := .none
  promptPath : PyValue := .none
  responsePath : PyValue := .none
  redTeamRounds : PyValue := .none
  redTeamStopReason : PyValue := .none

namespace InterrogationReview

def fromDict (entries : PyDict) : Except PyError InterrogationReview := do
  let planElements ← entries.getList "plan_elements"
  let questions ← entries.getList "questions"
  return {
    completed := (entries.get "completed").truthy
    summary := entries.getStr "summary"
    planElements
    questions
    generatedBy := ((entries.get "generated_by").orValue (.str "deterministic")).toStr
    backend := entries.get "backend"
    promptPath := entries.get "prompt_path"
    responsePath := entries.get "response_path"
    redTeamRounds := entries.get "red_team_rounds"
    redTeamStopReason := entries.get "red_team_stop_reason" }

/-- A value that is not `None`. -/
def given : PyValue → Option PyValue
  | .none => none
  | value => some value

def toDict (review : InterrogationReview) : PyDict :=
  PyDict.present [ ("completed", some (.bool review.completed)),
    ("summary", some (.str review.summary)),
    ("plan_elements", some (.list review.planElements)),
    ("questions", some (.list review.questions)),
    ("generated_by", some (.str review.generatedBy)),
    ("backend", given review.backend),
    ("prompt_path", given review.promptPath),
    ("response_path", given review.responsePath),
    ("red_team_rounds", given review.redTeamRounds),
    ("red_team_stop_reason", given review.redTeamStopReason)]

end InterrogationReview

end TypedDomain

namespace PlanSlice

/-- `to_dict`, which leaves out what is empty or has its default. -/
def toDict (planSlice : PlanSlice) : PyDict :=
  let text (key value : String) := (key, PyDict.given (value != "") (.str value))
  let items (key : String) (values : List PyValue) :=
    (key, PyDict.given (!values.isEmpty) (.list values))
  PyDict.present [ ("label", some (.str planSlice.label)),
    ("dependencies", some (.list planSlice.dependencies)),
    ("derived_from", some (.str planSlice.derivedFrom)),
    ("local_id", some (.str planSlice.localId)),
    text "target_impl" planSlice.targetImpl,
    text "target_test" planSlice.targetTest,
    text "transformation" planSlice.transformation,
    items "input_samples" planSlice.inputSamples,
    items "output_samples" planSlice.outputSamples,
    items "resources" planSlice.resources,
    items "supersedes" planSlice.supersedes,
    ("orphan_strategy", planSlice.orphanStrategy.map fun strategy => .str strategy.value),
    text "orphan_acceptance_reason" planSlice.orphanAcceptanceReason,
    items "risks" planSlice.risks,
    ("estimated_complexity", PyDict.given (planSlice.estimatedComplexity != .medium)
        (.str planSlice.estimatedComplexity.value)),
    ("creates_new_file", PyDict.given planSlice.createsNewFile (.bool true))]

end PlanSlice

namespace TypedDomain

variable {entries : PyDict} {key : String} {items : List PyValue}

theorem getList_of_get
    (stored : entries.get key = .list items) : entries.getList key = .ok items := by
  cases items with
  | nil => simp [PyDict.getList, stored, PyValue.truthy]
  | cons _ _ => simp [PyDict.getList, stored, PyValue.truthy, PyValue.toList]

theorem getDict_of_get {fields : PyDict}
    (stored : entries.get key = .dict fields) : entries.getDict key = .ok fields := by
  cases fields with
  | nil => simp [PyDict.getDict, stored, PyValue.truthy]
  | cons _ _ => simp [PyDict.getDict, stored, PyValue.truthy, PyDict.ofValue]

theorem getList_of_given
    (stored : entries.get key = (PyDict.given (!items.isEmpty) (.list items)).getD .none) :
    entries.getList key = .ok items := by
  cases items with
  | nil => simp [PyDict.getList, stored, PyDict.given, PyValue.truthy]
  | cons _ _ => exact getList_of_get stored

theorem ArtifactSchema.fromDict_toDict (schema : ArtifactSchema) :
    fromDict schema.toDict = .ok schema := by
  have requiredFields : schema.toDict.getList "required_fields" = .ok schema.requiredFields :=
    getList_of_get (by simp [toDict])
  unfold fromDict
  rw [requiredFields, ok_bind]
  simp [toDict, PyDict.getStr]
  rfl

theorem EvidenceContract.fromDict_toDict (contract : EvidenceContract) :
    fromDict contract.toDict = .ok contract := by
  obtain ⟨_, schema, _, _⟩ := contract
  unfold fromDict
  cases schema with
  | none => simp [toDict, PyDict.getStr, PyValue.truthy, ok_bind, pure, Except.pure]
  | some schema =>
    have decoded : (ArtifactSchema.fromValue (.dict schema.toDict)).map some =
        .ok (some schema) := by
      rw [ArtifactSchema.fromValue, schema.fromDict_toDict]
      rfl
    have truthy : (PyValue.dict schema.toDict).truthy = true := rfl
    simp [toDict, PyDict.getStr, truthy, decoded, ok_bind, pure, Except.pure]

theorem parseVerdict_value (verdict default : ReviewVerdict) :
    parseVerdict (.str verdict.value) default = verdict := by
  cases verdict <;> rfl

theorem fromDict_toDict_packet (packet : ReviewPacket) :
    ReviewPacket.fromDict packet.toDict = .ok packet := by
  have findings : packet.toDict.getList "findings" = .ok packet.findings :=
    getList_of_get (by simp [ReviewPacket.toDict])
  have evidence : packet.toDict.getList "evidence" = .ok packet.evidence :=
    getList_of_get (by simp [ReviewPacket.toDict])
  have artifactSchema : packet.toDict.getDict "artifact_schema" = .ok packet.artifactSchema :=
    getDict_of_get (by simp [ReviewPacket.toDict])
  have evidenceContract : packet.toDict.getDict "evidence_contract" = .ok packet.evidenceContract :=
    getDict_of_get (by simp [ReviewPacket.toDict])
  have llmUsage : packet.toDict.getDict "llm_usage" = .ok packet.llmUsage :=
    getDict_of_get (by simp [ReviewPacket.toDict])
  unfold ReviewPacket.fromDict
  rw [findings, evidence, artifactSchema, evidenceContract, llmUsage]
  simp only [ok_bind]
  simp [ReviewPacket.toDict, PyDict.getStr, parseVerdict_value, PyValue.truthy]
  rfl

theorem fromDict_toDict_planSlice (planSlice : PlanSlice) :
    PlanSlice.fromDict planSlice.toDict = .ok planSlice := by
  have dependencies : planSlice.toDict.getList "dependencies" = .ok planSlice.dependencies :=
    getList_of_get (by simp [PlanSlice.toDict])
  have inputSamples : planSlice.toDict.getList "input_samples" = .ok planSlice.inputSamples :=
    getList_of_given (by simp [PlanSlice.toDict])
  have outputSamples : planSlice.toDict.getList "output_samples" = .ok planSlice.outputSamples :=
    getList_of_given (by simp [PlanSlice.toDict])
  have resources : planSlice.toDict.getList "resources" = .ok planSlice.resources :=
    getList_of_given (by simp [PlanSlice.toDict])
  have supersedes : planSlice.toDict.getList "supersedes" = .ok planSlice.supersedes :=
    getList_of_given (by simp [PlanSlice.toDict])
  have risks : planSlice.toDict.getList "risks" = .ok planSlice.risks :=
    getList_of_given (by simp [PlanSlice.toDict])
  have strategy : safeEnum [.absorb, .followUp, .accept] OrphanStrategy.value
      (planSlice.toDict.get "orphan_strategy") = planSlice.orphanStrategy := by
    have stored : planSlice.toDict.get "orphan_strategy" =
        (planSlice.orphanStrategy.map fun strategy => .str strategy.value).getD .none := by
      simp [PlanSlice.toDict]
    rw [stored]
    cases planSlice.orphanStrategy with
    | none => rfl
    | some strategy => cases strategy <;> decide +kernel
  have complexity : (safeEnum [.trivial, .small, .medium, .large, .tooLarge]
      PlanComplexity.value (planSlice.toDict.get "estimated_complexity")).getD .medium =
        planSlice.estimatedComplexity := by
    have stored : planSlice.toDict.get "estimated_complexity" =
        (PyDict.given (planSlice.estimatedComplexity != .medium)
          (.str planSlice.estimatedComplexity.value)).getD .none := by
      simp [PlanSlice.toDict]
    rw [stored]
    cases planSlice.estimatedComplexity <;> decide +kernel
  have createsNewFile : (planSlice.toDict.get "creates_new_file").truthy =
      planSlice.createsNewFile := by
    have stored : planSlice.toDict.get "creates_new_file" =
        (PyDict.given planSlice.createsNewFile (.bool true)).getD .none := by
      simp [PlanSlice.toDict]
    rw [stored]
    cases planSlice.createsNewFile <;> rfl
  have nonempty : planSlice.toDict.isEmpty = false := rfl
  unfold PlanSlice.fromDict
  rw [nonempty, if_neg (by simp), dependencies, inputSamples, outputSamples, resources,
    supersedes, risks]
  simp only [ok_bind]
  rw [strategy, complexity, createsNewFile]
  simp [PlanSlice.toDict, PyDict.getStr]
  rfl

theorem InterrogationReview.get_given (value : PyValue) : (given value).getD .none = value := by
  cases value <;> rfl

theorem InterrogationReview.fromDict_toDict (review : InterrogationReview) :
    fromDict review.toDict = .ok { review with
      generatedBy := if review.generatedBy = "" then "deterministic" else review.generatedBy } := by
  have planElements : review.toDict.getList "plan_elements" = .ok review.planElements :=
    getList_of_get (by simp [toDict])
  have questions : review.toDict.getList "questions" = .ok review.questions :=
    getList_of_get (by simp [toDict])
  have generatedBy : ((review.toDict.get "generated_by").orValue (.str "deterministic")).toStr =
      if review.generatedBy = "" then "deterministic" else review.generatedBy := by
    by_cases empty : review.generatedBy = ""
    · simp [toDict, PyValue.orValue, PyValue.truthy, empty]
    · simp [toDict, PyValue.orValue, PyValue.truthy, empty]
  unfold fromDict
  rw [planElements, questions]
  simp only [ok_bind]
  rw [generatedBy]
  simp [toDict, PyDict.getStr, get_given, PyValue.truthy]
  rfl

structure JsonObject where
  entries : PyDict
  encodable : PyJson.Encodable (.dict entries)

section

variable {Record : Type} (fromDict : PyDict → Except PyError Record)
  (toDict : Record → PyDict)

/-- `from_dict(to_dict(x)) = x`. -/
def RoundTrips (record : Record) : Prop := fromDict (toDict record) = .ok record

/-- `to_dict(from_dict(to_dict(from_dict(d)))) = to_dict(from_dict(d))`, where a
call that raises raises on both sides. -/
def IsStable (entries : PyDict) : Prop :=
  (do
    let first ← fromDict entries
    let second ← fromDict (toDict first)
    return toDict second) =
  (do
    let first ← fromDict entries
    return toDict first)

variable {fromDict toDict}

theorem isStable_of_roundTrips {entries : PyDict}
    (roundTrips : ∀ record, fromDict entries = .ok record → RoundTrips fromDict toDict record) :
    IsStable fromDict toDict entries := by
  unfold IsStable
  cases parsed : fromDict entries with
  | error _ => rfl
  | ok record => rw [ok_bind, ok_bind, roundTrips record parsed, ok_bind]

end

theorem toStr_ne_empty {value : PyValue} (encodable : PyJson.Encodable value)
    (truthy : value.truthy = true) : value.toStr ≠ "" := by
  cases value with
  | none => cases truthy
  | bool value => cases value <;> decide
  | int value =>
    intro empty
    have digits := (PyJson.readAtom_toString value).2.1
    rw [show toString value = "" from empty] at digits
    exact digits rfl
  | float _ =>
    rintro rfl
    have unread : PyJson.readAtom (PyJson.encodeFloat "") = none := rfl
    have known := encodable.1
    rw [unread] at known
    cases known
  | str _ => simpa [PyValue.truthy] using truthy
  | list _ =>
    intro empty
    have lengths := congrArg String.length empty
    simp [PyValue.toStr, PyValue.repr] at lengths
  | dict _ =>
    intro empty
    have lengths := congrArg String.length empty
    simp [PyValue.toStr, PyValue.repr] at lengths

theorem generatedBy_of_fromDict {object : JsonObject} {review : InterrogationReview}
    (parsed : InterrogationReview.fromDict object.entries = .ok review) :
    review.generatedBy ≠ "" := by
  unfold InterrogationReview.fromDict at parsed
  obtain ⟨_, _, parsed⟩ := exists_of_bind_ok parsed
  obtain ⟨_, _, parsed⟩ := exists_of_bind_ok parsed
  cases parsed
  show ((object.entries.get "generated_by").orValue (.str "deterministic")).toStr ≠ ""
  unfold PyValue.orValue
  split
  next truthy => exact toStr_ne_empty (PyJson.encodable_find object.encodable _) truthy
  · decide

theorem InterrogationReview.readsBack_iff (review : InterrogationReview) :
    RoundTrips fromDict toDict review ↔ review.generatedBy ≠ "" := by
  unfold RoundTrips
  rw [review.fromDict_toDict]
  constructor
  · intro same empty
    have names : (if review.generatedBy = "" then "deterministic" else review.generatedBy) =
        review.generatedBy := congrArg InterrogationReview.generatedBy (Except.ok.inj same)
    rw [if_pos empty, empty] at names
    exact absurd names (by decide)
  · intro nonempty
    rw [if_neg nonempty]

/-- The typed records come back from their objects, a review if it says what
generated it, and one pass through a record makes an object stable. -/
theorem typed_records_round_trip (schema : ArtifactSchema) (contract : EvidenceContract)
    (packet : ReviewPacket) (planSlice : PlanSlice) (review : InterrogationReview)
    (object : JsonObject) :
    (RoundTrips ArtifactSchema.fromDict ArtifactSchema.toDict schema ∧
      RoundTrips EvidenceContract.fromDict EvidenceContract.toDict contract ∧
      RoundTrips ReviewPacket.fromDict ReviewPacket.toDict packet ∧
      RoundTrips PlanSlice.fromDict PlanSlice.toDict planSlice ∧
      (RoundTrips InterrogationReview.fromDict InterrogationReview.toDict review ↔
        review.generatedBy ≠ "")) ∧
    IsStable ArtifactSchema.fromDict ArtifactSchema.toDict object.entries ∧
      IsStable EvidenceContract.fromDict EvidenceContract.toDict object.entries ∧
      IsStable ReviewPacket.fromDict ReviewPacket.toDict object.entries ∧
      IsStable PlanSlice.fromDict PlanSlice.toDict object.entries ∧
      IsStable InterrogationReview.fromDict InterrogationReview.toDict object.entries :=
  ⟨⟨schema.fromDict_toDict, contract.fromDict_toDict, fromDict_toDict_packet packet,
      fromDict_toDict_planSlice planSlice, review.readsBack_iff⟩,
    isStable_of_roundTrips fun record _ => record.fromDict_toDict,
    isStable_of_roundTrips fun record _ => record.fromDict_toDict,
    isStable_of_roundTrips fun record _ => fromDict_toDict_packet record,
    isStable_of_roundTrips fun record _ => fromDict_toDict_planSlice record,
    isStable_of_roundTrips fun record parsed =>
      record.readsBack_iff.mpr (generatedBy_of_fromDict parsed)⟩

/-- A review without `generated_by` comes back as a deterministic one. -/
theorem unnamed_review_changes :
    ¬ RoundTrips InterrogationReview.fromDict InterrogationReview.toDict
      { summary := "Intent is clear", generatedBy := "" } := by
  rw [InterrogationReview.readsBack_iff]
  simp

end TypedDomain

end AccruviaHarness
