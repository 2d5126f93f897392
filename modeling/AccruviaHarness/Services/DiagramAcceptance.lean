import AccruviaHarness.Mermaid.Render
import AccruviaHarness.Services.AtomicGeneration

/-!
# Accepting a diagram

The operator accepts a diagram by marking it as finished, or by accepting a
proposed one. Both store a new finished diagram and generate the objective's
tasks from it.
-/

namespace AccruviaHarness

open Library

/-- What an acceptance is given besides the store: the answers of the
interrogation and the generation, and the ids and times of new diagrams. -/
structure AcceptanceAnswers where
  interrogation : InterrogationAnswers
  generation : GenerationAnswers
  diagrams : RowStamps

/-- The arguments of `update_mermaid_artifact` after the objective. -/
structure DiagramUpdate where
  status : String
  summary : String := ""
  blockingReason : String := ""
  authorType : String := "operator"

namespace HarnessUIDataService

/-- `first or second`, of texts. -/
def orElseText (first second : String) : String := if first = "" then second else first

variable (answers : AcceptanceAnswers)

/-- A new `workflow_control` diagram with the next version. -/
def newDiagram (store : Store) (objectiveId : String) (status : MermaidStatus)
    (summary content blockingReason authorType : String) :
    MermaidArtifact where
  id := answers.diagrams.identity store.mermaidArtifacts.length
  objectiveId
  diagramType := workflowControl
  version := store.nextMermaidVersion objectiveId workflowControl
  status
  summary
  content
  requiredForExecution := true
  blockingReason
  authorType
  createdAt := answers.diagrams.clock store.mermaidArtifacts.length

variable (artifact : MermaidArtifact)

/-- `create_mermaid_artifact`. -/
def storeDiagram : EStateM PyError Store PUnit :=
  modify fun store => store.createMermaidArtifact artifact

def diagramFields : PyDict :=
  [("diagram_id", .str artifact.id), ("diagram_type", .str artifact.diagramType),
    ("version", .int artifact.version),
    ("status", .str artifact.status.value)]

variable (objectiveId : String)

/-- The `mermaid_status_change` record. -/
def recordStatusChange (artifact : MermaidArtifact) : EStateM PyError Store PUnit :=
  writeRecord answers.generation.stamps objectiveId "mermaid_status_change"
    ("Mermaid workflow_control marked " ++ artifact.status.value)
    (diagramFields artifact ++ [("required_for_execution", .bool artifact.requiredForExecution),
        ("blocking_reason", .str artifact.blockingReason)])

def createSeedMermaid (objective : Objective) :
    EStateM PyError Store MermaidArtifact := do
  let store ← get
  let diagram ← valueOf <|
    Mermaid.renderMermaidFromPlans (store.listPlansForObjective objective.id) objective
  let artifact := newDiagram answers store objective.id .draft "Initial workflow draft" diagram.text
    "Workflow review has not been completed yet." "system"
  storeDiagram artifact
  writeRecord answers.generation.stamps objective.id "mermaid_seeded"
    "Seeded initial required Mermaid workflow." (diagramFields artifact)
  return artifact

/-- `update_objective_status`. -/
def setStatus (status : ObjectiveStatus) : EStateM PyError Store PUnit :=
  modify fun store => store.updateObjectiveStatus objectiveId status

/-- `approve_mermaid` of a runner over the store. -/
def approveRunner (phase : ObjectivePhase) : EStateM PyError Store PUnit :=
  ofPair fun store =>
    let runner : ObjectiveLifecycleRunner :=
      { objectiveId, phase, store, persists := true, events := [] }
    let called := runner.approveMermaid
    (called.1.store, called.2.map fun _ => ⟨⟩)

def fastForward (phase : ObjectivePhase) : EStateM PyError Store ObjectivePhase :=
  if phase = .created then do
    let phase ← advanceRunner objectiveId phase .interrogating
    advanceRunner objectiveId phase .mermaidReview
  else pure phase

/-- The runner of `update_mermaid_artifact`, with its phase after the
approval. -/
def approvedRunner :
    EStateM PyError Store ObjectivePhase := do
  let store ← get
  let phase ← fastForward objectiveId (ObjectiveLifecycleRunner.initialPhase store objectiveId true)
  approveRunner objectiveId phase
  return phase

def finishDiagram :
    EStateM PyError Store PUnit := do
  let phase ← approvedRunner objectiveId
  setStatus objectiveId .planning
  let _ ← completeInterrogationReview answers.interrogation objectiveId
  let _ ← queueAtomicGeneration answers.generation objectiveId phase

def applyStatus (answers : AcceptanceAnswers) (objectiveId : String) :
    MermaidStatus → EStateM PyError Store PUnit
  | .paused => setStatus objectiveId .paused
  | .finished => finishDiagram answers objectiveId
  | .draft | .inReview | .superseded => setStatus objectiveId .investigating

variable (store : Store)

def updatedDiagram (objectiveId : String) (update : DiagramUpdate) (status : MermaidStatus)
    (latest : MermaidArtifact) : MermaidArtifact :=
  newDiagram answers store objectiveId status (orElseText (pyStrip update.summary)
      (orElseText latest.summary (status.value ++ " workflow review")))
    latest.content (pyStrip update.blockingReason) update.authorType

/-- The rest of `update_mermaid_artifact`, from the latest diagram on. -/
def replaceDiagram (update : DiagramUpdate) (status : MermaidStatus)
    (latest : MermaidArtifact) : EStateM PyError Store MermaidArtifact := do
  let store ← get
  let artifact := updatedDiagram answers store objectiveId update status latest
  storeDiagram artifact
  recordStatusChange answers objectiveId artifact
  applyStatus answers objectiveId status
  reconcileObjectiveWorkflow objectiveId
  return artifact

def latestOrSeeded (objective : Objective) :
    EStateM PyError Store MermaidArtifact := do
  let store ← get
  match store.latestMermaidArtifactOf objective.id workflowControl with
  | some latest => pure latest
  | none => createSeedMermaid answers objective

def updateMermaidArtifact
    (update : DiagramUpdate) : EStateM PyError Store MermaidArtifact := do
  let store ← get
  match store.getObjective objectiveId with
  | none => throw (unknownObjective objectiveId)
  | some objective =>
    match MermaidStatus.ofText (lowerAscii (pyStrip update.status)) with
    | none => throw (.valueError ("Unsupported Mermaid status: " ++ update.status))
    | some status => do
        let latest ← latestOrSeeded answers objective
        replaceDiagram answers objectiveId update status latest

def proposalRecord (objectiveId proposalId : String) : Option ContextRecord :=
  (store.listContextRecords objectiveId "mermaid_update_proposed").find?
    fun record => record.id = proposalId

def resolutionTypes : List String :=
  ["mermaid_update_accepted", "mermaid_update_rejected", "mermaid_update_rewound"]

/-- `_latest_mermaid_proposal`, as the record: the latest proposal, unless it
is settled. -/
def latestMermaidProposal (objectiveId : String) : Option ContextRecord :=
  let resolutions :=
    (store.contextRecords.filter fun record =>
      record.objectiveId = some objectiveId &&
        record.recordType ∈ resolutionTypes).map fun record => record.metadata.getStr "proposal_id"
  (store.listContextRecords objectiveId
    "mermaid_update_proposed").getLast?.filter fun proposal => proposal.id ∉ resolutions

variable (proposal : ContextRecord)

def recordAcceptance (artifact : MermaidArtifact) :
    EStateM PyError Store PUnit := do
  recordStatusChange answers objectiveId artifact
  writeRecord answers.generation.stamps objectiveId "mermaid_update_accepted"
    "Accepted proposed Mermaid update."
    [("proposal_id", .str proposal.id), ("diagram_id", .str artifact.id),
      ("version", .int artifact.version)]
  writeRecord answers.generation.stamps objectiveId "action_receipt"
    ("Action receipt: Exact proposal on screen promoted unchanged to locked " ++
      "current version " ++ toString artifact.version ++ ". No regeneration occurred.")
    [("kind", .str "mermaid_update"), ("status", .str "accepted"),
      ("proposal_id", .str proposal.id), ("diagram_id", .str artifact.id),
      ("promotion_mode", .str "exact_proposal")]

/-- `str(proposal.metadata.get("content") or "").strip()`. -/
def proposedContent : String := pyStrip (proposal.metadata.getStr "content")

def acceptedDiagram (objectiveId : String) (proposal : ContextRecord) : MermaidArtifact :=
  newDiagram answers store objectiveId .finished (orElseText (proposal.metadata.getStr "summary")
      (orElseText proposal.content "Accepted control flow"))
    (proposedContent proposal) "" "operator"

def acceptMermaidProposal (objectiveId proposalId : String) :
    EStateM PyError Store MermaidArtifact := do
  let store ← get
  match store.getObjective objectiveId,
      proposalRecord store objectiveId proposalId with
  | some _, some proposal => do
      ensure (proposedContent proposal ≠ "") (.valueError "Mermaid proposal content is empty")
      let artifact := acceptedDiagram answers store objectiveId proposal
      storeDiagram artifact
      recordAcceptance answers objectiveId proposal artifact
      setStatus objectiveId .planning
      let store ← get
      let _ ← queueAtomicGeneration answers.generation objectiveId
        (ObjectiveLifecycleRunner.initialPhase store objectiveId true)
      reconcileObjectiveWorkflow objectiveId
      return artifact
  | _, _ => throw (.valueError "Unknown Mermaid proposal")

end HarnessUIDataService

end AccruviaHarness
