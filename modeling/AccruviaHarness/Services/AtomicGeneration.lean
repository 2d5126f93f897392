import AccruviaHarness.Services.Interrogation
import AccruviaHarness.Workflows.LifecycleRunner
import AccruviaHarness.Workflows.TaskCreation

/-!
# The generation of an objective's tasks

`queue_atomic_generation` generates the plans and the tasks of an objective
from its finished diagram, unless a generation from the same version of the
diagram is running or completed.
-/

namespace AccruviaHarness

open Library

/-- What `generate_trio_plans` returns. -/
structure TrioResult where
  success : Bool
  plans : List PyDict
  roundsCompleted : Int
  stopReason : String

/-- What a generation is given besides the store: the answer of the planner,
new ids and times, and whether a thread of an earlier generation is alive. -/
structure GenerationAnswers where
  trio : Except PyError TrioResult
  planIds : Nat → String
  planTime : Int
  identities : Nat → TaskIdentities
  generationId : String
  stamps : RowStamps
  threadAlive : Bool
  now : Int

inductive GenerationStatus where
  | idle
  | running
  | completed
  | failed
  deriving DecidableEq, Repr

/-- The fields of `_atomic_generation_state` that decide about a start. -/
structure GenerationState where
  status : GenerationStatus
  diagramVersion : Option Int
  generationId : String := ""
  lastActivityAt : Option Int := none
  deriving DecidableEq, Repr

namespace HarnessUIDataService

def workflowControl : String := "workflow_control"

/-- `int(record.metadata.get("diagram_version") or 0)`. -/
def namedVersion (record : ContextRecord) : Except PyError Int :=
  ((record.metadata.get "diagram_version").orValue (.int 0)).toInt

variable (store : Store)

def generationRecords (objectiveId generationId recordType : String) : List ContextRecord :=
  (store.listContextRecords objectiveId recordType).filter fun record =>
    record.metadata.getStr "generation_id" = generationId

variable (objectiveId : String) (diagramVersion : Option Int)

/-- `starts`: the starts from the version, or all of them without one. -/
def generationStarts : Except PyError (List ContextRecord) :=
  let records := store.listContextRecords objectiveId "atomic_generation_started"
  match diagramVersion with
  | none => .ok records
  | some version => do
      let versions ← records.mapM namedVersion
      return ((records.zip versions).filter fun entry => entry.2 = version).map Prod.fst

def startedGeneration (start : ContextRecord) : GenerationState :=
  let named := start.metadata.getStr "generation_id"
  let generationId := if named = "" then start.id else named
  let records := generationRecords store objectiveId generationId
  let completed := (records "atomic_generation_completed").getLast?
  let failed := (records "atomic_generation_failed").getLast?
  let related :=
    start :: (records "atomic_generation_progress" ++
      records "atomic_unit_generated" ++ completed.toList ++ failed.toList)
  { status :=
      if failed.isSome then .failed
      else if completed.isSome then .completed
      else .running
    diagramVersion, generationId
    lastActivityAt := (related.map ContextRecord.createdAt).max? }

def atomicGenerationState :
    Except PyError GenerationState := do
  let diagramVersion :=
    (store.latestMermaidArtifactOf objectiveId workflowControl).map MermaidArtifact.version
  let starts ← generationStarts store objectiveId diagramVersion
  match starts.getLast? with
  | none => return { status := .idle, diagramVersion }
  | some start => return startedGeneration store objectiveId diagramVersion start

variable (answers : GenerationAnswers)

def atomicGenerationIsStale (generation : GenerationState) : Bool :=
  if generation.status ≠ .running then false
  else if answers.threadAlive then false
  else
    match generation.lastActivityAt with
    | none => false
    | some lastActivity => secondsSpan 300 < answers.now - lastActivity

def versionValue : Option Int → PyValue
  | some version => .int version
  | none => .none

def markAtomicGenerationInterrupted (objectiveId : String) (generation : GenerationState) :
    EStateM PyError Store PUnit := do
  if generation.generationId = "" then return
  writeRecord answers.stamps objectiveId "atomic_generation_failed"
    ("Atomic generation was interrupted before publishing units. The " ++
      "harness can resume from the accepted flowchart.")
    [("generation_id", .str generation.generationId),
      ("diagram_version", versionValue generation.diagramVersion),
      ("interrupted", .bool true)]
  writeRecord answers.stamps objectiveId "action_receipt"
    ("Action receipt: Atomic generation was interrupted. Resuming from the " ++
      "accepted flowchart.")
    [("kind", .str "atomic_generation"), ("status", .str "interrupted"),
      ("generation_id", .str generation.generationId),
      ("diagram_version", versionValue generation.diagramVersion)]

/-- `_advance` of a runner over the store, which is in the given phase. -/
def advanceRunner (phase target : ObjectivePhase) : EStateM PyError Store ObjectivePhase :=
  ofPair fun store =>
    let runner : ObjectiveLifecycleRunner :=
      { objectiveId, phase, store, persists := true, events := [] }
    let called := runner.advancing target fun runner => (runner, .ok .none)
    (called.1.store, called.2.map fun _ => called.1.phase)

def advanceFrom (expected target : ObjectivePhase) (objectiveId : String)
    (phase : ObjectivePhase) : EStateM PyError Store ObjectivePhase :=
  if phase = expected then advanceRunner objectiveId phase target
  else pure phase

structure Generation where
  objective : Objective
  id : String
  diagramVersion : Int

namespace Generation

variable (generation : Generation) (answers : GenerationAnswers)

def named : PyDict :=
  [("generation_id", .str generation.id), ("diagram_version", .int generation.diagramVersion)]

def record (recordType content : String) (metadata : PyDict) : EStateM PyError Store PUnit :=
  writeRecord answers.stamps generation.objective.id recordType content metadata

/-- An `action_receipt` of the generation. -/
def receipt (status content : String) (metadata : PyDict) : EStateM PyError Store PUnit :=
  generation.record answers "action_receipt" content
    ([("kind", .str "atomic_generation"), ("status", .str status)] ++ metadata)

/-- `_record_atomic_generation_progress`. -/
def recordProgress (phase content : String) :
    EStateM PyError Store PUnit := do
  generation.record answers "atomic_generation_progress" content
    (generation.named ++ [("phase", .str phase)])
  generation.receipt answers "progress"
    ("Action receipt: Atomic generation phase changed to " ++ phase ++ ".")
    (generation.named ++ [("phase", .str phase)])

def plannedPlans : Except PyError (List (String × PyDict)) := do
  let result ← answers.trio
  if !result.success || result.plans.isEmpty then
    .error <| .runtimeError <| "TRIO planning failed after " ++ toString result.roundsCompleted ++
        " round(s): " ++ result.stopReason
  else return result.plans.zipIdx.map fun entry => (answers.planIds entry.2, entry.1)

def materializePlans (plansData : List (String × PyDict)) : EStateM PyError Store (List Plan) :=
  ofPair fun store =>
    Plans.materializePlansFromSkillOutput store generation.objective.id
      plansData "plan_draft_trio" answers.planTime

def recordUnit (index : Nat) (plan : Plan) (planSlice : PlanSlice)
    (task : Task) : EStateM PyError Store PUnit := do
  generation.record answers "atomic_unit_generated"
    ("Generated TRIO plan " ++ toString index ++ ": " ++ task.title)
    (generation.named ++ [("order", .int index), ("task_id", .str task.id),
        ("plan_id", .str plan.id), ("title", .str task.title),
        ("objective", .str task.objective),
        ("target_impl", .str planSlice.targetImpl),
        ("target_test", .str planSlice.targetTest),
        ("strategy", .str task.strategy)])
  generation.receipt answers "publishing"
    ("Action receipt: Published TRIO plan " ++ toString index ++ ": " ++ task.title)
    (generation.named ++ [("order", .int index), ("task_id", .str task.id),
        ("plan_id", .str plan.id)])

def publishUnits : Nat → List Plan → EStateM PyError Store PUnit
  | _, [] => pure ⟨⟩
  | index, plan :: plans => do
      let planSlice ← valueOf (planSliceTyped plan)
      let task ← ofChange fun store =>
        TaskService.createTaskWithPolicy (answers.identities index) store
          (planTaskPolicy generation.objective plan planSlice)
      generation.recordUnit answers index plan planSlice task
      publishUnits (index + 1) plans

def publish : EStateM PyError Store Nat := do
  generation.recordProgress answers "running TRIO planning"
    "Running TRIO plan decomposition with red-team review."
  let plansData ← valueOf (plannedPlans answers)
  let plans ← generation.materializePlans answers plansData
  generation.recordProgress answers "publishing units"
    ("Publishing " ++ toString plans.length ++ " TRIO plans as tasks.")
  generation.publishUnits answers 1 plans
  return plans.length

def complete (unitCount : Nat) : EStateM PyError Store PUnit := do
  generation.record answers "atomic_generation_completed"
    ("Generated " ++ toString unitCount ++ " TRIO plans from Mermaid v" ++
      toString generation.diagramVersion ++ ".")
    (generation.named ++ [("unit_count", .int unitCount)])
  generation.receipt answers "completed"
    ("Action receipt: TRIO generation complete. " ++ toString unitCount ++
      " plans are ready for review.")
    [("generation_id", .str generation.id), ("unit_count", .int unitCount)]
  modify fun store => (store.updateObjectivePhase generation.objective.id).1

/-- The `except` branch. -/
def fail (error : PyError) : EStateM PyError Store PUnit := do
  generation.record answers "atomic_generation_failed"
    ("Atomic generation failed: " ++ error.text) generation.named
  generation.receipt answers "failed"
    ("Action receipt: Atomic generation failed. Ask the harness to retry or " ++
      "revise the flowchart decomposition.")
    [("generation_id", .str generation.id)]
  modify fun store => store.updateObjectiveStatus generation.objective.id .paused

/-- The `try` block, with the phase of the runner. -/
def attempt (phase : ObjectivePhase) : EStateM PyError Store PUnit := do
  generation.recordProgress answers "reading accepted flowchart"
    ("Reading accepted Mermaid v" ++ toString generation.diagramVersion ++ " before decomposition.")
  let phase ← advanceFrom .mermaidReview .trioPlanning generation.objective.id phase
  let unitCount ← generation.publish answers
  let _ ← advanceFrom .trioPlanning .executing generation.objective.id phase
  generation.complete answers unitCount

/-- `_run_atomic_generation` of a known objective. -/
def run (phase : ObjectivePhase) : EStateM PyError Store PUnit :=
  tryCatch (generation.attempt answers phase) (generation.fail answers)

def announce : EStateM PyError Store PUnit := do
  generation.record answers "atomic_generation_started"
    ("Started generating atomic units from Mermaid v" ++
      toString generation.diagramVersion ++ ".") generation.named
  generation.receipt answers "started"
    ("Action receipt: Generating atomic units from accepted flowchart v" ++
      toString generation.diagramVersion ++ ".") generation.named

/-- What `queue_atomic_generation` does with a generation that is to be
started. -/
def start (phase : ObjectivePhase) :
    EStateM PyError Store GenerationState := do
  generation.announce answers
  generation.run answers phase
  let store ← get
  valueOf (atomicGenerationState store generation.objective.id)

end Generation

variable (answers : GenerationAnswers)

/-- The state that `queue_atomic_generation` decides on: a stale generation is
marked as interrupted first. -/
def currentGeneration (objectiveId : String) :
    EStateM PyError Store GenerationState := do
  let store ← get
  let current ← valueOf (atomicGenerationState store objectiveId)
  if atomicGenerationIsStale answers current then
    markAtomicGenerationInterrupted answers objectiveId current
    let store ← get
    valueOf (atomicGenerationState store objectiveId)
  else return current

/-- `queue_atomic_generation`, with a runner that is in the given phase. -/
def queueAtomicGeneration (objectiveId : String)
    (phase : ObjectivePhase) : EStateM PyError Store GenerationState := do
  let store ← get
  match store.getObjective objectiveId with
  | none => throw (unknownObjective objectiveId)
  | some objective =>
    match (store.latestMermaidArtifactOf objectiveId
        workflowControl).filter fun mermaid => mermaid.status = .finished with
    | none => throw (.valueError "Atomic generation requires a finished Mermaid.")
    | some mermaid => do
        let current ← currentGeneration answers objectiveId
        if (current.status = .running ∨ current.status = .completed) ∧
            current.diagramVersion.getD 0 = mermaid.version then
          return current
        else
          let generation : Generation :=
            { objective, id := answers.generationId
              diagramVersion := mermaid.version }
          generation.start answers phase

end HarnessUIDataService

end AccruviaHarness
