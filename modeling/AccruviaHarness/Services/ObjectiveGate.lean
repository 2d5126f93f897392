import AccruviaHarness.Store.Schema

/-!
# The execution gate of an objective

A task of an objective may run when the objective is stored, has an intent
model, was interrogated and has a finished required Mermaid artifact.
-/

namespace AccruviaHarness

structure GateCheck where
  key : String
  label : String
  ok : Bool
  detail : String
  deriving DecidableEq, Repr

structure ObjectiveExecutionGate where
  objectiveId : String
  ready : Bool
  gateChecks : List GateCheck
  deriving DecidableEq, Repr

def taskBypassesObjectiveExecutionGate (task : Task) : Bool :=
  task.strategy = "objective_review_remediation"

def GateCheck.of (key label : String) (ok : Bool) (detail : String) :
    GateCheck where
  key
  label
  ok
  detail := if ok then "" else detail

variable (store : Store) (objectiveId : String)

def implementedChecks : List GateCheck :=
  let mermaid := store.latestMermaidArtifact objectiveId
  [GateCheck.of "objective_exists" "Objective exists" (store.getObjective objectiveId).isSome
      "Objective record is missing.",
    GateCheck.of "intent_model" "Intent model" (store.intentModels.contains objectiveId)
      "Intent model is required before execution.",
    GateCheck.of "interrogation_complete" "Interrogation complete"
      (!(store.listContextRecords objectiveId "interrogation_completed").isEmpty)
      "The harness must interrogate and red-team the objective before Mermaid review.",
    GateCheck.of "required_mermaid" "Required Mermaid"
      (mermaid.any fun artifact => artifact.requiredForExecution)
      "A required Mermaid artifact must exist before execution.",
    GateCheck.of "mermaid_finished" "Mermaid finished"
      (mermaid.any fun artifact => artifact.status = .finished)
      "Execution is blocked until the current Mermaid is finished."]

/-- The checks whose key ends in `_placeholder`: they are listed and do not
count. -/
def placeholderChecks : List GateCheck :=
  [{ key := "plan_placeholder", label := "Plan", ok := false
     detail := "Plan gate not implemented yet." },
    { key := "atomic_slice_placeholder", label := "Atomic slice", ok := false
      detail := "Atomic slice gate not implemented yet." }]

def objectiveExecutionGate :
    ObjectiveExecutionGate where
  objectiveId
  ready := (implementedChecks store objectiveId).all GateCheck.ok
  gateChecks := implementedChecks store objectiveId ++ placeholderChecks

def objectiveGateBlock (task : Task) : Option String :=
  match task.objective? with
  | none => none
  | some objectiveId =>
    if taskBypassesObjectiveExecutionGate task then none
    else
      let gate := objectiveExecutionGate store objectiveId
      if gate.ready then none
      else
        match gate.gateChecks.find? fun check => !check.ok with
        | some check => some check.detail
        | none => some "Objective execution gate is not satisfied."

end AccruviaHarness
