import Mathlib.Data.List.Dedup
import AccruviaHarness.Domain
import AccruviaHarness.Library.OrderedSelection

/-!
# Analysis and decision

`DefaultAnalyzer` turns the result of a worker into a verdict, and
`DefaultDecider` turns the verdict into the next action of the task.
-/

namespace AccruviaHarness

open Library

structure WorkResult where
  summary : String
  artifacts : List (String × String × String)
  outcome : String := "success"
  diagnostics : Option PyDict := none

structure AnalyzeResult where
  verdict : EvaluationVerdict
  summary : String
  details : PyDict

structure DecideResult where
  action : DecisionAction
  rationale : String
  deriving DecidableEq, Repr

/-- `sorted(set(texts))`. -/
def sortedSet (texts : List String) : List String := orderBy (· ≤ ·) texts.dedup

theorem mem_sortedSet {texts : List String} {text : String} :
    text ∈ sortedSet texts ↔ text ∈ texts := by
  rw [sortedSet, mem_orderBy, List.mem_dedup]

namespace DefaultAnalyzer

variable (task : Task)

def failureDetails (diagnostics : Option PyDict) : PyDict :=
  let details : PyDict := [("task_title", .str task.title), ("strategy", .str task.strategy)]
  match diagnostics with
  | none => details
  | some diagnostics =>
    if diagnostics.isEmpty then details
    else
      let details := details.set "diagnostics" (.dict diagnostics)
      if (diagnostics.get "infrastructure_failure").truthy then
        let category := (diagnostics.get "failure_category").orValue (.str "executor_failure")
        let details := details.update [("infrastructure_failure", .bool true),
            ("failure_category", .str category.toStr)]
        let message := ((diagnostics.get "failure_message").orValue
          (diagnostics.get "error")).orValue (diagnostics.get "blocked_reason")
        if message.truthy then details.set "root_cause_hint" (.str message.toStr)
        else details
      else details

def analyze (artifacts : List Artifact) : AnalyzeResult :=
  let artifactKinds := sortedSet (artifacts.map Artifact.kind)
  let missing := sortedSet <| task.requiredArtifacts.filter fun kind => !artifactKinds.contains kind
  let artifactCount : PyValue := .int artifacts.length
  let texts (items : List String) : PyValue := .list (items.map .str)
  if artifacts.isEmpty then
    { verdict := .failed, summary := "Run produced no artifacts."
      details := [("artifact_count", artifactCount)] }
  else if !missing.isEmpty then
    { verdict := .incomplete, summary := "Run is missing required artifacts."
      details :=
        [("artifact_count", artifactCount), ("artifact_kinds", texts artifactKinds),
          ("missing_required_artifacts", texts missing)] }
  else
    { verdict := .acceptable, summary := "Run produced the required durable artifacts."
      details :=
        [("artifact_count", artifactCount), ("artifact_kinds", texts artifactKinds),
          ("task_title", .str task.title),
          ("strategy", .str task.strategy)] }

/-- `blocked` and `failed`: they differ in the verdict and the summary. -/
def unsuccessful (verdict : EvaluationVerdict) (summary : String)
    (task : Task) (diagnostics : Option PyDict) : AnalyzeResult :=
  let details := failureDetails task diagnostics
  { verdict
    summary :=
      if (details.get "infrastructure_failure").truthy then
        "Run ended with an executor/infrastructure failure."
      else summary
    details }

def blocked : Task → Option PyDict → AnalyzeResult :=
  unsuccessful .blocked "Run ended with a blocked diagnosis."

def failed : Task → Option PyDict → AnalyzeResult :=
  unsuccessful .failed "Run ended with a failed worker outcome."

def analyzeWork (work : WorkResult) (artifacts : List Artifact) : AnalyzeResult :=
  if work.outcome = "blocked" then blocked task work.diagnostics
  else if work.outcome = "failed" then failed task work.diagnostics
  else analyze task artifacts

end DefaultAnalyzer

/-- `bool(analysis.details.get("infrastructure_failure"))`. -/
def AnalyzeResult.infrastructureFailure (analysis : AnalyzeResult) : Bool :=
  (analysis.details.get "infrastructure_failure").truthy

namespace DefaultDecider

def decide (analysis : AnalyzeResult) (run : Run) (task : Task) :
    DecideResult :=
  if analysis.infrastructureFailure then
    if run.attempt < task.maxAttempts then
      { action := .retry
        rationale := "Infrastructure failure detected; retrying since attempt budget remains." }
    else
      { action := .fail, rationale := "Infrastructure failure persisted through all attempts." }
  else if analysis.verdict = .acceptable then
    { action := .promote, rationale := "Required artifacts exist and analysis passed." }
  else if analysis.verdict = .blocked then
    if run.attempt < task.maxAttempts then
      { action := .retry, rationale := "Worker blocked; retrying with scope narrowing metadata." }
    else
      { action := .fail
        rationale := "Worker reported a blocked diagnosis and retry budget is exhausted." }
  else if task.maxAttempts ≤ run.attempt then
    if 1 < task.maxBranches ∧ run.branchId = none then
      { action := .branch
        rationale :=
          "Retry budget exhausted; branching into " ++
            toString task.maxBranches ++ " speculative runs." }
    else
      { action := .fail, rationale := "Retry budget exhausted." }
  else
    { action := .retry
      rationale := "Artifacts were insufficient; retry within bounded task budget." }

end DefaultDecider

/-- An analysis that ends neither a successful run nor a diagnosed failure:
the worker failed or left out artifacts, and the infrastructure was not at
fault. -/
def AnalyzeResult.Inconclusive (analysis : AnalyzeResult) : Prop :=
  analysis.infrastructureFailure = false ∧
    (analysis.verdict = .failed ∨ analysis.verdict = .incomplete)

/-- A worker that failed without blaming the infrastructure, or that did not
leave every required artifact. -/
def WorkResult.Inconclusive (work : WorkResult) (task : Task) (kinds : List String) : Prop :=
  if work.outcome = "blocked" then False
  else if work.outcome = "failed" then
    ((work.diagnostics.getD []).get "infrastructure_failure").truthy = false
  else kinds = [] ∨ ∃ kind ∈ task.requiredArtifacts, kind ∉ kinds

namespace DefaultAnalyzer

theorem failureDetails_infrastructureFailure (task : Task) (diagnostics : Option PyDict) :
    ((failureDetails task diagnostics).get "infrastructure_failure").truthy =
      ((diagnostics.getD []).get "infrastructure_failure").truthy := by
  unfold failureDetails
  cases diagnostics with
  | none => rfl
  | some diagnostics =>
    cases diagnostics with
    | nil => rfl
    | cons _ _ =>
      simp only [List.isEmpty_cons, Bool.false_eq_true, if_false, Option.getD_some]
      split_ifs with infrastructure
      · rw [infrastructure, PyDict.get_set]
        simp [PyDict.update, PyDict.get_set, PyValue.truthy]
      · rw [infrastructure]
        simp [PyDict.update, PyDict.get_set, PyValue.truthy]
      · rw [Bool.not_eq_true] at infrastructure
        rw [infrastructure, PyDict.get_set]
        rfl

theorem analyzeWork_inconclusive_iff (task : Task) (work : WorkResult) (artifacts : List Artifact) :
    (analyzeWork task work artifacts).Inconclusive ↔
      work.Inconclusive task (artifacts.map Artifact.kind) := by
  unfold analyzeWork WorkResult.Inconclusive
  split_ifs with blockedOutcome failedOutcome
  · simp [blocked, unsuccessful, AnalyzeResult.Inconclusive]
  · have details := failureDetails_infrastructureFailure task work.diagnostics
    simp [failed, unsuccessful, AnalyzeResult.Inconclusive,
      AnalyzeResult.infrastructureFailure, details]
  · unfold analyze
    dsimp only
    by_cases empty : artifacts = []
    · simp [empty, AnalyzeResult.Inconclusive,
        AnalyzeResult.infrastructureFailure, PyDict.get, PyValue.truthy]
    · have kinds : artifacts.map Artifact.kind ≠ [] := by simpa using empty
      have someMissing : (sortedSet (task.requiredArtifacts.filter fun kind =>
          !(sortedSet (artifacts.map Artifact.kind)).contains kind)).isEmpty = false ↔
          ∃ kind ∈ task.requiredArtifacts, kind ∉ artifacts.map Artifact.kind := by
        rw [← Bool.not_eq_true, List.isEmpty_iff, List.eq_nil_iff_forall_not_mem]
        simp [mem_sortedSet]
      rw [or_iff_right kinds, ← someMissing]
      generalize sortedSet (task.requiredArtifacts.filter fun kind =>
        !(sortedSet (artifacts.map Artifact.kind)).contains kind) = missing
      cases missing with
      | nil => simp [empty, AnalyzeResult.Inconclusive]
      | cons _ _ =>
        simp [empty, AnalyzeResult.Inconclusive,
          AnalyzeResult.infrastructureFailure, PyDict.get, PyValue.truthy]

end DefaultAnalyzer

theorem DefaultDecider.decide_branch_iff (analysis : AnalyzeResult) (run : Run) (task : Task) :
    (DefaultDecider.decide analysis run task).action = .branch ↔
      analysis.Inconclusive ∧ task.maxAttempts ≤ run.attempt ∧
        1 < task.maxBranches ∧ run.branchId = none := by
  unfold DefaultDecider.decide AnalyzeResult.Inconclusive
  cases verdict : analysis.verdict <;> split_ifs <;> simp_all

variable {analysis : AnalyzeResult} {task : Task}

theorem DefaultDecider.decide_ne_retry {run : Run} (exhausted : task.maxAttempts ≤ run.attempt) :
    (DefaultDecider.decide analysis run task).action ≠ .retry := by
  have spent : ¬ run.attempt < task.maxAttempts := not_lt.mpr exhausted
  unfold DefaultDecider.decide
  split_ifs <;> simp_all

def AnalyzeResult.Accepted (analysis : AnalyzeResult) : Prop :=
  analysis.infrastructureFailure = false ∧ analysis.verdict = .acceptable

theorem DefaultDecider.decide_promote_iff (analysis : AnalyzeResult) (run : Run) (task : Task) :
    (DefaultDecider.decide analysis run task).action = .promote ↔
      analysis.Accepted := by
  unfold DefaultDecider.decide AnalyzeResult.Accepted
  cases verdict : analysis.verdict <;> split_ifs <;> simp_all

theorem DefaultDecider.decide_retry_iff (analysis : AnalyzeResult) (run : Run) (task : Task) :
    (DefaultDecider.decide analysis run task).action = .retry ↔
      ¬ analysis.Accepted ∧ run.attempt < task.maxAttempts := by
  unfold DefaultDecider.decide AnalyzeResult.Accepted
  cases verdict : analysis.verdict <;> split_ifs <;> simp_all

theorem DefaultDecider.decide_congr {first second : Run} (branch : first.branchId = second.branchId)
    (same : first.attempt < task.maxAttempts ↔ second.attempt < task.maxAttempts) :
    DefaultDecider.decide analysis first task = DefaultDecider.decide analysis second task := by
  have spent : task.maxAttempts ≤ first.attempt ↔ task.maxAttempts ≤ second.attempt := by omega
  simp only [DefaultDecider.decide, branch, same, spent]

end AccruviaHarness
