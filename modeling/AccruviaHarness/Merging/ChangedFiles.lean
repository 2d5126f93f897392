import AccruviaHarness.Merging.MergeGate
import AccruviaHarness.Promotion.ObjectivePaths

/-!
# The changed files of a report

The skills pipeline applies a skill's changes to the workspace and reports
them.
-/

namespace AccruviaHarness

open Library

/-- The paths of the summary that `apply_changes` returns. -/
structure ApplySummary where
  written : List String := []
  deleted : List String := []
  rejected : List (String × String) := []

abbrev WorkspaceFiles := DirectoryTree String String

def normalizeRel (path : String) : String := normalizePath path

def resolveInWorkspace (path : String) : Option FilePath :=
  if isAbsolute path then none else resolveParts (pathParts path)

variable (allowedFiles : List String)

def deleteFile (state : WorkspaceFiles × ApplySummary) (raw : PyValue) :
    Except PyError (WorkspaceFiles × ApplySummary) :=
  let path := normalizeRel raw.toStr
  let reject reason :=
    (state.1, { state.2 with
      rejected := state.2.rejected ++ [(path, reason)] })
  if path = "" then .ok state
  else if path ∉ allowedFiles.map normalizeRel then .ok (reject "delete_out_of_scope")
  else
    match resolveInWorkspace path with
    | none => .ok (reject "path_escape")
    | some target =>
      match state.1.nodeAt target with
      | none => .ok state
      | some (.directory _) => .error (.osError "unlink")
      | some (.file _) =>
        .ok (state.1.remove target,
          { state.2 with deleted := state.2.deleted ++ [path] })

/-- The loop of `apply_changes` over `deleted_files`. -/
def deleteFiles (files : WorkspaceFiles) (summary : ApplySummary) (output : PyDict) :
    Except PyError (WorkspaceFiles × ApplySummary) := do
  let raws ← output.getList "deleted_files"
  raws.foldlM (deleteFile allowedFiles) (files, summary)

structure PipelineOutcome where
  validationProfile : String
  /-- The names of the validation stages that have passed. -/
  passedStages : List String
  overall : String
  shipReady : Bool

namespace PipelineOutcome

/-- `_stage_passed(output, first) or _stage_passed(output, second) or overall
== "skipped"`. -/
def checkPassed (outcome : PipelineOutcome) (first second : String) : Bool :=
  first ∈ outcome.passedStages || second ∈ outcome.passedStages ||
    outcome.overall = "skipped"

def consolidatedReport (outcome : PipelineOutcome) (summary : ApplySummary) :
    PyDict :=
  [("worker_backend", .str "skills"), ("worker_outcome",
      .str (if outcome.overall ≠ "fail" && outcome.shipReady then "candidate"
        else "failed")),
    ("validation_profile", .str outcome.validationProfile),
    ("changed_files", .list (summary.written.map .str)),
    ("compile_check", .dict [("passed", .bool (outcome.checkPassed "compile" "build"))]),
    ("test_check", .dict [("passed", .bool (outcome.checkPassed "tests" "test"))]),
    ("ship_ready", .bool outcome.shipReady),
    ("overall_validation", .str outcome.overall)]

end PipelineOutcome

namespace MergeGate

theorem changedFilesOf_consolidatedReport (outcome : PipelineOutcome) (summary : ApplySummary) :
    changedFilesOf (outcome.consolidatedReport summary) = .ok summary.written := by
  unfold changedFilesOf PyDict.getList
  have listed : (outcome.consolidatedReport summary).get "changed_files" =
      .list (summary.written.map .str) := rfl
  rw [listed]
  cases summary.written with
  | nil => rfl
  | cons path rest =>
    have truthy : (PyValue.list ((path :: rest).map .str)).truthy = true := rfl
    rw [if_pos truthy]
    have texts : ((path :: rest).map PyValue.str).map PyValue.toStr = path :: rest := by
      rw [List.map_map]
      exact List.map_id _
    exact congrArg Except.ok texts

section

def promotedStore : Store where
  runs := .single { id := "run", taskId := "task", status := .completed, attempt := 1 }
  decisions := [{ id := "decision", runId := "run", action := .promote }]
  artifacts := [{ id := "artifact", runId := "run", kind := "report", path := "report" }]

def passedOutcome : PipelineOutcome where
  validationProfile := "python"
  passedStages := ["compile", "tests"]
  overall := "pass"
  shipReady := true

variable (summary : ApplySummary)

def reportsAs : ReportReader := fun _ =>
  .ok (some (.dict (passedOutcome.consolidatedReport summary)))

def changedWorkspace : WorkspaceFiles :=
  .directory [("src", .directory [("a.py", .file "print()")]),
      ("secrets", .directory [("prod.pem", .file "key")])]

def secretDeleted : Except PyError ApplySummary :=
  (deleteFiles ["src/a.py", "secrets/prod.pem"] changedWorkspace
    { written := ["src/a.py"] }
    [("deleted_files", .list [.str "secrets/prod.pem"])]).map Prod.snd

theorem merged_of_uncaught (capped : summary.written.length ≤ 50)
    (uncaught : ∀ file ∈ summary.written, matchesAny file defaultDeniedPaths = none) :
    ∃ decision, evaluateRun (reportsAs summary) promotedStore "run" {} =
          .ok decision ∧ decision.autoMerge = true := by
  have clears : ReportClears (passedOutcome.consolidatedReport summary)
      summary.written :=
    { listed := changedFilesOf_consolidatedReport passedOutcome summary, shipReady := rfl
      compiled := rfl, tested := rfl
      valid := fun failed => absurd failed (show "pass" ≠ "fail" by decide)
      capped, uncaught }
  exact autoMerge_iff_clears.mpr
    ⟨_, summary.written, ⟨_, rfl⟩, ⟨_, rfl, rfl⟩, ⟨_, rfl, rfl⟩, clears⟩

/-- The gate merges a run that has written `.env`, and one that has deleted a
secret. -/
theorem denied_paths_merged :
    (∃ decision, evaluateRun (reportsAs { written := [".env"] }) promotedStore "run" {} =
          .ok decision ∧ decision.autoMerge = true ∧
        ¬ Sound (reportsAs { written := [".env"] }) promotedStore "run" [".env"]) ∧
      ∃ summary decision,
        secretDeleted = .ok summary ∧ evaluateRun (reportsAs summary) promotedStore "run" {} =
              .ok decision ∧ decision.autoMerge = true ∧
            ¬ Sound (reportsAs summary) promotedStore "run"
              (summary.written ++ summary.deleted) := by
  constructor
  · obtain ⟨decision, evaluated, merges⟩ :=
      merged_of_uncaught { written := [".env"] } (by decide) (by decide)
    refine ⟨decision, evaluated, merges, ?_⟩
    intro sound
    have root : RootEnv (normalizePath ".env") := .inl (by decide)
    exact (sound decision evaluated merges).undenied ".env"
      (List.mem_singleton_self _) (deniedPath_iff.mpr (.inr root))
  · have deletes : secretDeleted = .ok
        { written := ["src/a.py"], deleted := ["secrets/prod.pem"] } := by
      rfl
    obtain ⟨decision, evaluated, merges⟩ := merged_of_uncaught
      { written := ["src/a.py"], deleted := ["secrets/prod.pem"] }
      (by decide) (by decide)
    refine ⟨_, decision, deletes, evaluated, merges, ?_⟩
    intro sound
    have caught : matchesAny "secrets/prod.pem" defaultDeniedPaths ≠ none := by decide
    exact (sound decision evaluated merges).undenied "secrets/prod.pem"
      (by decide) (deniedPath_iff.mpr (.inl caught))

end

end MergeGate

end AccruviaHarness
