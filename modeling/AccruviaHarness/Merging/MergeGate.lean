import AccruviaHarness.Library.Glob
import AccruviaHarness.Store.RunRecords

/-!
# The merge gate

`evaluate_run` decides whether a promoted run may be merged without a person.
-/

namespace AccruviaHarness

open Library

def defaultDeniedPaths : List String :=
  [".github/**", ".gitignore", "pyproject.toml", "setup.py", "setup.cfg",
    "bin/*", ".accruvia-harness/config.json", "**/.env", "**/.env.*",
    "secrets/**", "*.pem", "*.key"]

structure MergePolicy where
  deniedPaths : List String := defaultDeniedPaths
  requireCompilePass : Bool := true
  requireTestPass : Bool := true
  requireShipReady : Bool := true
  maxChangedFiles : Nat := 50
  targetBranch : String := "main"

structure MergeDecision where
  autoMerge : Bool
  runId : String
  taskId : String
  branchName : Option String
  changedFiles : List String := []
  reason : String := ""
  concerns : List String := []
  report : Option PyDict := none

def globTokens (pattern : List Char) : List (GlobToken Char) :=
  pattern.map fun character =>
    if character = '*' then .star
    else if character = '?' then .one
    else .exactly character

def fnmatch (text pattern : String) : Bool :=
  GlobToken.isMatch (globTokens pattern.toList) text.toList

variable (path : String)

/-- `path.replace("\\", "/")` without a leading `./`. -/
def normalizePath : String :=
  let characters := path.toList.map fun character => if character = '\\' then '/' else character
  String.ofList <|
    match characters with
    | '.' :: '/' :: rest => rest
    | _ => characters

/-- `path.rsplit("/", 1)[-1]`. -/
def baseName : String :=
  String.ofList (path.toList.reverse.takeWhile fun character => character ≠ '/').reverse

def matchesPattern (normalized pattern : String) : Bool :=
  fnmatch normalized pattern || ('/' ∉ pattern.toList && fnmatch (baseName normalized) pattern)

def matchesAny (patterns : List String) : Option String :=
  patterns.find? fun pattern => matchesPattern (normalizePath path) pattern

def lastSix (text : String) : String := String.ofList (text.toList.drop (text.toList.length - 6))

def branchForRun (store : Store) (runId : String) : Option String :=
  (store.getRun runId).map fun run => "harness-" ++ lastSix run.taskId ++ "-" ++ lastSix runId

/-- What `_load_report` returns for a path: none where the file cannot be read
or is no JSON, and an error where reading raises something else. -/
abbrev ReportReader := String → Except PyError (Option PyValue)

namespace MergeGate

/-- `not bool((report.get(key) or {}).get("passed"))`, where it is
required. -/
def checkFails (required : Bool) (report : PyDict) (key : String) : Except PyError Bool :=
  if required then do
    let check ← ((report.get key).orValue (.dict [])).requireDict
    return !(check.get "passed").truthy
  else .ok false

def changedFilesOf (report : PyDict) : Except PyError (List String) := do
  let items ← report.getList "changed_files"
  return items.map PyValue.toStr

def deniedPathConcerns (policy : MergePolicy) (changedFiles : List String) : List String :=
  changedFiles.filterMap fun path =>
    (matchesAny path policy.deniedPaths).map fun matched => "denied_path:" ++ path ++ ":" ++ matched

def concernsOf (policy : MergePolicy) (report : PyDict)
    (changedFiles : List String) (compileFails testFails : Bool) :
    List String :=
  (if policy.requireShipReady && !(report.get "ship_ready").truthy then
    ["self_review_not_ship_ready"] else []) ++
  (if compileFails then ["compile_check_not_passed"] else []) ++
  (if testFails then ["test_check_not_passed"] else []) ++
  (if report.getStr "overall_validation" = "fail" then ["validation_overall_failed"] else []) ++
  (if policy.maxChangedFiles < changedFiles.length then
    ["changed_files_over_cap:" ++ toString changedFiles.length ++ ">" ++
      toString policy.maxChangedFiles] else []) ++
  deniedPathConcerns policy changedFiles

def policyConcerns (policy : MergePolicy) (report : PyDict)
    (changedFiles : List String) : Except PyError (List String) := do
  let compileFails ← checkFails policy.requireCompilePass report "compile_check"
  let testFails ← checkFails policy.requireTestPass report "test_check"
  return concernsOf policy report changedFiles compileFails testFails

variable (store : Store)

def blocked (runId taskId reason concern : String) :
    MergeDecision where
  autoMerge := false
  runId
  taskId
  branchName := branchForRun store runId
  reason
  concerns := [concern]

def decisionOn (runId taskId : String) (report : PyDict)
    (changedFiles concerns : List String) : MergeDecision where
  autoMerge := concerns.isEmpty
  runId
  taskId
  branchName := branchForRun store runId
  changedFiles
  reason :=
    if concerns.isEmpty then "all policy checks passed"
    else toString concerns.length ++ " concern(s) block auto-merge"
  concerns
  report := some report

def judgeReport (runId taskId : String) (policy : MergePolicy) (report : PyDict) :
    Except PyError MergeDecision := do
  let changedFiles ← changedFilesOf report
  let concerns ← policyConcerns policy report changedFiles
  return decisionOn store runId taskId report changedFiles concerns

def reportArtifact (runId : String) : Option Artifact :=
  (store.listArtifacts runId).find? fun artifact => artifact.kind = "report"

def evaluateRun (readReport : ReportReader) (store : Store) (runId : String)
    (policy : MergePolicy) : Except PyError MergeDecision :=
  match store.getRun runId with
  | none =>
    .ok
      { autoMerge := false, runId, taskId := "", branchName := none, reason := "run not found"
        concerns := ["run_not_found"] }
  | some run =>
    match (store.listDecisions runId).getLast? with
    | none => .ok (blocked store runId run.taskId "no decision recorded" "no_decision")
    | some latest =>
      if latest.action ≠ .promote then
        .ok (blocked store runId run.taskId
          ("decision is " ++ latest.action.value ++ ", not promote")
          ("decision_not_promote:" ++ latest.action.value))
      else
        match reportArtifact store runId with
        | none => .ok (blocked store runId run.taskId "no report artifact" "missing_report")
        | some artifact => do
            let loaded ← readReport artifact.path
            let report ←
              ((loaded.getD .none).orValue (.dict [])).requireDict
            judgeReport store runId run.taskId policy report

structure ReportClears (report : PyDict) (changedFiles : List String) :
    Prop where
  listed : changedFilesOf report = .ok changedFiles
  shipReady : (report.get "ship_ready").truthy = true
  compiled : checkFails true report "compile_check" = .ok false
  tested : checkFails true report "test_check" = .ok false
  valid : report.getStr "overall_validation" ≠ "fail"
  capped : changedFiles.length ≤ 50
  uncaught : ∀ file ∈ changedFiles, matchesAny file defaultDeniedPaths = none

variable {report : PyDict} {changedFiles : List String} {store : Store} {runId : String}

theorem concernsOf_eq_nil_iff {compileFails testFails : Bool} :
    concernsOf {} report changedFiles compileFails testFails = [] ↔
      (report.get "ship_ready").truthy = true ∧ compileFails = false ∧
        testFails = false ∧ report.getStr "overall_validation" ≠ "fail" ∧ changedFiles.length ≤ 50 ∧
            ∀ file ∈ changedFiles, matchesAny file defaultDeniedPaths = none := by
  simp [concernsOf, deniedPathConcerns, List.append_eq_nil_iff, List.filterMap_eq_nil_iff]

theorem judgeReport_autoMerge_iff {taskId : String} :
    (∃ decision, judgeReport store runId taskId {} report = .ok decision ∧
        decision.autoMerge = true) ↔
      ∃ changedFiles, ReportClears report changedFiles := by
  unfold judgeReport
  constructor
  · rintro ⟨_, judged, merged⟩
    obtain ⟨changedFiles, listed, judged⟩ := exists_of_bind_ok judged
    obtain ⟨concerns, found, judged⟩ := exists_of_bind_ok judged
    cases judged
    have none : concerns = [] := List.isEmpty_iff.mp merged
    unfold policyConcerns at found
    obtain ⟨_, compiled, found⟩ := exists_of_bind_ok found
    obtain ⟨_, tested, found⟩ := exists_of_bind_ok found
    cases found
    obtain ⟨ready, rfl, rfl, valid, capped, uncaught⟩ := concernsOf_eq_nil_iff.mp none
    exact ⟨changedFiles, listed, ready, compiled, tested, valid, capped, uncaught⟩
  · rintro ⟨changedFiles, clears⟩
    have noConcern : policyConcerns {} report changedFiles = .ok [] := by
      have empty := concernsOf_eq_nil_iff.mpr
        ⟨clears.shipReady, rfl, rfl, clears.valid, clears.capped, clears.uncaught⟩
      unfold policyConcerns
      rw [clears.compiled, clears.tested]
      exact congrArg Except.ok empty
    refine ⟨decisionOn store runId taskId report changedFiles [], ?_, rfl⟩
    rw [clears.listed]
    dsimp only [bind, Except.bind]
    rw [noConcern]
    rfl

theorem ReportClears.nonempty (clears : ReportClears report changedFiles) : report ≠ [] := by
  rintro rfl
  have ready := clears.shipReady
  rw [PyDict.get_nil] at ready
  cases ready

theorem parsed_report_iff {loaded : Option PyValue} (nonempty : report ≠ []) :
    ((loaded.getD .none).orValue (.dict [])).requireDict = .ok report ↔
      loaded = some (.dict report) := by
  constructor
  · intro parsed
    unfold PyValue.orValue at parsed
    split at parsed
    next truthy =>
      cases loaded with
      | none => cases truthy
      | some value =>
        cases value with
        | dict _ =>
          cases parsed
          rfl
        | _ => cases parsed
    · cases parsed
      exact absurd rfl nonempty
  · rintro rfl
    have truthy : (PyValue.dict report).truthy = true := by simp [PyValue.truthy, nonempty]
    rw [Option.getD_some, PyValue.orValue, if_pos truthy]
    rfl

structure Clears (readReport : ReportReader) (store : Store) (runId : String)
    (report : PyDict) (changedFiles : List String) : Prop where
  stored : ∃ run, store.getRun runId = some run
  promoted : ∃ latest, (store.listDecisions runId).getLast? = some latest ∧
    latest.action = .promote
  recorded : ∃ artifact, reportArtifact store runId = some artifact ∧
    readReport artifact.path = .ok (some (.dict report))
  report : ReportClears report changedFiles

theorem autoMerge_iff_clears {readReport : ReportReader} :
    (∃ decision, evaluateRun readReport store runId {} = .ok decision ∧
        decision.autoMerge = true) ↔
      ∃ report changedFiles, Clears readReport store runId report changedFiles := by
  unfold evaluateRun
  constructor
  · rintro ⟨decision, evaluated, merged⟩
    split at evaluated
    · cases evaluated
      cases merged
    next run stored =>
      split at evaluated
      · cases evaluated
        cases merged
      next latest decided =>
        split at evaluated
        · cases evaluated
          cases merged
        next promotes =>
          have promotes : latest.action = .promote := not_not.mp promotes
          split at evaluated
          · cases evaluated
            cases merged
          next artifact attached =>
            obtain ⟨_, read, evaluated⟩ := exists_of_bind_ok evaluated
            obtain ⟨report, parsed, evaluated⟩ := exists_of_bind_ok evaluated
            obtain ⟨changedFiles, clears⟩ := judgeReport_autoMerge_iff.mp
              ⟨decision, evaluated, merged⟩
            refine ⟨report, changedFiles, ⟨run, stored⟩,
              ⟨latest, decided, promotes⟩, ⟨artifact, attached, ?_⟩, clears⟩
            rw [read, (parsed_report_iff clears.nonempty).mp parsed]
  · rintro ⟨_, changedFiles, ⟨_, stored⟩, ⟨_, decided, promotes⟩, ⟨_, attached, read⟩, clears⟩
    rw [stored]
    rw [decided]
    dsimp only
    rw [if_neg (not_not.mpr promotes), attached]
    dsimp only
    rw [read]
    dsimp only [bind, Except.bind]
    rw [(parsed_report_iff clears.nonempty).mpr rfl]
    exact judgeReport_autoMerge_iff.mpr ⟨changedFiles, clears⟩

end MergeGate

/-!
## What a merged run has touched

The denied patterns speak about the paths that a run's branch touches, and the
gate looks at the paths that the run's report lists. The gate is sound for a
run when the two line up.
-/

namespace MergeGate

/-- The pattern after a leading `**/`, which may stand for no directory. -/
def withoutDirectories (pattern : String) : Option String :=
  match pattern.toList with
  | '*' :: '*' :: '/' :: rest => some (String.ofList rest)
  | _ => none

/-- The pattern denies a path, with `**/` for zero or more directories. -/
def Denies (pattern path : String) : Prop :=
  matchesPattern (normalizePath path) pattern = true ∨
    ∃ rest, withoutDirectories pattern = some rest ∧ fnmatch (normalizePath path) rest = true

def DeniedPath (path : String) : Prop := ∃ pattern ∈ defaultDeniedPaths, Denies pattern path

def RootEnv (path : String) : Prop := path = ".env" ∨ ∃ rest, path = ".env." ++ rest

variable {text path : String}

theorem fnmatch_env_iff : fnmatch text ".env" = true ↔ text = ".env" := by
  have tokens : globTokens ".env".toList = ".env".toList.map .exactly := rfl
  unfold fnmatch
  rw [tokens, GlobToken.isMatch_iff, GlobToken.matches_literals_iff]
  exact String.toList_inj

theorem fnmatch_env_star_iff : fnmatch text ".env.*" = true ↔ ∃ rest, text = ".env." ++ rest := by
  have tokens : globTokens ".env.*".toList = ".env.".toList.map .exactly ++ [.star] := rfl
  unfold fnmatch
  rw [tokens, GlobToken.isMatch_iff, GlobToken.matches_literals_append_iff]
  constructor
  · rintro ⟨rest, split, _⟩
    refine ⟨String.ofList rest, String.toList_inj.mp ?_⟩
    simp [split]
  · rintro ⟨rest, rfl⟩
    exact ⟨rest.toList, String.toList_append, GlobToken.matches_star _⟩

theorem caught_iff :
    matchesAny path defaultDeniedPaths ≠ none ↔
      ∃ pattern ∈ defaultDeniedPaths, matchesPattern (normalizePath path) pattern = true := by
  unfold matchesAny
  rw [ne_eq, List.find?_eq_none]
  simp only [not_forall, Bool.not_eq_true, Bool.not_eq_false, exists_prop]

theorem deniedPath_iff :
    DeniedPath path ↔ matchesAny path defaultDeniedPaths ≠ none ∨ RootEnv (normalizePath path) := by
  unfold DeniedPath Denies
  simp only [and_or_left, exists_or]
  rw [← caught_iff]
  refine or_congr_right ?_
  constructor
  · rintro ⟨_, listed, _, dropped, matched⟩
    simp only [defaultDeniedPaths, List.mem_cons, List.not_mem_nil, or_false] at listed
    rcases listed with rfl | rfl | rfl | rfl | rfl | rfl | rfl | rfl | rfl |
      rfl | rfl | rfl
    case inr.inr.inr.inr.inr.inr.inr.inl =>
      cases dropped
      exact .inl (fnmatch_env_iff.mp matched)
    case inr.inr.inr.inr.inr.inr.inr.inr.inl =>
      cases dropped
      exact .inr (fnmatch_env_star_iff.mp matched)
    all_goals cases dropped
  · rintro (root | root)
    · exact ⟨"**/.env", by decide, ".env", rfl, fnmatch_env_iff.mpr root⟩
    · exact ⟨"**/.env.*", by decide, ".env.*", rfl, fnmatch_env_star_iff.mpr root⟩

structure RecordsPassed (report : PyDict) : Prop where
  shipReady : report.get "ship_ready" = .bool true
  compiled : ∃ check : PyDict, report.get "compile_check" = .dict check ∧
    check.get "passed" = .bool true
  tested : ∃ check : PyDict, report.get "test_check" = .dict check ∧ check.get "passed" = .bool true

structure SafeToMerge (readReport : ReportReader) (store : Store)
    (runId : String) (touched : List String) : Prop where
  promoted : ∃ latest, (store.listDecisions runId).getLast? = some latest ∧
    latest.action = .promote
  recorded : ∃ artifact report, reportArtifact store runId = some artifact ∧
    readReport artifact.path = .ok (some (.dict report)) ∧ RecordsPassed report
  undenied : ∀ path ∈ touched, ¬ DeniedPath path

def Sound (readReport : ReportReader) (store : Store) (runId : String)
    (touched : List String) : Prop :=
  ∀ decision, evaluateRun readReport store runId {} = .ok decision →
    decision.autoMerge = true → SafeToMerge readReport store runId touched

/-- A report lists what the branch touches, as far as the matcher denies it,
and no environment file is at the root. -/
structure LinesUp (report : PyDict) (changedFiles touched : List String) :
    Prop where
  passed : RecordsPassed report
  noRootEnv : ∀ path ∈ touched, ¬ RootEnv (normalizePath path)
  listed : ∀ path ∈ touched, matchesAny path defaultDeniedPaths ≠ none → path ∈ changedFiles

/-- The gate is sound for a run exactly when its report, if it clears the
checks, lines up with the branch. -/
theorem sound_iff (readReport : ReportReader) (store : Store) (runId : String)
    (touched : List String) :
    Sound readReport store runId touched ↔
      ∀ report changedFiles, Clears readReport store runId report changedFiles →
          LinesUp report changedFiles touched := by
  constructor
  · intro sound report changedFiles clears
    obtain ⟨decision, evaluated, merged⟩ := autoMerge_iff_clears.mpr ⟨report, changedFiles, clears⟩
    have safe := sound decision evaluated merged
    obtain ⟨artifact, other, attached, read, passed⟩ := safe.recorded
    obtain ⟨_, sameAttached, sameRead⟩ := clears.recorded
    have same : other = report := by
      cases attached.symm.trans sameAttached
      cases read.symm.trans sameRead
      rfl
    refine ⟨same ▸ passed, ?noRootEnv, ?listed⟩
    case noRootEnv =>
      intro path member root
      exact safe.undenied path member (deniedPath_iff.mpr (.inr root))
    case listed =>
      intro path member caught
      exact absurd (deniedPath_iff.mpr (.inl caught)) (safe.undenied path member)
  · intro linesUp decision evaluated merged
    obtain ⟨report, changedFiles, clears⟩ := autoMerge_iff_clears.mp ⟨decision, evaluated, merged⟩
    have lines := linesUp report changedFiles clears
    obtain ⟨artifact, attached, read⟩ := clears.recorded
    refine ⟨clears.promoted, ⟨artifact, report, attached, read, lines.passed⟩, ?_⟩
    intro path member denied
    rcases deniedPath_iff.mp denied with caught | root
    · have listed := lines.listed path member caught
      exact caught (clears.report.uncaught path listed)
    · exact lines.noRootEnv path member root

end MergeGate

end AccruviaHarness
