import AccruviaHarness.Merging.MergeGate

/-!
# When the merge gate answers

The gate is to answer for every report file, and to refuse a report that has
not the shape it expects.
-/

namespace AccruviaHarness

inductive ReportContent where
  /-- Reading the file raises an `OSError`. -/
  | missing
  /-- Its bytes are no UTF-8; the text is that of the `UnicodeDecodeError`. -/
  | undecodable (message : String)
  /-- `json.loads` raises a `JSONDecodeError`. -/
  | invalid
  /-- `json.loads` raises something else: at an integer with too many digits,
  or at too deep a nesting. -/
  | unparsable (error : PyError)
  | json (value : PyValue)

namespace MergeGate

def loadReport : ReportContent → Except PyError (Option PyValue)
  | .missing => .ok none
  | .undecodable message => .error (.valueError message)
  | .invalid => .ok none
  | .unparsable error => .error error
  | .json value => .ok (some value)

def readerOf (files : String → ReportContent) : ReportReader := fun path => loadReport (files path)

def ExpectedShapes (content : ReportContent) : Prop :=
  ∃ report : PyDict, content = .json (.dict report) ∧
    (∃ texts : List String, report.get "changed_files" = .list (texts.map .str)) ∧
      (∃ check, report.get "compile_check" = .dict check) ∧
        ∃ check, report.get "test_check" = .dict check

def Answers (files : String → ReportContent) (store : Store) (runId : String)
    (policy : MergePolicy) : Prop :=
  ∃ decision, evaluateRun (readerOf files) store runId policy = .ok decision ∧
    (decision.autoMerge = true → ∃ artifact, reportArtifact store runId = some artifact ∧
        ExpectedShapes (files artifact.path))

structure ReachesReport (store : Store) (runId : String)
    (artifact : Artifact) : Prop where
  stored : ∃ run, store.getRun runId = some run
  promoted : ∃ latest, (store.listDecisions runId).getLast? = some latest ∧
    latest.action = .promote
  attached : reportArtifact store runId = some artifact

def readObject : ReportContent → Option PyDict
  | .missing => some []
  | .undecodable _ => none
  | .invalid => some []
  | .unparsable _ => none
  | .json value => if value.truthy then value.asDict else some []

def IsCheck (value : PyValue) : Prop := value.truthy = true → ∃ check, value = .dict check

def IsFileList (value : PyValue) : Prop :=
  value.truthy = true → (∃ items, value = .list items) ∨ (∃ entries, value = .dict entries) ∨
      ∃ text, value = .str text

structure ReadsReport (policy : MergePolicy) (report : PyDict) : Prop where
  changedFiles : IsFileList (report.get "changed_files")
  compileCheck : policy.requireCompilePass = true → IsCheck (report.get "compile_check")
  testCheck : policy.requireTestPass = true → IsCheck (report.get "test_check")

/-- `passed` of a check. -/
def checkPassed (report : PyDict) (key : String) : Bool :=
  match report.get key with
  | .dict check => (PyDict.get check "passed").truthy
  | _ => false

def StopsReport (policy : MergePolicy) (report : PyDict) : Prop :=
  ∃ changedFiles, changedFilesOf report = .ok changedFiles ∧ concernsOf policy report changedFiles
        (policy.requireCompilePass && !checkPassed report "compile_check")
        (policy.requireTestPass && !checkPassed report "test_check") ≠ []

def GatedContent (policy : MergePolicy) (content : ReportContent) : Prop :=
  ∃ report, readObject content = some report ∧ ReadsReport policy report ∧
    (¬ ExpectedShapes content → StopsReport policy report)

section

variable {policy : MergePolicy} {report : PyDict} {key : String}

theorem requireDict_orValue_iff {value : PyValue} {found : PyDict} :
    (value.orValue (.dict [])).requireDict = .ok found ↔
      value.truthy = true ∧ value = .dict found ∨
        value.truthy = false ∧ found = [] := by
  unfold PyValue.orValue
  by_cases truthy : value.truthy = true
  · rw [if_pos truthy]
    cases value <;> simp [PyValue.requireDict, truthy]
  · rw [if_neg truthy, Bool.not_eq_true] at *
    simp [PyValue.requireDict, truthy, eq_comm]

theorem requireDict_eq_ok_iff {content : ReportContent} {loaded : Option PyValue}
    (read : loadReport content = .ok loaded) :
    ((loaded.getD .none).orValue (.dict [])).requireDict = .ok report ↔
      readObject content = some report := by
  rw [requireDict_orValue_iff]
  have falsy : PyValue.none.truthy = false := rfl
  cases content with
  | missing =>
    cases read
    simp [readObject, falsy, eq_comm]
  | undecodable _ => cases read
  | invalid =>
    cases read
    simp [readObject, falsy, eq_comm]
  | unparsable _ => cases read
  | json value =>
    cases read
    unfold readObject
    dsimp only
    by_cases truthy : value.truthy = true
    · rw [if_pos truthy, Option.getD_some]
      cases value <;> simp [PyValue.asDict, truthy]
    · rw [if_neg truthy, Option.getD_some]
      simp [truthy, eq_comm]

theorem changedFilesOf_returns_iff :
    (∃ changedFiles, changedFilesOf report = .ok changedFiles) ↔
      IsFileList (report.get "changed_files") := by
  unfold changedFilesOf PyDict.getList IsFileList
  generalize report.get "changed_files" = value
  by_cases truthy : value.truthy = true
  · rw [if_pos truthy]
    cases value <;> simp [truthy, PyValue.toList, bind, Except.bind, pure, Except.pure]
  · rw [if_neg truthy]
    simp [truthy, bind, Except.bind, pure, Except.pure]

theorem checkFails_eq_ok_iff {required fails : Bool} :
    checkFails required report key = .ok fails ↔ (required = true → IsCheck (report.get key)) ∧
        fails = (required && !checkPassed report key) := by
  cases required with
  | false => simp [checkFails, eq_comm]
  | true =>
    unfold checkFails IsCheck checkPassed
    rw [if_pos rfl]
    generalize report.get key = value
    constructor
    · intro returned
      obtain ⟨check, read, same⟩ := exists_of_bind_ok returned
      cases same
      rcases requireDict_orValue_iff.mp read with
        ⟨_, rfl⟩ | ⟨falsy, rfl⟩
      · exact ⟨fun _ _ => ⟨check, rfl⟩, rfl⟩
      · refine ⟨fun _ truthy => ?_, ?_⟩
        · rw [falsy] at truthy
          cases truthy
        · cases value with
          | dict entries =>
            have none : entries = [] := by simpa [PyValue.truthy] using falsy
            rw [none]
            rfl
          | _ => rfl
    · rintro ⟨isCheck, rfl⟩
      by_cases truthy : value.truthy = true
      · obtain ⟨_, rfl⟩ := isCheck rfl truthy
        rw [requireDict_orValue_iff.mpr (.inl ⟨truthy, rfl⟩)]
        rfl
      · rw [Bool.not_eq_true] at truthy
        rw [requireDict_orValue_iff.mpr (.inr ⟨truthy, rfl⟩)]
        cases value with
        | dict entries =>
          have none : entries = [] := by simpa [PyValue.truthy] using truthy
          rw [none]
          rfl
        | _ => rfl

end

section

variable {files : String → ReportContent} {store : Store} {runId : String}
  {policy : MergePolicy} {report : PyDict} {artifact : Artifact}

variable (store runId) in
theorem judgeReport_returns_iff (taskId : String) :
    (∃ decision, judgeReport store runId taskId policy report = .ok decision) ↔
      ReadsReport policy report := by
  unfold judgeReport policyConcerns
  constructor
  · rintro ⟨_, judged⟩
    obtain ⟨changedFiles, listed, judged⟩ := exists_of_bind_ok judged
    obtain ⟨_, found, _⟩ := exists_of_bind_ok judged
    obtain ⟨_, compiled, found⟩ := exists_of_bind_ok found
    obtain ⟨_, tested, _⟩ := exists_of_bind_ok found
    exact ⟨changedFilesOf_returns_iff.mp ⟨changedFiles, listed⟩,
      (checkFails_eq_ok_iff.mp compiled).1, (checkFails_eq_ok_iff.mp tested).1⟩
  · intro reads
    obtain ⟨changedFiles, listed⟩ := changedFilesOf_returns_iff.mpr reads.changedFiles
    rw [listed, checkFails_eq_ok_iff.mpr ⟨reads.compileCheck, rfl⟩,
      checkFails_eq_ok_iff.mpr ⟨reads.testCheck, rfl⟩]
    exact ⟨_, rfl⟩

theorem autoMerge_iff_of_judged {taskId : String} {decision : MergeDecision}
    (judged : judgeReport store runId taskId policy report = .ok decision) :
    decision.autoMerge = true ↔ ¬ StopsReport policy report := by
  unfold judgeReport policyConcerns at judged
  obtain ⟨changedFiles, listed, judged⟩ := exists_of_bind_ok judged
  obtain ⟨_, found, judged⟩ := exists_of_bind_ok judged
  obtain ⟨_, compiled, found⟩ := exists_of_bind_ok found
  obtain ⟨_, tested, found⟩ := exists_of_bind_ok found
  have compiles := (checkFails_eq_ok_iff.mp compiled).2
  have tests := (checkFails_eq_ok_iff.mp tested).2
  cases judged
  cases found
  show List.isEmpty _ = true ↔ _
  rw [List.isEmpty_iff, compiles, tests]
  constructor
  · rintro none ⟨_, relisted, some⟩
    rw [listed] at relisted
    cases relisted
    exact some none
  · intro free
    by_contra some
    exact free ⟨changedFiles, listed, some⟩

variable (files policy) in
theorem evaluateRun_of_reaches (reaches : ReachesReport store runId artifact) :
    ∃ taskId, evaluateRun (readerOf files) store runId policy =
      (do
        let loaded ← loadReport (files artifact.path)
        let report ← ((loaded.getD .none).orValue (.dict [])).requireDict
        judgeReport store runId taskId policy report) := by
  obtain ⟨run, stored⟩ := reaches.stored
  obtain ⟨_, decided, promotes⟩ := reaches.promoted
  refine ⟨run.taskId, ?_⟩
  unfold evaluateRun
  rw [stored]
  rw [decided]
  dsimp only
  rw [if_neg (not_not.mpr promotes), reaches.attached]
  rfl

variable (files policy) in
theorem refused_of_not_reaches (missed : ∀ artifact, ¬ ReachesReport store runId artifact) :
    ∃ decision, evaluateRun (readerOf files) store runId policy =
      .ok decision ∧ decision.autoMerge = false := by
  unfold evaluateRun
  cases stored : store.getRun runId with
  | none => exact ⟨_, rfl, rfl⟩
  | some run =>
    cases decided : (store.listDecisions runId).getLast? with
    | none => exact ⟨_, rfl, rfl⟩
    | some latest =>
      dsimp only
      by_cases promotes : latest.action = .promote
      · rw [if_neg (not_not.mpr promotes)]
        cases attached : reportArtifact store runId with
        | none => exact ⟨_, rfl, rfl⟩
        | some artifact =>
          exact absurd ⟨⟨run, stored⟩, ⟨latest, decided, promotes⟩, attached⟩ (missed artifact)
      · rw [if_pos promotes]
        exact ⟨_, rfl, rfl⟩

theorem answers_iff_of_reaches (reaches : ReachesReport store runId artifact) :
    Answers files store runId policy ↔ GatedContent policy (files artifact.path) := by
  obtain ⟨taskId, evaluates⟩ := evaluateRun_of_reaches files policy reaches
  unfold Answers
  rw [evaluates]
  constructor
  · rintro ⟨decision, evaluated, expected⟩
    obtain ⟨loaded, read, evaluated⟩ := exists_of_bind_ok evaluated
    obtain ⟨report, parsed, judged⟩ := exists_of_bind_ok evaluated
    refine ⟨report, (requireDict_eq_ok_iff read).mp parsed,
      (judgeReport_returns_iff _ _ _).mp ⟨decision, judged⟩, ?_⟩
    intro unexpected
    by_contra free
    obtain ⟨other, attached, shapes⟩ := expected ((autoMerge_iff_of_judged judged).mpr free)
    rw [reaches.attached] at attached
    cases attached
    exact unexpected shapes
  · rintro ⟨_, parsed, reads, stops⟩
    obtain ⟨decision, judged⟩ := (judgeReport_returns_iff store runId taskId).mpr reads
    cases read : loadReport (files artifact.path) with
    | error _ =>
      cases content : files artifact.path with
      | undecodable _ =>
        rw [content] at parsed
        cases parsed
      | unparsable _ =>
        rw [content] at parsed
        cases parsed
      | _ =>
        rw [content] at read
        cases read
    | ok _ =>
      refine ⟨decision, ?_, ?_⟩
      · dsimp only [bind, Except.bind]
        rw [(requireDict_eq_ok_iff read).mpr parsed]
        exact judged
      · intro merged
        refine ⟨artifact, reaches.attached, ?_⟩
        by_contra unexpected
        exact (autoMerge_iff_of_judged judged).mp merged (stops unexpected)

/-- The gate answers for a run exactly when it does not come to a report, or
the report's file has a content that it answers for. -/
theorem gate_answers_iff (files : String → ReportContent) (store : Store) (runId : String)
    (policy : MergePolicy) :
    Answers files store runId policy ↔ ∀ artifact, ReachesReport store runId artifact →
        GatedContent policy (files artifact.path) := by
  constructor
  · intro answers artifact reaches
    exact (answers_iff_of_reaches reaches).mp answers
  · intro gated
    by_cases reached : ∃ artifact, ReachesReport store runId artifact
    · obtain ⟨artifact, reaches⟩ := reached
      exact (answers_iff_of_reaches reaches).mpr (gated artifact reaches)
    · obtain ⟨decision, evaluated, refused⟩ := refused_of_not_reaches
        files policy (not_exists.mp reached)
      refine ⟨decision, evaluated, fun merged => ?_⟩
      rw [refused] at merged
      cases merged

end

section

def auditedStore : Store where
  runs := .single
    { id := "run", taskId := "task", status := .completed, attempt := 1 }
  decisions := [{ id := "decision", runId := "run", action := .promote }]
  artifacts := [{ id := "artifact", runId := "run", kind := "report", path := "report" }]

def passedReport (changedFiles : PyValue) : ReportContent :=
  .json <| .dict [("ship_ready", .bool true), ("changed_files", changedFiles),
      ("compile_check", .dict [("passed", .bool true)]),
      ("test_check", .dict [("passed", .bool true)])]

/-- The gate raises at a number of changed files and at bytes that are no
UTF-8, and merges a text of changed files. -/
theorem gate_fails_on_reports :
    ¬ Answers (fun _ => passedReport (.int 5)) auditedStore "run" {} ∧
      ¬ Answers (fun _ => .undecodable "invalid start byte") auditedStore "run" {} ∧
        ¬ Answers (fun _ => passedReport (.str "src/app.py")) auditedStore "run" {} := by
  refine ⟨?number, ?bytes, ?text⟩
  case number =>
    rintro ⟨decision, evaluated, _⟩
    revert evaluated
    have raised : evaluateRun (readerOf fun _ => passedReport (.int 5)) auditedStore "run" {} =
          .error (.typeError "'int' object is not iterable") := rfl
    rw [raised]
    exact nofun
  case bytes =>
    rintro ⟨decision, evaluated, _⟩
    revert evaluated
    have raised : evaluateRun (readerOf fun _ => .undecodable "invalid start byte") auditedStore
          "run" {} = .error (.valueError "invalid start byte") := rfl
    rw [raised]
    exact nofun
  case text =>
    rintro ⟨_, evaluated, expected⟩
    have merges : (evaluateRun (readerOf fun _ => passedReport (.str "src/app.py")) auditedStore
          "run" {}).map MergeDecision.autoMerge = .ok true := by
      decide +kernel
    rw [evaluated] at merges
    obtain ⟨_, _, _, content, ⟨_, listed⟩, _⟩ := expected (Except.ok.inj merges)
    cases content
    cases listed

end

end MergeGate

end AccruviaHarness
