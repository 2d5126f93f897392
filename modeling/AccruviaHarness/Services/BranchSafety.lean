import AccruviaHarness.Services.BranchService

/-!
# The winner of a branching

The branch path analyses the work of a branch by its artifacts unless it was
blocked, and it never asks the validation service.
-/

namespace AccruviaHarness

open Library List

namespace DefaultAnalyzer

variable (task : Task) (artifacts : List Artifact)

def Covers : Prop :=
  artifacts ≠ [] ∧ ∀ kind ∈ task.requiredArtifacts, kind ∈ artifacts.map Artifact.kind

instance coversDecidable (task : Task) :
    DecidablePred (Covers task) := fun _ =>
  inferInstanceAs (Decidable (_ ∧ _))

theorem analyze_acceptable_iff :
    (analyze task artifacts).verdict = .acceptable ↔ Covers task artifacts := by
  have noneMissing : (sortedSet (task.requiredArtifacts.filter fun kind =>
      !(sortedSet (artifacts.map Artifact.kind)).contains kind)).isEmpty = true ↔
      ∀ kind ∈ task.requiredArtifacts, kind ∈ artifacts.map Artifact.kind := by
    rw [List.isEmpty_iff, List.eq_nil_iff_forall_not_mem]
    simp [mem_sortedSet]
  unfold analyze Covers
  dsimp only
  rw [← noneMissing, Ne, ← List.isEmpty_iff]
  split_ifs with empty missing
  · simp [empty]
  · simpa [empty] using missing
  · simpa [empty] using missing

theorem analyzeWork_acceptable_iff (work : WorkResult) (artifacts : List Artifact) :
    (analyzeWork task work artifacts).verdict = .acceptable ↔
      work.outcome ≠ "blocked" ∧ work.outcome ≠ "failed" ∧ Covers task artifacts := by
  unfold analyzeWork
  split_ifs with blockedOutcome failedOutcome
  · simp [blocked, unsuccessful, blockedOutcome]
  · simp [failed, unsuccessful, failedOutcome]
  · rw [analyze_acceptable_iff]
    exact ⟨fun covers => ⟨blockedOutcome, failedOutcome, covers⟩, fun accepted => accepted.2.2⟩

end DefaultAnalyzer

namespace RunService

open DefaultAnalyzer

variable (store : Store) (answers : RunAnswers)

def recordedArtifacts (run : Run) (work : WorkResult) : List Artifact :=
  orderBy Store.ArtifactOrder <| (store.artifacts ++ artifactRows answers run work.artifacts).filter
      fun artifact => artifact.runId = run.id

theorem listArtifacts_recordArtifacts (run : Run) (work : WorkResult) :
    (recordArtifacts answers run work.artifacts store).listArtifacts run.id =
      recordedArtifacts store answers run work := by
  rw [recordArtifacts_eq]
  rfl

variable (task : Task)

def validationAnalysis (answers : RunAnswers) (run : Run) (work : WorkResult) : AnalyzeResult :=
  let work := validatedWork answers work
  analyzeWork task work (recordedArtifacts store answers run work)

theorem evaluations_applyTaskStatusForRun
    {store next : Store} {taskId : String} {status applied : TaskStatus}
    (ended : store.applyTaskStatusForRun taskId status = .ok (next, applied)) :
    next.evaluations = store.evaluations := by
  unfold Store.applyTaskStatusForRun at ended
  split at ended
  · cases ended
  · cases ended
    rfl
  · cases updated : store.updateTaskStatus taskId status with
    | error _ =>
      rw [updated] at ended
      cases ended
    | ok _ =>
      rw [updated] at ended
      cases ended
      obtain ⟨_, rfl⟩ := Store.updateTaskStatus_eq_ok_iff.mp updated
      rfl

def evaluationRow (runId : String) (analysis : AnalyzeResult) : Evaluation where
  id := answers.evaluationId
  runId
  verdict := analysis.verdict
  summary := analysis.summary
  details := analysis.details
  createdAt := answers.now

theorem concludeRun_evaluates (run : Run) (work : WorkResult) (answers : RunAnswers) :
    ∃ evaluation, evaluation.runId = run.id ∧
      evaluation.verdict = (analyzeWork task work
        (recordedArtifacts store answers run work)).verdict ∧
      (concludeRun store task run work answers).1.evaluations =
        store.evaluations ++ [evaluation] := by
  have recorded :
      (recordArtifacts answers run work.artifacts store).evaluations =
        store.evaluations := by
    rw [recordArtifacts_eq]
  unfold concludeRun
  dsimp only
  refine ⟨evaluationRow answers run.id (analyzeWork task work
    (recordedArtifacts store answers run work)), rfl, rfl, ?_⟩
  rw [← recorded, ← listArtifacts_recordArtifacts]
  split
  · rfl
  · rename_i next applied ended
    rw [evaluations_applyTaskStatusForRun ended]
    rfl

def HasEvidence (work : WorkResult) : Prop :=
  (diagnosticsOf work).getStr "worker_outcome" ≠ "candidate" ∧
    ((diagnosticsOf work).get "compile_check").asDict.isSome ∧
      ((diagnosticsOf work).get "test_check").asDict.isSome

/-- What the validation phase asks of work that was not blocked and left the
required artifacts: it did not fail, and when it is a candidate that is still
to be validated, the validation service answers with evidence and an accepted
result. -/
def PassesValidation (answers : RunAnswers) (run : Run) (work : WorkResult) : Prop :=
  work.outcome ≠ "failed" ∧ (needsExternalValidation work = true →
      ∃ result, answers.validated = some result ∧ HasEvidence result ∧
        result.outcome ≠ "blocked" ∧ result.outcome ≠ "failed" ∧
          Covers task (recordedArtifacts store answers run result))

theorem enforceValidationEvidence_cases (work : WorkResult) :
    (HasEvidence work ∧ enforceValidationEvidence work = work) ∨ (¬ HasEvidence work ∧
        (enforceValidationEvidence work).outcome = "failed") := by
  unfold enforceValidationEvidence HasEvidence
  dsimp only
  split_ifs with missing
  · refine .inr ⟨?_, rfl⟩
    rintro ⟨settled, compiled, tested⟩
    obtain ⟨_, compileFound⟩ := Option.isSome_iff_exists.mp compiled
    obtain ⟨_, testFound⟩ := Option.isSome_iff_exists.mp tested
    rw [compileFound, testFound] at missing
    simp [settled, PyValue.asDict] at missing
  · refine .inl ⟨?_, rfl⟩
    obtain ⟨settled, others⟩ := not_or.mp missing
    obtain ⟨compiled, tested⟩ := not_or.mp others
    refine ⟨settled, ?_, ?_⟩
    · rcases found : ((diagnosticsOf work).get "compile_check").asDict with
        _ | entries
      · rw [found] at compiled
        exact absurd rfl compiled
      · rfl
    · rcases found : ((diagnosticsOf work).get "test_check").asDict with
        _ | entries
      · rw [found] at tested
        exact absurd rfl tested
      · rfl

theorem validationAnalysis_acceptable_iff
    {store : Store} {task : Task} {answers : RunAnswers} {run : Run}
    {work : WorkResult} (unblocked : work.outcome ≠ "blocked")
    (covers : Covers task (recordedArtifacts store answers run work)) :
    (validationAnalysis store task answers run work).verdict = .acceptable ↔
      PassesValidation store task answers run work := by
  unfold validationAnalysis PassesValidation validatedWork
  rw [analyzeWork_acceptable_iff]
  by_cases external : needsExternalValidation work = true
  · have succeeded : work.outcome = "success" := by
      unfold needsExternalValidation at external
      simp only [Bool.and_eq_true, decide_eq_true_eq] at external
      exact external.1.1
    have unfailed : work.outcome ≠ "failed" := by
      rw [succeeded]
      decide
    have unsettled : ¬ HasEvidence work := by
      unfold needsExternalValidation at external
      simp only [Bool.and_eq_true, decide_eq_true_eq] at external
      have candidate := external.1.2
      intro evidence
      apply evidence.1
      unfold PyDict.getStr
      rcases value : (diagnosticsOf work).get "worker_outcome" with
        _ | _ | _ | _ | text | _ | _ <;>
        rw [value] at candidate <;>
        simp only [PyValue.isText, Bool.false_eq_true, beq_iff_eq] at candidate
      subst candidate
      rfl
    rw [if_pos external]
    rcases validated : answers.validated with _ | result
    · obtain ⟨absurdly, _⟩ | ⟨_, failed⟩ := enforceValidationEvidence_cases work
      · exact absurd absurdly unsettled
      · simp [failed, external]
    · rw [Option.getD_some]
      obtain ⟨evidence, same⟩ | ⟨missing, failed⟩ := enforceValidationEvidence_cases result
      · rw [same]
        simp [unfailed, external, evidence]
      · simp [failed, external, missing]
  · rw [if_neg external]
    simp [external, unblocked, covers]

end RunService

namespace BranchService

open RunService DefaultAnalyzer

/-- `min(count or task.max_branches, task.max_branches)`. -/
def branchCount (task : Task) (count : Option Int) : Int :=
  let asked :=
    match count with
    | some count => if count = 0 then task.maxBranches else count
    | none => task.maxBranches
  min asked task.maxBranches

variable (store : Store)

/-- `create_branches` with its count. -/
def createBranchesOf (taskId : String) (count : Option Int)
    (answers : BranchAnswers) : Store × Except PyError (List Run) :=
  match store.getTask taskId with
  | none => (store, .error (.valueError ("Unknown task: " ++ taskId)))
  | some task =>
    match store.getProject task.projectId with
    | none => (store, .error (.valueError ("Unknown project for task: " ++ task.projectId)))
    | some _ =>
      let branchCount := branchCount task count
      if branchCount < 2 then
        (store, .error (.valueError ("Branching requires max_branches >= 2, got " ++
            toString task.maxBranches)))
      else
        match store.updateTaskStatus task.id .active with
        | .error error => (store, .error error)
        | .ok store =>
          runBranches task answers (store.nextAttempt task.id)
            branchCount (List.range branchCount.toNat) store

theorem createBranches_eq (taskId : String) (answers : BranchAnswers) :
    createBranches store taskId answers = createBranchesOf store taskId none answers := by
  unfold createBranches createBranchesOf
  cases store.getTask taskId with
  | none => rfl
  | some task =>
    have all : branchCount task none = task.maxBranches := min_self task.maxBranches
    dsimp only
    generalize branchCount task none = count at all
    subst all
    rfl

def branchArtifacts (answers : RunAnswers) (run : Run) : List Artifact :=
  match answers.workResult with
  | .ok work => recordedArtifacts store answers run work
  | .error _ => []

variable (task : Task) (answers : RunAnswers)

def Contends (run : Run) : Prop :=
  ∃ work ∈ answers.workResult.toOption, work.outcome ≠ "blocked" ∧
    Covers task (recordedArtifacts store answers run work)

instance contendsDecidable (store : Store) (task : Task) (answers : RunAnswers) (run : Run) :
    Decidable (Contends store task answers run) :=
  inferInstanceAs (Decidable (∃ work ∈ answers.workResult.toOption, work.outcome ≠ "blocked" ∧
      Covers task (recordedArtifacts store answers run work)))

theorem branchAnalysis_acceptable_iff (work : WorkResult) (artifacts : List Artifact) :
    (branchAnalysis task work artifacts).verdict = .acceptable ↔
      work.outcome ≠ "blocked" ∧ Covers task artifacts := by
  unfold branchAnalysis
  split_ifs with blockedOutcome
  · simp [blocked, unsuccessful, blockedOutcome]
  · rw [analyze_acceptable_iff]
    exact (and_iff_right blockedOutcome).symm

def finishedRun (run : Run) : Run :=
  match answers.workResult with
  | .ok work =>
    let analysis := branchAnalysis task work (recordedArtifacts store answers run work)
    { run with
      status := if analysis.verdict = .acceptable then .completed
        else .failed
      summary := analysis.summary }
  | .error _ => run

theorem finishedRun_eq (run : Run) :
    ∃ status summary, finishedRun store task answers run = { run with status, summary } := by
  unfold finishedRun
  cases answers.workResult with
  | ok _ => exact ⟨_, _, rfl⟩
  | error _ => exact ⟨_, _, rfl⟩

theorem finishedRun_id (run : Run) : (finishedRun store task answers run).id = run.id := by
  obtain ⟨_, _, finished⟩ := finishedRun_eq store task answers run
  rw [finished]

variable {store : Store} {task : Task} {answers : RunAnswers} {run : Run}

theorem finishedRun_completed_iff {work : WorkResult} (worked : answers.workResult = .ok work) :
    (finishedRun store task answers run).status = .completed ↔ Contends store task answers run := by
  have judged := branchAnalysis_acceptable_iff task work (recordedArtifacts store answers run work)
  have contends : Contends store task answers run ↔ work.outcome ≠ "blocked" ∧
        Covers task (recordedArtifacts store answers run work) := by
    simp [Contends, worked, Except.toOption]
  rw [contends, ← judged]
  simp only [finishedRun, worked]
  split_ifs with accepted
  · simp [accepted]
  · simp [accepted]

structure BranchLeft (store : Store) (task : Task) (answers : RunAnswers)
    (run : Run) (next : Store) : Prop where
  worked : ∃ work, answers.workResult = .ok work
  tasks : next.tasks = store.tasks
  runs : next.runs.rows = store.runs.rows ++ [finishedRun store task answers run]
  artifacts : ∃ rows, next.artifacts = store.artifacts ++ rows ∧ ∀ row ∈ rows, row.runId = run.id
  recorded : next.listArtifacts run.id = branchArtifacts store answers run
  evaluations : ∃ evaluation, evaluation.runId = run.id ∧
    next.evaluations = store.evaluations ++ [evaluation]

theorem runBranch_left {next : Store} {finished : Run}
    (ended : runBranch store task answers run = (next, .ok finished)) :
    BranchLeft store task answers run next := by
  unfold runBranch at ended
  cases inserted : store.createRun run with
  | none =>
    simp only [inserted] at ended
    cases ended
  | some _ =>
    simp only [inserted] at ended
    have fresh := Store.fresh_of_createRun inserted
    obtain ⟨runs, insertedRow, rfl⟩ := Option.map_eq_some_iff.mp inserted
    have rows := KeyedTable.rows_of_insert? insertedRow
    cases worked : answers.workResult with
    | error _ =>
      simp only [worked] at ended
      cases ended
    | ok work =>
      simp only [worked, recordArtifacts_eq] at ended
      have opened : OpenRun { store with runs } store.runs.rows run := ⟨⟨_, _, rows⟩, fresh⟩
      have working := opened.markRun .working answers.planSummary
      have analysing := working.markRun .analyzing work.summary
      cases ended
      refine ⟨⟨work, worked⟩, rfl, ?_, ?_, ?_,
        evaluationRow answers run.id (branchAnalysis task work
          (recordedArtifacts store answers run work)), rfl, ?_⟩
      · simp only [finishedRun, worked]
        exact rows_markRun analysing _ _
      · exact ⟨_, rfl, fun row member => runId_of_mem_artifactRows member⟩
      · rw [branchArtifacts, worked]
        rfl
      · rfl

variable {later : Store} {rows : List Artifact}

theorem listArtifacts_of_others {runId : String} (added : later.artifacts = store.artifacts ++ rows)
    (others : ∀ row ∈ rows, row.runId ≠ runId) :
    later.listArtifacts runId = store.listArtifacts runId := by
  have none : rows.filter (fun artifact => artifact.runId = runId) = [] := by
    apply filter_eq_nil_iff.mpr
    intro row member
    simpa using others row member
  unfold Store.listArtifacts
  rw [added, filter_append, none, append_nil]

theorem recordedArtifacts_of_others
    {store later : Store} {rows : List Artifact} {answers : RunAnswers}
    {run : Run} {work : WorkResult}
    (added : later.artifacts = store.artifacts ++ rows)
    (others : ∀ row ∈ rows, row.runId ≠ run.id) :
    recordedArtifacts later answers run work = recordedArtifacts store answers run work := by
  have none : rows.filter (fun artifact => artifact.runId = run.id) = [] := by
    apply filter_eq_nil_iff.mpr
    intro row member
    simpa using others row member
  unfold recordedArtifacts
  simp only [added, filter_append, none, append_nil]

theorem finishedRun_of_others (added : later.artifacts = store.artifacts ++ rows)
    (others : ∀ row ∈ rows, row.runId ≠ run.id) :
    finishedRun later task answers run = finishedRun store task answers run ∧
      branchArtifacts later answers run = branchArtifacts store answers run := by
  unfold finishedRun branchArtifacts
  cases answers.workResult with
  | error _ => exact ⟨rfl, rfl⟩
  | ok work =>
    have same := @recordedArtifacts_of_others store later rows answers run work added others
    simp only [same, and_self]

section

variable (task : Task) (answers : BranchAnswers) (attempt count : Int)

structure BranchesLeft (store : Store) (indices : List Nat)
    (next : Store) : Prop where
  worked : ∀ index ∈ indices, ∃ work, (answers.run index).workResult = .ok work
  tasks : next.tasks = store.tasks
  runs : next.runs.rows = store.runs.rows ++ indices.map fun index =>
    finishedRun store task (answers.run index) (branchRun task answers attempt count index)
  artifacts : ∃ rows, next.artifacts = store.artifacts ++ rows ∧
    ∀ row ∈ rows, ∃ index ∈ indices,
      row.runId = (answers.run index).runId
  recorded : ∀ index ∈ indices,
    next.listArtifacts (answers.run index).runId = branchArtifacts store (answers.run index)
        (branchRun task answers attempt count index)
  evaluated : ∀ index ∈ indices, ∃ evaluation ∈ next.evaluations,
    evaluation.runId = (answers.run index).runId
  evaluations : ∀ evaluation ∈ store.evaluations, evaluation ∈ next.evaluations

variable {store next : Store} {index : Nat}

theorem distinct_of_branches {middle : Store} {later : List Nat}
    (first : middle.runs.rows = store.runs.rows ++ [finishedRun store task (answers.run index)
        (branchRun task answers attempt count index)])
    (rest : next.runs.rows = middle.runs.rows ++ later.map fun other =>
      finishedRun middle task (answers.run other) (branchRun task answers attempt count other)) :
    ∀ other ∈ later, (answers.run other).runId ≠ (answers.run index).runId := by
  intro other member same
  have nodup := next.runs.keysNodup
  rw [rest, first, map_append, nodup_append] at nodup
  refine nodup.2.2 (answers.run index).runId ?_ (answers.run other).runId ?_ same.symm
  · rw [map_append]
    apply mem_append_right
    rw [map_singleton, finishedRun_id]
    exact mem_singleton_self _
  · rw [map_map]
    refine mem_map.mpr ⟨other, member, ?_⟩
    exact finishedRun_id middle task (answers.run other) _

theorem runBranches_left {indices : List Nat} {runs : List Run}
    (ended : runBranches task answers attempt count indices store = (next, .ok runs)) :
    BranchesLeft task answers attempt count store indices next := by
  induction indices generalizing store runs with
  | nil =>
    cases ended
    exact ⟨forall_mem_nil _, rfl, (append_nil _).symm,
      ⟨[], (append_nil _).symm, forall_mem_nil _⟩,
      forall_mem_nil _, forall_mem_nil _,
      fun _ member => member⟩
  | cons index later ih =>
    unfold runBranches at ended
    rcases first : runBranch store task (answers.run index)
      (branchRun task answers attempt count index) with
      ⟨middle, error | run⟩
    · simp only [first] at ended
      cases ended
    · simp only [first] at ended
      rcases rest : runBranches task answers attempt count later middle with ⟨_, _ | _⟩
      · simp only [rest] at ended
        cases ended
      · simp only [rest] at ended
        cases ended
        have own := runBranch_left first
        have others := ih rest
        have distinct := distinct_of_branches task answers attempt count own.runs others.runs
        obtain ⟨_, ownAdded, ownNamed⟩ := own.artifacts
        obtain ⟨_, otherAdded, otherNamed⟩ := others.artifacts
        have independent : ∀ other ∈ later, finishedRun middle task (answers.run other)
                  (branchRun task answers attempt count other) =
                finishedRun store task (answers.run other)
                  (branchRun task answers attempt count other) ∧
              branchArtifacts middle (answers.run other)
                  (branchRun task answers attempt count other) =
                branchArtifacts store (answers.run other)
                  (branchRun task answers attempt count other) := by
          intro other member
          apply finishedRun_of_others ownAdded
          intro row rowMember same
          exact distinct other member (same.symm.trans (ownNamed row rowMember))
        refine ⟨?worked, others.tasks.trans own.tasks, ?runs, ?artifacts,
          ?recorded, ?evaluated, ?evaluations⟩
        case worked => exact forall_mem_cons.mpr ⟨own.worked, others.worked⟩
        case runs =>
          rw [others.runs, own.runs, append_assoc, map_cons]
          congr 1
          rw [singleton_append]
          congr 1
          exact map_congr_left fun other member => (independent other member).1
        case artifacts =>
          rw [otherAdded, ownAdded, append_assoc]
          refine ⟨_, rfl, ?_⟩
          intro row member
          rcases mem_append.mp member with ownRow | otherRow
          · exact ⟨index, mem_cons_self, ownNamed row ownRow⟩
          · obtain ⟨other, otherMember, named⟩ := otherNamed row otherRow
            exact ⟨other, mem_cons_of_mem index otherMember, named⟩
        case recorded =>
          rw [forall_mem_cons]
          constructor
          · rw [← own.recorded]
            apply listArtifacts_of_others otherAdded
            intro row member same
            obtain ⟨other, otherMember, named⟩ := otherNamed row member
            exact distinct other otherMember (named.symm.trans same)
          · intro other member
            rw [others.recorded other member]
            exact (independent other member).2
        case evaluated =>
          obtain ⟨evaluation, named, stored⟩ := own.evaluations
          rw [forall_mem_cons]
          refine ⟨⟨evaluation, others.evaluations evaluation ?_, named⟩, others.evaluated⟩
          rw [stored]
          exact mem_append_right _ mem_cons_self
        case evaluations =>
          intro evaluation member
          obtain ⟨_, _, stored⟩ := own.evaluations
          apply others.evaluations
          rw [stored]
          exact mem_append_left _ member

def CreationOrder (first second : Nat) : Prop := (answers.run first).now ≤ (answers.run second).now

instance creationOrderDecidable : DecidableRel (CreationOrder answers) :=
  fun _ _ => inferInstanceAs (Decidable (_ ≤ _))

def contenders (store : Store) : List Nat :=
  (orderBy (CreationOrder answers) (List.range count.toNat)).filter
    fun index => Contends store task (answers.run index)
      (branchRun task answers attempt count index)

def ArtifactCountOrder (store : Store) (first second : Nat) : Prop :=
  (branchArtifacts store (answers.run second)
      (branchRun task answers attempt count second)).length ≤
    (branchArtifacts store (answers.run first) (branchRun task answers attempt count first)).length

instance artifactCountOrderDecidable (store : Store) :
    DecidableRel (ArtifactCountOrder task answers attempt count store) :=
  fun _ _ => inferInstanceAs (Decidable (_ ≤ _))

instance artifactCountOrderTotal (store : Store) :
    Std.Total (ArtifactCountOrder task answers attempt count store) where
  total _ _ := Nat.le_total _ _

instance artifactCountOrderTrans (store : Store) :
    IsTrans Nat (ArtifactCountOrder task answers attempt count store) where
  trans _ _ _ first second := Nat.le_trans second first

def leadingBranch (store : Store) : Option Nat :=
  let among := contenders task answers attempt count store
  among.find? (precedesAll (ArtifactCountOrder task answers attempt count store) among)

variable {task answers attempt count}

theorem listRuns_branches (left : BranchesLeft task answers attempt count store
      (List.range count.toNat) next)
    (newBranch : ∀ run ∈ store.runs.rows, run.branchId ≠ some answers.branchId) :
    (next.listRuns task.id).filter (fun run => run.branchId = some answers.branchId) =
      (orderBy (CreationOrder answers) (List.range count.toNat)).map
        fun index => finishedRun store task (answers.run index)
          (branchRun task answers attempt count index) := by
  have rows : (next.runsOf task.id).filter (fun run => run.branchId = some answers.branchId) =
      (List.range count.toNat).map fun index =>
        finishedRun store task (answers.run index)
          (branchRun task answers attempt count index) := by
    unfold Store.runsOf
    rw [filter_filter, left.runs, filter_append,
      filter_eq_nil_iff.mpr, nil_append, filter_eq_self.mpr]
    · intro run member
      obtain ⟨index, _, rfl⟩ := mem_map.mp member
      obtain ⟨_, _, finished⟩ := finishedRun_eq store task
        (answers.run index) (branchRun task answers attempt count index)
      rw [finished]
      simp [branchRun]
    · intro run member
      simp [newBranch run member]
  unfold Store.listRuns
  rw [← orderBy_filter, rows]
  symm
  apply map_insertionSort
  intro first _ second _
  obtain ⟨_, _, firstRun⟩ := finishedRun_eq store task
    (answers.run first) (branchRun task answers attempt count first)
  obtain ⟨_, _, secondRun⟩ := finishedRun_eq store task
    (answers.run second) (branchRun task answers attempt count second)
  rw [firstRun, secondRun]
  rfl

theorem completedRuns_branches (left : BranchesLeft task answers attempt count store
      (List.range count.toNat) next)
    (newBranch : ∀ run ∈ store.runs.rows, run.branchId ≠ some answers.branchId) :
    ((next.listRuns task.id).filter (fun run => run.branchId = some answers.branchId)).filter
          (fun run => run.status = .completed) =
      (contenders task answers attempt count store).map
        fun index => finishedRun store task (answers.run index)
          (branchRun task answers attempt count index) := by
  rw [listRuns_branches left newBranch, filter_map, contenders]
  congr 1
  apply filter_congr
  intro index member
  obtain ⟨_, worked⟩ := left.worked index ((mem_orderBy _).mp member)
  exact decide_eq_decide.mpr (finishedRun_completed_iff worked)

theorem mem_contenders :
    index ∈ contenders task answers attempt count store ↔
      index < count.toNat ∧ Contends store task (answers.run index)
        (branchRun task answers attempt count index) := by
  simp [contenders]

theorem winnerScore_branches (left : BranchesLeft task answers attempt count store
      (List.range count.toNat) next) (inRange : index < count.toNat) :
    winnerScore next (finishedRun store task (answers.run index)
        (branchRun task answers attempt count index)) =
      80 + (branchArtifacts store (answers.run index)
        (branchRun task answers attempt count index)).length := by
  have member := mem_range.mpr inRange
  obtain ⟨evaluation, stored, named⟩ := left.evaluated index member
  have evaluated : (next.listEvaluations (answers.run index).runId).isEmpty = false := by
    rw [isEmpty_eq_false_iff_exists_mem]
    exact ⟨evaluation, mem_filter.mpr ⟨stored, by simp [named]⟩⟩
  have own : (finishedRun store task (answers.run index)
      (branchRun task answers attempt count index)).id = (answers.run index).runId :=
    finishedRun_id store task (answers.run index) _
  unfold winnerScore
  rw [own, evaluated, left.recorded index member]
  rfl

theorem winner_branches (left : BranchesLeft task answers attempt count store
      (List.range count.toNat) next)
    (newBranch : ∀ run ∈ store.runs.rows, run.branchId ≠ some answers.branchId) :
    (orderBy (ScoreOrder next) (((next.listRuns task.id).filter
          (fun run => run.branchId = some answers.branchId)).filter
            (fun run => run.status = .completed))).head? =
      (leadingBranch task answers attempt count store).map
        fun index => finishedRun store task (answers.run index)
          (branchRun task answers attempt count index) := by
  rw [completedRuns_branches left newBranch]
  have ordered := @map_insertionSort _ _
    (ArtifactCountOrder task answers attempt count store) (ScoreOrder next)
    _ _ (fun index => finishedRun store task (answers.run index)
      (branchRun task answers attempt count index))
    (contenders task answers attempt count store)
  unfold orderBy at *
  rw [← ordered, head?_map]
  · congr 1
    exact head?_orderBy _ _
  · intro first firstMember second secondMember
    unfold ArtifactCountOrder ScoreOrder
    rw [winnerScore_branches left (mem_contenders.mp firstMember).1,
      winnerScore_branches left (mem_contenders.mp secondMember).1]
    omega

theorem distinct_branches (left : BranchesLeft task answers attempt count store
      (List.range count.toNat) next)
    {first second : Nat} (firstIn : first < count.toNat)
    (secondIn : second < count.toNat)
    (same : (answers.run first).runId = (answers.run second).runId) :
    first = second := by
  have nodup := next.runs.keysNodup
  rw [left.runs, map_append, nodup_append] at nodup
  have distinct := nodup.2.1
  rw [map_map] at distinct
  apply inj_on_of_nodup_map distinct (mem_range.mpr firstIn) (mem_range.mpr secondIn)
  simp only [Function.comp_apply, finishedRun_id]
  exact same

def IsCompleted (store : Store) (taskId : String) : Prop :=
  ∃ task, store.getTask taskId = some task ∧ task.status = .completed

theorem selectWinner_cases {store next : Store} {current : Task}
    (left : BranchesLeft task answers attempt count store (List.range count.toNat) next)
    (newBranch : ∀ run ∈ store.runs.rows, run.branchId ≠ some answers.branchId)
    (found : next.getTask task.id = some current)
    (active : current.status = .active) :
    (leadingBranch task answers attempt count store = none ∧
        ¬ IsCompleted (selectWinner next task.id answers).1 task.id ∧
          (selectWinner next task.id answers).1.runs = next.runs) ∨
      ∃ index after, leadingBranch task answers attempt count store = some index ∧
          selectWinner next task.id answers = (after,
            .ok (finishedRun store task (answers.run index)
              (branchRun task answers attempt count index))) ∧
            IsCompleted after task.id ∧ (selectWinner next task.id answers).1.runs =
                (disposeRuns (finishedRun store task (answers.run index)
                    (branchRun task answers attempt count index))
                  ((next.listRuns task.id).filter fun run => run.branchId = some answers.branchId)
                  next).runs := by
  have own : current.id = task.id := (next.tasks.lookup_eq_some_iff.mp found).2
  have selected := winner_branches left newBranch
  have unlessCompleted : ∀ {store : Store} {stored : Task},
      store.getTask task.id = some stored → stored.status ≠ .completed →
        ¬ IsCompleted store task.id := by
    rintro _ _ lookedUp unfinished ⟨_, otherFound, completed⟩
    rw [lookedUp] at otherFound
    cases otherFound
    exact unfinished completed
  unfold selectWinner
  simp only [found, own]
  by_cases empty : ((next.listRuns task.id).filter fun run =>
      run.branchId = some answers.branchId).isEmpty = true
  · left
    rw [if_pos empty]
    rw [List.isEmpty_iff.mp empty] at selected
    refine ⟨Option.map_eq_none_iff.mp selected.symm, ?_, rfl⟩
    apply unlessCompleted found
    rw [active]
    decide
  · rw [if_neg empty]
    rcases ordered : orderBy (ScoreOrder next) (((next.listRuns task.id).filter
        fun run => run.branchId = some answers.branchId).filter
          fun run => run.status = .completed) with _ | ⟨winner, others⟩
    · left
      rw [ordered] at selected
      simp only [ordered, updateTaskStatus_of_active found active]
      refine ⟨Option.map_eq_none_iff.mp selected.symm, ?_, rfl⟩
      refine @unlessCompleted _ { current with status := .failed } ?_ TaskStatus.noConfusion
      show (next.writeTaskStatus task.id .failed).getTask task.id = _
      rw [Store.getTask_writeTaskStatus, found]
      simp
    · right
      rw [ordered] at selected
      obtain ⟨index, leading, rfl⟩ := Option.map_eq_some_iff.mp selected.symm
      simp only [ordered]
      generalize disposedOf : disposeRuns _ _ next = disposed
      have tasks : disposed.tasks = next.tasks := by
        rw [← disposedOf]
        exact tasks_disposeRuns _ _ next
      have stillFound : ∀ decision,
          (disposed.createDecision decision).getTask task.id = some current := by
        intro decision
        rw [← found, Store.getTask, Store.getTask]
        exact congrArg (fun tasks => tasks.lookup task.id) tasks
      rw [updateTaskStatus_of_active (stillFound _) active]
      refine ⟨index, _, leading, rfl, ⟨{ current with status := .completed }, ?_, rfl⟩, ?_⟩
      · rw [Store.getTask_writeTaskStatus, stillFound]
        simp
      · show disposed.runs = _
        rw [← disposedOf]

end

/-- When a branching that ends completes its task, the work of the winner
neither failed nor was blocked, and the validation phase accepts it. -/
def CompletesSafely (store : Store) (task : Task) (count : Option Int)
    (answers : BranchAnswers) : Prop :=
  ∀ branched runs, createBranchesOf store task.id count answers = (branched, .ok runs) →
    IsCompleted (selectWinner branched task.id answers).1 task.id →
    ∃ winner index work, (selectWinner branched task.id answers).2 = .ok winner ∧
        index < (branchCount task count).toNat ∧
          winner.id = (answers.run index).runId ∧ (answers.run index).workResult = .ok work ∧
              work.outcome ≠ "failed" ∧ work.outcome ≠ "blocked" ∧
                (validationAnalysis store task (answers.run index)
                  (branchRun task answers (store.nextAttempt task.id)
                    (branchCount task count) index) work).verdict = .acceptable

theorem createBranchesOf_left {branched : Store} {count : Option Int}
    {answers : BranchAnswers} {runs : List Run}
    (found : store.getTask task.id = some task)
    (created : createBranchesOf store task.id count answers = (branched, .ok runs)) :
    (∃ current, branched.getTask task.id = some current ∧
        current.status = .active) ∧
      BranchesLeft task answers (store.nextAttempt task.id)
        (branchCount task count) (store.writeTaskStatus task.id .active)
        (List.range (branchCount task count).toNat) branched := by
  unfold createBranchesOf at created
  simp only [found] at created
  cases project : store.getProject task.projectId with
  | none =>
    simp only [project] at created
    cases created
  | some _ =>
    simp only [project] at created
    by_cases few : branchCount task count < 2
    · simp only [if_pos few] at created
      cases created
    simp only [if_neg few] at created
    cases activated : store.updateTaskStatus task.id .active with
    | error _ =>
      simp only [activated] at created
      cases created
    | ok _ =>
      simp only [activated] at created
      obtain ⟨_, rfl⟩ := Store.updateTaskStatus_eq_ok_iff.mp activated
      have left := runBranches_left task answers _ _ created
      refine ⟨⟨{ task with status := .active }, ?_, rfl⟩, left⟩
      rw [Store.getTask, left.tasks]
      show (store.writeTaskStatus task.id .active).getTask task.id = _
      rw [Store.getTask_writeTaskStatus, found]
      simp

/-- A branching completes its task safely if and only if the work of the
leading branch did not fail and, where it is a candidate, passes the
validation. -/
theorem completesSafely_iff {store branched : Store} {task : Task} {count : Option Int}
    {answers : BranchAnswers} {runs : List Run}
    (found : store.getTask task.id = some task)
    (newBranch : ∀ run ∈ store.runs.rows, run.branchId ≠ some answers.branchId)
    (created : createBranchesOf store task.id count answers = (branched, .ok runs)) :
    CompletesSafely store task count answers ↔
      ∀ index work, leadingBranch task answers (store.nextAttempt task.id)
          (branchCount task count) store = some index →
        (answers.run index).workResult = .ok work →
        PassesValidation store task (answers.run index)
          (branchRun task answers (store.nextAttempt task.id)
            (branchCount task count) index) work := by
  obtain ⟨⟨current, currentFound, active⟩, left⟩ := createBranchesOf_left found created
  have contends : ∀ {index : Nat}, leadingBranch task answers (store.nextAttempt task.id)
        (branchCount task count) store = some index →
      index < (branchCount task count).toNat ∧ ∃ work, (answers.run index).workResult = .ok work ∧
          work.outcome ≠ "blocked" ∧ Covers task (recordedArtifacts store (answers.run index)
              (branchRun task answers (store.nextAttempt task.id)
                (branchCount task count) index) work) := by
    intro index leading
    obtain ⟨inRange, work, worked, passed⟩ := mem_contenders.mp (mem_of_find?_eq_some leading)
    refine ⟨inRange, work, ?_, passed⟩
    cases result : (answers.run index).workResult with
    | error _ =>
      rw [result] at worked
      cases worked
    | ok _ =>
      rw [result] at worked
      cases worked
      rfl
  have selection :
      (leadingBranch task answers (store.nextAttempt task.id)
          (branchCount task count) store = none ∧
        ¬ IsCompleted (selectWinner branched task.id answers).1 task.id) ∨
      ∃ index after, leadingBranch task answers (store.nextAttempt task.id)
          (branchCount task count) store = some index ∧
          selectWinner branched task.id answers = (after,
            .ok (finishedRun store task (answers.run index)
              (branchRun task answers (store.nextAttempt task.id)
                (branchCount task count) index))) ∧
            IsCompleted after task.id := by
    rcases @selectWinner_cases task answers _ _
      (store.writeTaskStatus task.id .active) branched current left newBranch
      currentFound active with
      ⟨absent, uncompleted, _⟩ | ⟨index, after, leading, selected, ends, _⟩
    · exact .inl ⟨absent, uncompleted⟩
    · exact .inr ⟨index, after, leading, selected, ends⟩
  constructor
  · intro safe index work leading worked
    obtain ⟨inRange, _, sameWorked, unblocked, covers⟩ := contends leading
    obtain ⟨absent, _⟩ | ⟨_, after, won, selected, completed⟩ := selection
    · rw [absent] at leading
      cases leading
    · rw [leading] at won
      cases won
      have safely := safe branched runs created
      rw [selected] at safely
      obtain ⟨winner, other, otherWork, chosen, otherIn, named, otherWorked,
        _, _, accepted⟩ := safely completed
      obtain rfl := Except.ok.inj chosen
      rw [finishedRun_id] at named
      obtain rfl : index = other := distinct_branches left inRange otherIn named
      rw [worked] at otherWorked sameWorked
      cases otherWorked
      cases sameWorked
      exact (validationAnalysis_acceptable_iff unblocked covers).mp accepted
  · intro passes again others createdAgain completed
    rw [created] at createdAgain
    cases createdAgain
    obtain ⟨_, uncompleted⟩ | ⟨index, _, leading, selected, _⟩ := selection
    · exact absurd completed uncompleted
    · obtain ⟨inRange, work, worked, unblocked, covers⟩ := contends leading
      have passed := passes index work leading worked
      exact ⟨_, index, work, congrArg Prod.snd selected, inRange,
        finishedRun_id store task (answers.run index) _, worked, passed.1,
        unblocked,
        (validationAnalysis_acceptable_iff unblocked covers).mpr passed⟩

/-! ## Two branches with a report each -/

def branchingTask : Task where
  id := "task"
  projectId := "project"
  title := "Task"
  objective := "Write the report."
  status := .pending
  maxBranches := 2
  requiredArtifacts := ["report"]

def branchingStore : Store where
  projects := .single { id := "project" }
  tasks := .single branchingTask

def reportBranches (outcome : String) : BranchAnswers where
  branchId := "branch"
  run index :=
    { runId := "run" ++ toString index
      workResult := .ok
        { summary := "", artifacts := [("report", "report.json", "")], outcome } }

theorem successful_branches_complete_safely :
    CompletesSafely branchingStore branchingTask none (reportBranches "success") := by
  refine (@completesSafely_iff branchingStore (createBranchesOf branchingStore "task" none
      (reportBranches "success")).1 branchingTask none
    (reportBranches "success") _ rfl
    (fun _ stored => absurd stored not_mem_nil) rfl).mpr ?_
  intro index work _ worked
  cases worked
  exact ⟨nofun, fun external => absurd external nofun⟩

/-- Failed work completes its task when it leaves the required artifacts. -/
theorem failed_branches_complete_task :
    ¬ ∀ (store : Store) (task : Task) (count : Option Int) (answers : BranchAnswers),
      store.getTask task.id = some task →
      (∀ run ∈ store.runs.rows, run.branchId ≠ some answers.branchId) →
      CompletesSafely store task count answers := by
  intro safe
  obtain ⟨_, _, _, _, _, _, worked, unfailed, _⟩ :=
    safe branchingStore branchingTask none (reportBranches "failed") rfl
      (fun _ stored => absurd stored not_mem_nil)
      (createBranchesOf branchingStore "task" none (reportBranches "failed")).1 _ rfl ⟨_, rfl, rfl⟩
  cases worked
  exact unfailed rfl

end BranchService

end AccruviaHarness
