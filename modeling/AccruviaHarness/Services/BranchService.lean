import AccruviaHarness.Services.RunService

/-!
# Speculative branches

A task whose retry budget is used up may branch: as many runs as it has
branches are worked on one after the other, and one of those that completed is
its winner.
-/

namespace AccruviaHarness

open Library List

structure BranchAnswers where
  branchId : String
  now : Int := 0
  decisionId : String := ""
  run : Nat → RunAnswers

namespace BranchService

open RunService

def branchRun (task : Task) (answers : BranchAnswers) (attempt : Int)
    (branchCount : Int) (branchIndex : Nat) : Run where
  id := (answers.run branchIndex).runId
  taskId := task.id
  status := .planning
  attempt := attempt + branchIndex
  summary := "Speculative branch " ++ toString (branchIndex + 1) ++ "/" ++
    toString branchCount ++ "."
  branchId := some answers.branchId
  createdAt := (answers.run branchIndex).now

def branchAnalysis (task : Task) (work : WorkResult) (artifacts : List Artifact) : AnalyzeResult :=
  if work.outcome = "blocked" then DefaultAnalyzer.blocked task work.diagnostics
  else DefaultAnalyzer.analyze task artifacts

variable (store : Store)

def runBranch (task : Task) (answers : RunAnswers) (run : Run) : Store × Except PyError Run :=
  match store.createRun run with
  | none => (store, .error (.integrityError "UNIQUE constraint failed: runs.id"))
  | some store =>
    let (store, run) := store.markRun run .working answers.planSummary
    match answers.workResult with
    | .error error => (store, .error error)
    | .ok work =>
      let store := recordArtifacts answers run work.artifacts store
      let (store, run) := store.markRun run .analyzing work.summary
      let analysis := branchAnalysis task work (store.listArtifacts run.id)
      let store := store.createEvaluation
        { id := answers.evaluationId, runId := run.id, verdict := analysis.verdict
          summary := analysis.summary, details := analysis.details, createdAt := answers.now }
      let finalStatus : RunStatus := if analysis.verdict = .acceptable then .completed else .failed
      let (store, run) := store.markRun run finalStatus analysis.summary
      (store, .ok run)

def runBranches (task : Task) (answers : BranchAnswers) (attempt : Int)
    (branchCount : Int) : List Nat → Store → Store × Except PyError (List Run)
  | [], store => (store, .ok [])
  | branchIndex :: others, store =>
    match runBranch store task (answers.run branchIndex)
      (branchRun task answers attempt branchCount branchIndex) with
    | (store, .error error) => (store, .error error)
    | (store, .ok run) =>
      match runBranches task answers attempt branchCount others store with
      | (store, .error error) => (store, .error error)
      | (store, .ok runs) => (store, .ok (run :: runs))

def createBranches (taskId : String)
    (answers : BranchAnswers) : Store × Except PyError (List Run) :=
  match store.getTask taskId with
  | none => (store, .error (.valueError ("Unknown task: " ++ taskId)))
  | some task =>
    match store.getProject task.projectId with
    | none => (store, .error (.valueError ("Unknown project for task: " ++ task.projectId)))
    | some _ =>
      let branchCount := task.maxBranches
      if branchCount < 2 then
        (store, .error (.valueError ("Branching requires max_branches >= 2, got " ++
            toString task.maxBranches)))
      else
        match store.updateTaskStatus task.id .active with
        | .error error => (store, .error error)
        | .ok store =>
          runBranches task answers (store.nextAttempt task.id)
            branchCount (List.range branchCount.toNat) store

def winnerScore (run : Run) : Nat :=
  if (store.listEvaluations run.id).isEmpty then 0
  else 80 + (store.listArtifacts run.id).length

/-- `scored.sort(reverse=True)`: higher scores first, equal ones as they
were. -/
def ScoreOrder (first second : Run) : Prop := winnerScore store second ≤ winnerScore store first

instance (store : Store) : DecidableRel (ScoreOrder store) := fun _ _ =>
  inferInstanceAs (Decidable (_ ≤ _))

def disposeRuns (winner : Run) (runs : List Run) (store : Store) : Store :=
  (runs.filter fun run => run.id ≠ winner.id).foldl (fun store run => (store.markRun run .disposed
      ("Disposed in favor of winner " ++ winner.id ++ ".")).1) store

def winnerDecision (answers : BranchAnswers) (winner : Run) (disposed : Nat) : Decision where
  id := answers.decisionId
  runId := winner.id
  action := .promote
  rationale := "Selected as branch winner with score " ++
    toString (winnerScore store winner) ++ ".0 over " ++ toString disposed ++ " other branch(es)."
  createdAt := answers.now

def selectWinner (taskId : String) (answers : BranchAnswers) : Store × Except PyError Run :=
  match store.getTask taskId with
  | none => (store, .error (.valueError ("Unknown task: " ++ taskId)))
  | some task =>
    let branchRuns := (store.listRuns taskId).filter fun run => run.branchId = some answers.branchId
    if branchRuns.isEmpty then
      (store, .error (.valueError ("No runs found for branch " ++ answers.branchId)))
    else
      let completedRuns := branchRuns.filter fun run => run.status = .completed
      match orderBy (ScoreOrder store) completedRuns with
      | [] =>
        match store.updateTaskStatus task.id .failed with
        | .error error => (store, .error error)
        | .ok store =>
          (store, .error (.valueError ("No completed runs in branch " ++ answers.branchId)))
      | winner :: _ =>
        let disposed := branchRuns.filter fun run => run.id ≠ winner.id
        let next := (disposeRuns winner branchRuns store).createDecision
          (winnerDecision store answers winner disposed.length)
        match next.updateTaskStatus task.id .completed with
        | .error error => (next, .error error)
        | .ok next => (next, .ok winner)

/-! ## What a branching leaves -/

variable {store next : Store} {answers : BranchAnswers} {taskId : String}
  {current : Task}

variable {task : Task} {runs : List Run}

theorem runBranch_ok {answers : RunAnswers} {run finished : Run}
    (ended : runBranch store task answers run = (next, .ok finished)) :
    next.tasks = store.tasks ∧
      next.runs.rows = store.runs.rows ++ [finished] ∧
        ∃ status summary, finished = { run with status, summary } := by
  unfold runBranch at ended
  cases inserted : store.createRun run with
  | none =>
    simp only [inserted] at ended
    cases ended
  | some _ =>
    simp only [inserted] at ended
    have fresh := Store.fresh_of_createRun inserted
    obtain ⟨runs, insertedRow, rfl⟩ := Option.map_eq_some_iff.mp inserted
    have rows := KeyedTable.rows_of_insert? insertedRow
    cases worked : answers.workResult with
    | error _ =>
      simp only [worked] at ended
      cases ended
    | ok work =>
      simp only [worked, recordArtifacts_eq] at ended
      have opened : OpenRun { store with runs } store.runs.rows run := ⟨⟨_, _, rows⟩, fresh⟩
      have working := opened.markRun .working answers.planSummary
      have analysing := working.markRun .analyzing work.summary
      cases ended
      refine ⟨rfl, ?_, _, _, rfl⟩
      exact rows_markRun analysing _ _

def HasBranchRun (store : Store) (taskId branchId : String) : Prop :=
  ∃ run ∈ store.runs.rows, run.taskId = taskId ∧
    run.branchId = some branchId

theorem runBranches_ok {attempt branchCount : Int} {indices : List Nat}
    (ended : runBranches task answers attempt branchCount indices store = (next, .ok runs)) :
    next.tasks = store.tasks ∧ next.runs.rows = store.runs.rows ++ runs ∧
      (indices ≠ [] → HasBranchRun next task.id answers.branchId) := by
  induction indices generalizing store runs with
  | nil =>
    cases ended
    exact ⟨rfl, (append_nil _).symm, fun nonempty => absurd rfl nonempty⟩
  | cons index others ih =>
    unfold runBranches at ended
    rcases first : runBranch store task (answers.run index)
      (branchRun task answers attempt branchCount index) with
      ⟨middle, error | _⟩
    · simp only [first] at ended
      cases ended
    · simp only [first] at ended
      rcases rest : runBranches task answers attempt branchCount others middle with ⟨_, _ | later⟩
      · simp only [rest] at ended
        cases ended
      · simp only [rest] at ended
        cases ended
        obtain ⟨tasks, rows, status, summary, rfl⟩ := runBranch_ok first
        obtain ⟨laterTasks, laterRows, _⟩ := ih rest
        have added : next.runs.rows = store.runs.rows ++
            { branchRun task answers attempt branchCount index with
              status, summary } :: later := by
          rw [laterRows, rows, append_assoc, singleton_append]
        refine ⟨laterTasks.trans tasks, added, fun _ =>
          ⟨{ branchRun task answers attempt branchCount index with
              status
              summary }, ?_, rfl, rfl⟩⟩
        rw [added]
        exact mem_append_right _ mem_cons_self

theorem createBranches_ok (ended : createBranches store taskId answers = (next, .ok runs)) :
    (∃ task, next.getTask taskId = some task ∧ task.status = .active) ∧
      HasBranchRun next taskId answers.branchId := by
  unfold createBranches at ended
  cases found : store.getTask taskId with
  | none =>
    simp only [found] at ended
    cases ended
  | some task =>
    obtain rfl : task.id = taskId := (store.tasks.lookup_eq_some_iff.mp found).2
    simp only [found] at ended
    cases project : store.getProject task.projectId with
    | none =>
      simp only [project] at ended
      cases ended
    | some _ =>
      simp only [project] at ended
      by_cases few : task.maxBranches < 2
      · simp only [if_pos few] at ended
        cases ended
      simp only [if_neg few] at ended
      cases activated : store.updateTaskStatus task.id .active with
      | error _ =>
        simp only [activated] at ended
        cases ended
      | ok active =>
        simp only [activated] at ended
        obtain ⟨_, rfl⟩ := Store.updateTaskStatus_eq_ok_iff.mp activated
        obtain ⟨tasks, _, branched⟩ := runBranches_ok ended
        have many : List.range task.maxBranches.toNat ≠ [] := by
          rw [Ne, range_eq_nil]
          omega
        refine ⟨⟨{ task with status := .active }, ?_, rfl⟩, branched many⟩
        rw [Store.getTask, tasks]
        show (store.writeTaskStatus task.id .active).getTask task.id = _
        rw [Store.getTask_writeTaskStatus, found]
        simp

theorem tasks_disposeRuns (winner : Run) (runs : List Run) (store : Store) :
    (disposeRuns winner runs store).tasks = store.tasks := by
  unfold disposeRuns
  generalize runs.filter _ = disposed
  induction disposed generalizing store with
  | nil => rfl
  | cons _ _ ih => exact (ih _).trans rfl

theorem updateTaskStatus_of_active (found : store.getTask taskId = some current)
    (active : current.status = .active) (status : TaskStatus) :
    store.updateTaskStatus taskId status = .ok (store.writeTaskStatus taskId status) := by
  apply Store.updateTaskStatus_eq_ok_iff.mpr
  refine ⟨⟨current, found, ?_⟩, rfl⟩
  rw [active]
  cases status <;> decide

def IsFinal (store : Store) (taskId : String) : Prop :=
  ∃ task, store.getTask taskId = some task ∧ (task.status = .completed ∨ task.status = .failed)

theorem isFinal_writeTaskStatus (found : store.getTask taskId = some current) {status : TaskStatus}
    (final : status = .completed ∨ status = .failed) :
    IsFinal (store.writeTaskStatus taskId status) taskId := by
  refine ⟨{ current with status }, ?_, final⟩
  rw [Store.getTask_writeTaskStatus, found]
  simp

theorem selectWinner_settles (found : store.getTask taskId = some current)
    (active : current.status = .active)
    (branched : HasBranchRun store taskId answers.branchId) :
    IsFinal (selectWinner store taskId answers).1 taskId := by
  obtain rfl : current.id = taskId := (store.tasks.lookup_eq_some_iff.mp found).2
  have listed : ((store.listRuns current.id).filter fun run =>
      run.branchId = some answers.branchId).isEmpty = false := by
    obtain ⟨run, member, own, inBranch⟩ := branched
    rw [isEmpty_eq_false_iff_exists_mem]
    refine ⟨run, mem_filter.mpr ⟨?_, by simp [inBranch]⟩⟩
    rw [Store.listRuns, mem_orderBy, Store.runsOf, mem_filter]
    exact ⟨member, by simp [own]⟩
  unfold selectWinner
  simp only [found, listed, Bool.false_eq_true, if_false]
  split
  · rw [updateTaskStatus_of_active found active]
    exact isFinal_writeTaskStatus found (.inr rfl)
  · rename_i winner others _
    have stillFound : ((disposeRuns winner ((store.listRuns current.id).filter
        fun run => run.branchId = some answers.branchId) store).createDecision
          (winnerDecision store answers winner
            (((store.listRuns current.id).filter fun run =>
              run.branchId = some answers.branchId).filter
                fun run => run.id ≠ winner.id).length)).getTask current.id =
        some current := by
      rw [← found, Store.getTask, Store.getTask]
      exact congrArg (fun tasks => tasks.lookup current.id) (tasks_disposeRuns winner _ store)
    rw [updateTaskStatus_of_active stillFound active]
    exact isFinal_writeTaskStatus stillFound (.inl rfl)

end BranchService

namespace RunService

/-- `_resolve_branching`: a `ValueError` of the selection is dropped. -/
def resolveBranching (store : Store) (taskId : String)
    (answers : BranchAnswers) : Store × Except PyError (List Run) :=
  match BranchService.createBranches store taskId answers with
  | (store, .error error) => (store, .error error)
  | (store, .ok runs) =>
    match BranchService.selectWinner store taskId answers with
    | (store, .error (.valueError _)) => (store, .ok runs)
    | (store, .error error) => (store, .error error)
    | (store, .ok _) => (store, .ok runs)

theorem resolveBranching_settles {store next : Store} {taskId : String} {answers : BranchAnswers}
    {runs : List Run}
    (ended : resolveBranching store taskId answers = (next, .ok runs)) :
    BranchService.IsFinal next taskId := by
  unfold resolveBranching at ended
  rcases created : BranchService.createBranches store taskId answers with
    ⟨branched, error | _⟩
  · simp only [created] at ended
    cases ended
  · simp only [created] at ended
    obtain ⟨⟨_, found, active⟩, branch⟩ := BranchService.createBranches_ok created
    have settles := BranchService.selectWinner_settles found active branch
    rcases selected : BranchService.selectWinner branched taskId answers with
      ⟨_, error | _⟩
    · rw [selected] at settles
      simp only [selected] at ended
      cases error <;> cases ended
      exact settles
    · rw [selected] at settles
      simp only [selected] at ended
      cases ended
      exact settles

end RunService

end AccruviaHarness
