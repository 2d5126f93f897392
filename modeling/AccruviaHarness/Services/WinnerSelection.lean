import AccruviaHarness.Services.BranchRuns
import Mathlib.Algebra.Order.Ring.Rat
import Mathlib.Tactic.NormNum

/-!
# The selection of a branch winner

The completed run with the highest score wins. The score adds the number of
artifacts to a hundred times the best confidence of the evaluations, in
whatever arithmetic the confidences have.
-/

namespace AccruviaHarness

open Library List

/-- What `select_winner` returns. -/
structure WinnerResult where
  winnerRun : Run
  disposedRuns : List Run
  rationale : String

namespace BranchService

/-- The arguments of a selection, and what it takes from outside: the stored
confidences, the texts of scores and the row of the decision. -/
structure WinnerSelection (Number : Type) where
  taskId : String
  branchId : String
  confidence : Evaluation → Number
  shown : Number → String
  decisionId : String := ""
  now : Int := 0

namespace WinnerSelection

/-! ## The runs of the branch -/

section

variable {Number : Type} (selection : WinnerSelection Number)

def branchRuns (store : Store) : List Run :=
  (store.listRunsMatching (some selection.taskId)).filter
    fun run => run.branchId = some selection.branchId

def completedRuns (store : Store) : List Run :=
  (selection.branchRuns store).filter fun run => run.status = .completed

def OfBranch (run : Run) : Prop :=
  (selection.taskId = "" ∨ run.taskId = selection.taskId) ∧
    run.branchId = some selection.branchId

instance ofBranchDecidable : DecidablePred selection.OfBranch := fun _ =>
  inferInstanceAs (Decidable (_ ∧ _))

variable {store : Store} {run : Run}

theorem mem_branchRuns :
    run ∈ selection.branchRuns store ↔ run ∈ store.runs.rows ∧ selection.OfBranch run := by
  have ofTask : Store.MatchesTask (some selection.taskId) run ↔
      selection.taskId = "" ∨ run.taskId = selection.taskId := by
    simp [Store.MatchesTask]
  rw [branchRuns, mem_filter, Store.mem_listRunsMatching, ofTask, decide_eq_true_eq]
  exact and_assoc

theorem mem_completedRuns :
    run ∈ selection.completedRuns store ↔ run ∈ store.runs.rows ∧ selection.OfBranch run ∧
        run.status = .completed := by
  rw [completedRuns, mem_filter, selection.mem_branchRuns, decide_eq_true_eq]
  exact and_assoc

theorem completedRuns_pairwise (store : Store) :
    (selection.completedRuns store).Pairwise Store.RunOrder := by
  have listed := orderBy_pairwise Store.RunOrder (store.runs.rows.filter
    fun run => Store.MatchesTask (some selection.taskId) run)
  exact (listed.filter _).filter _

theorem id_mem_branchRuns_iff (stored : run ∈ store.runs.rows) :
    run.id ∈ (selection.branchRuns store).map Run.id ↔ selection.OfBranch run := by
  constructor
  · intro listed
    obtain ⟨_, member, same⟩ := mem_map.mp listed
    obtain ⟨otherStored, ofBranch⟩ := selection.mem_branchRuns.mp member
    rw [← store.runs.eq_of_key_eq otherStored stored same]
    exact ofBranch
  · intro ofBranch
    exact mem_map_of_mem (selection.mem_branchRuns.mpr ⟨stored, ofBranch⟩)

theorem branchRuns_not_isEmpty (stored : run ∈ store.runs.rows)
    (ofBranch : selection.OfBranch run) :
    (selection.branchRuns store).isEmpty = false := by
  rw [isEmpty_eq_false_iff_exists_mem]
  exact ⟨run, selection.mem_branchRuns.mpr ⟨stored, ofBranch⟩⟩

end

/-! ## The scores -/

variable {Number : Type} [LinearOrder Number] [Mul Number] [Add Number]
  [NatCast Number] (selection : WinnerSelection Number)

/-- `max` of the confidences. -/
def bestConfidence (first : Evaluation) (others : List Evaluation) : Number :=
  others.foldl (fun best evaluation => max best (selection.confidence evaluation))
    (selection.confidence first)

variable (store : Store)

def score (run : Run) : Number :=
  match store.listEvaluations run.id with
  | [] => Nat.cast 0
  | first :: others =>
    selection.bestConfidence first others * Nat.cast 100 +
      Nat.cast (store.listArtifacts run.id).length

/-- `scored.sort(reverse=True)`: higher scores first, equal ones as they
were. -/
def HigherScore (first second : Run) : Prop :=
  selection.score store second ≤ selection.score store first

instance higherScoreDecidable (store : Store) :
    DecidableRel (selection.HigherScore store) := fun _ _ =>
  inferInstanceAs (Decidable (_ ≤ _))

instance higherScoreTotal (store : Store) :
    Std.Total (selection.HigherScore store) where
  total first second := le_total (selection.score store second) (selection.score store first)

instance higherScoreTrans (store : Store) :
    IsTrans Run (selection.HigherScore store) where
  trans _ _ _ first second := le_trans second first

def decision (winner : Run) (winnerScore : Number) (disposed : Nat) :
    Decision where
  id := selection.decisionId
  runId := winner.id
  action := .promote
  rationale := "Selected as branch winner with score " ++
    selection.shown winnerScore ++ " over " ++ toString disposed ++ " other branch(es)."
  createdAt := selection.now

def selectWinner : Store × Except PyError WinnerResult :=
  match store.getTask selection.taskId with
  | none => (store, .error (.valueError ("Unknown task: " ++ selection.taskId)))
  | some task =>
    let branchRuns := selection.branchRuns store
    if branchRuns.isEmpty then
      (store, .error (.valueError ("No runs found for branch " ++ selection.branchId)))
    else
      match orderBy (selection.HigherScore store)
        (selection.completedRuns store) with
      | [] =>
        match store.updateTaskStatus task.id .failed with
        | .error error => (store, .error error)
        | .ok store =>
          (store, .error (.valueError ("No completed runs in branch " ++ selection.branchId)))
      | winner :: _ =>
        let disposed := branchRuns.filter fun run => run.id ≠ winner.id
        let decision := selection.decision winner (selection.score store winner) disposed.length
        let next := (disposeRuns winner branchRuns store).createDecision decision
        match next.updateTaskStatus task.id .completed with
        | .error error => (next, .error error)
        | .ok next =>
          (next, .ok
            { winnerRun := winner, disposedRuns := disposed, rationale := decision.rationale })

/-- The run that has to win: a completed run of the branch with the highest
score, the earliest of those. -/
structure Wins (store : Store) (winner : Run) : Prop where
  stored : winner ∈ store.runs.rows
  ofBranch : selection.OfBranch winner
  completed : winner.status = .completed
  highest : ∀ run ∈ store.runs.rows, selection.OfBranch run →
    run.status = .completed → selection.score store run ≤ selection.score store winner
  earliest : ∀ run ∈ store.runs.rows, selection.OfBranch run →
    run.status = .completed → selection.score store run = selection.score store winner →
        winner.createdAt ≤ run.createdAt

theorem wins_of_head {store : Store} {winner : Run} (head : (orderBy (selection.HigherScore store)
      (selection.completedRuns store)).head? = some winner) :
    selection.Wins store winner := by
  obtain ⟨member, best⟩ := head?_orderBy_first (selection.HigherScore store) head
  obtain ⟨stored, ofBranch, completed⟩ := selection.mem_completedRuns.mp member
  have highest : ∀ run ∈ store.runs.rows, selection.OfBranch run →
      run.status = .completed → selection.score store run ≤ selection.score store winner := by
    intro run runStored runOfBranch runCompleted
    exact best run (selection.mem_completedRuns.mpr ⟨runStored, runOfBranch, runCompleted⟩)
  refine ⟨stored, ofBranch, completed, highest, ?_⟩
  intro run runStored runOfBranch runCompleted same
  rw [head?_orderBy, find?_eq_some_iff_append] at head
  obtain ⟨_, front, _, listed, lower⟩ := head
  have runMember := selection.mem_completedRuns.mpr ⟨runStored, runOfBranch, runCompleted⟩
  have inOrder := selection.completedRuns_pairwise store
  rw [listed] at runMember inOrder
  rcases mem_append.mp runMember with earlier | later
  · -- An equal run in front of the winner would be found first.
    have also : precedesAll (selection.HigherScore store)
        (selection.completedRuns store) run = true := by
      rw [precedesAll_iff]
      intro other otherMember
      exact (best other otherMember).trans same.ge
    have notFound := lower run earlier
    rw [also] at notFound
    cases notFound
  · rcases mem_cons.mp later with rfl | after
    · exact le_refl _
    · exact (pairwise_cons.mp (pairwise_append.mp inOrder).2.1).1 run after

end WinnerSelection

/-! ## The disposal -/

def disposeRow (winner row : Run) : Run :=
  { row with
    status := .disposed, summary := "Disposed in favor of winner " ++ winner.id ++ "." }

theorem rows_foldl_markRun (summary : String) (losers : List Run) (store : Store) :
    (losers.foldl (fun store run =>
        (store.markRun run .disposed summary).1) store).runs.rows =
      store.runs.rows.map fun row =>
        if row.id ∈ losers.map Run.id then { row with status := .disposed, summary }
        else row := by
  induction losers generalizing store with
  | nil => simp
  | cons loser _ ih =>
    rw [foldl_cons, ih]
    have marked : (store.markRun loser .disposed summary).1.runs.rows =
        store.runs.rows.map fun row =>
          if row.id = loser.id then { row with status := .disposed, summary }
          else row := rfl
    rw [marked, map_map]
    apply map_congr_left
    intro row _
    simp only [Function.comp_apply, map_cons, mem_cons]
    by_cases same : row.id = loser.id
    · simp [same]
    · simp [same]

theorem rows_disposeRuns (winner : Run) (runs : List Run) (store : Store) :
    (disposeRuns winner runs store).runs.rows =
      store.runs.rows.map fun row =>
        if row.id ∈ runs.map Run.id ∧ row.id ≠ winner.id then disposeRow winner row
        else row := by
  unfold disposeRuns
  rw [rows_foldl_markRun]
  apply map_congr_left
  intro row _
  have listed : row.id ∈ (runs.filter fun run => run.id ≠ winner.id).map
      Run.id ↔ row.id ∈ runs.map Run.id ∧ row.id ≠ winner.id := by
    simp only [mem_map, mem_filter, decide_eq_true_eq]
    constructor
    · rintro ⟨run, ⟨member, other⟩, same⟩
      exact ⟨⟨run, member, same⟩, same ▸ other⟩
    · rintro ⟨⟨run, member, same⟩, other⟩
      exact ⟨run, ⟨member, same ▸ other⟩, same⟩
  simp only [listed]
  rfl

theorem decisions_disposeRuns (winner : Run) (runs : List Run) (store : Store) :
    (disposeRuns winner runs store).decisions = store.decisions := by
  unfold disposeRuns
  generalize runs.filter _ = disposed
  induction disposed generalizing store with
  | nil => rfl
  | cons _ _ ih => exact (ih _).trans rfl

namespace WinnerSelection

variable {Number : Type} [LinearOrder Number] [Mul Number] [Add Number]
  [NatCast Number] (selection : WinnerSelection Number)

/-! ## The whole selection -/

structure Selected (before after : Store) (task : Task)
    (result : WinnerResult) : Prop where
  wins : selection.Wins before result.winnerRun
  runs : after.runs.rows = before.runs.rows.map fun run =>
    if selection.OfBranch run ∧ run.id ≠ result.winnerRun.id then disposeRow result.winnerRun run
    else run
  decided : ∃ decision, after.decisions = before.decisions ++ [decision] ∧
    decision.runId = result.winnerRun.id ∧ decision.action = .promote
  completed : after.getTask selection.taskId = some { task with status := .completed }

structure Unselected (before after : Store) (task : Task) : Prop where
  runs : after.runs = before.runs
  decisions : after.decisions = before.decisions
  failed : after.getTask selection.taskId = some { task with status := .failed }

variable {selection} {store : Store} {task : Task}

theorem getTask_writeTaskStatus_self {taskId : String}
    (found : store.getTask taskId = some task) (status : TaskStatus) :
    (store.writeTaskStatus taskId status).getTask taskId = some { task with status } := by
  rw [Store.getTask_writeTaskStatus, found]
  simp

theorem selectWinner_selected {winner : Run} {others : List Run}
    (found : store.getTask selection.taskId = some task)
    (active : task.status = .active)
    (ordered : orderBy (selection.HigherScore store)
      (selection.completedRuns store) = winner :: others) :
    ∃ after result, selection.selectWinner store = (after, .ok result) ∧
      selection.Selected store after task result := by
  have own : task.id = selection.taskId := (store.tasks.lookup_eq_some_iff.mp found).2
  have wins : selection.Wins store winner :=
    selection.wins_of_head (by rw [ordered, head?_cons])
  have nonempty := selection.branchRuns_not_isEmpty wins.stored wins.ofBranch
  have disposed := rows_disposeRuns winner (selection.branchRuns store) store
  have tasks := tasks_disposeRuns winner (selection.branchRuns store) store
  have decisions := decisions_disposeRuns winner (selection.branchRuns store) store
  unfold selectWinner
  simp only [found, nonempty, Bool.false_eq_true, if_false, ordered, own]
  generalize disposeRuns winner (selection.branchRuns store) store = left at *
  have stillFound : ∀ decision,
      (left.createDecision decision).getTask selection.taskId = some task := by
    intro decision
    rw [← found, Store.getTask, Store.getTask]
    exact congrArg (fun tasks => tasks.lookup selection.taskId) tasks
  rw [updateTaskStatus_of_active (stillFound _) active]
  refine ⟨_, _, rfl, wins, ?_, ?_, ?_⟩
  · refine disposed.trans (map_congr_left fun run stored => ?_)
    simp only [selection.id_mem_branchRuns_iff stored]
  · have added : ∀ decision, ((left.createDecision decision).writeTaskStatus
        selection.taskId .completed).decisions = store.decisions ++ [decision] := by
      intro decision
      rw [← decisions]
      rfl
    exact ⟨_, added _, rfl, rfl⟩
  · exact getTask_writeTaskStatus_self (stillFound _) .completed

theorem selectWinner_unselected {run : Run} (found : store.getTask selection.taskId = some task)
    (active : task.status = .active)
    (stored : run ∈ store.runs.rows) (ofBranch : selection.OfBranch run)
    (none : selection.completedRuns store = []) :
    ∃ after message, selection.selectWinner store = (after, .error (.valueError message)) ∧
        selection.Unselected store after task := by
  have own : task.id = selection.taskId := (store.tasks.lookup_eq_some_iff.mp found).2
  have nonempty := selection.branchRuns_not_isEmpty stored ofBranch
  have ordered : orderBy (selection.HigherScore store) (selection.completedRuns store) = [] := by
    rw [none]
    rfl
  unfold selectWinner
  simp only [found, nonempty, Bool.false_eq_true, if_false, ordered, own]
  rw [updateTaskStatus_of_active found active]
  exact ⟨_, _, rfl, rfl, rfl, getTask_writeTaskStatus_self found .failed⟩

/-- The selection of an active task settles it: by the best completed run of
the branch, or as failed where the branch has runs and none completed. -/
theorem selectWinner_spec (selection : WinnerSelection Number) (store : Store) (task : Task)
    (found : store.getTask selection.taskId = some task)
    (active : task.status = .active) :
    ((∃ run ∈ store.runs.rows, selection.OfBranch run ∧
        run.status = .completed) →
      ∃ after result, selection.selectWinner store = (after, .ok result) ∧
        selection.Selected store after task result) ∧
    ((∃ run ∈ store.runs.rows, selection.OfBranch run) →
      (∀ run ∈ store.runs.rows, selection.OfBranch run → run.status ≠ .completed) →
      ∃ after message, selection.selectWinner store = (after, .error (.valueError message)) ∧
          selection.Unselected store after task) := by
  constructor
  · intro branched
    obtain ⟨run, stored, ofBranch, completed⟩ := branched
    have listed := selection.mem_completedRuns.mpr ⟨stored, ofBranch, completed⟩
    cases ordered : orderBy (selection.HigherScore store) (selection.completedRuns store) with
    | nil =>
      rw [(orderBy_eq_nil_iff _).mp ordered] at listed
      cases listed
    | cons _ _ => exact selectWinner_selected found active ordered
  · intro branched unfinished
    obtain ⟨_, stored, ofBranch⟩ := branched
    apply selectWinner_unselected found active stored ofBranch
    rw [eq_nil_iff_forall_not_mem]
    intro other member
    obtain ⟨otherStored, otherOfBranch, completed⟩ := selection.mem_completedRuns.mp member
    exact unfinished other otherStored otherOfBranch completed

def twoCompletedRuns : Store where
  tasks := .single { id := "task", projectId := "project", status := .active }
  runs := ⟨[{ id := "early", taskId := "task", status := .completed
              attempt := 1, branchId := some "branch" },
            { id := "late", taskId := "task", status := .completed
              attempt := 2, branchId := some "branch", createdAt := 1 }],
    by decide⟩
  evaluations :=
    [{ id := "weak", runId := "early", verdict := .acceptable },
     { id := "strong", runId := "late", verdict := .acceptable }]

def strongSelection : WinnerSelection ℚ where
  taskId := "task"
  branchId := "branch"
  confidence evaluation := if evaluation.id = "strong" then 9 / 10 else 4 / 5
  shown _ := ""

theorem selectWinner_strongSelection :
    ∃ after result, strongSelection.selectWinner twoCompletedRuns = (after, .ok result) ∧
        strongSelection.Selected twoCompletedRuns after
          { id := "task", projectId := "project", status := .active }
          result :=
  (selectWinner_spec strongSelection twoCompletedRuns
    { id := "task", projectId := "project", status := .active } rfl rfl).1
    ⟨_, mem_cons_self, by decide, rfl⟩

end WinnerSelection

end BranchService

end AccruviaHarness
