import AccruviaHarness.Services.BranchSafety

/-!
# The runs that a branching returns

The list of a branching is taken before its winner is selected. Where there is
a winner, the selection disposes of the other runs, so that the list no longer
holds what the run table does.
-/

namespace AccruviaHarness

open Library List

namespace BranchService

open RunService DefaultAnalyzer

/-! ## The disposal -/

variable {store next : Store} {task : Task} {run : Run} {runs : List Run}
  {answers : BranchAnswers} {runId : String}

theorem disposed_markRun (disposed : ∀ row ∈ store.runs.rows, row.id = runId →
      row.status = .disposed) (run : Run) (summary : String) :
    ∀ row ∈ (store.markRun run .disposed summary).1.runs.rows,
      row.id = runId → row.status = .disposed := by
  intro row member named
  obtain ⟨earlier, earlierMember, rfl⟩ := KeyedTable.mem_updateAt.mp member
  by_cases same : earlier.id = run.id
  · simp [same]
  · simp only [if_neg same] at named ⊢
    exact disposed earlier earlierMember named

theorem disposed_foldl_markRun (summary : String) (runs : List Run)
    (disposed : ∀ row ∈ store.runs.rows, row.id = runId →
      row.status = .disposed) :
    ∀ row ∈ (runs.foldl (fun store run =>
        (store.markRun run .disposed summary).1) store).runs.rows,
      row.id = runId → row.status = .disposed := by
  induction runs generalizing store with
  | nil => exact disposed
  | cons run _ ih => exact ih (disposed_markRun disposed run summary)

theorem disposed_disposeRuns {winner : Run} (store : Store)
    (member : run ∈ runs) (other : run.id ≠ winner.id) :
    ∀ row ∈ (disposeRuns winner runs store).runs.rows,
      row.id = run.id → row.status = .disposed := by
  have listed : run ∈ runs.filter fun run => run.id ≠ winner.id := by simp [member, other]
  unfold disposeRuns
  generalize runs.filter _ = losers at listed
  induction losers generalizing store with
  | nil => cases listed
  | cons _ losers ih =>
    rcases mem_cons.mp listed with rfl | later
    · apply disposed_foldl_markRun _ losers
      intro row rowMember named
      obtain ⟨earlier, _, rfl⟩ := KeyedTable.mem_updateAt.mp rowMember
      by_cases same : earlier.id = run.id
      · simp [same]
      · simp only [if_neg same] at named
        exact absurd named same
    · exact ih _ later

theorem KeepsRuns.disposeRuns (winner : Run) (runs : List Run) (store : Store) :
    KeepsRuns store (disposeRuns winner runs store) := by
  unfold BranchService.disposeRuns
  generalize runs.filter _ = losers
  induction losers generalizing store with
  | nil => exact KeepsRuns.of_append (append_nil _).symm
  | cons run _ ih => exact (KeepsRuns.markRun store run _ _).trans (ih _)

/-! ## The selection -/

section

variable {task : Task} {answers : BranchAnswers} {attempt count : Int}

variable {next : Store}

theorem BranchesLeft.fresh {indices : List Nat}
    (left : BranchesLeft task answers attempt count store indices next) :
    ∀ index ∈ indices, ∀ run ∈ store.runs.rows, run.id ≠ (answers.run index).runId := by
  have distinct := next.runs.keysNodup
  rw [left.runs, map_append, nodup_append] at distinct
  intro index member run stored
  apply distinct.2.2 run.id (mem_map_of_mem stored)
  rw [map_map, mem_map]
  exact ⟨index, member, finishedRun_id store task (answers.run index) _⟩

theorem leadingBranch_eq_none_iff (store : Store) :
    leadingBranch task answers attempt count store = none ↔
      ∀ index < count.toNat, ¬ Contends store task (answers.run index)
        (branchRun task answers attempt count index) := by
  unfold leadingBranch
  rw [← head?_orderBy, head?_eq_none_iff, orderBy_eq_nil_iff, eq_nil_iff_forall_not_mem]
  simp only [mem_contenders, not_and]

theorem finishedRun_taskId (store : Store) (task : Task) (branch : RunAnswers) (run : Run) :
    (finishedRun store task branch run).taskId = run.taskId := by
  obtain ⟨_, _, finished⟩ := finishedRun_eq store task branch run
  rw [finished]

theorem finishedRun_createdAt (store : Store) (task : Task) (branch : RunAnswers) (run : Run) :
    (finishedRun store task branch run).createdAt = run.createdAt := by
  obtain ⟨_, _, finished⟩ := finishedRun_eq store task branch run
  rw [finished]

theorem finishedRun_not_disposed {run : Run} {branch : RunAnswers} {work : WorkResult}
    (worked : branch.workResult = .ok work) :
    (finishedRun store task branch run).status ≠ .disposed := by
  unfold finishedRun
  simp only [worked]
  split_ifs <;> simp

theorem exists_disposed {store next : Store} {index : Nat} (several : 2 ≤ count)
    (winning : index < count.toNat)
    (left : BranchesLeft task answers attempt count store (List.range count.toNat) next)
    (newBranch : ∀ run ∈ store.runs.rows, run.branchId ≠ some answers.branchId) :
    ∃ other < count.toNat, finishedRun store task (answers.run other)
          (branchRun task answers attempt count other) ∉
        (disposeRuns (finishedRun store task (answers.run index)
            (branchRun task answers attempt count index))
          ((next.listRuns task.id).filter fun run => run.branchId = some answers.branchId)
          next).runs.rows := by
  obtain ⟨other, inRange, apart⟩ : ∃ other < count.toNat, other ≠ index := by
    by_cases zero : index = 0
    · exact ⟨1, by omega, by omega⟩
    · exact ⟨0, by omega, by omega⟩
  refine ⟨other, inRange, ?_⟩
  intro stays
  obtain ⟨_, worked⟩ := left.worked other (mem_range.mpr inRange)
  apply finishedRun_not_disposed worked
  apply disposed_disposeRuns next _ _ _ stays rfl
  · rw [listRuns_branches left newBranch]
    apply mem_map_of_mem
    rw [mem_orderBy, mem_range]
    exact inRange
  · simp only [finishedRun_id]
    intro same
    exact apart (distinct_branches left inRange winning same)

end

theorem createBranches_left {branched : Store} (found : store.getTask task.id = some task)
    (created : createBranches store task.id answers = (branched, .ok runs)) :
    2 ≤ task.maxBranches ∧
      branched.runs.rows = store.runs.rows ++ runs ∧
        (∃ current, branched.getTask task.id = some current ∧
          current.status = .active) ∧
          BranchesLeft task answers (store.nextAttempt task.id)
            task.maxBranches (store.writeTaskStatus task.id .active)
            (List.range task.maxBranches.toNat) branched := by
  have count : branchCount task none = task.maxBranches := min_self _
  have again := created
  rw [createBranches_eq] at again
  obtain ⟨active, left⟩ := createBranchesOf_left found again
  rw [count] at left
  unfold createBranches at created
  simp only [found] at created
  cases project : store.getProject task.projectId with
  | none =>
    simp only [project] at created
    cases created
  | some _ =>
    simp only [project] at created
    by_cases few : task.maxBranches < 2
    · simp only [if_pos few] at created
      cases created
    simp only [if_neg few] at created
    cases activated : store.updateTaskStatus task.id .active with
    | error _ =>
      simp only [activated] at created
      cases created
    | ok _ =>
      simp only [activated] at created
      obtain ⟨_, rfl⟩ := Store.updateTaskStatus_eq_ok_iff.mp activated
      obtain ⟨_, rows, _⟩ := runBranches_ok created
      exact ⟨by omega, rows, active, left⟩

def HasWinner (store : Store) (task : Task) (answers : BranchAnswers) (attempt : Int) : Prop :=
  ∃ index < task.maxBranches.toNat, Contends store task (answers.run index)
      (branchRun task answers attempt task.maxBranches index)

end BranchService

namespace RunService

open BranchService

theorem resolveBranching_fresh {store next : Store} {task : Task} {answers : BranchAnswers}
    {runs : List Run}
    (found : store.getTask task.id = some task)
    (ended : resolveBranching store task.id answers = (next, .ok runs)) :
    ∀ index < task.maxBranches.toNat, ∀ run ∈ store.runs.rows,
      run.id ≠ (answers.run index).runId := by
  unfold resolveBranching at ended
  rcases created : createBranches store task.id answers with
    ⟨_, _ | _⟩
  · simp only [created] at ended
    cases ended
  · obtain ⟨_, _, _, left⟩ := createBranches_left found created
    intro index inRange
    exact left.fresh index (mem_range.mpr inRange)

theorem resolveBranching_collects {store next : Store} {task : Task} {answers : BranchAnswers}
    {runs : List Run}
    (found : store.getTask task.id = some task)
    (newBranch : ∀ run ∈ store.runs.rows, run.branchId ≠ some answers.branchId)
    (ended : resolveBranching store task.id answers = (next, .ok runs)) :
    CollectedRuns store task.id ((List.range task.maxBranches.toNat).map
        fun index => (answers.run index).now)
      (HasWinner store task answers (store.nextAttempt task.id)) runs next := by
  unfold resolveBranching at ended
  rcases created : createBranches store task.id answers with
    ⟨branched, error | branchRuns⟩
  · simp only [created] at ended
    cases ended
  · simp only [created] at ended
    have settled : next = (selectWinner branched task.id answers).1 ∧
        runs = branchRuns := by
      rcases selected : selectWinner branched task.id answers with
        ⟨left, error | winner⟩
      · simp only [selected] at ended
        cases error <;> cases ended
        exact ⟨rfl, rfl⟩
      · simp only [selected] at ended
        cases ended
        exact ⟨rfl, rfl⟩
    obtain ⟨rfl, rfl⟩ := settled
    obtain ⟨several, rows, ⟨_, currentFound, active⟩, left⟩ := createBranches_left found created
    have listed : runs = (List.range task.maxBranches.toNat).map fun index =>
        finishedRun (store.writeTaskStatus task.id .active) task (answers.run index)
          (branchRun task answers (store.nextAttempt task.id) task.maxBranches index) :=
      append_cancel_left (rows.symm.trans left.runs)
    have distinct := branched.runs.keysNodup
    rw [rows, map_append, nodup_append] at distinct
    have leads : HasWinner store task answers (store.nextAttempt task.id) ↔
        ¬ leadingBranch task answers (store.nextAttempt task.id)
          task.maxBranches (store.writeTaskStatus task.id .active) = none := by
      rw [leadingBranch_eq_none_iff]
      simp only [not_forall, not_not, exists_prop]
      rfl
    have selection := selectWinner_cases left newBranch currentFound active
    refine ⟨?_, ?_, ?_, ?_, ?_, ?_⟩
    · have added : KeepsRuns store branched := KeepsRuns.of_append rows
      apply added.trans
      rcases selection with ⟨_, _, same⟩ | ⟨index, _, _, _, _, disposed⟩
      · intro run member
        rw [same]
        exact ⟨run, member, rfl, rfl⟩
      · intro run member
        rw [disposed]
        exact KeepsRuns.disposeRuns _ _ branched run member
    · intro run member
      rw [listed] at member
      obtain ⟨index, _, rfl⟩ := mem_map.mp member
      exact finishedRun_taskId _ task (answers.run index) _
    · intro run member earlier earlierMember
      exact distinct.2.2 earlier.id (mem_map_of_mem earlierMember) run.id (mem_map_of_mem member)
    · rw [listed, map_map]
      apply map_congr_left
      intro index _
      exact finishedRun_createdAt _ task (answers.run index) _
    · intro none
      rw [leads, not_not] at none
      rcases selection with ⟨_, _, same⟩ | ⟨index, _, leading, _⟩
      · rw [same]
        exact rows
      · rw [leading] at none
        cases none
    · intro winner
      rw [leads] at winner
      rcases selection with
        ⟨none, _⟩ | ⟨index, _, leading, _, _, disposed⟩
      · exact absurd none winner
      · have winning := (mem_contenders.mp (mem_of_find?_eq_some leading)).1
        obtain ⟨_, inRange, missing⟩ :=
          @exists_disposed _ _ _ _ _ _ index several winning left newBranch
        rw [← disposed] at missing
        refine ⟨_, ?_, missing⟩
        rw [listed]
        apply mem_map_of_mem
        rw [mem_range]
        exact inRange

end RunService

end AccruviaHarness
