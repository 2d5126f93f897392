import AccruviaHarness.Store.Recovery

/-!
# What recovery changes

`recover_stale_state` runs four statements, each of which sees what the earlier
ones have written.
-/

namespace AccruviaHarness

open Library List

def terminalRunStatuses : List RunStatus := [.completed, .failed, .blocked, .disposed]

theorem mem_inProgressStatuses_iff (status : RunStatus) :
    status ∈ inProgressStatuses ↔ status ∉ terminalRunStatuses := by
  cases status <;> decide

namespace Store

section

variable (store : Store) (now : Int)

def HasLease (taskId : String) : Prop :=
  ∃ lease ∈ store.taskLeases.rows,
    lease.taskId = taskId ∧ now < lease.leaseExpiresAt

instance (taskId : String) : Decidable (store.HasLease now taskId) :=
  inferInstanceAs (Decidable (∃ lease ∈ _, _))

def Stuck (run : Run) : Prop := run.status ∉ terminalRunStatuses ∧ ¬ store.HasLease now run.taskId

instance (run : Run) : Decidable (store.Stuck now run) := inferInstanceAs (Decidable (_ ∧ _))

variable (workerRun : ControlWorkerRun)

def StuckWorker : Prop := ∃ run ∈ store.runs.rows, run.id = workerRun.id ∧ store.Stuck now run

instance (workerRun : ControlWorkerRun) : Decidable (store.StuckWorker now workerRun) :=
  inferInstanceAs (Decidable (∃ run ∈ _, _))

def Abandoned (task : Task) : Prop := task.status = .active ∧ ¬ store.HasLease now task.id

instance (task : Task) : Decidable (store.Abandoned now task) := inferInstanceAs (Decidable (_ ∧ _))

def recoveredRun (run : Run) : Run :=
  if store.Stuck now run then
    { run with
      status := .failed, summary := "Recovered: process crash detected" }
  else run

def recoveredWorkerRun : ControlWorkerRun :=
  if store.StuckWorker now workerRun then
    { workerRun with
      status := "failed", classification := workerRun.classification.or (some "system_failure")
      endedAt := workerRun.endedAt.or (some now) }
  else workerRun

def recoveredTask (task : Task) : Task :=
  if store.Abandoned now task then { task with status := .pending } else task

end

/-- Exactly the expired leases are gone, exactly the stuck runs have failed
together with their worker runs, exactly the abandoned tasks are pending, and
every other row is as before. -/
structure Recovered (before : Store) (now : Int) (after : Store) : Prop where
  taskLeases : after.taskLeases.rows =
    before.taskLeases.rows.filter fun lease => now < lease.leaseExpiresAt
  runs : after.runs.rows = before.runs.rows.map (before.recoveredRun now)
  workerRuns : after.control.workerRuns.rows =
    before.control.workerRuns.rows.map (before.recoveredWorkerRun now)
  tasks : after.tasks.rows = before.tasks.rows.map (before.recoveredTask now)
  others : after =
    { before with
      taskLeases := after.taskLeases, runs := after.runs, tasks := after.tasks
      control := { before.control with workerRuns := after.control.workerRuns } }

variable (store : Store) (now : Int)

def IsSettled : Prop :=
  (∀ task ∈ store.tasks.rows, task.status = .active → store.HasLease now task.id) ∧
  ∀ run ∈ store.runs.rows, run.status ∉ terminalRunStatuses → store.HasLease now run.taskId

/-! ## One statement after the other -/

theorem hasLease_deleteExpiredLeases (taskId : String) :
    (store.deleteExpiredLeases now).HasLease now taskId ↔ store.HasLease now taskId := by
  constructor
  · rintro ⟨lease, member, own⟩
    exact ⟨lease, (mem_filter.mp member).1, own⟩
  · rintro ⟨lease, member, own, unexpired⟩
    refine ⟨lease, mem_filter.mpr ⟨member, ?_⟩, own, unexpired⟩
    simpa using unexpired

theorem isStaleRun_iff (run : Run) :
    (store.deleteExpiredLeases now).isStaleRun now run = true ↔ store.Stuck now run := by
  have leases := hasLease_deleteExpiredLeases store now run.taskId
  unfold Stuck
  rw [← leases, ← mem_inProgressStatuses_iff]
  simp [isStaleRun, HasLease]

theorem isLeased_deleteExpiredLeases_iff (taskId : String) :
    (store.deleteExpiredLeases now).isLeased taskId = true ↔ store.HasLease now taskId := by
  unfold isLeased
  constructor
  · intro leased
    obtain ⟨lease, found⟩ := Option.isSome_iff_exists.mp leased
    obtain ⟨member, own⟩ := KeyedTable.lookup_eq_some_iff _ |>.mp found
    obtain ⟨stored, unexpired⟩ := mem_filter.mp member
    exact ⟨lease, stored, own, by simpa using unexpired⟩
  · intro hasLease
    obtain ⟨_, member, own, _⟩ := (hasLease_deleteExpiredLeases store now taskId).mpr hasLease
    have found := KeyedTable.lookup_eq_some_iff _ |>.mpr ⟨member, own⟩
    rw [found]
    rfl

theorem isOrphaned_iff (task : Task) :
    (store.deleteExpiredLeases now).isOrphaned task = true ↔ store.Abandoned now task := by
  have leased := isLeased_deleteExpiredLeases_iff store now task.id
  unfold Abandoned isOrphaned
  rw [← leased]
  simp

theorem failStaleRun_eq :
    ((store.deleteExpiredLeases now).failStaleRun now).apply = store.recoveredRun now := by
  funext run
  exact if_congr (isStaleRun_iff store now run) rfl rfl

theorem failWorkerRun_eq :
    (failWorkerRun now (((store.deleteExpiredLeases now).runs.rows.filter
      ((store.deleteExpiredLeases now).isStaleRun now)).map Run.id)).apply =
        store.recoveredWorkerRun now := by
  funext workerRun
  refine if_congr ?_ rfl rfl
  rw [contains_iff_mem, mem_map]
  constructor
  · rintro ⟨run, member, same⟩
    obtain ⟨stored, stale⟩ := mem_filter.mp member
    exact ⟨run, stored, same, (isStaleRun_iff store now run).mp stale⟩
  · rintro ⟨run, stored, same, stuck⟩
    exact ⟨run, mem_filter.mpr ⟨stored, (isStaleRun_iff store now run).mpr stuck⟩, same⟩

theorem resetOrphanedTask_eq :
    ((store.deleteExpiredLeases now).failStaleRuns now).resetOrphanedTask.apply =
      store.recoveredTask now := by
  funext task
  exact if_congr (isOrphaned_iff store now task) rfl rfl

theorem recovered_recoverStaleState :
    Recovered store now (store.recoverStaleState now).1 where
  taskLeases := by
    refine filter_congr fun lease _ => ?_
    rw [← decide_not]
    exact decide_eq_decide.mpr not_le
  runs := congrArg (fun apply => store.runs.rows.map apply)
    (failStaleRun_eq store now)
  workerRuns := congrArg (fun apply => store.control.workerRuns.rows.map apply)
    (failWorkerRun_eq store now)
  tasks := congrArg (fun apply => store.tasks.rows.map apply)
    (resetOrphanedTask_eq store now)
  others := rfl

/-! ## The second call -/

variable {before after : Store} {now : Int}

theorem Recovered.hasLease_iff (recovered : Recovered before now after) (taskId : String) :
    after.HasLease now taskId ↔ before.HasLease now taskId := by
  unfold HasLease
  rw [recovered.taskLeases]
  constructor
  · rintro ⟨lease, member, own⟩
    exact ⟨lease, (mem_filter.mp member).1, own⟩
  · rintro ⟨lease, member, own, unexpired⟩
    exact ⟨lease, mem_filter.mpr ⟨member, by simpa using unexpired⟩, own, unexpired⟩

theorem Recovered.isSettled (recovered : Recovered before now after) : after.IsSettled now := by
  constructor
  · intro task member active
    rw [recovered.tasks] at member
    obtain ⟨earlier, _, rfl⟩ := mem_map.mp member
    unfold recoveredTask at active ⊢
    split at active
    · cases active
    next kept =>
      rw [if_neg kept, recovered.hasLease_iff]
      by_contra unprotected
      exact kept ⟨active, unprotected⟩
  · intro run member running
    rw [recovered.runs] at member
    obtain ⟨_, _, rfl⟩ := mem_map.mp member
    unfold recoveredRun at running ⊢
    split at running
    · have terminal : RunStatus.failed ∈ terminalRunStatuses := by decide
      exact absurd terminal running
    next kept =>
      rw [if_neg kept, recovered.hasLease_iff]
      by_contra unprotected
      exact kept ⟨running, unprotected⟩

theorem map_eq_self {Row : Type} {rows : List Row} {change : Row → Row}
    (kept : ∀ row ∈ rows, change row = row) : rows.map change = rows :=
  (map_congr_left kept).trans (map_id rows)

theorem recoverStaleState_of_isSettled {store : Store} (settled : store.IsSettled now)
    (unexpired : ∀ lease ∈ store.taskLeases.rows, now < lease.leaseExpiresAt) :
    (store.recoverStaleState now).1 = store := by
  have recovered := recovered_recoverStaleState store now
  have running : ∀ run ∈ store.runs.rows, ¬ store.Stuck now run :=
    fun run member stuck => stuck.2 (settled.2 run member stuck.1)
  have sameLeases : (store.recoverStaleState now).1.taskLeases =
      store.taskLeases := by
    apply KeyedTable.ext
    rw [recovered.taskLeases, filter_eq_self]
    exact fun lease member => decide_eq_true (unexpired lease member)
  have sameRuns : (store.recoverStaleState now).1.runs = store.runs := by
    apply KeyedTable.ext
    rw [recovered.runs]
    exact map_eq_self fun run member => if_neg (running run member)
  have sameWorkerRuns : (store.recoverStaleState now).1.control.workerRuns =
      store.control.workerRuns := by
    apply KeyedTable.ext
    rw [recovered.workerRuns]
    refine map_eq_self fun workerRun _ => if_neg ?_
    rintro ⟨run, member, _, stuck⟩
    exact running run member stuck
  have sameTasks : (store.recoverStaleState now).1.tasks = store.tasks := by
    apply KeyedTable.ext
    rw [recovered.tasks]
    refine map_eq_self fun task member => if_neg ?_
    exact fun abandoned => abandoned.2 (settled.1 task member abandoned.1)
  rw [recovered.others, sameLeases, sameRuns, sameWorkerRuns, sameTasks]

/-- `recover_stale_state` changes exactly the stale rows, leaves none of them,
and a second call with the same clock value changes nothing. -/
theorem recoverStaleState_exact (store : Store) (now : Int) :
    Recovered store now (store.recoverStaleState now).1 ∧
      (store.recoverStaleState now).1.IsSettled now ∧
        ((store.recoverStaleState now).1.recoverStaleState now).1 =
          (store.recoverStaleState now).1 := by
  have recovered := recovered_recoverStaleState store now
  have settled := recovered.isSettled
  refine ⟨recovered, settled, recoverStaleState_of_isSettled settled ?_⟩
  intro lease member
  rw [recovered.taskLeases] at member
  simpa using (mem_filter.mp member).2

end Store

/-!
## The counts of a recovery

`recover_stale_state` answers with the numbers of rows that it has changed.
They are what the store has fewer of afterwards, and where all of them are
zero the store is settled and stays as it is.
-/

theorem countP_map_add_countP {Row : Type} {counted cleared : Row → Bool} {change : Row → Row}
    (kept : ∀ row, cleared row = false → counted (change row) = counted row)
    (gone : ∀ row, cleared row = true → counted row = true ∧ counted (change row) = false)
    (rows : List Row) :
    (rows.map change).countP counted + rows.countP cleared = rows.countP counted := by
  induction rows with
  | nil => rfl
  | cons row _ _ =>
    rw [map_cons]
    cases clears : cleared row with
    | true =>
      obtain ⟨before, after⟩ := gone row clears
      rw [countP_cons_of_neg (by simp [after]),
        countP_cons_of_pos clears, countP_cons_of_pos before]
      omega
    | false =>
      rw [countP_cons, countP_cons, countP_cons, clears, kept row clears]
      simp only [Bool.false_eq_true, if_false]
      omega

namespace RecoveredCounts

def total (counts : RecoveredCounts) : Nat := counts.runs + counts.tasks + counts.leases

def any (counts : RecoveredCounts) : Bool :=
  0 < counts.runs || 0 < counts.tasks || 0 < counts.leases

theorem any_eq_true_iff {counts : RecoveredCounts} :
    counts.any = true ↔ 0 < counts.total := by
  unfold any total
  simp only [Bool.or_eq_true, decide_eq_true_eq]
  omega

end RecoveredCounts

namespace Store

variable (store : Store)

def unsettledRows : Nat :=
  store.runs.rows.countP (inProgressStatuses.contains ·.status) +
    store.tasks.rows.countP (fun task => task.status = .active) +
    store.taskLeases.rows.length

theorem unsettledRows_deleteExpiredLeases_le (now : Int) :
    (store.deleteExpiredLeases now).unsettledRows ≤ store.unsettledRows := by
  have fewer := length_filter_le (fun lease : TaskLease => !decide (lease.leaseExpiresAt ≤ now))
    store.taskLeases.rows
  exact Nat.add_le_add_left fewer _

theorem unsettledRows_recoverStaleState (now : Int) :
    (store.recoverStaleState now).1.unsettledRows + (store.recoverStaleState now).2.total =
      store.unsettledRows := by
  have runs :
      (store.recoverStaleState now).1.runs.rows.countP (inProgressStatuses.contains ·.status) +
          (store.recoverStaleState now).2.runs =
        store.runs.rows.countP (inProgressStatuses.contains ·.status) := by
    refine countP_map_add_countP ?_ ?_ store.runs.rows
    · intro run fresh
      have kept : ((store.deleteExpiredLeases now).failStaleRun now).apply
          run = run := if_neg (by simp [fresh])
      rw [kept]
    · intro run stale
      have failed : (((store.deleteExpiredLeases now).failStaleRun now).apply
          run).status = .failed := congrArg Run.status (if_pos stale)
      refine ⟨(Bool.and_eq_true _ _ ▸ stale).1, ?_⟩
      rw [failed]
      decide
  have tasks :
      (store.recoverStaleState now).1.tasks.rows.countP (fun task => task.status = .active) +
          (store.recoverStaleState now).2.tasks =
        store.tasks.rows.countP (fun task => task.status = .active) := by
    refine countP_map_add_countP ?_ ?_ store.tasks.rows
    · intro task owned
      have kept : ((store.deleteExpiredLeases now).failStaleRuns
          now).resetOrphanedTask.apply task = task :=
        if_neg (by simp [owned])
      rw [kept]
    · intro task orphaned
      have pending : (((store.deleteExpiredLeases now).failStaleRuns
          now).resetOrphanedTask.apply task).status = .pending :=
        congrArg Task.status (if_pos orphaned)
      refine ⟨(Bool.and_eq_true _ _ ▸ orphaned).1, ?_⟩
      rw [pending]
      decide
  have leases :
      (store.recoverStaleState now).1.taskLeases.rows.length +
          (store.recoverStaleState now).2.leases =
        store.taskLeases.rows.length := by
    have split := store.taskLeases.rows.length_eq_countP_add_countP
      fun lease => decide (lease.leaseExpiresAt ≤ now)
    have kept :
        (store.recoverStaleState now).1.taskLeases.rows.length =
          store.taskLeases.rows.countP fun lease =>
            decide ¬ decide (lease.leaseExpiresAt ≤ now) = true := by
      rw [countP_eq_length_filter]
      refine congrArg List.length (filter_congr fun lease _ => ?_)
      rw [decide_not, Bool.decide_eq_true]
    rw [kept, Nat.add_comm]
    exact split.symm
  unfold unsettledRows RecoveredCounts.total
  omega

theorem recoverStaleState_of_not_any {store : Store} {now : Int}
    (nothing : (store.recoverStaleState now).2.any = false) :
    (store.recoverStaleState now).1 = store ∧ store.IsSettled now := by
  have total : (store.recoverStaleState now).2.total = 0 := by
    by_contra some
    rw [RecoveredCounts.any_eq_true_iff.mpr (Nat.pos_of_ne_zero some)]
      at nothing
    cases nothing
  have noRuns : (store.recoverStaleState now).2.runs = 0 :=
    Nat.eq_zero_of_add_eq_zero_right (Nat.eq_zero_of_add_eq_zero_right total)
  have noTasks : (store.recoverStaleState now).2.tasks = 0 :=
    Nat.eq_zero_of_add_eq_zero_left (Nat.eq_zero_of_add_eq_zero_right total)
  have noLeases : (store.recoverStaleState now).2.leases = 0 :=
    Nat.eq_zero_of_add_eq_zero_left total
  have settled : store.IsSettled now := by
    constructor
    · intro task member active
      by_contra unprotected
      exact countP_eq_zero.mp noTasks task member
        ((isOrphaned_iff store now task).mpr ⟨active, unprotected⟩)
    · intro run member running
      by_contra unprotected
      exact countP_eq_zero.mp noRuns run member
        ((isStaleRun_iff store now run).mpr ⟨running, unprotected⟩)
  refine ⟨recoverStaleState_of_isSettled settled ?_, settled⟩
  intro lease member
  have unexpired := countP_eq_zero.mp noLeases lease member
  simpa using unexpired

end Store

end AccruviaHarness
