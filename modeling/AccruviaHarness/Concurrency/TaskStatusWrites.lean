import AccruviaHarness.Library.Runs
import AccruviaHarness.Store.Recovery
import AccruviaHarness.Store.TaskStatus

/-!
# Concurrent status writes

Processes execute `update_task_status`, `_apply_task_status_for_run` and
`recover_stale_state` on one store, one SQL statement at a time.
-/

namespace AccruviaHarness

open Library

/-- A process inside a status write. `observed` is the status that its
`SELECT` read, and `none` while only the outer read has been executed. -/
structure StatusWriter where
  process : Nat
  taskId : String
  target : TaskStatus
  observed : Option TaskStatus
  deriving DecidableEq, Repr

structure StatusWriters where
  store : Store
  writers : KeyedTable StatusWriter.process

inductive StatusEvent where
  | createTask (task : Task)
  | writeTaskLeases (taskLeases : KeyedTable TaskLease.taskId)
  | recoverStaleState (now : Int)
  | beginUpdateTaskStatus (process : Nat) (taskId : String) (status : TaskStatus)
  | beginApplyTaskStatusForRun (process : Nat) (taskId : String) (status : TaskStatus)
  | selectTaskStatus (process : Nat)
  | writeTaskStatus (process : Nat)

namespace StatusWriters

def initial (store : Store) : StatusWriters where
  store
  writers := KeyedTable.empty _

variable (pool : StatusWriters)

def enroll (writer : StatusWriter) : Option StatusWriters :=
  (pool.writers.insert? writer).map fun writers => { pool with writers }

def dismiss (process : Nat) : StatusWriters :=
  { pool with writers := pool.writers.deleteAt process }

def observe (process : Nat) (observed : TaskStatus) :
    StatusWriters :=
  { pool with
    writers := pool.writers.updateAt process
      ⟨fun writer => { writer with observed := some observed }, fun _ => rfl⟩ }

def step (pool : StatusWriters) : StatusEvent → Option StatusWriters
  | .createTask task => some { pool with store := pool.store.createTask task }
  | .writeTaskLeases taskLeases => some { pool with store := { pool.store with taskLeases } }
  | .recoverStaleState now => some { pool with store := (pool.store.recoverStaleState now).1 }
  | .beginUpdateTaskStatus process taskId status =>
    match pool.store.selectTaskStatus taskId status with
    | .error _ => some pool
    | .ok observed =>
      pool.enroll
        { process, taskId, target := status, observed := some observed }
  | .beginApplyTaskStatusForRun process taskId status =>
    match pool.store.keepsTaskStatus taskId status with
    | .error _ => some pool
    | .ok (some _) => some pool
    | .ok none => pool.enroll { process, taskId, target := status, observed := none }
  | .selectTaskStatus process =>
    match pool.writers.lookup process with
    | some { taskId, target, observed := none, .. } =>
      match pool.store.selectTaskStatus taskId target with
      | .error _ => some (pool.dismiss process)
      | .ok observed => some (pool.observe process observed)
    | _ => none
  | .writeTaskStatus process =>
    match pool.writers.lookup process with
    | some { taskId, target, observed := some _, .. } =>
      some <| dismiss
        { pool with store := pool.store.writeTaskStatus taskId target }
        process
    | _ => none

/-- Every status that changes follows `VALID_TASK_TRANSITIONS`, and a
completed task stays completed. -/
def StatusesFollowTransitions (_event : StatusEvent) (next : StatusWriters) : Prop :=
  ∀ task ∈ pool.store.tasks.rows, ∃ later ∈ next.store.tasks.rows,
    later.id = task.id ∧ task.status.Allows later.status ∧
      (task.status = .completed → later.status = .completed)

instance (pool : StatusWriters) (event : StatusEvent) (next : StatusWriters) :
    Decidable (pool.StatusesFollowTransitions event next) :=
  inferInstanceAs (Decidable (∀ task ∈ pool.store.tasks.rows, _))

/-- An `UPDATE` on a row that has changed since its `SELECT` would still pass
the validation on the status now in the row. -/
def StaleUpdatesValid (pool : StatusWriters) : StatusEvent → Prop
  | .writeTaskStatus process =>
    ∀ writer ∈ pool.writers.rows, writer.process = process →
      ∀ task ∈ pool.store.tasks.rows, task.id = writer.taskId → some task.status ≠ writer.observed →
          validateTaskTransition task.status writer.target = .ok ()
  | _ => True

/-- Every status that a `SELECT` read has passed the validation. -/
def WritersValidated : Prop :=
  ∀ writer ∈ pool.writers.rows, ∀ observed, writer.observed = some observed →
    observed.Allows writer.target

variable {pool next : StatusWriters} {writer : StatusWriter}

theorem store_of_enroll (enrolled : pool.enroll writer = some next) :
    next.store = pool.store := by
  simp only [enroll, Option.map_eq_some_iff] at enrolled
  obtain ⟨_, _, rfl⟩ := enrolled
  rfl

theorem initial_writersValidated (store : Store) : (initial store).WritersValidated := by
  intro writer member
  cases member

theorem WritersValidated.enroll (validated : pool.WritersValidated)
    (passed : ∀ observed, writer.observed = some observed → observed.Allows writer.target)
    (enrolled : pool.enroll writer = some next) :
    next.WritersValidated := by
  simp only [StatusWriters.enroll, Option.map_eq_some_iff] at enrolled
  obtain ⟨_, inserted, rfl⟩ := enrolled
  intro candidate member
  simp only [KeyedTable.rows_of_insert? inserted, List.mem_append, List.mem_singleton] at member
  rcases member with earlier | rfl
  · exact validated candidate earlier
  · exact passed

theorem WritersValidated.dismiss (validated : pool.WritersValidated)
    (process : Nat) (store : Store) :
    (({ pool with store } : StatusWriters).dismiss process).WritersValidated :=
  fun writer member => validated writer (KeyedTable.mem_deleteAt.mp member).1

theorem WritersValidated.observe (validated : pool.WritersValidated)
    {process : Nat} {observed : TaskStatus}
    (found : pool.writers.lookup process = some writer)
    (passed : observed.Allows writer.target) :
    (pool.observe process observed).WritersValidated := by
  obtain ⟨known, own⟩ := pool.writers.lookup_eq_some_iff.mp found
  intro candidate member read readSome
  obtain ⟨earlier, earlierMember, rfl⟩ := KeyedTable.mem_updateAt.mp member
  by_cases same : earlier.process = process
  · have sameWriter : earlier = writer :=
      pool.writers.eq_of_key_eq earlierMember known (same.trans own.symm)
    simp only [same, if_true, Option.some.injEq] at readSome ⊢
    subst readSome
    rw [sameWriter]
    exact passed
  · simp only [same, if_false] at readSome ⊢
    exact validated earlier earlierMember read readSome

theorem step_writersValidated (pool : StatusWriters) (event : StatusEvent) (next : StatusWriters)
    (validated : pool.WritersValidated)
    (taken : pool.step event = some next) :
    next.WritersValidated := by
  cases event with
  | createTask _ =>
    cases taken
    exact validated
  | writeTaskLeases _ =>
    cases taken
    exact validated
  | recoverStaleState _ =>
    cases taken
    exact validated
  | beginUpdateTaskStatus _ _ _ =>
    simp only [step] at taken
    split at taken
    · cases taken
      exact validated
    next observed selected =>
      obtain ⟨_, _, _, allowed⟩ := Store.selectTaskStatus_eq_ok_iff.mp selected
      apply validated.enroll _ taken
      rintro read ⟨rfl⟩
      exact allowed
  | beginApplyTaskStatusForRun _ _ _ =>
    simp only [step] at taken
    split at taken
    · cases taken
      exact validated
    · cases taken
      exact validated
    · apply validated.enroll _ taken
      intro read readSome
      cases readSome
  | selectTaskStatus process =>
    simp only [step] at taken
    split at taken
    next writer taskId target found =>
      split at taken
      · cases taken
        exact validated.dismiss process pool.store
      next observed selected =>
        cases taken
        obtain ⟨_, _, _, allowed⟩ := Store.selectTaskStatus_eq_ok_iff.mp selected
        exact validated.observe found allowed
    · cases taken
  | writeTaskStatus process =>
    simp only [step] at taken
    split at taken
    next writer taskId target observed found =>
      cases taken
      exact validated.dismiss process _
    · cases taken

variable (event : StatusEvent)

theorem statusesFollow_of_kept
    (kept : ∀ task ∈ pool.store.tasks.rows, task ∈ next.store.tasks.rows) :
    pool.StatusesFollowTransitions event next :=
  fun task member => ⟨task, kept task member, rfl, TaskStatus.Allows.refl _, id⟩

theorem statusesFollow_recoverStaleState (pool : StatusWriters) (now : Int) :
    pool.StatusesFollowTransitions (.recoverStaleState now)
      { pool with store := (pool.store.recoverStaleState now).1 } := by
  intro task member
  refine ⟨_, Store.mem_tasks_recoverStaleState.mpr ⟨task, member, rfl⟩, ?_⟩
  by_cases orphaned :
      (pool.store.deleteExpiredLeases now).isOrphaned task = true
  · have active : task.status = .active := by
      simp only [Store.isOrphaned, Bool.and_eq_true, decide_eq_true_eq]
        at orphaned
      exact orphaned.1
    have allowed : TaskStatus.active.Allows .pending := by decide
    rw [if_pos orphaned, active]
    exact ⟨rfl, allowed, nofun⟩
  · rw [if_neg orphaned]
    exact ⟨rfl, TaskStatus.Allows.refl _, id⟩

theorem statusesFollow_writeTaskStatus_iff {taskId : String} {target : TaskStatus}
    (written : next.store = pool.store.writeTaskStatus taskId target) :
    pool.StatusesFollowTransitions event next ↔
      ∀ task ∈ pool.store.tasks.rows, task.id = taskId → task.status.Allows target := by
  unfold StatusesFollowTransitions
  rw [written]
  constructor
  · intro follows task member own
    obtain ⟨_, laterMember, sameId, allowed, _⟩ := follows task member
    obtain ⟨earlier, _, rfl⟩ := Store.mem_tasks_writeTaskStatus.mp laterMember
    have earlierOwn : earlier.id = taskId := by
      rw [← own, ← sameId]
      split <;> rfl
    rw [if_pos earlierOwn] at allowed
    exact allowed
  · intro allowed task member
    refine ⟨_, Store.mem_tasks_writeTaskStatus.mpr ⟨task, member, rfl⟩, ?_⟩
    by_cases own : task.id = taskId
    · have permitted := allowed task member own
      rw [if_pos own]
      refine ⟨rfl, permitted, ?_⟩
      intro completed
      rw [completed] at permitted
      exact permitted.eq_of_completed
    · rw [if_neg own]
      exact ⟨rfl, TaskStatus.Allows.refl _, id⟩

theorem statusesFollow_iff_staleUpdatesValid
    (pool : StatusWriters) (event : StatusEvent) (next : StatusWriters)
    (validated : pool.WritersValidated)
    (taken : pool.step event = some next) :
    pool.StatusesFollowTransitions event next ↔ pool.StaleUpdatesValid event := by
  cases event with
  | createTask _ =>
    cases taken
    exact iff_of_true (statusesFollow_of_kept _ fun _ => Store.mem_tasks_createTask) trivial
  | writeTaskLeases _ =>
    cases taken
    exact iff_of_true (statusesFollow_of_kept _ fun _ => id) trivial
  | recoverStaleState now =>
    cases taken
    exact iff_of_true (statusesFollow_recoverStaleState pool now) trivial
  | beginUpdateTaskStatus _ _ _ =>
    have sameStore : next.store = pool.store := by
      simp only [step] at taken
      split at taken
      · cases taken
        rfl
      · exact store_of_enroll taken
    exact iff_of_true (statusesFollow_of_kept _ fun _ => by rw [sameStore]; exact id) trivial
  | beginApplyTaskStatusForRun _ _ _ =>
    have sameStore : next.store = pool.store := by
      simp only [step] at taken
      split at taken
      · cases taken
        rfl
      · cases taken
        rfl
      · exact store_of_enroll taken
    exact iff_of_true (statusesFollow_of_kept _ fun _ => by rw [sameStore]; exact id) trivial
  | selectTaskStatus _ =>
    have sameStore : next.store = pool.store := by
      simp only [step] at taken
      split at taken
      · split at taken <;> cases taken <;> rfl
      · cases taken
    exact iff_of_true (statusesFollow_of_kept _ fun _ => by rw [sameStore]; exact id) trivial
  | writeTaskStatus _ =>
    simp only [step] at taken
    split at taken
    next name taskId target observed found =>
      cases taken
      rw [statusesFollow_writeTaskStatus_iff _ rfl]
      obtain ⟨known, rfl⟩ := pool.writers.lookup_eq_some_iff.mp found
      have passed : observed.Allows target := validated _ known observed rfl
      constructor
      · intro allowed writer member own task taskMember ownTask _
        have sameWriter := pool.writers.eq_of_key_eq member known own
        subst sameWriter
        exact (validateTaskTransition_ok_iff _ _).mpr (allowed task taskMember ownTask)
      · intro valid task taskMember ownTask
        by_cases fresh : task.status = observed
        · rw [fresh]
          exact passed
        · exact (validateTaskTransition_ok_iff _ _).mp
            (valid _ known rfl task taskMember ownTask (by simpa using fresh))
    · cases taken

def CompletedStays (pool target : StatusWriters) : Prop :=
  ∀ task ∈ pool.store.tasks.rows, task.status = .completed →
    ∃ later ∈ target.store.tasks.rows,
      later.id = task.id ∧ later.status = .completed

theorem CompletedStays.refl (pool : StatusWriters) : pool.CompletedStays pool :=
  fun task member completed => ⟨task, member, rfl, completed⟩

theorem CompletedStays.trans {first second third : StatusWriters}
    (before : first.CompletedStays second)
    (after : second.CompletedStays third) : first.CompletedStays third := by
  intro task member completed
  obtain ⟨later, laterMember, sameId, laterCompleted⟩ := before task member completed
  obtain ⟨last, lastMember, lastId, lastCompleted⟩ := after later laterMember laterCompleted
  exact ⟨last, lastMember, lastId.trans sameId, lastCompleted⟩

theorem StatusesFollowTransitions.completedStays {event : StatusEvent}
    (follows : pool.StatusesFollowTransitions event next) :
    pool.CompletedStays next := by
  intro task member completed
  obtain ⟨later, laterMember, sameId, _, stays⟩ := follows task member
  exact ⟨later, laterMember, sameId, stays completed⟩

/-- The writes of a run follow the transitions exactly when each of its stale
`UPDATE`s would pass the validation again, and then `completed` is absorbing
along the whole run. -/
theorem status_writes_sound_iff (store : Store) (events : List StatusEvent) :
    (EveryStep step StatusesFollowTransitions (initial store) events ↔
      StepsMeet step StaleUpdatesValid (initial store) events) ∧
      ∀ before after middle target, events = before ++ after →
        StepsMeet step StaleUpdatesValid (initial store) events →
          runEvents step (initial store) before = some middle →
            runEvents step middle after = some target → middle.CompletedStays target := by
  have sound :
      EveryStep step StatusesFollowTransitions (initial store) events ↔
        StepsMeet step StaleUpdatesValid (initial store) events :=
    everyStep_iff_of_invariant
      (fun pool event next validated _ => step_writersValidated pool event next validated)
      statusesFollow_iff_staleUpdatesValid (initial_writersValidated store)
      events
  refine ⟨sound, ?_⟩
  intro before after middle target split meets runBefore runAfter
  have follows := sound.mpr meets
  rw [split] at follows
  have followsAfter := everyStep_of_append follows runBefore
  have stays : EveryStep step (fun source _ next => source.CompletedStays next) middle after :=
    everyStep_mono (fun _ _ _ => StatusesFollowTransitions.completedStays) followsAfter
  exact runEvents_related CompletedStays.refl CompletedStays.trans stays runAfter

def finishedTwiceStore : Store where
  tasks := .single { id := "task", projectId := "project", status := .active }

/-- Both processes read `active`; the second `UPDATE` reopens what the first
has completed. -/
def finishedTwice : List StatusEvent :=
  [.beginApplyTaskStatusForRun 0 "task" .completed, .selectTaskStatus 0,
    .beginApplyTaskStatusForRun 1 "task" .pending, .selectTaskStatus 1,
    .writeTaskStatus 0, .writeTaskStatus 1]

theorem completed_task_reopened :
    ¬ ∀ store events, EveryStep step StatusesFollowTransitions (initial store) events := by
  intro follows
  have broken : ¬ EveryStep step StatusesFollowTransitions
      (initial finishedTwiceStore) finishedTwice := by
    decide
  exact broken (follows finishedTwiceStore finishedTwice)

end StatusWriters

end AccruviaHarness
