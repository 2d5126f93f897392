import AccruviaHarness.Services.RunCleanup

/-!
# The guarantee of `_run_once`

When `run_once` raises, its task should not stay active and no run of it should
stay in progress.
-/

namespace AccruviaHarness

open Library Option

namespace RunService

structure CleanedUp (store : Store) (taskId : String) (left : Store) :
    Prop where
  task : ∀ task, left.getTask taskId = some task → task.status ≠ .active
  runs : ∀ run ∈ left.runs.rows, (∀ earlier ∈ store.runs.rows, earlier.id ≠ run.id) →
      run.status ∉ inProgressStatuses

variable (failures : RunFailures) (store : Store) (task : Task)

/-- What stops `run_once` before it writes the status of the task. -/
def checkObstacles : List (Option PyError) :=
  [.cleanupWorkspaces, .getTask].map failures ++ ((gateSteps task).map failures ++
      errorOf (passGate store task) :: errorOf (unfinished task) ::
        ([.getProject].map failures ++ [errorOf (findProject store task)]))

/-- The store calls of the `except` clause up to the status of the task. -/
def HandlerPasses : Prop := failures .handlerRead = none ∧ failures .handlerWrite = none

instance (failures : RunFailures) : Decidable (HandlerPasses failures) :=
  inferInstanceAs (Decidable (_ ∧ _))

variable (answers : RunAnswers)

/-- The condition in the guarded part: an exception comes while no run is in
progress, before the run is stored or after its last status. Where the task is
active then, the `except` clause gets to its status. -/
def GuardHolds : Prop :=
  if firstObstacle (openingObstacles failures store task answers) ≠ none then HandlerPasses failures
  else
    firstObstacle (openObstacles failures store task answers) = none ∧
      if firstObstacle (closingObstacles failures answers) ≠ none then HandlerPasses failures
      else
        firstObstacle (endingObstacles failures task answers) ≠ none →
          endingStatus store task answers = .active → HandlerPasses failures

/-- An exception comes before the task is activated, and the task was not
active before, or it comes in the guarded part and meets its condition. -/
def RaisesOutsideRun : Prop :=
  if firstObstacle (checkObstacles failures store task) ≠ none ∨ failures .activate ≠ none then
    task.status ≠ .active
  else
    firstObstacle ((phaseSteps .activatePhase task).map failures) = none ∧
      GuardHolds failures (store.writeTaskStatus task.id .active) task answers

variable {failures : RunFailures}

/-! ## The `except` clause -/

/-- What the `except` clause leaves. -/
def handled (failures : RunFailures) (left : Store) (taskId : String) :
    Store :=
  if HandlerPasses failures then reopenActive left taskId else left

theorem handled_runs (left : Store) (taskId : String) :
    (handled failures left taskId).runs = left.runs := by
  unfold handled reopenActive
  split
  · split
    · split <;> rfl
    · rfl
  · rfl

variable {left before store : Store} {taskId : String} {current task : Task}
  {answers : RunAnswers} {run : Run} {program : RunProgram Run}

theorem handled_status (found : left.getTask taskId = some current) :
    (∀ task, (handled failures left taskId).getTask taskId = some task → task.status ≠ .active) ↔
      (current.status = .active → HandlerPasses failures) := by
  unfold handled reopenActive
  by_cases passes : HandlerPasses failures
  · simp only [if_pos passes, found]
    by_cases active : current.status = .active
    · simp [active, Store.getTask_writeTaskStatus, found, passes]
    · simp [active, found]
  · simp [found, passes]

def EndsAt {Result : Type} (program : RunProgram Result) (before after : Store) :
    Prop :=
  (∃ result, program before = .ok result after) ∨ ∃ error, program before = .error error after

theorem endsAt_updateTask (found : left.getTask task.id = some current)
    (active : current.status = .active) :
    EndsAt (updateTask failures .handlerWrite .handlerPhase task .pending) left
      (if failures .handlerWrite = none then left.writeTaskStatus task.id .pending
      else left) := by
  have allowed : current.status.Allows .pending := by
    rw [active]
    decide
  have updating := @stopsIn_updateTask failures left task current found
    .pending allowed (fun state => state = left)
    (fun state => state = left.writeTaskStatus task.id .pending) rfl rfl
    .handlerWrite .handlerPhase
  by_cases written : failures .handlerWrite = none
  · rw [if_pos written]
    have phased := updating.tail (firstObstacle_singleton.trans written)
    by_cases clear :
        firstObstacle ((phaseSteps .handlerPhase task).map failures) = none
    · obtain ⟨result, _, returned, rfl⟩ := (phased.tail clear).ended
      exact .inl ⟨result, returned⟩
    · obtain ⟨error, _, raised, rfl⟩ := phased.raises clear
      exact .inr ⟨error, raised⟩
  · rw [if_neg written]
    obtain ⟨error, _, raised, rfl⟩ := updating.raises (firstObstacle_singleton.trans_ne written)
    exact .inr ⟨error, raised⟩

theorem reopenRaising_of_read (read : failures .handlerRead = none) :
    reopenRaising failures task left =
      (match left.getTask task.id with
        | none => pure ()
        | some current =>
          if current.status = .active then
            updateTask failures .handlerWrite .handlerPhase task .pending
          else pure () : RunProgram Unit) left := by
  have reading : StopsAt (takeSteps failures [.handlerRead]) left
      [failures .handlerRead] (fun state => state = left) ⟨⟩ left :=
    .raiseFirst _ rfl
  exact reading.passed_bind (firstObstacle_singleton.trans read)

theorem endsAt_reopenRaising (task : Task) (left : Store) :
    EndsAt (reopenRaising failures task) left (handled failures left task.id) := by
  have reading : StopsAt (takeSteps failures [.handlerRead]) left
      [failures .handlerRead] (fun state => state = left) ⟨⟩ left :=
    .raiseFirst _ rfl
  by_cases read : failures .handlerRead = none
  · unfold EndsAt handled reopenActive
    rw [reopenRaising_of_read read]
    cases found : left.getTask task.id with
    | none => simp [pure, EStateM.pure]
    | some current =>
      by_cases active : current.status = .active
      · simp only [if_pos active, HandlerPasses, read, true_and]
        exact endsAt_updateTask found active
      · simp [if_neg active, pure, EStateM.pure]
  · have left_alone : handled failures left task.id = left := if_neg fun passes => read passes.1
    obtain ⟨error, here⟩ := ne_none_iff_exists'.mp read
    obtain ⟨_, raised, rfl⟩ := reading.stopped_bind (firstObstacle_singleton.trans here)
    rw [left_alone]
    exact .inr ⟨error, raised⟩

/-! ## The guarded part -/

theorem guardedRun_of_error {error : PyError}
    (raised : runOnceInnerRaising failures task answers before = .error error left) :
    ∃ later, guardedRun failures task answers before =
      .error later (handled failures left task.id) := by
  have caught : guardedRun failures task answers before =
      (do reopenRaising failures task; throw error : RunProgram Run) left := by
    show EStateM.tryCatch _ _ before = _
    unfold EStateM.tryCatch
    rw [raised]
    rfl
  have sequel : (do reopenRaising failures task; throw error :
      RunProgram Run) left = EStateM.bind (reopenRaising failures task) (fun _ => throw error)
          left := rfl
  rw [caught, sequel, EStateM.bind]
  obtain ⟨⟨⟩, returned⟩ | ⟨later, again⟩ := endsAt_reopenRaising task left
  · rw [returned]
    exact ⟨error, rfl⟩
  · rw [again]
    exact ⟨later, rfl⟩

theorem guardedRun_of_ok
    (returned : runOnceInnerRaising failures task answers before = .ok run left) :
    guardedRun failures task answers before = .ok run left := by
  show EStateM.tryCatch _ _ before = _
  unfold EStateM.tryCatch
  rw [returned]

def CleansUp (program : RunProgram Run) (store before : Store) (taskId : String) : Prop :=
  ∀ error left, program before = .error error left → CleanedUp store taskId left

theorem cleansUp_iff_of_error {error : PyError} (raised : program before = .error error left) :
    CleansUp program store before taskId ↔ CleanedUp store taskId left := by
  constructor
  · intro cleans
    exact cleans error left raised
  · rintro cleaned _ _ again
    rw [raised] at again
    cases again
    exact cleaned

theorem cleansUp_of_ok (returned : program before = .ok run left) :
    CleansUp program store before taskId := by
  intro error other raised
  rw [returned] at raised
  cases raised

theorem cleanedUp_handled_iff (found : left.getTask taskId = some current)
    (runs : ∀ run ∈ left.runs.rows, (∀ earlier ∈ store.runs.rows, earlier.id ≠ run.id) →
        run.status ∉ inProgressStatuses) :
    CleanedUp store taskId (handled failures left taskId) ↔
      (current.status = .active → HandlerPasses failures) := by
  rw [← handled_status found]
  constructor
  · exact CleanedUp.task
  · intro task
    refine ⟨task, ?_⟩
    rw [handled_runs]
    exact runs

theorem Unstarted.no_new_run (unstarted : Unstarted store left) :
    ∀ run ∈ left.runs.rows, (∀ earlier ∈ store.runs.rows, earlier.id ≠ run.id) →
        run.status ∉ inProgressStatuses := by
  rw [unstarted.2]
  intro run member fresh
  exact absurd rfl (fresh run member)

theorem RunAt.new_runs {statuses : RunStatus → Prop}
    (placed : RunAt store.runs.rows run statuses left) :
    ∀ other ∈ left.runs.rows, (∀ earlier ∈ store.runs.rows, earlier.id ≠ other.id) →
        statuses other.status := by
  obtain ⟨_, _, own, rows⟩ := placed
  intro other member fresh
  rw [rows, List.mem_append, List.mem_singleton] at member
  rcases member with earlier | rfl
  · exact absurd rfl (fresh other earlier)
  · exact own

theorem not_cleanedUp_of_inProgress (fresh : ∀ earlier ∈ store.runs.rows, earlier.id ≠ run.id)
    (inProgress : InProgress store run left) :
    ¬ CleanedUp store taskId (handled failures left taskId) := by
  obtain ⟨_, status, summary, own, rows⟩ := inProgress
  rintro ⟨_, runs⟩
  rw [handled_runs, rows] at runs
  exact runs { run with status, summary } (by simp) fresh own

theorem fresh_of_opened (opened :
      firstObstacle (openingObstacles failures store task answers) = none) :
    ∀ earlier ∈ store.runs.rows, earlier.id ≠ (newRun store task answers).id := by
  have passed : errorOf (storedRun store (newRun store task answers)) =
      none := by
    apply firstObstacle_eq_none_iff.mp opened
    simp [openingObstacles]
  cases stored : storedRun store (newRun store task answers) with
  | error _ =>
    rw [stored] at passed
    cases passed
  | ok _ => exact (conducted_of_storedRun stored).1.openRun.2

theorem guardedRun_cleansUp_iff (answers : RunAnswers)
    (found : store.getTask task.id = some current)
    (active : current.status = .active) :
    CleansUp (guardedRun failures task answers) store store task.id ↔
      GuardHolds failures store task answers := by
  have opening := @stopsIn_runOnceInner failures store task current answers found active
  unfold runStages at opening
  unfold GuardHolds
  have foundIn : ∀ {left : Store}, left.tasks = store.tasks →
      left.getTask task.id = some current := by
    intro left tasks
    rw [← found, Store.getTask, tasks, Store.getTask]
  by_cases opened :
      firstObstacle (openingObstacles failures store task answers) = none
  · rw [if_neg (not_not_intro opened)]
    have working := opening.tail opened
    by_cases worked :
        firstObstacle (openObstacles failures store task answers) = none
    · rw [and_iff_right worked]
      have closing := working.tail worked
      by_cases closed :
          firstObstacle (closingObstacles failures answers) = none
      · rw [if_neg (not_not_intro closed)]
        have ending := closing.tail closed
        by_cases ended :
            firstObstacle (endingObstacles failures task answers) = none
        · obtain ⟨_, left, returned, _⟩ := (ending.tail ended).ended
          have cleans : CleansUp (guardedRun failures task answers) store
              store task.id := cleansUp_of_ok (guardedRun_of_ok returned)
          exact iff_of_true cleans fun raises => absurd ended raises
        · obtain ⟨error, left, raised, tasks, placed⟩ := ending.raises ended
          obtain ⟨later, handled⟩ := guardedRun_of_error raised
          have written : left.getTask task.id = some
              { current with
                status := endingStatus store task answers } := by
            rw [Store.getTask, tasks]
            show (store.writeTaskStatus _ _).getTask _ = _
            rw [Store.getTask_writeTaskStatus, found, map_some, if_pos rfl]
          rw [cleansUp_iff_of_error handled, cleanedUp_handled_iff written placed.new_runs]
          exact ⟨fun passes _ => passes, fun passes => passes ended⟩
      · rw [if_pos closed]
        obtain ⟨error, left, raised, tasks, placed⟩ := closing.raises closed
        obtain ⟨later, handled⟩ := guardedRun_of_error raised
        rw [cleansUp_iff_of_error handled, cleanedUp_handled_iff (foundIn tasks) placed.new_runs]
        exact ⟨fun passes => passes active, fun passes _ => passes⟩
    · obtain ⟨error, left, raised, inProgress⟩ := working.raises worked
      obtain ⟨later, handled⟩ := guardedRun_of_error raised
      have fresh := fresh_of_opened opened
      rw [cleansUp_iff_of_error handled]
      refine iff_of_false (not_cleanedUp_of_inProgress fresh inProgress) ?_
      exact fun holds => worked holds.1
  · rw [if_pos opened]
    obtain ⟨_, _, raised, unstarted⟩ := opening.raises opened
    obtain ⟨_, handled⟩ := guardedRun_of_error raised
    rw [cleansUp_iff_of_error handled, cleanedUp_handled_iff
      (foundIn unstarted.1) unstarted.no_new_run]
    exact ⟨fun passes => passes active, fun passes _ => passes⟩

/-! ## The whole call -/

theorem stopsAt_checkTask {store : Store} {taskId : String} {task : Task}
    (found : store.getTask taskId = some task) :
    StopsAt (checkTask failures taskId) store
      (checkObstacles failures store task) (fun left => left = store) task
      store := by
  have known : findTask store taskId = .ok task := by
    unfold findTask
    rw [found]
    rfl
  have steps : ∀ names : List RunStep, StopsAt (takeSteps failures names) store (names.map failures)
        (fun left => left = store) ⟨⟩ store :=
    fun names => .raiseFirst _ rfl
  unfold checkTask checkObstacles
  refine (steps _).bind fun _ => .read ?_
  have named : StopsAt
      (do
        takeSteps failures (gateSteps task)
        valueOf (passGate (← get) task)
        valueOf (unfinished task)
        takeSteps failures [.getProject]
        let _ ← valueOf (findProject (← get) task)
        return task) store
      ((gateSteps task).map failures ++
        errorOf (passGate store task) :: errorOf (unfinished task) ::
          ([.getProject].map failures ++ [errorOf (findProject store task)]))
      (fun left => left = store) task store := by
    refine (steps _).bind fun _ => .read ?_
    refine .value_bind rfl fun _ _ => .value_bind rfl fun _ _ => ?_
    refine (steps _).bind fun _ => .read ?_
    exact .value_bind rfl fun _ _ => .returns rfl
  refine named.congr ?_
  show EStateM.bind (valueOf (findTask store taskId)) _ store = _
  rw [known]
  rfl

theorem allows_of_checked (checked : firstObstacle (checkObstacles failures store task) = none) :
    task.status.Allows .active := by
  have passed : errorOf (unfinished task) = none := by
    apply firstObstacle_eq_none_iff.mp checked
    simp [checkObstacles]
  unfold unfinished at passed
  cases status : task.status with
  | pending => decide
  | active => decide
  | completed => simp [status, errorOf] at passed
  | failed => simp [status, errorOf] at passed

theorem cleanedUp_congr {other : Store} (runs : store.runs = other.runs) :
    CleanedUp store taskId left ↔ CleanedUp other taskId left := by
  constructor
  · rintro ⟨task, inProgress⟩
    exact ⟨task, runs ▸ inProgress⟩
  · rintro ⟨task, inProgress⟩
    exact ⟨task, runs ▸ inProgress⟩

theorem cleansUp_early_iff (found : store.getTask taskId = some task)
    (raised : ∃ error, program store = .error error store) :
    CleansUp program store store taskId ↔ task.status ≠ .active := by
  obtain ⟨_, raised⟩ := raised
  rw [cleansUp_iff_of_error raised]
  constructor
  · intro cleaned
    exact cleaned.task task found
  · intro inactive
    refine ⟨?_, Unstarted.no_new_run ⟨rfl, rfl⟩⟩
    intro other again
    rw [found] at again
    cases again
    exact inactive

theorem not_cleansUp_of_phase (found : store.getTask taskId = some task)
    (raised : ∃ error, program store = .error error (store.writeTaskStatus taskId .active)) :
    ¬ CleansUp program store store taskId := by
  obtain ⟨error, raised⟩ := raised
  intro cleans
  refine (cleans error _ raised).task { task with status := .active } ?_ rfl
  rw [Store.getTask_writeTaskStatus, found, map_some, if_pos rfl]

theorem runOnceRaising_cleansUp_iff (answers : RunAnswers)
    (found : store.getTask taskId = some task) :
    CleansUp (runOnceRaising failures taskId answers) store store taskId ↔
      RaisesOutsideRun failures store task answers := by
  obtain rfl : task.id = taskId := (store.tasks.lookup_eq_some_iff.mp found).2
  have checking := @stopsAt_checkTask failures store task.id task found
  unfold RaisesOutsideRun
  by_cases checked : firstObstacle (checkObstacles failures store task) = none
  · have opened : runOnceRaising failures task.id answers store =
        (do
          updateTask failures .activate .activatePhase task .active
          guardedRun failures task answers : RunProgram Run) store :=
      checking.passed_bind checked
    have activating := @stopsIn_updateTask failures store task task found
      .active (allows_of_checked checked) (fun left => left = store)
      (fun left => left = store.writeTaskStatus task.id .active) rfl rfl
      .activate .activatePhase
    have sequel : runOnceRaising failures task.id answers store =
        EStateM.bind (updateTask failures .activate .activatePhase task
          .active) (fun _ => guardedRun failures task answers) store := opened
    by_cases activated : failures .activate = none
    · rw [if_neg (not_or.mpr ⟨not_not_intro checked, not_not_intro activated⟩)]
      have phasing := activating.tail (firstObstacle_singleton.trans activated)
      by_cases phased : firstObstacle ((phaseSteps .activatePhase task).map failures) = none
      · rw [and_iff_right phased]
        obtain ⟨⟨⟩, _, returned, rfl⟩ := (phasing.tail phased).ended
        have guarded : runOnceRaising failures task.id answers store =
            guardedRun failures task answers (store.writeTaskStatus task.id .active) := by
          rw [sequel, EStateM.bind, returned]
        have activeTask :
            (store.writeTaskStatus task.id .active).getTask task.id =
              some { task with status := .active } := by
          rw [Store.getTask_writeTaskStatus, found, map_some, if_pos rfl]
        rw [← guardedRun_cleansUp_iff answers activeTask rfl]
        unfold CleansUp
        rw [guarded]
        exact forall₃_congr fun _ left _ => cleanedUp_congr rfl
      · obtain ⟨error, _, raised, rfl⟩ := phasing.raises phased
        refine iff_of_false (not_cleansUp_of_phase found ⟨error, ?_⟩) fun holds => phased holds.1
        rw [sequel, EStateM.bind, raised]
    · rw [if_pos (.inr activated)]
      obtain ⟨error, _, raised, rfl⟩ :=
        activating.raises (firstObstacle_singleton.trans_ne activated)
      refine cleansUp_early_iff found ⟨error, ?_⟩
      rw [sequel, EStateM.bind, raised]
  · rw [if_pos (.inl checked)]
    obtain ⟨error, here⟩ := ne_none_iff_exists'.mp checked
    obtain ⟨_, raised, same⟩ := checking.stopped error here
    refine cleansUp_early_iff found ⟨error, ?_⟩
    show EStateM.bind (checkTask failures task.id) _ store = _
    rw [EStateM.bind, raised, same]

theorem cleansUp_of_unknown {store : Store} {taskId : String} (answers : RunAnswers)
    (unknown : store.getTask taskId = none) :
    CleansUp (runOnceRaising failures taskId answers) store store taskId := by
  have refused : findTask store taskId = .error (.valueError ("Unknown task: " ++ taskId)) := by
    unfold findTask
    rw [unknown]
    rfl
  have checking : ∃ error, checkTask failures taskId store = .error error store := by
    have reading : StopsAt (takeSteps failures [.cleanupWorkspaces, .getTask])
        store ([.cleanupWorkspaces, .getTask].map failures)
        (fun left => left = store) ⟨⟩ store := .raiseFirst _ rfl
    by_cases clear :
        firstObstacle ([.cleanupWorkspaces, .getTask].map failures) = none
    · refine ⟨.valueError ("Unknown task: " ++ taskId), (reading.passed_bind clear).trans ?_⟩
      show EStateM.bind (valueOf (findTask store taskId)) _ store = _
      rw [refused]
      rfl
    · obtain ⟨error, here⟩ := ne_none_iff_exists'.mp clear
      obtain ⟨_, raised, rfl⟩ := reading.stopped_bind here
      exact ⟨error, raised⟩
  obtain ⟨error, raised⟩ := checking
  have ends : runOnceRaising failures taskId answers store = .error error store := by
    show EStateM.bind (checkTask failures taskId) _ store = _
    rw [EStateM.bind, raised]
  rw [cleansUp_iff_of_error ends]
  refine ⟨?_, Unstarted.no_new_run ⟨rfl, rfl⟩⟩
  intro task found
  rw [unknown] at found
  cases found

/-- Where `run_once` raises, the task is not active and no run of the call is
in progress, if and only if the exceptions of the call meet the condition. -/
theorem runOnce_cleans_up_iff (failures : RunFailures) (store : Store) (taskId : String)
    (answers : RunAnswers) :
    (∀ error left, runOnceRaising failures taskId answers store = .error error left →
          CleanedUp store taskId left) ↔
      ∀ task, store.getTask taskId = some task → RaisesOutsideRun failures store task answers := by
  cases found : store.getTask taskId with
  | some _ =>
    simp only [Option.some.injEq, forall_eq']
    exact runOnceRaising_cleansUp_iff answers found
  | none =>
    refine iff_of_true (cleansUp_of_unknown answers found) ?_
    intro task impossible
    cases impossible

def lonePendingStore : Store where
  projects := .single { id := "project" }
  tasks := .single { id := "task", projectId := "project" }

def failingAnswers : RunAnswers where
  runId := "run"
  workResult := .error (.runtimeError "worker")

theorem not_runOnce_cleans_up :
    ¬ ∀ (failures : RunFailures) (store : Store) (taskId : String)
        (answers : RunAnswers) (error : PyError) (left : Store),
      runOnceRaising failures taskId answers store = .error error left →
        CleanedUp store taskId left := by
  intro cleansUp
  let left : Store :=
    { lonePendingStore with
      runs := .single
        { id := "run", taskId := "task", status := .working, attempt := 1 } }
  have raised : runOnceRaising (fun _ => none) "task" failingAnswers
      lonePendingStore = .error (.runtimeError "worker") left := by
    rfl
  have working := (cleansUp _ _ _ _ _ _ raised).runs
    { id := "run", taskId := "task", status := .working, attempt := 1 }
    List.mem_cons_self nofun
  exact working (by decide)

end RunService

end AccruviaHarness
