import AccruviaHarness.Library.Projections
import AccruviaHarness.Services.RunService

/-!
# Calling the worker

`_work_phase` hands a run to a worker, with the hints of the previous run.
-/

namespace AccruviaHarness

open Library

structure Worker (World : Type) where
  /-- `work(task, run, workspace_root, retry_hints=...)` binds. -/
  bindsHints : Bool
  /-- `work(task, run, workspace_root)` binds. -/
  bindsPlain : Bool
  /-- The body of `work`, with the hints that it is given. -/
  body : Task → Run → Option PyDict → World → Except PyError WorkResult × World

structure WorkerState (World : Type) where
  world : World
  executions : List (Option PyDict) := []

structure PhaseAnswers extends RunAnswers where
  /-- The exception of the project adapter or of the workspace policy. -/
  adapterFailure : Option PyError := none
  /-- The exception of the planner, or of the adapter's own worker. -/
  planFailure : Option PyError := none

namespace RunService

section

variable {World : Type} (worker : Worker World) (task : Task) (run : Run) (hints : Option PyDict)

def binds : Bool :=
  match hints with
  | some _ => worker.bindsHints
  | none => worker.bindsPlain

/-- The body of `work`, which is run once. -/
def runBody : EStateM PyError (WorkerState World) WorkResult :=
  fun state =>
    let executed := state.executions ++ [hints]
    match worker.body task run hints state.world with
    | (.ok work, world) => .ok work { world, executions := executed }
    | (.error error, world) => .error error { world, executions := executed }

/-- `worker.work(...)`. -/
def callWork :
    EStateM PyError (WorkerState World) WorkResult := do
  ensure (binds worker hints = true) (.typeError "work() got an unexpected set of arguments")
  runBody worker task run hints

/-- `isinstance(error, TypeError)`. -/
def isTypeError : PyError → Bool
  | .typeError _ => true
  | _ => false

def withoutHints (error : PyError) : EStateM PyError (WorkerState World) WorkResult :=
  if isTypeError error then callWork worker task run none else throw error

def callWorker (retryHints : PyDict) : EStateM PyError (WorkerState World) WorkResult :=
  tryCatch (callWork worker task run (some retryHints)) (withoutHints worker task run)

end

def retryHints (store : Store) (task : Task) : PyDict :=
  match (store.listRuns task.id).getLast? with
  | none => []
  | some previous =>
    match (store.listEvaluations previous.id).getLast? with
    | none => []
    | some evaluation =>
      match (evaluation.details.get "diagnostics").asDict with
      | none => []
      | some diagnostics => ((PyDict.get diagnostics "retry_hints").asDict).getD []

variable {World : Type}

/-- `_work_phase` from the worker's call on. -/
def finishWorkPhase (store : Store) (task : Task) (answers : PhaseAnswers) :
    EStateM.Result PyError (WorkerState World) WorkResult →
      (Store × Except PyError (WorkResult × Run)) × WorkerState World
  | .ok work after =>
    (workPhase store task
      { answers.toRunAnswers with workResult := .ok work }, after)
  | .error error after =>
    (workPhase store task
      { answers.toRunAnswers with workResult := .error error }, after)

/-- `_work_phase`, with the worker that it calls. -/
def workPhaseOf (store : Store) (task : Task) (answers : PhaseAnswers)
    (worker : Worker World) (before : WorkerState World) :
    (Store × Except PyError (WorkResult × Run)) × WorkerState World :=
  match store.createRun (newRun store task answers.toRunAnswers) with
  | none => ((store, .error (.integrityError "UNIQUE constraint failed: runs.id")), before)
  | some created =>
    match answers.adapterFailure, answers.planFailure with
    | some error, _ => ((created, .error error), before)
    | none, some error =>
      ((recordArtifacts answers.toRunAnswers (newRun store task answers.toRunAnswers)
        (metadataArtifacts answers.toRunAnswers) created, .error error),
        before)
    | none, none =>
      finishWorkPhase store task answers <|
        callWorker worker task (workingRun store task answers.toRunAnswers)
          (retryHints store task) before

structure ReachesWorker (store : Store) (task : Task)
    (answers : PhaseAnswers) : Prop where
  created : store.createRun (newRun store task answers.toRunAnswers) ≠ none
  prepared : answers.adapterFailure = none
  planned : answers.planFailure = none

/-- The worker takes calls with and without hints, and its body raises a
`TypeError` where it has been given hints. -/
structure RaisesTypeError (worker : Worker World) (task : Task) (run : Run)
    (hints : PyDict) (world : World) : Prop where
  takesHints : worker.bindsHints = true
  takesNone : worker.bindsPlain = true
  raises : ∃ error, (worker.body task run (some hints) world).1 = .error error ∧
      isTypeError error = true

section

variable {worker : Worker World} {task : Task} {run : Run}
  {before : WorkerState World} {hints : Option PyDict} {retryHints : PyDict}

theorem executions_runBody :
    (stateOf (runBody worker task run hints before)).executions = before.executions ++ [hints] := by
  unfold runBody
  cases worker.body task run hints before.world with
  | mk outcome _ => cases outcome <;> rfl

theorem executions_callWork :
    (stateOf (callWork worker task run hints before)).executions =
      if binds worker hints = true then before.executions ++ [hints]
      else before.executions := by
  unfold callWork
  by_cases bound : binds worker hints = true
  · rw [if_pos bound, ensure_bind bound, executions_runBody]
  · rw [if_neg bound, ensure_of_not bound]
    rfl

variable {world : World} {error : PyError}

theorem runBody_of_ok {work : WorkResult}
    (returned : worker.body task run hints before.world = (.ok work, world)) :
    runBody worker task run hints before =
      .ok work { world, executions := before.executions ++ [hints] } := by
  unfold runBody
  rw [returned]

theorem runBody_of_error
    (raised : worker.body task run hints before.world = (.error error, world)) :
    runBody worker task run hints before =
      .error error { world, executions := before.executions ++ [hints] } := by
  unfold runBody
  rw [raised]

variable (task run hints before) in
theorem callWork_of_binds (bound : binds worker hints = true) :
    callWork worker task run hints before = runBody worker task run hints before := by
  unfold callWork
  rw [ensure_bind bound]

variable (task run hints before) in
theorem callWork_of_not_binds (unbound : ¬ binds worker hints = true) :
    callWork worker task run hints before =
      .error (.typeError "work() got an unexpected set of arguments")
        before := by
  unfold callWork
  rw [ensure_of_not unbound]
  rfl

theorem executions_withoutHints :
    (stateOf (withoutHints worker task run error before)).executions =
      if isTypeError error = true ∧ worker.bindsPlain = true then before.executions ++ [none]
      else before.executions := by
  unfold withoutHints
  by_cases isType : isTypeError error = true
  · rw [if_pos isType, executions_callWork]
    exact if_congr (and_iff_right isType).symm rfl rfl
  · rw [if_neg isType, if_neg fun both => isType both.1]
    rfl

theorem executions_callWorker :
    (stateOf (callWorker worker task run retryHints before)).executions.length ≤
        before.executions.length + 1 ↔
      ¬ RaisesTypeError worker task run retryHints before.world := by
  unfold callWorker
  by_cases takes : worker.bindsHints = true
  · have call := callWork_of_binds task run before (some retryHints) takes
    cases ended : worker.body task run (some retryHints) before.world with
    | mk outcome world =>
      cases outcome with
      | ok _ =>
        rw [caught_of_ok (call.trans (runBody_of_ok ended))]
        refine iff_of_true ?_ ?_
        · exact (List.length_append).le
        · rintro ⟨_, _, error, raised, _⟩
          rw [ended] at raised
          cases raised
      | error error =>
        rw [caught_of_error (call.trans (runBody_of_error ended)), executions_withoutHints]
        have raises : RaisesTypeError worker task run retryHints
            before.world ↔ isTypeError error = true ∧ worker.bindsPlain = true := by
          constructor
          · rintro ⟨_, plain, _, raised, isType⟩
            rw [ended] at raised
            cases raised
            exact ⟨isType, plain⟩
          · rintro ⟨isType, plain⟩
            exact ⟨takes, plain, error, by rw [ended], isType⟩
        rw [raises]
        by_cases again : isTypeError error = true ∧
          worker.bindsPlain = true
        · rw [if_pos again]
          simp only [List.length_append, List.length_singleton]
          refine iff_of_false ?_ (not_not.mpr again)
          omega
        · rw [if_neg again]
          exact iff_of_true (List.length_append).le again
  · have call := callWork_of_not_binds task run before (some retryHints) takes
    rw [caught_of_error call, executions_withoutHints]
    refine iff_of_true ?_ fun raises => takes raises.takesHints
    split
    · exact (List.length_append).le
    · omega

end

section

def RunsWorkerOnce (store : Store) (task : Task) (answers : PhaseAnswers)
    (worker : Worker World) (before : WorkerState World) : Prop :=
  (workPhaseOf store task answers worker before).2.executions.length ≤ before.executions.length + 1

theorem executions_finishWorkPhase {store : Store} {task : Task} {answers : PhaseAnswers}
    (called : EStateM.Result PyError (WorkerState World) WorkResult) :
    (finishWorkPhase store task answers called).2 = stateOf called := by
  cases called <;> rfl

/-- The phase runs the body of its worker at most once exactly when it does
not come to the call, or the body does not raise a `TypeError` under the
hints of a worker that takes calls without them too. -/
theorem workPhase_runs_worker_once_iff (store : Store) (task : Task) (answers : PhaseAnswers)
    (worker : Worker World) (before : WorkerState World) :
    RunsWorkerOnce store task answers worker before ↔ (ReachesWorker store task answers →
        ¬ RaisesTypeError worker task (workingRun store task answers.toRunAnswers)
            (retryHints store task) before.world) := by
  unfold RunsWorkerOnce workPhaseOf
  cases created : store.createRun (newRun store task answers.toRunAnswers) with
  | none =>
    refine iff_of_true (Nat.le_succ _) fun reaches => ?_
    exact absurd created reaches.created
  | some opened =>
    dsimp only
    cases prepared : answers.adapterFailure with
    | some _ =>
      refine iff_of_true (Nat.le_succ _) fun reaches => ?_
      rw [reaches.prepared] at prepared
      cases prepared
    | none =>
      cases planned : answers.planFailure with
      | some _ =>
        refine iff_of_true (Nat.le_succ _) fun reaches => ?_
        rw [reaches.planned] at planned
        cases planned
      | none =>
        have reaches : ReachesWorker store task answers := by
          refine ⟨?_, prepared, planned⟩
          rw [created]
          exact Option.some_ne_none opened
        dsimp only
        rw [executions_finishWorkPhase, executions_callWorker]
        exact ⟨fun once _ => once, fun once => once reaches⟩

def countingWorker : Worker Nat where
  bindsHints := true
  bindsPlain := true
  body _ _ _ count :=
    (.error (.typeError "unsupported operand type(s) for +: 'int' and 'NoneType'"), count + 1)

theorem countingWorker_runs_twice :
    ¬ RunsWorkerOnce {} { id := "task", projectId := "project" }
        { runId := "run", workResult := .error (.runtimeError "") }
        countingWorker { world := 0 } ∧
      (workPhaseOf {} { id := "task", projectId := "project" }
        { runId := "run", workResult := .error (.runtimeError "") }
        countingWorker { world := 0 }).2.world = 2 := by
  unfold RunsWorkerOnce
  decide +kernel

end

end RunService

end AccruviaHarness
