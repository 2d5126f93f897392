import AccruviaHarness.Services.RunFailures

/-!
# Runs without exceptions

Where no step raises, the program of `run_once` is the function that models
the call in `RunService`.
-/

namespace AccruviaHarness

open Library

namespace RunService

def outcomeOf {Result : Type} (answer : Store × Except PyError Result) :
    EStateM.Result PyError Store Result :=
  match answer.2 with
  | .ok result => .ok result answer.1
  | .error error => .error error answer.1

def noFailures : RunFailures := fun _ => none

theorem takeSteps_noFailures (steps : List RunStep) : takeSteps noFailures steps = pure ⟨⟩ := by
  unfold takeSteps
  induction steps with
  | nil => rfl
  | cons step _ ih =>
    show (do raiseIf (noFailures step); raiseFirst _ : RunProgram Unit) = _
    rw [ih]
    rfl

theorem updateTask_noFailures (write phase : RunStep) (task : Task) (status : TaskStatus)
    (store : Store) :
    updateTask noFailures write phase task status store =
      match store.updateTaskStatus task.id status with
      | .ok updated => .ok ⟨⟩ updated
      | .error error => .error error store := by
  unfold updateTask
  simp only [takeSteps_noFailures]
  show EStateM.bind (valueOf (store.updateTaskStatus task.id status)) _ store = _
  cases store.updateTaskStatus task.id status <;> rfl

theorem applyTask_noFailures (read write phase : RunStep) (task : Task) (status : TaskStatus)
    (store : Store) :
    applyTask noFailures read write phase task status store =
      match store.applyTaskStatusForRun task.id status with
      | .ok (updated, written) => .ok written updated
      | .error error => .error error store := by
  unfold applyTask Store.applyTaskStatusForRun
  simp only [takeSteps_noFailures]
  show EStateM.bind (valueOf (store.keepsTaskStatus task.id status)) _ store = _
  cases store.keepsTaskStatus task.id status with
  | error _ => rfl
  | ok kept =>
    cases kept with
    | some _ => rfl
    | none =>
      show EStateM.bind (updateTask noFailures write phase task status) _ store = _
      rw [EStateM.bind, updateTask_noFailures]
      cases store.updateTaskStatus task.id status <;> rfl

theorem mark_noFailures (step : RunStep) (run : Run) (status : RunStatus) (summary : String)
    (store : Store) :
    mark noFailures step run status summary store =
      .ok (store.markRun run status summary).2 (store.markRun run status summary).1 := by
  unfold mark
  rw [takeSteps_noFailures]
  rfl

theorem recordRows_noFailures (create record : Nat → RunStep) (index : Nat) (rows : List Artifact)
    (store : Store) :
    recordRows noFailures create record index rows store =
      .ok ⟨⟩ (rows.foldl Store.createArtifact store) := by
  induction rows generalizing index store with
  | nil => rfl
  | cons row _ ih =>
    unfold recordRows
    simp only [takeSteps_noFailures]
    exact ih (index + 1) (store.createArtifact row)

variable {Result Next : Type}

theorem bind_ok {program : RunProgram Result}
    {rest : Result → RunProgram Next} {before after : Store} {result : Result}
    (returned : program before = .ok result after) :
    (program >>= rest) before = rest result after := by
  show EStateM.bind program rest before = _
  rw [EStateM.bind, returned]

theorem bind_mark (step : RunStep) (run : Run)
    (status : RunStatus) (summary : String) (rest : Run → RunProgram Next)
    (store : Store) :
    (mark noFailures step run status summary >>= rest) store =
      rest (store.markRun run status summary).2 (store.markRun run status summary).1 :=
  bind_ok (mark_noFailures step run status summary store)

theorem bind_value (result : Result) (rest : Result → RunProgram Next) (store : Store) :
    (valueOf (.ok result) >>= rest) store = rest result store := rfl

theorem bind_get (rest : Store → RunProgram Next)
    (store : Store) : (get >>= rest) store = rest store store := rfl

theorem bind_modify (change : Store → Store) (rest : PUnit → RunProgram Next) (store : Store) :
    (modify change >>= rest) store = rest ⟨⟩ (change store) := rfl

theorem bind_applyTask (read write phase : RunStep)
    (task : Task) (status : TaskStatus) (result : Result) (store : Store) :
    (do
      let _ ← applyTask noFailures read write phase task status
      return result : RunProgram Result) store =
      outcomeOf
        (match store.applyTaskStatusForRun task.id status with
        | .error error => (store, .error error)
        | .ok (updated, _) => (updated, .ok result)) := by
  show EStateM.bind (applyTask noFailures read write phase task status) _
    store = _
  rw [EStateM.bind, applyTask_noFailures]
  cases store.applyTaskStatusForRun task.id status <;> rfl

variable (task : Task)

theorem concludeRun_noFailures (run : Run) (work : WorkResult) (answers : RunAnswers)
    (store : Store) :
    concludeRunRaising noFailures task run work answers store =
      outcomeOf (concludeRun store task run work answers) := by
  unfold concludeRunRaising
  simp only [takeSteps_noFailures, pure_bind]
  rw [bind_ok (recordRows_noFailures _ _ _ _ _), bind_mark, bind_get,
    bind_modify, bind_mark, bind_modify, bind_mark]
  exact bind_applyTask _ _ _ _ _ _ _

theorem validationPhase_noFailures (run : Run) (work : WorkResult) (answers : RunAnswers)
    (store : Store) :
    validationPhaseRaising noFailures task run work answers store =
      outcomeOf (validationPhase store task run work answers) := by
  unfold validationPhaseRaising validationPhase
  by_cases external : needsExternalValidation work = true
  · rw [if_pos external, if_pos external, bind_mark]
    simp only [takeSteps_noFailures, pure_bind]
    exact concludeRun_noFailures _ _ _ _ _
  · rw [if_neg external, if_neg external]
    exact concludeRun_noFailures _ _ _ _ _

theorem announceValidation_noFailures (run : Run) (answers : RunAnswers) (store : Store) :
    announceValidation noFailures run answers store =
      .ok ⟨⟩ (if answers.announcesValidation then
        (store.markRun run .validating "Compiling and running focused tests.").1
      else store) := by
  unfold announceValidation
  by_cases announces : answers.announcesValidation = true
  · rw [if_pos announces, if_pos announces, bind_mark, takeSteps_noFailures]
    rfl
  · rw [if_neg announces, if_neg announces]
    rfl

variable (answers : RunAnswers) (store : Store)

theorem workPhase_noFailures :
    workPhaseRaising noFailures task answers store = outcomeOf (workPhase store task answers) := by
  unfold workPhaseRaising workPhase storedRun
  simp only [takeSteps_noFailures, pure_bind]
  rw [bind_get, bind_get]
  cases store.createRun (newRun store task answers) with
  | none => rfl
  | some created =>
    rw [Option.elim_some, bind_value]
    have assigned (rest : PUnit → RunProgram (WorkResult × Run)) :
        (set created >>= rest) store = rest ⟨⟩ created := rfl
    rw [assigned, bind_ok (recordRows_noFailures _ _ _ _ _),
      bind_mark, bind_ok (announceValidation_noFailures _ _ _)]
    cases worked : answers.workResult with
    | error _ => rfl
    | ok work =>
      rw [bind_value]
      show _ = outcomeOf (if backendsUnavailable _ then _ else _)
      rw [backendsUnavailable_ensureFailureEvidence, backendsUnavailable_ensureFailureEvidence]
      by_cases unavailable : backendsUnavailable work = true
      · rw [if_pos unavailable, if_pos unavailable, bind_mark]
        exact bind_applyTask _ _ _ _ _ _ _
      · rw [if_neg unavailable, if_neg unavailable]
        rfl

theorem runOnceInner_noFailures :
    runOnceInnerRaising noFailures task answers store =
      outcomeOf (runOnceInner store task answers) := by
  have opened : runOnceInnerRaising noFailures task answers store =
      EStateM.bind (workPhaseRaising noFailures task answers) _ store := rfl
  rw [opened, EStateM.bind, workPhase_noFailures]
  unfold runOnceInner
  obtain ⟨left, _ | ⟨_, run⟩⟩ := workPhase store task answers
  · rfl
  · show (if run.status = .blocked then _ else _ : RunProgram Run) left = _
    dsimp only
    by_cases blocked : run.status = .blocked
    · rw [if_pos blocked, if_pos blocked]
      rfl
    · rw [if_neg blocked, if_neg blocked]
      simp only [takeSteps_noFailures, pure_bind]
      exact validationPhase_noFailures _ _ _ _ _

theorem reopen_noFailures :
    reopenRaising noFailures task store = .ok ⟨⟩ (reopenActive store task.id) := by
  unfold reopenRaising reopenActive
  simp only [takeSteps_noFailures, pure_bind]
  rw [bind_get]
  cases found : store.getTask task.id with
  | none => rfl
  | some current =>
    by_cases active : current.status = .active
    · have allowed : store.updateTaskStatus task.id .pending =
          .ok (store.writeTaskStatus task.id .pending) := by
        apply Store.updateTaskStatus_eq_ok_iff.mpr
        refine ⟨⟨current, found, ?_⟩, rfl⟩
        rw [active]
        decide
      simp only [if_pos active]
      rw [updateTask_noFailures, allowed]
    · simp only [if_neg active]
      rfl

theorem guardedRun_noFailures :
    guardedRun noFailures task answers store = outcomeOf
        (match runOnceInner store task answers with
        | (left, .ok run) => (left, .ok run)
        | (left, .error error) => (reopenActive left task.id, .error error)) := by
  show EStateM.tryCatch (runOnceInnerRaising noFailures task answers) _ store = _
  rw [EStateM.tryCatch, runOnceInner_noFailures]
  obtain ⟨left, error | _⟩ := runOnceInner store task answers
  · show (reopenRaising noFailures task >>= fun _ => throw error) left = _
    rw [bind_ok (reopen_noFailures task left)]
    rfl
  · rfl

theorem runOnce_noFailures (taskId : String) (answers : RunAnswers) (store : Store) :
    runOnceRaising noFailures taskId answers store = outcomeOf (runOnce store taskId answers) := by
  unfold runOnceRaising checkTask runOnce findTask
  simp only [takeSteps_noFailures, pure_bind, bind_assoc]
  rw [bind_get]
  cases found : store.getTask taskId with
  | none => rfl
  | some task =>
    obtain rfl : task.id = taskId := (store.tasks.lookup_eq_some_iff.mp found).2
    rw [Option.elim_some, bind_value, bind_get]
    unfold passGate unfinished findProject
    dsimp only
    cases gate : objectiveGateBlock store task with
    | some _ => rfl
    | none =>
      rw [bind_value]
      by_cases finished : task.status = .completed ∨ task.status = .failed
      · rw [if_pos finished]
        rw [if_pos finished]
        rfl
      rw [if_neg finished, bind_value, bind_get]
      rw [if_neg finished]
      cases project : store.getProject task.projectId with
      | none => rfl
      | some _ =>
        rw [Option.elim_some, bind_value]
        cases activated : store.updateTaskStatus task.id .active with
        | error error =>
          have refused : updateTask noFailures .activate .activatePhase
              task .active store = .error error store := by
            rw [updateTask_noFailures, activated]
          show EStateM.bind _ _ store = _
          rw [EStateM.bind, refused]
          rfl
        | ok updated =>
          have written : updateTask noFailures .activate .activatePhase
              task .active store = .ok ⟨⟩ updated := by
            rw [updateTask_noFailures, activated]
          rw [bind_ok written]
          exact guardedRun_noFailures _ _ _

end RunService

end AccruviaHarness
