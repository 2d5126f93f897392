import AccruviaHarness.Library.Stages
import AccruviaHarness.Services.RunFailures

/-!
# What a run that raises leaves behind

A run is stored before its work starts and gets its last status after the
decision.
-/

namespace AccruviaHarness

open Library

namespace RunService

variable {failures : RunFailures}

/-! ## The steps in their stages -/

def rowSteps (create record : Nat → RunStep) :
    Nat → List Artifact → List RunStep
  | _, [] => []
  | index, _ :: rows => create index :: record index :: rowSteps create record (index + 1) rows

def openingObstacles (failures : RunFailures) (store : Store) (task : Task)
    (answers : RunAnswers) : List (Option PyError) :=
  openingSteps.map failures ++ [errorOf (storedRun store (newRun store task answers))]

def workingSteps (run : Run) (answers : RunAnswers) : List RunStep :=
  preparingSteps ++ (rowSteps .metadataArtifact .metadataRecorded 0
        (artifactRows answers run (metadataArtifacts answers)) ++
      (planningSteps ++ ([.markWorking] ++ ([.reportWorking, .setProgress] ++
        if answers.announcesValidation then [.markAnnounced, .reportAnnounced]
        else []))))

def concludingSteps (run : Run) (answers : RunAnswers) (work : WorkResult) : List RunStep :=
  .workerCompleted :: (rowSteps .workArtifact .workRecorded 0
        (artifactRows answers run work.artifacts) ++
      [.markAnalyzing, .reportAnalyzing, .metricResult, .warnTimeout, .analyze,
        .createEvaluation, .evaluationRecorded, .markDeciding, .reportDeciding,
        .metricEvaluation, .decide, .createDecision, .decisionRecorded,
        .attemptMetadata, .markFinal])

def validatingSteps (work : WorkResult) : List RunStep :=
  if needsExternalValidation work then
    [.markValidating, .reportValidating, .validate, .validationEvidence]
  else []

def openObstacles (failures : RunFailures) (store : Store) (task : Task)
    (answers : RunAnswers) : List (Option PyError) :=
  let run := newRun store task answers
  (workingSteps run answers).map failures ++ errorOf answers.workResult ::
      match answers.workResult with
      | .error _ => []
      | .ok work =>
        [.resetProgress, .failureEvidence].map failures ++
          if backendsUnavailable work then [failures .markUnavailable]
          else
            let worked := ensureFailureEvidence answers.workspaceRoot run work
            (.reportReady :: (validatingSteps worked ++ concludingSteps run answers
                (analysedWork run answers work))).map failures

def closingObstacles (failures : RunFailures) (answers : RunAnswers) : List (Option PyError) :=
  (if isUnavailable answers then [.readUnavailable, .writeUnavailable]
  else [RunStep.readFinal, .writeFinal]).map failures

def endingObstacles (failures : RunFailures) (task : Task)
    (answers : RunAnswers) : List (Option PyError) :=
  (if isUnavailable answers then phaseSteps .phaseUnavailable task ++ [RunStep.reportUnavailable]
  else phaseSteps .phaseFinal task ++ reportingSteps).map failures

variable (store : Store)

def endingStatus (task : Task) (answers : RunAnswers) :
    TaskStatus :=
  match answers.workResult with
  | .error _ => .pending
  | .ok work =>
    if backendsUnavailable work then .pending
    else decidedTaskStatus (runDecision store task answers work).action

/-! ## What the stages leave -/

def Unstarted (store left : Store) : Prop := left.tasks = store.tasks ∧ left.runs = store.runs

def RunAt (earlier : List Run) (run : Run) (statuses : RunStatus → Prop) (left : Store) : Prop :=
  ∃ status summary, statuses status ∧
    left.runs.rows = earlier ++ [{ run with status, summary }]

def InProgress (run : Run) (left : Store) : Prop :=
  left.tasks = store.tasks ∧ RunAt store.runs.rows run (· ∈ inProgressStatuses) left

def Ended (run : Run) (tasks : KeyedTable Task.id) (left : Store) : Prop :=
  left.tasks = tasks ∧ RunAt store.runs.rows run (· ∉ inProgressStatuses) left

/-! ## Single steps -/

variable {store base : Store} {stays : Store → Prop} {task current : Task}
  {run : Run} {status : RunStatus} {Next : Type} {later : List (Option PyError)}
  {others : List (Stage PyError Store)} {ends : Next → Store → Prop}
  {work : WorkResult} {answers : RunAnswers}

theorem stopsAt_steps (kept : stays store) (steps : List RunStep) :
    StopsAt (takeSteps failures steps) store (steps.map failures) stays ⟨⟩
      store :=
  .raiseFirst _ kept

theorem stopsAt_mark (kept : stays store)
    (step : RunStep) (run : Run) (status : RunStatus) (summary : String) :
    StopsAt (mark failures step run status summary) store [failures step]
      stays (store.markRun run status summary).2
      (store.markRun run status summary).1 :=
  (stopsAt_steps kept [step]).bind fun _ => .returns rfl

theorem stopsAt_recordRows (kept : ∀ artifacts, stays { store with artifacts })
    (create record : Nat → RunStep) (index : Nat) (rows : List Artifact) :
    StopsAt (recordRows failures create record index rows) store
      ((rowSteps create record index rows).map failures) stays ⟨⟩
      { store with artifacts := store.artifacts ++ rows } := by
  induction rows generalizing store index with
  | nil =>
    rw [List.append_nil]
    exact .returns rfl
  | cons row rows ih =>
    have later := @ih (store.createArtifact row) kept (index + 1)
    have placed : store.artifacts ++ row :: rows = (store.artifacts ++ [row]) ++ rows := by simp
    rw [placed]
    exact (stopsAt_steps (kept store.artifacts) [create index]).bind fun _ => .modified <|
        (stopsAt_steps (kept _) [record index]).bind fun _ => later

theorem stopsIn_updateTask {store : Store} {task current : Task}
    (found : store.getTask task.id = some current)
    {status : TaskStatus} (allowed : current.status.Allows status)
    {stays ends : Store → Prop} (kept : stays store)
    (ended : ends (store.writeTaskStatus task.id status))
    (write phase : RunStep) :
    StopsIn (updateTask failures write phase task status) store
      [⟨[failures write], stays⟩, ⟨(phaseSteps phase task).map failures, ends⟩]
      (fun _ left => left = store.writeTaskStatus task.id status) := by
  have updated : store.updateTaskStatus task.id status =
      .ok (store.writeTaskStatus task.id status) :=
    Store.updateTaskStatus_eq_ok_iff.mpr ⟨⟨current, found, allowed⟩, rfl⟩
  refine .stage (stopsAt_steps kept [write]) ?_
  have phased : StopsIn (takeSteps failures (phaseSteps phase task))
      (store.writeTaskStatus task.id status)
      [⟨(phaseSteps phase task).map failures, ends⟩]
      (fun _ left => left = store.writeTaskStatus task.id status) :=
    .alone (stopsAt_steps ended _) rfl
  refine phased.congr ?_
  show EStateM.bind (valueOf (store.updateTaskStatus task.id status)) _ store = _
  rw [updated]
  rfl

theorem stopsIn_applyTask (found : store.getTask task.id = some current)
    (active : current.status = .active) (status : TaskStatus)
    {ends : Store → Prop} (kept : stays store)
    (ended : ends (store.writeTaskStatus task.id status))
    (read write phase : RunStep) :
    StopsIn (applyTask failures read write phase task status) store
      [⟨[read, write].map failures, stays⟩, ⟨(phaseSteps phase task).map failures, ends⟩]
      (fun _ left => left = store.writeTaskStatus task.id status) := by
  have notKept : store.keepsTaskStatus task.id status = .ok none := by
    unfold Store.keepsTaskStatus
    rw [found]
    simp [active]
  have allowed : current.status.Allows status := by
    rw [active]
    cases status <;> decide
  have updating : StopsIn (updateTask failures write phase task status) store
      [⟨[failures write], stays⟩, ⟨(phaseSteps phase task).map failures, ends⟩]
      (fun _ left => left = store.writeTaskStatus task.id status) :=
    stopsIn_updateTask found allowed kept ended write phase
  have finished : StopsIn
      (do updateTask failures write phase task status; return status) store
      [⟨[failures write], stays⟩, ⟨(phaseSteps phase task).map failures, ends⟩]
      (fun _ left => left = store.writeTaskStatus task.id status) :=
    updating.bind fun _ _ same => .returns rfl same
  refine .prepend (stopsAt_steps kept [read]) ?_
  refine finished.congr ?_
  show EStateM.bind (valueOf (store.keepsTaskStatus task.id status)) _ store = _
  rw [notKept]
  rfl

theorem RunAt.markRun {earlier : List Run} (openRun : OpenRun store earlier run)
    {statuses : RunStatus → Prop}
    (own : statuses status) (summary : String) :
    RunAt earlier run statuses (store.markRun run status summary).1 :=
  ⟨status, summary, own, rows_markRun openRun status summary⟩

structure Conducted (base : Store) (run : Run) (left : Store) : Prop where
  openRun : OpenRun left base.runs.rows run
  inProgress : InProgress base run left

theorem Conducted.remark {left : Store} (conducted : Conducted base run left)
    (status : RunStatus) (summary : String) :
    Conducted base { run with status, summary } left :=
  ⟨conducted.openRun, conducted.inProgress⟩

theorem stopsIn_mark {rest : Run → RunProgram Next} (conducted : Conducted base run store)
    (step : RunStep)
    (own : status ∈ inProgressStatuses)
    (summary : String)
    (goesOn : ∀ next, Conducted base { run with status, summary } next →
      next.artifacts = store.artifacts → StopsIn (rest { run with status, summary }) next
          (⟨later, InProgress base run⟩ :: others) ends) :
    StopsIn (mark failures step run status summary >>= rest) store
      (⟨[failures step] ++ later, InProgress base run⟩ :: others) ends :=
  .prepend (stopsAt_mark conducted.inProgress step run status summary) <| goesOn _
      ⟨conducted.openRun.markRun status summary,
        ⟨conducted.inProgress.1, .markRun conducted.openRun own summary⟩⟩ rfl

theorem stopsIn_create {change : Store → Store}
    {rest : RunProgram Next} (conducted : Conducted base run store)
    (step : RunStep)
    (tasks : (change store).tasks = store.tasks)
    (runs : (change store).runs = store.runs)
    (goesOn : ∀ next, Conducted base run next →
      StopsIn rest next (⟨later, InProgress base run⟩ :: others) ends) :
    StopsIn (do takeSteps failures [step]; modify change; rest) store
      (⟨[failures step] ++ later, InProgress base run⟩ :: others) ends := by
  refine .prepend (stopsAt_steps conducted.inProgress [step]) (.modified ?_)
  apply goesOn
  obtain ⟨⟨openRun, fresh⟩, sameTasks, inProgress⟩ := conducted
  refine ⟨⟨?_, fresh⟩, tasks.trans sameTasks, ?_⟩
  · rw [runs]
    exact openRun
  · unfold RunAt
    rw [runs]
    exact inProgress

theorem finalRunStatus_ended (verdict : EvaluationVerdict) (action : DecisionAction) :
    finalRunStatus verdict action ∉ inProgressStatuses := by
  cases verdict <;> cases action <;> decide

theorem Conducted.end (conducted : Conducted base run store) (last : status ∉ inProgressStatuses)
    (summary : String) :
    Ended base run base.tasks (store.markRun run status summary).1 :=
  ⟨conducted.inProgress.1, .markRun conducted.openRun last summary⟩

theorem stopsIn_closeRun (ended : Ended base run base.tasks store)
    (found : base.getTask task.id = some current)
    (active : current.status = .active) (status : TaskStatus)
    (read write phase : RunStep) (reports : List RunStep) (result : Next) :
    StopsIn
      (do
        let _ ← applyTask failures read write phase task status
        takeSteps failures reports
        return result) store
      [⟨[read, write].map failures, Ended base run base.tasks⟩,
        ⟨(phaseSteps phase task ++ reports).map failures,
          Ended base run (base.writeTaskStatus task.id status).tasks⟩]
      fun answer _ => answer = result := by
  obtain ⟨tasks, row⟩ := ended
  have stored : store.getTask task.id = some current := by
    rw [← found, Store.getTask, tasks, Store.getTask]
  have written : Ended base run (base.writeTaskStatus task.id status).tasks
      (store.writeTaskStatus task.id status) := by
    refine ⟨?_, row⟩
    unfold Store.writeTaskStatus
    rw [tasks]
  have kept : Ended base run base.tasks store := ⟨tasks, row⟩
  have applied : StopsIn (applyTask failures read write phase task status) store
      [⟨[read, write].map failures, Ended base run base.tasks⟩,
        ⟨(phaseSteps phase task).map failures,
          Ended base run (base.writeTaskStatus task.id status).tasks⟩]
      (fun _ left => left = store.writeTaskStatus task.id status) :=
    stopsIn_applyTask stored active status kept written read write phase
  rw [List.map_append]
  refine .bind_second applied ?_
  rintro _ _ rfl
  exact .stage (stopsAt_steps written reports) (.returns rfl rfl)

theorem stopsIn_concludeRun (conducted : Conducted base run store)
    (found : base.getTask task.id = some current)
    (active : current.status = .active) :
    StopsIn (concludeRunRaising failures task run work answers) store
      [⟨(concludingSteps run answers work).map failures, InProgress base run⟩,
        ⟨[.readFinal, .writeFinal].map failures, Ended base run base.tasks⟩,
        ⟨(phaseSteps .phaseFinal task ++ reportingSteps).map failures,
          Ended base run (base.writeTaskStatus task.id (decidedTaskStatus (DefaultDecider.decide
              (DefaultAnalyzer.analyzeWork task work (orderBy Store.ArtifactOrder <|
                  (store.artifacts ++ artifactRows answers run work.artifacts).filter
                      fun artifact => artifact.runId = run.id))
              run task).action)).tasks⟩]
      fun _ _ => True := by
  unfold concludeRunRaising concludingSteps
  refine .prepend (stopsAt_steps conducted.inProgress [.workerCompleted]) ?_
  rw [List.map_append]
  refine .prepend (stopsAt_recordRows (fun _ => conducted.inProgress) _ _ _ _) ?_
  have recorded : Conducted base run { store with
      artifacts := store.artifacts ++
        artifactRows answers run work.artifacts } :=
    ⟨conducted.openRun, conducted.inProgress⟩
  refine stopsIn_mark recorded .markAnalyzing (by decide) _ ?_
  intro analysing conducted artifacts
  refine .prepend (stopsAt_steps conducted.inProgress [.reportAnalyzing,
    .metricResult, .warnTimeout, .analyze]) (.read ?_)
  have listed : analysing.listArtifacts run.id = (orderBy Store.ArtifactOrder <|
        (store.artifacts ++ artifactRows answers run work.artifacts).filter
          fun artifact => artifact.runId = run.id) := by
    unfold Store.listArtifacts
    rw [artifacts]
  simp only [listed]
  generalize DefaultAnalyzer.analyzeWork task work _ = analysis
  refine stopsIn_create conducted .createEvaluation rfl rfl ?_
  intro evaluated conducted
  refine .prepend (stopsAt_steps conducted.inProgress [.evaluationRecorded]) ?_
  refine stopsIn_mark conducted .markDeciding (by decide) _ ?_
  intro deciding conducted _
  refine .prepend (stopsAt_steps conducted.inProgress [.reportDeciding,
    .metricEvaluation, .decide]) ?_
  refine stopsIn_create conducted .createDecision rfl rfl ?_
  intro decided conducted
  refine .prepend (stopsAt_steps conducted.inProgress [.decisionRecorded, .attemptMetadata]) ?_
  refine .stage (stopsAt_mark conducted.inProgress .markFinal _ _ _) ?_
  refine StopsIn.weaken (stopsIn_closeRun
    (conducted.end (finalRunStatus_ended _ _) _) found active _ _ _ _ _ _) ?_
  exact fun _ _ _ => trivial

def decidedOn (store : Store) (task : Task) (run : Run) (answers : RunAnswers)
    (work : WorkResult) : TaskStatus :=
  decidedTaskStatus (DefaultDecider.decide (DefaultAnalyzer.analyzeWork task work
      (orderBy Store.ArtifactOrder <|
        (store.artifacts ++ artifactRows answers run work.artifacts).filter
          fun artifact => artifact.runId = run.id))
    run task).action

theorem stopsIn_validationPhase {base store : Store} {task current : Task} {run : Run}
    {work : WorkResult} {answers : RunAnswers}
    (conducted : Conducted base run store)
    (found : base.getTask task.id = some current)
    (active : current.status = .active) :
    StopsIn (validationPhaseRaising failures task run work answers) store
      [⟨(validatingSteps work ++ concludingSteps run answers
            (validatedWork answers work)).map failures,
          InProgress base run⟩,
        ⟨[.readFinal, .writeFinal].map failures, Ended base run base.tasks⟩,
        ⟨(phaseSteps .phaseFinal task ++ reportingSteps).map failures,
          Ended base run (base.writeTaskStatus task.id (decidedOn store task run answers
              (validatedWork answers work))).tasks⟩]
      fun _ _ => True := by
  unfold validationPhaseRaising validatingSteps
  by_cases external : needsExternalValidation work = true
  · rw [if_pos external, if_pos external]
    refine stopsIn_mark conducted .markValidating (by decide) _ ?_
    intro validating conducted artifacts
    refine .prepend (stopsAt_steps conducted.inProgress [.reportValidating,
      .validate, .validationEvidence]) ?_
    unfold decidedOn
    rw [← artifacts]
    exact stopsIn_concludeRun conducted found active
  · have same : validatedWork answers work = work := if_neg external
    rw [if_neg external, if_neg external, same]
    exact stopsIn_concludeRun conducted found active

theorem stopsIn_announceValidation (conducted : Conducted base run store) (answers : RunAnswers) :
    StopsIn (announceValidation failures run answers) store
      [⟨(if answers.announcesValidation then
          [.markAnnounced, .reportAnnounced] else []).map failures,
        InProgress base run⟩]
      fun _ left => Conducted base run left ∧
        left.artifacts = store.artifacts := by
  unfold announceValidation
  by_cases announces : answers.announcesValidation = true
  · rw [if_pos announces, if_pos announces]
    refine stopsIn_mark conducted .markAnnounced (by decide) _ ?_
    intro announced later artifacts
    exact .alone (stopsAt_steps later.inProgress [.reportAnnounced])
      ⟨⟨later.openRun, later.inProgress⟩, artifacts⟩
  · rw [if_neg announces, if_neg announces]
    exact .skip (.returns rfl ⟨conducted, rfl⟩)

theorem conducted_of_storedRun {created : Store}
    (stored : storedRun store (newRun store task answers) = .ok created) :
    Conducted store (newRun store task answers) created ∧
      created.artifacts = store.artifacts := by
  unfold storedRun at stored
  cases inserted : store.createRun (newRun store task answers) with
  | none =>
    rw [inserted] at stored
    cases stored
  | some _ =>
    rw [inserted] at stored
    cases stored
    have fresh := Store.fresh_of_createRun inserted
    obtain ⟨_, insertedRow, rfl⟩ := Option.map_eq_some_iff.mp inserted
    have rows := KeyedTable.rows_of_insert? insertedRow
    refine ⟨⟨⟨⟨_, _, rows⟩, fresh⟩, rfl, ?_⟩, rfl⟩
    exact ⟨.planning, _, by decide, rows⟩

theorem stopsIn_work {rest : WorkResult → Run → RunProgram Next} (goesOn : ∀ work next run,
      answers.workResult = .ok work →
        run = { newRun store task answers with
          status := .working
          summary := answers.planSummary } →
          Conducted store (newRun store task answers) next →
            next.artifacts = store.artifacts ++ artifactRows answers
              (newRun store task answers) (metadataArtifacts answers) →
              StopsIn (rest work run) next
                (⟨later, InProgress store (newRun store task answers)⟩ :: others) ends) :
    StopsIn
      (do
        takeSteps failures openingSteps
        let run := newRun (← get) task answers
        set (← valueOf (storedRun (← get) run))
        takeSteps failures preparingSteps
        recordRows failures .metadataArtifact .metadataRecorded 0
          (artifactRows answers run (metadataArtifacts answers))
        takeSteps failures planningSteps
        let run ← mark failures .markWorking run .working answers.planSummary
        takeSteps failures [.reportWorking, .setProgress]
        announceValidation failures run answers
        let work ← valueOf answers.workResult
        rest work run) store
      (⟨openingObstacles failures store task answers, Unstarted store⟩ ::
        ⟨(workingSteps (newRun store task answers) answers).map failures ++
            errorOf answers.workResult :: later,
          InProgress store (newRun store task answers)⟩ :: others) ends := by
  have unstarted : Unstarted store store := ⟨rfl, rfl⟩
  unfold openingObstacles workingSteps
  refine .prepend (stopsAt_steps unstarted openingSteps) (.read (.read ?_))
  refine .value_bind unstarted ?_
  intro created stored
  refine .skip (.assigned ?_)
  obtain ⟨opened, artifacts⟩ := conducted_of_storedRun stored
  simp only [List.map_append, List.append_assoc]
  refine .prepend (stopsAt_steps opened.inProgress preparingSteps) ?_
  refine .prepend (stopsAt_recordRows (fun _ => opened.inProgress) _ _ _ _) ?_
  have recorded : Conducted store (newRun store task answers) { created with
      artifacts := created.artifacts ++ artifactRows answers
        (newRun store task answers) (metadataArtifacts answers) } :=
    ⟨opened.openRun, opened.inProgress⟩
  refine .prepend (stopsAt_steps recorded.inProgress planningSteps) ?_
  refine stopsIn_mark recorded .markWorking (by decide) _ ?_
  intro working conducted kept
  refine .prepend (stopsAt_steps conducted.inProgress [.reportWorking, .setProgress]) ?_
  refine .bind_same (stopsIn_announceValidation conducted answers) ?_
  rintro _ announced ⟨conducted, unchanged⟩
  refine .value_bind conducted.inProgress ?_
  intro work worked
  refine goesOn work announced _ worked rfl ⟨conducted.openRun, conducted.inProgress⟩ ?_
  rw [unchanged, kept, artifacts]

def runStages (failures : RunFailures) (store : Store) (task : Task)
    (answers : RunAnswers) : List (Stage PyError Store) :=
  let run := newRun store task answers
  [⟨openingObstacles failures store task answers, Unstarted store⟩,
    ⟨openObstacles failures store task answers, InProgress store run⟩,
    ⟨closingObstacles failures answers, Ended store run store.tasks⟩,
    ⟨endingObstacles failures task answers, Ended store run (store.writeTaskStatus task.id
        (endingStatus store task answers)).tasks⟩]

theorem stopsIn_runOnceInner_of_error {error : PyError}
    (raised : answers.workResult = .error error) :
    StopsIn (runOnceInnerRaising failures task answers) store
      (runStages failures store task answers) fun _ _ => True := by
  have worked : StopsIn (workPhaseRaising failures task answers) store
      [⟨openingObstacles failures store task answers, Unstarted store⟩,
        ⟨openObstacles failures store task answers, InProgress store (newRun store task answers)⟩]
      fun _ _ => False := by
    unfold openObstacles
    simp only [raised]
    rw [← raised]
    apply stopsIn_work
    intro work _ _ returned
    rw [raised] at returned
    cases returned
  exact worked.bind fun _ _ => False.elim

theorem stopsIn_runOnceInner_of_unavailable (found : store.getTask task.id = some current)
    (active : current.status = .active)
    (returned : answers.workResult = .ok work)
    (unavailable : backendsUnavailable work = true) :
    StopsIn (runOnceInnerRaising failures task answers) store
      (runStages failures store task answers) fun _ _ => True := by
  have worked : StopsIn (workPhaseRaising failures task answers) store
      (runStages failures store task answers)
      fun result _ => result.2.status = .blocked := by
    unfold runStages openObstacles closingObstacles endingObstacles endingStatus isUnavailable
    simp only [returned, unavailable, if_true]
    rw [← returned]
    apply stopsIn_work
    intro other next run again sameRun conducted _
    have same : other = work := by
      rw [returned] at again
      exact (Except.ok.inj again).symm
    subst same
    subst sameRun
    refine .prepend (stopsAt_steps conducted.inProgress [.resetProgress, .failureEvidence]) ?_
    simp only [backendsUnavailable_ensureFailureEvidence, unavailable, if_true]
    refine .stage (stopsAt_mark conducted.inProgress .markUnavailable _ _ _) ?_
    have closed := (conducted.remark .working answers.planSummary).end
      (by decide : RunStatus.blocked ∉ inProgressStatuses)
      "All LLM backends unavailable."
    refine (stopsIn_closeRun closed found active _ _ _ _ _ _).weaken ?_
    rintro _ _ rfl
    rfl
  have ended : ∀ (result : WorkResult × Run) (left : Store),
      result.2.status = .blocked →
        StopsIn ((fun (result : WorkResult × Run) => do
          if result.2.status = .blocked then return result.2
          else do
            takeSteps failures [.reportReady]
            validationPhaseRaising failures task result.2 result.1 answers)
          result) left [] fun _ _ => True := by
    intro result left blocked
    simp only [if_pos blocked]
    exact .returns rfl trivial
  exact worked.bind ended

/-- What `_work_phase` answers with when a backend was found. -/
def Worked (store : Store) (task : Task) (answers : RunAnswers)
    (work : WorkResult) (result : WorkResult × Run) (left : Store) : Prop :=
  result = (ensureFailureEvidence answers.workspaceRoot
      (workingRun store task answers) work, workingRun store task answers) ∧
    Conducted store (workingRun store task answers) left ∧
      left.artifacts = store.artifacts ++ artifactRows answers
        (newRun store task answers) (metadataArtifacts answers)

theorem stopsIn_workPhase (returned : answers.workResult = .ok work)
    (available : backendsUnavailable work = false) :
    StopsIn (workPhaseRaising failures task answers) store
      [⟨openingObstacles failures store task answers, Unstarted store⟩,
        ⟨(workingSteps (newRun store task answers) answers).map failures ++
            errorOf answers.workResult :: [.resetProgress, .failureEvidence].map failures,
          InProgress store (newRun store task answers)⟩]
      (Worked store task answers work) := by
  apply stopsIn_work
  intro other next run again sameRun conducted artifacts
  have same : other = work := by
    rw [returned] at again
    exact (Except.ok.inj again).symm
  subst same
  subst sameRun
  simp only [backendsUnavailable_ensureFailureEvidence, available, Bool.false_eq_true, if_false]
  exact .stage (stopsAt_steps conducted.inProgress _)
    (.returns rfl ⟨rfl, conducted.remark _ _, artifacts⟩)

theorem stopsIn_runOnceInner_of_work (found : store.getTask task.id = some current)
    (active : current.status = .active)
    (returned : answers.workResult = .ok work)
    (available : backendsUnavailable work = false) :
    StopsIn (runOnceInnerRaising failures task answers) store
      (runStages failures store task answers) fun _ _ => True := by
  have joined : runStages failures store task answers =
      [⟨openingObstacles failures store task answers, Unstarted store⟩,
        ⟨((workingSteps (newRun store task answers) answers).map failures ++
            errorOf answers.workResult :: [.resetProgress, .failureEvidence].map failures) ++
            (.reportReady :: (validatingSteps (ensureFailureEvidence answers.workspaceRoot
                (newRun store task answers) work) ++
              concludingSteps (newRun store task answers) answers
                (analysedWork (newRun store task answers) answers work))).map failures,
          InProgress store (newRun store task answers)⟩,
        ⟨[.readFinal, .writeFinal].map failures,
          Ended store (newRun store task answers) store.tasks⟩,
        ⟨(phaseSteps .phaseFinal task ++ reportingSteps).map failures,
          Ended store (newRun store task answers) (store.writeTaskStatus task.id (decidedTaskStatus
              (runDecision store task answers work).action)).tasks⟩] := by
    unfold runStages openObstacles closingObstacles endingObstacles endingStatus isUnavailable
    simp only [returned, available, Bool.false_eq_true, if_false,
      List.append_assoc, List.cons_append]
  rw [joined]
  refine .bind_second (stopsIn_workPhase returned available) ?_
  rintro _ left ⟨rfl, conducted, artifacts⟩
  have ready : ¬ (workingRun store task answers).status = .blocked := nofun
  simp only [if_neg ready]
  refine .prepend (stopsAt_steps conducted.inProgress [.reportReady]) ?_
  have validated := @stopsIn_validationPhase failures store left task current
    _ (ensureFailureEvidence answers.workspaceRoot
      (newRun store task answers) work) answers conducted found active
  unfold decidedOn at validated
  rw [artifacts] at validated
  exact validated

theorem stopsIn_runOnceInner {store : Store} {task current : Task} (answers : RunAnswers)
    (found : store.getTask task.id = some current)
    (active : current.status = .active) :
    StopsIn (runOnceInnerRaising failures task answers) store
      (runStages failures store task answers) fun _ _ => True := by
  cases worked : answers.workResult with
  | error _ => exact stopsIn_runOnceInner_of_error worked
  | ok work =>
    cases available : backendsUnavailable work with
    | true => exact stopsIn_runOnceInner_of_unavailable found active worked available
    | false => exact stopsIn_runOnceInner_of_work found active worked available

end RunService

end AccruviaHarness
