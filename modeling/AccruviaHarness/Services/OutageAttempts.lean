import AccruviaHarness.Services.RunService

/-!
# Backend outages and the attempts of a task

A run that found no backend puts its task back to pending and gets no
decision. It stays in the run table, and `next_attempt` counts it.
-/

namespace AccruviaHarness

open Library List

namespace RunService

/-- `run_once` calls for one task, each of which returned. -/
inductive History (taskId : String) (start : Store) :
    List RunAnswers → Store → Prop where
  | nil : History taskId start [] start
  | call {calls : List RunAnswers} {answers : RunAnswers} {store next : Store} {run : Run}
      (earlier : History taskId start calls store)
      (ended : runOnce store taskId answers = (next, .ok run)) :
      History taskId start (calls ++ [answers]) next

def withoutOutages (calls : List RunAnswers) : List RunAnswers :=
  calls.filter fun answers => !isUnavailable answers

def lastChoice (store : Store) : Option DecisionAction :=
  store.decisions.getLast?.map Decision.action

def AnalysisAccepts (store : Store) (task : Task) (answers : RunAnswers) :
    Prop :=
  ∃ work, answers.workResult = .ok work ∧ (runAnalysis store task answers work).Accepted

/-! ## What a call that returned tells -/

structure Runnable (store : Store) (taskId : String) (answers : RunAnswers)
    (task : Task) (work : WorkResult) : Prop where
  found : store.getTask taskId = some task
  unfinished : ¬ (task.status = .completed ∨ task.status = .failed)
  unblocked : objectiveGateBlock store task = none
  project : store.getProject task.projectId ≠ none
  worked : answers.workResult = .ok work
  fresh : ∀ other ∈ store.runs.rows, other.id ≠ answers.runId

variable {store start before after : Store} {task current : Task}
  {answers : RunAnswers} {run : Run} {taskId : String} {work : WorkResult}
  {status : TaskStatus} {calls : List RunAnswers}

variable {next full : Store} {chosen : Option Decision} {fewer more : Int}

theorem worked_of_ok (ended : runOnceInner store task answers = (next, .ok run)) :
    (∃ work, answers.workResult = .ok work) ∧
      ∀ other ∈ store.runs.rows, other.id ≠ answers.runId := by
  unfold runOnceInner workPhase at ended
  cases inserted : store.createRun (newRun store task answers) with
  | none =>
    simp only [inserted] at ended
    cases ended
  | some _ =>
    refine ⟨?_, Store.fresh_of_createRun inserted⟩
    simp only [inserted] at ended
    cases worked : answers.workResult with
    | ok work => exact ⟨work, rfl⟩
    | error _ =>
      simp only [worked] at ended
      cases ended

theorem runnable_of_ok (ended : runOnce store taskId answers = (next, .ok run)) :
    ∃ task work, Runnable store taskId answers task work := by
  unfold runOnce at ended
  cases found : store.getTask taskId with
  | none =>
    simp only [found] at ended
    cases ended
  | some task =>
    simp only [found] at ended
    cases unblocked : objectiveGateBlock store task with
    | some _ =>
      simp only [unblocked] at ended
      cases ended
    | none =>
      simp only [unblocked] at ended
      by_cases finished :
          task.status = .completed ∨ task.status = .failed
      · simp only [if_pos finished] at ended
        cases ended
      simp only [if_neg finished] at ended
      cases project : store.getProject task.projectId with
      | none =>
        simp only [project] at ended
        cases ended
      | some _ =>
        simp only [project] at ended
        cases activated : store.updateTaskStatus task.id .active with
        | error _ =>
          simp only [activated] at ended
          cases ended
        | ok active =>
          simp only [activated] at ended
          obtain ⟨_, rfl⟩ := Store.updateTaskStatus_eq_ok_iff.mp activated
          rcases inner : runOnceInner (store.writeTaskStatus task.id .active) task answers with
            ⟨_, _ | _⟩
          · simp only [inner] at ended
            cases ended
          · obtain ⟨⟨work, worked⟩, fresh⟩ := worked_of_ok inner
            exact ⟨task, work, found, finished, unblocked,
              by rw [project]; exact nofun, worked, fresh⟩

theorem Runnable.ends (runnable : Runnable store taskId answers task work) :
    ∃ next run, runOnce store taskId answers = (next, .ok run) ∧
        NextRun store taskId answers run ∧ Leaves store store.runs.rows taskId run
            (chosenOn store task answers work)
            (statusAfter store task answers work) next := by
  obtain ⟨found, unfinished, unblocked, project, worked, fresh⟩ := runnable
  obtain rfl : task.id = taskId := (store.tasks.lookup_eq_some_iff.mp found).2
  rcases runOnce_cases found unfinished unblocked worked with
    ⟨_, _, _, _, _, missing | ⟨other, member, used⟩⟩ | ⟨next, run, ended, nextRun, leaves, _, _⟩
  · exact absurd missing project
  · exact absurd used (fresh other member)
  · exact ⟨next, run, ended, nextRun, leaves⟩

/-! ## What a history leaves -/

/-- The store after the calls: their runs were added and numbered one after
the other, and the task may have another status. -/
structure After (start : Store) (task : Task) (calls : List RunAnswers)
    (store : Store) : Prop where
  found : ∃ status, store.getTask task.id = some { task with status }
  attempt : store.nextAttempt task.id = start.nextAttempt task.id + calls.length
  runIds : ∀ run ∈ store.runs.rows, (∃ earlier ∈ start.runs.rows, earlier.id = run.id) ∨
      run.id ∈ calls.map RunAnswers.runId
  usedIds : ∀ answers ∈ calls, ∃ run ∈ store.runs.rows, run.id = answers.runId
  oldIds : ∀ earlier ∈ start.runs.rows, ∃ run ∈ store.runs.rows,
    run.id = earlier.id
  artifacts : ∀ runId, runId ∉ calls.map RunAnswers.runId →
    (store.artifacts.filter fun artifact => artifact.runId = runId) =
      start.artifacts.filter fun artifact => artifact.runId = runId
  projects : store.projects = start.projects
  gate : objectiveGateBlock store = objectiveGateBlock start

theorem After.nil (found : start.getTask task.id = some task) : After start task [] start where
  found := ⟨task.status, found⟩
  attempt := (Int.add_zero _).symm
  runIds run member := .inl ⟨run, member, rfl⟩
  usedIds _ member := nomatch member
  oldIds run member := ⟨run, member, rfl⟩
  artifacts _ _ := rfl
  projects := rfl
  gate := rfl

theorem nextAttempt_of_leaves (nextRun : NextRun before taskId answers run)
    (leaves : Leaves before before.runs.rows taskId run chosen status after) :
    after.nextAttempt taskId = before.nextAttempt taskId + 1 := by
  have added : after.runsOf taskId = before.runsOf taskId ++ [run] := by
    unfold Store.runsOf
    rw [leaves.runs, filter_append]
    simp [nextRun.ofTask]
  have number := nextRun.attempt
  unfold Store.nextAttempt at number ⊢
  rw [added, map_append, foldl_append]
  simp only [map_cons, map_nil, foldl_cons, foldl_nil]
  rw [number]
  omega

theorem After.call {start store next : Store} {task : Task}
    {calls : List RunAnswers} {answers : RunAnswers} {run : Run}
    {chosen : Option Decision} {status : TaskStatus}
    (after : After start task calls store)
    (nextRun : NextRun store task.id answers run)
    (leaves : Leaves store store.runs.rows task.id run chosen status next) :
    After start task (calls ++ [answers]) next := by
  obtain ⟨_, found⟩ := after.found
  refine ⟨⟨status, ?_⟩, ?_, ?_, ?_, ?_, ?_,
    leaves.projects.trans after.projects, leaves.gate.trans after.gate⟩
  · have stored := leaves.getTask found
    exact stored
  · rw [nextAttempt_of_leaves nextRun leaves, after.attempt, length_append, length_singleton]
    push_cast
    omega
  · intro other member
    rw [leaves.runs, mem_append, mem_singleton] at member
    rw [map_append, mem_append]
    rcases member with before | rfl
    · rcases after.runIds other before with old | used
      · exact .inl old
      · exact .inr (.inl used)
    · exact .inr (.inr (mem_singleton.mpr nextRun.named))
  · intro other member
    rw [leaves.runs]
    rcases mem_append.mp member with before | last
    · obtain ⟨stored, storedMember, named⟩ := after.usedIds other before
      exact ⟨stored, mem_append_left _ storedMember, named⟩
    · rw [mem_singleton.mp last]
      exact ⟨run, mem_append_right _ mem_cons_self, nextRun.named⟩
  · intro old member
    obtain ⟨stored, storedMember, named⟩ := after.oldIds old member
    rw [leaves.runs]
    exact ⟨stored, mem_append_left _ storedMember, named⟩
  · intro runId unused
    rw [map_append, mem_append, not_or] at unused
    obtain ⟨rows, artifacts, own⟩ := leaves.artifacts
    have others : rows.filter (fun artifact => artifact.runId = runId) = [] :=
      by
        rw [filter_eq_nil_iff]
        intro row member
        have different : run.id ≠ runId := by
          intro same
          apply unused.2
          rw [map_singleton, mem_singleton, ← same, nextRun.named]
        simpa [own row member] using different
    rw [artifacts, filter_append, others, append_nil]
    exact after.artifacts runId unused.1

theorem After.of_history (found : start.getTask task.id = some task)
    (history : History task.id start calls store) :
    After start task calls store := by
  induction history with
  | nil => exact .nil found
  | call _ ended ih =>
    obtain ⟨_, _, runnable⟩ := runnable_of_ok ended
    obtain ⟨_, _, again, nextRun, leaves⟩ := runnable.ends
    rw [ended] at again
    cases again
    exact ih.call nextRun leaves

/-! ## The decision of a later run -/

theorem After.analysis (after : After start task calls store)
    (fresh : ∀ other ∈ store.runs.rows, other.id ≠ answers.runId)
    (work : WorkResult) :
    runAnalysis store task answers work = runAnalysis start task answers work := by
  have unused : answers.runId ∉ calls.map RunAnswers.runId := by
    intro used
    obtain ⟨earlier, member, same⟩ := mem_map.mp used
    obtain ⟨run, stored, named⟩ := after.usedIds earlier member
    exact fresh run stored (named.trans same)
  have artifacts := after.artifacts answers.runId unused
  have listed : analysedArtifacts store (newRun store task answers) answers
      work = analysedArtifacts start (newRun start task answers) answers
        work := by
    unfold analysedArtifacts
    simp only [filter_append]
    show orderBy _ (store.artifacts.filter _ ++ _ ++ _) = _
    exact congrArg (fun earlier => orderBy Store.ArtifactOrder (earlier ++ _ ++ _)) artifacts
  exact congrArg (DefaultAnalyzer.analyzeWork task _) listed

theorem After.decision (after : After start task calls store)
    (fresh : ∀ other ∈ store.runs.rows, other.id ≠ answers.runId)
    (stored : store.getTask task.id = some current) (work : WorkResult) :
    runDecision store current answers work =
      DefaultDecider.decide (runAnalysis start task answers work)
        { newRun start task answers with
          attempt := start.nextAttempt task.id + calls.length } task := by
  obtain ⟨_, found⟩ := after.found
  rw [found] at stored
  cases stored
  have numbered : newRun store task answers =
      { newRun start task answers with
        attempt := start.nextAttempt task.id + calls.length } := by
    unfold newRun
    rw [after.attempt]
  rw [← after.analysis fresh, ← numbered]
  rfl

/-! ## The history without the outages -/

theorem withoutOutages_append_of_outage (outage : isUnavailable answers = true) :
    withoutOutages (calls ++ [answers]) = withoutOutages calls := by
  simp [withoutOutages, outage]

theorem withoutOutages_append_of_available (available : isUnavailable answers = false) :
    withoutOutages (calls ++ [answers]) = withoutOutages calls ++ [answers] := by
  simp [withoutOutages, available]

def Unfinished (store : Store) (taskId : String) : Prop :=
  ∀ task, store.getTask taskId = some task → ¬ (task.status = .completed ∨ task.status = .failed)

theorem unfinished_iff (found : before.getTask taskId = some current)
    (leaves : Leaves before before.runs.rows taskId run chosen status after) :
    Unfinished after taskId ↔ ¬ (status = .completed ∨ status = .failed) := by
  have stored : after.getTask taskId = some { current with status } := leaves.getTask found
  unfold Unfinished
  rw [stored]
  simp

theorem decidedTaskStatus_unfinished_iff (action : DecisionAction) :
    ¬ (decidedTaskStatus action = .completed ∨ decidedTaskStatus action = .failed) ↔
      action = .retry ∨ action = .branch := by
  cases action <;> decide

theorem goesOn_of_fewer {analysis : AnalyzeResult} (le : fewer ≤ more)
    (goesOn : ¬ (decidedTaskStatus (DefaultDecider.decide analysis
        { run with attempt := more } task).action = .completed ∨
      decidedTaskStatus (DefaultDecider.decide analysis
        { run with attempt := more } task).action = .failed)) :
    ¬ (decidedTaskStatus (DefaultDecider.decide analysis
        { run with attempt := fewer } task).action = .completed ∨
      decidedTaskStatus (DefaultDecider.decide analysis
        { run with attempt := fewer } task).action = .failed) := by
  rw [decidedTaskStatus_unfinished_iff] at goesOn ⊢
  by_cases early : fewer < task.maxAttempts
  · left
    rw [DefaultDecider.decide_retry_iff]
    refine ⟨?_, early⟩
    rw [← DefaultDecider.decide_promote_iff analysis
      { run with attempt := more } task]
    rcases goesOn with retry | branch
    · rw [retry]
      decide
    · rw [branch]
      decide
  · have late : ¬ more < task.maxAttempts := by omega
    have same : DefaultDecider.decide analysis
        { run with attempt := fewer } task =
          DefaultDecider.decide analysis { run with attempt := more } task :=
      DefaultDecider.decide_congr rfl (iff_of_false early late)
    rw [same]
    exact goesOn

theorem runnable_after {trimmed : Store} (afterAll : After start task calls full)
    (afterSome : After start task (withoutOutages calls) trimmed)
    (unfinished : Unfinished trimmed task.id)
    (runnable : Runnable full task.id answers current work) :
    ∃ other, Runnable trimmed task.id answers other work := by
  obtain ⟨_, stored⟩ := afterSome.found
  obtain ⟨_, fullStored⟩ := afterAll.found
  have same := runnable.found
  rw [fullStored] at same
  cases same
  refine ⟨_, stored, unfinished _ stored, ?_, ?_, runnable.worked, ?_⟩
  · have open? := runnable.unblocked
    rw [afterAll.gate] at open?
    rw [afterSome.gate]
    exact open?
  · have project := runnable.project
    rw [Store.getProject, afterAll.projects] at project
    rw [Store.getProject, afterSome.projects]
    exact project
  · intro run member
    rcases afterSome.runIds run member with ⟨old, oldMember, named⟩ | used
    · obtain ⟨other, stored, same⟩ := afterAll.oldIds old oldMember
      rw [← named, ← same]
      exact runnable.fresh other stored
    · obtain ⟨call, callMember, named⟩ := mem_map.mp used
      obtain ⟨other, stored, same⟩ := afterAll.usedIds call (mem_of_mem_filter callMember)
      rw [← named, ← same]
      exact runnable.fresh other stored

theorem attempts_le (start : Store) (task : Task) (calls : List RunAnswers) :
    start.nextAttempt task.id + ((withoutOutages calls).length : Int) ≤
      start.nextAttempt task.id + calls.length := by
  have shorter : (withoutOutages calls).length ≤ calls.length := length_filter_le _ calls
  omega

theorem isUnavailable_eq (worked : answers.workResult = .ok work) :
    isUnavailable answers = backendsUnavailable work := by
  unfold isUnavailable
  rw [worked]

theorem trimmed_history (found : start.getTask task.id = some task)
    (history : History task.id start calls full) :
    ∃ trimmed, History task.id start (withoutOutages calls) trimmed ∧
      (Unfinished full task.id → Unfinished trimmed task.id) := by
  induction history with
  | nil => exact ⟨start, .nil, id⟩
  | @call calls answers store next run earlier ended ih =>
    obtain ⟨trimmed, trimmedHistory, unfinished⟩ := ih
    obtain ⟨_, work, runnable⟩ := runnable_of_ok ended
    have afterAll := After.of_history found earlier
    have afterSome := After.of_history found trimmedHistory
    have open? : Unfinished trimmed task.id := by
      apply unfinished
      intro other stored
      rw [runnable.found] at stored
      cases stored
      exact runnable.unfinished
    cases outage : isUnavailable answers with
    | true =>
      rw [withoutOutages_append_of_outage outage]
      exact ⟨trimmed, trimmedHistory, fun _ => open?⟩
    | false =>
      rw [withoutOutages_append_of_available outage]
      obtain ⟨_, alsoRunnable⟩ := runnable_after afterAll afterSome open? runnable
      obtain ⟨_, _, again, _, leaves⟩ := runnable.ends
      rw [ended] at again
      cases again
      obtain ⟨later, _, laterEnded, _, laterLeaves⟩ := alsoRunnable.ends
      refine ⟨later, trimmedHistory.call laterEnded, ?_⟩
      have available : ¬ backendsUnavailable work = true := by
        rw [← isUnavailable_eq runnable.worked, outage]
        decide
      rw [unfinished_iff runnable.found leaves, unfinished_iff alsoRunnable.found laterLeaves]
      unfold statusAfter
      rw [if_neg available, if_neg available, afterAll.decision runnable.fresh runnable.found,
        afterSome.decision alsoRunnable.fresh alsoRunnable.found]
      exact goesOn_of_fewer (attempts_le start task calls)

/-! ## The choice of the decider -/

theorem lastChoice_of_leaves (available : ¬ backendsUnavailable work = true)
    (leaves : Leaves before before.runs.rows taskId run
      (chosenOn before current answers work) status after) :
    lastChoice after = some (runDecision before current answers work).action := by
  have decisions := leaves.decisions
  unfold chosenOn at decisions
  rw [if_neg available] at decisions
  unfold lastChoice
  rw [decisions]
  simp [decisionRow]

theorem decide_same_iff {analysis : AnalyzeResult} (le : fewer ≤ more) :
    (DefaultDecider.decide analysis { run with attempt := more } task).action =
        (DefaultDecider.decide analysis
          { run with attempt := fewer } task).action ↔
      analysis.Accepted ∨ more < task.maxAttempts ∨ task.maxAttempts ≤ fewer := by
  by_cases accepted : analysis.Accepted
  · have promoted : ∀ attempt, (DefaultDecider.decide analysis
        { run with attempt } task).action = .promote := fun attempt =>
      (DefaultDecider.decide_promote_iff _ _ _).mpr accepted
    rw [promoted, promoted]
    exact iff_of_true rfl (.inl accepted)
  rw [or_iff_right accepted]
  by_cases apart : fewer < task.maxAttempts ∧ task.maxAttempts ≤ more
  · have retry : (DefaultDecider.decide analysis
        { run with attempt := fewer } task).action = .retry :=
      (DefaultDecider.decide_retry_iff _ _ _).mpr ⟨accepted, apart.1⟩
    have last : (DefaultDecider.decide analysis
        { run with attempt := more } task).action ≠ .retry :=
      DefaultDecider.decide_ne_retry apart.2
    rw [retry]
    refine iff_of_false last ?_
    omega
  · have together : more < task.maxAttempts ↔ fewer < task.maxAttempts := by omega
    have same : DefaultDecider.decide analysis
        { run with attempt := more } task =
          DefaultDecider.decide analysis { run with attempt := fewer } task :=
      DefaultDecider.decide_congr rfl together
    rw [same]
    refine iff_of_true rfl ?_
    omega

/-- The decider chooses for an analysed run as it does without the runs that
found no backend, if and only if the work is promoted, or the run is not the
last attempt though the outages are counted, or it is the last one without
them. -/
theorem decision_without_outages_iff
    {start full next : Store} {task : Task} {calls : List RunAnswers}
    {answers : RunAnswers} {run : Run}
    (found : start.getTask task.id = some task)
    (history : History task.id start calls full)
    (ended : runOnce full task.id answers = (next, .ok run))
    (analysed : isUnavailable answers = false) :
    ∃ trimmed trimmedNext trimmedRun, History task.id start (withoutOutages calls) trimmed ∧
        runOnce trimmed task.id answers = (trimmedNext, .ok trimmedRun) ∧
          (lastChoice next = lastChoice trimmedNext ↔ AnalysisAccepts start task answers ∨
              start.nextAttempt task.id + calls.length < task.maxAttempts ∨
                task.maxAttempts ≤ start.nextAttempt task.id + (withoutOutages calls).length) := by
  obtain ⟨trimmed, trimmedHistory, unfinished⟩ := trimmed_history found history
  obtain ⟨_, work, runnable⟩ := runnable_of_ok ended
  have afterAll := After.of_history found history
  have afterSome := After.of_history found trimmedHistory
  have open? : Unfinished trimmed task.id := by
    apply unfinished
    intro other stored
    rw [runnable.found] at stored
    cases stored
    exact runnable.unfinished
  obtain ⟨_, alsoRunnable⟩ := runnable_after afterAll afterSome open? runnable
  obtain ⟨_, _, again, _, leaves⟩ := runnable.ends
  rw [ended] at again
  cases again
  obtain ⟨trimmedNext, trimmedRun, trimmedEnded, _, trimmedLeaves⟩ := alsoRunnable.ends
  have available : ¬ backendsUnavailable work = true := by
    rw [← isUnavailable_eq runnable.worked, analysed]
    decide
  have accepts : AnalysisAccepts start task answers ↔
      (runAnalysis start task answers work).Accepted := by
    unfold AnalysisAccepts
    rw [runnable.worked]
    simp
  refine ⟨trimmed, trimmedNext, trimmedRun, trimmedHistory, trimmedEnded, ?_⟩
  rw [lastChoice_of_leaves available leaves,
    lastChoice_of_leaves available trimmedLeaves, Option.some_inj,
    afterAll.decision runnable.fresh runnable.found,
    afterSome.decision alsoRunnable.fresh alsoRunnable.found, accepts]
  exact decide_same_iff (attempts_le start task calls)

def twoAttemptsTask : Task where
  id := "task"
  projectId := "project"
  maxAttempts := 2

def twoAttemptsStore : Store where
  projects := .single { id := "project" }
  tasks := .single twoAttemptsTask

def outage : RunAnswers where
  runId := "outage"
  workResult := .ok
    { summary := "", artifacts := [], diagnostics := some [("backends_unavailable", .bool true)] }

def emptyWork : RunAnswers where
  runId := "run"
  workResult := .ok { summary := "", artifacts := [] }

def afterOutage : Store := (runOnce twoAttemptsStore "task" outage).1

theorem history_outage : History twoAttemptsTask.id twoAttemptsStore [outage] afterOutage := by
  have ended : runOnce twoAttemptsStore "task" outage = (afterOutage, .ok
        { id := "outage", taskId := "task", status := .blocked, attempt := 1
          summary := "All LLM backends unavailable." }) := rfl
  exact .call .nil ended

def failedRun : Run where
  id := "run"
  taskId := "task"
  status := .failed
  attempt := 2
  summary := "Retry budget exhausted."

def retriedRun : Run where
  id := "run"
  taskId := "task"
  status := .failed
  attempt := 1
  summary := "Artifacts were insufficient; retry within bounded task budget."

theorem decision_after_outage :
    ∃ trimmed trimmedNext trimmedRun,
      History twoAttemptsTask.id twoAttemptsStore (withoutOutages [outage]) trimmed ∧
        runOnce trimmed twoAttemptsTask.id emptyWork = (trimmedNext, .ok trimmedRun) ∧
          (lastChoice (runOnce afterOutage "task" emptyWork).1 = lastChoice trimmedNext ↔
            AnalysisAccepts twoAttemptsStore twoAttemptsTask emptyWork ∨
              twoAttemptsStore.nextAttempt twoAttemptsTask.id +
                  ([outage].length : Int) < twoAttemptsTask.maxAttempts ∨
                twoAttemptsTask.maxAttempts ≤ twoAttemptsStore.nextAttempt twoAttemptsTask.id +
                    ((withoutOutages [outage]).length : Int)) := by
  have ended : runOnce afterOutage twoAttemptsTask.id emptyWork =
      ((runOnce afterOutage "task" emptyWork).1, .ok failedRun) := rfl
  exact decision_without_outages_iff rfl history_outage ended (by decide)

theorem not_decision_without_outages :
    ¬ ∀ (start full next trimmed trimmedNext : Store) (task : Task)
        (calls : List RunAnswers) (answers : RunAnswers)
        (run trimmedRun : Run),
      start.getTask task.id = some task → History task.id start calls full →
          runOnce full task.id answers = (next, .ok run) → isUnavailable answers = false →
              History task.id start (withoutOutages calls) trimmed →
                runOnce trimmed task.id answers = (trimmedNext, .ok trimmedRun) →
                  lastChoice next = lastChoice trimmedNext := by
  intro same
  have ended : runOnce afterOutage twoAttemptsTask.id emptyWork =
      ((runOnce afterOutage "task" emptyWork).1, .ok failedRun) := rfl
  have trimmedEnded : runOnce twoAttemptsStore twoAttemptsTask.id emptyWork =
      ((runOnce twoAttemptsStore "task" emptyWork).1, .ok retriedRun) := rfl
  have wrong := same _ _ _ _ _ _ _ _ _ _ rfl history_outage ended (by decide) .nil trimmedEnded
  exact absurd wrong (by decide)

end RunService

end AccruviaHarness
