import AccruviaHarness.Services.SupervisedDrain
import Mathlib.Data.Prod.Lex

/-!
# Supervision that stops when it is idle

A run without watch mode ends: every pass runs a task that it has not run
before, takes items from the decision queue, recovers stale rows, or is the
last one.
-/

namespace AccruviaHarness

open Library QueueService List

namespace SupervisorCall

variable (call : SupervisorCall)

def decisionsTaken : Nat := if call.decidesQueued then SupervisorService.decisionsPerCycle else 0

structure Drained (last final : Supervision) : Prop where
  idle : final.run.exitReason = some .idle
  pending : final.store.pendingItems = last.store.pendingItems - call.decisionsTaken
  settled : final.store.IsSettled (call.around last).recoveredAt
  blocked : ∀ task ∈ final.store.tasks.rows, task.status = .pending →
    final.store.isLeased task.id = false → Store.inGivenProject call.projectId task = true →
        task.id ∉ final.run.loop.attemptedTaskIds →
          dispatchBlock final.store (call.around last).dispatchesAt task ≠ none ∨
            final.store.atCapacity task.projectId = true

inductive Passes (supervision : Supervision) : Supervision → Prop where
  /-- It runs a task that it has not attempted. -/
  | ran {next : Supervision} {task : Task} (stored : task ∈ supervision.store.tasks.rows)
      (new : task.id ∉ supervision.run.loop.attemptedTaskIds)
      (processed : next.run.loop.processedTaskIds =
        supervision.run.loop.processedTaskIds ++ [task.id])
      (attempted : next.run.loop.attemptedTaskIds =
        task.id :: supervision.run.loop.attemptedTaskIds)
      (goesOn : next.run.exitReason = none)
      (ids : next.store.tasks.rows.map Task.id = supervision.store.tasks.rows.map Task.id)
      (known : next.store.ProjectsKnown)
      (queued : (∀ store, ((call.around supervision).calledBack
          store).pendingItems ≤ store.pendingItems) →
        next.store.pendingItems ≤ supervision.store.pendingItems) :
      Passes supervision next
  /-- It finds no task to run. -/
  | found {next : Supervision} (places : SamePlaces supervision.store next.store)
      (processed : next.run.loop.processedTaskIds = supervision.run.loop.processedTaskIds)
      (attempted : next.run.loop.attemptedTaskIds = supervision.run.loop.attemptedTaskIds)
      (pending : next.store.pendingItems = supervision.store.pendingItems - call.decisionsTaken)
      (outcome : next.run.exitReason = none ∧
          (min supervision.store.pendingItems call.decisionsTaken = 0 →
            next.store.unsettledRows < supervision.store.unsettledRows) ∨
        call.Drained supervision next) :
      Passes supervision next

/-! ## One pass -/

theorem beforeDispatch_spec (supervision : Supervision) :
    SamePlaces supervision.store (call.beforeDispatch supervision) ∧
      (call.beforeDispatch supervision).pendingItems =
        supervision.store.pendingItems - call.decisionsTaken ∧
      (min supervision.store.pendingItems call.decisionsTaken = 0 →
        (call.beforeDispatch supervision).unsettledRows ≤ supervision.store.unsettledRows) := by
  unfold beforeDispatch
  dsimp only
  generalize watched : { supervision.store with
    control := (call.around supervision).watched supervision.store.control } =
      observed
  generalize recovers : SupervisorService.recoverWhileBusy
    supervision.run.loop (call.around supervision).recoversAt observed = recovered
  have observedPlaces : SamePlaces supervision.store observed := by
    rw [← watched]
    exact SamePlaces.of_tasks rfl rfl
  have observedRows :
      observed.unsettledRows = supervision.store.unsettledRows := by
    rw [← watched]
    rfl
  have observedQueue :
      observed.pendingItems = supervision.store.pendingItems := by
    rw [← watched]
    rfl
  have recoveredFacts : SamePlaces observed recovered ∧
      recovered.pendingItems = observed.pendingItems ∧
        recovered.unsettledRows ≤ observed.unsettledRows := by
    rw [← recovers]
    unfold SupervisorService.recoverWhileBusy
    split
    · have counted := observed.unsettledRows_recoverStaleState (call.around supervision).recoversAt
      exact ⟨SamePlaces.recoverStaleState _ _, rfl, Nat.le.intro counted⟩
    · exact ⟨SamePlaces.refl _, rfl, le_rfl⟩
  obtain ⟨recoveredPlaces, recoveredQueue, recoveredRows⟩ := recoveredFacts
  have places := observedPlaces.trans recoveredPlaces
  have queue := recoveredQueue.trans observedQueue
  have rows := recoveredRows.trans observedRows.le
  unfold SupervisorService.drainDecisionQueue decisionsTaken
  cases call.decidesQueued with
  | false => exact ⟨places, queue, fun _ => rows⟩
  | true =>
    obtain ⟨drainedPlaces, drained, untouched⟩ :=
      SupervisorService.drainDecisions_spec (call.around supervision).decides
        SupervisorService.decisionsPerCycle recovered
    rw [queue] at drained untouched
    refine ⟨places.trans drainedPlaces, drained, ?_⟩
    intro nothing
    have none : supervision.store.pendingItems = 0 := by
      have bound : SupervisorService.decisionsPerCycle = 50 := rfl
      rw [if_pos rfl, bound] at nothing
      omega
    rw [if_pos rfl, untouched none]
    exact rows

variable {supervision next : Supervision} {store : Store}

theorem pass_of_isOneShot (oneShot : call.arguments.IsOneShot)
    (goesOn : supervision.run.exitReason = none)
    (queue : QueueAnswer) (recoveredAny : Bool) :
    SupervisorService.pass call.arguments supervision.run
        (passAnswers supervision queue recoveredAny) =
      some (SupervisorService.queueStep call.arguments (supervision.run.check supervision.run.clock)
        (passAnswers supervision queue recoveredAny)) := by
  have noProjects : SupervisorService.dueHeartbeatProjects call.arguments
      (supervision.run.check supervision.run.clock).loop
      (passAnswers supervision queue recoveredAny) = [] := by
    unfold SupervisorService.dueHeartbeatProjects SupervisorService.heartbeatProjects
    rw [oneShot.heartbeatAllProjects, oneShot.heartbeatProjectIds]
    split
    · rfl
    · rfl
  unfold SupervisorService.pass
  rw [goesOn, oneShot.maxIterations]
  simp only [passAnswers] at noProjects ⊢
  simp only [Option.isSome_none, Bool.false_eq_true, if_false, Option.any_none, lt_irrefl]
  rw [noProjects]

theorem idlePass_of_isOneShot (oneShot : call.arguments.IsOneShot)
    (loop : SupervisorLoop) (answers : SupervisorAnswers) :
    SupervisorService.idlePass call.arguments loop answers =
      if answers.recoveredAny then (loop.busy, none)
      else (loop.idle, some .idle) := by
  unfold SupervisorService.idlePass
  rw [oneShot.watch, oneShot.checksReviews, oneShot.hasMaintenanceCallback]
  rfl

theorem blocked_of_idle (blocked : ∀ task,
      Available (call.beforeDispatch supervision) (call.request supervision) task →
        dispatchBlock (call.beforeDispatch supervision) (call.request supervision).now task ≠ none)
    {task : Task}
    (stored : task ∈ (call.beforeDispatch supervision).tasks.rows)
    (pending : task.status = .pending)
    (unleased : ((call.beforeDispatch supervision).deleteExpiredLeases
      (call.around supervision).dispatchesAt).isLeased task.id = false)
    (inProject : Store.inGivenProject call.projectId task = true)
    (new : task.id ∉ supervision.run.loop.attemptedTaskIds) :
    dispatchBlock (call.beforeDispatch supervision)
        (call.around supervision).dispatchesAt task ≠ none ∨
      ((call.beforeDispatch supervision).deleteExpiredLeases
        (call.around supervision).dispatchesAt).atCapacity task.projectId =
          true := by
  by_cases full : ((call.beforeDispatch supervision).deleteExpiredLeases
      (call.around supervision).dispatchesAt).atCapacity task.projectId = true
  · exact .inr full
  · exact .inl (blocked task
      { stored := stored, pending := pending, unleased := unleased, inProject := inProject
        allowed := new, underCap := Bool.eq_false_of_not_eq_true full })

theorem pass_spec (oneShot : call.arguments.IsOneShot) (goesOn : supervision.run.exitReason = none)
    (known : supervision.store.ProjectsKnown) :
    ∃ next, call.pass supervision = some next ∧ call.Passes supervision next := by
  obtain ⟨places, pending, rows⟩ := call.beforeDispatch_spec supervision
  have works := (call.around supervision).worked (call.beforeDispatch supervision)
  have fresh := (call.around supervision).fresh (call.beforeDispatch supervision)
  unfold pass
  rcases @processNextTask_runs_or_blocks (call.beforeDispatch supervision)
      (call.request supervision) rfl (places.projectsKnown known) works fresh
    with
    ⟨task, run, left, available, ⟨current, processes, own⟩, leftPlaces, queue⟩ |
      ⟨blocked, processes⟩
  · rw [processes]
    dsimp only
    rw [call.pass_of_isOneShot oneShot goesOn]
    refine ⟨_, rfl, ?_⟩
    have listed : task.id ∈ supervision.store.tasks.rows.map Task.id := by
      rw [← places.ids]
      exact mem_map_of_mem available.stored
    obtain ⟨stored, member, same⟩ := mem_map.mp listed
    have name : current.id = stored.id := own.trans same.symm
    have leftIds := (places.trans leftPlaces).ids
    refine .ran member ?_ ?_ ?_ rfl ?_ ?_ ?_
    · rw [same]
      exact available.allowed
    · exact congrArg (supervision.run.loop.processedTaskIds ++ [·]) name
    · exact congrArg (· :: supervision.run.loop.attemptedTaskIds) name
    · exact ((call.around supervision).createsNoTask left).trans leftIds
    · exact (call.around supervision).keepsProjects left
        ((places.trans leftPlaces).projectsKnown known)
    · intro quiet
      refine (quiet left).trans ?_
      rw [queue, pending]
      exact Nat.sub_le _ _
  · rw [processes]
    dsimp only
    rw [call.pass_of_isOneShot oneShot goesOn]
    refine ⟨_, rfl, ?_⟩
    have purged : SamePlaces (call.beforeDispatch supervision)
        ((call.beforeDispatch supervision).deleteExpiredLeases
          (call.request supervision).now) := SamePlaces.of_tasks rfl rfl
    have recoveredPlaces := SamePlaces.recoverStaleState
      ((call.beforeDispatch supervision).deleteExpiredLeases
        (call.request supervision).now) (call.around supervision).recoveredAt
    have counted := ((call.beforeDispatch supervision).deleteExpiredLeases
      (call.request supervision).now).unsettledRows_recoverStaleState
        (call.around supervision).recoveredAt
    have fewer := (call.beforeDispatch supervision).unsettledRows_deleteExpiredLeases_le
        (call.request supervision).now
    have step : ∀ recoveredAny, SupervisorService.queuePass call.arguments
            (supervision.run.check supervision.run.clock).loop
            (passAnswers supervision .nothing recoveredAny) =
          if recoveredAny then ((supervision.run.check supervision.run.clock).loop.busy, none)
          else
            ((supervision.run.check supervision.run.clock).loop.idle, some .idle) :=
      fun recoveredAny => call.idlePass_of_isOneShot oneShot _ _
    unfold SupervisorService.queueStep
    rw [step]
    cases recoveredAny : (((call.beforeDispatch supervision).deleteExpiredLeases
          (call.request supervision).now).recoverStaleState
            (call.around supervision).recoveredAt).2.any with
    | true =>
      have some := RecoveredCounts.any_eq_true_iff.mp recoveredAny
      refine .found (places.trans (purged.trans recoveredPlaces)) rfl rfl
        pending (.inl ⟨rfl, fun nothing => ?_⟩)
      have before := rows nothing
      dsimp only
      omega
    | false =>
      obtain ⟨unchanged, settled⟩ := Store.recoverStaleState_of_not_any recoveredAny
      refine .found (places.trans (purged.trans recoveredPlaces)) rfl rfl
        pending (.inr ⟨rfl, pending, ?_, ?_⟩)
      · dsimp only
        rw [unchanged]
        exact settled
      · dsimp only
        rw [unchanged]
        intro task stored waiting unleased inProject new
        exact call.blocked_of_idle blocked stored waiting unleased inProject new

/-! ## The whole run -/

def QueuesNothing : Prop :=
  ∀ pass store, ((call.surroundings pass).calledBack store).pendingItems ≤ store.pendingItems

structure Sound (store : Store) (supervision : Supervision) : Prop where
  known : supervision.store.ProjectsKnown
  processedOnce : supervision.run.loop.processedTaskIds.Nodup
  attempted : supervision.run.loop.attemptedTaskIds = supervision.run.loop.processedTaskIds.reverse
  reached : ∃ passes, call.supervise store passes = supervision
  queued : call.QueuesNothing → supervision.store.pendingItems ≤ store.pendingItems
  ended : supervision.run.exitReason = none ∨
    ∃ passes, (call.supervise store passes).run.exitReason = none ∧
      call.supervise store (passes + 1) = supervision ∧
      call.Drained (call.supervise store passes) supervision ∧
      (call.QueuesNothing → (call.supervise store passes).store.pendingItems ≤ store.pendingItems)

def measure (supervision : Supervision) : ℕ ×ₗ ℕ ×ₗ ℕ ×ₗ ℕ :=
  toLex (if supervision.run.exitReason.isNone then 1 else 0,
    toLex ((remainingTasks supervision.store supervision.run.loop.attemptedTaskIds).length,
      toLex (supervision.store.pendingItems, supervision.store.unsettledRows)))

variable {call}

theorem sound_initial (known : store.ProjectsKnown) :
    call.Sound store (call.supervise store 0) where
  known := known
  processedOnce := nodup_nil
  attempted := rfl
  reached := ⟨0, rfl⟩
  queued _ := le_rfl
  ended := .inl rfl

theorem exitReason_of_pass (passes : call.pass supervision = some next) :
    supervision.run.exitReason = none := by
  unfold pass at passes
  split at passes
  · obtain ⟨run, taken, _⟩ := Option.map_eq_some_iff.mp passes
    exact (SupervisorService.pass_cases taken).1
  · obtain ⟨_, taken, _⟩ := Option.map_eq_some_iff.mp passes
    exact (SupervisorService.pass_cases taken).1
  · cases passes

theorem passes_of_pass (oneShot : call.arguments.IsOneShot)
    (known : supervision.store.ProjectsKnown)
    (taken : call.pass supervision = some next) :
    call.Passes supervision next := by
  obtain ⟨_, otherTaken, described⟩ := call.pass_spec oneShot (exitReason_of_pass taken) known
  rw [taken] at otherTaken
  cases otherTaken
  exact described

theorem Sound.pass (oneShot : call.arguments.IsOneShot) (sound : call.Sound store supervision)
    (taken : call.pass supervision = some next) :
    call.Sound store next := by
  obtain ⟨passes, reached⟩ := sound.reached
  have later : call.supervise store (passes + 1) = next := by
    refine iterate_succ_of_some ?_
    have here : iterate call.pass passes
        { store, run := { clock := 0 } } = supervision := reached
    rw [here]
    exact taken
  cases passes_of_pass oneShot sound.known taken with
  | ran _ new processed attempted goesOn _ known queued =>
    refine ⟨known, ?_, ?_, ⟨passes + 1, later⟩, ?_, .inl goesOn⟩
    · rw [processed, nodup_append]
      refine ⟨sound.processedOnce, nodup_singleton _, ?_⟩
      intro earlier member last isLast
      rw [mem_singleton.mp isLast]
      rintro rfl
      rw [sound.attempted, mem_reverse] at new
      exact new member
    · rw [attempted, processed, sound.attempted, reverse_append]
      rfl
    · intro quiet
      exact (queued (quiet _)).trans (sound.queued quiet)
  | found places processed attempted pending outcome =>
    have fewer : next.store.pendingItems ≤ supervision.store.pendingItems :=
      pending ▸ Nat.sub_le _ _
    refine ⟨places.projectsKnown sound.known, ?_, ?_, ⟨passes + 1, later⟩,
      fun quiet => fewer.trans (sound.queued quiet), ?_⟩
    · rw [processed]
      exact sound.processedOnce
    · rw [attempted, processed]
      exact sound.attempted
    · rcases outcome with ⟨goesOn, _⟩ | drained
      · exact .inl goesOn
      · refine .inr ⟨passes, ?_, later, ?_, ?_⟩
        · rw [reached]
          exact exitReason_of_pass taken
        · rw [reached]
          exact drained
        · rw [reached]
          exact sound.queued

theorem length_remainingTasks_of_ids {before after : Store}
    (ids : after.tasks.rows.map Task.id = before.tasks.rows.map Task.id)
    (attempted : List String) :
    (remainingTasks after attempted).length = (remainingTasks before attempted).length := by
  have counted : ∀ store : Store, (remainingTasks store attempted).length =
      (store.tasks.rows.map Task.id).countP fun taskId =>
        !attempted.contains taskId := by
    intro store
    rw [countP_map, countP_eq_length_filter]
    rfl
  rw [counted, counted, ids]

theorem Sound.measure_lt (oneShot : call.arguments.IsOneShot) (sound : call.Sound store supervision)
    (taken : call.pass supervision = some next) :
    measure next < measure supervision := by
  have goesOn := exitReason_of_pass taken
  unfold measure
  rw [goesOn]
  cases passes_of_pass oneShot sound.known taken with
  | ran stored new _ attempted nextGoesOn ids _ _ =>
    rw [nextGoesOn, attempted, length_remainingTasks_of_ids ids]
    have fewer := remainingTasks_cons_lt stored new
    exact Prod.Lex.toLex_lt_toLex.mpr (.inr ⟨rfl, Prod.Lex.toLex_lt_toLex.mpr (.inl fewer)⟩)
  | found places _ attempted pending outcome =>
    rw [attempted, length_remainingTasks_of_ids places.ids, pending]
    rcases outcome with ⟨nextGoesOn, fewer⟩ | drained
    · rw [nextGoesOn]
      refine Prod.Lex.toLex_lt_toLex.mpr (.inr ⟨rfl,
        Prod.Lex.toLex_lt_toLex.mpr (.inr ⟨rfl, ?_⟩)⟩)
      by_cases nothing :
          min supervision.store.pendingItems call.decisionsTaken = 0
      · refine Prod.Lex.toLex_lt_toLex.mpr (.inr ⟨?_, fewer nothing⟩)
        omega
      · refine Prod.Lex.toLex_lt_toLex.mpr (.inl ?_)
        omega
    · rw [drained.idle]
      exact Prod.Lex.toLex_lt_toLex.mpr (.inl Nat.zero_lt_one)

/-- A one-shot run ends idle and has run each task at most once. Then every
active task has an unexpired lease, every pending task in scope that it has
not run is blocked or at the cap of its project, and the decision queue is
shorter by what the last pass could take. -/
theorem supervision_drains (oneShot : call.arguments.IsOneShot)
    (store : Store) (known : store.ProjectsKnown) :
    ∃ passes last final, call.supervise store passes = last ∧
        call.supervise store (passes + 1) = final ∧
        last.run.exitReason = none ∧
        final.run.loop.processedTaskIds.Nodup ∧
        final.run.loop.attemptedTaskIds = final.run.loop.processedTaskIds.reverse ∧
        call.Drained last final ∧
        (call.decidesQueued = true → call.QueuesNothing →
          store.pendingItems ≤ SupervisorService.decisionsPerCycle →
            final.store.pendingItems = 0) := by
  obtain ⟨passes, stopped, sound⟩ := exists_stopped_of_wellFounded
    (InvImage.wf measure wellFounded_lt) (call.Sound store)
    (fun _ _ sound taken => sound.pass oneShot taken)
    (fun _ _ sound taken => sound.measure_lt oneShot taken)
    (sound_initial known)
  generalize iterate call.pass passes (call.supervise store 0) = final
    at stopped sound
  rcases sound.ended with goesOn | ⟨before, lastGoesOn, ended, drained, queued⟩
  · obtain ⟨_, taken, _⟩ := call.pass_spec oneShot goesOn sound.known
    rw [stopped] at taken
    cases taken
  · refine ⟨before, _, final, rfl, ended, lastGoesOn, sound.processedOnce,
      sound.attempted, drained, ?_⟩
    intro decides quiet few
    have taken : call.decisionsTaken = SupervisorService.decisionsPerCycle := if_pos decides
    have left := queued quiet
    rw [drained.pending, taken]
    omega

def freshRunId (store : Store) : String :=
  String.ofList (List.replicate ((store.runs.rows.map fun run => run.id.length).sum + 1) 'r')

theorem freshRunId_fresh (store : Store) : ∀ run ∈ store.runs.rows, run.id ≠ freshRunId store := by
  intro run member same
  have bound : run.id.length ≤ (store.runs.rows.map fun run => run.id.length).sum :=
    le_sum_of_mem (mem_map_of_mem member)
  have length := congrArg String.length same
  simp [freshRunId] at length
  omega

def quietSurroundings : PassSurroundings where
  answers store :=
    { runId := freshRunId store, workResult := .ok { summary := "", artifacts := [] } }
  worked _ := ⟨_, rfl⟩
  fresh := freshRunId_fresh
  createsNoTask _ := rfl
  keepsProjects _ known := known

def quietCall : SupervisorCall where
  arguments :=
    { maxIdleCycles_positive := by simp
      maxIterations_positive := SupervisorArguments.default_maxIterations
      idleSleepSeconds_nonneg := SupervisorArguments.default_idleSleepSeconds
      heartbeatIntervalSeconds_positive := by simp
      threshold_positive := SupervisorArguments.default_threshold }
  surroundings _ := quietSurroundings

theorem isOneShot_quietCall : quietCall.arguments.IsOneShot := ⟨rfl, rfl, rfl, rfl, rfl, rfl⟩

def plainTaskStore : Store where
  projects := .single { id := "project" }
  tasks := .single plainTask

theorem projectsKnown_plainTaskStore : plainTaskStore.ProjectsKnown := by
  unfold Store.ProjectsKnown
  decide

theorem supervision_drains_plain_task :
    ∃ passes, (quietCall.supervise plainTaskStore passes).run.exitReason = some .idle ∧
        (quietCall.supervise plainTaskStore passes).store.pendingItems = 0 := by
  obtain ⟨passes, _, _, _, rfl, _, _, _, drained, emptied⟩ :=
    supervision_drains isOneShot_quietCall plainTaskStore projectsKnown_plainTaskStore
  exact ⟨passes + 1, drained.idle, emptied rfl (fun _ _ => le_rfl) (by decide)⟩

def crowdedQueue : List DecisionQueueItem :=
  (List.range 51).map fun index =>
    { id := toString index, runId := "run", taskId := "task", evaluationId := "evaluation" }

def crowdedStore : Store where
  decisionQueue := ⟨crowdedQueue, by decide +kernel⟩

theorem decision_left_behind :
    quietCall.arguments.IsOneShot ∧ crowdedStore.ProjectsKnown ∧
      (quietCall.supervise crowdedStore 1).run.exitReason = some .idle ∧
        (quietCall.supervise crowdedStore 1).store.pendingItems = 1 := by
  refine ⟨isOneShot_quietCall, ?_, ?_, ?_⟩
  · intro task member
    cases member
  · decide +kernel
  · decide +kernel

end SupervisorCall

end AccruviaHarness
