import AccruviaHarness.Services.QuietRun
import AccruviaHarness.Services.SupervisedQueue

/-!
# One pass over the store

What the steps of a supervisor pass do to the decision queue, to the tasks and
to the rows that a recovery may have to change.
-/

namespace AccruviaHarness

open Library

/-! ## The decision queue -/

theorem pendingItems_updateAt (store : Store) {item : DecisionQueueItem}
    (update : RowUpdate DecisionQueueItem.id)
    (stored : item ∈ store.decisionQueue.rows)
    (closes : (update.apply item).status ≠ .pending) :
    ({ store with
        decisionQueue := store.decisionQueue.updateAt item.id update } :
          Store).pendingItems +
        (if item.status = .pending then 1 else 0) =
      store.pendingItems := by
  obtain ⟨_, _, split, others⟩ :=
    KeyedTable.exists_split_of_lookup (store.decisionQueue.lookup_of_mem stored)
  have updated := KeyedTable.rows_updateAt update rfl split others
  unfold Store.pendingItems
  rw [updated, split, List.countP_append, List.countP_append,
    List.countP_cons, List.countP_cons, if_neg (by simpa using closes)]
  simp only [decide_eq_true_eq]
  omega

namespace DecisionService

theorem samePlaces_updateTaskStatus
    {state updated : DecisionStore} {taskId : String} {status : TaskStatus}
    {now : Int} (written : state.updateTaskStatus taskId status now = .ok updated) :
    SamePlaces state.store updated.store ∧
      updated.store.decisionQueue = state.store.decisionQueue := by
  unfold DecisionStore.updateTaskStatus at written
  cases outcome : state.store.updateTaskStatus taskId status with
  | error _ =>
    rw [outcome] at written
    cases written
  | ok _ =>
    rw [outcome] at written
    cases written
    rw [(Store.updateTaskStatus_eq_ok_iff.mp outcome).2]
    exact ⟨SamePlaces.writeTaskStatus _ _ _, rfl⟩

variable (state : DecisionStore)

theorem decideItem_frame (item : DecisionQueueItem) (answers : DecisionAnswers) :
    SamePlaces state.store (decideItem state item answers).1.store ∧
      (decideItem state item answers).1.store.decisionQueue = state.store.decisionQueue ∧
      (decideItem state item answers).2 ≠ .pending := by
  have same : SamePlaces state.store state.store := SamePlaces.refl _
  have failed : DecisionItemStatus.failed ≠ .pending := by decide
  have completed : DecisionItemStatus.completed ≠ .pending := by decide
  unfold decideItem
  cases state.store.getRun item.runId with
  | none => exact ⟨same, rfl, failed⟩
  | some run =>
    cases state.store.getTask item.taskId with
    | none => exact ⟨same, rfl, failed⟩
    | some task =>
      cases (state.store.listEvaluations item.runId).find? fun evaluation =>
          evaluation.id = item.evaluationId with
      | none => exact ⟨same, rfl, failed⟩
      | some _ =>
        dsimp only
        generalize decided : DecisionStore.markRun _ run _ _ = marked
        have kept : SamePlaces state.store marked.store ∧
            marked.store.decisionQueue = state.store.decisionQueue := by
          rw [← decided]
          exact ⟨SamePlaces.of_tasks rfl rfl, rfl⟩
        cases marked.store.getTask task.id with
        | none => exact ⟨kept.1, kept.2, completed⟩
        | some _ =>
          dsimp only
          split
          · exact ⟨kept.1, kept.2, completed⟩
          · split
            · exact ⟨kept.1, kept.2, failed⟩
            · rename_i updated written
              obtain ⟨places, queue⟩ := samePlaces_updateTaskStatus written
              exact ⟨kept.1.trans places, queue.trans kept.2, completed⟩

theorem processOne_spec (answers : DecisionAnswers) :
    SamePlaces state.store (processOne state answers).1.store ∧
      (processOne state answers).1.store.pendingItems + (processOne state answers).2.toNat =
        state.store.pendingItems ∧
      ((processOne state answers).2 = false →
        state.store.pendingItems = 0) := by
  unfold processOne
  cases selected : state.store.selectPendingDecision with
  | none =>
    refine ⟨SamePlaces.refl _, rfl, fun _ => List.countP_eq_zero.mpr ?_⟩
    intro item member
    simpa using Store.selectPendingDecision_eq_none_iff.mp selected item member
  | some item =>
    obtain ⟨⟨stored, pending⟩, _⟩ := Store.selectPendingDecision_first selected
    have processing : DecisionItemStatus.processing ≠ .pending := by decide
    have taken := pendingItems_updateAt state.store
      ⟨fun item =>
          { item with status := .processing, startedAt := some answers.now },
        fun _ => rfl⟩ stored processing
    rw [if_pos pending] at taken
    have dequeued : { item with
        status := .processing
        startedAt := some answers.now } ∈
          (state.store.markDecisionProcessing item.id answers.now).decisionQueue.rows :=
      KeyedTable.mem_updateAt.mpr ⟨item, stored, if_pos rfl⟩
    obtain ⟨places, queue, closed⟩ := decideItem_frame
      { state with
        store := state.store.markDecisionProcessing item.id answers.now }
      item answers
    dsimp only
    generalize decideItem _ item answers = outcome at places queue closed ⊢
    obtain ⟨decided, status⟩ := outcome
    rw [← queue] at dequeued
    have completed := pendingItems_updateAt decided.store
      ⟨fun item =>
          { item with status, completedAt := some answers.now },
        fun _ => rfl⟩ dequeued closed
    rw [if_neg processing] at completed
    have same : decided.store.pendingItems = (state.store.markDecisionProcessing item.id
          answers.now).pendingItems := by
      unfold Store.pendingItems
      rw [queue]
    have opens : SamePlaces state.store (state.store.markDecisionProcessing item.id answers.now) :=
      SamePlaces.of_tasks rfl rfl
    have closes : SamePlaces decided.store
        (decided.store.completeDecision item.id status answers.now) :=
      SamePlaces.of_tasks rfl rfl
    refine ⟨opens.trans (places.trans closes), ?_, ?_⟩
    · exact (congrArg (· + 1) (completed.trans same)).trans taken
    · intro impossible
      cases impossible

end DecisionService

namespace SupervisorService

theorem drainDecisions_spec (decides : Nat → DecisionAnswers) (bound : Nat) (store : Store) :
    SamePlaces store (drainDecisions decides bound store).1 ∧
      (drainDecisions decides bound store).1.pendingItems = store.pendingItems - bound ∧
      (store.pendingItems = 0 → (drainDecisions decides bound store).1 = store) := by
  induction bound generalizing store with
  | zero => exact ⟨SamePlaces.refl _, rfl, fun _ => rfl⟩
  | succ bound ih =>
    obtain ⟨places, taken, empty⟩ := DecisionService.processOne_spec { store } (decides bound)
    unfold drainDecisions
    generalize DecisionService.processOne { store } (decides bound) = outcome
      at places taken empty ⊢
    obtain ⟨state, processed⟩ := outcome
    cases processed with
    | false =>
      have none : store.pendingItems = 0 := empty rfl
      refine ⟨SamePlaces.refl _, ?_, fun _ => rfl⟩
      rw [none, Nat.zero_sub]
    | true =>
      obtain ⟨laterPlaces, _, _⟩ := ih state.store
      have oneLess : state.store.pendingItems + 1 = store.pendingItems := taken
      refine ⟨places.trans laterPlaces, ?_, ?_⟩
      · dsimp only
        omega
      · intro none
        omega

end SupervisorService

/-! ## The dispatch -/

theorem besidesRuns_runOnce (store : Store) (taskId : String) (answers : RunAnswers) :
    (RunService.runOnce store taskId answers).1.besidesRuns =
      store.besidesRuns := by
  have kept := RunService.keeps_runOnce RunService.noFailures taskId answers store
  rw [RunService.runOnce_noFailures] at kept
  generalize RunService.runOnce store taskId answers = outcome at kept ⊢
  obtain ⟨_, _ | _⟩ := outcome
  · exact kept
  · exact kept

namespace QueueService

theorem processNextTask_runs_or_blocks {store : Store} {request : DispatchRequest}
    (ungated : request.llmAvailable = true)
    (known : store.ProjectsKnown)
    (worked : ∃ work, request.answers.workResult = .ok work)
    (fresh : ∀ run ∈ store.runs.rows, run.id ≠ request.answers.runId) :
    (∃ task run next, Available store request task ∧ (∃ current, processNextTask store request =
          (next, .processed (some current) run) ∧ current.id = task.id) ∧
        SamePlaces store next ∧ next.pendingItems = store.pendingItems) ∨
      ((∀ task, Available store request task → dispatchBlock store request.now task ≠ none) ∧
        processNextTask store request = (store.deleteExpiredLeases request.now, .idle)) := by
  rcases processNextTask_finds store request ungated with
    ⟨task, taskLeases, first, _, runs⟩ | ⟨none, idle⟩
  · obtain ⟨available, unblocked, _⟩ := firstRunnable_first first
    obtain ⟨_, worked⟩ := worked
    have found : Store.getTask
        { store.deleteExpiredLeases request.now with taskLeases } task.id =
          some task :=
      store.tasks.lookup_of_mem available.stored
    have unfinished : ¬ (task.status = .completed ∨ task.status = .failed) := by
      rw [available.pending]
      decide
    have open? := objectiveGateBlock_of_dispatchBlock unblocked
    rcases RunService.runOnce_cases found unfinished open? worked with
      ⟨_, _, _, _, _, refused⟩ | ⟨next, run, ran, _, leaves, _⟩
    · rcases refused with noProject | ⟨other, member, same⟩
      · exact absurd noProject (known task available.stored)
      · exact absurd same (fresh other member)
    · left
      have places : SamePlaces store next :=
        (SamePlaces.writeTaskStatus store task.id _).trans
          (SamePlaces.of_tasks leaves.tasks leaves.projects)
      have queue := besidesRuns_runOnce
        { store.deleteExpiredLeases request.now with taskLeases } task.id
        request.answers
      rw [ran] at queue
      have stays : task.id ∈ next.tasks.rows.map Task.id := by
        rw [places.ids]
        exact List.mem_map_of_mem available.stored
      obtain ⟨current, member, own⟩ := List.mem_map.mp stays
      have stillFound : next.getTask task.id = some current := own ▸ next.tasks.lookup_of_mem member
      refine ⟨task, run, next.releaseTaskLease task.id
        (some request.workerId), available, ⟨current, ?_, own⟩,
        places.trans (SamePlaces.of_tasks rfl rfl), ?_⟩
      · rw [runs]
        unfold runLeased
        rw [ran]
        dsimp only
        rw [stillFound]
      · have same := congrArg Prod.snd queue
        unfold Store.pendingItems
        exact congrArg (fun table => table.rows.countP fun item =>
          decide (item.status = .pending)) same
  · exact .inr ⟨blocked_of_firstRunnable none, idle⟩

end QueueService

end AccruviaHarness
