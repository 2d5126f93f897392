import AccruviaHarness.Store.TaskStatus

/-!
# The status that tasks give their objective

`update_objective_phase` derives the status of an objective from the tasks that
are linked to it.
-/

namespace AccruviaHarness

open Library List

/-- `str(value or "").strip()` of an optional text. -/
def strippedText (text : Option String) : String := pyStrip (text.getD "")

namespace Task

variable (task : Task)

def metadataObject (key : String) : Option PyDict := (task.externalRefMetadata.get key).asDict

/-- The `kind` of a disposition in the metadata. -/
def dispositionKind (key : String) : String :=
  match task.metadataObject key with
  | some disposition => pyStrip (disposition.getStr "kind")
  | none => ""

def reviewDimension : String :=
  match task.metadataObject "objective_review_remediation" with
  | some remediation => pyStrip (remediation.getStr "dimension")
  | none => ""

def externalRef : String × String :=
  (strippedText task.externalRefType, strippedText task.externalRefId)

def isIgnoredObsolete : Bool :=
  task.dispositionKind "workflow_state_disposition" = "ignore_obsolete"

/-- `_task_ignored_for_objective_phase`. -/
def isIgnoredForObjectivePhase : Bool :=
  task.isIgnoredObsolete || (task.status = .failed &&
      task.dispositionKind "failed_task_disposition" = "waive_obsolete")

/-- `_task_superseded_by_completed_peer`. -/
def isSupersededByCompletedPeer (completedExternalRefs : List (String × String))
    (completedReviewDimensions : List String) : Bool :=
  let (normalizedType, normalizedId) := task.externalRef
  let dimension := task.reviewDimension
  if task.status ≠ .failed then false
  else if normalizedType = "" then false
  else
    normalizedType = "objective_review" && ((normalizedId ≠ "" &&
          completedExternalRefs.contains (normalizedType, normalizedId)) ||
        (dimension ≠ "" && completedReviewDimensions.contains dimension))

end Task

variable (tasks : List Task)

def completedExternalRefs : List (String × String) :=
  (tasks.filter fun task =>
    task.status = .completed && task.externalRef.1 ≠ "" &&
      task.externalRef.2 ≠ "").map Task.externalRef

def completedReviewDimensions : List String :=
  (tasks.filter fun task =>
    task.status = .completed && task.reviewDimension ≠ "").map Task.reviewDimension

def effectiveTasks : List Task :=
  tasks.filter fun task =>
    !(task.isIgnoredForObjectivePhase ||
      task.isSupersededByCompletedPeer (completedExternalRefs tasks)
        (completedReviewDimensions tasks))

def effectiveStatuses : List TaskStatus := (effectiveTasks tasks).map Task.status

/-- The status that `update_objective_phase` derives. -/
def derivedPhase : Option ObjectiveStatus :=
  if tasks.isEmpty then none
  else
    let statuses := effectiveStatuses tasks
    if statuses.isEmpty then
      let ignoredStatuses := tasks.map Task.status
      if ignoredStatuses.contains .active then some .executing
      else if ignoredStatuses.contains .pending then some .planning
      else some .resolved
    else if statuses.contains .active then some .executing
    else if statuses.all fun status => status = .completed then some .resolved
    else if statuses.contains .pending then some .planning
    else some .paused

namespace Store

variable (store : Store) (objectiveId : String)

def linkedRows : List Task :=
  store.tasks.rows.filter fun task => task.objectiveId = some objectiveId

def updateObjectiveStatus (status : ObjectiveStatus) : Store :=
  { store with
    objectives := store.objectives.updateAt objectiveId
      ⟨fun row => { row with status }, fun _ => rfl⟩ }

def updateObjectivePhase : Store × Option ObjectiveStatus :=
  match derivedPhase (store.linkedRows objectiveId) with
  | none => (store, none)
  | some phase => (store.updateObjectiveStatus objectiveId phase, some phase)

def objectiveStatus : Option ObjectiveStatus :=
  (store.objectives.lookup objectiveId).map Objective.status

end Store

/-! ## The tasks that decide -/

def decidingTasks (tasks : List Task) : List Task :=
  if effectiveTasks tasks = [] then tasks else effectiveTasks tasks

def DecidesWith (tasks : List Task) (status : TaskStatus) : Prop :=
  ∃ task ∈ decidingTasks tasks, task.status = status

instance (tasks : List Task) (status : TaskStatus) : Decidable (DecidesWith tasks status) :=
  inferInstanceAs (Decidable (∃ task ∈ _, _))

section

variable {tasks : List Task} {task : Task}

theorem decidingTasks_subset (member : task ∈ decidingTasks tasks) : task ∈ tasks := by
  unfold decidingTasks at member
  split at member
  · exact member
  · exact (mem_filter.mp member).1

variable (others : List Task)

theorem contains_status_iff (status : TaskStatus) :
    (others.map Task.status).contains status = true ↔ ∃ task ∈ others, task.status = status := by
  rw [contains_iff_mem]
  exact mem_map

theorem all_completed_iff :
    ((others.map Task.status).all fun status => status = .completed) = true ↔
      ∀ task ∈ others, task.status = .completed := by
  simp [all_eq_true]

theorem derivedPhase_of_nonempty (nonempty : tasks ≠ []) :
    derivedPhase tasks = some
      (if DecidesWith tasks .active then .executing
      else if DecidesWith tasks .pending then .planning
      else if ∀ task ∈ effectiveTasks tasks, task.status = .completed then .resolved
      else .paused) := by
  have some_task : ¬ tasks.isEmpty = true := by simpa [List.isEmpty_iff] using nonempty
  unfold derivedPhase effectiveStatuses
  rw [if_neg some_task]
  unfold DecidesWith decidingTasks
  by_cases none_counts : effectiveTasks tasks = []
  · simp only [none_counts, map_nil, isEmpty_nil, if_true,
      contains_status_iff, not_mem_nil, false_implies, implies_true]
    split_ifs <;> rfl
  · have counted : ¬ ((effectiveTasks tasks).map Task.status).isEmpty =
        true := by
      simpa [List.isEmpty_iff] using none_counts
    rw [if_neg counted]
    simp only [if_neg none_counts, contains_status_iff, all_completed_iff]
    by_cases active : ∃ task ∈ effectiveTasks tasks, task.status = .active
    · rw [if_pos active, if_pos active]
    · rw [if_neg active, if_neg active]
      by_cases pending : ∃ task ∈ effectiveTasks tasks, task.status = .pending
      · have unfinished : ¬ ∀ task ∈ effectiveTasks tasks,
            task.status = .completed := by
          obtain ⟨task, member, isPending⟩ := pending
          intro finished
          cases isPending.symm.trans (finished task member)
        rw [if_neg unfinished, if_pos pending, if_pos pending]
      · rw [if_neg pending, if_neg pending]
        split_ifs <;> rfl

theorem derivedPhase_eq_none_iff : derivedPhase tasks = none ↔ tasks = [] := by
  constructor
  · intro underived
    by_contra nonempty
    rw [derivedPhase_of_nonempty nonempty] at underived
    cases underived
  · rintro rfl
    rfl

theorem not_decidesWith_nil (status : TaskStatus) : ¬ DecidesWith [] status := by
  rintro ⟨_, member, _⟩
  exact absurd member not_mem_nil

theorem derivedPhase_eq_executing_iff :
    derivedPhase tasks = some .executing ↔ DecidesWith tasks .active := by
  by_cases empty : tasks = []
  · subst empty
    simp [derivedPhase, not_decidesWith_nil]
  · rw [derivedPhase_of_nonempty empty]
    split_ifs <;> simp_all

theorem derivedPhase_eq_planning_iff :
    derivedPhase tasks = some .planning ↔
      ¬ DecidesWith tasks .active ∧ DecidesWith tasks .pending := by
  by_cases empty : tasks = []
  · subst empty
    simp [derivedPhase, not_decidesWith_nil]
  · rw [derivedPhase_of_nonempty empty]
    split_ifs <;> simp_all

theorem derivedPhase_eq_resolved_iff :
    derivedPhase tasks = some .resolved ↔ tasks ≠ [] ∧ ¬ DecidesWith tasks .active ∧
        ¬ DecidesWith tasks .pending ∧ ∀ task ∈ effectiveTasks tasks, task.status = .completed := by
  by_cases empty : tasks = []
  · subst empty
    simp [derivedPhase]
  · rw [derivedPhase_of_nonempty empty]
    split_ifs <;> simp_all

theorem derivedPhase_congr {first second : List Task} (firstNonempty : first ≠ [])
    (secondNonempty : second ≠ [])
    (decides : ∀ status, DecidesWith first status ↔ DecidesWith second status)
    (finished : (∀ task ∈ effectiveTasks first, task.status = .completed) ↔
      ∀ task ∈ effectiveTasks second, task.status = .completed) :
    derivedPhase first = derivedPhase second := by
  rw [derivedPhase_of_nonempty firstNonempty, derivedPhase_of_nonempty secondNonempty]
  simp only [decides, finished]

/-! ## The order of the rows -/

theorem mem_completedExternalRefs {reference : String × String} :
    reference ∈ completedExternalRefs tasks ↔
      ∃ task ∈ tasks, (task.status = .completed ∧ task.externalRef.1 ≠ "" ∧
        task.externalRef.2 ≠ "") ∧ task.externalRef = reference := by
  simp [completedExternalRefs, and_assoc]

theorem mem_completedReviewDimensions {dimension : String} :
    dimension ∈ completedReviewDimensions tasks ↔ ∃ task ∈ tasks, (task.status = .completed ∧
        task.reviewDimension ≠ "") ∧ task.reviewDimension = dimension := by
  simp [completedReviewDimensions, and_assoc]

theorem isSuperseded_congr (task : Task) {refs otherRefs : List (String × String)}
    {dimensions otherDimensions : List String}
    (sameRefs : ∀ reference, reference ∈ refs ↔ reference ∈ otherRefs)
    (sameDimensions : ∀ dimension, dimension ∈ dimensions ↔ dimension ∈ otherDimensions) :
    task.isSupersededByCompletedPeer refs dimensions =
      task.isSupersededByCompletedPeer otherRefs otherDimensions := by
  have contains : ∀ reference, refs.contains reference = otherRefs.contains reference := by
    intro reference
    rw [Bool.eq_iff_iff, contains_iff_mem, contains_iff_mem]
    exact sameRefs reference
  have containsDimension : ∀ dimension,
      dimensions.contains dimension = otherDimensions.contains dimension := by
    intro dimension
    rw [Bool.eq_iff_iff, contains_iff_mem, contains_iff_mem]
    exact sameDimensions dimension
  unfold Task.isSupersededByCompletedPeer
  simp only [contains, containsDimension]

variable {others : List Task}

theorem mem_effectiveTasks_congr (same : ∀ task, task ∈ tasks ↔ task ∈ others) (task : Task) :
    task ∈ effectiveTasks tasks ↔ task ∈ effectiveTasks others := by
  have refs : ∀ reference, reference ∈ completedExternalRefs tasks ↔
      reference ∈ completedExternalRefs others := by
    intro reference
    simp only [mem_completedExternalRefs, same]
  have dimensions : ∀ dimension, dimension ∈ completedReviewDimensions tasks ↔
        dimension ∈ completedReviewDimensions others := by
    intro dimension
    simp only [mem_completedReviewDimensions, same]
  unfold effectiveTasks
  rw [mem_filter, mem_filter, same, isSuperseded_congr task refs dimensions]

theorem nil_iff_congr (same : ∀ task, task ∈ tasks ↔ task ∈ others) :
    tasks = [] ↔ others = [] := by
  simp only [eq_nil_iff_forall_not_mem, same]

/-! ## Changes of the tasks -/

def Task.counts (task : Task) (refs : List (String × String)) (dimensions : List String) : Bool :=
  !(task.isIgnoredForObjectivePhase || task.isSupersededByCompletedPeer refs dimensions)

theorem mem_effectiveTasks_iff :
    task ∈ effectiveTasks tasks ↔ task ∈ tasks ∧ task.counts (completedExternalRefs tasks)
        (completedReviewDimensions tasks) = true :=
  mem_filter

theorem counts_of_not_failed (unfailed : task.status ≠ .failed)
    (refs : List (String × String)) (dimensions : List String) :
    task.counts refs dimensions = !task.isIgnoredObsolete := by
  simp [Task.counts, Task.isIgnoredForObjectivePhase, Task.isSupersededByCompletedPeer, unfailed]

theorem counts_of_ignored (ignored : task.isIgnoredObsolete = true)
    (refs : List (String × String)) (dimensions : List String) :
    task.counts refs dimensions = false := by
  simp [Task.counts, Task.isIgnoredForObjectivePhase, ignored]

theorem filter_map_of_completed {Entry : Type} (entry : Task → Entry) (given : Task → Bool)
    {change : Task → Task}
    (completed : ∀ task ∈ tasks, ((change task).status = .completed ↔
      task.status = .completed) ∧ (task.status = .completed →
        change task = task)) :
    ((tasks.map change).filter fun task =>
        task.status = .completed && given task).map entry =
      (tasks.filter fun task =>
        task.status = .completed && given task).map entry := by
  induction tasks with
  | nil => rfl
  | cons task _ ih =>
    obtain ⟨same, fixed⟩ := completed task mem_cons_self
    have later := ih fun other member => completed other (mem_cons_of_mem _ member)
    by_cases done : task.status = .completed
    · rw [map_cons, fixed done, filter_cons, filter_cons]
      by_cases kept : (decide (task.status = .completed) && given task) = true
      · rw [if_pos kept, if_pos kept, map_cons, map_cons, later]
      · rw [if_neg kept, if_neg kept, later]
    · have undone : (change task).status ≠ .completed := fun changed => done (same.mp changed)
      rw [map_cons, filter_cons_of_neg (by simp [undone]),
        filter_cons_of_neg (by simp [done]), later]

theorem completed_map {change : Task → Task}
    (completed : ∀ task ∈ tasks, ((change task).status = .completed ↔
      task.status = .completed) ∧ (task.status = .completed →
        change task = task)) :
    completedExternalRefs (tasks.map change) = completedExternalRefs tasks ∧
      completedReviewDimensions (tasks.map change) = completedReviewDimensions tasks := by
  constructor
  · have refs := filter_map_of_completed Task.externalRef
      (fun task => task.externalRef.1 ≠ "" && task.externalRef.2 ≠ "")
      completed
    simpa only [completedExternalRefs, Bool.and_assoc] using refs
  · exact filter_map_of_completed Task.reviewDimension
      (fun task => task.reviewDimension ≠ "") completed

theorem completed_append {added : List Task}
    (uncompleted : ∀ task ∈ added, task.status ≠ .completed) :
    completedExternalRefs (tasks ++ added) = completedExternalRefs tasks ∧
      completedReviewDimensions (tasks ++ added) = completedReviewDimensions tasks := by
  have dropped : ∀ given : Task → Bool,
      (added.filter fun task => task.status = .completed && given task) = [] := by
    intro given
    rw [filter_eq_nil_iff]
    intro task member
    simp [uncompleted task member]
  simp only [completedExternalRefs, completedReviewDimensions,
    Bool.and_assoc, filter_append, dropped, append_nil, and_self]

end

end AccruviaHarness
