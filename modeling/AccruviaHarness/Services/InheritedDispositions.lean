import AccruviaHarness.Services.Dispositions
import AccruviaHarness.Services.FollowOns

/-!
# What a new task inherits

A follow-on starts from a copy of the metadata of its parent, and each way of
creating one writes some keys over.
-/

namespace AccruviaHarness

/-!
## Reviews that conflict with their base

The review watcher asks the provider about every open review. For a review that
has come into conflict it creates the task that is to rebase the change.
-/

structure ConflictingReview where
  parentTaskId : String
  sourceRunId : String
  branchName : String
  reviewUrl : Option String := none
  deriving DecidableEq, Repr

namespace ReviewWatcherService

variable (review : ConflictingReview)

def reviewContext : String :=
  match review.reviewUrl with
  | some url => if url = "" then "" else " Review URL: " ++ url ++ "."
  | none => ""

def conflictArguments : FollowOnArguments where
  parentTaskId := review.parentTaskId
  sourceRunId := review.sourceRunId
  title := "Rebase approved change onto current main"
  objective :=
    "Resolve the promotion merge conflict by replaying the approved change " ++
      "on top of the current base branch, updating branch " ++
      review.branchName ++ ", and preserving the existing review context." ++
      reviewContext review

def promotionRemediation : PyDict :=
  [("branch_name", .str review.branchName),
    ("review_url", PromotionMixin.optionalText review.reviewUrl),
    ("source_run_id", .str review.sourceRunId)]

/-- `merged_metadata`: the metadata of the parent with the review. -/
def mergedMetadata (store : Store) (review : ConflictingReview) : PyDict :=
  PyDict.set (((store.getTask review.parentTaskId).map Task.externalRefMetadata).getD [])
    "promotion_remediation" (.dict (promotionRemediation review))

def createConflictFollowOn (identities : TaskIdentities) (store : Store)
    (review : ConflictingReview) : Except PyError (Store × Option String) := do
  let (created, followOn) ← TaskService.createFollowOn identities store (conflictArguments review)
  return (created.updateTaskExternalMetadata followOn.id
    (mergedMetadata created review), some followOn.id)

/-- `_ensure_conflict_follow_on`. The watcher may be without a task service. -/
def ensureConflictFollowOn (hasTaskService : Bool) (identities : TaskIdentities) (store : Store)
    (review : ConflictingReview) : Except PyError (Store × Option String) :=
  if !hasTaskService then .ok (store, none)
  else
    match store.findFollowOnTask review.parentTaskId review.sourceRunId with
    | some existing => .ok (store, some existing.id)
    | none => createConflictFollowOn identities store review

end ReviewWatcherService

/-! ## What a new task inherits -/

open Library Library.KeyedTable

inductive CreationPath where
  | createFollowOnTask (identities : TaskIdentities) (arguments : FollowOnArguments)
  | createTasksFromReviewFindings (call : RemediationCall)
  | allowManualOperatorImplementation (identities : TaskIdentities) (request : DispositionRequest)
  | ensureConflictFollowOn (hasTaskService : Bool)
      (identities : TaskIdentities) (review : ConflictingReview)

def writtenStore {Result : Type} (store : Store) :
    Except PyError (Store × Result) → Store
  | .ok (written, _) => written
  | .error _ => store

def manualDisposition (request : DispositionRequest) : DispositionRequest :=
  { request with disposition := .allowManualOperatorImplementation }

namespace CreationPath

def parentTaskId : CreationPath → String
  | .createFollowOnTask _ arguments => arguments.parentTaskId
  | .createTasksFromReviewFindings call => call.parentTaskId
  | .allowManualOperatorImplementation _ request => request.taskId
  | .ensureConflictFollowOn _ _ review => review.parentTaskId

def after (store : Store) : CreationPath → Store
  | .createFollowOnTask identities arguments =>
    writtenStore store (TaskService.createFollowOn identities store arguments)
  | .createTasksFromReviewFindings call => call.after store
  | .allowManualOperatorImplementation identities request =>
    writtenStore store (TaskService.applyFailedTaskDisposition identities store
        (manualDisposition request))
  | .ensureConflictFollowOn hasTaskService identities review =>
    writtenStore store
      (ReviewWatcherService.ensureConflictFollowOn hasTaskService identities store review)

variable (path : CreationPath)

def Creates (store : Store) (task : Task) : Prop :=
  task ∈ (path.after store).tasks.rows ∧ store.getTask task.id = none

def replacedKeys : CreationPath → List String
  | .createFollowOnTask _ arguments => arguments.externalRefMetadataOverrides.map Prod.fst
  | .createTasksFromReviewFindings _ =>
    ["failed_task_disposition", "retry_remediation", "promotion_remediation"]
  | .allowManualOperatorImplementation _ _ => ["failed_task_disposition", "operator_owned"]
  | .ensureConflictFollowOn _ _ _ => ["promotion_remediation"]

def givenOverrides : CreationPath → PyDict
  | .createFollowOnTask _ arguments => arguments.externalRefMetadataOverrides
  | _ => []

def Clean (parent : Task) : Prop :=
  Undisposed (parent.externalRefMetadata.without path.replacedKeys) ∧
    Undisposed (PyDict.ofItems path.givenOverrides)

def Overrides (overrides : PyDict) : Prop :=
  overrides.map Prod.fst = path.replacedKeys ∧
    (Undisposed (PyDict.ofItems overrides) ↔ Undisposed (PyDict.ofItems path.givenOverrides))

end CreationPath

def Inherits (overrides : PyDict) (parent task : Task) : Prop :=
  SameMarks (parent.externalRefMetadata.update overrides) task.externalRefMetadata

def InheritsAlong (path : CreationPath) (parent task : Task) : Prop :=
  ∃ overrides, path.Overrides overrides ∧ Inherits overrides parent task

theorem undisposed_iff_of_inheritsAlong {path : CreationPath} {parent task : Task}
    (inherits : InheritsAlong path parent task) :
    Undisposed task.externalRefMetadata ↔ path.Clean parent := by
  obtain ⟨_, ⟨keys, given⟩, inherits⟩ := inherits
  unfold CreationPath.Clean
  rw [← undisposed_congr inherits, undisposed_update_iff, keys, given]

theorem undisposed_ofItems_nil : Undisposed (PyDict.ofItems []) := ⟨by decide, by decide, rfl⟩

theorem kindOf_named (kind : String) (others : PyDict) :
    kindOf (some (.dict (("kind", .str kind) :: others))) = pyStrip kind := by
  have read : PyDict.getStr (("kind", .str kind) :: others) "kind" = kind := by
    by_cases empty : kind = ""
    · simp [PyDict.getStr, PyDict.get, PyValue.orEmpty, PyValue.truthy, empty]
    · simp [PyDict.getStr, PyDict.get, PyValue.orEmpty, PyValue.truthy, empty]
  exact congrArg pyStrip read

/-! ## Each way to create a task -/

namespace TaskService

variable {identities : TaskIdentities} {store written : Store}
  {parent task : Task}

theorem find_applyTaskAmendment (policy : TaskPolicy) (scope : PyDict) {key : String}
    (other : key ≠ "task_amendment") :
    (applyTaskAmendment policy scope).2.find key = policy.externalRefMetadata.find key := by
  unfold applyTaskAmendment
  split
  · rfl
  · dsimp only
    rw [PyDict.find_set]
    exact if_neg other

theorem inherits_of_createFollowOn {arguments : FollowOnArguments}
    (found : store.getTask arguments.parentTaskId = some parent)
    (returned : createFollowOn identities store arguments = .ok (written, task)) :
    written = store ∨
      written.tasks.rows = store.tasks.rows ++ [task] ∧
        Inherits arguments.externalRefMetadataOverrides parent task := by
  unfold createFollowOn at returned
  obtain ⟨_, made, created⟩ := exists_of_bind_ok returned
  obtain ⟨_, scope, known, rfl⟩ := followOnRow_spec made
  rw [found] at known
  cases known
  rcases createTask_spec created with
    ⟨_, unchanged⟩ | ⟨_, ⟨_, _, rfl, inserted⟩, _, _, rfl⟩
  · exact .inl unchanged
  · refine .inr ⟨KeyedTable.rows_of_insert? inserted, fun key marked => ?_⟩
    have other : key ≠ "task_amendment" := by
      rintro rfl
      exact absurd marked (by decide)
    exact (find_applyTaskAmendment (arguments.policy parent) (scope.getD []) other).symm

theorem overrides_findingMetadata {call : RemediationCall} {context : RemediationContext}
    {finding metadata : PyDict}
    (returned : findingMetadata context finding = .ok metadata) :
    (CreationPath.createTasksFromReviewFindings call).Overrides metadata := by
  unfold findingMetadata at returned
  obtain ⟨_, _, returned⟩ := exists_of_bind_ok returned
  obtain ⟨_, _, returned⟩ := exists_of_bind_ok returned
  cases returned
  refine ⟨rfl, iff_of_true ⟨?relevant, ?unwaived, ?unapplied⟩ undisposed_ofItems_nil⟩
  case relevant => exact (by decide : kindOf none ≠ "ignore_obsolete")
  case unwaived =>
    unfold PyDict.ofItems PyDict.update
    simp only [List.foldl_cons, List.foldl_nil]
    rw [PyDict.find_set, if_neg (by decide), PyDict.find_set,
      if_neg (by decide), PyDict.find_set, if_pos rfl, kindOf_named]
    decide
  case unapplied => rfl

theorem overrides_manualRequest (request : DispositionRequest) (task : Task) :
    (CreationPath.allowManualOperatorImplementation identities request).Overrides
        (manualRequest store (manualDisposition request) task).metadataOverrides := by
  refine ⟨rfl, iff_of_true ⟨?relevant, ?unwaived, ?unapplied⟩ undisposed_ofItems_nil⟩
  case relevant => exact (by decide : kindOf none ≠ "ignore_obsolete")
  case unwaived =>
    unfold PyDict.ofItems PyDict.update manualRequest
    simp only [List.foldl_cons, List.foldl_nil]
    rw [PyDict.find_set, if_neg (by decide), PyDict.find_set, if_pos rfl]
    unfold dispositionPayload
    rw [kindOf_named]
    show pyStrip "allow_manual_operator_implementation" ≠ _
    decide
  case unapplied => rfl

end TaskService

def GrowsInheriting (path : CreationPath) (parent : Task) (before after : Store) : Prop :=
  parent ∈ before.tasks.rows → GrowsBy (InheritsAlong path parent) before.tasks after.tasks

section

variable {path : CreationPath} {parent : Task}

instance : Std.Refl (GrowsInheriting path parent) where
  refl _ _ := .refl _

instance : IsTrans Store (GrowsInheriting path parent) where
  trans _ _ _ early late stored := (early stored).trans (late ((early stored).mem_of_mem stored))

open TaskService

variable {identities : TaskIdentities} {store written : Store} {task : Task}

theorem grows_of_createFollowOn
    {arguments : FollowOnArguments} (named : arguments.parentTaskId = parent.id)
    (overridden : path.Overrides arguments.externalRefMetadataOverrides)
    (returned : createFollowOn identities store arguments =
      .ok (written, task)) : GrowsInheriting path parent store written := by
  intro stored
  have found : store.getTask arguments.parentTaskId = some parent := by
    rw [named]
    exact store.tasks.lookup_of_mem stored
  rcases inherits_of_createFollowOn found returned with
    rfl | ⟨placed, inherits⟩
  · exact .refl _
  · exact .single placed ⟨_, overridden, inherits⟩

theorem overrides_findingRequest
    {call : RemediationCall} {context : RemediationContext} {index : Nat}
    {finding : PyDict} {request : FollowOnRequest}
    (returned : findingRequest context index finding = .ok request) :
    (CreationPath.createTasksFromReviewFindings call).Overrides
      request.metadataOverrides := by
  unfold findingRequest at returned
  obtain ⟨_, made, returned⟩ := exists_of_bind_ok returned
  cases returned
  exact overrides_findingMetadata made

theorem grows_remediation {call : RemediationCall}
    (found : store.getTask call.parentTaskId = some parent) :
    GrowsInheriting (.createTasksFromReviewFindings call) parent store (call.after store) := by
  refine related_remediation ?_ ?_
  · intro context index finding request before after task known requested created
    rw [found] at known
    cases known
    rw [createFollowOnTask_eq] at created
    exact grows_of_createFollowOn (parentTaskId_findingRequest requested)
      (overrides_findingRequest requested) created
  · intro before after tasks _ _
    rw [tasks]
    exact .refl _

end

/-! ## The paths that write to a row after its creation -/

section

variable {store created : Store} {task : Task}

theorem row_of_updateTaskExternalMetadata {writtenId : String} {metadata : PyDict}
    (member : task ∈ (created.updateTaskExternalMetadata writtenId metadata).tasks.rows) :
    (task.id = writtenId ∧ task.externalRefMetadata = metadata) ∨
      task ∈ created.tasks.rows ∧ task.id ≠ writtenId := by
  obtain ⟨_, stored, rfl⟩ := KeyedTable.mem_updateAt.mp member
  split
  next own => exact .inl ⟨own, rfl⟩
  next other => exact .inr ⟨stored, other⟩

end

namespace CreationPath

open TaskService

variable {store : Store} {parent task : Task}

theorem not_mem_of_unused (unused : store.getTask task.id = none) : task ∉ store.tasks.rows :=
  fun stored => store.tasks.lookup_eq_none_iff.mp unused task stored rfl

theorem after_manual {identities : TaskIdentities} {request : DispositionRequest}
    (found : store.getTask request.taskId = some parent) :
    (allowManualOperatorImplementation identities request).after store = store ∨
      ∃ created followOn, createFollowOn identities store
            (.ofRequest (manualRequest store (manualDisposition request)
              parent)) = .ok (created, followOn) ∧
          ((allowManualOperatorImplementation identities request).after
            store).tasks = (created.updateTaskExternalMetadata parent.id
                (mergedMetadata store (manualDisposition request) parent)).tasks := by
  rw [← createFollowOnTask_eq]
  unfold after applyFailedTaskDisposition manualDisposition
  dsimp only
  rw [found]
  dsimp only
  split
  · exact .inl rfl
  · unfold allowManual
    cases made : TaskService.createFollowOnTask identities store
        (manualRequest store (manualDisposition request) parent) with
    | error _ =>
      unfold manualDisposition at made
      rw [made]
      exact .inl rfl
    | ok pair =>
      unfold manualDisposition at made
      rw [made]
      exact .inr ⟨pair.1, pair.2, rfl, planObjective_tasks _ parent⟩

theorem after_conflict (hasTaskService : Bool) (identities : TaskIdentities) (store : Store)
    (review : ConflictingReview) :
    (ensureConflictFollowOn hasTaskService identities review).after store = store ∨
      ∃ created followOn, createFollowOn identities store
            (ReviewWatcherService.conflictArguments review) = .ok (created, followOn) ∧
          (ensureConflictFollowOn hasTaskService identities review).after store =
            created.updateTaskExternalMetadata followOn.id
              (ReviewWatcherService.mergedMetadata created review) := by
  unfold after ReviewWatcherService.ensureConflictFollowOn
  dsimp only
  split
  · exact .inl rfl
  · split
    · exact .inl rfl
    · unfold ReviewWatcherService.createConflictFollowOn
      cases made : createFollowOn identities store
          (ReviewWatcherService.conflictArguments review) with
      | error _ => exact .inl rfl
      | ok pair => exact .inr ⟨pair.1, pair.2, rfl, rfl⟩

variable {identities : TaskIdentities}

theorem inherits_of_manual {request : DispositionRequest}
    (found : store.getTask request.taskId = some parent)
    (new : (allowManualOperatorImplementation identities request).Creates store task) :
    InheritsAlong (.allowManualOperatorImplementation identities request) parent task := by
  obtain ⟨member, unused⟩ := new
  obtain ⟨stored, own⟩ := store.tasks.lookup_eq_some_iff.mp found
  rcases @after_manual store parent identities request found with
    same | ⟨created, followOn, made, written⟩
  · rw [same] at member
    exact absurd member (not_mem_of_unused unused)
  · rw [written] at member
    rcases row_of_updateTaskExternalMetadata member with
      ⟨same, _⟩ | ⟨placed, _⟩
    · rw [same, own, found] at unused
      cases unused
    · have grows := @grows_of_createFollowOn
        (.allowManualOperatorImplementation identities request) parent
        identities store created followOn _ rfl
        (overrides_manualRequest request parent) made
      exact (grows stored).holds_of_new placed unused

variable {hasTaskService : Bool} {review : ConflictingReview}

theorem inheritsAlong_mergedMetadata {created : Store}
    (known : created.getTask review.parentTaskId = some parent)
    (rewritten : task.externalRefMetadata = ReviewWatcherService.mergedMetadata created review) :
    InheritsAlong (.ensureConflictFollowOn hasTaskService identities review) parent task := by
  refine ⟨[("promotion_remediation",
    .dict (ReviewWatcherService.promotionRemediation review))], ⟨rfl, ?_⟩, ?_⟩
  · exact iff_of_true ⟨(by decide : kindOf none ≠ "ignore_obsolete"),
        (by decide : kindOf none ≠ "waive_obsolete"), rfl⟩
      undisposed_ofItems_nil
  · unfold Inherits
    rw [rewritten]
    unfold ReviewWatcherService.mergedMetadata
    rw [known]
    exact .refl _

theorem inherits_of_conflict (found : store.getTask review.parentTaskId = some parent)
    (new : (ensureConflictFollowOn hasTaskService identities review).Creates store task) :
    InheritsAlong (.ensureConflictFollowOn hasTaskService identities review) parent task := by
  obtain ⟨member, unused⟩ := new
  obtain ⟨stored, own⟩ := store.tasks.lookup_eq_some_iff.mp found
  rcases after_conflict hasTaskService identities store review with
    same | ⟨created, _, made, written⟩
  · rw [same] at member
    exact absurd member (not_mem_of_unused unused)
  · rw [written] at member
    rcases inherits_of_createFollowOn found made with same | ⟨rows, _⟩
    · rw [same] at member
      obtain ⟨row, earlier, same⟩ := KeyedTable.exists_key_updateAt.mp ⟨task, member, rfl⟩
      exact absurd same (store.tasks.lookup_eq_none_iff.mp unused row earlier)
    · have known : created.getTask review.parentTaskId = some parent := by
        rw [← own]
        refine created.tasks.lookup_of_mem ?_
        rw [rows]
        exact List.mem_append_left _ stored
      rcases row_of_updateTaskExternalMetadata member with
        ⟨_, rewritten⟩ | ⟨placed, other⟩
      · exact inheritsAlong_mergedMetadata known rewritten
      · rw [rows] at placed
        rcases List.mem_append.mp placed with earlier | later
        · exact absurd earlier (not_mem_of_unused unused)
        · exact absurd (congrArg Task.id (List.mem_singleton.mp later)) other

theorem inherits_of_creates
    {path : CreationPath} (found : store.getTask path.parentTaskId = some parent)
    (new : path.Creates store task) : InheritsAlong path parent task := by
  cases path with
  | createFollowOnTask identities arguments =>
    obtain ⟨member, unused⟩ := new
    have stored := (store.tasks.lookup_eq_some_iff.mp found)
    unfold after at member
    dsimp only at member
    cases made : createFollowOn identities store arguments with
    | error _ =>
      rw [made] at member
      exact absurd member (not_mem_of_unused unused)
    | ok pair =>
      rw [made] at member
      have grows := @grows_of_createFollowOn
        (.createFollowOnTask identities arguments) parent identities store
        pair.1 pair.2 arguments stored.2.symm ⟨rfl, .rfl⟩ made
      exact (grows stored.1).holds_of_new member unused
  | createTasksFromReviewFindings _ =>
    have stored := (store.tasks.lookup_eq_some_iff.mp found).1
    exact (grows_remediation found stored).holds_of_new new.1 new.2
  | allowManualOperatorImplementation _ _ => exact inherits_of_manual found new
  | ensureConflictFollowOn _ _ _ => exact inherits_of_conflict found new

end CreationPath

/-- A new task starts undisposed, and stays so until a call disposes of it,
exactly when its parent has no mark that the call leaves. -/
theorem new_task_undisposed_iff {path : CreationPath} {store : Store} {parent task : Task}
    (found : store.getTask path.parentTaskId = some parent)
    (new : path.Creates store task) :
    StartsUndisposed (path.after store) task ↔ path.Clean parent := by
  rw [startsUndisposed_iff new.1]
  exact undisposed_iff_of_inheritsAlong (path.inherits_of_creates found new)

def conflictedStore (metadata : PyDict) : Store where
  projects := .single { id := "project", promotionMode := .branchOnly }
  objectives := .single { id := "objective", projectId := "project" }
  tasks := .single
    { id := "reviewed", projectId := "project", objectiveId := some "objective"
      externalRefMetadata := metadata, status := .completed }

def conflictPath : CreationPath :=
  .ensureConflictFollowOn true
    { taskId := "rebase", planId := "plan", now := 1, nonNegotiables := fun _ => none }
    { parentTaskId := "reviewed", sourceRunId := "run", branchName := "main" }

def appliedMetadata : PyDict := [("repo_applyback", .dict [("applied_commit_sha", .str "abc")])]

theorem rebase_undisposed :
    ∃ task, conflictPath.Creates (conflictedStore []) task ∧
      StartsUndisposed (conflictPath.after (conflictedStore [])) task := by
  have created : ((conflictPath.after (conflictedStore [])).getTask "rebase").isSome = true := by
    decide +kernel
  obtain ⟨task, stored⟩ := Option.isSome_iff_exists.mp created
  obtain ⟨member, own⟩ := KeyedTable.lookup_eq_some_iff _ |>.mp stored
  have new : conflictPath.Creates (conflictedStore []) task := by
    refine ⟨member, ?_⟩
    rw [own]
    decide
  refine ⟨task, new, (new_task_undisposed_iff rfl new).mpr ⟨?_, ?_⟩⟩
  · exact ⟨by decide, by decide, rfl⟩
  · exact ⟨by decide, by decide, rfl⟩

/-- The task that rebases an applied change is marked as applied itself. -/
theorem rebase_marked :
    ∃ parent task,
      (conflictedStore appliedMetadata).getTask conflictPath.parentTaskId = some parent ∧
        conflictPath.Creates (conflictedStore appliedMetadata) task ∧ ¬ StartsUndisposed
            (conflictPath.after (conflictedStore appliedMetadata)) task := by
  have marked : ((conflictPath.after (conflictedStore appliedMetadata)).getTask
      "rebase").map (fun task =>
        (task.externalRefMetadata.find "repo_applyback").isSome) = some true := by
    decide +kernel
  obtain ⟨task, stored, kept⟩ := Option.map_eq_some_iff.mp marked
  obtain ⟨member, own⟩ := KeyedTable.lookup_eq_some_iff _ |>.mp stored
  refine ⟨_, task, rfl, ⟨member, ?_⟩, fun starts => ?_⟩
  · rw [own]
    decide
  · rw [starts.undisposed.unapplied] at kept
    cases kept

end AccruviaHarness
