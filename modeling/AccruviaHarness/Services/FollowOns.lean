import AccruviaHarness.Services.PromotionService
import AccruviaHarness.Services.Remediation

/-!
# Follow-on tasks

`create_follow_on_task` with all of its arguments. The callers leave most of
them out, and what they leave out is copied from the parent.
-/

namespace AccruviaHarness

/-- The arguments of `create_follow_on_task`. -/
structure FollowOnArguments where
  parentTaskId : String
  sourceRunId : String
  title : String
  objective : String
  priority : Option Int := none
  strategy : Option String := none
  validationMode : Option String := none
  maxAttempts : Option Int := none
  requiredArtifacts : List String := []
  externalRefMetadataOverrides : PyDict := []

namespace FollowOnArguments

variable (arguments : FollowOnArguments)

/-- `merged_external_ref_metadata`. -/
def mergedMetadata (parent : Task) : PyDict :=
  parent.externalRefMetadata.update arguments.externalRefMetadataOverrides

/-- What is given on to `create_task_with_policy`. -/
def policy (parent : Task) : TaskPolicy where
  projectId := parent.projectId
  objectiveId := parent.objectiveId
  title := arguments.title
  objective := arguments.objective
  priority := arguments.priority.getD parent.priority
  parentTaskId := some arguments.parentTaskId
  sourceRunId := some arguments.sourceRunId
  externalRefType := parent.externalRefType
  externalRefId := parent.externalRefId
  externalRefMetadata := arguments.mergedMetadata parent
  validationProfile := parent.validationProfile
  validationMode := some (arguments.validationMode.getD parent.validationMode)
  scope := some parent.scope
  strategy := TaskService.orText arguments.strategy parent.strategy
  maxAttempts := arguments.maxAttempts.getD parent.maxAttempts
  requiredArtifacts :=
    if arguments.requiredArtifacts = [] then parent.requiredArtifacts
    else arguments.requiredArtifacts

def ofRequest (request : TaskService.FollowOnRequest) :
    FollowOnArguments where
  parentTaskId := request.parentTaskId
  sourceRunId := request.sourceRunId
  title := request.title
  objective := request.objective
  strategy := some request.strategy
  validationMode := some request.validationMode
  externalRefMetadataOverrides := request.metadataOverrides

end FollowOnArguments

namespace TaskService

variable (identities : TaskIdentities)

/-- The row that `create_task_with_policy` goes on to create, if the objective
passes its checks. -/
def policyRow (store : Store) (policy : TaskPolicy) : Except PyError Task :=
  match policy.objectiveId with
  | none => .ok (policyTask identities policy policy.scope)
  | some objectiveId =>
    match store.getObjective objectiveId with
    | none => .error (.valueError ("Unknown objective: " ++ objectiveId))
    | some objective =>
      if objective.projectId ≠ policy.projectId then
        .error <| .valueError <| "Objective " ++ objectiveId ++
            " does not belong to project " ++ policy.projectId
      else .ok (policyTask identities policy (contractScope identities policy objectiveId))

theorem createTaskWithPolicy_eq (store : Store) (policy : TaskPolicy) :
    createTaskWithPolicy identities store policy =
      policyRow identities store policy >>= createTask identities store := by
  unfold createTaskWithPolicy policyRow
  cases owned : policy.objectiveId with
  | none => rfl
  | some objectiveId =>
    dsimp only
    cases found : store.getObjective objectiveId with
    | none => rfl
    | some objective =>
      by_cases foreign : objective.projectId ≠ policy.projectId
      · simp only [if_pos foreign]
        rfl
      · simp only [if_neg foreign]
        rfl

variable {identities : TaskIdentities} {store : Store} {task : Task}

theorem policyRow_spec {policy : TaskPolicy}
    (returned : policyRow identities store policy = .ok task) :
    ∃ scope, task = policyTask identities policy scope := by
  unfold policyRow at returned
  split at returned
  · cases returned
    exact ⟨_, rfl⟩
  · split at returned
    · cases returned
    · split at returned
      · cases returned
      · cases returned
        exact ⟨_, rfl⟩

/-- The row that `create_follow_on_task` goes on to create. -/
def followOnRow (identities : TaskIdentities) (store : Store)
    (arguments : FollowOnArguments) : Except PyError Task :=
  match store.getTask arguments.parentTaskId with
  | none => .error (.valueError ("Unknown parent task: " ++ arguments.parentTaskId))
  | some parent => policyRow identities store (arguments.policy parent)

theorem followOnRow_spec {arguments : FollowOnArguments}
    (returned : followOnRow identities store arguments = .ok task) :
    ∃ parent scope, store.getTask arguments.parentTaskId = some parent ∧
      task = policyTask identities (arguments.policy parent) scope := by
  unfold followOnRow at returned
  split at returned
  · cases returned
  next parent found =>
    obtain ⟨scope, row⟩ := policyRow_spec returned
    exact ⟨parent, scope, found, row⟩

/-- `create_follow_on_task`, with all of its arguments. -/
def createFollowOn (identities : TaskIdentities) (store : Store)
    (arguments : FollowOnArguments) : Except PyError (Store × Task) :=
  followOnRow identities store arguments >>= createTask identities store

theorem createFollowOnTask_eq
    (identities : TaskIdentities) (store : Store) (request : FollowOnRequest) :
    createFollowOnTask identities store request =
      createFollowOn identities store (.ofRequest request) := by
  unfold createFollowOnTask createFollowOn followOnRow
  cases found : store.getTask request.parentTaskId with
  | none =>
    have missing : store.getTask (FollowOnArguments.ofRequest request).parentTaskId = none := found
    rw [missing]
    rfl
  | some parent =>
    have stored : store.getTask
        (FollowOnArguments.ofRequest request).parentTaskId = some parent := found
    rw [stored]
    exact createTaskWithPolicy_eq identities store _

/-! ## A rule for the tasks of findings -/

section

open Library

variable {related : Store → Store → Prop} [Std.Refl related]

variable {host : RemediationHost} {context : RemediationContext}

theorem follows_createFindingTask {index : Nat} {finding : PyDict}
    (creates : ∀ request before after task, findingRequest context index finding = .ok request →
        createFollowOnTask (host.identities index) before request = .ok (after, task) →
          related before after) :
    Follows related (createFindingTask host context index finding) := by
  intro before
  show related before (stateOf (EStateM.bind
    (valueOf (findingRequest context index finding)) _ before))
  cases requested : findingRequest context index finding with
  | error _ => exact refl_of related before
  | ok request =>
    show related before (stateOf (EStateM.bind
      (valueOf (createFollowOnTask (host.identities index) before request)) _ before))
    cases created : createFollowOnTask (host.identities index) before request with
    | error _ => exact refl_of related before
    | ok pair => exact creates request before pair.1 pair.2 requested created

variable [IsTrans Store related]

theorem follows_findings (creates : ∀ index finding request before after task,
      findingRequest context index finding = .ok request →
        createFollowOnTask (host.identities index) before request = .ok (after, task) →
          related before after)
    (index : Nat) (findings : List PyDict) :
    Follows related (createFindingTasks host context index findings) := by
  induction findings generalizing index with
  | nil => exact .returns []
  | cons finding _ ih =>
    refine (follows_createFindingTask (creates index finding)).bind fun task => ?_
    refine (ih (index + 1)).bind fun tasks => ?_
    exact .returns _

theorem related_remediation {call : RemediationCall} {store : Store}
    (creates : ∀ context index finding request before after task,
      store.getTask call.parentTaskId = some context.parent →
        findingRequest context index finding = .ok request →
          createFollowOnTask (call.host.identities index) before request = .ok (after, task) →
            related before after)
    (records : ∀ before after : Store, after.tasks = before.tasks →
      after.plans = before.plans → related before after) :
    related store (call.after store) := by
  unfold RemediationCall.after
  have applied : call.program store =
      remediateParent call.host store call.parentTaskId call.sourceRunId
        call.findings (store.getTask call.parentTaskId) store := rfl
  rw [applied]
  cases found : store.getTask call.parentTaskId with
  | none => exact refl_of related store
  | some parent =>
    unfold remediateParent
    dsimp only
    rcases remediationBlockReason call.host store parent
      (retryTreeRoot store parent) call.sourceRunId call.findings with
      ⟨_ | _, _, _⟩
    · refine ((follows_findings ?_ 0 call.findings).bind fun created => ?_) store
      · intro index finding request before after task
        exact creates _ index finding request before after task found
      · refine Follows.bind (fun middle => ?_) fun _ => .returns created
        show related middle
          (if created = [] then middle else planObjective middle parent)
        split
        · exact refl_of related middle
        · unfold planObjective
          split
          · exact records _ _ rfl rfl
          · exact refl_of related middle
    · show related store (markRetryTreeBlocked call.host store parent _ _ _)
      unfold markRetryTreeBlocked
      split
      · exact refl_of related store
      · exact records _ _ rfl rfl

end

end TaskService

end AccruviaHarness
