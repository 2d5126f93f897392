import AccruviaHarness.Services.PlanLinkage

/-!
# The lineage over histories of creations

The calls that create tasks and the skill output that is turned into plans, in
any order.
-/

namespace AccruviaHarness

open Library

def Store.hasObjectiveOf (store : Store) (task : Task) : Bool :=
  match task.objectiveId with
  | none => true
  | some objectiveId => (store.getObjective objectiveId).isSome

def foreignKeyError : PyError := .integrityError "FOREIGN KEY constraint failed"

/-- `create_task` of the store, with the keys that the row refers to. -/
def Store.insertTask (store : Store) (task : Task) : Except PyError Store :=
  match store.tasks.insert? task with
  | none => .error (.integrityError "UNIQUE constraint failed: tasks.id")
  | some tasks =>
    if (store.getProject task.projectId).isSome && store.hasObjectiveOf task then
      .ok { store with tasks }
    else .error foreignKeyError

theorem Store.insertTask_eq_ok {store written : Store} {task : Task}
    (returned : store.insertTask task = .ok written) :
    ∃ tasks, store.tasks.insert? task = some tasks ∧
      written = { store with tasks } := by
  unfold insertTask at returned
  split at returned
  · cases returned
  next tasks inserted =>
    split at returned
    · cases returned
      exact ⟨tasks, inserted, rfl⟩
    · cases returned

theorem Store.insertTask_of_accepted
    {store : Store} {task : Task} (unused : store.getTask task.id = none)
    (project : (store.getProject task.projectId).isSome)
    (objective : store.hasObjectiveOf task) :
    ∃ written, store.insertTask task = .ok written := by
  obtain ⟨tasks, inserted, _⟩ := store.tasks.insert?_of_fresh task
    (store.tasks.lookup_eq_none_iff.mp unused)
  refine ⟨{ store with tasks }, ?_⟩
  unfold insertTask
  rw [inserted, project, objective]
  rfl

namespace TaskService

def derivesPlan (task : Task) : Bool := task.objective?.isSome && task.plan?.isNone

/-- `create_task`, with the store that it leaves where it raises. -/
def createTaskRows (identities : TaskIdentities) (store : Store)
    (task : Task) : Store × Except PyError Task :=
  match referencedTask store task with
  | some existing => (store, .ok existing)
  | none =>
    match ensurePlanLinkage identities store task with
    | .error error => (store, .error error)
    | .ok (planned, linked) =>
      -- The row of a plan refers to its objective, as that of a task does.
      if derivesPlan task && !store.hasObjectiveOf task then (store, .error foreignKeyError)
      else
        match planned.insertTask linked with
        | .ok written => (written, .ok linked)
        | .error error => (planned, .error error)

/-- `create_task` of a row that the checks before it may have refused. -/
def createRow (identities : TaskIdentities) (store : Store) :
    Except PyError Task → Store
  | .error _ => store
  | .ok task => (createTaskRows identities store task).1

variable {identities : TaskIdentities} {store : Store} {task : Task}

theorem insertTask_of_linking {planned : Store} {linked : Task}
    (linking : Linking identities store task planned linked)
    (accepted : Accepted store task)
    (known : ¬ (derivesPlan task && !store.hasObjectiveOf task) = true) :
    planned = store ∨ ∃ written, planned.insertTask linked = .ok written := by
  cases linking with
  | unbound => exact .inl rfl
  | given => exact .inl rfl
  | looked => exact .inl rfl
  | derived owned unnamed _ =>
    obtain ⟨unused, project⟩ := accepted (Option.ne_none_iff_exists'.mpr ⟨_, owned⟩) unnamed
    have objective : store.hasObjectiveOf task := by simpa [derivesPlan, owned, unnamed] using known
    exact .inr (Store.insertTask_of_accepted unused project objective)

theorem traced_createTaskRows (traced : Traced store) (named : PlanNamed store task)
    (keeps : referencedTask store task = none → KeepsLineage store task ∧ Accepted store task) :
    Traced (createTaskRows identities store task).1 := by
  unfold createTaskRows
  split
  · exact traced
  next unreferenced =>
    obtain ⟨keeps, accepted⟩ := keeps unreferenced
    split
    · exact traced
    next planned linked ensured =>
      have linking := linking_of_ensurePlanLinkage ensured
      split
      · exact traced
      next known =>
        split
        next written stored =>
          obtain ⟨_, inserted, rfl⟩ := Store.insertTask_eq_ok stored
          exact linking.traced traced named keeps inserted
        next error refused =>
          rcases insertTask_of_linking linking accepted known with
            rfl | ⟨_, stored⟩
          · exact traced
          · rw [refused] at stored
            cases stored

theorem keepsLineage_of_bare (unnamed : task.planId = none) (undrawn : task.mermaidNodeId = none) :
    KeepsLineage store task := by
  have planless : task.plan? = none := by
    unfold Task.plan?
    rw [unnamed]
    rfl
  constructor
  case undrawn => exact fun _ => undrawn
  case canonical =>
    intro planId named
    rw [planless] at named
    cases named
  case shared =>
    intro plan _ named
    rw [planless] at named
    cases named

/-! ## The tasks of the findings -/

def KeepsTraced (before after : Store) : Prop := Traced before → Traced after

instance : Std.Refl KeepsTraced where
  refl _ traced := traced

instance : IsTrans Store KeepsTraced where
  trans _ _ _ first second traced := second (first traced)

theorem traced_createFollowOnTask {request : FollowOnRequest} {before after : Store}
    (returned : createFollowOnTask identities before request =
      .ok (after, task)) : KeepsTraced before after := by
  intro traced
  rw [createFollowOnTask_eq] at returned
  unfold createFollowOn at returned
  obtain ⟨_, made, created⟩ := exists_of_bind_ok returned
  obtain ⟨_, _, _, rfl⟩ := followOnRow_spec made
  unfold createTask at created
  split at created
  · cases created
    exact traced
  · split at created
    · cases created
    next planned linked ensured =>
      split at created
      next tasks inserted =>
        cases created
        exact (linking_of_ensurePlanLinkage ensured).traced traced
          (.inl rfl) (keepsLineage_of_bare rfl rfl) inserted
      · cases created

theorem traced_remediation (call : RemediationCall) : KeepsTraced store (call.after store) := by
  refine related_remediation ?_ ?_
  · intro _ _ _ _ before after task _ _ created
    exact traced_createFollowOnTask created
  · intro before after tasks plans traced
    exact traced.congr tasks plans

end TaskService

/-! ## The plans of a skill's output -/

namespace Plans

variable {objectiveId authorTag : String} {createdAt : Int}
  {localToPlanId : LocalIds} {plan : Plan} {store : Store}

theorem draftPlan_drawn {planId : String} {planData : PyDict} {localId : PyValue}
    (drafted : draftPlan objectiveId authorTag planId createdAt localToPlanId
      planData = .ok (localId, plan)) :
    plan.mermaidNodeId = some (canonicalNodeId plan.id) ∧
      plan.autoCreated = false := by
  unfold draftPlan at drafted
  obtain ⟨_, _, drafted⟩ := exists_of_bind_ok drafted
  obtain ⟨_, _, drafted⟩ := exists_of_bind_ok drafted
  obtain ⟨_, _, drafted⟩ := exists_of_bind_ok drafted
  obtain ⟨_, _, drafted⟩ := exists_of_bind_ok drafted
  cases drafted
  refine ⟨rfl, ?_⟩
  show ("from " ++ authorTag == "auto-created 1:1 plan") = false
  rw [beq_eq_false_iff_ne]
  intro same
  have heads := congrArg (fun text => text.toList.head?) same
  simp at heads

theorem traced_createPlan {written : Store} (traced : Traced store)
    (drawn : plan.mermaidNodeId = some (canonicalNodeId plan.id))
    (shared : plan.autoCreated = false)
    (created : store.createPlan plan = .ok written) : Traced written := by
  unfold Store.createPlan at created
  split at created
  next plans inserted =>
    cases created
    refine Traced.of_holds (traced.holds.addParent inserted ?_) traced.undrawn
      fun other member => ?_
    · intro isPrivate
      rw [show plan.autoCreated = true from isPrivate] at shared
      cases shared
    · rw [show _ = store.plans.rows ++ [plan] from KeyedTable.rows_of_insert? inserted] at member
      rcases List.mem_append.mp member with earlier | new
      · exact traced.canonical other earlier
      · cases List.mem_singleton.mp new
        exact drawn
  · cases created

theorem traced_materializeFrom {plansData : List (String × PyDict)} (traced : Traced store) :
    Traced (materializeFrom objectiveId authorTag store localToPlanId createdAt plansData).1 := by
  induction plansData generalizing store localToPlanId createdAt with
  | nil => exact traced
  | cons entry _ ih =>
    obtain ⟨_, _⟩ := entry
    unfold materializeFrom
    split
    · exact traced
    next localId plan drafted =>
      split
      · exact traced
      next stored created =>
        obtain ⟨drawn, shared⟩ := draftPlan_drawn drafted
        have kept := traced_createPlan traced drawn shared created
        split
        · exact kept
        · exact ih kept

end Plans

/-! ## Histories -/

inductive CreationCall where
  | createTask (identities : TaskIdentities) (task : Task)
  | createTaskWithPolicy (identities : TaskIdentities) (policy : TaskPolicy)
  | createFollowOnTask (identities : TaskIdentities) (arguments : FollowOnArguments)
  | createTasksFromReviewFindings (call : RemediationCall)
  | materializePlans (objectiveId authorTag : String)
      (plansData : List (String × PyDict)) (now : Int)

namespace CreationCall

open TaskService

def after (store : Store) : CreationCall → Store
  | .createTask identities task => (createTaskRows identities store task).1
  | .createTaskWithPolicy identities policy =>
    createRow identities store (policyRow identities store policy)
  | .createFollowOnTask identities arguments =>
    createRow identities store (followOnRow identities store arguments)
  | .createTasksFromReviewFindings call => call.after store
  | .materializePlans objectiveId authorTag plansData now =>
    (Plans.materializePlansFromSkillOutput store objectiveId plansData authorTag now).1

def step (store : Store) (call : CreationCall) : Option Store := some (call.after store)

/-- The arguments of `create_task_with_policy` as the row of a task. -/
def argumentRow (identities : TaskIdentities) (policy : TaskPolicy) : Task :=
  policyTask identities policy policy.scope

def Proper (store : Store) : CreationCall → Prop
  | .createTask _ task => PlanNamed store task
  | .createTaskWithPolicy identities policy => PlanNamed store (argumentRow identities policy)
  | _ => True

def RowKeeps (store : Store) (task : Task) : Prop :=
  referencedTask store task = none → KeepsLineage store task ∧ Accepted store task

def KeepsArguments (store : Store) : CreationCall → Prop
  | .createTask _ task => RowKeeps store task
  | .createTaskWithPolicy identities policy => RowKeeps store (argumentRow identities policy)
  | .createFollowOnTask identities arguments =>
    ∀ parent, store.getTask arguments.parentTaskId = some parent →
      RowKeeps store (argumentRow identities (arguments.policy parent))
  | _ => True

variable {store : Store}

theorem traced_createRow {identities : TaskIdentities} {policy : TaskPolicy} {task : Task}
    (traced : Traced store)
    (named : PlanNamed store (argumentRow identities policy))
    (keeps : RowKeeps store (argumentRow identities policy))
    (row : policyRow identities store policy = .ok task) :
    Traced (createTaskRows identities store task).1 := by
  obtain ⟨_, rfl⟩ := policyRow_spec row
  refine traced_createTaskRows traced named fun unreferenced => ?_
  obtain ⟨kept, accepted⟩ := keeps unreferenced
  exact ⟨⟨kept.undrawn, kept.canonical, kept.shared⟩, accepted⟩

theorem traced_after {call : CreationCall} (traced : Traced store) (proper : call.Proper store)
    (keeps : call.KeepsArguments store) : Traced (call.after store) := by
  cases call with
  | createTask _ _ => exact traced_createTaskRows traced proper keeps
  | createTaskWithPolicy identities policy =>
    show Traced (createRow identities store _)
    cases row : policyRow identities store policy with
    | error _ => exact traced
    | ok _ => exact traced_createRow traced proper keeps row
  | createFollowOnTask identities arguments =>
    show Traced (createRow identities store (followOnRow identities store arguments))
    unfold followOnRow
    cases found : store.getTask arguments.parentTaskId with
    | none => exact traced
    | some parent =>
      dsimp only
      cases row : policyRow identities store (arguments.policy parent) with
      | error _ => exact traced
      | ok _ => exact traced_createRow traced (.inl rfl) (keeps parent found) row
  | createTasksFromReviewFindings call => exact traced_remediation call traced
  | materializePlans _ _ _ _ => exact Plans.traced_materializeFrom traced

end CreationCall

/-- The lineage of every task and every derived plan, in every store that the
calls reach from a traced one, if no call is given what breaks it. -/
theorem plan_lineage_kept {store reached : Store} (traced : Traced store)
    {calls : List CreationCall}
    (meets : StepsMeet CreationCall.step
      (fun before call => call.Proper before ∧ call.KeepsArguments before)
      store calls)
    (run : runEvents CreationCall.step store calls = some reached) :
    Lineage reached := by
  have kept : Traced reached := by
    refine runEvents_invariant_of_guard _ ?_ traced meets run
    rintro _ _ _ holds ⟨proper, keeps⟩ taken
    cases taken
    exact CreationCall.traced_after holds proper keeps
  exact kept.toLineage

def unslicedStore : Store where
  projects := .single { id := "project", promotionMode := .branchOnly }
  objectives := .single
    { id := "objective", projectId := "project", title := "Objective", status := .open }

def sliceIdentities : TaskIdentities where
  taskId := "task_1"
  planId := "plan_2"
  now := 0
  nonNegotiables _ := none

def sliceCall : CreationCall :=
  .materializePlans "objective" "plan_draft"
    [("plan_1", [("local_id", .str "A"), ("label", .str "Slice")])] 0

def sliceTaskCall (mermaidNodeId : Option String) : CreationCall :=
  .createTaskWithPolicy sliceIdentities
    { projectId := "project", title := "Slice", objective := "Do the slice.", priority := 100
      parentTaskId := none, sourceRunId := none, externalRefType := none, externalRefId := none
      objectiveId := some "objective", mermaidNodeId, planId := some "plan_1" }

def slicedStore : Store := sliceCall.after unslicedStore

theorem unslicedStore_traced : Traced unslicedStore := .empty rfl rfl

theorem slice_lineage_kept :
    ∃ reached, runEvents CreationCall.step unslicedStore
          [sliceCall, sliceTaskCall none] = some reached ∧
        reached.tasks.rows.map Task.planId = [some "plan_1"] ∧ Lineage reached := by
  refine ⟨(sliceTaskCall none).after slicedStore, rfl, by decide +kernel, ?_⟩
  refine @plan_lineage_kept _ _ unslicedStore_traced [sliceCall, sliceTaskCall none] ?_ rfl
  intro sliced taken
  cases taken
  refine ⟨⟨trivial, trivial⟩, fun later taken => ⟨⟨?proper, ?keeps⟩, trivial⟩⟩
  case proper =>
    show PlanNamed slicedStore _
    decide +kernel
  case keeps =>
    intro _
    refine ⟨⟨fun _ => rfl, fun _ _ drawn => absurd rfl drawn, ?_⟩, ?_⟩
    · show ∀ plan ∈ slicedStore.plans.rows, _ → plan.autoCreated = false
      decide +kernel
    · intro _ unnamed
      cases unnamed

/-- A task that comes with a plan keeps the node that it is given. -/
theorem alias_kept :
    ∃ reached, StepsMeet CreationCall.step (fun before call => call.Proper before)
          unslicedStore [sliceCall, sliceTaskCall (some "A")] ∧
        runEvents CreationCall.step unslicedStore
            [sliceCall, sliceTaskCall (some "A")] = some reached ∧
          Traced unslicedStore ∧ ¬ Lineage reached := by
  refine ⟨(sliceTaskCall (some "A")).after slicedStore, ?_, rfl,
    unslicedStore_traced, fun lineage => ?_⟩
  · intro sliced taken
    cases taken
    refine ⟨trivial, fun later taken => ⟨?_, trivial⟩⟩
    show PlanNamed slicedStore _
    decide +kernel
  · have drawn : ((sliceTaskCall (some "A")).after slicedStore).tasks.rows.map
        (fun task => (task.objective?, task.planId, task.mermaidNodeId)) =
          [(some "objective", some "plan_1", some "A")] := by
      decide +kernel
    obtain ⟨task, rows, columns⟩ := List.map_eq_singleton_iff.mp drawn
    obtain ⟨owned, columns⟩ := Prod.mk.inj columns
    obtain ⟨named, node⟩ := Prod.mk.inj columns
    have stored : task ∈ ((sliceTaskCall (some "A")).after slicedStore).tasks.rows := by
      rw [rows]
      exact List.mem_singleton_self task
    obtain ⟨_, _, link, _, same, canonical⟩ := lineage.linked task stored "objective" owned
    rw [named] at link
    rw [node, canonical, ← Option.some.inj link] at same
    exact absurd same (by decide +kernel)

end AccruviaHarness
