import AccruviaHarness.Services.IssueService
import AccruviaHarness.Services.ObjectiveConsistency

/-!
# Synchronization and the state of the harness

The metadata of a task has two owners. The harness keeps dispositions and
application marks in it, and every synchronization replaces it by what the
tracker says about the issue.
-/

namespace AccruviaHarness

open Library

def issueKeys : List String := ["labels", "milestone", "assignees", "url", "state"]

def IssueOnly (metadata : PyDict) : Prop := ∀ entry ∈ metadata, entry.1 ∈ issueKeys

theorem ExternalIssue.issueOnly_metadata (issue : ExternalIssue) : IssueOnly issue.metadata := by
  simp [IssueOnly, ExternalIssue.metadata, issueKeys]

def harnessValue (store : Store) (taskId key : String) : Option PyValue :=
  (store.getTask taskId).bind fun task => task.externalRefMetadata.lookup key

variable {key taskId : String} {before : Store} {task : Task}

theorem lookup_of_issueOnly {metadata : PyDict} (described : IssueOnly metadata)
    (own : key ∉ issueKeys) : metadata.lookup key = none := by
  rw [List.lookup_eq_none_iff]
  intro entry member
  have different : key ≠ entry.1 := fun same => own (same ▸ described entry member)
  simpa using different

def Store.Waived (store : Store) (taskId : String) : Prop :=
  ∃ task, store.getTask taskId = some task ∧
    (task.dispositionKind "workflow_state_disposition" = "ignore_obsolete" ∨
      task.dispositionKind "failed_task_disposition" = "waive_obsolete")

def Store.Applied (store : Store) (taskId : String) : Prop :=
  ∃ task, store.getTask taskId = some task ∧ PromotionMixin.taskRepoApplied task = true

/-! ## Calls of the synchronization -/

inductive TrackerCall where
  | syncOpenIssues (identities : Nat → TaskIdentities)
      (projectId repo : String) (limit : Int) (options : ImportOptions)
  | syncIssueState (taskId repo : String)
  | syncIssueMetadata (taskId repo : String)

namespace TrackerCall

def program (service : IssueTaskService) (provider : IssueProvider) :
    TrackerCall → IssueProgram PUnit
  | .syncOpenIssues identities projectId repo limit options =>
    discard <| service.syncOpenIssues identities projectId repo provider limit options
  | .syncIssueState taskId repo => discard <| service.syncIssueState taskId repo provider
  | .syncIssueMetadata taskId repo => discard <| service.syncIssueMetadata taskId repo provider

def FindsNoHarnessState (service : IssueTaskService)
    (provider : IssueProvider) (store : Store) : TrackerCall → Prop
  | .syncOpenIssues _ _ repo limit _ =>
    ∀ issues, provider.listOpenIssues repo limit = .ok issues →
      ∀ issue ∈ issues, ∀ task, service.issueTask store issue = some task →
        IssueOnly task.externalRefMetadata
  | .syncIssueState taskId repo | .syncIssueMetadata taskId repo =>
    ∀ task refId, service.linkedTask store taskId = .ok (task, refId) →
      ∀ issue, provider.fetchIssue repo refId = .ok issue → IssueOnly task.externalRefMetadata

end TrackerCall

inductive MetadataStep where
  | sync (service : IssueTaskService) (provider : IssueProvider) (call : TrackerCall)
  | harness (change : Store → Store)

namespace MetadataStep

def after (state : IssueState) : MetadataStep → IssueState
  | .sync service provider call => stateOf (call.program service provider state)
  | .harness change => { state with store := change state.store }

def Safe (store : Store) : MetadataStep → Prop
  | .sync service provider call => call.FindsNoHarnessState service provider store
  | .harness _ => True

def LeavesKey (taskId key : String) (state : IssueState) :
    MetadataStep → Prop
  | .sync _ _ _ => True
  | .harness change =>
    harnessValue (change state.store) taskId key = harnessValue state.store taskId key

def Always (condition : IssueState → MetadataStep → Prop) :
    IssueState → List MetadataStep → Prop
  | _, [] => True
  | state, step :: steps => condition state step ∧ Always condition (step.after state) steps

def run (state : IssueState) (steps : List MetadataStep) : IssueState := steps.foldl after state

end MetadataStep

structure HarnessStateKept (taskId : String) (state : IssueState)
    (steps : List MetadataStep) : Prop where
  keys : ∀ key, key ∉ issueKeys →
    MetadataStep.Always (MetadataStep.LeavesKey taskId key) state steps →
      harnessValue (MetadataStep.run state steps).store taskId key =
        harnessValue state.store taskId key
  waived :
    MetadataStep.Always (MetadataStep.LeavesKey taskId "workflow_state_disposition") state steps →
      MetadataStep.Always (MetadataStep.LeavesKey taskId "failed_task_disposition") state steps →
        state.store.Waived taskId → (MetadataStep.run state steps).store.Waived taskId
  applied :
    MetadataStep.Always (MetadataStep.LeavesKey taskId "repo_applyback") state steps →
      state.store.Applied taskId → (MetadataStep.run state steps).store.Applied taskId

/-! ## One synchronization -/

section

variable {service : IssueTaskService}

variable {store : Store} {taskId wanted key : String} {metadata : PyDict}

theorem harnessValue_updateTaskExternalMetadata_other (other : wanted ≠ taskId)
    (metadata : PyDict) (key : String) :
    harnessValue (store.updateTaskExternalMetadata taskId metadata) wanted
        key = harnessValue store wanted key := by
  unfold harnessValue
  rw [getTask_updateTaskExternalMetadata]
  simp [other]

theorem harnessValue_updateTaskExternalMetadata_own
    (described : IssueOnly metadata) (own : key ∉ issueKeys) :
    harnessValue (store.updateTaskExternalMetadata taskId metadata) taskId
        key = none := by
  unfold harnessValue
  rw [getTask_updateTaskExternalMetadata]
  cases store.getTask taskId with
  | none => rfl
  | some _ => simp [lookup_of_issueOnly described own]

theorem harnessValue_updateTaskExternalMetadata (described : IssueOnly metadata)
    (before : ∀ task, store.getTask taskId = some task →
      IssueOnly task.externalRefMetadata) (own : key ∉ issueKeys) :
    harnessValue (store.updateTaskExternalMetadata taskId metadata) wanted
        key = harnessValue store wanted key := by
  by_cases changed : wanted = taskId
  · rw [changed, harnessValue_updateTaskExternalMetadata_own described own]
    unfold harnessValue
    cases stored : store.getTask taskId with
    | none => rfl
    | some task => exact (lookup_of_issueOnly (before task stored) own).symm
  · exact harnessValue_updateTaskExternalMetadata_other changed metadata key

def ReferencesFree (service : IssueTaskService) (issues : List ExternalIssue)
    (store : Store) : Prop :=
  ∀ issue ∈ issues, ∀ task, service.issueTask store issue = some task →
    IssueOnly task.externalRefMetadata

/-- Where the tasks of the issues hold nothing of the harness, this stays so
and no value of the harness changes. -/
def KeepsValues (service : IssueTaskService) (issues : List ExternalIssue)
    (before after : IssueState) : Prop :=
  ReferencesFree service issues before.store → ReferencesFree service issues after.store ∧
      ∀ taskId key, key ∉ issueKeys →
        harnessValue after.store taskId key = harnessValue before.store taskId key

instance (issues : List ExternalIssue) :
    Std.Refl (KeepsValues service issues) where
  refl _ free := ⟨free, fun _ _ _ => rfl⟩

instance (issues : List ExternalIssue) :
    IsTrans IssueState (KeepsValues service issues) where
  trans _ _ _ first second free := by
    obtain ⟨middle, early⟩ := first free
    obtain ⟨left, late⟩ := second middle
    exact ⟨left, fun taskId key own => (late taskId key own).trans (early taskId key own)⟩

theorem harnessValue_of_append
    {after : Store} (placed : after.tasks.rows = before.tasks.rows ++ [task])
    (other : wanted ≠ task.id) (key : String) :
    harnessValue after wanted key = harnessValue before wanted key := by
  unfold harnessValue Store.getTask KeyedTable.lookup
  rw [placed, List.find?_append]
  simp [Ne.symm other]

variable {issue : ExternalIssue} {provider : IssueProvider} {repo : String}

theorem issueOnly_of_written {found : Task} (described : IssueOnly metadata)
    (others : ∀ task, service.issueTask store issue = some task →
      task.id ≠ taskId → IssueOnly task.externalRefMetadata)
    (referenced : service.issueTask
      (store.updateTaskExternalMetadata taskId metadata) issue = some found) :
    IssueOnly found.externalRefMetadata := by
  rw [IssueTaskService.issueTask_updateTaskExternalMetadata] at referenced
  obtain ⟨task, known, rfl⟩ := Option.map_eq_some_iff.mp referenced
  by_cases own : task.id = taskId
  · rw [if_pos own]
    exact described
  · rw [if_neg own]
    exact others task known own

theorem follows_syncIssue {issues : List ExternalIssue} (listed : issue ∈ issues)
    (identities : TaskIdentities)
    (projectId : String) (options : ImportOptions) :
    Follows (KeepsValues service issues)
      (service.syncIssue identities projectId options issue) := by
  intro before
  rcases IssueTaskService.syncIssue_cases identities projectId options issue
    before with ⟨_, raised⟩ | ⟨_, task, imported, returned⟩
  · rw [raised]
    exact refl_of (KeepsValues service issues) before
  · rw [returned]
    intro free
    have described := issue.issueOnly_metadata
    cases imported with
    | found known kept =>
      subst kept
      refine ⟨fun other otherListed stored referenced =>
        issueOnly_of_written described (fun earlier known _ => free other otherListed earlier known)
          referenced, fun taskId key own => ?_⟩
      refine harnessValue_updateTaskExternalMetadata described ?_ own
      intro stored found
      have member := (IssueTaskService.mem_of_issueTask known).1
      have same : before.store.getTask task.id = some task :=
        before.store.tasks.lookup_of_mem member
      rw [same] at found
      cases found
      exact free issue listed task known
    | created _ placed fresh _ _ _ =>
      refine ⟨fun other otherListed stored referenced =>
        issueOnly_of_written described (fun earlier known different => ?_)
          referenced, fun taskId key own => ?_⟩
      · rcases IssueTaskService.issueTask_of_append placed fresh known with
          same | stored
        · exact absurd (congrArg Task.id same) different
        · exact free other otherListed earlier stored
      · by_cases new : taskId = task.id
        · have absent : before.store.getTask task.id = none :=
            before.store.tasks.lookup_eq_none_iff.mpr fresh
          rw [new]
          refine (harnessValue_updateTaskExternalMetadata_own described own).trans ?_
          unfold harnessValue
          rw [absent]
          rfl
        · exact (harnessValue_updateTaskExternalMetadata_other new _
            key).trans (harnessValue_of_append placed new key)

theorem follows_syncIssues (issues : List ExternalIssue) (identities : Nat → TaskIdentities)
    (projectId : String) (options : ImportOptions) (index : Nat)
    {rest : List ExternalIssue} (listed : rest ⊆ issues) :
    Follows (KeepsValues service issues)
      (service.syncIssues identities projectId options index rest) := by
  induction rest generalizing index with
  | nil => exact .returns []
  | cons _ _ ih =>
    obtain ⟨first, others⟩ := List.cons_subset.mp listed
    refine (follows_syncIssue first _ _ _).bind fun task => ?_
    refine (ih (index + 1) others).bind fun tasks => ?_
    exact .returns _

theorem getTask_of_linkedTask {refId : String}
    (linked : service.linkedTask store taskId = .ok (task, refId)) :
    store.getTask taskId = some task ∧ task.id = taskId := by
  unfold IssueTaskService.linkedTask at linked
  split at linked
  · cases linked
  next stored found =>
    dsimp only at linked
    split at linked
    · cases linked
    · cases linked
      exact ⟨found, (store.tasks.lookup_eq_some_iff.mp found).2⟩

def WritesIssue (service : IssueTaskService) (provider : IssueProvider)
    (taskId repo : String) (before after : IssueState) : Prop :=
  after.store = before.store ∨
    ∃ task refId issue, service.linkedTask before.store taskId = .ok (task, refId) ∧
        provider.fetchIssue repo refId = .ok issue ∧
          after.store = before.store.updateTaskExternalMetadata task.id issue.metadata

theorem keeps_storedTask (task : Task) :
    Keeps IssueState.store (IssueTaskService.storedTask task) :=
  Keeps.reads.bind fun _ => .returns _

theorem keeps_recordEvent (taskId eventType : String) (payload : PyDict) :
    Keeps IssueState.store (IssueTaskService.recordEvent taskId eventType payload) :=
  .changes fun _ => rfl

theorem writesIssue_refreshIssue (provider : IssueProvider) (taskId repo : String) :
    Follows (WritesIssue service provider taskId repo)
      (service.refreshIssue taskId repo provider) := by
  intro before
  show WritesIssue service provider taskId repo before
    (stateOf (EStateM.bind (valueOf (service.linkedTask before.store taskId)) _ before))
  cases linked : service.linkedTask before.store taskId with
  | error _ => exact .inl rfl
  | ok pair =>
    obtain ⟨task, refId⟩ := pair
    show WritesIssue service provider taskId repo before
      (stateOf (EStateM.bind (valueOf (provider.fetchIssue repo refId)) _ before))
    cases fetched : provider.fetchIssue repo refId with
    | error _ => exact .inl rfl
    | ok issue => exact .inr ⟨task, refId, issue, linked, fetched, rfl⟩

theorem writesIssue_of_keeps {rest : IssueTaskService.Refreshed → IssueProgram Task}
    (kept : ∀ refreshed, Keeps IssueState.store (rest refreshed)) :
    Follows (WritesIssue service provider taskId repo)
      (service.refreshIssue taskId repo provider >>= rest) := by
  intro before
  have written : WritesIssue service provider taskId repo before
      (stateOf (service.refreshIssue taskId repo provider before)) :=
    writesIssue_refreshIssue provider taskId repo before
  show WritesIssue service provider taskId repo before
    (stateOf (EStateM.bind (service.refreshIssue taskId repo provider) rest before))
  unfold EStateM.bind
  cases ended : service.refreshIssue taskId repo provider before with
  | error _ _ =>
    rw [ended] at written
    exact written
  | ok refreshed middle =>
    rw [ended] at written
    unfold WritesIssue
    rw [kept refreshed middle]
    exact written

theorem writesIssue_syncIssueState (provider : IssueProvider) (taskId repo : String) :
    Follows (WritesIssue service provider taskId repo)
      (service.syncIssueState taskId repo provider) := by
  refine writesIssue_of_keeps fun refreshed => Keeps.reads.bind fun _ => ?_
  refine Keeps.choice (keeps_storedTask _) ?_
  refine (Keeps.value _).bind fun _ => ?_
  refine (keeps_recordEvent _ _ _).bind fun _ => ?_
  exact keeps_storedTask _

theorem writesIssue_syncIssueMetadata (provider : IssueProvider) (taskId repo : String) :
    Follows (WritesIssue service provider taskId repo)
      (service.syncIssueMetadata taskId repo provider) := by
  refine writesIssue_of_keeps fun refreshed => ?_
  refine (keeps_recordEvent _ _ _).bind fun _ => ?_
  exact keeps_storedTask _

theorem harnessValue_of_writesIssue {before after : IssueState}
    (written : WritesIssue service provider taskId repo before after)
    (free : ∀ task refId, service.linkedTask before.store taskId = .ok (task, refId) →
        ∀ issue, provider.fetchIssue repo refId = .ok issue →
          IssueOnly task.externalRefMetadata) (own : key ∉ issueKeys) :
    harnessValue after.store wanted key = harnessValue before.store wanted key := by
  rcases written with kept | ⟨task, refId, issue, linked, fetched, written⟩
  · rw [kept]
  · rw [written]
    refine harnessValue_updateTaskExternalMetadata issue.issueOnly_metadata ?_ own
    intro stored found
    obtain ⟨named, same⟩ := getTask_of_linkedTask linked
    rw [same, named] at found
    cases found
    exact free task refId linked issue fetched

end

theorem stateOf_discard {Result : Type} (program : IssueProgram Result) (before : IssueState) :
    stateOf ((discard program : IssueProgram PUnit) before) = stateOf (program before) := by
  show stateOf (EStateM.map _ program before) = _
  unfold EStateM.map
  cases program before <;> rfl



theorem TrackerCall.harnessValue_stateOf {service : IssueTaskService} {provider : IssueProvider}
    {call : TrackerCall} {state : IssueState}
    (safe : call.FindsNoHarnessState service provider state.store)
    (own : key ∉ issueKeys) :
    harnessValue (stateOf (call.program service provider state)).store taskId
        key = harnessValue state.store taskId key := by
  cases call with
  | syncOpenIssues identities projectId repo limit options =>
    rw [program, stateOf_discard]
    show harnessValue (stateOf (EStateM.bind
      (valueOf (provider.listOpenIssues repo limit)) _ state)).store _ _ = _
    cases listed : provider.listOpenIssues repo limit with
    | error _ => rfl
    | ok issues =>
      exact ((follows_syncIssues issues identities projectId options 0
        (List.Subset.refl issues) state) (safe issues listed)).2 taskId key own
  | syncIssueState named repo =>
    rw [program, stateOf_discard]
    exact harnessValue_of_writesIssue
      (writesIssue_syncIssueState provider named repo state) safe own
  | syncIssueMetadata named repo =>
    rw [program, stateOf_discard]
    exact harnessValue_of_writesIssue
      (writesIssue_syncIssueMetadata provider named repo state) safe own

/-! ## Histories -/

namespace MetadataStep

variable {state : IssueState}

theorem harnessValue_after {step : MetadataStep} (safe : step.Safe state.store)
    (own : key ∉ issueKeys)
    (left : step.LeavesKey taskId key state) :
    harnessValue (step.after state).store taskId key = harnessValue state.store taskId key := by
  cases step with
  | sync _ _ _ => exact TrackerCall.harnessValue_stateOf safe own
  | harness _ => exact left

theorem harnessValue_run {steps : List MetadataStep}
    (safe : Always (fun state step => step.Safe state.store) state steps)
    (own : key ∉ issueKeys)
    (left : Always (LeavesKey taskId key) state steps) :
    harnessValue (run state steps).store taskId key = harnessValue state.store taskId key := by
  induction steps generalizing state with
  | nil => rfl
  | cons _ _ ih =>
    obtain ⟨stepSafe, restSafe⟩ := safe
    obtain ⟨stepLeft, restLeft⟩ := left
    exact (ih restSafe restLeft).trans (harnessValue_after stepSafe own stepLeft)

end MetadataStep

theorem get_eq_lookup (metadata : PyDict) (key : String) :
    metadata.get key = (metadata.lookup key).getD .none := by
  induction metadata with
  | nil => rfl
  | cons entry _ ih =>
    obtain ⟨name, _⟩ := entry
    rw [List.lookup_cons]
    by_cases own : name = key
    · simp [PyDict.get, own]
    · have other : (key == name) = false := beq_eq_false_iff_ne.mpr (Ne.symm own)
      simpa [PyDict.get, own, other] using ih

theorem getTask_of_harnessValue {after : Store} (found : before.getTask taskId = some task)
    (same : harnessValue after taskId key = harnessValue before taskId key)
    (present : task.externalRefMetadata.get key ≠ .none) :
    ∃ later, after.getTask taskId = some later ∧
      later.externalRefMetadata.get key = task.externalRefMetadata.get key := by
  have value : harnessValue before taskId key = task.externalRefMetadata.lookup key := by
    unfold harnessValue
    rw [found]
    rfl
  rw [value] at same
  cases stored : after.getTask taskId with
  | none =>
    unfold harnessValue at same
    rw [stored] at same
    refine absurd ?_ present
    rw [get_eq_lookup, ← same]
    rfl
  | some later =>
    refine ⟨later, rfl, ?_⟩
    unfold harnessValue at same
    rw [stored] at same
    have same : later.externalRefMetadata.lookup key = task.externalRefMetadata.lookup key := same
    rw [get_eq_lookup, get_eq_lookup, same]

theorem present_of_dispositionKind {kind : String} (disposed : task.dispositionKind key =
      kind) (named : kind ≠ "") :
    task.externalRefMetadata.get key ≠ .none := by
  intro absent
  unfold Task.dispositionKind Task.metadataObject at disposed
  rw [absent] at disposed
  exact named disposed.symm

theorem dispositionKind_congr {later : Task}
    (same : later.externalRefMetadata.get key = task.externalRefMetadata.get key) :
    later.dispositionKind key = task.dispositionKind key := by
  unfold Task.dispositionKind Task.metadataObject
  rw [same]

theorem waived_of_harnessValue {after : Store}
    (ignored : harnessValue after taskId "workflow_state_disposition" =
      harnessValue before taskId "workflow_state_disposition")
    (failed : harnessValue after taskId "failed_task_disposition" =
      harnessValue before taskId "failed_task_disposition")
    (waived : before.Waived taskId) : after.Waived taskId := by
  obtain ⟨_, found, obsolete | obsolete⟩ := waived
  · obtain ⟨later, stored, same⟩ := getTask_of_harnessValue found ignored
      (present_of_dispositionKind obsolete (by decide))
    exact ⟨later, stored, .inl ((dispositionKind_congr same).trans obsolete)⟩
  · obtain ⟨later, stored, same⟩ := getTask_of_harnessValue found failed
      (present_of_dispositionKind obsolete (by decide))
    exact ⟨later, stored, .inr ((dispositionKind_congr same).trans obsolete)⟩

theorem applied_of_harnessValue {after : Store}
    (marked : harnessValue after taskId "repo_applyback" =
      harnessValue before taskId "repo_applyback")
    (applied : before.Applied taskId) : after.Applied taskId := by
  obtain ⟨task, found, mark⟩ := applied
  have present : task.externalRefMetadata.get "repo_applyback" ≠ .none := by
    intro absent
    unfold PromotionMixin.taskRepoApplied at mark
    rw [absent] at mark
    revert mark
    decide
  obtain ⟨later, stored, same⟩ := getTask_of_harnessValue found marked present
  refine ⟨later, stored, ?_⟩
  unfold PromotionMixin.taskRepoApplied at mark ⊢
  rw [same]
  exact mark

/-- In a history whose synchronizations meet no state of the harness in the
tasks that they write to, no value of the harness is removed or changed by
them: waived tasks stay waived and applied ones stay applied. -/
theorem harnessStateKept_of_safe {state : IssueState} {steps : List MetadataStep}
    (safe : MetadataStep.Always (fun state step => step.Safe state.store) state steps)
    (taskId : String) : HarnessStateKept taskId state steps where
  keys _ own left := MetadataStep.harnessValue_run safe own left
  waived ignored failed :=
    waived_of_harnessValue (MetadataStep.harnessValue_run safe (by decide) ignored)
      (MetadataStep.harnessValue_run safe (by decide) failed)
  applied left := applied_of_harnessValue (MetadataStep.harnessValue_run safe (by decide) left)

/-! ## A waiver that a synchronization removes -/

def trackerOf (issue : ExternalIssue) : IssueProvider where
  fetchIssue := fun _ _ => .ok issue
  listOpenIssues := fun _ _ => .ok [issue]
  closeIssue := fun _ _ => .ok ⟨⟩
  reopenIssue := fun _ _ => .ok ⟨⟩

def openIssue : ExternalIssue where
  issueId := "456"
  title := "Runner fails"
  body := ""
  state := "open"
  url := ""

def linkedState : IssueState where
  store :=
    { tasks := .single
        { id := "task", projectId := "project", externalRefType := some "github_issue"
          externalRefId := some "456", externalRefMetadata := openIssue.metadata
          status := .failed } }

def waiveTask (store : Store) : Store :=
  ((TaskService.applyFailedTaskDisposition
    { taskId := "new", planId := "plan", now := 0, nonNegotiables := fun _ => none } store
    { taskId := "task", disposition := .waiveObsolete }).toOption.map
      Prod.fst).getD store

def syncTask : MetadataStep :=
  .sync gitHubTaskService (trackerOf openIssue) (.syncIssueMetadata "task" "owner/repo")

theorem harnessState_kept_before_waiver :
    HarnessStateKept "task" linkedState [syncTask, .harness waiveTask] := by
  refine @harnessStateKept_of_safe linkedState [syncTask, .harness waiveTask]
    ⟨?_, trivial, trivial⟩ "task"
  intro task refId linked issue fetched
  cases linked
  exact openIssue.issueOnly_metadata

/-- A synchronization after the waiver removes it. -/
theorem waiver_lost :
    ¬ ∀ (state : IssueState) (steps : List MetadataStep) (taskId : String),
      HarnessStateKept taskId state steps := by
  intro claim
  have waived : (waiveTask linkedState.store).Waived "task" := ⟨_, rfl, .inr (by decide +kernel)⟩
  obtain ⟨task, found, disposed⟩ :=
    (claim { linkedState with store := waiveTask linkedState.store } [syncTask]
      "task").waived ⟨trivial, trivial⟩ ⟨trivial, trivial⟩ waived
  cases found
  revert disposed
  decide +kernel

end AccruviaHarness
