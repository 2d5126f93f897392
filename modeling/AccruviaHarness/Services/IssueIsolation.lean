import AccruviaHarness.Services.IssueService

/-!
# Imports of several projects

Issue numbers are unique in one repository only, and the reference of a task
names neither the repository nor the project.
-/

namespace AccruviaHarness

open Library List

inductive ImportRequest where
  | importIssue (identities : TaskIdentities) (issue : ExternalIssue) (options : ImportOptions)
  | syncOpenIssues (identities : Nat → TaskIdentities)
      (provider : IssueProvider) (limit : Int) (options : ImportOptions)

structure ImportCall where
  service : IssueTaskService
  projectId : String
  repo : String
  request : ImportRequest

namespace ImportCall

def issues (call : ImportCall) : List ExternalIssue :=
  match call.request with
  | .importIssue _ issue _ => [issue]
  | .syncOpenIssues _ provider limit _ =>
    match provider.listOpenIssues call.repo limit with
    | .ok issues => issues
    | .error _ => []

def program (call : ImportCall) : IssueProgram (List Task) :=
  match call.request with
  | .importIssue identities issue options => do
      let task ← call.service.importIssue identities call.projectId issue options
      return [task]
  | .syncOpenIssues identities provider limit options =>
    call.service.syncOpenIssues identities call.projectId call.repo provider limit options

end ImportCall

structure ReturnedTask where
  refType : String
  projectId : String
  repo : String
  issueId : String
  task : Task

/-- A state with what has led to it: the repository of the issue that each
task was created from, and the tasks returned. -/
structure ImportHistory where
  state : IssueState
  repoOf : List (String × String) := []
  returned : List ReturnedTask := []

def newTasks (before after : Store) : List Task :=
  after.tasks.rows.filter fun task => (before.getTask task.id).isNone

namespace ImportCall

def returnedTasks (call : ImportCall) (tasks : List Task) : List ReturnedTask :=
  (call.issues.zip tasks).map fun pair =>
    { refType := call.service.refType, projectId := call.projectId, repo := call.repo
      issueId := pair.1.issueId, task := pair.2 }

def returnedBy (call : ImportCall) :
    EStateM.Result PyError IssueState (List Task) → List ReturnedTask
  | .ok tasks _ => call.returnedTasks tasks
  | .error _ _ => []

variable (history : ImportHistory)

def after (call : ImportCall) : ImportHistory :=
  let result := call.program history.state
  { state := stateOf result
    repoOf :=
      history.repoOf ++ (newTasks history.state.store (stateOf result).store).map
          fun task => (task.id, call.repo)
    returned := history.returned ++ call.returnedBy result }

def LeavesOthers (call : ImportCall) : Prop :=
  ∀ task : Task, task.projectId ≠ call.projectId →
    (task ∈ (call.after history).state.store.tasks.rows ↔ task ∈ history.state.store.tasks.rows)

end ImportCall

namespace ImportHistory

def start (state : IssueState) : ImportHistory where
  state

def run (history : ImportHistory) (calls : List ImportCall) : ImportHistory :=
  calls.foldl ImportCall.after history

/-- Every returned task is one of the project that asked for it, created from
an issue of the repository with the id, and a second import of an issue into a
project returns the same task. -/
structure Isolated (history : ImportHistory) : Prop where
  owned : ∀ entry ∈ history.returned,
    entry.task.projectId = entry.projectId ∧
      entry.task.externalRefId = some entry.issueId ∧ (entry.task.id, entry.repo) ∈ history.repoOf
  once : ∀ first ∈ history.returned, ∀ second ∈ history.returned,
    first.refType = second.refType → first.projectId = second.projectId →
      first.repo = second.repo → first.issueId = second.issueId →
        first.task.id = second.task.id

end ImportHistory

/-- Issues of one reference are taken in by one project from one repository
only, and every issue has an id. -/
structure SeparateReferences (calls : List ImportCall) : Prop where
  named : ∀ call ∈ calls, call.service.refType ≠ "" ∧ ∀ issue ∈ call.issues, issue.issueId ≠ ""
  separate : ∀ first ∈ calls, ∀ second ∈ calls,
    first.service.refType = second.service.refType →
      ∀ issue ∈ first.issues, ∀ other ∈ second.issues,
        issue.issueId = other.issueId →
          first.projectId = second.projectId ∧ first.repo = second.repo

def NoReferences (calls : List ImportCall) (store : Store) : Prop :=
  ∀ call ∈ calls, ∀ task ∈ store.tasks.rows, task.externalRefType ≠ some call.service.refType

/-! ## What imports do to the table of tasks -/

def SameTask (task later : Task) : Prop :=
  ∃ externalRefMetadata, later = { task with externalRefMetadata }

theorem SameTask.rfl {task : Task} : SameTask task task := ⟨task.externalRefMetadata, Eq.refl task⟩

theorem SameTask.trans {first second third : Task} (early : SameTask first second)
    (late : SameTask second third) : SameTask first third := by
  obtain ⟨_, rfl⟩ := early
  obtain ⟨metadata, rfl⟩ := late
  exact ⟨metadata, Eq.refl _⟩

def Belongs (service : IssueTaskService) (projectId : String)
    (issues : List ExternalIssue) (store : Store) : Prop :=
  ∀ task ∈ store.tasks.rows, task.externalRefType = some service.refType →
    ∀ issue ∈ issues, task.externalRefId = some issue.issueId →
      task.projectId = projectId

def UniqueReferences (refType : String) (store : Store) : Prop :=
  ∀ task ∈ store.tasks.rows, ∀ other ∈ store.tasks.rows,
    task.externalRefType = some refType →
      other.externalRefType = some refType →
        task.externalRefId = other.externalRefId → task.id = other.id

/-- The tasks of the table are still there, and the other ones are new tasks
of the project for the issues. -/
structure ProjectImport (service : IssueTaskService) (projectId : String)
    (issues : List ExternalIssue) (before after : Store) : Prop where
  kept : ∀ task ∈ before.tasks.rows, ∃ later ∈ after.tasks.rows, SameTask task later
  added : ∀ later ∈ after.tasks.rows, (∃ task ∈ before.tasks.rows, SameTask task later) ∨
      (∀ task ∈ before.tasks.rows, task.id ≠ later.id) ∧
        later.projectId = projectId ∧
          later.externalRefType = some service.refType ∧
            ∃ issue ∈ issues, later.externalRefId = some issue.issueId
  others : Belongs service projectId issues before → ∀ task : Task, task.projectId ≠ projectId →
      (task ∈ after.tasks.rows ↔ task ∈ before.tasks.rows)
  unique : ∀ refType, UniqueReferences refType before → UniqueReferences refType after

namespace ProjectImport

variable {service : IssueTaskService} {projectId : String}
  {issues : List ExternalIssue}

theorem belongs {before after : Store}
    (imports : ProjectImport service projectId issues before after)
    (belonged : Belongs service projectId issues before) :
    Belongs service projectId issues after := by
  intro later member refType issue listed refId
  rcases imports.added later member with
    ⟨task, stored, _, rfl⟩ | ⟨_, owned, _⟩
  · exact belonged task stored refType issue listed refId
  · exact owned

theorem refl (store : Store) :
    ProjectImport service projectId issues store store where
  kept task member := ⟨task, member, .rfl⟩
  added later member := .inl ⟨later, member, .rfl⟩
  others _ _ _ := .rfl
  unique _ unique := unique

theorem trans {before middle after : Store}
    (early : ProjectImport service projectId issues before middle)
    (late : ProjectImport service projectId issues middle after) :
    ProjectImport service projectId issues before after where
  kept task member := by
    obtain ⟨between, placed, first⟩ := early.kept task member
    obtain ⟨later, found, second⟩ := late.kept between placed
    exact ⟨later, found, first.trans second⟩
  added later member := by
    rcases late.added later member with
      ⟨between, placed, second⟩ | ⟨fresh, owned, refType, refId⟩
    · rcases early.added between placed with
        ⟨task, stored, first⟩ | ⟨fresh, owned, refType, refId⟩
      · exact .inl ⟨task, stored, first.trans second⟩
      · obtain ⟨_, rfl⟩ := second
        exact .inr ⟨fresh, owned, refType, refId⟩
    · refine .inr ⟨fun task stored same => ?_, owned, refType, refId⟩
      obtain ⟨_, placed, _, rfl⟩ := early.kept task stored
      exact fresh _ placed same
  others belonged task foreign :=
    (late.others (early.belongs belonged) task foreign).trans (early.others belonged task foreign)
  unique refType unique := late.unique refType (early.unique refType unique)

end ProjectImport

section

variable {service : IssueTaskService} {projectId : String}
  {issues : List ExternalIssue} {issue : ExternalIssue}

variable {before : Store} {task : Task} {options : ImportOptions}

theorem placed_of_imported {after : Store}
    (imported : IssueTaskService.Imported service projectId issue before after task) :
    task ∈ after.tasks.rows ∧
      task.externalRefType = some service.refType ∧
        task.externalRefId = some issue.issueId := by
  cases imported with
  | found known kept =>
    subst kept
    exact IssueTaskService.mem_of_issueTask known
  | created _ placed _ _ refType refId =>
    rw [placed]
    exact ⟨mem_append_right _ mem_cons_self, refType, refId⟩

variable {store : Store} {identities : TaskIdentities}
  {rest : List ExternalIssue}

theorem unreferenced_of_issueTask (named : service.refType ≠ "" ∧ issue.issueId ≠ "")
    (unknown : service.issueTask store issue = none)
    (member : task ∈ store.tasks.rows)
    (refType : task.externalRefType = some service.refType) :
    task.externalRefId ≠ some issue.issueId := by
  intro refId
  unfold IssueTaskService.issueTask Store.getTaskByExternalRef at unknown
  rw [if_pos named, head?_eq_none_iff, orderBy_eq_nil_iff, filter_eq_nil_iff] at unknown
  exact unknown task member (by simp [refType, refId])

theorem projectImport_of_imported (listed : issue ∈ issues)
    (named : service.refType ≠ "" ∧ issue.issueId ≠ "")
    {after : Store}
    (imported : IssueTaskService.Imported service projectId issue before after task) :
    ProjectImport service projectId issues before after := by
  cases imported with
  | found _ kept =>
    subst kept
    exact .refl _
  | created unknown placed fresh owned refType refId =>
    have member {stored : Task} : stored ∈ after.tasks.rows ↔
        stored ∈ before.tasks.rows ∨ stored = task := by
      rw [placed, mem_append, mem_singleton]
    constructor
    · exact fun stored earlier => ⟨stored, member.mpr (.inl earlier), .rfl⟩
    · intro later found
      rcases member.mp found with earlier | rfl
      · exact .inl ⟨later, earlier, .rfl⟩
      · exact .inr ⟨fresh, owned, refType, issue, listed, refId⟩
    · intro _ stored foreign
      rw [member]
      exact or_iff_left fun same => foreign (same ▸ owned)
    · intro other unique first firstFound second secondFound firstType secondType same
      rcases member.mp firstFound with firstEarlier | rfl
      · rcases member.mp secondFound with secondEarlier | rfl
        · exact unique first firstEarlier second secondEarlier firstType secondType same
        · rw [refType] at secondType
          cases secondType
          exact absurd (same.trans refId)
            (unreferenced_of_issueTask named unknown firstEarlier firstType)
      · rcases member.mp secondFound with secondEarlier | rfl
        · rw [refType] at firstType
          cases firstType
          exact absurd (same.symm.trans refId)
            (unreferenced_of_issueTask named unknown secondEarlier secondType)
        · rfl

theorem projectImport_of_write (listed : issue ∈ issues) (member : task ∈ store.tasks.rows)
    (refType : task.externalRefType = some service.refType)
    (refId : task.externalRefId = some issue.issueId) (metadata : PyDict) :
    ProjectImport service projectId issues store
      (store.updateTaskExternalMetadata task.id metadata) := by
  have written {later : Task} :
      later ∈ (store.updateTaskExternalMetadata task.id metadata).tasks.rows ↔
      ∃ earlier ∈ store.tasks.rows,
        (if earlier.id = task.id then { earlier with externalRefMetadata := metadata }
        else earlier) = later :=
    KeyedTable.mem_updateAt
  have same (earlier : Task) : SameTask earlier
      (if earlier.id = task.id then { earlier with externalRefMetadata := metadata }
      else earlier) := by
    split
    · exact ⟨metadata, rfl⟩
    · exact .rfl
  constructor
  · exact fun earlier stored => ⟨_, written.mpr ⟨earlier, stored, rfl⟩, same earlier⟩
  · intro later found
    obtain ⟨earlier, stored, rfl⟩ := written.mp found
    exact .inl ⟨earlier, stored, same earlier⟩
  · intro belonged other foreign
    have owned := belonged task member refType issue listed refId
    constructor
    · intro found
      obtain ⟨earlier, stored, rfl⟩ := written.mp found
      by_cases own : earlier.id = task.id
      · have changed := store.tasks.eq_of_key_eq stored member own
        rw [if_pos own] at foreign
        exact absurd (changed ▸ owned) foreign
      · rw [if_neg own]
        exact stored
    · intro stored
      refine written.mpr ⟨other, stored, if_neg fun own => ?_⟩
      exact foreign (store.tasks.eq_of_key_eq stored member own ▸ owned)
  · intro other unique first firstFound second secondFound
    obtain ⟨earlier, stored, rfl⟩ := written.mp firstFound
    obtain ⟨another, alsoStored, rfl⟩ := written.mp secondFound
    obtain ⟨_, firstSame⟩ := same earlier
    obtain ⟨_, secondSame⟩ := same another
    rw [firstSame, secondSame]
    exact unique earlier stored another alsoStored

structure Placed (service : IssueTaskService) (store : Store)
    (issue : ExternalIssue) (task : Task) : Prop where
  refId : task.externalRefId = some issue.issueId
  stored : ∃ row ∈ store.tasks.rows, row.id = task.id ∧
    row.projectId = task.projectId ∧
      row.externalRefType = some service.refType ∧
        row.externalRefId = some issue.issueId

theorem Placed.mono {after : Store} (placed : Placed service before issue task)
    (imports : ProjectImport service projectId issues before after) :
    Placed service after issue task := by
  obtain ⟨refId, row, member, facts⟩ := placed
  obtain ⟨_, found, _, rfl⟩ := imports.kept row member
  exact ⟨refId, _, found, facts⟩

def Imports (service : IssueTaskService) (projectId : String)
    (issues : List ExternalIssue) (before after : IssueState) : Prop :=
  ProjectImport service projectId issues before.store after.store

instance : Std.Refl (Imports service projectId issues) where
  refl state := ProjectImport.refl state.store

instance : IsTrans IssueState (Imports service projectId issues) where
  trans _ _ _ early late := ProjectImport.trans early late

theorem follows_importIssue (listed : issue ∈ issues)
    (named : service.refType ≠ "" ∧ issue.issueId ≠ "")
    (identities : TaskIdentities) (options : ImportOptions) :
    Follows (Imports service projectId issues)
      (service.importIssue identities projectId issue options) := by
  intro before
  rcases IssueTaskService.importIssue_cases identities projectId options issue
    before with ⟨_, raised⟩ | ⟨_, _, imported, returned⟩
  · rw [raised]
    exact ProjectImport.refl before.store
  · rw [returned]
    exact projectImport_of_imported listed named imported

theorem placed_importIssue {before after : IssueState}
    (returned : service.importIssue identities projectId issue options before =
      .ok task after) : Placed service after.store issue task := by
  rcases IssueTaskService.importIssue_cases identities projectId options issue
    before with ⟨_, raised⟩ | ⟨_, _, imported, other⟩
  · rw [raised] at returned
    cases returned
  · rw [other] at returned
    cases returned
    obtain ⟨member, refType, refId⟩ := placed_of_imported imported
    exact ⟨refId, task, member, rfl, rfl, refType, refId⟩

theorem follows_syncOne (listed : issue ∈ issues)
    (named : service.refType ≠ "" ∧ issue.issueId ≠ "")
    (identities : TaskIdentities) (options : ImportOptions) :
    Follows (Imports service projectId issues)
      (service.syncIssue identities projectId options issue) := by
  intro before
  rcases IssueTaskService.syncIssue_cases identities projectId options issue
    before with ⟨_, raised⟩ | ⟨_, _, imported, returned⟩
  · rw [raised]
    exact ProjectImport.refl before.store
  · rw [returned]
    obtain ⟨member, refType, refId⟩ := placed_of_imported imported
    exact (projectImport_of_imported listed named imported).trans
      (projectImport_of_write listed member refType refId issue.metadata)

theorem placed_syncIssue {before after : IssueState}
    (returned : service.syncIssue identities projectId options issue before =
      .ok task after) : Placed service after.store issue task := by
  rcases IssueTaskService.syncIssue_cases identities projectId options issue
    before with ⟨_, raised⟩ | ⟨middle, imported, outcome, other⟩
  · rw [raised] at returned
    cases returned
  · rw [other] at returned
    cases returned
    obtain ⟨member, refType, refId⟩ := placed_of_imported outcome
    have found : middle.getTask imported.id = some imported := middle.tasks.lookup_of_mem member
    have written : (middle.updateTaskExternalMetadata imported.id
        issue.metadata).getTask imported.id =
          some { imported with externalRefMetadata := issue.metadata } := by
      rw [getTask_updateTaskExternalMetadata, found, Option.map_some, if_pos rfl]
    rw [written]
    exact ⟨refId, _, (KeyedTable.lookup_eq_some_iff _).mp written |>.1, rfl,
      rfl, refType, refId⟩

theorem follows_syncAll (named : service.refType ≠ "" ∧ ∀ issue ∈ issues, issue.issueId ≠ "")
    (identities : Nat → TaskIdentities) (options : ImportOptions)
    (index : Nat) (listed : rest ⊆ issues) :
    Follows (Imports service projectId issues)
      (service.syncIssues identities projectId options index rest) := by
  induction rest generalizing index with
  | nil => exact .returns []
  | cons issue _ ih =>
    obtain ⟨first, others⟩ := cons_subset.mp listed
    refine (follows_syncOne first ⟨named.1, named.2 issue first⟩ _ _).bind fun task => ?_
    refine (ih (index + 1) others).bind fun tasks => ?_
    exact .returns _

theorem placed_syncIssues (named : service.refType ≠ "" ∧ ∀ issue ∈ issues, issue.issueId ≠ "")
    {identities : Nat → TaskIdentities} {index : Nat} (listed : rest ⊆ issues)
    {before after : IssueState} {tasks : List Task}
    (returned : service.syncIssues identities projectId options index rest
      before = .ok tasks after) :
    List.Forall₂ (Placed service after.store) rest tasks := by
  induction rest generalizing index before tasks with
  | nil =>
    cases returned
    exact .nil
  | cons _ rest ih =>
    obtain ⟨_, others⟩ := cons_subset.mp listed
    obtain ⟨_, middle, synced, returned⟩ := ok_of_bind returned
    obtain ⟨_, _, rested, returned⟩ := ok_of_bind returned
    cases returned
    have imports : Imports service projectId issues middle
        (stateOf (service.syncIssues identities projectId options (index + 1) rest middle)) :=
      follows_syncAll named identities options (index + 1) others middle
    rw [rested] at imports
    exact .cons ((placed_syncIssue synced).mono imports) (ih others rested)

end

/-! ## Histories of imports -/

namespace ImportCall

variable {call : ImportCall}

theorem follows_program (named : call.service.refType ≠ "" ∧
      ∀ issue ∈ call.issues, issue.issueId ≠ "") :
    Follows (Imports call.service call.projectId call.issues)
      call.program := by
  obtain ⟨service, projectId, repo, request⟩ := call
  cases request with
  | importIssue identities issue options =>
    have listed : issue ∈ [issue] := mem_singleton.mpr rfl
    exact (follows_importIssue listed ⟨named.1, named.2 issue listed⟩
      identities options).bind fun task => .returns [task]
  | syncOpenIssues identities provider limit options =>
    intro before
    unfold issues at named ⊢
    dsimp only at named ⊢
    show Imports service projectId _ before (stateOf (EStateM.bind
      (valueOf (provider.listOpenIssues repo limit)) _ before))
    cases listed : provider.listOpenIssues repo limit with
    | error _ => exact ProjectImport.refl before.store
    | ok issues =>
      rw [listed] at named
      exact follows_syncAll named identities options 0 (List.Subset.refl issues) before

theorem placed_of_program (named : call.service.refType ≠ "" ∧
      ∀ issue ∈ call.issues, issue.issueId ≠ "")
    {before after : IssueState} {tasks : List Task}
    (returned : call.program before = .ok tasks after) :
    List.Forall₂ (Placed call.service after.store) call.issues tasks := by
  obtain ⟨service, projectId, repo, request⟩ := call
  cases request with
  | importIssue _ _ _ =>
    obtain ⟨_, middle, imported, returned⟩ := ok_of_bind returned
    cases returned
    exact .cons (placed_importIssue imported) .nil
  | syncOpenIssues identities provider limit options =>
    have synced : service.syncOpenIssues identities projectId repo provider
        limit options before = .ok tasks after := returned
    obtain ⟨issues, _, listed, rest⟩ := ok_of_bind synced
    obtain ⟨rfl, answered⟩ := ok_of_valueOf listed
    unfold ImportCall.issues at named ⊢
    dsimp only at named answered ⊢
    rw [answered] at named ⊢
    exact placed_syncIssues named (List.Subset.refl issues) rest

end ImportCall

structure Recorded (calls : List ImportCall) (history : ImportHistory) :
    Prop where
  origin : ∀ call ∈ calls, ∀ task ∈ history.state.store.tasks.rows,
    task.externalRefType = some call.service.refType →
      ∃ source ∈ calls, source.service.refType = call.service.refType ∧
        task.projectId = source.projectId ∧ (task.id, source.repo) ∈ history.repoOf ∧
            ∃ issue ∈ source.issues, task.externalRefId = some issue.issueId
  unique : ∀ call ∈ calls, UniqueReferences call.service.refType history.state.store
  returned : ∀ entry ∈ history.returned,
    entry.task.projectId = entry.projectId ∧
      entry.task.externalRefId = some entry.issueId ∧ (entry.task.id, entry.repo) ∈ history.repoOf ∧
          (∃ call ∈ calls, call.service.refType = entry.refType) ∧
            ∃ row ∈ history.state.store.tasks.rows, row.id = entry.task.id ∧
              row.externalRefType = some entry.refType ∧
                row.externalRefId = some entry.issueId

section

variable {calls : List ImportCall} {history : ImportHistory}
  {call : ImportCall}

theorem recorded_start {state : IssueState} (unreferenced : NoReferences calls state.store) :
    Recorded calls (ImportHistory.start state) where
  origin call member task stored refType := absurd refType (unreferenced call member task stored)
  unique call member task stored _ _ refType :=
    absurd refType (unreferenced call member task stored)
  returned _ member := absurd member not_mem_nil

theorem isolated_of_recorded (recorded : Recorded calls history) :
    history.Isolated where
  owned entry member := by
    obtain ⟨owned, refId, origin, _⟩ := recorded.returned entry member
    exact ⟨owned, refId, origin⟩
  once first firstMember second secondMember refType _ _ issueId := by
    obtain ⟨_, _, _, ⟨call, listed, ofCall⟩, row, stored, own, rowType,
      rowId⟩ := recorded.returned first firstMember
    obtain ⟨_, _, _, _, other, otherStored, otherOwn, otherType, otherId⟩ :=
      recorded.returned second secondMember
    rw [← own, ← otherOwn]
    refine recorded.unique call listed row stored other otherStored ?_ ?_ ?_
    · rw [ofCall]
      exact rowType
    · rw [ofCall, refType]
      exact otherType
    · rw [rowId, otherId, issueId]

theorem belongs_of_recorded (separate : SeparateReferences calls) (member : call ∈ calls)
    (recorded : Recorded calls history) :
    Belongs call.service call.projectId call.issues history.state.store := by
  intro task stored refType issue listed refId
  obtain ⟨source, sourceMember, sameType, owned, _, other, otherListed,
    otherId⟩ := recorded.origin call member task stored refType
  rw [refId] at otherId
  obtain ⟨sameProject, _⟩ := separate.separate source sourceMember call member
    sameType other otherListed issue listed (Option.some.inj otherId).symm
  exact owned.trans sameProject

theorem recorded_after (separate : SeparateReferences calls) (member : call ∈ calls)
    (recorded : Recorded calls history) :
    Recorded calls (call.after history) := by
  have named := separate.named call member
  have imports : ProjectImport call.service call.projectId call.issues
      history.state.store (call.after history).state.store :=
    ImportCall.follows_program named history.state
  have belonged := imports.belongs (belongs_of_recorded separate member recorded)
  have earlierRepos {row : String × String} (found : row ∈ history.repoOf) :
      row ∈ (call.after history).repoOf := mem_append_left _ found
  have origin : ∀ other ∈ calls,
      ∀ task ∈ (call.after history).state.store.tasks.rows,
        task.externalRefType = some other.service.refType →
          ∃ source ∈ calls,
            source.service.refType = other.service.refType ∧
              task.projectId = source.projectId ∧
                (task.id, source.repo) ∈ (call.after history).repoOf ∧
                  ∃ issue ∈ source.issues,
                    task.externalRefId = some issue.issueId := by
    intro other otherMember task stored refType
    rcases imports.added task stored with
      ⟨earlier, earlierStored, _, rfl⟩ | ⟨fresh, owned, ownType, issue, listed, refId⟩
    · obtain ⟨source, sourceMember, sameType, owned, repo, issue⟩ :=
        recorded.origin other otherMember earlier earlierStored refType
      exact ⟨source, sourceMember, sameType, owned, earlierRepos repo, issue⟩
    · rw [ownType] at refType
      refine ⟨call, member, Option.some.inj refType, owned, ?_, issue, listed, refId⟩
      refine mem_append_right _ (mem_map.mpr ⟨task, ?_, rfl⟩)
      have absent : history.state.store.getTask task.id = none :=
        history.state.store.tasks.lookup_eq_none_iff.mpr fresh
      exact mem_filter.mpr ⟨stored, by rw [absent]; rfl⟩
  refine ⟨origin, fun other otherMember => imports.unique _ (recorded.unique other otherMember), ?_⟩
  intro entry entryMember
  rcases mem_append.mp entryMember with early | new
  · obtain ⟨owned, refId, repo, known, row, stored, own, rowType, rowId⟩ :=
      recorded.returned entry early
    obtain ⟨_, found, _, rfl⟩ := imports.kept row stored
    exact ⟨owned, refId, earlierRepos repo, known, _, found, own, rowType, rowId⟩
  · cases ended : call.program history.state with
    | error _ _ =>
      rw [ended] at new
      cases new
    | ok _ final =>
      rw [ended] at new
      obtain ⟨⟨issue, _⟩, paired, rfl⟩ := mem_map.mp new
      have placed := forall₂_zip (ImportCall.placed_of_program named ended) paired
      obtain ⟨refId, row, stored, own, sameProject, rowType, rowId⟩ := placed
      have final_eq : (call.after history).state = final := by
        show stateOf (call.program history.state) = final
        rw [ended]
        rfl
      rw [← final_eq] at stored
      have listed := (of_mem_zip paired).1
      have owned := belonged row stored rowType issue listed rowId
      obtain ⟨source, sourceMember, sameType, _, repo, other, otherListed,
        otherId⟩ := origin call member row stored rowType
      rw [rowId] at otherId
      obtain ⟨_, sameRepo⟩ := separate.separate source sourceMember call
        member sameType other otherListed issue listed (Option.some.inj otherId).symm
      rw [own, sameRepo] at repo
      exact ⟨sameProject.symm.trans owned, refId, repo, ⟨call, member, rfl⟩,
        row, stored, own, rowType, rowId⟩

theorem leavesOthers_of_recorded (separate : SeparateReferences calls) (member : call ∈ calls)
    (recorded : Recorded calls history) : call.LeavesOthers history :=
  (ImportCall.follows_program (separate.named call member)
    history.state).others (belongs_of_recorded separate member recorded)

theorem recorded_run (separate : SeparateReferences calls) (recorded : Recorded calls history)
    {steps : List ImportCall} (listed : steps ⊆ calls) :
    Recorded calls (history.run steps) := by
  induction steps generalizing history with
  | nil => exact recorded
  | cons _ _ ih =>
    obtain ⟨first, others⟩ := cons_subset.mp listed
    exact ih (recorded_after separate first recorded) others

end

/-- Where the references of the issues are separate, every state that a
history of imports reaches is isolated, and every call leaves the tasks of
other projects as they are. -/
theorem imports_isolated {calls : List ImportCall} (separate : SeparateReferences calls)
    {state : IssueState} (unreferenced : NoReferences calls state.store) :
    (∀ earlier later, calls = earlier ++ later →
        ((ImportHistory.start state).run earlier).Isolated) ∧
      ∀ earlier call later, calls = earlier ++ call :: later →
        call.LeavesOthers ((ImportHistory.start state).run earlier) := by
  have reached {earlier : List ImportCall} (listed : earlier ⊆ calls) :
      Recorded calls ((ImportHistory.start state).run earlier) :=
    recorded_run separate (recorded_start unreferenced) listed
  constructor
  · intro earlier later split
    refine isolated_of_recorded (reached ?_)
    rw [split]
    exact subset_append_left earlier later
  · intro earlier call later split
    refine leavesOthers_of_recorded separate ?_ (reached ?_)
    · rw [split]
      exact mem_append_right _ mem_cons_self
    · rw [split]
      exact subset_append_left earlier _

/-! ## Two repositories with an issue of one number -/

def identitiesOf (taskId : String) : TaskIdentities where
  taskId
  planId := "plan"
  now := 0
  nonNegotiables := fun _ => none

def issueOf (issueId : String) : ExternalIssue where
  issueId
  title := "Runner fails"
  body := ""
  state := "open"
  url := ""

def twoProjects (first second : String) : List ImportCall :=
  [{ service := gitHubTaskService, projectId := "alpha", repo := "owner/alpha"
     request := .importIssue (identitiesOf "first") (issueOf first) {} },
    { service := gitHubTaskService, projectId := "beta", repo := "owner/beta"
      request := .syncOpenIssues (fun _ => identitiesOf "second")
        { fetchIssue := fun _ _ => .ok (issueOf second)
          listOpenIssues := fun _ _ => .ok [issueOf second]
          closeIssue := fun _ _ => .ok ⟨⟩
          reopenIssue := fun _ _ => .ok ⟨⟩ } 50 {} }]

theorem noReferences_empty (calls : List ImportCall) : NoReferences calls {} :=
  fun _ _ _ member => absurd member not_mem_nil

theorem two_numbers_isolated :
    ((ImportHistory.start { store := {} }).run (twoProjects "1" "2")).Isolated := by
  have separate : SeparateReferences (twoProjects "1" "2") :=
    { named := by decide +kernel
      separate := by decide +kernel }
  exact (@imports_isolated _ separate { store := {} }
    (noReferences_empty _)).1 _ [] (append_nil _).symm

/-- The second project gets the task of the first one. -/
theorem one_number_mixed :
    ¬ ∀ (calls : List ImportCall) (state : IssueState), NoReferences calls state.store →
        (∀ earlier later, calls = earlier ++ later →
            ((ImportHistory.start state).run earlier).Isolated) ∧
          ∀ earlier call later, calls = earlier ++ call :: later →
            call.LeavesOthers ((ImportHistory.start state).run earlier) := by
  intro claim
  have isolated := (claim (twoProjects "1" "1") { store := {} }
    (noReferences_empty _)).1 _ [] (append_nil _).symm
  have foreign : (((ImportHistory.start { store := {} }).run
      (twoProjects "1" "1")).returned.any fun entry =>
        entry.task.projectId ≠ entry.projectId) = true := by
    decide +kernel
  obtain ⟨entry, member, different⟩ := any_eq_true.mp foreign
  exact of_decide_eq_true different (isolated.owned entry member).1

end AccruviaHarness
