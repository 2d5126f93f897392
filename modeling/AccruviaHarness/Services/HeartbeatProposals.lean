import Mathlib.Algebra.Order.BigOperators.Group.List
import AccruviaHarness.Services.RemediationTree
import AccruviaHarness.Services.TaskService

/-!
# Heartbeat proposals

A heartbeat analysis proposes tasks. `_materialize_proposed_tasks` creates
those that no pending, active or completed task of the project stands for.
-/

namespace AccruviaHarness

open Library List

inductive HeartbeatError where
  | raised (error : PyError)
  | overflowError (message : String)
  deriving DecidableEq, Repr

structure HeartbeatHost where
  intOfText : String → Except PyError Int
  intOfFloat : String → Except HeartbeatError Int
  isDigit : Char → Bool
  upper : String → String
  identities : Store → TaskIdentities
  fresh : ∀ store : Store, store.getTask (identities store).taskId = none

namespace Heartbeat

def raising {Result : Type} : Except PyError Result → Except HeartbeatError Result
  | .ok result => .ok result
  | .error error => .error (.raised error)

/-- `_parse_priority` of a value that is no number. -/
def priorityOfText (host : HeartbeatHost) (text : String) : Except PyError Int :=
  let digits := text.toList.filter host.isDigit
  if text = "" then .ok 100
  else if text.toList.all host.isDigit then host.intOfText text
  else if host.upper text ∈ ["P0", "CRITICAL"] then .ok 1000
  else if host.upper text ∈ ["P1", "HIGH"] then .ok 700
  else if host.upper text ∈ ["P2", "MEDIUM"] then .ok 400
  else if host.upper text ∈ ["P3", "LOW"] then .ok 200
  else if digits ≠ [] then host.intOfText (String.ofList digits)
  else .ok 100

def parsePriority (host : HeartbeatHost) : PyValue → Except HeartbeatError Int
  | .int value => .ok value
  | .bool value => .ok (if value then 1 else 0)
  | .float repr => host.intOfFloat repr
  | value => raising (priorityOfText host (pyStrip value.toStr))

/-- `int(value)`. -/
def intOf (host : HeartbeatHost) : PyValue → Except HeartbeatError Int
  | .float repr => host.intOfFloat repr
  | .str text => raising (host.intOfText text)
  | value => raising value.toInt

def defaultValidationMode (strategy : String) : Option String :=
  if strategy ∈ ["operator_ergonomics", "operator_observability"] then some "lightweight_operator"
  else none

section

variable (host : HeartbeatHost) (projectId : String) (item : PyDict)

def title : String := pyStrip (item.getStr "title")

def objective : String := pyStrip (item.getStr "objective")

/-- `str(parent_task_id) if parent_task_id else None`. -/
def parentTaskId : Option String :=
  let parent := item.get "split_of_task_id"
  if parent.truthy then some parent.toStr else none

/-- `task.parent_task_id == parent_task_id`. -/
def isParent : Option String → PyValue → Bool
  | none, .none => true
  | some stored, .str text => stored = text
  | _, _ => false

/-- The test of `dedupe_match`. -/
def standsFor (task : Task) : Bool :=
  task.title = title item && task.objective = objective item &&
    isParent task.parentTaskId (item.get "split_of_task_id") &&
    decide (task.status ∈ [TaskStatus.pending, .active, .completed])

def listedPaths (key : String) : PyDict :=
  match item.get key with
  | .list paths => [(key, .list ((paths.filter PyValue.truthy).map fun path => .str path.toStr))]
  | _ => []

def strategy : String := ((item.get "strategy").orValue (.str "heartbeat")).toStr

def validationMode : Option String :=
  if (item.get "validation_mode").truthy then some (pyStrip (item.get "validation_mode").toStr)
  else defaultValidationMode (strategy item)

def requiredArtifacts : Except PyError (List PyValue) :=
  ((item.get "required_artifacts").orValue (.list [.str "plan", .str "report"])).toList

def typeName : PyValue → String
  | .none => "NoneType"
  | .bool _ => "bool"
  | .int _ => "int"
  | .float _ => "float"
  | .str _ => "str"
  | .list _ => "list"
  | .dict _ => "dict"

def artifactTexts (artifacts : List PyValue) : Except PyError (List String) :=
  let stray := artifacts.zipIdx.find? fun (artifact, _) => typeName artifact != "str"
  match if strategy item ∈ highRiskTaskStrategies then stray else none with
  | some (artifact, index) =>
    .error <| .typeError <| "sequence item " ++ toString index ++
        ": expected str instance, " ++ typeName artifact ++ " found"
  | none => .ok (artifacts.map PyValue.toStr)

/-- The arguments that `create_task_with_policy` is called with. -/
def policy (priority maxAttempts maxBranches : Int) (artifacts : List String) :
    TaskPolicy where
  projectId
  title := title item
  objective := objective item
  priority
  parentTaskId := parentTaskId item
  sourceRunId := none
  externalRefType := none
  externalRefId := none
  validationProfile := ((item.get "validation_profile").orValue (.str "generic")).toStr
  validationMode := validationMode item
  scope := some (listedPaths item "allowed_paths" ++ listedPaths item "forbidden_paths")
  strategy := strategy item
  maxAttempts
  maxBranches
  requiredArtifacts := artifacts

def IsSqliteInteger (value : Int) : Prop := -2 ^ 63 ≤ value ∧ value < 2 ^ 63

instance (value : Int) : Decidable (IsSqliteInteger value) := inferInstanceAs (Decidable (_ ∧ _))

def createTask (store : Store) : Except HeartbeatError (Store × Task) := do
  let priority ← parsePriority host (item.getD "priority" (.int 100))
  let maxAttempts ← intOf host (item.getD "max_attempts" (.int 3))
  let maxBranches ← intOf host (item.getD "max_branches" (.int 1))
  let artifacts ← raising (requiredArtifacts item)
  let texts ← raising (artifactTexts item artifacts)
  if IsSqliteInteger priority ∧ IsSqliteInteger maxAttempts ∧ IsSqliteInteger maxBranches then
    raising <| TaskService.createTaskWithPolicy (host.identities store) store <|
        policy projectId item priority maxAttempts maxBranches texts
  else .error (.overflowError "Python int too large to convert to SQLite INTEGER")

end

inductive Skipped where
  | invalidProposal (proposal : PyDict)
  | duplicateTask (taskId title : String)

/-- The locals of `_materialize_proposed_tasks`. Each created task is kept
with its proposal. -/
structure Round where
  store : Store
  existing : List Task
  created : List (PyDict × Task) := []
  skipped : List Skipped := []

variable (host : HeartbeatHost) (projectId : String)

def propose (round : Round) (item : PyDict) : Except HeartbeatError Round :=
  if title item = "" ∨ objective item = "" then
    .ok { round with skipped := round.skipped ++ [.invalidProposal item] }
  else
    match round.existing.find? (standsFor item) with
    | some task =>
      .ok { round with
        skipped := round.skipped ++ [.duplicateTask task.id task.title] }
    | none => do
      let (store, task) ← createTask host projectId item round.store
      return {
        store
        existing := round.existing ++ [task]
        created := round.created ++ [(item, task)]
        skipped := round.skipped }

def proposals (analysis : PyDict) : List PyDict :=
  match (analysis.get "proposed_tasks").orValue (.list []) with
  | .list items => items.filterMap PyValue.asDict
  | _ => []

/-- `_materialize_proposed_tasks` of a service that has a task service. -/
def materializeProposedTasks (store : Store) (analysis : PyDict) : Except HeartbeatError Round :=
  (proposals analysis).foldlM (propose host projectId)
    { store, existing := store.listTasks projectId }

def IsNamed (item : PyDict) : Prop := title item ≠ "" ∧ objective item ≠ ""

/-- Equal titles, objectives and values of `split_of_task_id`. -/
structure SameProposal (first second : PyDict) : Prop where
  title : title first = title second
  objective : objective first = objective second
  parent : first.get "split_of_task_id" = second.get "split_of_task_id"

structure IsReadable (host : HeartbeatHost) (item : PyDict) : Prop where
  priority : ∃ value, parsePriority host (item.getD "priority" (.int 100)) = .ok value ∧
      IsSqliteInteger value
  maxAttempts : ∃ value, intOf host (item.getD "max_attempts" (.int 3)) = .ok value ∧
      IsSqliteInteger value
  maxBranches : ∃ value, intOf host (item.getD "max_branches" (.int 1)) = .ok value ∧
      IsSqliteInteger value
  artifacts : ∃ artifacts, requiredArtifacts item = .ok artifacts

structure IsStorable (host : HeartbeatHost) (item : PyDict) : Prop
    extends IsReadable host item where
  strategy : strategy item ∉ highRiskTaskStrategies
  parent : item.get "split_of_task_id" = .none ∨
    ∃ text ≠ "", item.get "split_of_task_id" = .str text

structure Made (host : HeartbeatHost) (projectId : String) (item : PyDict)
    (task : Task) : Prop where
  readable : IsReadable host item
  project : task.projectId = projectId
  title : task.title = title item
  parent : task.parentTaskId = parentTaskId item
  status : task.status = .pending
  plain : strategy item ∉ highRiskTaskStrategies →
    task.objective = objective item
  amended : strategy item ∈ highRiskTaskStrategies → (objective item).length < task.objective.length

section

variable {host : HeartbeatHost} {projectId : String} {item : PyDict}
  {store written : Store} {task : Task}

theorem ok_of_raising {Result : Type} {computed : Except PyError Result}
    {result : Result} (returned : raising computed = .ok result) :
    computed = .ok result := by
  cases computed with
  | error _ => cases returned
  | ok _ =>
    cases returned
    rfl

theorem objective_lt_amended (lines : List String) :
    (objective item).length <
      (pyRstrip (objective item) ++ "\n\n" ++ "\n".intercalate lines).length := by
  have stripped : pyRstrip (objective item) = objective item := by
    unfold objective pyStrip pyRstrip
    rw [String.toList_ofList]
    exact congrArg String.ofList (rdropWhile_idempotent isPyWhitespace _)
  rw [stripped, String.length_append, String.length_append]
  have two : ("\n\n" : String).length = 2 := rfl
  omega

theorem createTaskWithPolicy_policy (identities : TaskIdentities)
    (fresh : store.getTask identities.taskId = none)
    (priority maxAttempts maxBranches : Int) (texts : List String) :
    ∃ written : Store, TaskService.createTaskWithPolicy identities store
          (policy projectId item priority maxAttempts maxBranches texts) =
        .ok (written, TaskService.policyTask identities
          (policy projectId item priority maxAttempts maxBranches texts)
          (policy projectId item priority maxAttempts maxBranches texts).scope) ∧
      written.tasks.rows = store.tasks.rows ++ [TaskService.policyTask identities
          (policy projectId item priority maxAttempts maxBranches texts)
          (policy projectId item priority maxAttempts maxBranches texts).scope] := by
  let row := TaskService.policyTask identities
    (policy projectId item priority maxAttempts maxBranches texts)
    (policy projectId item priority maxAttempts maxBranches texts).scope
  obtain ⟨tasks, inserted, rows⟩ := store.tasks.insert?_of_fresh row
    (store.tasks.lookup_eq_none_iff.mp fresh)
  refine ⟨{ store with tasks }, ?_, rows⟩
  show TaskService.createTask identities store row = _
  have unreferenced : TaskService.referencedTask store row = none := rfl
  have unlinked : TaskService.ensurePlanLinkage identities store row = .ok (store, row) := rfl
  unfold TaskService.createTask
  rw [unreferenced, unlinked]
  dsimp only
  rw [inserted]

theorem objective_policyTask (identities : TaskIdentities)
    (priority maxAttempts maxBranches : Int) (texts : List String) (scope : Option PyDict) :
    let row := TaskService.policyTask identities
      (policy projectId item priority maxAttempts maxBranches texts) scope
    (strategy item ∉ highRiskTaskStrategies → row.objective = objective item) ∧
      (strategy item ∈ highRiskTaskStrategies →
        (objective item).length < row.objective.length) := by
  constructor
  · intro plain
    show (TaskService.applyTaskAmendment _ _).1 = _
    unfold TaskService.applyTaskAmendment
    rw [if_pos (show (policy projectId item priority maxAttempts maxBranches texts).strategy ∉
      highRiskTaskStrategies from plain)]
    rfl
  · intro risky
    show _ < ((TaskService.applyTaskAmendment _ _).1).length
    unfold TaskService.applyTaskAmendment
    rw [if_neg (not_not.mpr (show (policy projectId item priority maxAttempts maxBranches
      texts).strategy ∈ highRiskTaskStrategies from risky))]
    exact objective_lt_amended _

theorem made_of_createTask (returned : createTask host projectId item store = .ok (written, task)) :
    Made host projectId item task ∧
      written.tasks.rows = store.tasks.rows ++ [task] := by
  unfold createTask at returned
  obtain ⟨priority, priorityRead, returned⟩ := exists_of_bind_ok returned
  obtain ⟨maxAttempts, attemptsRead, returned⟩ := exists_of_bind_ok returned
  obtain ⟨maxBranches, branchesRead, returned⟩ := exists_of_bind_ok returned
  obtain ⟨artifacts, artifactsRead, returned⟩ := exists_of_bind_ok returned
  obtain ⟨texts, _, returned⟩ := exists_of_bind_ok returned
  by_cases stored : IsSqliteInteger priority ∧ IsSqliteInteger maxAttempts ∧
      IsSqliteInteger maxBranches
  · rw [if_pos stored] at returned
    obtain ⟨_, created, rows⟩ :=
      @createTaskWithPolicy_policy projectId item _
        (host.identities store) (host.fresh store) priority maxAttempts maxBranches texts
    rw [created] at returned
    cases returned
    obtain ⟨plain, amended⟩ := @objective_policyTask projectId item
      (host.identities store) priority maxAttempts maxBranches texts
      (policy projectId item priority maxAttempts maxBranches texts).scope
    refine ⟨⟨?_, rfl, rfl, rfl, rfl, plain, amended⟩, rows⟩
    exact
      { priority := ⟨priority, priorityRead, stored.1⟩
        maxAttempts := ⟨maxAttempts, attemptsRead, stored.2.1⟩
        maxBranches := ⟨maxBranches, branchesRead, stored.2.2⟩
        artifacts := ⟨artifacts, ok_of_raising artifactsRead⟩ }
  · rw [if_neg stored] at returned
    cases returned

theorem exists_createTask (readable : IsReadable host item)
    (plain : strategy item ∉ highRiskTaskStrategies) (store : Store) :
    ∃ written task, createTask host projectId item store = .ok (written, task) := by
  obtain ⟨priority, priorityRead, priorityStored⟩ := readable.priority
  obtain ⟨maxAttempts, attemptsRead, attemptsStored⟩ := readable.maxAttempts
  obtain ⟨maxBranches, branchesRead, branchesStored⟩ := readable.maxBranches
  obtain ⟨artifacts, artifactsRead⟩ := readable.artifacts
  have textsRead : artifactTexts item artifacts = .ok (artifacts.map PyValue.toStr) := by
    simp only [artifactTexts, if_neg plain]
  obtain ⟨written, created, _⟩ :=
    @createTaskWithPolicy_policy projectId item _
      (host.identities store) (host.fresh store) priority maxAttempts maxBranches
      (artifacts.map PyValue.toStr)
  unfold createTask
  rw [priorityRead, attemptsRead, branchesRead, artifactsRead]
  simp only [raising, ok_bind, textsRead]
  rw [if_pos ⟨priorityStored, attemptsStored, branchesStored⟩, created]
  exact ⟨written, _, rfl⟩

theorem isParent_iff {stored : Option String} {value : PyValue} :
    isParent stored value = true ↔ (stored = none ∧ value = .none) ∨
        ∃ text, stored = some text ∧ value = .str text := by
  cases stored with
  | none => cases value <;> simp [isParent]
  | some _ => cases value <;> simp [isParent, eq_comm]

theorem standsFor_iff :
    standsFor item task = true ↔
      task.title = title item ∧ task.objective = objective item ∧
        isParent task.parentTaskId (item.get "split_of_task_id") = true ∧
        task.status ∈ [TaskStatus.pending, .active, .completed] := by
  simp only [standsFor, Bool.and_eq_true, decide_eq_true_eq, and_assoc]

theorem standsFor_congr {other : PyDict} (same : SameProposal item other) :
    standsFor item task = standsFor other task := by
  unfold standsFor
  rw [same.title, same.objective, same.parent]

theorem IsStorable.isParent (storable : IsStorable host item) :
    Heartbeat.isParent (parentTaskId item) (item.get "split_of_task_id") = true := by
  unfold parentTaskId
  rcases storable.parent with absent | ⟨_, nonempty, named⟩
  · rw [absent]
    rfl
  · rw [named]
    simp [PyValue.truthy, nonempty, Heartbeat.isParent]

theorem Made.standsFor (made : Made host projectId item task)
    (storable : IsStorable host item) : Heartbeat.standsFor item task = true := by
  refine standsFor_iff.mpr ⟨made.title, made.plain storable.strategy, ?_, ?_⟩
  · rw [made.parent]
    exact storable.isParent
  · simp [made.status]

end

/-- A round that has gone through the proposals of `done`, from a store whose
tasks were `initial`. -/
structure Progress (host : HeartbeatHost) (projectId : String) (initial : Store)
    (done : List PyDict) (round : Round) : Prop where
  rows : round.store.tasks.rows = initial.tasks.rows ++ round.created.map Prod.snd
  existing :
    round.existing = initial.listTasks projectId ++ round.created.map Prod.snd
  counted : round.created.length + round.skipped.length = done.length
  made : ∀ entry ∈ round.created, Made host projectId entry.1 entry.2
  taken : ∀ entry ∈ round.created, entry.1 ∈ done ∧ IsNamed entry.1 ∧
    ∀ task ∈ initial.listTasks projectId, standsFor entry.1 task = false
  apart : round.created.Pairwise fun earlier later => standsFor later.1 earlier.2 = false
  settled : ∀ before item after, done = before ++ item :: after → IsNamed item →
    (∃ task, (item, task) ∈ round.created) ∨
      ∃ task, Skipped.duplicateTask task.id task.title ∈ round.skipped ∧
        standsFor item task = true ∧
        (task ∈ initial.listTasks projectId ∨ ∃ other ∈ before, (other, task) ∈ round.created)
  found : ∀ taskId title, Skipped.duplicateTask taskId title ∈ round.skipped →
    ∃ task ∈ round.existing, task.id = taskId ∧
      task.status ∈ [TaskStatus.pending, .active, .completed]

section

variable {host : HeartbeatHost} {projectId : String} {initial : Store}
  {done items : List PyDict} {item : PyDict} {round next final : Round}

theorem Progress.start (host : HeartbeatHost) (projectId : String) (store : Store) :
    Progress host projectId store []
      { store, existing := store.listTasks projectId } where
  rows := by simp
  existing := by simp
  counted := rfl
  made := by simp
  taken := by simp
  apart := List.Pairwise.nil
  settled := by
    intro before item after split
    simp at split
  found := by simp

theorem place_in_append_singleton {before after : List PyDict} {other : PyDict}
    (split : done ++ [item] = before ++ other :: after) :
    (before = done ∧ other = item) ∨ ∃ rest, done = before ++ other :: rest := by
  rcases after.eq_nil_or_concat with rfl | ⟨rest, last, rfl⟩
  · obtain ⟨sameBefore, same⟩ := append_inj' split rfl
    exact .inl ⟨sameBefore.symm, (singleton_inj.mp same).symm⟩
  · have regrouped : done ++ [item] = (before ++ other :: rest) ++ [last] := by simpa using split
    exact .inr ⟨rest, (append_inj' regrouped rfl).1⟩

theorem Progress.skip {record : Skipped} (progress : Progress host projectId initial done round)
    (settles : (¬ IsNamed item ∧ record = .invalidProposal item) ∨
      ∃ task, record = .duplicateTask task.id task.title ∧
        standsFor item task = true ∧ task ∈ round.existing) :
    Progress host projectId initial (done ++ [item])
      { round with skipped := round.skipped ++ [record] } where
  rows := progress.rows
  existing := progress.existing
  counted := by
    have counted := progress.counted
    simp only [length_append, length_singleton]
    omega
  made := progress.made
  taken entry member := by
    obtain ⟨earlier, rest⟩ := progress.taken entry member
    exact ⟨mem_append_left _ earlier, rest⟩
  apart := progress.apart
  settled before other after split named := by
    rcases place_in_append_singleton split with ⟨rfl, rfl⟩ | ⟨rest, earlier⟩
    · obtain ⟨task, rfl, stands, member⟩ := settles.resolve_left fun unnamed => unnamed.1 named
      refine .inr ⟨task, by simp, stands, ?_⟩
      rw [progress.existing] at member
      rcases mem_append.mp member with old | new
      · exact .inl old
      · obtain ⟨entry, entryMember, rfl⟩ := mem_map.mp new
        exact .inr ⟨entry.1, (progress.taken entry entryMember).1, entryMember⟩
    · rcases progress.settled before other rest earlier named with
        created | ⟨task, recorded, found⟩
      · exact .inl created
      · exact .inr ⟨task, mem_append_left _ recorded, found⟩
  found taskId name member := by
    rcases mem_append.mp member with earlier | new
    · exact progress.found taskId name earlier
    · have same := mem_singleton.mp new
      rcases settles with ⟨_, invalid⟩ | ⟨task, duplicate, stands, existing⟩
      · rw [invalid] at same
        cases same
      · rw [duplicate] at same
        cases same
        exact ⟨task, existing, rfl, (standsFor_iff.mp stands).2.2.2⟩

theorem Progress.create {written : Store} {task : Task}
    (progress : Progress host projectId initial done round)
    (named : IsNamed item)
    (unmatched : ∀ task ∈ round.existing, standsFor item task = false)
    (made : Made host projectId item task)
    (rows : written.tasks.rows = round.store.tasks.rows ++ [task]) :
    Progress host projectId initial (done ++ [item])
      { store := written, existing := round.existing ++ [task]
        created := round.created ++ [(item, task)], skipped := round.skipped } where
  rows := by simp [rows, progress.rows]
  existing := by simp [progress.existing]
  counted := by
    have counted := progress.counted
    simp only [length_append, length_singleton]
    omega
  made := by
    intro entry member
    rcases mem_append.mp member with earlier | new
    · exact progress.made entry earlier
    · obtain rfl := mem_singleton.mp new
      exact made
  taken := by
    intro entry member
    rcases mem_append.mp member with earlier | new
    · obtain ⟨place, rest⟩ := progress.taken entry earlier
      exact ⟨mem_append_left _ place, rest⟩
    · obtain rfl := mem_singleton.mp new
      refine ⟨by simp, named, fun other member => unmatched other ?_⟩
      rw [progress.existing]
      exact mem_append_left _ member
  apart := by
    refine pairwise_append.mpr
      ⟨progress.apart, pairwise_singleton _ _, fun entry member other last => ?_⟩
    obtain rfl := mem_singleton.mp last
    refine unmatched entry.2 ?_
    rw [progress.existing]
    exact mem_append_right _ (mem_map_of_mem member)
  settled := by
    intro before other after split otherNamed
    rcases place_in_append_singleton split with ⟨rfl, rfl⟩ | ⟨rest, earlier⟩
    · exact .inl ⟨task, by simp⟩
    · rcases progress.settled before other rest earlier otherNamed with
        ⟨created, member⟩ | ⟨found, recorded, stands, source⟩
      · exact .inl ⟨created, mem_append_left _ member⟩
      · refine .inr ⟨found, recorded, stands, source.imp id ?_⟩
        rintro ⟨source, place, member⟩
        exact ⟨source, place, mem_append_left _ member⟩
  found := by
    intro taskId name recorded
    obtain ⟨other, member, rest⟩ := progress.found taskId name recorded
    exact ⟨other, mem_append_left _ member, rest⟩

theorem propose_cases (proposed : propose host projectId round item = .ok next) :
    (∃ record, next = { round with skipped := round.skipped ++ [record] } ∧
      ((¬ IsNamed item ∧ record = .invalidProposal item) ∨
        ∃ task, record = .duplicateTask task.id task.title ∧
          standsFor item task = true ∧ task ∈ round.existing)) ∨
      ∃ written task, IsNamed item ∧ (∀ task ∈ round.existing, standsFor item task = false) ∧
        createTask host projectId item round.store = .ok (written, task) ∧
        next =
          { store := written, existing := round.existing ++ [task]
            created := round.created ++ [(item, task)], skipped := round.skipped } := by
  unfold propose at proposed
  by_cases unnamed : title item = "" ∨ objective item = ""
  · rw [if_pos unnamed] at proposed
    cases proposed
    refine .inl ⟨_, rfl, .inl ⟨fun named => ?_, rfl⟩⟩
    exact absurd unnamed (not_or.mpr named)
  · rw [if_neg unnamed] at proposed
    cases found : round.existing.find? (standsFor item) with
    | some task =>
      rw [found] at proposed
      cases proposed
      exact .inl ⟨_, rfl, .inr
        ⟨task, rfl, find?_some found, mem_of_find?_eq_some found⟩⟩
    | none =>
      rw [found] at proposed
      obtain ⟨⟨written, task⟩, created, proposed⟩ := exists_of_bind_ok proposed
      cases proposed
      refine .inr ⟨written, task, not_or.mp unnamed, fun other member => ?_, created, rfl⟩
      simpa using find?_eq_none.mp found other member

theorem Progress.step (progress : Progress host projectId initial done round)
    (proposed : propose host projectId round item = .ok next) :
    Progress host projectId initial (done ++ [item]) next := by
  rcases propose_cases proposed with
    ⟨_, rfl, settles⟩ | ⟨_, _, named, unmatched, created, rfl⟩
  · exact progress.skip settles
  · obtain ⟨made, rows⟩ := made_of_createTask created
    exact progress.create named unmatched made rows

theorem Progress.run (progress : Progress host projectId initial done round)
    (ran : items.foldlM (propose host projectId) round = .ok final) :
    Progress host projectId initial (done ++ items) final := by
  induction items generalizing done round with
  | nil =>
    cases ran
    simpa using progress
  | cons _ _ ih =>
    rw [foldlM_cons] at ran
    obtain ⟨_, proposed, ran⟩ := exists_of_bind_ok ran
    have whole := ih (progress.step proposed) ran
    simpa using whole

/-- Every proposal that no task stands for and that no earlier proposal is the
same as can be stored. -/
def FirstsStorable (host : HeartbeatHost) (projectId : String) (initial : Store)
    (items : List PyDict) : Prop :=
  ∀ before item after, items = before ++ item :: after → IsNamed item →
    (∀ task ∈ initial.listTasks projectId, standsFor item task = false) →
    (∀ other ∈ before, ¬ SameProposal other item) → IsStorable host item

theorem Progress.not_same (progress : Progress host projectId initial done round)
    (storable : ∀ entry ∈ round.created, IsStorable host entry.1)
    (named : IsNamed item)
    (unmatched : ∀ task ∈ round.existing, standsFor item task = false)
    {other : PyDict} (member : other ∈ done) : ¬ SameProposal other item := by
  intro same
  have otherNamed : IsNamed other := by
    unfold IsNamed
    rw [same.title, same.objective]
    exact named
  have stood {task : Task} (known : task ∈ round.existing)
      (stands : standsFor other task = true) : False := by
    rw [standsFor_congr same, unmatched task known] at stands
    cases stands
  obtain ⟨before, after, split⟩ := append_of_mem member
  rcases progress.settled before other after split otherNamed with
    ⟨_, created⟩ | ⟨_, _, stands, source⟩
  · refine stood ?_ ((progress.made _ created).standsFor (storable _ created))
    rw [progress.existing]
    exact mem_append_right _ (mem_map_of_mem created)
  · refine stood ?_ stands
    rw [progress.existing]
    rcases source with old | ⟨_, _, created⟩
    · exact mem_append_left _ old
    · exact mem_append_right _ (mem_map_of_mem created)

theorem Progress.exists_run (progress : Progress host projectId initial done round)
    (firsts : FirstsStorable host projectId initial (done ++ items))
    (storable : ∀ entry ∈ round.created, IsStorable host entry.1) :
    ∃ final, items.foldlM (propose host projectId) round = .ok final ∧
      ∀ entry ∈ final.created, IsStorable host entry.1 := by
  induction items generalizing done round with
  | nil => exact ⟨round, rfl, storable⟩
  | cons item rest ih =>
    have goesOn {next : Round} (proposed : propose host projectId round item = .ok next)
        (kept : ∀ entry ∈ next.created, IsStorable host entry.1) :
        ∃ final, (item :: rest).foldlM (propose host projectId) round = .ok final ∧
          ∀ entry ∈ final.created, IsStorable host entry.1 := by
      rw [foldlM_cons, proposed, ok_bind]
      exact ih (progress.step proposed) (by simpa using firsts) kept
    by_cases unnamed : title item = "" ∨ objective item = ""
    · have proposed : propose host projectId round item =
          .ok { round with skipped := round.skipped ++ [.invalidProposal item] } := by
        rw [propose, if_pos unnamed]
      exact goesOn proposed storable
    · cases found : round.existing.find? (standsFor item) with
      | some task =>
        have proposed : propose host projectId round item =
            .ok { round with
              skipped := round.skipped ++ [.duplicateTask task.id task.title] } := by
          rw [propose, if_neg unnamed, found]
        exact goesOn proposed storable
      | none =>
        have named := not_or.mp unnamed
        have unmatched : ∀ task ∈ round.existing, standsFor item task = false := by
          simpa using find?_eq_none.mp found
        have own : IsStorable host item := by
          refine firsts done item rest rfl named (fun task member => ?_)
            fun other member => progress.not_same storable named unmatched member
          refine unmatched task ?_
          rw [progress.existing]
          exact mem_append_left _ member
        obtain ⟨_, _, created⟩ :=
          @exists_createTask _ projectId _ own.toIsReadable own.strategy round.store
        refine goesOn (by rw [propose, if_neg unnamed, found, created]; rfl) ?_
        intro entry member
        rcases mem_append.mp member with earlier | new
        · exact storable entry earlier
        · obtain rfl := mem_singleton.mp new
          exact own

theorem run_of_covered (covered : ∀ item ∈ items, IsNamed item →
      ∃ task ∈ round.existing, standsFor item task = true) :
    ∃ skipped, items.foldlM (propose host projectId) round = .ok { round with skipped } := by
  induction items generalizing round with
  | nil => exact ⟨round.skipped, rfl⟩
  | cons item _ ih =>
    rw [forall_mem_cons] at covered
    obtain ⟨own, others⟩ := covered
    have skips : ∃ skipped, propose host projectId round item = .ok { round with skipped } := by
      by_cases unnamed : title item = "" ∨ objective item = ""
      · exact ⟨_, by rw [propose, if_pos unnamed]⟩
      · obtain ⟨task, member, stands⟩ := own (not_or.mp unnamed)
        have found : (round.existing.find? (standsFor item)).isSome = true :=
          find?_isSome.mpr ⟨task, member, stands⟩
        obtain ⟨_, firstFound⟩ := Option.isSome_iff_exists.mp found
        exact ⟨_, by rw [propose, if_neg unnamed, firstFound]⟩
    obtain ⟨middle, proposed⟩ := skips
    obtain ⟨skipped, ran⟩ := @ih { round with skipped := middle } others
    exact ⟨skipped, by rw [foldlM_cons, proposed, ok_bind, ran]⟩

end

/-- The rows of a round's tasks, those that it created and those that it found
for a duplicate, are still there and pending, active or completed. -/
def StillStand (projectId : String) (round : Round) (later : Store) : Prop :=
  ∀ task ∈ round.store.tasks.rows, (∃ item, (item, task) ∈ round.created) ∨
        Skipped.duplicateTask task.id task.title ∈ round.skipped →
      ∃ row ∈ later.listTasks projectId, row.id = task.id ∧ row.title = task.title ∧
        row.objective = task.objective ∧ row.parentTaskId = task.parentTaskId ∧
        row.status ∈ [TaskStatus.pending, .active, .completed]

/-- The payload is taken whole, one task at most is created for equal titles,
objectives and parents, and the same payload creates nothing later. -/
structure TotalAndIdempotent (host : HeartbeatHost) (projectId : String) (store : Store)
    (analysis : PyDict) (first : Round) : Prop where
  returned : materializeProposedTasks host projectId store analysis = .ok first
  counted : first.created.length + first.skipped.length = (proposals analysis).length
  once : (first.created.map fun entry =>
    (title entry.1, objective entry.1, parentTaskId entry.1)).Nodup
  again : ∀ later, StillStand projectId first later → ∃ second,
    materializeProposedTasks host projectId later analysis = .ok second ∧
      second.created = [] ∧ second.store = later

section

variable {host : HeartbeatHost} {projectId : String} {store : Store}
  {analysis : PyDict} {first : Round}

theorem progress_of_returned
    (returned : materializeProposedTasks host projectId store analysis = .ok first) :
    Progress host projectId store (proposals analysis) first := by
  have whole := (Progress.start host projectId store).run returned
  simpa using whole

theorem nodup_created (progress : Progress host projectId store (proposals analysis) first)
    (storable : ∀ entry ∈ first.created, IsStorable host entry.1) :
    (first.created.map fun entry =>
      (title entry.1, objective entry.1, parentTaskId entry.1)).Nodup := by
  refine pairwise_map.mpr ?_
  refine progress.apart.imp_of_mem fun {earlier later} earlierMember laterMember apart same => ?_
  simp only [Prod.mk.injEq] at same
  obtain ⟨sameTitle, sameObjective, sameParent⟩ := same
  have made := progress.made earlier earlierMember
  have stands : standsFor later.1 earlier.2 = true := by
    refine standsFor_iff.mpr ⟨?_, ?_, ?_, ?_⟩
    · rw [made.title, sameTitle]
    · rw [made.plain (storable earlier earlierMember).strategy, sameObjective]
    · rw [made.parent, sameParent]
      exact (storable later laterMember).isParent
    · simp [made.status]
  rw [apart] at stands
  cases stands

variable {task : Task} {entry : PyDict × Task}

theorem mem_rows_of_listTasks (progress : Progress host projectId store
      (proposals analysis) first) (member : task ∈ first.existing) :
    task ∈ first.store.tasks.rows := by
  rw [progress.existing] at member
  rw [progress.rows]
  rcases mem_append.mp member with old | new
  · exact mem_append_left _ (TaskService.mem_listTasks.mp old).1
  · exact mem_append_right _ new

theorem creates_nothing (progress : Progress host projectId store (proposals analysis) first)
    (storable : ∀ entry ∈ first.created, IsStorable host entry.1) {later : Store}
    (still : StillStand projectId first later) :
    ∃ second, materializeProposedTasks host projectId later analysis = .ok second ∧
      second.created = [] ∧ second.store = later := by
  have covered : ∀ item ∈ proposals analysis, IsNamed item →
      ∃ task ∈ later.listTasks projectId, standsFor item task = true := by
    intro item member named
    have known : ∃ task ∈ first.existing, standsFor item task = true ∧
        ((∃ item, (item, task) ∈ first.created) ∨
          Skipped.duplicateTask task.id task.title ∈ first.skipped) := by
      rw [progress.existing]
      obtain ⟨before, after, split⟩ := append_of_mem member
      rcases progress.settled before item after split named with
        ⟨task, created⟩ | ⟨task, recorded, stands, source⟩
      · exact ⟨task, mem_append_right _ (mem_map_of_mem created),
          (progress.made _ created).standsFor (storable _ created), .inl ⟨item, created⟩⟩
      · refine ⟨task, ?_, stands, .inr recorded⟩
        rcases source with old | ⟨_, _, created⟩
        · exact mem_append_left _ old
        · exact mem_append_right _ (mem_map_of_mem created)
    obtain ⟨task, existing, stands, own⟩ := known
    obtain ⟨row, rowMember, _, sameTitle, sameObjective, sameParent, status⟩ :=
      still task (mem_rows_of_listTasks progress existing) own
    obtain ⟨ofTitle, ofObjective, ofParent, _⟩ := standsFor_iff.mp stands
    refine ⟨row, rowMember, standsFor_iff.mpr ⟨?_, ?_, ?_, status⟩⟩
    · rw [sameTitle, ofTitle]
    · rw [sameObjective, ofObjective]
    · rw [sameParent, ofParent]
  obtain ⟨_, ran⟩ := @run_of_covered host projectId _
    { store := later, existing := later.listTasks projectId } covered
  exact ⟨_, ran, rfl, rfl⟩

theorem mem_listTasks_iff (progress : Progress host projectId store (proposals analysis) first) :
    task ∈ first.store.listTasks projectId ↔ task ∈ first.existing := by
  rw [TaskService.mem_listTasks, progress.existing, progress.rows, mem_append,
    mem_append, TaskService.mem_listTasks]
  constructor
  · rintro ⟨old | new, own⟩
    · exact .inl ⟨old, own⟩
    · exact .inr new
  · rintro (⟨old, own⟩ | new)
    · exact ⟨.inl old, own⟩
    · obtain ⟨entry, member, rfl⟩ := mem_map.mp new
      exact ⟨.inr new, .inr (progress.made entry member).project⟩

theorem stillStand_self (progress : Progress host projectId store (proposals analysis) first) :
    StillStand projectId first first.store := by
  intro task member own
  have settled : task ∈ first.existing ∧
      task.status ∈ [TaskStatus.pending, .active, .completed] := by
    rcases own with ⟨_, created⟩ | recorded
    · have pending : task.status = .pending := (progress.made _ created).status
      refine ⟨?_, by simp [pending]⟩
      rw [progress.existing]
      exact mem_append_right _ (mem_map_of_mem created)
    · obtain ⟨other, existing, sameId, status⟩ := progress.found _ _ recorded
      obtain rfl : other = task :=
        first.store.tasks.eq_of_key_eq (mem_rows_of_listTasks progress existing) member sameId
      exact ⟨existing, status⟩
  exact ⟨task, (mem_listTasks_iff progress).mpr settled.1, rfl, rfl, rfl, rfl, settled.2⟩

theorem exists_created_standsFor (law : TotalAndIdempotent host projectId store analysis first)
    (member : entry ∈ first.created) :
    ∃ other ∈ first.created, standsFor entry.1 other.2 = true := by
  have progress := progress_of_returned law.returned
  obtain ⟨_, ran, nothing, _⟩ := law.again first.store (stillStand_self progress)
  have secondProgress := progress_of_returned ran
  obtain ⟨place, named, unmatched⟩ := progress.taken entry member
  obtain ⟨before, after, split⟩ := append_of_mem place
  rcases secondProgress.settled before entry.1 after split named with
    ⟨task, created⟩ | ⟨task, _, stands, known | ⟨_, _, created⟩⟩
  · simp [nothing] at created
  · rw [mem_listTasks_iff progress, progress.existing] at known
    rcases mem_append.mp known with old | new
    · rw [unmatched task old] at stands
      cases stands
    · obtain ⟨other, created, rfl⟩ := mem_map.mp new
      exact ⟨other, created, stands⟩
  · simp [nothing] at created

theorem parent_of_law (law : TotalAndIdempotent host projectId store analysis first)
    (member : entry ∈ first.created) :
    entry.1.get "split_of_task_id" = .none ∨
      ∃ text ≠ "", entry.1.get "split_of_task_id" = .str text := by
  have progress := progress_of_returned law.returned
  obtain ⟨other, created, stands⟩ := exists_created_standsFor law member
  obtain ⟨_, _, otherStands⟩ := exists_created_standsFor law created
  have own := (standsFor_iff.mp stands).2.2.1
  have others := (standsFor_iff.mp otherStands).2.2.1
  rw [(progress.made other created).parent] at own
  rcases isParent_iff.mp own with ⟨_, absent⟩ | ⟨text, stored, named⟩
  · exact .inl absent
  · refine .inr ⟨text, ?_, named⟩
    rcases isParent_iff.mp others with ⟨_, absent⟩ | ⟨_, _, otherNamed⟩
    · simp [parentTaskId, absent, PyValue.truthy] at stored
    · intro empty
      simp [parentTaskId, otherNamed, PyValue.truthy, empty] at stored

theorem strategy_of_law (law : TotalAndIdempotent host projectId store analysis first)
    (member : entry ∈ first.created) :
    strategy entry.1 ∉ highRiskTaskStrategies := by
  have progress := progress_of_returned law.returned
  induction length : (objective entry.1).length using Nat.strong_induction_on
    generalizing entry with
  | _ _ ih =>
    intro risky
    obtain ⟨other, created, stands⟩ := exists_created_standsFor law member
    obtain ⟨sameTitle, sameObjective, sameParent, _⟩ := standsFor_iff.mp stands
    have made := progress.made other created
    by_cases otherRisky : strategy other.1 ∈ highRiskTaskStrategies
    · have shorter := made.amended otherRisky
      rw [sameObjective, length] at shorter
      exact ih _ shorter created rfl otherRisky
    · have parents : parentTaskId other.1 = parentTaskId entry.1 := by
        rw [made.parent] at sameParent
        rcases isParent_iff.mp sameParent with ⟨stored, absent⟩ | ⟨_, stored, named⟩
        · rw [stored]
          simp [parentTaskId, absent, PyValue.truthy]
        · rw [stored]
          rcases parent_of_law law member with absent | ⟨_, nonempty, own⟩
          · rw [absent] at named
            cases named
          · rw [own] at named
            cases named
            simp [parentTaskId, own, PyValue.truthy, nonempty]
      have same : other = entry := by
        refine inj_on_of_nodup_map law.once created member ?_
        simp only [Prod.mk.injEq]
        exact ⟨made.title.symm.trans sameTitle,
          (made.plain otherRisky).symm.trans sameObjective, parents⟩
      rw [same] at otherRisky
      exact otherRisky risky

theorem storable_of_law (law : TotalAndIdempotent host projectId store analysis first)
    (member : entry ∈ first.created) :
    IsStorable host entry.1 :=
  { ((progress_of_returned law.returned).made entry member).readable with
    strategy := strategy_of_law law member, parent := parent_of_law law member }

theorem sameProposal_of_standsFor {item other : PyDict}
    (made : Made host projectId other task) (storable : IsStorable host other)
    (stands : standsFor item task = true) : SameProposal other item := by
  obtain ⟨sameTitle, sameObjective, sameParent, _⟩ := standsFor_iff.mp stands
  refine ⟨made.title.symm.trans sameTitle,
    (made.plain storable.strategy).symm.trans sameObjective, ?_⟩
  rw [made.parent] at sameParent
  rcases isParent_iff.mp sameParent, isParent_iff.mp storable.isParent with
    ⟨⟨none, absent⟩ | ⟨_, some, named⟩, ⟨stored, own⟩ | ⟨_, stored, own⟩⟩
  · rw [own, absent]
  · rw [none] at stored
    cases stored
  · rw [some] at stored
    cases stored
  · rw [some] at stored
    cases stored
    rw [own, named]

theorem firstsStorable_of_law (law : TotalAndIdempotent host projectId store analysis first) :
    FirstsStorable host projectId store (proposals analysis) := by
  have progress := progress_of_returned law.returned
  intro before item after split named unmatched firstOfKind
  rcases progress.settled before item after split named with
    ⟨task, created⟩ | ⟨task, _, stands, old | ⟨other, earlier, created⟩⟩
  · exact storable_of_law law created
  · rw [unmatched task old] at stands
    cases stands
  · exact absurd (sameProposal_of_standsFor (progress.made _ created)
      (storable_of_law law created) stands) (firstOfKind other earlier)

/-- A payload is taken whole and creates nothing twice exactly when the first
proposal of each kind can be read and is stored as it is. -/
theorem total_and_idempotent_iff (host : HeartbeatHost) (projectId : String)
    (store : Store) (analysis : PyDict) :
    (∃ first, TotalAndIdempotent host projectId store analysis first) ↔
      FirstsStorable host projectId store (proposals analysis) := by
  constructor
  · rintro ⟨_, law⟩
    exact firstsStorable_of_law law
  · intro firsts
    obtain ⟨final, ran, storable⟩ :=
      (Progress.start host projectId store).exists_run firsts (by simp)
    have returned : materializeProposedTasks host projectId store analysis = .ok final := ran
    have progress := progress_of_returned returned
    exact ⟨final,
      { returned, counted := progress.counted
        once := nodup_created progress storable
        again := fun _ still => creates_nothing progress storable still }⟩

end

section

def unusedTaskId (store : Store) : String :=
  String.ofList <| List.replicate ((store.tasks.rows.map fun task => task.id.length).sum + 1) 'x'

theorem getTask_unusedTaskId (store : Store) : store.getTask (unusedTaskId store) = none := by
  refine store.tasks.lookup_eq_none_iff.mpr fun task member same => ?_
  have shorter : task.id.length ≤ (store.tasks.rows.map fun task => task.id.length).sum :=
    le_sum_of_mem (mem_map_of_mem member)
  rw [same, unusedTaskId] at shorter
  simp at shorter

def plainHost : HeartbeatHost where
  intOfText _ := .error (.valueError "invalid literal for int() with base 10")
  intOfFloat _ := .error (.overflowError "cannot convert float infinity to integer")
  isDigit := Char.isDigit
  upper := String.map Char.toUpper
  identities store :=
    { taskId := unusedTaskId store, planId := "", now := 0, nonNegotiables := fun _ => none }
  fresh := getTask_unusedTaskId

def ergonomicsProposal : PyDict :=
  [("title", .str "Show the queue"), ("objective", .str "List what is waiting"),
    ("strategy", .str "operator_ergonomics")]

/-- The stored objective of the task has the amendment at its end, so the same
payload does not find the task again. -/
theorem amended_proposal_created_again :
    ¬ ∃ first, TotalAndIdempotent plainHost "project" {}
      [("proposed_tasks", .list [.dict ergonomicsProposal])] first := by
  rintro ⟨_, law⟩
  have storable : IsStorable plainHost ergonomicsProposal :=
    firstsStorable_of_law law [] ergonomicsProposal [] rfl ⟨by decide +kernel, by decide +kernel⟩
      (fun task member => absurd (TaskService.mem_listTasks.mp member).1 not_mem_nil)
      (by simp)
  exact storable.strategy (by decide +kernel)

end

end Heartbeat

end AccruviaHarness
