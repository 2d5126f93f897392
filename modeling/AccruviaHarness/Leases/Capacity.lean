import AccruviaHarness.Store.TaskLeases

/-!
# Capacity and selection of task leases

What `acquire_task_lease` is for: it hands out the first eligible task and
keeps every capped project within its number of leases.
-/

namespace AccruviaHarness

open Library List

namespace Store

variable (store : Store) (now : Int) (projectId : String)

/-- The leases of a project that have not expired at `now`. -/
def unexpiredLeaseCount :
    Nat :=
  store.taskLeases.rows.countP fun lease =>
    now < lease.leaseExpiresAt && store.leaseInProject projectId lease

structure Eligible (store : Store) (now : Int) (projectId : Option String)
    (excludeTaskIds : List String) (task : Task) : Prop where
  stored : task ∈ store.tasks.rows
  pending : task.status = .pending
  unleased : ∀ lease ∈ store.taskLeases.rows,
    lease.taskId = task.id → lease.leaseExpiresAt ≤ now
  inProject : ∀ given, projectId = some given → given ≠ "" →
    task.projectId = given
  notExcluded : task.id ∉ excludeTaskIds
  belowCap : ∀ project, store.getProject task.projectId = some project →
    0 < project.maxConcurrentTasks →
      (store.unexpiredLeaseCount now task.projectId : Int) < project.maxConcurrentTasks

structure LeasesWithinCaps (store : Store) : Prop where
  withinCaps : ∀ project ∈ store.projects.rows, 0 < project.maxConcurrentTasks →
      (store.activeLeaseCount project.id : Int) ≤ project.maxConcurrentTasks
  tasksStored : ∀ lease ∈ store.taskLeases.rows, ∃ task, store.getTask lease.taskId = some task

theorem activeLeaseCount_deleteExpiredLeases :
    (store.deleteExpiredLeases now).activeLeaseCount projectId =
      store.unexpiredLeaseCount now projectId := by
  have sameTasks : (store.deleteExpiredLeases now).leaseInProject projectId =
      store.leaseInProject projectId := rfl
  unfold activeLeaseCount unexpiredLeaseCount
  rw [sameTasks]
  simp only [deleteExpiredLeases, KeyedTable.rows_deleteWhere, countP_filter]
  apply countP_congr
  intro lease _
  simp [and_comm]

theorem unexpiredLeaseCount_le_activeLeaseCount :
    store.unexpiredLeaseCount now projectId ≤ store.activeLeaseCount projectId := by
  apply countP_mono_left
  intro lease _ counted
  exact (Bool.and_eq_true _ _ ▸ counted).2

variable {store : Store} {projectId : String} {next : Store}

theorem maxConcurrentTasks_of_getProject {project : Project}
    (present : store.getProject projectId = some project) :
    store.maxConcurrentTasks projectId = project.maxConcurrentTasks := by
  simp [maxConcurrentTasks, present]

theorem atCapacity_eq_false_iff (store : Store) (projectId : String) :
    store.atCapacity projectId = false ↔ ∀ project, store.getProject projectId = some project →
        0 < project.maxConcurrentTasks → (store.activeLeaseCount projectId : Int) <
            project.maxConcurrentTasks := by
  unfold atCapacity
  cases found : store.getProject projectId with
  | none => simp [maxConcurrentTasks, found]
  | some _ =>
    rw [maxConcurrentTasks_of_getProject found]
    simp

theorem inGivenProject_iff (projectId : Option String) (task : Task) :
    inGivenProject projectId task = true ↔ ∀ given, projectId = some given → given ≠ "" →
        task.projectId = given := by
  cases projectId with
  | none => simp [inGivenProject]
  | some given =>
    by_cases empty : given = ""
    · simp [inGivenProject, empty]
    · simp [inGivenProject, empty]

theorem eligible_iff (store : Store) (now : Int) (projectId : Option String)
    (excludeTaskIds : List String) (task : Task) :
    let purged := store.deleteExpiredLeases now
    (task ∈ purged.tasks.rows.filter (fun task =>
        task.status = .pending && !purged.isLeased task.id &&
          inGivenProject projectId task && !excludeTaskIds.contains task.id) ∧
      (!purged.atCapacity task.projectId) = true) ↔
      store.Eligible now projectId excludeTaskIds task := by
  intro purged
  have leaseFree : purged.isLeased task.id = false ↔
      ∀ lease ∈ store.taskLeases.rows,
        lease.taskId = task.id → lease.leaseExpiresAt ≤ now := by
    rw [isLeased_eq_false_iff]
    constructor
    · intro absent lease member same
      by_contra unexpired
      exact absent lease (mem_deleteExpiredLeases.mpr ⟨member, by omega⟩) same
    · intro expired lease member same
      obtain ⟨stored, _⟩ := mem_deleteExpiredLeases.mp member
      have := expired lease stored same
      omega
  have open? : purged.atCapacity task.projectId = false ↔
      ∀ project, store.getProject task.projectId = some project → 0 < project.maxConcurrentTasks →
          (store.unexpiredLeaseCount now task.projectId : Int) <
            project.maxConcurrentTasks := by
    rw [atCapacity_eq_false_iff, activeLeaseCount_deleteExpiredLeases store now]
    rfl
  simp only [mem_filter, Bool.and_eq_true, Bool.not_eq_true',
    decide_eq_true_eq, leaseFree, open?, inGivenProject_iff,
    contains_eq_mem, decide_eq_false_iff_not]
  constructor
  · rintro ⟨⟨stored, ⟨⟨pending, unleased⟩, inProject⟩, notExcluded⟩, belowCap⟩
    exact ⟨stored, pending, unleased, inProject, notExcluded, belowCap⟩
  · rintro ⟨stored, pending, unleased, inProject, notExcluded, belowCap⟩
    exact ⟨⟨stored, ⟨⟨pending, unleased⟩, inProject⟩, notExcluded⟩, belowCap⟩

theorem acquireTaskLease_selects
    (store : Store) (now : Int) (workerId : String) (leaseSeconds : Int)
    (projectId : Option String) (excludeTaskIds : List String) :
    match (store.acquireTaskLease now workerId leaseSeconds projectId
      excludeTaskIds).2 with
    | some task =>
      store.Eligible now projectId excludeTaskIds task ∧
        ∀ other, store.Eligible now projectId excludeTaskIds other → DispatchOrder task other
    | none =>
      ∀ other, ¬ store.Eligible now projectId excludeTaskIds other := by
  have accepts := eligible_iff store now projectId excludeTaskIds
  rcases store.acquireTaskLease_cases now workerId leaseSeconds projectId excludeTaskIds with
    ⟨scanned, outcome⟩ | ⟨task, _, scanned, _, _, _, outcome⟩
  · rw [outcome]
    intro other eligible
    obtain ⟨listed, accepted⟩ := (accepts other).mpr eligible
    have refused := (find?_orderBy_eq_none_iff DispatchOrder).mp scanned other listed
    rw [accepted] at refused
    cases refused
  · rw [outcome]
    obtain ⟨listed, accepted, first⟩ := find?_orderBy_first DispatchOrder scanned
    refine ⟨(accepts task).mp ⟨listed, accepted⟩, ?_⟩
    intro other eligible
    obtain ⟨otherListed, otherAccepted⟩ := (accepts other).mpr eligible
    exact first other otherListed otherAccepted

/-! ## The operations keep the caps -/

theorem leaseInProject_iff {lease : TaskLease} {task : Task}
    (present : store.getTask lease.taskId = some task) :
    store.leaseInProject projectId lease = true ↔
      task.projectId = projectId := by
  simp [leaseInProject, present]

theorem LeasesWithinCaps.of_sublist (sound : store.LeasesWithinCaps)
    (tasks : next.tasks = store.tasks)
    (projects : next.projects = store.projects)
    (rows : next.taskLeases.rows.Sublist store.taskLeases.rows) :
    next.LeasesWithinCaps := by
  have sameTasks : next.getTask = store.getTask := by
    funext taskId
    simp [getTask, tasks]
  refine ⟨?_, ?_⟩
  · intro project member capped
    rw [projects] at member
    have fewer : next.activeLeaseCount project.id ≤ store.activeLeaseCount project.id := by
      have sameTest : next.leaseInProject project.id = store.leaseInProject project.id := by
        funext lease
        simp [leaseInProject, sameTasks]
      unfold activeLeaseCount
      rw [sameTest]
      exact rows.countP_le
    have bound := sound.withinCaps project member capped
    omega
  · intro lease member
    rw [sameTasks]
    exact sound.tasksStored lease (rows.subset member)

theorem LeasesWithinCaps.deleteExpiredLeases (sound : store.LeasesWithinCaps) (now : Int) :
    (store.deleteExpiredLeases now).LeasesWithinCaps :=
  sound.of_sublist rfl rfl filter_sublist

theorem LeasesWithinCaps.releaseTaskLease (sound : store.LeasesWithinCaps)
    (taskId : String) (workerId : Option String) :
    (store.releaseTaskLease taskId workerId).LeasesWithinCaps :=
  sound.of_sublist rfl rfl filter_sublist

theorem LeasesWithinCaps.acquireTaskLease (sound : store.LeasesWithinCaps)
    (now : Int) (workerId : String) (leaseSeconds : Int)
    (projectId : Option String) (excludeTaskIds : List String) :
    (store.acquireTaskLease now workerId leaseSeconds projectId
      excludeTaskIds).1.LeasesWithinCaps := by
  have purgedSound := sound.deleteExpiredLeases now
  rcases store.acquireTaskLease_cases now workerId leaseSeconds projectId excludeTaskIds with
    ⟨_, outcome⟩ | ⟨task, taskLeases, scanned, _, openSlot, rows, outcome⟩
  · rw [outcome]
    exact purgedSound
  · rw [outcome]
    have stored : task ∈ (store.deleteExpiredLeases now).tasks.rows := by
      have listed := mem_of_find?_eq_some scanned
      rw [leaseCandidates, mem_orderBy] at listed
      exact (mem_filter.mp listed).1
    have present : (store.deleteExpiredLeases now).getTask task.id = some task :=
      KeyedTable.lookup_of_mem _ stored
    let lease : TaskLease :=
      { taskId := task.id, workerId, leaseExpiresAt := now + secondsSpan leaseSeconds
        createdAt := now }
    refine ⟨?_, ?_⟩
    · intro project member capped
      have placed : (store.deleteExpiredLeases now).leaseInProject project.id
          lease = true ↔ task.projectId = project.id :=
        leaseInProject_iff present
      have bound := purgedSound.withinCaps project member capped
      have counted :
          ({ store.deleteExpiredLeases now with taskLeases } :
            Store).activeLeaseCount project.id =
          (store.deleteExpiredLeases now).activeLeaseCount project.id +
            if task.projectId = project.id then 1 else 0 := by
        simp only [activeLeaseCount, rows, countP_append, countP_singleton]
        congr 1
        exact if_congr placed rfl rfl
      rw [counted]
      by_cases same : task.projectId = project.id
      · -- The scan saw a free slot in this project.
        have slot := (atCapacity_eq_false_iff _ _).mp openSlot project
          (by rw [same]; exact KeyedTable.lookup_of_mem _ member) capped
        rw [same] at slot
        simp only [same, if_true]
        omega
      · simp only [same, if_false]
        omega
    · intro lease member
      rw [rows, mem_append, mem_singleton] at member
      rcases member with old | rfl
      · exact purgedSound.tasksStored lease old
      · exact ⟨task, present⟩

theorem LeasesWithinCaps.of_tasks (sound : store.LeasesWithinCaps)
    (projects : next.projects = store.projects)
    (leases : next.taskLeases = store.taskLeases)
    (keeps : ∀ taskId task, store.getTask taskId = some task →
      ∃ kept, next.getTask taskId = some kept ∧
        kept.projectId = task.projectId) :
    next.LeasesWithinCaps := by
  refine ⟨?_, ?_⟩
  · intro project member capped
    rw [projects] at member
    have sameCount : next.activeLeaseCount project.id = store.activeLeaseCount project.id := by
      unfold activeLeaseCount
      rw [leases]
      apply countP_congr
      intro lease leaseMember
      obtain ⟨task, present⟩ := sound.tasksStored lease leaseMember
      obtain ⟨kept, keptPresent, sameProject⟩ := keeps _ task present
      rw [leaseInProject_iff present, leaseInProject_iff keptPresent, sameProject]
    rw [sameCount]
    exact sound.withinCaps project member capped
  · intro lease member
    rw [leases] at member
    obtain ⟨task, present⟩ := sound.tasksStored lease member
    obtain ⟨kept, keptPresent, _⟩ := keeps _ task present
    exact ⟨kept, keptPresent⟩

theorem LeasesWithinCaps.writeTaskStatus (sound : store.LeasesWithinCaps)
    (taskId : String) (status : TaskStatus) :
    (store.writeTaskStatus taskId status).LeasesWithinCaps := by
  apply sound.of_tasks (writeTaskStatus_projects store taskId status)
    (writeTaskStatus_taskLeases store taskId status)
  intro wanted task present
  refine ⟨_, by rw [getTask_writeTaskStatus, present]; rfl, ?_⟩
  split <;> rfl

theorem LeasesWithinCaps.createTask (sound : store.LeasesWithinCaps) (task : Task) :
    (store.createTask task).LeasesWithinCaps := by
  apply sound.of_tasks (createTask_projects store task) (createTask_taskLeases store task)
  intro wanted stored present
  exact ⟨stored, getTask_createTask_of_some present, rfl⟩

end Store

/-!
## Interleavings of lease calls

Any number of workers call the store; the calls are serialized and the clock
never runs backwards. Between the calls other parts of the harness create
tasks and write their statuses.
-/

inductive LeaseCall where
  | advanceClock (microseconds : Nat)
  | acquire (workerId : String) (leaseSeconds : Int)
      (projectId : Option String) (excludeTaskIds : List String)
  | release (taskId : String) (workerId : Option String)
  | list (projectId : Option String)
  | createTask (task : Task)
  | writeTaskStatus (taskId : String) (status : TaskStatus)

structure LeaseWorld where
  clock : Int
  store : Store

namespace LeaseWorld

def initial (clock : Int) (projects : KeyedTable Project.id)
    (tasks : KeyedTable Task.id) : LeaseWorld where
  clock
  store := { projects, tasks }

variable (world : LeaseWorld)

def perform : LeaseCall → LeaseWorld
  | .advanceClock microseconds => { world with clock := world.clock + microseconds }
  | .acquire workerId leaseSeconds projectId excludeTaskIds =>
    { world with
      store := (world.store.acquireTaskLease world.clock workerId
        leaseSeconds projectId excludeTaskIds).1 }
  | .release taskId workerId => { world with store := world.store.releaseTaskLease taskId workerId }
  | .list projectId =>
    { world with
      store := (world.store.listTaskLeases world.clock projectId).1 }
  | .createTask task => { world with store := world.store.createTask task }
  | .writeTaskStatus taskId status =>
    { world with store := world.store.writeTaskStatus taskId status }

def performAll (calls : List LeaseCall) : LeaseWorld := calls.foldl perform world

theorem initial_withinCaps (clock : Int) (projects : KeyedTable Project.id)
    (tasks : KeyedTable Task.id) :
    (initial clock projects tasks).store.LeasesWithinCaps := by
  refine ⟨?_, ?_⟩
  · intro project _ capped
    have none : (initial clock projects tasks).store.activeLeaseCount
        project.id = 0 := rfl
    rw [none]
    omega
  · intro lease member
    cases member

theorem perform_withinCaps {world : LeaseWorld} (sound : world.store.LeasesWithinCaps)
    (call : LeaseCall) : (world.perform call).store.LeasesWithinCaps := by
  cases call with
  | advanceClock _ => exact sound
  | acquire workerId leaseSeconds projectId excludeTaskIds =>
    exact sound.acquireTaskLease world.clock workerId leaseSeconds projectId excludeTaskIds
  | release taskId workerId => exact sound.releaseTaskLease taskId workerId
  | list _ => exact sound.deleteExpiredLeases world.clock
  | createTask task => exact sound.createTask task
  | writeTaskStatus taskId status => exact sound.writeTaskStatus taskId status

theorem performAll_withinCaps {world : LeaseWorld} (sound : world.store.LeasesWithinCaps)
    (calls : List LeaseCall) :
    (world.performAll calls).store.LeasesWithinCaps := by
  induction calls generalizing world with
  | nil => exact sound
  | cons call _ ih => exact ih (perform_withinCaps sound call)

theorem perform_projects (call : LeaseCall) :
    (world.perform call).store.projects = world.store.projects := by
  cases call with
  | acquire workerId leaseSeconds projectId excludeTaskIds =>
    rcases world.store.acquireTaskLease_cases world.clock workerId
        leaseSeconds projectId excludeTaskIds with
      ⟨_, outcome⟩ | ⟨_, _, _, _, _, _, outcome⟩
    · simp [perform, outcome]
    · simp [perform, outcome]
  | createTask task => exact Store.createTask_projects world.store task
  | _ => rfl

theorem performAll_projects (calls : List LeaseCall) :
    (world.performAll calls).store.projects = world.store.projects := by
  induction calls generalizing world with
  | nil => rfl
  | cons call _ ih => exact (ih (world.perform call)).trans (perform_projects world call)

/-- Along every interleaving no task has two lease rows, no capped project
has more unexpired leases than its cap, and an acquisition answers with a first
eligible task, or with none only when no task is eligible. -/
theorem leases_exclusive_capped_and_fair (clock : Int) (projects : KeyedTable Project.id)
    (tasks : KeyedTable Task.id) (calls : List LeaseCall) :
    let world := (initial clock projects tasks).performAll calls
    (world.store.taskLeases.rows.map TaskLease.taskId).Nodup ∧
      (∀ project ∈ projects.rows, 0 < project.maxConcurrentTasks →
        (world.store.unexpiredLeaseCount world.clock project.id : Int) ≤
          project.maxConcurrentTasks) ∧
      ∀ workerId leaseSeconds projectId excludeTaskIds,
        match (world.store.acquireTaskLease world.clock workerId leaseSeconds
          projectId excludeTaskIds).2 with
        | some task =>
          world.store.Eligible world.clock projectId excludeTaskIds task ∧
            ∀ other, world.store.Eligible world.clock projectId excludeTaskIds other →
              DispatchOrder task other
        | none =>
          ∀ other, ¬ world.store.Eligible world.clock projectId excludeTaskIds
              other := by
  intro world
  have sound : world.store.LeasesWithinCaps :=
    performAll_withinCaps (initial_withinCaps clock projects tasks) calls
  refine ⟨world.store.taskLeases.keysNodup, ?_, ?_⟩
  · intro project member capped
    have kept : project ∈ world.store.projects.rows := by
      rw [performAll_projects]
      exact member
    have bound := sound.withinCaps project kept capped
    have fewer := world.store.unexpiredLeaseCount_le_activeLeaseCount world.clock project.id
    omega
  · intro workerId leaseSeconds projectId excludeTaskIds
    exact world.store.acquireTaskLease_selects world.clock workerId
      leaseSeconds projectId excludeTaskIds

end LeaseWorld

end AccruviaHarness
