import AccruviaHarness.Library.GraphSearch
import AccruviaHarness.Store.Schema

/-!
# The tree of a retried failure

`_retry_tree_root` follows the parent links of a task, and
`_retry_tree_descendants` searches the tasks of the project along them.
-/

namespace AccruviaHarness

open Library List

namespace TaskService

/-- `parent_task_id`, where it is not empty. -/
def parentLink (task : Task) : Option String :=
  task.parentTaskId.filter fun parentId => parentId ≠ ""

/-- The loop of `_retry_tree_root`. -/
structure Climb where
  current : Task
  visited : List String

variable (store : Store)

def climbStep (climb : Climb) : Option Climb :=
  match parentLink climb.current with
  | none => none
  | some parentId =>
    match store.getTask parentId with
    | none => none
    | some parent =>
      if parent.id ∈ climb.visited then none
      else some { current := parent, visited := parent.id :: climb.visited }

def retryTreeRoot (task : Task) : Task :=
  (iterate (climbStep store) store.tasks.rows.length
    { current := task, visited := [task.id] }).current

variable (tasks : List Task)

/-- `children_by_parent.get(parent_id, [])`. -/
def childrenByParent (parentId : String) : List Task :=
  tasks.filter fun candidate => parentLink candidate = some parentId

def retryTreeDescendants (rootTask : Task) : List Task :=
  let tasks := store.listTasks rootTask.projectId
  let children := childrenByParent tasks
  orderBy Store.CreatedOrder (searchFrom Task.id children tasks (children rootTask.id))

def Child : Task → Task → Prop := Arrow Task.id (childrenByParent tasks)

/-! ## The walks end -/

section

variable {store : Store} {tasks : List Task}

theorem mem_childrenByParent {parentId : String} {candidate : Task} :
    candidate ∈ childrenByParent tasks parentId ↔
      candidate ∈ tasks ∧ parentLink candidate = some parentId := by
  simp [childrenByParent]

theorem childrenByParent_subset (parentId : String) : childrenByParent tasks parentId ⊆ tasks :=
  filter_subset_self _

def unvisited (store : Store) (climb : Climb) : Nat :=
  (store.tasks.rows.filter fun task => task.id ∉ climb.visited).length

variable {climb later : Climb} {task : Task}

theorem climbStep_eq_some (taken : climbStep store climb = some later) :
    later.current ∈ store.tasks.rows ∧ parentLink climb.current = some later.current.id ∧
        later.current.id ∉ climb.visited ∧
          later.visited = later.current.id :: climb.visited := by
  unfold climbStep at taken
  split at taken
  · cases taken
  next parentId link =>
    split at taken
    · cases taken
    next parent found =>
      split at taken
      · cases taken
      next fresh =>
        cases taken
        obtain ⟨member, named⟩ := store.tasks.lookup_eq_some_iff.mp found
        exact ⟨member, link.trans (congrArg some named.symm), fresh, rfl⟩

theorem unvisited_climbStep (taken : climbStep store climb = some later) :
    unvisited store later < unvisited store climb := by
  obtain ⟨member, _, fresh, visited⟩ := climbStep_eq_some taken
  have fewer := sum_filter_unseen store.tasks.keysNodup member fresh fun _ => 1
  rw [← visited, map_const', map_const', sum_replicate, sum_replicate] at fewer
  simp only [Nat.nsmul_eq_mul, Nat.mul_one] at fewer
  unfold unvisited
  omega

theorem climb_stops (store : Store) (task : Task) :
    climbStep store (iterate (climbStep store) store.tasks.rows.length
        { current := task, visited := [task.id] }) = none := by
  refine step_iterate_of_measure (fun _ => True) (unvisited store)
    (fun _ _ _ _ => trivial) (fun _ _ _ taken => unvisited_climbStep taken)
    trivial ?_
  exact length_filter_le _ _

theorem path_retryTreeRoot (member : task ∈ store.tasks.rows) :
    retryTreeRoot store task ∈ store.tasks.rows ∧
      Relation.ReflTransGen (Child store.tasks.rows) (retryTreeRoot store task) task := by
  refine iterate_invariant (fun climb : Climb =>
    climb.current ∈ store.tasks.rows ∧
      Relation.ReflTransGen (Child store.tasks.rows) climb.current task)
    (fun climb later holds taken => ?_) _ ⟨member, .refl⟩
  obtain ⟨stored, link, _, _⟩ := climbStep_eq_some taken
  exact ⟨stored, .head (mem_childrenByParent.mpr ⟨holds.1, link⟩) holds.2⟩

theorem mem_listTasks {projectId : String} :
    task ∈ store.listTasks projectId ↔ task ∈ store.tasks.rows ∧
        (projectId = "" ∨ task.projectId = projectId) := by
  simp [Store.listTasks, mem_orderBy]

theorem finiteGraph_listTasks (store : Store) (projectId : String) :
    FiniteGraph Task.id (childrenByParent (store.listTasks projectId))
      (store.listTasks projectId) where
  distinct := nodup_map_orderBy _ (store.tasks.keysNodup.sublist (filter_sublist.map Task.id))
  closed := childrenByParent_subset

theorem search_halts (store : Store) (rootTask : Task) :
    let tasks := store.listTasks rootTask.projectId
    let children := childrenByParent tasks
    searchStep Task.id children (iterate (searchStep Task.id children)
        (searchBound Task.id children tasks (children rootTask.id))
        { stack := (children rootTask.id).reverse }) = none :=
  search_stops (finiteGraph_listTasks store _) (childrenByParent_subset _)

theorem mem_retryTreeDescendants {rootTask : Task} :
    task ∈ retryTreeDescendants store rootTask ↔
      Relation.TransGen (Child (store.listTasks rootTask.projectId)) rootTask
        task := by
  unfold retryTreeDescendants
  rw [mem_orderBy, mem_searchFrom (finiteGraph_listTasks store _) (childrenByParent_subset _)]
  exact (@Relation.TransGen.head'_iff _
    (Child (store.listTasks rootTask.projectId)) rootTask task).symm

theorem nodup_retryTreeDescendants (rootTask : Task) :
    ((retryTreeDescendants store rootTask).map Task.id).Nodup :=
  nodup_map_orderBy _ (nodup_searchFrom (finiteGraph_listTasks store _) (childrenByParent_subset _))

end

/-! ## Tasks that are added below a task -/

structure OneProject (projectId : String) (store : Store) : Prop where
  owned : ∀ task ∈ store.tasks.rows, task.projectId = projectId
  named : ∀ task ∈ store.tasks.rows, task.id ≠ ""

structure AddedBelow (parent : Task) (created : List Task)
    (before after : Store) : Prop where
  placed : after.tasks.rows = before.tasks.rows ++ created
  linked : ∀ task ∈ created, parentLink task = some parent.id
  unlinked : ∀ task ∈ created, ∀ stored ∈ before.tasks.rows, parentLink stored ≠ some task.id

section

variable {projectId : String} {before after : Store} {parent rootTask : Task}
  {created : List Task}

theorem child_listTasks_iff {store : Store} (single : OneProject projectId store)
    (own : rootTask.projectId = projectId) {upper lower : Task} :
    Child (store.listTasks rootTask.projectId) upper lower ↔
      Child store.tasks.rows upper lower := by
  have listed : lower ∈ store.listTasks rootTask.projectId ↔ lower ∈ store.tasks.rows := by
    rw [mem_listTasks]
    exact and_iff_left_of_imp fun stored => .inr ((single.owned lower stored).trans own.symm)
  unfold Child Arrow
  rw [mem_childrenByParent, mem_childrenByParent, listed]

variable {task : Task}

theorem mem_retryTreeDescendants_of_oneProject {store : Store} (single : OneProject projectId store)
    (own : rootTask.projectId = projectId) :
    task ∈ retryTreeDescendants store rootTask ↔
      Relation.TransGen (Child store.tasks.rows) rootTask task := by
  rw [mem_retryTreeDescendants]
  have same : Child (store.listTasks rootTask.projectId) = Child store.tasks.rows := by
    funext upper lower
    exact propext (child_listTasks_iff single own)
  rw [same]

theorem transGen_of_addedBelow (added : AddedBelow parent created before after)
    (stored : parent ∈ before.tasks.rows)
    (path : Relation.TransGen (Child after.tasks.rows) rootTask task) :
    Relation.TransGen (Child before.tasks.rows) rootTask task ∨ task ∈ created := by
  have step {lower : Task} {upperId : String}
      (child : lower ∈ childrenByParent after.tasks.rows upperId) :
      lower ∈ childrenByParent before.tasks.rows upperId ∨ lower ∈ created := by
    obtain ⟨member, link⟩ := mem_childrenByParent.mp child
    rw [added.placed] at member
    rcases mem_append.mp member with earlier | new
    · exact .inl (mem_childrenByParent.mpr ⟨earlier, link⟩)
    · exact .inr new
  have childless {upper lower : Task} (new : upper ∈ created)
      (child : Child after.tasks.rows upper lower) : False := by
    obtain ⟨member, link⟩ := mem_childrenByParent.mp child
    rw [added.placed] at member
    rcases mem_append.mp member with earlier | newLower
    · exact added.unlinked upper new lower earlier link
    · have same := Option.some.inj ((added.linked lower newLower).symm.trans link)
      have distinct := after.tasks.keysNodup
      rw [added.placed, map_append] at distinct
      exact disjoint_of_nodup_append distinct (mem_map_of_mem stored) (same ▸ mem_map_of_mem new)
  induction path with
  | single child => exact (step child).imp_left .single
  | tail _ child ih =>
    rcases ih with earlier | new
    · exact (step child).imp_left earlier.tail
    · exact (childless new child).elim

theorem length_retryTreeDescendants_le (added : AddedBelow parent created before after)
    (single : OneProject projectId before) (later : OneProject projectId after)
    (stored : parent ∈ before.tasks.rows)
    (rooted : rootTask ∈ before.tasks.rows) :
    (retryTreeDescendants after rootTask).length ≤
      (retryTreeDescendants before rootTask).length + created.length := by
  have own := single.owned rootTask rooted
  have inside : retryTreeDescendants after rootTask ⊆
      retryTreeDescendants before rootTask ++ created := by
    intro task member
    have path := (mem_retryTreeDescendants_of_oneProject later own).mp member
    rcases transGen_of_addedBelow added stored path with earlier | new
    · exact mem_append_left _ ((mem_retryTreeDescendants_of_oneProject single own).mpr earlier)
    · exact mem_append_right _ new
  have distinct : (retryTreeDescendants after rootTask).Nodup :=
    List.Nodup.of_map Task.id (nodup_retryTreeDescendants rootTask)
  rw [← length_append]
  exact (subperm_of_subset distinct inside).length_le

theorem mem_retryTreeDescendants_of_created (added : AddedBelow parent created before after)
    (single : OneProject projectId before) (later : OneProject projectId after)
    (stored : parent ∈ before.tasks.rows) (new : task ∈ created) :
    task ∈ retryTreeDescendants after (retryTreeRoot before parent) := by
  obtain ⟨rooted, path⟩ := path_retryTreeRoot stored
  rw [mem_retryTreeDescendants_of_oneProject later (single.owned _ rooted)]
  have kept (upper lower : Task) (child : Child before.tasks.rows upper lower) :
      Child after.tasks.rows upper lower := by
    obtain ⟨member, link⟩ := mem_childrenByParent.mp child
    refine mem_childrenByParent.mpr ⟨?_, link⟩
    rw [added.placed]
    exact mem_append_left _ member
  have last : Child after.tasks.rows parent task := by
    refine mem_childrenByParent.mpr ⟨?_, added.linked task new⟩
    rw [added.placed]
    exact mem_append_right _ new
  exact Relation.TransGen.tail' (Relation.ReflTransGen.mono kept _ _ path) last

end

end TaskService

end AccruviaHarness
