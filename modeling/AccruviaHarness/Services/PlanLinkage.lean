import AccruviaHarness.Library.References
import AccruviaHarness.Services.FollowOns

/-!
# The lineage of tasks

Every task of an objective is to name a stored plan of the objective and to
carry the plan's node in the diagram.
-/

namespace AccruviaHarness

open Library

def Plan.autoCreated (plan : Plan) : Bool :=
  (plan.atomicityAssessment.get "reason").isText "auto-created 1:1 plan"

/-- `task.plan_id`, with an empty id read as none. -/
def Task.plan? (task : Task) : Option String := task.planId.filter fun planId => planId ≠ ""

structure Lineage (store : Store) : Prop where
  linked : ∀ task ∈ store.tasks.rows, ∀ objectiveId, task.objective? = some objectiveId →
      ∃ plan ∈ store.plans.rows, task.planId = some plan.id ∧
        plan.objectiveId = objectiveId ∧
          task.mermaidNodeId = plan.mermaidNodeId ∧
            plan.mermaidNodeId = some (canonicalNodeId plan.id)
  unlinked : ∀ task ∈ store.tasks.rows, task.objective? = none →
    task.planId = none ∧ task.mermaidNodeId = none
  derived : ∀ plan ∈ store.plans.rows, plan.autoCreated →
    ∃! task, task ∈ store.tasks.rows ∧ task.planId = some plan.id

structure Traced (store : Store) : Prop extends Lineage store where
  canonical : ∀ plan ∈ store.plans.rows,
    plan.mermaidNodeId = some (canonicalNodeId plan.id)

def planReferencing : Referencing Plan.id Task where
  link := Task.planId
  bound task := task.objective? ≠ none
  agrees task plan :=
    task.objective? = some plan.objectiveId ∧
      task.mermaidNodeId = plan.mermaidNodeId
  isPrivate plan := plan.autoCreated

def Undrawn (task : Task) : Prop := task.objective? = none → task.mermaidNodeId = none

namespace Traced

variable {store : Store}

theorem holds (traced : Traced store) :
    planReferencing.Holds store.plans store.tasks.rows where
  linked task member bound := by
    obtain ⟨objectiveId, owned⟩ := Option.ne_none_iff_exists'.mp bound
    obtain ⟨plan, stored, link, own, node, _⟩ := traced.linked task member objectiveId owned
    exact ⟨plan, stored, link, owned.trans (congrArg some own.symm), node⟩
  unlinked task member unbound := (traced.unlinked task member (not_not.mp unbound)).1
  owned := traced.derived

theorem of_holds (holds : planReferencing.Holds store.plans store.tasks.rows)
    (undrawn : ∀ task ∈ store.tasks.rows, Undrawn task)
    (canonical : ∀ plan ∈ store.plans.rows,
      plan.mermaidNodeId = some (canonicalNodeId plan.id)) :
    Traced store where
  linked task member objectiveId owned := by
    have bound : task.objective? ≠ none := by
      rw [owned]
      exact Option.some_ne_none objectiveId
    obtain ⟨plan, stored, link, own, node⟩ := holds.linked task member bound
    rw [owned] at own
    exact ⟨plan, stored, link, (Option.some.inj own).symm, node, canonical plan stored⟩
  unlinked task member unbound :=
    ⟨holds.unlinked task member (not_not.mpr unbound), undrawn task member unbound⟩
  derived := holds.owned
  canonical

theorem undrawn (traced : Traced store) : ∀ task ∈ store.tasks.rows, Undrawn task :=
  fun task member unbound => (traced.unlinked task member unbound).2

theorem congr {later : Store} (traced : Traced store)
    (tasks : later.tasks = store.tasks) (plans : later.plans = store.plans) :
    Traced later := by
  refine of_holds ?_ ?_ ?_
  · rw [tasks, plans]
    exact traced.holds
  · rw [tasks]
    exact traced.undrawn
  · rw [plans]
    exact traced.canonical

theorem grow {plans : KeyedTable Plan.id} {tasks : KeyedTable Task.id} {added : Task}
    (traced : Traced store) (rows : tasks.rows = store.tasks.rows ++ [added])
    (holds : planReferencing.Holds plans (store.tasks.rows ++ [added]))
    (undrawn : Undrawn added)
    (canonical : ∀ plan ∈ plans.rows,
      plan.mermaidNodeId = some (canonicalNodeId plan.id)) :
    Traced { store with plans, tasks } := by
  refine of_holds ?_ ?_ canonical
  · show planReferencing.Holds plans tasks.rows
    rw [rows]
    exact holds
  · show ∀ task ∈ tasks.rows, Undrawn task
    intro task member
    rw [rows] at member
    rcases List.mem_append.mp member with earlier | new
    · exact traced.undrawn task earlier
    · cases List.mem_singleton.mp new
      exact undrawn

theorem holds_named {added : Task} {plan : Plan} (traced : Traced store)
    (stored : plan ∈ store.plans.rows) (link : added.planId = some plan.id)
    (own : added.objective? = some plan.objectiveId)
    (node : added.mermaidNodeId = plan.mermaidNodeId)
    (shared : plan.autoCreated = false) :
    planReferencing.Holds store.plans (store.tasks.rows ++ [added]) := by
  refine traced.holds.addChild (fun _ => ⟨plan, stored, link, own, node⟩)
    (fun unowned => ?_) fun other otherStored isPrivate otherLink => ?_
  · rw [not_not.mp unowned] at own
    cases own
  · have sameId : other.id = plan.id := by
      rw [show added.planId = some other.id from otherLink] at link
      exact Option.some.inj link
    rw [store.plans.eq_of_key_eq otherStored stored sameId] at isPrivate
    rw [show plan.autoCreated = true from isPrivate] at shared
    cases shared

theorem empty (tasks : store.tasks = .empty Task.id)
    (plans : store.plans = .empty Plan.id) : Traced store := by
  refine of_holds ?_ ?_ ?_
  · rw [tasks, plans]
    exact .empty planReferencing
  · rw [tasks]
    exact fun _ member => absurd member List.not_mem_nil
  · rw [plans]
    exact fun _ member => absurd member List.not_mem_nil

end Traced

/-! ## What a new task must satisfy -/

def PlanNamed (store : Store) (task : Task) : Prop :=
  task.planId = none ∨ ∃ plan ∈ store.plans.rows, task.planId = some plan.id ∧
      task.objective? = some plan.objectiveId

instance (store : Store) (task : Task) : Decidable (PlanNamed store task) :=
  inferInstanceAs (Decidable (_ ∨ ∃ plan ∈ store.plans.rows, _ ∧ _))

/-- What is given keeps the lineage: a task of no objective comes without a
node, and of a task that comes with a plan the node is the plan's, and the plan
is no derived one of another task. -/
structure KeepsLineage (store : Store) (task : Task) : Prop where
  undrawn : Undrawn task
  canonical : ∀ planId, task.plan? = some planId → TaskService.orEmptyText task.mermaidNodeId ≠ "" →
      task.mermaidNodeId = some (canonicalNodeId planId)
  shared : ∀ plan ∈ store.plans.rows, task.plan? = some plan.id →
    plan.autoCreated = false

def Accepted (store : Store) (task : Task) : Prop :=
  task.objective? ≠ none → task.plan? = none →
    store.getTask task.id = none ∧ (store.getProject task.projectId).isSome

namespace TaskService

variable {identities : TaskIdentities} {store : Store} {task : Task}

/-- What `_ensure_plan_linkage` does, path by path. -/
inductive Linking (identities : TaskIdentities) (store : Store) (task : Task) :
    Store → Task → Prop where
  | unbound (unowned : task.objective? = none) :
      Linking identities store task store task
  | given {objectiveId planId} (owned : task.objective? = some objectiveId)
      (named : task.plan? = some planId)
      (drawn : orEmptyText task.mermaidNodeId ≠ "") :
      Linking identities store task store task
  | looked {objectiveId planId} (owned : task.objective? = some objectiveId)
      (named : task.plan? = some planId) {node : Option String}
      (found : ∀ plan, store.getPlan planId = some plan →
        node = plan.mermaidNodeId) :
      Linking identities store task store
        { task with planId := some planId, mermaidNodeId := node }
  | derived {objectiveId files plans} (owned : task.objective? = some objectiveId)
      (unnamed : task.plan? = none)
      (inserted : store.plans.insert?
        (derivedPlan identities task objectiveId files) = some plans) :
      Linking identities store task { store with plans }
        { task with
          planId := some identities.planId
          mermaidNodeId := some (canonicalNodeId identities.planId) }

theorem linking_of_ensurePlanLinkage {planned : Store} {linked : Task}
    (returned : ensurePlanLinkage identities store task = .ok (planned, linked)) :
    Linking identities store task planned linked := by
  unfold ensurePlanLinkage at returned
  split at returned
  next unowned =>
    cases returned
    exact .unbound unowned
  next objectiveId owned =>
    split at returned
    next planId named =>
      split at returned
      next drawn =>
        cases returned
        exact .given owned named drawn
      · cases returned
        refine .looked owned named fun plan found => ?_
        rw [found]
    next unnamed =>
      obtain ⟨_, _, returned⟩ := exists_of_bind_ok returned
      obtain ⟨_, created, returned⟩ := exists_of_bind_ok returned
      cases returned
      unfold Store.createPlan at created
      split at created
      next plans inserted =>
        cases created
        exact .derived owned unnamed inserted
      · cases created

theorem planId_of_plan? {planId : String} (named : task.plan? = some planId) :
    task.planId = some planId :=
  Option.eq_some_of_filter_eq_some named

theorem undrawn_of_objective? {objectiveId : String} (owned : task.objective? = some objectiveId) :
    Undrawn task := by
  intro unowned
  rw [owned] at unowned
  cases unowned

theorem exists_of_plan? {planId : String} (named : PlanNamed store task)
    (given : task.plan? = some planId) :
    ∃ plan ∈ store.plans.rows, plan.id = planId ∧ task.objective? = some plan.objectiveId := by
  have link := planId_of_plan? given
  rcases named with absent | ⟨plan, stored, same, own⟩
  · rw [link] at absent
    cases absent
  · rw [link] at same
    exact ⟨plan, stored, (Option.some.inj same).symm, own⟩

theorem Linking.traced {planned : Store} {linked : Task}
    (linking : Linking identities store task planned linked)
    (traced : Traced store) (named : PlanNamed store task)
    (keeps : KeepsLineage store task)
    {tasks : KeyedTable Task.id}
    (inserted : planned.tasks.insert? linked = some tasks) :
    Traced { planned with tasks } := by
  have rows := KeyedTable.rows_of_insert? inserted
  cases linking with
  | unbound unowned =>
    have bare : task.planId = none := by
      rcases named with absent | ⟨plan, _, _, own⟩
      · exact absent
      · rw [unowned] at own
        cases own
    refine traced.grow rows ?_ keeps.undrawn traced.canonical
    refine traced.holds.addChild (fun owned => absurd unowned owned)
      (fun _ => bare) fun plan _ _ link => ?_
    rw [show planReferencing.link task = none from bare] at link
    cases link
  | given _ given drawn =>
    obtain ⟨plan, stored, rfl, own⟩ := exists_of_plan? named given
    have node : task.mermaidNodeId = plan.mermaidNodeId :=
      (keeps.canonical plan.id given drawn).trans (traced.canonical plan stored).symm
    exact traced.grow rows (traced.holds_named stored (planId_of_plan? given) own node
        (keeps.shared plan stored given))
      keeps.undrawn traced.canonical
  | looked owned given found =>
    obtain ⟨plan, stored, rfl, own⟩ := exists_of_plan? named given
    exact traced.grow rows (traced.holds_named stored rfl own
        (found plan (store.plans.lookup_of_mem stored))
        (keeps.shared plan stored given))
      (undrawn_of_objective? owned) traced.canonical
  | derived owned _ planInserted =>
    refine traced.grow rows (traced.holds.addPair planInserted ?_ rfl ⟨owned, rfl⟩)
      (undrawn_of_objective? owned) fun plan member => ?_
    · exact Option.ne_none_iff_exists'.mpr ⟨_, owned⟩
    · rw [KeyedTable.rows_of_insert? planInserted] at member
      rcases List.mem_append.mp member with earlier | new
      · exact traced.canonical plan earlier
      · cases List.mem_singleton.mp new
        rfl

end TaskService

end AccruviaHarness
