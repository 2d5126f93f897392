import AccruviaHarness.Promotion.ObjectivePromotion
import AccruviaHarness.Python.DictUpdate
import AccruviaHarness.Store.ObjectivePhase
import Mathlib.Logic.Relation

/-!
# The marks of tasks that are done with

The metadata of a task says whether the task is obsolete, whether its failure
is waived and whether its work is in the repository. Such a task does not count
for its objective, or it is left out of the next promotion.
-/

namespace AccruviaHarness

open Library

/-- The `kind` of a disposition that may be missing. -/
def kindOf (disposition : Option PyValue) : String :=
  match (disposition.getD .none).asDict with
  | some entries => pyStrip (entries.getStr "kind")
  | none => ""

theorem Task.dispositionKind_eq (task : Task) (key : String) :
    task.dispositionKind key = kindOf (task.externalRefMetadata.find key) :=
  congrArg (fun value => kindOf (some value)) (PyDict.get_eq_find _ key)

def markKeys : List String :=
  ["workflow_state_disposition", "failed_task_disposition", "repo_applyback"]

/-- Neither a disposition that takes the task out of its objective nor a
record that its work is applied. -/
structure Undisposed (metadata : PyDict) : Prop where
  relevant :
    kindOf (metadata.find "workflow_state_disposition") ≠ "ignore_obsolete"
  unwaived :
    kindOf (metadata.find "failed_task_disposition") ≠ "waive_obsolete"
  unapplied : metadata.find "repo_applyback" = none

def SameMarks (first second : PyDict) : Prop := ∀ key ∈ markKeys, first.find key = second.find key

theorem SameMarks.refl (metadata : PyDict) : SameMarks metadata metadata := fun _ _ => rfl

variable {first second : PyDict} {task : Task} {store : Store}

theorem SameMarks.trans {third : PyDict} (early : SameMarks first second)
    (late : SameMarks second third) : SameMarks first third :=
  fun key marked => (early key marked).trans (late key marked)

theorem Undisposed.of_sameMarks (undisposed : Undisposed first)
    (same : SameMarks first second) : Undisposed second where
  relevant := by
    rw [← same _ (by decide)]
    exact undisposed.relevant
  unwaived := by
    rw [← same _ (by decide)]
    exact undisposed.unwaived
  unapplied := by
    rw [← same _ (by decide)]
    exact undisposed.unapplied

theorem undisposed_congr (same : SameMarks first second) : Undisposed first ↔ Undisposed second :=
  ⟨fun undisposed => undisposed.of_sameMarks same,
    fun undisposed => undisposed.of_sameMarks fun key marked => (same key marked).symm⟩

theorem find_update_iff {property : Option PyValue → Prop} (missing : property none)
    (entries items : PyDict) (key : String) :
    property ((entries.update items).find key) ↔
      property ((entries.without (items.map Prod.fst)).find key) ∧
        property ((PyDict.ofItems items).find key) := by
  rw [PyDict.find_update, PyDict.find_without]
  cases found : (PyDict.ofItems items).find key with
  | none =>
    rw [if_neg (PyDict.ofItems_find_eq_none_iff.mp found), Option.none_or]
    exact (and_iff_left missing).symm
  | some _ =>
    have given : key ∈ items.map Prod.fst := by
      by_contra absent
      rw [PyDict.ofItems_find_eq_none_iff.mpr absent] at found
      cases found
    rw [if_pos given, Option.some_or]
    exact (and_iff_right missing).symm

theorem undisposed_update_iff (entries items : PyDict) :
    Undisposed (entries.update items) ↔ Undisposed (entries.without (items.map Prod.fst)) ∧
        Undisposed (PyDict.ofItems items) := by
  have relevant := @find_update_iff
    (fun found => kindOf found ≠ "ignore_obsolete") (by decide) entries items
    "workflow_state_disposition"
  have unwaived := @find_update_iff
    (fun found => kindOf found ≠ "waive_obsolete") (by decide) entries items
    "failed_task_disposition"
  have unapplied := @find_update_iff (fun found => found = none) rfl entries items "repo_applyback"
  constructor
  · intro undisposed
    have kept := relevant.mp undisposed.relevant
    have keptFailure := unwaived.mp undisposed.unwaived
    have keptRecord := unapplied.mp undisposed.unapplied
    exact ⟨⟨kept.1, keptFailure.1, keptRecord.1⟩, ⟨kept.2, keptFailure.2, keptRecord.2⟩⟩
  · rintro ⟨left, given⟩
    exact
      { relevant := relevant.mpr ⟨left.relevant, given.relevant⟩
        unwaived := unwaived.mpr ⟨left.unwaived, given.unwaived⟩
        unapplied := unapplied.mpr ⟨left.unapplied, given.unapplied⟩ }

/-! ## What the marks decide -/

theorem Undisposed.not_ignored (undisposed : Undisposed task.externalRefMetadata) :
    task.isIgnoredForObjectivePhase = false := by
  unfold Task.isIgnoredForObjectivePhase Task.isIgnoredObsolete
  rw [Task.dispositionKind_eq, Task.dispositionKind_eq]
  simp [undisposed.relevant, undisposed.unwaived]

theorem Undisposed.not_applied (undisposed : Undisposed task.externalRefMetadata) :
    PromotionMixin.taskRepoApplied task = false := by
  unfold PromotionMixin.taskRepoApplied
  rw [PyDict.get_eq_find, undisposed.unapplied]
  rfl

theorem mem_completedUnappliedTasks {linkedTasks : List Task} (linked : task ∈ linkedTasks)
    (completed : task.status = .completed)
    (unapplied : PromotionMixin.taskRepoApplied task = false)
    (finished : ∃ run ∈ store.listRuns task.id, run.status = .completed) :
    task ∈ PromotionMixin.completedUnappliedTasks store linkedTasks := by
  obtain ⟨run, listed, done⟩ := finished
  have found : ∃ latest, PromotionMixin.latestCompletedRun store task = some latest := by
    refine Option.isSome_iff_exists.mp (List.find?_isSome.mpr ?_)
    exact ⟨run, List.mem_reverse.mpr listed, decide_eq_true done⟩
  obtain ⟨latest, found⟩ := found
  unfold PromotionMixin.completedUnappliedTasks
  refine List.mem_map.mpr ⟨(latest, task), ?_, rfl⟩
  rw [mem_orderBy]
  refine List.mem_filterMap.mpr ⟨task, List.mem_filter.mpr ⟨linked, ?_⟩, ?_⟩
  · simp [completed, unapplied]
  · rw [found]
    rfl

/-! ## Until a call disposes of the task -/

def LeavesMarks (taskId : String) (before after : Store) : Prop :=
  ∀ later, after.getTask taskId = some later → ∃ earlier, before.getTask taskId = some earlier ∧
      SameMarks earlier.externalRefMetadata later.externalRefMetadata

theorem leavesMarks_of_run {taskId : String} {reached : Store}
    (run : Relation.ReflTransGen (LeavesMarks taskId) store reached) :
    LeavesMarks taskId store reached := by
  induction run with
  | refl => exact fun later found => ⟨later, found, .refl _⟩
  | tail _ step ih =>
    intro later found
    obtain ⟨middle, between, late⟩ := step later found
    obtain ⟨earlier, stored, early⟩ := ih middle between
    exact ⟨earlier, stored, early.trans late⟩

/-- A task that no call has disposed of counts for its objective, and its work
is promoted, until a call disposes of it. -/
structure StartsUndisposed (store : Store) (task : Task) : Prop where
  undisposed : Undisposed task.externalRefMetadata
  counted : ∀ reached, Relation.ReflTransGen (LeavesMarks task.id) store reached →
      ∀ later, reached.getTask task.id = some later →
        later.isIgnoredForObjectivePhase = false
  candidate : ∀ reached, Relation.ReflTransGen (LeavesMarks task.id) store reached →
      ∀ later objective, reached.getTask task.id = some later →
        later ∈ HarnessUIDataService.linkedTasks reached objective →
          later.status = .completed → (∃ run ∈ reached.listRuns later.id, run.status = .completed) →
              later ∈ PromotionMixin.completedUnappliedTasks reached
                (HarnessUIDataService.linkedTasks reached objective)

theorem startsUndisposed_iff (stored : task ∈ store.tasks.rows) :
    StartsUndisposed store task ↔ Undisposed task.externalRefMetadata := by
  constructor
  · exact StartsUndisposed.undisposed
  · intro undisposed
    have unmarked {reached : Store} {later : Task}
        (run : Relation.ReflTransGen (LeavesMarks task.id) store reached)
        (found : reached.getTask task.id = some later) :
        Undisposed later.externalRefMetadata := by
      obtain ⟨_, known, same⟩ := leavesMarks_of_run run later found
      have first : store.getTask task.id = some task := store.tasks.lookup_of_mem stored
      rw [first] at known
      cases known
      exact undisposed.of_sameMarks same
    constructor
    case undisposed => exact undisposed
    case counted =>
      intro reached run later found
      exact (unmarked run found).not_ignored
    case candidate =>
      intro reached run later objective found linked completed finished
      exact mem_completedUnappliedTasks linked completed (unmarked run found).not_applied finished

end AccruviaHarness
