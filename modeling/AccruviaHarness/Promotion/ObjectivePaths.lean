import Mathlib.Data.List.Dedup
import AccruviaHarness.Library.DirectoryTree
import AccruviaHarness.Store.RunRecords

/-!
# The paths of an objective

The paths that a promotion applies are collected from the reports of all runs
of its tasks.
-/

namespace AccruviaHarness

open Library

abbrev FilePath := List String

/-- `Path(text).parts` of a relative path. -/
def pathParts (text : String) : FilePath :=
  ((text.toList.splitOn '/').map String.ofList).filter fun part => part ≠ "" && part ≠ "."

/-- `str(Path(text))` of a relative path. -/
def pathText (text : String) : String :=
  let parts := pathParts text
  if parts = [] then "." else "/".intercalate parts

def isAbsolute (text : String) : Bool := text.toList.head? = some '/'

/-- `Path.resolve` below a root, without symbolic links; a path that leaves
the root has no components below it. -/
def resolveParts (parts : FilePath) : Option FilePath :=
  parts.foldlM (fun path part =>
    if part = ".." then if path = [] then none else some path.dropLast
    else some (path ++ [part])) []

/-- The rows of the `events` table, and the JSON values of the report files:
none where the file cannot be read or parsed, and an error where reading it
raises something else. -/
structure RunReports where
  events : List Event
  readReport : String → Except PyError (Option PyValue)

namespace PromotionMixin

def latestReport (store : Store) (runId : String) : Option Artifact :=
  ((store.listArtifacts runId).filter fun artifact =>
    artifact.kind = "report" && artifact.path != "").getLast?

variable (reports : RunReports)

def changedFiles (store : Store) (runId : String) : Except PyError (List PyValue) :=
  match latestReport store runId with
  | none => .ok []
  | some artifact => do
      match ← reports.readReport artifact.path with
      | none => return []
      | some payload =>
        let entries ← payload.requireDict
        match entries.get "changed_files" with
        | .list items => return items
        | _ => return []

/-- The entry of the file set for an item of `changed_files`. -/
def repoFile (rawPath : PyValue) : Option String :=
  let path := pyStrip rawPath.orEmpty
  if path ≠ "" ∧ ¬ isAbsolute path ∧ ".." ∉ pathParts path then some (pathText path)
  else none

/-- `sorted` of the distinct texts. -/
def sortedTexts (texts : List String) : List String :=
  orderBy (fun first second : String => first ≤ second) texts.dedup

def objectiveRepoFileSet (store : Store)
    (linkedTasks : List Task) : Except PyError (List String) := do
  let runs := linkedTasks.flatMap fun task => store.listRuns task.id
  let items ← runs.mapM fun run => changedFiles reports store run.id
  return sortedTexts (items.flatten.filterMap repoFile)

end PromotionMixin

namespace RepositoryPromotionService

/-- The path that `_normalize_objective_paths` keeps for a text. -/
def normalizeObjectivePath (raw : String) : Option String :=
  let path := String.ofList <| (pyStrip raw).toList.map fun character =>
    if character = '\\' then '/' else character
  if path = "" ∨ isAbsolute path ∨ ['.', '.', '/'].isPrefixOf path.toList ∨
      ['/', '.', '.', '/'] <:+: '/' :: path.toList then
    none
  else if pathText path = "." then none
  else some (pathText path)

def normalizeObjectivePaths (objectivePaths : List String) : List String :=
  PromotionMixin.sortedTexts (objectivePaths.filterMap normalizeObjectivePath)

end RepositoryPromotionService

open PromotionMixin RepositoryPromotionService

/-- The place below the worktree that an item of `changed_files` ends up as,
when it gets through both cleanings. -/
def objectivePath (rawPath : PyValue) : Option FilePath := do
  let listed ← repoFile rawPath
  let normalized ← normalizeObjectivePath listed
  resolveParts (pathParts normalized)

/-- An item of `changed_files` is applied at the path or above it. -/
def CoversPath (path : FilePath) (rawPath : PyValue) : Prop :=
  ∃ covered, objectivePath rawPath = some covered ∧ covered <+: path

theorem mem_sortedTexts {texts : List String} {text : String} :
    text ∈ sortedTexts texts ↔ text ∈ texts := by
  unfold sortedTexts
  rw [mem_orderBy, List.mem_dedup]

theorem covered_by_objectivePaths_iff {reports : RunReports} {store : Store} {tasks : List Task}
    {objectivePaths : List String}
    (collected : objectiveRepoFileSet reports store tasks = .ok objectivePaths) (path : FilePath) :
    (∃ relativePath ∈ normalizeObjectivePaths objectivePaths,
        ∃ covered, resolveParts (pathParts relativePath) = some covered ∧ covered <+: path) ↔
      ∃ task ∈ tasks, ∃ run ∈ store.listRuns task.id,
        ∃ items, changedFiles reports store run.id = .ok items ∧
          ∃ rawPath ∈ items, CoversPath path rawPath := by
  unfold objectiveRepoFileSet at collected
  obtain ⟨_, read, collected⟩ := exists_of_bind_ok collected
  cases collected
  obtain ⟨runOf, itemsOf⟩ := mem_of_mapM_ok read
  simp only [normalizeObjectivePaths, mem_sortedTexts, List.mem_filterMap, List.mem_flatten]
  constructor
  · rintro ⟨relativePath, ⟨listed, ⟨rawPath, ⟨items, row, item⟩, kept⟩,
      normalized⟩, covered, resolved, above⟩
    obtain ⟨run, runMember, reported⟩ := runOf items row
    obtain ⟨task, taskMember, ofTask⟩ := List.mem_flatMap.mp runMember
    refine ⟨task, taskMember, run, ofTask, items, reported, rawPath, item, covered, ?_, above⟩
    simp [objectivePath, kept, normalized, resolved]
  · rintro ⟨task, taskMember, run, ofTask, items, reported, rawPath, item, covered, placed, above⟩
    obtain ⟨_, rowMember, reportedRow⟩ :=
      itemsOf run (List.mem_flatMap.mpr ⟨task, taskMember, ofTask⟩)
    rw [reported] at reportedRow
    cases reportedRow
    simp only [objectivePath, Option.bind_eq_bind, Option.bind_eq_some_iff]
      at placed
    obtain ⟨listed, kept, relativePath, normalized, resolved⟩ := placed
    exact ⟨relativePath, ⟨listed, ⟨rawPath, ⟨items, rowMember, item⟩, kept⟩,
      normalized⟩, covered, resolved, above⟩

end AccruviaHarness
