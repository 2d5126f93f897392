import AccruviaHarness.Library.Occurrences
import AccruviaHarness.Library.WeightedTables
import AccruviaHarness.Python.Value
import Mathlib.Algebra.Order.Field.Rat
import Mathlib.Logic.Function.Basic

/-!
# The cost tracker

The tracker keeps the costs of the runs of each project and day in one JSON
file. A file that cannot be read counts as empty, and so does a directory.
-/

namespace AccruviaHarness

open Library List

/-- A day as `strftime` writes it. -/
@[ext]
structure Day where
  text : String
  plain : ':' ∉ text.toList
deriving DecidableEq

structure WrittenPath where
  absolute : Bool := false
  names : List String
deriving DecidableEq

namespace WrittenPath

variable (path : WrittenPath)

def parent : WrittenPath := { path with names := path.names.dropLast }

def stem (name : List Char) : List Char :=
  let suffix := name.reverse.takeWhile fun character => character ≠ '.'
  if suffix = [] ∨ name.length ≤ suffix.length + 1 then name
  else name.take (name.length - (suffix.length + 1))

def withSuffix (suffix : String) : Except PyError WrittenPath :=
  match path.names.getLast? with
  | some name =>
    .ok
      { path with
        names := path.names.dropLast ++
          [String.ofList (stem name.toList ++ suffix.toList)] }
  | none => .error (.valueError "path has an empty name")

end WrittenPath

abbrev Ledger := KeyedTable (Prod.fst : String × ℚ → String)

/-- What is at a path. A ledger is what `json.dumps` wrote of it, in whatever
order. A file with other contents is one that is no JSON, or one that the
conversion of its contents fails on. -/
inductive FileNode where
  | missing
  | directory
  | ledger (entries : Ledger)
  | unreadable
  | malformed (error : PyError)

abbrev Files := WrittenPath → FileNode

structure CostTracker where
  ledgerPath : WrittenPath
  lockPath : WrittenPath

/-- The arguments of `record_run_cost`, with what its `llm_metadata.json`
holds if it can be read and is JSON, and the day it is called on. -/
structure RunCost where
  projectId : String
  metadata : Option PyValue
  today : Day

namespace CostTracker

def new (ledgerPath : Option WrittenPath) : Except PyError CostTracker :=
  let ledgerPath := ledgerPath.getD
    { names := [".accruvia-harness", "cost_ledger.json"] }
  return { ledgerPath, lockPath := ← ledgerPath.withSuffix ".lock" }

def ledgerKey (projectId : String) (day : Day) : String := projectId ++ ":" ++ day.text

variable (tracker : CostTracker)

def loadLedger (files : Files) : Except PyError Ledger :=
  match files tracker.ledgerPath with
  | .missing => .ok (.empty _)
  | .ledger entries => .ok entries
  | .directory => .ok (.empty _)
  | .unreadable => .ok (.empty _)
  | .malformed error => .error error

variable (ledger : Ledger)

def saveLedger (files : Files) : Except PyError Files :=
  match files tracker.ledgerPath with
  | .directory => .error (.osError "write_text")
  | _ => .ok (Function.update files tracker.ledgerPath (.ledger ledger))

/-- `ledger.get(key, 0.0)`. -/
def spent (key : String) : ℚ := ((ledger.lookup key).map Prod.snd).getD 0

variable (projectId : String)

def dailyCost (date : Day)
    (files : Files) : Except PyError ℚ := do
  let ledger ← tracker.loadLedger files
  return spent ledger (ledgerKey projectId date)

def checkBudget (today : Day) (files : Files) (dailyLimitUsd : ℚ := 20) :
    Except PyError (Bool × ℚ) := do
  let spent ← tracker.dailyCost projectId today files
  let remaining := dailyLimitUsd - spent
  return (decide (0 ≤ remaining), remaining)

section

variable (float : PyValue → Except PyError ℚ) (round : ℚ → ℚ)

/-- The cost in the metadata. `float` is Python's, for finite numbers: what it
makes of a value, or the exception it raises. -/
def costOf : Option PyValue → Except PyError ℚ
  | none => .ok 0
  | some data => do
      let entries ← data.requireDict
      let value := entries.get "cost_usd"
      if value.truthy then
        match float value with
        | .error (.typeError _) => .ok 0
        | .error (.valueError _) => .ok 0
        | result => result
      else .ok 0

variable (tracker : CostTracker)

def recordRunCost (run : RunCost) (files : Files) :
    Except PyError (ℚ × Files) := do
  let costUsd ← costOf float run.metadata
  let key := ledgerKey run.projectId run.today
  let ledger ← tracker.loadLedger files
  let files ← tracker.saveLedger (ledger.upsert (key, round (spent ledger key + costUsd))) files
  return (costUsd, files)

structure RecordedCosts where
  returned : List (RunCost × ℚ) := []
  files : Files

def RecordedCosts.record (recorded : RecordedCosts) (run : RunCost) :
    RecordedCosts :=
  match recordRunCost float round tracker run recorded.files with
  | .ok (costUsd, files) => { returned := recorded.returned ++ [(run, costUsd)], files }
  | .error _ => recorded

def recordRunCosts (runs : List RunCost) (files : Files) :
    RecordedCosts :=
  runs.foldl (RecordedCosts.record float round tracker) { files }

end

def returnedFor (returned : List (RunCost × ℚ)) (projectId : String) (day : Day) : List ℚ :=
  (returned.filter fun entry => entry.1.projectId = projectId ∧ entry.1.today = day).map Prod.snd

/-! ## The ledger after a sequence of calls -/

section

variable {float : PyValue → Except PyError ℚ} {round : ℚ → ℚ}

theorem ledgerKey_inj {projectId otherId : String} {day otherDay : Day} :
    ledgerKey projectId day = ledgerKey otherId otherDay ↔
      projectId = otherId ∧ day = otherDay := by
  constructor
  · intro same
    have characters := congrArg String.toList same
    simp only [ledgerKey, String.toList_append, append_assoc]
      at characters
    obtain ⟨projects, days⟩ := split_at_last day.plain otherDay.plain characters
    exact ⟨String.toList_inj.mp projects, Day.ext (String.toList_inj.mp days)⟩
  · intro same
    rw [same.1, same.2]

theorem spent_empty (key : String) : spent (.empty _) key = 0 := rfl

@[simp]
theorem spent_upsert (ledger : Ledger) (key : String) (cost : ℚ) (wanted : String) :
    spent (ledger.upsert (key, cost)) wanted =
      if key = wanted then cost else spent ledger wanted := by
  unfold spent
  rw [KeyedTable.lookup_upsert]
  by_cases own : key = wanted
  · simp [own]
  · simp [own]

theorem returnedFor_append_singleton (returned : List (RunCost × ℚ)) (run : RunCost) (cost : ℚ)
    (projectId : String) (day : Day) :
    returnedFor (returned ++ [(run, cost)]) projectId day = returnedFor returned projectId day ++
        if run.projectId = projectId ∧ run.today = day then [cost]
        else [] := by
  unfold returnedFor
  rw [filter_append, map_append]
  by_cases own : run.projectId = projectId ∧ run.today = day
  · simp [own]
  · rw [if_neg own, filter_cons_of_neg (by simpa using own)]
    simp

structure Holds (round : ℚ → ℚ) (tracker : CostTracker)
    (recorded : RecordedCosts) : Prop where
  notDirectory : recorded.files tracker.ledgerPath ≠ .directory
  totals : ∃ ledger, tracker.loadLedger recorded.files = .ok ledger ∧
    ∀ projectId day, spent ledger (ledgerKey projectId day) =
      roundedSum round (returnedFor recorded.returned projectId day)

variable {tracker : CostTracker}

theorem holds_missing {files : Files} (unwritten : files tracker.ledgerPath = .missing) :
    Holds round tracker { files } where
  notDirectory := by simp [unwritten]
  totals := ⟨.empty _, by simp [loadLedger, unwritten], fun _ _ => rfl⟩

theorem loadLedger_update (tracker : CostTracker) (files : Files) (ledger : Ledger) :
    tracker.loadLedger (Function.update files tracker.ledgerPath (.ledger ledger)) =
      .ok ledger := by
  simp [loadLedger]

variable {recorded : RecordedCosts} {run : RunCost}

theorem recordRunCost_of_cost {cost : ℚ} (holds : Holds round tracker recorded)
    (found : costOf float run.metadata = .ok cost) :
    ∃ ledger, tracker.loadLedger recorded.files = .ok ledger ∧
        recorded.record float round tracker run =
          { returned := recorded.returned ++ [(run, cost)]
            files := Function.update recorded.files tracker.ledgerPath
              (.ledger (ledger.upsert (ledgerKey run.projectId run.today, round (spent ledger
                    (ledgerKey run.projectId run.today) + cost)))) } := by
  obtain ⟨ledger, loaded, _⟩ := holds.totals
  refine ⟨ledger, loaded, ?_⟩
  have saved : ∀ entries, tracker.saveLedger entries recorded.files =
        .ok (Function.update recorded.files tracker.ledgerPath (.ledger entries)) := by
    intro entries
    have notDirectory := holds.notDirectory
    unfold saveLedger
    split
    next isDirectory => exact absurd isDirectory notDirectory
    · rfl
  unfold RecordedCosts.record recordRunCost
  rw [found, loaded]
  simp only [ok_bind, saved]
  rfl

theorem Holds.record (holds : Holds round tracker recorded) (run : RunCost) :
    Holds round tracker (recorded.record float round tracker run) := by
  cases found : costOf float run.metadata with
  | error _ =>
    have unchanged : recorded.record float round tracker run = recorded := by
      unfold RecordedCosts.record recordRunCost
      rw [found]
      rfl
    rw [unchanged]
    exact holds
  | ok _ =>
    obtain ⟨_, loaded, recordedRun⟩ := recordRunCost_of_cost holds found
    obtain ⟨_, sameLoaded, totals⟩ := holds.totals
    rw [loaded] at sameLoaded
    cases sameLoaded
    rw [recordedRun]
    constructor
    · simp
    · refine ⟨_, loadLedger_update _ _ _, ?_⟩
      intro projectId day
      rw [spent_upsert, returnedFor_append_singleton, totals, totals]
      by_cases own : run.projectId = projectId ∧ run.today = day
      · rw [if_pos (ledgerKey_inj.mpr own), if_pos own, roundedSum_append_singleton, own.1, own.2]
      · rw [if_neg (ledgerKey_inj.not.mpr own), if_neg own, append_nil]

theorem record_of_error (tracker : CostTracker) (recorded : RecordedCosts) {error : PyError}
    (raised : costOf float run.metadata = .error error) :
    recorded.record float round tracker run = recorded := by
  unfold RecordedCosts.record recordRunCost
  rw [raised]
  rfl

def costsFor (float : PyValue → Except PyError ℚ) (runs : List RunCost)
    (projectId : String) (day : Day) : List ℚ :=
  runs.filterMap fun run =>
    if run.projectId = projectId ∧ run.today = day
      then (costOf float run.metadata).toOption
    else none

section

variable (float) (round) (tracker : CostTracker) (runs : List RunCost)
variable {files : Files} (unwritten : files tracker.ledgerPath = .missing)

theorem recordRunCosts_append_singleton (run : RunCost) :
    recordRunCosts float round tracker (runs ++ [run]) files =
      (recordRunCosts float round tracker runs files).record float round tracker run := by
  simp [recordRunCosts]

theorem costsFor_prefix_iff (projectId : String) (day : Day) (costs : List ℚ) :
    costs <+: costsFor float runs projectId day ↔
      ∃ front, front <+: runs ∧ costs = costsFor float front projectId day := by
  constructor
  · intro initial
    obtain ⟨_, split⟩ := initial
    obtain ⟨front, rest, runsSplit, same, _⟩ := filterMap_eq_append_iff.mp split.symm
    exact ⟨front, ⟨rest, runsSplit.symm⟩, same.symm⟩
  · intro initial
    obtain ⟨_, ⟨_, rfl⟩, rfl⟩ := initial
    unfold costsFor
    rw [filterMap_append]
    exact prefix_append _ _

include unwritten

theorem holds_recordRunCosts :
    Holds round tracker (recordRunCosts float round tracker runs files) := by
  induction runs using List.reverseRecOn with
  | nil => exact holds_missing unwritten
  | append_singleton _ run ih =>
    rw [recordRunCosts_append_singleton]
    exact ih.record run

variable (projectId : String)

theorem returnedFor_recordRunCosts (day : Day) :
    returnedFor (recordRunCosts float round tracker runs files).returned projectId day =
      costsFor float runs projectId day := by
  induction runs using List.reverseRecOn with
  | nil => rfl
  | append_singleton runs run ih =>
    have holds := holds_recordRunCosts float round tracker runs unwritten
    rw [recordRunCosts_append_singleton, costsFor, filterMap_append, ← costsFor, ← ih]
    cases found : costOf float run.metadata with
    | error _ =>
      rw [record_of_error tracker _ found]
      simp [found, Except.toOption]
    | ok _ =>
      obtain ⟨_, _, recorded⟩ := recordRunCost_of_cost holds found
      rw [recorded, returnedFor_append_singleton]
      by_cases own : run.projectId = projectId ∧ run.today = day
      · simp [own, found, Except.toOption]
      · simp [own]

theorem recordRunCosts_files {path : WrittenPath} (other : path ≠ tracker.ledgerPath) :
    (recordRunCosts float round tracker runs files).files path = files path := by
  induction runs using List.reverseRecOn with
  | nil => rfl
  | append_singleton runs run ih =>
    have holds := holds_recordRunCosts float round tracker runs unwritten
    rw [recordRunCosts_append_singleton, ← ih]
    cases found : costOf float run.metadata with
    | error _ => rw [record_of_error tracker _ found]
    | ok _ =>
      obtain ⟨_, _, recorded⟩ := recordRunCost_of_cost holds found
      rw [recorded]
      exact Function.update_of_ne other _ _

theorem dailyCost_recordRunCosts (day : Day) :
    tracker.dailyCost projectId day (recordRunCosts float round tracker runs files).files =
      .ok (roundedSum round (costsFor float runs projectId day)) := by
  obtain ⟨_, loaded, totals⟩ := (holds_recordRunCosts float round tracker runs unwritten).totals
  unfold dailyCost
  rw [loaded, ok_bind, totals, returnedFor_recordRunCosts float round tracker runs unwritten]
  rfl

theorem dailyCost_eq_sum_iff :
    (∀ front, front <+: runs → ∀ projectId day, tracker.dailyCost projectId day
            (recordRunCosts float round tracker front files).files =
          .ok (returnedFor (recordRunCosts float round tracker front files).returned
              projectId day).sum) ↔
      ∀ projectId day, ExactSums round (costsFor float runs projectId day) := by
  simp only [dailyCost_recordRunCosts float round tracker _ unwritten,
    returnedFor_recordRunCosts float round tracker _ unwritten,
    Except.ok.injEq, ← roundedSum_prefixes_iff]
  constructor
  · intro exact projectId day costs initial
    obtain ⟨front, ofRuns, rfl⟩ := (costsFor_prefix_iff float runs projectId day costs).mp initial
    exact exact front ofRuns projectId day
  · intro exact front ofRuns projectId day
    exact exact projectId day _ ((costsFor_prefix_iff float runs projectId day _).mpr
        ⟨front, ofRuns, rfl⟩)

end

end

end CostTracker

end AccruviaHarness
