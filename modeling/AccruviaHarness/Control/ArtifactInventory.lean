import Mathlib.Algebra.Order.Field.Rat
import Mathlib.Data.List.Infix
import Mathlib.Order.Lattice

/-!
# The files of a run

The watch service looks at the files of a run directory by their kinds and
ages.
-/

namespace AccruviaHarness

open List

structure RunFile where
  name : String
  mtime : ℚ

def nonMeaningfulArtifactKinds : List String := ["heartbeat", "stdout", "stderr"]

def artifactKind (name : String) : String :=
  if name = "worker.heartbeat.json" then "heartbeat"
  else if name = "phase.txt" then "phase"
  else if name = "plan.txt" then "plan"
  else if name = "report.json" then "report"
  else if name = "compile_output.txt" then "compile-output"
  else if name = "test_output.txt" then "test-output"
  else if ".stdout.txt".toList <:+ name.toList then "stdout"
  else if ".stderr.txt".toList <:+ name.toList then "stderr"
  else "artifact"

namespace RunFile

def kind (file : RunFile) : String := artifactKind file.name

def IsNoise (file : RunFile) : Prop := file.kind ∈ nonMeaningfulArtifactKinds

instance isNoiseDecidable : DecidablePred IsNoise := fun _ => inferInstanceAs (Decidable (_ ∈ _))

def IsRecent (timeout nowEpoch : ℚ) (file : RunFile) : Prop := nowEpoch - timeout ≤ file.mtime

instance isRecentDecidable (timeout nowEpoch : ℚ) :
    DecidablePred (IsRecent timeout nowEpoch) := fun _ =>
  inferInstanceAs (Decidable (_ ≤ _))

end RunFile

/-- What `_artifact_inventory` returns. Without a directory it is empty. -/
structure ArtifactInventory where
  latestArtifact : Option String := none
  latestArtifactKind : Option String := none
  latestArtifactAgeSeconds : Option ℚ := none
  recentArtifactCount : Nat := 0
  recentArtifactKinds : List String := []
  recentMeaningfulArtifactCount : Nat := 0
  recentWindowAgeSeconds : ℚ := 0

structure InventoryScan where
  latest : Option RunFile := none
  latestMtime : ℚ := 0
  recentKinds : List String := []
  recentMeaningfulCount : Nat := 0
  recentWindowAgeSeconds : ℚ := 0

namespace InventoryScan

def noteLatest (scan : InventoryScan) (file : RunFile) : InventoryScan :=
  if scan.latestMtime < file.mtime then { scan with latestMtime := file.mtime, latest := some file }
  else scan

variable (timeout nowEpoch : ℚ) (scan : InventoryScan)

def noteRecent (file : RunFile) : InventoryScan :=
  if file.IsRecent timeout nowEpoch then
    { scan with
      recentKinds := scan.recentKinds ++ [file.kind]
      recentWindowAgeSeconds := max scan.recentWindowAgeSeconds (nowEpoch - file.mtime)
      recentMeaningfulCount :=
        if file.IsNoise then scan.recentMeaningfulCount
        else scan.recentMeaningfulCount + 1 }
  else scan

def note (file : RunFile) :
    InventoryScan :=
  (scan.noteLatest file).noteRecent timeout nowEpoch file

/-- The loop, in the order of `iterdir`. -/
def run (timeout nowEpoch : ℚ) (files : List RunFile) : InventoryScan :=
  files.foldl (note timeout nowEpoch) {}

end InventoryScan

/-- `_artifact_inventory` of a run directory with the given files, if there is
one. -/
def artifactInventory (timeout nowEpoch : ℚ) (files : Option (List RunFile)) : ArtifactInventory :=
  match files with
  | none => {}
  | some files =>
    let scan := InventoryScan.run timeout nowEpoch files
    { latestArtifact := scan.latest.map RunFile.name
      latestArtifactKind := scan.latest.map RunFile.kind
      latestArtifactAgeSeconds := scan.latest.map fun _ => max 0 (nowEpoch - scan.latestMtime)
      recentArtifactCount := scan.recentKinds.length, recentArtifactKinds := scan.recentKinds
      recentMeaningfulArtifactCount := scan.recentMeaningfulCount
      recentWindowAgeSeconds := scan.recentWindowAgeSeconds }

/-! ## What the scan finds -/

namespace InventoryScan

structure Finds (timeout nowEpoch : ℚ) (files : List RunFile)
    (scan : InventoryScan) : Prop where
  latest : ∀ file ∈ files, file.mtime ≤ scan.latestMtime
  kinds : scan.recentKinds =
    (files.filter fun file => file.IsRecent timeout nowEpoch).map RunFile.kind
  meaningful : scan.recentMeaningfulCount = 0 ↔
    ∀ file ∈ files, file.IsRecent timeout nowEpoch → file.IsNoise
  window : ∀ bound, 0 < bound → (bound ≤ scan.recentWindowAgeSeconds ↔
      ∃ file ∈ files, file.IsRecent timeout nowEpoch ∧ bound ≤ nowEpoch - file.mtime)

variable (timeout nowEpoch : ℚ)

theorem finds_nil : Finds timeout nowEpoch [] {} where
  latest := by simp
  kinds := rfl
  meaningful := by simp
  window := by
    intro bound positive
    simpa using positive

variable {timeout nowEpoch}
variable {files : List RunFile} {scan : InventoryScan}

theorem Finds.noteLatest (finds : Finds timeout nowEpoch files scan) (file : RunFile) :
    Finds timeout nowEpoch files (scan.noteLatest file) ∧
      file.mtime ≤ (scan.noteLatest file).latestMtime := by
  unfold InventoryScan.noteLatest
  by_cases newer : scan.latestMtime < file.mtime
  · rw [if_pos newer]
    refine ⟨⟨?_, finds.kinds, finds.meaningful, finds.window⟩, le_refl _⟩
    intro other member
    exact (finds.latest other member).trans newer.le
  · rw [if_neg newer]
    exact ⟨finds, not_lt.mp newer⟩

theorem Finds.noteRecent (finds : Finds timeout nowEpoch files scan) {file : RunFile}
    (last : file.mtime ≤ scan.latestMtime) :
    Finds timeout nowEpoch (files ++ [file]) (scan.noteRecent timeout nowEpoch file) := by
  have latest : ∀ other ∈ files ++ [file], other.mtime ≤ scan.latestMtime := by
    intro other member
    rcases mem_append.mp member with earlier | own
    · exact finds.latest other earlier
    · cases mem_singleton.mp own
      exact last
  unfold InventoryScan.noteRecent
  by_cases recent : file.IsRecent timeout nowEpoch
  · rw [if_pos recent]
    refine ⟨latest, ?_, ?_, ?_⟩
    · simp [finds.kinds, recent]
    · by_cases noise : file.IsNoise
      · simp [noise, finds.meaningful, or_imp, forall_and]
      · simp [noise, recent, or_imp, forall_and]
    · intro bound positive
      simp only [le_max_iff, finds.window bound positive, mem_append,
        mem_singleton, or_and_right, exists_or, exists_eq_left, recent,
        true_and]
  · rw [if_neg recent]
    refine ⟨latest, ?_, ?_, ?_⟩
    · simp [finds.kinds, recent]
    · simp [finds.meaningful, recent, or_imp, forall_and]
    · intro bound positive
      simp only [finds.window bound positive, mem_append,
        mem_singleton, or_and_right, exists_or, exists_eq_left, recent,
        false_and, or_false]

variable (timeout nowEpoch)

theorem finds_run (files : List RunFile) :
    Finds timeout nowEpoch files (run timeout nowEpoch files) := by
  induction files using List.reverseRecOn with
  | nil => exact finds_nil timeout nowEpoch
  | append_singleton _ file ih =>
    unfold run at ih ⊢
    rw [foldl_append, foldl_cons, foldl_nil]
    obtain ⟨finds, last⟩ := ih.noteLatest file
    exact finds.noteRecent last

end InventoryScan

end AccruviaHarness
