import AccruviaHarness.Skills.ChangeReports

/-!
# The rounds of the implement skill

A self-review that blocks shipping sends the engineer back for another round.
-/

namespace AccruviaHarness

open Library Skills.Implement List

/-- `Path(first) == Path(second)`. -/
def SamePath (first second : String) : Prop :=
  isAbsolute first = isAbsolute second ∧ pathParts first = pathParts second

namespace SkillsWorkOrchestrator

structure ImplementRound where
  /-- `deleted_files` of the output. -/
  deletedFiles : List String
  /-- What `apply_changes` has answered. -/
  summary : ChangeSummary
  /-- `ship_ready` of the self-review, where the skill has succeeded. -/
  review : Option Bool
  normalized : ∀ path ∈ summary.deleted, ∃ raw ∈ deletedFiles, path = normalizeRel raw

/-- `list(dict.fromkeys(items))`. -/
def uniqueItems (items : List String) : List String := pathOrder [] items

/-- The same of rejections. Each of them is a `dict`, which cannot be
hashed. -/
def uniqueRejections (rejected : List (String × String)) :
    Except PyError (List (String × String)) :=
  if rejected = [] then .ok []
  else .error (.typeError "unhashable type: 'dict'")

def mergeSummaries (summary retry : ChangeSummary) :
    Except PyError ChangeSummary := do
  let rejected ← uniqueRejections (summary.rejected ++ retry.rejected)
  return { summary with
    written := uniqueItems (summary.written ++ retry.written)
    rejected
    editsApplied := summary.editsApplied + retry.editsApplied
    newFilesCreated := summary.newFilesCreated + retry.newFilesCreated }

section

variable (attempts : Nat → Option ImplementRound)

/-- The retry loop, with the rounds that are left and the number of the last
one. An attempt whose implement skill fails leaves the loop. -/
def retryLoop : Nat → Nat → ChangeSummary → ImplementRound →
    Except PyError (ChangeSummary × ImplementRound)
  | 0, _, summary, last => .ok (summary, last)
  | left + 1, number, summary, last =>
    if last.review = some false then
      match attempts (number + 1) with
      | none => .ok (summary, last)
      | some round => do
          let merged ← mergeSummaries summary round.summary
          retryLoop left (number + 1) merged round
    else .ok (summary, last)

def retriedRounds : Nat → Nat → ImplementRound → List ImplementRound
  | 0, _, _ => []
  | left + 1, number, last =>
    if last.review = some false then
      match attempts (number + 1) with
      | none => []
      | some round => round :: retriedRounds left (number + 1) round
    else []

end

/-- `written_with_changelog`. -/
def withChangelog (written : List String) (changelogExists : Bool) : List String :=
  if changelogExists ∧ "CHANGELOG.md" ∉ written then written ++ ["CHANGELOG.md"]
  else written

def commitPaths (written : List String) (changelogExists : Bool)
    (deletedFiles : List String) : List String :=
  withChangelog written changelogExists ++
    deletedFiles.filter (· ∉ withChangelog written changelogExists)

inductive PipelineEnd where
  | failed (category : String)
  | commits (paths : List String)
  deriving DecidableEq, Repr

variable (attempts : Nat → Option ImplementRound)

def firstRound : Except String ImplementRound :=
  match attempts 1 with
  | none => .error "implement_skill_failure"
  | some round =>
    if round.summary.rejected ≠ [] ∧ round.summary.written = [] then .error "scope_violation"
    else .ok round

/-- The stages from the implement skill to the commit. `overall` is what the
validation of the changes comes to. -/
def runStages (maxRounds : Nat) (attempts : Nat → Option ImplementRound)
    (overall : String) (changelogExists : Bool) :
    Except PyError PipelineEnd :=
  match firstRound attempts with
  | .error category => .ok (.failed category)
  | .ok first => do
      let (summary, last) ←
        retryLoop attempts (maxRounds - 1) 1 first.summary first
      if overall = "fail" then return .failed "validation_failure"
      else if last.review ≠ some true then return .failed "self_review_blocked"
      else return .commits (commitPaths summary.written changelogExists last.deletedFiles)

/-! ## The merged summary -/

def mergeRounds (summary : ChangeSummary) (retries : List ImplementRound) :
    Except PyError ChangeSummary :=
  retries.foldlM (fun merged round => mergeSummaries merged round.summary) summary

theorem retryLoop_eq (left number : Nat) (summary : ChangeSummary) (last : ImplementRound) :
    retryLoop attempts left number summary last =
      (mergeRounds summary (retriedRounds attempts left number last)).map
        fun merged => (merged, (retriedRounds attempts left number last).getLastD last) := by
  induction left generalizing number summary last with
  | zero => rfl
  | succ _ ih =>
    unfold retryLoop retriedRounds
    by_cases blocked : last.review = some false
    · rw [if_pos blocked, if_pos blocked]
      cases attempts (number + 1) with
      | none => rfl
      | some round =>
        dsimp only
        unfold mergeRounds
        rw [foldlM_cons, getLastD_cons]
        cases merged : mergeSummaries summary round.summary with
        | error _ => rfl
        | ok next => exact ih (number + 1) next round
    · rw [if_neg blocked, if_neg blocked]
      rfl

variable {summary retry merged : ChangeSummary} {written : List String}
  {changelogExists : Bool} {path : String}

theorem mergeSummaries_eq_ok (done : mergeSummaries summary retry = .ok merged) :
    summary.rejected = [] ∧ retry.rejected = [] ∧ merged.rejected = [] ∧
      ∀ path, path ∈ merged.written ↔ path ∈ summary.written ∨ path ∈ retry.written := by
  obtain ⟨_, unique, done⟩ := exists_of_bind_ok done
  unfold uniqueRejections at unique
  split at unique
  next nothing =>
    cases unique
    cases done
    obtain ⟨first, second⟩ := append_eq_nil_iff.mp nothing
    refine ⟨first, second, rfl, fun path => ?_⟩
    rw [uniqueItems, mem_pathOrder, mem_append]
    simp
  · cases unique

theorem exists_mergeSummaries (first : summary.rejected = []) (second : retry.rejected = []) :
    ∃ merged, mergeSummaries summary retry = .ok merged := by
  unfold mergeSummaries uniqueRejections
  rw [first, second]
  exact ⟨_, rfl⟩

theorem mem_written_of_mergeRounds {retries : List ImplementRound}
    (done : mergeRounds summary retries = .ok merged) (path : String) :
    path ∈ merged.written ↔ path ∈ summary.written ∨
        ∃ round ∈ retries, path ∈ round.summary.written := by
  unfold mergeRounds at done
  induction retries generalizing summary with
  | nil =>
    cases done
    simp
  | cons _ _ ih =>
    rw [foldlM_cons] at done
    obtain ⟨_, here, later⟩ := exists_of_bind_ok done
    rw [ih later, (mergeSummaries_eq_ok here).2.2.2 path]
    simp [or_assoc]

theorem exists_mergeRounds_iff (summary : ChangeSummary) (retries : List ImplementRound) :
    (∃ merged, mergeRounds summary retries = .ok merged) ↔
      retries = [] ∨ (summary.rejected = [] ∧ ∀ round ∈ retries, round.summary.rejected = []) := by
  unfold mergeRounds
  induction retries generalizing summary with
  | nil => exact iff_of_true ⟨summary, rfl⟩ (.inl rfl)
  | cons _ _ ih =>
    rw [foldlM_cons, forall_mem_cons]
    constructor
    · rintro ⟨merged, done⟩
      obtain ⟨next, here, later⟩ := exists_of_bind_ok done
      obtain ⟨first, second, none, _⟩ := mergeSummaries_eq_ok here
      rcases (ih next).mp ⟨merged, later⟩ with rfl | ⟨_, all⟩
      · exact .inr ⟨first, second, by simp⟩
      · exact .inr ⟨first, second, all⟩
    · rintro (absurdity | ⟨first, second, all⟩)
      · cases absurdity
      · obtain ⟨next, here⟩ := exists_mergeSummaries first second
        obtain ⟨_, _, none, _⟩ := mergeSummaries_eq_ok here
        rw [here]
        exact (ih next).mpr (.inr ⟨none, all⟩)

theorem mem_withChangelog :
    path ∈ withChangelog written changelogExists ↔
      path ∈ written ∨ (changelogExists ∧ path = "CHANGELOG.md") := by
  unfold withChangelog
  split
  next added => simp [added.1]
  next unchanged =>
    refine ⟨.inl, ?_⟩
    rintro (listed | ⟨present, rfl⟩)
    · exact listed
    · by_contra missing
      exact unchanged ⟨present, missing⟩

theorem mem_commitPaths {deletedFiles : List String} :
    path ∈ commitPaths written changelogExists deletedFiles ↔
      path ∈ written ∨ (changelogExists ∧ path = "CHANGELOG.md") ∨ path ∈ deletedFiles := by
  unfold commitPaths
  rw [mem_append, mem_filter, ← or_assoc, ← mem_withChangelog]
  by_cases listed : path ∈ withChangelog written changelogExists
  · simp [listed]
  · simp [listed]

/-! ## What the commit names -/

/-- The text is spelled as `_normalize_rel` leaves it, up to a leading
`./`. -/
def PlainlySpelled (raw : String) : Prop := '\\' ∉ raw.toList ∧ ¬ ['.', '/', '/'] <+: raw.toList

theorem pathParts_dot (rest : List Char) :
    pathParts (String.ofList ('.' :: '/' :: rest)) = pathParts (String.ofList rest) := by
  have noSlash : ∀ character ∈ ['.'], (character == '/') = false := by simp
  have split : ('.' :: '/' :: rest).splitOn '/' = ['.'] :: rest.splitOn '/' :=
    splitOnP_append_cons_of_forall_mem noSlash '/' rfl rest
  unfold pathParts
  rw [String.toList_ofList, String.toList_ofList, split, map_cons, filter_cons_of_neg (by decide)]

theorem samePath_normalizeRel {raw : String} (plain : PlainlySpelled raw) :
    SamePath raw (normalizeRel raw) := by
  obtain ⟨noBackslash, noDoubleSlash⟩ := plain
  have same : (raw.toList.map fun character =>
      if character = '\\' then '/' else character) = raw.toList := by
    have each : ∀ character ∈ raw.toList,
        (if character = '\\' then '/' else character) = character := by
      intro character member
      rw [if_neg]
      rintro rfl
      exact noBackslash member
    rw [map_congr_left each, map_id']
  unfold normalizeRel normalizePath
  dsimp only
  rw [same]
  split
  next rest spelled =>
    have written : raw = String.ofList ('.' :: '/' :: rest) := by
      rw [← spelled, String.ofList_toList]
    constructor
    · unfold isAbsolute
      rw [spelled, String.toList_ofList]
      cases rest with
      | nil => rfl
      | cons next rest =>
        have relative : next ≠ '/' := by
          rintro rfl
          apply noDoubleSlash
          rw [spelled]
          exact ⟨rest, rfl⟩
        simp [relative]
    · rw [written, pathParts_dot]
  · rw [String.ofList_toList]
    exact ⟨rfl, rfl⟩

section

variable (differs : String → Prop) (maxRounds : Nat)
  (attempts : Nat → Option ImplementRound) (overall : String)
  (changelogExists : Bool)

def retries (first : ImplementRound) : List ImplementRound :=
  retriedRounds attempts (maxRounds - 1) 1 first

/-- The stages do not raise, and the paths of the commit name everything that
a round has written or deleted and that differs from `HEAD`. -/
def CommitsEverything : Prop :=
  ∃ ending, runStages maxRounds attempts overall changelogExists = .ok ending ∧
    ∀ paths, ending = .commits paths → ∀ first, firstRound attempts = .ok first →
        ∀ round ∈ first :: retries maxRounds attempts first,
          ∀ path, (path ∈ round.summary.written ∨ path ∈ round.summary.deleted) →
            differs path → ∃ listed ∈ paths, SamePath listed path

def NamedAnyway (rounds : List ImplementRound) (last : ImplementRound) (path : String) : Prop :=
  (∃ round ∈ rounds, ∃ written ∈ round.summary.written, SamePath written path) ∨
    (changelogExists ∧ SamePath "CHANGELOG.md" path) ∨
    ∃ raw ∈ last.deletedFiles, SamePath raw path

/-- What ships does not miss a deletion of an earlier round, nor one that the
last round spells otherwise than it is done. -/
def KeepsDeletions (first : ImplementRound) : Prop :=
  let rounds := first :: retries maxRounds attempts first
  let last := (retries maxRounds attempts first).getLastD first
  overall ≠ "fail" → last.review = some true →
    (∀ round ∈ rounds.dropLast, ∀ path ∈ round.summary.deleted,
      differs path → NamedAnyway changelogExists rounds last path) ∧
    ∀ path ∈ last.summary.deleted, (∀ raw ∈ last.deletedFiles, path = normalizeRel raw →
        ¬ PlainlySpelled raw) →
      differs path → NamedAnyway changelogExists rounds last path

variable {differs maxRounds attempts overall changelogExists} {first : ImplementRound}

theorem runStages_of_firstRound (begun : firstRound attempts = .ok first) :
    runStages maxRounds attempts overall changelogExists =
      (mergeRounds first.summary (retries maxRounds attempts first)).map
        fun merged =>
          let last := (retries maxRounds attempts first).getLastD first
          if overall = "fail" then .failed "validation_failure"
          else if last.review ≠ some true then .failed "self_review_blocked"
          else
            .commits (commitPaths merged.written changelogExists last.deletedFiles) := by
  unfold runStages
  rw [begun]
  dsimp only
  rw [retryLoop_eq, ← retries]
  cases mergeRounds first.summary (retries maxRounds attempts first) with
  | error _ => rfl
  | ok _ =>
    dsimp only [Except.map]
    rw [ok_bind]
    split
    · rfl
    · split <;> rfl

theorem commitPaths_name_iff (done : mergeRounds first.summary (retries maxRounds attempts first) =
      .ok merged) (path : String) :
    (∃ listed ∈ commitPaths merged.written changelogExists
        ((retries maxRounds attempts first).getLastD first).deletedFiles,
      SamePath listed path) ↔
      NamedAnyway changelogExists (first :: retries maxRounds attempts first)
        ((retries maxRounds attempts first).getLastD first) path := by
  unfold NamedAnyway
  constructor
  · rintro ⟨listed, member, same⟩
    rcases mem_commitPaths.mp member with written | ⟨present, rfl⟩ | deleted
    · left
      rcases (mem_written_of_mergeRounds done listed).mp written with
        own | ⟨round, inRetries, own⟩
      · exact ⟨first, mem_cons_self, listed, own, same⟩
      · exact ⟨round, mem_cons_of_mem _ inRetries, listed, own, same⟩
    · exact .inr (.inl ⟨present, same⟩)
    · exact .inr (.inr ⟨listed, deleted, same⟩)
  · rintro (⟨round, member, written, own, same⟩ | ⟨present, same⟩ | ⟨raw, deleted, same⟩)
    · refine ⟨written, mem_commitPaths.mpr (.inl ?_), same⟩
      rw [mem_written_of_mergeRounds done]
      rcases mem_cons.mp member with rfl | inRetries
      · exact .inl own
      · exact .inr ⟨round, inRetries, own⟩
    · exact ⟨_, mem_commitPaths.mpr (.inr (.inl ⟨present, rfl⟩)), same⟩
    · exact ⟨raw, mem_commitPaths.mpr (.inr (.inr deleted)), same⟩

variable {round : ImplementRound} {path : String}

theorem mem_rounds_iff {later : List ImplementRound} :
    round ∈ first :: later ↔ round ∈ (first :: later).dropLast ∨ round = later.getLastD first := by
  have split := dropLast_append_getLast (cons_ne_nil first later)
  rw [getLast_eq_getLastD] at split
  conv_lhs => rw [← split]
  rw [mem_append, mem_singleton]

theorem namedAnyway_of_last {rounds : List ImplementRound} {last : ImplementRound} {raw : String}
    (deleted : raw ∈ last.deletedFiles) (same : path = normalizeRel raw)
    (plain : PlainlySpelled raw) :
    NamedAnyway changelogExists rounds last path :=
  .inr (.inr ⟨raw, deleted, same ▸ samePath_normalizeRel plain⟩)

theorem namedAnyway_of_keepsDeletions
    (kept : KeepsDeletions differs maxRounds attempts overall changelogExists
      first)
    (passed : overall ≠ "fail")
    (ships : ((retries maxRounds attempts first).getLastD first).review =
      some true) (member : round ∈ first :: retries maxRounds attempts first)
    (changed : path ∈ round.summary.written ∨ path ∈ round.summary.deleted)
    (different : differs path) :
    NamedAnyway changelogExists (first :: retries maxRounds attempts first)
      ((retries maxRounds attempts first).getLastD first) path := by
  obtain ⟨earlier, final⟩ := kept passed ships
  rcases changed with written | deleted
  · exact .inl ⟨round, member, path, written, rfl, rfl⟩
  · rcases mem_rounds_iff.mp member with before | rfl
    · exact earlier round before path deleted different
    · by_cases plain : ∃ raw ∈ ((retries maxRounds attempts first).getLastD first).deletedFiles,
          path = normalizeRel raw ∧ PlainlySpelled raw
      · obtain ⟨raw, listed, same, spelled⟩ := plain
        exact namedAnyway_of_last listed same spelled
      · apply final path deleted _ different
        intro raw listed same spelled
        exact plain ⟨raw, listed, same, spelled⟩

/-- The stages commit everything exactly where no retry is merged with
rejections, and where what ships keeps its deletions. -/
theorem commitsEverything_iff :
    CommitsEverything differs maxRounds attempts overall changelogExists ↔
      ∀ first, firstRound attempts = .ok first → (retries maxRounds attempts first = [] ∨
          ∀ round ∈ first :: retries maxRounds attempts first,
            round.summary.rejected = []) ∧
        KeepsDeletions differs maxRounds attempts overall changelogExists
          first := by
  unfold CommitsEverything
  cases begun : firstRound attempts with
  | error category =>
    refine iff_of_true ⟨.failed category, ?_, ?_⟩ (by simp)
    · unfold runStages
      rw [begun]
    · intro paths failed
      cases failed
  | ok first =>
    have stages : runStages maxRounds attempts overall changelogExists = _ :=
      runStages_of_firstRound begun
    have mergeable := exists_mergeRounds_iff first.summary (retries maxRounds attempts first)
    simp only [Except.ok.injEq, forall_eq', forall_mem_cons]
    rw [← mergeable, stages]
    constructor
    · rintro ⟨_, ended, complete⟩
      cases done : mergeRounds first.summary (retries maxRounds attempts first) with
      | error _ =>
        rw [done] at ended
        cases ended
      | ok merged =>
        refine ⟨⟨merged, rfl⟩, ?_⟩
        intro passed ships
        rw [done] at ended
        dsimp only [Except.map] at ended
        rw [if_neg passed, if_neg (not_not_intro ships)] at ended
        cases ended
        have named := complete _ rfl
        constructor
        · intro round before path deleted different
          rw [← commitPaths_name_iff done]
          rcases mem_cons.mp (mem_of_mem_dropLast before) with
            rfl | member
          · exact named.1 path (.inr deleted) different
          · exact named.2 round member path (.inr deleted) different
        · intro path deleted _ different
          rw [← commitPaths_name_iff done]
          rcases mem_cons.mp (mem_rounds_iff.mpr (.inr rfl)) with
            same | member
          · rw [same] at deleted
            exact named.1 path (.inr deleted) different
          · exact named.2 _ member path (.inr deleted) different
    · rintro ⟨⟨_, done⟩, kept⟩
      rw [done]
      refine ⟨_, rfl, ?_⟩
      intro paths committed
      dsimp only at committed
      split at committed
      · cases committed
      next passed =>
        split at committed
        · cases committed
        next ships =>
          cases committed
          have named : ∀ round ∈ first :: retries maxRounds attempts first,
              ∀ path, (path ∈ round.summary.written ∨
                  path ∈ round.summary.deleted) → differs path → _ :=
            fun round member path changed different =>
              (commitPaths_name_iff done path).mpr <| namedAnyway_of_keepsDeletions kept passed
                  (not_not.mp ships) member changed different
          rwa [forall_mem_cons] at named

end

def implSelfReviewMaxRounds : Nat := 2

def plainRound (written deleted : List String)
    (rejected : List (String × String)) (review : Option Bool)
    (plain : ∀ path ∈ deleted, path = normalizeRel path) : ImplementRound where
  deletedFiles := deleted
  summary := { written, deleted, rejected }
  review := review
  normalized := fun path member => ⟨path, member, plain path member⟩

def deletingAttempts : Nat → Option ImplementRound
  | 1 => some (plainRound ["b.py"] ["a.py"] [] (some false) (by decide +kernel))
  | 2 => some (plainRound ["c.py"] [] [] (some true) (by simp))
  | _ => none

def rejectedAttempts : Nat → Option ImplementRound
  | 1 => some (plainRound ["b.py"] [] [("z.py", "edit_out_of_scope")] (some false) (by simp))
  | 2 => some (plainRound ["c.py"] [] [] (some true) (by simp))
  | _ => none

theorem retry_loses_work :
    ¬ CommitsEverything (fun _ => True) implSelfReviewMaxRounds deletingAttempts "pass" true ∧
      ¬ CommitsEverything (fun _ => True) implSelfReviewMaxRounds rejectedAttempts "pass" true := by
  constructor
  · rintro ⟨ending, ended, complete⟩
    have commits : runStages implSelfReviewMaxRounds deletingAttempts "pass"
        true = .ok (.commits ["b.py", "c.py", "CHANGELOG.md"]) := by
      rfl
    rw [commits] at ended
    cases ended
    obtain ⟨listed, member, same⟩ := complete _ rfl _ rfl _ mem_cons_self
      "a.py" (.inr mem_cons_self) trivial
    have other : ∀ listed ∈ ["b.py", "c.py", "CHANGELOG.md"],
        pathParts listed ≠ pathParts "a.py" := by decide +kernel
    exact other listed member same.2
  · rintro ⟨_, ended, _⟩
    have raised : runStages implSelfReviewMaxRounds rejectedAttempts "pass"
        true = .error (.typeError "unhashable type: 'dict'") := by
      rfl
    rw [raised] at ended
    cases ended

section

variable {host : Host} {workspaceRoot : FilePath} {allowedFiles : List String}
  {output : PyDict}

variable {before after : Disk} {summary : ChangeSummary}

theorem undeleted_of_applyEdits {root : FilePath}
    (returned : applyEdits host root allowedFiles output before =
      .ok summary after) : summary.deleted = [] := by
  by_cases accepted : ∃ edits, outputEdits output = .ok edits ∧
      Accepted host root allowedFiles before.tree edits
  · obtain ⟨_, read, accepted⟩ := accepted
    obtain ⟨_, _, again, _, undeleted, _⟩ := applyEdits_of_accepted read accepted
    rw [returned] at again
    cases again
    exact undeleted
  · rcases applyEdits_of_not_accepted accepted with
      ⟨_, raised⟩ | ⟨_, _, passed⟩
    · rw [returned] at raised
      cases raised
    · rw [returned] at passed
      cases passed
      rfl

theorem undeleted_of_createNewFiles {root : FilePath} {created : ChangeSummary}
    (undeleted : summary.deleted = [])
    (returned : createNewFiles host root allowedFiles output summary before =
      .ok created after) : created.deleted = [] := by
  obtain ⟨_, disk, _, looped⟩ := ok_of_bind returned
  refine loop_invariant (fun current _ => current.deleted = []) ?_ looped undeleted
  intro current entry _ disk next changed nothing round
  rcases createNewFile_cases host root allowedFiles current entry disk with
    ⟨_, raised⟩ | ⟨_, passed⟩ | ⟨_, _, _, _, _, _, _, _, made⟩
  · rw [round] at raised
    cases raised
  · rw [round] at passed
    cases passed
    exact nothing
  · rw [round] at made
    cases made
    exact nothing

theorem deleted_normalized
    (returned : applyChanges host workspaceRoot allowedFiles output before = .ok summary after) :
    ∃ raws, output.getList "deleted_files" = .ok raws ∧
      ∀ path ∈ summary.deleted, ∃ raw ∈ raws.map PyValue.toStr, path = normalizeRel raw := by
  obtain ⟨_, _, editsReturned, later⟩ := ok_of_bind returned
  obtain ⟨_, _, createsReturned, deletesReturned⟩ := ok_of_bind later
  have undeleted := undeleted_of_createNewFiles
    (undeleted_of_applyEdits editsReturned) createsReturned
  obtain ⟨raws, disk, listed, looped⟩ := ok_of_bind deletesReturned
  obtain ⟨rfl, read⟩ := ok_of_valueOf listed
  refine ⟨raws, read, ?_⟩
  refine loop_invariant (fun current _ => ∀ path ∈ current.deleted,
      ∃ raw ∈ raws.map PyValue.toStr, path = normalizeRel raw) ?_ looped
    (by simp [undeleted])
  intro current raw member disk next left here round
  rcases deleteFile_cases host _ allowedFiles current raw disk with
    ⟨_, raised⟩ | ⟨_, passed⟩ | ⟨_, _, _, _, _, _, deleted⟩
  · rw [round] at raised
    cases raised
  · rw [round] at passed
    cases passed
    exact here
  · rw [round] at deleted
    cases deleted
    intro path inDeleted
    rcases mem_append.mp inDeleted with earlier | new
    · exact here path earlier
    · exact ⟨raw.toStr, mem_map_of_mem member, mem_singleton.mp new⟩

theorem exists_implementRound
    (returned : applyChanges host workspaceRoot allowedFiles output before =
      .ok summary after) (review : Option Bool) :
    ∃ round : ImplementRound, round.summary = summary ∧
      round.review = review ∧
      ∃ raws, output.getList "deleted_files" = .ok raws ∧
        round.deletedFiles = raws.map PyValue.toStr := by
  obtain ⟨raws, listed, normalized⟩ := deleted_normalized returned
  exact ⟨⟨raws.map PyValue.toStr, summary, review, normalized⟩, rfl, rfl, raws, listed, rfl⟩

end

end SkillsWorkOrchestrator

end AccruviaHarness
