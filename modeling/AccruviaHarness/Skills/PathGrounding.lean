import AccruviaHarness.Skills.TrioTargets

/-!
# Where the targets lead

A path that is spelt plainly leads where its text says. The inventory and the
roots are asked about the text alone, so that another spelling can be accepted
for a file that it does not lead to.
-/

namespace AccruviaHarness

open List

namespace Skills

open PlanDraftTrioSkill

/-! ## Plain spellings -/

theorem segments_injective {first second : String}
    (same : segments first = segments second) : first = second := by
  have parts : first.toList.splitOn '/' = second.toList.splitOn '/' :=
    map_injective_iff.mpr (fun _ _ => String.ofList_inj.mp) same
  have texts := congrArg (['/'].intercalate ·) parts
  rw [intercalate_splitOn, intercalate_splitOn] at texts
  exact String.toList_inj.mp texts

theorem segments_append (base rest : String) :
    segments (base ++ "/" ++ rest) = segments base ++ segments rest := by
  have text : (base ++ "/" ++ rest).toList = base.toList ++ '/' :: rest.toList := by simp
  rw [segments, text, splitOn_append_cons_self, map_append]
  rfl

variable {path : String}

theorem pathParts_of_proper (proper : IsProper path) : pathParts path = segments path := by
  refine filter_eq_self.mpr fun part member => ?_
  obtain ⟨nonempty, notHere, _⟩ := proper part member
  simp [nonempty, notHere]

theorem not_isAbsolute_of_proper (proper : IsProper path) : isAbsolute path = false := by
  cases absolute : isAbsolute path with
  | false => rfl
  | true =>
    obtain ⟨rest, shape⟩ : ∃ rest, path.toList = '/' :: rest := by
      unfold isAbsolute at absolute
      cases characters : path.toList with
      | nil => simp [characters] at absolute
      | cons first rest =>
        obtain rfl : first = '/' := by simpa [characters] using absolute
        exact ⟨rest, rfl⟩
    have first : "" ∈ segments path := by
      rw [segments, shape, splitOn_cons_eq_if_modifyHead]
      simp
    exact absurd rfl (proper "" first).1

theorem locationOf_of_proper (root : FilePath) (proper : IsProper path) :
    locationOf root path = some (segments path) := by
  have steps (parts start : FilePath) (down : ∀ part ∈ parts, part ≠ "..") :
      parts.foldl (fun location part =>
        if part = ".." then location.dropLast else location ++ [part]) start = start ++ parts := by
    induction parts generalizing start with
    | nil => simp
    | cons _ _ ih =>
      rw [forall_mem_cons] at down
      rw [foldl_cons, if_neg down.1, ih _ down.2]
      simp
  have resolved : resolve root path = root ++ segments path := by
    unfold resolve
    rw [not_isAbsolute_of_proper proper, pathParts_of_proper proper]
    exact steps _ _ fun part member => (proper part member).2.2
  unfold locationOf
  rw [resolved, if_pos (prefix_append _ _), drop_left]

/-- No blanks around the path, no part that is empty or stands for a directory,
and no dot at its start. -/
structure SpeltPlainly (path : String) : Prop where
  proper : IsProper path
  stripped : pyStrip path = path
  noDot : path.toList.head? ≠ some '.'

theorem SpeltPlainly.normalized (plain : SpeltPlainly path) : normalizedPath path = path := by
  have noSlash : path.toList.head? ≠ some '/' := by
    have relative := not_isAbsolute_of_proper plain.proper
    simpa [isAbsolute] using relative
  have noDot := plain.noDot
  unfold normalizedPath
  rw [plain.stripped]
  cases characters : path.toList with
  | nil =>
    rw [← String.ofList_toList (s := path), characters]
    rfl
  | cons first _ =>
    rw [characters] at noDot noSlash
    have kept : first ≠ '.' ∧ first ≠ '/' := ⟨by simpa using noDot, by simpa using noSlash⟩
    rw [dropWhile_cons_of_neg (by simpa using kept), ← characters, String.ofList_toList]

/-! ## Accepted paths -/

section

variable {repo : RepoInventory}

def Grounded (repo : RepoInventory) (kind : TargetKind) (path : String) :
    Prop :=
  ∃ location, locationOf repo.root path = some location ∧
    ((∃ file ∈ repo.files, location = segments file) ∨
      ∃ start ∈ kind.rootCandidates repo, pathParts start <+: location ∧ location ≠ pathParts start)

structure HasRoots (kind : TargetKind) : Prop where
  directories : ∀ repo, ∀ start ∈ kind.rootCandidates repo,
    ∃ base, IsProper base ∧ start = base ++ "/"
  convention : ∀ repo path, kind.matchesConvention repo path = true →
    ∃ start ∈ kind.rootCandidates repo, startsWith path start = true

variable {start : String} {kind : TargetKind}

theorem mem_implRootCandidates (member : start ∈ repo.implRootCandidates) :
    start ∈ ["src/accruvia_harness/", "src/", "frontend/src/"] := by
  unfold RepoInventory.implRootCandidates at member
  split_ifs at member
  all_goals grind

theorem targetImpl_hasRoots : HasRoots targetImpl := by
  refine ⟨fun repo start member => ?_, fun repo path matched => ?_⟩
  · have listed := mem_implRootCandidates member
    simp only [mem_cons, not_mem_nil, or_false] at listed
    rcases listed with rfl | rfl | rfl
    · exact ⟨"src/accruvia_harness", by decide, rfl⟩
    · exact ⟨"src", by decide, rfl⟩
    · exact ⟨"frontend/src", by decide, rfl⟩
  · simpa [targetImpl, RepoInventory.pathMatchesImplConvention] using matched

theorem mem_testRootCandidates (member : start ∈ repo.testRootCandidates) :
    start ∈ ["tests/", "frontend/tests/"] := by
  unfold RepoInventory.testRootCandidates at member
  split_ifs at member
  all_goals grind

theorem targetTest_hasRoots : HasRoots targetTest := by
  refine ⟨fun repo start member => ?_, fun repo path matched => ?_⟩
  · have listed := mem_testRootCandidates member
    simp only [mem_cons, not_mem_nil, or_false] at listed
    rcases listed with rfl | rfl
    · exact ⟨"tests", by decide, rfl⟩
    · exact ⟨"frontend/tests", by decide, rfl⟩
  · simpa [targetTest, RepoInventory.pathMatchesTestConvention] using matched

theorem pathErrors_eq_nil {localId : PyValue} {createsNewFile : Bool}
    (clean : pathErrors repo kind localId createsNewFile path = []) :
    repo.fileExists path = true ∨ kind.matchesConvention repo path = true := by
  unfold pathErrors at clean
  split_ifs at clean with known creates matched
  · exact .inl known
  · exact .inr matched

theorem grounded_of_plain (roots : HasRoots kind) (plain : SpeltPlainly path)
    (passed : repo.fileExists path = true ∨ kind.matchesConvention repo path = true) :
    Grounded repo kind path := by
  refine ⟨segments path, locationOf_of_proper repo.root plain.proper, ?_⟩
  rcases passed with known | matched
  · rw [RepoInventory.fileExists, plain.normalized, Bool.and_eq_true] at known
    exact .inl ⟨path, of_decide_eq_true known.2, rfl⟩
  · obtain ⟨start, member, begins⟩ := roots.convention repo path matched
    obtain ⟨base, properBase, rfl⟩ := roots.directories repo start member
    refine .inr ⟨base ++ "/", member, ?_⟩
    obtain ⟨rest, shape⟩ := isPrefixOf_iff_prefix.mp begins
    have text : path = base ++ "/" ++ String.ofList rest := by
      rw [← String.toList_inj, String.toList_append, String.toList_ofList, shape]
    have below := segments_append base (String.ofList rest)
    rw [← text] at below
    have directory : pathParts (base ++ "/") = segments base := by
      have last := segments_append base ""
      have kept := pathParts_of_proper properBase
      rw [String.append_empty] at last
      unfold pathParts at kept ⊢
      unfold segments at last
      rw [last, filter_append, kept]
      simp
    rw [below, directory]
    refine ⟨prefix_append _ _, ?_⟩
    simp [segments]

end

/-! ## Files that exist -/

section

def LeadsToFile (repo : RepoInventory) (path : String) : Prop :=
  ∃ file ∈ repo.files, locationOf repo.root path = some (segments file)

theorem fileExists_iff {repo : RepoInventory} {path : String} :
    repo.fileExists path = true ↔ normalizedPath path ∈ repo.files := by
  unfold RepoInventory.fileExists
  rw [Bool.and_eq_true, decide_eq_true_eq, decide_eq_true_eq, and_iff_right_iff_imp]
  rintro member rfl
  have source := repo.listed _ member
  exact absurd source.proper (by decide)

variable (root : FilePath)

def singleFile {file : String} (source : IsSourcePath file) :
    RepoInventory where
  root
  files := [file]
  listed := by
    intro other member
    rw [mem_singleton.mp member]
    exact source
  parse := fun _ => none

theorem fileExists_iff_leadsToFile (path : String) :
    (∀ repo : RepoInventory, repo.root = root →
        (repo.fileExists path = true ↔ LeadsToFile repo path)) ↔
      locationOf root path = some (segments (normalizedPath path)) ∨
        (¬ IsSourcePath (normalizedPath path) ∧ ∀ file, IsSourcePath file →
            locationOf root path ≠ some (segments file)) := by
  constructor
  · intro right
    by_cases leads :
        locationOf root path = some (segments (normalizedPath path))
    · exact .inl leads
    · refine .inr ⟨fun source => ?_, fun file source there => ?_⟩
      · have known := (right (singleFile root source) rfl).mp
          (fileExists_iff.mpr (mem_singleton.mpr rfl))
        obtain ⟨file, member, there⟩ := known
        rw [mem_singleton.mp member] at there
        exact leads there
      · have known := (right (singleFile root source) rfl).mpr ⟨file, mem_singleton.mpr rfl, there⟩
        have same := mem_singleton.mp (fileExists_iff.mp known)
        rw [← same] at there
        exact leads there
  · rintro right repo rfl
    rw [fileExists_iff]
    rcases right with leads | ⟨noSource, nowhere⟩
    · constructor
      · intro member
        exact ⟨_, member, leads⟩
      · rintro ⟨file, member, there⟩
        rw [leads] at there
        rwa [segments_injective (Option.some.inj there)]
    · constructor
      · intro member
        exact absurd (repo.listed _ member) noSource
      · rintro ⟨file, member, there⟩
        exact absurd there (nowhere file (repo.listed file member))

end

/-! ## Accepted lists -/

variable (repo : RepoInventory) (parsed : PyDict)

def AllGrounded : Prop :=
  ∀ kind ∈ [targetImpl, targetTest],
    ∀ target ∈ targetsOf kind (plansOf parsed), Grounded repo kind (pathPart target)

def OddGrounded : Prop :=
  ∀ kind ∈ [targetImpl, targetTest],
    ∀ target ∈ targetsOf kind (plansOf parsed),
      ¬ SpeltPlainly (pathPart target) → Grounded repo kind (pathPart target)

theorem passed_of_accepted
    {repo : RepoInventory} {parsed : PyDict} (accepted : Accepted repo parsed)
    {kind : TargetKind} (listed : kind ∈ [targetImpl, targetTest])
    {target : String} (member : target ∈ targetsOf kind (plansOf parsed)) :
    HasRoots kind ∧ (repo.fileExists (pathPart target) = true ∨
        kind.matchesConvention repo (pathPart target) = true) := by
  obtain ⟨plan, planMember, found⟩ := mem_filterMap.mp member
  obtain ⟨_, after, clean⟩ := exists_cleanPlan (trioErrors_of_accepted accepted) plan planMember
  have passed {claimed after : Claimed} (step : ClaimStep repo kind plan claimed after) :
      repo.fileExists (pathPart target) = true ∨
        kind.matchesConvention repo (pathPart target) = true := by
    rcases step with ⟨noTarget, _⟩ | ⟨_, _, known, _, _, noErrors⟩
    · rw [found] at noTarget
      cases noTarget
    · rw [found] at known
      obtain rfl := Option.some.inj known
      exact pathErrors_eq_nil noErrors
  simp only [mem_cons, not_mem_nil, or_false] at listed
  rcases listed with rfl | rfl
  · exact ⟨targetImpl_hasRoots, passed clean.impl⟩
  · exact ⟨targetTest_hasRoots, passed clean.test⟩

/-- Accepted targets are grounded if the oddly spelt ones are, and the
inventory knows the files that a path leads to if it leads to what is left of
it. -/
theorem accepted_grounded_iff (repo : RepoInventory) (parsed : PyDict) (root : FilePath)
    (path : String) :
    ((Accepted repo parsed → AllGrounded repo parsed) ↔
        (Accepted repo parsed → OddGrounded repo parsed)) ∧
      ((∀ other : RepoInventory, other.root = root →
          (other.fileExists path = true ↔ LeadsToFile other path)) ↔
        locationOf root path = some (segments (normalizedPath path)) ∨
          (¬ IsSourcePath (normalizedPath path) ∧ ∀ file, IsSourcePath file →
              locationOf root path ≠ some (segments file))) := by
  refine ⟨forall_congr' fun accepted => ⟨?_, ?_⟩, fileExists_iff_leadsToFile root path⟩
  · intro grounded kind listed target member _
    exact grounded kind listed target member
  · intro odd kind listed target member
    by_cases plain : SpeltPlainly (pathPart target)
    · obtain ⟨roots, passed⟩ := passed_of_accepted accepted listed member
      exact grounded_of_plain roots plain passed
    · exact odd kind listed target member plain

def climbingPlan : PyDict := [("plans", .list [implPlan "p1" "src/../../secrets.py::token" true])]

theorem climbing_accepted_outside :
    ¬ ∀ (repo : RepoInventory), (∀ parsed, Accepted repo parsed → AllGrounded repo parsed) ∧
        ∀ path, repo.fileExists path = true ↔ LeadsToFile repo path := by
  intro right
  have accepted : Accepted soleModule climbingPlan := by
    unfold Accepted
    decide +kernel
  have member : "src/../../secrets.py::token" ∈ targetsOf targetImpl (plansOf climbingPlan) := by
    decide +kernel
  obtain ⟨_, there, _⟩ := (right soleModule).1 climbingPlan accepted
    targetImpl mem_cons_self _ member
  have outside : locationOf soleModule.root (pathPart "src/../../secrets.py::token") = none := by
    decide +kernel
  rw [outside] at there
  cases there

end Skills

end AccruviaHarness
