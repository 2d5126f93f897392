import AccruviaHarness.Promotion.PathSync
import AccruviaHarness.Skills.RepoInventory

/-!
# Where synced paths lead

The paths of an objective are filtered by patterns of their text, and every
destination is compared with the worktree root by its text.
-/

namespace AccruviaHarness

open Library DirectoryTree List
open Skills (segments resolve startsWith)

namespace RepositoryPromotionService

/-! ## Components of a text -/

theorem cons_intercalate (separator : Char) {pieces : List (List Char)} (nonempty : pieces ≠ []) :
    separator :: [separator].intercalate pieces = pieces.flatMap (separator :: ·) := by
  induction pieces with
  | nil => exact absurd rfl nonempty
  | cons _ pieces ih =>
    cases pieces with
    | nil => simp [List.intercalate]
    | cons _ _ =>
      rw [flatMap_cons, ← ih (cons_ne_nil _ _), intercalate_cons_of_ne_nil (cons_ne_nil _ _)]
      simp

theorem upward_infix_iff (characters : List Char) :
    ['/', '.', '.', '/'] <:+: '/' :: characters ↔
      ∃ front back, characters.splitOn '/' = front ++ ['.', '.'] :: back ∧ back ≠ [] := by
  constructor
  · intro found
    obtain ⟨before, after, text⟩ := found
    have whole : ([] : List Char) :: characters.splitOn '/' =
        before.splitOn '/' ++ ['.', '.'] :: after.splitOn '/' := by
      have left : ([] ++ '/' :: characters).splitOn '/' =
          [].splitOn '/' ++ characters.splitOn '/' :=
        splitOn_append_cons_self [] characters
      have right : (before ++ '/' :: (['.', '.'] ++ '/' :: after)).splitOn '/' =
          before.splitOn '/' ++ (['.', '.'] ++ '/' :: after).splitOn '/' :=
        splitOn_append_cons_self before _
      have middle : (['.', '.'] ++ '/' :: after).splitOn '/' =
          ['.', '.'].splitOn '/' ++ after.splitOn '/' :=
        splitOn_append_cons_self ['.', '.'] after
      have shape : before ++ '/' :: (['.', '.'] ++ '/' :: after) = [] ++ '/' :: characters := by
        simpa using text
      rw [shape, left, middle] at right
      exact right
    have pieces := splitOn_ne_nil '/' before
    obtain ⟨_, front, split⟩ := exists_cons_of_ne_nil pieces
    rw [split, cons_append, List.cons.injEq] at whole
    exact ⟨front, _, whole.2, splitOn_ne_nil '/' after⟩
  · intro split
    obtain ⟨front, _, split, nonempty⟩ := split
    have pieces := splitOn_ne_nil '/' characters
    have text := cons_intercalate '/' pieces
    rw [intercalate_splitOn, split, flatMap_append, flatMap_cons] at text
    obtain ⟨next, rest, rfl⟩ := exists_cons_of_ne_nil nonempty
    rw [text]
    exact ⟨front.flatMap ('/' :: ·), next ++ rest.flatMap ('/' :: ·), by simp⟩

variable {text : String}

theorem mem_pathParts {part : String} :
    part ∈ pathParts text ↔ part ∈ segments text ∧ part ≠ "" ∧ part ≠ "." := by
  unfold pathParts segments
  simp [mem_filter]

theorem segments_pathText (nonempty : pathParts text ≠ []) :
    segments (pathText text) = pathParts text := by
  have clean : ∀ piece ∈ (pathParts text).map String.toList, '/' ∉ piece := by
    intro piece member
    obtain ⟨part, partMember, rfl⟩ := mem_map.mp member
    obtain ⟨_, segmentMember, rfl⟩ := mem_map.mp (mem_pathParts.mp partMember).1
    rw [String.toList_ofList]
    exact not_mem_of_mem_splitOn segmentMember
  have pieces : (pathParts text).map String.toList ≠ [] := by simpa using nonempty
  have split : (pathText text).toList.splitOn '/' = (pathParts text).map String.toList := by
    rw [pathText, if_neg nonempty, String.toList_intercalate]
    exact splitOn_intercalate '/' clean pieces
  have again : ∀ part, (String.ofList ∘ String.toList) part = part :=
    fun part => String.ofList_toList
  rw [segments, split, map_map, map_congr_left (fun part _ => again part), map_id']

theorem pathParts_pathText (text : String) : pathParts (pathText text) = pathParts text := by
  by_cases empty : pathParts text = []
  · rw [pathText, if_pos empty, empty]
    decide
  · have kept : (segments (pathText text)).filter (fun part =>
        part ≠ "" && part ≠ ".") = pathParts text := by
      rw [segments_pathText empty, filter_eq_self]
      intro part member
      simp [(mem_pathParts.mp member).2]
    exact kept

theorem isAbsolute_pathText (nonempty : pathParts text ≠ []) :
    isAbsolute (pathText text) = false := by
  by_contra absolute
  rw [Bool.not_eq_false, isAbsolute, decide_eq_true_eq, head?_eq_some_iff] at absolute
  obtain ⟨_, characters⟩ := absolute
  have first : "" ∈ segments (pathText text) := by
    rw [segments, characters, splitOn_cons_eq_if_modifyHead]
    simp
  rw [segments_pathText nonempty] at first
  exact (mem_pathParts.mp first).2.1 rfl

/-! ## The paths that survive -/

/-- The text of a path after `strip` and `replace`. -/
def cleanedText (raw : String) : String :=
  String.ofList <| (pyStrip raw).toList.map fun character =>
    if character = '\\' then '/' else character

def LeadsUpInside (path : String) : Prop :=
  ∃ front back, segments path = front ++ ".." :: back ∧ back ≠ []

theorem upward_infix_iff_leadsUpInside (path : String) :
    ['/', '.', '.', '/'] <:+: '/' :: path.toList ↔ LeadsUpInside path := by
  rw [upward_infix_iff]
  have up : String.ofList ['.', '.'] = ".." := rfl
  unfold LeadsUpInside segments
  constructor
  · intro found
    obtain ⟨front, back, split, nonempty⟩ := found
    refine ⟨front.map String.ofList, back.map String.ofList, ?_, ?_⟩
    · rw [split, map_append, map_cons, up]
    · simpa using nonempty
  · intro found
    obtain ⟨_, _, split, nonempty⟩ := found
    obtain ⟨start, _, pieces, rfl, tail⟩ := map_eq_append_iff.mp split
    obtain ⟨piece, later, rfl, dots, rfl⟩ := map_eq_cons_iff.mp tail
    have own : piece = ['.', '.'] := by
      have characters := congrArg String.toList dots
      rw [String.toList_ofList] at characters
      exact characters
    refine ⟨start, later, ?_, ?_⟩
    · rw [pieces, own]
    · simpa using nonempty

variable {raw : String} {parts : FilePath}

theorem normalizeObjectivePath_eq_some_iff :
    normalizeObjectivePath raw = some text ↔ isAbsolute (cleanedText raw) = false ∧
        ¬ LeadsUpInside (cleanedText raw) ∧ pathParts (cleanedText raw) ≠ [] ∧
            text = pathText (cleanedText raw) := by
  have unfolded : normalizeObjectivePath raw =
      if cleanedText raw = "" ∨ isAbsolute (cleanedText raw) ∨
          ['.', '.', '/'].isPrefixOf (cleanedText raw).toList ∨
            ['/', '.', '.', '/'] <:+: '/' :: (cleanedText raw).toList then
        none
      else if pathText (cleanedText raw) = "." then none
      else some (pathText (cleanedText raw)) := rfl
  rw [unfolded, ← upward_infix_iff_leadsUpInside]
  generalize cleanedText raw = path
  -- The pattern `../` at the start is the pattern `/../` of the longer text.
  have atStart : ['.', '.', '/'].isPrefixOf path.toList = true →
      ['/', '.', '.', '/'] <:+: '/' :: path.toList := by
    intro starts
    obtain ⟨rest, text⟩ := isPrefixOf_iff_prefix.mp starts
    rw [← text]
    exact ⟨[], rest, rfl⟩
  have empty : path = "" → pathParts path = [] := by
    rintro rfl
    decide
  have here : pathText path = "." ↔ pathParts path = [] := by
    constructor
    · intro dot
      have again := pathParts_pathText path
      rw [dot] at again
      rw [← again]
      decide
    · intro none
      rw [pathText, if_pos none]
  rw [Ne, ← here]
  by_cases absolute : isAbsolute path = true
  · simp [absolute]
  by_cases up : ['/', '.', '.', '/'] <:+: '/' :: path.toList
  · simp [up]
  by_cases none : pathText path = "."
  · simp [none]
  have named : path ≠ "" := fun same => none (here.mpr (empty same))
  have notAtStart : ¬ ['.', '.', '/'].isPrefixOf path.toList = true :=
    fun starts => up (atStart starts)
  rw [if_neg (by simp [absolute, up, named, notAtStart]), if_neg none, Option.some.injEq, eq_comm]
  simp [absolute, up, none]

theorem not_up_of_not_leadsUpInside {path : String} (onlyLast : ¬ LeadsUpInside path) :
    ".." ∉ (pathParts path).dropLast := by
  intro member
  obtain ⟨front, back, parts⟩ := append_of_mem member
  have whole : pathParts path ≠ [] := by
    intro empty
    rw [empty] at member
    cases member
  have shape : pathParts path = front ++ ".." :: (back ++ [(pathParts path).getLast whole]) := by
    have again := dropLast_append_getLast whole
    rw [parts, append_assoc, cons_append] at again
    exact again.symm
  unfold pathParts at shape
  obtain ⟨start, _, split, _, filtered⟩ := filter_eq_append_iff.mp shape
  obtain ⟨skipped, later, tail, _, _, kept⟩ := filter_eq_cons_iff.mp filtered
  apply onlyLast
  refine ⟨start ++ skipped, later, ?_, ?_⟩
  · unfold segments
    rw [split, tail, append_assoc]
  · rintro rfl
    simp at kept

structure Surviving (text : String) : Prop where
  relative : isAbsolute text = false
  nonempty : pathParts text ≠ []
  onlyLast : ".." ∉ (pathParts text).dropLast

theorem surviving_of_normalized (kept : normalizeObjectivePath raw = some text) :
    Surviving text := by
  have shape := normalizeObjectivePath_eq_some_iff.mp kept
  generalize cleanedText raw = path at shape
  obtain ⟨_, onlyLast, nonempty, same⟩ := shape
  have parts : pathParts text = pathParts path := by rw [same, pathParts_pathText]
  refine ⟨same ▸ isAbsolute_pathText nonempty, ?_, ?_⟩
  · rw [parts]
    exact nonempty
  · rw [parts]
    exact not_up_of_not_leadsUpInside onlyLast

theorem mem_normalizeObjectivePaths {objectivePaths : List String} :
    text ∈ normalizeObjectivePaths objectivePaths ↔
      ∃ raw ∈ objectivePaths, normalizeObjectivePath raw = some text := by
  rw [normalizeObjectivePaths, mem_sortedTexts, mem_filterMap]

/-! ## Where they lead -/

theorem foldl_down (down : ".." ∉ parts) (start : FilePath) :
    parts.foldl (fun location part =>
        if part = ".." then location.dropLast else location ++ [part]) start =
      start ++ parts := by
  induction parts generalizing start with
  | nil => simp
  | cons _ _ ih =>
    rw [mem_cons, not_or] at down
    rw [foldl_cons, if_neg (Ne.symm down.1), ih down.2]
    simp

theorem resolveParts_down (down : ".." ∉ parts) (start : FilePath) :
    parts.foldlM (fun path part =>
        if part = ".." then if path = [] then none else some path.dropLast
        else some (path ++ [part])) start = some (start ++ parts) := by
  induction parts generalizing start with
  | nil => simp
  | cons _ _ ih =>
    rw [mem_cons, not_or] at down
    rw [foldlM_cons, if_neg (Ne.symm down.1), Option.bind_eq_bind, Option.bind_some, ih down.2]
    simp

inductive Leads (text : String) : Option FilePath → Prop where
  | below (down : ".." ∉ pathParts text) :
      Leads text (some (pathParts text))
  | up {parts : FilePath} {name : String} (down : ".." ∉ parts)
      (shape : pathParts text = parts ++ [name] ++ [".."]) :
      Leads text (some parts)
  | above (shape : pathParts text = [".."]) : Leads text none

theorem Surviving.leads (surviving : Surviving text) :
    Leads text (resolveParts (pathParts text)) := by
  have split := dropLast_append_getLast surviving.nonempty
  have down := surviving.onlyLast
  generalize (pathParts text).dropLast = parts at split down
  generalize (pathParts text).getLast surviving.nonempty = last at split
  unfold resolveParts
  by_cases up : last = ".."
  · subst up
    rcases eq_nil_or_concat parts with rfl | ⟨front, _, rfl⟩
    · have shape : pathParts text = [".."] := split.symm
      rw [shape]
      exact .above shape
    · rw [concat_eq_append] at split down
      have frontDown : ".." ∉ front := fun member => down (mem_append_left _ member)
      rw [← split, foldlM_append, resolveParts_down down]
      simp only [nil_append, foldlM_cons, foldlM_nil,
        Option.bind_eq_bind, Option.bind_some, if_true]
      rw [if_neg (by simp), dropLast_concat]
      exact .up frontDown split.symm
  · have all : ".." ∉ pathParts text := by
      rw [← split, mem_append, mem_singleton, not_or]
      exact ⟨down, Ne.symm up⟩
    rw [resolveParts_down all, nil_append]
    exact .below all

theorem resolve_of_relative (root : FilePath) (relative : isAbsolute text = false) :
    resolve root text = (pathParts text).foldl (fun location part =>
      if part = ".." then location.dropLast else location ++ [part]) root := by
  rw [resolve, relative]
  rfl

theorem Surviving.resolve_of_some (surviving : Surviving text) (root : FilePath)
    {place : FilePath} (leads : resolveParts (pathParts text) = some place) :
    resolve root text = root ++ place := by
  have kinds := surviving.leads
  rw [leads] at kinds
  rw [resolve_of_relative root surviving.relative]
  cases kinds with
  | below down => exact foldl_down down root
  | @up _ name down shape =>
    have notUp : name ≠ ".." := by
      rintro rfl
      apply surviving.onlyLast
      rw [shape, dropLast_concat]
      simp
    rw [shape, foldl_append, foldl_append, foldl_down down]
    simp [notUp]

theorem Surviving.resolve_of_none (surviving : Surviving text) (root : FilePath)
    (leads : resolveParts (pathParts text) = none) :
    resolve root text = root.dropLast := by
  have kinds := surviving.leads
  rw [leads] at kinds
  rw [resolve_of_relative root surviving.relative]
  cases kinds with
  | above shape =>
    rw [shape]
    rfl

/-! ## The comparison with the root -/

variable (path : FilePath)

def Components : Prop := ∀ part ∈ path, part ≠ "" ∧ '/' ∉ part.toList

structure WorktreeRoot where
  path : FilePath
  nonempty : path ≠ []
  components : Components path

/-- `str` of an absolute path. -/
def absoluteText : String := "/" ++ "/".intercalate path

/-- The guard of `_sync_objective_paths`. -/
def insideWorktree (worktreeRoot dest : FilePath) : Bool :=
  startsWith (absoluteText dest) (absoluteText worktreeRoot ++ "/") ||
    dest = worktreeRoot

/-! ## What a round deletes or replaces -/

section

variable {Content : Type}

/-- The location that a round of `_sync_objective_paths` deletes, or puts a
copy at. -/
def changedLocation (worktreeRoot : FilePath)
    (source worktree : WorkingTree Content) (relativePath : String) :
    Option FilePath :=
  let dest := resolve worktreeRoot relativePath
  if insideWorktree worktreeRoot dest then
    let path := dest.drop worktreeRoot.length
    match nodeAt path source, nodeAt path worktree with
    | some (.directory _), some (.file _) => none
    | some node, _ => (place path node worktree).map fun _ => dest
    | none, some _ => some dest
    | none, none => none
  else none

variable {source worktree result : WorkingTree Content} {path : FilePath}
  {raw : String}

theorem syncObjectivePath_absent (synced : syncObjectivePath source worktree text = .ok result)
    (missing : nodeAt path source = none)
    (absent : nodeAt path worktree = none ∨ resolveParts (pathParts text) = some path) :
    nodeAt path result = none := by
  unfold syncObjectivePath at synced
  cases leads : resolveParts (pathParts text) with
  | none =>
    rw [leads] at synced
    cases synced
  | some covered =>
    rw [leads, Option.some.injEq] at absent
    rw [leads] at synced
    dsimp only at synced
    split at synced
    · cases synced
    next node found _ =>
      have different : covered ≠ path := by
        rintro rfl
        rw [found] at missing
        cases missing
      have absent := absent.resolve_right different
      split at synced
      next placed =>
        cases synced
        by_cases below : covered <+: path
        · obtain ⟨later, rfl⟩ := below
          rw [nodeAt_append, found, Option.bind_some] at missing
          rw [nodeAt_place_below placed]
          exact missing
        · apply nodeAt_place_eq_none placed absent below
          intro above
          obtain ⟨_, rfl⟩ := above
          rw [nodeAt_append, missing] at found
          cases found
      · cases synced
    · cases synced
      rw [← Option.not_isSome_iff_eq_none]
      intro present
      have before := nodeAt_isSome_of_remove present
      rcases absent with absent | rfl
      · rw [absent] at before
        cases before
      · have below : covered ≠ [] := by
          rintro rfl
          cases missing
        rw [nodeAt_remove_self below] at present
        cases present
    next alreadyAbsent =>
      cases synced
      rcases absent with absent | rfl
      · exact absent
      · exact alreadyAbsent

theorem syncObjectivePaths_absent {texts : List String}
    (synced : syncObjectivePaths source worktree texts = .ok result)
    (missing : nodeAt path source = none)
    (absent : nodeAt path worktree = none ∨
      ∃ text ∈ texts, resolveParts (pathParts text) = some path) :
    nodeAt path result = none := by
  unfold syncObjectivePaths at synced
  induction texts generalizing worktree with
  | nil =>
    cases synced
    simpa using absent
  | cons _ _ ih =>
    rw [foldlM_cons] at synced
    obtain ⟨_, first, rest⟩ := exists_of_bind_ok synced
    apply ih rest
    rw [exists_mem_cons_iff] at absent
    rcases absent with absent | here | later
    · exact .inl (syncObjectivePath_absent first missing (.inl absent))
    · exact .inl (syncObjectivePath_absent first missing (.inr here))
    · exact .inr later

/-! ## Confinement -/

def StrictlyInside (root location : FilePath) : Prop := ∃ path, path ≠ [] ∧ location = root ++ path

structure StaysInside (objectivePaths : List String) (root : WorktreeRoot)
    (source worktree : WorkingTree Content) : Prop where
  surviving : ∀ text ∈ normalizeObjectivePaths objectivePaths,
    StrictlyInside root.path (resolve root.path text)
  rounds : ∀ done text rest current location,
    normalizeObjectivePaths objectivePaths = done ++ text :: rest →
      syncObjectivePaths source worktree done = .ok current →
        changedLocation root.path source current text = some location →
          StrictlyInside root.path location
  content : ∀ result, syncObjectivePaths source worktree
      (normalizeObjectivePaths objectivePaths) = .ok result →
    ∀ text ∈ normalizeObjectivePaths objectivePaths, ∀ path,
      resolve root.path text = root.path ++ path →
        (∀ later, fileAt (path ++ later) result = fileAt (path ++ later) source) ∧
          (nodeAt path source = none → nodeAt path result = none)
  others : ∀ result, syncObjectivePaths source worktree
      (normalizeObjectivePaths objectivePaths) = .ok result →
    ∀ path, (∀ text ∈ normalizeObjectivePaths objectivePaths, ∀ covered,
      resolve root.path text = root.path ++ covered → ¬ covered <+: path) →
        fileAt path result = fileAt path worktree

structure ReachesRoot (raw : String) : Prop where
  relative : isAbsolute (cleanedText raw) = false
  last : (segments (cleanedText raw)).getLast? = some ".."
  short : pathParts (cleanedText raw) = [".."] ∨
    ∃ name, name ≠ ".." ∧ pathParts (cleanedText raw) = [name, ".."]

theorem ReachesRoot.survives (reaches : ReachesRoot raw) :
    normalizeObjectivePath raw = some (pathText (cleanedText raw)) := by
  obtain ⟨relative, last, short⟩ := reaches
  have nonempty : pathParts (cleanedText raw) ≠ [] := by
    rcases short with only | ⟨name, _, both⟩
    · simp [only]
    · simp [both]
  refine normalizeObjectivePath_eq_some_iff.mpr ⟨relative, ?_, nonempty, rfl⟩
  -- Another component that leads up would be a second one of the parts.
  have once : (pathParts (cleanedText raw)).count ".." = 1 := by
    rcases short with only | ⟨_, notUp, both⟩
    · simp [only]
    · simp [both, notUp]
  have counted : (pathParts (cleanedText raw)).count ".." =
      (segments (cleanedText raw)).count ".." := by
    unfold pathParts segments
    exact count_filter (by decide)
  rw [counted] at once
  intro inside
  obtain ⟨_, back, split, more⟩ := inside
  obtain ⟨final, rfl⟩ : ∃ start, back = start ++ [".."] := by
    rw [split, getLast?_append, getLast?_cons, getLast?_eq_getLast_of_ne_nil more] at last
    refine ⟨back.dropLast, ?_⟩
    have own : back.getLast more = ".." := by simpa using last
    rw [← own, dropLast_append_getLast]
  rw [split, count_append, count_cons_self, count_append, count_singleton_self] at once
  omega

theorem getLast_of_not_leadsUpInside {path : String} (onlyLast : ¬ LeadsUpInside path)
    (member : ".." ∈ pathParts path) :
    (segments path).getLast? = some ".." := by
  obtain ⟨front, back, split⟩ := append_of_mem (mem_pathParts.mp member).1
  have final : back = [] := by
    by_contra more
    exact onlyLast ⟨front, back, split, more⟩
  rw [split, final]
  simp

theorem strictlyInside_iff (kept : normalizeObjectivePath raw = some text) (root : FilePath) :
    StrictlyInside root (resolve root text) ↔ ¬ ReachesRoot raw := by
  have surviving := surviving_of_normalized kept
  obtain ⟨relative, onlyLast, _, same⟩ := normalizeObjectivePath_eq_some_iff.mp kept
  have parts : pathParts text = pathParts (cleanedText raw) := by rw [same, pathParts_pathText]
  have reaches : ReachesRoot raw ↔ pathParts text = [".."] ∨
      ∃ name, name ≠ ".." ∧ pathParts text = [name, ".."] := by
    constructor
    · intro reaches
      rw [parts]
      exact reaches.short
    · intro short
      refine ⟨relative, getLast_of_not_leadsUpInside onlyLast ?_, parts ▸ short⟩
      rw [← parts]
      rcases short with only | ⟨name, _, both⟩
      · simp [only]
      · simp [both]
  rw [reaches]
  have kinds := surviving.leads
  cases leads : resolveParts (pathParts text) with
  | none =>
    rw [surviving.resolve_of_none root leads]
    rw [leads] at kinds
    cases kinds with
    | above shape =>
      refine iff_of_false ?_ (not_not.mpr (.inl shape))
      intro inside
      obtain ⟨path, below, located⟩ := inside
      have lengths := congrArg List.length located
      have longer := length_pos_of_ne_nil below
      rw [length_dropLast, length_append] at lengths
      omega
  | some place =>
    rw [surviving.resolve_of_some root leads]
    rw [leads] at kinds
    have strict : StrictlyInside root (root ++ place) ↔ place ≠ [] := by
      constructor
      · intro inside
        obtain ⟨_, below, located⟩ := inside
        rw [append_cancel_left located]
        exact below
      · exact fun below => ⟨place, below, rfl⟩
    rw [strict]
    cases kinds with
    | below down =>
      refine iff_of_true surviving.nonempty ?_
      intro short
      rcases short with only | ⟨name, _, both⟩
      · simp [only] at down
      · simp [both] at down
    | @up _ name down shape =>
      have notUp : name ≠ ".." := by
        rintro rfl
        apply surviving.onlyLast
        rw [shape, dropLast_concat]
        simp
      rw [not_iff_not, shape]
      constructor
      · rintro rfl
        exact .inr ⟨name, notUp, rfl⟩
      · intro short
        rcases short with only | ⟨_, _, both⟩
        · have lengths := congrArg List.length only
          simp at lengths
        · cases place with
          | nil => rfl
          | cons _ _ =>
            have lengths := congrArg List.length both
            simp at lengths

/-- Every filtered path stays inside exactly where no text reaches the
root. -/
theorem staysInside_iff (objectivePaths : List String) (root : WorktreeRoot)
    (source worktree : WorkingTree Content) :
    StaysInside objectivePaths root source worktree ↔
      ∀ raw ∈ objectivePaths, ¬ ReachesRoot raw := by
  constructor
  · intro stays raw member reaches
    have kept := reaches.survives
    have inside := stays.surviving _ (mem_normalizeObjectivePaths.mpr ⟨raw, member, kept⟩)
    exact (strictlyInside_iff kept root.path).mp inside reaches
  · intro none
    have survives : ∀ text ∈ normalizeObjectivePaths objectivePaths,
        Surviving text ∧ StrictlyInside root.path (resolve root.path text) := by
      intro text member
      obtain ⟨raw, rawMember, kept⟩ := mem_normalizeObjectivePaths.mp member
      exact ⟨surviving_of_normalized kept,
        (strictlyInside_iff kept root.path).mpr (none raw rawMember)⟩
    have placed : ∀ text ∈ normalizeObjectivePaths objectivePaths, ∀ path,
        resolve root.path text = root.path ++ path ↔ resolveParts (pathParts text) = some path := by
      intro text member path
      obtain ⟨surviving, _, _, located⟩ := survives text member
      cases leads : resolveParts (pathParts text) with
      | none =>
        rw [surviving.resolve_of_none root.path leads] at located
        have lengths := congrArg List.length located
        have long := length_pos_of_ne_nil root.nonempty
        rw [length_dropLast, length_append] at lengths
        omega
      | some _ =>
        rw [surviving.resolve_of_some root.path leads, append_right_inj, Option.some.injEq]
    refine ⟨fun text member => (survives text member).2, ?_, ?_, ?_⟩
    · intro done text rest current location listed _ changed
      have member : text ∈ normalizeObjectivePaths objectivePaths := by
        rw [listed]
        simp
      have same : location = resolve root.path text := by
        unfold changedLocation at changed
        dsimp only at changed
        split at changed
        · split at changed
          · cases changed
          · obtain ⟨_, _, same⟩ := Option.map_eq_some_iff.mp changed
            exact same.symm
          · exact (Option.some.inj changed).symm
          · cases changed
        · cases changed
      rw [same]
      exact (survives text member).2
    · intro result synced text member path located
      have leads := (placed text member path).mp located
      constructor
      · intro later
        apply (fileAt_syncObjectivePaths synced _).1
        exact ⟨text, member, path, leads, prefix_append path later⟩
      · intro missing
        exact syncObjectivePaths_absent synced missing (.inr ⟨text, member, leads⟩)
    · intro result synced path outside
      apply (fileAt_syncObjectivePaths synced path).2
      intro covers
      obtain ⟨text, member, covered, leads, above⟩ := covers
      exact outside text member covered ((placed text member covered).mpr leads) above

def stagedRoot : WorktreeRoot where
  path := ["staging", "objective"]
  nonempty := by decide
  components := by
    intro part member
    simp only [mem_cons, not_mem_nil, or_false] at member
    rcases member with rfl | rfl <;> decide

def oneSourceFile : WorkingTree Nat := .directory [("src", .directory [("app.py", .file 0)])]

/-- The path of the source directory with two dots after it survives, and its
round replaces the root of the worktree. -/
theorem not_staysInside_upward :
    changedLocation stagedRoot.path oneSourceFile oneSourceFile "src/.." = some stagedRoot.path ∧
      ¬ StaysInside ["src/.."] stagedRoot oneSourceFile oneSourceFile := by
  constructor
  · decide +kernel
  · intro stays
    have survives : "src/.." ∈ normalizeObjectivePaths ["src/.."] := by decide +kernel
    obtain ⟨path, below, located⟩ := stays.surviving "src/.." survives
    have root : resolve stagedRoot.path "src/.." = stagedRoot.path := by decide +kernel
    rw [root] at located
    exact below (self_eq_append_right.mp located)

end

end RepositoryPromotionService

end AccruviaHarness
