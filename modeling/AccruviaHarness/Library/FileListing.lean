import AccruviaHarness.Library.DirectoryTree

/-!
# Listings of files

The files of a directory tree as a list of paths with contents, of which no
path is at or above another one.
-/

namespace Library

open DirectoryTree List

universe u v

structure FileListing (Name : Type u) (Content : Type v) where
  entries : List (List Name × Content)
  /-- No file is a directory of another one, and none is listed twice. -/
  apart : ∀ first ∈ entries, ∀ second ∈ entries, first.1 <+: second.1 →
    first = second

namespace FileListing

variable {Name : Type u} {Content : Type v}

def empty : FileListing Name Content where
  entries := []
  apart := by simp

variable [DecidableEq Name]

def file (listing : FileListing Name Content) (path : List Name) : Option Content :=
  (listing.entries.find? fun entry => entry.1 = path).map Prod.snd

theorem file_eq_some_iff {listing : FileListing Name Content} {path : List Name}
    {content : Content} :
    listing.file path = some content ↔ (path, content) ∈ listing.entries := by
  unfold file
  rw [Option.map_eq_some_iff]
  constructor
  · rintro ⟨entry, found, rfl⟩
    have here := find?_some found
    have member := mem_of_find?_eq_some found
    rw [decide_eq_true_eq] at here
    rw [← here]
    exact member
  · intro member
    cases found : listing.entries.find? fun entry => entry.1 = path with
    | none =>
      have missing := find?_eq_none.mp found (path, content) member
      exact absurd (decide_eq_true rfl) missing
    | some entry =>
      have here : entry.1 = path := by simpa using find?_some found
      have stored := mem_of_find?_eq_some found
      have same := listing.apart entry stored (path, content) member (here ▸ prefix_rfl)
      exact ⟨entry, rfl, congrArg Prod.snd same⟩

def related (first second : List Name) : Bool := first.isPrefixOf second || second.isPrefixOf first

theorem related_iff {first second : List Name} :
    related first second = true ↔ first <+: second ∨ second <+: first := by
  unfold related
  rw [Bool.or_eq_true, isPrefixOf_iff_prefix, isPrefixOf_iff_prefix]

def takenFiles (taken : List Name → Bool)
    (tree : DirectoryTree Name Content) : List (List Name × Content) :=
  (filePaths tree).filterMap fun path =>
    if taken path then (fileAt path tree).map fun content => (path, content)
    else none

section

variable {taken : List Name → Bool} {tree : DirectoryTree Name Content}
  {path : List Name} {content : Content}

theorem mem_takenFiles :
    (path, content) ∈ takenFiles taken tree ↔
      taken path = true ∧ fileAt path tree = some content := by
  unfold takenFiles
  rw [mem_filterMap]
  constructor
  · rintro ⟨_, _, kept⟩
    split at kept
    next chosen =>
      obtain ⟨_, present, same⟩ := Option.map_eq_some_iff.mp kept
      cases same
      exact ⟨chosen, present⟩
    · cases kept
  · rintro ⟨chosen, present⟩
    have listed : path ∈ filePaths tree := by
      apply mem_filePaths
      rw [present]
      exact Option.some_ne_none content
    refine ⟨path, listed, ?_⟩
    rw [if_pos chosen, present]
    rfl

theorem eq_of_fileAt_of_prefixed {other : List Name} {otherContent : Content}
    (first : fileAt path tree = some content)
    (second : fileAt other tree = some otherContent)
    (above : path <+: other) : path = other := by
  obtain ⟨later, rfl⟩ := above
  by_cases here : later = []
  · rw [here, append_nil]
  · have missing := nodeAt_append_of_file first here
    rw [nodeAt_of_fileAt second] at missing
    cases missing

end

def displaced (taken : List Name → Bool) (tree : DirectoryTree Name Content)
    (path : List Name) : Bool :=
  (takenFiles taken tree).any fun entry => related entry.1 path

theorem displaced_iff {taken : List Name → Bool} {tree : DirectoryTree Name Content}
    {path : List Name} :
    displaced taken tree path = true ↔ ∃ other content, taken other = true ∧
        fileAt other tree = some content ∧ (other <+: path ∨ path <+: other) := by
  unfold displaced
  rw [any_eq_true]
  constructor
  · rintro ⟨⟨other, content⟩, member, near⟩
    obtain ⟨chosen, present⟩ := mem_takenFiles.mp member
    exact ⟨other, content, chosen, present, related_iff.mp near⟩
  · rintro ⟨other, content, chosen, present, near⟩
    exact ⟨(other, content), mem_takenFiles.mpr ⟨chosen, present⟩, related_iff.mpr near⟩

/-- The listing after it has taken over the tree's files at some paths. The
dropped paths lose what the listing had there. -/
def takeOver (listing : FileListing Name Content) (taken dropped : List Name → Bool)
    (tree : DirectoryTree Name Content) : FileListing Name Content where
  entries :=
    takenFiles taken tree ++ listing.entries.filter fun entry =>
      !dropped entry.1 && !displaced taken tree entry.1
  apart := by
    have remains {entry : List Name × Content}
        (member : entry ∈ listing.entries.filter fun entry =>
          !dropped entry.1 && !displaced taken tree entry.1) :
        entry ∈ listing.entries ∧ displaced taken tree entry.1 = false := by
      obtain ⟨stored, kept⟩ := mem_filter.mp member
      rw [Bool.and_eq_true, Bool.not_eq_true', Bool.not_eq_true'] at kept
      exact ⟨stored, kept.2⟩
    have unrelated {entry other : List Name × Content} (member : entry ∈ takenFiles taken tree)
        (kept : displaced taken tree other.1 = false) :
        ¬ (entry.1 <+: other.1 ∨ other.1 <+: entry.1) := by
      intro near
      obtain ⟨chosen, present⟩ := mem_takenFiles.mp member
      have moved := displaced_iff.mpr ⟨entry.1, entry.2, chosen, present, near⟩
      rw [kept] at moved
      cases moved
    intro first firstMember second secondMember above
    rcases mem_append.mp firstMember with firstTaken | firstKept
    · rcases mem_append.mp secondMember with secondTaken | secondKept
      · obtain ⟨_, firstPresent⟩ := mem_takenFiles.mp firstTaken
        obtain ⟨_, secondPresent⟩ := mem_takenFiles.mp secondTaken
        have samePath := eq_of_fileAt_of_prefixed firstPresent secondPresent above
        rw [samePath, secondPresent] at firstPresent
        exact Prod.ext samePath (Option.some.inj firstPresent).symm
      · exact absurd (.inl above) (unrelated firstTaken (remains secondKept).2)
    · rcases mem_append.mp secondMember with secondTaken | secondKept
      · exact absurd (.inr above) (unrelated secondTaken (remains firstKept).2)
      · exact listing.apart first (remains firstKept).1 second (remains secondKept).1 above

section

variable {listing : FileListing Name Content}
  {taken dropped : List Name → Bool} {tree : DirectoryTree Name Content}
  {path : List Name}

theorem file_takeOver_of_taken {content : Content} (chosen : taken path = true)
    (present : fileAt path tree = some content) :
    (listing.takeOver taken dropped tree).file path = some content :=
  file_eq_some_iff.mpr (mem_append_left _ (mem_takenFiles.mpr ⟨chosen, present⟩))

theorem file_takeOver_of_not_taken (other : taken path = false ∨ fileAt path tree = none) :
    (listing.takeOver taken dropped tree).file path =
      if dropped path = true ∨ displaced taken tree path = true then none
      else listing.file path := by
  have notTaken {content : Content} : (path, content) ∉ takenFiles taken tree := by
    intro member
    obtain ⟨chosen, present⟩ := mem_takenFiles.mp member
    rcases other with unchosen | missing
    · rw [chosen] at unchosen
      cases unchosen
    · rw [present] at missing
      cases missing
  apply Option.ext
  intro content
  rw [file_eq_some_iff]
  have inside : (path, content) ∈ (listing.takeOver taken dropped tree).entries ↔
        (path, content) ∈ listing.entries ∧ ¬ (dropped path = true ∨
          displaced taken tree path = true) := by
    unfold takeOver
    rw [mem_append, or_iff_right notTaken, mem_filter]
    simp
  rw [inside]
  by_cases gone : dropped path = true ∨ displaced taken tree path = true
  · rw [if_pos gone]
    simp [gone]
  · rw [if_neg gone, file_eq_some_iff]
    exact and_iff_left gone

end

def differences [DecidableEq Content]
    (first second : FileListing Name Content) : List (List Name) :=
  ((first.entries ++ second.entries).map Prod.fst).filter fun path =>
    first.file path ≠ second.file path

end FileListing

end Library
