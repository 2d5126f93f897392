import Mathlib.Data.List.Basic
import Mathlib.Data.List.Infix

/-!
# Directory trees

A tree of files and directories, read by paths. A tree can be put at a path,
with the directories above it made where they are missing, and what is at a
path can be removed.
-/

namespace Library

open List

universe u v

inductive DirectoryTree (Name : Type u) (Content : Type v) where
  | file (content : Content)
  | directory (entries : List (Name × DirectoryTree Name Content))

namespace DirectoryTree

variable {Name : Type u} {Content : Type v} [DecidableEq Name]

variable (entries : List (Name × DirectoryTree Name Content))

def childAt (name : Name) : Option (DirectoryTree Name Content) :=
  (entries.find? fun entry => entry.1 = name).map Prod.snd

def dropChild (name : Name) : List (Name × DirectoryTree Name Content) :=
  entries.filter fun entry => entry.1 ≠ name

def setChild (name : Name) (child : DirectoryTree Name Content) :
    List (Name × DirectoryTree Name Content) :=
  (name, child) :: dropChild entries name

def nodeAt : List Name → DirectoryTree Name Content → Option (DirectoryTree Name Content)
  | [], tree => some tree
  | name :: rest, .directory entries => (childAt entries name).bind fun child => nodeAt rest child
  | _ :: _, .file _ => none

def content? : DirectoryTree Name Content → Option Content
  | .file content => some content
  | .directory _ => none

def fileAt (path : List Name) (tree : DirectoryTree Name Content) : Option Content :=
  (nodeAt path tree).bind content?

/-- The tree with another one at a path. Missing directories above the path
are made; a file above it stands in the way. -/
def place : List Name → DirectoryTree Name Content →
    DirectoryTree Name Content → Option (DirectoryTree Name Content)
  | [], new, _ => some new
  | name :: rest, new, .directory entries =>
    (place rest new ((childAt entries name).getD (.directory []))).map
      fun child => .directory (setChild entries name child)
  | _ :: _, _, .file _ => none

def remove : List Name → DirectoryTree Name Content → DirectoryTree Name Content
  | [], _ => .directory []
  | [name], .directory entries => .directory (dropChild entries name)
  | name :: next :: rest, .directory entries =>
    match childAt entries name with
    | some child => .directory (setChild entries name (remove (next :: rest) child))
    | none => .directory entries
  | _ :: _, .file content => .file content

mutual

def filePaths : DirectoryTree Name Content → List (List Name)
  | .file _ => [[]]
  | .directory entries => entryPaths entries

def entryPaths : List (Name × DirectoryTree Name Content) → List (List Name)
  | [] => []
  | (name, child) :: entries =>
    (filePaths child).map (fun path => name :: path) ++ entryPaths entries

end

variable (entries : List (Name × DirectoryTree Name Content))

theorem childAt_dropChild (name wanted : Name) :
    childAt (dropChild entries name) wanted =
      if wanted = name then none else childAt entries wanted := by
  unfold childAt dropChild
  rw [find?_filter]
  by_cases same : wanted = name
  · subst same
    rw [if_pos rfl, Option.map_eq_none_iff, find?_eq_none]
    intro entry _
    by_cases own : entry.1 = wanted
    · simp [own]
    · simp [own]
  · rw [if_neg same]
    congr 2
    funext entry
    by_cases own : entry.1 = wanted
    · simp [own, same]
    · simp [own]

theorem childAt_setChild (name wanted : Name) (child : DirectoryTree Name Content) :
    childAt (setChild entries name child) wanted =
      if wanted = name then some child else childAt entries wanted := by
  by_cases same : wanted = name
  · simp [childAt, setChild, same]
  · have later := childAt_dropChild entries name wanted
    rw [if_neg same] at later
    rw [if_neg same, ← later]
    simp [childAt, setChild, Ne.symm same]

@[simp]
theorem fileAt_nil_directory :
    fileAt [] (.directory entries) = none := rfl

@[simp]
theorem fileAt_empty (path : List Name) :
    fileAt path (.directory [] : DirectoryTree Name Content) = none := by
  cases path with
  | nil => rfl
  | cons _ _ => rfl

theorem fileAt_cons_directory (name : Name) (rest : List Name)
    (entries : List (Name × DirectoryTree Name Content)) :
    fileAt (name :: rest) (.directory entries) = (childAt entries name).bind (fileAt rest) := by
  unfold fileAt
  rw [nodeAt]
  cases childAt entries name <;> rfl

@[simp]
theorem fileAt_cons_file (name : Name) (rest : List Name) (content : Content) :
    fileAt (name :: rest) (.file content) = none := rfl

theorem fileAt_append (path later : List Name) (tree : DirectoryTree Name Content) :
    fileAt (path ++ later) tree = (nodeAt path tree).bind (fileAt later) := by
  induction path generalizing tree with
  | nil => rfl
  | cons name _ ih =>
    cases tree with
    | file _ => rfl
    | directory entries =>
      rw [cons_append, fileAt_cons_directory, nodeAt]
      cases childAt entries name with
      | none => rfl
      | some child => exact ih child

variable {target path : List Name}
  {new tree result : DirectoryTree Name Content} {content : Content}

/-- After a tree has been put at a path, the files under the path are the
files of that tree, and every other file is as before. -/
theorem fileAt_place (placed : place target new tree = some result) (path : List Name) :
    fileAt path result =
      if target <+: path then fileAt (path.drop target.length) new
      else fileAt path tree := by
  induction target generalizing tree result path with
  | nil =>
    cases placed
    simp
  | cons name _ ih =>
    cases tree with
    | file _ => cases placed
    | directory entries =>
      rw [place, Option.map_eq_some_iff] at placed
      obtain ⟨child, placedBelow, rfl⟩ := placed
      cases path with
      | nil => simp
      | cons wanted later =>
        rw [fileAt_cons_directory, fileAt_cons_directory, childAt_setChild]
        by_cases same : wanted = name
        · subst same
          have below := ih placedBelow later
          have old : fileAt later ((childAt entries wanted).getD (.directory [])) =
                (childAt entries wanted).bind (fileAt later) := by
            cases childAt entries wanted with
            | none => simp
            | some _ => rfl
          rw [old] at below
          simpa [cons_prefix_cons] using below
        · simp [cons_prefix_cons, same, Ne.symm same]

theorem fileAt_remove (target path : List Name) (tree : DirectoryTree Name Content) :
    fileAt path (remove target tree) =
      if target <+: path then none else fileAt path tree := by
  induction target generalizing tree path with
  | nil => simp [remove]
  | cons name rest ih =>
    cases tree with
    | file _ =>
      cases path with
      | nil => simp [remove]
      | cons _ _ => simp [remove]
    | directory entries =>
      cases path with
      | nil =>
        cases rest with
        | nil => simp [remove]
        | cons _ _ =>
          rw [remove]
          cases childAt entries name <;> simp
      | cons wanted later =>
        cases rest with
        | nil =>
          rw [remove, fileAt_cons_directory, fileAt_cons_directory, childAt_dropChild]
          by_cases same : wanted = name
          · simp [same]
          · simp [same, Ne.symm same]
        | cons _ _ =>
          rw [remove, fileAt_cons_directory]
          cases present : childAt entries name with
          | none =>
            by_cases same : wanted = name
            · simp [fileAt_cons_directory, same, present]
            · simp [fileAt_cons_directory, Ne.symm same]
          | some child =>
            have below := ih later child
            rw [fileAt_cons_directory, childAt_setChild]
            by_cases same : wanted = name
            · simp [same, present, below]
            · simp [same, Ne.symm same]

theorem directory_of_nodeAt_append
    {later : List Name} (present : (nodeAt (path ++ later) tree).isSome)
    (below : later ≠ []) :
    ∃ entries, nodeAt path tree = some (.directory entries) := by
  induction path generalizing tree with
  | nil =>
    cases tree with
    | directory entries => exact ⟨entries, rfl⟩
    | file _ =>
      cases later with
      | nil => exact absurd rfl below
      | cons _ _ => cases present
  | cons name _ ih =>
    cases tree with
    | file _ => cases present
    | directory entries =>
      rw [cons_append, nodeAt] at present
      rw [nodeAt]
      cases found : childAt entries name with
      | none =>
        rw [found] at present
        cases present
      | some _ =>
        rw [found] at present
        exact ih present

theorem nodeAt_of_fileAt (found : fileAt path tree = some content) :
    nodeAt path tree = some (.file content) := by
  obtain ⟨node, present, isFile⟩ := Option.bind_eq_some_iff.mp found
  cases node with
  | directory _ => cases isFile
  | file _ =>
    cases isFile
    exact present

theorem nodeAt_append_of_file {later : List Name} (found : fileAt path tree = some content)
    (below : later ≠ []) : nodeAt (path ++ later) tree = none := by
  rw [← Option.not_isSome_iff_eq_none]
  intro present
  obtain ⟨_, directory⟩ := directory_of_nodeAt_append present below
  rw [nodeAt_of_fileAt found] at directory
  cases directory

theorem fileAt_place_file (placed : place target (.file content) tree = some result)
    (noDirectory : ∀ entries, nodeAt target tree ≠ some (.directory entries))
    (path : List Name) :
    fileAt path result =
      if path = target then some content else fileAt path tree := by
  rw [fileAt_place placed]
  by_cases above : target <+: path
  · obtain ⟨later, rfl⟩ := above
    rw [if_pos (prefix_append target later), drop_left]
    cases later with
    | nil =>
      rw [append_nil, if_pos rfl]
      rfl
    | cons _ _ =>
      rw [fileAt_cons_file, if_neg (by simp), fileAt_append]
      cases present : nodeAt target tree with
      | none => rfl
      | some node =>
        cases node with
        | file _ => rfl
        | directory entries => exact absurd present (noDirectory entries)
  · rw [if_neg above, if_neg]
    rintro rfl
    exact above (prefix_refl path)

theorem fileAt_remove_file (present : fileAt target tree = some content) (path : List Name) :
    fileAt path (remove target tree) =
      if path = target then none else fileAt path tree := by
  rw [fileAt_remove]
  by_cases above : target <+: path
  · obtain ⟨later, rfl⟩ := above
    rw [if_pos (prefix_append target later)]
    cases later with
    | nil => rw [append_nil, if_pos rfl]
    | cons _ _ =>
      rw [if_neg (by simp), fileAt, nodeAt_append_of_file present (by simp)]
      rfl
  · rw [if_neg above, if_neg]
    rintro rfl
    exact above (prefix_refl path)

theorem place_of_fileAt (present : fileAt target tree = some content)
    (new : DirectoryTree Name Content) :
    ∃ result, place target new tree = some result := by
  induction target generalizing tree with
  | nil => exact ⟨new, rfl⟩
  | cons name _ ih =>
    cases tree with
    | file _ => cases present
    | directory entries =>
      rw [fileAt_cons_directory] at present
      obtain ⟨_, found, below⟩ := Option.bind_eq_some_iff.mp present
      obtain ⟨result, placed⟩ := ih below
      exact ⟨.directory (setChild entries name result), by
        rw [place, found, Option.getD_some, placed, Option.map_some]⟩

/-- What is put at a path takes nothing away outside of it, and makes only
the directories above it. -/
theorem nodeAt_place_isSome (placed : place target new tree = some result)
    (present : (nodeAt path tree).isSome) (outside : ¬ target <+: path) :
    (nodeAt path result).isSome := by
  induction target generalizing tree result path with
  | nil => exact absurd List.nil_prefix outside
  | cons name _ ih =>
    cases tree with
    | file _ => cases placed
    | directory entries =>
      rw [place, Option.map_eq_some_iff] at placed
      obtain ⟨_, placedBelow, rfl⟩ := placed
      cases path with
      | nil => rfl
      | cons wanted _ =>
        rw [nodeAt] at present
        rw [nodeAt, childAt_setChild]
        by_cases same : wanted = name
        · subst same
          rw [if_pos rfl, Option.bind_some]
          rw [cons_prefix_cons, not_and] at outside
          cases found : childAt entries wanted with
          | none =>
            rw [found] at present
            cases present
          | some _ =>
            rw [found] at present placedBelow
            exact ih placedBelow present (outside rfl)
        · rw [if_neg same]
          exact present

theorem nodeAt_remove_isSome (present : (nodeAt path tree).isSome) (outside : ¬ target <+: path) :
    (nodeAt path (remove target tree)).isSome := by
  induction target generalizing tree path with
  | nil => exact absurd List.nil_prefix outside
  | cons name rest ih =>
    cases tree with
    | file _ =>
      rw [remove]
      exact present
    | directory entries =>
      cases path with
      | nil =>
        cases rest with
        | nil => rfl
        | cons _ _ =>
          rw [remove]
          cases childAt entries name <;> rfl
      | cons wanted _ =>
        rw [nodeAt] at present
        by_cases same : wanted = name
        · subst same
          rw [cons_prefix_cons, not_and] at outside
          cases rest with
          | nil => exact absurd nil_prefix (outside rfl)
          | cons _ _ =>
            rw [remove]
            cases found : childAt entries wanted with
            | none =>
              rw [found] at present
              cases present
            | some _ =>
              rw [found] at present
              rw [nodeAt, childAt_setChild, if_pos rfl, Option.bind_some]
              exact ih present (outside rfl)
        · cases rest with
          | nil =>
            rw [remove, nodeAt, childAt_dropChild, if_neg same]
            exact present
          | cons _ _ =>
            rw [remove]
            cases childAt entries name with
            | none => exact present
            | some _ =>
              rw [nodeAt, childAt_setChild, if_neg same]
              exact present

theorem nodeAt_isSome_of_remove (present : (nodeAt path (remove target tree)).isSome) :
    (nodeAt path tree).isSome := by
  induction target generalizing tree path with
  | nil =>
    cases path with
    | nil => rfl
    | cons _ _ => cases present
  | cons name rest ih =>
    cases path with
    | nil => rfl
    | cons _ _ =>
      cases tree with
      | file _ =>
        rw [remove] at present
        exact present
      | directory entries =>
        rw [nodeAt]
        cases rest with
        | nil =>
          rw [remove, nodeAt, childAt_dropChild] at present
          split at present
          · cases present
          · exact present
        | cons next _ =>
          rw [remove] at present
          cases found : childAt entries name with
          | none =>
            rw [found] at present
            exact present
          | some _ =>
            simp only [found] at present
            rw [nodeAt, childAt_setChild] at present
            split at present
            next same =>
              rw [same, found]
              exact ih present
            · exact present

theorem nodeAt_remove_self (below : target ≠ []) (tree : DirectoryTree Name Content) :
    nodeAt target (remove target tree) = none := by
  induction target generalizing tree with
  | nil => exact absurd rfl below
  | cons name rest ih =>
    cases tree with
    | file _ =>
      rw [remove]
      rfl
    | directory entries =>
      cases rest with
      | nil =>
        rw [remove, nodeAt, childAt_dropChild, if_pos rfl]
        rfl
      | cons next rest =>
        rw [remove]
        cases found : childAt entries name with
        | none =>
          rw [nodeAt, found]
          rfl
        | some child =>
          rw [nodeAt, childAt_setChild, if_pos rfl, Option.bind_some]
          exact ih (cons_ne_nil next rest) child

theorem nodeAt_append (path later : List Name) (tree : DirectoryTree Name Content) :
    nodeAt (path ++ later) tree = (nodeAt path tree).bind (nodeAt later) := by
  induction path generalizing tree with
  | nil => rfl
  | cons name _ ih =>
    cases tree with
    | file _ => rfl
    | directory entries =>
      rw [cons_append, nodeAt, nodeAt]
      cases childAt entries name with
      | none => rfl
      | some child => exact ih child

theorem nodeAt_place_below (placed : place target new tree = some result) (later : List Name) :
    nodeAt (target ++ later) result = nodeAt later new := by
  induction target generalizing tree result with
  | nil =>
    cases placed
    rfl
  | cons _ _ ih =>
    cases tree with
    | file _ => cases placed
    | directory _ =>
      rw [place, Option.map_eq_some_iff] at placed
      obtain ⟨_, placedBelow, rfl⟩ := placed
      rw [cons_append, nodeAt, childAt_setChild, if_pos rfl, Option.bind_some]
      exact ih placedBelow

theorem nodeAt_place_eq_none (placed : place target new tree = some result)
    (missing : nodeAt path tree = none) (notBelow : ¬ target <+: path)
    (notAbove : ¬ path <+: target) : nodeAt path result = none := by
  induction target generalizing tree result path with
  | nil => exact absurd nil_prefix notBelow
  | cons name _ ih =>
    cases tree with
    | file _ => cases placed
    | directory entries =>
      rw [place, Option.map_eq_some_iff] at placed
      obtain ⟨_, placedBelow, rfl⟩ := placed
      cases path with
      | nil => exact absurd nil_prefix notAbove
      | cons wanted later =>
        rw [nodeAt] at missing
        rw [nodeAt, childAt_setChild]
        by_cases same : wanted = name
        · subst same
          rw [cons_prefix_cons, not_and] at notBelow notAbove
          rw [if_pos rfl, Option.bind_some]
          apply ih placedBelow ?_ (notBelow rfl) (notAbove rfl)
          cases found : childAt entries wanted with
          | none =>
            cases later with
            | nil => exact absurd nil_prefix (notAbove rfl)
            | cons _ _ => rfl
          | some _ =>
            rw [found] at missing
            exact missing
        · rw [if_neg same]
          exact missing

theorem mem_entryPaths {entries : List (Name × DirectoryTree Name Content)} {name : Name}
    {child : DirectoryTree Name Content}
    (present : childAt entries name = some child)
    (member : path ∈ filePaths child) :
    name :: path ∈ entryPaths entries := by
  induction entries with
  | nil => cases present
  | cons entry _ ih =>
    rw [entryPaths, mem_append]
    by_cases own : entry.1 = name
    · left
      have here : entry.2 = child := by simpa [childAt, own] using present
      rw [here, own]
      exact mem_map_of_mem member
    · right
      apply ih
      simpa [childAt, own] using present

theorem mem_filePaths (present : fileAt path tree ≠ none) : path ∈ filePaths tree := by
  induction path generalizing tree with
  | nil =>
    cases tree with
    | file _ => simp [filePaths]
    | directory _ => exact absurd rfl present
  | cons name _ ih =>
    cases tree with
    | file _ => exact absurd rfl present
    | directory entries =>
      rw [fileAt_cons_directory] at present
      rw [filePaths]
      cases found : childAt entries name with
      | none =>
        rw [found] at present
        exact absurd rfl present
      | some _ =>
        rw [found] at present
        exact mem_entryPaths found (ih present)

end DirectoryTree

end Library
