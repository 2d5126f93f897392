import AccruviaHarness.Library.Frames
import AccruviaHarness.Library.Occurrences
import AccruviaHarness.Merging.ChangedFiles

/-!
# Applying the changes of the implement skill

`apply_changes` verifies the edits of an output against the files of the
workspace, writes them together, creates the new files and deletes files.
-/

namespace AccruviaHarness

open Library DirectoryTree

namespace Skills

namespace Implement

/-! ## The files of the host -/

/-- The files by their absolute paths. `ownFiles` are those of them that hold
what the running call wrote. -/
structure Disk where
  tree : DirectoryTree String ByteArray
  ownFiles : List FilePath := []

/-- What the host answers. No operation of a call changes a symbolic link, so
the answers are the same during the call. -/
structure Host where
  /-- `Path.resolve` of an absolute path. -/
  realPath : FilePath → FilePath
  /-- The text of the `OSError` that reading the file raises. -/
  readError : FilePath → Option String

/-- The line ends of a text file as `read_text` answers them. -/
def universalNewlines : List Char → List Char
  | [] => []
  | '\r' :: '\n' :: rest => '\n' :: universalNewlines rest
  | '\r' :: rest => '\n' :: universalNewlines rest
  | character :: rest => character :: universalNewlines rest

def readText (bytes : ByteArray) : Option (List Char) :=
  bytes.utf8Decode?.map fun characters => universalNewlines characters.toList

/-- The bytes that `write_text` writes. -/
def writtenBytes (text : List Char) : ByteArray := (String.ofList text).toByteArray

def isDirectory (node : Option (DirectoryTree String ByteArray)) : Bool :=
  match node with
  | some (.directory _) => true
  | _ => false

/-- `write_text`, after `mkdir` of the parent. A file above the parent stops
the `mkdir` before it has made anything. -/
def Disk.writeText (target : FilePath) (text : List Char) (disk : Disk) : Except PyError Disk :=
  if isDirectory (nodeAt target disk.tree) then .error (.osError "open")
  else
    match place target (.file (writtenBytes text)) disk.tree with
    | some tree => .ok { tree, ownFiles := target :: disk.ownFiles }
    | none => .error (.osError "mkdir")

def Disk.unlink (target : FilePath) (disk : Disk) : Except PyError Disk :=
  if isDirectory (nodeAt target disk.tree) then .error (.osError "unlink")
  else
    .ok {
      tree := remove target disk.tree
      ownFiles := disk.ownFiles.filter (· ≠ target) }

/-! ## The summary -/

structure ChangeSummary where
  written : List String := []
  deleted : List String := []
  rejected : List (String × String) := []
  editsApplied : Nat := 0
  newFilesCreated : Nat := 0
  deriving DecidableEq, Repr

def ChangeSummary.reject (summary : ChangeSummary) (path reason : String) :
    ChangeSummary :=
  { summary with rejected := summary.rejected ++ [(path, reason)] }

section

variable (host : Host) (root : FilePath) (allowedFiles : List String)

def resolveInWorkspace (path : String) : Option FilePath :=
  let target := host.realPath <|
    if isAbsolute path then pathParts path else root ++ pathParts path
  if root <+: target then some target else none

def locate (outOfScope path : String) : Except String FilePath :=
  if path ∉ allowedFiles.map normalizeRel then .error outOfScope
  else
    match resolveInWorkspace host root path with
    | none => .error "path_escape"
    | some target => .ok target

/-! ## Edits -/

structure Edit where
  path : String
  oldString : List Char
  newString : List Char

def editOf (entry : PyValue) : Except PyError Edit := do
  let fields ← entry.requireDict
  return {
    path := normalizeRel (fields.getStr "path")
    oldString := (fields.getStr "old_string").toList
    newString := (fields.getStr "new_string").toList }

/-- `content.replace(old_string, new_string, 1)`. -/
def Edit.apply (edit : Edit) (content : List Char) : List Char :=
  replaceFirst edit.oldString edit.newString content

structure Verification where
  fileCache : String → Option (List Char) := fun _ => none
  verifiedEdits : List (FilePath × String) := []
  editRejections : List (String × String) := []

namespace Verification

variable (state : Verification)

def reject (path reason : String) : Verification :=
  { state with editRejections := state.editRejections ++ [(path, reason)] }

def cachedText (path : String) (target : FilePath)
    (bytes : ByteArray) : Except PyError (Except String (List Char)) :=
  match state.fileCache path with
  | some content => .ok (.ok content)
  | none =>
    match host.readError target, readText bytes with
    | some message, _ => .ok (.error ("read_failed:" ++ message))
    | none, some content => .ok (.ok content)
    | none, none => .error (.valueError "invalid utf-8")

def replaceAnchor (edit : Edit) (target : FilePath) (content : List Char) : Verification :=
  let matchCount := countFrom edit.oldString 0 content
  let cache := Function.update state.fileCache edit.path
  if matchCount = 0 then
    { state with fileCache := cache (some content) }.reject edit.path
      "old_string_not_found"
  else if matchCount > 1 then
    { state with fileCache := cache (some content) }.reject edit.path
      ("old_string_not_unique:" ++ toString matchCount)
  else
    { state with
      fileCache := cache (some (edit.apply content))
      verifiedEdits := state.verifiedEdits ++ [(target, edit.path)] }

end Verification

variable (tree : DirectoryTree String ByteArray) (state : Verification)

def verifyEdit (edit : Edit) : Except PyError Verification :=
  if edit.path = "" then .ok state
  else
    match locate host root allowedFiles "edit_out_of_scope" edit.path with
    | .error reason => .ok (state.reject edit.path reason)
    | .ok target =>
      match fileAt target tree with
      | none => .ok (state.reject edit.path "edit_target_missing")
      | some bytes =>
        if edit.oldString = [] then .ok (state.reject edit.path "edit_empty_old_string")
        else
          match state.cachedText host edit.path target bytes with
          | .error error => .error error
          | .ok (.error reason) => .ok (state.reject edit.path reason)
          | .ok (.ok content) => .ok (state.replaceAnchor edit target content)

def verifyEntry (entry : PyValue) :
    Except PyError Verification := do
  let edit ← editOf entry
  verifyEdit host root allowedFiles tree state edit

variable (output : PyDict)

def verifyEdits :
    Except PyError Verification := do
  let entries ← output.getList "edits"
  entries.foldlM (verifyEntry host root allowedFiles tree) {}

def writeEdit (fileCache : String → Option (List Char))
    (written : List String) (edit : FilePath × String) :
    EStateM PyError Disk (List String) :=
  if edit.2 ∈ written then pure written
  else do
    tryChange (Disk.writeText edit.1 ((fileCache edit.2).getD []))
    return written ++ [edit.2]

def applyEdits : EStateM PyError Disk ChangeSummary := do
  let disk ← get
  let check ← valueOf (verifyEdits host root allowedFiles disk.tree output)
  if check.editRejections = [] then
    let written ← check.verifiedEdits.foldlM (writeEdit check.fileCache) []
    return { written, editsApplied := check.verifiedEdits.length }
  else return { rejected := check.editRejections }

/-! ## New files and deletions -/

variable (summary : ChangeSummary)

def createNewFile (entry : PyValue) :
    EStateM PyError Disk ChangeSummary := do
  let fields ← valueOf entry.requireDict
  let path := normalizeRel (fields.getStr "path")
  if path = "" then return summary
  else
    match locate host root allowedFiles "new_file_out_of_scope" path with
    | .error reason => return summary.reject path reason
    | .ok target =>
      let disk ← get
      if (nodeAt target disk.tree).isSome then return summary.reject path "new_file_already_exists"
      else
        tryChange (Disk.writeText target (fields.getStr "content").toList)
        return { summary with
          written :=
            if path ∈ summary.written then summary.written
            else summary.written ++ [path]
          newFilesCreated := summary.newFilesCreated + 1 }

def createNewFiles :
    EStateM PyError Disk ChangeSummary := do
  let entries ← valueOf (output.getList "new_files")
  entries.foldlM (createNewFile host root allowedFiles) summary

def deleteFile (raw : PyValue) : EStateM PyError Disk ChangeSummary :=
  let path := normalizeRel raw.toStr
  if path = "" then pure summary
  else
    match locate host root allowedFiles "delete_out_of_scope" path with
    | .error reason => pure (summary.reject path reason)
    | .ok target => do
        let disk ← get
        if (nodeAt target disk.tree).isSome then
          tryChange (Disk.unlink target)
          return { summary with deleted := summary.deleted ++ [path] }
        else return summary

def deleteFiles :
    EStateM PyError Disk ChangeSummary := do
  let raws ← valueOf (output.getList "deleted_files")
  raws.foldlM (deleteFile host root allowedFiles) summary

end

def applyChanges (host : Host) (workspaceRoot : FilePath)
    (allowedFiles : List String) (output : PyDict) :
    EStateM PyError Disk ChangeSummary := do
  let root := host.realPath workspaceRoot
  let edited ← applyEdits host root allowedFiles output
  let created ← createNewFiles host root allowedFiles output edited
  deleteFiles host root allowedFiles output created

/-! ## What the operations do -/

section

variable {host : Host} {root : FilePath} {allowedFiles : List String}

variable {target : FilePath} {text : List Char} {before after : Disk}

theorem resolveInWorkspace_below
    {path : String} (found : resolveInWorkspace host root path = some target) :
    root <+: target := by
  unfold resolveInWorkspace at found
  obtain ⟨below, same⟩ := Option.ite_none_right_eq_some.mp found
  cases same
  exact below

theorem locate_eq_ok_iff {outOfScope path : String} :
    locate host root allowedFiles outOfScope path = .ok target ↔
      path ∈ allowedFiles.map normalizeRel ∧ resolveInWorkspace host root path = some target := by
  unfold locate
  by_cases inScope : path ∈ allowedFiles.map normalizeRel
  · rw [if_neg (not_not_intro inScope)]
    cases resolveInWorkspace host root path with
    | none => simp
    | some _ => simp [inScope]
  · rw [if_pos inScope]
    simp [inScope]

theorem isDirectory_eq_false_iff {node : Option (DirectoryTree String ByteArray)} :
    isDirectory node = false ↔ ∀ entries, node ≠ some (.directory entries) := by
  cases node with
  | none => simp [isDirectory]
  | some node =>
    cases node with
    | file _ => simp [isDirectory]
    | directory _ => simp [isDirectory]

theorem writeText_eq_ok (returned : before.writeText target text = .ok after) :
    (∀ path, fileAt path after.tree =
        if path = target then some (writtenBytes text)
        else fileAt path before.tree) ∧
      after.ownFiles = target :: before.ownFiles := by
  unfold Disk.writeText at returned
  split at returned
  · cases returned
  next noDirectory =>
    rw [Bool.not_eq_true, isDirectory_eq_false_iff] at noDirectory
    split at returned
    next tree placed =>
      cases returned
      exact ⟨fileAt_place_file placed noDirectory, rfl⟩
    · cases returned

theorem writeText_keeps (returned : before.writeText target text = .ok after)
    {path : FilePath} (present : (nodeAt path before.tree).isSome) :
    (nodeAt path after.tree).isSome := by
  have contents := (writeText_eq_ok returned).1
  unfold Disk.writeText at returned
  split at returned
  · cases returned
  next noDirectory =>
    rw [Bool.not_eq_true, isDirectory_eq_false_iff] at noDirectory
    split at returned
    next tree placed =>
      cases returned
      by_cases above : target <+: path
      · obtain ⟨later, rfl⟩ := above
        by_cases here : later = []
        · subst here
          rw [List.append_nil]
          have written := contents target
          rw [if_pos rfl] at written
          rw [nodeAt_of_fileAt written]
          rfl
        · obtain ⟨entries, directory⟩ := directory_of_nodeAt_append present here
          exact absurd directory (noDirectory entries)
      · exact nodeAt_place_isSome placed present above
    · cases returned

theorem writeText_rooted (returned : before.writeText target text = .ok after)
    (rooted : isDirectory (nodeAt [] before.tree)) :
    isDirectory (nodeAt [] after.tree) := by
  unfold Disk.writeText at returned
  split at returned
  · cases returned
  next noDirectory =>
    split at returned
    next tree placed =>
      cases returned
      cases target with
      | nil => exact absurd rooted noDirectory
      | cons _ _ =>
        cases top : before.tree with
        | file _ =>
          rw [top] at placed
          cases placed
        | directory _ =>
          rw [top, place, Option.map_eq_some_iff] at placed
          obtain ⟨_, _, rfl⟩ := placed
          rfl
    · cases returned

theorem exists_writeText {disk : Disk} {bytes : ByteArray}
    (present : fileAt target disk.tree = some bytes) (text : List Char) :
    ∃ after, disk.writeText target text = .ok after := by
  obtain ⟨_, placed⟩ := place_of_fileAt present (.file (writtenBytes text))
  unfold Disk.writeText
  rw [nodeAt_of_fileAt present, placed]
  exact ⟨_, rfl⟩

theorem unlink_eq_ok (present : (nodeAt target before.tree).isSome)
    (returned : before.unlink target = .ok after) :
    (∃ bytes, fileAt target before.tree = some bytes) ∧ (∀ path, fileAt path after.tree =
        if path = target then none else fileAt path before.tree) ∧
      after.ownFiles = before.ownFiles.filter (· ≠ target) := by
  unfold Disk.unlink at returned
  split at returned
  · cases returned
  next noDirectory =>
    rw [Bool.not_eq_true, isDirectory_eq_false_iff] at noDirectory
    cases returned
    obtain ⟨node, found⟩ := Option.isSome_iff_exists.mp present
    cases node with
    | directory entries => exact absurd found (noDirectory entries)
    | file bytes =>
      have isFile : fileAt target before.tree = some bytes := by
        rw [fileAt, found]
        rfl
      exact ⟨⟨bytes, isFile⟩, fileAt_remove_file isFile, rfl⟩

theorem unlink_nodes (rooted : isDirectory (nodeAt [] before.tree))
    (present : (nodeAt target before.tree).isSome)
    (returned : before.unlink target = .ok after) :
    nodeAt target after.tree = none ∧ (∀ path, path ≠ target → ((nodeAt path after.tree).isSome ↔
        (nodeAt path before.tree).isSome)) ∧
      isDirectory (nodeAt [] after.tree) := by
  obtain ⟨⟨_, file⟩, _⟩ := unlink_eq_ok present returned
  have below : target ≠ [] := by
    rintro rfl
    rw [nodeAt_of_fileAt file] at rooted
    cases rooted
  unfold Disk.unlink at returned
  split at returned
  · cases returned
  · cases returned
    refine ⟨nodeAt_remove_self below before.tree, ?_, ?_⟩
    · intro path other
      refine ⟨nodeAt_isSome_of_remove, fun here => ?_⟩
      apply nodeAt_remove_isSome here
      rintro ⟨later, rfl⟩
      have something : later ≠ [] := by
        rintro rfl
        exact other (List.append_nil target)
      rw [nodeAt_append_of_file file something] at here
      cases here
    · cases target with
      | nil => exact absurd rfl below
      | cons name rest =>
        cases top : before.tree with
        | file _ =>
          rw [top] at rooted
          cases rooted
        | directory entries =>
          cases rest with
          | nil => rfl
          | cons _ _ =>
            rw [remove]
            cases childAt entries name <;> rfl

end

section

variable (host : Host) (root : FilePath) (allowedFiles : List String) (summary : ChangeSummary)

/-- A round of the loop over the new files raises, passes its entry over, or
creates a file where nothing was. -/
theorem createNewFile_cases (entry : PyValue) (disk : Disk) :
    (∃ error, createNewFile host root allowedFiles summary entry disk = .error error disk) ∨
      (∃ rejected, createNewFile host root allowedFiles summary entry disk =
        .ok { summary with rejected } disk) ∨
      ∃ path target text after, path ∈ allowedFiles.map normalizeRel ∧
          resolveInWorkspace host root path = some target ∧
          nodeAt target disk.tree = none ∧
          disk.writeText target text = .ok after ∧
          createNewFile host root allowedFiles summary entry disk = .ok { summary with
              written :=
                if path ∈ summary.written then summary.written
                else summary.written ++ [path]
              newFilesCreated := summary.newFilesCreated + 1 } after := by
  unfold createNewFile
  cases read : entry.requireDict with
  | error error => exact .inl ⟨error, rfl⟩
  | ok fields =>
    have opened : (valueOf (.ok fields) : EStateM PyError Disk PyDict) disk = .ok fields disk := rfl
    rw [bind_of_ok opened]
    split
    · exact .inr (.inl ⟨_, rfl⟩)
    · cases placed : locate host root allowedFiles "new_file_out_of_scope"
          (normalizeRel (fields.getStr "path")) with
      | error _ => exact .inr (.inl ⟨_, rfl⟩)
      | ok target =>
        obtain ⟨inScope, located⟩ := locate_eq_ok_iff.mp placed
        have looked : (get : EStateM PyError Disk Disk) disk = .ok disk disk := rfl
        dsimp only
        rw [bind_of_ok looked]
        split
        · exact .inr (.inl ⟨_, rfl⟩)
        next missing =>
          rw [Option.not_isSome_iff_eq_none] at missing
          cases wrote : disk.writeText target (fields.getStr "content").toList with
          | error error =>
            left
            rw [bind_of_error (tryChange_of_error wrote)]
            exact ⟨error, rfl⟩
          | ok after =>
            right
            right
            refine ⟨_, target, _, after, inScope, located, missing, wrote, ?_⟩
            rw [bind_of_ok (tryChange_of_ok wrote)]
            rfl

/-- A round of the loop over the deletions raises, passes its entry over, or
deletes a file. -/
theorem deleteFile_cases (raw : PyValue) (disk : Disk) :
    (∃ error, deleteFile host root allowedFiles summary raw disk = .error error disk) ∨
      (∃ rejected, deleteFile host root allowedFiles summary raw disk =
        .ok { summary with rejected } disk) ∨
      ∃ target after, normalizeRel raw.toStr ∈ allowedFiles.map normalizeRel ∧
          resolveInWorkspace host root (normalizeRel raw.toStr) = some target ∧
          (nodeAt target disk.tree).isSome ∧
          disk.unlink target = .ok after ∧
          deleteFile host root allowedFiles summary raw disk = .ok { summary with
              deleted := summary.deleted ++ [normalizeRel raw.toStr] }
              after := by
  unfold deleteFile
  split
  · exact .inr (.inl ⟨_, rfl⟩)
  · cases placed : locate host root allowedFiles "delete_out_of_scope" (normalizeRel raw.toStr) with
    | error _ => exact .inr (.inl ⟨_, rfl⟩)
    | ok target =>
      obtain ⟨inScope, located⟩ := locate_eq_ok_iff.mp placed
      have looked : (get : EStateM PyError Disk Disk) disk = .ok disk disk := rfl
      dsimp only
      rw [bind_of_ok looked]
      split
      next present =>
        cases removed : disk.unlink target with
        | error error =>
          left
          rw [bind_of_error (tryChange_of_error removed)]
          exact ⟨error, rfl⟩
        | ok after =>
          right
          right
          refine ⟨target, after, inScope, located, present, removed, ?_⟩
          rw [bind_of_ok (tryChange_of_ok removed)]
          rfl
      · exact .inr (.inl ⟨_, rfl⟩)

end

end Implement

end Skills

end AccruviaHarness
