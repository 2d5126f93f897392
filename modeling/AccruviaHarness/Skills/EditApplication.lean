import AccruviaHarness.Skills.EditVerification

/-!
# The files after the edits

The second pass writes each edited file once, from the text that the first
pass has made. New files and deletions come after it.
-/

namespace AccruviaHarness

open Library DirectoryTree List

namespace Skills

namespace Implement

def pathOrder (written paths : List String) : List String :=
  paths.foldl
    (fun order path => if path ∈ order then order else order ++ [path]) written

def editedPaths (edits : List Edit) : List String :=
  pathOrder [] ((edits.map Edit.path).filter fun path => path ≠ "")

theorem mem_pathOrder {written paths : List String} {path : String} :
    path ∈ pathOrder written paths ↔ path ∈ written ∨ path ∈ paths := by
  unfold pathOrder
  induction paths generalizing written with
  | nil => simp
  | cons _ _ ih =>
    rw [foldl_cons, ih]
    split
    next known =>
      constructor
      · rintro (earlier | later)
        · exact .inl earlier
        · exact .inr (mem_cons_of_mem _ later)
      · rintro (earlier | here)
        · exact .inl earlier
        · rcases mem_cons.mp here with rfl | later
          · exact .inl known
          · exact .inr later
    · simp [or_assoc]

theorem mem_editedPaths {edits : List Edit} {path : String} :
    path ∈ editedPaths edits ↔ path ≠ "" ∧ ∃ edit ∈ edits, edit.path = path := by
  unfold editedPaths
  rw [mem_pathOrder]
  simp [and_comm]

section

variable (host : Host) (root : FilePath) (allowedFiles : List String)

def lastWriter (written : List String) (place : FilePath) : Option String :=
  written.reverse.find? fun path => resolveInWorkspace host root path = some place

def InScope (place : FilePath) : Prop :=
  ∃ path ∈ allowedFiles.map normalizeRel, resolveInWorkspace host root path = some place

def Deletes (output : PyDict) (place : FilePath) : Prop :=
  ∃ raws, output.getList "deleted_files" = .ok raws ∧
    ∃ raw ∈ raws, normalizeRel raw.toStr ∈ allowedFiles.map normalizeRel ∧
      resolveInWorkspace host root (normalizeRel raw.toStr) = some place

def DistinctPlaces : Prop :=
  ∀ first ∈ allowedFiles.map normalizeRel,
    ∀ second ∈ allowedFiles.map normalizeRel, ∀ place,
      resolveInWorkspace host root first = some place →
        resolveInWorkspace host root second = some place → first = second

def Accepted (tree : DirectoryTree String ByteArray) (edits : List Edit) :
    Prop :=
  ∃ check, Accepts host root allowedFiles tree {} edits check

structure EditsWritten (fileCache : String → Option (List Char))
    (before : Disk) (written : List String) (disk : Disk) : Prop where
  contents : ∀ place, fileAt place disk.tree =
    match lastWriter host root written place with
    | some path => some (writtenBytes ((fileCache path).getD []))
    | none => fileAt place before.tree
  owned : ∀ place, place ∈ disk.ownFiles ↔ place ∈ before.ownFiles ∨
      ∃ path ∈ written, resolveInWorkspace host root path = some place

end

section

variable {host : Host} {root : FilePath} {allowedFiles : List String}

theorem lastWriter_append (written : List String) (path : String) (place : FilePath) :
    lastWriter host root (written ++ [path]) place =
      if resolveInWorkspace host root path = some place then some path
      else lastWriter host root written place := by
  unfold lastWriter
  rw [reverse_append, reverse_singleton, singleton_append, find?_cons]
  by_cases own : resolveInWorkspace host root path = some place
  · simp [own]
  · simp [own]

variable {written : List String} {place : FilePath} {path : String}
  {disk : Disk} {tree : DirectoryTree String ByteArray} {edits : List Edit}
  {output : PyDict}

theorem lastWriter_eq_some (found : lastWriter host root written place = some path) :
    path ∈ written ∧ resolveInWorkspace host root path = some place := by
  have here := find?_some found
  have member := mem_of_find?_eq_some found
  exact ⟨mem_reverse.mp member, by simpa using here⟩

theorem lastWriter_eq_none :
    lastWriter host root written place = none ↔
      ∀ path ∈ written, resolveInWorkspace host root path ≠ some place := by
  unfold lastWriter
  rw [find?_eq_none]
  simp

theorem EditsWritten.none (fileCache : String → Option (List Char)) (disk : Disk) :
    EditsWritten host root fileCache disk [] disk :=
  ⟨fun _ => rfl, fun _ => by simp⟩

variable {fileCache : String → Option (List Char)} {before : Disk}
  {check : Verification} {edit : Edit}

theorem EditsWritten.write {after : Disk} {target : FilePath}
    (state : EditsWritten host root fileCache before written disk)
    (located : resolveInWorkspace host root path = some target)
    (wrote : disk.writeText target ((fileCache path).getD []) = .ok after) :
    EditsWritten host root fileCache before (written ++ [path]) after := by
  obtain ⟨contents, owned⟩ := writeText_eq_ok wrote
  constructor
  · intro place
    rw [contents, lastWriter_append, located]
    by_cases own : place = target
    · rw [if_pos own, if_pos (congrArg some own.symm)]
    · rw [if_neg own, if_neg (fun same => own (Option.some.inj same).symm)]
      exact state.contents place
  · intro place
    rw [owned, mem_cons, state.owned]
    simp only [mem_append, mem_singleton, or_and_right, exists_or,
      exists_eq_left, located, Option.some.injEq]
    constructor
    · rintro (rfl | known | earlier)
      · exact .inr (.inr rfl)
      · exact .inl known
      · exact .inr (.inl earlier)
    · rintro (known | earlier | rfl)
      · exact .inr (.inl known)
      · exact .inr (.inr earlier)
      · exact .inl rfl

theorem writeEdits_returns {verified : List (FilePath × String)}
    (editable : ∀ edit ∈ verified, Editable host root allowedFiles before.tree edit.2 edit.1)
    (written : List String) (disk : Disk)
    (state : EditsWritten host root fileCache before written disk) :
    ∃ after, verified.foldlM (writeEdit fileCache) written disk =
          .ok (pathOrder written (verified.map Prod.snd)) after ∧
        EditsWritten host root fileCache before
          (pathOrder written (verified.map Prod.snd)) after := by
  induction verified generalizing written disk with
  | nil => exact ⟨disk, rfl, state⟩
  | cons edit _ ih =>
    rw [forall_mem_cons] at editable
    obtain ⟨here, later⟩ := editable
    rw [foldlM_cons, writeEdit]
    unfold pathOrder
    rw [map_cons, foldl_cons]
    by_cases known : edit.2 ∈ written
    · rw [if_pos known, if_pos known]
      exact ih later written disk state
    · rw [if_neg known, if_neg known]
      have present : ∃ bytes, fileAt edit.1 disk.tree = some bytes := by
        rw [state.contents]
        split
        · exact ⟨_, rfl⟩
        · exact here.present
      obtain ⟨_, present⟩ := present
      obtain ⟨middle, wrote⟩ := exists_writeText present ((fileCache edit.2).getD [])
      have round : (do
          tryChange (Disk.writeText edit.1 ((fileCache edit.2).getD []))
          return written ++ [edit.2] : EStateM PyError Disk (List String))
          disk = .ok (written ++ [edit.2]) middle :=
        bind_of_ok (tryChange_of_ok wrote)
      rw [bind_of_ok round]
      exact ih later _ middle (state.write here.located wrote)

theorem editable_of_accepts (accepts : Accepts host root allowedFiles tree {} edits check)
    (member : edit ∈ edits) (named : edit.path ≠ "") :
    ∃ target, Editable host root allowedFiles tree edit.path target := by
  obtain ⟨later, _, paths, editable⟩ := verifiedEdits_of_accepts accepts
  have inPaths : edit.path ∈ later.map Prod.snd := by
    rw [paths, mem_filter]
    exact ⟨mem_map_of_mem member, by simpa using named⟩
  obtain ⟨entry, inLater, same⟩ := mem_map.mp inPaths
  exact ⟨entry.1, same ▸ (editable entry inLater).1⟩

def editedFile (host : Host) (root : FilePath)
    (tree : DirectoryTree String ByteArray) (edits : List Edit)
    (place : FilePath) : Option ByteArray :=
  match lastWriter host root (editedPaths edits) place with
  | some path =>
    (fileText host root tree path).map fun content =>
      writtenBytes (applyAll (editsOf path edits) content)
  | none => fileAt place tree

theorem fileCache_of_accepted (accepts : Accepts host root allowedFiles tree {} edits check)
    (edited : path ∈ editedPaths edits) :
    (check.fileCache path).isSome ∧ check.fileCache path =
        (fileText host root tree path).map (applyAll (editsOf path edits)) := by
  obtain ⟨named, _, member, own⟩ := mem_editedPaths.mp edited
  obtain ⟨later, _, paths, editable⟩ := verifiedEdits_of_accepts accepts
  have inPaths : path ∈ later.map Prod.snd := by
    rw [paths, mem_filter]
    exact ⟨own ▸ mem_map_of_mem member, by simpa using named⟩
  obtain ⟨entry, inLater, same⟩ := mem_map.mp inPaths
  have cached := (editable entry inLater).2
  rw [same] at cached
  refine ⟨cached, ?_⟩
  obtain ⟨_, found⟩ := Option.isSome_iff_exists.mp cached
  have current := current_of_accepts accepts named
  rw [Verification.current, Verification.current, found, Option.some_or, Option.none_or] at current
  rw [found, current]

theorem fileText_of_accepted (accepted : Accepted host root allowedFiles tree edits)
    (edited : path ∈ editedPaths edits) :
    ∃ text, fileText host root tree path = some text := by
  obtain ⟨_, accepts⟩ := accepted
  obtain ⟨cached, made⟩ := fileCache_of_accepted accepts edited
  obtain ⟨_, found⟩ := Option.isSome_iff_exists.mp cached
  rw [found] at made
  obtain ⟨text, original, _⟩ := Option.map_eq_some_iff.mp made.symm
  exact ⟨text, original⟩

theorem editedFile_isSome (accepted : Accepted host root allowedFiles tree edits)
    {bytes : ByteArray}
    (present : fileAt place tree = some bytes) :
    ∃ left, editedFile host root tree edits place = some left := by
  unfold editedFile
  cases last : lastWriter host root (editedPaths edits) place with
  | none => exact ⟨bytes, present⟩
  | some _ =>
    obtain ⟨_, original⟩ := fileText_of_accepted accepted (lastWriter_eq_some last).1
    exact ⟨_, congrArg (Option.map _) original⟩

theorem applyEdits_of_accepted (read : outputEdits output = .ok edits)
    (accepted : Accepted host root allowedFiles disk.tree edits) :
    ∃ summary after, applyEdits host root allowedFiles output disk = .ok summary after ∧
        summary.written = editedPaths edits ∧ summary.deleted = [] ∧
        summary.rejected = [] ∧
        (∀ place, fileAt place after.tree = editedFile host root disk.tree edits place) ∧
        ∀ place, place ∈ after.ownFiles ↔ place ∈ disk.ownFiles ∨
          ∃ path ∈ editedPaths edits, resolveInWorkspace host root path = some place := by
  obtain ⟨check, accepts⟩ := accepted
  obtain ⟨verified, unrejected⟩ := accepts_iff.mp accepts
  obtain ⟨_, listed, paths, editable⟩ := verifiedEdits_of_accepts accepts
  obtain ⟨after, written, state⟩ := writeEdits_returns
    (fun edit member => (editable edit member).1) [] disk
    (EditsWritten.none check.fileCache disk)
  rw [paths] at written state
  have opened : (get : EStateM PyError Disk Disk) disk = .ok disk disk := rfl
  have checked : (valueOf (verifyEdits host root allowedFiles disk.tree output) :
      EStateM PyError Disk Verification) disk = .ok check disk := by
    rw [verifyEdits_eq_ok_iff.mpr ⟨edits, read, verified⟩]
    rfl
  refine ⟨{ written := editedPaths edits
            editsApplied := check.verifiedEdits.length }, after, ?_, rfl, rfl,
    rfl, ?_, state.owned⟩
  · unfold applyEdits
    rw [bind_of_ok opened, bind_of_ok checked, if_pos unrejected, listed]
    exact bind_of_ok written
  · intro place
    rw [state.contents, ← editedPaths, editedFile]
    cases found : lastWriter host root (editedPaths edits) place with
    | none => rfl
    | some _ =>
      obtain ⟨cached, same⟩ := fileCache_of_accepted accepts (lastWriter_eq_some found).1
      obtain ⟨_, here⟩ := Option.isSome_iff_exists.mp cached
      rw [here] at same
      dsimp only
      obtain ⟨_, original, made⟩ := Option.map_eq_some_iff.mp same.symm
      rw [here, original, Option.map_some, made]
      rfl

theorem applyEdits_of_not_accepted (refused : ¬ ∃ edits, outputEdits output = .ok edits ∧
      Accepted host root allowedFiles disk.tree edits) :
    (∃ error, applyEdits host root allowedFiles output disk = .error error disk) ∨
      ∃ rejected, rejected ≠ [] ∧
        applyEdits host root allowedFiles output disk = .ok { rejected } disk := by
  unfold applyEdits
  have opened : (get : EStateM PyError Disk Disk) disk = .ok disk disk := rfl
  rw [bind_of_ok opened]
  cases passed : verifyEdits host root allowedFiles disk.tree output with
  | error error => exact .inl ⟨error, rfl⟩
  | ok check =>
    have checked : (valueOf (.ok check) :
        EStateM PyError Disk Verification) disk = .ok check disk := rfl
    have rejected : check.editRejections ≠ [] := by
      intro none
      obtain ⟨edits, read, verified⟩ := verifyEdits_eq_ok_iff.mp passed
      exact refused ⟨edits, read, check, accepts_iff.mpr ⟨verified, none⟩⟩
    rw [bind_of_ok checked, if_neg rejected]
    exact .inr ⟨check.editRejections, rejected, rfl⟩

/-! ## The later phases -/

def ChangesWithin (places : FilePath → Prop) (before after : Disk) : Prop :=
  ∀ place, ¬ places place → fileAt place after.tree = fileAt place before.tree

instance (places : FilePath → Prop) : Std.Refl (ChangesWithin places) := ⟨fun _ _ _ => rfl⟩

instance (places : FilePath → Prop) : IsTrans Disk (ChangesWithin places) :=
  ⟨fun _ _ _ first second place other => (second place other).trans (first place other)⟩

def KeepsFiles (except : FilePath → Prop) (before after : Disk) : Prop :=
  ∀ place bytes, fileAt place before.tree = some bytes → ¬ except place →
    fileAt place after.tree = some bytes

instance (except : FilePath → Prop) : Std.Refl (KeepsFiles except) :=
  ⟨fun _ _ _ present _ => present⟩

instance (except : FilePath → Prop) : IsTrans Disk (KeepsFiles except) :=
  ⟨fun _ _ _ first second place bytes present kept =>
    second place bytes (first place bytes present kept) kept⟩

theorem createNewFiles_keepsFiles
    (output : PyDict) (except : FilePath → Prop) (summary : ChangeSummary) :
    Follows (KeepsFiles except) (createNewFiles host root allowedFiles output summary) := by
  refine (Follows.value _).bind fun entries => Follows.loop ?_ summary
  intro current entry _ before
  rcases createNewFile_cases host root allowedFiles current entry before with
    ⟨_, raised⟩ | ⟨_, passed⟩ | ⟨_, target, _, _, _, _, missing, wrote, created⟩
  · rw [raised]
    exact refl_of (KeepsFiles except) before
  · rw [passed]
    exact refl_of (KeepsFiles except) before
  · rw [created]
    intro place bytes present _
    have elsewhere : place ≠ target := by
      rintro rfl
      rw [fileAt, missing] at present
      cases present
    rw [stateOf, (writeText_eq_ok wrote).1, if_neg elsewhere]
    exact present

theorem createNewFiles_changesWithin (output : PyDict) (summary : ChangeSummary) :
    Follows (ChangesWithin (InScope host root allowedFiles))
      (createNewFiles host root allowedFiles output summary) := by
  refine (Follows.value _).bind fun entries => Follows.loop ?_ summary
  intro current entry _ before
  rcases createNewFile_cases host root allowedFiles current entry before with
    ⟨_, raised⟩ | ⟨_, passed⟩ | ⟨path, target, _, _, inScope, located, _, wrote, created⟩
  · rw [raised]
    exact refl_of (ChangesWithin _) before
  · rw [passed]
    exact refl_of (ChangesWithin _) before
  · rw [created]
    intro place outside
    have elsewhere : place ≠ target := by
      rintro rfl
      exact outside ⟨path, inScope, located⟩
    rw [stateOf, (writeText_eq_ok wrote).1, if_neg elsewhere]

theorem deleteFiles_changesWithin (output : PyDict) (summary : ChangeSummary) :
    Follows (ChangesWithin (Deletes host root allowedFiles output))
      (deleteFiles host root allowedFiles output summary) := by
  intro before
  unfold deleteFiles
  cases listed : output.getList "deleted_files" with
  | error _ => exact refl_of (ChangesWithin _) before
  | ok raws =>
    have round : ∀ current, ∀ raw ∈ raws,
        Follows (ChangesWithin (Deletes host root allowedFiles output))
          (deleteFile host root allowedFiles current raw) := by
      intro current raw member before
      rcases deleteFile_cases host root allowedFiles current raw before with
        ⟨_, raised⟩ | ⟨_, passed⟩ | ⟨target, _, inScope, located, present, removed, deleted⟩
      · rw [raised]
        exact refl_of (ChangesWithin _) before
      · rw [passed]
        exact refl_of (ChangesWithin _) before
      · rw [deleted]
        intro place outside
        have elsewhere : place ≠ target := by
          rintro rfl
          exact outside ⟨raws, listed, raw, member, inScope, located⟩
        rw [stateOf, (unlink_eq_ok present removed).2.1, if_neg elsewhere]
    exact Follows.loop round summary before

theorem deletes_inScope (deletes : Deletes host root allowedFiles output place) :
    InScope host root allowedFiles place := by
  obtain ⟨_, _, _, _, inScope, located⟩ := deletes
  exact ⟨_, inScope, located⟩

theorem laterPhases_keepsFiles (output : PyDict) (summary : ChangeSummary) :
    Follows (KeepsFiles (Deletes host root allowedFiles output)) (do
      let created ← createNewFiles host root allowedFiles output summary
      deleteFiles host root allowedFiles output created) := by
  refine (createNewFiles_keepsFiles output _ summary).bind fun created => ?_
  refine (deleteFiles_changesWithin output created).mono ?_
  intro before after changed place bytes present kept
  rw [changed place kept]
  exact present

theorem laterPhases_changesWithin (output : PyDict) (summary : ChangeSummary) :
    Follows (ChangesWithin (InScope host root allowedFiles)) (do
      let created ← createNewFiles host root allowedFiles output summary
      deleteFiles host root allowedFiles output created) := by
  refine (createNewFiles_changesWithin output summary).bind fun created => ?_
  refine (deleteFiles_changesWithin output created).mono ?_
  intro before after changed place outside
  exact changed place fun deletes => outside (deletes_inScope deletes)

theorem editedFile_of_outside (accepted : Accepted host root allowedFiles tree edits)
    (outside : ¬ InScope host root allowedFiles place) :
    editedFile host root tree edits place = fileAt place tree := by
  obtain ⟨_, accepts⟩ := accepted
  have untouched : lastWriter host root (editedPaths edits) place = none := by
    rw [lastWriter_eq_none]
    intro path edited located
    obtain ⟨named, edit, member, own⟩ := mem_editedPaths.mp edited
    subst own
    obtain ⟨_, editable⟩ := editable_of_accepts accepts member named
    exact outside ⟨edit.path, editable.inScope, located⟩
  rw [editedFile, untouched]

theorem editedFile_of_edit (accepted : Accepted host root allowedFiles tree edits)
    (distinct : DistinctPlaces host root allowedFiles) (member : edit ∈ edits)
    (named : edit.path ≠ "") :
    ∃ place text, resolveInWorkspace host root edit.path = some place ∧
      fileText host root tree edit.path = some text ∧
      editedFile host root tree edits place =
        some (writtenBytes (applyAll (editsOf edit.path edits) text)) := by
  obtain ⟨check, accepts⟩ := accepted
  have edited : edit.path ∈ editedPaths edits := mem_editedPaths.mpr ⟨named, edit, member, rfl⟩
  obtain ⟨place, editable⟩ := editable_of_accepts accepts member named
  obtain ⟨text, original⟩ := fileText_of_accepted ⟨check, accepts⟩ edited
  refine ⟨place, text, editable.located, original, ?_⟩
  have writer : lastWriter host root (editedPaths edits) place = some edit.path := by
    cases last : lastWriter host root (editedPaths edits) place with
    | none => exact absurd editable.located (lastWriter_eq_none.mp last edit.path edited)
    | some path =>
      obtain ⟨inOrder, located⟩ := lastWriter_eq_some last
      obtain ⟨otherNamed, other, inEdits, rfl⟩ := mem_editedPaths.mp inOrder
      obtain ⟨_, otherEditable⟩ := editable_of_accepts accepts inEdits otherNamed
      rw [distinct other.path otherEditable.inScope edit.path
        editable.inScope place located editable.located]
  rw [editedFile, writer]
  dsimp only
  rw [original, Option.map_some]

end

section

variable (host : Host) (workspaceRoot : FilePath)
  (allowedFiles : List String) (output : PyDict)

theorem applyChanges_changesWithin :
    Follows (ChangesWithin (InScope host (host.realPath workspaceRoot) allowedFiles))
      (applyChanges host workspaceRoot allowedFiles output) := by
  have edited : Follows (ChangesWithin (InScope host (host.realPath workspaceRoot) allowedFiles))
      (applyEdits host (host.realPath workspaceRoot) allowedFiles output) := by
    intro before
    by_cases accepted : ∃ edits, outputEdits output = .ok edits ∧
        Accepted host (host.realPath workspaceRoot) allowedFiles before.tree edits
    · obtain ⟨_, read, accepted⟩ := accepted
      obtain ⟨summary, _, returned, _, _, _, contents, _⟩ := applyEdits_of_accepted read accepted
      rw [returned]
      intro place outside
      rw [stateOf, contents, editedFile_of_outside accepted outside]
    · rcases applyEdits_of_not_accepted accepted with
        ⟨_, raised⟩ | ⟨_, _, passed⟩
      · rw [raised]
        exact refl_of (ChangesWithin _) before
      · rw [passed]
        exact refl_of (ChangesWithin _) before
  exact edited.bind fun summary => laterPhases_changesWithin output summary

end

def plainHost : Host where
  realPath := fun path => path
  readError := fun _ => none

def workspaceDisk (name : String) (bytes : ByteArray) : Disk where
  tree := .directory [("ws", .directory [(name, .file bytes)])]

def editOutput (path old new : String) : PyDict :=
  [("edits", .list [.dict [("path", .str path), ("old_string", .str old),
    ("new_string", .str new)]])]

theorem editable_workspaceDisk (bytes : ByteArray) :
    Editable plainHost ["ws"] ["a.py"] (workspaceDisk "a.py" bytes).tree "a.py" ["ws", "a.py"] where
  named := by decide
  inScope := by decide +kernel
  located := by decide +kernel
  present := ⟨bytes, by rfl⟩

theorem readText_toByteArray (text : String) :
    readText text.toByteArray = some (universalNewlines text.toList) := by
  rw [readText, ← String.utf8Encode_toList, utf8Decode?_utf8Encode, Option.map_some, toList_toArray]

theorem fileText_workspaceDisk (text : String) :
    fileText plainHost ["ws"] (workspaceDisk "a.py" text.toByteArray).tree
      "a.py" = some (universalNewlines text.toList) := by
  have editable := editable_workspaceDisk text.toByteArray
  have present : fileAt ["ws", "a.py"] (workspaceDisk "a.py" text.toByteArray).tree =
        some text.toByteArray := by rfl
  have readable : plainHost.readError ["ws", "a.py"] = none := rfl
  rw [fileText, editable.located, Option.bind_some, if_pos readable, present,
    Option.bind_some, readText_toByteArray]

theorem distinctPlaces_singleton (host : Host) (root : FilePath)
    (path : String) : DistinctPlaces host root [path] := by
  intro first inFirst second inSecond _ _ _
  rw [map_singleton, mem_singleton] at inFirst inSecond
  rw [inFirst, inSecond]

end Implement

end Skills

end AccruviaHarness
