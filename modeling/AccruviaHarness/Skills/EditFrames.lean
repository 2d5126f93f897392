import AccruviaHarness.Skills.EditAnchors

/-!
# The bytes that edits leave alone

A file is read with its line ends turned into LF and is written from the text
that the edits have made.
-/

namespace AccruviaHarness

open Library DirectoryTree List

namespace Skills

namespace Implement

inductive Piece where
  | character (value : Char)
  | carriageReturn
  | carriageReturnLineFeed
  deriving DecidableEq, Repr

namespace Piece

def read : Piece → Char
  | character value => value
  | carriageReturn => '\n'
  | carriageReturnLineFeed => '\n'

def source : Piece → List Char
  | character value => [value]
  | carriageReturn => ['\r']
  | carriageReturnLineFeed => ['\r', '\n']

def Plain (piece : Piece) : Prop := ∃ value, piece = character value

end Piece

def pieces : List Char → List Piece
  | [] => []
  | '\r' :: '\n' :: rest => .carriageReturnLineFeed :: pieces rest
  | '\r' :: rest => .carriageReturn :: pieces rest
  | value :: rest => .character value :: pieces rest

def Edit.replacePieces (edit : Edit) (items : List Piece) : List Piece :=
  match firstOffset edit.oldString (items.map Piece.read) with
  | some offset => splice offset edit.oldString.length (edit.newString.map Piece.character) items
  | none => items

variable (edits : List Edit)

def editedPieces (characters : List Char) : List Piece :=
  edits.foldl (fun items edit => edit.replacePieces items) (pieces characters)

theorem pieces_read (characters : List Char) :
    (pieces characters).map Piece.read = universalNewlines characters := by
  induction characters using pieces.induct with
  | case1 => rfl
  | case2 _ ih =>
    rw [pieces, universalNewlines, map_cons, ih]
    rfl
  | case3 _ noLineFeed ih =>
    rw [pieces, universalNewlines, map_cons, ih]
    · rfl
    · exact noLineFeed
    · exact noLineFeed
  | case4 _ _ noPair noReturn ih =>
    rw [pieces, universalNewlines, map_cons, ih]
    · rfl
    · exact noPair
    · exact noReturn
    · exact noPair
    · exact noReturn

theorem pieces_source (characters : List Char) :
    (pieces characters).flatMap Piece.source = characters := by
  induction characters using pieces.induct with
  | case1 => rfl
  | case2 _ ih =>
    rw [pieces, flatMap_cons, ih]
    rfl
  | case3 _ noLineFeed ih =>
    rw [pieces, flatMap_cons, ih]
    · rfl
    · exact noLineFeed
  | case4 _ _ noPair noReturn ih =>
    rw [pieces, flatMap_cons, ih]
    · rfl
    · exact noPair
    · exact noReturn

theorem replacePieces_read (edit : Edit) (items : List Piece) :
    (edit.replacePieces items).map Piece.read = edit.apply (items.map Piece.read) := by
  unfold Edit.replacePieces Edit.apply replaceFirst
  cases firstOffset edit.oldString (items.map Piece.read) with
  | none => rfl
  | some _ =>
    rw [map_splice, map_map]
    have same : edit.newString.map (Piece.read ∘ Piece.character) =
        edit.newString := map_id' edit.newString
    rw [same]

theorem editedPieces_read (characters : List Char) :
    (editedPieces edits characters).map Piece.read =
      applyAll edits (universalNewlines characters) := by
  unfold editedPieces applyAll
  rw [← pieces_read]
  generalize pieces characters = items
  induction edits generalizing items with
  | nil => rfl
  | cons _ _ ih =>
    rw [foldl_cons, foldl_cons, ← replacePieces_read]
    exact ih _

theorem read_eq_source_iff (items : List Piece) :
    items.map Piece.read = items.flatMap Piece.source ↔ ∀ piece ∈ items, piece.Plain := by
  induction items with
  | nil => simp
  | cons piece _ ih =>
    rw [forall_mem_cons, map_cons, flatMap_cons]
    cases piece with
    | character value =>
      have plain : (Piece.character value).Plain := ⟨value, rfl⟩
      rw [← ih]
      simp [Piece.read, Piece.source, plain]
    | carriageReturn =>
      refine iff_of_false ?_ ?_
      · intro same
        exact absurd (List.cons.inj same).1 (by decide)
      · rintro ⟨⟨value, same⟩, _⟩
        cases same
    | carriageReturnLineFeed =>
      refine iff_of_false ?_ ?_
      · intro same
        exact absurd (List.cons.inj same).1 (by decide)
      · rintro ⟨⟨_, same⟩, _⟩
        cases same

theorem writtenBytes_injective {first second : List Char} :
    writtenBytes first = writtenBytes second ↔ first = second := by
  constructor
  · intro same
    exact String.ofList_injective (String.toByteArray_inj.mp same)
  · rintro rfl
    rfl

section

variable (host : Host) (root : FilePath) (edits : List Edit)

def editsAt (place : FilePath) : List Edit :=
  match lastWriter host root (editedPaths edits) place with
  | some path => editsOf path edits
  | none => []

def framedBytes (characters : List Char) (place : FilePath) : ByteArray :=
  writtenBytes <| (editedPieces (editsAt host root edits place) characters).flatMap Piece.source

/-- Where the file is edited, no carriage return of it is left outside the
replaced anchors. -/
def NoReturnLeft (characters : List Char) (place : FilePath) : Prop :=
  ∀ path, lastWriter host root (editedPaths edits) place = some path →
    ∀ piece ∈ editedPieces (editsOf path edits) characters, piece.Plain

variable {host root} {allowedFiles : List String}
  {tree : DirectoryTree String ByteArray}

variable {place : FilePath} {characters : List Char}

theorem fileText_of_writtenBytes {path : String} {text : List Char}
    (located : resolveInWorkspace host root path = some place)
    (present : fileAt place tree = some (writtenBytes characters))
    (read : fileText host root tree path = some text) :
    text = universalNewlines characters := by
  have decoded : readText (writtenBytes characters) = some (universalNewlines characters) := by
    rw [writtenBytes, readText_toByteArray, String.toList_ofList]
  rw [fileText, located, Option.bind_some, Option.ite_none_right_eq_some,
    present, Option.bind_some, decoded] at read
  exact (Option.some.inj read.2).symm

theorem editedFile_eq_framedBytes_iff {edits : List Edit}
    (accepted : Accepted host root allowedFiles tree edits)
    (present : fileAt place tree = some (writtenBytes characters)) :
    editedFile host root tree edits place = some (framedBytes host root edits characters place) ↔
      NoReturnLeft host root edits characters place := by
  unfold editedFile framedBytes editsAt NoReturnLeft
  cases last : lastWriter host root (editedPaths edits) place with
  | none =>
    refine iff_of_true ?_ (by simp)
    rw [present, editedPieces, foldl_nil, pieces_source]
  | some _ =>
    obtain ⟨edited, located⟩ := lastWriter_eq_some last
    obtain ⟨_, original⟩ := fileText_of_accepted accepted edited
    have decoded := fileText_of_writtenBytes located present original
    dsimp only
    rw [original, Option.map_some, Option.some_inj, writtenBytes_injective,
      decoded, ← editedPieces_read, read_eq_source_iff]
    simp

end

theorem fileAt_applyChanges {host : Host} {workspaceRoot : FilePath} {allowedFiles : List String}
    {output : PyDict} {before : Disk} {edits : List Edit}
    (read : outputEdits output = .ok edits)
    (accepted : Accepted host (host.realPath workspaceRoot) allowedFiles before.tree edits)
    {place : FilePath} {bytes : ByteArray}
    (present : fileAt place before.tree = some bytes)
    (kept : ¬ Deletes host (host.realPath workspaceRoot) allowedFiles output place) :
    fileAt place (stateOf (applyChanges host workspaceRoot allowedFiles output before)).tree =
      editedFile host (host.realPath workspaceRoot) before.tree edits place := by
  obtain ⟨summary, middle, returned, _, _, _, contents, _⟩ := applyEdits_of_accepted read accepted
  obtain ⟨left, edited⟩ := editedFile_isSome accepted present
  have ended : stateOf (applyChanges host workspaceRoot allowedFiles output
      before) = stateOf (_ : EStateM.Result _ _ _) :=
    congrArg stateOf (bind_of_ok returned)
  rw [ended, edited]
  exact laterPhases_keepsFiles output summary middle place left ((contents place).trans edited) kept

/-- The bytes of a file outside the replaced anchors stay as they are, unless
the output also deletes the file, exactly where no carriage return is left
outside the anchors. -/
theorem applyChanges_frame_iff (host : Host) (workspaceRoot : FilePath) (allowedFiles : List String)
    (output : PyDict) (before : Disk) {edits : List Edit}
    (read : outputEdits output = .ok edits)
    (accepted : Accepted host (host.realPath workspaceRoot) allowedFiles before.tree edits)
    {place : FilePath} {characters : List Char}
    (present : fileAt place before.tree = some (writtenBytes characters)) :
    let root := host.realPath workspaceRoot
    let after := stateOf (applyChanges host workspaceRoot allowedFiles output before)
    (fileAt place after.tree = some (framedBytes host root edits characters place) ∨
        Deletes host root allowedFiles output place) ↔
      (NoReturnLeft host root edits characters place ∨
        Deletes host root allowedFiles output place) := by
  intro root after
  by_cases deletes : Deletes host root allowedFiles output place
  · exact iff_of_true (.inr deletes) (.inr deletes)
  · simp only [deletes, or_false]
    have ended : fileAt place after.tree = editedFile host root before.tree edits place :=
      fileAt_applyChanges read accepted present deletes
    rw [ended]
    exact editedFile_eq_framedBytes_iff accepted present

theorem accepted_editOutput {text old new : String} (visible : old.toList ≠ [])
    (counted : countFrom old.toList 0 (universalNewlines text.toList) = 1) :
    Accepted plainHost ["ws"] ["a.py"] (workspaceDisk "a.py" text.toByteArray).tree
      [⟨"a.py", old.toList, new.toList⟩] := by
  have own : ∀ edit ∈ [(⟨"a.py", old.toList, new.toList⟩ : Edit)],
      edit.path = "a.py" := by simp
  apply (accepted_iff_anchorsMeet (editable_workspaceDisk _) (fileText_workspaceDisk text) own).mpr
  exact ⟨(meetingAnchor_iff _ _).mpr ⟨visible, counted⟩, trivial⟩

theorem applyChanges_frame_iff_of_line_feeds :
    let after := stateOf (applyChanges plainHost ["ws"] ["a.py"] (editOutput "a.py" "one" "1")
      (workspaceDisk "a.py" "one\ntwo".toByteArray))
    let edits := [⟨"a.py", "one".toList, "1".toList⟩]
    (fileAt ["ws", "a.py"] after.tree = some (framedBytes plainHost ["ws"] edits "one\ntwo".toList
            ["ws", "a.py"]) ∨
        Deletes plainHost ["ws"] ["a.py"] (editOutput "a.py" "one" "1") ["ws", "a.py"]) ↔
      (NoReturnLeft plainHost ["ws"] edits "one\ntwo".toList ["ws", "a.py"] ∨
        Deletes plainHost ["ws"] ["a.py"] (editOutput "a.py" "one" "1") ["ws", "a.py"]) :=
  applyChanges_frame_iff plainHost ["ws"] ["a.py"] (editOutput "a.py" "one" "1")
    (workspaceDisk "a.py" "one\ntwo".toByteArray) (by rfl)
    (accepted_editOutput (by simp) (by decide +kernel)) (by rfl)

/-- An edit of the second line takes the carriage return off the first one. -/
theorem carriage_return_lost :
    let after := stateOf (applyChanges plainHost ["ws"] ["a.py"] (editOutput "a.py" "b" "c")
      (workspaceDisk "a.py" "a\r\nb".toByteArray))
    ¬ (fileAt ["ws", "a.py"] after.tree = some (framedBytes plainHost ["ws"]
            [⟨"a.py", "b".toList, "c".toList⟩] "a\r\nb".toList
            ["ws", "a.py"]) ∨
        Deletes plainHost ["ws"] ["a.py"] (editOutput "a.py" "b" "c") ["ws", "a.py"]) := by
  intro after
  have present : fileAt ["ws", "a.py"] (workspaceDisk "a.py" "a\r\nb".toByteArray).tree =
        some (writtenBytes "a\r\nb".toList) := by rfl
  have accepted : Accepted plainHost ["ws"] ["a.py"]
      (workspaceDisk "a.py" "a\r\nb".toByteArray).tree
      [⟨"a.py", "b".toList, "c".toList⟩] :=
    accepted_editOutput (by simp) (by decide +kernel)
  have kept : ¬ Deletes plainHost ["ws"] ["a.py"] (editOutput "a.py" "b" "c") ["ws", "a.py"] := by
    rintro ⟨_, listed, _, member, _⟩
    cases listed
    cases member
  have edited : fileAt ["ws", "a.py"] after.tree = _ :=
    fileAt_applyChanges (by rfl) accepted present kept
  rw [edited]
  rintro (framed | deletes)
  · have clean := (editedFile_eq_framedBytes_iff accepted present).mp framed
    have writer : lastWriter plainHost ["ws"]
        (editedPaths [⟨"a.py", "b".toList, "c".toList⟩]) ["ws", "a.py"] =
          some "a.py" := by decide +kernel
    have left : Piece.carriageReturnLineFeed ∈ editedPieces
        (editsOf "a.py" [⟨"a.py", "b".toList, "c".toList⟩])
        "a\r\nb".toList := by decide +kernel
    obtain ⟨_, same⟩ := clean "a.py" writer _ left
    cases same
  · exact kept deletes

end Implement

end Skills

end AccruviaHarness
