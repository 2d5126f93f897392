import AccruviaHarness.Skills.EditApplication

/-!
# The report of the changes

The three phases of `apply_changes` keep their lists of paths apart. The
module says which files a returned summary lists as written and as deleted.
-/

namespace AccruviaHarness

open Library DirectoryTree List

namespace Skills

namespace Implement

def Builds (before after : Disk) : Prop :=
  (∀ place, (nodeAt place before.tree).isSome → (nodeAt place after.tree).isSome) ∧
    (isDirectory (nodeAt [] before.tree) → isDirectory (nodeAt [] after.tree))

instance : Std.Refl Builds := ⟨fun _ => ⟨fun _ here => here, fun top => top⟩⟩

instance : IsTrans Disk Builds :=
  ⟨fun _ _ _ first second =>
    ⟨fun place here => second.1 place (first.1 place here), fun top => second.2 (first.2 top)⟩⟩

theorem writeText_builds {target : FilePath} {text : List Char} {before after : Disk}
    (returned : before.writeText target text = .ok after) :
    Builds before after :=
  ⟨fun _ here => writeText_keeps returned here, fun top => writeText_rooted returned top⟩

section

variable (host : Host) (root : FilePath)

def Reported (paths : List String) (place : FilePath) : Prop :=
  ∃ path ∈ paths, resolveInWorkspace host root path = some place

variable {path : String} {target : FilePath} {before disk after middle : Disk}
  {summary : ChangeSummary} {output : PyDict}

theorem reported_append (paths : List String)
    (located : resolveInWorkspace host root path = some target)
    (place : FilePath) :
    Reported host root (paths ++ [path]) place ↔
      Reported host root paths place ∨ place = target := by
  simp only [Reported, mem_append, mem_singleton, or_and_right,
    exists_or, exists_eq_left, located, Option.some.injEq]
  rw [eq_comm (a := target)]

structure ReportInvariant (before : Disk) (summary : ChangeSummary)
    (disk : Disk) : Prop where
  owned : ∀ place, place ∈ disk.ownFiles ↔ Reported host root summary.written place ∧
      ¬ Reported host root summary.deleted place
  files : ∀ place ∈ disk.ownFiles, (nodeAt place disk.tree).isSome
  gone : ∀ place, Reported host root summary.deleted place → nodeAt place disk.tree = none
  left : ∀ place, (nodeAt place before.tree).isSome → (nodeAt place disk.tree).isSome ∨
      Reported host root summary.deleted place
  origin : ∀ place bytes, fileAt place disk.tree = some bytes →
    (nodeAt place before.tree).isSome ∨ Reported host root summary.written place
  removed : ∀ place, Reported host root summary.deleted place →
    (nodeAt place before.tree).isSome ∨ Reported host root summary.written place
  rooted : isDirectory (nodeAt [] disk.tree)

variable {host root} {allowedFiles : List String}

theorem isSome_of_fileAt {place : FilePath} {tree : DirectoryTree String ByteArray}
    {bytes : ByteArray} (present : fileAt place tree = some bytes) :
    (nodeAt place tree).isSome := by
  rw [nodeAt_of_fileAt present]
  rfl

theorem ReportInvariant.create (state : ReportInvariant host root before summary disk)
    (undeleted : summary.deleted = []) {text : List Char}
    (located : resolveInWorkspace host root path = some target)
    (wrote : disk.writeText target text = .ok after) :
    ReportInvariant host root before
      { summary with
        written :=
          if path ∈ summary.written then summary.written
          else summary.written ++ [path]
        newFilesCreated := summary.newFilesCreated + 1 } after := by
  obtain ⟨contents, own⟩ := writeText_eq_ok wrote
  obtain ⟨kept, top⟩ := writeText_builds wrote
  have listed : ∀ place, Reported host root
      (if path ∈ summary.written then summary.written
        else summary.written ++ [path]) place ↔
      Reported host root summary.written place ∨ place = target := by
    intro place
    split
    next known =>
      constructor
      · exact .inl
      · rintro (earlier | rfl)
        · exact earlier
        · exact ⟨path, known, located⟩
    · exact reported_append host root summary.written located place
  have nothing : ∀ place, ¬ Reported host root summary.deleted place := by
    rw [undeleted]
    rintro place ⟨_, member, _⟩
    cases member
  constructor
  · intro place
    rw [own, mem_cons, state.owned, listed]
    simp only [nothing, not_false_eq_true, and_true]
    exact or_comm
  · intro place member
    rw [own, mem_cons] at member
    rcases member with rfl | earlier
    · have here := contents place
      rw [if_pos rfl] at here
      exact isSome_of_fileAt here
    · exact kept place (state.files place earlier)
  · intro place deleted
    exact absurd deleted (nothing place)
  · intro place present
    rcases state.left place present with here | deleted
    · exact .inl (kept place here)
    · exact .inr deleted
  · intro place bytes present
    rw [listed]
    rw [contents] at present
    by_cases own_place : place = target
    · exact .inr (.inr own_place)
    · rw [if_neg own_place] at present
      rcases state.origin place bytes present with earlier | written
      · exact .inl earlier
      · exact .inr (.inl written)
  · intro place deleted
    exact absurd deleted (nothing place)
  · exact top state.rooted

theorem ReportInvariant.delete (state : ReportInvariant host root before summary disk)
    (located : resolveInWorkspace host root path = some target)
    (present : (nodeAt target disk.tree).isSome)
    (removed : disk.unlink target = .ok after) :
    ReportInvariant host root before
      { summary with deleted := summary.deleted ++ [path] } after := by
  obtain ⟨⟨bytes, file⟩, contents, own⟩ := unlink_eq_ok present removed
  obtain ⟨vanished, kept, top⟩ := unlink_nodes state.rooted present removed
  have listed := fun place => reported_append host root (summary.deleted) located place
  constructor
  · intro place
    rw [own, mem_filter, state.owned, listed, not_or, and_assoc]
    simp
  · intro place member
    rw [own, mem_filter] at member
    exact (kept place (by simpa using member.2)).mpr (state.files place member.1)
  · intro place deleted
    rcases (listed place).mp deleted with earlier | rfl
    · by_cases own_place : place = target
      · rw [own_place, vanished]
      · rw [← Option.not_isSome_iff_eq_none, kept place own_place, state.gone place earlier]
        exact Bool.false_ne_true
    · exact vanished
  · intro place existed
    rcases state.left place existed with here | deleted
    · by_cases own_place : place = target
      · exact .inr ((listed place).mpr (.inr own_place))
      · exact .inl ((kept place own_place).mpr here)
    · exact .inr ((listed place).mpr (.inl deleted))
  · intro place content here
    rw [contents] at here
    split at here
    · cases here
    · exact state.origin place content here
  · intro place deleted
    rcases (listed place).mp deleted with earlier | rfl
    · exact state.removed place earlier
    · exact state.origin place bytes file
  · exact top

theorem ReportInvariant.reject (state : ReportInvariant host root before summary disk)
    (rejected : List (String × String)) :
    ReportInvariant host root before { summary with rejected } disk :=
  ⟨state.owned, state.files, state.gone, state.left, state.origin, state.removed, state.rooted⟩

theorem ReportInvariant.start (fresh : before.ownFiles = [])
    (rooted : isDirectory (nodeAt [] before.tree))
    (rejected : List (String × String)) :
    ReportInvariant host root before { rejected } before := by
  have nothing : ∀ place, ¬ Reported host root [] place := by
    rintro place ⟨_, member, _⟩
    cases member
  constructor
  · intro place
    rw [fresh]
    exact iff_of_false not_mem_nil fun own => nothing place own.1
  · rw [fresh]
    exact fun place member => absurd member not_mem_nil
  · exact fun place deleted => absurd deleted (nothing place)
  · exact fun place here => .inl here
  · exact fun place bytes here => .inl (isSome_of_fileAt here)
  · exact fun place deleted => absurd deleted (nothing place)
  · exact rooted

theorem applyEdits_builds (output : PyDict) :
    Follows Builds (applyEdits host root allowedFiles output) := by
  have looks : Follows Builds (get : EStateM PyError Disk Disk) := Follows.reads
  refine looks.bind fun disk => (Follows.value _).bind fun check => ?_
  split
  · have rounds : Follows Builds (check.verifiedEdits.foldlM (writeEdit check.fileCache) []) := by
      refine Follows.loop ?_ []
      intro written edit _
      unfold writeEdit
      split
      · exact Follows.returns written
      · have writes : Follows Builds (tryChange (Disk.writeText edit.1
            ((check.fileCache edit.2).getD []))) :=
          Follows.tries fun _ _ wrote => writeText_builds wrote
        exact writes.bind fun _ => Follows.returns _
    exact rounds.bind fun written => Follows.returns _
  · exact Follows.returns _

theorem reportInvariant_of_applyEdits (fresh : before.ownFiles = [])
    (rooted : isDirectory (nodeAt [] before.tree))
    (returned : applyEdits host root allowedFiles output before = .ok summary middle) :
    ReportInvariant host root before summary middle ∧ summary.deleted = [] := by
  have built : Builds before (stateOf (applyEdits host root allowedFiles output before)) :=
    applyEdits_builds output before
  rw [returned] at built
  by_cases accepted : ∃ edits, outputEdits output = .ok edits ∧
      Accepted host root allowedFiles before.tree edits
  · obtain ⟨_, read, accepted⟩ := accepted
    obtain ⟨other, after, returnedAgain, written, undeleted, _, contents,
      owned⟩ := applyEdits_of_accepted read accepted
    rw [returned] at returnedAgain
    cases returnedAgain
    have nothing : ∀ place, ¬ Reported host root summary.deleted place := by
      rw [undeleted]
      rintro place ⟨path, member, _⟩
      cases member
    have own : ∀ place, place ∈ middle.ownFiles ↔ Reported host root summary.written place := by
      intro place
      rw [owned, fresh, written]
      simp only [not_mem_nil, false_or, Reported]
    refine ⟨?_, undeleted⟩
    constructor
    · intro place
      rw [own]
      exact (and_iff_left (nothing place)).symm
    · intro place member
      obtain ⟨path, edited, located⟩ := (own place).mp member
      rw [written] at edited
      obtain ⟨_, accepts⟩ := accepted
      obtain ⟨named, _, inEdits, rfl⟩ := mem_editedPaths.mp edited
      obtain ⟨_, editable⟩ := editable_of_accepts accepts inEdits named
      obtain ⟨bytes, present⟩ := editable.present
      have same := editable.located
      rw [located] at same
      cases same
      exact built.1 place (isSome_of_fileAt present)
    · exact fun place deleted => absurd deleted (nothing place)
    · exact fun place here => .inl (built.1 place here)
    · intro place bytes present
      rw [contents] at present
      unfold editedFile at present
      split at present
      next path last =>
        obtain ⟨edited, located⟩ := lastWriter_eq_some last
        exact .inr ⟨path, written ▸ edited, located⟩
      · exact .inl (isSome_of_fileAt present)
    · exact fun place deleted => absurd deleted (nothing place)
    · exact built.2 rooted
  · rcases applyEdits_of_not_accepted accepted with
      ⟨_, raised⟩ | ⟨rejected, _, passed⟩
    · rw [returned] at raised
      cases raised
    · rw [returned] at passed
      cases passed
      exact ⟨.start fresh rooted rejected, rfl⟩

theorem reportInvariant_of_createNewFiles {created : ChangeSummary}
    (state : ReportInvariant host root before summary middle)
    (undeleted : summary.deleted = [])
    (returned : createNewFiles host root allowedFiles output summary middle = .ok created after) :
    ReportInvariant host root before created after := by
  obtain ⟨_, disk, listed, looped⟩ := ok_of_bind returned
  obtain ⟨rfl, _⟩ := ok_of_valueOf listed
  have ended := loop_invariant (fun current disk => ReportInvariant host root before current disk ∧
      current.deleted = []) ?_ looped ⟨state, undeleted⟩
  · exact ended.1
  · rintro current entry _ disk _ _ ⟨here, nothing⟩ round
    rcases createNewFile_cases host root allowedFiles current entry disk with
      ⟨_, raised⟩ | ⟨rejected, passed⟩ | ⟨_, _, _, _, _, located, _, wrote, made⟩
    · rw [round] at raised
      cases raised
    · rw [round] at passed
      cases passed
      exact ⟨here.reject rejected, nothing⟩
    · rw [round] at made
      cases made
      exact ⟨here.create nothing located wrote, nothing⟩

theorem reportInvariant_of_deleteFiles {final : ChangeSummary}
    (state : ReportInvariant host root before summary middle)
    (returned : deleteFiles host root allowedFiles output summary middle = .ok final after) :
    ReportInvariant host root before final after := by
  obtain ⟨_, disk, listed, looped⟩ := ok_of_bind returned
  obtain ⟨rfl, _⟩ := ok_of_valueOf listed
  refine loop_invariant (fun current disk => ReportInvariant host root before current disk)
    ?_ looped state
  intro current raw _ disk next changed here round
  rcases deleteFile_cases host root allowedFiles current raw disk with
    ⟨_, raised⟩ | ⟨rejected, passed⟩ | ⟨_, _, _, located, present, removed, deleted⟩
  · rw [round] at raised
    cases raised
  · rw [round] at passed
    cases passed
    exact here.reject rejected
  · rw [round] at deleted
    cases deleted
    exact here.delete located present removed

end

/-- The lists of a returned summary are exact, and a call that raises has
changed nothing. -/
def ReportsExactly (host : Host) (workspaceRoot : FilePath)
    (allowedFiles : List String) (output : PyDict) (before : Disk) : Prop :=
  let root := host.realPath workspaceRoot
  match applyChanges host workspaceRoot allowedFiles output before with
  | .ok summary after =>
    (∀ place, Reported host root summary.written place ↔ place ∈ after.ownFiles) ∧
    (∀ place, Reported host root summary.deleted place ↔
      (nodeAt place before.tree).isSome ∧ nodeAt place after.tree = none) ∧
    ∀ place, ¬ (Reported host root summary.written place ∧ Reported host root summary.deleted place)
  | .error _ after => after = before

/-- A returned summary lists what the call wrote and what it removed: the
written files that are not also deleted are those that exist with content of
the call, and the deleted ones are those that existed or were written and are
gone. Where no file is in both lists, the lists are exact. A call that raises
while it verifies the edits has changed nothing. -/
theorem applyChanges_report (host : Host) (workspaceRoot : FilePath) (allowedFiles : List String)
    (output : PyDict) (before : Disk) (fresh : before.ownFiles = [])
    (rooted : isDirectory (nodeAt [] before.tree)) :
    let root := host.realPath workspaceRoot
    let call := applyChanges host workspaceRoot allowedFiles output before
    (∀ summary after, call = .ok summary after →
      let written := Reported host root summary.written
      let deleted := Reported host root summary.deleted
      (∀ place, place ∈ after.ownFiles ↔ written place ∧ ¬ deleted place) ∧
      (∀ place ∈ after.ownFiles, (nodeAt place after.tree).isSome) ∧
      (∀ place, deleted place ↔ ((nodeAt place before.tree).isSome ∨ written place) ∧
          nodeAt place after.tree = none) ∧
      ((∀ place, ¬ (written place ∧ deleted place)) →
        ReportsExactly host workspaceRoot allowedFiles output before)) ∧
    ∀ error, verifyEdits host root allowedFiles before.tree output = .error error →
        call = .error error before := by
  intro root call
  constructor
  · intro summary after returned written deleted
    obtain ⟨_, _, editsReturned, later⟩ := ok_of_bind returned
    obtain ⟨_, _, createsReturned, deletesReturned⟩ := ok_of_bind later
    obtain ⟨afterEdits, undeleted⟩ := reportInvariant_of_applyEdits fresh rooted editsReturned
    have state := reportInvariant_of_deleteFiles
      (reportInvariant_of_createNewFiles afterEdits undeleted createsReturned)
      deletesReturned
    have removed : ∀ place, deleted place ↔ ((nodeAt place before.tree).isSome ∨ written place) ∧
          nodeAt place after.tree = none := by
      intro place
      constructor
      · intro here
        exact ⟨state.removed place here, state.gone place here⟩
      · rintro ⟨existed | wrote, gone⟩
        · rcases state.left place existed with here | there
          · rw [gone] at here
            cases here
          · exact there
        · by_contra kept
          have here := state.files place ((state.owned place).mpr ⟨wrote, kept⟩)
          rw [gone] at here
          cases here
    refine ⟨state.owned, state.files, removed, ?_⟩
    intro apart
    unfold ReportsExactly
    rw [show applyChanges host workspaceRoot allowedFiles output before =
      .ok summary after from returned]
    refine ⟨?_, ?_, apart⟩
    · intro place
      rw [state.owned]
      constructor
      · intro wrote
        exact ⟨wrote, fun gone => apart place ⟨wrote, gone⟩⟩
      · rintro ⟨wrote, _⟩
        exact wrote
    · intro place
      constructor
      · intro here
        rcases (removed place).mp here with ⟨existed | wrote, gone⟩
        · exact ⟨existed, gone⟩
        · exact absurd ⟨wrote, here⟩ (apart place)
      · rintro ⟨existed, gone⟩
        exact (removed place).mpr ⟨.inl existed, gone⟩
  · intro error raised
    have stopped : applyEdits host root allowedFiles output before = .error error before := by
      have opened : (get : EStateM PyError Disk Disk) before = .ok before before := rfl
      unfold applyEdits
      rw [bind_of_ok opened, raised]
      rfl
    exact bind_of_error stopped

/-- An output that only deletes the one file. -/
theorem applyChanges_report_of_deletion :
    let before := workspaceDisk "a.py" "one".toByteArray
    let output : PyDict := [("deleted_files", .list [.str "a.py"])]
    ∀ summary after, applyChanges plainHost ["ws"] ["a.py"] output before = .ok summary after →
        ∀ place, place ∈ after.ownFiles ↔ Reported plainHost ["ws"] summary.written place ∧
            ¬ Reported plainHost ["ws"] summary.deleted place :=
  fun summary after returned =>
    ((applyChanges_report plainHost ["ws"] ["a.py"] [("deleted_files", .list [.str "a.py"])]
      (workspaceDisk "a.py" "one".toByteArray) rfl rfl).1 summary after returned).1

def summaryOf : EStateM.Result PyError Disk ChangeSummary → Option ChangeSummary
  | .ok summary _ => some summary
  | .error _ _ => none

/-- A file that is created and then deleted is in both lists. -/
theorem created_and_deleted_reported_twice :
    ¬ ReportsExactly plainHost ["ws"] ["b.py"] [("new_files", .list
        [.dict [("path", .str "b.py"), ("content", .str "x")]]),
        ("deleted_files", .list [.str "b.py"])]
      (workspaceDisk "a.py" "one".toByteArray) := by
  have summarized : summaryOf (applyChanges plainHost ["ws"] ["b.py"] [("new_files", .list
        [.dict [("path", .str "b.py"), ("content", .str "x")]]),
        ("deleted_files", .list [.str "b.py"])]
      (workspaceDisk "a.py" "one".toByteArray)) =
        some { written := ["b.py"], deleted := ["b.py"], newFilesCreated := 1 } := by
    decide +kernel
  have located : resolveInWorkspace plainHost ["ws"] "b.py" =
      some ["ws", "b.py"] := by decide +kernel
  unfold ReportsExactly
  split
  next summary after returned =>
    rw [returned] at summarized
    cases summarized
    rintro ⟨_, _, apart⟩
    exact apart ["ws", "b.py"] ⟨⟨"b.py", mem_singleton_self _, located⟩,
        ⟨"b.py", mem_singleton_self _, located⟩⟩
  next error after raised =>
    rw [raised] at summarized
    cases summarized

end Implement

end Skills

end AccruviaHarness
