import AccruviaHarness.Skills.EditApplication

/-!
# The anchors of the edits of a file

An anchor is looked up in the text that the preceding edits have made.
-/

namespace AccruviaHarness

open Library DirectoryTree

namespace Skills

namespace Implement

def AnchorsMeet (condition : Edit → List Char → Prop) :
    List Char → List Edit → Prop
  | _, [] => True
  | content, edit :: edits =>
    condition edit content ∧ AnchorsMeet condition (edit.apply content) edits

variable {first second : Edit → List Char → Prop}

theorem anchorsMeet_congr (same : ∀ edit content, first edit content ↔ second edit content)
    (edits : List Edit) (content : List Char) :
    AnchorsMeet first content edits ↔ AnchorsMeet second content edits := by
  induction edits generalizing content with
  | nil => exact .rfl
  | cons edit _ ih => exact and_congr (same edit content) (ih _)

theorem anchorsMeet_and (edits : List Edit) (content : List Char) :
    AnchorsMeet (fun edit content => first edit content ∧ second edit content) content edits ↔
      AnchorsMeet first content edits ∧ AnchorsMeet second content edits := by
  induction edits generalizing content with
  | nil => exact (and_self_iff (a := True)).symm
  | cons _ _ ih =>
    rw [AnchorsMeet, AnchorsMeet, AnchorsMeet, ih]
    exact and_and_and_comm

variable (edit : Edit) (content : List Char)

def UniqueAnchor : Prop := edit.oldString ≠ [] ∧ OccursOnce edit.oldString content

def MeetingAnchor : Prop :=
  edit.oldString ≠ [] ∧ (∃ offset, OccursAt edit.oldString content offset) ∧
    OccurrencesMeet edit.oldString content

def NoOverlap : Prop :=
  ¬ ∃ first second, first < second ∧ second < first + edit.oldString.length ∧
    OccursAt edit.oldString content first ∧
    OccursAt edit.oldString content second

theorem meetingAnchor_iff :
    MeetingAnchor edit content ↔ edit.oldString ≠ [] ∧ countFrom edit.oldString 0 content = 1 := by
  constructor
  · rintro ⟨visible, meeting⟩
    exact ⟨visible, (countFrom_eq_one_iff visible).mpr meeting⟩
  · rintro ⟨visible, counted⟩
    exact ⟨visible, (countFrom_eq_one_iff visible).mp counted⟩

theorem uniqueAnchor_iff :
    UniqueAnchor edit content ↔ MeetingAnchor edit content ∧ NoOverlap edit content := by
  constructor
  · rintro ⟨visible, once⟩
    have counted := once.countFrom_eq_one visible
    refine ⟨(meetingAnchor_iff edit content).mpr ⟨visible, counted⟩, ?_⟩
    rintro ⟨first, second, apart, _, here, there⟩
    exact (occursOnce_iff_of_countFrom_eq_one visible counted).mp once
      ⟨first, second, apart, here, there⟩
  · rintro ⟨meeting, alone⟩
    obtain ⟨visible, counted⟩ := (meetingAnchor_iff edit content).mp meeting
    refine ⟨visible, (occursOnce_iff_of_countFrom_eq_one visible counted).mpr ?_⟩
    rintro ⟨first, second, apart, here, there⟩
    exact alone ⟨first, second, apart, meeting.2.2 first second here there, here, there⟩

section

variable {host : Host} {root : FilePath} {allowedFiles : List String}
  {tree : DirectoryTree String ByteArray} {path : String} {target : FilePath}

variable {edits : List Edit} {state : Verification} {content : List Char}

theorem accepts_iff_anchorsMeet (editable : Editable host root allowedFiles tree path target)
    (own : ∀ edit ∈ edits, edit.path = path)
    (current : state.current host root tree path = some content) :
    (∃ check, Accepts host root allowedFiles tree state edits check) ↔
      AnchorsMeet MeetingAnchor content edits := by
  induction edits generalizing state content with
  | nil => exact iff_of_true ⟨state, .done state⟩ trivial
  | cons edit _ ih =>
    rw [List.forall_mem_cons] at own
    obtain ⟨rfl, later⟩ := own
    rw [AnchorsMeet, meetingAnchor_iff]
    constructor
    · rintro ⟨check, accepted⟩
      cases accepted with
      | skip unnamed _ => exact absurd unnamed editable.named
      | @apply _ _ _ _ _ other applies rest =>
        have same := applies.current
        rw [current] at same
        cases same
        refine ⟨⟨applies.anchored, applies.counted⟩, ?_⟩
        apply (ih later _).mp ⟨check, rest⟩
        rw [current_applied applies, if_pos rfl, current]
        rfl
    · rintro ⟨⟨anchored, counted⟩, meeting⟩
      have applies : Applies host root allowedFiles tree state edit target
          content := ⟨editable, current, anchored, counted⟩
      have next : (state.applied edit target content).current host root tree
          edit.path = some (edit.apply content) := by
        rw [current_applied applies, if_pos rfl, current]
        rfl
      obtain ⟨check, accepted⟩ := (ih later next).mpr meeting
      exact ⟨check, .apply applies accepted⟩

theorem accepted_iff_anchorsMeet (editable : Editable host root allowedFiles tree path target)
    (text : fileText host root tree path = some content)
    (own : ∀ edit ∈ edits, edit.path = path) :
    Accepted host root allowedFiles tree edits ↔ AnchorsMeet MeetingAnchor content edits :=
  accepts_iff_anchorsMeet editable own <| by
    rw [Verification.current, text]
    rfl

theorem fileCache_replaceAnchor (state : Verification) (edit : Edit) (target : FilePath)
    (content : List Char) :
    ((state.replaceAnchor edit target content).fileCache edit.path).isSome := by
  unfold Verification.replaceAnchor Verification.reject
  dsimp only
  split
  · simp only [Function.update_self, Option.isSome_some]
  · split
    · simp only [Function.update_self, Option.isSome_some]
    · simp only [Function.update_self, Option.isSome_some]

theorem verifyEdit_returns (editable : Editable host root allowedFiles tree path target)
    {edit : Edit} (own : edit.path = path)
    (current : (state.current host root tree path).isSome) :
    ∃ next, verifyEdit host root allowedFiles tree state edit = .ok next ∧
      (next.current host root tree path).isSome := by
  subst own
  obtain ⟨content, known⟩ := Option.isSome_iff_exists.mp current
  obtain ⟨named, inScope, located, _, present⟩ := editable
  have read := cachedText_of_current located present known
  have placed : locate host root allowedFiles "edit_out_of_scope" edit.path =
      .ok target := locate_eq_ok_iff.mpr ⟨inScope, located⟩
  unfold verifyEdit
  rw [if_neg named, placed]
  dsimp only
  rw [present]
  dsimp only
  by_cases empty : edit.oldString = []
  · rw [if_pos empty]
    exact ⟨_, rfl, current⟩
  · rw [if_neg empty, read]
    refine ⟨_, rfl, ?_⟩
    have cached := fileCache_replaceAnchor state edit target content
    obtain ⟨_, found⟩ := Option.isSome_iff_exists.mp cached
    rw [Verification.current, found]
    rfl

theorem verifyEdits_returns (editable : Editable host root allowedFiles tree path target)
    (own : ∀ edit ∈ edits, edit.path = path)
    (current : (state.current host root tree path).isSome) :
    ∃ check, edits.foldlM (verifyEdit host root allowedFiles tree) state = .ok check := by
  induction edits generalizing state with
  | nil => exact ⟨state, rfl⟩
  | cons _ _ ih =>
    rw [List.forall_mem_cons] at own
    obtain ⟨_, checked, known⟩ := verifyEdit_returns editable own.1 current
    obtain ⟨check, later⟩ := ih own.2 known
    refine ⟨check, ?_⟩
    rw [List.foldlM_cons, checked]
    exact later

theorem editedFile_of_one_file (editable : Editable host root allowedFiles tree path target)
    (text : fileText host root tree path = some content)
    (own : ∀ edit ∈ edits, edit.path = path)
    (some_edit : edits ≠ []) :
    editedFile host root tree edits target = some (writtenBytes (applyAll edits content)) := by
  obtain ⟨edit, member⟩ := List.exists_mem_of_ne_nil edits some_edit
  have edited : path ∈ editedPaths edits :=
    mem_editedPaths.mpr ⟨editable.named, edit, member, own edit member⟩
  have all : editsOf path edits = edits :=
    List.filter_eq_self.mpr fun edit member => by simpa using own edit member
  have writer : lastWriter host root (editedPaths edits) target = some path := by
    cases last : lastWriter host root (editedPaths edits) target with
    | none => exact absurd editable.located (lastWriter_eq_none.mp last path edited)
    | some _ =>
      obtain ⟨inOrder, _⟩ := lastWriter_eq_some last
      obtain ⟨_, otherEdit, inEdits, rfl⟩ := mem_editedPaths.mp inOrder
      rw [own otherEdit inEdits]
  rw [editedFile, writer]
  dsimp only
  rw [text, all]
  rfl

end

section

variable (host : Host) (root : FilePath) (allowedFiles : List String)
  (output : PyDict) (before : Disk)

def EditsTakeEffect (target : FilePath) (content : List Char) (edits : List Edit) : Prop :=
  ∃ summary after, applyEdits host root allowedFiles output before = .ok summary after ∧
      summary.rejected = [] ∧
      (edits ≠ [] → fileAt target after.tree = some (writtenBytes (applyAll edits content)))

def EditsRejected : Prop :=
  ∃ rejected, rejected ≠ [] ∧
    applyEdits host root allowedFiles output before = .ok { rejected } before

/-- The edits of a file are applied where every anchor occurs at exactly one
offset of the text that the preceding edits have made, and otherwise they are
rejected. -/
def AnchorsDecide (target : FilePath) (content : List Char) (edits : List Edit) : Prop :=
  (AnchorsMeet UniqueAnchor content edits →
      EditsTakeEffect host root allowedFiles output before target content edits) ∧
    (¬ AnchorsMeet UniqueAnchor content edits → EditsRejected host root allowedFiles output before)

variable {host root allowedFiles output before} {path : String}
  {target : FilePath} {content : List Char} {edits : List Edit}

theorem editsTakeEffect_of_meeting
    (editable : Editable host root allowedFiles before.tree path target)
    (text : fileText host root before.tree path = some content)
    (read : outputEdits output = .ok edits)
    (own : ∀ edit ∈ edits, edit.path = path)
    (meeting : AnchorsMeet MeetingAnchor content edits) :
    EditsTakeEffect host root allowedFiles output before target content
      edits := by
  have accepted := (accepted_iff_anchorsMeet editable text own).mpr meeting
  obtain ⟨summary, after, returned, _, _, unrejected, contents, _⟩ :=
    applyEdits_of_accepted read accepted
  refine ⟨summary, after, returned, unrejected, fun some_edit => ?_⟩
  rw [contents, editedFile_of_one_file editable text own some_edit]

theorem editsRejected_of_not_meeting
    (editable : Editable host root allowedFiles before.tree path target)
    (text : fileText host root before.tree path = some content)
    (read : outputEdits output = .ok edits)
    (own : ∀ edit ∈ edits, edit.path = path)
    (refused : ¬ AnchorsMeet MeetingAnchor content edits) :
    EditsRejected host root allowedFiles output before := by
  have start : (Verification.current host root before.tree {} path).isSome := by
    rw [Verification.current, text]
    rfl
  obtain ⟨check, verified⟩ := verifyEdits_returns editable own start
  have passed : verifyEdits host root allowedFiles before.tree output =
      .ok check := verifyEdits_eq_ok_iff.mpr ⟨edits, read, verified⟩
  have rejected : check.editRejections ≠ [] := by
    intro none
    have accepted : Accepted host root allowedFiles before.tree edits :=
      ⟨check, accepts_iff.mpr ⟨verified, none⟩⟩
    exact refused ((accepted_iff_anchorsMeet editable text own).mp accepted)
  have opened : (get : EStateM PyError Disk Disk) before = .ok before before := rfl
  refine ⟨check.editRejections, rejected, ?_⟩
  unfold applyEdits
  rw [bind_of_ok opened, passed]
  have checked : (valueOf (.ok check) :
      EStateM PyError Disk Verification) before = .ok check before := rfl
  rw [bind_of_ok checked, if_neg rejected]
  rfl

theorem not_editsRejected_of_takeEffect
    (applied : EditsTakeEffect host root allowedFiles output before target content edits) :
    ¬ EditsRejected host root allowedFiles output before := by
  obtain ⟨_, _, returned, unrejected, _⟩ := applied
  rintro ⟨_, something, returnedAgain⟩
  rw [returned] at returnedAgain
  cases returnedAgain
  exact something unrejected

/-- Uniqueness of the anchors decides except where every anchor is counted
once and one of them overlaps itself in the text. -/
theorem anchorsDecide_iff (editable : Editable host root allowedFiles before.tree path target)
    (text : fileText host root before.tree path = some content)
    (read : outputEdits output = .ok edits)
    (own : ∀ edit ∈ edits, edit.path = path) :
    AnchorsDecide host root allowedFiles output before target content edits ↔
      ¬ AnchorsMeet MeetingAnchor content edits ∨ AnchorsMeet NoOverlap content edits := by
  have unique : AnchorsMeet UniqueAnchor content edits ↔ AnchorsMeet MeetingAnchor content edits ∧
        AnchorsMeet NoOverlap content edits :=
    (anchorsMeet_congr uniqueAnchor_iff edits content).trans (anchorsMeet_and edits content)
  by_cases meeting : AnchorsMeet MeetingAnchor content edits
  · have applied := editsTakeEffect_of_meeting editable text read own meeting
    unfold AnchorsDecide
    rw [unique]
    simp only [meeting, true_and, not_true, false_or]
    constructor
    · rintro ⟨_, rejects⟩
      by_contra overlapping
      exact not_editsRejected_of_takeEffect applied (rejects overlapping)
    · intro apart
      exact ⟨fun _ => applied, fun overlapping => absurd apart overlapping⟩
  · have rejected := editsRejected_of_not_meeting editable text read own meeting
    refine iff_of_true ⟨?_, fun _ => rejected⟩ (.inl meeting)
    intro every
    exact absurd (unique.mp every).1 meeting

/-- An anchor that is found once decides as it should. -/
theorem anchorsDecide_iff_of_one_edit :
    AnchorsDecide plainHost ["ws"] ["a.py"] (editOutput "a.py" "one" "1")
        (workspaceDisk "a.py" "one two".toByteArray) ["ws", "a.py"]
        "one two".toList [⟨"a.py", "one".toList, "1".toList⟩] ↔
      ¬ AnchorsMeet MeetingAnchor "one two".toList [⟨"a.py", "one".toList, "1".toList⟩] ∨
        AnchorsMeet NoOverlap "one two".toList [⟨"a.py", "one".toList, "1".toList⟩] :=
  anchorsDecide_iff (editable_workspaceDisk _) (fileText_workspaceDisk _) (by rfl) (by simp)

/-- The anchor "aa" occurs at two offsets of "aaa" and is applied. -/
theorem overlapping_anchor_applied :
    ¬ AnchorsDecide plainHost ["ws"] ["a.py"] (editOutput "a.py" "aa" "b")
        (workspaceDisk "a.py" "aaa".toByteArray) ["ws", "a.py"]
        "aaa".toList [⟨"a.py", "aa".toList, "b".toList⟩] := by
  rintro ⟨_, rejects⟩
  have twice : ¬ AnchorsMeet UniqueAnchor "aaa".toList [⟨"a.py", "aa".toList, "b".toList⟩] := by
    rintro ⟨⟨_, once⟩, _⟩
    have first : OccursAt "aa".toList "aaa".toList 0 := by
      unfold OccursAt
      decide +kernel
    have second : OccursAt "aa".toList "aaa".toList 1 := by
      unfold OccursAt
      decide +kernel
    exact Nat.zero_ne_one (once.unique first second)
  have meeting : AnchorsMeet MeetingAnchor "aaa".toList [⟨"a.py", "aa".toList, "b".toList⟩] := by
    refine ⟨(meetingAnchor_iff _ _).mpr ⟨by simp, ?_⟩, trivial⟩
    decide +kernel
  have applied : EditsTakeEffect plainHost ["ws"] ["a.py"] (editOutput "a.py" "aa" "b")
      (workspaceDisk "a.py" "aaa".toByteArray) ["ws", "a.py"] "aaa".toList
      [⟨"a.py", "aa".toList, "b".toList⟩] :=
    editsTakeEffect_of_meeting (editable_workspaceDisk _)
      (fileText_workspaceDisk "aaa") (by rfl) (by simp) meeting
  exact not_editsRejected_of_takeEffect applied (rejects twice)

end

end Implement

end Skills

end AccruviaHarness
