import AccruviaHarness.Skills.ImplementChanges

/-!
# The first pass over the edits

An edit is verified against the text that the earlier edits of its path have
made. The pass accepts a list of edits where it rejects none of them.
-/

namespace AccruviaHarness

open Library DirectoryTree List Option

namespace Skills

namespace Implement

def editsOf (path : String) (edits : List Edit) : List Edit :=
  edits.filter fun edit => edit.path = path

def applyAll (edits : List Edit) (content : List Char) : List Char :=
  edits.foldl (fun content edit => edit.apply content) content

def outputEdits (output : PyDict) : Except PyError (List Edit) := do
  let entries ← output.getList "edits"
  entries.mapM editOf

section

variable (host : Host) (root : FilePath) (allowedFiles : List String)
  (tree : DirectoryTree String ByteArray)

def fileText (path : String) : Option (List Char) :=
  (resolveInWorkspace host root path).bind fun target =>
    if host.readError target = none then (fileAt target tree).bind readText
    else none

variable (state : Verification)

def Verification.current (path : String) : Option (List Char) :=
  (state.fileCache path).or (fileText host root tree path)

structure Editable (path : String) (target : FilePath) : Prop where
  named : path ≠ ""
  inScope : path ∈ allowedFiles.map normalizeRel
  located : resolveInWorkspace host root path = some target
  present : ∃ bytes, fileAt target tree = some bytes

structure Applies (state : Verification) (edit : Edit) (target : FilePath)
    (content : List Char) : Prop where
  editable : Editable host root allowedFiles tree edit.path target
  current : state.current host root tree edit.path = some content
  anchored : edit.oldString ≠ []
  counted : countFrom edit.oldString 0 content = 1

def Verification.applied (edit : Edit) (target : FilePath) (content : List Char) : Verification :=
  { state with
    fileCache := Function.update state.fileCache edit.path (some (edit.apply content))
    verifiedEdits := state.verifiedEdits ++ [(target, edit.path)] }

inductive Accepts : Verification → List Edit → Verification → Prop
  | done (state : Verification) : Accepts state [] state
  | skip {state check : Verification} {edit : Edit} {edits : List Edit}
      (unnamed : edit.path = "") (later : Accepts state edits check) :
      Accepts state (edit :: edits) check
  | apply {state check : Verification} {edit : Edit} {edits : List Edit}
      {target : FilePath} {content : List Char}
      (applies : Applies host root allowedFiles tree state edit target content)
      (later : Accepts (state.applied edit target content) edits check) :
      Accepts state (edit :: edits) check

end

section

variable {host : Host} {root : FilePath} {allowedFiles : List String}
  {tree : DirectoryTree String ByteArray}

variable {state check : Verification} {path : String} {target : FilePath}
  {content : List Char} {edit : Edit} {edits : List Edit}

theorem cachedText_of_current {bytes : ByteArray}
    (located : resolveInWorkspace host root path = some target)
    (present : fileAt target tree = some bytes)
    (current : state.current host root tree path = some content) :
    state.cachedText host path target bytes = .ok (.ok content) := by
  unfold Verification.current at current
  unfold Verification.cachedText
  cases cached : state.fileCache path with
  | some _ =>
    rw [cached] at current
    cases current
    rfl
  | none =>
    rw [cached, none_or, fileText, located, bind_some,
      ite_none_right_eq_some, present, bind_some] at current
    rw [current.1, current.2]

theorem current_of_cachedText {bytes : ByteArray}
    (located : resolveInWorkspace host root path = some target)
    (present : fileAt target tree = some bytes)
    (read : state.cachedText host path target bytes = .ok (.ok content)) :
    state.current host root tree path = some content := by
  unfold Verification.cachedText at read
  unfold Verification.current
  cases cached : state.fileCache path with
  | some _ =>
    rw [cached] at read
    cases read
    rfl
  | none =>
    simp only [cached] at read
    split at read
    · cases read
    next readable decoded =>
      cases read
      rw [none_or, fileText, located, bind_some,
        if_pos readable, present, bind_some, decoded]
    · cases read

theorem verifyEdit_of_applies
    (applies : Applies host root allowedFiles tree state edit target content) :
    verifyEdit host root allowedFiles tree state edit =
      .ok (state.applied edit target content) := by
  obtain ⟨⟨named, inScope, located, _, present⟩, current, anchored, counted⟩ := applies
  have read := cachedText_of_current located present current
  have placed : locate host root allowedFiles "edit_out_of_scope" edit.path =
      .ok target := locate_eq_ok_iff.mpr ⟨inScope, located⟩
  unfold verifyEdit
  rw [if_neg named, placed]
  dsimp only
  rw [present]
  dsimp only
  rw [if_neg anchored, read]
  dsimp only
  rw [Verification.replaceAnchor, counted]
  rfl

theorem verifyEdit_cases {next : Verification}
    (checked : verifyEdit host root allowedFiles tree state edit = .ok next) :
    (edit.path = "" ∧ next = state) ∨
      (∃ target content, Applies host root allowedFiles tree state edit target content ∧
          next = state.applied edit target content) ∨
      ∃ reason, next.editRejections = state.editRejections ++ [(edit.path, reason)] := by
  unfold verifyEdit at checked
  split at checked
  next unnamed =>
    cases checked
    exact .inl ⟨unnamed, rfl⟩
  next named =>
    right
    split at checked
    · cases checked
      exact .inr ⟨_, rfl⟩
    next target placed =>
      obtain ⟨inScope, located⟩ := locate_eq_ok_iff.mp placed
      split at checked
      · cases checked
        exact .inr ⟨_, rfl⟩
      next bytes present =>
        split at checked
        · cases checked
          exact .inr ⟨_, rfl⟩
        next anchored =>
          split at checked
          · cases checked
          · cases checked
            exact .inr ⟨_, rfl⟩
          next content read =>
            cases checked
            unfold Verification.replaceAnchor
            dsimp only
            split
            · exact .inr ⟨_, rfl⟩
            next found =>
              split
              · exact .inr ⟨_, rfl⟩
              next unique =>
                left
                refine ⟨target, content, ⟨⟨named, inScope, located, bytes,
                  present⟩, current_of_cachedText located present read,
                  anchored, by omega⟩, rfl⟩

theorem editRejections_kept
    (verified : edits.foldlM (verifyEdit host root allowedFiles tree) state =
      .ok check) : state.editRejections <+: check.editRejections := by
  induction edits generalizing state with
  | nil =>
    cases verified
    exact prefix_refl _
  | cons _ _ ih =>
    rw [foldlM_cons] at verified
    obtain ⟨_, checked, later⟩ := exists_of_bind_ok verified
    have grown := ih later
    rcases verifyEdit_cases checked with
      ⟨_, rfl⟩ | ⟨_, _, _, rfl⟩ | ⟨_, rejected⟩
    · exact grown
    · exact grown
    · rw [rejected] at grown
      exact (prefix_append _ _).trans grown

theorem accepts_iff :
    Accepts host root allowedFiles tree state edits check ↔
      edits.foldlM (verifyEdit host root allowedFiles tree) state = .ok check ∧
        check.editRejections = state.editRejections := by
  constructor
  · intro accepted
    induction accepted with
    | done _ => exact ⟨rfl, rfl⟩
    | skip unnamed _ ih =>
      rw [foldlM_cons, verifyEdit, if_pos unnamed]
      exact ih
    | apply applies _ ih =>
      rw [foldlM_cons, verifyEdit_of_applies applies]
      exact ih
  · rintro ⟨verified, none⟩
    induction edits generalizing state with
    | nil =>
      cases verified
      exact .done _
    | cons _ _ ih =>
      rw [foldlM_cons] at verified
      obtain ⟨_, checked, later⟩ := exists_of_bind_ok verified
      rcases verifyEdit_cases checked with
        ⟨unnamed, rfl⟩ | ⟨_, _, applies, rfl⟩ | ⟨_, rejected⟩
      · exact .skip unnamed (ih later none)
      · exact .apply applies (ih later none)
      · have grown := (editRejections_kept later).length_le
        rw [rejected, none, length_append] at grown
        exact absurd grown (by simp)

theorem verifyEdits_eq_ok_iff {output : PyDict} :
    verifyEdits host root allowedFiles tree output = .ok check ↔
      ∃ edits, outputEdits output = .ok edits ∧
        edits.foldlM (verifyEdit host root allowedFiles tree) {} = .ok check := by
  have rounds : ∀ (entries : List PyValue) (state : Verification),
      entries.foldlM (verifyEntry host root allowedFiles tree) state = .ok check ↔
        ∃ edits, entries.mapM editOf = .ok edits ∧
          edits.foldlM (verifyEdit host root allowedFiles tree) state = .ok check := by
    intro entries
    induction entries with
    | nil =>
      intro state
      constructor
      · intro verified
        exact ⟨[], rfl, verified⟩
      · rintro ⟨edits, read, verified⟩
        cases read
        exact verified
    | cons _ _ ih =>
      intro state
      rw [foldlM_cons, mapM_cons]
      constructor
      · intro verified
        obtain ⟨next, checked, later⟩ := exists_of_bind_ok verified
        obtain ⟨edit, here, checked⟩ := exists_of_bind_ok checked
        obtain ⟨edits, read, later⟩ := (ih next).mp later
        refine ⟨edit :: edits, ?_, ?_⟩
        · rw [here, ok_bind, read]
          rfl
        · rw [foldlM_cons, checked]
          exact later
      · rintro ⟨edits, read, verified⟩
        obtain ⟨_, here, read⟩ := exists_of_bind_ok read
        obtain ⟨rest, readRest, read⟩ := exists_of_bind_ok read
        cases read
        rw [foldlM_cons] at verified
        obtain ⟨next, checked, later⟩ := exists_of_bind_ok verified
        rw [verifyEntry, here, ok_bind, checked]
        exact (ih next).mpr ⟨rest, readRest, later⟩
  unfold verifyEdits outputEdits
  constructor
  · intro verified
    obtain ⟨entries, listed, verified⟩ := exists_of_bind_ok verified
    rw [listed]
    exact (rounds entries {}).mp verified
  · rintro ⟨edits, read, verified⟩
    obtain ⟨entries, listed, read⟩ := exists_of_bind_ok read
    rw [listed]
    exact (rounds entries {}).mpr ⟨edits, read, verified⟩

theorem fileCache_applied (state : Verification) (edit : Edit) (target : FilePath)
    (content : List Char) (path : String) :
    (state.applied edit target content).fileCache path =
      if path = edit.path then some (edit.apply content)
      else state.fileCache path :=
  Function.update_apply _ _ _ _

theorem current_applied (applies : Applies host root allowedFiles tree state edit target content)
    (path : String) :
    (state.applied edit target content).current host root tree path =
      if path = edit.path then (state.current host root tree path).map edit.apply
      else state.current host root tree path := by
  rw [Verification.current, fileCache_applied]
  by_cases own : path = edit.path
  · rw [if_pos own, if_pos own, own, applies.current]
    rfl
  · rw [if_neg own, if_neg own]
    rfl

theorem current_of_accepts (accepted : Accepts host root allowedFiles tree state edits check)
    (named : path ≠ "") :
    check.current host root tree path = (state.current host root tree path).map
        (applyAll (editsOf path edits)) := by
  induction accepted with
  | done _ => exact map_id'.symm
  | @skip state check edit edits unnamed _ ih =>
    have other : ¬ edit.path = path := by
      rw [unnamed]
      exact Ne.symm named
    rw [ih, editsOf, editsOf, filter_cons_of_neg (by simpa using other)]
  | @apply state check edit edits target content applies _
      ih =>
      rw [ih, current_applied applies]
      by_cases own : path = edit.path
      · rw [if_pos own, Option.map_map, editsOf, editsOf,
          filter_cons_of_pos (by simpa using own.symm)]
        rfl
      · rw [if_neg own, editsOf, editsOf, filter_cons_of_neg (by simpa using Ne.symm own)]

theorem fileCache_of_accepts (accepted : Accepts host root allowedFiles tree state edits check)
    (cached : (state.fileCache path).isSome) :
    (check.fileCache path).isSome := by
  induction accepted with
  | done _ => exact cached
  | skip _ _ ih => exact ih cached
  | @apply state check edit edits target content applies _
      ih =>
      apply ih
      rw [fileCache_applied]
      split
      · rfl
      · exact cached

theorem verifiedEdits_of_accepts
    (accepted : Accepts host root allowedFiles tree state edits check) :
    ∃ later, check.verifiedEdits = state.verifiedEdits ++ later ∧ later.map Prod.snd =
        (edits.map Edit.path).filter (fun path => path ≠ "") ∧
      ∀ verified ∈ later, Editable host root allowedFiles tree verified.2 verified.1 ∧
          (check.fileCache verified.2).isSome := by
  induction accepted with
  | done _ => exact ⟨[], (append_nil _).symm, rfl, by simp⟩
  | @skip state check edit edits unnamed _ ih =>
    obtain ⟨later, grown, paths, editable⟩ := ih
    exact ⟨later, grown, by simpa [unnamed] using paths, editable⟩
  | @apply state check edit edits target content applies rest
      ih =>
      obtain ⟨later, grown, paths, editable⟩ := ih
      refine ⟨(target, edit.path) :: later, ?_, ?_, ?_⟩
      · rw [grown, Verification.applied, append_assoc]
        rfl
      · rw [map_cons, paths, map_cons, filter_cons_of_pos (by simpa using applies.editable.named)]
      · rw [forall_mem_cons]
        refine ⟨⟨applies.editable, ?_⟩, editable⟩
        apply fileCache_of_accepts rest
        rw [fileCache_applied, if_pos rfl]
        rfl

end

end Implement

end Skills

end AccruviaHarness
