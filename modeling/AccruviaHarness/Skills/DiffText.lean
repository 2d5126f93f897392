import AccruviaHarness.Mermaid.Lines

/-!
# The text of a diff

`git diff` prints a header for each changed file. Only where it shows hunks does
it print the two lines with the names of the file; a name with special
characters is quoted there.
-/

namespace AccruviaHarness

open List

namespace GitDiff

open Mermaid

/-! ## Names -/

def isPlainCharacter (character : Char) : Bool :=
  32 ≤ character.toNat && character.toNat < 127 && character ≠ '"' &&
    character ≠ '\\'

def isPlainName (name : String) : Bool := name.toList.all isPlainCharacter

def escapeByte (byte : UInt8) : List Char :=
  let code := byte.toNat
  if code = 7 then ['\\', 'a']
  else if code = 8 then ['\\', 'b']
  else if code = 9 then ['\\', 't']
  else if code = 10 then ['\\', 'n']
  else if code = 11 then ['\\', 'v']
  else if code = 12 then ['\\', 'f']
  else if code = 13 then ['\\', 'r']
  else if code = 34 then ['\\', '"']
  else if code = 92 then ['\\', '\\']
  else if 32 ≤ code ∧ code < 127 then [Char.ofNat code]
  else ['\\', Nat.digitChar (code / 64 % 8), Nat.digitChar (code / 8 % 8), Nat.digitChar (code % 8)]

def label (root : List Char) (name : String) : List Char :=
  if isPlainName name then root ++ name.toList
  else
    '"' :: (root ++
      (name.toList.flatMap String.utf8EncodeChar).flatMap escapeByte ++ ['"'])

/-! ## Changes -/

inductive Action where
  | added (path : String)
  | deleted (path : String)
  | modified (path : String)
  | renamed (source target : String)
  deriving DecidableEq, Repr

namespace Action

def source : Action → Option String
  | .added _ => none
  | .deleted path | .modified path | .renamed path _ => some path

def target : Action → Option String
  | .deleted _ => none
  | .added path | .modified path | .renamed _ path => some path

def names (action : Action) : List String := action.source.toList ++ action.target.toList

def headed : Action → String × String
  | .added path | .deleted path | .modified path => (path, path)
  | .renamed source target => (source, target)

def renameLines : Action → List (List Char)
  | .renamed source target =>
    ["rename from ".toList ++ label [] source, "rename to ".toList ++ label [] target]
  | _ => []

end Action

inductive HunkMark where
  | range
  | context
  | removed
  | added
  | noNewline
  deriving DecidableEq, Repr

def HunkMark.character : HunkMark → Char
  | .range => '@'
  | .context => ' '
  | .removed => '-'
  | .added => '+'
  | .noNewline => '\\'

structure HunkLine where
  mark : HunkMark
  text : List Char
  deriving DecidableEq, Repr

def HunkLine.line (hunkLine : HunkLine) : List Char := hunkLine.mark.character :: hunkLine.text

inductive Body where
  | empty
  | binary
  | hunks (lines : List HunkLine)
  deriving DecidableEq, Repr

structure ExtendedHeader where
  text : List Char
  begins : ∃ first ∈ text.head?, first.isAlpha = true
  inLine : InLine text

structure FileChange where
  action : Action
  headers : List ExtendedHeader := []
  body : Body

namespace FileChange

def nameLine (marker root : List Char) : Option String → List Char
  | none => marker ++ "/dev/null".toList
  | some name =>
    marker ++ (label root name ++
      if ' ' ∈ label root name then ['\t'] else [])

def sideLabel (root : List Char) : Option String → List Char
  | none => "/dev/null".toList
  | some name => label root name

variable (change : FileChange)

def bodyLines : List (List Char) :=
  match change.body with
  | .empty => []
  | .binary =>
    ["Binary files ".toList ++ (sideLabel "a/".toList change.action.source ++
      (" and ".toList ++ (sideLabel "b/".toList change.action.target ++ " differ".toList)))]
  | .hunks lines =>
    nameLine "--- ".toList "a/".toList change.action.source ::
      nameLine "+++ ".toList "b/".toList change.action.target :: lines.map HunkLine.line

def headerLines : List (List Char) :=
  ("diff --git ".toList ++ (label "a/".toList change.action.headed.1 ++
      ' ' :: label "b/".toList change.action.headed.2)) ::
    (change.headers.map ExtendedHeader.text ++ change.action.renameLines)

def lines : List (List Char) := change.headerLines ++ change.bodyLines

end FileChange

/-- What `git diff` prints. -/
def text (changes : List FileChange) : String :=
  String.ofList (changes.flatMap fun change => change.lines.flatMap fun line => line ++ ['\n'])

def Touches (changes : List FileChange) (path : String) : Prop :=
  ∃ change ∈ changes, path ∈ change.action.names

/-! ## The lines of the text -/

theorem lines_text (changes : List FileChange) :
    splitLines (text changes).toList =
      changes.flatMap fun change =>
        change.lines.flatMap fun line => splitLines (line ++ ['\n']) := by
  have joined (lines : List (List Char)) (rest : List Char) :
      splitLines ((lines.flatMap fun line => line ++ ['\n']) ++ rest) =
        (lines.flatMap fun line => splitLines (line ++ ['\n'])) ++ splitLines rest := by
    induction lines with
    | nil => rfl
    | cons _ _ ih =>
      rw [flatMap_cons, flatMap_cons, append_assoc,
        append_assoc, singleton_append,
        append_assoc, splitLines_append_newline, ih]
  unfold text
  rw [String.toList_ofList]
  induction changes with
  | nil => rfl
  | cons _ _ ih => rw [flatMap_cons, flatMap_cons, joined, ih]

theorem inLine_of_plain {characters : List Char}
    (plain : ∀ character ∈ characters, 32 ≤ character.toNat ∧ character.toNat < 127) :
    InLine characters := by
  intro character member
  obtain ⟨_, _⟩ := plain character member
  cases lineBreak : isLineBreak character with
  | false => rfl
  | true =>
    simp only [isLineBreak, Bool.or_eq_true, Bool.and_eq_true,
      decide_eq_true_eq, beq_iff_eq] at lineBreak
    omega

theorem plain_escapeByte (byte : UInt8) :
    ∀ character ∈ escapeByte byte, 32 ≤ character.toNat ∧ character.toNat < 127 := by
  have listed : ∀ code < 256,
      (escapeByte (UInt8.ofNat code)).all (fun character =>
        decide (32 ≤ character.toNat ∧ character.toNat < 127)) = true := by
    decide +kernel
  have here := listed byte.toNat byte.toNat_lt
  rw [UInt8.ofNat_toNat] at here
  intro character member
  exact of_decide_eq_true (all_eq_true.mp here character member)

theorem inLine_label {root : List Char} (rootLine : InLine root) (name : String) :
    InLine (label root name) := by
  unfold label
  split_ifs with plain
  · refine rootLine.append (inLine_of_plain fun character member => ?_)
    have here := all_eq_true.mp plain character member
    simp only [isPlainCharacter, Bool.and_eq_true, decide_eq_true_eq] at here
    exact here.1.1
  · have quote : InLine ['"'] := forall_mem_singleton.mpr rfl
    refine quote.append ((rootLine.append
      (inLine_of_plain fun character member => ?_)).append quote)
    obtain ⟨byte, _, escaped⟩ := mem_flatMap.mp member
    exact plain_escapeByte byte character escaped

end GitDiff

end AccruviaHarness
