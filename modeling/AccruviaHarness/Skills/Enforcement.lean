import Mathlib.Data.List.TakeWhile
import AccruviaHarness.Skills.DiffText
import AccruviaHarness.Skills.SelfReview

/-!
# Forbidden files

A non-negotiable can forbid a file by its path. The check finds the path when
it is written with the letters of the pattern and its extension is not hidden by
a shorter one, and it finds the change when the diff shows hunks of the file.
-/

namespace AccruviaHarness

open List

namespace SelfReview

open Library
open GitDiff

/-! ## Paths that are found -/

section

variable {path rest after : List Char}

/-- Something stands before the dot, in path characters alone, and the
extension is not one of the two that begin with another one. -/
def ReadablePath (path : List Char) : Prop :=
  ∃ stem, stem ≠ [] ∧ (∀ character ∈ stem, isPathCharacter character = true) ∧
    ∃ extension ∈ pathExtensions, extension ≠ "tsx" ∧ extension ≠ "jsx" ∧
      path = stem ++ '.' :: extension.toList

theorem scanExtension_some {characters : List Char}
    (scanned : scanExtension characters = some (path, rest)) :
    characters = path ++ rest ∧
      ∃ extension ∈ pathExtensions, extension ≠ "tsx" ∧ extension ≠ "jsx" ∧
        path = '.' :: extension.toList := by
  unfold scanExtension at scanned
  split at scanned
  next tail =>
    obtain ⟨before, extension, _, listed, found, missed⟩ := findSome?_eq_some_iff.mp scanned
    split_ifs at found with begins
    cases found
    rw [List.isPrefixOf_iff_prefix] at begins
    obtain ⟨further, rfl⟩ := begins
    -- The shorter extension comes first in the list and would be read instead.
    have earlier (shorter : String) (shown : shorter.toList <+: extension.toList)
        (first : shorter ∈ pathExtensions.takeWhile (· ≠ extension)) :
        False := by
      have other : ∀ name ∈ before, name ≠ extension := by
        rintro name member rfl
        have miss := missed name member
        simp at miss
      have same : pathExtensions.takeWhile (· ≠ extension) = before := by
        rw [listed, takeWhile_append_of_pos (by simpa using other)]
        simp
      rw [same] at first
      have miss := missed shorter first
      have begins := shown.trans (prefix_append _ further)
      rw [if_pos (List.isPrefixOf_iff_prefix.mpr begins)] at miss
      cases miss
    refine ⟨by simp, extension, ?_, ?_, ?_, rfl⟩
    · rw [listed]
      exact mem_append_right _ mem_cons_self
    · rintro rfl
      exact earlier "ts" (by decide) (by decide)
    · rintro rfl
      exact earlier "js" (by decide) (by decide)
  · cases scanned

theorem scanPath_some {characters : List Char} (scanned : scanPath characters = some (path, rest)) :
    characters = path ++ rest ∧ ReadablePath path := by
  induction characters generalizing path with
  | nil => cases scanned
  | cons character _ ih =>
    rw [scanPath] at scanned
    split_ifs at scanned with pathCharacter
    rw [Option.map_eq_some_iff] at scanned
    obtain ⟨⟨_, _⟩, found, same⟩ := scanned
    cases same
    rcases Option.or_eq_some_iff.mp found with found | ⟨_, found⟩
    · obtain ⟨rfl, stem, _, stemCharacters, extension, listed, noTsx, noJsx,
        rfl⟩ := ih found
      refine ⟨rfl, character :: stem, cons_ne_nil _ _, ?_, extension, listed, noTsx, noJsx, rfl⟩
      exact forall_mem_cons.mpr ⟨pathCharacter, stemCharacters⟩
    · obtain ⟨rfl, extension, listed, noTsx, noJsx, rfl⟩ := scanExtension_some found
      refine ⟨rfl, [character], cons_ne_nil _ _, ?_, extension, listed, noTsx, noJsx, rfl⟩
      exact forall_mem_singleton.mpr pathCharacter

theorem scanExtension_of_other {character : Char} (other : character ≠ '.') (rest : List Char) :
    scanExtension (character :: rest) = none := by
  simp [scanExtension, other]

theorem scanPath_of_no_dot {word : List Char} (noDot : '.' ∉ word)
    (ends : ∀ character ∈ after.head?, isPathCharacter character = false) :
    scanPath (word ++ after) = none ∧ scanExtension (word ++ after) = none := by
  induction word with
  | nil =>
    cases after with
    | nil => exact ⟨rfl, rfl⟩
    | cons first after =>
      have other := ends first rfl
      have noDot : first ≠ '.' := by
        rintro rfl
        cases other
      refine ⟨?_, scanExtension_of_other noDot after⟩
      simp [scanPath, other]
  | cons character _ ih =>
    rw [mem_cons, not_or] at noDot
    obtain ⟨noPath, noExtension⟩ := ih noDot.2
    have other : character ≠ '.' := Ne.symm noDot.1
    refine ⟨?_, scanExtension_of_other other _⟩
    simp [scanPath, noPath, noExtension]

theorem scanExtension_listed {extension : String} (listed : extension ∈ pathExtensions)
    (noTsx : extension ≠ "tsx") (noJsx : extension ≠ "jsx")
    (after : List Char) :
    scanExtension ('.' :: (extension.toList ++ after)) = some ('.' :: extension.toList, after) := by
  simp only [pathExtensions, mem_cons, not_mem_nil, or_false]
    at listed
  rcases listed with rfl | rfl | rfl | rfl | rfl | rfl | rfl | rfl | rfl | rfl
  · simp [scanExtension, pathExtensions]
  · simp [scanExtension, pathExtensions]
  · simp [scanExtension, pathExtensions]
  · exact absurd rfl noTsx
  · exact absurd rfl noJsx
  · simp [scanExtension, pathExtensions]
  · simp [scanExtension, pathExtensions]
  · simp [scanExtension, pathExtensions]
  · simp [scanExtension, pathExtensions]
  · simp [scanExtension, pathExtensions]

theorem scanPath_readable (readable : ReadablePath path)
    (ends : ∀ character ∈ after.head?, isPathCharacter character = false) :
    scanPath (path ++ after) = some (path, after) := by
  obtain ⟨stem, nonempty, stemCharacters, extension, listed, noTsx, noJsx,
    rfl⟩ := readable
  have noDot : '.' ∉ extension.toList := by
    have all : ∀ extension ∈ pathExtensions, '.' ∉ extension.toList := by decide
    exact all extension listed
  have further : scanPath ('.' :: (extension.toList ++ after)) = none := by
    obtain ⟨noPath, noExtension⟩ := scanPath_of_no_dot noDot ends
    simp [scanPath, noPath, noExtension]
  have read := scanExtension_listed listed noTsx noJsx after
  induction stem with
  | nil => exact absurd rfl nonempty
  | cons _ stem ih =>
    obtain ⟨pathCharacter, later⟩ := forall_mem_cons.mp stemCharacters
    rw [append_assoc, cons_append, scanPath, if_pos pathCharacter]
    cases stem with
    | nil =>
      rw [nil_append, cons_append, further, Option.none_or, read]
      rfl
    | cons _ _ =>
      rw [← append_assoc, ih (cons_ne_nil _ _) later, Option.some_or]
      rfl

end

theorem ReadablePath.characters {path : List Char} (readable : ReadablePath path) :
    ∀ character ∈ path, isPathCharacter character = true := by
  obtain ⟨_, _, stemCharacters, extension, listed, _, _, rfl⟩ := readable
  have all : ∀ extension ∈ pathExtensions, extension.toList.all isPathCharacter = true := by decide
  intro character member
  rcases mem_append.mp member with member | member
  · exact stemCharacters character member
  · rcases mem_cons.mp member with rfl | member
    · rfl
    · exact all_eq_true.mp (all extension listed) character member

theorem ReadablePath.ne_nil {path : List Char} (readable : ReadablePath path) : path ≠ [] := by
  obtain ⟨_, nonempty, _, _, _, _, _, rfl⟩ := readable
  exact append_ne_nil_of_left_ne_nil nonempty _

/-! ## Paths that are named -/

def isDelimiter (character : Char) : Bool := isPyWhitespace character || character = '\x60'

def Names (text path : String) : Prop :=
  (∃ before after, text.toList = before ++ (path.toList ++ after) ∧
    (∀ character ∈ before.getLast?, isDelimiter character = true) ∧
    ∀ character ∈ after.head?, isDelimiter character = true) ∧
  (∀ character ∈ path.toList, isDelimiter character = false) ∧
  ∃ stem, ∃ extension ∈ pathExtensions,
    path.toList = stem ++ '.' :: extension.toList

variable {character : Char} {front after : List Char} {changed : List String}

theorem isPathCharacter_of_delimiter (delimiter : isDelimiter character = true) :
    isPathCharacter character = false := by
  have listed : ∀ code < 128, isDelimiter (Char.ofNat code) = true →
      isPathCharacter (Char.ofNat code) = false := by
    decide +kernel
  by_cases ascii : character.toNat < 128
  · have here := listed character.toNat ascii
    rw [Char.ofNat_toNat] at here
    exact here delimiter
  · cases pathCharacter : isPathCharacter character with
    | false => rfl
    | true =>
      refine absurd ?_ ascii
      delta isPathCharacter Char.isAlphanum Char.isAlpha Char.isUpper
        Char.isLower Char.isDigit at pathCharacter
      simp only [Bool.or_eq_true, Bool.and_eq_true, decide_eq_true_eq,
        UInt32.le_iff_toNat_le, ge_iff_le] at pathCharacter
      rcases pathCharacter with (((((⟨_, upper⟩ | ⟨_, lower⟩) | ⟨_, digit⟩) |
        rfl) | rfl) | rfl) | rfl
      · exact Nat.lt_of_le_of_lt upper (by decide)
      · exact Nat.lt_of_le_of_lt lower (by decide)
      · exact Nat.lt_of_le_of_lt digit (by decide)
      all_goals decide

theorem read_before_delimiter {rest path : List Char} (nonempty : front ≠ [])
    (ends : ∀ character ∈ front.getLast?, isDelimiter character = true)
    (pathCharacters : ∀ character ∈ path, isPathCharacter character = true)
    (whole : front ++ rest = path ++ after) :
    ∃ left, left ≠ [] ∧ front = path ++ left ∧ after = left ++ rest := by
  have last : ∃ character ∈ front, isPathCharacter character = false := by
    have delimiter := ends _ (getLast?_eq_getLast_of_ne_nil nonempty)
    exact ⟨_, getLast_mem nonempty, isPathCharacter_of_delimiter delimiter⟩
  obtain ⟨character, member, other⟩ := last
  rcases append_eq_append_iff.mp whole with
    ⟨_, rfl, _⟩ | ⟨left, rfl, rfl⟩
  · have here := pathCharacters character (mem_append_left _ member)
    rw [here] at other
    cases other
  · refine ⟨left, ?_, rfl, rfl⟩
    rintro rfl
    rw [append_nil] at member
    have here := pathCharacters character member
    rw [here] at other
    cases other

theorem dropTick_append (nonempty : front ≠ []) (rest : List Char) :
    dropTick (front ++ rest) = dropTick front ++ rest := by
  obtain ⟨first, _, rfl⟩ := exists_cons_of_ne_nil nonempty
  by_cases tick : first = '\x60'
  · subst tick
    rfl
  · simp [dropTick, tick]

theorem dropTick_suffix (characters : List Char) : dropTick characters <:+ characters := by
  unfold dropTick
  split
  · exact suffix_cons _ _
  · exact suffix_rfl

theorem ReadablePath.dropTick
    {path : List Char} (readable : ReadablePath path) (after : List Char) :
    SelfReview.dropTick (path ++ after) = path ++ after := by
  obtain ⟨stem, nonempty, stemCharacters, _, _, _, _, rfl⟩ := readable
  obtain ⟨first, _, rfl⟩ := exists_cons_of_ne_nil nonempty
  have noTick : first ≠ '\x60' := by
    rintro rfl
    exact absurd (stemCharacters _ mem_cons_self) (by decide)
  simp [SelfReview.dropTick, noTick]

theorem getLast?_of_suffix {holds : Char → Prop} {part whole : List Char} (suffix : part <:+ whole)
    (ends : ∀ character ∈ whole.getLast?, holds character) :
    ∀ character ∈ part.getLast?, holds character := by
  obtain ⟨_, rfl⟩ := suffix
  intro character member
  refine ends character ?_
  rw [getLast?_append, member]
  rfl

theorem mem_findAll_of_readable {path : List Char} (readable : ReadablePath path)
    (behind : ∀ character ∈ after.head?, isDelimiter character = true)
    (before : List Char)
    (ends : ∀ character ∈ before.getLast?, isDelimiter character = true) :
    String.ofList path ∈ (mentionScanner.findAll (before ++ (path ++ after))).map Prod.snd := by
  have read : scanPath (path ++ after) = some (path, after) :=
    scanPath_readable readable fun character member =>
      isPathCharacter_of_delimiter (behind character member)
  induction length : before.length using Nat.strong_induction_on generalizing before with
  | h length ih =>
    subst length
    cases before with
    | nil =>
      have scanned : mentionScanner.scan (path ++ after) =
          some (String.ofList path, dropTick after) := by
        change scanMention _ = _
        rw [scanMention, readable.dropTick, read]
        rfl
      rw [nil_append, Scanner.findAll_of_some scanned]
      exact mem_cons_self
    | cons character before =>
      cases scanned : mentionScanner.scan (character :: (before ++ (path ++ after))) with
      | none =>
        rw [cons_append, Scanner.findAll_of_none scanned]
        exact ih _ (Nat.lt_succ_self _) before (getLast?_of_suffix (suffix_cons _ _) ends) rfl
      | some found =>
        obtain ⟨_, _⟩ := found
        rw [cons_append, Scanner.findAll_of_some scanned]
        change scanMention (character :: before ++ (path ++ after)) = _
          at scanned
        rw [scanMention, dropTick_append (cons_ne_nil _ _), Option.map_eq_some_iff] at scanned
        obtain ⟨⟨other, _⟩, found, same⟩ := scanned
        cases same
        have suffix := dropTick_suffix (character :: before)
        by_cases empty : dropTick (character :: before) = []
        · rw [empty, nil_append, read] at found
          cases found
          exact mem_cons_self
        · obtain ⟨whole, readableOther⟩ := scanPath_some found
          obtain ⟨left, leftNonempty, shape, rfl⟩ :=
            read_before_delimiter empty (getLast?_of_suffix suffix ends)
              readableOther.characters whole
          have shorter : left <:+ character :: before :=
            (shape ▸ suffix_append other left).trans suffix
          have missing : other ≠ [] := readableOther.ne_nil
          rw [dropTick_append leftNonempty]
          refine mem_cons_of_mem _ (ih _ ?_ _ (getLast?_of_suffix
              ((dropTick_suffix left).trans shorter) ends) rfl)
          have first := (dropTick_suffix left).length_le
          have second := suffix.length_le
          have positive := length_pos_iff.mpr missing
          rw [shape, length_append] at second
          omega

variable {text path : String}

theorem readable_of_mem_pathMatches (found : path ∈ pathMatches text) :
    ReadablePath path.toList := by
  obtain ⟨⟨start, _⟩, matched, rfl⟩ := mem_map.mp found
  obtain ⟨_, scanned⟩ := Scanner.exists_scan_of_mem_findAll matched
  change scanMention start = _ at scanned
  obtain ⟨⟨_, _⟩, readHere, same⟩ := Option.map_eq_some_iff.mp scanned
  cases same
  rw [String.toList_ofList]
  exact (scanPath_some readHere).2

theorem mem_pathMatches_iff (names : Names text path) :
    path ∈ pathMatches text ↔ ReadablePath path.toList := by
  refine ⟨readable_of_mem_pathMatches, fun readable => ?_⟩
  obtain ⟨⟨before, _, shape, starts, ends⟩, _⟩ := names
  have found := mem_findAll_of_readable readable ends before starts
  rw [← shape, String.ofList_toList] at found
  exact found

/-! ## The text without the blanks around it -/

theorem Names.ne_nil (names : Names text path) : path.toList ≠ [] := by
  obtain ⟨_, _, _, _, _, shape⟩ := names
  rw [shape]
  exact append_ne_nil_of_right_ne_nil _ (cons_ne_nil _ _)

theorem Names.visible (names : Names text path) :
    ∀ character ∈ path.toList, isPyWhitespace character = false := by
  intro character member
  have other := names.2.1 character member
  rw [isDelimiter, Bool.or_eq_false_iff] at other
  exact other.1

theorem Names.strip (names : Names text path) : Names (pyStrip text) path := by
  have nonempty := names.ne_nil
  have visible := names.visible
  obtain ⟨⟨before, after, shape, starts, ends⟩, inside, extension⟩ := names
  refine ⟨⟨before.dropWhile isPyWhitespace,
    (after.reverse.dropWhile isPyWhitespace).reverse, ?_, ?_, ?_⟩, inside,
    extension⟩
  · exact pyStrip_of_core shape nonempty
      (fun character member => visible _ (mem_of_mem_head? member))
      (fun character member => visible _ (mem_of_mem_getLast? member))
  · exact getLast?_of_suffix (dropWhile_suffix _) starts
  · have reversed : ∀ character ∈ after.reverse.getLast?, isDelimiter character = true := by
      simpa using ends
    have kept := getLast?_of_suffix (dropWhile_suffix isPyWhitespace) reversed
    simpa using kept

theorem visible_of_toLower (lowered : isPyWhitespace character.toLower = false) :
    isPyWhitespace character = false := by
  cases space : isPyWhitespace character with
  | false => rfl
  | true =>
    have same : character.toLower = character := by
      delta Char.toLower
      rw [dif_neg]
      rintro ⟨least, greatest⟩
      simp only [isPyWhitespace, Bool.or_eq_true, Bool.and_eq_true,
        decide_eq_true_eq, beq_iff_eq] at space
      have low : 65 ≤ character.toNat := UInt32.le_iff_toNat_le.mp least
      have high : character.toNat ≤ 90 := UInt32.le_iff_toNat_le.mp greatest
      omega
    rwa [same, space] at lowered

theorem mentionsAny_strip (mentions : mentionsAny forbiddingPhrases text = true) :
    mentionsAny forbiddingPhrases (pyStrip text) = true := by
  have visible : ∀ phrase ∈ forbiddingPhrases, phrase.toList ≠ [] ∧
      phrase.toList.head?.any isPyWhitespace = false ∧
      phrase.toList.getLast?.any isPyWhitespace = false := by
    decide
  simp only [mentionsAny, any_eq_true, decide_eq_true_eq] at mentions ⊢
  obtain ⟨phrase, listed, front, _, shape⟩ := mentions
  obtain ⟨nonempty, starts, ends⟩ := visible phrase listed
  rw [Option.any_eq_false] at starts ends
  refine ⟨phrase, listed, ?_⟩
  rw [lowerAscii, String.toList_ofList] at shape ⊢
  obtain ⟨_, _, whole, startLower, _⟩ := map_eq_append_iff.mp shape.symm
  obtain ⟨_, _, rfl, _, coreLower⟩ := map_eq_append_iff.mp startLower
  rw [append_assoc] at whole
  have stripped := pyStrip_of_core whole (by
      rintro rfl
      exact nonempty coreLower.symm)
    (fun character member => ?_) (fun character member => ?_)
  · rw [stripped, map_append, map_append, coreLower, ← append_assoc]
    exact infix_append _ _ _
  · refine visible_of_toLower (starts _ ?_)
    rw [← coreLower, head?_map, member]
    rfl
  · refine visible_of_toLower (ends _ ?_)
    rw [← coreLower, getLast?_map, member]
    rfl

/-! ## Files that the diff shows -/

def ReadsAsHeader (line : List Char) (path : String) : Prop :=
  ∃ part ∈ Mermaid.splitLines (line ++ ['\n']), changedFile part = some path

/-- The diff shows hunks of a file of that name, or there is a line in hunks
that reads as a header for it. -/
def Shown (changes : List FileChange) (path : String) : Prop :=
  ∃ change ∈ changes, ∃ hunkLines, change.body = .hunks hunkLines ∧
    ((∃ name ∈ change.action.names, isPlainName name = true ∧ pyStrip name = path) ∨
      ∃ hunkLine ∈ hunkLines, ReadsAsHeader hunkLine.line path)

section

variable {path : String}

variable {line : List Char}

theorem readsAsHeader_iff (inLine : Mermaid.InLine line) :
    ReadsAsHeader line path ↔ changedFile line = some path := by
  have alone : Mermaid.splitLines (line ++ ['\n']) = [line] :=
    Mermaid.splitLines_inLine_newline inLine []
  simp [ReadsAsHeader, alone]

variable {changes : List FileChange} {change : FileChange}

theorem mem_changedFiles_iff :
    path ∈ changedFiles (GitDiff.text changes) ↔
      ∃ change ∈ changes, ∃ line ∈ change.lines, ReadsAsHeader line path := by
  simp only [changedFiles, lines_text, mem_filterMap, mem_flatMap, ReadsAsHeader]
  constructor
  · rintro ⟨part, ⟨change, member, line, listed, here⟩, read⟩
    exact ⟨change, member, line, listed, part, here, read⟩
  · rintro ⟨change, member, line, listed, part, here, read⟩
    exact ⟨part, ⟨change, member, line, listed, here⟩, read⟩

theorem not_readsAsHeader_of_letter (inLine : Mermaid.InLine line)
    (begins : ∃ first ∈ line.head?, first.isAlpha = true) :
    ¬ ReadsAsHeader line path := by
  rw [readsAsHeader_iff inLine]
  obtain ⟨first, member, letter⟩ := begins
  obtain ⟨rest, rfl⟩ : ∃ rest, line = first :: rest := by
    cases line with
    | nil => cases member
    | cons _ rest =>
      cases member
      exact ⟨rest, rfl⟩
  have noPlus : first ≠ '+' := by
    rintro rfl
    cases letter
  have noMinus : first ≠ '-' := by
    rintro rfl
    cases letter
  simp [changedFile, Ne.symm noPlus, Ne.symm noMinus]

theorem pyStrip_append_blank {blank : List Char}
    (blanks : ∀ character ∈ blank, isPyWhitespace character = true)
    (text : List Char) :
    pyStrip (String.ofList (text ++ blank)) = pyStrip (String.ofList text) := by
  have gone : blank.dropWhile isPyWhitespace = [] := dropWhile_eq_nil_iff.mpr blanks
  have reversed : blank.reverse.dropWhile isPyWhitespace = [] :=
    dropWhile_eq_nil_iff.mpr fun character member =>
      blanks character (mem_reverse.mp member)
  unfold pyStrip
  simp only [String.toList_ofList, dropWhile_append, gone]
  split_ifs with empty
  · rw [isEmpty_iff.mp empty]
  · rw [reverse_append, dropWhile_append, reversed]
    simp

def IsSide (marker root : List Char) : Prop :=
  (marker = "--- ".toList ∧ root = "a/".toList) ∨
    (marker = "+++ ".toList ∧ root = "b/".toList)

theorem readsAsHeader_nameLine {marker root : List Char} (side : IsSide marker root)
    (name : Option String) :
    ReadsAsHeader (FileChange.nameLine marker root name) path ↔
      ∃ known ∈ name, isPlainName known = true ∧ pyStrip known = path := by
  have markerLine : Mermaid.InLine marker ∧ Mermaid.InLine root := by
    rcases side with ⟨rfl, rfl⟩ | ⟨rfl, rfl⟩
    · exact ⟨Mermaid.inLine_of_all rfl, Mermaid.inLine_of_all rfl⟩
    · exact ⟨Mermaid.inLine_of_all rfl, Mermaid.inLine_of_all rfl⟩
  cases name with
  | none =>
    have nowhere : Mermaid.InLine "/dev/null".toList := Mermaid.inLine_of_all rfl
    unfold FileChange.nameLine
    rw [readsAsHeader_iff (markerLine.1.append nowhere)]
    rcases side with ⟨rfl, rfl⟩ | ⟨rfl, rfl⟩
    · simp [changedFile]
    · simp [changedFile]
  | some name =>
    have tabLine : Mermaid.InLine
        (if ' ' ∈ label root name then ['\t'] else []) := by
      split_ifs
      · exact forall_mem_singleton.mpr rfl
      · exact forall_mem_nil _
    have blanks : ∀ character ∈
        (if ' ' ∈ label root name then ['\t'] else []),
        isPyWhitespace character = true := by
      split_ifs
      · exact forall_mem_singleton.mpr rfl
      · exact forall_mem_nil _
    unfold FileChange.nameLine
    rw [readsAsHeader_iff (markerLine.1.append ((inLine_label markerLine.2 name).append tabLine))]
    generalize (if ' ' ∈ label root name then ['\t'] else []) = tab at blanks
    have stripped := pyStrip_append_blank blanks name.toList
    rw [String.ofList_append, String.ofList_toList] at stripped
    cases plain : isPlainName name with
    | true =>
      rcases side with ⟨rfl, rfl⟩ | ⟨rfl, rfl⟩
      · simp [changedFile, label, plain, stripped]
      · simp [changedFile, label, plain, stripped]
    | false =>
      rcases side with ⟨rfl, rfl⟩ | ⟨rfl, rfl⟩
      · simp [changedFile, label, plain]
      · simp [changedFile, label, plain]

theorem not_readsAsHeader_worded {word rest : List Char} (wordLine : Mermaid.InLine word)
    (begins : ∃ first ∈ word.head?, first.isAlpha = true)
    (restLine : Mermaid.InLine rest) :
    ¬ ReadsAsHeader (word ++ rest) path := by
  refine not_readsAsHeader_of_letter (wordLine.append restLine) ?_
  obtain ⟨first, member, letter⟩ := begins
  refine ⟨first, ?_, letter⟩
  rw [head?_append, member]
  rfl

theorem not_readsAsHeader_headerLines (listed : line ∈ change.headerLines) :
    ¬ ReadsAsHeader line path := by
  have root (name : String) : Mermaid.InLine (label [] name) :=
    inLine_label (forall_mem_nil _) name
  rcases mem_cons.mp listed with rfl | listed
  · refine not_readsAsHeader_worded (Mermaid.inLine_of_all rfl) ⟨'d', rfl, rfl⟩
      ((inLine_label (Mermaid.inLine_of_all rfl) _).append
        (forall_mem_cons.mpr ⟨rfl, inLine_label (Mermaid.inLine_of_all rfl) _⟩))
  · rcases mem_append.mp listed with listed | listed
    · obtain ⟨header, _, rfl⟩ := mem_map.mp listed
      exact not_readsAsHeader_of_letter header.inLine header.begins
    · cases action : change.action with
      | renamed source target =>
        simp only [action, Action.renameLines, mem_cons, not_mem_nil, or_false] at listed
        rcases listed with rfl | rfl
        · exact not_readsAsHeader_worded (Mermaid.inLine_of_all rfl) ⟨'r', rfl, rfl⟩ (root source)
        · exact not_readsAsHeader_worded (Mermaid.inLine_of_all rfl) ⟨'r', rfl, rfl⟩ (root target)
      | added _ | deleted _ | modified _ => simp [action, Action.renameLines] at listed

theorem not_readsAsHeader_binary (source target : Option String) :
    ¬ ReadsAsHeader ("Binary files ".toList ++
      (FileChange.sideLabel "a/".toList source ++ (" and ".toList ++
        (FileChange.sideLabel "b/".toList target ++ " differ".toList))))
      path := by
  have side (root : List Char) (rootLine : Mermaid.InLine root) (name : Option String) :
      Mermaid.InLine (FileChange.sideLabel root name) := by
    cases name with
    | none => exact Mermaid.inLine_of_all rfl
    | some name => exact inLine_label rootLine name
  exact not_readsAsHeader_worded (Mermaid.inLine_of_all rfl) ⟨'B', rfl, rfl⟩
    ((side _ (Mermaid.inLine_of_all rfl) source).append ((Mermaid.inLine_of_all rfl).append
      ((side _ (Mermaid.inLine_of_all rfl) target).append (Mermaid.inLine_of_all rfl))))

theorem readsAsHeader_lines_iff :
    (∃ line ∈ change.lines, ReadsAsHeader line path) ↔ ∃ hunkLines, change.body = .hunks hunkLines ∧
        ((∃ name ∈ change.action.names, isPlainName name = true ∧ pyStrip name = path) ∨
          ∃ hunkLine ∈ hunkLines, ReadsAsHeader hunkLine.line path) := by
  have split :
      (∃ line ∈ change.lines, ReadsAsHeader line path) ↔
        ∃ line ∈ change.bodyLines, ReadsAsHeader line path := by
    constructor
    · rintro ⟨line, listed, reads⟩
      rcases mem_append.mp listed with listed | listed
      · exact absurd reads (not_readsAsHeader_headerLines listed)
      · exact ⟨line, listed, reads⟩
    · rintro ⟨line, listed, reads⟩
      exact ⟨line, mem_append_right _ listed, reads⟩
  rw [split]
  unfold FileChange.bodyLines
  cases body : change.body with
  | empty => simp
  | binary =>
    have other := @not_readsAsHeader_binary path change.action.source
      change.action.target
    simp only [exists_mem_cons_iff, other, not_mem_nil]
    simp
  | hunks hunkLines =>
    have source := @readsAsHeader_nameLine path _ _ (.inl ⟨rfl, rfl⟩)
      change.action.source
    have target := @readsAsHeader_nameLine path _ _ (.inr ⟨rfl, rfl⟩)
      change.action.target
    have names :
        (∃ name ∈ change.action.names, isPlainName name = true ∧ pyStrip name = path) ↔
          (∃ name ∈ change.action.source, isPlainName name = true ∧ pyStrip name = path) ∨
          ∃ name ∈ change.action.target, isPlainName name = true ∧ pyStrip name = path := by
      simp only [Action.names, mem_append, Option.mem_toList, or_and_right,
        exists_or, Option.mem_def]
    have inHunks :
        (∃ line ∈ hunkLines.map HunkLine.line, ReadsAsHeader line path) ↔
          ∃ hunkLine ∈ hunkLines, ReadsAsHeader hunkLine.line path := by
      simp only [mem_map, exists_exists_and_eq_and]
    rw [exists_mem_cons_iff, exists_mem_cons_iff, source, target, inHunks, ← or_assoc, ← names]
    simp

theorem mem_changedFiles_text :
    path ∈ changedFiles (GitDiff.text changes) ↔ Shown changes path := by
  rw [mem_changedFiles_iff]
  unfold Shown
  simp only [readsAsHeader_lines_iff]

end

/-! ## The verdict -/

def Blocks (parsed result : Review) (text path : String) : Prop :=
  result.shipReady = false ∧ ∃ added, result.issues = parsed.issues ++ added ∧
      forbiddenIssue path (pyStrip text) ∈ added

theorem enforceNonNegotiables_issues
    (parsed : Review) (nonNegotiables : List String) (diffText : String) :
    (enforceNonNegotiables parsed nonNegotiables diffText).issues = parsed.issues ++
        nonNegotiables.flatMap (itemIssues (changedFiles diffText)) := by
  unfold enforceNonNegotiables
  split_ifs with none
  · simp [none]
  · rfl

theorem blocks_iff {parsed : Review} {nonNegotiables : List String} {diffText : String} :
    Blocks parsed (enforceNonNegotiables parsed nonNegotiables diffText) text path ↔
      forbiddenIssue path (pyStrip text) ∈
        nonNegotiables.flatMap (itemIssues (changedFiles diffText)) := by
  have issues := enforceNonNegotiables_issues parsed nonNegotiables diffText
  constructor
  · rintro ⟨_, _, shape, member⟩
    rw [issues] at shape
    rwa [append_cancel_left shape]
  · intro member
    refine ⟨?_, _, issues, member⟩
    have nonempty : nonNegotiables ≠ [] := by
      rintro rfl
      cases member
    unfold enforceNonNegotiables
    rw [if_neg nonempty]
    exact if_neg (ne_nil_of_mem member)

theorem forbiddenIssue_ne_missingIssue (path text other further : String) :
    forbiddenIssue path text ≠ missingIssue other further := by
  intro same
  have described := congrArg (fun issue => issue.description.toList) same
  simp [forbiddenIssue, missingIssue] at described

theorem ReadablePath.visible {path : List Char} (readable : ReadablePath path) :
    ∀ character ∈ path, isPyWhitespace character = false := by
  intro character member
  cases space : isPyWhitespace character with
  | false => rfl
  | true =>
    have delimiter : isDelimiter character = true := by simp [isDelimiter, space]
    have other := isPathCharacter_of_delimiter delimiter
    rw [readable.characters character member] at other
    cases other

theorem ReadablePath.stripped (readable : ReadablePath path.toList) :
    pyStrip path = path ∧ path ≠ "" := by
  refine ⟨pyStrip_of_visible readable.visible, ?_⟩
  rintro rfl
  exact readable.ne_nil rfl

theorem mem_itemIssues (names : Names text path)
    (forbids : mentionsAny forbiddingPhrases text = true)
    (readable : ReadablePath path.toList) (touched : path ∈ changed) :
    forbiddenIssue path (pyStrip text) ∈ itemIssues changed text := by
  obtain ⟨stripped, nonempty⟩ := readable.stripped
  have forbidden := mentionsAny_strip forbids
  have found := (mem_pathMatches_iff names.strip).mpr readable
  have visible : pyStrip text ≠ "" := by
    intro empty
    rw [empty] at forbidden
    cases forbidden
  unfold itemIssues
  rw [if_neg visible]
  refine mem_flatMap.mpr ⟨path, found, ?_⟩
  unfold pathIssues
  simp [stripped, nonempty, forbidden, touched]

theorem readable_of_mem_itemIssues {item : String}
    (member : forbiddenIssue path text ∈ itemIssues changed item) :
    ReadablePath path.toList ∧ path ∈ changed := by
  unfold itemIssues at member
  dsimp only at member
  split_ifs at member with empty
  · cases member
  · obtain ⟨found, matched, issued⟩ := mem_flatMap.mp member
    have readable := readable_of_mem_pathMatches matched
    obtain ⟨stripped, nonempty⟩ := readable.stripped
    unfold pathIssues at issued
    rw [stripped, if_neg nonempty] at issued
    rcases mem_append.mp issued with issued | issued
    · split_ifs at issued with forbidden
      · have same := mem_singleton.mp issued
        have files : path = found := congrArg ReviewIssue.file same
        subst files
        exact ⟨readable, forbidden.2⟩
      · cases issued
    · split_ifs at issued with missing
      · exact absurd (mem_singleton.mp issued) (forbiddenIssue_ne_missingIssue _ _ _ _)
      · cases issued

/-- Every forbidden file that the diff touches is blocked exactly if the paths
of such files are readable and the diff shows them. -/
theorem enforceNonNegotiables_blocks_iff (parsed : Review) (nonNegotiables : List String)
    (changes : List FileChange) :
    (∀ text ∈ nonNegotiables, ∀ path, mentionsAny forbiddingPhrases text = true → Names text path →
          Touches changes path → Blocks parsed (enforceNonNegotiables parsed nonNegotiables
                (GitDiff.text changes)) text path) ↔
      ∀ text ∈ nonNegotiables, ∀ path, mentionsAny forbiddingPhrases text = true → Names text path →
          Touches changes path → ReadablePath path.toList ∧ Shown changes path := by
  refine forall₂_congr fun text listed => forall_congr' fun path =>
    forall₃_congr fun forbids names _ => ?_
  rw [blocks_iff, ← mem_changedFiles_text]
  constructor
  · intro member
    obtain ⟨_, _, issued⟩ := mem_flatMap.mp member
    exact readable_of_mem_itemIssues issued
  · rintro ⟨readable, touched⟩
    exact mem_flatMap.mpr ⟨text, listed, mem_itemIssues names forbids readable touched⟩

def componentChange : FileChange where
  action := .modified "src/app.tsx"
  body := .hunks
    [⟨.range, "@ -1 +1 @@".toList⟩, ⟨.removed, "old".toList⟩, ⟨.added, "new".toList⟩]

theorem component_not_blocked :
    ¬ ∀ (parsed : Review) (nonNegotiables : List String) (changes : List FileChange),
      ∀ text ∈ nonNegotiables, ∀ path, mentionsAny forbiddingPhrases text = true → Names text path →
          Touches changes path → Blocks parsed (enforceNonNegotiables parsed nonNegotiables
                (GitDiff.text changes)) text path := by
  intro blocks
  have names : Names "Do not touch src/app.tsx" "src/app.tsx" := by
    have plain : ("src/app.tsx".toList.all fun character =>
        !isDelimiter character) = true := by
      decide
    refine ⟨⟨"Do not touch ".toList, [], by decide, ?_, by simp⟩, ?_,
      "src/app".toList, "tsx", by decide, by decide⟩
    · rintro _ ⟨⟩
      rfl
    · intro character member
      simpa using all_eq_true.mp plain character member
  have blocked := blocks ⟨[], true, ""⟩ ["Do not touch src/app.tsx"]
    [componentChange] _ (mem_singleton.mpr rfl) _ (by decide) names
    ⟨componentChange, mem_singleton.mpr rfl, by decide⟩
  have passed : (enforceNonNegotiables ⟨[], true, ""⟩ ["Do not touch src/app.tsx"]
      (GitDiff.text [componentChange])).shipReady = true := by
    decide +kernel
  rw [blocked.1] at passed
  cases passed

end SelfReview

end AccruviaHarness
