import AccruviaHarness.Library.Scanning
import AccruviaHarness.Mermaid.Lines

/-!
# The review of a diff

A review is checked against the non-negotiables of the operator. The paths of
files are found in the text of a non-negotiable, the changed files in the
headers of the diff.
-/

namespace AccruviaHarness

namespace SelfReview

open Library

/-! ## Changed files -/

def changedFile (line : List Char) : Option String :=
  if "+++ b/".toList.isPrefixOf line || "--- a/".toList.isPrefixOf line then
    some (pyStrip (String.ofList (line.drop 6)))
  else none

def changedFiles (diffText : String) : List String :=
  (Mermaid.splitLines diffText.toList).filterMap changedFile

/-! ## Paths in a text -/

/-- An ASCII letter or digit, or one of `_`, `.`, `/` and `-`. -/
def isPathCharacter (character : Char) : Bool :=
  character.isAlphanum || character = '_' || character = '.' ||
    character = '/' || character = '-'

def pathExtensions : List String :=
  ["py", "ts", "js", "tsx", "jsx", "md", "yaml", "yml", "toml", "txt"]

/-- `\.(?:py|ts|js|tsx|jsx|md|yaml|yml|toml|txt)`: the first that there is. -/
def scanExtension : List Char → Option (List Char × List Char)
  | '.' :: rest =>
    pathExtensions.findSome? fun extension =>
      if extension.toList.isPrefixOf rest then
        some ('.' :: extension.toList, rest.drop extension.toList.length)
      else none
  | _ => none

def scanPath : List Char → Option (List Char × List Char)
  | [] => none
  | character :: rest =>
    if isPathCharacter character then
      ((scanPath rest).or (scanExtension rest)).map fun (path, after) => (character :: path, after)
    else none

def dropTick : List Char → List Char
  | '\x60' :: rest => rest
  | characters => characters

def scanMention (characters : List Char) : Option (String × List Char) :=
  (scanPath (dropTick characters)).map fun (path, after) => (String.ofList path, dropTick after)

variable {characters path rest : List Char}

theorem length_scanExtension (scanned : scanExtension characters = some (path, rest)) :
    rest.length ≤ characters.length := by
  unfold scanExtension at scanned
  split at scanned
  next tail =>
    obtain ⟨_, _, found⟩ := List.exists_of_findSome?_eq_some scanned
    split_ifs at found
    cases found
    rw [List.length_drop, List.length_cons]
    omega
  · cases scanned

theorem length_scanPath (scanned : scanPath characters = some (path, rest)) :
    rest.length < characters.length := by
  induction characters generalizing path with
  | nil => cases scanned
  | cons _ _ ih =>
    rw [scanPath] at scanned
    split_ifs at scanned
    rw [Option.map_eq_some_iff] at scanned
    obtain ⟨⟨_, _⟩, found, same⟩ := scanned
    cases same
    rw [List.length_cons]
    rcases Option.or_eq_some_iff.mp found with found | ⟨_, found⟩
    · exact (ih found).trans (Nat.lt_succ_self _)
    · exact Nat.lt_succ_of_le (length_scanExtension found)

theorem length_dropTick (characters : List Char) :
    (dropTick characters).length ≤ characters.length := by
  unfold dropTick
  split
  · exact Nat.le_succ _
  · exact le_rfl

def mentionScanner : Scanner Char String where
  scan := scanMention
  consumes := by
    intro characters path rest scanned
    unfold scanMention at scanned
    rw [Option.map_eq_some_iff] at scanned
    obtain ⟨⟨found, after⟩, read, same⟩ := scanned
    cases same
    have shorter := length_scanPath read
    have before := length_dropTick characters
    have behind := length_dropTick after
    omega

/-- `findall`. -/
def pathMatches (text : String) : List String := (mentionScanner.findAll text.toList).map Prod.snd

/-! ## The check -/

def forbiddingPhrases : List String :=
  ["must not", "should not", "forbidden", "outside", "never", "do not touch"]

def requiringPhrases : List String :=
  ["must be in", "must have", "must add", "add to", "must modify",
    "in this file", "only modify", "in "]

def mentionsAny (phrases : List String) (text : String) : Bool :=
  phrases.any fun phrase => decide (phrase.toList <:+: (lowerAscii text).toList)

structure ReviewIssue where
  severity : String
  file : String
  description : String
  deriving DecidableEq, Repr

structure Review where
  issues : List ReviewIssue
  shipReady : Bool
  summary : String
  deriving DecidableEq, Repr

def forbiddenIssue (path text : String) : ReviewIssue where
  severity := "blocker"
  file := path
  description :=
    "NON_NEGOTIABLE VIOLATED: diff touches forbidden path '" ++ path ++ "' (" ++ text ++ ")"

def missingIssue (path text : String) : ReviewIssue where
  severity := "blocker"
  file := path
  description :=
    "NON_NEGOTIABLE VIOLATED: diff does not touch required path '" ++ path ++ "' (" ++ text ++ ")"

def pathIssues (text : String) (changed : List String) (found : String) : List ReviewIssue :=
  let path := pyStrip found
  if path = "" then []
  else
    let forbidden := mentionsAny forbiddingPhrases text
    let required := mentionsAny requiringPhrases text
    (if forbidden ∧ path ∈ changed then [forbiddenIssue path text] else []) ++
      (if required ∧ ¬ forbidden ∧ path ∉ changed then [missingIssue path text]
      else [])

def itemIssues (changed : List String) (item : String) : List ReviewIssue :=
  let text := pyStrip item
  if text = "" then []
  else (pathMatches text).flatMap (pathIssues text changed)

def enforceNonNegotiables (parsed : Review) (nonNegotiables : List String)
    (diffText : String) : Review :=
  if nonNegotiables = [] then parsed
  else
    let violations := nonNegotiables.flatMap (itemIssues (changedFiles diffText))
    { parsed with
      issues := parsed.issues ++ violations
      shipReady := if violations = [] then parsed.shipReady else false }

end SelfReview

end AccruviaHarness
