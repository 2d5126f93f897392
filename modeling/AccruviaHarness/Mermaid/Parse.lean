import AccruviaHarness.Mermaid.Render

/-!
# Reading a flowchart

`_parse_mermaid` reads a text line by line. Its regular expressions are
scanners over the characters of a line: each of them can match in one way
only, so that no scanner goes back.
-/

namespace AccruviaHarness

namespace Mermaid

/-- The characters at which `str.splitlines` ends a line. -/
def isLineBreak (character : Char) : Bool :=
  let code := character.toNat
  (10 ≤ code && code ≤ 13) || (28 ≤ code && code ≤ 30) || code == 0x85 ||
    code == 0x2028 || code == 0x2029

def splitLines : List Char → List (List Char)
  | [] => []
  | '\r' :: '\n' :: rest => [] :: splitLines rest
  | character :: rest =>
    if isLineBreak character then [] :: splitLines rest
    else
      match splitLines rest with
      | [] => [[character]]
      | line :: lines => (character :: line) :: lines

def strip (characters : List Char) : List Char :=
  ((characters.dropWhile isPyWhitespace).reverse.dropWhile isPyWhitespace).reverse

/-- `[A-Za-z_]`. -/
def isIdentifierStart (character : Char) : Bool := character.isAlpha || character == '_'

/-- `[A-Za-z0-9_]`. -/
def isIdentifierPart (character : Char) : Bool := character.isAlphanum || character == '_'

def isIdentifier : List Char → Bool
  | [] => false
  | first :: rest => isIdentifierStart first && rest.all isIdentifierPart

/-- `[A-Za-z_][A-Za-z0-9_]*` at the start of the characters, and the
characters after it. -/
def scanIdentifier : List Char → Option (String × List Char)
  | [] => none
  | first :: rest =>
    if isIdentifierStart first then
      some (String.ofList (first :: rest.takeWhile isIdentifierPart),
        rest.dropWhile isIdentifierPart)
    else none

def scanUntil (closing : List Char) (stop : Char) (characters : List Char) : Option (List Char) :=
  if closing.isPrefixOf (characters.dropWhile fun other => other ≠ stop) then
    some (characters.takeWhile fun other => other ≠ stop)
  else none

/-- The bracketed label of `_NODE_DECL_RE`. -/
def scanLabel : List Char → Option (List Char)
  | '[' :: '"' :: rest => (scanUntil ['"', ']'] '"' rest).or (scanUntil [']'] ']' ('"' :: rest))
  | '[' :: rest => scanUntil [']'] ']' rest
  | '(' :: rest => scanUntil [')'] ')' rest
  | '\x7b' :: rest => scanUntil ['\x7d'] '\x7d' rest
  | _ => none

/-- `_NODE_DECL_RE`: the declared node with its stripped label. -/
def nodeDeclaration (line : List Char) : Option (String × String) := do
  let (id, rest) ← scanIdentifier line
  let label ← scanLabel (rest.dropWhile isPyWhitespace)
  return (id, String.ofList (strip label))

/-- `>?` -/
def dropArrowHead : List Char → List Char
  | '>' :: rest => rest
  | rest => rest

def scanArrowHead (drawn : Char) (characters : List Char) : Option (List Char) :=
  match characters.dropWhile fun other => other = drawn with
  | '>' :: rest => some rest
  | _ => none

/-- `(?:--+>|==+>|-\.->?|~~~>?)`, with the characters after it. -/
def scanArrow : List Char → Option (List Char)
  | '-' :: '-' :: rest => scanArrowHead '-' rest
  | '=' :: '=' :: rest => scanArrowHead '=' rest
  | '-' :: '.' :: '-' :: rest => some (dropArrowHead rest)
  | '~' :: '~' :: '~' :: rest => some (dropArrowHead rest)
  | _ => none

/-- `(?:\|[^|]*\|\s*)?`, with the characters after it. -/
def skipEdgeLabel : List Char → List Char
  | '|' :: rest =>
    match rest.dropWhile fun other => other ≠ '|' with
    | _ :: after => after.dropWhile isPyWhitespace
    | [] => '|' :: rest
  | rest => rest

/-- `_EDGE_RE` at the start of the characters, and the characters after
it. -/
def scanEdge (characters : List Char) : Option (Edge × List Char) := do
  let (source, rest) ← scanIdentifier characters
  let rest ← scanArrow (rest.dropWhile isPyWhitespace)
  let (target, rest) ←
    scanIdentifier (skipEdgeLabel (rest.dropWhile isPyWhitespace))
  return ((source, target), rest)

/-- `_EDGE_RE.finditer`: a search goes on after each match. The fuel counts
the characters, of which each step takes one at least. -/
def findEdgesWithin : Nat → List Char → List Edge
  | 0, _ => []
  | _ + 1, [] => []
  | fuel + 1, character :: rest =>
    match scanEdge (character :: rest) with
    | some (edge, after) => edge :: findEdgesWithin fuel after
    | none => findEdgesWithin fuel rest

def findEdges (line : List Char) : List Edge := findEdgesWithin line.length line

/-- A lower-case letter of a pattern under `re.IGNORECASE`. Of the letters of
the patterns only `i` and `s` have variants outside ASCII. -/
def matchesLetter (letter character : Char) : Bool :=
  character.toLower == letter || (letter == 'i' && (character == 'İ' || character == 'ı')) ||
      (letter == 's' && character == 'ſ')

def scanWord : List Char → List Char → Option (List Char)
  | [], characters => some characters
  | letter :: word, character :: characters =>
    if matchesLetter letter character then scanWord word characters
    else none
  | _ :: _, [] => none

/-- `_NONFLOW_RE.match`. -/
def isNonFlow (line : List Char) : Bool :=
  ["statediagram", "sequencediagram", "classdiagram", "erdiagram", "gantt",
    "pie", "journey"].any fun word => (scanWord word.toList line).isSome

/-- `_HEADER_RE.match`, with the direction. `isWord` says which characters
the word boundary after it counts as parts of a word. -/
def headerDirection (isWord : Char → Bool) (line : List Char) : Option String :=
  (((scanWord "flowchart".toList line).or
    (scanWord "graph".toList line)).filter fun rest =>
      rest.head?.any isPyWhitespace).bind fun rest =>
        ["TD", "TB", "BT", "LR", "RL"].find? fun direction =>
          match scanWord (direction.toList.map Char.toLower)
            (rest.dropWhile isPyWhitespace) with
          | some after => !after.head?.any isWord
          | none => false

def isSkipped (line : List Char) : Bool :=
  "subgraph".toList.isPrefixOf line || line == "end".toList ||
    ["classDef", "class ", "style ", "linkStyle", "click "].any fun word =>
      word.toList.isPrefixOf line

/-- What has been read so far. `stopped` stands for the early return at a
line of another kind of diagram. -/
structure Parsed where
  direction : String := "TD"
  nodes : List (String × String) := []
  edges : List Edge := []
  errors : List String := []
  sawHeader : Bool := false
  stopped : Bool := false
  deriving DecidableEq, Repr

namespace Parsed

variable (parsed : Parsed)

def nodeIds : List String := parsed.nodes.map Prod.fst

def declare (declaration : Option (String × String)) :
    Parsed :=
  match declaration with
  | none => parsed
  | some (id, label) =>
    if id ∈ parsed.nodeIds then
      { parsed with
        errors := parsed.errors ++ ["duplicate node declaration: " ++ id] }
    else { parsed with nodes := parsed.nodes ++ [(id, label)] }

def addEdges (edges : List Edge) : Parsed := { parsed with edges := parsed.edges ++ edges }

@[simp]
theorem addEdges_nodeIds (edges : List Edge) :
    (parsed.addEdges edges).nodeIds = parsed.nodeIds := rfl

@[simp]
theorem addEdges_errors (edges : List Edge) :
    (parsed.addEdges edges).errors = parsed.errors := rfl

@[simp]
theorem addEdges_edges (edges : List Edge) :
    (parsed.addEdges edges).edges = parsed.edges ++ edges := rfl

variable (isWord : Char → Bool)

def readLine (parsed : Parsed) (raw : List Char) :
    Parsed :=
  let line := strip raw
  if parsed.stopped then parsed
  else if line = [] ∨ "%%".toList.isPrefixOf line then parsed
  else if isNonFlow line then
    { parsed with
      errors := parsed.errors ++
        ["non-flowchart diagram type: " ++
          String.ofList (line.takeWhile fun other => !isPyWhitespace other) ++
          "; only flowchart is supported"]
      stopped := true }
  else
    match headerDirection isWord line with
    | some direction => { parsed with direction, sawHeader := true }
    | none =>
      if isSkipped line then parsed
      else (parsed.declare (nodeDeclaration line)).addEdges (findEdges line)

def readLines (parsed : Parsed) (lines : List (List Char)) : Parsed :=
  lines.foldl (readLine isWord) parsed

def finish : Parsed :=
  if parsed.stopped ∨ parsed.sawHeader then parsed
  else { parsed with errors := parsed.errors ++ ["missing flowchart header"] }

end Parsed

def isFence (line : List Char) : Bool := "```".toList.isPrefixOf line

def withoutFence : List (List Char) → List (List Char)
  | [] => []
  | first :: rest =>
    if isFence first then
      match rest.getLast? with
      | some last => if isFence last then rest.dropLast else rest
      | none => rest
    else first :: rest

def parseMermaid (isWord : Char → Bool) (text : String) : Parsed :=
  (Parsed.readLines isWord {} (withoutFence (splitLines (strip text.toList)))).finish

theorem isIdentifier_of_scanIdentifier {characters : List Char} {id : String} {rest : List Char}
    (scanned : scanIdentifier characters = some (id, rest)) :
    isIdentifier id.toList = true := by
  cases characters with
  | nil => cases scanned
  | cons first _ =>
    rw [scanIdentifier] at scanned
    by_cases start : isIdentifierStart first = true
    · rw [if_pos start] at scanned
      cases scanned
      rw [String.toList_ofList]
      simp only [isIdentifier, start, List.all_takeWhile, Bool.and_self]
    · rw [if_neg start] at scanned
      cases scanned

theorem isIdentifier_of_nodeDeclaration {line : List Char} {id label : String}
    (declared : nodeDeclaration line = some (id, label)) :
    isIdentifier id.toList = true := by
  unfold nodeDeclaration at declared
  obtain ⟨⟨_, _⟩, scanned, declared⟩ := Option.bind_eq_some_iff.mp declared
  obtain ⟨_, _, declared⟩ := Option.bind_eq_some_iff.mp declared
  cases declared
  exact isIdentifier_of_scanIdentifier scanned

namespace Parsed

/-- What the reader keeps at every line: a node is declared once, under an
identifier, and it stops with an error only. -/
structure WellFormed (parsed : Parsed) : Prop where
  distinct : parsed.nodeIds.Nodup
  identifiers : ∀ id ∈ parsed.nodeIds, isIdentifier id.toList = true
  stops : parsed.stopped = true → parsed.errors ≠ []

variable {parsed : Parsed}

theorem declare_wellFormed {declaration : Option (String × String)} (wellFormed : parsed.WellFormed)
    (identifier : ∀ id label, declaration = some (id, label) → isIdentifier id.toList = true) :
    (parsed.declare declaration).WellFormed := by
  unfold declare
  split
  · exact wellFormed
  next id label =>
    split
    · exact ⟨wellFormed.distinct, wellFormed.identifiers, fun _ => by simp⟩
    next fresh =>
      have ids : ({ parsed with nodes := parsed.nodes ++ [(id, label)] }
          : Parsed).nodeIds = parsed.nodeIds.concat id := by
        simp [nodeIds]
      refine ⟨?distinct, ?identifiers, wellFormed.stops⟩
      case distinct =>
        rw [ids]
        exact wellFormed.distinct.concat fresh
      case identifiers =>
        intro other member
        rw [ids, List.concat_eq_append, List.mem_append, List.mem_singleton] at member
        rcases member with earlier | rfl
        · exact wellFormed.identifiers other earlier
        · exact identifier other label rfl

theorem readLine_wellFormed {isWord : Char → Bool} (raw : List Char)
    (wellFormed : parsed.WellFormed) :
    (parsed.readLine isWord raw).WellFormed := by
  unfold readLine
  dsimp only
  split
  · exact wellFormed
  · split
    · exact wellFormed
    · split
      · exact ⟨wellFormed.distinct, wellFormed.identifiers, fun _ => by simp⟩
      · split
        · exact ⟨wellFormed.distinct, wellFormed.identifiers, wellFormed.stops⟩
        · split
          · exact wellFormed
          · have declared : (parsed.declare (nodeDeclaration (strip raw))).WellFormed :=
              declare_wellFormed wellFormed fun _ _ found => isIdentifier_of_nodeDeclaration found
            exact ⟨declared.distinct, declared.identifiers, declared.stops⟩

theorem readLines_wellFormed {isWord : Char → Bool} (lines : List (List Char))
    (wellFormed : parsed.WellFormed) :
    (parsed.readLines isWord lines).WellFormed := by
  induction lines generalizing parsed with
  | nil => exact wellFormed
  | cons line _ ih => exact ih (readLine_wellFormed line wellFormed)

theorem finish_wellFormed (wellFormed : parsed.WellFormed) :
    parsed.finish.WellFormed := by
  unfold finish
  split
  · exact wellFormed
  · exact ⟨wellFormed.distinct, wellFormed.identifiers, fun _ => by simp⟩

end Parsed

theorem parseMermaid_wellFormed (isWord : Char → Bool) (text : String) :
    (parseMermaid isWord text).WellFormed := by
  have empty : Parsed.WellFormed {} := ⟨List.nodup_nil, nofun, nofun⟩
  exact Parsed.finish_wellFormed (Parsed.readLines_wellFormed _ empty)

end Mermaid

end AccruviaHarness
