import AccruviaHarness.Mermaid.Lines

/-!
# Reading a drawn text

The reader gets from a drawn text what it gets from its declarations alone, and
then the edges that are drawn after them.
-/

namespace AccruviaHarness

open List Bool

namespace Mermaid

/-! ## Lines -/

variable {rest : List Char} {character : Char} {edge : Edge}

variable {last : Char} {lines : List (List Char)} {id : String}
  {edges : List Edge} {isWord : Char → Bool} {parsed : Parsed}

theorem no_newline_ahead (tail : List Char) (visible : isPyWhitespace last = false)
    (ahead : ∀ after, rest ≠ '\n' :: after) (after : List Char) :
    rest ++ last :: tail ≠ '\n' :: after := by
  intro same
  cases rest with
  | nil =>
    obtain rfl : last = '\n' := (List.cons.inj same).1
    cases visible
  | cons first rest =>
    obtain rfl : first = '\n' := (List.cons.inj same).1
    exact ahead rest rfl

theorem splitLines_visible_newline (visible : isPyWhitespace last = false)
    (front tail : List Char) :
    splitLines (front ++ last :: '\n' :: tail) =
      splitLines (front ++ [last]) ++ splitLines tail := by
  have noBreak := not_isLineBreak_of_visible visible
  have noReturn : last ≠ '\r' := by
    rintro rfl
    cases visible
  induction front using splitLines.induct with
  | case1 =>
    have newline : splitLines ('\n' :: tail) = [] :: splitLines tail :=
      splitLines.eq_3 _ _ (fun _ carriage => absurd carriage (by decide))
    rw [nil_append, nil_append,
      splitLines.eq_3 _ _ (fun _ carriage _ => noReturn carriage),
      if_neg noBreak, newline,
      splitLines.eq_3 _ _ (fun _ carriage _ => noReturn carriage),
      if_neg noBreak]
    rfl
  | case2 _ ih => simp only [cons_append, splitLines.eq_2, ih]
  | case3 character rest single lineBreak ih =>
    have ahead (tail : List Char) : ∀ after, character = '\r' →
        rest ++ last :: tail = '\n' :: after → False :=
      fun after carriage => no_newline_ahead tail visible
        (fun after same => single after carriage same) after
    rw [cons_append, cons_append, splitLines.eq_3 _ _ (ahead _),
      splitLines.eq_3 _ _ (ahead _), if_pos lineBreak, if_pos lineBreak,
      ih, cons_append]
  | case4 character rest single inLine _ ih
  | case5 character rest single inLine _ _ _ ih =>
    have ahead (tail : List Char) : ∀ after, character = '\r' →
        rest ++ last :: tail = '\n' :: after → False :=
      fun after carriage => no_newline_ahead tail visible
        (fun after same => single after carriage same) after
    rw [cons_append, cons_append, splitLines.eq_3 _ _ (ahead _),
      splitLines.eq_3 _ _ (ahead _), if_neg inLine, if_neg inLine,
      ih]
    cases lines : splitLines (rest ++ [last]) with
    | nil =>
      exact absurd lines (splitLines_ne_nil
        (append_ne_nil_of_right_ne_nil rest (cons_ne_nil _ _)))
    | cons _ _ => rfl

def EndsVisibly (line : List Char) : Prop :=
  ∃ front last, line = front ++ [last] ∧ isPyWhitespace last = false

theorem splitLines_intercalate (visible : ∀ line ∈ lines, EndsVisibly line) :
    splitLines (['\n'].intercalate lines) = lines.flatMap splitLines := by
  induction lines with
  | nil => rfl
  | cons _ rest ih =>
    rw [forall_mem_cons] at visible
    obtain ⟨⟨_, _, rfl, lastVisible⟩, restVisible⟩ := visible
    cases rest with
    | nil => simp
    | cons _ _ =>
      rw [intercalate_cons_cons, append_assoc, append_assoc,
        singleton_append, singleton_append,
        splitLines_visible_newline lastVisible,
        ih restVisible]
      rfl

theorem strip_of_visible {first : Char} (start : isPyWhitespace first = false)
    (ends : EndsVisibly (first :: rest)) :
    strip (first :: rest) = first :: rest := by
  obtain ⟨_, _, same, visible⟩ := ends
  unfold strip
  rw [dropWhile_cons_of_neg (by simp [start]), same, reverse_append,
    reverse_singleton, singleton_append,
    dropWhile_cons_of_neg (by simp [visible]), reverse_cons,
    reverse_reverse]

theorem endsVisibly_append (front : List Char) {line : List Char} (ends : EndsVisibly line) :
    EndsVisibly (front ++ line) := by
  obtain ⟨before, last, rfl, visible⟩ := ends
  exact ⟨front ++ before, last, (append_assoc _ _ _).symm, visible⟩

theorem endsVisibly_intercalate (nonempty : lines ≠ [])
    (visible : ∀ line ∈ lines, EndsVisibly line) :
    EndsVisibly (['\n'].intercalate lines) := by
  induction lines with
  | nil => exact absurd rfl nonempty
  | cons _ rest ih =>
    rw [forall_mem_cons] at visible
    cases rest with
    | nil =>
      rw [intercalate_singleton]
      exact visible.1
    | cons _ _ =>
      rw [intercalate_cons_cons]
      exact endsVisibly_append _ (ih (cons_ne_nil _ _) visible.2)

/-! ## Identifiers -/

theorem visible_of_identifierPart (part : isIdentifierPart character = true) :
    isPyWhitespace character = false := by
  cases space : isPyWhitespace character with
  | false => rfl
  | true =>
    exfalso
    delta isIdentifierPart Char.isAlphanum Char.isAlpha Char.isUpper
      Char.isLower Char.isDigit at part
    simp only [or_eq_true, and_eq_true, decide_eq_true_eq,
      beq_iff_eq, ge_iff_le, UInt32.le_iff_toNat_le] at part
    simp only [isPyWhitespace, or_eq_true, and_eq_true,
      decide_eq_true_eq, beq_iff_eq] at space
    rcases part with (part | part) | rfl
    · simp at part
      omega
    · simp at part
      omega
    · revert space
      decide

theorem identifierPart_of_start (start : isIdentifierStart character = true) :
    isIdentifierPart character = true := by
  simp only [isIdentifierStart, isIdentifierPart, Char.isAlphanum, or_eq_true] at start ⊢
  rcases start with letter | underscore
  · exact .inl (.inl letter)
  · exact .inr underscore

theorem visible_of_mem_identifier
    {characters : List Char} (identifier : isIdentifier characters = true)
    (member : character ∈ characters) :
    isPyWhitespace character = false := by
  cases characters with
  | nil => cases member
  | cons _ _ =>
    simp only [isIdentifier, and_eq_true, all_eq_true] at identifier
    rcases mem_cons.mp member with rfl | later
    · exact visible_of_identifierPart (identifierPart_of_start identifier.1)
    · exact visible_of_identifierPart (identifier.2 character later)

theorem scanIdentifier_of_isIdentifier (identifier : isIdentifier id.toList = true)
    (ends : ∀ first ∈ rest.head?, isIdentifierPart first = false) :
    scanIdentifier (id.toList ++ rest) = some (id, rest) := by
  cases characters : id.toList with
  | nil =>
    rw [characters] at identifier
    cases identifier
  | cons _ _ =>
    rw [characters] at identifier
    simp only [isIdentifier, and_eq_true, all_eq_true] at identifier
    obtain ⟨start, parts⟩ := identifier
    have stops : rest.takeWhile isIdentifierPart = [] ∧ rest.dropWhile isIdentifierPart = rest := by
      cases rest with
      | nil => exact ⟨rfl, rfl⟩
      | cons next _ =>
        have other := ends next rfl
        rw [takeWhile_cons_of_neg (by simp [other]),
          dropWhile_cons_of_neg (by simp [other])]
        exact ⟨rfl, rfl⟩
    rw [cons_append, scanIdentifier, if_pos start,
      takeWhile_append_of_pos parts, dropWhile_append_of_pos parts,
      stops.1, stops.2, append_nil, ← characters, String.ofList_toList]

/-! ## Lines of statements -/

def IsDrawnId (id : String) : Prop :=
  isIdentifier id.toList = true ∧ (id = objectiveNodeId ∨ ∃ planId, id = canonicalNodeId planId)

def edgeText (edge : Edge) : List Char :=
  edge.1.toList ++ ' ' :: '-' :: '-' :: '>' :: ' ' :: edge.2.toList

theorem skipEdgeLabel_identifier (identifier : isIdentifier id.toList = true) :
    skipEdgeLabel ((' ' :: id.toList).dropWhile isPyWhitespace) =
      id.toList := by
  cases characters : id.toList with
  | nil =>
    rw [characters] at identifier
    cases identifier
  | cons first _ =>
    rw [characters] at identifier
    have start : isIdentifierStart first = true := by
      simp only [isIdentifier, and_eq_true] at identifier
      exact identifier.1
    have visible : isPyWhitespace first = false :=
      visible_of_identifierPart (identifierPart_of_start start)
    have noLabel : first ≠ '|' := by
      rintro rfl
      revert start
      decide
    have blank : isPyWhitespace ' ' = true := rfl
    rw [dropWhile_cons_of_pos blank, dropWhile_cons_of_neg (by simp [visible])]
    unfold skipEdgeLabel
    split
    next same => exact absurd (List.cons.inj same).1 noLabel
    · rfl

theorem scanEdge_edgeText (source : IsDrawnId edge.1) (target : IsDrawnId edge.2) :
    scanEdge (edgeText edge) = some (edge, []) := by
  have first : scanIdentifier (edgeText edge) =
      some (edge.1, ' ' :: '-' :: '-' :: '>' :: ' ' :: edge.2.toList) :=
    scanIdentifier_of_isIdentifier source.1 (by
      rintro _ ⟨⟩
      rfl)
  have arrow : scanArrow ((' ' :: '-' :: '-' :: '>' :: ' ' ::
      edge.2.toList).dropWhile isPyWhitespace) = some (' ' :: edge.2.toList) := rfl
  have second : scanIdentifier edge.2.toList = some (edge.2, []) := by
    have scanned := scanIdentifier_of_isIdentifier target.1
      (show ∀ first ∈ ([] : List Char).head?, isIdentifierPart first = false from nofun)
    rwa [append_nil] at scanned
  unfold scanEdge
  rw [first, Option.bind_eq_bind, Option.bind_some]
  dsimp only
  rw [arrow, Option.bind_eq_bind, Option.bind_some, skipEdgeLabel_identifier target.1, second]
  rfl

theorem nodeDeclaration_edgeText (source : IsDrawnId edge.1) :
    nodeDeclaration (edgeText edge) = none := by
  have first : scanIdentifier (edgeText edge) =
      some (edge.1, ' ' :: '-' :: '-' :: '>' :: ' ' :: edge.2.toList) :=
    scanIdentifier_of_isIdentifier source.1 (by
      rintro _ ⟨⟩
      rfl)
  unfold nodeDeclaration
  rw [first]
  rfl

theorem findEdges_edgeText (source : IsDrawnId edge.1) (target : IsDrawnId edge.2) :
    findEdges (edgeText edge) = [edge] := by
  have scanned := scanEdge_edgeText source target
  unfold findEdges
  cases characters : edgeText edge with
  | nil =>
    rw [characters] at scanned
    cases scanned
  | cons _ rest =>
    rw [characters] at scanned
    rw [length_cons, findEdgesWithin, scanned]
    cases rest.length with
    | zero => rfl
    | succ _ => rfl

theorem edgeText_head (source : IsDrawnId edge.1) :
    ∃ tail, edgeText edge = 'O' :: tail ∨ edgeText edge = 'P' :: '_' :: tail := by
  unfold edgeText
  rcases source.2 with objective | ⟨_, canonical⟩
  · rw [objective]
    exact ⟨_, .inl rfl⟩
  · rw [canonical, canonicalNodeId, String.toList_append]
    exact ⟨_, .inr rfl⟩

theorem edgeText_endsVisibly (target : IsDrawnId edge.2) : EndsVisibly (edgeText edge) := by
  have nonempty : edge.2.toList ≠ [] := by
    intro empty
    have identifier := target.1
    rw [empty] at identifier
    cases identifier
  have ends : EndsVisibly edge.2.toList := by
    refine ⟨_, _, (dropLast_append_getLast nonempty).symm, ?_⟩
    exact visible_of_mem_identifier target.1 (getLast_mem nonempty)
  have front := endsVisibly_append (edge.1.toList ++ [' ', '-', '-', '>', ' ']) ends
  rwa [append_assoc] at front

theorem edgeStatement_line (edge : Edge) :
    (edgeStatement edge).line.toList = ' ' :: ' ' :: ' ' :: ' ' :: edgeText edge := by
  unfold edgeStatement Statement.line edgeText
  rw [String.toList_append, String.toList_append, String.toList_append, append_assoc]
  rfl

theorem strip_edgeStatement (source : IsDrawnId edge.1) (target : IsDrawnId edge.2) :
    strip (edgeStatement edge).line.toList = edgeText edge := by
  rw [edgeStatement_line]
  change strip (edgeText edge) = edgeText edge
  have ends := edgeText_endsVisibly target
  obtain ⟨_, objective | plan⟩ := edgeText_head source
  · rw [objective] at ends ⊢
    exact strip_of_visible rfl ends
  · rw [plan] at ends ⊢
    exact strip_of_visible rfl ends

theorem readLine_edge (isWord : Char → Bool) (parsed : Parsed) (source : IsDrawnId edge.1)
    (target : IsDrawnId edge.2) :
    parsed.readLine isWord (edgeStatement edge).line.toList =
      if parsed.stopped then parsed else parsed.addEdges [edge] := by
  have plain : ¬ (edgeText edge = [] ∨ "%%".toList.isPrefixOf (edgeText edge) = true) ∧
        isNonFlow (edgeText edge) = false ∧ headerDirection isWord (edgeText edge) = none ∧
            isSkipped (edgeText edge) = false := by
    obtain ⟨_, objective | plan⟩ := edgeText_head source
    · rw [objective]
      exact ⟨not_or.mpr ⟨cons_ne_nil _ _, false_ne_true⟩,
        rfl, rfl, rfl⟩
    · rw [plan]
      exact ⟨not_or.mpr ⟨cons_ne_nil _ _, false_ne_true⟩,
        rfl, rfl, rfl⟩
  obtain ⟨noComment, flow, noHeader, read⟩ := plain
  unfold Parsed.readLine
  rw [strip_edgeStatement source target]
  dsimp only
  rw [flow, noHeader, read, nodeDeclaration_edgeText source,
    findEdges_edgeText source target, if_neg noComment]
  rfl

theorem readLines_edges (isWord : Char → Bool) (parsed : Parsed)
    (drawn : ∀ edge ∈ edges, IsDrawnId edge.1 ∧ IsDrawnId edge.2) :
    parsed.readLines isWord ((edges.map edgeStatement).map fun statement => statement.line.toList) =
      if parsed.stopped then parsed else parsed.addEdges edges := by
  induction edges generalizing parsed with
  | nil =>
    unfold Parsed.addEdges
    rw [append_nil]
    exact (ite_self _).symm
  | cons edge _ ih =>
    rw [forall_mem_cons] at drawn
    obtain ⟨⟨source, target⟩, restDrawn⟩ := drawn
    have first := readLine_edge isWord parsed source target
    have later := ih (parsed.readLine isWord (edgeStatement edge).line.toList) restDrawn
    rw [map_cons, map_cons]
    refine later.trans ?_
    rw [first]
    cases stopped : parsed.stopped with
    | true => simp [stopped]
    | false => simp [stopped, Parsed.addEdges]

/-! ## A whole text -/

theorem readLine_sawHeader (raw : List Char) (sawHeader : parsed.sawHeader = true) :
    (parsed.readLine isWord raw).sawHeader = true := by
  unfold Parsed.readLine
  dsimp only
  split
  · exact sawHeader
  · split
    · exact sawHeader
    · split
      · exact sawHeader
      · split
        · rfl
        · split
          · exact sawHeader
          · unfold Parsed.addEdges Parsed.declare
            split
            · exact sawHeader
            · split
              · exact sawHeader
              · exact sawHeader

theorem readLines_sawHeader (lines : List (List Char)) (sawHeader : parsed.sawHeader = true) :
    (parsed.readLines isWord lines).sawHeader = true := by
  induction lines generalizing parsed with
  | nil => exact sawHeader
  | cons line _ ih => exact ih (readLine_sawHeader line sawHeader)

def readStatements (isWord : Char → Bool) (statements : List Statement) :
    Parsed :=
  Parsed.readLines isWord { sawHeader := true }
    (statements.flatMap fun statement => splitLines statement.line.toList)

theorem parseMermaid_text (isWord : Char → Bool) {statements : List Statement}
    (visible : ∀ statement ∈ statements, EndsVisibly statement.line.toList) :
    parseMermaid isWord (Diagram.text { direction := "TD", statements }) =
      readStatements isWord statements := by
  have lines : (Diagram.lines { direction := "TD", statements }).map String.toList =
        "flowchart TD".toList :: statements.map fun statement => statement.line.toList := by
    unfold Diagram.lines
    rw [map_cons, map_map]
    rfl
  have ends : ∀ line ∈ "flowchart TD".toList ::
      statements.map (fun statement => statement.line.toList), EndsVisibly line := by
    rw [forall_mem_cons]
    refine ⟨⟨"flowchart T".toList, 'D', rfl, rfl⟩, ?_⟩
    intro line member
    obtain ⟨statement, drawn, rfl⟩ := mem_map.mp member
    exact visible statement drawn
  have characters : (Diagram.text { direction := "TD", statements }).toList =
      ['\n'].intercalate ("flowchart TD".toList ::
        statements.map fun statement => statement.line.toList) := by
    unfold Diagram.text
    rw [String.toList_intercalate, lines]
    rfl
  have stripped : strip (['\n'].intercalate ("flowchart TD".toList ::
      statements.map fun statement => statement.line.toList)) =
        ['\n'].intercalate ("flowchart TD".toList ::
          statements.map fun statement => statement.line.toList) := by
    have textEnds := endsVisibly_intercalate (cons_ne_nil _ _) ends
    have start : "flowchart TD".toList = 'f' :: "lowchart TD".toList := rfl
    rw [start, intercalate_cons_cons_left] at textEnds ⊢
    exact strip_of_visible rfl textEnds
  have split : splitLines (['\n'].intercalate ("flowchart TD".toList ::
      statements.map fun statement => statement.line.toList)) = "flowchart TD".toList ::
          statements.flatMap fun statement =>
            splitLines statement.line.toList := by
    rw [splitLines_intercalate ends, flatMap_cons, flatMap_map]
    rfl
  have header : Parsed.readLine isWord {} "flowchart TD".toList =
      { sawHeader := true } := rfl
  unfold parseMermaid
  rw [characters, stripped, split]
  change ((Parsed.readLine isWord {} "flowchart TD".toList).readLines isWord
    (statements.flatMap fun statement =>
      splitLines statement.line.toList)).finish = readStatements isWord statements
  rw [header]
  unfold readStatements Parsed.finish
  rw [if_pos (.inr (readLines_sawHeader _ rfl))]

theorem splitLines_edgeStatement (source : IsDrawnId edge.1) (target : IsDrawnId edge.2) :
    splitLines (edgeStatement edge).line.toList = [(edgeStatement edge).line.toList] := by
  rw [edgeStatement_line]
  refine splitLines_inLine (fun character member => ?_) (cons_ne_nil _ _)
  cases lineBreak : isLineBreak character with
  | false => rfl
  | true =>
    have space := isPyWhitespace_of_isLineBreak lineBreak
    have noSpace : character ≠ ' ' := by
      rintro rfl
      cases lineBreak
    have noArrow : character ≠ '-' ∧ character ≠ '>' := by
      constructor
      · rintro rfl
        cases space
      · rintro rfl
        cases space
    have hidden : ∀ id : String, IsDrawnId id → character ∉ id.toList := by
      intro id drawn identifierMember
      rw [visible_of_mem_identifier drawn.1 identifierMember] at space
      cases space
    unfold edgeText at member
    simp only [mem_cons, mem_append] at member
    grind

theorem parseMermaid_drawn (isWord : Char → Bool) {declarations : List Statement}
    (visible : ∀ statement ∈ declarations, EndsVisibly statement.line.toList)
    (drawn : ∀ edge ∈ edges, IsDrawnId edge.1 ∧ IsDrawnId edge.2) :
    parseMermaid isWord (Diagram.text {
          direction := "TD"
          statements := declarations ++ edges.map edgeStatement }) =
      let read := parseMermaid isWord
        (Diagram.text { direction := "TD", statements := declarations })
      if read.stopped then read else read.addEdges edges := by
  have edgesVisible : ∀ statement ∈ edges.map edgeStatement, EndsVisibly statement.line.toList := by
    intro statement member
    obtain ⟨edge, edgeMember, rfl⟩ := mem_map.mp member
    rw [edgeStatement_line]
    exact endsVisibly_append [' ', ' ', ' ', ' '] (edgeText_endsVisibly (drawn edge edgeMember).2)
  have edgeLines : ((edges.map edgeStatement).flatMap fun statement =>
      splitLines statement.line.toList) =
        (edges.map edgeStatement).map fun statement =>
          statement.line.toList := by
    rw [flatMap_map, map_map, map_eq_flatMap]
    exact flatMap_congr fun edge member =>
      splitLines_edgeStatement (drawn edge member).1 (drawn edge member).2
  rw [parseMermaid_text isWord visible,
    parseMermaid_text isWord (forall_mem_append.mpr ⟨visible, edgesVisible⟩)]
  unfold readStatements
  rw [flatMap_append, edgeLines]
  unfold Parsed.readLines
  rw [foldl_append]
  exact readLines_edges isWord _ drawn

end Mermaid

end AccruviaHarness
