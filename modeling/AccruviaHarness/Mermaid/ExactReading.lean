import AccruviaHarness.Mermaid.ChainReading

/-!
# Exact reading

When the reader of a flowchart gets exactly the nodes and the edges that are
written.
-/

namespace AccruviaHarness

open List

/-!
## What a written flowchart is read as

The reader gets exactly what is written when no edge pattern matches inside a
label and when everything that it leaves out of a chain is written elsewhere
too, where it can be found.
-/

namespace Mermaid

open Library

/-! ## The characters of a line -/

variable (node : NodeUse)

theorem inLine_identifier : InLine node.id.toList :=
  inLine_of_visible fun _ member => visible_of_mem_identifier node.identifier member

theorem inLine_labelText : InLine node.labelText := by
  unfold NodeUse.labelText
  cases node.label with
  | none => exact forall_mem_nil _
  | some label =>
    have opening : InLine label.shape.opening := by cases label.shape <;> exact inLine_of_all rfl
    have closing : InLine label.shape.closing := by cases label.shape <;> exact inLine_of_all rfl
    exact InLine.append label.gap.inLine (opening.append (InLine.append label.inLine closing))

theorem inLine_arrow (arrow : ArrowForm) : InLine arrow.characters := by
  have inLine : InLine ['-', '=', '.', '~', '>'] := inLine_of_all rfl
  exact fun character member => inLine character (mem_arrow member)

theorem inLine_linkText (link : LinkForm) : InLine link.text := by
  have labelText : InLine link.labelText := by
    unfold LinkForm.labelText
    cases link.label with
    | none => exact forall_mem_nil _
    | some label =>
      have bar : InLine ['|'] := inLine_of_all rfl
      exact bar.append (InLine.append label.inLine (bar.append label.gap.inLine))
  exact InLine.append link.before.inLine ((inLine_arrow link.arrow).append
      (InLine.append link.after.inLine labelText))

theorem inLine_chainText (links : Links) : InLine (chainText node links) := by
  induction links generalizing node with
  | nil => exact (inLine_identifier node).append (inLine_labelText node)
  | cons head _ ih =>
    obtain ⟨link, next⟩ := head
    exact (inLine_identifier node).append ((inLine_labelText node).append
      ((inLine_linkText link).append (ih next)))

theorem endsVisibly_chainText (links : Links) : EndsVisibly (chainText node links) := by
  induction links generalizing node with
  | nil =>
    show EndsVisibly (node.id.toList ++ node.labelText)
    unfold NodeUse.labelText
    cases node.label with
    | none =>
      obtain ⟨_, _, id, _⟩ := isIdentifier_cons node.identifier
      have nonempty : node.id.toList ≠ [] := by simp [id]
      rw [append_nil]
      exact ⟨_, _, (dropLast_append_getLast nonempty).symm,
        visible_of_mem_identifier node.identifier (getLast_mem nonempty)⟩
    | some label =>
      refine endsVisibly_append _ (endsVisibly_append _
        (endsVisibly_append _ (endsVisibly_append _ ?_)))
      cases label.shape
      · exact ⟨['"'], ']', rfl, rfl⟩
      · exact ⟨[], ']', rfl, rfl⟩
      · exact ⟨[], ')', rfl, rfl⟩
      · exact ⟨[], '\x7d', rfl, rfl⟩
  | cons head _ ih =>
    obtain ⟨_, next⟩ := head
    exact endsVisibly_append _ (endsVisibly_append _ (endsVisibly_append _ (ih next)))

/-! ## The lines of a flowchart -/

namespace LineForm

variable (form : LineForm)

theorem inLine_text : InLine form.text := by
  cases form with
  | header word direction => cases word <;> cases direction <;> exact inLine_of_all rfl
  | chain node links => exact inLine_chainText node links

theorem endsVisibly_text : EndsVisibly form.text := by
  cases form with
  | header _ direction =>
    refine endsVisibly_append _ ?_
    cases direction
    · exact ⟨" T".toList, 'D', rfl, rfl⟩
    · exact ⟨" T".toList, 'B', rfl, rfl⟩
    · exact ⟨" B".toList, 'T', rfl, rfl⟩
    · exact ⟨" L".toList, 'R', rfl, rfl⟩
    · exact ⟨" R".toList, 'L', rfl, rfl⟩
  | chain node links => exact endsVisibly_chainText node links

theorem text_starts : ∃ first rest, form.text = first :: rest ∧ isIdentifierStart first = true := by
  cases form with
  | header word _ =>
    cases word
    · exact ⟨'f', _, rfl, rfl⟩
    · exact ⟨'g', _, rfl, rfl⟩
  | chain node links =>
    obtain ⟨first, rest, id, start, _⟩ := isIdentifier_cons node.identifier
    refine ⟨first, rest ++ restText node links, ?_, start⟩
    show node.id.toList ++ restText node links = _
    rw [id]
    rfl

end LineForm

theorem strip_between {before body after : List Char}
    (blankBefore : ∀ character ∈ before, isPyWhitespace character = true)
    (blankAfter : ∀ character ∈ after, isPyWhitespace character = true)
    (starts : ∃ first rest, body = first :: rest ∧ isPyWhitespace first = false)
    (ends : EndsVisibly body) :
    strip (before ++ (body ++ after)) = body := by
  obtain ⟨_, _, same, visible⟩ := starts
  obtain ⟨_, _, sameLast, lastVisible⟩ := ends
  have leading : (before ++ (body ++ after)).dropWhile isPyWhitespace = body ++ after := by
    rw [dropWhile_append_of_pos blankBefore, same, cons_append,
      dropWhile_cons_of_neg (by simp [visible])]
  have blankReverse : ∀ character ∈ after.reverse, isPyWhitespace character = true := by
    intro character member
    exact blankAfter character (mem_reverse.mp member)
  unfold strip
  rw [leading, reverse_append, dropWhile_append_of_pos blankReverse,
    sameLast, reverse_append, reverse_singleton,
    singleton_append, dropWhile_cons_of_neg (by simp [lastVisible]),
    reverse_cons, reverse_reverse]

theorem strip_lineText (line : FlowLine) : strip line.text = line.form.text := by
  obtain ⟨first, rest, same, start⟩ := line.form.text_starts
  have stripped := strip_between line.indent.blank (forall_mem_nil _)
    ⟨first, rest, same, visible_of_identifierPart
      (identifierPart_of_start start)⟩ line.form.endsVisibly_text
  rwa [append_nil] at stripped

variable (form : LineForm)

theorem strip_formText : strip form.text = form.text := by
  obtain ⟨_, _, same, start⟩ := form.text_starts
  have ends := form.endsVisibly_text
  rw [same] at ends ⊢
  exact strip_of_visible (visible_of_identifierPart (identifierPart_of_start start)) ends

theorem hasContent_formText : hasContent form.text = true := by
  obtain ⟨first, _, same, start⟩ := form.text_starts
  rw [same]
  unfold hasContent
  have noComment : first ≠ '%' := by
    rintro rfl
    revert start
    decide
  simp [List.isPrefixOf, noComment.symm]

theorem withoutFence_of_not_fence {first : List Char} {rest : List (List Char)}
    (noFence : isFence first = false) :
    withoutFence (first :: rest) = first :: rest := by
  simp [withoutFence, noFence]

theorem contentLines_text (flow : FlowText) :
    contentLines flow.text = flow.lines.map fun line => line.form.text := by
  unfold contentLines FlowText.text
  rw [String.toList_ofList]
  cases written : flow.lines with
  | nil =>
    have blank : strip (flow.before ++ ([] ++ flow.after)) = [] := by
      unfold strip
      rw [nil_append, dropWhile_append_of_pos flow.blankBefore, ← append_nil flow.after,
        dropWhile_append_of_pos flow.blankAfter]
      rfl
    show List.filter hasContent (List.map strip (withoutFence (splitLines
      (strip (flow.before ++ ([] ++ flow.after)))))) = []
    rw [blank]
    rfl
  | cons line lines =>
    obtain ⟨first, _, same, start⟩ := line.form.text_starts
    have visible := visible_of_identifierPart (identifierPart_of_start start)
    have ends : ∀ text ∈ line.form.text :: lines.map FlowLine.text, EndsVisibly text := by
      rw [forall_mem_cons]
      refine ⟨line.form.endsVisibly_text, ?_⟩
      intro text member
      obtain ⟨other, _, rfl⟩ := mem_map.mp member
      exact endsVisibly_append _ other.form.endsVisibly_text
    have joined : flow.before ++ (['\n'].intercalate
        ((line :: lines).map FlowLine.text) ++ flow.after) =
        (flow.before ++ line.indent.characters) ++ (['\n'].intercalate
          (line.form.text :: lines.map FlowLine.text) ++ flow.after) := by
      rw [map_cons]
      unfold FlowLine.text
      cases lines with
      | nil => simp
      | cons _ _ =>
        rw [map_cons, intercalate_cons_cons, intercalate_cons_cons]
        simp only [append_assoc]
    have stripped : strip (flow.before ++ (['\n'].intercalate
        ((line :: lines).map FlowLine.text) ++ flow.after)) =
        ['\n'].intercalate (line.form.text :: lines.map FlowLine.text) := by
      rw [joined]
      refine strip_between (forall_mem_append.mpr
        ⟨flow.blankBefore, line.indent.blank⟩) flow.blankAfter ?_
        (endsVisibly_intercalate (cons_ne_nil _ _) ends)
      rw [same, intercalate_cons_cons_left]
      exact ⟨first, _, rfl, visible⟩
    have split : splitLines (['\n'].intercalate (line.form.text :: lines.map FlowLine.text)) =
          line.form.text :: lines.map FlowLine.text := by
      refine splitLines_joined ?_
      rw [forall_mem_cons]
      constructor
      · exact ⟨line.form.inLine_text, by simp [same]⟩
      · intro text member
        obtain ⟨other, _, rfl⟩ := mem_map.mp member
        obtain ⟨_, _, otherText, _⟩ := other.form.text_starts
        exact ⟨InLine.append other.indent.inLine other.form.inLine_text,
          by simp [FlowLine.text, otherText]⟩
    have noFence : isFence line.form.text = false := by
      rw [same]
      have noTick : first ≠ '`' := by
        rintro rfl
        revert start
        decide
      simp [isFence, List.isPrefixOf, noTick.symm]
    rw [stripped, split, withoutFence_of_not_fence noFence, map_cons, map_map, strip_formText]
    have later : lines.map (strip ∘ FlowLine.text) = lines.map fun line => line.form.text :=
      map_congr_left fun other _ => strip_lineText other
    rw [later, map_cons]
    refine filter_eq_self.mpr ?_
    rw [forall_mem_cons]
    refine ⟨hasContent_formText line.form, ?_⟩
    intro text member
    obtain ⟨other, _, rfl⟩ := mem_map.mp member
    exact hasContent_formText other.form

end Mermaid

/-! ## Exact reading -/

namespace Mermaid

open Library

/-! ## The lines that are read -/

namespace LineForm

section

variable (isWord : Char → Bool)

def isRead (form : LineForm) : Bool := isFlowLine isWord form.text

end

def leading : LineForm → Option (String × String)
  | header _ _ => none
  | chain node _ => node.declaration

def foundEdges : LineForm → List Edge
  | header _ _ => []
  | chain node links => (foundLinks false node links).map Prod.snd

def searched : LineForm → List LabelPlace
  | header _ _ => []
  | chain node links => searchedPlaces false node links

variable {form : LineForm} {isWord : Char → Bool}

theorem leading_mem {node : String × String}
    (first : form.leading = some node) : node ∈ form.declarations := by
  cases form with
  | header _ _ => cases first
  | chain _ _ => exact declaration_mem_chain first

theorem foundEdges_mem {edge : Edge} (found : edge ∈ form.foundEdges) : edge ∈ form.edges := by
  cases form with
  | header _ _ => cases found
  | chain _ _ =>
    obtain ⟨_, member, rfl⟩ := mem_map.mp found
    exact mem_chainEdges_of_found member

theorem header_not_read (isWord : Char → Bool) (word : HeaderWord) (direction : Direction) :
    (header word direction).isRead isWord = false := by
  have isHeader : headerDirection isWord (header word direction).text = some direction.text := by
    cases word <;> cases direction <;> rfl
  unfold isRead isFlowLine
  rw [isHeader]
  rfl

theorem nodeDeclaration_text (read : form.isRead isWord = true) :
    nodeDeclaration form.text = form.leading := by
  cases form with
  | header _ _ =>
    rw [header_not_read] at read
    cases read
  | chain node links => exact nodeDeclaration_chainText node links

theorem findAll_text (read : form.isRead isWord = true) (quiet : QuietPlaces form.searched) :
    findEdges form.text = form.foundEdges ∧
      ∀ found ∈ edgeScanner.findAll form.text, ¬ BeginsInLabel form.places found.1 := by
  cases form with
  | header _ _ =>
    rw [header_not_read] at read
    cases read
  | chain node links =>
    have found : edgeScanner.findAll (chainText node links) =
        foundLinks false node links := findAll_of_quiet quiet
    constructor
    · show findEdges (chainText node links) = _
      rw [findEdges_eq, found]
      rfl
    · intro link member
      have member : link ∈ edgeScanner.findAll (chainText node links) := member
      rw [found] at member
      exact not_beginsInLabel_of_found member

theorem quiet_of_outside (read : form.isRead isWord = true)
    (outside : ∀ found ∈ edgeScanner.findAll form.text, ¬ BeginsInLabel form.places found.1) :
    QuietPlaces form.searched := by
  cases form with
  | header _ _ =>
    rw [header_not_read] at read
    cases read
  | chain _ _ =>
    by_contra loud
    obtain ⟨found, member, begins⟩ := exists_match_of_loud loud
    exact outside found member begins

end LineForm

/-! ## Exact reading -/

section

variable (isWord : Char → Bool) (flow : FlowText)

/-- The nodes are the declared ones, the edges are the written ones, and no
match of the edge pattern begins inside a label. -/
structure ReadsExactly : Prop where
  nodes : ∀ node, node ∈ (parseMermaid isWord flow.text).nodes ↔ node ∈ flow.declarations
  edges : ∀ edge, edge ∈ (parseMermaid isWord flow.text).edges ↔ edge ∈ flow.edges
  outside : ∀ line ∈ flow.lines, line.form.isRead isWord = true →
    ∀ found ∈ edgeScanner.findAll line.form.text, ¬ BeginsInLabel line.form.places found.1

def ReadsFaithfully : Prop := (parseMermaid isWord flow.text).errors ≠ [] ∨ ReadsExactly isWord flow

def leadingDeclarations : List (String × String) :=
  (flow.lines.filter fun line => line.form.isRead isWord).filterMap fun line => line.form.leading

/-- What the reader reports: a line of another kind of diagram, no header, or
an id that is declared twice at the start of lines. -/
def HasReadingError : Prop :=
  (∃ line ∈ flow.lines, isNonFlow line.form.text = true) ∨
    (∀ line ∈ flow.lines, headerDirection isWord line.form.text = none) ∨
    ¬ ((leadingDeclarations isWord flow).map Prod.fst).Nodup

/-- No edge pattern matches in a label that the search comes to, each declared
node is declared at the start of a line that is read, and each edge is found in
a line that is read. -/
structure IsFullyFound : Prop where
  quiet : ∀ line ∈ flow.lines, line.form.isRead isWord = true → QuietPlaces line.form.searched
  declared : ∀ node ∈ flow.declarations, ∃ line ∈ flow.lines,
    line.form.isRead isWord = true ∧ line.form.leading = some node
  found : ∀ edge ∈ flow.edges, ∃ line ∈ flow.lines,
    line.form.isRead isWord = true ∧ edge ∈ line.form.foundEdges

variable {isWord flow}

theorem mem_leadingDeclarations (node : String × String) :
    node ∈ leadingDeclarations isWord flow ↔ ∃ line ∈ flow.lines, line.form.isRead isWord = true ∧
        line.form.leading = some node := by
  unfold leadingDeclarations
  simp only [mem_filterMap, mem_filter, and_assoc]

theorem declaredNodes_text :
    declaredNodes isWord (contentLines flow.text) = leadingDeclarations isWord flow := by
  rw [contentLines_text]
  unfold declaredNodes leadingDeclarations
  rw [filter_map, filterMap_map]
  refine filterMap_congr fun line member => ?_
  exact LineForm.nodeDeclaration_text (mem_filter.mp member).2

theorem mem_drawnEdges_text (edge : Edge) :
    edge ∈ drawnEdges isWord (contentLines flow.text) ↔
      ∃ line ∈ flow.lines, line.form.isRead isWord = true ∧ edge ∈ findEdges line.form.text := by
  rw [contentLines_text]
  unfold drawnEdges
  rw [filter_map, flatMap_map]
  simp only [mem_flatMap, mem_filter, and_assoc]
  exact .rfl

theorem errors_ne_nil_iff :
    (parseMermaid isWord flow.text).errors ≠ [] ↔ HasReadingError isWord flow := by
  rw [ne_eq, (parseMermaid_reads isWord flow.text).1, declaredNodes_text, contentLines_text]
  unfold HasReadingError
  simp only [mem_map, forall_exists_index, and_imp,
    forall_apply_eq_imp_iff₂, exists_exists_and_eq_and]
  rw [not_and_or, not_and_or]
  refine or_congr ?_ (or_congr ?_ .rfl)
  · simp
  · simp

/-- The reading is faithful exactly when an error is reported or all that is
written is found. -/
theorem readsFaithfully_iff (isWord : Char → Bool) (flow : FlowText) :
    ReadsFaithfully isWord flow ↔ HasReadingError isWord flow ∨ IsFullyFound isWord flow := by
  unfold ReadsFaithfully
  rw [errors_ne_nil_iff]
  by_cases failed : HasReadingError isWord flow
  · exact iff_of_true (.inl failed) (.inl failed)
  · rw [or_iff_right failed, or_iff_right failed]
    have noErrors : (parseMermaid isWord flow.text).errors = [] := by
      rw [← errors_ne_nil_iff, not_not] at failed
      exact failed
    obtain ⟨nodes, edges⟩ := (parseMermaid_reads isWord flow.text).2 noErrors
    rw [declaredNodes_text] at nodes
    constructor
    · intro reads
      have quiet : ∀ line ∈ flow.lines, line.form.isRead isWord = true →
          QuietPlaces line.form.searched := fun line member read =>
        LineForm.quiet_of_outside read (reads.outside line member read)
      refine ⟨quiet, ?declared, ?found⟩
      case declared =>
        intro node written
        have read := (reads.nodes node).mpr written
        rw [nodes, mem_leadingDeclarations] at read
        exact read
      case found =>
        intro edge written
        have read := (reads.edges edge).mpr written
        rw [edges, mem_drawnEdges_text] at read
        obtain ⟨line, member, isRead, found⟩ := read
        rw [(LineForm.findAll_text isRead (quiet line member isRead)).1]
          at found
        exact ⟨line, member, isRead, found⟩
    · intro full
      refine ⟨?nodes, ?edges, ?outside⟩
      case nodes =>
        intro node
        rw [nodes, mem_leadingDeclarations]
        constructor
        · rintro ⟨line, member, _, first⟩
          exact mem_flatMap.mpr ⟨line, member, LineForm.leading_mem first⟩
        · exact full.declared node
      case edges =>
        intro edge
        rw [edges, mem_drawnEdges_text]
        constructor
        · rintro ⟨line, member, isRead, found⟩
          rw [(LineForm.findAll_text isRead (full.quiet line member isRead)).1] at found
          exact mem_flatMap.mpr ⟨line, member, LineForm.foundEdges_mem found⟩
        · intro written
          obtain ⟨line, member, isRead, found⟩ := full.found edge written
          refine ⟨line, member, isRead, ?_⟩
          rw [(LineForm.findAll_text isRead (full.quiet line member isRead)).1]
          exact found
      case outside =>
        intro line member isRead
        exact (LineForm.findAll_text isRead (full.quiet line member isRead)).2

end

/-! ## A chain of three nodes -/

def noGap : Gap where
  characters := []
  blank := by simp
  inLine := by simp

def blankGap : Gap where
  characters := [' ']
  blank := all_eq_true.mp rfl
  inLine := inLine_of_all rfl

/-- The line `id[label]`. -/
def declarationLine (id : String) (label : List Char) (identifier : isIdentifier id.toList = true)
    (fits : Shape.square.Fits label)
    (inLine : ∀ character ∈ label, isLineBreak character = false) :
    FlowLine where
  indent := noGap
  form := .chain
    { id, identifier,
      label := some { gap := noGap, shape := .square, label, fits, inLine } }
    []

def plainArrow : LinkForm where
  before := blankGap
  arrow := .solid 0
  after := blankGap
  label := none

def chainFlow : FlowText where
  before := []
  lines := [
    { indent := noGap, form := .header .flowchart .topDown },
    declarationLine "P_first" "first".toList (by decide) ⟨by decide, by decide⟩ (inLine_of_all rfl),
    declarationLine "P_second" "second".toList (by decide)
      ⟨by decide, by decide⟩ (inLine_of_all rfl),
    declarationLine "P_third" "third".toList (by decide) ⟨by decide, by decide⟩ (inLine_of_all rfl),
    { indent := noGap
      form := .chain { id := "P_first", identifier := by decide, label := none }
        [(plainArrow,
            { id := "P_second", identifier := by decide, label := none }),
          (plainArrow,
            { id := "P_third", identifier := by decide, label := none })] }]
  after := []
  blankBefore := by simp
  blankAfter := by simp

def thirdPlan : Plan where
  id := "plan_third"
  objectiveId := "objective"
  slice := [("label", .str "third step")]
  createdAt := 2

def chainDiagram : Diagram where
  direction := "TD"
  statements := [.node "O" "Objective: Objective",
    .node "P_first" "first step",
    .node "P_second" "second step [with 'quotes']",
    .node "P_third" "third step", .edge "O" "P_first", .edge "O" "P_third",
    .edge "P_first" "P_second"]

def chainResult : CanonicalizeResult where
  accepted := true
  canonical := some chainDiagram
  mapping := [("P_first", "plan_first"), ("P_second", "plan_second"),
    ("P_third", "plan_third")]

/-- The second edge of the chain is not found, and the proposal is accepted
without it. -/
theorem chain_read_without_edge :
    chainFlow.text = "flowchart TD\nP_first[first]\nP_second[second]\n" ++
        "P_third[third]\nP_first --> P_second --> P_third" ∧
      ¬ ReadsFaithfully Char.isAlphanum chainFlow ∧
      canonicalizeMermaid Char.isAlphanum defaultLabelMatching chainFlow.text
        [firstPlan, secondPlan, thirdPlan] (some soleObjective) false = .ok chainResult ∧
      chainResult.accepted = true ∧
      ("P_second", "P_third") ∈ chainFlow.edges ∧
      ("P_second", "P_third") ∉ chainDiagram.edges := by
  have text : chainFlow.text = "flowchart TD\nP_first[first]\nP_second[second]\n" ++
        "P_third[third]\nP_first --> P_second --> P_third" := by
    decide +kernel
  have parsed : parseMermaid Char.isAlphanum chainFlow.text =
      { nodes := [("P_first", "first"), ("P_second", "second"), ("P_third", "third")]
        edges := [("P_first", "P_second")], sawHeader := true } := by
    rw [text]
    decide +kernel
  have written : ("P_second", "P_third") ∈ chainFlow.edges := by decide +kernel
  refine ⟨text, ?_, by rw [text]; decide +kernel, rfl, written, by decide⟩
  rintro (failed | reads)
  · rw [parsed] at failed
    exact failed rfl
  · have read := (reads.edges ("P_second", "P_third")).mpr written
    rw [parsed] at read
    revert read
    decide

end Mermaid

end AccruviaHarness
