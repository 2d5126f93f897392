import AccruviaHarness.Library.Scanning
import AccruviaHarness.Mermaid.FlowText

/-!
# The edges found in a line

The search for edges goes through a line without knowing its labels. It takes
the target of an edge with the edge, so that the target is not the source of
the next one, and a label between an id and its arrow hides the source.
-/

namespace AccruviaHarness

open List

namespace Mermaid

open Library

/-! ## The scanner of edges -/

variable {characters rest after : List Char} {character : Char}

theorem length_scanIdentifier {id : String}
    (scanned : scanIdentifier characters = some (id, rest)) :
    rest.length < characters.length := by
  cases characters with
  | nil => cases scanned
  | cons _ _ =>
    rw [scanIdentifier] at scanned
    split at scanned
    · cases scanned
      exact Nat.lt_succ_of_le (dropWhile_sublist _).length_le
    · cases scanned

theorem length_dropArrowHead (characters : List Char) :
    (dropArrowHead characters).length ≤ characters.length := by
  unfold dropArrowHead
  split
  · exact Nat.le_succ _
  · exact Nat.le_refl _

theorem length_scanArrowHead {drawn : Char} (scanned : scanArrowHead drawn characters = some rest) :
    rest.length ≤ characters.length := by
  have fewer : (characters.dropWhile fun other => other = drawn).length ≤
      characters.length := (dropWhile_sublist _).length_le
  unfold scanArrowHead at scanned
  split at scanned
  next head =>
    cases scanned
    rw [head, length_cons] at fewer
    omega
  · cases scanned

theorem length_scanArrow (scanned : scanArrow characters = some rest) :
    rest.length ≤ characters.length := by
  unfold scanArrow at scanned
  split at scanned
  · have shorter := length_scanArrowHead scanned
    simp only [length_cons]
    omega
  · have shorter := length_scanArrowHead scanned
    simp only [length_cons]
    omega
  next tail =>
    have shorter := length_dropArrowHead tail
    cases scanned
    simp only [length_cons]
    omega
  next tail =>
    have shorter := length_dropArrowHead tail
    cases scanned
    simp only [length_cons]
    omega
  · cases scanned

theorem length_skipEdgeLabel (characters : List Char) :
    (skipEdgeLabel characters).length ≤ characters.length := by
  unfold skipEdgeLabel
  split
  next rest =>
    have fewer : (rest.dropWhile fun other => other ≠ '|').length ≤
        rest.length := (dropWhile_sublist _).length_le
    split
    next bar after found =>
      have further : (after.dropWhile isPyWhitespace).length ≤ after.length :=
        (dropWhile_sublist _).length_le
      rw [found, length_cons] at fewer
      rw [length_cons]
      omega
    · exact Nat.le_refl _
  · exact Nat.le_refl _

theorem length_scanEdge {edge : Edge} (scanned : scanEdge characters = some (edge, rest)) :
    rest.length < characters.length := by
  unfold scanEdge at scanned
  obtain ⟨⟨_, afterSource⟩, first, scanned⟩ := Option.bind_eq_some_iff.mp scanned
  obtain ⟨afterArrow, arrow, scanned⟩ := Option.bind_eq_some_iff.mp scanned
  obtain ⟨⟨_, _⟩, second, scanned⟩ := Option.bind_eq_some_iff.mp scanned
  cases scanned
  have one := length_scanIdentifier first
  have two : (afterSource.dropWhile isPyWhitespace).length ≤
      afterSource.length := (dropWhile_sublist _).length_le
  have three := length_scanArrow arrow
  have four : (afterArrow.dropWhile isPyWhitespace).length ≤
      afterArrow.length := (dropWhile_sublist _).length_le
  have five := length_skipEdgeLabel (afterArrow.dropWhile isPyWhitespace)
  have six := length_scanIdentifier second
  omega

/-- `_EDGE_RE`. -/
def edgeScanner : Scanner Char Edge where
  scan := scanEdge
  consumes _ _ _ := length_scanEdge

theorem findEdgesWithin_eq (fuel : Nat) (characters : List Char) :
    findEdgesWithin fuel characters = (edgeScanner.findWithin fuel characters).map Prod.snd := by
  induction fuel generalizing characters with
  | zero => cases characters <;> rfl
  | succ _ ih =>
    cases characters with
    | nil => rfl
    | cons first rest =>
      rw [findEdgesWithin, Scanner.findWithin]
      have scan : edgeScanner.scan (first :: rest) = scanEdge (first :: rest) := rfl
      rw [scan]
      cases scanEdge (first :: rest) with
      | none => exact ih rest
      | some _ =>
        dsimp only
        rw [map_cons, ih]

theorem findEdges_eq (line : List Char) :
    findEdges line = (edgeScanner.findAll line).map Prod.snd :=
  findEdgesWithin_eq line.length line

/-! ## Where no edge starts -/

def Stops (characters : List Char) : Prop :=
  ∀ first ∈ characters.head?, isIdentifierPart first = false

theorem not_part_of_blank (blank : isPyWhitespace character = true) :
    isIdentifierPart character = false := by
  cases part : isIdentifierPart character with
  | false => rfl
  | true =>
    rw [visible_of_identifierPart part] at blank
    cases blank

theorem not_start_of_not_part (other : isIdentifierPart character = false) :
    isIdentifierStart character = false := by
  cases start : isIdentifierStart character with
  | false => rfl
  | true =>
    rw [identifierPart_of_start start] at other
    cases other

def NoIdentifier (characters : List Char) : Prop :=
  ∀ character ∈ characters, isIdentifierPart character = false

theorem noIdentifier_of_all (all : (characters.all fun other => !isIdentifierPart other) = true) :
    NoIdentifier characters := by
  intro character member
  simpa using all_eq_true.mp all character member

theorem NoIdentifier.append {first second : List Char} (left : NoIdentifier first)
    (right : NoIdentifier second) : NoIdentifier (first ++ second) :=
  forall_mem_append.mpr ⟨left, right⟩

variable {front : List Char} {node : NodeUse} {link : LinkForm}

theorem NoIdentifier.stops_append (outside : NoIdentifier front)
    (stops : Stops rest) : Stops (front ++ rest) := by
  cases front with
  | nil => exact stops
  | cons first _ =>
    rintro _ ⟨⟩
    exact outside first mem_cons_self

theorem noIdentifier_gap (gap : Gap) : NoIdentifier gap.characters :=
  fun character member => not_part_of_blank (gap.blank character member)

theorem noIdentifier_opening (shape : Shape) : NoIdentifier shape.opening := by
  cases shape <;> exact noIdentifier_of_all rfl

theorem noIdentifier_closing (shape : Shape) : NoIdentifier shape.closing := by
  cases shape <;> exact noIdentifier_of_all rfl

theorem mem_arrow {arrow : ArrowForm} (member : character ∈ arrow.characters) :
    character ∈ ['-', '=', '.', '~', '>'] := by
  cases arrow with
  | solid _ =>
    simp only [ArrowForm.characters, mem_cons, mem_append, mem_replicate] at member
    grind
  | thick _ =>
    simp only [ArrowForm.characters, mem_cons, mem_append, mem_replicate] at member
    grind
  | dotted head => cases head <;> simp [ArrowForm.characters] at member <;> grind
  | wavy head => cases head <;> simp [ArrowForm.characters] at member <;> grind

theorem noIdentifier_arrow (arrow : ArrowForm) : NoIdentifier arrow.characters := by
  have outside : NoIdentifier ['-', '=', '.', '~', '>'] := noIdentifier_of_all rfl
  exact fun character member => outside character (mem_arrow member)

theorem scanEdge_of_not_start {first : Char} (other : isIdentifierStart first = false) :
    scanEdge (first :: rest) = none := by
  unfold scanEdge
  rw [scanIdentifier, if_neg (by simp [other])]
  rfl

theorem quiet_of_noIdentifier (outside : NoIdentifier front) (rest : List Char) :
    edgeScanner.Quiet front rest := by
  intro start nonempty suffix
  cases start with
  | nil => exact absurd rfl nonempty
  | cons first _ =>
    exact scanEdge_of_not_start (not_start_of_not_part
      (outside first (suffix.subset mem_cons_self)))

theorem quiet_identifier (parts : ∀ character ∈ characters, isIdentifierPart character = true)
    (stops : Stops rest)
    (noArrow : scanArrow (rest.dropWhile isPyWhitespace) = none) :
    edgeScanner.Quiet characters rest := by
  intro start nonempty suffix
  cases start with
  | nil => exact absurd rfl nonempty
  | cons first tail =>
    by_cases isStart : isIdentifierStart first = true
    · have identifier : isIdentifier (String.ofList (first :: tail)).toList = true := by
        rw [String.toList_ofList, isIdentifier, isStart, Bool.true_and, all_eq_true]
        intro character member
        exact parts character (suffix.subset (mem_cons_of_mem first member))
      have scanned := scanIdentifier_of_isIdentifier identifier stops
      rw [String.toList_ofList] at scanned
      show scanEdge (first :: tail ++ rest) = none
      unfold scanEdge
      rw [scanned, Option.bind_eq_bind, Option.bind_some]
      dsimp only
      rw [noArrow]
      rfl
    · exact scanEdge_of_not_start (Bool.not_eq_true _ ▸ isStart)

/-! ## Labels -/

section

variable {front label back : List Char} {after : List Char}

theorem findAll_enclosed (opening : NoIdentifier front) (closing : NoIdentifier back)
    (quiet : edgeScanner.Quiet label (back ++ after)) :
    edgeScanner.findAll (front ++ (label ++ (back ++ after))) = edgeScanner.findAll after := by
  rw [Scanner.findAll_append_of_quiet (quiet_of_noIdentifier opening _),
    Scanner.findAll_append_of_quiet quiet,
    Scanner.findAll_append_of_quiet (quiet_of_noIdentifier closing _)]

theorem exists_match_enclosed (opening : NoIdentifier front)
    (loud : ¬ edgeScanner.Quiet label (back ++ after)) :
    ∃ found ∈ edgeScanner.findAll (front ++ (label ++ (back ++ after))),
      BeginsInLabel [(label, back ++ after)] found.1 := by
  obtain ⟨start, _, nonempty, suffix, found⟩ := Scanner.exists_match_of_not_quiet loud
  rw [Scanner.findAll_append_of_quiet (quiet_of_noIdentifier opening _)]
  exact ⟨_, found, _, mem_singleton_self _, start, nonempty, suffix, rfl⟩

end

theorem BeginsInLabel.mono {places others : List LabelPlace} {text : List Char}
    (begins : BeginsInLabel places text) (among : places ⊆ others) :
    BeginsInLabel others text := by
  obtain ⟨place, member, start, found⟩ := begins
  exact ⟨place, among member, start, found⟩

def QuietPlaces (places : List LabelPlace) : Prop :=
  ∀ place ∈ places, edgeScanner.Quiet place.1 place.2

theorem quietPlaces_append_iff {first second : List LabelPlace} :
    QuietPlaces (first ++ second) ↔ QuietPlaces first ∧ QuietPlaces second :=
  forall_mem_append

theorem findAll_labelText (quiet : QuietPlaces (nodePlaces node after)) :
    edgeScanner.findAll (node.labelText ++ after) = edgeScanner.findAll after := by
  unfold NodeUse.labelText
  unfold nodePlaces at quiet
  cases labelled : node.label with
  | none => rfl
  | some label =>
    rw [labelled] at quiet
    have enclosed := findAll_enclosed ((noIdentifier_gap label.gap).append
        (noIdentifier_opening label.shape))
      (noIdentifier_closing label.shape) (quiet _ (mem_singleton_self _))
    unfold NodeLabel.text
    simpa only [append_assoc] using enclosed

theorem exists_match_labelText (loud : ¬ QuietPlaces (nodePlaces node after)) :
    ∃ found ∈ edgeScanner.findAll (node.labelText ++ after),
      BeginsInLabel (nodePlaces node after) found.1 := by
  unfold NodeUse.labelText
  unfold nodePlaces at loud ⊢
  cases labelled : node.label with
  | none =>
    rw [labelled] at loud
    exact absurd (forall_mem_nil _) loud
  | some label =>
    rw [labelled] at loud
    have notQuiet : ¬ edgeScanner.Quiet label.label (label.shape.closing ++ after) := by
      intro quiet
      exact loud (forall_mem_singleton.mpr quiet)
    have found := exists_match_enclosed ((noIdentifier_gap label.gap).append
        (noIdentifier_opening label.shape)) notQuiet
    unfold NodeLabel.text
    simpa only [append_assoc] using found

def LinkForm.lineText (link : LinkForm) : List Char :=
  link.before.characters ++ (link.arrow.characters ++ link.after.characters)

theorem noIdentifier_lineText (link : LinkForm) : NoIdentifier link.lineText :=
  (noIdentifier_gap link.before).append
    ((noIdentifier_arrow link.arrow).append (noIdentifier_gap link.after))

theorem linkText_eq (link : LinkForm) :
    link.text = link.lineText ++ link.labelText := by
  unfold LinkForm.text LinkForm.lineText
  simp only [append_assoc]

theorem noIdentifier_bar (outside : NoIdentifier characters) : NoIdentifier ('|' :: characters) :=
  forall_mem_cons.mpr ⟨by decide, outside⟩

theorem findAll_linkText (quiet : QuietPlaces (linkPlaces link after)) :
    edgeScanner.findAll (link.text ++ after) = edgeScanner.findAll after := by
  rw [linkText_eq]
  unfold LinkForm.labelText
  unfold linkPlaces at quiet
  cases labelled : link.label with
  | none =>
    rw [append_nil]
    exact Scanner.findAll_append_of_quiet (quiet_of_noIdentifier (noIdentifier_lineText link) after)
  | some label =>
    rw [labelled] at quiet
    have enclosed := findAll_enclosed ((noIdentifier_lineText link).append
        (noIdentifier_bar (forall_mem_nil _)))
      (noIdentifier_bar (noIdentifier_gap label.gap))
      (quiet _ (mem_singleton_self _))
    simpa only [append_assoc, cons_append, nil_append] using enclosed

theorem exists_match_linkText (loud : ¬ QuietPlaces (linkPlaces link after)) :
    ∃ found ∈ edgeScanner.findAll (link.text ++ after),
      BeginsInLabel (linkPlaces link after) found.1 := by
  rw [linkText_eq]
  unfold LinkForm.labelText
  unfold linkPlaces at loud ⊢
  cases labelled : link.label with
  | none =>
    rw [labelled] at loud
    exact absurd (forall_mem_nil _) loud
  | some label =>
    rw [labelled] at loud
    have notQuiet : ¬ edgeScanner.Quiet label.label (('|' :: label.gap.characters) ++ after) := by
      intro quiet
      exact loud (forall_mem_singleton.mpr quiet)
    have found := exists_match_enclosed ((noIdentifier_lineText link).append
      (noIdentifier_bar (forall_mem_nil _))) notQuiet
    simpa only [append_assoc, cons_append, nil_append] using found

/-! ## A link that is found -/

theorem isIdentifier_cons (identifier : isIdentifier characters = true) :
    ∃ first rest, characters = first :: rest ∧ isIdentifierStart first = true ∧
      ∀ character ∈ characters, isIdentifierPart character = true := by
  cases characters with
  | nil => cases identifier
  | cons first rest =>
    simp only [isIdentifier, Bool.and_eq_true, all_eq_true] at identifier
    refine ⟨first, rest, rfl, identifier.1, ?_⟩
    rw [forall_mem_cons]
    exact ⟨identifierPart_of_start identifier.1, identifier.2⟩

def StartsPlainly (characters : List Char) : Prop :=
  ∃ first rest, characters = first :: rest ∧ isPyWhitespace first = false ∧ first ≠ '>'

theorem startsPlainly_identifier (identifier : isIdentifier characters = true)
    (rest : List Char) : StartsPlainly (characters ++ rest) := by
  obtain ⟨first, tail, rfl, start, _⟩ := isIdentifier_cons identifier
  refine ⟨first, tail ++ rest, rfl, visible_of_identifierPart (identifierPart_of_start start), ?_⟩
  rintro rfl
  revert start
  decide

theorem dropWhile_gap (gap : Gap) (plain : StartsPlainly rest) :
    (gap.characters ++ rest).dropWhile isPyWhitespace = rest := by
  obtain ⟨_, _, rfl, visible, _⟩ := plain
  rw [dropWhile_append_of_pos gap.blank, dropWhile_cons_of_neg (by simp [visible])]

theorem scanArrowHead_replicate (drawn : Char) (further : Nat) (rest : List Char)
    (other : ('>' : Char) ≠ drawn) :
    scanArrowHead drawn (List.replicate further drawn ++ '>' :: rest) = some rest := by
  have dropped : (List.replicate further drawn ++ '>' :: rest).dropWhile
      (fun other => other = drawn) = '>' :: rest := by
    rw [dropWhile_append_of_pos (by simp), dropWhile_cons_of_neg (by simpa using other)]
  unfold scanArrowHead
  rw [dropped]
  rfl

theorem dropArrowHead_gap (gap : Gap) (plain : StartsPlainly rest) :
    dropArrowHead (gap.characters ++ rest) = gap.characters ++ rest := by
  obtain ⟨_, _, rfl, _, noHead⟩ := plain
  cases characters : gap.characters with
  | nil =>
    unfold dropArrowHead
    split
    next same => exact absurd (List.cons.inj same).1 noHead
    · rfl
  | cons blank _ =>
    unfold dropArrowHead
    split
    next same =>
      have isBlank := gap.blank blank (characters ▸ mem_cons_self)
      rw [(List.cons.inj same).1] at isBlank
      cases isBlank
    · rfl

variable (arrow : ArrowForm)

theorem scanArrow_characters (gap : Gap) (plain : StartsPlainly rest) :
    scanArrow (arrow.characters ++ (gap.characters ++ rest)) = some (gap.characters ++ rest) := by
  cases arrow with
  | solid further =>
    unfold ArrowForm.characters
    rw [cons_append, cons_append, append_assoc]
    exact scanArrowHead_replicate '-' further _ (by decide)
  | thick further =>
    unfold ArrowForm.characters
    rw [cons_append, cons_append, append_assoc]
    exact scanArrowHead_replicate '=' further _ (by decide)
  | dotted head =>
    cases head with
    | true => rfl
    | false => exact congrArg some (dropArrowHead_gap gap plain)
  | wavy head =>
    cases head with
    | true => rfl
    | false => exact congrArg some (dropArrowHead_gap gap plain)

theorem startsPlainly_arrow (rest : List Char) : StartsPlainly (arrow.characters ++ rest) := by
  cases arrow with
  | solid _ => exact ⟨'-', _, rfl, rfl, by decide⟩
  | thick _ => exact ⟨'=', _, rfl, rfl, by decide⟩
  | dotted _ => exact ⟨'-', _, rfl, rfl, by decide⟩
  | wavy _ => exact ⟨'~', _, rfl, rfl, by decide⟩

theorem startsPlainly_labelText (link : LinkForm) (plain : StartsPlainly rest) :
    StartsPlainly (link.labelText ++ rest) := by
  unfold LinkForm.labelText
  cases link.label with
  | none => exact plain
  | some _ => exact ⟨'|', _, rfl, rfl, by decide⟩

theorem skipEdgeLabel_of_bar
    (bar : characters.dropWhile (fun other => other ≠ '|') = '|' :: after) :
    skipEdgeLabel ('|' :: characters) = after.dropWhile isPyWhitespace := by
  unfold skipEdgeLabel
  split
  next same => rw [← (List.cons.inj same).2, bar]
  next other => exact absurd rfl (other characters)

theorem skipEdgeLabel_labelText (link : LinkForm) (identifier : isIdentifier characters = true)
    (rest : List Char) :
    skipEdgeLabel (link.labelText ++ (characters ++ rest)) = characters ++ rest := by
  have plain := startsPlainly_identifier identifier rest
  unfold LinkForm.labelText
  cases link.label with
  | none =>
    obtain ⟨first, tail, rfl, start, _⟩ := isIdentifier_cons identifier
    show skipEdgeLabel (first :: (tail ++ rest)) = first :: (tail ++ rest)
    unfold skipEdgeLabel
    split
    next same =>
      rw [(List.cons.inj same).1] at start
      exact absurd start (by decide)
    · rfl
  | some label =>
    have bar : ((label.label ++ '|' :: label.gap.characters) ++
        (characters ++ rest)).dropWhile (fun other => other ≠ '|') =
          '|' :: (label.gap.characters ++ (characters ++ rest)) := by
      rw [append_assoc, dropWhile_append_of_pos, cons_append,
        dropWhile_cons_of_neg (by simp)]
      intro character member
      rw [decide_eq_true_eq]
      rintro rfl
      exact label.noBar member
    exact (skipEdgeLabel_of_bar bar).trans (dropWhile_gap label.gap plain)

theorem scanEdge_link {source target : String} (sourceId : isIdentifier source.toList = true)
    (targetId : isIdentifier target.toList = true) (link : LinkForm)
    (stops : Stops rest) :
    scanEdge (source.toList ++ (link.text ++ (target.toList ++ rest))) =
      some ((source, target), rest) := by
  have plain := startsPlainly_identifier targetId rest
  have labelled := startsPlainly_labelText link plain
  have text : link.text ++ (target.toList ++ rest) =
      link.before.characters ++ (link.arrow.characters ++ (link.after.characters ++
          (link.labelText ++ (target.toList ++ rest)))) := by
    unfold LinkForm.text
    simp only [append_assoc]
  have sourceStops : Stops (link.before.characters ++
      (link.arrow.characters ++ (link.after.characters ++
        (link.labelText ++ (target.toList ++ rest))))) := by
    refine (noIdentifier_gap link.before).stops_append ?_
    obtain ⟨first, _, arrow, _⟩ := startsPlainly_arrow link.arrow []
    rw [append_nil] at arrow
    rw [arrow]
    rintro _ ⟨⟩
    exact noIdentifier_arrow link.arrow first (arrow ▸ mem_cons_self)
  unfold scanEdge
  rw [text, scanIdentifier_of_isIdentifier sourceId sourceStops,
    Option.bind_eq_bind, Option.bind_some]
  dsimp only
  rw [dropWhile_gap link.before (startsPlainly_arrow link.arrow _),
    scanArrow_characters link.arrow link.after labelled, Option.bind_eq_bind,
    Option.bind_some, dropWhile_gap link.after labelled,
    skipEdgeLabel_labelText link targetId,
    scanIdentifier_of_isIdentifier targetId stops]
  rfl

end Mermaid

end AccruviaHarness
