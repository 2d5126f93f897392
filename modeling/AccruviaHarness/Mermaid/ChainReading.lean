import AccruviaHarness.Mermaid.EdgeSearch

/-!
# What a chain is read as

Of the nodes of a chain only the first is read with its label. Of its links
those are found whose source has no label and is not the target of a link that
has been found.
-/

namespace AccruviaHarness

open List

namespace Mermaid

open Library

/-! ## The links that are found -/

def NodeUse.isSource (node : NodeUse) (taken : Bool) : Bool := !taken && node.label.isNone

def foundLinks : Bool → NodeUse → Links → List (List Char × Edge)
  | _, _, [] => []
  | taken, node, (link, next) :: links =>
    if node.isSource taken then
      (chainText node ((link, next) :: links), (node.id, next.id)) :: foundLinks true next links
    else foundLinks false next links

def searchedPlaces : Bool → NodeUse → Links → List LabelPlace
  | _, node, [] => nodePlaces node []
  | taken, node, (link, next) :: links =>
    if node.isSource taken then searchedPlaces true next links
    else
      nodePlaces node (linksText ((link, next) :: links)) ++
        (linkPlaces link (chainText next links) ++ searchedPlaces false next links)

def textFrom (taken : Bool) (node : NodeUse) (links : Links) : List Char :=
  if taken then restText node links else chainText node links

section

variable (node : NodeUse) (links : Links)

theorem stops_restText : Stops (restText node links) := by
  have linksStop : Stops (linksText links) := by
    cases links with
    | nil => exact fun _ none => absurd none (Option.not_mem_none _)
    | cons head links =>
      obtain ⟨link, next⟩ := head
      show Stops (link.text ++ chainText next links)
      rw [linkText_eq]
      unfold LinkForm.lineText
      rw [append_assoc, append_assoc, append_assoc]
      refine (noIdentifier_gap link.before).stops_append ?_
      obtain ⟨first, _, arrow, _⟩ := startsPlainly_arrow link.arrow []
      rw [append_nil] at arrow
      rw [arrow]
      rintro _ ⟨⟩
      exact noIdentifier_arrow link.arrow first (arrow ▸ mem_cons_self)
  rw [restText_eq]
  unfold NodeUse.labelText
  cases node.label with
  | none => exact linksStop
  | some label =>
    unfold NodeLabel.text
    rw [append_assoc, append_assoc]
    refine (noIdentifier_gap label.gap).stops_append ?_
    cases label.shape <;> rintro _ ⟨⟩ <;> rfl

theorem identifier_parts : ∀ character ∈ node.id.toList, isIdentifierPart character = true := by
  obtain ⟨_, _, _, _, parts⟩ := isIdentifier_cons node.identifier
  exact parts

theorem scanArrow_label {label : NodeLabel} (labelled : node.label = some label) :
    scanArrow ((restText node links).dropWhile isPyWhitespace) = none := by
  rw [restText_eq]
  unfold NodeUse.labelText
  rw [labelled]
  unfold NodeLabel.text
  rw [append_assoc, append_assoc, dropWhile_gap]
  · cases label.shape <;> rfl
  · cases label.shape <;> exact ⟨_, _, rfl, rfl, by decide⟩

theorem findAll_textFrom {taken : Bool} (noSource : links = [] ∨ node.isSource taken = false) :
    edgeScanner.findAll (textFrom taken node links) =
      edgeScanner.findAll (restText node links) := by
  unfold textFrom
  cases taken with
  | true => rfl
  | false =>
    have noArrow : scanArrow ((restText node links).dropWhile isPyWhitespace) = none := by
      cases labelled : node.label with
      | some _ => exact scanArrow_label node links labelled
      | none =>
        rcases noSource with rfl | noSource
        · simp [restText, NodeUse.labelText, labelled, scanArrow]
        · simp [NodeUse.isSource, labelled] at noSource
    exact Scanner.findAll_append_of_quiet (quiet_identifier
      (identifier_parts node) (stops_restText node links) noArrow)

theorem findAll_source {taken : Bool} {link : LinkForm} {next : NodeUse}
    (source : node.isSource taken = true) :
    edgeScanner.findAll (textFrom taken node ((link, next) :: links)) =
      (chainText node ((link, next) :: links), (node.id, next.id)) ::
        edgeScanner.findAll (textFrom true next links) := by
  unfold NodeUse.isSource at source
  rw [Bool.and_eq_true, Bool.not_eq_true', Option.isNone_iff_eq_none] at source
  obtain ⟨rfl, noLabel⟩ := source
  have text : chainText node ((link, next) :: links) = node.id.toList ++ (link.text ++
        (next.id.toList ++ restText next links)) := by
    have noText : node.labelText = [] := by
      unfold NodeUse.labelText
      rw [noLabel]
    unfold chainText
    rw [restText_eq, noText]
    rfl
  have scanned : edgeScanner.scan (chainText node ((link, next) :: links)) =
      some ((node.id, next.id), restText next links) := by
    rw [text]
    exact scanEdge_link node.identifier next.identifier link (stops_restText next links)
  exact Scanner.findAll_of_some scanned

end

variable {taken : Bool} {node : NodeUse} {links : Links} {place : LabelPlace}
  {found : List Char × Edge}

theorem findAll_of_quiet (quiet : QuietPlaces (searchedPlaces taken node links)) :
    edgeScanner.findAll (textFrom taken node links) = foundLinks taken node links := by
  induction links generalizing taken node with
  | nil =>
    unfold searchedPlaces at quiet
    rw [findAll_textFrom node [] (.inl rfl), restText_eq]
    exact findAll_labelText quiet
  | cons head links ih =>
    obtain ⟨_, _⟩ := head
    unfold searchedPlaces at quiet
    unfold foundLinks
    cases source : node.isSource taken with
    | true =>
      rw [source, if_pos rfl] at quiet
      rw [if_pos rfl, findAll_source node links source, ih quiet]
    | false =>
      rw [source, if_neg Bool.false_ne_true, quietPlaces_append_iff,
        quietPlaces_append_iff] at quiet
      obtain ⟨quietNode, quietLink, quietLater⟩ := quiet
      rw [if_neg Bool.false_ne_true, findAll_textFrom node _ (.inr source), restText_eq,
        findAll_labelText quietNode]
      unfold linksText
      rw [findAll_linkText quietLink]
      exact ih quietLater

theorem exists_match_of_loud (loud : ¬ QuietPlaces (searchedPlaces taken node links)) :
    ∃ found ∈ edgeScanner.findAll (textFrom taken node links),
      BeginsInLabel (labelPlaces node links) found.1 := by
  induction links generalizing taken node with
  | nil =>
    unfold searchedPlaces at loud
    rw [findAll_textFrom node [] (.inl rfl), restText_eq]
    exact exists_match_labelText loud
  | cons head links ih =>
    obtain ⟨link, next⟩ := head
    unfold searchedPlaces at loud
    cases source : node.isSource taken with
    | true =>
      rw [source, if_pos rfl] at loud
      obtain ⟨found, member, begins⟩ := ih loud
      rw [findAll_source node links source]
      refine ⟨found, mem_cons_of_mem _ member, begins.mono ?_⟩
      exact subset_append_of_subset_right _ (subset_append_right _ _)
    | false =>
      rw [source, if_neg Bool.false_ne_true, quietPlaces_append_iff, quietPlaces_append_iff] at loud
      rw [findAll_textFrom node _ (.inr source), restText_eq]
      by_cases quietNode : QuietPlaces (nodePlaces node (linksText ((link, next) :: links)))
      · rw [findAll_labelText quietNode]
        by_cases quietLink : QuietPlaces (linkPlaces link (chainText next links))
        · have loudLater : ¬ QuietPlaces (searchedPlaces false next links) :=
            fun quietLater => loud ⟨quietNode, quietLink, quietLater⟩
          obtain ⟨found, member, begins⟩ := ih loudLater
          unfold linksText
          rw [findAll_linkText quietLink]
          refine ⟨found, member, begins.mono ?_⟩
          exact subset_append_of_subset_right _ (subset_append_right _ _)
        · obtain ⟨found, member, begins⟩ := exists_match_linkText quietLink
          exact ⟨found, member, begins.mono (subset_append_of_subset_right _
              (subset_append_left _ _))⟩
      · obtain ⟨found, member, begins⟩ := exists_match_labelText quietNode
        exact ⟨found, member, begins.mono (subset_append_left _ _)⟩

/-! ## Links and labels are apart -/

theorem length_linksText_cons (link : LinkForm) (next : NodeUse) (links : Links) :
    (linksText ((link, next) :: links)).length = link.text.length + (chainText next links).length :=
  length_append

theorem length_restText (node : NodeUse) (links : Links) :
    (restText node links).length = node.labelText.length + (linksText links).length := by
  rw [restText_eq, length_append]

theorem length_chainText (node : NodeUse) (links : Links) :
    (restText node links).length < (chainText node links).length := by
  obtain ⟨_, _, id, _⟩ := isIdentifier_cons node.identifier
  unfold chainText
  rw [id, cons_append, length_cons, length_append]
  omega

variable {after label : List Char}

theorem length_nodePlaces (member : place ∈ nodePlaces node after) :
    place.1.length + place.2.length < node.labelText.length + after.length ∧
      after.length ≤ place.2.length := by
  unfold nodePlaces at member
  unfold NodeUse.labelText
  cases labelled : node.label with
  | none =>
    rw [labelled] at member
    cases member
  | some label =>
    rw [labelled] at member
    rw [mem_singleton.mp member]
    have opens : 0 < label.shape.opening.length := by cases label.shape <;> decide
    unfold NodeLabel.text
    simp only [length_append]
    omega

theorem length_linkPlaces {link : LinkForm} (member : place ∈ linkPlaces link after) :
    place.1.length + place.2.length < link.text.length + after.length ∧
      after.length ≤ place.2.length := by
  unfold linkPlaces at member
  rw [linkText_eq]
  unfold LinkForm.labelText
  cases labelled : link.label with
  | none =>
    rw [labelled] at member
    cases member
  | some _ =>
    rw [labelled] at member
    rw [mem_singleton.mp member]
    simp only [length_append, length_cons]
    omega

theorem length_labelPlaces (member : place ∈ labelPlaces node links) :
    place.1.length + place.2.length < (chainText node links).length := by
  induction links generalizing node with
  | nil =>
    have chain := length_chainText node []
    have inside := (length_nodePlaces member).1
    rw [length_restText] at chain
    simp only [linksText, length_nil] at chain inside
    omega
  | cons head links ih =>
    obtain ⟨link, next⟩ := head
    have chain := length_chainText node ((link, next) :: links)
    have after := length_linksText_cons link next links
    rw [length_restText] at chain
    unfold labelPlaces at member
    rw [mem_append, mem_append] at member
    rcases member with own | ofLink | later
    · have inside := (length_nodePlaces own).1
      omega
    · have inside := (length_linkPlaces ofLink).1
      omega
    · have inside := ih later
      omega

theorem length_foundLinks (member : found ∈ foundLinks taken node links) :
    found.1.length ≤ (chainText node links).length := by
  induction links generalizing taken node with
  | nil => cases member
  | cons head links ih =>
    obtain ⟨link, next⟩ := head
    have chain := length_chainText node ((link, next) :: links)
    have after := length_linksText_cons link next links
    rw [length_restText] at chain
    unfold foundLinks at member
    split at member
    · rcases mem_cons.mp member with rfl | later
      · exact Nat.le_refl _
      · have inside := ih later
        omega
    · have inside := ih member
      omega

theorem not_beginsInLabel_of_found (member : found ∈ foundLinks taken node links) :
    ¬ BeginsInLabel (labelPlaces node links) found.1 := by
  induction links generalizing taken node with
  | nil => cases member
  | cons head links ih =>
    obtain ⟨link, next⟩ := head
    have later {again : Bool} (member : found ∈ foundLinks again next links) :
        ¬ BeginsInLabel (labelPlaces node ((link, next) :: links))
          found.1 := by
      rintro ⟨place, placed, start, nonempty, suffix, same⟩
      have short := length_foundLinks member
      have long : place.2.length < found.1.length := by
        rw [same, length_append]
        have some := length_pos_iff.mpr nonempty
        omega
      have after := length_linksText_cons link next links
      unfold labelPlaces at placed
      rw [mem_append, mem_append] at placed
      rcases placed with own | ofLink | inRest
      · have outside := (length_nodePlaces own).2
        omega
      · have outside := (length_linkPlaces ofLink).2
        omega
      · exact ih member ⟨place, inRest, start, nonempty, suffix, same⟩
    unfold foundLinks at member
    split at member
    · rcases mem_cons.mp member with rfl | inRest
      · rintro ⟨_, placed, _, _, suffix, same⟩
        have inside := length_labelPlaces placed
        have within := suffix.length_le
        dsimp only at same
        rw [same, length_append] at inside
        omega
      · exact later inRest
    · exact later member

theorem mem_chainEdges_of_found (member : found ∈ foundLinks taken node links) :
    found.2 ∈ chainEdges node links := by
  induction links generalizing taken node with
  | nil => cases member
  | cons head _ ih =>
    obtain ⟨_, _⟩ := head
    unfold foundLinks at member
    unfold chainEdges
    split at member
    · rcases mem_cons.mp member with rfl | later
      · exact mem_cons_self
      · exact mem_cons_of_mem _ (ih later)
    · exact mem_cons_of_mem _ (ih member)

/-! ## The declaration of a chain -/

theorem scanUntil_append {stop : Char} {more : List Char} (after : List Char)
    (absent : stop ∉ label) :
    scanUntil (stop :: more) stop (label ++ (stop :: more ++ after)) = some label := by
  have stays : ∀ character ∈ label, decide (character ≠ stop) = true := by
    intro character member
    rw [decide_eq_true_eq]
    rintro rfl
    exact absent member
  have closes : (stop :: more).isPrefixOf (stop :: (more ++ after)) = true :=
    isPrefixOf_iff_prefix.mpr (prefix_append (stop :: more) after)
  unfold scanUntil
  rw [cons_append, dropWhile_append_of_pos stays, dropWhile_cons_of_neg (by simp), if_pos closes,
    takeWhile_append_of_pos stays,
    takeWhile_cons_of_neg (by simp), append_nil]

theorem scanLabel_shape (shape : Shape) (fits : shape.Fits label) (after : List Char) :
    scanLabel (shape.opening ++ (label ++ (shape.closing ++ after))) = some label := by
  cases shape with
  | quoted =>
    have closed : scanUntil ['"', ']'] '"'
        (label ++ (['"', ']'] ++ after)) = some label :=
      scanUntil_append after fits
    show (scanUntil ['"', ']'] '"' (label ++ (['"', ']'] ++ after))).or _ =
      some label
    rw [closed]
    rfl
  | square =>
    have closed : scanUntil [']'] ']' (label ++ ([']'] ++ after)) =
        some label := scanUntil_append after fits.1
    have plain : ∀ rest, label ++ ([']'] ++ after) ≠ '"' :: rest := by
      intro rest same
      cases label with
      | nil =>
        have quote := (List.cons.inj same).1
        revert quote
        decide
      | cons first _ =>
        have quote : first = '"' := (List.cons.inj same).1
        exact fits.2 (congrArg some quote)
    show scanLabel ('[' :: (label ++ ([']'] ++ after))) = some label
    rw [← closed]
    generalize label ++ ([']'] ++ after) = text at plain
    cases text with
    | nil => rfl
    | cons _ _ =>
      unfold scanLabel
      split
      next same => exact absurd (List.cons.inj same).2 (plain _)
      next same => rw [(List.cons.inj same).2]
      next same => exact absurd (List.cons.inj same).1 (by decide)
      next same => exact absurd (List.cons.inj same).1 (by decide)
      next other _ _ => exact absurd rfl (other _)
  | round => exact scanUntil_append after fits
  | curly => exact scanUntil_append after fits

theorem nodeDeclaration_chainText (node : NodeUse) (links : Links) :
    nodeDeclaration (chainText node links) = node.declaration := by
  unfold nodeDeclaration chainText NodeUse.declaration
  rw [scanIdentifier_of_isIdentifier node.identifier
    (stops_restText node links), Option.bind_eq_bind, Option.bind_some]
  rw [restText_eq]
  unfold NodeUse.labelText
  cases node.label with
  | some label =>
    dsimp only
    unfold NodeLabel.text
    rw [append_assoc, append_assoc, append_assoc,
      dropWhile_gap, scanLabel_shape label.shape label.fits]
    · rfl
    · cases label.shape <;> exact ⟨_, _, rfl, rfl, by decide⟩
  | none =>
    have noLabel : scanLabel ((linksText links).dropWhile isPyWhitespace) =
        none := by
      cases links with
      | nil => rfl
      | cons head links =>
        obtain ⟨link, next⟩ := head
        show scanLabel ((link.text ++ chainText next links).dropWhile isPyWhitespace) = none
        unfold LinkForm.text
        rw [append_assoc, append_assoc,
          dropWhile_gap link.before (startsPlainly_arrow link.arrow _)]
        cases link.arrow with
        | solid _ => rfl
        | thick _ => rfl
        | dotted _ => rfl
        | wavy _ => rfl
    dsimp only
    rw [nil_append, noLabel]
    rfl

theorem declaration_mem_chain {declared : String × String}
    (first : node.declaration = some declared) :
    declared ∈ chainDeclarations node links :=
  mem_filterMap.mpr ⟨node, mem_cons_self, first⟩

end Mermaid

end AccruviaHarness
