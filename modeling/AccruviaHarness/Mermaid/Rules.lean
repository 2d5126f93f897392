import AccruviaHarness.Library.StableMatching
import AccruviaHarness.Mermaid.RoundTrip

/-!
# The documented rules

The seven rules of `canonicalize_mermaid`, said of the lines of the proposed
text and of its nodes and the plans, apart from the order in which the code
comes to them.
-/

namespace AccruviaHarness

open List

namespace Mermaid

open Library

/-! ## The lines of a text -/

def hasContent (line : List Char) : Bool := !line.isEmpty && !"%%".toList.isPrefixOf line

def contentLines (text : String) : List (List Char) :=
  ((withoutFence (splitLines (strip text.toList))).map strip).filter hasContent

section

variable (isWord : Char → Bool)

def isFlowLine (line : List Char) : Bool := (headerDirection isWord line).isNone && !isSkipped line

def declaredNodes (lines : List (List Char)) : List (String × String) :=
  (lines.filter (isFlowLine isWord)).filterMap nodeDeclaration

def drawnEdges (lines : List (List Char)) : List Edge :=
  (lines.filter (isFlowLine isWord)).flatMap findEdges

/-- The rules 1 to 4: a flowchart, with a header, whose nodes are declared
once and whose edges are between declared nodes. -/
structure IsFlowchart (lines : List (List Char)) : Prop where
  flowchart : ∀ line ∈ lines, isNonFlow line = false
  header : ∃ line ∈ lines, (headerDirection isWord line).isSome = true
  declaredOnce : ((declaredNodes isWord lines).map Prod.fst).Nodup
  declared : ∀ edge ∈ drawnEdges isWord lines, edge.1 ∈ (declaredNodes isWord lines).map Prod.fst ∧
      edge.2 ∈ (declaredNodes isWord lines).map Prod.fst

end

/-! ## The reader and the lines -/

section

variable {isWord : Char → Bool} {parsed : Parsed}

namespace Parsed

variable {raw : List Char}

theorem readLine_of_no_content (empty : hasContent (strip raw) = false) :
    parsed.readLine isWord raw = parsed := by
  unfold readLine
  split
  · rfl
  · rw [if_pos]
    by_contra content
    rw [not_or, Bool.not_eq_true] at content
    have filled : hasContent (strip raw) = true := by
      unfold hasContent
      rw [content.2, isEmpty_eq_false_iff.mpr content.1]
      rfl
    rw [empty] at filled
    cases filled

theorem readLine_of_content (content : hasContent (strip raw) = true)
    (going : parsed.stopped = false) :
    parsed.readLine isWord raw =
      if isNonFlow (strip raw) then
        { parsed with
          errors := parsed.errors ++
            ["non-flowchart diagram type: " ++
              String.ofList ((strip raw).takeWhile fun other => !isPyWhitespace other) ++
              "; only flowchart is supported"]
          stopped := true }
      else
        match headerDirection isWord (strip raw) with
        | some direction => { parsed with direction, sawHeader := true }
        | none =>
          if isSkipped (strip raw) then parsed
          else
            (parsed.declare (nodeDeclaration (strip raw))).addEdges (findEdges (strip raw)) := by
  unfold hasContent at content
  rw [Bool.and_eq_true, Bool.not_eq_true', Bool.not_eq_true', isEmpty_eq_false_iff] at content
  unfold readLine
  have goesOn : ¬ parsed.stopped = true := by simp [going]
  have isRead : ¬ (strip raw = [] ∨ "%%".toList.isPrefixOf (strip raw)) := by
    rw [not_or, Bool.not_eq_true]
    exact content
  rw [if_neg goesOn]
  exact if_neg isRead

theorem readLines_filter (lines : List (List Char)) :
    parsed.readLines isWord lines = parsed.readLines isWord
        (lines.filter fun raw => hasContent (strip raw)) := by
  induction lines generalizing parsed with
  | nil => rfl
  | cons raw rest ih =>
    show (parsed.readLine isWord raw).readLines isWord rest = _
    rw [ih, filter_cons]
    cases content : hasContent (strip raw) with
    | false => rw [readLine_of_no_content content, if_neg Bool.false_ne_true]
    | true => rfl

theorem errors_ne_nil_readLine (failed : parsed.errors ≠ []) :
    (parsed.readLine isWord raw).errors ≠ [] := by
  unfold readLine
  dsimp only
  split
  · exact failed
  · split
    · exact failed
    · split
      · simp
      · split
        · exact failed
        · split
          · exact failed
          · rw [addEdges_errors]
            unfold declare
            split
            · exact failed
            · split
              · simp
              · exact failed

theorem errors_ne_nil_readLines {lines : List (List Char)} (failed : parsed.errors ≠ []) :
    (parsed.readLines isWord lines).errors ≠ [] := by
  induction lines generalizing parsed with
  | nil => exact failed
  | cons _ _ ih => exact ih (errors_ne_nil_readLine failed)

structure Adds (isWord : Char → Bool) (parsed : Parsed)
    (lines : List (List Char)) (result : Parsed) : Prop where
  flowchart : ∀ line ∈ lines, isNonFlow line = false
  nodes : result.nodes = parsed.nodes ++ declaredNodes isWord lines
  edges : result.edges = parsed.edges ++ drawnEdges isWord lines
  sawHeader : result.sawHeader =
    (parsed.sawHeader || lines.any fun line => (headerDirection isWord line).isSome)
  going : result.stopped = false
  noErrors : result.errors = []
  distinct : result.nodeIds.Nodup

end Parsed

theorem declaredNodes_cons (line : List Char) (lines : List (List Char)) :
    declaredNodes isWord (line :: lines) =
      declaredNodes isWord [line] ++ declaredNodes isWord lines := by
  unfold declaredNodes
  cases flow : isFlowLine isWord line <;> simp [flow, filterMap_cons]
  split <;> rfl

theorem drawnEdges_cons (line : List Char) (lines : List (List Char)) :
    drawnEdges isWord (line :: lines) = drawnEdges isWord [line] ++ drawnEdges isWord lines := by
  unfold drawnEdges
  cases flow : isFlowLine isWord line <;> simp [flow]

namespace Parsed

variable (isWord) in
theorem readLine_adds (content : hasContent (strip raw) = true)
    (going : parsed.stopped = false) (noErrors : parsed.errors = [])
    (distinct : parsed.nodeIds.Nodup) :
    (parsed.readLine isWord raw).errors ≠ [] ∧ (isNonFlow (strip raw) = true ∨
          ¬ (parsed.nodeIds ++ (declaredNodes isWord [strip raw]).map Prod.fst).Nodup) ∨
      Adds isWord parsed [strip raw] (parsed.readLine isWord raw) := by
  rw [readLine_of_content content going]
  generalize strip raw = line
  by_cases nonFlow : isNonFlow line = true
  · rw [if_pos nonFlow]
    exact .inl ⟨by simp, .inl nonFlow⟩
  · rw [if_neg nonFlow]
    rw [Bool.not_eq_true] at nonFlow
    cases header : headerDirection isWord line with
    | some _ =>
      have other : isFlowLine isWord line = false := by simp [isFlowLine, header]
      exact .inr {
        flowchart := by simpa using nonFlow
        nodes := by simp [declaredNodes, other]
        edges := by simp [drawnEdges, other]
        sawHeader := by simp [header]
        going
        noErrors
        distinct }
    | none =>
      cases skipped : isSkipped line with
      | true =>
        have other : isFlowLine isWord line = false := by simp [isFlowLine, skipped]
        exact .inr {
          flowchart := by simpa using nonFlow
          nodes := by simp [declaredNodes, other]
          edges := by simp [drawnEdges, other]
          sawHeader := by simp [header]
          going
          noErrors
          distinct }
      | false =>
        have flow : isFlowLine isWord line = true := by simp [isFlowLine, skipped, header]
        have edges : drawnEdges isWord [line] = findEdges line := by simp [drawnEdges, flow]
        have nodes : declaredNodes isWord [line] = (nodeDeclaration line).toList := by
          cases declaration : nodeDeclaration line <;>
            simp [declaredNodes, flow, declaration]
        rw [if_neg Bool.false_ne_true]
        cases declaration : nodeDeclaration line with
        | none =>
          exact .inr {
            flowchart := by simpa using nonFlow
            nodes := by simp [nodes, declaration, declare, addEdges]
            edges := by simp [edges, declare]
            sawHeader := by simp [header, declare, addEdges]
            going
            noErrors
            distinct }
        | some node =>
          obtain ⟨id, label⟩ := node
          by_cases again : id ∈ parsed.nodeIds
          · left
            simp [declare, again, nodes, declaration, nodup_append]
          · right
            exact {
              flowchart := by simpa using nonFlow
              nodes := by simp [nodes, declaration, declare, again, addEdges]
              edges := by simp [edges, declare, again]
              sawHeader := by simp [header, declare, again, addEdges]
              going := by simp [declare, again, addEdges, going]
              noErrors := by simp [declare, again, noErrors]
              distinct := by
                have ids : ({ parsed with
                    nodes := parsed.nodes ++ [(id, label)] }
                      : Parsed).nodeIds = parsed.nodeIds.concat id := by
                  simp [nodeIds]
                rw [addEdges_nodeIds, declare, if_neg again, ids]
                exact distinct.concat again }

variable {lines : List (List Char)} {result : Parsed}

theorem Adds.nodeIds_eq (adds : Adds isWord parsed lines result) :
    result.nodeIds = parsed.nodeIds ++ (declaredNodes isWord lines).map Prod.fst := by
  unfold nodeIds
  rw [adds.nodes, map_append]

theorem Adds.cons {line : List Char} {middle : Parsed} (first : Adds isWord parsed [line] middle)
    (rest : Adds isWord middle lines result) :
    Adds isWord parsed (line :: lines) result where
  flowchart := by
    rw [forall_mem_cons]
    exact ⟨first.flowchart line (mem_singleton_self line), rest.flowchart⟩
  nodes := by rw [rest.nodes, first.nodes, append_assoc, ← declaredNodes_cons]
  edges := by rw [rest.edges, first.edges, append_assoc, ← drawnEdges_cons]
  sawHeader := by
    rw [rest.sawHeader, first.sawHeader]
    simp [Bool.or_assoc]
  going := rest.going
  noErrors := rest.noErrors
  distinct := rest.distinct

variable (isWord parsed) in
theorem readLines_adds (content : ∀ raw ∈ raws, hasContent (strip raw) = true)
    (going : parsed.stopped = false) (noErrors : parsed.errors = [])
    (distinct : parsed.nodeIds.Nodup) :
    (parsed.readLines isWord raws).errors ≠ [] ∧ ((∃ line ∈ raws.map strip, isNonFlow line = true) ∨
          ¬ (parsed.nodeIds ++ (declaredNodes isWord (raws.map strip)).map Prod.fst).Nodup) ∨
      Adds isWord parsed (raws.map strip) (parsed.readLines isWord raws) := by
  induction raws generalizing parsed with
  | nil =>
    right
    exact {
      flowchart := by simp
      nodes := by simp [readLines, declaredNodes]
      edges := by simp [readLines, drawnEdges]
      sawHeader := by simp [readLines]
      going
      noErrors
      distinct }
  | cons raw rest ih =>
    rw [forall_mem_cons] at content
    obtain ⟨here, later⟩ := content
    rw [map_cons]
    show ((parsed.readLine isWord raw).readLines isWord rest).errors ≠ [] ∧
      _ ∨ Adds isWord parsed _ ((parsed.readLine isWord raw).readLines isWord rest)
    rcases readLine_adds isWord here going noErrors distinct with
      ⟨failed, reason⟩ | adds
    · refine .inl ⟨errors_ne_nil_readLines failed, ?_⟩
      rcases reason with nonFlow | again
      · exact .inl ⟨strip raw, mem_cons_self, nonFlow⟩
      · right
        rw [declaredNodes_cons, map_append, ← append_assoc]
        intro all
        exact again all.of_append_left
    · rcases ih _ later adds.going adds.noErrors adds.distinct with ⟨failed, reason⟩ | laterAdds
      · refine .inl ⟨failed, ?_⟩
        rw [adds.nodeIds_eq, append_assoc, ← map_append, ← declaredNodes_cons] at reason
        refine reason.imp_left ?_
        rintro ⟨line, member, nonFlow⟩
        exact ⟨line, mem_cons_of_mem _ member, nonFlow⟩
      · exact .inr (adds.cons laterAdds)

end Parsed

theorem errors_finish {result : Parsed} (going : result.stopped = false)
    (noErrors : result.errors = []) :
    result.finish.errors = [] ↔ result.sawHeader = true := by
  unfold Parsed.finish
  cases header : result.sawHeader <;> simp [going, noErrors]

theorem errors_ne_nil_finish {result : Parsed} (failed : result.errors ≠ []) :
    result.finish.errors ≠ [] := by
  unfold Parsed.finish
  split
  · exact failed
  · simp

variable (result : Parsed)

theorem finish_nodes : result.finish.nodes = result.nodes := by
  unfold Parsed.finish
  split <;> rfl

theorem finish_edges : result.finish.edges = result.edges := by
  unfold Parsed.finish
  split <;> rfl

theorem parseMermaid_reads (isWord : Char → Bool) (text : String) :
    ((parseMermaid isWord text).errors = [] ↔ (∀ line ∈ contentLines text, isNonFlow line = false) ∧
        (∃ line ∈ contentLines text, (headerDirection isWord line).isSome = true) ∧
        ((declaredNodes isWord (contentLines text)).map Prod.fst).Nodup) ∧
      ((parseMermaid isWord text).errors = [] →
        (parseMermaid isWord text).nodes = declaredNodes isWord (contentLines text) ∧
          (parseMermaid isWord text).edges = drawnEdges isWord (contentLines text)) := by
  have lines : contentLines text =
      ((withoutFence (splitLines (strip text.toList))).filter fun raw =>
        hasContent (strip raw)).map strip := filter_map
  have content : ∀ raw ∈ (withoutFence (splitLines (strip text.toList))).filter
      (fun raw => hasContent (strip raw)), hasContent (strip raw) = true := by
    intro raw member
    exact (mem_filter.mp member).2
  unfold parseMermaid
  rw [Parsed.readLines_filter, lines]
  generalize (withoutFence (splitLines (strip text.toList))).filter
    (fun raw => hasContent (strip raw)) = raws at content
  rcases Parsed.readLines_adds isWord {} content rfl rfl nodup_nil with ⟨failed, reason⟩ | adds
  · have failed := errors_ne_nil_finish failed
    refine ⟨iff_of_false failed ?_, fun noErrors => absurd noErrors failed⟩
    rintro ⟨flowchart, _, distinct⟩
    rcases reason with ⟨line, member, nonFlow⟩ | again
    · rw [flowchart line member] at nonFlow
      cases nonFlow
    · exact again distinct
  · have nodes := adds.nodes
    have edges := adds.edges
    have ids := adds.distinct
    rw [adds.nodeIds_eq] at ids
    rw [errors_finish adds.going adds.noErrors, adds.sawHeader, finish_nodes,
      finish_edges, nodes, edges]
    refine ⟨?_, fun _ => ⟨rfl, rfl⟩⟩
    constructor
    · intro header
      exact ⟨adds.flowchart, by simpa using header, ids⟩
    · rintro ⟨_, header, _⟩
      simpa using header

theorem parseReasons_eq_nil_iff (isWord : Char → Bool) (text : String) :
    (parseMermaid isWord text).errors ++ brokenEdges (parseMermaid isWord text) = [] ↔
      IsFlowchart isWord (contentLines text) := by
  obtain ⟨noErrors, reads⟩ := parseMermaid_reads isWord text
  rw [append_eq_nil_iff, brokenEdges_eq_nil_iff]
  unfold Parsed.nodeIds
  constructor
  · rintro ⟨none, declared⟩
    obtain ⟨flowchart, header, distinct⟩ := noErrors.mp none
    obtain ⟨nodes, edges⟩ := reads none
    rw [nodes, edges] at declared
    exact ⟨flowchart, header, distinct, declared⟩
  · rintro ⟨flowchart, header, distinct, declared⟩
    have none := noErrors.mpr ⟨flowchart, header, distinct⟩
    obtain ⟨nodes, edges⟩ := reads none
    rw [nodes, edges]
    exact ⟨none, declared⟩

end

end Mermaid

end AccruviaHarness
