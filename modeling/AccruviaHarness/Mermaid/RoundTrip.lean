import AccruviaHarness.Mermaid.ReadBack
import AccruviaHarness.Mermaid.Soundness

/-!
# Rendered flowcharts read back

A rendered flowchart is accepted with its own nodes and edges exactly when the
reader finds in its declarations what they declare.
-/

namespace AccruviaHarness

open List

namespace Mermaid

open Library

def Diagram.declarations (diagram : Diagram) : Diagram :=
  { diagram with
    statements := diagram.statements.filter fun statement => statement.edge?.isNone }

def readDeclarations (isWord : Char → Bool) (diagram : Diagram) : Parsed :=
  parseMermaid isWord diagram.declarations.text

def IsEndpoint (plans : List Plan) (id : String) : Prop :=
  id = objectiveNodeId ∨ id ∈ plans.map fun plan => canonicalNodeId plan.id

/-- The declarations of the diagram read as what they are drawn for: without
an error, with the plans' nodes as the nodes to match, and without an edge of
their own between the objective and the plans. -/
structure ReadsBack (isWord : Char → Bool) (plans : List Plan)
    (diagram : Diagram) : Prop where
  identifiers : ∀ plan ∈ plans, isIdentifier (canonicalNodeId plan.id).toList = true
  noErrors : (readDeclarations isWord diagram).errors = []
  matched : ∀ id, id ∈ (nodesToMatch (readDeclarations isWord diagram)).map Prod.fst ↔
      id ∈ plans.map fun plan => canonicalNodeId plan.id
  declared : ∀ edge ∈ diagram.edges ++ (readDeclarations isWord diagram).edges,
    edge.1 ∈ (readDeclarations isWord diagram).nodeIds ∧
      edge.2 ∈ (readDeclarations isWord diagram).nodeIds
  noFurther : ∀ edge ∈ (readDeclarations isWord diagram).edges,
    IsEndpoint plans edge.1 → IsEndpoint plans edge.2 → edge ∈ diagram.edges

section

variable {Score : Type} [LinearOrder Score] {isWord : Char → Bool}
  {matching : LabelMatching Score} {plans : List Plan}
  {objective : Objective}

/-- The rendered text is accepted, every canonical id is mapped to its own
plan, and the canonical text has the edges of the rendered one. -/
def RoundTrips (isWord : Char → Bool) (matching : LabelMatching Score)
    (plans : List Plan) (objective : Objective) : Prop :=
  ∃ diagram result canonical, renderMermaidFromPlans plans objective = .ok diagram ∧
      canonicalizeMermaid isWord matching diagram.text plans (some objective)
        false = .ok result ∧
      result.accepted = true ∧
      (∀ plan ∈ plans, (canonicalNodeId plan.id, plan.id) ∈ result.mapping) ∧
      result.canonical = some canonical ∧
      ∀ edge, edge ∈ canonical.edges ↔ edge ∈ diagram.edges

/-! ## Nodes under their own ids -/

theorem canonicalMatches_of_matched {nodes : List (String × String)}
    (distinct : (plans.map fun plan => canonicalNodeId plan.id).Nodup)
    (matched : ∀ id, id ∈ nodes.map Prod.fst ↔ id ∈ plans.map fun plan => canonicalNodeId plan.id) :
    (∀ plan ∈ plans, (canonicalNodeId plan.id, plan.id) ∈ canonicalMatches plans nodes) ∧
      ∀ node ∈ nodes, node.1 ∈ (canonicalMatches plans nodes).map Prod.fst := by
  have bound : ∀ plan ∈ plans, ∀ node ∈ nodes,
      node.1 = canonicalNodeId plan.id →
        (canonicalNodeId plan.id, plan.id) ∈ canonicalMatches plans nodes := by
    intro plan member node nodeMember same
    refine mem_filterMap.mpr ⟨node, nodeMember, ?_⟩
    rw [same, planByCanonical_of_mem distinct member]
    rfl
  constructor
  · intro plan member
    obtain ⟨node, nodeMember, same⟩ := mem_map.mp
      ((matched _).mpr (mem_map.mpr ⟨plan, member, rfl⟩))
    exact bound plan member node nodeMember same
  · intro node nodeMember
    obtain ⟨plan, member, same⟩ := mem_map.mp
      ((matched _).mp (mem_map.mpr ⟨node, nodeMember, rfl⟩))
    exact mem_map.mpr ⟨_, bound plan member node nodeMember same.symm, same⟩

theorem mapNodes_of_matched (matching : LabelMatching Score) {nodes : List (String × String)}
    (distinct : (plans.map fun plan => canonicalNodeId plan.id).Nodup)
    (matched : ∀ id, id ∈ nodes.map Prod.fst ↔ id ∈ plans.map fun plan => canonicalNodeId plan.id) :
    mapNodes matching plans nodes = .ok {
      pairs := canonicalMatches plans nodes
      usedLeft := []
      usedRight := (canonicalMatches plans nodes).map Prod.snd } := by
  obtain ⟨_, nodesBound⟩ := canonicalMatches_of_matched distinct matched
  have noNodes : (nodes.filter fun node =>
      node.1 ∉ (canonicalMatches plans nodes).map Prod.fst) = [] :=
    filter_eq_nil_iff.mpr fun node member => by simpa using nodesBound node member
  unfold mapNodes
  dsimp only
  rw [noNodes]
  rfl

theorem coverageReasons_of_matched (matching : LabelMatching Score) {nodes : List (String × String)}
    (distinct : (plans.map fun plan => canonicalNodeId plan.id).Nodup)
    (matched : ∀ id, id ∈ nodes.map Prod.fst ↔ id ∈ plans.map fun plan => canonicalNodeId plan.id) :
    let assigned : GreedyMatching String String := {
      pairs := canonicalMatches plans nodes
      usedLeft := []
      usedRight := (canonicalMatches plans nodes).map Prod.snd }
    coverageReasons matching plans nodes assigned false = .ok [] ∧
      unmappedNodes assigned nodes = [] := by
  intro assigned
  obtain ⟨plansBound, nodesBound⟩ := canonicalMatches_of_matched distinct matched
  have noNodes : unmappedNodes assigned nodes = [] :=
    filter_eq_nil_iff.mpr fun node member => by simpa using nodesBound node member
  have noPlans : unmappedPlans assigned plans = [] := by
    refine filter_eq_nil_iff.mpr fun id member => ?_
    obtain ⟨plan, planMember, rfl⟩ := mem_map.mp member
    have bound : plan.id ∈ assigned.usedRight :=
      mem_map.mpr ⟨_, plansBound plan planMember, rfl⟩
    simpa using bound
  have noAmbiguity : (nodes.filter fun node =>
      node.1 ∉ (canonicalMatches plans nodes).map Prod.fst ∧ node.1 ∉ assigned.usedLeft) = [] :=
    filter_eq_nil_iff.mpr fun node member => by
      intro free
      exact (of_decide_eq_true free).1 (nodesBound node member)
  refine ⟨?_, noNodes⟩
  unfold coverageReasons
  rw [noAmbiguity, noPlans, noNodes]
  rfl

/-! ## The text of a drawing -/

theorem node_endsVisibly (id label : String) :
    EndsVisibly (Statement.node id label).line.toList := by
  unfold Statement.line Statement.nodeText
  rw [String.toList_append, String.toList_append, String.toList_append, String.toList_append]
  refine endsVisibly_append _ (endsVisibly_append _ ?_)
  exact ⟨['"'], ']', rfl, rfl⟩

variable {nodes : List Statement} {dependencies : List (List Edge)}
  {diagram : Diagram}

theorem planStatement_node {statement : Statement} (labelled : plans.mapM planStatement = .ok nodes)
    (member : statement ∈ nodes) :
    ∃ id label, statement = .node id label := by
  obtain ⟨_, _, computed⟩ := (mem_of_mapM_ok labelled).1 statement member
  obtain ⟨_, _, built⟩ := exists_of_bind_ok computed
  cases built
  exact ⟨_, _, rfl⟩

section

variable {nodes : List Statement} {dependencies : List (List Edge)}

theorem edges_drawing {edges : List Edge} (labelled : plans.mapM planStatement = .ok nodes) :
    (drawing plans objective nodes edges).edges =
      rootEdges plans edges ++ orderBy EdgeBefore edges := by
  unfold Diagram.edges drawing
  rw [filterMap_append, cons_append, filterMap_cons,
    filterMap_append, (planStatements_spec labelled).2,
    (edgeStatements_spec _).2, (edgeStatements_spec _).2]
  rfl

theorem declarations_drawing {edges : List Edge} (labelled : plans.mapM planStatement = .ok nodes) :
    (drawing plans objective nodes edges).declarations =
      { direction := "TD", statements := objectiveStatement objective :: nodes } := by
  have noEdges (edges : List Edge) :
      ((edges.map edgeStatement).filter fun statement =>
        statement.edge?.isNone) = [] := by
    rw [filter_map]
    exact map_eq_nil_iff.mpr (filter_eq_nil_iff.mpr fun _ _ => Bool.false_ne_true)
  have allNodes : (nodes.filter fun statement =>
      statement.edge?.isNone) = nodes := by
    refine filter_eq_self.mpr fun statement member => ?_
    obtain ⟨_, _, rfl⟩ := planStatement_node labelled member
    rfl
  unfold Diagram.declarations drawing
  rw [filter_append, filter_append, noEdges, noEdges, append_nil, append_nil,
    filter_cons_of_pos (by rfl), allNodes]

theorem endpoints_drawing (labelled : plans.mapM planStatement = .ok nodes)
    (resolved : plans.mapM (edgesInto plans) = .ok dependencies)
    {edge : Edge}
    (member : edge ∈ (drawing plans objective nodes dependencies.flatten).edges) :
    IsEndpoint plans edge.1 ∧ IsEndpoint plans edge.2 := by
  rw [mem_edges_drawing labelled] at member
  rcases member with root | dependency
  · obtain ⟨fromObjective, planned, _⟩ := (mem_rootEdges _ _ _).mp root
    exact ⟨.inl fromObjective, .inr planned⟩
  · obtain ⟨source, target⟩ := mem_dependencyEdges resolved dependency
    exact ⟨.inr source, .inr target⟩

theorem parseMermaid_drawing (isWord : Char → Bool) (objective : Objective)
    (labelled : plans.mapM planStatement = .ok nodes)
    (resolved : plans.mapM (edgesInto plans) = .ok dependencies)
    (identifiers : ∀ plan ∈ plans, isIdentifier (canonicalNodeId plan.id).toList = true) :
    parseMermaid isWord (drawing plans objective nodes dependencies.flatten).text =
      let diagram := drawing plans objective nodes dependencies.flatten
      let read := readDeclarations isWord diagram
      if read.stopped then read else read.addEdges diagram.edges := by
  have drawn : ∀ id, IsEndpoint plans id → IsDrawnId id := by
    rintro id (rfl | member)
    · exact ⟨rfl, .inl rfl⟩
    · obtain ⟨plan, planMember, rfl⟩ := mem_map.mp member
      exact ⟨identifiers plan planMember, .inr ⟨plan.id, rfl⟩⟩
  have visible : ∀ statement ∈ objectiveStatement objective :: nodes,
      EndsVisibly statement.line.toList := by
    rw [forall_mem_cons]
    refine ⟨node_endsVisibly _ _, fun statement member => ?_⟩
    obtain ⟨id, label, rfl⟩ := planStatement_node labelled member
    exact node_endsVisibly id label
  have edgesDrawn : ∀ edge ∈ (drawing plans objective nodes dependencies.flatten).edges,
        IsDrawnId edge.1 ∧ IsDrawnId edge.2 := by
    intro edge member
    obtain ⟨source, target⟩ := endpoints_drawing labelled resolved member
    exact ⟨drawn _ source, drawn _ target⟩
  have statements : drawing plans objective nodes dependencies.flatten =
      { direction := "TD"
        statements := (objectiveStatement objective :: nodes) ++
          (drawing plans objective nodes dependencies.flatten).edges.map edgeStatement } := by
    rw [edges_drawing labelled, map_append, ← append_assoc]
    rfl
  have read := parseMermaid_drawn isWord visible edgesDrawn
  rw [← statements] at read
  unfold readDeclarations
  dsimp only
  rw [declarations_drawing labelled]
  exact read

end

/-! ## Nodes mapped to their own plans -/

section

variable {parsed : Parsed} {mapping : List (String × String)}

theorem mapsTo_own_iff (isMatching : IsMatching parsed plans mapping)
    (own : ∀ plan ∈ plans, (canonicalNodeId plan.id, plan.id) ∈ mapping)
    (id node : String) :
    MapsTo mapping id node ↔ id = node ∧ IsEndpoint plans node := by
  constructor
  · intro mapsTo
    cases mapsTo with
    | objective => exact ⟨rfl, .inl rfl⟩
    | @plan _ planId mapped =>
      obtain ⟨plan, member, rfl⟩ := mem_map.mp
        ((isMatching.plans planId).mp (mem_map.mpr ⟨_, mapped, rfl⟩))
      exact ⟨node_unique isMatching mapped (own plan member),
        .inr (mem_map.mpr ⟨plan, member, rfl⟩)⟩
  · rintro ⟨rfl, rfl | member⟩
    · exact .objective
    · obtain ⟨plan, planMember, rfl⟩ := mem_map.mp member
      exact .plan (own plan planMember)

theorem imageEdge_own_iff (isMatching : IsMatching parsed plans mapping)
    (own : ∀ plan ∈ plans, (canonicalNodeId plan.id, plan.id) ∈ mapping)
    (edge : Edge) :
    ImageEdge parsed mapping edge ↔ edge ∈ parsed.edges ∧
        IsEndpoint plans edge.1 ∧ IsEndpoint plans edge.2 := by
  unfold ImageEdge
  simp only [mapsTo_own_iff isMatching own]
  constructor
  · rintro ⟨_, _, member, ⟨rfl, first⟩, rfl, second⟩
    exact ⟨member, first, second⟩
  · rintro ⟨member, first, second⟩
    exact ⟨edge.1, edge.2, member, ⟨rfl, first⟩, rfl, second⟩

theorem drawn_of_addedEdge (isMatching : IsMatching parsed plans mapping)
    (own : ∀ plan ∈ plans, (canonicalNodeId plan.id, plan.id) ∈ mapping)
    (labelled : (orderBy PlanBefore plans).mapM planStatement = .ok nodes)
    (resolved : (orderBy PlanBefore plans).mapM
      (edgesInto (orderBy PlanBefore plans)) = .ok dependencies)
    (read : ∀ edge ∈ dependencies.flatten, edge ∈ parsed.edges)
    {edge : Edge}
    (added : AddedEdge plans (translatedEdges mapping parsed.edges) edge) :
    edge ∈ (drawing (orderBy PlanBefore plans) objective nodes dependencies.flatten).edges := by
  obtain ⟨fromObjective, plan, member, target, free⟩ := added
  rw [mem_edges_drawing labelled, mem_rootEdges]
  refine .inl ⟨fromObjective, ?_, ?_⟩
  · rw [target]
    exact mem_map.mpr ⟨plan, (mem_orderBy PlanBefore).mpr member, rfl⟩
  · intro dependent
    obtain ⟨inbound, inboundMember, same⟩ := mem_map.mp dependent
    have ends := mem_dependencyEdges resolved inboundMember
    simp only [mem_map, mem_orderBy] at ends
    obtain ⟨⟨source, sourceMember, sourceId⟩, other, otherMember, otherId⟩ := ends
    refine free ((mem_dependents _ _).mpr ⟨inbound.1, ?_, ?_⟩)
    · rw [← sourceId]
      exact canonicalNodeId_ne_objective source.id
    · rw [← target, ← same, mem_translatedEdges isMatching.nodesDistinct
        (objective_not_mapped isMatching), imageEdge_own_iff isMatching own]
      exact ⟨read inbound inboundMember, .inr (mem_map.mpr ⟨source, sourceMember, sourceId⟩),
        .inr (mem_map.mpr ⟨other, otherMember, otherId⟩)⟩

end

/-! ## Acceptance -/

theorem brokenEdges_eq_nil_iff (parsed : Parsed) :
    brokenEdges parsed = [] ↔
      ∀ edge ∈ parsed.edges, edge.1 ∈ parsed.nodeIds ∧ edge.2 ∈ parsed.nodeIds := by
  unfold brokenEdges
  rw [flatMap_eq_nil_iff]
  refine forall₂_congr fun edge _ => ?_
  simp [filter_eq_nil_iff]

theorem canonicalizeMermaid_of_matched (matching : LabelMatching Score) (objective : Objective)
    {proposedText : String}
    (distinct : (plans.map fun plan => canonicalNodeId plan.id).Nodup)
    (noErrors : (parseMermaid isWord proposedText).errors = [])
    (noBroken : brokenEdges (parseMermaid isWord proposedText) = [])
    (matched : ∀ id, id ∈ (nodesToMatch (parseMermaid isWord proposedText)).map Prod.fst ↔
        id ∈ plans.map fun plan => canonicalNodeId plan.id)
    (labelled : (orderBy PlanBefore plans).mapM planStatement = .ok nodes) :
    ∃ result, canonicalizeMermaid isWord matching proposedText plans
        (some objective) false = .ok result ∧
      result.accepted = true ∧
      result.mapping = canonicalMatches plans
        (nodesToMatch (parseMermaid isWord proposedText)) := by
  obtain ⟨covered, noNodes⟩ := coverageReasons_of_matched matching distinct matched
  have mapped := mapNodes_of_matched matching distinct matched
  unfold canonicalizeMermaid
  generalize parseMermaid isWord proposedText = parsed at *
  obtain ⟨diagram, emitted⟩ : ∃ diagram, emit plans (some objective) parsed
        (canonicalMatches plans (nodesToMatch parsed)) = .ok diagram := by
    unfold emit emitCanonical
    dsimp only
    rw [labelled]
    exact ⟨_, rfl⟩
  have noReasons : parsed.errors ++ brokenEdges parsed = [] := by
    rw [noErrors, noBroken]
    rfl
  dsimp only
  rw [if_neg (not_not.mpr noReasons), mapped, ok_bind, covered, ok_bind,
    if_neg (not_not.mpr rfl), noNodes, if_neg (by simp), emitted]
  exact ⟨_, rfl, rfl, rfl⟩

theorem not_roundTrips_nil : ¬ RoundTrips isWord matching [] objective := by
  rintro ⟨_, _, _, rendered, returned, accepted, _, drawn, sameEdges⟩
  obtain ⟨_, _, isMatching, _, canonicalDrawn, emitted⟩ := of_accepted returned accepted
  rw [drawn] at canonicalDrawn
  cases canonicalDrawn
  obtain rfl := renderMermaidFromPlans_nil rfl rendered
  have placeholder : (objectiveNodeId, "AWAITING") ∈ (awaitingDiagram objective).edges := by
    exact mem_singleton_self _
  rw [← sameEdges, mem_edges_of_emitCanonical isMatching emitted] at placeholder
  rcases placeholder with ⟨_, _, _, _, targetMaps⟩ | added
  · generalize node : "AWAITING" = other at targetMaps
    cases targetMaps with
    | objective => exact absurd node (by decide)
    | @plan _ planId mapped =>
      have member := (isMatching.plans planId).mp (mem_map.mpr ⟨_, mapped, rfl⟩)
      exact not_mem_nil member
  · obtain ⟨_, _, member, _⟩ := added
    exact not_mem_nil member

theorem parseMermaid_orderedDrawing
    (labelled : (orderBy PlanBefore plans).mapM planStatement = .ok nodes)
    (resolved : (orderBy PlanBefore plans).mapM
      (edgesInto (orderBy PlanBefore plans)) = .ok dependencies)
    (identifiers : ∀ plan ∈ plans, isIdentifier (canonicalNodeId plan.id).toList = true)
    (drawn : diagram = drawing (orderBy PlanBefore plans) objective nodes dependencies.flatten)
    (noErrors : (parseMermaid isWord diagram.text).errors = [] ∨
      (readDeclarations isWord diagram).errors = []) :
    parseMermaid isWord diagram.text =
      (readDeclarations isWord diagram).addEdges diagram.edges := by
  subst drawn
  have read := parseMermaid_drawing isWord objective labelled resolved
    fun plan member => identifiers plan ((mem_orderBy PlanBefore).mp member)
  dsimp only at read
  have running : (readDeclarations isWord (drawing (orderBy PlanBefore plans)
      objective nodes dependencies.flatten)).stopped = false := by
    cases stopped : (readDeclarations isWord (drawing (orderBy PlanBefore plans)
        objective nodes dependencies.flatten)).stopped with
    | false => rfl
    | true =>
      have errors := (parseMermaid_wellFormed isWord _).stops stopped
      rw [stopped, if_pos rfl] at read
      rw [read] at noErrors
      exact absurd (noErrors.elim id id) errors
  rw [running] at read
  exact read

theorem readsBack_of_accepted {canonical : Diagram} {result : CanonicalizeResult}
    (labelled : (orderBy PlanBefore plans).mapM planStatement = .ok nodes)
    (resolved : (orderBy PlanBefore plans).mapM
      (edgesInto (orderBy PlanBefore plans)) = .ok dependencies)
    (isDrawing : diagram = drawing (orderBy PlanBefore plans) objective nodes dependencies.flatten)
    (returned : canonicalizeMermaid isWord matching diagram.text plans
      (some objective) false = .ok result)
    (accepted : result.accepted = true)
    (own : ∀ plan ∈ plans, (canonicalNodeId plan.id, plan.id) ∈ result.mapping)
    (drawn : result.canonical = some canonical)
    (sameEdges : ∀ edge, edge ∈ canonical.edges ↔ edge ∈ diagram.edges) :
    ReadsBack isWord plans diagram := by
  obtain ⟨noErrors, noBroken, isMatching, emittedDiagram, canonicalDrawn,
    emitted⟩ := of_accepted returned accepted
  rw [drawn] at canonicalDrawn
  cases canonicalDrawn
  have mappedId (id : String) : id ∈ result.mapping.map Prod.fst ↔
      id ∈ plans.map fun plan => canonicalNodeId plan.id := by
    constructor
    · intro key
      obtain ⟨entry, mapped, rfl⟩ := mem_map.mp key
      obtain ⟨plan, member, same⟩ := mem_map.mp
        ((isMatching.plans entry.2).mp (mem_map.mpr ⟨_, mapped, rfl⟩))
      have ownMapped : (entry.1, plan.id) ∈ result.mapping := same ▸ mapped
      rw [node_unique isMatching ownMapped (own plan member)]
      exact mem_map.mpr ⟨plan, member, rfl⟩
    · intro member
      obtain ⟨plan, planMember, rfl⟩ := mem_map.mp member
      exact mem_map.mpr ⟨_, own plan planMember, rfl⟩
  have identifiers : ∀ plan ∈ plans, isIdentifier (canonicalNodeId plan.id).toList = true := by
    intro plan member
    refine (parseMermaid_wellFormed isWord diagram.text).identifiers _ ?_
    have matched := (isMatching.nodes _).mp
      ((mappedId _).mpr (mem_map.mpr ⟨plan, member, rfl⟩))
    exact (filter_sublist.map Prod.fst).subset matched
  have read := parseMermaid_orderedDrawing labelled resolved identifiers isDrawing (.inl noErrors)
  rw [brokenEdges_eq_nil_iff] at noBroken
  have edges := mem_edges_of_emitCanonical isMatching emitted
  rw [read] at noErrors noBroken isMatching edges
  rw [Parsed.addEdges_errors] at noErrors
  simp only [Parsed.addEdges_edges, Parsed.addEdges_nodeIds] at noBroken
  refine ⟨identifiers, noErrors, ?matched, ?declared, ?noFurther⟩
  case matched =>
    intro id
    rw [← mappedId, isMatching.nodes, nodesToMatch_addEdges]
  case declared =>
    intro edge member
    exact noBroken edge (mem_append.mpr (mem_append.mp member).symm)
  case noFurther =>
    intro edge member source target
    rw [← sameEdges, edges, imageEdge_own_iff isMatching own]
    rw [Parsed.addEdges_edges]
    exact .inl ⟨mem_append_left _ member, source, target⟩

theorem roundTrips_of_readsBack (distinct : (plans.map fun plan => canonicalNodeId plan.id).Nodup)
    (labelled : (orderBy PlanBefore plans).mapM planStatement = .ok nodes)
    (resolved : (orderBy PlanBefore plans).mapM
      (edgesInto (orderBy PlanBefore plans)) = .ok dependencies)
    (isDrawing : diagram = drawing (orderBy PlanBefore plans) objective nodes dependencies.flatten)
    (rendered : renderMermaidFromPlans plans objective = .ok diagram)
    (readsBack : ReadsBack isWord plans diagram) :
    RoundTrips isWord matching plans objective := by
  have read := parseMermaid_orderedDrawing labelled resolved
    readsBack.identifiers isDrawing (.inr readsBack.noErrors)
  have noErrors : (parseMermaid isWord diagram.text).errors = [] := by
    rw [read, Parsed.addEdges_errors]
    exact readsBack.noErrors
  have matched : ∀ id, id ∈ (nodesToMatch (parseMermaid isWord diagram.text)).map Prod.fst ↔
        id ∈ plans.map fun plan => canonicalNodeId plan.id := by
    rw [read, nodesToMatch_addEdges]
    exact readsBack.matched
  have noBroken : brokenEdges (parseMermaid isWord diagram.text) = [] := by
    rw [brokenEdges_eq_nil_iff, read, Parsed.addEdges_edges, Parsed.addEdges_nodeIds]
    intro edge member
    exact readsBack.declared edge (mem_append.mpr (mem_append.mp member).symm)
  obtain ⟨result, returned, accepted, mapping⟩ :=
    canonicalizeMermaid_of_matched matching objective distinct noErrors noBroken matched labelled
  obtain ⟨_, _, isMatching, canonical, drawn, emitted⟩ := of_accepted returned accepted
  have own : ∀ plan ∈ plans, (canonicalNodeId plan.id, plan.id) ∈ result.mapping := by
    rw [mapping]
    exact (canonicalMatches_of_matched distinct matched).1
  refine ⟨diagram, result, canonical, rendered, returned, accepted, own, drawn, fun edge => ?_⟩
  have inDrawing : edge ∈ diagram.edges → IsEndpoint plans edge.1 ∧ IsEndpoint plans edge.2 := by
    intro member
    rw [isDrawing] at member
    obtain ⟨source, target⟩ := endpoints_drawing labelled resolved member
    simp only [IsEndpoint, mem_map, mem_orderBy] at source target ⊢
    exact ⟨source, target⟩
  rw [mem_edges_of_emitCanonical isMatching emitted,
    imageEdge_own_iff isMatching own, read, Parsed.addEdges_edges]
  constructor
  · rintro (⟨member, source, target⟩ | added)
    · rcases mem_append.mp member with readEdge | drawnEdge
      · exact readsBack.noFurther edge readEdge source target
      · exact drawnEdge
    · rw [read] at isMatching
      rw [isDrawing]
      refine drawn_of_addedEdge isMatching own labelled resolved ?_ added
      intro dependency member
      rw [Parsed.addEdges_edges]
      refine mem_append_right _ ?_
      rw [isDrawing, mem_edges_drawing labelled]
      exact .inr member
  · intro member
    exact .inl ⟨mem_append_right _ member, inDrawing member⟩

/-- A rendering is read back as it was drawn exactly when there are plans and
the declarations read as what they are drawn for. -/
theorem roundTrips_iff (kept : ∀ plan ∈ plans, plan.approvalStatus ≠ "rejected")
    (distinct : (plans.map fun plan => canonicalNodeId plan.id).Nodup) :
    RoundTrips isWord matching plans objective ↔
      plans ≠ [] ∧ ∃ diagram, renderMermaidFromPlans plans objective = .ok diagram ∧
          ReadsBack isWord plans diagram := by
  by_cases empty : plans = []
  · subst empty
    constructor
    · exact fun roundTrips => absurd roundTrips not_roundTrips_nil
    · exact fun ⟨nonempty, _⟩ => absurd rfl nonempty
  · have nonempty : drawnPlans plans ≠ [] := by
      rw [drawnPlans_of_none_rejected kept]
      exact fun none => empty ((orderBy_eq_nil_iff PlanBefore).mp none)
    have rendering := renderMermaidFromPlans_eq_ok_iff nonempty objective
    rw [drawnPlans_of_none_rejected kept] at rendering
    constructor
    · rintro ⟨diagram, _, _, rendered, returned, accepted, own, drawn, sameEdges⟩
      obtain ⟨nodes, dependencies, labelled, resolved, isDrawing⟩ := (rendering _).mp rendered
      exact ⟨empty, diagram, rendered,
        readsBack_of_accepted labelled resolved isDrawing returned accepted own drawn sameEdges⟩
    · rintro ⟨_, _, rendered, readsBack⟩
      obtain ⟨_, _, labelled, resolved, isDrawing⟩ := (rendering _).mp rendered
      exact roundTrips_of_readsBack distinct labelled resolved isDrawing rendered readsBack

end

/-! ## Without plans, and with two -/

/-- The placeholder of an empty plan set is an edge to a node that the reader
does not see declared. -/
theorem awaiting_not_roundTrips :
    renderMermaidFromPlans [] soleObjective = .ok (awaitingDiagram soleObjective) ∧
      canonicalizeMermaid Char.isAlphanum defaultLabelMatching
        (awaitingDiagram soleObjective).text [] (some soleObjective) false =
          .ok { rejectionReasons := ["edge references undeclared node: AWAITING"] } ∧
      ¬ RoundTrips Char.isAlphanum defaultLabelMatching [] soleObjective := by
  refine ⟨rfl, by decide +kernel, not_roundTrips_nil⟩

def secondPlan : Plan where
  id := "plan_second"
  objectiveId := "objective"
  slice := [("label", .str "second step [with \"quotes\"]"),
    ("dependencies", .list [.str "plan_first", .str "plan_unknown"])]
  createdAt := 1

theorem twoPlans_roundTrip :
    RoundTrips Char.isAlphanum defaultLabelMatching [secondPlan, firstPlan]
      soleObjective := by
  refine (roundTrips_iff (by decide) (by decide)).mpr ⟨cons_ne_nil _ _, ?_⟩
  have rendered : renderMermaidFromPlans [secondPlan, firstPlan]
      soleObjective = .ok {
        direction := "TD"
        statements := [.node "O" "Objective: Objective",
          .node "P_first" "first step",
          .node "P_second" "second step [with 'quotes']",
          .edge "O" "P_first", .edge "P_first" "P_second"] } := by
    decide +kernel
  have read : readDeclarations Char.isAlphanum {
      direction := "TD"
      statements := [.node "O" "Objective: Objective",
        .node "P_first" "first step",
        .node "P_second" "second step [with 'quotes']",
        .edge "O" "P_first", .edge "P_first" "P_second"] } =
      { nodes := [("O", "Objective: Objective"), ("P_first", "first step"),
          ("P_second", "second step [with 'quotes']")]
        sawHeader := true } := by
    decide +kernel
  refine ⟨_, rendered, by decide, ?noErrors, ?matched, ?declared, ?noFurther⟩
  case noErrors => rw [read]
  case matched =>
    intro id
    rw [read]
    have first : canonicalNodeId "plan_first" = "P_first" := by decide
    have second : canonicalNodeId "plan_second" = "P_second" := by decide
    simp [nodesToMatch, objectiveNodeId, firstPlan, secondPlan, first, second, or_comm]
  case declared =>
    rw [read]
    decide
  case noFurther =>
    rw [read]
    exact forall_mem_nil _

end Mermaid

end AccruviaHarness
