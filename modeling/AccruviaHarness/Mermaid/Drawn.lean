import AccruviaHarness.Mermaid.Render

/-!
# What a rendered flowchart shows

A rendered flowchart has a node for each plan, an edge for each dependency
between them, and an edge from the objective to every plan without one.
-/

namespace AccruviaHarness

open List

namespace Mermaid

open Library

theorem canonicalNodeId_ne_objective (planId : String) :
    canonicalNodeId planId ≠ objectiveNodeId := by
  intro same
  have characters := congrArg String.toList same
  unfold canonicalNodeId at characters
  rw [String.toList_append] at characters
  injection characters with first
  exact absurd first (by decide)

variable {plans : List Plan}

theorem planStatements_spec {nodes : List Statement}
    (drawn : plans.mapM planStatement = .ok nodes) :
    nodes.filterMap Statement.nodeId? = plans.map (fun plan => canonicalNodeId plan.id) ∧
      nodes.filterMap Statement.edge? = [] := by
  have rows := forall₂_of_mapM_ok drawn
  clear drawn
  induction rows with
  | nil => exact ⟨rfl, rfl⟩
  | cons here _ ih =>
    obtain ⟨ids, edges⟩ := ih
    obtain ⟨_, _, same⟩ := exists_of_bind_ok here
    cases same
    exact ⟨congrArg _ ids, edges⟩

theorem edgeStatements_spec (edges : List Edge) :
    (edges.map edgeStatement).filterMap Statement.nodeId? = [] ∧
      (edges.map edgeStatement).filterMap Statement.edge? = edges := by
  rw [filterMap_map, filterMap_map]
  exact ⟨filterMap_eq_nil_iff.mpr fun _ _ => rfl, filterMap_some⟩

def drawnPlans (plans : List Plan) : List Plan :=
  orderBy PlanBefore <| plans.filter fun plan => plan.approvalStatus ≠ "rejected"

theorem drawnPlans_of_none_rejected (kept : ∀ plan ∈ plans, plan.approvalStatus ≠ "rejected") :
    drawnPlans plans = orderBy PlanBefore plans := by
  have same : (plans.filter fun plan => plan.approvalStatus ≠ "rejected") =
      plans :=
    filter_eq_self.mpr fun plan member => decide_eq_true (kept plan member)
  unfold drawnPlans
  rw [same]

def drawing (plans : List Plan) (objective : Objective)
    (nodes : List Statement) (edges : List Edge) : Diagram where
  direction := "TD"
  statements := objectiveStatement objective :: nodes ++
    (rootEdges plans edges).map edgeStatement ++ (orderBy EdgeBefore edges).map edgeStatement

def awaitingDiagram (objective : Objective) : Diagram where
  direction := "TD"
  statements := [objectiveStatement objective,
    .edgeToLabelled objectiveNodeId "AWAITING" "awaiting decomposition"]

theorem renderMermaidFromPlans_nil {objective : Objective} {diagram : Diagram}
    (empty : drawnPlans plans = [])
    (rendered : renderMermaidFromPlans plans objective = .ok diagram) :
    diagram = awaitingDiagram objective := by
  have noPlans : (plans.filter fun plan => plan.approvalStatus ≠ "rejected") = [] :=
    (orderBy_eq_nil_iff PlanBefore).mp empty
  unfold renderMermaidFromPlans at rendered
  rw [noPlans] at rendered
  cases rendered
  rfl

theorem renderMermaidFromPlans_eq_ok_iff (nonempty : drawnPlans plans ≠ [])
    (objective : Objective) (diagram : Diagram) :
    renderMermaidFromPlans plans objective = .ok diagram ↔
      ∃ nodes dependencies, (drawnPlans plans).mapM planStatement = .ok nodes ∧
          (drawnPlans plans).mapM (edgesInto (drawnPlans plans)) = .ok dependencies ∧
          diagram = drawing (drawnPlans plans) objective nodes
            dependencies.flatten := by
  have somePlans : (plans.filter fun plan =>
      plan.approvalStatus ≠ "rejected").isEmpty = false := by
    rw [isEmpty_eq_false_iff]
    exact fun empty => nonempty ((orderBy_eq_nil_iff PlanBefore).mpr empty)
  constructor
  · intro rendered
    unfold renderMermaidFromPlans at rendered
    dsimp only at rendered
    rw [somePlans] at rendered
    obtain ⟨nodes, labelled, rendered⟩ := exists_of_bind_ok rendered
    obtain ⟨dependencies, resolved, rendered⟩ := exists_of_bind_ok rendered
    cases rendered
    exact ⟨nodes, dependencies, labelled, resolved, rfl⟩
  · rintro ⟨nodes, _, labelled, resolved, rfl⟩
    unfold renderMermaidFromPlans
    dsimp only
    rw [somePlans]
    change ((drawnPlans plans).mapM planStatement >>= fun nodes =>
      (drawnPlans plans).mapM (edgesInto (drawnPlans plans)) >>= _) = _
    rw [labelled]
    change ((drawnPlans plans).mapM (edgesInto (drawnPlans plans)) >>= _) = _
    rw [resolved]
    rfl

theorem mem_rootEdges (plans : List Plan) (edges : List Edge) (edge : Edge) :
    edge ∈ rootEdges plans edges ↔
      edge.1 = objectiveNodeId ∧ edge.2 ∈ (plans.map fun plan => canonicalNodeId plan.id) ∧
          edge.2 ∉ edges.map Prod.snd := by
  unfold rootEdges
  rw [mem_map]
  constructor
  · rintro ⟨_, kept, rfl⟩
    obtain ⟨member, free⟩ := mem_filter.mp kept
    exact ⟨rfl, member, of_decide_eq_true free⟩
  · rintro ⟨fromObjective, member, free⟩
    refine ⟨edge.2, mem_filter.mpr ⟨member, decide_eq_true free⟩, ?_⟩
    rw [← fromObjective]

section

variable {plans : List Plan} {objective : Objective}
  {nodes : List Statement} {edges : List Edge}

theorem mem_edges_drawing (labelled : plans.mapM planStatement = .ok nodes) (edge : Edge) :
    edge ∈ (drawing plans objective nodes edges).edges ↔
      edge ∈ rootEdges plans edges ∨ edge ∈ edges := by
  unfold Diagram.edges drawing
  rw [filterMap_append, cons_append, filterMap_cons,
    filterMap_append, (planStatements_spec labelled).2,
    (edgeStatements_spec _).2, (edgeStatements_spec _).2]
  change edge ∈ rootEdges plans edges ++ orderBy EdgeBefore edges ↔ _
  rw [mem_append, mem_orderBy]

theorem referencedNode_mem {reference source : String}
    (found : referencedNode plans reference = some source) :
    source ∈ plans.map fun plan => canonicalNodeId plan.id := by
  unfold referencedNode at found
  split at found
  next known =>
    cases found
    exact known.2
  · split at found
    next known =>
      cases found
      obtain ⟨plan, member, rfl⟩ := mem_map.mp known
      exact mem_map.mpr ⟨plan, member, rfl⟩
    · cases found

theorem canonicalNodeId_of_suffix {planId : String} {suffix : List Char}
    (characters : planId.toList = 'P' :: '_' :: suffix) :
    canonicalNodeId planId = "P_" ++ String.ofList (suffix.take 12) := by
  unfold canonicalNodeId
  rw [characters]
  have underscore : '_' ∈ 'P' :: '_' :: suffix := mem_cons_of_mem _ mem_cons_self
  dsimp only
  rw [if_pos underscore]
  rfl

theorem canonicalNodeId_canonical (planId : String) :
    canonicalNodeId (canonicalNodeId planId) = canonicalNodeId planId := by
  obtain ⟨suffix, same⟩ : ∃ suffix : List Char,
      canonicalNodeId planId = "P_" ++ String.ofList (suffix.take 12) :=
    ⟨_, rfl⟩
  have characters : (canonicalNodeId planId).toList = 'P' :: '_' :: suffix.take 12 := by
    rw [same, String.toList_append]
    exact congrArg ("P_".toList ++ ·) String.toList_ofList
  rw [canonicalNodeId_of_suffix characters, take_take, Nat.min_self, same]

theorem referencedNode_of_id {plan : Plan} (member : plan ∈ plans) :
    referencedNode plans plan.id = some (canonicalNodeId plan.id) := by
  unfold referencedNode
  split
  next canonical =>
    obtain ⟨_, _, same⟩ := mem_map.mp canonical.2
    rw [← same, canonicalNodeId_canonical]
  · rw [if_pos (mem_map.mpr ⟨plan, member, rfl⟩)]

theorem mem_dependencyEdges {dependencies : List (List Edge)} {edge : Edge}
    (resolved : plans.mapM (edgesInto plans) = .ok dependencies)
    (member : edge ∈ dependencies.flatten) :
    edge.1 ∈ (plans.map fun plan => canonicalNodeId plan.id) ∧
      edge.2 ∈ plans.map fun plan => canonicalNodeId plan.id := by
  obtain ⟨row, rowMember, inRow⟩ := mem_flatten.mp member
  obtain ⟨plan, planMember, computed⟩ := (mem_of_mapM_ok resolved).1 row rowMember
  obtain ⟨_, _, built⟩ := exists_of_bind_ok computed
  cases built
  obtain ⟨_, _, drawn⟩ := mem_filterMap.mp inRow
  obtain ⟨_, found, rfl⟩ := Option.map_eq_some_iff.mp drawn
  exact ⟨referencedNode_mem found, mem_map.mpr ⟨plan, planMember, rfl⟩⟩

end

end Mermaid

end AccruviaHarness
