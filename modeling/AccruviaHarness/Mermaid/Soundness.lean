import AccruviaHarness.Mermaid.Canonicalize
import AccruviaHarness.Mermaid.Drawn

/-!
# What an accepted flowchart says

An accepted proposal maps its nodes one to one to the plans, and the canonical
text redraws its edges over the plans' own nodes. A plan whose only inbound
edge comes from itself is left out of the roots.
-/

namespace AccruviaHarness

open List

namespace Mermaid

open Library

/-! ## The intended result -/

inductive MapsTo (mapping : List (String × String)) : String → String → Prop
  | objective : MapsTo mapping objectiveNodeId objectiveNodeId
  | plan {id planId : String} (mapped : (id, planId) ∈ mapping) :
      MapsTo mapping id (canonicalNodeId planId)

variable (parsed : Parsed)

def ImageEdge (mapping : List (String × String)) (edge : Edge) : Prop :=
  ∃ source target, (source, target) ∈ parsed.edges ∧
    MapsTo mapping source edge.1 ∧ MapsTo mapping target edge.2

def RootEdge (plans : List Plan) (mapping : List (String × String)) (edge : Edge) : Prop :=
  edge.1 = objectiveNodeId ∧ ∃ plan ∈ plans, edge.2 = canonicalNodeId plan.id ∧
      ∀ source target, (source, target) ∈ parsed.edges → (target, plan.id) ∈ mapping →
          ∀ other, (source, other) ∈ mapping → other = plan.id

structure IsMatching (parsed : Parsed) (plans : List Plan)
    (mapping : List (String × String)) : Prop where
  nodesDistinct : (mapping.map Prod.fst).Nodup
  plansDistinct : (mapping.map Prod.snd).Nodup
  nodes : ∀ id, id ∈ mapping.map Prod.fst ↔ id ∈ (nodesToMatch parsed).map Prod.fst
  plans : ∀ id, id ∈ mapping.map Prod.snd ↔ id ∈ plans.map Plan.id

/-- The mapping is one to one and onto, the diagram declares the objective
and the plans once each, and its edges are the redrawn edges and those of the
roots. -/
structure Redraws (parsed : Parsed) (plans : List Plan)
    (mapping : List (String × String)) (diagram : Diagram) : Prop where
  isMatching : IsMatching parsed plans mapping
  declaredOnce : diagram.nodeIds.Nodup
  declares : ∀ id, id ∈ diagram.nodeIds ↔
    id = objectiveNodeId ∨ id ∈ plans.map fun plan => canonicalNodeId plan.id
  edges : ∀ edge, edge ∈ diagram.edges ↔
    ImageEdge parsed mapping edge ∨ RootEdge parsed plans mapping edge

/-- Every matched node with an edge to itself has an edge from the objective
or from another matched node as well. -/
def SelfEdgesReached : Prop :=
  ∀ id ∈ (nodesToMatch parsed).map Prod.fst, (id, id) ∈ parsed.edges →
    ∃ source, (source, id) ∈ parsed.edges ∧ source ≠ id ∧ (source = objectiveNodeId ∨
        source ∈ (nodesToMatch parsed).map Prod.fst)

/-! ## Canonical ids -/

variable {plans : List Plan} {mapping : List (String × String)}

theorem planId_of_canonical {first second : Plan}
    (distinct : (plans.map fun plan => canonicalNodeId plan.id).Nodup)
    (firstMember : first ∈ plans) (secondMember : second ∈ plans)
    (same : canonicalNodeId first.id = canonicalNodeId second.id) :
    first = second :=
  inj_on_of_nodup_map distinct firstMember secondMember same

/-! ## The mapping -/

variable {parsed : Parsed} {plan : Plan} {nodes : List (String × String)}

theorem nodesToMatch_distinct (wellFormed : parsed.WellFormed) :
    ((nodesToMatch parsed).map Prod.fst).Nodup :=
  wellFormed.distinct.sublist (filter_sublist.map Prod.fst)

theorem objective_not_mem_nodesToMatch (parsed : Parsed) :
    objectiveNodeId ∉ (nodesToMatch parsed).map Prod.fst := by
  intro member
  obtain ⟨_, kept, same⟩ := mem_map.mp member
  have other := (mem_filter.mp kept).2
  rw [decide_eq_true_eq] at other
  exact other.1 same

theorem planByCanonical_some {id : String} (found : planByCanonical plans id = some plan) :
    plan ∈ plans ∧ canonicalNodeId plan.id = id := by
  constructor
  · exact mem_reverse.mp (mem_of_find?_eq_some found)
  · simpa using find?_some found

theorem planByCanonical_of_mem (distinct : (plans.map fun plan => canonicalNodeId plan.id).Nodup)
    (member : plan ∈ plans) :
    planByCanonical plans (canonicalNodeId plan.id) = some plan := by
  cases found : planByCanonical plans (canonicalNodeId plan.id) with
  | none =>
    have other := find?_eq_none.mp found plan (mem_reverse.mpr member)
    simp at other
  | some _ =>
    obtain ⟨firstMember, canonical⟩ := planByCanonical_some found
    rw [planId_of_canonical distinct firstMember member canonical]

theorem mem_canonicalMatches
    {entry : String × String} (member : entry ∈ canonicalMatches plans nodes) :
    entry.1 ∈ nodes.map Prod.fst ∧ entry.2 ∈ plans.map Plan.id ∧
      canonicalNodeId entry.2 = entry.1 := by
  obtain ⟨node, nodeMember, bound⟩ := mem_filterMap.mp member
  obtain ⟨plan, found, rfl⟩ := Option.map_eq_some_iff.mp bound
  obtain ⟨planMember, canonical⟩ := planByCanonical_some found
  exact ⟨mem_map.mpr ⟨node, nodeMember, rfl⟩,
    mem_map.mpr ⟨plan, planMember, rfl⟩, canonical⟩

theorem canonicalMatches_keys (plans : List Plan) (nodes : List (String × String)) :
    ((canonicalMatches plans nodes).map Prod.fst).Sublist (nodes.map Prod.fst) := by
  induction nodes with
  | nil => exact List.Sublist.slnil
  | cons node _ ih =>
    unfold canonicalMatches
    rw [filterMap_cons, map_cons]
    split
    · exact ih.cons node.1
    next entry bound =>
      obtain ⟨_, _, rfl⟩ := Option.map_eq_some_iff.mp bound
      exact ih.cons_cons node.1

theorem canonicalMatches_distinct (plans : List Plan) (distinct : (nodes.map Prod.fst).Nodup) :
    ((canonicalMatches plans nodes).map Prod.fst).Nodup ∧
      ((canonicalMatches plans nodes).map Prod.snd).Nodup := by
  have keys : ((canonicalMatches plans nodes).map Prod.fst).Nodup :=
    distinct.sublist (canonicalMatches_keys plans nodes)
  refine ⟨keys, keys.of_map.map_on ?_⟩
  intro first firstMember second secondMember same
  have firstKey := (mem_canonicalMatches firstMember).2.2
  have secondKey := (mem_canonicalMatches secondMember).2.2
  refine Prod.ext ?_ same
  rw [← firstKey, ← secondKey, same]

section

variable {Score : Type} [LinearOrder Score]
  {matching : LabelMatching Score}

variable {plans : List Plan} {nodes : List (String × String)}

theorem mem_qualifyingPlans {label : String}
    {scored : List (Score × String)} {entry : Score × String}
    (returned : qualifyingPlans matching plans label = .ok scored)
    (member : entry ∈ scored) : entry.2 ∈ plans.map Plan.id := by
  obtain ⟨_, computed, kept⟩ := exists_of_bind_ok returned
  cases kept
  obtain ⟨_, planMember, row⟩ := (mem_of_mapM_ok computed).1 entry (mem_of_mem_filter member)
  obtain ⟨_, _, same⟩ := exists_of_bind_ok row
  cases same
  exact mem_map_of_mem planMember

theorem mem_similarPairs {pairs : List (Score × Edge)} {pair : Score × Edge}
    (returned : similarPairs matching plans nodes = .ok pairs)
    (member : pair ∈ pairs) :
    pair.2.1 ∈ nodes.map Prod.fst ∧ pair.2.2 ∈ plans.map Plan.id := by
  obtain ⟨_, computed, flattened⟩ := exists_of_bind_ok returned
  cases flattened
  obtain ⟨row, rowMember, inRow⟩ := mem_flatten.mp member
  obtain ⟨node, nodeMember, computedRow⟩ := (mem_of_mapM_ok computed).1 row rowMember
  obtain ⟨_, scored, sameRow⟩ := exists_of_bind_ok computedRow
  cases sameRow
  obtain ⟨entry, entryMember, rfl⟩ := mem_map.mp inRow
  have planned : entry.2 ∈ plans.map Plan.id := mem_qualifyingPlans scored entryMember
  exact ⟨mem_map.mpr ⟨node, nodeMember, rfl⟩, planned⟩

variable {assigned : GreedyMatching String String}

theorem mapNodes_spec (distinct : (nodes.map Prod.fst).Nodup)
    (returned : mapNodes matching plans nodes = .ok assigned) :
    assigned.Valid (fun id => id ∉ (canonicalMatches plans nodes).map Prod.fst) ∧
      ∀ entry ∈ assigned.pairs, entry.1 ∈ nodes.map Prod.fst ∧ entry.2 ∈ plans.map Plan.id := by
  obtain ⟨pairs, similar, assignedAll⟩ := exists_of_bind_ok returned
  cases assignedAll
  obtain ⟨keys, values⟩ := canonicalMatches_distinct plans distinct
  have candidate : ∀ pair ∈ (orderBy PairBefore pairs).map Prod.snd,
      pair.1 ∉ (canonicalMatches plans nodes).map Prod.fst ∧
        pair.1 ∈ nodes.map Prod.fst ∧ pair.2 ∈ plans.map Plan.id := by
    intro pair member
    obtain ⟨_, scoredMember, rfl⟩ := mem_map.mp member
    obtain ⟨node, plan⟩ := mem_similarPairs similar ((mem_orderBy PairBefore).mp scoredMember)
    obtain ⟨_, kept, same⟩ := mem_map.mp node
    obtain ⟨nodeMember, free⟩ := mem_filter.mp kept
    rw [same, decide_eq_true_eq] at free
    refine ⟨free, same ▸ mem_map_of_mem nodeMember, ?_⟩
    exact (filter_sublist.map Plan.id).subset plan
  constructor
  · apply GreedyMatching.run_valid
    · refine ⟨keys, values, fun _ => .rfl, ?_⟩
      intro id free
      exact ⟨fun impossible => absurd impossible not_mem_nil, fun taken => absurd taken free⟩
    · exact fun pair member => (candidate pair member).1
  · intro entry member
    rcases GreedyMatching.mem_run member with fixed | assigned
    · obtain ⟨node, plan, _⟩ := mem_canonicalMatches fixed
      exact ⟨node, plan⟩
    · exact (candidate entry assigned).2

theorem of_coverageReasons_nil {allowPlanAdds : Bool}
    (returned : coverageReasons matching plans nodes assigned allowPlanAdds = .ok []) :
    unmappedPlans assigned plans = [] ∧
      (allowPlanAdds = false → unmappedNodes assigned nodes = []) := by
  obtain ⟨_, _, returned⟩ := exists_of_bind_ok returned
  obtain ⟨_, droppedAll, returned⟩ := exists_of_bind_ok returned
  injection returned with joined
  obtain ⟨ambiguousDropped, orphans⟩ := append_eq_nil_iff.mp joined
  obtain ⟨_, rfl⟩ := append_eq_nil_iff.mp ambiguousDropped
  constructor
  · have rows := forall₂_of_mapM_ok droppedAll
    exact forall₂_nil_right_iff.mp rows
  · rintro rfl
    exact map_eq_nil_iff.mp orphans

end

/-! ## The canonical diagram -/

theorem find?_eq_some_iff_of_distinct (distinct : (mapping.map Prod.fst).Nodup)
    (id : String) (entry : String × String) :
    mapping.find? (fun entry => entry.1 = id) = some entry ↔ entry ∈ mapping ∧ entry.1 = id := by
  constructor
  · intro found
    exact ⟨mem_of_find?_eq_some found, by simpa using find?_some found⟩
  · rintro ⟨member, own⟩
    cases found : mapping.find? fun entry => entry.1 = id with
    | none =>
      have other := find?_eq_none.mp found entry member
      exact absurd own (by simpa using other)
    | some first =>
      have firstOwn : first.1 = id := by simpa using find?_some found
      rw [inj_on_of_nodup_map distinct
        (mem_of_find?_eq_some found) member (firstOwn.trans own.symm)]

theorem canonicalEndpoint_eq_some_iff (distinct : (mapping.map Prod.fst).Nodup)
    (noObjective : objectiveNodeId ∉ mapping.map Prod.fst)
    (id node : String) :
    canonicalEndpoint mapping id = some node ↔ MapsTo mapping id node := by
  unfold canonicalEndpoint
  constructor
  · intro translated
    split at translated
    next same =>
      cases translated
      rw [same]
      exact .objective
    · obtain ⟨entry, found, rfl⟩ := Option.map_eq_some_iff.mp translated
      obtain ⟨member, rfl⟩ := (find?_eq_some_iff_of_distinct distinct id entry).mp found
      exact .plan member
  · intro mapsTo
    cases mapsTo with
    | objective => exact if_pos rfl
    | @plan _ planId mapped =>
      have other : id ≠ objectiveNodeId := by
        rintro rfl
        exact noObjective (mem_map.mpr ⟨_, mapped, rfl⟩)
      rw [if_neg other, (find?_eq_some_iff_of_distinct distinct id (id, planId)).mpr ⟨mapped, rfl⟩]
      rfl

theorem mem_translatedEdges (distinct : (mapping.map Prod.fst).Nodup)
    (noObjective : objectiveNodeId ∉ mapping.map Prod.fst) (edge : Edge) :
    edge ∈ translatedEdges mapping parsed.edges ↔ ImageEdge parsed mapping edge := by
  unfold translatedEdges ImageEdge
  rw [mem_filterMap]
  constructor
  · rintro ⟨⟨source, target⟩, member, translated⟩
    obtain ⟨first, firstFound, translated⟩ := Option.bind_eq_some_iff.mp translated
    obtain ⟨second, secondFound, translated⟩ := Option.bind_eq_some_iff.mp translated
    cases translated
    rw [canonicalEndpoint_eq_some_iff distinct noObjective] at firstFound
    rw [canonicalEndpoint_eq_some_iff distinct noObjective] at secondFound
    exact ⟨source, target, member, firstFound, secondFound⟩
  · rintro ⟨source, target, member, first, second⟩
    rw [← canonicalEndpoint_eq_some_iff distinct noObjective] at first
    rw [← canonicalEndpoint_eq_some_iff distinct noObjective] at second
    refine ⟨(source, target), member, ?_⟩
    change (canonicalEndpoint mapping source >>= fun first =>
      canonicalEndpoint mapping target >>= fun second => some (first, second)) = some edge
    rw [first, second]
    rfl

theorem emitCanonical_spec {objective : Objective} {edges : List Edge} {direction : String}
    {diagram : Diagram}
    (emitted : emitCanonical plans objective edges mapping direction = .ok diagram) :
    diagram.nodeIds = objectiveNodeId ::
        (orderBy PlanBefore plans).map (fun plan => canonicalNodeId plan.id) ∧
      diagram.edges = orderBy EdgeBefore (canonicalEdges (orderBy PlanBefore plans)
          (translatedEdges mapping edges)).dedup := by
  obtain ⟨_, drawn, built⟩ := exists_of_bind_ok emitted
  cases built
  obtain ⟨ids, noEdges⟩ := planStatements_spec drawn
  constructor
  · unfold Diagram.nodeIds
    rw [cons_append, filterMap_cons, filterMap_append, ids,
      (edgeStatements_spec _).1, append_nil]
    rfl
  · unfold Diagram.edges
    rw [cons_append, filterMap_cons, filterMap_append, noEdges,
      (edgeStatements_spec _).2]
    rfl

theorem mem_dependents (edges : List Edge) (id : String) :
    id ∈ dependents edges ↔ ∃ source, source ≠ objectiveNodeId ∧ (source, id) ∈ edges := by
  unfold dependents
  simp only [mem_map, mem_filter, decide_eq_true_eq, Prod.exists]
  constructor
  · rintro ⟨source, _, ⟨member, other⟩, rfl⟩
    exact ⟨source, other, member⟩
  · rintro ⟨source, other, member⟩
    exact ⟨source, id, ⟨member, other⟩, rfl⟩

def AddedEdge (plans : List Plan) (translated : List Edge) (edge : Edge) :
    Prop :=
  edge.1 = objectiveNodeId ∧ ∃ plan ∈ plans, edge.2 = canonicalNodeId plan.id ∧
      canonicalNodeId plan.id ∉ dependents translated

theorem mem_canonicalEdges (plans : List Plan) (translated : List Edge) (edge : Edge) :
    edge ∈ canonicalEdges plans translated ↔
      edge ∈ translated ∨ AddedEdge plans translated edge := by
  unfold canonicalEdges AddedEdge
  rw [mem_append]
  constructor
  · rintro (member | added)
    · exact .inl member
    · obtain ⟨id, kept, rfl⟩ := mem_map.mp added
      obtain ⟨planned, free⟩ := mem_filter.mp kept
      obtain ⟨plan, member, rfl⟩ := mem_map.mp planned
      rw [decide_eq_true_eq] at free
      exact .inr ⟨rfl, plan, member, rfl, free.1⟩
  · rintro (member | ⟨fromObjective, plan, member, target, free⟩)
    · exact .inl member
    · obtain ⟨_, _⟩ := edge
      subst fromObjective target
      by_cases drawn : (objectiveNodeId, canonicalNodeId plan.id) ∈ translated
      · exact .inl drawn
      · refine .inr (mem_map.mpr ⟨canonicalNodeId plan.id, ?_, rfl⟩)
        exact mem_filter.mpr ⟨mem_map.mpr ⟨plan, member, rfl⟩,
          decide_eq_true ⟨free, drawn⟩⟩

/-! ## The edges of the roots -/

section

variable {parsed : Parsed} {plans : List Plan}
  {mapping : List (String × String)}

variable {id first second direction : String} {plan : Plan} {edge : Edge}
  {objective : Objective} {diagram : Diagram}

theorem mapsTo_objective (mapsTo : MapsTo mapping id objectiveNodeId) :
    id = objectiveNodeId := by
  generalize target : objectiveNodeId = node at mapsTo
  cases mapsTo with
  | objective => rfl
  | plan _ => exact absurd target.symm (canonicalNodeId_ne_objective _)

theorem objective_not_mapped (isMatching : IsMatching parsed plans mapping) :
    objectiveNodeId ∉ mapping.map Prod.fst := by
  rw [isMatching.nodes]
  exact objective_not_mem_nodesToMatch parsed

theorem mapsTo_canonical_iff (distinct : (plans.map fun plan => canonicalNodeId plan.id).Nodup)
    (isMatching : IsMatching parsed plans mapping) (member : plan ∈ plans)
    (id : String) :
    MapsTo mapping id (canonicalNodeId plan.id) ↔ (id, plan.id) ∈ mapping := by
  constructor
  · intro mapsTo
    generalize target : canonicalNodeId plan.id = node at mapsTo
    cases mapsTo with
    | objective => exact absurd target (canonicalNodeId_ne_objective _)
    | @plan _ planId mapped =>
      obtain ⟨_, otherMember, rfl⟩ := mem_map.mp
        ((isMatching.plans planId).mp (mem_map.mpr ⟨_, mapped, rfl⟩))
      rw [planId_of_canonical distinct member otherMember target]
      exact mapped
  · exact .plan

theorem mem_dependents_translated (distinct : (plans.map fun plan => canonicalNodeId plan.id).Nodup)
    (isMatching : IsMatching parsed plans mapping) (member : plan ∈ plans) :
    canonicalNodeId plan.id ∈ dependents (translatedEdges mapping parsed.edges) ↔
      ∃ source target other, (source, target) ∈ parsed.edges ∧
        (source, other) ∈ mapping ∧ (target, plan.id) ∈ mapping := by
  rw [mem_dependents]
  constructor
  · rintro ⟨_, fromPlan, drawn⟩
    rw [mem_translatedEdges isMatching.nodesDistinct (objective_not_mapped isMatching)] at drawn
    obtain ⟨source, target, edge, sourceMaps, targetMaps⟩ := drawn
    rw [mapsTo_canonical_iff distinct isMatching member] at targetMaps
    cases sourceMaps with
    | objective => exact absurd rfl fromPlan
    | @plan _ other mapped => exact ⟨source, target, other, edge, mapped, targetMaps⟩
  · rintro ⟨source, target, other, edge, mapped, targetMapped⟩
    refine ⟨canonicalNodeId other, canonicalNodeId_ne_objective other, ?_⟩
    rw [mem_translatedEdges isMatching.nodesDistinct (objective_not_mapped isMatching)]
    exact ⟨source, target, edge, .plan mapped, .plan targetMapped⟩

theorem node_unique (isMatching : IsMatching parsed plans mapping) {planId : String}
    (firstMapped : (first, planId) ∈ mapping)
    (secondMapped : (second, planId) ∈ mapping) : first = second := by
  have same := inj_on_of_nodup_map isMatching.plansDistinct firstMapped secondMapped rfl
  exact congrArg Prod.fst same

theorem plan_unique (isMatching : IsMatching parsed plans mapping)
    (firstMapped : (id, first) ∈ mapping)
    (secondMapped : (id, second) ∈ mapping) : first = second := by
  have same := inj_on_of_nodup_map isMatching.nodesDistinct firstMapped secondMapped rfl
  exact congrArg Prod.snd same

theorem rootEdge_of_added (distinct : (plans.map fun plan => canonicalNodeId plan.id).Nodup)
    (isMatching : IsMatching parsed plans mapping)
    (added : AddedEdge plans (translatedEdges mapping parsed.edges) edge) :
    RootEdge parsed plans mapping edge := by
  obtain ⟨fromObjective, plan, member, target, free⟩ := added
  refine ⟨fromObjective, plan, member, target, ?_⟩
  intro source node edge nodeMapped other sourceMapped
  refine absurd ?_ free
  rw [mem_dependents_translated distinct isMatching member]
  exact ⟨source, node, other, edge, sourceMapped, nodeMapped⟩

theorem drawn_of_rootEdge (distinct : (plans.map fun plan => canonicalNodeId plan.id).Nodup)
    (isMatching : IsMatching parsed plans mapping)
    (reached : SelfEdgesReached parsed)
    (root : RootEdge parsed plans mapping edge) :
    ImageEdge parsed mapping edge ∨
      AddedEdge plans (translatedEdges mapping parsed.edges) edge := by
  obtain ⟨fromObjective, plan, member, target, noOther⟩ := root
  obtain ⟨_, _⟩ := edge
  subst fromObjective target
  by_cases dependent : canonicalNodeId plan.id ∈ dependents (translatedEdges mapping parsed.edges)
  · rw [mem_dependents_translated distinct isMatching member] at dependent
    obtain ⟨source, own, other, edge, sourceMapped, ownMapped⟩ := dependent
    have samePlan : other = plan.id := noOther source own edge ownMapped other sourceMapped
    subst samePlan
    obtain rfl : source = own := node_unique isMatching sourceMapped ownMapped
    have declared : source ∈ (nodesToMatch parsed).map Prod.fst :=
      (isMatching.nodes source).mp (mem_map.mpr ⟨_, ownMapped, rfl⟩)
    obtain ⟨first, firstEdge, different, origin⟩ := reached source declared edge
    rcases origin with rfl | firstNode
    · exact .inl ⟨objectiveNodeId, source, firstEdge, .objective, .plan ownMapped⟩
    · obtain ⟨entry, entryMember, rfl⟩ := mem_map.mp ((isMatching.nodes first).mpr firstNode)
      have samePlan : entry.2 = plan.id :=
        noOther entry.1 source firstEdge ownMapped entry.2 entryMember
      exact absurd (node_unique isMatching (samePlan ▸ entryMember) ownMapped) different
  · exact .inr ⟨rfl, plan, member, rfl, dependent⟩

theorem reached_of_drawn (distinct : (plans.map fun plan => canonicalNodeId plan.id).Nodup)
    (isMatching : IsMatching parsed plans mapping)
    (drawn : ∀ edge, RootEdge parsed plans mapping edge → ImageEdge parsed mapping edge ∨
        AddedEdge plans (translatedEdges mapping parsed.edges) edge) :
    SelfEdgesReached parsed := by
  intro id declared selfEdge
  by_contra unreached
  obtain ⟨entry, mapped, rfl⟩ := mem_map.mp ((isMatching.nodes id).mpr declared)
  obtain ⟨plan, member, samePlan⟩ := mem_map.mp
    ((isMatching.plans entry.2).mp (mem_map.mpr ⟨_, mapped, rfl⟩))
  have ownMapped : (entry.1, plan.id) ∈ mapping := samePlan ▸ mapped
  have root : RootEdge parsed plans mapping (objectiveNodeId, canonicalNodeId plan.id) := by
    refine ⟨rfl, plan, member, rfl, ?_⟩
    intro source target edge targetMapped other sourceMapped
    obtain rfl : target = entry.1 := node_unique isMatching targetMapped ownMapped
    by_cases own : source = entry.1
    · subst own
      exact plan_unique isMatching sourceMapped ownMapped
    · refine absurd ⟨source, edge, own, .inr ?_⟩ unreached
      exact (isMatching.nodes source).mp (mem_map.mpr ⟨_, sourceMapped, rfl⟩)
  rcases drawn _ root with image | added
  · obtain ⟨source, target, edge, sourceMaps, targetMaps⟩ := image
    obtain rfl : source = objectiveNodeId := mapsTo_objective sourceMaps
    rw [mapsTo_canonical_iff distinct isMatching member] at targetMaps
    obtain rfl : target = entry.1 := node_unique isMatching targetMaps ownMapped
    refine unreached ⟨objectiveNodeId, edge, ?_, .inl rfl⟩
    intro same
    exact objective_not_mem_nodesToMatch parsed (same ▸ declared)
  · obtain ⟨_, _, _, target, free⟩ := added
    rw [← target] at free
    refine free ?_
    rw [mem_dependents_translated distinct isMatching member]
    exact ⟨entry.1, entry.1, plan.id, selfEdge, ownMapped, ownMapped⟩

theorem mem_edges_of_emitCanonical (isMatching : IsMatching parsed plans mapping)
    (emitted : emitCanonical plans objective parsed.edges mapping direction =
      .ok diagram) (edge : Edge) :
    edge ∈ diagram.edges ↔ ImageEdge parsed mapping edge ∨
      AddedEdge plans (translatedEdges mapping parsed.edges) edge := by
  rw [(emitCanonical_spec emitted).2, mem_orderBy, mem_dedup,
    mem_canonicalEdges, mem_translatedEdges isMatching.nodesDistinct
      (objective_not_mapped isMatching)]
  simp only [AddedEdge, mem_orderBy]

theorem redraws_iff (distinct : (plans.map fun plan => canonicalNodeId plan.id).Nodup)
    (isMatching : IsMatching parsed plans mapping)
    (emitted : emitCanonical plans objective parsed.edges mapping direction = .ok diagram) :
    Redraws parsed plans mapping diagram ↔ SelfEdgesReached parsed := by
  have ids := (emitCanonical_spec emitted).1
  have edges := mem_edges_of_emitCanonical isMatching emitted
  constructor
  · intro redraws
    apply reached_of_drawn distinct isMatching
    intro edge root
    rw [← edges]
    exact (redraws.edges edge).mpr (.inr root)
  · intro reached
    refine ⟨isMatching, ?declaredOnce, ?declares, ?edges⟩
    case declaredOnce =>
      rw [ids, nodup_cons]
      refine ⟨?_, nodup_map_orderBy PlanBefore distinct⟩
      intro member
      obtain ⟨plan, _, same⟩ := mem_map.mp member
      exact canonicalNodeId_ne_objective plan.id same
    case declares =>
      intro id
      rw [ids, mem_cons]
      simp only [mem_map, mem_orderBy]
    case edges =>
      intro edge
      rw [edges]
      constructor
      · rintro (image | added)
        · exact .inl image
        · exact .inr (rootEdge_of_added distinct isMatching added)
      · rintro (image | root)
        · exact .inl image
        · exact drawn_of_rootEdge distinct isMatching reached root

end

/-! ## Acceptance -/

section

variable {Score : Type} [LinearOrder Score] {isWord : Char → Bool}
  {matching : LabelMatching Score} {proposedText : String}
  {plans : List Plan} {objective : Objective} {allowPlanAdds : Bool}
  {result : CanonicalizeResult}

theorem isMatching_of_mapNodes {parsed : Parsed} {assigned : GreedyMatching String String}
    (wellFormed : parsed.WellFormed)
    (mapped : mapNodes matching plans (nodesToMatch parsed) = .ok assigned)
    (plansBound : unmappedPlans assigned plans = [])
    (nodesBound : unmappedNodes assigned (nodesToMatch parsed) = []) :
    IsMatching parsed plans assigned.pairs := by
  obtain ⟨valid, entries⟩ := mapNodes_spec (nodesToMatch_distinct wellFormed) mapped
  refine ⟨valid.leftDistinct, valid.rightDistinct, ?nodes, ?plans⟩
  case nodes =>
    intro id
    constructor
    · intro key
      obtain ⟨entry, member, rfl⟩ := mem_map.mp key
      exact (entries entry member).1
    · intro member
      obtain ⟨node, nodeMember, rfl⟩ := mem_map.mp member
      have bound := filter_eq_nil_iff.mp nodesBound node nodeMember
      simpa using bound
  case plans =>
    intro id
    constructor
    · intro value
      obtain ⟨entry, member, rfl⟩ := mem_map.mp value
      exact (entries entry member).2
    · intro member
      have bound := filter_eq_nil_iff.mp plansBound id member
      rw [← valid.used]
      simpa using bound

theorem of_accepted (returned : canonicalizeMermaid isWord matching proposedText plans
      (some objective) allowPlanAdds = .ok result)
    (accepted : result.accepted = true) :
    (parseMermaid isWord proposedText).errors = [] ∧
      brokenEdges (parseMermaid isWord proposedText) = [] ∧
      IsMatching (parseMermaid isWord proposedText) plans result.mapping ∧
      ∃ diagram, result.canonical = some diagram ∧ emitCanonical plans objective
          (parseMermaid isWord proposedText).edges result.mapping
          (parseMermaid isWord proposedText).direction = .ok diagram := by
  have wellFormed := parseMermaid_wellFormed isWord proposedText
  unfold canonicalizeMermaid at returned
  generalize parseMermaid isWord proposedText = parsed at *
  dsimp only at returned
  split at returned
  · cases returned
    cases accepted
  next noReasons =>
    have reasons : parsed.errors ++ brokenEdges parsed = [] := Classical.not_not.mp noReasons
    obtain ⟨errors, broken⟩ := append_eq_nil_iff.mp reasons
    obtain ⟨assigned, mapped, returned⟩ := exists_of_bind_ok returned
    obtain ⟨coverage, covered, returned⟩ := exists_of_bind_ok returned
    split at returned
    · cases returned
      cases accepted
    next noCoverage =>
      split at returned
      · cases returned
        cases accepted
      next noAdds =>
        obtain ⟨diagram, emitted, returned⟩ := exists_of_bind_ok returned
        cases returned
        have clear : coverage = [] := Classical.not_not.mp noCoverage
        subst clear
        obtain ⟨plansBound, nodesBound⟩ := of_coverageReasons_nil covered
        have allNodes : unmappedNodes assigned (nodesToMatch parsed) = [] := by
          cases allowPlanAdds with
          | false => exact nodesBound rfl
          | true => exact Classical.not_not.mp fun adds => noAdds ⟨rfl, adds⟩
        exact ⟨errors, broken, isMatching_of_mapNodes wellFormed mapped plansBound allNodes,
          diagram, rfl, emitted⟩

/-- An accepted proposal is redrawn as intended exactly when each matched node
with an edge to itself is reached from elsewhere. -/
theorem accepted_redraws_iff (distinct : (plans.map fun plan => canonicalNodeId plan.id).Nodup)
    (returned : canonicalizeMermaid isWord matching proposedText plans
      (some objective) allowPlanAdds = .ok result)
    (accepted : result.accepted = true) :
    (∃ diagram, result.canonical = some diagram ∧
        Redraws (parseMermaid isWord proposedText) plans result.mapping diagram) ↔
      SelfEdgesReached (parseMermaid isWord proposedText) := by
  obtain ⟨_, _, isMatching, diagram, drawn, emitted⟩ := of_accepted returned accepted
  rw [drawn, ← redraws_iff distinct isMatching emitted]
  constructor
  · rintro ⟨_, same, redraws⟩
    cases same
    exact redraws
  · intro redraws
    exact ⟨diagram, rfl, redraws⟩

end

/-! ## A plan that only points to itself -/

def firstPlan : Plan where
  id := "plan_first"
  objectiveId := "objective"
  slice := [("label", .str "first step")]

def soleObjective : Objective where
  id := "objective"
  projectId := "project"
  title := "Objective"

def selfEdgeText : String :=
  "flowchart TD\nO[Objective]\nP_first[first step]\nP_first --> P_first"

def selfEdgeDiagram : Diagram where
  direction := "TD"
  statements := [.node "O" "Objective: Objective",
    .node "P_first" "first step", .edge "P_first" "P_first"]

def selfEdgeResult : CanonicalizeResult where
  accepted := true
  canonical := some selfEdgeDiagram
  mapping := [("P_first", "plan_first")]

theorem selfEdge_accepted :
    canonicalizeMermaid Char.isAlphanum defaultLabelMatching selfEdgeText
      [firstPlan] (some soleObjective) false = .ok selfEdgeResult := by
  decide +kernel

/-- The plan is drawn without an edge from the objective, though no other node
points to it. -/
theorem selfEdge_not_redrawn :
    canonicalizeMermaid Char.isAlphanum defaultLabelMatching selfEdgeText
        [firstPlan] (some soleObjective) false = .ok selfEdgeResult ∧
      selfEdgeResult.accepted = true ∧ ¬ ∃ diagram, selfEdgeResult.canonical = some diagram ∧
          Redraws (parseMermaid Char.isAlphanum selfEdgeText) [firstPlan]
            selfEdgeResult.mapping diagram := by
  refine ⟨selfEdge_accepted, rfl, ?_⟩
  rintro ⟨_, same, redraws⟩
  cases same
  have root : RootEdge (parseMermaid Char.isAlphanum selfEdgeText)
      [firstPlan] selfEdgeResult.mapping ("O", "P_first") := by
    refine ⟨rfl, firstPlan, mem_singleton_self firstPlan, rfl, ?_⟩
    intro source target _ _ other mapped
    cases mem_singleton.mp mapped
    rfl
  have drawn : ("O", "P_first") ∈ selfEdgeDiagram.edges := (redraws.edges _).mpr (.inr root)
  revert drawn
  decide

def reachedText : String :=
  "flowchart TD\nO[Objective]\nA[first step]\nO --> A\nA --> A"

def reachedDiagram : Diagram where
  direction := "TD"
  statements := [.node "O" "Objective: Objective",
    .node "P_first" "first step", .edge "O" "P_first",
    .edge "P_first" "P_first"]

def reachedResult : CanonicalizeResult where
  accepted := true
  canonical := some reachedDiagram
  mapping := [("A", "plan_first")]

theorem reached_redrawn :
    ∃ diagram, reachedResult.canonical = some diagram ∧
      Redraws (parseMermaid Char.isAlphanum reachedText) [firstPlan]
        reachedResult.mapping diagram := by
  have returned :
      canonicalizeMermaid Char.isAlphanum defaultLabelMatching reachedText
        [firstPlan] (some soleObjective) false = .ok reachedResult := by
    decide +kernel
  refine (accepted_redraws_iff (by decide) returned rfl).mpr ?_
  have parsed : parseMermaid Char.isAlphanum reachedText =
      { nodes := [("O", "Objective"), ("A", "first step")], edges := [("O", "A"), ("A", "A")]
        sawHeader := true } := by
    decide +kernel
  intro id declared _
  rw [parsed] at declared ⊢
  obtain rfl : id = "A" := by simpa [nodesToMatch, objectiveNodeId] using declared
  exact ⟨"O", by decide, by decide, .inl rfl⟩

end Mermaid

end AccruviaHarness
