import AccruviaHarness.Library.GraphSearch
import AccruviaHarness.Mermaid.RoundTrip

/-!
# Paths from the objective

The objective is linked to the plans that no plan leads to. A cycle of plans
that no other plan leads into has no such plan, and is drawn without a path
from the objective unless the proposal has an edge into it.
-/

namespace AccruviaHarness

open List

namespace Mermaid

open Library Relation

/-! ## The proposed graph and the canonical one -/

section

variable (parsed : Parsed)

def MatchedEdge (source target : String) : Prop :=
  (source, target) ∈ parsed.edges ∧ source ∈ (nodesToMatch parsed).map Prod.fst ∧
    target ∈ (nodesToMatch parsed).map Prod.fst

def ObjectiveLeadsTo (id : String) : Prop := (objectiveNodeId, id) ∈ parsed.edges

/-- Each cycle of matched nodes that no other matched node leads into has an
edge from the objective to one of its nodes. -/
def SourceCyclesEntered : Prop :=
  ∀ id, OnSourceCycle (MatchedEdge parsed) id → ∃ entry, ObjectiveLeadsTo parsed entry ∧
      ReflTransGen (MatchedEdge parsed) entry id

end

def Diagram.Leads (diagram : Diagram) (source target : String) : Prop :=
  (source, target) ∈ diagram.edges

def ReachesPlans (plans : List Plan) (diagram : Diagram) : Prop :=
  ∀ plan ∈ plans, ReflTransGen diagram.Leads objectiveNodeId (canonicalNodeId plan.id)

theorem finite_ancestors (parsed : Parsed) (id : String) :
    {first | ReflTransGen (MatchedEdge parsed) first id}.Finite := by
  have matched : {node | node ∈ (nodesToMatch parsed).map Prod.fst}.Finite := finite_toSet _
  refine (matched.insert id).subset ?_
  intro first reaches
  rcases ReflTransGen.cases_head reaches with rfl | ⟨_, edge, _⟩
  · exact Set.mem_insert _ _
  · exact Set.mem_insert_of_mem _ edge.2.1

/-! ## Paths of the canonical graph -/

section

variable {parsed : Parsed} {plans : List Plan}
  {mapping : List (String × String)}

theorem mapsTo_unique (distinct : (plans.map fun plan => canonicalNodeId plan.id).Nodup)
    (isMatching : IsMatching parsed plans mapping)
    {first second node : String} (firstMaps : MapsTo mapping first node)
    (secondMaps : MapsTo mapping second node) : first = second := by
  cases firstMaps with
  | objective => exact (mapsTo_objective secondMaps).symm
  | @plan _ planId mapped =>
    obtain ⟨_, member, rfl⟩ := mem_map.mp
      ((isMatching.plans planId).mp (mem_map.mpr ⟨_, mapped, rfl⟩))
    have other := (mapsTo_canonical_iff distinct isMatching member second).mp secondMaps
    exact node_unique isMatching mapped other

theorem matched_of_mapped (isMatching : IsMatching parsed plans mapping) {id planId : String}
    (mapped : (id, planId) ∈ mapping) :
    id ∈ (nodesToMatch parsed).map Prod.fst :=
  (isMatching.nodes id).mp (mem_map.mpr ⟨_, mapped, rfl⟩)

theorem isSource_iff (distinct : (plans.map fun plan => canonicalNodeId plan.id).Nodup)
    (isMatching : IsMatching parsed plans mapping) {id : String} {plan : Plan}
    (member : plan ∈ plans) (mapped : (id, plan.id) ∈ mapping) :
    IsSource (MatchedEdge parsed) id ↔ canonicalNodeId plan.id ∉
        dependents (translatedEdges mapping parsed.edges) := by
  rw [mem_dependents_translated distinct isMatching member]
  constructor
  · rintro isSource ⟨source, target, _, edge, sourceMapped, targetMapped⟩
    obtain rfl : target = id := node_unique isMatching targetMapped mapped
    exact isSource source ⟨edge, matched_of_mapped isMatching sourceMapped,
      matched_of_mapped isMatching mapped⟩
  · intro free source edge
    obtain ⟨drawn, matched, _⟩ := edge
    obtain ⟨entry, entryMember, rfl⟩ := mem_map.mp ((isMatching.nodes source).mpr matched)
    exact free ⟨entry.1, id, entry.2, drawn, entryMember, mapped⟩

section

variable {diagram : Diagram}
  (distinct : (plans.map fun plan => canonicalNodeId plan.id).Nodup)
  (isMatching : IsMatching parsed plans mapping)
  (edges : ∀ edge, edge ∈ diagram.edges ↔ ImageEdge parsed mapping edge ∨
    AddedEdge plans (translatedEdges mapping parsed.edges) edge)

include distinct isMatching edges

theorem entered_of_path {node : String} (path : ReflTransGen diagram.Leads objectiveNodeId node) :
    ∃ id, MapsTo mapping id node ∧ (id = objectiveNodeId ∨
      IsEntered (MatchedEdge parsed) (ObjectiveLeadsTo parsed) id) := by
  induction path with
  | refl => exact ⟨objectiveNodeId, .objective, .inl rfl⟩
  | @tail middle node _ drawn ih =>
    rcases (edges _).mp drawn with image | added
    · obtain ⟨source, target, edge, sourceMaps, targetMaps⟩ := image
      refine ⟨target, targetMaps, ?_⟩
      cases targetMaps with
      | objective => exact .inl rfl
      | @plan _ _ targetMapped =>
        right
        cases sourceMaps with
        | objective => exact ⟨target, .inl edge, ReflTransGen.refl⟩
        | @plan _ planId sourceMapped =>
          obtain ⟨id, maps, isObjective | entered⟩ := ih
          · subst isObjective
            have same := mapsTo_unique distinct isMatching maps (.plan sourceMapped)
            have declared := matched_of_mapped isMatching sourceMapped
            rw [← same] at declared
            exact absurd declared (objective_not_mem_nodesToMatch parsed)
          · obtain ⟨first, starts, reaches⟩ := entered
            obtain rfl : id = source := mapsTo_unique distinct isMatching maps (.plan sourceMapped)
            exact ⟨first, starts, reaches.tail ⟨edge, matched_of_mapped isMatching sourceMapped,
              matched_of_mapped isMatching targetMapped⟩⟩
    · obtain ⟨_, plan, member, target, free⟩ := added
      obtain ⟨entry, entryMember, same⟩ := mem_map.mp
        ((isMatching.plans plan.id).mpr (mem_map_of_mem member))
      have mapped : (entry.1, plan.id) ∈ mapping := same ▸ entryMember
      have isSource : IsSource (MatchedEdge parsed) entry.1 :=
        (isSource_iff distinct isMatching member mapped).mpr free
      subst target
      exact ⟨entry.1, .plan mapped, .inr ⟨entry.1, .inr isSource, ReflTransGen.refl⟩⟩

theorem path_of_entered {plan : Plan} (member : plan ∈ plans) {id : String}
    (mapped : (id, plan.id) ∈ mapping)
    (entered : IsEntered (MatchedEdge parsed) (ObjectiveLeadsTo parsed) id) :
    ReflTransGen diagram.Leads objectiveNodeId (canonicalNodeId plan.id) := by
  obtain ⟨first, starts, reaches⟩ := entered
  induction reaches generalizing plan with
  | refl =>
    refine ReflTransGen.single ((edges _).mpr ?_)
    rcases starts with leadsIn | isSource
    · exact .inl ⟨objectiveNodeId, first, leadsIn, .objective, .plan mapped⟩
    · exact .inr ⟨rfl, plan, member, rfl,
        (isSource_iff distinct isMatching member mapped).mp isSource⟩
  | @tail source target _ edge ih =>
    obtain ⟨drawn, matched, _⟩ := edge
    obtain ⟨entry, entryMember, rfl⟩ := mem_map.mp ((isMatching.nodes source).mpr matched)
    obtain ⟨before, beforeMember, same⟩ := mem_map.mp
      ((isMatching.plans entry.2).mp (mem_map_of_mem entryMember))
    have beforeMapped : (entry.1, before.id) ∈ mapping := same ▸ entryMember
    have earlier := ih beforeMember beforeMapped
    refine earlier.tail ((edges _).mpr (.inl ?_))
    exact ⟨entry.1, target, drawn, .plan beforeMapped, .plan mapped⟩

theorem reachesPlans_iff : ReachesPlans plans diagram ↔ SourceCyclesEntered parsed := by
  unfold SourceCyclesEntered
  rw [← all_entered_iff (finite_ancestors parsed)]
  constructor
  · intro reaches id
    by_cases matched : id ∈ (nodesToMatch parsed).map Prod.fst
    · obtain ⟨entry, entryMember, rfl⟩ := mem_map.mp ((isMatching.nodes id).mpr matched)
      obtain ⟨plan, member, same⟩ := mem_map.mp
        ((isMatching.plans entry.2).mp (mem_map_of_mem entryMember))
      have mapped : (entry.1, plan.id) ∈ mapping := same ▸ entryMember
      obtain ⟨other, maps, entered⟩ :=
        entered_of_path distinct isMatching edges (reaches plan member)
      obtain rfl : other = entry.1 := mapsTo_unique distinct isMatching maps (.plan mapped)
      rcases entered with isObjective | entered
      · rw [isObjective] at matched
        exact absurd matched (objective_not_mem_nodesToMatch parsed)
      · exact entered
    · exact ⟨id, .inr fun source edge => matched edge.2.2, ReflTransGen.refl⟩
  · intro entered plan member
    obtain ⟨entry, entryMember, same⟩ := mem_map.mp
      ((isMatching.plans plan.id).mpr (mem_map_of_mem member))
    have mapped : (entry.1, plan.id) ∈ mapping := same ▸ entryMember
    exact path_of_entered distinct isMatching edges member mapped (entered entry.1)

end

end

/-! ## Accepted proposals -/

/-- The canonical text of an accepted proposal reaches every plan exactly when
the proposal enters each cycle that no other node leads into. -/
theorem accepted_reachesPlans_iff {Score : Type} [LinearOrder Score] {isWord : Char → Bool}
    {matching : LabelMatching Score} {proposedText : String}
    {plans : List Plan} {objective : Objective} {allowPlanAdds : Bool}
    {result : CanonicalizeResult}
    (distinct : (plans.map fun plan => canonicalNodeId plan.id).Nodup)
    (returned : canonicalizeMermaid isWord matching proposedText plans
      (some objective) allowPlanAdds = .ok result)
    (accepted : result.accepted = true) :
    (∃ diagram, result.canonical = some diagram ∧ ReachesPlans plans diagram) ↔
      SourceCyclesEntered (parseMermaid isWord proposedText) := by
  obtain ⟨_, _, isMatching, diagram, drawn, emitted⟩ := of_accepted returned accepted
  have edges := mem_edges_of_emitCanonical isMatching emitted
  rw [drawn, ← reachesPlans_iff distinct isMatching edges]
  constructor
  · rintro ⟨_, same, reaches⟩
    cases same
    exact reaches
  · intro reaches
    exact ⟨diagram, rfl, reaches⟩

/-! ## Two plans that lead to each other -/

def mutualText : String :=
  "flowchart TD\nO[Objective]\nP_first[first]\nP_second[second]\n" ++
    "P_first --> P_second\nP_second --> P_first"

def mutualDiagram : Diagram where
  direction := "TD"
  statements := [.node "O" "Objective: Objective",
    .node "P_first" "first step",
    .node "P_second" "second step [with 'quotes']",
    .edge "P_first" "P_second", .edge "P_second" "P_first"]

def mutualResult : CanonicalizeResult where
  accepted := true
  canonical := some mutualDiagram
  mapping := [("P_first", "plan_first"), ("P_second", "plan_second")]

theorem mutual_not_reached :
    ([firstPlan, secondPlan].map fun plan => canonicalNodeId plan.id).Nodup ∧
      canonicalizeMermaid Char.isAlphanum defaultLabelMatching mutualText
        [firstPlan, secondPlan] (some soleObjective) false = .ok mutualResult ∧
      mutualResult.accepted = true ∧ ¬ ∃ diagram, mutualResult.canonical = some diagram ∧
          ReachesPlans [firstPlan, secondPlan] diagram := by
  refine ⟨by decide, by decide +kernel, rfl, ?_⟩
  rintro ⟨_, same, reaches⟩
  cases same
  have path := reaches firstPlan mem_cons_self
  rcases ReflTransGen.cases_head path with equal | ⟨_, edge, _⟩
  · revert equal
    decide
  · have drawn : mutualDiagram.edges =
        [("P_first", "P_second"), ("P_second", "P_first")] := by decide
    unfold Diagram.Leads at edge
    rw [drawn] at edge
    simp [objectiveNodeId] at edge

def enteredText : String :=
  mutualText ++ "\nO --> P_second"

def enteredDiagram : Diagram where
  direction := "TD"
  statements := [.node "O" "Objective: Objective",
    .node "P_first" "first step",
    .node "P_second" "second step [with 'quotes']",
    .edge "O" "P_second", .edge "P_first" "P_second",
    .edge "P_second" "P_first"]

def enteredResult : CanonicalizeResult where
  accepted := true
  canonical := some enteredDiagram
  mapping := [("P_first", "plan_first"), ("P_second", "plan_second")]

theorem entered_reached :
    ∃ diagram, enteredResult.canonical = some diagram ∧
      ReachesPlans [firstPlan, secondPlan] diagram := by
  have returned :
      canonicalizeMermaid Char.isAlphanum defaultLabelMatching enteredText
        [firstPlan, secondPlan] (some soleObjective) false = .ok enteredResult := by
    decide +kernel
  refine (accepted_reachesPlans_iff (by decide) returned rfl).mpr ?_
  have parsed : parseMermaid Char.isAlphanum enteredText =
      { nodes := [("O", "Objective"), ("P_first", "first"), ("P_second", "second")]
        edges := [("P_first", "P_second"), ("P_second", "P_first"),
          ("O", "P_second")]
        sawHeader := true } := by
    decide +kernel
  rw [parsed]
  intro id cycle
  refine ⟨"P_second", by simp [ObjectiveLeadsTo, objectiveNodeId], ?_⟩
  obtain ⟨_, _, edge⟩ := TransGen.tail'_iff.mp cycle.returns
  have target : id = "P_first" ∨ id = "P_second" := by
    simpa [MatchedEdge, nodesToMatch, objectiveNodeId] using edge.2.2
  rcases target with rfl | rfl
  · exact ReflTransGen.single ⟨by decide, by decide, by decide⟩
  · exact ReflTransGen.refl

end Mermaid

end AccruviaHarness
