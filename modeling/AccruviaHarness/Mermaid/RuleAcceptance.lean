import Mathlib.Data.Prod.Basic
import Mathlib.Order.RelClasses
import AccruviaHarness.Mermaid.Rules

/-!
# Acceptance by the documented rules

The code matches the remaining nodes greedily and looks for ambiguity only
among the nodes that are left over.
-/

namespace AccruviaHarness

open List

namespace Mermaid

open Library

/-! ## The rules about plans -/

section

variable {Score : Type} [LinearOrder Score] (matching : LabelMatching Score)
  (plans : List Plan) (nodes : List (String × String))

variable (node : String × String)

def FreeNode : Prop := node ∈ nodes ∧ node.1 ∉ plans.map fun plan => canonicalNodeId plan.id

def FreePlan (plan : Plan) : Prop := plan ∈ plans ∧ canonicalNodeId plan.id ∉ nodes.map Prod.fst

def Alike (plan : Plan) (score : Score) : Prop :=
  ∃ label, planLabel plan = .ok label ∧
    score = matching.similarity node.2 label ∧ matching.threshold ≤ score

def SimilarPair (pair : Score × Edge) : Prop :=
  ∃ node plan, FreeNode plans nodes node ∧ FreePlan plans nodes plan ∧
    Alike matching node plan pair.1 ∧ pair.2 = (node.1, plan.id)

def IsSimilar (edge : Edge) : Prop := ∃ score, SimilarPair matching plans nodes (score, edge)

structure Unambiguous : Prop where
  onePlan : ∀ id first second, IsSimilar matching plans nodes (id, first) →
      IsSimilar matching plans nodes (id, second) → first = second
  oneNode : ∀ first second planId, IsSimilar matching plans nodes (first, planId) →
      IsSimilar matching plans nodes (second, planId) → first = second

/-- The rules 5 to 7: each plan has a node, each node has a plan, by the id
or by the label, and no label is ambiguous. -/
structure MapsClearly : Prop where
  planned : ∀ plan ∈ plans, canonicalNodeId plan.id ∈ nodes.map Prod.fst ∨
    ∃ id, IsSimilar matching plans nodes (id, plan.id)
  noOrphan : ∀ node ∈ nodes, (node.1 ∈ plans.map fun plan => canonicalNodeId plan.id) ∨
      ∃ planId, IsSimilar matching plans nodes (node.1, planId)
  unambiguous : Unambiguous matching plans nodes

def GoesBefore (first second : Edge) : Prop :=
  ∃ firstScore secondScore, SimilarPair matching plans nodes (firstScore, first) ∧
      SimilarPair matching plans nodes (secondScore, second) ∧
      PairBefore (firstScore, first) (secondScore, second)

/-- An assignment of all free nodes to all free plans, in which every other
similar pair competes with an assigned one that goes before it. -/
structure Resolves (assigned : Edge → Prop) : Prop where
  stable : IsStable (IsSimilar matching plans nodes) (GoesBefore matching plans nodes) assigned
  onNodes : ∀ node, FreeNode plans nodes node → ∃ planId, assigned (node.1, planId)
  onPlans : ∀ plan, FreePlan plans nodes plan → ∃ id, assigned (id, plan.id)

end

def Labelled (plans : List Plan) : Prop := ∀ plan ∈ plans, ∃ label, planLabel plan = .ok label

def nodesOf (isWord : Char → Bool) (text : String) : List (String × String) :=
  nodesToMatch { nodes := declaredNodes isWord (contentLines text) }

/-! ## Rules and assignments -/

section

variable {Score : Type} [LinearOrder Score] {matching : LabelMatching Score}
  {plans : List Plan} {nodes : List (String × String)}

theorem mapsClearly_iff :
    MapsClearly matching plans nodes ↔ Unambiguous matching plans nodes ∧
        ∃ assigned, Resolves matching plans nodes assigned := by
  constructor
  · intro clear
    refine ⟨clear.unambiguous, IsSimilar matching plans nodes, ?_⟩
    refine ⟨⟨fun _ similar => similar, ?apart, ?blocked⟩, ?onNodes, ?onPlans⟩
    case apart =>
      rintro ⟨first, firstPlan⟩ ⟨second, secondPlan⟩ firstSimilar
        secondSimilar (sameNode | samePlan)
      · dsimp only at sameNode
        subst sameNode
        rw [clear.unambiguous.onePlan first firstPlan secondPlan firstSimilar secondSimilar]
      · dsimp only at samePlan
        subst samePlan
        rw [clear.unambiguous.oneNode first second firstPlan firstSimilar secondSimilar]
    case blocked =>
      intro pair similar other
      exact absurd similar other
    case onNodes =>
      intro node free
      exact (clear.noOrphan node free.1).resolve_left free.2
    case onPlans =>
      intro plan free
      exact (clear.planned plan free.1).resolve_left free.2
  · rintro ⟨unambiguous, _, resolves⟩
    refine ⟨?planned, ?noOrphan, unambiguous⟩
    case planned =>
      intro plan member
      by_cases carried : canonicalNodeId plan.id ∈ nodes.map Prod.fst
      · exact .inl carried
      · obtain ⟨id, chosen⟩ := resolves.onPlans plan ⟨member, carried⟩
        exact .inr ⟨id, resolves.stable.inside _ chosen⟩
    case noOrphan =>
      intro node member
      by_cases carries :
          node.1 ∈ plans.map fun plan => canonicalNodeId plan.id
      · exact .inl carries
      · obtain ⟨planId, chosen⟩ := resolves.onNodes node ⟨member, carries⟩
        exact .inr ⟨planId, resolves.stable.inside _ chosen⟩

end

/-! ## The pairs of the code -/

section

variable {Score : Type} [LinearOrder Score] {matching : LabelMatching Score}
  {plans : List Plan} {nodes : List (String × String)}

variable (nodes) in
theorem mem_canonicalMatches_iff (distinct : (plans.map fun plan => canonicalNodeId plan.id).Nodup)
    (entry : String × String) :
    entry ∈ canonicalMatches plans nodes ↔
      entry.1 ∈ nodes.map Prod.fst ∧ entry.2 ∈ plans.map Plan.id ∧
        canonicalNodeId entry.2 = entry.1 := by
  refine ⟨mem_canonicalMatches, ?_⟩
  rintro ⟨declared, planned, same⟩
  obtain ⟨node, nodeMember, sameId⟩ := mem_map.mp declared
  obtain ⟨_, member, samePlan⟩ := mem_map.mp planned
  refine mem_filterMap.mpr ⟨node, nodeMember, ?_⟩
  rw [sameId, ← same, ← samePlan, planByCanonical_of_mem distinct member]
  exact congrArg some (Prod.ext (by rw [samePlan, same]) samePlan)

theorem freeNode_iff (distinct : (plans.map fun plan => canonicalNodeId plan.id).Nodup)
    (node : String × String) :
    node ∈ nodes.filter (fun node =>
        node.1 ∉ (canonicalMatches plans nodes).map Prod.fst) ↔
      FreeNode plans nodes node := by
  rw [mem_filter, decide_eq_true_eq]
  refine and_congr_right fun member => not_congr ?_
  constructor
  · intro bound
    obtain ⟨_, entryMember, same⟩ := mem_map.mp bound
    obtain ⟨_, planned, canonical⟩ := mem_canonicalMatches entryMember
    obtain ⟨plan, planMember, samePlan⟩ := mem_map.mp planned
    exact mem_map.mpr ⟨plan, planMember, by rw [samePlan, canonical, same]⟩
  · intro carries
    obtain ⟨plan, planMember, canonical⟩ := mem_map.mp carries
    refine mem_map.mpr ⟨(node.1, plan.id), ?_, rfl⟩
    rw [mem_canonicalMatches_iff nodes distinct]
    exact ⟨mem_map.mpr ⟨node, member, rfl⟩, mem_map_of_mem planMember, canonical⟩

theorem freePlan_iff (distinct : (plans.map fun plan => canonicalNodeId plan.id).Nodup)
    (plan : Plan) :
    plan ∈ plans.filter (fun plan =>
        plan.id ∉ (canonicalMatches plans nodes).map Prod.snd) ↔
      FreePlan plans nodes plan := by
  rw [mem_filter, decide_eq_true_eq]
  refine and_congr_right fun member => not_congr ?_
  constructor
  · intro bound
    obtain ⟨_, entryMember, same⟩ := mem_map.mp bound
    obtain ⟨declared, _, canonical⟩ := mem_canonicalMatches entryMember
    rw [← same, canonical]
    exact declared
  · intro carried
    refine mem_map.mpr ⟨(canonicalNodeId plan.id, plan.id), ?_, rfl⟩
    rw [mem_canonicalMatches_iff nodes distinct]
    exact ⟨carried, mem_map_of_mem member, rfl⟩

theorem qualifyingPlans_of_labelled (matching : LabelMatching Score) (labelled : Labelled plans)
    (node : String × String) :
    ∃ qualifying, qualifyingPlans matching plans node.2 = .ok qualifying ∧
      ∀ entry, entry ∈ qualifying ↔ ∃ plan ∈ plans, Alike matching node plan entry.1 ∧
          plan.id = entry.2 := by
  obtain ⟨scored, computed⟩ : ∃ scored, (plans.mapM fun plan => do
      let planned ← planLabel plan
      return (matching.similarity node.2 planned, plan.id)) = .ok scored := by
    refine exists_mapM_ok fun plan member => ?_
    obtain ⟨label, read⟩ := labelled plan member
    rw [read]
    exact ⟨_, rfl⟩
  obtain ⟨rowsOf, itemsOf⟩ := mem_of_mapM_ok computed
  refine ⟨_, by unfold qualifyingPlans; rw [computed]; rfl, ?_⟩
  intro entry
  rw [mem_filter, decide_eq_true_eq]
  constructor
  · rintro ⟨member, high⟩
    obtain ⟨plan, planMember, row⟩ := rowsOf entry member
    obtain ⟨label, read, same⟩ := exists_of_bind_ok row
    cases same
    exact ⟨plan, planMember, ⟨label, read, rfl, high⟩, rfl⟩
  · rintro ⟨plan, planMember, ⟨label, read, same, high⟩, sameId⟩
    obtain ⟨_, rowMember, computedRow⟩ := itemsOf plan planMember
    rw [read] at computedRow
    cases computedRow
    have here : entry = (matching.similarity node.2 label, plan.id) := Prod.ext same sameId.symm
    rw [here]
    exact ⟨rowMember, same ▸ high⟩

theorem similarPairs_of_labelled (matching : LabelMatching Score) (labelled : Labelled plans)
    (nodes : List (String × String)) :
    ∃ pairs, similarPairs matching plans nodes = .ok pairs ∧
      ∀ pair, pair ∈ pairs ↔ ∃ node ∈ nodes, ∃ plan ∈ plans, Alike matching node plan pair.1 ∧
          pair.2 = (node.1, plan.id) := by
  obtain ⟨rows, computed⟩ : ∃ rows : List (List (Score × Edge)),
      nodes.mapM (fun node => (do
        let qualifying ← qualifyingPlans matching plans node.2
        return qualifying.map fun entry => (entry.1, node.1, entry.2) :
          Except PyError (List (Score × Edge)))) = .ok rows := by
    refine exists_mapM_ok fun node _ => ?_
    obtain ⟨qualifying, read, _⟩ := qualifyingPlans_of_labelled matching labelled node
    rw [read]
    exact ⟨_, rfl⟩
  obtain ⟨rowsOf, itemsOf⟩ := mem_of_mapM_ok computed
  refine ⟨rows.flatten, by unfold similarPairs; rw [computed]; rfl, ?_⟩
  intro pair
  rw [mem_flatten]
  constructor
  · rintro ⟨row, rowMember, inRow⟩
    obtain ⟨node, nodeMember, computedRow⟩ := rowsOf row rowMember
    obtain ⟨qualifying, read, spec⟩ := qualifyingPlans_of_labelled matching labelled node
    rw [read] at computedRow
    cases computedRow
    obtain ⟨entry, entryMember, rfl⟩ := mem_map.mp inRow
    obtain ⟨plan, planMember, alike, same⟩ := (spec entry).mp entryMember
    exact ⟨node, nodeMember, plan, planMember, alike, by rw [same]⟩
  · rintro ⟨node, nodeMember, plan, planMember, alike, same⟩
    obtain ⟨_, rowMember, computedRow⟩ := itemsOf node nodeMember
    obtain ⟨_, read, spec⟩ := qualifyingPlans_of_labelled matching labelled node
    rw [read] at computedRow
    cases computedRow
    refine ⟨_, rowMember, mem_map.mpr ⟨(pair.1, plan.id), ?_, ?_⟩⟩
    · exact (spec _).mpr ⟨plan, planMember, alike, rfl⟩
    · exact Prod.ext rfl same.symm

theorem candidates_of_labelled (matching : LabelMatching Score)
    (distinct : (plans.map fun plan => canonicalNodeId plan.id).Nodup)
    (labelled : Labelled plans) (nodes : List (String × String)) :
    ∃ pairs, mapNodes matching plans nodes =
        .ok (assignByLabel (canonicalMatches plans nodes) pairs) ∧
      ∀ pair, pair ∈ pairs ↔ SimilarPair matching plans nodes pair := by
  have freeLabelled : Labelled (plans.filter fun plan =>
      plan.id ∉ (canonicalMatches plans nodes).map Prod.snd) :=
    fun plan member => labelled plan (mem_of_mem_filter member)
  obtain ⟨pairs, computed, members⟩ := similarPairs_of_labelled matching
    freeLabelled (nodes.filter fun node => node.1 ∉ (canonicalMatches plans nodes).map Prod.fst)
  refine ⟨pairs, by unfold mapNodes; dsimp only; rw [computed]; rfl, ?_⟩
  intro pair
  rw [members]
  constructor
  · rintro ⟨node, nodeMember, plan, planMember, alike, same⟩
    exact ⟨node, plan, (freeNode_iff distinct node).mp nodeMember,
      (freePlan_iff distinct plan).mp planMember, alike, same⟩
  · rintro ⟨node, plan, freeNode, freePlan, alike, same⟩
    exact ⟨node, (freeNode_iff distinct node).mpr freeNode, plan,
      (freePlan_iff distinct plan).mpr freePlan, alike, same⟩

end

/-! ## The greedy assignment -/

theorem edgeBefore_eq_lex :
    EdgeBefore = Prod.Lex (· < ·) (· ≤ ·) := by
  funext first second
  exact propext Prod.lex_def.symm

section

local instance stringStrictOrder : IsStrictOrder String (· < ·) where
  irrefl := String.lt_irrefl
  trans _ _ _ := String.lt_trans

local instance stringTrichotomous :
    Std.Trichotomous fun first second : String => first < second where
  trichotomous _ _ notLess notMore := String.le_antisymm notMore notLess

instance : Std.Total EdgeBefore := by
  rw [edgeBefore_eq_lex]
  infer_instance

instance : Std.Antisymm EdgeBefore := by
  rw [edgeBefore_eq_lex]
  infer_instance

instance : IsTrans Edge EdgeBefore := by
  rw [edgeBefore_eq_lex]
  infer_instance

end

section

variable {Score : Type} [LinearOrder Score]

theorem pairBefore_eq_lex : @PairBefore Score _ = Prod.Lex (· > ·) EdgeBefore := by
  funext first second
  rw [Prod.lex_def]
  rfl

instance : Std.Total (@PairBefore Score _) := by
  rw [pairBefore_eq_lex]
  infer_instance

instance : Std.Antisymm (@PairBefore Score _) := by
  rw [pairBefore_eq_lex]
  infer_instance

instance : IsTrans (Score × Edge) PairBefore := by
  rw [pairBefore_eq_lex]
  infer_instance

end

section

variable {Score : Type} [LinearOrder Score] {matching : LabelMatching Score}
  {plans : List Plan} {nodes : List (String × String)}

theorem score_unique (distinct : (plans.map fun plan => canonicalNodeId plan.id).Nodup)
    (nodesDistinct : (nodes.map Prod.fst).Nodup)
    {first second : Score} {edge : Edge}
    (firstPair : SimilarPair matching plans nodes (first, edge))
    (secondPair : SimilarPair matching plans nodes (second, edge)) :
    first = second := by
  obtain ⟨node, plan, free, freePlan, alike, same⟩ := firstPair
  obtain ⟨other, otherPlan, otherFree, otherFreePlan, otherAlike, otherSame⟩ := secondPair
  rw [same] at otherSame
  obtain ⟨sameFirst, sameId⟩ := Prod.mk.inj otherSame
  have sameNode : node = other :=
    inj_on_of_nodup_map nodesDistinct free.1 otherFree.1 sameFirst
  have samePlan : plan = otherPlan := planId_of_canonical distinct freePlan.1
    otherFreePlan.1 (by rw [sameId])
  subst sameNode samePlan
  obtain ⟨_, read, score, _⟩ := alike
  obtain ⟨_, readAgain, otherScore, _⟩ := otherAlike
  rw [read] at readAgain
  cases readAgain
  exact score.trans otherScore.symm

theorem goesBefore_antisymm (distinct : (plans.map fun plan => canonicalNodeId plan.id).Nodup)
    (nodesDistinct : (nodes.map Prod.fst).Nodup) {first second : Edge}
    (before : GoesBefore matching plans nodes first second)
    (after : GoesBefore matching plans nodes second first) :
    first = second := by
  obtain ⟨_, _, firstPair, secondPair, ordered⟩ := before
  obtain ⟨_, _, otherSecondPair, otherFirstPair, back⟩ := after
  rw [score_unique distinct nodesDistinct otherFirstPair firstPair,
    score_unique distinct nodesDistinct otherSecondPair secondPair] at back
  exact congrArg Prod.snd (antisymm ordered back)

variable {pairs : List (Score × Edge)}

theorem candidates_ordered
    (members : ∀ pair, pair ∈ pairs ↔ SimilarPair matching plans nodes pair) :
    ((orderBy PairBefore pairs).map Prod.snd).Pairwise (GoesBefore matching plans nodes) := by
  rw [pairwise_map]
  refine (orderBy_pairwise PairBefore pairs).imp_of_mem ?_
  intro first second firstMember secondMember before
  exact ⟨first.1, second.1, (members first).mp ((mem_orderBy PairBefore).mp firstMember),
    (members second).mp ((mem_orderBy PairBefore).mp secondMember), before⟩

theorem mem_candidates (members : ∀ pair, pair ∈ pairs ↔ SimilarPair matching plans nodes pair)
    (edge : Edge) :
    edge ∈ (orderBy PairBefore pairs).map Prod.snd ↔ IsSimilar matching plans nodes edge := by
  simp only [mem_map, mem_orderBy, members]
  constructor
  · rintro ⟨pair, similar, rfl⟩
    exact ⟨pair.1, similar⟩
  · rintro ⟨score, similar⟩
    exact ⟨(score, edge), similar, rfl⟩

theorem covered_iff (distinct : (plans.map fun plan => canonicalNodeId plan.id).Nodup)
    (nodesDistinct : (nodes.map Prod.fst).Nodup)
    (labelled : Labelled plans) {assigned : GreedyMatching String String}
    (mapped : mapNodes matching plans nodes = .ok assigned) :
    unmappedPlans assigned plans = [] ∧ unmappedNodes assigned nodes = [] ↔
      ∃ chosen, Resolves matching plans nodes chosen := by
  obtain ⟨valid, _⟩ := mapNodes_spec nodesDistinct mapped
  obtain ⟨pairs, computed, members⟩ := candidates_of_labelled matching distinct labelled nodes
  rw [computed] at mapped
  cases mapped
  have candidates := mem_candidates members
  have ordered := candidates_ordered members
  unfold assignByLabel at *
  generalize (orderBy PairBefore pairs).map Prod.snd = edges at *
  have similar : IsSimilar matching plans nodes = fun pair => pair ∈ edges :=
    funext fun pair => propext (candidates pair).symm
  have unboundNode : ∀ node, FreeNode plans nodes node →
      node.1 ∉ (canonicalMatches plans nodes).map Prod.fst := fun node free =>
    of_decide_eq_true (mem_filter.mp ((freeNode_iff distinct node).mpr free)).2
  have unboundPlan : ∀ plan, FreePlan plans nodes plan →
      plan.id ∉ (canonicalMatches plans nodes).map Prod.snd :=
    fun plan free => of_decide_eq_true (mem_filter.mp ((freePlan_iff distinct plan).mpr free)).2
  have unblocked : ∀ pair ∈ edges, ¬ GreedyMatching.Blocks
      { pairs := canonicalMatches plans nodes, usedLeft := []
        usedRight := (canonicalMatches plans nodes).map Prod.snd } pair := by
    intro pair member blocks
    obtain ⟨_, node, plan, _, free, _, same⟩ := (candidates pair).mp member
    rcases blocks with used | used
    · cases used
    · dsimp only at same
      rw [same] at used
      exact unboundPlan plan free used
  constructor
  · rintro ⟨plansBound, nodesBound⟩
    refine ⟨_, similar ▸ GreedyMatching.isStable_run valid ordered unblocked, ?onNodes, ?onPlans⟩
    case onNodes =>
      intro node free
      have bound := filter_eq_nil_iff.mp nodesBound node free.1
      rw [decide_eq_true_eq, not_not] at bound
      obtain ⟨entry, member, same⟩ := mem_map.mp bound
      refine ⟨entry.2, ?_⟩
      rw [← same]
      refine ⟨(GreedyMatching.mem_run member).resolve_left ?_, member⟩
      intro fixed
      exact unboundNode node free (mem_map.mpr ⟨entry, fixed, same⟩)
    case onPlans =>
      intro plan free
      have bound := filter_eq_nil_iff.mp plansBound plan.id (mem_map_of_mem free.1)
      rw [decide_eq_true_eq, not_not, valid.used] at bound
      obtain ⟨entry, member, same⟩ := mem_map.mp bound
      refine ⟨entry.1, ?_⟩
      rw [← same]
      refine ⟨(GreedyMatching.mem_run member).resolve_left ?_, member⟩
      intro fixed
      exact unboundPlan plan free (mem_map.mpr ⟨entry, fixed, same⟩)
  · rintro ⟨chosen, resolves⟩
    have stable := resolves.stable
    rw [similar] at stable
    have taken : ∀ pair, chosen pair → pair ∈ (GreedyMatching.run
        { pairs := canonicalMatches plans nodes, usedLeft := []
          usedRight := (canonicalMatches plans nodes).map Prod.snd }
        edges).pairs := by
      intro pair isChosen
      refine GreedyMatching.mem_run_of_isStable ordered ?_ unblocked stable isChosen
      intro first _ second _ before after
      exact goesBefore_antisymm distinct nodesDistinct before after
    constructor
    · refine filter_eq_nil_iff.mpr fun id member => ?_
      obtain ⟨plan, planMember, rfl⟩ := mem_map.mp member
      rw [decide_eq_true_eq, not_not, valid.used]
      by_cases carried : canonicalNodeId plan.id ∈ nodes.map Prod.fst
      · have fixed := (mem_canonicalMatches_iff nodes distinct
          (canonicalNodeId plan.id, plan.id)).mpr ⟨carried, mem_map_of_mem planMember, rfl⟩
        exact mem_map.mpr ⟨_, GreedyMatching.mem_run_of_mem fixed, rfl⟩
      · obtain ⟨id, isChosen⟩ := resolves.onPlans plan ⟨planMember, carried⟩
        exact mem_map.mpr ⟨_, taken _ isChosen, rfl⟩
    · refine filter_eq_nil_iff.mpr fun node member => ?_
      rw [decide_eq_true_eq, not_not]
      by_cases carries :
          node.1 ∈ plans.map fun plan => canonicalNodeId plan.id
      · obtain ⟨plan, planMember, same⟩ := mem_map.mp carries
        have fixed := (mem_canonicalMatches_iff nodes distinct
          (node.1, plan.id)).mpr ⟨mem_map.mpr ⟨node, member, rfl⟩, mem_map_of_mem planMember, same⟩
        exact mem_map.mpr ⟨_, GreedyMatching.mem_run_of_mem fixed, rfl⟩
      · obtain ⟨_, isChosen⟩ := resolves.onNodes node ⟨member, carries⟩
        exact mem_map.mpr ⟨_, taken _ isChosen, rfl⟩

end

/-! ## Acceptance -/

variable (plans : List Plan)

theorem labelled_iff :
    Labelled plans ↔ ∃ nodes, (orderBy PlanBefore plans).mapM planStatement = .ok nodes := by
  constructor
  · intro labelled
    refine exists_mapM_ok fun plan member => ?_
    obtain ⟨label, read⟩ := labelled plan ((mem_orderBy PlanBefore).mp member)
    exact ⟨_, by unfold planStatement; rw [read]; rfl⟩
  · rintro ⟨_, drawn⟩ plan member
    obtain ⟨_, _, computed⟩ := (mem_of_mapM_ok drawn).2 plan ((mem_orderBy PlanBefore).mpr member)
    obtain ⟨label, read, _⟩ := exists_of_bind_ok computed
    exact ⟨label, read⟩

theorem emit_returns_iff (objective : Option Objective) (parsed : Parsed)
    (mapping : List (String × String)) :
    (∃ diagram, emit plans objective parsed mapping = .ok diagram) ↔ Labelled plans := by
  rw [labelled_iff]
  unfold emit emitCanonical emitCanonicalBare
  constructor
  · rintro ⟨_, emitted⟩
    cases objective with
    | none =>
      obtain ⟨nodes, drawn, _⟩ := exists_of_bind_ok emitted
      exact ⟨nodes, drawn⟩
    | some _ =>
      obtain ⟨nodes, drawn, _⟩ := exists_of_bind_ok emitted
      exact ⟨nodes, drawn⟩
  · rintro ⟨_, drawn⟩
    cases objective with
    | none =>
      rw [drawn]
      exact ⟨_, rfl⟩
    | some _ =>
      dsimp only
      rw [drawn]
      exact ⟨_, rfl⟩

section

variable {Score : Type} [LinearOrder Score] (isWord : Char → Bool)
  (matching : LabelMatching Score) (proposedText : String)
  (plans : List Plan) (objective : Option Objective)

def Accepts : Prop :=
  ∃ result, canonicalizeMermaid isWord matching proposedText plans objective
      false = .ok result ∧
    result.accepted = true

def KeepsRules : Prop :=
  IsFlowchart isWord (contentLines proposedText) ∧
    MapsClearly matching plans (nodesOf isWord proposedText)

/-- What makes the code decide by the rules: where the first four hold and the
labels can be read, ambiguous labels are not resolved by the order of the
pairs, and where a label cannot be read one of the others is violated. -/
def DecidesByRules : Prop :=
  IsFlowchart isWord (contentLines proposedText) → (Labelled plans →
      Unambiguous matching plans (nodesOf isWord proposedText) ∨
        ¬ ∃ assigned, Resolves matching plans (nodesOf isWord proposedText) assigned) ∧
      (¬ Labelled plans → ¬ MapsClearly matching plans (nodesOf isWord proposedText))

variable {isWord matching proposedText plans objective}

theorem coverageReasons_of_covered
    {nodes : List (String × String)} {assigned : GreedyMatching String String}
    (nodesDistinct : (nodes.map Prod.fst).Nodup)
    (mapped : mapNodes matching plans nodes = .ok assigned)
    (plansBound : unmappedPlans assigned plans = [])
    (nodesBound : unmappedNodes assigned nodes = []) :
    coverageReasons matching plans nodes assigned false = .ok [] := by
  have valid := (mapNodes_spec nodesDistinct mapped).1
  have noAmbiguity : (nodes.filter fun node =>
      node.1 ∉ (canonicalMatches plans nodes).map Prod.fst ∧ node.1 ∉ assigned.usedLeft) = [] := by
    refine filter_eq_nil_iff.mpr fun node member free => ?_
    rw [decide_eq_true_eq] at free
    have bound := filter_eq_nil_iff.mp nodesBound node member
    rw [decide_eq_true_eq, not_not] at bound
    exact free.2 ((valid.known node.1 free.1).mpr bound)
  unfold coverageReasons
  rw [noAmbiguity, plansBound, nodesBound]
  rfl

theorem accepts_iff (distinct : (plans.map fun plan => canonicalNodeId plan.id).Nodup) :
    Accepts isWord matching proposedText plans objective ↔
      IsFlowchart isWord (contentLines proposedText) ∧ Labelled plans ∧
        ∃ assigned, Resolves matching plans (nodesOf isWord proposedText)
          assigned := by
  have wellFormed := parseMermaid_wellFormed isWord proposedText
  have nodesDistinct := nodesToMatch_distinct wellFormed
  have reading := parseReasons_eq_nil_iff isWord proposedText
  have sameNodes : IsFlowchart isWord (contentLines proposedText) →
      nodesToMatch (parseMermaid isWord proposedText) = nodesOf isWord proposedText := by
    intro flowchart
    obtain ⟨noErrors, _⟩ := append_eq_nil_iff.mp (reading.mpr flowchart)
    obtain ⟨nodes, _⟩ := (parseMermaid_reads isWord proposedText).2 noErrors
    unfold nodesOf nodesToMatch
    rw [nodes]
  unfold Accepts canonicalizeMermaid
  generalize parseMermaid isWord proposedText = parsed at *
  dsimp only
  constructor
  · rintro ⟨_, returned, accepted⟩
    split at returned
    · cases returned
      cases accepted
    next noReasons =>
      have flowchart := reading.mp (Classical.not_not.mp noReasons)
      rw [← sameNodes flowchart]
      obtain ⟨assigned, mapped, returned⟩ := exists_of_bind_ok returned
      obtain ⟨reasons, covered, returned⟩ := exists_of_bind_ok returned
      split at returned
      · cases returned
        cases accepted
      next noReasons =>
        obtain rfl : reasons = [] := Classical.not_not.mp noReasons
        obtain ⟨plansBound, nodesBound⟩ := of_coverageReasons_nil covered
        split at returned
        next adds => cases adds.1
        · obtain ⟨diagram, emitted, _⟩ := exists_of_bind_ok returned
          have labelled := (emit_returns_iff plans objective parsed
            assigned.pairs).mp ⟨diagram, emitted⟩
          exact ⟨flowchart, labelled, (covered_iff distinct nodesDistinct labelled mapped).mp
              ⟨plansBound, nodesBound rfl⟩⟩
  · rintro ⟨flowchart, labelled, resolved⟩
    rw [← sameNodes flowchart] at resolved
    obtain ⟨pairs, mapped, _⟩ := candidates_of_labelled matching distinct
      labelled (nodesToMatch parsed)
    obtain ⟨plansBound, nodesBound⟩ :=
      (covered_iff distinct nodesDistinct labelled mapped).mpr resolved
    have covered := coverageReasons_of_covered nodesDistinct mapped plansBound nodesBound
    obtain ⟨_, emitted⟩ := (emit_returns_iff plans objective parsed
      (assignByLabel (canonicalMatches plans (nodesToMatch parsed)) pairs).pairs).mpr labelled
    rw [if_neg (not_not.mpr (reading.mpr flowchart)), mapped, ok_bind, covered,
      ok_bind, if_neg (not_not.mpr rfl), nodesBound, if_neg (by simp), emitted]
    exact ⟨_, rfl, rfl⟩

/-- The code accepts by the rules exactly when it decides by them. -/
theorem accepts_iff_keepsRules_iff (isWord : Char → Bool) (matching : LabelMatching Score)
    (proposedText : String) (plans : List Plan)
    (objective : Option Objective)
    (distinct : (plans.map fun plan => canonicalNodeId plan.id).Nodup) :
    (Accepts isWord matching proposedText plans objective ↔
        KeepsRules isWord matching proposedText plans) ↔
      DecidesByRules isWord matching proposedText plans := by
  rw [accepts_iff distinct]
  unfold KeepsRules DecidesByRules
  rw [mapsClearly_iff]
  tauto

end

/-! ## Two nodes that are alike to two plans -/

def morePlan : Plan where
  id := "plan_more"
  objectiveId := "objective"
  slice := [("label", .str "first steps")]
  createdAt := 1

def alikeText : String :=
  "flowchart TD\nA[first step]\nB[first steps]\nA --> B"

def alikeResult : CanonicalizeResult where
  accepted := true
  canonical := some {
    direction := "TD"
    statements := [.node "O" "Objective: Objective",
      .node "P_first" "first step", .node "P_more" "first steps",
      .edge "O" "P_first", .edge "P_first" "P_more"] }
  mapping := [("A", "plan_first"), ("B", "plan_more")]

/-- Both labels reach the threshold for both plans, and the proposal is
accepted. -/
theorem alike_accepted_against_rules :
    ([firstPlan, morePlan].map fun plan => canonicalNodeId plan.id).Nodup ∧
      canonicalizeMermaid Char.isAlphanum defaultLabelMatching alikeText
        [firstPlan, morePlan] (some soleObjective) false = .ok alikeResult ∧
      alikeResult.accepted = true ∧
      ¬ KeepsRules Char.isAlphanum defaultLabelMatching alikeText [firstPlan, morePlan] := by
  refine ⟨by decide, by decide +kernel, rfl, ?_⟩
  rintro ⟨_, clear⟩
  have nodes : nodesOf Char.isAlphanum alikeText = [("A", "first step"), ("B", "first steps")] := by
    decide +kernel
  rw [nodes] at clear
  have similar (plan : Plan) (label : String) (member : plan ∈ [firstPlan, morePlan])
      (carried : canonicalNodeId plan.id ∉ ["A", "B"])
      (read : planLabel plan = .ok label)
      (high : defaultLabelMatching.threshold ≤ defaultLabelMatching.similarity "first step" label) :
      IsSimilar defaultLabelMatching [firstPlan, morePlan]
        [("A", "first step"), ("B", "first steps")] ("A", plan.id) := by
    refine ⟨_, ("A", "first step"), plan, ⟨by simp, by decide⟩,
      ⟨member, carried⟩, ⟨label, read, rfl, high⟩, rfl⟩
  have first := similar firstPlan "first step" (by simp) (by decide)
    (by decide +kernel) (by decide +kernel)
  have second := similar morePlan "first steps" (by simp) (by decide)
    (by decide +kernel) (by decide +kernel)
  have same := clear.unambiguous.onePlan "A" _ _ first second
  revert same
  decide

theorem selfEdge_decided_by_rules :
    Accepts Char.isAlphanum defaultLabelMatching selfEdgeText [firstPlan] (some soleObjective) ↔
      KeepsRules Char.isAlphanum defaultLabelMatching selfEdgeText [firstPlan] := by
  refine (accepts_iff_keepsRules_iff Char.isAlphanum defaultLabelMatching
    selfEdgeText [firstPlan] (some soleObjective) (by decide)).mpr ?_
  have nodes : nodesOf Char.isAlphanum selfEdgeText = [("P_first", "first step")] := by
    decide +kernel
  have none (edge : Edge) : ¬ IsSimilar defaultLabelMatching [firstPlan]
      [("P_first", "first step")] edge := by
    rintro ⟨_, _, plan, ⟨member, free⟩, _⟩
    rw [mem_singleton] at member
    rw [member] at free
    revert free
    decide
  intro _
  rw [nodes]
  constructor
  · intro _
    exact .inl ⟨fun _ _ _ similar => absurd similar (none _),
      fun _ _ _ similar => absurd similar (none _)⟩
  · intro unlabelled
    refine absurd ?_ unlabelled
    intro plan member
    rw [mem_singleton] at member
    rw [member]
    exact ⟨"first step", rfl⟩

end Mermaid

end AccruviaHarness
