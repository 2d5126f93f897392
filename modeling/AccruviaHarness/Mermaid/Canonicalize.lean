import Mathlib.Data.List.Dedup
import Mathlib.Data.Rat.Defs
import Mathlib.Algebra.Order.Ring.Rat
import AccruviaHarness.Library.GreedyMatching
import AccruviaHarness.Mermaid.Parse

/-!
# Canonicalized flowcharts

`canonicalize_mermaid` maps the nodes of a proposed flowchart to the plans,
by their ids first and then by the likeness of their labels, and draws the
proposed edges over the plans' own nodes.
-/

namespace AccruviaHarness

namespace Mermaid

open Library

structure LabelMatching (Score : Type) where
  similarity : String → String → Score
  threshold : Score

/-- `re.sub(r"\s+", " ", text)`. -/
def collapseWhitespace : List Char → List Char
  | [] => []
  | character :: rest =>
    if isPyWhitespace character then
      if rest.head?.any isPyWhitespace then collapseWhitespace rest
      else ' ' :: collapseWhitespace rest
    else character :: collapseWhitespace rest

/-- `_ngrams` with its default length, of a text with ASCII letters. -/
def ngrams (text : String) : List (List Char) :=
  let norm := collapseWhitespace (strip (lowerAscii text).toList)
  if norm.length < 3 then if norm = [] then [] else [norm]
  else ((List.range (norm.length - 2)).map fun start => (norm.drop start).take 3).dedup

/-- `label_similarity`, before the quotient is rounded to a float. -/
def labelSimilarity (first second : String) : ℚ :=
  let firstGrams := ngrams first
  let secondGrams := ngrams second
  if firstGrams = [] ∧ secondGrams = [] then 1
  else if firstGrams = [] ∨ secondGrams = [] then 0
  else
    ((firstGrams.filter fun gram => gram ∈ secondGrams).length : ℚ) /
      ((firstGrams ++ secondGrams).dedup.length : ℚ)

/-- The matching with `_DEFAULT_SIMILARITY_THRESHOLD`. -/
def defaultLabelMatching : LabelMatching ℚ where
  similarity := labelSimilarity
  threshold := 1 / 2

structure PlanOp where
  kind : String
  planId : Option String
  proposedLabel : String := ""
  deriving DecidableEq, Repr

/-- `CanonicalizeResult`; `canonical` is the diagram of `canonical_text`. -/
structure CanonicalizeResult where
  accepted : Bool := false
  canonical : Option Diagram := none
  rejectionReasons : List String := []
  planOperations : List PlanOp := []
  mapping : List (String × String) := []
  unmappedProposed : List String := []
  unmappedPlans : List String := []
  deriving DecidableEq, Repr

def CanonicalizeResult.canonicalText (result : CanonicalizeResult) : Option String :=
  result.canonical.map Diagram.text

variable (parsed : Parsed)

def brokenEdges : List String :=
  parsed.edges.flatMap fun edge =>
    ([edge.1, edge.2].filter fun id => id ∉ parsed.nodeIds).map fun id =>
      "edge references undeclared node: " ++ id

/-- `proposed_nodes_to_match`: neither the objective nor a placeholder. -/
def nodesToMatch : List (String × String) :=
  parsed.nodes.filter fun node => node.1 ≠ objectiveNodeId ∧ node.2 ≠ "awaiting decomposition"

@[simp]
theorem nodesToMatch_addEdges (edges : List Edge) :
    nodesToMatch (parsed.addEdges edges) = nodesToMatch parsed := rfl

variable (plans : List Plan)

/-- `plans_by_canonical`, in which a later plan replaces an earlier one. -/
def planByCanonical (id : String) : Option Plan :=
  plans.reverse.find? fun plan => canonicalNodeId plan.id = id

def canonicalMatches (nodes : List (String × String)) : List (String × String) :=
  nodes.filterMap fun node => (planByCanonical plans node.1).map fun plan => (node.1, plan.id)

section

variable {Score : Type} [LinearOrder Score]
  (matching : LabelMatching Score)

variable (plans : List Plan)

def qualifyingPlans (label : String) :
    Except PyError (List (Score × String)) := do
  let scored ← plans.mapM fun plan => do
    let planned ← planLabel plan
    return (matching.similarity label planned, plan.id)
  return scored.filter fun entry => matching.threshold ≤ entry.1

variable (nodes : List (String × String))

def similarPairs :
    Except PyError (List (Score × Edge)) := do
  let rows ← nodes.mapM fun node => do
    let qualifying ← qualifyingPlans matching plans node.2
    return qualifying.map fun entry => (entry.1, node.1, entry.2)
  return rows.flatten

/-- The order of `(-sim, pid, plan_id)`. -/
def PairBefore (first second : Score × Edge) : Prop :=
  second.1 < first.1 ∨ first.1 = second.1 ∧ EdgeBefore first.2 second.2

instance : DecidableRel (@PairBefore Score _) :=
  fun first second => inferInstanceAs (Decidable
    (second.1 < first.1 ∨ first.1 = second.1 ∧ EdgeBefore first.2 second.2))

def assignByLabel (fixed : List (String × String))
    (pairs : List (Score × Edge)) : GreedyMatching String String :=
  GreedyMatching.run
    { pairs := fixed, usedLeft := [], usedRight := fixed.map Prod.snd }
    ((orderBy PairBefore pairs).map Prod.snd)

def mapNodes :
    Except PyError (GreedyMatching String String) := do
  let byId := canonicalMatches plans nodes
  let pairs ← similarPairs matching (plans.filter fun plan => plan.id ∉ byId.map Prod.snd)
    (nodes.filter fun node => node.1 ∉ byId.map Prod.fst)
  return assignByLabel byId pairs

def ambiguousNodes :
    Except PyError (List String) := do
  let rows ← nodes.mapM fun node => do
    let qualifying ← qualifyingPlans matching plans node.2
    if 1 < qualifying.length then
      return [ "ambiguous mapping: proposed node " ++ PyValue.reprText node.1 ++
          " (label=" ++ PyValue.reprText node.2 ++
          ") matches multiple plans: " ++
          (PyValue.list (qualifying.map fun entry => .str entry.2)).repr]
    else return []
  return rows.flatten

end

/-- `unmapped_proposed`, with the labels. -/
def unmappedNodes (assigned : GreedyMatching String String)
    (nodes : List (String × String)) : List (String × String) :=
  nodes.filter fun node => node.1 ∉ assigned.pairs.map Prod.fst

def unmappedPlans (assigned : GreedyMatching String String) (plans : List Plan) : List String :=
  (plans.map Plan.id).filter fun id => id ∉ assigned.usedRight

def droppedPlans (plans : List Plan) (planIds : List String) : Except PyError (List String) :=
  planIds.mapM fun planId =>
    match plans.reverse.find? fun plan => plan.id = planId with
    | none => .error (.keyError planId)
    | some plan => do
        let label ← planLabel plan
        return "dropped plan: " ++ planId ++ " (" ++ PyValue.reprText label ++
          ") has no node in the proposal"

def orphanNodes (nodes : List (String × String)) : List String :=
  nodes.map fun node =>
    "orphan proposed node: " ++ PyValue.reprText node.1 ++ " (label=" ++
      PyValue.reprText node.2 ++ ") has no matching plan"

section

variable {Score : Type} [LinearOrder Score]
  (matching : LabelMatching Score)

def coverageReasons (plans : List Plan) (nodes : List (String × String))
    (assigned : GreedyMatching String String) (allowPlanAdds : Bool) :
    Except PyError (List String) := do
  let ambiguous ← ambiguousNodes matching plans <| nodes.filter fun node =>
    node.1 ∉ (canonicalMatches plans nodes).map Prod.fst ∧ node.1 ∉ assigned.usedLeft
  let dropped ← droppedPlans plans (unmappedPlans assigned plans)
  return ambiguous ++ dropped ++
    if allowPlanAdds then [] else orphanNodes (unmappedNodes assigned nodes)

end

variable (mapping : List (String × String))

def canonicalEndpoint (id : String) : Option String :=
  if id = objectiveNodeId then some objectiveNodeId
  else (mapping.find? fun entry => entry.1 = id).map fun entry => canonicalNodeId entry.2

/-- `canonical_edges` before the edges of the roots are added. -/
def translatedEdges (edges : List Edge) : List Edge :=
  edges.filterMap fun edge => do
    let source ← canonicalEndpoint mapping edge.1
    let target ← canonicalEndpoint mapping edge.2
    return (source, target)

/-- `dependents`: the targets of the edges that do not come from the
objective. -/
def dependents (edges : List Edge) : List String :=
  (edges.filter fun edge => edge.1 ≠ objectiveNodeId).map Prod.snd

variable (plans : List Plan)

/-- `canonical_edges`. A root's edge that the proposal has is not added. -/
def canonicalEdges (translated : List Edge) : List Edge :=
  translated ++
    ((plans.map fun plan => canonicalNodeId plan.id).filter fun id =>
      id ∉ dependents translated ∧ (objectiveNodeId, id) ∉ translated).map
        fun id => (objectiveNodeId, id)

def emitCanonical (objective : Objective) (edges : List Edge) (mapping : List (String × String))
    (direction : String) : Except PyError Diagram := do
  let sortedPlans := orderBy PlanBefore plans
  let nodes ← sortedPlans.mapM planStatement
  let drawn := canonicalEdges sortedPlans (translatedEdges mapping edges)
  return {
    direction
    statements := objectiveStatement objective :: nodes ++
      (orderBy EdgeBefore drawn.dedup).map edgeStatement }

def emitCanonicalBare (edges : List Edge) (mapping : List (String × String)) (direction : String) :
    Except PyError Diagram := do
  let nodes ← (orderBy PlanBefore plans).mapM planStatement
  let drawn := edges.filter fun edge =>
    edge.1 ∈ mapping.map Prod.fst ∧ edge.2 ∈ mapping.map Prod.fst
  return {
    direction
    statements := nodes ++
      ((translatedEdges mapping drawn).map edgeStatement) }

def emit (objective : Option Objective) (parsed : Parsed) (mapping : List (String × String)) :
    Except PyError Diagram :=
  match objective with
  | some objective => emitCanonical plans objective parsed.edges mapping parsed.direction
  | none => emitCanonicalBare plans parsed.edges mapping parsed.direction

section

variable {Score : Type} [LinearOrder Score]

def canonicalizeMermaid (isWord : Char → Bool)
    (matching : LabelMatching Score) (proposedText : String)
    (plans : List Plan) (objective : Option Objective)
    (allowPlanAdds : Bool) : Except PyError CanonicalizeResult := do
  let parsed := parseMermaid isWord proposedText
  let parseReasons := parsed.errors ++ brokenEdges parsed
  if parseReasons ≠ [] then return { rejectionReasons := parseReasons }
  let nodes := nodesToMatch parsed
  let assigned ← mapNodes matching plans nodes
  let reasons ← coverageReasons matching plans nodes assigned allowPlanAdds
  let adds := unmappedNodes assigned nodes
  let result : CanonicalizeResult := {
    rejectionReasons := reasons
    mapping := assigned.pairs
    unmappedProposed := adds.map Prod.fst
    unmappedPlans := unmappedPlans assigned plans }
  if reasons ≠ [] then return result
  if allowPlanAdds ∧ adds ≠ [] then
    return { result with
      planOperations := adds.map fun node =>
        { kind := "add", planId := none, proposedLabel := node.2 } }
  let canonical ← emit plans objective parsed assigned.pairs
  return { result with accepted := true, canonical := some canonical }

end

end Mermaid

end AccruviaHarness
