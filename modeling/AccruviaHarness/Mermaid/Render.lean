import AccruviaHarness.Plans.PlanSlice

/-!
# Rendered flowcharts

`render_mermaid_from_plans` draws the objective, the plans and the
dependencies between them. A diagram is kept as the statements of its text.
-/

namespace AccruviaHarness

namespace Mermaid

open Library

abbrev Edge := String × String

inductive Statement where
  | node (id label : String)
  | edge (source target : String)
  /-- An edge to a node that is labelled where the edge names it. -/
  | edgeToLabelled (source target label : String)
  deriving DecidableEq, Repr

namespace Statement

def nodeText (id label : String) : String := id ++ "[\"" ++ label ++ "\"]"

def line : Statement → String
  | .node id label => "    " ++ nodeText id label
  | .edge source target => "    " ++ source ++ " --> " ++ target
  | .edgeToLabelled source target label =>
    "    " ++ source ++ " --> " ++ nodeText target label

def nodeId? : Statement → Option String
  | .node id _ => some id
  | .edge _ _ => none
  | .edgeToLabelled _ target _ => some target

def edge? : Statement → Option Edge
  | .node _ _ => none
  | .edge source target => some (source, target)
  | .edgeToLabelled source target _ => some (source, target)

end Statement

structure Diagram where
  direction : String
  statements : List Statement
  deriving DecidableEq, Repr

namespace Diagram

def lines (diagram : Diagram) : List String :=
  ("flowchart " ++ diagram.direction) :: diagram.statements.map Statement.line

variable (diagram : Diagram)

/-- `"\n".join(lines)`. -/
def text : String := "\n".intercalate diagram.lines

def nodeIds : List String := diagram.statements.filterMap Statement.nodeId?

def edges : List Edge := diagram.statements.filterMap Statement.edge?

end Diagram

def objectiveNodeId : String := "O"

def mermaidEscapeLabel (text : String) : String :=
  pyStrip <| String.ofList <| text.toList.flatMap fun character =>
    if character = '"' then ['\'']
    else if character = '\n' then "<br/>".toList
    else [character]

def strippedText : PyValue → Option String
  | .str text => if pyStrip text ≠ "" then some (pyStrip text) else none
  | _ => none

variable (plan : Plan)

def planLabel : Except PyError String := do
  let planSlice ← planSliceTyped plan
  if planSlice.label ≠ "" then return planSlice.label
  return ((strippedText (plan.slice.get "title")).or
    (strippedText (plan.slice.get "task_title"))).getD plan.id

def planDependencies : Except PyError (List String) := do
  let planSlice ← planSliceTyped plan
  return planSlice.dependencies.filterMap strippedText

/-- The order of `(plan.created_at, plan.id)`. -/
def PlanBefore (first second : Plan) : Prop :=
  first.createdAt < second.createdAt ∨
    first.createdAt = second.createdAt ∧ first.id ≤ second.id

instance : DecidableRel PlanBefore := fun first second =>
  inferInstanceAs (Decidable (first.createdAt < second.createdAt ∨
      first.createdAt = second.createdAt ∧ first.id ≤ second.id))

def EdgeBefore (first second : Edge) : Prop :=
  first.1 < second.1 ∨ first.1 = second.1 ∧ first.2 ≤ second.2

instance : DecidableRel EdgeBefore := fun first second =>
  inferInstanceAs (Decidable (first.1 < second.1 ∨ first.1 = second.1 ∧ first.2 ≤ second.2))

def objectiveStatement (objective : Objective) : Statement :=
  .node objectiveNodeId (mermaidEscapeLabel ("Objective: " ++ objective.title))

def planStatement : Except PyError Statement := do
  let label ← planLabel plan
  return .node (canonicalNodeId plan.id) (mermaidEscapeLabel label)

variable (plans : List Plan)

def referencedNode (reference : String) : Option String :=
  if "P_".toList.isPrefixOf reference.toList ∧
      reference ∈ plans.map fun plan => canonicalNodeId plan.id then
    some reference
  else if reference ∈ plans.map Plan.id then some (canonicalNodeId reference)
  else none

def edgesInto (plan : Plan) :
    Except PyError (List Edge) := do
  let references ← planDependencies plan
  return references.filterMap fun reference =>
    (referencedNode plans reference).map fun source => (source, canonicalNodeId plan.id)

def rootEdges (edges : List Edge) : List Edge :=
  ((plans.map fun plan => canonicalNodeId plan.id).filter fun id =>
    id ∉ edges.map Prod.snd).map fun id => (objectiveNodeId, id)

def edgeStatement (edge : Edge) : Statement := .edge edge.1 edge.2

/-- `render_mermaid_from_plans`, with the diagram of the text it returns. -/
def renderMermaidFromPlans (objective : Objective) :
    Except PyError Diagram := do
  let planList := plans.filter fun plan => plan.approvalStatus ≠ "rejected"
  if planList.isEmpty then
    return {
      direction := "TD"
      statements := [objectiveStatement objective,
        .edgeToLabelled objectiveNodeId "AWAITING" "awaiting decomposition"] }
  let planList := orderBy PlanBefore planList
  let nodes ← planList.mapM planStatement
  let edges ← planList.mapM (edgesInto planList)
  return {
    direction := "TD"
    statements := objectiveStatement objective :: nodes ++
      (rootEdges planList edges.flatten).map edgeStatement ++
        (orderBy EdgeBefore edges.flatten).map edgeStatement }

end Mermaid

end AccruviaHarness
