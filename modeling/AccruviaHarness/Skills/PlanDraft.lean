import AccruviaHarness.Plans.PlanSlice
import AccruviaHarness.Skills.Base

/-!
# The plan_draft skill

`PlanDraftSkill` reads a list of plans out of a response, with their local ids,
labels and dependencies, and validates that every dependency is an earlier
plan.
-/

namespace AccruviaHarness

namespace Skills

def maxPlans : Nat := 15

def draftEntry (localId label : String) (dependsOn : List String) : PyDict :=
  [("local_id", .str localId), ("label", .str label), ("depends_on", .list (dependsOn.map .str))]

def strippedTexts (items : List PyValue) : List String :=
  (items.map fun item => pyStrip item.toStr).filter fun text => text ≠ ""

variable (item : PyDict)

/-- The texts of `depends_on`, or of `dependencies` without it. -/
def readDependsOn : List String :=
  match (item.get "depends_on").orValue (item.get "dependencies") with
  | .list items => strippedTexts items
  | _ => []

/-- The stripped `local_id` of a raw item. -/
def rawLocalId : String := pyStrip (item.getStr "local_id")

def rawLabel : String := pyStrip (item.getStr "label")

def normalizePlan : Option PyDict :=
  if rawLocalId item ≠ "" ∧ rawLabel item ≠ "" then
    some (draftEntry (rawLocalId item) (rawLabel item) (readDependsOn item))
  else none

def rawPlans (payload : Option PyDict) : List PyDict :=
  match payload with
  | none => []
  | some payload =>
    match payload.get "plans" with
    | .list items => items.filterMap PyValue.asDict
    | _ => []

def plansOutput (plans : List PyDict) : PyDict := [("plans", .list (plans.map .dict))]

namespace PlanDraftSkill

def outputSchema : OutputSchema where
  required := ["plans"]
  types := [("plans", .list)]

def parseResponse (loads : List Char → Option PyValue) (response : String) :
    PyDict :=
  plansOutput <| (rawPlans (extractJsonPayload loads response)).filterMap normalizePlan

/-- The first loop of `validate_output`: the first error, if any. -/
def checkPlans (seenIds : List String) : List (PyValue × Nat) → Option String
  | [] => none
  | (plan, index) :: rest =>
    match plan with
    | .dict plan =>
      let localId := rawLocalId plan
      if localId = "" then some ("plan " ++ toString index ++ " missing local_id")
      else if localId ∈ seenIds then some ("duplicate local_id: " ++ PyValue.reprText localId)
      else if rawLabel plan = "" then
        some ("plan " ++ PyValue.reprText localId ++ " has empty label")
      else checkPlans (localId :: seenIds) rest
    | _ => some ("plan " ++ toString index ++ " is not a dict")

/-- The dependencies of one plan; a key is told apart by its `repr`. -/
def checkDependencies (seenSoFar : List String) (localId : PyValue) :
    List PyValue → Except PyError (Option String)
  | [] => .ok none
  | dependency :: rest => do
      if dependency.repr = localId.repr then
        return some ("self-reference: " ++ localId.repr ++ " depends on itself")
      let key ← dependency.requireKey
      if key ∉ seenSoFar then
        return some ("forward or unknown reference: plan " ++ localId.repr ++
          " depends_on " ++ dependency.repr ++
          " which is not an earlier plan")
      checkDependencies seenSoFar localId rest

/-- The second loop of `validate_output`: the first error, if any. -/
def checkReferences (seenSoFar : List String) :
    List PyDict → Except PyError (Option String)
  | [] => .ok none
  | plan :: rest => do
      let localId ← plan.require "local_id"
      let dependencies ← plan.getList "depends_on"
      match ← checkDependencies seenSoFar localId dependencies with
      | some error => return some error
      | none => do
          let key ← localId.requireKey
          checkReferences (key :: seenSoFar) rest

def validateOutput (parsed : PyDict) :
    Except PyError (Bool × List String) := do
  let errors := validateAgainstSchema parsed outputSchema
  if errors ≠ [] then return (false, errors)
  let plans ← parsed.getList "plans"
  if plans.isEmpty then return (false, ["plans list is empty"])
  if maxPlans < plans.length then
    return (false, ["plans list has " ++ toString plans.length ++
      " entries, exceeds max of " ++ toString maxPlans])
  match checkPlans [] plans.zipIdx with
  | some error => return (false, [error])
  | none => do
      match ← checkReferences [] (plans.filterMap PyValue.asDict) with
      | some error => return (false, [error])
      | none => return (true, [])

end PlanDraftSkill

end Skills

end AccruviaHarness
