import AccruviaHarness.Store.Schema

/-!
# Plan slices

A plan keeps its slice as a JSON object. `PlanSlice` is the typed view of it,
from which the scope of the plan's task is derived.
-/

namespace AccruviaHarness

inductive PlanComplexity where
  | trivial
  | small
  | medium
  | large
  | tooLarge
  deriving DecidableEq, Repr

def PlanComplexity.value : PlanComplexity → String
  | .trivial => "trivial"
  | .small => "small"
  | .medium => "medium"
  | .large => "large"
  | .tooLarge => "too_large"

inductive OrphanStrategy where
  | absorb
  | followUp
  | accept
  deriving DecidableEq, Repr

def OrphanStrategy.value : OrphanStrategy → String
  | .absorb => "absorb"
  | .followUp => "follow_up"
  | .accept => "accept"

/-- `_safe_enum`: the member of the given values that the text names. -/
def safeEnum {Member : Type} (members : List Member)
    (valueOf : Member → String) (value : PyValue) : Option Member :=
  match value with
  | .none => none
  | value => members.find? fun member => valueOf member = lowerAscii (pyStrip value.toStr)

structure PlanSlice where
  label : String := ""
  dependencies : List PyValue := []
  derivedFrom : String := ""
  localId : String := ""
  targetImpl : String := ""
  targetTest : String := ""
  transformation : String := ""
  inputSamples : List PyValue := []
  outputSamples : List PyValue := []
  resources : List PyValue := []
  supersedes : List PyValue := []
  orphanStrategy : Option OrphanStrategy := none
  orphanAcceptanceReason : String := ""
  risks : List PyValue := []
  estimatedComplexity : PlanComplexity := .medium
  createsNewFile : Bool := false
  deriving Repr

namespace PlanSlice

def fromDict (entries : PyDict) : Except PyError PlanSlice :=
  if entries.isEmpty then .ok {}
  else do
    let dependencies ← entries.getList "dependencies"
    let inputSamples ← entries.getList "input_samples"
    let outputSamples ← entries.getList "output_samples"
    let resources ← entries.getList "resources"
    let supersedes ← entries.getList "supersedes"
    let risks ← entries.getList "risks"
    return {
      label := entries.getStr "label"
      dependencies
      derivedFrom := entries.getStr "derived_from"
      localId := entries.getStr "local_id"
      targetImpl := entries.getStr "target_impl"
      targetTest := entries.getStr "target_test"
      transformation := entries.getStr "transformation"
      inputSamples
      outputSamples
      resources
      supersedes
      orphanStrategy :=
        safeEnum [.absorb, .followUp, .accept] OrphanStrategy.value (entries.get "orphan_strategy")
      orphanAcceptanceReason := entries.getStr "orphan_acceptance_reason"
      risks
      estimatedComplexity :=
        (safeEnum [.trivial, .small, .medium, .large, .tooLarge] PlanComplexity.value
          (entries.get "estimated_complexity")).getD .medium
      createsNewFile := (entries.get "creates_new_file").truthy }

end PlanSlice

def planSliceTyped (plan : Plan) : Except PyError PlanSlice := PlanSlice.fromDict plan.slice

/-- The characters before the first `::`. -/
def beforeSymbol : List Char → List Char
  | ':' :: ':' :: _ => []
  | character :: rest => character :: beforeSymbol rest
  | [] => []

/-- `target.split("::", 1)[0].strip()`. -/
def targetPath (target : String) : String := pyStrip (String.ofList (beforeSymbol target.toList))

namespace PlanSlice

variable (planSlice : PlanSlice)

def filesToTouch : List String :=
  [targetPath planSlice.targetImpl, targetPath planSlice.targetTest].filter fun path => path ≠ ""

/-- `sl.transformation or sl.label`. -/
def approach : String :=
  if planSlice.transformation ≠ "" then planSlice.transformation
  else planSlice.label

def scope : PyDict :=
  [("files_to_touch", .list (planSlice.filesToTouch.map .str)), ("files_not_to_touch", .list []),
    ("approach", .str planSlice.approach),
    ("risks", .list planSlice.risks),
    ("estimated_complexity", .str planSlice.estimatedComplexity.value)]

end PlanSlice

def canonicalNodeId (planId : String) : String :=
  let characters := planId.toList
  let suffix :=
    if '_' ∈ characters then (characters.dropWhile fun character => character ≠ '_').drop 1
    else characters
  "P_" ++ String.ofList (suffix.take 12)

/-- The path parts of the plan's `target_impl` and `target_test`. -/
def Plan.pathParts (plan : Plan) : List String :=
  [targetPath (plan.slice.getStr "target_impl"),
    targetPath (plan.slice.getStr "target_test")].filter fun path => path ≠ ""

/-!
## Materialized plans

`materialize_plans_from_skill_output` writes one plan row for each plan of a
skill's output, in the order of the output.
-/

open Library

def trioSliceKeys : List String :=
  ["target_impl", "target_test", "transformation", "input_samples",
    "output_samples", "resources", "supersedes", "orphan_strategy",
    "orphan_acceptance_reason", "risks", "estimated_complexity"]

/-- A value as the key of a dictionary, told apart by its `repr`. -/
def PyValue.requireKey : PyValue → Except PyError String
  | .list _ => .error (.typeError "unhashable type: 'list'")
  | .dict _ => .error (.typeError "unhashable type: 'dict'")
  | value => .ok value.repr

namespace Plans

/-- `local_to_plan_id`. -/
abbrev LocalIds := List (String × String)

/-- `deps_resolved`: the plan ids of the dependencies that are known so
far. -/
def resolveDependencies (localToPlanId : LocalIds) (localIds : List PyValue) :
    Except PyError (List PyValue) := do
  let keys ← localIds.mapM PyValue.requireKey
  return keys.filterMap fun key =>
    (localToPlanId.find? fun entry => entry.1 = key).map fun entry => .str entry.2

def trioFields (planData : PyDict) : PyDict :=
  trioSliceKeys.filterMap fun key =>
    match planData.get key with
    | .none => none
    | .str "" => none
    | value => some (key, value)

def draftPlan (objectiveId authorTag planId : String) (createdAt : Int)
    (localToPlanId : LocalIds) (planData : PyDict) :
    Except PyError (PyValue × Plan) := do
  let localId ← planData.require "local_id"
  let label ← planData.require "label"
  let localDependencies ← planData.getList "depends_on"
  let dependencies ← resolveDependencies localToPlanId localDependencies
  return (localId,
    { id := planId, objectiveId, mermaidNodeId := some (canonicalNodeId planId)
      slice :=
        [("label", label), ("dependencies", .list dependencies),
          ("derived_from", .str authorTag), ("local_id", localId)] ++
          trioFields planData
      atomicityAssessment :=
        [("is_atomic", .bool true), ("violations", .list []),
          ("reason", .str ("from " ++ authorTag))]
      approvalStatus := "approved", createdAt })

/-- The loop of `materialize_plans_from_skill_output`, with the new id of each
plan. A plan is stored before its local id is hashed; the plans stored before
an exception stay. -/
def materializeFrom (objectiveId authorTag : String) :
    Store → LocalIds → Int → List (String × PyDict) → Store × Except PyError (List Plan)
  | store, _, _, [] => (store, .ok [])
  | store, localToPlanId, createdAt, (planId, planData) :: rest =>
    match draftPlan objectiveId authorTag planId createdAt localToPlanId
      planData with
    | .error error => (store, .error error)
    | .ok (localId, plan) =>
      match store.createPlan plan with
      | .error error => (store, .error error)
      | .ok store =>
        match localId.requireKey with
        | .error error => (store, .error error)
        | .ok key =>
          let later := materializeFrom objectiveId authorTag store
            ((key, plan.id) :: localToPlanId) (createdAt + 1000000)
            rest
          (later.1, later.2.map fun plans => plan :: plans)

def materializePlansFromSkillOutput (store : Store) (objectiveId : String)
    (plansData : List (String × PyDict)) (authorTag : String) (now : Int) :
    Store × Except PyError (List Plan) :=
  materializeFrom objectiveId authorTag store [] now plansData

variable {objectiveId authorTag : String} {createdAt : Int}
  {localToPlanId : LocalIds}

theorem draftPlan_id {planId : String} {planData : PyDict} {localId : PyValue} {plan : Plan}
    (drafted : draftPlan objectiveId authorTag planId createdAt localToPlanId
      planData = .ok (localId, plan)) :
    plan.id = planId ∧ plan.objectiveId = objectiveId := by
  unfold draftPlan at drafted
  obtain ⟨_, _, drafted⟩ := exists_of_bind_ok drafted
  obtain ⟨_, _, drafted⟩ := exists_of_bind_ok drafted
  obtain ⟨_, _, drafted⟩ := exists_of_bind_ok drafted
  obtain ⟨_, _, drafted⟩ := exists_of_bind_ok drafted
  cases drafted
  exact ⟨rfl, rfl⟩

theorem materializeFrom_spec {store : Store} {plansData : List (String × PyDict)} {written : Store}
    {plans : List Plan}
    (returned : materializeFrom objectiveId authorTag store localToPlanId
      createdAt plansData = (written, .ok plans)) :
    (∃ table, written = { store with plans := table } ∧
      table.rows = store.plans.rows ++ plans) ∧ plans.map Plan.id = plansData.map Prod.fst ∧
          ∀ plan ∈ plans, plan.objectiveId = objectiveId := by
  induction plansData generalizing store localToPlanId createdAt plans with
  | nil =>
    cases returned
    exact ⟨⟨_, rfl, (List.append_nil _).symm⟩, rfl, nofun⟩
  | cons entry rest ih =>
    obtain ⟨_, _⟩ := entry
    unfold materializeFrom at returned
    split at returned
    · cases returned
    next localId plan drafted =>
      split at returned
      · cases returned
      next stored created =>
        split at returned
        · cases returned
        next key _ =>
          generalize tried : materializeFrom objectiveId authorTag stored
            ((key, plan.id) :: localToPlanId) (createdAt + 1000000)
            rest = later at returned
          obtain ⟨_, laterPlans⟩ := later
          cases laterPlans with
          | error _ => cases returned
          | ok _ =>
            cases returned
            obtain ⟨⟨table, same, rows⟩, ids, owned⟩ := ih tried
            obtain ⟨sameId, sameObjective⟩ := draftPlan_id drafted
            unfold Store.createPlan at created
            split at created
            next inserted new =>
              cases created
              refine ⟨⟨table, same, ?rows⟩, ?ids, ?owned⟩
              case rows =>
                rw [rows, KeyedTable.rows_of_insert? new, List.append_assoc]
                rfl
              case ids => rw [List.map_cons, ids, sameId, List.map_cons]
              case owned => exact List.forall_mem_cons.mpr ⟨sameObjective, owned⟩
            · cases created

end Plans

end AccruviaHarness
