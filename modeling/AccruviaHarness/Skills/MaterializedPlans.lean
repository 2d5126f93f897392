import AccruviaHarness.Library.References
import AccruviaHarness.Mermaid.Drawn
import AccruviaHarness.Skills.PlanDraft

/-!
# Materialized drafts

The plans stored from a validated draft depend on earlier plans only, and all
of them are reached from the objective in the rendered flowchart.
-/

namespace AccruviaHarness

open List

namespace Skills

open Library Mermaid Plans

/-- `uuid4().hex`. -/
structure UuidHex where
  digits : List Char
  length_eq : digits.length = 32
  isHex : ∀ digit ∈ digits, digit ∈ "0123456789abcdef".toList

def newId (kind : String) (uuid : UuidHex) : String :=
  kind ++ "_" ++ String.ofList (uuid.digits.take 12)

def parsedPlans (loads : List Char → Option PyValue) (response : String) : List PyDict :=
  (rawPlans (extractJsonPayload loads response)).filterMap normalizePlan

/-- Each plan with the id that `new_id` gives it. -/
def withNewIds (uuid : Nat → UuidHex) (drafts : List PyDict) : List (String × PyDict) :=
  drafts.zipIdx.map fun entry => (newId "plan" (uuid entry.2), entry.1)

/-! ## The intended result -/

def ResolvedBefore (front : List (PyDict × Plan)) (dependency planId : String) : Prop :=
  ∃ earlier ∈ front, earlier.1.get "local_id" = .str dependency ∧ earlier.2.id = planId

/-- Every entry of `depends_on` is resolved to an earlier plan, in its
place. -/
def DependenciesResolved (drafts : List PyDict) (plans : List Plan) : Prop :=
  drafts.length = plans.length ∧
    ∀ front draft plan back, drafts.zip plans = front ++ (draft, plan) :: back →
        ∃ dependsOn planIds, draft.get "depends_on" = .list (dependsOn.map .str) ∧
            plan.slice.get "dependencies" = .list (planIds.map .str) ∧
              List.Forall₂ (ResolvedBefore front) dependsOn planIds

def DependsOn (plans : List Plan) (planId other : String) : Prop :=
  ∃ plan ∈ plans, plan.id = planId ∧
    ∃ items, plan.slice.get "dependencies" = .list items ∧ .str other ∈ items

/-! ## Validated drafts -/

structure DraftSpec where
  localId : String
  label : String
  dependsOn : List String

def DraftSpec.entry (spec : DraftSpec) : PyDict := draftEntry spec.localId spec.label spec.dependsOn

theorem parsedPlans_specs (loads : List Char → Option PyValue) (response : String) :
    ∃ specs : List DraftSpec, parsedPlans loads response = specs.map DraftSpec.entry ∧
        ∀ spec ∈ specs, spec.localId ≠ "" ∧ spec.label ≠ "" := by
  unfold parsedPlans
  generalize rawPlans (extractJsonPayload loads response) = items
  induction items with
  | nil => exact ⟨[], rfl, nofun⟩
  | cons item _ ih =>
    obtain ⟨specs, same, named⟩ := ih
    rw [filterMap_cons, same]
    by_cases complete : rawLocalId item ≠ "" ∧ rawLabel item ≠ ""
    · have normalized : normalizePlan item = some (draftEntry
          (rawLocalId item) (rawLabel item) (readDependsOn item)) :=
        if_pos complete
      rw [normalized]
      exact ⟨⟨rawLocalId item, rawLabel item, readDependsOn item⟩ :: specs,
        rfl, forall_mem_cons.mpr ⟨complete, named⟩⟩
    · have dropped : normalizePlan item = none := if_neg complete
      rw [dropped]
      exact ⟨specs, rfl, named⟩

variable {seen : List String} {localId : PyValue} {specs : List DraftSpec}
  {objectiveId authorTag planId : String} {createdAt : Int} {spec : DraftSpec}
  {plan : Plan}

theorem seen_of_checkDependencies {dependencies : List String}
    (checked : PlanDraftSkill.checkDependencies seen localId (dependencies.map .str) = .ok none) :
    ∀ dependency ∈ dependencies, PyValue.reprText dependency ∈ seen := by
  induction dependencies with
  | nil => exact fun _ impossible => absurd impossible not_mem_nil
  | cons _ _ ih =>
    rw [map_cons, PlanDraftSkill.checkDependencies] at checked
    split at checked
    · cases checked
    · obtain ⟨_, keyed, checked⟩ := exists_of_bind_ok checked
      cases keyed
      split at checked
      · cases checked
      next known =>
        rw [forall_mem_cons]
        exact ⟨Classical.not_not.mp known, ih checked⟩

theorem getList_depends_on (spec : DraftSpec) :
    spec.entry.getList "depends_on" = .ok (spec.dependsOn.map .str) := by
  obtain ⟨_, _, dependsOn⟩ := spec
  cases dependsOn with
  | nil => rfl
  | cons _ _ => rfl

theorem earlier_of_checkReferences (checked : PlanDraftSkill.checkReferences seen
      (specs.map DraftSpec.entry) = .ok none) :
    ∀ front spec back, specs = front ++ spec :: back →
      ∀ dependency ∈ spec.dependsOn, PyValue.reprText dependency ∈ seen ∨
          dependency ∈ front.map DraftSpec.localId := by
  induction specs generalizing seen with
  | nil =>
    intro front spec back split
    cases front with
    | nil => cases split
    | cons _ _ => cases split
  | cons _ _ ih =>
    rw [map_cons, PlanDraftSkill.checkReferences] at checked
    obtain ⟨_, required, checked⟩ := exists_of_bind_ok checked
    cases required
    rw [getList_depends_on, ok_bind] at checked
    obtain ⟨error, dependencies, checked⟩ := exists_of_bind_ok checked
    cases error with
    | some _ => cases checked
    | none =>
      obtain ⟨_, keyed, checked⟩ := exists_of_bind_ok checked
      cases keyed
      intro front spec back split dependency member
      cases front with
      | nil =>
        obtain ⟨rfl, rfl⟩ := List.cons.inj split
        exact .inl (seen_of_checkDependencies dependencies dependency member)
      | cons _ front =>
        obtain ⟨sameFirst, sameRest⟩ := List.cons.inj split
        subst sameFirst
        rcases ih checked front spec back sameRest dependency member with known | earlier
        · rcases mem_cons.mp known with here | known
          · rw [PyValue.reprText_injective here]
            exact .inr mem_cons_self
          · exact .inl known
        · exact .inr (mem_cons_of_mem _ earlier)

theorem earlier_of_accepted {loads : List Char → Option PyValue} {response : String}
    {errors : List String}
    (parsed : parsedPlans loads response = specs.map DraftSpec.entry)
    (accepted : PlanDraftSkill.validateOutput
      (PlanDraftSkill.parseResponse loads response) = .ok (true, errors)) :
    ∀ front spec back, specs = front ++ spec :: back →
      ∀ dependency ∈ spec.dependsOn, dependency ∈ front.map DraftSpec.localId := by
  have output : PlanDraftSkill.parseResponse loads response =
      plansOutput (specs.map DraftSpec.entry) := by
    rw [← parsed]
    rfl
  rw [output] at accepted
  have plansList : (plansOutput (specs.map DraftSpec.entry)).getList "plans" =
      .ok ((specs.map DraftSpec.entry).map .dict) := by
    cases specs with
    | nil => rfl
    | cons _ _ => rfl
  have dicts : ((specs.map DraftSpec.entry).map PyValue.dict).filterMap
      PyValue.asDict = specs.map DraftSpec.entry := by
    rw [filterMap_map]
    exact filterMap_some
  unfold PlanDraftSkill.validateOutput at accepted
  dsimp only at accepted
  split at accepted
  · cases accepted
  · rw [plansList, ok_bind] at accepted
    split at accepted
    · cases accepted
    · split at accepted
      · cases accepted
      · split at accepted
        · cases accepted
        · rw [dicts] at accepted
          obtain ⟨error, checked, accepted⟩ := exists_of_bind_ok accepted
          cases error with
          | some _ => cases accepted
          | none =>
            intro front spec back split dependency member
            have earlier := earlier_of_checkReferences checked front spec
              back split dependency member
            exact earlier.resolve_left not_mem_nil

/-! ## Stored plans -/

structure StoredFrom (authorTag : String) (front : List (DraftSpec × Plan))
    (spec : DraftSpec) (plan : Plan) : Prop where
  slice : ∃ planIds, List.Forall₂ (ResolvedBefore (front.map fun pair => (pair.1.entry, pair.2)))
      spec.dependsOn planIds ∧
    plan.slice = [("label", .str spec.label), ("dependencies", .list (planIds.map .str)),
      ("derived_from", .str authorTag), ("local_id", .str spec.localId)]
  approved : plan.approvalStatus = "approved"

variable (front : List (DraftSpec × Plan))

/-- `local_to_plan_id` after the given plans. -/
def localIdsOf : LocalIds :=
  (front.map fun pair => (PyValue.reprText pair.1.localId, pair.2.id)).reverse

theorem localIdsOf_concat (pair : DraftSpec × Plan) :
    localIdsOf (front ++ [pair]) =
      (PyValue.reprText pair.1.localId, pair.2.id) :: localIdsOf front := by
  unfold localIdsOf
  rw [map_append, reverse_append]
  rfl

theorem requireKeys_texts (texts : List String) :
    (texts.map PyValue.str).mapM PyValue.requireKey = .ok (texts.map PyValue.reprText) := by
  induction texts with
  | nil => rfl
  | cons _ _ ih =>
    rw [map_cons, mapM_cons, ih]
    rfl

variable {front : List (DraftSpec × Plan)}

theorem find?_localIdsOf {dependency : String}
    (known : dependency ∈ front.map fun pair => pair.1.localId) :
    ∃ planId, ((localIdsOf front).find? fun entry =>
        entry.1 = PyValue.reprText dependency) = some (PyValue.reprText dependency, planId) ∧
      ResolvedBefore (front.map fun pair => (pair.1.entry, pair.2)) dependency
        planId := by
  cases found : (localIdsOf front).find? fun entry => entry.1 = PyValue.reprText dependency with
  | none =>
    obtain ⟨pair, member, same⟩ := mem_map.mp known
    have listed : (PyValue.reprText dependency, pair.2.id) ∈ localIdsOf front := by
      rw [← same]
      exact mem_reverse.mpr (mem_map.mpr ⟨pair, member, rfl⟩)
    have other := find?_eq_none.mp found _ listed
    exact absurd (decide_eq_true rfl) other
  | some entry =>
    have listed := mem_reverse.mp (mem_of_find?_eq_some found)
    obtain ⟨pair, member, rfl⟩ := mem_map.mp listed
    have sameKey : PyValue.reprText pair.1.localId = PyValue.reprText dependency := by
      simpa using find?_some found
    refine ⟨pair.2.id, by rw [sameKey], (pair.1.entry, pair.2),
      mem_map.mpr ⟨pair, member, rfl⟩, ?_, rfl⟩
    rw [← PyValue.reprText_injective sameKey]
    rfl

theorem resolveDependencies_of_known {dependsOn : List String} (known : ∀ dependency ∈ dependsOn,
      dependency ∈ front.map fun pair => pair.1.localId) :
    ∃ planIds, resolveDependencies (localIdsOf front)
        (dependsOn.map .str) = .ok (planIds.map .str) ∧
      List.Forall₂ (ResolvedBefore (front.map fun pair => (pair.1.entry, pair.2)))
        dependsOn planIds := by
  unfold resolveDependencies
  rw [requireKeys_texts, ok_bind]
  induction dependsOn with
  | nil => exact ⟨[], rfl, .nil⟩
  | cons _ rest ih =>
    rw [forall_mem_cons] at known
    obtain ⟨planIds, resolved, earlier⟩ := ih known.2
    obtain ⟨planId, found, before⟩ := find?_localIdsOf known.1
    refine ⟨planId :: planIds, ?_, .cons before earlier⟩
    have rest := Except.ok.inj resolved
    change Except.ok _ = _
    rw [map_cons, filterMap_cons, found]
    exact congrArg _ (congrArg _ rest)

theorem storedFrom_of_draftPlan (known : ∀ dependency ∈ spec.dependsOn,
      dependency ∈ front.map fun pair => pair.1.localId)
    (drafted : draftPlan objectiveId authorTag planId createdAt
      (localIdsOf front) spec.entry = .ok (localId, plan)) :
    localId = .str spec.localId ∧ plan.id = planId ∧ StoredFrom authorTag front spec plan := by
  obtain ⟨planIds, resolved, earlier⟩ := resolveDependencies_of_known known
  have sameId := (draftPlan_id drafted).1
  unfold draftPlan at drafted
  obtain ⟨_, required, drafted⟩ := exists_of_bind_ok drafted
  cases required
  obtain ⟨_, required, drafted⟩ := exists_of_bind_ok drafted
  cases required
  rw [getList_depends_on, ok_bind, resolved, ok_bind] at drafted
  cases drafted
  exact ⟨rfl, sameId, ⟨planIds, earlier, rfl⟩, rfl⟩

theorem earlier_tail {rest : List (String × DraftSpec)}
    (earlier : ∀ before entry after, (planId, spec) :: rest = before ++ entry :: after →
        ∀ dependency ∈ entry.2.dependsOn, dependency ∈ (front.map fun pair => pair.1.localId) ∨
            dependency ∈ before.map fun entry => entry.2.localId) :
    ∀ before entry after, rest = before ++ entry :: after →
      ∀ dependency ∈ entry.2.dependsOn, dependency ∈ ((front ++ [(spec, plan)]).map
          fun pair => pair.1.localId) ∨ dependency ∈ before.map fun entry => entry.2.localId := by
  intro before entry after split dependency member
  have known := earlier ((planId, spec) :: before) entry after
    (by rw [split, cons_append]) dependency member
  rw [map_cons, mem_cons] at known
  rw [map_append, mem_append, map_singleton, mem_singleton]
  rcases known with first | here | later
  · exact .inl (.inl first)
  · exact .inl (.inr here)
  · exact .inr later

theorem storedFrom_of_materializeFrom {store written : Store} {specs : List (String × DraftSpec)}
    {plans : List Plan}
    (earlier : ∀ before entry after, specs = before ++ entry :: after →
      ∀ dependency ∈ entry.2.dependsOn, dependency ∈ (front.map fun pair => pair.1.localId) ∨
          dependency ∈ before.map fun entry => entry.2.localId)
    (returned : materializeFrom objectiveId authorTag store (localIdsOf front) createdAt
      (specs.map fun entry => (entry.1, entry.2.entry)) = (written, .ok plans)) :
    (specs.map Prod.snd).length = plans.length ∧
      ∀ before spec plan after, (specs.map Prod.snd).zip plans = before ++ (spec, plan) :: after →
          StoredFrom authorTag (front ++ before) spec plan := by
  induction specs generalizing front store createdAt plans with
  | nil =>
    cases returned
    refine ⟨rfl, ?_⟩
    intro before spec plan after split
    exact absurd split.symm (append_ne_nil_of_right_ne_nil before (cons_ne_nil _ _))
  | cons entry rest ih =>
    obtain ⟨planId, spec⟩ := entry
    rw [map_cons, materializeFrom] at returned
    have known : ∀ dependency ∈ spec.dependsOn,
        dependency ∈ front.map fun pair => pair.1.localId := by
      intro dependency member
      exact (earlier [] (planId, spec) rest rfl dependency member).resolve_right not_mem_nil
    split at returned
    · cases returned
    next localId plan drafted =>
      obtain ⟨rfl, _, stored⟩ := storedFrom_of_draftPlan known drafted
      split at returned
      · cases returned
      next next created =>
        split at returned
        · cases returned
        next key keyed =>
          cases keyed
          have ids : ((PyValue.str spec.localId).repr, plan.id) ::
              localIdsOf front = localIdsOf (front ++ [(spec, plan)]) :=
            (localIdsOf_concat front (spec, plan)).symm
          rw [ids] at returned
          generalize tried : materializeFrom objectiveId authorTag next
            (localIdsOf (front ++ [(spec, plan)])) (createdAt + 1000000)
            (rest.map fun entry => (entry.1, entry.2.entry)) = later
            at returned
          obtain ⟨_, laterPlans⟩ := later
          cases laterPlans with
          | error _ => cases returned
          | ok _ =>
            cases returned
            obtain ⟨sameLength, laterStored⟩ := ih (earlier_tail earlier) tried
            refine ⟨congrArg Nat.succ sameLength, ?_⟩
            intro before other otherPlan after split
            cases before with
            | nil =>
              obtain ⟨same, _⟩ := List.cons.inj split
              cases same
              rw [append_nil]
              exact stored
            | cons _ before =>
              obtain ⟨same, sameRest⟩ := List.cons.inj split
              subst same
              have storedLater := laterStored before other otherPlan after sameRest
              rwa [append_assoc] at storedLater

/-! ## The rendered plans -/

theorem pyStrip_newId (uuid : UuidHex) :
    pyStrip (newId "plan" uuid) = newId "plan" uuid ∧ newId "plan" uuid ≠ "" := by
  have characters : (newId "plan" uuid).toList =
      'p' :: 'l' :: 'a' :: 'n' :: '_' :: uuid.digits.take 12 := by
    unfold newId
    rw [String.toList_append, String.toList_append]
    exact congrArg ("plan_".toList ++ ·) String.toList_ofList
  constructor
  · refine pyStrip_of_visible fun character member => ?_
    rw [characters] at member
    have hex : ∀ digit ∈ "0123456789abcdef".toList, isPyWhitespace digit = false := by
      have none : ("0123456789abcdef".toList.any isPyWhitespace) = false := by decide
      intro digit member
      exact Bool.not_eq_true _ ▸ any_eq_false.mp none digit member
    simp only [mem_cons] at member
    rcases member with rfl | rfl | rfl | rfl | rfl | digit
    · rfl
    · rfl
    · rfl
    · rfl
    · rfl
    · exact hex character (uuid.isHex character (mem_of_mem_take digit))
  · intro empty
    rw [empty] at characters
    cases characters

section

variable {authorTag : String} {specs : List DraftSpec} {plans : List Plan}

structure StoredPlans (authorTag : String) (specs : List DraftSpec)
    (plans : List Plan) : Prop where
  sameLength : specs.length = plans.length
  stored : ∀ before spec plan after, specs.zip plans = before ++ (spec, plan) :: after →
      StoredFrom authorTag before spec plan
  newIds : ∀ plan ∈ plans, ∃ uuid, plan.id = newId "plan" uuid

variable {plan : Plan}

theorem StoredPlans.of_split (storedPlans : StoredPlans authorTag specs plans)
    {front back : List Plan} (split : plans = front ++ plan :: back) :
    ∃ before spec, before.map Prod.snd = front ∧ StoredFrom authorTag before spec plan := by
  have seconds : (specs.zip plans).map Prod.snd = plans :=
    map_snd_zip storedPlans.sameLength.ge
  rw [split] at seconds
  obtain ⟨before, _, zipped, sameFront, sameRest⟩ := map_eq_append_iff.mp seconds
  obtain ⟨⟨spec, other⟩, after, rfl, same, _⟩ := map_eq_cons_iff.mp sameRest
  obtain rfl : other = plan := same
  exact ⟨before, spec, sameFront, storedPlans.stored before spec other after (split ▸ zipped)⟩

theorem StoredPlans.approved (storedPlans : StoredPlans authorTag specs plans) :
    ∀ plan ∈ plans, plan.approvalStatus = "approved" := by
  intro plan member
  obtain ⟨_, _, split⟩ := append_of_mem member
  obtain ⟨_, _, _, stored⟩ := storedPlans.of_split split
  exact stored.approved

theorem StoredPlans.resolved (storedPlans : StoredPlans authorTag specs plans) :
    DependenciesResolved (specs.map DraftSpec.entry) plans := by
  refine ⟨(length_map _).trans storedPlans.sameLength, ?_⟩
  intro front draft plan back split
  have pairs : (specs.map DraftSpec.entry).zip plans =
      (specs.zip plans).map fun pair => (pair.1.entry, pair.2) := by
    rw [zip_map_left]
    rfl
  rw [pairs] at split
  obtain ⟨before, _, zipped, rfl, sameRest⟩ := map_eq_append_iff.mp split
  obtain ⟨⟨spec, other⟩, after, rfl, same, _⟩ := map_eq_cons_iff.mp sameRest
  cases same
  obtain ⟨planIds, earlier, slice⟩ := (storedPlans.stored before spec other after zipped).slice
  exact ⟨spec.dependsOn, planIds, rfl, by rw [slice]; rfl, earlier⟩

theorem earlier_of_resolvedBefore {dependsOn planIds : List String} (resolved : List.Forall₂
      (ResolvedBefore (front.map fun pair => (pair.1.entry, pair.2)))
      dependsOn planIds) :
    ∀ planId ∈ planIds, planId ∈ (front.map Prod.snd).map Plan.id := by
  induction resolved with
  | nil => exact fun _ impossible => absurd impossible not_mem_nil
  | cons before _ ih =>
    rw [forall_mem_cons]
    obtain ⟨_, member, _, rfl⟩ := before
    obtain ⟨pair, pairMember, rfl⟩ := mem_map.mp member
    exact ⟨mem_map.mpr ⟨pair.2, mem_map.mpr ⟨pair, pairMember, rfl⟩, rfl⟩, ih⟩

theorem StoredPlans.dependencies (storedPlans : StoredPlans authorTag specs plans)
    {front back : List Plan} {plan : Plan}
    (split : plans = front ++ plan :: back) :
    ∃ planIds : List String, plan.slice.get "dependencies" = .list (planIds.map .str) ∧
        (∃ planSlice, planSliceTyped plan = .ok planSlice ∧
          planSlice.dependencies = planIds.map .str) ∧
        ∀ planId ∈ planIds, planId ∈ front.map Plan.id := by
  obtain ⟨_, _, sameFront, stored⟩ := storedPlans.of_split split
  obtain ⟨planIds, earlier, slice⟩ := stored.slice
  refine ⟨planIds, by rw [slice]; rfl, ?_, ?_⟩
  · unfold planSliceTyped
    rw [slice]
    cases planIds with
    | nil => exact ⟨_, rfl, rfl⟩
    | cons _ _ => exact ⟨_, rfl, rfl⟩
  · rw [← sameFront]
    exact earlier_of_resolvedBefore earlier

theorem StoredPlans.refersBack (storedPlans : StoredPlans authorTag specs plans)
    (distinct : (plans.map Plan.id).Nodup) :
    RefersBack (DependsOn plans) (plans.map Plan.id) := by
  intro front planId back split other depends
  obtain ⟨_, _, plansSplit, rfl, sameRest⟩ := map_eq_append_iff.mp split
  obtain ⟨plan, _, rfl, rfl, rfl⟩ := map_eq_cons_iff.mp sameRest
  obtain ⟨_, listed, _, earlier⟩ := storedPlans.dependencies plansSplit
  obtain ⟨same, member, sameId, _, itemsListed, item⟩ := depends
  have here : plan ∈ plans := by
    rw [plansSplit]
    exact mem_append_right _ mem_cons_self
  obtain rfl : same = plan := inj_on_of_nodup_map distinct member here sameId
  rw [listed] at itemsListed
  cases itemsListed
  obtain ⟨_, dependencyMember, sameText⟩ := mem_map.mp item
  cases sameText
  exact earlier other dependencyMember

theorem StoredPlans.rendered
    (storedPlans : StoredPlans authorTag specs plans) (member : plan ∈ plans) :
    (∃ label, planLabel plan = .ok label) ∧
      ∃ planIds : List String, planDependencies plan = .ok planIds ∧
        ∀ other, other ∈ planIds ↔ DependsOn [plan] plan.id other := by
  obtain ⟨_, _, split⟩ := append_of_mem member
  obtain ⟨planIds, listed, ⟨_, typed, dependencies⟩, earlier⟩ := storedPlans.dependencies split
  have stripped : (planIds.map PyValue.str).filterMap strippedText =
      planIds := by
    rw [filterMap_map]
    refine (filterMap_congr fun planId planIdMember => ?_).trans filterMap_some
    obtain ⟨other, otherMember, rfl⟩ := mem_map.mp (earlier planId planIdMember)
    have stored : other ∈ plans := by
      rw [split]
      exact mem_append_left _ otherMember
    obtain ⟨uuid, sameId⟩ := storedPlans.newIds other stored
    obtain ⟨own, nonempty⟩ := pyStrip_newId uuid
    rw [Function.comp_apply, sameId, strippedText, own, if_pos nonempty]
  refine ⟨?label, planIds, ?dependencies, ?iff⟩
  case label =>
    unfold planLabel
    rw [typed, ok_bind]
    split
    · exact ⟨_, rfl⟩
    · exact ⟨_, rfl⟩
  case dependencies =>
    unfold planDependencies
    rw [typed, ok_bind, dependencies, stripped]
    rfl
  case iff =>
    intro other
    constructor
    · intro dependency
      exact ⟨plan, mem_singleton_self plan, rfl, _, listed, mem_map_of_mem dependency⟩
    · rintro ⟨_, sameMember, _, _, itemsListed, item⟩
      obtain rfl := mem_singleton.mp sameMember
      rw [listed] at itemsListed
      cases itemsListed
      obtain ⟨_, dependencyMember, sameText⟩ := mem_map.mp item
      cases sameText
      exact dependencyMember

theorem StoredPlans.edgesInto (storedPlans : StoredPlans authorTag specs plans) {drawn : List Plan}
    (same : ∀ plan, plan ∈ drawn ↔ plan ∈ plans)
    {plan : Plan} (member : plan ∈ plans) :
    ∃ edges, edgesInto drawn plan = .ok edges ∧
      ∀ edge, edge ∈ edges ↔ ∃ other, DependsOn [plan] plan.id other ∧
        edge = (canonicalNodeId other, canonicalNodeId plan.id) := by
  obtain ⟨_, planIds, read, iff⟩ := storedPlans.rendered member
  obtain ⟨_, _, split⟩ := append_of_mem member
  unfold Mermaid.edgesInto
  rw [read, ok_bind]
  refine ⟨_, rfl, fun edge => ?_⟩
  have known : ∀ other ∈ planIds, referencedNode drawn other = some (canonicalNodeId other) := by
    intro other otherMember
    obtain ⟨_, listed, _, earlier⟩ := storedPlans.dependencies split
    obtain ⟨_, sameMember, _, _, itemsListed, item⟩ := (iff other).mp otherMember
    obtain rfl := mem_singleton.mp sameMember
    rw [listed] at itemsListed
    cases itemsListed
    obtain ⟨_, dependencyMember, sameText⟩ := mem_map.mp item
    cases sameText
    obtain ⟨otherPlan, otherPlanMember, rfl⟩ := mem_map.mp (earlier other dependencyMember)
    refine referencedNode_of_id ((same otherPlan).mpr ?_)
    rw [split]
    exact mem_append_left _ otherPlanMember
  rw [mem_filterMap]
  constructor
  · rintro ⟨other, otherMember, drawnEdge⟩
    rw [known other otherMember] at drawnEdge
    cases drawnEdge
    exact ⟨other, (iff other).mp otherMember, rfl⟩
  · rintro ⟨other, depends, rfl⟩
    have otherMember := (iff other).mpr depends
    refine ⟨other, otherMember, ?_⟩
    rw [known other otherMember]
    rfl

theorem dependsOn_of_singleton (member : plan ∈ plans) {planId other : String}
    (depends : DependsOn [plan] planId other) :
    DependsOn plans planId other := by
  obtain ⟨same, sameMember, rest⟩ := depends
  obtain rfl := mem_singleton.mp sameMember
  exact ⟨same, member, rest⟩

theorem StoredPlans.mem_dependencyEdges (storedPlans : StoredPlans authorTag specs plans)
    {drawn : List Plan} {dependencies : List (List Edge)}
    (same : ∀ plan, plan ∈ drawn ↔ plan ∈ plans)
    (resolved : drawn.mapM (Mermaid.edgesInto drawn) = .ok dependencies)
    (edge : Edge) :
    edge ∈ dependencies.flatten ↔ ∃ planId other, DependsOn plans planId other ∧
        edge = (canonicalNodeId other, canonicalNodeId planId) := by
  obtain ⟨rows, items⟩ := mem_of_mapM_ok resolved
  rw [mem_flatten]
  constructor
  · rintro ⟨row, rowMember, inRow⟩
    obtain ⟨plan, planMember, computed⟩ := rows row rowMember
    have stored := (same plan).mp planMember
    obtain ⟨edges, computedEdges, iff⟩ := storedPlans.edgesInto same stored
    rw [computedEdges] at computed
    cases computed
    obtain ⟨other, depends, sameEdge⟩ := (iff edge).mp inRow
    exact ⟨plan.id, other, dependsOn_of_singleton stored depends, sameEdge⟩
  · rintro ⟨_, other, ⟨plan, member, rfl, depends⟩, sameEdge⟩
    obtain ⟨row, rowMember, computed⟩ := items plan ((same plan).mpr member)
    obtain ⟨_, computedEdges, iff⟩ := storedPlans.edgesInto same member
    rw [computedEdges] at computed
    cases computed
    refine ⟨row, rowMember, (iff edge).mpr ⟨other, ?_, sameEdge⟩⟩
    exact ⟨plan, mem_singleton_self plan, rfl, depends⟩

theorem nodup_ids (distinct : (plans.map fun plan => canonicalNodeId plan.id).Nodup) :
    (plans.map Plan.id).Nodup := by
  have composed : ((plans.map Plan.id).map canonicalNodeId).Nodup := by
    rw [map_map]
    exact distinct
  exact composed.of_map

theorem StoredPlans.reached (storedPlans : StoredPlans authorTag specs plans)
    (approved : ∀ plan ∈ plans, plan.approvalStatus = "approved")
    (distinct : (plans.map fun plan => canonicalNodeId plan.id).Nodup)
    (objective : Objective) :
    ∃ diagram, renderMermaidFromPlans plans objective = .ok diagram ∧
      ∀ plan ∈ plans, Relation.ReflTransGen (fun source target => (source, target) ∈ diagram.edges)
        objectiveNodeId (canonicalNodeId plan.id) := by
  by_cases empty : plans = []
  · subst empty
    exact ⟨_, rfl, nofun⟩
  have drawnSame : drawnPlans plans = orderBy PlanBefore plans := by
    refine drawnPlans_of_none_rejected fun plan member rejected => ?_
    rw [approved plan member] at rejected
    exact absurd rejected (by decide)
  have same : ∀ plan, plan ∈ orderBy PlanBefore plans ↔ plan ∈ plans :=
    fun _ => mem_orderBy PlanBefore
  obtain ⟨nodes, labelled⟩ :
      ∃ nodes, (orderBy PlanBefore plans).mapM planStatement = .ok nodes := by
    refine exists_mapM_ok fun plan member => ?_
    obtain ⟨⟨_, read⟩, _⟩ := storedPlans.rendered ((same plan).mp member)
    unfold planStatement
    rw [read]
    exact ⟨_, rfl⟩
  obtain ⟨dependencies, resolved⟩ :
      ∃ dependencies, (orderBy PlanBefore plans).mapM
        (Mermaid.edgesInto (orderBy PlanBefore plans)) = .ok dependencies := by
    refine exists_mapM_ok fun plan member => ?_
    obtain ⟨edges, computed, _⟩ := storedPlans.edgesInto same ((same plan).mp member)
    exact ⟨edges, computed⟩
  have nonempty : drawnPlans plans ≠ [] := by
    rw [drawnSame]
    exact fun none => empty ((orderBy_eq_nil_iff PlanBefore).mp none)
  have ids := nodup_ids distinct
  have edges := storedPlans.mem_dependencyEdges same resolved
  refine ⟨drawing (orderBy PlanBefore plans) objective nodes dependencies.flatten, ?_, ?_⟩
  · rw [renderMermaidFromPlans_eq_ok_iff nonempty, drawnSame]
    exact ⟨nodes, dependencies, labelled, resolved, rfl⟩
  · intro plan member
    refine reflTransGen_of_refersBack (storedPlans.refersBack ids) ?fromRoot
      ?fromReference plan.id (mem_map_of_mem member)
    case fromRoot =>
      intro planId member independent
      obtain ⟨plan, planMember, rfl⟩ := mem_map.mp member
      rw [mem_edges_drawing labelled, mem_rootEdges]
      refine .inl ⟨rfl, mem_map.mpr ⟨plan, (same plan).mpr planMember, rfl⟩, ?_⟩
      intro dependent
      obtain ⟨edge, edgeMember, target⟩ := mem_map.mp dependent
      obtain ⟨_, other, depends, rfl⟩ := (edges edge).mp edgeMember
      obtain ⟨otherPlan, otherMember, rfl, _⟩ := id depends
      obtain rfl : otherPlan = plan :=
        inj_on_of_nodup_map distinct otherMember planMember target
      exact independent other depends
    case fromReference =>
      intro planId _ other depends
      rw [mem_edges_drawing labelled, edges]
      exact .inr ⟨planId, other, depends, rfl⟩

end

/-! ## From the response to the stored plans -/

section

variable {loads : List Char → Option PyValue} {response objectiveId authorTag : String}
  {store written : Store} {uuid : Nat → UuidHex} {now : Int}
  {plans : List Plan} {errors : List String}

theorem storedPlans_of_accepted (accepted : PlanDraftSkill.validateOutput
      (PlanDraftSkill.parseResponse loads response) = .ok (true, errors))
    (returned : materializePlansFromSkillOutput store objectiveId
      (withNewIds uuid (parsedPlans loads response)) authorTag now = (written, .ok plans)) :
    ∃ specs, parsedPlans loads response = specs.map DraftSpec.entry ∧
      StoredPlans authorTag specs plans := by
  obtain ⟨specs, parsed, _⟩ := parsedPlans_specs loads response
  have earlier := earlier_of_accepted parsed accepted
  refine ⟨specs, parsed, ?_⟩
  have named : withNewIds uuid (parsedPlans loads response) =
      (specs.zipIdx.map fun entry =>
        (newId "plan" (uuid entry.2), entry.1)).map fun entry =>
          (entry.1, entry.2.entry) := by
    unfold withNewIds
    rw [parsed, zipIdx_map, map_map, map_map]
    rfl
  have seconds : (specs.zipIdx.map fun entry =>
      (newId "plan" (uuid entry.2), entry.1)).map Prod.snd = specs := by
    rw [map_map]
    exact zipIdx_map_fst 0 specs
  have ids := (materializeFrom_spec returned).2.1
  unfold materializePlansFromSkillOutput at returned
  rw [named] at returned
  have earlierIds : ∀ before entry after,
      (specs.zipIdx.map fun entry =>
        (newId "plan" (uuid entry.2), entry.1)) = before ++ entry :: after →
        ∀ dependency ∈ entry.2.dependsOn, dependency ∈ (([] : List (DraftSpec × Plan)).map
            fun pair => pair.1.localId) ∨ dependency ∈ before.map fun entry => entry.2.localId := by
    intro before entry after split dependency member
    refine .inr ?_
    have specsSplit : specs = before.map Prod.snd ++ entry.2 :: after.map Prod.snd := by
      rw [← seconds, split, map_append, map_cons]
    have known := earlier _ _ _ specsSplit dependency member
    rw [map_map] at known
    exact known
  obtain ⟨sameLength, stored⟩ := storedFrom_of_materializeFrom earlierIds returned
  rw [seconds] at sameLength stored
  refine ⟨sameLength, stored, ?_⟩
  intro plan member
  have planId : plan.id ∈ (withNewIds uuid (parsedPlans loads response)).map Prod.fst := by
    rw [← ids]
    exact mem_map_of_mem member
  obtain ⟨_, entryMember, same⟩ := mem_map.mp planId
  obtain ⟨draft, _, rfl⟩ := mem_map.mp entryMember
  exact ⟨uuid draft.2, same.symm⟩

/-- Materialization of an accepted response: every dependency is the id of an
earlier plan, no plan depends on itself, directly or not, and the rendered
flowchart leads from the objective to every plan. -/
theorem materialized_connected
    (loads : List Char → Option PyValue) (response objectiveId authorTag : String)
    (store written : Store) (uuid : Nat → UuidHex) (now : Int)
    (plans : List Plan) (errors : List String) (objective : Objective)
    (accepted : PlanDraftSkill.validateOutput
      (PlanDraftSkill.parseResponse loads response) = .ok (true, errors))
    (returned : materializePlansFromSkillOutput store objectiveId
      (withNewIds uuid (parsedPlans loads response)) authorTag now = (written, .ok plans))
    (distinct : (plans.map fun plan => canonicalNodeId plan.id).Nodup) :
    DependenciesResolved (parsedPlans loads response) plans ∧
      (∀ planId, ¬ Relation.TransGen (DependsOn plans) planId planId) ∧
      ∃ diagram, renderMermaidFromPlans plans objective = .ok diagram ∧
        ∀ plan ∈ plans, Relation.ReflTransGen
          (fun source target => (source, target) ∈ diagram.edges)
          objectiveNodeId (canonicalNodeId plan.id) := by
  obtain ⟨_, parsed, storedPlans⟩ := storedPlans_of_accepted accepted returned
  have ids := nodup_ids distinct
  refine ⟨?resolved, fun planId => ?acyclic, ?reached⟩
  case resolved =>
    rw [parsed]
    exact storedPlans.resolved
  case acyclic =>
    refine not_transGen_of_refersBack ids (storedPlans.refersBack ids) ?_ planId
    rintro _ _ ⟨_, member, rfl, _⟩
    exact mem_map_of_mem member
  case reached => exact storedPlans.reached storedPlans.approved distinct objective

def twoDrafts : String :=
  "\x7b\"plans\": [\x7b\"local_id\": \"a\", \"label\": \"First\"\x7d, " ++
    "\x7b\"local_id\": \"b\", \"label\": \"Second\", " ++ "\"depends_on\": [\"a\"]\x7d]\x7d"

def repeatedDigit (digit : Char) (isHex : digit ∈ "0123456789abcdef".toList) :
    UuidHex where
  digits := List.replicate 32 digit
  length_eq := length_replicate
  isHex := fun _ member => eq_of_mem_replicate member ▸ isHex

def twoUuids (index : Nat) : UuidHex :=
  if index = 0 then repeatedDigit '0' (by decide)
  else repeatedDigit '1' (by decide)

theorem twoDrafts_connected :
    ∃ written plans, materializePlansFromSkillOutput {} "objective"
        (withNewIds twoUuids (parsedPlans PyJson.loads twoDrafts))
          "skill:plan_draft" 0 = (written, .ok plans) ∧
      plans.map Plan.id = ["plan_000000000000", "plan_111111111111"] ∧
      DependenciesResolved (parsedPlans PyJson.loads twoDrafts) plans := by
  obtain ⟨accepted, ids⟩ : PlanDraftSkill.validateOutput
      (plansOutput (parsedPlans PyJson.loads twoDrafts)) = .ok (true, []) ∧
        (materializePlansFromSkillOutput {} "objective"
          (withNewIds twoUuids (parsedPlans PyJson.loads twoDrafts))
            "skill:plan_draft" 0).2.map (fun plans => plans.map Plan.id) =
              .ok ["plan_000000000000", "plan_111111111111"] := by
    decide +kernel
  generalize returned : materializePlansFromSkillOutput {} "objective"
    (withNewIds twoUuids (parsedPlans PyJson.loads twoDrafts)) "skill:plan_draft" 0 = result at ids
  obtain ⟨written, _ | plans⟩ := result
  · cases ids
  · have ids : plans.map Plan.id = ["plan_000000000000", "plan_111111111111"] := Except.ok.inj ids
    have distinct : (plans.map fun plan => canonicalNodeId plan.id).Nodup := by
      have composed : plans.map (fun plan => canonicalNodeId plan.id) =
          (plans.map Plan.id).map canonicalNodeId := by
        rw [map_map]
        rfl
      rw [composed, ids]
      decide
    have connected := materialized_connected PyJson.loads twoDrafts "objective"
      "skill:plan_draft" {} written twoUuids 0 plans []
      { id := "objective", projectId := "project" } accepted returned distinct
    exact ⟨written, plans, rfl, ids, connected.1⟩

end

end Skills

end AccruviaHarness
