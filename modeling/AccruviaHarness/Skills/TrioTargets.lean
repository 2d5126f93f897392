import AccruviaHarness.Skills.PlanDraft
import AccruviaHarness.Skills.RepoInventory
import Mathlib.Data.List.Pairwise

/-!
# The targets of an accepted list

The validation compares the targets of plans as texts. In an accepted list no
text stands twice; a file can stand twice if it has different symbols or
different spellings there.
-/

/-!
## The plan_draft_trio skill

`PlanDraftTrioSkill` asks for two targets of each plan, for what the plan
supersedes and for samples. Its validation collects the errors of all plans.
-/

namespace AccruviaHarness

namespace Skills

def complexityValues : List String := ["trivial", "small", "medium", "large", "too_large"]

/-- `"('trivial', 'small', 'medium', 'large', 'too_large')"`. -/
def complexityTuple : String :=
  "(" ++ ", ".intercalate (complexityValues.map PyValue.reprText) ++ ")"

/-- The characters behind the first `::`, if there is one. -/
def afterSymbol : List Char → Option (List Char)
  | ':' :: ':' :: rest => some rest
  | _ :: rest => afterSymbol rest
  | [] => none

/-- `text.split("::", 1)`, when there are two parts. -/
def splitSymbol (text : String) : Option (String × String) :=
  (afterSymbol text.toList).map fun symbol =>
    (String.ofList (beforeSymbol text.toList), String.ofList symbol)

/-- `target.split("::", 1)[0]`. -/
def pathPart (target : String) : String := String.ofList (beforeSymbol target.toList)

/-! ## Targets -/

structure TargetKind where
  field : String
  noun : String
  realFile : String
  rootCandidates : RepoInventory → List String
  matchesConvention : RepoInventory → String → Bool

def targetImpl : TargetKind where
  field := "target_impl"
  noun := "impl"
  realFile := "a real file"
  rootCandidates := RepoInventory.implRootCandidates
  matchesConvention := RepoInventory.pathMatchesImplConvention

def targetTest : TargetKind where
  field := "target_test"
  noun := "test"
  realFile := "a real test file"
  rootCandidates := RepoInventory.testRootCandidates
  matchesConvention := RepoInventory.pathMatchesTestConvention

/-- The targets that plans have claimed, each with the plan's local id. -/
abbrev Claimed := List (String × PyValue)

def requireTarget : PyValue → Except PyError String
  | .str target => .ok target
  | .list _ => .error (.typeError "unhashable type: 'list'")
  | .dict _ => .error (.typeError "unhashable type: 'dict'")
  | value => .error (.attributeError ("'" ++ typeName value ++ "' object has no attribute 'split'"))

namespace PlanDraftTrioSkill

variable (repo : RepoInventory) (localId : PyValue)

def planText : String := "plan " ++ localId.repr ++ " "

def pathErrors (kind : TargetKind) (localId : PyValue) (createsNewFile : Bool)
    (path : String) : List String :=
  if repo.fileExists path then []
  else if createsNewFile then
    if kind.matchesConvention repo path then []
    else
      [planText localId ++ kind.field ++ " " ++ PyValue.reprText path ++
        " marked creates_new_file=true but does not match an " ++ kind.noun ++
        "-root convention " ++
        (PyValue.list ((kind.rootCandidates repo).map .str)).repr]
  else
    [planText localId ++ kind.field ++ " path " ++ PyValue.reprText path ++
      " is not in the repository inventory and creates_new_file is not set. " ++
      "Hallucinated path — either reference " ++ kind.realFile ++ " or set " ++
      "creates_new_file=true."]

def checkTarget (kind : TargetKind) (localId : PyValue) (createsNewFile : Bool)
    (claimed : Claimed) (target : PyValue) :
    Except PyError (List String × Claimed) :=
  if target.truthy then do
    let text ← requireTarget target
    let errors := pathErrors repo kind localId createsNewFile (pathPart text)
    match claimed.find? fun entry => entry.1 = text with
    | some entry =>
      return ((planText localId ++ kind.field ++ " " ++
        PyValue.reprText text ++ " already claimed by plan " ++ entry.2.repr) :: errors, claimed)
    | none => return (errors, (text, localId) :: claimed)
  else .ok ([], claimed)

/-! ## Superseded symbols -/

def entryErrors (entry : String) : List String :=
  match splitSymbol entry with
  | none =>
    [planText localId ++ "supersedes entry " ++ PyValue.reprText entry ++
      " must be in 'path::symbol' form"]
  | some (path, symbol) =>
    let path := pyStrip path
    let symbol := pyStrip symbol
    if ¬ repo.fileExists path then
      [planText localId ++ "supersedes " ++ PyValue.reprText entry ++
        ": file does not exist in inventory"]
    else if endsWith path ".py" ∧ ¬ repo.symbolExists path symbol then
      [planText localId ++ "supersedes " ++ PyValue.reprText entry ++
        ": symbol " ++ PyValue.reprText symbol ++
        " not defined at top level of " ++ PyValue.reprText path]
    else []

/-- The errors of any entry. A list and an object can hold a `::`, after which
they are found not to be texts. -/
def supersededErrors (localId entry : PyValue) : Except PyError (List String) :=
  let noText := planText localId ++ "supersedes entry " ++ entry.repr ++
    " must be in 'path::symbol' form"
  match entry with
  | .str entry => .ok (entryErrors repo localId entry)
  | .list items =>
    if items.any fun item => item.isText "::" then
      .error (.attributeError "'list' object has no attribute 'split'")
    else .ok [noText]
  | .dict entries =>
    if PyDict.contains entries "::" then
      .error (.attributeError "'dict' object has no attribute 'split'")
    else .ok [noText]
  | value => .error (.typeError ("argument of type '" ++ typeName value ++ "' is not iterable"))

variable (plan : PyDict)

/-- `(plan.get("orphan_acceptance_reason") or "").strip()`. -/
def acceptanceReason : Except PyError String :=
  let reason := plan.get "orphan_acceptance_reason"
  if reason.truthy then
    match reason with
    | .str text => .ok (pyStrip text)
    | value =>
      .error (.attributeError ("'" ++ typeName value ++ "' object has no attribute 'strip'"))
  else .ok ""

def reasonErrors : Except PyError (List String) :=
  if (plan.get "orphan_strategy").isText "accept" then do
    let reason ← acceptanceReason plan
    return if reason = "" then
      [planText localId ++ "orphan_strategy=accept but " ++
        "orphan_acceptance_reason is empty — explain why " ++
        "the orphan is intentional"]
    else []
  else .ok []

/-- `plan.get("supersedes") or []`, and the error when that is no list. -/
def supersedesOf : List PyValue × List String :=
  let value := plan.get "supersedes"
  if value.truthy then
    match value with
    | .list items => (items, [])
    | _ => ([], [planText localId ++ "supersedes must be a list of 'path::symbol' entries"])
  else ([], [])

def orphanStrategies : List String := ["absorb", "follow_up", "accept"]

def orphanErrors :
    Except PyError (List String) := do
  let (supersedes, noList) := supersedesOf localId plan
  let strategy := plan.get "orphan_strategy"
  if supersedes ≠ [] then
    let entries ← supersedes.mapM (supersededErrors repo localId)
    let unset :=
      if orphanStrategies.any strategy.isText then []
      else
        [planText localId ++ "has supersedes=" ++ (PyValue.list supersedes).repr ++
          " but orphan_strategy is not one of absorb/follow_up/accept"]
    let unexplained ← reasonErrors localId plan
    return noList ++ (entries.flatten ++ (unset ++ unexplained))
  else
    match strategy with
    | .none => return noList
    | strategy =>
      return noList ++ [planText localId ++ "has no supersedes but declares orphan_strategy=" ++
        strategy.repr ++ " — set supersedes to a " ++
        "non-empty list or set orphan_strategy to null"]

/-! ## The other fields -/

def complexityErrors : List String :=
  let complexity := plan.get "estimated_complexity"
  (if complexity.truthy ∧ ¬ complexityValues.any complexity.isText then
    [planText localId ++ "estimated_complexity " ++ complexity.repr ++
      " not in " ++ complexityTuple]
  else []) ++
    if complexity.isText "too_large" then
      [planText localId ++ "estimated_complexity is 'too_large' — " ++
        "split this plan into smaller units"]
    else []

def transformationErrors : List String :=
  let transformation := plan.get "transformation"
  if ¬ transformation.truthy ∨ pyStrip transformation.toStr = "" then
    [planText localId ++ "missing transformation"]
  else []

def missingSamples (field : String) : List String :=
  let missing := [planText localId ++ "missing " ++ field ++ " (must be non-empty list)"]
  match plan.get field with
  | .list [] => missing
  | .list (_ :: _) => []
  | _ => missing

def samplesErrors : List String :=
  missingSamples localId plan "input_samples" ++ (missingSamples localId plan "output_samples" ++
      match plan.get "input_samples", plan.get "output_samples" with
      | .list inputs, .list outputs =>
        if inputs.length ≠ outputs.length then
          [planText localId ++ "input_samples (" ++ toString inputs.length ++
            ") and output_samples (" ++ toString outputs.length ++
            ") length mismatch"]
        else []
      | _, _ => [])

/-! ## `PlanDraftTrioSkill.validate_output` -/

structure Targets where
  impl : Claimed := []
  test : Claimed := []

def checkPlan (targets : Targets) (plan : PyDict) :
    Except PyError (List String × Targets) := do
  let localId ← plan.require "local_id"
  let impl := plan.get "target_impl"
  let test := plan.get "target_test"
  let createsNewFile := (plan.get "creates_new_file").truthy
  if ¬ impl.truthy ∧ ¬ test.truthy then
    return ([planText localId ++ "has neither target_impl nor target_test — " ++
      "at least one is required"], targets)
  let (implErrors, implClaimed) ←
    checkTarget repo targetImpl localId createsNewFile targets.impl impl
  let (testErrors, testClaimed) ←
    checkTarget repo targetTest localId createsNewFile targets.test test
  let orphans ← orphanErrors repo localId plan
  return (implErrors ++ (testErrors ++ (orphans ++
    (complexityErrors localId plan ++ (transformationErrors localId plan ++
      samplesErrors localId plan)))), { impl := implClaimed, test := testClaimed })

def trioErrors (targets : Targets) : List PyDict → Except PyError (List String)
  | [] => .ok []
  | plan :: plans => do
      let (errors, targets) ← checkPlan repo targets plan
      let further ← trioErrors targets plans
      return errors ++ further

variable (parsed : PyDict)

def plansOf : List PyDict :=
  match parsed.get "plans" with
  | .list plans => plans.filterMap PyValue.asDict
  | _ => []

def validateOutput :
    Except PyError (Bool × List String) := do
  let (ok, errors) ← PlanDraftSkill.validateOutput parsed
  if ok = false then return (false, errors)
  let errors ← trioErrors repo {} (plansOf parsed)
  return (errors.isEmpty, errors)

end PlanDraftTrioSkill

end Skills

end AccruviaHarness

/-! ## The targets of an accepted list -/

namespace AccruviaHarness

namespace Skills

open PlanDraftTrioSkill

/-- `validate_output` finds no error. -/
def Accepted (repo : RepoInventory) (parsed : PyDict) : Prop :=
  validateOutput repo parsed = .ok (true, [])

def targetText : PyValue → Option String
  | .str target => if target = "" then none else some target
  | _ => none

def targetsOf (kind : TargetKind) (plans : List PyDict) : List String :=
  plans.filterMap fun plan => targetText (plan.get kind.field)

/-! ## One plan without errors -/

section

variable {repo : RepoInventory}

def ClaimStep (repo : RepoInventory) (kind : TargetKind) (plan : PyDict)
    (claimed after : Claimed) : Prop :=
  (targetText (plan.get kind.field) = none ∧ after = claimed) ∨
    ∃ target localId, targetText (plan.get kind.field) = some target ∧
      (∀ entry ∈ claimed, entry.1 ≠ target) ∧
      after = (target, localId) :: claimed ∧
      pathErrors repo kind localId (plan.get "creates_new_file").truthy (pathPart target) = []

variable {plan : PyDict}

theorem claimStep_of_checkTarget {kind : TargetKind} {localId : PyValue} {claimed after : Claimed}
    (checked : checkTarget repo kind localId
      (plan.get "creates_new_file").truthy claimed (plan.get kind.field) = .ok ([], after)) :
    ClaimStep repo kind plan claimed after := by
  unfold checkTarget at checked
  unfold ClaimStep
  cases value : plan.get kind.field with
  | str target =>
    rw [value] at checked
    by_cases empty : target = ""
    · subst empty
      cases checked
      exact .inl ⟨rfl, rfl⟩
    · have truthy : (PyValue.str target).truthy = true := by simp [PyValue.truthy, empty]
      rw [if_pos truthy] at checked
      simp only [requireTarget, ok_bind] at checked
      cases known : claimed.find? fun entry => entry.1 = target with
      | some _ =>
        rw [known] at checked
        cases checked
      | none =>
        rw [known] at checked
        have returned := Except.ok.inj checked
        have clean := congrArg Prod.fst returned
        have claims := congrArg Prod.snd returned
        refine .inr ⟨target, localId, by simp [targetText, empty], ?_, claims.symm, clean⟩
        intro entry member
        simpa using List.find?_eq_none.mp known entry member
  | none | bool _ | int _ | float _ | list _ | dict _ =>
    rw [value] at checked
    split_ifs at checked with truthy
    · cases checked
    · cases checked
      exact .inl ⟨rfl, rfl⟩

structure CleanPlan (repo : RepoInventory) (plan : PyDict)
    (targets after : Targets) : Prop where
  impl : ClaimStep repo targetImpl plan targets.impl after.impl
  test : ClaimStep repo targetTest plan targets.test after.test
  orphans : ∃ localId, orphanErrors repo localId plan = .ok []

theorem cleanPlan_of_checkPlan {targets after : Targets}
    (checked : checkPlan repo targets plan = .ok ([], after)) :
    CleanPlan repo plan targets after := by
  unfold checkPlan at checked
  obtain ⟨localId, _, checked⟩ := exists_of_bind_ok checked
  dsimp only at checked
  split_ifs at checked with untargeted
  · cases checked
  · obtain ⟨⟨_, _⟩, implChecked, checked⟩ := exists_of_bind_ok checked
    obtain ⟨⟨_, _⟩, testChecked, checked⟩ := exists_of_bind_ok checked
    obtain ⟨_, orphansChecked, checked⟩ := exists_of_bind_ok checked
    have returned := Except.ok.inj checked
    have clean := congrArg Prod.fst returned
    have claims := congrArg Prod.snd returned
    simp only [List.append_eq_nil_iff] at clean
    obtain ⟨rfl, rfl, rfl, _⟩ := clean
    subst claims
    exact ⟨claimStep_of_checkTarget implChecked,
      claimStep_of_checkTarget testChecked, localId, orphansChecked⟩

theorem trioErrors_cons {plans : List PyDict} {targets : Targets}
    (checked : trioErrors repo targets (plan :: plans) = .ok []) :
    ∃ after, CleanPlan repo plan targets after ∧ trioErrors repo after plans = .ok [] := by
  rw [trioErrors] at checked
  obtain ⟨⟨_, after⟩, first, checked⟩ := exists_of_bind_ok checked
  obtain ⟨_, later, checked⟩ := exists_of_bind_ok checked
  have clean := Except.ok.inj checked
  obtain ⟨rfl, rfl⟩ := List.append_eq_nil_iff.mp clean
  exact ⟨after, cleanPlan_of_checkPlan first, later⟩

theorem trioErrors_of_accepted {parsed : PyDict} (accepted : Accepted repo parsed) :
    trioErrors repo {} (plansOf parsed) = .ok [] := by
  unfold Accepted validateOutput at accepted
  obtain ⟨⟨ok, errors⟩, _, accepted⟩ := exists_of_bind_ok accepted
  dsimp only at accepted
  split_ifs at accepted with refused
  · cases accepted
  · obtain ⟨errors, checked, accepted⟩ := exists_of_bind_ok accepted
    have clean : errors = [] := congrArg Prod.snd (Except.ok.inj accepted)
    subst clean
    exact checked

end

/-! ## Runs over the plans -/

section

variable {repo : RepoInventory} {plans : List PyDict} {targets : Targets}

theorem exists_cleanPlan (checked : trioErrors repo targets plans = .ok []) :
    ∀ plan ∈ plans, ∃ targets after, CleanPlan repo plan targets after := by
  induction plans generalizing targets with
  | nil => exact List.forall_mem_nil _
  | cons _ _ ih =>
    obtain ⟨after, clean, later⟩ := trioErrors_cons checked
    exact List.forall_mem_cons.mpr ⟨⟨targets, after, clean⟩, ih later⟩

theorem targets_distinct {kind : TargetKind} {claims : Targets → Claimed}
    (step : ∀ {plan targets after}, CleanPlan repo plan targets after →
      ClaimStep repo kind plan (claims targets) (claims after))
    (checked : trioErrors repo targets plans = .ok []) :
    (∀ target ∈ targetsOf kind plans, ∀ entry ∈ claims targets, entry.1 ≠ target) ∧
      (targetsOf kind plans).Nodup := by
  induction plans generalizing targets with
  | nil => simp [targetsOf]
  | cons plan plans ih =>
    obtain ⟨_, clean, later⟩ := trioErrors_cons checked
    obtain ⟨apart, distinct⟩ := ih later
    rcases step clean with
      ⟨noTarget, same⟩ | ⟨target, localId, found, fresh, same, _⟩
    · have shape : targetsOf kind (plan :: plans) = targetsOf kind plans := by
        simp [targetsOf, noTarget]
      rw [same] at apart
      rw [shape]
      exact ⟨apart, distinct⟩
    · have shape : targetsOf kind (plan :: plans) = target :: targetsOf kind plans := by
        simp [targetsOf, found]
      rw [same] at apart
      rw [shape]
      refine ⟨List.forall_mem_cons.mpr ⟨fresh, ?_⟩, List.nodup_cons.mpr ⟨?_, distinct⟩⟩
      · intro other member entry claimed
        exact apart other member entry (List.mem_cons_of_mem _ claimed)
      · intro member
        exact apart target member (target, localId) List.mem_cons_self rfl

end

/-! ## Files -/

/-- The part of a target before its symbol, without a leading `./`. -/
def targetFile (target : String) : List Char :=
  let path := beforeSymbol target.toList
  if "./".toList.isPrefixOf path then path.drop 2 else path

def FilesApart (kind : TargetKind) (parsed : PyDict) : Prop :=
  (targetsOf kind (plansOf parsed)).Pairwise fun first second =>
    targetFile first ≠ targetFile second

def OneSpelling (kind : TargetKind) (parsed : PyDict) : Prop :=
  ∀ first ∈ targetsOf kind (plansOf parsed),
    ∀ second ∈ targetsOf kind (plansOf parsed),
      targetFile first = targetFile second → first = second

theorem filesApart_iff {kind : TargetKind} {parsed : PyDict}
    (distinct : (targetsOf kind (plansOf parsed)).Nodup) :
    FilesApart kind parsed ↔ OneSpelling kind parsed := by
  unfold FilesApart OneSpelling
  constructor
  · intro apart first firstMember second secondMember same
    by_contra different
    have symmetric : Std.Symm fun first second : String =>
        targetFile first ≠ targetFile second :=
      ⟨fun _ _ other => Ne.symm other⟩
    exact apart.forall firstMember secondMember different same
  · intro once
    refine distinct.pairwise_of_forall_ne ?_
    intro first firstMember second secondMember different same
    exact different (once first firstMember second secondMember same)

/-- The files of an accepted list are apart if each has one spelling. -/
theorem accepted_filesApart_iff (repo : RepoInventory) (parsed : PyDict) :
    (Accepted repo parsed → FilesApart targetImpl parsed ∧ FilesApart targetTest parsed) ↔
      (Accepted repo parsed → OneSpelling targetImpl parsed ∧ OneSpelling targetTest parsed) := by
  refine forall_congr' fun accepted => ?_
  have checked := trioErrors_of_accepted accepted
  have impl : (targetsOf targetImpl (plansOf parsed)).Nodup :=
    (targets_distinct (fun clean => clean.impl) checked).2
  have test : (targetsOf targetTest (plansOf parsed)).Nodup :=
    (targets_distinct (fun clean => clean.test) checked).2
  exact and_congr (filesApart_iff impl) (filesApart_iff test)

def soleModule : RepoInventory where
  root := ["work", "repo"]
  files := ["src/foo.py"]
  listed := by
    intro file member
    rw [List.mem_singleton] at member
    subst member
    exact ⟨by decide, by decide, by decide⟩
  parse := fun _ => none

def implPlan (localId target : String) (createsNewFile : Bool) : PyValue :=
  .dict [("local_id", .str localId), ("label", .str "Change the module"),
      ("depends_on", .list []), ("target_impl", .str target),
      ("transformation", .str "Change it"), ("input_samples", .list [.int 1]),
      ("output_samples", .list [.int 2]),
      ("creates_new_file", .bool createsNewFile)]

def twoSymbols : PyDict :=
  [("plans", .list [implPlan "p1" "src/foo.py::bar" false, implPlan "p2" "src/foo.py::baz" false])]

theorem twoSymbols_accepted_in_one_file :
    ¬ ∀ (repo : RepoInventory) (parsed : PyDict), Accepted repo parsed →
      FilesApart targetImpl parsed ∧ FilesApart targetTest parsed := by
  intro apart
  have accepted : Accepted soleModule twoSymbols := by
    unfold Accepted
    decide +kernel
  have targets : targetsOf targetImpl (plansOf twoSymbols) =
      ["src/foo.py::bar", "src/foo.py::baz"] := by
    decide +kernel
  have files := (apart soleModule twoSymbols accepted).1
  unfold FilesApart at files
  rw [targets] at files
  have different : targetFile "src/foo.py::bar" ≠ targetFile "src/foo.py::baz" :=
    (List.pairwise_cons.mp files).1 _ (List.mem_singleton.mpr rfl)
  exact different (by decide)

end Skills

end AccruviaHarness
