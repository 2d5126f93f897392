import AccruviaHarness.Library.Projections
import AccruviaHarness.Services.ObjectiveReview
import AccruviaHarness.Store.Diagrams

/-!
# The interrogation of an objective

`complete_interrogation_review` records a review of the objective, once. The
review is written down from the intent model, unless a language model has
drafted one.
-/

namespace AccruviaHarness

open Library

structure IntentModel where
  intentSummary : String
  successDefinition : String
  nonNegotiables : List String

structure InterrogationReview where
  completed : Bool
  summary : String
  planElements : List PyValue
  questions : List PyValue
  generatedBy : PyValue := .str "deterministic"
  backend : PyValue := .none
  promptPath : PyValue := .none
  responsePath : PyValue := .none

structure RedTeamResult where
  success : Bool
  finalOutput : PyDict
  lastRound : Option (String × String × String)

/-- What the interrogation is given besides the store: the latest intent model
of the objective, what each red-team loop answers if there is a router, and the
ids and times of the records. -/
structure InterrogationAnswers where
  intent : Option IntentModel
  router : Option (Nat → Except PyError RedTeamResult)
  stamps : RowStamps

namespace HarnessUIDataService

/-- `create_context_record` of a new record. -/
def writeRecord (stamps : RowStamps) (objectiveId recordType content : String)
    (metadata : PyDict) : EStateM PyError Store PUnit :=
  modify fun store =>
    store.createContextRecord
      { id := stamps.identity store.contextRecords.length, recordType
        objectiveId := some objectiveId, content, metadata
        createdAt := stamps.clock store.contextRecords.length }

/-- `reconcile_objective_workflow`, where no work is started in the
background. -/
def reconcileObjectiveWorkflow (objectiveId : String) : EStateM PyError Store PUnit :=
  modify fun store => (WorkflowService.reconcileObjective store objectiveId {}).1

theorem store_reconcileObjective {store : Store} {objectiveId : String} {objective : Objective}
    (found : store.getObjective objectiveId = some objective)
    (request : WorkflowService.ReconcileRequest) :
    (WorkflowService.reconcileObjective store objectiveId request).1 =
      if WorkflowService.linkedTasks store objectiveId = [] then store
      else (store.updateObjectivePhase objectiveId).1 := by
  unfold WorkflowService.reconcileObjective
  rw [found]
  dsimp only
  by_cases unlinked : WorkflowService.linkedTasks store objectiveId = []
  · rw [if_pos unlinked, if_pos (List.isEmpty_iff.mpr unlinked)]
  · have linked : ¬ (WorkflowService.linkedTasks store objectiveId).isEmpty = true := by
      simpa [List.isEmpty_iff] using unlinked
    rw [if_neg unlinked, if_neg linked]

theorem reconcileObjective_frame (store : Store) (objectiveId : String)
    (request : WorkflowService.ReconcileRequest) :
    ∃ objectives, (WorkflowService.reconcileObjective store objectiveId request).1 =
        { store with objectives } := by
  cases found : store.getObjective objectiveId with
  | none =>
    unfold WorkflowService.reconcileObjective
    rw [found]
    exact ⟨_, rfl⟩
  | some _ =>
    rw [store_reconcileObjective found]
    unfold Store.updateObjectivePhase
    split_ifs
    · exact ⟨_, rfl⟩
    · split
      · exact ⟨_, rfl⟩
      · exact ⟨_, rfl⟩

theorem listContextRecords_reconcile (store : Store) (objectiveId other recordType : String)
    (request : WorkflowService.ReconcileRequest) :
    (WorkflowService.reconcileObjective store objectiveId
        request).1.listContextRecords other recordType =
      store.listContextRecords other recordType := by
  obtain ⟨_, same⟩ := reconcileObjective_frame store objectiveId request
  rw [same]
  rfl

def deterministicInterrogationReview (intent : Option IntentModel) :
    InterrogationReview :=
  let desiredOutcome := pyStrip ((intent.map IntentModel.intentSummary).getD "")
  let successDefinition := pyStrip ((intent.map IntentModel.successDefinition).getD "")
  let nonNegotiables := (intent.map IntentModel.nonNegotiables).getD []
  let planElements :=
    (if desiredOutcome ≠ "" then ["Desired outcome: " ++ desiredOutcome]
      else []) ++
    (if successDefinition ≠ "" then
      ["Success definition: " ++ successDefinition]
      else []) ++
    (if nonNegotiables ≠ [] then
      ["Non-negotiables: " ++ ", ".intercalate (nonNegotiables.take 4)]
      else [])
  let questions :=
    [if desiredOutcome ≠ "" then
        "What concrete operator experience should feel different if this " ++ "objective succeeds?"
      else "What exact outcome should exist before the harness starts planning?",
      if successDefinition ≠ "" then
        "What evidence would prove this objective is complete instead of " ++ "only improved?"
      else "How should the harness measure success for this objective?",
      "What is the most likely way the current plan could still miss your " ++ "intent?",
      "What ambiguity should be resolved before Mermaid review?"]
  { completed := false
    summary := "The harness should interrogate the objective and " ++
      "self-red-team the plan before Mermaid review."
    planElements := planElements.map .str, questions := questions.map .str }

variable (answers : InterrogationAnswers)

/-- `_generate_interrogation_review`, where it asks for the loop of the given
number. -/
def generateInterrogationReview (loop : Nat) : Except PyError InterrogationReview :=
  match answers.router with
  | none => .ok (deterministicInterrogationReview answers.intent)
  | some router => do
      let result ← router loop
      if !result.success || result.finalOutput.isEmpty then
        return deterministicInterrogationReview answers.intent
      else
        let parsed := result.finalOutput
        let planElements ← parsed.getList "plan_elements"
        let questions ← parsed.getList "questions"
        let (backend, promptPath, responsePath) := result.lastRound.getD ("", "", "")
        return {
          completed := false
          summary := parsed.getStr "summary"
          planElements
          questions
          generatedBy := .str "llm"
          backend := .str backend
          promptPath := .str promptPath
          responsePath := .str responsePath }

def recordedInterrogationReview (record : ContextRecord) (completed : Bool) :
    Except PyError InterrogationReview := do
  let planElements ← record.metadata.getList "plan_elements"
  let questions ← record.metadata.getList "questions"
  return {
    completed
    summary := record.content
    planElements
    questions
    generatedBy := record.metadata.getD "generated_by" (.str "deterministic")
    backend := record.metadata.get "backend" }

def persistInterrogationRecord (recordType objectiveId : String) (review : InterrogationReview) :
    EStateM PyError Store PUnit :=
  writeRecord answers.stamps objectiveId recordType review.summary
    [("plan_elements", .list review.planElements), ("questions", .list review.questions),
      ("generated_by", review.generatedBy), ("backend", review.backend),
      ("prompt_path", review.promptPath),
      ("response_path", review.responsePath)]

variable (objectiveId : String)

def unknownObjective : PyError := .valueError ("Unknown objective: " ++ objectiveId)

def latestRecord (store : Store) (objectiveId recordType : String) : Option ContextRecord :=
  (store.listContextRecords objectiveId recordType).getLast?

/-- The draft that `_interrogation_review` goes on with when nothing is
recorded. -/
def draftInterrogationReview : EStateM PyError Store InterrogationReview := do
  let deterministic := deterministicInterrogationReview answers.intent
  if deterministic.planElements.isEmpty then return deterministic
  else
    let generated ← valueOf (generateInterrogationReview answers 0)
    if generated.generatedBy.isText "deterministic" then return deterministic
    else
      persistInterrogationRecord answers "interrogation_draft" objectiveId generated
      let store ← get
      match latestRecord store objectiveId "interrogation_draft" with
      | some draft => valueOf (recordedInterrogationReview draft false)
      | none => return deterministic

def interrogationReview : EStateM PyError Store InterrogationReview := do
  let store ← get
  ensure ((store.getObjective objectiveId).isSome = true) (unknownObjective objectiveId)
  match latestRecord store objectiveId "interrogation_completed" with
  | some completion => valueOf (recordedInterrogationReview completion true)
  | none =>
    match latestRecord store objectiveId "interrogation_draft" with
    | some draft => valueOf (recordedInterrogationReview draft false)
    | none => draftInterrogationReview answers objectiveId

variable (review : InterrogationReview)

def recordReview :
    EStateM PyError Store InterrogationReview := do
  persistInterrogationRecord answers "interrogation_completed" objectiveId review
  reconcileObjectiveWorkflow objectiveId
  interrogationReview answers objectiveId

/-- What `complete_interrogation_review` does with a review that is not
completed: a deterministic one is generated again. -/
def recordCompletion :
    EStateM PyError Store InterrogationReview := do
  if review.generatedBy.isText "deterministic" then
    let generated ← valueOf (generateInterrogationReview answers 1)
    recordReview answers objectiveId generated
  else recordReview answers objectiveId review

def completeInterrogationReview : EStateM PyError Store InterrogationReview := do
  let store ← get
  ensure ((store.getObjective objectiveId).isSome = true) (unknownObjective objectiveId)
  let review ← interrogationReview answers objectiveId
  if review.completed then return review
  else recordCompletion answers objectiveId review

def completedType : String := "interrogation_completed"

def InterrogationReads (store : Store) (objectiveId : String) : Prop :=
  ∃ completion review, latestRecord store objectiveId completedType = some completion ∧
      recordedInterrogationReview completion true = .ok review

section

variable {answers : InterrogationAnswers} {objectiveId : String}
  {before after : Store} {review : InterrogationReview}

variable {record : ContextRecord}

theorem completed_of_recorded {completed : Bool}
    (read : recordedInterrogationReview record completed = .ok review) :
    review.completed = completed := by
  unfold recordedInterrogationReview at read
  obtain ⟨_, _, read⟩ := exists_of_bind_ok read
  obtain ⟨_, _, read⟩ := exists_of_bind_ok read
  cases read
  rfl

theorem listContextRecords_create_of_ne (store : Store) {recordType : String}
    (other : record.recordType ≠ recordType) (objectiveId : String) :
    (store.createContextRecord record).listContextRecords objectiveId
      recordType = store.listContextRecords objectiveId recordType := by
  unfold Store.listContextRecords Store.createContextRecord
  rw [List.filter_append]
  simp [other]

theorem keeps_draftInterrogationReview :
    Keeps (fun store => store.listContextRecords objectiveId completedType)
      (draftInterrogationReview answers objectiveId) := by
  unfold draftInterrogationReview
  refine Keeps.choice (Keeps.returns _) ?_
  refine (Keeps.value _).bind fun generated => ?_
  refine Keeps.choice (Keeps.returns _) ?_
  have draft : "interrogation_draft" ≠ completedType := by decide
  have written : Keeps (fun store => store.listContextRecords objectiveId completedType)
      (persistInterrogationRecord answers "interrogation_draft" objectiveId generated) :=
    Keeps.changes fun store => listContextRecords_create_of_ne store draft objectiveId
  refine written.bind fun _ => Keeps.reads.bind fun store => ?_
  split
  · exact Keeps.value _
  · exact Keeps.returns _

theorem keeps_interrogationReview :
    Keeps (fun store => store.listContextRecords objectiveId completedType)
      (interrogationReview answers objectiveId) := by
  unfold interrogationReview
  refine Keeps.reads.bind fun store => ?_
  refine Keeps.bind (Keeps.choice (Keeps.returns _) (Keeps.raises _)) fun _ => ?_
  split
  · exact Keeps.value _
  · split
    · exact Keeps.value _
    · exact keeps_draftInterrogationReview

theorem completeInterrogationReview_of_reads
    (found : (before.getObjective objectiveId).isSome = true)
    (reads : InterrogationReads before objectiveId) :
    ∃ review, completeInterrogationReview answers objectiveId before = .ok review before := by
  obtain ⟨completion, review, latest, read⟩ := reads
  unfold completedType at latest
  have reviewed : interrogationReview answers objectiveId before = .ok review before := by
    unfold interrogationReview
    rw [get_bind, ensure_of found, latest]
    show (valueOf (recordedInterrogationReview completion true) :
      EStateM PyError Store InterrogationReview) before = _
    rw [read]
    rfl
  refine ⟨review, ?_⟩
  unfold completeInterrogationReview
  rw [get_bind, ensure_of found]
  show (interrogationReview answers objectiveId >>= _) before = _
  rw [bind_of_ok reviewed, completed_of_recorded read]
  rfl

theorem uncompleted_of_draft (drafted : draftInterrogationReview answers objectiveId before =
      .ok review after) : review.completed = false := by
  unfold draftInterrogationReview at drafted
  by_cases planless : (deterministicInterrogationReview answers.intent).planElements.isEmpty = true
  · rw [if_pos planless] at drafted
    cases drafted
    rfl
  · rw [if_neg planless] at drafted
    obtain ⟨generated, _, _, drafted⟩ := ok_of_bind drafted
    by_cases deterministic : generated.generatedBy.isText "deterministic" = true
    · rw [if_pos deterministic] at drafted
      cases drafted
      rfl
    · rw [if_neg deterministic] at drafted
      obtain ⟨_, written, _, drafted⟩ := ok_of_bind drafted
      rw [get_bind] at drafted
      cases latest : latestRecord written objectiveId "interrogation_draft" with
      | none =>
        rw [latest] at drafted
        cases drafted
        rfl
      | some _ =>
        rw [latest] at drafted
        exact completed_of_recorded (ok_of_valueOf drafted).2

theorem interrogationReview_of_latest {completion : ContextRecord}
    (latest : latestRecord before objectiveId completedType = some completion)
    (reviewed : interrogationReview answers objectiveId before = .ok review after) :
    after = before ∧ recordedInterrogationReview completion true = .ok review := by
  unfold interrogationReview at reviewed
  rw [get_bind] at reviewed
  obtain ⟨_, _, checked, reviewed⟩ := ok_of_bind reviewed
  obtain ⟨rfl, _⟩ := ok_of_ensure checked
  unfold completedType at latest
  rw [latest] at reviewed
  exact ok_of_valueOf reviewed

theorem uncompleted_of_interrogationReview
    (unrecorded : latestRecord before objectiveId completedType = none)
    (reviewed : interrogationReview answers objectiveId before =
      .ok review after) : review.completed = false := by
  unfold interrogationReview at reviewed
  rw [get_bind] at reviewed
  obtain ⟨_, middle, checked, reviewed⟩ := ok_of_bind reviewed
  obtain ⟨rfl, _⟩ := ok_of_ensure checked
  unfold completedType at unrecorded
  rw [unrecorded] at reviewed
  cases latest : latestRecord middle objectiveId "interrogation_draft" with
  | some _ =>
    rw [latest] at reviewed
    exact completed_of_recorded (ok_of_valueOf reviewed).2
  | none =>
    rw [latest] at reviewed
    exact uncompleted_of_draft reviewed

theorem latestRecord_eq_none_iff {recordType : String} :
    latestRecord before objectiveId recordType = none ↔
      before.listContextRecords objectiveId recordType = [] :=
  List.getLast?_eq_none_iff

theorem recorded_createContextRecord
    (store : Store) (owned : record.objectiveId = some objectiveId) :
    (store.createContextRecord record).listContextRecords objectiveId record.recordType ≠ [] := by
  refine List.ne_nil_of_mem (?_ : record ∈ _)
  unfold Store.listContextRecords Store.createContextRecord
  rw [mem_orderBy, List.mem_filter]
  refine ⟨List.mem_append_right _ (List.mem_singleton_self record), ?_⟩
  simp [owned]

theorem recorded_of_recordReview {final : InterrogationReview}
    (returned : recordReview answers objectiveId review before = .ok final after) :
    after.listContextRecords objectiveId completedType ≠ [] := by
  unfold recordReview at returned
  obtain ⟨_, _, persisted, returned⟩ := ok_of_bind returned
  obtain ⟨_, reconciled, reconciling, returned⟩ := ok_of_bind returned
  have kept := @keeps_interrogationReview answers objectiveId reconciled
  rw [returned] at kept
  dsimp only [stateOf] at kept
  cases persisted
  cases reconciling
  rw [kept, listContextRecords_reconcile]
  exact recorded_createContextRecord before rfl

theorem recorded_of_complete (returned : completeInterrogationReview answers objectiveId before =
      .ok review after) :
    after.listContextRecords objectiveId completedType ≠ [] ∧
      (before.listContextRecords objectiveId completedType ≠ [] →
        InterrogationReads before objectiveId) := by
  unfold completeInterrogationReview at returned
  rw [get_bind] at returned
  obtain ⟨_, middle, checked, reviews⟩ := ok_of_bind returned
  clear returned
  obtain ⟨rfl, _⟩ := ok_of_ensure checked
  obtain ⟨first, _, reviewed, returned⟩ := ok_of_bind reviews
  cases latest : latestRecord middle objectiveId completedType with
  | none =>
    have unrecorded := latestRecord_eq_none_iff.mp latest
    have uncompleted := uncompleted_of_interrogationReview latest reviewed
    rw [if_neg (by simp [uncompleted])] at returned
    refine ⟨?_, fun recorded => absurd unrecorded recorded⟩
    unfold recordCompletion at returned
    by_cases deterministic : first.generatedBy.isText "deterministic" = true
    · rw [if_pos deterministic] at returned
      obtain ⟨_, _, _, returned⟩ := ok_of_bind returned
      exact recorded_of_recordReview returned
    · rw [if_neg deterministic] at returned
      exact recorded_of_recordReview returned
  | some completion =>
    obtain ⟨rfl, read⟩ := interrogationReview_of_latest latest reviewed
    rw [if_pos (completed_of_recorded read)] at returned
    cases returned
    refine ⟨?_, fun _ => ⟨completion, _, latest, read⟩⟩
    intro empty
    rw [latestRecord_eq_none_iff.mpr empty] at latest
    cases latest

end

end HarnessUIDataService

end AccruviaHarness
