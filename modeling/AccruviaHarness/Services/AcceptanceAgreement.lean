import AccruviaHarness.Services.DiagramAcceptance
import AccruviaHarness.Services.QueuedGeneration

/-!
# The two ways of accepting a diagram

Marking the latest diagram as finished and accepting a proposal of the same
content store the same diagram and generate the same tasks.
-/

namespace AccruviaHarness

open Library List

namespace HarnessUIDataService

/-! ## The reconciliation -/

theorem linkedTasks_work (store : Store) (objectiveId : String) :
    WorkflowService.linkedTasks store.work objectiveId =
      WorkflowService.linkedTasks store objectiveId := by
  unfold WorkflowService.linkedTasks
  rw [Store.getObjective_work]
  cases store.getObjective objectiveId <;> rfl

def reconciledStatus (work : Store) (objectiveId : String)
    (status : Option ObjectiveStatus) : Option ObjectiveStatus :=
  if WorkflowService.linkedTasks work objectiveId = [] then status
  else derivedPhase (work.linkedRows objectiveId)

theorem linkedRows_of_linkedTasks {store : Store} {objectiveId : String}
    (linked : WorkflowService.linkedTasks store objectiveId ≠ []) :
    store.linkedRows objectiveId ≠ [] := by
  obtain ⟨task, member⟩ := exists_mem_of_ne_nil _ linked
  refine ne_nil_of_mem (?_ : task ∈ _)
  unfold WorkflowService.linkedTasks at member
  cases found : store.getObjective objectiveId with
  | none =>
    rw [found] at member
    exact absurd member not_mem_nil
  | some _ =>
    rw [found] at member
    obtain ⟨listed, owned⟩ := mem_filter.mp member
    unfold Store.listTasks at listed
    rw [mem_orderBy] at listed
    exact mem_filter.mpr ⟨(mem_filter.mp listed).1, owned⟩

theorem reconcile_spec {before : Store} {objectiveId : String} {objective : Objective}
    {prior : ObjectivePhase}
    (found : before.getObjective objectiveId = some objective)
    (entered : before.persistedPhase objectiveId = some prior) :
    ∃ after, reconcileObjectiveWorkflow objectiveId before = .ok ⟨⟩ after ∧
      after.persistedPhase objectiveId = some prior ∧
        after.objectiveStatus objectiveId = reconciledStatus before.work objectiveId
            (before.objectiveStatus objectiveId) ∧
          ∃ objectives, after = { before with objectives } := by
  refine ⟨_, rfl, ?_⟩
  show Store.persistedPhase (WorkflowService.reconcileObjective before objectiveId {}).1 _ = _ ∧ _
  have kept := reconcileObjective_frame before objectiveId {}
  refine and_assoc.mp ⟨?_, kept⟩
  show _ ∧ Store.objectiveStatus (WorkflowService.reconcileObjective before objectiveId {}).1 _ = _
  rw [store_reconcileObjective found]
  unfold reconciledStatus
  rw [linkedTasks_work, Store.linkedRows_work]
  by_cases unlinked : WorkflowService.linkedTasks before objectiveId = []
  · rw [if_pos unlinked, if_pos unlinked]
    exact ⟨entered, rfl⟩
  · rw [if_neg unlinked, if_neg unlinked]
    constructor
    · exact (persistedPhase_updateObjectivePhase before objectiveId).trans entered
    · exact objectiveStatus_updateObjectivePhase entered (linkedRows_of_linkedTasks unlinked)

/-! ## A queued generation after a new diagram -/

theorem createPlanTasks_status (identities : Nat → TaskIdentities) (objective : Objective)
    (status : ObjectiveStatus) (store : Store) (index : Nat)
    (plans : List Plan) :
    createPlanTasks identities { objective with status } store index plans =
      createPlanTasks identities objective store index plans := by
  induction plans generalizing store index with
  | nil => rfl
  | cons plan _ ih =>
    have body : createPlanTask (identities index) store
        { objective with status } plan =
          createPlanTask (identities index) store objective plan := rfl
    rw [createPlanTasks, createPlanTasks, body]
    cases createPlanTask (identities index) store objective plan with
    | error _ => rfl
    | ok _ =>
      dsimp only
      rw [ih]

theorem publishes_status (answers : GenerationAnswers) (objective : Objective)
    (status : ObjectiveStatus) (store : Store) :
    publishes answers { objective with status } store = publishes answers objective store := by
  unfold publishes
  simp only [createPlanTasks_status]

def planned (objective : Objective) : Objective := { objective with status := .planning }

section

variable {answers : AcceptanceAnswers} {origin before : Store}
  {objective : Objective} {artifact : MermaidArtifact}
  {phase prior : ObjectivePhase}

structure NewestDiagram (origin : Store) (objectiveId : String)
    (artifact : MermaidArtifact) : Prop where
  owned : artifact.objectiveId = objectiveId
  typed : artifact.diagramType = workflowControl
  version : artifact.version = origin.nextMermaidVersion objectiveId workflowControl
  finished : artifact.status = .finished

structure Prepared (origin : Store) (objective : Objective)
    (artifact : MermaidArtifact) (prior : ObjectivePhase) (before : Store) :
    Prop where
  found : before.getObjective objective.id = some (planned objective)
  work : before.work = origin.work
  entered : before.persistedPhase objective.id = some prior
  intents : before.intentModels = origin.intentModels
  diagrams : before.mermaidArtifacts = origin.mermaidArtifacts ++ [artifact]
  starts : before.listContextRecords objective.id startedType =
    origin.listContextRecords objective.id startedType
  completions : before.listContextRecords objective.id completedType =
    origin.listContextRecords objective.id completedType

def acceptedGeneration (answers : AcceptanceAnswers) (origin : Store)
    (objective : Objective) : Generation where
  objective := planned objective
  id := answers.generation.generationId
  diagramVersion := origin.nextMermaidVersion objective.id workflowControl

def acceptedStatus (answers : AcceptanceAnswers) (origin : Store)
    (objective : Objective) : Option ObjectiveStatus :=
  let work := (acceptedGeneration answers origin objective).published answers.generation origin
  reconciledStatus work objective.id
    (if publishes answers.generation objective origin = true then
      derivedPhase (work.linkedRows objective.id)
    else some .paused)

structure Accepted (answers : AcceptanceAnswers) (origin : Store)
    (objective : Objective) (artifact : MermaidArtifact)
    (reached : ObjectivePhase) (after : Store) : Prop where
  status : after.objectiveStatus objective.id = acceptedStatus answers origin objective
  reached : after.persistedPhase objective.id = some reached
  intents : after.intentModels = origin.intentModels
  diagrams : after.mermaidArtifacts = origin.mermaidArtifacts ++ [artifact]
  completions : after.listContextRecords objective.id completedType =
    origin.listContextRecords objective.id completedType

variable {store : Store} {objectiveId : String}

theorem getObjective_of_persistedPhase (entered : store.persistedPhase objectiveId = some prior) :
    ∃ found, store.getObjective objectiveId = some found := by
  unfold Store.persistedPhase at entered
  unfold Store.getObjective
  cases stored : store.objectives.lookup objectiveId with
  | none =>
    rw [stored] at entered
    cases entered
  | some _ => exact ⟨_, rfl⟩

theorem persistedPhase_of_getObjective {found : Objective}
    (stored : store.getObjective objectiveId = some found) :
    ∃ prior, store.persistedPhase objectiveId = some prior := by
  unfold Store.getObjective at stored
  unfold Store.persistedPhase
  obtain ⟨row, listed, _⟩ := Option.map_eq_some_iff.mp stored
  rw [listed]
  exact ⟨row.phase, rfl⟩

theorem accepted_of_prepared (newest : NewestDiagram origin objective.id artifact)
    (known : StartsNameDiagrams origin objective.id)
    (prepared : Prepared origin objective artifact prior before)
    (runner : phase = .created ∨ phase = .mermaidReview) :
    ∃ state queued after,
      queueAtomicGeneration answers.generation objective.id phase before = .ok state queued ∧
        reconcileObjectiveWorkflow objective.id queued = .ok ⟨⟩ after ∧
          Accepted answers origin objective artifact (Generation.reachedPhase
              (publishes answers.generation objective origin) phase prior)
            after := by
  have drawn : before.latestMermaidArtifactOf objective.id workflowControl = some artifact := by
    have latest := Store.latestMermaidArtifactOf_create newest.owned newest.typed newest.version
    unfold Store.latestMermaidArtifactOf Store.mermaidRows at latest ⊢
    rw [prepared.diagrams]
    exact latest
  have unnamed : ∀ start ∈ before.listContextRecords objective.id startedType,
      ∃ version, namedVersion start = .ok version ∧ version ≠ artifact.version := by
    intro start member
    rw [prepared.starts] at member
    obtain ⟨version, named, stored⟩ := known start member
    refine ⟨version, named, ?_⟩
    rw [newest.version]
    exact ne_of_lt stored
  obtain ⟨state, queued, queueing, settled, kept⟩ :=
    @queueAtomicGeneration_spec answers.generation origin before
      (planned objective) artifact phase prior prepared.found drawn
      newest.finished unnamed prepared.work prepared.entered runner
  have version : artifact.version =
      origin.nextMermaidVersion objective.id workflowControl := newest.version
  rw [version] at settled
  have succeeds : publishes answers.generation (planned objective) origin =
      publishes answers.generation objective origin :=
    publishes_status answers.generation objective .planning origin
  have work : queued.work = (acceptedGeneration answers origin
      objective).published answers.generation origin := settled.work
  have reached : queued.persistedPhase objective.id =
      some (Generation.reachedPhase (publishes answers.generation
        (planned objective) origin) phase prior) := settled.reached
  have status : queued.objectiveStatus objective.id =
      if publishes answers.generation (planned objective) origin = true then
        derivedPhase (queued.linkedRows objective.id)
      else some .paused := settled.status
  rw [succeeds] at reached status
  obtain ⟨_, stored⟩ := getObjective_of_persistedPhase reached
  obtain ⟨after, reconciling, afterPhase, afterStatus, _, same⟩ := reconcile_spec stored reached
  have intents : queued.intentModels = before.intentModels := congrArg (fun view => view.1) kept
  have diagrams : queued.mermaidArtifacts = before.mermaidArtifacts :=
    congrArg (fun view => view.2.1) kept
  have unqueued : completedType ∉ Generation.queueRecordTypes := by decide
  have completions := listContextRecords_of_beside unqueued kept objective.id
  refine ⟨state, queued, after, queueing, reconciling, ?_⟩
  constructor
  case status =>
    rw [afterStatus, status, ← Store.linkedRows_work, work]
    rfl
  case reached => exact afterPhase
  case intents =>
    rw [same]
    exact intents.trans prepared.intents
  case diagrams =>
    rw [same]
    exact diagrams.trans prepared.diagrams
  case completions =>
    rw [same]
    exact completions.trans prepared.completions

end

/-! ## The two acceptances -/

def acceptanceRecordTypes : List String :=
  ["mermaid_status_change", "mermaid_update_accepted", "action_receipt"]

section

variable {answers : AcceptanceAnswers} {origin : Store}
  {objective : Objective} {prior : ObjectivePhase}

theorem getObjective_updateObjectiveStatus
    (store : Store) (objectiveId : String) (status : ObjectiveStatus) :
    (store.updateObjectiveStatus objectiveId status).getObjective objectiveId =
      (store.getObjective objectiveId).map fun row =>
        { row with status } := by
  unfold Store.getObjective Store.updateObjectiveStatus
  rw [KeyedTable.lookup_updateAt]
  cases store.objectives.lookup objectiveId <;> simp

variable {artifact : MermaidArtifact} {objectiveId : String} {after : Store}

theorem prepared_of_written {written : Store}
    (found : origin.getObjective objective.id = some objective)
    (work : written.work = origin.work)
    (entered : written.persistedPhase objective.id = some prior)
    (kept : written.beside acceptanceRecordTypes =
      (origin.createMermaidArtifact artifact).beside acceptanceRecordTypes) :
    Prepared origin objective artifact prior
      (written.updateObjectiveStatus objective.id .planning) := by
  have starting : startedType ∉ acceptanceRecordTypes := by decide
  have completing : completedType ∉ acceptanceRecordTypes := by decide
  constructor
  case found =>
    rw [getObjective_updateObjectiveStatus]
    have seen := congrArg (fun view => view.getObjective objective.id) work
    rw [Store.getObjective_work, Store.getObjective_work, found] at seen
    obtain ⟨row, stored, same⟩ := Option.map_eq_some_iff.mp seen
    rw [stored]
    have settled := congrArg (fun row : Objective => some { row with status := .planning }) same
    exact settled
  case work =>
    rw [Store.work_updateObjectiveStatus]
    exact work
  case entered =>
    rw [persistedPhase_updateObjectiveStatus]
    exact entered
  case intents => exact congrArg (fun view => view.1) kept
  case diagrams => exact congrArg (fun view => view.2.1) kept
  case starts => exact listContextRecords_of_beside starting kept objective.id
  case completions => exact listContextRecords_of_beside completing kept objective.id

theorem initialPhase_created (store : Store) (objectiveId : String) :
    ObjectiveLifecycleRunner.initialPhase store objectiveId true =
      .created := by
  unfold ObjectiveLifecycleRunner.initialPhase Store.getObjective
  rw [if_pos rfl]
  cases store.objectives.lookup objectiveId <;> rfl

theorem recordAcceptance_spec (objectiveId : String) (proposal : ContextRecord)
    (artifact : MermaidArtifact) (before : Store) :
    ∃ after, recordAcceptance answers objectiveId proposal artifact before = .ok ⟨⟩ after ∧
        after.work = before.work ∧
          after.objectives = before.objectives ∧
            after.beside acceptanceRecordTypes = before.beside acceptanceRecordTypes := by
  have changed : "mermaid_status_change" ∈ acceptanceRecordTypes := by decide
  have accepted : "mermaid_update_accepted" ∈ acceptanceRecordTypes := by decide
  have receipt : "action_receipt" ∈ acceptanceRecordTypes := by decide
  refine ⟨_, rfl, rfl, rfl, ?_⟩
  refine (beside_createContextRecord ?_ _).trans <|
    (beside_createContextRecord ?_ _).trans <| beside_createContextRecord ?_ _
  · exact receipt
  · exact accepted
  · exact changed

theorem recordStatusChange_spec
    (objectiveId : String) (artifact : MermaidArtifact) (before : Store) :
    ∃ after, recordStatusChange answers objectiveId artifact before = .ok ⟨⟩ after ∧
        after.work = before.work ∧
          after.objectives = before.objectives ∧
            after.beside acceptanceRecordTypes = before.beside acceptanceRecordTypes := by
  have changed : "mermaid_status_change" ∈ acceptanceRecordTypes := by decide
  refine ⟨_, rfl, rfl, rfl, beside_createContextRecord ?_ _⟩
  exact changed

theorem acceptMermaidProposal_spec {proposal : ContextRecord} {proposalId : String}
    (found : origin.getObjective objective.id = some objective)
    (proposed : proposalRecord origin objective.id proposalId = some proposal)
    (content : proposedContent proposal ≠ "")
    (known : StartsNameDiagrams origin objective.id)
    (entered : origin.persistedPhase objective.id = some prior) :
    ∃ after, acceptMermaidProposal answers objective.id proposalId origin =
          .ok (acceptedDiagram answers origin objective.id proposal) after ∧
        Accepted answers origin objective
          (acceptedDiagram answers origin objective.id proposal) prior
            after := by
  generalize drawn :
    acceptedDiagram answers origin objective.id proposal = artifact
  have newest : NewestDiagram origin objective.id artifact := by
    subst drawn
    exact ⟨rfl, rfl, rfl, rfl⟩
  obtain ⟨recorded, recording, work, objectives, kept⟩ :=
    @recordAcceptance_spec answers objective.id proposal artifact
      (origin.createMermaidArtifact artifact)
  have stored : recorded.persistedPhase objective.id = some prior := by
    unfold Store.persistedPhase
    rw [objectives]
    exact entered
  have prepared := prepared_of_written found work stored kept
  obtain ⟨_, _, after, queueing, reconciling, accepted⟩ :=
    accepted_of_prepared newest known prepared (.inl rfl)
  refine ⟨after, ?_, accepted⟩
  have storing : storeDiagram artifact origin =
      .ok ⟨⟩ (origin.createMermaidArtifact artifact) := rfl
  have planning : setStatus objective.id .planning recorded =
      .ok ⟨⟩ (recorded.updateObjectiveStatus objective.id .planning) := rfl
  unfold acceptMermaidProposal
  rw [get_bind, found, proposed]
  dsimp only
  rw [ensure_bind content, drawn, bind_of_ok storing, bind_of_ok recording,
    bind_of_ok planning, get_bind, initialPhase_created, bind_of_ok queueing,
    bind_of_ok reconciling]
  rfl

theorem filled_of_accept {proposal : ContextRecord} {proposalId : String}
    (proposed : proposalRecord origin objectiveId proposalId = some proposal)
    (accepts : acceptMermaidProposal answers objectiveId proposalId origin =
      .ok artifact after) : proposedContent proposal ≠ "" := by
  unfold acceptMermaidProposal at accepts
  rw [get_bind, proposed] at accepts
  cases found : origin.getObjective objectiveId with
  | none =>
    rw [found] at accepts
    cases accepts
  | some _ =>
    rw [found] at accepts
    obtain ⟨_, _, checked, _⟩ := ok_of_bind accepts
    exact (ok_of_ensure checked).2

theorem approvedRunner_spec (objectiveId : String) (before : Store)
    (entered : before.persistedPhase objectiveId = some prior) :
    ∃ after, approvedRunner objectiveId before = .ok .mermaidReview after ∧
      after.work = before.work ∧ after.persistedPhase objectiveId = some .mermaidReview ∧
          ∃ objectives, after = { before with objectives } := by
  have interrogating : ObjectivePhase.created.Allows .interrogating := by decide
  have reviewing : ObjectivePhase.interrogating.Allows .mermaidReview := by decide
  refine ⟨(before.setObjectivePhase objectiveId
    .interrogating).setObjectivePhase objectiveId .mermaidReview, ?_, ?_, ?_, _, rfl⟩
  · have forwarded : fastForward objectiveId .created before =
        .ok .mermaidReview ((before.setObjectivePhase objectiveId
          .interrogating).setObjectivePhase objectiveId .mermaidReview) := by
      unfold fastForward
      rw [if_pos rfl, bind_of_ok (advanceRunner_of_allows interrogating before)]
      exact advanceRunner_of_allows reviewing _
    unfold approvedRunner
    rw [get_bind, initialPhase_created, bind_of_ok forwarded]
    rfl
  · rw [Store.work_setObjectivePhase, Store.work_setObjectivePhase]
  · rw [ObjectiveLifecycleRunner.persistedPhase_setObjectivePhase,
      ObjectiveLifecycleRunner.persistedPhase_setObjectivePhase, entered]
    rfl

theorem keeps_approvedRunner (objectiveId : String) :
    Keeps (Store.beside []) (approvedRunner objectiveId) := by
  have advances : ∀ phase target, Keeps (Store.beside [])
      (advanceRunner objectiveId phase target) := by
    intro phase target
    refine Keeps.pairs fun store => ?_
    unfold ObjectiveLifecycleRunner.advancing
    dsimp only
    cases advanceObjectivePhase phase target <;> rfl
  have approves : ∀ phase, Keeps (Store.beside []) (approveRunner objectiveId phase) := by
    intro phase
    refine Keeps.pairs fun store => ?_
    unfold ObjectiveLifecycleRunner.approveMermaid
    dsimp only
    split_ifs <;> rfl
  unfold approvedRunner fastForward
  refine Keeps.reads.bind fun store => Keeps.bind ?_ fun phase => ?_
  · refine Keeps.choice ?_ (Keeps.returns _)
    exact (advances _ _).bind fun _ => advances _ _
  · exact (approves phase).bind fun _ => Keeps.returns _

theorem replaceDiagram_spec {update : DiagramUpdate} {latest : MermaidArtifact}
    (found : origin.getObjective objective.id = some objective)
    (reads : InterrogationReads origin objective.id)
    (known : StartsNameDiagrams origin objective.id)
    (entered : origin.persistedPhase objective.id = some prior) :
    ∃ after, replaceDiagram answers objective.id update .finished latest origin =
          .ok (updatedDiagram answers origin objective.id update .finished latest) after ∧
        Accepted answers origin objective
          (updatedDiagram answers origin objective.id update .finished latest)
          (if publishes answers.generation objective origin then .executing
            else .trioPlanning) after := by
  generalize drawn : updatedDiagram answers origin objective.id update .finished latest = artifact
  have newest : NewestDiagram origin objective.id artifact := by
    subst drawn
    exact ⟨rfl, rfl, rfl, rfl⟩
  obtain ⟨changed, changing, changedWork, objectives, recorded⟩ :=
    @recordStatusChange_spec answers objective.id artifact (origin.createMermaidArtifact artifact)
  have stored : changed.persistedPhase objective.id = some prior := by
    unfold Store.persistedPhase
    rw [objectives]
    exact entered
  obtain ⟨approved, approving, approvedWork, reviewed, _, same⟩ :=
    approvedRunner_spec objective.id changed stored
  have kept : approved.beside acceptanceRecordTypes = (origin.createMermaidArtifact artifact).beside
        acceptanceRecordTypes := by
    rw [same]
    exact recorded
  have prepared := prepared_of_written found (approvedWork.trans changedWork) reviewed kept
  have planning : setStatus objective.id .planning approved =
      .ok ⟨⟩ (approved.updateObjectiveStatus objective.id .planning) := rfl
  have stillReads : InterrogationReads (approved.updateObjectiveStatus objective.id .planning)
        objective.id := by
    unfold InterrogationReads latestRecord at reads ⊢
    rw [prepared.completions]
    exact reads
  have isStored : ((approved.updateObjectiveStatus objective.id
      .planning).getObjective objective.id).isSome = true := by
    rw [prepared.found]
    rfl
  obtain ⟨_, completing⟩ :=
    @completeInterrogationReview_of_reads answers.interrogation _ _ isStored stillReads
  obtain ⟨_, queued, after, queueing, reconciling, accepted⟩ :=
    accepted_of_prepared newest known prepared (.inr rfl)
  refine ⟨after, ?_, accepted⟩
  have storing : storeDiagram artifact origin =
      .ok ⟨⟩ (origin.createMermaidArtifact artifact) := rfl
  have finishing : finishDiagram answers objective.id changed = .ok ⟨⟩ queued := by
    unfold finishDiagram
    rw [bind_of_ok approving, bind_of_ok planning, bind_of_ok completing, bind_of_ok queueing]
    rfl
  unfold replaceDiagram applyStatus
  rw [get_bind, drawn, bind_of_ok storing, bind_of_ok changing,
    bind_of_ok finishing, bind_of_ok reconciling]
  rfl

theorem interrogated_of_finishDiagram {before : Store} {result : PUnit}
    (returned : finishDiagram answers objectiveId before = .ok result after) :
    after.listContextRecords objectiveId completedType ≠ [] ∧
      (before.listContextRecords objectiveId completedType ≠ [] →
        InterrogationReads before objectiveId) := by
  unfold finishDiagram at returned
  obtain ⟨phase, _, approving, returned⟩ := ok_of_bind returned
  obtain ⟨_, planned, planning, returned⟩ := ok_of_bind returned
  obtain ⟨_, reviewed, completing, returned⟩ := ok_of_bind returned
  obtain ⟨_, _, queueing, returned⟩ := ok_of_bind returned
  cases returned
  obtain ⟨recorded, reads⟩ := recorded_of_complete completing
  have unqueued : completedType ∉ Generation.queueRecordTypes := by decide
  have queueKept := keeps_queueAtomicGeneration answers.generation
    besideQueue_beside objectiveId phase reviewed
  rw [queueing] at queueKept
  have listed := listContextRecords_of_beside unqueued queueKept objectiveId
  have unchanged : planned.listContextRecords objectiveId completedType =
      before.listContextRecords objectiveId completedType := by
    have approvalKept := keeps_approvedRunner objectiveId before
    rw [approving] at approvalKept
    cases planning
    exact listContextRecords_of_beside not_mem_nil approvalKept objectiveId
  constructor
  · rw [← listed] at recorded
    exact recorded
  · intro stored
    rw [← unchanged] at stored
    have found := reads stored
    unfold InterrogationReads latestRecord at found ⊢
    rw [← unchanged]
    exact found

variable {update : DiagramUpdate} {latest : MermaidArtifact}

theorem interrogated_of_replaceDiagram
    (returned : replaceDiagram answers objectiveId update .finished latest
      origin = .ok artifact after) :
    after.listContextRecords objectiveId completedType ≠ [] ∧
      (origin.listContextRecords objectiveId completedType ≠ [] →
        InterrogationReads origin objectiveId) := by
  unfold replaceDiagram applyStatus at returned
  rw [get_bind] at returned
  obtain ⟨_, _, storing, returned⟩ := ok_of_bind returned
  obtain ⟨_, changed, changing, returned⟩ := ok_of_bind returned
  obtain ⟨_, _, finishing, returned⟩ := ok_of_bind returned
  obtain ⟨_, _, reconciling, returned⟩ := ok_of_bind returned
  cases returned
  cases storing
  have unchanged : changed.listContextRecords objectiveId completedType =
      origin.listContextRecords objectiveId completedType := by
    have other : "mermaid_status_change" ≠ completedType := by decide
    cases changing
    exact listContextRecords_create_of_ne _ other objectiveId
  obtain ⟨recorded, reads⟩ := interrogated_of_finishDiagram finishing
  constructor
  · cases reconciling
    rw [listContextRecords_reconcile]
    exact recorded
  · intro listed
    rw [← unchanged] at listed
    have found := reads listed
    unfold InterrogationReads latestRecord at found ⊢
    rw [← unchanged]
    exact found

theorem updateMermaidArtifact_of_latest (found : origin.getObjective objective.id = some objective)
    (drawn : origin.latestMermaidArtifactOf objective.id workflowControl = some latest)
    (asked : MermaidStatus.ofText (lowerAscii (pyStrip update.status)) = some .finished) :
    updateMermaidArtifact answers objective.id update origin =
      replaceDiagram answers objective.id update .finished latest origin := by
  have seeded : latestOrSeeded answers objective origin = .ok latest origin := by
    unfold latestOrSeeded
    rw [get_bind, drawn]
    rfl
  unfold updateMermaidArtifact
  rw [get_bind, found, asked]
  exact bind_of_ok seeded

/-! ## The agreement -/

structure SameOutcome (objectiveId : String) (first second : Store) : Prop
    where
  status : first.objectiveStatus objectiveId = second.objectiveStatus objectiveId
  phase : first.persistedPhase objectiveId = second.persistedPhase objectiveId
  interrogated : first.listContextRecords objectiveId completedType ≠ [] ↔
    second.listContextRecords objectiveId completedType ≠ []
  ready : (objectiveExecutionGate first objectiveId).ready =
    (objectiveExecutionGate second objectiveId).ready

def AcceptancesAgree (answers : AcceptanceAnswers) (update : DiagramUpdate)
    (store : Store) (objectiveId proposalId : String) : Prop :=
  ∃ finished updated proposed accepted,
    updateMermaidArtifact answers objectiveId update store = .ok finished updated ∧
      acceptMermaidProposal answers objectiveId proposalId store = .ok proposed accepted ∧
        SameOutcome objectiveId updated accepted

theorem any_of_untitled {first second : Option MermaidArtifact} (check : MermaidArtifact → Bool)
    (untitled : ∀ artifact, check artifact.untitled = check artifact)
    (same : first.map MermaidArtifact.untitled = second.map MermaidArtifact.untitled) :
    first.any check = second.any check := by
  have checked : ∀ latest : Option MermaidArtifact,
      (latest.map MermaidArtifact.untitled).any check = latest.any check := by
    intro latest
    cases latest with
    | none => rfl
    | some artifact => exact untitled artifact
  rw [← checked first, ← checked second, same]

theorem ready_of_accepted {first second : Store} {other : MermaidArtifact}
    {reached otherReached : ObjectivePhase}
    (untitled : artifact.untitled = other.untitled)
    (one : Accepted answers origin objective artifact reached first)
    (two : Accepted answers origin objective other otherReached second) :
    (objectiveExecutionGate first objective.id).ready =
      (objectiveExecutionGate second objective.id).ready := by
  obtain ⟨_, oneStored⟩ := getObjective_of_persistedPhase one.reached
  obtain ⟨_, twoStored⟩ := getObjective_of_persistedPhase two.reached
  have diagrams :
      first.mermaidArtifacts.map MermaidArtifact.untitled =
        second.mermaidArtifacts.map MermaidArtifact.untitled := by
    rw [one.diagrams, two.diagrams, map_append, map_append]
    simp [untitled]
  have latest :
      (first.latestMermaidArtifact objective.id).map MermaidArtifact.untitled =
        (second.latestMermaidArtifact objective.id).map
          MermaidArtifact.untitled := by
    rw [← Store.latestMermaidArtifact_untitled, ← Store.latestMermaidArtifact_untitled, diagrams]
    rfl
  have required := any_of_untitled
    (fun artifact => artifact.requiredForExecution) (fun _ => rfl) latest
  have finished := any_of_untitled
    (fun artifact => decide (artifact.status = .finished)) (fun _ => rfl)
    latest
  have completions := one.completions.trans two.completions.symm
  unfold completedType at completions
  unfold objectiveExecutionGate implementedChecks
  dsimp only
  rw [oneStored, twoStored, one.intents, two.intents, completions, required, finished]
  simp [GateCheck.of]

end

/-- From the same diagram the two acceptances agree exactly when the diagram
is not blank, the interrogation is recorded already and the row is in the
phase that the generation reaches. -/
theorem acceptances_agree_iff (answers : AcceptanceAnswers) (update : DiagramUpdate) (store : Store)
    (objective : Objective) (latest : MermaidArtifact)
    (proposal : ContextRecord) (proposalId : String)
    (asked : MermaidStatus.ofText (lowerAscii (pyStrip update.status)) = some .finished)
    (found : store.getObjective objective.id = some objective)
    (drawn : store.latestMermaidArtifactOf objective.id workflowControl = some latest)
    (proposed : proposalRecord store objective.id proposalId = some proposal)
    (sameContent : proposal.metadata.getStr "content" = latest.content)
    (known : StartsNameDiagrams store objective.id) :
    AcceptancesAgree answers update store objective.id proposalId ↔ pyStrip latest.content ≠ "" ∧
        InterrogationReads store objective.id ∧ store.persistedPhase objective.id =
            some (if publishes answers.generation objective store then
              .executing else .trioPlanning) := by
  have content : proposedContent proposal = pyStrip latest.content := by
    unfold proposedContent
    rw [sameContent]
  obtain ⟨prior, entered⟩ := persistedPhase_of_getObjective found
  unfold AcceptancesAgree
  rw [updateMermaidArtifact_of_latest found drawn asked]
  constructor
  · rintro ⟨finished, updated, _, accepted, updates, accepts, same⟩
    have filled : proposedContent proposal ≠ "" := filled_of_accept proposed accepts
    obtain ⟨_, acceptedAgain, outcome⟩ :=
      @acceptMermaidProposal_spec answers store objective prior proposal
        proposalId found proposed filled known entered
    rw [acceptedAgain] at accepts
    cases accepts
    obtain ⟨recorded, readsIf⟩ := interrogated_of_replaceDiagram updates
    have before := same.interrogated.mp recorded
    rw [outcome.completions] at before
    have reads := readsIf before
    obtain ⟨_, updatedAgain, reached⟩ :=
      @replaceDiagram_spec answers store objective prior update latest found reads known entered
    rw [updatedAgain] at updates
    cases updates
    refine ⟨content ▸ filled, reads, ?_⟩
    rw [entered, ← outcome.reached, ← same.phase, reached.reached]
  · rintro ⟨filled, reads, reaches⟩
    rw [← content] at filled
    obtain ⟨accepted, accepts, outcome⟩ :=
      @acceptMermaidProposal_spec answers store objective prior proposal
        proposalId found proposed filled known entered
    obtain ⟨updated, updates, reached⟩ :=
      @replaceDiagram_spec answers store objective prior update latest found reads known entered
    refine ⟨_, updated, _, accepted, updates, accepts, ?_⟩
    constructor
    case status => exact reached.status.trans outcome.status.symm
    case phase => rw [reached.reached, ← reaches, entered, outcome.reached]
    case interrogated => rw [reached.completions, outcome.completions]
    case ready =>
      have untitled :
          (updatedDiagram answers store objective.id update .finished latest).untitled =
            (acceptedDiagram answers store objective.id proposal).untitled :=
        rfl
      exact ready_of_accepted untitled reached outcome

section

def reviewedObjective : Objective :=
  { id := "objective", projectId := "project", phase := .executing }

def draftedDiagram : MermaidArtifact :=
  { id := "diagram", objectiveId := "objective", diagramType := "workflow_control", version := 1
    status := .draft, content := "flowchart TD", requiredForExecution := true }

def proposalOfDraft : ContextRecord :=
  { id := "proposal", recordType := "mermaid_update_proposed", objectiveId := some "objective"
    content := "Keep the flow", metadata := [("content", .str "flowchart TD")], createdAt := 1 }

def completedInterrogation : ContextRecord :=
  { id := "interrogation", recordType := "interrogation_completed"
    objectiveId := some "objective", content := "Nothing is left open."
    metadata := [("plan_elements", .list []), ("questions", .list [])], createdAt := 1 }

def reviewedStore : Store where
  objectives := .single reviewedObjective
  intentModels := ["objective"]
  mermaidArtifacts := [draftedDiagram]
  contextRecords := [proposalOfDraft, completedInterrogation]

def unreviewedStore : Store where
  objectives := .single { reviewedObjective with phase := .created }
  intentModels := ["objective"]
  mermaidArtifacts := [draftedDiagram]
  contextRecords := [proposalOfDraft]

def onePlanAnswers : AcceptanceAnswers where
  interrogation :=
    { intent := some ⟨"Parse the input", "All inputs parse", []⟩, router := none
      stamps := ⟨fun count => "context_" ++ toString count, fun _ => 2⟩ }
  generation :=
    { trio := .ok
        { success := true, plans := [[("local_id", .str "p1"), ("label", .str "Add a parser")]]
          roundsCompleted := 1, stopReason := "accepted" }
      planIds := fun _ => "plan_1"
      planTime := 2, identities := fun _ => ⟨"task_1", "plan_2", 2, fun _ => none⟩
      generationId := "atomic_generation_1"
      stamps := ⟨fun count => "context_" ++ toString count, fun _ => 2⟩
      threadAlive := false, now := 2 }
  diagrams := ⟨fun count => "diagram_" ++ toString count, fun _ => 2⟩

def markedFinished : DiagramUpdate where
  status := "finished"

theorem reviewed_acceptances_agree :
    AcceptancesAgree onePlanAnswers markedFinished reviewedStore "objective" "proposal" := by
  have unstarted : StartsNameDiagrams reviewedStore "objective" := by
    intro start member
    cases member
  have reads : InterrogationReads reviewedStore "objective" := ⟨completedInterrogation, _, rfl, rfl⟩
  have reached : reviewedStore.persistedPhase "objective" =
      some (if publishes onePlanAnswers.generation
          { reviewedObjective with phase := .created } reviewedStore then
        .executing else .trioPlanning) := by
    decide +kernel
  exact (acceptances_agree_iff onePlanAnswers markedFinished reviewedStore
    { reviewedObjective with phase := .created } draftedDiagram
    proposalOfDraft "proposal" (by decide +kernel) rfl rfl rfl rfl
    unstarted).mpr ⟨by decide +kernel, reads, reached⟩

def outcomeAfter (objectiveId : String) :
    EStateM.Result PyError Store MermaidArtifact →
      Option (Option ObjectiveStatus × Option ObjectivePhase × Bool × Bool)
  | .ok _ store =>
    some (store.objectiveStatus objectiveId, store.persistedPhase objectiveId,
      (store.listContextRecords objectiveId completedType).isEmpty,
      (objectiveExecutionGate store objectiveId).ready)
  | .error _ _ => none

theorem outcomeAfter_of_agree {answers : AcceptanceAnswers} {update : DiagramUpdate} {store : Store}
    {objectiveId proposalId : String}
    (agree : AcceptancesAgree answers update store objectiveId proposalId) :
    outcomeAfter objectiveId (updateMermaidArtifact answers objectiveId update store) =
      outcomeAfter objectiveId (acceptMermaidProposal answers objectiveId proposalId store) := by
  obtain ⟨_, updated, _, accepted, updates, accepts, same⟩ := agree
  have interrogated :
      (updated.listContextRecords objectiveId completedType).isEmpty =
        (accepted.listContextRecords objectiveId completedType).isEmpty := by
    rw [Bool.eq_iff_iff, List.isEmpty_iff, List.isEmpty_iff, ← not_iff_not]
    exact same.interrogated
  rw [updates, accepts]
  simp only [outcomeAfter, same.status, same.phase, interrogated, same.ready]

/-- Of an objective that was not interrogated the accepted proposal leaves the
tasks behind the gate. -/
theorem unreviewed_acceptances_disagree :
    outcomeAfter "objective" (updateMermaidArtifact onePlanAnswers "objective" markedFinished
          unreviewedStore) =
      some (some .planning, some .executing, false, true) ∧
    outcomeAfter "objective" (acceptMermaidProposal onePlanAnswers "objective" "proposal"
          unreviewedStore) =
      some (some .planning, some .created, true, false) ∧
    ¬ ∀ (answers : AcceptanceAnswers) (update : DiagramUpdate)
        (store : Store) (objectiveId : String) (latest : MermaidArtifact)
        (proposal : ContextRecord),
      MermaidStatus.ofText (lowerAscii (pyStrip update.status)) = some .finished →
        store.latestMermaidArtifactOf objectiveId workflowControl = some latest →
          latestMermaidProposal store objectiveId = some proposal →
            proposal.metadata.getStr "content" = latest.content →
              AcceptancesAgree answers update store objectiveId
                proposal.id := by
  have updated : outcomeAfter "objective"
        (updateMermaidArtifact onePlanAnswers "objective" markedFinished unreviewedStore) =
      some (some .planning, some .executing, false, true) := by
    decide +kernel
  have accepted : outcomeAfter "objective"
        (acceptMermaidProposal onePlanAnswers "objective" "proposal" unreviewedStore) =
      some (some .planning, some .created, true, false) := by
    decide +kernel
  refine ⟨updated, accepted, fun claim => ?_⟩
  have agree := claim onePlanAnswers markedFinished unreviewedStore
    "objective" draftedDiagram proposalOfDraft (by decide +kernel) rfl rfl rfl
  have same := outcomeAfter_of_agree agree
  have both := updated.symm.trans (same.trans accepted)
  cases both

end

end HarnessUIDataService

end AccruviaHarness
