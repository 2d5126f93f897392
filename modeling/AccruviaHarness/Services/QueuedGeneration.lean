import AccruviaHarness.Services.GenerationOutcome

/-!
# A generation that is queued

From a diagram that no generation has been started from, queueing a generation
runs it. The starts name stored versions of the diagram, so this is every new
diagram.
-/

namespace AccruviaHarness

open Library List

def Store.beside (types : List String) (store : Store) :
    List String × List MermaidArtifact × List ContextRecord :=
  (store.intentModels, store.mermaidArtifacts,
    store.contextRecords.filter fun record => record.recordType ∉ types)

theorem listContextRecords_of_beside
    {types : List String} {recordType : String} (other : recordType ∉ types)
    {before after : Store} (same : after.beside types = before.beside types)
    (objectiveId : String) :
    after.listContextRecords objectiveId recordType =
      before.listContextRecords objectiveId recordType := by
  have listed : ∀ store : Store,
      (store.contextRecords.filter fun record =>
        record.objectiveId = some objectiveId &&
          record.recordType = recordType) =
        (store.beside types).2.2.filter fun record =>
          record.objectiveId = some objectiveId &&
            record.recordType = recordType := by
    intro store
    unfold Store.beside
    rw [filter_filter]
    apply filter_congr
    intro record _
    by_cases typed : record.recordType = recordType
    · simp [typed, other]
    · simp [typed]
  unfold Store.listContextRecords
  rw [listed, listed, same]

theorem beside_createContextRecord {types : List String} {record : ContextRecord}
    (listed : record.recordType ∈ types) (store : Store) :
    (store.createContextRecord record).beside types = store.beside types := by
  unfold Store.beside Store.createContextRecord
  rw [filter_append]
  simp [listed]

namespace HarnessUIDataService

theorem besideGeneration_beside {types : List String}
    (covers : ∀ recordType ∈ generationRecordTypes, recordType ∈ types) :
    Generation.BesideGeneration (Store.beside types) where
  records store _ listed := beside_createContextRecord (covers _ listed) store
  work _ _ _ := rfl
  objectives _ _ := rfl

def startedType : String := "atomic_generation_started"

def StartsNameDiagrams (store : Store) (objectiveId : String) : Prop :=
  ∀ start ∈ store.listContextRecords objectiveId startedType,
    ∃ version, namedVersion start = .ok version ∧
      version < store.nextMermaidVersion objectiveId workflowControl

section

variable {store : Store} {objectiveId : String}

theorem namedVersion_of_named (generation : Generation) (record : ContextRecord)
    (same : record.metadata = generation.named) :
    namedVersion record = .ok generation.diagramVersion := by
  have read : record.metadata.get "diagram_version" = .int generation.diagramVersion := by
    rw [same]
    rfl
  unfold namedVersion PyValue.orValue
  rw [read]
  by_cases zero : generation.diagramVersion = 0
  · simp [zero, PyValue.truthy, PyValue.toInt]
  · simp [zero, PyValue.truthy, PyValue.toInt]

theorem atomicGenerationState_returns
    (readable : ∀ start ∈ store.listContextRecords objectiveId startedType,
      ∃ version, namedVersion start = .ok version) :
    ∃ state, atomicGenerationState store objectiveId = .ok state := by
  obtain ⟨_, checked⟩ := exists_mapM_ok readable
  unfold startedType at checked
  have starts : ∀ version, ∃ starts, generationStarts store objectiveId version = .ok starts := by
    intro version
    unfold generationStarts
    cases version with
    | none => exact ⟨_, rfl⟩
    | some _ =>
      dsimp only
      rw [checked, ok_bind]
      exact ⟨_, rfl⟩
  unfold atomicGenerationState
  dsimp only
  obtain ⟨listed, found⟩ := starts
    ((store.latestMermaidArtifactOf objectiveId workflowControl).map MermaidArtifact.version)
  rw [found, ok_bind]
  cases listed.getLast? <;> exact ⟨_, rfl⟩

theorem atomicGenerationState_of_unnamed {latest : MermaidArtifact}
    (drawn : store.latestMermaidArtifactOf objectiveId workflowControl = some latest)
    (unnamed : ∀ start ∈ store.listContextRecords objectiveId startedType,
      ∃ version, namedVersion start = .ok version ∧ version ≠ latest.version) :
    atomicGenerationState store objectiveId =
      .ok { status := .idle, diagramVersion := some latest.version } := by
  have readable : ∀ start ∈ store.listContextRecords objectiveId startedType,
      ∃ version, namedVersion start = .ok version := by
    intro start member
    obtain ⟨version, named, _⟩ := unnamed start member
    exact ⟨version, named⟩
  obtain ⟨versions, checked⟩ := exists_mapM_ok readable
  have pairs := forall₂_iff_zip.mp (forall₂_of_mapM_ok checked)
  have none_named : ((store.listContextRecords objectiveId startedType).zip
      versions).filter (fun entry => decide (entry.2 = latest.version)) = [] := by
    rw [filter_eq_nil_iff]
    intro entry member same
    obtain ⟨_, named, different⟩ := unnamed entry.1 (of_mem_zip member).1
    have zipped : namedVersion entry.1 = .ok entry.2 := pairs.2 member
    rw [zipped] at named
    cases named
    exact different (of_decide_eq_true same)
  unfold startedType at checked none_named
  unfold atomicGenerationState generationStarts
  rw [drawn]
  dsimp only [Option.map_some]
  rw [checked, ok_bind, none_named]
  rfl

end

namespace Generation

variable (generation : Generation) (answers : GenerationAnswers)

def queueRecordTypes : List String := startedType :: generationRecordTypes

section

variable {origin before : Store} {phase prior : ObjectivePhase}

theorem mem_listContextRecords_create
    {store : Store} {record : ContextRecord} {objectiveId recordType : String}
    {listed : ContextRecord}
    (member : listed ∈ (store.createContextRecord record).listContextRecords
      objectiveId recordType) :
    listed ∈ store.listContextRecords objectiveId recordType ∨
      (listed = record ∧ record.objectiveId = some objectiveId ∧
        record.recordType = recordType) := by
  unfold Store.listContextRecords Store.createContextRecord at member
  rw [mem_orderBy, mem_filter] at member
  obtain ⟨stored, wanted⟩ := member
  rw [Bool.and_eq_true] at wanted
  rcases mem_append.mp stored with old | new
  · apply Or.inl
    unfold Store.listContextRecords
    rw [mem_orderBy, mem_filter, Bool.and_eq_true]
    exact ⟨old, wanted⟩
  · obtain rfl := mem_singleton.mp new
    exact .inr ⟨rfl, of_decide_eq_true wanted.1, of_decide_eq_true wanted.2⟩

theorem announce_spec (before : Store) :
    ∃ announced, generation.announce answers before = .ok ⟨⟩ announced ∧
      announced.work = before.work ∧
        announced.objectives = before.objectives ∧
          announced.beside queueRecordTypes = before.beside queueRecordTypes ∧
            ∀ objectiveId, ∀ start ∈ announced.listContextRecords objectiveId startedType,
                start ∈ before.listContextRecords objectiveId startedType ∨
                  (objectiveId = generation.objective.id ∧
                    namedVersion start = .ok generation.diagramVersion) := by
  have startListed : startedType ∈ queueRecordTypes := by decide
  have receiptListed : "action_receipt" ∈ queueRecordTypes := by decide
  have different : "action_receipt" ≠ startedType := by decide
  refine ⟨_, rfl, rfl, rfl, ?kept, ?named⟩
  case kept =>
    refine (beside_createContextRecord ?_ _).trans (beside_createContextRecord ?_ _)
    · exact receiptListed
    · exact startListed
  case named =>
    intro objectiveId start member
    rcases mem_listContextRecords_create member with listed | ⟨_, _, typed⟩
    · rcases mem_listContextRecords_create listed with old | ⟨rfl, owned, _⟩
      · exact .inl old
      · refine .inr ⟨?_, namedVersion_of_named generation _ rfl⟩
        exact (Option.some.inj owned).symm
    · exact absurd typed different

theorem start_spec (same : before.work = origin.work)
    (entered : before.persistedPhase generation.objective.id = some prior)
    (starts : phase = .created ∨ phase = .mermaidReview)
    (readable : ∀ start ∈ before.listContextRecords generation.objective.id
      startedType, ∃ version, namedVersion start = .ok version) :
    ∃ state after, generation.start answers phase before = .ok state after ∧
      generation.Settled answers origin phase prior after ∧
        after.beside queueRecordTypes = before.beside queueRecordTypes := by
  obtain ⟨announced, announcing, work, objectives, recorded, names⟩ :=
    generation.announce_spec answers before
  have named : ∀ start ∈ announced.listContextRecords generation.objective.id
      startedType, ∃ version, namedVersion start = .ok version := by
    intro start member
    rcases names generation.objective.id start member with old | ⟨_, new⟩
    · exact readable start old
    · exact ⟨generation.diagramVersion, new⟩
  have stored : announced.persistedPhase generation.objective.id = some prior := by
    unfold Store.persistedPhase
    rw [objectives]
    exact entered
  obtain ⟨after, ran, settled⟩ := generation.run_spec answers (work.trans same) stored starts
  have unseen := generation.keeps_run answers
    (besideGeneration_beside fun _ listed => listed) phase announced
  rw [ran] at unseen
  dsimp only [stateOf] at unseen
  have starting : startedType ∉ generationRecordTypes := by decide
  have listed := listContextRecords_of_beside starting unseen generation.objective.id
  rw [← listed] at named
  obtain ⟨state, found⟩ := atomicGenerationState_returns named
  have kept := generation.keeps_run answers
    (besideGeneration_beside fun _ listed =>
      mem_cons_of_mem startedType listed) phase announced
  rw [ran] at kept
  refine ⟨state, after, ?_, settled, kept.trans recorded⟩
  have value : (valueOf (atomicGenerationState after generation.objective.id) :
      EStateM PyError Store GenerationState) after = .ok state after := by
    rw [found]
    rfl
  unfold start
  rw [bind_of_ok announcing, bind_of_ok ran]
  exact value

end

end Generation

theorem queueAtomicGeneration_spec {answers : GenerationAnswers} {origin before : Store}
    {objective : Objective} {latest : MermaidArtifact}
    {phase prior : ObjectivePhase}
    (found : before.getObjective objective.id = some objective)
    (drawn : before.latestMermaidArtifactOf objective.id workflowControl = some latest)
    (finished : latest.status = .finished)
    (unnamed : ∀ start ∈ before.listContextRecords objective.id startedType,
      ∃ version, namedVersion start = .ok version ∧ version ≠ latest.version)
    (same : before.work = origin.work)
    (entered : before.persistedPhase objective.id = some prior)
    (starts : phase = .created ∨ phase = .mermaidReview) :
    ∃ state after, queueAtomicGeneration answers objective.id phase before = .ok state after ∧
        Generation.Settled ⟨objective, answers.generationId, latest.version⟩
          answers origin phase prior after ∧
          after.beside Generation.queueRecordTypes = before.beside Generation.queueRecordTypes := by
  have idle := atomicGenerationState_of_unnamed drawn unnamed
  have readable : ∀ start ∈ before.listContextRecords objective.id
      startedType, ∃ version, namedVersion start = .ok version := by
    intro start member
    obtain ⟨version, named, _⟩ := unnamed start member
    exact ⟨version, named⟩
  obtain ⟨state, after, started, settled, kept⟩ :=
    @Generation.start_spec ⟨objective, answers.generationId, latest.version⟩
      answers origin before phase prior same entered starts readable
  refine ⟨state, after, ?_, settled, kept⟩
  have current : currentGeneration answers objective.id before =
      .ok { status := .idle, diagramVersion := some latest.version }
        before := by
    unfold currentGeneration
    rw [get_bind, idle]
    rfl
  have stored : ((some latest).filter fun mermaid =>
      decide (mermaid.status = .finished)) = some latest := by
    simp [finished]
  unfold queueAtomicGeneration
  rw [get_bind, found]
  rw [drawn, stored]
  dsimp only
  rw [bind_of_ok current]
  exact started

/-! ## What a queued generation leaves alone -/

section

variable {View : Type} {part : Store → View} (answers : GenerationAnswers)

structure BesideQueue (part : Store → View) : Prop extends
    Generation.BesideGeneration part where
  starts : ∀ store record, record.recordType = startedType →
    part (store.createContextRecord record) = part store

theorem besideQueue_beside :
    BesideQueue (Store.beside Generation.queueRecordTypes) where
  toBesideGeneration := besideGeneration_beside fun _ listed =>
    mem_cons_of_mem startedType listed
  starts store record typed := by
    apply beside_createContextRecord
    rw [typed]
    exact mem_cons_self

theorem keeps_currentGeneration (unseen : Unpublished part) (objectiveId : String) :
    Keeps part (currentGeneration answers objectiveId) := by
  have failed : "atomic_generation_failed" ∈ generationRecordTypes := by decide
  have receipt : "action_receipt" ∈ generationRecordTypes := by decide
  have marked : ∀ current, Keeps part
      (markAtomicGenerationInterrupted answers objectiveId current) := by
    intro current
    unfold markAtomicGenerationInterrupted
    refine Keeps.choice (Keeps.returns _) ?_
    refine Keeps.bind (keeps_writeRecord ?_ _ _ _ _) fun _ => keeps_writeRecord ?_ _ _ _ _
    · intro store record typed
      exact unseen.records store record (typed ▸ failed)
    · intro store record typed
      exact unseen.records store record (typed ▸ receipt)
  unfold currentGeneration
  refine Keeps.reads.bind fun store => (Keeps.value _).bind fun current => ?_
  refine Keeps.choice ?_ (Keeps.returns _)
  exact (marked current).bind fun _ => Keeps.reads.bind fun _ => Keeps.value _

theorem keeps_start (unseen : BesideQueue part) (generation : Generation) (phase : ObjectivePhase) :
    Keeps part (generation.start answers phase) := by
  have written := unseen.toBesideGeneration.toUnpublished
  have announced : Keeps part (generation.announce answers) :=
    Keeps.bind (keeps_writeRecord unseen.starts _ _ _ _) fun _ =>
      generation.keeps_receipt answers written _ _ _
  refine announced.bind fun _ => ?_
  refine Keeps.bind (generation.keeps_run answers unseen.toBesideGeneration phase) fun _ => ?_
  exact Keeps.reads.bind fun _ => Keeps.value _

theorem keeps_queueAtomicGeneration (unseen : BesideQueue part) (objectiveId : String)
    (phase : ObjectivePhase) :
    Keeps part (queueAtomicGeneration answers objectiveId phase) := by
  unfold queueAtomicGeneration
  refine Keeps.reads.bind fun store => ?_
  split
  · exact Keeps.raises _
  next objective _ =>
    split
    · exact Keeps.raises _
    next latest _ =>
      have written := unseen.toBesideGeneration.toUnpublished
      refine Keeps.bind (keeps_currentGeneration answers written objectiveId) fun current => ?_
      exact Keeps.choice (Keeps.returns _) (keeps_start answers unseen _ phase)

end

/-! ## The starts of a run -/

section

variable {before after : Store} {objectiveId : String}

theorem startsNameDiagrams_of_beside
    (same : after.beside generationRecordTypes = before.beside generationRecordTypes)
    (known : StartsNameDiagrams before objectiveId) :
    StartsNameDiagrams after objectiveId := by
  have starting : startedType ∉ generationRecordTypes := by decide
  have diagrams : after.mermaidArtifacts = before.mermaidArtifacts :=
    congrArg (fun view => view.2.1) same
  unfold StartsNameDiagrams
  rw [listContextRecords_of_beside starting same]
  unfold Store.nextMermaidVersion Store.mermaidRows
  rw [diagrams]
  exact known

theorem startsNameDiagrams_createMermaidArtifact {artifact : MermaidArtifact}
    (fresh : artifact.version = before.nextMermaidVersion artifact.objectiveId artifact.diagramType)
    (known : StartsNameDiagrams before objectiveId) :
    StartsNameDiagrams (before.createMermaidArtifact artifact)
      objectiveId := by
  intro start member
  obtain ⟨version, named, stored⟩ := known start member
  exact ⟨version, named, stored.trans_le (Store.nextMermaidVersion_le_create fresh)⟩

variable (answers : GenerationAnswers)

theorem startsNameDiagrams_start (generation : Generation) (phase : ObjectivePhase)
    (stored : generation.diagramVersion <
      before.nextMermaidVersion generation.objective.id workflowControl)
    (known : StartsNameDiagrams before objectiveId) :
    StartsNameDiagrams (stateOf (generation.start answers phase before))
      objectiveId := by
  have unseen : Generation.BesideGeneration (Store.beside generationRecordTypes) :=
    besideGeneration_beside fun _ listed => listed
  obtain ⟨announced, announcing, _, _, kept, names⟩ := generation.announce_spec answers before
  have diagrams : announced.mermaidArtifacts = before.mermaidArtifacts :=
    congrArg (fun view => view.2.1) kept
  have announcedKnown : StartsNameDiagrams announced objectiveId := by
    intro start member
    have versions : announced.nextMermaidVersion objectiveId workflowControl =
        before.nextMermaidVersion objectiveId workflowControl := by
      unfold Store.nextMermaidVersion Store.mermaidRows
      rw [diagrams]
    rw [versions]
    rcases names objectiveId start member with old | ⟨rfl, named⟩
    · exact known start old
    · exact ⟨generation.diagramVersion, named, stored⟩
  have runs : Keeps (Store.beside generationRecordTypes) (do
      generation.run answers phase
      let store ← get
      valueOf (atomicGenerationState store generation.objective.id)) :=
    (generation.keeps_run answers unseen phase).bind fun _ =>
      Keeps.reads.bind fun _ => Keeps.value _
  unfold Generation.start
  rw [bind_of_ok announcing]
  exact startsNameDiagrams_of_beside (runs announced) announcedKnown

/-- Queueing a generation, whether it returns or raises, starts it from a
stored version at most. -/
theorem startsNameDiagrams_queueAtomicGeneration (queued : String) (phase : ObjectivePhase)
    (known : StartsNameDiagrams before objectiveId) :
    StartsNameDiagrams (stateOf (queueAtomicGeneration answers queued phase before))
        objectiveId := by
  have unseen : Generation.BesideGeneration (Store.beside generationRecordTypes) :=
    besideGeneration_beside fun _ listed => listed
  unfold queueAtomicGeneration
  rw [get_bind]
  cases found : before.getObjective queued with
  | none => exact known
  | some objective =>
    generalize drawn : (before.latestMermaidArtifactOf queued
      workflowControl).filter (fun mermaid => decide (mermaid.status = .finished)) = chosen
    cases chosen with
    | none => exact known
    | some latest =>
      have kept := keeps_currentGeneration answers unseen.toUnpublished queued before
      dsimp only
      cases current : currentGeneration answers queued before with
      | error _ _ =>
        rw [current] at kept
        rw [bind_of_error current]
        exact startsNameDiagrams_of_beside kept known
      | ok _ middle =>
        rw [current] at kept
        rw [bind_of_ok current]
        have middleKnown := startsNameDiagrams_of_beside kept known
        have listed : latest ∈ before.mermaidRows queued workflowControl := by
          obtain ⟨last, _⟩ := Option.filter_eq_some_iff.mp drawn
          have ordered := mem_of_getLast? last
          rwa [mem_orderBy] at ordered
        have diagrams :
            middle.mermaidArtifacts = before.mermaidArtifacts :=
          congrArg (fun view => view.2.1) kept
        have stored : latest.version < middle.nextMermaidVersion queued workflowControl := by
          unfold Store.nextMermaidVersion Store.mermaidRows
          rw [diagrams]
          exact Store.version_lt_next listed
        have own : objective.id = queued := by
          obtain ⟨_, listed, rfl⟩ := Option.map_eq_some_iff.mp found
          exact (before.objectives.lookup_eq_some_iff.mp listed).2
        split_ifs
        · exact middleKnown
        · subst own
          exact startsNameDiagrams_start answers _ phase stored middleKnown

end

inductive GenerationEvent where
  | queue (answers : GenerationAnswers) (objectiveId : String) (phase : ObjectivePhase)
  /-- A diagram is stored under the next version. -/
  | draw (artifact : MermaidArtifact)

def afterGenerationEvent (store : Store) : GenerationEvent → Store
  | .queue answers objectiveId phase =>
    stateOf (queueAtomicGeneration answers objectiveId phase store)
  | .draw artifact =>
    let version := store.nextMermaidVersion artifact.objectiveId artifact.diagramType
    store.createMermaidArtifact { artifact with version }

/-- In every order of generations and diagrams, also of generations that raise,
each start record names a version below the next one of its objective. -/
theorem generations_start_from_diagrams (store : Store) (events : List GenerationEvent)
    (objectiveId : String) :
    StartsNameDiagrams (events.foldl afterGenerationEvent { store with contextRecords := [] })
      objectiveId := by
  induction events using reverseRecOn with
  | nil =>
    intro start member
    simp [Store.listContextRecords, orderBy] at member
  | append_singleton earlier event ih =>
    rw [foldl_append, foldl_cons, foldl_nil]
    cases event with
    | queue answers queued phase =>
      exact startsNameDiagrams_queueAtomicGeneration answers queued phase ih
    | draw artifact => exact startsNameDiagrams_createMermaidArtifact rfl ih

end HarnessUIDataService

end AccruviaHarness
