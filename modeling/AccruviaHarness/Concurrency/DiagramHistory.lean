import AccruviaHarness.Library.Runs
import AccruviaHarness.Services.AcceptanceAgreement

/-!
# The history of a diagram

Calls of `update_mermaid_artifact` and `accept_mermaid_proposal` for one
objective, one store call at a time.
-/

namespace AccruviaHarness

open Library HarnessUIDataService List

/-- The versions of the rows are exactly `1`, …, `n`, in storage order. -/
def NumberedFromOne (rows : List MermaidArtifact) : Prop :=
  rows.map MermaidArtifact.version =
    (List.range rows.length).map fun index : Nat => (index : Int) + 1

namespace NumberedFromOne

variable {rows : List MermaidArtifact} {artifact : MermaidArtifact}

theorem version_mem_iff (numbered : NumberedFromOne rows) (version : Int) :
    (∃ row ∈ rows, row.version = version) ↔ 1 ≤ version ∧ version ≤ rows.length := by
  rw [← mem_map, numbered, mem_map]
  constructor
  · rintro ⟨_, member, rfl⟩
    have bound := mem_range.mp member
    omega
  · rintro ⟨_, _⟩
    exact ⟨(version - 1).toNat, mem_range.mpr (by omega), by omega⟩

theorem append (numbered : NumberedFromOne rows) (next : artifact.version = rows.length + 1) :
    NumberedFromOne (rows ++ [artifact]) := by
  unfold NumberedFromOne at numbered ⊢
  rw [map_append, numbered, length_append, length_singleton,
    range_succ, map_append, map_singleton, map_singleton, next]

theorem of_append (numbered : NumberedFromOne (rows ++ [artifact])) :
    NumberedFromOne rows ∧ artifact.version = rows.length + 1 := by
  unfold NumberedFromOne at numbered ⊢
  rw [map_append, length_append, length_singleton, range_succ, map_append] at numbered
  obtain ⟨front, last⟩ := append_inj' numbered rfl
  exact ⟨front, by simpa using last⟩

end NumberedFromOne

namespace Store

variable {store : Store} {objectiveId diagramType : String}

theorem nextMermaidVersion_of_numbered
    (numbered : NumberedFromOne (store.mermaidRows objectiveId diagramType)) :
    store.nextMermaidVersion objectiveId diagramType =
      (store.mermaidRows objectiveId diagramType).length + 1 := by
  have versions := numbered
  unfold NumberedFromOne at versions
  unfold nextMermaidVersion
  dsimp only
  cases highest : ((store.mermaidRows objectiveId diagramType).map
      MermaidArtifact.version).max? with
  | none =>
    have empty := map_eq_nil_iff.mp (max?_eq_none_iff.mp highest)
    rw [empty]
    rfl
  | some version =>
    obtain ⟨listed, bounds⟩ := max?_eq_some_iff.mp highest
    have range := (numbered.version_mem_iff version).mp (mem_map.mp listed)
    have top := (numbered.version_mem_iff
      (store.mermaidRows objectiveId diagramType).length).mpr (by omega)
    have upper := bounds _ (mem_map.mpr top)
    rw [Option.getD_some]
    omega

theorem latestMermaidArtifactOf_numbered {latest : MermaidArtifact}
    (numbered : NumberedFromOne (store.mermaidRows objectiveId diagramType))
    (found : store.latestMermaidArtifactOf objectiveId diagramType = some latest) :
    latest ∈ store.mermaidRows objectiveId diagramType ∧
      latest.version + 1 = store.nextMermaidVersion objectiveId diagramType := by
  rw [nextMermaidVersion_of_numbered numbered]
  unfold latestMermaidArtifactOf at found
  rcases eq_nil_or_concat (store.mermaidRows objectiveId diagramType) with
    empty | ⟨_, _, split⟩
  · rw [empty] at found
    cases found
  · rw [concat_eq_append] at split
    rw [split] at numbered found ⊢
    obtain ⟨early, ends⟩ := numbered.of_append
    rw [getLast?_mermaidOrder_append] at found
    · cases found
      refine ⟨mem_append_right _ (mem_singleton_self _), ?_⟩
      rw [ends, length_append, length_singleton]
      omega
    · intro row member
      have range := (early.version_mem_iff row.version).mp ⟨row, member, rfl⟩
      omega

/-- The insert of `create_mermaid_artifact`; the unique index on the
objective, the type and the version makes it raise. -/
def insertMermaidArtifact (store : Store) (artifact : MermaidArtifact) : Option Store :=
  if ∃ row ∈ store.mermaidRows artifact.objectiveId artifact.diagramType,
      row.version = artifact.version then none
  else some (store.createMermaidArtifact artifact)

end Store

inductive DiagramStage where
  | readLatest (update : DiagramUpdate) (status : MermaidStatus)
  | readSeedVersion (update : DiagramUpdate) (status : MermaidStatus)
  | readPlans (update : DiagramUpdate) (status : MermaidStatus) (version : Int)
  | insertSeed (update : DiagramUpdate) (status : MermaidStatus) (seed : MermaidArtifact)
  | readVersion (update : DiagramUpdate) (status : MermaidStatus) (latest : MermaidArtifact)
  | insertUpdated (artifact : MermaidArtifact)
  | readAcceptedVersion (proposal : ContextRecord)
  | insertAccepted (artifact : MermaidArtifact)

def DiagramStage.held : DiagramStage → Option MermaidArtifact
  | .readVersion _ _ latest => some latest
  | _ => none

inductive DiagramEvent where
  /-- A call of `update_mermaid_artifact` begins. -/
  | update (caller : Nat) (update : DiagramUpdate)
  /-- A call of `accept_mermaid_proposal` begins. -/
  | accept (caller : Nat) (proposalId : String)
  /-- The next store call of a caller. -/
  | call (caller : Nat)
  /-- Any write to the other tables, such as the rest of these calls. -/
  | otherTables (tables : Store)

/-- The store and the calls under way, with the diagrams that
`update_mermaid_artifact` has stored so far. -/
structure DiagramWorld where
  store : Store
  stages : Nat → Option DiagramStage
  updated : List MermaidArtifact

namespace DiagramWorld

def initial (store : Store) : DiagramWorld where
  store
  stages := fun _ => none
  updated := []

def moveTo (world : DiagramWorld) (caller : Nat) (stage : Option DiagramStage) :
    DiagramWorld :=
  { world with stages := Function.update world.stages caller stage }

variable (answers : AcceptanceAnswers) (objective : Objective)

def seedDiagram (store : Store) (version : Int) (content : String) : MermaidArtifact :=
  { newDiagram answers store objective.id .draft "Initial workflow draft" content
      "Workflow review has not been completed yet." "system" with version }

variable (world : DiagramWorld)

def perform (caller : Nat) : DiagramStage → DiagramWorld
  | .readLatest update status =>
    match world.store.latestMermaidArtifactOf objective.id workflowControl with
    | some latest => world.moveTo caller (some (.readVersion update status latest))
    | none => world.moveTo caller (some (.readSeedVersion update status))
  | .readSeedVersion update status =>
    world.moveTo caller (some (.readPlans update status
      (world.store.nextMermaidVersion objective.id workflowControl)))
  | .readPlans update status version =>
    match Mermaid.renderMermaidFromPlans (world.store.listPlansForObjective objective.id)
        objective with
    | .error _ => world.moveTo caller none
    | .ok diagram => world.moveTo caller (some (.insertSeed update status
        (seedDiagram answers objective world.store version diagram.text)))
  | .insertSeed update status seed =>
    match world.store.insertMermaidArtifact seed with
    | none => world.moveTo caller none
    | some store => { world with store }.moveTo caller (some (.readVersion update status seed))
  | .readVersion update status latest =>
    world.moveTo caller (some (.insertUpdated
      (updatedDiagram answers world.store objective.id update status latest)))
  | .insertUpdated artifact =>
    match world.store.insertMermaidArtifact artifact with
    | none => world.moveTo caller none
    | some store => { world with store, updated := artifact :: world.updated }.moveTo caller none
  | .readAcceptedVersion proposal =>
    world.moveTo caller (some (.insertAccepted
      (acceptedDiagram answers world.store objective.id proposal)))
  | .insertAccepted artifact =>
    match world.store.insertMermaidArtifact artifact with
    | none => world.moveTo caller none
    | some store => { world with store }.moveTo caller none

def beginUpdate (store : Store) (update : DiagramUpdate) : Option DiagramStage :=
  if (store.getObjective objective.id).isSome then
    (MermaidStatus.ofText (lowerAscii (pyStrip update.status))).map (DiagramStage.readLatest update)
  else none

def beginAccept (store : Store) (proposalId : String) : Option DiagramStage :=
  if (store.getObjective objective.id).isSome then
    ((proposalRecord store objective.id proposalId).filter fun proposal =>
      proposedContent proposal ≠ "").map .readAcceptedVersion
  else none

def step (world : DiagramWorld) : DiagramEvent → Option DiagramWorld
  | .update caller update =>
    if (world.stages caller).isNone then
      some (world.moveTo caller (beginUpdate objective world.store update))
    else none
  | .accept caller proposalId =>
    if (world.stages caller).isNone then
      some (world.moveTo caller (beginAccept objective world.store proposalId))
    else none
  | .call caller => (world.stages caller).map (world.perform answers objective caller)
  | .otherTables tables =>
    some { world with
      store := { tables with mermaidArtifacts := world.store.mermaidArtifacts } }

def rows : List MermaidArtifact := world.store.mermaidRows objective.id workflowControl

def Follows (rows : List MermaidArtifact) (artifact : MermaidArtifact) : Prop :=
  ∃ earlier ∈ rows, earlier.version + 1 = artifact.version ∧
    earlier.content = artifact.content

def KeepsContent : Prop := ∀ artifact ∈ world.updated, Follows (world.rows objective) artifact

def LatestUnchanged (world : DiagramWorld) : DiagramEvent → Prop
  | .call caller => ∀ held ∈ (world.stages caller).bind DiagramStage.held,
      (world.store.latestMermaidArtifactOf objective.id workflowControl).map
        MermaidArtifact.content = some held.content
  | _ => True

instance decidableLatestUnchanged (world : DiagramWorld) :
    DecidablePred (world.LatestUnchanged objective)
  | .call caller =>
    inferInstanceAs (Decidable (∀ held ∈ (world.stages caller).bind DiagramStage.held, _))
  | .update _ _ | .accept _ _ | .otherTables _ => isTrue trivial

instance decidableKeepsContent (world : DiagramWorld) : Decidable (world.KeepsContent objective) :=
  inferInstanceAs (Decidable (∀ artifact ∈ world.updated, ∃ earlier ∈ world.rows objective, _))

/-! ## The invariants -/

structure Drafted (rows : List MermaidArtifact) (artifact : MermaidArtifact) : Prop where
  owned : artifact.objectiveId = objective.id
  typed : artifact.diagramType = workflowControl
  positive : 1 ≤ artifact.version
  bounded : artifact.version ≤ rows.length + 1

def StageSound (rows : List MermaidArtifact) : DiagramStage → Prop
  | .readPlans _ _ version => 1 ≤ version ∧ version ≤ rows.length + 1
  | .insertSeed _ _ artifact | .insertUpdated artifact | .insertAccepted artifact =>
    Drafted objective rows artifact
  | _ => True

structure Sound (world : DiagramWorld) : Prop where
  numbered : NumberedFromOne (world.rows objective)
  stages : ∀ caller stage, world.stages caller = some stage →
    StageSound objective (world.rows objective) stage

structure Kept (world : DiagramWorld) : Prop where
  content : world.KeepsContent objective
  pending : ∀ caller artifact, world.stages caller = some (.insertUpdated artifact) →
    Follows (world.rows objective) artifact

variable {answers objective} {rows : List MermaidArtifact} {world next : DiagramWorld}
  {caller : Nat} {stage : DiagramStage} {artifact : MermaidArtifact}

theorem StageSound.append (sound : StageSound objective rows stage) :
    StageSound objective (rows ++ [artifact]) stage := by
  have longer : ((rows ++ [artifact]).length : Int) = rows.length + 1 := by simp
  unfold StageSound at sound ⊢
  cases stage with
  | readPlans _ _ _ => exact ⟨sound.1, by omega⟩
  | insertSeed _ _ drafted | insertUpdated drafted | insertAccepted drafted =>
    exact ⟨sound.owned, sound.typed, sound.positive, by have := sound.bounded; omega⟩
  | readLatest _ _ | readSeedVersion _ _ | readVersion _ _ _ | readAcceptedVersion _ => trivial

theorem Follows.append (follows : Follows rows artifact) (added : MermaidArtifact) :
    Follows (rows ++ [added]) artifact := by
  obtain ⟨earlier, member, behind⟩ := follows
  exact ⟨earlier, mem_append_left _ member, behind⟩

theorem stages_moveTo (world : DiagramWorld) (caller other : Nat) (moved : Option DiagramStage) :
    (world.moveTo caller moved).stages other =
      if other = caller then moved else world.stages other :=
  Function.update_apply world.stages caller moved other

variable {moved : Option DiagramStage} {store : Store}
  {updated : List MermaidArtifact} {event : DiagramEvent}

theorem Sound.moveTo (sound : world.Sound objective)
    (fits : ∀ stage ∈ moved, StageSound objective (world.rows objective) stage) :
    (world.moveTo caller moved).Sound objective := by
  refine ⟨sound.numbered, ?_⟩
  intro other stage found
  rw [stages_moveTo] at found
  split at found
  · exact fits stage found
  · exact sound.stages other stage found

theorem Kept.moveTo (kept : world.Kept objective)
    (fits : ∀ artifact, moved = some (.insertUpdated artifact) →
      Follows (world.rows objective) artifact) :
    (world.moveTo caller moved).Kept objective := by
  refine ⟨kept.content, ?_⟩
  intro other artifact found
  rw [stages_moveTo] at found
  split at found
  · exact fits artifact found
  · exact kept.pending other artifact found

theorem rows_insert (numbered : NumberedFromOne (world.rows objective))
    (drafted : Drafted objective (world.rows objective) artifact)
    (inserted : world.store.insertMermaidArtifact artifact = some store) :
    artifact.version = (world.rows objective).length + 1 ∧
      store.mermaidRows objective.id workflowControl = world.rows objective ++ [artifact] := by
  unfold Store.insertMermaidArtifact at inserted
  rw [drafted.owned, drafted.typed] at inserted
  split at inserted
  case isTrue => cases inserted
  case isFalse fresh =>
    cases inserted
    have beyond := mt (numbered.version_mem_iff artifact.version).mpr fresh
    have positive := drafted.positive
    have bounded := drafted.bounded
    refine ⟨by omega, ?_⟩
    rw [Store.mermaidRows_create, if_pos ⟨drafted.owned, drafted.typed⟩]
    rfl

theorem Sound.insert (sound : world.Sound objective)
    (drafted : Drafted objective (world.rows objective) artifact)
    (inserted : world.store.insertMermaidArtifact artifact = some store) :
    (DiagramWorld.mk store world.stages updated).Sound objective := by
  obtain ⟨version, added⟩ := rows_insert sound.numbered drafted inserted
  have rows : (DiagramWorld.mk store world.stages updated).rows objective =
      world.rows objective ++ [artifact] := added
  constructor
  case numbered =>
    rw [rows]
    exact sound.numbered.append version
  case stages =>
    intro other stage found
    rw [rows]
    exact (sound.stages other stage found).append

theorem Kept.insert (sound : world.Sound objective) (kept : world.Kept objective)
    (drafted : Drafted objective (world.rows objective) artifact)
    (inserted : world.store.insertMermaidArtifact artifact = some store)
    (written : ∀ other ∈ updated, other ∈ world.updated ∨ Follows (world.rows objective) other) :
    (DiagramWorld.mk store world.stages updated).Kept objective := by
  obtain ⟨_, added⟩ := rows_insert sound.numbered drafted inserted
  have rows : (DiagramWorld.mk store world.stages updated).rows objective =
      world.rows objective ++ [artifact] := added
  constructor
  case content =>
    intro other member
    rw [rows]
    rcases written other member with earlier | follows
    · exact (kept.content other earlier).append artifact
    · exact follows.append artifact
  case pending =>
    intro other drafted found
    rw [rows]
    exact (kept.pending other drafted found).append artifact

theorem drafted_newDiagram {status : MermaidStatus}
    {summary content reason author : String} (sound : world.Sound objective) :
    Drafted objective (world.rows objective)
      (newDiagram answers world.store objective.id status summary content reason author) := by
  have next := Store.nextMermaidVersion_of_numbered sound.numbered
  refine ⟨rfl, rfl, ?_, ?_⟩
  · show 1 ≤ world.store.nextMermaidVersion objective.id workflowControl
    omega
  · show world.store.nextMermaidVersion objective.id workflowControl ≤ _
    exact next.le

theorem perform_sound (sound : world.Sound objective) (found : world.stages caller = some stage) :
    (world.perform answers objective caller stage).Sound objective := by
  have fits := sound.stages caller stage found
  have finished : ∀ stage ∈ (none : Option DiagramStage),
      StageSound objective (world.rows objective) stage := by
    intro stage member
    cases member
  unfold perform
  cases stage with
  | readLatest _ _ =>
    dsimp only
    split <;> exact sound.moveTo fun _ moved => by cases moved; trivial
  | readSeedVersion _ _ =>
    have next := Store.nextMermaidVersion_of_numbered sound.numbered
    refine sound.moveTo fun _ moved => ?_
    cases moved
    exact ⟨by omega, next.le⟩
  | readPlans _ _ _ =>
    dsimp only
    split
    · exact sound.moveTo finished
    · refine sound.moveTo fun _ moved => ?_
      cases moved
      exact ⟨rfl, rfl, fits.1, fits.2⟩
  | readVersion _ _ _ =>
    refine sound.moveTo fun _ moved => ?_
    cases moved
    exact drafted_newDiagram sound
  | readAcceptedVersion _ =>
    refine sound.moveTo fun _ moved => ?_
    cases moved
    exact drafted_newDiagram sound
  | insertSeed _ _ _ =>
    dsimp only
    split
    · exact sound.moveTo finished
    next inserted =>
      exact (sound.insert fits inserted).moveTo fun _ moved => by cases moved; trivial
  | insertUpdated artifact | insertAccepted artifact =>
    dsimp only
    split
    · exact sound.moveTo finished
    next inserted => exact (sound.insert fits inserted).moveTo fun _ moved => by cases moved

theorem perform_kept (sound : world.Sound objective) (kept : world.Kept objective)
    (found : world.stages caller = some stage)
    (unchanged : world.LatestUnchanged objective (.call caller)) :
    (world.perform answers objective caller stage).Kept objective := by
  have fits := sound.stages caller stage found
  have older : ∀ other ∈ world.updated, other ∈ world.updated ∨
      Follows (world.rows objective) other := fun _ member => .inl member
  unfold perform
  cases stage with
  | readLatest update status | readPlans update status version =>
    dsimp only
    split <;> exact kept.moveTo fun _ moved => by cases moved
  | readSeedVersion update status | readAcceptedVersion proposal =>
    exact kept.moveTo fun _ moved => by cases moved
  | readVersion _ _ latest =>
    refine kept.moveTo fun artifact moved => ?_
    cases moved
    obtain ⟨newest, listed, same⟩ :=
      Option.map_eq_some_iff.mp (unchanged latest (by rw [found]; rfl))
    obtain ⟨member, version⟩ := Store.latestMermaidArtifactOf_numbered sound.numbered listed
    exact ⟨newest, member, version, same⟩
  | insertSeed _ _ _ =>
    dsimp only
    split
    · exact kept.moveTo fun _ moved => by cases moved
    next inserted =>
      exact (kept.insert sound fits inserted older).moveTo fun _ moved => by cases moved
  | insertUpdated artifact =>
    have follows := kept.pending caller artifact found
    dsimp only
    split
    · exact kept.moveTo fun _ moved => by cases moved
    next inserted =>
      refine (kept.insert sound fits inserted ?_).moveTo fun _ moved => by cases moved
      intro other member
      rcases mem_cons.mp member with rfl | earlier
      · exact .inr follows
      · exact .inl earlier
  | insertAccepted _ =>
    dsimp only
    split
    · exact kept.moveTo fun _ moved => by cases moved
    next inserted =>
      exact (kept.insert sound fits inserted older).moveTo fun _ moved => by cases moved

theorem beginUpdate_eq_some {update : DiagramUpdate}
    (begun : beginUpdate objective store update = some stage) :
    ∃ status, stage = .readLatest update status := by
  unfold beginUpdate at begun
  split at begun
  · obtain ⟨status, _, rfl⟩ := Option.map_eq_some_iff.mp begun
    exact ⟨status, rfl⟩
  · cases begun

theorem beginAccept_eq_some {proposalId : String}
    (begun : beginAccept objective store proposalId = some stage) :
    ∃ proposal, stage = .readAcceptedVersion proposal := by
  unfold beginAccept at begun
  split at begun
  · obtain ⟨proposal, _, rfl⟩ := Option.map_eq_some_iff.mp begun
    exact ⟨proposal, rfl⟩
  · cases begun

theorem step_sound (sound : world.Sound objective)
    (taken : step answers objective world event = some next) : next.Sound objective := by
  cases event with
  | update _ _ =>
    simp only [step, Option.ite_none_right_eq_some, Option.some.injEq] at taken
    rw [← taken.2]
    refine sound.moveTo fun _ begun => ?_
    obtain ⟨_, rfl⟩ := beginUpdate_eq_some begun
    trivial
  | accept _ _ =>
    simp only [step, Option.ite_none_right_eq_some, Option.some.injEq] at taken
    rw [← taken.2]
    refine sound.moveTo fun _ begun => ?_
    obtain ⟨_, rfl⟩ := beginAccept_eq_some begun
    trivial
  | call _ =>
    obtain ⟨_, found, rfl⟩ := Option.map_eq_some_iff.mp taken
    exact perform_sound sound found
  | otherTables _ =>
    cases taken
    exact ⟨sound.numbered, sound.stages⟩

theorem step_kept (invariant : world.Sound objective ∧ world.Kept objective)
    (unchanged : world.LatestUnchanged objective event)
    (taken : step answers objective world event = some next) :
    next.Sound objective ∧ next.Kept objective := by
  obtain ⟨sound, kept⟩ := invariant
  refine ⟨step_sound sound taken, ?_⟩
  cases event with
  | update _ _ =>
    simp only [step, Option.ite_none_right_eq_some, Option.some.injEq] at taken
    rw [← taken.2]
    refine kept.moveTo fun _ begun => ?_
    obtain ⟨_, same⟩ := beginUpdate_eq_some begun
    cases same
  | accept _ _ =>
    simp only [step, Option.ite_none_right_eq_some, Option.some.injEq] at taken
    rw [← taken.2]
    refine kept.moveTo fun _ begun => ?_
    obtain ⟨_, same⟩ := beginAccept_eq_some begun
    cases same
  | call _ =>
    obtain ⟨_, found, rfl⟩ := Option.map_eq_some_iff.mp taken
    exact perform_kept sound kept found unchanged
  | otherTables _ =>
    cases taken
    exact ⟨kept.content, kept.pending⟩

/-- In every run the versions are exactly `1`, …, `n`; and where every update
that reads the next version still finds the content that it has read, every
version that an update has written has the content of the version before it. -/
theorem history_keeps_content (answers : AcceptanceAnswers) (objective : Objective)
    (store : Store) (events : List DiagramEvent) (world : DiagramWorld)
    (numbered : NumberedFromOne (store.mermaidRows objective.id workflowControl))
    (run : runEvents (step answers objective) (initial store) events = some world) :
    NumberedFromOne (world.rows objective) ∧
      (StepsMeet (step answers objective) (fun world => world.LatestUnchanged objective)
          (initial store) events →
        world.KeepsContent objective) := by
  have sound : (initial store).Sound objective := by
    refine ⟨numbered, ?_⟩
    intro caller stage found
    cases found
  have kept : (initial store).Kept objective := by
    constructor
    · intro artifact member
      cases member
    · intro caller artifact found
      cases found
  constructor
  · exact (runEvents_invariant (fun _ _ _ => step_sound) sound run).numbered
  · intro meets
    exact (runEvents_invariant_of_guard _ (fun _ _ _ => step_kept) ⟨sound, kept⟩ meets
      run).2.content

def redrawnStore : Store :=
  { HarnessUIDataService.reviewedStore with
    contextRecords := [{ proposalOfDraft with
      metadata := [("content", .str "flowchart LR")] }] }

def acceptedFirst : List DiagramEvent :=
  [.accept 1 "proposal", .call 1, .call 1, .update 0 markedFinished, .call 0, .call 0, .call 0]

theorem acceptedFirst_keeps_content :
    ∃ world, runEvents (step onePlanAnswers reviewedObjective) (initial redrawnStore)
        acceptedFirst = some world ∧
      NumberedFromOne (world.rows reviewedObjective) ∧ world.KeepsContent reviewedObjective := by
  have returns : (runEvents (step onePlanAnswers reviewedObjective) (initial redrawnStore)
      acceptedFirst).isSome = true := by
    decide +kernel
  have meets : StepsMeet (step onePlanAnswers reviewedObjective)
      (fun world => world.LatestUnchanged reviewedObjective) (initial redrawnStore)
      acceptedFirst := by
    decide +kernel
  obtain ⟨world, run⟩ := Option.isSome_iff_exists.mp returns
  obtain ⟨numbered, keeps⟩ := history_keeps_content onePlanAnswers reviewedObjective
    redrawnStore acceptedFirst world rfl run
  exact ⟨world, run, numbered, keeps meets⟩

def acceptedBetween : List DiagramEvent :=
  [.update 0 markedFinished, .call 0, .accept 1 "proposal", .call 1, .call 1, .call 0, .call 0]

theorem accepted_content_reverted :
    NumberedFromOne (redrawnStore.mermaidRows reviewedObjective.id workflowControl) ∧
      ∃ world, runEvents (step onePlanAnswers reviewedObjective) (initial redrawnStore)
          acceptedBetween = some world ∧
        (world.rows reviewedObjective).map MermaidArtifact.content =
            ["flowchart TD", "flowchart LR", "flowchart TD"] ∧
          ¬ world.KeepsContent reviewedObjective := by
  have reverted : (runEvents (step onePlanAnswers reviewedObjective) (initial redrawnStore)
      acceptedBetween).any (fun world =>
        (world.rows reviewedObjective).map MermaidArtifact.content =
            ["flowchart TD", "flowchart LR", "flowchart TD"] ∧
          ¬ world.KeepsContent reviewedObjective) = true := by
    decide +kernel
  obtain ⟨world, run, found⟩ := (Option.any_eq_true _ _).mp reverted
  exact ⟨rfl, world, run, of_decide_eq_true found⟩

end DiagramWorld

end AccruviaHarness
