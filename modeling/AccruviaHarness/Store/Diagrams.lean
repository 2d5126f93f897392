import AccruviaHarness.Store.Schema

/-!
# The diagrams of an objective

Every new diagram of a type has the version after the highest one, so it is
the latest of its type as soon as it is stored.
-/

namespace AccruviaHarness

open Library List

structure RowStamps where
  identity : Nat → String
  clock : Nat → Int

namespace MermaidStatus

def value : MermaidStatus → String
  | .draft => "draft"
  | .inReview => "in_review"
  | .paused => "paused"
  | .finished => "finished"
  | .superseded => "superseded"

/-- `MermaidStatus(text)`. -/
def ofText (text : String) : Option MermaidStatus :=
  [draft, inReview, paused, finished, superseded].find? fun status => status.value = text

end MermaidStatus

def MermaidArtifact.untitled (artifact : MermaidArtifact) : MermaidArtifact :=
  { artifact with
    summary := "", content := "", blockingReason := "", authorType := "" }

namespace Store

variable (store : Store) (objectiveId diagramType : String)

def mermaidRows : List MermaidArtifact :=
  store.mermaidArtifacts.filter fun artifact =>
    artifact.objectiveId = objectiveId && artifact.diagramType = diagramType

/-- `latest_mermaid_artifact`, of one diagram type. -/
def latestMermaidArtifactOf : Option MermaidArtifact :=
  (orderBy MermaidOrder (store.mermaidRows objectiveId diagramType)).getLast?

def nextMermaidVersion :
    Int :=
  let versions := (store.mermaidRows objectiveId diagramType).map MermaidArtifact.version
  versions.max?.getD 0 + 1

def createMermaidArtifact (artifact : MermaidArtifact) :
    Store :=
  { store with mermaidArtifacts := store.mermaidArtifacts ++ [artifact] }

variable {store : Store} {objectiveId diagramType : String} {artifact : MermaidArtifact}

theorem version_lt_next (member : artifact ∈ store.mermaidRows objectiveId diagramType) :
    artifact.version < store.nextMermaidVersion objectiveId diagramType := by
  have listed : artifact.version ∈ (store.mermaidRows objectiveId diagramType).map
        MermaidArtifact.version :=
    mem_map_of_mem member
  unfold nextMermaidVersion
  dsimp only
  cases highest : ((store.mermaidRows objectiveId diagramType).map
      MermaidArtifact.version).max? with
  | none =>
    rw [max?_eq_none_iff.mp highest] at listed
    exact absurd listed not_mem_nil
  | some _ =>
    have bounded := (max?_eq_some_iff.mp highest).2 _ listed
    rw [Option.getD_some]
    omega

theorem mermaidRows_create (store : Store) (artifact : MermaidArtifact) :
    (store.createMermaidArtifact artifact).mermaidRows objectiveId diagramType =
      store.mermaidRows objectiveId diagramType ++
        if artifact.objectiveId = objectiveId ∧
            artifact.diagramType = diagramType then [artifact] else [] := by
  unfold mermaidRows createMermaidArtifact
  rw [filter_append, filter_singleton]
  by_cases own : artifact.objectiveId = objectiveId ∧
      artifact.diagramType = diagramType
  · simp [own.1, own.2]
  · rw [if_neg own]
    have other : (decide (artifact.objectiveId = objectiveId) &&
        decide (artifact.diagramType = diagramType)) = false := by
      simpa using own
    rw [other]
    rfl

/-- A diagram with the next version of its type does not make a next version
smaller. -/
theorem nextMermaidVersion_le_create (fresh : artifact.version =
      store.nextMermaidVersion artifact.objectiveId artifact.diagramType) :
    store.nextMermaidVersion objectiveId diagramType ≤
      (store.createMermaidArtifact artifact).nextMermaidVersion objectiveId
        diagramType := by
  by_cases own : artifact.objectiveId = objectiveId ∧
      artifact.diagramType = diagramType
  · have stored : artifact ∈ (store.createMermaidArtifact
        artifact).mermaidRows objectiveId diagramType := by
      rw [mermaidRows_create, if_pos own]
      exact mem_append_right _ (mem_singleton_self _)
    have smaller := version_lt_next stored
    rw [fresh, own.1, own.2] at smaller
    exact smaller.le
  · unfold nextMermaidVersion
    rw [mermaidRows_create, if_neg own, append_nil]

theorem mermaidOrder_total (first second : MermaidArtifact) :
    MermaidOrder first second ∨ MermaidOrder second first := by
  unfold MermaidOrder
  omega

theorem mermaidOrder_trans {first second third : MermaidArtifact}
    (early : MermaidOrder first second) (late : MermaidOrder second third) :
    MermaidOrder first third := by
  unfold MermaidOrder at early late ⊢
  omega

theorem getLast?_mermaidOrder_append {rows : List MermaidArtifact}
    (newest : ∀ row ∈ rows, row.version < artifact.version) :
    (orderBy MermaidOrder (rows ++ [artifact])).getLast? = some artifact := by
  have : Std.Total MermaidOrder := ⟨mermaidOrder_total⟩
  have : IsTrans MermaidArtifact MermaidOrder := ⟨fun _ _ _ => mermaidOrder_trans⟩
  have stored : artifact ∈ orderBy MermaidOrder (rows ++ [artifact]) := by
    rw [mem_orderBy]
    exact mem_append_right _ (mem_singleton_self _)
  have sorted := orderBy_pairwise MermaidOrder (rows ++ [artifact])
  obtain ⟨last, ends⟩ : ∃ last, (orderBy MermaidOrder (rows ++ [artifact])).getLast? = some last :=
    Option.isSome_iff_exists.mp (getLast?_isSome.mpr (ne_nil_of_mem stored))
  obtain ⟨_, split⟩ := getLast?_eq_some_iff.mp ends
  rw [split] at stored sorted
  have listed : last ∈ rows ++ [artifact] := by
    rw [← mem_orderBy MermaidOrder, split]
    exact mem_append_right _ (mem_singleton_self _)
  rw [ends]
  rcases mem_append.mp stored with before | same
  · have ordered : MermaidOrder artifact last :=
      (pairwise_append.mp sorted).2.2 artifact before last (mem_singleton_self _)
    rcases mem_append.mp listed with old | new
    · have later := newest last old
      unfold MermaidOrder at ordered
      omega
    · rw [mem_singleton.mp new]
  · rw [mem_singleton.mp same]

theorem latestMermaidArtifactOf_create (owned : artifact.objectiveId = objectiveId)
    (typed : artifact.diagramType = diagramType)
    (next : artifact.version = store.nextMermaidVersion objectiveId diagramType) :
    (store.createMermaidArtifact artifact).latestMermaidArtifactOf objectiveId
      diagramType = some artifact := by
  unfold latestMermaidArtifactOf
  rw [mermaidRows_create, if_pos ⟨owned, typed⟩]
  apply getLast?_mermaidOrder_append
  intro row member
  rw [next]
  exact version_lt_next member

theorem latestMermaidArtifact_untitled (store : Store) (objectiveId : String) :
    ({ store with
        mermaidArtifacts := store.mermaidArtifacts.map MermaidArtifact.untitled } :
        Store).latestMermaidArtifact objectiveId =
      (store.latestMermaidArtifact objectiveId).map
        MermaidArtifact.untitled := by
  have ordered := orderBy_map MermaidOrder (fun _ _ => .rfl : ∀ first second : MermaidArtifact,
      MermaidOrder first.untitled second.untitled ↔ MermaidOrder first second)
    (store.mermaidArtifacts.filter fun artifact => artifact.objectiveId = objectiveId)
  unfold latestMermaidArtifact
  rw [← getLast?_map, ← ordered, filter_map]
  rfl

end Store

end AccruviaHarness
