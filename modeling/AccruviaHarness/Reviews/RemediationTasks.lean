import AccruviaHarness.Library.Occurrences
import AccruviaHarness.Reviews.RemediationService
import AccruviaHarness.Services.RemediationTree

/-!
# One remediation task for every dimension

The tasks of a review round are told apart twice: by the dimensions in the
metadata of the linked tasks, and by the external reference of a new task.
-/

namespace AccruviaHarness

open Library List

namespace RemediationService

/-! ## References -/

def remediationReference (objectiveId reviewId dimension : String) : String :=
  objectiveId ++ ":" ++ reviewId ++ ":" ++ dimension

/-- An id as `new_id` makes it. -/
def PlainId (id : String) : Prop := ':' ∉ id.toList

instance plainIdDecidable : DecidablePred PlainId := fun _ => inferInstanceAs (Decidable (_ ∉ _))

variable {reviewId : String} {store : Store} {objective : Objective}
  {task : Task}

variable {dimension : String} {packet : PyDict}

theorem remediationReference_injective {objectiveId : String}
    {otherObjectiveId otherReviewId otherDimension : String}
    (plainObjective : PlainId objectiveId) (plainReview : PlainId reviewId)
    (otherPlainObjective : PlainId otherObjectiveId)
    (otherPlainReview : PlainId otherReviewId)
    (same : remediationReference objectiveId reviewId dimension =
      remediationReference otherObjectiveId otherReviewId otherDimension) :
    objectiveId = otherObjectiveId ∧ reviewId = otherReviewId ∧
      dimension = otherDimension := by
  have characters := congrArg String.toList same
  unfold remediationReference at characters
  simp only [String.toList_append, append_assoc] at characters
  obtain ⟨objectives, rest⟩ := split_at_first plainObjective otherPlainObjective characters
  obtain ⟨reviews, dimensions⟩ := split_at_first plainReview otherPlainReview rest
  exact ⟨String.toList_inj.mp objectives, String.toList_inj.mp reviews,
    String.toList_inj.mp dimensions⟩

/-! ## The tasks of a dimension -/

def NamesDimension (reviewId dimension : String) (task : Task) : Prop :=
  (remediationOf reviewId task).map (fun remediation =>
    remediation.getStr "dimension") = some dimension

instance namesDimensionDecidable (reviewId dimension : String) :
    DecidablePred (NamesDimension reviewId dimension) := fun _ =>
  inferInstanceAs (Decidable (_ = _))

def linkedTasks (store : Store) (objective : Objective) : List Task :=
  (store.listTasks objective.projectId).filter fun task => task.objectiveId = some objective.id

def remediationTasks (store : Store) (objective : Objective)
    (reviewId dimension : String) : List Task :=
  (linkedTasks store objective).filter fun task => NamesDimension reviewId dimension task

def Asked (packets : List PyDict) (dimension : String) : Prop :=
  dimension ≠ "" ∧ ∃ packet ∈ packets, (pyStrip (packet.getStr "verdict") = "concern" ∨
        pyStrip (packet.getStr "verdict") = "remediation_required") ∧
      pyStrip (packet.getStr "dimension") = dimension

structure RecordedAs (task : Task) (objectiveId reviewId dimension : String) :
    Prop where
  objective : task.objectiveId = some objectiveId
  reference : task.externalRefId = some (remediationReference objectiveId reviewId dimension)
  named : NamesDimension reviewId dimension task
  plainObjective : PlainId objectiveId
  plainReview : PlainId reviewId

structure Untouched (store : Store) (objective : Objective) : Prop where
  recorded : ∀ task ∈ store.tasks.rows,
    task.externalRefType = some "objective_review" →
      ∃ objectiveId reviewId dimension, RecordedAs task objectiveId reviewId dimension
  inProject : ∀ task ∈ store.tasks.rows,
    task.externalRefType = some "objective_review" →
      task.objectiveId = some objective.id →
        task.projectId = objective.projectId

def IsLinked (objective : Objective) (task : Task) : Prop :=
  (objective.projectId = "" ∨ task.projectId = objective.projectId) ∧
    task.objectiveId = some objective.id

instance isLinkedDecidable (objective : Objective) :
    DecidablePred (IsLinked objective) := fun _ =>
  inferInstanceAs (Decidable (_ ∧ _))

theorem mem_linkedTasks :
    task ∈ linkedTasks store objective ↔ task ∈ store.tasks.rows ∧ IsLinked objective task := by
  rw [linkedTasks, List.mem_filter, TaskService.mem_listTasks, decide_eq_true_eq]
  exact and_assoc

theorem mem_existingDimensions :
    dimension ∈ existingDimensions store objective reviewId ↔
      remediationTasks store objective reviewId dimension ≠ [] := by
  rw [Ne, ← List.isEmpty_iff, Bool.not_eq_true, List.isEmpty_eq_false_iff_exists_mem]
  simp only [existingDimensions, remediationTasks, linkedTasks,
    List.mem_filterMap, List.mem_filter, decide_eq_true_eq]
  rfl

theorem length_remediationTasks
    (store : Store) (objective : Objective) (reviewId dimension : String) :
    (remediationTasks store objective reviewId dimension).length =
      store.tasks.rows.countP fun task =>
        IsLinked objective task && NamesDimension reviewId dimension task := by
  have ordered : (store.listTasks objective.projectId).Perm
      (store.tasks.rows.filter fun task =>
        objective.projectId = "" || task.projectId = objective.projectId) :=
    perm_insertionSort _ _
  unfold remediationTasks linkedTasks
  rw [filter_filter, ← countP_eq_length_filter, ordered.countP_eq, countP_filter]
  apply countP_congr
  intro task _
  simp only [Bool.and_eq_true, Bool.or_eq_true, decide_eq_true_eq]
  unfold IsLinked
  tauto

/-! ## The task of a packet -/

def packetDimension (packet : PyDict) : String := pyStrip (packet.getStr "dimension")

structure RemediationArguments (policy : TaskPolicy) (objective : Objective)
    (reviewId : String) (packet : PyDict) : Prop where
  project : policy.projectId = objective.projectId
  objectiveId : policy.objectiveId = some objective.id
  parent : policy.parentTaskId = none
  source : policy.sourceRunId = none
  refType : policy.externalRefType = some "objective_review"
  refId : policy.externalRefId =
    some (remediationReference objective.id reviewId (packetDimension packet))
  metadata : ∃ contract,
    policy.externalRefMetadata = remediationMetadata reviewId packet contract

theorem remediationPolicy_arguments {policy : TaskPolicy}
    (built : remediationPolicy objective reviewId packet = .ok policy) :
    RemediationArguments policy objective reviewId packet := by
  unfold remediationPolicy at built
  obtain ⟨_, _, built⟩ := exists_of_bind_ok built
  obtain ⟨contract, _, built⟩ := exists_of_bind_ok built
  obtain ⟨_, _, built⟩ := exists_of_bind_ok built
  cases built
  exact ⟨rfl, rfl, rfl, rfl, rfl, rfl, contract, rfl⟩

theorem metadataObject_policyTask (identities : TaskIdentities) (policy : TaskPolicy)
    (scope : Option PyDict) {key : String} (own : key ≠ "task_amendment") :
    (TaskService.policyTask identities policy scope).metadataObject key =
      (policy.externalRefMetadata.get key).asDict := by
  show PyValue.asDict (PyDict.get (TaskService.applyTaskAmendment policy (scope.getD [])).2 key) = _
  unfold TaskService.applyTaskAmendment
  split
  · rfl
  · dsimp only
    rw [PyDict.get_set, if_neg own]

theorem orEmpty_text (text : String) : (PyValue.str text).orEmpty = text := by
  unfold PyValue.orEmpty PyValue.truthy
  by_cases empty : text = ""
  · simp [empty]
  · simp [empty]

theorem namesDimension_iff {contract : EvidenceContract}
    (metadata : task.metadataObject "objective_review_remediation" =
      ((remediationMetadata reviewId packet contract).get "objective_review_remediation").asDict)
    (dimension : String) :
    NamesDimension reviewId dimension task ↔ packetDimension packet = dimension := by
  have named : remediationOf reviewId task = ((remediationMetadata reviewId packet contract).get
        "objective_review_remediation").asDict := by
    unfold remediationOf
    rw [metadata]
    simp [remediationMetadata, PyDict.get, PyDict.getStr, PyValue.asDict, orEmpty_text]
  unfold NamesDimension
  rw [named]
  simp [remediationMetadata, PyDict.get, PyDict.getStr, PyValue.asDict,
    packetDimension, orEmpty_text]

theorem stored_of_referencedTask {existing : Task}
    (referenced : TaskService.referencedTask store task = some existing) :
    existing ∈ store.tasks.rows ∧
      existing.externalRefType = some (TaskService.orEmptyText task.externalRefType) ∧
        existing.externalRefId = some (TaskService.orEmptyText task.externalRefId) := by
  unfold TaskService.referencedTask at referenced
  dsimp only at referenced
  split at referenced
  · have member := mem_of_mem_head? (Option.mem_def.mpr referenced)
    rw [mem_orderBy, List.mem_filter, Bool.and_eq_true, decide_eq_true_eq,
      decide_eq_true_eq] at member
    exact member
  · cases referenced

section

variable {store next : Store} {objective : Objective} {reviewId : String}
  {packet : PyDict} {policy : TaskPolicy} {identities : TaskIdentities}
  {task : Task}

structure NewTask (objective : Objective) (reviewId dimension : String)
    (task : Task) : Prop where
  refType : task.externalRefType = some "objective_review"
  recorded : RecordedAs task objective.id reviewId dimension
  project : task.projectId = objective.projectId
  only : ∀ other, NamesDimension reviewId other task ↔ dimension = other

theorem newTask_of_created (untouched : Untouched store objective)
    (plainObjective : PlainId objective.id) (plainReview : PlainId reviewId)
    (built : remediationPolicy objective reviewId packet = .ok policy)
    (unnamed : remediationTasks store objective reviewId (packetDimension packet) = [])
    (created : TaskService.createTaskWithPolicy identities store policy = .ok (next, task)) :
    next.tasks.rows = store.tasks.rows ++ [task] ∧
      NewTask objective reviewId (packetDimension packet) task := by
  obtain ⟨project, owned, parent, source, refType, refId, contract,
    metadata⟩ := remediationPolicy_arguments built
  have stored := TaskService.createTask_of_createTaskWithPolicy owned created
  rcases TaskService.createTask_spec stored with
    ⟨referenced, _⟩ | ⟨_, ⟨_, _, rfl, inserted⟩, _, _, rfl⟩
  · -- The task with the same reference would name the dimension.
    obtain ⟨member, ownType, ownId⟩ := stored_of_referencedTask referenced
    have sameType : task.externalRefType = some "objective_review" := by
      rw [ownType]
      show some (TaskService.orEmptyText policy.externalRefType) = _
      rw [refType]
      rfl
    have sameId : task.externalRefId = some (remediationReference objective.id
        reviewId (packetDimension packet)) := by
      rw [ownId]
      show some (TaskService.orEmptyText policy.externalRefId) = _
      rw [refId]
      rfl
    obtain ⟨_, _, _, recorded⟩ := untouched.recorded task member sameType
    have reference := recorded.reference
    rw [sameId, Option.some.injEq] at reference
    obtain ⟨rfl, rfl, rfl⟩ := remediationReference_injective plainObjective
      plainReview recorded.plainObjective recorded.plainReview reference
    have listed : task ∈ remediationTasks store objective reviewId (packetDimension packet) := by
      rw [remediationTasks, List.mem_filter, decide_eq_true_eq]
      have project := untouched.inProject task member sameType recorded.objective
      exact ⟨mem_linkedTasks.mpr ⟨member, .inr project, recorded.objective⟩, recorded.named⟩
    rw [unnamed] at listed
    cases listed
  · have kept : "objective_review_remediation" ≠ "task_amendment" := by decide
    have own := metadataObject_policyTask identities policy
      (TaskService.contractScope identities policy objective.id) kept
    rw [metadata] at own
    have names := namesDimension_iff own
    refine ⟨KeyedTable.rows_of_insert? inserted, refType, ?_, project, names⟩
    exact ⟨owned, refId, (names _).mpr rfl, plainObjective, plainReview⟩

end

/-! ## The loop over the packets -/

section

variable {objective : Objective} {reviewId : String}
  {asked : String → Prop} {before middle after : Store}

/-- What the creation of tasks leaves: the rows before, and at most one new
task for every dimension that had none. -/
structure Grows (objective : Objective) (reviewId : String)
    (asked : String → Prop) (before after : Store) : Prop where
  untouched : Untouched after objective
  rows : ∃ added, after.tasks.rows = before.tasks.rows ++ added ∧
    ∀ task ∈ added, ∃ dimension, asked dimension ∧ NewTask objective reviewId dimension task
  once : ∀ dimension, (remediationTasks after objective reviewId dimension).length =
        (remediationTasks before objective reviewId dimension).length ∨
      remediationTasks before objective reviewId dimension = [] ∧
        (remediationTasks after objective reviewId dimension).length = 1

theorem Grows.refl (untouched : Untouched before objective) :
    Grows objective reviewId asked before before where
  untouched := untouched
  rows := ⟨[], (append_nil _).symm, by simp⟩
  once _ := .inl rfl

theorem Grows.trans (first : Grows objective reviewId asked before middle)
    (second : Grows objective reviewId asked middle after) :
    Grows objective reviewId asked before after := by
  obtain ⟨early, earlyRows, earlyNew⟩ := first.rows
  obtain ⟨late, lateRows, lateNew⟩ := second.rows
  refine ⟨second.untouched, ⟨early ++ late, ?_, ?_⟩, ?_⟩
  · rw [lateRows, earlyRows, append_assoc]
  · intro task member
    rcases mem_append.mp member with isEarly | isLate
    · exact earlyNew task isEarly
    · exact lateNew task isLate
  · intro dimension
    rcases second.once dimension with same | ⟨none, one⟩
    · rw [same]
      exact first.once dimension
    · rcases first.once dimension with same | ⟨_, one⟩
      · right
        rw [none, length_nil] at same
        exact ⟨length_eq_zero_iff.mp same.symm, one⟩
      · rw [none] at one
        cases one

theorem Grows.mono (grows : Grows objective reviewId asked before after) {wider : String → Prop}
    (within : ∀ dimension, asked dimension → wider dimension) :
    Grows objective reviewId wider before after := by
  obtain ⟨added, rows, new⟩ := grows.rows
  refine ⟨grows.untouched, ⟨added, rows, ?_⟩, grows.once⟩
  intro task member
  obtain ⟨dimension, wanted, isNew⟩ := new task member
  exact ⟨dimension, within dimension wanted, isNew⟩

variable {dimension : String}

theorem Grows.keeps (grows : Grows objective reviewId asked before after)
    (present : remediationTasks before objective reviewId dimension ≠ []) :
    remediationTasks after objective reviewId dimension ≠ [] := by
  rcases grows.once dimension with same | ⟨none, _⟩
  · rw [← length_pos_iff_ne_nil] at present ⊢
    omega
  · exact absurd none present

theorem length_remediationTasks_of_new (rows : after.tasks.rows = before.tasks.rows ++ [task])
    (new : NewTask objective reviewId dimension task) (other : String) :
    (remediationTasks after objective reviewId other).length =
      (remediationTasks before objective reviewId other).length +
        if dimension = other then 1 else 0 := by
  have linked : IsLinked objective task := ⟨.inr new.project, new.recorded.objective⟩
  rw [length_remediationTasks, length_remediationTasks, rows, countP_append, countP_singleton]
  simp [linked, new.only]

theorem Grows.new (untouched : Untouched before objective) {dimension : String} {task : Task}
    (wanted : asked dimension)
    (rows : after.tasks.rows = before.tasks.rows ++ [task])
    (new : NewTask objective reviewId dimension task)
    (none : remediationTasks before objective reviewId dimension = []) :
    Grows objective reviewId asked before after ∧
      ∀ other, remediationTasks after objective reviewId other ≠ [] ↔
        other = dimension ∨ remediationTasks before objective reviewId other ≠ [] := by
  have later : Untouched after objective := by
    constructor
    · intro other member ofReview
      rw [rows, mem_append, mem_singleton] at member
      rcases member with earlier | rfl
      · exact untouched.recorded other earlier ofReview
      · exact ⟨_, _, _, new.recorded⟩
    · intro other member ofReview linked
      rw [rows, mem_append, mem_singleton] at member
      rcases member with earlier | rfl
      · exact untouched.inProject other earlier ofReview linked
      · exact new.project
  have counted := length_remediationTasks_of_new rows new
  refine ⟨⟨later, ⟨[task], rows, ?_⟩, ?_⟩, ?_⟩
  · intro other member
    rw [mem_singleton.mp member]
    exact ⟨dimension, wanted, new⟩
  · intro other
    by_cases same : dimension = other
    · subst same
      right
      rw [counted, none]
      simp
    · left
      rw [counted, if_neg same, Nat.add_zero]
  · intro other
    rw [← length_pos_iff_ne_nil, ← length_pos_iff_ne_nil, counted]
    by_cases same : dimension = other
    · simp [same]
    · simp [same, Ne.symm same]

end

section

variable {objective : Objective} {reviewId : String}
  (identities : Nat → TaskIdentities)

variable {packet : PyDict} {dimensions : List String}

variable {dimension : String}

theorem asked_singleton_iff :
    Asked [packet] dimension ↔ dimension ≠ "" ∧ (pyStrip (packet.getStr "verdict") = "concern" ∨
            pyStrip (packet.getStr "verdict") = "remediation_required") ∧
          packetDimension packet = dimension := by
  unfold Asked packetDimension
  rw [exists_mem_cons_iff]
  simp only [not_mem_nil, false_and, exists_false, or_false]

theorem asked_cons_iff {packets : List PyDict} :
    Asked (packet :: packets) dimension ↔ Asked [packet] dimension ∨ Asked packets dimension := by
  unfold Asked
  rw [exists_mem_cons_iff, exists_mem_cons_iff, and_or_left]
  simp only [not_mem_nil, false_and, exists_false, or_false]

theorem asksForTask_iff :
    asksForTask packet dimensions = true ↔ Asked [packet] (packetDimension packet) ∧
        packetDimension packet ∉ dimensions := by
  rw [asked_singleton_iff]
  unfold asksForTask
  rw [Bool.and_eq_true, Bool.and_eq_true, Bool.or_eq_true, decide_eq_true_eq,
    decide_eq_true_eq, decide_eq_true_eq, Bool.not_eq_true',
    contains_eq_mem, decide_eq_false_iff_not]
  constructor
  · intro asks
    exact ⟨⟨asks.1.2, asks.1.1, rfl⟩, asks.2⟩
  · intro asks
    exact ⟨⟨asks.1.2.1, asks.1.1⟩, asks.2⟩

theorem createForPackets_cons (index : Nat) (dimensions : List String) (packet : PyDict)
    (packets : List PyDict) (store : Store) :
    createForPackets identities objective reviewId index dimensions (packet :: packets) store =
      if asksForTask packet dimensions then
        match remediationPolicy objective reviewId packet with
        | .error error => .error error store
        | .ok policy =>
          match TaskService.createTaskWithPolicy (identities index) store
            policy with
          | .error error => .error error store
          | .ok (next, task) =>
            match createForPackets identities objective reviewId
              (index + 1) (packetDimension packet :: dimensions) packets
              next with
            | .error error left => .error error left
            | .ok others last => .ok (task.id :: others) last
      else
        createForPackets identities objective reviewId (index + 1) dimensions packets store := by
  rw [createForPackets]
  split
  · show EStateM.bind (valueOf (remediationPolicy objective reviewId packet)) _
      store = _
    cases remediationPolicy objective reviewId packet with
    | error _ => rfl
    | ok policy =>
      dsimp only
      show EStateM.bind (valueOf (TaskService.createTaskWithPolicy
        (identities index) store policy)) _ store = _
      cases TaskService.createTaskWithPolicy (identities index) store policy with
      | error _ => rfl
      | ok created =>
        dsimp only
        show EStateM.bind (createForPackets identities objective reviewId
          (index + 1) (packetDimension packet :: dimensions) packets) _
            created.1 = _
        unfold EStateM.bind
        cases createForPackets identities objective reviewId (index + 1)
          (packetDimension packet :: dimensions) packets created.1 <;> rfl
  · rfl

def Tracks (store : Store) (objective : Objective) (reviewId : String)
    (dimensions : List String) : Prop :=
  ∀ dimension, dimension ∈ dimensions ↔ remediationTasks store objective reviewId dimension ≠ []

theorem createForPackets_grows
    (plainObjective : PlainId objective.id) (plainReview : PlainId reviewId)
    (index : Nat) (packets : List PyDict)
    (untouched : Untouched store objective)
    (tracks : Tracks store objective reviewId dimensions) :
    Grows objective reviewId (Asked packets) store
        (stateOf (createForPackets identities objective reviewId index dimensions packets store)) ∧
      ∀ created after, createForPackets identities objective reviewId index dimensions
          packets store = .ok created after → ∀ dimension, Asked packets dimension →
              remediationTasks after objective reviewId dimension ≠ [] := by
  induction packets generalizing index dimensions store with
  | nil =>
    refine ⟨.refl untouched, ?_⟩
    intro created after _ dimension asked
    obtain ⟨_, packet, member, _⟩ := asked
    cases member
  | cons packet packets ih =>
    have earlier : ∀ dimension, Asked [packet] dimension → Asked (packet :: packets) dimension :=
      fun dimension asked => asked_cons_iff.mpr (.inl asked)
    have later : ∀ dimension, Asked packets dimension → Asked (packet :: packets) dimension :=
      fun dimension asked => asked_cons_iff.mpr (.inr asked)
    rw [createForPackets_cons]
    by_cases asks : asksForTask packet dimensions = true
    · rw [if_pos asks]
      obtain ⟨asked, absent⟩ := asksForTask_iff.mp asks
      have unnamed : remediationTasks store objective reviewId (packetDimension packet) = [] := by
        by_contra present
        exact absent ((tracks _).mpr present)
      cases built : remediationPolicy objective reviewId packet with
      | error _ => exact ⟨.refl untouched, by simp⟩
      | ok policy =>
        dsimp only
        cases written : TaskService.createTaskWithPolicy (identities index) store policy with
        | error _ => exact ⟨.refl untouched, by simp⟩
        | ok pair =>
          obtain ⟨next, task⟩ := pair
          obtain ⟨rows, new⟩ := newTask_of_created untouched
            plainObjective plainReview built unnamed written
          obtain ⟨first, present⟩ := Grows.new untouched asked rows new unnamed
          have nextTracks : Tracks next objective reviewId
              (packetDimension packet :: dimensions) := by
            intro other
            rw [mem_cons, present, tracks]
          obtain ⟨rest, complete⟩ := ih (index + 1)
            first.untouched nextTracks
          have own : remediationTasks next objective reviewId (packetDimension packet) ≠ [] :=
            (present _).mpr (.inl rfl)
          have whole := (first.mono earlier).trans (rest.mono later)
          dsimp only
          cases ended : createForPackets identities objective reviewId
              (index + 1) (packetDimension packet :: dimensions) packets
              next with
          | error _ _ =>
            rw [ended] at whole
            exact ⟨whole, by simp⟩
          | ok others last =>
            rw [ended] at whole rest
            refine ⟨whole, ?_⟩
            intro created after returned dimension wanted
            cases returned
            rcases asked_cons_iff.mp wanted with here | there
            · obtain ⟨_, _, same⟩ := asked_singleton_iff.mp here
              rw [← same]
              exact rest.keeps own
            · exact complete others last ended dimension there
    · rw [if_neg asks]
      obtain ⟨rest, complete⟩ := ih (index + 1) untouched tracks
      refine ⟨rest.mono later, ?_⟩
      intro created after returned dimension wanted
      rcases asked_cons_iff.mp wanted with here | there
      · -- Its dimension has a task already.
        obtain ⟨_, _, same⟩ := asked_singleton_iff.mp here
        have present : packetDimension packet ∈ dimensions := by
          by_contra absent
          exact asks (asksForTask_iff.mpr ⟨same ▸ here, absent⟩)
        rw [returned] at rest
        rw [← same]
        exact rest.keeps ((tracks _).mp present)
      · exact complete created after returned dimension there

theorem createForPackets_idle (index : Nat) (packets : List PyDict) (store : Store)
    (all : ∀ dimension, Asked packets dimension → dimension ∈ dimensions) :
    createForPackets identities objective reviewId index dimensions packets
      store = .ok [] store := by
  induction packets generalizing index with
  | nil => rfl
  | cons packet _ ih =>
    have quiet : ¬ asksForTask packet dimensions = true := by
      intro asks
      obtain ⟨asked, absent⟩ := asksForTask_iff.mp asks
      exact absent (all _ (asked_cons_iff.mpr (.inl asked)))
    rw [createForPackets_cons, if_neg quiet]
    exact ih (index + 1) fun dimension asked => all dimension (asked_cons_iff.mpr (.inr asked))

end

/-! ## A whole call -/

section

variable {objective : Objective} {reviewId : String}

theorem tasks_updateObjectivePhase (store : Store) (objectiveId : String) :
    (store.updateObjectivePhase objectiveId).1.tasks = store.tasks := by
  unfold Store.updateObjectivePhase
  split <;> rfl

theorem Grows.of_tasks {asked : String → Prop} {before after last : Store}
    (grows : Grows objective reviewId asked before after)
    (same : last.tasks = after.tasks) :
    Grows objective reviewId asked before last := by
  have listed : ∀ dimension, remediationTasks last objective reviewId dimension =
        remediationTasks after objective reviewId dimension := by
    intro dimension
    unfold remediationTasks linkedTasks Store.listTasks
    rw [same]
  obtain ⟨⟨recorded, inProject⟩, rows, once⟩ := grows
  refine ⟨⟨?_, ?_⟩, ?_, ?_⟩
  · rw [same]
    exact recorded
  · rw [same]
    exact inProject
  · rw [same]
    exact rows
  · intro dimension
    rw [listed]
    exact once dimension

theorem createRemediationTasks_eq (identities : Nat → TaskIdentities) (packets : List PyDict)
    (store : Store) :
    createRemediationTasks identities objective reviewId packets store =
      match createForPackets identities objective reviewId 0
        (existingDimensions store objective reviewId) packets store with
      | .error error left => .error error left
      | .ok created last =>
        .ok created (if created = [] then last
          else (last.updateObjectivePhase objective.id).1) := by
  show EStateM.bind (createForPackets identities objective reviewId 0
    (existingDimensions store objective reviewId) packets) _ store = _
  unfold EStateM.bind
  cases createForPackets identities objective reviewId 0
    (existingDimensions store objective reviewId) packets store <;> rfl

structure CreatesExactly (identities : Nat → TaskIdentities)
    (objective : Objective) (reviewId : String) (packets : List PyDict)
    (store : Store) : Prop where
  grows : Grows objective reviewId (Asked packets) store
    (stateOf (createRemediationTasks identities objective reviewId packets store))
  exactlyOne : ∀ created after,
    createRemediationTasks identities objective reviewId packets store = .ok created after →
    ∀ dimension, Asked packets dimension →
      (remediationTasks after objective reviewId dimension).length = 1
  idempotent : ∀ created after,
    createRemediationTasks identities objective reviewId packets store = .ok created after →
    ∀ (laterIdentities : Nat → TaskIdentities) (permuted : List PyDict), permuted.Perm packets →
        createRemediationTasks laterIdentities objective reviewId permuted
          after = .ok [] after

theorem asked_perm {packets permuted : List PyDict} (perm : permuted.Perm packets) :
    Asked permuted dimension ↔ Asked packets dimension := by
  unfold Asked
  simp only [perm.mem_iff]

/-- Every dimension that a packet asks for has one task afterwards, no other
task is added, and the same packets create nothing more. -/
theorem createRemediationTasks_createsExactly
    (identities : Nat → TaskIdentities) (objective : Objective)
    (reviewId : String) (packets : List PyDict) (store : Store)
    (plainObjective : PlainId objective.id) (plainReview : PlainId reviewId)
    (untouched : Untouched store objective)
    (atMostOne : ∀ dimension, Asked packets dimension →
      (remediationTasks store objective reviewId dimension).length ≤ 1) :
    CreatesExactly identities objective reviewId packets store := by
  have tracks : Tracks store objective reviewId (existingDimensions store objective reviewId) :=
    fun dimension => mem_existingDimensions
  obtain ⟨loop, complete⟩ := createForPackets_grows identities plainObjective
    plainReview 0 packets untouched tracks
  have call := @createRemediationTasks_eq objective reviewId identities packets store
  cases ended : createForPackets identities objective reviewId 0
      (existingDimensions store objective reviewId) packets store with
  | error _ _ =>
    rw [ended] at loop call
    refine ⟨?_, ?_, ?_⟩
    · rw [call]
      exact loop
    · intro created after returned
      rw [call] at returned
      cases returned
    · intro created after returned
      rw [call] at returned
      cases returned
  | ok created last =>
    rw [ended] at loop call
    have grows : Grows objective reviewId (Asked packets) store
        (if created = [] then last
          else (last.updateObjectivePhase objective.id).1) := by
      apply loop.of_tasks
      split
      · rfl
      · exact tasks_updateObjectivePhase last objective.id
    have present : ∀ dimension, Asked packets dimension →
        remediationTasks (if created = [] then last
          else (last.updateObjectivePhase objective.id).1) objective reviewId dimension ≠ [] := by
      intro dimension wanted
      have phase : Grows objective reviewId (Asked packets) last
          (if created = [] then last
            else (last.updateObjectivePhase objective.id).1) := by
        apply (Grows.refl loop.untouched).of_tasks
        split
        · rfl
        · exact tasks_updateObjectivePhase last objective.id
      exact phase.keeps (complete created last ended dimension wanted)
    refine ⟨?_, ?_, ?_⟩
    · rw [call]
      exact grows
    · intro made after returned dimension wanted
      rw [call] at returned
      cases returned
      have some := length_pos_iff_ne_nil.mpr (present dimension wanted)
      rcases grows.once dimension with same | ⟨_, one⟩
      · have few := atMostOne dimension wanted
        omega
      · exact one
    · intro made after returned laterIdentities permuted perm
      rw [call] at returned
      cases returned
      rw [createRemediationTasks_eq, createForPackets_idle]
      · rfl
      · intro dimension wanted
        exact mem_existingDimensions.mpr (present dimension ((asked_perm perm).mp wanted))

def reviewedObjective : Objective where
  id := "objective_1"
  projectId := "project_1"

def reviewedStore : Store where
  objectives := .single reviewedObjective

def concernPacket : PyDict := [("verdict", .str "concern"), ("dimension", .str "security")]

def plainIdentities (index : Nat) : TaskIdentities where
  taskId := "task_" ++ toString index
  planId := "plan_" ++ toString index
  now := 0
  nonNegotiables _ := none

theorem createRemediationTasks_concernPacket :
    (∃ created after, createRemediationTasks plainIdentities reviewedObjective "review_1"
        [concernPacket, concernPacket] reviewedStore = .ok created after) ∧
      CreatesExactly plainIdentities reviewedObjective "review_1"
        [concernPacket, concernPacket] reviewedStore := by
  constructor
  · exact ⟨_, _, rfl⟩
  · apply createRemediationTasks_createsExactly
    · decide
    · decide
    · constructor
      · intro task member
        cases member
      · intro task member
        cases member
    · intro dimension _
      exact Nat.zero_le 1

end

end RemediationService

end AccruviaHarness
