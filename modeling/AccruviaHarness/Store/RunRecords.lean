import AccruviaHarness.Store.Schema

/-!
# Records of runs

The statements of the run tables and of `decision_queue`. `dequeue_decision`
is a `SELECT` and an `UPDATE`; they are two functions here, because other
statements may come between them.
-/

namespace AccruviaHarness

open Library List

namespace Store

variable (store : Store) (runId : String)

def getRun : Option Run := store.runs.lookup runId

def runsOf (taskId : String) : List Run := store.runs.rows.filter fun run => run.taskId = taskId

/-- `ORDER BY created_at` of runs. -/
def RunOrder (first second : Run) : Prop := first.createdAt ≤ second.createdAt

instance : DecidableRel RunOrder := fun _ _ => inferInstanceAs (Decidable (_ ≤ _))

instance : Std.Total RunOrder where
  total first second := Int.le_total first.createdAt second.createdAt

instance : IsTrans Run RunOrder where
  trans _ _ _ := Int.le_trans

def listRuns (taskId : String) : List Run := orderBy RunOrder (store.runsOf taskId)

def nextAttempt (taskId : String) : Int := ((store.runsOf taskId).map Run.attempt).foldl max 0 + 1

def createRun (run : Run) : Option Store :=
  (store.runs.insert? run).map fun runs => { store with runs }

theorem fresh_of_createRun {store created : Store} {run : Run}
    (inserted : store.createRun run = some created) :
    ∀ other ∈ store.runs.rows, other.id ≠ run.id := by
  intro other member same
  have refused : store.createRun run = none :=
    Option.map_eq_none_iff.mpr (store.runs.insert?_eq_none_iff.mpr ⟨other, member, same⟩)
  rw [refused] at inserted
  cases inserted

def markRun (run : Run) (status : RunStatus) (summary : String) : Store × Run :=
  ({ store with
      runs := store.runs.updateAt run.id
        ⟨fun row => { row with status, summary }, fun _ => rfl⟩ },
    { run with status, summary })

def createArtifact (artifact : Artifact) : Store :=
  { store with artifacts := store.artifacts ++ [artifact] }

/-- `ORDER BY created_at` of artifacts. -/
def ArtifactOrder (first second : Artifact) : Prop := first.createdAt ≤ second.createdAt

instance : DecidableRel ArtifactOrder := fun _ _ => inferInstanceAs (Decidable (_ ≤ _))

def listArtifacts : List Artifact :=
  orderBy ArtifactOrder <| store.artifacts.filter fun artifact => artifact.runId = runId

def createEvaluation (evaluation : Evaluation) : Store :=
  { store with evaluations := store.evaluations ++ [evaluation] }

def listEvaluations : List Evaluation :=
  store.evaluations.filter fun evaluation => evaluation.runId = runId

def createDecision (decision : Decision) : Store :=
  { store with decisions := store.decisions ++ [decision] }

/-- `ORDER BY created_at` of decisions. -/
def DecisionOrder (first second : Decision) : Prop := first.createdAt ≤ second.createdAt

instance : DecidableRel DecisionOrder := fun _ _ => inferInstanceAs (Decidable (_ ≤ _))

def listDecisions : List Decision :=
  orderBy DecisionOrder <| store.decisions.filter fun decision => decision.runId = runId

/-- `ORDER BY created_at` of promotions. -/
def PromotionOrder (first second : PromotionRecord) : Prop := first.createdAt ≤ second.createdAt

instance : DecidableRel PromotionOrder := fun _ _ => inferInstanceAs (Decidable (_ ≤ _))

def listPromotions (taskId : String) : List PromotionRecord :=
  orderBy PromotionOrder <|
    store.promotions.rows.filter fun promotion => taskId = "" || promotion.taskId = taskId

def updatePromotion (promotion : PromotionRecord) : Store :=
  { store with
    promotions := store.promotions.updateAt promotion.id
      ⟨fun row =>
        { row with
          status := promotion.status, summary := promotion.summary
          details := promotion.details },
        fun _ => rfl⟩ }

def enqueueDecision (item : DecisionQueueItem) : Option Store :=
  (store.decisionQueue.insert? item).map fun decisionQueue => { store with decisionQueue }

/-- `ORDER BY priority ASC, created_at ASC`. -/
def QueueOrder (first second : DecisionQueueItem) : Prop :=
  first.priority < second.priority ∨
    (first.priority = second.priority ∧ first.createdAt ≤ second.createdAt)

instance : DecidableRel QueueOrder := fun _ _ => inferInstanceAs (Decidable (_ ∨ _))

instance : Std.Total QueueOrder where
  total first second := by
    unfold QueueOrder
    omega

instance : IsTrans DecisionQueueItem QueueOrder where
  trans first second third := by
    unfold QueueOrder
    omega

/-- The `SELECT` of `dequeue_decision`. -/
def selectPendingDecision : Option DecisionQueueItem :=
  (orderBy QueueOrder <| store.decisionQueue.rows.filter fun item => item.status = .pending).head?

variable (itemId : String)

/-- The `UPDATE` of `dequeue_decision`: it names the item by its id alone. -/
def markDecisionProcessing (now : Int) :
    Store :=
  { store with
    decisionQueue := store.decisionQueue.updateAt itemId
      ⟨fun item => { item with status := .processing, startedAt := some now }, fun _ => rfl⟩ }

def completeDecision (status : DecisionItemStatus) (now : Int) : Store :=
  { store with
    decisionQueue := store.decisionQueue.updateAt itemId
      ⟨fun item => { item with status, completedAt := some now }, fun _ => rfl⟩ }

theorem selectPendingDecision_eq_none_iff {store : Store} :
    store.selectPendingDecision = none ↔
      ∀ item ∈ store.decisionQueue.rows, item.status ≠ .pending := by
  unfold selectPendingDecision
  rw [head?_eq_none_iff, orderBy_eq_nil_iff, filter_eq_nil_iff]
  simp

theorem selectPendingDecision_first {store : Store} {item : DecisionQueueItem}
    (selected : store.selectPendingDecision = some item) :
    (item ∈ store.decisionQueue.rows ∧ item.status = .pending) ∧
      ∀ other ∈ store.decisionQueue.rows, other.status = .pending → QueueOrder item other := by
  obtain ⟨member, first⟩ := head?_orderBy_first QueueOrder selected
  simp only [mem_filter, decide_eq_true_eq] at member first
  exact ⟨member, fun other otherMember pending => first other ⟨otherMember, pending⟩⟩

end Store

/-!
## Lists of runs

A list of runs that a caller collects while the runs are made is the list that
the store gives afterwards where no run was there before, none was changed
since, and the clock did not go back.
-/

namespace Store

/-- The `WHERE` of `list_runs`: no task, or an empty id, lists every run. -/
def MatchesTask (taskId : Option String) (run : Run) : Prop :=
  ∀ wanted ∈ taskId, wanted = "" ∨ run.taskId = wanted

instance matchesTaskDecidable (taskId : Option String) :
    DecidablePred (MatchesTask taskId) := fun run =>
  inferInstanceAs (Decidable (∀ wanted ∈ taskId, wanted = "" ∨ run.taskId = wanted))

/-- `list_runs`, of one task or of all. -/
def listRunsMatching (store : Store) (taskId : Option String) : List Run :=
  orderBy RunOrder <| store.runs.rows.filter fun run => MatchesTask taskId run

theorem mem_listRunsMatching {store : Store} {taskId : Option String} {run : Run} :
    run ∈ store.listRunsMatching taskId ↔ run ∈ store.runs.rows ∧ MatchesTask taskId run := by
  simp [listRunsMatching]

theorem matchesTask_of_taskId {taskId : String} {run : Run} (own : run.taskId = taskId) :
    MatchesTask (some taskId) run := by
  intro wanted asked
  obtain rfl := Option.some.inj asked
  exact .inr own

end Store

def KeepsRuns (before after : Store) : Prop :=
  ∀ run ∈ before.runs.rows, ∃ later ∈ after.runs.rows,
    later.id = run.id ∧ later.taskId = run.taskId

variable {before after : Store} {taskId : String} {times : List Int}
  {stale : Prop}

theorem KeepsRuns.of_append {added : List Run}
    (rows : after.runs.rows = before.runs.rows ++ added) :
    KeepsRuns before after := by
  intro run member
  refine ⟨run, ?_, rfl, rfl⟩
  rw [rows]
  exact mem_append_left _ member

theorem KeepsRuns.trans {first second third : Store} (earlier : KeepsRuns first second)
    (later : KeepsRuns second third) : KeepsRuns first third := by
  intro run member
  obtain ⟨middle, middleMember, middleId, middleTask⟩ := earlier run member
  obtain ⟨last, lastMember, lastId, lastTask⟩ := later middle middleMember
  exact ⟨last, lastMember, lastId.trans middleId, lastTask.trans middleTask⟩

theorem KeepsRuns.markRun (store : Store) (run : Run) (status : RunStatus) (summary : String) :
    KeepsRuns store (store.markRun run status summary).1 := by
  intro row member
  refine ⟨_, KeyedTable.mem_updateAt.mpr ⟨row, member, rfl⟩, ?_⟩
  by_cases same : row.id = run.id
  · simp [same]
  · simp [same]

/-- The runs that were collected on the way from one store to another: new
runs of the task, created at the given times. Either the run table ends in
them, or one of them is stale. -/
structure CollectedRuns (before : Store) (taskId : String) (times : List Int)
    (stale : Prop) (runs : List Run) (after : Store) : Prop where
  kept : KeepsRuns before after
  own : ∀ run ∈ runs, run.taskId = taskId
  new : ∀ run ∈ runs, ∀ earlier ∈ before.runs.rows, earlier.id ≠ run.id
  times : runs.map Run.createdAt = times
  current : ¬ stale → after.runs.rows = before.runs.rows ++ runs
  changed : stale → ∃ run ∈ runs, run ∉ after.runs.rows

theorem CollectedRuns.nil (store : Store) (taskId : String) :
    CollectedRuns store taskId [] False [] store := by
  refine ⟨KeepsRuns.of_append (append_nil _).symm, ?_, ?_, rfl, ?_, ?_⟩
  · simp
  · simp
  · simp
  · simp

theorem CollectedRuns.of_iff {outdated : Prop} {runs : List Run} (same : stale ↔ outdated)
    (collected : CollectedRuns before taskId times stale runs after) :
    CollectedRuns before taskId times outdated runs after :=
  propext same ▸ collected

theorem CollectedRuns.cons {middle : Store} {run : Run} {later : List Run}
    (rows : middle.runs.rows = before.runs.rows ++ [run])
    (own : run.taskId = taskId)
    (rest : CollectedRuns middle taskId times stale later after) :
    CollectedRuns before taskId (run.createdAt :: times) stale (run :: later)
      after := by
  have distinct := middle.runs.keysNodup
  rw [rows, map_append, nodup_append] at distinct
  have fresh : ∀ earlier ∈ before.runs.rows, earlier.id ≠ run.id := by
    intro earlier member
    exact distinct.2.2 earlier.id (mem_map_of_mem member) run.id (by simp)
  refine ⟨(KeepsRuns.of_append rows).trans rest.kept, ?_, ?_, ?_, ?_, ?_⟩
  · simpa [own] using rest.own
  · rw [forall_mem_cons]
    refine ⟨fresh, ?_⟩
    intro other member earlier earlierMember
    apply rest.new other member
    rw [rows]
    exact mem_append_left _ earlierMember
  · simp [rest.times]
  · intro unchanged
    have last := rest.current unchanged
    rw [last, rows, append_assoc, singleton_append]
  · intro stale
    obtain ⟨other, member, missing⟩ := rest.changed stale
    exact ⟨other, mem_cons_of_mem run member, missing⟩

theorem CollectedRuns.listed_iff {runs : List Run}
    (collected : CollectedRuns before taskId times stale runs after) :
    after.listRunsMatching (some taskId) = runs ↔
      before.listRunsMatching (some taskId) = [] ∧ ¬ stale ∧ times.Pairwise (· ≤ ·) := by
  have inOrder : times.Pairwise (· ≤ ·) ↔ runs.Pairwise Store.RunOrder := by
    rw [← collected.times, pairwise_map]
    rfl
  rw [inOrder]
  constructor
  · intro same
    refine ⟨?_, ?_, ?_⟩
    · rw [eq_nil_iff_forall_not_mem]
      intro run member
      obtain ⟨stored, wanted⟩ := Store.mem_listRunsMatching.mp member
      obtain ⟨later, laterMember, sameId, sameTask⟩ := collected.kept run stored
      have listed : later ∈ runs := by
        rw [← same, Store.mem_listRunsMatching]
        refine ⟨laterMember, ?_⟩
        unfold Store.MatchesTask at wanted ⊢
        rw [sameTask]
        exact wanted
      exact collected.new later listed run stored sameId.symm
    · intro stale
      obtain ⟨run, member, missing⟩ := collected.changed stale
      rw [← same, Store.mem_listRunsMatching] at member
      exact missing member.1
    · rw [← same]
      exact orderBy_pairwise Store.RunOrder _
  · rintro ⟨empty, fresh, ordered⟩
    have none : before.runs.rows.filter (fun run => Store.MatchesTask (some taskId) run) = [] :=
      (orderBy_eq_nil_iff Store.RunOrder).mp empty
    have all : runs.filter (fun run => Store.MatchesTask (some taskId) run) = runs := by
      rw [filter_eq_self]
      intro run member
      exact decide_eq_true (Store.matchesTask_of_taskId (collected.own run member))
    unfold Store.listRunsMatching
    rw [collected.current fresh, filter_append, none, all, nil_append]
    exact ordered.insertionSort_eq

end AccruviaHarness
