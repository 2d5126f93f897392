import AccruviaHarness.Library.Runs
import AccruviaHarness.Policy
import AccruviaHarness.Store.RunRecords

/-!
# Concurrent consumers of the decision queue

Consumers execute `process_one` on one store, one SQL statement at a time.
-/

namespace AccruviaHarness

open Library List Option

/-- The decider that `DecisionService` was built with. -/
abbrev Decider := AnalyzeResult → Run → Task → DecideResult

/-- The `AnalyzeResult` that `process_one` rebuilds from the stored row. -/
def Evaluation.toAnalysis (evaluation : Evaluation) : AnalyzeResult where
  verdict := evaluation.verdict
  summary := evaluation.summary
  details := evaluation.details

/-- How far a consumer has come in `process_one`. -/
inductive ConsumerPhase where
  | selected
  | dequeued
  | runRead (run : Option Run)
  | referencesRead (run : Run) (task : Task)
  | evaluationRead (run : Run) (task : Task) (evaluation : Evaluation)
  | recorded
  | refused

namespace ConsumerPhase

/-- The `UPDATE` of `dequeue_decision` has been executed. -/
def hasDequeued : ConsumerPhase → Bool
  | .selected => false
  | _ => true

/-- The item has been dequeued, and a `Decision` may still be recorded. -/
def undecided : ConsumerPhase → Bool
  | .dequeued | .runRead _ | .referencesRead .. | .evaluationRead .. => true
  | _ => false

end ConsumerPhase

structure DecisionConsumer where
  number : Nat
  item : DecisionQueueItem
  phase : ConsumerPhase

/-- The logs hold item ids: in the order in which they were enqueued, dequeued
and had a `Decision` recorded for them. -/
structure DecisionPool where
  store : Store
  consumers : KeyedTable DecisionConsumer.number
  enqueued : List String
  dequeued : List String
  recorded : List String

/-- The statements of `process_one` after its first `SELECT`. -/
inductive ConsumerStatement where
  | updateItem
  | getRun
  | getTask
  | listEvaluations
  | createDecision (decisionId : String)
  | completeDecision
  | raise
  | crash

/-- `writeTables` stands for the status writes of `process_one` and for all
other writers: none of them touches the queue. -/
inductive DecisionEvent where
  | writeTables (tables : Store)
  | enqueueDecision (id runId taskId evaluationId : String) (priority createdAt : Int)
  | selectItem (consumer : Nat)
  | execute (consumer : Nat) (now : Int) (statement : ConsumerStatement)

namespace DecisionPool

def initial (store : Store) : DecisionPool where
  store := { store with decisionQueue := KeyedTable.empty _ }
  consumers := KeyedTable.empty _
  enqueued := []
  dequeued := []
  recorded := []

variable (pool : DecisionPool)

def enterPhase (consumer : Nat) (phase : ConsumerPhase) : DecisionPool :=
  { pool with
    consumers := pool.consumers.updateAt consumer
      ⟨fun row => { row with phase }, fun _ => rfl⟩ }

def leave (consumer : Nat) : DecisionPool :=
  { pool with consumers := pool.consumers.deleteAt consumer }

def completeWith (consumer : DecisionConsumer)
    (status : DecisionItemStatus) (now : Int) : DecisionPool :=
  leave
    { pool with
      store := pool.store.completeDecision consumer.item.id status now }
    consumer.number

def executeStatement (decider : Decider) (pool : DecisionPool)
    (consumer : DecisionConsumer) (now : Int)
    (statement : ConsumerStatement) : Option DecisionPool :=
  match statement, consumer.phase with
  | .updateItem, .selected =>
    some
      { pool.enterPhase consumer.number .dequeued with
        store := pool.store.markDecisionProcessing consumer.item.id now
        dequeued := pool.dequeued ++ [consumer.item.id] }
  | .getRun, .dequeued =>
    some <| pool.enterPhase consumer.number (.runRead (pool.store.getRun consumer.item.runId))
  | .getTask, .runRead run =>
    some <| pool.enterPhase consumer.number
      (match run, pool.store.getTask consumer.item.taskId with
      | some run, some task => .referencesRead run task
      | _, _ => .refused)
  | .listEvaluations, .referencesRead run task =>
    let evaluations := pool.store.listEvaluations consumer.item.runId
    some <| pool.enterPhase consumer.number
      (match evaluations.find? fun evaluation => evaluation.id = consumer.item.evaluationId with
      | some evaluation => .evaluationRead run task evaluation
      | none => .refused)
  | .createDecision decisionId, .evaluationRead run task evaluation =>
    let result := decider evaluation.toAnalysis run task
    some
      { pool.enterPhase consumer.number .recorded with
        store := pool.store.createDecision
          { id := decisionId, runId := run.id, action := result.action
            rationale := result.rationale, createdAt := now }
        recorded := pool.recorded ++ [consumer.item.id] }
  | .completeDecision, .recorded => some (pool.completeWith consumer .completed now)
  | .completeDecision, .refused => some (pool.completeWith consumer .failed now)
  -- Nothing catches an exception inside `dequeue_decision`.
  | .raise, .selected => some (pool.leave consumer.number)
  | .raise, _ => some (pool.completeWith consumer .failed now)
  | .crash, _ => some (pool.leave consumer.number)
  | _, _ => none

def step (decider : Decider) (pool : DecisionPool) :
    DecisionEvent → Option DecisionPool
  | .writeTables tables =>
    some
      { pool with
        store :=
          { tables with
            decisionQueue := pool.store.decisionQueue, decisions := pool.store.decisions } }
  | .enqueueDecision id runId taskId evaluationId priority createdAt =>
    (pool.store.enqueueDecision
      { id, runId, taskId, evaluationId, priority, createdAt }).map
        fun store => { pool with store, enqueued := pool.enqueued ++ [id] }
  | .selectItem number =>
    match pool.store.selectPendingDecision with
    | none => some pool
    | some item =>
      (pool.consumers.insert? { number, item, phase := .selected }).map
        fun consumers => { pool with consumers }
  | .execute number now statement =>
    (pool.consumers.lookup number).bind fun consumer =>
      pool.executeStatement decider consumer now statement

/-- The `UPDATE` of `dequeue_decision` finds its item still pending. -/
def UpdatesPendingItem (pool : DecisionPool) : DecisionEvent → Prop
  | .execute number _ .updateItem =>
    ∀ consumer ∈ pool.consumers.rows, consumer.number = number →
      ∀ item ∈ pool.store.decisionQueue.rows,
        item.id = consumer.item.id → item.status = .pending
  | _ => True

/-- Every enqueued item is stored, and it is pending as long as nobody has
dequeued it; a consumer selects a first pending item, and none only when
nothing is pending. -/
def NothingSkipped : Prop :=
  (∀ id ∈ pool.enqueued, ∃ item ∈ pool.store.decisionQueue.rows,
    item.id = id ∧ (id ∉ pool.dequeued → item.status = .pending)) ∧
    match pool.store.selectPendingDecision with
    | none => ∀ item ∈ pool.store.decisionQueue.rows, item.status ≠ .pending
    | some item =>
      item.status = .pending ∧
        ∀ other ∈ pool.store.decisionQueue.rows,
          other.status = .pending → Store.QueueOrder item other

def openCount (id : String) : Nat :=
  pool.consumers.rows.countP fun consumer => consumer.item.id = id && consumer.phase.undecided

structure Sound (pool : DecisionPool) : Prop where
  pendingIff : ∀ item ∈ pool.store.decisionQueue.rows,
    item.status = .pending ↔ item.id ∉ pool.dequeued
  enqueuedStored : ∀ id ∈ pool.enqueued, ∃ item ∈ pool.store.decisionQueue.rows, item.id = id
  dequeuedStored : ∀ id ∈ pool.dequeued, ∃ item ∈ pool.store.decisionQueue.rows, item.id = id
  selectedStored : ∀ consumer ∈ pool.consumers.rows,
    ∃ item ∈ pool.store.decisionQueue.rows, item.id = consumer.item.id
  dequeuedHeld : ∀ consumer ∈ pool.consumers.rows,
    consumer.phase.hasDequeued = true → consumer.item.id ∈ pool.dequeued
  recordedWithin : ∀ id, pool.recorded.count id + pool.openCount id ≤ pool.dequeued.count id

theorem initial_sound (store : Store) : (initial store).Sound := by
  refine ⟨?_, ?_, ?_, ?_, ?_, ?_⟩
  · intro item member
    cases member
  · intro id member
    cases member
  · intro id member
    cases member
  · intro consumer member
    cases member
  · intro consumer member
    cases member
  · intro id
    exact Nat.le_refl 0

variable {pool : DecisionPool} {consumer : DecisionConsumer}

variable {number : Nat} {decider : Decider} {next : DecisionPool} {now : Int}
  {statement : ConsumerStatement}

theorem openCount_enterPhase (found : pool.consumers.lookup number = some consumer)
    (phase : ConsumerPhase) (id : String) :
    (pool.enterPhase number phase).openCount id +
        (if (consumer.item.id = id && consumer.phase.undecided) = true then 1
          else 0) =
      pool.openCount id +
        (if (consumer.item.id = id && phase.undecided) = true then 1
          else 0) := by
  obtain ⟨before, after, split, others⟩ := KeyedTable.exists_split_of_lookup found
  have own := (pool.consumers.lookup_eq_some_iff.mp found).2
  have moved : (pool.enterPhase number phase).consumers.rows =
      before ++ { consumer with phase } :: after :=
    KeyedTable.rows_updateAt _ own split others
  simp only [openCount, moved, split, countP_append, countP_cons]
  omega

theorem pendingIff_updateAt {queue : KeyedTable DecisionQueueItem.id} {dequeued later : List String}
    {itemId : String} {update : RowUpdate DecisionQueueItem.id}
    (pendingIff : ∀ item ∈ queue.rows,
      item.status = .pending ↔ item.id ∉ dequeued)
    (settles : ∀ item, (update.apply item).status ≠ .pending)
    (own : itemId ∈ later)
    (others : ∀ id, id ≠ itemId → (id ∈ later ↔ id ∈ dequeued)) :
    ∀ item ∈ (queue.updateAt itemId update).rows,
      item.status = .pending ↔ item.id ∉ later := by
  intro item member
  obtain ⟨earlier, earlierMember, rfl⟩ := KeyedTable.mem_updateAt.mp member
  by_cases same : earlier.id = itemId
  · rw [if_pos same, update.keepsKey, same]
    exact iff_of_false (settles earlier) (not_not.mpr own)
  · rw [if_neg same, others earlier.id same]
    exact pendingIff earlier earlierMember

theorem Sound.enterPhase (sound : pool.Sound) (found : pool.consumers.lookup number = some consumer)
    {phase : ConsumerPhase}
    (dequeued : consumer.phase.hasDequeued = true)
    (open? : phase.undecided = true → consumer.phase.undecided = true) :
    (pool.enterPhase number phase).Sound := by
  have known := (pool.consumers.lookup_eq_some_iff.mp found).1
  have images : ∀ moved ∈ (pool.enterPhase number phase).consumers.rows,
      ∃ earlier ∈ pool.consumers.rows, moved.item = earlier.item ∧ (moved.phase.hasDequeued = true →
          earlier.phase.hasDequeued = true) := by
    intro moved member
    obtain ⟨earlier, earlierMember, rfl⟩ := KeyedTable.mem_updateAt.mp member
    by_cases same : earlier.number = number
    · have own := (pool.consumers.lookup_eq_some_iff.mp found).2
      have sameConsumer := pool.consumers.eq_of_key_eq earlierMember known (same.trans own.symm)
      refine ⟨earlier, earlierMember, ?_, fun _ => sameConsumer ▸ dequeued⟩
      rw [if_pos same]
    · refine ⟨earlier, earlierMember, ?_, ?_⟩
      · rw [if_neg same]
      · rw [if_neg same]
        exact id
  refine ⟨sound.pendingIff, sound.enqueuedStored, sound.dequeuedStored, ?_, ?_, ?_⟩
  · intro moved member
    obtain ⟨earlier, earlierMember, sameItem, _⟩ := images moved member
    rw [sameItem]
    exact sound.selectedStored earlier earlierMember
  · intro moved member phaseDequeued
    obtain ⟨earlier, earlierMember, sameItem, same⟩ := images moved member
    rw [sameItem]
    exact sound.dequeuedHeld earlier earlierMember (same phaseDequeued)
  · intro id
    have moved := openCount_enterPhase found phase id
    have within := sound.recordedWithin id
    have fewer : (if (consumer.item.id = id && phase.undecided) = true then 1
        else 0) ≤
        if (consumer.item.id = id && consumer.phase.undecided) = true then 1
        else 0 := by
      by_cases stillOpen : phase.undecided = true
      · rw [stillOpen, open? stillOpen]
      · simp [stillOpen]
    change pool.recorded.count id + _ ≤ pool.dequeued.count id
    omega

theorem Sound.leave (sound : pool.Sound) (number : Nat) : (pool.leave number).Sound := by
  have remains : ∀ consumer ∈ (pool.leave number).consumers.rows, consumer ∈ pool.consumers.rows :=
    fun consumer member => (KeyedTable.mem_deleteAt.mp member).1
  refine ⟨sound.pendingIff, sound.enqueuedStored, sound.dequeuedStored, ?_, ?_, ?_⟩
  · intro consumer member
    exact sound.selectedStored consumer (remains consumer member)
  · intro consumer member
    exact sound.dequeuedHeld consumer (remains consumer member)
  · intro id
    have fewer : (pool.leave number).openCount id ≤ pool.openCount id :=
      filter_sublist.countP_le
    have within := sound.recordedWithin id
    change pool.recorded.count id + _ ≤ pool.dequeued.count id
    omega

theorem Sound.completeWith (sound : pool.Sound) (known : consumer ∈ pool.consumers.rows)
    (dequeued : consumer.phase.hasDequeued = true)
    {status : DecisionItemStatus} (settled : status ≠ .pending) (now : Int) :
    (pool.completeWith consumer status now).Sound := by
  have own : consumer.item.id ∈ pool.dequeued := sound.dequeuedHeld consumer known dequeued
  have completed : ({ pool with
      store := pool.store.completeDecision consumer.item.id status now } :
        DecisionPool).Sound := by
    refine ⟨?_, ?_, ?_, ?_, sound.dequeuedHeld, sound.recordedWithin⟩
    · exact pendingIff_updateAt sound.pendingIff (fun _ => settled) own fun _ _ => .rfl
    · intro id member
      exact KeyedTable.exists_key_updateAt.mpr (sound.enqueuedStored id member)
    · intro id member
      exact KeyedTable.exists_key_updateAt.mpr (sound.dequeuedStored id member)
    · intro other member
      exact KeyedTable.exists_key_updateAt.mpr (sound.selectedStored other member)
  exact completed.leave consumer.number

theorem Sound.updateItem (sound : pool.Sound)
    (found : pool.consumers.lookup consumer.number = some consumer)
    (selected : consumer.phase = .selected) (now : Int) :
    ({ pool.enterPhase consumer.number .dequeued with
        store := pool.store.markDecisionProcessing consumer.item.id now
        dequeued := pool.dequeued ++ [consumer.item.id] } :
      DecisionPool).Sound := by
  have known := (pool.consumers.lookup_eq_some_iff.mp found).1
  refine ⟨?_, ?_, ?_, ?_, ?_, ?_⟩
  · apply pendingIff_updateAt sound.pendingIff
    · intro item
      simp
    · simp
    · intro id different
      simp [different]
  · intro id member
    exact KeyedTable.exists_key_updateAt.mpr (sound.enqueuedStored id member)
  · intro id member
    apply KeyedTable.exists_key_updateAt.mpr
    rcases mem_append.mp member with earlier | added
    · exact sound.dequeuedStored id earlier
    · rw [mem_singleton.mp added]
      exact sound.selectedStored consumer known
  · intro moved member
    apply KeyedTable.exists_key_updateAt.mpr
    obtain ⟨earlier, earlierMember, rfl⟩ := KeyedTable.mem_updateAt.mp member
    obtain ⟨item, itemMember, same⟩ := sound.selectedStored earlier earlierMember
    refine ⟨item, itemMember, ?_⟩
    rw [same]
    split <;> rfl
  · intro moved member phaseDequeued
    obtain ⟨earlier, earlierMember, rfl⟩ := KeyedTable.mem_updateAt.mp member
    by_cases same : earlier.number = consumer.number
    · have sameConsumer := pool.consumers.eq_of_key_eq earlierMember known same
      rw [if_pos same, sameConsumer]
      exact mem_append_right _ (mem_singleton_self _)
    · rw [if_neg same] at phaseDequeued ⊢
      exact mem_append_left _ (sound.dequeuedHeld earlier earlierMember phaseDequeued)
  · intro id
    have moved := openCount_enterPhase found .dequeued id
    have within := sound.recordedWithin id
    have counted : (pool.dequeued ++ [consumer.item.id]).count id =
        pool.dequeued.count id + if consumer.item.id = id then 1 else 0 := by
      rw [count_append, count_singleton]
      simp
    simp only [selected, ConsumerPhase.undecided, Bool.and_false,
      Bool.false_eq_true, if_false, Bool.and_true, decide_eq_true_eq] at moved
    change pool.recorded.count id + _ ≤ (pool.dequeued ++ [consumer.item.id]).count id
    rw [counted]
    change pool.recorded.count id + (pool.enterPhase consumer.number .dequeued).openCount id ≤ _
    omega

theorem Sound.createDecision (sound : pool.Sound)
    (found : pool.consumers.lookup consumer.number = some consumer)
    (undecided : consumer.phase.undecided = true)
    (dequeued : consumer.phase.hasDequeued = true) (decision : Decision) :
    ({ pool.enterPhase consumer.number .recorded with
        store := pool.store.createDecision decision
        recorded := pool.recorded ++ [consumer.item.id] } :
      DecisionPool).Sound := by
  have entered : (pool.enterPhase consumer.number .recorded).Sound :=
    sound.enterPhase found dequeued nofun
  refine ⟨entered.pendingIff, entered.enqueuedStored, entered.dequeuedStored,
    entered.selectedStored, entered.dequeuedHeld, ?_⟩
  intro id
  have moved := openCount_enterPhase found .recorded id
  have within := sound.recordedWithin id
  have counted : (pool.recorded ++ [consumer.item.id]).count id =
      pool.recorded.count id + if consumer.item.id = id then 1 else 0 := by
    rw [count_append, count_singleton]
    simp
  simp only [undecided, Bool.and_true, decide_eq_true_eq] at moved
  simp only [ConsumerPhase.undecided, Bool.and_false, Bool.false_eq_true, if_false] at moved
  change (pool.recorded ++ [consumer.item.id]).count id +
    (pool.enterPhase consumer.number .recorded).openCount id ≤ pool.dequeued.count id
  rw [counted]
  omega

theorem Sound.selectItem (sound : pool.Sound)
    (stored : consumer.item ∈ pool.store.decisionQueue.rows)
    (selected : consumer.phase = .selected)
    {consumers : KeyedTable DecisionConsumer.number}
    (inserted : pool.consumers.insert? consumer = some consumers) :
    ({ pool with consumers } : DecisionPool).Sound := by
  have rows := KeyedTable.rows_of_insert? inserted
  refine ⟨sound.pendingIff, sound.enqueuedStored, sound.dequeuedStored, ?_, ?_, ?_⟩
  · intro other member
    simp only [rows, mem_append, mem_singleton] at member
    rcases member with earlier | rfl
    · exact sound.selectedStored other earlier
    · exact ⟨other.item, stored, rfl⟩
  · intro other member phaseDequeued
    simp only [rows, mem_append, mem_singleton] at member
    rcases member with earlier | rfl
    · exact sound.dequeuedHeld other earlier phaseDequeued
    · rw [selected] at phaseDequeued
      cases phaseDequeued
  · intro id
    have within := sound.recordedWithin id
    have sameCount : ({ pool with consumers } : DecisionPool).openCount id = pool.openCount id := by
      simp [openCount, rows, selected, ConsumerPhase.undecided]
    change pool.recorded.count id + _ ≤ pool.dequeued.count id
    rw [sameCount]
    exact within

theorem Sound.enqueueDecision (sound : pool.Sound)
    {item : DecisionQueueItem} (pending : item.status = .pending)
    {decisionQueue : KeyedTable DecisionQueueItem.id}
    (inserted : pool.store.decisionQueue.insert? item = some decisionQueue) :
    ({ pool with
        store := { pool.store with decisionQueue }
        enqueued := pool.enqueued ++ [item.id] } : DecisionPool).Sound := by
  have rows := KeyedTable.rows_of_insert? inserted
  have fresh : item.id ∉ pool.dequeued := by
    intro used
    have refused := KeyedTable.insert?_eq_none_iff _ |>.mpr (sound.dequeuedStored item.id used)
    rw [refused] at inserted
    cases inserted
  have stillStored : ∀ id, (∃ row ∈ pool.store.decisionQueue.rows, row.id = id) →
        ∃ row ∈ decisionQueue.rows, row.id = id := by
    rintro id ⟨row, member, same⟩
    exact ⟨row, by simp [rows, member], same⟩
  refine ⟨?_, ?_, ?_, ?_, sound.dequeuedHeld, sound.recordedWithin⟩
  · intro row member
    simp only [rows, mem_append, mem_singleton] at member
    rcases member with earlier | rfl
    · exact sound.pendingIff row earlier
    · exact iff_of_true pending fresh
  · intro id member
    rcases mem_append.mp member with earlier | added
    · exact stillStored id (sound.enqueuedStored id earlier)
    · exact ⟨item, by simp [rows], (mem_singleton.mp added).symm⟩
  · intro id member
    exact stillStored id (sound.dequeuedStored id member)
  · intro consumer member
    exact stillStored _ (sound.selectedStored consumer member)

theorem Sound.executeStatement (sound : pool.Sound)
    (found : pool.consumers.lookup consumer.number = some consumer)
    (taken : pool.executeStatement decider consumer now statement = some next) :
    next.Sound := by
  have known := (pool.consumers.lookup_eq_some_iff.mp found).1
  unfold DecisionPool.executeStatement at taken
  split at taken
  next selected =>
    cases taken
    exact sound.updateItem found selected now
  next dequeued =>
    cases taken
    exact sound.enterPhase found (by rw [dequeued]; rfl) fun _ => by rw [dequeued]; rfl
  next run read =>
    cases taken
    exact sound.enterPhase found (by rw [read]; rfl) fun _ => by rw [read]; rfl
  next run task read =>
    cases taken
    exact sound.enterPhase found (by rw [read]; rfl) fun _ => by rw [read]; rfl
  next decisionId run task evaluation read =>
    cases taken
    exact sound.createDecision found (by rw [read]; rfl) (by rw [read]; rfl) _
  next recorded =>
    cases taken
    have settled : DecisionItemStatus.completed ≠ .pending := by decide
    exact sound.completeWith known (by rw [recorded]; rfl) settled now
  next refused =>
    cases taken
    have settled : DecisionItemStatus.failed ≠ .pending := by decide
    exact sound.completeWith known (by rw [refused]; rfl) settled now
  · cases taken
    exact sound.leave consumer.number
  next notSelected =>
    cases taken
    have dequeued : consumer.phase.hasDequeued = true := by
      cases phase : consumer.phase with
      | selected => exact absurd phase notSelected
      | _ => rfl
    have settled : DecisionItemStatus.failed ≠ .pending := by decide
    exact sound.completeWith known dequeued settled now
  · cases taken
    exact sound.leave consumer.number
  · cases taken

theorem step_sound (decider : Decider) (pool : DecisionPool) (event : DecisionEvent)
    (next : DecisionPool) (sound : pool.Sound)
    (taken : pool.step decider event = some next) :
    next.Sound := by
  cases event with
  | writeTables _ =>
    cases taken
    exact ⟨sound.pendingIff, sound.enqueuedStored, sound.dequeuedStored,
      sound.selectedStored, sound.dequeuedHeld, sound.recordedWithin⟩
  | enqueueDecision _ _ _ _ _ _ =>
    simp only [step, Store.enqueueDecision, Option.map_map, Option.map_eq_some_iff] at taken
    obtain ⟨_, inserted, rfl⟩ := taken
    exact sound.enqueueDecision rfl inserted
  | selectItem _ =>
    simp only [step] at taken
    split at taken
    · cases taken
      exact sound
    next item selected =>
      obtain ⟨consumers, inserted, rfl⟩ := Option.map_eq_some_iff.mp taken
      exact sound.selectItem (Store.selectPendingDecision_first selected).1.1
        rfl inserted
  | execute _ _ _ =>
    obtain ⟨_, found, executed⟩ := bind_eq_some_iff.mp taken
    obtain ⟨_, rfl⟩ := pool.consumers.lookup_eq_some_iff.mp found
    exact sound.executeStatement found executed

theorem executeStatement_dequeued (sound : pool.Sound)
    (found : pool.consumers.lookup consumer.number = some consumer)
    (taken : pool.executeStatement decider consumer now statement = some next) :
    (next.dequeued = pool.dequeued ∧
        pool.UpdatesPendingItem (.execute consumer.number now statement)) ∨
      ∃ id, next.dequeued = pool.dequeued ++ [id] ∧
        (pool.UpdatesPendingItem (.execute consumer.number now statement) ↔
          id ∉ pool.dequeued) := by
  have known := (pool.consumers.lookup_eq_some_iff.mp found).1
  unfold executeStatement at taken
  split at taken
  next selected =>
    cases taken
    refine .inr ⟨consumer.item.id, rfl, ?_⟩
    constructor
    · intro pending
      obtain ⟨item, member, same⟩ := sound.selectedStored consumer known
      rw [← same]
      exact (sound.pendingIff item member).mp (pending consumer known rfl item member same)
    · intro fresh other otherMember own item member same
      have sameConsumer := pool.consumers.eq_of_key_eq otherMember known own
      apply (sound.pendingIff item member).mpr
      rw [same, sameConsumer]
      exact fresh
  all_goals
    cases taken
    try exact .inl ⟨rfl, trivial⟩

theorem step_dequeued (decider : Decider) (pool : DecisionPool) (event : DecisionEvent)
    (next : DecisionPool) (sound : pool.Sound)
    (taken : pool.step decider event = some next) :
    (next.dequeued = pool.dequeued ∧ pool.UpdatesPendingItem event) ∨
      ∃ id, next.dequeued = pool.dequeued ++ [id] ∧
        (pool.UpdatesPendingItem event ↔ id ∉ pool.dequeued) := by
  cases event with
  | writeTables _ =>
    cases taken
    exact .inl ⟨rfl, trivial⟩
  | enqueueDecision _ _ _ _ _ _ =>
    obtain ⟨_, _, rfl⟩ := Option.map_eq_some_iff.mp taken
    exact .inl ⟨rfl, trivial⟩
  | selectItem _ =>
    simp only [step] at taken
    split at taken
    · cases taken
      exact .inl ⟨rfl, trivial⟩
    · obtain ⟨consumers, _, rfl⟩ := Option.map_eq_some_iff.mp taken
      exact .inl ⟨rfl, trivial⟩
  | execute _ _ _ =>
    obtain ⟨_, found, executed⟩ := bind_eq_some_iff.mp taken
    obtain ⟨_, rfl⟩ := pool.consumers.lookup_eq_some_iff.mp found
    exact executeStatement_dequeued sound found executed

theorem Sound.nothingSkipped (sound : pool.Sound) :
    pool.NothingSkipped := by
  refine ⟨?_, ?_⟩
  · intro id enqueued
    obtain ⟨item, member, rfl⟩ := sound.enqueuedStored id enqueued
    exact ⟨item, member, rfl, (sound.pendingIff item member).mpr⟩
  · cases selected : pool.store.selectPendingDecision with
    | none => exact Store.selectPendingDecision_eq_none_iff.mp selected
    | some _ =>
      obtain ⟨⟨_, pending⟩, first⟩ := Store.selectPendingDecision_first selected
      exact ⟨pending, first⟩

theorem Sound.recorded_nodup (sound : pool.Sound)
    (once : pool.dequeued.Nodup) : pool.recorded.Nodup := by
  apply nodup_iff_count_le_one.mpr
  intro id
  have within := sound.recordedWithin id
  have atMostOnce := nodup_iff_count_le_one.mp once id
  omega

/-- Every item is dequeued at most once and at most one decision is recorded
for it, and no item is skipped. -/
def DecidesOnce (pool : DecisionPool) : Prop :=
  pool.dequeued.Nodup ∧ pool.recorded.Nodup ∧ pool.NothingSkipped

/-- A run decides every item at most once exactly when each of its dequeuing
`UPDATE`s finds the item still pending. -/
theorem decidesOnce_iff_updates_pending
    (decider : Decider) (store : Store) (events : List DecisionEvent)
    (pool : DecisionPool)
    (run : runEvents (step decider) (initial store) events = some pool) :
    pool.DecidesOnce ↔ StepsMeet (step decider) UpdatesPendingItem (initial store) events := by
  have sound : pool.Sound := runEvents_invariant (step_sound decider) (initial_sound store) run
  have once : pool.dequeued.Nodup ↔
      StepsMeet (step decider) UpdatesPendingItem (initial store) events :=
    nodup_log_iff_of_invariant dequeued (step_sound decider)
      (step_dequeued decider) (initial_sound store) nodup_nil run
  constructor
  · rintro ⟨dequeuedOnce, _, _⟩
    exact once.mp dequeuedOnce
  · intro meets
    have dequeuedOnce := once.mpr meets
    exact ⟨dequeuedOnce, sound.recorded_nodup dequeuedOnce, sound.nothingSkipped⟩

instance (pool : DecisionPool) (event : DecisionEvent) :
    Decidable (pool.UpdatesPendingItem event) :=
  match event with
  | .execute number _ .updateItem =>
    inferInstanceAs <| Decidable <| ∀ consumer ∈ pool.consumers.rows, consumer.number = number →
        ∀ item ∈ pool.store.decisionQueue.rows,
          item.id = consumer.item.id → item.status = .pending
  | .execute _ _ .getRun | .execute _ _ .getTask
  | .execute _ _ .listEvaluations | .execute _ _ (.createDecision _)
  | .execute _ _ .completeDecision | .execute _ _ .raise
  | .execute _ _ .crash | .writeTables _ | .enqueueDecision ..
  | .selectItem _ => inferInstanceAs (Decidable True)

def waitingStore : Store where
  tasks := .single { id := "task", projectId := "project", status := .active }
  runs := .single { id := "run", taskId := "task", status := .deciding, attempt := 1 }
  evaluations := [{ id := "evaluation", runId := "run", verdict := .failed }]

/-- The statements from the `UPDATE` to the end of one `process_one`. -/
def decidingStatements (consumer : Nat) (decisionId : String) : List DecisionEvent :=
  [.execute consumer 2 .updateItem, .execute consumer 3 .getRun,
    .execute consumer 4 .getTask, .execute consumer 5 .listEvaluations,
    .execute consumer 6 (.createDecision decisionId),
    .execute consumer 7 .completeDecision]

def turnsTaken : List DecisionEvent :=
  [.enqueueDecision "item" "run" "task" "evaluation" 100 1, .selectItem 0] ++
    decidingStatements 0 "decision" ++ [.selectItem 1]

theorem decidesOnce_when_turns_are_taken :
    ∃ pool, runEvents (step DefaultDecider.decide) (initial waitingStore)
          turnsTaken = some pool ∧
        pool.recorded = ["item"] ∧ pool.DecidesOnce := by
  have performed :
      (runEvents (step DefaultDecider.decide) (initial waitingStore)
        turnsTaken).any fun pool => pool.recorded = ["item"] := by
    decide
  obtain ⟨pool, run, recorded⟩ := (any_eq_true _ _).mp performed
  have once := decidesOnce_iff_updates_pending DefaultDecider.decide
    waitingStore turnsTaken pool run
  exact ⟨pool, run, of_decide_eq_true recorded, once.mpr (by decide)⟩

def selectedTwice : List DecisionEvent :=
  [.enqueueDecision "item" "run" "task" "evaluation" 100 1, .selectItem 0, .selectItem 1] ++
    decidingStatements 0 "first" ++ decidingStatements 1 "second"

theorem item_decided_twice :
    ¬ ∀ decider store events pool, runEvents (step decider) (initial store) events = some pool →
        pool.DecidesOnce := by
  intro decidesOnce
  have performed :
      (runEvents (step DefaultDecider.decide) (initial waitingStore)
        selectedTwice).any fun pool =>
          pool.recorded = ["item", "item"] := by
    decide
  obtain ⟨pool, run, recorded⟩ := (any_eq_true _ _).mp performed
  have once := (decidesOnce DefaultDecider.decide waitingStore selectedTwice pool run).2.1
  rw [of_decide_eq_true recorded] at once
  exact absurd once (by decide)

end DecisionPool

end AccruviaHarness
