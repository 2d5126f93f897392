import AccruviaHarness.Services.OutageAttempts
import AccruviaHarness.Services.QueueProgress

/-!
# Batches of the task queue

`process_queue` calls `process_next_task` as often as its limit says and
excludes the tasks that it has run.
-/

namespace AccruviaHarness

open List

/-- What one call of `process_next_task` finds, and what is written between
its end and the next call. -/
structure BatchCall where
  now : Int
  llmAvailable : Bool := true
  answers : RunAnswers
  writtenAfter : Store → Store := id

structure QueueBatchArguments where
  limit : Int
  projectId : Option String := none
  workerId : String := "local-worker"
  leaseSeconds : Int := 3600
  calls : Nat → BatchCall

structure TaskResult where
  task : Task
  runs : List Run

/-- The store, with the local variables of `process_queue`. -/
structure QueueBatch where
  store : Store
  processed : List TaskResult := []
  seenTaskIds : List String := []

inductive BatchRound where
  | goesOn (next : QueueBatch)
  | stops (last : QueueBatch)
  | raises (last : QueueBatch) (error : PyError)

namespace QueueService

section

variable (arguments : QueueBatchArguments) (batch : QueueBatch)

def callOf : BatchCall := arguments.calls batch.processed.length

def requestOf : DispatchRequest where
  now := (callOf arguments batch).now
  workerId := arguments.workerId
  leaseSeconds := arguments.leaseSeconds
  projectId := arguments.projectId
  excludeTaskIds := batch.seenTaskIds
  llmAvailable := (callOf arguments batch).llmAvailable
  answers := (callOf arguments batch).answers

/-- `result["task"].id`, which the result of a closed gate has not. -/
def round : BatchRound :=
  match processNextTask batch.store (requestOf arguments batch) with
  | (store, .idle) => .stops { batch with store }
  | (store, .outOfFuel) => .stops { batch with store }
  | (store, .raised error) => .raises { batch with store } error
  | (store, .gateBlocked) => .raises { batch with store } (.keyError "task")
  | (store, .processed none _) =>
    .raises { batch with store } (.attributeError "'NoneType' object has no attribute 'id'")
  | (store, .processed (some task) run) =>
    .goesOn
      { store := (callOf arguments batch).writtenAfter store
        processed := batch.processed ++ [{ task, runs := [run] }]
        seenTaskIds := task.id :: batch.seenTaskIds }

/-- The loop over `range(limit)`. -/
def batchRounds :
    Nat → QueueBatch → Store × Except PyError (List TaskResult)
  | 0, batch => (batch.store, .ok batch.processed)
  | left + 1, batch =>
    match round arguments batch with
    | .goesOn next => batchRounds left next
    | .stops last => (last.store, .ok last.processed)
    | .raises last error => (last.store, .error error)

def processQueue (store : Store) : Store × Except PyError (List TaskResult) :=
  batchRounds arguments arguments.limit.toNat { store }

/-! ## The rounds -/

def batchBefore (store : Store) : Nat → Option QueueBatch
  | 0 => some { store }
  | index + 1 =>
    match (batchBefore store index).map (round arguments) with
    | some (.goesOn next) => some next
    | _ => none

def answerAt (store : Store) (index : Nat) : Option DispatchResult :=
  (batchBefore arguments store index).map fun batch =>
    (processNextTask batch.store (requestOf arguments batch)).2

variable {store : Store}

theorem batchBefore_succ_of_goesOn {arguments : QueueBatchArguments} {index : Nat}
    {batch next : QueueBatch}
    (before : batchBefore arguments store index = some batch)
    (goesOn : round arguments batch = .goesOn next) :
    batchBefore arguments store (index + 1) = some next := by
  simp [batchBefore, before, goesOn]

theorem answerAt_of_before {arguments : QueueBatchArguments} {index : Nat} {batch : QueueBatch}
    (before : batchBefore arguments store index = some batch) :
    answerAt arguments store index =
      some (processNextTask batch.store (requestOf arguments batch)).2 := by
  simp [answerAt, before]

theorem batchBefore_isSome_of_le {arguments : QueueBatchArguments} {earlier later : Nat}
    (le : earlier ≤ later)
    (reached : (batchBefore arguments store later).isSome) :
    (batchBefore arguments store earlier).isSome := by
  induction le with
  | refl => exact reached
  | @step later _ ih =>
    apply ih
    cases before : batchBefore arguments store later with
    | some _ => rfl
    | none => simp [batchBefore, before] at reached

end

/-! ## One round -/

structure Tracks (batch : QueueBatch) (count : Nat) : Prop where
  length : batch.processed.length = count
  seen : ∀ result ∈ batch.processed, result.task.id ∈ batch.seenTaskIds
  distinct : (batch.processed.map fun result => result.task.id).Nodup

theorem Tracks.start (store : Store) : Tracks { store } 0 where
  length := rfl
  seen result member := by cases member
  distinct := nodup_nil

variable {store : Store} {request : DispatchRequest} {stored : Option Task} {run : Run}

theorem runLeased_processed {task : Task}
    (answer : (runLeased store task request).2 = .processed stored run) :
    ∃ kept, stored = some kept ∧ kept.id = task.id := by
  unfold runLeased at answer
  rcases ended : RunService.runOnce store task.id request.answers with
    ⟨_, _ | _⟩
  · simp [ended] at answer
  · simp only [ended, DispatchResult.processed.injEq] at answer
    obtain ⟨current, _, runnable⟩ := RunService.runnable_of_ok ended
    obtain ⟨_, _, again, _, leaves⟩ := runnable.ends
    rw [ended] at again
    cases again
    have kept := leaves.getTask runnable.found
    have named : current.id = task.id := ((store.tasks.lookup_eq_some_iff).mp runnable.found).2
    exact ⟨_, answer.1.symm.trans kept, named⟩

theorem runLeased_ne_gateBlocked (store : Store) (task : Task) (request : DispatchRequest) :
    (runLeased store task request).2 ≠ .gateBlocked := by
  unfold runLeased
  rcases RunService.runOnce store task.id request.answers with
    ⟨_, _ | _⟩
  · simp
  · simp

theorem processNextTask_of_closed (closed : request.llmAvailable = false) :
    processNextTask store request = (store, .gateBlocked) := by
  simp [processNextTask, closed]

theorem processNextTask_gateBlocked_iff (store : Store) (request : DispatchRequest) :
    (processNextTask store request).2 = .gateBlocked ↔
      request.llmAvailable = false := by
  constructor
  · intro answer
    by_contra ungated
    rw [Bool.not_eq_false] at ungated
    rcases processNextTask_finds store request ungated with
      ⟨_, _, _, _, outcome⟩ | ⟨_, outcome⟩
    · rw [outcome] at answer
      exact runLeased_ne_gateBlocked _ _ _ answer
    · rw [outcome] at answer
      cases answer
  · intro closed
    rw [processNextTask_of_closed closed]

theorem processed_of_processNextTask
    (answer : (processNextTask store request).2 = .processed stored run) :
    ∃ task, stored = some task ∧ task.id ∉ request.excludeTaskIds := by
  by_cases ungated : request.llmAvailable = true
  · rcases processNextTask_finds store request ungated with
      ⟨_, _, found, _, outcome⟩ | ⟨_, outcome⟩
    · rw [outcome] at answer
      obtain ⟨kept, same, named⟩ := runLeased_processed answer
      refine ⟨kept, same, ?_⟩
      rw [named]
      exact (firstRunnable_first found).1.allowed
    · rw [outcome] at answer
      cases answer
  · rw [Bool.not_eq_true] at ungated
    rw [processNextTask_of_closed ungated] at answer
    cases answer

theorem Tracks.next {batch next : QueueBatch} {count : Nat} (tracks : Tracks batch count)
    {result : TaskResult}
    (processed : next.processed = batch.processed ++ [result])
    (seen : next.seenTaskIds = result.task.id :: batch.seenTaskIds)
    (new : result.task.id ∉ batch.seenTaskIds) : Tracks next (count + 1) where
  length := by rw [processed, length_append, tracks.length]; rfl
  seen other member := by
    rw [processed, mem_append, mem_singleton] at member
    rw [seen, mem_cons]
    rcases member with earlier | rfl
    · exact .inr (tracks.seen other earlier)
    · exact .inl rfl
  distinct := by
    rw [processed, map_append, map_singleton, ← concat_eq_append, nodup_concat]
    refine ⟨?_, tracks.distinct⟩
    intro member
    obtain ⟨other, earlier, same⟩ := mem_map.mp member
    exact new (same ▸ tracks.seen other earlier)

inductive RoundEnds (arguments : QueueBatchArguments) (batch : QueueBatch)
    (count : Nat) : BatchRound → Prop where
  | goesOn {next : QueueBatch} (tracks : Tracks next (count + 1))
      (opened : (callOf arguments batch).llmAvailable = true) :
      RoundEnds arguments batch count (.goesOn next)
  | idle {store : Store} (answer : (processNextTask batch.store
        (requestOf arguments batch)).2 = .idle)
      (opened : (callOf arguments batch).llmAvailable = true) :
      RoundEnds arguments batch count (.stops { batch with store })
  | closed (closed : (callOf arguments batch).llmAvailable = false) :
      RoundEnds arguments batch count (.raises batch (.keyError "task"))

theorem round_ends (arguments : QueueBatchArguments) {batch : QueueBatch} {count : Nat}
    (tracks : Tracks batch count)
    (quiet : ∀ error, (processNextTask batch.store (requestOf arguments batch)).2 ≠ .raised error) :
    RoundEnds arguments batch count (round arguments batch) := by
  by_cases closed : (callOf arguments batch).llmAvailable = false
  · have raises : round arguments batch = .raises batch (.keyError "task") :=
      by
        unfold round
        rw [processNextTask_of_closed closed]
    rw [raises]
    exact .closed closed
  have ungated := closed
  rw [Bool.not_eq_false] at ungated
  have notBlocked := (processNextTask_gateBlocked_iff batch.store
    (requestOf arguments batch)).not.mpr closed
  have ends := processNextTask_ne_outOfFuel batch.store (requestOf arguments batch)
  unfold round
  rcases answer : processNextTask batch.store (requestOf arguments batch) with
    ⟨_, result⟩
  rw [answer] at quiet notBlocked ends
  cases result with
  | gateBlocked => exact absurd rfl notBlocked
  | idle => exact .idle (by rw [answer]) ungated
  | outOfFuel => exact absurd rfl ends
  | raised error => exact absurd rfl (quiet error)
  | processed _ _ =>
    obtain ⟨_, rfl, new⟩ := processed_of_processNextTask (by rw [answer])
    exact .goesOn (tracks.next rfl rfl new) ungated

/-! ## The whole loop -/

section

variable {arguments : QueueBatchArguments} {store : Store}

def NeverRaises (arguments : QueueBatchArguments) (store : Store) : Prop :=
  ∀ index < arguments.limit.toNat, ∀ error, answerAt arguments store index ≠ some (.raised error)

theorem NeverRaises.quiet (quiet : NeverRaises arguments store) {index : Nat} {batch : QueueBatch}
    (inside : index < arguments.limit.toNat)
    (before : batchBefore arguments store index = some batch) :
    ∀ error, (processNextTask batch.store (requestOf arguments batch)).2 ≠ .raised error := by
  intro error raised
  apply quiet index inside error
  rw [answerAt_of_before before, raised]

def GateOpen (arguments : QueueBatchArguments) (store : Store) : Prop :=
  ∀ index < arguments.limit.toNat, (batchBefore arguments store index).isSome →
      (arguments.calls index).llmAvailable = true

/-- At most that many results, no task twice, and none is missing unless the
call after them found no task or a closed gate. -/
structure UpTo (arguments : QueueBatchArguments) (store : Store)
    (limit : Nat) (results : List TaskResult) : Prop where
  atMost : results.length ≤ limit
  distinct : (results.map fun result => result.task.id).Nodup
  early : results.length < limit → answerAt arguments store results.length = some .idle ∨
      answerAt arguments store results.length = some .gateBlocked

variable {batch : QueueBatch} {index : Nat}

theorem callOf_of_tracks (tracks : Tracks batch index) :
    callOf arguments batch = arguments.calls index := by
  unfold callOf
  rw [tracks.length]

theorem batchRounds_upTo (quiet : NeverRaises arguments store) {left : Nat}
    (tracks : Tracks batch index)
    (before : batchBefore arguments store index = some batch)
    (total : index + left = arguments.limit.toNat)
    (opened : GateOpen arguments store) :
    ∃ last results, batchRounds arguments left batch = (last, .ok results) ∧
      UpTo arguments store arguments.limit.toNat results := by
  induction left generalizing index batch with
  | zero =>
    refine ⟨_, _, rfl, ?_, tracks.distinct, ?_⟩
    · exact (tracks.length.trans total).le
    · intro short
      rw [tracks.length] at short
      omega
  | succ left ih =>
    have inside : index < arguments.limit.toNat := by omega
    have ends := round_ends arguments tracks (quiet.quiet inside before)
    have open? : (callOf arguments batch).llmAvailable = true := by
      rw [callOf_of_tracks tracks]
      exact opened index inside (by rw [before]; rfl)
    unfold batchRounds
    generalize ended : round arguments batch = outcome at ends
    cases ends with
    | @goesOn next tracksNext _ =>
      have later := batchBefore_succ_of_goesOn before ended
      exact ih tracksNext later (by omega)
    | idle answer _ =>
      refine ⟨_, _, rfl, ?_, tracks.distinct, ?_⟩
      · rw [tracks.length]
        omega
      · intro _
        left
        rw [tracks.length, answerAt_of_before before, answer]
    | closed closed =>
      rw [closed] at open?
      cases open?

theorem batchRounds_raises (quiet : NeverRaises arguments store) {left later : Nat}
    (tracks : Tracks batch index)
    (before : batchBefore arguments store index = some batch)
    (total : index + left = arguments.limit.toNat)
    (le : index ≤ later) (lt : later < arguments.limit.toNat)
    (reached : (batchBefore arguments store later).isSome)
    (closed : (arguments.calls later).llmAvailable = false) :
    (batchRounds arguments left batch).2 = .error (.keyError "task") := by
  induction left generalizing index batch with
  | zero => omega
  | succ _ ih =>
    have inside : index < arguments.limit.toNat := by omega
    have ends := round_ends arguments tracks (quiet.quiet inside before)
    unfold batchRounds
    generalize ended : round arguments batch = outcome at ends
    have further : index ≠ later → (batchBefore arguments store (index + 1)).isSome := by
      intro different
      exact batchBefore_isSome_of_le (by omega) reached
    cases ends with
    | @goesOn next tracksNext opened =>
      have nextBefore := batchBefore_succ_of_goesOn before ended
      have different : index ≠ later := by
        intro same
        rw [callOf_of_tracks tracks, same, closed] at opened
        cases opened
      exact ih tracksNext nextBefore (by omega) (by omega)
    | idle _ opened =>
      have different : index ≠ later := by
        intro same
        rw [callOf_of_tracks tracks, same, closed] at opened
        cases opened
      have continues := further different
      simp [batchBefore, before, ended] at continues
    | closed _ => rfl

end

/-- What `process_queue` is for. -/
def ProcessesUpToLimit (arguments : QueueBatchArguments) (store : Store) :
    Prop :=
  ∃ results, (processQueue arguments store).2 = .ok results ∧
    UpTo arguments store arguments.limit.toNat results

/-- Where no call raises, a batch ends as it should exactly if no call finds
the gate closed. -/
theorem processQueue_processesUpToLimit_iff (arguments : QueueBatchArguments) (store : Store)
    (quiet : NeverRaises arguments store) :
    ProcessesUpToLimit arguments store ↔ GateOpen arguments store := by
  have tracks := Tracks.start store
  have before : batchBefore arguments store 0 = some { store } := rfl
  have total := Nat.zero_add arguments.limit.toNat
  constructor
  · rintro ⟨results, returned, _⟩ index inside reached
    by_contra closed
    rw [Bool.not_eq_true] at closed
    have raised := batchRounds_raises quiet tracks before total
      (Nat.zero_le index) inside reached closed
    unfold processQueue at returned
    rw [raised] at returned
    cases returned
  · intro opened
    obtain ⟨_, results, returned, upTo⟩ := batchRounds_upTo quiet tracks before total opened
    refine ⟨results, ?_, upTo⟩
    unfold processQueue
    rw [returned]

def closedGateBatch : QueueBatchArguments where
  limit := 1
  calls _ := { now := 0, llmAvailable := false, answers := plainRequest.answers }

theorem not_processesUpToLimit_closedGateBatch :
    NeverRaises closedGateBatch blockedUrgentStore ∧
      ¬ ProcessesUpToLimit closedGateBatch blockedUrgentStore := by
  constructor
  · intro index inside error raised
    obtain rfl : index = 0 := Nat.lt_one_iff.mp inside
    cases raised
  · intro processes
    obtain ⟨_, returned, _⟩ := processes
    cases returned

def openGateBatch : QueueBatchArguments where
  limit := 1
  calls _ := { now := 0, answers := plainRequest.answers }

theorem neverRaises_openGateBatch : NeverRaises openGateBatch blockedUrgentStore := by
  intro index inside error raised
  obtain rfl : index = 0 := Nat.lt_one_iff.mp inside
  cases raised

theorem processQueue_openGateBatch :
    NeverRaises openGateBatch blockedUrgentStore ∧
      (ProcessesUpToLimit openGateBatch blockedUrgentStore ↔
        GateOpen openGateBatch blockedUrgentStore) :=
  ⟨neverRaises_openGateBatch, processQueue_processesUpToLimit_iff openGateBatch blockedUrgentStore
      neverRaises_openGateBatch⟩

end QueueService

end AccruviaHarness
