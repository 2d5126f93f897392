import AccruviaHarness.Reviews.ReviewThreads

/-!
# One reviewer at a time

The threads of a review refine the rounds of `Library.Rounds`, as long as no
call starts a round that another one can still complete, and none takes a round
for stale whose thread is alive.
-/

namespace AccruviaHarness

open Library PromotionReviewBuilder ReviewStateService List

section

variable {objectiveId : String}

def roundsOfType (recordType : String) (nameOf : ContextRecord → String)
    (objectiveId : String) (store : Store) : Set String :=
  { reviewId | ∃ record ∈ roundRecords objectiveId store,
    record.recordType = recordType ∧ nameOf record = reviewId }

def startedRounds : String → Store → Set String :=
  roundsOfType "objective_review_started" startedReviewId

def failedRounds : String → Store → Set String :=
  roundsOfType "objective_review_failed" fun record => record.metadata.getStr "review_id"

structure SameRounds (objectiveId : String) (before after : Store) : Prop where
  started : startedRounds objectiveId after = startedRounds objectiveId before
  failed : failedRounds objectiveId after = failedRounds objectiveId before

variable {store : Store}

theorem SameRounds.rfl : SameRounds objectiveId store store := ⟨Eq.refl _, Eq.refl _⟩

theorem SameRounds.trans {first second third : Store} (one : SameRounds objectiveId first second)
    (two : SameRounds objectiveId second third) :
    SameRounds objectiveId first third :=
  ⟨two.started.trans one.started, two.failed.trans one.failed⟩

theorem sameRounds_of_records {before after : Store}
    (same : roundRecords objectiveId after = roundRecords objectiveId before) :
    SameRounds objectiveId before after := by
  have rounds : ∀ recordType nameOf, roundsOfType recordType nameOf objectiveId after =
        roundsOfType recordType nameOf objectiveId before := by
    intro recordType nameOf
    unfold roundsOfType
    rw [same]
  exact ⟨rounds _ _, rounds _ _⟩

theorem sameRounds_change (change : StoreChange objectiveId) (store : Store) :
    SameRounds objectiveId store (change.apply store) :=
  sameRounds_of_records (change.kept store)

theorem sameRounds_createRemediationTasks
    (identities : Nat → TaskIdentities) (objective : Objective)
    (reviewId : String) (packets : List PyDict) (store : Store) :
    SameRounds objectiveId store
      (stateOf (RemediationService.createRemediationTasks identities objective
        reviewId packets store)) := by
  apply sameRounds_of_records
  unfold roundRecords objectiveRecords
  rw [RemediationService.createRemediationTasks_keeps_contextRecords]

theorem mem_roundRecords_iff {record : ContextRecord} :
    record ∈ roundRecords objectiveId store ↔ record ∈ store.contextRecords ∧
        (objectiveId = "" ∨ record.objectiveId = some objectiveId) ∧
          record.recordType ∈ roundRecordTypes := by
  unfold roundRecords objectiveRecords
  simp [mem_orderBy, and_assoc]

theorem mem_roundRecords_createContextRecord {added record : ContextRecord}
    (owned : added.objectiveId = some objectiveId) :
    record ∈ roundRecords objectiveId (store.createContextRecord added) ↔
      record ∈ roundRecords objectiveId store ∨
        (record = added ∧ added.recordType ∈ roundRecordTypes) := by
  rw [mem_roundRecords_iff, mem_roundRecords_iff]
  unfold Store.createContextRecord
  rw [mem_append, mem_singleton]
  constructor
  · rintro ⟨earlier | rfl, owned, kind⟩
    · exact .inl ⟨earlier, owned, kind⟩
    · exact .inr ⟨rfl, kind⟩
  · rintro (⟨earlier, owned, kind⟩ | ⟨rfl, kind⟩)
    · exact ⟨.inl earlier, owned, kind⟩
    · exact ⟨.inr rfl, .inr owned, kind⟩

section

variable {store : Store} {record : ContextRecord}
  (owned : record.objectiveId = some objectiveId) {recordType : String}
  {nameOf : ContextRecord → String}

include owned

theorem roundsOfType_createContextRecord_of_ne (other : record.recordType ≠ recordType) :
    roundsOfType recordType nameOf objectiveId (store.createContextRecord record) =
      roundsOfType recordType nameOf objectiveId store := by
  ext reviewId
  constructor
  · rintro ⟨found, member, kind, named⟩
    rcases (mem_roundRecords_createContextRecord owned).mp member with
      earlier | ⟨rfl, _⟩
    · exact ⟨found, earlier, kind, named⟩
    · exact absurd kind other
  · rintro ⟨found, member, kind, named⟩
    exact ⟨found, (mem_roundRecords_createContextRecord owned).mpr (.inl member), kind, named⟩

theorem roundsOfType_createContextRecord (kind : record.recordType = recordType)
    (listed : recordType ∈ roundRecordTypes) :
    roundsOfType recordType nameOf objectiveId (store.createContextRecord record) =
      insert (nameOf record) (roundsOfType recordType nameOf objectiveId store) := by
  ext reviewId
  constructor
  · rintro ⟨found, member, foundKind, named⟩
    rcases (mem_roundRecords_createContextRecord owned).mp member with
      earlier | ⟨rfl, _⟩
    · exact .inr ⟨found, earlier, foundKind, named⟩
    · exact .inl named.symm
  · rintro (rfl | ⟨found, member, foundKind, named⟩)
    · exact ⟨record, (mem_roundRecords_createContextRecord owned).mpr
        (.inr ⟨rfl, kind ▸ listed⟩), kind, rfl⟩
    · exact ⟨found, (mem_roundRecords_createContextRecord owned).mpr
        (.inl member), foundKind, named⟩

theorem sameRounds_createContextRecord (unstarted : record.recordType ≠ "objective_review_started")
    (unfailed : record.recordType ≠ "objective_review_failed") :
    SameRounds objectiveId store (store.createContextRecord record) :=
  ⟨roundsOfType_createContextRecord_of_ne owned unstarted,
    roundsOfType_createContextRecord_of_ne owned unfailed⟩

end

theorem getStr_reviewId (reviewId : String) (further : PyDict) :
    PyDict.getStr (("review_id", .str reviewId) :: further) "review_id" =
      reviewId := by
  by_cases empty : reviewId = ""
  · rw [empty]
    rfl
  · simp [PyDict.getStr, PyDict.get, PyValue.orEmpty, PyValue.truthy, empty, PyValue.toStr]

theorem reviewId_mem_startedRounds
    (running : (objectiveReviewState store objectiveId).status = "running") :
    (objectiveReviewState store objectiveId).reviewId ∈ startedRounds objectiveId store := by
  unfold objectiveReviewState at running ⊢
  dsimp only at running ⊢
  cases found : (ofType (objectiveRecords store objectiveId)
      "objective_review_started").getLast? with
  | none =>
    rw [found] at running
    exact absurd running (by simp)
  | some start =>
    have member := mem_filter.mp (mem_of_getLast? found)
    refine ⟨start, mem_filter.mpr ⟨member.1, ?_⟩, of_decide_eq_true member.2, Eq.refl _⟩
    rw [of_decide_eq_true member.2]
    decide

section

variable {store : Store} (objective : ReviewedObjective objectiveId)
  {recordType recordId content : String} {now : Int} {metadata : PyDict}

theorem owned_roundRecord :
    (roundRecord objective recordType recordId content now
      metadata).objectiveId = some objectiveId :=
  congrArg some objective.property

theorem sameRounds_roundRecord (unstarted : recordType ≠ "objective_review_started")
    (unfailed : recordType ≠ "objective_review_failed") :
    SameRounds objectiveId store (store.createContextRecord
        (roundRecord objective recordType recordId content now metadata)) :=
  sameRounds_createContextRecord (owned_roundRecord objective) unstarted unfailed

variable {reviewId : String}

theorem sameRounds_roundReceipt {status : String} :
    SameRounds objectiveId store (store.createContextRecord
        (roundReceipt objective status reviewId recordId content now metadata)) :=
  sameRounds_roundRecord objective (by decide) (by decide)

structure FailsRound (objectiveId reviewId : String) (before after : Store) :
    Prop where
  started : startedRounds objectiveId after = startedRounds objectiveId before
  failed : failedRounds objectiveId after = insert reviewId (failedRounds objectiveId before)

variable {before middle after : Store}

theorem FailsRound.of_same (same : SameRounds objectiveId before middle)
    (fails : FailsRound objectiveId reviewId middle after) :
    FailsRound objectiveId reviewId before after where
  started := fails.started.trans same.started
  failed := by rw [fails.failed, same.failed]

theorem FailsRound.before_same (fails : FailsRound objectiveId reviewId before middle)
    (same : SameRounds objectiveId middle after) :
    FailsRound objectiveId reviewId before after where
  started := same.started.trans fails.started
  failed := same.failed.trans fails.failed

theorem failsRound_roundRecord {further : PyDict} :
    FailsRound objectiveId reviewId store (store.createContextRecord
        (roundRecord objective "objective_review_failed" recordId content now
          (("review_id", .str reviewId) :: further))) where
  started := roundsOfType_createContextRecord_of_ne
    (owned_roundRecord objective)
    (by decide : "objective_review_failed" ≠ "objective_review_started")
  failed := by
    unfold failedRounds
    rw [roundsOfType_createContextRecord (owned_roundRecord objective)
      (Eq.refl "objective_review_failed") (by decide)]
    exact congrArg (insert · _) (getStr_reviewId reviewId further)

theorem failsRound_interrupted {receiptId : String} (named : reviewId ≠ "") :
    FailsRound objectiveId reviewId store
      (markObjectiveReviewInterrupted store objective reviewId recordId receiptId now) := by
  unfold markObjectiveReviewInterrupted
  rw [if_neg named]
  exact (failsRound_roundRecord objective).before_same (sameRounds_roundReceipt objective)

end

end

/-! ## What a step of a thread does to the rounds -/

namespace ReviewThread

variable {objectiveId : String}

def checks : ReviewThread objectiveId → Bool
  | checking | resuming => true
  | _ => false

theorem outside_of_checks {thread : ReviewThread objectiveId} (checks : thread.checks = true) :
    thread.role = .outside := by
  cases thread with
  | checking => rfl
  | resuming => rfl
  | _ => cases checks

theorem held_working {reviewId : String} (stage : WorkerStage objectiveId) :
    (working reviewId stage).role.held = some reviewId := by
  cases stage <;> rfl

theorem runs_working {reviewId : String} (stage : WorkerStage objectiveId) :
    (working reviewId stage).role.Runs := by
  cases stage <;> exact trivial

inductive RoundStep (registered : Bool) (now : Int) (store : Store)
    (thread : ReviewThread objectiveId) : ThreadOutcome objectiveId → Prop where
  | stays {after next} (same : SameRounds objectiveId store after)
      (role : next.role = thread.role) :
      RoundStep registered now store thread (.goes after next)
  | judges {after next} (same : SameRounds objectiveId store after) (checks : thread.checks = true)
      (stale : findsStale registered now objectiveId store = true)
      (judged : next.role = .interrupting (objectiveReviewState store objectiveId).reviewId) :
      RoundStep registered now store thread (.goes after next)
  | interrupts {after next reviewId} (role : thread.role = .interrupting reviewId)
      (fails : FailsRound objectiveId reviewId store after)
      (left : next.role = .outside) :
      RoundStep registered now store thread (.goes after next)
  | dismisses {after next reviewId} (role : thread.role = .interrupting reviewId)
      (same : SameRounds objectiveId store after)
      (left : next.role = .outside) :
      RoundStep registered now store thread (.goes after next)
  | completes {after next reviewId} (role : thread.role = .executing reviewId)
      (same : SameRounds objectiveId store after)
      (completed : next.role = .finishing reviewId) :
      RoundStep registered now store thread (.goes after next)
  | fails {after reviewId} (held : thread.role.held = some reviewId)
      (fails : FailsRound objectiveId reviewId store after) :
      RoundStep registered now store thread (.ends after)
  | leaves {after} (same : SameRounds objectiveId store after) :
      RoundStep registered now store thread (.ends after)

theorem running_of_stale {registered : Bool} {now : Int} {store : Store}
    (stale : findsStale registered now objectiveId store = true) :
    (objectiveReviewState store objectiveId).status = "running" :=
  of_decide_eq_true (Bool.and_eq_true_iff.mp stale).1

theorem rounds_startRound (now : Int) {choice : ReviewChoice objectiveId}
    (named : choice.reviewId ≠ "")
    (objective : ReviewedObjective objectiveId) (store : Store) :
    startedRounds objectiveId (startRound now choice objective store) =
        insert choice.reviewId (startedRounds objectiveId store) ∧
      failedRounds objectiveId (startRound now choice objective store) =
        failedRounds objectiveId store := by
  have rest : SameRounds objectiveId (store.createContextRecord <|
        roundRecord objective "objective_review_started" choice.recordId
          "Started automatic objective promotion review." now
          [("review_id", .str choice.reviewId)])
      (startRound now choice objective store) :=
    (sameRounds_roundReceipt objective).trans (sameRounds_change choice.notes _)
  constructor
  · rw [rest.started]
    unfold startedRounds
    rw [roundsOfType_createContextRecord (owned_roundRecord objective)
      (Eq.refl "objective_review_started") (by decide)]
    refine congrArg (insert · _) ?_
    simp [startedReviewId, roundRecord, PyDict.get, PyValue.orValue,
      PyValue.truthy, PyValue.toStr, named]
  · rw [rest.failed]
    exact roundsOfType_createContextRecord_of_ne (owned_roundRecord objective)
      (by decide : "objective_review_started" ≠ "objective_review_failed")

section

variable {registered : Bool} {now : Int} {choice : ReviewChoice objectiveId}
  {store : Store}

theorem roundStep_check :
    RoundStep registered now store checking (check registered now objectiveId store) := by
  unfold check
  dsimp only
  split
  · exact .leaves .rfl
  next objective found =>
    split
    next stale => exact .judges .rfl rfl stale rfl
    · split
      · exact .leaves .rfl
      · exact .stays .rfl rfl

theorem roundStep_resume :
    RoundStep registered now store resuming (resume registered now objectiveId store) := by
  unfold resume
  dsimp only
  split
  · exact .leaves .rfl
  next objective found =>
    split
    · exact .leaves .rfl
    next summary built =>
      split
      next stale => exact .judges .rfl rfl stale rfl
      · exact .stays .rfl rfl

variable {reviewId : String} {objective : ReviewedObjective objectiveId}

theorem roundStep_interrupt (objective : ReviewedObjective objectiveId) (back : ReviewReturn) :
    RoundStep registered now store (interrupting reviewId objective back)
      (interrupt now choice reviewId objective back store) := by
  by_cases named : reviewId = ""
  · have unchanged : markObjectiveReviewInterrupted store objective reviewId
        choice.recordId choice.receiptId now = store := if_pos named
    cases back with
    | queue =>
      refine .dismisses rfl ?_ rfl
      rw [unchanged]
      exact .rfl
    | resume _ =>
      refine .dismisses rfl ?_ rfl
      rw [unchanged]
      exact .rfl
  · cases back with
    | queue => exact .interrupts rfl (failsRound_interrupted objective named) rfl
    | resume _ => exact .interrupts rfl (failsRound_interrupted objective named) rfl

variable {linkedTasks : List Task} {summary : PromotionReview}
  {state : ObjectiveReviewState}

theorem roundStep_resumeQueue {after : Store} (same : SameRounds objectiveId store after) :
    RoundStep registered now store (deciding objective linkedTasks summary state)
      (resumeQueue registered summary state after) := by
  unfold resumeQueue
  split
  · exact .leaves same
  · split
    · exact .leaves same
    · split
      · exact .leaves same
      · exact .stays same rfl

theorem roundStep_resumeWith :
    RoundStep registered now store (deciding objective linkedTasks summary state)
      (resumeWith registered choice objective linkedTasks summary state store) := by
  have noted := sameRounds_change choice.notes store
  unfold resumeWith
  split
  · split
    · exact .leaves .rfl
    · exact roundStep_resumeQueue .rfl
  next round latest =>
    split
    · exact .leaves noted
    · split
      · exact .leaves .rfl
      · split
        · exact .leaves (sameRounds_createRemediationTasks _ _ _ _ _)
        · exact roundStep_resumeQueue noted

theorem roundStep_failRound {stage : WorkerStage objectiveId} {left : Store}
    {error : PyError} (same : SameRounds objectiveId store left) :
    RoundStep registered now store (working reviewId stage)
      (failRound now choice objective reviewId left error) :=
  .fails (held_working stage) ((failsRound_roundRecord objective).of_same same)

theorem roundStep_workInside (stage : WorkerStage objectiveId) :
    RoundStep registered now store (working reviewId stage)
      (workInside now choice objective reviewId store stage) := by
  have noted := sameRounds_change choice.notes store
  cases stage with
  | entering =>
    unfold workInside
    dsimp only
    split
    · exact roundStep_failRound .rfl
    · exact .stays noted rfl
  | generating _ =>
    unfold workInside
    dsimp only
    split
    · exact roundStep_failRound .rfl
    · exact .stays .rfl rfl
  | recording objective _ packets =>
    cases packets with
    | nil =>
      refine .completes rfl (SameRounds.trans ?_ (sameRounds_roundReceipt objective)) rfl
      exact sameRounds_roundRecord objective (by decide) (by decide)
    | cons _ _ => exact .stays (sameRounds_roundRecord objective (by decide) (by decide)) rfl
  | remediating objective packets =>
    have kept : SameRounds objectiveId store _ :=
      sameRounds_createRemediationTasks choice.identities objective reviewId packets store
    unfold workInside
    dsimp only
    split
    next raised =>
      rw [raised] at kept
      exact roundStep_failRound kept
    next returned =>
      rw [returned] at kept
      exact .stays kept rfl
  | concluding objective _ =>
    unfold workInside
    dsimp only
    split
    · exact .stays noted rfl
    · exact .leaves (noted.trans (sameRounds_roundReceipt objective))
  | promoting objective =>
    unfold workInside
    dsimp only
    split
    · exact roundStep_failRound .rfl
    · unfold autoPromote
      split
      · exact .leaves noted
      · exact .leaves <| (sameRounds_roundRecord objective (by decide) (by decide)).trans
            (sameRounds_change choice.notes _)

theorem roundStep_work (stage : WorkerStage objectiveId) :
    RoundStep registered now store (working reviewId stage)
      (work now choice reviewId stage store) := by
  unfold work
  split
  · exact .leaves .rfl
  · split
    · exact roundStep_failRound (sameRounds_change choice.notes store)
    · exact roundStep_workInside stage

theorem roundStep_advance (thread : ReviewThread objectiveId)
    (unstarting : ∀ objective, thread ≠ .starting objective)
    (unlaunching : ∀ reviewId, thread ≠ .launching reviewId) :
    RoundStep registered now store thread (thread.advance registered now choice store) := by
  cases thread with
  | checking => exact roundStep_check
  | interrupting _ objective back => exact roundStep_interrupt objective back
  | rechecking _ =>
    unfold advance recheck
    dsimp only
    split
    · exact .leaves .rfl
    · exact .stays .rfl rfl
  | weighing _ =>
    unfold advance weigh
    dsimp only
    split
    · exact .leaves .rfl
    · split
      · exact .stays .rfl rfl
      · exact .leaves .rfl
  | starting objective => exact absurd rfl (unstarting objective)
  | launching reviewId => exact absurd rfl (unlaunching reviewId)
  | resuming => exact roundStep_resume
  | reviewing _ _ =>
    unfold advance rereview
    dsimp only
    split
    · exact .leaves .rfl
    · exact .stays .rfl rfl
  | deciding _ _ _ _ => exact roundStep_resumeWith
  | working _ stage => exact roundStep_work stage

end

end ReviewThread

/-! ## The refinement -/

namespace ReviewCaller

variable {objectiveId : String}

def party (caller : ReviewCaller objectiveId) : RoundParty Nat String where
  process := caller.process
  background := caller.background = true
  role := caller.thread.role

end ReviewCaller

namespace ReviewWorld

variable {objectiveId : String} {world next : ReviewWorld objectiveId}
  {slot : Nat} {caller : ReviewCaller objectiveId}

def rounds (world : ReviewWorld objectiveId) : RoundWorld Nat String where
  parties := fun slot => (world.threads slot).map ReviewCaller.party
  registered := { process | process ∈ world.running }
  known := startedRounds objectiveId world.store
  failed := failedRounds objectiveId world.store

theorem rounds_parties (here : world.threads slot = some caller) :
    world.rounds.parties slot = some caller.party :=
  congrArg (Option.map ReviewCaller.party) here

variable (placed : Option (ReviewCaller objectiveId))

theorem parties_place :
    (world.place slot placed).rounds.parties = Function.update world.rounds.parties slot
        (placed.map ReviewCaller.party) := by
  funext other
  unfold rounds place
  by_cases same : other = slot
  · rw [same]
    simp only [Function.update_self]
  · simp only [Function.update_of_ne same]

theorem rounds_place :
    (world.place slot placed).rounds = world.rounds.place slot (placed.map ReviewCaller.party) := by
  ext1
  · exact parties_place placed
  · rfl
  · rfl
  · rfl

variable {after : Store} {thread : ReviewThread objectiveId} {reviewId : String}

theorem rounds_goes :
    (world.settle slot caller (.goes after thread)).rounds =
      { world.rounds.place slot (some { caller.party with role := thread.role }) with
        known := startedRounds objectiveId after, failed := failedRounds objectiveId after } := by
  ext1
  · exact parties_place _
  · rfl
  · rfl
  · rfl

theorem mem_release_iff {process : Nat} :
    process ∈ world.release caller ↔ process ∈ world.rounds.release caller.party := by
  unfold release RoundWorld.release ReviewCaller.party rounds
  obtain ⟨_, background, thread⟩ := caller
  cases background with
  | false => simp
  | true =>
    cases thread with
    | working reviewId stage =>
      have runs := @ReviewThread.runs_working objectiveId reviewId stage
      simp [runs]
    | _ => simp [ReviewThread.role, RoundRole.Runs]

theorem rounds_ends :
    (world.settle slot caller (.ends after)).rounds =
      { world.rounds.place slot none with
        registered := world.rounds.release caller.party, known := startedRounds objectiveId after
        failed := failedRounds objectiveId after } := by
  ext1
  · exact parties_place none
  · ext process
    exact mem_release_iff
  · rfl
  · rfl

/-! ### The condition -/

def Unattended (world : ReviewWorld objectiveId) (reviewId : String) : Prop :=
  ∀ slot caller, world.threads slot = some caller → caller.thread.role.held ≠ some reviewId

theorem Unattended.held_ne (unattended : world.Unattended reviewId) (other : Nat)
    (party : RoundParty Nat String)
    (there : world.rounds.parties other = some party) :
    party.role.held ≠ some reviewId := by
  obtain ⟨rival, found, rfl⟩ := Option.map_eq_some_iff.mp there
  exact unattended other rival found

/-- Every other thread that has opened a round and can still complete it runs
in the background of the same process. -/
def Uncontested (world : ReviewWorld objectiveId) (slot : Nat)
    (caller : ReviewCaller objectiveId) : Prop :=
  ∀ other rival, other ≠ slot → world.threads other = some rival →
    rival.thread.role.completable ≠ none →
      caller.background = true ∧ rival.background = true ∧
        caller.process = rival.process

def StepsWithCare (world : ReviewWorld objectiveId) :
    ReviewAction objectiveId → Prop
  | .advance slot _ =>
    ∀ caller, world.threads slot = some caller → (caller.thread.checks = true →
        ReviewThread.findsStale (world.running.contains caller.process)
          world.now objectiveId world.store = true → world.Unattended
              (objectiveReviewState world.store objectiveId).reviewId) ∧
        ∀ objective, caller.thread = .starting objective → world.Uncontested slot caller
  | _ => True

theorem rounds_place_self (here : world.threads slot = some caller)
    (same : thread.role = caller.thread.role) :
    world.rounds.place slot (some { caller.party with role := thread.role }) =
      world.rounds := by
  have unchanged : { caller.party with role := thread.role } =
      caller.party := by
    rw [same]
    rfl
  rw [unchanged]
  unfold RoundWorld.place
  rw [← rounds_parties here, Function.update_eq_self]

theorem step_settle {registered : Bool} {outcome : ThreadOutcome objectiveId}
    (here : world.threads slot = some caller)
    (step : caller.thread.RoundStep registered world.now world.store outcome)
    (unattended : caller.thread.checks = true →
      ReviewThread.findsStale registered world.now objectiveId world.store = true →
        world.Unattended (objectiveReviewState world.store objectiveId).reviewId)
    (known : ReviewThread.findsStale registered world.now objectiveId
        world.store = true →
      (objectiveReviewState world.store objectiveId).reviewId ∈
        startedRounds objectiveId world.store) :
    world.rounds.Step (world.settle slot caller outcome).rounds := by
  have party := rounds_parties here
  cases step with
  | stays same role =>
    rw [rounds_goes, same.started, same.failed, rounds_place_self here role]
    exact .stay
  | judges same checks stale judged =>
    rw [rounds_goes, same.started, same.failed, judged]
    exact .judge party (ReviewThread.outside_of_checks checks) (known stale)
      (unattended checks stale).held_ne
  | interrupts role fails left =>
    rw [rounds_goes, fails.started, fails.failed, left]
    exact .interrupt party role
  | dismisses role same left =>
    rw [rounds_goes, same.started, same.failed, left]
    exact .dismiss party role
  | completes role same completed =>
    rw [rounds_goes, same.started, same.failed, completed]
    exact .complete party role
  | fails held fails =>
    rw [rounds_ends, fails.started, fails.failed]
    exact .fail party held
  | leaves same =>
    rw [rounds_ends, same.started, same.failed]
    exact .leave party

theorem rounds_register {running : List Nat} {placed : Option (ReviewCaller objectiveId)} :
    ({ world.place slot placed with running } :
        ReviewWorld objectiveId).rounds =
      { world.rounds.place slot (placed.map ReviewCaller.party) with
        registered := { process | process ∈ running } } := by
  ext1
  · exact parties_place placed
  · rfl
  · rfl
  · rfl

theorem step_launch (here : world.threads slot = some caller)
    (launching : caller.thread = .launching reviewId) :
    world.rounds.Step (world.launch slot caller reviewId).rounds := by
  have party := rounds_parties here
  have role : caller.party.role = .launching reviewId := by
    unfold ReviewCaller.party
    rw [launching]
    rfl
  unfold launch
  split
  next background =>
    split
    next refused =>
      have unchanged : world.rounds.release caller.party =
          world.rounds.registered := by
        unfold RoundWorld.release
        rw [role]
        ext process
        simp [RoundRole.Runs]
      have left := RoundWorld.Step.leave party
      rw [unchanged] at left
      rw [rounds_place]
      exact left
    next admitted =>
      have launched := RoundWorld.Step.launch party role fun _ registered =>
        admitted (contains_iff_mem.mpr registered)
      have registered : ∀ process, process ∈ world.rounds.registered ∨
              caller.party.background ∧ process = caller.party.process ↔
            process ∈ caller.process :: world.running := by
        intro process
        rw [mem_cons, or_comm]
        exact or_congr (and_iff_right background) .rfl
      simp only [registered] at launched
      rw [rounds_register]
      exact launched
  next foreground =>
    have launched := RoundWorld.Step.launch party role fun background _ => foreground background
    have registered : ∀ process, process ∈ world.rounds.registered ∨
            caller.party.background ∧ process = caller.party.process ↔
          process ∈ world.rounds.registered := by
      intro process
      exact or_iff_left fun both => foreground both.1
    simp only [registered] at launched
    rw [rounds_place]
    exact launched

theorem notMem_of_unused {store : Store} {reviewId : String}
    (unused : used store reviewId = false) :
    reviewId ∉ startedRounds objectiveId store ∧ reviewId ∉ failedRounds objectiveId store := by
  unfold used at unused
  have fresh := (Bool.or_eq_false_iff.mp unused).2
  rw [any_eq_false] at fresh
  constructor
  · rintro ⟨record, member, _, named⟩
    refine fresh record (mem_roundRecords_iff.mp member).1 ?_
    simp [named]
  · rintro ⟨record, member, _, named⟩
    refine fresh record (mem_roundRecords_iff.mp member).1 ?_
    simp [named]

theorem step_start {choice : ReviewChoice objectiveId} {objective : ReviewedObjective objectiveId}
    (here : world.threads slot = some caller)
    (starting : caller.thread = .starting objective)
    (named : choice.reviewId ≠ "")
    (unused : used world.store choice.reviewId = false)
    (uncontested : world.Uncontested slot caller) :
    world.rounds.Step (world.settle slot caller
      (.goes (ReviewThread.startRound world.now choice objective world.store)
        (.launching choice.reviewId))).rounds := by
  obtain ⟨unstarted, unfailed⟩ := @notMem_of_unused objectiveId _ _ unused
  have started := RoundWorld.Step.start (rounds_parties here) (by
      unfold ReviewCaller.party
      rw [starting]
      rfl)
    unstarted unfailed
    (by
      intro other party different there completable
      obtain ⟨rival, found, rfl⟩ := Option.map_eq_some_iff.mp there
      exact uncontested other rival different found completable)
  obtain ⟨startedSame, failedSame⟩ :=
    ReviewThread.rounds_startRound world.now named objective world.store
  rw [rounds_goes, startedSame, failedSame]
  exact started

theorem step_perform {action : ReviewAction objectiveId} (careful : world.StepsWithCare action)
    (performed : world.perform action = some next) :
    world.rounds.Step next.rounds := by
  cases action with
  | call _ _ _ resume =>
    unfold perform at performed
    dsimp only at performed
    split at performed
    · cases performed
    next free =>
      cases performed
      rw [rounds_place]
      refine .enter (congrArg (Option.map ReviewCaller.party) free) ?_
      cases resume <;> rfl
  | advance _ choice =>
    obtain ⟨caller, here, advanced⟩ := Option.bind_eq_some_iff.mp performed
    obtain ⟨unattended, uncontested⟩ := careful caller here
    unfold advance at advanced
    split at advanced
    next reviewId located =>
      cases advanced
      exact step_launch here located
    next objective located =>
      split at advanced
      · cases advanced
      next unused =>
        have fresh : used world.store choice.reviewId = false := Bool.not_eq_true _ ▸ unused
        cases advanced
        rw [located]
        refine step_start here located ?_ fresh (uncontested objective located)
        intro empty
        exact unused (by simp [used, empty])
    next unlaunching unstarting =>
      cases advanced
      exact step_settle here (ReviewThread.roundStep_advance caller.thread unstarting unlaunching)
        unattended fun stale => reviewId_mem_startedRounds (ReviewThread.running_of_stale stale)
  | wait _ =>
    cases performed
    exact .stay
  | crash process =>
    cases performed
    refine @RoundWorld.Step.crash _ _ world.rounds _ process ?_ ?_ rfl rfl
    · intro slot party there
      obtain ⟨_, kept, rfl⟩ := Option.map_eq_some_iff.mp there
      obtain ⟨here, alive⟩ := Option.filter_eq_some_iff.mp kept
      exact ⟨rounds_parties here, of_decide_eq_true alive⟩
    · ext other
      simp [rounds]
  | change change =>
    cases performed
    have same := sameRounds_change change world.store
    have unchanged : ({ world with store := change.apply world.store } :
        ReviewWorld objectiveId).rounds = world.rounds := by
      ext1
      · rfl
      · rfl
      · exact same.started
      · exact same.failed
    rw [unchanged]
    exact .stay

end ReviewWorld

end AccruviaHarness
