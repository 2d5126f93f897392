import AccruviaHarness.Reviews.ReviewRounds

/-!
# Review rounds over whole runs

What holds in every state that a run reaches whose steps are taken with care,
and two runs of two processes that take no such care.
-/

namespace AccruviaHarness

open Library ReviewThread Option

namespace ReviewWorld

variable {objectiveId : String} {world : ReviewWorld objectiveId}

def OneReviewer (world : ReviewWorld objectiveId) : Prop :=
  ∀ slot other first second reviewId otherId,
    world.threads slot = some first → world.threads other = some second →
      first.thread.role = .executing reviewId →
        second.thread.role = .executing otherId → slot = other

def ActsFor (world : ReviewWorld objectiveId)
    (choice : ReviewChoice objectiveId) (reviewId : String) :
    ReviewThread objectiveId → Prop
  | .working named (.remediating objective packets) =>
    named = reviewId ∧ (stateOf (RemediationService.createRemediationTasks choice.identities
        objective named packets world.store)).tasks.rows.length ≠ world.store.tasks.rows.length
  | .working named (.promoting objective) =>
    named = reviewId ∧ ∃ review, readReview objective world.store =
      .ok review ∧ review.reviewClear = true
  | _ => False

def FailedRoundsQuiet (world : ReviewWorld objectiveId) : Prop :=
  ∀ slot caller choice reviewId, world.threads slot = some caller →
    world.ActsFor choice reviewId caller.thread → reviewId ∉ failedRounds objectiveId world.store

theorem held_of_actsFor {choice : ReviewChoice objectiveId} {reviewId : String}
    {thread : ReviewThread objectiveId}
    (acts : world.ActsFor choice reviewId thread) :
    thread.role.held = some reviewId := by
  cases thread with
  | working named stage =>
    have held : (working named stage).role.held = some named := held_working stage
    cases stage with
    | remediating _ _ => exact acts.1 ▸ held
    | promoting _ => exact acts.1 ▸ held
    | _ => exact acts.elim
  | _ => exact acts.elim

theorem oneReviewer_of_careful (careful : world.rounds.Careful) :
    world.OneReviewer := by
  intro slot other first second reviewId otherId here there role otherRole
  refine careful.eq_of_runs (rounds_parties here) (rounds_parties there) ?_ ?_ ?_ ?_
  · exact cast (congrArg RoundRole.Runs role.symm) trivial
  · exact cast (congrArg RoundRole.Runs otherRole.symm) trivial
  · exact fun none => by
      have some := (congrArg RoundRole.completable role).symm.trans none
      cases some
  · exact fun none => by
      have some := (congrArg RoundRole.completable otherRole).symm.trans none
      cases some

theorem failedRoundsQuiet_of_careful (careful : world.rounds.Careful) :
    world.FailedRoundsQuiet := by
  intro slot caller choice reviewId here acts
  exact (careful.sound slot caller.party (rounds_parties here)).unfailed
    reviewId (held_of_actsFor acts)

theorem careful_of_idle (idle : ∀ slot, world.threads slot = none) :
    world.rounds.Careful := by
  have nobody : ∀ slot, world.rounds.parties slot = none := by
    intro slot
    exact congrArg (Option.map ReviewCaller.party) (idle slot)
  constructor
  · intro slot party here
    rw [nobody slot] at here
    cases here
  · intro slot other first second _ here
    rw [nobody slot] at here
    cases here

end ReviewWorld

/-- In every run whose steps are taken with care, from a store without review
threads, at most one worker that can complete its round is executing, and no
worker acts for a failed round. -/
theorem review_rounds_safe {objectiveId : String} {world reached : ReviewWorld objectiveId}
    (idle : ∀ slot, world.threads slot = none)
    {actions : List (ReviewAction objectiveId)}
    (careful : StepsMeet ReviewWorld.perform ReviewWorld.StepsWithCare world actions)
    (run : runEvents ReviewWorld.perform world actions = some reached) :
    reached.OneReviewer ∧ reached.FailedRoundsQuiet := by
  have kept : reached.rounds.Careful := by
    refine @runEvents_invariant_of_guard _ _ _ ReviewWorld.StepsWithCare
      (fun world => world.rounds.Careful) ?_ _ _ _
      (ReviewWorld.careful_of_idle idle) careful run
    intro source action next holds cares taken
    exact RoundWorld.careful_step holds (ReviewWorld.step_perform cares taken)
  exact ⟨ReviewWorld.oneReviewer_of_careful kept, ReviewWorld.failedRoundsQuiet_of_careful kept⟩

/-! ## A review on its own -/

namespace ReviewWorld

variable {objectiveId : String} {world next : ReviewWorld objectiveId}
  {slot : Nat}

def Alone (world : ReviewWorld objectiveId) (slot : Nat) : Prop :=
  ∀ other, other ≠ slot → world.threads other = none

theorem stepsWithCare_of_alone (alone : world.Alone slot) (choice : ReviewChoice objectiveId) :
    world.StepsWithCare (.advance slot choice) := by
  intro caller here
  constructor
  · intro checks _ other rival there
    have same : other = slot := by
      by_contra different
      rw [alone other different] at there
      cases there
    rw [same, here] at there
    cases there
    rw [outside_of_checks checks]
    exact nofun
  · intro _ _ other rival different there
    rw [alone other different] at there
    cases there

variable (caller : ReviewCaller objectiveId)

theorem threads_settle (outcome : ThreadOutcome objectiveId) :
    ∃ placed, (world.settle slot caller outcome).threads =
      Function.update world.threads slot placed := by
  cases outcome with
  | goes _ _ => exact ⟨_, rfl⟩
  | ends _ => exact ⟨_, rfl⟩

theorem threads_launch (reviewId : String) :
    ∃ placed, (world.launch slot caller reviewId).threads =
      Function.update world.threads slot placed := by
  unfold launch
  split
  · split
    · exact ⟨_, rfl⟩
    · exact ⟨_, rfl⟩
  · exact ⟨_, rfl⟩

theorem alone_advance (alone : world.Alone slot) {choice : ReviewChoice objectiveId}
    (performed : world.perform (.advance slot choice) = some next) :
    next.Alone slot := by
  obtain ⟨caller, _, advanced⟩ := bind_eq_some_iff.mp performed
  have placed : ∃ placed, next.threads = Function.update world.threads slot placed := by
    unfold advance at advanced
    split at advanced
    · cases advanced
      exact threads_launch caller _
    · split at advanced
      · cases advanced
      · cases advanced
        exact threads_settle caller _
    · cases advanced
      exact threads_settle caller _
  obtain ⟨placed, threads⟩ := placed
  intro other different
  rw [threads, Function.update_of_ne different]
  exact alone other different

theorem stepsMeet_of_alone (alone : world.Alone slot) (choices : List (ReviewChoice objectiveId)) :
    StepsMeet perform StepsWithCare world (choices.map (.advance slot)) := by
  induction choices generalizing world with
  | nil => trivial
  | cons choice _ ih =>
    intro next performed
    exact ⟨stepsWithCare_of_alone alone choice, ih (alone_advance alone performed)⟩

end ReviewWorld

/-! ## Example runs -/

def reviewedStore : Store where
  projects := .single { id := "project", promotionMode := .branchOnly }
  objectives := .single { id := "objective", projectId := "project", status := .resolved }
  tasks :=
    .single
      { id := "task", projectId := "project", objectiveId := some "objective"
        status := .completed }

def idleWorld : ReviewWorld "objective" where
  store := reviewedStore
  now := 0
  running := []
  threads := fun _ => none

def plainChoice (reviewId : String) : ReviewChoice "objective" where
  reviewId
  context := ObjectiveLifecycle.activityContext
  identities := fun index =>
    { taskId := if index = 0 then "first-task" else "other-task"
      planId := if index = 0 then "first-plan" else "other-plan"
      now := 0, nonNegotiables := fun _ => none }
  notes := ⟨id, fun _ => rfl⟩

def stepsOf (slot count : Nat) (reviewId : String) : List (ReviewAction "objective") :=
  (List.replicate count (plainChoice reviewId)).map (.advance slot)

def openRound : ReviewThread "objective" → Option String
  | .working reviewId .entering => some reviewId
  | _ => none

variable {reviewId : String}

variable {thread : ReviewThread "objective"} {world : ReviewWorld "objective"}

theorem role_of_openRound (opened : openRound thread = some reviewId) :
    thread.role = .executing reviewId := by
  unfold openRound at opened
  split at opened
  · cases opened
    rfl
  · cases opened

def openRoundAt (slot : Nat) (world : ReviewWorld "objective") : Option String :=
  (world.threads slot).bind fun caller => openRound caller.thread

theorem executing_of_openRoundAt {slot : Nat} (opened : openRoundAt slot world = some reviewId) :
    ∃ caller, world.threads slot = some caller ∧
      caller.thread.role = .executing reviewId := by
  obtain ⟨caller, here, opened⟩ := bind_eq_some_iff.mp opened
  exact ⟨caller, here, role_of_openRound opened⟩

def singleRun : List (ReviewAction "objective") := .call 0 0 true false :: stepsOf 0 4 "first"

theorem single_review_safe :
    ∃ reached caller, runEvents ReviewWorld.perform idleWorld singleRun = some reached ∧
        reached.threads 0 = some caller ∧
          caller.thread.role = .executing "first" ∧
            reached.OneReviewer ∧ reached.FailedRoundsQuiet := by
  have opened : (runEvents ReviewWorld.perform idleWorld singleRun).bind
      (openRoundAt 0) = some "first" := by
    decide +kernel
  obtain ⟨reached, run, opened⟩ := bind_eq_some_iff.mp opened
  obtain ⟨caller, here, role⟩ := executing_of_openRoundAt opened
  refine ⟨reached, caller, run, here, role, ?_⟩
  refine review_rounds_safe (fun _ => rfl) ?_ run
  intro next called
  refine ⟨trivial, ReviewWorld.stepsMeet_of_alone ?_ _⟩
  cases called
  intro other different
  exact Function.update_of_ne different _ _

def overtakenRun : List (ReviewAction "objective") :=
  [.call 0 0 true false, .call 1 1 true false] ++ stepsOf 0 2 "first" ++ stepsOf 1 2 "second" ++
      stepsOf 0 2 "first" ++ stepsOf 1 2 "second"

def interruptedRun : List (ReviewAction "objective") :=
  .call 0 0 true false :: stepsOf 0 5 "first" ++
    [.wait (301 * 1000000), .call 1 1 true true] ++ stepsOf 1 2 "second" ++ stepsOf 0 5 "first"

def failedActed (world : ReviewWorld "objective") :
    ReviewThread "objective" → Option String
  | .working named (.remediating objective packets) =>
    if (stateOf (RemediationService.createRemediationTasks
          (plainChoice "").identities objective named packets
          world.store)).tasks.rows.length ≠
        world.store.tasks.rows.length ∧
        ((roundRecords "objective" world.store).any fun record =>
          record.recordType = "objective_review_failed" &&
            record.metadata.getStr "review_id" = named) = true then
      some named
    else none
  | _ => none

theorem actsFor_of_failedActed (acted : failedActed world thread = some reviewId) :
    world.ActsFor (plainChoice "") reviewId thread ∧
      reviewId ∈ failedRounds "objective" world.store := by
  unfold failedActed at acted
  split at acted
  next named objective packets =>
    split at acted
    next acts =>
      cases acted
      obtain ⟨record, member, failed⟩ := List.any_eq_true.mp acts.2
      obtain ⟨kind, same⟩ := Bool.and_eq_true_iff.mp failed
      exact ⟨⟨rfl, acts.1⟩, record, member, of_decide_eq_true kind, of_decide_eq_true same⟩
    · cases acted
  · cases acted

theorem reviews_overlap :
    (¬ ∀ (objectiveId : String) (world reached : ReviewWorld objectiveId)
        (actions : List (ReviewAction objectiveId)),
        (∀ slot, world.threads slot = none) →
          runEvents ReviewWorld.perform world actions = some reached → reached.OneReviewer) ∧
      ¬ ∀ (objectiveId : String) (world reached : ReviewWorld objectiveId)
        (actions : List (ReviewAction objectiveId)),
        (∀ slot, world.threads slot = none) →
          runEvents ReviewWorld.perform world actions = some reached →
            reached.FailedRoundsQuiet := by
  constructor
  · intro claim
    have first : (runEvents ReviewWorld.perform idleWorld overtakenRun).bind
        (openRoundAt 0) = some "first" := by
      decide +kernel
    have second : (runEvents ReviewWorld.perform idleWorld overtakenRun).bind
        (openRoundAt 1) = some "second" := by
      decide +kernel
    obtain ⟨reached, run, opened⟩ := bind_eq_some_iff.mp first
    rw [run, bind_some] at second
    obtain ⟨caller, here, role⟩ := executing_of_openRoundAt opened
    obtain ⟨rival, there, rivalRole⟩ := executing_of_openRoundAt second
    have same := claim "objective" idleWorld reached overtakenRun
      (fun _ => rfl) run 0 1 caller rival "first" "second" here there role
      rivalRole
    cases same
  · intro claim
    have acted : (runEvents ReviewWorld.perform idleWorld interruptedRun).bind
        (fun world => (world.threads 0).bind fun caller =>
          failedActed world caller.thread) = some "first" := by
      decide +kernel
    obtain ⟨reached, run, acted⟩ := bind_eq_some_iff.mp acted
    obtain ⟨caller, here, acted⟩ := bind_eq_some_iff.mp acted
    obtain ⟨acts, failed⟩ := actsFor_of_failedActed acted
    exact claim "objective" idleWorld reached interruptedRun (fun _ => rfl) run
      0 caller (plainChoice "") "first" here acts failed

end AccruviaHarness
