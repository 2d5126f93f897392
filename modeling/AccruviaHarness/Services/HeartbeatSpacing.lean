import AccruviaHarness.Services.SupervisorService

/-!
# Heartbeats and the work between them

The loop serves the due heartbeats before the queue. What keeps two heartbeats
of one project apart is the interval that is in force for it, which is
measured from the end of the first.
-/

namespace AccruviaHarness

open Library

namespace SupervisorService

variable (arguments : SupervisorArguments)

def intervalInForce (loop : SupervisorLoop) (projectId : String) : WithTop ℚ :=
  (heartbeatInterval arguments loop projectId).getD ⊤

def TracksHeartbeats (run : SupervisorRun) : Prop :=
  Tracked run.loop.heartbeatLastRun (intervalInForce arguments run.loop) run.clock run.calls

def IntervalPassed (run : SupervisorRun) (projectId : String) : Prop :=
  ∀ lastRun, run.loop.heartbeatLastRun projectId = some lastRun →
    intervalInForce arguments run.loop projectId ≤ ((run.clock - lastRun : ℚ) : WithTop ℚ)

section

variable {arguments : SupervisorArguments}

theorem heartbeatLastRun_recordHeartbeat (arguments : SupervisorArguments) (loop : SupervisorLoop)
    (projectId : String) (answer : HeartbeatAnswer) :
    (recordHeartbeat arguments loop projectId answer).heartbeatLastRun =
      Function.update loop.heartbeatLastRun projectId (some answer.recordedAt) := by
  unfold recordHeartbeat
  cases answer.outcome with
  | failed => rfl
  | succeeded _ => rfl

variable {projectId : String}

variable {other : String} {answer : HeartbeatAnswer}
  {answers : SupervisorAnswers}

theorem intervalInForce_recordHeartbeat_of_ne
    (arguments : SupervisorArguments) (loop : SupervisorLoop)
    (answer : HeartbeatAnswer)
    (different : other ≠ projectId) :
    intervalInForce arguments (recordHeartbeat arguments loop projectId answer) other =
      intervalInForce arguments loop other := by
  unfold recordHeartbeat
  cases answer.outcome with
  | failed => rfl
  | succeeded recommended =>
    have skipped :
        ((projectId, scheduledInterval arguments recommended) ::
            loop.heartbeatIntervals).lookup other =
          loop.heartbeatIntervals.lookup other := by
      rw [List.lookup_cons, beq_eq_false_iff_ne.mpr different]
    unfold intervalInForce heartbeatInterval
    rw [skipped]

theorem intervalPassed_of_isDue {run : SupervisorRun}
    (due : isDue arguments run.loop run.clock projectId = true) :
    IntervalPassed arguments run projectId := by
  intro lastRun known
  unfold isDue at due
  rw [Bool.and_eq_true, known] at due
  unfold intervalInForce
  cases inForce : heartbeatInterval arguments run.loop projectId with
  | none =>
    rw [inForce] at due
    cases due.2
  | some _ =>
    rw [inForce] at due
    exact of_decide_eq_true due.2

theorem tracksHeartbeats_serveHeartbeat
    {run : SupervisorRun} (tracks : TracksHeartbeats arguments run)
    (passed : IntervalPassed arguments run projectId)
    (forward : run.clock ≤ answer.recordedAt) :
    TracksHeartbeats arguments (serveHeartbeat arguments run projectId answer) := by
  have served := Tracked.serve tracks
    { key := projectId, startedAt := run.clock, endedAt := answer.recordedAt
      interval := intervalInForce arguments
        (recordHeartbeat arguments run.loop projectId answer) projectId }
    passed rfl forward
  have intervals :
      Function.update (intervalInForce arguments run.loop) projectId (intervalInForce arguments
            (recordHeartbeat arguments run.loop projectId answer) projectId) =
        intervalInForce arguments (recordHeartbeat arguments run.loop projectId answer) := by
    funext other
    by_cases own : other = projectId
    · rw [own, Function.update_self]
    · rw [Function.update_of_ne own,
        intervalInForce_recordHeartbeat_of_ne arguments run.loop answer own]
  rw [intervals, ← heartbeatLastRun_recordHeartbeat arguments]
    at served
  exact served

theorem intervalPassed_serveHeartbeat
    {run : SupervisorRun} (passed : IntervalPassed arguments run other)
    (different : other ≠ projectId)
    (forward : run.clock ≤ answer.recordedAt) :
    IntervalPassed arguments (serveHeartbeat arguments run projectId answer) other := by
  intro lastRun known
  change (recordHeartbeat arguments run.loop projectId
    answer).heartbeatLastRun other = some lastRun at known
  rw [heartbeatLastRun_recordHeartbeat, Function.update_of_ne different]
    at known
  have unchanged := intervalInForce_recordHeartbeat_of_ne arguments run.loop answer different
  have later :
      ((run.clock - lastRun : ℚ) : WithTop ℚ) ≤ ((answer.recordedAt - lastRun : ℚ) : WithTop ℚ) :=
    WithTop.coe_le_coe.mpr (sub_le_sub_right forward _)
  exact (unchanged.le.trans (passed lastRun known)).trans later

theorem tracksHeartbeats_serveHeartbeats {due : List String} {answers : List HeartbeatAnswer}
    {run served : SupervisorRun}
    (tracks : TracksHeartbeats arguments run)
    (listedOnce : due.Nodup)
    (passed : ∀ projectId ∈ due, IntervalPassed arguments run projectId)
    (serves : serveHeartbeats arguments run due answers = some served) :
    TracksHeartbeats arguments served := by
  induction due generalizing run answers with
  | nil =>
    cases answers with
    | nil =>
      cases serves
      exact tracks
    | cons _ _ => cases serves
  | cons projectId _ ih =>
    cases answers with
    | nil => cases serves
    | cons answer _ =>
      rw [List.nodup_cons] at listedOnce
      unfold serveHeartbeats at serves
      by_cases back : answer.recordedAt < run.clock
      · rw [if_pos back] at serves
        cases serves
      · rw [if_neg back] at serves
        have forward := not_lt.mp back
        refine ih (tracksHeartbeats_serveHeartbeat tracks
            (passed projectId List.mem_cons_self) forward)
          listedOnce.2 ?_ serves
        intro other member
        have different : other ≠ projectId := by
          rintro rfl
          exact listedOnce.1 member
        exact intervalPassed_serveHeartbeat
          (passed other (List.mem_cons_of_mem _ member)) different forward

theorem queuePass_heartbeats (arguments : SupervisorArguments) (loop : SupervisorLoop)
    (answers : SupervisorAnswers) :
    (queuePass arguments loop answers).1.heartbeatLastRun = loop.heartbeatLastRun ∧
      (queuePass arguments loop answers).1.heartbeatIntervals =
        loop.heartbeatIntervals := by
  unfold queuePass
  cases answers.queue with
  | gateBlocked _ => exact ⟨rfl, rfl⟩
  | processed _ => exact ⟨rfl, rfl⟩
  | nothing =>
    unfold idlePass
    repeat' split
    all_goals exact ⟨rfl, rfl⟩

theorem nodup_dueHeartbeatProjects (listedOnce : arguments.heartbeatAllProjects = true ∨
      arguments.heartbeatProjectIds.Nodup)
    (loop : SupervisorLoop) (answers : SupervisorAnswers) :
    (dueHeartbeatProjects arguments loop answers).Nodup := by
  have listed : (heartbeatProjects arguments answers).Nodup := by
    unfold heartbeatProjects
    by_cases all : arguments.heartbeatAllProjects = true
    · rw [if_pos all]
      exact answers.listedProjects_nodup
    · rw [if_neg all]
      exact listedOnce.resolve_left all
  unfold dueHeartbeatProjects
  split
  · exact List.nodup_nil
  · exact listed.filter _

theorem isDue_of_mem_dueHeartbeatProjects {loop : SupervisorLoop}
    (member : projectId ∈ dueHeartbeatProjects arguments loop answers) :
    isDue arguments loop answers.checkedAt projectId = true := by
  unfold dueHeartbeatProjects at member
  split at member
  · cases member
  · exact (List.mem_filter.mp member).2

theorem tracksHeartbeats_check {run : SupervisorRun} {now : ℚ}
    (tracks : TracksHeartbeats arguments run) (forward : run.clock ≤ now) :
    TracksHeartbeats arguments (run.check now) :=
  Tracked.wait tracks forward

theorem tracksHeartbeats_pass (listedOnce : arguments.heartbeatAllProjects = true ∨
      arguments.heartbeatProjectIds.Nodup)
    {run next : SupervisorRun} (tracks : TracksHeartbeats arguments run)
    (passes : pass arguments run answers = some next) :
    TracksHeartbeats arguments next := by
  rcases (pass_cases passes).2 with
    ⟨_, rfl⟩ | ⟨forward, _, rfl⟩ | ⟨forward, served, serves, rfl⟩
  · exact tracks
  · have checked := tracksHeartbeats_check tracks forward
    obtain ⟨lastRuns, intervals⟩ := queuePass_heartbeats
      arguments (run.check answers.checkedAt).loop answers
    unfold TracksHeartbeats intervalInForce heartbeatInterval queueStep
    rw [lastRuns, intervals]
    exact Tracked.work checked
  · have kept : TracksHeartbeats arguments served := by
      refine tracksHeartbeats_serveHeartbeats (tracksHeartbeats_check tracks forward)
        (nodup_dueHeartbeatProjects listedOnce (run.check answers.checkedAt).loop answers) ?_ serves
      intro projectId member
      exact intervalPassed_of_isDue (isDue_of_mem_dueHeartbeatProjects member)
    exact kept

theorem tracksHeartbeats_run (listedOnce : arguments.heartbeatAllProjects = true ∨
      arguments.heartbeatProjectIds.Nodup)
    {start : ℚ} {answers : List SupervisorAnswers} {final : SupervisorRun}
    (runs : run arguments start answers = some final) :
    TracksHeartbeats arguments final := by
  have initial : TracksHeartbeats arguments { clock := start } := Tracked.nil _ _ start
  exact runEvents_invariant
    (fun _ _ _ tracks passes => tracksHeartbeats_pass listedOnce tracks passes)
    initial runs

end

/-- Two heartbeats of one project without work between them are at least its
interval apart. So there is work between them where every interval is longer
than one heartbeat of each of the other projects. -/
theorem heartbeats_leave_room (arguments : SupervisorArguments)
    (listedOnce : arguments.heartbeatAllProjects = true ∨ arguments.heartbeatProjectIds.Nodup)
    (start : ℚ) (answers : List SupervisorAnswers) (final : SupervisorRun)
    (runs : run arguments start answers = some final) :
    Spaced final.calls ∧
      ∀ (projects : Finset String) (serviceTime : String → ℚ) (pause : ℚ),
        IntervalsOutlast projects serviceTime pause final.calls → WorkBetweenJobs final.calls := by
  have spaced := (tracksHeartbeats_run listedOnce runs).spaced
  exact ⟨spaced, fun _ _ _ room => spaced.workBetweenJobs room⟩

def everyTenSeconds (heartbeatProjectIds : List String) :
    SupervisorArguments where
  watch := true
  maxIdleCycles := none
  heartbeatProjectIds := heartbeatProjectIds
  heartbeatIntervalSeconds := some (10 : ℚ)
  maxIdleCycles_positive := by simp
  maxIterations_positive := SupervisorArguments.default_maxIterations
  idleSleepSeconds_nonneg := SupervisorArguments.default_idleSleepSeconds
  heartbeatIntervalSeconds_positive := by
    intro interval given
    cases given
    exact WithTop.coe_lt_coe.mpr (by norm_num)
  threshold_positive := SupervisorArguments.default_threshold

def checkAt (checkedAt : ℚ) (endings : List ℚ) : SupervisorAnswers where
  checkedAt := checkedAt
  heartbeats := endings.map fun recordedAt =>
    { outcome := .succeeded none, recordedAt := recordedAt }

def heartbeatOf (projectId : String) (startedAt endedAt : ℚ) : LoopCall String ℚ :=
  .serve
    { key := projectId, startedAt := startedAt, endedAt := endedAt, interval := (10 : ℚ) }

theorem calls_of_one_project :
    ((run (everyTenSeconds ["project"]) 0 [checkAt 0 [1], checkAt 2 [], checkAt 12 [13]]).map
        SupervisorRun.calls) =
      some [heartbeatOf "project" 0 1, .work, heartbeatOf "project" 12 13] := by
  decide +kernel

theorem heartbeats_leave_room_of_one_project :
    ∃ final, run (everyTenSeconds ["project"]) 0
        [checkAt 0 [1], checkAt 2 [], checkAt 12 [13]] = some final ∧
      WorkBetweenJobs final.calls := by
  obtain ⟨final, runs, trace⟩ := Option.map_eq_some_iff.mp calls_of_one_project
  have jobs : ∀ job, .serve job ∈ final.calls →
      job = ⟨"project", 0, 1, (10 : ℚ)⟩ ∨
        job = ⟨"project", 12, 13, (10 : ℚ)⟩ := by
    intro job member
    rw [trace] at member
    simpa [heartbeatOf] using member
  have paced : Paced (fun _ => 1) 0 final.calls := by
    constructor
    · intro job member
      rcases jobs job member with rfl | rfl <;> norm_num
    · intro earlier first second later equality
      rw [trace] at equality
      rcases earlier with _ | ⟨_, _ | ⟨_, _ | ⟨_, earlier⟩⟩⟩ <;>
        simp [heartbeatOf] at equality
  have room : IntervalsOutlast {"project"} (fun _ => 1) 0 final.calls := by
    refine ⟨paced, fun _ => by norm_num, le_rfl, ?_, ?_⟩
    · intro job member
      rcases jobs job member with rfl | rfl <;> simp
    · intro job member
      rcases jobs job member with rfl | rfl <;>
        exact WithTop.coe_lt_coe.mpr (by norm_num)
  exact ⟨final, runs, (heartbeats_leave_room (everyTenSeconds ["project"])
      (.inr (List.nodup_singleton "project")) 0
      [checkAt 0 [1], checkAt 2 [], checkAt 12 [13]] final runs).2
        {"project"} (fun _ => 1) 0 room⟩

/-- With two projects whose heartbeats take ten seconds the queue is not
reached, and a project that is given twice is served twice at one check. -/
theorem heartbeats_without_work :
    (∃ final, run (everyTenSeconds ["first", "second"]) 0
        [checkAt 0 [10, 20], checkAt 20 [30]] = some final ∧
      ¬ WorkBetweenJobs final.calls) ∧
    ∃ final, run (everyTenSeconds ["project", "project"]) 0 [checkAt 0 [1, 2]] = some final ∧
      ¬ WorkBetweenJobs final.calls := by
  have calls :
      ((run (everyTenSeconds ["first", "second"]) 0
        [checkAt 0 [10, 20], checkAt 20 [30]]).map SupervisorRun.calls) =
        some [heartbeatOf "first" 0 10, heartbeatOf "second" 10 20, heartbeatOf "first" 20 30] := by
    decide +kernel
  have callsOfOne :
      ((run (everyTenSeconds ["project", "project"]) 0
        [checkAt 0 [1, 2]]).map SupervisorRun.calls) =
        some [heartbeatOf "project" 0 1, heartbeatOf "project" 1 2] := by
    decide +kernel
  obtain ⟨final, runs, trace⟩ := Option.map_eq_some_iff.mp calls
  obtain ⟨finalOfOne, runsOfOne, traceOfOne⟩ := Option.map_eq_some_iff.mp callsOfOne
  refine ⟨⟨final, runs, ?_⟩, finalOfOne, runsOfOne, ?_⟩
  · intro worked
    rw [trace] at worked
    have between := worked [] _ [heartbeatOf "second" 10 20] _ [] rfl rfl
    simp [heartbeatOf] at between
  · intro worked
    rw [traceOfOne] at worked
    have between := worked [] _ [] _ [] rfl rfl
    cases between

end SupervisorService

end AccruviaHarness
