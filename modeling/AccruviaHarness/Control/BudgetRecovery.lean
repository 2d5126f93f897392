import AccruviaHarness.Control.DegradedMark
import AccruviaHarness.Telemetry.CostTracker

/-!
# The recovery of a spent budget

The runs record their costs in the ledger of one cost tracker. The watch
service reads those of another, whose path is the directory of the database:
to it no project has spent anything.
-/

namespace AccruviaHarness

open Library

/-- A store with its files. The directory of the database is there, as opening
the store makes it. The runs record their costs with `tracker`, whose ledger is
not there before the first of them. -/
structure BudgetScenario where
  store : Store
  dbPath : WrittenPath
  files : Files
  tracker : CostTracker
  runs : List RunCost
  directory : files dbPath.parent = .directory
  unwritten : files tracker.ledgerPath = .missing

namespace ControlWatchService

open ControlPlane

/-- The question that `_check_budget_recovery` has for each project. -/
def withinBudget (dbPath : WrittenPath) (files : Files) (today : Day)
    (projectId : String) : Except PyError Bool := do
  let tracker ← CostTracker.new (some dbPath.parent)
  let (within, _) ← tracker.checkBudget projectId today files
  return within

/-! ## When a lane resumes -/

structure ResumesFor (before after : Store) (projectId : String) : Prop where
  paused : ∃ lane, before.control.laneStates.lookup "worker" = some lane ∧
    lane.isPausedForBudget = true
  running : ∃ lane, after.control.laneStates.lookup "worker" = some lane ∧
    lane.state = .running
  named : ∃ event, after.control.events.getLast? = some event ∧
    event.eventType = "budget_recovered" ∧
      event.payload = [("project_id", .str projectId)]

section

variable {store : Store} {checkBudget : String → Except PyError Bool}

theorem lookup_syncGlobalState (now : Int) (reason wanted : String) :
    (syncGlobalState store now reason).1.control.laneStates.lookup wanted =
      (store.control.laneStates.lookup wanted).map
        (ControlLaneState.expire store.control.resumedState now).apply := by
  have lanes :
      (syncGlobalState store now reason).1.control.laneStates = store.control.laneStates.modify
          (ControlLaneState.expire store.control.resumedState now) :=
    KeyedTable.ext (settled_syncGlobalState store now reason).lanes
  rw [lanes, KeyedTable.lookup_modify]

theorem lookup_resumeLane {lane : ControlLaneState} (now : Int) (reason : String)
    (unfrozen : store.control.systemState.globalState ≠ .frozen)
    (found : store.control.laneStates.lookup "worker" = some lane) :
    ∃ next report, resumeLane store now "worker" reason = (next, .ok report) ∧
        next.control.laneStates.lookup "worker" = some
          ((ControlLaneState.write store.control.resumedState reason none).apply lane) := by
  have present : hasLane store "worker" = true := by simp [hasLane, found]
  unfold resumeLane
  rw [if_neg unfrozen, if_pos present]
  refine ⟨(syncGlobalState (recordEvent
      (writeLane store "worker" store.control.resumedState reason none) now
      "lane_resumed" "lane" "worker"
      [("reason", .str reason), ("state", .str store.control.resumedState.value)])
    now reason).1, _, rfl, ?_⟩
  rw [lookup_syncGlobalState]
  change ((store.control.laneStates.updateAt "worker" _).lookup "worker").map _ = _
  rw [KeyedTable.lookup_updateAt, found]
  simp [ControlLaneState.expire]

theorem state_of_isPausedForBudget
    {lane : ControlLaneState} (paused : lane.isPausedForBudget = true) :
    lane.state = .paused := by
  unfold ControlLaneState.isPausedForBudget at paused
  simp only [Bool.and_eq_true, decide_eq_true_eq] at paused
  exact paused.1

theorem resumedState_eq_running_iff {control : ControlTables} :
    control.resumedState = .running ↔
      control.systemState.masterSwitch = true := by
  unfold ControlTables.resumedState
  cases control.systemState.masterSwitch with
  | true => simp
  | false => simp

theorem not_resumesFor_self (projectId : String) : ¬ ResumesFor store store projectId := by
  intro resumes
  obtain ⟨_, found, paused⟩ := resumes.paused
  obtain ⟨running, same, runs⟩ := resumes.running
  rw [found] at same
  cases same
  rw [state_of_isPausedForBudget paused] at runs
  cases runs

theorem recoveredProject_isPaused {projectId : String}
    (recovered : recoveredProject store checkBudget = some projectId) :
    ∃ lane, store.control.laneStates.lookup "worker" = some lane ∧
      lane.isPausedForBudget = true := by
  unfold recoveredProject at recovered
  cases found : store.control.laneStates.lookup "worker" with
  | none =>
    rw [found] at recovered
    cases recovered
  | some lane =>
    rw [found] at recovered
    by_cases paused : lane.isPausedForBudget = true
    · exact ⟨lane, rfl, paused⟩
    · simp [paused] at recovered

theorem resumesFor_iff (now : Int) (projectId : String) :
    ResumesFor store (checkBudgetRecovery store now checkBudget) projectId ↔
      store.control.systemState.globalState ≠ .frozen ∧
        store.control.systemState.masterSwitch = true ∧
          recoveredProject store checkBudget = some projectId := by
  unfold checkBudgetRecovery
  cases recovered : recoveredProject store checkBudget with
  | none => simp [not_resumesFor_self]
  | some _ =>
    obtain ⟨lane, present, paused⟩ := recoveredProject_isPaused recovered
    by_cases frozen : store.control.systemState.globalState = .frozen
    · have refused : resumeLane store now "worker" "budget_recovered" =
          (store, .error (.valueError "Cannot resume a lane while the system is frozen")) :=
        if_pos frozen
      rw [refused]
      simp [frozen, not_resumesFor_self]
    · obtain ⟨_, _, resumed, after⟩ := lookup_resumeLane now "budget_recovered" frozen present
      rw [resumed]
      simp only [Option.some.injEq]
      constructor
      · intro resumes
        obtain ⟨running, same, runs⟩ := resumes.running
        obtain ⟨event, last, _, payload⟩ := resumes.named
        have lanes : some _ = some running := after.symm.trans same
        have events : some _ = some event := List.getLast?_concat.symm.trans last
        cases lanes
        cases events
        exact ⟨frozen, resumedState_eq_running_iff.mp runs, by simpa using payload⟩
      · intro possible
        obtain ⟨_, isOn, rfl⟩ := possible
        refine ⟨⟨lane, present, paused⟩, ⟨_, after, ?_⟩, ?_⟩
        · exact if_pos isOn
        · exact ⟨_, List.getLast?_concat, rfl, rfl⟩

theorem recoveredProject_of_within (within : ∀ projectId, checkBudget projectId = .ok true)
    (projectId : String) :
    recoveredProject store checkBudget = some projectId ↔
      (∃ lane, store.control.laneStates.lookup "worker" = some lane ∧
        lane.isPausedForBudget = true) ∧
        ((orderBy OldestProject store.projects.rows).head?).map Project.id = some projectId := by
  have first : ∀ projects, firstWithinBudget checkBudget projects =
      projects.head?.map Project.id := by
    intro projects
    cases projects with
    | nil => rfl
    | cons _ _ =>
      rw [firstWithinBudget, within]
      rfl
  unfold recoveredProject
  cases store.control.laneStates.lookup "worker" with
  | none => simp
  | some lane =>
    by_cases paused : lane.isPausedForBudget = true
    · simp [paused, first]
    · simp [paused]

theorem recoveredProject_of_error {error : PyError}
    (raises : ∀ projectId, checkBudget projectId = .error error) :
    recoveredProject store checkBudget = none := by
  have first : ∀ projects, firstWithinBudget checkBudget projects = none := by
    intro projects
    cases projects with
    | nil => rfl
    | cons _ _ => rw [firstWithinBudget, raises]
  unfold recoveredProject
  split
  · rfl
  · simp [first]

end

/-! ## The tracker of the watch service -/

theorem withinBudget_of_directory {dbPath : WrittenPath} {files : Files}
    (directory : files dbPath.parent = .directory)
    (named : dbPath.parent.names ≠ []) (today : Day) (projectId : String) :
    withinBudget dbPath files today projectId = .ok true := by
  obtain ⟨_, last⟩ := Option.isSome_iff_exists.mp (List.getLast?_isSome.mpr named)
  unfold withinBudget CostTracker.new WrittenPath.withSuffix
  simp [last, ok_bind, CostTracker.checkBudget, CostTracker.dailyCost,
    CostTracker.loadLedger, CostTracker.spent_empty, directory]

theorem withinBudget_of_unnamed {dbPath : WrittenPath} (unnamed : dbPath.parent.names = [])
    (files : Files) (today : Day) (projectId : String) :
    withinBudget dbPath files today projectId = .error (.valueError "path has an empty name") := by
  unfold withinBudget CostTracker.new WrittenPath.withSuffix
  simp only [Option.getD_some, unnamed]
  rfl

end ControlWatchService

namespace BudgetScenario

open ControlWatchService

section

variable (float : PyValue → Except PyError ℚ) (round : ℚ → ℚ)
variable (scenario : BudgetScenario) (now : Int) (today : Day)

def recordedFiles : Files :=
  (CostTracker.recordRunCosts float round scenario.tracker scenario.runs scenario.files).files

def recovered : Store :=
  checkBudgetRecovery scenario.store now
    (withinBudget scenario.dbPath (scenario.recordedFiles float round) today)

/-- The check resumes the lane only for a project that the ledger of the runs
shows within its limit, and after each run the ledger shows the exact sums. -/
structure RecoversSoundly : Prop where
  resumes : ∀ projectId,
    ResumesFor scenario.store (scenario.recovered float round now today) projectId →
      ∃ spent, scenario.tracker.dailyCost projectId today
            (scenario.recordedFiles float round) = .ok spent ∧
          spent ≤ 20
  exact : ∀ front, front <+: scenario.runs → ∀ projectId day,
    scenario.tracker.dailyCost projectId day
        (CostTracker.recordRunCosts float round scenario.tracker front scenario.files).files =
      .ok (CostTracker.returnedFor (CostTracker.recordRunCosts float round scenario.tracker front
          scenario.files).returned projectId day).sum

/-- The costs add up without rounding, and where the check would resume the
lane, those of the oldest project are within the limit. -/
structure OldestWithinLimit : Prop where
  within : ∀ lane project, scenario.store.control.laneStates.lookup "worker" = some lane →
    lane.isPausedForBudget = true →
    scenario.store.control.systemState.globalState ≠ .frozen →
    scenario.store.control.systemState.masterSwitch = true →
    scenario.dbPath.parent.names ≠ [] →
    (orderBy OldestProject scenario.store.projects.rows).head? = some project →
    (CostTracker.costsFor float scenario.runs project.id today).sum ≤ 20
  exact : ∀ projectId day, ExactSums round (CostTracker.costsFor float scenario.runs projectId day)

variable {float round}

theorem directory_recordedFiles :
    scenario.recordedFiles float round scenario.dbPath.parent =
      .directory := by
  have other : scenario.dbPath.parent ≠ scenario.tracker.ledgerPath := by
    intro same
    have directory := scenario.directory
    rw [same, scenario.unwritten] at directory
    cases directory
  unfold recordedFiles
  rw [CostTracker.recordRunCosts_files float round scenario.tracker
    scenario.runs scenario.unwritten other]
  exact scenario.directory

theorem resumesFor_recovered_iff (projectId : String) :
    ResumesFor scenario.store (scenario.recovered float round now today) projectId ↔
      scenario.store.control.systemState.globalState ≠ .frozen ∧
        scenario.store.control.systemState.masterSwitch = true ∧
        scenario.dbPath.parent.names ≠ [] ∧
        (∃ lane, scenario.store.control.laneStates.lookup "worker" = some lane ∧
            lane.isPausedForBudget = true) ∧
        ((orderBy OldestProject scenario.store.projects.rows).head?).map
          Project.id = some projectId := by
  unfold recovered
  rw [resumesFor_iff]
  by_cases named : scenario.dbPath.parent.names = []
  · rw [recoveredProject_of_error
      (withinBudget_of_unnamed named (scenario.recordedFiles float round) today)]
    simp [named]
  · rw [recoveredProject_of_within
      (withinBudget_of_directory scenario.directory_recordedFiles named today)]
    simp [named]

/-- The recovery is sound exactly when the oldest project is within its limit
whenever the check resumes the lane. -/
theorem recoversSoundly_iff :
    scenario.RecoversSoundly float round now today ↔
      scenario.OldestWithinLimit float round today := by
  have exactly := CostTracker.dailyCost_eq_sum_iff float round
    scenario.tracker scenario.runs scenario.unwritten
  have dailyCost : (∀ projectId day, ExactSums round
      (CostTracker.costsFor float scenario.runs projectId day)) →
      ∀ projectId, scenario.tracker.dailyCost projectId today (scenario.recordedFiles float round) =
          .ok (CostTracker.costsFor float scenario.runs projectId today).sum := by
    intro exact projectId
    unfold recordedFiles
    rw [exactly.mpr exact scenario.runs (List.prefix_refl _),
      CostTracker.returnedFor_recordRunCosts float round scenario.tracker
        scenario.runs scenario.unwritten]
  constructor
  · intro sound
    have exact := exactly.mp sound.exact
    refine ⟨?_, exact⟩
    intro lane project found paused unfrozen isOn named oldest
    obtain ⟨_, shown, within⟩ := sound.resumes project.id
      ((scenario.resumesFor_recovered_iff now today project.id).mpr
        ⟨unfrozen, isOn, named, ⟨lane, found, paused⟩, by rw [oldest]; rfl⟩)
    rw [dailyCost exact] at shown
    cases shown
    exact within
  · intro condition
    refine ⟨?_, exactly.mpr condition.exact⟩
    intro projectId resumes
    obtain ⟨unfrozen, isOn, named, ⟨lane, found, paused⟩, first⟩ :=
      (scenario.resumesFor_recovered_iff now today projectId).mp resumes
    obtain ⟨project, oldest, rfl⟩ := Option.map_eq_some_iff.mp first
    exact ⟨_, dailyCost condition.exact project.id,
      condition.within lane project found paused unfrozen isOn named oldest⟩

end

def overspent : BudgetScenario where
  store :=
    { projects := .single { id := "project_1" }
      control :=
        { systemState := { globalState := .degraded, masterSwitch := true }
          laneStates := .single
            { laneName := "worker", state := .paused, reason := some "budget_exhausted" } } }
  dbPath := { names := [".accruvia-harness", "harness.db"] }
  files path :=
    if path = { names := [".accruvia-harness"] } then .directory
    else .missing
  tracker :=
    { ledgerPath := { names := [".accruvia-harness", "cost_ledger.json"] }
      lockPath := { names := [".accruvia-harness", "cost_ledger.lock"] } }
  runs :=
    [{ projectId := "project_1", metadata := some (.dict [("cost_usd", .float "25.0")])
       today := { text := "2026-01-01", plain := by decide } }]
  directory := if_pos (by decide)
  unwritten := if_neg (by decide)

theorem not_recoversSoundly_overspent :
    ¬ ∀ (float : PyValue → Except PyError ℚ) (round : ℚ → ℚ)
      (scenario : BudgetScenario) (now : Int) (today : Day),
        scenario.RecoversSoundly float round now today := by
  intro sound
  have resumes := (sound (fun _ => .ok 25) id overspent 0
    { text := "2026-01-01", plain := by decide }).resumes "project_1"
  obtain ⟨spent, shown, within⟩ := resumes ((overspent.resumesFor_recovered_iff 0 _ "project_1").mpr
      ⟨by decide, rfl, by decide, ⟨_, rfl, by decide⟩, rfl⟩)
  unfold recordedFiles at shown
  rw [CostTracker.dailyCost_recordRunCosts (fun _ => .ok 25) id
    overspent.tracker overspent.runs overspent.unwritten] at shown
  have total : spent = 25 := by
    injection shown with same
    rw [← same]
    have costs : CostTracker.costsFor (fun _ => .ok 25) overspent.runs
        "project_1" { text := "2026-01-01", plain := by decide } = [25] := by
      rfl
    rw [costs]
    simp [roundedSum]
  rw [total] at within
  exact absurd within (by decide)

end BudgetScenario

end AccruviaHarness
