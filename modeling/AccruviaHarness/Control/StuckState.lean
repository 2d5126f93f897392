import AccruviaHarness.Control.ArtifactInventory
import AccruviaHarness.Control.Plane
import AccruviaHarness.Policy
import AccruviaHarness.Store.RunRecords
import Mathlib.Data.Rat.Cast.Order
import Mathlib.Tactic.Linarith

/-!
# The stuck checks of the watch service

The evaluation goes over the tasks, the objectives and the promotions, and each
rule that it finds broken leaves a reason.
-/

namespace AccruviaHarness

open Library List

/-- The texts stored in the `status` column of a promotion. -/
def PromotionStatus.value : PromotionStatus → String
  | .pending => "pending"
  | .approved => "approved"
  | .rejected => "rejected"

structure WatchSettings where
  noActiveTasksTimeoutSeconds : Int := 120
  noArtifactTimeoutSeconds : Int := 600
  reconcileTimeoutSeconds : Int := 120
  missingPrerequisiteTimeoutSeconds : Int := 120
  sameStateLoopThreshold : Int := 2
  sameStateLoopHardMax : Int := 3

namespace WatchSettings

/-- `max(int(timeout), 1)`. -/
def atLeastOne (timeout : Int) : Int := max timeout 1

variable (settings : WatchSettings)

def loopThreshold : Int := max settings.sameStateLoopThreshold 1

def loopHardMax : Int := max settings.sameStateLoopHardMax settings.loopThreshold

end WatchSettings

structure DirectoryReading where
  files : Option (List RunFile) := none
  epoch : ℚ := 0

/-- What an evaluation reads besides the tables of the store: the clock, the
`updated_at` columns, the run directories at both times that they are read,
and the objects of the supervisors that run. -/
structure WatchReadings where
  now : Int
  taskUpdatedAt : String → Int
  runUpdatedAt : String → Int
  activeDirectory : String → DirectoryReading
  loopDirectory : String → DirectoryReading
  supervisors : List PyDict

structure StuckReason where
  rule : String
  taskIds : List String := []
  objectiveIds : List String := []
  promotionIds : List String := []
  runId : Option String := none
  runStatus : Option RunStatus := none
  artifactKinds : List String := []
  missingRequiredArtifacts : List String := []
  leaseWorkerId : Option String := none
  consecutiveLoops : Option Int := none

structure StuckEvaluation where
  matchedRules : List String
  reasons : List StuckReason
  affectedTaskIds : List String
  affectedPromotionIds : List String
  supervisorCount : Nat

namespace ControlWatchService

def livenessNoiseRule : String := "Active task produced only liveness noise"

section

variable (settings : WatchSettings) (store : Store)
variable (readings : WatchReadings)

def lasted (span timeout : Int) : Bool := secondsSpan (WatchSettings.atLeastOne timeout) ≤ span

/-! ## Tasks that nobody works on -/

def tasksWith (status : TaskStatus) : List Task :=
  (store.listTasks "").filter fun task => task.status = status

def pendingReasons : List StuckReason :=
  let pending := tasksWith store .pending
  let ages := pending.map fun task => readings.now - readings.taskUpdatedAt task.id
  let timeout := settings.noActiveTasksTimeoutSeconds
  if tasksWith store .active = [] then
    (match ages.min? with
      | some idle =>
        if lasted idle timeout then
          [{ rule := "No active tasks while work exists", taskIds := pending.map Task.id }]
        else []
      | none => []) ++
    (match ages.max? with
      | some oldest =>
        if readings.supervisors ≠ [] ∧ lasted oldest timeout then
          [{ rule := "Pending work is not being claimed", taskIds := pending.map Task.id }]
        else []
      | none => [])
  else []

/-! ## Objectives -/

def objectiveStalledSignalWindow : Int := secondsSpan 1800

def stalledObjectiveIds : List String :=
  let signalled :=
    (store.control.listEvents "objective_stalled" 20).filterMap fun event =>
      (store.objectives.lookup event.entityId).bind fun objective =>
        if objective.status = .resolved ∨
            event.createdAt < readings.now - objectiveStalledSignalWindow
          then none
        else some objective.id
  let paused := store.objectives.rows.filter fun objective => objective.status = .paused
  signalled ++ paused.map Objective.id

def stalledReasons : List StuckReason :=
  let ids := stalledObjectiveIds store readings
  if ids = [] then []
  else [{ rule := "Stalled objective exists", objectiveIds := sortedSet ids }]

/-! ## Active tasks -/

variable (task : Task)

def latestRun : Option Run := (store.listRuns task.id).getLast?

/-- `no_artifact_timeout_seconds`. -/
def artifactTimeout : ℚ := WatchSettings.atLeastOne settings.noArtifactTimeoutSeconds

/-- `_artifact_inventory` of the latest run, and the empty one without a
run. -/
def inventoryOf (directory : String → DirectoryReading) (run : Option Run) :
    ArtifactInventory :=
  match run with
  | none => {}
  | some run =>
    artifactInventory (artifactTimeout settings) (directory run.id).epoch (directory run.id).files

def noArtifactReasons (run : Option Run) (inventory : ArtifactInventory) : List StuckReason :=
  let broken :=
    match inventory.latestArtifactAgeSeconds with
    | some age => decide (artifactTimeout settings ≤ age)
    | none =>
      lasted (readings.now - readings.taskUpdatedAt task.id) settings.noArtifactTimeoutSeconds
  if broken then
    [{ rule := "Active task produced no artifact", taskIds := [task.id]
       runId := run.map Run.id }]
  else []

def livenessNoiseReasons (run : Option Run) (inventory : ArtifactInventory) : List StuckReason :=
  if 0 < inventory.recentArtifactCount ∧
      inventory.recentMeaningfulArtifactCount = 0 ∧
      artifactTimeout settings ≤ inventory.recentWindowAgeSeconds then
    [{ rule := livenessNoiseRule, taskIds := [task.id], runId := run.map Run.id
       artifactKinds := sortedSet inventory.recentArtifactKinds }]
  else
    match inventory.latestArtifactKind,
      inventory.latestArtifactAgeSeconds with
    | some kind, some age =>
      if kind ∈ nonMeaningfulArtifactKinds ∧ artifactTimeout settings ≤ age
        then
          [{ rule := livenessNoiseRule, taskIds := [task.id], runId := run.map Run.id
             artifactKinds := [kind] }]
      else []
    | _, _ => []

/-- `str(payload.get("worker_id") or "").strip()` of the supervisors, where it
is not empty. -/
def runningWorkerIds : List String :=
  (readings.supervisors.map fun payload =>
    pyStrip (payload.get "worker_id").orEmpty).filter fun id => id ≠ ""

variable (leases : List TaskLease)

def lostWorkerReasons (task : Task) : List StuckReason :=
  let lease := leases.find? fun lease => lease.taskId = task.id
  let workerId := (lease.map fun lease => pyStrip lease.workerId).getD ""
  let running := runningWorkerIds readings
  if lease = none ∨ (running ≠ [] ∧ workerId ≠ "" ∧ workerId ∉ running) ∨
      readings.supervisors = [] then
    [{ rule := "Active task lost its worker", taskIds := [task.id]
       leaseWorkerId := some workerId }]
  else []

def terminalRunStatuses : List RunStatus := [.completed, .failed, .blocked, .disposed]

def unreconciledReasons (run : Option Run) : List StuckReason :=
  match run with
  | none => []
  | some run =>
    if run.status ∈ terminalRunStatuses ∧ lasted (readings.now - readings.runUpdatedAt run.id)
          settings.reconcileTimeoutSeconds then
      [{ rule := "Run finished but state did not reconcile", taskIds := [task.id]
         runId := some run.id, runStatus := some run.status }]
    else []

def activeReasons (task : Task) : List StuckReason :=
  let run := latestRun store task
  let inventory := inventoryOf settings readings.activeDirectory run
  noArtifactReasons settings readings task run inventory ++
    livenessNoiseReasons settings task run inventory ++
    lostWorkerReasons readings leases task ++
    unreconciledReasons settings readings task run

/-! ## Loops -/

/-- `_same_state_loop`: the evaluation itself, and the latest snapshots that
are like it. -/
def sameStateLoop (entityType entityId fingerprint : String) : Int :=
  let events := store.control.events.filter fun event =>
    event.eventType = "stuck_snapshot" && event.entityType = entityType &&
      (entityId = "" || event.entityId = entityId)
  let recent := (orderBy NewestEvent events).take (settings.loopHardMax - 1).toNat
  1 + (recent.takeWhile fun event => (event.payload.get "fingerprint").orEmpty = fingerprint).length

def taskStateFingerprint (run : Option Run)
    (inventory : ArtifactInventory) (leased : Bool) : String :=
  "|".intercalate [task.status.value, (run.map fun run => run.status.value).getD "no_run",
      inventory.latestArtifactKind.getD "none",
      if leased then "leased" else "unleased"]

def taskLoopReasons (task : Task) : List StuckReason :=
  if task.status = .pending ∨ task.status = .active then
    let run := latestRun store task
    let inventory := inventoryOf settings readings.loopDirectory run
    let leased := leases.any fun lease => lease.taskId = task.id
    let loops := sameStateLoop settings store "task" task.id
      (taskStateFingerprint task run inventory leased)
    if settings.loopThreshold ≤ loops then
      [{ rule := "Task is looping in the same state", taskIds := [task.id]
         consecutiveLoops := some loops }]
    else []
  else []

/-! ## Promotions -/

def missingRequired (kinds : List String) : List String :=
  orderBy (· ≤ ·) (task.requiredArtifacts.filter fun kind => kind ∉ kinds)

/-- `text or default`. -/
def textOr (text default : String) : String := if text = "" then default else text

def promotionStateFingerprint (promotion : PromotionRecord) (task : Task)
    (kinds : List String) : String :=
  "|".intercalate [promotion.status.value, textOr (",".intercalate (missingRequired task kinds))
        "all_required_present",
      textOr (",".intercalate (sortedSet kinds)) "no_artifacts"]

def promotionReasons : List StuckReason :=
  match (store.listPromotions task.id).getLast? with
  | none => []
  | some promotion =>
    if promotion.status = .pending then
      let artifacts := store.listArtifacts promotion.runId
      let kinds := artifacts.map Artifact.kind
      let age := readings.now - promotion.createdAt
      let movementAge :=
        match (artifacts.map Artifact.createdAt).max? with
        | some latest => readings.now - latest
        | none => age
      let missing := missingRequired task kinds
      let loops := sameStateLoop settings store "promotion" promotion.id
        (promotionStateFingerprint promotion task kinds)
      let reason (rule : String) : StuckReason :=
        { rule, taskIds := [task.id], promotionIds := [promotion.id] }
      (if lasted movementAge settings.noArtifactTimeoutSeconds then
        [reason "Promotion produced no movement"]
      else []) ++
      (if missing ≠ [] ∧ lasted age settings.missingPrerequisiteTimeoutSeconds then
        [{ reason "Promotion is blocked on a missing prerequisite" with
           missingRequiredArtifacts := missing }]
      else []) ++
      (if settings.loopThreshold ≤ loops then
        [{ reason "Promotion is looping in the same state" with
           consecutiveLoops := some loops }]
      else [])
    else []

/-! ## The evaluation -/

def stuckReasons : List StuckReason :=
  let tasks := store.listTasks ""
  pendingReasons settings store readings ++ stalledReasons store readings ++
    (tasksWith store .active).flatMap (activeReasons settings store readings leases) ++
    tasks.flatMap (taskLoopReasons settings store readings leases) ++
    tasks.flatMap (promotionReasons settings store readings)

/-- `_evaluate_stuck_state`. Listing the leases deletes the expired ones. -/
def evaluateStuckState : Store × StuckEvaluation :=
  let (store, leases) := store.listTaskLeases readings.now none
  let reasons := stuckReasons settings store readings leases
  (store,
    { matchedRules := (reasons.map StuckReason.rule).eraseDups, reasons
      affectedTaskIds := sortedSet (reasons.flatMap StuckReason.taskIds)
      affectedPromotionIds := sortedSet (reasons.flatMap StuckReason.promotionIds)
      supervisorCount := readings.supervisors.length })

end

end ControlWatchService

/-! ## When the liveness noise is reported -/

def StuckEvaluation.Matches (evaluation : StuckEvaluation) (rule taskId : String) : Prop :=
  rule ∈ evaluation.matchedRules ∧ ∃ reason ∈ evaluation.reasons, reason.rule = rule ∧
      taskId ∈ reason.taskIds

def RunFile.ModifiedWithin (timeout epoch : ℚ) (file : RunFile) : Prop :=
  epoch - timeout ≤ file.mtime ∧ file.mtime ≤ epoch

namespace ControlWatchService

section

variable (settings : WatchSettings) (store : Store)
variable (readings : WatchReadings)

structure OnlyLivenessNoise (task : Task) (run : Run)
    (files : List RunFile) : Prop where
  active : task ∈ tasksWith store .active
  latest : latestRun store task = some run
  directory : (readings.activeDirectory run.id).files = some files
  lasting : lasted (readings.now - readings.taskUpdatedAt task.id)
    settings.noArtifactTimeoutSeconds = true
  noise : ∃ file ∈ files, file.IsNoise ∧ file.ModifiedWithin (artifactTimeout settings)
      (readings.activeDirectory run.id).epoch
  noOther : ∀ file ∈ files, ¬ file.IsNoise → ¬ file.ModifiedWithin (artifactTimeout settings)
      (readings.activeDirectory run.id).epoch

structure NoiseOnTheEdge (run : Run) (files : List RunFile) : Prop where
  edge : ∃ file ∈ files, file.IsNoise ∧
    file.mtime = (readings.activeDirectory run.id).epoch - artifactTimeout settings
  noFuture : ∀ file ∈ files, ¬ file.IsNoise → file.mtime ≤ (readings.activeDirectory run.id).epoch

/-! ### The reasons with the rule -/

def ReportsNoise (inventory : ArtifactInventory) : Prop :=
  (0 < inventory.recentArtifactCount ∧
      inventory.recentMeaningfulArtifactCount = 0 ∧
      artifactTimeout settings ≤ inventory.recentWindowAgeSeconds) ∨
    ∃ kind age, inventory.latestArtifactKind = some kind ∧
      inventory.latestArtifactAgeSeconds = some age ∧
      kind ∈ nonMeaningfulArtifactKinds ∧ artifactTimeout settings ≤ age

theorem reportsNoise_iff (task : Task) (run : Option Run) (inventory : ArtifactInventory)
    (taskId : String) :
    (∃ reason ∈ livenessNoiseReasons settings task run inventory,
        reason.rule = livenessNoiseRule ∧ taskId ∈ reason.taskIds) ↔
      taskId = task.id ∧ ReportsNoise settings inventory := by
  unfold livenessNoiseReasons ReportsNoise
  by_cases recent : 0 < inventory.recentArtifactCount ∧
      inventory.recentMeaningfulArtifactCount = 0 ∧
      artifactTimeout settings ≤ inventory.recentWindowAgeSeconds
  · simp [recent]
  · rw [if_neg recent]
    simp only [recent, false_or]
    cases inventory.latestArtifactKind with
    | none => simp
    | some kind =>
      cases inventory.latestArtifactAgeSeconds with
      | none => simp
      | some age =>
        by_cases old : kind ∈ nonMeaningfulArtifactKinds ∧ artifactTimeout settings ≤ age
        · simp [old]
        · simp only [if_neg old, not_mem_nil, false_and, exists_false, false_iff, not_and]
          intro _ found
          obtain ⟨_, _, sameKind, sameAge, kept⟩ := found
          cases sameKind
          cases sameAge
          exact old kept

def Silent (reasons : List StuckReason) : Prop :=
  ∀ reason ∈ reasons, reason.rule ≠ livenessNoiseRule

theorem Silent.append {first second : List StuckReason} (firstSilent : Silent first)
    (secondSilent : Silent second) : Silent (first ++ second) := by
  intro reason member
  rcases mem_append.mp member with earlier | later
  · exact firstSilent reason earlier
  · exact secondSilent reason later

theorem Silent.flatMap {tasks : List Task} {reasonsOf : Task → List StuckReason}
    (silent : ∀ task ∈ tasks, Silent (reasonsOf task)) :
    Silent (tasks.flatMap reasonsOf) := by
  intro reason member
  obtain ⟨task, listed, own⟩ := mem_flatMap.mp member
  exact silent task listed reason own

theorem silent_nil : Silent [] := by simp [Silent]

theorem silent_single {reason : StuckReason} (other : reason.rule ≠ livenessNoiseRule) :
    Silent [reason] := by
  simpa [Silent] using other

theorem silent_ite {condition : Prop} [Decidable condition] {reasons : List StuckReason}
    (silent : Silent reasons) :
    Silent (if condition then reasons else []) := by
  by_cases holds : condition
  · simpa [holds] using silent
  · simpa [holds] using silent_nil

theorem silent_pendingReasons : Silent (pendingReasons settings store readings) := by
  unfold pendingReasons
  refine silent_ite (Silent.append ?_ ?_)
  · split
    · exact silent_ite (silent_single (by simp [livenessNoiseRule]))
    · exact silent_nil
  · split
    · exact silent_ite (silent_single (by simp [livenessNoiseRule]))
    · exact silent_nil

theorem silent_stalledReasons : Silent (stalledReasons store readings) := by
  unfold stalledReasons
  simp only
  split
  · exact silent_nil
  · exact silent_single (by simp [livenessNoiseRule])

theorem silent_noArtifactReasons (task : Task) (run : Option Run) (inventory : ArtifactInventory) :
    Silent (noArtifactReasons settings readings task run inventory) :=
  silent_ite (silent_single (by simp [livenessNoiseRule]))

variable (leases : List TaskLease) (task : Task)

theorem silent_lostWorkerReasons : Silent (lostWorkerReasons readings leases task) :=
  silent_ite (silent_single (by simp [livenessNoiseRule]))

theorem silent_unreconciledReasons (run : Option Run) :
    Silent (unreconciledReasons settings readings task run) := by
  unfold unreconciledReasons
  cases run with
  | none => exact silent_nil
  | some _ => exact silent_ite (silent_single (by simp [livenessNoiseRule]))

theorem silent_taskLoopReasons : Silent (taskLoopReasons settings store readings leases task) :=
  silent_ite (silent_ite (silent_single (by simp [livenessNoiseRule])))

theorem silent_promotionReasons : Silent (promotionReasons settings store readings task) := by
  unfold promotionReasons
  cases (store.listPromotions task.id).getLast? with
  | none => exact silent_nil
  | some _ =>
    refine silent_ite (Silent.append (Silent.append ?_ ?_) ?_)
    · exact silent_ite (silent_single (by simp [livenessNoiseRule]))
    · exact silent_ite (silent_single (by simp [livenessNoiseRule]))
    · exact silent_ite (silent_single (by simp [livenessNoiseRule]))

theorem exists_noiseReason_iff (taskId : String) :
    (∃ reason ∈ stuckReasons settings store readings leases,
        reason.rule = livenessNoiseRule ∧ taskId ∈ reason.taskIds) ↔
      ∃ task ∈ tasksWith store .active, taskId = task.id ∧ ReportsNoise settings
          (inventoryOf settings readings.activeDirectory (latestRun store task)) := by
  have others : Silent (pendingReasons settings store readings ++ stalledReasons store readings) :=
    (silent_pendingReasons settings store readings).append (silent_stalledReasons store readings)
  have loops : Silent ((store.listTasks "").flatMap
      (taskLoopReasons settings store readings leases)) :=
    .flatMap fun task _ => silent_taskLoopReasons settings store readings leases task
  have promotions : Silent ((store.listTasks "").flatMap
      (promotionReasons settings store readings)) :=
    .flatMap fun task _ => silent_promotionReasons settings store readings task
  constructor
  · intro found
    obtain ⟨reason, member, rule, named⟩ := found
    unfold stuckReasons at member
    simp only [mem_append] at member
    rcases member with ((other | active) | loop) | promotion
    · exact absurd rule (others reason (mem_append.mpr other))
    · obtain ⟨task, listed, own⟩ := mem_flatMap.mp active
      unfold activeReasons at own
      simp only [mem_append] at own
      rcases own with ((other | noise) | other) | other
      · exact absurd rule (silent_noArtifactReasons _ _ _ _ _ reason other)
      · refine ⟨task, listed, ?_⟩
        exact (reportsNoise_iff settings task _ _ taskId).mp ⟨reason, noise, rule, named⟩
      · exact absurd rule (silent_lostWorkerReasons _ _ _ reason other)
      · exact absurd rule (silent_unreconciledReasons _ _ _ _ reason other)
    · exact absurd rule (loops reason loop)
    · exact absurd rule (promotions reason promotion)
  · intro found
    obtain ⟨task, listed, reports⟩ := found
    obtain ⟨reason, noise, rule, named⟩ :=
      (reportsNoise_iff settings task (latestRun store task) _ taskId).mpr reports
    refine ⟨reason, ?_, rule, named⟩
    unfold stuckReasons
    simp only [mem_append]
    refine .inl (.inl (.inr (mem_flatMap.mpr ⟨task, listed, ?_⟩)))
    unfold activeReasons
    simp only [mem_append]
    exact .inl (.inl (.inr noise))

/-! ### The files behind a report -/

theorem timeout_pos : 0 < artifactTimeout settings := by
  unfold artifactTimeout WatchSettings.atLeastOne
  have atLeast : (1 : Int) ≤ max settings.noArtifactTimeoutSeconds 1 := le_max_right _ _
  exact_mod_cast lt_of_lt_of_le Int.zero_lt_one atLeast

variable {task : Task} {run : Run} {files : List RunFile}

theorem reportsNoise_inventory_iff
    (only : OnlyLivenessNoise settings store readings task run files) :
    ReportsNoise settings (inventoryOf settings readings.activeDirectory (some run)) ↔
      NoiseOnTheEdge settings readings run files := by
  have positive := timeout_pos settings
  have finds := InventoryScan.finds_run (artifactTimeout settings)
    (readings.activeDirectory run.id).epoch files
  obtain ⟨noise, listed, isNoise, _, _⟩ := only.noise
  have inventory : inventoryOf settings readings.activeDirectory (some run) =
      artifactInventory (artifactTimeout settings)
        (readings.activeDirectory run.id).epoch (some files) := by
    rw [inventoryOf, only.directory]
  rw [inventory]
  unfold ReportsNoise artifactInventory
  simp only
  revert finds
  generalize InventoryScan.run _ _ files = scan
  intro finds
  constructor
  · intro reports
    rcases reports with ⟨_, meaningful, window⟩ | ⟨_, _, _, aged, _, old⟩
    · have allNoise := finds.meaningful.mp meaningful
      obtain ⟨file, member, recent, _⟩ := (finds.window _ positive).mp window
      refine ⟨⟨file, member, allNoise file member recent, ?_⟩, ?_⟩
      · unfold RunFile.IsRecent at recent
        linarith
      · intro other otherMember meaningfulOther
        by_contra future
        refine meaningfulOther (allNoise other otherMember ?_)
        unfold RunFile.IsRecent
        linarith
    · obtain ⟨latest, _, rfl⟩ := Option.map_eq_some_iff.mp aged
      have past : artifactTimeout settings ≤
          (readings.activeDirectory run.id).epoch - scan.latestMtime :=
        (le_max_iff.mp old).resolve_left positive.not_ge
      have noiseBefore := finds.latest noise listed
      refine ⟨⟨noise, listed, isNoise, by linarith⟩, ?_⟩
      intro other otherMember _
      have otherBefore := finds.latest other otherMember
      linarith
  · intro onEdge
    obtain ⟨file, member, _, edge⟩ := onEdge.edge
    have recent : file.IsRecent (artifactTimeout settings)
        (readings.activeDirectory run.id).epoch := edge.ge
    refine .inl ⟨?_, finds.meaningful.mpr ?_, (finds.window _ positive).mpr ?_⟩
    · rw [finds.kinds, length_map, length_pos_iff_exists_mem]
      exact ⟨file, by simp [member, recent]⟩
    · intro other otherMember otherRecent
      by_contra meaningfulOther
      exact only.noOther other otherMember meaningfulOther
        ⟨otherRecent, onEdge.noFuture other otherMember meaningfulOther⟩
    · exact ⟨file, member, recent, by linarith⟩

theorem task_of_active {other : Task} (active : task ∈ tasksWith store .active)
    (otherActive : other ∈ tasksWith store .active)
    (same : task.id = other.id) : task = other := by
  have stored : ∀ listed ∈ tasksWith store .active, listed ∈ store.tasks.rows := by
    intro listed member
    have inList := (mem_filter.mp member).1
    exact (mem_filter.mp ((mem_orderBy _).mp inList)).1
  exact store.tasks.eq_of_key_eq (stored task active) (stored other otherActive) same

theorem matches_livenessNoise_iff (taskId : String) :
    (evaluateStuckState settings store readings).2.Matches livenessNoiseRule taskId ↔
      ∃ task ∈ tasksWith store .active, taskId = task.id ∧ ReportsNoise settings
          (inventoryOf settings readings.activeDirectory (latestRun store task)) := by
  have reasons := exists_noiseReason_iff settings (store.deleteExpiredLeases readings.now) readings
    (store.listTaskLeases readings.now none).2 taskId
  constructor
  · intro found
    exact reasons.mp found.2
  · intro found
    have named := reasons.mpr found
    refine ⟨?_, named⟩
    obtain ⟨reason, member, rule, _⟩ := named
    exact mem_eraseDups.mpr (mem_map.mpr ⟨reason, member, rule⟩)

theorem matches_iff_of_onlyNoise (only : OnlyLivenessNoise settings store readings task run files) :
    (evaluateStuckState settings store readings).2.Matches livenessNoiseRule task.id ↔
      NoiseOnTheEdge settings readings run files := by
  rw [matches_livenessNoise_iff, ← reportsNoise_inventory_iff settings store readings only]
  constructor
  · intro found
    obtain ⟨_, active, same, reports⟩ := found
    cases task_of_active store only.active active same
    rwa [only.latest] at reports
  · intro reports
    refine ⟨task, only.active, rfl, ?_⟩
    rwa [only.latest]

/-- The evaluation of what only makes noise matches the rule exactly when some
noise is as old as the timeout. -/
theorem livenessNoise_matches_iff (task : Task) (run : Run) (files : List RunFile) :
    (OnlyLivenessNoise settings store readings task run files →
        (evaluateStuckState settings store readings).2.Matches livenessNoiseRule task.id) ↔
      (OnlyLivenessNoise settings store readings task run files →
        NoiseOnTheEdge settings readings run files) :=
  imp_congr_right (matches_iff_of_onlyNoise settings store readings)

def heartbeatStore : Store where
  tasks := .single { id := "task_1", projectId := "project_1", status := .active }
  runs := .single
    { id := "run_1", taskId := "task_1", status := .working, attempt := 1 }

def heartbeatFiles : List RunFile :=
  [{ name := "plan.txt", mtime := 1800 },
    { name := "worker.heartbeat.json", mtime := 3540 }]

def heartbeatReadings : WatchReadings where
  now := secondsSpan 3600
  taskUpdatedAt _ := 0
  runUpdatedAt _ := 0
  activeDirectory _ := { files := some heartbeatFiles, epoch := 3600 }
  loopDirectory _ := {}
  supervisors := []

theorem not_matches_heartbeat :
    ¬ ∀ (settings : WatchSettings) (store : Store)
      (readings : WatchReadings) (task : Task) (run : Run)
      (files : List RunFile), OnlyLivenessNoise settings store readings task run files →
          (evaluateStuckState settings store readings).2.Matches livenessNoiseRule task.id := by
  intro claim
  have timeout : artifactTimeout {} = 600 := by norm_num [artifactTimeout, WatchSettings.atLeastOne]
  have only : OnlyLivenessNoise {} heartbeatStore heartbeatReadings
      { id := "task_1", projectId := "project_1", status := .active }
      { id := "run_1", taskId := "task_1", status := .working, attempt := 1 }
      heartbeatFiles := by
    refine ⟨mem_singleton.mpr rfl, rfl, rfl, by decide, ?_, ?_⟩
    · refine ⟨_, mem_cons_of_mem _ mem_cons_self, by decide, ?_⟩
      rw [timeout]
      norm_num [RunFile.ModifiedWithin, heartbeatReadings]
    · intro file member meaningful within
      rw [timeout] at within
      rcases mem_cons.mp member with plan | heartbeat
      · norm_num [plan, RunFile.ModifiedWithin, heartbeatReadings] at within
      · rw [mem_singleton.mp heartbeat] at meaningful
        exact absurd (by decide) meaningful
  obtain ⟨_, member, _, edge⟩ := ((matches_iff_of_onlyNoise _ _ _ only).mp
    (claim _ _ _ _ _ _ only)).edge
  rw [timeout] at edge
  rcases mem_cons.mp member with plan | heartbeat
  · norm_num [plan, heartbeatReadings] at edge
  · rw [mem_singleton.mp heartbeat] at edge
    norm_num [heartbeatReadings] at edge

end

end ControlWatchService

end AccruviaHarness
