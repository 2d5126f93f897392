import AccruviaHarness.Library.Runs
import AccruviaHarness.Services.InheritedDispositions

/-!
# Watching the reviews of promotions

Polls of `check_due_reviews` with what the provider answers, the crashes
between their store writes, and what the rest of the harness does in between.
-/

namespace AccruviaHarness

open Library List Bool

structure ReviewStatus where
  url : String
  state : String
  mergeState : String
  hasConflicts : Bool

/-- What `_fetch_status` ends with. -/
inductive ProviderAnswer where
  | runtimeError (message : String)
  | noReview
  | found (status : ReviewStatus)

inductive ReviewEvent where
  | promotionReviewSynced (taskId promotionId : String) (reviewWatch : PyDict)
  | promotionMergeConflictDetected (taskId promotionId followOnTaskId : String)
      (reviewWatch : PyDict)
  | promotionMerged (taskId promotionId : String) (reviewWatch : PyDict)

namespace ReviewEvent

/-- `promotion_merged` of the promotion. -/
def isMergedOf (promotionId : String) : ReviewEvent → Bool
  | .promotionMerged _ merged _ => merged = promotionId
  | _ => false

end ReviewEvent

inductive ReviewWrite where
  | updatePromotion (promotion : PromotionRecord)
  | createPlans (plans : KeyedTable Plan.id)
  | createTask (task : Task)
  | updateTaskExternalMetadata (taskId : String) (metadata : PyDict)
  | createEvent (event : ReviewEvent)

namespace ReviewWrite

def onStore (store : Store) : ReviewWrite → Store
  | .updatePromotion promotion => store.updatePromotion promotion
  | .createPlans plans => { store with plans }
  | .createTask task => store.createTask task
  | .updateTaskExternalMetadata taskId metadata => store.updateTaskExternalMetadata taskId metadata
  | .createEvent _ => store

def event? : ReviewWrite → Option ReviewEvent
  | .createEvent event => some event
  | _ => none

def changesPromotion : ReviewWrite → Bool
  | .updatePromotion _ => true
  | _ => false

/-- The writes that a snapshot owes: the follow-on and `promotion_merged`. -/
def isOwed : ReviewWrite → Bool
  | .createTask _ => true
  | .createEvent (.promotionMerged _ _ _) => true
  | _ => false

end ReviewWrite

structure WatchTarget where
  task : Task
  provider : RepoProvider
  repoName : String
  branchName : String
  prUrl : PyValue

namespace ReviewWatcherService

variable (promotion : PromotionRecord)

/-- `watch.get(key) if isinstance(watch, dict) else None`. -/
def watchGet (key : String) : PyValue :=
  match promotion.details.get "review_watch" with
  | .dict watch => PyDict.get watch key
  | _ => .none

/-- `previous_conflicts is True`. -/
def inConflict : Bool :=
  match watchGet promotion "has_conflicts" with
  | .bool conflicts => conflicts
  | _ => false

/-- `previous_state == "merged"`. -/
def isMerged : Bool := (watchGet promotion "state").isText "merged"

variable (interval now : Int)

/-- Whether the interval has passed since the promotion was checked. A time is
kept as its microseconds, where the source has its `isoformat`. -/
def isDue (promotion : PromotionRecord) : Bool :=
  match watchGet promotion "last_checked_at" with
  | .int last => !decide (now - last < interval * 1000000)
  | _ => true

def repositoryOf (store : Store) (task : Task) (applyback : PyDict) : Option WatchTarget :=
  match store.getProject task.projectId with
  | none => none
  | some project =>
    match project.repoProvider, project.repoName with
    | some provider, some repoName =>
      let branchName := (applyback.get "branch_name").orEmpty
      if repoName = "" ∨ branchName = "" then none
      else some { task, provider, repoName, branchName, prUrl := applyback.get "pr_url" }
    | _, _ => none

def watchTarget (store : Store) (promotion : PromotionRecord) : Option WatchTarget :=
  match promotion.status, promotion.details.get "applyback" with
  | .approved, .dict applyback =>
    if (PyDict.get applyback "status").isText "applied" &&
        (PyDict.get applyback "pr_url").truthy && isDue interval now promotion then
      (store.getTask promotion.taskId).bind fun task => repositoryOf store task applyback
    else none
  | _, _ => none

section

variable (identities : Store → TaskIdentities) (now : Int) (store : Store)
  (promotion : PromotionRecord) (target : WatchTarget) (status : ReviewStatus)

def reviewUrl : PyValue := if status.url ≠ "" then .str status.url else target.prUrl

def reviewWatch : PyDict :=
  [("last_checked_at", .int now), ("state", .str status.state),
    ("merge_state", .str status.mergeState),
    ("has_conflicts", .bool status.hasConflicts), ("url", reviewUrl target status),
    ("branch_name", .str target.branchName)]

/-- `updated`: the promotion with the new snapshot. -/
def snapshot : PromotionRecord :=
  { promotion with
    details := promotion.details.set "review_watch"
      (.dict (reviewWatch now target status)) }

def conflictingReview : ConflictingReview where
  parentTaskId := target.task.id
  sourceRunId := promotion.runId
  branchName := target.branchName
  reviewUrl := some (reviewUrl target status).toStr

/-- The store writes of `_ensure_conflict_follow_on` with a task service, up to
its result. -/
def followOnWrites (identities : TaskIdentities) (store : Store)
    (review : ConflictingReview) : List ReviewWrite × Except PyError String :=
  match store.findFollowOnTask review.parentTaskId review.sourceRunId with
  | some existing => ([], .ok existing.id)
  | none =>
    match TaskService.followOnRow identities store (conflictArguments review) with
    | .error error => ([], .error error)
    | .ok row =>
      match TaskService.referencedTask store row with
      | some existing =>
        ([.updateTaskExternalMetadata existing.id (mergedMetadata store review)], .ok existing.id)
      | none =>
        match TaskService.ensurePlanLinkage identities store row with
        | .error error => ([], .error error)
        | .ok (planned, linked) =>
          match planned.tasks.insert? linked with
          | none =>
            ([.createPlans planned.plans],
              .error (.integrityError "UNIQUE constraint failed: tasks.id"))
          | some tasks =>
            ([.createPlans planned.plans, .createTask linked, .updateTaskExternalMetadata linked.id
                (mergedMetadata { planned with tasks } review)],
              .ok linked.id)

def mergedWrites : List ReviewWrite :=
  if status.state = "merged" ∧ isMerged promotion = false then
    [.createEvent (.promotionMerged target.task.id promotion.id (reviewWatch now target status))]
  else []

def checkWrites : List ReviewWrite × Option PyError :=
  let watch := reviewWatch now target status
  -- nothing below reads a promotion, so the store before the snapshot will do
  let saved := [ ReviewWrite.updatePromotion (snapshot now promotion target status),
    .createEvent (.promotionReviewSynced target.task.id promotion.id watch)]
  if status.hasConflicts ∧ inConflict promotion = false then
    match followOnWrites (identities store) store
        (conflictingReview promotion target status) with
    | (writes, .error error) => (saved ++ writes, some error)
    | (writes, .ok followOnTaskId) =>
      (saved ++ writes ++ [.createEvent (.promotionMergeConflictDetected target.task.id promotion.id
          followOnTaskId watch)] ++
        mergedWrites now promotion target status, none)
  else (saved ++ mergedWrites now promotion target status, none)

end

def isRebaseOf (promotion : PromotionRecord) (task : Task) : Bool :=
  task.parentTaskId = some promotion.taskId && task.sourceRunId = some promotion.runId &&
    task.title = "Rebase approved change onto current main"

def isUnfinished (task : Task) : Bool := decide (task.status ∈ [TaskStatus.pending, .active])

def attended (store : Store) (promotion : PromotionRecord) : Bool :=
  store.tasks.rows.any fun task => isRebaseOf promotion task && isUnfinished task

end ReviewWatcherService

open ReviewWatcherService

/-- What the rest of the harness does between two polls. A task keeps its
parent, its run and its title, a promotion its task, its run and its details. -/
structure OutsideChange where
  rest : Store
  task : Task → Task
  promotion : PromotionRecord → PromotionRecord
  newTasks : List Task
  newPromotions : List PromotionRecord

namespace OutsideChange

variable (change : OutsideChange)

def changeTask : RowUpdate Task.id where
  apply row :=
    { change.task row with
      id := row.id, parentTaskId := row.parentTaskId, sourceRunId := row.sourceRunId
      title := row.title }
  keepsKey _ := rfl

def changePromotion : RowUpdate PromotionRecord.id where
  apply row :=
    { change.promotion row with
      id := row.id, taskId := row.taskId, runId := row.runId, details := row.details }
  keepsKey _ := rfl

def addAll {Row Key : Type} [DecidableEq Key] {key : Row → Key}
    (table : KeyedTable key) (rows : List Row) : KeyedTable key :=
  rows.foldl (fun table row => (table.insert? row).getD table) table

def isUnwatched (promotion : PromotionRecord) : Bool :=
  match promotion.details.get "review_watch" with
  | .none => true
  | _ => false

def apply (store : Store) : Store :=
  { change.rest with
    tasks := addAll (store.tasks.modify change.changeTask) change.newTasks
    promotions :=
      addAll (store.promotions.modify change.changePromotion)
        (change.newPromotions.filter isUnwatched) }

end OutsideChange

structure PollReport where
  returned : Bool
  due : List String
  queried : List String
  unattended : List String

namespace PollReport

def isGood (report : PollReport) : Bool :=
  report.returned && report.due.all (fun id => decide (id ∈ report.queried)) &&
    report.unattended.isEmpty

end PollReport

/-- A poll before its next promotion. `due` has the promotions that were to be
queried when it began, `conflicts` those that it saw in conflict. -/
structure Poll where
  interval : Int
  now : Int
  remaining : List PromotionRecord
  due : List String
  queried : List String := []
  conflicts : List PromotionRecord := []

/-- `resolved` has the promotions with a follow-on that was finished during
their present conflict, `merges` those that a poll saw merged since the last
crash. -/
structure WatchWorld where
  store : Store
  events : List ReviewEvent := []
  poll : Option Poll := none
  resolved : List String := []
  merges : List String := []
  reports : List PollReport := []

inductive WatchEvent where
  | poll (interval now : Int)
  /-- The loop goes on to its next promotion. A crash cuts the store writes. -/
  | check (answer : ProviderAnswer) (crashAfter : Option Nat)
  | crash
  | outside (change : OutsideChange)

namespace WatchWorld

variable (identities : Store → TaskIdentities) (world : WatchWorld)

def mergedCount (promotionId : String) : Nat :=
  (world.events.filter (ReviewEvent.isMergedOf promotionId)).length

def close (poll : Poll) (returned : Bool) : WatchWorld :=
  { world with
    poll := none
    reports := world.reports ++ [{
      returned
      due := poll.due
      queried := poll.queried
      unattended := (poll.conflicts.filter fun promotion =>
        !attended world.store promotion &&
          decide (promotion.id ∉ world.resolved)).map PromotionRecord.id }] }

def record (promotion : PromotionRecord) (status : ReviewStatus)
    (writes : List ReviewWrite) : WatchWorld :=
  { world with
    store := writes.foldl ReviewWrite.onStore world.store
    events := world.events ++ writes.filterMap ReviewWrite.event?
    resolved :=
      if writes = [] ∨ (status.hasConflicts ∧ inConflict promotion) then world.resolved
      else world.resolved.filter fun id => id ≠ promotion.id
    merges := if status.state = "merged" then world.merges ++ [promotion.id] else world.merges }

def crashed : WatchWorld := { world with poll := none, merges := [] }

def answered (poll : Poll) (promotion : PromotionRecord) (target : WatchTarget)
    (crashAfter : Option Nat) : ProviderAnswer → WatchWorld
  | .runtimeError _ => world.close poll false
  | .noReview => { world with poll := some poll }
  | .found status =>
    let (writes, error) := checkWrites identities poll.now world.store promotion target status
    match crashAfter, error with
    | some count, _ => (world.record promotion status (writes.take count)).crashed
    | none, some _ => (world.record promotion status writes).close poll false
    | none, none =>
      { world.record promotion status writes with
        poll := some
          { poll with
            conflicts :=
              if status.hasConflicts then poll.conflicts ++ [promotion]
              else poll.conflicts } }

def check (poll : Poll) (answer : ProviderAnswer) (crashAfter : Option Nat) : WatchWorld :=
  match poll.remaining with
  | [] => world.close poll true
  | promotion :: remaining =>
    match watchTarget poll.interval poll.now world.store promotion with
    | none => { world with poll := some { poll with remaining } }
    | some target =>
      world.answered identities
        { poll with remaining, queried := poll.queried ++ [promotion.id] }
        promotion target crashAfter answer

def finishedBy (change : OutsideChange) : List String :=
  (world.store.promotions.rows.filter fun promotion =>
    inConflict promotion && world.store.tasks.rows.any fun task =>
      isRebaseOf promotion task && isUnfinished task &&
        !isUnfinished (change.changeTask.apply task)).map PromotionRecord.id

def step (event : WatchEvent) : Option WatchWorld :=
  match event, world.poll with
  | .poll interval now, none =>
    let promotions := world.store.listPromotions ""
    some { world with
      poll := some
        { interval, now, remaining := promotions
          due := (promotions.filter fun promotion =>
            (watchTarget interval now world.store promotion).isSome).map PromotionRecord.id } }
  | .check answer crashAfter, some poll => some (world.check identities poll answer crashAfter)
  | .crash, _ => some world.crashed
  | .outside change, none =>
    some { world with
      store := change.apply world.store
      resolved := world.resolved ++ world.finishedBy change }
  | _, _ => none

/-- A status that keeps what the snapshots promise: a merged review stays
merged, the task that is found for a new conflict is an unfinished rebase
follow-on or there is none and one can be created, and a crash does not fall
between a snapshot and the writes that it owes. -/
def keepsPromises (now : Int) (promotion : PromotionRecord) (target : WatchTarget)
    (status : ReviewStatus) (crashAfter : Option Nat) : Bool :=
  let (writes, _) := checkWrites identities now world.store promotion target status
  let staysMerged := !isMerged promotion || decide (status.state = "merged")
  let follows :=
    !(status.hasConflicts && !inConflict promotion) ||
      match world.store.findFollowOnTask promotion.taskId promotion.runId with
      | some existing => isRebaseOf promotion existing && isUnfinished existing
      | none =>
        decide (promotion.taskId ≠ "") &&
          (TaskService.createFollowOn (identities world.store) world.store
            (conflictArguments (conflictingReview promotion target status))).toBool
  let survives :=
    match crashAfter with
    | none => true
    | some count => count = 0 || (writes.drop count).all fun write => !write.isOwed
  staysMerged && follows && survives

def favourable (event : WatchEvent) : Bool :=
  match event, world.poll with
  | .check answer crashAfter, some poll =>
    match poll.remaining with
    | [] => true
    | promotion :: _ =>
      match watchTarget poll.interval poll.now world.store promotion, answer with
      | some _, .runtimeError _ => false
      | some target, .found status =>
        world.keepsPromises identities poll.now promotion target status crashAfter
      | _, _ => true
  | _, _ => true

structure Watches : Prop where
  polls : ∀ report ∈ world.reports, report.isGood = true
  once : ∀ promotionId, world.mergedCount promotionId ≤ 1
  merged : ∀ promotionId ∈ world.merges, 1 ≤ world.mergedCount promotionId

end WatchWorld

/-!
## What the writes of a check change
-/

structure Framed (before after : Store) : Prop where
  tasks : ∀ task ∈ before.tasks.rows, ∃ kept ∈ after.tasks.rows,
    kept.id = task.id ∧ kept.projectId = task.projectId ∧
      kept.parentTaskId = task.parentTaskId ∧ kept.sourceRunId = task.sourceRunId ∧
      kept.title = task.title ∧ kept.status = task.status
  projects : after.projects = before.projects

namespace Framed

variable {before middle after : Store}

theorem of_same (tasks : after.tasks = before.tasks) (projects : after.projects = before.projects) :
    Framed before after where
  tasks task member := by
    rw [tasks]
    exact ⟨task, member, rfl, rfl, rfl, rfl, rfl, rfl⟩
  projects

theorem trans (first : Framed before middle) (second : Framed middle after) :
    Framed before after where
  tasks task member := by
    obtain ⟨kept, keptMember, ids, projects, parents, runs, titles, statuses⟩ :=
      first.tasks task member
    obtain ⟨last, lastMember, sameId, sameProject, sameParent, sameRun, sameTitle, sameStatus⟩ :=
      second.tasks kept keptMember
    exact ⟨last, lastMember, sameId.trans ids, sameProject.trans projects,
      sameParent.trans parents, sameRun.trans runs, sameTitle.trans titles,
      sameStatus.trans statuses⟩
  projects := second.projects.trans first.projects

theorem onStore (store : Store) (write : ReviewWrite) : Framed store (write.onStore store) := by
  cases write with
  | updatePromotion _ => exact of_same rfl rfl
  | createPlans _ => exact of_same rfl rfl
  | createEvent _ => exact of_same rfl rfl
  | createTask task =>
    show Framed store (store.createTask task)
    unfold Store.createTask
    split
    next tasks inserted =>
      refine ⟨fun row member => ⟨row, ?_, rfl, rfl, rfl, rfl, rfl, rfl⟩, rfl⟩
      rw [KeyedTable.rows_of_insert? inserted]
      exact mem_append_left _ member
    · exact of_same rfl rfl
  | updateTaskExternalMetadata _ _ =>
    refine ⟨fun row member => ?_, rfl⟩
    refine ⟨_, mem_map_of_mem member, ?_⟩
    dsimp only [RowUpdate.at]
    split <;> exact ⟨rfl, rfl, rfl, rfl, rfl, rfl⟩

theorem foldl (store : Store) (writes : List ReviewWrite) :
    Framed store (writes.foldl ReviewWrite.onStore store) := by
  induction writes generalizing store with
  | nil => exact of_same rfl rfl
  | cons write _ ih => exact (onStore store write).trans (ih (write.onStore store))

variable {promotion : PromotionRecord}

theorem attended (framed : Framed before after) (holds : attended before promotion = true) :
    ReviewWatcherService.attended after promotion = true := by
  obtain ⟨task, member, holds⟩ := any_eq_true.mp holds
  obtain ⟨kept, keptMember, _, _, parent, run, title, status⟩ := framed.tasks task member
  refine any_eq_true.mpr ⟨kept, keptMember, ?_⟩
  unfold isRebaseOf isUnfinished at holds ⊢
  rw [parent, run, title, status]
  exact holds

theorem isSome_watchTarget (framed : Framed before after) {interval now : Int}
    (watchable : (watchTarget interval now before promotion).isSome = true) :
    (watchTarget interval now after promotion).isSome = true := by
  unfold watchTarget at watchable ⊢
  split
  next applyback approved applied =>
    rw [approved, applied] at watchable
    dsimp only at watchable
    split at watchable
    next holds =>
      rw [if_pos holds]
      cases found : before.getTask promotion.taskId with
      | none => simp [found] at watchable
      | some task =>
        obtain ⟨member, own⟩ := before.tasks.lookup_eq_some_iff.mp found
        obtain ⟨kept, keptMember, sameId, sameProject, _⟩ := framed.tasks task member
        have foundAfter : after.getTask promotion.taskId = some kept :=
          after.tasks.lookup_eq_some_iff.mpr ⟨keptMember, sameId.trans own⟩
        rw [found] at watchable
        rw [foundAfter]
        simp only [Option.bind_some, repositoryOf, Store.getProject] at watchable ⊢
        rw [sameProject, framed.projects]
        cases known : before.projects.lookup task.projectId with
        | none => simp [known] at watchable
        | some project =>
          rw [known] at watchable
          dsimp only at watchable ⊢
          cases provider : project.repoProvider with
          | none => simp [provider] at watchable
          | some _ =>
            cases name : project.repoName with
            | none => simp [provider, name] at watchable
            | some _ =>
              rw [provider, name] at watchable
              dsimp only at watchable ⊢
              split at watchable
              · simp at watchable
              next named => simp [named]
    · simp at watchable
  next other =>
    split at watchable
    next applyback approved applied => exact absurd applied (other applyback approved)
    · simp at watchable

end Framed

namespace ReviewWatcherService

theorem promotions_foldl {writes : List ReviewWrite}
    (kept : ∀ write ∈ writes, write.changesPromotion = false) (store : Store) :
    (writes.foldl ReviewWrite.onStore store).promotions = store.promotions := by
  induction writes generalizing store with
  | nil => rfl
  | cons write _ ih =>
    rw [forall_mem_cons] at kept
    rw [foldl_cons, ih kept.2]
    cases write with
    | updatePromotion _ => cases kept.1
    | createPlans _ => rfl
    | createEvent _ => rfl
    | updateTaskExternalMetadata _ _ => rfl
    | createTask task =>
      show (store.createTask task).promotions = store.promotions
      unfold Store.createTask
      split <;> rfl

variable (promotionId : String)

/-- The `promotion_merged` events of the promotion among the writes. -/
def mergedAmong (writes : List ReviewWrite) : Nat :=
  ((writes.filterMap ReviewWrite.event?).filter (ReviewEvent.isMergedOf promotionId)).length

theorem mergedAmong_append (first second : List ReviewWrite) :
    mergedAmong promotionId (first ++ second) =
      mergedAmong promotionId first + mergedAmong promotionId second := by
  simp [mergedAmong]

theorem mergedAmong_of_not_owed {promotionId : String} {writes : List ReviewWrite}
    (clear : ∀ write ∈ writes, write.isOwed = false) : mergedAmong promotionId writes = 0 := by
  unfold mergedAmong
  rw [length_eq_zero_iff, filter_eq_nil_iff]
  intro event member isMerged
  obtain ⟨write, writeMember, carried⟩ := mem_filterMap.mp member
  have own := clear write writeMember
  cases write with
  | createEvent _ =>
    cases carried
    cases event with
    | promotionMerged _ _ _ => cases own
    | promotionReviewSynced _ _ _ => cases isMerged
    | promotionMergeConflictDetected _ _ _ _ => cases isMerged
  | updatePromotion _ => cases carried
  | createPlans _ => cases carried
  | createTask _ => cases carried
  | updateTaskExternalMetadata _ _ => cases carried

variable {identities : Store → TaskIdentities} {now : Int} {store : Store}
  {promotion : PromotionRecord} {target : WatchTarget} {status : ReviewStatus}
  {review : ConflictingReview}

theorem followOnWrites_plain (review : ConflictingReview) :
    ∀ write ∈ (followOnWrites (identities store) store review).1,
      write.changesPromotion = false ∧ write.event? = none := by
  unfold followOnWrites
  split
  · simp
  · split
    · simp
    · split
      · simp [ReviewWrite.changesPromotion, ReviewWrite.event?]
      · split
        · simp
        · split <;> simp [ReviewWrite.changesPromotion, ReviewWrite.event?]

variable (promotionId : String)

theorem mergedAmong_followOnWrites (review : ConflictingReview) :
    mergedAmong promotionId (followOnWrites (identities store) store review).1 = 0 := by
  unfold mergedAmong
  rw [filterMap_eq_nil_iff.mpr fun write member => (followOnWrites_plain review write member).2]
  rfl

theorem mergedAmong_mergedWrites :
    mergedAmong promotionId (mergedWrites now promotion target status) =
      if promotion.id = promotionId ∧ status.state = "merged" ∧ isMerged promotion = false then 1
      else 0 := by
  unfold mergedWrites
  by_cases new : status.state = "merged" ∧ isMerged promotion = false
  · rw [if_pos new]
    by_cases own : promotion.id = promotionId
    · simp [mergedAmong, ReviewWrite.event?, ReviewEvent.isMergedOf, own, new]
    · simp [mergedAmong, ReviewWrite.event?, ReviewEvent.isMergedOf, own]
  · rw [if_neg new, if_neg fun holds => new holds.2]
    rfl

theorem checkWrites_snapshot :
    ∃ rest, (checkWrites identities now store promotion target status).1 =
        .updatePromotion (snapshot now promotion target status) :: rest ∧
      ∀ write ∈ rest, write.changesPromotion = false := by
  have merging : ∀ write ∈ mergedWrites now promotion target status,
      write.changesPromotion = false := by
    unfold mergedWrites
    split <;> simp [ReviewWrite.changesPromotion]
  have following := @followOnWrites_plain identities store
    (conflictingReview promotion target status)
  unfold checkWrites
  split
  · split
    next writes error ended =>
      rw [ended] at following
      refine ⟨_, rfl, fun write member => ?_⟩
      rcases mem_cons.mp member with rfl | member
      · rfl
      · exact (following write member).1
    next writes followOnTaskId ended =>
      rw [ended] at following
      refine ⟨.createEvent (.promotionReviewSynced target.task.id promotion.id
          (reviewWatch now target status)) :: (writes ++
            .createEvent (.promotionMergeConflictDetected target.task.id promotion.id
              followOnTaskId (reviewWatch now target status)) ::
              mergedWrites now promotion target status), by simp, fun write member => ?_⟩
      simp only [mem_cons, mem_append] at member
      rcases member with rfl | member | rfl | member
      · rfl
      · exact (following write member).1
      · rfl
      · exact merging write member
  · refine ⟨_, rfl, fun write member => ?_⟩
    rcases mem_cons.mp member with rfl | member
    · rfl
    · exact merging write member

theorem mergedAmong_checkWrites
    (returned : (checkWrites identities now store promotion target status).2 = none) :
    mergedAmong promotionId (checkWrites identities now store promotion target status).1 =
      if promotion.id = promotionId ∧ status.state = "merged" ∧ isMerged promotion = false then 1
      else 0 := by
  have following := @mergedAmong_followOnWrites identities store
    promotionId (conflictingReview promotion target status)
  rw [← @mergedAmong_mergedWrites now _ target _ promotionId]
  unfold checkWrites at returned ⊢
  split
  next changed =>
    rw [if_pos changed] at returned
    split
    next writes error ended =>
      rw [ended] at returned
      cases returned
    next writes followOnTaskId ended =>
      rw [ended] at following
      simp only [mergedAmong_append, following]
      simp [mergedAmong, ReviewWrite.event?, ReviewEvent.isMergedOf]
  · rw [mergedAmong_append]
    exact Nat.zero_add _

/-- The writes together are `ensureConflictFollowOn` with a task service. -/
theorem ensureConflictFollowOn_eq (identities : TaskIdentities) (store : Store)
    (review : ConflictingReview) :
    ensureConflictFollowOn true identities store review =
      (followOnWrites identities store review).2.map fun followOnTaskId =>
        ((followOnWrites identities store review).1.foldl ReviewWrite.onStore store,
          some followOnTaskId) := by
  unfold ensureConflictFollowOn followOnWrites
  rw [if_neg (by decide)]
  cases store.findFollowOnTask review.parentTaskId review.sourceRunId with
  | some _ => rfl
  | none =>
    unfold createConflictFollowOn TaskService.createFollowOn
    cases TaskService.followOnRow identities store (conflictArguments review) with
    | error _ => rfl
    | ok row =>
      rw [ok_bind]
      unfold TaskService.createTask
      dsimp only
      cases TaskService.referencedTask store row with
      | some _ => rfl
      | none =>
        cases ensured : TaskService.ensurePlanLinkage identities store row with
        | error _ => rfl
        | ok pair =>
          obtain ⟨_, linked⟩ := pair
          obtain ⟨⟨_, rfl⟩, _⟩ := TaskService.ensurePlanLinkage_spec ensured
          dsimp only
          cases inserted : store.tasks.insert? linked with
          | none => rfl
          | some _ =>
            show Except.ok _ = Except.ok _
            simp [ReviewWrite.onStore, Store.createTask, inserted]

theorem followOnWrites_of_created {written : Store} {followOn : Task}
    (missing : store.findFollowOnTask review.parentTaskId review.sourceRunId = none)
    (created : TaskService.createFollowOn (identities store) store (conflictArguments review) =
      .ok (written, followOn))
    (named : review.parentTaskId ≠ "") :
    ∃ plans linked tasks metadata, followOnWrites (identities store) store review =
        ([.createPlans plans, .createTask linked,
          .updateTaskExternalMetadata linked.id metadata], .ok linked.id) ∧
      store.tasks.insert? linked = some tasks ∧
      linked.parentTaskId = some review.parentTaskId ∧
      linked.sourceRunId = some review.sourceRunId ∧
      linked.title = "Rebase approved change onto current main" ∧
      linked.status = .pending := by
  obtain ⟨_, planned, created⟩ := exists_of_bind_ok created
  obtain ⟨parent, scope, _, rfl⟩ := TaskService.followOnRow_spec planned
  have unreferenced : TaskService.referencedTask store
      (TaskService.policyTask (identities store) ((conflictArguments review).policy parent)
        scope) = none := by
    unfold TaskService.referencedTask
    rw [if_neg fun referenced => named referenced.2.2.1]
  unfold followOnWrites
  rw [missing, planned]
  dsimp only
  rw [unreferenced]
  unfold TaskService.createTask at created
  rw [unreferenced] at created
  cases ensured : TaskService.ensurePlanLinkage (identities store) store
      (TaskService.policyTask (identities store) ((conflictArguments review).policy parent)
        scope) with
  | error _ =>
    rw [ensured] at created
    cases created
  | ok pair =>
    obtain ⟨_, _⟩ := pair
    obtain ⟨⟨_, rfl⟩, _, _, rfl⟩ := TaskService.ensurePlanLinkage_spec ensured
    rw [ensured] at created
    dsimp only at created ⊢
    split at created
    next tasks inserted =>
      rw [inserted]
      exact ⟨_, _, tasks, _, rfl, inserted, rfl, rfl, rfl, rfl⟩
    · cases created

def Followable (identities : Store → TaskIdentities) (store : Store)
    (promotion : PromotionRecord) (target : WatchTarget) (status : ReviewStatus) : Prop :=
  (∃ existing, store.findFollowOnTask promotion.taskId promotion.runId = some existing ∧
      isRebaseOf promotion existing = true ∧ isUnfinished existing = true) ∨
    store.findFollowOnTask promotion.taskId promotion.runId = none ∧ promotion.taskId ≠ "" ∧
      ∃ written followOn, TaskService.createFollowOn (identities store) store
        (conflictArguments (conflictingReview promotion target status)) = .ok (written, followOn)

theorem returned_of_followable (own : target.task.id = promotion.taskId)
    (followable : status.hasConflicts = true → inConflict promotion = false →
      Followable identities store promotion target status) :
    (checkWrites identities now store promotion target status).2 = none := by
  unfold checkWrites
  split
  next changed =>
    have reviewed : (conflictingReview promotion target status).parentTaskId =
        promotion.taskId := own
    rcases followable changed.1 changed.2 with
      ⟨existing, found, _⟩ | ⟨missing, named, _, _, created⟩
    · have writes : followOnWrites (identities store) store
          (conflictingReview promotion target status) = ([], .ok existing.id) := by
        unfold followOnWrites
        rw [reviewed, show (conflictingReview promotion target status).sourceRunId =
          promotion.runId from rfl, found]
      rw [writes]
    · obtain ⟨_, _, _, _, writes, _⟩ := @followOnWrites_of_created identities _ _ _ _
        (by rw [reviewed]; exact missing) created (by rw [reviewed]; exact named)
      rw [writes]
  · rfl

theorem attended_of_found {existing : Task}
    (found : store.findFollowOnTask promotion.taskId promotion.runId = some existing)
    (rebase : isRebaseOf promotion existing = true)
    (unfinished : isUnfinished existing = true) : attended store promotion = true := by
  unfold Store.findFollowOnTask at found
  have member := mem_of_mem_head? found
  rw [mem_orderBy, mem_filter] at member
  exact any_eq_true.mpr ⟨existing, member.1, by rw [rebase, unfinished]; rfl⟩

theorem mem_rows_createTask {current : Store} {task : Task} {tasks : KeyedTable Task.id}
    (same : current.tasks = store.tasks) (inserted : store.tasks.insert? task = some tasks) :
    task ∈ (current.createTask task).tasks.rows := by
  unfold Store.createTask
  rw [same, inserted]
  rw [KeyedTable.rows_of_insert? inserted]
  exact mem_append_right _ mem_cons_self

theorem attended_of_followable (own : target.task.id = promotion.taskId)
    (conflict : status.hasConflicts = true) (new : inConflict promotion = false)
    (followable : Followable identities store promotion target status)
    {done left : List ReviewWrite}
    (split : (checkWrites identities now store promotion target status).1 = done ++ left)
    (clear : ∀ write ∈ left, write.isOwed = false) :
    attended (done.foldl ReviewWrite.onStore store) promotion = true := by
  rcases followable with
    ⟨_, found, rebase, unfinished⟩ | ⟨missing, named, _, _, created⟩
  · exact (Framed.foldl store done).attended (attended_of_found found rebase unfinished)
  · have reviewed : (conflictingReview promotion target status).parentTaskId =
        promotion.taskId := own
    obtain ⟨plans, linked, _, _, writes, inserted, parent, run, title, pending⟩ :=
      @followOnWrites_of_created identities _ _ _ _ (by rw [reviewed]; exact missing)
        created (by rw [reviewed]; exact named)
    let first : List ReviewWrite :=
      [.updatePromotion (snapshot now promotion target status),
        .createEvent (.promotionReviewSynced target.task.id promotion.id
          (reviewWatch now target status)),
        .createPlans plans]
    have whole : ∃ others, (checkWrites identities now store promotion target status).1 =
        first ++ .createTask linked :: others := by
      unfold checkWrites
      rw [if_pos ⟨conflict, new⟩, writes]
      exact ⟨_, rfl⟩
    obtain ⟨others, whole⟩ := whole
    have inserts : ∃ others, done = first ++ .createTask linked :: others := by
      rw [whole] at split
      rcases append_eq_append_iff.mp split with ⟨middle, ended, later⟩ | ⟨middle, ended, later⟩
      · cases middle with
        | nil =>
          rw [nil_append] at later
          have owed := clear (.createTask linked) (by rw [← later]; exact mem_cons_self)
          cases owed
        | cons _ rest =>
          rw [cons_append] at later
          obtain ⟨rfl, _⟩ := List.cons.inj later
          exact ⟨rest, ended⟩
      · have owed := clear (.createTask linked) (by rw [later]; simp)
        cases owed
    obtain ⟨rest, rfl⟩ := inserts
    have placed : attended ((first ++ [ReviewWrite.createTask linked]).foldl ReviewWrite.onStore store)
        promotion = true := by
      refine any_eq_true.mpr ⟨linked, ?_, ?_⟩
      · exact mem_rows_createTask rfl inserted
      · unfold isRebaseOf isUnfinished
        rw [parent, run, title, pending, reviewed]
        simp [conflictingReview]
    have grown := (Framed.foldl ((first ++ [ReviewWrite.createTask linked]).foldl ReviewWrite.onStore store)
      rest).attended placed
    rw [← foldl_append] at grown
    simpa using grown

end ReviewWatcherService

/-!
## Every run
-/

namespace WatchWorld

variable {identities : Store → TaskIdentities} {world : WatchWorld} {now : Int}
  {promotion row : PromotionRecord} {target : WatchTarget} {status : ReviewStatus}

structure Tracked (world : WatchWorld) : Prop where
  attended : ∀ row ∈ world.store.promotions.rows, inConflict row = true →
    ReviewWatcherService.attended world.store row = true ∨ row.id ∈ world.resolved
  counted : ∀ row ∈ world.store.promotions.rows,
    world.mergedCount row.id = if isMerged row then 1 else 0
  unknown : ∀ promotionId, (∀ row ∈ world.store.promotions.rows, row.id ≠ promotionId) →
    world.mergedCount promotionId = 0
  observed : ∀ promotionId ∈ world.merges, ∃ row ∈ world.store.promotions.rows,
    row.id = promotionId ∧ isMerged row = true
  reports : ∀ report ∈ world.reports, report.isGood = true

structure Polling (world : WatchWorld) (poll : Poll) : Prop where
  remaining : ∀ row ∈ poll.remaining, row ∈ world.store.promotions.rows
  distinct : (poll.remaining.map PromotionRecord.id).Nodup
  conflicts : ∀ seen ∈ poll.conflicts, (∀ row ∈ poll.remaining, row.id ≠ seen.id) ∧
    ∃ row ∈ world.store.promotions.rows, row.id = seen.id ∧ row.taskId = seen.taskId ∧
      row.runId = seen.runId ∧ inConflict row = true
  due : ∀ promotionId ∈ poll.due, promotionId ∈ poll.queried ∨
    ∃ row ∈ poll.remaining, row.id = promotionId ∧
      (watchTarget poll.interval poll.now world.store row).isSome = true

structure Sound (world : WatchWorld) : Prop where
  tracked : Tracked world
  polling : ∀ poll, world.poll = some poll → Polling world poll

theorem Tracked.watches (tracked : Tracked world) : Watches world where
  polls := tracked.reports
  once promotionId := by
    by_cases known : ∃ row ∈ world.store.promotions.rows, row.id = promotionId
    · obtain ⟨row, member, rfl⟩ := known
      rw [tracked.counted row member]
      split <;> omega
    · rw [tracked.unknown promotionId fun row member same => known ⟨row, member, same⟩]
      omega
  merged promotionId member := by
    obtain ⟨row, rowMember, rfl, merged⟩ := tracked.observed promotionId member
    rw [tracked.counted row rowMember, if_pos merged]

variable {store : Store} {done left : List ReviewWrite}
  {crashAfter : Option Nat} {answer : ProviderAnswer} {Row Key : Type}
  {key : Row → Key} {table : KeyedTable key} {rows : List Row}

theorem attended_congr (tasks : row.taskId = promotion.taskId)
    (runs : row.runId = promotion.runId) :
    attended store row = attended store promotion := by
  unfold attended isRebaseOf
  rw [tasks, runs]

theorem Tracked.close {poll : Poll} (tracked : Tracked world) (polling : Polling world poll)
    (ended : poll.remaining = []) : Tracked (world.close poll true) where
  attended := tracked.attended
  counted := tracked.counted
  unknown := tracked.unknown
  observed := tracked.observed
  reports := by
    intro report member
    rcases mem_append.mp member with earlier | new
    · exact tracked.reports report earlier
    · obtain rfl := mem_singleton.mp new
      have queried : ∀ promotionId ∈ poll.due, promotionId ∈ poll.queried := by
        intro promotionId isDue
        rcases polling.due promotionId isDue with done | ⟨row, left, _⟩
        · exact done
        · rw [ended] at left
          cases left
      have followed : (poll.conflicts.filter fun seen =>
          !ReviewWatcherService.attended world.store seen &&
            decide (seen.id ∉ world.resolved)) = [] := by
        rw [filter_eq_nil_iff]
        intro seen seenMember
        obtain ⟨_, row, rowMember, ids, tasks, runs, conflict⟩ := polling.conflicts seen seenMember
        rcases tracked.attended row rowMember conflict with held | resolved
        · rw [attended_congr tasks runs] at held
          simp [held]
        · rw [ids] at resolved
          simp [resolved]
      simp only [PollReport.isGood, followed, and_eq_true, all_eq_true, decide_eq_true_eq]
      exact ⟨⟨trivial, queried⟩, rfl⟩

theorem mergedCount_record (promotionId : String) (writes : List ReviewWrite) :
    (world.record promotion status writes).mergedCount promotionId =
      world.mergedCount promotionId + mergedAmong promotionId writes := by
  simp [record, mergedCount, mergedAmong]

theorem watchGet_snapshot (key : String) :
    watchGet (snapshot now promotion target status) key =
      PyDict.get (reviewWatch now target status) key := by
  unfold watchGet snapshot
  rw [PyDict.get_set, if_pos rfl]

theorem inConflict_snapshot :
    inConflict (snapshot now promotion target status) = status.hasConflicts := by
  unfold inConflict
  rw [watchGet_snapshot]
  rfl

theorem isMerged_snapshot :
    isMerged (snapshot now promotion target status) = decide (status.state = "merged") := by
  unfold isMerged
  rw [watchGet_snapshot]
  show (status.state == "merged") = _
  exact (beq_eq_decide_eq _ _)

theorem mem_rows_record (member : promotion ∈ world.store.promotions.rows)
    (split : (checkWrites identities now world.store promotion target status).1 = done ++ left)
    (begun : done ≠ []) :
    row ∈ (world.record promotion status done).store.promotions.rows ↔
      row = snapshot now promotion target status ∨
        row ∈ world.store.promotions.rows ∧ row.id ≠ promotion.id := by
  obtain ⟨_, whole, kept⟩ := @checkWrites_snapshot identities now world.store
    promotion target status
  rw [whole] at split
  obtain ⟨_, others, rfl⟩ := exists_cons_of_ne_nil begun
  obtain ⟨rfl, rfl⟩ := List.cons.inj split
  have same : (world.record promotion status
      (.updatePromotion (snapshot now promotion target status) :: others)).store.promotions =
        (world.store.updatePromotion (snapshot now promotion target status)).promotions :=
    promotions_foldl (fun write place => kept write (mem_append_left _ place)) _
  rw [same]
  unfold Store.updatePromotion
  rw [KeyedTable.mem_updateAt]
  constructor
  · rintro ⟨old, oldMember, rfl⟩
    by_cases own : old.id = promotion.id
    · obtain rfl := world.store.promotions.eq_of_key_eq oldMember member own
      exact .inl (if_pos rfl)
    · rw [if_neg (show old.id ≠ (snapshot now promotion target status).id from own)]
      exact .inr ⟨oldMember, own⟩
  · rintro (rfl | ⟨unchanged, other⟩)
    · exact ⟨promotion, member, if_pos rfl⟩
    · exact ⟨row, unchanged, if_neg other⟩

structure Keeps (identities : Store → TaskIdentities) (world : WatchWorld)
    (promotion : PromotionRecord) (target : WatchTarget) (status : ReviewStatus) : Prop where
  member : promotion ∈ world.store.promotions.rows
  own : target.task.id = promotion.taskId
  staysMerged : isMerged promotion = true → status.state = "merged"
  followable : status.hasConflicts = true → inConflict promotion = false →
    Followable identities world.store promotion target status

theorem keeps_of_keepsPromises (member : promotion ∈ world.store.promotions.rows)
    (own : target.task.id = promotion.taskId)
    (keeps : world.keepsPromises identities now promotion target status crashAfter = true) :
    Keeps identities world promotion target status ∧ ∀ count, crashAfter = some count → count = 0 ∨
        ∀ write ∈ (checkWrites identities now world.store promotion target status).1.drop count,
          write.isOwed = false := by
  unfold keepsPromises at keeps
  simp only [and_eq_true, or_eq_true, not_eq_true', decide_eq_true_eq] at keeps
  obtain ⟨⟨stays, follows⟩, survives⟩ := keeps
  refine ⟨⟨member, own, fun merged => ?_, fun conflict new => ?_⟩, fun count chosen => ?_⟩
  · rcases stays with unmerged | stays
    · rw [merged] at unmerged
      cases unmerged
    · exact stays
  · rcases follows with unchanged | follows
    · rw [conflict, new] at unchanged
      cases unchanged
    · cases found : world.store.findFollowOnTask promotion.taskId promotion.runId with
      | some existing =>
        rw [found] at follows
        simp only [and_eq_true] at follows
        exact .inl ⟨existing, found, follows⟩
      | none =>
        rw [found] at follows
        simp only [and_eq_true, decide_eq_true_eq] at follows
        obtain ⟨named, returns⟩ := follows
        cases created : TaskService.createFollowOn (identities world.store) world.store
            (conflictArguments (conflictingReview promotion target status)) with
        | error _ =>
          rw [created] at returns
          cases returns
        | ok pair => exact .inr ⟨found, named, pair.1, pair.2, created⟩
  · subst chosen
    simp only [or_eq_true, decide_eq_true_eq, all_eq_true, not_eq_true']
      at survives
    exact survives

theorem Tracked.record (tracked : Tracked world)
    (keeps : Keeps identities world promotion target status)
    (split : (checkWrites identities now world.store promotion target status).1 = done ++ left)
    (begun : done ≠ []) (clear : ∀ write ∈ left, write.isOwed = false) :
    Tracked (world.record promotion status done) := by
  have returned := @returned_of_followable _ now _ _ _ _ keeps.own keeps.followable
  have mergedDone (promotionId : String) : mergedAmong promotionId done =
      if promotion.id = promotionId ∧ status.state = "merged" ∧ isMerged promotion = false then 1
      else 0 := by
    rw [← mergedAmong_checkWrites promotionId returned, split, mergedAmong_append,
      mergedAmong_of_not_owed clear, Nat.add_zero]
  have rows {row : PromotionRecord} := @mem_rows_record _ _ _ _ row _ _ _ _ keeps.member split begun
  have framed : Framed world.store (world.record promotion status done).store :=
    Framed.foldl world.store done
  constructor
  · intro row rowMember conflict
    rcases rows.mp rowMember with rfl | ⟨old, other⟩
    · rw [inConflict_snapshot] at conflict
      by_cases before : inConflict promotion = true
      · refine (tracked.attended promotion keeps.member before).imp (fun held => ?_)
          fun resolved => ?_
        · exact framed.attended held
        · show promotion.id ∈ (if _ then _ else _)
          rw [if_pos (.inr ⟨conflict, before⟩)]
          exact resolved
      · have new := eq_false_iff.mpr before
        exact .inl (attended_of_followable keeps.own conflict new
          (keeps.followable conflict new) split clear)
    · refine (tracked.attended row old conflict).imp (fun held => framed.attended held)
        fun resolved => ?_
      show row.id ∈ (if _ then _ else _)
      split
      · exact resolved
      · exact mem_filter.mpr ⟨resolved, by simpa using other⟩
  · intro row rowMember
    rw [mergedCount_record, mergedDone]
    rcases rows.mp rowMember with rfl | ⟨old, other⟩
    · have before := tracked.counted promotion keeps.member
      rw [show (snapshot now promotion target status).id = promotion.id from rfl, before,
        isMerged_snapshot]
      by_cases merged : isMerged promotion = true
      · simp [merged, keeps.staysMerged merged]
      · simp [merged]
    · have foreign : ¬ (promotion.id = row.id ∧ status.state = "merged" ∧
          isMerged promotion = false) := fun holds => other holds.1.symm
      rw [if_neg foreign, Nat.add_zero]
      exact tracked.counted row old
  · intro promotionId absent
    have other : promotion.id ≠ promotionId := absent (snapshot now promotion target status) (rows.mpr (.inl rfl))
    rw [mergedCount_record, mergedDone, if_neg fun holds => other holds.1, Nat.add_zero]
    refine tracked.unknown promotionId fun row old same => ?_
    exact absent row (rows.mpr (.inr ⟨old, by rw [same]; exact Ne.symm other⟩)) same
  · intro promotionId member
    have settled : ∃ row ∈ (world.record promotion status done).store.promotions.rows,
        row.id = promotion.id ∧ (status.state = "merged" → isMerged row = true) :=
      ⟨_, rows.mpr (.inl rfl), rfl, fun merged => by simp [isMerged_snapshot, merged]⟩
    have known : promotionId ∈ world.merges ∨
        (promotionId = promotion.id ∧ status.state = "merged") := by
      have known : promotionId ∈ (if status.state = "merged" then
          world.merges ++ [promotion.id] else world.merges) := member
      split at known
      next merged =>
        rcases mem_append.mp known with old | new
        · exact .inl old
        · exact .inr ⟨mem_singleton.mp new, merged⟩
      · exact .inl known
    obtain ⟨current, currentMember, sameId, merges⟩ := settled
    rcases known with old | ⟨rfl, merged⟩
    · obtain ⟨row, rowMember, rfl, merged⟩ := tracked.observed promotionId old
      by_cases own : row.id = promotion.id
      · obtain rfl := world.store.promotions.eq_of_key_eq rowMember keeps.member own
        exact ⟨current, currentMember, sameId, merges (keeps.staysMerged merged)⟩
      · exact ⟨row, rows.mpr (.inr ⟨rowMember, own⟩), rfl, merged⟩
    · exact ⟨current, currentMember, sameId, merges merged⟩
  · exact tracked.reports

theorem Tracked.withPoll (tracked : Tracked world) (poll : Option Poll) :
    Tracked { world with poll } :=
  ⟨tracked.attended, tracked.counted, tracked.unknown, tracked.observed, tracked.reports⟩

theorem Tracked.crashed (tracked : Tracked world) : Sound world.crashed where
  tracked :=
    ⟨tracked.attended, tracked.counted, tracked.unknown,
      fun _ member => absurd member not_mem_nil, tracked.reports⟩
  polling _ running := by cases running

theorem id_of_watchTarget {interval : Int}
    (found : watchTarget interval now store promotion = some target) :
    target.task.id = promotion.taskId := by
  unfold watchTarget at found
  split at found
  next applyback approved applied =>
    split at found
    · obtain ⟨_, stored, repository⟩ := Option.bind_eq_some_iff.mp found
      have own := (store.tasks.lookup_eq_some_iff.mp stored).2
      unfold repositoryOf at repository
      split at repository
      · cases repository
      · split at repository
        · dsimp only at repository
          split at repository
          · cases repository
          · cases repository
            exact own
        · cases repository
    · cases found
  · cases found

theorem Sound.answered {poll : Poll} {remaining : List PromotionRecord} (sound : Sound world)
    (running : world.poll = some poll)
    (next : poll.remaining = promotion :: remaining)
    (watched : watchTarget poll.interval poll.now world.store promotion = some target)
    (favours : world.favourable identities (.check answer crashAfter) = true) :
    Sound (world.answered identities
      { poll with remaining, queried := poll.queried ++ [promotion.id] }
      promotion target crashAfter answer) := by
  have polling := sound.polling poll running
  have member : promotion ∈ world.store.promotions.rows :=
    polling.remaining promotion (by rw [next]; exact mem_cons_self)
  have distinct := polling.distinct
  rw [next, map_cons, nodup_cons] at distinct
  have apart : ∀ row ∈ remaining, row.id ≠ promotion.id := fun row place same =>
    distinct.1 (by rw [← same]; exact mem_map_of_mem place)
  have left : ∀ promotionId ∈ poll.due, promotionId ∈ poll.queried ++ [promotion.id] ∨
      ∃ row ∈ remaining, row.id = promotionId ∧
        (watchTarget poll.interval poll.now world.store row).isSome = true := by
    intro promotionId isDue
    rcases polling.due promotionId isDue with queried | ⟨row, place, same, watchable⟩
    · exact .inl (mem_append_left _ queried)
    · rw [next] at place
      rcases mem_cons.mp place with rfl | place
      · exact .inl (by simp [same])
      · exact .inr ⟨row, place, same, watchable⟩
  unfold favourable at favours
  rw [running] at favours
  dsimp only at favours
  rw [next] at favours
  dsimp only at favours
  rw [watched] at favours
  cases answer with
  | runtimeError _ => cases favours
  | noReview =>
    refine ⟨sound.tracked.withPoll _, fun current same => ?_⟩
    cases same
    refine ⟨fun row place => ?_, distinct.2, fun seen seenMember => ?_, left⟩
    · exact polling.remaining row (by rw [next]; exact mem_cons_of_mem _ place)
    · obtain ⟨others, rest⟩ := polling.conflicts seen seenMember
      exact ⟨fun row place => others row (by rw [next]; exact mem_cons_of_mem _ place), rest⟩
  | found status =>
    obtain ⟨keeps, survives⟩ := keeps_of_keepsPromises member (id_of_watchTarget watched) favours
    have returned := @returned_of_followable _ poll.now _ _ _ _ keeps.own keeps.followable
    unfold WatchWorld.answered
    dsimp only
    cases crashAfter with
    | some count =>
      dsimp only
      cases count with
      | zero =>
        have untouched : (world.record promotion status []).crashed = world.crashed := by
          simp [WatchWorld.record, WatchWorld.crashed]
        rw [take_zero, untouched]
        exact sound.tracked.crashed
      | succ count =>
        rcases survives (count + 1) rfl with zero | clear
        · cases zero
        · refine (sound.tracked.record keeps (take_append_drop (count + 1) _).symm ?_ clear).crashed
          obtain ⟨rest, whole, _⟩ := @checkWrites_snapshot identities poll.now
            world.store promotion target status
          rw [whole]
          simp
    | none =>
      rw [returned]
      have begun : (checkWrites identities poll.now world.store promotion target status).1 ≠ [] := by
        obtain ⟨rest, whole, _⟩ := @checkWrites_snapshot identities poll.now
          world.store promotion target status
        rw [whole]
        simp
      have rows {row : PromotionRecord} := @mem_rows_record identities _ poll.now _ row target status _ _
        member
        (append_nil _).symm begun
      have framed := Framed.foldl world.store
        (checkWrites identities poll.now world.store promotion target status).1
      refine ⟨(sound.tracked.record keeps (append_nil _).symm begun
        (by simp)).withPoll _, fun current same => ?_⟩
      cases same
      refine ⟨fun row place => ?_, distinct.2, fun seen seenMember => ?_,
        fun promotionId isDue => ?_⟩
      · exact rows.mpr (.inr ⟨polling.remaining row
          (by rw [next]; exact mem_cons_of_mem _ place), apart row place⟩)
      · have known : seen ∈ poll.conflicts ∨ (seen = promotion ∧ status.hasConflicts = true) := by
          split at seenMember
          next conflict =>
            rcases mem_append.mp seenMember with old | new
            · exact .inl old
            · exact .inr ⟨mem_singleton.mp new, conflict⟩
          · exact .inl seenMember
        rcases known with old | ⟨rfl, conflict⟩
        · obtain ⟨others, row, rowMember, same, rest⟩ := polling.conflicts seen old
          have other : promotion.id ≠ seen.id :=
            others promotion (by rw [next]; exact mem_cons_self)
          exact ⟨fun row place => others row (by rw [next]; exact mem_cons_of_mem _ place),
            row, rows.mpr (.inr ⟨rowMember, by rw [same]; exact Ne.symm other⟩), same, rest⟩
        · exact ⟨apart, _, rows.mpr (.inl rfl), rfl, rfl, rfl, by
            rw [inConflict_snapshot, conflict]⟩
      · exact (left promotionId isDue).imp id fun ⟨row, place, same, watchable⟩ =>
          ⟨row, place, same, framed.isSome_watchTarget watchable⟩

theorem Sound.check {poll : Poll} (sound : Sound world) (running : world.poll = some poll)
    (favours : world.favourable identities (.check answer crashAfter) = true) :
    Sound (world.check identities poll answer crashAfter) := by
  have polling := sound.polling poll running
  unfold WatchWorld.check
  split
  next ended => exact ⟨sound.tracked.close polling ended, fun _ same => by cases same⟩
  next promotion remaining next =>
    split
    next unwatched =>
      refine ⟨sound.tracked.withPoll _, fun current same => ?_⟩
      cases same
      have distinct := polling.distinct
      rw [next, map_cons, nodup_cons] at distinct
      refine ⟨fun row place => ?_, distinct.2, fun seen seenMember => ?_,
        fun promotionId isDue => ?_⟩
      · exact polling.remaining row (by rw [next]; exact mem_cons_of_mem _ place)
      · obtain ⟨others, rest⟩ := polling.conflicts seen seenMember
        exact ⟨fun row place => others row (by rw [next]; exact mem_cons_of_mem _ place), rest⟩
      · refine (polling.due promotionId isDue).imp id ?_
        rintro ⟨row, place, same, watchable⟩
        rw [next] at place
        rcases mem_cons.mp place with rfl | place
        · rw [unwatched] at watchable
          cases watchable
        · exact ⟨row, place, same, watchable⟩
    next target watched => exact sound.answered running next watched favours

theorem mem_of_addAll [DecidableEq Key] {row : Row}
    (member : row ∈ (OutsideChange.addAll table rows).rows) :
    row ∈ table.rows ∨ row ∈ rows ∧ ∀ old ∈ table.rows, key old ≠ key row := by
  induction rows generalizing table with
  | nil => exact .inl member
  | cons first rest ih =>
    cases inserted : table.insert? first with
    | none =>
      have same : OutsideChange.addAll table (first :: rest) = OutsideChange.addAll table rest := by
        simp [OutsideChange.addAll, inserted]
      rw [same] at member
      exact (ih member).imp id fun ⟨place, fresh⟩ => ⟨mem_cons_of_mem _ place, fresh⟩
    | some grown =>
      have same : OutsideChange.addAll table (first :: rest) = OutsideChange.addAll grown rest := by
        simp [OutsideChange.addAll, inserted]
      rw [same] at member
      have rows := KeyedTable.rows_of_insert? inserted
      rcases ih member with old | ⟨place, fresh⟩
      · rw [rows] at old
        rcases mem_append.mp old with old | new
        · exact .inl old
        · obtain rfl := mem_singleton.mp new
          refine .inr ⟨mem_cons_self, fun earlier earlierMember sameKey => ?_⟩
          have refused := table.insert?_eq_none_iff.mpr ⟨earlier, earlierMember, sameKey⟩
          rw [inserted] at refused
          cases refused
      · refine .inr ⟨mem_cons_of_mem _ place, fun old oldMember => fresh old ?_⟩
        rw [rows]
        exact mem_append_left _ oldMember

theorem mem_addAll [DecidableEq Key] {row : Row} (member : row ∈ table.rows) :
    row ∈ (OutsideChange.addAll table rows).rows := by
  induction rows generalizing table with
  | nil => exact member
  | cons first _ ih =>
    refine ih ?_
    dsimp only
    cases inserted : table.insert? first with
    | none => exact member
    | some _ =>
      rw [Option.getD_some, KeyedTable.rows_of_insert? inserted]
      exact mem_append_left _ member

theorem not_inConflict_of_unwatched (unwatched : OutsideChange.isUnwatched row = true) :
    inConflict row = false ∧ isMerged row = false := by
  unfold OutsideChange.isUnwatched at unwatched
  unfold inConflict isMerged watchGet
  split at unwatched
  next absent =>
    rw [absent]
    exact ⟨rfl, rfl⟩
  · cases unwatched

theorem Tracked.outside (tracked : Tracked world) (change : OutsideChange) :
    Tracked
      { world with
        store := change.apply world.store
        resolved := world.resolved ++ world.finishedBy change } := by
  have known {row : PromotionRecord} (member : row ∈ (change.apply world.store).promotions.rows) :
      (∃ old ∈ world.store.promotions.rows, row = change.changePromotion.apply old) ∨
        OutsideChange.isUnwatched row = true ∧
          ∀ old ∈ world.store.promotions.rows, old.id ≠ row.id := by
    rcases mem_of_addAll member with changed | ⟨new, fresh⟩
    · obtain ⟨old, oldMember, rfl⟩ := mem_map.mp changed
      exact .inl ⟨old, oldMember, rfl⟩
    · exact .inr ⟨(mem_filter.mp new).2, fun old oldMember =>
        fresh (change.changePromotion.apply old) (mem_map_of_mem oldMember)⟩
  have kept {old : PromotionRecord} (member : old ∈ world.store.promotions.rows) :
      change.changePromotion.apply old ∈ (change.apply world.store).promotions.rows :=
    mem_addAll (mem_map_of_mem member)
  constructor
  · intro row member conflict
    rcases known member with ⟨old, oldMember, rfl⟩ | ⟨unwatched, _⟩
    · rcases tracked.attended old oldMember conflict with held | resolved
      · obtain ⟨task, taskMember, holds⟩ := any_eq_true.mp held
        have placed : change.changeTask.apply task ∈ (change.apply world.store).tasks.rows :=
          mem_addAll (mem_map_of_mem taskMember)
        obtain ⟨rebase, unfinished⟩ := and_eq_true_iff.mp holds
        by_cases still : isUnfinished (change.changeTask.apply task) = true
        · exact .inl (any_eq_true.mpr ⟨_, placed, and_eq_true_iff.mpr ⟨rebase, still⟩⟩)
        · refine .inr (mem_append_right _ (mem_map.mpr
            ⟨old, mem_filter.mpr ⟨oldMember, ?_⟩, rfl⟩))
          refine and_eq_true_iff.mpr ⟨conflict, any_eq_true.mpr ⟨task, taskMember, ?_⟩⟩
          simp [rebase, unfinished, still]
      · exact .inr (mem_append_left _ resolved)
    · rw [(not_inConflict_of_unwatched unwatched).1] at conflict
      cases conflict
  · intro row member
    rcases known member with ⟨old, oldMember, rfl⟩ | ⟨unwatched, fresh⟩
    · exact tracked.counted old oldMember
    · rw [(not_inConflict_of_unwatched unwatched).2]
      exact tracked.unknown row.id fresh
  · intro promotionId absent
    exact tracked.unknown promotionId fun old oldMember =>
      absent (change.changePromotion.apply old) (kept oldMember)
  · intro promotionId member
    obtain ⟨old, oldMember, same, merged⟩ := tracked.observed promotionId member
    exact ⟨change.changePromotion.apply old, kept oldMember, same, merged⟩
  · exact tracked.reports

theorem Sound.poll (sound : Sound world) (interval now : Int) :
    Sound
      { world with
        poll := some
          { interval, now, remaining := world.store.listPromotions ""
            due := ((world.store.listPromotions "").filter fun promotion =>
              (watchTarget interval now world.store promotion).isSome).map
                PromotionRecord.id } } := by
  refine ⟨sound.tracked.withPoll _, fun current same => ?_⟩
  cases same
  refine ⟨fun row member => ?_, ?_, by simp, fun promotionId isDue => ?_⟩
  · unfold Store.listPromotions at member
    rw [mem_orderBy, mem_filter] at member
    exact member.1
  · exact nodup_map_orderBy _ (world.store.promotions.keysNodup.sublist (filter_sublist.map _))
  · obtain ⟨row, member, same⟩ := mem_map.mp isDue
    obtain ⟨place, watchable⟩ := mem_filter.mp member
    exact .inr ⟨row, place, same, watchable⟩

theorem Sound.step {next : WatchWorld} {event : WatchEvent} (sound : Sound world)
    (favours : world.favourable identities event = true)
    (taken : world.step identities event = some next) : Sound next := by
  unfold WatchWorld.step at taken
  split at taken
  next interval now idle =>
    cases taken
    exact sound.poll interval now
  next answer crashAfter poll running =>
    cases taken
    exact sound.check running favours
  · cases taken
    exact sound.tracked.crashed
  next change idle =>
    cases taken
    refine ⟨sound.tracked.outside change, fun poll running => ?_⟩
    rw [idle] at running
    cases running
  · cases taken

theorem sound_start
    (unwatched : ∀ row ∈ store.promotions.rows, OutsideChange.isUnwatched row = true) :
    Sound { store } where
  tracked := by
    constructor
    · intro row member conflict
      rw [(not_inConflict_of_unwatched (unwatched row member)).1] at conflict
      cases conflict
    · intro row member
      rw [(not_inConflict_of_unwatched (unwatched row member)).2]
      rfl
    · exact fun _ _ => rfl
    · exact fun _ member => absurd member not_mem_nil
    · exact fun _ member => absurd member not_mem_nil
  polling _ running := by cases running

/-- From promotions that were never polled, every run whose steps are
favourable watches them as claimed. -/
theorem watches_of_favourable {identities : Store → TaskIdentities} {store : Store}
    {events : List WatchEvent} {target : WatchWorld}
    (unwatched : ∀ row ∈ store.promotions.rows, OutsideChange.isUnwatched row = true)
    (favours : StepsMeet (step identities)
      (fun world event => world.favourable identities event = true) { store } events)
    (run : runEvents (step identities) { store } events = some target) : Watches target :=
  (runEvents_invariant_of_guard _ (fun _ _ _ sound favours taken => Sound.step sound favours taken)
    (sound_start unwatched) favours run).tracked.watches

section

def approvedPromotion : PromotionRecord where
  id := "promotion"
  taskId := "task"
  runId := "run"
  status := .approved
  summary := "approved"
  details :=
    [("applyback", .dict [("status", .str "applied"), ("branch_name", .str "harness/task"),
      ("pr_url", .str "https://github.com/accruvia/routellect/pull/1")])]

def watchedStore : Store where
  projects := .single
    { id := "project", repoProvider := some .github,
      repoName := some "accruvia/routellect" }
  tasks := .single { id := "task", projectId := "project" }
  promotions := .single approvedPromotion

def rebaseIdentities (_ : Store) : TaskIdentities where
  taskId := "rebase"
  planId := "plan"
  now := 1
  nonNegotiables _ := none

def reviewAnswer (state : String) (hasConflicts : Bool) : ProviderAnswer :=
  .found
    { url := "https://github.com/accruvia/routellect/pull/1", state
      mergeState := if hasConflicts then "dirty" else "clean", hasConflicts }

def pollOnce (now : Int) (answer : ProviderAnswer) : List WatchEvent :=
  [.poll 60 now, .check answer none, .check .noReview none]

def completion : OutsideChange where
  rest := watchedStore
  task row := { row with status := .completed }
  promotion := id
  newTasks := []
  newPromotions := []

theorem conflict_then_merge_watched : ∃ target,
    runEvents (step rebaseIdentities) { store := watchedStore }
        (pollOnce 0 (reviewAnswer "open" true) ++ [.outside completion] ++
          pollOnce 90000000 (reviewAnswer "open" true) ++
          pollOnce 180000000 (reviewAnswer "merged" false)) = some target ∧
      Watches target := by
  have ran : (runEvents (step rebaseIdentities) { store := watchedStore }
      (pollOnce 0 (reviewAnswer "open" true) ++ [.outside completion] ++
        pollOnce 90000000 (reviewAnswer "open" true) ++
        pollOnce 180000000 (reviewAnswer "merged" false))).isSome = true := by
    decide +kernel
  obtain ⟨target, run⟩ := Option.isSome_iff_exists.mp ran
  exact ⟨target, run, watches_of_favourable (by decide +kernel) (by decide +kernel) run⟩

theorem exists_not_watches (promotionId : String) {start : WatchWorld} {events : List WatchEvent}
    (fails : (runEvents (step identities) start events).any (fun target =>
      !target.reports.all PollReport.isGood ||
        decide (promotionId ∈ target.merges ∧ target.mergedCount promotionId = 0)) = true) :
    ∃ target, runEvents (step identities) start events = some target ∧ ¬ Watches target := by
  cases ran : runEvents (step identities) start events with
  | none =>
    rw [ran] at fails
    cases fails
  | some target =>
    rw [ran] at fails
    refine ⟨target, rfl, fun watches => ?_⟩
    rcases or_eq_true_iff.mp fails with bad | lost
    · have good : target.reports.all PollReport.isGood = true := all_eq_true.mpr watches.polls
      rw [good] at bad
      cases bad
    · obtain ⟨member, _⟩ := of_decide_eq_true lost
      have emitted := watches.merged promotionId member
      omega

/-- A query that raises ends its poll; a conflict that comes back after its
follow-on was completed gets no follow-on; and a crash behind the snapshot
loses `promotion_merged` for good. -/
theorem watching_fails :
    (∃ target, runEvents (step rebaseIdentities) { store := watchedStore }
        [.poll 60 0, .check (.runtimeError "gh: connection refused") none] = some target ∧
      ¬ Watches target) ∧
    (∃ target, runEvents (step rebaseIdentities) { store := watchedStore }
        (pollOnce 0 (reviewAnswer "open" true) ++ [.outside completion] ++
          pollOnce 90000000 (reviewAnswer "open" false) ++
          pollOnce 180000000 (reviewAnswer "open" true)) = some target ∧
      ¬ Watches target) ∧
    ∃ target, runEvents (step rebaseIdentities) { store := watchedStore }
        ([.poll 60 0, .check (reviewAnswer "merged" false) (some 1)] ++
          pollOnce 90000000 (reviewAnswer "merged" false)) = some target ∧
      ¬ Watches target :=
  ⟨exists_not_watches "promotion" (by decide +kernel),
    exists_not_watches "promotion" (by decide +kernel),
    exists_not_watches "promotion" (by decide +kernel)⟩

end

end WatchWorld

end AccruviaHarness
