import AccruviaHarness.Services.ObservedQueue

/-!
# The block of an objective without progress

An objective that made no progress is blocked while the escalation about it is
found among the newest escalations of the event log, which all objectives and
all reasons share.
-/

namespace AccruviaHarness

open Library List

instance : Std.Total NewestEvent where
  total first second := le_total second.createdAt first.createdAt

instance : IsTrans ControlEvent NewestEvent where
  trans _ _ _ first second := Int.le_trans second first

def ControlPlane.objectiveNoProgressBlocked (control : ControlTables)
    (objectiveId : String) : Bool :=
  if objectiveId = "" then false else control.noProgressBlocked objectiveId

def QueueService.objectiveNoProgressBlocked (control : ControlTables)
    (objectiveId : String) : Bool :=
  control.noProgressBlocked objectiveId

namespace ControlEvent

def isEscalation (event : ControlEvent) : Bool := event.eventType = "human_escalation_required"

def isNoProgressOf (event : ControlEvent) (objectiveId : String) : Bool :=
  event.isEscalation && (event.payload.getStr "objective_id" = objectiveId &&
      event.payload.getStr "reason" = noProgressReason)

end ControlEvent

namespace ControlTables

section

variable (control : ControlTables) (objectiveId : String)

def escalations : List ControlEvent := control.events.filter ControlEvent.isEscalation

def noProgressEvents : List ControlEvent :=
  control.events.filter fun event => event.isNoProgressOf objectiveId

def escalationsSince : Nat :=
  control.escalations.countP fun other =>
    (control.noProgressEvents objectiveId).all fun event => event.createdAt ≤ other.createdAt

def escalationsAfter : Nat :=
  control.escalations.countP fun other =>
    (control.noProgressEvents objectiveId).all fun event => event.createdAt < other.createdAt

end

variable {control : ControlTables} {objectiveId : String}

theorem noProgressBlocked_iff :
    control.noProgressBlocked objectiveId = true ↔
      ∃ event ∈ (orderBy NewestEvent control.escalations).take 50,
        event.isNoProgressOf objectiveId = true := by
  have listed : control.listEvents "human_escalation_required" 50 =
      (orderBy NewestEvent control.escalations).take 50 := rfl
  unfold noProgressBlocked
  rw [listed, any_eq_true]
  refine exists_congr fun event => and_congr_right fun placed => ?_
  have stored := (mem_orderBy NewestEvent).mp (mem_of_mem_take placed)
  unfold ControlEvent.isNoProgressOf
  rw [(mem_filter.mp stored).2, Bool.true_and]

theorem mem_escalations_of_noProgress {event : ControlEvent}
    (member : event ∈ control.noProgressEvents objectiveId) :
    event ∈ control.escalations := by
  obtain ⟨recorded, matching⟩ := mem_filter.mp member
  unfold ControlEvent.isNoProgressOf at matching
  exact mem_filter.mpr ⟨recorded, (Bool.and_eq_true_iff.mp matching).1⟩

theorem exists_newest_noProgress (some : control.noProgressEvents objectiveId ≠ []) :
    ∃ event ∈ control.noProgressEvents objectiveId,
      ∀ other ∈ control.noProgressEvents objectiveId, other.createdAt ≤ event.createdAt := by
  cases first : (orderBy NewestEvent (control.noProgressEvents objectiveId)).head? with
  | none =>
    have empty := head?_eq_none_iff.mp first
    exact absurd ((orderBy_eq_nil_iff NewestEvent).mp empty) some
  | some event => exact ⟨event, head?_orderBy_first NewestEvent first⟩

theorem noProgressBlocked_of_few (some : control.noProgressEvents objectiveId ≠ [])
    (few : control.escalationsSince objectiveId ≤ 50) :
    control.noProgressBlocked objectiveId = true := by
  obtain ⟨event, member, newest⟩ := exists_newest_noProgress some
  have counted : control.escalations.countP (fun other => NewestEvent other event) ≤ 50 := by
    refine (countP_mono_left ?_).trans few
    intro other _ newer
    refine all_eq_true.mpr fun older olderMember => decide_eq_true ?_
    exact (newest older olderMember).trans (of_decide_eq_true newer)
  exact noProgressBlocked_iff.mpr ⟨event,
    mem_take_orderBy NewestEvent (mem_escalations_of_noProgress member)
      counted, (mem_filter.mp member).2⟩

theorem escalationsAfter_of_noProgressBlocked
    (blocked : control.noProgressBlocked objectiveId = true) :
    control.escalationsAfter objectiveId < 50 := by
  obtain ⟨event, placed, matching⟩ := noProgressBlocked_iff.mp blocked
  have listed := (mem_orderBy NewestEvent).mp (mem_of_mem_take placed)
  have member : event ∈ control.noProgressEvents objectiveId :=
    mem_filter.mpr ⟨(mem_filter.mp listed).1, matching⟩
  refine lt_of_le_of_lt (countP_mono_left ?_) (countP_lt_of_mem_take_orderBy NewestEvent placed)
  intro other _ newer
  have later := of_decide_eq_true (all_eq_true.mp newer event member)
  have refused : ¬ NewestEvent event other := not_le.mpr later
  simp [refused]

theorem Extends.noProgressEvents_ne_nil {next : ControlTables} (extended : control.Extends next)
    (some : control.noProgressEvents objectiveId ≠ []) :
    next.noProgressEvents objectiveId ≠ [] := by
  intro none
  have kept := extended.events.filter fun event => event.isNoProgressOf objectiveId
  unfold noProgressEvents at none some
  rw [none] at kept
  exact some (prefix_nil.mp kept)

end ControlTables

/-! ## Histories of the event log -/

/-- What happens to the event log: an action of the queue or of the control
plane, or an event that another component records. -/
inductive LogAction where
  | act (action : QueueAction)
  | record (event : ControlEvent)

namespace LogAction

def step (store : Store) : LogAction → Option Store
  | act action => action.step store
  | record event =>
    some <| ControlPlane.onControl store fun control =>
      { control with events := control.events ++ [event] }

theorem extends_of_step {store next : Store} {action : LogAction}
    (taken : action.step store = some next) :
    store.control.Extends next.control := by
  cases action with
  | record _ =>
    cases taken
    exact .of_sameBudgets (prefix_append _ _) rfl
  | act action =>
    cases action with
    | control call =>
      cases taken
      exact (ControlWrites.perform store call).extended
    | process call =>
      cases taken
      rcases call.process_spec store with kept | ⟨_, _, starts⟩
      · exact kept.control
      · exact starts.control

theorem extends_of_run {store target : Store} {actions : List LogAction}
    (run : runEvents step store actions = some target) :
    store.control.Extends target.control := by
  have preserved : ∀ current action next, store.control.Extends current.control →
        step current action = some next → store.control.Extends next.control :=
    fun _ _ _ extended taken => extended.trans (extends_of_step taken)
  exact runEvents_invariant preserved (.refl store.control) run

def performed (store : Store) (actions : List LogAction) : Store :=
  actions.foldl (fun store action => (action.step store).getD store) store

theorem runEvents_performed (store : Store) (actions : List LogAction) :
    runEvents step store actions = some (performed store actions) := by
  induction actions generalizing store with
  | nil => rfl
  | cons action _ ih =>
    obtain ⟨next, taken⟩ : ∃ next, action.step store = some next := by
      rcases action with (call | call) | event
      · exact ⟨_, rfl⟩
      · exact ⟨_, rfl⟩
      · exact ⟨_, rfl⟩
    refine runEvents_cons_some.mpr ⟨next, taken, ?_⟩
    rw [ih]
    simp only [performed, foldl_cons, taken, Option.getD_some]

end LogAction

structure NoProgressBlocks (store : Store) (objectiveId : String) : Prop where
  plane : ControlPlane.objectiveNoProgressBlocked store.control objectiveId = true
  queue : QueueService.objectiveNoProgressBlocked store.control objectiveId = true
  undispatched : ∀ request leased task,
    QueueService.dispatch store request = (leased, .leased task) →
      task.objective? ≠ some objectiveId

theorem noProgressBlocks_iff {store : Store} {objectiveId : String} (named : objectiveId ≠ "") :
    NoProgressBlocks store objectiveId ↔ store.control.noProgressBlocked objectiveId = true := by
  constructor
  · exact NoProgressBlocks.queue
  intro blocked
  refine ⟨(if_neg named).trans blocked, blocked, ?_⟩
  intro request leased task dispatched same
  have finds := QueueService.dispatch_finds store request
  rw [dispatched] at finds
  cases finds with
  | first found _ =>
    have unblocked := (QueueService.firstRunnable_first found).2.1
    unfold QueueService.dispatchBlock QueueService.objectiveDispatchBlockReason at unblocked
    rw [same] at unblocked
    simp only [blocked, if_true] at unblocked
    split at unblocked
    · cases unblocked
    · split at unblocked
      · cases unblocked
      next clear =>
        split at clear
        · cases clear
        · cases clear

/-- After any history, an objective with an escalation on record is blocked
while at most fifty escalations are as new as it, and it is not blocked once
fifty are newer. -/
theorem noProgress_blocks_while_few {store target : Store} {actions : List LogAction}
    (run : runEvents LogAction.step store actions = some target)
    {objectiveId : String} (named : objectiveId ≠ "")
    (escalated : store.control.noProgressEvents objectiveId ≠ []) :
    (target.control.escalationsSince objectiveId ≤ 50 → NoProgressBlocks target objectiveId) ∧
      (NoProgressBlocks target objectiveId → target.control.escalationsAfter objectiveId < 50) := by
  have kept := (LogAction.extends_of_run run).noProgressEvents_ne_nil escalated
  rw [noProgressBlocks_iff named]
  exact ⟨ControlTables.noProgressBlocked_of_few kept,
    ControlTables.escalationsAfter_of_noProgressBlocked⟩

/-! ## A block that is lost -/

def stalledStore : Store where
  projects := .single { id := "project" }
  objectives :=
    ⟨[{ id := "objective", projectId := "project" },
      { id := "other", projectId := "project" }], by decide⟩
  tasks :=
    ⟨[{ id := "task", projectId := "project", objectiveId := some "objective"
        status := .completed },
      { id := "waiting", projectId := "project", objectiveId := some "objective"
        strategy := "objective_review_remediation" },
      { id := "busy", projectId := "project", objectiveId := some "other"
        status := .active }], by decide⟩

def observed (now : Int) (event : ObserverEvent) : LogAction :=
  .act (.control { now, operation := .observe event })

def completedRuns : List LogAction :=
  (List.range 3).flatMap fun index =>
    [observed index (.runCreated (toString index) "task" 1), observed index
        (.taskFinished (toString index) "completed" "task" "completed")]

def otherRuns : List LogAction :=
  (List.range 53).map fun index =>
    observed (100 + index) (.runCreated (toString (100 + index)) "busy" 1)

def escalatedStore : Store :=
  LogAction.performed (ControlRun.initialized stalledStore) completedRuns

theorem escalated_objective_blocked : NoProgressBlocks escalatedStore "objective" :=
  (noProgress_blocks_while_few (runEvents_nil escalatedStore) (by decide)
    (by decide +kernel)).1 (by decide +kernel)

/-- Fifty escalations about another objective hide the one about this one. -/
theorem noProgress_block_lost :
    ¬ ∀ (store target : Store) (actions : List LogAction) (objectiveId : String),
      objectiveId ≠ "" → store.control.noProgressEvents objectiveId ≠ [] →
          runEvents LogAction.step store actions = some target →
            NoProgressBlocks target objectiveId := by
  intro blocks
  have blocked := blocks escalatedStore _ otherRuns "objective" (by decide)
    (by decide +kernel) (LogAction.runEvents_performed _ _)
  exact absurd blocked.queue (by decide +kernel)

end AccruviaHarness
