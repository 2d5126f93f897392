import AccruviaHarness.Telemetry.CrashRecovery

/-!
# Several telemetry processes

Any number of processes share the directory. The lock that a recovery holds on
the journal is left out: where `fcntl` exists it only takes interleavings away.
-/

namespace AccruviaHarness

open List

namespace Telemetry

open Library PyJson

inductive Phase where
  | stopped
  | idle
  /-- `_record` has read the state and journals next. -/
  | journaling (record : TelemetryRecord) (ops : List FileOp)
  /-- `_record` has journaled, with these operations left. -/
  | recording (record : TelemetryRecord) (ops : List FileOp)
  /-- A recovery has read the state. A process that starts is not yet alive. -/
  | recovering (state : SinkState) (alive : Bool)
  /-- A recovery has read the journal, with these operations left. -/
  | replaying (ops : List FileOp) (alive : Bool)

def Phase.settled (alive : Bool) : Phase := if alive then .idle else .stopped

def Phase.record (record : TelemetryRecord) : List FileOp → Phase
  | [] => .idle
  | op :: ops => .recording record (op :: ops)

def Phase.replay (alive : Bool) : List FileOp → Phase
  | [] => .settled alive
  | op :: ops => .replaying (op :: ops) alive

inductive ProcessEvent (Process : Type) where
  | beginRecord (process : Process) (now : Int) (recordId : String)
      (channel : Channel) (payload : Payload) (failure : Option ExportFailure)
  | beginRecover (process : Process)
  | readJournal (process : Process) (failures : PyValue → Option ExportFailure)
  | perform (process : Process)
  | crash (process : Process)

/-- The directory, the processes, the records whose journal line was written,
and the ids that `uuid4` has given. -/
structure SharedWorld (Process : Type) where
  disk : Disk
  phase : Process → Phase
  journaled : List TelemetryRecord
  ids : List String

namespace SharedWorld

variable {Process : Type}

def empty : SharedWorld Process where
  disk := ⟨fun _ => none, none⟩
  phase := fun _ => .stopped
  journaled := []
  ids := []

variable [DecidableEq Process] (world : SharedWorld Process)

def enter (process : Process) (phase : Phase) : SharedWorld Process :=
  { world with phase := Function.update world.phase process phase }

/-- One file operation of one process, or its end. A read of the state that
raises leaves the process where it was. -/
def step (world : SharedWorld Process) :
    ProcessEvent Process → Option (SharedWorld Process)
  | .beginRecord process now recordId channel payload failure =>
    match world.phase process with
    | .idle =>
      if recordId ∈ world.ids then none
      else
        match loadState world.disk.state with
        | .error _ => some world
        | .ok state =>
          let record : TelemetryRecord :=
            ⟨nextSequence state now, recordId, channel, payload.entries, payload.encodable⟩
          let script := recordOps state now recordId channel payload.entries failure
          some { world.enter process (.journaling record script.ops.tail) with
            ids := recordId :: world.ids }
    | _ => none
  | .beginRecover process =>
    match world.phase process, loadState world.disk.state with
    | .idle, .ok state => some (world.enter process (.recovering state true))
    | .stopped, .ok state => some (world.enter process (.recovering state false))
    | .idle, .error _ => some world
    | .stopped, .error _ => some world
    | _, _ => none
  | .readJournal process failures =>
    match world.phase process with
    | .recovering state alive =>
      let script := recoverOps failures state (world.disk.log .journal)
      some (world.enter process (.replay (alive || script.raised.isNone) script.ops))
    | _ => none
  | .perform process =>
    match world.phase process with
    | .journaling record ops =>
      some { world.enter process (.record record ops) with
        disk := (FileOp.append .journal record.envelope).perform world.disk
        journaled := world.journaled ++ [record] }
    | .recording record (op :: ops) =>
      some { world.enter process (.record record ops) with
        disk := op.perform world.disk }
    | .replaying (op :: ops) alive =>
      some { world.enter process (.replay alive ops) with
        disk := op.perform world.disk }
    | _ => none
  | .crash process => some (world.enter process .stopped)

def InFlight (record : TelemetryRecord) : Prop :=
  ∃ process ops, world.phase process = .recording record ops ∧ ∃ op ∈ ops, record.Replays op

/-- Every journaled record that is not in flight is returned by a load that
recovers now, and the watermark is at or below every journaled record that is
not materialized. -/
structure Recoverable (world : SharedWorld Process) : Prop where
  returned : ∀ record ∈ world.journaled, ¬ world.InFlight record →
    ∀ failures, ∃ values, load world.disk failures record.channel = .ok values ∧
        (values.filter fun value => idOf value = some record.recordId) = [record.returned]
  watermark : ∀ state, loadState world.disk.state = .ok state →
    ∀ record ∈ world.journaled, ¬ record.Materialized world.disk →
      state.lastMaterializedSequence ≤ record.sequence

def PhaseInTurn (world : SharedWorld Process) : Phase → Prop
  | .journaling record _ => ∀ earlier ∈ world.journaled,
      earlier.Listed world.disk ∧ earlier.sequence < record.sequence
  | _ => True

instance (world : SharedWorld Process) (phase : Phase) : Decidable (world.PhaseInTurn phase) :=
  match phase with
  | .journaling _ _ => inferInstanceAs (Decidable (∀ _ ∈ world.journaled, _))
  | .stopped => isTrue trivial
  | .idle => isTrue trivial
  | .recording _ _ => isTrue trivial
  | .recovering _ _ => isTrue trivial
  | .replaying _ _ => isTrue trivial

def JournalsInTurn (world : SharedWorld Process) :
    ProcessEvent Process → Prop
  | .perform process => world.PhaseInTurn (world.phase process)
  | _ => True

instance (world : SharedWorld Process) (event : ProcessEvent Process) :
    Decidable (world.JournalsInTurn event) :=
  match event with
  | .perform _ => inferInstanceAs (Decidable (world.PhaseInTurn _))
  | .beginRecord .. => isTrue trivial
  | .beginRecover .. => isTrue trivial
  | .readJournal .. => isTrue trivial
  | .crash .. => isTrue trivial

/-! ## What holds between two operations -/

/-- A watermark that a process may write: every record below it is
materialized, and no later record can come below it. -/
structure Reached (journaled : List TelemetryRecord) (state : SinkState) :
    Prop where
  nonnegative : state.Nonnegative
  behind : state.lastMaterializedSequence ≤ state.lastSequence
  journaled : state.lastMaterializedSequence = 0 ∨
    ∃ record ∈ journaled,
      state.lastMaterializedSequence = record.sequence

def Finishing (journaled : List TelemetryRecord) (disk : Disk) (ops : List FileOp) : Prop :=
  ∃ appends state, ops = appends ++ [.writeState state] ∧ Reached journaled state ∧
    (∀ op ∈ appends, Appends journaled op) ∧
    ∀ record ∈ journaled, record.sequence ≤ state.lastMaterializedSequence →
        record.Materialized disk ∨ ∃ op ∈ appends, record.Replays op

def PhaseHolds (journaled : List TelemetryRecord) (ids : List String) (disk : Disk) : Phase → Prop
  | .stopped => True
  | .idle => True
  | .journaling record ops =>
    0 < record.sequence ∧ record.recordId ∈ ids ∧
      record.recordId ∉ journaled.map TelemetryRecord.recordId ∧
      ∃ appended, Materializes record appended ∧
        ops = appended ++ [.writeState ⟨record.sequence, record.sequence⟩]
  | .recording _ ops => Finishing journaled disk ops
  | .recovering state _ => Reached journaled state ∧
      ∀ record ∈ journaled, record.sequence ≤ state.lastMaterializedSequence →
          record.Materialized disk
  | .replaying ops _ => Finishing journaled disk ops

def pendingId : Phase → Option String
  | .journaling record _ => some record.recordId
  | _ => none

structure InTurn (world : SharedWorld Process) (state : SinkState) : Prop where
  consistent : Consistent world.journaled state world.disk
  whole : ∀ file, world.disk.Whole file
  reached : Reached world.journaled state
  ids : ∀ record ∈ world.journaled, record.recordId ∈ world.ids
  phases : ∀ process, PhaseHolds world.journaled world.ids world.disk (world.phase process)
  pending : ∀ first second recordId, pendingId (world.phase first) = some recordId →
      pendingId (world.phase second) = some recordId → first = second

variable {world : SharedWorld Process} {state : SinkState}
  {journaled : List TelemetryRecord} {ids : List String} {disk : Disk}
  {phase : Phase} {ops : List FileOp} {process : Process}

omit [DecidableEq Process] in
theorem InTurn.ontoWhole (inTurn : world.InTurn state) (op : FileOp) : OntoWhole world.disk op := by
  cases op with
  | append file _ => exact inTurn.whole file
  | writeState _ => trivial

omit [DecidableEq Process] in
theorem InTurn.recoverable (inTurn : world.InTurn state) :
    world.Recoverable where
  returned := by
    intro record known _ failures
    obtain ⟨returns, _, after, covered⟩ :=
      inTurn.consistent.performAll_recoverScript failures fun op _ => inTurn.ontoWhole op
    have later := after.covered record known (covered record known).2
    obtain ⟨values, loaded, once⟩ := after.returnedOnce known later
    refine ⟨values, ?_, once⟩
    unfold load
    simp only [returns, loaded]
  watermark := by
    intro found loaded record known outstanding
    rw [loadState_of_stateFile inTurn.consistent.stateFile] at loaded
    cases loaded
    by_contra above
    exact outstanding (inTurn.consistent.covered record known (by omega))

/-! ## One file operation -/

theorem Reached.below (reached : Reached journaled state) {record : TelemetryRecord}
    (positive : 0 < record.sequence)
    (above : ∀ earlier ∈ journaled, earlier.sequence < record.sequence) :
    state.lastMaterializedSequence < record.sequence := by
  rcases reached.journaled with same | ⟨earlier, known, same⟩
  · rw [same]
    exact positive
  · rw [same]
    exact above earlier known

theorem Reached.append (reached : Reached journaled state) (record : TelemetryRecord) :
    Reached (journaled ++ [record]) state where
  nonnegative := reached.nonnegative
  behind := reached.behind
  journaled := by
    rcases reached.journaled with same | ⟨earlier, known, same⟩
    · exact .inl same
    · exact .inr ⟨earlier, mem_append_left _ known, same⟩

theorem Reached.max {first second : SinkState} (firstReached : Reached journaled first)
    (secondReached : Reached journaled second) :
    Reached journaled (first.max second) where
  nonnegative := ⟨le_max_of_le_left firstReached.nonnegative.1,
    le_max_of_le_left firstReached.nonnegative.2⟩
  behind := max_le_max firstReached.behind secondReached.behind
  journaled := by
    rcases max_choice first.lastMaterializedSequence
        second.lastMaterializedSequence with same | same
    · have shape : (first.max second).lastMaterializedSequence =
          first.lastMaterializedSequence := same
      rw [shape]
      exact firstReached.journaled
    · have shape : (first.max second).lastMaterializedSequence =
          second.lastMaterializedSequence := same
      rw [shape]
      exact secondReached.journaled

theorem PhaseHolds.grows {journaled : List TelemetryRecord} {ids more : List String}
    {before after : Disk} {phase : Phase}
    (holds : PhaseHolds journaled ids before phase)
    (grows : Grows before after) (known : ∀ recordId ∈ ids, recordId ∈ more) :
    PhaseHolds journaled more after phase := by
  have finishing : ∀ {ops}, Finishing journaled before ops → Finishing journaled after ops := by
    rintro ops ⟨appends, state, shape, reached, own, covered⟩
    refine ⟨appends, state, shape, reached, own, ?_⟩
    intro record member below
    rcases covered record member below with materialized | replays
    · exact .inl (materialized.grows grows)
    · exact .inr replays
  cases phase with
  | stopped => trivial
  | idle => trivial
  | journaling _ _ =>
    obtain ⟨positive, taken, fresh, rest⟩ := holds
    exact ⟨positive, known _ taken, fresh, rest⟩
  | recording _ _ => exact finishing holds
  | recovering _ _ =>
    obtain ⟨reached, covered⟩ := holds
    exact ⟨reached, fun record member below => (covered record member below).grows grows⟩
  | replaying _ _ => exact finishing holds

theorem PhaseHolds.journal (holds : PhaseHolds journaled ids disk phase)
    {record : TelemetryRecord} (positive : 0 < record.sequence)
    (above : ∀ earlier ∈ journaled, earlier.sequence < record.sequence)
    (other : pendingId phase ≠ some record.recordId) :
    PhaseHolds (journaled ++ [record]) ids disk phase := by
  have beyond : ∀ {state : SinkState}, Reached journaled state →
      ∀ {next}, next ∈ journaled ++ [record] →
        next.sequence ≤ state.lastMaterializedSequence → next ∈ journaled := by
    intro state reached next member below
    rcases mem_append.mp member with member | member
    · exact member
    · rw [mem_singleton.mp member] at below
      exact absurd below (not_le_of_gt (reached.below positive above))
  have finishing : ∀ {ops}, Finishing journaled disk ops →
      Finishing (journaled ++ [record]) disk ops := by
    rintro ops ⟨appends, state, shape, reached, own, covered⟩
    refine ⟨appends, state, shape, reached.append record, ?_, ?_⟩
    · exact fun op member => (own op member).mono fun _ known => mem_append_left _ known
    · exact fun next member below => covered next (beyond reached member below) below
  cases phase with
  | stopped => trivial
  | idle => trivial
  | journaling next _ =>
    obtain ⟨nextPositive, taken, fresh, rest⟩ := holds
    refine ⟨nextPositive, taken, ?_, rest⟩
    rw [map_append, mem_append, not_or]
    refine ⟨fresh, ?_⟩
    intro member
    have same : next.recordId = record.recordId := by simpa using member
    exact other (congrArg some same)
  | recording _ _ => exact finishing holds
  | recovering _ _ =>
    obtain ⟨reached, covered⟩ := holds
    exact ⟨reached.append record, fun next member below =>
      covered next (beyond reached member below) below⟩
  | replaying _ _ => exact finishing holds

omit [DecidableEq Process] in
theorem InTurn.perform (inTurn : world.InTurn state) {op : FileOp}
    (finishing : Finishing world.journaled world.disk (op :: ops)) :
    Grows world.disk (op.perform world.disk) ∧ (ops = [] ∨
        Finishing world.journaled (op.perform world.disk) ops) ∧
      ∃ left, Consistent world.journaled left (op.perform world.disk) ∧
        Reached world.journaled left := by
  obtain ⟨appends, written, shape, reached, own, covered⟩ := finishing
  have whole := inTurn.ontoWhole op
  cases appends with
  | nil =>
    cases shape
    refine ⟨grows_tear_writeState written _ _, .inl rfl,
      state.max written, ?_, inTurn.reached.max reached⟩
    apply inTurn.consistent.tear_writeState reached.nonnegative reached.behind
      ?_ (stateFile_perform inTurn.consistent.stateFile reached.nonnegative)
      (.inr rfl)
    intro record known below
    rcases covered record known below with materialized | ⟨_, member, _⟩
    · exact materialized
    · cases member
  | cons _ rest =>
    obtain ⟨rfl, rfl⟩ := List.cons.inj shape
    have opOwn := own op mem_cons_self
    have grows := grows_tear opOwn.writes whole (op.length world.disk)
    have alone : ∀ other ∈ [op], Appends world.journaled other := by
      intro other member
      rw [mem_singleton.mp member]
      exact opOwn
    obtain ⟨consistent, _, materialized⟩ :=
      inTurn.consistent.performAll_appends alone fun other _ => inTurn.ontoWhole other
    refine ⟨grows, .inr ⟨rest, written, rfl, reached,
      fun other member => own other (mem_cons_of_mem _ member), ?_⟩,
      state, consistent, inTurn.reached⟩
    intro record known below
    rcases covered record known below with old | ⟨other, member, replays⟩
    · exact .inl (old.grows grows)
    · rcases mem_cons.mp member with rfl | member
      · exact .inl (materialized record ⟨other, mem_singleton_self _, replays⟩)
      · exact .inr ⟨other, member, replays⟩

omit [DecidableEq Process] in
theorem InTurn.whole_perform (inTurn : world.InTurn state) (op : FileOp) (file : LogFile) :
    (op.perform world.disk).Whole file := by
  have whole : OntoWhole world.disk (.append file []) := inTurn.whole file
  have kept : OntoWhole (op.perform world.disk) (.append file []) := ontoWhole_perform whole
  exact kept

theorem InTurn.enter (inTurn : world.InTurn state)
    (holds : PhaseHolds world.journaled world.ids world.disk phase)
    (nothing : pendingId phase = none) :
    (world.enter process phase).InTurn state where
  consistent := inTurn.consistent
  whole := inTurn.whole
  reached := inTurn.reached
  ids := inTurn.ids
  phases := by
    intro other
    by_cases same : other = process
    · subst same
      have entered : (world.enter other phase).phase other = phase := Function.update_self ..
      rw [entered]
      exact holds
    · have kept : (world.enter process phase).phase other = world.phase other :=
        Function.update_of_ne same ..
      rw [kept]
      exact inTurn.phases other
  pending := by
    have kept : ∀ {other recordId},
        pendingId ((world.enter process phase).phase other) = some recordId →
          pendingId (world.phase other) = some recordId := by
      intro other recordId waits
      by_cases same : other = process
      · subst same
        have entered : (world.enter other phase).phase other = phase := Function.update_self ..
        rw [entered, nothing] at waits
        cases waits
      · have unchanged : (world.enter process phase).phase other = world.phase other :=
          Function.update_of_ne same ..
        rwa [unchanged] at waits
    exact fun first second recordId firstWaits secondWaits =>
      inTurn.pending first second recordId (kept firstWaits) (kept secondWaits)

omit [DecidableEq Process] in
theorem InTurn.grow {left : SinkState} (inTurn : world.InTurn state) (grows : Grows world.disk disk)
    (consistent : Consistent world.journaled left disk)
    (whole : ∀ file, disk.Whole file)
    (reached : Reached world.journaled left) :
    InTurn { world with disk := disk } left where
  consistent := consistent
  whole := whole
  reached := reached
  ids := inTurn.ids
  phases := fun process => (inTurn.phases process).grows grows fun _ known => known
  pending := inTurn.pending

theorem InTurn.finish (inTurn : world.InTurn state) {op : FileOp}
    (finishing : Finishing world.journaled world.disk (op :: ops))
    (next : ops = [] ∨ Finishing world.journaled (op.perform world.disk) ops →
        PhaseHolds world.journaled world.ids (op.perform world.disk) phase)
    (nothing : pendingId phase = none) :
    ∃ left, InTurn { world.enter process phase with
      disk := op.perform world.disk } left := by
  obtain ⟨grows, rest, left, consistent, reached⟩ := inTurn.perform finishing
  have grown := inTurn.grow grows consistent (inTurn.whole_perform op) reached
  exact ⟨left, grown.enter (next rest) nothing⟩

theorem InTurn.beginRecord (inTurn : world.InTurn state) (process : Process) {recordId : String}
    (fresh : recordId ∉ world.ids) (now : Int) (channel : Channel)
    (payload : Payload) (failure : Option ExportFailure) :
    InTurn { world.enter process (.journaling
        ⟨nextSequence state now, recordId, channel, payload.entries, payload.encodable⟩
        (recordOps state now recordId channel payload.entries failure).ops.tail) with
      ids := recordId :: world.ids } state := by
  obtain ⟨appended, opened, materializes⟩ := recordOps_eq state now recordId channel payload failure
  have positive : 0 < nextSequence state now := by
    have nonnegative := inTurn.reached.nonnegative.1
    have next : state.lastSequence + 1 ≤ nextSequence state now := le_max_left _ _
    omega
  generalize shape : Phase.journaling _ _ = phase
  have own : pendingId phase = some recordId := by
    rw [← shape]
    rfl
  have waiting : ∀ other, pendingId (world.phase other) ≠ some recordId := by
    intro other waits
    have holds := inTurn.phases other
    cases phase : world.phase other with
    | journaling _ _ =>
      rw [phase] at holds waits
      obtain ⟨_, taken, _⟩ := holds
      cases waits
      exact fresh taken
    | _ =>
      rw [phase] at waits
      cases waits
  refine ⟨inTurn.consistent, inTurn.whole, inTurn.reached, ?_, ?_, ?_⟩
  · exact fun record known => mem_cons_of_mem _ (inTurn.ids record known)
  · intro other
    by_cases same : other = process
    · subst same
      have entered : (world.enter other phase).phase other = phase := Function.update_self ..
      have known : recordId ∉ world.journaled.map TelemetryRecord.recordId := by
        intro member
        obtain ⟨record, journaled, sameId⟩ := mem_map.mp member
        exact fresh (sameId ▸ inTurn.ids record journaled)
      show PhaseHolds world.journaled (recordId :: world.ids) world.disk _
      rw [entered, ← shape]
      exact ⟨positive, mem_cons_self, known, appended, materializes, by
        rw [opened]
        rfl⟩
    · have kept : (world.enter process phase).phase other = world.phase other :=
        Function.update_of_ne same ..
      show PhaseHolds world.journaled (recordId :: world.ids) world.disk _
      rw [kept]
      exact (inTurn.phases other).grows (fun _ _ member => member)
        fun _ known => mem_cons_of_mem _ known
  · have cases_ : ∀ {other wanted},
        pendingId ((world.enter process phase).phase other) = some wanted →
          (other = process ∧ wanted = recordId) ∨ (other ≠ process ∧
              pendingId (world.phase other) = some wanted) := by
      intro other wanted waits
      by_cases same : other = process
      · subst same
        have entered : (world.enter other phase).phase other = phase := Function.update_self ..
        rw [entered, own] at waits
        exact .inl ⟨rfl, (Option.some.inj waits).symm⟩
      · have kept : (world.enter process phase).phase other = world.phase other :=
          Function.update_of_ne same ..
        rw [kept] at waits
        exact .inr ⟨same, waits⟩
    intro first second wanted firstWaits secondWaits
    rcases cases_ firstWaits with ⟨rfl, rfl⟩ | ⟨_, firstOld⟩
    · rcases cases_ secondWaits with ⟨rfl, _⟩ | ⟨_, secondOld⟩
      · rfl
      · exact absurd secondOld (waiting second)
    · rcases cases_ secondWaits with ⟨rfl, rfl⟩ | ⟨_, secondOld⟩
      · exact absurd firstOld (waiting first)
      · exact inTurn.pending first second wanted firstOld secondOld

omit [DecidableEq Process] in
theorem InTurn.finishing_recoverOps {found : SinkState}
    (inTurn : world.InTurn state) (reached : Reached world.journaled found)
    (covered : ∀ record ∈ world.journaled,
      record.sequence ≤ found.lastMaterializedSequence → record.Materialized world.disk)
    (failures : PyValue → Option ExportFailure) :
    (recoverOps failures found (world.disk.log .journal)).ops = [] ∨
      Finishing world.journaled world.disk
        (recoverOps failures found (world.disk.log .journal)).ops := by
  cases journal : world.disk.log .journal with
  | none => exact .inl rfl
  | some text =>
    have lines : readValues text = world.journaled.map TelemetryRecord.stored := by
      rw [← inTurn.consistent.journal]
      unfold Disk.values Disk.text
      rw [journal]
      rfl
    have recovers := recoverEntries_stored failures world.journaled found
    refine .inr ⟨(recoverEntries failures found
        (world.journaled.map TelemetryRecord.stored)).1.ops,
      (recoverEntries failures found (world.journaled.map TelemetryRecord.stored)).2,
      ?_, ?_, recovers.ops, ?_⟩
    · unfold recoverOps
      simp only [lines, recovers.returns]
    · refine ⟨⟨le_trans reached.nonnegative.1 recovers.lastSequence_le,
        le_trans reached.nonnegative.2 recovers.lastMaterialized_le⟩,
        recovers.behind reached.behind, ?_⟩
      rcases recovers.reached with same | replayed
      · rw [same]
        exact reached.journaled
      · exact .inr replayed
    · intro record known _
      by_cases below : record.sequence ≤ found.lastMaterializedSequence
      · exact .inl (covered record known below)
      · exact .inr (recovers.replayed inTurn.consistent.ascending record
          known (lt_of_not_ge below))

omit [DecidableEq Process] in
theorem phaseHolds_record (record : TelemetryRecord)
    (next : ops = [] ∨ Finishing journaled disk ops) :
    PhaseHolds journaled ids disk (.record record ops) := by
  cases ops with
  | nil => trivial
  | cons _ _ =>
    rcases next with none | finishing
    · cases none
    · exact finishing

theorem phaseHolds_replay (alive : Bool) (next : ops = [] ∨ Finishing journaled disk ops) :
    PhaseHolds journaled ids disk (.replay alive ops) := by
  cases ops with
  | nil => cases alive <;> trivial
  | cons _ _ =>
    rcases next with none | finishing
    · cases none
    · exact finishing

theorem pendingId_record (record : TelemetryRecord) (ops : List FileOp) :
    pendingId (.record record ops) = none := by
  cases ops <;> rfl

theorem pendingId_replay (alive : Bool) (ops : List FileOp) :
    pendingId (.replay alive ops) = none := by
  cases ops with
  | nil => cases alive <;> rfl
  | cons _ _ => rfl

theorem InTurn.journal (inTurn : world.InTurn state) {record : TelemetryRecord}
    (journaling : world.phase process = .journaling record ops)
    (turn : world.PhaseInTurn (.journaling record ops)) :
    InTurn { world.enter process (.record record ops) with
      disk := (FileOp.append .journal record.envelope).perform world.disk
      journaled := world.journaled ++ [record] } state := by
  have holds := inTurn.phases process
  rw [journaling] at holds
  obtain ⟨positive, taken, fresh, appended, materializes, shape⟩ := holds
  have above : ∀ earlier ∈ world.journaled, earlier.sequence < record.sequence :=
    fun earlier known => (turn earlier known).2
  have journalable : Journalable world.journaled state record :=
    ⟨positive, above, inTurn.reached.below positive above, fresh⟩
  have consistent := inTurn.consistent.journal_perform journalable (inTurn.whole .journal)
  have grows : Grows world.disk ((FileOp.append .journal record.envelope).perform world.disk) :=
    grows_tear_append record.encodable_envelope (inTurn.whole .journal) _
  -- The process of the record has nothing but its own record to materialize.
  have finishing : Finishing (world.journaled ++ [record])
      ((FileOp.append .journal record.envelope).perform world.disk) ops := by
    refine ⟨appended, ⟨record.sequence, record.sequence⟩, shape,
      ⟨journalable.nonnegative, le_refl _, .inr ⟨record, mem_append_right _ mem_cons_self, rfl⟩⟩,
      materializes.appends_append world.journaled, ?_⟩
    intro earlier member _
    rcases mem_append.mp member with member | member
    · have materialized := inTurn.consistent.materialized_of_listed member (turn earlier member).1
      exact .inl (materialized.grows grows)
    · rw [mem_singleton.mp member]
      exact .inr materializes.replays
  have waiting : ∀ other, other ≠ process →
      pendingId (world.phase other) ≠ some record.recordId := by
    intro other different waits
    apply different
    apply inTurn.pending other process record.recordId waits
    rw [journaling]
    rfl
  have grown : InTurn { world with
      disk := (FileOp.append .journal record.envelope).perform world.disk
      journaled := world.journaled ++ [record]
      phase := Function.update world.phase process .stopped } state := {
    consistent := consistent
    whole := inTurn.whole_perform (.append .journal record.envelope)
    reached := inTurn.reached.append record
    ids := by
      intro other member
      rcases mem_append.mp member with member | member
      · exact inTurn.ids other member
      · rw [mem_singleton.mp member]
        exact taken
    phases := by
      intro other
      by_cases same : other = process
      · subst same
        simp only [Function.update_self]
        trivial
      · simp only [Function.update_of_ne same]
        exact ((inTurn.phases other).journal positive above
          (waiting other same)).grows grows fun _ known => known
    pending := by
      have stopped : (world.enter process .stopped).InTurn state := inTurn.enter trivial rfl
      exact stopped.pending }
  have entered : InTurn
      { disk := (FileOp.append .journal record.envelope).perform world.disk
        phase := Function.update
          (Function.update world.phase process .stopped) process
          (.record record ops)
        journaled := world.journaled ++ [record], ids := world.ids } state :=
    grown.enter (phaseHolds_record record (.inr finishing)) (pendingId_record record ops)
  rw [Function.update_idem] at entered
  exact entered

/-! ## Runs -/

theorem InTurn.step {world next : SharedWorld Process} {state : SinkState}
    (inTurn : world.InTurn state) {event : ProcessEvent Process}
    (turn : world.JournalsInTurn event)
    (taken : world.step event = some next) :
    ∃ left, next.InTurn left := by
  have loaded := loadState_of_stateFile inTurn.consistent.stateFile
  have read : ∀ alive, PhaseHolds world.journaled world.ids world.disk (.recovering state alive) :=
    fun _ => ⟨inTurn.reached, inTurn.consistent.covered⟩
  cases event with
  | beginRecord process now _ channel payload failure =>
    simp only [SharedWorld.step, loaded] at taken
    split at taken
    case h_2 => cases taken
    split at taken
    case isTrue => cases taken
    case isFalse fresh =>
    cases taken
    exact ⟨state, inTurn.beginRecord process fresh now channel payload failure⟩
  | beginRecover process =>
    simp only [SharedWorld.step, loaded] at taken
    cases phase : world.phase process with
    | idle =>
      rw [phase] at taken
      cases taken
      exact ⟨state, inTurn.enter (read true) rfl⟩
    | stopped =>
      rw [phase] at taken
      cases taken
      exact ⟨state, inTurn.enter (read false) rfl⟩
    | _ =>
      rw [phase] at taken
      cases taken
  | readJournal process failures =>
    simp only [SharedWorld.step] at taken
    split at taken
    case h_2 => cases taken
    case h_1 found alive recovering =>
    cases taken
    have holds := inTurn.phases process
    rw [recovering] at holds
    obtain ⟨reached, covered⟩ := holds
    have finishing := inTurn.finishing_recoverOps reached covered failures
    exact ⟨state, inTurn.enter (phaseHolds_replay _ finishing) (pendingId_replay _ _)⟩
  | perform process =>
    have holds := inTurn.phases process
    simp only [SharedWorld.step] at taken
    split at taken
    case h_1 record ops journaling =>
        cases taken
        have own : world.PhaseInTurn (world.phase process) := turn
        rw [journaling] at own
        exact ⟨state, inTurn.journal journaling own⟩
    case h_2 record op ops recording =>
        cases taken
        rw [recording] at holds
        exact inTurn.finish holds (phaseHolds_record record) (pendingId_record record ops)
    case h_3 op ops alive replaying =>
        cases taken
        rw [replaying] at holds
        exact inTurn.finish holds (phaseHolds_replay alive) (pendingId_replay alive ops)
    case h_4 => cases taken
  | crash _ =>
    cases taken
    exact ⟨state, inTurn.enter trivial rfl⟩

omit [DecidableEq Process] in
theorem inTurn_empty : (empty : SharedWorld Process).InTurn .zero where
  consistent := {
    journal := rfl
    stateFile := .missing
    nonnegative := ⟨le_refl _, le_refl _⟩
    behind := le_refl _
    positive := nofun
    ascending := List.Pairwise.nil
    distinct := nodup_nil
    covered := nofun
    attributed := fun _ => nofun }
  whole := fun _ => endsLine_nil _
  reached := ⟨⟨le_refl _, le_refl _⟩, le_refl _, .inl rfl⟩
  ids := nofun
  phases := fun _ => trivial
  pending := nofun

/-- In every interleaving of the file operations of the processes, crashes
included, in which each record is journaled in its turn, a load that recovers
returns every journaled record and the watermark passes none that is not
materialized. -/
theorem recoverable_while_journaled_in_turn
    {events : List (ProcessEvent Process)} {world : SharedWorld Process}
    (meets : StepsMeet step JournalsInTurn empty events)
    (run : runEvents step empty events = some world) :
    world.Recoverable := by
  have inTurn : ∃ state, world.InTurn state := by
    apply runEvents_invariant_of_guard JournalsInTurn ?_ ⟨.zero, inTurn_empty⟩ meets run
    rintro _ _ _ ⟨state, inTurn⟩ turn taken
    exact inTurn.step turn taken
  obtain ⟨_, inTurn⟩ := inTurn
  exact inTurn.recoverable

/-! ## A watermark that passes another process -/

def firstRecords : List (ProcessEvent Bool) :=
  [.beginRecover true, .readJournal true fun _ => none,
    .beginRecover false, .readJournal false fun _ => none,
    .beginRecord true 1 "telemetry_a" .metric SinkWorld.queueDelta none]

def secondBegins : ProcessEvent Bool :=
  .beginRecord false 2 "telemetry_b" .metric SinkWorld.queueDelta none

def recordedInTurn : List (ProcessEvent Bool) :=
  firstRecords ++ [.perform true, .perform true, .crash true, secondBegins,
    .perform false, .perform false, .perform false]

def recordedOutOfTurn : List (ProcessEvent Bool) :=
  firstRecords ++ [secondBegins, .perform true, .perform false,
    .perform false, .perform false, .crash true]

theorem recoverable_recordedInTurn :
    ∃ world, runEvents step empty recordedInTurn = some world ∧
      world.journaled.length = 2 ∧ world.Recoverable := by
  have ends :
      ((runEvents step empty recordedInTurn).any
        fun world => world.journaled.length = 2) = true := by
    decide +kernel
  cases run : runEvents step empty recordedInTurn with
  | none =>
    rw [run] at ends
    cases ends
  | some world =>
    rw [run] at ends
    exact ⟨world, rfl, of_decide_eq_true ends,
      recoverable_while_journaled_in_turn (by decide +kernel) run⟩

def rests : Phase → Bool
  | .stopped => true
  | .idle => true
  | _ => false

theorem not_recoverable_recordedOutOfTurn :
    ¬ ∀ (events : List (ProcessEvent Bool)) (world : SharedWorld Bool),
      runEvents step empty events = some world → world.Recoverable := by
  intro recoverable
  have ends :
      ((runEvents step empty recordedOutOfTurn).any
        fun world => rests (world.phase true) && rests (world.phase false) &&
          world.journaled.any fun record =>
            match load world.disk (fun _ => none) record.channel with
            | .ok values => (values.filter fun value => idOf value = some record.recordId).isEmpty
            | .error _ => false) = true := by
    decide +kernel
  cases run : runEvents step empty recordedOutOfTurn with
  | none =>
    rw [run] at ends
    cases ends
  | some world =>
    rw [run] at ends
    simp only [Option.any_some, Bool.and_eq_true, any_eq_true] at ends
    obtain ⟨⟨firstRests, secondRests⟩, record, member, nothing⟩ := ends
    have landed : ¬ world.InFlight record := by
      rintro ⟨process, _, recording, _⟩
      cases process with
      | true =>
        rw [recording] at firstRests
        cases firstRests
      | false =>
        rw [recording] at secondRests
        cases secondRests
    obtain ⟨_, loaded, once⟩ := (recoverable _ _ run).returned record member landed fun _ => none
    rw [loaded] at nothing
    rw [isEmpty_iff.mp nothing] at once
    cases once

end SharedWorld

end Telemetry

end AccruviaHarness
