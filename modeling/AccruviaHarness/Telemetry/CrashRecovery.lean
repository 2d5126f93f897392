import AccruviaHarness.Library.Runs
import AccruviaHarness.Telemetry.Calls

/-!
# Crashes of one telemetry process

One process at a time uses the directory. Its calls run one after the other,
under the lock of the sink, and a crash may end each of them; the next process
recovers first.
-/

namespace AccruviaHarness

open List

namespace Telemetry

open Library PyJson

inductive Call where
  | record (now : Int) (recordId : String) (channel : Channel)
      (payload : Payload) (failure : Option ExportFailure)
  | recover (failures : PyValue → Option ExportFailure)

def Call.script (disk : Disk) : Call → Script
  | .record now recordId channel payload failure =>
    recordScript disk now recordId channel payload.entries failure
  | .recover failures => recoverScript disk failures

def Call.taken (disk : Disk) : Call → Option TelemetryRecord
  | .record now recordId channel payload _ =>
    match loadState disk.state with
    | .ok state =>
      some ⟨nextSequence state now, recordId, channel, payload.entries, payload.encodable⟩
    | .error _ => none
  | .recover _ => none

/-- The directory, whether a process runs, what it has written whole so far,
and the ids that `uuid4` has given. -/
structure SinkWorld where
  disk : Disk
  running : Bool
  journaled : List TelemetryRecord
  complete : LogFile → List PyValue
  ids : List String

structure CallEvent where
  call : Call
  crash : Option Cut

namespace SinkWorld

def empty : SinkWorld where
  disk := ⟨fun _ => none, none⟩
  running := false
  journaled := []
  complete := fun _ => []
  ids := []

/-- Only a running process records, and `uuid4` repeats no id. -/
def Enabled (world : SinkWorld) : Call → Prop
  | .record _ recordId _ _ _ => world.running = true ∧ recordId ∉ world.ids
  | .recover _ => True

instance (world : SinkWorld) (call : Call) : Decidable (world.Enabled call) :=
  match call with
  | .record _ _ _ _ _ => inferInstanceAs (Decidable (_ ∧ _))
  | .recover _ => isTrue trivial

def idsOf : Call → List String
  | .record _ recordId _ _ _ => [recordId]
  | .recover _ => []

variable (world : SinkWorld)

def after (call : Call) (left : Disk) (running : Bool) (whole : List FileOp) : SinkWorld where
  disk := left
  running := running
  journaled := world.journaled ++
    if whole.isEmpty then [] else (call.taken world.disk).toList
  complete := fun file => world.complete file ++ linesTo file whole
  ids := idsOf call ++ world.ids

def step (world : SinkWorld) (event : CallEvent) : Option SinkWorld :=
  if world.Enabled event.call then
    let script := event.call.script world.disk
    match event.crash with
    | none =>
      some (world.after event.call (performAll script.ops world.disk)
        (world.running || script.raised.isNone) script.ops)
    | some cut =>
      (interrupt world.disk script.ops cut).map fun left =>
        world.after event.call left false (script.ops.take cut.whole)
  else none

variable (event : CallEvent)

def begun : List FileOp :=
  let script := event.call.script world.disk
  match event.crash with
  | none => script.ops
  | some cut => cut.begun script.ops

def AppendsOntoWhole : Prop := ∀ op ∈ world.begun event, OntoWhole world.disk op

instance (disk : Disk) (op : FileOp) : Decidable (OntoWhole disk op) :=
  match op with
  | .append file _ => inferInstanceAs (Decidable (disk.Whole file))
  | .writeState _ => isTrue trivial

instance (world : SinkWorld) (event : CallEvent) : Decidable (world.AppendsOntoWhole event) :=
  inferInstanceAs (Decidable (∀ op ∈ world.begun event, OntoWhole _ op))

/-- While a process runs, every load returns each record whose journal line
was written whole exactly once, and at no time does a reader miss a line that
was written whole. -/
structure Recovered (world : SinkWorld) : Prop where
  returned : world.running = true → ∀ failures,
    ∀ record ∈ world.journaled, ∃ values, load world.disk failures record.channel = .ok values ∧
        (values.filter fun value => idOf value = some record.recordId) = [record.returned]
  found : ∀ file, ∀ value ∈ world.complete file, value ∈ world.disk.values file

structure Settled (world : SinkWorld) (records : List TelemetryRecord)
    (state : SinkState) : Prop where
  consistent : Consistent records state world.disk
  ids : ∀ record ∈ records, record.recordId ∈ world.ids
  journaled : ∀ record ∈ world.journaled, record ∈ records
  running : world.running = true → ∀ record ∈ records, record.sequence ≤ state.lastSequence ∧
      record.sequence ≤ state.lastMaterializedSequence
  found : ∀ file, ∀ value ∈ world.complete file, value ∈ world.disk.values file

variable {world : SinkWorld} {records : List TelemetryRecord}
  {state : SinkState}

theorem Settled.recovered (settled : world.Settled records state) :
    world.Recovered where
  returned := by
    intro running failures record member
    have known := settled.journaled record member
    have below := settled.running running
    have consistent := settled.consistent
    have materialized := consistent.covered record known (below record known).2
    have whole : ∀ op ∈ (recoverScript world.disk failures).ops, OntoWhole world.disk op := by
      rcases recoverScript_of_consistent consistent failures with
        ⟨_, opened⟩ | ⟨_, left, recovers, opened⟩
      · rw [opened]
        exact nofun
      · rw [opened, recovers.idle fun other known => (below other known).2]
        intro op member
        rw [mem_singleton.mp member]
        trivial
    obtain ⟨returns, _, after, covered⟩ := consistent.performAll_recoverScript failures whole
    have later := after.covered record known (covered record known).2
    obtain ⟨values, loaded, once⟩ := after.returnedOnce known later
    refine ⟨values, ?_, once⟩
    unfold load
    simp only [returns, loaded]
  found := settled.found

theorem found_after {left : Disk} {ops : List FileOp} {cut : Cut}
    (found : ∀ file, ∀ value ∈ world.complete file, value ∈ world.disk.values file)
    (writes : ∀ op ∈ ops, Writes op)
    (whole : ∀ op ∈ cut.begun ops, OntoWhole world.disk op)
    (interrupted : interrupt world.disk ops cut = some left) :
    ∀ file, ∀ value ∈ world.complete file ++ linesTo file (ops.take cut.whole),
      value ∈ left.values file := by
  obtain ⟨grows, written⟩ := mem_values_of_interrupt writes whole interrupted
  intro file value member
  rcases mem_append.mp member with member | member
  · exact grows file value (found file value member)
  · exact written file value member

theorem begun_length (ops : List FileOp) : (Cut.mk ops.length none).begun ops = ops := by
  simp [Cut.begun]

theorem Settled.recover {next : SinkWorld} (settled : world.Settled records state)
    {failures : PyValue → Option ExportFailure} {crash : Option Cut}
    (whole : world.AppendsOntoWhole ⟨.recover failures, crash⟩)
    (taken : world.step ⟨.recover failures, crash⟩ = some next) :
    ∃ left, next.Settled records left := by
  have consistent := settled.consistent
  obtain ⟨works, writes⟩ := consistent.works_recoverScript failures
  have noRecord : ∀ condition : Bool,
      world.journaled ++ (if condition then [] else
        ((Call.recover failures).taken world.disk).toList) =
          world.journaled := by
    intro condition
    cases condition <;> exact append_nil _
  unfold step at taken
  rw [if_pos (show world.Enabled (.recover failures) from trivial)] at taken
  cases crash with
  | none =>
    cases taken
    obtain ⟨_, left, after, covered⟩ := consistent.performAll_recoverScript failures whole
    refine ⟨left, after, settled.ids, ?_, fun _ => covered, ?_⟩
    · intro record member
      unfold SinkWorld.after at member
      rw [noRecord] at member
      exact settled.journaled record member
    · have begun := begun_length (recoverScript world.disk failures).ops
      have found := found_after settled.found writes
        (by rw [begun]; exact whole) (interrupt_length world.disk _)
      rw [take_length] at found
      exact found
  | some _ =>
    obtain ⟨_, interrupted, rfl⟩ := Option.map_eq_some_iff.mp taken
    obtain ⟨found, after⟩ := consistent.interrupt works whole interrupted
    refine ⟨found, after, settled.ids, ?_, nofun,
      found_after settled.found writes whole interrupted⟩
    intro record member
    unfold SinkWorld.after at member
    rw [noRecord] at member
    exact settled.journaled record member

theorem Settled.journalable (settled : world.Settled records state)
    (running : world.running = true) {record : TelemetryRecord} {now : Int}
    (sequence : record.sequence = nextSequence state now)
    (fresh : record.recordId ∉ world.ids) :
    Journalable records state record := by
  have next : state.lastSequence + 1 ≤ record.sequence := by
    rw [sequence]
    exact le_max_left _ _
  have nonnegative := settled.consistent.nonnegative.1
  have behind := settled.consistent.behind
  refine ⟨by omega, ?_, by omega, ?_⟩
  · intro earlier known
    have below := (settled.running running earlier known).1
    omega
  · intro member
    obtain ⟨other, known, same⟩ := mem_map.mp member
    apply fresh
    rw [← same]
    exact settled.ids other known

theorem Settled.record {world next : SinkWorld} {records : List TelemetryRecord}
    {state : SinkState} (settled : world.Settled records state)
    {now : Int} {recordId : String} {channel : Channel} {payload : Payload}
    {failure : Option ExportFailure} {crash : Option Cut}
    (whole : world.AppendsOntoWhole ⟨.record now recordId channel payload failure, crash⟩)
    (taken : world.step ⟨.record now recordId channel payload failure, crash⟩ = some next) :
    ∃ records left, next.Settled records left := by
  have consistent := settled.consistent
  unfold step at taken
  split at taken
  case isFalse => cases taken
  case isTrue enabled =>
  obtain ⟨running, fresh⟩ := enabled
  obtain ⟨appended, opened, materializes⟩ := recordOps_eq state now recordId channel payload failure
  generalize shape : (TelemetryRecord.mk (nextSequence state now) recordId
    channel payload.entries payload.encodable) = record at opened materializes
  have loaded := loadState_of_stateFile consistent.stateFile
  have script :
      (Call.record now recordId channel payload failure).script world.disk =
        ⟨recordingOf record appended, none⟩ := by
    unfold Call.script recordScript
    simp only [loaded, opened]
  have ownRecord :
      (Call.record now recordId channel payload failure).taken world.disk = some record := by
    unfold Call.taken
    simp only [loaded, shape]
  have journalable : Journalable records state record :=
    settled.journalable running (by rw [← shape]) (by rw [← shape]; exact fresh)
  have below := settled.running running
  have covered := fun earlier known => (below earlier known).2
  have writes := writes_recordingOf materializes
  have ids : ∀ other ∈ records ++ [record], other.recordId ∈ recordId :: world.ids := by
    intro other member
    rcases mem_append.mp member with member | member
    · exact mem_cons_of_mem _ (settled.ids other member)
    · rw [mem_singleton.mp member, ← shape]
      exact mem_cons_self
  unfold AppendsOntoWhole begun at whole
  simp only [script] at taken whole
  cases crash with
  | none =>
    cases taken
    refine ⟨records ++ [record], state.max ⟨record.sequence, record.sequence⟩,
      consistent.performAll_recordingOf journalable materializes covered whole,
      ids, ?_, ?_, ?_⟩
    · intro other member
      unfold SinkWorld.after at member
      rw [ownRecord] at member
      rcases mem_append.mp member with member | member
      · exact mem_append_left _ (settled.journaled other member)
      · exact mem_append_right _ member
    · intro _ other member
      rcases mem_append.mp member with member | member
      · obtain ⟨seen, materialized⟩ := below other member
        exact ⟨le_max_of_le_left seen, le_max_of_le_left materialized⟩
      · rw [mem_singleton.mp member]
        exact ⟨le_max_right _ _, le_max_right _ _⟩
    · have begun := begun_length (recordingOf record appended)
      have found := found_after settled.found writes
        (by rw [begun]; exact whole) (interrupt_length world.disk _)
      rw [take_length] at found
      exact found
  | some _ =>
    obtain ⟨_, interrupted, rfl⟩ := Option.map_eq_some_iff.mp taken
    have found := found_after settled.found writes whole interrupted
    obtain ⟨state, ⟨early, after⟩ | after⟩ :=
      consistent.interrupt_recordingOf journalable materializes covered whole interrupted
    · refine ⟨records, state, after, fun other member =>
        mem_cons_of_mem _ (settled.ids other member), ?_, Bool.noConfusion, found⟩
      intro other member
      unfold SinkWorld.after at member
      rw [early] at member
      exact settled.journaled other (by simpa using member)
    · refine ⟨records ++ [record], state, after, ids, ?_, Bool.noConfusion, found⟩
      intro other member
      unfold SinkWorld.after at member
      rw [ownRecord] at member
      rcases mem_append.mp member with member | member
      · exact mem_append_left _ (settled.journaled other member)
      · split at member
        · cases member
        · exact mem_append_right _ member

theorem settled_empty : empty.Settled [] .zero where
  consistent := {
    journal := rfl
    stateFile := .missing
    nonnegative := ⟨le_refl _, le_refl _⟩
    behind := le_refl _
    positive := nofun
    ascending := List.Pairwise.nil
    distinct := nodup_nil
    covered := nofun
    attributed := fun _ => nofun }
  ids := nofun
  journaled := nofun
  running := nofun
  found := nofun

/-- In every run of calls and crashes that appends nothing behind a torn line,
each load returns every record with a whole journal line exactly once, and no
whole line is ever hidden. -/
theorem recovered_while_no_append_behind_torn_line {events : List CallEvent} {world : SinkWorld}
    (meets : StepsMeet step AppendsOntoWhole empty events)
    (run : runEvents step empty events = some world) :
    world.Recovered := by
  have settled : ∃ records state, world.Settled records state := by
    apply runEvents_invariant_of_guard AppendsOntoWhole ?_ ⟨[], .zero, settled_empty⟩ meets run
    rintro _ ⟨call, _⟩ _ ⟨records, state, settled⟩ whole taken
    cases call with
    | record _ _ _ _ _ => exact settled.record whole taken
    | recover _ =>
      obtain ⟨left, after⟩ := settled.recover whole taken
      exact ⟨records, left, after⟩
  obtain ⟨_, _, settled⟩ := settled
  exact settled.recovered

/-! ## A torn line that hides a record -/

/-- What `metric("queue_delta", 1)` gives to `_record`. -/
def queueDelta : Payload where
  entries := [("timestamp", .str "2026-03-11T00:00:00+00:00"),
    ("type", .str "metric"), ("name", .str "queue_delta"),
    ("metric_type", .str "counter"), ("value", .int 1),
    ("attributes", .dict [])]
  encodable := by
    refine ⟨by simp, trivial, trivial, trivial, trivial, trivial, ?_, trivial⟩
    exact ⟨nodup_nil, trivial⟩

def started : CallEvent := ⟨.recover fun _ => none, none⟩

def interruptedRecord (cut : Cut) : CallEvent :=
  ⟨.record 1 "telemetry_a" .metric queueDelta none, some cut⟩

/-- A process that stops while it writes the state loses nothing. -/
theorem recovered_after_torn_state :
    ∃ world, runEvents step empty [started, interruptedRecord ⟨2, some 20⟩, started] = some world ∧
        world.running = true ∧ world.Recovered := by
  have ends :
      ((runEvents step empty [started, interruptedRecord ⟨2, some 20⟩, started]).any
        fun world => world.running) = true := by
    decide +kernel
  cases run : runEvents step empty [started, interruptedRecord ⟨2, some 20⟩, started] with
  | none =>
    rw [run] at ends
    cases ends
  | some world =>
    rw [run] at ends
    exact ⟨world, rfl, ends, recovered_while_no_append_behind_torn_line (by decide +kernel) run⟩

/-- The first character of a materialized line is on the disk when the process
stops. Its successor appends the record behind it and counts it as done. -/
theorem not_recovered_behind_torn_line :
    ¬ ∀ (events : List CallEvent) (world : SinkWorld),
      runEvents step empty events = some world → world.Recovered := by
  intro recovers
  have ends :
      ((runEvents step empty [started, interruptedRecord ⟨1, some 1⟩, started]).any
        fun world => world.running &&
          (world.journaled.any fun record => record.channel = .metric) &&
          match load world.disk (fun _ => none) .metric with
          | .ok values => values.isEmpty
          | .error _ => false) = true := by
    decide +kernel
  cases run : runEvents step empty [started, interruptedRecord ⟨1, some 1⟩, started] with
  | none =>
    rw [run] at ends
    cases ends
  | some _ =>
    rw [run] at ends
    simp only [Option.any_some, Bool.and_eq_true, any_eq_true, decide_eq_true_eq] at ends
    obtain ⟨⟨running, record, member, channel⟩, nothing⟩ := ends
    obtain ⟨_, loaded, once⟩ := (recovers _ _ run).returned running (fun _ => none) record member
    rw [channel] at loaded
    rw [loaded] at nothing
    rw [isEmpty_iff.mp nothing] at once
    cases once

end SinkWorld

end Telemetry

end AccruviaHarness
