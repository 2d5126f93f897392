import AccruviaHarness.Telemetry.Consistency

/-!
# Calls of the sink

A call works through its file operations, or it ends early, after any number
of characters of any of them.
-/

namespace AccruviaHarness

open List

namespace Telemetry

open Library PyJson

/-! ## Interrupted calls -/

structure Cut where
  whole : Nat
  written : Option Nat

def interrupt (disk : Disk) : List FileOp → Cut → Option Disk
  | _, ⟨0, none⟩ => some disk
  | [], ⟨0, some _⟩ => none
  | op :: _, ⟨0, some written⟩ =>
    if written < op.length disk then some (op.tear written disk) else none
  | [], ⟨_ + 1, _⟩ => none
  | op :: ops, ⟨whole + 1, written⟩ => interrupt (op.perform disk) ops ⟨whole, written⟩

def Cut.begun (cut : Cut) (ops : List FileOp) : List FileOp :=
  ops.take (cut.whole + if cut.written.isSome then 1 else 0)

theorem Cut.begun_succ (count : Nat) (written : Option Nat) (op : FileOp) (ops : List FileOp) :
    (Cut.mk (count + 1) written).begun (op :: ops) = op :: (Cut.mk count written).begun ops := by
  unfold begun
  rw [Nat.add_right_comm]
  rfl

def linesTo (file : LogFile) (ops : List FileOp) : List PyValue :=
  ops.filterMap fun op =>
    match op with
    | .append other payload => if other = file then some (sortKeys (.dict payload)) else none
    | .writeState _ => none

def Writes (op : FileOp) : Prop :=
  ∀ file payload, op = .append file payload → Encodable (.dict payload)

variable {disk left : Disk} {op : FileOp} {ops appended : List FileOp}
  {cut : Cut} {records : List TelemetryRecord} {state : SinkState}
  {record : TelemetryRecord}

theorem ontoWhole_perform {other : FileOp} (whole : OntoWhole disk other) :
    OntoWhole (op.perform disk) other := by
  cases other with
  | writeState _ => trivial
  | append file _ =>
    have fileWhole : disk.Whole file := whole
    have moved : (op.perform disk).Whole file := by
      unfold Disk.Whole at fileWhole ⊢
      cases op with
      | writeState _ =>
        rw [FileOp.perform, text_tear_writeState]
        exact fileWhole
      | append target _ =>
        rw [perform_append]
        by_cases same : file = target
        · subst same
          rw [text_setLog_self, lineOf_eq_line]
          exact jsonLines.endsLine_append_line _ _
        · rw [text_setLog_of_ne disk same]
          exact fileWhole
    exact moved

theorem grows_tear (writes : Writes op) (whole : OntoWhole disk op) (written : Nat) :
    Grows disk (op.tear written disk) := by
  cases op with
  | append file payload => exact grows_tear_append (writes file payload rfl) whole written
  | writeState state => exact grows_tear_writeState state written disk

theorem Grows.trans {first second third : Disk} (before : Grows first second)
    (after : Grows second third) :
    Grows first third :=
  fun file value member => after file value (before file value member)

theorem mem_values_of_interrupt (writes : ∀ op ∈ ops, Writes op)
    (whole : ∀ op ∈ cut.begun ops, OntoWhole disk op)
    (interrupted : interrupt disk ops cut = some left) :
    Grows disk left ∧
      ∀ file, ∀ value ∈ linesTo file (ops.take cut.whole), value ∈ left.values file := by
  obtain ⟨count, written⟩ := cut
  induction count generalizing disk ops with
  | zero =>
    refine ⟨?_, by simp [linesTo]⟩
    cases written with
    | none =>
      have same : disk = left := by cases ops <;> exact Option.some.inj interrupted
      subst same
      exact fun _ _ member => member
    | some written =>
      cases ops with
      | nil => simp [interrupt] at interrupted
      | cons op _ =>
        simp only [interrupt] at interrupted
        split at interrupted
        · cases interrupted
          exact grows_tear (writes op mem_cons_self) (whole op (by simp [Cut.begun])) written
        · cases interrupted
  | succ count ih =>
    cases ops with
    | nil => simp [interrupt] at interrupted
    | cons op ops =>
      rw [Cut.begun_succ] at whole
      have opWhole := whole op mem_cons_self
      have opWrites := writes op mem_cons_self
      have first := grows_tear opWrites opWhole (op.length disk)
      obtain ⟨rest, later⟩ := ih (fun other member => writes other (mem_cons_of_mem _ member))
        (fun other member => ontoWhole_perform (whole other (mem_cons_of_mem _ member)))
        interrupted
      refine ⟨first.trans rest, ?_⟩
      intro file value member
      cases op with
      | writeState _ => exact later file value member
      | append target payload =>
        have opened :
            linesTo file ((FileOp.append target payload :: ops).take (count + 1)) =
              if target = file then sortKeys (.dict payload) :: linesTo file (ops.take count)
              else linesTo file (ops.take count) := by
          unfold linesTo
          rw [take_succ_cons, filterMap_cons]
          by_cases same : target = file
          · simp [same]
          · simp [same]
        rw [opened] at member
        by_cases same : target = file
        · subst same
          rw [if_pos rfl] at member
          rcases mem_cons.mp member with rfl | member
          · have added := values_perform_append (opWrites target payload rfl) opWhole
            apply rest
            rw [added.1]
            exact mem_append_right _ (mem_singleton_self _)
          · exact later target value member
        · rw [if_neg same] at member
          exact later file value member

theorem interrupt_length (disk : Disk) (ops : List FileOp) :
    interrupt disk ops ⟨ops.length, none⟩ = some (performAll ops disk) := by
  induction ops generalizing disk with
  | nil => rfl
  | cons op _ ih => exact ih (op.perform disk)

/-! ## Calls on files that agree -/

def Works (records : List TelemetryRecord) : Disk → List FileOp → Prop
  | _, [] => True
  | disk, op :: ops =>
    Allowed records disk op ∧ (OntoWhole disk op → Works records (op.perform disk) ops)

theorem Consistent.interrupt (consistent : Consistent records state disk)
    (works : Works records disk ops)
    (whole : ∀ op ∈ cut.begun ops, OntoWhole disk op)
    (interrupted : Telemetry.interrupt disk ops cut = some left) :
    ∃ found, Consistent records found left := by
  obtain ⟨count, written⟩ := cut
  induction count generalizing disk ops state with
  | zero =>
    cases written with
    | none =>
      have same : disk = left := by cases ops <;> exact Option.some.inj interrupted
      subst same
      exact ⟨state, consistent⟩
    | some written =>
      cases ops with
      | nil => simp [Telemetry.interrupt] at interrupted
      | cons op _ =>
        simp only [Telemetry.interrupt] at interrupted
        split at interrupted
        · cases interrupted
          exact consistent.tear works.1 (whole op (by simp [Cut.begun])) written
        · cases interrupted
  | succ _ ih =>
    cases ops with
    | nil => simp [Telemetry.interrupt] at interrupted
    | cons op _ =>
      rw [Cut.begun_succ] at whole
      have opWhole := whole op mem_cons_self
      obtain ⟨_, performed⟩ := consistent.tear works.1 opWhole (op.length disk)
      exact ih performed (works.2 opWhole)
        (fun other member => ontoWhole_perform (whole other (mem_cons_of_mem _ member)))
        interrupted

def Appends (records : List TelemetryRecord) (op : FileOp) : Prop :=
  (∃ record ∈ records, record.Replays op) ∨ Warns op

theorem Appends.allowed (appends : Appends records op) (disk : Disk) : Allowed records disk op := by
  rcases appends with ⟨_, known, replays⟩ | warns
  · exact .replays known replays
  · exact .warns warns

theorem Appends.writes {records : List TelemetryRecord} {op : FileOp}
    (appends : Appends records op) :
    Writes op := by
  intro file payload shape
  rcases appends with ⟨_, _, _, rfl, encodable, _⟩ | ⟨_, rfl, encodable, _⟩
  · cases shape
    exact encodable
  · cases shape
    exact encodable

theorem works_of_appends (appends : ∀ op ∈ ops, Appends records op)
    (nonnegative : state.Nonnegative)
    (behind : state.lastMaterializedSequence ≤ state.lastSequence)
    (covered : ∀ record ∈ records, record.sequence ≤ state.lastMaterializedSequence →
        record.Materialized disk ∨ ∃ op ∈ ops, record.Replays op) :
    Works records disk (ops ++ [.writeState state]) := by
  induction ops generalizing disk with
  | nil =>
    refine ⟨.writes nonnegative behind ?_, fun _ => trivial⟩
    intro record known below
    rcases covered record known below with materialized | ⟨op, member, _⟩
    · exact materialized
    · cases member
  | cons op _ ih =>
    have opAppends := appends op mem_cons_self
    refine ⟨opAppends.allowed disk, fun whole => ?_⟩
    apply ih fun other member => appends other (mem_cons_of_mem _ member)
    intro record known below
    rcases covered record known below with
      materialized | ⟨other, member, replays⟩
    · exact .inl (materialized.grows (grows_tear opAppends.writes whole _))
    · rcases mem_cons.mp member with rfl | member
      · exact .inl (replays.materialized whole)
      · exact .inr ⟨other, member, replays⟩

theorem Consistent.performAll_appends (consistent : Consistent records state disk)
    (appends : ∀ op ∈ ops, Appends records op)
    (whole : ∀ op ∈ ops, OntoWhole disk op) :
    Consistent records state (performAll ops disk) ∧ Grows disk (performAll ops disk) ∧
      ∀ record : TelemetryRecord, (∃ op ∈ ops, record.Replays op) →
        record.Materialized (performAll ops disk) := by
  induction ops generalizing disk with
  | nil =>
    refine ⟨consistent, fun _ _ member => member, ?_⟩
    rintro record ⟨op, member, _⟩
    cases member
  | cons op _ ih =>
    have opAppends := appends op mem_cons_self
    have opWhole := whole op mem_cons_self
    have performed : Consistent records state (op.perform disk) := by
      rcases opAppends with ⟨record, known, replays⟩ | warns
      · obtain ⟨payload, rfl, encodable, same⟩ := replays
        have own := attributed_returned known
        rw [← same] at own
        exact consistent.tear_append record.channel.file_ne_journal encodable own opWhole _
      · obtain ⟨_, rfl, encodable, anonymous⟩ := warns
        exact consistent.tear_append (by decide) encodable
          (attributed_warning encodable anonymous) opWhole _
    obtain ⟨kept, grows, materialized⟩ := ih performed
      (fun other member => appends other (mem_cons_of_mem _ member))
      (fun other member => ontoWhole_perform (whole other (mem_cons_of_mem _ member)))
    refine ⟨kept, (grows_tear opAppends.writes opWhole _).trans grows, ?_⟩
    rintro record ⟨other, member, replays⟩
    rcases mem_cons.mp member with rfl | member
    · exact (replays.materialized opWhole).grows grows
    · exact materialized record ⟨other, member, replays⟩

theorem Consistent.performAll {found : SinkState} (consistent : Consistent records found disk)
    (appends : ∀ op ∈ ops, Appends records op)
    (whole : ∀ op ∈ ops, OntoWhole disk op)
    (nonnegative : state.Nonnegative)
    (behind : state.lastMaterializedSequence ≤ state.lastSequence)
    (covered : ∀ record ∈ records, record.sequence ≤ state.lastMaterializedSequence →
        record.Materialized disk ∨ ∃ op ∈ ops, record.Replays op) :
    Consistent records (found.max state) (Telemetry.performAll (ops ++ [.writeState state]) disk) ∧
      Grows disk (Telemetry.performAll (ops ++ [.writeState state]) disk) := by
  obtain ⟨kept, grows, materialized⟩ := consistent.performAll_appends appends whole
  have last :
      Telemetry.performAll (ops ++ [.writeState state]) disk =
        (FileOp.writeState state).perform (Telemetry.performAll ops disk) := by
    unfold Telemetry.performAll
    rw [foldl_append]
    rfl
  rw [last]
  refine ⟨?_, grows.trans (grows_tear_writeState state _ _)⟩
  apply kept.tear_writeState nonnegative behind ?_
    (stateFile_perform kept.stateFile nonnegative) (.inr rfl)
  intro record known below
  rcases covered record known below with old | new
  · exact old.grows grows
  · exact materialized record new

/-! ## What the calls of the sink do -/

theorem Recovers.behind {records : List TelemetryRecord} {state left : SinkState}
    {script : Script} (recovers : Recovers records state script left)
    (behind : state.lastMaterializedSequence ≤ state.lastSequence) :
    left.lastMaterializedSequence ≤ left.lastSequence := by
  rcases recovers.reached with same | ⟨record, known, same⟩
  · rw [same]
    exact le_trans behind recovers.lastSequence_le
  · rw [same]
    exact recovers.seen record known

theorem Recovers.covers {left : SinkState}
    {script : Script} (recovers : Recovers records state script left)
    (consistent : Consistent records state disk) :
    ∀ record ∈ records, record.sequence ≤ left.lastMaterializedSequence →
      record.Materialized disk ∨ ∃ op ∈ script.ops, record.Replays op := by
  intro record known _
  by_cases below : record.sequence ≤ state.lastMaterializedSequence
  · exact .inl (consistent.covered record known below)
  · exact .inr (recovers.replayed consistent.ascending record known (lt_of_not_ge below))

theorem recoverScript_of_consistent (consistent : Consistent records state disk)
    (failures : PyValue → Option ExportFailure) :
    (records = [] ∧ recoverScript disk failures = ⟨[], none⟩) ∨
      ∃ script left, Recovers records state script left ∧
        recoverScript disk failures = ⟨script.ops ++ [.writeState left], none⟩ := by
  unfold recoverScript
  rw [loadState_of_stateFile consistent.stateFile]
  cases journal : disk.log .journal with
  | none =>
    have empty : disk.values .journal = [] := by
      unfold Disk.values Disk.text
      rw [journal]
      rfl
    rw [consistent.journal] at empty
    exact .inl ⟨map_eq_nil_iff.mp empty, rfl⟩
  | some text =>
    have lines : readValues text = records.map TelemetryRecord.stored := by
      rw [← consistent.journal]
      unfold Disk.values Disk.text
      rw [journal]
      rfl
    have recovers := recoverEntries_stored failures records state
    refine .inr ⟨_, _, recovers, ?_⟩
    unfold recoverOps
    simp only [lines, recovers.returns]

def recordingOf (record : TelemetryRecord) (appended : List FileOp) : List FileOp :=
  .append .journal record.envelope :: (appended ++ [.writeState ⟨record.sequence, record.sequence⟩])

structure Materializes (record : TelemetryRecord) (appended : List FileOp) :
    Prop where
  replays : ∃ op ∈ appended, record.Replays op
  appends : ∀ op ∈ appended, Appends [record] op

theorem recordOps_eq (state : SinkState) (now : Int) (recordId : String) (channel : Channel)
    (payload : Payload) (failure : Option ExportFailure) :
    ∃ appended, recordOps state now recordId channel payload.entries failure =
          ⟨recordingOf ⟨nextSequence state now, recordId, channel,
            payload.entries, payload.encodable⟩ appended, none⟩ ∧
        Materializes ⟨nextSequence state now, recordId, channel,
          payload.entries, payload.encodable⟩ appended := by
  obtain ⟨op, warnings, materialized, replays, warn⟩ :=
    materializeEnvelope_envelope ⟨nextSequence state now, recordId, channel, payload.entries,
        payload.encodable⟩ failure
  refine ⟨op :: warnings, ?_, ⟨op, mem_cons_self, replays⟩, ?_⟩
  · unfold recordOps
    have opened :
        materializeEnvelope (envelopeOf (nextSequence state now) recordId channel
              payload.entries) failure =
          .ok (op :: warnings) := materialized
    simp only [opened]
    rfl
  · rintro other (_ | ⟨_, member⟩)
    · exact .inl ⟨_, mem_cons_self, replays⟩
    · exact .inr (warn other member)

theorem Appends.mono {more : List TelemetryRecord} (appends : Appends records op)
    (known : ∀ record ∈ records, record ∈ more) :
    Appends more op := by
  rcases appends with ⟨record, member, replays⟩ | warns
  · exact .inl ⟨record, known record member, replays⟩
  · exact .inr warns

theorem Materializes.appends_append (materializes : Materializes record appended)
    (records : List TelemetryRecord) :
    ∀ op ∈ appended, Appends (records ++ [record]) op :=
  fun op member => (materializes.appends op member).mono fun _ own => mem_append_right _ own

theorem writes_recordingOf (materializes : Materializes record appended) :
    ∀ op ∈ recordingOf record appended, Writes op := by
  intro op member
  rcases mem_cons.mp member with rfl | member
  · intro file payload same
    cases same
    exact record.encodable_envelope
  rcases mem_append.mp member with member | member
  · exact (materializes.appends op member).writes
  · rw [mem_singleton.mp member]
    exact nofun

theorem Journalable.nonnegative (journalable : Journalable records state record) :
    (SinkState.mk record.sequence record.sequence).Nonnegative :=
  ⟨le_of_lt journalable.positive, le_of_lt journalable.positive⟩

theorem Consistent.journal_perform (consistent : Consistent records state disk)
    (journalable : Journalable records state record)
    (whole : disk.Whole .journal) :
    Consistent (records ++ [record]) state
      ((FileOp.append .journal record.envelope).perform disk) :=
  consistent.journal_tear journalable (values_perform_append record.encodable_envelope whole).1

theorem Consistent.performAll_recordingOf (consistent : Consistent records state disk)
    (journalable : Journalable records state record)
    (materializes : Materializes record appended)
    (settled : ∀ earlier ∈ records, earlier.sequence ≤ state.lastMaterializedSequence)
    (whole : ∀ op ∈ recordingOf record appended, OntoWhole disk op) :
    Consistent (records ++ [record]) (state.max ⟨record.sequence, record.sequence⟩)
      (Telemetry.performAll (recordingOf record appended) disk) := by
  have journaled := consistent.journal_perform journalable (whole _ mem_cons_self)
  refine (journaled.performAll (materializes.appends_append records) ?_
    journalable.nonnegative (le_refl _) ?_).1
  · intro op member
    exact ontoWhole_perform (whole op (mem_cons_of_mem _ (mem_append_left _ member)))
  · intro earlier member _
    rcases mem_append.mp member with known | own
    · exact .inl (journaled.covered earlier member (settled earlier known))
    · rw [mem_singleton.mp own]
      exact .inr materializes.replays

theorem Consistent.interrupt_recordingOf (consistent : Consistent records state disk)
    (journalable : Journalable records state record)
    (materializes : Materializes record appended)
    (settled : ∀ earlier ∈ records, earlier.sequence ≤ state.lastMaterializedSequence)
    (whole : ∀ op ∈ cut.begun (recordingOf record appended), OntoWhole disk op)
    (interrupted :
      Telemetry.interrupt disk (recordingOf record appended) cut = some left) :
    ∃ found, cut.whole = 0 ∧ Consistent records found left ∨
      Consistent (records ++ [record]) found left := by
  obtain ⟨count, written⟩ := cut
  unfold recordingOf at whole interrupted
  cases count with
  | zero =>
    cases written with
    | none =>
      cases interrupted
      exact ⟨state, .inl ⟨rfl, consistent⟩⟩
    | some written =>
      simp only [Telemetry.interrupt] at interrupted
      split at interrupted
      case isFalse => cases interrupted
      case isTrue =>
        cases interrupted
        have journalWhole : disk.Whole .journal :=
          whole (.append .journal record.envelope) (by simp [Cut.begun])
        rcases values_tear_append record.encodable_envelope journalWhole written with kept | added
        · exact ⟨state, .inl ⟨rfl, consistent.journal_torn kept⟩⟩
        · exact ⟨state, .inr (consistent.journal_tear journalable added)⟩
  | succ _ =>
    rw [Cut.begun_succ] at whole
    have journaled := consistent.journal_perform journalable (whole _ mem_cons_self)
    have works : Works (records ++ [record]) ((FileOp.append .journal record.envelope).perform disk)
        (appended ++ [.writeState ⟨record.sequence, record.sequence⟩]) := by
      apply works_of_appends (materializes.appends_append records)
        journalable.nonnegative (le_refl _)
      intro earlier member _
      rcases mem_append.mp member with known | own
      · exact .inl (journaled.covered earlier member (settled earlier known))
      · rw [mem_singleton.mp own]
        exact .inr materializes.replays
    obtain ⟨found, after⟩ := journaled.interrupt works
      (fun op member => ontoWhole_perform (whole op (mem_cons_of_mem _ member))) interrupted
    exact ⟨found, .inr after⟩

theorem Consistent.nonnegative_left {left : SinkState} {script : Script}
    (consistent : Consistent records state disk)
    (recovers : Recovers records state script left) :
    left.Nonnegative :=
  ⟨le_trans consistent.nonnegative.1 recovers.lastSequence_le,
    le_trans consistent.nonnegative.2 recovers.lastMaterialized_le⟩

theorem Consistent.performAll_recoverScript (consistent : Consistent records state disk)
    (failures : PyValue → Option ExportFailure)
    (whole : ∀ op ∈ (recoverScript disk failures).ops, OntoWhole disk op) :
    (recoverScript disk failures).raised = none ∧ ∃ left, Consistent records left
          (Telemetry.performAll (recoverScript disk failures).ops disk) ∧
        ∀ record ∈ records, record.sequence ≤ left.lastSequence ∧
          record.sequence ≤ left.lastMaterializedSequence := by
  rcases recoverScript_of_consistent consistent failures with
    ⟨rfl, opened⟩ | ⟨_, left, recovers, opened⟩
  · rw [opened]
    exact ⟨rfl, state, consistent, nofun⟩
  · rw [opened] at whole ⊢
    refine ⟨rfl, state.max left, ?_, ?_⟩
    · exact (consistent.performAll recovers.ops
        (fun op member => whole op (mem_append_left _ member))
        (consistent.nonnegative_left recovers)
        (recovers.behind consistent.behind)
        (recovers.covers consistent)).1
    · intro record known
      exact ⟨le_max_of_le_right (recovers.seen record known),
        le_max_of_le_right (recovers.covered record known)⟩

theorem Consistent.works_recoverScript (consistent : Consistent records state disk)
    (failures : PyValue → Option ExportFailure) :
    Works records disk (recoverScript disk failures).ops ∧
      ∀ op ∈ (recoverScript disk failures).ops, Writes op := by
  rcases recoverScript_of_consistent consistent failures with
    ⟨_, opened⟩ | ⟨_, _, recovers, opened⟩
  · rw [opened]
    exact ⟨trivial, nofun⟩
  · rw [opened]
    refine ⟨works_of_appends recovers.ops (consistent.nonnegative_left recovers)
      (recovers.behind consistent.behind) (recovers.covers consistent), ?_⟩
    intro op member
    rcases mem_append.mp member with member | member
    · exact Appends.writes (recovers.ops op member)
    · rw [mem_singleton.mp member]
      exact nofun

end Telemetry

end AccruviaHarness
