import AccruviaHarness.Telemetry.Replay

/-!
# Journal, watermark and materialized files

The files agree when the journal holds the records in the order of their
sequence numbers, every record up to the watermark is materialized, and what is
materialized belongs to a record.
-/

namespace AccruviaHarness

open List

namespace Telemetry

open Library PyJson

/-! ## Loading -/

/-- The `_record_id` of a loaded value, where it is a text. -/
def idOf : PyValue → Option String
  | .dict entries =>
    match PyDict.get entries "_record_id" with
    | .str recordId => some recordId
    | _ => none
  | _ => none

theorem idOf_returned (record : TelemetryRecord) : idOf record.returned = some record.recordId := by
  have distinct := (record.encodable_identified record.encodable).1
  have field : (record.identified record.payload).get "_record_id" = .str record.recordId := by
    unfold TelemetryRecord.identified
    rw [PyDict.get_set, if_neg (by decide), PyDict.get_set, if_pos rfl]
  have opened :
      record.returned = .dict (sortByKey (sortEntries (record.identified record.payload))) := rfl
  simp only [opened, idOf, get_sorted distinct, field]
  rfl

theorem uniqueRecords_cons (seen : List String) (entries : PyDict) (values : List PyValue) :
    uniqueRecords seen (.dict entries :: values) =
      match idOf (.dict entries) with
      | some recordId =>
        if recordId ∈ seen then uniqueRecords seen values
        else (uniqueRecords (recordId :: seen) values).map (.dict entries :: ·)
      | none => (uniqueRecords seen values).map (.dict entries :: ·) := by
  have opened :
      uniqueRecords seen (.dict entries :: values) =
        match PyDict.get entries "_record_id" with
        | .str recordId =>
          if recordId ∈ seen then uniqueRecords seen values
          else (uniqueRecords (recordId :: seen) values).map (.dict entries :: ·)
        | _ => (uniqueRecords seen values).map (.dict entries :: ·) := rfl
  have shown :
      idOf (.dict entries) =
        match PyDict.get entries "_record_id" with
        | .str recordId => some recordId
        | _ => none := rfl
  rw [opened, shown]
  cases PyDict.get entries "_record_id" <;> rfl

variable {values : List PyValue} {other : LogFile} {op : FileOp}

theorem uniqueRecords_filter (objects : ∀ value ∈ values, ∃ entries, value = .dict entries)
    (seen : List String) (recordId : String) :
    ∃ records, uniqueRecords seen values = .ok records ∧
      (records.filter fun value => idOf value = some recordId) =
        if recordId ∈ seen then []
        else (values.filter fun value => idOf value = some recordId).take 1 := by
  induction values generalizing seen with
  | nil => exact ⟨[], rfl, by simp⟩
  | cons value _ ih =>
    have later := ih fun other member => objects other (mem_cons_of_mem _ member)
    obtain ⟨entries, rfl⟩ := objects value mem_cons_self
    rw [uniqueRecords_cons]
    cases own : idOf (.dict entries) with
    | none =>
      obtain ⟨records, loaded, filtered⟩ := later seen
      refine ⟨.dict entries :: records, by rw [loaded]; rfl, ?_⟩
      rw [filter_cons_of_neg (by simp [own]), filter_cons_of_neg (by simp [own]), filtered]
    | some found =>
      by_cases known : found ∈ seen
      · obtain ⟨records, loaded, filtered⟩ := later seen
        refine ⟨records, by simp only [if_pos known, loaded], ?_⟩
        rw [filtered]
        by_cases wanted : recordId ∈ seen
        · rw [if_pos wanted, if_pos wanted]
        · have other : found ≠ recordId := by
            rintro rfl
            exact wanted known
          rw [if_neg wanted, if_neg wanted, filter_cons_of_neg]
          simpa [own] using other
      · obtain ⟨records, loaded, filtered⟩ := later (found :: seen)
        refine ⟨.dict entries :: records, by simp only [if_neg known, loaded]; rfl, ?_⟩
        by_cases same : found = recordId
        · subst same
          rw [if_neg known, filter_cons_of_pos (by simp [own]),
            filter_cons_of_pos (by simp [own]), filtered]
          simp
        · rw [filter_cons_of_neg (by simpa [own] using same),
            filter_cons_of_neg (by simpa [own] using same),
            filtered]
          simp [Ne.symm same]

def ReturnedOnce (disk : Disk) (record : TelemetryRecord) : Prop :=
  ∃ values, loadRecords disk record.channel = .ok values ∧
    (values.filter fun value => idOf value = some record.recordId) = [record.returned]

def TelemetryRecord.Materialized (record : TelemetryRecord) (disk : Disk) :
    Prop :=
  record.returned ∈ disk.values record.channel.file

def TelemetryRecord.Listed (record : TelemetryRecord) (disk : Disk) : Prop :=
  ∃ value ∈ disk.values record.channel.file, idOf value = some record.recordId

instance (record : TelemetryRecord) (disk : Disk) : Decidable (record.Listed disk) :=
  inferInstanceAs (Decidable (∃ value ∈ disk.values record.channel.file, _))

variable {disk : Disk} {record : TelemetryRecord}
  {records : List TelemetryRecord} {state : SinkState} {file : LogFile}
  {payload : PyDict} {written : Nat}

theorem returnedOnce_of_materialized (objects : ∀ value ∈ disk.values record.channel.file,
      ∃ entries, value = .dict entries)
    (own : ∀ value ∈ disk.values record.channel.file,
      idOf value = some record.recordId → value = record.returned)
    (materialized : record.Materialized disk) :
    ReturnedOnce disk record := by
  obtain ⟨records, loaded, filtered⟩ := uniqueRecords_filter objects [] record.recordId
  have opened :
      loadRecords disk record.channel = uniqueRecords [] (disk.values record.channel.file) := by
    unfold loadRecords Disk.values Disk.text
    cases disk.log record.channel.file <;> rfl
  refine ⟨records, by rw [opened, loaded], ?_⟩
  rw [filtered, if_neg not_mem_nil]
  have member :
      record.returned ∈ (disk.values record.channel.file).filter
        fun value => idOf value = some record.recordId := by
    rw [mem_filter]
    exact ⟨materialized, by simp [idOf_returned]⟩
  cases shape : (disk.values record.channel.file).filter
      fun value => idOf value = some record.recordId with
  | nil =>
    rw [shape] at member
    cases member
  | cons first _ =>
    have firstMember : first ∈ (disk.values record.channel.file).filter
        fun value => idOf value = some record.recordId := by
      rw [shape]
      exact mem_cons_self
    obtain ⟨known, sameId⟩ := mem_filter.mp firstMember
    rw [own first known (of_decide_eq_true sameId)]
    rfl

/-! ## The agreement -/

def Attributed (records : List TelemetryRecord) (values : List PyValue) :
    Prop :=
  ∀ value ∈ values, (∃ entries, value = .dict entries) ∧ ∀ recordId, idOf value = some recordId →
      ∃ record ∈ records, record.recordId = recordId ∧
        value = record.returned

structure Consistent (records : List TelemetryRecord) (state : SinkState)
    (disk : Disk) : Prop where
  journal : disk.values .journal = records.map TelemetryRecord.stored
  stateFile : StateFile disk.state state
  nonnegative : state.Nonnegative
  behind : state.lastMaterializedSequence ≤ state.lastSequence
  positive : ∀ record ∈ records, 0 < record.sequence
  ascending : records.Pairwise fun first second => first.sequence < second.sequence
  distinct : (records.map TelemetryRecord.recordId).Nodup
  covered : ∀ record ∈ records, record.sequence ≤ state.lastMaterializedSequence →
      record.Materialized disk
  attributed : ∀ channel : Channel, Attributed records (disk.values channel.file)

theorem Channel.file_ne_journal (channel : Channel) : channel.file ≠ .journal := by
  cases channel <;> decide

theorem Consistent.returnedOnce
    (consistent : Consistent records state disk) (known : record ∈ records)
    (materialized : record.Materialized disk) :
    ReturnedOnce disk record := by
  apply returnedOnce_of_materialized ?_ ?_ materialized
  · intro value member
    exact (consistent.attributed record.channel value member).1
  · intro value member sameId
    obtain ⟨other, otherKnown, same, shape⟩ :=
      (consistent.attributed record.channel value member).2 _ sameId
    have own : other = record := inj_on_of_nodup_map consistent.distinct otherKnown known same
    rw [shape, own]

theorem Consistent.materialized_of_listed
    (consistent : Consistent records state disk) (known : record ∈ records)
    (listed : record.Listed disk) :
    record.Materialized disk := by
  obtain ⟨value, member, sameId⟩ := listed
  obtain ⟨other, otherKnown, same, shape⟩ :=
    (consistent.attributed record.channel value member).2 _ sameId
  have own : other = record := inj_on_of_nodup_map consistent.distinct otherKnown known same
  unfold TelemetryRecord.Materialized
  rw [← own, ← shape, own]
  exact member

/-! ## What an operation keeps -/

inductive Allowed (records : List TelemetryRecord) (disk : Disk) :
    FileOp → Prop where
  | replays {record : TelemetryRecord} {op : FileOp}
      (known : record ∈ records) (replays : record.Replays op) :
      Allowed records disk op
  | warns {op : FileOp} (warns : Warns op) : Allowed records disk op
  | writes {state : SinkState} (nonnegative : state.Nonnegative)
      (behind : state.lastMaterializedSequence ≤ state.lastSequence)
      (covered : ∀ record ∈ records, record.sequence ≤ state.lastMaterializedSequence →
          record.Materialized disk) :
      Allowed records disk (.writeState state)

def OntoWhole (disk : Disk) : FileOp → Prop
  | .append file _ => disk.Whole file
  | .writeState _ => True

def Grows (before after : Disk) : Prop :=
  ∀ file, ∀ value ∈ before.values file, value ∈ after.values file

theorem TelemetryRecord.Materialized.grows {record : TelemetryRecord} {before after : Disk}
    (materialized : record.Materialized before) (grows : Grows before after) :
    record.Materialized after :=
  grows _ _ materialized

theorem values_setLog_of_ne (disk : Disk) (different : other ≠ file) (text : List Char) :
    (disk.setLog file text).values other = disk.values other := by
  unfold Disk.values
  rw [text_setLog_of_ne disk different]

theorem values_tear_append_of_ne (disk : Disk) (different : other ≠ file)
    (payload : PyDict) (written : Nat) :
    ((FileOp.append file payload).tear written disk).values other = disk.values other :=
  values_setLog_of_ne disk different _

theorem values_tear_writeState (state : SinkState) (written : Nat) (disk : Disk) (file : LogFile) :
    ((FileOp.writeState state).tear written disk).values file = disk.values file := by
  unfold Disk.values
  rw [text_tear_writeState]

theorem grows_tear_append (encodable : Encodable (.dict payload)) (whole : disk.Whole file)
    (written : Nat) :
    Grows disk ((FileOp.append file payload).tear written disk) := by
  intro other value member
  by_cases same : other = file
  · subst same
    rcases values_tear_append encodable whole written with kept | added
    · rw [kept]
      exact member
    · rw [added]
      exact mem_append_left _ member
  · rw [values_tear_append_of_ne disk same]
    exact member

theorem grows_tear_writeState (state : SinkState) (written : Nat) (disk : Disk) :
    Grows disk ((FileOp.writeState state).tear written disk) := by
  intro file value member
  rw [values_tear_writeState]
  exact member

theorem attributed_append {value : PyValue} (attributed : Attributed records values)
    (own : Attributed records [value]) :
    Attributed records (values ++ [value]) := by
  intro other member
  rcases mem_append.mp member with member | member
  · exact attributed other member
  · exact own other member

theorem attributed_returned (known : record ∈ records) : Attributed records [record.returned] := by
  intro value member
  rw [mem_singleton.mp member]
  refine ⟨⟨_, rfl⟩, ?_⟩
  intro recordId same
  rw [idOf_returned] at same
  exact ⟨record, known, Option.some.inj same, rfl⟩

theorem attributed_warning (encodable : Encodable (.dict payload))
    (anonymous : payload.get "_record_id" = .none) :
    Attributed records [sortKeys (.dict payload)] := by
  intro value member
  rw [mem_singleton.mp member]
  refine ⟨⟨_, rfl⟩, ?_⟩
  intro recordId same
  have field := get_sorted encodable.1 "_record_id"
  rw [anonymous] at field
  have opened :
      sortKeys (.dict payload) = .dict (sortByKey (sortEntries payload)) := rfl
  rw [opened] at same
  simp only [idOf, field] at same
  cases same

theorem Consistent.tear_append
    (consistent : Consistent records state disk) (noJournal : file ≠ .journal)
    (encodable : Encodable (.dict payload))
    (own : Attributed records [sortKeys (.dict payload)])
    (whole : disk.Whole file) (written : Nat) :
    Consistent records state ((FileOp.append file payload).tear written disk) where
  journal := by
    rw [values_tear_append_of_ne disk (Ne.symm noJournal)]
    exact consistent.journal
  stateFile := consistent.stateFile
  nonnegative := consistent.nonnegative
  behind := consistent.behind
  positive := consistent.positive
  ascending := consistent.ascending
  distinct := consistent.distinct
  covered := fun record known below =>
    (consistent.covered record known below).grows (grows_tear_append encodable whole written)
  attributed := by
    intro channel
    by_cases same : channel.file = file
    · rw [same]
      have before : Attributed records (disk.values file) := by
        rw [← same]
        exact consistent.attributed channel
      rcases values_tear_append encodable whole written with kept | added
      · rw [kept]
        exact before
      · rw [added]
        exact attributed_append before own
    · rw [values_tear_append_of_ne disk same]
      exact consistent.attributed channel

theorem Consistent.tear_writeState {found : SinkState} (consistent : Consistent records found disk)
    (nonnegative : state.Nonnegative)
    (behind : state.lastMaterializedSequence ≤ state.lastSequence)
    (covered : ∀ record ∈ records, record.sequence ≤ state.lastMaterializedSequence →
        record.Materialized disk)
    {left : SinkState}
    (stateFile :
      StateFile ((FileOp.writeState state).tear written disk).state left)
    (shape : left = .zero ∨ left = found.max state) :
    Consistent records left ((FileOp.writeState state).tear written disk) where
  journal := by
    rw [values_tear_writeState]
    exact consistent.journal
  stateFile := stateFile
  nonnegative := by
    rcases shape with rfl | rfl
    · exact ⟨le_refl _, le_refl _⟩
    · exact ⟨le_max_of_le_right nonnegative.1, le_max_of_le_right nonnegative.2⟩
  behind := by
    rcases shape with rfl | rfl
    · exact le_refl _
    · exact max_le_max consistent.behind behind
  positive := consistent.positive
  ascending := consistent.ascending
  distinct := consistent.distinct
  covered := by
    intro record known below
    have grows := grows_tear_writeState state written disk
    rcases shape with rfl | rfl
    · exact absurd below (not_le_of_gt (consistent.positive record known))
    · rcases le_max_iff.mp below with old | new
      · exact (consistent.covered record known old).grows grows
      · exact (covered record known new).grows grows
  attributed := by
    intro channel
    rw [values_tear_writeState]
    exact consistent.attributed channel

theorem Consistent.tear (consistent : Consistent records state disk)
    (allowed : Allowed records disk op) (whole : OntoWhole disk op)
    (written : Nat) :
    ∃ left, Consistent records left (op.tear written disk) := by
  cases allowed with
  | @replays record _ known replays =>
    obtain ⟨payload, rfl, encodable, same⟩ := replays
    have own := attributed_returned known
    rw [← same] at own
    exact ⟨state, consistent.tear_append record.channel.file_ne_journal encodable own whole written⟩
  | warns warns =>
    obtain ⟨_, rfl, encodable, anonymous⟩ := warns
    exact ⟨state, consistent.tear_append (by decide) encodable
      (attributed_warning encodable anonymous) whole written⟩
  | writes nonnegative behind covered =>
    rcases stateFile_tear consistent.stateFile nonnegative written with
      torn | complete
    · exact ⟨_, consistent.tear_writeState nonnegative behind covered torn (.inl rfl)⟩
    · exact ⟨_, consistent.tear_writeState nonnegative behind covered complete (.inr rfl)⟩

structure Journalable (records : List TelemetryRecord) (state : SinkState)
    (record : TelemetryRecord) : Prop where
  positive : 0 < record.sequence
  above : ∀ earlier ∈ records, earlier.sequence < record.sequence
  beyond : state.lastMaterializedSequence < record.sequence
  fresh : record.recordId ∉ records.map TelemetryRecord.recordId

theorem Consistent.journal_tear (consistent : Consistent records state disk)
    (journalable : Journalable records state record)
    (added :
      ((FileOp.append .journal record.envelope).tear written disk).values .journal =
        disk.values .journal ++ [record.stored]) :
    Consistent (records ++ [record]) state
      ((FileOp.append .journal record.envelope).tear written disk) where
  journal := by
    rw [added, consistent.journal]
    simp
  stateFile := consistent.stateFile
  nonnegative := consistent.nonnegative
  behind := consistent.behind
  positive := by
    intro other member
    rcases mem_append.mp member with member | member
    · exact consistent.positive other member
    · rw [mem_singleton.mp member]
      exact journalable.positive
  ascending := by
    rw [pairwise_append]
    refine ⟨consistent.ascending, pairwise_singleton _ _, ?_⟩
    intro earlier member later laterMember
    rw [mem_singleton.mp laterMember]
    exact journalable.above earlier member
  distinct := by
    rw [map_append, nodup_append']
    refine ⟨consistent.distinct, nodup_singleton _, ?_⟩
    simpa using journalable.fresh
  covered := by
    intro other member below
    rcases mem_append.mp member with member | member
    · have materialized := consistent.covered other member below
      unfold TelemetryRecord.Materialized at materialized ⊢
      rw [values_tear_append_of_ne disk other.channel.file_ne_journal]
      exact materialized
    · rw [mem_singleton.mp member] at below
      exact absurd below (not_le_of_gt journalable.beyond)
  attributed := by
    intro channel value member
    rw [values_tear_append_of_ne disk channel.file_ne_journal] at member
    obtain ⟨object, own⟩ := consistent.attributed channel value member
    refine ⟨object, fun recordId same => ?_⟩
    obtain ⟨other, known, rest⟩ := own recordId same
    exact ⟨other, mem_append_left _ known, rest⟩

theorem Consistent.journal_torn (consistent : Consistent records state disk) (kept :
      ((FileOp.append .journal payload).tear written disk).values .journal = disk.values .journal) :
    Consistent records state ((FileOp.append .journal payload).tear written disk) where
  journal := kept.trans consistent.journal
  stateFile := consistent.stateFile
  nonnegative := consistent.nonnegative
  behind := consistent.behind
  positive := consistent.positive
  ascending := consistent.ascending
  distinct := consistent.distinct
  covered := by
    intro record known below
    have materialized := consistent.covered record known below
    unfold TelemetryRecord.Materialized at materialized ⊢
    rw [values_tear_append_of_ne disk record.channel.file_ne_journal]
    exact materialized
  attributed := by
    intro channel
    rw [values_tear_append_of_ne disk channel.file_ne_journal]
    exact consistent.attributed channel

theorem TelemetryRecord.Replays.materialized
    (replays : record.Replays op) (whole : OntoWhole disk op) :
    record.Materialized (op.perform disk) := by
  obtain ⟨_, rfl, encodable, same⟩ := replays
  unfold TelemetryRecord.Materialized
  rw [(values_perform_append encodable whole).1, same]
  exact mem_append_right _ (mem_singleton_self _)

end Telemetry

end AccruviaHarness
