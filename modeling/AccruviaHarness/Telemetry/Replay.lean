import AccruviaHarness.Telemetry.Records

/-!
# Replaying the journal

The records behind the lines of the journal, and what recording or replaying
one of them appends.
-/

namespace AccruviaHarness

open List

namespace Telemetry

open Library PyJson

structure TelemetryRecord where
  sequence : Int
  recordId : String
  channel : Channel
  payload : PyDict
  encodable : Encodable (.dict payload)

namespace TelemetryRecord

variable (record : TelemetryRecord)

def envelope : PyDict := envelopeOf record.sequence record.recordId record.channel record.payload

def stored : PyValue := sortKeys (.dict record.envelope)

def identified (payload : PyDict) : PyDict :=
  (payload.set "_record_id" (.str record.recordId)).set "_sequence" (.int record.sequence)

def returned : PyValue := sortKeys (.dict (record.identified record.payload))

def Replays (op : FileOp) : Prop :=
  ∃ payload, op = .append record.channel.file payload ∧
    Encodable (.dict payload) ∧ sortKeys (.dict payload) = record.returned

theorem encodable_envelope : Encodable (.dict record.envelope) := by
  refine ⟨?_, trivial, trivial, trivial, record.encodable, trivial⟩
  simp [envelope, envelopeOf]

theorem encodable_identified {payload : PyDict} (encodable : Encodable (.dict payload)) :
    Encodable (.dict (record.identified payload)) :=
  encodable_set (encodable_set encodable (show Encodable (.str record.recordId) from trivial))
    (show Encodable (.int record.sequence) from trivial)

end TelemetryRecord

/-- A Python object that a caller gives to `_record`. -/
structure Payload where
  entries : PyDict
  encodable : Encodable (.dict entries)

def Warns (op : FileOp) : Prop :=
  ∃ payload, op = .append .warnings payload ∧ Encodable (.dict payload) ∧
    payload.get "_record_id" = .none

theorem sanitized_entry {entry row : String × PyValue} (same :
      (match entry.2 with
        | .none => none
        | .str text => some (entry.1, .str text)
        | .int value => some (entry.1, .int value)
        | .float repr => some (entry.1, .float repr)
        | .bool value => some (entry.1, .bool value)
        | value => some (entry.1, .str value.toStr)) = some row) :
    row.1 = entry.1 ∧ (Encodable entry.2 → Encodable row.2) := by
  obtain ⟨_, value⟩ := entry
  cases value <;> cases same
  all_goals first
    | exact ⟨rfl, fun encodable => encodable⟩
    | exact ⟨rfl, fun _ => trivial⟩

variable {attributes : PyDict} {records : List TelemetryRecord}
  {state left : SinkState} {script : Script}

theorem encodable_sanitizeAttributes (distinct : (attributes.map Prod.fst).Nodup)
    (encodable : ∀ entry ∈ attributes, Encodable entry.2) :
    Encodable (.dict (sanitizeAttributes attributes)) := by
  constructor
  · have sublist :
        ((sanitizeAttributes attributes).map Prod.fst).Sublist (attributes.map Prod.fst) := by
      clear encodable distinct
      induction attributes with
      | nil => exact nil_sublist _
      | cons _ _ ih =>
        unfold sanitizeAttributes at ih ⊢
        rw [filterMap_cons]
        split
        · exact ih.cons _
        next row same =>
          rw [map_cons, map_cons, (sanitized_entry same).1]
          exact ih.cons_cons _
    exact sublist.nodup distinct
  · rw [encodableEntries_iff]
    intro row member
    obtain ⟨entry, known, same⟩ := mem_filterMap.mp member
    exact (sanitized_entry same).2 (encodable entry known)

theorem warns_exportWarning {category : String} {failure : ExportFailure}
    (distinct : (attributes.map Prod.fst).Nodup)
    (encodable : ∀ entry ∈ attributes, Encodable entry.2) :
    Warns (.append .warnings (exportWarning category failure attributes)) := by
  refine ⟨_, rfl, ⟨?_, trivial, trivial, trivial, trivial,
    encodable_sanitizeAttributes distinct encodable, trivial⟩, rfl⟩
  simp [exportWarning]

variable {record : TelemetryRecord}

theorem materializeEnvelope_of_fields {envelope payload : PyDict}
    (channel : envelope.require "channel" = .ok (.str record.channel.text))
    (own : envelope.require "payload" = .ok (.dict payload))
    (recordId : envelope.require "record_id" = .ok (.str record.recordId))
    (sequence : envelope.require "sequence" = .ok (.int record.sequence))
    (encodable : Encodable (.dict payload))
    (same :
      sortKeys (.dict (record.identified payload)) = record.returned)
    (failure : Option ExportFailure) :
    ∃ op warnings, materializeEnvelope envelope failure = .ok (op :: warnings) ∧
      record.Replays op ∧ ∀ warning ∈ warnings, Warns warning := by
  have identified := record.encodable_identified encodable
  have replays : record.Replays (.append record.channel.file (record.identified payload)) :=
    ⟨_, rfl, identified, same⟩
  have opened :
      materializeEnvelope envelope failure =
        let payload := record.identified payload
        if record.channel.text = "metric" then
          .ok (.append .metrics payload :: failure.toList.map fun failure =>
            .append .warnings <| exportWarning "otel_metric_export" failure
              [("metric", payload.get "name"), ("metric_type", payload.get "metric_type")])
        else if record.channel.text = "span" then
          .ok (.append .spans payload :: failure.toList.map fun failure =>
            .append .warnings <| exportWarning "otel_span_export" failure
              [("span", payload.get "name")])
        else if record.channel.text = "warning" then .ok [.append .warnings payload]
        else .ok [] := by
    unfold materializeEnvelope
    simp only [channel, own, recordId, sequence, bind, Except.bind,
      PyDict.ofValue, PyValue.toInt, PyValue.toStr_str]
    rfl
  rw [opened]
  cases shape : record.channel with
  | metric =>
    rw [shape] at replays
    refine ⟨_, _, rfl, replays, ?_⟩
    intro warning member
    obtain ⟨failure, _, rfl⟩ := mem_map.mp member
    refine warns_exportWarning (by simp) ?_
    simp only [mem_cons, not_mem_nil, or_false, forall_eq_or_imp, forall_eq]
    exact ⟨encodable_find identified "name", encodable_find identified "metric_type"⟩
  | span =>
    rw [shape] at replays
    refine ⟨_, _, rfl, replays, ?_⟩
    intro warning member
    obtain ⟨_, _, rfl⟩ := mem_map.mp member
    refine warns_exportWarning (by simp) ?_
    simp only [mem_cons, not_mem_nil, or_false, forall_eq]
    exact encodable_find identified "name"
  | warning =>
    rw [shape] at replays
    exact ⟨_, _, rfl, replays, fun _ member => absurd member not_mem_nil⟩

theorem materializeEnvelope_envelope (record : TelemetryRecord) (failure : Option ExportFailure) :
    ∃ op warnings, materializeEnvelope record.envelope failure = .ok (op :: warnings) ∧
        record.Replays op ∧ ∀ warning ∈ warnings, Warns warning :=
  materializeEnvelope_of_fields rfl rfl rfl rfl record.encodable rfl failure

def TelemetryRecord.sorted (record : TelemetryRecord) : PyDict :=
  sortByKey (sortEntries record.envelope)

theorem returned_of_sorted (record : TelemetryRecord) :
    sortKeys (.dict (record.identified (sortByKey (sortEntries record.payload)))) =
      record.returned := by
  have distinct := record.encodable.1
  have sortedDistinct := (encodable_sortKeys _ record.encodable).1
  exact sortKeys_set_congr (nodup_keys_set sortedDistinct _ _) (nodup_keys_set distinct _ _)
    (sortKeys_set_sorted distinct "_record_id" (.str record.recordId)) _ _

theorem materializeEnvelope_sorted (record : TelemetryRecord) (failure : Option ExportFailure) :
    ∃ op warnings, materializeEnvelope record.sorted failure = .ok (op :: warnings) ∧
        record.Replays op ∧ ∀ warning ∈ warnings, Warns warning := by
  have distinct := record.encodable_envelope.1
  exact materializeEnvelope_of_fields (require_sorted distinct "channel")
    (require_sorted distinct "payload") (require_sorted distinct "record_id")
    (require_sorted distinct "sequence")
    (encodable_sortKeys _ record.encodable) (returned_of_sorted record) failure

/-! ## The loop over the journal -/

structure Recovers (records : List TelemetryRecord) (state : SinkState)
    (script : Script) (left : SinkState) : Prop where
  returns : script.raised = none
  ops : ∀ op ∈ script.ops, (∃ record ∈ records, record.Replays op) ∨ Warns op
  seen : ∀ record ∈ records, record.sequence ≤ left.lastSequence
  lastSequence_le : state.lastSequence ≤ left.lastSequence
  covered : ∀ record ∈ records, record.sequence ≤ left.lastMaterializedSequence
  lastMaterialized_le :
    state.lastMaterializedSequence ≤ left.lastMaterializedSequence
  reached : left.lastMaterializedSequence = state.lastMaterializedSequence ∨
    ∃ record ∈ records, left.lastMaterializedSequence = record.sequence
  replayed : records.Pairwise (fun first second =>
      first.sequence < second.sequence) →
    ∀ record ∈ records, state.lastMaterializedSequence < record.sequence →
      ∃ op ∈ script.ops, record.Replays op
  idle : (∀ record ∈ records, record.sequence ≤ state.lastMaterializedSequence) →
    script.ops = []

theorem Recovers.cons_below (below : record.sequence ≤ state.lastMaterializedSequence)
    (rest : Recovers records ⟨max state.lastSequence record.sequence,
        state.lastMaterializedSequence⟩ script left) :
    Recovers (record :: records) state script left where
  returns := rest.returns
  ops := by
    intro op member
    rcases rest.ops op member with ⟨other, known, replays⟩ | warns
    · exact .inl ⟨other, mem_cons_of_mem _ known, replays⟩
    · exact .inr warns
  seen := by
    intro other member
    rcases mem_cons.mp member with rfl | member
    · exact le_trans (le_max_right _ _) rest.lastSequence_le
    · exact rest.seen other member
  lastSequence_le := le_trans (le_max_left _ _) rest.lastSequence_le
  covered := by
    intro other member
    rcases mem_cons.mp member with rfl | member
    · exact le_trans below rest.lastMaterialized_le
    · exact rest.covered other member
  lastMaterialized_le := rest.lastMaterialized_le
  reached := by
    rcases rest.reached with same | ⟨other, known, same⟩
    · exact .inl same
    · exact .inr ⟨other, mem_cons_of_mem _ known, same⟩
  replayed := by
    intro ascending other member outstanding
    rcases mem_cons.mp member with rfl | member
    · exact absurd below (not_le_of_gt outstanding)
    · exact rest.replayed (pairwise_cons.mp ascending).2 other member outstanding
  idle := fun settled => rest.idle fun other member => settled other (mem_cons_of_mem _ member)

theorem Recovers.cons_above {op : FileOp} {warnings : List FileOp}
    (above : state.lastMaterializedSequence < record.sequence)
    (replays : record.Replays op) (warn : ∀ warning ∈ warnings, Warns warning)
    (rest : Recovers records
      ⟨max state.lastSequence record.sequence, record.sequence⟩ script left) :
    Recovers (record :: records) state ⟨(op :: warnings) ++ script.ops, script.raised⟩ left where
  returns := rest.returns
  ops := by
    intro other member
    rcases mem_append.mp member with member | member
    · rcases mem_cons.mp member with rfl | member
      · exact .inl ⟨record, mem_cons_self, replays⟩
      · exact .inr (warn other member)
    · rcases rest.ops other member with ⟨later, known, replays⟩ | warns
      · exact .inl ⟨later, mem_cons_of_mem _ known, replays⟩
      · exact .inr warns
  seen := by
    intro other member
    rcases mem_cons.mp member with rfl | member
    · exact le_trans (le_max_right _ _) rest.lastSequence_le
    · exact rest.seen other member
  lastSequence_le := le_trans (le_max_left _ _) rest.lastSequence_le
  covered := by
    intro other member
    rcases mem_cons.mp member with rfl | member
    · exact rest.lastMaterialized_le
    · exact rest.covered other member
  lastMaterialized_le := le_trans (le_of_lt above) rest.lastMaterialized_le
  reached := by
    rcases rest.reached with same | ⟨other, known, same⟩
    · exact .inr ⟨record, mem_cons_self, same⟩
    · exact .inr ⟨other, mem_cons_of_mem _ known, same⟩
  replayed := by
    intro ascending other member _
    obtain ⟨first, later⟩ := pairwise_cons.mp ascending
    rcases mem_cons.mp member with rfl | member
    · exact ⟨op, mem_append_left _ mem_cons_self, replays⟩
    · obtain ⟨found, known, replays⟩ := rest.replayed later other member (first other member)
      exact ⟨found, mem_append_right _ known, replays⟩
  idle := fun settled => absurd (settled record mem_cons_self) (not_le_of_gt above)

variable (failures : PyValue → Option ExportFailure)

theorem recoverEntries_cons_stored (state : SinkState)
    (record : TelemetryRecord) (values : List PyValue) :
    recoverEntries failures state (record.stored :: values) =
      if record.sequence ≤ state.lastMaterializedSequence then
        recoverEntries failures ⟨max state.lastSequence record.sequence,
            state.lastMaterializedSequence⟩
          values
      else
        match materializeEnvelope record.sorted (failures record.stored) with
        | .error error => (⟨[], some error⟩, state)
        | .ok ops =>
          let rest := recoverEntries failures
            ⟨max state.lastSequence record.sequence, record.sequence⟩
            values
          (⟨ops ++ rest.1.ops, rest.1.raised⟩, rest.2) := by
  have sequence : (record.sorted.getD "sequence" (.int 0)) = .int record.sequence :=
    getD_sorted record.encodable_envelope.1 "sequence" rfl
  have read :
      (do
        let envelope ← record.stored.requireDict
        let position ← (envelope.getD "sequence" (.int 0)).toInt
        return (envelope, position)) =
        .ok (record.sorted, record.sequence) := by
    change (do
        let position ← (record.sorted.getD "sequence" (.int 0)).toInt
        return (record.sorted, position)) = _
    rw [sequence]
    rfl
  simp only [recoverEntries, read] <;> rfl

theorem recoverEntries_stored (records : List TelemetryRecord) (state : SinkState) :
    Recovers records state (recoverEntries failures state (records.map TelemetryRecord.stored)).1
      (recoverEntries failures state (records.map TelemetryRecord.stored)).2 := by
  induction records generalizing state with
  | nil =>
    exact {
      returns := rfl
      ops := nofun
      seen := nofun
      lastSequence_le := le_refl _
      covered := nofun
      lastMaterialized_le := le_refl _
      reached := .inl rfl
      replayed := nofun
      idle := fun _ => rfl }
  | cons record _ ih =>
    rw [map_cons, recoverEntries_cons_stored]
    split
    next below =>
      have rest := ih ⟨max state.lastSequence record.sequence, state.lastMaterializedSequence⟩
      exact rest.cons_below below
    next above =>
      obtain ⟨_, _, materialized, replays, warn⟩ :=
        materializeEnvelope_sorted record (failures record.stored)
      have rest := ih ⟨max state.lastSequence record.sequence, record.sequence⟩
      rw [materialized]
      exact rest.cons_above (lt_of_not_ge above) replays warn

end Telemetry

end AccruviaHarness
