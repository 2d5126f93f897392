import AccruviaHarness.Library.LineLog
import AccruviaHarness.Python.JsonOrder

/-!
# Records on the disk

What a record looks like in the journal and in the file of its channel, and
what a replay of journal lines does to the files.
-/

namespace AccruviaHarness

open List

/-!
## The telemetry sink

`TelemetrySink` keeps a journal, one file of materialized records for each
channel, and a state file with two sequence numbers. A call reads the state,
and the journal where it recovers, and then works through a list of file
operations.
-/

namespace Telemetry

open Library

/-- The channels that `metric`, `span` and `warn` record on. -/
inductive Channel where
  | metric
  | span
  | warning
  deriving DecidableEq, Repr

def Channel.text : Channel → String
  | .metric => "metric"
  | .span => "span"
  | .warning => "warning"

inductive LogFile where
  | journal
  | metrics
  | spans
  | warnings
  deriving DecidableEq, Repr

def Channel.file : Channel → LogFile
  | .metric => .metrics
  | .span => .spans
  | .warning => .warnings

structure Disk where
  log : LogFile → Option (List Char)
  state : Option (List Char)

variable (disk : Disk)

def Disk.text (file : LogFile) : List Char := (disk.log file).getD []

structure SinkState where
  lastSequence : Int
  lastMaterializedSequence : Int
  deriving DecidableEq, Repr

def SinkState.zero : SinkState := ⟨0, 0⟩

variable (state : SinkState)

def SinkState.payload : PyDict :=
  [("last_sequence", .int state.lastSequence),
    ("last_materialized_sequence", .int state.lastMaterializedSequence)]

/-- `json.dumps(state, sort_keys=True)`. -/
def SinkState.text : List Char := PyJson.dumpsSorted (.dict state.payload)

def isBlank (text : List Char) : Bool := text.all isPyWhitespace

def stateOf (payload : PyValue) : Except PyError SinkState := do
  let entries ← payload.requireDict
  let last ← (entries.getD "last_sequence" (.int 0)).toInt
  let materialized ←
    (entries.getD "last_materialized_sequence" (.int 0)).toInt
  return ⟨last, materialized⟩

def loadState (text : Option (List Char)) : Except PyError SinkState :=
  match text with
  | none => .ok .zero
  | some text =>
    match PyJson.loads text with
    | none => .ok .zero
    | some payload => stateOf payload

/-- The state that `_write_state` leaves, merged with what the file holds. -/
def mergedState (current : Option (List Char)) (state : SinkState) : Except PyError SinkState :=
  let currentText := current.getD []
  if isBlank currentText then .ok state
  else do
    let found ← stateOf ((PyJson.loads currentText).getD (.dict []))
    return {
      lastSequence := max found.lastSequence state.lastSequence
      lastMaterializedSequence :=
        max found.lastMaterializedSequence state.lastMaterializedSequence }

def decodeLine (line : List Char) : Option PyValue :=
  if isBlank line then none else PyJson.loads line

def readValues (text : List Char) : List PyValue := (linesOf '\n' text).filterMap decodeLine

/-- `json.dumps(payload, sort_keys=True) + "\n"`. -/
def lineOf (payload : PyDict) : List Char := PyJson.dumpsSorted (.dict payload) ++ ['\n']

/-! ## File operations -/

inductive FileOp where
  | append (file : LogFile) (payload : PyDict)
  | writeState (state : SinkState)

def Disk.setLog (file : LogFile) (text : List Char) : Disk :=
  { disk with log := Function.update disk.log file (some text) }

/-- The operation up to a number of characters of what it writes. The state
file is cut off before it is written; where the merge raises, it is left. -/
def FileOp.tear (written : Nat) : FileOp → Disk → Disk
  | .append file payload, disk => disk.setLog file (disk.text file ++ (lineOf payload).take written)
  | .writeState state, disk =>
    match mergedState disk.state state with
    | .ok merged => { disk with state := some (merged.text.take written) }
    | .error _ => disk

def FileOp.length : FileOp → Disk → Nat
  | .append _ payload, _ => (lineOf payload).length
  | .writeState state, disk =>
    match mergedState disk.state state with
    | .ok merged => merged.text.length
    | .error _ => 0

def FileOp.perform (op : FileOp) (disk : Disk) : Disk := op.tear (op.length disk) disk

def performAll (ops : List FileOp) (disk : Disk) : Disk :=
  ops.foldl (fun disk op => op.perform disk) disk

structure Script where
  ops : List FileOp
  raised : Option PyError

/-! ## Recording -/

/-- A failed export to OpenTelemetry, as the `except` branch sees it. -/
structure ExportFailure where
  timestamp : String
  message : String

def sanitizeAttributes (attributes : PyDict) : PyDict :=
  attributes.filterMap fun entry =>
    match entry.2 with
    | .none => none
    | .str text => some (entry.1, .str text)
    | .int value => some (entry.1, .int value)
    | .float repr => some (entry.1, .float repr)
    | .bool value => some (entry.1, .bool value)
    | value => some (entry.1, .str value.toStr)

/-- The warning that replaces an export. It has no `_record_id`. -/
def exportWarning (category : String) (failure : ExportFailure) (attributes : PyDict) : PyDict :=
  [("timestamp", .str failure.timestamp), ("type", .str "warning"),
    ("category", .str category), ("message", .str failure.message),
    ("attributes", .dict (sanitizeAttributes attributes))]

/-- `_materialize_envelope`. An export that is switched off or succeeds has no
failure. -/
def materializeEnvelope (envelope : PyDict) (failure : Option ExportFailure) :
    Except PyError (List FileOp) := do
  let channel := (← envelope.require "channel").toStr
  let payload ← PyDict.ofValue (← envelope.require "payload")
  let recordId := (← envelope.require "record_id").toStr
  let sequence ← (← envelope.require "sequence").toInt
  let payload := (payload.set "_record_id" (.str recordId)).set "_sequence" (.int sequence)
  if channel = "metric" then
    return .append .metrics payload :: failure.toList.map fun failure =>
      .append .warnings <| exportWarning "otel_metric_export" failure
        [("metric", payload.get "name"), ("metric_type", payload.get "metric_type")]
  else if channel = "span" then
    return .append .spans payload :: failure.toList.map fun failure =>
      .append .warnings <| exportWarning "otel_span_export" failure [("span", payload.get "name")]
  else if channel = "warning" then return [.append .warnings payload]
  else return []

/-- What `_record` writes to the journal. -/
def envelopeOf (sequence : Int) (recordId : String) (channel : Channel)
    (payload : PyDict) : PyDict :=
  [("sequence", .int sequence), ("record_id", .str recordId),
    ("channel", .str channel.text), ("payload", .dict payload)]

variable (now : Int)

/-- `max(int(state.get("last_sequence", 0)) + 1, time.time_ns())`. -/
def nextSequence : Int := max (state.lastSequence + 1) now

variable (recordId : String) (channel : Channel)

/-- The operations of `_record` once it has read the state. -/
def recordOps (payload : PyDict) (failure : Option ExportFailure) :
    Script :=
  let sequence := nextSequence state now
  let envelope := envelopeOf sequence recordId channel payload
  match materializeEnvelope envelope failure with
  | .error error => ⟨[.append .journal envelope], some error⟩
  | .ok ops => ⟨.append .journal envelope :: ops ++ [.writeState ⟨sequence, sequence⟩], none⟩

/-- `_record`. -/
def recordScript (payload : PyDict) (failure : Option ExportFailure) :
    Script :=
  match loadState disk.state with
  | .error error => ⟨[], some error⟩
  | .ok state => recordOps state now recordId channel payload failure

/-! ## Recovering and loading -/

/-- The loop of `_recover_from_journal`, with the numbers that it leaves. -/
def recoverEntries (failures : PyValue → Option ExportFailure) :
    SinkState → List PyValue → Script × SinkState
  | state, [] => (⟨[], none⟩, state)
  | state, value :: values =>
    let read : Except PyError (PyDict × Int) := do
      let envelope ← value.requireDict
      let sequence ← (envelope.getD "sequence" (.int 0)).toInt
      return (envelope, sequence)
    match read with
    | .error error => (⟨[], some error⟩, state)
    | .ok (envelope, sequence) =>
      let lastSeen := max state.lastSequence sequence
      if sequence ≤ state.lastMaterializedSequence then
        recoverEntries failures ⟨lastSeen, state.lastMaterializedSequence⟩ values
      else
        match materializeEnvelope envelope (failures value) with
        | .error error => (⟨[], some error⟩, state)
        | .ok ops =>
          let rest := recoverEntries failures ⟨lastSeen, sequence⟩ values
          (⟨ops ++ rest.1.ops, rest.1.raised⟩, rest.2)

variable (failures : PyValue → Option ExportFailure)

/-- The operations of `_recover_from_journal` once it has read the state and
opened the journal. -/
def recoverOps (state : SinkState) (journal : Option (List Char)) : Script :=
  match journal with
  | none => ⟨[], none⟩
  | some text =>
    let recovered := recoverEntries failures state (readValues text)
    match recovered.1.raised with
    | some _ => recovered.1
    | none => ⟨recovered.1.ops ++ [.writeState recovered.2], none⟩

/-- `_recover_from_journal`. -/
def recoverScript : Script :=
  match loadState disk.state with
  | .error error => ⟨[], some error⟩
  | .ok state => recoverOps failures state (disk.log .journal)

/-- The loop of `_load`, with the ids that were seen. -/
def uniqueRecords : List String → List PyValue → Except PyError (List PyValue)
  | _, [] => .ok []
  | seen, value :: values => do
      let payload ← value.requireDict
      match payload.get "_record_id" with
      | .str recordId =>
        if recordId ∈ seen then uniqueRecords seen values
        else return value :: (← uniqueRecords (recordId :: seen) values)
      | _ => return value :: (← uniqueRecords seen values)

variable (channel : Channel)

/-- `_load` after its recovery: `load_metrics`, `load_spans` or
`load_warnings`. -/
def loadRecords : Except PyError (List PyValue) :=
  match disk.log channel.file with
  | none => .ok []
  | some text => uniqueRecords [] (readValues text)

/-- `load_metrics`, `load_spans` or `load_warnings`. -/
def load : Except PyError (List PyValue) :=
  let recovery := recoverScript disk failures
  match recovery.raised with
  | some error => .error error
  | none => loadRecords (performAll recovery.ops disk) channel

end Telemetry

/-! ## Records on the disk -/

namespace Telemetry

open Library PyJson

/-! ## Lines -/

theorem isPyWhitespace_opening : isPyWhitespace '\x7b' = false := by decide

variable (entries : PyDict)

theorem dumps_dict_eq_cons : ∃ rest, dumps (.dict entries) = '\x7b' :: rest := by
  cases entries with
  | nil => exact ⟨_, rfl⟩
  | cons _ _ => exact ⟨_, rfl⟩

theorem isBlank_dumps_append (rest : List Char) :
    isBlank (dumps (.dict entries) ++ rest) = false := by
  obtain ⟨_, shape⟩ := dumps_dict_eq_cons entries
  simp [isBlank, shape, isPyWhitespace_opening]

structure IsLine (value : PyValue) : Prop where
  encodable : Encodable value
  sorted : sortKeys value = value
  object : ∃ entries, value = .dict entries

variable {entries : PyDict} {disk : Disk} {state found : SinkState}

theorem isLine_sortKeys (encodable : Encodable (.dict entries)) :
    IsLine (sortKeys (.dict entries)) where
  encodable := encodable_sortKeys _ encodable
  sorted := sortKeys_sortKeys _
  object := ⟨_, rfl⟩

def jsonLines : LineCodec Char PyValue where
  mark := '\n'
  Writable := IsLine
  encode := dumps
  decode := decodeLine
  mark_not_mem := fun value writable => not_mem_of_oneLine (oneLine_dumps value writable.encodable)
  encode_ne_nil := by
    rintro value ⟨_, _, entries, rfl⟩
    obtain ⟨rest, shape⟩ := dumps_dict_eq_cons entries
    simp [shape]
  decode_line := by
    rintro value ⟨encodable, _, entries, rfl⟩
    unfold decodeLine
    rw [isBlank_dumps_append]
    exact loads_dumps_append encodable (forall_mem_singleton.mpr rfl)
  decode_encode := by
    rintro value ⟨encodable, _, entries, rfl⟩
    have visible := isBlank_dumps_append entries []
    rw [append_nil] at visible
    unfold decodeLine
    rw [visible]
    exact loads_dumps encodable
  decode_torn := by
    rintro value ⟨encodable, _, entries, rfl⟩ part missing nonempty whole
    unfold decodeLine
    split
    · rfl
    · exact loads_eq_none_of_prefix encodable nonempty whole

theorem readValues_eq_read (text : List Char) :
    readValues text = jsonLines.read text := rfl

theorem lineOf_eq_line (payload : PyDict) :
    lineOf payload = jsonLines.line (sortKeys (.dict payload)) := rfl

/-! ## Operations -/

@[simp]
theorem text_setLog_self (disk : Disk) (file : LogFile) (text : List Char) :
    (disk.setLog file text).text file = text := by
  simp [Disk.text, Disk.setLog]

theorem text_setLog_of_ne (disk : Disk) {file other : LogFile} (different : other ≠ file)
    (text : List Char) :
    (disk.setLog file text).text other = disk.text other := by
  simp [Disk.text, Disk.setLog, different]

def Disk.values (disk : Disk) (file : LogFile) : List PyValue := readValues (disk.text file)

def Disk.Whole (disk : Disk) (file : LogFile) : Prop := EndsLine '\n' (disk.text file)

instance (disk : Disk) (file : LogFile) : Decidable (disk.Whole file) :=
  inferInstanceAs (Decidable (EndsLine _ _))

theorem perform_append (file : LogFile) (payload : PyDict) (disk : Disk) :
    (FileOp.append file payload).perform disk =
      disk.setLog file (disk.text file ++ lineOf payload) := by
  simp [FileOp.perform, FileOp.tear, FileOp.length]

theorem values_perform_append {file : LogFile} {payload : PyDict}
    (encodable : Encodable (.dict payload)) (whole : disk.Whole file) :
    ((FileOp.append file payload).perform disk).values file =
        disk.values file ++ [sortKeys (.dict payload)] ∧
      ((FileOp.append file payload).perform disk).Whole file := by
  rw [perform_append]
  unfold Disk.values Disk.Whole
  rw [text_setLog_self, lineOf_eq_line]
  exact ⟨jsonLines.read_append_line whole (isLine_sortKeys encodable),
    jsonLines.endsLine_append_line _ _⟩

theorem values_tear_append {file : LogFile} {payload : PyDict}
    (encodable : Encodable (.dict payload)) (whole : disk.Whole file)
    (written : Nat) :
    ((FileOp.append file payload).tear written disk).values file = disk.values file ∨
      ((FileOp.append file payload).tear written disk).values file =
        disk.values file ++ [sortKeys (.dict payload)] := by
  have writable := isLine_sortKeys encodable
  unfold Disk.values FileOp.tear
  simp only [text_setLog_self, readValues_eq_read]
  rw [jsonLines.read_append whole]
  by_cases complete : (lineOf payload).drop written = []
  · have all : (lineOf payload).take written = lineOf payload := by
      rw [drop_eq_nil_iff] at complete
      exact take_of_length_le complete
    rw [all, lineOf_eq_line, jsonLines.read_line writable]
    exact .inr rfl
  · have split := take_append_drop written (lineOf payload)
    rcases jsonLines.read_torn writable complete split with
      nothing | ⟨_, value⟩
    · rw [nothing, append_nil]
      exact .inl rfl
    · rw [value]
      exact .inr rfl

theorem tear_writeState (state : SinkState) (written : Nat) (disk : Disk) :
    (FileOp.writeState state).tear written disk =
      match mergedState disk.state state with
      | .ok merged => { disk with state := some (merged.text.take written) }
      | .error _ => disk :=
  rfl

theorem length_writeState (state : SinkState) (disk : Disk) :
    (FileOp.writeState state).length disk =
      match mergedState disk.state state with
      | .ok merged => merged.text.length
      | .error _ => 0 :=
  rfl

theorem text_tear_writeState (state : SinkState) (written : Nat) (disk : Disk) (file : LogFile) :
    ((FileOp.writeState state).tear written disk).text file = disk.text file := by
  rw [tear_writeState]
  cases mergedState disk.state state <;> rfl

/-! ## The state file -/

theorem encodable_state (state : SinkState) : Encodable (.dict state.payload) := by
  refine ⟨?_, trivial, trivial, trivial⟩
  simp [SinkState.payload]

theorem loads_text (state : SinkState) : loads state.text = some (sortKeys (.dict state.payload)) :=
  loads_dumps (encodable_sortKeys _ (encodable_state state))

theorem loads_text_take {written : Nat} (torn : written < state.text.length) :
    loads (state.text.take written) = none := by
  have nonempty : state.text.drop written ≠ [] := by
    rw [ne_eq, drop_eq_nil_iff]
    omega
  exact loads_eq_none_of_prefix (encodable_sortKeys _ (encodable_state state)) nonempty
    (take_append_drop written state.text)

theorem find?_sorted (distinct : (entries.map Prod.fst).Nodup) (key : String) :
    ((sortByKey (sortEntries entries)).find? fun entry => entry.1 = key) =
      (entries.find? fun entry => entry.1 = key).map fun entry =>
        (entry.1, sortKeys entry.2) := by
  have keys : ((sortEntries entries).map Prod.fst).Nodup := by
    rw [keys_sortEntries]
    exact distinct
  rw [find?_eq_of_perm (perm_sortByKey _) keys, sortEntries_eq_map, find?_map]
  rfl

theorem getD_sorted (distinct : (entries.map Prod.fst).Nodup) (key : String) {default : PyValue}
    (canonical : sortKeys default = default) :
    PyDict.getD (sortByKey (sortEntries entries)) key default =
      sortKeys (entries.getD key default) := by
  unfold PyDict.getD
  rw [find?_sorted distinct]
  cases entries.find? fun entry => entry.1 = key with
  | none => exact canonical.symm
  | some _ => rfl

theorem require_sorted (distinct : (entries.map Prod.fst).Nodup) (key : String) :
    PyDict.require (sortByKey (sortEntries entries)) key = (entries.require key).map sortKeys := by
  unfold PyDict.require
  rw [find?_sorted distinct]
  cases entries.find? fun entry => entry.1 = key <;> rfl

theorem stateOf_sortKeys_payload (state : SinkState) :
    stateOf (sortKeys (.dict state.payload)) = .ok state := by
  have distinct := (encodable_state state).1
  have last :
      PyDict.getD (sortByKey (sortEntries state.payload)) "last_sequence"
        (.int 0) = .int state.lastSequence := by
    rw [getD_sorted distinct _ rfl]
    rfl
  have materialized :
      PyDict.getD (sortByKey (sortEntries state.payload)) "last_materialized_sequence" (.int 0) =
          .int state.lastMaterializedSequence := by
    rw [getD_sorted distinct _ rfl]
    rfl
  have opened :
      sortKeys (.dict state.payload) = .dict (sortByKey (sortEntries state.payload)) := rfl
  rw [opened]
  unfold stateOf
  simp only [PyValue.requireDict, bind, Except.bind, last, materialized]
  rfl

inductive StateFile : Option (List Char) → SinkState → Prop where
  | missing : StateFile none .zero
  | torn {state : SinkState} {written : Nat} (short : written < state.text.length) :
      StateFile (some (state.text.take written)) .zero
  | written (state : SinkState) : StateFile (some state.text) state

theorem loadState_of_stateFile {text : Option (List Char)} (file : StateFile text found) :
    loadState text = .ok found := by
  cases file with
  | missing => rfl
  | torn short => simp [loadState, loads_text_take short]
  | written => simp [loadState, loads_text, stateOf_sortKeys_payload]

theorem isBlank_text_take (state : SinkState) (written : Nat) :
    isBlank (state.text.take (written + 1)) = false := by
  obtain ⟨rest, shape⟩ := dumps_dict_eq_cons (sortByKey (sortEntries state.payload))
  have opened : state.text = '\x7b' :: rest := shape
  simp [opened, isBlank, isPyWhitespace_opening]

def SinkState.max (first second : SinkState) : SinkState where
  lastSequence := Max.max first.lastSequence second.lastSequence
  lastMaterializedSequence := Max.max first.lastMaterializedSequence second.lastMaterializedSequence

structure SinkState.Nonnegative (state : SinkState) : Prop where
  lastSequence : 0 ≤ state.lastSequence
  lastMaterializedSequence : 0 ≤ state.lastMaterializedSequence

theorem SinkState.zero_max (nonnegative : state.Nonnegative) :
    SinkState.zero.max state = state := by
  obtain ⟨lastSequence, lastMaterialized⟩ := nonnegative
  simp [SinkState.max, SinkState.zero, lastSequence, lastMaterialized]

theorem mergedState_of_stateFile {text : Option (List Char)} (file : StateFile text found)
    (nonnegative : state.Nonnegative) :
    mergedState text state = .ok (found.max state) := by
  cases file with
  | missing =>
    rw [SinkState.zero_max nonnegative]
    rfl
  | @torn torn written short =>
    cases written with
    | zero =>
      rw [SinkState.zero_max nonnegative]
      rfl
    | succ _ =>
      simp only [mergedState, Option.getD_some, isBlank_text_take, loads_text_take short]
      rfl
  | written found =>
    have visible : isBlank found.text = false := by
      have taken := isBlank_text_take found found.text.length
      rwa [take_of_length_le (Nat.le_succ _)] at taken
    simp only [mergedState, Option.getD_some, visible, loads_text, stateOf_sortKeys_payload]
    rfl

theorem tear_writeState_of_stateFile
    (file : StateFile disk.state found) (nonnegative : state.Nonnegative)
    (written : Nat) :
    ((FileOp.writeState state).tear written disk).state =
      some ((found.max state).text.take written) := by
  rw [tear_writeState, mergedState_of_stateFile file nonnegative]

theorem stateFile_tear (file : StateFile disk.state found) (nonnegative : state.Nonnegative)
    (written : Nat) :
    StateFile ((FileOp.writeState state).tear written disk).state .zero ∨
      StateFile ((FileOp.writeState state).tear written disk).state (found.max state) := by
  rw [tear_writeState_of_stateFile file nonnegative]
  by_cases short : written < (found.max state).text.length
  · exact .inl (.torn short)
  · rw [take_of_length_le (Nat.le_of_not_lt short)]
    exact .inr (.written _)

theorem stateFile_perform (file : StateFile disk.state found) (nonnegative : state.Nonnegative) :
    StateFile ((FileOp.writeState state).perform disk).state (found.max state) := by
  unfold FileOp.perform
  rw [tear_writeState_of_stateFile file nonnegative]
  have length : (FileOp.writeState state).length disk = (found.max state).text.length := by
    rw [length_writeState, mergedState_of_stateFile file nonnegative]
  rw [length, take_length]
  exact .written _

end Telemetry

end AccruviaHarness
