import AccruviaHarness.Python.DictUpdate
import AccruviaHarness.Python.JsonOrder

/-!
# The configuration of the harness

A configuration is written as a JSON file and read back by way of the
environment variables, whose defaults are the texts of the stored values.
-/

namespace AccruviaHarness

open PyJson (IsFloatRepr)

/-! ## Fields -/

/-- How `from_payload` builds a field, and how `from_env` finds its value. -/
inductive FieldKind where
  /-- `os.environ.get(name, str(payload.get(key, initial)))`. -/
  | text
  /-- A text or `None`: `os.environ.get(name, payload.get(key))`. -/
  | optionalText
  /-- A text or `None`: `os.environ.get(name) or payload.get(key)`. -/
  | orPayload
  /-- A text or `None`:
  `os.environ.get(name, str(payload.get(key, initial)))`. -/
  | optionalAsText
  /-- A tuple of texts, in the environment joined by commas. -/
  | texts
  /-- `os.environ.get(name, str(payload.get(key, initial))).lower() ==
  "true"`. -/
  | flag
  /-- `_env_int(name, int(payload.get(key, initial)))`. -/
  | int
  /-- `_env_float(name, float(payload.get(key, initial)))`. -/
  | float

/-- A field of `HarnessConfig` that is no path. Without a default
`from_payload` reads it as `payload[key]`. -/
structure ConfigField where
  key : String
  envName : String
  kind : FieldKind
  initial : PyValue
  required : Bool := false

namespace ConfigField

def text (key envName initial : String) : ConfigField where
  key
  envName
  kind := .text
  initial := .str initial

def requiredText (key envName initial : String) : ConfigField :=
  { text key envName initial with required := true }

variable (key envName : String)

def llmCommand : ConfigField where
  key
  envName
  kind := .optionalText
  initial := .none
  required := true

def texts : ConfigField where
  key
  envName
  kind := .texts
  initial := .list []

def flag (initial : Bool) : ConfigField where
  key
  envName
  kind := .flag
  initial := .bool initial

def int (initial : Int) : ConfigField where
  key
  envName
  kind := .int
  initial := .int initial

def float (key envName initial : String) : ConfigField where
  key
  envName
  kind := .float
  initial := .float initial

end ConfigField

open ConfigField in
/-- The fields in the order of `from_payload`. Their initial values are the
defaults of the class, those that `from_env` gives it, and the defaults of
every `payload.get`. -/
def configFields : List ConfigField :=
  [flag "telemetry_fsync_writes" "ACCRUVIA_TELEMETRY_FSYNC_WRITES" false,
    requiredText "default_project_name" "ACCRUVIA_HARNESS_PROJECT" "accruvia",
    requiredText "default_repo" "ACCRUVIA_HARNESS_REPO" "soverton/accruvia",
    requiredText "runtime_backend" "ACCRUVIA_HARNESS_RUNTIME" "local",
    requiredText "temporal_target" "ACCRUVIA_TEMPORAL_TARGET" "localhost:7233",
    requiredText "temporal_namespace" "ACCRUVIA_TEMPORAL_NAMESPACE" "default",
    requiredText "temporal_task_queue" "ACCRUVIA_TEMPORAL_TASK_QUEUE" "accruvia-harness",
    requiredText "llm_backend" "ACCRUVIA_LLM_BACKEND" "auto",
    llmCommand "llm_command" "ACCRUVIA_LLM_COMMAND",
    llmCommand "llm_codex_command" "ACCRUVIA_LLM_CODEX_COMMAND",
    llmCommand "llm_claude_command" "ACCRUVIA_LLM_CLAUDE_COMMAND",
    llmCommand "llm_accruvia_client_command" "ACCRUVIA_LLM_ACCRUVIA_CLIENT_COMMAND",
    texts "env_passthrough" "ACCRUVIA_ENV_PASSTHROUGH",
    texts "adapter_modules" "ACCRUVIA_ADAPTER_MODULES",
    texts "project_adapter_modules" "ACCRUVIA_PROJECT_ADAPTER_MODULES",
    texts "validator_modules" "ACCRUVIA_VALIDATOR_MODULES",
    texts "cognition_modules" "ACCRUVIA_COGNITION_MODULES",
    text "otel_service_name" "ACCRUVIA_OTEL_SERVICE_NAME" "accruvia-harness",
    { key := "otel_exporter_otlp_endpoint", envName := "ACCRUVIA_OTEL_EXPORTER_OTLP_ENDPOINT"
      kind := .orPayload, initial := .none },
    flag "issue_close_on_completed" "ACCRUVIA_ISSUE_CLOSE_ON_COMPLETED" true,
    flag "issue_close_only_on_approved_promotion"
      "ACCRUVIA_ISSUE_CLOSE_ONLY_ON_APPROVED_PROMOTION" false,
    flag "issue_reopen_on_pending" "ACCRUVIA_ISSUE_REOPEN_ON_PENDING" true,
    flag "issue_reopen_on_active" "ACCRUVIA_ISSUE_REOPEN_ON_ACTIVE" true,
    flag "issue_reopen_on_failed" "ACCRUVIA_ISSUE_REOPEN_ON_FAILED" true,
    float "timeout_ema_alpha" "ACCRUVIA_TIMEOUT_EMA_ALPHA" "0.5",
    int "timeout_min_seconds" "ACCRUVIA_TIMEOUT_MIN_SECONDS" 30,
    int "timeout_max_seconds" "ACCRUVIA_TIMEOUT_MAX_SECONDS" 1800,
    float "timeout_multiplier" "ACCRUVIA_TIMEOUT_MULTIPLIER" "2.5",
    int "heartbeat_timeout_seconds" "ACCRUVIA_HEARTBEAT_TIMEOUT_SECONDS" 1800,
    int "heartbeat_failure_escalation_threshold"
      "ACCRUVIA_HEARTBEAT_FAILURE_ESCALATION_THRESHOLD" 3,
    int "task_run_timeout_seconds" "ACCRUVIA_TASK_RUN_TIMEOUT_SECONDS" 1800,
    int "task_llm_timeout_seconds" "ACCRUVIA_TASK_LLM_TIMEOUT_SECONDS" 1800,
    int "task_validation_timeout_seconds" "ACCRUVIA_TASK_VALIDATION_TIMEOUT_SECONDS" 300,
    int "task_validation_startup_timeout_seconds"
      "ACCRUVIA_TASK_VALIDATION_STARTUP_TIMEOUT_SECONDS" 30,
    int "task_compile_timeout_seconds" "ACCRUVIA_TASK_COMPILE_TIMEOUT_SECONDS" 120,
    int "task_git_timeout_seconds" "ACCRUVIA_TASK_GIT_TIMEOUT_SECONDS" 30,
    int "task_stale_timeout_seconds" "ACCRUVIA_TASK_STALE_TIMEOUT_SECONDS" 7200,
    int "memory_limit_mb" "ACCRUVIA_MEMORY_LIMIT_MB" 1024,
    int "cpu_time_limit_seconds" "ACCRUVIA_CPU_TIME_LIMIT_SECONDS" 300,
    { key := "observer_webhook_url", envName := "ACCRUVIA_OBSERVER_WEBHOOK_URL"
      kind := .optionalText, initial := .none },
    text "default_workspace_policy" "ACCRUVIA_DEFAULT_WORKSPACE_POLICY" "isolated_required",
    text "default_promotion_mode" "ACCRUVIA_DEFAULT_PROMOTION_MODE" "branch_and_pr",
    { key := "default_repo_provider", envName := "ACCRUVIA_DEFAULT_REPO_PROVIDER"
      kind := .optionalAsText, initial := .str "github" },
    text "default_base_branch" "ACCRUVIA_DEFAULT_BASE_BRANCH" "main",
    flag "pr_check_enabled" "ACCRUVIA_PR_CHECK_ENABLED" true,
    int "pr_check_interval_seconds" "ACCRUVIA_PR_CHECK_INTERVAL_SECONDS" 28800]

def persistedConfigKeys : List String := configFields.map ConfigField.key

/-! ## Values -/

def isFloat (repr : String) : Option PyValue → Bool
  | some (.float found) => found = repr
  | _ => false

theorem isFloat_iff (repr : String) (read : Option PyValue) :
    isFloat repr read = true ↔ read = some (.float repr) := by
  unfold isFloat
  split
  next found => simp
  next other => exact ⟨nofun, fun same => absurd same (other repr)⟩

instance isFloatReprDecidable : DecidablePred IsFloatRepr := fun repr =>
  decidable_of_iff ((isFloat repr (PyJson.readAtom (PyJson.encodeFloat repr)) &&
      (PyJson.encodeFloat repr).all PyJson.isAtomCharacter) = true) <| by
    rw [Bool.and_eq_true, isFloat_iff, List.all_eq_true]
    rfl

def FieldKind.admits : FieldKind → PyValue → Bool
  | .text, .str _ => true
  | .optionalText, .none => true
  | .optionalText, .str _ => true
  | .orPayload, .none => true
  | .orPayload, .str _ => true
  | .optionalAsText, .none => true
  | .optionalAsText, .str _ => true
  | .texts, .list items => items.all fun item => (item matches .str _)
  | .flag, .bool _ => true
  | .int, .int _ => true
  | .float, .float repr => decide (IsFloatRepr repr)
  | _, _ => false

/-- What the harness finds around it. What `int` makes of a float or a text
and what `float` makes of any value but a float are parameters: of the values
that are written to the file none is converted. -/
structure ConfigHost where
  environ : String → Option String
  /-- `str(Path(text))`. -/
  path : String → String
  /-- `str(Path(base) / name)`. -/
  join : String → String → String
  intOf : PyValue → Except PyError Int
  floatOf : PyValue → Except PyError { repr // IsFloatRepr repr }

namespace ConfigHost

variable (host : ConfigHost)

/-- `int(value)`. -/
def toInt : PyValue → Except PyError Int
  | .float repr => host.intOf (.float repr)
  | .str text => host.intOf (.str text)
  | value => value.toInt

/-- `float(value)`. -/
def toFloat : PyValue → Except PyError String
  | .float repr => if IsFloatRepr repr then .ok repr else .error (.valueError repr)
  | value => do return (← host.floatOf value).val

def envInt (name : String) (default : Int) : Int :=
  match host.environ name with
  | none => default
  | some raw => ((host.intOf (.str raw)).toOption).getD default

def envFloat (name : String) (default : String) : String :=
  match host.environ name with
  | none => default
  | some raw => (((host.floatOf (.str raw)).toOption).map Subtype.val).getD default

end ConfigHost

/-- `",".join(str(item) for item in items)`. -/
def joinItems (items : List PyValue) : String :=
  String.ofList ([','].intercalate (items.map fun item => item.toStr.toList))

/-- `item.strip() for item in text.split(",") if item.strip()`. -/
def splitItems (text : String) : List String :=
  ((text.toList.splitOn ',').map fun piece => pyStrip (String.ofList piece)).filter (· ≠ "")

namespace ConfigField

variable (field : ConfigField) (host : ConfigHost) (payload : PyDict)

/-- What `from_payload` reads before it builds the field. -/
def read : Except PyError PyValue :=
  if field.required then payload.require field.key
  else
    .ok <| payload.getD field.key <|
      match field.kind with
      | .optionalAsText => .none
      | _ => field.initial

/-- What `from_payload` builds the field with. -/
def build (value : PyValue) : Except PyError PyValue :=
  match field.kind with
  | .text => .ok (.str value.toStr)
  | .optionalText | .orPayload | .optionalAsText =>
    .ok <|
      match value with
      | .none => .none
      | value => .str value.toStr
  | .texts => do return .list ((← value.toList).map (.str ·.toStr))
  | .flag => .ok (.bool value.truthy)
  | .int => do return .int (← host.toInt value)
  | .float => do return .float (← host.toFloat value)

/-- The value of the field in the payload that `from_env` builds from. The
default of `os.environ.get` is computed even where the variable is set. -/
def layer : Except PyError PyValue :=
  let stored := payload.getD field.key field.initial
  let environ := host.environ field.envName
  match field.kind with
  | .text | .optionalAsText => .ok (.str (environ.getD stored.toStr))
  | .optionalText => .ok ((environ.map PyValue.str).getD (payload.get field.key))
  | .orPayload => .ok (((environ.map PyValue.str).getD .none).orValue (payload.get field.key))
  | .texts => do
    let text := environ.getD (joinItems (← stored.toList))
    return .list ((splitItems text).map .str)
  | .flag => .ok (.bool (lowerAscii (environ.getD stored.toStr) == "true"))
  | .int => do return .int (host.envInt field.envName (← host.toInt stored))
  | .float => do
    return .float (host.envFloat field.envName (← host.toFloat stored))

end ConfigField

/-! ## Configurations -/

/-- `HarnessConfig`: its paths, and its other fields in the order of
`configFields`, each with a value of its type. -/
structure HarnessConfig where
  dbPath : String
  workspaceRoot : String
  logPath : String
  telemetryDir : String
  values : PyDict
  typed : List.Forall₂ (fun field entry => entry.1 = field.key ∧
    field.kind.admits entry.2 = true) configFields values

variable {host : ConfigHost} {value : PyValue} {key : String} {items : PyDict}

theorem admits_of_build {field : ConfigField} {built : PyValue}
    (returned : field.build host value = .ok built) :
    field.kind.admits built = true := by
  unfold ConfigField.build at returned
  cases kind : field.kind with
  | text =>
    rw [kind] at returned
    cases returned
    rfl
  | optionalText | orPayload | optionalAsText =>
    rw [kind] at returned
    cases returned
    split
    · rfl
    · rfl
  | texts =>
    rw [kind] at returned
    obtain ⟨_, _, returned⟩ := exists_of_bind_ok returned
    cases returned
    simp [FieldKind.admits]
  | flag =>
    rw [kind] at returned
    cases returned
    rfl
  | int =>
    rw [kind] at returned
    obtain ⟨_, _, returned⟩ := exists_of_bind_ok returned
    cases returned
    rfl
  | float =>
    rw [kind] at returned
    obtain ⟨_, converted, returned⟩ := exists_of_bind_ok returned
    cases returned
    apply decide_eq_true
    unfold ConfigHost.toFloat at converted
    split at converted
    · split at converted
      next isRepr =>
        cases converted
        exact isRepr
      · cases converted
    · obtain ⟨found, _, converted⟩ := exists_of_bind_ok converted
      cases converted
      exact found.property

theorem typed_of_mapM {payload values : PyDict}
    (returned : configFields.mapM (fun field => do
      return (field.key, ← field.build host (← field.read payload))) = .ok values) :
    List.Forall₂ (fun field entry => entry.1 = field.key ∧
      field.kind.admits entry.2 = true) configFields values := by
  refine (forall₂_of_mapM_ok returned).imp fun field entry built => ?_
  obtain ⟨_, _, built⟩ := exists_of_bind_ok built
  obtain ⟨_, isBuilt, built⟩ := exists_of_bind_ok built
  cases built
  exact ⟨rfl, admits_of_build isBuilt⟩

namespace HarnessConfig

variable (host : ConfigHost) (files : String → Option (List Char))

def fromPayload (payload : PyDict) : Except PyError HarnessConfig := do
  let dbPath := host.path (← payload.require "db_path").toStr
  let workspaceRoot := host.path (← payload.require "workspace_root").toStr
  let logPath := host.path (← payload.require "log_path").toStr
  let telemetryDir := host.path (← payload.require "telemetry_dir").toStr
  match returned : configFields.mapM (fun field => do
      return (field.key, ← field.build host (← field.read payload))) with
  | .error error => .error error
  | .ok values =>
    return { dbPath, workspaceRoot, logPath, telemetryDir, values
             typed := typed_of_mapM returned }

variable (config : HarnessConfig)

def toPayload : PyDict :=
  [("db_path", .str config.dbPath), ("workspace_root", .str config.workspaceRoot),
    ("log_path", .str config.logPath),
    ("telemetry_dir", .str config.telemetryDir)] ++ config.values

/-- `persisted_payload`. Its order is the one of a set, which is without
effect where it is written in the order of its keys. -/
def persistedPayload : PyDict := config.toPayload.filter fun entry => entry.1 ∈ persistedConfigKeys

end HarnessConfig

/-- `write_persisted_config`, on the texts of the files by their paths. -/
def writePersistedConfig (host : ConfigHost)
    (files : String → Option (List Char)) (path : String) (payload : PyDict) :
    String → Option (List Char) :=
  let filtered := (PyJson.sortByKey payload).filter fun entry => entry.1 ∈ persistedConfigKeys
  Function.update files (host.path path) <| some <|
    PyJson.write (.indented 2) 0 (PyJson.sortKeys (.dict filtered)) ++ ['\n']

def loadPersistedConfig (files : String → Option (List Char))
    (configPath : String) : Except PyError PyDict :=
  match (files configPath).bind PyJson.loads with
  | some (.dict payload) =>
    if payload.any fun entry => entry.1 ∈ ["worker_backend", "worker_command"]
    then
      .error <| .valueError <| "Config field worker_backend/worker_command was removed in " ++
          "pre-alpha. Skills is the only worker backend. Remove these keys " ++
          "from " ++ configPath ++ " to continue."
    else .ok (payload.filter fun entry => entry.1 ∈ persistedConfigKeys)
  | _ => .ok []

def HarnessConfig.fromEnv (host : ConfigHost) (files : String → Option (List Char))
    (dbPath workspaceRoot logPath configFile : Option String) :
    Except PyError HarnessConfig := do
  let base := host.path ((host.environ "ACCRUVIA_HARNESS_HOME").getD ".accruvia-harness")
  let resolved (path : Option String) (name : String) : PyValue :=
    .str ((path.map host.path).getD (host.join base name))
  let paths : PyDict :=
    [("db_path", resolved dbPath "harness.db"),
      ("workspace_root", resolved workspaceRoot "workspace"),
      ("log_path", resolved logPath "harness.log"),
      ("telemetry_dir", resolved none "telemetry")]
  let configPath := host.path <| configFile.getD <|
    (host.environ "ACCRUVIA_HARNESS_CONFIG").getD (host.join base "config.json")
  let initial := paths ++ configFields.map fun field => (field.key, field.initial)
  let payload := initial.update (← loadPersistedConfig files configPath)
  let layers ← configFields.mapM fun field => do
    return (field.key, ← field.layer host payload)
  fromPayload host (payload.update (paths ++ layers))

/-! ## One field -/

/-- What `from_env` makes of a stored value when no variable is set. -/
def FieldKind.carried : FieldKind → PyValue → PyValue
  | .optionalAsText, value => .str value.toStr
  | .texts, .list items => .list ((splitItems (joinItems items)).map .str)
  | _, value => value

def IsPlainItem (text : String) : Prop := text ≠ "" ∧ pyStrip text = text ∧ ',' ∉ text.toList

/-- The value is neither a missing provider nor `nan`, and no item of it is
other than plain. -/
def FieldKind.Keeps : FieldKind → PyValue → Prop
  | .optionalAsText, value => value ≠ .none
  | .texts, value => ∀ items, value = .list items → ∀ text, .str text ∈ items → IsPlainItem text
  | .float, value => value ≠ .float "nan"
  | _, _ => True

/-- `first == second`, of a value with itself. -/
def SameValue (first second : PyValue) : Prop := first = second ∧ first ≠ .float "nan"

theorem isPlainItem_of_mem_splitItems {text item : String} (member : item ∈ splitItems text) :
    IsPlainItem item := by
  obtain ⟨piece, nonempty⟩ := List.mem_filter.mp member
  obtain ⟨_, isPiece, rfl⟩ := List.mem_map.mp piece
  refine ⟨by simpa using nonempty, pyStrip_pyStrip _, fun comma => ?_⟩
  have inside := mem_of_mem_pyStrip comma
  rw [String.toList_ofList] at inside
  exact not_mem_of_mem_splitOn isPiece inside

theorem splitItems_joinItems_iff (texts : List String) :
    splitItems (joinItems (texts.map .str)) = texts ↔ ∀ text ∈ texts, IsPlainItem text := by
  constructor
  · intro same text member
    rw [← same] at member
    exact isPlainItem_of_mem_splitItems member
  · intro plain
    have joined : (joinItems (texts.map .str)).toList =
        [','].intercalate (texts.map String.toList) := by
      rw [joinItems, String.toList_ofList, List.map_map]
      rfl
    unfold splitItems
    rw [joined]
    by_cases none : texts = []
    · subst none
      decide
    · have pieces : ([','].intercalate (texts.map String.toList)).splitOn ',' =
          texts.map String.toList := by
        apply List.splitOn_intercalate ','
        · intro piece member
          obtain ⟨text, listed, rfl⟩ := List.mem_map.mp member
          exact (plain text listed).2.2
        · simpa using none
      rw [pieces, List.map_map]
      have stripped :
          texts.map ((fun piece => pyStrip (String.ofList piece)) ∘ String.toList) = texts := by
        conv_rhs => rw [← List.map_id texts]
        apply List.map_congr_left
        intro text listed
        rw [Function.comp_apply, String.ofList_toList, (plain text listed).2.1]
        rfl
      rw [stripped, List.filter_eq_self]
      intro text listed
      simpa using (plain text listed).1

section

variable {kind : FieldKind} {value : PyValue}

inductive FieldKind.Shape : FieldKind → PyValue → Prop
  | text (text : String) : Shape .text (.str text)
  | optionalText (text : Option String) :
    Shape .optionalText ((text.map .str).getD .none)
  | orPayload (text : Option String) :
    Shape .orPayload ((text.map .str).getD .none)
  | optionalAsText (text : Option String) :
    Shape .optionalAsText ((text.map .str).getD .none)
  | texts (texts : List String) : Shape .texts (.list (texts.map .str))
  | flag (truth : Bool) : Shape .flag (.bool truth)
  | int (number : Int) : Shape .int (.int number)
  | float (repr : String) (isRepr : IsFloatRepr repr) :
    Shape .float (.float repr)

theorem exists_texts {items : List PyValue}
    (admitted : (items.all fun item => (item matches .str _)) = true) :
    ∃ texts : List String, items = texts.map .str := by
  induction items with
  | nil => exact ⟨[], rfl⟩
  | cons item _ ih =>
    rw [List.all_cons, Bool.and_eq_true] at admitted
    obtain ⟨texts, rfl⟩ := ih admitted.2
    cases item with
    | str text => exact ⟨text :: texts, rfl⟩
    | none | bool _ | int _ | float _ | list _ | dict _ => exact absurd admitted.1 (by simp)

theorem shape_of_admits (admitted : kind.admits value = true) : kind.Shape value := by
  unfold FieldKind.admits at admitted
  split at admitted
  · exact .text _
  · exact .optionalText none
  · exact .optionalText (some _)
  · exact .orPayload none
  · exact .orPayload (some _)
  · exact .optionalAsText none
  · exact .optionalAsText (some _)
  · obtain ⟨texts, rfl⟩ := exists_texts admitted
    exact .texts texts
  · exact .flag _
  · exact .int _
  · exact .float _ (of_decide_eq_true admitted)
  · cases admitted

theorem admits_carried (admitted : kind.admits value = true) :
    kind.admits (kind.carried value) = true := by
  cases shape_of_admits admitted with
  | texts _ => simp [FieldKind.carried, FieldKind.admits]
  | optionalAsText _ => rfl
  | text _ | optionalText _ | orPayload _ | flag _ | int _ | float _ _ => exact admitted

theorem sameValue_carried_iff (admitted : kind.admits value = true) :
    SameValue value (kind.carried value) ↔ kind.Keeps value := by
  unfold SameValue
  cases shape_of_admits admitted with
  | optionalAsText text =>
    cases text with
    | none => simp [FieldKind.carried, FieldKind.Keeps]
    | some _ => simp [FieldKind.carried, FieldKind.Keeps]
  | texts texts =>
    have injective : Function.Injective PyValue.str := fun _ _ same => PyValue.str.inj same
    have plain := splitItems_joinItems_iff texts
    simp only [FieldKind.carried, FieldKind.Keeps, PyValue.list.injEq,
      forall_eq', List.mem_map_of_injective injective]
    rw [← plain, (List.map_injective_iff.mpr injective).eq_iff]
    simp [eq_comm]
  | optionalText text | orPayload text => cases text <;> simp [FieldKind.carried, FieldKind.Keeps]
  | text _ | flag _ | int _ | float _ _ => simp [FieldKind.carried, FieldKind.Keeps]

theorem build_of_admits {field : ConfigField} (host : ConfigHost)
    (admitted : field.kind.admits value = true) :
    field.build host value = .ok value := by
  obtain ⟨_, _, _, _, _⟩ := field
  unfold ConfigField.build
  cases shape_of_admits admitted with
  | optionalText text | orPayload text | optionalAsText text =>
    cases text with
    | none => rfl
    | some _ => rfl
  | texts _ =>
    rw [PyValue.toList, ok_bind, List.map_map]
    rfl
  | float _ isRepr =>
    rw [ConfigHost.toFloat, if_pos isRepr, ok_bind]
    rfl
  | text _ | flag _ | int _ => rfl

theorem getD_eq_find (entries : PyDict) (key : String) (default : PyValue) :
    entries.getD key default = (entries.find key).getD default := by
  unfold PyDict.getD PyDict.find
  cases entries.find? fun entry => entry.1 = key <;> rfl

theorem require_of_find {entries : PyDict} {key : String} (found : entries.find key = some value) :
    entries.require key = .ok value := by
  unfold PyDict.find at found
  obtain ⟨_, here, rfl⟩ := Option.map_eq_some_iff.mp found
  unfold PyDict.require
  rw [here]

variable {field : ConfigField} {host : ConfigHost} {payload : PyDict}

theorem read_of_find (found : payload.find field.key = some value) :
    field.read payload = .ok value := by
  unfold ConfigField.read
  rw [getD_eq_find, found, require_of_find found]
  split
  · rfl
  · rfl

theorem layer_of_unset (unset : host.environ field.envName = none)
    (found : payload.find field.key = some value)
    (admitted : field.kind.admits value = true) :
    field.layer host payload = .ok (field.kind.carried value) := by
  have stored : payload.getD field.key field.initial = value := by
    rw [getD_eq_find, found]
    rfl
  have got : payload.get field.key = value := by
    rw [PyDict.get_eq_find, found]
    rfl
  obtain ⟨_, _, _, _, _⟩ := field
  unfold ConfigField.layer
  simp only [stored, got, unset]
  cases shape_of_admits admitted with
  | flag truth =>
    cases truth with
    | false => rfl
    | true => rfl
  | int _ =>
    rw [ConfigHost.toInt, PyValue.toInt, ok_bind, ConfigHost.envInt, unset]
    · rfl
    all_goals simp
  | float _ isRepr =>
    rw [ConfigHost.toFloat, if_pos isRepr, ok_bind, ConfigHost.envFloat, unset]
    rfl
  | text _ | optionalText _ | orPayload _ | optionalAsText _ | texts _ => rfl

end

/-! ## All fields -/

def pathKeys : List String := ["db_path", "workspace_root", "log_path", "telemetry_dir"]

theorem nodup_keys : (pathKeys ++ persistedConfigKeys).Nodup := by decide

theorem nodup_persistedConfigKeys : persistedConfigKeys.Nodup :=
  (List.nodup_append'.mp nodup_keys).2.1

theorem find_of_mem {entries : PyDict} (distinct : (entries.map Prod.fst).Nodup)
    (member : (key, value) ∈ entries) :
    entries.find key = some value := by
  cases found : entries.find key with
  | none => exact absurd rfl (PyDict.find_eq_none_iff.mp found _ member)
  | some _ =>
    obtain ⟨entry, here, rfl⟩ := Option.map_eq_some_iff.mp found
    have own : entry.1 = key := by simpa using List.find?_some here
    have same := List.inj_on_of_nodup_map distinct (List.mem_of_find?_eq_some here) member own
    rw [same]

theorem ofItems_of_nodup (distinct : (items.map Prod.fst).Nodup) : PyDict.ofItems items = items :=
  PyJson.update_append distinct

theorem find_update_of_mem (entries : PyDict) (distinct : (items.map Prod.fst).Nodup)
    (member : (key, value) ∈ items) :
    (entries.update items).find key = some value := by
  rw [PyDict.find_update, ofItems_of_nodup distinct, find_of_mem distinct member]
  rfl

namespace HarnessConfig

variable (config : HarnessConfig)

theorem keys_values : config.values.map Prod.fst = persistedConfigKeys := by
  have typed := config.typed
  unfold persistedConfigKeys
  generalize configFields = fields at typed
  generalize config.values = values at typed
  induction typed with
  | nil => rfl
  | cons here _ ih => rw [List.map_cons, List.map_cons, ih, here.1]

theorem nodup_values : (config.values.map Prod.fst).Nodup := by
  rw [config.keys_values]
  exact nodup_persistedConfigKeys

theorem mem_values {field : ConfigField} (member : field ∈ configFields) :
    (field.key, config.values.get field.key) ∈ config.values ∧
      field.kind.admits (config.values.get field.key) = true := by
  have listed : ∃ entry ∈ config.values, entry.1 = field.key ∧
      field.kind.admits entry.2 = true := by
    have typed := config.typed
    generalize configFields = fields at typed member
    generalize config.values = values at typed
    induction typed with
    | nil => cases member
    | cons here _ ih =>
      rcases List.mem_cons.mp member with rfl | later
      · exact ⟨_, List.mem_cons_self, here⟩
      · obtain ⟨entry, inside, own⟩ := ih later
        exact ⟨entry, List.mem_cons_of_mem _ inside, own⟩
  obtain ⟨⟨key, value⟩, inside, rfl, admitted⟩ := listed
  have found := find_of_mem config.nodup_values inside
  have got : config.values.get field.key = value := by
    rw [PyDict.get_eq_find, found]
    rfl
  rw [got]
  exact ⟨inside, admitted⟩

theorem persistedPayload_eq : config.persistedPayload = config.values := by
  unfold persistedPayload toPayload
  rw [List.filter_append, List.filter_eq_nil_iff.mpr, List.nil_append, List.filter_eq_self]
  · intro entry member
    rw [decide_eq_true_eq, ← config.keys_values]
    exact List.mem_map_of_mem member
  · have apart := (List.nodup_append'.mp nodup_keys).2.2
    intro entry member persisted
    apply apart _ (of_decide_eq_true persisted)
    have paths := List.mem_map_of_mem (f := Prod.fst) member
    exact paths

end HarnessConfig

theorem encodable_of_admits {kind : FieldKind} (admitted : kind.admits value = true) :
    PyJson.Encodable value ∧ PyJson.sortKeys value = value := by
  cases shape_of_admits admitted with
  | texts texts =>
    simp only [PyJson.Encodable, PyJson.sortKeys, PyValue.list.injEq]
    induction texts with
    | nil => exact ⟨trivial, rfl⟩
    | cons _ _ ih =>
      have others := ih (by simp [FieldKind.admits])
      refine ⟨⟨trivial, others.1⟩, ?_⟩
      rw [List.map_cons, PyJson.sortItems, others.2]
      rfl
  | optionalText text | orPayload text | optionalAsText text =>
    cases text with
    | none => exact ⟨trivial, rfl⟩
    | some _ => exact ⟨trivial, rfl⟩
  | float _ isRepr => exact ⟨isRepr, rfl⟩
  | text _ | flag _ | int _ => exact ⟨trivial, rfl⟩

variable (config : HarnessConfig)

theorem HarnessConfig.encodable_values :
    ∀ entry ∈ config.values, PyJson.Encodable entry.2 ∧ PyJson.sortKeys entry.2 = entry.2 := by
  intro entry member
  have listed := List.mem_map_of_mem (f := Prod.fst) member
  rw [config.keys_values] at listed
  obtain ⟨_, isField, own⟩ := List.mem_map.mp listed
  obtain ⟨inside, admitted⟩ := config.mem_values isField
  have same := List.inj_on_of_nodup_map config.nodup_values member inside own.symm
  rw [same]
  exact encodable_of_admits admitted

theorem loadPersistedConfig_write (host : ConfigHost)
    (files : String → Option (List Char)) (path : String) :
    loadPersistedConfig (writePersistedConfig host files path config.persistedPayload)
        (host.path path) =
      .ok (PyJson.sortByKey config.values) := by
  have reordered := PyJson.perm_sortByKey config.values
  have known : ∀ entry ∈ PyJson.sortByKey config.values, entry.1 ∈ persistedConfigKeys := by
    intro entry member
    rw [← config.keys_values]
    exact List.mem_map_of_mem (reordered.mem_iff.mp member)
  have kept : (PyJson.sortByKey config.values).filter
      (fun entry => entry.1 ∈ persistedConfigKeys) = PyJson.sortByKey config.values := by
    rw [List.filter_eq_self]
    intro entry member
    exact decide_eq_true (known entry member)
  have encodable : PyJson.Encodable (.dict (PyJson.sortByKey config.values)) := by
    refine ⟨(reordered.map Prod.fst).nodup_iff.mpr config.nodup_values, ?_⟩
    rw [PyJson.encodableEntries_iff]
    intro entry member
    exact (config.encodable_values entry (reordered.mem_iff.mp member)).1
  have sorted : PyJson.sortKeys (.dict (PyJson.sortByKey config.values)) =
      .dict (PyJson.sortByKey config.values) := by
    rw [PyJson.sortKeys, PyJson.sortEntries_sortByKey,
      PyJson.sortByKey_sortByKey, PyJson.sortEntries_eq_map]
    congr 2
    conv_rhs => rw [← List.map_id config.values]
    apply List.map_congr_left
    intro entry member
    rw [(config.encodable_values entry member).2]
    rfl
  have read := PyJson.loads_write_append (.indented 2) encodable
    (show ∀ character ∈ ['\n'], PyJson.isSpace character = true by simp [PyJson.isSpace])
  have current : ((PyJson.sortByKey config.values).any fun entry =>
      entry.1 ∈ ["worker_backend", "worker_command"]) = false := by
    rw [List.any_eq_false]
    intro entry member removed
    have absent : ∀ key ∈ ["worker_backend", "worker_command"],
        key ∉ persistedConfigKeys := by decide
    exact absent entry.1 (of_decide_eq_true removed) (known entry member)
  unfold loadPersistedConfig writePersistedConfig
  simp only [config.persistedPayload_eq, kept, sorted, Function.update_self,
    Option.bind_some, read, current, Bool.false_eq_true, if_false]

/-! ## Reading back -/

def ConfigHost.Unset (host : ConfigHost) : Prop :=
  ∀ field ∈ configFields, host.environ field.envName = none

namespace HarnessConfig

def carriedValues (config : HarnessConfig) : PyDict :=
  configFields.map fun field => (field.key, field.kind.carried (config.values.get field.key))

variable {config : HarnessConfig} {host : ConfigHost} {payload : PyDict}

theorem values_fromPayload {value : ConfigField → PyValue}
    (paths : ∀ key ∈ pathKeys, ∃ path, payload.find key = some path)
    (fields : ∀ field ∈ configFields, payload.find field.key = some (value field) ∧
        field.kind.admits (value field) = true) :
    ∃ read, fromPayload host payload = .ok read ∧
      read.values = configFields.map fun field => (field.key, value field) := by
  have built : configFields.mapM (fun field => do
      return (field.key, ← field.build host (← field.read payload))) =
        .ok (configFields.map fun field => (field.key, value field)) := by
    apply mapM_eq_ok
    intro field member
    obtain ⟨found, admitted⟩ := fields field member
    rw [read_of_find found, ok_bind, build_of_admits host admitted]
    rfl
  have present : ∀ key ∈ pathKeys, ∃ path, payload.require key = .ok path :=
    fun key member => (paths key member).imp fun _ => require_of_find
  simp only [pathKeys, List.forall_mem_cons] at present
  obtain ⟨⟨_, db⟩, ⟨_, workspace⟩, ⟨_, log⟩, ⟨_, telemetry⟩, _⟩ := present
  unfold fromPayload
  rw [db, ok_bind, workspace, ok_bind, log, ok_bind, telemetry, ok_bind]
  split
  next error failed =>
    rw [built] at failed
    cases failed
  next values returned =>
    rw [built] at returned
    exact ⟨_, rfl, (Except.ok.inj returned).symm⟩

theorem fromEnv_write (unset : host.Unset) (files : String → Option (List Char)) (path : String) :
    ∃ read, fromEnv host (writePersistedConfig host files path config.persistedPayload)
          none none none (some path) = .ok read ∧
        read.values = config.carriedValues := by
  have sortedKeys : ((PyJson.sortByKey config.values).map Prod.fst).Nodup :=
    ((PyJson.perm_sortByKey config.values).map Prod.fst).nodup_iff.mpr config.nodup_values
  unfold fromEnv
  dsimp only [Option.getD_some]
  rw [loadPersistedConfig_write, ok_bind]
  generalize initially : (_ ++ _ : PyDict) = initial
  have stored : ∀ field ∈ configFields,
      (initial.update (PyJson.sortByKey config.values)).find field.key =
        some (config.values.get field.key) := by
    intro field member
    apply find_update_of_mem initial sortedKeys
    exact (PyJson.perm_sortByKey config.values).mem_iff.mpr (config.mem_values member).1
  have layered : configFields.mapM (fun field => do
      return (field.key, ← field.layer host (initial.update (PyJson.sortByKey config.values)))) =
      .ok config.carriedValues := by
    apply mapM_eq_ok
    intro field member
    rw [layer_of_unset (unset field member) (stored field member) (config.mem_values member).2]
    rfl
  rw [layered, ok_bind]
  generalize located : (List.cons _ _ : PyDict) = paths
  have keys : (paths ++ config.carriedValues).map Prod.fst = pathKeys ++ persistedConfigKeys := by
    rw [← located, List.map_append]
    exact congrArg (_ ++ ·) List.map_map
  have distinct : ((paths ++ config.carriedValues).map Prod.fst).Nodup := by
    rw [keys]
    exact nodup_keys
  apply values_fromPayload
  · intro key member
    have listed : key ∈ (paths ++ config.carriedValues).map Prod.fst := by
      rw [keys]
      exact List.mem_append_left _ member
    obtain ⟨entry, inside, rfl⟩ := List.mem_map.mp listed
    exact ⟨entry.2, find_update_of_mem _ distinct inside⟩
  · intro field member
    refine ⟨find_update_of_mem _ distinct (List.mem_append_right _ ?_),
      admits_carried (config.mem_values member).2⟩
    exact List.mem_map_of_mem member

theorem values_eq :
    config.values = configFields.map fun field =>
      (field.key, config.values.get field.key) := by
  have pairs : config.values =
      config.values.map fun entry => (entry.1, config.values.get entry.1) := by
    conv_lhs => rw [← List.map_id config.values]
    apply List.map_congr_left
    intro entry member
    rw [PyDict.get_eq_find, find_of_mem config.nodup_values member]
    rfl
  have keyed := congrArg (List.map fun key => (key, config.values.get key)) config.keys_values
  rw [persistedConfigKeys, List.map_map, List.map_map] at keyed
  exact pairs.trans keyed

theorem fromPayload_toPayload (host : ConfigHost) :
    ∃ read, fromPayload host config.toPayload = .ok read ∧
      read.values = config.values := by
  have keys : config.toPayload.map Prod.fst = pathKeys ++ persistedConfigKeys := by
    rw [← config.keys_values, toPayload, List.map_append]
    rfl
  have distinct : (config.toPayload.map Prod.fst).Nodup := by
    rw [keys]
    exact nodup_keys
  rw [values_eq]
  apply values_fromPayload
  · intro key member
    have listed : key ∈ config.toPayload.map Prod.fst := by
      rw [keys]
      exact List.mem_append_left _ member
    obtain ⟨entry, inside, rfl⟩ := List.mem_map.mp listed
    exact ⟨entry.2, find_of_mem distinct inside⟩
  · intro field member
    obtain ⟨inside, admitted⟩ := config.mem_values member
    exact ⟨find_of_mem distinct (List.mem_append_right _ inside), admitted⟩

/-- The file that is written for the configuration is read back, in any
environment that sets none of the variables, with the value under every
persisted key. -/
def RoundTrips (config : HarnessConfig) : Prop :=
  ∀ (host : ConfigHost) (files : String → Option (List Char)) (path : String), host.Unset →
      ∃ read, fromEnv host (writePersistedConfig host files path config.persistedPayload)
            none none none (some path) = .ok read ∧
          ∀ key ∈ persistedConfigKeys, SameValue (config.values.get key) (read.values.get key)

/-- The configuration has a provider, its tuples have plain items only, and no
float of it is `nan`. -/
def KeepsValues (config : HarnessConfig) : Prop :=
  ∀ field ∈ configFields, field.kind.Keeps (config.values.get field.key)

theorem sameValues_iff {read : HarnessConfig} (values : read.values = config.carriedValues) :
    (∀ key ∈ persistedConfigKeys, SameValue (config.values.get key) (read.values.get key)) ↔
      config.KeepsValues := by
  rw [persistedConfigKeys, List.forall_mem_map]
  refine forall₂_congr fun field member => ?_
  have inside : (field.key, field.kind.carried (config.values.get field.key)) ∈ read.values := by
    rw [values]
    exact List.mem_map_of_mem member
  have got : read.values.get field.key = field.kind.carried (config.values.get field.key) := by
    rw [PyDict.get_eq_find, find_of_mem read.nodup_values inside]
    rfl
  rw [got]
  exact sameValue_carried_iff (config.mem_values member).2

def bareHost : ConfigHost where
  environ _ := none
  path text := text
  join base name := base ++ "/" ++ name
  intOf _ := .error (.valueError "invalid literal for int() with base 10")
  floatOf _ := .error (.valueError "could not convert string to float")

theorem RoundTrips.keepsValues (returns : config.RoundTrips) :
    config.KeepsValues := by
  have unset : bareHost.Unset := fun _ _ => rfl
  obtain ⟨_, returned, same⟩ := returns bareHost (fun _ => none) "config.json" unset
  obtain ⟨_, otherReturned, values⟩ := fromEnv_write unset (fun _ => none) "config.json"
  rw [returned] at otherReturned
  obtain rfl := Except.ok.inj otherReturned
  exact (sameValues_iff values).mp same

/-- A configuration comes back as it was exactly when it keeps its values. -/
theorem persisted_roundTrips_iff (config : HarnessConfig) :
    config.RoundTrips ↔ config.KeepsValues := by
  constructor
  · intro returns
    exact returns.keepsValues
  · intro keeps host files path unset
    obtain ⟨read, returned, values⟩ := fromEnv_write unset files path
    exact ⟨read, returned, (sameValues_iff values).mpr keeps⟩

def withoutProvider : HarnessConfig where
  dbPath := "harness.db"
  workspaceRoot := "workspace"
  logPath := "harness.log"
  telemetryDir := "telemetry"
  values := configFields.map fun field =>
    (field.key,
      if field.key = "default_repo_provider" then .none else field.initial)
  typed := by
    rw [List.forall₂_map_right_iff, List.forall₂_same]
    have admitted : (configFields.all fun field => field.kind.admits
        (if field.key = "default_repo_provider" then .none else field.initial)) = true := by
      decide +kernel
    intro field member
    exact ⟨rfl, List.all_eq_true.mp admitted field member⟩

theorem not_roundTrips_withoutProvider :
    ∃ payload config, fromPayload bareHost payload = .ok config ∧ ¬ config.RoundTrips := by
  obtain ⟨config, built, values⟩ := @fromPayload_toPayload withoutProvider bareHost
  refine ⟨_, config, built, fun returns => ?_⟩
  have kept := returns.keepsValues
    { key := "default_repo_provider", envName := "ACCRUVIA_DEFAULT_REPO_PROVIDER"
      kind := .optionalAsText, initial := .str "github" } (by simp [configFields])
  rw [values] at kept
  exact kept rfl

end HarnessConfig

end AccruviaHarness
