import AccruviaHarness.Python.JsonText

/-!
# Skills

A skill asks a model for an answer, reads a JSON object out of its text and
validates it. `json.loads` is a parameter of the reading: nothing where it
raises.
-/

namespace AccruviaHarness

/-- `key in entries`. -/
def PyDict.contains (entries : PyDict) (key : String) : Bool :=
  entries.any fun entry => entry.1 = key

namespace Skills

/-! ## Reading an object out of a response -/

section

variable (loads : List Char → Option PyValue)

def loadsDict (text : List Char) : Option PyDict := (loads text).bind PyValue.asDict

def unwrapCliEnvelope (text : String) : String :=
  let stripped := (pyStrip text).toList
  if stripped.head? ≠ some '\x7b' then text
  else
    match loadsDict loads stripped with
    | some payload =>
      match payload.get "result" with
      | .str result => if payload.contains "usage" then result else text
      | _ => text
    | none => text

def untilFence : List Char → Option (List Char)
  | [] => none
  | character :: rest =>
    if "\n```".toList.isPrefixOf (character :: rest) then some []
    else (untilFence rest).map fun body => character :: body

def lineStarts : List Char → List (List Char)
  | [] => []
  | character :: rest =>
    if isPyWhitespace character then lineStarts rest ++ if character = '\n' then [rest] else []
    else []

/-- ```` ```(?:json)?\s*\n(.*?)\n``` ```` at the start of a text. -/
def fencedAt (text : List Char) : Option (List Char) :=
  if "```".toList.isPrefixOf text then
    let rest := text.drop 3
    let starts :=
      (if "json".toList.isPrefixOf rest then lineStarts (rest.drop 4)
        else []) ++ lineStarts rest
    starts.findSome? untilFence
  else none

def fencedBlock : List Char → Option (List Char)
  | [] => none
  | character :: rest => (fencedAt (character :: rest)).or (fencedBlock rest)

def balancedFrom (depth : Nat) (inString escape : Bool) :
    List Char → Option (List Char)
  | [] => none
  | character :: rest =>
    if escape then (balancedFrom depth inString false rest).map (character :: ·)
    else if character = '\\' ∧ inString then
      (balancedFrom depth inString true rest).map (character :: ·)
    else if character = '"' then (balancedFrom depth (!inString) false rest).map (character :: ·)
    else if inString then (balancedFrom depth inString false rest).map (character :: ·)
    else if character = '\x7b' then
      (balancedFrom (depth + 1) inString false rest).map (character :: ·)
    else if character = '\x7d' then
      if depth = 1 then some [character]
      else (balancedFrom (depth - 1) inString false rest).map (character :: ·)
    else (balancedFrom depth inString false rest).map (character :: ·)

def extractJsonPayload (response : String) : Option PyDict :=
  let text := (pyStrip (unwrapCliEnvelope loads response)).toList
  if text = [] then none
  else
    (loadsDict loads text).or <| ((fencedBlock text).bind (loadsDict loads)).or <|
        (balancedFrom 0 false false
          (text.dropWhile fun character => character ≠ '\x7b')).bind (loadsDict loads)

end

/-! ## Schemas -/

/-- The types of `_TYPE_MAP` that the modelled schemas use. -/
inductive FieldType where
  | str
  | list
  deriving DecidableEq, Repr

def FieldType.name : FieldType → String
  | .str => "str"
  | .list => "list"

/-- `isinstance`. -/
def FieldType.accepts : FieldType → PyValue → Bool
  | .str, .str _ => true
  | .list, .list _ => true
  | _, _ => false

/-- `type(value).__name__`. -/
def typeName : PyValue → String
  | .none => "NoneType"
  | .bool _ => "bool"
  | .int _ => "int"
  | .float _ => "float"
  | .str _ => "str"
  | .list _ => "list"
  | .dict _ => "dict"

structure OutputSchema where
  required : List String
  types : List (String × FieldType)
  allowedValues : List (String × List String) := []
  deriving Repr

def validateAgainstSchema (parsed : PyDict) (schema : OutputSchema) : List String :=
  ((schema.required.filter fun field => !parsed.contains field).map fun field =>
    "missing required field: " ++ field) ++
  (schema.types.filterMap fun (field, type) =>
    if parsed.contains field ∧ ¬ type.accepts (parsed.get field) then
      some ("field " ++ field ++ " expected " ++ type.name ++ ", got " ++
        typeName (parsed.get field))
    else none) ++
  (schema.allowedValues.filterMap fun (field, choices) =>
    if parsed.contains field ∧ ¬ choices.any (fun choice => (parsed.get field).isText choice) then
      some ("field " ++ field ++ " must be one of " ++
        (PyValue.list (choices.map .str)).repr ++ ", got " ++ (parsed.get field).repr)
    else none)

/-! ## Invocations -/

structure Skill where
  name : String
  buildPrompt : PyDict → Except PyError String
  parseResponse : String → Except PyError PyDict
  validateOutput : PyDict → Except PyError (Bool × List String)

structure SkillResult where
  skillName : String
  success : Bool
  output : PyDict := []
  rawResponse : String := ""
  errors : List String := []
  deriving Repr

/-- `invoke_skill`. The model's answer to a prompt is a response or the text
of an `LLMExecutionError`. -/
def invokeSkill (skill : Skill) (inputs : PyDict)
    (answer : String → Except String String) : Except PyError SkillResult := do
  let prompt ← skill.buildPrompt inputs
  match answer prompt with
  | .error text =>
    return {
      skillName := skill.name
      success := false
      errors := ["llm_execution_failed: " ++ text] }
  | .ok response =>
    match skill.parseResponse response with
    | .error error =>
      return {
        skillName := skill.name
        success := false
        rawResponse := response
        errors := ["parse_failed: " ++ error.text] }
    | .ok parsed => do
        let (ok, errors) ← skill.validateOutput parsed
        return {
          skillName := skill.name
          success := ok
          output := parsed
          rawResponse := response
          errors }

end Skills

end AccruviaHarness
