import Mathlib.Data.List.Basic
import Mathlib.Data.List.DropRight
import Mathlib.Data.List.Forall2

/-!
# Python values that come out of JSON

The columns `metadata_json`, `details_json` and their like hold JSON objects.
-/

namespace AccruviaHarness

open List

/-- A value built by `json.loads`. A float is kept as its `repr`, which
determines it. -/
inductive PyValue where
  | none
  | bool (value : Bool)
  | int (value : Int)
  | float (repr : String)
  | str (text : String)
  | list (items : List PyValue)
  | dict (entries : List (String × PyValue))
  deriving Inhabited, Repr

inductive PyError where
  | valueError (message : String)
  | typeError (message : String)
  | attributeError (message : String)
  | keyError (key : String)
  | runtimeError (message : String)
  | integrityError (message : String)
  /-- An `OSError` of the named call. -/
  | osError (call : String)
  /-- A command that `check=True` found to have failed. -/
  | calledProcessError (command : String)
  /-- A command that was stopped by its `timeout`. -/
  | timeoutExpired (command : String)
  deriving DecidableEq, Repr

abbrev PyDict := List (String × PyValue)

namespace PyValue

def truthy : PyValue → Bool
  | .none => false
  | .bool value => value
  | .int value => value != 0
  | .float repr => repr != "0.0" && repr != "-0.0"
  | .str text => text != ""
  | .list items => !items.isEmpty
  | .dict entries => !entries.isEmpty

/-- `first or second`. -/
def orValue (first second : PyValue) : PyValue := if first.truthy then first else second

/-- The escape sequence of a character inside a `repr` in the given quotes.
Only the ASCII control characters are escaped by code. -/
def escapeChar (quote character : Char) : List Char :=
  if character = quote then ['\\', character]
  else if character = '\\' then ['\\', '\\']
  else if character = '\n' then ['\\', 'n']
  else if character = '\r' then ['\\', 'r']
  else if character = '\t' then ['\\', 't']
  else if character.toNat < 32 ∨ character.toNat = 127 then
    let digits := Nat.toDigits 16 character.toNat
    ['\\', 'x'] ++ List.replicate (2 - digits.length) '0' ++ digits
  else [character]

/-- `repr` of a text: single quotes unless only single quotes occur in it. -/
def reprText (text : String) : String :=
  let characters := text.toList
  let quote := if '\'' ∈ characters ∧ '"' ∉ characters then '"' else '\''
  String.ofList (quote :: characters.flatMap (escapeChar quote) ++ [quote])

mutual

def repr : PyValue → String
  | .none => "None"
  | .bool true => "True"
  | .bool false => "False"
  | .int value => toString value
  | .float text => text
  | .str text => reprText text
  | .list items => "[" ++ ", ".intercalate (reprItems items) ++ "]"
  | .dict entries => "\x7b" ++ ", ".intercalate (reprEntries entries) ++ "\x7d"

def reprItems : List PyValue → List String
  | [] => []
  | item :: items => item.repr :: reprItems items

def reprEntries : List (String × PyValue) → List String
  | [] => []
  | (key, value) :: entries => (reprText key ++ ": " ++ value.repr) :: reprEntries entries

end

/-- Python's `str`: a text is itself, any other value its `repr`. -/
def toStr : PyValue → String
  | .str text => text
  | value => value.repr

/-- Python's `list`: a text gives its characters, an object its keys. The
other types are not iterable. -/
def toList : PyValue → Except PyError (List PyValue)
  | .list items => .ok items
  | .dict entries => .ok (entries.map fun entry => .str entry.1)
  | .str text => .ok (text.toList.map fun character => .str character.toString)
  | .none => .error (.typeError "'NoneType' object is not iterable")
  | .bool _ => .error (.typeError "'bool' object is not iterable")
  | .int _ => .error (.typeError "'int' object is not iterable")
  | .float _ => .error (.typeError "'float' object is not iterable")

/-- `str(value or "")`. -/
def orEmpty (value : PyValue) : String := if value.truthy then value.toStr else ""

/-- `value == text` for a text constant. -/
def isText (value : PyValue) (text : String) : Bool :=
  match value with
  | .str found => found == text
  | _ => false

/-- `isinstance(value, dict)`, with the object. -/
def asDict : PyValue → Option PyDict
  | .dict entries => some entries
  | _ => Option.none

/-- `value.get`, which only an object has. -/
def requireDict : PyValue → Except PyError PyDict
  | .dict entries => .ok entries
  | .list _ => .error (.attributeError "'list' object has no attribute 'get'")
  | .str _ => .error (.attributeError "'str' object has no attribute 'get'")
  | .none => .error (.attributeError "'NoneType' object has no attribute 'get'")
  | .bool _ => .error (.attributeError "'bool' object has no attribute 'get'")
  | .int _ => .error (.attributeError "'int' object has no attribute 'get'")
  | .float _ => .error (.attributeError "'float' object has no attribute 'get'")

@[simp]
theorem toStr_str (text : String) : (PyValue.str text).toStr = text := rfl

end PyValue

namespace PyDict

variable (entries : PyDict) (key : String)

def get : PyValue :=
  match entries.find? fun entry => entry.1 = key with
  | some entry => entry.2
  | none => .none

/-- `entries[key] = value`: a new key goes to the end. -/
def set (value : PyValue) : PyDict :=
  if entries.any fun entry => entry.1 = key then
    entries.map fun entry => if entry.1 = key then (key, value) else entry
  else entries ++ [(key, value)]

def update (entries items : PyDict) : PyDict :=
  items.foldl (fun updated item => updated.set item.1 item.2) entries

/-- `str(entries.get(key) or "")`. -/
def getStr : String := (entries.get key).orEmpty

/-- `list(entries.get(key) or [])`. -/
def getList : Except PyError (List PyValue) :=
  if (entries.get key).truthy then (entries.get key).toList else .ok []

/-- The pair that an item of a list given to `dict` stands for. A key that is
no text is represented by its `str`. -/
def pairOf (item : PyValue) (index : Nat) : Except PyError (String × PyValue) :=
  match item.toList with
  | .error _ =>
    .error <| .typeError <| "cannot convert dictionary update sequence element #" ++
        toString index ++ " to a sequence"
  | .ok [.list _, _] => .error (.typeError "unhashable type: 'list'")
  | .ok [.dict _, _] => .error (.typeError "unhashable type: 'dict'")
  | .ok [key, value] => .ok (key.toStr, value)
  | .ok items =>
    .error <| .valueError <| "dictionary update sequence element #" ++ toString index ++
        " has length " ++ toString items.length ++ "; 2 is required"

/-- Python's `dict`: an object is copied, a list of pairs becomes one. -/
def ofValue : PyValue → Except PyError PyDict
  | .dict entries => .ok entries
  | value => do
      let items ← value.toList
      let pairs ← items.zipIdx.mapM fun (item, index) => pairOf item index
      return update [] pairs

/-- `dict(entries.get(key) or {})`. -/
def getDict : Except PyError PyDict :=
  if (entries.get key).truthy then ofValue (entries.get key) else .ok []

def setDefault (value : PyValue) : PyDict :=
  if entries.any fun entry => entry.1 = key then entries
  else entries ++ [(key, value)]

@[simp]
theorem get_nil : PyDict.get [] key = .none := rfl

theorem get_set (key wanted : String) (value : PyValue) :
    (entries.set key value).get wanted =
      if wanted = key then value else entries.get wanted := by
  unfold set
  by_cases present : entries.any (fun entry => entry.1 = key) = true
  · rw [if_pos present]
    have sameKeys : ((fun entry : String × PyValue => decide (entry.1 = wanted))
        ∘ fun entry => if entry.1 = key then (key, value) else entry) =
          fun entry => decide (entry.1 = wanted) := by
      funext entry
      by_cases own : entry.1 = key
      · simp [own]
      · simp [own]
    unfold get
    rw [find?_map, sameKeys]
    cases found : entries.find? fun entry => entry.1 = wanted with
    | none =>
      have other : wanted ≠ key := by
        rintro rfl
        obtain ⟨entry, member, own⟩ := any_eq_true.mp present
        exact find?_eq_none.mp found entry member own
      simp [other]
    | some entry =>
      have own : entry.1 = wanted := by simpa using find?_some found
      by_cases same : wanted = key
      · simp [own, same]
      · simp [own, same]
  · rw [if_neg present]
    unfold get
    rw [find?_append]
    by_cases same : wanted = key
    · subst same
      have missing : (entries.find? fun entry => entry.1 = wanted) = none := by
        apply find?_eq_none.mpr
        intro entry member own
        exact present (any_eq_true.mpr ⟨entry, member, own⟩)
      simp [missing]
    · simp [same, Ne.symm same]

end PyDict

variable (entries : PyDict) (key : String)

/-- `entries[key]`. -/
def PyDict.require : Except PyError PyValue :=
  match entries.find? fun entry => entry.1 = key with
  | some entry => .ok entry.2
  | none => .error (.keyError key)

/-- `entries.get(key, default)`. -/
def PyDict.getD (default : PyValue) :
    PyValue :=
  match entries.find? fun entry => entry.1 = key with
  | some entry => entry.2
  | none => default

/-- `int(value)`. What it makes of a text or of a float is left out: no
modelled function writes a number as one of these. -/
def PyValue.toInt : PyValue → Except PyError Int
  | .int value => .ok value
  | .bool value => .ok (if value then 1 else 0)
  | .float repr => .error (.valueError repr)
  | .str text => .error (.valueError text)
  | .none => .error (.typeError (noNumber "NoneType"))
  | .list _ => .error (.typeError (noNumber "list"))
  | .dict _ => .error (.typeError (noNumber "dict"))
where
  noNumber (type : String) : String :=
    "int() argument must be a string, a bytes-like object or a real number, " ++
      "not '" ++ type ++ "'"

/-- `list(entries.get(key, []))`, as a loop goes over it. -/
def PyDict.iterate : Except PyError (List PyValue) :=
  if entries.any fun entry => entry.1 = key then (entries.get key).toList
  else .ok []

/-- `str(exc)`. -/
def PyError.text : PyError → String
  | .valueError message => message
  | .typeError message => message
  | .attributeError message => message
  | .keyError key => PyValue.reprText key
  | .runtimeError message => message
  | .integrityError message => message
  | .osError call => call
  | .calledProcessError command => command
  | .timeoutExpired command => command

variable {Error Item Row : Type} {check : Item → Except Error Row}
  {items : List Item}

variable {First Result : Type} {rows : List Row} {characters core : List Char}

theorem ok_bind (value : First) (rest : First → Except Error Result) :
    (.ok value >>= rest) = rest value := rfl

theorem exists_of_bind_ok {first : Except Error First}
    {rest : First → Except Error Result} {result : Result}
    (returned : (first >>= rest) = .ok result) :
    ∃ value, first = .ok value ∧ rest value = .ok result := by
  cases first with
  | error _ => cases returned
  | ok value => exact ⟨value, rfl, returned⟩

theorem forall₂_of_mapM_ok (checked : items.mapM check = .ok rows) :
    List.Forall₂ (fun item row => check item = .ok row) items rows := by
  induction items generalizing rows with
  | nil =>
    cases checked
    exact .nil
  | cons item items ih =>
    rw [mapM_cons] at checked
    cases here : check item with
    | error _ =>
      rw [here] at checked
      cases checked
    | ok _ =>
      rw [here] at checked
      cases later : items.mapM check with
      | error _ =>
        rw [later] at checked
        cases checked
      | ok _ =>
        rw [later] at checked
        cases checked
        exact .cons here (ih later)

theorem exists_mapM_ok (checked : ∀ item ∈ items, ∃ row, check item = .ok row) :
    ∃ rows, items.mapM check = .ok rows := by
  induction items with
  | nil => exact ⟨[], rfl⟩
  | cons _ _ ih =>
    rw [forall_mem_cons] at checked
    obtain ⟨⟨row, here⟩, later⟩ := checked
    obtain ⟨rows, restChecked⟩ := ih later
    refine ⟨row :: rows, ?_⟩
    rw [mapM_cons, here, ok_bind, restChecked]
    rfl

theorem mapM_eq_ok {value : Item → Row} (checks : ∀ item ∈ items, check item = .ok (value item)) :
    items.mapM check = .ok (items.map value) := by
  induction items with
  | nil => rfl
  | cons _ _ ih =>
    obtain ⟨first, others⟩ := forall_mem_cons.mp checks
    rw [mapM_cons, first, ih others]
    rfl

theorem mem_of_mapM_ok (checked : items.mapM check = .ok rows) :
    (∀ row ∈ rows, ∃ item ∈ items, check item = .ok row) ∧
      ∀ item ∈ items, ∃ row ∈ rows, check item = .ok row := by
  have pairs := forall₂_of_mapM_ok checked
  clear checked
  induction pairs with
  | nil => exact ⟨nofun, nofun⟩
  | cons here _ ih =>
    simp only [mem_cons, exists_eq_or_imp, forall_eq_or_imp]
    obtain ⟨rowsOf, itemsOf⟩ := ih
    exact ⟨⟨.inl here, fun row member => .inr (rowsOf row member)⟩,
      .inl here, fun item member => .inr (itemsOf item member)⟩

/-- The characters that `str.strip` removes. -/
def isPyWhitespace (character : Char) : Bool :=
  let code := character.toNat
  (9 ≤ code && code ≤ 13) || (28 ≤ code && code ≤ 32) || code == 0x85 ||
    code == 0xa0 || code == 0x1680 || (0x2000 ≤ code && code ≤ 0x200a) ||
    code == 0x2028 || code == 0x2029 || code == 0x202f || code == 0x205f ||
    code == 0x3000

/-- `str.strip()`. -/
def pyStrip (text : String) : String :=
  let leading := text.toList.dropWhile isPyWhitespace
  String.ofList (leading.reverse.dropWhile isPyWhitespace).reverse

theorem dropWhile_of_visible
    (visible : ∀ character ∈ characters, isPyWhitespace character = false) :
    characters.dropWhile isPyWhitespace = characters := by
  cases characters with
  | nil => rfl
  | cons first _ =>
    have here := visible first mem_cons_self
    rw [dropWhile_cons_of_neg (by simp [here])]

theorem pyStrip_of_visible {text : String}
    (visible : ∀ character ∈ text.toList, isPyWhitespace character = false) :
    pyStrip text = text := by
  unfold pyStrip
  dsimp only
  rw [dropWhile_of_visible visible, dropWhile_of_visible, reverse_reverse, String.ofList_toList]
  intro character member
  exact visible character (mem_reverse.mp member)

theorem dropWhile_append_of_visible {core : List Char} (nonempty : core ≠ [])
    (starts : ∀ character ∈ core.head?, isPyWhitespace character = false)
    (front : List Char) :
    (front ++ core).dropWhile isPyWhitespace = front.dropWhile isPyWhitespace ++ core := by
  have kept : core.dropWhile isPyWhitespace = core := by
    obtain ⟨first, _, rfl⟩ := exists_cons_of_ne_nil nonempty
    rw [dropWhile_cons_of_neg (by simp [starts first rfl])]
  rw [dropWhile_append, kept]
  split_ifs with blank
  · rw [isEmpty_iff.mp blank, nil_append]
  · rfl

theorem pyStrip_around (nonempty : core ≠ [])
    (starts : ∀ character ∈ core.head?, isPyWhitespace character = false)
    (ends : ∀ character ∈ core.getLast?, isPyWhitespace character = false)
    (front back : List Char) :
    pyStrip (String.ofList (front ++ (core ++ back))) =
      String.ofList (front.dropWhile isPyWhitespace ++
        (core ++ (back.reverse.dropWhile isPyWhitespace).reverse)) := by
  have leading :
      (front ++ (core ++ back)).dropWhile isPyWhitespace =
        front.dropWhile isPyWhitespace ++ (core ++ back) := by
    refine dropWhile_append_of_visible (append_ne_nil_of_left_ne_nil
      nonempty back) (fun character member => starts character ?_) front
    rwa [head?_append_of_ne_nil _ nonempty] at member
  have mirrored :
      (front.dropWhile isPyWhitespace ++ (core ++ back)).reverse = back.reverse ++
          (core.reverse ++ (front.dropWhile isPyWhitespace).reverse) := by
    simp
  have trailing := @dropWhile_append_of_visible
    (core.reverse ++ (front.dropWhile isPyWhitespace).reverse)
    (append_ne_nil_of_left_ne_nil (by simpa using nonempty) _)
    (fun character member => ends character (by
      rwa [head?_append_of_ne_nil _ (by simpa using nonempty),
        head?_reverse] at member)) back.reverse
  unfold pyStrip
  simp only [String.toList_ofList, leading]
  rw [mirrored, trailing]
  simp

theorem pyStrip_of_core {text : String} {front back : List Char}
    (shape : text.toList = front ++ (core ++ back)) (nonempty : core ≠ [])
    (starts : ∀ character ∈ core.head?, isPyWhitespace character = false)
    (ends : ∀ character ∈ core.getLast?, isPyWhitespace character = false) :
    (pyStrip text).toList = front.dropWhile isPyWhitespace ++
        (core ++ (back.reverse.dropWhile isPyWhitespace).reverse) := by
  rw [← String.ofList_toList (s := text), shape,
    pyStrip_around nonempty starts ends, String.toList_ofList]

theorem pyStrip_pyStrip (text : String) : pyStrip (pyStrip text) = pyStrip text := by
  let leading := text.toList.dropWhile isPyWhitespace
  have shape : pyStrip text = String.ofList (leading.rdropWhile isPyWhitespace) := rfl
  rw [shape]
  unfold pyStrip
  simp only [String.toList_ofList]
  have starts :
      (leading.rdropWhile isPyWhitespace).dropWhile isPyWhitespace =
        leading.rdropWhile isPyWhitespace := by
    cases kept : leading.rdropWhile isPyWhitespace with
    | nil => rfl
    | cons first _ =>
      obtain ⟨_, whole⟩ := leading.rdropWhile_prefix isPyWhitespace
      have headed : leading.head? = some first := by
        rw [← whole, kept]
        rfl
      have visible := head?_dropWhile_not isPyWhitespace text.toList
      rw [show text.toList.dropWhile isPyWhitespace = leading from rfl, headed] at visible
      exact dropWhile_cons_of_neg (by simpa using visible)
  rw [starts]
  exact congrArg String.ofList (rdropWhile_idempotent _ leading)

theorem mem_of_mem_pyStrip {text : String} {character : Char}
    (member : character ∈ (pyStrip text).toList) :
    character ∈ text.toList := by
  unfold pyStrip at member
  rw [String.toList_ofList, mem_reverse] at member
  have trailing := mem_reverse.mp ((dropWhile_sublist isPyWhitespace).mem member)
  exact (dropWhile_sublist isPyWhitespace).mem trailing

theorem not_mem_of_mem_splitOn {separator : Char} {piece : List Char}
    (member : piece ∈ characters.splitOn separator) : separator ∉ piece := by
  induction characters generalizing piece with
  | nil =>
    rw [splitOn_nil, mem_singleton] at member
    simp [member]
  | cons character rest ih =>
    rw [splitOn_cons_eq_if_modifyHead] at member
    obtain ⟨first, _, split⟩ := exists_cons_of_ne_nil (splitOn_ne_nil separator rest)
    rw [split] at member ih
    by_cases same : character = separator
    · rw [if_pos (by simpa using same), mem_cons] at member
      rcases member with rfl | later
      · simp
      · exact ih later
    · rw [if_neg (by simpa using same), modifyHead_cons, mem_cons] at member
      rcases member with rfl | later
      · have clean := ih mem_cons_self
        simp [clean, Ne.symm same]
      · exact ih (mem_cons_of_mem first later)

/-- `str.rstrip()`. -/
def pyRstrip (text : String) : String :=
  String.ofList (text.toList.reverse.dropWhile isPyWhitespace).reverse

/-- `str.lower()` on the ASCII letters. -/
def lowerAscii (text : String) : String := String.ofList (text.toList.map Char.toLower)

/-!
## The repr of a text

Two texts with the same `repr` are the same: each escape sequence is read back
as the character it stands for.
-/

namespace PyValue

def hexDigit (digit : Char) : Nat := if digit.isDigit then digit.toNat - 48 else digit.toNat - 87

/-- The character that an escape sequence or a plain character stands for, and
the rest of the text. -/
def readEscape : List Char → Option (Char × List Char)
  | [] => Option.none
  | '\\' :: 'x' :: high :: low :: rest =>
    some (Char.ofNat (16 * hexDigit high + hexDigit low), rest)
  | '\\' :: 'n' :: rest => some ('\n', rest)
  | '\\' :: 'r' :: rest => some ('\r', rest)
  | '\\' :: 't' :: rest => some ('\t', rest)
  | '\\' :: character :: rest => some (character, rest)
  | character :: rest => some (character, rest)

def hexCode : List Char → Option Nat
  | [high, low] => some (16 * hexDigit high + hexDigit low)
  | _ => Option.none

theorem hexCode_padded (code : Fin 128) (control : code.val < 32 ∨ code.val = 127) :
    hexCode (List.replicate (2 - (Nat.toDigits 16 code.val).length) '0' ++
      Nat.toDigits 16 code.val) = some code.val := by
  revert code
  decide

theorem readEscape_hex {digits : List Char} {code : Nat} (read : hexCode digits = some code)
    (rest : List Char) :
    readEscape ('\\' :: 'x' :: (digits ++ rest)) = some (Char.ofNat code, rest) := by
  unfold hexCode at read
  split at read
  next high low =>
    cases read
    rfl
  · cases read

theorem readEscape_escapeChar
    {quote : Char} (isQuote : quote = '\'' ∨ quote = '"')
    (character : Char) (rest : List Char) :
    readEscape (escapeChar quote character ++ rest) = some (character, rest) := by
  unfold escapeChar
  split
  next same =>
    subst same
    rcases isQuote with rfl | rfl
    · rfl
    · rfl
  · split
    next same =>
      subst same
      rfl
    next noBackslash =>
      split
      next same =>
        subst same
        rfl
      · split
        next same =>
          subst same
          rfl
        · split
          next same =>
            subst same
            rfl
          · split
            next control =>
              have bound : character.toNat < 128 := by omega
              have padded := hexCode_padded ⟨character.toNat, bound⟩ control
              have read := readEscape_hex padded rest
              rw [Char.ofNat_toNat] at read
              rw [append_assoc, append_assoc]
              rw [append_assoc] at read
              exact read
            · unfold readEscape
              split
              all_goals simp_all

theorem flatMap_escapeChar_injective
    {quote : Char} (isQuote : quote = '\'' ∨ quote = '"') :
    ∀ {first second : List Char},
      first.flatMap (escapeChar quote) = second.flatMap (escapeChar quote) →
        first = second := by
  intro first
  induction first with
  | nil =>
    intro second same
    cases second with
    | nil => rfl
    | cons character rest =>
      have read := readEscape_escapeChar isQuote character (rest.flatMap (escapeChar quote))
      rw [← flatMap_cons, ← same] at read
      cases read
  | cons character rest ih =>
    intro second same
    have read := readEscape_escapeChar isQuote character (rest.flatMap (escapeChar quote))
    rw [← flatMap_cons, same] at read
    cases second with
    | nil => cases read
    | cons _ _ =>
      rw [flatMap_cons, readEscape_escapeChar isQuote] at read
      obtain ⟨sameCharacter, sameRest⟩ := Prod.mk.inj (Option.some.inj read)
      rw [sameCharacter, ih sameRest.symm]

theorem reprText_injective {first second : String} (same : reprText first = reprText second) :
    first = second := by
  unfold reprText at same
  have characters := congrArg String.toList same
  rw [String.toList_ofList, String.toList_ofList] at characters
  obtain ⟨sameQuote, sameBody⟩ := List.cons.inj characters
  rw [sameQuote] at sameBody
  have sameTexts := flatMap_escapeChar_injective (by split <;> simp) (append_cancel_right sameBody)
  exact String.toList_injective sameTexts

end PyValue

end AccruviaHarness
