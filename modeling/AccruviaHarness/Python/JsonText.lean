import AccruviaHarness.Python.Value
import Mathlib.Data.List.Sort
import Mathlib.Data.String.Basic

/-!
# JSON texts

`json.dumps` with its default separators and `json.loads`, on texts given by
their characters. Python writes ASCII only, on one line.
-/

namespace AccruviaHarness

namespace PyJson

/-! ## Writing -/

/-- `\uXXXX`. -/
def unicodeEscape (code : Nat) : List Char :=
  ['\\', 'u', Nat.digitChar (code / 4096 % 16), Nat.digitChar (code / 256 % 16),
    Nat.digitChar (code / 16 % 16), Nat.digitChar (code % 16)]

/-- `ESCAPE_ASCII`: a character beyond the first plane is written as a
surrogate pair. -/
def escapeCharacter (character : Char) : List Char :=
  if character = '"' then ['\\', '"']
  else if character = '\\' then ['\\', '\\']
  else if character = '\n' then ['\\', 'n']
  else if character = '\r' then ['\\', 'r']
  else if character = '\t' then ['\\', 't']
  else if character = '\x0c' then ['\\', 'f']
  else if character = '\x08' then ['\\', 'b']
  else if 32 ≤ character.toNat ∧ character.toNat < 127 then [character]
  else if character.toNat < 0x10000 then unicodeEscape character.toNat
  else
    unicodeEscape (0xd800 + (character.toNat - 0x10000) / 1024) ++
      unicodeEscape (0xdc00 + (character.toNat - 0x10000) % 1024)

def encodeString (text : String) : List Char := '"' :: text.toList.flatMap escapeCharacter ++ ['"']

/-- A float is written as its `repr`, with JavaScript's names for those that
are not finite. -/
def encodeFloat (repr : String) : List Char :=
  if repr = "nan" then "NaN".toList
  else if repr = "inf" then "Infinity".toList
  else if repr = "-inf" then "-Infinity".toList
  else repr.toList

mutual

def dumps : PyValue → List Char
  | .none => "null".toList
  | .bool true => "true".toList
  | .bool false => "false".toList
  | .int value => (toString value).toList
  | .float repr => encodeFloat repr
  | .str text => encodeString text
  | .list [] => ['[', ']']
  | .list (item :: items) => '[' :: (dumps item ++ dumpItems items)
  | .dict [] => ['\x7b', '\x7d']
  | .dict ((key, value) :: entries) =>
    '\x7b' :: (encodeString key ++ ':' :: ' ' :: (dumps value ++ dumpEntries entries))

def dumpItems : List PyValue → List Char
  | [] => [']']
  | item :: items => ',' :: ' ' :: (dumps item ++ dumpItems items)

def dumpEntries : List (String × PyValue) → List Char
  | [] => ['\x7d']
  | (key, value) :: entries =>
    ',' :: ' ' :: (encodeString key ++ ':' :: ' ' :: (dumps value ++ dumpEntries entries))

end

def sortByKey (entries : PyDict) : PyDict :=
  entries.insertionSort fun first second => first.1 ≤ second.1

mutual

def sortKeys : PyValue → PyValue
  | .list items => .list (sortItems items)
  | .dict entries => .dict (sortByKey (sortEntries entries))
  | value => value

def sortItems : List PyValue → List PyValue
  | [] => []
  | item :: items => sortKeys item :: sortItems items

def sortEntries : List (String × PyValue) → List (String × PyValue)
  | [] => []
  | (key, value) :: entries => (key, sortKeys value) :: sortEntries entries

end

/-- `json.dumps(value, sort_keys=True)`. -/
def dumpsSorted (value : PyValue) : List Char := dumps (sortKeys value)

/-! ## Reading -/

def isSpace (character : Char) : Bool :=
  character = ' ' || character = '\t' || character = '\n' ||
    character = '\r'

def skipSpace (text : List Char) : List Char := text.dropWhile isSpace

def hexValue (character : Char) : Option Nat :=
  if '0' ≤ character ∧ character ≤ '9' then some (character.toNat - '0'.toNat)
  else if 'a' ≤ character ∧ character ≤ 'f' then some (character.toNat - 'a'.toNat + 10)
  else if 'A' ≤ character ∧ character ≤ 'F' then some (character.toNat - 'A'.toNat + 10)
  else none

/-- The four hexadecimal digits of a `\u` escape. -/
def scanUnicode : List Char → Option (Nat × List Char)
  | first :: second :: third :: fourth :: rest => do
      let first ← hexValue first
      let second ← hexValue second
      let third ← hexValue third
      let fourth ← hexValue fourth
      some (4096 * first + 256 * second + 16 * third + fourth, rest)
  | _ => none

/-- `BACKSLASH`. -/
def unescape (character : Char) : Option Char :=
  if character = '"' then some '"'
  else if character = '\\' then some '\\'
  else if character = '/' then some '/'
  else if character = 'b' then some '\x08'
  else if character = 'f' then some '\x0c'
  else if character = 'n' then some '\n'
  else if character = 'r' then some '\r'
  else if character = 't' then some '\t'
  else none

/-- The character that a `\u` escape stands for. Python also reads a surrogate
that is in no pair, of which no text consists here. -/
def scanEscape (text : List Char) : Option (Char × List Char) := do
  let (code, rest) ← scanUnicode text
  if 0xd800 ≤ code ∧ code < 0xdc00 then
    match rest with
    | '\\' :: 'u' :: rest => do
        let (low, rest) ← scanUnicode rest
        if 0xdc00 ≤ low ∧ low < 0xe000 then
          some (Char.ofNat (0x10000 + 1024 * (code - 0xd800) + (low - 0xdc00)), rest)
        else none
    | _ => none
  else if 0xdc00 ≤ code ∧ code < 0xe000 then none
  else some (Char.ofNat code, rest)

def scanCharacter : List Char → Option (Char × List Char)
  | [] => none
  | character :: rest =>
    if character = '\\' then
      match rest with
      | [] => none
      | escape :: rest =>
        if escape = 'u' then scanEscape rest
        else (unescape escape).map fun read => (read, rest)
    else if character.toNat < 32 then none
    else some (character, rest)

def scanString : Nat → List Char → Option (List Char × List Char)
  | 0, _ => none
  | _ + 1, [] => none
  | fuel + 1, character :: rest =>
    if character = '"' then some ([], rest)
    else do
      let (read, rest) ← scanCharacter (character :: rest)
      let (text, rest) ← scanString fuel rest
      some (read :: text, rest)

def isDigits (digits : List Char) : Bool := !digits.isEmpty && digits.all Char.isDigit

/-- `([eE][-+]?[0-9]+)?`, to the end of the text. -/
def isExponent : List Char → Bool
  | [] => true
  | mark :: rest =>
    (mark = 'e' || mark = 'E') &&
      match rest with
      | '-' :: digits => isDigits digits
      | '+' :: digits => isDigits digits
      | digits => isDigits digits

/-- `(\.[0-9]+)?([eE][-+]?[0-9]+)?`, to the end of the text. -/
def isFraction : List Char → Bool
  | '.' :: rest =>
    isDigits (rest.takeWhile Char.isDigit) && isExponent (rest.dropWhile Char.isDigit)
  | rest => isExponent rest

/-- `0|[1-9][0-9]*`. -/
def isWhole : List Char → Bool
  | [] => false
  | first :: rest => first.isDigit && (first ≠ '0' || rest.isEmpty)

def readNumber (negative : Bool) (lexeme unsigned : List Char) : Option PyValue :=
  let whole := unsigned.takeWhile Char.isDigit
  let rest := unsigned.dropWhile Char.isDigit
  if !isWhole whole then none
  else if rest.isEmpty then
    let magnitude : Int := Nat.ofDigitChars 10 whole 0
    some (.int (if negative then -magnitude else magnitude))
  else if isFraction rest then some (.float (String.ofList lexeme))
  else none

variable (lexeme : List Char)

/-- `NUMBER_RE`, on a whole lexeme. -/
def scanNumber : Option PyValue :=
  match lexeme with
  | '-' :: unsigned => readNumber true lexeme unsigned
  | unsigned => readNumber false lexeme unsigned

def readAtom : Option PyValue :=
  if lexeme = "null".toList then some .none
  else if lexeme = "true".toList then some (.bool true)
  else if lexeme = "false".toList then some (.bool false)
  else if lexeme = "NaN".toList then some (.float "nan")
  else if lexeme = "Infinity".toList then some (.float "inf")
  else if lexeme = "-Infinity".toList then some (.float "-inf")
  else scanNumber lexeme

def isAtomCharacter (character : Char) : Bool :=
  character.isAlphanum || character = '-' || character = '+' ||
    character = '.'

mutual

def scanOnce : Nat → List Char → Option (PyValue × List Char)
  | 0, _ => none
  | _ + 1, [] => none
  | fuel + 1, first :: rest =>
    if first = '"' then do
      let (text, rest) ← scanString fuel rest
      some (.str (String.ofList text), rest)
    else if first = '[' then
      if (skipSpace rest).head? = some ']' then some (.list [], (skipSpace rest).tail)
      else do
        let (items, rest) ← scanItems fuel (skipSpace rest)
        some (.list items, rest)
    else if first = '\x7b' then
      if (skipSpace rest).head? = some '\x7d' then some (.dict [], (skipSpace rest).tail)
      else do
        let (entries, rest) ← scanEntries fuel (skipSpace rest)
        some (.dict (PyDict.update [] entries), rest)
    else do
      let value ← readAtom ((first :: rest).takeWhile isAtomCharacter)
      some (value, (first :: rest).dropWhile isAtomCharacter)

/-- `JSONArray`, from the first item. -/
def scanItems : Nat → List Char → Option (List PyValue × List Char)
  | 0, _ => none
  | fuel + 1, text => do
      let (item, rest) ← scanOnce fuel text
      match skipSpace rest with
      | [] => none
      | mark :: rest =>
        if mark = ']' then some ([item], rest)
        else if mark = ',' then do
          let (items, rest) ← scanItems fuel (skipSpace rest)
          some (item :: items, rest)
        else none

/-- `JSONObject`, from the first key. -/
def scanEntries : Nat → List Char → Option (List (String × PyValue) × List Char)
  | 0, _ => none
  | _ + 1, [] => none
  | fuel + 1, quote :: rest =>
    if quote = '"' then do
      let (key, rest) ← scanString fuel rest
      match skipSpace rest with
      | [] => none
      | colon :: rest =>
        if colon = ':' then do
          let (value, rest) ← scanOnce fuel (skipSpace rest)
          match skipSpace rest with
          | [] => none
          | mark :: rest =>
            if mark = '\x7d' then some ([(String.ofList key, value)], rest)
            else if mark = ',' then do
              let (entries, rest) ← scanEntries fuel (skipSpace rest)
              some ((String.ofList key, value) :: entries, rest)
            else none
        else none
    else none

end

def loads (text : List Char) : Option PyValue := do
  let (value, rest) ← scanOnce (text.length + 1) (skipSpace text)
  if (skipSpace rest).isEmpty then some value else none

/-! ## Layouts -/

/-- The space that `json.dumps` writes behind an opening bracket, behind a
comma and before a closing bracket, by the depth of the items. -/
structure Layout where
  opening : Nat → List Char
  between : Nat → List Char
  closing : Nat → List Char
  blank : ∀ depth, ∀ character ∈
    opening depth ++ between depth ++ closing depth, isSpace character = true

/-- `indent=None`. -/
def Layout.compact : Layout where
  opening _ := []
  between _ := [' ']
  closing _ := []
  blank := by simp [isSpace]

def newlineIndent (indent depth : Nat) : List Char := '\n' :: List.replicate (indent * depth) ' '

/-- `json.dumps(value, indent=indent)` ends each line behind the comma. -/
def Layout.indented (indent : Nat) : Layout where
  opening := newlineIndent indent
  between := newlineIndent indent
  closing depth := newlineIndent indent (depth - 1)
  blank depth character member := by
    simp only [newlineIndent, List.mem_append, List.mem_cons, List.mem_replicate] at member
    rcases member with
      ((rfl | ⟨_, rfl⟩) | (rfl | ⟨_, rfl⟩)) | (rfl | ⟨_, rfl⟩) <;> rfl

mutual

/-- `_iterencode` in a layout, for a value inside of `depth` brackets. -/
def write (layout : Layout) (depth : Nat) : PyValue → List Char
  | .list (item :: items) =>
    '[' :: (layout.opening (depth + 1) ++
      (write layout (depth + 1) item ++ writeItems layout (depth + 1) items))
  | .dict ((key, value) :: entries) =>
    '\x7b' :: (layout.opening (depth + 1) ++ (encodeString key ++ ':' :: ' ' ::
      (write layout (depth + 1) value ++ writeEntries layout (depth + 1) entries)))
  | value => dumps value

def writeItems (layout : Layout) (depth : Nat) : List PyValue → List Char
  | [] => layout.closing depth ++ [']']
  | item :: items =>
    ',' :: (layout.between depth ++ (write layout depth item ++ writeItems layout depth items))

def writeEntries (layout : Layout) (depth : Nat) :
    List (String × PyValue) → List Char
  | [] => layout.closing depth ++ ['\x7d']
  | (key, value) :: entries =>
    ',' :: (layout.between depth ++ (encodeString key ++ ':' :: ' ' ::
      (write layout depth value ++ writeEntries layout depth entries)))

end

example :
    (loads "\x7b\"a\": [1, -2.5e3, \"\\u00e9\\n\"], \"b\": null\x7d\n".toList).map dumps =
      some "\x7b\"a\": [1, -2.5e3, \"\\u00e9\\n\"], \"b\": null\x7d".toList := by
  decide +kernel

end PyJson

end AccruviaHarness
