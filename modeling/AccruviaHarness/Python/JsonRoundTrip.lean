import AccruviaHarness.Python.JsonText
import Mathlib.Data.List.TakeWhile

/-!
# What is written as JSON is read back

`json.loads` inverts `json.dumps` on every value that JSON can hold, and no
part of a written object that lacks its end is read at all.
-/

namespace AccruviaHarness

open List

namespace PyJson

/-! ## Texts -/

theorem hexValue_digitChar : ∀ digit < 16, hexValue (Nat.digitChar digit) = some digit := by decide

theorem scanUnicode_unicodeEscape {code : Nat} (bounded : code < 0x10000) (rest : List Char) :
    scanUnicode ((unicodeEscape code).drop 2 ++ rest) = some (code, rest) := by
  have first := hexValue_digitChar (code / 4096 % 16) (Nat.mod_lt _ (by simp))
  have second := hexValue_digitChar (code / 256 % 16) (Nat.mod_lt _ (by simp))
  have third := hexValue_digitChar (code / 16 % 16) (Nat.mod_lt _ (by simp))
  have fourth := hexValue_digitChar (code % 16) (Nat.mod_lt _ (by simp))
  have value :
      4096 * (code / 4096 % 16) + 256 * (code / 256 % 16) +
        16 * (code / 16 % 16) + code % 16 = code := by
    omega
  simp [unicodeEscape, scanUnicode, first, second, third, fourth, value]

theorem not_surrogate (character : Char) : character.toNat < 0xd800 ∨ 0xe000 ≤ character.toNat := by
  rcases character.valid with low | ⟨high, _⟩
  · exact .inl low
  · exact .inr high

theorem toNat_lt (character : Char) : character.toNat < 0x110000 := by
  rcases character.valid with low | ⟨_, bounded⟩
  · exact Nat.lt_trans low (by simp)
  · exact bounded

variable {character first : Char} {text rest left : List Char} {fuel more : Nat}
  {value : PyValue} {items : List PyValue} {entries : List (String × PyValue)}

theorem scanEscape_plain (small : character.toNat < 0x10000) (rest : List Char) :
    scanEscape ((unicodeEscape character.toNat).drop 2 ++ rest) = some (character, rest) := by
  have noHigh : ¬ (0xd800 ≤ character.toNat ∧ character.toNat < 0xdc00) := by
    have := not_surrogate character
    omega
  have noLow : ¬ (0xdc00 ≤ character.toNat ∧ character.toNat < 0xe000) := by
    have := not_surrogate character
    omega
  unfold scanEscape
  simp only [scanUnicode_unicodeEscape small, Option.bind_eq_bind, Option.bind_some]
  rw [if_neg noHigh, if_neg noLow, Char.ofNat_toNat]

theorem scanEscape_of_pair {high low : Nat}
    (first : scanUnicode text = some (high, '\\' :: 'u' :: rest))
    (second : scanUnicode rest = some (low, left))
    (isHigh : 0xd800 ≤ high ∧ high < 0xdc00)
    (isLow : 0xdc00 ≤ low ∧ low < 0xe000) :
    scanEscape text = some (Char.ofNat (0x10000 + 1024 * (high - 0xd800) + (low - 0xdc00)),
        left) := by
  unfold scanEscape
  simp only [first, second, Option.bind_eq_bind, Option.bind_some, if_pos isHigh, if_pos isLow]

theorem scanEscape_pair (large : 0x10000 ≤ character.toNat) (rest : List Char) :
    scanEscape ((unicodeEscape (0xd800 + (character.toNat - 0x10000) / 1024)).drop 2 ++
          (unicodeEscape (0xdc00 + (character.toNat - 0x10000) % 1024) ++ rest)) =
      some (character, rest) := by
  have bounded := toNat_lt character
  generalize highCode : 0xd800 + (character.toNat - 0x10000) / 1024 = high
  generalize lowCode : 0xdc00 + (character.toNat - 0x10000) % 1024 = low
  have isHigh : 0xd800 ≤ high ∧ high < 0xdc00 := by omega
  have isLow : 0xdc00 ≤ low ∧ low < 0xe000 := by omega
  have joined : 0x10000 + 1024 * (high - 0xd800) + (low - 0xdc00) = character.toNat := by omega
  have first := scanUnicode_unicodeEscape
    (Nat.lt_trans isHigh.2 (by simp)) (unicodeEscape low ++ rest)
  have second := scanUnicode_unicodeEscape (Nat.lt_trans isLow.2 (by simp)) rest
  rw [scanEscape_of_pair first second isHigh isLow, joined, Char.ofNat_toNat]

theorem scanCharacter_escapeCharacter (character : Char) (rest : List Char) :
    scanCharacter (escapeCharacter character ++ rest) = some (character, rest) := by
  unfold escapeCharacter
  by_cases quote : character = '"'
  · subst quote
    rfl
  by_cases backslash : character = '\\'
  · subst backslash
    rfl
  by_cases newline : character = '\n'
  · subst newline
    rfl
  by_cases carriage : character = '\r'
  · subst carriage
    rfl
  by_cases tab : character = '\t'
  · subst tab
    rfl
  by_cases feed : character = '\x0c'
  · subst feed
    rfl
  by_cases backspace : character = '\x08'
  · subst backspace
    rfl
  rw [if_neg quote, if_neg backslash, if_neg newline, if_neg carriage,
    if_neg tab, if_neg feed, if_neg backspace]
  by_cases printable : 32 ≤ character.toNat ∧ character.toNat < 127
  · rw [if_pos printable]
    have large : ¬ character.toNat < 32 := by omega
    simp [scanCharacter, backslash, large]
  rw [if_neg printable]
  by_cases small : character.toNat < 0x10000
  · rw [if_pos small]
    exact scanEscape_plain small rest
  · rw [if_neg small, append_assoc]
    exact scanEscape_pair (by omega) rest

theorem escapeCharacter_eq_cons (character : Char) :
    ∃ first rest, escapeCharacter character = first :: rest ∧ first ≠ '"' := by
  unfold escapeCharacter
  by_cases quote : character = '"'
  · rw [if_pos quote]
    exact ⟨_, _, rfl, by decide⟩
  rw [if_neg quote]
  split_ifs
  all_goals first
    | exact ⟨_, _, rfl, by decide⟩
    | exact ⟨_, _, rfl, quote⟩

theorem scanString_flatMap (text rest : List Char) (enough : text.length < fuel) :
    scanString fuel (text.flatMap escapeCharacter ++ '"' :: rest) =
      some (text, rest) := by
  induction text generalizing fuel with
  | nil =>
    obtain ⟨less, rfl⟩ := Nat.exists_eq_succ_of_ne_zero (Nat.ne_of_gt enough)
    rfl
  | cons character text ih =>
    obtain ⟨_, rfl⟩ := Nat.exists_eq_succ_of_ne_zero (Nat.ne_zero_of_lt enough)
    have later := ih (Nat.lt_of_succ_lt_succ enough)
    have here := scanCharacter_escapeCharacter character
      (text.flatMap escapeCharacter ++ '"' :: rest)
    obtain ⟨_, _, escaped, open_⟩ := escapeCharacter_eq_cons character
    rw [flatMap_cons, append_assoc]
    rw [escaped, cons_append] at here ⊢
    simp only [scanString, if_neg open_, here, later, Option.bind_eq_bind, Option.bind_some]

theorem length_flatMap_escapeCharacter (text : List Char) :
    text.length ≤ (text.flatMap escapeCharacter).length := by
  induction text with
  | nil => exact Nat.le_refl _
  | cons character _ _ =>
    obtain ⟨_, _, escaped, _⟩ := escapeCharacter_eq_cons character
    simp only [flatMap_cons, escaped, length_append, length_cons]
    omega

def Separated (rest : List Char) : Prop :=
  ∀ character ∈ rest.head?, isAtomCharacter character = false

/-- The `repr` of a float: read as a number, it gives the float back. -/
def IsFloatRepr (repr : String) : Prop :=
  readAtom (encodeFloat repr) = some (.float repr) ∧
    ∀ character ∈ encodeFloat repr, isAtomCharacter character = true

mutual

def Encodable : PyValue → Prop
  | .float repr => IsFloatRepr repr
  | .list items => EncodableItems items
  | .dict entries => (entries.map Prod.fst).Nodup ∧ EncodableEntries entries
  | _ => True

def EncodableItems : List PyValue → Prop
  | [] => True
  | item :: items => Encodable item ∧ EncodableItems items

def EncodableEntries : List (String × PyValue) → Prop
  | [] => True
  | (_, value) :: entries => Encodable value ∧ EncodableEntries entries

end

/-! ## Constants and numbers -/

theorem takeWhile_of_separated (separated : Separated rest) :
    rest.takeWhile isAtomCharacter = [] := by
  cases rest with
  | nil => rfl
  | cons first _ =>
    have other := separated first rfl
    simp [other]

theorem dropWhile_of_separated (separated : Separated rest) :
    rest.dropWhile isAtomCharacter = rest := by
  cases rest with
  | nil => rfl
  | cons first _ =>
    have other := separated first rfl
    simp [other]

theorem scanOnce_atom {lexeme : List Char} (known : readAtom lexeme = some value)
    (nonempty : lexeme ≠ [])
    (atoms : ∀ character ∈ lexeme, isAtomCharacter character = true)
    (separated : Separated rest) (fuel : Nat) :
    scanOnce (fuel + 1) (lexeme ++ rest) = some (value, rest) := by
  obtain ⟨first, others, rfl⟩ := exists_cons_of_ne_nil nonempty
  have isAtom := atoms first mem_cons_self
  have noQuote : first ≠ '"' := by
    rintro rfl
    exact absurd isAtom (by decide)
  have noBracket : first ≠ '[' := by
    rintro rfl
    exact absurd isAtom (by decide)
  have noBrace : first ≠ '\x7b' := by
    rintro rfl
    exact absurd isAtom (by decide)
  have taken :
      (first :: others ++ rest).takeWhile isAtomCharacter =
        first :: others := by
    rw [takeWhile_append_of_pos atoms, takeWhile_of_separated separated, append_nil]
  have left : (first :: others ++ rest).dropWhile isAtomCharacter = rest := by
    rw [dropWhile_append_of_pos atoms, dropWhile_of_separated separated]
  rw [cons_append] at taken left ⊢
  simp only [scanOnce, if_neg noQuote, if_neg noBracket, if_neg noBrace, taken,
    left, known, Option.bind_eq_bind, Option.bind_some]

theorem head_toDigits_ne_zero {number : Nat} (positive : 0 < number) :
    (Nat.toDigits 10 number).head? ≠ some '0' := by
  induction number using Nat.strongRecOn with
  | _ number ih =>
    rw [Nat.toDigits_eq_if (by simp)]
    split
    next small =>
      have listed : ∀ digit < 10, 0 < digit → Nat.digitChar digit ≠ '0' := by decide
      simpa using listed number small positive
    next large =>
      have smaller : number / 10 < number := Nat.div_lt_self positive (by simp)
      have nonzero : 0 < number / 10 := Nat.div_pos (by omega) (by simp)
      have later := ih (number / 10) smaller nonzero
      rw [head?_append_of_ne_nil _ Nat.toDigits_ne_nil]
      exact later

variable (number : Nat)

theorem isWhole_toDigits : isWhole (Nat.toDigits 10 number) = true := by
  rcases Nat.eq_zero_or_pos number with rfl | positive
  · rfl
  have head := head_toDigits_ne_zero positive
  have digits : ∀ character ∈ Nat.toDigits 10 number,
      character.isDigit = true :=
    fun character member => Nat.isDigit_of_mem_toDigits (by simp) (by simp) member
  cases shape : Nat.toDigits 10 number with
  | nil => exact absurd shape Nat.toDigits_ne_nil
  | cons first _ =>
    rw [shape] at head digits
    have isDigit := digits first mem_cons_self
    have nonzero : first ≠ '0' := fun zero => head (by rw [zero]; rfl)
    simp [isWhole, isDigit, nonzero]

theorem readNumber_toDigits (negative : Bool) (lexeme : List Char) (number : Nat) :
    readNumber negative lexeme (Nat.toDigits 10 number) =
      some (.int (if negative then -(number : Int) else number)) := by
  have digits : ∀ character ∈ Nat.toDigits 10 number,
      character.isDigit = true :=
    fun character member => Nat.isDigit_of_mem_toDigits (by simp) (by simp) member
  have taken := takeWhile_eq_self_iff.mpr digits
  have left := dropWhile_eq_nil_iff.mpr digits
  unfold readNumber
  simp [taken, left, isWhole_toDigits, Nat.ofDigitChars_ten_toDigits]

theorem toList_toString_ofNat : (toString (number : Int)).toList = Nat.toDigits 10 number :=
  Nat.toList_repr

theorem toList_toString_negSucc :
    (toString (Int.negSucc number)).toList = '-' :: Nat.toDigits 10 (number + 1) := by
  have shown : toString (Int.negSucc number) = "-" ++ (number + 1).repr := rfl
  rw [shown, String.toList_append, Nat.toList_repr]
  rfl

theorem readAtom_toString (value : Int) :
    readAtom (toString value).toList = some (.int value) ∧ (toString value).toList ≠ [] ∧
      ∀ character ∈ (toString value).toList, isAtomCharacter character = true := by
  have digitAtom : ∀ {character : Char} {number : Nat}, character ∈ Nat.toDigits 10 number →
        character.isDigit = true ∧ isAtomCharacter character = true := by
    intro character number member
    have digit : character.isDigit = true := Nat.isDigit_of_mem_toDigits (by simp) (by simp) member
    exact ⟨digit, by simp [isAtomCharacter, Char.isAlphanum, digit]⟩
  have noConstant : ∀ (number : Nat) (constant : List Char),
      (∃ character ∈ constant, character.isDigit = false) → Nat.toDigits 10 number ≠ constant := by
    rintro number _ ⟨character, member, other⟩ same
    rw [← same] at member
    rw [(digitAtom member).1] at other
    cases other
  cases value with
  | ofNat number =>
    have shown := toList_toString_ofNat number
    rw [Int.ofNat_eq_natCast, shown]
    refine ⟨?_, Nat.toDigits_ne_nil, fun character member => (digitAtom member).2⟩
    have unsigned :
        scanNumber (Nat.toDigits 10 number) = readNumber false (Nat.toDigits 10 number)
            (Nat.toDigits 10 number) := by
      unfold scanNumber
      split
      next rest minus =>
        have member : '-' ∈ Nat.toDigits 10 number := by
          rw [minus]
          exact mem_cons_self
        exact absurd (digitAtom member).1 (by decide)
      · rfl
    unfold readAtom
    rw [if_neg (noConstant number _ ⟨'n', by decide, by decide⟩),
      if_neg (noConstant number _ ⟨'t', by decide, by decide⟩),
      if_neg (noConstant number _ ⟨'f', by decide, by decide⟩),
      if_neg (noConstant number _ ⟨'N', by decide, by decide⟩),
      if_neg (noConstant number _ ⟨'I', by decide, by decide⟩),
      if_neg (noConstant number _ ⟨'I', by decide, by decide⟩),
      unsigned, readNumber_toDigits]
    rfl
  | negSucc number =>
    rw [toList_toString_negSucc]
    refine ⟨?_, cons_ne_nil _ _, ?_⟩
    · have noInfinity : '-' :: Nat.toDigits 10 (number + 1) ≠ "-Infinity".toList := by
        intro same
        exact noConstant (number + 1) "Infinity".toList
          ⟨'I', by decide, by decide⟩ (List.cons.inj same).2
      unfold readAtom
      rw [if_neg (by intro same; exact absurd (List.cons.inj same).1 (by decide)),
        if_neg (by intro same; exact absurd (List.cons.inj same).1 (by decide)),
        if_neg (by intro same; exact absurd (List.cons.inj same).1 (by decide)),
        if_neg (by intro same; exact absurd (List.cons.inj same).1 (by decide)),
        if_neg (by intro same; exact absurd (List.cons.inj same).1 (by decide)),
        if_neg noInfinity]
      have opened :
          scanNumber ('-' :: Nat.toDigits 10 (number + 1)) =
            readNumber true ('-' :: Nat.toDigits 10 (number + 1))
              (Nat.toDigits 10 (number + 1)) := rfl
      rw [opened, readNumber_toDigits]
      rfl
    · intro character member
      rcases mem_cons.mp member with rfl | member
      · decide
      · exact (digitAtom member).2

/-! ## Values -/

theorem scanString_encodeString (text : String) (rest : List Char)
    (enough : (encodeString text).length ≤ fuel + 1) :
    scanString fuel
        (text.toList.flatMap escapeCharacter ++ '"' :: rest) =
      some (text.toList, rest) := by
  apply scanString_flatMap
  have longer := length_flatMap_escapeCharacter text.toList
  simp only [encodeString, length_cons, length_append, length_nil] at enough
  omega

theorem encodeString_append (text : String) (rest : List Char) :
    encodeString text ++ rest = '"' :: (text.toList.flatMap escapeCharacter ++ '"' :: rest) := by
  simp [encodeString]

mutual

theorem write_compact :
    ∀ (depth : Nat) (value : PyValue), write .compact depth value = dumps value
  | _, .none => rfl
  | _, .bool _ => rfl
  | _, .int _ => rfl
  | _, .float _ => rfl
  | _, .str _ => rfl
  | _, .list [] => rfl
  | depth, .list (item :: items) => by
      rw [write, dumps, write_compact _ item, writeItems_compact _ items]
      rfl
  | _, .dict [] => rfl
  | depth, .dict ((key, value) :: entries) => by
      rw [write, dumps, write_compact _ value, writeEntries_compact _ entries]
      rfl

theorem writeItems_compact :
    ∀ (depth : Nat) (items : List PyValue), writeItems .compact depth items = dumpItems items
  | _, [] => rfl
  | depth, item :: items => by
      rw [writeItems, dumpItems, write_compact _ item, writeItems_compact _ items]
      rfl

theorem writeEntries_compact :
    ∀ (depth : Nat) (entries : List (String × PyValue)),
      writeEntries .compact depth entries = dumpEntries entries
  | _, [] => rfl
  | depth, (key, value) :: entries => by
      rw [writeEntries, dumpEntries, write_compact _ value, writeEntries_compact _ entries]
      rfl

end

theorem isSpace_of_isAtomCharacter (atom : isAtomCharacter character = true) :
    isSpace character = false := by
  cases space : isSpace character with
  | false => rfl
  | true =>
    simp only [isSpace, Bool.or_eq_true, decide_eq_true_eq] at space
    rcases space with ((rfl | rfl) | rfl) | rfl
    all_goals exact absurd atom (by decide)

theorem skipSpace_cons (visible : isSpace first = false) (rest : List Char) :
    skipSpace (first :: rest) = first :: rest := by
  simp [skipSpace, visible]

theorem separated_cons (other : isAtomCharacter first = false) (rest : List Char) :
    Separated (first :: rest) := by
  rintro _ member
  cases member
  exact other

section

variable (layout : Layout) (depth : Nat)

theorem blank_opening : ∀ character ∈ layout.opening depth, isSpace character = true :=
  fun character member => layout.blank depth character (by simp [member])

theorem blank_between : ∀ character ∈ layout.between depth, isSpace character = true :=
  fun character member => layout.blank depth character (by simp [member])

theorem blank_closing : ∀ character ∈ layout.closing depth, isSpace character = true :=
  fun character member => layout.blank depth character (by simp [member])

theorem skipSpace_append_of_blank
    {gap : List Char} (blank : ∀ character ∈ gap, isSpace character = true)
    (rest : List Char) :
    skipSpace (gap ++ rest) = skipSpace rest :=
  dropWhile_append_of_pos blank

theorem separated_of_blank {gap : List Char} (blank : ∀ character ∈ gap, isSpace character = true)
    (separated : Separated rest) :
    Separated (gap ++ rest) := by
  cases gap with
  | nil => exact separated
  | cons space _ =>
    apply separated_cons
    cases atom : isAtomCharacter space with
    | false => rfl
    | true =>
      have isBlank := blank space mem_cons_self
      rw [isSpace_of_isAtomCharacter atom] at isBlank
      cases isBlank

theorem write_shape (encodable : Encodable value) :
    (readAtom (write layout depth value) = some value ∧ write layout depth value ≠ [] ∧
        ∀ character ∈ write layout depth value, isAtomCharacter character = true) ∨
      (∃ text, value = .str text) ∨ (∃ items, value = .list items) ∨
        ∃ entries, value = .dict entries := by
  cases value with
  | none => exact .inl ⟨rfl, cons_ne_nil _ _, all_eq_true.mp rfl⟩
  | bool truth =>
    cases truth with
    | true => exact .inl ⟨rfl, cons_ne_nil _ _, all_eq_true.mp rfl⟩
    | false => exact .inl ⟨rfl, cons_ne_nil _ _, all_eq_true.mp rfl⟩
  | int number => exact .inl (readAtom_toString number)
  | float repr =>
    have nonempty : encodeFloat repr ≠ [] := by
      intro empty
      have read := encodable.1
      rw [empty] at read
      cases read
    exact .inl ⟨encodable.1, nonempty, encodable.2⟩
  | str text => exact .inr (.inl ⟨text, rfl⟩)
  | list items => exact .inr (.inr (.inl ⟨items, rfl⟩))
  | dict entries => exact .inr (.inr (.inr ⟨entries, rfl⟩))

theorem write_eq_cons (encodable : Encodable value) :
    ∃ first rest, write layout depth value = first :: rest ∧
      isSpace first = false ∧ first ≠ ']' := by
  rcases write_shape layout depth encodable with
    ⟨_, nonempty, atoms⟩ | ⟨_, rfl⟩ | ⟨items, rfl⟩ | ⟨entries, rfl⟩
  · obtain ⟨first, rest, shape⟩ := exists_cons_of_ne_nil nonempty
    have atom := atoms first (by rw [shape]; exact mem_cons_self)
    refine ⟨first, rest, shape, isSpace_of_isAtomCharacter atom, ?_⟩
    rintro rfl
    exact absurd atom (by decide)
  · exact ⟨'"', _, rfl, rfl, by decide⟩
  · cases items with
    | nil => exact ⟨'[', _, rfl, rfl, by decide⟩
    | cons _ _ => exact ⟨'[', _, rfl, rfl, by decide⟩
  · cases entries with
    | nil => exact ⟨'\x7b', _, rfl, rfl, by decide⟩
    | cons _ _ => exact ⟨'\x7b', _, rfl, rfl, by decide⟩

theorem skipSpace_write (encodable : Encodable value) (rest : List Char) :
    skipSpace (write layout depth value ++ rest) = write layout depth value ++ rest := by
  obtain ⟨_, _, shape, visible, _⟩ := write_eq_cons layout depth encodable
  rw [shape, cons_append, skipSpace_cons visible]

theorem skipSpace_encodeString (key : String) (rest : List Char) :
    skipSpace (encodeString key ++ rest) = encodeString key ++ rest := by
  rw [encodeString_append]
  exact skipSpace_cons rfl _

theorem separated_writeItems (items : List PyValue) (rest : List Char) :
    Separated (writeItems layout depth items ++ rest) := by
  cases items with
  | nil =>
    rw [writeItems, append_assoc]
    exact separated_of_blank (blank_closing layout depth) (separated_cons rfl _)
  | cons _ _ => exact separated_cons rfl _

theorem separated_writeEntries (entries : List (String × PyValue)) (rest : List Char) :
    Separated (writeEntries layout depth entries ++ rest) := by
  cases entries with
  | nil =>
    rw [writeEntries, append_assoc]
    exact separated_of_blank (blank_closing layout depth) (separated_cons rfl _)
  | cons _ _ => exact separated_cons rfl _

end

theorem update_append {known entries : PyDict}
    (distinct : ((known ++ entries).map Prod.fst).Nodup) :
    PyDict.update known entries = known ++ entries := by
  induction entries generalizing known with
  | nil => simp [PyDict.update]
  | cons entry entries ih =>
    have fresh : (known.any fun row => row.1 = entry.1) = false := by
      rw [any_eq_false]
      intro row member same
      rw [map_append, nodup_append'] at distinct
      exact distinct.2.2 (mem_map_of_mem member) (by
          rw [of_decide_eq_true same]
          exact mem_cons_self)
    have added : PyDict.set known entry.1 entry.2 = known ++ [entry] := by simp [PyDict.set, fresh]
    have moved : known ++ entry :: entries = known ++ [entry] ++ entries := by simp
    have opened :
        PyDict.update known (entry :: entries) =
          PyDict.update (PyDict.set known entry.1 entry.2) entries := rfl
    rw [opened, added, moved]
    rw [moved] at distinct
    exact ih distinct

structure ScansUpTo (layout : Layout) (fuel : Nat) : Prop where
  value : ∀ depth value, Encodable value →
    (write layout depth value).length ≤ fuel → ∀ rest, Separated rest →
      scanOnce fuel (write layout depth value ++ rest) = some (value, rest)
  items : ∀ depth item items, Encodable item → EncodableItems items →
    (write layout depth item ++ writeItems layout depth items).length ≤ fuel →
      ∀ rest, scanItems fuel (write layout depth item ++ (writeItems layout depth items ++ rest)) =
          some (item :: items, rest)
  entries : ∀ depth key value entries, Encodable value → EncodableEntries entries →
      (encodeString key ++ (write layout depth value ++
        writeEntries layout depth entries)).length ≤ fuel →
      ∀ rest, scanEntries fuel (encodeString key ++ ':' :: ' ' :: (write layout depth value ++
              (writeEntries layout depth entries ++ rest))) =
          some ((key, value) :: entries, rest)

variable {layout : Layout} {depth : Nat}

theorem ScansUpTo.next_value (scans : ScansUpTo layout fuel) (encodable : Encodable value)
    (enough : (write layout depth value).length ≤ fuel + 1)
    (separated : Separated rest) :
    scanOnce (fuel + 1) (write layout depth value ++ rest) = some (value, rest) := by
  rcases write_shape layout depth encodable with
    ⟨known, nonempty, atoms⟩ | ⟨text, rfl⟩ | ⟨items, rfl⟩ | ⟨entries, rfl⟩
  · exact scanOnce_atom known nonempty atoms separated fuel
  · have shown : write layout depth (.str text) = encodeString text := rfl
    rw [shown] at enough ⊢
    rw [encodeString_append]
    simp [scanOnce, scanString_encodeString text rest enough]
  · cases items with
    | nil => rfl
    | cons item items =>
      obtain ⟨itemEncodable, itemsEncodable⟩ := encodable
      have shorter :
          (write layout (depth + 1) item ++ writeItems layout (depth + 1) items).length ≤ fuel := by
        simp only [write, length_cons, length_append] at enough ⊢
        omega
      have read := scans.items (depth + 1) item items itemEncodable itemsEncodable shorter rest
      have skipped :
          skipSpace (layout.opening (depth + 1) ++ (write layout (depth + 1) item ++
                (writeItems layout (depth + 1) items ++ rest))) =
            write layout (depth + 1) item ++ (writeItems layout (depth + 1) items ++ rest) := by
        rw [skipSpace_append_of_blank (blank_opening layout _),
          skipSpace_write layout _ itemEncodable]
      obtain ⟨_, _, shape, _, open_⟩ := write_eq_cons layout (depth + 1) itemEncodable
      have noEnd :
          (write layout (depth + 1) item ++
            (writeItems layout (depth + 1) items ++ rest)).head? ≠ some ']' := by
        rw [shape]
        simpa using open_
      simp only [write, cons_append, append_assoc, scanOnce]
      rw [if_neg (by decide), if_pos trivial, skipped, if_neg noEnd, read]
      rfl
  · cases entries with
    | nil => rfl
    | cons entry entries =>
      obtain ⟨key, value⟩ := entry
      obtain ⟨distinct, valueEncodable, entriesEncodable⟩ := encodable
      have shorter :
          (encodeString key ++ (write layout (depth + 1) value ++
            writeEntries layout (depth + 1) entries)).length ≤ fuel := by
        simp only [write, length_cons, length_append] at enough ⊢
        omega
      have read := scans.entries (depth + 1) key value entries valueEncodable
        entriesEncodable shorter rest
      simp only [write, cons_append, append_assoc, scanOnce]
      rw [if_neg (by decide), if_neg (by decide), if_pos trivial]
      rw [skipSpace_append_of_blank (blank_opening layout _), skipSpace_encodeString]
      have noEnd :
          (encodeString key ++ ':' :: ' ' :: (write layout (depth + 1) value ++
            (writeEntries layout (depth + 1) entries ++ rest))).head? ≠ some '\x7d' := by
        rw [encodeString_append]
        simp
      rw [if_neg noEnd, read]
      have object : PyDict.update [] ((key, value) :: entries) = (key, value) :: entries :=
        update_append distinct
      simp [object]

theorem ScansUpTo.next_items (scans : ScansUpTo layout fuel) {item : PyValue}
    (itemEncodable : Encodable item) (itemsEncodable : EncodableItems items)
    (enough : (write layout depth item ++ writeItems layout depth items).length ≤ fuel + 1)
    (rest : List Char) :
    scanItems (fuel + 1) (write layout depth item ++ (writeItems layout depth items ++ rest)) =
      some (item :: items, rest) := by
  have nonempty : 0 < (writeItems layout depth items).length := by cases items <;> simp [writeItems]
  rw [length_append] at enough
  have here := scans.value depth item itemEncodable (by omega)
    (writeItems layout depth items ++ rest)
    (separated_writeItems layout depth items rest)
  simp only [scanItems, here, Option.bind_eq_bind, Option.bind_some]
  cases items with
  | nil =>
    have closed : skipSpace (writeItems layout depth [] ++ rest) = ']' :: rest := by
      rw [writeItems, append_assoc, skipSpace_append_of_blank (blank_closing layout depth)]
      rfl
    rw [closed]
    rfl
  | cons following items =>
    obtain ⟨followingEncodable, othersEncodable⟩ := itemsEncodable
    have positive : 0 < (write layout depth item).length := by
      obtain ⟨_, _, shape, _⟩ := write_eq_cons layout depth itemEncodable
      simp [shape]
    have shorter :
        (write layout depth following ++ writeItems layout depth items).length ≤ fuel := by
      simp only [writeItems, length_cons, length_append] at enough ⊢
      omega
    have later := scans.items depth following items followingEncodable othersEncodable shorter rest
    have shown :
        writeItems layout depth (following :: items) ++ rest =
          ',' :: (layout.between depth ++ (write layout depth following ++
            (writeItems layout depth items ++ rest))) := by
      simp [writeItems]
    have skipped :
        skipSpace (layout.between depth ++ (write layout depth following ++
            (writeItems layout depth items ++ rest))) =
          write layout depth following ++ (writeItems layout depth items ++ rest) := by
      rw [skipSpace_append_of_blank (blank_between layout depth),
        skipSpace_write layout depth followingEncodable]
    rw [shown, skipSpace_cons rfl]
    simp [skipped, later]

theorem ScansUpTo.next_entries (scans : ScansUpTo layout fuel) {key : String}
    (valueEncodable : Encodable value)
    (entriesEncodable : EncodableEntries entries)
    (enough : (encodeString key ++ (write layout depth value ++
      writeEntries layout depth entries)).length ≤ fuel + 1)
    (rest : List Char) :
    scanEntries (fuel + 1) (encodeString key ++ ':' :: ' ' :: (write layout depth value ++
          (writeEntries layout depth entries ++ rest))) =
      some ((key, value) :: entries, rest) := by
  have nonempty : 0 < (writeEntries layout depth entries).length := by
    cases entries <;> simp [writeEntries]
  have keyNonempty : 0 < (encodeString key).length := by simp [encodeString]
  rw [length_append, length_append] at enough
  have keyRead := scanString_encodeString key (':' :: ' ' :: (write layout depth value ++
      (writeEntries layout depth entries ++ rest)))
    (show (encodeString key).length ≤ fuel + 1 by omega)
  have here := scans.value depth value valueEncodable (by omega)
    (writeEntries layout depth entries ++ rest)
    (separated_writeEntries layout depth entries rest)
  have skipped :
      skipSpace (' ' :: (write layout depth value ++ (writeEntries layout depth entries ++ rest))) =
        write layout depth value ++ (writeEntries layout depth entries ++ rest) :=
    skipSpace_write layout depth valueEncodable _
  have colon :
      skipSpace (':' :: ' ' :: (write layout depth value ++
          (writeEntries layout depth entries ++ rest))) =
        ':' :: ' ' :: (write layout depth value ++ (writeEntries layout depth entries ++ rest)) :=
    skipSpace_cons rfl _
  rw [encodeString_append]
  simp only [scanEntries, keyRead, colon, skipped, here, Option.bind_eq_bind,
    Option.bind_some, if_true]
  cases entries with
  | nil =>
    have closed : skipSpace (writeEntries layout depth [] ++ rest) = '\x7d' :: rest := by
      rw [writeEntries, append_assoc, skipSpace_append_of_blank (blank_closing layout depth)]
      rfl
    rw [closed]
    simp
  | cons following entries =>
    obtain ⟨followingKey, followingValue⟩ := following
    obtain ⟨followingEncodable, othersEncodable⟩ := entriesEncodable
    have shorter :
        (encodeString followingKey ++ (write layout depth followingValue ++
          writeEntries layout depth entries)).length ≤ fuel := by
      simp only [writeEntries, length_cons, length_append]
        at enough ⊢
      omega
    have later := scans.entries depth followingKey followingValue entries
      followingEncodable othersEncodable shorter rest
    have shown :
        writeEntries layout depth ((followingKey, followingValue) :: entries) ++ rest =
          ',' :: (layout.between depth ++ (encodeString followingKey ++ ':' ::
            ' ' :: (write layout depth followingValue ++
              (writeEntries layout depth entries ++ rest)))) := by
      simp [writeEntries]
    rw [shown, skipSpace_cons rfl]
    simp [skipSpace_append_of_blank (blank_between layout depth), skipSpace_encodeString, later]

theorem scansUpTo (layout : Layout) (fuel : Nat) : ScansUpTo layout fuel := by
  induction fuel with
  | zero =>
    refine ⟨fun depth value encodable enough => ?_, fun depth item items encodable _ enough => ?_,
      fun depth key value entries _ _ enough => ?_⟩
    · obtain ⟨first, rest, shape, _⟩ := write_eq_cons layout depth encodable
      rw [shape] at enough
      exact absurd enough (by simp)
    · obtain ⟨_, rest, shape, _⟩ := write_eq_cons layout depth encodable
      rw [shape] at enough
      exact absurd enough (by simp)
    · exact absurd enough (by simp [encodeString])
  | succ _ scans =>
    exact ⟨ fun _ _ encodable enough _ separated => scans.next_value encodable enough separated,
      fun _ _ _ itemEncodable itemsEncodable enough rest =>
        scans.next_items itemEncodable itemsEncodable enough rest,
      fun _ _ _ _ valueEncodable entriesEncodable enough rest =>
        scans.next_entries valueEncodable entriesEncodable enough rest⟩

theorem loads_write_append (layout : Layout) (encodable : Encodable value)
    (blank : ∀ character ∈ rest, isSpace character = true) :
    loads (write layout 0 value ++ rest) = some value := by
  have separated : Separated rest := by
    have alone := separated_of_blank blank (show Separated [] from fun _ member => nomatch member)
    rwa [append_nil] at alone
  have enough : (write layout 0 value).length ≤ (write layout 0 value ++ rest).length + 1 := by
    simp only [length_append]
    omega
  have read := (scansUpTo layout _).value 0 value encodable enough rest separated
  have skipped : skipSpace rest = [] := dropWhile_eq_nil_iff.mpr blank
  unfold loads
  simp only [skipSpace_write layout 0 encodable, read, skipped,
    Option.bind_eq_bind, Option.bind_some]
  rfl

theorem loads_dumps_append (encodable : Encodable value)
    (blank : ∀ character ∈ rest, isSpace character = true) :
    loads (dumps value ++ rest) = some value := by
  rw [← write_compact 0]
  exact loads_write_append .compact encodable blank

theorem scanOnce_dumps (encodable : Encodable value) (enough : (dumps value).length ≤ fuel)
    (separated : Separated rest) :
    scanOnce fuel (dumps value ++ rest) = some (value, rest) := by
  rw [← write_compact 0] at enough ⊢
  exact (scansUpTo .compact fuel).value 0 value encodable enough rest separated

theorem skipSpace_dumps (encodable : Encodable value) (rest : List Char) :
    skipSpace (dumps value ++ rest) = dumps value ++ rest := by
  rw [← write_compact 0]
  exact skipSpace_write .compact 0 encodable rest

theorem loads_dumps (encodable : Encodable value) : loads (dumps value) = some value := by
  have blank : ∀ character ∈ ([] : List Char), isSpace character = true := nofun
  have read := loads_dumps_append encodable blank
  rwa [append_nil] at read

/-! ## One line -/

def OneLine (text : List Char) : Prop := ∀ character ∈ text, 32 ≤ character.toNat

theorem oneLine_of_all (visible : (text.all fun character => 32 ≤ character.toNat) = true) :
    OneLine text :=
  fun character member => of_decide_eq_true (all_eq_true.mp visible character member)

theorem oneLine_nil : OneLine [] := fun _ member => absurd member not_mem_nil

theorem oneLine_append {first second : List Char} (firstLine : OneLine first)
    (secondLine : OneLine second) :
    OneLine (first ++ second) := by
  intro character member
  rcases mem_append.mp member with member | member
  · exact firstLine character member
  · exact secondLine character member

theorem oneLine_cons (printable : 32 ≤ first.toNat) (line : OneLine rest) :
    OneLine (first :: rest) := by
  intro character member
  rcases mem_cons.mp member with rfl | member
  · exact printable
  · exact line character member

theorem not_mem_of_oneLine (line : OneLine text) : '\n' ∉ text := by
  intro member
  exact absurd (line '\n' member) (by decide)

theorem toNat_of_isAtomCharacter (atom : isAtomCharacter character = true) :
    32 ≤ character.toNat := by
  have listed : ∀ code < 32, isAtomCharacter (Char.ofNat code) = false := by decide
  by_contra control
  have other := listed character.toNat (Nat.lt_of_not_le control)
  rw [Char.ofNat_toNat, atom] at other
  cases other

theorem oneLine_unicodeEscape (code : Nat) : OneLine (unicodeEscape code) := by
  have listed : ∀ digit < 16, 32 ≤ (Nat.digitChar digit).toNat := by decide
  have digit : ∀ number, 32 ≤ (Nat.digitChar (number % 16)).toNat :=
    fun number => listed _ (Nat.mod_lt _ (by simp))
  exact oneLine_cons (by decide) <| oneLine_cons (by decide) <|
    oneLine_cons (digit _) <| oneLine_cons (digit _) <|
      oneLine_cons (digit _) <| oneLine_cons (digit _) oneLine_nil

theorem oneLine_escapeCharacter (character : Char) : OneLine (escapeCharacter character) := by
  unfold escapeCharacter
  split_ifs with _ _ _ _ _ _ _ printable
  · exact oneLine_cons (by decide) (oneLine_cons (by decide) oneLine_nil)
  · exact oneLine_cons (by decide) (oneLine_cons (by decide) oneLine_nil)
  · exact oneLine_cons (by decide) (oneLine_cons (by decide) oneLine_nil)
  · exact oneLine_cons (by decide) (oneLine_cons (by decide) oneLine_nil)
  · exact oneLine_cons (by decide) (oneLine_cons (by decide) oneLine_nil)
  · exact oneLine_cons (by decide) (oneLine_cons (by decide) oneLine_nil)
  · exact oneLine_cons (by decide) (oneLine_cons (by decide) oneLine_nil)
  · exact oneLine_cons printable.1 oneLine_nil
  · exact oneLine_unicodeEscape _
  · exact oneLine_append (oneLine_unicodeEscape _) (oneLine_unicodeEscape _)

theorem oneLine_encodeString (text : String) : OneLine (encodeString text) := by
  apply oneLine_cons (by decide)
  apply oneLine_append ?_ (oneLine_cons (by decide) oneLine_nil)
  intro character member
  obtain ⟨source, _, escaped⟩ := mem_flatMap.mp member
  exact oneLine_escapeCharacter source character escaped

mutual

theorem oneLine_dumps : ∀ value, Encodable value → OneLine (dumps value)
  | .none, _ => oneLine_of_all rfl
  | .bool true, _ => oneLine_of_all rfl
  | .bool false, _ => oneLine_of_all rfl
  | .int number, _ => fun character member =>
    toNat_of_isAtomCharacter ((readAtom_toString number).2.2 character member)
  | .float _, encodable => fun character member =>
    toNat_of_isAtomCharacter (encodable.2 character member)
  | .str text, _ => oneLine_encodeString text
  | .list [], _ => oneLine_cons (by decide) (oneLine_cons (by decide) oneLine_nil)
  | .list (item :: items), ⟨itemEncodable, itemsEncodable⟩ =>
    oneLine_cons (by decide) <| oneLine_append (oneLine_dumps item itemEncodable)
        (oneLine_dumpItems items itemsEncodable)
  | .dict [], _ => oneLine_cons (by decide) (oneLine_cons (by decide) oneLine_nil)
  | .dict ((key, value) :: entries), ⟨_, valueEncodable, entriesEncodable⟩ =>
    oneLine_cons (by decide) <| oneLine_append (oneLine_encodeString key) <|
        oneLine_cons (by decide) <| oneLine_cons (by decide) <|
          oneLine_append (oneLine_dumps value valueEncodable)
            (oneLine_dumpEntries entries entriesEncodable)

theorem oneLine_dumpItems :
    ∀ items, EncodableItems items → OneLine (dumpItems items)
  | [], _ => oneLine_cons (by decide) oneLine_nil
  | item :: items, ⟨itemEncodable, itemsEncodable⟩ =>
    oneLine_cons (by decide) <| oneLine_cons (by decide) <|
      oneLine_append (oneLine_dumps item itemEncodable) (oneLine_dumpItems items itemsEncodable)

theorem oneLine_dumpEntries :
    ∀ entries, EncodableEntries entries → OneLine (dumpEntries entries)
  | [], _ => oneLine_cons (by decide) oneLine_nil
  | (key, value) :: entries, ⟨valueEncodable, entriesEncodable⟩ =>
    oneLine_cons (by decide) <| oneLine_cons (by decide) <|
      oneLine_append (oneLine_encodeString key) <|
        oneLine_cons (by decide) <| oneLine_cons (by decide) <|
          oneLine_append (oneLine_dumps value valueEncodable)
            (oneLine_dumpEntries entries entriesEncodable)

end

/-! ## Texts that lack their end -/

theorem scanUnicode_append {code : Nat}
    (read : scanUnicode text = some (code, left)) (further : List Char) :
    scanUnicode (text ++ further) = some (code, left ++ further) := by
  unfold scanUnicode at read
  split at read
  next first second third fourth rest =>
    simp only [Option.bind_eq_bind, Option.bind_eq_some_iff,
      Option.some.injEq, Prod.mk.injEq] at read
    obtain ⟨_, firstValue, _, secondValue, _, thirdValue, _, fourthValue,
      rfl, rfl⟩ := read
    simp [scanUnicode, firstValue, secondValue, thirdValue, fourthValue]
  · cases read

theorem scanEscape_append (read : scanEscape text = some (character, left)) (further : List Char) :
    scanEscape (text ++ further) = some (character, left ++ further) := by
  unfold scanEscape at read
  simp only [Option.bind_eq_bind, Option.bind_eq_some_iff] at read
  obtain ⟨⟨code, rest⟩, scanned, read⟩ := read
  have extended := scanUnicode_append scanned further
  by_cases high : 0xd800 ≤ code ∧ code < 0xdc00
  · rw [if_pos high] at read
    split at read
    next others shape =>
      rw [show rest = '\\' :: 'u' :: others from shape] at extended
      obtain ⟨⟨low, _⟩, lowScanned, read⟩ := Option.bind_eq_some_iff.mp read
      by_cases isLow : 0xdc00 ≤ low ∧ low < 0xe000
      · simp only [if_pos isLow, Option.some.injEq, Prod.mk.injEq] at read
        obtain ⟨joined, same⟩ := read
        rw [scanEscape_of_pair extended
          (scanUnicode_append lowScanned further) high isLow, joined, same]
      · simp only [if_neg isLow] at read
        cases read
    · cases read
  · rw [if_neg high] at read
    by_cases low : 0xdc00 ≤ code ∧ code < 0xe000
    · rw [if_pos low] at read
      cases read
    · rw [if_neg low] at read
      cases read
      unfold scanEscape
      simp only [extended, Option.bind_eq_bind, Option.bind_some]
      rw [if_neg high, if_neg low]

theorem scanCharacter_append (read : scanCharacter text = some (character, left))
    (further : List Char) :
    scanCharacter (text ++ further) = some (character, left ++ further) := by
  cases text with
  | nil => cases read
  | cons _ rest =>
    simp only [scanCharacter, cons_append] at read ⊢
    split_ifs at read ⊢ with backslash control
    · cases rest with
      | nil => cases read
      | cons _ _ =>
        simp only [cons_append] at read ⊢
        split_ifs at read ⊢ with unicode
        · exact scanEscape_append read further
        · obtain ⟨_, unescaped, same⟩ := Option.map_eq_some_iff.mp read
          cases same
          simp [unescaped]
    · cases read
      rfl

theorem scanString_append {read : List Char} (scanned : scanString fuel text = some (read, left))
    (enough : fuel ≤ more) (further : List Char) :
    scanString more (text ++ further) = some (read, left ++ further) := by
  induction fuel generalizing text read more with
  | zero => cases scanned
  | succ _ ih =>
    obtain ⟨_, rfl⟩ := Nat.exists_eq_succ_of_ne_zero (Nat.ne_zero_of_lt enough)
    cases text with
    | nil => cases scanned
    | cons _ rest =>
      simp only [scanString, cons_append] at scanned ⊢
      split_ifs at scanned ⊢ with quote
      · cases scanned
        rfl
      · simp only [Option.bind_eq_bind, Option.bind_eq_some_iff] at scanned
        obtain ⟨⟨_, _⟩, here, ⟨_, _⟩, others, same⟩ := scanned
        cases same
        have extended := scanCharacter_append here further
        rw [cons_append] at extended
        simp [extended, ih others (Nat.le_of_succ_le_succ enough)]

theorem skipSpace_append (visible : skipSpace text ≠ []) (further : List Char) :
    skipSpace (text ++ further) = skipSpace text ++ further := by
  unfold skipSpace at visible ⊢
  rw [dropWhile_append, if_neg (by simpa using visible)]

theorem takeWhile_append_of_stopped {holds : Char → Bool}
    (stopped : text.dropWhile holds ≠ []) (further : List Char) :
    (text ++ further).takeWhile holds = text.takeWhile holds := by
  induction text with
  | nil => exact absurd rfl stopped
  | cons first _ ih =>
    cases head : holds first with
    | false => simp [head]
    | true =>
      rw [dropWhile_cons_of_pos head] at stopped
      simp [head, ih stopped]

theorem scanOnce_nil (fuel : Nat) : scanOnce fuel [] = none := by cases fuel <;> rfl

theorem scanItems_nil (fuel : Nat) : scanItems fuel [] = none := by
  cases fuel with
  | zero => rfl
  | succ _ => simp [scanItems, scanOnce_nil]

theorem scanEntries_nil (fuel : Nat) : scanEntries fuel [] = none := by cases fuel <;> rfl

structure ReadsOn (fuel : Nat) : Prop where
  value : ∀ {text value left}, scanOnce fuel text = some (value, left) →
    left ≠ [] ∨ text.head? ∈ [some '"', some '[', some '\x7b'] →
      ∀ {more}, fuel ≤ more → ∀ further,
        scanOnce more (text ++ further) = some (value, left ++ further)
  items : ∀ {text items left}, scanItems fuel text = some (items, left) →
    ∀ {more}, fuel ≤ more → ∀ further,
      scanItems more (text ++ further) = some (items, left ++ further)
  entries : ∀ {text entries left}, scanEntries fuel text = some (entries, left) →
    ∀ {more}, fuel ≤ more → ∀ further,
      scanEntries more (text ++ further) = some (entries, left ++ further)

theorem ReadsOn.items_skipped (reads : ReadsOn fuel)
    (scanned : scanItems fuel (skipSpace text) = some (items, left))
    (enough : fuel ≤ more) (further : List Char) :
    scanItems more (skipSpace (text ++ further)) = some (items, left ++ further) := by
  have visible : skipSpace text ≠ [] := by
    intro blank
    rw [blank, scanItems_nil] at scanned
    cases scanned
  rw [skipSpace_append visible]
  exact reads.items scanned enough further

theorem ReadsOn.entries_skipped (reads : ReadsOn fuel)
    (scanned : scanEntries fuel (skipSpace text) = some (entries, left))
    (enough : fuel ≤ more) (further : List Char) :
    scanEntries more (skipSpace (text ++ further)) = some (entries, left ++ further) := by
  have visible : skipSpace text ≠ [] := by
    intro blank
    rw [blank, scanEntries_nil] at scanned
    cases scanned
  rw [skipSpace_append visible]
  exact reads.entries scanned enough further

theorem ReadsOn.next_items (reads : ReadsOn fuel)
    (scanned : scanItems (fuel + 1) text = some (items, left))
    (enough : fuel ≤ more) (further : List Char) :
    scanItems (more + 1) (text ++ further) = some (items, left ++ further) := by
  simp only [scanItems, Option.bind_eq_bind, Option.bind_eq_some_iff]
    at scanned
  obtain ⟨⟨_, rest⟩, here, scanned⟩ := scanned
  cases skipped : skipSpace rest with
  | nil =>
    simp only [skipped] at scanned
    cases scanned
  | cons mark others =>
    simp only [skipped] at scanned
    have nonempty : rest ≠ [] := by
      rintro rfl
      cases skipped
    have extended := reads.value here (.inl nonempty) enough further
    have moved : skipSpace (rest ++ further) = mark :: (others ++ further) := by
      rw [skipSpace_append (by simp [skipped]), skipped, cons_append]
    simp only [scanItems, extended, moved, Option.bind_eq_bind, Option.bind_some]
    split_ifs at scanned ⊢ with closing comma
    · cases scanned
      rfl
    · simp only [Option.bind_eq_some_iff] at scanned
      obtain ⟨⟨_, _⟩, others, same⟩ := scanned
      cases same
      rw [reads.items_skipped others enough further]
      rfl

theorem ReadsOn.next_entries (reads : ReadsOn fuel)
    (scanned : scanEntries (fuel + 1) text = some (entries, left))
    (enough : fuel ≤ more) (further : List Char) :
    scanEntries (more + 1) (text ++ further) = some (entries, left ++ further) := by
  cases text with
  | nil => cases scanned
  | cons _ rest =>
    simp only [scanEntries, cons_append] at scanned ⊢
    split_ifs at scanned ⊢
    simp only [Option.bind_eq_bind, Option.bind_eq_some_iff] at scanned
    obtain ⟨⟨_, rest⟩, keyRead, scanned⟩ := scanned
    cases skipped : skipSpace rest with
    | nil =>
      simp only [skipped] at scanned
      cases scanned
    | cons colon others =>
      simp only [skipped] at scanned
      have moved : skipSpace (rest ++ further) = colon :: (others ++ further) := by
        rw [skipSpace_append (by simp [skipped]), skipped, cons_append]
      simp only [scanString_append keyRead enough further, moved,
        Option.bind_eq_bind, Option.bind_some]
      split_ifs at scanned ⊢
      simp only [Option.bind_eq_some_iff] at scanned
      obtain ⟨⟨value, rest⟩, here, scanned⟩ := scanned
      have valueVisible : skipSpace others ≠ [] := by
        intro blank
        rw [blank, scanOnce_nil] at here
        cases here
      rw [skipSpace_append valueVisible]
      cases closing : skipSpace rest with
      | nil =>
        simp only [closing] at scanned
        cases scanned
      | cons mark others =>
        simp only [closing] at scanned
        have nonempty : rest ≠ [] := by
          rintro rfl
          cases closing
        have extended := reads.value here (.inl nonempty) enough further
        have later : skipSpace (rest ++ further) = mark :: (others ++ further) := by
          rw [skipSpace_append (by simp [closing]), closing, cons_append]
        simp only [extended, later, Option.bind_some]
        split_ifs at scanned ⊢
        · cases scanned
          rfl
        · simp only [Option.bind_eq_some_iff] at scanned
          obtain ⟨⟨_, _⟩, others, same⟩ := scanned
          cases same
          rw [reads.entries_skipped others enough further]
          rfl

theorem ReadsOn.next_value (reads : ReadsOn fuel)
    (scanned : scanOnce (fuel + 1) text = some (value, left))
    (ended : left ≠ [] ∨ text.head? ∈ [some '"', some '[', some '\x7b'])
    (enough : fuel ≤ more) (further : List Char) :
    scanOnce (more + 1) (text ++ further) = some (value, left ++ further) := by
  cases text with
  | nil => cases scanned
  | cons first rest =>
    simp only [scanOnce, cons_append] at scanned ⊢
    by_cases quote : first = '"'
    · rw [if_pos quote] at scanned ⊢
      simp only [Option.bind_eq_bind, Option.bind_eq_some_iff] at scanned
      obtain ⟨⟨read, left⟩, here, same⟩ := scanned
      cases same
      simp [scanString_append here enough further]
    rw [if_neg quote] at scanned ⊢
    have headOf : ∀ {mark : Char}, (skipSpace rest).head? = some mark →
        (skipSpace (rest ++ further)).head? = some mark ∧
          (skipSpace (rest ++ further)).tail = (skipSpace rest).tail ++ further := by
      intro mark closing
      have visible : skipSpace rest ≠ [] := by
        intro blank
        rw [blank] at closing
        cases closing
      rw [skipSpace_append visible]
      exact ⟨by rw [head?_append_of_ne_nil _ visible, closing], tail_append_of_ne_nil visible⟩
    have headSame : skipSpace rest ≠ [] →
        (skipSpace (rest ++ further)).head? = (skipSpace rest).head? := by
      intro visible
      rw [skipSpace_append visible, head?_append_of_ne_nil _ visible]
    by_cases bracket : first = '['
    · rw [if_pos bracket] at scanned ⊢
      by_cases closing : (skipSpace rest).head? = some ']'
      · rw [if_pos closing] at scanned
        cases scanned
        rw [if_pos (headOf closing).1, (headOf closing).2]
      · rw [if_neg closing] at scanned
        simp only [Option.bind_eq_bind, Option.bind_eq_some_iff] at scanned
        obtain ⟨⟨_, left⟩, here, same⟩ := scanned
        cases same
        have visible : skipSpace rest ≠ [] := by
          intro blank
          rw [blank, scanItems_nil] at here
          cases here
        rw [headSame visible, if_neg closing, reads.items_skipped here enough further]
        rfl
    rw [if_neg bracket] at scanned ⊢
    by_cases brace : first = '\x7b'
    · rw [if_pos brace] at scanned ⊢
      by_cases closing : (skipSpace rest).head? = some '\x7d'
      · rw [if_pos closing] at scanned
        cases scanned
        rw [if_pos (headOf closing).1, (headOf closing).2]
      · rw [if_neg closing] at scanned
        simp only [Option.bind_eq_bind, Option.bind_eq_some_iff] at scanned
        obtain ⟨⟨_, _⟩, here, same⟩ := scanned
        cases same
        have visible : skipSpace rest ≠ [] := by
          intro blank
          rw [blank, scanEntries_nil] at here
          cases here
        rw [headSame visible, if_neg closing, reads.entries_skipped here enough further]
        rfl
    rw [if_neg brace] at scanned ⊢
    simp only [Option.bind_eq_bind, Option.bind_eq_some_iff] at scanned
    obtain ⟨_, known, same⟩ := scanned
    cases same
    have nonempty : (first :: rest).dropWhile isAtomCharacter ≠ [] := by
      rcases ended with nonempty | marked
      · exact nonempty
      · simp [quote, bracket, brace] at marked
    rw [← cons_append, takeWhile_append_of_stopped nonempty, known,
      dropWhile_append, if_neg (by simpa using nonempty)]
    rfl

theorem readsOn (fuel : Nat) : ReadsOn fuel := by
  induction fuel with
  | zero => exact ⟨nofun, nofun, nofun⟩
  | succ fuel reads =>
    have positive : ∀ {more}, fuel + 1 ≤ more → ∃ less, more = less + 1 ∧ fuel ≤ less := by
      intro more enough
      exact ⟨more - 1, by omega, by omega⟩
    refine ⟨?_, ?_, ?_⟩
    · intro text value left scanned ended more enough further
      obtain ⟨less, rfl, lessEnough⟩ := positive enough
      exact reads.next_value scanned ended lessEnough further
    · intro text items left scanned more enough further
      obtain ⟨less, rfl, lessEnough⟩ := positive enough
      exact reads.next_items scanned lessEnough further
    · intro text entries left scanned more enough further
      obtain ⟨_, rfl, lessEnough⟩ := positive enough
      exact reads.next_entries scanned lessEnough further

theorem loads_eq_none_of_prefix {entries : PyDict} (encodable : Encodable (.dict entries))
    {part missing : List Char} (nonempty : missing ≠ [])
    (whole : part ++ missing = dumps (.dict entries)) :
    loads part = none := by
  cases read : loads part with
  | none => rfl
  | some value =>
    exfalso
    simp only [loads, Option.bind_eq_bind, Option.bind_eq_some_iff] at read
    obtain ⟨⟨value, left⟩, scanned, _⟩ := read
    have opened : ∃ rest, dumps (.dict entries) = '\x7b' :: rest := by
      cases entries with
      | nil => exact ⟨_, rfl⟩
      | cons _ _ => exact ⟨_, rfl⟩
    obtain ⟨_, opened⟩ := opened
    cases part with
    | nil =>
      rw [show skipSpace [] = [] from rfl, scanOnce_nil] at scanned
      cases scanned
    | cons first rest =>
      have brace : first = '\x7b' := by
        rw [opened] at whole
        exact (List.cons.inj whole).1
      subst brace
      rw [skipSpace_cons rfl] at scanned
      have extended := (readsOn _).value scanned (.inr (by simp))
        (Nat.le_add_right _ (dumps (.dict entries)).length) missing
      have atEnd : Separated [] := nofun
      have read := scanOnce_dumps encodable (Nat.le_add_left _ (('\x7b' :: rest).length + 1)) atEnd
      rw [whole] at extended
      rw [append_nil, extended] at read
      have ended : left ++ missing = [] := congrArg Prod.snd (Option.some.inj read)
      exact nonempty (append_eq_nil_iff.mp ended).2

end PyJson

end AccruviaHarness
