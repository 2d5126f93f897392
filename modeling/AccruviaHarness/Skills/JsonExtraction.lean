import AccruviaHarness.Skills.Base
import AccruviaHarness.Python.JsonRoundTrip

/-!
# The object in a response

An object that `json.dumps` has written is read out of any text around it that
has no brace before it and no fence: the braces that count are those outside of
strings, and a string is written without quotes and line breaks of its own.
-/

namespace AccruviaHarness

open List

namespace Skills

open PyJson

/-! ## The scan for the closing brace -/

section

variable {depth : Nat} {character : Char} {rest : List Char}

theorem balancedFrom_plain
    (noQuote : character ≠ '"') (noOpen : character ≠ '\x7b')
    (noClose : character ≠ '\x7d') :
    balancedFrom depth false false (character :: rest) =
      (balancedFrom depth false false rest).map (character :: ·) := by
  rw [balancedFrom]
  simp [noQuote, noOpen, noClose]

variable (inString : Bool)

theorem balancedFrom_quote :
    balancedFrom depth inString false ('"' :: rest) =
      (balancedFrom depth (!inString) false rest).map ('"' :: ·) := by
  rw [balancedFrom]
  simp

theorem balancedFrom_inString
    (noQuote : character ≠ '"') (noEscape : character ≠ '\\') :
    balancedFrom depth true false (character :: rest) =
      (balancedFrom depth true false rest).map (character :: ·) := by
  rw [balancedFrom]
  simp [noQuote, noEscape]

theorem balancedFrom_escape :
    balancedFrom depth inString true (character :: rest) =
      (balancedFrom depth inString false rest).map (character :: ·) := by
  rw [balancedFrom]
  simp

theorem balancedFrom_escaped :
    balancedFrom depth true false ('\\' :: character :: rest) =
      (balancedFrom depth true false rest).map (['\\', character] ++ ·) := by
  have opened :
      balancedFrom depth true false ('\\' :: character :: rest) =
        (balancedFrom depth true true (character :: rest)).map ('\\' :: ·) := by
    rw [balancedFrom]
    simp
  rw [opened, balancedFrom_escape, Option.map_map]
  rfl

theorem balancedFrom_open :
    balancedFrom depth false false ('\x7b' :: rest) =
      (balancedFrom (depth + 1) false false rest).map ('\x7b' :: ·) := by
  rw [balancedFrom]
  simp

theorem balancedFrom_close :
    balancedFrom (depth + 1) false false ('\x7d' :: rest) =
      if depth = 0 then some ['\x7d']
      else (balancedFrom depth false false rest).map ('\x7d' :: ·) := by
  rw [balancedFrom]
  simp

end

def GoesThrough (depth : Nat) (inString : Bool) (text : List Char) : Prop :=
  ∀ rest, balancedFrom depth inString false (text ++ rest) =
    (balancedFrom depth inString false rest).map (text ++ ·)

namespace GoesThrough

variable {depth : Nat} {inString : Bool}

theorem nil : GoesThrough depth inString [] := by
  intro rest
  simp

theorem append {first second : List Char} (left : GoesThrough depth inString first)
    (right : GoesThrough depth inString second) :
    GoesThrough depth inString (first ++ second) := by
  intro rest
  rw [append_assoc, left, right, Option.map_map]
  simp only [Function.comp_def, append_assoc]

variable {text : List Char}

theorem plain (others : ∀ character ∈ text,
      character ≠ '"' ∧ character ≠ '\x7b' ∧ character ≠ '\x7d') :
    GoesThrough depth false text := by
  induction text with
  | nil => exact nil
  | cons _ _ ih =>
    obtain ⟨⟨noQuote, noOpen, noClose⟩, later⟩ := forall_mem_cons.mp others
    intro rest
    rw [cons_append, balancedFrom_plain noQuote noOpen noClose, ih later, Option.map_map]
    rfl

theorem inString_plain
    (others : ∀ character ∈ text, character ≠ '"' ∧ character ≠ '\\') :
    GoesThrough depth true text := by
  induction text with
  | nil => exact nil
  | cons _ _ ih =>
    obtain ⟨⟨noQuote, noEscape⟩, later⟩ := forall_mem_cons.mp others
    intro rest
    rw [cons_append, balancedFrom_inString noQuote noEscape, ih later, Option.map_map]
    rfl

theorem escaped (character : Char) : GoesThrough depth true ['\\', character] :=
  fun _ => balancedFrom_escaped

theorem unicode (code : Nat) : GoesThrough depth true (unicodeEscape code) := by
  have listed : ∀ digit < 16,
      Nat.digitChar digit ≠ '"' ∧ Nat.digitChar digit ≠ '\\' := by
    decide
  have digit (number : Nat) : Nat.digitChar (number % 16) ≠ '"' ∧
      Nat.digitChar (number % 16) ≠ '\\' :=
    listed _ (Nat.mod_lt _ (by decide))
  refine append (escaped 'u') (inString_plain ?_)
  simp only [forall_mem_cons]
  exact ⟨digit _, digit _, digit _, digit _, forall_mem_nil _⟩

theorem escape (character : Char) : GoesThrough depth true (escapeCharacter character) := by
  unfold escapeCharacter
  split_ifs with quote backslash _ _ _ _ _ _
  · exact escaped _
  · exact escaped _
  · exact escaped _
  · exact escaped _
  · exact escaped _
  · exact escaped _
  · exact escaped _
  · exact inString_plain (forall_mem_singleton.mpr ⟨quote, backslash⟩)
  · exact unicode _
  · exact append (unicode _) (unicode _)

theorem string (text : String) : GoesThrough depth false (encodeString text) := by
  have inside : GoesThrough depth true (text.toList.flatMap escapeCharacter) := by
    induction text.toList with
    | nil => exact nil
    | cons character _ ih =>
      rw [flatMap_cons]
      exact append (escape character) ih
  intro rest
  rw [encodeString_append, balancedFrom_quote, Bool.not_false, inside,
    balancedFrom_quote, Bool.not_true, Option.map_map, Option.map_map]
  congr 1
  funext tail
  simp [encodeString]

theorem atoms (all : ∀ character ∈ text, isAtomCharacter character = true) :
    GoesThrough depth false text := by
  refine plain fun character member => ?_
  have atom := all character member
  refine ⟨?_, ?_, ?_⟩
  · rintro rfl
    exact absurd atom (by decide)
  · rintro rfl
    exact absurd atom (by decide)
  · rintro rfl
    exact absurd atom (by decide)

end GoesThrough

def Closes (depth : Nat) (text : List Char) : Prop :=
  ∀ rest, balancedFrom (depth + 1) false false (text ++ rest) =
    if depth = 0 then some text
    else (balancedFrom depth false false rest).map (text ++ ·)

theorem closes_brace (depth : Nat) : Closes depth ['\x7d'] := fun _ => balancedFrom_close

theorem GoesThrough.closes {depth : Nat} {front text : List Char}
    (through : GoesThrough (depth + 1) false front)
    (closes : Closes depth text) :
    Closes depth (front ++ text) := by
  intro rest
  rw [append_assoc, through, closes]
  by_cases first : depth = 0
  · rw [if_pos first, if_pos first]
    rfl
  · rw [if_neg first, if_neg first, Option.map_map]
    simp only [Function.comp_def, append_assoc]

variable {text back front : List Char} {character : Char} {entries : PyDict}

theorem Closes.goesThrough {depth : Nat} (closes : Closes (depth + 1) text) :
    GoesThrough (depth + 1) false ('\x7b' :: text) := by
  intro rest
  rw [cons_append, balancedFrom_open, closes, if_neg (Nat.succ_ne_zero depth), Option.map_map]
  rfl

theorem goesThrough_bracket (depth : Nat) : GoesThrough depth false ['['] :=
  GoesThrough.plain (by simp)

theorem goesThrough_mark {depth : Nat}
    (other : character ≠ '"' ∧ character ≠ '\x7b' ∧ character ≠ '\x7d') :
    GoesThrough depth false [character, ' '] := by
  refine GoesThrough.plain ?_
  simp only [forall_mem_cons]
  exact ⟨other, by decide, forall_mem_nil _⟩

mutual

theorem goesThrough_dumps (depth : Nat) : ∀ value, PyJson.Encodable value →
    GoesThrough (depth + 1) false (dumps value)
  | .none, _ => GoesThrough.atoms (all_eq_true.mp rfl)
  | .bool true, _ => GoesThrough.atoms (all_eq_true.mp rfl)
  | .bool false, _ => GoesThrough.atoms (all_eq_true.mp rfl)
  | .int number, _ => GoesThrough.atoms (readAtom_toString number).2.2
  | .float _, encodable => GoesThrough.atoms encodable.2
  | .str text, _ => GoesThrough.string text
  | .list [], _ => GoesThrough.plain (by simp [dumps])
  | .list (item :: items), ⟨itemEncodable, itemsEncodable⟩ =>
    (goesThrough_bracket (depth + 1)).append ((goesThrough_dumps depth item itemEncodable).append
        (goesThrough_dumpItems depth items itemsEncodable))
  | .dict [], _ => (closes_brace (depth + 1)).goesThrough
  | .dict ((key, value) :: entries), ⟨_, valueEncodable, entriesEncodable⟩ =>
    ((GoesThrough.string key).closes ((goesThrough_mark (by decide)).closes
      ((goesThrough_dumps (depth + 1) value valueEncodable).closes
        (closes_dumpEntries (depth + 1) entries entriesEncodable)))).goesThrough

theorem goesThrough_dumpItems (depth : Nat) : ∀ items, EncodableItems items →
    GoesThrough (depth + 1) false (dumpItems items)
  | [], _ => GoesThrough.plain (by simp [dumpItems])
  | item :: items, ⟨itemEncodable, itemsEncodable⟩ =>
    (goesThrough_mark (by decide)).append ((goesThrough_dumps depth item itemEncodable).append
        (goesThrough_dumpItems depth items itemsEncodable))

theorem closes_dumpEntries (depth : Nat) : ∀ entries,
    EncodableEntries entries → Closes depth (dumpEntries entries)
  | [], _ => closes_brace depth
  | (key, value) :: entries, ⟨valueEncodable, entriesEncodable⟩ =>
    (goesThrough_mark (by decide)).closes ((GoesThrough.string key).closes
      ((goesThrough_mark (by decide)).closes ((goesThrough_dumps depth value valueEncodable).closes
          (closes_dumpEntries depth entries entriesEncodable))))

end

theorem balancedFrom_dumps (encodable : PyJson.Encodable (.dict entries)) (rest : List Char) :
    balancedFrom 0 false false (dumps (.dict entries) ++ rest) = some (dumps (.dict entries)) := by
  have closes : ∃ body, dumps (.dict entries) = '\x7b' :: body ∧ Closes 0 body := by
    cases entries with
    | nil => exact ⟨['\x7d'], rfl, closes_brace 0⟩
    | cons entry entries =>
      obtain ⟨_, valueEncodable, entriesEncodable⟩ := encodable
      exact ⟨_, rfl, (GoesThrough.string entry.1).closes ((goesThrough_mark (by decide)).closes
          ((goesThrough_dumps 0 entry.2 valueEncodable).closes
            (closes_dumpEntries 0 entries entriesEncodable)))⟩
  obtain ⟨_, shape, closes⟩ := closes
  rw [shape, cons_append, balancedFrom_open, closes, if_pos rfl]
  rfl

/-! ## The text of an object -/

theorem dumps_dict_braces (entries : PyDict) :
    ∃ inside, dumps (.dict entries) = '\x7b' :: (inside ++ ['\x7d']) := by
  have ended (others : List (String × PyValue)) :
      ∃ inside, dumpEntries others = inside ++ ['\x7d'] := by
    induction others with
    | nil => exact ⟨[], rfl⟩
    | cons other _ ih =>
      obtain ⟨inside, shape⟩ := ih
      refine ⟨',' :: ' ' :: (encodeString other.1 ++ ':' :: ' ' :: (dumps other.2 ++ inside)), ?_⟩
      rw [dumpEntries, shape]
      simp
  cases entries with
  | nil => exact ⟨[], rfl⟩
  | cons entry entries =>
    obtain ⟨inside, shape⟩ := ended entries
    refine ⟨encodeString entry.1 ++ ':' :: ' ' :: (dumps entry.2 ++ inside), ?_⟩
    rw [dumps, shape]
    simp

theorem pyStrip_around_dumps (front back : List Char) (entries : PyDict) :
    pyStrip (String.ofList (front ++ (dumps (.dict entries) ++ back))) =
      String.ofList (front.dropWhile isPyWhitespace ++ (dumps (.dict entries) ++
          (back.reverse.dropWhile isPyWhitespace).reverse)) := by
  obtain ⟨_, shape⟩ := dumps_dict_braces entries
  refine pyStrip_around ?_ ?_ ?_ front back
  · simp [shape]
  · rw [shape]
    rintro character ⟨⟩
    rfl
  · rw [shape, ← cons_append, getLast?_append_cons]
    rintro _ ⟨⟩
    rfl

/-! ## The whole text -/

theorem readAtom_ne_dict (lexeme : List Char) (entries : PyDict) :
    readAtom lexeme ≠ some (.dict entries) := by
  have number (negative : Bool) (lexeme unsigned : List Char) :
      readNumber negative lexeme unsigned ≠ some (.dict entries) := by
    unfold readNumber
    dsimp only
    split_ifs <;> simp
  unfold readAtom
  split_ifs
  · simp
  · simp
  · simp
  · simp
  · simp
  · simp
  · unfold scanNumber
    split
    · exact number _ _ _
    · exact number _ _ _

theorem loadsDict_of_no_brace {first : Char} (other : first ≠ '\x7b')
    (visible : isSpace first = false) (rest : List Char) :
    loadsDict loads (first :: rest) = none := by
  unfold loadsDict
  cases read : loads (first :: rest) with
  | none => rfl
  | some value =>
    simp only [loads, Option.bind_eq_bind, Option.bind_eq_some_iff, skipSpace_cons visible] at read
    obtain ⟨⟨found, _⟩, scanned, kept⟩ := read
    split_ifs at kept
    obtain rfl := Option.some.inj kept
    rw [Option.bind_some]
    cases found with
    | dict entries =>
      simp only [scanOnce, if_neg other] at scanned
      split_ifs at scanned
      · simp [Option.bind_eq_some_iff] at scanned
      · simp at scanned
      · simp [Option.bind_eq_some_iff] at scanned
      · simp only [Option.bind_eq_bind, Option.bind_eq_some_iff] at scanned
        obtain ⟨_, atom, same⟩ := scanned
        obtain ⟨rfl, _⟩ := Prod.mk.inj (Option.some.inj same)
        exact absurd atom (readAtom_ne_dict _ entries)
    | none | bool _ | int _ | float _ | str _ | list _ => rfl

theorem loadsDict_dumps (encodable : PyJson.Encodable (.dict entries)) :
    loadsDict loads (dumps (.dict entries)) = some entries := by
  unfold loadsDict
  rw [loads_dumps encodable]
  rfl

theorem loadsDict_dumps_append (encodable : PyJson.Encodable (.dict entries))
    (visible : skipSpace back ≠ []) :
    loadsDict loads (dumps (.dict entries) ++ back) = none := by
  have enough : (dumps (.dict entries)).length ≤ (dumps (.dict entries) ++ back).length + 1 := by
    rw [length_append]
    omega
  have alone := scanOnce_dumps encodable le_rfl (show Separated [] by simp [Separated])
  have opened : (dumps (.dict entries)).head? = some '\x7b' := by
    obtain ⟨_, shape⟩ := dumps_dict_braces entries
    rw [shape]
    rfl
  rw [append_nil] at alone
  have scanned := (readsOn _).value alone (.inr (by rw [opened]; simp)) enough back
  unfold loadsDict loads
  rw [skipSpace_dumps encodable, scanned]
  simp [visible]

/-! ## No fence -/

theorem prefix_of_prefix_append_cons
    {part rest : List Char} (begins : part <+: front ++ character :: rest)
    (other : character ∉ part) :
    part <+: front := by
  rcases prefix_or_prefix_of_prefix begins
    (prefix_append front (character :: rest)) with within | beyond
  · exact within
  · obtain ⟨further, rfl⟩ := beyond
    rw [prefix_append_right_inj] at begins
    cases further with
    | nil => simp
    | cons _ _ =>
      obtain ⟨rfl, _⟩ := cons_prefix_cons.mp begins
      simp at other

theorem lineStarts_of_visible (sameLine : '\n' ∉ front)
    (visible : isPyWhitespace character = false) (rest : List Char) :
    lineStarts (front ++ character :: rest) = [] := by
  induction front with
  | nil => simp [lineStarts, visible]
  | cons _ _ ih =>
    rw [mem_cons, not_or] at sameLine
    simp [lineStarts, ih sameLine.2, Ne.symm sameLine.1]

theorem fencedAt_of_no_fence (noFence : ¬ "```".toList <+: text) : fencedAt text = none := by
  unfold fencedAt
  rw [if_neg (by simpa using noFence)]

theorem fencedAt_of_same_line (sameLine : '\n' ∉ front) (rest : List Char) :
    fencedAt (front ++ '\x7d' :: rest) = none := by
  by_cases fence : "```".toList <+: front ++ '\x7d' :: rest
  · obtain ⟨label, rfl⟩ := prefix_of_prefix_append_cons fence (by decide)
    have noBreak : '\n' ∉ label := by
      intro member
      exact sameLine (mem_append_right _ member)
    have behind :
        ("```".toList ++ label ++ '\x7d' :: rest).drop 3 = label ++ '\x7d' :: rest := rfl
    have named (json : "json".toList <+: label ++ '\x7d' :: rest) :
        lineStarts ((label ++ '\x7d' :: rest).drop 4) = [] := by
      obtain ⟨_, rfl⟩ := prefix_of_prefix_append_cons json (by decide)
      refine lineStarts_of_visible ?_ (by decide) rest
      intro member
      exact noBreak (mem_append_right _ member)
    have here : lineStarts (label ++ '\x7d' :: rest) = [] :=
      lineStarts_of_visible noBreak (by decide) rest
    unfold fencedAt
    simp only [behind, here, append_nil]
    by_cases json : "json".toList <+: label ++ '\x7d' :: rest
    · simp [named json]
    · have notNamed : ¬ "json".toList.isPrefixOf (label ++ '\x7d' :: rest) = true := by
        rwa [List.isPrefixOf_iff_prefix]
      rw [if_neg notNamed]
      simp
  · exact fencedAt_of_no_fence fence

theorem fencedBlock_eq_none (none : ∀ start, start <:+ text → fencedAt start = none) :
    fencedBlock text = .none := by
  induction text with
  | nil => rfl
  | cons _ _ ih =>
    rw [fencedBlock, none _ suffix_rfl, ih
      fun start suffix => none start (suffix.trans (suffix_cons _ _))]
    rfl

theorem suffix_append_cases {start : List Char} (suffix : start <:+ front ++ back) :
    start <:+ back ∨ ∃ before, start = before ++ back ∧ before <:+ front := by
  rcases suffix_or_suffix_of_suffix suffix (suffix_append front back) with behind | ⟨before, rfl⟩
  · exact .inl behind
  · exact .inr ⟨before, rfl, suffix_append_self_iff.mp suffix⟩

theorem fencedBlock_around_dumps (encodable : PyJson.Encodable (.dict entries))
    (noFenceBefore : ¬ "```".toList <:+: front)
    (noFenceBehind : ¬ "```".toList <:+: back) :
    fencedBlock (front ++ (dumps (.dict entries) ++ back)) = none := by
  obtain ⟨inside, shape⟩ := dumps_dict_braces entries
  have sameLine : '\n' ∉ inside := by
    have line := not_mem_of_oneLine (oneLine_dumps _ encodable)
    rw [shape] at line
    intro member
    exact line (mem_cons_of_mem _ (mem_append_left _ member))
  have shown :
      front ++ (dumps (.dict entries) ++ back) = front ++ '\x7b' :: (inside ++ '\x7d' :: back) := by
    rw [shape]
    simp
  rw [shown]
  refine fencedBlock_eq_none fun start suffix => ?_
  rcases suffix_append_cases suffix with behind | ⟨before, rfl, ends⟩
  · rw [← cons_append] at behind
    rcases suffix_append_cases behind with last | ⟨_, rfl, ends⟩
    · rw [suffix_cons_iff] at last
      rcases last with rfl | last
      · exact fencedAt_of_same_line not_mem_nil back
      · exact fencedAt_of_no_fence fun fence => noFenceBehind (fence.isInfix.trans last.isInfix)
    · refine fencedAt_of_same_line (fun member => ?_) back
      rcases mem_cons.mp (ends.subset member) with same | member
      · exact absurd same (by decide)
      · exact sameLine member
  · refine fencedAt_of_no_fence fun fence => noFenceBefore ?_
    have within := prefix_of_prefix_append_cons fence (by decide)
    exact within.isInfix.trans ends.isInfix

/-! ## The extraction -/

theorem head_dropWhile_visible (nonempty : text.dropWhile isPyWhitespace ≠ []) :
    ∃ first rest, text.dropWhile isPyWhitespace = first :: rest ∧ isPyWhitespace first = false := by
  obtain ⟨first, rest, shape⟩ := exists_cons_of_ne_nil nonempty
  refine ⟨first, rest, shape, ?_⟩
  have visible := head_dropWhile_not isPyWhitespace nonempty
  simpa [shape] using visible

theorem isSpace_of_visible (visible : isPyWhitespace character = false) :
    isSpace character = false := by
  cases space : isSpace character with
  | false => rfl
  | true =>
    simp only [isSpace, Bool.or_eq_true, decide_eq_true_eq] at space
    rcases space with ((rfl | rfl) | rfl) | rfl
    all_goals exact absurd visible (by decide)

theorem skipSpace_reverse_ne_nil (nonempty : text.dropWhile isPyWhitespace ≠ []) :
    skipSpace (text.dropWhile isPyWhitespace).reverse ≠ [] := by
  obtain ⟨first, _, shape, visible⟩ := head_dropWhile_visible nonempty
  rw [shape]
  intro blank
  have space := dropWhile_eq_nil_iff.mp blank first (by simp)
  rw [isSpace_of_visible visible] at space
  cases space

theorem loadsDict_stripped (encodable : PyJson.Encodable (.dict entries)) (noBrace : '\x7b' ∉ front)
    (back : List Char) :
    loadsDict loads (front.dropWhile isPyWhitespace ++ (dumps (.dict entries) ++
          (back.dropWhile isPyWhitespace).reverse)) = some entries ∨
      loadsDict loads (front.dropWhile isPyWhitespace ++ (dumps (.dict entries) ++
          (back.dropWhile isPyWhitespace).reverse)) = none := by
  by_cases before : front.dropWhile isPyWhitespace = []
  · rw [before, nil_append]
    by_cases behind : back.dropWhile isPyWhitespace = []
    · rw [behind, reverse_nil, append_nil]
      exact .inl (loadsDict_dumps encodable)
    · exact .inr (loadsDict_dumps_append encodable (skipSpace_reverse_ne_nil behind))
  · obtain ⟨first, _, shape, visible⟩ := head_dropWhile_visible before
    have other : first ≠ '\x7b' := by
      rintro rfl
      have member : '\x7b' ∈ front.dropWhile isPyWhitespace := by
        rw [shape]
        exact mem_cons_self
      exact noBrace ((dropWhile_suffix _).subset member)
    rw [shape]
    exact .inr (loadsDict_of_no_brace other (isSpace_of_visible visible) _)

theorem dropWhile_to_dumps (noBrace : '\x7b' ∉ front) (entries : PyDict) (back : List Char) :
    (front ++ (dumps (.dict entries) ++ back)).dropWhile (fun character => character ≠ '\x7b') =
      dumps (.dict entries) ++ back := by
  obtain ⟨_, shape⟩ := dumps_dict_braces entries
  rw [dropWhile_append_of_pos, shape]
  · simp
  · intro character member
    have other : character ≠ '\x7b' := by
      rintro rfl
      exact noBrace member
    simpa using other

def IsEnvelope (entries : PyDict) : Prop :=
  (∃ result, entries.get "result" = .str result) ∧ entries.contains "usage" = true

theorem unwrapCliEnvelope_of_not_envelope {text : String}
    (noEnvelope : ∀ entries, loadsDict loads (pyStrip text).toList = some entries →
        ¬ IsEnvelope entries) :
    unwrapCliEnvelope loads text = text := by
  unfold unwrapCliEnvelope
  dsimp only
  split
  · rfl
  · split
    next payload read =>
      split
      next result found =>
        rw [if_neg]
        exact fun usage => noEnvelope payload read ⟨⟨result, found⟩, usage⟩
      · rfl
    · rfl

/-- The object is read out of the text that it stands in. -/
theorem extractJsonPayload_around_dumps (front back : String) (entries : PyDict)
    (encodable : PyJson.Encodable (.dict entries))
    (noEnvelope : ¬ IsEnvelope entries)
    (noBrace : '\x7b' ∉ front.toList)
    (noFenceBefore : ¬ "```".toList <:+: front.toList)
    (noFenceBehind : ¬ "```".toList <:+: back.toList) :
    extractJsonPayload loads (front ++ String.ofList (dumps (.dict entries)) ++ back) =
      some entries := by
  have text :
      front ++ String.ofList (dumps (.dict entries)) ++ back =
        String.ofList (front.toList ++ (dumps (.dict entries) ++ back.toList)) := by
    simp [← String.toList_inj]
  have stripped := pyStrip_around_dumps front.toList back.toList entries
  have read := loadsDict_stripped encodable noBrace back.toList.reverse
  have leadingPart : front.toList.dropWhile isPyWhitespace <:+: front.toList :=
    (dropWhile_suffix isPyWhitespace).isInfix
  have trailingPart :
      (back.toList.reverse.dropWhile isPyWhitespace).reverse <:+:
        back.toList := by
    rw [← reverse_infix, reverse_reverse]
    exact (dropWhile_suffix isPyWhitespace).isInfix
  rw [← text] at stripped
  generalize front.toList.dropWhile isPyWhitespace = leading
    at stripped read leadingPart
  generalize (back.toList.reverse.dropWhile isPyWhitespace).reverse = trailing
    at stripped read trailingPart
  have unwrapped :
      unwrapCliEnvelope loads (front ++ String.ofList (dumps (.dict entries)) ++ back) =
        front ++ String.ofList (dumps (.dict entries)) ++ back := by
    refine unwrapCliEnvelope_of_not_envelope fun found known => ?_
    rw [stripped, String.toList_ofList] at known
    rcases read with read | read
    · rw [read] at known
      obtain rfl := Option.some.inj known
      exact noEnvelope
    · rw [read] at known
      cases known
  have noFence : fencedBlock (leading ++ (dumps (.dict entries) ++ trailing)) = none :=
    fencedBlock_around_dumps encodable (fun fence => noFenceBefore (fence.trans leadingPart))
      (fun fence => noFenceBehind (fence.trans trailingPart))
  have found := dropWhile_to_dumps
    (fun member => noBrace (leadingPart.subset member)) entries trailing
  have nonempty : leading ++ (dumps (.dict entries) ++ trailing) ≠ [] := by
    obtain ⟨_, shape⟩ := dumps_dict_braces entries
    simp [shape]
  unfold extractJsonPayload
  rw [unwrapped, stripped, String.toList_ofList]
  dsimp only
  rw [if_neg nonempty]
  rcases read with read | read
  · rw [read, Option.some_or]
  · rw [read, Option.none_or, noFence, Option.bind_none, Option.none_or, found,
      balancedFrom_dumps encodable, Option.bind_some,
      loadsDict_dumps encodable]

/-- An object whose texts hold braces, quotes, backslashes and a fence, after a
sentence and before a stray brace. -/
theorem fencedNote_extracted :
    extractJsonPayload loads ("Here it is: " ++ String.ofList (dumps (.dict
            [("note", .str "```json\n\x7b\"\\\x7d```\n"),
              ("inner", .dict [("\x7d", .int 3)])])) ++ "\n\x7d done") =
      some [("note", .str "```json\n\x7b\"\\\x7d```\n"),
        ("inner", .dict [("\x7d", .int 3)])] := by
  have encodable : PyJson.Encodable (.dict
      [("note", .str "```json\n\x7b\"\\\x7d```\n"),
        ("inner", .dict [("\x7d", .int 3)])]) := by
    simp [PyJson.Encodable, EncodableEntries]
  have noEnvelope : ¬ IsEnvelope
      [("note", .str "```json\n\x7b\"\\\x7d```\n"),
        ("inner", .dict [("\x7d", .int 3)])] := by
    intro envelope
    exact absurd envelope.2 (by decide)
  exact extractJsonPayload_around_dumps _ _ _ encodable noEnvelope (by decide)
    (by decide +kernel) (by decide +kernel)

end Skills

end AccruviaHarness
