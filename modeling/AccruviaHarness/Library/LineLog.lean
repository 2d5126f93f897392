import Mathlib.Data.List.Basic

/-!
# Files of lines

A file to which lines are appended, each one the text of a value. A crash in
the middle of an append leaves a torn line at the end.
-/

namespace Library

open List

universe u v

variable {Symbol : Type u} {Value : Type v}

def EndsLine (mark : Symbol) (text : List Symbol) : Prop := ∀ last ∈ text.getLast?, last = mark

instance [DecidableEq Symbol] (mark : Symbol) (text : List Symbol) :
    Decidable (EndsLine mark text) :=
  inferInstanceAs (Decidable (∀ last ∈ text.getLast?, last = mark))

theorem endsLine_nil (mark : Symbol) : EndsLine mark [] := nofun

theorem endsLine_append_mark (mark : Symbol) (text : List Symbol) :
    EndsLine mark (text ++ [mark]) := by
  intro last member
  rw [getLast?_append] at member
  cases member
  rfl

variable {mark : Symbol}

theorem endsLine_of_cons {symbol : Symbol} {rest : List Symbol} (nonempty : rest ≠ [])
    (ends : EndsLine mark (symbol :: rest)) :
    EndsLine mark rest := by
  obtain ⟨_, _, rfl⟩ := exists_cons_of_ne_nil nonempty
  exact ends

variable [DecidableEq Symbol]

/-- The lines of a text, with their end marks. The last one may lack it. -/
def linesOf (mark : Symbol) : List Symbol → List (List Symbol)
  | [] => []
  | symbol :: rest =>
    if symbol = mark then [symbol] :: linesOf mark rest
    else
      match linesOf mark rest with
      | [] => [[symbol]]
      | line :: lines => (symbol :: line) :: lines

theorem linesOf_eq_nil_iff {text : List Symbol} : linesOf mark text = [] ↔ text = [] := by
  cases text with
  | nil => simp [linesOf]
  | cons _ _ =>
    simp only [linesOf]
    split
    · simp
    · split <;> simp

theorem linesOf_append {text : List Symbol} (ends : EndsLine mark text) (further : List Symbol) :
    linesOf mark (text ++ further) = linesOf mark text ++ linesOf mark further := by
  induction text with
  | nil => rfl
  | cons symbol rest ih =>
    by_cases empty : rest = []
    · subst empty
      have isMark : symbol = mark := ends symbol rfl
      simp [linesOf, isMark]
    · have later := ih (endsLine_of_cons empty ends)
      by_cases isMark : symbol = mark
      · simp [linesOf, isMark, later]
      · cases shape : linesOf mark rest with
        | nil => exact absurd (linesOf_eq_nil_iff.mp shape) empty
        | cons _ _ =>
          rw [shape] at later
          simp [linesOf, isMark, later, shape]

theorem linesOf_of_not_mem {line : List Symbol} (nonempty : line ≠ []) (absent : mark ∉ line) :
    linesOf mark line = [line] := by
  induction line with
  | nil => exact absurd rfl nonempty
  | cons symbol rest ih =>
    rw [mem_cons, not_or] at absent
    have other : symbol ≠ mark := Ne.symm absent.1
    by_cases empty : rest = []
    · subst empty
      simp [linesOf, other]
    · simp [linesOf, other, ih empty absent.2]

theorem linesOf_line {line : List Symbol} (absent : mark ∉ line) :
    linesOf mark (line ++ [mark]) = [line ++ [mark]] := by
  induction line with
  | nil => simp [linesOf]
  | cons symbol _ ih =>
    rw [mem_cons, not_or] at absent
    have other : symbol ≠ mark := Ne.symm absent.1
    simp [linesOf, other, ih absent.2]

structure LineCodec (Symbol : Type u) (Value : Type v) where
  mark : Symbol
  /-- The values that lines are written for. -/
  Writable : Value → Prop
  encode : Value → List Symbol
  decode : List Symbol → Option Value
  mark_not_mem : ∀ value, Writable value → mark ∉ encode value
  encode_ne_nil : ∀ value, Writable value → encode value ≠ []
  decode_line : ∀ value, Writable value → decode (encode value ++ [mark]) = some value
  decode_encode : ∀ value, Writable value → decode (encode value) = some value
  decode_torn : ∀ value, Writable value → ∀ part missing, missing ≠ [] →
    part ++ missing = encode value → decode part = none

namespace LineCodec

variable (codec : LineCodec Symbol Value)

def line (value : Value) : List Symbol := codec.encode value ++ [codec.mark]

/-- The values that a reader finds, which skips what it cannot decode. -/
def read (text : List Symbol) : List Value := (linesOf codec.mark text).filterMap codec.decode

theorem read_append {text : List Symbol} (ends : EndsLine codec.mark text) (further : List Symbol) :
    codec.read (text ++ further) = codec.read text ++ codec.read further := by
  unfold read
  rw [linesOf_append ends, filterMap_append]

variable {value : Value}

theorem read_line (writable : codec.Writable value) : codec.read (codec.line value) = [value] := by
  unfold read line
  rw [linesOf_line (codec.mark_not_mem value writable)]
  simp [codec.decode_line value writable]

theorem read_append_line {text : List Symbol} (ends : EndsLine codec.mark text)
    (writable : codec.Writable value) :
    codec.read (text ++ codec.line value) = codec.read text ++ [value] := by
  rw [codec.read_append ends, codec.read_line writable]

omit [DecidableEq Symbol] in
theorem endsLine_append_line (text : List Symbol) (value : Value) :
    EndsLine codec.mark (text ++ codec.line value) := by
  unfold line
  rw [← append_assoc]
  exact endsLine_append_mark _ _

/-- What is left of a line that a crash tore is read as its value where only
the end mark is missing, and as nothing else. -/
theorem read_torn (writable : codec.Writable value)
    {part missing : List Symbol} (nonempty : missing ≠ [])
    (whole : part ++ missing = codec.line value) :
    codec.read part = [] ∨
      part = codec.encode value ∧ codec.read part = [value] := by
  have absent := codec.mark_not_mem value writable
  obtain ⟨before, last, rfl⟩ := (eq_nil_or_concat missing).resolve_left nonempty
  have split : part ++ before = codec.encode value ∧ last = codec.mark := by
    have moved : (part ++ before).concat last = (codec.encode value).concat codec.mark := by
      simpa [line] using whole
    exact ⟨init_eq_of_concat_eq moved, last_eq_of_concat_eq moved⟩
  obtain ⟨same, _⟩ := split
  have partAbsent : codec.mark ∉ part := by
    intro member
    apply absent
    rw [← same]
    exact mem_append_left _ member
  by_cases empty : part = []
  · subst empty
    exact .inl rfl
  have oneLine := linesOf_of_not_mem empty partAbsent
  unfold read
  rw [oneLine]
  by_cases complete : before = []
  · subst complete
    rw [append_nil] at same
    subst same
    exact .inr ⟨rfl, by simp [codec.decode_encode value writable]⟩
  · have torn := codec.decode_torn value writable part before complete same
    exact .inl (by simp [torn])

end LineCodec

end Library
