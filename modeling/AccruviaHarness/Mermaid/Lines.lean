import AccruviaHarness.Mermaid.Parse

/-!
# The lines of a text

A text without breaks is one line, and what stands before a newline is split
apart from what follows it.
-/

namespace AccruviaHarness

open List

namespace Mermaid

/-! ## Breaks -/

variable {character : Char} {characters : List Char}

theorem isPyWhitespace_of_isLineBreak (lineBreak : isLineBreak character = true) :
    isPyWhitespace character = true := by
  simp only [isLineBreak, isPyWhitespace, Bool.or_eq_true, Bool.and_eq_true,
    decide_eq_true_eq, beq_iff_eq] at lineBreak ⊢
  omega

theorem not_isLineBreak_of_visible (visible : isPyWhitespace character = false) :
    ¬ isLineBreak character = true := by
  intro lineBreak
  rw [isPyWhitespace_of_isLineBreak lineBreak] at visible
  cases visible

theorem splitLines_ne_nil (nonempty : characters ≠ []) : splitLines characters ≠ [] := by
  unfold splitLines
  split
  · exact absurd rfl nonempty
  · exact cons_ne_nil _ _
  · split
    · exact cons_ne_nil _ _
    · split
      · exact cons_ne_nil _ _
      · exact cons_ne_nil _ _

/-! ## Lines without breaks -/

/-- Characters that `str.splitlines` leaves together. -/
def InLine (characters : List Char) : Prop :=
  ∀ character ∈ characters, isLineBreak character = false

theorem inLine_of_all (all : (characters.all fun other => !isLineBreak other) = true) :
    InLine characters := by
  intro character member
  simpa using all_eq_true.mp all character member

theorem InLine.append {first second : List Char} (left : InLine first) (right : InLine second) :
    InLine (first ++ second) :=
  forall_mem_append.mpr ⟨left, right⟩

theorem splitLines_inLine {line : List Char} (inLine : InLine line) (nonempty : line ≠ []) :
    splitLines line = [line] := by
  induction line with
  | nil => exact absurd rfl nonempty
  | cons character rest ih =>
    obtain ⟨here, later⟩ := forall_mem_cons.mp inLine
    have noReturn : character ≠ '\r' := by
      rintro rfl
      cases here
    rw [splitLines.eq_3 _ _ (fun _ carriage _ => noReturn carriage), if_neg (by simp [here])]
    cases rest with
    | nil => rfl
    | cons _ _ => rw [ih later (cons_ne_nil _ _)]

theorem splitLines_inLine_newline {line : List Char} (inLine : InLine line) (rest : List Char) :
    splitLines (line ++ '\n' :: rest) = line :: splitLines rest := by
  induction line with
  | nil => exact splitLines.eq_3 _ _ (fun _ carriage => absurd carriage (by decide))
  | cons character _ ih =>
    obtain ⟨here, later⟩ := forall_mem_cons.mp inLine
    have noReturn : character ≠ '\r' := by
      rintro rfl
      cases here
    rw [cons_append, splitLines.eq_3 _ _ (fun _ carriage _ => noReturn carriage),
      if_neg (by simp [here]), ih later]

theorem splitLines_joined {lines : List (List Char)}
    (inLine : ∀ line ∈ lines, InLine line ∧ line ≠ []) :
    splitLines (['\n'].intercalate lines) = lines := by
  induction lines with
  | nil => rfl
  | cons _ rest ih =>
    rw [forall_mem_cons] at inLine
    obtain ⟨⟨here, nonempty⟩, later⟩ := inLine
    cases rest with
    | nil =>
      rw [intercalate_singleton]
      exact splitLines_inLine here nonempty
    | cons _ _ =>
      rw [intercalate_cons_cons, append_assoc, singleton_append, splitLines_inLine_newline here,
        ih later]

theorem inLine_of_visible (visible : ∀ character ∈ characters, isPyWhitespace character = false) :
    InLine characters := by
  intro character member
  exact Bool.not_eq_true _ ▸ not_isLineBreak_of_visible (visible character member)

/-! ## Newlines -/

theorem no_return_ahead {tail : List Char} (rest : List Char) (other : tail = [] → character ≠ '\r')
    (single : ∀ after, character = '\r' → tail = '\n' :: after → False)
    (after : List Char) :
    character = '\r' → tail ++ '\n' :: rest = '\n' :: after → False := by
  intro carriage same
  cases tail with
  | nil => exact other rfl carriage
  | cons first tail =>
    obtain rfl : first = '\n' := (List.cons.inj same).1
    exact single tail carriage rfl

theorem splitLines_append_newline (front rest : List Char) :
    splitLines (front ++ '\n' :: rest) = splitLines (front ++ ['\n']) ++ splitLines rest := by
  induction front using splitLines.induct with
  | case1 => exact splitLines_inLine_newline (by simp [InLine]) rest
  | case2 _ ih => simp only [cons_append, splitLines.eq_2, ih]
  | case3 character tail single lineBreak ih =>
    by_cases other : tail = [] → character ≠ '\r'
    · have ahead (rest : List Char) := no_return_ahead rest other single
      rw [cons_append, cons_append, splitLines.eq_3 _ _ (ahead _),
        splitLines.eq_3 _ _ (ahead _), if_pos lineBreak, if_pos lineBreak,
        ih, cons_append]
    · obtain ⟨rfl, rfl⟩ : tail = [] ∧ character = '\r' := by simpa using other
      rfl
  | case4 character tail single inLine _ ih
  | case5 character tail single inLine _ _ _ ih =>
    have other : tail = [] → character ≠ '\r' := by
      rintro - rfl
      exact inLine rfl
    have ahead (rest : List Char) := no_return_ahead rest other single
    rw [cons_append, cons_append, splitLines.eq_3 _ _ (ahead _),
      splitLines.eq_3 _ _ (ahead _), if_neg inLine, if_neg inLine,
      ih]
    cases lines : splitLines (tail ++ ['\n']) with
    | nil =>
      exact absurd lines (splitLines_ne_nil (append_ne_nil_of_right_ne_nil tail (cons_ne_nil _ _)))
    | cons _ _ => rfl

end Mermaid

end AccruviaHarness
