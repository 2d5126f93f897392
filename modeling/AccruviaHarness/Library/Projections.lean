import AccruviaHarness.Library.Frames

/-!
# Programs seen through a part of their state

A program may be described by one that works on a part of the state alone: both
return the same or raise the same, and they leave the same part.
-/

namespace Library

universe u

variable {Error State View Result Next : Type u}

def projected (part : State → View) :
    EStateM.Result Error State Result → EStateM.Result Error View Result
  | .ok result after => .ok result (part after)
  | .error error left => .error error (part left)

variable (part : State → View)

/-- On the part of the state the program does what the other one does. -/
def Projects (program : EStateM Error State Result) (seen : EStateM Error View Result) : Prop :=
  ∀ before, projected part (program before) = seen (part before)

def Silent (program : EStateM Error State Result) :
    Prop :=
  ∀ before, ∃ result after, program before = .ok result after ∧ part after = part before

theorem get_bind (rest : State → EStateM Error State Result) (before : State) :
    (get >>= rest) before = rest before before := rfl

variable {error : Error} {before after : State} {result : Result}
  {compute : State → State × Except Error Result}

variable {condition : Prop} {handler : Error → EStateM Error State Result}
  {left : State}

theorem ensure_bind [Decidable condition] (holds : condition)
    (rest : PUnit → EStateM Error State Result)
    (before : State) :
    (ensure condition error >>= rest) before = rest ⟨⟩ before := by
  rw [ensure_of holds]
  rfl

theorem ok_of_ensure [Decidable condition] {result : PUnit}
    (checked : (ensure condition error : EStateM Error State PUnit) before =
      .ok result after) : after = before ∧ condition := by
  by_cases holds : condition
  · rw [ensure_of holds] at checked
    cases checked
    exact ⟨rfl, holds⟩
  · rw [ensure_of_not holds] at checked
    cases checked

theorem caught_of_ok (returned : program before = .ok result after) :
    tryCatch program handler before = .ok result after := by
  show EStateM.tryCatch program handler before = _
  unfold EStateM.tryCatch
  rw [returned]

theorem caught_of_error (raised : program before = .error error left) :
    tryCatch program handler before = handler error left := by
  show EStateM.tryCatch program handler before = _
  unfold EStateM.tryCatch
  rw [raised]
  rfl

/-- A function that gives the changed state with what it returns or raises. -/
def ofPair (compute : State → State × Except Error Result) : EStateM Error State Result :=
  fun before =>
    match compute before with
    | (after, .ok result) => .ok result after
    | (left, .error error) => .error error left

def ofChange (compute : State → Except Error (State × Result)) : EStateM Error State Result :=
  fun before =>
    match compute before with
    | .ok (after, result) => .ok result after
    | .error error => .error error before

theorem ofPair_of_ok (computed : compute before = (after, .ok result)) :
    ofPair compute before = .ok result after := by
  unfold ofPair
  rw [computed]

theorem ofPair_of_error (computed : compute before = (left, .error error)) :
    ofPair compute before = .error error left := by
  unfold ofPair
  rw [computed]

theorem ofChange_of_ok {compute : State → Except Error (State × Result)}
    (computed : compute before = .ok (after, result)) :
    ofChange compute before = .ok result after := by
  unfold ofChange
  rw [computed]

theorem ofChange_of_error {compute : State → Except Error (State × Result)}
    (refused : compute before = .error error) :
    ofChange compute before = .error error before := by
  unfold ofChange
  rw [refused]

variable {part : State → View} {program : EStateM Error State Result}
  {seen : EStateM Error View Result}
  {rest : Result → EStateM Error State Next}
  {seenRest : Result → EStateM Error View Next}

namespace Projects

theorem returns (result : Result) :
    Projects part (pure result : EStateM Error State Result) (pure result) :=
  fun _ => rfl

theorem value (outcome : Except Error Result) :
    Projects part (valueOf outcome : EStateM Error State Result) (valueOf outcome) := by
  intro before
  cases outcome <;> rfl

theorem bind (first : Projects part program seen)
    (second : ∀ result, Projects part (rest result) (seenRest result)) :
    Projects part (program >>= rest) (seen >>= seenRest) := by
  intro before
  have here := first before
  cases ended : program before with
  | ok result middle =>
    rw [ended] at here
    rw [bind_of_ok ended, bind_of_ok here.symm]
    exact second result middle
  | error _ _ =>
    rw [ended] at here
    rw [bind_of_error ended, bind_of_error here.symm]
    rfl

theorem after_silent (quiet : Silent part program)
    {tail : EStateM Error State Next} {seenTail : EStateM Error View Next}
    (later : Projects part tail seenTail) :
    Projects part (program >>= fun _ => tail) seenTail := by
  intro before
  obtain ⟨_, middle, ended, same⟩ := quiet before
  rw [bind_of_ok ended, ← same]
  exact later middle

theorem pairs {seenCompute : View → View × Except Error Result}
    (commutes : ∀ before, seenCompute (part before) =
      (part (compute before).1, (compute before).2)) :
    Projects part (ofPair compute) (ofPair seenCompute) := by
  intro before
  have here := commutes before
  generalize computed : compute before = pair at here
  obtain ⟨_, outcome⟩ := pair
  cases outcome with
  | ok _ =>
    rw [ofPair_of_ok computed, ofPair_of_ok here]
    rfl
  | error _ =>
    rw [ofPair_of_error computed, ofPair_of_error here]
    rfl

theorem changes {compute : State → Except Error (State × Result)}
    {seenCompute : View → Except Error (View × Result)}
    (commutes : ∀ before, seenCompute (part before) =
      (compute before).map fun changed => (part changed.1, changed.2)) :
    Projects part (ofChange compute) (ofChange seenCompute) := by
  intro before
  have here := commutes before
  cases computed : compute before with
  | ok _ =>
    rw [computed] at here
    rw [ofChange_of_ok computed, ofChange_of_ok here]
    rfl
  | error _ =>
    rw [computed] at here
    rw [ofChange_of_error computed, ofChange_of_error here]
    rfl

variable {view : View}

theorem returned (projects : Projects part program seen)
    (shown : seen (part before) = .ok result view) :
    ∃ after, program before = .ok result after ∧ part after = view := by
  have here := projects before
  rw [shown] at here
  cases ended : program before with
  | ok _ after =>
    rw [ended] at here
    cases here
    exact ⟨after, rfl, rfl⟩
  | error _ _ =>
    rw [ended] at here
    cases here

theorem raised (projects : Projects part program seen)
    (shown : seen (part before) = .error error view) :
    ∃ left, program before = .error error left ∧ part left = view := by
  have here := projects before
  rw [shown] at here
  cases ended : program before with
  | ok _ _ =>
    rw [ended] at here
    cases here
  | error _ left =>
    rw [ended] at here
    cases here
    exact ⟨left, rfl, rfl⟩

end Projects

namespace Silent

theorem modifies {change : State → State} (same : ∀ before, part (change before) = part before) :
    Silent part (modify change : EStateM Error State PUnit) :=
  fun before => ⟨⟨⟩, change before, rfl, same before⟩

theorem bind (first : Silent part program) (second : ∀ result, Silent part (rest result)) :
    Silent part (program >>= rest) := by
  intro before
  obtain ⟨result, middle, ended, same⟩ := first before
  obtain ⟨final, after, later, still⟩ := second result middle
  exact ⟨final, after, (bind_of_ok ended).trans later, still.trans same⟩

end Silent

theorem Keeps.pairs (kept : ∀ before, part (compute before).1 = part before) :
    Keeps part (ofPair compute) := by
  intro before
  have here := kept before
  generalize computed : compute before = pair at here
  obtain ⟨_, outcome⟩ := pair
  cases outcome with
  | ok _ =>
    rw [ofPair_of_ok computed]
    exact here
  | error _ =>
    rw [ofPair_of_error computed]
    exact here

theorem Keeps.computes {compute : State → Except Error (State × Result)}
    (kept : ∀ before after result, compute before = .ok (after, result) →
      part after = part before) :
    Keeps part (ofChange compute) := by
  intro before
  cases computed : compute before with
  | error _ =>
    rw [ofChange_of_error computed]
    rfl
  | ok changed =>
    rw [ofChange_of_ok computed]
    exact kept before changed.1 changed.2 computed

end Library
