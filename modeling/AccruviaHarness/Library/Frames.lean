import AccruviaHarness.Library.Obstacles
import Mathlib.Order.Defs.Unbundled

/-!
# What a program leaves alone

A program may keep a part of its state, wherever it raises. The parts of the
program are looked at one after the other.
-/

namespace Library

universe u

variable {Error State Result Next : Type u}

def stateOf : EStateM.Result Error State Result → State
  | .ok _ after => after
  | .error _ left => left

def Keeps {Value : Type u} (part : State → Value) (program : EStateM Error State Result) : Prop :=
  ∀ before, part (stateOf (program before)) = part before

namespace Keeps

variable {Value : Type u} {part : State → Value}
  {program : EStateM Error State Result}
  {rest : Result → EStateM Error State Next}

theorem of_part {Other : Type u} (kept : Keeps part program)
    (read : Value → Other) : Keeps (fun state => read (part state)) program :=
  fun before => congrArg read (kept before)

theorem returns (result : Result) : Keeps part (pure result : EStateM Error State Result) :=
  fun _ => rfl

theorem raises (error : Error) : Keeps part (throw error : EStateM Error State Result) :=
  fun _ => rfl

theorem value (outcome : Except Error Result) :
    Keeps part (valueOf outcome : EStateM Error State Result) := by
  intro before
  cases outcome <;> rfl

theorem reads : Keeps part (get : EStateM Error State State) := fun _ => rfl

theorem bind (first : Keeps part program) (second : ∀ result, Keeps part (rest result)) :
    Keeps part (program >>= rest) := by
  intro before
  show part (stateOf (EStateM.bind program rest before)) = _
  have kept := first before
  unfold EStateM.bind
  cases ended : program before with
  | ok result middle =>
    rw [ended] at kept
    exact (second result middle).trans kept
  | error _ _ =>
    rw [ended] at kept
    exact kept

theorem choice {condition : Prop} [Decidable condition] {first second : EStateM Error State Result}
    (kept : Keeps part first) (otherKept : Keeps part second) :
    Keeps part (if condition then first else second) := by
  split
  · exact kept
  · exact otherKept

theorem step (obstacle : Option Error) :
    Keeps part (raiseIf obstacle : EStateM Error State PUnit) := by
  cases obstacle with
  | none => exact returns _
  | some error => exact raises error

theorem steps (obstacles : List (Option Error)) :
    Keeps part (raiseFirst obstacles : EStateM Error State PUnit) := by
  induction obstacles with
  | nil => exact returns _
  | cons obstacle _ ih => exact bind (step obstacle) fun _ => ih

theorem changes {change : State → Result × State}
    (kept : ∀ before, part (change before).2 = part before) :
    Keeps part (modifyGet change : EStateM Error State Result) :=
  kept

theorem update {compute : State → Except Error State} {next : EStateM Error State Next}
    (kept : ∀ before after, compute before = .ok after → part after = part before)
    (later : Keeps part next) :
    Keeps part (do
      let before ← get
      let after ← valueOf (compute before)
      set after
      next : EStateM Error State Next) := by
  intro before
  show part (stateOf (EStateM.bind (valueOf (compute before)) _ before)) = _
  cases computed : compute before with
  | error _ => rfl
  | ok after => exact (later after).trans (kept before after computed)

theorem caught {handler : Error → EStateM Error State Result} (first : Keeps part program)
    (second : ∀ error, Keeps part (handler error)) :
    Keeps part (tryCatch program handler) := by
  intro before
  show part (stateOf (EStateM.tryCatch program handler before)) = _
  have kept := first before
  unfold EStateM.tryCatch
  cases ended : program before with
  | ok _ _ =>
    rw [ended] at kept
    exact kept
  | error error left =>
    rw [ended] at kept
    exact (second error left).trans kept

end Keeps

variable {program : EStateM Error State Result}
  {rest : Result → EStateM Error State Next} {before after : State}

variable {result : Result} {error : Error}
  {compute : State → Except Error State}

theorem bind_of_ok {middle : State} (returned : program before = .ok result middle) :
    (program >>= rest) before = rest result middle := by
  show EStateM.bind program rest before = _
  unfold EStateM.bind
  rw [returned]

theorem bind_of_error {left : State} (raised : program before = .error error left) :
    (program >>= rest) before = .error error left := by
  show EStateM.bind program rest before = _
  unfold EStateM.bind
  rw [raised]

theorem ok_of_bind {final : Next} (returned : (program >>= rest) before = .ok final after) :
    ∃ result middle, program before = .ok result middle ∧ rest result middle = .ok final after := by
  have bound : EStateM.bind program rest before = .ok final after := returned
  unfold EStateM.bind at bound
  cases ended : program before with
  | ok result middle =>
    rw [ended] at bound
    exact ⟨result, middle, rfl, bound⟩
  | error _ _ =>
    rw [ended] at bound
    cases bound

theorem ok_of_valueOf {outcome : Except Error Result}
    (returned : (valueOf outcome : EStateM Error State Result) before =
      .ok result after) : after = before ∧ outcome = .ok result := by
  cases outcome with
  | ok _ =>
    cases returned
    exact ⟨rfl, rfl⟩
  | error _ => cases returned

section

variable {Item : Type u} {step : Result → Item → EStateM Error State Result}
  {items : List Item} {start final : Result} {before after : State}

theorem loop_invariant (invariant : Result → State → Prop)
    (kept : ∀ result, ∀ item ∈ items, ∀ state next changed,
      invariant result state → step result item state = .ok next changed → invariant next changed)
    (returned : items.foldlM step start before = .ok final after)
    (holds : invariant start before) : invariant final after := by
  induction items generalizing start before with
  | nil =>
    cases returned
    exact holds
  | cons item _ ih =>
    rw [List.foldlM_cons] at returned
    obtain ⟨next, middle, round, later⟩ := ok_of_bind returned
    apply ih _ later
    · exact kept start item List.mem_cons_self before next middle holds round
    · intro result other member
      exact kept result other (List.mem_cons_of_mem _ member)

end

def tryChange (compute : State → Except Error State) :
    EStateM Error State PUnit := do
  let before ← get
  let after ← valueOf (compute before)
  set after

theorem tryChange_of_ok (computed : compute before = .ok after) :
    tryChange compute before = .ok ⟨⟩ after := by
  show EStateM.bind (valueOf (compute before)) _ before = _
  rw [computed]
  rfl

theorem tryChange_of_error (refused : compute before = .error error) :
    tryChange compute before = .error error before := by
  show EStateM.bind (valueOf (compute before)) _ before = _
  rw [refused]
  rfl

/-- The state that a program ends in is related to the one it starts in. -/
def Follows (related : State → State → Prop) (program : EStateM Error State Result) : Prop :=
  ∀ before, related before (stateOf (program before))

namespace Follows

variable {program : EStateM Error State Result}
  {rest : Result → EStateM Error State Next}

variable {first second related : State → State → Prop}

theorem seq {whole : State → State → Prop} (head : Follows first program)
    (tail : ∀ before result middle, program before = .ok result middle →
      second middle (stateOf (rest result middle)))
    (stops : ∀ before left, first before left → whole before left)
    (goesOn : ∀ before middle after,
      first before middle → second middle after → whole before after) :
    Follows whole (program >>= rest) := by
  intro before
  show whole before (stateOf (EStateM.bind program rest before))
  have followed := head before
  unfold EStateM.bind
  cases ended : program before with
  | ok result middle =>
    rw [ended] at followed
    exact goesOn before middle _ followed (tail before result middle ended)
  | error _ left =>
    rw [ended] at followed
    exact stops before left followed

theorem mono (followed : Follows first program)
    (implies : ∀ before after, first before after → second before after) :
    Follows second program :=
  fun before => implies _ _ (followed before)

theorem changes {change : State → Result × State}
    (moves : ∀ before, related before (change before).2) :
    Follows related (modifyGet change : EStateM Error State Result) :=
  moves

section

variable {related : State → State → Prop}

theorem bind [IsTrans State related] (head : Follows related program)
    (tail : ∀ result, Follows related (rest result)) :
    Follows related (program >>= rest) :=
  head.seq (fun _ result middle _ => tail result middle) (fun _ _ stopped => stopped)
    fun _ _ _ first second => trans_of related first second

variable [Std.Refl related]

theorem returns (result : Result) : Follows related (pure result : EStateM Error State Result) :=
  refl_of related

theorem raises (error : Error) : Follows related (throw error : EStateM Error State Result) :=
  refl_of related

theorem reads : Follows related (get : EStateM Error State State) := refl_of related

theorem value (outcome : Except Error Result) :
    Follows related (valueOf outcome : EStateM Error State Result) := by
  cases outcome with
  | ok result => exact returns result
  | error error => exact raises error

theorem raisesIf (obstacle : Option Error) :
    Follows related (raiseIf obstacle : EStateM Error State PUnit) := by
  cases obstacle with
  | none => exact returns _
  | some error => exact raises error

variable {compute : State → Except Error State}

theorem update [IsTrans State related] {next : EStateM Error State Next}
    (moves : ∀ before after, compute before = .ok after → related before after)
    (later : Follows related next) :
    Follows related (do
      let before ← get
      let after ← valueOf (compute before)
      set after
      next : EStateM Error State Next) := by
  intro before
  show related before (stateOf (EStateM.bind (valueOf (compute before)) _ before))
  cases computed : compute before with
  | error _ => exact refl_of related before
  | ok after => exact trans_of related (moves before after computed) (later after)

theorem loop [IsTrans State related] {Item : Type u}
    {step : Result → Item → EStateM Error State Result} {items : List Item}
    (round : ∀ result, ∀ item ∈ items, Follows related (step result item))
    (result : Result) : Follows related (items.foldlM step result) := by
  induction items generalizing result with
  | nil => exact returns result
  | cons item _ ih =>
    rw [List.foldlM_cons]
    have here := round result item List.mem_cons_self
    exact here.bind <| ih fun result item member =>
      round result item (List.mem_cons_of_mem _ member)

theorem tries (moves : ∀ before after, compute before = .ok after → related before after) :
    Follows related (tryChange compute) := by
  intro before
  cases computed : compute before with
  | ok after =>
    rw [tryChange_of_ok computed]
    exact moves before after computed
  | error _ =>
    rw [tryChange_of_error computed]
    exact refl_of related before

end

theorem caught {handling : State → State → Prop} {handler : Error → EStateM Error State Result}
    (first : Follows related program)
    (second : ∀ error, Follows handling (handler error))
    (absorbs : ∀ before left after,
      related before left → handling left after → related before after) :
    Follows related (tryCatch program handler) := by
  intro before
  show related before (stateOf (EStateM.tryCatch program handler before))
  have followed := first before
  unfold EStateM.tryCatch
  cases ended : program before with
  | ok _ _ =>
    rw [ended] at followed
    exact followed
  | error error left =>
    rw [ended] at followed
    exact absorbs before left _ followed (second error left)

end Follows

theorem stateOf_withCleanup (change : State → State) (before : State) :
    stateOf (withCleanup program (modify change) before) =
      change (stateOf (program before)) := by
  unfold withCleanup
  cases program before <;> rfl

end Library
