import Mathlib.Data.List.Basic
import Mathlib.Data.List.Nodup

/-!
# Runs of partial step functions

A step function refuses an event that is not enabled by answering `none`.
-/

namespace Library

universe u v

section

variable {State : Type u} {Event : Type v}

/-- Execute the events in order. One refused event refuses the whole run. -/
def runEvents (step : State → Event → Option State) :
    State → List Event → Option State
  | state, [] => some state
  | state, event :: events => (step state event).bind fun next => runEvents step next events

/-- Every transition that the run takes satisfies `property`. -/
def EveryStep (step : State → Event → Option State) (property : State → Event → State → Prop) :
    State → List Event → Prop
  | _, [] => True
  | state, event :: events =>
    ∀ next, step state event = some next →
      property state event next ∧ EveryStep step property next events

/-- Every event of the run starts in a state that satisfies `guard`. -/
def StepsMeet (step : State → Event → Option State)
    (guard : State → Event → Prop) (state : State) (events : List Event) :
    Prop :=
  EveryStep step (fun source event _ => guard source event) state events

variable {step : State → Event → Option State}

@[simp]
theorem runEvents_nil (state : State) :
    runEvents step state [] = some state := rfl

theorem runEvents_cons_some {state target : State} {event : Event} {events : List Event} :
    runEvents step state (event :: events) = some target ↔ ∃ next, step state event = some next ∧
        runEvents step next events = some target := by
  simp only [runEvents, Option.bind_eq_some_iff]

theorem everyStep_cons_iff {property : State → Event → State → Prop}
    {state next : State} {event : Event} {events : List Event}
    (taken : step state event = some next) :
    EveryStep step property state (event :: events) ↔
      property state event next ∧ EveryStep step property next events := by
  constructor
  · intro every
    exact every next taken
  · intro holds other takenOther
    rw [taken] at takenOther
    cases takenOther
    exact holds

theorem everyStep_mono {first second : State → Event → State → Prop} (implies : ∀ state event next,
      first state event next → second state event next)
    {state : State} {events : List Event}
    (every : EveryStep step first state events) :
    EveryStep step second state events := by
  induction events generalizing state with
  | nil => trivial
  | cons event _ ih =>
    intro next taken
    obtain ⟨here, later⟩ := every next taken
    exact ⟨implies state event next here, ih later⟩

theorem everyStep_of_append {property : State → Event → State → Prop}
    {state middle : State} {first second : List Event}
    (every : EveryStep step property state (first ++ second))
    (run : runEvents step state first = some middle) :
    EveryStep step property middle second := by
  induction first generalizing state with
  | nil =>
    cases run
    exact every
  | cons _ _ ih =>
    obtain ⟨next, taken, rest⟩ := runEvents_cons_some.mp run
    exact ih (every next taken).2 rest

/-- A run over a decidable property of its steps can be checked by executing
it. -/
instance decidableEveryStep {property : State → Event → State → Prop}
    [∀ state event next, Decidable (property state event next)] :
    ∀ state events, Decidable (EveryStep step property state events)
  | _, [] => isTrue trivial
  | state, event :: events =>
    match taken : step state event with
    | none => isTrue (by
        intro next takenNext
        rw [taken] at takenNext
        cases takenNext)
    | some next =>
      have _rest : Decidable (EveryStep step property next events) := decidableEveryStep next events
      decidable_of_iff (property state event next ∧ EveryStep step property next events)
        (everyStep_cons_iff taken).symm

instance {guard : State → Event → Prop} [∀ state event, Decidable (guard state event)]
    (state : State) (events : List Event) :
    Decidable (StepsMeet step guard state events) :=
  inferInstanceAs (Decidable (EveryStep step _ state events))

/-- The invariant rule for runs with a guard: the guard may be used at every
step because the run meets it there. -/
theorem runEvents_invariant_of_guard (guard : State → Event → Prop) {invariant : State → Prop}
    (preserved : ∀ state event next, invariant state → guard state event →
        step state event = some next → invariant next)
    {state target : State} {events : List Event}
    (initial : invariant state)
    (meets : StepsMeet step guard state events)
    (run : runEvents step state events = some target) :
    invariant target := by
  induction events generalizing state with
  | nil =>
    cases run
    exact initial
  | cons event _ ih =>
    obtain ⟨next, taken, rest⟩ := runEvents_cons_some.mp run
    obtain ⟨guarded, restMeets⟩ := (everyStep_cons_iff taken).mp meets
    exact ih (preserved state event next initial guarded taken) restMeets rest

theorem stepsMeet_true (state : State) (events : List Event) :
    StepsMeet step (fun _ _ => True) state events := by
  induction events generalizing state with
  | nil => trivial
  | cons _ _ ih =>
    intro next _
    exact ⟨trivial, ih next⟩

/-- The invariant rule for runs: what holds at the start and is preserved by
every step holds at the end. -/
theorem runEvents_invariant {invariant : State → Prop} (preserved : ∀ state event next,
      invariant state → step state event = some next → invariant next)
    {state target : State} {events : List Event}
    (initial : invariant state)
    (run : runEvents step state events = some target) :
    invariant target :=
  runEvents_invariant_of_guard (fun _ _ => True)
    (fun source event next holds _ taken => preserved source event next holds taken)
    initial (stepsMeet_true state events) run

/-- Two step properties hold of the same runs when they agree at the states of
an invariant that the steps with the second property preserve. -/
theorem everyStep_iff_of_invariant {first second : State → Event → State → Prop}
    {invariant : State → Prop}
    (preserved : ∀ state event next, invariant state → second state event next →
        step state event = some next → invariant next)
    (agree : ∀ state event next, invariant state → step state event = some next →
        (first state event next ↔ second state event next))
    {state : State} (initial : invariant state) (events : List Event) :
    EveryStep step first state events ↔ EveryStep step second state events := by
  induction events generalizing state with
  | nil => exact .rfl
  | cons event _ ih =>
    refine forall_congr' fun next => forall_congr' fun taken => ?_
    rw [agree state event next initial taken]
    refine and_congr_right fun holds => ?_
    exact ih (preserved state event next initial holds taken)

/-- A property of single transitions that is reflexive on states and composes
holds between the two ends of a run. -/
theorem runEvents_related {related : State → State → Prop} (refl : ∀ state, related state state)
    (trans : ∀ {first second third},
      related first second → related second third → related first third)
    {state target : State} {events : List Event}
    (every : EveryStep step (fun source _ next => related source next) state events)
    (run : runEvents step state events = some target) :
    related state target := by
  induction events generalizing state with
  | nil =>
    cases run
    exact refl _
  | cons _ _ ih =>
    obtain ⟨_, taken, rest⟩ := runEvents_cons_some.mp run
    obtain ⟨here, later⟩ := (everyStep_cons_iff taken).mp every
    exact trans here (ih later rest)

section

variable {Entry : Type v} (log : State → List Entry)

/-- A log that some steps extend by one entry has no duplicate at the end of a
run exactly when every entry was fresh as it was added. -/
theorem nodup_log_iff_of_invariant {guard : State → Event → Prop} {invariant : State → Prop}
    (preserved : ∀ state event next,
      invariant state → step state event = some next → invariant next)
    (extended : ∀ state event next, invariant state → step state event = some next →
        (log next = log state ∧ guard state event) ∨ ∃ entry, log next = log state ++ [entry] ∧
            (guard state event ↔ entry ∉ log state))
    {state target : State} {events : List Event}
    (initial : invariant state) (fresh : (log state).Nodup)
    (run : runEvents step state events = some target) :
    (log target).Nodup ↔ StepsMeet step guard state events := by
  have kept : ∀ (first second : State) (events : List Event),
      invariant first → runEvents step first events = some second → log first <+: log second := by
    intro first second events
    induction events generalizing first with
    | nil =>
      intro _ run
      cases run
      exact List.prefix_rfl
    | cons event _ ih =>
      intro holds run
      obtain ⟨next, taken, rest⟩ := runEvents_cons_some.mp run
      have later := ih next (preserved first event next holds taken) rest
      rcases extended first event next holds taken with
        ⟨same, _⟩ | ⟨entry, added, _⟩
      · rw [← same]
        exact later
      · exact (List.prefix_append _ [entry]).trans (added ▸ later)
  induction events generalizing state with
  | nil =>
    cases run
    exact iff_of_true fresh trivial
  | cons event events ih =>
    obtain ⟨next, taken, rest⟩ := runEvents_cons_some.mp run
    have holds := preserved state event next initial taken
    refine Iff.trans ?_ (everyStep_cons_iff taken).symm
    rcases extended state event next initial taken with
      ⟨same, guarded⟩ | ⟨entry, added, guarded⟩
    · exact (ih holds (same ▸ fresh) rest).trans (and_iff_right guarded).symm
    · by_cases new : entry ∈ log state
      · -- The duplicate stays in the log to the end of the run.
        have duplicate : ¬ (log next).Nodup := by
          rw [added, List.nodup_append]
          intro nodup
          exact nodup.2.2 entry new entry (List.mem_singleton_self entry) rfl
        refine iff_of_false ?_ fun meets => (guarded.mp meets.1) new
        intro nodup
        exact duplicate (nodup.sublist (kept next target events holds rest).sublist)
      · have nodup : (log next).Nodup := by
          rw [added]
          exact fresh.append (List.nodup_singleton entry) (List.disjoint_singleton.mpr new)
        exact (ih holds nodup rest).trans (and_iff_right (guarded.mpr new)).symm

end

end

end Library

/-!
## Histories

A history is a list of entries that only grows at its end. A gated history has
no entry of one kind before the first entry of another kind.
-/

namespace Library

universe u

section

variable {Entry : Type u} (gate gated : Entry → Prop)

def GatedHistory (history : List Entry) : Prop :=
  ∀ before entry after, history = before ++ entry :: after →
    gated entry → ∃ earlier ∈ before, gate earlier

variable {gate gated}

@[simp]
theorem gatedHistory_nil : GatedHistory gate gated [] := by
  intro before entry after split
  exact absurd split.symm (by simp)

/-- A history stays gated exactly when the entry that is added is no gated
one or finds a gate. -/
theorem gatedHistory_append_singleton {history : List Entry} {added : Entry} :
    GatedHistory gate gated (history ++ [added]) ↔ GatedHistory gate gated history ∧
        (gated added → ∃ earlier ∈ history, gate earlier) := by
  constructor
  · intro holds
    constructor
    · intro before entry after split picked
      apply holds before entry (after ++ [added]) _ picked
      rw [split, List.append_assoc, List.cons_append]
    · intro picked
      exact holds history added [] rfl picked
  · rintro ⟨earlierHolds, addedHolds⟩ before entry after split picked
    rcases List.eq_nil_or_concat after with rfl | ⟨rest, _, rfl⟩
    · obtain ⟨rfl, same⟩ := List.append_inj' split rfl
      cases same
      exact addedHolds picked
    · rw [List.concat_eq_append, ← List.cons_append, ← List.append_assoc] at split
      obtain ⟨same, _⟩ := List.append_inj' split rfl
      exact earlierHolds before entry rest same picked

end

end Library
