import AccruviaHarness.Library.WeightedTables
import Mathlib.Algebra.Order.Field.Rat
import Mathlib.Tactic.Linarith

/-!
# The availability gate

The gate probes the backends and keeps what it found for a while. After a
failed probing it waits, longer each time, and says when it will probe again.
-/

namespace AccruviaHarness

open Library List

/-- What a probe says under `ok`. What it depends on and changes is the
world. -/
abbrev ProbeFn (World : Type) := String → World → Bool × World

/-- The arguments of `LLMAvailabilityGate`, with its defaults. -/
structure GateConfig where
  commands : List (String × String) := []
  cacheTtl : ℚ := 60
  backoffSeconds : ℚ := 30
  maxBackoffSeconds : ℚ := 3600

structure LLMAvailabilityGate extends GateConfig where
  available : Option Bool := none
  checkedAt : ℚ := 0
  unavailableUntil : ℚ := 0
  probeResults : KeyedTable (Prod.fst : String × Bool → String) := .empty _

inductive GateAnswer where
  | backingOff
  | cached (available : Bool)
  | probed (available : Bool)
deriving DecidableEq

namespace GateAnswer

def available : GateAnswer → Bool
  | backingOff => false
  | cached available => available
  | probed available => available

def outcome : GateAnswer → Option Bool
  | probed available => some available
  | _ => none

end GateAnswer

namespace LLMAvailabilityGate

variable {World : Type}

def probeCommands (probe : ProbeFn World) :
    List (String × String) → LLMAvailabilityGate → World → Bool × LLMAvailabilityGate × World
  | [], gate, world => (false, gate, world)
  | (name, command) :: rest, gate, world =>
    if command = "" then probeCommands probe rest gate world
    else
      let (ok, world) := probe command world
      let gate := { gate with probeResults := gate.probeResults.upsert (name, ok) }
      if ok then (true, { gate with available := some true, backoffSeconds := 30 }, world)
      else probeCommands probe rest gate world

def cachedResult (gate : LLMAvailabilityGate) (now : ℚ) : Option Bool :=
  if now - gate.checkedAt < gate.cacheTtl then gate.available else none

def isAvailable (probe : ProbeFn World) (gate : LLMAvailabilityGate) (now : ℚ)
    (world : World) : GateAnswer × LLMAvailabilityGate × World :=
  if now < gate.unavailableUntil then (.backingOff, gate, world)
  else
    match gate.cachedResult now with
    | some available => (.cached available, gate, world)
    | none =>
      let gate := { gate with checkedAt := now, probeResults := .empty _ }
      match probeCommands probe gate.commands gate world with
      | (true, gate, world) => (.probed true, gate, world)
      | (false, gate, world) =>
        (.probed false,
          { gate with
            available := some false, unavailableUntil := now + gate.backoffSeconds
            backoffSeconds := min (gate.backoffSeconds * 2) gate.maxBackoffSeconds },
          world)

def secondsUntilRetry (gate : LLMAvailabilityGate) (now : ℚ) : ℚ :=
  max 0 (gate.unavailableUntil - now)

/-! ## What one call does -/

section

variable (probe : ProbeFn World)

theorem probeCommands_spec (commands : List (String × String)) (gate : LLMAvailabilityGate)
    (world : World) :
    ∃ results world', probeCommands probe commands gate world =
          (false, { gate with probeResults := results }, world') ∨
        (∃ entry ∈ commands, entry.2 ≠ "") ∧ probeCommands probe commands gate world = (true,
              { gate with
                probeResults := results, available := some true, backoffSeconds := 30 },
              world') := by
  induction commands generalizing gate world with
  | nil => exact ⟨gate.probeResults, world, .inl rfl⟩
  | cons entry rest ih =>
    obtain ⟨name, command⟩ := entry
    rw [probeCommands]
    by_cases skipped : command = ""
    · obtain ⟨results, world', probed⟩ := ih gate world
      refine ⟨results, world', ?_⟩
      rw [if_pos skipped]
      exact probed.imp_right fun found =>
        ⟨found.1.imp fun _ later => ⟨mem_cons_of_mem _ later.1, later.2⟩, found.2⟩
    · rw [if_neg skipped]
      rcases probe command world with ⟨ok, next⟩
      cases ok with
      | true => exact ⟨_, next, .inr ⟨⟨_, mem_cons_self, skipped⟩, rfl⟩⟩
      | false =>
        obtain ⟨results, world', probed⟩ := ih
          { gate with
            probeResults := gate.probeResults.upsert (name, false) } next
        refine ⟨results, world', ?_⟩
        exact probed.imp id fun found => ⟨⟨_, mem_cons_self, skipped⟩, found.2⟩

inductive Probing (gate : LLMAvailabilityGate) (now : ℚ) :
    GateAnswer → LLMAvailabilityGate → Prop where
  | succeeded (results : KeyedTable (Prod.fst : String × Bool → String))
      (tried : ∃ entry ∈ gate.commands, entry.2 ≠ "") :
      Probing gate now (.probed true)
        { gate with
          checkedAt := now, probeResults := results, available := some true
          backoffSeconds := 30 }
  | failed (results : KeyedTable (Prod.fst : String × Bool → String)) :
      Probing gate now (.probed false)
        { gate with
          checkedAt := now, probeResults := results, available := some false
          unavailableUntil := now + gate.backoffSeconds
          backoffSeconds := min (gate.backoffSeconds * 2) gate.maxBackoffSeconds }

variable {gate after : LLMAvailabilityGate} {now : ℚ}

theorem Probing.outcome_isSome {answer : GateAnswer}
    (probing : Probing gate now answer after) : answer.outcome.isSome := by
  cases probing with
  | succeeded => rfl
  | failed => rfl

theorem Probing.of_succeeded (probing : Probing gate now (.probed true) after) :
    ∃ results, after =
      { gate with
        checkedAt := now, probeResults := results, available := some true
        backoffSeconds := 30 } := by
  cases probing with
  | succeeded results tried => exact ⟨results, rfl⟩

theorem Probing.of_failed (probing : Probing gate now (.probed false) after) :
    ∃ results, after =
      { gate with
        checkedAt := now, probeResults := results, available := some false
        unavailableUntil := now + gate.backoffSeconds
        backoffSeconds :=
          min (gate.backoffSeconds * 2) gate.maxBackoffSeconds } := by
  cases probing with
  | failed results => exact ⟨results, rfl⟩

theorem isAvailable_of_backingOff (world : World) (early : now < gate.unavailableUntil) :
    gate.isAvailable probe now world = (.backingOff, gate, world) := by
  rw [isAvailable, if_pos early]

theorem isAvailable_of_cached {available : Bool}
    (world : World) (ready : gate.unavailableUntil ≤ now)
    (valid : gate.cachedResult now = some available) :
    gate.isAvailable probe now world = (.cached available, gate, world) := by
  rw [isAvailable, if_neg ready.not_gt, valid]

theorem isAvailable_of_probing (world : World) (ready : gate.unavailableUntil ≤ now)
    (expired : gate.cachedResult now = none) :
    Probing gate now (gate.isAvailable probe now world).1
      (gate.isAvailable probe now world).2.1 := by
  rw [isAvailable, if_neg ready.not_gt, expired]
  obtain ⟨results, world', failed | ⟨tried, succeeded⟩⟩ :=
    probeCommands_spec probe gate.commands
      { gate with checkedAt := now, probeResults := .empty _ } world
  · simp only [failed]
    exact .failed results
  · simp only [succeeded]
    exact .succeeded results tried

theorem isAvailable_cases (gate : LLMAvailabilityGate) (now : ℚ) (world : World) :
    (now < gate.unavailableUntil ∧ gate.isAvailable probe now world = (.backingOff, gate, world)) ∨
      (gate.unavailableUntil ≤ now ∧ ∃ available, gate.available = some available ∧
          now - gate.checkedAt < gate.cacheTtl ∧
            gate.isAvailable probe now world = (.cached available, gate, world)) ∨
      (gate.unavailableUntil ≤ now ∧ Probing gate now (gate.isAvailable probe now world).1
          (gate.isAvailable probe now world).2.1) := by
  rcases lt_or_ge now gate.unavailableUntil with early | ready
  · exact .inl ⟨early, isAvailable_of_backingOff probe world early⟩
  · right
    cases valid : gate.cachedResult now with
    | none => exact .inr ⟨ready, isAvailable_of_probing probe world ready valid⟩
    | some available =>
      have answered := isAvailable_of_cached probe world ready valid
      unfold cachedResult at valid
      split at valid
      next fresh => exact .inl ⟨ready, available, valid, fresh, answered⟩
      · cases valid

end

/-! ## The retry contract -/

def Follows (calls : List (ℚ × GateAnswer)) (now : ℚ) : Prop := ∀ earlier ∈ calls, earlier.1 ≤ now

inductive Reached (config : GateConfig) (probe : ProbeFn World) :
    List (ℚ × GateAnswer) → LLMAvailabilityGate → Prop where
  | created : Reached config probe [] { config with }
  | call {calls : List (ℚ × GateAnswer)} {gate : LLMAvailabilityGate}
      (now : ℚ) (world : World) (reached : Reached config probe calls gate)
      (ordered : Follows calls now) :
      Reached config probe (calls ++ [(now, (gate.isAvailable probe now world).1)])
        (gate.isAvailable probe now world).2.1

def outcomes (calls : List (ℚ × GateAnswer)) : List Bool :=
  calls.filterMap fun call => call.2.outcome

/-- The wait after the next failed probing, from the outcomes before it: it
doubles with each failure up to the bound, and a success resets it to the
configured one. A wait is never negative. -/
def expectedWait (config : GateConfig) (outcomes : List Bool) : ℚ :=
  outcomes.foldl
    (fun wait ok =>
      if ok then max 0 config.backoffSeconds
      else max 0 (min (wait * 2) config.maxBackoffSeconds))
    (max 0 config.backoffSeconds)

/-- A call that is made when it was announced, or later, probes again, and the
announced waits are the expected ones. -/
structure KeepsRetryContract
    (config : GateConfig) (probe : ProbeFn World) : Prop where
  probesAgain : ∀ {calls gate}, Reached config probe calls gate → ∀ now, Follows calls now →
    ∀ world answer after world', gate.isAvailable probe now world = (answer, after, world') →
      answer.available = false →
    ∀ asked later, now ≤ asked → asked + after.secondsUntilRetry asked ≤ later →
    ∀ world, ((after.isAvailable probe later world).1.outcome).isSome
  announces : ∀ {calls gate}, Reached config probe calls gate → ∀ now, Follows calls now →
    ∀ world after world', gate.isAvailable probe now world = (.probed false, after, world') →
    ∀ asked, now ≤ asked →
      after.secondsUntilRetry asked = max 0 (now + expectedWait config (outcomes calls) - asked)

structure KeepsPace (config : GateConfig) : Prop where
  first : config.cacheTtl ≤ max 0 config.backoffSeconds
  bound : config.cacheTtl ≤ max 0 config.maxBackoffSeconds
  reset : (∃ entry ∈ config.commands, entry.2 ≠ "") →
    config.backoffSeconds = 30

/-! ## Waits -/

section

variable (config : GateConfig)

@[simp]
theorem outcomes_append_singleton (calls : List (ℚ × GateAnswer)) (now : ℚ) (answer : GateAnswer) :
    outcomes (calls ++ [(now, answer)]) = outcomes calls ++ answer.outcome.toList := by
  unfold outcomes
  rw [filterMap_append]
  cases answer <;> rfl

@[simp]
theorem expectedWait_success (outcomes : List Bool) :
    expectedWait config (outcomes ++ [true]) = max 0 config.backoffSeconds := by
  simp [expectedWait]

@[simp]
theorem expectedWait_failure (outcomes : List Bool) :
    expectedWait config (outcomes ++ [false]) =
      max 0 (min (expectedWait config outcomes * 2) config.maxBackoffSeconds) := by
  simp [expectedWait]

theorem max_min_double (backoff bound : ℚ) :
    max 0 (min (max 0 backoff * 2) bound) = max 0 (min (backoff * 2) bound) := by
  rcases le_total 0 backoff with positive | negative
  · rw [max_eq_right positive]
  · have doubled : min (backoff * 2) bound ≤ 0 := (min_le_left _ _).trans (by linarith)
    have zero : min ((0 : ℚ) * 2) bound ≤ 0 := by simp
    rw [max_eq_left negative, max_eq_left doubled, max_eq_left zero]

theorem le_next_wait {cacheTtl backoff bound : ℚ}
    (first : cacheTtl ≤ max 0 backoff) (last : cacheTtl ≤ max 0 bound) :
    cacheTtl ≤ max 0 (min (backoff * 2) bound) := by
  rcases le_or_gt cacheTtl 0 with none | some
  · exact none.trans (le_max_left _ _)
  · have backoffLong : cacheTtl ≤ backoff := (le_max_iff.mp first).resolve_left some.not_ge
    have boundLong : cacheTtl ≤ bound := (le_max_iff.mp last).resolve_left some.not_ge
    have doubled : cacheTtl ≤ backoff * 2 := by linarith
    exact (le_min doubled boundLong).trans (le_max_right _ _)

end

/-! ## Gates that keep the contract -/

structure Waiting (gate : LLMAvailabilityGate) (now : ℚ) : Prop where
  notAvailable : gate.available ≠ some true
  window : gate.available = some false → gate.checkedAt ≤ now ∧
      gate.cacheTtl ≤ max 0 (gate.unavailableUntil - gate.checkedAt)

variable {gate : LLMAvailabilityGate} {now later : ℚ} {config : GateConfig}
  {calls : List (ℚ × GateAnswer)}

theorem Waiting.expired (waiting : gate.Waiting now) (after : now ≤ later)
    (ready : gate.unavailableUntil ≤ later) :
    gate.cachedResult later = none := by
  unfold cachedResult
  split
  next fresh =>
    match found : gate.available with
    | none => rfl
    | some true => exact absurd found waiting.notAvailable
    | some false =>
      obtain ⟨checked, kept⟩ := waiting.window found
      have passed : max 0 (gate.unavailableUntil - gate.checkedAt) ≤ later - gate.checkedAt := by
        apply max_le <;> linarith
      exact absurd fresh (kept.trans passed).not_gt
  · rfl

theorem Waiting.probes {asked : ℚ}
    (probe : ProbeFn World) (world : World) (waiting : gate.Waiting now)
    (after : now ≤ asked)
    (due : asked + gate.secondsUntilRetry asked ≤ later) :
    ((gate.isAvailable probe later world).1.outcome).isSome := by
  have notNegative : 0 ≤ gate.secondsUntilRetry asked := le_max_left _ _
  have remaining : gate.unavailableUntil - asked ≤ gate.secondsUntilRetry asked := le_max_right _ _
  have ready : gate.unavailableUntil ≤ later := by linarith
  have expired : gate.cachedResult later = none := waiting.expired (after.trans (by linarith)) ready
  exact (isAvailable_of_probing probe world ready expired).outcome_isSome

structure Paced
    (config : GateConfig) (calls : List (ℚ × GateAnswer))
    (gate : LLMAvailabilityGate) : Prop where
  commands : gate.commands = config.commands
  cacheTtl : gate.cacheTtl = config.cacheTtl
  bound : gate.maxBackoffSeconds = config.maxBackoffSeconds
  wait : max 0 gate.backoffSeconds = expectedWait config (outcomes calls)
  pace : gate.cacheTtl ≤ max 0 gate.backoffSeconds
  opened : ∀ now, Follows calls now → gate.available = some true → gate.unavailableUntil ≤ now
  waits : ∀ now, Follows calls now → gate.available ≠ some true → gate.Waiting now

theorem paced_created (keeps : KeepsPace config) :
    Paced config [] { config with } where
  commands := rfl
  cacheTtl := rfl
  bound := rfl
  wait := rfl
  pace := keeps.first
  opened := by
    intro now follows found
    cases found
  waits := by
    intro now follows notFound
    refine ⟨notFound, ?_⟩
    intro found
    cases found

theorem Paced.keep {answer : GateAnswer}
    (paced : Paced config calls gate) (unprobed : answer.outcome = none) :
    Paced config (calls ++ [(now, answer)]) gate where
  commands := paced.commands
  cacheTtl := paced.cacheTtl
  bound := paced.bound
  wait := by simpa [unprobed] using paced.wait
  pace := paced.pace
  opened later follows :=
    paced.opened later fun earlier member => follows earlier (mem_append_left _ member)
  waits later follows :=
    paced.waits later fun earlier member => follows earlier (mem_append_left _ member)

theorem Paced.probing {config : GateConfig} {calls : List (ℚ × GateAnswer)}
    {gate after : LLMAvailabilityGate} {now : ℚ} {answer : GateAnswer}
    (keeps : KeepsPace config) (paced : Paced config calls gate)
    (ready : gate.unavailableUntil ≤ now)
    (probing : Probing gate now answer after) :
    Paced config (calls ++ [(now, answer)]) after := by
  have last : ∀ later, Follows (calls ++ [(now, answer)]) later → now ≤ later := by
    intro later follows
    exact follows (now, answer) (mem_append_right _ (by simp))
  have cacheTtl := paced.cacheTtl
  have bound := paced.bound
  cases probing with
  | succeeded results tried =>
    have reset : config.backoffSeconds = 30 := keeps.reset (paced.commands ▸ tried)
    refine ⟨paced.commands, cacheTtl, bound, ?_, ?_, ?_, ?_⟩
    · simp [GateAnswer.outcome, reset]
    · have kept : gate.cacheTtl ≤ max 0 config.backoffSeconds := cacheTtl ▸ keeps.first
      rwa [reset] at kept
    · intro later follows found
      exact ready.trans (last later follows)
    · intro later follows notFound
      exact absurd rfl notFound
  | failed results =>
    refine ⟨paced.commands, cacheTtl, bound, ?_, ?_, ?_, ?_⟩
    · simp only [outcomes_append_singleton, GateAnswer.outcome,
        Option.toList_some, expectedWait_failure, ← paced.wait, bound]
      exact (max_min_double _ _).symm
    · exact le_next_wait paced.pace (cacheTtl ▸ bound ▸ keeps.bound)
    · intro later follows found
      cases found
    · intro later follows notFound
      refine ⟨notFound, ?_⟩
      intro found
      refine ⟨last later follows, ?_⟩
      simpa using paced.pace

theorem Reached.paced {probe : ProbeFn World} (keeps : KeepsPace config)
    (reached : Reached config probe calls gate) :
    Paced config calls gate := by
  induction reached with
  | created => exact paced_created keeps
  | @call calls gate now world reached ordered ih =>
    rcases isAvailable_cases probe gate now world with
      ⟨early, answered⟩ | ⟨ready, available, _, _, answered⟩ | ⟨ready, probing⟩
    · rw [answered]
      exact ih.keep rfl
    · rw [answered]
      exact ih.keep rfl
    · exact ih.probing keeps ready probing

theorem Paced.waiting_of_unavailable (keeps : KeepsPace config) (paced : Paced config calls gate)
    (follows : Follows calls now) (probe : ProbeFn World) (world : World)
    (unavailable :
      (gate.isAvailable probe now world).1.available = false) :
    (gate.isAvailable probe now world).2.1.Waiting now := by
  rcases isAvailable_cases probe gate now world with
    ⟨early, answered⟩ | ⟨ready, available, found, _, answered⟩ | ⟨ready, probing⟩
  · rw [answered]
    apply paced.waits now follows
    intro found
    exact absurd (paced.opened now follows found) early.not_ge
  · rw [answered] at unavailable ⊢
    apply paced.waits now follows
    rw [found]
    exact fun same => by simp_all [GateAnswer.available]
  · have after := paced.probing keeps ready probing
    revert unavailable after probing
    generalize (gate.isAvailable probe now world).1 = answer
    generalize (gate.isAvailable probe now world).2.1 = left
    intro unavailable probing after
    cases probing with
    | succeeded results tried => cases unavailable
    | failed results =>
      apply after.waits now
      · simpa [Follows, or_imp, forall_and] using follows
      · simp

theorem keepsRetryContract_of_keepsPace (keeps : KeepsPace config)
    (probe : ProbeFn World) : KeepsRetryContract config probe where
  probesAgain := by
    intro calls gate reached now follows world answer after world' answered
      unavailable asked later notBefore due next
    have waiting := (reached.paced keeps).waiting_of_unavailable keeps follows
      probe world (by rw [answered]; exact unavailable)
    rw [answered] at waiting
    exact waiting.probes probe next notBefore due
  announces := by
    intro calls gate reached now follows world after world' answered asked notBefore
    have paced := reached.paced keeps
    rw [← paced.wait]
    rcases isAvailable_cases probe gate now world with
      ⟨early, other⟩ | ⟨ready, available, found, _, other⟩ | ⟨ready, probing⟩
    · rw [answered] at other
      cases other
    · rw [answered] at other
      cases other
    · rw [answered] at probing
      cases probing with
      | failed results =>
        unfold secondsUntilRetry
        rcases le_total 0 gate.backoffSeconds with positive | negative
        · rw [max_eq_right positive]
        · rw [max_eq_left negative, max_eq_left (by simp; linarith), max_eq_left (by linarith)]

/-! ## Gates that do not -/

theorem isAvailable_fst_of_probing (probe : ProbeFn World)
    (world : World) (ready : gate.unavailableUntil ≤ now)
    (expired : gate.cachedResult now = none) :
    (gate.isAvailable probe now world).1 = .probed (probeCommands probe gate.commands
        { gate with checkedAt := now, probeResults := .empty _ } world).1 := by
  rw [isAvailable, if_neg ready.not_gt, expired]
  simp only
  split
  next found => rw [found]
  next found => rw [found]

theorem cacheTtl_le_of_probed {found : Bool} {probe : ProbeFn World} {world : World}
    (kept : gate.available = some found)
    (ready : gate.unavailableUntil ≤ later)
    (probed : ((gate.isAvailable probe later world).1.outcome).isSome) :
    gate.cacheTtl ≤ later - gate.checkedAt := by
  by_contra fresh
  have valid : gate.cachedResult later = some found := by
    rw [cachedResult, if_pos (not_le.mp fresh), kept]
  rw [isAvailable_of_cached probe world ready valid] at probed
  cases probed

def steadyProbe : ProbeFn Bool := fun _ world => (world, world)

theorem probeCommands_steadyProbe (commands : List (String × String)) (gate : LLMAvailabilityGate)
    (world : Bool) :
    (probeCommands steadyProbe commands gate world).1 =
      (world && commands.any fun entry => entry.2 ≠ "") := by
  induction commands generalizing gate with
  | nil => simp [probeCommands]
  | cons entry rest ih =>
    obtain ⟨name, command⟩ := entry
    rw [probeCommands, any_cons]
    by_cases skipped : command = ""
    · rw [if_pos skipped, ih]
      simp [skipped]
    · rw [if_neg skipped]
      cases world with
      | true => simp [steadyProbe, skipped]
      | false => simp [steadyProbe, ih]

theorem isAvailable_steadyProbe_false (ready : gate.unavailableUntil ≤ now)
    (expired : gate.cachedResult now = none) :
    ∃ results world, gate.isAvailable steadyProbe now false = (.probed false,
          { gate with
            checkedAt := now, probeResults := results, available := some false
            unavailableUntil := now + gate.backoffSeconds
            backoffSeconds := min (gate.backoffSeconds * 2) gate.maxBackoffSeconds },
          world) := by
  have answer : (gate.isAvailable steadyProbe now false).1 = .probed false := by
    rw [isAvailable_fst_of_probing steadyProbe false ready expired,
      probeCommands_steadyProbe, Bool.false_and]
  have probing := isAvailable_of_probing steadyProbe false ready expired
  rw [answer] at probing
  obtain ⟨results, left⟩ := probing.of_failed
  exact ⟨results, _, Prod.ext answer (Prod.ext left rfl)⟩

theorem isAvailable_steadyProbe_true (tried : ∃ entry ∈ gate.commands, entry.2 ≠ "")
    (ready : gate.unavailableUntil ≤ now)
    (expired : gate.cachedResult now = none) :
    ∃ results world, gate.isAvailable steadyProbe now true = (.probed true,
          { gate with
            checkedAt := now, probeResults := results, available := some true
            backoffSeconds := 30 },
          world) := by
  have answer : (gate.isAvailable steadyProbe now true).1 = .probed true := by
    rw [isAvailable_fst_of_probing steadyProbe true ready expired, probeCommands_steadyProbe]
    simpa using tried
  have probing := isAvailable_of_probing steadyProbe true ready expired
  rw [answer] at probing
  obtain ⟨results, left⟩ := probing.of_succeeded
  exact ⟨results, _, Prod.ext answer (Prod.ext left rfl)⟩

section

variable {config : GateConfig}

theorem created_failed :
    ∃ results world, isAvailable steadyProbe { config with } 0 false = (.probed false,
          { config with
            probeResults := results, available := some false
            unavailableUntil := 0 + config.backoffSeconds
            backoffSeconds := min (config.backoffSeconds * 2) config.maxBackoffSeconds },
          world) := by
  apply isAvailable_steadyProbe_false
  · exact le_refl 0
  · simp [cachedResult]

theorem cacheTtl_le_first (keeps : KeepsRetryContract config steadyProbe) :
    config.cacheTtl ≤ max 0 config.backoffSeconds := by
  obtain ⟨results, world, failed⟩ := @created_failed config
  have probed := keeps.probesAgain .created 0 (by simp [Follows]) false _ _ _
    failed rfl 0 (max 0 config.backoffSeconds) (le_refl 0)
    (by simp [secondsUntilRetry]) false
  simpa using cacheTtl_le_of_probed rfl (by simp) probed

theorem cacheTtl_le_bound (keeps : KeepsRetryContract config steadyProbe) :
    config.cacheTtl ≤ max 0 config.maxBackoffSeconds := by
  by_contra short
  have first := cacheTtl_le_first keeps
  have bound : config.maxBackoffSeconds < config.cacheTtl :=
    (le_max_right _ _).trans_lt (not_le.mp short)
  have positive : 0 < config.cacheTtl := (le_max_left _ _).trans_lt (not_le.mp short)
  have backoff : config.cacheTtl ≤ config.backoffSeconds :=
    (le_max_iff.mp first).resolve_left positive.not_ge
  obtain ⟨results, world, failed⟩ := @created_failed config
  have reached : Reached config steadyProbe _ _ := .call 0 false .created (by simp [Follows])
  rw [failed] at reached
  have second : min (config.backoffSeconds * 2) config.maxBackoffSeconds =
      config.maxBackoffSeconds := min_eq_right (by linarith)
  simp only [second] at reached
  obtain ⟨laterResults, laterWorld, failedAgain⟩ :=
    @isAvailable_steadyProbe_false
      { config with
        probeResults := results, available := some false
        unavailableUntil := 0 + config.backoffSeconds
        backoffSeconds := config.maxBackoffSeconds }
      config.backoffSeconds (by simp) (by simp [cachedResult, backoff])
  have probed := keeps.probesAgain reached config.backoffSeconds
    (by simp [Follows]; linarith) false _ _ _ failedAgain rfl
    config.backoffSeconds
    (config.backoffSeconds + max 0 config.maxBackoffSeconds) (le_refl _)
    (by simp [secondsUntilRetry]) false
  have kept := cacheTtl_le_of_probed rfl (by simp) probed
  exact short (by simpa using kept)

theorem backoff_eq_of_tried (tried : ∃ entry ∈ config.commands, entry.2 ≠ "")
    (keeps : KeepsRetryContract config steadyProbe) :
    config.backoffSeconds = 30 := by
  obtain ⟨results, world, succeeded⟩ :=
    @isAvailable_steadyProbe_true { config with } 0 tried
      (le_refl 0) (by simp [cachedResult])
  have reached : Reached config steadyProbe _ _ := .call 0 true .created (by simp [Follows])
  rw [succeeded] at reached
  obtain ⟨laterResults, laterWorld, failed⟩ :=
    @isAvailable_steadyProbe_false
      { config with
        probeResults := results, available := some true, backoffSeconds := 30 }
      (max 0 config.cacheTtl) (by simp) (by simp [cachedResult])
  have announced := keeps.announces reached (max 0 config.cacheTtl)
    (by simp [Follows]) false _ _ failed (max 0 config.cacheTtl) (le_refl _)
  have waits : outcomes ([] ++ [((0 : ℚ), GateAnswer.probed true)]) = [] ++ [true] := rfl
  rw [waits, expectedWait_success] at announced
  simp only [secondsUntilRetry, add_sub_cancel_left] at announced
  rcases le_total 0 config.backoffSeconds with positive | negative
  · simpa [positive] using announced.symm
  · norm_num [negative] at announced

end

theorem keepsRetryContract_iff (config : GateConfig) :
    (∀ (World : Type) (probe : ProbeFn World), KeepsRetryContract config probe) ↔
      KeepsPace config := by
  constructor
  · intro keeps
    have contract := keeps Bool steadyProbe
    exact
      { first := cacheTtl_le_first contract, bound := cacheTtl_le_bound contract
        reset := fun tried => backoff_eq_of_tried tried contract }
  · intro pace World probe
    exact keepsRetryContract_of_keepsPace pace probe

/-- The gate of the user interface keeps a failure for twice as long as it
announced. -/
theorem not_keepsRetryContract_default :
    ¬ ∀ config : GateConfig, ∀ (World : Type) (probe : ProbeFn World),
      KeepsRetryContract config probe := by
  intro keeps
  have first := cacheTtl_le_first (keeps { commands := [("codex", "codex exec")] } Bool steadyProbe)
  norm_num at first

end LLMAvailabilityGate

end AccruviaHarness
