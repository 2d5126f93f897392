import AccruviaHarness.Library.KeyedTable
import AccruviaHarness.Library.OrderedSelection
import AccruviaHarness.Python.Value
import Mathlib.Data.Finset.Basic
import Mathlib.Data.List.Infix

/-!
# The LLM router

The router tries its executors one after the other. A backend that failed for
good is moved behind the others until it succeeds again, and one that failed
in passing is tried again.
-/

namespace AccruviaHarness

open Library List

/-- `executor.execute`: a result, or the text of an `LLMExecutionError`. What
it depends on and changes is the world. -/
abbrev LLMExecutor (World Result : Type) := World → Except String Result × World

structure Try (Result : Type) where
  backend : String
  outcome : Except String Result

structure LLMRouter (World Result : Type) where
  backend : String
  executors : KeyedTable (Prod.fst : String × LLMExecutor World Result → String)

/-- `_demoted`, and what is outside of the router. The tries are recorded for
the proofs only. -/
structure RouterState (World Result : Type) where
  demoted : Finset String := ∅
  world : World
  tries : List (Try Result) := []

namespace LLMRouter

def transientSignals : List String :=
  ["unable to connect", "connection reset", "connection refused",
    "connection timed out", "temporary failure", "service unavailable",
    "502", "503", "504", "rate limit", "overloaded"]

/-- `_is_transient`. The signals have no letters that others are lowered
to. -/
def isTransient (errorMessage : String) : Bool :=
  let lowered := lowerAscii errorMessage
  transientSignals.any fun signal => decide (signal.toList <:+: lowered.toList)

def candidates : List String := ["codex", "claude", "accruvia_client", "command"]

section

variable {World Result : Type} (router : LLMRouter World Result)

/-- `name in self.executors`. -/
def hasExecutor (name : String) : Bool := (router.executors.lookup name).isSome

variable (onGithub : Bool)

def autoBackend : Except PyError String :=
  if onGithub && router.hasExecutor "accruvia_client" then .ok "accruvia_client"
  else if onGithub && router.hasExecutor "command" then .ok "command"
  else
    match candidates.find? router.hasExecutor with
    | some candidate => .ok candidate
    | none => .error <| .valueError "No LLM executors are configured for ACCRUVIA_LLM_BACKEND=auto"

def selectedBackend : Except PyError String :=
  if router.backend = "auto" then router.autoBackend onGithub
  else .ok router.backend

def addCandidate (ordered : List String) (candidate : String) : List String :=
  if router.hasExecutor candidate ∧ candidate ∉ ordered then ordered ++ [candidate]
  else ordered

/-- `ordered`, before demoted backends are moved. -/
def orderedBackends (selected : String) : List String :=
  candidates.foldl router.addCandidate
    (if router.hasExecutor selected then [selected] else [])

/-- `", ".join(sorted(self.executors))`. -/
def available : String :=
  ", ".intercalate <| orderBy (fun first second : String => first ≤ second) <|
    router.executors.rows.map Prod.fst

def healthyFirst (demoted : Finset String) (ordered : List String) : List String :=
  if demoted = ∅ then ordered
  else ordered.filter (fun name => name ∉ demoted) ++ ordered.filter fun name => name ∈ demoted

def resolveChain (demoted : Finset String) :
    Except PyError (List (String × LLMExecutor World Result)) := do
  let selected ← router.selectedBackend onGithub
  let ordered := router.orderedBackends selected
  if ordered = [] then
    .error <| .valueError <| "Unsupported LLM backend '" ++ selected ++ "'. Available: " ++
        router.available
  else return (healthyFirst demoted ordered).filterMap router.executors.lookup

end

section

variable {World Result : Type}

inductive BackendEnd (Result : Type) where
  | success (result : Result)
  | givenUp (error : String) (attempts : Nat)

def isTransientOutcome : Except String Result → Bool
  | .ok _ => false
  | .error message => isTransient message

variable (backend : String)

/-- `executor.execute(invocation)`. -/
def tryOnce (executor : LLMExecutor World Result) (state : RouterState World Result) :
    Except String Result × RouterState World Result :=
  let (outcome, world) := executor state.world
  (outcome, { state with
    world
    tries := state.tries ++ [{ backend, outcome }] })

def settle (attempt : Nat) :
    Except String Result → RouterState World Result → BackendEnd Result × RouterState World Result
  | .ok result, state => (.success result, { state with demoted := state.demoted.erase backend })
  | .error message, state =>
    (.givenUp message attempt,
      if isTransient message then state
      else { state with demoted := insert backend state.demoted })

def tryBackend (backend : String) (executor : LLMExecutor World Result) :
    Nat → Nat → RouterState World Result → BackendEnd Result × RouterState World Result
  | 0, attempt, state =>
    let (outcome, state) := tryOnce backend executor state
    settle backend attempt outcome state
  | left + 1, attempt, state =>
    let (outcome, state) := tryOnce backend executor state
    if isTransientOutcome outcome then tryBackend backend executor left (attempt + 1) state
    else settle backend attempt outcome state

def executeChain :
    List (String × LLMExecutor World Result) → List (String × String) → RouterState World Result →
        Except PyError (Result × String) × RouterState World Result
  | [], failures, state =>
    (.error <| .runtimeError <| "All configured LLM executors failed. " ++ "; ".intercalate
        (failures.map fun failure => failure.1 ++ ": " ++ failure.2), state)
  | (backend, executor) :: rest, failures, state =>
    match tryBackend backend executor 2 1 state with
    | (.success result, state) => (.ok (result, backend), state)
    | (.givenUp error _, state) => executeChain rest (failures ++ [(backend, error)]) state

def execute (router : LLMRouter World Result) (onGithub : Bool) (state : RouterState World Result) :
    Except PyError (Result × String) × RouterState World Result :=
  match router.resolveChain onGithub state.demoted with
  | .error error => (.error error, state)
  | .ok chain => executeChain chain [] state

end

/-! ## The chain -/

section

variable {World Result : Type} {router : LLMRouter World Result}

/-- The backends that a call may try: those of the candidates, and a backend
that is selected by its name. -/
def IsRouted (router : LLMRouter World Result) (name : String) : Prop :=
  router.hasExecutor name = true ∧
    (name ∈ candidates ∨ router.backend ≠ "auto" ∧ name = router.backend)

theorem foldl_addCandidate (router : LLMRouter World Result) (names ordered : List String)
    (distinct : ordered.Nodup) :
    (names.foldl router.addCandidate ordered).Nodup ∧
      ∀ name, name ∈ names.foldl router.addCandidate ordered ↔
        name ∈ ordered ∨ name ∈ names ∧ router.hasExecutor name = true := by
  induction names generalizing ordered with
  | nil => simp [distinct]
  | cons candidate _ ih =>
    rw [foldl_cons]
    by_cases added :
        router.hasExecutor candidate = true ∧ candidate ∉ ordered
    · have longer : (ordered ++ [candidate]).Nodup := by
        rw [← concat_eq_append, nodup_concat]
        exact ⟨added.2, distinct⟩
      obtain ⟨nodup, members⟩ := ih _ longer
      rw [addCandidate, if_pos added]
      refine ⟨nodup, fun name => ?_⟩
      rw [members, mem_append, mem_singleton, mem_cons]
      constructor
      · rintro ((earlier | rfl) | later)
        · exact .inl earlier
        · exact .inr ⟨.inl rfl, added.1⟩
        · exact .inr ⟨.inr later.1, later.2⟩
      · rintro (earlier | ⟨rfl | later, has⟩)
        · exact .inl (.inl earlier)
        · exact .inl (.inr rfl)
        · exact .inr ⟨later, has⟩
    · obtain ⟨nodup, members⟩ := ih _ distinct
      rw [addCandidate, if_neg added]
      refine ⟨nodup, fun name => ?_⟩
      rw [members, mem_cons]
      constructor
      · rintro (earlier | later)
        · exact .inl earlier
        · exact .inr ⟨.inr later.1, later.2⟩
      · rintro (earlier | ⟨rfl | later, has⟩)
        · exact .inl earlier
        · left
          by_contra absent
          exact added ⟨has, absent⟩
        · exact .inr ⟨later, has⟩

variable {onGithub : Bool}

theorem selectedBackend_routed {selected : String}
    (found : router.selectedBackend onGithub = .ok selected) :
    (router.backend ≠ "auto" ∧ selected = router.backend) ∨
      router.backend = "auto" ∧ selected ∈ candidates := by
  unfold selectedBackend at found
  split at found
  next auto =>
    right
    refine ⟨auto, ?_⟩
    unfold autoBackend at found
    split at found
    · cases found
      decide
    · split at found
      · cases found
        decide
      · split at found
        next candidate first =>
          cases found
          exact mem_of_find?_eq_some first
        · cases found
  next named =>
    cases found
    exact .inl ⟨named, rfl⟩

theorem orderedBackends_routed {selected : String}
    (found : router.selectedBackend onGithub = .ok selected) :
    (router.orderedBackends selected).Nodup ∧
      ∀ name, name ∈ router.orderedBackends selected ↔ router.IsRouted name := by
  have first : (if router.hasExecutor selected then [selected]
      else []).Nodup := by
    split <;> simp
  obtain ⟨nodup, members⟩ := foldl_addCandidate router candidates _ first
  refine ⟨nodup, fun name => ?_⟩
  rw [orderedBackends, members]
  have head : name ∈ (if router.hasExecutor selected then [selected] else []) ↔
      name = selected ∧ router.hasExecutor name = true := by
    by_cases has : router.hasExecutor selected = true
    · rw [if_pos has, mem_singleton]
      constructor
      · rintro rfl
        exact ⟨rfl, has⟩
      · exact fun both => both.1
    · rw [if_neg has]
      constructor
      · intro member
        cases member
      · rintro ⟨rfl, other⟩
        exact absurd other has
  rw [head]
  unfold IsRouted
  rcases selectedBackend_routed found with ⟨named, same⟩ | ⟨auto, listed⟩
  · rw [same]
    tauto
  · constructor
    · rintro (⟨rfl, has⟩ | ⟨member, has⟩)
      · exact ⟨has, .inl listed⟩
      · exact ⟨has, .inl member⟩
    · rintro ⟨has, member | ⟨named, _⟩⟩
      · exact .inr ⟨member, has⟩
      · exact absurd auto named

theorem healthyFirst_eq (demoted : Finset String) (ordered : List String) :
    healthyFirst demoted ordered = ordered.filter (fun name => name ∉ demoted) ++
        ordered.filter fun name => name ∈ demoted := by
  unfold healthyFirst
  split
  next none => simp [none]
  · rfl

theorem filterMap_lookup_filter (keep : String → Bool) (names : List String) :
    (names.filter keep).filterMap router.executors.lookup =
      (names.filterMap router.executors.lookup).filter fun pair => keep pair.1 := by
  induction names with
  | nil => rfl
  | cons name _ ih =>
    cases found : router.executors.lookup name with
    | none =>
      rw [filterMap_cons_none found, ← ih]
      by_cases kept : keep name = true
      · rw [filter_cons_of_pos kept, filterMap_cons_none found]
      · rw [filter_cons_of_neg kept]
    | some pair =>
      have own : pair.1 = name := (router.executors.lookup_eq_some_iff.mp found).2
      rw [filterMap_cons_some found]
      by_cases kept : keep name = true
      · rw [filter_cons_of_pos kept, filterMap_cons_some found,
          ih, filter_cons_of_pos (by rw [own, kept])]
      · rw [filter_cons_of_neg kept, ih, filter_cons_of_neg (by rw [own]; exact kept)]

theorem names_filterMap_lookup {names : List String}
    (present : ∀ name ∈ names, router.hasExecutor name = true) :
    (names.filterMap router.executors.lookup).map Prod.fst = names := by
  induction names with
  | nil => rfl
  | cons name _ ih =>
    rw [forall_mem_cons] at present
    obtain ⟨pair, found⟩ := Option.isSome_iff_exists.mp present.1
    have own : pair.1 = name := (router.executors.lookup_eq_some_iff.mp found).2
    rw [filterMap_cons_some found, map_cons, own, ih present.2]

/-- What a resolved chain is: the routed backends, each once, as they are
without demotions, but with the demoted ones behind the others. -/
structure IsChain (router : LLMRouter World Result) (onGithub : Bool)
    (demoted : Finset String)
    (chain : List (String × LLMExecutor World Result)) : Prop where
  nodup : (chain.map Prod.fst).Nodup
  routed : ∀ name, name ∈ chain.map Prod.fst ↔ router.IsRouted name
  healthyFirst : ∃ base, router.resolveChain onGithub ∅ = .ok base ∧
    chain = base.filter (fun pair => pair.1 ∉ demoted) ++ base.filter fun pair => pair.1 ∈ demoted

theorem isChain_of_resolved {demoted : Finset String}
    {chain : List (String × LLMExecutor World Result)}
    (resolved : router.resolveChain onGithub demoted = .ok chain) :
    router.IsChain onGithub demoted chain := by
  have whole := resolved
  unfold resolveChain at resolved
  obtain ⟨selected, found, resolved⟩ := exists_of_bind_ok resolved
  dsimp only at resolved
  split at resolved
  · cases resolved
  next nonempty =>
    cases resolved
    obtain ⟨nodup, routed⟩ := orderedBackends_routed found
    generalize ordering : router.orderedBackends selected = ordered at *
    have present : ∀ name ∈ ordered, router.hasExecutor name = true :=
      fun name member => ((routed name).mp member).1
    have rearranged : (healthyFirst demoted ordered).Perm ordered := by
      rw [healthyFirst_eq]
      have parts := filter_append_perm (fun name => decide (name ∉ demoted)) ordered
      simpa using parts
    have names : ((healthyFirst demoted ordered).filterMap router.executors.lookup).map Prod.fst =
          healthyFirst demoted ordered :=
      names_filterMap_lookup fun name member => present name (rearranged.mem_iff.mp member)
    refine ⟨?_, ?_, ordered.filterMap router.executors.lookup, ?_, ?_⟩
    · rw [names]
      exact rearranged.nodup_iff.mpr nodup
    · intro name
      rw [names, rearranged.mem_iff, routed]
    · unfold resolveChain
      rw [found]
      show (if router.orderedBackends selected = [] then _ else _) = _
      rw [ordering, if_neg nonempty]
      rfl
    · rw [healthyFirst_eq, filterMap_append, filterMap_lookup_filter, filterMap_lookup_filter]

end

/-! ## The tries -/

section

variable {World Result : Type}
  {chain : List (String × LLMExecutor World Result)}

inductive Plays (chain : List (String × LLMExecutor World Result)) :
    World → List (Try Result) → World → Prop where
  | nothing (world : World) : Plays chain world [] world
  | call {backend : String} {executor : LLMExecutor World Result}
      {world next last : World} {outcome : Except String Result}
      {tries : List (Try Result)}
      (listed : (backend, executor) ∈ chain)
      (called : executor world = (outcome, next))
      (later : Plays chain next tries last) :
      Plays chain world ({ backend, outcome } :: tries) last

variable {early late : List (Try Result)} {limit : Nat} {result : Result}

theorem Plays.append {first middle last : World} (start : Plays chain first early middle)
    (rest : Plays chain middle late last) :
    Plays chain first (early ++ late) last := by
  induction start with
  | nothing _ => exact rest
  | call listed called _ ih => exact .call listed called (ih rest)

def noteTry (demoted : Finset String) (attempt : Try Result) : Finset String :=
  match attempt.outcome with
  | .ok _ => demoted.erase attempt.backend
  | .error message =>
    if isTransient message then demoted
    else insert attempt.backend demoted

structure Tried (chain : List (String × LLMExecutor World Result))
    (before after : RouterState World Result) (tries : List (Try Result)) :
    Prop where
  recorded : after.tries = before.tries ++ tries
  demoted : after.demoted = tries.foldl noteTry before.demoted
  plays : Plays chain before.world tries after.world

theorem Tried.refl (state : RouterState World Result) : Tried chain state state [] :=
  ⟨(append_nil _).symm, rfl, .nothing _⟩

theorem Tried.trans {before middle after : RouterState World Result}
    (first : Tried chain before middle early)
    (second : Tried chain middle after late) :
    Tried chain before after (early ++ late) where
  recorded := by rw [second.recorded, first.recorded, append_assoc]
  demoted := by rw [second.demoted, first.demoted, foldl_append]
  plays := first.plays.append second.plays

/-- At most that many tries, all of them but the last with a transient error,
and the last one with the result. -/
def Succeeds (limit : Nat) (result : Result) (outcomes : List (Except String Result)) : Prop :=
  ∃ retried, outcomes = retried ++ [.ok result] ∧ retried.length < limit ∧
    ∀ outcome ∈ retried, isTransientOutcome outcome = true

def GivenUp (limit : Nat) (outcomes : List (Except String Result)) : Prop :=
  (outcomes.length = limit ∧ ∀ outcome ∈ outcomes, isTransientOutcome outcome = true) ∨
    ∃ retried message, outcomes = retried ++ [.error message] ∧
      retried.length < limit ∧ isTransient message = false ∧
        ∀ outcome ∈ retried, isTransientOutcome outcome = true

variable {outcomes : List (Except String Result)} {backend : String}
  {executor : LLMExecutor World Result}

theorem Succeeds.not_givenUp
    (succeeds : Succeeds limit result outcomes) : ¬ GivenUp limit outcomes := by
  obtain ⟨_, rfl, _, _⟩ := succeeds
  rintro (⟨_, all⟩ | ⟨others, message, same, _⟩)
  · have last := all (.ok result) (by simp)
    cases last
  · have last := congrArg List.getLast? same
    simp at last

def EndsAs (limit : Nat) (outcomes : List (Except String Result)) :
    BackendEnd Result → Prop
  | .success result => Succeeds limit result outcomes
  | .givenUp _ _ => GivenUp limit outcomes

theorem EndsAs.retry {ending : BackendEnd Result} {outcome : Except String Result}
    (transient : isTransientOutcome outcome = true)
    (ends : EndsAs limit outcomes ending) :
    EndsAs (limit + 1) (outcome :: outcomes) ending := by
  cases ending with
  | success _ =>
    obtain ⟨retried, rfl, few, all⟩ := ends
    exact ⟨outcome :: retried, rfl, Nat.succ_lt_succ few, forall_mem_cons.mpr ⟨transient, all⟩⟩
  | givenUp _ _ =>
    rcases ends with ⟨count, all⟩ | ⟨retried, message, rfl, few, last, all⟩
    · exact .inl ⟨congrArg Nat.succ count, forall_mem_cons.mpr ⟨transient, all⟩⟩
    · exact .inr ⟨outcome :: retried, message, rfl, Nat.succ_lt_succ few,
        last, forall_mem_cons.mpr ⟨transient, all⟩⟩

theorem tried_tryOnce (listed : (backend, executor) ∈ chain) (state : RouterState World Result) :
    Plays chain state.world [{ backend, outcome := (executor state.world).1 }]
      (executor state.world).2 :=
  .call listed rfl (.nothing _)

theorem tried_settle (listed : (backend, executor) ∈ chain) (limit attempt : Nat)
    (state : RouterState World Result)
    (final : isTransientOutcome (executor state.world).1 = true → limit = 0) :
    Tried chain state (settle backend attempt (tryOnce backend executor state).1
          (tryOnce backend executor state).2).2
        [{ backend, outcome := (executor state.world).1 }] ∧
      EndsAs (limit + 1) [(executor state.world).1]
        (settle backend attempt (tryOnce backend executor state).1
          (tryOnce backend executor state).2).1 := by
  have plays := tried_tryOnce listed state
  unfold tryOnce
  cases outcome : (executor state.world).1 with
  | ok _ =>
    rw [outcome] at plays
    simp only [outcome, settle]
    refine ⟨⟨rfl, rfl, plays⟩, [], rfl, Nat.succ_pos limit, ?_⟩
    intro other member
    cases member
  | error message =>
    rw [outcome] at plays final
    simp only [outcome, settle]
    by_cases transient : isTransient message = true
    · rw [if_pos transient, final transient]
      refine ⟨⟨rfl, ?_, plays⟩, .inl ⟨rfl, ?_⟩⟩
      · simp [noteTry, transient]
      · simp [isTransientOutcome, transient]
    · rw [if_neg transient]
      refine ⟨⟨rfl, ?_, plays⟩, .inr ⟨[], message, rfl, Nat.succ_pos limit, ?_, ?_⟩⟩
      · simp [noteTry, transient]
      · simpa using transient
      · intro other member
        cases member

theorem tryBackend_spec (listed : (backend, executor) ∈ chain) (left attempt : Nat)
    (state : RouterState World Result) :
    ∃ outcomes, Tried chain state (tryBackend backend executor left attempt state).2
          (outcomes.map fun outcome => { backend, outcome }) ∧
        EndsAs (left + 1) outcomes (tryBackend backend executor left attempt state).1 := by
  induction left generalizing attempt state with
  | zero =>
    obtain ⟨tried, ends⟩ := tried_settle listed 0 attempt state fun _ => rfl
    exact ⟨[(executor state.world).1], tried, ends⟩
  | succ left ih =>
    have plays := tried_tryOnce listed state
    rw [tryBackend]
    by_cases transient : isTransientOutcome (executor state.world).1 = true
    · obtain ⟨outcomes, tried, ends⟩ := ih (attempt + 1) (tryOnce backend executor state).2
      have first : Tried chain state (tryOnce backend executor state).2
          [{ backend, outcome := (executor state.world).1 }] := by
        refine ⟨rfl, ?_, plays⟩
        cases outcome : (executor state.world).1 with
        | ok _ =>
          rw [outcome] at transient
          cases transient
        | error message =>
          rw [outcome] at transient
          have kept : isTransient message = true := transient
          simp [noteTry, tryOnce, kept]
      have again : isTransientOutcome (tryOnce backend executor state).1 =
          true := transient
      simp only [again, if_true]
      exact ⟨(executor state.world).1 :: outcomes, first.trans tried, ends.retry transient⟩
    · have final : ¬ isTransientOutcome (tryOnce backend executor state).1 =
          true := transient
      simp only [final]
      obtain ⟨tried, ends⟩ := tried_settle listed (left + 1) attempt state
        fun again => absurd again transient
      exact ⟨[(executor state.world).1], tried, ends⟩

/-! ## One call -/

abbrev Blocks (Result : Type) := List (String × List (Except String Result))

def triesOf (blocks : Blocks Result) : List (Try Result) :=
  blocks.flatMap fun block => block.2.map fun outcome => { backend := block.1, outcome }

/-- The backends are tried in the order of the chain until one succeeds, and
the call raises exactly when each of them was given up. -/
structure Routes (chain : List (String × LLMExecutor World Result))
    (blocks : Blocks Result) (outcome : Except PyError (Result × String)) :
    Prop where
  order : blocks.map Prod.fst <+: chain.map Prod.fst
  returned : ∀ result backend, outcome = .ok (result, backend) →
    ∃ front outcomes, blocks = front ++ [(backend, outcomes)] ∧
      Succeeds 3 result outcomes ∧ ∀ block ∈ front, GivenUp 3 block.2
  raised : (∃ error, outcome = .error error) ↔ blocks.map Prod.fst = chain.map Prod.fst ∧
      ∀ block ∈ blocks, GivenUp 3 block.2

variable (rest : List (String × LLMExecutor World Result))

theorem Routes.success (succeeds : Succeeds 3 result outcomes) :
    Routes ((backend, executor) :: rest) [(backend, outcomes)] (.ok (result, backend)) where
  order := by simp
  returned found name same := by
    cases same
    exact ⟨[], outcomes, rfl, succeeds, by simp⟩
  raised := by
    constructor
    · intro raised
      obtain ⟨_, same⟩ := raised
      cases same
    · intro all
      exact absurd (all.2 _ mem_cons_self) succeeds.not_givenUp

theorem Routes.next {rest : List (String × LLMExecutor World Result)} {blocks : Blocks Result}
    {outcome : Except PyError (Result × String)}
    (givenUp : GivenUp 3 outcomes) (routes : Routes rest blocks outcome) :
    Routes ((backend, executor) :: rest) ((backend, outcomes) :: blocks) outcome where
  order := cons_prefix_cons.mpr ⟨rfl, routes.order⟩
  returned result name same := by
    obtain ⟨front, last, rfl, succeeds, all⟩ := routes.returned result name same
    exact ⟨(backend, outcomes) :: front, last, rfl, succeeds, forall_mem_cons.mpr ⟨givenUp, all⟩⟩
  raised := by
    rw [routes.raised, map_cons, map_cons, List.cons.injEq, forall_mem_cons]
    simp [givenUp]

theorem executeChain_spec (within : rest ⊆ chain) (failures : List (String × String))
    (state : RouterState World Result) :
    ∃ blocks, Tried chain state (executeChain rest failures state).2 (triesOf blocks) ∧
        Routes rest blocks (executeChain rest failures state).1 := by
  induction rest generalizing failures state with
  | nil =>
    refine ⟨[], .refl state, ?_⟩
    refine ⟨List.nil_prefix, ?_, ?_⟩
    · intro result backend same
      cases same
    · exact iff_of_true ⟨_, rfl⟩ ⟨rfl, by simp⟩
  | cons first rest ih =>
    obtain ⟨backend, executor⟩ := first
    obtain ⟨listed, later⟩ := cons_subset.mp within
    obtain ⟨outcomes, tried, ends⟩ := tryBackend_spec listed 2 1 state
    rw [executeChain]
    rcases ended : tryBackend backend executor 2 1 state with
      ⟨_ | ⟨error, _⟩, next⟩
    · rw [ended] at tried ends
      refine ⟨[(backend, outcomes)], ?_, .success rest ends⟩
      have same : triesOf [(backend, outcomes)] =
          outcomes.map fun outcome => { backend, outcome } := by
        simp [triesOf]
      rw [same]
      exact tried
    · rw [ended] at tried ends
      obtain ⟨blocks, restTried, routes⟩ := ih later (failures ++ [(backend, error)]) next
      exact ⟨(backend, outcomes) :: blocks, tried.trans restTried, routes.next ends⟩

/-! ## The life of a router -/

inductive Reached (router : LLMRouter World Result) :
    RouterState World Result → Prop where
  | fresh (world : World) : Reached router { world }
  | elsewhere {state : RouterState World Result} (world : World)
      (reached : Reached router state) : Reached router { state with world }
  | call {state : RouterState World Result} (onGithub : Bool) (reached : Reached router state) :
      Reached router (router.execute onGithub state).2

def lastTerminal (name : String) (tries : List (Try Result)) : Option (Except String Result) :=
  ((tries.filter fun attempt => attempt.backend = name &&
    !isTransientOutcome attempt.outcome).getLast?).map Try.outcome

def FailedLast (name : String) (tries : List (Try Result)) : Prop :=
  ∃ message, lastTerminal name tries = some (.error message)

theorem lastTerminal_append_singleton
    (name : String) (tries : List (Try Result)) (attempt : Try Result) :
    lastTerminal name (tries ++ [attempt]) =
      if attempt.backend = name ∧ isTransientOutcome attempt.outcome = false
        then some attempt.outcome
      else lastTerminal name tries := by
  unfold lastTerminal
  rw [filter_append]
  by_cases counts : attempt.backend = name ∧ isTransientOutcome attempt.outcome = false
  · rw [if_pos counts, filter_cons_of_pos (by simp [counts]),
      filter_nil, getLast?_concat, Option.map_some]
  · rw [if_neg counts, filter_cons_of_neg (by simpa using counts), filter_nil, append_nil]

theorem mem_foldl_noteTry (name : String) (tries : List (Try Result)) :
    name ∈ tries.foldl noteTry ∅ ↔ FailedLast name tries := by
  induction tries using List.reverseRecOn with
  | nil => simp [FailedLast, lastTerminal]
  | append_singleton tries attempt ih =>
    rw [foldl_append, foldl_cons, foldl_nil]
    unfold FailedLast at ih ⊢
    rw [lastTerminal_append_singleton]
    obtain ⟨backend, outcome⟩ := attempt
    cases outcome with
    | ok result =>
      have note : noteTry (tries.foldl noteTry ∅)
          { backend, outcome := .ok result } =
            (tries.foldl noteTry ∅).erase backend := rfl
      rw [note, Finset.mem_erase, ih]
      by_cases own : backend = name
      · simp [own, isTransientOutcome]
      · simp [own, Ne.symm own]
    | error message =>
      by_cases transient : isTransient message = true
      · have note : noteTry (tries.foldl noteTry ∅)
            ({ backend, outcome := .error message } : Try Result) = tries.foldl noteTry ∅ := by
          simp [noteTry, transient]
        rw [note, ih]
        simp [isTransientOutcome, transient]
      · have note : noteTry (tries.foldl noteTry ∅)
            ({ backend, outcome := .error message } : Try Result) =
              insert backend (tries.foldl noteTry ∅) := by
          simp [noteTry, transient]
        rw [note, Finset.mem_insert, ih]
        by_cases own : backend = name
        · simp [own, isTransientOutcome, transient]
        · simp [own, Ne.symm own]

theorem execute_tried (router : LLMRouter World Result) (onGithub : Bool)
    (state : RouterState World Result) :
    ∃ chain blocks, Tried chain state (router.execute onGithub state).2 (triesOf blocks) := by
  unfold execute
  cases router.resolveChain onGithub state.demoted with
  | error _ => exact ⟨[], [], .refl state⟩
  | ok chain =>
    obtain ⟨blocks, tried, _⟩ := executeChain_spec chain (List.Subset.refl chain) [] state
    exact ⟨chain, blocks, tried⟩

theorem Reached.demoted {router : LLMRouter World Result} {state : RouterState World Result}
    (reached : Reached router state) :
    state.demoted = state.tries.foldl noteTry ∅ := by
  induction reached with
  | fresh _ => rfl
  | elsewhere _ _ ih => exact ih
  | @call state onGithub _ ih =>
    obtain ⟨_, _, tried⟩ := router.execute_tried onGithub state
    rw [tried.demoted, tried.recorded, foldl_append, ih]

/-- Each call that resolves tries the chain as it should, and in every state
that the router comes to, the demoted backends are those that failed last for
good. -/
theorem execute_routes (router : LLMRouter World Result) :
    (∀ onGithub (state : RouterState World Result) chain,
      router.resolveChain onGithub state.demoted = .ok chain →
        router.IsChain onGithub state.demoted chain ∧
          ∃ blocks, Tried chain state (router.execute onGithub state).2 (triesOf blocks) ∧
              Routes chain blocks (router.execute onGithub state).1) ∧
      ∀ state : RouterState World Result, Reached router state →
        ∀ name, name ∈ state.demoted ↔ FailedLast name state.tries := by
  constructor
  · intro onGithub state chain resolved
    refine ⟨isChain_of_resolved resolved, ?_⟩
    unfold execute
    rw [resolved]
    exact executeChain_spec chain (List.Subset.refl chain) [] state
  · intro state reached name
    rw [reached.demoted]
    exact mem_foldl_noteTry name state.tries

def twoBackendRouter : LLMRouter Nat String where
  backend := "codex"
  executors :=
    ⟨[("codex", fun world => (.error "503", world + 1)),
      ("claude", fun world => (.ok "done", world + 1))], by simp⟩

theorem execute_twoBackendRouter :
    (∃ chain, twoBackendRouter.resolveChain false ∅ = .ok chain ∧
      twoBackendRouter.IsChain false ∅ chain ∧ ∃ blocks, Tried chain { world := 0 }
              (twoBackendRouter.execute false { world := 0 }).2
              (triesOf blocks) ∧
            Routes chain blocks (twoBackendRouter.execute false { world := 0 }).1) ∧
      ∀ name, name ∈ (twoBackendRouter.execute false { world := 0 }).2.demoted ↔ FailedLast name
          (twoBackendRouter.execute false { world := 0 }).2.tries :=
  ⟨⟨_, rfl, (execute_routes twoBackendRouter).1 false { world := 0 } _ rfl⟩,
    (execute_routes twoBackendRouter).2 _ (.call false (.fresh 0))⟩

end

end LLMRouter

end AccruviaHarness
