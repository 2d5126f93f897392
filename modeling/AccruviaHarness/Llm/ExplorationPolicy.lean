import AccruviaHarness.Library.WeightedTables
import AccruviaHarness.Python.DictUpdate
import Mathlib.Algebra.Order.Field.Rat
import Mathlib.Data.Prod.Lex
import Mathlib.Data.Rat.Cast.Order
import Mathlib.Data.String.Basic
import Mathlib.Tactic.Linarith

/-!
# The exploration policy

The policy explores with a small probability, and otherwise takes the model
with the lowest score.
-/

namespace AccruviaHarness

open Library List

structure ModelCapability where
  modelId : String
  backend : String
  available : Bool := true
deriving DecidableEq

structure ModelUniverseSnapshot where
  snapshotId : String
  models : List ModelCapability

/-- A prior outcome: its `model_id`, empty if it has none, and its entries. -/
structure PriorOutcome where
  modelId : String
  entries : PyDict

structure RoutingDecision where
  modelId : String
  backend : String
  confidence : ℚ
  reasoning : String
  universeHash : String
  isExploration : Bool

structure PolicyDecision where
  routingDecision : RoutingDecision
  explorationFlag : Bool
  rationale : String
  universeSnapshotId : String
  taskFingerprint : PyDict

structure OutcomeMetrics where
  cost : Option ℚ
  tokens : Option ℚ
  latency : Option ℚ

def OutcomeMetrics.isEmpty (metrics : OutcomeMetrics) : Bool :=
  metrics.cost.isNone && metrics.tokens.isNone && metrics.latency.isNone

/-- The dictionaries that `_best_model` fills. -/
structure OutcomeTallies where
  successCounts : Counter String ℕ := .empty _
  totalCounts : Counter String ℕ := .empty _
  costSums : Counter String ℚ := .empty _
  tokenSums : Counter String ℚ := .empty _
  latencySums : Counter String ℚ := .empty _
  metricCounts : Counter String ℕ := .empty _

structure EpsilonGreedyPolicy where
  epsilon : ℚ := 1 / 10
  highRiskProfiles : List String := []

namespace EpsilonGreedyPolicy

section

-- Python's `float`: the number that it makes of a value, if it makes one and
-- the number is finite.
variable (float : PyValue → Option ℚ)

/-- `_to_non_negative_float`. -/
def toNonNegative : PyValue → Option ℚ
  | .none => none
  | value => (float value).filter fun number => 0 ≤ number

def metricsOf (entries : PyDict) : OutcomeMetrics where
  cost :=
    match toNonNegative float (entries.get "llm_cost_usd") with
    | some cost => some cost
    | none => toNonNegative float (entries.get "cost")
  tokens :=
    match toNonNegative float (entries.get "llm_total_tokens") with
    | some tokens => some tokens
    | none =>
      if (entries.find "input_tokens").isSome ∨ (entries.find "output_tokens").isSome then
        some ((toNonNegative float (entries.get "input_tokens")).getD 0 +
            (toNonNegative float (entries.get "output_tokens")).getD 0)
      else none
  latency :=
    match toNonNegative float (entries.get "llm_latency_ms") with
    | some latency => some latency
    | none => toNonNegative float (entries.get "latency_ms")

variable (tallies : OutcomeTallies)

def tally (outcome : PriorOutcome) :
    OutcomeTallies :=
  if outcome.modelId = "" then tallies
  else
    let tallies :=
      { tallies with
        totalCounts := tallies.totalCounts.add outcome.modelId 1
        successCounts :=
          if (outcome.entries.get "success").truthy then tallies.successCounts.add outcome.modelId 1
          else tallies.successCounts }
    let metrics := metricsOf float outcome.entries
    if metrics.isEmpty then tallies
    else
      { tallies with
        metricCounts := tallies.metricCounts.add outcome.modelId 1
        costSums := tallies.costSums.add outcome.modelId
          (metrics.cost.getD 0)
        tokenSums := tallies.tokenSums.add outcome.modelId
          (metrics.tokens.getD 0)
        latencySums := tallies.latencySums.add outcome.modelId
          (metrics.latency.getD 0) }

def tallyAll (outcomes : List PriorOutcome) : OutcomeTallies := outcomes.foldl (tally float) {}

variable (sums : Counter String ℚ)

def globalAverage (counts : Counter String ℕ) : ℚ :=
  if counts.total = 0 then 1 else sums.total / counts.total

def relativeAverage (counts : Counter String ℕ) (modelId : String) : ℚ :=
  let average :=
    if counts.count modelId = 0 then globalAverage sums counts
    else sums.count modelId / counts.count modelId
  average / max (globalAverage sums counts) (1 / 1000000000)

variable (model : ModelCapability)

def score : ℚ :=
  let total := tallies.totalCounts.count model.modelId
  if total = 0 then 7 / 10
  else
    (1 - tallies.successCounts.count model.modelId / total) * (6 / 10) +
      relativeAverage tallies.costSums tallies.metricCounts model.modelId * (2 / 10) +
      relativeAverage tallies.tokenSums tallies.metricCounts model.modelId * (1 / 10) +
      relativeAverage tallies.latencySums tallies.metricCounts model.modelId * (1 / 10)

/-- `_score`. -/
def scoreKey : ℚ ×ₗ String := toLex (score tallies model, model.modelId)

def bestModel (first : ModelCapability) (rest : List ModelCapability)
    (outcomes : List PriorOutcome) : ModelCapability :=
  if outcomes = [] then first
  else leastRow (scoreKey (tallyAll float outcomes)) first rest

end

section

variable (policy : EpsilonGreedyPolicy) (float : PyValue → Option ℚ)

def explores (validationProfile : String) (draw : ℚ) : Bool :=
  !policy.highRiskProfiles.contains validationProfile &&
    decide (draw < policy.epsilon)

def exploration (taskFingerprint : PyDict)
    (snapshot : ModelUniverseSnapshot) (chosen : ModelCapability)
    (candidates : Nat) : PolicyDecision where
  routingDecision :=
    { modelId := chosen.modelId, backend := chosen.backend, confidence := 0
      reasoning := "epsilon-greedy exploration", universeHash := snapshot.snapshotId
      isExploration := true }
  explorationFlag := true
  rationale := "Exploring: randomly selected " ++ chosen.modelId ++
    " from " ++ toString candidates ++ " candidates"
  universeSnapshotId := snapshot.snapshotId
  taskFingerprint

def exploitation (taskFingerprint : PyDict)
    (snapshot : ModelUniverseSnapshot) (best : ModelCapability) :
    PolicyDecision where
  routingDecision :=
    { modelId := best.modelId, backend := best.backend, confidence := 1
      reasoning := "epsilon-greedy exploitation (best known model)"
      universeHash := snapshot.snapshotId, isExploration := false }
  explorationFlag := false
  rationale := "Exploiting: selected " ++ best.modelId ++
    " as best known model"
  universeSnapshotId := snapshot.snapshotId
  taskFingerprint

/-- `select`, with the number and the index that the generator draws. -/
def select (taskFingerprint : PyDict) (snapshot : ModelUniverseSnapshot)
    (priorOutcomes : List PriorOutcome) (validationProfile : String)
    (draw : ℚ) (index : Nat) : Except PyError PolicyDecision :=
  match snapshot.models.filter ModelCapability.available with
  | [] => .error (.valueError "No available models in the universe")
  | first :: rest =>
    if policy.explores validationProfile draw then
      let available := first :: rest
      .ok (exploration taskFingerprint snapshot
        (available.getD (index % available.length) first) available.length)
    else .ok (exploitation taskFingerprint snapshot (bestModel float first rest priorOutcomes))

end

/-! ## The statistics of the outcomes -/

section

variable (float : PyValue → Option ℚ)

def outcomesOf (outcomes : List PriorOutcome) (modelId : String) : List PriorOutcome :=
  outcomes.filter fun outcome => outcome.modelId = modelId

def succeeded (outcome : PriorOutcome) : Bool := (outcome.entries.get "success").truthy

def successRate (outcomes : List PriorOutcome) (modelId : String) : ℚ :=
  (outcomesOf outcomes modelId).countP succeeded / (outcomesOf outcomes modelId).length

def metricRows (outcomes : List PriorOutcome) : List (String × OutcomeMetrics) :=
  (outcomes.filter fun outcome => outcome.modelId ≠ "" ∧
    ¬ (metricsOf float outcome.entries).isEmpty).map
      fun outcome => (outcome.modelId, metricsOf float outcome.entries)

def averageOf (metric : OutcomeMetrics → Option ℚ) (rows : List (String × OutcomeMetrics)) : ℚ :=
  (rows.map fun row => (metric row.2).getD 0).sum / rows.length

def relativeMetric (outcomes : List PriorOutcome)
    (metric : OutcomeMetrics → Option ℚ) (modelId : String) : ℚ :=
  let rows := metricRows float outcomes
  let global := if rows = [] then 1 else averageOf metric rows
  let own := rows.filter fun row => row.1 = modelId
  (if own = [] then global else averageOf metric own) / max global (1 / 1000000000)

def penalty (outcomes : List PriorOutcome) (modelId : String) : ℚ :=
  relativeMetric float outcomes OutcomeMetrics.cost modelId * (2 / 10) +
    relativeMetric float outcomes OutcomeMetrics.tokens modelId * (1 / 10) +
    relativeMetric float outcomes OutcomeMetrics.latency modelId * (1 / 10)

def namedRows (outcomes : List PriorOutcome) : List (String × PriorOutcome) :=
  (outcomes.filter fun outcome => outcome.modelId ≠ "").map
    fun outcome => (outcome.modelId, outcome)

structure Tallied (outcomes : List PriorOutcome) (tallies : OutcomeTallies) :
    Prop where
  totals : tallies.totalCounts.Holds (fun _ => 1) (namedRows outcomes)
  successes : tallies.successCounts.Holds
    (fun outcome => if succeeded outcome then 1 else 0) (namedRows outcomes)
  metrics : tallies.metricCounts.Holds (fun _ => 1) (metricRows float outcomes)
  costs : tallies.costSums.Holds (fun metrics => metrics.cost.getD 0) (metricRows float outcomes)
  tokens : tallies.tokenSums.Holds (fun metrics => metrics.tokens.getD 0)
    (metricRows float outcomes)
  latencies : tallies.latencySums.Holds
    (fun metrics => metrics.latency.getD 0) (metricRows float outcomes)

variable {float} {outcome : PriorOutcome}

theorem namedRows_append_singleton (outcomes : List PriorOutcome) (named : outcome.modelId ≠ "") :
    namedRows (outcomes ++ [outcome]) = namedRows outcomes ++ [(outcome.modelId, outcome)] := by
  simp [namedRows, named]

theorem metricRows_append_singleton (outcomes : List PriorOutcome) (named : outcome.modelId ≠ "")
    (known : ¬ (metricsOf float outcome.entries).isEmpty = true) :
    metricRows float (outcomes ++ [outcome]) = metricRows float outcomes ++
        [(outcome.modelId, metricsOf float outcome.entries)] := by
  simp [metricRows, named, known]

theorem metricRows_append_unknown (outcomes : List PriorOutcome) (unknown : outcome.modelId = "" ∨
      (metricsOf float outcome.entries).isEmpty = true) :
    metricRows float (outcomes ++ [outcome]) = metricRows float outcomes := by
  unfold metricRows
  rw [filter_append, filter_cons_of_neg, filter_nil, append_nil]
  rcases unknown with unnamed | empty
  · simp [unnamed]
  · simp [empty]

theorem Tallied.tally {outcomes : List PriorOutcome} {tallies : OutcomeTallies}
    (tallied : Tallied float outcomes tallies) (outcome : PriorOutcome) :
    Tallied float (outcomes ++ [outcome]) (tally float tallies outcome) := by
  unfold EpsilonGreedyPolicy.tally
  by_cases unnamed : outcome.modelId = ""
  · have same : namedRows (outcomes ++ [outcome]) = namedRows outcomes := by
      simp [namedRows, unnamed]
    rw [if_pos unnamed]
    constructor
    all_goals
      first
      | rw [same]
      | rw [metricRows_append_unknown outcomes (.inl unnamed)]
    · exact tallied.totals
    · exact tallied.successes
    · exact tallied.metrics
    · exact tallied.costs
    · exact tallied.tokens
    · exact tallied.latencies
  · rw [if_neg unnamed]
    have totals : (tallies.totalCounts.add outcome.modelId 1).Holds
        (fun _ => 1) (namedRows (outcomes ++ [outcome])) := by
      rw [namedRows_append_singleton outcomes unnamed]
      exact tallied.totals.add outcome.modelId outcome
    have successes : (if succeeded outcome then
          tallies.successCounts.add outcome.modelId 1
        else tallies.successCounts).Holds
        (fun outcome => if succeeded outcome then 1 else 0)
        (namedRows (outcomes ++ [outcome])) := by
      rw [namedRows_append_singleton outcomes unnamed]
      by_cases success : succeeded outcome = true
      · have added := tallied.successes.add outcome.modelId outcome
        rw [if_pos success] at added
        rw [if_pos success]
        exact added
      · rw [if_neg success]
        exact tallied.successes.skip outcome.modelId (if_neg success)
    by_cases empty : (metricsOf float outcome.entries).isEmpty = true
    · simp only [if_pos empty]
      refine ⟨totals, successes, ?_, ?_, ?_, ?_⟩
      all_goals rw [metricRows_append_unknown outcomes (.inr empty)]
      · exact tallied.metrics
      · exact tallied.costs
      · exact tallied.tokens
      · exact tallied.latencies
    · simp only [if_neg empty]
      refine ⟨totals, successes, ?_, ?_, ?_, ?_⟩
      all_goals rw [metricRows_append_singleton outcomes unnamed empty]
      · exact tallied.metrics.add outcome.modelId _
      · exact tallied.costs.add outcome.modelId _
      · exact tallied.tokens.add outcome.modelId _
      · exact tallied.latencies.add outcome.modelId _

theorem tallied_tallyAll (outcomes : List PriorOutcome) :
    Tallied float outcomes (tallyAll float outcomes) := by
  induction outcomes using List.reverseRecOn with
  | nil =>
    constructor
    all_goals exact Counter.holds_empty
  | append_singleton _ outcome ih =>
    unfold tallyAll at ih ⊢
    rw [foldl_append]
    exact ih.tally outcome

/-! ## The score -/

variable {outcomes : List PriorOutcome}

theorem relativeAverage_eq {sums : Counter String ℚ}
    {counts : Counter String ℕ} {metric : OutcomeMetrics → Option ℚ}
    (summed : sums.Holds (fun metrics => (metric metrics).getD 0) (metricRows float outcomes))
    (counted : counts.Holds (fun _ => 1) (metricRows float outcomes))
    (modelId : String) :
    relativeAverage sums counts modelId = relativeMetric float outcomes metric modelId := by
  have lengths : ∀ rows : List (String × OutcomeMetrics),
      (rows.map fun _ => 1).sum = rows.length := by simp
  unfold relativeAverage relativeMetric globalAverage averageOf
  simp only [summed.count, summed.total, counted.count, counted.total, lengths, length_eq_zero_iff]

theorem sum_indicator (holds : PriorOutcome → Bool) (outcomes : List PriorOutcome) :
    (outcomes.map fun outcome => if holds outcome then 1 else 0).sum = outcomes.countP holds := by
  induction outcomes with
  | nil => rfl
  | cons _ _ ih => rw [map_cons, sum_cons, ih, countP_cons, Nat.add_comm]

theorem score_tallyAll {model : ModelCapability} (named : model.modelId ≠ "")
    (tried : outcomesOf outcomes model.modelId ≠ []) :
    score (tallyAll float outcomes) model = (1 - successRate outcomes model.modelId) * (6 / 10) +
        penalty float outcomes model.modelId := by
  have tallied := @tallied_tallyAll float outcomes
  have rows : ((namedRows outcomes).filter fun row =>
      row.1 = model.modelId) =
        (outcomesOf outcomes model.modelId).map fun outcome =>
          (model.modelId, outcome) := by
    unfold namedRows outcomesOf
    rw [filter_map, filter_filter]
    have same : (outcomes.filter fun outcome =>
        ((fun row : String × PriorOutcome => decide (row.1 = model.modelId)) ∘
          fun outcome => (outcome.modelId, outcome)) outcome &&
            decide (outcome.modelId ≠ "")) =
        outcomes.filter fun outcome => outcome.modelId = model.modelId := by
      apply filter_congr
      intro outcome _
      by_cases own : outcome.modelId = model.modelId
      · simp [own, named]
      · simp [own]
    rw [same]
    apply map_congr_left
    intro outcome member
    have own : outcome.modelId = model.modelId := by simpa using (mem_filter.mp member).2
    rw [own]
  have total : (tallyAll float outcomes).totalCounts.count model.modelId =
      (outcomesOf outcomes model.modelId).length := by
    rw [tallied.totals.count, rows, map_map]
    simp [Function.comp_def]
  have successes : (tallyAll float outcomes).successCounts.count
      model.modelId = (outcomesOf outcomes model.modelId).countP succeeded := by
    rw [tallied.successes.count, rows, map_map]
    exact sum_indicator succeeded _
  have positive : (outcomesOf outcomes model.modelId).length ≠ 0 := by simpa using tried
  unfold score
  simp only [total, successes, if_neg positive]
  rw [relativeAverage_eq tallied.costs tallied.metrics,
    relativeAverage_eq tallied.tokens tallied.metrics,
    relativeAverage_eq tallied.latencies tallied.metrics]
  unfold penalty successRate
  ring

end

/-! ## The exploited model -/

section

variable (policy : EpsilonGreedyPolicy) (float : PyValue → Option ℚ)
variable (taskFingerprint : PyDict) (snapshot : ModelUniverseSnapshot)
variable (outcomes : List PriorOutcome)

structure Exploits (validationProfile : String) (draw : ℚ) (index : Nat)
    (decision : PolicyDecision) : Prop where
  selected : policy.select float taskFingerprint snapshot outcomes
    validationProfile draw index = .ok decision
  exploiting : decision.explorationFlag = false
  tried : ∀ model ∈ snapshot.models, model.available = true →
    model.modelId ≠ "" ∧ outcomesOf outcomes model.modelId ≠ []

structure PrefersSuccess (chosen : String) : Prop where
  maximal : ∀ model ∈ snapshot.models, model.available = true →
    successRate outcomes model.modelId ≤ successRate outcomes chosen
  ties : ∀ model ∈ snapshot.models, model.available = true →
    successRate outcomes model.modelId = successRate outcomes chosen →
      penalty float outcomes chosen ≤ penalty float outcomes model.modelId

/-- A model of the maximal success rate has no penalty that outweighs its
success: it exceeds that of each less successful model by less than 0.6 times
the difference of their success rates, or by just that and its id is the
smaller one. -/
def SuccessDominates : Prop :=
  ∃ best ∈ snapshot.models, best.available = true ∧
    ∀ model ∈ snapshot.models, model.available = true →
      successRate outcomes model.modelId ≤ successRate outcomes best.modelId ∧
        (successRate outcomes model.modelId < successRate outcomes best.modelId →
          toLex (penalty float outcomes best.modelId -
              penalty float outcomes model.modelId, best.modelId) ≤
            toLex ((successRate outcomes best.modelId -
              successRate outcomes model.modelId) * (6 / 10), model.modelId))

variable {policy float taskFingerprint snapshot outcomes}

theorem Exploits.least {validationProfile : String} {draw : ℚ} {index : Nat}
    {decision : PolicyDecision}
    (exploits : policy.Exploits float taskFingerprint snapshot outcomes
      validationProfile draw index decision) :
    ∃ chosen ∈ snapshot.models, chosen.available = true ∧
      decision.routingDecision.modelId = chosen.modelId ∧
        ∀ model ∈ snapshot.models, model.available = true →
          scoreKey (tallyAll float outcomes) chosen ≤ scoreKey (tallyAll float outcomes) model := by
  have selected := exploits.selected
  unfold select at selected
  cases listed : snapshot.models.filter ModelCapability.available with
  | nil =>
    rw [listed] at selected
    cases selected
  | cons first rest =>
    have available : ∀ model, model ∈ first :: rest ↔
        model ∈ snapshot.models ∧ model.available = true := by
      intro model
      rw [← listed, mem_filter]
    rw [listed] at selected
    by_cases explores : policy.explores validationProfile draw = true
    · simp only [if_pos explores] at selected
      cases selected
      cases exploits.exploiting
    · simp only [if_neg explores] at selected
      cases selected
      have known : outcomes ≠ [] := by
        rintro rfl
        obtain ⟨inModels, isAvailable⟩ := (available first).mp mem_cons_self
        exact (exploits.tried first inModels isAvailable).2 rfl
      obtain ⟨inModels, isAvailable⟩ := (available _).mp
        (leastRow_mem (scoreKey (tallyAll float outcomes)) first rest)
      refine ⟨_, inModels, isAvailable, ?_, ?_⟩
      · simp [exploitation, bestModel, known]
      · intro model inList modelAvailable
        exact leastRow_le _ first rest model ((available model).mpr ⟨inList, modelAvailable⟩)

theorem scoreKey_le_iff {first second : ModelCapability}
    (firstTried : first.modelId ≠ "" ∧ outcomesOf outcomes first.modelId ≠ [])
    (secondTried : second.modelId ≠ "" ∧ outcomesOf outcomes second.modelId ≠ []) :
    scoreKey (tallyAll float outcomes) first ≤ scoreKey (tallyAll float outcomes) second ↔
      toLex (penalty float outcomes first.modelId -
          penalty float outcomes second.modelId, first.modelId) ≤
        toLex ((successRate outcomes first.modelId -
          successRate outcomes second.modelId) * (6 / 10), second.modelId) := by
  unfold scoreKey
  rw [Prod.Lex.toLex_le_toLex, Prod.Lex.toLex_le_toLex, score_tallyAll firstTried.1 firstTried.2,
    score_tallyAll secondTried.1 secondTried.2]
  refine or_congr ⟨fun less => ?_, fun less => ?_⟩
    (and_congr_left' ⟨fun same => ?_, fun same => ?_⟩)
  all_goals
    simp only at *
    linarith

/-- The exploited model has the maximal success rate exactly when some model
of that rate has no penalty that outweighs its success. -/
theorem select_prefersSuccess_iff (validationProfile : String) (draw : ℚ) (index : Nat)
    (decision : PolicyDecision) :
    (policy.Exploits float taskFingerprint snapshot outcomes validationProfile draw index decision →
      PrefersSuccess float snapshot outcomes decision.routingDecision.modelId) ↔
    (policy.Exploits float taskFingerprint snapshot outcomes validationProfile draw index decision →
      SuccessDominates float snapshot outcomes) := by
  refine imp_congr_right fun exploits => ?_
  obtain ⟨chosen, inModels, isAvailable, named, least⟩ := exploits.least
  rw [named]
  constructor
  · intro prefers
    refine ⟨chosen, inModels, isAvailable, ?_⟩
    intro model inList available
    refine ⟨prefers.maximal model inList available, fun _ => ?_⟩
    exact (scoreKey_le_iff (exploits.tried chosen inModels isAvailable)
      (exploits.tried model inList available)).mp (least model inList available)
  · intro dominates
    obtain ⟨best, bestInModels, bestAvailable, dominating⟩ := dominates
    have reached : successRate outcomes best.modelId ≤ successRate outcomes chosen.modelId := by
      by_contra lower
      have ahead := (scoreKey_le_iff (exploits.tried best bestInModels bestAvailable)
        (exploits.tried chosen inModels isAvailable)).mpr
          ((dominating chosen inModels isAvailable).2 (not_le.mp lower))
      have same := le_antisymm ahead (least best bestInModels bestAvailable)
      have sameId : best.modelId = chosen.modelId := congrArg (fun key => (ofLex key).2) same
      exact lower (le_of_eq (by rw [sameId]))
    constructor
    · intro model inList available
      exact (dominating model inList available).1.trans reached
    · intro model inList available tied
      have ahead := (scoreKey_le_iff (exploits.tried chosen inModels isAvailable)
        (exploits.tried model inList available)).mp (least model inList available)
      rw [tied, sub_self, zero_mul, Prod.Lex.toLex_le_toLex] at ahead
      rcases ahead with less | same
      · exact sub_nonpos.mp less.le
      · exact sub_nonpos.mp same.1.le

end

/-! ## A cheap failure -/

def twoModels : ModelUniverseSnapshot where
  snapshotId := "snapshot"
  models :=
    [{ modelId := "costly", backend := "claude" },
      { modelId := "free", backend := "codex" }]

def twoOutcomes : List PriorOutcome :=
  [{ modelId := "costly"
     entries :=
       [("success", .bool true), ("cost", .int 10), ("input_tokens", .int 100),
         ("latency_ms", .int 100)] },
    { modelId := "free"
      entries :=
        [("success", .bool false), ("cost", .int 0), ("input_tokens", .int 0),
          ("latency_ms", .int 0)] }]

/-- `float` of the numbers of `twoOutcomes`. -/
def wholeNumber : PyValue → Option ℚ
  | .int value => some value
  | _ => none

theorem not_prefersSuccess_twoModels :
    ¬ ∀ (policy : EpsilonGreedyPolicy) (float : PyValue → Option ℚ)
      (taskFingerprint : PyDict) (snapshot : ModelUniverseSnapshot)
      (outcomes : List PriorOutcome) (validationProfile : String) (draw : ℚ)
      (index : Nat) (decision : PolicyDecision),
        policy.Exploits float taskFingerprint snapshot outcomes
            validationProfile draw index decision →
          PrefersSuccess float snapshot outcomes
            decision.routingDecision.modelId := by
  intro claim
  have best : bestModel wholeNumber
      { modelId := "costly", backend := "claude" }
      [{ modelId := "free", backend := "codex" }] twoOutcomes =
        { modelId := "free", backend := "codex" } := by
    decide +kernel
  have exploits : Exploits {} wholeNumber [] twoModels twoOutcomes "generic" 1
      0 (exploitation [] twoModels
        { modelId := "free", backend := "codex" }) := by
    refine ⟨?_, rfl, ?_⟩
    · have quiet : explores {} "generic" 1 = false := by decide +kernel
      have listed : twoModels.models.filter ModelCapability.available =
          [{ modelId := "costly", backend := "claude" },
            { modelId := "free", backend := "codex" }] := rfl
      rw [select, listed]
      simp only [quiet, best, Bool.false_eq_true, if_false]
    · decide +kernel
  have prefers := (claim _ _ _ _ _ _ _ _ _ exploits).maximal
    { modelId := "costly", backend := "claude" } (by decide) rfl
  revert prefers
  decide +kernel

end EpsilonGreedyPolicy

end AccruviaHarness
