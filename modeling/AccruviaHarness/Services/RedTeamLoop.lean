import AccruviaHarness.Library.OrderedSelection
import AccruviaHarness.Skills.Base

/-!
# The red-team loop

A generator skill and its reviewers take turns until a predicate is satisfied
or the rounds are used up. The findings of a round go to the next one.
-/

namespace AccruviaHarness

open Library Skills List

inductive StopReason where
  | maxRoundsExhausted
  | generatorFailed
  | predicateSatisfied
  deriving DecidableEq

structure RedTeamRound where
  roundNumber : Nat
  generatorResult : SkillResult
  reviewerResults : List (String × SkillResult)
  findings : List String
  stopped : Bool

structure RedTeamLoopResult where
  success : Bool
  roundsCompleted : Nat
  finalOutput : PyDict
  history : List RedTeamRound
  stopReason : StopReason

structure RedTeamRequest where
  generatorSkillName : String
  /-- `reviewer_skill_names or []`. -/
  reviewerSkillNames : List String
  initialInputs : PyDict
  stoppingPredicate : PyDict → List (String × SkillResult) → Nat → Except PyError Bool
  maxRounds : Int
  findingsExtractor : Option (PyDict → List (String × SkillResult) → Except PyError (List String))

structure SkillHost where
  /-- The names of the registered skills. -/
  registry : List String
  /-- What `_invoke` answers to a skill, a role, a round and the inputs. The
  loop asks each role of a round at most once. -/
  invoke : String → String → Nat → PyDict → Except PyError SkillResult

namespace RedTeamLoop

def visibleTexts (items : List PyValue) : List String :=
  (items.map fun item => pyStrip item.toStr).filter (· ≠ "")

def reviewFindings (review : String × SkillResult) : Except PyError (List String) :=
  if review.2.success then do
    let items ← review.2.output.getList "findings"
    return (visibleTexts items).map fun text => "[" ++ review.1 ++ "] " ++ text
  else return ["reviewer[" ++ review.1 ++ "] failed: " ++ "; ".intercalate review.2.errors]

def defaultFindingsExtractor (output : PyDict) (reviews : List (String × SkillResult)) :
    Except PyError (List String) := do
  let own ← output.getList "red_team_findings"
  let others ← reviews.mapM reviewFindings
  return visibleTexts own ++ others.flatten

def enterRound (inputs : PyDict) (number : Nat) : PyDict :=
  (inputs.set "round_number" (.int number)).setDefault "prior_round_findings" (.list [])

section

variable (host : SkillHost) (request : RedTeamRequest)

/-- The inputs that a round leaves for the one with this number. -/
def nextInputs (findings : List String) (number : Nat) : PyDict :=
  (request.initialInputs.set "prior_round_findings" (.list (findings.map .str))).set
    "round_number" (.int number)

/-- `skill_registry.get(name)`. -/
def getSkill (name : String) : Except PyError Unit :=
  if name ∈ host.registry then .ok ()
  else
    .error <| .keyError <| "Unknown skill: " ++ name ++ ". Available: " ++ ", ".intercalate
      (orderBy (fun first second : String => first ≤ second) host.registry)

def playRound (reviewers : List String) (number : Nat) (inputs : PyDict) :
    Except PyError RedTeamRound := do
  let generated ← host.invoke request.generatorSkillName "generator" number inputs
  if generated.success then
    let reviews ← reviewers.mapM fun name => do
      let review ← host.invoke name ("reviewer_" ++ name) number
        (inputs.set "generator_output" (.dict generated.output))
      return (name, review)
    let stop ← request.stoppingPredicate generated.output reviews number
    let findings ← (request.findingsExtractor.getD defaultFindingsExtractor) generated.output reviews
    return {
      roundNumber := number, generatorResult := generated, reviewerResults := reviews, findings
      stopped := stop }
  else
    return {
      roundNumber := number, generatorResult := generated, reviewerResults := []
      findings := ["generator_failed: " ++ "; ".intercalate generated.errors]
      stopped := request.maxRounds ≤ number }

def conclude (history : List RedTeamRound) (finalOutput : PyDict) (stopReason : StopReason) :
    RedTeamLoopResult where
  success := (history.getLast?.any fun round => round.generatorResult.success) &&
    stopReason ≠ .generatorFailed
  roundsCompleted := history.length
  finalOutput
  history
  stopReason

/-- The loop, with the rounds that are left and the number of the next one. -/
def loop (reviewers : List String) :
    Nat → Nat → PyDict → List RedTeamRound → PyDict → Except PyError RedTeamLoopResult
  | 0, _, _, history, finalOutput => .ok (conclude history finalOutput .maxRoundsExhausted)
  | left + 1, number, inputs, history, finalOutput => do
    let round ← playRound host request reviewers number (enterRound inputs number)
    let history := history ++ [round]
    if round.stopped then
      return conclude history round.generatorResult.output
        (if round.generatorResult.success then .predicateSatisfied else .generatorFailed)
    else
      loop reviewers left (number + 1) (nextInputs request round.findings (number + 1)) history
        (if round.generatorResult.success then round.generatorResult.output else finalOutput)

def execute : Except PyError RedTeamLoopResult :=
  if request.maxRounds < 1 then .error (.valueError "max_rounds must be >= 1")
  else do
    let _ ← getSkill host request.generatorSkillName
    let _ ← request.reviewerSkillNames.mapM (getSkill host)
    loop host request request.reviewerSkillNames.eraseDups request.maxRounds.toNat 1
      request.initialInputs [] []

/-- These inputs are the initial ones but for the number of the round and the
findings of the round before. -/
structure Briefs (earlier : List RedTeamRound) (number : Nat) (inputs : PyDict) : Prop where
  others : ∀ key, key ≠ "round_number" → key ≠ "prior_round_findings" →
    inputs.get key = request.initialInputs.get key
  number : inputs.get "round_number" = .int number
  findings : ∀ last, earlier.getLast? = some last →
    inputs.get "prior_round_findings" = .list (last.findings.map .str)

/-- Every round but the last goes on, and each was played under its number
with the inputs that brief it. -/
structure Played (reviewers : List String) (history : List RedTeamRound) : Prop where
  rounds : ∀ before round after, history = before ++ round :: after →
    ∃ inputs, Briefs request before (before.length + 1) inputs ∧
      playRound host request reviewers (before.length + 1) inputs = .ok round
  goesOn : ∀ round ∈ history.dropLast, round.stopped = false

structure Outcome (reviewers : List String) (result : RedTeamLoopResult) : Prop where
  played : Played host request reviewers result.history
  bounded : (result.history.length : Int) ≤ request.maxRounds
  last : ∃ last, result.history.getLast? = some last ∧
    result.finalOutput = last.generatorResult.output ∧
    result.success = last.generatorResult.success ∧
    ((result.history.length : Int) < request.maxRounds →
      last.stopped = true ∧ last.generatorResult.success = true)

end

section

variable {host : SkillHost} {request : RedTeamRequest} {reviewers : List String}
  {history : List RedTeamRound} {round : RedTeamRound} {inputs finalOutput : PyDict}
  {number left : Nat} {result : RedTeamLoopResult}

theorem get_setDefault_of_ne {entries : PyDict} {key other : String} (value : PyValue)
    (differs : other ≠ key) : (entries.setDefault key value).get other = entries.get other := by
  unfold PyDict.setDefault
  split
  · rfl
  · simp [PyDict.get, differs.symm]

theorem get_enterRound_findings (inputs : PyDict) (number : Nat) (findings : List PyValue)
    (set : (inputs.set "round_number" (.int number)).get "prior_round_findings" = .list findings) :
    (enterRound inputs number).get "prior_round_findings" = .list findings := by
  unfold enterRound PyDict.setDefault
  split
  · exact set
  next missing =>
    unfold PyDict.get at set
    split at set
    next entry found =>
      exact absurd (any_eq_true.mpr ⟨entry, mem_of_find?_eq_some found, find?_some found⟩) missing
    · cases set

theorem briefs_start : Briefs request [] 1 (enterRound request.initialInputs 1) where
  others key notNumber notFindings := by
    rw [enterRound, get_setDefault_of_ne _ notFindings, PyDict.get_set, if_neg notNumber]
  number := by
    rw [enterRound, get_setDefault_of_ne _ (by decide), PyDict.get_set, if_pos rfl]
  findings := nofun

theorem briefs_next (round : RedTeamRound) (history : List RedTeamRound) (number : Nat) :
    Briefs request (history ++ [round]) number
      (enterRound (nextInputs request round.findings number) number) where
  others key notNumber notFindings := by
    rw [enterRound, get_setDefault_of_ne _ notFindings, nextInputs, PyDict.get_set,
      if_neg notNumber, PyDict.get_set, if_neg notNumber, PyDict.get_set, if_neg notFindings]
  number := by
    rw [enterRound, get_setDefault_of_ne _ (by decide), PyDict.get_set, if_pos rfl]
  findings last placed := by
    rw [getLast?_concat] at placed
    cases placed
    refine get_enterRound_findings _ _ _ ?_
    rw [nextInputs, PyDict.get_set, if_neg (by decide), PyDict.get_set, if_neg (by decide),
      PyDict.get_set, if_pos rfl]

theorem Played.append (played : Played host request reviewers history)
    (goesOn : ∀ earlier ∈ history, earlier.stopped = false)
    (briefs : Briefs request history (history.length + 1) inputs)
    (plays : playRound host request reviewers (history.length + 1) inputs = .ok round) :
    Played host request reviewers (history ++ [round]) where
  rounds before other after split := by
    rcases eq_nil_or_concat after with rfl | ⟨rest, last, rfl⟩
    · obtain ⟨rfl, same⟩ := append_inj' split rfl
      cases same
      exact ⟨inputs, briefs, plays⟩
    · rw [concat_eq_append, ← cons_append, ← append_assoc] at split
      exact played.rounds before other rest (append_inj' split rfl).1
  goesOn other member := by
    rw [dropLast_concat] at member
    exact goesOn other member

/-- A round whose generator fails stops the loop exactly when it is the last. -/
theorem stopped_of_failed
    (plays : playRound host request reviewers number inputs = .ok round)
    (failed : round.generatorResult.success = false) :
    round.stopped = decide (request.maxRounds ≤ number) := by
  obtain ⟨generated, _, plays⟩ := exists_of_bind_ok plays
  split at plays
  next succeeded =>
    obtain ⟨reviews, _, plays⟩ := exists_of_bind_ok plays
    obtain ⟨stop, _, plays⟩ := exists_of_bind_ok plays
    obtain ⟨findings, _, plays⟩ := exists_of_bind_ok plays
    cases plays
    rw [succeeded] at failed
    cases failed
  · cases plays
    rfl

theorem loop_spec (played : Played host request reviewers history)
    (goesOn : ∀ earlier ∈ history, earlier.stopped = false)
    (briefs : Briefs request history (history.length + 1) (enterRound inputs (history.length + 1)))
    (total : (history.length + left : Int) = request.maxRounds) (nonempty : history ≠ [] ∨ left ≠ 0)
    (outputs : ∀ last, history.getLast? = some last → last.generatorResult.success = true →
      finalOutput = last.generatorResult.output)
    (returned : loop host request reviewers left (history.length + 1) inputs history finalOutput =
      .ok result) : Outcome host request reviewers result := by
  induction left generalizing inputs history finalOutput with
  | zero =>
    cases returned
    obtain ⟨front, last, rfl⟩ := (eq_nil_or_concat' history).resolve_left
      (nonempty.resolve_right (not_not.mpr rfl))
    obtain ⟨_, _, plays⟩ := played.rounds front last [] rfl
    have succeeded : last.generatorResult.success = true := by
      by_contra failed
      have stopped := stopped_of_failed plays (Bool.eq_false_iff.mpr failed)
      rw [goesOn last mem_concat_self, eq_comm, decide_eq_false_iff_not] at stopped
      rw [length_append, length_singleton] at total
      omega
    refine { played, bounded := by simp only [conclude]; omega, last := ⟨last, ?_⟩ }
    refine ⟨getLast?_concat, outputs last getLast?_concat succeeded, ?_, fun fewer => ?_⟩
    · simp [conclude, succeeded]
    · simp only [conclude] at fewer
      omega
  | succ left ih =>
    obtain ⟨round, plays, returned⟩ := exists_of_bind_ok returned
    have next := played.append goesOn briefs plays
    have longer : (history ++ [round]).length = history.length + 1 := length_append
    split at returned
    next stopped =>
      cases returned
      refine { played := next, bounded := by simp only [conclude]; omega, last := ⟨round, ?_⟩ }
      refine ⟨getLast?_concat, rfl, ?_, fun fewer => ⟨stopped, ?_⟩⟩
      · cases succeeded : round.generatorResult.success <;> simp [conclude, succeeded]
      · by_contra failed
        rw [stopped_of_failed plays (Bool.eq_false_iff.mpr failed), decide_eq_true_iff] at stopped
        simp only [conclude] at fewer
        omega
    next going =>
      rw [← longer] at returned
      refine ih next ?_ ?_ (by omega) (.inl (concat_ne_nil _ _)) ?_ returned
      · intro earlier member
        rcases mem_append.mp member with old | new
        · exact goesOn earlier old
        · rw [mem_singleton.mp new]
          exact Bool.eq_false_iff.mpr going
      · exact briefs_next round history _
      · intro last placed succeeded
        rw [getLast?_concat] at placed
        cases placed
        exact if_pos succeeded

/-- However the skills answer, a loop that returns has played at most
`max_rounds` rounds, each with the findings of the one before it. It answers
with the output of its last round, and stops early only for the predicate. -/
theorem execute_outcome (host : SkillHost) (request : RedTeamRequest) (result : RedTeamLoopResult)
    (returned : execute host request = .ok result) :
    Outcome host request request.reviewerSkillNames.eraseDups result := by
  unfold execute at returned
  split at returned
  · cases returned
  next enough =>
    obtain ⟨_, _, returned⟩ := exists_of_bind_ok returned
    obtain ⟨_, _, returned⟩ := exists_of_bind_ok returned
    have played : Played host request request.reviewerSkillNames.eraseDups [] :=
      ⟨fun _ _ _ split => by simp at split, fun _ member => absurd member not_mem_nil⟩
    refine loop_spec played (fun _ member => absurd member not_mem_nil) briefs_start ?_ (.inr ?_)
      (fun _ placed => by cases placed) returned
    · rw [length_nil]
      omega
    · omega

/-- A generator that fails in its first round only. -/
def secondTry : SkillHost where
  registry := ["generator"]
  invoke skill _ number _ := .ok { skillName := skill, success := number ≠ 1 }

def threeRounds : RedTeamRequest where
  generatorSkillName := "generator"
  reviewerSkillNames := []
  initialInputs := []
  stoppingPredicate _ _ number := .ok (number = 2)
  maxRounds := 3
  findingsExtractor := none

theorem threeRounds_outcome :
    ∃ result, Outcome secondTry threeRounds [] result ∧ result.roundsCompleted = 2 :=
  ⟨_, execute_outcome secondTry threeRounds _ rfl, rfl⟩

end

end RedTeamLoop

end AccruviaHarness
