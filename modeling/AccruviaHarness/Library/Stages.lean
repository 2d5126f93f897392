import AccruviaHarness.Library.Obstacles

/-!
# Programs that pass through stages

What a program leaves where it stops depends on how far it came. Its obstacles
fall into stages; each stage has a property of the states in which the program
stops there.
-/

namespace Library

universe u

variable {Error State Result Next Value : Type u}

/-- The obstacles of a part of a program, and what holds where one of them
stops it. -/
structure Stage (Error State : Type u) where
  obstacles : List (Option Error)
  stays : State → Prop

/-- The first obstacle of the first stage that has one, with the property of
that stage. -/
def firstStage (stages : List (Stage Error State)) : Option (Error × (State → Prop)) :=
  stages.findSome? fun stage =>
    (firstObstacle stage.obstacles).map fun error => (error, stage.stays)

theorem firstStage_append (first second : List (Stage Error State)) :
    firstStage (first ++ second) = (firstStage first).or (firstStage second) :=
  List.findSome?_append

theorem firstStage_cons (stage : Stage Error State) (stages : List (Stage Error State)) :
    firstStage (stage :: stages) =
      match firstObstacle stage.obstacles with
      | some error => some (error, stage.stays)
      | none => firstStage stages := by
  unfold firstStage
  rw [List.findSome?_cons]
  cases firstObstacle stage.obstacles <;> rfl

theorem firstStage_merge (first second : List (Option Error)) (stays : State → Prop)
    (stages : List (Stage Error State)) :
    firstStage (⟨first ++ second, stays⟩ :: stages) =
      firstStage (⟨first, stays⟩ :: ⟨second, stays⟩ :: stages) := by
  simp only [firstStage_cons, firstObstacle_append]
  cases firstObstacle first <;> rfl

/-- From the state the program stops in the first stage that has an obstacle,
or it returns and `ends` holds of the result and the state. -/
structure StopsIn (program : EStateM Error State Result) (before : State)
    (stages : List (Stage Error State)) (ends : Result → State → Prop) :
    Prop where
  stopped : ∀ error stays, firstStage stages = some (error, stays) →
    ∃ left, program before = .error error left ∧ stays left
  passed : firstStage stages = none →
    ∃ result after, program before = .ok result after ∧ ends result after

namespace StopsIn

variable {program : EStateM Error State Result}
  {rest : Result → EStateM Error State Next}
  {before middle : State} {stages others : List (Stage Error State)}
  {reaches : Result → State → Prop} {ends : Next → State → Prop}

variable {result : Result} {obstacles later : List (Option Error)}
  {stays : State → Prop}

theorem returns (returned : program before = .ok result middle) (ended : reaches result middle) :
    StopsIn program before [] reaches := by
  constructor
  · intro error stays found
    cases found
  · intro _
    exact ⟨result, middle, returned, ended⟩

theorem congr {other : EStateM Error State Result} (described : StopsIn other middle stages reaches)
    (same : program before = other middle) :
    StopsIn program before stages reaches :=
  ⟨fun error stays found => same ▸ described.stopped error stays found,
    fun found => same ▸ described.passed found⟩

theorem relist (described : StopsIn program before stages reaches)
    (same : firstStage others = firstStage stages) :
    StopsIn program before others reaches :=
  ⟨fun error stays found => described.stopped error stays (same ▸ found),
    fun found => described.passed (same ▸ found)⟩

theorem raises (described : StopsIn program before (⟨obstacles, stays⟩ :: stages) reaches)
    (found : firstObstacle obstacles ≠ none) :
    ∃ error left, program before = .error error left ∧ stays left := by
  obtain ⟨error, here⟩ := Option.ne_none_iff_exists'.mp found
  have stopped : firstStage (⟨obstacles, stays⟩ :: stages) = some (error, stays) := by
    rw [firstStage_cons, here]
  exact ⟨error, described.stopped error stays stopped⟩

theorem tail {obstacles : List (Option Error)} {stays : State → Prop}
    (described : StopsIn program before (⟨obstacles, stays⟩ :: stages) reaches)
    (clear : firstObstacle obstacles = none) :
    StopsIn program before stages reaches := by
  refine described.relist ?_
  rw [firstStage_cons, clear]

theorem ended (described : StopsIn program before [] reaches) :
    ∃ result after, program before = .ok result after ∧ reaches result after :=
  described.passed rfl

theorem weaken {weaker : Result → State → Prop} (described : StopsIn program before stages reaches)
    (implied : ∀ result state, reaches result state → weaker result state) :
    StopsIn program before stages weaker := by
  refine ⟨described.stopped, ?_⟩
  intro clear
  obtain ⟨result, after, returned, reached⟩ := described.passed clear
  exact ⟨result, after, returned, implied result after reached⟩

theorem bind (first : StopsIn program before stages reaches)
    (second : ∀ result middle, reaches result middle → StopsIn (rest result) middle others ends) :
    StopsIn (program >>= rest) before (stages ++ others) ends := by
  have opened : (program >>= rest) before = EStateM.bind program rest before := rfl
  constructor
  · intro error stays found
    rw [firstStage_append] at found
    cases here : firstStage stages with
    | some _ =>
      obtain ⟨left, raised, kept⟩ := first.stopped _ _ here
      rw [here] at found
      cases found
      refine ⟨left, ?_, kept⟩
      rw [opened, EStateM.bind, raised]
    | none =>
      obtain ⟨result, middle, returned, reached⟩ := first.passed here
      rw [here] at found
      obtain ⟨left, raised, kept⟩ := (second result middle reached).stopped error stays found
      refine ⟨left, ?_, kept⟩
      rw [opened, EStateM.bind, returned]
      exact raised
  · intro found
    rw [firstStage_append, Option.or_eq_none_iff] at found
    obtain ⟨result, middle, returned, reached⟩ := first.passed found.1
    rw [opened, EStateM.bind, returned]
    exact (second result middle reached).passed found.2

theorem alone (described : StopsAt program before obstacles stays result middle)
    (ended : reaches result middle) :
    StopsIn program before [⟨obstacles, stays⟩] reaches := by
  constructor
  · intro error stays found
    rw [firstStage_cons] at found
    cases here : firstObstacle obstacles with
    | some _ =>
      simp only [here] at found
      cases found
      exact described.stopped error here
    | none =>
      simp only [here] at found
      cases found
  · intro found
    rw [firstStage_cons] at found
    cases here : firstObstacle obstacles with
    | some _ =>
      simp only [here] at found
      cases found
    | none => exact ⟨result, middle, described.passed here, ended⟩

theorem stage (first : StopsAt program before obstacles stays result middle)
    (second : StopsIn (rest result) middle others ends) :
    StopsIn (program >>= rest) before (⟨obstacles, stays⟩ :: others) ends := by
  have reached : StopsIn program before [⟨obstacles, stays⟩]
      fun other left => other = result ∧ left = middle :=
    alone first ⟨rfl, rfl⟩
  refine reached.bind ?_
  rintro _ _ ⟨rfl, rfl⟩
  exact second

theorem bind_same (first : StopsIn program before [⟨obstacles, stays⟩] reaches)
    (second : ∀ result middle, reaches result middle →
      StopsIn (rest result) middle (⟨later, stays⟩ :: others) ends) :
    StopsIn (program >>= rest) before (⟨obstacles ++ later, stays⟩ :: others) ends :=
  (first.bind second).relist (firstStage_merge obstacles later stays others)

theorem bind_second {head : Stage Error State}
    (first : StopsIn program before [head, ⟨obstacles, stays⟩] reaches)
    (second : ∀ result middle, reaches result middle →
      StopsIn (rest result) middle (⟨later, stays⟩ :: others) ends) :
    StopsIn (program >>= rest) before (head :: ⟨obstacles ++ later, stays⟩ :: others) ends := by
  refine (first.bind second).relist ?_
  rw [firstStage_cons, firstStage_merge]
  exact (firstStage_cons _ _).symm

theorem prepend (first : StopsAt program before obstacles stays result middle)
    (second : StopsIn (rest result) middle (⟨later, stays⟩ :: others) ends) :
    StopsIn (program >>= rest) before (⟨obstacles ++ later, stays⟩ :: others) ends :=
  (stage first second).relist (firstStage_merge obstacles later stays others)

theorem skip {stays : State → Prop} (described : StopsIn program before others reaches) :
    StopsIn program before (⟨[], stays⟩ :: others) reaches :=
  described.relist (firstStage_cons _ _)

theorem value_bind {outcome : Except Error Result} (kept : stays before)
    (goesOn : ∀ value, outcome = .ok value →
      StopsIn (rest value) before (⟨later, stays⟩ :: others) ends) :
    StopsIn (valueOf outcome >>= rest) before
      (⟨errorOf outcome :: later, stays⟩ :: others) ends := by
  cases outcome with
  | ok value =>
    have passes := goesOn value rfl
    refine (passes.congr rfl).relist ?_
    rw [firstStage_cons, firstStage_cons]
    simp only [errorOf, firstObstacle_cons, Option.none_or]
  | error error =>
    have found : firstStage (⟨errorOf (.error error : Except Error Result) ::
        later, stays⟩ :: others) = some (error, stays) := by
      rw [firstStage_cons]
      rfl
    constructor
    · intro other held here
      rw [found] at here
      cases here
      exact ⟨before, rfl, kept⟩
    · intro clear
      rw [found] at clear
      cases clear

variable {next : PUnit → EStateM Error State Next}

theorem assigned {state : State} (described : StopsIn (next ⟨⟩) state others ends) :
    StopsIn (set state >>= next) before others ends :=
  described.congr rfl

theorem read {uses : State → EStateM Error State Next}
    (described : StopsIn (uses before) before others ends) :
    StopsIn (get >>= uses) before others ends :=
  described.congr rfl

theorem modified {change : State → State}
    (described : StopsIn (next ⟨⟩) (change before) others ends) :
    StopsIn (modify change >>= next) before others ends :=
  described.congr rfl

end StopsIn

end Library
