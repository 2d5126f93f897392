import Mathlib.Data.List.Basic

/-!
# Programs that stop at their first obstacle

A program over a state that may raise often is a sequence of steps, of which
each one goes through or ends the program.
-/

namespace Library

open Option

universe u

variable {Error State Result Next : Type u}

def firstObstacle (obstacles : List (Option Error)) : Option Error := obstacles.findSome? id

theorem firstObstacle_cons (obstacle : Option Error) (obstacles : List (Option Error)) :
    firstObstacle (obstacle :: obstacles) = obstacle.or (firstObstacle obstacles) := by
  unfold firstObstacle
  rw [List.findSome?_cons]
  cases obstacle <;> rfl

theorem firstObstacle_singleton {obstacle : Option Error} : firstObstacle [obstacle] = obstacle :=
  (firstObstacle_cons obstacle []).trans or_none

theorem firstObstacle_append (first second : List (Option Error)) :
    firstObstacle (first ++ second) = (firstObstacle first).or (firstObstacle second) :=
  List.findSome?_append

theorem firstObstacle_eq_none_iff {obstacles : List (Option Error)} :
    firstObstacle obstacles = none ↔ ∀ obstacle ∈ obstacles, obstacle = none :=
  List.findSome?_eq_none_iff

/-- From the state the program stops at the first obstacle, in a state of
which the property holds, or it returns the result in the other state. -/
structure StopsAt (program : EStateM Error State Result) (before : State)
    (obstacles : List (Option Error)) (stays : State → Prop)
    (result : Result) (after : State) : Prop where
  stopped : ∀ error, firstObstacle obstacles = some error →
    ∃ left, program before = .error error left ∧ stays left
  passed : firstObstacle obstacles = none → program before = .ok result after

def ensure (condition : Prop) [Decidable condition] (error : Error) : EStateM Error State PUnit :=
  if condition then pure ⟨⟩ else throw error

variable {condition : Prop} {error : Error}

theorem ensure_of [Decidable condition] (holds : condition) :
    (ensure condition error : EStateM Error State PUnit) = pure ⟨⟩ :=
  if_pos holds

theorem ensure_of_not [Decidable condition] (fails : ¬ condition) :
    (ensure condition error : EStateM Error State PUnit) = throw error :=
  if_neg fails

def raiseIf (obstacle : Option Error) : EStateM Error State PUnit :=
  match obstacle with
  | some error => throw error
  | none => pure ⟨⟩

def raiseFirst : List (Option Error) → EStateM Error State PUnit
  | [] => pure ⟨⟩
  | obstacle :: obstacles => do
      raiseIf obstacle
      raiseFirst obstacles

def valueOf : Except Error Result → EStateM Error State Result
  | .ok value => pure value
  | .error error => throw error

def errorOf : Except Error Result → Option Error
  | .ok _ => none
  | .error error => some error

namespace StopsAt

variable {program : EStateM Error State Result}
  {rest : Result → EStateM Error State Next}
  {before middle after : State} {obstacles others : List (Option Error)}
  {stays : State → Prop} {result : Result} {final : Next}

theorem fails_iff (described : StopsAt program before obstacles stays result after) :
    (∃ error left, program before = .error error left) ↔ firstObstacle obstacles ≠ none := by
  constructor
  · rintro ⟨error, left, failed⟩ clear
    rw [described.passed clear] at failed
    cases failed
  · intro found
    obtain ⟨error, here⟩ := ne_none_iff_exists'.mp found
    obtain ⟨left, failed, _⟩ := described.stopped error here
    exact ⟨error, left, failed⟩

variable {error : Error}

theorem stays_of_error (described : StopsAt program before obstacles stays result after)
    {left : State} (failed : program before = .error error left) :
    firstObstacle obstacles = some error ∧ stays left := by
  obtain ⟨other, here⟩ := ne_none_iff_exists'.mp
    (described.fails_iff.mp ⟨error, left, failed⟩)
  obtain ⟨_, again, kept⟩ := described.stopped other here
  cases failed.symm.trans again
  exact ⟨here, kept⟩

theorem returns (returned : program before = .ok result after) :
    StopsAt program before [] stays result after :=
  ⟨nofun, fun _ => returned⟩

theorem step {obstacle : Option Error} (kept : stays before)
    (raises : ∀ error, obstacle = some error → program before = .error error before)
    (goesOn : obstacle = none → program before = .ok result after) :
    StopsAt program before [obstacle] stays result after := by
  constructor
  · intro error found
    rw [firstObstacle_singleton] at found
    exact ⟨before, raises error found, kept⟩
  · intro found
    rw [firstObstacle_singleton] at found
    exact goesOn found

theorem raise (kept : stays before) :
    StopsAt (throw error) before [some error] stays result after := by
  refine step kept ?_ nofun
  rintro _ ⟨⟩
  rfl

theorem raiseIf {obstacle : Option Error} (kept : stays before) :
    StopsAt (raiseIf obstacle) before [obstacle] stays ⟨⟩ before := by
  refine step kept ?_ ?_
  · rintro _ rfl
    rfl
  · rintro rfl
    rfl

theorem guarded {condition : Prop} [Decidable condition] (kept : stays before)
    (goesOn : condition → program before = .ok result after) :
    StopsAt (if condition then program else throw error) before
      [if condition then none else some error] stays result after := by
  by_cases holds : condition
  · rw [if_pos holds, if_pos holds]
    exact step kept nofun fun _ => goesOn holds
  · rw [if_neg holds, if_neg holds]
    exact raise kept

theorem ensure {condition : Prop} [Decidable condition] {error : Error} (kept : stays before) :
    StopsAt (ensure condition error) before
      [if condition then none else some error] stays ⟨⟩ before :=
  guarded kept fun _ => rfl

theorem stopped_bind (first : StopsAt program before obstacles stays result middle)
    (found : firstObstacle obstacles = some error) :
    ∃ left, (program >>= rest) before = .error error left ∧ stays left := by
  obtain ⟨left, raised, kept⟩ := first.stopped error found
  refine ⟨left, ?_, kept⟩
  show EStateM.bind program rest before = _
  unfold EStateM.bind
  rw [raised]

theorem passed_bind (first : StopsAt program before obstacles stays result middle)
    (clear : firstObstacle obstacles = none) :
    (program >>= rest) before = rest result middle := by
  show EStateM.bind program rest before = _
  unfold EStateM.bind
  rw [first.passed clear]

theorem bind (first : StopsAt program before obstacles stays result middle)
    (second : firstObstacle obstacles = none →
      StopsAt (rest result) middle others stays final after) :
    StopsAt (program >>= rest) before (obstacles ++ others) stays final
      after := by
  constructor
  · intro error found
    rw [firstObstacle_append] at found
    cases here : firstObstacle obstacles with
    | some _ =>
      rw [here] at found
      cases found
      exact first.stopped_bind here
    | none =>
      rw [here] at found
      rw [first.passed_bind here]
      exact (second here).stopped error found
  · intro found
    rw [firstObstacle_append, or_eq_none_iff] at found
    rw [first.passed_bind found.1]
    exact (second found.1).passed found.2

theorem raiseFirst (obstacles : List (Option Error)) (kept : stays before) :
    StopsAt (raiseFirst obstacles) before obstacles stays ⟨⟩ before := by
  induction obstacles with
  | nil => exact returns rfl
  | cons _ _ ih => exact (raiseIf kept).bind fun _ => ih

theorem congr {other : EStateM Error State Result}
    (described : StopsAt other middle obstacles stays result after)
    (same : program before = other middle) :
    StopsAt program before obstacles stays result after :=
  ⟨fun error found => same ▸ described.stopped error found,
    fun found => same ▸ described.passed found⟩

theorem relist {other : List (Option Error)}
    (described : StopsAt program before obstacles stays result after)
    (same : firstObstacle obstacles = firstObstacle other) :
    StopsAt program before other stays result after :=
  ⟨fun error found => described.stopped error (same.trans found),
    fun found => described.passed (same.trans found)⟩

theorem value_bind {outcome : Except Error Result} (kept : stays before)
    (goesOn : ∀ value, outcome = .ok value → StopsAt (rest value) before others stays final after) :
    StopsAt (valueOf outcome >>= rest) before (errorOf outcome :: others) stays final after := by
  cases outcome with
  | ok value =>
    have passes : firstObstacle (none :: others) = firstObstacle others := by
      rw [firstObstacle_cons]
      exact none_or
    exact ((goesOn value rfl).congr rfl).relist passes.symm
  | error _ =>
    constructor
    · rintro _ ⟨⟩
      exact ⟨before, rfl, kept⟩
    · intro clear
      cases clear

theorem read {uses : State → EStateM Error State Next}
    (described : StopsAt (uses before) before obstacles stays final after) :
    StopsAt (get >>= uses) before obstacles stays final after :=
  described.congr rfl

theorem modified {change : State → State} {next : PUnit → EStateM Error State Next}
    (described : StopsAt (next ⟨⟩) (change before) obstacles stays final after) :
    StopsAt (modify change >>= next) before obstacles stays final after :=
  described.congr rfl

theorem unstopped {other : State → Prop}
    (described : StopsAt program before obstacles stays result after)
    (clear : firstObstacle obstacles = none) :
    StopsAt program before obstacles other result after := by
  refine ⟨?_, described.passed⟩
  intro error found
  rw [clear] at found
  cases found

variable {handler : Error → EStateM Error State Result}

theorem caught (raised : program before = .error error middle)
    (described : StopsAt (handler error) middle obstacles stays result after) :
    StopsAt (tryCatch program handler) before obstacles stays result
      after := by
  refine described.congr ?_
  show EStateM.tryCatch program handler before = _
  unfold EStateM.tryCatch
  rw [raised]
  rfl

theorem uncaught (returned : program before = .ok result after) :
    StopsAt (tryCatch program handler) before [] stays result after := by
  refine returns ?_
  show EStateM.tryCatch program handler before = _
  unfold EStateM.tryCatch
  rw [returned]

theorem weaken {weaker : State → Prop}
    (described : StopsAt program before obstacles stays result after)
    (implied : ∀ state, stays state → weaker state) :
    StopsAt program before obstacles weaker result after := by
  refine ⟨?_, described.passed⟩
  intro error found
  obtain ⟨left, raised, kept⟩ := described.stopped error found
  exact ⟨left, raised, implied left kept⟩

end StopsAt

/-- The program, with another one run at its end in any case; an error of that
one replaces the program's own. -/
def withCleanup (program : EStateM Error State Result)
    (cleanup : EStateM Error State PUnit) : EStateM Error State Result :=
  fun before =>
    match program before with
    | .ok result left =>
      match cleanup left with
      | .ok _ ended => .ok result ended
      | .error error ended => .error error ended
    | .error error left =>
      match cleanup left with
      | .ok _ ended => .error error ended
      | .error later ended => .error later ended

/-- A program that leaves the state, and fails or not on its own account. -/
structure RunsOnOwn (program : EStateM Error State PUnit)
    (failure : Option Error) : Prop where
  fails : ∀ error, failure = some error → ∀ state, program state = .error error state
  ends : failure = none → ∀ state, program state = .ok ⟨⟩ state

section

variable {program : EStateM Error State Result}
  {cleanup : EStateM Error State PUnit} {failure : Option Error}
  {before middle after : State} {obstacles : List (Option Error)}
  {stays : State → Prop} {result : Result}

theorem withCleanup_congr {other : EStateM Error State Result}
    (same : program before = other middle) :
    withCleanup program cleanup before = withCleanup other cleanup middle := by
  unfold withCleanup
  rw [same]

theorem withCleanup_of_error
    {error : Error} {left : State} (failed : program before = .error error left)
    (own : RunsOnOwn cleanup failure) :
    ∃ later, withCleanup program cleanup before = .error later left := by
  unfold withCleanup
  rw [failed]
  dsimp only
  cases ended : failure with
  | none =>
    rw [own.ends ended]
    exact ⟨error, rfl⟩
  | some later =>
    rw [own.fails later ended]
    exact ⟨later, rfl⟩

/-- A cleanup that leaves the state is one more obstacle, and the first one,
since its error replaces the others. -/
theorem StopsAt.withCleanup (described : StopsAt program before obstacles stays result after)
    (kept : firstObstacle obstacles = none → stays after)
    (own : RunsOnOwn cleanup failure) :
    StopsAt (withCleanup program cleanup) before (failure :: obstacles) stays result after := by
  constructor
  · intro error found
    rw [firstObstacle_cons] at found
    unfold Library.withCleanup
    cases here : firstObstacle obstacles with
    | none =>
      rw [here, or_none] at found
      rw [described.passed here]
      dsimp only
      rw [own.fails error found]
      exact ⟨after, rfl, kept here⟩
    | some other =>
      obtain ⟨left, failed, keptLeft⟩ := described.stopped other here
      rw [failed]
      dsimp only
      cases ended : failure with
      | none =>
        rw [here, ended] at found
        cases found
        rw [own.ends ended]
        exact ⟨left, rfl, keptLeft⟩
      | some _ =>
        rw [ended] at found
        cases found
        rw [own.fails _ ended]
        exact ⟨left, rfl, keptLeft⟩
  · intro found
    rw [firstObstacle_cons, or_eq_none_iff] at found
    unfold Library.withCleanup
    rw [described.passed found.2]
    dsimp only
    rw [own.ends found.1]

end

end Library
