import Mathlib.Data.Set.Insert
import Mathlib.Logic.Function.Basic

/-!
# Rounds that one party at a time works on

Parties of several processes open rounds and work on them. Any party may mark a
round as failed that it takes for abandoned.
-/

namespace Library

universe u v

inductive RoundRole (Round : Type u) where
  | outside
  | interrupting (round : Round)
  | launching (round : Round)
  | executing (round : Round)
  | finishing (round : Round)

namespace RoundRole

variable {Round : Type u}

def held : RoundRole Round → Option Round
  | launching round | executing round | finishing round => some round
  | _ => none

def completable : RoundRole Round → Option Round
  | launching round | executing round => some round
  | _ => none

def abandoned : RoundRole Round → Option Round
  | interrupting round => some round
  | _ => none

def Runs : RoundRole Round → Prop
  | executing _ | finishing _ => True
  | _ => False

end RoundRole

structure RoundParty (Process : Type v) (Round : Type u) where
  process : Process
  background : Prop
  role : RoundRole Round

/-- The parties by their slots, the register of each process, and the rounds
that were opened and that failed. -/
@[ext]
structure RoundWorld (Process : Type v) (Round : Type u) where
  parties : Nat → Option (RoundParty Process Round)
  registered : Set Process
  known : Set Round
  failed : Set Round

namespace RoundWorld

variable {Process : Type v} {Round : Type u}

def Share (first second : RoundParty Process Round) : Prop :=
  first.background ∧ second.background ∧ first.process = second.process

variable (world : RoundWorld Process Round)

def place (slot : Nat) (party : Option (RoundParty Process Round)) : RoundWorld Process Round :=
  { world with parties := Function.update world.parties slot party }

def release (party : RoundParty Process Round) : Set Process :=
  { process | process ∈ world.registered ∧
    ¬ (party.background ∧ party.role.Runs ∧ process = party.process) }

inductive Step (world : RoundWorld Process Round) :
    RoundWorld Process Round → Prop where
  | stay : Step world world
  | enter {slot party} (free : world.parties slot = none)
      (outside : party.role = .outside) : Step world (world.place slot (some party))
  | judge {slot party round} (here : world.parties slot = some party)
      (outside : party.role = .outside) (known : round ∈ world.known)
      (unheld : ∀ other party, world.parties other = some party →
        party.role.held ≠ some round) : Step world
        (world.place slot (some { party with role := .interrupting round }))
  | interrupt {slot party round} (here : world.parties slot = some party)
      (role : party.role = .interrupting round) : Step world
        { world.place slot (some { party with role := .outside }) with
          failed := insert round world.failed }
  | dismiss {slot party round} (here : world.parties slot = some party)
      (role : party.role = .interrupting round) : Step world
        (world.place slot (some { party with role := .outside }))
  | start {slot party round} (here : world.parties slot = some party)
      (outside : party.role = .outside) (fresh : round ∉ world.known)
      (unfailed : round ∉ world.failed)
      (uncontested : ∀ other rival, other ≠ slot →
        world.parties other = some rival → rival.role.completable ≠ none →
          Share party rival) : Step world
        { world.place slot (some { party with role := .launching round }) with
          known := insert round world.known }
  | launch {slot party round} (here : world.parties slot = some party)
      (role : party.role = .launching round)
      (admitted : party.background → party.process ∉ world.registered) :
      Step world
        { world.place slot (some { party with role := .executing round }) with
          registered := { process | process ∈ world.registered ∨
            (party.background ∧ process = party.process) } }
  | complete {slot party round} (here : world.parties slot = some party)
      (role : party.role = .executing round) : Step world
        (world.place slot (some { party with role := .finishing round }))
  | fail {slot party round} (here : world.parties slot = some party)
      (held : party.role.held = some round) : Step world
        { world.place slot none with
          registered := world.release party, failed := insert round world.failed }
  | leave {slot party} (here : world.parties slot = some party) : Step world
        { world.place slot none with registered := world.release party }
  | crash {next process} (stopped : ∀ slot party, next.parties slot = some party →
        world.parties slot = some party ∧ party.process ≠ process)
      (registered : next.registered = world.registered \ {process})
      (known : next.known = world.known)
      (failed : next.failed = world.failed) : Step world next

structure Sound (world : RoundWorld Process Round)
    (party : RoundParty Process Round) : Prop where
  known : ∀ round, party.role.held = some round ∨
    party.role.abandoned = some round → round ∈ world.known
  unfailed : ∀ round, party.role.held = some round → round ∉ world.failed
  registered : party.background → party.role.Runs → party.process ∈ world.registered

structure Apart (first second : RoundParty Process Round) : Prop where
  unique : ∀ round, first.role.held = some round → second.role.held ≠ some round
  uninterrupted : ∀ round, first.role.held = some round → second.role.abandoned ≠ some round
  spared : ∀ round, second.role.held = some round →
    first.role.abandoned ≠ some round
  shared : first.role.completable ≠ none → second.role.completable ≠ none → Share first second
  exclusive : first.role.Runs → second.role.Runs → ¬ Share first second

structure Careful (world : RoundWorld Process Round) : Prop where
  sound : ∀ slot party, world.parties slot = some party → Sound world party
  apart : ∀ slot other first second, slot ≠ other →
    world.parties slot = some first → world.parties other = some second → Apart first second

variable {first second : RoundParty Process Round}

theorem Share.symm (share : Share first second) : Share second first :=
  ⟨share.2.1, share.1, share.2.2.symm⟩

theorem Apart.symm (apart : Apart first second) : Apart second first where
  unique round held other := apart.unique round other held
  uninterrupted := apart.spared
  spared := apart.uninterrupted
  shared held other := (apart.shared other held).symm
  exclusive runs other share := apart.exclusive other runs share.symm

theorem Apart.of_role {role : RoundRole Round} (apart : Apart first second)
    (held : ∀ round, role.held = some round → first.role.held = some round)
    (abandoned : ∀ round, role.abandoned = some round → second.role.held ≠ some round)
    (completable : role.completable ≠ none → first.role.completable ≠ none)
    (runs : role.Runs → second.role.Runs → ¬ Share { first with role } second) :
    Apart { first with role } second where
  unique round holds := apart.unique round (held round holds)
  uninterrupted round holds := apart.uninterrupted round (held round holds)
  spared round holds abandons := abandoned round abandons holds
  shared here there := apart.shared (completable here) there
  exclusive := runs

section

variable {world next : RoundWorld Process Round} {slot : Nat}
  {party : RoundParty Process Round}

theorem careful_of_place (careful : Careful world)
    (parties : next.parties = Function.update world.parties slot (some party))
    (sound : Sound next party)
    (others : ∀ other rival, other ≠ slot → world.parties other = some rival → Sound next rival)
    (apart : ∀ other rival, other ≠ slot → world.parties other = some rival → Apart party rival) :
    Careful next := by
  constructor
  · intro other rival here
    rw [parties] at here
    by_cases same : other = slot
    · rw [same, Function.update_self] at here
      cases here
      exact sound
    · rw [Function.update_of_ne same] at here
      exact others other rival same here
  · intro left right first second different here there
    rw [parties] at here there
    by_cases leftSame : left = slot
    · rw [leftSame, Function.update_self] at here
      cases here
      have rightOther : right ≠ slot := fun same => different (leftSame.trans same.symm)
      rw [Function.update_of_ne rightOther] at there
      exact apart right second rightOther there
    · rw [Function.update_of_ne leftSame] at here
      by_cases rightSame : right = slot
      · rw [rightSame, Function.update_self] at there
        cases there
        exact (apart left first leftSame here).symm
      · rw [Function.update_of_ne rightSame] at there
        exact careful.apart left right first second different here there

theorem careful_of_removed (careful : Careful world)
    (parties : ∀ other rival, next.parties other = some rival → world.parties other = some rival)
    (others : ∀ other rival, next.parties other = some rival → Sound next rival) :
    Careful next where
  sound := others
  apart left right first second different here there :=
    careful.apart left right first second different
      (parties left first here) (parties right second there)

theorem Sound.of_kept (sound : Sound world party) (known : world.known ⊆ next.known)
    (failed : ∀ round, party.role.held = some round → round ∈ next.failed → round ∈ world.failed)
    (registered : party.background → party.role.Runs →
      party.process ∈ world.registered → party.process ∈ next.registered) :
    Sound next party where
  known round named := known (sound.known round named)
  unfailed round holds failing := sound.unfailed round holds (failed round holds failing)
  registered background runs := registered background runs (sound.registered background runs)

variable {rival : RoundParty Process Round}

theorem mem_release (apart : Apart party rival)
    (background : rival.background) (runs : rival.role.Runs)
    (registered : rival.process ∈ world.registered) :
    rival.process ∈ world.release party := by
  refine ⟨registered, ?_⟩
  rintro ⟨partyBackground, partyRuns, same⟩
  exact apart.exclusive partyRuns runs ⟨partyBackground, background, same.symm⟩

theorem apart_outside :
    Apart { party with role := .outside } rival where
  unique round held := by cases held
  uninterrupted round held := by cases held
  spared round _ abandoned := by cases abandoned
  shared held := absurd rfl held
  exclusive runs := runs.elim

theorem sound_outside :
    Sound next { party with role := .outside } where
  known round named := by rcases named with named | named <;> cases named
  unfailed round held := by cases held
  registered _ runs := runs.elim

theorem Sound.of_place (sound : Sound world party) {placed : Option (RoundParty Process Round)} :
    Sound (world.place slot placed) party :=
  ⟨sound.known, sound.unfailed, sound.registered⟩

theorem outside_eq (outside : party.role = .outside) :
    party = { party with role := .outside } := by
  cases party
  cases outside
  rfl

end

section

variable {world next : RoundWorld Process Round}

variable {slot other : Nat} {party : RoundParty Process Round} {round : Round}

theorem careful_judge (careful : Careful world) (known : round ∈ world.known)
    (unheld : ∀ other party, world.parties other = some party → party.role.held ≠ some round) :
    Careful (world.place slot (some { party with role := .interrupting round })) := by
  refine careful_of_place careful rfl ?_ ?_ ?_
  · exact
      { known := fun other named => by
          rcases named with named | named
          · cases named
          · cases named
            exact known
        unfailed := fun other held => by cases held
        registered := fun _ runs => runs.elim }
  · intro other rival _ there
    exact (careful.sound other rival there).of_place
  · intro other rival _ there
    exact
      { unique := fun other held => by cases held
        uninterrupted := fun other held => by cases held
        spared := fun named held abandoned => by
          cases abandoned
          exact unheld other rival there held
        shared := fun held => absurd rfl held
        exclusive := fun runs => runs.elim }

theorem careful_interrupt (careful : Careful world) (here : world.parties slot = some party)
    (role : party.role = .interrupting round) :
    Careful { world.place slot (some { party with role := .outside }) with
      failed := insert round world.failed } := by
  refine careful_of_place careful rfl sound_outside ?_ ?_
  · intro other rival different there
    refine (careful.sound other rival there).of_kept subset_rfl ?_ (fun _ _ kept => kept)
    intro named held failed
    rcases failed with rfl | earlier
    · have apart := careful.apart slot other party rival different.symm here there
      refine absurd ?_ (apart.spared named held)
      rw [role]
      rfl
    · exact earlier
  · exact fun _ _ _ _ => apart_outside

theorem careful_start (careful : Careful world) (fresh : round ∉ world.known)
    (unfailed : round ∉ world.failed)
    (uncontested : ∀ other rival, other ≠ slot →
      world.parties other = some rival → rival.role.completable ≠ none → Share party rival) :
    Careful
      { world.place slot (some { party with role := .launching round }) with
        known := insert round world.known } := by
  refine careful_of_place careful rfl ?_ ?_ ?_
  · exact
      { known := fun other named => by
          rcases named with named | named
          · cases named
            exact Set.mem_insert _ _
          · cases named
        unfailed := fun other held => by
          cases held
          exact unfailed
        registered := fun _ runs => runs.elim }
  · intro other rival _ there
    exact (careful.sound other rival there).of_kept
      (Set.subset_insert _ _) (fun _ _ failed => failed)
      (fun _ _ kept => kept)
  · intro other rival different there
    have known := (careful.sound other rival there).known
    exact
      { unique := fun named held holds => by
          cases held
          exact fresh (known _ (.inl holds))
        uninterrupted := fun named held abandons => by
          cases held
          exact fresh (known _ (.inr abandons))
        spared := fun named _ abandoned => by cases abandoned
        shared := fun _ completes => uncontested other rival different there completes
        exclusive := fun runs => runs.elim }

theorem careful_launch (careful : Careful world) (here : world.parties slot = some party)
    (role : party.role = .launching round)
    (admitted : party.background → party.process ∉ world.registered) :
    Careful
      { world.place slot (some { party with role := .executing round }) with
        registered := { process | process ∈ world.registered ∨
          (party.background ∧ process = party.process) } } := by
  have sound := careful.sound slot party here
  have held : ∀ named, (RoundRole.executing round).held = some named →
      party.role.held = some named := by
    intro named holds
    rw [role]
    exact holds
  refine careful_of_place careful rfl ?_ ?_ ?_
  · exact
      { known := fun named names => by
          rcases names with holds | abandons
          · exact sound.known named (.inl (held named holds))
          · cases abandons
        unfailed := fun named holds => sound.unfailed named (held named holds)
        registered := fun background _ => .inr ⟨background, rfl⟩ }
  · intro other rival _ there
    exact (careful.sound other rival there).of_kept subset_rfl
      (fun _ _ failed => failed) (fun _ _ kept => .inl kept)
  · intro other rival different there
    refine (careful.apart slot other party rival different.symm here there).of_role held ?_ ?_ ?_
    · intro named abandons
      cases abandons
    · intro _
      rw [role]
      exact Option.some_ne_none round
    · intro _ runs share
      refine admitted share.1 ?_
      rw [share.2.2]
      exact (careful.sound other rival there).registered share.2.1 runs

theorem careful_complete (careful : Careful world) (here : world.parties slot = some party)
    (role : party.role = .executing round) :
    Careful (world.place slot (some { party with role := .finishing round })) := by
  have sound := careful.sound slot party here
  have held : ∀ named, (RoundRole.finishing round).held = some named →
      party.role.held = some named := by
    intro named holds
    rw [role]
    exact holds
  have runs : party.role.Runs := by
    rw [role]
    trivial
  refine careful_of_place careful rfl ?_ ?_ ?_
  · exact
      { known := fun named names => by
          rcases names with holds | abandons
          · exact sound.known named (.inl (held named holds))
          · cases abandons
        unfailed := fun named holds => sound.unfailed named (held named holds)
        registered := fun background _ => sound.registered background runs }
  · intro other rival _ there
    exact (careful.sound other rival there).of_place
  · intro other rival different there
    have apart := careful.apart slot other party rival different.symm here there
    refine apart.of_role held ?_ (fun completes => absurd rfl completes) ?_
    · intro named abandons
      cases abandons
    · exact fun _ others share => apart.exclusive runs others share

theorem parties_of_removed {rival : RoundParty Process Round}
    (there : Function.update world.parties slot none other = some rival) :
    other ≠ slot ∧ world.parties other = some rival := by
  by_cases same : other = slot
  · rw [same, Function.update_self] at there
    cases there
  · rw [Function.update_of_ne same] at there
    exact ⟨same, there⟩

theorem careful_fail (careful : Careful world) (here : world.parties slot = some party)
    (held : party.role.held = some round) :
    Careful { world.place slot none with
      registered := world.release party
      failed := insert round world.failed } := by
  refine careful_of_removed careful (fun _ _ there => (parties_of_removed there).2) ?_
  intro other rival placed
  obtain ⟨different, there⟩ := parties_of_removed placed
  have apart := careful.apart slot other party rival different.symm here there
  refine (careful.sound other rival there).of_kept subset_rfl ?_
    (fun background runs kept => mem_release apart background runs kept)
  intro named holds failed
  rcases failed with rfl | earlier
  · exact absurd holds (apart.unique named held)
  · exact earlier

theorem careful_leave (careful : Careful world) (here : world.parties slot = some party) :
    Careful { world.place slot none with
      registered := world.release party } := by
  refine careful_of_removed careful (fun _ _ there => (parties_of_removed there).2) ?_
  intro other rival placed
  obtain ⟨different, there⟩ := parties_of_removed placed
  have apart := careful.apart slot other party rival different.symm here there
  exact (careful.sound other rival there).of_kept subset_rfl (fun _ _ failed => failed)
    (fun background runs kept => mem_release apart background runs kept)

theorem careful_step (careful : Careful world) (step : Step world next) : Careful next := by
  cases step with
  | stay => exact careful
  | enter _ outside =>
    rw [outside_eq outside]
    exact careful_of_place careful rfl sound_outside
      (fun other rival _ there => (careful.sound other rival there).of_place)
      (fun _ _ _ _ => apart_outside)
  | judge _ _ known unheld => exact careful_judge careful known unheld
  | interrupt here role => exact careful_interrupt careful here role
  | dismiss _ _ =>
    exact careful_of_place careful rfl sound_outside
      (fun other rival _ there => (careful.sound other rival there).of_place)
      (fun _ _ _ _ => apart_outside)
  | start _ _ fresh unfailed uncontested => exact careful_start careful fresh unfailed uncontested
  | launch here role admitted => exact careful_launch careful here role admitted
  | complete here role => exact careful_complete careful here role
  | fail here held => exact careful_fail careful here held
  | leave here => exact careful_leave careful here
  | crash stopped registered known failed =>
    refine careful_of_removed careful (fun slot party there => (stopped slot party there).1) ?_
    intro slot party there
    obtain ⟨earlier, alive⟩ := stopped slot party there
    refine (careful.sound slot party earlier).of_kept known.ge ?_ ?_
    · intro round _ fails
      rw [← failed]
      exact fails
    · intro _ _ kept
      rw [registered]
      exact ⟨kept, alive⟩

theorem Careful.eq_of_runs (careful : Careful world) {first second : RoundParty Process Round}
    (here : world.parties slot = some first)
    (there : world.parties other = some second)
    (firstRuns : first.role.Runs) (secondRuns : second.role.Runs)
    (firstCompletes : first.role.completable ≠ none)
    (secondCompletes : second.role.completable ≠ none) :
    slot = other := by
  by_contra different
  have apart := careful.apart slot other first second different here there
  exact apart.exclusive firstRuns secondRuns (apart.shared firstCompletes secondCompletes)

end

end RoundWorld

end Library
