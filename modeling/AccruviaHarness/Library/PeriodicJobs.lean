import Mathlib.Algebra.Order.BigOperators.Group.Finset
import Mathlib.Algebra.Order.Field.Basic
import Mathlib.Order.WithBot
import Mathlib.Tactic.Linarith

/-!
# Periodic jobs that come before the work

A loop carries out the jobs that are due and works only where none is.
-/

namespace Library

open List

universe u v

/-- One execution of a job, with the interval that it leaves in force. -/
structure JobRecord (Key : Type u) (Time : Type v) where
  key : Key
  startedAt : Time
  endedAt : Time
  interval : WithTop Time
  deriving DecidableEq

inductive LoopCall (Key : Type u) (Time : Type v) where
  | serve (job : JobRecord Key Time)
  | work
  deriving DecidableEq

section

variable {Key : Type u} {Time : Type v}

def WorkBetweenJobs (trace : List (LoopCall Key Time)) : Prop :=
  ∀ earlier first between second later,
    trace = earlier ++ .serve first :: (between ++ .serve second :: later) →
      first.key = second.key → .work ∈ between

theorem append_singleton_eq_append_cons {calls earlier later : List (LoopCall Key Time)}
    {last call : LoopCall Key Time}
    (equality : calls ++ [last] = earlier ++ call :: later) :
    (later = [] ∧ call = last ∧ calls = earlier) ∨ ∃ before, later = before ++ [last] ∧
        calls = earlier ++ call :: before := by
  rcases eq_nil_or_concat later with rfl | ⟨before, final, rfl⟩
  · have parts := append_inj' equality rfl
    exact .inl ⟨rfl, (singleton_inj.mp parts.2).symm, parts.1⟩
  · have parts : calls ++ [last] = (earlier ++ call :: before) ++ [final] := by simpa using equality
    have split := append_inj' parts rfl
    exact .inr ⟨before, by rw [concat_eq_append, singleton_inj.mp split.2],
      split.1⟩

theorem exists_jobs_of_work_not_mem {calls : List (LoopCall Key Time)} (workless : .work ∉ calls) :
    ∃ jobs : List (JobRecord Key Time), calls = jobs.map .serve := by
  induction calls with
  | nil => exact ⟨[], rfl⟩
  | cons call _ ih =>
    rw [mem_cons, not_or] at workless
    obtain ⟨jobs, rfl⟩ := ih workless.2
    cases call with
    | serve job => exact ⟨job :: jobs, rfl⟩
    | work => exact absurd rfl workless.1

theorem nodup_keys_of_apart {jobs : List (JobRecord Key Time)}
    (apart : ∀ earlier first between second later,
      jobs = earlier ++ first :: (between ++ second :: later) →
        first.key ≠ second.key) :
    (jobs.map JobRecord.key).Nodup := by
  induction jobs with
  | nil => exact nodup_nil
  | cons job _ ih =>
    rw [map_cons, nodup_cons]
    constructor
    · intro repeated
      obtain ⟨second, member, same⟩ := mem_map.mp repeated
      obtain ⟨between, later, rfl⟩ := append_of_mem member
      exact apart [] job between second later rfl same.symm
    · refine ih ?_
      intro earlier first between second later equality
      exact apart (job :: earlier) first between second later (by rw [equality, cons_append])

end

section

variable {Key : Type u} {Time : Type v} [Field Time] [LinearOrder Time]

/-- Without work between two executions of one job, its interval has passed
from the end of the first to the start of the second. -/
def Spaced (trace : List (LoopCall Key Time)) : Prop :=
  ∀ earlier first between second later,
    trace = earlier ++ .serve first :: (between ++ .serve second :: later) →
      first.key = second.key → .work ∈ between ∨
          first.interval ≤ ((second.startedAt - first.endedAt : Time) :
            WithTop Time)

/-- The times of the last executions and the intervals in force are those of
the trace, as far back as the last work. An earlier execution of a job may
stand there beside a later one only where its interval has passed. -/
structure Tracked (lastEnd : Key → Option Time) (interval : Key → WithTop Time)
    (clock : Time) (trace : List (LoopCall Key Time)) : Prop where
  spaced : Spaced trace
  latest : ∀ earlier first between,
    trace = earlier ++ .serve first :: between → .work ∉ between →
      (lastEnd first.key = some first.endedAt ∧ interval first.key = first.interval) ∨
      first.interval ≤ ((clock - first.endedAt : Time) : WithTop Time)

namespace Tracked

variable {lastEnd : Key → Option Time} {interval : Key → WithTop Time}
  {clock : Time} {trace : List (LoopCall Key Time)}

theorem nil (lastEnd : Key → Option Time) (interval : Key → WithTop Time)
    (clock : Time) : Tracked lastEnd interval clock [] where
  spaced := by
    intro earlier first between second later equality
    simp at equality
  latest := by
    intro earlier first between equality
    simp at equality

theorem work (tracked : Tracked lastEnd interval clock trace) :
    Tracked lastEnd interval clock (trace ++ [.work]) where
  spaced := by
    intro earlier first between second later equality same
    have regrouped :
        trace ++ [.work] = (earlier ++ .serve first :: between) ++ .serve second :: later := by
      simpa using equality
    rcases append_singleton_eq_append_cons regrouped with
      ⟨_, impossible, _⟩ | ⟨before, rfl, former⟩
    · cases impossible
    · exact tracked.spaced earlier first between second before (by simpa using former) same
  latest := by
    intro earlier first between equality workless
    rcases append_singleton_eq_append_cons equality with
      ⟨_, impossible, _⟩ | ⟨_, rfl, _⟩
    · cases impossible
    · exact absurd (mem_append_right _ (mem_singleton_self _)) workless

variable [IsStrictOrderedRing Time]

theorem wait (tracked : Tracked lastEnd interval clock trace) {now : Time} (later : clock ≤ now) :
    Tracked lastEnd interval now trace where
  spaced := tracked.spaced
  latest := by
    intro earlier first between equality workless
    rcases tracked.latest earlier first between equality workless with
      known | passed
    · exact .inl known
    · exact .inr (passed.trans (WithTop.coe_le_coe.mpr (sub_le_sub_right later _)))

theorem serve [DecidableEq Key] (tracked : Tracked lastEnd interval clock trace)
    (job : JobRecord Key Time)
    (due : ∀ last, lastEnd job.key = some last →
      interval job.key ≤ ((clock - last : Time) : WithTop Time))
    (starts : job.startedAt = clock) (ends : clock ≤ job.endedAt) :
    Tracked (Function.update lastEnd job.key (some job.endedAt))
      (Function.update interval job.key job.interval) job.endedAt
      (trace ++ [.serve job]) := by
  have passed : ∀ earlier first between,
      trace = earlier ++ .serve first :: between → .work ∉ between →
        first.key = job.key →
          first.interval ≤ ((clock - first.endedAt : Time) : WithTop Time) := by
    intro earlier first between equality workless same
    rcases tracked.latest earlier first between equality workless with
      ⟨last, inForce⟩ | passed
    · rw [← inForce, same]
      exact due first.endedAt (same ▸ last)
    · exact passed
  constructor
  · intro earlier first between second later equality same
    have regrouped :
        trace ++ [.serve job] = (earlier ++ .serve first :: between) ++ .serve second :: later := by
      simpa using equality
    rcases append_singleton_eq_append_cons regrouped with
      ⟨_, isJob, former⟩ | ⟨before, _, former⟩
    · cases isJob
      by_cases worked : .work ∈ between
      · exact .inl worked
      · rw [starts]
        exact .inr (passed earlier first between former worked same)
    · exact tracked.spaced earlier first between second before (by simpa using former) same
  · intro earlier first between equality workless
    rcases append_singleton_eq_append_cons equality with
      ⟨_, isJob, _⟩ | ⟨before, rfl, former⟩
    · cases isJob
      exact .inl ⟨Function.update_self .., Function.update_self ..⟩
    · have worklessBefore : .work ∉ before := fun member => workless (mem_append_left _ member)
      have laterClock :
          ((clock - first.endedAt : Time) : WithTop Time) ≤
            ((job.endedAt - first.endedAt : Time) : WithTop Time) :=
        WithTop.coe_le_coe.mpr (sub_le_sub_right ends _)
      by_cases same : first.key = job.key
      · exact .inr ((passed earlier first before former worklessBefore same).trans laterClock)
      · rw [Function.update_of_ne same, Function.update_of_ne same]
        rcases tracked.latest earlier first before former worklessBefore with
          known | elapsed
        · exact .inl known
        · exact .inr (elapsed.trans laterClock)

end Tracked

/-- The time that one execution of a job takes, and the time until the next
execution starts where there is no work before it. -/
structure Paced (serviceTime : Key → Time) (pause : Time)
    (trace : List (LoopCall Key Time)) : Prop where
  served : ∀ job, .serve job ∈ trace → job.endedAt - job.startedAt ≤ serviceTime job.key
  resumed : ∀ earlier first second later,
    trace = earlier ++ .serve first :: .serve second :: later →
      second.startedAt - first.endedAt ≤ pause

/-- Every interval is longer than one execution of each of the other jobs. -/
structure IntervalsOutlast [DecidableEq Key] (jobs : Finset Key)
    (serviceTime : Key → Time) (pause : Time)
    (trace : List (LoopCall Key Time)) : Prop where
  paced : Paced serviceTime pause trace
  serviceTime_nonneg : ∀ key, 0 ≤ serviceTime key
  pause_nonneg : 0 ≤ pause
  known : ∀ job, .serve job ∈ trace → job.key ∈ jobs
  outlasts : ∀ job, .serve job ∈ trace →
    ((∑ key ∈ jobs.erase job.key, (serviceTime key + pause) + pause : Time) :
      WithTop Time) < job.interval

variable [IsStrictOrderedRing Time]
  {serviceTime : Key → Time} {pause : Time} {trace : List (LoopCall Key Time)}

variable {first : JobRecord Key Time} {jobs : List (JobRecord Key Time)}
  {known : Finset Key}

theorem Paced.elapsed_le (paced : Paced serviceTime pause trace)
    {earlier later : List (LoopCall Key Time)}
    {second : JobRecord Key Time}
    (equality : trace = earlier ++ .serve first :: (jobs.map .serve ++ .serve second :: later)) :
    second.startedAt - first.endedAt ≤
      (jobs.map fun job => serviceTime job.key + pause).sum + pause := by
  induction jobs generalizing earlier first with
  | nil =>
    have resumed := paced.resumed earlier first second later equality
    simpa using resumed
  | cons job jobs ih =>
    have next : job.startedAt - first.endedAt ≤ pause :=
      paced.resumed earlier first job
        (jobs.map .serve ++ .serve second :: later) (by simpa using equality)
    have served : job.endedAt - job.startedAt ≤ serviceTime job.key :=
      paced.served job (by rw [equality]; simp)
    have regrouped : trace = (earlier ++ [.serve first]) ++ .serve job ::
          (jobs.map .serve ++ .serve second :: later) := by
      rw [equality]
      simp
    have rest := ih regrouped
    rw [map_cons, sum_cons]
    linarith

/-- Jobs that differ from each other and from the given one take no longer
than one execution of each of the others. -/
theorem sum_serviceTime_le [DecidableEq Key] (serviceTime_nonneg : ∀ key, 0 ≤ serviceTime key)
    (pause_nonneg : 0 ≤ pause) (members : ∀ job ∈ jobs, job.key ∈ known)
    (nodup : ((first :: jobs).map JobRecord.key).Nodup) :
    (jobs.map fun job => serviceTime job.key + pause).sum ≤
      ∑ key ∈ known.erase first.key, (serviceTime key + pause) := by
  rw [map_cons, nodup_cons] at nodup
  have listed :
      (jobs.map fun job => serviceTime job.key + pause).sum =
        ∑ key ∈ (jobs.map JobRecord.key).toFinset, (serviceTime key + pause) := by
    rw [sum_toFinset _ nodup.2, map_map]
    rfl
  rw [listed]
  refine Finset.sum_le_sum_of_subset_of_nonneg ?_ ?_
  · intro key member
    have listedKey := mem_toFinset.mp member
    refine Finset.mem_erase.mpr ⟨?_, ?_⟩
    · rintro rfl
      exact nodup.1 listedKey
    · obtain ⟨job, jobMember, rfl⟩ := mem_map.mp listedKey
      exact members job jobMember
  · intro key _ _
    exact add_nonneg (serviceTime_nonneg key) pause_nonneg

/-- Where the intervals are long enough, there is work between any two
executions of one job. -/
theorem Spaced.workBetweenJobs [DecidableEq Key] (spaced : Spaced trace)
    (room : IntervalsOutlast known serviceTime pause trace) :
    WorkBetweenJobs trace := by
  -- The shortest stretch without work between two executions of one job has
  -- every other job at most once.
  have shortest : ∀ size : Nat, ∀ (jobs : List (JobRecord Key Time)),
      jobs.length = size → ∀ earlier first second later,
        trace = earlier ++ .serve first :: (jobs.map .serve ++ .serve second :: later) →
        first.key ≠ second.key := by
    intro size
    induction size using Nat.strong_induction_on with
    | _ size ih =>
      intro jobs length earlier first second later equality same
      have apart : ∀ before one between other after,
          first :: jobs = before ++ one :: (between ++ other :: after) → one.key ≠ other.key := by
        intro before one between other after parts
        have shorter : between.length < size := by
          have lengths := congrArg List.length parts
          simp only [length_cons, length_append] at lengths
          omega
        refine ih between.length shorter between rfl (earlier ++ before.map .serve) one other
          (after.map .serve ++ .serve second :: later) ?_
        have served := congrArg (List.map LoopCall.serve) parts
        simp only [map_cons, map_append] at served
        rw [equality, ← cons_append, served]
        simp
      have nodup := nodup_keys_of_apart apart
      have members : ∀ job ∈ jobs, job.key ∈ known := by
        intro job member
        refine room.known job ?_
        rw [equality]
        simp [member]
      have elapsed := room.paced.elapsed_le equality
      have listed := sum_serviceTime_le room.serviceTime_nonneg room.pause_nonneg members nodup
      have long := room.outlasts first (by rw [equality]; simp)
      rcases spaced earlier first (jobs.map .serve) second later equality same with worked | passed
      · simp at worked
      · have tooLong := WithTop.coe_lt_coe.mp (long.trans_le passed)
        linarith
  intro earlier first between second later equality same
  by_contra workless
  obtain ⟨jobs, rfl⟩ := exists_jobs_of_work_not_mem workless
  exact shortest jobs.length jobs rfl earlier first second later equality same

end

end Library
