import AccruviaHarness.Library.FixedWidth
import AccruviaHarness.Store.TaskLeases
import Mathlib.Data.String.Basic

/-!
# Stored timestamps

The store writes its timestamps as ISO texts and compares the texts. The
order of the texts is the order of the instants, with or without a fraction.
-/

namespace AccruviaHarness

open Library

def isLeap (year : Nat) : Prop := year % 4 = 0 ∧ (year % 100 ≠ 0 ∨ year % 400 = 0)

instance decidableIsLeap (year : Nat) : Decidable (isLeap year) :=
  inferInstanceAs (Decidable (_ ∧ _))

/-- The length of a month, and of none in the place of the month `0`. -/
def daysInMonth (year : Nat) : Nat → Nat
  | 2 => if isLeap year then 29 else 28
  | 1 | 3 | 5 | 7 | 8 | 10 | 12 => 31
  | 4 | 6 | 9 | 11 => 30
  | _ => 0

structure Datetime where
  year : Nat
  month : Nat
  day : Nat
  hour : Nat
  minute : Nat
  second : Nat
  microsecond : Nat
  yearFrom : 1 ≤ year
  yearUpTo : year ≤ 9999
  monthFrom : 1 ≤ month
  monthUpTo : month ≤ 12
  dayFrom : 1 ≤ day
  dayUpTo : day ≤ daysInMonth year month
  hourBelow : hour < 24
  minuteBelow : minute < 60
  secondBelow : second < 60
  microsecondBelow : microsecond < 1000000

def daysBeforeYear (year : Nat) : Nat :=
  (year - 1) * 365 + (year - 1) / 4 - (year - 1) / 100 + (year - 1) / 400

def daysBeforeMonth (year : Nat) : Nat → Nat
  | 0 => 0
  | month + 1 => daysBeforeMonth year month + daysInMonth year month

namespace Datetime

variable (first second : Datetime)

def ordinal : Nat := daysBeforeYear first.year + daysBeforeMonth first.year first.month + first.day

/-- The microseconds since the day before `0001-01-01`. -/
def instant : Nat :=
  (((first.ordinal * 24 + first.hour) * 60 + first.minute) * 60 + first.second) *
    1000000 + first.microsecond

def suffix : List Char :=
  (if first.microsecond = 0 then [] else '.' :: zeroFilled 6 first.microsecond) ++
    ['+', '0', '0', ':', '0', '0']

def isoformat : String :=
  String.ofList <| zeroFilled 4 first.year ++ '-' :: (zeroFilled 2 first.month ++ '-' ::
      (zeroFilled 2 first.day ++ 'T' :: (zeroFilled 2 first.hour ++ ':' ::
        (zeroFilled 2 first.minute ++ ':' :: (zeroFilled 2 first.second ++ first.suffix)))))

theorem day_le : first.day ≤ 31 := by
  refine first.dayUpTo.trans ?_
  unfold daysInMonth
  split
  · split_ifs <;> omega
  all_goals omega

def Before : Prop :=
  first.year < second.year ∨ first.year = second.year ∧
    (first.month < second.month ∨ first.month = second.month ∧
      (first.day < second.day ∨ first.day = second.day ∧
        (first.hour < second.hour ∨ first.hour = second.hour ∧
          (first.minute < second.minute ∨ first.minute = second.minute ∧
            (first.second < second.second ∨ first.second = second.second ∧
              first.microsecond < second.microsecond)))))

variable {first second}

theorem before_trichotomy :
    first.Before second ∨ first = second ∨ second.Before first := by
  by_cases same : first = second
  · exact .inr (.inl same)
  · have differ : ¬ (first.year = second.year ∧ first.month = second.month ∧
        first.day = second.day ∧ first.hour = second.hour ∧
          first.minute = second.minute ∧ first.second = second.second ∧
            first.microsecond = second.microsecond) := by
      intro fields
      apply same
      cases first
      cases second
      simpa using fields
    unfold Before
    omega

/-! ## The order of the texts -/

theorem suffix_lt_iff :
    first.suffix < second.suffix ↔ first.microsecond < second.microsecond := by
  have fits := first.microsecondBelow
  have fitsToo := second.microsecondBelow
  -- The zone begins with `+`, which comes before the point of a fraction.
  have behind : ¬ '.' < '+' := by decide
  have ahead : '+' < '.' := by decide
  unfold suffix
  by_cases whole : first.microsecond = 0
  · by_cases wholeToo : second.microsecond = 0
    · rw [if_pos whole, if_pos wholeToo, whole, wholeToo]
      exact iff_of_false (List.lt_irrefl _) (Nat.lt_irrefl 0)
    · rw [if_pos whole, if_neg wholeToo]
      refine iff_of_true ?_ (by omega)
      exact List.cons_lt_cons_iff.mpr (.inl ahead)
  · by_cases wholeToo : second.microsecond = 0
    · rw [if_neg whole, if_pos wholeToo, wholeToo]
      refine iff_of_false ?_ (Nat.not_lt_zero _)
      intro less
      rcases List.cons_lt_cons_iff.mp less with before | ⟨same, _⟩
      · exact behind before
      · exact absurd same (by decide)
    · rw [if_neg whole, if_neg wholeToo, List.cons_append, List.cons_append, List.cons_lt_cons_iff,
        zeroFilled_append_lt_iff (by decide) (by omega) (by omega)]
      simp

theorem isoformat_lt_iff : first.isoformat < second.isoformat ↔ first.Before second := by
  have year := first.yearUpTo
  have yearToo := second.yearUpTo
  have month := first.monthUpTo
  have monthToo := second.monthUpTo
  have day := first.day_le
  have dayToo := second.day_le
  have hour := first.hourBelow
  have hourToo := second.hourBelow
  have minute := first.minuteBelow
  have minuteToo := second.minuteBelow
  have seconds := first.secondBelow
  have secondsToo := second.secondBelow
  unfold isoformat Before
  rw [String.lt_iff_toList_lt, String.toList_ofList, String.toList_ofList,
    zeroFilled_separated_lt_iff (by decide) (by omega) (by omega),
    zeroFilled_separated_lt_iff (by decide) (by omega) (by omega),
    zeroFilled_separated_lt_iff (by decide) (by omega) (by omega),
    zeroFilled_separated_lt_iff (by decide) (by omega) (by omega),
    zeroFilled_separated_lt_iff (by decide) (by omega) (by omega),
    zeroFilled_append_lt_iff (by decide) (by omega) (by omega), suffix_lt_iff]

/-! ## The order of the instants -/

theorem daysBeforeYear_succ {year : Nat} (counted : 1 ≤ year) :
    daysBeforeYear (year + 1) = daysBeforeYear year + daysBeforeMonth year 13 := by
  have length : daysBeforeMonth year 13 = if isLeap year then 366 else 365 := by
    simp only [daysBeforeMonth, daysInMonth]
    split_ifs <;> rfl
  obtain ⟨before, rfl⟩ := Nat.exists_eq_add_of_le' counted
  have quotient : ∀ cycle, (before + 1) / cycle =
      before / cycle + if (before + 1) % cycle = 0 then 1 else 0 := by
    intro cycle
    rw [Nat.succ_div]
    simp only [Nat.dvd_iff_mod_eq_zero]
  have century : before / 100 ≤ before / 4 := by omega
  rw [length]
  unfold daysBeforeYear
  rw [Nat.add_sub_cancel, Nat.add_sub_cancel, quotient 4, quotient 100, quotient 400]
  by_cases leap : isLeap (before + 1)
  · rw [if_pos leap]
    unfold isLeap at leap
    split_ifs <;> omega
  · rw [if_neg leap]
    unfold isLeap at leap
    split_ifs <;> omega

theorem monotone_daysBeforeYear {year yearToo : Nat} (counted : 1 ≤ year)
    (later : year ≤ yearToo) : daysBeforeYear year ≤ daysBeforeYear yearToo := by
  induction yearToo, later using Nat.le_induction with
  | base => exact Nat.le_refl _
  | succ _ later ih =>
    rw [daysBeforeYear_succ (counted.trans later)]
    exact ih.trans (Nat.le_add_right _ _)

theorem monotone_daysBeforeMonth (year : Nat) : Monotone (daysBeforeMonth year) :=
  monotone_nat_of_le_succ fun _ => Nat.le_add_right _ _

variable (first) in
theorem day_within_month :
    daysBeforeMonth first.year first.month + first.day ≤
      daysBeforeMonth first.year (first.month + 1) :=
  Nat.add_le_add_left first.dayUpTo _

theorem ordinal_lt (before : first.year < second.year ∨ first.year = second.year ∧
      (first.month < second.month ∨
        first.month = second.month ∧ first.day < second.day)) :
    first.ordinal < second.ordinal := by
  have within := first.day_within_month
  have positive := second.dayFrom
  unfold ordinal
  rcases before with earlier | ⟨sameYear, earlier | ⟨sameMonth, earlier⟩⟩
  · have closes : daysBeforeMonth first.year (first.month + 1) ≤ daysBeforeMonth first.year 13 :=
      monotone_daysBeforeMonth _ (by have := first.monthUpTo; omega)
    have year := monotone_daysBeforeYear (Nat.le_add_left 1 first.year) earlier
    rw [daysBeforeYear_succ first.yearFrom] at year
    omega
  · have months := monotone_daysBeforeMonth first.year
      (show first.month + 1 ≤ second.month from earlier)
    rw [← sameYear]
    omega
  · rw [← sameYear, ← sameMonth]
    omega

theorem instant_lt (before : first.Before second) : first.instant < second.instant := by
  refine positional_lt first.microsecondBelow ?_
  refine positional_step first.secondBelow ?_
  refine positional_step first.minuteBelow ?_
  refine positional_step first.hourBelow ?_
  rcases before with year | ⟨sameYear, month | ⟨sameMonth, day | ⟨sameDay, later⟩⟩⟩
  · exact .inl (ordinal_lt (.inl year))
  · exact .inl (ordinal_lt (.inr ⟨sameYear, .inl month⟩))
  · exact .inl (ordinal_lt (.inr ⟨sameYear, .inr ⟨sameMonth, day⟩⟩))
  · refine .inr ⟨?_, later⟩
    unfold ordinal
    rw [sameYear, sameMonth, sameDay]

theorem isoformat_le_iff :
    first.isoformat ≤ second.isoformat ↔ first.instant ≤ second.instant := by
  rw [← String.not_lt, ← Nat.not_lt, isoformat_lt_iff]
  constructor
  · intro notBefore later
    rcases @before_trichotomy first second with before | rfl | before
    · exact Nat.lt_asymm later (instant_lt before)
    · exact Nat.lt_irrefl _ later
    · exact notBefore before
  · exact fun notLater before => notLater (instant_lt before)

theorem isoformat_eq_iff :
    first.isoformat = second.isoformat ↔ first.instant = second.instant := by
  rw [Nat.le_antisymm_iff, ← isoformat_le_iff, ← isoformat_le_iff]
  exact antisymm_iff.symm

end Datetime

/-! ## The queries -/

section

variable {Row : Type} (column : Row → Datetime) (leads ties after : Row → Row → Prop)
  [DecidableRel leads] [DecidableRel ties] [DecidableRel after]

def storedText (row : Row) : String := (column row).isoformat

/-- `DELETE FROM … WHERE column <= ?`. -/
def deleteUpTo (rows : List Row) (now : Datetime) : List Row :=
  rows.filter fun row => ¬ storedText column row ≤ now.isoformat

/-- `SELECT … WHERE column > ?`. -/
def selectAfter (rows : List Row) (now : Datetime) : List Row :=
  rows.filter fun row => now.isoformat < storedText column row

/-- `ORDER BY …, column, …`, with the order that leads, its ties, and the
order of the rows that have the same text. -/
def ByText (first second : Row) : Prop :=
  leads first second ∨ ties first second ∧ (storedText column first < storedText column second ∨
      storedText column first = storedText column second ∧ after first second)

instance decidableByText : DecidableRel (ByText column leads ties after) := fun _ _ =>
  inferInstanceAs (Decidable (_ ∨ _ ∧ (_ ∨ _ ∧ _)))

/-- `ORDER BY column DESC`. -/
def NewestText (first second : Row) : Prop := storedText column second ≤ storedText column first

instance decidableNewestText : DecidableRel (NewestText column) := fun _ _ =>
  inferInstanceAs (Decidable (_ ≤ _))

/-- The order of `ByText`, by time. -/
def ByTime (first second : Row) : Prop :=
  leads first second ∨ ties first second ∧ ((column first).instant < (column second).instant ∨
      (column first).instant = (column second).instant ∧ after first second)

instance decidableByTime : DecidableRel (ByTime column leads ties after) := fun _ _ =>
  inferInstanceAs (Decidable (_ ∨ _ ∧ (_ ∨ _ ∧ _)))

theorem deleteUpTo_eq (rows : List Row) (now : Datetime) :
    deleteUpTo column rows now = rows.filter fun row => now.instant < (column row).instant := by
  unfold deleteUpTo storedText
  simp only [Datetime.isoformat_le_iff, Nat.not_le]

theorem selectAfter_eq (rows : List Row) (now : Datetime) :
    selectAfter column rows now = rows.filter fun row => now.instant < (column row).instant := by
  unfold selectAfter storedText
  simp only [← String.not_le, Datetime.isoformat_le_iff, Nat.not_le]

omit [DecidableRel leads] [DecidableRel ties] [DecidableRel after] in
theorem byText_iff (first second : Row) :
    ByText column leads ties after first second ↔ ByTime column leads ties after first second := by
  unfold ByText ByTime storedText
  rw [← String.not_le, Datetime.isoformat_le_iff, Nat.not_le, Datetime.isoformat_eq_iff]

theorem orderBy_byText (rows : List Row) :
    orderBy (ByText column leads ties after) rows =
      orderBy (ByTime column leads ties after) rows := by
  have same : ByText column leads ties after = ByTime column leads ties after := by
    funext first second
    exact propext (byText_iff column leads ties after first second)
  congr!

theorem orderBy_newestText (rows : List Row) :
    orderBy (NewestText column) rows =
      orderBy (fun first second => (column second).instant ≤ (column first).instant)
        rows := by
  have same : NewestText column =
      fun first second => (column second).instant ≤ (column first).instant := by
    funext first second
    exact propext Datetime.isoformat_le_iff
  congr!

end

/-- The leases that the store deletes are those whose stored text is at most
the text of the clock reading. -/
theorem Store.deleteExpiredLeases_eq_deleteUpTo
    {store : Store} {expires : TaskLease → Datetime} (now : Datetime)
    (stamped : ∀ lease ∈ store.taskLeases.rows,
      lease.leaseExpiresAt = (expires lease).instant) :
    (store.deleteExpiredLeases now.instant).taskLeases.rows =
      deleteUpTo expires store.taskLeases.rows now := by
  rw [deleteUpTo_eq]
  show store.taskLeases.rows.filter _ = _
  refine List.filter_congr fun lease member => ?_
  have known := stamped lease member
  rw [← decide_not, decide_eq_decide, known]
  omega

/-- The texts are ordered as the instants are, and every query that compares
them selects and orders its rows by time. -/
theorem isoformat_orders_by_time :
    (∀ first second : Datetime,
      (first.isoformat ≤ second.isoformat ↔ first.instant ≤ second.instant) ∧
        (first.isoformat = second.isoformat ↔ first.instant = second.instant)) ∧
    ∀ (Row : Type) (column : Row → Datetime) (rows : List Row) (now : Datetime),
      deleteUpTo column rows now = rows.filter (fun row => now.instant < (column row).instant) ∧
        selectAfter column rows now = rows.filter (fun row => now.instant < (column row).instant) ∧
        orderBy (NewestText column) rows =
          orderBy (fun first second => (column second).instant ≤ (column first).instant) rows ∧
        ∀ (leads ties after : Row → Row → Prop) [DecidableRel leads]
          [DecidableRel ties] [DecidableRel after],
          orderBy (ByText column leads ties after) rows =
            orderBy (ByTime column leads ties after) rows := by
  constructor
  · intro first second
    exact ⟨Datetime.isoformat_le_iff, Datetime.isoformat_eq_iff⟩
  · intro Row column rows now
    refine ⟨deleteUpTo_eq column rows now, selectAfter_eq column rows now,
      orderBy_newestText column rows, ?_⟩
    intro leads ties after _ _ _
    exact orderBy_byText column leads ties after rows

end AccruviaHarness
