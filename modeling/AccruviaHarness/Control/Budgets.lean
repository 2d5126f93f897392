import Mathlib.Data.List.Induction
import AccruviaHarness.Control.Plane
import AccruviaHarness.Library.WeightedTables

/-!
# Budget windows

`record_budget_usage` keeps one row for each window of a scope and a key, and
the budget is exhausted when the rows whose window ended within the last hour
add up to more than the limit.
-/

namespace AccruviaHarness

open Library List

/-- A row of `control_budgets`. -/
structure BudgetRow where
  id : String
  budgetScope : String
  budgetKey : String
  windowStart : Int
  windowEnd : Int
  usageCount : Int
  updatedAt : Int
  deriving DecidableEq, Repr

abbrev BudgetTable := KeyedTable BudgetRow.id

/-- A call of `record_budget_usage`, with its clock reading and the id that
`new_id` would answer. -/
structure BudgetCall where
  now : Int
  budgetId : String
  budgetScope : String
  budgetKey : String
  usageCount : Int := 1
  window : Int := expensiveCodingRunWindow
  deriving DecidableEq, Repr

namespace BudgetTable

variable (table : BudgetTable) (budgetScope budgetKey : String)

/-- `get_control_budget`. -/
def getBudget (windowStart windowEnd : Int) : Option BudgetRow :=
  table.rows.find? fun row =>
    row.budgetScope = budgetScope && row.budgetKey = budgetKey &&
      row.windowStart = windowStart && row.windowEnd = windowEnd

def newBudget (call : BudgetCall) : BudgetRow where
  id := call.budgetId
  budgetScope := call.budgetScope
  budgetKey := call.budgetKey
  windowStart := call.now - call.window
  windowEnd := call.now
  usageCount := call.usageCount
  updatedAt := call.now

def addedBudget (existing : BudgetRow) (call : BudgetCall) : BudgetRow :=
  { existing with
    usageCount := existing.usageCount + call.usageCount, updatedAt := call.now
    windowEnd := call.now }

def recordBudgetUsage (call : BudgetCall) :
    BudgetTable :=
  match table.getBudget call.budgetScope call.budgetKey
    (call.now - call.window) call.now with
  | none => table.upsert (newBudget call)
  | some existing => table.upsert (addedBudget existing call)

/-- `ORDER BY updated_at DESC`. -/
def NewestBudget (first second : BudgetRow) : Prop := second.updatedAt ≤ first.updatedAt

instance : DecidableRel NewestBudget := fun _ _ => inferInstanceAs (Decidable (_ ≤ _))

/-- `list_control_budgets`. An empty scope or key does not restrict it. -/
def listBudgets : List BudgetRow :=
  orderBy NewestBudget <|
    table.rows.filter fun row =>
      (budgetScope = "" || row.budgetScope = budgetScope) &&
        (budgetKey = "" || row.budgetKey = budgetKey)

def usageSince (cutoff : Int) : Int → List BudgetRow → Int
  | total, [] => total
  | total, budget :: budgets =>
    if cutoff ≤ budget.windowEnd then usageSince cutoff (total + budget.usageCount) budgets
    else usageSince cutoff total budgets

def expensiveCodingBudgetExhausted (now : Int) (budgetScope budgetKey : String) : Bool :=
  let cutoff := now - expensiveCodingRunWindow
  expensiveCodingRunLimit < usageSince cutoff 0 (table.listBudgets budgetScope budgetKey)

def objectiveBudgetExhausted (now : Int) (objectiveId : String) : Bool :=
  let cutoff := now - expensiveCodingRunWindow
  expensiveCodingRunLimit < usageSince cutoff 0 (table.listBudgets "objective" objectiveId)

def recorded (calls : List BudgetCall) : BudgetTable :=
  calls.foldl recordBudgetUsage (KeyedTable.empty BudgetRow.id)

end BudgetTable

def recordedUsage (calls : List BudgetCall) (budgetScope budgetKey : String)
    (since last : Int) : Int :=
  totalWeight BudgetCall.usageCount <| calls.filter fun call =>
    call.budgetScope = budgetScope && call.budgetKey = budgetKey &&
      since ≤ call.now && call.now ≤ last

namespace BudgetTable

/-! ## What a call adds -/

def usageOf (kind : String → String → Int → Bool) (row : BudgetRow) : Int :=
  if kind row.budgetScope row.budgetKey row.windowEnd then row.usageCount
  else 0

def callUsageOf (kind : String → String → Int → Bool) (call : BudgetCall) :
    Int :=
  if kind call.budgetScope call.budgetKey call.now then call.usageCount else 0

variable {table : BudgetTable} {call : BudgetCall} {control : ControlTables}

variable {existing : BudgetRow} {calls : List BudgetCall}
  {budgetScope budgetKey : String}

theorem usageOf_of_getBudget (found : table.getBudget call.budgetScope call.budgetKey
      (call.now - call.window) call.now = some existing) :
    existing ∈ table.rows ∧ existing.budgetScope = call.budgetScope ∧
      existing.budgetKey = call.budgetKey ∧ existing.windowEnd = call.now := by
  have matched := find?_some found
  simp only [Bool.and_eq_true, decide_eq_true_eq] at matched
  obtain ⟨⟨⟨scope, key⟩, _⟩, ended⟩ := matched
  exact ⟨mem_of_find?_eq_some found, scope, key, ended⟩

theorem totalWeight_recordBudgetUsage (kind : String → String → Int → Bool)
    (fresh : ∀ row ∈ table.rows, row.id ≠ call.budgetId) :
    totalWeight (usageOf kind) (table.recordBudgetUsage call).rows =
      totalWeight (usageOf kind) table.rows + callUsageOf kind call := by
  unfold recordBudgetUsage
  cases found : table.getBudget call.budgetScope call.budgetKey
    (call.now - call.window) call.now with
  | none =>
    have newId : ∀ row ∈ table.rows, row.id ≠ (newBudget call).id := fresh
    exact totalWeight_upsert_of_fresh (usageOf kind) newId
  | some existing =>
    obtain ⟨member, scope, key, ended⟩ := usageOf_of_getBudget found
    have stored : table.lookup (addedBudget existing call).id =
        some existing := table.lookup_of_mem member
    rw [totalWeight_upsert_of_lookup (usageOf kind) stored]
    unfold usageOf callUsageOf addedBudget
    rw [scope, key, ended]
    split
    · ring
    · ring

theorem ids_recordBudgetUsage {row : BudgetRow}
    (member : row ∈ (table.recordBudgetUsage call).rows) :
    row.id = call.budgetId ∨ ∃ earlier ∈ table.rows, earlier.id = row.id := by
  unfold recordBudgetUsage at member
  split at member
  · rcases KeyedTable.mem_of_mem_upsert member with rfl | stored
    · exact .inl rfl
    · exact .inr ⟨row, stored, rfl⟩
  next existing found =>
    rcases KeyedTable.mem_of_mem_upsert member with rfl | stored
    · exact .inr ⟨existing, (usageOf_of_getBudget found).1, rfl⟩
    · exact .inr ⟨row, stored, rfl⟩

theorem recorded_spec (newIds : (calls.map BudgetCall.budgetId).Nodup) :
    (∀ row ∈ (recorded calls).rows, row.id ∈ calls.map BudgetCall.budgetId) ∧
      ∀ kind, totalWeight (usageOf kind) (recorded calls).rows =
        totalWeight (callUsageOf kind) calls := by
  induction calls using List.reverseRecOn with
  | nil => exact ⟨fun _ impossible => absurd impossible not_mem_nil, fun _ => rfl⟩
  | append_singleton calls call ih =>
    rw [map_append, map_singleton] at newIds
    obtain ⟨earlierIds, _, different⟩ := nodup_append.mp newIds
    obtain ⟨ids, totals⟩ := ih earlierIds
    have last : recorded (calls ++ [call]) = (recorded calls).recordBudgetUsage call := by
      unfold recorded
      rw [foldl_append]
      rfl
    have fresh : ∀ row ∈ (recorded calls).rows, row.id ≠ call.budgetId :=
      fun row member => different _ (ids row member) _ (mem_singleton_self _)
    rw [last]
    constructor
    · intro row member
      rw [map_append, mem_append]
      rcases ids_recordBudgetUsage member with own | ⟨earlier, stored, same⟩
      · exact .inr (mem_singleton.mpr own)
      · exact .inl (same ▸ ids earlier stored)
    · intro kind
      rw [totalWeight_recordBudgetUsage kind fresh, totals kind, totalWeight_append]
      simp

/-! ## What is counted -/

theorem usageSince_eq (cutoff total : Int) (budgets : List BudgetRow) :
    usageSince cutoff total budgets = total + totalWeight
      (fun budget => if cutoff ≤ budget.windowEnd then budget.usageCount
        else 0) budgets := by
  induction budgets generalizing total with
  | nil => exact (add_zero total).symm
  | cons _ _ ih =>
    unfold usageSince
    rw [totalWeight_cons]
    split
    · rw [ih]
      ring
    · rw [ih, zero_add]

theorem usageSince_listBudgets (newIds : (calls.map BudgetCall.budgetId).Nodup)
    (scopeGiven : budgetScope ≠ "")
    (keyGiven : budgetKey ≠ "") {now : Int}
    (past : ∀ call ∈ calls, call.now ≤ now) (cutoff : Int) :
    usageSince cutoff 0 ((recorded calls).listBudgets budgetScope budgetKey) =
      recordedUsage calls budgetScope budgetKey cutoff now := by
  have totals := (recorded_spec newIds).2 fun scope key time =>
    scope = budgetScope && key = budgetKey && cutoff ≤ time
  rw [usageSince_eq, zero_add]
  unfold listBudgets recordedUsage
  rw [totalWeight_orderBy, totalWeight_filter, totalWeight_filter]
  have ofRows : (fun row : BudgetRow =>
      if (budgetScope = "" || row.budgetScope = budgetScope) &&
          (budgetKey = "" || row.budgetKey = budgetKey) then
        (if cutoff ≤ row.windowEnd then row.usageCount else 0)
      else 0) = usageOf fun scope key time =>
        scope = budgetScope && key = budgetKey && cutoff ≤ time := by
    funext row
    unfold usageOf
    simp [scopeGiven, keyGiven, ite_and]
  rw [ofRows, totals]
  refine congrArg List.sum (map_congr_left fun call member => ?_)
  unfold callUsageOf
  simp [past call member]

/-- A budget is exhausted exactly when the usage recorded for it within the
last hour exceeds the limit. -/
theorem budgetExhausted_iff_recordedUsage
    (calls : List BudgetCall) (newIds : (calls.map BudgetCall.budgetId).Nodup)
    (now : Int) (past : ∀ call ∈ calls, call.now ≤ now)
    (budgetScope budgetKey : String) (scopeGiven : budgetScope ≠ "")
    (keyGiven : budgetKey ≠ "") :
    ((recorded calls).expensiveCodingBudgetExhausted now budgetScope
        budgetKey = true ↔
      expensiveCodingRunLimit < recordedUsage calls budgetScope budgetKey
        (now - expensiveCodingRunWindow) now) ∧
    ((recorded calls).objectiveBudgetExhausted now budgetKey = true ↔
      expensiveCodingRunLimit < recordedUsage calls "objective" budgetKey
        (now - expensiveCodingRunWindow) now) := by
  unfold expensiveCodingBudgetExhausted objectiveBudgetExhausted
  have objectiveScope : "objective" ≠ "" := by decide
  dsimp only
  rw [usageSince_listBudgets newIds scopeGiven keyGiven past,
    usageSince_listBudgets newIds objectiveScope keyGiven past]
  exact ⟨decide_eq_true_iff, decide_eq_true_iff⟩

/-- Four runs of one objective within the hour, two of them at once, and one
of another objective. -/
theorem fourRuns_exhausted :
    let calls : List BudgetCall :=
      [⟨0, "budget_0", "objective", "first", 1, expensiveCodingRunWindow⟩,
        ⟨5, "budget_1", "objective", "first", 1, expensiveCodingRunWindow⟩,
        ⟨5, "budget_2", "objective", "first", 2, expensiveCodingRunWindow⟩,
        ⟨7, "budget_3", "objective", "second", 9, expensiveCodingRunWindow⟩]
    ((recorded calls).expensiveCodingBudgetExhausted 9 "objective" "first" =
      true ↔ 3 < recordedUsage calls "objective" "first" (-3599999991) 9) ∧
    recordedUsage calls "objective" "first" (-3599999991) 9 = 4 :=
  ⟨(budgetExhausted_iff_recordedUsage _ (by decide) 9 (by decide) "objective"
    "first" (by decide) (by decide)).1, by decide⟩

/-! ## The table of the control plane -/

/-- The columns that `ControlTables` keeps of a row. -/
def BudgetRow.toControl (row : BudgetRow) : ControlBudget where
  budgetScope := row.budgetScope
  budgetKey := row.budgetKey
  windowEnd := row.windowEnd
  usageCount := row.usageCount

structure HourWindows (table : BudgetTable) : Prop where
  oneHour : ∀ row ∈ table.rows,
    row.windowStart = row.windowEnd - expensiveCodingRunWindow
  distinct : (table.rows.map fun row => (row.budgetScope, row.budgetKey, row.windowEnd)).Nodup

def IsCurrent (call : BudgetCall) (row : BudgetRow) : Prop :=
  row.budgetScope = call.budgetScope ∧ row.budgetKey = call.budgetKey ∧
    row.windowEnd = call.now

theorem getBudget_eq_none (hours : HourWindows table)
    (hour : call.window = expensiveCodingRunWindow) :
    table.getBudget call.budgetScope call.budgetKey (call.now - call.window)
      call.now = none ↔ ∀ row ∈ table.rows, ¬ IsCurrent call row := by
  unfold getBudget
  rw [find?_eq_none]
  refine forall₂_congr fun row member => not_congr ?_
  have started := hours.oneHour row member
  simp only [Bool.and_eq_true, decide_eq_true_eq, IsCurrent]
  constructor
  · rintro ⟨⟨⟨scope, key⟩, _⟩, ended⟩
    exact ⟨scope, key, ended⟩
  · rintro ⟨scope, key, ended⟩
    exact ⟨⟨⟨scope, key⟩, by rw [started, ended, hour]⟩, ended⟩

theorem recordBudgetUsage_of_new (hours : HourWindows table)
    (hour : call.window = expensiveCodingRunWindow)
    (single : call.usageCount = 1)
    (fresh : ∀ row ∈ table.rows, row.id ≠ call.budgetId)
    (same : control.budgets = table.rows.map BudgetRow.toControl)
    (noCurrent : ∀ row ∈ table.rows, ¬ IsCurrent call row) :
    HourWindows (table.upsert (newBudget call)) ∧
      (control.recordBudgetUsage call.now call.budgetScope call.budgetKey).budgets =
          (table.upsert (newBudget call)).rows.map BudgetRow.toControl := by
  have newId : ∀ row ∈ table.rows, row.id ≠ (newBudget call).id := fresh
  have rows := KeyedTable.rows_upsert_of_fresh newId
  refine ⟨⟨?oneHour, ?distinct⟩, ?budgets⟩
  case oneHour =>
    intro row member
    rw [rows, mem_append] at member
    rcases member with stored | added
    · exact hours.oneHour row stored
    · rw [mem_singleton.mp added, ← hour]
      rfl
  case distinct =>
    rw [rows, map_append, map_singleton]
    refine hours.distinct.append (nodup_singleton _) ?_
    rw [disjoint_singleton]
    intro repeated
    obtain ⟨row, member, current⟩ := mem_map.mp repeated
    simp only [newBudget, Prod.mk.injEq] at current
    exact noCurrent row member current
  case budgets =>
    have none : (table.rows.map BudgetRow.toControl).any (fun budget =>
        budget.budgetScope = call.budgetScope &&
          budget.budgetKey = call.budgetKey &&
            budget.windowEnd = call.now) = false := by
      rw [any_eq_false]
      intro budget member current
      obtain ⟨row, rowMember, rfl⟩ := mem_map.mp member
      simp only [BudgetRow.toControl, Bool.and_eq_true] at current
      exact noCurrent row rowMember ⟨of_decide_eq_true current.1.1,
        of_decide_eq_true current.1.2, of_decide_eq_true current.2⟩
    unfold ControlTables.recordBudgetUsage
    rw [same]
    dsimp only
    rw [none, if_neg Bool.false_ne_true, rows, map_append]
    simp [newBudget, BudgetRow.toControl, single]

theorem recordBudgetUsage_of_existing (hours : HourWindows table) (single : call.usageCount = 1)
    (same : control.budgets = table.rows.map BudgetRow.toControl)
    (member : existing ∈ table.rows) (current : IsCurrent call existing) :
    HourWindows (table.upsert (addedBudget existing call)) ∧
      (control.recordBudgetUsage call.now call.budgetScope
        call.budgetKey).budgets = (table.upsert (addedBudget existing call)).rows.map
            BudgetRow.toControl := by
  obtain ⟨front, back, split, otherIds⟩ :=
    KeyedTable.exists_split_of_lookup (table.lookup_of_mem member)
  have sameId : existing.id = (addedBudget existing call).id := rfl
  have rows := KeyedTable.rows_upsert_of_split sameId split otherIds
  obtain ⟨scope, key, ended⟩ := current
  have window : (addedBudget existing call).windowEnd = existing.windowEnd := ended.symm
  have others : ∀ row ∈ front ++ back, ¬ IsCurrent call row := by
    have distinct := hours.distinct
    rw [split, map_append, map_cons] at distinct
    intro row rowMember ⟨rowScope, rowKey, rowEnded⟩
    refine (nodup_middle.mp distinct).notMem ?_
    rw [← map_append, mem_map]
    exact ⟨row, rowMember, by rw [rowScope, rowKey, rowEnded, scope, key, ended]⟩
  refine ⟨⟨?oneHour, ?distinct⟩, ?budgets⟩
  case oneHour =>
    intro row rowMember
    rw [rows] at rowMember
    rcases mem_append.mp rowMember with early | later
    · exact hours.oneHour row (split ▸ mem_append_left _ early)
    · rcases mem_cons.mp later with rfl | late
      · rw [window]
        exact hours.oneHour existing member
      · exact hours.oneHour row (split ▸ mem_append_right _ (mem_cons_of_mem _ late))
  case distinct =>
    have distinct := hours.distinct
    rw [split, map_append, map_cons] at distinct
    rw [rows, map_append, map_cons, window]
    exact distinct
  case budgets =>
    let isCurrent (budget : ControlBudget) : Bool :=
      budget.budgetScope = call.budgetScope &&
        budget.budgetKey = call.budgetKey && budget.windowEnd = call.now
    have found : (table.rows.map BudgetRow.toControl).any isCurrent = true := by
      refine any_eq_true.mpr ⟨_, mem_map_of_mem member, ?_⟩
      simp [isCurrent, BudgetRow.toControl, scope, key, ended]
    have kept : ∀ rows : List BudgetRow, (∀ row ∈ rows, ¬ IsCurrent call row) →
          (rows.map BudgetRow.toControl).map (fun budget =>
            if isCurrent budget then { budget with usageCount := budget.usageCount + 1 }
            else budget) = rows.map BudgetRow.toControl := by
      intro rows different
      rw [map_map]
      refine map_congr_left fun row rowMember => if_neg ?_
      intro rowCurrent
      simp only [isCurrent, BudgetRow.toControl, Bool.and_eq_true, decide_eq_true_eq] at rowCurrent
      exact different row rowMember ⟨rowCurrent.1.1, rowCurrent.1.2, rowCurrent.2⟩
    have keptFront := kept front fun row rowMember => others row (mem_append_left _ rowMember)
    have keptBack := kept back fun row rowMember => others row (mem_append_right _ rowMember)
    unfold ControlTables.recordBudgetUsage
    rw [same]
    change (if (table.rows.map BudgetRow.toControl).any isCurrent = true
      then _ else _ : ControlTables).budgets = _
    rw [if_pos found]
    rw [rows, split, map_append, map_cons, map_append, map_cons, map_append, map_cons]
    refine congrArg₂ (· ++ ·) keptFront (congrArg₂ List.cons ?_ keptBack)
    simp [addedBudget, BudgetRow.toControl, scope, key, ended, single]

theorem toControl_recordBudgetUsage (hours : HourWindows table)
    (hour : call.window = expensiveCodingRunWindow)
    (single : call.usageCount = 1)
    (fresh : ∀ row ∈ table.rows, row.id ≠ call.budgetId)
    (same : control.budgets = table.rows.map BudgetRow.toControl) :
    HourWindows (table.recordBudgetUsage call) ∧
      (control.recordBudgetUsage call.now call.budgetScope call.budgetKey).budgets =
          (table.recordBudgetUsage call).rows.map BudgetRow.toControl := by
  unfold recordBudgetUsage
  cases found : table.getBudget call.budgetScope call.budgetKey
    (call.now - call.window) call.now with
  | none =>
    exact recordBudgetUsage_of_new hours hour single fresh same
      ((getBudget_eq_none hours hour).mp found)
  | some _ =>
    obtain ⟨member, current⟩ := usageOf_of_getBudget found
    exact recordBudgetUsage_of_existing hours single same member current

/-- What the control plane's own table counts as recent is what both loops
add up. -/
theorem recentUsage_eq_usageSince (same : control.budgets = table.rows.map BudgetRow.toControl)
    (scopeGiven : budgetScope ≠ "")
    (keyGiven : budgetKey ≠ "") (now : Int) :
    control.recentUsage now budgetScope budgetKey = usageSince (now - expensiveCodingRunWindow) 0
        (table.listBudgets budgetScope budgetKey) := by
  rw [usageSince_eq, zero_add]
  unfold listBudgets ControlTables.recentUsage
  rw [totalWeight_orderBy, totalWeight_filter, same]
  change totalWeight ControlBudget.usageCount _ = _
  rw [totalWeight_filter]
  unfold totalWeight
  rw [map_map]
  refine congrArg List.sum (map_congr_left fun row _ => ?_)
  by_cases scope : row.budgetScope = budgetScope
  · by_cases key : row.budgetKey = budgetKey
    · simp [BudgetRow.toControl, scopeGiven, keyGiven, scope, key]
    · simp [BudgetRow.toControl, scopeGiven, keyGiven, scope, key]
  · simp [BudgetRow.toControl, scopeGiven, scope]

/-- Calls for one use of an hour keep one row for each scope, key and moment,
and the control plane's own table is what these rows say. -/
theorem hours_recorded (calls : List BudgetCall)
    (newIds : (calls.map BudgetCall.budgetId).Nodup)
    (hourly : ∀ call ∈ calls, call.window = expensiveCodingRunWindow ∧ call.usageCount = 1)
    (start : ControlTables) (unused : start.budgets = []) :
    let after := calls.foldl (fun tables call =>
      tables.recordBudgetUsage call.now call.budgetScope call.budgetKey) start
    HourWindows (recorded calls) ∧
      after.budgets = (recorded calls).rows.map BudgetRow.toControl ∧
      ∀ now budgetScope budgetKey, budgetScope ≠ "" → budgetKey ≠ "" →
        after.recentUsage now budgetScope budgetKey =
          usageSince (now - expensiveCodingRunWindow) 0
            ((recorded calls).listBudgets budgetScope budgetKey) := by
  intro after
  have refines : HourWindows (recorded calls) ∧
      after.budgets = (recorded calls).rows.map BudgetRow.toControl := by
    induction calls using List.reverseRecOn with
    | nil => exact ⟨⟨fun _ member => absurd member not_mem_nil, nodup_nil⟩, unused⟩
    | append_singleton earlier call ih =>
      rw [map_append, map_singleton] at newIds
      obtain ⟨earlierIds, _, different⟩ := nodup_append.mp newIds
      rw [forall_mem_append, forall_mem_singleton] at hourly
      obtain ⟨hours, same⟩ := ih earlierIds hourly.1
      have fresh : ∀ row ∈ (recorded earlier).rows, row.id ≠ call.budgetId := fun row member =>
        different _ ((recorded_spec earlierIds).1 row member) _ (mem_singleton_self _)
      have next := toControl_recordBudgetUsage hours hourly.2.1 hourly.2.2 fresh same
      simp only [after, recorded, foldl_append] at next ⊢
      exact next
  exact ⟨refines.1, refines.2, fun now _ _ scopeGiven keyGiven =>
    recentUsage_eq_usageSince refines.2 scopeGiven keyGiven now⟩

theorem three_uses_recorded :
    HourWindows (recorded
      [⟨0, "budget_0", "objective", "first", 1, expensiveCodingRunWindow⟩,
        ⟨5, "budget_1", "objective", "first", 1, expensiveCodingRunWindow⟩,
        ⟨5, "budget_2", "objective", "first", 1, expensiveCodingRunWindow⟩]) :=
  (hours_recorded _ (by decide) (by decide) {} rfl).1

end BudgetTable

end AccruviaHarness
