import AccruviaHarness.Library.KeyedTable
import AccruviaHarness.Library.OrderedSelection
import Mathlib.Algebra.BigOperators.Group.List.Basic
import Mathlib.Data.List.Infix
import Mathlib.Tactic.Abel
import Mathlib.Tactic.Ring

/-!
# Totals over tables

A weight for each row of a table, and what the writes of a table do to the sum
of the weights.
-/

namespace Library

open List

universe u v

section

variable {Row : Type u} {Key : Type v} {key : Row → Key} (weight : Row → Int)

def totalWeight (rows : List Row) : Int := (rows.map weight).sum

@[simp]
theorem totalWeight_nil : totalWeight weight [] = 0 := rfl

@[simp]
theorem totalWeight_cons (row : Row) (rows : List Row) :
    totalWeight weight (row :: rows) = weight row + totalWeight weight rows :=
  List.sum_cons

@[simp]
theorem totalWeight_append (first second : List Row) :
    totalWeight weight (first ++ second) =
      totalWeight weight first + totalWeight weight second := by
  unfold totalWeight
  rw [List.map_append, List.sum_append]

theorem totalWeight_orderBy (before : Row → Row → Prop) [DecidableRel before] (rows : List Row) :
    totalWeight weight (orderBy before rows) = totalWeight weight rows :=
  ((perm_insertionSort before rows).map weight).sum_eq

theorem totalWeight_filter (keep : Row → Bool) (rows : List Row) :
    totalWeight weight (rows.filter keep) =
      totalWeight (fun row => if keep row then weight row else 0) rows := by
  induction rows with
  | nil => rfl
  | cons row _ ih =>
    by_cases kept : keep row = true
    · simp [kept, ih]
    · simp [kept, ih]

section

variable [DecidableEq Key]

def RowUpdate.replaceBy (row : Row) : RowUpdate key where
  apply stored := if key stored = key row then row else stored
  keepsKey stored := by
    split
    next same => exact same.symm
    · rfl

/-- `INSERT … ON CONFLICT(key) DO UPDATE` of the whole row. -/
def KeyedTable.upsert (table : KeyedTable key) (row : Row) : KeyedTable key :=
  match table.insert? row with
  | some inserted => inserted
  | none => table.modify (RowUpdate.replaceBy row)

variable {table : KeyedTable key} {row : Row}

theorem KeyedTable.rows_upsert_of_fresh (fresh : ∀ stored ∈ table.rows, key stored ≠ key row) :
    (table.upsert row).rows = table.rows ++ [row] := by
  obtain ⟨_, success, rows⟩ := table.insert?_of_fresh row fresh
  unfold upsert
  rw [success]
  exact rows

theorem KeyedTable.rows_upsert_of_split {stored : Row} {front back : List Row}
    (same : key stored = key row)
    (split : table.rows = front ++ stored :: back)
    (others : ∀ other ∈ front ++ back, key other ≠ key row) :
    (table.upsert row).rows = front ++ row :: back := by
  have present : table.insert? row = none := by
    refine table.insert?_eq_none_iff.mpr ⟨stored, ?_, same⟩
    rw [split]
    exact mem_append_right front mem_cons_self
  have kept : ∀ rows : List Row, (∀ other ∈ rows, key other ≠ key row) →
      rows.map (@RowUpdate.replaceBy Row Key key _ row).apply = rows := by
    intro rows different
    refine (map_congr_left ?_).trans (map_id rows)
    exact fun other member => if_neg (different other member)
  have replaced : (@RowUpdate.replaceBy Row Key key _ row).apply stored = row := if_pos same
  unfold upsert
  rw [present]
  rw [rows_modify, split, List.map_append, List.map_cons, replaced,
    kept front fun other member => others other (mem_append_left _ member),
    kept back fun other member => others other (mem_append_right _ member)]

theorem KeyedTable.mem_of_mem_upsert {other : Row} (member : other ∈ (table.upsert row).rows) :
    other = row ∨ other ∈ table.rows := by
  unfold upsert at member
  split at member
  next inserted success =>
    rw [rows_of_insert? success] at member
    rcases mem_append.mp member with stored | added
    · exact Or.inr stored
    · exact Or.inl (mem_singleton.mp added)
  · obtain ⟨stored, storedMember, rfl⟩ := mem_map.mp member
    by_cases same : key stored = key row
    · exact Or.inl (if_pos same)
    · refine Or.inr ?_
      have kept : (RowUpdate.replaceBy row).apply stored = stored := if_neg same
      rw [kept]
      exact storedMember

theorem KeyedTable.lookup_upsert (table : KeyedTable key) (row : Row) (wanted : Key) :
    (table.upsert row).lookup wanted =
      if key row = wanted then some row else table.lookup wanted := by
  cases found : table.lookup (key row) with
  | none =>
    have fresh := table.lookup_eq_none_iff.mp found
    unfold lookup
    rw [rows_upsert_of_fresh fresh, find?_append]
    by_cases own : key row = wanted
    · have absent : table.rows.find? (fun row => key row = wanted) = none := own ▸ found
      rw [if_pos own, absent]
      simp [own]
    · rw [if_neg own]
      simp [own]
  | some _ =>
    obtain ⟨front, _, split, others⟩ := table.exists_split_of_lookup found
    have same := (table.lookup_eq_some_iff.mp found).2
    unfold lookup
    rw [rows_upsert_of_split same split others, split]
    simp only [find?_append, find?_cons]
    by_cases own : key row = wanted
    · have absent : front.find? (fun row => key row = wanted) = none := by
        simp only [find?_eq_none, decide_eq_true_eq]
        intro other member
        exact own ▸ others other (mem_append_left _ member)
      simp [own, absent]
    · simp [own, same]

theorem totalWeight_upsert_of_fresh (fresh : ∀ stored ∈ table.rows, key stored ≠ key row) :
    totalWeight weight (table.upsert row).rows = totalWeight weight table.rows + weight row := by
  rw [KeyedTable.rows_upsert_of_fresh fresh]
  simp

theorem totalWeight_upsert_of_lookup {stored : Row} (found : table.lookup (key row) = some stored) :
    totalWeight weight (table.upsert row).rows =
      totalWeight weight table.rows - weight stored + weight row := by
  obtain ⟨_, _, split, others⟩ := table.exists_split_of_lookup found
  have same := (table.lookup_eq_some_iff.mp found).2
  rw [KeyedTable.rows_upsert_of_split same split others, split]
  simp only [totalWeight_append, totalWeight_cons]
  ring

end

end

end Library

/-!
## Counters

A counter keeps a number for each key that something was added under. What it
counts under a key, and in total, are the sums of what was added.
-/

namespace Library

universe u v

/-- `dict[Key, Number]`, whose missing entries count as zero. -/
abbrev Counter (Key : Type u) (Number : Type v) := KeyedTable (Prod.fst : Key × Number → Key)

namespace Counter

variable {Key : Type u} {Number : Type v} [DecidableEq Key]
variable [AddCommMonoid Number] (counter : Counter Key Number) (key : Key)

/-- `counter.get(key, 0)`. -/
def count : Number := ((counter.lookup key).map Prod.snd).getD 0

/-- `counter[key] = counter.get(key, 0) + amount`. -/
def add (amount : Number) : Counter Key Number := counter.upsert (key, counter.count key + amount)

/-- `sum(counter.values())`. -/
def total : Number := (counter.rows.map Prod.snd).sum

@[simp]
theorem count_empty :
    count (.empty _ : Counter Key Number) key = 0 := rfl

omit [DecidableEq Key] in
@[simp]
theorem total_empty : total (.empty _ : Counter Key Number) = 0 := rfl

theorem count_add (counter : Counter Key Number) (key wanted : Key) (amount : Number) :
    (counter.add key amount).count wanted =
      counter.count wanted + if key = wanted then amount else 0 := by
  by_cases own : key = wanted
  · rw [if_pos own, ← own]
    simp [add, count, KeyedTable.lookup_upsert]
  · rw [if_neg own, add_zero]
    simp [add, count, KeyedTable.lookup_upsert, own]

theorem total_add (counter : Counter Key Number) (key : Key) (amount : Number) :
    (counter.add key amount).total = counter.total + amount := by
  unfold add count total
  cases found : counter.lookup key with
  | none =>
    rw [KeyedTable.rows_upsert_of_fresh (counter.lookup_eq_none_iff.mp found)]
    simp
  | some _ =>
    obtain ⟨_, _, split, others⟩ := counter.exists_split_of_lookup found
    rw [KeyedTable.rows_upsert_of_split (counter.lookup_eq_some_iff.mp found).2 split others, split]
    simp only [Option.map_some, Option.getD_some, List.map_append,
      List.map_cons, List.sum_append, List.sum_cons]
    abel

/-! ## Counting rows -/

section

variable {Item : Type*} {amount : Item → Number}

structure Holds (counter : Counter Key Number) (amount : Item → Number)
    (rows : List (Key × Item)) : Prop where
  count : ∀ key, counter.count key =
    ((rows.filter fun row => row.1 = key).map fun row => amount row.2).sum
  total : counter.total = (rows.map fun row => amount row.2).sum

theorem holds_empty :
    Holds (.empty _ : Counter Key Number) amount [] where
  count _ := rfl
  total := rfl

theorem Holds.add {counter : Counter Key Number} {rows : List (Key × Item)}
    (holds : counter.Holds amount rows) (key : Key) (item : Item) :
    (counter.add key (amount item)).Holds amount (rows ++ [(key, item)]) where
  count wanted := by
    rw [count_add, holds.count, List.filter_append, List.map_append, List.sum_append]
    by_cases own : key = wanted
    · simp [own]
    · simp [own]
  total := by
    rw [total_add, holds.total]
    simp

theorem Holds.skip {counter : Counter Key Number} {rows : List (Key × Item)}
    (holds : counter.Holds amount rows) (key : Key) {item : Item}
    (none : amount item = 0) :
    counter.Holds amount (rows ++ [(key, item)]) where
  count wanted := by
    rw [holds.count, List.filter_append, List.map_append, List.sum_append]
    by_cases own : key = wanted
    · simp [own, none]
    · simp [own]
  total := by
    rw [holds.total]
    simp [none]

end

end Counter

end Library

/-!
## Rounded sums

A total that is rounded after each addition. It is the exact sum after every
addition exactly when no addition needed to be rounded.
-/

namespace Library

universe u

section

variable {Number : Type u} [AddMonoid Number] (round : Number → Number) (numbers : List Number)

def roundedSum : Number := numbers.foldl (fun total number => round (total + number)) 0

def ExactSums : Prop :=
  ∀ front number back, numbers = front ++ number :: back →
    round (front.sum + number) = front.sum + number

@[simp]
theorem roundedSum_nil : roundedSum round [] = 0 := rfl

theorem roundedSum_append_singleton (number : Number) :
    roundedSum round (numbers ++ [number]) = round (roundedSum round numbers + number) := by
  simp [roundedSum]

theorem roundedSum_prefixes_iff :
    (∀ front, front <+: numbers → roundedSum round front = front.sum) ↔
      ExactSums round numbers := by
  constructor
  · intro exact front number back split
    have earlier : roundedSum round front = front.sum := exact front ⟨number :: back, split.symm⟩
    have next : roundedSum round (front ++ [number]) = (front ++ [number]).sum :=
      exact _ ⟨back, by rw [split, List.append_assoc, List.singleton_append]⟩
    rw [roundedSum_append_singleton, earlier, List.sum_append, List.sum_singleton] at next
    exact next
  · intro exact front
    induction front using List.reverseRecOn with
    | nil => intro _; rfl
    | append_singleton front number ih =>
      intro initial
      obtain ⟨back, split⟩ := initial
      rw [List.append_assoc, List.singleton_append] at split
      rw [roundedSum_append_singleton, ih ⟨number :: back, split⟩,
        exact front number back split.symm, List.sum_append,
        List.sum_singleton]

end

end Library
