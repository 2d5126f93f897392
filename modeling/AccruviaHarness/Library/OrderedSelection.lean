import Mathlib.Data.List.Find
import Mathlib.Data.List.Sort
import Mathlib.Order.Lattice

/-!
# Selecting rows in an order

A query with an `ORDER BY` clause, and the scans over its result: the first row
at all, and the first row that a scan accepts.
-/

namespace Library

open List

universe u

section

variable {Row : Type u} (before : Row → Row → Prop) [DecidableRel before]

def orderBy (rows : List Row) : List Row := rows.insertionSort before

variable {rows : List Row}

@[simp]
theorem mem_orderBy {row : Row} : row ∈ orderBy before rows ↔ row ∈ rows :=
  mem_insertionSort before

theorem orderBy_eq_nil_iff : orderBy before rows = [] ↔ rows = [] := by
  have permutation := perm_insertionSort before rows
  constructor
  · intro empty
    rw [orderBy] at empty
    rw [empty] at permutation
    exact permutation.nil_eq.symm
  · rintro rfl
    rfl

theorem orderBy_map {change : Row → Row}
    (unseen : ∀ first second, before (change first) (change second) ↔ before first second)
    (rows : List Row) :
    orderBy before (rows.map change) = (orderBy before rows).map change :=
  (map_insertionSort before before change rows
    fun first _ second _ => (unseen first second).symm).symm

theorem nodup_map_orderBy {Key : Type*} {key : Row → Key} (distinct : (rows.map key).Nodup) :
    ((orderBy before rows).map key).Nodup :=
  ((perm_insertionSort before rows).map key).nodup_iff.mpr distinct

def precedesAll (rows : List Row) (row : Row) : Bool := rows.all fun other => before row other

theorem precedesAll_iff {row : Row} :
    precedesAll before rows row = true ↔ ∀ other ∈ rows, before row other := by
  simp [precedesAll]

section

variable [Std.Total before] [IsTrans Row before]

theorem orderBy_pairwise (rows : List Row) : (orderBy before rows).Pairwise before :=
  pairwise_insertionSort before rows

variable {rows : List Row}

variable {chosen row : Row} {limit : Nat}

/-- A scan of the ordered rows stops at a row that it accepts and that no
accepted row has to precede. -/
theorem find?_orderBy_first {accept : Row → Bool}
    (found : (orderBy before rows).find? accept = some chosen) :
    chosen ∈ rows ∧ accept chosen = true ∧
      ∀ other ∈ rows, accept other = true → before chosen other := by
  obtain ⟨accepted, passed, rest, split, skipped⟩ := find?_eq_some_iff_append.mp found
  have member : chosen ∈ orderBy before rows := by
    rw [split]
    exact mem_append_right passed (mem_cons_self)
  refine ⟨(mem_orderBy before).mp member, accepted, ?_⟩
  intro other otherMember otherAccepted
  have ordered := orderBy_pairwise before rows
  have otherPlaced : other ∈ passed ++ chosen :: rest := by
    rw [← split]
    exact (mem_orderBy before).mpr otherMember
  rw [split] at ordered
  rcases mem_append.mp otherPlaced with otherPassed | otherLater
  · have refused := skipped other otherPassed
    simp [otherAccepted] at refused
  · rcases List.mem_cons.mp otherLater with rfl | otherRest
    · exact (total_of before other other).elim id id
    · exact (pairwise_cons.mp (pairwise_append.mp ordered).2.1).1 other otherRest

theorem head?_orderBy_first (first : (orderBy before rows).head? = some chosen) :
    chosen ∈ rows ∧ ∀ other ∈ rows, before chosen other := by
  obtain ⟨rest, ordered⟩ := head?_eq_some_iff.mp first
  have sorted := orderBy_pairwise before rows
  rw [ordered] at sorted
  have placed : ∀ row, row ∈ rows ↔ row ∈ chosen :: rest := by
    intro row
    rw [← ordered, mem_orderBy]
  refine ⟨(placed chosen).mpr mem_cons_self, ?_⟩
  intro other member
  rcases List.mem_cons.mp ((placed other).mp member) with rfl | later
  · exact (total_of before other other).elim id id
  · exact (pairwise_cons.mp sorted).1 other later

/-- Ties keep their storage order: the first of the ordered rows is the first
stored row that no row has to precede. -/
theorem head?_orderBy (rows : List Row) :
    (orderBy before rows).head? = rows.find? (precedesAll before rows) := by
  induction rows with
  | nil => rfl
  | cons row rows ih =>
    show ((orderBy before rows).orderedInsert before row).head? = _
    cases ordered : orderBy before rows with
    | nil =>
      obtain rfl := (orderBy_eq_nil_iff before).mp ordered
      have reflexive : before row row := (total_of before row row).elim id id
      have least : precedesAll before [row] row = true := by simpa [precedesAll] using reflexive
      rw [find?_cons_of_pos least]
      rfl
    | cons first others =>
      rw [ordered, head?_cons] at ih
      obtain ⟨member, head⟩ := head?_orderBy_first before
        ((congrArg List.head? ordered).trans head?_cons)
      by_cases ahead : before row first
      · have least : precedesAll before (row :: rows) row = true := by
          rw [precedesAll_iff]
          intro other otherMember
          rcases List.mem_cons.mp otherMember with rfl | later
          · exact (total_of before other other).elim id id
          · exact trans_of before ahead (head other later)
        rw [orderedInsert_cons_of_le before others ahead, head?_cons, find?_cons_of_pos least]
      · have behind : before first row := (total_of before row first).resolve_left ahead
        have notLeast : ¬ precedesAll before (row :: rows) row = true := by
          rw [precedesAll_iff]
          exact fun least => ahead (least first (List.mem_cons_of_mem row member))
        rw [orderedInsert_of_not_le before others ahead, head?_cons, ih, find?_cons_of_neg notLeast]
        -- A least row of the rest precedes `first`, and so this row too.
        apply find?_congr
        intro other otherMember
        rw [Bool.eq_iff_iff, precedesAll_iff, precedesAll_iff, List.forall_mem_cons]
        constructor
        · exact fun least => ⟨trans_of before (least first member) behind, least⟩
        · exact fun least => least.2

omit [Std.Total before] in
theorem filter_orderedInsert (keep : Row → Bool) (row : Row) (sorted : rows.Pairwise before) :
    (rows.orderedInsert before row).filter keep =
      if keep row then (rows.filter keep).orderedInsert before row
      else rows.filter keep := by
  induction rows with
  | nil => by_cases kept : keep row = true <;> simp [kept]
  | cons head tail ih =>
    obtain ⟨ahead, tailSorted⟩ := pairwise_cons.mp sorted
    by_cases first : before row head
    · rw [orderedInsert_cons_of_le before tail first]
      by_cases kept : keep row = true
      · rw [filter_cons_of_pos kept, if_pos kept]
        -- Every row that is left comes after the inserted one.
        have least : ∀ other ∈ (head :: tail).filter keep, before row other := by
          intro other member
          rcases List.mem_cons.mp (mem_filter.mp member).1 with
            rfl | later
          · exact first
          · exact trans_of before first (ahead other later)
        cases shape : (head :: tail).filter keep with
        | nil => rfl
        | cons other others =>
          rw [shape] at least
          exact (orderedInsert_cons_of_le before others (least other mem_cons_self)).symm
      · rw [filter_cons_of_neg kept, if_neg kept]
    · rw [orderedInsert_of_not_le before tail first]
      by_cases keptHead : keep head = true
      · rw [filter_cons_of_pos keptHead, filter_cons_of_pos keptHead, ih tailSorted]
        by_cases kept : keep row = true
        · rw [if_pos kept, if_pos kept, orderedInsert_of_not_le before _ first]
        · rw [if_neg kept, if_neg kept]
      · rw [filter_cons_of_neg keptHead, filter_cons_of_neg keptHead, ih tailSorted]

/-- A query with a further condition answers the rows of the query that meet
it, in the same order. -/
theorem orderBy_filter (keep : Row → Bool) (rows : List Row) :
    orderBy before (rows.filter keep) = (orderBy before rows).filter keep := by
  induction rows with
  | nil => rfl
  | cons row rows ih =>
    have placed := filter_orderedInsert before keep row (orderBy_pairwise before rows)
    by_cases kept : keep row = true
    · rw [if_pos kept, ← ih] at placed
      rw [filter_cons_of_pos kept]
      exact placed.symm
    · rw [if_neg kept, ← ih] at placed
      rw [filter_cons_of_neg kept]
      exact placed.symm

theorem head?_orderBy_filter {first : Row} {keep : Row → Bool}
    (head : (orderBy before rows).head? = some first)
    (kept : keep first = true) :
    (orderBy before (rows.filter keep)).head? = some first := by
  obtain ⟨_, ordered⟩ := head?_eq_some_iff.mp head
  rw [orderBy_filter, ordered, filter_cons_of_pos kept, head?_cons]

theorem mem_take_orderBy (member : row ∈ rows)
    (few : rows.countP (fun other => before other row) ≤ limit) :
    row ∈ (orderBy before rows).take limit := by
  obtain ⟨front, back, split⟩ := append_of_mem ((mem_orderBy before).mpr member)
  have whole : orderBy before rows = (front ++ [row]) ++ back := by
    rw [split]
    exact append_cons front row back
  have ordered := orderBy_pairwise before rows
  rw [split] at ordered
  have ahead : ∀ other ∈ front ++ [row], before other row := by
    intro other otherMember
    rcases mem_append.mp otherMember with inFront | same
    · exact (pairwise_append.mp ordered).2.2 other inFront row mem_cons_self
    · rw [List.mem_singleton.mp same]
      exact (total_of before row row).elim id id
  have counted : (front ++ [row]).length ≤ rows.countP (fun other => before other row) := by
    rw [← (perm_insertionSort before rows).countP_eq]
    change _ ≤ (orderBy before rows).countP _
    rw [whole, countP_append]
    refine Nat.le_add_right_of_le (Nat.le_of_eq ?_)
    refine (countP_eq_length.mpr fun other otherMember => ?_).symm
    exact decide_eq_true (ahead other otherMember)
  have placed : (front ++ [row]) <+: (orderBy before rows).take limit := by
    rw [prefix_take_iff, whole]
    exact ⟨prefix_append _ _, counted.trans few⟩
  exact placed.subset (mem_append_right front mem_cons_self)

theorem countP_lt_of_mem_take_orderBy (placed : row ∈ (orderBy before rows).take limit) :
    rows.countP (fun other => !before row other) < limit := by
  obtain ⟨front, back, split⟩ := append_of_mem placed
  have whole : orderBy before rows =
      front ++ row :: (back ++ (orderBy before rows).drop limit) := by
    rw [← cons_append, ← append_assoc, ← split, take_append_drop]
  have ordered := orderBy_pairwise before rows
  have behind : ∀ other ∈ row :: (back ++ (orderBy before rows).drop limit), before row other := by
    intro other member
    rw [whole] at ordered
    rcases List.mem_cons.mp member with rfl | later
    · exact (total_of before other other).elim id id
    · exact (pairwise_cons.mp (pairwise_append.mp ordered).2.1).1 other later
  have shorter : front.length < limit := by
    have length := congrArg List.length split
    rw [length_take, length_append, length_cons] at length
    omega
  rw [← (perm_insertionSort before rows).countP_eq]
  change (orderBy before rows).countP _ < limit
  rw [whole, countP_append]
  have none : (row :: (back ++ (orderBy before rows).drop limit)).countP
      (fun other => !before row other) = 0 := by
    rw [countP_eq_zero]
    intro other member
    simp [behind other member]
  rw [none, Nat.add_zero]
  exact lt_of_le_of_lt countP_le_length shorter

end

theorem find?_orderBy_eq_none_iff {accept : Row → Bool} :
    (orderBy before rows).find? accept = none ↔ ∀ row ∈ rows, accept row = false := by
  simp [find?_eq_none]

end

end Library

/-!
## The first row with the least key

A scan that keeps a row as long as no later one has a smaller key.
-/

namespace Library

universe u v

variable {Row : Type u} {Key : Type v} [LinearOrder Key] (key : Row → Key)

/-- `min(rows, key=key)` of the first row and the others. -/
def leastRow (first : Row) (rest : List Row) : Row :=
  rest.foldl (fun best row => if key row < key best then row else best) first

theorem leastRow_mem (first : Row) (rest : List Row) : leastRow key first rest ∈ first :: rest := by
  induction rest generalizing first with
  | nil => exact List.mem_singleton.mpr rfl
  | cons row _ ih =>
    rw [leastRow, List.foldl_cons, ← leastRow]
    have member := ih
      (if key row < key first then row else first)
    by_cases smaller : key row < key first
    · rw [if_pos smaller] at member ⊢
      exact List.mem_cons_of_mem first member
    · rw [if_neg smaller] at member ⊢
      rcases List.mem_cons.mp member with same | later
      · exact List.mem_cons.mpr (.inl same)
      · exact List.mem_cons_of_mem _ (List.mem_cons_of_mem _ later)

theorem leastRow_le (first : Row) (rest : List Row) :
    ∀ row ∈ first :: rest, key (leastRow key first rest) ≤ key row := by
  induction rest generalizing first with
  | nil => simp [leastRow]
  | cons next _ ih =>
    rw [leastRow, List.foldl_cons, ← leastRow]
    have least := ih
      (if key next < key first then next else first)
    rw [List.forall_mem_cons] at least ⊢
    rw [List.forall_mem_cons]
    by_cases smaller : key next < key first
    · rw [if_pos smaller] at least ⊢
      exact ⟨least.1.trans smaller.le, least.1, least.2⟩
    · rw [if_neg smaller] at least ⊢
      exact ⟨least.1, least.1.trans (not_lt.mp smaller), least.2⟩

end Library
