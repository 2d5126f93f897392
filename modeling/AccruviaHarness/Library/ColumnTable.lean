import AccruviaHarness.Library.KeyedTable
import AccruviaHarness.Library.OrderedSelection

/-!
# Tables of columns

A stored row has a value for every column. An `UPDATE` assigns some columns of
the rows that it selects; a query fetches the columns that it names, and a
column that it does not name is absent from the fetched row.
-/

namespace Library

open List

universe u v w

section

variable {Column : Type u} {Value : Type v} [DecidableEq Column]

def fetch (columns : List Column) (row : Column → Value) (column : Column) : Option Value :=
  if column ∈ columns then some (row column) else none

variable {columns : List Column} {column : Column}

theorem fetch_of_mem (named : column ∈ columns) (row : Column → Value) :
    fetch columns row column = some (row column) :=
  if_pos named

theorem fetch_of_not_mem (absent : column ∉ columns) (row : Column → Value) :
    fetch columns row column = none :=
  if_neg absent

def assign (values : Column → Option Value) (row : Column → Value) (column : Column) : Value :=
  (values column).getD (row column)

end

section

variable {Row : Type u}

/-- The rows that an `UPDATE` leaves. -/
def updateWhere (condition : Row → Bool) (change : Row → Row) (rows : List Row) : List Row :=
  rows.map fun row => if condition row then change row else row

/-- A `SELECT`: its condition, its order and its limit. -/
structure Query (Row : Type u) where
  condition : Row → Bool
  before : Row → Row → Bool
  limit : Option Nat := none

def Query.select (query : Query Row) (rows : List Row) : List Row :=
  let ordered := orderBy (fun first second => query.before first second)
    (rows.filter query.condition)
  match query.limit with
  | none => ordered
  | some limit => ordered.take limit

theorem Query.mem_of_mem_select {query : Query Row} {rows : List Row} {row : Row}
    (selected : row ∈ query.select rows) : row ∈ rows := by
  unfold Query.select at selected
  have placed : row ∈ orderBy (fun first second => query.before first second)
      (rows.filter query.condition) := by
    cases limited : query.limit with
    | none =>
      simp only [limited] at selected
      exact selected
    | some _ =>
      simp only [limited] at selected
      exact mem_of_mem_take selected
  exact (mem_filter.mp ((mem_orderBy _).mp placed)).1

end

section

variable {Row : Type u} {Record : Type w} (encode : Record → Row) (query : Query Row)

def Query.on : Query Record where
  condition record := query.condition (encode record)
  before first second := query.before (encode first) (encode second)
  limit := query.limit

theorem Query.select_map (records : List Record) :
    query.select (records.map encode) = ((query.on encode).select records).map encode := by
  have ordered : orderBy (fun first second => query.before first second)
        ((records.map encode).filter query.condition) =
      (orderBy (fun first second =>
        query.before (encode first) (encode second))
          (records.filter fun record =>
            query.condition (encode record))).map encode := by
    rw [filter_map]
    exact (map_insertionSort _ _ encode _ fun _ _ _ _ => .rfl).symm
  unfold Query.select Query.on
  rw [ordered]
  cases query.limit with
  | none => rfl
  | some _ => exact map_take.symm

theorem updateWhere_map {condition : Row → Bool} {change : Row → Row} {records : List Record}
    (changeRecord : Record → Record)
    (commutes : ∀ record ∈ records, condition (encode record) = true →
      change (encode record) = encode (changeRecord record)) :
    updateWhere condition change (records.map encode) =
      (updateWhere (fun record => condition (encode record)) changeRecord records).map encode := by
  unfold updateWhere
  rw [map_map, map_map]
  apply map_congr_left
  intro record member
  simp only [Function.comp_apply]
  split_ifs with selected
  · exact commutes record member selected
  · rfl

end

section

variable {Row : Type u} {Record : Type v} {Key : Type w} [DecidableEq Key]
  {key : Record → Key} {encode : Record → Row} {hasKey : Key → Row → Bool}
  (agrees : ∀ wanted record, hasKey wanted (encode record) = decide (key record = wanted))

include agrees

variable (records : KeyedTable key)

theorem find?_encoded (wanted : Key) :
    (records.rows.map encode).find? (hasKey wanted) = (records.lookup wanted).map encode := by
  rw [find?_map]
  unfold KeyedTable.lookup
  congr 2
  funext record
  exact agrees wanted record

theorem updateWhere_encoded {records : KeyedTable key} {wanted : Key} {change : Row → Row}
    (update : RowUpdate key)
    (commutes : ∀ record ∈ records.rows, key record = wanted →
      change (encode record) = encode (update.apply record)) :
    updateWhere (hasKey wanted) change (records.rows.map encode) =
      (records.updateAt wanted update).rows.map encode := by
  rw [updateWhere_map encode update.apply]
  · unfold updateWhere
    simp only [agrees, decide_eq_true_eq]
    rfl
  · intro record member selected
    rw [agrees, decide_eq_true_eq] at selected
    exact commutes record member selected

theorem any_encoded_iff (record : Record) :
    ((records.rows.map encode).any (hasKey (key record))) = true ↔
      records.insert? record = none := by
  rw [records.insert?_eq_none_iff, any_map, any_eq_true]
  simp [agrees]

end

section

variable {Row : Type u} {Record : Type v} {Write : Type w} {Error : Type*}

def runStatements (execute : List Row → Write → Except Error (List Row))
    (rows : List Row) (writes : List Write) : List Row :=
  writes.foldl
    (fun rows write =>
      match execute rows write with
      | .ok next => next
      | .error _ => rows) rows

/-- The same run on the records; a refused statement leaves them. -/
def runRecords {Table : Type*} (apply : Table → Write → Option Table)
    (table : Table) (writes : List Write) : Table :=
  writes.foldl (fun table write => (apply table write).getD table) table

def Simulates {Table : Type*} (rowsOf : Table → List Row) (Good : Table → Prop)
    (execute : List Row → Write → Except Error (List Row))
    (apply : Table → Write → Option Table) : Prop :=
  ∀ table write, Good table → (∃ error, apply table write = none ∧
        execute (rowsOf table) write = .error error) ∨
      ∃ next, apply table write = some next ∧
        execute (rowsOf table) write = .ok (rowsOf next) ∧ Good next

theorem Simulates.run {Table : Type*} {rowsOf : Table → List Row} {Good : Table → Prop}
    {execute : List Row → Write → Except Error (List Row)}
    {apply : Table → Write → Option Table}
    (simulates : Simulates rowsOf Good execute apply) {table : Table}
    (good : Good table) (writes : List Write) :
    runStatements execute (rowsOf table) writes = rowsOf (runRecords apply table writes) ∧
      Good (runRecords apply table writes) := by
  induction writes generalizing table with
  | nil => exact ⟨rfl, good⟩
  | cons write _ ih =>
    unfold runStatements runRecords
    obtain ⟨_, applied, raised⟩ | ⟨_, applied, executed, kept⟩ := simulates table write good
    · simp only [foldl_cons, applied, raised, Option.getD_none]
      exact ih good
    · simp only [foldl_cons, applied, executed, Option.getD_some]
      exact ih kept

end

end Library
