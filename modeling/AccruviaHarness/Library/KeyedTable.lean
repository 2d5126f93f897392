import Mathlib.Data.List.Basic
import Mathlib.Data.List.Nodup
import Mathlib.Data.List.Perm.Basic

/-!
# Tables with a primary key

The rows of a table in storage order, together with the proof that no two of
them have the same key.
-/

namespace Library

open List

universe u v

structure KeyedTable {Row : Type u} {Key : Type v} (key : Row → Key) where
  rows : List Row
  keysNodup : (rows.map key).Nodup

structure RowUpdate {Row : Type u} {Key : Type v} (key : Row → Key) where
  apply : Row → Row
  keepsKey : ∀ row, key (apply row) = key row

def RowUpdate.at {Row : Type u} {Key : Type v} [DecidableEq Key]
    {key : Row → Key} (update : RowUpdate key) (wanted : Key) :
    RowUpdate key where
  apply row := if key row = wanted then update.apply row else row
  keepsKey row := by
    split
    · exact update.keepsKey row
    · rfl

namespace KeyedTable

variable {Row : Type u} {Key : Type v} {key : Row → Key}

@[ext]
theorem ext {first second : KeyedTable key} (rows : first.rows = second.rows) : first = second := by
  cases first
  cases second
  cases rows
  rfl

def empty (key : Row → Key) : KeyedTable key where
  rows := []
  keysNodup := nodup_nil

instance : Inhabited (KeyedTable key) := ⟨empty key⟩

def single (row : Row) : KeyedTable key where
  rows := [row]
  keysNodup := nodup_singleton _

variable (table : KeyedTable key) (condition : Row → Bool)

/-- Delete the rows that satisfy `condition`. -/
def deleteWhere :
    KeyedTable key where
  rows := table.rows.filter fun row => !condition row
  keysNodup := table.keysNodup.sublist (filter_sublist.map key)

def modify (update : RowUpdate key) :
    KeyedTable key where
  rows := table.rows.map update.apply
  keysNodup := by
    have sameKeys : (table.rows.map update.apply).map key = table.rows.map key := by
      simp [Function.comp_def, update.keepsKey]
    rw [sameKeys]
    exact table.keysNodup

@[simp]
theorem rows_empty : (empty key).rows = [] := rfl

@[simp]
theorem rows_deleteWhere :
    (table.deleteWhere condition).rows = table.rows.filter fun row => !condition row := rfl

@[simp]
theorem rows_modify (update : RowUpdate key) :
    (table.modify update).rows = table.rows.map update.apply := rfl

theorem rowsNodup : table.rows.Nodup := List.Nodup.of_map key table.keysNodup

theorem eq_of_key_eq {first second : Row}
    (firstMember : first ∈ table.rows) (secondMember : second ∈ table.rows)
    (sameKey : key first = key second) : first = second :=
  inj_on_of_nodup_map table.keysNodup firstMember secondMember sameKey

section

variable [DecidableEq Key] (table : KeyedTable key) (wanted : Key)

def lookup : Option Row := table.rows.find? fun row => key row = wanted

/-- Insert a row; a row with the same key refuses it, as a primary key does. -/
def insert? (row : Row) : Option (KeyedTable key) :=
  if fresh : key row ∉ table.rows.map key then
    some
      { rows := table.rows ++ [row]
        keysNodup := by
          rw [map_append, nodup_append]
          refine ⟨table.keysNodup, nodup_singleton _, ?_⟩
          intro existing existingMember added addedMember same
          simp only [map_cons, map_nil, mem_singleton]
            at addedMember
          subst addedMember
          subst same
          exact fresh existingMember }
  else none

def updateAt (update : RowUpdate key) : KeyedTable key := table.modify (update.at wanted)

def deleteAt : KeyedTable key := table.deleteWhere fun row => key row = wanted

variable {wanted : Key} {row : Row} {table : KeyedTable key}

theorem lookup_eq_some_iff (table : KeyedTable key) :
    table.lookup wanted = some row ↔ row ∈ table.rows ∧ key row = wanted := by
  constructor
  · intro found
    have matched := find?_some found
    exact ⟨mem_of_find?_eq_some found, by simpa using matched⟩
  · rintro ⟨member, rfl⟩
    cases found : table.lookup (key row) with
    | none =>
      have absent := find?_eq_none.mp found row member
      simp at absent
    | some other =>
      have otherMember := mem_of_find?_eq_some found
      have otherKey : key other = key row := by simpa using find?_some found
      rw [table.eq_of_key_eq otherMember member otherKey]

theorem lookup_eq_none_iff (table : KeyedTable key) :
    table.lookup wanted = none ↔ ∀ row ∈ table.rows, key row ≠ wanted := by
  simp [lookup, find?_eq_none]

theorem lookup_of_mem (table : KeyedTable key) (member : row ∈ table.rows) :
    table.lookup (key row) = some row :=
  table.lookup_eq_some_iff.mpr ⟨member, rfl⟩

variable {update : RowUpdate key}

theorem mem_updateAt :
    row ∈ (table.updateAt wanted update).rows ↔
      ∃ earlier ∈ table.rows,
        (if key earlier = wanted then update.apply earlier else earlier) =
          row :=
  mem_map

theorem exists_key_updateAt {other : Key} :
    (∃ row ∈ (table.updateAt wanted update).rows, key row = other) ↔
      ∃ row ∈ table.rows, key row = other := by
  constructor
  · rintro ⟨row, member, same⟩
    obtain ⟨earlier, earlierMember, rfl⟩ := mem_updateAt.mp member
    refine ⟨earlier, earlierMember, ?_⟩
    rw [← same]
    exact ((update.at wanted).keepsKey earlier).symm
  · rintro ⟨row, member, same⟩
    exact ⟨_, mem_updateAt.mpr ⟨row, member, rfl⟩, ((update.at wanted).keepsKey row).trans same⟩

theorem mem_deleteAt :
    row ∈ (table.deleteAt wanted).rows ↔ row ∈ table.rows ∧ key row ≠ wanted := by
  simp [deleteAt]

theorem lookup_modify (table : KeyedTable key) (update : RowUpdate key) (wanted : Key) :
    (table.modify update).lookup wanted = (table.lookup wanted).map update.apply := by
  simp only [lookup, rows_modify, find?_map, Function.comp_def, update.keepsKey]

theorem lookup_updateAt (table : KeyedTable key) (changed wanted : Key) (update : RowUpdate key) :
    (table.updateAt changed update).lookup wanted =
      (table.lookup wanted).map fun row =>
        if wanted = changed then update.apply row else row := by
  rw [updateAt, lookup_modify]
  cases found : table.lookup wanted with
  | none => rfl
  | some _ =>
    obtain ⟨_, rfl⟩ := table.lookup_eq_some_iff.mp found
    rfl

theorem modify_updateAt (table : KeyedTable key) (changed : Key) {first second : RowUpdate key}
    (unseen : ∀ row, second.apply (first.apply row) = second.apply row) :
    (table.updateAt changed first).modify second = table.modify second := by
  apply ext
  simp only [updateAt, rows_modify, map_map]
  apply map_congr_left
  intro row _
  simp only [Function.comp_apply, RowUpdate.at]
  split
  · exact unseen row
  · rfl

theorem exists_split_of_lookup (found : table.lookup wanted = some row) :
    ∃ before after, table.rows = before ++ row :: after ∧
      ∀ other ∈ before ++ after, key other ≠ wanted := by
  obtain ⟨member, rfl⟩ := table.lookup_eq_some_iff.mp found
  obtain ⟨before, after, split⟩ := append_of_mem member
  refine ⟨before, after, split, ?_⟩
  intro other otherMember same
  have nodup := table.rowsNodup
  rw [split] at nodup
  have otherRow : other ∈ table.rows := by
    rw [split]
    rcases mem_append.mp otherMember with early | late
    · exact mem_append_left _ early
    · exact mem_append_right _ (mem_cons_of_mem row late)
  rw [table.eq_of_key_eq otherRow member same] at otherMember
  exact (nodup_middle.mp nodup).notMem otherMember

theorem rows_updateAt {table : KeyedTable key} {wanted : Key} {row : Row}
    {before after : List Row} (update : RowUpdate key)
    (own : key row = wanted)
    (split : table.rows = before ++ row :: after)
    (others : ∀ other ∈ before ++ after, key other ≠ wanted) :
    (table.updateAt wanted update).rows = before ++ update.apply row :: after := by
  have kept : ∀ rows : List Row, (∀ other ∈ rows, key other ≠ wanted) →
      rows.map (update.at wanted).apply = rows := by
    intro rows different
    refine (map_congr_left ?_).trans (map_id rows)
    intro other member
    exact if_neg (different other member)
  have ownApplied : (update.at wanted).apply row = update.apply row := if_pos own
  simp only [updateAt, rows_modify, split, map_append, map_cons, ownApplied]
  rw [kept before fun other member => others other (mem_append_left _ member),
    kept after fun other member => others other (mem_append_right _ member)]

theorem insert?_eq_none_iff (table : KeyedTable key) :
    table.insert? row = none ↔ ∃ existing ∈ table.rows, key existing = key row := by
  by_cases fresh : key row ∉ table.rows.map key
  · simp only [insert?, fresh, not_false_eq_true, dite_true, reduceCtorEq, false_iff]
    simpa using fresh
  · simp only [insert?, fresh, dite_false, true_iff]
    simpa using fresh

theorem rows_of_insert? {inserted : KeyedTable key} (success : table.insert? row = some inserted) :
    inserted.rows = table.rows ++ [row] := by
  unfold insert? at success
  split at success
  · cases success
    rfl
  · cases success

theorem insert?_of_fresh (table : KeyedTable key) (row : Row)
    (fresh : ∀ existing ∈ table.rows, key existing ≠ key row) :
    ∃ inserted, table.insert? row = some inserted ∧
      inserted.rows = table.rows ++ [row] := by
  cases result : table.insert? row with
  | none =>
    obtain ⟨existing, member, same⟩ := table.insert?_eq_none_iff.mp result
    exact absurd same (fresh existing member)
  | some inserted => exact ⟨inserted, rfl, rows_of_insert? result⟩

end

def GrowsBy (property : Row → Prop) (before after : KeyedTable key) : Prop :=
  ∃ added, after.rows = before.rows ++ added ∧ ∀ row ∈ added, property row

namespace GrowsBy

variable {property : Row → Prop} {before middle after : KeyedTable key}

theorem refl (table : KeyedTable key) : GrowsBy property table table :=
  ⟨[], (append_nil _).symm, fun _ member => absurd member not_mem_nil⟩

theorem trans (early : GrowsBy property before middle)
    (late : GrowsBy property middle after) : GrowsBy property before after := by
  obtain ⟨first, placed, firstHold⟩ := early
  obtain ⟨second, later, secondHold⟩ := late
  refine ⟨first ++ second, ?_, fun row member => ?_⟩
  · rw [later, placed, append_assoc]
  · exact (mem_append.mp member).elim (firstHold row) (secondHold row)

theorem single {row : Row} (placed : after.rows = before.rows ++ [row])
    (holds : property row) : GrowsBy property before after := by
  refine ⟨[row], placed, fun other member => ?_⟩
  rw [mem_singleton.mp member]
  exact holds

theorem mem_of_mem (grows : GrowsBy property before after) {row : Row}
    (member : row ∈ before.rows) : row ∈ after.rows := by
  obtain ⟨_, placed, _⟩ := grows
  rw [placed]
  exact mem_append_left _ member

theorem holds_of_new [DecidableEq Key] (grows : GrowsBy property before after) {row : Row}
    (member : row ∈ after.rows) (new : before.lookup (key row) = none) :
    property row := by
  obtain ⟨_, placed, holds⟩ := grows
  rw [placed] at member
  rcases mem_append.mp member with earlier | later
  · exact absurd rfl (before.lookup_eq_none_iff.mp new row earlier)
  · exact holds row later

end GrowsBy

end KeyedTable

end Library
