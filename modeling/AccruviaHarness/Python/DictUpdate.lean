import AccruviaHarness.Python.Value
import Mathlib.Data.List.Induction

/-!
# Updated dictionaries

What a dictionary holds after `dict.update`: the items where they have a key,
and the earlier entries where they have not.
-/

namespace AccruviaHarness

open List

namespace PyDict

variable (entries : PyDict) (key : String)

def find : Option PyValue := (entries.find? fun entry => entry.1 = key).map Prod.snd

/-- `dict(items)`: the last value of a key is kept. -/
def ofItems (items : PyDict) : PyDict := update [] items

variable (keys : List String)

def without : PyDict := entries.filter fun entry => !decide (entry.1 ∈ keys)

theorem get_eq_find : entries.get key = (entries.find key).getD .none := by
  unfold get find
  cases entries.find? fun entry => entry.1 = key <;> rfl

theorem find_nil : find [] key = none := rfl

theorem find_cons (entry : String × PyValue) (entries : PyDict) (key : String) :
    find (entry :: entries) key =
      if entry.1 = key then some entry.2 else entries.find key := by
  unfold find
  by_cases own : entry.1 = key
  · simp [own]
  · simp [own]

theorem find_append (entries items : PyDict) (key : String) :
    find (entries ++ items) key = (entries.find key).or (items.find key) := by
  induction entries with
  | nil => rfl
  | cons _ _ ih =>
    rw [cons_append, find_cons, find_cons, ih]
    split
    · rfl
    · rfl

theorem find_eq_none_iff {entries : PyDict} {key : String} :
    entries.find key = none ↔ ∀ entry ∈ entries, entry.1 ≠ key := by
  simp [find]

theorem find_replaced (key wanted : String) (value : PyValue) :
    find (entries.map fun entry =>
        if entry.1 = key then (key, value) else entry) wanted =
      if wanted = key then (entries.find key).map fun _ => value
      else entries.find wanted := by
  induction entries with
  | nil => simp [find]
  | cons entry _ ih =>
    rw [map_cons, find_cons, ih, find_cons, find_cons]
    by_cases own : entry.1 = key
    · by_cases same : wanted = key
      · simp [own, same]
      · simp [own, same, Ne.symm same]
    · by_cases same : wanted = key
      · simp [own, same]
      · simp [own, same]

theorem find_set (key wanted : String) (value : PyValue) :
    (entries.set key value).find wanted =
      if wanted = key then some value else entries.find wanted := by
  unfold set
  split
  next present =>
    obtain ⟨entry, member, own⟩ := any_eq_true.mp present
    rw [find_replaced]
    split
    · cases found : entries.find key with
      | none => exact absurd (of_decide_eq_true own) (find_eq_none_iff.mp found entry member)
      | some _ => rfl
    · rfl
  next absent =>
    have missing : entries.find key = none := by
      refine find_eq_none_iff.mpr fun entry member own => absent ?_
      exact any_eq_true.mpr ⟨entry, member, decide_eq_true own⟩
    rw [find_append, find_cons, find_nil]
    by_cases same : wanted = key
    · rw [if_pos same, if_pos same.symm, same, missing]
      rfl
    · rw [if_neg same, if_neg (Ne.symm same), Option.or_none]

theorem update_append_singleton (entries items : PyDict) (item : String × PyValue) :
    entries.update (items ++ [item]) = (entries.update items).set item.1 item.2 := by
  simp [update, foldl_append]

theorem find_update (entries items : PyDict) (key : String) :
    (entries.update items).find key = ((ofItems items).find key).or (entries.find key) := by
  unfold ofItems
  induction items using List.reverseRecOn with
  | nil => rfl
  | append_singleton _ _ ih =>
    rw [update_append_singleton, update_append_singleton, find_set, find_set, ih]
    split
    · rfl
    · rfl

theorem ofItems_find_eq_none_iff {items : PyDict} {key : String} :
    (ofItems items).find key = none ↔ key ∉ items.map Prod.fst := by
  unfold ofItems
  induction items using List.reverseRecOn with
  | nil => simp [update, find]
  | append_singleton _ item ih =>
    rw [update_append_singleton, find_set, map_append, mem_append,
      map_singleton, mem_singleton]
    by_cases same : key = item.1
    · simp [same]
    · rw [if_neg same, ih]
      simp [same]

theorem find_without (key : String) :
    (entries.without keys).find key =
      if key ∈ keys then none else entries.find key := by
  unfold without
  induction entries with
  | nil => simp [find]
  | cons entry _ ih =>
    rw [filter_cons, find_cons]
    by_cases removed : entry.1 ∈ keys
    · rw [if_neg (by simp [removed]), ih]
      by_cases own : entry.1 = key
      · rw [if_pos (own ▸ removed), if_pos (own ▸ removed)]
      · rw [if_neg own]
    · rw [if_pos (by simp [removed]), find_cons, ih]
      by_cases own : entry.1 = key
      · rw [if_pos own, if_pos own, if_neg (own ▸ removed)]
      · rw [if_neg own, if_neg own]

end PyDict

end AccruviaHarness
