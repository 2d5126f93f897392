import AccruviaHarness.Python.JsonRoundTrip

/-!
# The order of keys

An object that is written with `sort_keys=True` is read back with its keys in
order, which changes none of its values.
-/

namespace AccruviaHarness

open List

namespace PyJson

theorem perm_sortByKey (entries : PyDict) : (sortByKey entries).Perm entries :=
  perm_insertionSort _ entries

variable (entries : List (String × PyValue))

theorem sortEntries_eq_map :
    sortEntries entries = entries.map fun entry => (entry.1, sortKeys entry.2) := by
  induction entries with
  | nil => rfl
  | cons entry _ ih =>
    obtain ⟨_, _⟩ := entry
    rw [map_cons, ← ih]
    rfl

theorem keys_sortEntries : (sortEntries entries).map Prod.fst = entries.map Prod.fst := by
  rw [sortEntries_eq_map, map_map]
  rfl

variable {first second entries : PyDict}

theorem nodup_keys_of_perm (reordered : first.Perm second)
    (distinct : (second.map Prod.fst).Nodup) :
    (first.map Prod.fst).Nodup :=
  (reordered.map Prod.fst).nodup_iff.mpr distinct

theorem encodableEntries_iff (entries : List (String × PyValue)) :
    EncodableEntries entries ↔ ∀ entry ∈ entries, Encodable entry.2 := by
  induction entries with
  | nil => simp [EncodableEntries]
  | cons entry _ ih =>
    obtain ⟨_, _⟩ := entry
    simp [EncodableEntries, ih]

theorem encodable_find {entries : PyDict} (encodable : Encodable (.dict entries)) (key : String) :
    Encodable (entries.get key) := by
  unfold PyDict.get
  cases found : entries.find? fun entry => entry.1 = key with
  | none => trivial
  | some entry =>
    exact (encodableEntries_iff entries).mp encodable.2 entry (mem_of_find?_eq_some found)

mutual

theorem encodable_sortKeys :
    ∀ value, Encodable value → Encodable (sortKeys value)
  | .none, encodable => encodable
  | .bool _, encodable => encodable
  | .int _, encodable => encodable
  | .float _, encodable => encodable
  | .str _, encodable => encodable
  | .list items, encodable => encodable_sortItems items encodable
  | .dict entries, ⟨distinct, encodable⟩ => by
      have sorted := encodable_sortEntries entries encodable
      refine ⟨?_, ?_⟩
      · apply nodup_keys_of_perm (perm_sortByKey _)
        rw [keys_sortEntries]
        exact distinct
      · rw [encodableEntries_iff] at sorted ⊢
        intro entry member
        exact sorted entry ((perm_sortByKey _).mem_iff.mp member)

theorem encodable_sortItems :
    ∀ items, EncodableItems items → EncodableItems (sortItems items)
  | [], encodable => encodable
  | item :: items, ⟨itemEncodable, itemsEncodable⟩ =>
    ⟨encodable_sortKeys item itemEncodable, encodable_sortItems items itemsEncodable⟩

theorem encodable_sortEntries :
    ∀ entries, EncodableEntries entries → EncodableEntries (sortEntries entries)
  | [], encodable => encodable
  | (_, value) :: entries, ⟨valueEncodable, entriesEncodable⟩ =>
    ⟨encodable_sortKeys value valueEncodable, encodable_sortEntries entries entriesEncodable⟩

end

instance : Std.Total fun first second : String × PyValue =>
    first.1 ≤ second.1 :=
  ⟨fun first second => le_total first.1 second.1⟩

instance : IsTrans (String × PyValue) fun first second =>
    first.1 ≤ second.1 :=
  ⟨fun _ _ _ => le_trans⟩

theorem pairwise_sortByKey (entries : PyDict) :
    (sortByKey entries).Pairwise fun first second =>
      first.1 ≤ second.1 :=
  pairwise_insertionSort _ entries

theorem sortByKey_eq_of_perm (reordered : first.Perm second)
    (distinct : (second.map Prod.fst).Nodup) :
    sortByKey first = sortByKey second := by
  have same : (sortByKey first).Perm (sortByKey second) :=
    (perm_sortByKey first).trans (reordered.trans (perm_sortByKey second).symm)
  refine List.Perm.eq_of_pairwise ?_ (pairwise_sortByKey first) (pairwise_sortByKey second) same
  intro left right leftMember rightMember before after
  have leftKnown := reordered.mem_iff.mp ((perm_sortByKey first).mem_iff.mp leftMember)
  have rightKnown := (perm_sortByKey second).mem_iff.mp rightMember
  exact inj_on_of_nodup_map distinct leftKnown rightKnown (le_antisymm before after)

theorem sortByKey_sortByKey (entries : PyDict) :
    sortByKey (sortByKey entries) = sortByKey entries :=
  (pairwise_sortByKey entries).insertionSort_eq

theorem sortEntries_sortByKey (entries : PyDict) :
    sortEntries (sortByKey entries) = sortByKey (sortEntries entries) := by
  rw [sortEntries_eq_map, sortEntries_eq_map]
  exact map_insertionSort _ _ _ _ fun _ _ _ _ => .rfl

mutual

theorem sortKeys_sortKeys : ∀ value, sortKeys (sortKeys value) = sortKeys value
  | .none => rfl
  | .bool _ => rfl
  | .int _ => rfl
  | .float _ => rfl
  | .str _ => rfl
  | .list items => congrArg PyValue.list (sortItems_sortItems items)
  | .dict entries => by
      have values := sortEntries_sortEntries entries
      simp only [sortKeys, sortEntries_sortByKey, values, sortByKey_sortByKey]

theorem sortItems_sortItems :
    ∀ items, sortItems (sortItems items) = sortItems items
  | [] => rfl
  | item :: items => by simp only [sortItems, sortKeys_sortKeys item, sortItems_sortItems items]

theorem sortEntries_sortEntries :
    ∀ entries, sortEntries (sortEntries entries) = sortEntries entries
  | [] => rfl
  | (key, value) :: entries => by
      simp only [sortEntries, sortKeys_sortKeys value, sortEntries_sortEntries entries]

end

/-! ## Fields of an object -/

theorem find?_eq_of_perm (reordered : first.Perm second)
    (distinct : (second.map Prod.fst).Nodup) (key : String) :
    (first.find? fun entry => entry.1 = key) = second.find? fun entry => entry.1 = key := by
  cases found : first.find? fun entry => entry.1 = key with
  | none =>
    have missing := find?_eq_none.mp found
    exact (find?_eq_none.mpr fun entry member =>
      missing entry (reordered.mem_iff.mpr member)).symm
  | some entry =>
    have own : entry.1 = key := by simpa using find?_some found
    have member := reordered.mem_iff.mp (mem_of_find?_eq_some found)
    cases other : second.find? fun entry => entry.1 = key with
    | none => exact absurd own (by simpa using find?_eq_none.mp other entry member)
    | some entry' =>
      have own' : entry'.1 = key := by simpa using find?_some other
      have same := inj_on_of_nodup_map distinct member
        (mem_of_find?_eq_some other) (own.trans own'.symm)
      rw [same]

theorem get_sortByKey (distinct : (entries.map Prod.fst).Nodup) (key : String) :
    PyDict.get (sortByKey entries) key = PyDict.get entries key := by
  unfold PyDict.get
  rw [find?_eq_of_perm (perm_sortByKey entries) distinct]

theorem get_sortEntries (entries : PyDict) (key : String) :
    PyDict.get (sortEntries entries) key = sortKeys (entries.get key) := by
  unfold PyDict.get
  rw [sortEntries_eq_map, find?_map]
  have same :
      ((fun entry : String × PyValue => decide (entry.1 = key)) ∘
        fun entry : String × PyValue => (entry.1, sortKeys entry.2)) =
        fun entry => decide (entry.1 = key) := rfl
  rw [same]
  cases entries.find? fun entry => decide (entry.1 = key) <;> rfl

theorem get_sorted (distinct : (entries.map Prod.fst).Nodup) (key : String) :
    PyDict.get (sortByKey (sortEntries entries)) key = sortKeys (entries.get key) := by
  rw [get_sortByKey (by rw [keys_sortEntries]; exact distinct), get_sortEntries]

theorem any_key_iff_mem (entries : PyDict) (key : String) :
    (entries.any fun entry => entry.1 = key) = true ↔ key ∈ entries.map Prod.fst := by
  simp [any_eq_true, mem_map]

theorem nodup_keys_set (distinct : (entries.map Prod.fst).Nodup) (key : String) (value : PyValue) :
    ((entries.set key value).map Prod.fst).Nodup := by
  unfold PyDict.set
  split
  next known =>
    rw [map_map]
    have same :
        (Prod.fst ∘ fun entry : String × PyValue =>
          if entry.1 = key then (key, value) else entry) = Prod.fst := by
      funext entry
      by_cases own : entry.1 = key
      · simp [own]
      · simp [own]
    rw [same]
    exact distinct
  next missing =>
    rw [any_key_iff_mem] at missing
    rw [map_append, nodup_append']
    refine ⟨distinct, nodup_singleton _, ?_⟩
    simpa using missing

theorem encodable_set (encodable : Encodable (.dict entries))
    {key : String} {value : PyValue} (valueEncodable : Encodable value) :
    Encodable (.dict (entries.set key value)) := by
  obtain ⟨distinct, entriesEncodable⟩ := encodable
  refine ⟨nodup_keys_set distinct key value, ?_⟩
  rw [encodableEntries_iff] at entriesEncodable ⊢
  intro entry member
  unfold PyDict.set at member
  split at member
  · obtain ⟨row, known, same⟩ := mem_map.mp member
    by_cases own : row.1 = key
    · rw [if_pos own] at same
      rw [← same]
      exact valueEncodable
    · rw [if_neg own] at same
      rw [← same]
      exact entriesEncodable row known
  · rcases mem_append.mp member with known | added
    · exact entriesEncodable entry known
    · rw [mem_singleton.mp added]
      exact valueEncodable

theorem set_perm (reordered : first.Perm second) (key : String) (value : PyValue) :
    (first.set key value).Perm (second.set key value) := by
  have same : (first.any fun entry => entry.1 = key) = second.any fun entry => entry.1 = key := by
    rw [Bool.eq_iff_iff, any_key_iff_mem, any_key_iff_mem]
    exact (reordered.map Prod.fst).mem_iff
  unfold PyDict.set
  rw [same]
  split
  · exact reordered.map _
  · exact reordered.append_right _

theorem sortEntries_set (entries : PyDict) (key : String) (value : PyValue) :
    sortEntries (entries.set key value) =
      PyDict.set (sortEntries entries) key (sortKeys value) := by
  have same :
      ((sortEntries entries).any fun entry => entry.1 = key) =
        entries.any fun entry => entry.1 = key := by
    rw [Bool.eq_iff_iff, any_key_iff_mem, any_key_iff_mem, keys_sortEntries]
  unfold PyDict.set
  rw [same]
  split
  · rw [sortEntries_eq_map, sortEntries_eq_map, map_map, map_map]
    apply map_congr_left
    intro entry _
    by_cases own : entry.1 = key
    · simp [own]
    · simp [own]
  · rw [sortEntries_eq_map, sortEntries_eq_map, map_append]
    rfl

theorem sortKeys_set_sorted (distinct : (entries.map Prod.fst).Nodup)
    (key : String) (value : PyValue) :
    sortKeys (.dict (PyDict.set (sortByKey (sortEntries entries)) key value)) =
      sortKeys (.dict (entries.set key value)) := by
  have reordered := set_perm (perm_sortByKey (sortEntries entries)) key (sortKeys value)
  have keys : ((sortEntries entries).map Prod.fst).Nodup := by
    rw [keys_sortEntries]
    exact distinct
  simp only [sortKeys, sortEntries_set, sortEntries_sortByKey, sortEntries_sortEntries]
  rw [sortByKey_eq_of_perm reordered (nodup_keys_set keys key _)]

theorem sortKeys_set_congr (firstDistinct : (first.map Prod.fst).Nodup)
    (secondDistinct : (second.map Prod.fst).Nodup)
    (same : sortKeys (.dict first) = sortKeys (.dict second))
    (key : String) (value : PyValue) :
    sortKeys (.dict (first.set key value)) = sortKeys (.dict (second.set key value)) := by
  have ordered : sortByKey (sortEntries first) = sortByKey (sortEntries second) :=
    PyValue.dict.inj same
  rw [← sortKeys_set_sorted firstDistinct, ← sortKeys_set_sorted secondDistinct, ordered]

theorem loads_dumpsSorted_append {value : PyValue} (encodable : Encodable value) {rest : List Char}
    (blank : ∀ character ∈ rest, isSpace character = true) :
    loads (dumpsSorted value ++ rest) = some (sortKeys value) :=
  loads_dumps_append (encodable_sortKeys value encodable) blank

end PyJson

end AccruviaHarness
