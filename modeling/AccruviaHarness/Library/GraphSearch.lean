import AccruviaHarness.Library.Loops
import Mathlib.Algebra.BigOperators.Group.List.Basic
import Mathlib.Algebra.GroupWithZero.Nat
import Mathlib.Data.List.Nodup
import Mathlib.Data.Set.Card
import Mathlib.Logic.Relation
import Mathlib.Order.CompletePartialOrder

/-!
# Search with a stack

The nodes that can be reached in a finite graph, each found once: a node is
taken off the stack, and the nodes that follow it are put onto the stack if its
key has not been seen.
-/

namespace Library

open List

universe u v

variable {Node : Type u} {Key : Type v}

/-- The state of a search. The top of the stack is the first node. -/
structure Search (Node : Type u) (Key : Type v) where
  stack : List Node
  seen : List Key := []
  found : List Node := []

variable (key : Node → Key)

/-- An arrow of the graph: the target is among the nodes that follow. -/
def Arrow (next : Key → List Node) (source target : Node) : Prop := target ∈ next (key source)

def Reached (next : Key → List Node) (start : List Node) (node : Node) : Prop :=
  ∃ first ∈ start, Relation.ReflTransGen (Arrow key next) first node

/-- The nodes are told apart by their keys, and nothing outside follows. -/
structure FiniteGraph (key : Node → Key) (next : Key → List Node)
    (nodes : List Node) : Prop where
  distinct : (nodes.map key).Nodup
  closed : ∀ source, next source ⊆ nodes

variable [DecidableEq Key] (key : Node → Key)

def searchStep (next : Key → List Node) (search : Search Node Key) : Option (Search Node Key) :=
  match search.stack with
  | [] => none
  | node :: stack =>
    if key node ∈ search.seen then some { search with stack }
    else
      some
        { stack := (next (key node)).reverse ++ stack, seen := key node :: search.seen
          found := search.found ++ [node] }

def searchBound (next : Key → List Node) (nodes start : List Node) : Nat :=
  start.length + (nodes.map fun node => (next (key node)).length).sum

/-- The nodes that a search finds, in the order in which it finds them. -/
def searchFrom (next : Key → List Node) (nodes start : List Node) : List Node :=
  (iterate (searchStep key next) (searchBound key next nodes start)
    { stack := start.reverse }).found

section

variable {key : Node → Key} {next : Key → List Node} {nodes start : List Node}

structure SearchInvariant (key : Node → Key) (next : Key → List Node)
    (nodes start : List Node) (search : Search Node Key) : Prop where
  keys : ∀ seen, seen ∈ search.seen ↔ ∃ node ∈ search.found, key node = seen
  distinct : (search.found.map key).Nodup
  inside : ∀ node, node ∈ search.stack ∨ node ∈ search.found → node ∈ nodes
  reached : ∀ node, node ∈ search.stack ∨ node ∈ search.found → Reached key next start node
  started : ∀ node ∈ start, node ∈ search.stack ∨ node ∈ search.found
  followed : ∀ node ∈ search.found, ∀ target ∈ next (key node),
    target ∈ search.stack ∨ target ∈ search.found

omit [DecidableEq Key] in
theorem searchInvariant_start (inside : start ⊆ nodes) :
    SearchInvariant key next nodes start { stack := start.reverse } where
  keys _ := by simp
  distinct := nodup_nil
  inside node member := by
    rcases member with waiting | found
    · exact inside (mem_reverse.mp waiting)
    · cases found
  reached node member := by
    rcases member with waiting | found
    · exact ⟨node, mem_reverse.mp waiting, .refl⟩
    · cases found
  started _ member := .inl (mem_reverse.mpr member)
  followed _ member := absurd member not_mem_nil

omit [DecidableEq Key] in
theorem SearchInvariant.skip (graph : FiniteGraph key next nodes) {node : Node} {stack : List Node}
    {search : Search Node Key} (top : search.stack = node :: stack)
    (known : key node ∈ search.seen)
    (holds : SearchInvariant key next nodes start search) :
    SearchInvariant key next nodes start { search with stack } := by
  obtain ⟨other, found, same⟩ := (holds.keys (key node)).mp known
  have own : node ∈ search.found := by
    have member := holds.inside node (.inl (top ▸ mem_cons_self))
    have otherMember := holds.inside other (.inr found)
    rwa [← inj_on_of_nodup_map graph.distinct otherMember member same]
  have still {target : Node} (member : target ∈ search.stack ∨ target ∈ search.found) :
      target ∈ stack ∨ target ∈ search.found := by
    rcases member with waiting | found
    · rw [top] at waiting
      rcases mem_cons.mp waiting with rfl | later
      · exact .inr own
      · exact .inl later
    · exact .inr found
  have earlier {target : Node} (member : target ∈ stack ∨ target ∈ search.found) :
      target ∈ search.stack ∨ target ∈ search.found := by
    rw [top]
    exact member.imp (mem_cons_of_mem node) id
  exact
    { keys := holds.keys, distinct := holds.distinct
      inside := fun target member => holds.inside target (earlier member)
      reached := fun target member => holds.reached target (earlier member)
      started := fun target member => still (holds.started target member)
      followed := fun source found target follows =>
        still (holds.followed source found target follows) }

variable {node : Node}

omit [DecidableEq Key] in
theorem SearchInvariant.find (graph : FiniteGraph key next nodes) {stack : List Node}
    {search : Search Node Key} (top : search.stack = node :: stack)
    (fresh : key node ∉ search.seen)
    (holds : SearchInvariant key next nodes start search) :
    SearchInvariant key next nodes start
      { stack := (next (key node)).reverse ++ stack, seen := key node :: search.seen
        found := search.found ++ [node] } := by
  have waiting : node ∈ search.stack ∨ node ∈ search.found := .inl (top ▸ mem_cons_self)
  obtain ⟨first, firstMember, path⟩ := holds.reached node waiting
  have still {target : Node} (member : target ∈ search.stack ∨ target ∈ search.found) :
      target ∈ (next (key node)).reverse ++ stack ∨ target ∈ search.found ++ [node] := by
    rcases member with waiting | found
    · rw [top] at waiting
      rcases mem_cons.mp waiting with rfl | later
      · exact .inr (mem_append_right _ mem_cons_self)
      · exact .inl (mem_append_right _ later)
    · exact .inr (mem_append_left _ found)
  -- A node of the new state was there before, or it follows the found one.
  have origin {target : Node} (member : target ∈ (next (key node)).reverse ++ stack ∨
        target ∈ search.found ++ [node]) :
      target ∈ next (key node) ∨ target ∈ search.stack ∨ target ∈ search.found := by
    rcases member with waits | found
    · rcases mem_append.mp waits with follows | later
      · exact .inl (mem_reverse.mp follows)
      · exact .inr (.inl (top ▸ mem_cons_of_mem node later))
    · rcases mem_append.mp found with earlier | same
      · exact .inr (.inr earlier)
      · rw [mem_singleton.mp same]
        exact .inr waiting
  constructor
  · intro seen
    rw [mem_cons, holds.keys]
    simp only [mem_append, mem_singleton]
    constructor
    · rintro (rfl | ⟨other, found, rfl⟩)
      · exact ⟨node, .inr rfl, rfl⟩
      · exact ⟨other, .inl found, rfl⟩
    · rintro ⟨other, found | rfl, rfl⟩
      · exact .inr ⟨other, found, rfl⟩
      · exact .inl rfl
  · rw [map_append, map_singleton, nodup_append]
    refine ⟨holds.distinct, nodup_singleton _, ?_⟩
    intro old oldMember new newMember same
    obtain ⟨other, found, rfl⟩ := mem_map.mp oldMember
    rw [mem_singleton.mp newMember] at same
    exact fresh ((holds.keys (key node)).mpr ⟨other, found, same⟩)
  · intro target member
    rcases origin member with follows | earlier
    · exact graph.closed (key node) follows
    · exact holds.inside target earlier
  · intro target member
    rcases origin member with follows | earlier
    · exact ⟨first, firstMember, path.tail follows⟩
    · exact holds.reached target earlier
  · exact fun target member => still (holds.started target member)
  · intro source found target follows
    rcases mem_append.mp found with earlier | same
    · exact still (holds.followed source earlier target follows)
    · rw [mem_singleton.mp same] at follows
      exact .inl (mem_append_left _ (mem_reverse.mpr follows))

theorem searchInvariant_step (graph : FiniteGraph key next nodes) (search later : Search Node Key)
    (holds : SearchInvariant key next nodes start search)
    (taken : searchStep key next search = some later) :
    SearchInvariant key next nodes start later := by
  unfold searchStep at taken
  split at taken
  · cases taken
  next node stack top =>
    split at taken
    next known =>
      cases taken
      exact holds.skip graph top known
    next fresh =>
      cases taken
      exact holds.find graph top fresh

def searchWork (key : Node → Key) (next : Key → List Node)
    (nodes : List Node) (search : Search Node Key) : Nat :=
  search.stack.length + ((nodes.filter fun node => key node ∉ search.seen).map
      fun node => (next (key node)).length).sum

theorem sum_filter_unseen (distinct : (nodes.map key).Nodup) (member : node ∈ nodes)
    {seen : List Key} (fresh : key node ∉ seen) (weight : Node → Nat) :
    ((nodes.filter fun other => key other ∉ seen).map weight).sum = weight node +
        ((nodes.filter fun other => key other ∉ key node :: seen).map weight).sum := by
  obtain ⟨front, back, rfl⟩ := append_of_mem member
  rw [map_append, map_cons] at distinct
  have other : ∀ target ∈ front ++ back, key target ≠ key node := by
    intro target targetMember same
    have outside := (nodup_middle.mp distinct).notMem
    rw [← map_append, ← same] at outside
    exact outside (mem_map_of_mem targetMember)
  have unchanged (part : List Node) (inside : part ⊆ front ++ back) :
      (part.filter fun target => key target ∉ key node :: seen) =
        part.filter fun target => key target ∉ seen := by
    apply filter_congr
    intro target targetMember
    simp [other target (inside targetMember)]
  rw [filter_append, filter_append, filter_cons_of_pos
    (by simpa using fresh), filter_cons_of_neg (by simp),
    unchanged front (subset_append_left _ _),
    unchanged back (subset_append_right _ _)]
  simp only [map_append, map_cons, sum_append, sum_cons]
  omega

theorem searchWork_step (graph : FiniteGraph key next nodes) (search later : Search Node Key)
    (holds : SearchInvariant key next nodes start search)
    (taken : searchStep key next search = some later) :
    searchWork key next nodes later < searchWork key next nodes search := by
  unfold searchStep at taken
  split at taken
  · cases taken
  next node stack top =>
    split at taken
    next known =>
      cases taken
      simp [searchWork, top]
    next fresh =>
      cases taken
      have member := holds.inside node (.inl (top ▸ mem_cons_self))
      have split := sum_filter_unseen graph.distinct member fresh
        fun node => (next (key node)).length
      simp only [searchWork, top, length_append, length_reverse, length_cons]
      omega

theorem search_stops (graph : FiniteGraph key next nodes) (inside : start ⊆ nodes) :
    searchStep key next (iterate (searchStep key next) (searchBound key next nodes start)
        { stack := start.reverse }) = none := by
  refine step_iterate_of_measure _ _ (searchInvariant_step graph)
    (searchWork_step graph) (searchInvariant_start inside) ?_
  simp [searchWork, searchBound]

theorem searchInvariant_searchFrom (graph : FiniteGraph key next nodes) (inside : start ⊆ nodes) :
    SearchInvariant key next nodes start
      (iterate (searchStep key next) (searchBound key next nodes start)
        { stack := start.reverse }) :=
  iterate_invariant _ (searchInvariant_step graph) _ (searchInvariant_start inside)

theorem nodup_searchFrom (graph : FiniteGraph key next nodes) (inside : start ⊆ nodes) :
    ((searchFrom key next nodes start).map key).Nodup :=
  (searchInvariant_searchFrom graph inside).distinct

theorem mem_searchFrom (graph : FiniteGraph key next nodes) (inside : start ⊆ nodes) :
    node ∈ searchFrom key next nodes start ↔ Reached key next start node := by
  have holds := searchInvariant_searchFrom graph inside
  have empty : (iterate (searchStep key next)
      (searchBound key next nodes start) { stack := start.reverse }).stack = [] := by
    have stopped := search_stops graph inside
    unfold searchStep at stopped
    split at stopped
    next none => exact none
    · split at stopped
      · cases stopped
      · cases stopped
  have found {target : Node} (member : target ∈ (iterate (searchStep key next)
        (searchBound key next nodes start) { stack := start.reverse }).stack ∨
          target ∈ searchFrom key next nodes start) :
      target ∈ searchFrom key next nodes start := by
    rcases member with waiting | found
    · rw [empty] at waiting
      cases waiting
    · exact found
  constructor
  · exact fun member => holds.reached node (.inr member)
  · rintro ⟨first, firstMember, path⟩
    induction path with
    | refl => exact found (holds.started first firstMember)
    | tail _ follows ih => exact found (holds.followed _ ih _ follows)

end

end Library

/-!
## Cycles that nothing leads into

In a finite graph every node comes from one that nothing leads to, or from a
cycle that nothing outside leads into. So entries reach every node exactly when
they reach those cycles.
-/

namespace Library

open Relation

universe u

section

variable {Node : Type u} (leads : Node → Node → Prop)

def IsSource (node : Node) : Prop := ∀ source, ¬ leads source node

/-- The node is on a cycle, and all that leads to the cycle is on it. -/
structure OnSourceCycle (node : Node) : Prop where
  returns : TransGen leads node node
  closed : ∀ source, ReflTransGen leads source node → ReflTransGen leads node source

def IsEntered (isEntry : Node → Prop) (node : Node) : Prop :=
  ∃ first, (isEntry first ∨ IsSource leads first) ∧ ReflTransGen leads first node

variable {leads}

/-- A node that does not lead back to one of its ancestors has more of them
than that ancestor. -/
theorem ancestors_ssubset {source node : Node} (above : ReflTransGen leads source node)
    (oneWay : ¬ ReflTransGen leads node source) :
    {first | ReflTransGen leads first source} ⊂
      {first | ReflTransGen leads first node} := by
  constructor
  · intro first reaches
    exact ReflTransGen.trans reaches above
  · intro all
    have back : ReflTransGen leads node source := all ReflTransGen.refl
    exact oneWay back

theorem exists_source_or_cycle (finite : ∀ node, {first | ReflTransGen leads first node}.Finite)
    (node : Node) :
    ∃ first, ReflTransGen leads first node ∧
      (IsSource leads first ∨ OnSourceCycle leads first) := by
  induction count : {first | ReflTransGen leads first node}.ncard
    using Nat.strong_induction_on generalizing node with
  | _ size ih =>
    by_cases closed : ∀ source, ReflTransGen leads source node → ReflTransGen leads node source
    · refine ⟨node, ReflTransGen.refl, ?_⟩
      by_cases isSource : IsSource leads node
      · exact .inl isSource
      · unfold IsSource at isSource
        push Not at isSource
        obtain ⟨source, leadsIn⟩ := isSource
        have back : ReflTransGen leads node source := closed source (ReflTransGen.single leadsIn)
        exact .inr ⟨TransGen.tail' back leadsIn, closed⟩
    · push Not at closed
      obtain ⟨source, above, oneWay⟩ := closed
      have fewer : {first | ReflTransGen leads first source}.ncard < size :=
        count ▸ Set.ncard_lt_ncard (ancestors_ssubset above oneWay) (finite node)
      obtain ⟨first, reaches, found⟩ := ih _ fewer source rfl
      exact ⟨first, reaches.trans above, found⟩

theorem all_entered_iff (finite : ∀ node, {first | ReflTransGen leads first node}.Finite)
    (isEntry : Node → Prop) :
    (∀ node, IsEntered leads isEntry node) ↔ ∀ node, OnSourceCycle leads node →
        ∃ first, isEntry first ∧ ReflTransGen leads first node := by
  constructor
  · intro entered node cycle
    obtain ⟨first, isEntry | isSource, reaches⟩ := entered node
    · exact ⟨first, isEntry, reaches⟩
    · have back : ReflTransGen leads node first := cycle.closed first reaches
      have around : TransGen leads first first := by
        rcases reflTransGen_iff_eq_or_transGen.mp reaches with rfl | strictly
        · exact cycle.returns
        · exact strictly.trans_left back
      obtain ⟨last, _, leadsIn⟩ := TransGen.tail'_iff.mp around
      exact absurd leadsIn (isSource last)
  · intro cycles node
    obtain ⟨first, reaches, isSource | cycle⟩ := exists_source_or_cycle finite node
    · exact ⟨first, .inr isSource, reaches⟩
    · obtain ⟨entry, isEntry, enters⟩ := cycles first cycle
      exact ⟨entry, .inl isEntry, enters.trans reaches⟩

end

end Library
