import AccruviaHarness.Library.KeyedTable
import Mathlib.Data.List.Induction
import Mathlib.Logic.Relation

/-!
# References into a table

The rows of one table name rows of another by their key. A row either has to
name one that agrees with it, or it names none.
-/

namespace Library

universe u v w

variable {Parent : Type u} {Key : Type v} {Child : Type w}
  {key : Parent → Key}

/-- How children name their parents: which of them have to, what a child and
its parent agree on, and which parents are private. -/
structure Referencing (key : Parent → Key) (Child : Type w) where
  link : Child → Option Key
  bound : Child → Prop
  agrees : Child → Parent → Prop
  isPrivate : Parent → Prop

structure Referencing.Holds (referencing : Referencing key Child)
    (parents : KeyedTable key) (children : List Child) : Prop where
  linked : ∀ child ∈ children, referencing.bound child →
    ∃ parent ∈ parents.rows, referencing.link child = some (key parent) ∧
      referencing.agrees child parent
  unlinked : ∀ child ∈ children, ¬ referencing.bound child → referencing.link child = none
  owned : ∀ parent ∈ parents.rows, referencing.isPrivate parent →
    ∃! child, child ∈ children ∧ referencing.link child = some (key parent)

namespace Referencing.Holds

variable {referencing : Referencing key Child} {parents : KeyedTable key}
  {children : List Child}

theorem empty (referencing : Referencing key Child) :
    referencing.Holds (.empty key) [] where
  linked _ member := absurd member List.not_mem_nil
  unlinked _ member := absurd member List.not_mem_nil
  owned _ member := absurd member List.not_mem_nil

theorem exists_of_link (holds : referencing.Holds parents children) {child : Child}
    (member : child ∈ children) {named : Key}
    (link : referencing.link child = some named) :
    ∃ parent ∈ parents.rows, key parent = named := by
  by_cases bound : referencing.bound child
  · obtain ⟨parent, stored, same, _⟩ := holds.linked child member bound
    rw [link] at same
    exact ⟨parent, stored, (Option.some.inj same).symm⟩
  · rw [holds.unlinked child member bound] at link
    cases link

theorem addChild (holds : referencing.Holds parents children) {added : Child}
    (linked : referencing.bound added →
      ∃ parent ∈ parents.rows, referencing.link added = some (key parent) ∧
        referencing.agrees added parent)
    (unlinked : ¬ referencing.bound added → referencing.link added = none)
    (shared : ∀ parent ∈ parents.rows, referencing.isPrivate parent →
      referencing.link added ≠ some (key parent)) :
    referencing.Holds parents (children ++ [added]) where
  linked child member := by
    rcases List.mem_append.mp member with earlier | new
    · exact holds.linked child earlier
    · cases List.mem_singleton.mp new
      exact linked
  unlinked child member := by
    rcases List.mem_append.mp member with earlier | new
    · exact holds.unlinked child earlier
    · cases List.mem_singleton.mp new
      exact unlinked
  owned parent stored own := by
    obtain ⟨owner, ⟨member, link⟩, only⟩ := holds.owned parent stored own
    refine ⟨owner, ⟨List.mem_append_left _ member, link⟩, ?_⟩
    rintro child ⟨childMember, childLink⟩
    rcases List.mem_append.mp childMember with earlier | new
    · exact only child ⟨earlier, childLink⟩
    · cases List.mem_singleton.mp new
      exact absurd childLink (shared parent stored own)

section

variable [DecidableEq Key] {inserted : KeyedTable key} {added : Parent}

theorem unnamed_of_insert (holds : referencing.Holds parents children)
    (success : parents.insert? added = some inserted) {child : Child}
    (member : child ∈ children) :
    referencing.link child ≠ some (key added) := by
  intro link
  obtain ⟨parent, stored, same⟩ := holds.exists_of_link member link
  have used := parents.insert?_eq_none_iff.mpr ⟨parent, stored, same⟩
  rw [success] at used
  cases used

theorem addParent (holds : referencing.Holds parents children)
    (success : parents.insert? added = some inserted)
    (shared : ¬ referencing.isPrivate added) :
    referencing.Holds inserted children where
  linked child member bound := by
    obtain ⟨parent, stored, agreed⟩ := holds.linked child member bound
    refine ⟨parent, ?_, agreed⟩
    rw [KeyedTable.rows_of_insert? success]
    exact List.mem_append_left _ stored
  unlinked := holds.unlinked
  owned parent stored own := by
    rw [KeyedTable.rows_of_insert? success] at stored
    rcases List.mem_append.mp stored with earlier | new
    · exact holds.owned parent earlier own
    · cases List.mem_singleton.mp new
      exact absurd own shared

theorem addPair (holds : referencing.Holds parents children)
    (success : parents.insert? added = some inserted) {child : Child}
    (bound : referencing.bound child)
    (link : referencing.link child = some (key added))
    (agrees : referencing.agrees child added) :
    referencing.Holds inserted (children ++ [child]) := by
  have rows := KeyedTable.rows_of_insert? success
  have addedStored : added ∈ inserted.rows := by
    rw [rows]
    exact List.mem_append_right _ (List.mem_singleton_self added)
  constructor
  case linked =>
    intro other member otherBound
    rcases List.mem_append.mp member with earlier | new
    · obtain ⟨parent, stored, agreed⟩ := holds.linked other earlier otherBound
      refine ⟨parent, ?_, agreed⟩
      rw [rows]
      exact List.mem_append_left _ stored
    · cases List.mem_singleton.mp new
      exact ⟨added, addedStored, link, agrees⟩
  case unlinked =>
    intro other member unbound
    rcases List.mem_append.mp member with earlier | new
    · exact holds.unlinked other earlier unbound
    · cases List.mem_singleton.mp new
      exact absurd bound unbound
  case owned =>
    intro parent stored own
    rw [rows] at stored
    rcases List.mem_append.mp stored with earlier | new
    · obtain ⟨owner, ⟨member, named⟩, only⟩ := holds.owned parent earlier own
      refine ⟨owner, ⟨List.mem_append_left _ member, named⟩, ?_⟩
      rintro other ⟨otherMember, otherNamed⟩
      rcases List.mem_append.mp otherMember with before | after
      · exact only other ⟨before, otherNamed⟩
      · cases List.mem_singleton.mp after
        rw [link] at otherNamed
        have used := parents.insert?_eq_none_iff.mpr
          ⟨parent, earlier, (Option.some.inj otherNamed).symm⟩
        rw [success] at used
        cases used
    · cases List.mem_singleton.mp new
      refine ⟨child, ⟨List.mem_append_right _ (List.mem_singleton_self child), link⟩, ?_⟩
      rintro _ ⟨otherMember, otherNamed⟩
      rcases List.mem_append.mp otherMember with before | after
      · exact absurd otherNamed (holds.unnamed_of_insert success before)
      · exact List.mem_singleton.mp after

end

end Referencing.Holds

end Library

/-!
## Items that refer back

A list in which each item only refers to items before it. Its references have
no cycle, and whatever leads along them from the items without references
reaches every item.
-/

namespace Library

universe u v

section

variable {Item : Type u} {refersTo : Item → Item → Prop}

def RefersBack (refersTo : Item → Item → Prop) (items : List Item) : Prop :=
  ∀ front item back, items = front ++ item :: back → ∀ other, refersTo item other → other ∈ front

variable {items : List Item}

theorem idxOf_lt_of_refersTo [DecidableEq Item] (distinct : items.Nodup)
    (refersBack : RefersBack refersTo items) {item other : Item}
    (member : item ∈ items) (refers : refersTo item other) :
    items.idxOf other < items.idxOf item := by
  obtain ⟨front, back, rfl⟩ := List.append_of_mem member
  have earlier : other ∈ front := refersBack front item back rfl other refers
  have new : item ∉ front := by
    intro repeated
    exact (List.nodup_append.mp distinct).2.2 item repeated item List.mem_cons_self rfl
  rw [List.idxOf_append_of_mem earlier, List.idxOf_append_of_notMem new,
    List.idxOf_cons_self, Nat.add_zero]
  exact List.idxOf_lt_length_iff.mpr earlier

theorem not_transGen_of_refersBack [DecidableEq Item] (distinct : items.Nodup)
    (refersBack : RefersBack refersTo items)
    (listed : ∀ item other, refersTo item other → item ∈ items)
    (item : Item) :
    ¬ Relation.TransGen refersTo item item := by
  have decreasing : ∀ {first last : Item}, Relation.TransGen refersTo first last →
        items.idxOf last < items.idxOf first := by
    intro first last path
    induction path with
    | single refers => exact idxOf_lt_of_refersTo distinct refersBack (listed _ _ refers) refers
    | tail _ refers ih =>
      have step := idxOf_lt_of_refersTo distinct refersBack (listed _ _ refers) refers
      exact Nat.lt_trans step ih
  intro cycle
  exact Nat.lt_irrefl _ (decreasing cycle)

theorem reflTransGen_of_refersBack {Node : Type v} {edge : Node → Node → Prop} {root : Node}
    {node : Item → Node} (refersBack : RefersBack refersTo items)
    (fromRoot : ∀ item ∈ items, (∀ other, ¬ refersTo item other) → edge root (node item))
    (fromReference : ∀ item ∈ items, ∀ other, refersTo item other → edge (node other) (node item)) :
    ∀ item ∈ items, Relation.ReflTransGen edge root (node item) := by
  have prefixes : ∀ front back, items = front ++ back →
      ∀ item ∈ front, Relation.ReflTransGen edge root (node item) := by
    intro front
    induction front using List.reverseRecOn with
    | nil => exact fun _ _ _ impossible => absurd impossible List.not_mem_nil
    | append_singleton front last ih =>
      intro back split item member
      rw [List.append_assoc, List.singleton_append] at split
      rcases List.mem_append.mp member with earlier | here
      · exact ih (last :: back) split item earlier
      · obtain rfl := List.mem_singleton.mp here
        have listed : item ∈ items := by
          rw [split]
          exact List.mem_append_right front List.mem_cons_self
        by_cases referring : ∃ other, refersTo item other
        · obtain ⟨other, refers⟩ := referring
          have earlier := refersBack front item back split other refers
          exact (ih (item :: back) split other
            earlier).tail (fromReference item listed other refers)
        · exact .single (fromRoot item listed (not_exists.mp referring))
  intro item member
  exact prefixes items [] (List.append_nil items).symm item member

end

end Library
