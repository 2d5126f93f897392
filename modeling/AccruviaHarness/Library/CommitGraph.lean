import Mathlib.Data.List.Basic
import Mathlib.Data.Nat.Basic
import Mathlib.Logic.Relation

/-!
# Commit graphs

Commits with their trees, numbered in the order in which they were made.
-/

namespace Library

universe u

structure Commit (Tree : Type u) where
  parents : List Nat
  tree : Tree

structure CommitGraph (Tree : Type u) where
  commits : List (Commit Tree)
  parentsEarlier : ∀ (id : Nat) (commit : Commit Tree),
    commits[id]? = some commit → ∀ parent ∈ commit.parents, parent < id

namespace CommitGraph

variable {Tree : Type u} (graph : CommitGraph Tree) (id : Nat)

def find : Option (Commit Tree) := graph.commits[id]?

def parentsOf : List Nat :=
  match graph.find id with
  | some commit => commit.parents
  | none => []

def firstParent : Option Nat := (graph.parentsOf id).head?

def treeAt : Option Tree := (graph.find id).map Commit.tree

variable {graph : CommitGraph Tree} {id : Nat}

theorem parentsOf_lt {parent : Nat} (member : parent ∈ graph.parentsOf id) : parent < id := by
  unfold parentsOf find at member
  split at member
  next commit found => exact graph.parentsEarlier id commit found parent member
  · cases member

/-- The first commit is the second one or is reached from it over parents. -/
def Ancestor (graph : CommitGraph Tree) : Nat → Nat → Prop :=
  Relation.ReflTransGen fun parent id => parent ∈ graph.parentsOf id

def reaches (graph : CommitGraph Tree) (wanted : Nat) : Nat → Nat → Bool
  | 0, _ => false
  | generations + 1, id =>
    wanted = id || (graph.parentsOf id).any fun parent => graph.reaches wanted generations parent

/-- A commit's parents have smaller numbers, which bounds the search. -/
def isAncestor (graph : CommitGraph Tree) (wanted id : Nat) : Bool :=
  graph.reaches wanted (id + 1) id

theorem reaches_iff {wanted generations : Nat} (enough : id < generations) :
    graph.reaches wanted generations id = true ↔ graph.Ancestor wanted id := by
  induction generations generalizing id with
  | zero => omega
  | succ generations ih =>
    rw [reaches, Bool.or_eq_true, decide_eq_true_eq, List.any_eq_true]
    constructor
    · rintro (rfl | ⟨parent, member, reached⟩)
      · exact Relation.ReflTransGen.refl
      · have earlier := parentsOf_lt member
        have found : parent < generations := by omega
        exact ((ih found).mp reached).tail member
    · intro ancestor
      rcases Relation.ReflTransGen.cases_tail ancestor with
        same | ⟨parent, before, member⟩
      · exact .inl same.symm
      · have earlier := parentsOf_lt member
        have found : parent < generations := by omega
        exact .inr ⟨parent, member, (ih found).mpr before⟩

theorem isAncestor_iff {wanted : Nat} :
    graph.isAncestor wanted id = true ↔ graph.Ancestor wanted id :=
  reaches_iff (Nat.lt_succ_self id)

def add (graph : CommitGraph Tree) (commit : Commit Tree)
    (known : ∀ parent ∈ commit.parents, parent < graph.commits.length) :
    CommitGraph Tree where
  commits := graph.commits ++ [commit]
  parentsEarlier := by
    intro id other found parent member
    rcases Nat.lt_or_ge id graph.commits.length with old | new
    · rw [List.getElem?_append_left old] at found
      exact graph.parentsEarlier id other found parent member
    · rw [List.getElem?_append_right new] at found
      obtain ⟨_, here⟩ := List.getElem?_eq_some_iff.mp found
      rw [List.getElem_singleton] at here
      rw [← here] at member
      exact Nat.lt_of_lt_of_le (known parent member) new

def next (graph : CommitGraph Tree) : Nat := graph.commits.length

section

variable {graph : CommitGraph Tree} {commit : Commit Tree}
  (known : ∀ parent ∈ commit.parents, parent < graph.commits.length)

theorem find_add_next : (graph.add commit known).find graph.next = some commit := by
  unfold find add next
  rw [List.getElem?_append_right (Nat.le_refl _), Nat.sub_self]
  rfl

theorem find_add_of_lt (old : id < graph.next) : (graph.add commit known).find id = graph.find id :=
  List.getElem?_append_left old

theorem parentsOf_add_next : (graph.add commit known).parentsOf graph.next = commit.parents := by
  unfold parentsOf
  rw [find_add_next]

theorem treeAt_add_next : (graph.add commit known).treeAt graph.next = some commit.tree := by
  unfold treeAt
  rw [find_add_next]
  rfl

theorem treeAt_add_of_lt (old : id < graph.next) :
    (graph.add commit known).treeAt id = graph.treeAt id := by
  unfold treeAt
  rw [find_add_of_lt known old]

end

end CommitGraph

end Library
