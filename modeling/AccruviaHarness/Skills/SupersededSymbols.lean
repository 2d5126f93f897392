import AccruviaHarness.Skills.TrioTargets

/-!
# Superseded symbols

The inventory collects every name that is defined anywhere in a file. A name
has no dot, so that a method cannot be superseded under the name of its class.
-/

namespace AccruviaHarness

open List

namespace Skills

open PlanDraftTrioSkill

/-! ## Definitions of a file -/

namespace PyStatement

mutual

def topNames : PyStatement → List PyIdentifier
  | .classDef name _ => [name]
  | .functionDef name _ => [name]
  | .block body => topOf body
  | .simple => []

def topOf : List PyStatement → List PyIdentifier
  | [] => []
  | statement :: rest => statement.topNames ++ topOf rest

end

mutual

def nestedNames : PyStatement → List PyIdentifier
  | .classDef _ body => walkAll body
  | .functionDef _ body => walkAll body
  | .block body => nestedOf body
  | .simple => []

def nestedOf : List PyStatement → List PyIdentifier
  | [] => []
  | statement :: rest => statement.nestedNames ++ nestedOf rest

end

mutual

def classBodies (name : PyIdentifier) :
    PyStatement → List (List PyStatement)
  | .classDef other body => if other = name then [body] else []
  | .functionDef _ _ => []
  | .block body => classBodiesOf name body
  | .simple => []

def classBodiesOf (name : PyIdentifier) :
    List PyStatement → List (List PyStatement)
  | [] => []
  | statement :: rest => statement.classBodies name ++ classBodiesOf name rest

end

mutual

def topFunctions : PyStatement → List PyIdentifier
  | .classDef _ _ => []
  | .functionDef name _ => [name]
  | .block body => topFunctionsOf body
  | .simple => []

def topFunctionsOf : List PyStatement → List PyIdentifier
  | [] => []
  | statement :: rest => statement.topFunctions ++ topFunctionsOf rest

end

mutual

theorem mem_walkNames_iff {name : PyIdentifier} : ∀ statement : PyStatement,
    name ∈ statement.walkNames ↔ name ∈ statement.topNames ∨ name ∈ statement.nestedNames
  | .classDef other body => by
      rw [walkNames, topNames, nestedNames, mem_cons, mem_singleton]
  | .functionDef other body => by
      rw [walkNames, topNames, nestedNames, mem_cons, mem_singleton]
  | .block body => by rw [walkNames, topNames, nestedNames, mem_walkAll_iff body]
  | .simple => by rw [walkNames, topNames, nestedNames, or_self]

theorem mem_walkAll_iff {name : PyIdentifier} :
    ∀ statements : List PyStatement,
      name ∈ walkAll statements ↔ name ∈ topOf statements ∨ name ∈ nestedOf statements
  | [] => by rw [walkAll, topOf, nestedOf, or_self]
  | statement :: rest => by
      rw [walkAll, topOf, nestedOf, mem_append, mem_append,
        mem_append, mem_walkNames_iff statement, mem_walkAll_iff rest,
        or_or_or_comm]

end

end PyStatement

open PyStatement

variable (tree : List PyStatement) (symbol : String)

def DefinedAtTop : Prop := ∃ name ∈ topOf tree, name.text = symbol

def DefinedInside : Prop := ∃ name ∈ nestedOf tree, name.text = symbol

def DefinesMethod (className method : PyIdentifier) :
    Prop :=
  ∃ body ∈ classBodiesOf className tree, method ∈ topFunctionsOf body

/-! ## The names that the inventory knows -/

section

variable {repo : RepoInventory} {path : String} {tree : List PyStatement}

theorem symbolExists_iff
    (python : endsWith path ".py" = true) (parsed : repo.parse path = some tree)
    {symbol : String} :
    repo.symbolExists path symbol = true ↔
      DefinedAtTop tree symbol ∨ DefinedInside tree symbol := by
  unfold RepoInventory.symbolExists RepoInventory.symbolsInFile
  rw [if_pos python, parsed, decide_eq_true_eq, mem_map]
  simp only [mem_walkAll_iff, or_and_right, exists_or]
  rfl

theorem symbolExists_of_dot {symbol : String} (dot : '.' ∈ symbol.toList) :
    repo.symbolExists path symbol = false := by
  cases known : repo.symbolExists path symbol with
  | false => rfl
  | true =>
    unfold RepoInventory.symbolExists RepoInventory.symbolsInFile at known
    rw [decide_eq_true_eq] at known
    split at known
    · split at known
      next tree _ =>
        obtain ⟨name, _, rfl⟩ := mem_map.mp known
        exact absurd dot name.noDot
      · cases known
    · cases known

end

/-! ## Entries in accepted lists -/

section

variable {repo : RepoInventory}

def AcceptsEntry (repo : RepoInventory) (entry : String) : Prop :=
  ∃ parsed, Accepted repo parsed ∧ ∃ plan ∈ plansOf parsed,
    ∃ items, plan.get "supersedes" = .list items ∧ .str entry ∈ items

variable {entry path symbol : String}

theorem entryErrors_of_orphanErrors {plan : PyDict} {localId : PyValue} {items : List PyValue}
    (clean : orphanErrors repo localId plan = .ok [])
    (listed : plan.get "supersedes" = .list items)
    (member : .str entry ∈ items) :
    entryErrors repo localId entry = [] := by
  have nonempty : items ≠ [] := ne_nil_of_mem member
  have supersedes : supersedesOf localId plan = (items, []) := by
    unfold supersedesOf
    rw [listed]
    simp [PyValue.truthy, nonempty]
  unfold orphanErrors at clean
  rw [supersedes] at clean
  dsimp only at clean
  rw [if_pos nonempty] at clean
  obtain ⟨_, checked, clean⟩ := exists_of_bind_ok clean
  obtain ⟨row, rowMember, here⟩ := (mem_of_mapM_ok checked).2 _ member
  obtain ⟨_, _, clean⟩ := exists_of_bind_ok clean
  have noErrors := Except.ok.inj clean
  rw [nil_append, append_eq_nil_iff] at noErrors
  have empty := flatten_eq_nil_iff.mp noErrors.1 row rowMember
  rw [empty] at here
  exact Except.ok.inj here

theorem symbolExists_of_acceptsEntry (accepts : AcceptsEntry repo entry)
    (split : splitSymbol entry = some (path, symbol))
    (python : endsWith (pyStrip path) ".py" = true) :
    repo.symbolExists (pyStrip path) (pyStrip symbol) = true := by
  obtain ⟨_, accepted, plan, planMember, _, listed, member⟩ := accepts
  obtain ⟨_, _, clean⟩ := exists_cleanPlan (trioErrors_of_accepted accepted) plan planMember
  obtain ⟨_, orphans⟩ := clean.orphans
  have noErrors := entryErrors_of_orphanErrors orphans listed member
  unfold entryErrors at noErrors
  rw [split] at noErrors
  dsimp only at noErrors
  split_ifs at noErrors with missing unknown
  rw [not_and, not_not] at unknown
  exact unknown python

theorem dot_mem_pyStrip {text : String} (dot : '.' ∈ text.toList) :
    '.' ∈ (pyStrip text).toList := by
  obtain ⟨front, back, shape⟩ := append_of_mem dot
  have core : text.toList = front ++ (['.'] ++ back) := shape
  rw [pyStrip_of_core core (cons_ne_nil _ _) (by simp; decide) (by simp; decide)]
  simp

theorem not_acceptsEntry_of_dot (split : splitSymbol entry = some (path, symbol))
    (python : endsWith (pyStrip path) ".py" = true)
    (dot : '.' ∈ symbol.toList) :
    ¬ AcceptsEntry repo entry := by
  intro accepts
  have known := symbolExists_of_acceptsEntry accepts split python
  rw [symbolExists_of_dot (dot_mem_pyStrip dot)] at known
  cases known

/-- In a Python file the inventory is right about a symbol unless it is only
defined inside of another one, and the validation is right about a method
unless the class has it. -/
theorem symbols_of_file_iff {path : String} {tree : List PyStatement} (member : path ∈ repo.files)
    (python : endsWith path ".py" = true)
    (parsed : repo.parse path = some tree) :
    (∀ symbol, (repo.symbolExists path symbol = true ↔ DefinedAtTop tree symbol) ↔
          (DefinedInside tree symbol → DefinedAtTop tree symbol)) ∧
      ∀ entry className method, splitSymbol entry =
            some (path, className.text ++ "." ++ method.text) →
          ((AcceptsEntry repo entry ↔ DefinesMethod tree className method) ↔
            ¬ DefinesMethod tree className method) := by
  constructor
  · intro symbol
    rw [symbolExists_iff python parsed, or_iff_left_iff_imp]
  · intro entry className method split
    have dot : '.' ∈ (className.text ++ "." ++ method.text).toList := by simp
    have rejected : ¬ AcceptsEntry repo entry := by
      refine not_acceptsEntry_of_dot split ?_ dot
      rw [(repo.listed path member).stripped]
      exact python
    rw [iff_false_left rejected]

end

/-! ## A file with a class -/

def serviceName : PyIdentifier := ⟨"Service", by decide⟩

def runName : PyIdentifier := ⟨"run", by decide⟩

def serviceTree : List PyStatement :=
  [.simple, .classDef serviceName [.functionDef runName [.simple]]]

def serviceRepo : RepoInventory where
  root := ["work", "repo"]
  files := ["src/foo.py"]
  listed := soleModule.listed
  parse path := if path = "src/foo.py" then some serviceTree else none

theorem serviceRepo_symbols :
    (∀ symbol, (serviceRepo.symbolExists "src/foo.py" symbol = true ↔
            DefinedAtTop serviceTree symbol) ↔
          (DefinedInside serviceTree symbol → DefinedAtTop serviceTree symbol)) ∧
      ∀ entry className method, splitSymbol entry =
            some ("src/foo.py", className.text ++ "." ++ method.text) →
          ((AcceptsEntry serviceRepo entry ↔ DefinesMethod serviceTree className method) ↔
            ¬ DefinesMethod serviceTree className method) :=
  symbols_of_file_iff (mem_singleton.mpr rfl) (by decide) rfl

theorem method_not_superseded :
    ¬ ∀ (repo : RepoInventory) (path : String) (tree : List PyStatement),
      path ∈ repo.files → endsWith path ".py" = true → repo.parse path = some tree →
          (∀ symbol, repo.symbolExists path symbol = true ↔ DefinedAtTop tree symbol) ∧
            ∀ entry className method, splitSymbol entry =
                  some (path, className.text ++ "." ++ method.text) →
                (AcceptsEntry repo entry ↔ DefinesMethod tree className method) := by
  intro right
  have split : splitSymbol "src/foo.py::Service.run" =
      some ("src/foo.py", serviceName.text ++ "." ++ runName.text) := by
    decide +kernel
  have defined : DefinesMethod serviceTree serviceName runName :=
    ⟨[.functionDef runName [.simple]], mem_singleton.mpr rfl, mem_singleton.mpr rfl⟩
  have accepts := ((right serviceRepo "src/foo.py" serviceTree
    (mem_singleton.mpr rfl) (by decide) rfl).2 _ _ _ split).mpr defined
  exact not_acceptsEntry_of_dot split (by decide) (by decide) accepts

end Skills

end AccruviaHarness
