import AccruviaHarness.Promotion.ObjectivePaths

/-!
# The inventory of a repository

A skill is given the source files of the repository and the names that a Python
file defines. Paths are compared as texts; where they lead is another matter.
-/

namespace AccruviaHarness

namespace Skills

/-! ## Paths -/

def sourceExtensions : List String :=
  [".py", ".ts", ".tsx", ".js", ".jsx", ".vue", ".md", ".yml", ".yaml", ".toml", ".sql"]

def endsWith (path suffix : String) : Bool := suffix.toList.isSuffixOf path.toList

def startsWith (path start : String) : Bool := start.toList.isPrefixOf path.toList

def segments (path : String) : FilePath := (path.toList.splitOn '/').map String.ofList

def IsProper (path : String) : Prop := ∀ part ∈ segments path, part ≠ "" ∧ part ≠ "." ∧ part ≠ ".."

instance (path : String) : Decidable (IsProper path) :=
  inferInstanceAs (Decidable (∀ part ∈ segments path, _))

/-- A path as `git ls-files` lists it, with the blanks around it removed, that
has one of the extensions. -/
structure IsSourcePath (path : String) : Prop where
  proper : IsProper path
  stripped : pyStrip path = path
  extension : sourceExtensions.any (endsWith path) = true

variable (root : FilePath)

/-- `(root / path).resolve()`, without symbolic links. -/
def resolve (path : String) : FilePath :=
  (pathParts path).foldl
    (fun location part => if part = ".." then location.dropLast else location ++ [part])
    (if isAbsolute path then [] else root)

def locationOf (path : String) : Option FilePath :=
  if root <+: resolve root path then some ((resolve root path).drop root.length)
  else none

/-! ## Names in a Python file -/

structure PyIdentifier where
  text : String
  noDot : '.' ∉ text.toList
  deriving DecidableEq

/-- A statement with what it defines. A block is a compound statement other
than a definition, with the statements of all its branches. -/
inductive PyStatement where
  | classDef (name : PyIdentifier) (body : List PyStatement)
  | functionDef (name : PyIdentifier) (body : List PyStatement)
  | block (body : List PyStatement)
  | simple

namespace PyStatement

mutual

/-- The classes and functions that `ast.walk` comes by. -/
def walkNames : PyStatement → List PyIdentifier
  | .classDef name body => name :: walkAll body
  | .functionDef name body => name :: walkAll body
  | .block body => walkAll body
  | .simple => []

def walkAll : List PyStatement → List PyIdentifier
  | [] => []
  | statement :: rest => statement.walkNames ++ walkAll rest

end

end PyStatement

/-! ## `RepoInventoryProvider` -/

structure RepoInventory where
  root : FilePath
  files : List String
  listed : ∀ file ∈ files, IsSourcePath file
  /-- The syntax tree of a file; none where there is no file, or where it
  cannot be read or parsed. -/
  parse : String → Option (List PyStatement)

/-- `path.strip().lstrip("./")`. -/
def normalizedPath (path : String) : String :=
  String.ofList <| (pyStrip path).toList.dropWhile fun character =>
    character = '.' || character = '/'

namespace RepoInventory

variable (repo : RepoInventory) (path : String)

def fileExists : Bool := path ≠ "" && decide (normalizedPath path ∈ repo.files)

def symbolsInFile : List String :=
  if endsWith path ".py" then
    match repo.parse path with
    | some tree => (PyStatement.walkAll tree).map PyIdentifier.text
    | none => []
  else []

def symbolExists (path symbol : String) : Bool := decide (symbol ∈ repo.symbolsInFile path)

def implRootCandidates : List String :=
  let candidates :=
    (if repo.files.any fun file => startsWith file "src/accruvia_harness/" then
      ["src/accruvia_harness/"]
    else if repo.files.any fun file => startsWith file "src/" then ["src/"]
    else []) ++
      if repo.files.any fun file => startsWith file "frontend/src/" then ["frontend/src/"]
      else []
  if candidates = [] then ["src/"] else candidates

def testRootCandidates : List String :=
  let candidates :=
    (if repo.files.any fun file => startsWith file "tests/" then ["tests/"]
    else []) ++
      if repo.files.any fun file => startsWith file "frontend/tests/" then ["frontend/tests/"]
      else []
  if candidates = [] then ["tests/"] else candidates

def pathMatchesImplConvention : Bool := repo.implRootCandidates.any (startsWith path)

def pathMatchesTestConvention : Bool := repo.testRootCandidates.any (startsWith path)

end RepoInventory

end Skills

end AccruviaHarness
