import AccruviaHarness.Library.KeyedTable
import AccruviaHarness.Python.Value

/-!
# Schema migrations

Every process brings the database to its release's schema before it uses it.
What a statement does to the tables is SQLite's, and so a parameter, as are the
writes of the processes between two calls. A call runs under the write lock of
`BEGIN IMMEDIATE`, so calls do not overlap.
-/

namespace AccruviaHarness

open Library List

structure Migration where
  version : Int
  name : String
  sql : String
  deriving DecidableEq

/-- A row of `schema_migrations`, without the time of its insertion. -/
structure AppliedMigration where
  version : Int
  name : String
  deriving DecidableEq

inductive SqliteError where
  | operationalError (message : String)
  | integrityError (message : String)
  deriving DecidableEq

namespace Migration

/-- `statement.strip()` of the pieces of `sql.split(";")`, where any is left. -/
def statements (migration : Migration) : List String :=
  ((migration.sql.toList.splitOn ';').map fun piece => pyStrip (String.ofList piece)).filter
    (· ≠ "")

def row (migration : Migration) : AppliedMigration :=
  { version := migration.version, name := migration.name }

end Migration

structure Database (Content : Type) where
  content : Content
  /-- The table is missing until a call has committed. -/
  schemaMigrations : Option (KeyedTable AppliedMigration.version)

/-- What a call has done inside its transaction. -/
structure MigrationProgress (Content : Type) where
  content : Content
  table : KeyedTable AppliedMigration.version
  newlyApplied : List Int

inductive DatabaseEvent (Write : Type) where
  /-- A process whose release ships these migrations calls `apply_migrations`. -/
  | opens (shipped : List Migration)
  /-- Such a process dies before its commit, or waits too long for the lock. -/
  | interrupted (shipped : List Migration)
  | write (change : Write)

namespace Database

variable {Content : Type} (database : Database Content)

def appliedMigrations : KeyedTable AppliedMigration.version :=
  database.schemaMigrations.getD (KeyedTable.empty _)

def appliedVersions : List Int := database.appliedMigrations.rows.map AppliedMigration.version

/-- The shipped migrations that no row names. -/
def pending (shipped : List Migration) : List Migration :=
  shipped.filter fun migration => migration.version ∉ database.appliedVersions

def schemaVersion : Except SqliteError Int :=
  match database.schemaMigrations with
  | none => .error (.operationalError "no such table: schema_migrations")
  | some table => .ok ((table.rows.map AppliedMigration.version).max?.getD 0)

end Database

/-- `none` where `max` raises: a release without migrations. -/
def expectedSchemaVersion (shipped : List Migration) : Option Int :=
  (shipped.map Migration.version).max?

namespace Migrations

variable {Content Write : Type}

section

variable (execute : String → Content → Except SqliteError Content)

def runStatements (content : Content) (migration : Migration) : Except SqliteError Content :=
  migration.statements.foldlM (fun current statement => execute statement current) content

def applyMigration (progress : MigrationProgress Content) (migration : Migration) :
    Except SqliteError (MigrationProgress Content) := do
  let content ← runStatements execute progress.content migration
  match progress.table.insert? migration.row with
  | none => throw (.integrityError "UNIQUE constraint failed: schema_migrations.version")
  | some table =>
    return {
      content, table
      newlyApplied := progress.newlyApplied ++ [migration.version] }

/-- The loop skips the versions that it has read before it starts. An error
rolls the whole transaction back. -/
def applyMigrations (shipped : List Migration) (database : Database Content) :
    Except SqliteError (List Int) × Database Content :=
  match (database.pending shipped).foldlM (applyMigration execute)
      { content := database.content, table := database.appliedMigrations, newlyApplied := [] } with
  | .error error => (.error error, database)
  | .ok progress =>
    (.ok progress.newlyApplied,
      { content := progress.content, schemaMigrations := some progress.table })

variable (write : Write → Content → Content)

def perform (database : Database Content) : DatabaseEvent Write → Database Content
  | .opens shipped => (applyMigrations execute shipped database).2
  | .interrupted _ => database
  | .write change => { database with content := write change database.content }

/-- The database after these events, the first of which finds it empty. -/
def history (start : Content) (events : List (DatabaseEvent Write)) : Database Content :=
  events.foldl (perform execute write) { content := start, schemaMigrations := none }

/-- The content comes from `start` by these migrations, each run once and in
this order, with writes before, between and after them. -/
inductive Evolves (start : Content) : List Migration → Content → Prop where
  | start : Evolves start [] start
  | write {applied : List Migration} {content : Content} (change : Write)
      (earlier : Evolves start applied content) : Evolves start applied (write change content)
  | migrate {applied : List Migration} {content next : Content} {migration : Migration}
      (earlier : Evolves start applied content)
      (ran : runStatements execute content migration = .ok next) :
      Evolves start (applied ++ [migration]) next

/-- The rows of the database stand for these migrations, which the events have
brought and which have made its content. -/
structure Recorded (start : Content) (events : List (DatabaseEvent Write))
    (database : Database Content) (migrations : List Migration) : Prop where
  rows : database.appliedMigrations.rows = migrations.map Migration.row
  evolves : Evolves execute write start migrations database.content
  shipped : ∀ migration ∈ migrations, ∃ shipped, .opens shipped ∈ events ∧ migration ∈ shipped

/-- What the transaction has gained by running these migrations. -/
structure Gains (start : Content) (before after : MigrationProgress Content)
    (migrations : List Migration) : Prop where
  rows : after.table.rows = before.table.rows ++ migrations.map Migration.row
  newlyApplied : after.newlyApplied = before.newlyApplied ++ migrations.map Migration.version
  evolves : ∀ earlier, Evolves execute write start earlier before.content →
    Evolves execute write start (earlier ++ migrations) after.content

end

section

variable {execute : String → Content → Except SqliteError Content}
  {write : Write → Content → Content} {start : Content} {events : List (DatabaseEvent Write)}
  {progress after : MigrationProgress Content} {shipped migrations : List Migration}
  {database : Database Content}

theorem gains_applyMigration {migration : Migration}
    (applies : applyMigration execute progress migration = .ok after) :
    Gains execute write start progress after [migration] := by
  unfold applyMigration at applies
  obtain ⟨content, ran, applies⟩ := exists_of_bind_ok applies
  cases inserted : progress.table.insert? migration.row with
  | none =>
    rw [inserted] at applies
    cases applies
  | some table =>
    rw [inserted] at applies
    cases applies
    exact {
      rows := KeyedTable.rows_of_insert? inserted, newlyApplied := rfl
      evolves := fun _ evolves => evolves.migrate ran }

theorem gains_loop (finished : migrations.foldlM (applyMigration execute) progress = .ok after) :
    Gains execute write start progress after migrations := by
  induction migrations generalizing progress with
  | nil =>
    cases finished
    exact {
      rows := (append_nil _).symm, newlyApplied := (append_nil _).symm
      evolves := fun earlier evolves => (append_nil earlier).symm ▸ evolves }
  | cons migration rest ih =>
    rw [foldlM_cons] at finished
    obtain ⟨middle, applies, finished⟩ := exists_of_bind_ok finished
    have first : Gains execute write start progress middle [migration] :=
      gains_applyMigration applies
    have later := ih finished
    refine { rows := ?_, newlyApplied := ?_, evolves := fun earlier evolves => ?_ }
    · rw [later.rows, first.rows, append_assoc]
      rfl
    · rw [later.newlyApplied, first.newlyApplied, append_assoc]
      rfl
    · rw [append_cons]
      exact later.evolves _ (first.evolves earlier evolves)

/-- A call either changes nothing or runs the migrations that no row names. -/
theorem applyMigrations_cases (execute : String → Content → Except SqliteError Content)
    (write : Write → Content → Content) (start : Content) (shipped : List Migration)
    (database : Database Content) :
    (∃ error, applyMigrations execute shipped database = (.error error, database)) ∨
      ∃ progress : MigrationProgress Content,
        applyMigrations execute shipped database = (.ok progress.newlyApplied,
          { content := progress.content, schemaMigrations := some progress.table }) ∧
        Gains execute write start
          { content := database.content, table := database.appliedMigrations, newlyApplied := [] }
          progress (database.pending shipped) := by
  unfold applyMigrations
  cases finished : (database.pending shipped).foldlM (applyMigration execute)
      { content := database.content, table := database.appliedMigrations, newlyApplied := [] } with
  | error error => exact .inl ⟨error, rfl⟩
  | ok progress => exact .inr ⟨progress, rfl, gains_loop finished⟩

theorem Recorded.perform (recorded : Recorded execute write start events database migrations)
    (event : DatabaseEvent Write) :
    ∃ more, Recorded execute write start (events ++ [event]) (perform execute write database event)
      (migrations ++ more) := by
  have earlier : ∀ migration ∈ migrations,
      ∃ shipped, .opens shipped ∈ events ++ [event] ∧ migration ∈ shipped := by
    intro migration member
    obtain ⟨shipped, called, inside⟩ := recorded.shipped migration member
    exact ⟨shipped, mem_append_left _ called, inside⟩
  have unchanged : ∀ content, Evolves execute write start migrations content →
      ∃ more, Recorded execute write start (events ++ [event]) { database with content }
        (migrations ++ more) := by
    intro content evolves
    refine ⟨[], ?_⟩
    rw [append_nil]
    exact { rows := recorded.rows, evolves, shipped := earlier }
  cases event with
  | interrupted _ => exact unchanged database.content recorded.evolves
  | write change => exact unchanged _ (recorded.evolves.write change)
  | opens shipped =>
    obtain ⟨error, failed⟩ | ⟨progress, ended, gains⟩ :=
      applyMigrations_cases execute write start shipped database
    · rw [Migrations.perform, failed]
      exact unchanged database.content recorded.evolves
    · rw [Migrations.perform, ended]
      refine ⟨_, { rows := ?_, evolves := gains.evolves _ recorded.evolves, shipped := ?_ }⟩
      · rw [map_append, ← recorded.rows]
        exact gains.rows
      · intro migration member
        rcases mem_append.mp member with old | new
        · exact earlier migration old
        · exact ⟨shipped, mem_append_right _ (mem_singleton.mpr rfl), (mem_filter.mp new).1⟩

theorem history_append (before after : List (DatabaseEvent Write)) :
    history execute write start (before ++ after) =
      after.foldl (perform execute write) (history execute write start before) :=
  foldl_append

theorem exists_recorded (execute : String → Content → Except SqliteError Content)
    (write : Write → Content → Content) (start : Content) (events : List (DatabaseEvent Write)) :
    ∃ migrations,
      Recorded execute write start events (history execute write start events) migrations := by
  induction events using reverseRecOn with
  | nil => exact ⟨[], rfl, .start, nofun⟩
  | append_singleton earlier event ih =>
    obtain ⟨migrations, recorded⟩ := ih
    obtain ⟨more, recorded⟩ := recorded.perform event
    rw [history_append]
    exact ⟨_, recorded⟩

/-- The rows name every shipped migration. -/
def Settled (shipped : List Migration) (database : Database Content) : Prop :=
  ∃ table, database.schemaMigrations = some table ∧
    ∀ migration ∈ shipped, migration.version ∈ table.rows.map AppliedMigration.version

theorem versions_of_returned {versions : List Int}
    (returned : (applyMigrations execute shipped database).1 = .ok versions) :
    versions = (database.pending shipped).map Migration.version := by
  obtain ⟨error, failed⟩ | ⟨progress, ended, gains⟩ :=
    applyMigrations_cases execute (fun (_ : Unit) => id) database.content shipped database
  · rw [failed] at returned
    cases returned
  · rw [ended] at returned
    rw [← Except.ok.inj returned, gains.newlyApplied, nil_append]

theorem settled_of_returned {versions : List Int}
    (returned : (applyMigrations execute shipped database).1 = .ok versions) :
    Settled shipped (applyMigrations execute shipped database).2 := by
  obtain ⟨error, failed⟩ | ⟨progress, ended, gains⟩ :=
    applyMigrations_cases execute (fun (_ : Unit) => id) database.content shipped database
  · rw [failed] at returned
    cases returned
  · rw [ended]
    refine ⟨progress.table, rfl, fun migration member => ?_⟩
    rw [gains.rows, map_append, mem_append]
    by_cases known : migration.version ∈ database.appliedVersions
    · exact .inl known
    · have added : migration ∈ database.pending shipped :=
        mem_filter.mpr ⟨member, by simpa using known⟩
      exact .inr (mem_map_of_mem (mem_map_of_mem added))

theorem Settled.perform (settled : Settled shipped database) (event : DatabaseEvent Write) :
    Settled shipped (perform execute write database event) := by
  obtain ⟨table, present, named⟩ := settled
  cases event with
  | interrupted _ | write _ => exact ⟨table, present, named⟩
  | opens other =>
    obtain ⟨error, failed⟩ | ⟨progress, ended, gains⟩ :=
      applyMigrations_cases execute write database.content other database
    · rw [Migrations.perform, failed]
      exact ⟨table, present, named⟩
    · rw [Migrations.perform, ended]
      refine ⟨progress.table, rfl, fun migration member => ?_⟩
      have here : database.appliedMigrations = table := by
        rw [Database.appliedMigrations, present, Option.getD_some]
      rw [gains.rows, here, map_append]
      exact mem_append_left _ (named migration member)

theorem Settled.foldl (settled : Settled shipped database) :
    Settled shipped (events.foldl (Migrations.perform execute write) database) := by
  induction events generalizing database with
  | nil => exact settled
  | cons event _ ih => exact ih (settled.perform event)

theorem applyMigrations_of_settled (settled : Settled shipped database) :
    applyMigrations execute shipped database = (.ok [], database) := by
  obtain ⟨table, present, named⟩ := settled
  have here : database.appliedMigrations = table := by
    rw [Database.appliedMigrations, present, Option.getD_some]
  have nothing : database.pending shipped = [] := by
    refine filter_eq_nil_iff.mpr fun migration member => ?_
    rw [Database.appliedVersions, here]
    simpa using named migration member
  rw [applyMigrations, nothing, here, foldlM_nil]
  exact congrArg (fun table => (_, ({ content := database.content, schemaMigrations := table } :
    Database Content))) present.symm

/-- Whatever the processes do, each row of `schema_migrations` stands for one
migration that has been run to its end exactly once, in the order of the rows. -/
theorem migrations_run_once (execute : String → Content → Except SqliteError Content)
    (write : Write → Content → Content) (start : Content) (events : List (DatabaseEvent Write)) :
    let database := history execute write start events
    ∃ migrations : List Migration,
      database.appliedMigrations.rows = migrations.map Migration.row ∧
      (migrations.map Migration.version).Nodup ∧
      (∀ migration ∈ migrations,
        ∃ shipped, .opens shipped ∈ events ∧ migration ∈ shipped) ∧
      Evolves execute write start migrations database.content := by
  intro database
  obtain ⟨migrations, recorded⟩ := exists_recorded execute write start events
  refine ⟨migrations, recorded.rows, ?_, recorded.shipped, recorded.evolves⟩
  have distinct := database.appliedMigrations.keysNodup
  rw [recorded.rows, map_map] at distinct
  exact distinct

/-- Once a call has returned, no later event undoes it: a call of the same
release finds nothing to do, and the version of the schema has reached the one
that the release expects. It goes past it only for a release that ships more. -/
theorem schema_stays_current {versions : List Int} {expected : Int}
    (before after : List (DatabaseEvent Write))
    (expects : expectedSchemaVersion shipped = some expected)
    (returned : (applyMigrations execute shipped (history execute write start before)).1 =
      .ok versions) :
    let events := before ++ .opens shipped :: after
    let database := history execute write start events
    versions = ((history execute write start before).pending shipped).map Migration.version ∧
      applyMigrations execute shipped database = (.ok [], database) ∧
      ∃ version, database.schemaVersion = .ok version ∧ expected ≤ version ∧
        ((∀ other, .opens other ∈ events → ∀ migration ∈ other, migration.version ≤ expected) →
          version = expected) := by
  intro events database
  have settled : Settled shipped database := by
    show Settled shipped (history execute write start (before ++ .opens shipped :: after))
    rw [history_append]
    exact (settled_of_returned returned).foldl
  refine ⟨versions_of_returned returned, applyMigrations_of_settled settled, ?_⟩
  obtain ⟨table, present, named⟩ := settled
  obtain ⟨member, largest⟩ := max?_eq_some_iff.mp expects
  obtain ⟨migration, inside, own⟩ := mem_map.mp member
  have reached : expected ∈ table.rows.map AppliedMigration.version := own ▸ named migration inside
  obtain ⟨version, greatest⟩ := Option.isSome_iff_exists.mp (isSome_max?_of_mem reached)
  obtain ⟨found, bound⟩ := max?_eq_some_iff.mp greatest
  refine ⟨version, ?_, bound expected reached, fun limited => ?_⟩
  · rw [Database.schemaVersion, present]
    dsimp only
    rw [greatest, Option.getD_some]
  · obtain ⟨migrations, recorded⟩ := exists_recorded execute write start events
    have rows : table.rows = migrations.map Migration.row := by
      rw [← recorded.rows, Database.appliedMigrations, present, Option.getD_some]
    rw [rows, map_map] at found
    obtain ⟨source, brought, rfl⟩ := mem_map.mp found
    obtain ⟨other, called, ships⟩ := recorded.shipped source brought
    exact Int.le_antisymm (limited other called source ships) (bound expected reached)

def coreTables : Migration :=
  { version := 1, name := "core_tables", sql := "CREATE TABLE projects (id); CREATE TABLE runs (id);" }

/-- A database that only counts its statements. -/
def countStatement (_ : String) (count : Nat) : Except SqliteError Nat := .ok (count + 1)

def failedOpening : List (DatabaseEvent Nat) := [.interrupted [coreTables]]

def laterEvents : List (DatabaseEvent Nat) := [.write 5, .opens [coreTables]]

theorem core_tables_stay_current :
    let database := history countStatement Nat.add 0
      (failedOpening ++ .opens [coreTables] :: laterEvents)
    applyMigrations countStatement [coreTables] database = (.ok [], database) ∧
      ∃ version, database.schemaVersion = .ok version ∧ 1 ≤ version := by
  have returned : (applyMigrations countStatement [coreTables]
      (history countStatement Nat.add 0 failedOpening)).1 = .ok [1] := by decide +kernel
  obtain ⟨_, unchanged, version, reads, reached, _⟩ :=
    schema_stays_current failedOpening laterEvents rfl returned
  exact ⟨unchanged, version, reads, reached⟩

end

end Migrations

end AccruviaHarness
