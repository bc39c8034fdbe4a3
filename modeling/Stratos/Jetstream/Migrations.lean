import Stratos.Jetstream.Datastore
import Stratos.Jetstream.MigrationSteps
import Stratos.Lib.Interleaving

/-!
# Migrations of the database

`ApplyMigrations` applies the registered migrations that are newer than the version of the
database, in the order of their versions. For each it begins a transaction, sends the statements of
the migration and inserts its version as the transaction ends. At the first error it returns and
leaves the transaction as it is, and another call goes on from there. `WaitForMigrations` holds an
instance back until the database has the version of the last migration.

A transaction keeps what its statements do from the tables until it ends, except on MySQL: a
statement there that defines a table, a column or an index ends the transaction, and what it and
the statements around it do is in the tables at once. A migration that fails can leave its
beginning behind.

`migrated_of_run` is about any number of calls and waiting instances, any statement of which may
fail, or be executed and its reply lost. Where the calls do not overlap, `goose_db_version` has the
first `k` migrations, each once, and the tables are those of these migrations, with beginnings that
failed calls have left before each of them (`Applied`) : none but on MySQL (`Applied.migrateAll`).
-/

open Lib

namespace Stratos.Migrator

/-! ## The database -/

/-- A database server whose tables are a `σ` : its driver, and what a statement does. -/
structure DBServer (σ : Type) where
  driver : DBDriver
  exec : MigrationQuery → σ → Except GoError σ

section Server

variable {σ : Type}

/-- The statement ends the transaction it is in. -/
def DBServer.commits (D : DBServer σ) : MigrationQuery → Bool
  | .ddl _ => D.driver = .mysql
  | .dml _ => false

/-- Statements, one after the other. -/
def DBServer.execAll (D : DBServer σ) (queries : List MigrationQuery) (tables : σ) :
    Except GoError σ :=
  queries.foldlM (fun tables query => D.exec query tables) tables

/-- The tables after migrations. -/
def migrateAll (D : DBServer σ) (steps : List StratosMigrationStep) (tables : σ) :
    Except GoError σ :=
  steps.foldlM (fun tables step => D.execAll (step.apply D.driver) tables) tables

/-- `goose_db_version`, the other tables, and what each transaction that was begun has made of
them. The rows are the versions that are applied, in the order of their ids. A transaction that
has ended has `none`. -/
structure MigratedDatabase (σ : Type) where
  versions : Option (List ℤ)
  tables : σ
  txns : List (Option σ)

variable (db : MigratedDatabase σ) (txn : ℕ)

/-- What a transaction sees. -/
def MigratedDatabase.view : σ := db.txns[txn]?.join.getD db.tables

/-- A statement in a transaction makes `now` of what it sees. Where the transaction has ended, or
the statement ends it, the tables are `now`. -/
def MigratedDatabase.put (now : σ) (commits : Bool) : MigratedDatabase σ :=
  match db.txns[txn]?.join, commits with
  | some _, false => { db with txns := db.txns.set txn (some now) }
  | _, _ => { db with tables := now, txns := db.txns.set txn none }

/-- `Commit` -/
def MigratedDatabase.commit : MigratedDatabase σ := db.put txn (db.view txn) true

variable {db txn} {now : σ} {commits : Bool}

theorem put_of_ended (h : db.txns[txn]?.join = none ∨ commits = true) :
    db.put txn now commits = { db with tables := now, txns := db.txns.set txn none } := by
  unfold MigratedDatabase.put
  split
  · rename_i hopen
    simp [hopen] at h
  · rfl

theorem put_of_open {before : σ} (h : db.txns[txn]?.join = some before) :
    db.put txn now false = { db with txns := db.txns.set txn (some now) } := by
  unfold MigratedDatabase.put
  rw [h]

theorem join_set (x : Option σ) : (db.txns.set txn x)[txn]?.join =
    if txn < db.txns.length then x else none := by
  rw [List.getElem?_set_self']
  split_ifs with h
  · simp [h]
  · simp [not_lt.1 h]

theorem lt_length_of_open {before : σ} (h : db.txns[txn]?.join = some before) :
    txn < db.txns.length := by
  by_contra hge
  rw [List.getElem?_eq_none (not_lt.1 hge)] at h
  cases h

@[simp] theorem put_versions : (db.put txn now commits).versions = db.versions := by
  unfold MigratedDatabase.put
  split <;> rfl

/-- A transaction sees what it does. -/
@[simp] theorem view_put : (db.put txn now commits).view txn = now := by
  by_cases h : db.txns[txn]?.join = none ∨ commits = true
  · rw [put_of_ended h, MigratedDatabase.view, join_set]
    simp
  · obtain ⟨hopen, hcommits⟩ := not_or.1 h
    obtain ⟨before, hbefore⟩ := Option.ne_none_iff_exists'.1 hopen
    rw [Bool.not_eq_true] at hcommits
    subst hcommits
    rw [put_of_open hbefore, MigratedDatabase.view, join_set, if_pos (lt_length_of_open hbefore)]
    rfl

/-- A transaction that has ended had ended before, or was ended. -/
theorem ended_of_put (h : (db.put txn now commits).txns[txn]?.join = none) :
    db.txns[txn]?.join = none ∨ commits = true := by
  by_contra hopen
  obtain ⟨hnone, hcommits⟩ := not_or.1 hopen
  obtain ⟨before, hbefore⟩ := Option.ne_none_iff_exists'.1 hnone
  rw [Bool.not_eq_true] at hcommits
  subst hcommits
  rw [put_of_open hbefore, join_set, if_pos (lt_length_of_open hbefore)] at h
  cases h

end Server

/-- What `goose` does with the rows of `goose_db_version`. -/
structure Goose where
  ensureDBVersion : Option (List ℤ) → ℤ × List ℤ
  finalizeMigration : ℤ → List ℤ → List ℤ
  ensureDBVersion_none : ensureDBVersion none = (0, [0])
  ensureDBVersion_some : ∀ rows v, ensureDBVersion (some (rows ++ [v])) = (v, rows ++ [v])
  finalizeMigration_eq : ∀ v rows, finalizeMigration v rows = rows ++ [v]

/-! ## Statements and their replies -/

/-- The statements of the migrator. -/
inductive MigrationStmt
  | ensureDBVersion
  | dbBegin
  | txnExec (txn : ℕ) (query : MigrationQuery)
  | finalizeMigration (txn : ℕ) (version : ℤ)
  | getCurrentVersion

/-- What the database answers. -/
def MigrationStmt.Reply : MigrationStmt → Type
  | ensureDBVersion => Except GoError ℤ
  | dbBegin => Except GoError ℕ
  | txnExec _ _ => Except GoError Unit
  | finalizeMigration _ _ => Except GoError Unit
  | getCurrentVersion => Except GoError ℤ

/-- A statement fails, or its reply is lost. -/
def MigrationStmt.failure (e : GoError) : (s : MigrationStmt) → s.Reply
  | ensureDBVersion => .error e
  | dbBegin => .error e
  | txnExec _ _ => .error e
  | finalizeMigration _ _ => .error e
  | getCurrentVersion => .error e

section Programs

variable {σ : Type}

/-- A statement succeeds. `EnsureDBVersion` panics where `goose_db_version` has no row. -/
inductive Succeeds (D : DBServer σ) (G : Goose) :
    MigratedDatabase σ → (s : MigrationStmt) → s.Reply → MigratedDatabase σ → Prop
  | ensure {db : MigratedDatabase σ} (h : db.versions ≠ some []) :
      Succeeds D G db .ensureDBVersion (.ok (G.ensureDBVersion db.versions).1)
        { db with versions := some (G.ensureDBVersion db.versions).2 }
  | began (db : MigratedDatabase σ) : Succeeds D G db .dbBegin (.ok db.txns.length)
      { db with txns := db.txns ++ [some db.tables] }
  | executed {db : MigratedDatabase σ} {txn : ℕ} {query : MigrationQuery} {now : σ}
      (h : D.exec query (db.view txn) = .ok now) :
      Succeeds D G db (.txnExec txn query) (.ok ()) (db.put txn now (D.commits query))
  | finalized {db : MigratedDatabase σ} {rows : List ℤ} (txn : ℕ) (version : ℤ)
      (h : db.versions = some rows) : Succeeds D G db (.finalizeMigration txn version) (.ok ())
        { db.commit txn with versions := some (G.finalizeMigration version rows) }
  | current {db : MigratedDatabase σ} {rows : List ℤ} {v : ℤ}
      (h : db.versions = some (rows ++ [v])) : Succeeds D G db .getCurrentVersion (.ok v) db

/-- What a statement can do to the database. -/
inductive Executes (D : DBServer σ) (G : Goose) :
    MigratedDatabase σ → (s : MigrationStmt) → s.Reply → MigratedDatabase σ → Prop
  | succeeded {db db' : MigratedDatabase σ} {s : MigrationStmt} {reply : s.Reply}
      (h : Succeeds D G db s reply db') : Executes D G db s reply db'
  | lost {db db' : MigratedDatabase σ} {s : MigrationStmt} {reply : s.Reply}
      (h : Succeeds D G db s reply db') (e : GoError) : Executes D G db s (s.failure e) db'
  | failed (db : MigratedDatabase σ) (s : MigrationStmt) (e : GoError) :
      Executes D G db s (s.failure e) db
  /-- `goose` has made its table, which commits on MySQL, and not its first row. -/
  | created {db : MigratedDatabase σ} (h : db.versions = none) (hdriver : D.driver = .mysql)
      (e : GoError) : Executes D G db .ensureDBVersion (.error e) { db with versions := some [] }
  /-- A statement that ends its transaction does so where it fails, too. -/
  | ended (db : MigratedDatabase σ) (txn : ℕ) {query : MigrationQuery}
      (h : D.commits query = true) (e : GoError) :
      Executes D G db (.txnExec txn query) (.error e) (db.commit txn)
  /-- `FinalizeMigration` rolls back where the row is refused. -/
  | rolledBack (db : MigratedDatabase σ) (txn : ℕ) (version : ℤ) (e : GoError) :
      Executes D G db (.finalizeMigration txn version) (.error e)
        { db with txns := db.txns.set txn none }

/-! ## The programs -/

/-- The migrator, as the statements that it executes. -/
abbrev Migration (α : Type) := Prog MigrationStmt MigrationStmt.Reply GoError α

/-- The `Apply` of a migration. -/
def apply (txn : ℕ) : List MigrationQuery → Migration Unit
  | [] => return ()
  | query :: queries => .exec (.txnExec txn query) fun reply => do
    Prog.ret reply
    apply txn queries

/-- The loop of `ApplyMigrations`. A migration that is not newer than the version of the database is
skipped, and no error rolls a transaction back here. -/
def runMigrations (driver : DBDriver) (current : ℤ) : List StratosMigrationStep → Migration Unit
  | [] => return ()
  | step :: steps => do
    if current < step.version then
      .exec .dbBegin fun reply => do
        let txn ← Prog.ret reply
        apply txn (step.apply driver)
        .exec (.finalizeMigration txn step.version) fun reply => do
          Prog.ret reply
          runMigrations driver current steps
    else runMigrations driver current steps

/-- `ApplyMigrations` -/
def applyMigrations (driver : DBDriver) (M : Migrations) : Migration Unit :=
  .exec .ensureDBVersion fun reply => do
    let current ← Prog.ret (reply.mapError fun _ => .new "Failed to get database version")
    match M.getOrderedMigrations with
    | [] => .fail (.new "No Database Migrations found")
    | stratosMigrations => runMigrations driver current stratosMigrations

/-- A round of `WaitForMigrations`. It ends well when the instance goes on. -/
def waitForMigrations (M : Migrations) : Migration Unit :=
  match M.getOrderedMigrations.getLast? with
  | none => .fail (.exit "index out of range")
  | some targetVersion =>
    .exec .getCurrentVersion fun reply => do
      let version ← Prog.ret reply
      if version = targetVersion.version then return ()
      else .fail (.new "Waiting for database schema to be initialized")

/-- What an instance does when it starts. -/
inductive MigrationRequest
  | applyMigrations
  | waitForMigrations
  deriving DecidableEq

/-- The statements of a request. -/
def MigrationRequest.body (driver : DBDriver) (M : Migrations) : MigrationRequest → Migration Unit
  | applyMigrations => Migrator.applyMigrations driver M
  | waitForMigrations => Migrator.waitForMigrations M

/-! ## Runs -/

/-- A call of the migrator in progress. -/
abbrev MigrationThread :=
  Thread MigrationStmt MigrationStmt.Reply GoError Unit MigrationRequest

/-- The database, and the calls that are in progress. -/
abbrev MigrationPool (σ : Type) :=
  Pool MigrationStmt MigrationStmt.Reply GoError Unit MigrationRequest (MigratedDatabase σ)

/-- While a call of `ApplyMigrations` executes, no other one is between its first and its last
statement. -/
def Alone (_ : MigratedDatabase σ) (others : List MigrationThread) (t : MigrationThread)
    (s : MigrationStmt) (_ : s.Reply) : Prop :=
  t.request = .applyMigrations →
    ∀ t' ∈ others, t'.request = .applyMigrations → t'.Done ∨ t'.log = []

/-- Calls that do not overlap, and waiting instances at once with them. -/
abbrev MigrationRun (D : DBServer σ) (G : Goose) (M : Migrations) :
    MigrationPool σ → MigrationPool σ → Prop :=
  Pool.Run (Executes D G) (MigrationRequest.body D.driver M) Alone

/-- The database before any call, without a table of versions. -/
def fresh (tables : σ) : MigratedDatabase σ := ⟨none, tables, []⟩

/-! ## What the database has had -/

/-- The tables when `k` migrations were applied. A migration that failed after its first `n`
statements has left what these did, where one of them, or the next one, ends the transaction. -/
inductive Applied (D : DBServer σ) (M : Migrations) (tables : σ) : ℕ → σ → Prop
  | fresh : Applied D M tables 0 tables
  | whole {k : ℕ} {before after : σ} {step : StratosMigrationStep}
      (h : Applied D M tables k before) (hstep : M.getOrderedMigrations[k]? = some step)
      (hall : D.execAll (step.apply D.driver) before = .ok after) :
      Applied D M tables (k + 1) after
  | part {k : ℕ} {before after : σ} {step : StratosMigrationStep} (n : ℕ)
      (h : Applied D M tables k before) (hstep : M.getOrderedMigrations[k]? = some step)
      (hfirst : D.execAll ((step.apply D.driver).take n) before = .ok after)
      (hends : ∃ query ∈ (step.apply D.driver).take (n + 1), D.commits query = true) :
      Applied D M tables k after

/-- The first `k` migrations are in `goose_db_version`, each once. -/
structure MigratedUpTo (D : DBServer σ) (M : Migrations) (tables : σ) (k : ℕ)
    (db : MigratedDatabase σ) : Prop where
  le : k ≤ M.getOrderedMigrations.length
  applied : Applied D M tables k db.tables
  versions_eq : db.versions = some (versionRows (M.getOrderedMigrations.take k)) ∨
    k = 0 ∧ (db.versions = none ∨ D.driver = .mysql ∧ db.versions = some [])

/-- The database has the first `k` migrations, each once, and nothing else. -/
structure Migrated (D : DBServer σ) (M : Migrations) (tables : σ) (k : ℕ)
    (db : MigratedDatabase σ) : Prop where
  le : k ≤ M.getOrderedMigrations.length
  tables_eq : migrateAll D (M.getOrderedMigrations.take k) tables = .ok db.tables
  versions_eq : db.versions = some (versionRows (M.getOrderedMigrations.take k)) ∨
    k = 0 ∧ db.versions = none

/-- What is left of a migration, and the migrations after it. -/
def migrate (driver : DBDriver) (current : ℤ) (txn : ℕ) (step : StratosMigrationStep)
    (queries : List MigrationQuery) (steps : List StratosMigrationStep) : Migration Unit := do
  apply txn queries
  .exec (.finalizeMigration txn step.version) fun reply => do
    Prog.ret reply
    runMigrations driver current steps

/-- Where a call or a waiting instance is when the database has `k` migrations. -/
inductive ThreadAt (D : DBServer σ) (M : Migrations) (tables : σ) (k : ℕ)
    (db : MigratedDatabase σ) (t : MigrationThread) : Prop
  | unstarted (hlog : t.log = []) (h : t.prog = t.request.body D.driver M)
  | failed (e : GoError) (h : t.prog = .ret (.error e))
  | upToDate (hk : k = M.getOrderedMigrations.length) (h : t.prog = .ret (.ok ()))
  | running (current : ℤ) (hrequest : t.request = .applyMigrations) (hlog : t.log ≠ [])
      (hversions : db.versions = some (versionRows (M.getOrderedMigrations.take k)))
      (h : t.prog = runMigrations D.driver current (M.getOrderedMigrations.drop k))
      (hnew : ∀ step ∈ M.getOrderedMigrations.drop k, current < step.version)
  /-- The first `n` statements of a migration have made what its transaction sees, and it has ended
  only if one of them ends it. -/
  | migrating (current : ℤ) (txn n : ℕ) {before : σ} {step : StratosMigrationStep}
      (hrequest : t.request = .applyMigrations) (hlog : t.log ≠ [])
      (hversions : db.versions = some (versionRows (M.getOrderedMigrations.take k)))
      (hstep : M.getOrderedMigrations[k]? = some step)
      (hbefore : Applied D M tables k before)
      (hfirst : D.execAll ((step.apply D.driver).take n) before = .ok (db.view txn))
      (hended : db.txns[txn]?.join = none →
        ∃ query ∈ (step.apply D.driver).take n, D.commits query = true)
      (h : t.prog = migrate D.driver current txn step ((step.apply D.driver).drop n)
        (M.getOrderedMigrations.drop (k + 1)))
      (hnew : ∀ step ∈ M.getOrderedMigrations.drop (k + 1), current < step.version)

section Server

variable {D : DBServer σ} {M : Migrations} {tables : σ} {k : ℕ}

theorem execAll_append {queries queries' : List MigrationQuery} {now now' : σ}
    (h : D.execAll queries now = .ok now') :
    D.execAll (queries ++ queries') now = D.execAll queries' now' := by
  rw [DBServer.execAll, List.foldlM_append, ← DBServer.execAll, h]
  rfl

theorem migrateAll_append {steps steps' : List StratosMigrationStep} {now now' : σ}
    (h : migrateAll D steps now = .ok now') :
    migrateAll D (steps ++ steps') now = migrateAll D steps' now' := by
  rw [migrateAll, List.foldlM_append, ← migrateAll, h]
  rfl

theorem migrateAll_singleton (step : StratosMigrationStep) (now : σ) :
    migrateAll D [step] now = D.execAll (step.apply D.driver) now := by
  rw [migrateAll, List.foldlM_cons]
  cases D.execAll (step.apply D.driver) now <;> rfl

/-- Only MySQL ends a transaction before its end. -/
theorem commits_eq_false (hdriver : D.driver ≠ .mysql) (query : MigrationQuery) :
    D.commits query = false := by
  cases query with
  | ddl text => exact decide_eq_false hdriver
  | dml text => rfl

/-- Where no statement ends its transaction, there are only whole migrations. -/
theorem Applied.migrateAll {now : σ} (h : Applied D M tables k now) (hdriver : D.driver ≠ .mysql) :
    migrateAll D (M.getOrderedMigrations.take k) tables = .ok now := by
  induction h with
  | fresh => rfl
  | whole h hstep hall ih =>
    rw [List.take_add_one, hstep, Option.toList_some, migrateAll_append ih, migrateAll_singleton,
      hall]
  | part n h hstep hfirst hends ih =>
    obtain ⟨query, -, hquery⟩ := hends
    rw [commits_eq_false hdriver] at hquery
    cases hquery

theorem MigratedUpTo.migrated {db : MigratedDatabase σ} (h : MigratedUpTo D M tables k db)
    (hdriver : D.driver ≠ .mysql) : Migrated D M tables k db where
  le := h.le
  tables_eq := h.applied.migrateAll hdriver
  versions_eq := h.versions_eq.imp_right (And.imp_right fun h =>
    h.resolve_right fun hmysql => hdriver hmysql.1)

end Server

/-! ## Programs and their parts -/

section Parts

variable {driver : DBDriver} {M : Migrations} {current : ℤ} {txn : ℕ} {step : StratosMigrationStep}
  {query : MigrationQuery} {queries : List MigrationQuery} {steps : List StratosMigrationStep}

theorem migrate_nil : migrate driver current txn step [] steps =
    .exec (.finalizeMigration txn step.version) fun reply =>
      Prog.ret reply >>= fun _ => runMigrations driver current steps :=
  rfl

theorem migrate_cons : migrate driver current txn step (query :: queries) steps =
    .exec (.txnExec txn query) fun reply =>
      Prog.ret reply >>= fun _ => migrate driver current txn step queries steps := by
  simp only [migrate, apply, Prog.exec_bind, Prog.bind_bind]

theorem runMigrations_cons (h : current < step.version) :
    runMigrations driver current (step :: steps) = .exec .dbBegin fun reply =>
      Prog.ret reply >>= fun txn =>
        migrate driver current txn step (step.apply driver) steps := by
  rw [runMigrations, if_pos h]
  rfl

/-- Migrations that are not newer are skipped. -/
theorem runMigrations_append (h : ∀ step ∈ steps, step.version ≤ current)
    (steps' : List StratosMigrationStep) :
    runMigrations driver current (steps ++ steps') = runMigrations driver current steps' := by
  induction steps with
  | nil => rfl
  | cons step steps ih =>
    obtain ⟨hle, hsteps⟩ := List.forall_mem_cons.1 h
    rw [List.cons_append, runMigrations, if_neg hle.not_gt]
    exact ih hsteps

/-- A migration that has begun has not ended. -/
theorem migrate_ne_ret (r : Except GoError Unit) :
    migrate driver current txn step queries steps ≠ .ret r := by
  intro h
  cases queries with
  | nil => cases h
  | cons query queries =>
    rw [migrate_cons] at h
    cases h

theorem applyMigrations_eq (hne : M.getOrderedMigrations ≠ []) :
    applyMigrations driver M = .exec .ensureDBVersion fun reply =>
      Prog.ret (reply.mapError fun _ => .new "Failed to get database version") >>=
        (runMigrations driver · M.getOrderedMigrations) := by
  unfold applyMigrations
  split
  · contradiction
  · rfl

theorem body_ne_ok (q : MigrationRequest) : q.body driver M ≠ .ret (.ok ()) := by
  intro h
  cases q with
  | applyMigrations => cases h
  | waitForMigrations =>
    simp only [MigrationRequest.body, waitForMigrations] at h
    split at h <;> cases h

end Parts

section Invariant

variable {D : DBServer σ} {G : Goose} {M : Migrations} {tables : σ} {k : ℕ}
  {db db' : MigratedDatabase σ} {t : MigrationThread}

/-! ## The database after a statement -/

theorem migratedUpTo_fresh : MigratedUpTo D M tables 0 (fresh tables) :=
  ⟨Nat.zero_le _, .fresh, .inr ⟨rfl, .inl rfl⟩⟩

/-- What transactions that have not ended do is of no matter. -/
theorem MigratedUpTo.congr (h : MigratedUpTo D M tables k db)
    (hversions : db'.versions = db.versions) (htables : db'.tables = db.tables) :
    MigratedUpTo D M tables k db' where
  le := h.le
  applied := htables ▸ h.applied
  versions_eq := hversions ▸ h.versions_eq

/-- `EnsureDBVersion` gives the version, and makes the table where there is none. -/
theorem ensureDBVersion_eq (h : MigratedUpTo D M tables k db) (hne : db.versions ≠ some []) :
    (G.ensureDBVersion db.versions).2 = versionRows (M.getOrderedMigrations.take k) ∧
      (∀ step ∈ M.getOrderedMigrations.take k,
        step.version ≤ (G.ensureDBVersion db.versions).1) ∧
      ∀ step ∈ M.getOrderedMigrations.drop k, (G.ensureDBVersion db.versions).1 < step.version := by
  obtain ⟨rows, v, hrows, hle, hlt⟩ := exists_version M k
  have hensure : G.ensureDBVersion db.versions = (v, rows ++ [v]) := by
    obtain hversions | ⟨rfl, hversions | ⟨-, hversions⟩⟩ := h.versions_eq
    · rw [hversions, hrows, G.ensureDBVersion_some]
    · rw [hversions, G.ensureDBVersion_none]
      obtain ⟨rfl, rfl⟩ : rows = [] ∧ v = 0 := by
        cases rows with
        | nil => simpa [versionRows, eq_comm] using hrows
        | cons _ _ => simp [versionRows] at hrows
      rfl
    · exact absurd hversions hne
  rw [hensure]
  exact ⟨hrows.symm, hle, hlt⟩

theorem MigratedUpTo.ensure (h : MigratedUpTo D M tables k db) (hne : db.versions ≠ some []) :
    MigratedUpTo D M tables k { db with versions := some (G.ensureDBVersion db.versions).2 } :=
  ⟨h.le, h.applied, .inl (congrArg some (ensureDBVersion_eq h hne).1)⟩

/-- `goose_db_version` is made, and has no row. -/
theorem MigratedUpTo.created (h : MigratedUpTo D M tables k db) (hnone : db.versions = none)
    (hdriver : D.driver = .mysql) :
    MigratedUpTo D M tables k { db with versions := some [] } := by
  refine ⟨h.le, h.applied, .inr ⟨?_, .inr ⟨hdriver, rfl⟩⟩⟩
  obtain hversions | ⟨hk, -⟩ := h.versions_eq
  · cases hnone.symm.trans hversions
  · exact hk

/-- A statement of a migration. -/
theorem MigratedUpTo.put {txn n : ℕ} {before now : σ} {commits : Bool} {step : StratosMigrationStep}
    (h : MigratedUpTo D M tables k db) (hbefore : Applied D M tables k before)
    (hstep : M.getOrderedMigrations[k]? = some step)
    (hfirst : D.execAll ((step.apply D.driver).take n) before = .ok now)
    (hends : db.txns[txn]?.join = none ∨ commits = true →
      ∃ query ∈ (step.apply D.driver).take (n + 1), D.commits query = true) :
    MigratedUpTo D M tables k (db.put txn now commits) := by
  by_cases hended : db.txns[txn]?.join = none ∨ commits = true
  · refine ⟨h.le, ?_, by rw [put_versions]; exact h.versions_eq⟩
    rw [put_of_ended hended]
    exact .part n hbefore hstep hfirst (hends hended)
  · refine h.congr put_versions ?_
    obtain ⟨hopen, hcommits⟩ := not_or.1 hended
    obtain ⟨now', hnow'⟩ := Option.ne_none_iff_exists'.1 hopen
    rw [Bool.not_eq_true] at hcommits
    rw [hcommits, put_of_open hnow']

/-- The end of a migration. -/
theorem MigratedUpTo.finalize {txn : ℕ} {before : σ} {rows : List ℤ} {step : StratosMigrationStep}
    (hbefore : Applied D M tables k before) (hstep : M.getOrderedMigrations[k]? = some step)
    (hall : D.execAll (step.apply D.driver) before = .ok (db.view txn))
    (hrows : rows = versionRows (M.getOrderedMigrations.take k)) :
    MigratedUpTo D M tables (k + 1)
      { db.commit txn with versions := some (G.finalizeMigration step.version rows) } := by
  refine ⟨(List.getElem?_eq_some_iff.1 hstep).1, ?_, .inl ?_⟩
  · rw [MigratedDatabase.commit, put_of_ended (.inr rfl)]
    exact .whole hbefore hstep hall
  · rw [G.finalizeMigration_eq, hrows, List.take_add_one, hstep]
    simp [versionRows]

/-- A database with the version of the last migration has all of them. -/
theorem MigratedUpTo.eq_length {rows : List ℤ} {target : StratosMigrationStep}
    (h : MigratedUpTo D M tables k db) (hversions : db.versions = some (rows ++ [target.version]))
    (htarget : M.getOrderedMigrations.getLast? = some target) :
    k = M.getOrderedMigrations.length := by
  obtain ⟨rows', v, hrows', -, hlt⟩ := exists_version M k
  have hversion : target.version = v := by
    obtain heq | ⟨-, heq | ⟨-, heq⟩⟩ := h.versions_eq
    · exact (List.append_singleton_inj.1
        ((Option.some.inj (hversions.symm.trans heq)).trans hrows')).2
    · cases hversions.symm.trans heq
    · simp [hversions] at heq
  by_contra hne
  have hlast : (M.getOrderedMigrations.drop k).getLast? = some target := by
    rw [List.getLast?_drop, if_neg (not_le.2 (lt_of_le_of_ne h.le hne)), htarget]
  have := hlt target (List.mem_of_getLast? hlast)
  omega

/-! ## One statement of a thread -/

theorem of_drop_eq_cons {α : Type} {l rest : List α} {k : ℕ} {x : α} (h : l.drop k = x :: rest) :
    l[k]? = some x ∧ l.drop (k + 1) = rest := by
  constructor
  · rw [← Nat.add_zero k, ← List.getElem?_drop, h]
    rfl
  · rw [← List.drop_drop, h, List.drop_one, List.tail_cons]

/-- The first statement of a call. -/
theorem advance_applyMigrations {s : MigrationStmt} {kont : s.Reply → Migration Unit}
    {reply : s.Reply} (hdb : MigratedUpTo D M tables k db)
    (hrequest : t.request = .applyMigrations) (hk : applyMigrations D.driver M = .exec s kont)
    (hE : Executes D G db s reply db') :
    MigratedUpTo D M tables k db' ∧
      ThreadAt D M tables k db' (t.advance s reply (kont reply)) := by
  cases hk
  cases hE with
  | failed => exact ⟨hdb, .failed _ rfl⟩
  | created hnone hdriver => exact ⟨hdb.created hnone hdriver, .failed _ rfl⟩
  | lost h =>
    cases h with
    | ensure hne => exact ⟨hdb.ensure hne, .failed _ rfl⟩
  | succeeded h =>
    cases h with
    | ensure hne =>
      obtain ⟨hrows, hle, hlt⟩ := ensureDBVersion_eq (G := G) hdb hne
      refine ⟨hdb.ensure hne, ?_⟩
      match hordered : M.getOrderedMigrations with
      | [] =>
        refine .failed (.new "No Database Migrations found") ?_
        simp [Thread.advance, Prog.fail]
      | step :: steps =>
        refine .running (G.ensureDBVersion db.versions).1 hrequest (List.cons_ne_nil _ _)
          (congrArg some hrows) ?_ hlt
        have hskip : runMigrations D.driver _ _ = _ :=
          runMigrations_append hle (M.getOrderedMigrations.drop k)
        rw [List.take_append_drop] at hskip
        rw [← hskip]
        simp [Thread.advance, hordered]

/-- The statement of a round. -/
theorem advance_waitForMigrations {s : MigrationStmt} {kont : s.Reply → Migration Unit}
    {reply : s.Reply} (hdb : MigratedUpTo D M tables k db)
    (hk : waitForMigrations M = .exec s kont) (hE : Executes D G db s reply db') :
    db' = db ∧ ThreadAt D M tables k db (t.advance s reply (kont reply)) := by
  unfold waitForMigrations at hk
  split at hk
  · cases hk
  · rename_i target htarget
    cases hk
    cases hE with
    | failed => exact ⟨rfl, .failed _ rfl⟩
    | lost h =>
      cases h with
      | current => exact ⟨rfl, .failed _ rfl⟩
    | succeeded h =>
      cases h with
      | @current rows v hversions =>
        refine ⟨rfl, ?_⟩
        by_cases hv : v = target.version
        · subst hv
          exact .upToDate (hdb.eq_length hversions htarget) (by simp [Thread.advance])
        · refine .failed (.new "Waiting for database schema to be initialized") ?_
          simp [Thread.advance, hv, Prog.fail]

/-- A call between two migrations begins the next one. -/
theorem advance_running {s : MigrationStmt} {kont : s.Reply → Migration Unit} {reply : s.Reply}
    {current : ℤ} (hdb : MigratedUpTo D M tables k db) (hrequest : t.request = .applyMigrations)
    (hversions : db.versions = some (versionRows (M.getOrderedMigrations.take k)))
    (h : t.prog = runMigrations D.driver current (M.getOrderedMigrations.drop k))
    (hnew : ∀ step ∈ M.getOrderedMigrations.drop k, current < step.version)
    (hk : t.prog = .exec s kont) (hE : Executes D G db s reply db') :
    MigratedUpTo D M tables k db' ∧
      ThreadAt D M tables k db' (t.advance s reply (kont reply)) := by
  rw [h] at hk
  match hdrop : M.getOrderedMigrations.drop k with
  | [] =>
    rw [hdrop] at hk
    cases hk
  | step :: rest =>
    obtain ⟨hstep, hrest⟩ := of_drop_eq_cons hdrop
    rw [hdrop] at hnew
    obtain ⟨hlt, hnew⟩ := List.forall_mem_cons.1 hnew
    rw [hdrop, runMigrations_cons hlt] at hk
    cases hk
    cases hE with
    | failed => exact ⟨hdb, .failed _ rfl⟩
    | lost h =>
      cases h with
      | began => exact ⟨hdb.congr rfl rfl, .failed _ rfl⟩
    | succeeded h =>
      cases h with
      | began =>
        -- The transaction sees the tables, and none of its statements was sent.
        have htxn : (db.txns ++ [some db.tables])[db.txns.length]?.join = some db.tables := by
          simp
        refine ⟨hdb.congr rfl rfl, .migrating current db.txns.length 0 hrequest
          (List.cons_ne_nil _ _) hversions hstep hdb.applied ?_ ?_ ?_ ?_⟩
        · rw [MigratedDatabase.view, htxn]
          rfl
        · intro hended
          cases htxn.symm.trans hended
        · rw [hrest]
          rfl
        · rw [hrest]
          exact hnew

/-- One more statement. -/
theorem execAll_take_succ {queries : List MigrationQuery} {query : MigrationQuery} {n : ℕ}
    {before now now' : σ} (hquery : queries[n]? = some query)
    (hfirst : D.execAll (queries.take n) before = .ok now) (hnow : D.exec query now = .ok now') :
    D.execAll (queries.take (n + 1)) before = .ok now' := by
  rw [List.take_add_one, hquery, Option.toList_some, execAll_append hfirst]
  simp [DBServer.execAll, hnow]

/-- A transaction has ended before a statement, or the statement ends it. -/
theorem exists_commits_take_succ {queries : List MigrationQuery} {query : MigrationQuery} {n : ℕ}
    (hquery : queries[n]? = some query) (h : (∃ query ∈ queries.take n, D.commits query = true) ∨
      D.commits query = true) :
    ∃ query ∈ queries.take (n + 1), D.commits query = true := by
  rw [List.take_add_one, hquery, Option.toList_some]
  obtain ⟨query', hmem, hcommits⟩ | hcommits := h
  · exact ⟨query', List.mem_append_left _ hmem, hcommits⟩
  · exact ⟨query, List.mem_append_right _ (List.mem_singleton_self _), hcommits⟩

/-- A call in a migration sends the next statement of it, or ends it. -/
theorem advance_migrating {s : MigrationStmt} {kont : s.Reply → Migration Unit} {reply : s.Reply}
    {current : ℤ} {txn n : ℕ} {before : σ} {step : StratosMigrationStep}
    (hdb : MigratedUpTo D M tables k db) (hrequest : t.request = .applyMigrations)
    (hversions : db.versions = some (versionRows (M.getOrderedMigrations.take k)))
    (hstep : M.getOrderedMigrations[k]? = some step) (hbefore : Applied D M tables k before)
    (hfirst : D.execAll ((step.apply D.driver).take n) before = .ok (db.view txn))
    (hended : db.txns[txn]?.join = none →
      ∃ query ∈ (step.apply D.driver).take n, D.commits query = true)
    (h : t.prog = migrate D.driver current txn step ((step.apply D.driver).drop n)
      (M.getOrderedMigrations.drop (k + 1)))
    (hnew : ∀ step ∈ M.getOrderedMigrations.drop (k + 1), current < step.version)
    (hk : t.prog = .exec s kont) (hE : Executes D G db s reply db') :
    ∃ k', (k' = k ∨ k < M.getOrderedMigrations.length) ∧ MigratedUpTo D M tables k' db' ∧
      ThreadAt D M tables k' db' (t.advance s reply (kont reply)) := by
  rw [h] at hk
  match hdrop : (step.apply D.driver).drop n with
  | [] =>
    rw [hdrop, migrate_nil] at hk
    cases hk
    rw [List.take_of_length_le (List.drop_eq_nil_iff.1 hdrop)] at hfirst
    cases hE with
    | failed => exact ⟨k, .inl rfl, hdb, .failed _ rfl⟩
    | rolledBack => exact ⟨k, .inl rfl, hdb.congr rfl rfl, .failed _ rfl⟩
    | lost h =>
      cases h with
      | finalized _ _ hrows =>
        exact ⟨k + 1, .inr (List.getElem?_eq_some_iff.1 hstep).1,
          .finalize hbefore hstep hfirst (Option.some.inj (hrows.symm.trans hversions)),
          .failed _ rfl⟩
    | succeeded h =>
      cases h with
      | finalized _ _ hrows =>
        have hdb' := MigratedUpTo.finalize (G := G) hbefore hstep hfirst
          (Option.some.inj (hrows.symm.trans hversions))
        refine ⟨k + 1, .inr (List.getElem?_eq_some_iff.1 hstep).1, hdb', ?_⟩
        refine .running current hrequest (List.cons_ne_nil _ _) ?_ rfl hnew
        exact hdb'.versions_eq.resolve_right fun h => absurd h.1 (Nat.succ_ne_zero k)
  | query :: queries =>
    obtain ⟨hquery, hqueries⟩ := of_drop_eq_cons hdrop
    rw [hdrop, migrate_cons] at hk
    cases hk
    have hends : db.txns[txn]?.join = none ∨ D.commits query = true →
        ∃ query ∈ (step.apply D.driver).take (n + 1), D.commits query = true :=
      fun h => exists_commits_take_succ hquery (h.imp_left hended)
    have hexecuted : ∀ now, D.exec query (db.view txn) = .ok now →
        MigratedUpTo D M tables k (db.put txn now (D.commits query)) := by
      intro now hnow
      refine hdb.put hbefore hstep (execAll_take_succ hquery hfirst hnow) fun h => ?_
      obtain ⟨query', hmem, hcommits⟩ := hends h
      exact ⟨query', (List.take_subset_take_left _ (Nat.le_succ _)) hmem, hcommits⟩
    refine ⟨k, .inl rfl, ?_⟩
    cases hE with
    | failed => exact ⟨hdb, .failed _ rfl⟩
    | ended _ hcommits =>
      exact ⟨hdb.put hbefore hstep hfirst fun _ => hends (.inr hcommits), .failed _ rfl⟩
    | lost h =>
      cases h with
      | executed hnow => exact ⟨hexecuted _ hnow, .failed _ rfl⟩
    | succeeded h =>
      cases h with
      | @executed _ _ now hnow =>
        refine ⟨hexecuted now hnow, .migrating current txn (n + 1) hrequest
          (List.cons_ne_nil _ _) ?_ hstep hbefore ?_ ?_ ?_ hnew⟩
        · rw [put_versions]
          exact hversions
        · rw [view_put]
          exact execAll_take_succ hquery hfirst hnow
        · exact fun h => hends (ended_of_put h)
        · rw [hqueries]
          rfl

/-- A thread that is not in the middle of a call is where it was. -/
theorem ThreadAt.of_idle {k' : ℕ} (h : ThreadAt D M tables k db t)
    (hle : k ≤ M.getOrderedMigrations.length)
    (hk : k' = k ∨ k < M.getOrderedMigrations.length)
    (hidle : t.request = .applyMigrations → t.Done ∨ t.log = []) :
    ThreadAt D M tables k' db' t := by
  cases h with
  | unstarted hlog h => exact .unstarted hlog h
  | failed e h => exact .failed e h
  | upToDate hall h => exact .upToDate (hk.elim (·.trans hall) fun hlt => absurd hall hlt.ne) h
  | running current hrequest hlog hversions h hnew =>
    obtain ⟨r, hret⟩ := (hidle hrequest).resolve_right hlog
    match hdrop : M.getOrderedMigrations.drop k with
    | [] =>
      rw [hdrop] at h
      have hall := hle.antisymm (List.drop_eq_nil_iff.1 hdrop)
      exact .upToDate (hk.elim (·.trans hall) fun hlt => absurd hall hlt.ne) h
    | step :: rest =>
      rw [hdrop] at hnew
      rw [hdrop, runMigrations_cons (List.forall_mem_cons.1 hnew).1, hret] at h
      cases h
  | migrating current txn n hrequest hlog hversions hstep hbefore hfirst hended h hnew =>
    obtain ⟨r, hret⟩ := (hidle hrequest).resolve_right hlog
    exact absurd (h.symm.trans hret) (migrate_ne_ret r)

/-- One statement of a thread. Only a call changes the database. -/
theorem ThreadAt.advance {s : MigrationStmt} {kont : s.Reply → Migration Unit} {reply : s.Reply}
    (ht : ThreadAt D M tables k db t) (hdb : MigratedUpTo D M tables k db)
    (hk : t.prog = .exec s kont) (hE : Executes D G db s reply db') :
    ∃ k', (k' = k ∨ k < M.getOrderedMigrations.length) ∧ MigratedUpTo D M tables k' db' ∧
      ThreadAt D M tables k' db' (t.advance s reply (kont reply)) ∧
      (t.request = .applyMigrations ∨ k' = k ∧ db' = db) := by
  cases ht with
  | unstarted hlog h =>
    rw [h] at hk
    cases hrequest : t.request with
    | applyMigrations =>
      rw [hrequest] at hk
      obtain ⟨hdb', ht'⟩ := advance_applyMigrations hdb hrequest hk hE
      exact ⟨k, .inl rfl, hdb', ht', .inl rfl⟩
    | waitForMigrations =>
      rw [hrequest] at hk
      obtain ⟨rfl, ht'⟩ := advance_waitForMigrations (t := t) hdb hk hE
      exact ⟨k, .inl rfl, hdb, ht', .inr ⟨rfl, rfl⟩⟩
  | failed e h => cases h.symm.trans hk
  | upToDate hall h => cases h.symm.trans hk
  | running current hrequest hlog hversions h hnew =>
    obtain ⟨hdb', ht'⟩ := advance_running hdb hrequest hversions h hnew hk hE
    exact ⟨k, .inl rfl, hdb', ht', .inl hrequest⟩
  | migrating current txn n hrequest hlog hversions hstep hbefore hfirst hended h hnew =>
    obtain ⟨k', hk', hdb', ht'⟩ := advance_migrating hdb hrequest hversions hstep hbefore hfirst
      hended h hnew hk hE
    exact ⟨k', hk', hdb', ht', .inl hrequest⟩

/-- A call that has ended well has seen every migration. -/
theorem ThreadAt.eq_length (ht : ThreadAt D M tables k db t)
    (hle : k ≤ M.getOrderedMigrations.length) (hret : t.prog = .ret (.ok ())) :
    k = M.getOrderedMigrations.length := by
  cases ht with
  | unstarted hlog h => exact absurd (h.symm.trans hret) (body_ne_ok _)
  | failed e h => cases h.symm.trans hret
  | upToDate hall => exact hall
  | running current hrequest hlog hversions h hnew =>
    match hdrop : M.getOrderedMigrations.drop k with
    | [] => exact hle.antisymm (List.drop_eq_nil_iff.1 hdrop)
    | step :: rest =>
      rw [hdrop] at hnew
      rw [hdrop, runMigrations_cons (List.forall_mem_cons.1 hnew).1, hret] at h
      cases h
  | migrating current txn n hrequest hlog hversions hstep hbefore hfirst hended h =>
    exact absurd (h.symm.trans hret) (migrate_ne_ret _)

/-! ## Whole runs -/

/-- One step of the calls. -/
theorem threadsAt_step {a b : MigrationPool σ}
    (ha : ∃ k, MigratedUpTo D M tables k a.store ∧ ∀ t ∈ a.threads, ThreadAt D M tables k a.store t)
    (hab : Pool.Step (Executes D G) (MigrationRequest.body D.driver M) Alone a b) :
    ∃ k, MigratedUpTo D M tables k b.store ∧
      ∀ t ∈ b.threads, ThreadAt D M tables k b.store t := by
  obtain ⟨k, hdb, hthreads⟩ := ha
  cases hab with
  | start db ts q =>
    exact ⟨k, hdb, List.forall_mem_append.2
      ⟨hthreads, List.forall_mem_singleton.2 (.unstarted rfl rfl)⟩⟩
  | @stmt db db' ts₁ ts₂ t s kont reply hk hE hok =>
    obtain ⟨ht, hothers⟩ := Pool.forall_mem_middle.1 hthreads
    obtain ⟨k', hk', hdb', ht', hchanged⟩ := ht.advance hdb hk hE
    refine ⟨k', hdb', Pool.forall_mem_middle.2 ⟨ht', fun t' hmem => ?_⟩⟩
    -- The other threads have not moved, and where the database has changed they are idle.
    obtain hrequest | ⟨rfl, rfl⟩ := hchanged
    · exact (hothers t' hmem).of_idle hdb.le hk' (hok hrequest t' hmem)
    · exact hothers t' hmem

/-- Where calls do not overlap, the database has always had the first migrations, each once, and
what has ended well has seen all of them. Off MySQL it has had nothing else. -/
theorem migrated_of_run {b : MigrationPool σ}
    (hrun : MigrationRun D G M (Pool.init (fresh tables)) b) :
    ∃ k, MigratedUpTo D M tables k b.store ∧
      (D.driver ≠ .mysql → Migrated D M tables k b.store) ∧
      ∀ t ∈ b.threads, t.prog = .ret (.ok ()) → k = M.getOrderedMigrations.length := by
  obtain ⟨k, hdb, hthreads⟩ := hrun.inv (I := fun a => ∃ k, MigratedUpTo D M tables k a.store ∧
    ∀ t ∈ a.threads, ThreadAt D M tables k a.store t)
    ⟨0, migratedUpTo_fresh, fun _ ht => absurd ht List.not_mem_nil⟩ fun _ _ => threadsAt_step
  exact ⟨k, hdb, hdb.migrated, fun t ht hret => (hthreads t ht).eq_length hdb.le hret⟩

/-! ## A call alone -/

/-- `EnsureDBVersion` -/
def MigratedDatabase.ensureDBVersion (G : Goose) (db : MigratedDatabase σ) :
    Except GoError ℤ × MigratedDatabase σ :=
  if db.versions = some [] then (.error (.exit "failure in EnsureDBVersion()"), db)
  else (.ok (G.ensureDBVersion db.versions).1,
    { db with versions := some (G.ensureDBVersion db.versions).2 })

/-- `txn.Exec` -/
def MigratedDatabase.txnExec (D : DBServer σ) (txn : ℕ) (query : MigrationQuery)
    (db : MigratedDatabase σ) : Except GoError Unit × MigratedDatabase σ :=
  match D.exec query (db.view txn) with
  | .error e => (.error e, if D.commits query then db.commit txn else db)
  | .ok now => (.ok (), db.put txn now (D.commits query))

/-- `FinalizeMigration` -/
def MigratedDatabase.finalizeMigration (G : Goose) (txn : ℕ) (version : ℤ)
    (db : MigratedDatabase σ) : Except GoError Unit × MigratedDatabase σ :=
  match db.versions with
  | none => (.error (.new "no such table: goose_db_version"),
    { db with txns := db.txns.set txn none })
  | some rows => (.ok (),
    { db.commit txn with versions := some (G.finalizeMigration version rows) })

/-- `GetCurrentVersion` -/
def MigratedDatabase.getCurrentVersion (db : MigratedDatabase σ) : Except GoError ℤ :=
  match db.versions.bind List.getLast? with
  | none => .error (.new "No database versions found")
  | some v => .ok v

/-- A statement that succeeds where it can. -/
def MigrationStmt.exec (D : DBServer σ) (G : Goose) :
    (s : MigrationStmt) → MigratedDatabase σ → s.Reply × MigratedDatabase σ
  | ensureDBVersion, db => db.ensureDBVersion G
  | dbBegin, db => (.ok db.txns.length, { db with txns := db.txns ++ [some db.tables] })
  | txnExec txn query, db => db.txnExec D txn query
  | finalizeMigration txn version, db => db.finalizeMigration G txn version
  | getCurrentVersion, db => (db.getCurrentVersion, db)

/-- The statements of a call alone are statements of a run. -/
theorem executes_exec (s : MigrationStmt) (db : MigratedDatabase σ) :
    Executes D G db s (s.exec D G db).1 (s.exec D G db).2 := by
  cases s with
  | ensureDBVersion =>
    simp only [MigrationStmt.exec, MigratedDatabase.ensureDBVersion]
    split_ifs with h
    · exact .failed db .ensureDBVersion _
    · exact .succeeded (.ensure h)
  | dbBegin => exact .succeeded (.began db)
  | txnExec txn query =>
    simp only [MigrationStmt.exec, MigratedDatabase.txnExec]
    split
    · split_ifs with hcommits
      · exact .ended db txn hcommits _
      · exact .failed db (.txnExec txn query) _
    · rename_i now hnow
      exact .succeeded (.executed hnow)
  | finalizeMigration txn version =>
    simp only [MigrationStmt.exec, MigratedDatabase.finalizeMigration]
    split
    · exact .rolledBack db txn version _
    · rename_i rows hrows
      exact .succeeded (.finalized txn version hrows)
  | getCurrentVersion =>
    simp only [MigrationStmt.exec, MigratedDatabase.getCurrentVersion]
    split
    · exact .failed db .getCurrentVersion _
    · rename_i v hv
      obtain ⟨rows, hrows, hlast⟩ := Option.bind_eq_some_iff.1 hv
      have hrows' : db.versions = some (rows.dropLast ++ [v]) := by
        rw [hrows, List.dropLast_append_getLast? v hlast]
      exact .succeeded (.current hrows')

/-- The statements of a migration. -/
theorem run_migrate {current : ℤ} {txn : ℕ} {step : StratosMigrationStep}
    {queries : List MigrationQuery} {steps : List StratosMigrationStep} {now : σ} {rows : List ℤ}
    (hversions : db.versions = some rows) (hall : D.execAll queries (db.view txn) = .ok now) :
    ∃ db', (migrate D.driver current txn step queries steps).run (MigrationStmt.exec D G) db =
        (runMigrations D.driver current steps).run (MigrationStmt.exec D G) db' ∧
      db'.versions = some (rows ++ [step.version]) ∧ db'.tables = now := by
  induction queries generalizing db with
  | nil =>
    cases hall
    refine ⟨{ db.commit txn with versions := some (G.finalizeMigration step.version rows) },
      ?_, congrArg some (G.finalizeMigration_eq _ _), ?_⟩
    · simp [migrate_nil, MigrationStmt.exec, MigratedDatabase.finalizeMigration, hversions]
    · rw [MigratedDatabase.commit, put_of_ended (.inr rfl)]
  | cons query queries ih =>
    rw [DBServer.execAll, List.foldlM_cons, bind_eq_ok] at hall
    obtain ⟨next, hnext, hall⟩ := hall
    rw [← DBServer.execAll] at hall
    rw [migrate_cons]
    simp only [Prog.run_exec, MigrationStmt.exec, MigratedDatabase.txnExec, hnext,
      Prog.ret_ok_bind]
    refine ih ?_ ?_
    · rw [put_versions]
      exact hversions
    · rw [view_put]
      exact hall

theorem run_runMigrations {current : ℤ} {steps : List StratosMigrationStep} {rows : List ℤ}
    {final : σ} (hnew : ∀ step ∈ steps, current < step.version)
    (hversions : db.versions = some rows) (hall : migrateAll D steps db.tables = .ok final) :
    ∃ db',
      (runMigrations D.driver current steps).run (MigrationStmt.exec D G) db = (.ok (), db') ∧
      db'.versions = some (rows ++ steps.map StratosMigrationStep.version) ∧
      db'.tables = final := by
  induction steps generalizing rows db with
  | nil =>
    cases hall
    exact ⟨db, rfl, by simp [hversions], rfl⟩
  | cons step steps ih =>
    obtain ⟨hlt, hnew⟩ := List.forall_mem_cons.1 hnew
    rw [migrateAll, List.foldlM_cons, bind_eq_ok] at hall
    obtain ⟨next, hnext, hall⟩ := hall
    rw [← migrateAll] at hall
    rw [runMigrations_cons hlt]
    simp only [Prog.run_exec, MigrationStmt.exec, Prog.ret_ok_bind]
    let began : MigratedDatabase σ := { db with txns := db.txns ++ [some db.tables] }
    have hview : began.view db.txns.length = db.tables := by
      simp [began, MigratedDatabase.view]
    rw [← hview] at hnext
    obtain ⟨db', hrun, hversions', htables'⟩ := @run_migrate σ D G began current db.txns.length step
      (step.apply D.driver) steps next rows hversions hnext
    obtain ⟨db'', hrun', hversions'', htables''⟩ :=
      ih hnew hversions' (by rw [htables']; exact hall)
    exact ⟨db'', hrun.trans hrun', by rw [hversions'']; simp, htables''⟩

/-- A call whose statements succeed completes what the calls before it have left. -/
theorem run_applyMigrations {final : σ} (hdb : MigratedUpTo D M tables k db)
    (hrows : db.versions ≠ some []) (hne : M.getOrderedMigrations ≠ [])
    (hrest : migrateAll D (M.getOrderedMigrations.drop k) db.tables = .ok final) :
    ∃ db', (applyMigrations D.driver M).run (MigrationStmt.exec D G) db = (.ok (), db') ∧
      db'.versions = some (versionRows M.getOrderedMigrations) ∧ db'.tables = final := by
  obtain ⟨hversions, hle, hlt⟩ := ensureDBVersion_eq (G := G) hdb hrows
  have hskip : runMigrations D.driver _ _ = _ :=
    runMigrations_append hle (M.getOrderedMigrations.drop k)
  rw [List.take_append_drop] at hskip
  let ensured : MigratedDatabase σ := { db with versions := some (G.ensureDBVersion db.versions).2 }
  obtain ⟨db', hrun, hversions', htables⟩ := @run_runMigrations σ D G ensured _ _ _ final hlt rfl
    hrest
  refine ⟨db', ?_, ?_, htables⟩
  · rw [applyMigrations_eq hne, Prog.run_exec]
    simp only [MigrationStmt.exec, MigratedDatabase.ensureDBVersion, if_neg hrows, mapError_ok,
      Prog.ret_ok_bind]
    rw [hskip]
    exact hrun
  · rw [hversions', hversions]
    simp only [versionRows, List.cons_append, ← List.map_append, List.take_append_drop]

/-- Whole migrations leave what they leave. -/
theorem applied_of_migrateAll {now : σ} (hle : k ≤ M.getOrderedMigrations.length)
    (h : migrateAll D (M.getOrderedMigrations.take k) tables = .ok now) :
    Applied D M tables k now := by
  induction k generalizing now with
  | zero =>
    cases h
    exact .fresh
  | succ k ih =>
    have hstep : M.getOrderedMigrations[k]? = some M.getOrderedMigrations[k] :=
      List.getElem?_eq_getElem hle
    rw [List.take_add_one, hstep, migrateAll, List.foldlM_append, bind_eq_ok] at h
    obtain ⟨before, hbefore, h⟩ := h
    rw [← migrateAll, Option.toList_some, migrateAll_singleton] at h
    exact .whole (ih (Nat.le_of_succ_le hle) hbefore) hstep h

theorem Migrated.upTo (h : Migrated D M tables k db) : MigratedUpTo D M tables k db where
  le := h.le
  applied := applied_of_migrateAll h.le h.tables_eq
  versions_eq := h.versions_eq.imp_right (And.imp_right .inl)

/-- From the first migrations and nothing else, that is one pass over all migrations. -/
theorem applyMigrations_completes {final : σ} (hdb : Migrated D M tables k db)
    (hne : M.getOrderedMigrations ≠ [])
    (hall : migrateAll D M.getOrderedMigrations tables = .ok final) :
    ∃ db', (applyMigrations D.driver M).run (MigrationStmt.exec D G) db = (.ok (), db') ∧
      db'.versions = some (versionRows M.getOrderedMigrations) ∧ db'.tables = final := by
  have hrest : migrateAll D (M.getOrderedMigrations.drop k) db.tables = .ok final := by
    rw [← migrateAll_append hdb.tables_eq, List.take_append_drop]
    exact hall
  refine run_applyMigrations hdb.upTo ?_ hne hrest
  obtain h | ⟨-, h⟩ := hdb.versions_eq
  · simp [h, versionRows]
  · simp [h]

end Invariant

end Programs

/-! ## The registered migrations on two servers -/

/-- A version table that is a list, whose last row counts. -/
def sampleGoose : Goose where
  ensureDBVersion rows := ((rows.bind List.getLast?).getD 0, rows.getD [0])
  finalizeMigration v rows := rows ++ [v]
  ensureDBVersion_none := rfl
  ensureDBVersion_some rows v := by simp
  finalizeMigration_eq _ _ := rfl

/-- A server that remembers the statements it has executed. -/
def sampleServer (driver : DBDriver) : DBServer (List MigrationQuery) where
  driver := driver
  exec query tables := .ok (tables ++ [query])

theorem ordered_ne_nil : registeredMigrations.getOrderedMigrations ≠ [] := by
  rw [ordered_registered]
  exact List.cons_ne_nil _ _

/-- The first statements of a call. -/
theorem exists_statements :
    ∃ k₁, applyMigrations .mysql registeredMigrations = .exec .ensureDBVersion k₁ ∧
    ∃ k₂, k₁ (.ok 0) = .exec .dbBegin k₂ ∧
    ∃ k₃, k₂ (.ok 0) = .exec (.txnExec 0 (.ddl (createTokens .mysql))) k₃ ∧
    ∃ k₄, k₃ (.ok ()) = .exec (.txnExec 0 (.ddl createCnsisTable)) k₄ ∧
      ∀ e, k₄ (.error e) = .ret (.error e) := by
  have hbegin : runMigrations .mysql 0 registeredMigrations.getOrderedMigrations =
      .exec .dbBegin fun reply => Prog.ret reply >>= fun txn =>
        migrate .mysql 0 txn initialSchema (initialSchema.apply .mysql) migrationSteps.tail := by
    rw [ordered_registered]
    exact runMigrations_cons (by decide)
  exact ⟨_, applyMigrations_eq ordered_ne_nil, _, hbegin, _, migrate_cons, _, migrate_cons,
    fun e => rfl⟩

/-- On MySQL a call fails at its second statement and leaves what the first one did. An instance
waits, and another call begins. -/
theorem migrated_of_run_retried : ∃ b : MigrationPool (List MigrationQuery),
    b.store = ⟨some [0], [.ddl (createTokens .mysql)], [none]⟩ ∧
    ∃ k, MigratedUpTo (sampleServer .mysql) registeredMigrations [] k b.store ∧
      ((sampleServer .mysql).driver ≠ .mysql →
        Migrated (sampleServer .mysql) registeredMigrations [] k b.store) ∧
      ∀ t ∈ b.threads, t.prog = .ret (.ok ()) →
        k = registeredMigrations.getOrderedMigrations.length := by
  obtain ⟨k₁, h₁, k₂, h₂, k₃, h₃, k₄, h₄, hfail⟩ := exists_statements
  let call : MigrationThread :=
    .start .applyMigrations (applyMigrations .mysql registeredMigrations)
  let ensured : MigrationThread := call.advance .ensureDBVersion (.ok 0) (k₁ (.ok 0))
  let began : MigrationThread := ensured.advance .dbBegin (.ok 0) (k₂ (.ok 0))
  let created : MigrationThread := began.advance (.txnExec 0 (.ddl (createTokens .mysql)))
    (.ok ()) (k₃ (.ok ()))
  let failed : MigrationThread := created.advance (.txnExec 0 (.ddl createCnsisTable))
    (.error (.new "invalid connection")) (k₄ (.error (.new "invalid connection")))
  let wait : MigrationThread := .start .waitForMigrations (waitForMigrations registeredMigrations)
  let Reached := MigrationRun (sampleServer .mysql) sampleGoose registeredMigrations
    (Pool.init (fresh []))
  have hstarted : Reached ⟨fresh [], [call]⟩ :=
    .single (.start _ [] MigrationRequest.applyMigrations)
  have hensured : Reached ⟨⟨some [0], [], []⟩, [ensured]⟩ :=
    hstarted.exec h₁ (executes_exec .ensureDBVersion (fresh [])) (by simp [Alone])
  have hbegan : Reached ⟨⟨some [0], [], [some []]⟩, [began]⟩ :=
    hensured.exec h₂ (executes_exec .dbBegin _) (by simp [Alone])
  have hcreated : Reached ⟨⟨some [0], [.ddl (createTokens .mysql)], [none]⟩, [created]⟩ :=
    hbegan.exec h₃ (executes_exec (.txnExec 0 (.ddl (createTokens .mysql))) _) (by simp [Alone])
  have hwaiting : Reached ⟨⟨some [0], [.ddl (createTokens .mysql)], [none]⟩, [created, wait]⟩ :=
    hcreated.tail (.start _ _ MigrationRequest.waitForMigrations)
  have hfailed : Reached ⟨⟨some [0], [.ddl (createTokens .mysql)], [none]⟩, [failed, wait]⟩ :=
    hwaiting.tail (.stmt [] [wait] created h₄ (.failed _ _ _) (by simp [Alone, wait, Thread.start]))
  have hretried : Reached ⟨⟨some [0], [.ddl (createTokens .mysql)], [none]⟩,
      [failed, wait, call]⟩ := hfailed.tail (.start _ _ MigrationRequest.applyMigrations)
  have hagain : Reached ⟨⟨some [0], [.ddl (createTokens .mysql)], [none]⟩,
      [failed, wait, ensured]⟩ := by
    refine hretried.tail (.stmt [failed, wait] [] call h₁ (executes_exec .ensureDBVersion _) ?_)
    intro _
    refine List.forall_mem_cons.2 ⟨fun _ => .inl ⟨_, hfail _⟩, ?_⟩
    simp [wait, Thread.start]
  exact ⟨_, rfl, migrated_of_run hagain⟩


/-- On Postgres a call goes on after the first migration, and a call before it has left a
transaction open. -/
theorem applyMigrations_completes_resumed : ∃ db',
    (applyMigrations .postgres registeredMigrations).run
        (MigrationStmt.exec (sampleServer .postgres) sampleGoose)
        ⟨some [0, 20170818120003], initialSchema.apply .postgres, [some []]⟩ = (.ok (), db') ∧
      db'.versions = some (versionRows registeredMigrations.getOrderedMigrations) ∧
      db'.tables = migrationSteps.flatMap fun step => step.apply .postgres := by
  have hdb : Migrated (sampleServer .postgres) registeredMigrations [] 1
      ⟨some [0, 20170818120003], initialSchema.apply .postgres, [some []]⟩ := by
    refine ⟨?_, ?_, .inl ?_⟩ <;> rw [ordered_registered]
    · decide
    · rfl
    · rfl
  refine applyMigrations_completes hdb ordered_ne_nil ?_
  rw [ordered_registered]
  rfl

end Stratos.Migrator
