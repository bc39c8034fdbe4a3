import Mathlib.Data.List.Sort
import Mathlib.Algebra.Order.Ring.Int

/-!
# The registered migrations

Each migration of the database is a file that registers its version, its name and a function that
sends statements in a transaction, one after the other, and stops at the first error. Which
statements these are depends on the driver only.

`Migrations` are registered migrations whose versions are different. `GetOrderedMigrations` sorts
them, and `exists_version` says that the row of the last migration that was applied separates it
and those before it from those that are newer.
-/

namespace Stratos.Migrator

/-! ## Statements -/

/-- `conf.Driver.Name`. -/
inductive DBDriver
  | postgres
  | mysql
  | sqlite3
  deriving DecidableEq, Repr

/-- A statement of a migration. -/
inductive MigrationQuery
  /-- It defines a table, a column or an index (`CREATE`, `ALTER`). -/
  | ddl (text : String)
  /-- It changes rows (`DELETE`, `UPDATE`). -/
  | dml (text : String)
  deriving DecidableEq, Repr

/-- `stratosMigrationStep`. `apply` is what `Apply` sends. -/
structure StratosMigrationStep where
  version : ℤ
  name : String
  apply : DBDriver → List MigrationQuery

/-! ## The files -/

/-- `binaryDataType` -/
def binaryDataType (driver : DBDriver) : String :=
  if driver = .mysql then "BLOB" else "BYTEA"

/-- The table of tokens. -/
def createTokens (driver : DBDriver) : String :=
  "CREATE TABLE IF NOT EXISTS tokens (" ++
  "user_guid     VARCHAR(36) NOT NULL, " ++
  "cnsi_guid     VARCHAR(36), " ++
  "token_type    VARCHAR(4)  NOT NULL, " ++
  "auth_token    " ++ binaryDataType driver ++ "       NOT NULL, " ++
  "refresh_token " ++ binaryDataType driver ++ "       NOT NULL, " ++
  "token_expiry  BIGINT      NOT NULL, " ++
  "last_updated  TIMESTAMP NOT NULL DEFAULT CURRENT_TIMESTAMP)" ++
  if driver = .postgres then " WITH (OIDS=FALSE);" else ";"

/-- The table of endpoints. -/
def createCnsisTable : String :=
  "CREATE TABLE IF NOT EXISTS cnsis (" ++
  "guid    VARCHAR(36)   NOT NULL UNIQUE," ++
  "name                      VARCHAR(255)  NOT NULL," ++
  "cnsi_type                 VARCHAR(3)    NOT NULL," ++
  "api_endpoint              VARCHAR(255)  NOT NULL," ++
  "auth_endpoint             VARCHAR(255)  NOT NULL," ++
  "token_endpoint            VARCHAR(255)  NOT NULL," ++
  "doppler_logging_endpoint  VARCHAR(255)  NOT NULL," ++
  "skip_ssl_validation       BOOLEAN       NOT NULL DEFAULT FALSE," ++
  "last_updated              TIMESTAMP     NOT NULL DEFAULT CURRENT_TIMESTAMP," ++
  "PRIMARY KEY (guid) );"

/-- The tables of tokens and endpoints (`20170818120003_InitialSchema.go`). -/
def initialSchema : StratosMigrationStep where
  version := 20170818120003
  name := "InitialSchema"
  apply driver := [
    .ddl (createTokens driver),
    .ddl createCnsisTable,
    .ddl "CREATE INDEX tokens_user_guid ON tokens (user_guid);",
    .ddl "CREATE INDEX tokens_cnsi_guid ON tokens (cnsi_guid);",
    .ddl "CREATE INDEX tokens_token_type ON tokens (token_type);",
    .ddl "CREATE INDEX cnsis_name ON cnsis (name);",
    .ddl "CREATE INDEX cnsis_cnsi_type ON cnsis (cnsi_type);"]

/-- The table of the console's configuration. -/
def consoleConfigTable : String :=
  "CREATE TABLE IF NOT EXISTS console_config (" ++
  "  uaa_endpoint              VARCHAR(255)              NOT NULL, " ++
  "  console_admin_scope       VARCHAR(255)              NOT NULL," ++
  "  console_client            VARCHAR(255)              NOT NULL," ++
  "  console_client_secret     VARCHAR(255)              NOT NULL, " ++
  "  skip_ssl_validation       BOOLEAN                   NOT NULL DEFAULT FALSE," ++
  "  is_setup_complete         BOOLEAN                   NOT NULL DEFAULT FALSE," ++
  "  last_updated              TIMESTAMP                 NOT NULL DEFAULT CURRENT_TIMESTAMP);"

/-- The table of the configuration (`20170818162837_SetupSchema.go`). -/
def setupSchema : StratosMigrationStep where
  version := 20170818162837
  name := "SetupSchema"
  apply driver :=
    -- Find a way to ensure this in Mysql
    .ddl consoleConfigTable ::
      if driver = .postgres then
        [.ddl ("CREATE UNIQUE INDEX console_config_one_row" ++
          "  ON console_config((uaa_endpoint IS NOT NULL));")]
      else []

/-- A token may be disconnected (`20170829154900_TokenDisconnected.go`). -/
def tokenDisconnected : StratosMigrationStep where
  version := 20170829154900
  name := "TokenDisconnected"
  apply _ := [.ddl "ALTER TABLE tokens ADD COLUMN disconnected boolean NOT NULL DEFAULT FALSE;"]

/-- How a token authorises requests (`20171108102900_AuthType.go`). -/
def authType : StratosMigrationStep where
  version := 20171108102900
  name := "AuthType"
  apply _ := [
    .ddl "ALTER TABLE tokens ADD auth_type VARCHAR(255) DEFAULT 'OAuth2'",
    .ddl "ALTER TABLE tokens ADD meta_data TEXT"]

/-- Longer types of endpoints (`20180413135700_MetricsSchema.go`). -/
def metricsSchema : StratosMigrationStep where
  version := 20180413135700
  name := "MetricsSchema"
  apply
    -- SQLite does not support MODIFY on ALTER TABLE - but it doesn't mind about the column sizes
    | .sqlite3 => []
    | .postgres => [.ddl ("ALTER TABLE cnsis ALTER COLUMN cnsi_type TYPE VARCHAR(16), " ++
        "ALTER COLUMN cnsi_type SET NOT NULL")]
    | .mysql => [.ddl "ALTER TABLE cnsis modify cnsi_type VARCHAR(16) NOT NULL"]

/-- Removed migration -/
def updateMetadata : StratosMigrationStep where
  version := 20180627111300
  name := "UpdateMetadata"
  apply _ := []

/-- The file `20180703142800_CFClient.go` registers it under the name of another one. -/
def cfClient : StratosMigrationStep where
  version := 20180703142800
  name := "SetupSchema"
  apply driver := [
    .ddl "ALTER TABLE cnsis ADD COLUMN client_id VARCHAR(255) NOT NULL DEFAULT 'cf';",
    .ddl ("ALTER TABLE cnsis ADD COLUMN client_secret " ++ binaryDataType driver ++ ";")]

/-- Tokens without an endpoint go (`20180813110300_RemoveStaleTokens.go`). -/
def removeStaleTokens : StratosMigrationStep where
  version := 20180813110300
  name := "RemoveStaleTokens"
  apply _ := [.dml ("DELETE FROM tokens WHERE token_type='cnsi' AND " ++
    "cnsi_guid NOT IN (SELECT guid FROM cnsis);")]

/-- Tokens get a guid and may be linked (`20180824092600_LinkedTokens.go`). -/
def linkedTokens : StratosMigrationStep where
  version := 20180824092600
  name := "LinkedTokens"
  apply _ := [
    .ddl "ALTER TABLE tokens ADD token_guid VARCHAR(36) DEFAULT 'default-token'",
    .ddl "ALTER TABLE tokens ADD linked_token VARCHAR(36)",
    .dml ("UPDATE tokens SET token_guid=user_guid " ++
      "WHERE token_guid='default-token' AND token_type='uaa'"),
    .dml "UPDATE tokens SET token_guid=cnsi_guid WHERE token_guid='default-token'"]

/-- Single sign-on of endpoints (`20180831104300_SSOEndpointFlag.go`). -/
def ssoEndpointFlag : StratosMigrationStep where
  version := 20180831104300
  name := "SSOEndpointFlag"
  apply _ := [.ddl "ALTER TABLE cnsis ADD sso_allowed BOOLEAN NOT NULL DEFAULT FALSE"]

/-- Single sign-on of the console (`20180907123000_SSOSetupFlag.go`). -/
def ssoSetupFlag : StratosMigrationStep where
  version := 20180907123000
  name := "SSOSetupFlag"
  apply _ := [.ddl "ALTER TABLE console_config ADD use_sso BOOLEAN NOT NULL DEFAULT FALSE"]

/-- `migrationSteps`, in the order of the files. -/
def migrationSteps : List StratosMigrationStep :=
  [initialSchema, setupSchema, tokenDisconnected, authType, metricsSchema, updateMetadata,
    cfClient, removeStaleTokens, linkedTokens, ssoEndpointFlag, ssoSetupFlag]

/-! ## Registered migrations -/

/-- The versions of registered migrations are different, and newer than that of an empty
database. -/
structure Migrations where
  steps : List StratosMigrationStep
  nodup : (steps.map StratosMigrationStep.version).Nodup
  pos : ∀ step ∈ steps, 0 < step.version

/-- The migrations by their versions. -/
def Migrations.getOrderedMigrations (M : Migrations) : List StratosMigrationStep :=
  M.steps.mergeSort fun step step' => decide (step.version ≤ step'.version)

/-- The rows of `goose_db_version` after migrations. -/
def versionRows (steps : List StratosMigrationStep) : List ℤ :=
  0 :: steps.map StratosMigrationStep.version

section Ordered

variable (M : Migrations)

theorem ordered_perm : M.getOrderedMigrations.Perm M.steps := List.mergeSort_perm _ _

theorem pairwise_ordered :
    M.getOrderedMigrations.Pairwise fun step step' => step.version < step'.version := by
  have hsorted : M.getOrderedMigrations.Pairwise fun step step' =>
      step.version ≤ step'.version := by
    refine (List.pairwise_mergeSort ?_ ?_ M.steps).imp fun h => of_decide_eq_true h
    · intro a b c hab hbc
      exact decide_eq_true ((of_decide_eq_true hab).trans (of_decide_eq_true hbc))
    · intro a b
      simpa using le_total a.version b.version
  have hnodup : M.getOrderedMigrations.Pairwise fun step step' => step.version ≠ step'.version :=
    List.pairwise_map.1 (((ordered_perm M).map _).nodup_iff.2 M.nodup)
  exact hsorted.imp₂ (fun _ _ hle hne => lt_of_le_of_ne hle hne) hnodup

/-- The last row is the version of the database, and separates its migrations from the others. -/
theorem exists_version (k : ℕ) : ∃ rows v,
    versionRows (M.getOrderedMigrations.take k) = rows ++ [v] ∧
    (∀ step ∈ M.getOrderedMigrations.take k, step.version ≤ v) ∧
    ∀ step ∈ M.getOrderedMigrations.drop k, v < step.version := by
  have hpairwise : (versionRows M.getOrderedMigrations).Pairwise (· < ·) := by
    refine List.pairwise_cons.2 ⟨?_, List.pairwise_map.2 (pairwise_ordered M)⟩
    simp only [List.mem_map]
    rintro _ ⟨step, hstep, rfl⟩
    exact M.pos step ((ordered_perm M).mem_iff.1 hstep)
  obtain hnil | ⟨rows, v, hrows⟩ :=
    List.eq_nil_or_concat (versionRows (M.getOrderedMigrations.take k))
  · cases hnil
  have hsplit : versionRows M.getOrderedMigrations =
      rows ++ [v] ++ (M.getOrderedMigrations.drop k).map StratosMigrationStep.version := by
    rw [← List.concat_eq_append, ← hrows, versionRows, versionRows, List.cons_append,
      ← List.map_append, List.take_append_drop]
  rw [hsplit] at hpairwise
  obtain ⟨hbefore, -, hafter⟩ := List.pairwise_append.1 hpairwise
  refine ⟨rows, v, hrows.trans List.concat_eq_append, fun step hstep => ?_, fun step hstep => ?_⟩
  · have hmem : step.version ∈ rows ++ [v] := by
      rw [← List.concat_eq_append, ← hrows]
      exact List.mem_cons_of_mem _ (List.mem_map_of_mem hstep)
    rcases List.mem_append.1 hmem with h | h
    · exact ((List.pairwise_append.1 hbefore).2.2 _ h v List.mem_cons_self).le
    · exact (List.mem_singleton.1 h).le
  · exact hafter v (by simp) _ (List.mem_map_of_mem hstep)

end Ordered

/-! ## The migrations of the repository -/

/-- The files are in the order of the versions. -/
theorem pairwise_migrationSteps :
    migrationSteps.Pairwise fun step step' => step.version < step'.version := by
  have h : (migrationSteps.map StratosMigrationStep.version).Pairwise (· < ·) := by decide
  exact List.pairwise_map.1 h

theorem pos_migrationSteps : ∀ step ∈ migrationSteps, 0 < step.version := by
  have h : ∀ version ∈ migrationSteps.map StratosMigrationStep.version, 0 < version := by decide
  exact fun step hstep => h _ (List.mem_map_of_mem hstep)

/-- The migrations that the `init` functions register. -/
def registeredMigrations : Migrations where
  steps := migrationSteps
  nodup := List.pairwise_map.2 (pairwise_migrationSteps.imp fun h => h.ne)
  pos := pos_migrationSteps

theorem ordered_registered : registeredMigrations.getOrderedMigrations = migrationSteps :=
  List.mergeSort_of_pairwise (pairwise_migrationSteps.imp fun h => decide_eq_true h.le)

end Stratos.Migrator
