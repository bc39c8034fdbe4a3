import Stratos.Lib.Conninfo
import Stratos.Lib.Dsn
import Mathlib.Data.Nat.Digits.Lemmas
import Mathlib.Data.Int.Notation

/-!
# The connection string of the database

`NewDatabaseConnectionParametersFromConfig` fills in defaults and checks a configuration, with the
checks of the package `vala`, which is a parameter here. `buildConnectionString` and
`buildConnectionStringForMysql` write the connection strings of the two providers.

Both escape values with `escapeStr`, which puts a backslash before each quote. PostgreSQL reads a
backslash as an escape whatever follows it, and the host is not escaped at all ; a data source name
of MySQL has no escapes. `roundTrips_iff` says which accepted configurations are read back as they
were configured (`Unaltered`). A backslash in a password is lost
(`not_roundTrips_backslash`).
-/

open Lib

namespace Stratos

namespace ConnectionString

/-- A string of Go. -/
abbrev Text := List Char

/-- The verb `%d` of `fmt`. -/
def formatInt (n : ℤ) : Text := (toString n).toList

/-- `DatabaseConfig`. -/
structure DatabaseConfig where
  databaseProvider : Text
  username : Text
  password : Text
  database : Text
  host : Text
  port : ℤ
  sslMode : Text
  connectionTimeoutInSecs : ℤ
  sslCertificate : Text
  sslKey : Text
  sslRootCertificate : Text
  deriving DecidableEq

/-- The name of SQLite. -/
def SQLITE : Text := "sqlite".toList

/-- The name of PostgreSQL. -/
def PGSQL : Text := "pgsql".toList

/-- The name of MySQL. -/
def MYSQL : Text := "mysql".toList

/-- No encryption. -/
def SSLDisabled : Text := "disable".toList

/-- Encryption, with any certificate. -/
def SSLRequired : Text := "require".toList

/-- Encryption, with a certificate that an authority signed. -/
def SSLVerifyCA : Text := "verify-ca".toList

/-- Encryption, with a certificate that is the one of the host, too. -/
def SSLVerifyFull : Text := "verify-full".toList

/-- The seconds that are waited for a connection. -/
def defaultConnectionTimeout : ℤ := 10

/-- The verb `%v` of `fmt` for a configuration. -/
def DatabaseConfig.format (dc : DatabaseConfig) : Text :=
  '\x7b' :: [' '].intercalate [dc.databaseProvider, dc.username, dc.password, dc.database, dc.host,
    formatInt dc.port, dc.sslMode, formatInt dc.connectionTimeoutInSecs, dc.sslCertificate,
    dc.sslKey, dc.sslRootCertificate] ++ ['\x7d']

/-- MySQL is the default provider, and a timeout that is not positive is replaced. -/
def DatabaseConfig.withDefaults (dc : DatabaseConfig) : DatabaseConfig where
  __ := dc
  databaseProvider := if dc.databaseProvider = [] then MYSQL else dc.databaseProvider
  connectionTimeoutInSecs :=
    if dc.connectionTimeoutInSecs ≤ 0 then defaultConnectionTimeout else dc.connectionTimeoutInSecs

/-- The checkers of `vala`. -/
inductive Checker
  | isNotNil (obtained : Text) (paramName : Text)
  | greaterThan (param : ℤ) (comparativeVal : ℤ) (paramName : Text)
  | not (checker : Checker)

/-- What a checker is documented to check. -/
def Checker.holds : Checker → Bool
  | isNotNil obtained _ => obtained ≠ []
  | greaterThan param comparativeVal _ => comparativeVal < param
  | not checker => !checker.holds

section Config

-- `Validate` and `Check` of `vala` : the error if a checker fails.
variable (check : List Checker → Option Text)

/-- The message about the first parameter that is not valid. -/
def validateRequiredDatabaseParams (username password database host : Text) (port : ℤ) :
    Option Text :=
  check [.isNotNil username "username".toList, .isNotNil password "password".toList,
    .isNotNil database "database".toList, .isNotNil host "host".toList,
    .greaterThan port 0 "port".toList, .not (.greaterThan port 65535 "port".toList)]

/-- `NewDatabaseConnectionParametersFromConfig` : the configuration with its defaults, and the
error if it is not accepted. -/
def newDatabaseConnectionParametersFromConfig (dc : DatabaseConfig) :
    DatabaseConfig × Option Text :=
  let dc := dc.withDefaults
  if dc.databaseProvider = SQLITE then (dc, none)
  else match validateRequiredDatabaseParams check dc.username dc.password dc.database dc.host
      dc.port with
    | some err => (dc, some err)
    | none =>
      if dc.databaseProvider = PGSQL then
        if dc.sslMode = SSLDisabled ∨ dc.sslMode = SSLRequired ∨ dc.sslMode = SSLVerifyCA ∨
            dc.sslMode = SSLVerifyFull then (dc, none)
        else (dc, some ("Invalid SSL mode: ".toList ++ dc.sslMode))
      else if dc.databaseProvider = MYSQL then (dc, none)
      else (dc, some ("Invalid provider ".toList ++ dc.format))

end Config

/-- `strings.Replace` of each quote by a backslash and a quote. -/
def escapeStr (s : Text) : Text := s.flatMap fun c => if c = '\'' then ['\\', '\''] else [c]

/-- A parameter of PostgreSQL that is left out when its value is empty. -/
def optional (name value written : Text) : Text :=
  if value = [] then [] else ' ' :: (name ++ '=' :: '\'' :: (written ++ ['\'']))

/-- The connection string of PostgreSQL. -/
def buildConnectionString (dc : DatabaseConfig) : Text :=
  "user='".toList ++ escapeStr dc.username ++ "' password='".toList ++ escapeStr dc.password ++
    "' dbname='".toList ++ escapeStr dc.database ++ "' host='".toList ++ dc.host ++
    "' port=".toList ++ formatInt dc.port ++ " connect_timeout=".toList ++
    formatInt dc.connectionTimeoutInSecs ++
    optional "sslmode".toList dc.sslMode dc.sslMode ++
    optional "sslcert".toList dc.sslCertificate (escapeStr dc.sslCertificate) ++
    optional "sslkey".toList dc.sslKey (escapeStr dc.sslKey) ++
    optional "sslrootcert".toList dc.sslRootCertificate (escapeStr dc.sslRootCertificate)

/-- The connection string of MySQL. -/
def buildConnectionStringForMysql (dc : DatabaseConfig) : Text :=
  escapeStr dc.username ++ ":".toList ++ escapeStr dc.password ++ "@tcp(".toList ++ dc.host ++
    ":".toList ++ formatInt dc.port ++ ")/".toList ++ escapeStr dc.database ++
    "?parseTime=true".toList

/-! ## What is configured -/

namespace DatabaseConfig

variable (dc : DatabaseConfig)

/-- The parameters of PostgreSQL. -/
def params : List Conninfo.Param :=
  [("user".toList, dc.username), ("password".toList, dc.password), ("dbname".toList, dc.database),
    ("host".toList, dc.host), ("port".toList, formatInt dc.port),
    ("connect_timeout".toList, formatInt dc.connectionTimeoutInSecs)] ++
  [("sslmode".toList, dc.sslMode), ("sslcert".toList, dc.sslCertificate),
    ("sslkey".toList, dc.sslKey), ("sslrootcert".toList, dc.sslRootCertificate)].filter (·.2 ≠ [])

/-- The data source of MySQL. -/
def dsn : Dsn where
  user := dc.username
  passwd := dc.password
  net := "tcp".toList
  host := dc.host
  port := formatInt dc.port
  dbName := dc.database
  params := [("parseTime".toList, "true".toList)]

/-- A data source name can hold the user name and the database. -/
def IsSeparable : Prop := ':' ∉ dc.username ∧ '?' ∉ dc.database ∧ '/' ∉ dc.database

/-- The connection string of the provider is read as what is configured. -/
structure RoundTrips : Prop where
  pgsql : dc.databaseProvider = PGSQL →
    Conninfo.parse (buildConnectionString dc) = some dc.params
  mysql : dc.databaseProvider = MYSQL → dc.IsSeparable →
    Dsn.parse (buildConnectionStringForMysql dc) = some dc.dsn

/-- No value has a character that the connection string of the provider alters. -/
structure Unaltered : Prop where
  pgsql : dc.databaseProvider = PGSQL →
    (∀ value ∈ [dc.username, dc.password, dc.database, dc.host, dc.sslCertificate, dc.sslKey,
      dc.sslRootCertificate], '\\' ∉ value) ∧ '\'' ∉ dc.host
  mysql : dc.databaseProvider = MYSQL → dc.IsSeparable →
    (∀ value ∈ [dc.username, dc.password, dc.database], '\'' ∉ value) ∧
      ∀ c ∈ ['@', ':', '[', ']'], c ∉ dc.host

end DatabaseConfig

/-! ## Values as they are written -/

section Written

variable {s : Text} {c : Char} {n : ℤ}

theorem formatInt_ne_nil (n : ℤ) : formatInt n ≠ [] := by
  rcases n with m | m <;> simp [formatInt, toString, Int.repr, Nat.repr]

theorem isDigit_of_mem_formatInt (h : c ∈ formatInt n) : c.isDigit = true ∨ c = '-' := by
  rcases n with m | m <;> simp [formatInt, toString, Int.repr, Nat.repr] at h
  · exact Or.inl (Nat.isDigit_of_mem_toDigits (by decide) (by decide) h)
  · rcases h with rfl | h
    · exact Or.inr rfl
    · exact Or.inl (Nat.isDigit_of_mem_toDigits (by decide) (by decide) h)

theorem notMem_formatInt (hdigit : c.isDigit = false) (hminus : c ≠ '-') : c ∉ formatInt n := by
  intro h
  rcases isDigit_of_mem_formatInt h with h | h
  · simp [hdigit] at h
  · exact hminus h

theorem escapeStr_eq_written (s : Text) : escapeStr s = Conninfo.written true s := by
  simp only [escapeStr, Conninfo.written, true_and]
  congr 1
  funext c
  split_ifs with h
  · rw [h]
  · rfl

theorem written_false (s : Text) : Conninfo.written false s = s := by
  simp [Conninfo.written]

@[simp] theorem escapeStr_nil : escapeStr [] = [] :=
  rfl

theorem escapeStr_quote : escapeStr ('\'' :: s) = '\\' :: '\'' :: escapeStr s :=
  rfl

theorem escapeStr_cons (hc : c ≠ '\'') : escapeStr (c :: s) = c :: escapeStr s := by
  simp [escapeStr, hc]

theorem mem_escapeStr (hc : c ≠ '\\') : c ∈ escapeStr s ↔ c ∈ s := by
  induction s with
  | nil => simp
  | cons d s ih =>
    rcases eq_or_ne d '\'' with rfl | hd
    · simp [escapeStr_quote, hc, ih]
    · simp [escapeStr_cons hd, ih]

theorem length_le_escapeStr (s : Text) : s.length ≤ (escapeStr s).length := by
  induction s with
  | nil => simp
  | cons c s ih =>
    rcases eq_or_ne c '\'' with rfl | hc
    · simp [escapeStr_quote]
      omega
    · simp [escapeStr_cons hc, ih]

theorem escapeStr_eq_self_iff : escapeStr s = s ↔ '\'' ∉ s := by
  induction s with
  | nil => simp
  | cons c s ih =>
    rcases eq_or_ne c '\'' with rfl | hc
    · simp [escapeStr_quote]
    · simp [escapeStr_cons hc, ih, hc.symm]

end Written

/-! ## The connection string of PostgreSQL -/

section Pgsql

variable {dc : DatabaseConfig}

/-- The items of the connection string. -/
def DatabaseConfig.items (dc : DatabaseConfig) : List Conninfo.Item :=
  [⟨"user".toList, dc.username, .quoted true⟩, ⟨"password".toList, dc.password, .quoted true⟩,
    ⟨"dbname".toList, dc.database, .quoted true⟩, ⟨"host".toList, dc.host, .quoted false⟩,
    ⟨"port".toList, formatInt dc.port, .bare⟩,
    ⟨"connect_timeout".toList, formatInt dc.connectionTimeoutInSecs, .bare⟩] ++
  [⟨"sslmode".toList, dc.sslMode, .quoted false⟩,
    ⟨"sslcert".toList, dc.sslCertificate, .quoted true⟩,
    ⟨"sslkey".toList, dc.sslKey, .quoted true⟩,
    ⟨"sslrootcert".toList, dc.sslRootCertificate, .quoted true⟩].filter (·.value ≠ [])

theorem map_param_items (dc : DatabaseConfig) : dc.items.map Conninfo.Item.param = dc.params := by
  rw [DatabaseConfig.items, List.map_append]
  exact congrArg _ (List.filter_map (p := fun param : Conninfo.Param => param.2 ≠ [])).symm

theorem text_escaped (name value : Text) : Conninfo.Item.text ⟨name, value, .quoted true⟩ =
    name ++ '=' :: '\'' :: (escapeStr value ++ ['\'']) := by
  rw [escapeStr_eq_written]
  rfl

theorem text_raw (name value : Text) : Conninfo.Item.text ⟨name, value, .quoted false⟩ =
    name ++ '=' :: '\'' :: (value ++ ['\'']) := by
  have h := written_false value
  rw [Conninfo.Item.text]
  dsimp only
  rw [h]

theorem text_bare (name value : Text) : Conninfo.Item.text ⟨name, value, .bare⟩ =
    name ++ '=' :: value :=
  rfl

/-- The items that are left out are those that `optional` does not write. -/
theorem spaced_filter_cons {name value written : Text} {style : Conninfo.Style}
    (h : Conninfo.Item.text ⟨name, value, style⟩ = name ++ '=' :: '\'' :: (written ++ ['\'']))
    (items : List Conninfo.Item) :
    Conninfo.spaced ((⟨name, value, style⟩ :: items).filter (·.value ≠ [])) =
      optional name value written ++ Conninfo.spaced (items.filter (·.value ≠ [])) := by
  rcases eq_or_ne value [] with rfl | hne
  · simp [optional]
  · simp [optional, hne, Conninfo.spaced_cons, h]

theorem spaced_items (dc : DatabaseConfig) :
    Conninfo.spaced dc.items = ' ' :: buildConnectionString dc := by
  rw [DatabaseConfig.items, Conninfo.spaced_append, spaced_filter_cons (text_raw _ _),
    spaced_filter_cons (text_escaped _ _), spaced_filter_cons (text_escaped _ _),
    spaced_filter_cons (text_escaped _ _)]
  simp only [List.filter_nil, Conninfo.spaced_cons, Conninfo.spaced_nil, text_escaped, text_raw,
    text_bare]
  delta buildConnectionString
  simp only [String.reduceToList, List.append_assoc, List.cons_append, List.nil_append,
    List.append_nil]

theorem isWord_of_all {name : Text} (h : name.all fun c => !Conninfo.isSpace c && c != '=') :
    ∀ c ∈ name, Conninfo.isSpace c = false ∧ c ≠ '=' := by
  simpa [List.all_eq_true] using h

theorem proper_quoted {name : Text} (hne : name ≠ [])
    (hname : name.all fun c => !Conninfo.isSpace c && c != '=') (value : Text) (escape : Bool) :
    Conninfo.Item.Proper ⟨name, value, .quoted escape⟩ :=
  ⟨hne, isWord_of_all hname, nofun, nofun⟩

theorem proper_formatInt {name : Text} (hne : name ≠ [])
    (hname : name.all fun c => !Conninfo.isSpace c && c != '=') (n : ℤ) :
    Conninfo.Item.Proper ⟨name, formatInt n, .bare⟩ := by
  refine ⟨hne, isWord_of_all hname, fun _ => formatInt_ne_nil n, fun _ c hc => ?_⟩
  refine ⟨?_, ?_, ?_⟩
  · by_contra hspace
    simp only [Conninfo.isSpace, Bool.not_eq_false, Bool.or_eq_true, decide_eq_true_eq] at hspace
    rcases hspace with ((((rfl | rfl) | rfl) | rfl) | rfl) | rfl <;>
      exact notMem_formatInt (by decide) (by decide) hc
  · rintro rfl
    exact notMem_formatInt (by decide) (by decide) hc
  · rintro rfl
    exact notMem_formatInt (by decide) (by decide) hc

theorem proper_of_mem_items {i : Conninfo.Item} (h : i ∈ dc.items) : i.Proper := by
  simp only [DatabaseConfig.items, List.mem_append, List.mem_filter, List.mem_cons,
    List.not_mem_nil, or_false] at h
  rcases h with (rfl | rfl | rfl | rfl | rfl | rfl) | ⟨rfl | rfl | rfl | rfl, -⟩
  case inl.inr.inr.inr.inr.inl => exact proper_formatInt (by decide) (by decide) _
  case inl.inr.inr.inr.inr.inr => exact proper_formatInt (by decide) (by decide) _
  all_goals exact proper_quoted (by decide) (by decide) _ _

theorem isReadable_escaped (name value : Text) :
    Conninfo.Item.IsReadable ⟨name, value, .quoted true⟩ ↔ '\\' ∉ value := by
  simp [Conninfo.Item.IsReadable, Conninfo.Readable]

theorem isReadable_raw (name value : Text) :
    Conninfo.Item.IsReadable ⟨name, value, .quoted false⟩ ↔ '\\' ∉ value ∧ '\'' ∉ value := by
  simp [Conninfo.Item.IsReadable, Conninfo.Readable]

theorem isReadable_bare (name value : Text) : Conninfo.Item.IsReadable ⟨name, value, .bare⟩ :=
  nofun

/-- The SSL mode is one of the modes of the driver. -/
def DatabaseConfig.HasSSLMode (dc : DatabaseConfig) : Prop :=
  dc.sslMode = SSLDisabled ∨ dc.sslMode = SSLRequired ∨ dc.sslMode = SSLVerifyCA ∨
    dc.sslMode = SSLVerifyFull

theorem readable_sslMode (hmode : dc.HasSSLMode) : '\\' ∉ dc.sslMode ∧ '\'' ∉ dc.sslMode := by
  rcases hmode with h | h | h | h <;> rw [h] <;> decide

/-- An empty value is read back. -/
theorem forall_filter_isReadable (items : List Conninfo.Item) :
    (∀ i ∈ items.filter (·.value ≠ []), i.IsReadable) ↔ ∀ i ∈ items, i.IsReadable := by
  refine ⟨fun h i hi => ?_, fun h i hi => h i (List.mem_of_mem_filter hi)⟩
  rcases eq_or_ne i.value [] with hnil | hne
  · intro escape _
    simp [Conninfo.Readable, hnil]
  · exact h i (List.mem_filter.2 ⟨hi, by simpa using hne⟩)

theorem readable_items_iff (hmode : dc.HasSSLMode) :
    (∀ i ∈ dc.items, i.IsReadable) ↔
      (∀ value ∈ [dc.username, dc.password, dc.database, dc.host, dc.sslCertificate, dc.sslKey,
        dc.sslRootCertificate], '\\' ∉ value) ∧ '\'' ∉ dc.host := by
  have hmode := readable_sslMode hmode
  rw [DatabaseConfig.items, List.forall_mem_append, forall_filter_isReadable]
  simp only [List.forall_mem_cons, isReadable_escaped, isReadable_raw, isReadable_bare]
  simp [hmode]
  tauto

theorem parse_buildConnectionString_iff (hmode : dc.HasSSLMode) :
    Conninfo.parse (buildConnectionString dc) = some dc.params ↔
      (∀ value ∈ [dc.username, dc.password, dc.database, dc.host, dc.sslCertificate, dc.sslKey,
        dc.sslRootCertificate], '\\' ∉ value) ∧ '\'' ∉ dc.host := by
  rw [← Conninfo.parse_space, ← spaced_items, ← map_param_items,
    Conninfo.parse_spaced_iff fun i => proper_of_mem_items, readable_items_iff hmode]

end Pgsql

/-! ## The data source name of MySQL -/

section Mysql

variable {dc : DatabaseConfig}

theorem separable_escapeStr (h : dc.IsSeparable) :
    Dsn.Separable (escapeStr dc.username) "tcp".toList (escapeStr dc.database)
      "parseTime=true".toList where
  user := by rw [mem_escapeStr (by decide)]; exact h.1
  net_at := by decide
  net_bracket := by decide
  dbName_slash := by rw [mem_escapeStr (by decide)]; exact h.2.2
  dbName_mark := by rw [mem_escapeStr (by decide)]; exact h.2.1
  params := by decide

theorem buildConnectionStringForMysql_eq_text (dc : DatabaseConfig) :
    buildConnectionStringForMysql dc = Dsn.text (escapeStr dc.username) (escapeStr dc.password)
      "tcp".toList (dc.host ++ ':' :: formatInt dc.port) (escapeStr dc.database)
      "parseTime=true".toList := by
  delta buildConnectionStringForMysql Dsn.text
  simp only [String.reduceToList, List.append_assoc, List.cons_append, List.nil_append]

theorem parse_buildConnectionStringForMysql_iff (h : dc.IsSeparable) :
    Dsn.parse (buildConnectionStringForMysql dc) = some dc.dsn ↔
      (∀ value ∈ [dc.username, dc.password, dc.database], '\'' ∉ value) ∧
        ∀ c ∈ ['@', ':', '[', ']'], c ∉ dc.host := by
  have hseparable := separable_escapeStr h
  have hport : ∀ c ∈ ['@', ':', '[', ']'], c ∉ formatInt dc.port := by
    simp only [List.forall_mem_cons]
    exact ⟨notMem_formatInt (by decide) (by decide), notMem_formatInt (by decide) (by decide),
      notMem_formatInt (by decide) (by decide), notMem_formatInt (by decide) (by decide), nofun⟩
  have haddr : '@' ∈ dc.host ++ ':' :: formatInt dc.port ↔ '@' ∈ dc.host := by
    simp [hport '@' (by decide)]
  rw [buildConnectionStringForMysql_eq_text]
  by_cases hat : '@' ∈ dc.host
  · -- The password that is read is longer than the one that is configured.
    refine iff_of_false (fun hparse => ?_) fun h => h.2 '@' (by decide) hat
    have hlonger := Dsn.passwd_of_at_mem hseparable (haddr.2 hat) hparse
    have hle := length_le_escapeStr dc.password
    simp only [DatabaseConfig.dsn] at hlonger
    omega
  · have hparams : Dsn.parameters "parseTime=true".toList =
        [("parseTime".toList, "true".toList)] := by decide
    have hhost := @Dsn.hostPort_append_iff dc.host _ (hport ':' (by decide))
      (hport '[' (by decide)) (hport ']' (by decide))
    rw [Prod.ext_iff] at hhost
    rw [Dsn.parse_text hseparable (mt haddr.1 hat), hparams]
    simp only [DatabaseConfig.dsn, Option.some.injEq, Dsn.mk.injEq, escapeStr_eq_self_iff,
      true_and, and_true, List.forall_mem_cons, hat, not_false_iff]
    simp only [List.not_mem_nil, false_implies, implies_true, and_true]
    tauto

end Mysql

/-! ## Configurations that are accepted -/

section Accepted

variable {check : List Checker → Option Text} {dc dc' : DatabaseConfig}

theorem sslMode_of_accepted
    (h : newDatabaseConnectionParametersFromConfig check dc = (dc', none))
    (hprovider : dc'.databaseProvider = PGSQL) : dc'.HasSSLMode := by
  rw [newDatabaseConnectionParametersFromConfig] at h
  generalize dc.withDefaults = d at h
  have hsqlite : d.databaseProvider = SQLITE → d ≠ dc' := by
    rintro hlite rfl
    exact absurd (hprovider.symm.trans hlite) (by decide)
  generalize validateRequiredDatabaseParams check d.username d.password d.database d.host d.port =
    valid at h
  rcases valid with _ | err
  · dsimp only at h
    split_ifs at h with hlite hpgsql hmode hmysql
    · exact absurd (congrArg Prod.fst h) (hsqlite hlite)
    · obtain rfl : d = dc' := congrArg Prod.fst h
      exact hmode
    · cases h
    · obtain rfl : d = dc' := congrArg Prod.fst h
      exact absurd hprovider hpgsql
    · cases h
  · dsimp only at h
    split_ifs at h with hlite
    · exact absurd (congrArg Prod.fst h) (hsqlite hlite)
    · cases h

/-- A configuration for PostgreSQL. -/
def pgsqlConfig (password sslCertificate : Text) : DatabaseConfig where
  databaseProvider := PGSQL
  username := "console".toList
  password := password
  database := "console-db".toList
  host := "db".toList
  port := 5432
  sslMode := "disable".toList
  connectionTimeoutInSecs := 10
  sslCertificate := sslCertificate
  sslKey := []
  sslRootCertificate := []

/-- `Check` of `vala`, with one text for every error. -/
def valaCheck (checkers : List Checker) : Option Text :=
  if checkers.all Checker.holds then none else some "parameter validation failed".toList

/-- The drivers read back what was configured exactly where nothing of it is altered on the way. -/
theorem roundTrips_iff (h : newDatabaseConnectionParametersFromConfig check dc = (dc', none)) :
    dc'.RoundTrips ↔ dc'.Unaltered := by
  constructor
  · rintro ⟨hpgsql, hmysql⟩
    exact ⟨fun hprovider => (parse_buildConnectionString_iff (sslMode_of_accepted h hprovider)).1
      (hpgsql hprovider), fun hprovider hseparable =>
        (parse_buildConnectionStringForMysql_iff hseparable).1 (hmysql hprovider hseparable)⟩
  · rintro ⟨hpgsql, hmysql⟩
    exact ⟨fun hprovider => (parse_buildConnectionString_iff (sslMode_of_accepted h hprovider)).2
      (hpgsql hprovider), fun hprovider hseparable =>
        (parse_buildConnectionStringForMysql_iff hseparable).2 (hmysql hprovider hseparable)⟩

/-- Quotes in the password and spaces in the certificate are read back. -/
theorem roundTrips_quotes : (pgsqlConfig "it's".toList "my cert".toList).RoundTrips := by
  have haccepted : newDatabaseConnectionParametersFromConfig valaCheck
      (pgsqlConfig "it's".toList "my cert".toList) =
        (pgsqlConfig "it's".toList "my cert".toList, none) := by decide
  refine (roundTrips_iff haccepted).2 ⟨fun _ => by decide, fun h => ?_⟩
  exact absurd h (by decide)

/-- The password `a\b` is read as `ab`. -/
theorem not_roundTrips_backslash :
    newDatabaseConnectionParametersFromConfig valaCheck (pgsqlConfig "a\\b".toList []) =
      (pgsqlConfig "a\\b".toList [], none) ∧
    ¬(pgsqlConfig "a\\b".toList []).RoundTrips := by
  refine ⟨by decide, fun h => ?_⟩
  exact absurd (h.pgsql rfl) (by decide)

end Accepted

end ConnectionString

end Stratos
