import Stratos.Jetstream.PortalProxy
import Stratos.Lib.Interleaving

/-!
# Setting up the console

A console without a configuration is set up by two requests : one stores the UAA, after a user has
logged in to it, and the other one the scope of the administrators. Both are refused once there is
a complete configuration, which `SetupPoller` waits for. An instance that starts stores the
configuration of its environment if there is none.

Any number of requests, pollers and instances work on the table `console_config` at once
(`SetupRun`). Their statements are interleaved in any order, and each of them may fail. Instances
that run as a Cloud Foundry application are left out : the hosting plugin of such an instance stores
a configuration of its own at each start, whether or not there is one.

`rows_provided` says where the rows come from. `setup_final` says that a complete configuration
stays where the requests in progress have read nothing else and reads succeed, and
`lost_of_failed_count` that one read that fails can lose it.
-/

open Lib

namespace Stratos.Setup

/-! ## The table -/

/-- A row of `console_config`, and a `ConsoleConfig` with its `UAAEndpoint` as a text. -/
structure ConfigRow where
  uaaEndpoint : String
  consoleAdminScope : String
  consoleClient : String
  consoleClientSecret : String
  skipSSLValidation : Bool
  isSetupComplete : Bool
  useSSO : Bool
  deriving DecidableEq

/-- The rows of `console_config`, of which there should be one. -/
abbrev ConfigTable := List ConfigRow

/-- The statements of the repository. -/
inductive ConfigStmt
  | getTableCount
  | hasSetupCompleted
  | getConsoleConfig
  | deleteConsoleConfig
  | saveConsoleConfig (row : ConfigRow)
  | updateConsoleConfig (scope : String)

/-- What the database answers. -/
def ConfigStmt.Reply : ConfigStmt → Type
  | getTableCount => Except SqlError ℕ
  | hasSetupCompleted => Except SqlError (List Bool)
  | getConsoleConfig => Except SqlError (List ConfigRow)
  | deleteConsoleConfig => Except SqlError Unit
  | saveConsoleConfig _ => Except SqlError Unit
  | updateConsoleConfig _ => Except SqlError Unit

/-- `UPDATE console_config SET console_admin_scope = $1, is_setup_complete = '1'` -/
def ConfigRow.update (scope : String) (row : ConfigRow) : ConfigRow :=
  { row with consoleAdminScope := scope, isSetupComplete := true }

/-- A statement fails. -/
def ConfigStmt.failure (e : SqlError) : (s : ConfigStmt) → s.Reply
  | getTableCount => .error e
  | hasSetupCompleted => .error e
  | getConsoleConfig => .error e
  | deleteConsoleConfig => .error e
  | saveConsoleConfig _ => .error e
  | updateConsoleConfig _ => .error e

/-- What a statement can do to the table. The rows are read in any order. -/
inductive Executes : ConfigTable → (s : ConfigStmt) → s.Reply → ConfigTable → Prop
  | count (rows : ConfigTable) : Executes rows .getTableCount (.ok rows.length) rows
  | completed {rows : ConfigTable} {flags : List Bool}
      (h : flags.Perm (rows.map ConfigRow.isSetupComplete)) :
      Executes rows .hasSetupCompleted (.ok flags) rows
  | config {rows found : ConfigTable} (h : found.Perm rows) :
      Executes rows .getConsoleConfig (.ok found) rows
  | delete (rows : ConfigTable) : Executes rows .deleteConsoleConfig (.ok ()) []
  | save (rows : ConfigTable) (row : ConfigRow) :
      Executes rows (.saveConsoleConfig row) (.ok ()) (rows ++ [row])
  | update (rows : ConfigTable) (scope : String) :
      Executes rows (.updateConsoleConfig scope) (.ok ()) (rows.map (ConfigRow.update scope))
  | failed (rows : ConfigTable) (s : ConfigStmt) (e : SqlError) :
      Executes rows s (s.failure e) rows

/-! ## The repository -/

/-- What is done with the configuration, as the statements that it executes. -/
abbrev Conf (α : Type) := Prog ConfigStmt ConfigStmt.Reply GoError α

/-- The reply to a statement, or its error at the end of a text. -/
def orError {α : Type} (msg : String) (reply : Except SqlError α) : Conf α :=
  .ret (reply.mapError (.sql msg))

-- The retries while there is no table are left out.
/-- The configuration is there and complete. -/
def isInitialised : Conf Bool :=
  .exec .getTableCount fun reply => do
    let rowCount ← orError "Exception occurred when fetching row count: " reply
    if rowCount = 0 then return false
    .exec .hasSetupCompleted fun reply => do
      let flags ← orError "Exception occurred when fetching row: " reply
      -- Every row is scanned into the same variable.
      return flags.getLast?.getD false

/-- The configuration in the place of the old one, in two statements. -/
def saveConsoleConfig (config : ConfigRow) : Conf Unit :=
  .exec .deleteConsoleConfig fun reply => do
    orError ("Unable to truncate Console Config table: " ++
      "Unable to delete Console Config record: ") reply
    let row := { config with isSetupComplete := config.consoleAdminScope != "" }
    .exec (.saveConsoleConfig row) (orError "Unable to Save Console Config record: ")

/-- The administrator scope is set, and the setup is complete. -/
def updateConsoleConfig (config : ConfigRow) : Conf Unit :=
  .exec (.updateConsoleConfig config.consoleAdminScope)
    (orError "Unable to Save Console Config record: ")

/-- `strconv.ParseBool` -/
def parseBool (s : String) : Except GoError Bool :=
  if s ∈ ["1", "t", "T", "true", "TRUE", "True"] then .ok true
  else if s ∈ ["0", "f", "F", "false", "FALSE", "False"] then .ok false
  else .error (.new "invalid syntax")

/-! ## The requests -/

/-- The form of the setup. -/
structure SetupForm where
  uaaEndpoint : String
  username : String
  password : String
  consoleClient : String
  consoleClientSecret : String
  skipSSLValidation : String
  useSSO : String

/-- What `config.GetValue` finds. -/
structure Environment where
  uaaEndpoint : Option String
  consoleClient : Option String
  consoleClientSecret : Option String
  consoleAdminScope : Option String
  skipSSLValidation : Option String

/-- What an instance does with the configuration. -/
inductive SetupRequest
  /-- `setupConsole`, and the answers of the UAA. -/
  | setup (form : SetupForm) (uaa : UAA)
  | update (consoleAdminScope : String)
  /-- A round of `SetupPoller`. -/
  | poll
  /-- `initialiseConsoleConfiguration` of an instance that starts. -/
  | start (env : Environment)

/-- What comes of it. -/
inductive SetupResult
  | userInfo (info : JWTUserTokenInfo)
  | updated
  /-- There is no complete configuration : the poller waits, or the instance has to be set up. -/
  | waiting
  /-- `Config.ConsoleConfig`, which may be `nil`. -/
  | configured (config : Option ConfigRow)
  deriving DecidableEq

/-- `Console already setup!` -/
def alreadySetup : GoError := .http 403 "Console already setup!"

section Requests

-- `errorText` is the text of an error.
variable (P : PortalProxy) (errorText : GoError → String)

/-- The rows of `GetConsoleConfig`. The column `is_setup_complete` is not read. -/
def scanConsoleConfig : List ConfigRow → Except GoError (Option ConfigRow)
  | [] => .ok none
  | row :: rest => do
    let url ← (P.parseURL row.uaaEndpoint).mapError (.wrap "Unable to parse UAA Endpoint: ")
    if rest = [] then return some { row with uaaEndpoint := url.string, isSetupComplete := false }
    else throw (.new "Multiple configuration data detected!")

/-- The configuration, if there is one. -/
def getConsoleConfig : Conf (Option ConfigRow) :=
  .exec .getConsoleConfig fun reply => do
    let rows ← orError "Unable to retrieve console config record: " reply
    .ret (scanConsoleConfig P rows)

/-- The error when the UAA cannot be reached, with a text of its own for certificates. -/
def authenticationError : GoError → GoError
  | .httpRequest 0 response =>
    let err := .httpRequest 0 response
    if "x509: certificate".toList <:+: (errorText err).toList then
      .shadowOf 400
        "Could not connect to the UAA - Certificate error - check Skip SSL validation setting"
        "Could not connect to the UAA - Certificate error - check Skip SSL validation setting" err
    else
      .shadowOf 400 "Could not connect to the UAA - check UAA Endpoint URL"
        "Could not connect to the UAA - check UAA Endpoint URL" err
  | err =>
    .shadowOf 400 "Failed to authenticate with UAA - check Client ID, Secret and credentials"
      "Failed to authenticate with UAA due to " err

/-- The error when the configuration cannot be stored. -/
def storageError (err : GoError) : GoError :=
  .shadowOf 500 "Failed to store Console configuration data"
    "Console configuration data storage failed due to " err

/-- The error of `IsInitialised` is not looked at. -/
def checkSetup : Conf Unit := do
  let initialised : Except GoError Bool ← isInitialised.attempt
  if initialised.toOption.getD false then .fail alreadySetup

/-- What `setupConsole` stores, and its answer. -/
def setupConfig (form : SetupForm) (uaa : UAA) :
    Except GoError (ConfigRow × JWTUserTokenInfo) := do
  let url ← (P.parseURL form.uaaEndpoint).mapError fun _ => .http 400 "Invalid UAA Endpoint value"
  let skipSSLValidation ← (parseBool form.skipSSLValidation).mapError fun _ =>
    .http 400 "Invalid Skip SSL Validation value"
  let ssoLogin ← (parseBool form.useSSO).mapError fun _ => .http 400 "Invalid Use SSO value"
  let authEndpoint := url.string ++ "/oauth/token"
  let uaaRes ← (getUAATokenWithCreds uaa skipSSLValidation form.username form.password
    form.consoleClient (goBytes form.consoleClientSecret) authEndpoint).mapError
      (authenticationError errorText)
  let info ← (P.getUserTokenInfo uaaRes.accessToken).mapError fun err =>
    .shadowOf 400 "Failed to authenticate with UAA - check Client ID, Secret and credentials"
      "Failed to authenticate with UAA due to " err
  return (⟨url.string, "", form.consoleClient, form.consoleClientSecret, skipSSLValidation, false,
    ssoLogin⟩, info)

/-- The first step of the setup : the form is checked with the UAA and stored, without a scope. -/
def setupConsole (form : SetupForm) (uaa : UAA) : Conf SetupResult := do
  checkSetup
  let (config, info) ← .ret (setupConfig P errorText form uaa)
  (saveConsoleConfig config).mapError storageError
  return .userInfo info

/-- The second step of the setup : the administrator scope is stored. -/
def setupConsoleUpdate (consoleAdminScope : String) : Conf SetupResult := do
  checkSetup
  let config : ConfigRow := ⟨"", consoleAdminScope, "", "", false, false, false⟩
  (updateConsoleConfig config).mapError storageError
  return .updated

/-- The configuration of the environment. -/
def envConfig (env : Environment) : Except GoError ConfigRow := do
  let found (value : Option String) (msg : String) : Except GoError String :=
    value.elim (.error (.new msg)) .ok
  let uaaEndpoint ← found env.uaaEndpoint "UAA_Endpoint not found"
  let consoleClient ← found env.consoleClient "CONSOLE_CLIENT not found"
  let consoleClientSecret := env.consoleClientSecret.getD ""
  let consoleAdminScope ← found env.consoleAdminScope "CONSOLE_ADMIN_SCOPE not found"
  let skipSslValidation ← found env.skipSSLValidation "SKIP_SSL_VALIDATION not found"
  let url ← (P.parseURL uaaEndpoint).mapError (.wrap "Unable to parse UAA Endpoint: ")
  let skip ← (parseBool skipSslValidation).mapError
    (.wrap "Invalid value for Skip SSL Validation property ")
  return ⟨url.string, consoleAdminScope, consoleClient, consoleClientSecret, skip, false, false⟩

/-- The configuration of the environment is stored, and the setup is complete. -/
def initialiseConsoleConfig (env : Environment) : Conf ConfigRow := do
  let config ← .ret (envConfig P env)
  (do saveConsoleConfig config
      updateConsoleConfig config).mapError fun err =>
    .wrap "Failed to save config due to:  " (.wrap "Failed to store Console Config: " err)
  return config

/-- A failure to read the configuration is a `nil` that is dereferenced when it is shown. -/
def initialiseConsoleConfiguration (env : Environment) : Conf SetupResult := do
  let initialised : Except GoError Bool ← isInitialised.attempt
  if initialised.toOption.getD false then
    let config : Except GoError (Option ConfigRow) ← (getConsoleConfig P).attempt
    match config.toOption.join with
    | none => .fail (.exit "invalid memory address or nil pointer dereference")
    | some config => return .configured (some config)
  else
    let config : Except GoError ConfigRow ← (initialiseConsoleConfig P env).attempt
    match config with
    | .error _ => return .waiting
    | .ok config => return .configured (some config)

/-- The error of `GetConsoleConfig` is not looked at. -/
def setupPollerRound : Conf SetupResult := do
  let initialised : Except GoError Bool ← isInitialised.attempt
  if initialised.toOption.getD false then
    let config : Except GoError (Option ConfigRow) ← (getConsoleConfig P).attempt
    return .configured config.toOption.join
  else return .waiting

/-- The statements of a request. -/
def SetupRequest.body : SetupRequest → Conf SetupResult
  | setup form uaa => setupConsole P errorText form uaa
  | update scope => setupConsoleUpdate scope
  | poll => setupPollerRound P
  | start env => initialiseConsoleConfiguration P env

/-! ## Runs -/

/-- The table, and the requests that are in progress. -/
abbrev SetupPool := Pool ConfigStmt ConfigStmt.Reply GoError SetupResult SetupRequest ConfigTable

/-- A request in progress. -/
abbrev SetupThread := Thread ConfigStmt ConfigStmt.Reply GoError SetupResult SetupRequest

/-- The requests, the pollers and the instances run at once, and their statements meet `ok`. -/
abbrev SetupRun
    (ok : ConfigTable → List SetupThread → SetupThread → (s : ConfigStmt) → s.Reply → Prop) :=
  Pool.Run Executes (SetupRequest.body P errorText) ok

/-! ## Who provides what is stored -/

/-- The request stores the row : a user has logged in to its UAA, or it is that of the
environment. -/
def SetupRequest.Provides : SetupRequest → ConfigRow → Prop
  | setup form uaa, row => ∃ url skip sso uaaRes info, P.parseURL form.uaaEndpoint = .ok url ∧
      parseBool form.skipSSLValidation = .ok skip ∧ parseBool form.useSSO = .ok sso ∧
      getUAATokenWithCreds uaa skip form.username form.password form.consoleClient
        (goBytes form.consoleClientSecret) (url.string ++ "/oauth/token") = .ok uaaRes ∧
      P.getUserTokenInfo uaaRes.accessToken = .ok info ∧
      row = ⟨url.string, "", form.consoleClient, form.consoleClientSecret, skip, false, sso⟩
  | start env, row => ∃ config, envConfig P env = .ok config ∧
      row = { config with isSetupComplete := config.consoleAdminScope != "" }
  | _, _ => False

/-- The request stores the scope of the administrators. -/
def SetupRequest.SetsScope : SetupRequest → String → Prop
  | update consoleAdminScope, scope => scope = consoleAdminScope
  | start env, scope => ∃ config, envConfig P env = .ok config ∧ scope = config.consoleAdminScope
  | _, _ => False

/-- The row is one of `m` or one that a request stores, and its scope may be that of another
request, which completes it. -/
def Provided (m : ConfigTable) (qs : List SetupRequest) (row : ConfigRow) : Prop :=
  ∃ row₀, (row₀ ∈ m ∨ ∃ q ∈ qs, q.Provides P row₀) ∧
    (row = row₀ ∨ ∃ q ∈ qs, ∃ scope, q.SetsScope P scope ∧ row = row₀.update scope)

/-- The statements that `q` may send. -/
def SetupRequest.MaySend (q : SetupRequest) : ConfigStmt → Prop
  | .saveConsoleConfig row => q.Provides P row
  | .updateConsoleConfig scope => q.SetsScope P scope
  | _ => True

variable {P errorText}

theorem setupConfig_eq_ok {form : SetupForm} {uaa : UAA} {config : ConfigRow}
    {info : JWTUserTokenInfo} (h : setupConfig P errorText form uaa = .ok (config, info)) :
    (SetupRequest.setup form uaa).Provides P config := by
  unfold setupConfig at h
  simp only [bind_eq_ok, mapError_eq_ok] at h
  obtain ⟨url, hurl, skip, hskip, sso, hsso, uaaRes, huaa, info', hinfo, h⟩ := h
  cases h
  exact ⟨url, skip, sso, uaaRes, info, hurl, hskip, hsso, huaa, hinfo, rfl⟩

section MaySend

variable {q : SetupRequest}

theorem orError_maySend {α : Type} (msg : String) (reply : Except SqlError α) :
    (orError msg reply).All (q.MaySend P) :=
  trivial

theorem isInitialised_maySend : isInitialised.All (q.MaySend P) := by
  refine ⟨trivial, fun reply => (orError_maySend _ reply).bind fun rowCount => ?_⟩
  split
  · trivial
  · exact ⟨trivial, fun reply => (orError_maySend _ reply).bind fun flags => trivial⟩

theorem getConsoleConfig_maySend : (getConsoleConfig P).All (q.MaySend P) :=
  ⟨trivial, fun reply => (orError_maySend _ reply).bind fun _ => trivial⟩

theorem saveConsoleConfig_maySend {config : ConfigRow}
    (h : q.Provides P { config with isSetupComplete := config.consoleAdminScope != "" }) :
    (saveConsoleConfig config).All (q.MaySend P) :=
  ⟨trivial, fun reply => (orError_maySend _ reply).bind fun _ => ⟨h, fun _ => trivial⟩⟩

theorem checkSetup_maySend : checkSetup.All (q.MaySend P) := by
  refine isInitialised_maySend.attempt.bind fun initialised => ?_
  split <;> trivial

theorem body_maySend (q : SetupRequest) : (q.body P errorText).All (q.MaySend P) := by
  cases q with
  | setup form uaa =>
    refine checkSetup_maySend.bind fun _ => ?_
    rcases h : setupConfig P errorText form uaa with e | ⟨config, info⟩
    · trivial
    · refine (Prog.All.mapError (saveConsoleConfig_maySend ?_) _).bind fun _ => trivial
      obtain ⟨url, skip, sso, uaaRes, info, hurl, hskip, hsso, huaa, hinfo, rfl⟩ :=
        setupConfig_eq_ok h
      exact ⟨url, skip, sso, uaaRes, info, hurl, hskip, hsso, huaa, hinfo, rfl⟩
  | update scope =>
    exact checkSetup_maySend.bind fun _ => ⟨rfl, fun reply => by cases reply <;> trivial⟩
  | poll =>
    refine isInitialised_maySend.attempt.bind fun initialised => ?_
    split
    · exact getConsoleConfig_maySend.attempt.bind fun _ => trivial
    · trivial
  | start env =>
    refine isInitialised_maySend.attempt.bind fun initialised => ?_
    split
    · refine getConsoleConfig_maySend.attempt.bind fun config => ?_
      split <;> trivial
    · refine Prog.All.bind (Prog.All.attempt ?_) fun config => by split <;> trivial
      unfold initialiseConsoleConfig
      rcases h : envConfig P env with e | config
      · trivial
      · rw [Prog.ret_ok_bind]
        have hrow : (SetupRequest.start env).Provides P
            { config with isSetupComplete := config.consoleAdminScope != "" } := ⟨config, h, rfl⟩
        have hscope : (SetupRequest.start env).SetsScope P config.consoleAdminScope :=
          ⟨config, h, rfl⟩
        refine Prog.All.bind (Prog.All.mapError ?_ _) fun _ => trivial
        exact (saveConsoleConfig_maySend hrow).bind fun _ => ⟨hscope, fun _ => trivial⟩

end MaySend

/-- The requests of a pool. -/
def requests (a : SetupPool) : List SetupRequest := a.threads.map Thread.request

theorem Provided.mono {m : ConfigTable} {qs qs' : List SetupRequest} {row : ConfigRow}
    (h : Provided P m qs row) (hqs : qs ⊆ qs') : Provided P m qs' row := by
  obtain ⟨row₀, hrow₀, hrow⟩ := h
  refine ⟨row₀, ?_, ?_⟩
  · exact hrow₀.imp_right fun ⟨q, hq, hprov⟩ => ⟨q, hqs hq, hprov⟩
  · exact hrow.imp_right fun ⟨q, hq, hset⟩ => ⟨q, hqs hq, hset⟩

/-- A row with the scope of a request is provided if the row was. -/
theorem Provided.update {m : ConfigTable} {qs : List SetupRequest} {row : ConfigRow}
    {q : SetupRequest} {scope : String} (h : Provided P m qs row) (hq : q ∈ qs)
    (hscope : q.SetsScope P scope) : Provided P m qs (row.update scope) := by
  obtain ⟨row₀, hrow₀, rfl | ⟨q', -, scope', -, rfl⟩⟩ := h
  · exact ⟨row, hrow₀, .inr ⟨q, hq, scope, hscope, rfl⟩⟩
  · exact ⟨row₀, hrow₀, .inr ⟨q, hq, scope, hscope, rfl⟩⟩

/-- One statement of a request stores only what is provided. -/
theorem Executes.provided {m rows rows' : ConfigTable} {qs : List SetupRequest} {q : SetupRequest}
    {s : ConfigStmt} {reply : s.Reply} (h : Executes rows s reply rows') (hq : q ∈ qs)
    (hs : q.MaySend P s) (hrows : ∀ row ∈ rows, Provided P m qs row) :
    ∀ row ∈ rows', Provided P m qs row := by
  cases h with
  | count | completed | config | failed => exact hrows
  | delete => exact fun _ hrow => absurd hrow List.not_mem_nil
  | save row =>
    intro row' hrow'
    rcases List.mem_append.1 hrow' with h | h
    · exact hrows row' h
    · obtain rfl := List.mem_singleton.1 h
      exact ⟨row', .inr ⟨q, hq, hs⟩, .inl rfl⟩
  | update scope =>
    intro row' hrow'
    obtain ⟨row, hrow, rfl⟩ := List.mem_map.1 hrow'
    exact (hrows row hrow).update hq hs

variable {ok : ConfigTable → List SetupThread → SetupThread → (s : ConfigStmt) → s.Reply → Prop}

/-- One step stores only what is provided. -/
theorem provided_step {m : ConfigTable} {a b : SetupPool}
    (ha : Pool.Traced (SetupRequest.body P errorText) a)
    (hrows : ∀ row ∈ a.store, Provided P m (requests a) row)
    (hab : Pool.Step Executes (SetupRequest.body P errorText) ok a b) :
    ∀ row ∈ b.store, Provided P m (requests b) row := by
  cases hab with
  | start rows ts q =>
    refine fun row hrow => (hrows row hrow).mono ?_
    simp [requests]
  | @stmt rows rows' ts₁ ts₂ t s k reply hk hE hok =>
    have hsend := (ha t (by simp)).all (body_maySend t.request)
    rw [hk] at hsend
    have hmem : t.request ∈ requests ⟨rows, ts₁ ++ t :: ts₂⟩ := by simp [requests]
    have hsame : requests ⟨rows', ts₁ ++ t.advance s reply (k reply) :: ts₂⟩ =
        requests ⟨rows, ts₁ ++ t :: ts₂⟩ := by simp [requests, Thread.advance]
    rw [hsame]
    exact hE.provided hmem hsend.1 hrows

/-- In every run each row is an old one, one of a request whose user has logged in to the UAA, or
one of an environment, and its scope is its own or that of a request. -/
theorem rows_provided {m : ConfigTable} {b : SetupPool}
    (hrun : SetupRun P errorText ok (Pool.init m) b) :
    ∀ row ∈ b.store, Provided P m (requests b) row := by
  suffices h : Pool.Traced (SetupRequest.body P errorText) b ∧
      ∀ row ∈ b.store, Provided P m (requests b) row from h.2
  refine hrun.inv (I := fun a => Pool.Traced (SetupRequest.body P errorText) a ∧
    ∀ row ∈ a.store, Provided P m (requests a) row) ?_ fun a b ha hab => ?_
  · exact ⟨fun _ ht => absurd ht List.not_mem_nil, fun row hrow => ⟨row, .inl hrow, .inl rfl⟩⟩
  · exact ⟨hab.traced ha.1, provided_step ha.1 ha.2 hab⟩

/-! ## A complete configuration stays -/

/-- There is a configuration, and it is complete. -/
def Complete (rows : ConfigTable) : Prop := rows ≠ [] ∧ ∀ row ∈ rows, row.isSetupComplete = true

/-- The statement reads. -/
def ConfigStmt.Reads : ConfigStmt → Prop
  | getTableCount | hasSetupCompleted | getConsoleConfig => True
  | deleteConsoleConfig | saveConsoleConfig _ | updateConsoleConfig _ => False

/-- A read gives what stands in the table. -/
def Truthful (rows : ConfigTable) : (s : ConfigStmt) → s.Reply → Prop
  | .getTableCount, reply => reply = .ok rows.length
  | .hasSetupCompleted, reply =>
    ∃ flags, reply = .ok flags ∧ flags.Perm (rows.map ConfigRow.isSetupComplete)
  | .getConsoleConfig, reply => ∃ found, reply = .ok found ∧ found.Perm rows
  | _, _ => True

/-- No read fails. -/
def ReadsSucceed (_ : ConfigTable) (_ : List SetupThread) (_ : SetupThread) (s : ConfigStmt)
    (reply : s.Reply) : Prop :=
  s.Reads → ∀ e, reply ≠ s.failure e

variable (P) in
/-- How a request ends that finds the complete configuration. -/
def SetupRequest.Refused (rows : ConfigTable) : SetupRequest → Except GoError SetupResult → Prop
  | setup _ _, r => r = .error alreadySetup
  | update _, r => r = .error alreadySetup
  | poll, r | start _, r => ∀ row url, rows = [row] → P.parseURL row.uaaEndpoint = .ok url →
      r = .ok (.configured (some { row with uaaEndpoint := url.string, isSetupComplete := false }))

theorem Executes.truthful {rows rows' : ConfigTable} {s : ConfigStmt} {reply : s.Reply}
    (h : Executes rows s reply rows') (hok : s.Reads → ∀ e, reply ≠ s.failure e) :
    Truthful rows s reply := by
  cases h with
  | count => rfl
  | completed h => exact ⟨_, rfl, h⟩
  | config h => exact ⟨_, rfl, h⟩
  | delete | save | update => trivial
  | failed s e =>
    cases s with
    | getTableCount | hasSetupCompleted | getConsoleConfig => exact absurd rfl (hok trivial e)
    | deleteConsoleConfig | saveConsoleConfig | updateConsoleConfig => trivial

theorem Executes.of_reads {rows rows' : ConfigTable} {s : ConfigStmt} {reply : s.Reply}
    (h : Executes rows s reply rows') (hs : s.Reads) : rows' = rows := by
  cases h with
  | count | completed | config | failed => rfl
  | delete | save | update => exact hs.elim

section Settled

variable {rows : ConfigTable}

theorem isInitialised_settled (hrows : Complete rows) :
    isInitialised.Ensures (Truthful rows) ConfigStmt.Reads (· = .ok true) := by
  refine ⟨trivial, fun reply hreply => ?_⟩
  obtain rfl : reply = .ok rows.length := hreply
  have hlength : rows.length ≠ 0 := by simpa using hrows.1
  simp only [orError, mapError_ok, Prog.ret_ok_bind, if_neg hlength]
  refine ⟨trivial, fun reply hreply => ?_⟩
  obtain ⟨flags, rfl, hperm⟩ := hreply
  have hflags : flags ≠ [] := by
    rintro rfl
    exact hrows.1 (List.map_eq_nil_iff.1 (List.nil_perm.1 hperm))
  have hall : ∀ flag ∈ flags, flag = true := by
    intro flag hflag
    obtain ⟨row, hrow, rfl⟩ := List.mem_map.1 (hperm.mem_iff.1 hflag)
    exact hrows.2 row hrow
  have hlast : flags.getLast?.getD false = true := by
    rw [List.getLast?_eq_some_getLast hflags]
    exact hall _ (List.getLast_mem hflags)
  simp only [mapError_ok, Prog.ret_ok_bind, hlast]
  rfl

/-- What is done with a complete configuration. -/
theorem ensures_of_initialised {α : Type} {post : Except GoError α → Prop}
    {f : Except GoError Bool → Conf α} (hrows : Complete rows)
    (hf : (f (.ok true)).Ensures (Truthful rows) ConfigStmt.Reads post) :
    ((isInitialised.attempt : Conf (Except GoError Bool)) >>= f).Ensures (Truthful rows)
      ConfigStmt.Reads post := by
  refine (isInitialised_settled hrows).attempt.bind ?_ ?_
  · rintro initialised ⟨r, hr, rfl⟩
    cases hr
    exact hf
  · rintro e ⟨r, hr, -⟩
    cases hr

theorem checkSetup_settled (hrows : Complete rows) :
    checkSetup.Ensures (Truthful rows) ConfigStmt.Reads (· = .error alreadySetup) :=
  ensures_of_initialised hrows rfl

/-- What follows the check is not reached. -/
theorem ensures_of_checkSetup {f : Unit → Conf SetupResult} (hrows : Complete rows) :
    (checkSetup >>= f).Ensures (Truthful rows) ConfigStmt.Reads (· = .error alreadySetup) := by
  refine (checkSetup_settled hrows).bind ?_ ?_
  · rintro a ha
    cases ha
  · rintro e ⟨⟩
    rfl

theorem scanConsoleConfig_singleton {row : ConfigRow} {url : URL}
    (hurl : P.parseURL row.uaaEndpoint = .ok url) : scanConsoleConfig P [row] =
      .ok (some { row with uaaEndpoint := url.string, isSetupComplete := false }) := by
  simp [scanConsoleConfig, hurl]

theorem getConsoleConfig_settled :
    (getConsoleConfig P).Ensures (Truthful rows) ConfigStmt.Reads fun r =>
      ∀ row, rows = [row] → r = scanConsoleConfig P [row] := by
  refine ⟨trivial, fun reply hreply => ?_⟩
  obtain ⟨found, rfl, hperm⟩ := hreply
  rintro row rfl
  rw [List.perm_singleton.1 hperm]

/-- A request that ends with the configuration it has read. -/
theorem ensures_of_getConsoleConfig {α : Type} {post : Except GoError α → Prop}
    {f : Except GoError (Option ConfigRow) → Conf α}
    (hf : ∀ config, (∀ row, rows = [row] → config = scanConsoleConfig P [row]) →
      (f config).Ensures (Truthful rows) ConfigStmt.Reads post) :
    (((getConsoleConfig P).attempt : Conf (Except GoError (Option ConfigRow))) >>= f).Ensures
      (Truthful rows) ConfigStmt.Reads post := by
  refine getConsoleConfig_settled.attempt.bind ?_ ?_
  · rintro config ⟨r, hr, hconfig⟩
    cases hr
    exact hf config hconfig
  · rintro e ⟨r, hr, -⟩
    cases hr

theorem body_settled (hrows : Complete rows) (q : SetupRequest) :
    (q.body P errorText).Ensures (Truthful rows) ConfigStmt.Reads (q.Refused P rows) := by
  cases q with
  | setup form uaa => exact ensures_of_checkSetup hrows
  | update scope => exact ensures_of_checkSetup hrows
  | poll =>
    refine ensures_of_initialised hrows (ensures_of_getConsoleConfig fun config hconfig => ?_)
    intro row url hrow hurl
    rw [hconfig row hrow, scanConsoleConfig_singleton hurl]
    rfl
  | start env =>
    refine ensures_of_initialised hrows (ensures_of_getConsoleConfig fun config hconfig => ?_)
    split
    · rename_i hnone
      intro row url hrow hurl
      rw [hconfig row hrow, scanConsoleConfig_singleton hurl] at hnone
      cases hnone
    · rename_i found hsome
      intro row url hrow hurl
      rw [hconfig row hrow, scanConsoleConfig_singleton hurl] at hsome
      cases hsome
      rfl

end Settled

/-- Where the configuration is complete and the requests in progress have read nothing else, it is
never changed by a run whose reads succeed. Every later setup is refused, and every later poller
and instance gets the configuration. -/
theorem setup_final {m : ConfigTable} {a b : SetupPool}
    (ha : SetupRun P errorText ok (Pool.init m) a) (hcomplete : Complete a.store)
    (hread : ∀ t ∈ a.threads, t.Done ∨ ∀ e ∈ t.log, Truthful a.store e.1 e.2)
    (hrun : SetupRun P errorText ReadsSucceed a b) :
    b.store = a.store ∧ ∀ t ∈ b.threads, t ∈ a.threads ∨
      ∀ r, t.prog = .ret r → t.request.Refused P a.store r := by
  obtain ⟨hstore, hthreads⟩ := hrun.ensures (φ := Truthful a.store) (q := ConfigStmt.Reads)
    (fun _ _ _ _ _ hs hE hok => ⟨hE.truthful hok, hE.of_reads hs⟩) (body_settled hcomplete)
    fun t ht => (hread t ht).imp_right fun hlog =>
      (ha.residual t ht).ensures hlog (body_settled hcomplete t.request)
  refine ⟨hstore, fun t ht => (hthreads t ht).imp And.left fun hensures r hr => ?_⟩
  rwa [hr] at hensures

/-- Only the counts fail. -/
def OnlyCountsFail (_ : ConfigTable) (_ : List SetupThread) (_ : SetupThread) (s : ConfigStmt)
    (reply : s.Reply) : Prop :=
  s ≠ .getTableCount → ∀ e, reply ≠ s.failure e

/-- The thread of a setup that has stored its row. -/
def storedThread (form : SetupForm) (uaa : UAA) (config : ConfigRow) (info : JWTUserTokenInfo)
    (count : Except SqlError ℕ) : SetupThread :=
  ⟨.setup form uaa, [⟨.saveConsoleConfig config, .ok ()⟩, ⟨.deleteConsoleConfig, .ok ()⟩,
    ⟨.getTableCount, count⟩], .ret (.ok (.userInfo info))⟩

/-- A count that is read as 0 lets a setup through. -/
theorem setupConsole_of_count {form : SetupForm} {uaa : UAA} {config : ConfigRow}
    {info : JWTUserTokenInfo} {count : Except SqlError ℕ}
    (hconfig : setupConfig P errorText form uaa = .ok (config, info))
    (hzero : count.toOption.getD 0 = 0) :
    ∃ k, setupConsole P errorText form uaa = .exec .getTableCount k ∧
      k count = (saveConsoleConfig config).mapError storageError >>= fun _ =>
        return .userInfo info := by
  refine ⟨_, rfl, ?_⟩
  rcases count with e | n
  · simp only [hconfig]
    rfl
  · obtain rfl : n = 0 := hzero
    simp only [hconfig]
    rfl

/-- A setup whose count is read as 0 replaces the table. -/
theorem run_setup {rows : ConfigTable} {form : SetupForm} {uaa : UAA} {config : ConfigRow}
    {info : JWTUserTokenInfo} {count : Except SqlError ℕ}
    (hconfig : setupConfig P errorText form uaa = .ok (config, info))
    (hcount : Executes rows .getTableCount count rows) (hzero : count.toOption.getD 0 = 0)
    (hok : ∀ m ts t, ok m ts t .getTableCount count ∧ ok m ts t .deleteConsoleConfig (.ok ()) ∧
      ok m ts t (.saveConsoleConfig config) (.ok ())) :
    SetupRun P errorText ok (Pool.init rows)
      ⟨[config], [storedThread form uaa config info count]⟩ := by
  have hsaved : { config with isSetupComplete := config.consoleAdminScope != "" } = config := by
    obtain ⟨url, skip, sso, uaaRes, info, -, -, -, -, -, rfl⟩ := setupConfig_eq_ok hconfig
    rfl
  obtain ⟨k, hk, hsave⟩ := setupConsole_of_count hconfig hzero
  have hstart : SetupRun P errorText ok (Pool.init rows)
      ⟨rows, [Thread.start (SetupRequest.setup form uaa) (setupConsole P errorText form uaa)]⟩ :=
    .single (.start rows [] (SetupRequest.setup form uaa))
  have hcounted := hstart.exec hk hcount (hok _ _ _).1
  rw [hsave] at hcounted
  have hdeleted := hcounted.exec rfl (.delete rows) (hok _ _ _).2.1
  have hstored := hdeleted.exec rfl (.save [] _) (by rw [hsaved]; exact (hok _ _ _).2.2)
  rw [hsaved] at hstored
  exact hstored

/-- One count that fails is enough : any setup replaces a complete configuration. -/
theorem lost_of_failed_count (rows : ConfigTable) {form : SetupForm} {uaa : UAA}
    {config : ConfigRow} {info : JWTUserTokenInfo}
    (hconfig : setupConfig P errorText form uaa = .ok (config, info)) :
    ∃ b, SetupRun P errorText OnlyCountsFail (Pool.init rows) b ∧ b.store = [config] := by
  refine ⟨_, run_setup hconfig (.failed rows .getTableCount .noRows) rfl fun _ _ _ => ⟨?_, ?_, ?_⟩,
    rfl⟩
  · exact fun h => absurd rfl h
  · exact fun _ e h => nomatch h
  · exact fun _ e h => nomatch h

end Requests

/-! ## Runs of a portal proxy -/

/-- A form with all that is needed. -/
def sampleForm : SetupForm := ⟨"https://uaa", "admin", "admin", "console", "", "true", "false"⟩

/-- A UAA that gives a token. -/
def sampleUaa : UAA := fun _ => .ok ⟨sampleToken, [], "", []⟩

/-- The configuration that the form makes. -/
def sampleConfig : ConfigRow := ⟨"https://uaa", "", "console", "", true, false, false⟩

/-- An update reads the table before a setup has stored its row, and then completes the row. -/
theorem rows_provided_crossed :
    Provided samplePortalProxy [] [.setup sampleForm sampleUaa, .update "stratos.admin"]
      (sampleConfig.update "stratos.admin") := by
  let setup : SetupThread := .start (.setup sampleForm sampleUaa)
    (setupConsole samplePortalProxy (fun _ => "") sampleForm sampleUaa)
  let update : SetupThread := .start (.update "stratos.admin") (setupConsoleUpdate "stratos.admin")
  have hstarted : SetupRun samplePortalProxy (fun _ => "") (fun _ _ _ _ _ => True) (Pool.init [])
      ⟨[], [setup]⟩ := .single (.start [] [] (SetupRequest.setup sampleForm sampleUaa))
  have hboth := hstarted.tail (.start _ _ (SetupRequest.update "stratos.admin"))
  have hread := hboth.tail (.stmt [setup] [] update rfl (.count []) trivial)
  have hcounted := hread.tail (.stmt [] [_] setup rfl (.count []) trivial)
  have hdeleted := hcounted.tail (.stmt [] [_] _ rfl (.delete []) trivial)
  have hstored := hdeleted.tail (.stmt [] [_] _ rfl (.save [] _) trivial)
  have hupdated := hstored.tail (.stmt [_] [] _ rfl (.update _ "stratos.admin") trivial)
  exact rows_provided hupdated _ List.mem_cons_self

/-- An update that finds a complete configuration. -/
def refusedUpdate : SetupThread :=
  ⟨.update "other", [⟨.hasSetupCompleted, .ok [true]⟩, ⟨.getTableCount, .ok 1⟩],
    .ret (.error alreadySetup)⟩

/-- An update that finds a complete configuration is refused. -/
theorem setup_final_update :
    let rows := [sampleConfig.update "stratos.admin"]
    ∀ t ∈ [refusedUpdate], t ∈ (Pool.init rows : SetupPool).threads ∨
      ∀ r, t.prog = .ret r → t.request.Refused samplePortalProxy rows r := by
  intro rows
  have hstart : SetupRun samplePortalProxy (fun _ => "") ReadsSucceed (Pool.init rows)
      ⟨rows, [Thread.start (SetupRequest.update "other") (setupConsoleUpdate "other")]⟩ :=
    .single (.start rows [] (SetupRequest.update "other"))
  have hcounted := hstart.exec rfl (.count rows) fun _ e h => nomatch h
  have hread := hcounted.exec rfl (.completed (.refl _)) fun _ e h => nomatch h
  have hinit : SetupRun samplePortalProxy (fun _ => "") ReadsSucceed (Pool.init rows)
      (Pool.init rows) := .refl
  exact (setup_final (b := ⟨rows, [refusedUpdate]⟩) hinit ⟨List.cons_ne_nil _ _, by decide⟩
    (fun t ht => absurd ht List.not_mem_nil) hread).2

end Stratos.Setup
