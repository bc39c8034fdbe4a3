import Stratos.Lib.Program
import Stratos.Lib.Table
import Mathlib.Data.Int.Notation

/-!
# The database

The `tokens` and `cnsis` tables, the statements that jetstream sends and what they do.
`Query` names the statements, `Query.text` is their SQL with white space collapsed, and
`prepared` is the text after the one time rewriting of `InitRepositoryProvider`
(`modifySQLStatement`), which turns `$1, $2, …` into `?` for SQLite and MySQL. A statement
has its meaning (`Dbms.meaning`) when the provider reads its placeholders, and fails
otherwise (`Dbms.exec`).

The database answers a query without `ORDER BY` in an order of its own, and
`reads_prepared` says which prepared statements the three providers read: all but
`getToken` and `getTokenConnected` on MySQL.
-/

namespace Stratos

open Lib

/-- A byte string, as Go's `[]byte` and `string`. -/
abbrev Bytes := List UInt8

/-- The bytes of a string of the source. -/
def goBytes (s : String) : Bytes := s.toList.flatMap String.utf8EncodeChar

/-- An error of `database/sql`. -/
inductive SqlError
  /-- `sql.ErrNoRows`. -/
  | noRows
  /-- A column that is `NULL` was scanned into a type that has no such value. -/
  | scan (column : String)
  /-- The driver or the database refused the statement. -/
  | failed (msg : String)
  deriving DecidableEq, Repr

/-- An error of jetstream. -/
inductive GoError
  /-- `errors.New`. -/
  | new (msg : String)
  /-- `fmt.Errorf` with a database error at the end of the text. -/
  | sql (msg : String) (cause : SqlError)
  /-- `fmt.Errorf` with an error at the end of the text. -/
  | wrap (msg : String) (cause : GoError)
  /-- `interfaces.NewHTTPShadowError` : the status, the text the user sees and the text
  that is logged. -/
  | shadow (status : ℕ) (userFacing logMessage : String)
  /-- `interfaces.NewHTTPShadowError` with an error at the end of the logged text. -/
  | shadowOf (status : ℕ) (userFacing logMessage : String) (cause : GoError)
  /-- `echo.NewHTTPError`. -/
  | http (status : ℕ) (msg : String)
  /-- `echo.NewHTTPError` with an error at the end of the text. -/
  | httpOf (status : ℕ) (msg : String) (cause : GoError)
  /-- `interfaces.ErrHTTPRequest` : the status and the body of a response. -/
  | httpRequest (status : ℕ) (response : String)
  /-- `log.Fatal`, or a panic : the process or the request ends. -/
  | exit (msg : String)
  deriving DecidableEq, Repr

/-! ## The tables -/

/-- A row of `tokens`. A column that may be `NULL` is an `Option`. -/
@[ext]
structure TokenRow where
  tokenGuid : Option String
  cnsiGuid : Option String
  userGuid : String
  tokenType : String
  authToken : Bytes
  refreshToken : Bytes
  tokenExpiry : ℤ
  disconnected : Bool
  authType : Option String
  metaData : Option String
  linkedToken : Option String
  deriving DecidableEq, Repr

/-- A row of `cnsis`. -/
structure CnsiRow where
  guid : String
  name : String
  cnsiType : String
  apiEndpoint : String
  authEndpoint : String
  tokenEndpoint : String
  dopplerLoggingEndpoint : String
  skipSSLValidation : Bool
  clientId : String
  clientSecret : Option Bytes
  ssoAllowed : Bool
  deriving DecidableEq, Repr

/-- The tables. The order of the rows of a table is of no meaning. -/
structure Database where
  tokens : List TokenRow
  cnsis : List CnsiRow
  deriving DecidableEq, Repr

/-- User ID for the system shared user for endpoints. -/
def systemSharedUserGuid : String := "00000000-1111-2222-3333-444444444444"

/-! ## Statements and their texts -/

/-- The statements of the token and of the cnsi repository. -/
inductive Query
  | findAuthToken | countAuthTokens | insertAuthToken | updateAuthToken
  | getToken | getTokenConnected | findCNSIToken | findCNSITokenConnected
  | countCNSITokens | insertCNSIToken | updateCNSIToken | deleteCNSIToken | deleteCNSITokens
  | updateToken
  | findCNSI | findCNSIByAPIEndpoint | saveCNSI | deleteCNSI | updateCNSI
  deriving DecidableEq, Repr

/-- How the placeholders of a text are written. -/
inductive Placeholder
  /-- `$1`, `$2` and so on. -/
  | dollar
  /-- `?`. -/
  | mark
  deriving DecidableEq, Repr

/-- The text of a statement, cut at its placeholders. -/
structure SqlText where
  parts : List String
  placeholder : Placeholder
  deriving DecidableEq, Repr

/-- The parts of a statement between `$1`, `$2` and so on. -/
def Query.parts : Query → List String
  | findAuthToken =>
    ["SELECT token_guid, auth_token, refresh_token, token_expiry, auth_type, meta_data " ++
      "FROM tokens WHERE token_type = 'uaa' AND user_guid = ", ""]
  | countAuthTokens =>
    ["SELECT COUNT(*) FROM tokens WHERE token_type = 'uaa' AND user_guid = ", ""]
  | insertAuthToken =>
    ["INSERT INTO tokens (token_guid, user_guid, token_type, auth_token, refresh_token, " ++
      "token_expiry) VALUES (", ", ", ", ", ", ", ", ", ", ", ")"]
  | updateAuthToken =>
    ["UPDATE tokens SET auth_token = ", ", refresh_token = ", ", token_expiry = ",
      " WHERE user_guid = ", " AND token_type = ", ""]
  | getToken =>
    ["SELECT token_guid, auth_token, refresh_token, token_expiry, disconnected, auth_type, " ++
      "meta_data, user_guid, linked_token FROM tokens WHERE user_guid = ", " AND token_guid = ",
      ""]
  | getTokenConnected =>
    ["SELECT token_guid, auth_token, refresh_token, token_expiry, disconnected, auth_type, " ++
      "meta_data, user_guid, linked_token FROM tokens WHERE user_guid = ", " AND token_guid = ",
      " AND disconnected = '0'"]
  | findCNSIToken =>
    ["SELECT token_guid, auth_token, refresh_token, token_expiry, disconnected, auth_type, " ++
      "meta_data, user_guid, linked_token FROM tokens WHERE cnsi_guid = ", " AND (user_guid = ",
      " OR user_guid = ", ") AND token_type = 'cnsi'"]
  | findCNSITokenConnected =>
    ["SELECT token_guid, auth_token, refresh_token, token_expiry, disconnected, auth_type, " ++
      "meta_data, user_guid, linked_token FROM tokens WHERE cnsi_guid = ", " AND (user_guid = ",
      " OR user_guid = ", ") AND token_type = 'cnsi' AND disconnected = '0'"]
  | countCNSITokens =>
    ["SELECT COUNT(*) FROM tokens WHERE cnsi_guid=", " AND user_guid = ",
      " AND token_type = 'cnsi'"]
  | insertCNSIToken =>
    ["INSERT INTO tokens (token_guid, cnsi_guid, user_guid, token_type, auth_token, " ++
      "refresh_token, token_expiry, disconnected, auth_type, meta_data, linked_token) VALUES (",
      ", ", ", ", ", ", ", ", ", ", ", ", ", ", ", ", ", ", ", ", ")"]
  | updateCNSIToken =>
    ["UPDATE tokens SET auth_token = ", ", refresh_token = ", ", token_expiry = ",
      ", disconnected = ", ", meta_data = ", ", linked_token = ", " WHERE cnsi_guid = ",
      " AND user_guid = ", " AND token_type = ", " AND auth_type = ", ""]
  | deleteCNSIToken =>
    ["DELETE FROM tokens WHERE token_type = 'cnsi' AND cnsi_guid = ", " AND user_guid = ", ""]
  | deleteCNSITokens => ["DELETE FROM tokens WHERE token_type = 'cnsi' AND cnsi_guid = ", ""]
  | updateToken =>
    ["UPDATE tokens SET auth_token = ", ", refresh_token = ", ", token_expiry = ",
      " WHERE token_guid = ", " AND user_guid = ", ""]
  | findCNSI =>
    ["SELECT guid, name, cnsi_type, api_endpoint, auth_endpoint, token_endpoint, " ++
      "doppler_logging_endpoint, skip_ssl_validation, client_id, client_secret, sso_allowed " ++
      "FROM cnsis WHERE guid=", ""]
  | findCNSIByAPIEndpoint =>
    ["SELECT guid, name, cnsi_type, api_endpoint, auth_endpoint, token_endpoint, " ++
      "doppler_logging_endpoint, skip_ssl_validation, client_id, client_secret, sso_allowed " ++
      "FROM cnsis WHERE api_endpoint=", ""]
  | saveCNSI =>
    ["INSERT INTO cnsis (guid, name, cnsi_type, api_endpoint, auth_endpoint, token_endpoint, " ++
      "doppler_logging_endpoint, skip_ssl_validation, client_id, client_secret, sso_allowed) " ++
      "VALUES (", ", ", ", ", ", ", ", ", ", ", ", ", ", ", ", ", ", ", ", ", ")"]
  | deleteCNSI => ["DELETE FROM cnsis WHERE guid = ", ""]
  | updateCNSI => ["UPDATE cnsis SET sso_allowed = ", " WHERE guid = ", ""]

/-- The text of a statement, before `InitRepositoryProvider`. -/
def Query.text (q : Query) : SqlText := ⟨q.parts, .dollar⟩

/-- The database providers. -/
inductive DatabaseProvider
  | SQLITE | PGSQL | MYSQL
  deriving DecidableEq, Repr

/-- `datastore.ModifySQLStatement`. -/
def modifySQLStatement (sql : SqlText) : DatabaseProvider → SqlText
  | .SQLITE | .MYSQL => { sql with placeholder := .mark }
  | .PGSQL => sql

/-- The statements that `InitRepositoryProvider` rewrites, in the token and in the cnsi
repository. -/
def initRepositoryProvider : List Query :=
  [.findAuthToken, .countAuthTokens, .insertAuthToken, .updateAuthToken, .findCNSIToken,
    .findCNSITokenConnected, .countCNSITokens, .insertCNSIToken, .updateCNSIToken,
    .deleteCNSIToken, .deleteCNSITokens, .updateToken,
    .findCNSI, .findCNSIByAPIEndpoint, .saveCNSI, .deleteCNSI, .updateCNSI]

/-- The text of a statement as it is sent to the provider. -/
def prepared (provider : DatabaseProvider) (q : Query) : SqlText :=
  if q ∈ initRepositoryProvider then modifySQLStatement q.text provider else q.text

/-- The provider reads placeholders written so : PostgreSQL `$1`, MySQL `?`, SQLite both. -/
def DatabaseProvider.readsPlaceholder : DatabaseProvider → Placeholder → Bool
  | PGSQL, p => p == .dollar
  | MYSQL, p => p == .mark
  | SQLITE, _ => true

/-- The provider reads the text : it has no placeholders, or they are written in a way the
provider reads. -/
def DatabaseProvider.reads (provider : DatabaseProvider) (sql : SqlText) : Bool :=
  sql.parts.length == 1 || provider.readsPlaceholder sql.placeholder

/-- The statements that are prepared are read, but for two on MySQL. -/
theorem reads_prepared (provider : DatabaseProvider) (q : Query) :
    provider.reads (prepared provider q) =
      !(provider == .MYSQL && (q == .getToken || q == .getTokenConnected)) := by
  cases provider <;> cases q <;> rfl

/-! ## What the statements do -/

/-- A statement with its arguments. -/
inductive Stmt
  | findAuthToken (userGuid : String)
  | countAuthTokens (userGuid : String)
  | insertAuthToken (tokenGuid userGuid tokenType : String) (authToken : Bytes)
      (refreshToken : Option Bytes) (tokenExpiry : ℤ)
  | updateAuthToken (authToken : Bytes) (refreshToken : Option Bytes) (tokenExpiry : ℤ)
      (userGuid tokenType : String)
  | getToken (userGuid tokenGuid : String)
  | getTokenConnected (userGuid tokenGuid : String)
  | findCNSIToken (cnsiGuid userGuid sharedGuid : String)
  | findCNSITokenConnected (cnsiGuid userGuid sharedGuid : String)
  | countCNSITokens (cnsiGuid userGuid : String)
  | insertCNSIToken (tokenGuid cnsiGuid userGuid tokenType : String) (authToken : Bytes)
      (refreshToken : Option Bytes) (tokenExpiry : ℤ) (disconnected : Bool)
      (authType metaData : String) (linkedToken : Option String)
  | updateCNSIToken (authToken : Bytes) (refreshToken : Option Bytes) (tokenExpiry : ℤ)
      (disconnected : Bool) (metaData : String) (linkedToken : Option String)
      (cnsiGuid userGuid tokenType authType : String)
  | deleteCNSIToken (cnsiGuid userGuid : String)
  | deleteCNSITokens (cnsiGuid : String)
  | updateToken (authToken : Bytes) (refreshToken : Option Bytes) (tokenExpiry : ℤ)
      (tokenGuid userGuid : String)
  | findCNSI (guid : String)
  | findCNSIByAPIEndpoint (apiEndpoint : String)
  | saveCNSI (row : CnsiRow)
  | deleteCNSI (guid : String)
  | updateCNSI (ssoAllowed : Bool) (guid : String)
  deriving DecidableEq, Repr

/-- The name of a statement. -/
def Stmt.query : Stmt → Query
  | findAuthToken .. => .findAuthToken
  | countAuthTokens .. => .countAuthTokens
  | insertAuthToken .. => .insertAuthToken
  | updateAuthToken .. => .updateAuthToken
  | getToken .. => .getToken
  | getTokenConnected .. => .getTokenConnected
  | findCNSIToken .. => .findCNSIToken
  | findCNSITokenConnected .. => .findCNSITokenConnected
  | countCNSITokens .. => .countCNSITokens
  | insertCNSIToken .. => .insertCNSIToken
  | updateCNSIToken .. => .updateCNSIToken
  | deleteCNSIToken .. => .deleteCNSIToken
  | deleteCNSITokens .. => .deleteCNSITokens
  | updateToken .. => .updateToken
  | findCNSI .. => .findCNSI
  | findCNSIByAPIEndpoint .. => .findCNSIByAPIEndpoint
  | saveCNSI .. => .saveCNSI
  | deleteCNSI .. => .deleteCNSI
  | updateCNSI .. => .updateCNSI

/-- What a statement that succeeds gives : the first row, the count, or the number of rows
affected. -/
abbrev Stmt.Out : Stmt → Type
  | findAuthToken .. | getToken .. | getTokenConnected .. | findCNSIToken ..
  | findCNSITokenConnected .. => TokenRow
  | findCNSI .. | findCNSIByAPIEndpoint .. => CnsiRow
  | _ => ℕ

/-- The reply to a statement. -/
abbrev Stmt.Reply (s : Stmt) : Type := Except SqlError s.Out

/-- A program of jetstream. -/
abbrev Db (α : Type) : Type := Lib.Prog Stmt Stmt.Reply GoError α

/-- A database of one of the providers. -/
structure Dbms where
  provider : DatabaseProvider
  tokenOrder : RowOrder TokenRow
  cnsiOrder : RowOrder CnsiRow
  /-- The driver sends a nil `[]byte` as `NULL`, not as an empty value. -/
  nilIsNull : Bool

/-- `sql.ErrNoRows` when there is no row. -/
def rowOrErr {α : Type} : Option α → Except SqlError α
  | some row => .ok row
  | none => .error .noRows

namespace TokenRow

/-- `token_type = 'uaa' AND user_guid = u`. -/
def isAuth (u : String) (r : TokenRow) : Bool := r.tokenType == "uaa" && r.userGuid == u

/-- `user_guid = u AND token_type = t`. -/
def isOfType (u t : String) (r : TokenRow) : Bool := r.userGuid == u && r.tokenType == t

/-- `cnsi_guid = c AND user_guid = u AND token_type = 'cnsi'`. -/
def isCnsi (c u : String) (r : TokenRow) : Bool :=
  r.cnsiGuid == some c && r.userGuid == u && r.tokenType == "cnsi"

/-- `cnsi_guid = c AND user_guid = u AND token_type = t AND auth_type = a`. -/
def isCnsiTyped (c u t a : String) (r : TokenRow) : Bool :=
  r.cnsiGuid == some c && r.userGuid == u && r.tokenType == t && r.authType == some a

/-- `cnsi_guid = c AND (user_guid = u OR user_guid = v) AND token_type = 'cnsi'`. -/
def isCnsiFor (c u v : String) (r : TokenRow) : Bool :=
  r.cnsiGuid == some c && (r.userGuid == u || r.userGuid == v) && r.tokenType == "cnsi"

/-- `token_type = 'cnsi' AND cnsi_guid = c`. -/
def isCnsiOf (c : String) (r : TokenRow) : Bool :=
  r.tokenType == "cnsi" && r.cnsiGuid == some c

/-- `user_guid = u AND token_guid = g`. -/
def isToken (u g : String) (r : TokenRow) : Bool :=
  r.userGuid == u && r.tokenGuid == some g

/-- `SET auth_token = a, refresh_token = b, token_expiry = e`. -/
def withTokens (a : Bytes) (e : ℤ) (b : Bytes) (r : TokenRow) : TokenRow :=
  { r with authToken := a, refreshToken := b, tokenExpiry := e }

/-- `SET auth_token = a, refresh_token = b, token_expiry = e, disconnected = d,
meta_data = m, linked_token = l`. -/
def withRecord (a : Bytes) (e : ℤ) (d : Bool) (m : String) (l : Option String) (b : Bytes)
    (r : TokenRow) : TokenRow :=
  { r with
    authToken := a, refreshToken := b, tokenExpiry := e, disconnected := d,
    metaData := some m, linkedToken := l }

theorem isCnsi_of_isCnsiTyped {c u a : String} {r : TokenRow}
    (h : isCnsiTyped c u "cnsi" a r) : isCnsi c u r :=
  (Bool.and_eq_true_iff.1 h).1

theorem isOfType_uaa (u : String) : isOfType u "uaa" = isAuth u := by
  funext r
  exact Bool.and_comm _ _

end TokenRow

namespace Dbms

variable (D : Dbms)

/-- The value a driver stores for a `[]byte` : none when it sends `NULL`. -/
def blob : Option Bytes → Option Bytes
  | some b => some b
  | none => if D.nilIsNull then none else some []

/-- The reply to a write of `NULL` to a column that is `NOT NULL`. -/
def notNull : SqlError := .failed "NOT NULL constraint failed"

/-- `UPDATE tokens SET refresh_token = refresh, … WHERE p`. -/
def updateTokens (db : Database) (refresh : Option Bytes) (p : TokenRow → Bool)
    (f : Bytes → TokenRow → TokenRow) : Except SqlError ℕ × Database :=
  match D.blob refresh with
  | some b => (.ok (db.tokens.countP p), { db with tokens := updateRows p (f b) db.tokens })
  | none => if db.tokens.any p then (.error notNull, db) else (.ok 0, db)

/-- `INSERT INTO tokens`, with `refresh` for `refresh_token`. -/
def insertToken (db : Database) (refresh : Option Bytes) (row : Bytes → TokenRow) :
    Except SqlError ℕ × Database :=
  match D.blob refresh with
  | some b => (.ok 1, { db with tokens := db.tokens ++ [row b] })
  | none => (.error notNull, db)

/-- The first row of `tokens` that satisfies `p`, in the order of the database. -/
def queryToken (db : Database) (p : TokenRow → Bool) : Except SqlError TokenRow :=
  rowOrErr (D.tokenOrder.first p db.tokens)

/-- The first row of `cnsis` that satisfies `p`, in the order of the database. -/
def queryCnsi (db : Database) (p : CnsiRow → Bool) : Except SqlError CnsiRow :=
  rowOrErr (D.cnsiOrder.first p db.cnsis)

/-- What a statement does when the provider reads it. -/
def meaning (db : Database) : (s : Stmt) → s.Reply × Database
  | .findAuthToken u => (D.queryToken db (TokenRow.isAuth u), db)
  | .countAuthTokens u => (.ok (db.tokens.countP (TokenRow.isAuth u)), db)
  | .insertAuthToken g u t a rt e =>
    D.insertToken db rt fun b => ⟨some g, none, u, t, a, b, e, false, some "OAuth2", none, none⟩
  | .updateAuthToken a rt e u t =>
    D.updateTokens db rt (TokenRow.isOfType u t) (TokenRow.withTokens a e)
  | .getToken u g => (D.queryToken db (TokenRow.isToken u g), db)
  | .getTokenConnected u g =>
    (D.queryToken db fun r => TokenRow.isToken u g r && !r.disconnected, db)
  | .findCNSIToken c u v => (D.queryToken db (TokenRow.isCnsiFor c u v), db)
  | .findCNSITokenConnected c u v =>
    (D.queryToken db fun r => TokenRow.isCnsiFor c u v r && !r.disconnected, db)
  | .countCNSITokens c u => (.ok (db.tokens.countP (TokenRow.isCnsi c u)), db)
  | .insertCNSIToken g c u t a rt e d at' m l =>
    D.insertToken db rt fun b => ⟨some g, some c, u, t, a, b, e, d, some at', some m, l⟩
  | .updateCNSIToken a rt e d m l c u t at' =>
    D.updateTokens db rt (TokenRow.isCnsiTyped c u t at') (TokenRow.withRecord a e d m l)
  | .deleteCNSIToken c u =>
    (.ok (db.tokens.countP (TokenRow.isCnsi c u)),
      { db with tokens := db.tokens.filter fun r => !TokenRow.isCnsi c u r })
  | .deleteCNSITokens c =>
    (.ok (db.tokens.countP (TokenRow.isCnsiOf c)),
      { db with tokens := db.tokens.filter fun r => !TokenRow.isCnsiOf c r })
  | .updateToken a rt e g u =>
    D.updateTokens db rt (TokenRow.isToken u g) (TokenRow.withTokens a e)
  | .findCNSI g => (D.queryCnsi db (·.guid == g), db)
  | .findCNSIByAPIEndpoint a => (D.queryCnsi db (·.apiEndpoint == a), db)
  | .saveCNSI row =>
    if db.cnsis.any (·.guid == row.guid) then (.error (.failed "UNIQUE constraint failed"), db)
    else (.ok (1 : ℕ), { db with cnsis := db.cnsis ++ [row] })
  | .deleteCNSI g =>
    (.ok (db.cnsis.countP (·.guid == g)),
      { db with cnsis := db.cnsis.filter fun r => !(r.guid == g) })
  | .updateCNSI sso g =>
    (.ok (db.cnsis.countP (·.guid == g)),
      { db with
        cnsis := updateRows (·.guid == g) (fun r => { r with ssoAllowed := sso }) db.cnsis })

/-- The database executes a statement. -/
def exec (s : Stmt) (db : Database) : s.Reply × Database :=
  if D.provider.reads (prepared D.provider s.query) then D.meaning db s
  else (.error (.failed "unknown column in 'where clause'"), db)

/-- The result of a program and the tables it leaves. -/
abbrev run {α : Type} (p : Db α) (db : Database) : Except GoError α × Database :=
  Lib.Prog.run D.exec p db

theorem run_bind_ok {D : Dbms} {α β : Type} {p : Db α} {f : α → Db β} {db db' : Database}
    {a : α} (hp : D.run p db = (.ok a, db')) : D.run (p >>= f) db = D.run (f a) db' :=
  Lib.Prog.run_bind_ok D.exec hp

theorem run_bind_error {D : Dbms} {α β : Type} {p : Db α} {f : α → Db β} {db db' : Database}
    {e : GoError} (hp : D.run p db = (.error e, db')) :
    D.run (p >>= f) db = (.error e, db') :=
  Lib.Prog.run_bind_error D.exec hp

/-- A statement that `InitRepositoryProvider` rewrites has its meaning. -/
theorem exec_eq_meaning {s : Stmt} (db : Database) (h : s.query ≠ .getToken)
    (hc : s.query ≠ .getTokenConnected) : D.exec s db = D.meaning db s := by
  simp [exec, reads_prepared, h, hc]

theorem exec_eq_meaning_of_provider (s : Stmt) (db : Database) (h : D.provider ≠ .MYSQL) :
    D.exec s db = D.meaning db s := by
  simp [exec, reads_prepared, h]

section Exec

variable (db : Database)

@[simp] theorem exec_findAuthToken (u : String) :
    D.exec (.findAuthToken u) db =
      (D.queryToken db (TokenRow.isAuth u), db) :=
  D.exec_eq_meaning db Query.noConfusion Query.noConfusion

@[simp] theorem exec_countAuthTokens (u : String) :
    D.exec (.countAuthTokens u) db =
      (.ok (db.tokens.countP (TokenRow.isAuth u)), db) :=
  D.exec_eq_meaning db Query.noConfusion Query.noConfusion

@[simp] theorem exec_insertAuthToken (g u t : String) (a : Bytes) (rt : Option Bytes) (e : ℤ) :
    D.exec (.insertAuthToken g u t a rt e) db =
      D.insertToken db rt fun b =>
        ⟨some g, none, u, t, a, b, e, false, some "OAuth2", none, none⟩ :=
  D.exec_eq_meaning db Query.noConfusion Query.noConfusion

@[simp] theorem exec_updateAuthToken (a : Bytes) (rt : Option Bytes) (e : ℤ) (u t : String) :
    D.exec (.updateAuthToken a rt e u t) db =
      D.updateTokens db rt (TokenRow.isOfType u t) (TokenRow.withTokens a e) :=
  D.exec_eq_meaning db Query.noConfusion Query.noConfusion

@[simp] theorem exec_findCNSIToken (c u v : String) :
    D.exec (.findCNSIToken c u v) db =
      (D.queryToken db (TokenRow.isCnsiFor c u v), db) :=
  D.exec_eq_meaning db Query.noConfusion Query.noConfusion

@[simp] theorem exec_findCNSITokenConnected (c u v : String) :
    D.exec (.findCNSITokenConnected c u v) db =
      (D.queryToken db fun r => TokenRow.isCnsiFor c u v r && !r.disconnected, db) :=
  D.exec_eq_meaning db Query.noConfusion Query.noConfusion

@[simp] theorem exec_countCNSITokens (c u : String) :
    D.exec (.countCNSITokens c u) db =
      (.ok (db.tokens.countP (TokenRow.isCnsi c u)), db) :=
  D.exec_eq_meaning db Query.noConfusion Query.noConfusion

@[simp] theorem exec_insertCNSIToken (g c u t : String) (a : Bytes) (rt : Option Bytes) (e : ℤ)
    (d : Bool) (at' m : String) (l : Option String) :
    D.exec (.insertCNSIToken g c u t a rt e d at' m l) db =
      D.insertToken db rt fun b =>
        ⟨some g, some c, u, t, a, b, e, d, some at', some m, l⟩ :=
  D.exec_eq_meaning db Query.noConfusion Query.noConfusion

@[simp] theorem exec_updateCNSIToken (a : Bytes) (rt : Option Bytes) (e : ℤ) (d : Bool) (m : String)
    (l : Option String) (c u t at' : String) :
    D.exec (.updateCNSIToken a rt e d m l c u t at') db =
      D.updateTokens db rt (TokenRow.isCnsiTyped c u t at') (TokenRow.withRecord a e d m l) :=
  D.exec_eq_meaning db Query.noConfusion Query.noConfusion

@[simp] theorem exec_deleteCNSIToken (c u : String) :
    D.exec (.deleteCNSIToken c u) db =
      (.ok (db.tokens.countP (TokenRow.isCnsi c u)),
        { db with tokens := db.tokens.filter fun r => !TokenRow.isCnsi c u r }) :=
  D.exec_eq_meaning db Query.noConfusion Query.noConfusion

@[simp] theorem exec_deleteCNSITokens (c : String) :
    D.exec (.deleteCNSITokens c) db =
      (.ok (db.tokens.countP (TokenRow.isCnsiOf c)),
        { db with tokens := db.tokens.filter fun r => !TokenRow.isCnsiOf c r }) :=
  D.exec_eq_meaning db Query.noConfusion Query.noConfusion

@[simp] theorem exec_updateToken (a : Bytes) (rt : Option Bytes) (e : ℤ) (g u : String) :
    D.exec (.updateToken a rt e g u) db =
      D.updateTokens db rt (TokenRow.isToken u g) (TokenRow.withTokens a e) :=
  D.exec_eq_meaning db Query.noConfusion Query.noConfusion

@[simp] theorem exec_findCNSI (g : String) :
    D.exec (.findCNSI g) db = (D.queryCnsi db (·.guid == g), db) :=
  D.exec_eq_meaning db Query.noConfusion Query.noConfusion

@[simp] theorem exec_findCNSIByAPIEndpoint (a : String) :
    D.exec (.findCNSIByAPIEndpoint a) db = (D.queryCnsi db (·.apiEndpoint == a), db) :=
  D.exec_eq_meaning db Query.noConfusion Query.noConfusion

@[simp] theorem exec_saveCNSI (row : CnsiRow) :
    D.exec (.saveCNSI row) db =
      if db.cnsis.any (·.guid == row.guid) then (.error (.failed "UNIQUE constraint failed"), db)
      else (.ok (1 : ℕ), { db with cnsis := db.cnsis ++ [row] }) :=
  D.exec_eq_meaning db Query.noConfusion Query.noConfusion

@[simp] theorem exec_deleteCNSI (g : String) :
    D.exec (.deleteCNSI g) db =
      (.ok (db.cnsis.countP (·.guid == g)),
        { db with cnsis := db.cnsis.filter fun r => !(r.guid == g) }) :=
  D.exec_eq_meaning db Query.noConfusion Query.noConfusion

@[simp] theorem exec_updateCNSI (sso : Bool) (g : String) :
    D.exec (.updateCNSI sso g) db =
      (.ok (db.cnsis.countP (·.guid == g)),
        { db with
          cnsis := updateRows (·.guid == g) (fun r => { r with ssoAllowed := sso }) db.cnsis }) :=
  D.exec_eq_meaning db Query.noConfusion Query.noConfusion

@[simp] theorem exec_getToken_snd (u g : String) : (D.exec (.getToken u g) db).2 = db := by
  unfold exec
  split_ifs <;> rfl

@[simp] theorem exec_getTokenConnected_snd (u g : String) :
    (D.exec (.getTokenConnected u g) db).2 = db := by
  unfold exec
  split_ifs <;> rfl

end Exec

section Writes

variable {D} {db : Database} {refresh : Option Bytes} {b : Bytes}

theorem insertToken_some {row : Bytes → TokenRow} (hb : D.blob refresh = some b) :
    D.insertToken db refresh row = (.ok 1, { db with tokens := db.tokens ++ [row b] }) := by
  rw [insertToken, hb]

theorem insertToken_none {row : Bytes → TokenRow} (hb : D.blob refresh = none) :
    D.insertToken db refresh row = (.error notNull, db) := by
  rw [insertToken, hb]

theorem updateTokens_some {p : TokenRow → Bool} {f : Bytes → TokenRow → TokenRow}
    (hb : D.blob refresh = some b) :
    D.updateTokens db refresh p f =
      (.ok (db.tokens.countP p), { db with tokens := updateRows p (f b) db.tokens }) := by
  rw [updateTokens, hb]

theorem updateTokens_none {p : TokenRow → Bool} {f : Bytes → TokenRow → TokenRow}
    (hb : D.blob refresh = none) (hp : db.tokens.countP p ≠ 0) :
    D.updateTokens db refresh p f = (.error notNull, db) := by
  have hany : db.tokens.any p = true := by
    obtain ⟨r, hr, hpr⟩ := List.countP_pos_iff.1 (Nat.pos_of_ne_zero hp)
    exact List.any_eq_true.2 ⟨r, hr, hpr⟩
  simp only [updateTokens, hb, hany, if_true]

theorem updateTokens_of_countP_eq_zero {p : TokenRow → Bool} {f : Bytes → TokenRow → TokenRow}
    (hp : db.tokens.countP p = 0) : D.updateTokens db refresh p f = (.ok 0, db) := by
  have hrows : ∀ r ∈ db.tokens, ¬p r = true := List.countP_eq_zero.1 hp
  have hany : db.tokens.any p = false := by simpa using hrows
  have hupd : ∀ b, updateRows p (f b) db.tokens = db.tokens := fun b =>
    updateRows_of_countP_eq_zero hp
  cases hb : D.blob refresh with
  | none => simp [updateTokens, hb, hany]
  | some b => simp [updateTokens, hb, hp, hupd]

end Writes

theorem rowOrErr_eq_ok {α : Type} {row : Option α} {r : α} :
    rowOrErr row = .ok r ↔ row = some r := by
  cases row <;> simp [rowOrErr]

theorem queryToken_ok {D : Dbms} {db : Database} {p : TokenRow → Bool} {r : TokenRow}
    (h : D.queryToken db p = .ok r) : r ∈ db.tokens ∧ p r :=
  RowOrder.first_mem (rowOrErr_eq_ok.1 h)

/-- A query that some row satisfies finds one that does. -/
theorem exists_queryToken {db : Database} {p : TokenRow → Bool}
    (h : ∃ r ∈ db.tokens, p r) : ∃ r, D.queryToken db p = .ok r := by
  obtain ⟨r, hr⟩ : ∃ r, D.tokenOrder.first p db.tokens = some r := RowOrder.exists_first h
  exact ⟨r, rowOrErr_eq_ok.2 hr⟩

end Dbms

end Stratos
