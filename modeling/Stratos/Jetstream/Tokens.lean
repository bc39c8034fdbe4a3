import Stratos.Jetstream.Crypto

/-!
# The token repository

The functions of the token repository as programs over the statements of the database. A
save counts the rows of its owner, then inserts or updates; a lookup reads the first row
the database returns and, when that row is linked, the row it links to.

`run_saveAuthToken_ok` and `run_saveCNSIToken_ok` say which rows a save that succeeds
leaves, `run_findAuthToken` and `run_findCNSITokenBy` what a lookup reads, and
`run_updateTokenAuth` what the write-back of a refreshed token does.
-/

namespace Stratos

open Lib

/-- `interfaces.TokenRecord`. -/
structure TokenRecord where
  tokenGUID : String := ""
  authToken : Bytes
  refreshToken : Bytes
  tokenExpiry : ℤ
  disconnected : Bool := false
  authType : String
  metadata : String := ""
  systemShared : Bool := false
  /-- The GUID of the token that this token is linked to, if any. -/
  linkedGUID : String := ""
  deriving DecidableEq, Repr

/-- What one save takes from the random readers : the initialization vectors of the two
tokens and the GUID of a new row. -/
structure Entropy where
  authIV : Except GoError IV
  refreshIV : Except GoError IV
  tokenGUID : String

/-! ## Statements -/

namespace Db

/-- `if err != nil` after a statement, with an error text. -/
def checkErr {α : Type} (msg : String) : Except SqlError α → Db α
  | .ok a => pure a
  | .error e => .fail (.sql msg e)

/-- `db.Exec`, with an error text. -/
def send (msg : String) (s : Stmt) : Db s.Out := Prog.exec s (checkErr msg)

/-- `db.QueryRow(…).Scan(…)` of a token, with an error text. `auth_type` is scanned into a
`string`, which `NULL` does not fit. -/
def scanToken (msg : String) : Except SqlError TokenRow → Except GoError TokenRow
  | .ok row => if row.authType = none then .error (.sql msg (.scan "auth_type")) else .ok row
  | .error e => .error (.sql msg e)

/-- `db.QueryRow(…).Scan(&count)` with an error that is only logged : the count stays 0. -/
def scanCount : Except SqlError ℕ → ℕ
  | .ok n => n
  | .error _ => 0

/-- The rows affected must be at least one. -/
def checkUpdated (msg : String) (n : ℕ) : Db Unit :=
  if n < 1 then .fail (.new msg) else pure ()

@[simp] theorem checkErr_ok {α : Type} (msg : String) (a : α) :
    checkErr msg (.ok a) = .ret (.ok a) :=
  rfl

@[simp] theorem checkErr_error {α : Type} (msg : String) (e : SqlError) :
    (checkErr msg (.error e) : Db α) = .fail (.sql msg e) :=
  rfl

@[simp] theorem scanCount_ok (n : ℕ) : scanCount (.ok n) = n :=
  rfl

@[simp] theorem scanCount_error (e : SqlError) : scanCount (.error e) = 0 :=
  rfl

end Db

/-! ## Saving and finding -/

variable (aes : Aes) (key : Bytes)

/-- The ciphertexts of the two tokens. A refresh token that is empty is not encrypted. -/
def encryptTokens (ent : Entropy) (authToken refreshToken : Bytes) :
    Except GoError (Bytes × Option Bytes) := do
  let ciphertextAuthToken ← encryptToken aes key ent.authIV authToken
  if refreshToken = [] then
    return (ciphertextAuthToken, none)
  else
    let ciphertextRefreshToken ← encryptToken aes key ent.refreshIV refreshToken
    return (ciphertextAuthToken, some ciphertextRefreshToken)

/-- `SaveAuthToken`. -/
def saveAuthToken (ent : Entropy) (userGUID : String) (tr : TokenRecord) : Db Unit :=
  if userGUID = "" then .fail (.new "Unable to save Auth Token without a valid User GUID.")
  else if tr.authToken = [] then
    .fail (.new "Unable to save Auth Token without a valid Auth Token.")
  else do
    let (ciphertextAuthToken, ciphertextRefreshToken) ←
      Prog.ret (encryptTokens aes key ent tr.authToken tr.refreshToken)
    -- Is there an existing token?
    let count ← Prog.stmt (Stmt.countAuthTokens userGUID)
    if Db.scanCount count = 0 then
      let _ ← Db.send "Unable to INSERT UAA token: "
        (.insertAuthToken ent.tokenGUID userGUID "uaa" ciphertextAuthToken
          ciphertextRefreshToken tr.tokenExpiry)
    else
      let _ ← Db.send "Unable to UPDATE UAA token: "
        (.updateAuthToken ciphertextAuthToken ciphertextRefreshToken tr.tokenExpiry userGUID
          "uaa")

/-- The token record of a row of `tokens` : its tokens decrypted, `NULL` read as empty. -/
def readRow (row : TokenRow) : Except GoError TokenRecord := do
  let plaintextAuthToken ← decryptToken aes key row.authToken
  let plaintextRefreshToken ← decryptToken aes key row.refreshToken
  return {
    tokenGUID := row.tokenGuid.getD ""
    authToken := plaintextAuthToken
    refreshToken := plaintextRefreshToken
    tokenExpiry := row.tokenExpiry
    disconnected := row.disconnected
    authType := row.authType.getD ""
    metadata := row.metaData.getD ""
    systemShared := row.userGuid == systemSharedUserGuid
    linkedGUID := row.linkedToken.getD "" }

/-- The columns that `findAuthToken` does not read. -/
def TokenRecord.ofAuth (tr : TokenRecord) : TokenRecord :=
  { tr with disconnected := false, systemShared := false, linkedGUID := "" }

/-- `FindAuthToken`. -/
def findAuthToken (userGUID : String) : Db TokenRecord :=
  if userGUID = "" then .fail (.new "Unable to find UAA Token without a valid User GUID.")
  else do
    let reply ← Prog.stmt (Stmt.findAuthToken userGUID)
    let row ← Prog.ret (Db.scanToken "Unable to Find UAA token: " reply)
    let tr ← Prog.ret (readRow aes key row)
    return tr.ofAuth

/-- The text stored in place of the tokens of a linked record. -/
def linkedTokenText : Bytes := goBytes "LINKED TOKEN"

/-- The record that `SaveCNSIToken` stores : a linked one has no tokens of its own. -/
def TokenRecord.stored (tr : TokenRecord) : TokenRecord :=
  if tr.linkedGUID = "" then tr
  else { tr with authToken := linkedTokenText, refreshToken := linkedTokenText }

/-- `linked_token` of the row of a record. -/
def TokenRecord.linkedColumn (tr : TokenRecord) : Option String :=
  if tr.linkedGUID = "" then none else some tr.linkedGUID

/-- `SaveCNSIToken`. -/
def saveCNSIToken (ent : Entropy) (cnsiGUID userGUID : String) (tr : TokenRecord) : Db Unit :=
  if cnsiGUID = "" then .fail (.new "Unable to save CNSI Token without a valid CNSI GUID.")
  else if userGUID = "" then
    .fail (.new "Unable to save CNSI Token without a valid User GUID.")
  else if tr.authToken = [] then
    .fail (.new "Unable to save CNSI Token without a valid Auth Token.")
  else do
    let (ciphertextAuthToken, ciphertextRefreshToken) ←
      Prog.ret (encryptTokens aes key ent tr.stored.authToken tr.stored.refreshToken)
    -- Is there an existing token?
    let count ← Prog.stmt (Stmt.countCNSITokens cnsiGUID userGUID)
    if Db.scanCount count = 0 then
      let _ ← Db.send "Unable to INSERT CNSI token: "
        (.insertCNSIToken ent.tokenGUID cnsiGUID userGUID "cnsi" ciphertextAuthToken
          ciphertextRefreshToken tr.tokenExpiry tr.disconnected tr.authType tr.metadata
          tr.linkedColumn)
    else
      let rowsUpdates ← Db.send "Unable to UPDATE CNSI token: "
        (.updateCNSIToken ciphertextAuthToken ciphertextRefreshToken tr.tokenExpiry
          tr.disconnected tr.metadata tr.linkedColumn cnsiGUID userGUID "cnsi" tr.authType)
      Db.checkUpdated "Unable to UPDATE CNSI token: no rows were updated" rowsUpdates

/-- The query for the token of an endpoint : with or without disconnected rows. -/
def findStmt (includeDisconnected : Bool) (cnsiGUID userGUID : String) :
    Db (Except SqlError TokenRow) :=
  if includeDisconnected then
    Prog.stmt (Stmt.findCNSIToken cnsiGUID userGUID systemSharedUserGuid)
  else
    Prog.stmt (Stmt.findCNSITokenConnected cnsiGUID userGUID systemSharedUserGuid)

/-- The query for the token that a row is linked to. -/
def getStmt (includeDisconnected : Bool) (userGUID tokenGUID : String) :
    Db (Except SqlError TokenRow) :=
  if includeDisconnected then Prog.stmt (Stmt.getToken userGUID tokenGUID)
  else Prog.stmt (Stmt.getTokenConnected userGUID tokenGUID)

/-- `findCNSIToken`. -/
def findCNSITokenBy (includeDisconnected : Bool) (cnsiGUID userGUID : String) :
    Db TokenRecord :=
  if cnsiGUID = "" then .fail (.new "Unable to find CNSI Token without a valid CNSI GUID.")
  else if userGUID = "" then
    .fail (.new "Unable to find CNSI Token without a valid User GUID.")
  else do
    let reply ← findStmt includeDisconnected cnsiGUID userGUID
    let row ← Prog.ret (Db.scanToken "Unable to Find CNSI token: " reply)
    -- If this token is linked, fetch that token and use it instead. Only one level of
    -- linked tokens is supported.
    match row.linkedToken with
    | some linkedTokenGUID =>
      let reply ← getStmt includeDisconnected userGUID linkedTokenGUID
      let row ← Prog.ret (Db.scanToken "Unable to Find CNSI token: " reply)
      Prog.ret (readRow aes key row)
    | none => Prog.ret (readRow aes key row)

/-- `FindCNSIToken`. -/
def findCNSIToken (cnsiGUID userGUID : String) : Db TokenRecord :=
  findCNSITokenBy aes key false cnsiGUID userGUID

/-- `FindCNSITokenIncludeDisconnected`. -/
def findCNSITokenIncludeDisconnected (cnsiGUID userGUID : String) : Db TokenRecord :=
  findCNSITokenBy aes key true cnsiGUID userGUID

/-- A call of `SaveAuthToken` or of `SaveCNSIToken`. -/
inductive SaveRequest
  | auth (ent : Entropy) (userGUID : String) (tr : TokenRecord)
  | cnsi (ent : Entropy) (cnsiGUID userGUID : String) (tr : TokenRecord)

/-- The program of a save. -/
def SaveRequest.body : SaveRequest → Db Unit
  | auth ent u tr => saveAuthToken aes key ent u tr
  | cnsi ent c u tr => saveCNSIToken aes key ent c u tr

/-- The lookup of what a save stored. -/
def SaveRequest.find : SaveRequest → Db TokenRecord
  | auth _ u _ => findAuthToken aes key u
  | cnsi _ c u _ => findCNSIToken aes key c u

/-! ## Deleting and updating -/

/-- `DeleteCNSIToken`. -/
def deleteCNSIToken (cnsiGUID userGUID : String) : Db Unit :=
  if cnsiGUID = "" then .fail (.new "Unable to delete CNSI Token without a valid CNSI GUID.")
  else if userGUID = "" then
    .fail (.new "Unable to delete CNSI Token without a valid User GUID.")
  else do
    let _ ← Db.send "Unable to Delete CNSI token: " (.deleteCNSIToken cnsiGUID userGUID)

/-- `DeleteCNSITokens`. -/
def deleteCNSITokens (cnsiGUID : String) : Db Unit :=
  if cnsiGUID = "" then .fail (.new "Unable to delete CNSI Token without a valid CNSI GUID.")
  else do
    let _ ← Db.send "Unable to Delete CNSI token: " (.deleteCNSITokens cnsiGUID)

/-- The GUID of the token that `UpdateTokenAuth` updates : the linked one, if there is one. -/
def TokenRecord.targetGUID (tr : TokenRecord) : String :=
  if tr.linkedGUID = "" then tr.tokenGUID else tr.linkedGUID

/-- `UpdateTokenAuth`. The second check of the refresh token stands where the source checks
the token GUID. -/
def updateTokenAuth (ent : Entropy) (userGUID : String) (tr : TokenRecord) : Db Unit :=
  if userGUID = "" then .fail (.new "Unable to save Token without a valid User GUID.")
  else if tr.authToken = [] then
    .fail (.new "Unable to save Token without a valid Auth Token.")
  else if tr.refreshToken = [] then
    .fail (.new "Unable to save Token without a valid Refresh Token.")
  else if tr.refreshToken = [] then
    .fail (.new "Unable to save Token without a valid Token GUID")
  else do
    let (ciphertextAuthToken, ciphertextRefreshToken) ←
      Prog.ret (encryptTokens aes key ent tr.authToken tr.refreshToken)
    let rowsUpdates ← Db.send "Unable to UPDATE token: "
      (.updateToken ciphertextAuthToken ciphertextRefreshToken tr.tokenExpiry tr.targetGUID
        userGUID)
    Db.checkUpdated "Unable to UPDATE token: no rows were updated" rowsUpdates

/-! ## What a save does -/

section Specs

variable {aes : Aes} {key : Bytes} {D : Dbms} {ent : Entropy} {u c : String} {tr : TokenRecord}
  {db : Database}

/-- What the encryption of two tokens says when the refresh token is not empty. -/
theorem encryptTokens_ok {a a' b' : Bytes} {r : Option Bytes}
    (h : encryptTokens aes key ent a' b' = .ok (a, r)) (hb : b' ≠ []) :
    decryptToken aes key a = .ok a' ∧ ∃ b, r = some b ∧ decryptToken aes key b = .ok b' := by
  unfold encryptTokens at h
  cases ha : encryptToken aes key ent.authIV a' with
  | error e => simp [ha] at h
  | ok ca =>
    cases hr : encryptToken aes key ent.refreshIV b' with
    | error e => simp [ha, hr, hb] at h
    | ok cb =>
      simp only [ha, hr, hb, if_false, ok_bind, pure_eq_ok, Except.ok.injEq, Prod.mk.injEq] at h
      obtain ⟨rfl, rfl⟩ := h
      exact ⟨decryptToken_encryptToken ha, cb, rfl, decryptToken_encryptToken hr⟩

/-- The first ciphertext is the access token, encrypted. -/
theorem decrypt_of_encryptTokens {a a' b' : Bytes} {r : Option Bytes}
    (h : encryptTokens aes key ent a' b' = .ok (a, r)) : decryptToken aes key a = .ok a' := by
  by_cases hb : b' = []
  · cases ha : encryptToken aes key ent.authIV a' with
    | error e => simp [encryptTokens, ha] at h
    | ok ca =>
      simp only [encryptTokens, ha, hb, if_true, ok_bind, pure_eq_ok, Except.ok.injEq,
        Prod.mk.injEq] at h
      exact h.1 ▸ decryptToken_encryptToken ha
  · exact (encryptTokens_ok h hb).1

/-- Under a key of valid length both tokens are encrypted and can be read back. -/
theorem exists_encryptTokens {t a : Bytes} {iv iv' : IV} {g : String} (hk : ValidKey key)
    (ht : t ≠ []) : ∃ b c, encryptTokens aes key ⟨.ok iv, .ok iv', g⟩ a t = .ok (b, some c) ∧
      decryptToken aes key b = .ok a ∧ decryptToken aes key c = .ok t := by
  refine ⟨_, _, ?_, decryptToken_encryptToken (encryptToken_eq hk iv a),
    decryptToken_encryptToken (encryptToken_eq hk iv' t)⟩
  simp [encryptTokens, encryptToken_eq hk, ht]

/-- The `uaa` row that an insert adds. -/
def newAuthRow (ent : Entropy) (u : String) (tr : TokenRecord) (a b : Bytes) : TokenRow :=
  ⟨some ent.tokenGUID, none, u, "uaa", a, b, tr.tokenExpiry, false, some "OAuth2", none, none⟩

/-- The rows after `SaveAuthToken` stored `a` and `b`. -/
def saveAuthRows (ent : Entropy) (u : String) (tr : TokenRecord) (a b : Bytes)
    (rows : List TokenRow) : List TokenRow :=
  if rows.countP (TokenRow.isAuth u) = 0 then rows ++ [newAuthRow ent u tr a b]
  else updateRows (TokenRow.isAuth u) (TokenRow.withTokens a tr.tokenExpiry b) rows

/-- A row with the ciphertexts of the record's tokens. -/
structure TokenRow.Holds (a b : Bytes) (tr : TokenRecord) (r : TokenRow) : Prop where
  authToken : r.authToken = a
  refreshToken : r.refreshToken = b
  tokenExpiry : r.tokenExpiry = tr.tokenExpiry

/-- After a save every `uaa` row of the user holds the record. -/
theorem holds_of_mem_saveAuthRows {a b : Bytes} {rows : List TokenRow} {r : TokenRow}
    (hr : r ∈ saveAuthRows ent u tr a b rows) (hu : TokenRow.isAuth u r) :
    r.Holds a b tr ∧
      ((rows.countP (TokenRow.isAuth u) = 0 ∧ r = newAuthRow ent u tr a b) ∨
        ∃ r' ∈ rows, TokenRow.isAuth u r' ∧ r.authType = r'.authType ∧
          r.metaData = r'.metaData) := by
  unfold saveAuthRows at hr
  split_ifs at hr with hc
  · rcases List.mem_append.1 hr with h | h
    · exact absurd hu (List.countP_eq_zero.1 hc r h)
    · obtain rfl := List.mem_singleton.1 h
      exact ⟨⟨rfl, rfl, rfl⟩, Or.inl ⟨hc, rfl⟩⟩
  · obtain ⟨r', hr', rfl⟩ := mem_updateRows.1 hr
    by_cases hp : TokenRow.isAuth u r'
    · rw [if_pos hp]
      exact ⟨⟨rfl, rfl, rfl⟩, Or.inr ⟨r', hr', hp, rfl, rfl⟩⟩
    · rw [if_neg hp] at hu
      exact absurd hu hp

variable (aes key) in
/-- `SaveAuthToken` fails and changes nothing, or stores the encrypted tokens. -/
theorem run_saveAuthToken (D : Dbms) (ent : Entropy) (u : String) (tr : TokenRecord)
    (db : Database) :
    (∃ e, D.run (saveAuthToken aes key ent u tr) db = (.error e, db)) ∨
    ∃ a r b, u ≠ "" ∧ tr.authToken ≠ [] ∧
      encryptTokens aes key ent tr.authToken tr.refreshToken = .ok (a, r) ∧ D.blob r = some b ∧
      D.run (saveAuthToken aes key ent u tr) db =
        (.ok (), { db with tokens := saveAuthRows ent u tr a b db.tokens }) := by
  unfold saveAuthToken
  by_cases hu : u = ""
  · exact Or.inl ⟨_, by rw [if_pos hu]; rfl⟩
  by_cases ha : tr.authToken = []
  · exact Or.inl ⟨_, by rw [if_neg hu, if_pos ha]; rfl⟩
  rw [if_neg hu, if_neg ha]
  cases henc : encryptTokens aes key ent tr.authToken tr.refreshToken with
  | error e => exact Or.inl ⟨e, by simp⟩
  | ok ct =>
    obtain ⟨a, r⟩ := ct
    by_cases hc : db.tokens.countP (TokenRow.isAuth u) = 0
    · cases hb : D.blob r with
      | none => exact Or.inl ⟨_, by simp [hc, Db.send, Dbms.insertToken_none hb]; rfl⟩
      | some b =>
        refine Or.inr ⟨a, r, b, hu, ha, rfl, hb, ?_⟩
        simp [hc, Db.send, Dbms.insertToken_some hb, saveAuthRows, newAuthRow]
    · cases hb : D.blob r with
      | none =>
        exact Or.inl ⟨_, by
          simp [hc, Db.send, TokenRow.isOfType_uaa, Dbms.updateTokens_none hb hc]
          rfl⟩
      | some b =>
        refine Or.inr ⟨a, r, b, hu, ha, rfl, hb, ?_⟩
        simp [hc, Db.send, TokenRow.isOfType_uaa, Dbms.updateTokens_some hb, saveAuthRows]

/-- The row that an insert of `SaveCNSIToken` adds. -/
def newCnsiRow (ent : Entropy) (c u : String) (tr : TokenRecord) (a b : Bytes) : TokenRow :=
  ⟨some ent.tokenGUID, some c, u, "cnsi", a, b, tr.tokenExpiry, tr.disconnected,
    some tr.authType, some tr.metadata, tr.linkedColumn⟩

/-- The record in a row, as `updateCNSIToken` writes it. -/
def TokenRecord.intoRow (tr : TokenRecord) (a b : Bytes) : TokenRow → TokenRow :=
  TokenRow.withRecord a tr.tokenExpiry tr.disconnected tr.metadata tr.linkedColumn b

/-- The rows after `SaveCNSIToken` stored `a` and `b`. -/
def saveCNSIRows (ent : Entropy) (c u : String) (tr : TokenRecord) (a b : Bytes)
    (rows : List TokenRow) : List TokenRow :=
  if rows.countP (TokenRow.isCnsi c u) = 0 then rows ++ [newCnsiRow ent c u tr a b]
  else updateRows (TokenRow.isCnsiTyped c u "cnsi" tr.authType) (tr.intoRow a b) rows

/-- `SaveCNSIToken` stores the encrypted tokens when there is no row of the owner, or one
of the same auth type. -/
theorem run_saveCNSIToken_ok {a b : Bytes} {r : Option Bytes} (hcn : c ≠ "") (hu : u ≠ "")
    (ha : tr.authToken ≠ [])
    (henc : encryptTokens aes key ent tr.stored.authToken tr.stored.refreshToken = .ok (a, r))
    (hb : D.blob r = some b)
    (hcount : db.tokens.countP (TokenRow.isCnsi c u) = 0 ∨
      db.tokens.countP (TokenRow.isCnsiTyped c u "cnsi" tr.authType) ≠ 0) :
    D.run (saveCNSIToken aes key ent c u tr) db =
      (.ok (), { db with tokens := saveCNSIRows ent c u tr a b db.tokens }) := by
  unfold saveCNSIToken
  rw [if_neg hcn, if_neg hu, if_neg ha, henc]
  by_cases hc : db.tokens.countP (TokenRow.isCnsi c u) = 0
  · simp [hc, Db.send, Dbms.insertToken_some hb, saveCNSIRows, newCnsiRow]
  · have hty := hcount.resolve_left hc
    simp [hc, Db.send, Dbms.updateTokens_some hb, Db.checkUpdated, hty, saveCNSIRows,
      TokenRecord.intoRow]

variable (aes key) in
/-- `SaveCNSIToken` fails and changes nothing, or stores the encrypted tokens in a new row
or in a row of the same owner and auth type. -/
theorem run_saveCNSIToken (D : Dbms) (ent : Entropy) (c u : String) (tr : TokenRecord)
    (db : Database) :
    (∃ e, D.run (saveCNSIToken aes key ent c u tr) db = (.error e, db)) ∨
    ∃ a r b, c ≠ "" ∧ u ≠ "" ∧ tr.authToken ≠ [] ∧
      encryptTokens aes key ent tr.stored.authToken tr.stored.refreshToken = .ok (a, r) ∧
      D.blob r = some b ∧
      (db.tokens.countP (TokenRow.isCnsi c u) = 0 ∨
        db.tokens.countP (TokenRow.isCnsiTyped c u "cnsi" tr.authType) ≠ 0) ∧
      D.run (saveCNSIToken aes key ent c u tr) db =
        (.ok (), { db with tokens := saveCNSIRows ent c u tr a b db.tokens }) := by
  by_cases hcn : c = ""
  · exact Or.inl ⟨_, by rw [saveCNSIToken, if_pos hcn]; rfl⟩
  by_cases hu : u = ""
  · exact Or.inl ⟨_, by rw [saveCNSIToken, if_neg hcn, if_pos hu]; rfl⟩
  by_cases ha : tr.authToken = []
  · exact Or.inl ⟨_, by rw [saveCNSIToken, if_neg hcn, if_neg hu, if_pos ha]; rfl⟩
  cases henc : encryptTokens aes key ent tr.stored.authToken tr.stored.refreshToken with
  | error e => exact Or.inl ⟨e, by simp [saveCNSIToken, hcn, hu, ha, henc]⟩
  | ok ct =>
    obtain ⟨a, r⟩ := ct
    by_cases hcount : db.tokens.countP (TokenRow.isCnsi c u) = 0 ∨
        db.tokens.countP (TokenRow.isCnsiTyped c u "cnsi" tr.authType) ≠ 0
    · cases hb : D.blob r with
      | some b =>
        exact Or.inr ⟨a, r, b, hcn, hu, ha, rfl, hb, hcount,
          run_saveCNSIToken_ok hcn hu ha henc hb hcount⟩
      | none =>
        refine Or.inl ?_
        unfold saveCNSIToken
        rw [if_neg hcn, if_neg hu, if_neg ha, henc]
        by_cases hc : db.tokens.countP (TokenRow.isCnsi c u) = 0
        · exact ⟨_, by simp [hc, Db.send, Dbms.insertToken_none hb]; rfl⟩
        · have hty := hcount.resolve_left hc
          exact ⟨_, by simp [hc, Db.send, Dbms.updateTokens_none hb hty]; rfl⟩
    · obtain ⟨hc, hty⟩ := not_or.1 hcount
      have hty := of_not_not hty
      refine Or.inl ?_
      unfold saveCNSIToken
      rw [if_neg hcn, if_neg hu, if_neg ha, henc]
      exact ⟨_, by
        simp [hc, Db.send, Dbms.updateTokens_of_countP_eq_zero hty, Db.checkUpdated]; rfl⟩

theorem scanToken_ok {msg : String} {reply : Except SqlError TokenRow}
    {r : TokenRow}
    (h : Db.scanToken msg reply = .ok r) : reply = .ok r := by
  cases reply with
  | error e => simp [Db.scanToken] at h
  | ok row =>
    by_cases hn : row.authType = none
    · simp [Db.scanToken, hn] at h
    · simpa [Db.scanToken, hn] using h

/-- The access token read from a row is the decryption of the one stored. -/
theorem of_readRow {r : TokenRow} {t : TokenRecord} (h : readRow aes key r = .ok t) :
    decryptToken aes key r.authToken = .ok t.authToken := by
  cases ha : decryptToken aes key r.authToken with
  | error e => simp [readRow, ha] at h
  | ok a =>
    cases hb : decryptToken aes key r.refreshToken with
    | error e => simp [readRow, ha, hb] at h
    | ok b =>
      simp only [readRow, ha, hb, ok_bind, pure_eq_ok, Except.ok.injEq] at h
      rw [← h]

/-- The result of `FindAuthToken` for the reply to its query. -/
def readAuthReply (aes : Aes) (key : Bytes) (reply : Except SqlError TokenRow) :
    Except GoError TokenRecord := do
  let row ← Db.scanToken "Unable to Find UAA token: " reply
  let tr ← readRow aes key row
  return tr.ofAuth

/-- `FindAuthToken` reads the first `uaa` row of the user. -/
theorem run_findAuthToken (hu : u ≠ "") :
    D.run (findAuthToken aes key u) db =
      (readAuthReply aes key (D.queryToken db (TokenRow.isAuth u)), db) := by
  unfold findAuthToken readAuthReply
  rw [if_neg hu]
  cases h : Db.scanToken "Unable to Find UAA token: " (D.queryToken db (TokenRow.isAuth u)) with
  | error e => simp [h]
  | ok row => cases hr : readRow aes key row <;> simp [h, hr]

/-- `FindAuthToken` finds a `uaa` row of the user. -/
theorem exists_row_of_findAuthToken {t : TokenRecord} {db' : Database}
    (h : D.run (findAuthToken aes key u) db = (.ok t, db')) :
    ∃ r ∈ db.tokens, TokenRow.isAuth u r ∧ decryptToken aes key r.authToken = .ok t.authToken := by
  by_cases hu : u = ""
  · simp [findAuthToken, hu] at h
  rw [run_findAuthToken hu] at h
  have hread := congrArg Prod.fst h
  unfold readAuthReply at hread
  cases hs : Db.scanToken "Unable to Find UAA token: " (D.queryToken db (TokenRow.isAuth u)) with
  | error e => simp [hs] at hread
  | ok row =>
    cases hr : readRow aes key row with
    | error e => simp [hs, hr] at hread
    | ok tr =>
      obtain rfl : tr.ofAuth = t := by simpa [hs, hr] using hread
      obtain ⟨hmem, hauth⟩ := Dbms.queryToken_ok (scanToken_ok hs)
      have hdec := of_readRow hr
      exact ⟨row, hmem, hauth, hdec⟩

@[simp] theorem run_findAuthToken_snd : (D.run (findAuthToken aes key u) db).2 = db := by
  by_cases hu : u = ""
  · simp [findAuthToken, hu]
  · rw [run_findAuthToken hu]

/-- The reply to the query of a lookup. -/
def findReply (D : Dbms) (db : Database) (includeDisconnected : Bool) (c u : String) :
    Except SqlError TokenRow :=
  D.queryToken db fun r => TokenRow.isCnsiFor c u systemSharedUserGuid r &&
    (includeDisconnected || !r.disconnected)

/-- The reply to the query for the token that a row is linked to. -/
def getReply (D : Dbms) (db : Database) (includeDisconnected : Bool) (u g : String) :
    Except SqlError TokenRow :=
  if includeDisconnected then (D.exec (.getToken u g) db).1
  else (D.exec (.getTokenConnected u g) db).1

theorem run_findStmt (incl : Bool) :
    D.run (findStmt incl c u) db = (.ok (findReply D db incl c u), db) := by
  cases incl <;> simp [findStmt, findReply, Prog.stmt]

theorem run_getStmt (incl : Bool) (g : String) :
    D.run (getStmt incl u g) db = (.ok (getReply D db incl u g), db) := by
  cases incl <;> simp [getStmt, getReply, Prog.stmt]

/-- The row whose tokens a lookup returns : the first row found, or the row it is linked
to. -/
def foundRow (D : Dbms) (db : Database) (includeDisconnected : Bool) (c u : String) :
    Except GoError TokenRow := do
  let row ← Db.scanToken "Unable to Find CNSI token: " (findReply D db includeDisconnected c u)
  match row.linkedToken with
  | some g => Db.scanToken "Unable to Find CNSI token: " (getReply D db includeDisconnected u g)
  | none => return row

/-- A lookup returns what is in the row it finds, and changes nothing. -/
theorem run_findCNSITokenBy {incl : Bool} (hc : c ≠ "") (hu : u ≠ "") :
    D.run (findCNSITokenBy aes key incl c u) db =
      (foundRow D db incl c u >>= readRow aes key, db) := by
  unfold findCNSITokenBy foundRow
  rw [if_neg hc, if_neg hu, Dbms.run_bind_ok (run_findStmt incl)]
  cases h : Db.scanToken "Unable to Find CNSI token: " (findReply D db incl c u) with
  | error e => simp
  | ok row =>
    cases hl : row.linkedToken with
    | none => simp [hl]
    | some g =>
      simp only [Prog.ret_ok_bind, hl]
      rw [Dbms.run_bind_ok (run_getStmt incl g)]
      cases hg : Db.scanToken "Unable to Find CNSI token: " (getReply D db incl u g) <;>
        simp [hl, hg]

@[simp] theorem run_findCNSITokenBy_snd {incl : Bool} :
    (D.run (findCNSITokenBy aes key incl c u) db).2 = db := by
  by_cases hc : c = ""
  · simp [findCNSITokenBy, hc]
  by_cases hu : u = ""
  · simp [findCNSITokenBy, hc, hu]
  · rw [run_findCNSITokenBy hc hu]

/-- `UpdateTokenAuth` writes the encrypted tokens to the rows of the user with the GUID of
the record, when there is one. -/
theorem run_updateTokenAuth_ok {a b : Bytes} (hu : u ≠ "") (ha : tr.authToken ≠ [])
    (hr : tr.refreshToken ≠ [])
    (henc : encryptTokens aes key ent tr.authToken tr.refreshToken = .ok (a, some b))
    (hcount : db.tokens.countP (TokenRow.isToken u tr.targetGUID) ≠ 0) :
    D.run (updateTokenAuth aes key ent u tr) db =
      (.ok (), { db with
        tokens := updateRows (TokenRow.isToken u tr.targetGUID)
          (TokenRow.withTokens a tr.tokenExpiry b) db.tokens }) := by
  have hb : D.blob (some b) = some b := rfl
  unfold updateTokenAuth
  rw [if_neg hu, if_neg ha, if_neg hr, if_neg hr, henc]
  simp [Db.send, Dbms.updateTokens_some hb, Db.checkUpdated, hcount]

variable (aes key) in
/-- `UpdateTokenAuth` fails and changes nothing, or writes the encrypted tokens to the rows
of the user with the GUID of the record. -/
theorem run_updateTokenAuth (D : Dbms) (ent : Entropy) (u : String) (tr : TokenRecord)
    (db : Database) :
    (∃ e, D.run (updateTokenAuth aes key ent u tr) db = (.error e, db)) ∨
    ∃ a b, u ≠ "" ∧ tr.authToken ≠ [] ∧ tr.refreshToken ≠ [] ∧
      encryptTokens aes key ent tr.authToken tr.refreshToken = .ok (a, some b) ∧
      db.tokens.countP (TokenRow.isToken u tr.targetGUID) ≠ 0 ∧
      D.run (updateTokenAuth aes key ent u tr) db =
        (.ok (), { db with
          tokens := updateRows (TokenRow.isToken u tr.targetGUID)
            (TokenRow.withTokens a tr.tokenExpiry b) db.tokens }) := by
  by_cases hu : u = ""
  · exact Or.inl ⟨_, by rw [updateTokenAuth, if_pos hu]; rfl⟩
  by_cases ha : tr.authToken = []
  · exact Or.inl ⟨_, by rw [updateTokenAuth, if_neg hu, if_pos ha]; rfl⟩
  by_cases hr : tr.refreshToken = []
  · exact Or.inl ⟨_, by rw [updateTokenAuth, if_neg hu, if_neg ha, if_pos hr]; rfl⟩
  cases henc : encryptTokens aes key ent tr.authToken tr.refreshToken with
  | error e => exact Or.inl ⟨e, by simp [updateTokenAuth, hu, ha, hr, henc]⟩
  | ok ct =>
    obtain ⟨a, r⟩ := ct
    obtain ⟨-, b, rfl, -⟩ := encryptTokens_ok henc hr
    by_cases hc : db.tokens.countP (TokenRow.isToken u tr.targetGUID) = 0
    · refine Or.inl ?_
      unfold updateTokenAuth
      rw [if_neg hu, if_neg ha, if_neg hr, if_neg hr, henc]
      exact ⟨_, by
        simp [Db.send, Dbms.updateTokens_of_countP_eq_zero hc, Db.checkUpdated]; rfl⟩
    · exact Or.inr ⟨a, b, hu, ha, hr, rfl, hc, run_updateTokenAuth_ok hu ha hr henc hc⟩

end Specs

/-! ## Sample values -/

/-- A block function for concrete runs. No result depends on the block function. -/
def sampleAes : Aes := fun key block => block.zipWith (· ^^^ ·) key

/-- A key of 16 bytes. -/
def sampleKey : Bytes := List.replicate 16 7

/-- An initialization vector. -/
def sampleIV : IV := ⟨List.replicate 16 1, rfl⟩

/-- What one save takes from the random readers. -/
def sampleEntropy (tokenGUID : String) : Entropy := ⟨.ok sampleIV, .ok sampleIV, tokenGUID⟩

/-- A PostgreSQL database that returns rows as they are stored. -/
def samplePgsql : Dbms := ⟨.PGSQL, .stored, .stored, false⟩

/-- The record of a login. -/
def sampleLogin : TokenRecord :=
  { authToken := [1, 2], refreshToken := [3], tokenExpiry := 60, authType := "OAuth2" }

/-- The row of a token of the sample tokens. -/
def sampleRow (tokenGuid : String) (cnsiGuid : Option String) (userGuid tokenType : String)
    (linkedToken : Option String) : TokenRow :=
  ⟨some tokenGuid, cnsiGuid, userGuid, tokenType,
    sampleIV.val ++ Cfb.encrypt (sampleAes sampleKey) sampleIV.val [8, 9],
    sampleIV.val ++ Cfb.encrypt (sampleAes sampleKey) sampleIV.val [8],
    30, false, some "OAuth2", none, linkedToken⟩

end Stratos
