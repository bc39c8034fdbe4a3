import Stratos.Jetstream.Tokens

/-!
# Saved tokens are found again

A save that succeeds, followed by the lookup of the same token. `find_of_save` says what
the lookup returns, for every provider, every order of the rows, every table and every
record the save accepts, when the record can be found (`SaveRequest.Findable`): the tokens
and expiry of the record, with its auth type and metadata for an endpoint token; for a
`uaa` token the auth type and metadata are those of the row, since `SaveAuthToken` does not
store them; for a linked record all five are those of the `uaa` row it links to.

A lookup does not find a disconnected record, and `SaveAuthToken` drops the auth type and
the metadata of a record (`not_savesAreFound`).
-/

namespace Stratos

open Lib

/-! ## What a lookup must return -/

/-- The same tokens and expiry. -/
def TokenRecord.SameTokens (t tr : TokenRecord) : Prop :=
  t.authToken = tr.authToken ∧ t.refreshToken = tr.refreshToken ∧ t.tokenExpiry = tr.tokenExpiry

/-- The same tokens, expiry, auth type and metadata. -/
def TokenRecord.SameRecord (t tr : TokenRecord) : Prop :=
  t.SameTokens tr ∧ t.authType = tr.authType ∧ t.metadata = tr.metadata

instance (t tr : TokenRecord) : Decidable (t.SameTokens tr) :=
  inferInstanceAs (Decidable (_ ∧ _ ∧ _))

instance (t tr : TokenRecord) : Decidable (t.SameRecord tr) :=
  inferInstanceAs (Decidable (_ ∧ _ ∧ _))

variable (aes : Aes) (key : Bytes)

/-- The row is read as the record `t`. -/
def TokenRow.ReadsAs (r : TokenRow) (t : TokenRecord) : Prop :=
  r.authType ≠ none ∧ readRow aes key r = .ok t

/-- The rows of `u` with the GUID `g` are readable `uaa` rows, and one of them is
connected. -/
def LinksTo (db : Database) (u g : String) : Prop :=
  (∃ r ∈ db.tokens, TokenRow.isToken u g r ∧ r.disconnected = false) ∧
    ∀ r ∈ db.tokens, TokenRow.isToken u g r →
      r.tokenType = "uaa" ∧ ∃ t, r.ReadsAs aes key t

/-- The record can be found again. A `uaa` record has a refresh token and no row without
auth type is there. An endpoint record is connected, the connected rows that the lookup
matches are the user's own of the same auth type, and it has a refresh token or links to a
token that the provider can look up. -/
def SaveRequest.Findable (D : Dbms) (db : Database) : SaveRequest → Prop
  | auth _ u tr =>
    tr.refreshToken ≠ [] ∧ ∀ r ∈ db.tokens, TokenRow.isAuth u r → r.authType ≠ none
  | cnsi ent c u tr =>
    tr.disconnected = false ∧
      (∀ r ∈ db.tokens, TokenRow.isCnsiFor c u systemSharedUserGuid r → r.disconnected = false →
        TokenRow.isCnsiTyped c u "cnsi" tr.authType r) ∧
      if tr.linkedGUID = "" then tr.refreshToken ≠ []
      else D.provider ≠ .MYSQL ∧ ent.tokenGUID ≠ tr.linkedGUID ∧
        LinksTo aes key db u tr.linkedGUID

/-- The lookup after the save of a record in the tables `db` returns `t`. -/
def SaveRequest.Returns (db : Database) (t : TokenRecord) : SaveRequest → Prop
  | auth _ u tr => t.SameTokens tr ∧
    if ∃ r ∈ db.tokens, TokenRow.isAuth u r then
      ∃ r ∈ db.tokens, TokenRow.isAuth u r ∧ r.authType = some t.authType ∧
        t.metadata = r.metaData.getD ""
    else t.authType = "OAuth2" ∧ t.metadata = ""
  | cnsi _ _ u tr =>
    if tr.linkedGUID = "" then t.SameRecord tr
    else ∃ r ∈ db.tokens, TokenRow.isToken u tr.linkedGUID r ∧ r.tokenType = "uaa" ∧
      ∃ t', r.ReadsAs aes key t' ∧ t.SameRecord t'

variable {aes key} {D : Dbms} {ent : Entropy} {u c : String} {tr : TokenRecord}
  {db : Database}

/-! ## Rows that hold a record -/

/-- The record read from a row whose two tokens are these. -/
def TokenRow.record (a' b' : Bytes) (r : TokenRow) : TokenRecord where
  tokenGUID := r.tokenGuid.getD ""
  authToken := a'
  refreshToken := b'
  tokenExpiry := r.tokenExpiry
  disconnected := r.disconnected
  authType := r.authType.getD ""
  metadata := r.metaData.getD ""
  systemShared := r.userGuid == systemSharedUserGuid
  linkedGUID := r.linkedToken.getD ""

/-- A row that holds the ciphertexts of a record is read as its tokens. -/
theorem readRow_of_holds {a b a' b' : Bytes} {r : TokenRow} (hr : r.Holds a b tr)
    (ha : decryptToken aes key a = .ok a') (hb : decryptToken aes key b = .ok b') :
    readRow aes key r = .ok (r.record a' b') := by
  rw [readRow, hr.authToken, hr.refreshToken, ha, hb]
  rfl

/-! ## Tokens of the console -/

/-- After a save the user has a `uaa` row. -/
theorem exists_mem_saveAuthRows (ent : Entropy) (u : String) (tr : TokenRecord) (a b : Bytes)
    (rows : List TokenRow) : ∃ r ∈ saveAuthRows ent u tr a b rows, TokenRow.isAuth u r := by
  unfold saveAuthRows
  split_ifs with hc
  · exact ⟨_, List.mem_append_right _ List.mem_cons_self, by simp [TokenRow.isAuth, newAuthRow]⟩
  · obtain ⟨r, hr, hp⟩ := List.countP_pos_iff.1 (Nat.pos_of_ne_zero hc)
    exact ⟨_, mem_updateRows.2 ⟨r, hr, if_pos hp⟩, hp⟩

theorem find_of_saveAuthToken {db' : Database}
    (hsave : D.run (saveAuthToken aes key ent u tr) db = (.ok (), db'))
    (hf : (SaveRequest.auth ent u tr).Findable aes key D db) :
    ∃ t, D.run (findAuthToken aes key u) db' = (.ok t, db') ∧
      (SaveRequest.auth ent u tr).Returns aes key db t := by
  obtain ⟨hrefresh, htypes⟩ := hf
  rcases run_saveAuthToken aes key D ent u tr db with
    ⟨e, he⟩ | ⟨a, r, b, hu, ha, henc, hb, hok⟩
  · rw [he] at hsave
    exact absurd (Prod.mk.inj hsave).1 (by simp)
  obtain rfl : _ = db' := (Prod.mk.inj (hok.symm.trans hsave)).2
  obtain ⟨hda, b', rfl, hdb⟩ := encryptTokens_ok henc hrefresh
  obtain rfl : b' = b := by simpa [Dbms.blob] using hb
  set saved : Database := { db with tokens := saveAuthRows ent u tr a b' db.tokens }
  have hex : ∃ r ∈ saved.tokens, TokenRow.isAuth u r :=
    exists_mem_saveAuthRows ent u tr a b' db.tokens
  obtain ⟨row, hq⟩ := D.exists_queryToken hex
  obtain ⟨hrow, hauth⟩ := Dbms.queryToken_ok hq
  obtain ⟨hholds, hcase⟩ := holds_of_mem_saveAuthRows hrow hauth
  have htype : row.authType ≠ none := by
    rcases hcase with ⟨-, rfl⟩ | ⟨r', hr', hp, hat, -⟩
    · simp [newAuthRow]
    · exact hat ▸ htypes r' hr' hp
  refine ⟨(row.record tr.authToken tr.refreshToken).ofAuth, ?_,
    ⟨rfl, rfl, hholds.tokenExpiry⟩, ?_⟩
  · rw [run_findAuthToken hu, hq]
    simp [readAuthReply, Db.scanToken, htype, readRow_of_holds hholds hda hdb]
  · rcases hcase with ⟨hc, rfl⟩ | ⟨r', hr', hp, hat, hmd⟩
    · rw [if_neg (by simpa using List.countP_eq_zero.1 hc)]
      exact ⟨rfl, rfl⟩
    · rw [if_pos ⟨r', hr', hp⟩]
      obtain ⟨at', hat'⟩ := Option.ne_none_iff_exists'.1 htype
      refine ⟨r', hr', hp, ?_, ?_⟩
      · rw [← hat, hat']
        simp [TokenRow.record, TokenRecord.ofAuth, hat']
      · rw [← hmd]
        rfl

/-! ## Tokens of an endpoint -/

/-- A row with the record of an endpoint. -/
structure TokenRow.HoldsCnsi (a b : Bytes) (tr : TokenRecord) (r : TokenRow) : Prop
    extends r.Holds a b tr where
  authType : r.authType = some tr.authType
  metaData : r.metaData = some tr.metadata
  linkedToken : r.linkedToken = tr.linkedColumn

/-- The rows that a lookup of connected tokens matches. -/
def TokenRow.isConnectedFor (c u : String) (r : TokenRow) : Bool :=
  TokenRow.isCnsiFor c u systemSharedUserGuid r && !r.disconnected

theorem isCnsiFor_of_isCnsi {r : TokenRow} (h : TokenRow.isCnsi c u r) (v : String) :
    TokenRow.isCnsiFor c u v r := by
  simp only [TokenRow.isCnsi, Bool.and_eq_true, beq_iff_eq] at h
  simp [TokenRow.isCnsiFor, h]

/-- After the save of a connected record, the rows that the lookup matches hold it. -/
theorem holds_of_mem_saveCNSIRows {a b : Bytes} {rows : List TokenRow} {r : TokenRow}
    (hown : ∀ r ∈ rows, TokenRow.isCnsiFor c u systemSharedUserGuid r → r.disconnected = false →
      TokenRow.isCnsiTyped c u "cnsi" tr.authType r)
    (hr : r ∈ saveCNSIRows ent c u tr a b rows) (hm : TokenRow.isConnectedFor c u r) :
    r.HoldsCnsi a b tr := by
  obtain ⟨hfor, hconn⟩ : TokenRow.isCnsiFor c u systemSharedUserGuid r ∧
      r.disconnected = false := by simpa [TokenRow.isConnectedFor] using hm
  unfold saveCNSIRows at hr
  split_ifs at hr with hc
  · rcases List.mem_append.1 hr with h | h
    · have hty := hown r h hfor hconn
      have hcnsi : TokenRow.isCnsi c u r := (Bool.and_eq_true_iff.1 hty).1
      exact absurd hcnsi (List.countP_eq_zero.1 hc r h)
    · obtain rfl := List.mem_singleton.1 h
      exact ⟨⟨rfl, rfl, rfl⟩, rfl, rfl, rfl⟩
  · obtain ⟨r', hr', rfl⟩ := mem_updateRows.1 hr
    by_cases hp : TokenRow.isCnsiTyped c u "cnsi" tr.authType r'
    · rw [if_pos hp]
      refine ⟨⟨rfl, rfl, rfl⟩, ?_, rfl, rfl⟩
      exact eq_of_beq (Bool.and_eq_true_iff.1 hp).2
    · rw [if_neg hp] at hfor hconn
      exact absurd (hown r' hr' hfor hconn) hp

/-- After the save of a connected record, the lookup matches a row. -/
theorem exists_mem_saveCNSIRows {a b : Bytes} {rows : List TokenRow}
    (hd : tr.disconnected = false)
    (hcount : rows.countP (TokenRow.isCnsi c u) = 0 ∨
      rows.countP (TokenRow.isCnsiTyped c u "cnsi" tr.authType) ≠ 0) :
    ∃ r ∈ saveCNSIRows ent c u tr a b rows, TokenRow.isConnectedFor c u r := by
  unfold saveCNSIRows
  split_ifs with hc
  · refine ⟨_, List.mem_append_right _ List.mem_cons_self, ?_⟩
    simp [TokenRow.isConnectedFor, TokenRow.isCnsiFor, newCnsiRow, hd]
  · have hty := hcount.resolve_left hc
    obtain ⟨r, hr, hp⟩ := List.countP_pos_iff.1 (Nat.pos_of_ne_zero hty)
    refine ⟨_, mem_updateRows.2 ⟨r, hr, if_pos hp⟩, ?_⟩
    have hcnsi : TokenRow.isCnsi c u r := (Bool.and_eq_true_iff.1 hp).1
    have hfor := isCnsiFor_of_isCnsi hcnsi systemSharedUserGuid
    simpa [TokenRow.isConnectedFor, TokenRecord.intoRow, TokenRow.withRecord, hd,
      TokenRow.isCnsiFor] using hfor

theorem findReply_connected (D : Dbms) (db : Database) (c u : String) :
    findReply D db false c u = D.queryToken db (TokenRow.isConnectedFor c u) :=
  rfl

theorem getReply_connected (hD : D.provider ≠ .MYSQL) (db : Database) (u g : String) :
    getReply D db false u g =
      D.queryToken db fun r => TokenRow.isToken u g r && !r.disconnected := by
  simp only [getReply, Bool.false_eq_true, if_false, D.exec_eq_meaning_of_provider _ _ hD]
  rfl

/-- The save of an endpoint record does not touch the `uaa` rows of a link. -/
theorem LinksTo.saveCNSIRows {a b : Bytes} {g : String} (h : LinksTo aes key db u g)
    (hg : ent.tokenGUID ≠ g) : (∃ r ∈ saveCNSIRows ent c u tr a b db.tokens,
        TokenRow.isToken u g r ∧ r.disconnected = false) ∧
      ∀ r ∈ saveCNSIRows ent c u tr a b db.tokens, TokenRow.isToken u g r → r ∈ db.tokens := by
  obtain ⟨⟨r₀, hr₀, hg₀, hd₀⟩, huaa⟩ := h
  have hnot : ∀ r ∈ db.tokens, TokenRow.isToken u g r →
      ¬TokenRow.isCnsiTyped c u "cnsi" tr.authType r := by
    intro r hr hgr hty
    have huaa := (huaa r hr hgr).1
    simp [TokenRow.isCnsiTyped, huaa] at hty
  unfold Stratos.saveCNSIRows
  split_ifs with hc
  · refine ⟨⟨r₀, List.mem_append_left _ hr₀, hg₀, hd₀⟩, fun r hr hgr => ?_⟩
    rcases List.mem_append.1 hr with h | h
    · exact h
    · obtain rfl := List.mem_singleton.1 h
      simp [TokenRow.isToken, newCnsiRow, hg] at hgr
  · refine ⟨⟨r₀, mem_updateRows.2 ⟨r₀, hr₀, if_neg (hnot r₀ hr₀ hg₀)⟩, hg₀, hd₀⟩,
      fun r hr hgr => ?_⟩
    obtain ⟨r', hr', rfl⟩ := mem_updateRows.1 hr
    by_cases hp : TokenRow.isCnsiTyped c u "cnsi" tr.authType r'
    · rw [if_pos hp] at hgr
      exact absurd hp (hnot r' hr' hgr)
    · rwa [if_neg hp]

theorem find_of_saveCNSIToken {db' : Database}
    (hsave : D.run (saveCNSIToken aes key ent c u tr) db = (.ok (), db'))
    (hf : (SaveRequest.cnsi ent c u tr).Findable aes key D db) :
    ∃ t, D.run (findCNSIToken aes key c u) db' = (.ok t, db') ∧
      (SaveRequest.cnsi ent c u tr).Returns aes key db t := by
  obtain ⟨hd, hown, hlink⟩ := hf
  rcases run_saveCNSIToken aes key D ent c u tr db with
    ⟨e, he⟩ | ⟨a, r, b, hc, hu, ha, henc, hb, hcount, hok⟩
  · rw [he] at hsave
    exact absurd (Prod.mk.inj hsave).1 (by simp)
  obtain rfl : _ = db' := (Prod.mk.inj (hok.symm.trans hsave)).2
  have hstored : tr.stored.refreshToken ≠ [] := by
    unfold TokenRecord.stored
    split_ifs at hlink ⊢ with hl
    · exact hlink
    · exact (by decide : linkedTokenText ≠ [])
  obtain ⟨hda, b', rfl, hdb⟩ := encryptTokens_ok henc hstored
  obtain rfl : b' = b := by simpa [Dbms.blob] using hb
  set saved : Database := { db with tokens := saveCNSIRows ent c u tr a b' db.tokens }
  have hex : ∃ r ∈ saved.tokens, TokenRow.isConnectedFor c u r :=
    exists_mem_saveCNSIRows hd hcount
  obtain ⟨row, hq⟩ := D.exists_queryToken hex
  obtain ⟨hrow, hm⟩ := Dbms.queryToken_ok hq
  have hholds := holds_of_mem_saveCNSIRows hown hrow hm
  have hrun : D.run (findCNSIToken aes key c u) saved = _ := run_findCNSITokenBy hc hu
  rw [foundRow, findReply_connected, hq] at hrun
  simp only [Db.scanToken, hholds.authType, reduceCtorEq, if_false, ok_bind,
    hholds.linkedToken, TokenRecord.linkedColumn] at hrun
  by_cases hl : tr.linkedGUID = ""
  · have hst : tr.stored = tr := if_pos hl
    rw [hst] at hda hdb
    simp only [hl, if_true, pure_eq_ok, ok_bind, readRow_of_holds hholds.toHolds hda hdb] at hrun
    refine ⟨_, hrun, ?_⟩
    simp only [SaveRequest.Returns, hl, if_true]
    refine ⟨⟨rfl, rfl, hholds.tokenExpiry⟩, ?_, ?_⟩
    · simp [TokenRow.record, hholds.authType]
    · simp [TokenRow.record, hholds.metaData]
  · rw [if_neg hl] at hlink
    obtain ⟨hD, hg, hlinks⟩ := hlink
    obtain ⟨⟨r₀, hr₀, hg₀, hd₀⟩, hmem⟩ :
        (∃ r ∈ saved.tokens, TokenRow.isToken u tr.linkedGUID r ∧ r.disconnected = false) ∧
          ∀ r ∈ saved.tokens, TokenRow.isToken u tr.linkedGUID r → r ∈ db.tokens :=
      hlinks.saveCNSIRows hg
    have hex' : ∃ r ∈ saved.tokens,
        TokenRow.isToken u tr.linkedGUID r && !r.disconnected := ⟨r₀, hr₀, by simp [hg₀, hd₀]⟩
    obtain ⟨row', hq'⟩ := D.exists_queryToken hex'
    obtain ⟨hrow', hm'⟩ := Dbms.queryToken_ok hq'
    have htok : TokenRow.isToken u tr.linkedGUID row' := (Bool.and_eq_true_iff.1 hm').1
    obtain ⟨huaa, t, hat, hread⟩ := hlinks.2 row' (hmem row' hrow' htok) htok
    simp only [hl, if_false, getReply_connected hD, hq', hat, ok_bind, hread] at hrun
    refine ⟨t, hrun, ?_⟩
    simp only [SaveRequest.Returns, hl, if_false]
    exact ⟨row', hmem row' hrow' htok, htok, huaa, t, ⟨hat, hread⟩, ⟨rfl, rfl, rfl⟩, rfl, rfl⟩

/-! ## The round trip -/

/-- A save that succeeds, followed by the lookup of the same token, returns the record. -/
theorem find_of_save (D : Dbms) (aes : Aes) (key : Bytes) (q : SaveRequest) {db db' : Database}
    (hsave : D.run (q.body aes key) db = (.ok (), db')) (hf : q.Findable aes key D db) :
    ∃ t, D.run (q.find aes key) db' = (.ok t, db') ∧ q.Returns aes key db t := by
  cases q with
  | auth ent u tr => exact find_of_saveAuthToken hsave hf
  | cnsi ent c u tr => exact find_of_saveCNSIToken hsave hf

/-- A login. -/
def loginSave : SaveRequest := .auth (sampleEntropy "login") "user" sampleLogin

/-- A connection with the tokens of the endpoint. -/
def connectSave : SaveRequest := .cnsi (sampleEntropy "token") "cf" "user" sampleLogin

/-- A connection that is linked to the login. -/
def linkSave : SaveRequest :=
  .cnsi (sampleEntropy "token") "cf" "user" { sampleLogin with linkedGUID := "login" }

/-- A login, a connection and a linked connection are saved and found. -/
theorem find_of_save_samples :
    (∃ db t, samplePgsql.run (loginSave.body sampleAes sampleKey) ⟨[], []⟩ = (.ok (), db) ∧
      samplePgsql.run (loginSave.find sampleAes sampleKey) db = (.ok t, db) ∧
      loginSave.Returns sampleAes sampleKey ⟨[], []⟩ t) ∧
    (∃ db t, samplePgsql.run (connectSave.body sampleAes sampleKey) ⟨[], []⟩ = (.ok (), db) ∧
      samplePgsql.run (connectSave.find sampleAes sampleKey) db = (.ok t, db) ∧
      connectSave.Returns sampleAes sampleKey ⟨[], []⟩ t) ∧
    ∃ db t, samplePgsql.run (linkSave.body sampleAes sampleKey)
        ⟨[sampleRow "login" none "user" "uaa" none], []⟩ = (.ok (), db) ∧
      samplePgsql.run (linkSave.find sampleAes sampleKey) db = (.ok t, db) ∧
      linkSave.Returns sampleAes sampleKey
        ⟨[sampleRow "login" none "user" "uaa" none], []⟩ t := by
  have hlinks : LinksTo sampleAes sampleKey ⟨[sampleRow "login" none "user" "uaa" none], []⟩
      "user" "login" := by
    refine ⟨⟨_, List.mem_cons_self, rfl, rfl⟩, fun r hr _ => ?_⟩
    obtain rfl := List.mem_singleton.1 hr
    exact ⟨rfl, _, by decide, rfl⟩
  obtain ⟨t₁, h₁, hr₁⟩ := find_of_save samplePgsql sampleAes sampleKey loginSave
    (show _ = (_, _) from rfl) (show SaveRequest.Findable _ _ _ ⟨[], []⟩ _ from
      ⟨by decide, by simp⟩)
  obtain ⟨t₂, h₂, hr₂⟩ := find_of_save samplePgsql sampleAes sampleKey connectSave
    (show _ = (_, _) from rfl) (show SaveRequest.Findable _ _ _ ⟨[], []⟩ _ from
      ⟨rfl, by simp, by simp [sampleLogin]⟩)
  obtain ⟨t₃, h₃, hr₃⟩ := find_of_save samplePgsql sampleAes sampleKey linkSave
    (show _ = (_, _) from rfl)
    (show SaveRequest.Findable _ _ _ ⟨[sampleRow "login" none "user" "uaa" none], []⟩ _ from
      ⟨rfl, by simp [TokenRow.isCnsiFor, sampleRow], by decide, by decide, hlinks⟩)
  exact ⟨⟨_, t₁, rfl, h₁, hr₁⟩, ⟨_, t₂, rfl, h₂, hr₂⟩, _, t₃, rfl, h₃, hr₃⟩

/-- Whatever is saved is found again, with its auth type and metadata. -/
def SavesAreFound (D : Dbms) (aes : Aes) (key : Bytes) : Prop :=
  ∀ (q : SaveRequest) (db db' : Database), D.run (q.body aes key) db = (.ok (), db') →
    ∃ t, D.run (q.find aes key) db' = (.ok t, db') ∧ match q with
      | .auth _ _ tr => t.SameRecord tr
      | .cnsi _ _ _ _ => q.Returns aes key db t

/-- The save succeeds, and the lookup after it fails. -/
def FailsToFind (D : Dbms) (q : SaveRequest) (db : Database) : Prop :=
  ∃ db' e, D.run (q.body sampleAes sampleKey) db = (.ok (), db') ∧
    D.run (q.find sampleAes sampleKey) db' = (.error e, db')

theorem not_savesAreFound_of_failsToFind {D : Dbms} {q : SaveRequest} {db : Database}
    (h : FailsToFind D q db) : ¬SavesAreFound D sampleAes sampleKey := by
  obtain ⟨db', e, hsave, herror⟩ := h
  intro hall
  obtain ⟨t, hfind, -⟩ := hall q db db' hsave
  exact absurd (Prod.mk.inj (herror.symm.trans hfind)).1 (by simp)

/-- A connection with the record `tr`. -/
def saveOf (tr : TokenRecord) : SaveRequest := .cnsi (sampleEntropy "token") "cf" "user" tr

/-- What is saved is not always found. A disconnected record, a record without refresh
token, a link that leads nowhere, a link on MySQL and a `uaa` row without auth type fail to
be found; a shared row can be found in place of the user's own; and `SaveAuthToken` drops
the auth type and the metadata of a record. -/
theorem not_savesAreFound :
    ¬SavesAreFound samplePgsql sampleAes sampleKey ∧
    FailsToFind samplePgsql (saveOf { sampleLogin with disconnected := true }) ⟨[], []⟩ ∧
    FailsToFind samplePgsql (saveOf { sampleLogin with refreshToken := [] }) ⟨[], []⟩ ∧
    FailsToFind samplePgsql linkSave ⟨[], []⟩ ∧
    FailsToFind { samplePgsql with provider := .MYSQL } linkSave
      ⟨[sampleRow "login" none "user" "uaa" none], []⟩ ∧
    FailsToFind samplePgsql loginSave
      ⟨[{ sampleRow "login" none "user" "uaa" none with authType := none }], []⟩ ∧
    (∃ db t, samplePgsql.run (connectSave.body sampleAes sampleKey)
        ⟨[sampleRow "shared" (some "cf") systemSharedUserGuid "cnsi" none], []⟩ = (.ok (), db) ∧
      samplePgsql.run (connectSave.find sampleAes sampleKey) db = (.ok t, db) ∧
      t.systemShared = true ∧ t.authToken ≠ sampleLogin.authToken) ∧
    ∃ db t, samplePgsql.run (saveAuthToken sampleAes sampleKey (sampleEntropy "login") "user"
        { sampleLogin with authType := "OIDC", metadata := "client" }) ⟨[], []⟩ =
        (.ok (), db) ∧
      samplePgsql.run (findAuthToken sampleAes sampleKey "user") db = (.ok t, db) ∧
      t.authType = "OAuth2" ∧ t.metadata = "" := by
  have hdisconnected : FailsToFind samplePgsql
      (saveOf { sampleLogin with disconnected := true }) ⟨[], []⟩ := ⟨_, _, rfl, rfl⟩
  exact ⟨not_savesAreFound_of_failsToFind hdisconnected, hdisconnected, ⟨_, _, rfl, rfl⟩,
    ⟨_, _, rfl, rfl⟩, ⟨_, _, rfl, rfl⟩, ⟨_, _, rfl, rfl⟩, ⟨_, _, rfl, rfl, rfl, by decide⟩,
    _, _, rfl, rfl, rfl, rfl⟩

end Stratos
