import Stratos.Jetstream.PortalProxy

/-!
# Writing refreshed tokens back

A token of an endpoint that has expired is refreshed by the UAA, which replaces its refresh
token, and the new tokens are written back. `RefreshesRow` says that they are written to
the row the token came from and to no other, for every answer of the UAA.

`refresh_writtenBack_iff` says exactly when: the lookup that feeds a refresh also finds
disconnected rows, `RefreshOAuthToken` writes to the rows of the user with the token GUID
it found, and `RefreshOidcToken` saves the token as the user's own for the endpoint. The row
of the system-shared user is written by neither (`not_refreshesRow_shared`).
-/

namespace Stratos

open Lib

/-- The row `r` holds the new tokens and expiry, and nothing else has changed. -/
def WrittenBack (P : PortalProxy) (r : TokenRow) (uaaRes : UAAResponse) (expiry : ℤ)
    (rows rows' : List TokenRow) : Prop :=
  ∃ a b, decryptToken P.aes P.encryptionKey a = .ok uaaRes.accessToken ∧
    decryptToken P.aes P.encryptionKey b = .ok uaaRes.refreshToken ∧
    rows'.Perm (r.withTokens a expiry b :: rows.erase r)

/-- Whatever new tokens the UAA answers with, the refresh returns them without error and
writes them back to the row `r`. `idOf` is the token whose user info the refresh reads. -/
def RefreshesRow (D : Dbms) (P : PortalProxy) (db : Database) (r : TokenRow)
    (refresh : UAA → Entropy → Db TokenRecord) (idOf : UAAResponse → Bytes) : Prop :=
  ∀ (uaaRes : UAAResponse) (u : JWTUserTokenInfo) (iv iv' : IV) (tokenGUID : String),
    uaaRes.accessToken ≠ [] → uaaRes.refreshToken ≠ [] →
    P.getUserTokenInfo (idOf uaaRes) = .ok u →
    ∃ t db', D.run (refresh (fun _ => .ok uaaRes) ⟨.ok iv, .ok iv', tokenGUID⟩) db =
        (.ok t, db') ∧
      t.authToken = uaaRes.accessToken ∧ t.refreshToken = uaaRes.refreshToken ∧
      t.tokenExpiry = u.tokenExpiry ∧ db'.cnsis = db.cnsis ∧
      WrittenBack P r uaaRes u.tokenExpiry db.tokens db'.tokens

/-- The lookup that feeds a refresh finds the token `t`. -/
def RefreshFinds (D : Dbms) (P : PortalProxy) (db : Database) (c u : String)
    (t : TokenRecord) : Prop :=
  D.run (findCNSITokenIncludeDisconnected P.aes P.encryptionKey c u) db = (.ok t, db)

/-- `RefreshOAuthToken` writes to `r` : it is the one row of `u` with the token GUID that
the lookup of the refresh finds. -/
def OAuthTargets (D : Dbms) (P : PortalProxy) (db : Database) (c u : String) (r : TokenRow) :
    Prop :=
  ∃ t, RefreshFinds D P db c u t ∧ TokenRow.isToken u t.tokenGUID r ∧
    db.tokens.countP (TokenRow.isToken u t.tokenGUID) = 1

/-- `RefreshOidcToken` writes to `r` : it is the one OIDC row of `u` for `c`, is not linked,
and has the metadata and the disconnected flag that the lookup of the refresh finds. -/
def OidcTargets (D : Dbms) (P : PortalProxy) (db : Database) (c u : String) (r : TokenRow) :
    Prop :=
  ∃ t, RefreshFinds D P db c u t ∧ TokenRow.isCnsiTyped c u "cnsi" authTypeOIDC r ∧
    db.tokens.countP (TokenRow.isCnsiTyped c u "cnsi" authTypeOIDC) = 1 ∧
    r.disconnected = t.disconnected ∧ r.metaData = some t.metadata ∧ r.linkedToken = none

variable {D : Dbms} {P : PortalProxy} {db : Database} {c u : String} {r : TokenRow}

/-! ## What a refresh does -/

theorem run_getCNSITokenRecordWithDisconnected (D : Dbms) (P : PortalProxy) (db : Database)
    (c u : String) : D.run (P.getCNSITokenRecordWithDisconnected c u) db =
      (.ok (D.run (findCNSITokenIncludeDisconnected P.aes P.encryptionKey c u) db).1.toOption,
        db) := by
  unfold PortalProxy.getCNSITokenRecordWithDisconnected
  rw [Dbms.run_bind_ok (Prog.run_attempt D.exec _ _)]
  simp [findCNSITokenIncludeDisconnected]

theorem refreshFinds_of_run {t : TokenRecord} {db' : Database}
    (h : D.run (P.getCNSITokenRecordWithDisconnected c u) db = (.ok (some t), db')) :
    RefreshFinds D P db c u t := by
  have hsnd : (D.run (findCNSITokenIncludeDisconnected P.aes P.encryptionKey c u) db).2 = db :=
    run_findCNSITokenBy_snd
  rw [run_getCNSITokenRecordWithDisconnected] at h
  cases hfst : (D.run (findCNSITokenIncludeDisconnected P.aes P.encryptionKey c u) db).1 with
  | error e => simp [hfst, Except.toOption] at h
  | ok t' =>
    obtain rfl : t' = t := by simpa [hfst, Except.toOption] using congrArg Prod.fst h
    exact Prod.ext hfst hsnd

/-- A program that needs the token of a refresh ends well when the token is found and the
rest ends well with it. -/
theorem run_lookup_eq_ok {f : Option TokenRecord → Db TokenRecord} {t : TokenRecord}
    {db' : Database} (hf : D.run (f none) db ≠ (.ok t, db')) :
    D.run (P.getCNSITokenRecordWithDisconnected c u >>= f) db = (.ok t, db') ↔
      ∃ t', RefreshFinds D P db c u t' ∧ D.run (f (some t')) db = (.ok t, db') := by
  have hsnd : (D.run (findCNSITokenIncludeDisconnected P.aes P.encryptionKey c u) db).2 = db :=
    run_findCNSITokenBy_snd
  rw [Dbms.run_bind_ok (run_getCNSITokenRecordWithDisconnected D P db c u)]
  cases h : (D.run (findCNSITokenIncludeDisconnected P.aes P.encryptionKey c u) db).1 with
  | ok t' =>
    constructor
    · exact fun hrun => ⟨t', Prod.ext h hsnd, hrun⟩
    · rintro ⟨t'', ht, hrun⟩
      obtain rfl : t' = t'' := by simpa [h] using congrArg Prod.fst ht
      exact hrun
  | error e =>
    constructor
    · exact fun hrun => absurd hrun hf
    · rintro ⟨t'', ht, -⟩
      simpa [h] using congrArg Prod.fst ht

section Runs

variable {uaaRes : UAAResponse} {i : JWTUserTokenInfo} {ent : Entropy} {t : TokenRecord}
  {client ep : String} {secret : Bytes} {skip : Bool} {db' : Database}

/-- `RefreshOAuthToken` writes the new tokens back with `UpdateTokenAuth`. -/
theorem run_refreshOAuthToken_eq_ok (hi : P.getUserTokenInfo uaaRes.accessToken = .ok i) :
    D.run (P.refreshOAuthToken (fun _ => .ok uaaRes) ent skip c u client secret ep) db =
        (.ok t, db') ↔
      ∃ t', RefreshFinds D P db c u t' ∧ PortalProxy.oauthRecord i uaaRes t' = t ∧
        D.run (updateTokenAuth P.aes P.encryptionKey ent u t) db = (.ok (), db') := by
  refine (run_lookup_eq_ok (by simp)).trans (exists_congr fun t' => and_congr_right fun _ => ?_)
  simp only [getUAATokenWithRefreshToken, mapError_ok, hi, Prog.ret_ok_bind,
    Prog.run_bind_eq_ok, Prog.run_mapError_eq_ok, PortalProxy.updateTokenAuth,
    Prog.pure_def, Prog.run_ret, Prod.mk.injEq, Except.ok.injEq]
  constructor
  · rintro ⟨_, _, hrun, rfl, rfl⟩
    exact ⟨rfl, hrun⟩
  · rintro ⟨rfl, hrun⟩
    exact ⟨(), _, hrun, rfl, rfl⟩

/-- `RefreshOidcToken` saves the new tokens with `SaveCNSIToken`. -/
theorem run_refreshOidcToken_eq_ok (hi : P.getUserTokenInfo uaaRes.idToken = .ok i) :
    D.run (P.refreshOidcToken (fun _ => .ok uaaRes) ent skip c u client secret ep) db =
        (.ok t, db') ↔
      ∃ t', RefreshFinds D P db c u t' ∧ PortalProxy.oidcRecord i uaaRes t' = t ∧
        D.run (saveCNSIToken P.aes P.encryptionKey ent c u t) db = (.ok (), db') := by
  refine (run_lookup_eq_ok (by simp)).trans (exists_congr fun t' => and_congr_right fun _ => ?_)
  simp only [getUAATokenWithRefreshToken, mapError_ok, hi, Prog.ret_ok_bind,
    Prog.run_bind_eq_ok, Prog.run_mapError_eq_ok, PortalProxy.setCNSITokenRecord,
    Prog.pure_def, Prog.run_ret, Prod.mk.injEq, Except.ok.injEq]
  constructor
  · rintro ⟨_, _, hrun, rfl, rfl⟩
    exact ⟨rfl, hrun⟩
  · rintro ⟨rfl, hrun⟩
    exact ⟨(), _, hrun, rfl, rfl⟩

end Runs

/-! ## The row that a lookup finds -/

theorem mem_of_getReply {incl : Bool} {g : String} (h : getReply D db incl u g = .ok r) :
    r ∈ db.tokens := by
  unfold getReply Dbms.exec at h
  split_ifs at h
  · exact (Dbms.queryToken_ok h).1
  · exact (Dbms.queryToken_ok h).1

/-- A lookup finds a row of the table. -/
theorem mem_of_foundRow {incl : Bool} (h : foundRow D db incl c u = .ok r) : r ∈ db.tokens := by
  unfold foundRow at h
  cases hs : Db.scanToken "Unable to Find CNSI token: " (findReply D db incl c u) with
  | error e => simp [hs] at h
  | ok row =>
    cases hl : row.linkedToken with
    | none =>
      obtain rfl : row = r := by simpa [hs, hl] using h
      exact (Dbms.queryToken_ok (scanToken_ok hs)).1
    | some g =>
      simp only [hs, ok_bind, hl] at h
      exact mem_of_getReply (scanToken_ok h)

/-- A lookup that succeeds had both GUIDs, and read the row that it found. -/
theorem of_findCNSIToken {incl : Bool} {t : TokenRecord} {db' : Database}
    (h : D.run (findCNSITokenBy P.aes P.encryptionKey incl c u) db = (.ok t, db'))
    (hr : foundRow D db incl c u = .ok r) :
    c ≠ "" ∧ u ≠ "" ∧ readRow P.aes P.encryptionKey r = .ok t := by
  by_cases hc : c = ""
  · simp [findCNSITokenBy, hc] at h
  by_cases hu : u = ""
  · simp [findCNSITokenBy, hc, hu] at h
  rw [run_findCNSITokenBy hc hu, hr, ok_bind] at h
  exact ⟨hc, hu, congrArg Prod.fst h⟩

/-! ## Which row is written -/

section WriteBack

variable {client ep : String} {secret : Bytes} {skip : Bool}

/-- A UAA can answer with a refresh token that is longer than every ciphertext of a table. -/
theorem exists_long_token (rows : List TokenRow) :
    ∃ t : Bytes, t ≠ [] ∧ ∀ r ∈ rows, r.refreshToken.length < t.length := by
  induction rows with
  | nil => exact ⟨[0], by simp, by simp⟩
  | cons x rows ih =>
    obtain ⟨t, ht, hrows⟩ := ih
    refine ⟨t ++ x.refreshToken, by simp [ht], ?_⟩
    have hpos : 0 < t.length := List.length_pos_iff.2 ht
    intro r hr
    rw [List.length_append]
    rcases List.mem_cons.1 hr with rfl | hr
    · omega
    · have := hrows r hr
      omega

/-- An update that leaves the new tokens in `r`, and in no other row, matches `r` only. -/
theorem of_writtenBack_updateRows {p : TokenRow → Bool} {f : TokenRow → TokenRow}
    {uaaRes : UAAResponse} {e : ℤ} {b : Bytes} (hr : r ∈ db.tokens)
    (h : WrittenBack P r uaaRes e db.tokens (updateRows p f db.tokens))
    (hlong : ∀ r ∈ db.tokens, r.refreshToken.length < uaaRes.refreshToken.length)
    (hb : decryptToken P.aes P.encryptionKey b = .ok uaaRes.refreshToken)
    (hf : ∀ x, (f x).refreshToken = b) :
    db.tokens.countP p = 1 ∧ p r ∧ ∃ a b, f r = r.withTokens a e b := by
  obtain ⟨a', b', -, hb', hperm⟩ := h
  have hlen := (decryptToken_ok hb).2
  have hlen' := (decryptToken_ok hb').2
  obtain ⟨hcount, hp, hfr⟩ := of_updateRows_perm
    (fun x => uaaRes.refreshToken.length ≤ x.refreshToken.length) hperm hr
    (fun x hx => by simpa using hlong x hx) (fun x => by simp [hf, hlen])
    (by simp [TokenRow.withTokens, hlen'])
  exact ⟨hcount, hp, a', b', hfr⟩

theorem refreshesRow_oauth_of_targets (hu : u ≠ "") (hk : ValidKey P.encryptionKey)
    (hr : r ∈ db.tokens) (h : OAuthTargets D P db c u r) :
    RefreshesRow D P db r
      (fun uaa ent => P.refreshOAuthToken uaa ent skip c u client secret ep) (·.accessToken) := by
  obtain ⟨t, ht, hp, hcount⟩ := h
  intro uaaRes i iv iv' g hacc href hi
  obtain ⟨a, b, henc, ha, hb⟩ := exists_encryptTokens hk href
  have hrows : db.tokens.countP (TokenRow.isToken u t.tokenGUID) ≠ 0 := by omega
  have hrun : D.run (updateTokenAuth P.aes P.encryptionKey ⟨.ok iv, .ok iv', g⟩ u
      (PortalProxy.oauthRecord i uaaRes t)) db = (.ok (), { db with
        tokens := updateRows (TokenRow.isToken u t.tokenGUID)
          (TokenRow.withTokens a i.tokenExpiry b) db.tokens }) :=
    run_updateTokenAuth_ok hu hacc href henc hrows
  exact ⟨_, _, (run_refreshOAuthToken_eq_ok hi).2 ⟨t, ht, rfl, hrun⟩, rfl, rfl, rfl, rfl, a, b,
    ha, hb, updateRows_perm hcount hr hp⟩

theorem oauthTargets_of_refreshesRow (hr : r ∈ db.tokens) {tok : Bytes} {i : JWTUserTokenInfo}
    (htok : tok ≠ []) (hi : P.getUserTokenInfo tok = .ok i)
    (h : RefreshesRow D P db r
      (fun uaa ent => P.refreshOAuthToken uaa ent skip c u client secret ep) (·.accessToken)) :
    OAuthTargets D P db c u r := by
  obtain ⟨long, hne, hlong⟩ := exists_long_token db.tokens
  obtain ⟨t, db', hrun, -, -, -, -, hw⟩ := h ⟨tok, long, "", tok⟩ i sampleIV sampleIV "" htok hne hi
  obtain ⟨t', ht', rfl, hrun⟩ := (run_refreshOAuthToken_eq_ok hi).1 hrun
  rcases run_updateTokenAuth P.aes P.encryptionKey D ⟨.ok sampleIV, .ok sampleIV, ""⟩ u
    (PortalProxy.oauthRecord i ⟨tok, long, "", tok⟩ t') db
    with ⟨e, he⟩ | ⟨a, b, -, -, -, henc, -, hok⟩
  · rw [he] at hrun
    cases hrun
  · obtain ⟨-, b', hb, hdec⟩ := encryptTokens_ok henc hne
    obtain rfl := Option.some.inj hb
    obtain rfl := (Prod.ext_iff.1 (hok.symm.trans hrun)).2
    obtain ⟨hcount, hp, -⟩ := of_writtenBack_updateRows hr hw hlong hdec fun _ => rfl
    exact ⟨t', ht', hp, hcount⟩

theorem refreshesRow_oidc_of_targets (hc : c ≠ "") (hu : u ≠ "")
    (hk : ValidKey P.encryptionKey) (hr : r ∈ db.tokens) (h : OidcTargets D P db c u r) :
    RefreshesRow D P db r
      (fun uaa ent => P.refreshOidcToken uaa ent skip c u client secret ep) (·.idToken) := by
  obtain ⟨t, ht, hp, hcount, hdis, hmeta, hlink⟩ := h
  intro uaaRes i iv iv' g hacc href hi
  obtain ⟨a, b, henc, ha, hb⟩ := exists_encryptTokens hk href
  have htyped : db.tokens.countP (TokenRow.isCnsiTyped c u "cnsi" authTypeOIDC) ≠ 0 := by omega
  have hown : db.tokens.countP (TokenRow.isCnsi c u) ≠ 0 :=
    (List.countP_pos_iff.2 ⟨r, hr, TokenRow.isCnsi_of_isCnsiTyped hp⟩).ne'
  have hrow : (PortalProxy.oidcRecord i uaaRes t).intoRow a b r =
      r.withTokens a i.tokenExpiry b := by
    ext1 <;> simp [TokenRecord.intoRow, TokenRow.withRecord, TokenRow.withTokens,
      PortalProxy.oidcRecord, initEndpointTokenRecord, TokenRecord.linkedColumn, hdis, hmeta, hlink]
  have hrun : D.run (saveCNSIToken P.aes P.encryptionKey ⟨.ok iv, .ok iv', g⟩ c u
      (PortalProxy.oidcRecord i uaaRes t)) db = (.ok (), { db with
        tokens := saveCNSIRows ⟨.ok iv, .ok iv', g⟩ c u (PortalProxy.oidcRecord i uaaRes t) a b
          db.tokens }) :=
    run_saveCNSIToken_ok hc hu hacc henc rfl (Or.inr htyped)
  refine ⟨_, _, (run_refreshOidcToken_eq_ok hi).2 ⟨t, ht, rfl, hrun⟩, rfl, rfl, rfl, rfl, a, b,
    ha, hb, ?_⟩
  rw [← hrow, saveCNSIRows, if_neg hown]
  exact updateRows_perm hcount hr hp

theorem oidcTargets_of_refreshesRow (hr : r ∈ db.tokens) {tok : Bytes} {i : JWTUserTokenInfo}
    (htok : tok ≠ []) (hi : P.getUserTokenInfo tok = .ok i)
    (h : RefreshesRow D P db r
      (fun uaa ent => P.refreshOidcToken uaa ent skip c u client secret ep) (·.idToken)) :
    OidcTargets D P db c u r := by
  obtain ⟨long, hne, hlong⟩ := exists_long_token db.tokens
  obtain ⟨t, db', hrun, -, -, -, -, hw⟩ := h ⟨tok, long, "", tok⟩ i sampleIV sampleIV "" htok hne hi
  obtain ⟨t', ht', rfl, hrun⟩ := (run_refreshOidcToken_eq_ok hi).1 hrun
  rcases run_saveCNSIToken P.aes P.encryptionKey D ⟨.ok sampleIV, .ok sampleIV, ""⟩ c u
    (PortalProxy.oidcRecord i ⟨tok, long, "", tok⟩ t') db
    with ⟨e, he⟩ | ⟨a, v, b, -, -, -, henc, hb, -, hok⟩
  · rw [he] at hrun
    cases hrun
  · obtain ⟨-, b', rfl, hdec⟩ := encryptTokens_ok henc hne
    obtain rfl : b' = b := Option.some.inj hb
    obtain rfl := (Prod.ext_iff.1 (hok.symm.trans hrun)).2
    unfold saveCNSIRows at hw
    split_ifs at hw with hown
    · -- An insert leaves one row more.
      obtain ⟨a', b', -, -, hperm⟩ := hw
      have hlen := hperm.length_eq
      have hpos := List.length_pos_of_mem hr
      simp only [List.length_append, List.length_cons, List.length_nil,
        List.length_erase_of_mem hr] at hlen
      omega
    · obtain ⟨hcount, hp, a'', b'', hrow⟩ := of_writtenBack_updateRows hr hw hlong hdec fun _ => rfl
      refine ⟨t', ht', hp, hcount, ?_, ?_, ?_⟩
      · exact congrArg TokenRow.disconnected hrow.symm
      · exact congrArg TokenRow.metaData hrow.symm
      · exact congrArg TokenRow.linkedToken hrow.symm

end WriteBack

/-- For the row `r` that `FindCNSIToken` finds, a refresh writes the new tokens back to `r`
and to no other row, whatever the UAA answers, exactly when it targets `r`. -/
theorem refresh_writtenBack_iff (D : Dbms) (P : PortalProxy) (db : Database)
    (c u client ep : String) (secret : Bytes) (skip : Bool) (r : TokenRow) (t : TokenRecord)
    (hfind : D.run (findCNSIToken P.aes P.encryptionKey c u) db = (.ok t, db))
    (hrow : foundRow D db false c u = .ok r)
    (htok : ∃ tok i, tok ≠ [] ∧ P.getUserTokenInfo tok = .ok i) :
    (RefreshesRow D P db r
        (fun uaa ent => P.refreshOAuthToken uaa ent skip c u client secret ep) (·.accessToken) ↔
      OAuthTargets D P db c u r) ∧
    (RefreshesRow D P db r
        (fun uaa ent => P.refreshOidcToken uaa ent skip c u client secret ep) (·.idToken) ↔
      OidcTargets D P db c u r) := by
  obtain ⟨hc, hu, hread⟩ := of_findCNSIToken hfind hrow
  obtain ⟨tok, i, htok, hi⟩ := htok
  have hk := (decryptToken_ok (of_readRow hread)).1
  have hr := mem_of_foundRow hrow
  exact ⟨⟨oauthTargets_of_refreshesRow hr htok hi, refreshesRow_oauth_of_targets hu hk hr⟩,
    ⟨oidcTargets_of_refreshesRow hr htok hi, refreshesRow_oidc_of_targets hc hu hk hr⟩⟩

/-! ## A row of the user, and the row of the shared user -/

/-- A connected row for the endpoint "cf". -/
def connectedRow (owner authType : String) : TokenRow :=
  { sampleRow "token" (some "cf") owner "cnsi" none with
    authType := some authType, metaData := some "" }

/-- A table with this row only. -/
def connectedTable (owner authType : String) : Database := ⟨[connectedRow owner authType], []⟩

/-- The OAuth refresh of "user" for "cf". -/
def sampleOAuthRefresh (uaa : UAA) (ent : Entropy) : Db TokenRecord :=
  samplePortalProxy.refreshOAuthToken uaa ent false "cf" "user" "cf" [] "https://uaa"

/-- The OIDC refresh of "user" for "cf". -/
def sampleOidcRefresh (uaa : UAA) (ent : Entropy) : Db TokenRecord :=
  samplePortalProxy.refreshOidcToken uaa ent false "cf" "user" "cf" [] "https://uaa"

/-- A token of the user's own, refreshed in both flows. -/
theorem refresh_writtenBack_iff_ownRow :
    RefreshesRow samplePgsql samplePortalProxy (connectedTable "user" authTypeOAuth2)
      (connectedRow "user" authTypeOAuth2) sampleOAuthRefresh (·.accessToken) ∧
    RefreshesRow samplePgsql samplePortalProxy (connectedTable "user" authTypeOIDC)
      (connectedRow "user" authTypeOIDC) sampleOidcRefresh (·.idToken) :=
  ⟨(refresh_writtenBack_iff samplePgsql samplePortalProxy (connectedTable "user" authTypeOAuth2)
      "cf" "user" "cf" "https://uaa" [] false _ _ rfl rfl ⟨sampleToken, _, by decide, rfl⟩).1.2
      ⟨_, rfl, rfl, rfl⟩,
    (refresh_writtenBack_iff samplePgsql samplePortalProxy (connectedTable "user" authTypeOIDC)
      "cf" "user" "cf" "https://uaa" [] false _ _ rfl rfl ⟨sampleToken, _, by decide, rfl⟩).2.2
      ⟨_, rfl, rfl, rfl, rfl, rfl, rfl⟩⟩

/-- An answer of the UAA. -/
def sampleAnswer : UAAResponse := ⟨sampleToken, [5], "", sampleToken⟩

/-- The row of the system-shared user is found, but a refresh does not write to it :
`RefreshOAuthToken` fails and `RefreshOidcToken` copies the token into a row of the user. -/
theorem not_refreshesRow_shared :
    (foundRow samplePgsql (connectedTable systemSharedUserGuid authTypeOAuth2) false "cf" "user" =
        .ok (connectedRow systemSharedUserGuid authTypeOAuth2) ∧
      ¬RefreshesRow samplePgsql samplePortalProxy
        (connectedTable systemSharedUserGuid authTypeOAuth2)
        (connectedRow systemSharedUserGuid authTypeOAuth2) sampleOAuthRefresh (·.accessToken)) ∧
    (foundRow samplePgsql (connectedTable systemSharedUserGuid authTypeOIDC) false "cf" "user" =
        .ok (connectedRow systemSharedUserGuid authTypeOIDC) ∧
      ¬RefreshesRow samplePgsql samplePortalProxy
        (connectedTable systemSharedUserGuid authTypeOIDC)
        (connectedRow systemSharedUserGuid authTypeOIDC) sampleOidcRefresh (·.idToken)) := by
  refine ⟨⟨rfl, fun h => ?_⟩, ⟨rfl, fun h => ?_⟩⟩
  · obtain ⟨t, db', hrun, -⟩ := h sampleAnswer sampleInfo sampleIV sampleIV "new"
      (by decide) (by decide) rfl
    cases hrun
  · obtain ⟨t, db', hrun, -, -, -, -, _, _, -, -, hperm⟩ := h sampleAnswer sampleInfo sampleIV
      sampleIV "new" (by decide) (by decide) rfl
    have hlen : (samplePgsql.run (sampleOidcRefresh (fun _ => .ok sampleAnswer)
        ⟨.ok sampleIV, .ok sampleIV, "new"⟩)
        (connectedTable systemSharedUserGuid authTypeOIDC)).2.tokens.length = 2 := rfl
    rw [hrun, hperm.length_eq] at hlen
    simp [connectedTable] at hlen

end Stratos
