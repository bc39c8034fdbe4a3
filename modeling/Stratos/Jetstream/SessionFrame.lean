import Stratos.Jetstream.Auth
import Stratos.Jetstream.Refresh

/-!
# What a session can write

The calls of one user's session touch only the rows of that user, and the rows of the
system-shared user only when `GetUAAUser` reports the user as an administrator
(`session_frame`). One write changes the rows of one owner (`OnlyRowsOf`); the owner is the
user of the session, or the system-shared user after the check, or the user named by the
stored console token, which is the same user as long as the UAA issues tokens for that user
only (`StoredTokensName`, an invariant of the session).
-/

namespace Stratos

open Lib

/-! ## Rows by owner -/

/-- The rows of the owner `v`. -/
def rowsOf (v : String) (db : Database) : List TokenRow :=
  db.tokens.filter fun r => r.userGuid == v

/-- The rows of all but `u` and the system-shared user. -/
def rowsOfOthers (u : String) (db : Database) : List TokenRow :=
  db.tokens.filter fun r => !(r.userGuid == u || r.userGuid == systemSharedUserGuid)

/-- The rows of all but `v` are the same in both tables. -/
def OnlyRowsOf (v : String) (db db' : Database) : Prop :=
  db'.tokens.filter (fun r => !(r.userGuid == v)) = db.tokens.filter fun r => !(r.userGuid == v)

/-- Only rows of `u` have changed, and rows of the system-shared user if `admin` holds. -/
structure Frame (u : String) (admin : Prop) (db db' : Database) : Prop where
  others : rowsOfOthers u db' = rowsOfOthers u db
  shared : ¬admin → rowsOf systemSharedUserGuid db' = rowsOf systemSharedUserGuid db

variable {u v c : String} {admin : Prop} {db db' db'' : Database} {rows : List TokenRow}

theorem OnlyRowsOf.filter_eq {p : TokenRow → Bool} (h : OnlyRowsOf v db db')
    (hp : ∀ r, p r → r.userGuid ≠ v) : db'.tokens.filter p = db.tokens.filter p := by
  have hsplit : ∀ l : List TokenRow,
      l.filter p = (l.filter fun r => !(r.userGuid == v)).filter p := by
    intro l
    rw [List.filter_filter]
    refine List.filter_congr fun r _ => ?_
    cases hr : p r
    · rfl
    · simp [hp r hr]
  rw [hsplit, hsplit db.tokens, h]

/-- A write to the rows of the user, or to the shared rows when this is allowed. -/
theorem OnlyRowsOf.frame (hu : u ≠ systemSharedUserGuid) (h : OnlyRowsOf v db db')
    (hv : v = u ∨ v = systemSharedUserGuid ∧ admin) : Frame u admin db db' := by
  constructor
  · refine h.filter_eq fun r hr => ?_
    rcases hv with rfl | ⟨rfl, -⟩ <;> simp_all
  · intro hadmin
    obtain rfl := hv.resolve_right fun h => hadmin h.2
    exact h.filter_eq fun r hr => by simpa [eq_comm, beq_iff_eq.1 hr] using hu

theorem Frame.of_tokens_eq (h : db'.tokens = db.tokens) : Frame u admin db db' := by
  constructor
  · rw [rowsOfOthers, h, rowsOfOthers]
  · intro _
    rw [rowsOf, h, rowsOf]

theorem Frame.trans (h : Frame u admin db db') (h' : Frame u admin db' db'') :
    Frame u admin db db'' :=
  ⟨h'.others.trans h.others, fun ha => (h'.shared ha).trans (h.shared ha)⟩

/-! ## One lemma for each kind of write -/

theorem onlyRowsOf_updateRows {p : TokenRow → Bool} {f : TokenRow → TokenRow}
    (hp : ∀ r, p r → r.userGuid = v) (hf : ∀ r, (f r).userGuid = r.userGuid) :
    OnlyRowsOf v db { db with tokens := updateRows p f db.tokens } :=
  filter_updateRows fun r hr => by simp [hf, hp r hr]

theorem onlyRowsOf_append {r : TokenRow} (hr : r.userGuid = v) :
    OnlyRowsOf v db { db with tokens := db.tokens ++ [r] } := by
  simp [OnlyRowsOf, hr]

theorem onlyRowsOf_filter {p : TokenRow → Bool} (hp : ∀ r, p r = false → r.userGuid = v) :
    OnlyRowsOf v db { db with tokens := db.tokens.filter p } := by
  unfold OnlyRowsOf
  rw [List.filter_filter]
  refine List.filter_congr fun r _ => ?_
  cases hr : p r
  · simp [hp r hr]
  · simp

theorem userGuid_of_isAuth {r : TokenRow} (h : TokenRow.isAuth v r) : r.userGuid = v := by
  simpa using (Bool.and_eq_true_iff.1 h).2

theorem userGuid_of_isCnsi {r : TokenRow} (h : TokenRow.isCnsi c v r) : r.userGuid = v := by
  simp only [TokenRow.isCnsi, Bool.and_eq_true, beq_iff_eq] at h
  exact h.1.2

theorem userGuid_of_isToken {g : String} {r : TokenRow} (h : TokenRow.isToken v g r) :
    r.userGuid = v := by
  simpa using (Bool.and_eq_true_iff.1 h).1

theorem onlyRowsOf_saveAuthRows (ent : Entropy) (tr : TokenRecord) (a b : Bytes) :
    OnlyRowsOf v db { db with tokens := saveAuthRows ent v tr a b db.tokens } := by
  unfold saveAuthRows
  split_ifs
  · exact onlyRowsOf_append rfl
  · exact onlyRowsOf_updateRows (fun r => userGuid_of_isAuth) fun _ => rfl

theorem onlyRowsOf_saveCNSIRows (ent : Entropy) (tr : TokenRecord) (a b : Bytes) :
    OnlyRowsOf v db { db with tokens := saveCNSIRows ent c v tr a b db.tokens } := by
  unfold saveCNSIRows
  split_ifs
  · exact onlyRowsOf_append rfl
  · exact onlyRowsOf_updateRows
      (fun r hr => userGuid_of_isCnsi (TokenRow.isCnsi_of_isCnsiTyped hr)) fun _ => rfl

/-! ## The tokens of the console -/

variable (P : PortalProxy)

/-- The token names the user `u`, if it names one. -/
def NamesUser (u : String) (tok : Bytes) : Prop :=
  ∀ i, P.getUserTokenInfo tok = .ok i → i.userGUID = u

/-- The UAA issues tokens that name `u`. -/
def IssuesFor (u : String) (uaa : UAA) : Prop :=
  ∀ req res, uaa req = .ok res → NamesUser P u res.accessToken

/-- The stored console tokens of `u` name `u`. -/
def StoredTokensName (u : String) (db : Database) : Prop :=
  ∀ r ∈ db.tokens, TokenRow.isAuth u r → ∀ tok,
    decryptToken P.aes P.encryptionKey r.authToken = .ok tok → NamesUser P u tok

/-- When the console tokens name `u`, they still do, and only rows within the frame have
changed. -/
def Kept (u : String) (admin : Prop) (db db' : Database) : Prop :=
  StoredTokensName P u db → StoredTokensName P u db' ∧ Frame u admin db db'

variable {P} {D : Dbms} {ent : Entropy}

theorem kept_refl (db : Database) : Kept P u admin db db :=
  fun h => ⟨h, Frame.of_tokens_eq rfl⟩

theorem kept_trans (db db' db'' : Database) (h : Kept P u admin db db')
    (h' : Kept P u admin db' db'') : Kept P u admin db db'' := fun hnames =>
  ⟨(h' (h hnames).1).1, (h hnames).2.trans (h' (h hnames).1).2⟩

/-- A program that leaves the tokens alone. -/
theorem kept_of_tokens_eq (h : db'.tokens = db.tokens) : Kept P u admin db db' :=
  fun hnames => ⟨fun r hr => hnames r (h ▸ hr), Frame.of_tokens_eq h⟩

/-- Every row of the table, and so every console token, was there before. -/
theorem StoredTokensName.of_subset (h : StoredTokensName P u db)
    (hsub : ∀ r ∈ db'.tokens, TokenRow.isAuth u r → r ∈ db.tokens) : StoredTokensName P u db' :=
  fun r hr hauth => h r (hsub r hr hauth) hauth

theorem mem_of_mem_saveCNSIRows {tr : TokenRecord} {a b : Bytes} {r : TokenRow}
    (hr : r ∈ saveCNSIRows ent c v tr a b rows) (hauth : TokenRow.isAuth u r) : r ∈ rows := by
  have huaa : r.tokenType = "uaa" := by simpa using (Bool.and_eq_true_iff.1 hauth).1
  unfold saveCNSIRows at hr
  split_ifs at hr with hc
  · rcases List.mem_append.1 hr with h | h
    · exact h
    · obtain rfl := List.mem_singleton.1 h
      exact absurd huaa (by simp [newCnsiRow])
  · obtain ⟨r', hr', rfl⟩ := mem_updateRows.1 hr
    split_ifs at huaa ⊢ with hp
    · have hcnsi : r'.tokenType = "cnsi" := by simp_all [TokenRow.isCnsiTyped]
      exact absurd (hcnsi.symm.trans huaa) (by decide)
    · exact hr'

/-- The user of the session saves a console token that names the user. -/
theorem keeps_setUAATokenRecord (hu : u ≠ systemSharedUserGuid) {t : TokenRecord}
    (ht : NamesUser P u t.authToken) (db : Database) :
    (P.setUAATokenRecord ent u t).Keeps D.exec (Kept P u admin) db := by
  refine Prog.keeps_mapError.2 ?_
  change Kept P u admin db (D.run _ db).2
  rcases run_saveAuthToken P.aes P.encryptionKey D ent u t db with
    ⟨e, he⟩ | ⟨a, r, b, -, -, henc, -, hrun⟩
  · rw [he]
    exact kept_refl db
  · rw [hrun]
    refine fun hnames => ⟨fun row hrow hauth tok htok => ?_,
      (onlyRowsOf_saveAuthRows ent t a b).frame hu (Or.inl rfl)⟩
    rw [(holds_of_mem_saveAuthRows hrow hauth).1.authToken, decrypt_of_encryptTokens henc] at htok
    exact Except.ok.inj htok ▸ ht

/-- An endpoint token is saved for the user of the session, or for everyone if allowed. -/
theorem keeps_setCNSITokenRecord (hu : u ≠ systemSharedUserGuid)
    (hv : v = u ∨ v = systemSharedUserGuid ∧ admin) (c : String) (t : TokenRecord)
    (db : Database) : (P.setCNSITokenRecord ent c v t).Keeps D.exec (Kept P u admin) db := by
  refine Prog.keeps_mapError.2 ?_
  change Kept P u admin db (D.run _ db).2
  rcases run_saveCNSIToken P.aes P.encryptionKey D ent c v t db with
    ⟨e, he⟩ | ⟨a, r, b, -, -, -, -, -, -, hrun⟩
  · rw [he]
    exact kept_refl db
  · rw [hrun]
    exact fun hnames => ⟨hnames.of_subset fun row hrow => mem_of_mem_saveCNSIRows hrow,
      (onlyRowsOf_saveCNSIRows ent t a b).frame hu hv⟩

/-- An endpoint token of the user of the session is deleted, or the shared one if allowed. -/
theorem keeps_unsetCNSITokenRecord (hu : u ≠ systemSharedUserGuid)
    (hv : v = u ∨ v = systemSharedUserGuid ∧ admin) (c : String) (db : Database) :
    (PortalProxy.unsetCNSITokenRecord c v).Keeps D.exec (Kept P u admin) db := by
  refine Prog.keeps_mapError.2 ?_
  change Kept P u admin db (D.run _ db).2
  unfold deleteCNSIToken
  split_ifs
  · exact kept_refl db
  · exact kept_refl db
  · simp only [Db.send, Prog.exec_bind, Prog.run_exec, Dbms.exec_deleteCNSIToken, Db.checkErr_ok,
      Prog.ret_ok_bind, Prog.pure_def, Prog.run_ret]
    refine fun hnames => ⟨hnames.of_subset fun r hr _ => List.mem_of_mem_filter hr,
      (onlyRowsOf_filter fun r hr => ?_).frame hu hv⟩
    exact userGuid_of_isCnsi (by simpa using hr)

/-- The tokens of the user of the session are updated ; those of the console only with a
token that names the user. -/
theorem keeps_updateTokenAuth (hu : u ≠ systemSharedUserGuid) {t : TokenRecord}
    (ht : (∃ r ∈ db.tokens, TokenRow.isAuth u r ∧ TokenRow.isToken u t.targetGUID r) →
      NamesUser P u t.authToken) :
    (P.updateTokenAuth ent u t).Keeps D.exec (Kept P u admin) db := by
  refine Prog.keeps_mapError.2 ?_
  change Kept P u admin db (D.run _ db).2
  rcases run_updateTokenAuth P.aes P.encryptionKey D ent u t db with
    ⟨e, he⟩ | ⟨a, b, -, -, -, henc, -, hrun⟩
  · rw [he]
    exact kept_refl db
  · rw [hrun]
    have hrows : OnlyRowsOf u db { db with
        tokens := updateRows (TokenRow.isToken u t.targetGUID)
          (TokenRow.withTokens a t.tokenExpiry b) db.tokens } :=
      onlyRowsOf_updateRows (fun r => userGuid_of_isToken) fun _ => rfl
    refine fun hnames => ⟨fun row hrow hauth tok htok => ?_, hrows.frame hu (Or.inl rfl)⟩
    obtain ⟨r, hr, rfl⟩ := mem_updateRows.1 hrow
    split_ifs at hauth htok with hp
    · have htok' : decryptToken P.aes P.encryptionKey a = .ok tok := htok
      rw [decrypt_of_encryptTokens henc] at htok'
      exact Except.ok.inj htok' ▸ ht ⟨r, hr, hauth, hp⟩
    · exact hnames r hr hauth tok htok

/-! ## Functions that only read -/

section ReadOnly

theorem readOnly_findAuthToken (u : String) :
    (findAuthToken P.aes P.encryptionKey u).ReadOnly D.exec :=
  fun _ => run_findAuthToken_snd

theorem readOnly_findCNSITokenBy (incl : Bool) (c u : String) :
    (findCNSITokenBy P.aes P.encryptionKey incl c u).ReadOnly D.exec :=
  fun _ => run_findCNSITokenBy_snd

theorem readOnly_getCNSITokenRecord (c u : String) :
    (P.getCNSITokenRecord c u).ReadOnly D.exec :=
  (readOnly_findCNSITokenBy false c u).attempt.bind fun _ => Prog.readOnly_ret _

theorem readOnly_getCNSITokenRecordWithDisconnected (c u : String) :
    (P.getCNSITokenRecordWithDisconnected c u).ReadOnly D.exec :=
  (readOnly_findCNSITokenBy true c u).attempt.bind fun _ => Prog.readOnly_ret _

theorem readOnly_ret_bind {α β : Type} (r : Except GoError α) {f : α → Db β}
    (hf : ∀ a, (f a).ReadOnly D.exec) : (Prog.ret r >>= f).ReadOnly D.exec :=
  (Prog.readOnly_ret r).bind hf

theorem readOnly_getCNSIRecord (g : String) : (P.getCNSIRecord g).ReadOnly D.exec := by
  refine Prog.readOnly_exec (fun db => by rw [Dbms.exec_findCNSI]) fun reply => ?_
  exact readOnly_ret_bind (.ok reply) fun _ => readOnly_ret_bind _ fun _ => Prog.readOnly_ret _

theorem readOnly_getCNSIRecordByEndpoint (e : String) :
    (P.getCNSIRecordByEndpoint e).ReadOnly D.exec := by
  refine Prog.readOnly_exec (fun db => by rw [Dbms.exec_findCNSIByAPIEndpoint]) fun reply => ?_
  exact readOnly_ret_bind (.ok reply) fun _ => readOnly_ret_bind _ fun _ => Prog.readOnly_ret _

theorem readOnly_getUAAUser (u : String) : (P.getUAAUser u).ReadOnly D.exec :=
  ((readOnly_findAuthToken u).mapError _).bind fun _ =>
    readOnly_ret_bind _ fun _ => Prog.readOnly_ret _

theorem readOnly_getCNSIUserFromToken (c : String) (tr : TokenRecord) :
    (P.getCNSIUserFromToken c tr).ReadOnly D.exec := by
  unfold PortalProxy.getCNSIUserFromToken PortalProxy.getCNSIUserFromOAuthToken
  split_ifs
  · exact Prog.readOnly_ret _
  · cases P.getUserTokenInfo tr.authToken with
    | error e => exact Prog.readOnly_ret _
    | ok i =>
      refine (readOnly_getCNSIRecord c).attempt.bind fun found => ?_
      cases found with
      | error e => exact Prog.readOnly_ret _
      | ok r =>
        dsimp only
        split_ifs <;> exact Prog.readOnly_ret _

theorem readOnly_connectUserID (ctx : Context) (shared : Bool) :
    (P.connectUserID ctx shared).ReadOnly D.exec := by
  refine readOnly_ret_bind _ fun userID => ?_
  split_ifs
  · refine ((readOnly_getUAAUser userID).mapError _).bind fun user => ?_
    split_ifs
    · exact Prog.readOnly_ret _
    · exact Prog.readOnly_fail _
  · exact Prog.readOnly_ret _

theorem readOnly_disconnectUserGUID (c u : String) :
    (P.disconnectUserGUID c u).ReadOnly D.exec := by
  refine (readOnly_getCNSITokenRecord c u).bind fun found => ?_
  split_ifs
  · refine ((readOnly_getUAAUser u).mapError _).bind fun user => ?_
    split_ifs
    · exact Prog.readOnly_ret _
    · exact Prog.readOnly_fail _
  · exact Prog.readOnly_ret _

end ReadOnly

/-! ## The owner that a handler writes for -/

/-- `GetUAAUser` reports the user as an administrator. -/
def ReportsAdmin (D : Dbms) (P : PortalProxy) (u : String) (db : Database) : Prop :=
  ∃ user, (D.run (P.getUAAUser u) db).1 = .ok user ∧ user.admin = true

/-- After the check of `GetUAAUser` the handler writes for the system-shared user. -/
theorem of_getUAAUser_check {err : GoError → GoError} {msg : GoError}
    (h : D.run ((P.getUAAUser u).mapError err >>= fun user =>
      if user.admin then pure systemSharedUserGuid else .fail msg) db = (.ok v, db')) :
    v = systemSharedUserGuid ∧ ReportsAdmin D P u db := by
  obtain ⟨user, db₁, huser, hrest⟩ := (Prog.run_bind_eq_ok D.exec).1 h
  rw [Prog.run_mapError_eq_ok] at huser
  split_ifs at hrest with hadmin
  · simp only [Prog.pure_def, Prog.run_ret, Prod.mk.injEq, Except.ok.injEq] at hrest
    exact ⟨hrest.1.symm, user, congrArg Prod.fst huser, hadmin⟩
  · simp at hrest

theorem of_connectUserID {ctx : Context} {shared : Bool} (hctx : ctx.userID = .ok u)
    (h : D.run (P.connectUserID ctx shared) db = (.ok v, db')) :
    v = u ∨ v = systemSharedUserGuid ∧ shared = true ∧ ReportsAdmin D P u db := by
  simp only [PortalProxy.connectUserID, hctx, mapError_ok, Prog.ret_ok_bind] at h
  split_ifs at h with hshared
  · obtain ⟨hv, hadmin⟩ := of_getUAAUser_check h
    exact Or.inr ⟨hv, hshared, hadmin⟩
  · simp only [Prog.pure_def, Prog.run_ret, Prod.mk.injEq, Except.ok.injEq] at h
    exact Or.inl h.1.symm

theorem of_disconnectUserGUID (h : D.run (P.disconnectUserGUID c u) db = (.ok v, db')) :
    v = u ∨ v = systemSharedUserGuid ∧ ReportsAdmin D P u db := by
  obtain ⟨found, db₁, hfound, hrest⟩ := (Prog.run_bind_eq_ok D.exec).1 h
  obtain rfl : db₁ = db := by
    simpa [hfound] using readOnly_getCNSITokenRecord (P := P) (D := D) c u db
  split_ifs at hrest
  · exact Or.inr (of_getUAAUser_check hrest)
  · simp only [Prog.pure_def, Prog.run_ret, Prod.mk.injEq, Except.ok.injEq] at hrest
    exact Or.inl hrest.1.symm

/-! ## What each handler keeps -/

section Endpoints

theorem keeps_setCNSIRecord (iv : Except GoError IV) (g : String) (r : CNSIRecord)
    (db : Database) : (P.setCNSIRecord iv g r).Keeps D.exec (Kept P u admin) db := by
  refine Prog.keeps_mapError.2 ?_
  refine (Prog.readOnly_ret _).keeps_bind kept_refl fun secret _ => ?_
  refine kept_of_tokens_eq ?_
  simp only [Db.send, Prog.exec_bind, Prog.run_exec, Dbms.exec_saveCNSI]
  split_ifs <;> rfl

theorem keeps_updateCNSI (g : String) (sso : Bool) (db : Database) :
    (PortalProxy.updateCNSI g sso).Keeps D.exec (Kept P u admin) db := by
  refine kept_of_tokens_eq ?_
  unfold PortalProxy.updateCNSI
  split_ifs
  · rfl
  · simp only [Db.send, Prog.exec_bind, Prog.run_exec, Dbms.exec_updateCNSI, Db.checkErr_ok,
      Prog.ret_ok_bind, Db.checkUpdated]
    split_ifs <;> rfl

theorem keeps_doRegisterEndpoint (iv : Except GoError IV) (name api client : String)
    (skip sso : Bool) (secret : Bytes) (info : InfoFunc) (db : Database) :
    (P.doRegisterEndpoint iv name api skip client secret sso info).Keeps D.exec
      (Kept P u admin) db := by
  unfold PortalProxy.doRegisterEndpoint
  split_ifs
  · exact kept_refl db
  · refine (Prog.readOnly_ret _).keeps_bind kept_refl fun url _ => ?_
    refine ((readOnly_getCNSIRecordByEndpoint _).attempt.bind fun _ =>
      Prog.readOnly_ret _).keeps_bind kept_refl fun ok _ => ?_
    split_ifs
    · exact kept_refl db
    · refine (Prog.readOnly_ret _).keeps_bind kept_refl fun i _ => ?_
      exact Prog.keeps_bind kept_trans (keeps_setCNSIRecord iv _ _ db) fun _ _ _ =>
        Prog.keeps_ret kept_refl _

theorem keeps_autoRegister (plugins : Plugins) (iv : Except GoError IV) (api : String)
    (db : Database) : (P.autoRegister plugins iv api).Keeps D.exec (Kept P u admin) db := by
  refine (readOnly_getCNSIRecordByEndpoint api).attempt.keeps_bind kept_refl fun found _ => ?_
  split
  · exact Prog.keeps_ret kept_refl _
  · split
    · exact Prog.keeps_ret kept_refl _
    · exact Prog.keeps_mapError.2 (keeps_doRegisterEndpoint _ _ _ _ _ _ _ _ db)

end Endpoints

/-- The console token that is found names the user. -/
theorem namesUser_of_findAuthToken {t : TokenRecord} (hnames : StoredTokensName P u db)
    (h : D.run (P.getUAATokenRecord u) db = (.ok t, db')) : NamesUser P u t.authToken := by
  obtain ⟨r, hr, hauth, hdec⟩ := exists_row_of_findAuthToken h
  exact hnames r hr hauth _ hdec

/-- A login that succeeds has an answer of the UAA, and the user that its token names. -/
theorem of_login_ok {uaa : UAA} {ctx : Context} {skip : Bool} {client ep : String}
    {secret : Bytes} {uaaRes : UAAResponse} {i : JWTUserTokenInfo}
    (h : P.login uaa ctx skip client secret ep = .ok (uaaRes, i)) :
    (∃ req, uaa req = .ok uaaRes) ∧ P.getUserTokenInfo uaaRes.accessToken = .ok i := by
  unfold PortalProxy.login at h
  split_ifs at h
  · obtain ⟨res, hres, h⟩ := bind_eq_ok.1 h
    obtain ⟨info, hinfo, h⟩ := bind_eq_ok.1 h
    obtain ⟨uri, -, hres⟩ := bind_eq_ok.1 hres
    obtain ⟨rfl, rfl⟩ := Prod.mk.inj (Except.ok.inj h)
    exact ⟨⟨_, hres⟩, hinfo⟩
  · obtain ⟨res, hres, h⟩ := bind_eq_ok.1 h
    obtain ⟨info, hinfo, h⟩ := bind_eq_ok.1 h
    obtain ⟨rfl, rfl⟩ := Prod.mk.inj (Except.ok.inj h)
    exact ⟨⟨_, hres⟩, hinfo⟩

section Handlers

variable (hu : u ≠ systemSharedUserGuid) {ctx : Context} (hctx : ctx.userID = .ok u)
include hu

theorem keeps_saveAuthToken {i : JWTUserTokenInfo} {tok : Bytes} (hi : i.userGUID = u)
    (htok : NamesUser P u tok) (refresh : Bytes) (db : Database) :
    (P.saveAuthToken ent i tok refresh).Keeps D.exec (Kept P u admin) db := by
  subst hi
  exact Prog.keeps_bind kept_trans (keeps_setUAATokenRecord hu htok db) fun _ _ _ =>
    Prog.keeps_ret kept_refl _

include hctx

/-- Connecting an endpoint in the session of `u`. -/
theorem keeps_doLoginToCNSI (plugins : Plugins) (ent : Entropy) (c : String) (shared : Bool)
    (hadmin : shared = true → ReportsAdmin D P u db → admin) :
    (P.doLoginToCNSI plugins ent ctx c shared).Keeps D.exec (Kept P u admin) db := by
  refine ((readOnly_getCNSIRecord c).mapError _).keeps_bind kept_refl fun record _ => ?_
  refine (readOnly_connectUserID ctx shared).keeps_bind kept_refl fun userID huser => ?_
  have howner : userID = u ∨ userID = systemSharedUserGuid ∧ admin :=
    (of_connectUserID hctx huser).imp_right fun h => ⟨h.1, hadmin h.2.1 h.2.2⟩
  split
  · exact Prog.keeps_ret kept_refl _
  · refine (Prog.readOnly_ret _).keeps_bind kept_refl fun connected _ => ?_
    refine Prog.keeps_bind kept_trans
      (Prog.keeps_mapError.2 (keeps_setCNSITokenRecord hu howner _ _ _)) fun _ db' _ => ?_
    exact ((readOnly_getCNSIUserFromToken c _).bind fun _ => Prog.readOnly_ret _).keeps kept_refl

/-- The console token that is copied names `u`, so the copy is for `u`. -/
theorem keeps_doLoginToCNSIwithConsoleUAAtoken (plugins : Plugins) (ent : Entropy)
    (record : CNSIRecord) (db : Database) :
    (P.doLoginToCNSIwithConsoleUAAtoken plugins ent ctx record).Keeps D.exec
      (Kept P u admin) db := by
  intro hnames
  suffices hkeeps : (P.doLoginToCNSIwithConsoleUAAtoken plugins ent ctx record).Keeps D.exec
      (Kept P u admin) db from hkeeps hnames
  simp only [PortalProxy.doLoginToCNSIwithConsoleUAAtoken, hctx, mapError_ok, Prog.ret_ok_bind]
  refine (readOnly_findAuthToken u).keeps_bind kept_refl fun uaaToken htoken => ?_
  refine (Prog.readOnly_ret _).keeps_bind kept_refl fun i hi => ?_
  have howner : i.userGUID = u := namesUser_of_findAuthToken hnames htoken i
    (mapError_eq_ok.1 (congrArg Prod.fst hi))
  split
  · exact Prog.keeps_ret kept_refl _
  · refine (Prog.readOnly_ret _).keeps_bind kept_refl fun info _ => ?_
    refine (Prog.readOnly_ret _).keeps_bind kept_refl fun url _ => ?_
    split_ifs
    · refine Prog.keeps_bind kept_trans (Prog.keeps_attempt.2
        (keeps_setCNSITokenRecord hu (Or.inl howner) _ _ db)) fun saved db₁ _ => ?_
      exact Prog.keeps_bind kept_trans (Prog.keeps_attempt.2 (keeps_updateCNSI _ _ db₁))
        fun _ _ _ => Prog.keeps_ret kept_refl _
    · exact Prog.keeps_ret kept_refl _

theorem keeps_loginToCNSI (plugins : Plugins) (ent : Entropy) (db : Database) :
    (P.loginToCNSI plugins ent ctx).Keeps D.exec (Kept P u (ReportsAdmin D P u db)) db := by
  unfold PortalProxy.loginToCNSI
  split_ifs
  · exact kept_refl db
  · exact keeps_doLoginToCNSI hu hctx plugins ent _ _ fun _ h => h

theorem keeps_ssoLoginToCNSI (plugins : Plugins) (ent : Entropy) (db : Database) :
    (P.ssoLoginToCNSI plugins ent ctx).Keeps D.exec (Kept P u admin) db := by
  unfold PortalProxy.ssoLoginToCNSI
  split
  · exact kept_refl db
  · refine (Prog.readOnly_ret _).keeps_bind kept_refl fun _ _ => ?_
    split
    · exact kept_refl db
    · refine ((readOnly_getCNSIRecord _).mapError _).keeps_bind kept_refl fun record _ => ?_
      split
      · exact (Prog.readOnly_ret _).keeps_bind kept_refl fun _ _ => Prog.keeps_ret kept_refl _
      · exact Prog.keeps_bind kept_trans (Prog.keeps_attempt.2
          (keeps_doLoginToCNSI hu hctx plugins ent _ false (by simp))) fun _ _ _ =>
            Prog.keeps_ret kept_refl _

theorem keeps_logoutOfCNSI (ent : Entropy) (db : Database) :
    (P.logoutOfCNSI ent ctx).Keeps D.exec (Kept P u (ReportsAdmin D P u db)) db := by
  simp only [PortalProxy.logoutOfCNSI, hctx, mapError_ok, Prog.ret_ok_bind]
  split_ifs
  · exact kept_refl db
  · refine ((readOnly_getCNSIRecord _).mapError _).keeps_bind kept_refl fun record _ => ?_
    refine (readOnly_disconnectUserGUID _ u).keeps_bind kept_refl fun userGUID huser => ?_
    have howner := of_disconnectUserGUID huser
    split_ifs
    · exact Prog.keeps_mapError.2 (keeps_setCNSITokenRecord hu howner _ _ db)
    · exact Prog.keeps_mapError.2 (keeps_unsetCNSITokenRecord hu howner _ db)

theorem keeps_cfLoginHook (plugins : Plugins) (ent : LoginEntropy) (db : Database) :
    (P.cfLoginHook plugins ent ctx).Keeps D.exec (Kept P u admin) db := by
  simp only [PortalProxy.cfLoginHook, hctx, mapError_ok, Prog.ret_ok_bind]
  split
  · exact kept_refl db
  · refine Prog.keeps_bind kept_trans (keeps_autoRegister plugins _ _ db) fun record db₁ _ => ?_
    refine (readOnly_getCNSITokenRecordWithDisconnected _ u).keeps_bind kept_refl fun found _ => ?_
    split_ifs
    · exact kept_refl db₁
    · exact keeps_doLoginToCNSIwithConsoleUAAtoken hu hctx plugins _ record db₁
    · exact Prog.keeps_bind kept_trans
        (keeps_doLoginToCNSI hu hctx plugins _ _ false (by simp)) fun _ _ _ =>
          Prog.keeps_ret kept_refl _

omit hctx in
/-- A login to the console as `u`, with its hook. -/
theorem keeps_doLoginToUAA (plugins : Plugins) {uaa : UAA} (huaa : IssuesFor P u uaa)
    (ent : LoginEntropy) (db : Database) :
    (P.doLoginToUAA plugins uaa ent ctx).Keeps D.exec (Kept P u admin) db := by
  refine (Prog.readOnly_ret _).keeps_bind kept_refl fun answer hanswer => ?_
  obtain ⟨uaaRes, i⟩ := answer
  obtain ⟨⟨req, hreq⟩, hinfo⟩ := of_login_ok (mapError_eq_ok.1 (congrArg Prod.fst hanswer))
  have htok := huaa req uaaRes hreq
  have hi := htok i hinfo
  refine (Prog.readOnly_ret _).keeps_bind kept_refl fun _ _ => ?_
  refine (Prog.readOnly_ret _).keeps_bind kept_refl fun _ _ => ?_
  refine Prog.keeps_bind kept_trans (keeps_saveAuthToken hu hi htok _ db) fun _ db₁ _ => ?_
  refine Prog.keeps_bind kept_trans ?_ fun _ _ _ => Prog.keeps_ret kept_refl _
  unfold PortalProxy.runLoginHook
  split_ifs
  · refine Prog.keeps_bind kept_trans (Prog.keeps_attempt.2
      (keeps_cfLoginHook hu (by rw [hi]) plugins ent db₁)) fun result _ _ => ?_
    split <;> exact Prog.keeps_ret kept_refl _
  · exact kept_refl db₁

omit hctx in
theorem keeps_refreshUAAToken {uaa : UAA} (huaa : IssuesFor P u uaa) (ent : Entropy)
    (db : Database) : (P.refreshUAAToken uaa ent u).Keeps D.exec (Kept P u admin) db := by
  refine ((readOnly_findAuthToken u).mapError _).keeps_bind kept_refl fun t _ => ?_
  refine (Prog.readOnly_ret _).keeps_bind kept_refl fun uaaRes hres => ?_
  refine (Prog.readOnly_ret _).keeps_bind kept_refl fun i _ => ?_
  exact Prog.keeps_mapError.2 (keeps_saveAuthToken hu rfl
    (huaa _ _ (mapError_eq_ok.1 (congrArg Prod.fst hres))) _ db)

theorem keeps_verifySession {uaa : UAA} (huaa : IssuesFor P u uaa) (ent : Entropy) (now : ℤ)
    (db : Database) : (P.verifySession uaa ent now ctx).Keeps D.exec (Kept P u admin) db := by
  refine (Prog.readOnly_ret _).keeps_bind kept_refl fun exp _ => ?_
  simp only [hctx, mapError_ok, Prog.ret_ok_bind]
  refine ((readOnly_findAuthToken u).mapError _).keeps_bind kept_refl fun t _ => ?_
  split
  · refine (Prog.readOnly_ret _).keeps_bind kept_refl fun uaaRes hres => ?_
    have htok := huaa _ _ (mapError_eq_ok.1 (congrArg Prod.fst hres))
    refine (Prog.readOnly_ret _).keeps_bind kept_refl fun i hi => ?_
    refine Prog.keeps_bind kept_trans (keeps_saveAuthToken hu
      (htok i (congrArg Prod.fst hi)) htok _ db) fun _ db₁ _ => ?_
    exact (readOnly_ret_bind _ fun _ => readOnly_ret_bind _ fun _ =>
      Prog.readOnly_ret _).keeps kept_refl
  · exact (readOnly_ret_bind _ fun _ => readOnly_ret_bind _ fun _ =>
      Prog.readOnly_ret _).keeps kept_refl

omit hctx in
/-- A refresh of an endpoint token. When it is linked, the token of the console is
refreshed, and the UAA answers with one that names `u`. -/
theorem keeps_refreshOAuthToken {uaa : UAA} {c : String}
    (huaa : ∀ t, RefreshFinds D P db c u t →
      (∃ r ∈ db.tokens, TokenRow.isAuth u r ∧ TokenRow.isToken u t.tokenGUID r) →
      IssuesFor P u uaa) (ent : Entropy) (skip : Bool) (client ep : String) (secret : Bytes) :
    (P.refreshOAuthToken uaa ent skip c u client secret ep).Keeps D.exec (Kept P u admin) db := by
  refine (readOnly_getCNSITokenRecordWithDisconnected c u).keeps_bind kept_refl
    fun found hfound => ?_
  split
  · exact Prog.keeps_ret kept_refl _
  · rename_i t
    refine (Prog.readOnly_ret _).keeps_bind kept_refl fun uaaRes hres => ?_
    refine (Prog.readOnly_ret _).keeps_bind kept_refl fun i _ => ?_
    refine Prog.keeps_bind kept_trans (Prog.keeps_mapError.2 (keeps_updateTokenAuth hu ?_))
      fun _ _ _ => Prog.keeps_ret kept_refl _
    intro hconsole
    exact huaa t (refreshFinds_of_run hfound) hconsole _ _
      (mapError_eq_ok.1 (congrArg Prod.fst hres))

omit hctx in
theorem keeps_refreshOidcToken (uaa : UAA) (ent : Entropy) (skip : Bool) (c client ep : String)
    (secret : Bytes) (db : Database) :
    (P.refreshOidcToken uaa ent skip c u client secret ep).Keeps D.exec (Kept P u admin) db := by
  refine (readOnly_getCNSITokenRecordWithDisconnected c u).keeps_bind kept_refl fun found _ => ?_
  split
  · exact Prog.keeps_ret kept_refl _
  · refine (Prog.readOnly_ret _).keeps_bind kept_refl fun uaaRes _ => ?_
    refine (Prog.readOnly_ret _).keeps_bind kept_refl fun i _ => ?_
    exact Prog.keeps_bind kept_trans (Prog.keeps_mapError.2
      (keeps_setCNSITokenRecord hu (Or.inl rfl) _ _ db)) fun _ _ _ => Prog.keeps_ret kept_refl _

end Handlers

/-! ## Sequences of calls -/

/-- A call, with what it takes from the request, the UAA and the random readers. -/
inductive SessionOp
  | doLoginToUAA (plugins : Plugins) (uaa : UAA) (ent : LoginEntropy) (ctx : Context)
  | loginToCNSI (plugins : Plugins) (ent : Entropy) (ctx : Context)
  | ssoLoginToCNSI (plugins : Plugins) (ent : Entropy) (ctx : Context)
  | logoutOfCNSI (ent : Entropy) (ctx : Context)
  | refreshOAuthToken (uaa : UAA) (ent : Entropy) (skipSSLValidation : Bool) (cnsiGUID : String)
      (client : String) (clientSecret : Bytes) (tokenEndpoint : String)
  | refreshOidcToken (uaa : UAA) (ent : Entropy) (skipSSLValidation : Bool) (cnsiGUID : String)
      (client : String) (clientSecret : Bytes) (tokenEndpoint : String)
  | refreshUAAToken (uaa : UAA) (ent : Entropy)
  | verifySession (uaa : UAA) (ent : Entropy) (now : ℤ) (ctx : Context)

namespace SessionOp

variable (D : Dbms) (P : PortalProxy) (u : String)

/-- The tables after a call in the session of `u`. -/
def serve (db : Database) : SessionOp → Database
  | doLoginToUAA plugins uaa ent ctx => (D.run (P.doLoginToUAA plugins uaa ent ctx) db).2
  | loginToCNSI plugins ent ctx => (D.run (P.loginToCNSI plugins ent ctx) db).2
  | ssoLoginToCNSI plugins ent ctx => (D.run (P.ssoLoginToCNSI plugins ent ctx) db).2
  | logoutOfCNSI ent ctx => (D.run (P.logoutOfCNSI ent ctx) db).2
  | refreshOAuthToken uaa ent skip c client secret ep =>
    (D.run (P.refreshOAuthToken uaa ent skip c u client secret ep) db).2
  | refreshOidcToken uaa ent skip c client secret ep =>
    (D.run (P.refreshOidcToken uaa ent skip c u client secret ep) db).2
  | refreshUAAToken uaa ent => (D.run (P.refreshUAAToken uaa ent u) db).2
  | verifySession uaa ent now ctx => (D.run (P.verifySession uaa ent now ctx) db).2

/-- The call is made in the session of `u`, and the UAA of the console issues tokens that
name `u`. The UAA of an endpoint does so for the refresh of a linked token, which is the
user's console token. -/
def InSession (db : Database) : SessionOp → Prop
  | doLoginToUAA _ uaa _ _ => IssuesFor P u uaa
  | loginToCNSI _ _ ctx | ssoLoginToCNSI _ _ ctx | logoutOfCNSI _ ctx => ctx.userID = .ok u
  | refreshOAuthToken uaa _ _ c _ _ _ => ∀ t, RefreshFinds D P db c u t →
      (∃ r ∈ db.tokens, TokenRow.isAuth u r ∧ TokenRow.isToken u t.tokenGUID r) →
      IssuesFor P u uaa
  | refreshOidcToken .. => True
  | refreshUAAToken uaa _ => IssuesFor P u uaa
  | verifySession uaa _ _ ctx => ctx.userID = .ok u ∧ IssuesFor P u uaa

/-- The tables after a sequence of calls. -/
def serveAll : List SessionOp → Database → Database
  | [], db => db
  | op :: ops, db => serveAll ops (op.serve D P u db)

/-- Every call of the sequence is made in the session of `u`. -/
def AllInSession : List SessionOp → Database → Prop
  | [], _ => True
  | op :: ops, db => op.InSession D P u db ∧ AllInSession ops (op.serve D P u db)

/-- `GetUAAUser` does not report `u` as an administrator before any call. -/
def NeverAdmin : List SessionOp → Database → Prop
  | [], _ => True
  | op :: ops, db => ¬ReportsAdmin D P u db ∧ NeverAdmin ops (op.serve D P u db)

end SessionOp

/-- One call keeps the rows of others, and the shared rows unless `u` is an administrator. -/
theorem kept_serve (hu : u ≠ systemSharedUserGuid) (op : SessionOp) (db : Database)
    (hop : op.InSession D P u db) : Kept P u (ReportsAdmin D P u db) db (op.serve D P u db) := by
  cases op with
  | doLoginToUAA plugins uaa ent ctx => exact keeps_doLoginToUAA hu plugins hop ent db
  | loginToCNSI plugins ent ctx => exact keeps_loginToCNSI hu hop plugins ent db
  | ssoLoginToCNSI plugins ent ctx => exact keeps_ssoLoginToCNSI hu hop plugins ent db
  | logoutOfCNSI ent ctx => exact keeps_logoutOfCNSI hu hop ent db
  | refreshOAuthToken uaa ent skip c client secret ep =>
    exact keeps_refreshOAuthToken hu hop ent skip client ep secret
  | refreshOidcToken uaa ent skip c client secret ep =>
    exact keeps_refreshOidcToken hu uaa ent skip c client ep secret db
  | refreshUAAToken uaa ent => exact keeps_refreshUAAToken hu hop ent db
  | verifySession uaa ent now ctx => exact keeps_verifySession hu hop.1 hop.2 ent now db

/-- In every sequence of calls made in the session of `u`, the rows of all others but the
system-shared user stay as they are, and so do the shared rows as long as `GetUAAUser` does
not report `u` as an administrator. -/
theorem session_frame (D : Dbms) (P : PortalProxy) (u : String) (db : Database)
    (ops : List SessionOp) (hu : u ≠ systemSharedUserGuid) (hnames : StoredTokensName P u db)
    (hops : SessionOp.AllInSession D P u ops db) :
    rowsOfOthers u (SessionOp.serveAll D P u ops db) = rowsOfOthers u db ∧
      (SessionOp.NeverAdmin D P u ops db →
        rowsOf systemSharedUserGuid (SessionOp.serveAll D P u ops db) =
          rowsOf systemSharedUserGuid db) := by
  induction ops generalizing db with
  | nil => exact ⟨rfl, fun _ => rfl⟩
  | cons op ops ih =>
    obtain ⟨hnames', hframe⟩ := kept_serve hu op db hops.1 hnames
    obtain ⟨hothers, hshared⟩ := ih (op.serve D P u db) hnames' hops.2
    exact ⟨hothers.trans hframe.others, fun hadmin =>
      (hshared hadmin.2).trans (hframe.shared hadmin.1)⟩

/-! ## A session without the rights of an administrator -/

/-- The console token of "user". -/
def consoleRow : TokenRow :=
  { sampleRow "console" none "user" "uaa" none with
    authToken := sampleIV.val ++ Cfb.encrypt (sampleAes sampleKey) sampleIV.val sampleToken }

/-- The console token of "user", and tokens of "other" and of the system-shared user for the
endpoint "cf". -/
def sessionTable : Database :=
  ⟨[consoleRow, sampleRow "other" (some "cf") "other" "cnsi" none,
      sampleRow "shared" (some "cf") systemSharedUserGuid "cnsi" none],
    [⟨"cf", "cf", "cf", "https://cf", "https://uaa", "https://uaa", "", false, "cf", none, false⟩]⟩

/-- The session has expired and is refreshed, then "user" tries to disconnect "cf". -/
def sessionOps : List SessionOp :=
  [.verifySession (fun _ => .ok sampleAnswer) (sampleEntropy "new") 1 sampleContext,
    .logoutOfCNSI (sampleEntropy "new") sampleContext]

/-- A refresh of the session, and a disconnect. -/
theorem session_frame_refreshThenLogout :
    rowsOfOthers "user" (SessionOp.serveAll samplePgsql samplePortalProxy "user" sessionOps
        sessionTable) = rowsOfOthers "user" sessionTable ∧
      rowsOf systemSharedUserGuid (SessionOp.serveAll samplePgsql samplePortalProxy "user"
        sessionOps sessionTable) = rowsOf systemSharedUserGuid sessionTable := by
  have hsample : NamesUser samplePortalProxy "user" sampleToken := by
    intro i hi
    cases hi
    rfl
  have hnames : StoredTokensName samplePortalProxy "user" sessionTable := by
    intro r hr hauth tok htok
    obtain rfl | rfl | rfl : r = consoleRow ∨ _ ∨ _ := by simpa [sessionTable] using hr
    · cases htok
      exact hsample
    · cases hauth
    · cases hauth
  obtain ⟨hothers, hshared⟩ := session_frame samplePgsql samplePortalProxy "user" sessionTable
    sessionOps (by decide) hnames
    ⟨⟨rfl, fun req res h => Except.ok.inj h ▸ hsample⟩, rfl, trivial⟩
  refine ⟨hothers, hshared ⟨?_, ?_, trivial⟩⟩
  · rintro ⟨user, h, hadmin⟩
    cases h
    cases hadmin
  · rintro ⟨user, h, hadmin⟩
    cases h
    cases hadmin

end Stratos
