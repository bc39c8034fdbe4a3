import Stratos.Jetstream.Auth
import Stratos.Jetstream.SaveInterleaving

/-!
# Endpoints and their tokens

Any number of registrations, connections and unregistrations of endpoints run at once, their
statements interleaved in any order, and any statement may fail. An unregistration deletes
the endpoint and then its tokens, without a transaction, and reports success whatever the
replies are; a connection looks the endpoint up and inserts a token later.

`not_tokensHaveEndpoint_race` is the run in which an unregistration goes between the lookup
and the insert of a connection, and `not_unregisterReports_failedDelete` the one in which a
`DELETE` fails. `tokensHaveEndpoint_of_run` says that these are the only ways: when both
statements of every unregistration succeed, and a token is inserted only while its endpoint
is registered or about to lose its tokens, no token outlives its endpoint. The invariant is
`Guarded`: the endpoint of every token is registered, or a thread is about to delete the
tokens of the endpoint.
-/

namespace Stratos

open Lib

/-! ## Requests -/

/-- A call of `DoRegisterEndpoint`, `DoLoginToCNSI` or `unregisterCluster`. -/
inductive EndpointRequest
  | register (iv : Except GoError IV) (cnsiName apiEndpoint : String) (skipSSLValidation : Bool)
      (clientId : String) (clientSecret : Bytes) (ssoAllowed : Bool) (fetchInfo : InfoFunc)
  | connect (plugins : Plugins) (ent : Entropy) (c : Context) (cnsiGUID : String)
      (systemSharedToken : Bool)
  | unregister (cnsiGUID : String)

/-- The program of a call. -/
def EndpointRequest.body (P : PortalProxy) : EndpointRequest → Db Unit
  | register iv cnsiName apiEndpoint skip clientId clientSecret ssoAllowed fetchInfo => do
    let _ ← P.doRegisterEndpoint iv cnsiName apiEndpoint skip clientId clientSecret ssoAllowed
      fetchInfo
  | connect plugins ent c cnsiGUID systemSharedToken => do
    let _ ← P.doLoginToCNSI plugins ent c cnsiGUID systemSharedToken
  | unregister cnsiGUID => PortalProxy.unregisterCluster cnsiGUID

/-- A call in progress. -/
abbrev EndpointThread := Thread Stmt Stmt.Reply GoError Unit EndpointRequest

/-- The store and the calls in progress. -/
abbrev EndpointPool := Pool Stmt Stmt.Reply GoError Unit EndpointRequest Database

/-- A step of calls whose statements all meet the condition `ok`. -/
abbrev EndpointStep (D : Dbms) (P : PortalProxy)
    (ok : Database → List EndpointThread → EndpointThread → (s : Stmt) → s.Reply → Prop) :
    EndpointPool → EndpointPool → Prop :=
  Pool.Step (Executes D) (EndpointRequest.body P) ok

/-- A run of calls whose statements all meet the condition `ok`. -/
abbrev EndpointRun (D : Dbms) (P : PortalProxy)
    (ok : Database → List EndpointThread → EndpointThread → (s : Stmt) → s.Reply → Prop) :=
  Pool.Run (Executes D) (EndpointRequest.body P) ok

/-! ## Tokens and endpoints -/

/-- The endpoint is in the `cnsis` table. -/
def Registered (c : String) (db : Database) : Prop := ∃ e ∈ db.cnsis, e.guid = c

/-- Every `cnsi` token refers to an endpoint in the `cnsis` table. -/
def TokensHaveEndpoint (db : Database) : Prop :=
  ∀ r ∈ db.tokens, r.tokenType = "cnsi" → ∃ c, r.cnsiGuid = some c ∧ Registered c db

/-- Both statements of an unregistration of the endpoint succeeded. -/
def RemovedBoth (c : String) (log : List ((s : Stmt) × s.Reply)) : Prop :=
  (∃ n : ℕ, ⟨.deleteCNSI c, .ok n⟩ ∈ log) ∧ ∃ n : ℕ, ⟨.deleteCNSITokens c, .ok n⟩ ∈ log

/-- Every unregistration that has ended removed the endpoint and its tokens or reports an
error. -/
def UnregisterReports (a : EndpointPool) : Prop :=
  ∀ t ∈ a.threads, ∀ c r, t.request = .unregister c → t.prog = .ret r →
    RemovedBoth c t.log ∨ ∃ e, r = .error e

/-- One of the threads deletes the tokens of the endpoint by its next statement. -/
def Pending (c : String) (threads : List EndpointThread) : Prop :=
  ∃ t ∈ threads, ∃ k, t.prog = .exec (.deleteCNSITokens c) k

/-- Both statements of an unregistration succeed, and a token is inserted only while its
endpoint is registered or about to lose its tokens. -/
def EndpointIsCurrent (db : Database) (others : List EndpointThread) (_ : EndpointThread) :
    (s : Stmt) → s.Reply → Prop
  | .deleteCNSI _, reply | .deleteCNSITokens _, reply => ∃ n, reply = .ok n
  | .insertCNSIToken _ c .., .ok _ => Registered c db ∨ Pending c others
  | _, _ => True

/-! ## The statements of the calls -/

/-- The statements of a registration or of a connection. -/
inductive RegistersOrConnects : Stmt → Prop
  | findEndpoint (a : String) : RegistersOrConnects (.findCNSIByAPIEndpoint a)
  | saveCnsi (row : CnsiRow) : RegistersOrConnects (.saveCNSI row)
  | findCnsi (g : String) : RegistersOrConnects (.findCNSI g)
  | findAuth (u : String) : RegistersOrConnects (.findAuthToken u)
  | save (c u : String) {s : Stmt} (hs : SavesFor (.cnsi c u) s) : RegistersOrConnects s

theorem Saving.all {o : Owner} {p : Db Unit} (h : Saving o p) : p.All (SavesFor o) := by
  induction h with
  | done r => exact Prog.all_ret r
  | step hs _ _ ih => exact ⟨hs, ih⟩

section Programs

variable (P : PortalProxy)

theorem all_getCNSIRecord (c : String) : (P.getCNSIRecord c).All RegistersOrConnects :=
  .bind (Prog.all_stmt.2 (.findCnsi c)) fun _ =>
    .bind (Prog.all_ret _) fun _ => Prog.all_ret _

theorem all_cnsiRecordExists (a : String) : (P.cnsiRecordExists a).All RegistersOrConnects := by
  refine .bind (.attempt ?_) fun _ => Prog.all_ret _
  exact .bind (Prog.all_stmt.2 (.findEndpoint a)) fun _ =>
    .bind (Prog.all_ret _) fun _ => Prog.all_ret _

theorem all_setCNSIRecord (iv : Except GoError IV) (guid : String) (record : CNSIRecord) :
    (P.setCNSIRecord iv guid record).All RegistersOrConnects := by
  refine .mapError (.bind (Prog.all_ret _) fun secret => ?_) _
  refine .bind ⟨.saveCnsi _, fun reply => ?_⟩ fun _ => Prog.all_ret _
  cases reply <;> exact Prog.all_ret _

theorem all_doRegisterEndpoint (iv : Except GoError IV) (cnsiName apiEndpoint : String)
    (skip : Bool) (clientId : String) (clientSecret : Bytes) (ssoAllowed : Bool)
    (fetchInfo : InfoFunc) :
    (P.doRegisterEndpoint iv cnsiName apiEndpoint skip clientId clientSecret ssoAllowed
      fetchInfo).All RegistersOrConnects := by
  unfold PortalProxy.doRegisterEndpoint
  split_ifs
  · exact Prog.all_fail _
  · refine .bind (Prog.all_ret _) fun url => .bind (all_cnsiRecordExists P _) fun found => ?_
    split
    · exact Prog.all_fail _
    · exact .bind (Prog.all_ret _) fun info =>
        .bind (all_setCNSIRecord P iv _ _) fun _ => Prog.all_ret _

theorem all_getUAAUser (u : String) : (P.getUAAUser u).All RegistersOrConnects := by
  refine .bind (.mapError ?_ _) fun tr => .bind (Prog.all_ret _) fun _ => Prog.all_ret _
  unfold PortalProxy.getUAATokenRecord findAuthToken
  split_ifs
  · exact Prog.all_fail _
  · exact .bind (Prog.all_stmt.2 (.findAuth u)) fun _ => .bind (Prog.all_ret _) fun _ =>
      .bind (Prog.all_ret _) fun _ => Prog.all_ret _

theorem all_connectUserID (c : Context) (shared : Bool) :
    (P.connectUserID c shared).All RegistersOrConnects := by
  refine .bind (Prog.all_ret _) fun u => ?_
  split
  · refine .bind (.mapError (all_getUAAUser P u) _) fun user => ?_
    split
    · exact Prog.all_ret _
    · exact Prog.all_fail _
  · exact Prog.all_ret _

theorem all_setCNSITokenRecord (ent : Entropy) (c u : String) (tr : TokenRecord) :
    (P.setCNSITokenRecord ent c u tr).All RegistersOrConnects :=
  .mapError ((saving_saveCNSIToken P.aes P.encryptionKey ent c u tr).1.all.mono
    fun _ => .save c u) _

theorem all_getCNSIUserFromToken (c : String) (tr : TokenRecord) :
    (P.getCNSIUserFromToken c tr).All RegistersOrConnects := by
  unfold PortalProxy.getCNSIUserFromToken
  split_ifs
  · exact Prog.all_ret _
  · unfold PortalProxy.getCNSIUserFromOAuthToken
    split
    · exact Prog.all_ret _
    · refine .bind (.attempt (all_getCNSIRecord P c)) fun found => ?_
      split
      · exact Prog.all_ret _
      · split <;> exact Prog.all_ret _

theorem all_doLoginToCNSI (plugins : Plugins) (ent : Entropy) (ctx : Context) (c : String)
    (shared : Bool) : (P.doLoginToCNSI plugins ent ctx c shared).All RegistersOrConnects := by
  refine .bind (.mapError (all_getCNSIRecord P c) _) fun record =>
    .bind (all_connectUserID P ctx shared) fun u => ?_
  split
  · exact Prog.all_fail _
  · refine .bind (Prog.all_ret _) fun tr => ?_
    exact .bind (.mapError (all_setCNSITokenRecord P ent c u _) _) fun _ =>
      .bind (all_getCNSIUserFromToken P c _) fun _ => Prog.all_ret _

/-- An unregistration sends both statements, whatever the replies are. -/
theorem unregisterCluster_eq {c : String} (hc : c ≠ "") :
    PortalProxy.unregisterCluster c =
      .exec (.deleteCNSI c) fun _ => .exec (.deleteCNSITokens c) fun _ => .ret (.ok ()) := by
  unfold PortalProxy.unregisterCluster PortalProxy.unsetCNSITokenRecords deleteCNSITokens
  rw [if_neg hc, if_neg hc]
  refine congrArg (Prog.exec _) (funext fun reply => ?_)
  cases reply <;> refine congrArg (Prog.exec _) (funext fun reply' => ?_) <;>
    cases reply' <;> rfl

end Programs

/-! ## What a statement does to the tables -/

section Statements

variable {D : Dbms} {db db' : Database} {s : Stmt} {reply : s.Reply} {c : String}
  {others : List EndpointThread} {t : EndpointThread}

/-- Every `cnsi` row has the endpoint of a `cnsi` row there was, or one that is registered
or about to lose its tokens. -/
def RowsAccounted (others : List EndpointThread) (db db' : Database) : Prop :=
  ∀ r ∈ db'.tokens, r.tokenType = "cnsi" →
    (∃ r₀ ∈ db.tokens, r₀.tokenType = "cnsi" ∧ r₀.cnsiGuid = r.cnsiGuid) ∨
      ∃ c, r.cnsiGuid = some c ∧ (Registered c db ∨ Pending c others)

theorem rowsAccounted_of_tokens_eq (h : db'.tokens = db.tokens) :
    RowsAccounted others db db' := by
  intro r hr htype
  rw [h] at hr
  exact Or.inl ⟨r, hr, htype, rfl⟩

/-- A statement of a registration or a connection keeps every endpoint, and inserts a token
only as the condition says. -/
theorem registersOrConnects_exec (hs : RegistersOrConnects s)
    (hok : EndpointIsCurrent db others t s (D.exec s db).1) :
    (∀ c, Registered c db → Registered c (D.exec s db).2) ∧
      RowsAccounted others db (D.exec s db).2 := by
  have same : ∀ db' : Database, db'.cnsis = db.cnsis → ∀ c, Registered c db → Registered c db' :=
    fun db' h c hc => by rwa [Registered, h]
  cases hs with
  | findEndpoint a => simpa using rowsAccounted_of_tokens_eq rfl
  | findCnsi g => simpa using rowsAccounted_of_tokens_eq rfl
  | findAuth u => simpa using rowsAccounted_of_tokens_eq rfl
  | saveCnsi row =>
    rw [Dbms.exec_saveCNSI]
    split_ifs
    · exact ⟨fun _ h => h, rowsAccounted_of_tokens_eq rfl⟩
    · refine ⟨fun c ⟨e, he, hec⟩ => ⟨e, ?_, hec⟩, rowsAccounted_of_tokens_eq rfl⟩
      exact List.mem_append_left _ he
  | save c u hs =>
    cases hs with
    | countCnsi => simpa using rowsAccounted_of_tokens_eq rfl
    | insertCnsi _ _ g a rt e d at' m l =>
      rw [Dbms.exec_insertCNSIToken] at hok ⊢
      cases hb : D.blob rt with
      | none =>
        rw [Dbms.insertToken_none hb]
        exact ⟨fun _ h => h, rowsAccounted_of_tokens_eq rfl⟩
      | some b =>
        rw [Dbms.insertToken_some hb] at hok ⊢
        refine ⟨same _ rfl, fun r hr htype => ?_⟩
        rcases List.mem_append.1 hr with hr | hr
        · exact Or.inl ⟨r, hr, htype, rfl⟩
        · obtain rfl := List.mem_singleton.1 hr
          exact Or.inr ⟨c, rfl, hok⟩
    | updateCnsi _ _ a rt e d m l at' =>
      rw [Dbms.exec_updateCNSIToken]
      unfold Dbms.updateTokens
      cases D.blob rt with
      | none => split_ifs <;> exact ⟨fun _ h => h, rowsAccounted_of_tokens_eq rfl⟩
      | some b =>
        refine ⟨same _ rfl, fun r hr htype => Or.inl ?_⟩
        obtain ⟨r₀, hr₀, rfl⟩ := List.mem_map.1 hr
        refine ⟨r₀, hr₀, ?_, ?_⟩
        · split_ifs at htype <;> exact htype
        · split_ifs <;> rfl

theorem Executes.registersOrConnects (hE : Executes D db s reply db')
    (hs : RegistersOrConnects s) (hok : EndpointIsCurrent db others t s reply) :
    (∀ c, Registered c db → Registered c db') ∧ RowsAccounted others db db' := by
  rcases hE with h | ⟨e, -, rfl⟩
  · obtain ⟨rfl, rfl⟩ := Prod.mk.inj h
    exact registersOrConnects_exec hs hok
  · exact ⟨fun _ h => h, rowsAccounted_of_tokens_eq rfl⟩

/-- Deleting an endpoint keeps the tokens and the other endpoints. -/
theorem Executes.deleteCNSI {reply : Except SqlError ℕ}
    (hE : Executes D db (.deleteCNSI c) reply db') :
    db'.tokens = db.tokens ∧ ∀ c' ≠ c, Registered c' db → Registered c' db' := by
  rcases hE with h | ⟨e, -, rfl⟩
  · rw [Dbms.exec_deleteCNSI] at h
    obtain ⟨-, rfl⟩ := Prod.mk.inj h
    refine ⟨rfl, fun c' hne ⟨e, he, hec⟩ => ⟨e, ?_, hec⟩⟩
    simpa [he, hec] using hne
  · exact ⟨rfl, fun _ _ h => h⟩

/-- When the tokens of an endpoint are deleted, none of them is left, the others are as they
were and so are the endpoints. -/
theorem Executes.deleteCNSITokens {reply : Except SqlError ℕ}
    (hE : Executes D db (.deleteCNSITokens c) reply db') (hok : ∃ n, reply = .ok n) :
    db'.cnsis = db.cnsis ∧ ∀ r ∈ db'.tokens, r ∈ db.tokens ∧
      (r.tokenType = "cnsi" → r.cnsiGuid ≠ some c) := by
  obtain ⟨n, rfl⟩ := hok
  rcases hE with h | ⟨e, he, -⟩
  · rw [Dbms.exec_deleteCNSITokens] at h
    obtain ⟨-, rfl⟩ := Prod.mk.inj h
    refine ⟨rfl, fun r hr => ?_⟩
    obtain ⟨hr, hne⟩ := List.mem_filter.1 hr
    refine ⟨hr, fun htype hc => ?_⟩
    simp [TokenRow.isCnsiOf, htype, hc] at hne
  · cases he

end Statements

/-! ## What a thread sends -/

section Threads

variable {P : PortalProxy} {q : EndpointRequest} {log : List ((s : Stmt) × s.Reply)} {c : String}

/-- The rest of an unregistration : nothing was sent, the endpoint was deleted, or both
statements were sent and it ended without an error. -/
theorem residual_unregister {p : Db Unit} (hc : c ≠ "")
    (h : Residual (PortalProxy.unregisterCluster c) log p) :
    (log = [] ∧ p = PortalProxy.unregisterCluster c) ∨
      (∃ r, log = [⟨.deleteCNSI c, r⟩] ∧
        p = .exec (.deleteCNSITokens c) fun _ => .ret (.ok ())) ∨
      ∃ r r', log = [⟨.deleteCNSITokens c, r'⟩, ⟨.deleteCNSI c, r⟩] ∧ p = .ret (.ok ()) := by
  generalize hp : PortalProxy.unregisterCluster c = p₀ at h
  induction h with
  | start => exact Or.inl ⟨rfl, rfl⟩
  | @step log s k r _ ih =>
    rcases ih with ⟨rfl, h⟩ | ⟨r₀, rfl, h⟩ | ⟨r₀, r₁, rfl, h⟩
    · rw [← hp, unregisterCluster_eq hc] at h
      obtain ⟨rfl, hk⟩ := Prog.exec.inj h
      exact Or.inr (Or.inl ⟨r, rfl, by rw [eq_of_heq hk]⟩)
    · obtain ⟨rfl, hk⟩ := Prog.exec.inj h
      exact Or.inr (Or.inr ⟨r₀, r, rfl, by rw [eq_of_heq hk]⟩)
    · cases h

/-- The next statement of a call, and what follows the `DELETE` of an endpoint. -/
theorem next_stmt {s : Stmt} {k : s.Reply → Db Unit}
    (h : Residual (q.body P) log (.exec s k)) :
    RegistersOrConnects s ∨
      (∃ c, s = .deleteCNSI c ∧ ∀ r, ∃ k', k r = .exec (.deleteCNSITokens c) k') ∨
      ∃ c, s = .deleteCNSITokens c := by
  cases q with
  | register iv name ep skip id secret sso info =>
    exact Or.inl (h.all (.bind (all_doRegisterEndpoint P iv name ep skip id secret sso info)
      fun _ => Prog.all_ret _)).1
  | connect plugins ent ctx c shared =>
    exact Or.inl (h.all (.bind (all_doLoginToCNSI P plugins ent ctx c shared)
      fun _ => Prog.all_ret _)).1
  | unregister c =>
    by_cases hc : c = ""
    · subst hc
      cases h.of_ret
    · rcases residual_unregister hc h with ⟨-, h⟩ | ⟨r, -, h⟩ | ⟨r, r', -, h⟩
      · rw [unregisterCluster_eq hc] at h
        obtain ⟨rfl, hk⟩ := Prog.exec.inj h
        exact Or.inr (Or.inl ⟨c, rfl, fun r => ⟨_, by rw [eq_of_heq hk]⟩⟩)
      · exact Or.inr (Or.inr ⟨c, (Prog.exec.inj h).1⟩)
      · cases h

end Threads

/-! ## Runs -/

section Runs

variable {D : Dbms} {P : PortalProxy}

/-- The endpoint of every token is registered, or a thread is about to delete the tokens of
the endpoint. -/
def Guarded (a : EndpointPool) : Prop :=
  ∀ r ∈ a.store.tokens, r.tokenType = "cnsi" →
    ∃ c, r.cnsiGuid = some c ∧ (Registered c a.store ∨ Pending c a.threads)

theorem Pending.mono {c : String} {ts ts' : List EndpointThread} (h : Pending c ts)
    (hsub : ∀ t ∈ ts, t ∈ ts') : Pending c ts' := by
  obtain ⟨t, ht, hk⟩ := h
  exact ⟨t, hsub t ht, hk⟩

/-- A thread that sends another statement is not the one that deletes the tokens. -/
theorem Pending.others {c : String} {ts₁ ts₂ : List EndpointThread} {t : EndpointThread}
    {s : Stmt} {k : s.Reply → Db Unit} (h : Pending c (ts₁ ++ t :: ts₂))
    (hk : t.prog = .exec s k) (hs : s ≠ .deleteCNSITokens c) : Pending c (ts₁ ++ ts₂) := by
  obtain ⟨t', ht', k', hk'⟩ := h
  rcases List.mem_append.1 ht' with h | h
  · exact ⟨t', by simp [h], k', hk'⟩
  · rcases List.mem_cons.1 h with rfl | h
    · rw [hk] at hk'
      exact absurd (Prog.exec.inj hk').1 hs
    · exact ⟨t', by simp [h], k', hk'⟩

/-- No statement that meets the condition takes the invariant away. -/
theorem Guarded.step {a b : EndpointPool} (ha : Guarded a)
    (htr : Pool.Traced (EndpointRequest.body P) a)
    (hstep : EndpointStep D P EndpointIsCurrent a b) : Guarded b := by
  cases hstep with
  | start m ts q =>
    intro r hr htype
    obtain ⟨c, hc, h⟩ := ha r hr htype
    exact ⟨c, hc, h.imp_right fun h => h.mono fun t ht => List.mem_append_left _ ht⟩
  | @stmt m m' ts₁ ts₂ t s k reply hk hE hok =>
    have ht := htr t (by simp)
    rw [hk] at ht
    -- The threads that do not move are still there afterwards.
    have keep : ∀ c, Pending c (ts₁ ++ ts₂) →
        Pending c (ts₁ ++ t.advance s reply (k reply) :: ts₂) := fun c h =>
      h.mono fun t' ht' => by
        rcases List.mem_append.1 ht' with h | h
        · simp [h]
        · simp [h]
    intro r hr htype
    rcases next_stmt ht with hs | ⟨c, rfl, hnext⟩ | ⟨c, rfl⟩
    · obtain ⟨hreg, hrows⟩ := hE.registersOrConnects hs hok
      have hne : ∀ c, s ≠ .deleteCNSITokens c := by
        rintro c rfl
        cases hs with
        | save c' u hs => cases hs
      rcases hrows r hr htype with ⟨r₀, hr₀, htype₀, hc₀⟩ | ⟨c, hc, h⟩
      · obtain ⟨c, hc, h⟩ := ha r₀ hr₀ htype₀
        exact ⟨c, hc₀ ▸ hc, h.imp (hreg c) fun h => keep c (h.others hk (hne c))⟩
      · exact ⟨c, hc, h.imp (hreg c) (keep c)⟩
    · -- The endpoint goes, and this thread is now about to delete its tokens.
      obtain ⟨htok, hreg⟩ := hE.deleteCNSI
      rw [show (Pool.mk m' _).store.tokens = m.tokens from htok] at hr
      obtain ⟨c', hc', h⟩ := ha r hr htype
      refine ⟨c', hc', ?_⟩
      by_cases hcc : c' = c
      · subst hcc
        exact Or.inr ⟨t.advance _ reply (k reply), by simp, hnext reply⟩
      · exact h.imp (hreg c' hcc) fun h => keep c' (h.others hk Stmt.noConfusion)
    · obtain ⟨hcnsis, htok⟩ := hE.deleteCNSITokens hok
      obtain ⟨hr₀, hne⟩ := htok r hr
      obtain ⟨c', hc', h⟩ := ha r hr₀ htype
      have hcc : c' ≠ c := fun h => hne htype (h ▸ hc')
      refine ⟨c', hc', h.imp (fun h => ?_) fun h => ?_⟩
      · rwa [Registered, hcnsis]
      · exact keep c' (h.others hk fun h => hcc (Stmt.deleteCNSITokens.inj h).symm)

theorem guarded_of_run {db : Database} (hdb : TokensHaveEndpoint db) {a : EndpointPool}
    (hrun : EndpointRun D P EndpointIsCurrent (Pool.init db) a) :
    Guarded a ∧ Pool.Traced (EndpointRequest.body P) a := by
  refine hrun.inv (I := fun a => Guarded a ∧ Pool.Traced (EndpointRequest.body P) a) ⟨?_, ?_⟩
    fun _ _ h hstep => ⟨h.1.step h.2 hstep, hstep.traced h.2⟩
  · intro r hr htype
    obtain ⟨c, hc, h⟩ := hdb r hr htype
    exact ⟨c, hc, Or.inl h⟩
  · exact fun _ ht => absurd ht List.not_mem_nil

/-- When no call is in progress, nobody is about to delete tokens. -/
theorem Guarded.quiet {a : EndpointPool} (ha : Guarded a) (hq : a.Quiet) :
    TokensHaveEndpoint a.store := by
  intro r hr htype
  obtain ⟨c, hc, h | ⟨t, ht, k, hk⟩⟩ := ha r hr htype
  · exact ⟨c, hc, h⟩
  · obtain ⟨res, hres⟩ := hq t ht
    rw [hk] at hres
    cases hres

/-- An unregistration whose statements all succeeded removed the endpoint and its tokens. -/
theorem unregisterReports_of_run {db : Database} {a : EndpointPool}
    (hrun : EndpointRun D P EndpointIsCurrent (Pool.init db) a) : UnregisterReports a := by
  intro t ht c r hreq hret
  have htr := hrun.residual t ht
  rw [hreq, hret] at htr
  let φ : (s : Stmt) → s.Reply → Prop
    | .deleteCNSI _, reply | .deleteCNSITokens _, reply => ∃ n, reply = .ok n
    | _, _ => True
  have hlog : ∀ e ∈ t.log, φ e.1 e.2 := hrun.logged (fun m ts t s r hok => by
    cases s <;> first | exact hok | trivial) t ht
  by_cases hc : c = ""
  · subst hc
    exact Or.inr ⟨_, Prog.ret.inj htr.of_ret⟩
  · rcases residual_unregister hc htr with ⟨-, h⟩ | ⟨r, -, h⟩ | ⟨r₀, r₁, hl, -⟩
    · rw [unregisterCluster_eq hc] at h
      cases h
    · cases h
    · obtain ⟨n₁, hn₁⟩ : φ (.deleteCNSITokens c) r₁ := hlog ⟨_, r₁⟩ (by simp [hl])
      obtain ⟨n₀, hn₀⟩ : φ (.deleteCNSI c) r₀ := hlog ⟨_, r₀⟩ (by simp [hl])
      subst hn₁ hn₀
      exact Or.inl ⟨⟨n₀, by simp [hl]⟩, n₁, by simp [hl]⟩

/-- In every run whose statements meet `EndpointIsCurrent`, every token refers to a
registered endpoint whenever no call is in progress, and every unregistration that has ended
removed the endpoint and its tokens or reports an error. -/
theorem tokensHaveEndpoint_of_run (D : Dbms) (P : PortalProxy) {db : Database}
    (hdb : TokensHaveEndpoint db) {a : EndpointPool}
    (hrun : EndpointRun D P EndpointIsCurrent (Pool.init db) a) :
    (a.Quiet → TokensHaveEndpoint a.store) ∧ UnregisterReports a :=
  ⟨(guarded_of_run hdb hrun).1.quiet, unregisterReports_of_run hrun⟩

end Runs

/-! ## Schedules -/

section Schedules

/-- A plugin that connects to a "cf" endpoint with a basic token. -/
def basicPlugin : EndpointPlugin where
  type := "cf"
  info _ _ := .ok ⟨"cf", "https://uaa", "https://uaa", ""⟩
  connect _ _ _ := .ok ({ sampleLogin with authType := authTypeHttpBasic }, false)

/-- The row of an endpoint of the type "cf". -/
def endpointRow (guid : String) : CnsiRow :=
  ⟨guid, guid, "cf", "https://" ++ guid, "https://uaa", "https://uaa", "", false, "cf", none, false⟩

/-- A connection of "user" to the endpoint. -/
def connectTo (c : String) : EndpointRequest :=
  .connect [.ok basicPlugin] (sampleEntropy "token") sampleContext c false

/-- The pool after a schedule of the sample portal proxy, from the tables `db`. -/
def playSample (sched : List (Pool.Turn EndpointRequest)) (db : Database) : EndpointPool :=
  (Pool.init db).play samplePgsql.exec (fun _ => .error (.failed "connection reset"))
    (EndpointRequest.body samplePortalProxy) sched

theorem run_playSample {ok : Database → List EndpointThread → EndpointThread → (s : Stmt) →
    s.Reply → Prop} {sched : List (Pool.Turn EndpointRequest)} {db : Database}
    (hok : Pool.PlayMeets samplePgsql.exec (fun _ => .error (.failed "connection reset"))
      (EndpointRequest.body samplePortalProxy) ok sched (Pool.init db)) :
    EndpointRun samplePgsql samplePortalProxy ok (Pool.init db) (playSample sched db) :=
  Pool.run_play (E := Executes samplePgsql) _ _ (fun _ _ => Or.inl rfl)
    (fun _ _ => Or.inr ⟨_, rfl, rfl⟩) hok

/-- The connection looks the endpoint up, the unregistration runs, the connection counts and
inserts. -/
def race : List (Pool.Turn EndpointRequest) :=
  [.start (connectTo "cf"), .start (.unregister "cf"), .exec 0, .exec 1, .exec 1, .exec 0, .exec 0]

/-- An unregistration whose second statement fails. -/
def failedDelete : List (Pool.Turn EndpointRequest) :=
  [.start (.unregister "cf"), .exec 0, .refuse 0]

/-- A connection to "cf" and, meanwhile, an unregistration of "old". -/
def connectAndUnregister : List (Pool.Turn EndpointRequest) :=
  [.start (connectTo "cf"), .start (.unregister "old"), .exec 0, .exec 1, .exec 0, .exec 1, .exec 0]

/-- The tables with the endpoints and without tokens. -/
def endpointTable (guids : List String) : Database := ⟨[], guids.map endpointRow⟩

theorem tokensHaveEndpoint_endpointTable (guids : List String) :
    TokensHaveEndpoint (endpointTable guids) := fun _ hr => absurd hr List.not_mem_nil

theorem quiet_of_progs {a : EndpointPool}
    (h : a.threads.map Thread.prog = [.ret (.ok ()), .ret (.ok ())]) : a.Quiet := by
  intro t ht
  have hmem := List.mem_map_of_mem (f := Thread.prog) ht
  rw [h] at hmem
  exact ⟨.ok (), by simpa using hmem⟩

/-- An unregistration between the lookup and the insert of a connection leaves a token
without its endpoint. -/
theorem not_tokensHaveEndpoint_race :
    (playSample race (endpointTable ["cf"])).Quiet ∧
      ¬TokensHaveEndpoint (playSample race (endpointTable ["cf"])).store := by
  refine ⟨quiet_of_progs rfl, fun h => ?_⟩
  have hcnsis : (playSample race (endpointTable ["cf"])).store.cnsis = [] := rfl
  obtain ⟨r, hr⟩ : ∃ r, (playSample race (endpointTable ["cf"])).store.tokens = [r] ∧
      r.tokenType = "cnsi" := ⟨_, rfl, rfl⟩
  obtain ⟨c, -, e, he, -⟩ := h r (by simp [hr.1]) hr.2
  rw [hcnsis] at he
  exact absurd he List.not_mem_nil

/-- An unregistration whose `DELETE` of the tokens fails reports no error. -/
theorem not_unregisterReports_failedDelete :
    ¬UnregisterReports (playSample failedDelete (endpointTable ["cf"])) := by
  intro h
  rcases h _ (List.mem_singleton.2 rfl) "cf" (.ok ()) rfl rfl with ⟨-, n, hn⟩ | ⟨e, he⟩
  · rcases List.mem_cons.1 hn with h | h
    · cases h
    · cases List.mem_singleton.1 h
  · cases he

/-- Neither property holds of every run. -/
theorem not_tokensHaveEndpoint_of_run :
    (¬∀ (D : Dbms) (P : PortalProxy) (db : Database) (a : EndpointPool),
      TokensHaveEndpoint db → EndpointRun D P (fun _ _ _ _ _ => True) (Pool.init db) a →
        a.Quiet → TokensHaveEndpoint a.store) ∧
    ¬∀ (D : Dbms) (P : PortalProxy) (db : Database) (a : EndpointPool),
      TokensHaveEndpoint db → EndpointRun D P (fun _ _ _ _ _ => True) (Pool.init db) a →
        UnregisterReports a := by
  have hdb := tokensHaveEndpoint_endpointTable ["cf"]
  refine ⟨fun h => ?_, fun h => ?_⟩
  · obtain ⟨hq, hnot⟩ := not_tokensHaveEndpoint_race
    exact hnot (h _ _ _ _ hdb (run_playSample (Pool.playMeets_true _ _ race _)) hq)
  · exact not_unregisterReports_failedDelete
      (h _ _ _ _ hdb (run_playSample (Pool.playMeets_true _ _ failedDelete _)))

theorem playMeets_connectAndUnregister :
    Pool.PlayMeets samplePgsql.exec (fun _ => .error (.failed "connection reset"))
      (EndpointRequest.body samplePortalProxy) EndpointIsCurrent connectAndUnregister
      (Pool.init (endpointTable ["cf", "old"])) := by
  refine ⟨trivial, trivial, ?_, ?_, ?_, ?_, ?_, trivial⟩ <;> rintro t s k ⟨⟩ ⟨⟩
  · trivial
  · exact ⟨_, rfl⟩
  · trivial
  · exact ⟨_, rfl⟩
  · exact Or.inl ⟨endpointRow "cf", List.mem_cons_self, rfl⟩

/-- While "old" is unregistered, "cf" is connected : its token refers to it. -/
theorem tokensHaveEndpoint_of_run_connectAndUnregister :
    (playSample connectAndUnregister (endpointTable ["cf", "old"])).store.tokens.map
        TokenRow.cnsiGuid = [some "cf"] ∧
      TokensHaveEndpoint (playSample connectAndUnregister (endpointTable ["cf", "old"])).store ∧
      UnregisterReports (playSample connectAndUnregister (endpointTable ["cf", "old"])) := by
  obtain ⟨htokens, hreports⟩ := tokensHaveEndpoint_of_run samplePgsql samplePortalProxy
    (tokensHaveEndpoint_endpointTable ["cf", "old"])
    (run_playSample playMeets_connectAndUnregister)
  exact ⟨rfl, htokens (quiet_of_progs rfl), hreports⟩

end Schedules

end Stratos
