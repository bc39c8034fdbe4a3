import Stratos.Lib.Interleaving
import Stratos.Jetstream.Tokens

/-!
# Concurrent saves of tokens

Any number of `SaveAuthToken` and `SaveCNSIToken` calls run at once, their statements
interleaved in any order. A save counts the rows of its owner and then inserts or updates,
without a transaction, and reads a count that failed as 0.

`not_oneTokenPerOwner_twoFirstSaves` is the run in which two first saves of one owner both
count 0 and both insert. `oneTokenPerOwner_of_run` says that this is the only way: when
every count that is read as 0 is one, and no other save of the same owner is between its
count and its insert, there is at most one row for each owner in every state of the run.
The invariant is `Counted`: the rows of an owner and the inserts that are about to happen
are together at most one.
-/

namespace Stratos

open Lib

/-! ## Owners -/

/-- The owner of a token : a user, or a user at an endpoint. -/
inductive Owner
  | uaa (userGuid : String)
  | cnsi (cnsiGuid userGuid : String)
  deriving DecidableEq, Repr

namespace Owner

/-- The row is a token of the owner. -/
def owns : Owner → TokenRow → Bool
  | uaa u => TokenRow.isAuth u
  | cnsi c u => TokenRow.isCnsi c u

/-- The rows of the owner. -/
def rows (o : Owner) (db : Database) : ℕ := db.tokens.countP o.owns

end Owner

/-- Every owner has at most one token. -/
def OneTokenPerOwner (db : Database) : Prop := ∀ o : Owner, o.rows db ≤ 1

/-- The owner of the row that a statement inserts. -/
def Stmt.inserts : Stmt → Option Owner
  | .insertAuthToken _ u t _ _ _ => if t = "uaa" then some (.uaa u) else none
  | .insertCNSIToken _ c u t _ _ _ _ _ _ _ => if t = "cnsi" then some (.cnsi c u) else none
  | _ => none

/-! ## Saves -/

/-- A save in progress. -/
abbrev SaveThread := Thread Stmt Stmt.Reply GoError Unit SaveRequest

/-- The owner for whom a program inserts a row by its next statement. -/
def nextInsert : Db Unit → Option Owner
  | .exec s _ => s.inserts
  | .ret _ => none

/-- The database executes a statement, or the statement fails and changes nothing. -/
def Executes (D : Dbms) (db : Database) (s : Stmt) (reply : s.Reply) (db' : Database) : Prop :=
  (reply, db') = D.exec s db ∨ ∃ e, reply = .error e ∧ db' = db

/-- The owner has no token, and no other save of the owner is between its count and its
insert. -/
def NoTokenOf (o : Owner) (db : Database) (others : List SaveThread) : Prop :=
  o.rows db = 0 ∧ ∀ t ∈ others, nextInsert t.prog ≠ some o

/-- A count that is read as 0, as it is or because it failed, is one that no token and no
other save of the owner contradicts. -/
def CountIsCurrent (db : Database) (others : List SaveThread) (_ : SaveThread) :
    (s : Stmt) → s.Reply → Prop
  | .countAuthTokens u, reply => Db.scanCount reply = 0 → NoTokenOf (.uaa u) db others
  | .countCNSITokens c u, reply => Db.scanCount reply = 0 → NoTokenOf (.cnsi c u) db others
  | _, _ => True

/-- The store and the saves in progress. -/
abbrev SavePool := Pool Stmt Stmt.Reply GoError Unit SaveRequest Database

/-- A step of saves whose statements all meet the condition `ok`. -/
abbrev SaveStep (D : Dbms) (aes : Aes) (key : Bytes)
    (ok : Database → List SaveThread → SaveThread → (s : Stmt) → s.Reply → Prop) :
    SavePool → SavePool → Prop :=
  Pool.Step (Executes D) (SaveRequest.body aes key) ok

/-- A run of saves whose statements all meet the condition `ok`. -/
abbrev SaveRun (D : Dbms) (aes : Aes) (key : Bytes)
    (ok : Database → List SaveThread → SaveThread → (s : Stmt) → s.Reply → Prop) :=
  Pool.Run (Executes D) (SaveRequest.body aes key) ok

/-! ## What the statements of a save do -/

/-- The statements of a save for the owner. -/
inductive SavesFor : Owner → Stmt → Prop
  | countAuth (u : String) : SavesFor (.uaa u) (.countAuthTokens u)
  | insertAuth (u g : String) (a : Bytes) (r : Option Bytes) (e : ℤ) :
      SavesFor (.uaa u) (.insertAuthToken g u "uaa" a r e)
  | updateAuth (u : String) (a : Bytes) (r : Option Bytes) (e : ℤ) :
      SavesFor (.uaa u) (.updateAuthToken a r e u "uaa")
  | countCnsi (c u : String) : SavesFor (.cnsi c u) (.countCNSITokens c u)
  | insertCnsi (c u g : String) (a : Bytes) (r : Option Bytes) (e : ℤ) (d : Bool)
      (at' m : String) (l : Option String) :
      SavesFor (.cnsi c u) (.insertCNSIToken g c u "cnsi" a r e d at' m l)
  | updateCnsi (c u : String) (a : Bytes) (r : Option Bytes) (e : ℤ) (d : Bool)
      (m : String) (l : Option String) (at' : String) :
      SavesFor (.cnsi c u) (.updateCNSIToken a r e d m l c u "cnsi" at')

/-- The statement counts, and its reply is read as 0. -/
def CountsZero : (s : Stmt) → s.Reply → Prop
  | .countAuthTokens _, reply => Db.scanCount reply = 0
  | .countCNSITokens _ _, reply => Db.scanCount reply = 0
  | _, _ => False

/-- The rest of a save for the owner : it inserts only right after a count of 0. -/
inductive Saving (o : Owner) : Db Unit → Prop
  | done (r : Except GoError Unit) : Saving o (.ret r)
  | step {s : Stmt} {k : s.Reply → Db Unit} (hs : SavesFor o s)
      (hk : ∀ reply, Saving o (k reply))
      (hins : ∀ reply, ¬CountsZero s reply → nextInsert (k reply) = none) :
      Saving o (.exec s k)

/-- An update keeps the owner of every row. -/
theorem rows_updateTokens (D : Dbms) (o : Owner) (db : Database) (r : Option Bytes)
    (p : TokenRow → Bool) (f : Bytes → TokenRow → TokenRow)
    (hf : ∀ b row, o.owns (f b row) = o.owns row) :
    o.rows (D.updateTokens db r p f).2 = o.rows db := by
  unfold Dbms.updateTokens
  cases D.blob r with
  | none => split_ifs <;> rfl
  | some b => exact countP_updateRows (hf b)

/-- An insert adds at most one row of the owner of the row, and none of another. -/
theorem rows_insertToken (D : Dbms) (o : Owner) (db : Database) (r : Option Bytes)
    (row : Bytes → TokenRow) : o.rows (D.insertToken db r row).2 ≤ o.rows db + 1 := by
  unfold Dbms.insertToken
  cases D.blob r with
  | none => simp
  | some b => simp [Owner.rows, List.countP_singleton]; split_ifs <;> omega

theorem rows_insertToken_of_not_owns (D : Dbms) (o : Owner) (db : Database) (r : Option Bytes)
    (row : Bytes → TokenRow) (h : ∀ b, o.owns (row b) = false) :
    o.rows (D.insertToken db r row).2 = o.rows db := by
  unfold Dbms.insertToken
  cases D.blob r with
  | none => rfl
  | some b => simp [Owner.rows, h]

/-- A statement of a save that does not insert keeps the rows of every owner. -/
theorem rows_exec_of_inserts_none {D : Dbms} {o : Owner} {s : Stmt} (hs : SavesFor o s)
    (hi : s.inserts = none) (o' : Owner) (db : Database) :
    o'.rows (D.exec s db).2 = o'.rows db := by
  cases hs with
  | countAuth u => simp
  | countCnsi c u => simp
  | insertAuth => simp [Stmt.inserts] at hi
  | insertCnsi => simp [Stmt.inserts] at hi
  | updateAuth u a r e =>
    rw [Dbms.exec_updateAuthToken]
    exact rows_updateTokens D o' db r _ _ fun b row => by cases o' <;> rfl
  | updateCnsi c u a r e d m l at' =>
    rw [Dbms.exec_updateCNSIToken]
    exact rows_updateTokens D o' db r _ _ fun b row => by cases o' <;> rfl

theorem SavesFor.inserts_eq {o : Owner} {s : Stmt} (hs : SavesFor o s)
    (hi : s.inserts ≠ none) : s.inserts = some o := by
  cases hs <;> simp_all [Stmt.inserts]

/-- The insert of a save adds at most one row of its owner, and none of another. -/
theorem rows_exec_of_inserts {D : Dbms} {o : Owner} {s : Stmt} (hs : SavesFor o s)
    (hi : s.inserts ≠ none) (db : Database) :
    o.rows (D.exec s db).2 ≤ o.rows db + 1 ∧
      ∀ o' ≠ o, o'.rows (D.exec s db).2 = o'.rows db := by
  cases hs with
  | countAuth | countCnsi | updateAuth | updateCnsi => simp [Stmt.inserts] at hi
  | insertAuth u g a r e =>
    rw [Dbms.exec_insertAuthToken]
    refine ⟨rows_insertToken D _ db r _, fun o' ho' => ?_⟩
    refine rows_insertToken_of_not_owns D o' db r _ fun b => ?_
    cases o' with
    | uaa u' =>
      have hne : u ≠ u' := fun h => ho' (by rw [h])
      simp [Owner.owns, TokenRow.isAuth, hne]
    | cnsi c' u' => simp [Owner.owns, TokenRow.isCnsi]
  | insertCnsi c u g a r e d at' m l =>
    rw [Dbms.exec_insertCNSIToken]
    refine ⟨rows_insertToken D _ db r _, fun o' ho' => ?_⟩
    refine rows_insertToken_of_not_owns D o' db r _ fun b => ?_
    cases o' with
    | uaa u' => simp [Owner.owns, TokenRow.isAuth]
    | cnsi c' u' =>
      have hne : c = c' → u ≠ u' := fun h h' => ho' (by rw [h, h'])
      by_cases hc : c = c'
      · simp [Owner.owns, TokenRow.isCnsi, hne hc]
      · simp [Owner.owns, TokenRow.isCnsi, hc]

/-! ## The programs of saves -/

theorem Saving.nextInsert_eq {o o' : Owner} {p : Db Unit} (h : Saving o p)
    (hn : nextInsert p = some o') : o' = o := by
  cases h with
  | done r => simp [nextInsert] at hn
  | @step s k hs hk hins =>
    have hi : s.inserts = some o' := hn
    exact Option.some_injective _ (hi.symm.trans (hs.inserts_eq (by simp [hi])))

/-- The owner of the token that a call saves. -/
def SaveRequest.owner : SaveRequest → Owner
  | auth _ u _ => .uaa u
  | cnsi _ c u _ => .cnsi c u

/-- The end of a save : what follows its insert or update. -/
theorem saving_send {o : Owner} {s : Stmt} (hs : SavesFor o s) {msg : String}
    {f : s.Out → Db Unit} (hf : ∀ n, ∃ r, f n = .ret r) : Saving o (Db.send msg s >>= f) := by
  have hend : ∀ reply, ∃ r, (Db.checkErr msg reply >>= f) = .ret r
    | .ok n => hf n
    | .error e => ⟨_, rfl⟩
  refine .step hs (fun reply => ?_) fun reply _ => ?_
  · obtain ⟨r, hr⟩ := hend reply
    change Saving o (Db.checkErr msg reply >>= f)
    rw [hr]
    exact .done r
  · obtain ⟨r, hr⟩ := hend reply
    change nextInsert (Db.checkErr msg reply >>= f) = none
    rw [hr]
    rfl

theorem saving_saveAuthToken (aes : Aes) (key : Bytes) (ent : Entropy) (u : String)
    (tr : TokenRecord) : Saving (.uaa u) (saveAuthToken aes key ent u tr) ∧
      nextInsert (saveAuthToken aes key ent u tr) = none := by
  unfold saveAuthToken
  split_ifs with hu ha
  · exact ⟨.done _, rfl⟩
  · exact ⟨.done _, rfl⟩
  cases encryptTokens aes key ent tr.authToken tr.refreshToken with
  | error e => exact ⟨.done _, rfl⟩
  | ok ct =>
    refine ⟨.step (.countAuth u) (fun reply => ?_) fun reply hz => ?_, rfl⟩
    · by_cases hz : Db.scanCount reply = 0
      · change Saving _ (if Db.scanCount reply = 0 then _ else _)
        rw [if_pos hz]
        exact saving_send (.insertAuth ..) fun _ => ⟨_, rfl⟩
      · change Saving _ (if Db.scanCount reply = 0 then _ else _)
        rw [if_neg hz]
        exact saving_send (.updateAuth ..) fun _ => ⟨_, rfl⟩
    · change nextInsert (if Db.scanCount reply = 0 then _ else _) = none
      rw [if_neg (show ¬Db.scanCount reply = 0 from hz)]
      rfl

theorem saving_saveCNSIToken (aes : Aes) (key : Bytes) (ent : Entropy) (c u : String)
    (tr : TokenRecord) : Saving (.cnsi c u) (saveCNSIToken aes key ent c u tr) ∧
      nextInsert (saveCNSIToken aes key ent c u tr) = none := by
  unfold saveCNSIToken
  split_ifs with hc hu ha
  · exact ⟨.done _, rfl⟩
  · exact ⟨.done _, rfl⟩
  · exact ⟨.done _, rfl⟩
  cases encryptTokens aes key ent tr.stored.authToken tr.stored.refreshToken with
  | error e => exact ⟨.done _, rfl⟩
  | ok ct =>
    refine ⟨.step (.countCnsi c u) (fun reply => ?_) fun reply hz => ?_, rfl⟩
    · by_cases hz : Db.scanCount reply = 0
      · change Saving _ (if Db.scanCount reply = 0 then _ else _)
        rw [if_pos hz]
        exact saving_send (.insertCnsi ..) fun _ => ⟨_, rfl⟩
      · change Saving _ (if Db.scanCount reply = 0 then _ else _)
        rw [if_neg hz]
        refine saving_send (.updateCnsi ..) fun n => ?_
        unfold Db.checkUpdated
        split_ifs <;> exact ⟨_, rfl⟩
    · change nextInsert (if Db.scanCount reply = 0 then _ else _) = none
      rw [if_neg (show ¬Db.scanCount reply = 0 from hz)]
      rfl

theorem saving_body (aes : Aes) (key : Bytes) : ∀ q : SaveRequest,
    Saving q.owner (q.body aes key) ∧ nextInsert (q.body aes key) = none
  | .auth ent u tr => saving_saveAuthToken aes key ent u tr
  | .cnsi ent c u tr => saving_saveCNSIToken aes key ent c u tr

/-! ## Two first saves -/

variable {D : Dbms} {aes : Aes} {key : Bytes}

/-- The rest of `SaveAuthToken` after a count of 0. -/
def insertRest (ent : Entropy) (u : String) (tr : TokenRecord) (a b : Bytes) : Db Unit :=
  Db.send "Unable to INSERT UAA token: "
    (.insertAuthToken ent.tokenGUID u "uaa" a (some b) tr.tokenExpiry) >>= fun _ => pure ()

/-- The save of a token starts with its count, and inserts if the reply is read as 0. -/
theorem saveAuthToken_eq {ent : Entropy} {u : String} {tr : TokenRecord} {a b : Bytes}
    (hu : u ≠ "") (ha : tr.authToken ≠ [])
    (henc : encryptTokens aes key ent tr.authToken tr.refreshToken = .ok (a, some b)) :
    ∃ k, saveAuthToken aes key ent u tr = .exec (.countAuthTokens u) k ∧
      ∀ reply, Db.scanCount reply = 0 → k reply = insertRest ent u tr a b := by
  unfold saveAuthToken
  rw [if_neg hu, if_neg ha, henc]
  exact ⟨_, rfl, fun reply h => if_pos h⟩

/-- The threads of a save of a `uaa` token, before it counts and before it inserts. -/
abbrev beforeInsert (ent : Entropy) (u : String) (tr : TokenRecord) (a b : Bytes)
    (reply : Except SqlError ℕ) : SaveThread :=
  ⟨.auth ent u tr, [⟨.countAuthTokens u, reply⟩], insertRest ent u tr a b⟩

section Steps

variable {ent : Entropy} {u : String} {tr : TokenRecord} {a b : Bytes} {db : Database}
  {ok : Database → List SaveThread → SaveThread → (s : Stmt) → s.Reply → Prop}
  (ts₁ ts₂ : List SaveThread)

theorem step_count {reply : Except SqlError ℕ} (hu : u ≠ "") (ha : tr.authToken ≠ [])
    (henc : encryptTokens aes key ent tr.authToken tr.refreshToken = .ok (a, some b))
    (hE : Executes D db (.countAuthTokens u) reply db) (h0 : Db.scanCount reply = 0)
    (hok : ok db (ts₁ ++ ts₂) (Thread.start (.auth ent u tr) (saveAuthToken aes key ent u tr))
      (.countAuthTokens u) reply) :
    SaveStep D aes key ok
      ⟨db, ts₁ ++ Thread.start (.auth ent u tr) (saveAuthToken aes key ent u tr) :: ts₂⟩
      ⟨db, ts₁ ++ beforeInsert ent u tr a b reply :: ts₂⟩ := by
  obtain ⟨k, hk, hzero⟩ := saveAuthToken_eq hu ha henc
  have hstep : SaveStep D aes key ok _ _ := Pool.Step.stmt ts₁ ts₂
    (Thread.start (.auth ent u tr) (saveAuthToken aes key ent u tr)) hk hE hok
  rwa [hzero reply h0] at hstep

theorem step_insert {reply : Except SqlError ℕ}
    (hok : ok db (ts₁ ++ ts₂) (beforeInsert ent u tr a b reply)
      (.insertAuthToken ent.tokenGUID u "uaa" a (some b) tr.tokenExpiry) (.ok (1 : ℕ))) :
    ∃ t, SaveStep D aes key ok ⟨db, ts₁ ++ beforeInsert ent u tr a b reply :: ts₂⟩
      ⟨{ db with tokens := db.tokens ++ [newAuthRow ent u tr a b] }, ts₁ ++ t :: ts₂⟩ :=
  ⟨_, Pool.Step.stmt ts₁ ts₂ _ rfl
    (Or.inl (Dbms.exec_insertAuthToken D db ent.tokenGUID u "uaa" a (some b)
      tr.tokenExpiry).symm) hok⟩

end Steps

/-- Two first saves for one user can leave two rows : both count before either inserts. -/
theorem exists_run_twoFirstSaves (D : Dbms) (db : Database) {ent ent' : Entropy} {u : String}
    {tr tr' : TokenRecord} {a a' b b' : Bytes} (hu : u ≠ "") (ha : tr.authToken ≠ [])
    (ha' : tr'.authToken ≠ [])
    (henc : encryptTokens aes key ent tr.authToken tr.refreshToken = .ok (a, some b))
    (henc' : encryptTokens aes key ent' tr'.authToken tr'.refreshToken = .ok (a', some b'))
    (hdb : (Owner.uaa u).rows db = 0) :
    ∃ c, SaveRun D aes key (fun _ _ _ _ _ => True) (Pool.init db) c ∧
      (Owner.uaa u).rows c.store = 2 := by
  have hcount : db.tokens.countP (TokenRow.isAuth u) = 0 := hdb
  have hE : Executes D db (.countAuthTokens u) (.ok (0 : ℕ)) db :=
    Or.inl (by rw [Dbms.exec_countAuthTokens, hcount])
  let T : SaveThread := Thread.start (SaveRequest.auth ent u tr) (saveAuthToken aes key ent u tr)
  let T' : SaveThread :=
    Thread.start (SaveRequest.auth ent' u tr') (saveAuthToken aes key ent' u tr')
  let B : SaveThread := beforeInsert ent u tr a b (.ok (0 : ℕ))
  let B' : SaveThread := beforeInsert ent' u tr' a' b' (.ok (0 : ℕ))
  have s1 : SaveStep D aes key (fun _ _ _ _ _ => True) (Pool.init db) ⟨db, [T]⟩ :=
    .start db [] (SaveRequest.auth ent u tr)
  have s2 : SaveStep D aes key (fun _ _ _ _ _ => True) ⟨db, [T]⟩ ⟨db, [T, T']⟩ :=
    .start db [T] (SaveRequest.auth ent' u tr')
  have s3 : SaveStep D aes key (fun _ _ _ _ _ => True) ⟨db, [T, T']⟩ ⟨db, [B, T']⟩ :=
    step_count [] [T'] hu ha henc hE rfl trivial
  have s4 : SaveStep D aes key (fun _ _ _ _ _ => True) ⟨db, [B, T']⟩ ⟨db, [B, B']⟩ :=
    step_count [B] [] hu ha' henc' hE rfl trivial
  obtain ⟨t, s5⟩ : ∃ t, SaveStep D aes key (fun _ _ _ _ _ => True) ⟨db, [B, B']⟩
      ⟨{ db with tokens := db.tokens ++ [newAuthRow ent u tr a b] }, [t, B']⟩ :=
    step_insert [] [B'] trivial
  obtain ⟨t', s6⟩ : ∃ t', SaveStep D aes key (fun _ _ _ _ _ => True)
      ⟨{ db with tokens := db.tokens ++ [newAuthRow ent u tr a b] }, [t, B']⟩
      ⟨{ db with tokens := db.tokens ++ [newAuthRow ent u tr a b] ++
          [newAuthRow ent' u tr' a' b'] }, [t, t']⟩ :=
    step_insert [t] [] trivial
  refine ⟨_, .tail (.tail (.tail (.tail (.tail (.tail .refl s1) s2) s3) s4) s5) s6, ?_⟩
  simp [Owner.rows, Owner.owns, hcount, newAuthRow, TokenRow.isAuth]

/-- First saves of two users, whose statements alternate, leave a row each, and their counts are
current. -/
theorem exists_run_twoUsers (D : Dbms) (db : Database) {ent ent' : Entropy} {u u' : String}
    {tr tr' : TokenRecord} {a a' b b' : Bytes} (hu : u ≠ "") (hu' : u' ≠ "") (hne : u ≠ u')
    (ha : tr.authToken ≠ []) (ha' : tr'.authToken ≠ [])
    (henc : encryptTokens aes key ent tr.authToken tr.refreshToken = .ok (a, some b))
    (henc' : encryptTokens aes key ent' tr'.authToken tr'.refreshToken = .ok (a', some b'))
    (hdb : (Owner.uaa u).rows db = 0) (hdb' : (Owner.uaa u').rows db = 0) :
    ∃ c, SaveRun D aes key CountIsCurrent (Pool.init db) c ∧
      (Owner.uaa u).rows c.store = 1 ∧ (Owner.uaa u').rows c.store = 1 := by
  have hcount : db.tokens.countP (TokenRow.isAuth u) = 0 := hdb
  have hcount' : db.tokens.countP (TokenRow.isAuth u') = 0 := hdb'
  let T : SaveThread := Thread.start (SaveRequest.auth ent u tr) (saveAuthToken aes key ent u tr)
  let T' : SaveThread :=
    Thread.start (SaveRequest.auth ent' u' tr') (saveAuthToken aes key ent' u' tr')
  let B : SaveThread := beforeInsert ent u tr a b (.ok (0 : ℕ))
  let B' : SaveThread := beforeInsert ent' u' tr' a' b' (.ok (0 : ℕ))
  have s1 : SaveStep D aes key CountIsCurrent (Pool.init db) ⟨db, [T]⟩ :=
    .start db [] (SaveRequest.auth ent u tr)
  have s2 : SaveStep D aes key CountIsCurrent ⟨db, [T]⟩ ⟨db, [T, T']⟩ :=
    .start db [T] (SaveRequest.auth ent' u' tr')
  have s3 : SaveStep D aes key CountIsCurrent ⟨db, [T, T']⟩ ⟨db, [B, T']⟩ := by
    refine step_count [] [T'] hu ha henc (.inl ?_) rfl fun _ => ⟨hdb, ?_⟩
    · rw [Dbms.exec_countAuthTokens, hcount]
    · -- The other save has not counted.
      refine List.forall_mem_singleton.2 ?_
      change nextInsert (saveAuthToken aes key ent' u' tr') ≠ _
      rw [(saving_saveAuthToken aes key ent' u' tr').2]
      exact Option.some_ne_none _ |>.symm
  have s4 : SaveStep D aes key CountIsCurrent ⟨db, [B, T']⟩ ⟨db, [B, B']⟩ := by
    refine step_count [B] [] hu' ha' henc' (.inl ?_) rfl fun _ => ⟨hdb', ?_⟩
    · rw [Dbms.exec_countAuthTokens, hcount']
    · -- The other save is about to insert, for its own user.
      exact List.forall_mem_singleton.2 fun h => hne (by simpa using Option.some.inj h)
  obtain ⟨t', s5⟩ : ∃ t', SaveStep D aes key CountIsCurrent ⟨db, [B, B']⟩
      ⟨{ db with tokens := db.tokens ++ [newAuthRow ent' u' tr' a' b'] }, [B, t']⟩ :=
    step_insert [B] [] trivial
  obtain ⟨t, s6⟩ : ∃ t, SaveStep D aes key CountIsCurrent
      ⟨{ db with tokens := db.tokens ++ [newAuthRow ent' u' tr' a' b'] }, [B, t']⟩
      ⟨{ db with tokens := db.tokens ++ [newAuthRow ent' u' tr' a' b'] ++
          [newAuthRow ent u tr a b] }, [t, t']⟩ :=
    step_insert [] [t'] trivial
  refine ⟨_, .tail (.tail (.tail (.tail (.tail (.tail .refl s1) s2) s3) s4) s5) s6, ?_, ?_⟩
  · simp [Owner.rows, Owner.owns, hcount, newAuthRow, TokenRow.isAuth, hne.symm]
  · simp [Owner.rows, Owner.owns, hcount', newAuthRow, TokenRow.isAuth, hne]

/-- A save whose count fails can add a row to the one there is. -/
theorem exists_run_failedCount (D : Dbms) (db : Database) {ent : Entropy} {u : String}
    {tr : TokenRecord} {a b : Bytes} (hu : u ≠ "") (ha : tr.authToken ≠ [])
    (henc : encryptTokens aes key ent tr.authToken tr.refreshToken = .ok (a, some b)) :
    ∃ c, SaveRun D aes key (fun _ _ _ _ _ => True) (Pool.init db) c ∧
      (Owner.uaa u).rows c.store = (Owner.uaa u).rows db + 1 := by
  let reply : Except SqlError ℕ := .error (.failed "connection reset")
  have s1 : SaveStep D aes key (fun _ _ _ _ _ => True) (Pool.init db) _ :=
    .start db [] (SaveRequest.auth ent u tr)
  have s2 : SaveStep D aes key (fun _ _ _ _ _ => True) _
      ⟨db, [beforeInsert ent u tr a b reply]⟩ :=
    step_count [] [] hu ha henc (Or.inr ⟨_, rfl, rfl⟩) rfl trivial
  obtain ⟨t, s3⟩ : ∃ t, SaveStep D aes key (fun _ _ _ _ _ => True)
      ⟨db, [beforeInsert ent u tr a b reply]⟩
      ⟨{ db with tokens := db.tokens ++ [newAuthRow ent u tr a b] }, [t]⟩ :=
    step_insert [] [] trivial
  refine ⟨_, .tail (.tail (.tail .refl s1) s2) s3, ?_⟩
  simp [Owner.rows, Owner.owns, newAuthRow, TokenRow.isAuth]

theorem encryptTokens_sampleLogin (g : String) :
    encryptTokens sampleAes sampleKey (sampleEntropy g) sampleLogin.authToken
      sampleLogin.refreshToken =
      .ok (sampleIV.val ++ [7, 4], some (sampleIV.val ++ [5])) := by
  rfl

/-- Two first logins of one user at once leave the user with two tokens. -/
theorem not_oneTokenPerOwner_twoFirstSaves :
    ¬∀ (D : Dbms) (aes : Aes) (key : Bytes) (db : Database) (a : SavePool),
      OneTokenPerOwner db → SaveRun D aes key (fun _ _ _ _ _ => True) (Pool.init db) a →
        OneTokenPerOwner a.store := by
  intro h
  obtain ⟨c, hrun, hrows⟩ := exists_run_twoFirstSaves samplePgsql ⟨[], []⟩
    (show "user" ≠ "" by decide) (by decide) (by decide)
    (encryptTokens_sampleLogin "first") (encryptTokens_sampleLogin "second") rfl
  have hone := h _ _ _ _ c (fun o => by simp [Owner.rows]) hrun (.uaa "user")
  omega

/-! ## Runs -/

/-- The thread is about to insert a row of the owner. -/
def SaveThread.inserting (o : Owner) (t : SaveThread) : Bool := nextInsert t.prog == some o

/-- Every thread is a save, and the rows of an owner and the inserts that are about to
happen are together at most one. -/
structure Counted (a : SavePool) : Prop where
  saving : ∀ t ∈ a.threads, ∃ o, Saving o t.prog
  atMostOne : ∀ o : Owner, o.rows a.store + a.threads.countP (SaveThread.inserting o) ≤ 1

theorem countsZero_current {o : Owner} {s : Stmt} {reply : s.Reply} {db : Database}
    {others : List SaveThread} {t : SaveThread} (hs : SavesFor o s) (hz : CountsZero s reply)
    (hok : CountIsCurrent db others t s reply) : NoTokenOf o db others := by
  cases hs with
  | countAuth u => exact hok hz
  | countCnsi c u => exact hok hz
  | insertAuth | updateAuth | insertCnsi | updateCnsi => exact hz.elim

theorem Executes.rows_eq {o o' : Owner} {s : Stmt} {reply : s.Reply} {db db' : Database}
    (hE : Executes D db s reply db') (hs : SavesFor o s) (hi : s.inserts = none) :
    o'.rows db' = o'.rows db := by
  rcases hE with h | ⟨e, -, rfl⟩
  · rw [(Prod.mk.inj h).2]
    exact rows_exec_of_inserts_none hs hi o' db
  · rfl

theorem Executes.rows_le {o : Owner} {s : Stmt} {reply : s.Reply} {db db' : Database}
    (hE : Executes D db s reply db') (hs : SavesFor o s) (hi : s.inserts = some o) :
    o.rows db' ≤ o.rows db + 1 ∧ ∀ o' ≠ o, o'.rows db' = o'.rows db := by
  rcases hE with h | ⟨e, -, rfl⟩
  · rw [(Prod.mk.inj h).2]
    exact rows_exec_of_inserts hs (by simp [hi]) db
  · exact ⟨Nat.le_succ _, fun _ _ => rfl⟩

theorem countP_middle {α : Type} (p : α → Bool) (l₁ l₂ : List α) (a : α) :
    (l₁ ++ a :: l₂).countP p = (l₁ ++ l₂).countP p + if p a then 1 else 0 := by
  simp only [List.countP_append, List.countP_cons]
  omega

/-- The rows and coming inserts of an owner stay at most one when one thread of a save
executes a statement. -/
theorem atMostOne_stmt {o o' : Owner} {s : Stmt} {k : s.Reply → Db Unit} {reply : s.Reply}
    {db db' : Database} {others : List SaveThread} {t : SaveThread}
    (hE : Executes D db s reply db') (hs : SavesFor o s) (hsave : Saving o (k reply))
    (hins : ¬CountsZero s reply → nextInsert (k reply) = none)
    (hok : CountIsCurrent db others t s reply)
    (hsum : o'.rows db + (others.countP (SaveThread.inserting o') +
      if s.inserts == some o' then 1 else 0) ≤ 1) :
    o'.rows db' + (others.countP (SaveThread.inserting o') +
      if nextInsert (k reply) == some o' then 1 else 0) ≤ 1 := by
  by_cases hi : s.inserts = none
  · have hrows : o'.rows db' = o'.rows db := hE.rows_eq hs hi
    by_cases hn : nextInsert (k reply) = some o'
    · -- The count was read as 0, and no row and no other insert contradicts it.
      have hz : CountsZero s reply := by
        by_contra hz
        simp [hins hz] at hn
      obtain rfl := hsave.nextInsert_eq hn
      obtain ⟨hzero, hothers⟩ := countsZero_current hs hz hok
      have hN : others.countP (SaveThread.inserting o') = 0 :=
        List.countP_eq_zero.2 fun t' ht' => by
          simpa [SaveThread.inserting] using hothers t' ht'
      simp [hrows, hzero, hN, hn]
    · simp only [hrows, beq_eq_false_iff_ne.2 hn]
      simp only [hi] at hsum
      exact hsum
  · have hio : s.inserts = some o := hs.inserts_eq hi
    have hz : ¬CountsZero s reply := by
      intro hz
      cases hs <;> simp [Stmt.inserts, CountsZero] at hi hz
    obtain ⟨hle, hne⟩ := hE.rows_le hs hio
    by_cases hoo : o' = o
    · subst hoo
      simp only [hio, beq_self_eq_true, if_true] at hsum
      simp only [hins hz]
      simp only [Bool.false_eq_true, if_false, Option.none_beq_some]
      omega
    · rw [hne o' hoo]
      have h := hsum
      simp only [hins hz, Option.none_beq_some, Bool.false_eq_true, if_false]
      split_ifs at h <;> omega

/-- No statement that meets the condition takes the invariant away. -/
theorem Counted.step {a b : SavePool} (ha : Counted a)
    (hstep : SaveStep D aes key CountIsCurrent a b) : Counted b := by
  cases hstep with
  | start m ts q =>
    obtain ⟨hsave, hnone⟩ := saving_body aes key q
    refine ⟨fun t ht => ?_, fun o => ?_⟩
    · rcases List.mem_append.1 ht with ht | ht
      · exact ha.saving t ht
      · obtain rfl := List.mem_singleton.1 ht
        exact ⟨_, hsave⟩
    · have h := ha.atMostOne o
      simpa [SaveThread.inserting, Thread.start, hnone] using h
  | @stmt m m' ts₁ ts₂ t s k r hk hE hok =>
    obtain ⟨o, ho⟩ := ha.saving t (by simp)
    rw [hk] at ho
    cases ho with
    | step hs hsave hins =>
      refine ⟨fun t' ht' => ?_, fun o' => ?_⟩
      · rcases List.mem_append.1 ht' with h | h
        · exact ha.saving t' (by simp [h])
        · rcases List.mem_cons.1 h with rfl | h
          · exact ⟨o, hsave r⟩
          · exact ha.saving t' (by simp [h])
      · have hsum := ha.atMostOne o'
        simp only [countP_middle, SaveThread.inserting, hk] at hsum ⊢
        exact atMostOne_stmt hE hs (hsave r) (hins r) hok hsum

theorem counted_init {db : Database} (hdb : OneTokenPerOwner db) : Counted (Pool.init db) :=
  ⟨fun _ ht => absurd ht List.not_mem_nil, fun o => by simpa [Pool.init] using hdb o⟩

/-- In every run of concurrent saves in which every count that is read as 0 is current,
every owner has at most one token in every state reached. -/
theorem oneTokenPerOwner_of_run (D : Dbms) (aes : Aes) (key : Bytes) {db : Database}
    (hdb : OneTokenPerOwner db) {a : SavePool}
    (hrun : SaveRun D aes key CountIsCurrent (Pool.init db) a) : OneTokenPerOwner a.store := by
  have ha : Counted a := hrun.inv (counted_init hdb) fun _ _ h hstep => h.step hstep
  intro o
  have h := ha.atMostOne o
  omega

/-- Two users log in for the first time at once : one token each, and at most one for every
owner. -/
theorem oneTokenPerOwner_of_run_twoLogins :
    ∃ c, SaveRun samplePgsql sampleAes sampleKey CountIsCurrent
      (Pool.init ⟨[], []⟩) c ∧ (Owner.uaa "user").rows c.store = 1 ∧
      (Owner.uaa "admin").rows c.store = 1 ∧ OneTokenPerOwner c.store := by
  obtain ⟨c, hrun, hrows, hrows'⟩ := exists_run_twoUsers samplePgsql ⟨[], []⟩
    (show "user" ≠ "" by decide) (show "admin" ≠ "" by decide) (by decide) (by decide) (by decide)
    (encryptTokens_sampleLogin "first") (encryptTokens_sampleLogin "second") rfl rfl
  have hdb : OneTokenPerOwner ⟨[], []⟩ := fun o => by simp [Owner.rows]
  exact ⟨c, hrun, hrows, hrows', oneTokenPerOwner_of_run _ sampleAes sampleKey hdb hrun⟩

end Stratos
