import Stratos.Lib.Words
import Stratos.Jetstream.Auth

/-!
# Who is an administrator

Four places tell whether a user is an administrator, each with a substring search in the
joined scopes: the login response in the scope string of the UAA, where blanks stand between
the scopes, the other three in the scopes of the token with nothing between them.

`contains_join_iff` says what such a search finds: the name inside a scope or spelled across
neighbouring scopes. `adminExact_iff` says of each place that it reports the element of the
list exactly when the scopes are not confusable (`Confusable`), and when the login response
and `GetUAAUser` agree. A scope that extends the name is (`not_adminExact_readonly`).
-/

namespace Stratos

open Lib

/-- The name is part of a scope, or spelled across neighbouring scopes joined with `sep`, or
empty. -/
def Spelled (sep : String) (scopes : List String) (name : String) : Prop :=
  (∃ s ∈ scopes, contains s name) ∨
    SpelledAcross sep.toList (scopes.map String.toList) name.toList ∨ name = ""

/-- The name is not a scope, and yet spelled by the scopes. -/
def Confusable (sep : String) (scopes : List String) (name : String) : Prop :=
  name ∉ scopes ∧ Spelled sep scopes name

/-- The report is that the name is one of the scopes. -/
def ReportsExactly (admin : Bool) (scopes : List String) (name : String) : Prop :=
  admin = true ↔ name ∈ scopes

variable {sep name : String} {scopes : List String}

/-! ## The search -/

theorem contains_iff {s substr : String} : contains s substr ↔ substr.toList <:+: s.toList :=
  decide_eq_true_iff

theorem contains_self (s : String) : contains s s := contains_iff.2 (List.infix_refl _)

/-- A search in the joined scopes finds what the scopes spell. -/
theorem contains_join_iff (hsep : sep.toList.length ≤ 1) :
    contains (join scopes sep) name ↔ Spelled sep scopes name := by
  rw [contains_iff, join, String.toList_intercalate]
  rcases eq_or_ne scopes [] with rfl | hne
  · simp [Spelled, SpelledAcross]
  · rw [infix_intercalate_iff hsep (by simpa using hne)]
    constructor
    · rintro (⟨w, hw, hname⟩ | h)
      · obtain ⟨s, hs, rfl⟩ := List.mem_map.1 hw
        exact Or.inl ⟨s, hs, contains_iff.2 hname⟩
      · exact Or.inr (Or.inl h)
    · rintro (⟨s, hs, hname⟩ | h | rfl)
      · exact Or.inl ⟨_, List.mem_map_of_mem hs, contains_iff.1 hname⟩
      · exact Or.inr h
      · obtain ⟨s, hs⟩ := List.exists_mem_of_ne_nil scopes hne
        exact Or.inl ⟨_, List.mem_map_of_mem hs, List.nil_infix⟩

/-- The search reports the element exactly when the scopes are not confusable. -/
theorem reportsExactly_contains_iff (hsep : sep.toList.length ≤ 1) :
    ReportsExactly (contains (join scopes sep) name) scopes name ↔
      ¬Confusable sep scopes name := by
  have hmem : name ∈ scopes → Spelled sep scopes name := fun h =>
    Or.inl ⟨name, h, contains_self name⟩
  unfold ReportsExactly Confusable
  rw [contains_join_iff hsep]
  constructor
  · rintro hiff ⟨hnot, hspelled⟩
    exact hnot (hiff.1 hspelled)
  · intro h
    exact ⟨fun hspelled => by_contra fun hnot => h ⟨hnot, hspelled⟩, hmem⟩

/-! ## The four places -/

variable {D : Dbms} {P : PortalProxy} {db db' db₁ : Database}

/-- `GetUAAUser` searches the scopes of the stored token. -/
theorem admin_getUAAUser {u : String} {user : ConnectedUser}
    (h : D.run (P.getUAAUser u) db = (.ok user, db')) :
    user.admin = contains (join user.scopes "") P.consoleConfig.consoleAdminScope := by
  obtain ⟨t, db₁, -, h⟩ := (Prog.run_bind_eq_ok D.exec).1 h
  obtain ⟨i, db₂, -, h⟩ := (Prog.run_bind_eq_ok D.exec).1 h
  cases h
  rfl

/-- `GetCNSIUserFromOAuthToken` searches the scopes of the token for a Cloud Foundry. -/
theorem admin_getCNSIUserFromOAuthToken {c : String} {tr : TokenRecord} {record : CNSIRecord}
    {user : ConnectedUser} (hrecord : D.run (P.getCNSIRecord c) db = (.ok record, db₁))
    (hcf : record.cnsiType = "cf")
    (h : D.run (P.getCNSIUserFromOAuthToken c tr) db = (.ok (some user), db')) :
    user.admin = contains (join user.scopes "") P.cfAdminIdentifier := by
  unfold PortalProxy.getCNSIUserFromOAuthToken at h
  cases hi : P.getUserTokenInfo tr.authToken with
  | error e => simp [hi] at h
  | ok i =>
    simp only [hi, Prog.run_bind, Prog.run_attempt, hrecord, hcf, if_true, Prog.pure_def,
      Prog.run_ret] at h
    cases h
    rfl

/-- The Cloud Foundry plugin searches the scopes of the new token. -/
theorem admin_cloudFoundryConnect {uaa : UAA} {ctx : Context} {record : CNSIRecord} {v : String}
    {tr : TokenRecord} {admin : Bool} {i : JWTUserTokenInfo}
    (h : P.cloudFoundryConnect uaa ctx record v = .ok (tr, admin))
    (hi : P.getUserTokenInfo tr.authToken = .ok i) :
    admin = contains (join i.scope "") P.cfAdminIdentifier := by
  unfold PortalProxy.cloudFoundryConnect at h
  split_ifs at h
  obtain ⟨⟨uaaRes, u⟩, -, h⟩ := bind_eq_ok.1 h
  obtain ⟨rfl, rfl⟩ := Prod.mk.inj (Except.ok.inj h)
  rw [hi]

/-- The login response searches the scope string of the UAA. -/
theorem admin_doLoginToUAA {plugins : Plugins} {uaa : UAA} {ent : LoginEntropy} {ctx : Context}
    {res : LoginRes} {uaaRes : UAAResponse} {i : JWTUserTokenInfo}
    (hlogin : P.login uaa ctx P.consoleConfig.skipSSLValidation P.consoleConfig.consoleClient
      P.consoleConfig.consoleClientSecret P.getUAAIdentityEndpoint = .ok (uaaRes, i))
    (h : D.run (P.doLoginToUAA plugins uaa ent ctx) db = (.ok res, db')) :
    res.admin = contains uaaRes.scope P.consoleConfig.consoleAdminScope := by
  unfold PortalProxy.doLoginToUAA at h
  rw [hlogin, mapError_ok, Prog.ret_ok_bind] at h
  obtain ⟨-, db₁, -, h⟩ := (Prog.run_bind_eq_ok D.exec).1 h
  obtain ⟨-, db₂, -, h⟩ := (Prog.run_bind_eq_ok D.exec).1 h
  obtain ⟨t, db₃, -, h⟩ := (Prog.run_bind_eq_ok D.exec).1 h
  obtain ⟨-, db₄, -, h⟩ := (Prog.run_bind_eq_ok D.exec).1 h
  cases h
  rfl

/-- `GetUAAUser`, `GetCNSIUserFromOAuthToken` and the plugin's `Connect` report exactly
whether the name is one of the scopes unless it is confusable with nothing between the
scopes ; the login response unless it is with a blank between them. The login response and
`GetUAAUser` agree when both or none of the joined scopes spell the name. -/
theorem adminExact_iff (D : Dbms) (P : PortalProxy) (db : Database) :
    (∀ u user db', D.run (P.getUAAUser u) db = (.ok user, db') →
      (ReportsExactly user.admin user.scopes P.consoleConfig.consoleAdminScope ↔
        ¬Confusable "" user.scopes P.consoleConfig.consoleAdminScope)) ∧
    (∀ c tr record user db₁ db', D.run (P.getCNSIRecord c) db = (.ok record, db₁) →
      record.cnsiType = "cf" →
      D.run (P.getCNSIUserFromOAuthToken c tr) db = (.ok (some user), db') →
      (ReportsExactly user.admin user.scopes P.cfAdminIdentifier ↔
        ¬Confusable "" user.scopes P.cfAdminIdentifier)) ∧
    (∀ uaa ctx record v tr admin i, P.cloudFoundryConnect uaa ctx record v = .ok (tr, admin) →
      P.getUserTokenInfo tr.authToken = .ok i →
      (ReportsExactly admin i.scope P.cfAdminIdentifier ↔
        ¬Confusable "" i.scope P.cfAdminIdentifier)) ∧
    ∀ plugins uaa ent ctx uaaRes i res db',
      P.login uaa ctx P.consoleConfig.skipSSLValidation P.consoleConfig.consoleClient
        P.consoleConfig.consoleClientSecret P.getUAAIdentityEndpoint = .ok (uaaRes, i) →
      -- The scope string of a UAA response has a blank between the scopes of its token.
      uaaRes.scope = join i.scope " " →
      D.run (P.doLoginToUAA plugins uaa ent ctx) db = (.ok res, db') →
      (ReportsExactly res.admin i.scope P.consoleConfig.consoleAdminScope ↔
        ¬Confusable " " i.scope P.consoleConfig.consoleAdminScope) ∧
      ∀ u user db₁ db₂, D.run (P.getUAAUser u) db₁ = (.ok user, db₂) → user.scopes = i.scope →
        (res.admin = user.admin ↔
          (Spelled " " i.scope P.consoleConfig.consoleAdminScope ↔
            Spelled "" i.scope P.consoleConfig.consoleAdminScope)) := by
  have hblank : " ".toList.length ≤ 1 := by decide
  have hempty : "".toList.length ≤ 1 := by decide
  refine ⟨?_, ?_, ?_, ?_⟩
  · intro u user db' h
    rw [admin_getUAAUser h]
    exact reportsExactly_contains_iff hempty
  · intro c tr record user db₁ db' hrecord hcf h
    rw [admin_getCNSIUserFromOAuthToken hrecord hcf h]
    exact reportsExactly_contains_iff hempty
  · intro uaa ctx record v tr admin i h hi
    rw [admin_cloudFoundryConnect h hi]
    exact reportsExactly_contains_iff hempty
  · intro plugins uaa ent ctx uaaRes i res db' hlogin hscope h
    rw [admin_doLoginToUAA hlogin h, hscope]
    refine ⟨reportsExactly_contains_iff hblank, ?_⟩
    intro u user db₁ db₂ huser hscopes
    rw [admin_getUAAUser huser, hscopes, Bool.eq_iff_iff, contains_join_iff hblank,
      contains_join_iff hempty]

/-! ## A scope that extends the name -/

/-- `{"user_id":"user","scope":["stratos.admin.readonly"]}`. -/
def readonlyClaims : Bytes :=
  [123, 34, 117, 115, 101, 114, 95, 105, 100, 34, 58, 34, 117, 115, 101, 114, 34, 44, 34, 115, 99,
    111, 112, 101, 34, 58, 91, 34, 115, 116, 114, 97, 116, 111, 115, 46, 97, 100, 109, 105, 110, 46,
    114, 101, 97, 100, 111, 110, 108, 121, 34, 93, 125]

/-- The base64 of `readonlyClaims`. -/
def readonlyPayload : Bytes :=
  [101, 121, 74, 49, 99, 50, 86, 121, 88, 50, 108, 107, 73, 106, 111, 105, 100, 88, 78, 108, 99,
    105, 73, 115, 73, 110, 78, 106, 98, 51, 66, 108, 73, 106, 112, 98, 73, 110, 78, 48, 99, 109, 70,
    48, 98, 51, 77, 117, 89, 87, 82, 116, 97, 87, 52, 117, 99, 109, 86, 104, 90, 71, 57, 117, 98,
    72, 107, 105, 88, 88, 48]

/-- A token of "user" with the scope "stratos.admin.readonly". -/
def readonlyToken : Bytes := goBytes "e30." ++ readonlyPayload ++ goBytes ".e30"

/-- The user info of `readonlyToken`. -/
def readonlyInfo : JWTUserTokenInfo := ⟨"user", "", 0, ["stratos.admin.readonly"]⟩

/-- A portal proxy that reads `readonlyToken`. -/
def readonlyProxy : PortalProxy :=
  { samplePortalProxy with
    decodeBase64 := fun b => if b = readonlyPayload then some readonlyClaims else none
    unmarshalUserTokenInfo := fun b => if b = readonlyClaims then some readonlyInfo else none }

/-- The console token of "user", and the endpoint "cf". -/
def readonlyTable : Database :=
  ⟨[{ sampleRow "console" none "user" "uaa" none with
      authToken := sampleIV.val ++ Cfb.encrypt (sampleAes sampleKey) sampleIV.val readonlyToken }],
    [⟨"cf", "cf", "cf", "https://cf", "https://uaa", "https://uaa", "", false, "cf", none, false⟩]⟩

/-- The UAA that issues `readonlyToken`. -/
def readonlyUAA : UAA := fun _ => .ok ⟨readonlyToken, [5], "stratos.admin.readonly", []⟩

/-- A login with credentials. -/
def credsContext : Context :=
  ⟨"POST", fun key => if key = "connect_type" then "creds" else "user", fun _ => "", .ok "user",
    .ok 0, .ok (), .ok ()⟩

/-- The random readers of a login. -/
def sampleLoginEntropy : LoginEntropy := ⟨sampleEntropy "console", .ok sampleIV, sampleEntropy "cf"⟩

/-- The read only scope of the console contains the name of the administrator's. -/
theorem adminExact_iff_readonly :
    (ReportsExactly true ["stratos.admin.readonly"] "stratos.admin" ↔
      ¬Confusable "" ["stratos.admin.readonly"] "stratos.admin") ∧
    (ReportsExactly false ["stratos.admin.readonly"] "cloud_controller.admin" ↔
      ¬Confusable "" ["stratos.admin.readonly"] "cloud_controller.admin") ∧
    (ReportsExactly false ["stratos.admin.readonly"] "cloud_controller.admin" ↔
      ¬Confusable "" ["stratos.admin.readonly"] "cloud_controller.admin") ∧
    (ReportsExactly true ["stratos.admin.readonly"] "stratos.admin" ↔
      ¬Confusable " " ["stratos.admin.readonly"] "stratos.admin") ∧
    (true = true ↔ (Spelled " " ["stratos.admin.readonly"] "stratos.admin" ↔
      Spelled "" ["stratos.admin.readonly"] "stratos.admin")) := by
  obtain ⟨huaa, hoauth, hconnect, hlogin⟩ := adminExact_iff samplePgsql readonlyProxy readonlyTable
  have hres := hlogin [] readonlyUAA sampleLoginEntropy credsContext _ readonlyInfo _ _ rfl rfl rfl
  exact ⟨huaa "user" _ _ rfl,
    hoauth "cf" (initEndpointTokenRecord 0 readonlyToken [] false) _ _ _ _ rfl rfl rfl,
    hconnect readonlyUAA credsContext
      ⟨"cf", "cf", "cf", ⟨"", "", "", false, ""⟩, "", "", "", false, "cf", [], false⟩ "user" _ _
      readonlyInfo rfl rfl,
    hres.1, hres.2 "user" _ readonlyTable _ rfl rfl⟩

/-- A token with the scope "stratos.admin.readonly" makes its user an administrator, for
`GetUAAUser` and in the login response. -/
theorem not_adminExact_readonly :
    (samplePgsql.run (readonlyProxy.getUAAUser "user") readonlyTable).1 =
        .ok ⟨"user", "", true, ["stratos.admin.readonly"]⟩ ∧
      (samplePgsql.run (readonlyProxy.doLoginToUAA [] readonlyUAA sampleLoginEntropy credsContext)
        readonlyTable).1 = .ok ⟨"", 0, none, true, none⟩ ∧
      ¬ReportsExactly true ["stratos.admin.readonly"]
        readonlyProxy.consoleConfig.consoleAdminScope :=
  ⟨rfl, rfl, fun h => absurd (h.1 rfl) (by decide)⟩

end Stratos
