import Stratos.Jetstream.AdminScope
import Stratos.Lib.Json
import Stratos.Lib.JsObject

/-!
# The information about a user

`GetUserTokenInfo` unmarshals the claims of a token into a pointer, which stays nil when they are
`null`, and its callers read through the pointer when there is no error. `GetCNSIUserAndToken`
rewrites the user of a shared token also when there is none, `getInfo` writes into the map of the
endpoint's type also when no plugin has that type, and `adminMiddleware` hands the error of the
session, which is nil, to `handleSessionError` when the user is no administrator.

What is stored is an argument of all of them (`Stored`). `userInformation_iff` says for which
tokens, endpoints and sessions nothing of this happens : `adminMiddleware` panics for every user
that is no administrator (`not_adminSound_reader`), unless the scopes of the user spell the name of
the administrator's, for whom the handler runs.
-/

open Lib

namespace Stratos

/-! ## The functions -/

/-- The panic of a pointer that is nil. -/
def nilDereference : GoError := .exit "invalid memory address or nil pointer dereference"

/-- The panic of a map that is nil. -/
def nilMapWrite : GoError := .exit "assignment to entry in nil map"

/-- A panic. -/
def GoError.IsExit (e : GoError) : Prop := ∃ msg, e = .exit msg

/-- The error that is returned in place of an error. A panic goes on. -/
def GoError.answeredBy (msg : String) : GoError → GoError
  | .exit reason => .exit reason
  | _ => .new msg

/-- What a pointer points to. -/
def dereference {α : Type} : Option α → Except GoError α
  | some a => .ok a
  | none => .error nilDereference

/-- The text is the literal `null`, for which `json.Unmarshal` leaves a pointer nil. -/
def isNull (text : Bytes) : Bool :=
  match Json.read text with
  | some (.word w) => w.1 = Json.nullBytes
  | _ => false

/-- `interfaces.Versions`. -/
structure Versions where
  proxyVersion : String
  databaseVersion : ℤ

/-- `interfaces.EndpointDetail`. -/
structure EndpointDetail where
  cnsiRecord : CNSIRecord
  user : Option ConnectedUser := none
  metadata : JsObject String := .empty
  tokenMetadata : String := ""
  systemSharedToken : Bool := false

/-- `interfaces.Info`, with the diagnostics if they are added. -/
structure Info (D : Type) where
  versions : Versions
  user : ConnectedUser
  endpoints : JsObject (JsObject EndpointDetail)
  diagnostics : Option D := none

/-- The portal proxy with what is stored. -/
structure Stored (D : Type) where
  proxy : PortalProxy
  /-- `getVersionsData`. -/
  versions : Except GoError Versions
  diagnostics : D
  /-- `GetUAATokenRecord`. -/
  uaaTokenRecord : String → Except GoError TokenRecord
  /-- `GetCNSITokenRecord`. -/
  cnsiTokenRecord : String → String → Option TokenRecord
  /-- `GetCNSIRecord`. -/
  cnsiRecord : String → Except GoError CNSIRecord
  /-- `buildCNSIList`, which is empty when it fails. -/
  cnsiList : List CNSIRecord
  /-- The types of the endpoint plugins. -/
  endpointTypes : List String
  /-- `UpdateMetadata` of the endpoint plugins. -/
  updateMetadata : List (Info D → String → Info D)

namespace Stored

variable {D : Type} (S : Stored D)

/-- `GetUserTokenInfo`, with the pointer it returns. -/
def getUserTokenInfo (tok : Bytes) : Except GoError (Option JWTUserTokenInfo) :=
  match (trimPrefix tok (goBytes "bearer ")).splitOn '.'.toUInt8 with
  | _ :: payload :: _ :: _ =>
    match S.proxy.decodeBase64 payload with
    | none => .error (.new "Unable to decode token string.")
    | some decoded =>
      if isNull decoded then .ok none
      else match S.proxy.unmarshalUserTokenInfo decoded with
        | none => .error (.new "Failed to unmarshall decoded token.")
        | some u => .ok (some u)
  | _ => .error (.new "Token was poorly formed.")

/-- `GetUAAUser`. -/
def getUAAUser (userGUID : String) : Except GoError ConnectedUser := do
  let uaaTokenRecord ← (S.uaaTokenRecord userGUID).mapError fun _ =>
    .new "Unable to retrieve UAA token record."
  let pointer ← (S.getUserTokenInfo uaaTokenRecord.authToken).mapError
    (.wrap "Unable to find scope information in the UAA Auth Token: ")
  let userTokenInfo ← dereference pointer
  -- is the user a UAA admin?
  let uaaAdmin := contains (join userTokenInfo.scope "") S.proxy.consoleConfig.consoleAdminScope
  return { guid := userGUID, name := userTokenInfo.userName, admin := uaaAdmin,
           scopes := userTokenInfo.scope }

/-- `GetCNSIUserFromOAuthToken`. -/
def getCNSIUserFromOAuthToken (cnsiGUID : String) (cfTokenRecord : TokenRecord) :
    Except GoError (Option ConnectedUser × Bool) :=
  match S.getUserTokenInfo cfTokenRecord.authToken with
  | .error _ => .ok (none, false)
  | .ok pointer => do
    let userTokenInfo ← dereference pointer
    let cnsiUser : ConnectedUser :=
      { guid := userTokenInfo.userGUID, name := userTokenInfo.userName,
        scopes := userTokenInfo.scope }
    -- is the user an CF admin?
    match S.cnsiRecord cnsiGUID with
    | .error _ => return (none, false)
    | .ok cnsiRecord =>
      if cnsiRecord.cnsiType = "cf" then
        return (some { cnsiUser with
          admin := contains (join userTokenInfo.scope "") S.proxy.cfAdminIdentifier }, true)
      else return (some cnsiUser, true)

/-- `GetCNSIUserFromToken`. -/
def getCNSIUserFromToken (cnsiGUID : String) (cfTokenRecord : TokenRecord) :
    Except GoError (Option ConnectedUser × Bool) :=
  if cfTokenRecord.authType = authTypeHttpBasic then
    .ok (some (PortalProxy.getCNSIUserFromBasicToken cfTokenRecord), true)
  else S.getCNSIUserFromOAuthToken cnsiGUID cfTokenRecord

/-- `santizeInfoForSystemSharedTokenUser`, which writes through the pointer. -/
def santizeInfoForSystemSharedTokenUser (cnsiUser : Option ConnectedUser)
    (isSysystemShared : Bool) : Except GoError (Option ConnectedUser) :=
  if isSysystemShared then do
    let user ← dereference cnsiUser
    return some { user with guid := systemSharedUserGuid, scopes := [], name := "system_shared" }
  else .ok cnsiUser

/-- `GetCNSIUserAndToken`. -/
def getCNSIUserAndToken (cnsiGUID userGUID : String) :
    Except GoError (Option ConnectedUser × Option TokenRecord × Bool) :=
  match S.cnsiTokenRecord cnsiGUID userGUID with
  | none => .ok (none, none, false)
  | some cfTokenRecord => do
    let (cnsiUser, ok) ← S.getCNSIUserFromToken cnsiGUID cfTokenRecord
    let cnsiUser ← santizeInfoForSystemSharedTokenUser cnsiUser cfTokenRecord.systemShared
    return (cnsiUser, some cfTokenRecord, ok)

/-- The detail of an endpoint in `getInfo`. -/
def endpointDetail (userGUID : String) (cnsi : CNSIRecord) : Except GoError EndpointDetail := do
  let (cnsiUser, token, ok) ← S.getCNSIUserAndToken cnsi.guid userGUID
  if ok then
    let token ← dereference token
    return { cnsiRecord := cnsi, user := cnsiUser, tokenMetadata := token.metadata,
             systemSharedToken := token.systemShared }
  else return { cnsiRecord := cnsi }

/-- One round of the loop of `getInfo` over the endpoints. -/
def addEndpoint (userGUID : String) (endpoints : JsObject (JsObject EndpointDetail))
    (cnsi : CNSIRecord) : Except GoError (JsObject (JsObject EndpointDetail)) := do
  let endpoint ← S.endpointDetail userGUID cnsi
  match endpoints.get? cnsi.cnsiType with
  | none => .error nilMapWrite
  | some ofType => return endpoints.set cnsi.cnsiType (ofType.set cnsi.guid endpoint)

/-- The maps of `getInfo` before the loop, one for each type. -/
def initEndpoints : JsObject (JsObject EndpointDetail) :=
  S.endpointTypes.foldl (fun endpoints type => endpoints.set type .empty) .empty

/-- `getInfo`, with the user of the session or the text of its error. -/
def getInfo (session : Except String String) : Except GoError (Info D) := do
  let versions ← S.versions.mapError fun _ => .new "Could not find database version"
  let userGUID ← session.mapError fun _ => .new "Could not find session user_id"
  let uaaUser ← (S.getUAAUser userGUID).mapError
    (GoError.answeredBy "Could not load session user data")
  let endpoints ← S.cnsiList.foldlM (S.addEndpoint userGUID) S.initEndpoints
  let info : Info D :=
    { versions := versions, user := uaaUser, endpoints := endpoints,
      -- Only add diagnostics information if the user is an admin
      diagnostics := if uaaUser.admin then some S.diagnostics else none }
  -- Allow plugin to modify the info data
  return S.updateMetadata.foldl (fun info update => update info userGUID) info

end Stored

/-- The settings that `handleSessionError` reads. -/
structure SSOConfig where
  ssoLogin : Bool
  ssoOptions : String

/-- What a handler of the middleware does. -/
inductive MiddlewareOutcome (R : Type)
  /-- The handler that is wrapped runs. -/
  | handled (r : R)
  /-- An answer without a body. -/
  | noContent (status : ℕ)
  /-- An error, with the header for SSO if it is set. -/
  | failed (ssoHeader : Option String) (e : GoError)

/-- `handleSessionError`, with the text of the error if there is one. -/
def handleSessionError {R : Type} (config : SSOConfig) (err : Option String) (doNotLog : Bool) :
    MiddlewareOutcome R :=
  let options := if config.ssoOptions ≠ "" then config.ssoOptions else "enabled"
  let header := if config.ssoLogin then some options else none
  match err with
  | none => .failed header nilDereference
  | some text =>
    if contains text "dial tcp" then
      .failed header (.shadow 503 "Service is currently unavailable"
        ("Service is currently unavailable: " ++ text))
    else
      .failed header (.shadow 401 "User session could not be found"
        (if doNotLog then "" else "User session could not be found: " ++ text))

/-- `adminMiddleware`, with the user of the session or the text of its error. -/
def Stored.adminMiddleware {D R : Type} (S : Stored D) (config : SSOConfig)
    (session : Except String String) (h : R) : MiddlewareOutcome R :=
  match session with
  | .error err => handleSessionError config (some err) false
  | .ok userID =>
    -- check their admin status in UAA
    match S.getUAAUser userID with
    | .error (.exit msg) => .failed none (.exit msg)
    | .error _ => .noContent 401
    | .ok u => if u.admin then .handled h else handleSessionError config none false

/-! ## What is stored -/

namespace Stored

variable {D : Type} (S : Stored D)

/-- The second part of a token. -/
def payload (tok : Bytes) : Option Bytes :=
  match (trimPrefix tok (goBytes "bearer ")).splitOn '.'.toUInt8 with
  | _ :: payload :: _ :: _ => S.proxy.decodeBase64 payload
  | _ => none

/-- The claims of the token are `null`. -/
def IsNullToken (tok : Bytes) : Prop := ∃ text, S.payload tok = some text ∧ isNull text = true

/-- The claims of a token. -/
def claims (tok : Bytes) : Option JWTUserTokenInfo := do
  let text ← S.payload tok
  if isNull text then none else S.proxy.unmarshalUserTokenInfo text

/-- The user of the session is an administrator of the console : one of the scopes is the
administrator's. -/
def IsAdmin (userID : String) : Prop :=
  ∃ tr u, S.uaaTokenRecord userID = .ok tr ∧ S.claims tr.authToken = some u ∧
    S.proxy.consoleConfig.consoleAdminScope ∈ u.scope

/-- The token of an endpoint says who its user is. -/
def HasUser (cnsiGUID : String) (tr : TokenRecord) : Prop :=
  tr.authType = authTypeHttpBasic ∨
    ∃ u cnsi, S.claims tr.authToken = some u ∧ S.cnsiRecord cnsiGUID = .ok cnsi

/-- The user of an endpoint can be determined. -/
def EndpointUserKnown (cnsiGUID userGUID : String) : Prop :=
  ∃ tr, S.cnsiTokenRecord cnsiGUID userGUID = some tr ∧ S.HasUser cnsiGUID tr

/-! ### What is expected -/

/-- A token gives an error or the data of the user. -/
def TokenInfoSound (tok : Bytes) : Prop := S.getUserTokenInfo tok ≠ .ok none

/-- The user of an endpoint is found exactly when there is one. -/
def EndpointUserSound (cnsiGUID userGUID : String) : Prop :=
  ∃ user token ok, S.getCNSIUserAndToken cnsiGUID userGUID = .ok (user, token, ok) ∧
    (ok = false ↔ ¬S.EndpointUserKnown cnsiGUID userGUID)

/-- The info of a session does not end the process. -/
def InfoSound (session : Except String String) : Prop :=
  ∀ e, S.getInfo session = .error e → ¬e.IsExit

/-- The handler runs for administrators, and the others get an error. -/
structure AdminSound {R : Type} (config : SSOConfig) (session : Except String String) (h : R) :
    Prop where
  admin : ∀ userID, session = .ok userID → S.IsAdmin userID →
    S.adminMiddleware config session h = .handled h
  other : (∀ userID, session = .ok userID → ¬S.IsAdmin userID) →
    S.adminMiddleware config session h = .noContent 401 ∨
      ∃ header e, S.adminMiddleware config session h = .failed header e ∧ ¬e.IsExit

/-! ### When it is so -/

/-- The token of the endpoint is not read through a nil pointer. -/
structure EndpointSafe (cnsiGUID userGUID : String) : Prop where
  claims : ∀ tr, S.cnsiTokenRecord cnsiGUID userGUID = some tr →
    tr.authType ≠ authTypeHttpBasic → ¬S.IsNullToken tr.authToken
  shared : ∀ tr, S.cnsiTokenRecord cnsiGUID userGUID = some tr →
    tr.systemShared = true → S.HasUser cnsiGUID tr

/-- The token of the session's user is not `null`, and if it is read then each endpoint has a type
with a plugin and a token that is safe. -/
def InfoSafe (session : Except String String) : Prop :=
  ∀ versions userGUID tr, S.versions = .ok versions → session = .ok userGUID →
    S.uaaTokenRecord userGUID = .ok tr →
      ¬S.IsNullToken tr.authToken ∧ ∀ u, S.claims tr.authToken = some u →
        ∀ cnsi ∈ S.cnsiList, S.EndpointSafe cnsi.guid userGUID ∧ cnsi.cnsiType ∈ S.endpointTypes

/-- The claims of the session's user, if they can be read, are those of an administrator. -/
def AdminSafe (session : Except String String) : Prop :=
  ∀ userID tr, session = .ok userID → S.uaaTokenRecord userID = .ok tr →
    ¬S.IsNullToken tr.authToken ∧ ∀ u, S.claims tr.authToken = some u → S.IsAdmin userID

/-! ## Tokens -/

section Tokens

/-- What `GetUserTokenInfo` returns. -/
theorem getUserTokenInfo_cases (tok : Bytes) :
    (S.IsNullToken tok ∧ S.claims tok = none ∧ S.getUserTokenInfo tok = .ok none) ∨
    (¬S.IsNullToken tok ∧ ∃ u, S.claims tok = some u ∧ S.getUserTokenInfo tok = .ok (some u)) ∨
    (¬S.IsNullToken tok ∧ S.claims tok = none ∧
      ∃ msg, S.getUserTokenInfo tok = .error (.new msg)) := by
  simp only [IsNullToken, claims, payload, getUserTokenInfo]
  generalize (trimPrefix tok (goBytes "bearer ")).splitOn '.'.toUInt8 = splits
  rcases splits with _ | ⟨header, _ | ⟨payload, _ | ⟨signature, rest⟩⟩⟩
  · simp
  · simp
  · simp
  · dsimp only
    cases S.proxy.decodeBase64 payload with
    | none => simp
    | some text =>
      by_cases hnull : isNull text = true
      · simp [hnull]
      · cases hu : S.proxy.unmarshalUserTokenInfo text with
        | none => simp [hnull, hu]
        | some u => simp [hnull, hu]

theorem tokenInfoSound_iff (tok : Bytes) : S.TokenInfoSound tok ↔ ¬S.IsNullToken tok := by
  obtain ⟨h, -, hinfo⟩ | ⟨h, u, -, hinfo⟩ | ⟨h, -, msg, hinfo⟩ := S.getUserTokenInfo_cases tok
  · simp [TokenInfoSound, hinfo, h]
  · simp [TokenInfoSound, hinfo, h]
  · simp [TokenInfoSound, hinfo, h]

end Tokens

/-! ## The user of an endpoint -/

section EndpointUser

variable {S} {cnsiGUID userGUID : String} {tr : TokenRecord}

/-- What `GetCNSIUserFromToken` returns. -/
theorem getCNSIUserFromToken_cases (S : Stored D) (cnsiGUID : String) (tr : TokenRecord) :
    (tr.authType ≠ authTypeHttpBasic ∧ S.IsNullToken tr.authToken ∧
      S.getCNSIUserFromToken cnsiGUID tr = .error nilDereference) ∨
    ((tr.authType ≠ authTypeHttpBasic → ¬S.IsNullToken tr.authToken) ∧ S.HasUser cnsiGUID tr ∧
      ∃ user, S.getCNSIUserFromToken cnsiGUID tr = .ok (some user, true)) ∨
    ((tr.authType ≠ authTypeHttpBasic → ¬S.IsNullToken tr.authToken) ∧ ¬S.HasUser cnsiGUID tr ∧
      S.getCNSIUserFromToken cnsiGUID tr = .ok (none, false)) := by
  rw [getCNSIUserFromToken]
  split_ifs with hbasic
  · exact Or.inr (Or.inl ⟨fun h => absurd hbasic h, Or.inl hbasic, _, rfl⟩)
  rw [getCNSIUserFromOAuthToken]
  obtain ⟨h, -, hinfo⟩ | ⟨h, u, hu, hinfo⟩ | ⟨h, hclaims, msg, hinfo⟩ :=
    S.getUserTokenInfo_cases tr.authToken
  · exact Or.inl ⟨hbasic, h, by rw [hinfo]; rfl⟩
  · cases hcnsi : S.cnsiRecord cnsiGUID with
    | error e =>
      refine Or.inr (Or.inr ⟨fun _ => h, ?_, by simp [hinfo, dereference]⟩)
      rintro (h | ⟨u, cnsi, -, hok⟩)
      · exact hbasic h
      · rw [hcnsi] at hok
        cases hok
    | ok cnsi =>
      refine Or.inr (Or.inl ⟨fun _ => h, Or.inr ⟨u, cnsi, hu, hcnsi⟩, ?_⟩)
      rw [hinfo]
      simp only [dereference, ok_bind]
      split_ifs
      · exact ⟨_, rfl⟩
      · exact ⟨_, rfl⟩
  · refine Or.inr (Or.inr ⟨fun _ => h, ?_, by rw [hinfo]⟩)
    rintro (h | ⟨u, cnsi, hu, -⟩)
    · exact hbasic h
    · rw [hclaims] at hu
      cases hu

theorem santize_of_some (user : ConnectedUser) (isSysystemShared : Bool) :
    ∃ user', santizeInfoForSystemSharedTokenUser (some user) isSysystemShared =
      .ok (some user') := by
  cases isSysystemShared
  · exact ⟨_, rfl⟩
  · exact ⟨_, rfl⟩

theorem endpointSafe_of_token (htoken : S.cnsiTokenRecord cnsiGUID userGUID = some tr)
    (hclaims : tr.authType ≠ authTypeHttpBasic → ¬S.IsNullToken tr.authToken)
    (hshared : tr.systemShared = true → S.HasUser cnsiGUID tr) :
    S.EndpointSafe cnsiGUID userGUID := by
  constructor
  · intro tr' htr'
    obtain rfl : tr = tr' := Option.some.inj (htoken.symm.trans htr')
    exact hclaims
  · intro tr' htr'
    obtain rfl : tr = tr' := Option.some.inj (htoken.symm.trans htr')
    exact hshared

/-- What `GetCNSIUserAndToken` returns. -/
theorem getCNSIUserAndToken_cases (S : Stored D) (cnsiGUID userGUID : String) :
    (S.EndpointSafe cnsiGUID userGUID ∧ ∃ user token ok,
      S.getCNSIUserAndToken cnsiGUID userGUID = .ok (user, token, ok) ∧
        (ok = true → token ≠ none) ∧ (ok = false ↔ ¬S.EndpointUserKnown cnsiGUID userGUID)) ∨
    (¬S.EndpointSafe cnsiGUID userGUID ∧
      S.getCNSIUserAndToken cnsiGUID userGUID = .error nilDereference) := by
  rw [getCNSIUserAndToken]
  cases htoken : S.cnsiTokenRecord cnsiGUID userGUID with
  | none =>
    have hsafe : S.EndpointSafe cnsiGUID userGUID := by
      constructor <;> simp [htoken]
    exact Or.inl ⟨hsafe, none, none, false, rfl, by simp, by simp [EndpointUserKnown, htoken]⟩
  | some tr =>
    obtain ⟨hbasic, hnull, hfrom⟩ | ⟨hclaims, hknown, user, hfrom⟩ | ⟨hclaims, hunknown, hfrom⟩ :=
      S.getCNSIUserFromToken_cases cnsiGUID tr
    · exact Or.inr ⟨fun hsafe => hsafe.claims tr htoken hbasic hnull, by simp [hfrom]⟩
    · obtain ⟨user', hsantize⟩ := santize_of_some user tr.systemShared
      have hsafe := endpointSafe_of_token htoken hclaims fun _ => hknown
      refine Or.inl ⟨hsafe, some user', some tr, true, by simp [hfrom, hsantize], by simp, ?_⟩
      simpa using ⟨tr, htoken, hknown⟩
    · cases hshared : tr.systemShared with
      | true =>
        refine Or.inr ⟨fun hsafe => hunknown (hsafe.shared tr htoken hshared), ?_⟩
        simp [hfrom, santizeInfoForSystemSharedTokenUser, dereference, hshared]
      | false =>
        have hsafe := endpointSafe_of_token htoken hclaims fun h => by simp [hshared] at h
        refine Or.inl ⟨hsafe, none, some tr, false, ?_, by simp, ?_⟩
        · simp [hfrom, santizeInfoForSystemSharedTokenUser, hshared]
        · simp [EndpointUserKnown, htoken, hunknown]

theorem endpointUserSound_iff (S : Stored D) (cnsiGUID userGUID : String) :
    S.EndpointUserSound cnsiGUID userGUID ↔ S.EndpointSafe cnsiGUID userGUID := by
  obtain ⟨hsafe, user, token, ok, hok, -, hknown⟩ | ⟨hsafe, herror⟩ :=
    S.getCNSIUserAndToken_cases cnsiGUID userGUID
  · exact iff_of_true ⟨user, token, ok, hok, hknown⟩ hsafe
  · refine iff_of_false ?_ hsafe
    rintro ⟨user, token, ok, hok, -⟩
    rw [herror] at hok
    cases hok

end EndpointUser

/-! ## The information -/

section Info

variable {S} {userGUID : String} {endpoints : JsObject (JsObject EndpointDetail)}
  {cnsi : CNSIRecord}

/-- A round of the loop succeeds for a safe endpoint with a map, and keeps the types. -/
theorem addEndpoint_cases (S : Stored D) (userGUID : String)
    (endpoints : JsObject (JsObject EndpointDetail)) (cnsi : CNSIRecord) :
    ((S.EndpointSafe cnsi.guid userGUID ∧ cnsi.cnsiType ∈ endpoints.keys) ∧
      ∃ endpoints', S.addEndpoint userGUID endpoints cnsi = .ok endpoints' ∧
        endpoints'.keys = endpoints.keys) ∨
    (¬(S.EndpointSafe cnsi.guid userGUID ∧ cnsi.cnsiType ∈ endpoints.keys) ∧
      ∃ e, S.addEndpoint userGUID endpoints cnsi = .error e ∧ e.IsExit) := by
  obtain ⟨hsafe, user, token, ok, hok, htoken, -⟩ | ⟨hsafe, herror⟩ :=
    S.getCNSIUserAndToken_cases cnsi.guid userGUID
  · obtain ⟨endpoint, hdetail⟩ : ∃ endpoint, S.endpointDetail userGUID cnsi = .ok endpoint := by
      rw [endpointDetail, hok]
      cases ok with
      | false => exact ⟨_, rfl⟩
      | true =>
        obtain ⟨token, rfl⟩ := Option.ne_none_iff_exists'.1 (htoken rfl)
        exact ⟨_, rfl⟩
    rw [addEndpoint, hdetail]
    cases hmap : endpoints.get? cnsi.cnsiType with
    | none =>
      have hkey : cnsi.cnsiType ∉ endpoints.keys := JsObject.get?_eq_none_iff.1 hmap
      exact Or.inr ⟨fun h => hkey h.2, _, rfl, _, rfl⟩
    | some ofType =>
      have hkey : cnsi.cnsiType ∈ endpoints.keys := JsObject.mem_keys_of_get? hmap
      exact Or.inl ⟨⟨hsafe, hkey⟩, _, rfl, by simp [JsObject.keys_set, hkey]⟩
  · refine Or.inr ⟨fun h => hsafe h.1, nilDereference, ?_, _, rfl⟩
    rw [addEndpoint, endpointDetail, herror]
    rfl

theorem addEndpoints_cases (S : Stored D) (userGUID : String) (cnsiList : List CNSIRecord)
    (endpoints : JsObject (JsObject EndpointDetail)) :
    ((∀ cnsi ∈ cnsiList, S.EndpointSafe cnsi.guid userGUID ∧ cnsi.cnsiType ∈ endpoints.keys) ∧
      ∃ endpoints', cnsiList.foldlM (S.addEndpoint userGUID) endpoints = .ok endpoints') ∨
    ((¬∀ cnsi ∈ cnsiList, S.EndpointSafe cnsi.guid userGUID ∧ cnsi.cnsiType ∈ endpoints.keys) ∧
      ∃ e, cnsiList.foldlM (S.addEndpoint userGUID) endpoints = .error e ∧ e.IsExit) := by
  induction cnsiList generalizing endpoints with
  | nil => exact Or.inl ⟨by simp, _, rfl⟩
  | cons cnsi cnsiList ih =>
    rw [List.foldlM_cons, List.forall_mem_cons]
    obtain ⟨hcnsi, endpoints', hround, hkeys⟩ | ⟨hcnsi, e, hround, hexit⟩ :=
      S.addEndpoint_cases userGUID endpoints cnsi
    · rw [hround, ok_bind, ← hkeys]
      rw [← hkeys] at hcnsi
      obtain ⟨hlist, h⟩ | ⟨hlist, h⟩ := ih endpoints'
      · exact Or.inl ⟨⟨hcnsi, hlist⟩, h⟩
      · exact Or.inr ⟨fun hall => hlist hall.2, h⟩
    · exact Or.inr ⟨fun hall => hcnsi hall.1, e, by rw [hround, error_bind], hexit⟩

theorem mem_keys_initEndpoints (S : Stored D) (type : String) :
    type ∈ S.initEndpoints.keys ↔ type ∈ S.endpointTypes := by
  have hfold : ∀ (types : List String) (endpoints : JsObject (JsObject EndpointDetail)),
      type ∈ (types.foldl (fun endpoints t => endpoints.set t .empty) endpoints).keys ↔
        type ∈ types ∨ type ∈ endpoints.keys := by
    intro types endpoints
    induction types generalizing endpoints with
    | nil => simp
    | cons t types ih =>
      rw [List.foldl_cons, ih, JsObject.mem_keys_set, List.mem_cons]
      tauto
  simp [initEndpoints, hfold]

theorem not_isExit_new (msg : String) : ¬(GoError.new msg).IsExit := by
  rintro ⟨msg', h⟩
  cases h

/-- What `GetUAAUser` returns for a session's user with a token. -/
theorem getUAAUser_cases {tr : TokenRecord} (htr : S.uaaTokenRecord userGUID = .ok tr) :
    (S.IsNullToken tr.authToken ∧ S.claims tr.authToken = none ∧
      S.getUAAUser userGUID = .error nilDereference) ∨
    (¬S.IsNullToken tr.authToken ∧ ∃ u user, S.claims tr.authToken = some u ∧
      S.getUAAUser userGUID = .ok user ∧ (S.IsAdmin userGUID → user.admin = true)) ∨
    (¬S.IsNullToken tr.authToken ∧ S.claims tr.authToken = none ∧
      ∃ e, S.getUAAUser userGUID = .error e ∧ ¬e.IsExit) := by
  rw [getUAAUser, htr]
  obtain ⟨h, hclaims, hinfo⟩ | ⟨h, u, hu, hinfo⟩ | ⟨h, hclaims, msg, hinfo⟩ :=
    S.getUserTokenInfo_cases tr.authToken
  · exact Or.inl ⟨h, hclaims, by simp [hinfo, dereference]⟩
  · refine Or.inr (Or.inl ⟨h, u, _, hu, by simp [hinfo, dereference]; rfl, ?_⟩)
    rintro ⟨tr', u', htr', hu', hadmin⟩
    obtain rfl : tr = tr' := Except.ok.inj (htr.symm.trans htr')
    obtain rfl : u = u' := Option.some.inj (hu.symm.trans hu')
    -- A scope that is there is found in the joined scopes.
    exact (contains_join_iff (by decide)).2 (Or.inl ⟨_, hadmin, contains_self _⟩)
  · refine Or.inr (Or.inr ⟨h, hclaims, _, by simp [hinfo]; rfl, ?_⟩)
    rintro ⟨msg', h⟩
    cases h

theorem getUAAUser_of_error {e : GoError} (htr : S.uaaTokenRecord userGUID = .error e) :
    ∃ e, S.getUAAUser userGUID = .error e ∧ ¬e.IsExit := by
  refine ⟨_, by rw [getUAAUser, htr]; rfl, ?_⟩
  rintro ⟨msg, h⟩
  cases h

theorem infoSound_of_error {session : Except String String} {e : GoError}
    (h : S.getInfo session = .error e) (he : ¬e.IsExit) : S.InfoSound session := by
  intro e' h'
  obtain rfl : e = e' := Except.error.inj (h.symm.trans h')
  exact he

theorem not_isExit_answeredBy {e : GoError} (he : ¬e.IsExit) (msg : String) :
    ¬(e.answeredBy msg).IsExit := by
  cases e with
  | exit reason => exact absurd ⟨reason, rfl⟩ he
  | _ => exact not_isExit_new msg

theorem infoSound_of_user_error {versions : Versions} {e : GoError}
    (hversions : S.versions = .ok versions) (huser : S.getUAAUser userGUID = .error e)
    (he : ¬e.IsExit) : S.InfoSound (.ok userGUID) := by
  refine infoSound_of_error ?_ (not_isExit_answeredBy he "Could not load session user data")
  rw [getInfo, hversions, mapError_ok, ok_bind, mapError_ok, ok_bind, huser]
  rfl

/-- The information of a user is there when the loop over the endpoints ends. -/
theorem getInfo_of_user {versions : Versions} {user : ConnectedUser}
    (hversions : S.versions = .ok versions) (huser : S.getUAAUser userGUID = .ok user) :
    ∃ f : JsObject (JsObject EndpointDetail) → Info D, S.getInfo (.ok userGUID) =
      S.cnsiList.foldlM (S.addEndpoint userGUID) S.initEndpoints >>= fun es => .ok (f es) := by
  rw [getInfo, hversions, mapError_ok, ok_bind, mapError_ok, ok_bind, huser]
  exact ⟨_, rfl⟩

theorem infoSound_iff (S : Stored D) (session : Except String String) :
    S.InfoSound session ↔ S.InfoSafe session := by
  cases hversions : S.versions with
  | error e =>
    have hinfo : S.getInfo session = .error (.new "Could not find database version") := by
      rw [getInfo, hversions]
      rfl
    refine iff_of_true (infoSound_of_error hinfo (not_isExit_new _)) ?_
    intro versions userGUID tr hok
    rw [hversions] at hok
    cases hok
  | ok versions =>
  cases session with
  | error e =>
    have hinfo : S.getInfo (.error e) = .error (.new "Could not find session user_id") := by
      rw [getInfo, hversions]
      rfl
    refine iff_of_true (infoSound_of_error hinfo (not_isExit_new _)) ?_
    intro versions userGUID tr _ hok
    cases hok
  | ok userGUID =>
  cases htr : S.uaaTokenRecord userGUID with
  | error e =>
    obtain ⟨e', huser, he'⟩ := getUAAUser_of_error htr
    refine iff_of_true (infoSound_of_user_error hversions huser he') ?_
    rintro versions userGUID' tr - ⟨rfl⟩ hok
    rw [htr] at hok
    cases hok
  | ok tr =>
  have hsafe : S.InfoSafe (.ok userGUID) ↔ ¬S.IsNullToken tr.authToken ∧
      ∀ u, S.claims tr.authToken = some u → ∀ cnsi ∈ S.cnsiList,
        S.EndpointSafe cnsi.guid userGUID ∧ cnsi.cnsiType ∈ S.endpointTypes := by
    constructor
    · intro h
      exact h versions userGUID tr hversions rfl htr
    · rintro h versions' userGUID' tr' - ⟨rfl⟩ htr'
      obtain rfl : tr = tr' := Except.ok.inj (htr.symm.trans htr')
      exact h
  rw [hsafe]
  obtain ⟨hnull, -, huser⟩ | ⟨hnull, u, user, hu, huser, -⟩ | ⟨hnull, hclaims, e, huser, he⟩ :=
    getUAAUser_cases htr
  · refine iff_of_false (fun h => ?_) fun h => h.1 hnull
    refine h nilDereference ?_ ⟨_, rfl⟩
    rw [getInfo, hversions, mapError_ok, ok_bind, mapError_ok, ok_bind, huser]
    rfl
  · obtain ⟨f, hinfo⟩ := getInfo_of_user hversions huser
    have hloop := S.addEndpoints_cases userGUID S.cnsiList S.initEndpoints
    simp only [mem_keys_initEndpoints] at hloop
    obtain ⟨hall, endpoints, hloop⟩ | ⟨hall, e, hloop, hexit⟩ := hloop
    · refine iff_of_true ?_ ⟨hnull, fun _ _ => hall⟩
      intro e h
      rw [hinfo, hloop] at h
      cases h
    · refine iff_of_false (fun h => ?_) fun h => hall (h.2 u hu)
      refine h e ?_ hexit
      rw [hinfo, hloop]
      rfl
  · refine iff_of_true (infoSound_of_user_error hversions huser he) ⟨hnull, fun u hu => ?_⟩
    rw [hclaims] at hu
    cases hu

end Info

/-! ## The middleware -/

section Admin

variable {R : Type} {config : SSOConfig} {h : R}

theorem adminMiddleware_of_ok {S : Stored D} {userID : String} {user : ConnectedUser}
    (huser : S.getUAAUser userID = .ok user) : S.adminMiddleware config (.ok userID) h =
      if user.admin then .handled h else handleSessionError config none false := by
  rw [adminMiddleware, huser]

/-- An error of `GetUAAUser` is answered, and a panic goes on. -/
theorem adminMiddleware_of_error {S : Stored D} {userID : String} {e : GoError}
    (huser : S.getUAAUser userID = .error e) (he : ¬e.IsExit) :
    S.adminMiddleware config (.ok userID) h = .noContent 401 := by
  rw [adminMiddleware, huser]
  cases e with
  | exit reason => exact absurd ⟨reason, rfl⟩ he
  | _ => rfl

theorem handleSessionError_some (config : SSOConfig) (text : String) (doNotLog : Bool) :
    ∃ header e, (handleSessionError config (some text) doNotLog : MiddlewareOutcome R) =
      .failed header e ∧ ¬e.IsExit := by
  rw [handleSessionError]
  split_ifs <;> exact ⟨_, _, rfl, by rintro ⟨msg, h⟩; cases h⟩

theorem not_isAdmin {S : Stored D} {userID : String} {tr : TokenRecord}
    (htr : S.uaaTokenRecord userID = .ok tr) (hclaims : S.claims tr.authToken = none) :
    ¬S.IsAdmin userID := by
  rintro ⟨tr', u, htr', hu, -⟩
  obtain rfl : tr = tr' := Except.ok.inj (htr.symm.trans htr')
  rw [hclaims] at hu
  cases hu

/-- The middleware is sound for a user that is no administrator if the user is answered. -/
theorem adminSound_of_answer {S : Stored D} {userID : String} (hnot : ¬S.IsAdmin userID)
    (hanswer : S.adminMiddleware config (.ok userID) h = .noContent 401) :
    S.AdminSound config (.ok userID) h := by
  refine ⟨?_, fun _ => Or.inl hanswer⟩
  rintro _ ⟨rfl⟩ hadmin
  exact absurd hadmin hnot

theorem not_adminSound_of_exit {S : Stored D} {userID : String} {header : Option String}
    (hnot : ¬S.IsAdmin userID)
    (hpanic : S.adminMiddleware config (.ok userID) h = .failed header nilDereference) :
    ¬S.AdminSound config (.ok userID) h := by
  intro hsound
  have hother := hsound.other (by rintro _ ⟨rfl⟩; exact hnot)
  rw [hpanic] at hother
  obtain hother | ⟨_, _, ⟨rfl, rfl⟩, hexit⟩ := hother
  · cases hother
  · exact hexit ⟨_, rfl⟩

theorem not_adminSound_of_handled {S : Stored D} {userID : String} (hnot : ¬S.IsAdmin userID)
    (hhandled : S.adminMiddleware config (.ok userID) h = .handled h) :
    ¬S.AdminSound config (.ok userID) h := by
  intro hsound
  have hother := hsound.other (by rintro _ ⟨rfl⟩; exact hnot)
  rw [hhandled] at hother
  obtain hother | ⟨_, _, hother, -⟩ := hother
  · cases hother
  · cases hother

theorem adminSound_iff (S : Stored D) (config : SSOConfig) (session : Except String String)
    (h : R) : S.AdminSound config session h ↔ S.AdminSafe session := by
  cases session with
  | error text =>
    exact iff_of_true ⟨nofun, fun _ => Or.inr (handleSessionError_some config text false)⟩ nofun
  | ok userID =>
  cases htr : S.uaaTokenRecord userID with
  | error e =>
    obtain ⟨e', huser, he'⟩ := getUAAUser_of_error htr
    have hnot : ¬S.IsAdmin userID := by
      rintro ⟨tr, u, hok, -⟩
      rw [htr] at hok
      cases hok
    refine iff_of_true (adminSound_of_answer hnot (adminMiddleware_of_error huser he')) ?_
    rintro _ tr ⟨rfl⟩ hok
    rw [htr] at hok
    cases hok
  | ok tr =>
  have hsafe : S.AdminSafe (.ok userID) ↔ ¬S.IsNullToken tr.authToken ∧
      ∀ u, S.claims tr.authToken = some u → S.IsAdmin userID := by
    constructor
    · intro h
      exact h userID tr rfl htr
    · rintro h _ tr' ⟨rfl⟩ htr'
      obtain rfl : tr = tr' := Except.ok.inj (htr.symm.trans htr')
      exact h
  rw [hsafe]
  obtain ⟨hnull, hclaims, huser⟩ | ⟨hnull, u, user, hu, huser, hadmin⟩ |
    ⟨hnull, hclaims, e, huser, he⟩ := getUAAUser_cases htr
  · have hpanic : S.adminMiddleware config (.ok userID) h = .failed none nilDereference := by
      rw [adminMiddleware, huser]
      rfl
    exact iff_of_false (not_adminSound_of_exit (not_isAdmin htr hclaims) hpanic) fun h => h.1 hnull
  · have hmiddleware : S.adminMiddleware config (.ok userID) h =
        if user.admin then .handled h else handleSessionError config none false :=
      adminMiddleware_of_ok huser
    by_cases hisAdmin : S.IsAdmin userID
    · rw [if_pos (hadmin hisAdmin)] at hmiddleware
      refine iff_of_true ⟨?_, fun hother => ?_⟩ ⟨hnull, fun _ _ => hisAdmin⟩
      · rintro _ ⟨rfl⟩ -
        exact hmiddleware
      · exact absurd hisAdmin (hother userID rfl)
    · refine iff_of_false ?_ fun h => hisAdmin (h.2 u hu)
      by_cases hfound : user.admin = true
      · -- The scopes spell the name.
        rw [if_pos hfound] at hmiddleware
        exact not_adminSound_of_handled hisAdmin hmiddleware
      · -- The session has no error that could be answered.
        rw [if_neg hfound] at hmiddleware
        exact not_adminSound_of_exit hisAdmin hmiddleware
  · have hsound : S.AdminSound config (.ok userID) h :=
      adminSound_of_answer (not_isAdmin htr hclaims) (adminMiddleware_of_error huser he)
    refine iff_of_true hsound ⟨hnull, fun u hu => ?_⟩
    rw [hclaims] at hu
    cases hu

end Admin

/-- A user of the console that is no administrator. -/
def reader : Stored Unit where
  proxy := samplePortalProxy
  versions := .ok ⟨"dev", 0⟩
  diagnostics := ()
  uaaTokenRecord _ := .ok (initEndpointTokenRecord 0 sampleToken [] false)
  cnsiTokenRecord _ _ := none
  cnsiRecord _ := .error (.new "No match for that Endpoint")
  cnsiList := []
  endpointTypes := []
  updateMetadata := []

/-- Each part of the user information is right under its own exact condition. -/
theorem userInformation_iff {R : Type} (S : Stored D) (tok : Bytes) (cnsiGUID userGUID : String)
    (config : SSOConfig) (session : Except String String) (h : R) :
    (S.TokenInfoSound tok ↔ ¬S.IsNullToken tok) ∧
      (S.EndpointUserSound cnsiGUID userGUID ↔ S.EndpointSafe cnsiGUID userGUID) ∧
      (S.InfoSound session ↔ S.InfoSafe session) ∧
      (S.AdminSound config session h ↔ S.AdminSafe session) :=
  ⟨S.tokenInfoSound_iff tok, S.endpointUserSound_iff cnsiGUID userGUID, S.infoSound_iff session,
    S.adminSound_iff config session h⟩

/-- The error of the session is nil when the user is no administrator. -/
theorem not_adminSound_reader : ¬reader.AdminSound ⟨false, ""⟩ (.ok "user") () := by
  have hclaims : reader.claims sampleToken = some sampleInfo := by decide
  have huser : reader.getUAAUser "user" = .ok ⟨"user", "", false, []⟩ := by decide
  have hnot : ¬reader.IsAdmin "user" := by
    rintro ⟨tr, u, ⟨rfl⟩, hu, hadmin⟩
    obtain rfl : sampleInfo = u := Option.some.inj (hclaims.symm.trans hu)
    exact absurd hadmin List.not_mem_nil
  exact not_adminSound_of_exit hnot (adminMiddleware_of_ok huser)

end Stored

end Stratos
