import Stratos.Jetstream.Endpoints

/-!
# Login and connection

The handlers of a user's session: the login to the console with its hook, which registers
and connects the Cloud Foundry of the configuration, connecting and disconnecting an
endpoint, and the refresh of the console's own token.

A token is saved under the GUID of the session's user. An administrator may connect an
endpoint for everyone: `DoLoginToCNSI` and `logoutOfCNSI` then use the GUID of the
system-shared user instead.
-/

namespace Stratos

open Lib

/-- `interfaces.ConnectedUser`. -/
structure ConnectedUser where
  guid : String
  name : String
  admin : Bool := false
  scopes : List String := []
  deriving DecidableEq, Repr

/-- `interfaces.LoginRes`. -/
structure LoginRes where
  account : String
  tokenExpiry : ℤ
  apiEndpoint : Option URL
  admin : Bool
  user : Option ConnectedUser
  deriving DecidableEq, Repr

/-- What a login takes from the random readers : for the console's token, the secret of a
new endpoint and the token of that endpoint. -/
structure LoginEntropy where
  console : Entropy
  endpointIV : Except GoError IV
  endpoint : Entropy

/-- `strings.Contains`. -/
def contains (s substr : String) : Bool := decide (substr.toList <:+: s.toList)

/-- `strings.Join`. -/
def join (s : List String) (sep : String) : String := sep.intercalate s

namespace PortalProxy

variable (P : PortalProxy)

/-! ## Users -/

/-- `GetUAAUser`. -/
def getUAAUser (userGUID : String) : Db ConnectedUser := do
  let uaaTokenRecord ← (P.getUAATokenRecord userGUID).mapError fun _ =>
    .new "Unable to retrieve UAA token record."
  let userTokenInfo ← Prog.ret <| (P.getUserTokenInfo uaaTokenRecord.authToken).mapError
    (.wrap "Unable to find scope information in the UAA Auth Token: ")
  -- is the user a UAA admin?
  let uaaAdmin := contains (join userTokenInfo.scope "") P.consoleConfig.consoleAdminScope
  return { guid := userGUID, name := userTokenInfo.userName, admin := uaaAdmin,
           scopes := userTokenInfo.scope }

/-- `GetCNSIUserFromBasicToken`. -/
def getCNSIUserFromBasicToken (cfTokenRecord : TokenRecord) : ConnectedUser :=
  let refreshToken := (String.fromUTF8? ⟨cfTokenRecord.refreshToken.toArray⟩).getD ""
  { guid := refreshToken, name := refreshToken }

/-- `GetCNSIUserFromOAuthToken`. -/
def getCNSIUserFromOAuthToken (cnsiGUID : String) (cfTokenRecord : TokenRecord) :
    Db (Option ConnectedUser) :=
  match P.getUserTokenInfo cfTokenRecord.authToken with
  | .error _ => return none
  | .ok userTokenInfo => do
    let cnsiUser : ConnectedUser :=
      { guid := userTokenInfo.userGUID, name := userTokenInfo.userName,
        scopes := userTokenInfo.scope }
    -- is the user an CF admin?
    let found ← (P.getCNSIRecord cnsiGUID).attempt
    match found with
    | .error _ => return none
    | .ok cnsiRecord =>
      if cnsiRecord.cnsiType = "cf" then
        return some { cnsiUser with
          admin := contains (join userTokenInfo.scope "") P.cfAdminIdentifier }
      else
        return some cnsiUser

/-- `GetCNSIUserFromToken`. -/
def getCNSIUserFromToken (cnsiGUID : String) (cfTokenRecord : TokenRecord) :
    Db (Option ConnectedUser) :=
  -- Custom handler for the Auth type available?
  if cfTokenRecord.authType = authTypeHttpBasic then
    return some (getCNSIUserFromBasicToken cfTokenRecord)
  else P.getCNSIUserFromOAuthToken cnsiGUID cfTokenRecord

/-- `santizeInfoForSystemSharedTokenUser`. -/
def santizeInfoForSystemSharedTokenUser (cnsiUser : ConnectedUser) (isSysystemShared : Bool) :
    ConnectedUser :=
  if isSysystemShared then
    { cnsiUser with guid := systemSharedUserGuid, scopes := [], name := "system_shared" }
  else cnsiUser

/-! ## Connecting an endpoint -/

/-- `CloudFoundrySpecification.Connect`. -/
def cloudFoundryConnect (uaa : UAA) (ec : Context) (cnsiRecord : CNSIRecord) (_userId : String) :
    Except GoError (TokenRecord × Bool) :=
  if ec.formValue "connect_type" ≠ "" ∧ ec.formValue "connect_type" ≠ "creds" then
    .error (.new "Only username/password accepted for Cloud Foundry endpoints")
  else do
    let (uaaRes, u) ← (P.login uaa ec cnsiRecord.skipSSLValidation cnsiRecord.clientId
      cnsiRecord.clientSecret (cnsiRecord.authorizationEndpoint ++ "/oauth/token")).mapError
        (.shadowOf 401 "Login failed" "Login failed: ")
    let tokenRecord := initEndpointTokenRecord u.tokenExpiry uaaRes.accessToken
      uaaRes.refreshToken false
    let cfAdmin := match P.getUserTokenInfo tokenRecord.authToken with
      | .ok userTokenInfo => contains (join userTokenInfo.scope "") P.cfAdminIdentifier
      | .error _ => false
    return (tokenRecord, cfAdmin)

/-- The user under whose GUID `DoLoginToCNSI` saves the token. -/
def connectUserID (c : Context) (systemSharedToken : Bool) : Db String := do
  let userID ← Prog.ret <| c.userID.mapError fun _ =>
    .http 401 "Could not find correct session value"
  -- Register as a system endpoint?
  if systemSharedToken then
    -- User needs to be an admin
    let user ← (P.getUAAUser userID).mapError fun _ =>
      .http 401 "Can not connect System Shared endpoint - could not check user"
    if user.admin then return systemSharedUserGuid
    else .fail (.http 401 "Can not connect System Shared endpoint - user is not an administrator")
  else return userID

/-- `DoLoginToCNSI`. -/
def doLoginToCNSI (plugins : Plugins) (ent : Entropy) (c : Context) (cnsiGUID : String)
    (systemSharedToken : Bool) : Db LoginRes := do
  let cnsiRecord ← (P.getCNSIRecord cnsiGUID).mapError
    (.shadowOf 400 "Requested endpoint not registered"
      s!"No Endpoint registered with GUID {cnsiGUID}: ")
  let userID ← P.connectUserID c systemSharedToken
  -- Ask the endpoint type to connect
  match getEndpointTypeSpec plugins cnsiRecord.cnsiType with
  | none =>
    .fail (.shadow 400 "Endpoint connection not supported" "Endpoint connection not supported")
  | some endpointPlugin =>
    let (tokenRecord, isAdmin) ← Prog.ret <|
      (endpointPlugin.connect c cnsiRecord userID).mapError
        (.shadowOf 400 "Could not connect to the endpoint endpoint"
          "Could not connect to the endpoint endpoint: ")
    (P.setCNSITokenRecord ent cnsiGUID userID tokenRecord).mapError
      (.shadowOf 400 "Failed to save Token for endpoint" "Error occurred: ")
    let cnsiUser ← P.getCNSIUserFromToken cnsiGUID tokenRecord
    let user := match cnsiUser with
      | some cnsiUser => santizeInfoForSystemSharedTokenUser cnsiUser systemSharedToken
      -- Need to record a user
      | none => { guid := "Unknown", name := "Unknown", scopes := ["read"], admin := true }
    return ⟨userID, tokenRecord.tokenExpiry, some cnsiRecord.apiEndpoint, isAdmin, some user⟩

/-- `DoLoginToCNSIwithConsoleUAAtoken`. -/
def doLoginToCNSIwithConsoleUAAtoken (plugins : Plugins) (ent : Entropy) (c : Context)
    (theCNSIrecord : CNSIRecord) : Db Unit := do
  let userID ← Prog.ret <| c.userID.mapError fun _ =>
    .new "could not find correct session value"
  let uaaToken ← P.getUAATokenRecord userID
  let u ← Prog.ret <| (P.getUserTokenInfo uaaToken.authToken).mapError fun _ =>
    .new "could not parse current user UAA token"
  match getEndpointTypeSpec plugins "cf" with
  | none => .fail (.exit "invalid memory address or nil pointer dereference")
  | some cfEndpointSpec =>
    let cnsiInfo ← Prog.ret <|
      (cfEndpointSpec.info theCNSIrecord.apiEndpoint.string true).mapError fun _ =>
        .exit "Could not get the info for Cloud Foundry"
    let uaaUrl ← Prog.ret <| (P.parseURL cnsiInfo.authorizationEndpoint).mapError
      (.wrap s!"invalid authorization endpoint URL {cnsiInfo.authorizationEndpoint} ")
    if uaaUrl.string = P.consoleConfig.uaaEndpoint then
      -- CNSI UAA server matches Console UAA server
      let saved ← (P.setCNSITokenRecord ent theCNSIrecord.guid u.userGUID
        { uaaToken with linkedGUID := uaaToken.tokenGUID }).attempt
      -- Update the endpoint to indicate that SSO Login is okay
      let _ ← (updateCNSI theCNSIrecord.guid true).attempt
      -- Return error from the login
      Prog.ret saved
    else
      .fail (.new
        "the auto-registered endpoint UAA server does not match console UAA server")

/-- `loginToCNSI`. -/
def loginToCNSI (plugins : Plugins) (ent : Entropy) (c : Context) : Db LoginRes :=
  if c.formValue "cnsi_guid" = "" then
    .fail (.shadow 400 "Missing target endpoint" "Need Endpoint GUID passed as form param")
  else
    P.doLoginToCNSI plugins ent c (c.formValue "cnsi_guid") (c.formValue "system_shared" == "true")

/-- `ssoLoginToCNSI`, with the address it redirects to. -/
def ssoLoginToCNSI (plugins : Plugins) (ent : Entropy) (c : Context) : Db String :=
  if c.queryParam "guid" = "" then
    .fail (.shadow 400 "Missing target endpoint" "Need Endpoint GUID passed as form param")
  else do
    let _ ← Prog.ret <| c.userID.mapError fun _ =>
      .http 401 "Could not find correct session value"
    if c.queryParam "state" = "" then
      .fail (.shadow 401 "SSO Login: State parameter missing" "SSO Login: State parameter missing")
    else
      let endpointGUID := c.queryParam "guid"
      let cnsiRecord ← (P.getCNSIRecord endpointGUID).mapError
        (.shadowOf 400 "Requested endpoint not registered"
          s!"No Endpoint registered with GUID {endpointGUID}: ")
      -- Check if this is first time in the flow, or via the callback
      if c.queryParam "code" = "" then
        let returnURL ← Prog.ret <|
          P.getSSORedirectURI (c.queryParam "state") (c.queryParam "state") endpointGUID
        return cnsiRecord.authorizationEndpoint ++ "/oauth/authorize?response_type=code&client_id="
          ++ cnsiRecord.clientId ++ "&redirect_uri=" ++ P.queryEscape returnURL
      else
        let result ← (P.doLoginToCNSI plugins ent c endpointGUID false).attempt
        let status := if result.toBool then "ok" else "fail"
        return "/endpoints?cnsi_guid=" ++ endpointGUID ++ "&status=" ++ status

/-! ## Disconnecting an endpoint -/

/-- The user whose token `logoutOfCNSI` clears : the system-shared user when the token found
is shared. -/
def disconnectUserGUID (cnsiGUID userGUID : String) : Db String := do
  let found ← P.getCNSITokenRecord cnsiGUID userGUID
  if found.any (·.systemShared) then
    -- User needs to be an admin
    let user ← (P.getUAAUser userGUID).mapError fun _ =>
      .http 401 "Can not disconnect System Shared endpoint - could not check user"
    if user.admin then return systemSharedUserGuid
    else
      .fail (.http 401 "Can not disconnect System Shared endpoint - user is not an administrator")
  else return userGUID

/-- `logoutOfCNSI`. -/
def logoutOfCNSI (ent : Entropy) (c : Context) : Db Unit :=
  let cnsiGUID := c.formValue "cnsi_guid"
  if cnsiGUID = "" then
    .fail (.shadow 400 "Missing target endpoint" "Need CNSI GUID passed as form param")
  else do
    let userGUID ← Prog.ret <| c.userID.mapError
      (.wrap "Could not find correct session value: ")
    let cnsiRecord ← (P.getCNSIRecord cnsiGUID).mapError (.wrap "Unable to load CNSI record: ")
    let userGUID ← P.disconnectUserGUID cnsiGUID userGUID
    -- If cnsi is cf AND cf is auto-register only clear the entry
    if cnsiRecord.cnsiType = "cf" ∧
        trimRight P.autoRegisterCFUrl '/' = cnsiRecord.apiEndpoint.string then
      let tokenRecord := initEndpointTokenRecord 0 (goBytes "cleared_token")
        (goBytes "cleared_token") true
      (P.setCNSITokenRecord ent cnsiGUID userGUID tokenRecord).mapError
        (.wrap "Unable to clear token: ")
    else
      (unsetCNSITokenRecord cnsiGUID userGUID).mapError (.wrap "Unable to delete token: ")

/-! ## The console's own token -/

/-- `saveAuthToken` of the portal proxy. -/
def saveAuthToken (ent : Entropy) (u : JWTUserTokenInfo) (authTok refreshTok : Bytes) :
    Db TokenRecord := do
  let tokenRecord : TokenRecord :=
    { authToken := authTok, refreshToken := refreshTok, tokenExpiry := u.tokenExpiry,
      authType := authTypeOAuth2 }
  P.setUAATokenRecord ent u.userGUID tokenRecord
  return tokenRecord

/-- `RefreshUAAToken`. -/
def refreshUAAToken (uaa : UAA) (ent : Entropy) (userGUID : String) : Db TokenRecord := do
  let userToken ← (P.getUAATokenRecord userGUID).mapError fun _ =>
    .new s!"UAA Token info could not be found for user with GUID {userGUID}"
  let uaaRes ← Prog.ret <| (getUAATokenWithRefreshToken uaa P.consoleConfig.skipSSLValidation
    userToken.refreshToken P.consoleConfig.consoleClient P.consoleConfig.consoleClientSecret
    P.getUAAIdentityEndpoint "").mapError (.wrap "UAA Token refresh request failed: ")
  let u ← Prog.ret <| (P.getUserTokenInfo uaaRes.accessToken).mapError fun _ =>
    .new "Could not get user token info from access token"
  (P.saveAuthToken ent { u with userGUID := userGUID } uaaRes.accessToken
    uaaRes.refreshToken).mapError (.wrap "Couldn't save new UAA token: ")

/-- `verifySession` up to the answer, with the user of the session that it leaves. `now` is
the time in nanoseconds. -/
def verifySession (uaa : UAA) (ent : Entropy) (now : ℤ) (c : Context) : Db String := do
  let sessionExpireTime ← Prog.ret <| c.exp.mapError fun _ =>
    .http 403 "Could not find session date"
  let sessionUser ← Prog.ret <| c.userID.mapError fun _ =>
    .http 403 "Could not find user_id in Session"
  let tr ← (P.getUAATokenRecord sessionUser).mapError (.httpOf 403 "Unable to find UAA Token: ")
  -- Check if UAA token has expired
  if sessionExpireTime * 10 ^ 9 < now then
    let uaaRes ← Prog.ret <| (getUAATokenWithRefreshToken uaa P.consoleConfig.skipSSLValidation
      tr.refreshToken P.consoleConfig.consoleClient P.consoleConfig.consoleClientSecret
      P.getUAAIdentityEndpoint "").mapError fun _ => .http 403 "Could not refresh UAA token"
    let u ← Prog.ret (P.getUserTokenInfo uaaRes.accessToken)
    let _ ← P.saveAuthToken ent u uaaRes.accessToken uaaRes.refreshToken
    Prog.ret c.setSessionValues
    Prog.ret c.sessionExpiryHeader
    return u.userGUID
  else
    -- Still need to extend the expires_on of the Session
    Prog.ret c.setSessionValues
    Prog.ret c.sessionExpiryHeader
    return sessionUser

/-! ## Login -/

/-- The endpoint of `cfLoginHook` : the one registered for the URL, or a new one. -/
def autoRegister (plugins : Plugins) (iv : Except GoError IV) (cfAPI : String) :
    Db CNSIRecord := do
  let found ← (P.getCNSIRecordByEndpoint cfAPI).attempt
  match found.toOption.filter (·.cnsiType ≠ "") with
  | some cfCnsi => return cfCnsi
  | none =>
    match getEndpointTypeSpec plugins "cf" with
    | none => .fail (.exit "invalid memory address or nil pointer dereference")
    | some cfEndpointSpec =>
      let autoRegName := if P.autoRegisterCFName = "" then "Cloud Foundry" else P.autoRegisterCFName
      (P.doRegisterEndpoint iv autoRegName cfAPI true P.cfClient P.cfClientSecret false
        cfEndpointSpec.info).mapError fun _ =>
          .exit "Could not auto-register Cloud Foundry endpoint"

/-- `cfLoginHook` : registers the Cloud Foundry of the configuration and connects to it. -/
def cfLoginHook (plugins : Plugins) (ent : LoginEntropy) (c : Context) : Db Unit :=
  let cfAPI := trimRight P.autoRegisterCFUrl '/'
  if cfAPI = "" then return ()
  else do
    let cfCnsi ← P.autoRegister plugins ent.endpointIV cfAPI
    let userGUID ← Prog.ret <| c.userID.mapError
      (.wrap "Could not determine user_id from session: ")
    let cfTokenRecord ← P.getCNSITokenRecordWithDisconnected cfCnsi.guid userGUID
    -- A record that has been cleared: the user has disconnected manually
    if cfTokenRecord.any (·.disconnected) then return ()
    else if P.ssoLogin then
      P.doLoginToCNSIwithConsoleUAAtoken plugins ent.endpoint c cfCnsi
    else
      let _ ← P.doLoginToCNSI plugins ent.endpoint c cfCnsi.guid false

/-- The error of `doLoginToUAA` when the login failed. -/
def loginError (err : GoError) : GoError :=
  let errMessage := match err with
    | .httpRequest _ response => (P.unmarshalErrorDescription response).getD "Access Denied"
    | _ => "Access Denied"
  .shadowOf 401 errMessage s!"UAA Login failed: {errMessage}: " err

/-- The login hook, whose error is only logged unless it ends the process. -/
def runLoginHook (plugins : Plugins) (ent : LoginEntropy) (c : Context) : Db Unit :=
  if P.loginHook then do
    let result ← (P.cfLoginHook plugins ent c).attempt
    match result with
    | .error (.exit msg) => .fail (.exit msg)
    | _ => return ()
  else return ()

/-- `doLoginToUAA`. -/
def doLoginToUAA (plugins : Plugins) (uaa : UAA) (ent : LoginEntropy) (c : Context) :
    Db LoginRes := do
  let (uaaRes, u) ← Prog.ret <| (P.login uaa c P.consoleConfig.skipSSLValidation
    P.consoleConfig.consoleClient P.consoleConfig.consoleClientSecret
    P.getUAAIdentityEndpoint).mapError P.loginError
  Prog.ret c.setSessionValues
  Prog.ret c.sessionExpiryHeader
  let _ ← P.saveAuthToken ent.console u uaaRes.accessToken uaaRes.refreshToken
  P.runLoginHook plugins ent { c with userID := .ok u.userGUID, exp := .ok u.tokenExpiry }
  let uaaAdmin := contains uaaRes.scope P.consoleConfig.consoleAdminScope
  return ⟨u.userName, u.tokenExpiry, none, uaaAdmin, none⟩

end PortalProxy

end Stratos
