import Stratos.Jetstream.Tokens

/-!
# The portal proxy

What the handlers of jetstream share: the configuration, the requests to a UAA, the tokens
of users and the token functions of the portal proxy over the repository. The answers of a
UAA are an argument of each handler. Base64, JSON and URL parsing of the standard library
are fields of `PortalProxy`; no result depends on what they accept.
-/

namespace Stratos

open Lib

/-- `strings.TrimPrefix`. -/
def trimPrefix (s pre : Bytes) : Bytes :=
  if pre.isPrefixOf s then s.drop pre.length else s

/-- `strings.TrimRight` with one character. -/
def trimRight (s : String) (c : Char) : String :=
  String.ofList (s.toList.reverse.dropWhile (· == c)).reverse

/-- `url.URL`, cut at its path, its query and its fragment. -/
structure URL where
  base : String
  path : String
  rawQuery : String
  /-- A `?` stands after the path, also when the query is empty. -/
  forceQuery : Bool
  fragment : String
  deriving DecidableEq, Repr

/-- `URL.String`. -/
def URL.string (u : URL) : String :=
  u.base ++ u.path ++ (if u.forceQuery ∨ u.rawQuery ≠ "" then "?" ++ u.rawQuery else "") ++
    if u.fragment = "" then "" else "#" ++ u.fragment

/-- `interfaces.JWTUserTokenInfo`. -/
structure JWTUserTokenInfo where
  userGUID : String
  userName : String
  tokenExpiry : ℤ
  scope : List String
  deriving DecidableEq, Repr

/-- `UAAResponse`. -/
structure UAAResponse where
  accessToken : Bytes
  refreshToken : Bytes
  scope : String
  idToken : Bytes
  deriving DecidableEq, Repr

/-- `interfaces.OAuth2Metadata`. -/
structure OAuth2Metadata where
  clientID : String
  clientSecret : Bytes
  issuerURL : String
  deriving DecidableEq, Repr

/-- A request for a token : the client, where it goes and the form that is posted. -/
structure UAARequest where
  skipSSLValidation : Bool
  client : String
  clientSecret : Bytes
  authEndpoint : String
  body : List (String × Bytes)
  deriving DecidableEq, Repr

/-- What the UAA answers. -/
abbrev UAA := UAARequest → Except GoError UAAResponse

/-- `interfaces.ConsoleConfig`. -/
structure ConsoleConfig where
  uaaEndpoint : String
  consoleAdminScope : String
  consoleClient : String
  consoleClientSecret : Bytes
  skipSSLValidation : Bool

/-- The portal proxy : its configuration and the parsers it uses. -/
structure PortalProxy where
  consoleConfig : ConsoleConfig
  encryptionKey : Bytes
  cfAdminIdentifier : String
  cfClient : String
  cfClientSecret : Bytes
  autoRegisterCFUrl : String
  autoRegisterCFName : String
  ssoLogin : Bool
  /-- The Cloud Foundry plugin has set its login hook. -/
  loginHook : Bool
  aes : Aes
  /-- `base64.RawStdEncoding.DecodeString`. -/
  decodeBase64 : Bytes → Option Bytes
  /-- `json.Unmarshal` into a `JWTUserTokenInfo`. -/
  unmarshalUserTokenInfo : Bytes → Option JWTUserTokenInfo
  /-- `json.Unmarshal` into an `OAuth2Metadata`. -/
  unmarshalMetadata : String → Option OAuth2Metadata
  /-- `json.Unmarshal` into a `UAAErrorResponse`, and its description. -/
  unmarshalErrorDescription : String → Option String
  /-- `url.Parse`. -/
  parseURL : String → Except GoError URL
  /-- `url.QueryEscape`. -/
  queryEscape : String → String
  /-- The SHA-1 of a string in `base64.RawURLEncoding`. -/
  sha1Base64 : String → String

/-- `echo.Context` : the request, its session and what the session store answers. -/
structure Context where
  method : String
  formValue : String → String
  queryParam : String → String
  /-- The session value "user_id". -/
  userID : Except GoError String
  /-- The session value "exp". -/
  exp : Except GoError ℤ
  /-- The session can be saved. -/
  setSessionValues : Except GoError Unit
  /-- The session has an expiry for the response header. -/
  sessionExpiryHeader : Except GoError Unit

/-- `interfaces.AuthTypeOAuth2`. -/
def authTypeOAuth2 : String := "OAuth2"

/-- `interfaces.AuthTypeOIDC`. -/
def authTypeOIDC : String := "OIDC"

/-- `interfaces.AuthTypeHttpBasic`. -/
def authTypeHttpBasic : String := "HttpBasic"

/-- `InitEndpointTokenRecord`. -/
def initEndpointTokenRecord (expiry : ℤ) (authTok refreshTok : Bytes) (disconnect : Bool) :
    TokenRecord :=
  { authToken := authTok, refreshToken := refreshTok, tokenExpiry := expiry,
    disconnected := disconnect, authType := authTypeOAuth2 }

/-- `getUAATokenWithCreds`. -/
def getUAATokenWithCreds (uaa : UAA) (skipSSLValidation : Bool) (username password : String)
    (client : String) (clientSecret : Bytes) (authEndpoint : String) :
    Except GoError UAAResponse :=
  uaa ⟨skipSSLValidation, client, clientSecret, authEndpoint,
    [("grant_type", goBytes "password"), ("username", goBytes username),
      ("password", goBytes password), ("response_type", goBytes "token")]⟩

/-- `getUAATokenWithRefreshToken`. -/
def getUAATokenWithRefreshToken (uaa : UAA) (skipSSLValidation : Bool) (refreshToken : Bytes)
    (client : String) (clientSecret : Bytes) (authEndpoint scopes : String) :
    Except GoError UAAResponse :=
  uaa ⟨skipSSLValidation, client, clientSecret, authEndpoint,
    [("grant_type", goBytes "refresh_token"), ("refresh_token", refreshToken),
      ("response_type", goBytes "token")] ++
      if scopes = "" then [] else [("scope", goBytes scopes)]⟩

namespace PortalProxy

variable (P : PortalProxy)

/-! ## Tokens of a UAA -/

/-- `GetUserTokenInfo`. -/
def getUserTokenInfo (tok : Bytes) : Except GoError JWTUserTokenInfo :=
  let accessToken := trimPrefix tok (goBytes "bearer ")
  match accessToken.splitOn '.'.toUInt8 with
  | _ :: payload :: _ :: _ =>
    match P.decodeBase64 payload with
    | none => .error (.new "Unable to decode token string.")
    | some decoded =>
      match P.unmarshalUserTokenInfo decoded with
      | none => .error (.new "Failed to unmarshall decoded token.")
      | some u => .ok u
  | _ => .error (.new "Token was poorly formed.")

/-- `getSSORedirectURI`. A base that is no URL is a nil pointer. -/
def getSSORedirectURI (base state endpointGUID : String) : Except GoError String :=
  match P.parseURL base with
  | .error _ => .error (.exit "invalid memory address or nil pointer dereference")
  | .ok baseURL =>
    let baseURLString := trimRight { baseURL with path := "", rawQuery := "" }.string '?'
    .ok (baseURLString ++ "/pp/v1/auth/sso_login_callback?state=" ++ P.queryEscape state ++
      if endpointGUID = "" then "" else "&guid=" ++ endpointGUID)

/-- `getUAATokenWithAuthorizationCode`. -/
def getUAATokenWithAuthorizationCode (uaa : UAA) (skipSSLValidation : Bool)
    (code client : String) (clientSecret : Bytes) (authEndpoint state cnsiGUID : String) :
    Except GoError UAAResponse := do
  let redirectURI ← P.getSSORedirectURI state state cnsiGUID
  uaa ⟨skipSSLValidation, client, clientSecret, authEndpoint,
    [("grant_type", goBytes "authorization_code"), ("code", goBytes code),
      ("client_id", goBytes client), ("client_secret", clientSecret),
      ("redirect_uri", goBytes redirectURI)]⟩

/-- `login` : the answer of the UAA and the user it names. -/
def login (uaa : UAA) (c : Context) (skipSSLValidation : Bool) (client : String)
    (clientSecret : Bytes) (endpoint : String) : Except GoError (UAAResponse × JWTUserTokenInfo) :=
  if c.method = "GET" then do
    let uaaRes ← P.getUAATokenWithAuthorizationCode uaa skipSSLValidation (c.queryParam "code")
      client clientSecret endpoint (c.queryParam "state") (c.queryParam "guid")
    let u ← P.getUserTokenInfo uaaRes.accessToken
    return (uaaRes, u)
  else if c.formValue "username" = "" ∨ c.formValue "password" = "" then
    .error (.new "Needs username and password")
  else do
    let uaaRes ← getUAATokenWithCreds uaa skipSSLValidation (c.formValue "username")
      (c.formValue "password") client clientSecret endpoint
    let u ← P.getUserTokenInfo uaaRes.accessToken
    return (uaaRes, u)

/-- `getUAAIdentityEndpoint`. -/
def getUAAIdentityEndpoint : String := P.consoleConfig.uaaEndpoint ++ "/oauth/token"

/-! ## Token records -/

/-- `GetUAATokenRecord`. -/
def getUAATokenRecord (userGUID : String) : Db TokenRecord :=
  findAuthToken P.aes P.encryptionKey userGUID

/-- `setUAATokenRecord`. -/
def setUAATokenRecord (ent : Entropy) (userGUID : String) (t : TokenRecord) : Db Unit :=
  (saveAuthToken P.aes P.encryptionKey ent userGUID t).mapError
    (.wrap "Database error saving UAA token: ")

/-- `GetCNSITokenRecord`. -/
def getCNSITokenRecord (cnsiGUID userGUID : String) : Db (Option TokenRecord) := do
  let found ← (findCNSIToken P.aes P.encryptionKey cnsiGUID userGUID).attempt
  return found.toOption

/-- `GetCNSITokenRecordWithDisconnected`. -/
def getCNSITokenRecordWithDisconnected (cnsiGUID userGUID : String) :
    Db (Option TokenRecord) := do
  let found ← (findCNSITokenIncludeDisconnected P.aes P.encryptionKey cnsiGUID
    userGUID).attempt
  return found.toOption

/-- `updateTokenAuth`. -/
def updateTokenAuth (ent : Entropy) (userGUID : String) (t : TokenRecord) : Db Unit :=
  (Stratos.updateTokenAuth P.aes P.encryptionKey ent userGUID t).mapError
    (.wrap "Unable to update Token: ")

/-- `setCNSITokenRecord`. -/
def setCNSITokenRecord (ent : Entropy) (cnsiGUID userGUID : String) (t : TokenRecord) :
    Db Unit :=
  (saveCNSIToken P.aes P.encryptionKey ent cnsiGUID userGUID t).mapError
    (.wrap "Unable to save a CNSI Token: ")

/-- `unsetCNSITokenRecord`. -/
def unsetCNSITokenRecord (cnsiGUID userGUID : String) : Db Unit :=
  (deleteCNSIToken cnsiGUID userGUID).mapError (.wrap "Unable to delete a CNSI Token: ")

/-- `unsetCNSITokenRecords`. -/
def unsetCNSITokenRecords (cnsiGUID : String) : Db Unit :=
  (deleteCNSITokens cnsiGUID).mapError (.wrap "Unable to delete a CNSI Token: ")

/-! ## Refreshing a token -/

/-- The record that `RefreshOAuthToken` writes back : the GUID and the disconnected flag are
those of the token it refreshes. -/
def oauthRecord (u : JWTUserTokenInfo) (uaaRes : UAAResponse) (userToken : TokenRecord) :
    TokenRecord :=
  { initEndpointTokenRecord u.tokenExpiry uaaRes.accessToken uaaRes.refreshToken
      userToken.disconnected with tokenGUID := userToken.tokenGUID }

/-- The record that `RefreshOidcToken` saves : the metadata and the disconnected flag are
those of the token it refreshes. -/
def oidcRecord (u : JWTUserTokenInfo) (uaaRes : UAAResponse) (userToken : TokenRecord) :
    TokenRecord :=
  { initEndpointTokenRecord u.tokenExpiry uaaRes.accessToken uaaRes.refreshToken
      userToken.disconnected with authType := authTypeOIDC, metadata := userToken.metadata }

/-- `RefreshOAuthToken`. -/
def refreshOAuthToken (uaa : UAA) (ent : Entropy) (skipSSLValidation : Bool)
    (cnsiGUID userGUID client : String) (clientSecret : Bytes) (tokenEndpoint : String) :
    Db TokenRecord := do
  let found ← P.getCNSITokenRecordWithDisconnected cnsiGUID userGUID
  match found with
  | none => .fail (.new s!"Info could not be found for user with GUID {userGUID}")
  | some userToken =>
    let uaaRes ← Prog.ret <| (getUAATokenWithRefreshToken uaa skipSSLValidation
      userToken.refreshToken client clientSecret (tokenEndpoint ++ "/oauth/token") "").mapError
        (.wrap "Token refresh request failed: ")
    let u ← Prog.ret <| (P.getUserTokenInfo uaaRes.accessToken).mapError fun _ =>
      .new "Could not get user token info from access token"
    let tokenRecord := oauthRecord u uaaRes userToken
    (P.updateTokenAuth ent userGUID tokenRecord).mapError (.wrap "Couldn't update token: ")
    return tokenRecord

/-- The client, its secret and the token endpoint that `RefreshOidcToken` uses : those of
the metadata of the token override the ones given. -/
def oidcParameters (metadata client : String) (clientSecret : Bytes) (tokenEndpoint : String) :
    String × Bytes × String :=
  match if metadata = "" then none else P.unmarshalMetadata metadata with
  | none => (client, clientSecret, tokenEndpoint ++ "/oauth/token")
  | some m =>
    (if m.clientID = "" then client else m.clientID,
      if m.clientSecret = [] then clientSecret else m.clientSecret,
      if m.issuerURL = "" then tokenEndpoint ++ "/oauth/token" else m.issuerURL ++ "/token")

/-- `RefreshOidcToken`. -/
def refreshOidcToken (uaa : UAA) (ent : Entropy) (skipSSLValidation : Bool)
    (cnsiGUID userGUID client : String) (clientSecret : Bytes) (tokenEndpoint : String) :
    Db TokenRecord := do
  let found ← P.getCNSITokenRecordWithDisconnected cnsiGUID userGUID
  match found with
  | none => .fail (.new s!"Info could not be found for user with GUID {userGUID}")
  | some userToken =>
    let (client, clientSecret, tokenEndpointWithPath) :=
      P.oidcParameters userToken.metadata client clientSecret tokenEndpoint
    let uaaRes ← Prog.ret <| (getUAATokenWithRefreshToken uaa skipSSLValidation
      userToken.refreshToken client clientSecret tokenEndpointWithPath "").mapError
        (.wrap "Token refresh request failed: ")
    let u ← Prog.ret <| (P.getUserTokenInfo uaaRes.idToken).mapError fun _ =>
      .new "Could not get user token info from id token"
    let tokenRecord := oidcRecord u uaaRes userToken
    (P.setCNSITokenRecord ent cnsiGUID userGUID tokenRecord).mapError
      (.wrap "Couldn't save new token: ")
    return tokenRecord

end PortalProxy

/-! ## Sample values -/

/-- `{"user_id":"user"}`. -/
def sampleClaims : Bytes :=
  [123, 34, 117, 115, 101, 114, 95, 105, 100, 34, 58, 34, 117, 115, 101, 114, 34, 125]

/-- The base64 of `sampleClaims`. -/
def samplePayload : Bytes :=
  [101, 121, 74, 49, 99, 50, 86, 121, 88, 50, 108, 107, 73, 106, 111, 105, 100, 88, 78, 108, 99,
    105, 74, 57]

/-- A token of the user "user". -/
def sampleToken : Bytes := goBytes "e30." ++ samplePayload ++ goBytes ".e30"

/-- The user info of `sampleToken`. -/
def sampleInfo : JWTUserTokenInfo := ⟨"user", "", 0, []⟩

/-- A request of "user" with the form value "cf" for every key. -/
def sampleContext : Context :=
  ⟨"POST", fun _ => "cf", fun _ => "cf", .ok "user", .ok 0, .ok (), .ok ()⟩

/-- A portal proxy for concrete runs, whose parsers read the values of the runs only. -/
def samplePortalProxy : PortalProxy where
  consoleConfig := ⟨"https://uaa", "stratos.admin", "console", [], false⟩
  encryptionKey := sampleKey
  cfAdminIdentifier := "cloud_controller.admin"
  cfClient := "cf"
  cfClientSecret := []
  autoRegisterCFUrl := ""
  autoRegisterCFName := ""
  ssoLogin := false
  loginHook := false
  aes := sampleAes
  decodeBase64 b := if b = samplePayload then some sampleClaims else none
  unmarshalUserTokenInfo b := if b = sampleClaims then some sampleInfo else none
  unmarshalMetadata _ := none
  unmarshalErrorDescription _ := none
  parseURL s := .ok ⟨s, "", "", false, ""⟩
  queryEscape s := s
  sha1Base64 s := s

end Stratos
