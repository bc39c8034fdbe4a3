import Stratos.Jetstream.ProxiedResponse
import Stratos.Jetstream.Tokens
import Stratos.Lib.Gather
import Stratos.Lib.JsObject
import Stratos.Lib.JsonTexts

/-!
# Requests to many endpoints

`ProxyRequest` starts a goroutine for each endpoint of a list, and reads their responses from one
channel. The goroutine (`doRequest`) looks up the token of the endpoint and calls the handler of
its type of authentication. `DoProxyRequest` does the same with requests of its own. What the
database, the handlers and `http.NewRequest` answer comes from outside.
-/

open Lib Lib.Gather

namespace Stratos.Passthrough

/-! ## Requests -/

/-- `url.URL`. -/
structure URL where
  scheme : String
  userinfo : String
  host : String
  path : String
  rawPath : String
  rawQuery : String
  forceQuery : Bool
  fragment : String
  deriving DecidableEq

/-- `http.Header`. The keys are canonical. -/
abbrev Header := JsObject (List String)

/-- The first value of a key. -/
def headerGet (header : Header) (key : String) : String := ((header.get? key).getD []).headD ""

/-- The request to one endpoint. -/
structure CNSIRequest where
  guid : String
  userGUID : String
  method : String
  body : Bytes
  header : Header
  url : URL
  statusCode : ℤ
  status : String
  response : Option Bytes
  error : Option GoError
  responseGUID : String

/-- A request that is sent. -/
structure SentRequest where
  method : String
  url : URL
  header : Header
  body : Bytes

/-- What an endpoint answers. -/
structure Response where
  statusCode : ℤ
  status : String
  /-- What can be read of the body, and the error that ends it. -/
  body : Option (Bytes × Option GoError)

/-- How a request is authorised. -/
inductive AuthHandler
  | httpBasic
  | oidc
  /-- `doOauthFlowRequest`. -/
  | oauth
  deriving DecidableEq

/-- `GetAuthProvider`. -/
def authHandler (authType : String) : AuthHandler :=
  if authType = "HttpBasic" then .httpBasic else if authType = "OIDC" then .oidc else .oauth

/-- What a goroutine asks for. -/
inductive Ask
  | getCNSIRecord (guid : String)
  | getCNSITokenRecord (cnsiGUID userGUID : String)
  | handle (handler : AuthHandler) (cnsiRequest : CNSIRequest) (req : SentRequest)

/-- Of a record only the `APIEndpoint` is used. A handler returns an error or a response. -/
def Ask.Reply : Ask → Type
  | getCNSIRecord _ => Except GoError URL
  | getCNSITokenRecord _ _ => Option TokenRecord
  | handle _ _ _ => Except GoError Response

/-- A goroutine, as what it asks for. -/
abbrev Asks (ε α : Type) := Prog Ask Ask.Reply ε α

/-- Asks for the URL of an endpoint. -/
def getCNSIRecord {ε : Type} (guid : String) : Asks ε (Except GoError URL) :=
  .stmt (Ask.getCNSIRecord guid)

/-! ## The goroutine -/

/-- Asks for the token and for the URL of the endpoint. -/
def getCNSIRequestRecords (r : CNSIRequest) : Asks Empty (Except GoError TokenRecord) :=
  .exec (.getCNSITokenRecord r.guid r.userGUID) fun token : Option TokenRecord =>
    match token with
    | none =>
      pure (.error (.new s!"Could not find token for csni:user {r.guid}:{r.userGUID}"))
    | some t => do
      let record ← getCNSIRecord r.guid
      return (record.mapError
        (.wrap s!"Info could not be found for CNSI with GUID {r.guid}: ")).map fun _ => t

/-- The header is forwarded by `fwdCNSIStandardHeaders`. -/
def isForwarded (key : String) : Bool :=
  key ≠ "Connection" && key ≠ "Cookie" && key ≠ "Referer" && key ≠ "Accept-Encoding" &&
    !"x-cap-".isPrefixOf key.toLower

/-- The headers that are passed on. -/
def fwdCNSIStandardHeaders (header : Header) : Header where
  entries := header.entries.filter fun e => isForwarded e.1
  nodup := header.nodup.sublist (List.filter_sublist.map _)

/-- `errorText` is the text of an error. -/
def CNSIRequest.withReply (errorText : GoError → Bytes) (r : CNSIRequest) :
    Except GoError Response → CNSIRequest
  | .error err =>
    { r with
      statusCode := 500
      status := "Error proxing request"
      response := some (errorText err)
      error := some err }
  | .ok res =>
    match res.body with
    | none => r
    | some (data, err) =>
      { r with
        statusCode := res.statusCode
        status := res.status
        response := some data
        error := err }

section Goroutine

-- `newRequest` is `http.NewRequest` for a method and the text of a URL, which it parses.
variable (errorText : GoError → Bytes) (newRequest : String → URL → Except GoError URL)

/-- The request that is sent to the channel. -/
def doRequest (cnsiRequest : CNSIRequest) : Asks Empty CNSIRequest :=
  match newRequest cnsiRequest.method cnsiRequest.url with
  | .error err => pure { cnsiRequest with error := some err }
  | .ok url => do
    match ← getCNSIRequestRecords cnsiRequest with
    | .error err =>
      return { cnsiRequest with
        error := some err
        statusCode := 400
        status := "Unable to retrieve CNSI token record" }
    | .ok tokenRec =>
      let req : SentRequest := ⟨cnsiRequest.method, url,
        fwdCNSIStandardHeaders cnsiRequest.header, cnsiRequest.body⟩
      Prog.exec (.handle (authHandler tokenRec.authType) cnsiRequest req)
        fun reply => pure (cnsiRequest.withReply errorText reply)

end Goroutine

/-! ## The requests for the goroutines -/

/-- The request to one endpoint. Fails when there is no such endpoint. -/
def buildCNSIRequest (cnsiGUID userGUID method : String) (uri : URL) (body : Bytes)
    (header : Header) : Asks GoError CNSIRequest := do
  let apiEndpoint ← getCNSIRecord cnsiGUID
  .ret (apiEndpoint.map fun endpoint =>
    ⟨cnsiGUID, userGUID, method, body, header,
      { endpoint with path := uri.path, rawQuery := uri.rawQuery }, 0, "", none, none, ""⟩)

/-- What the host of an API begins with. -/
def apiPrefix : String := "api."

/-- The host, with the name that the client asks for. -/
def overrideHost (apiHost host : String) : String :=
  if apiHost ≠ "" ∧ '.' ∉ apiHost.toList then
    let apiHost := apiHost ++ "."
    if apiPrefix.toList <+: host.toList then
      apiHost ++ String.ofList (host.toList.drop apiPrefix.length)
    else apiHost ++ host
  else host

/-- The request of the client, and the user of its session. -/
structure EchoContext where
  method : String
  url : URL
  header : Header
  /-- The pattern of the route. -/
  path : String
  userID : Option String
  /-- What is read of the body. -/
  body : Except GoError Bytes

/-- The endpoints that the request names. -/
def EchoContext.cnsiList (c : EchoContext) : List String :=
  ((headerGet c.header "X-Cap-Cnsi-List").toList.splitOn ',').map String.ofList

/-- The response of a single endpoint is asked for as it is. -/
def EchoContext.shouldPassthrough (c : EchoContext) : Bool :=
  headerGet c.header "X-Cap-Passthrough" = "true"

/-- The headers without the cookie of the session. -/
def getEchoHeaders (c : EchoContext) : Header := c.header.erase "Cookie"

/-- Fails when one of the endpoints does not exist. -/
def validateCNSIList : List String → Asks GoError Unit
  | [] => pure ()
  | cnsiGUID :: cnsiList => do
    let record ← getCNSIRecord cnsiGUID
    let _ ← Prog.ret record
    validateCNSIList cnsiList

/-- The user of the session. -/
def getPortalUserGUID (c : EchoContext) : Except GoError String :=
  c.userID.elim (.error (.new "Corrupted session")) .ok

/-- The user and the body, when the request can be sent to its endpoints. -/
def checkRequest (c : EchoContext) : Asks GoError (String × Bytes) := do
  (validateCNSIList c.cnsiList).mapError (.httpOf 400 "")
  let portalUserGUID ← Prog.ret ((getPortalUserGUID c).mapError (.httpOf 500 ""))
  let body ← Prog.ret (c.body.mapError fun _ => .httpOf 500 "" (.new "Failed to read request body"))
  if c.shouldPassthrough ∧ 1 < c.cnsiList.length then
    .fail (.httpOf 400 "" (.new ("Requested passthrough to multiple CNSIs. " ++
      "Only single CNSI passthroughs are supported")))
  else return (portalUserGUID, body)

/-- The round of the loop of `ProxyRequest` for an endpoint, before its goroutine starts. -/
def buildRound (c : EchoContext) (uri : URL) (userBody : String × Bytes) (cnsi : String) :
    Asks GoError CNSIRequest := do
  let cnsiRequest ← (buildCNSIRequest cnsi userBody.1 c.method uri userBody.2
    ((getEchoHeaders c).erase "Cookie")).mapError (.httpOf 400 "")
  let apiHost := headerGet c.header "X-Cap-Api-Host"
  return { cnsiRequest with
    url := { cnsiRequest.url with host := overrideHost apiHost cnsiRequest.url.host } }

/-- The responses by the endpoints they are of. -/
abbrev Responses := JsObject CNSIRequest

/-- A program that starts goroutines. -/
abbrev Proxy := Starter Ask CNSIRequest Ask.Reply CNSIRequest GoError Responses

/-- A request to each of the endpoints, and their responses. -/
def proxyRequest (c : EchoContext) (uri : URL) : Proxy := do
  let userBody ← lift (checkRequest c)
  scatterGather (buildRound c uri userBody) (fun responses res => responses.set res.guid res)
    .empty c.cnsiList

end Stratos.Passthrough
