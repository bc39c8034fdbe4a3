import Stratos.Jetstream.PortalProxy

/-!
# Endpoints

The cnsi repository and the functions of the portal proxy that register, look up and
unregister endpoints. A registration inserts a record under the hash of its URL; an
unregistration deletes the record and the tokens with two statements whose errors nobody
reads.
-/

namespace Stratos

open Lib

/-! ## Records and plugins -/

/-- `interfaces.CNSIRecord`. -/
structure CNSIRecord where
  guid : String
  name : String
  cnsiType : String
  apiEndpoint : URL
  authorizationEndpoint : String
  tokenEndpoint : String
  dopplerLoggingEndpoint : String
  skipSSLValidation : Bool
  clientId : String
  clientSecret : Bytes
  ssoAllowed : Bool
  deriving DecidableEq, Repr

/-- What an endpoint tells about itself : the part of a record that `Info` fills in. -/
structure EndpointInfo where
  cnsiType : String
  authorizationEndpoint : String
  tokenEndpoint : String
  dopplerLoggingEndpoint : String
  deriving DecidableEq, Repr

/-- An error of `Info`. -/
inductive InfoError
  /-- An error that `isSSLRelatedError` recognises, with its detail. -/
  | ssl (detail : String) (err : GoError)
  | other (err : GoError)
  deriving DecidableEq, Repr

/-- The error itself. -/
def InfoError.err : InfoError → GoError
  | ssl _ err => err
  | other err => err

/-- `interfaces.InfoFunc`. -/
abbrev InfoFunc := String → Bool → Except InfoError EndpointInfo

/-- `interfaces.EndpointPlugin`. No plugin of the repository uses the database to connect. -/
structure EndpointPlugin where
  type : String
  info : InfoFunc
  connect : Context → CNSIRecord → String → Except GoError (TokenRecord × Bool)

/-- `p.Plugins`, with what `GetEndpointPlugin` gives for each. -/
abbrev Plugins := List (Except GoError EndpointPlugin)

/-- `GetEndpointTypeSpec` : the first plugin of this type. -/
def getEndpointTypeSpec (plugins : Plugins) (typeName : String) : Option EndpointPlugin :=
  (plugins.filterMap Except.toOption).find? (·.type == typeName)

/-! ## The repository -/

variable (P : PortalProxy)

namespace PortalProxy

/-- The record of a row of `cnsis`, as `findBy` reads it. -/
def readCnsi (reply : Except SqlError CnsiRow) : Except GoError CNSIRecord :=
  match reply with
  | .error .noRows => .error (.new "No match for that Endpoint")
  | .error e => .error (.sql "Error trying to Find CNSI record: " e)
  | .ok row => do
    let apiEndpoint ← (P.parseURL row.apiEndpoint).mapError
      (.wrap "Unable to parse API Endpoint: ")
    -- Empty secret means there was none.
    let clientSecret ← if row.clientSecret.getD [] = [] then pure []
      else decryptToken P.aes P.encryptionKey (row.clientSecret.getD [])
    return ⟨row.guid, row.name, row.cnsiType, apiEndpoint, row.authEndpoint, row.tokenEndpoint,
      row.dopplerLoggingEndpoint, row.skipSSLValidation, row.clientId, clientSecret,
      row.ssoAllowed⟩

/-- The record without a slash at the end of its API endpoint. -/
def trimEndpoint (r : CNSIRecord) : CNSIRecord :=
  { r with apiEndpoint := { r.apiEndpoint with path := trimRight r.apiEndpoint.path '/' } }

/-- `GetCNSIRecord`. -/
def getCNSIRecord (guid : String) : Db CNSIRecord := do
  let reply ← Prog.stmt (Stmt.findCNSI guid)
  let record ← Prog.ret (P.readCnsi reply)
  return trimEndpoint record

/-- `GetCNSIRecordByEndpoint`. -/
def getCNSIRecordByEndpoint (endpoint : String) : Db CNSIRecord := do
  let reply ← Prog.stmt (Stmt.findCNSIByAPIEndpoint endpoint)
  let record ← Prog.ret (P.readCnsi reply)
  return trimEndpoint record

/-- `cnsiRecordExists`. -/
def cnsiRecordExists (endpoint : String) : Db Bool := do
  let found ← (P.getCNSIRecordByEndpoint endpoint).attempt
  return found.toBool

/-- The row that `Save` inserts. -/
def cnsiRow (guid : String) (cnsi : CNSIRecord) (clientSecret : Bytes) : CnsiRow :=
  ⟨guid, cnsi.name, cnsi.cnsiType, cnsi.apiEndpoint.string, cnsi.authorizationEndpoint,
    cnsi.tokenEndpoint, cnsi.dopplerLoggingEndpoint, cnsi.skipSSLValidation, cnsi.clientId,
    some clientSecret, cnsi.ssoAllowed⟩

/-- `Save` of the cnsi repository. -/
def saveCNSI (iv : Except GoError IV) (guid : String) (cnsi : CNSIRecord) : Db Unit := do
  let cipherTextClientSecret ← Prog.ret (encryptToken P.aes P.encryptionKey iv cnsi.clientSecret)
  let _ ← Db.send "Unable to Save CNSI record: "
    (.saveCNSI (cnsiRow guid cnsi cipherTextClientSecret))

/-- `setCNSIRecord`. -/
def setCNSIRecord (iv : Except GoError IV) (guid : String) (c : CNSIRecord) : Db Unit :=
  (P.saveCNSI iv guid c).mapError (.wrap "Unable to save a CNSI Token: ")

/-- `Delete` of the cnsi repository. -/
def deleteCNSI (guid : String) : Db Unit := do
  let _ ← Db.send "Unable to Delete CNSI record: " (.deleteCNSI guid)

/-- `unsetCNSIRecord`. -/
def unsetCNSIRecord (guid : String) : Db Unit :=
  (deleteCNSI guid).mapError (.wrap "Unable to delete a CNSI record: ")

/-- `Update` of the cnsi repository. -/
def updateCNSI (guid : String) (ssoAllowed : Bool) : Db Unit :=
  if guid = "" then .fail (.new "Unable to update Endpoint without a valid guid.")
  else do
    let rowsUpdates ← Db.send "Unable to UPDATE endpoint: " (.updateCNSI ssoAllowed guid)
    Db.checkUpdated "Unable to UPDATE endpoint: no rows were updated" rowsUpdates

/-! ## Registering and unregistering -/

/-- The error of a registration whose `Info` failed. -/
def registerError : InfoError → GoError
  | .ssl detail _ =>
    .shadow 403 ("SSL error - " ++ detail)
      ("There is a problem with the server Certificate - " ++ detail)
  | .other err =>
    .shadowOf 400 "Failed to validate endpoint" "Failed to validate endpoint: " err

/-- `DoRegisterEndpoint`. -/
def doRegisterEndpoint (iv : Except GoError IV) (cnsiName apiEndpoint : String)
    (skipSSLValidation : Bool) (clientId : String) (clientSecret : Bytes) (ssoAllowed : Bool)
    (fetchInfo : InfoFunc) : Db CNSIRecord :=
  if cnsiName = "" ∨ apiEndpoint = "" then
    .fail (.shadow 400 "Needs CNSI Name and API Endpoint"
      "CNSI Name or Endpoint were not provided when trying to register an CF Cluster")
  else do
    -- Remove trailing slash, if there is one
    let apiEndpoint := trimRight apiEndpoint '/'
    let apiEndpointURL ← Prog.ret <| (P.parseURL apiEndpoint).mapError
      (.shadowOf 400 "Failed to get API Endpoint" "Failed to get API Endpoint: ")
    -- check if we've already got this endpoint in the DB
    let ok ← P.cnsiRecordExists apiEndpoint
    if ok then
      .fail (.shadow 400 "Can not register same endpoint multiple times"
        "Can not register same endpoint multiple times")
    else
      let info ← Prog.ret <| (fetchInfo apiEndpoint skipSSLValidation).mapError registerError
      let guid := P.sha1Base64 apiEndpointURL.string
      let newCNSI : CNSIRecord := ⟨guid, cnsiName, info.cnsiType, apiEndpointURL,
        info.authorizationEndpoint, info.tokenEndpoint, info.dopplerLoggingEndpoint,
        skipSSLValidation, clientId, clientSecret, ssoAllowed⟩
      P.setCNSIRecord iv guid newCNSI
      return newCNSI

/-- `unregisterCluster`. The errors of both statements are dropped. -/
def unregisterCluster (cnsiGUID : String) : Db Unit :=
  if cnsiGUID = "" then
    .fail (.shadow 400 "Missing target endpoint" "Need CNSI GUID passed as form param")
  else do
    let _ ← (unsetCNSIRecord cnsiGUID).attempt
    let _ ← (unsetCNSITokenRecords cnsiGUID).attempt
    return ()

end PortalProxy

end Stratos
