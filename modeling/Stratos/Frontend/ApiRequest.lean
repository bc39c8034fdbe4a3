import Stratos.Frontend.EndpointEffects
import Stratos.Frontend.EntityTree

/-!
# Issuing an API request

`doApiRequest` of `api.effects.ts`, up to the request it sends. The action and its options are
copied one level deep, and what is below is shared with the action and the store : the helpers
edit `initialParams` (`setRequestParams`), the headers and the parameters of the options, and
the endpoints of the store, from which those that are being disconnected are deleted.

An `ApiWorld` holds the objects that can be edited, and `doApiRequest` returns the request with
the world that it leaves. The actions that it dispatches are left out.
-/

open Lib

namespace Stratos

/-! ## Parameters -/

/-- The class `URLSearchParams` : lists of values by name. -/
abbrev URLSearchParams := JsObject (List ParamValue)

namespace URLSearchParams

/-- `URLSearchParams.append` : one more value under the name. -/
def append (params : URLSearchParams) (name : String) (value : ParamValue) : URLSearchParams :=
  params.set name ((params.get? name).getD [] ++ [value])

/-- The values of a name. -/
def getAll (params : URLSearchParams) (name : String) : List ParamValue :=
  (params.get? name).getD []

end URLSearchParams

/-- A `q` parameter as it is sent, a list of values with commas between. -/
def joinQParam (q : QParam) : String :=
  q.key ++ q.joiner.string ++
    match q.value with
    | .text s => s
    | .list l => ",".intercalate l

/-- The `q` parameters as they are sent. -/
def qParamsToString (params : List QParam) : List String := params.map joinQParam

/-- The parameters of the request, and the object `params` as it is left. -/
def setRequestParams (requestParams : URLSearchParams) (params : PaginationParam) :
    URLSearchParams × PaginationParam :=
  let r : URLSearchParams × PaginationParam :=
    match params.q with
    | some qs =>
      -- Convert q into a cf q string
      ((qParamsToString qs).foldl (fun ps q => ps.append "q" (.text q)) requestParams,
        { q := none, others := params.others.erase "qString" })
    | none => (requestParams, params)
  -- Assign other params. `q` has a field of its own.
  ((r.2.others.erase "q").ownKeys.foldl (fun ps key =>
    match r.2.others.get? key with
    | some value => ps.set key [value]
    | none => ps) r.1, r.2)

/-- The parameters of a section with its current page, none without a section. -/
def getPaginationParams : Option PaginationEntityState → PaginationParam
  | some state =>
    { state.params with
      others := state.params.others.set "page" (.text (toString state.currentPage)) }
  | none => {}

/-! ## The action, the store and the request -/

/-- The values of the headers, `undefined` among them. -/
abbrev Headers := JsObject (List (Option ParamValue))

/-- The header that names the endpoints a request is for. -/
def endpointHeader : String := "x-cap-cnsi-list"

/-- An action, with the objects that it holds. An empty key or guid is none. -/
structure ApiAction where
  entityKey : String
  endpointGuid : Option String
  paginationKey : Option String
  flattenPagination : Bool
  /-- `options.url` -/
  url : String
  /-- The relations, of an action that inlines them. -/
  relations : Option EntityInlineParentAction
  initialParams : Option PaginationParam
  /-- `options.params` -/
  params : Option URLSearchParams
  /-- `options.headers` -/
  headers : Option Headers

/-- The parts of the store that are read. -/
structure ApiState where
  /-- `requestData.endpoint` -/
  endpoint : JsObject EndpointModel
  request : IRequestTypeState
  pagination : PaginationState

/-- What the effect reads : the store, the cache of entity trees and the action. -/
structure ApiWorld where
  state : ApiState
  entityTreeCache : JsObject EntityTree
  action : ApiAction

/-- A request as it is sent. -/
structure ApiRequest where
  url : String
  headers : Headers
  params : Option URLSearchParams

/-! ## Building the request -/

/-- The sections of the store for a type of entity, none if there are none yet. -/
def getPaginationEntityState (entityKey : String) (state : PaginationState) :
    PaginationEntityTypeState :=
  (state.get? entityKey).getD JsObject.empty

/-- The section of a pagination key. -/
def selectPaginationState (entityKey paginationKey : String) (state : PaginationState) :
    Option PaginationEntityState :=
  (getPaginationEntityState entityKey state).get? paginationKey

/-- The parameters of the options and the `initialParams` as they are left. -/
def paginationParams (w : ApiWorld) : Option URLSearchParams × Option PaginationParam :=
  match w.action.paginationKey with
  | none => (w.action.params, w.action.initialParams)
  | some paginationKey =>
    -- Set initial params
    let r := w.action.initialParams.map (setRequestParams JsObject.empty)
    let params := (r.map Prod.fst).getD JsObject.empty
    -- Set params from store
    let paginationState :=
      selectPaginationState w.action.entityKey paginationKey w.state.pagination
    let params := (setRequestParams params (getPaginationParams paginationState)).1
    let params := if (params.get? resultPerPageParam).isSome then params
      else params.set resultPerPageParam [.text (toString resultPerPageParamDefault)]
    (some params, r.map Prod.snd)

/-- The endpoint is being disconnected. Throws when the endpoint has no request info. -/
def isDisconnecting (state : ApiState) (endpointGuid : String) : Option Bool := do
  let info ← getEntity state.request endpointSchemaKey endpointGuid
  return match info.updating.get? disconnectingKey with
    | some disconnecting => disconnecting.busy
    | none => false

/-- The endpoints of the store, without those that are being disconnected. -/
def availableEndpoints (state : ApiState) : Option (JsObject EndpointModel) := do
  let disconnectedEndpoints ← state.endpoint.ownKeys.filterM (isDisconnecting state)
  return disconnectedEndpoints.foldl JsObject.erase state.endpoint

/-- The endpoints of the store as the request leaves them : it asks for its own endpoint, or for
those that are available. -/
def requestEndpoints (endpointGuid : Option String) (state : ApiState) :
    Option (JsObject EndpointModel) :=
  if endpointGuid.isSome then some state.endpoint else availableEndpoints state

/-- The guids of the registered endpoints. -/
def registeredEndpointGuids (endpoints : JsObject EndpointModel) : List (Option ParamValue) :=
  endpoints.ownKeys.filterMap fun endpointGuid => do
    let endpoint ← endpoints.get? endpointGuid
    if ((endpoint.fields.get? "registered").map ParamValue.truthy).getD false ∧
        endpoint.fields.get? "cnsi_type" = some (.text "web") then
      return endpoint.fields.get? "guid"
    else none

/-- The header of the action's endpoint, or of all registered ones. -/
def addBaseHeaders (endpointGuid : Option String) (endpoints : JsObject EndpointModel)
    (header : Option Headers) : Headers :=
  (header.getD JsObject.empty).set endpointHeader
    (match endpointGuid with
    | some guid => [some (.text guid)]
    | none => registeredEndpointGuids endpoints)

/-- The parameters for the relations of a tree. -/
def setRelationParams (params : URLSearchParams) (tree : EntityTree) : URLSearchParams :=
  let params := if tree.maxDepth > 0 then
      params.set "inline-relations-depth" [.number (if tree.maxDepth > 2 then 2 else tree.maxDepth)]
    else params
  if tree.requiredParamNames.isEmpty then params
  else params.set "include-relations"
    [.text (",".intercalate (tree.requiredParamNames.map fun name => name.getD ""))]

section Requests

variable (localeLE : String → String → Bool)

/-- The parameters with the inline relations of the action, and the cache after it. -/
def addRelationParams (params : Option URLSearchParams) (cache : JsObject EntityTree)
    (relations : Option EntityInlineParentAction) :
    Option URLSearchParams × JsObject EntityTree :=
  match relations with
  | none => (params, cache)
  | some action =>
    let r := fetchEntityTree localeLE cache action true
    (some (setRelationParams (params.getD JsObject.empty) r.1), r.2)

/-- The first page, for a request that is flattened. Throws without parameters. -/
def setFirstPage (flattenPagination : Bool) (params : Option URLSearchParams) :
    Option (Option URLSearchParams) :=
  if flattenPagination then params.map fun ps => some (ps.set "page" [.text "1"])
  else some params

/-- The request that is sent, and the objects as it leaves them. The parameters of the options
are the action's own when it is not paginated, and so are its headers when it has some. -/
def doApiRequest (w : ApiWorld) : Option (ApiRequest × ApiWorld) := do
  let (params, initialParams) := paginationParams w
  let endpoint ← requestEndpoints w.action.endpointGuid w.state
  let headers := addBaseHeaders w.action.endpointGuid endpoint w.action.headers
  let params ← setFirstPage w.action.flattenPagination params
  let r := addRelationParams localeLE params w.entityTreeCache w.action.relations
  let action := { w.action with
    initialParams := initialParams
    params := if w.action.paginationKey.isNone ∧ w.action.params.isSome then r.1
      else w.action.params
    headers := w.action.headers.map fun _ => headers }
  return (
    { url := "/pp/v1/proxy/v2/" ++ w.action.url
      headers := headers
      params := r.1 },
    { state := { w.state with endpoint := endpoint }
      entityTreeCache := r.2
      action := action })

end Requests

end Stratos
