import Stratos.Frontend.CurrentUserRoles
import Stratos.Frontend.RequestState

/-!
# Operations on endpoints

The effects that connect, disconnect, register, unregister and update an endpoint
(`endpoint.effects.ts`). Each starts a request through `doEndpointAction`, and turns the
answer into actions that the reducers of the request info, of the request data and of the
pagination sections read.

`doEndpointAction` ends a refused request with the same `WrapperRequestActionSuccess` as an
accepted one. The actions that unregister and update an endpoint have a method called `guid`,
and their effects pass the function instead of a guid.
-/

open Lib

namespace Stratos

/-! ## Schema keys -/

/-- The type of applications. -/
def applicationSchemaKey : String := "application"
/-- The type of spaces. -/
def spaceSchemaKey : String := "space"
/-- The type of organisations. -/
def organizationSchemaKey : String := "organization"
/-- The type of services. -/
def serviceSchemaKey : String := "service"
/-- The type of users. -/
def cfUserSchemaKey : String := "user"
/-- The type of service instances. -/
def serviceInstancesSchemaKey : String := "serviceInstance"
/-- The type of endpoints. -/
def endpointSchemaKey : String := "endpoint"

/-! ## Operations -/

/-- The actions that users dispatch, with the parts that the store reads. -/
inductive EndpointOperation
  /-- `ConnectEndpoint`; the flag is `authType === 'sso'`. -/
  | connect (guid : String) (endpointType : EndpointType) (sso : Bool)
  | disconnect (guid : String) (endpointType : EndpointType)
  | unregister (guid1 name : String) (endpointType : EndpointType)
  | updateregister (name : String) (endpointType : EndpointType)
  | register (name : String) (endpointType : EndpointType)
  deriving DecidableEq

/-- The operation registers an endpoint, which has no guid yet. -/
def EndpointOperation.isRegister : EndpointOperation → Bool
  | register .. => true
  | _ => false

/-- The outcomes that the reducers are told of. -/
inductive EndpointActionType
  | connectSuccess
  | connectFailed
  | disconnectSuccess
  | disconnectFailed
  | registerSuccess
  | registerFailed
  | unregisterSuccess
  | unregisterFailed
  deriving DecidableEq

/-- The actions that reach the reducers. -/
inductive EndpointStoreAction
  | operation (op : EndpointOperation)
  | startRequestAction (apiAction : IRequestAction) (requestType : Option ApiRequestTypes)
  /-- `EndpointActionComplete`, or the object dispatched for a failure, which has no type of
  endpoint. -/
  | outcome (type : EndpointActionType) (guid : ActionGuid) (endpointType : Option EndpointType)
  | clearPaginationOfEntity (entityKey : String) (entityGuid : ActionGuid)
  | getSystemInfo
  /-- `WrapperRequestActionSuccess`, with `null` for the response. -/
  | wrapperRequestActionSuccess (apiAction : IRequestAction)
    (requestType : Option ApiRequestTypes)

/-! ## The reducers -/

/-- The status that is shown of an endpoint. -/
inductive EndpointConnectionStatus
  | connected
  | disconnected
  | unknown
  | checking
  deriving DecidableEq

/-- An endpoint in the store. -/
structure EndpointModel where
  connectionStatus : Option EndpointConnectionStatus
  /-- The other properties. -/
  fields : JsObject ParamValue
  deriving DecidableEq

/-- The parts of the store that the operations change. -/
structure EndpointStore where
  request : IRequestTypeState
  /-- The request data. Entities that are no endpoints are copied only. -/
  requestData : EntitySlices EndpointModel
  pagination : PaginationState

/-- `{...entity, connectionStatus}`. -/
def EndpointModel.withStatus (entity : Option EndpointModel) (status : EndpointConnectionStatus) :
    EndpointModel :=
  { entity.getD ⟨none, JsObject.empty⟩ with connectionStatus := some status }

/-- Only set the checking flag if there is no status. -/
def EndpointModel.checked (entity : EndpointModel) : EndpointModel :=
  if entity.connectionStatus.isSome then entity
  else EndpointModel.withStatus (some entity) .checking

/-- The endpoint with the status, if the guid is one. -/
def changeEndpointConnectionStatus (state : JsObject EndpointModel) (guid : ActionGuid)
    (status : EndpointConnectionStatus) : JsObject EndpointModel :=
  if ¬guid.truthy then state
  else state.set guid.key (EndpointModel.withStatus (state.get? guid.key) status)

/-- All endpoints are being checked. -/
def fetchingEndpointInfo (state : JsObject EndpointModel) : JsObject EndpointModel :=
  state.ownKeys.foldl (fun fetchingState guid =>
    match fetchingState.get? guid with
    | some entity => fetchingState.set guid entity.checked
    | none => fetchingState) state

/-- The reducer of the endpoints themselves. -/
def systemEndpointsReducer (state : JsObject EndpointModel) :
    EndpointStoreAction → JsObject EndpointModel
  | .getSystemInfo => fetchingEndpointInfo state
  | .outcome .connectFailed guid _ | .outcome .disconnectSuccess guid _ =>
    changeEndpointConnectionStatus state guid .disconnected
  | .outcome .disconnectFailed guid _ | .outcome .connectSuccess guid _ =>
    changeEndpointConnectionStatus state guid .connected
  | .operation (.connect guid _ _) | .operation (.disconnect guid _) =>
    changeEndpointConnectionStatus state (.text guid) .checking
  | _ => state

/-- The reducer of the entities, which drops what was deleted. -/
def entitiesReducer (state : EntitySlices EndpointModel) :
    EndpointStoreAction → EntitySlices EndpointModel
  | .wrapperRequestActionSuccess apiAction requestType =>
    if apiAction.updatingKey.isNone ∧ requestType = some .delete then
      deleteEntity state apiAction.entityKey apiAction.guid
    else state
  | _ => state

/-- The slice of the endpoints is in the default state. -/
def requestDataReducer (state : EntitySlices EndpointModel) (action : EndpointStoreAction) :
    Option (EntitySlices EndpointModel) := do
  let newState := entitiesReducer state action
  let endpoints ← newState.get? endpointSchemaKey
  return newState.set endpointSchemaKey (systemEndpointsReducer endpoints action)

/-- The reducer of the progress of requests. -/
def requestReducer (state : IRequestTypeState) : EndpointStoreAction → Option IRequestTypeState
  | .startRequestAction apiAction requestType => startRequest state apiAction requestType
  | .wrapperRequestActionSuccess apiAction requestType =>
    succeedRequest state apiAction requestType
  | _ => some state

/-- All sections of the type are empty again. -/
def paginationClearType (state : PaginationState) (entityKey : String) : PaginationState :=
  match state.get? entityKey with
  | some entityState => state.set entityKey
      (entityState.ownKeys.foldl (fun newObject key =>
        newObject.set key getDefaultPaginationEntityState) JsObject.empty)
  | none => state

/-- The sections of all types that belong to endpoints of Cloud Foundry are cleared. -/
def clearEndpointEntities (state : PaginationState) (endpointType : Option EndpointType) :
    PaginationState :=
  if endpointType = some .web then
    [applicationSchemaKey, spaceSchemaKey, organizationSchemaKey, serviceSchemaKey,
      cfUserSchemaKey, serviceInstancesSchemaKey].foldl paginationClearType state
  else state

/-- `indexOf` finds no function among the ids, and throws where there is no page. -/
def paginationClearOfMethod (state : PaginationState) (entityKey : String) :
    Option PaginationState :=
  match state.get? entityKey with
  | none => some state
  | some entityState =>
    if ∀ e ∈ entityState.entries, ∀ page ∈ e.2.ids.entries, page.2.isSome then some state else none

/-- The other actions carry no pagination key. -/
def paginationReducer (state : PaginationState) : EndpointStoreAction → Option PaginationState
  | .clearPaginationOfEntity entityKey (.text guid) =>
    paginationClearOfEntity state ⟨entityKey, guid⟩
  | .clearPaginationOfEntity entityKey (.method _) => paginationClearOfMethod state entityKey
  | .outcome .disconnectSuccess _ endpointType | .outcome .connectSuccess _ endpointType =>
    some (clearEndpointEntities state endpointType)
  | .operation (.unregister _ _ endpointType) =>
    some (clearEndpointEntities state (some endpointType))
  | _ => some state

/-- The three slices after an action. -/
def reduceEndpoint (s : EndpointStore) (action : EndpointStoreAction) : Option EndpointStore := do
  let request ← requestReducer s.request action
  let requestData ← requestDataReducer s.requestData action
  let pagination ← paginationReducer s.pagination action
  return ⟨request, requestData, pagination⟩

/-! ## The effects -/

/-- The update flag while an endpoint is connected. -/
def connectingKey : String := "connecting"
/-- The update flag while an endpoint is disconnected. -/
def disconnectingKey : String := "disconnecting"
/-- The update flag while an endpoint is registered. -/
def registeringKey : String := "registering"

/-- What the method `guid` of the actions returns. -/
def newEndpointGuid (name : String) : String := "<New Endpoint>" ++ name

/-- The arguments of `doEndpointAction`. -/
structure DoEndpointAction where
  apiAction : IRequestAction
  apiActionType : Option ApiRequestTypes
  success : EndpointActionType
  failed : EndpointActionType
  endpointType : EndpointType
  /-- An `errorMessageHandler` is passed. -/
  handlesError : Bool := false

/-- The request of an update of an endpoint. -/
def getEndpointUpdateAction (guid updatingKey : String) : IRequestAction where
  entityKey := endpointSchemaKey
  guid := .text guid
  updatingKey := some updatingKey

/-- The request of a deletion of an endpoint. -/
def getEndpointDeleteAction (guid : ActionGuid) : IRequestAction where
  entityKey := endpointSchemaKey
  guid := guid
  updatingKey := none

/-- The answer to a request. The flag of a failure is whether the response has a body. -/
inductive EndpointAnswer
  | success
  | failure (hasBody : Bool)
  deriving DecidableEq

/-- `processRegisterError` reads `e.error.error`, and throws when there is no body. -/
def answerActions (r : DoEndpointAction) : EndpointAnswer → Option (List EndpointStoreAction)
  | .success => some (
      [.outcome r.success r.apiAction.guid (some r.endpointType)] ++
      (if r.apiActionType = some .delete then
        [.clearPaginationOfEntity r.apiAction.entityKey r.apiAction.guid] else []) ++
      (if r.apiActionType = some .create then [.getSystemInfo] else []) ++
      [.wrapperRequestActionSuccess r.apiAction r.apiActionType])
  | .failure hasBody =>
    if r.handlesError ∧ ¬hasBody then none
    else some [.outcome r.failed r.apiAction.guid none,
      .wrapperRequestActionSuccess r.apiAction r.apiActionType]

section Effects

/- The source text of the method `guid` of `UnregisterEndpoint` and `UpdateregisterEndpoint`. -/
variable (source : String)

/-- The request of an operation. A connection with SSO leaves the page instead. -/
def endpointRequest : EndpointOperation → Option DoEndpointAction
  | .connect guid endpointType sso =>
    if sso then none
    else some
      { apiAction := getEndpointUpdateAction guid connectingKey
        apiActionType := none
        success := .connectSuccess
        failed := .connectFailed
        endpointType := endpointType }
  | .disconnect guid endpointType => some
      { apiAction := getEndpointUpdateAction guid disconnectingKey
        apiActionType := none
        success := .disconnectSuccess
        failed := .disconnectFailed
        endpointType := endpointType }
  | .unregister _ _ endpointType | .updateregister _ endpointType => some
      { apiAction := getEndpointDeleteAction (.method source)
        apiActionType := some .delete
        success := .unregisterSuccess
        failed := .unregisterFailed
        endpointType := endpointType }
  | .register name endpointType => some
      { apiAction := getEndpointUpdateAction (newEndpointGuid name) registeringKey
        apiActionType := some .create
        success := .registerSuccess
        failed := .registerFailed
        endpointType := endpointType
        handlesError := true }

/-- The store with the requests in flight. -/
structure EndpointSystem where
  store : EndpointStore
  /-- The operations that are not answered. -/
  pending : List EndpointOperation
  /-- The effect of registrations has ended with an error. -/
  registerEnded : Bool
  /-- The operations answered so far with whether they succeeded, the last one first. -/
  log : List (EndpointOperation × Bool)

/-- An operation is dispatched, or the operation at a place of the pending ones is
answered. -/
inductive EndpointEvent
  | dispatch (op : EndpointOperation)
  | answer (i : ℕ) (a : EndpointAnswer)

/-- The reducers handle the action before its effect starts the request. -/
def dispatchOperation (sys : EndpointSystem) (op : EndpointOperation) : Option EndpointSystem := do
  let store ← reduceEndpoint sys.store (.operation op)
  if op.isRegister ∧ sys.registerEnded then return { sys with store := store }
  else match endpointRequest source op with
    | none => return { sys with store := store, pending := sys.pending ++ [op] }
    | some r => do
      let store ← reduceEndpoint store (.startRequestAction r.apiAction r.apiActionType)
      return { sys with store := store, pending := sys.pending ++ [op] }

/-- An effect that throws ends, with all of its requests. -/
def answerOperation (sys : EndpointSystem) (i : ℕ) (a : EndpointAnswer) :
    Option EndpointSystem :=
  match sys.pending[i]? with
  | none => some sys
  | some op =>
    match endpointRequest source op with
    | none => some sys
    | some r =>
      match answerActions r a with
      | none => some { sys with
          pending := sys.pending.filter fun op => !op.isRegister
          registerEnded := true
          log := (op, false) :: sys.log }
      | some actions => do
        let store ← actions.foldlM reduceEndpoint sys.store
        return { sys with
          store := store
          pending := sys.pending.eraseIdx i
          log := (op, a = .success) :: sys.log }

/-- An operation is dispatched, or a request is answered. -/
def endpointStep (sys : EndpointSystem) : EndpointEvent → Option EndpointSystem
  | .dispatch op => dispatchOperation source sys op
  | .answer i a => answerOperation source sys i a

/-- The system after a list of events. Throws where a reducer does. -/
def runEndpoints (events : List EndpointEvent) (sys : EndpointSystem) : Option EndpointSystem :=
  events.foldlM (endpointStep source) sys

end Effects

end Stratos
