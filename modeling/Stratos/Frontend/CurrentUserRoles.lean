import Stratos.Lib.JsObject

/-!
# The current-user-roles store

The slice of the front-end store that holds what the logged-in user may do
(`ICurrentUserRolesState`), and `currentUserRolesReducer` with its sub-reducers
(`current-user-roles-reducer/*.ts`).

Objects keyed by guid are `JsObject`s. A reducer that reads a property of `undefined`
throws a `TypeError` : every reducer returns an `Option`, and `none` is the throw.
-/

open Lib

namespace Stratos

/-! ## The state -/

/-- Progress of a roles request. -/
structure RolesRequestState where
  initialised : Bool
  fetching : Bool
  error : Bool
  deriving DecidableEq

/-- Nothing was requested yet. -/
def getDefaultRolesRequestState : RolesRequestState where
  initialised := false
  fetching := false
  error := false

/-- What the scopes of the user say at one endpoint. -/
structure IGlobalRolesState where
  isAdmin : Bool
  isReadOnlyAdmin : Bool
  isGlobalAuditor : Bool
  canRead : Bool
  canWrite : Bool
  scopes : List String
  deriving DecidableEq

/-- The roles of the user in a space. -/
structure ISpaceRoleState where
  /-- `undefined` when what brought the space has no organisation. The `null` of the default state
  is replaced before a space is recorded (`addId`, `createEmptyState`). -/
  orgId : Option String
  isManager : Bool
  isAuditor : Bool
  isDeveloper : Bool
  deriving DecidableEq

/-- The roles of the user in an organisation, with the spaces it lists. -/
structure IOrgRoleState where
  isManager : Bool
  isAuditor : Bool
  isBillingManager : Bool
  isUser : Bool
  spaceGuids : List String
  deriving DecidableEq

/-- Roles of one CF endpoint. -/
structure ICfRolesState where
  global : IGlobalRolesState
  spaces : JsObject ISpaceRoleState
  organizations : JsObject IOrgRoleState
  state : RolesRequestState
  deriving DecidableEq

/-- The roles of the user in the console itself. -/
structure IStratosRolesState where
  isAdmin : Bool
  scopes : List String
  deriving DecidableEq

/-- The slice of the store with the roles of the connected user. -/
structure ICurrentUserRolesState where
  internal : IStratosRolesState
  cf : JsObject ICfRolesState
  state : RolesRequestState
  deriving DecidableEq

/-- An endpoint at which the user has no roles. -/
def getDefaultEndpointRoles : ICfRolesState where
  global :=
    { isAdmin := false
      isReadOnlyAdmin := false
      isGlobalAuditor := false
      canRead := false
      canWrite := false
      scopes := [] }
  spaces := JsObject.empty
  organizations := JsObject.empty
  state := getDefaultRolesRequestState

/-- The slice before a session is verified. -/
def getDefaultState : ICurrentUserRolesState where
  internal := { isAdmin := false, scopes := [] }
  cf := JsObject.empty
  state := getDefaultRolesRequestState

/-- A space in which the user has no roles. -/
def defaultUserSpaceRoleState : ISpaceRoleState where
  orgId := none
  isManager := false
  isAuditor := false
  isDeveloper := false

/-- An organisation in which the user has no roles. -/
def createOrgRoleStateState : IOrgRoleState where
  isManager := false
  isAuditor := false
  isBillingManager := false
  isUser := false
  spaceGuids := []

/-! ## Relation loads -/

/-- The lists of organisations and spaces that are fetched for the user. -/
inductive UserRelationTypes
  | auditedOrganizations
  | billingManagedOrganization
  | managedOrganization
  | organizations
  | auditedSpaces
  | managedSpaces
  | spaces
  deriving DecidableEq

/-- What the roles reducers read of an API resource. -/
structure APIResource where
  /-- `metadata.guid` -/
  guid : String
  /-- `entity.organization_guid`, `undefined` for an organisation. -/
  organizationGuid : Option String
  deriving DecidableEq

/-- `GetCurrentUserRelationsComplete` -/
structure GetCurrentUserRelationsComplete where
  relationType : UserRelationTypes
  endpointGuid : String
  data : List APIResource

/-- The list is one of organisations. -/
def isOrgRelation : UserRelationTypes → Bool
  | .auditedOrganizations => true
  | .billingManagedOrganization => true
  | .managedOrganization => true
  | .organizations => true
  | _ => false

/-- The list is one of spaces. -/
def isSpaceRelation : UserRelationTypes → Bool
  | .auditedSpaces => true
  | .managedSpaces => true
  | .spaces => true
  | _ => false

/-- A reducer of one org's or space's roles : `roleFinalReducer`. Both the state and the
resource may be `undefined`. -/
abbrev RoleFinalReducer (T : Type) :=
  Option T → UserRelationTypes → Bool → Option APIResource → Option T

/-- The roles of those that the list has, and their ids. -/
def addNewRoles {T : Type} (state : JsObject T) (action : GetCurrentUserRelationsComplete)
    (reducer : RoleFinalReducer T) : Option (JsObject T × List String) :=
  action.data.foldlM (fun (config : JsObject T × List String) data => do
    let role ← reducer (config.1.get? data.guid) action.relationType true (some data)
    return (config.1.set data.guid role, config.2 ++ [data.guid])) (state, [])

/-- The retained branch returns `state`, the object the fold started from, and not the
accumulator. -/
def removeOldRoles {T : Type} (state : JsObject T) (action : GetCurrentUserRelationsComplete)
    (newIds : List String) (reducer : RoleFinalReducer T) : Option (JsObject T) :=
  state.ownKeys.foldlM (fun (currentState : JsObject T) id =>
    if id ∈ newIds then some state
    else do
      let role ← reducer (currentState.get? id) action.relationType false none
      return currentState.set id role) state

/-- The role of the relation set or cleared, of an organisation that may be new. -/
def currentUserOrgRoleReducer : RoleFinalReducer IOrgRoleState :=
  fun state? relationType userHasRelation _ =>
    let state := state?.getD createOrgRoleStateState
    match relationType with
    | .auditedOrganizations => some { state with isAuditor := userHasRelation }
    | .billingManagedOrganization => some { state with isBillingManager := userHasRelation }
    | .managedOrganization => some { state with isManager := userHasRelation }
    | .organizations => some { state with isUser := userHasRelation }
    | _ => some state

/-- `!orgId` : a missing or an empty org id. -/
def noOrgId (orgId : Option String) : Bool := orgId.getD "" = ""

/-- Throws when the org id is missing and no space resource was passed. -/
def addId (state : ISpaceRoleState) (space : Option APIResource) : Option ISpaceRoleState :=
  if noOrgId state.orgId then do
    let space ← space
    return { state with orgId := space.organizationGuid }
  else some state

/-- The role of the relation set or cleared. -/
def applyRoles (state : ISpaceRoleState) (relationType : UserRelationTypes)
    (userHasRelation : Bool) : ISpaceRoleState :=
  match relationType with
  | .auditedSpaces => { state with isAuditor := userHasRelation }
  | .managedSpaces => { state with isManager := userHasRelation }
  | .spaces => { state with isDeveloper := userHasRelation }
  | _ => state

/-- The role of the relation set or cleared, of a space that may be new. -/
def currentUserSpaceRoleReducer : RoleFinalReducer ISpaceRoleState :=
  fun state? relationType userHasRelation space => do
    let idState ← addId (state?.getD defaultUserSpaceRoleState) space
    return applyRoles idState relationType userHasRelation

/-- Those of the list have its role, and the others lose it. -/
def currentUserOrgRolesReducer (state : JsObject IOrgRoleState)
    (action : GetCurrentUserRelationsComplete) : Option (JsObject IOrgRoleState) := do
  let (newState, addedIds) ← addNewRoles state action currentUserOrgRoleReducer
  removeOldRoles newState action addedIds currentUserOrgRoleReducer

/-- Those of the list have its role, and the others lose it. -/
def currentUserSpaceRolesReducer (state : JsObject ISpaceRoleState)
    (action : GetCurrentUserRelationsComplete) : Option (JsObject ISpaceRoleState) := do
  let (newState, addedIds) ← addNewRoles state action currentUserSpaceRoleReducer
  removeOldRoles newState action addedIds currentUserSpaceRoleReducer

/-- The key an `undefined` guid is written under. -/
def propertyKey (guid : Option String) : String := guid.getD "undefined"

/-- Each space is listed by its organisation, which is made if there is none. -/
def assignSpaceToOrg (organizations : JsObject IOrgRoleState) (spaces : List APIResource) :
    JsObject IOrgRoleState :=
  spaces.foldl (fun newOrganizations space =>
    let orgGuid := propertyKey space.organizationGuid
    let org := (newOrganizations.get? orgGuid).getD createOrgRoleStateState
    if space.guid ∈ org.spaceGuids then newOrganizations
    else newOrganizations.set orgGuid { org with spaceGuids := org.spaceGuids ++ [space.guid] })
    organizations

/-- The roles at an endpoint after a list came. -/
def currentUserCFRolesReducer (state : ICfRolesState) (action : GetCurrentUserRelationsComplete) :
    Option ICfRolesState :=
  if isOrgRelation action.relationType then do
    let organizations ← currentUserOrgRolesReducer state.organizations action
    return { state with organizations := organizations }
  else if isSpaceRelation action.relationType then do
    let spaces ← currentUserSpaceRolesReducer state.spaces action
    return { state with
      spaces := spaces
      organizations := assignSpaceToOrg state.organizations action.data }
  else some state

/-- The endpoints after a list came. An endpoint that is not there is made. -/
def currentUserBaseCFRolesReducer (state : JsObject ICfRolesState)
    (action : GetCurrentUserRelationsComplete) : Option (JsObject ICfRolesState) := do
  let endpoint := (state.get? action.endpointGuid).getD getDefaultEndpointRoles
  let endpoint ← currentUserCFRolesReducer endpoint action
  return state.set action.endpointGuid endpoint

/-! ## Sessions and connected endpoints -/

/-- `ScopeStrings` of the global flags. Both the read and the write flag follow
`cloud_controller.write`. -/
def cfAdminGroup : String := "cloud_controller.admin"
/-- The scope of a read only administrator. -/
def cfReadOnlyAdminGroup : String := "cloud_controller.admin_read_only"
/-- The scope of a global auditor. -/
def cfAdminGlobalAuditorGroup : String := "cloud_controller.global_auditor"
/-- The scope that allows to write. -/
def cfWriteScope : String := "cloud_controller.write"
-- The source has the literal of the write scope here, too.
/-- The scope that is taken to allow to read. -/
def cfReadScope : String := "cloud_controller.write"

/-- `SessionUser` and `EndpointUser`, whose scopes may be missing. -/
structure EndpointUser where
  admin : Bool
  scopes : Option (List String)

/-- What the roles need of an endpoint. -/
structure PartialEndpoint where
  user : Option EndpointUser
  guid : String

/-- The parts of `VerifiedSession.sessionData` the roles read. -/
structure SessionData where
  user : Option EndpointUser
  /-- The values of `endpoints.cf`; `none` if `endpoints` or its `cf` is missing. -/
  endpointsCf : Option (List PartialEndpoint)

/-- The types of endpoints. The roles are those of `web` ones. -/
inductive EndpointType
  | web
  | other
  deriving DecidableEq

/-- The outcome of an operation on an endpoint, as the roles read it. -/
structure EndpointActionComplete where
  guid : String
  endpointType : EndpointType
  /-- `endpoint.guid` and `endpoint.user`; `none` if the action carries no endpoint. -/
  endpoint : Option PartialEndpoint

/-- The roles that the scopes give, besides those there are. -/
def getEndpointRoles (scopes : List String) (globalEndpointState : IGlobalRolesState) :
    IGlobalRolesState :=
  scopes.foldl (fun roles scope =>
    { roles with
      isAdmin := roles.isAdmin || scope = cfAdminGroup
      isReadOnlyAdmin := roles.isReadOnlyAdmin || scope = cfReadOnlyAdminGroup
      isGlobalAuditor := roles.isGlobalAuditor || scope = cfAdminGlobalAuditorGroup
      canRead := roles.canRead || scope = cfReadScope
      canWrite := roles.canWrite || scope = cfWriteScope })
    { globalEndpointState with scopes := scopes }

/-- Throws when the endpoint has a user without scopes. -/
def propagateEndpointAdminPermissions (state : Option ICfRolesState) (endpoint : PartialEndpoint) :
    Option ICfRolesState := do
  let state := state.getD getDefaultEndpointRoles
  let scopes ← match endpoint.user with
    | some user => user.scopes
    | none => some []
  return { state with global := getEndpointRoles scopes state.global }

/-- The roles by scopes at each of the endpoints. -/
def propagateEndpointsAdminPermissions (cfState : JsObject ICfRolesState)
    (endpoints : List PartialEndpoint) : Option (JsObject ICfRolesState) :=
  endpoints.foldlM (fun state endpoint => do
    let roles ← propagateEndpointAdminPermissions (state.get? endpoint.guid) endpoint
    return state.set endpoint.guid roles) cfState

/-- The roles in the console, if the session has a user. -/
def applyInternalScopes (state : ICurrentUserRolesState) (cfRoles : JsObject ICfRolesState)
    (user : Option EndpointUser) : ICurrentUserRolesState :=
  match user with
  | some user =>
    { state with
      cf := cfRoles
      internal := { scopes := user.scopes.getD [], isAdmin := user.admin } }
  | none => { state with cf := cfRoles }

/-- The roles that a verified session brings. -/
def roleInfoFromSessionReducer (state : ICurrentUserRolesState) (sessionData : SessionData) :
    Option ICurrentUserRolesState := do
  let endpoints ← sessionData.endpointsCf
  let cfRoles ← propagateEndpointsAdminPermissions state.cf endpoints
  return applyInternalScopes state cfRoles sessionData.user

/-- The roles by scopes at an endpoint that was connected. -/
def updateNewlyConnectedEndpoint (state : ICurrentUserRolesState)
    (action : EndpointActionComplete) : Option ICurrentUserRolesState :=
  if action.endpointType ≠ .web then some state
  else do
    let endpoint ← action.endpoint
    let cfRoles ← propagateEndpointsAdminPermissions state.cf
      [{ user := endpoint.user, guid := action.guid }]
    return { state with cf := cfRoles }

/-- The test for a known endpoint reads `state[guid]`, a property of the whole slice. -/
def addEndpoint (state : ICurrentUserRolesState) (action : EndpointActionComplete) :
    Option ICurrentUserRolesState := do
  let endpoint ← action.endpoint
  if action.endpointType ≠ .web ∨ endpoint.guid ∈ ["internal", "cf", "state"] then
    return state
  else
    return { state with cf := state.cf.set endpoint.guid getDefaultEndpointRoles }

/-- The roles at an endpoint go with it. -/
def removeEndpointRoles (state : ICurrentUserRolesState) (action : EndpointActionComplete) :
    ICurrentUserRolesState :=
  if action.endpointType ≠ .web ∨ (state.cf.get? action.guid).isNone then state
  else { state with cf := state.cf.erase action.guid }

/-! ## Deleted organisations and spaces -/

/-- The parts of a delete request the roles read. -/
structure DeleteAction where
  endpointGuid : String
  guid : String

/-- `removeSpaceRoles` computes the state without the space and drops it : only the
organisation's `spaceGuids` change. -/
def removeSpaceRoles (state : ICurrentUserRolesState) (action : DeleteAction) :
    Option ICurrentUserRolesState := do
  let cf ← state.cf.get? action.endpointGuid
  match cf.spaces.get? action.guid with
  | none => return state
  | some space =>
    let orgId := propertyKey space.orgId
    let org ← cf.organizations.get? orgId
    let org := { org with spaceGuids := org.spaceGuids.filter (· ≠ action.guid) }
    return { state with
      cf := state.cf.set action.endpointGuid
        { cf with organizations := cf.organizations.set orgId org } }

/-- The spaces of the organisation are kept : `spaceIds` is always empty. -/
def removeOrgRoles (state : ICurrentUserRolesState) (action : DeleteAction) :
    Option ICurrentUserRolesState := do
  let cf ← state.cf.get? action.endpointGuid
  match cf.organizations.get? action.guid with
  | none => return state
  | some _ =>
    return { state with
      cf := state.cf.set action.endpointGuid
        { cf with organizations := cf.organizations.erase action.guid } }

/-! ## Role changes -/

/-- `OrgUserRoleNames` and `SpaceUserRoleNames`, whose values overlap. -/
inductive UserRoleNames
  | managers
  | billingManagers
  | auditors
  | users
  | developers
  deriving DecidableEq

/-- A change of one role of a user. -/
structure ChangeUserRole where
  endpointGuid : String
  permissionTypeKey : UserRoleNames
  entityGuid : String
  isSpace : Bool
  updateConnectedUser : Bool
  orgGuid : Option String

/-- `orgState[permType]`, `undefined` for a role organisations do not have. -/
def IOrgRoleState.permission? (org : IOrgRoleState) : UserRoleNames → Option Bool
  | .managers => some org.isManager
  | .billingManagers => some org.isBillingManager
  | .auditors => some org.isAuditor
  | .users => some org.isUser
  | .developers => none

/-- The organisation with the role of the key set or cleared. -/
def IOrgRoleState.setPermission (org : IOrgRoleState) (role : UserRoleNames) (isAdd : Bool) :
    IOrgRoleState :=
  match role with
  | .managers => { org with isManager := isAdd }
  | .billingManagers => { org with isBillingManager := isAdd }
  | .auditors => { org with isAuditor := isAdd }
  | .users => { org with isUser := isAdd }
  | .developers => org

/-- `spaceState[permType]`, `undefined` for a role spaces do not have. -/
def ISpaceRoleState.permission? (space : ISpaceRoleState) : UserRoleNames → Option Bool
  | .managers => some space.isManager
  | .auditors => some space.isAuditor
  | .developers => some space.isDeveloper
  | _ => none

/-- The space with the role of the key set or cleared. -/
def ISpaceRoleState.setPermission (space : ISpaceRoleState) (role : UserRoleNames)
    (isAdd : Bool) : ISpaceRoleState :=
  match role with
  | .managers => { space with isManager := isAdd }
  | .auditors => { space with isAuditor := isAdd }
  | .developers => { space with isDeveloper := isAdd }
  | _ => space

/-- A change of a role in an organisation. -/
def handleOrgRoleChange (state : ICurrentUserRolesState) (action : ChangeUserRole)
    (cf : ICfRolesState) (orgState : IOrgRoleState) (isAdd : Bool) : ICurrentUserRolesState :=
  { state with
    cf := state.cf.set action.endpointGuid
      { cf with
        organizations := cf.organizations.set action.entityGuid
          (orgState.setPermission action.permissionTypeKey isAdd) } }

/-- Update the space role and the org's list of space guids. Throws when the org is not
there. -/
def handleSpaceRoleChange (state : ICurrentUserRolesState) (action : ChangeUserRole)
    (cf : ICfRolesState) (spaceState : ISpaceRoleState) (isAdd : Bool) :
    Option ICurrentUserRolesState := do
  let orgGuid := propertyKey action.orgGuid
  let spaceGuid := action.entityGuid
  let spacePermissions := spaceState.setPermission action.permissionTypeKey isAdd
  let org ← cf.organizations.get? orgGuid
  let spaceGuids :=
    if isAdd ∧ spaceGuid ∉ org.spaceGuids then org.spaceGuids ++ [spaceGuid]
    else if ¬isAdd ∧ spaceGuid ∈ org.spaceGuids ∧ ¬spacePermissions.isAuditor ∧
        ¬spacePermissions.isDeveloper ∧ ¬spacePermissions.isManager then
      org.spaceGuids.filter (· ≠ spaceGuid)
    else org.spaceGuids
  return { state with
    cf := state.cf.set action.endpointGuid
      { cf with
        organizations := cf.organizations.set orgGuid { org with spaceGuids := spaceGuids }
        spaces := cf.spaces.set spaceGuid spacePermissions } }

/-- A change of a role, if it is one of the connected user and changes anything. -/
def updateAfterRoleChange (state : ICurrentUserRolesState) (isAdd : Bool)
    (action : ChangeUserRole) : Option ICurrentUserRolesState :=
  if ¬action.updateConnectedUser then some state
  else do
    let cf ← state.cf.get? action.endpointGuid
    if action.isSpace then
      let entity := (cf.spaces.get? action.entityGuid).getD
        { defaultUserSpaceRoleState with orgId := action.orgGuid }
      if entity.permission? action.permissionTypeKey = some isAdd then return state
      else handleSpaceRoleChange state action cf entity isAdd
    else
      let entity := (cf.organizations.get? action.entityGuid).getD createOrgRoleStateState
      if entity.permission? action.permissionTypeKey = some isAdd then return state
      else return handleOrgRoleChange state action cf entity isAdd

/-! ## Request progress -/

/-- The three steps of a roles request. -/
inductive RequestStep
  | start
  | success
  | failed
  deriving DecidableEq

/-- The progress after a step of a request. -/
def currentUserRolesRequestStateReducer (state : RolesRequestState) :
    RequestStep → RolesRequestState
  | .start => { state with fetching := true }
  | .success => { state with initialised := true, fetching := false }
  | .failed => { state with fetching := false, error := true }

/-- The progress of the request for one endpoint. Throws without it. -/
def currentUserCfRolesRequestStateReducer (cf : JsObject ICfRolesState) (cfGuid : String)
    (step : RequestStep) : Option (JsObject ICfRolesState) := do
  let roles ← cf.get? cfGuid
  return cf.set cfGuid
    { roles with state := currentUserRolesRequestStateReducer roles.state step }

/-! ## The reducer -/

/-- The actions `currentUserRolesReducer` handles; `other` is every other action. -/
inductive RolesAction
  | getCurrentUserRelationSuccess (action : GetCurrentUserRelationsComplete)
  | sessionVerified (sessionData : SessionData)
  | registerEndpointsSuccess (action : EndpointActionComplete)
  | connectEndpointsSuccess (action : EndpointActionComplete)
  | disconnectEndpointsSuccess (action : EndpointActionComplete)
  | unregisterEndpointsSuccess (action : EndpointActionComplete)
  | deleteOrganizationSuccess (action : DeleteAction)
  | deleteSpaceSuccess (action : DeleteAction)
  | addRoleSuccess (action : ChangeUserRole)
  | removeRoleSuccess (action : ChangeUserRole)
  | getCurrentUserRelations (step : RequestStep)
  | getCurrentUserCfRelations (cfGuid : String) (step : RequestStep)
  | other

/-- The reducer of the slice. -/
def currentUserRolesReducer (state : ICurrentUserRolesState) :
    RolesAction → Option ICurrentUserRolesState
  | .getCurrentUserRelationSuccess action => do
    let cf ← currentUserBaseCFRolesReducer state.cf action
    return { state with cf := cf }
  | .sessionVerified sessionData => roleInfoFromSessionReducer state sessionData
  | .registerEndpointsSuccess action => addEndpoint state action
  | .connectEndpointsSuccess action => updateNewlyConnectedEndpoint state action
  | .disconnectEndpointsSuccess action => some (removeEndpointRoles state action)
  | .unregisterEndpointsSuccess action => some (removeEndpointRoles state action)
  | .deleteOrganizationSuccess action => removeOrgRoles state action
  | .deleteSpaceSuccess action => removeSpaceRoles state action
  | .addRoleSuccess action => updateAfterRoleChange state true action
  | .removeRoleSuccess action => updateAfterRoleChange state false action
  | .getCurrentUserRelations step =>
    some { state with state := currentUserRolesRequestStateReducer state.state step }
  | .getCurrentUserCfRelations cfGuid step => do
    let cf ← currentUserCfRolesRequestStateReducer state.cf cfGuid step
    return { state with cf := cf }
  | .other => some state

end Stratos
