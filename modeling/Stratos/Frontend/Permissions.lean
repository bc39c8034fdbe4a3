import Stratos.Frontend.EndpointEffects
import Stratos.Frontend.EntityRelations

/-!
# What the user may do

`CurrentUserPermissionsService.can` answers whether the logged-in user may do something, from the
permissions that are asked for (`PermissionConfig`) and the roles, scopes and feature flags of the
store.

An observable is read as a function of the store : its value, or `none` where it emits nothing, as
`combineLatest` does of no observables. A throw is `none` as well.
-/

open Lib

namespace Stratos

/-! ## Permissions -/

/-- What a permission is checked against. -/
inductive PermissionTypes
  | space
  | organization
  | endpoint
  | endpointScope
  | featureFlag
  | stratos
  | stratosScope
  deriving DecidableEq

/-- The value of the type, which groups are filed under. -/
def PermissionTypes.value : PermissionTypes → String
  | space => "spaces"
  | organization => "organizations"
  | endpoint => "endpoint"
  | endpointScope => "endpoint-scope"
  | featureFlag => "feature-flag"
  | stratos => "internal"
  | stratosScope => "internal-scope"

/-- The permissions that are roles. -/
inductive PermissionStrings
  | global
  | isManager
  | isAuditor
  | isDeveloper
  | isBillingManager
  | isUser
  | isAdmin
  deriving DecidableEq

/-- The name of the property with the role. -/
def PermissionStrings.value : PermissionStrings → String
  | global => "global"
  | isManager => "isManager"
  | isAuditor => "isAuditor"
  | isDeveloper => "isDeveloper"
  | isBillingManager => "isBillingManager"
  | isUser => "isUser"
  | isAdmin => "isAdmin"

/-- A role, or the name of a scope or of a feature flag. -/
inductive PermissionValues
  | permission (permission : PermissionStrings)
  | name (s : String)
  deriving DecidableEq

/-- The permission as a text. -/
def PermissionValues.value : PermissionValues → String
  | permission p => p.value
  | name s => s

/-- One check. -/
structure PermissionConfig where
  type : PermissionTypes
  permission : PermissionValues
  deriving DecidableEq

/-- A check, or several that are combined. -/
inductive PermissionConfigType
  | single (config : PermissionConfig)
  | array (configs : List PermissionConfig)

/-- `PERMISSIONS__ALL_SPACES_PLEASE`, in place of the guid of a space. -/
def ALL_SPACES : String := "PERMISSIONS__ALL_SPACES_PLEASE"

/-! ## The store -/

/-- A feature flag of an endpoint. -/
structure IFeatureFlag where
  name : String
  enabled : Bool
  deriving DecidableEq

/-- The parts of an endpoint that are read. -/
structure PermissionEndpoint where
  guid : String
  registered : Bool
  cnsi_type : EndpointType
  deriving DecidableEq

/-- What the service reads of the store. -/
structure PermissionStore where
  currentUserRoles : ICurrentUserRolesState
  endpoints : JsObject PermissionEndpoint
  /-- The current page of feature flags by pagination key, once it is loaded. -/
  featureFlags : JsObject (List IFeatureFlag)

/-- The arguments of `can` but for the action. -/
structure PermissionArgs where
  endpointGuid : Option String := none
  orgOrSpaceGuid : Option String := none
  spaceGuid : Option String := none

/-- The guid, where it is truthy. -/
def given (guid : Option String) : Option String := guid.filter (· ≠ "")

/-- `state[permission] || false` -/
def IStratosRolesState.has (state : IStratosRolesState) : PermissionValues → Bool
  | .permission .isAdmin => state.isAdmin
  | _ => false

/-- The permission is set at the endpoint. -/
def IGlobalRolesState.has (state : IGlobalRolesState) : PermissionValues → Bool
  | .permission .isAdmin => state.isAdmin
  | _ => false

/-- The permission is set in the organisation. -/
def IOrgRoleState.has (state : IOrgRoleState) : PermissionValues → Bool
  | .permission .isManager => state.isManager
  | .permission .isAuditor => state.isAuditor
  | .permission .isBillingManager => state.isBillingManager
  | .permission .isUser => state.isUser
  | _ => false

/-- The permission is set in the space. -/
def ISpaceRoleState.has (state : ISpaceRoleState) : PermissionValues → Bool
  | .permission .isManager => state.isManager
  | .permission .isAuditor => state.isAuditor
  | .permission .isDeveloper => state.isDeveloper
  | _ => false

/-- `selectPermission(state[type][guid], permission)` -/
def ICfRolesState.selectPermission (state : ICfRolesState) (type : PermissionTypes) (guid : String)
    (permission : PermissionValues) : Bool :=
  match type with
  | .space => (state.spaces.get? guid).any (·.has permission)
  | .organization => (state.organizations.get? guid).any (·.has permission)
  | _ => false

/-- Some organisation, or some space, has the permission. -/
def ICfRolesState.somePermission (state : ICfRolesState) (type : PermissionTypes)
    (permission : PermissionValues) : Bool :=
  match type with
  | .space => state.spaces.ownKeys.any (state.selectPermission .space · permission)
  | .organization =>
    state.organizations.ownKeys.any (state.selectPermission .organization · permission)
  | _ => false

/-- The permission is set in one of the spaces that the organisation lists. -/
def checkAllSpacesInOrg (orgState : Option IOrgRoleState)
    (endpointSpaces : JsObject ISpaceRoleState) (permission : PermissionValues) : Bool :=
  (orgState.elim [] (·.spaceGuids)).any fun spaceGuid =>
    (endpointSpaces.get? spaceGuid).any (·.has permission)

/-- Some space of the organisation has the permission. -/
def ICfRolesState.someSpaceOf (state : ICfRolesState) (orgGuid : String)
    (permission : PermissionValues) : Bool :=
  checkAllSpacesInOrg (state.organizations.get? orgGuid) state.spaces permission

/-- The flag of the permission is there and enabled. -/
def checkFeatureFlag (featureFlags : List IFeatureFlag) (permission : PermissionValues) : Bool :=
  (featureFlags.find? fun flag => flag.name = permission.value).any (·.enabled)

/-- Users that read only, which are read only admins, global auditors and those without the scope
for writing. -/
def IGlobalRolesState.isReadOnly (state : IGlobalRolesState) : Bool :=
  state.isGlobalAuditor || state.isReadOnlyAdmin || !state.canWrite

/-! ## The checker -/

/-- Emits once all have emitted, and nothing when there are none. -/
def combineLatest {α : Type} (checks : List (Option α)) : Option (List α) :=
  if checks.isEmpty then none else checks.mapM id

/-- The endpoints that are registered, by their guids. -/
def getRegisteredEndpoints (endpoints : JsObject PermissionEndpoint) :
    JsObject PermissionEndpoint :=
  endpoints.ownKeys.foldl (fun registered key =>
    match endpoints.get? key with
    | some endpoint => if endpoint.registered then registered.set endpoint.guid endpoint
      else registered
    | none => registered) JsObject.empty

/-- The section with the feature flags of an endpoint. -/
def createCFFeatureFlagPaginationKey (cfGuid : String) : String :=
  createEntityRelationPaginationKey endpointSchemaKey (some cfGuid) none

section Checker

variable (store : PermissionStore)

/-- The endpoints of Cloud Foundry that are registered. -/
def getAllEndpointGuids : List String :=
  let registered := getRegisteredEndpoints store.endpoints
  ((registered.ownKeys.filterMap registered.get?).filter (·.cnsi_type = .web)).map (·.guid)

/-- The endpoint that is given, or all. -/
def getEndpointGuids (endpointGuid : Option String) : List String :=
  match given endpointGuid with
  | some guid => [guid]
  | none => getAllEndpointGuids store

/-- The roles at an endpoint. -/
def getEndpointState (endpointGuid : String) : Option ICfRolesState :=
  store.currentUserRoles.cf.get? endpointGuid

/-- Emits nothing of the feature flags. A guid that is missing makes a key too. -/
def check (type : PermissionTypes) (permission : PermissionValues)
    (endpointGuid orgOrSpaceGuid : Option String) (allSpacesWithinOrg : Bool) : Option Bool :=
  match type with
  | .stratos => some (store.currentUserRoles.internal.has permission)
  | .stratosScope => some (store.currentUserRoles.internal.scopes.contains permission.value)
  | .endpointScope =>
    match given endpointGuid with
    | none => some false
    | some guid => (getEndpointState store guid).map (·.global.scopes.contains permission.value)
  | .endpoint => (getEndpointState store (endpointGuid.getD "undefined")).map
      (·.global.has permission)
  | .space | .organization =>
    (getEndpointState store (endpointGuid.getD "undefined")).map fun state =>
      if allSpacesWithinOrg then state.someSpaceOf (orgOrSpaceGuid.getD "undefined") permission
      else state.selectPermission type (orgOrSpaceGuid.getD "undefined") permission
  | .featureFlag => none

/-- A role in the console. -/
def getInternalCheck (permission : PermissionValues) : Option Bool :=
  check store .stratos permission none none false

/-- A scope of the session. -/
def getInternalScopesCheck (permission : PermissionValues) : Option Bool :=
  check store .stratosScope permission none none false

/-- The endpoint of the argument is checked once for each endpoint. -/
def getEndpointScopesCheck (permission : PermissionValues) (endpointGuid : Option String) :
    Option Bool :=
  (combineLatest ((getEndpointGuids store endpointGuid).map fun _ =>
    check store .endpointScope permission endpointGuid none false)).map (·.any id)

/-- The permission in one of the organisations or spaces of the endpoint. -/
def checkAllOfType (endpointGuid : String) (type : PermissionTypes)
    (permission : PermissionValues) : Option Bool :=
  match getEndpointState store endpointGuid with
  | none => some false
  | some state => some (state.somePermission type permission)

/-- The guid that a permission is checked on. -/
def actualGuid (type : PermissionTypes) (args : PermissionArgs) : Option String :=
  if type = .space ∧ (given args.spaceGuid).isSome ∧ args.spaceGuid ≠ some ALL_SPACES then
    args.spaceGuid
  else args.orgOrSpaceGuid

/-- A role at an endpoint, in an organisation or in a space. -/
def getCfCheck (config : PermissionConfig) (args : PermissionArgs) : Option Bool :=
  let checkAllSpaces : Bool := args.spaceGuid = some ALL_SPACES
  let guid := actualGuid config.type args
  if config.type = .endpoint ∨ (given args.endpointGuid).isSome ∧ (given guid).isSome then
    check store config.type config.permission args.endpointGuid guid checkAllSpaces
  else if (given guid).isNone then
    (combineLatest ((getEndpointGuids store args.endpointGuid).map fun endpointGuid =>
      checkAllOfType store endpointGuid config.type config.permission)).map (·.any id)
  else some false

/-- A flag at one of the endpoints, once the flags of all are there. -/
def getFeatureFlagCheck (config : PermissionConfig) (endpointGuid : Option String) : Option Bool :=
  (combineLatest ((getEndpointGuids store endpointGuid).map fun guid =>
    store.featureFlags.get? (createCFFeatureFlagPaginationKey guid))).map
      (·.any (checkFeatureFlag · config.permission))

/-- One check, by its type. -/
def getSimpleCheck (config : PermissionConfig) (args : PermissionArgs) : Option Bool :=
  match config.type with
  | .featureFlag => getFeatureFlagCheck store config args.endpointGuid
  | .organization | .space | .endpoint => getCfCheck store config args
  | .stratos => getInternalCheck store config.permission
  | .stratosScope => getInternalScopesCheck store config.permission
  | .endpointScope => getEndpointScopesCheck store config.permission args.endpointGuid

/-- The flag is that all must hold. -/
def reduceChecks (checks : List (Option Bool)) (every : Bool) : Option Bool :=
  if checks.isEmpty then some true
  else (combineLatest checks).map fun flags => if every then flags.all id else flags.any id

/-- The user administers the endpoint. -/
def getAdminCheck (endpointGuid : String) : Option Bool :=
  (getEndpointState store endpointGuid).map (·.global.isAdmin)

/-- The user administers one of the endpoints. -/
def getAdminChecks (endpointGuid : Option String) : Option Bool :=
  reduceChecks ((getEndpointGuids store endpointGuid).map (getAdminCheck store)) false

/-- `undefined` without roles. -/
def getReadOnlyCheck (endpointGuid : String) : Option Bool :=
  some ((getEndpointState store endpointGuid).any (·.global.isReadOnly))

/-- The user only reads at each of the endpoints. -/
def getReadOnlyChecks (endpointGuid : Option String) : Option Bool :=
  reduceChecks ((getEndpointGuids store endpointGuid).map (getReadOnlyCheck store)) true

end Checker

/-- What the checks of organisations and spaces are filed under. -/
def CF_GROUP : String := "__CF_TYPE__"

/-- What a check is filed under. -/
def getGroupType (config : PermissionConfig) : String :=
  if config.type = .organization ∨ config.type = .space then CF_GROUP else config.type.value

/-- The checks by what they are filed under. -/
def groupConfigs (configs : List PermissionConfig) : JsObject (List PermissionConfig) :=
  configs.foldl (fun grouped config =>
    grouped.set (getGroupType config)
      ((grouped.get? (getGroupType config)).getD [] ++ [config])) JsObject.empty

/-! ## The service -/

/-- The checks of a group, and how they are combined. -/
structure ICheckCombiner where
  checks : List (Option Bool)
  /-- `combineType` is `&&`. -/
  every : Bool := false

section Service

variable (store : PermissionStore) (args : PermissionArgs)

/-- `undefined` for the other types. -/
def getCheckFromConfig (configGroup : List PermissionConfig) (permission : String) :
    Option ICheckCombiner :=
  if permission = PermissionTypes.endpoint.value ∨
      permission = PermissionTypes.stratosScope.value then
    some { checks := configGroup.map fun config => getInternalScopesCheck store config.permission }
  else if permission = PermissionTypes.endpointScope.value then
    some { checks := configGroup.map fun config =>
      getEndpointScopesCheck store config.permission args.endpointGuid }
  else if permission = PermissionTypes.featureFlag.value then
    some
      { checks := configGroup.map fun config => getFeatureFlagCheck store config args.endpointGuid
        every := true }
  else if permission = CF_GROUP then
    some { checks := configGroup.map fun config => getCfCheck store config args }
  else none

/-- The check, unless the user administers an endpoint or only reads. -/
def applyAdminCheck (check : Option Bool) : Option Bool := do
  let isAdmin ← getAdminChecks store args.endpointGuid
  let isReadOnly ← getReadOnlyChecks store args.endpointGuid
  if isAdmin then some true
  else if isReadOnly then some false
  else check

/-- The decision of one check. -/
def getSimplePermission (actionConfig : PermissionConfig) : Option Bool :=
  let check := getSimpleCheck store actionConfig args
  if actionConfig.type = .organization ∨ actionConfig.type = .space then
    applyAdminCheck store args check
  else check

/-- All groups hold, unless the user administers an endpoint or only reads. -/
def combineChecks (checkCombiners : List (Option ICheckCombiner)) : Option Bool := do
  let checkCombiners ← checkCombiners.mapM id
  let check := (combineLatest (checkCombiners.map fun combiner =>
    reduceChecks combiner.checks combiner.every)).map (·.all id)
  applyAdminCheck store args check

/-- The decision of several checks, which are grouped. -/
def getComplexPermission (actionConfigs : List PermissionConfig) : Option Bool :=
  let groups := groupConfigs actionConfigs
  combineChecks store args (groups.ownKeys.map fun permission =>
    getCheckFromConfig store args ((groups.get? permission).getD []) permission)

/-- The decision of a configuration, once all that it needs is there. -/
def can : PermissionConfigType → Option Bool
  | .single config => getSimplePermission store args config
  | .array configs => getComplexPermission store args configs

end Service

end Stratos
