import Stratos.Frontend.RoleViews
import Stratos.Lib.Batches
import Stratos.Lib.Lists

/-!
# Managing the roles of users

The wizard that adds and removes the roles of the selected users in one organisation. Its state
holds the roles that were clicked (`UsersRolesReducer`) ; a checkbox shows what was clicked, or
else the roles the users have (`getCheckedState`), and the checkbox of the org user is disabled
while it is checked and any other is (`isDisabled`). The clicked roles are compared with those of
every user (`createRolesDiff`), and the differences are executed in batches
(`executeUsersRolesChange`).

A guid that is not given is empty : the source only asks whether it is truthy.
-/

open Lib

namespace Stratos

/-! ## Roles -/

/-- The values of `OrgUserRoleNames` and `SpaceUserRoleNames`. -/
def UserRoleNames.value : UserRoleNames → String
  | managers => "managers"
  | billingManagers => "billing_managers"
  | auditors => "auditors"
  | users => "users"
  | developers => "developers"

/-- The keys of `UserRoleInOrg`, as `createUserRoleInOrg` writes them. -/
def orgUserRoleNames : List UserRoleNames := [.managers, .billingManagers, .auditors, .users]

/-- The keys of `UserRoleInSpace`, as `createUserRoleInSpace` writes them. -/
def spaceUserRoleNames : List UserRoleNames := [.managers, .developers, .auditors]

/-- A `UserRoleInOrg` or a `UserRoleInSpace`, `none` where it is undefined. -/
abbrev UserRoles := UserRoleNames → Option Bool

/-- The roles in a space. -/
structure IUserPermissionInSpace where
  name : String
  orgGuid : String
  spaceGuid : String
  permissions : UserRoles

/-- The roles in an organisation and in its spaces. -/
structure IUserPermissionInOrg where
  name : String
  orgGuid : String
  permissions : UserRoles
  spaces : JsObject IUserPermissionInSpace

/-- The roles of each user in each organisation. -/
abbrev CfUserRolesSelected := JsObject (JsObject IUserPermissionInOrg)

/-- A selected user. -/
structure PickedUser where
  guid : String
  username : Option String

/-- A change of one role of a user, in an organisation or in a space. -/
structure CfRoleChange where
  userGuid : String
  orgGuid : String
  spaceGuid : String
  add : Bool
  role : UserRoleNames
  deriving DecidableEq

/-- The state of the wizard that manages roles. -/
structure UsersRolesState where
  cfGuid : String
  users : List PickedUser
  newRoles : IUserPermissionInOrg
  changedRoles : List CfRoleChange

/-! ## The reducer -/

/-- An organisation in which nothing is selected. -/
def createDefaultOrgRoles (orgGuid : String) : IUserPermissionInOrg :=
  ⟨"", orgGuid, fun _ => none, .empty⟩

/-- A space in which nothing is selected. -/
def createDefaultSpaceRoles (orgGuid spaceGuid : String) : IUserPermissionInSpace :=
  ⟨"", orgGuid, spaceGuid, fun _ => none⟩

/-- The wizard before users are selected. -/
def defaultUsersRolesState : UsersRolesState := ⟨"", [], createDefaultOrgRoles "", []⟩

/-- The actions of the wizard. -/
inductive UsersRolesAction
  | setUsers (cfGuid : String) (users : List PickedUser)
  | clear
  | setOrg (selectedOrg : String)
  | setOrgRole (orgGuid : String) (role : UserRoleNames) (setRole : Bool)
  | setSpaceRole (orgGuid spaceGuid : String) (role : UserRoleNames) (setRole : Bool)
  | setChanges (changes : List CfRoleChange)

/-- The permissions with the role applied, `none` when that changes nothing. -/
def setPermission (permissions : UserRoles) (role : UserRoleNames) (applyRole : Bool) :
    Option UserRoles :=
  if permissions role = some applyRole then none
  else some (Function.update permissions role (some applyRole))

/-- The org user role applied too. -/
def IUserPermissionInOrg.applyUser (orgRoles : IUserPermissionInOrg) : IUserPermissionInOrg :=
  { orgRoles with permissions := Function.update orgRoles.permissions .users (some true) }

/-- A role in a space is selected, and with it that the user is one of the organisation. -/
def setSpaceRole (orgRoles : IUserPermissionInOrg) (orgGuid spaceGuid : String)
    (role : UserRoleNames) (applyRole : Bool) : IUserPermissionInOrg :=
  let spaceRoles := (orgRoles.spaces.get? spaceGuid).getD
    (createDefaultSpaceRoles orgGuid spaceGuid)
  match setPermission spaceRoles.permissions role applyRole with
  | none => { orgRoles with spaces := orgRoles.spaces.set spaceGuid spaceRoles }
  | some permissions =>
    let orgRoles := { orgRoles with
      spaces := orgRoles.spaces.set spaceGuid { spaceRoles with permissions := permissions } }
    if applyRole then orgRoles.applyUser else orgRoles

/-- The new roles, `none` when nothing changes. No role is called `user`. -/
def setOrgRole (orgRoles : IUserPermissionInOrg) (role : UserRoleNames) (applyRole : Bool) :
    Option IUserPermissionInOrg :=
  match setPermission orgRoles.permissions role applyRole with
  | none => none
  | some permissions =>
    let orgRoles := { orgRoles with permissions := permissions }
    if role.value ≠ "user" ∧ applyRole then some orgRoles.applyUser else some orgRoles

/-- A role is selected, in a space if there is a guid of one. -/
def setRole (existingState : UsersRolesState) (orgGuid spaceGuid : String)
    (role : UserRoleNames) (applyRole : Bool) : UsersRolesState :=
  let newOrgRoles :=
    if spaceGuid ≠ "" then
      some (setSpaceRole existingState.newRoles orgGuid spaceGuid role applyRole)
    else setOrgRole existingState.newRoles role applyRole
  match newOrgRoles with
  | none => existingState
  | some newRoles => { existingState with newRoles := newRoles }

/-- The reducer of the wizard. -/
def UsersRolesReducer (state : UsersRolesState) : UsersRolesAction → UsersRolesState
  | .setUsers cfGuid users =>
    -- Clear all roles but retain the selected org
    { state with
      cfGuid := cfGuid
      users := users
      newRoles := createDefaultOrgRoles state.newRoles.orgGuid }
  | .clear => defaultUsersRolesState
  | .setOrg selectedOrg => { state with newRoles := createDefaultOrgRoles selectedOrg }
  | .setOrgRole orgGuid role applyRole => setRole state orgGuid "" role applyRole
  | .setSpaceRole orgGuid spaceGuid role applyRole =>
    setRole state orgGuid spaceGuid role applyRole
  | .setChanges changes => { state with changedRoles := changes }

/-! ## The checkbox -/

/-- What is selected for a role in the organisation or in a space. -/
def hasRole (role : UserRoleNames) (orgRoles : IUserPermissionInOrg) (spaceGuid : String) :
    Option Bool :=
  if spaceGuid ≠ "" then (orgRoles.spaces.get? spaceGuid).bind (·.permissions role)
  else orgRoles.permissions role

/-- The user has the role in the organisation or in a space. -/
def hasExistingRole (role : UserRoleNames) (roles : CfUserRolesSelected)
    (userGuid orgGuid spaceGuid : String) : Bool :=
  match (roles.get? userGuid).bind (·.get? orgGuid) with
  | some orgRoles => (hasRole role orgRoles spaceGuid).getD false
  | none => false

/-- What a checkbox shows, `none` for the tertiary state. -/
structure CheckedState where
  checked : Option Bool
  tooltip : String
  deriving DecidableEq

section Checkbox

variable (users : List PickedUser) (existingRoles : CfUserRolesSelected)
  (newRoles : IUserPermissionInOrg) (orgGuid : String)

/-- The loop over the users : the names of those with the role, and whether one is without. -/
def usersWithRole (role : UserRoleNames) (spaceGuid : String) (users : List PickedUser) :
    String × Bool :=
  users.foldl (fun (tooltip, oneWithout) user =>
    if hasExistingRole role existingRoles user.guid orgGuid spaceGuid then
      (tooltip ++ user.username.getD "undefined" ++ ", ", oneWithout)
    else (tooltip, true)) ("", false)

/-- What the checkbox of a role shows, and who has the role if only some of the users do. -/
def getCheckedState (role : UserRoleNames) (spaceGuid : String) : CheckedState :=
  -- Has the user set any state for this role? If so this overrides all other settings
  match hasRole role newRoles spaceGuid with
  | some checked => ⟨some checked, ""⟩
  | none =>
    match users with
    | [user] => ⟨some (hasExistingRole role existingRoles user.guid orgGuid spaceGuid), ""⟩
    | users =>
      let (tooltip, oneWithout) := usersWithRole existingRoles orgGuid role spaceGuid users
      if tooltip = "" then ⟨some false, tooltip⟩
      else if ¬oneWithout then ⟨some true, ""⟩
      else ⟨none, String.ofList (tooltip.toList.take (tooltip.length - 2))⟩

/-- One turn of the loop of `hasSpaceRole`. -/
def checkSpace (checkedSpaces : List String) (spaceGuid : String) : Option (List String) :=
  if spaceGuid ∈ checkedSpaces then some checkedSpaces
  else
    if spaceUserRoleNames.any fun role =>
      (getCheckedState users existingRoles newRoles orgGuid role spaceGuid).checked ≠ some false
    then none
    else some (spaceGuid :: checkedSpaces)

/-- `none` when a space has a role, and else the spaces checked so far. -/
def hasSpaceRole (spaces : JsObject IUserPermissionInSpace) (checkedSpaces : List String) :
    Option (List String) :=
  spaces.ownKeys.foldlM (checkSpace users existingRoles newRoles orgGuid) checkedSpaces

/-- The new space roles, then those of each user. `none` when a space has a role. -/
def checkSpaceRoles : Option (List String) := do
  let checkedSpaces ← hasSpaceRole users existingRoles newRoles orgGuid newRoles.spaces []
  existingRoles.ownKeys.foldlM (fun checkedSpaces userGuid =>
    match (existingRoles.get? userGuid).bind (·.get? orgGuid) with
    | none => some checkedSpaces
    | some org => hasSpaceRole users existingRoles newRoles orgGuid org.spaces checkedSpaces)
    checkedSpaces

/-- Another role in the organisation or in one of its spaces is on, or on for some. -/
def hasOrgSpaceRole : Bool :=
  [UserRoleNames.managers, .billingManagers, .auditors].any (fun role =>
    (getCheckedState users existingRoles newRoles orgGuid role "").checked ≠ some false) ||
  (checkSpaceRoles users existingRoles newRoles orgGuid).isNone

/-- The checkbox is disabled. -/
def isDisabled (isOrgRole : Bool) (role : UserRoleNames) (checked : Option Bool) : Bool :=
  if isOrgRole ∧ role = .users then
    -- Never disabled if it's not enabled/semi enabled
    if checked = some false then false
    else hasOrgSpaceRole users existingRoles newRoles orgGuid
  else false

end Checkbox

/-- The inputs of a `CfRoleCheckboxComponent` : a role of the organisation or of a space. -/
@[ext]
structure CfRoleCheckbox where
  spaceGuid : String
  role : UserRoleNames
  role_mem : role ∈ if spaceGuid = "" then orgUserRoleNames else spaceUserRoleNames
  deriving DecidableEq

namespace CfRoleCheckbox

/-- The checkbox of the org user. -/
def orgUser : CfRoleCheckbox := ⟨"", .users, by decide⟩

/-- What the checkbox shows in a state. -/
def checkedState (box : CfRoleCheckbox) (existingRoles : CfUserRolesSelected)
    (state : UsersRolesState) : CheckedState :=
  getCheckedState state.users existingRoles state.newRoles state.newRoles.orgGuid box.role
    box.spaceGuid

/-- Whether a click changes the checkbox : it shows something and is not disabled. -/
def enabled (box : CfRoleCheckbox) (existingRoles : CfUserRolesSelected)
    (state : UsersRolesState) : Bool :=
  !state.users.isEmpty && state.newRoles.orgGuid ≠ "" &&
    !isDisabled state.users existingRoles state.newRoles state.newRoles.orgGuid
      (box.spaceGuid = "") box.role (box.checkedState existingRoles state).checked

/-- The action of a click that leaves the checkbox `checked`. -/
def roleUpdated (box : CfRoleCheckbox) (orgGuid : String) (checked : Bool) : UsersRolesAction :=
  if box.spaceGuid = "" then .setOrgRole orgGuid box.role checked
  else .setSpaceRole orgGuid box.spaceGuid box.role checked

end CfRoleCheckbox

/-! ## The differences -/

/-- The keys are those of `oldPerms`. -/
def comparePermissions (userGuid orgGuid spaceGuid : String) (keys : List UserRoleNames)
    (oldPerms newPerms : UserRoles) : List CfRoleChange :=
  keys.filterMap fun permKey =>
    match newPerms permKey with
    | none => none
    | some add =>
      if (oldPerms permKey).getD false ≠ add then
        some ⟨userGuid, orgGuid, spaceGuid, add, permKey⟩
      else none

/-- The changes of one user, of the organisation before those of its spaces. -/
def createRolesUserDiff (existingRoles : CfUserRolesSelected) (newRoles : IUserPermissionInOrg)
    (user : PickedUser) (orgGuid : String) : List CfRoleChange :=
  let existingUserRoles := (existingRoles.get? user.guid).getD .empty
  let existingOrgRoles := (existingUserRoles.get? orgGuid).getD (createDefaultOrgRoles orgGuid)
  -- Compare org roles
  comparePermissions user.guid orgGuid "" orgUserRoleNames existingOrgRoles.permissions
    newRoles.permissions ++
  -- Compare space roles
  newRoles.spaces.ownKeys.flatMap fun spaceGuid =>
    match newRoles.spaces.get? spaceGuid with
    | none => []
    | some newSpace =>
      let oldSpace := (existingOrgRoles.spaces.get? spaceGuid).getD
        (createDefaultSpaceRoles orgGuid spaceGuid)
      comparePermissions user.guid orgGuid spaceGuid spaceUserRoleNames oldSpace.permissions
        newSpace.permissions

/-- The changes of all users, and the state they are set in. -/
def createRolesDiff (existingRoles : CfUserRolesSelected) (orgGuid : String)
    (state : UsersRolesState) : List CfRoleChange × UsersRolesState :=
  let changes := state.users.flatMap fun user =>
    createRolesUserDiff existingRoles state.newRoles user orgGuid
  (changes, UsersRolesReducer state (.setChanges changes))

/-! ## The execution -/

/-- What happens in the wizard once the users are selected. -/
inductive WizardEvent
  | setOrg (selectedOrg : String)
  | click (box : CfRoleCheckbox)
  /-- The differences are computed, after a click or when the step is left. -/
  | createRolesDiff

/-- A click toggles what the checkbox shows ; a click on a disabled one cannot happen. -/
def wizardStep (existingRoles : CfUserRolesSelected) (state : UsersRolesState) :
    WizardEvent → Option UsersRolesState
  | .setOrg selectedOrg => some (UsersRolesReducer state (.setOrg selectedOrg))
  | .click box =>
    if box.enabled existingRoles state then
      let checked := !(box.checkedState existingRoles state).checked.getD false
      some (UsersRolesReducer state (box.roleUpdated state.newRoles.orgGuid checked))
    else none
  | .createRolesDiff => some (createRolesDiff existingRoles state.newRoles.orgGuid state).2

end Stratos
