import Stratos.Frontend.RoleViews

/-!
# The missing roles of a user

The Cloud Foundry API leaves out the collections of roles that are too long. A fetch of the users
of an organisation notes which ones each user lacks (`updateUserMissingRoles`), and then merges
the response into the request data.

The note has only what the old one does not have, and takes its place. `missingRoles_of_run` says
for which sequences of fetches the note is right after each of them : a collection that the
response lacks must have been noted before exactly when the store has it. Once the note is right,
the next response has to come with every collection (`notesFit_iff_of_exact`).
-/

open Lib

namespace Stratos

/-! ## The reducers -/

/-- `Object.values(CfUserRoleParams)`. -/
def cfUserRoleParams : List CfUserRoleParams :=
  [.organizations, .managedOrgs, .billingManagerOrgs, .auditedOrgs, .spaces, .managedSpaces,
    .auditedSpaces]

theorem mem_cfUserRoleParams (role : CfUserRoleParams) : role ∈ cfUserRoleParams := by
  cases role <;> decide

/-- The collection is one of organisations. -/
def isOrgRole (role : CfUserRoleParams) : Bool :=
  role = .auditedOrgs || role = .billingManagerOrgs || role = .managedOrgs || role = .organizations

/-- The collections that a response left out. -/
structure CfUserMissingRoles where
  org : List CfUserRoleParams
  space : List CfUserRoleParams
  deriving DecidableEq

/-- Nothing was left out. -/
def getDefaultCfUserMissingRoles : CfUserMissingRoles := ⟨[], []⟩

/-- A user of the request data. -/
structure NotedUser extends CfUser where
  missingRoles : Option CfUserMissingRoles

/-- The note that has the role or not. -/
def CfUserMissingRoles.side (missing : CfUserMissingRoles) (role : CfUserRoleParams) :
    List CfUserRoleParams :=
  if isOrgRole role then missing.org else missing.space

/-- One more collection that was left out. -/
def CfUserMissingRoles.push (missing : CfUserMissingRoles) (role : CfUserRoleParams) :
    CfUserMissingRoles :=
  if isOrgRole role then { missing with org := missing.org ++ [role] }
  else { missing with space := missing.space ++ [role] }

/-- The collections that the response leaves out and that were not noted before. -/
def newMissingRoles (oldMissingRoles : CfUserMissingRoles) (user : CfUser) : CfUserMissingRoles :=
  cfUserRoleParams.foldl (fun newMissingRoles roleParam =>
    if (user.roles roleParam).isSome then newMissingRoles
    else if roleParam ∉ oldMissingRoles.side roleParam then newMissingRoles.push roleParam
    else newMissingRoles) getDefaultCfUserMissingRoles

/-- The note of a user in the store. -/
def oldMissingRoles (users : JsObject NotedUser) (guid : String) : CfUserMissingRoles :=
  ((users.get? guid).bind (·.missingRoles)).getD getDefaultCfUserMissingRoles

/-- The users of the response, each with its new note. -/
def noteMissingRoles (users usersInResponse : JsObject NotedUser) : JsObject NotedUser :=
  usersInResponse.mapValues fun guid user =>
    { user with missingRoles := some (newMissingRoles (oldMissingRoles users guid) user.toCfUser) }

/-- `{...baseObject, ...newObject}`. -/
def mergeUser (baseUser newUser : NotedUser) : NotedUser where
  roles := fun role => (newUser.roles role).or (baseUser.roles role)
  missingRoles := newUser.missingRoles.or baseUser.missingRoles

/-- The user with the note of the response, over the one in the store. -/
def mergeUserEntity (baseUser : Option NotedUser) (newUser : NotedUser) : NotedUser :=
  match baseUser with
  | some baseUser => mergeUser baseUser newUser
  | none => newUser

/-- `deepMergeState` of the users alone. What is merged is merged over the old user again. -/
def deepMergeUsers (users newUsers : JsObject NotedUser) : JsObject NotedUser :=
  users.mergeWith (fun base newUser => mergeUserEntity base (mergeUserEntity base newUser)) newUsers

/-- The users after `GET_ORGANIZATION_USERS_SUCCESS`, and those of the response, which it
changes. -/
def updateUserMissingRoles (users usersInResponse : JsObject NotedUser) :
    JsObject NotedUser × JsObject NotedUser :=
  let noted := noteMissingRoles users usersInResponse
  let haveUpdatedUsers := noted.ownKeys.any fun guid =>
    match (noted.get? guid).bind (·.missingRoles) with
    | some missing => missing.org.length ≠ 0 || missing.space.length ≠ 0
    | none => false
  (if haveUpdatedUsers then deepMergeUsers users noted else users, noted)

/-- The users after `WrapperRequestActionSuccess`. -/
def mergeUsers (users newUsers : JsObject NotedUser) : JsObject NotedUser :=
  users.mergeWith mergeUserEntity newUsers

/-- Both actions that complete the request. A response may be without users. -/
def completeOrgUsers (users : JsObject NotedUser) (response : Option (JsObject NotedUser)) :
    JsObject NotedUser :=
  match response with
  | none => users
  | some usersInResponse =>
    let (users, noted) := updateUserMissingRoles users usersInResponse
    mergeUsers users noted

/-! ## The property -/

/-- The roles of a user that the store has no collection of. -/
def lackedRoles (user : CfUser) : CfUserMissingRoles where
  org := cfUserRoleParams.filter fun role => isOrgRole role && (user.roles role).isNone
  space := cfUserRoleParams.filter fun role => !isOrgRole role && (user.roles role).isNone

/-- The user's note is right. -/
def NotedUser.Exact (user : NotedUser) : Prop :=
  user.missingRoles = some (lackedRoles user.toCfUser)

/-- The notes of the returned users are right. -/
def ReturnedExact (response : Option (JsObject NotedUser)) (users : JsObject NotedUser) : Prop :=
  ∀ usersInResponse, response = some usersInResponse → ∀ guid ∈ usersInResponse.keys,
    ∃ user, users.get? guid = some user ∧ user.Exact

/-- The notes are right after each of the fetches. -/
def ExactAfterEach : JsObject NotedUser → List (Option (JsObject NotedUser)) → Prop
  | _, [] => True
  | users, response :: responses => ReturnedExact response (completeOrgUsers users response) ∧
    ExactAfterEach (completeOrgUsers users response) responses

/-- A collection that a user comes without was noted before exactly when the store has it. -/
def NotesFit (users : JsObject NotedUser) (response : Option (JsObject NotedUser)) : Prop :=
  ∀ usersInResponse, response = some usersInResponse → ∀ guid user,
    usersInResponse.get? guid = some user → ∀ role, user.roles role = none →
      (role ∈ (oldMissingRoles users guid).side role ↔
        ∃ stored, users.get? guid = some stored ∧ (stored.roles role).isSome)

/-- The notes fit before each of the fetches. -/
def NotesFitEach : JsObject NotedUser → List (Option (JsObject NotedUser)) → Prop
  | _, [] => True
  | users, response :: responses => NotesFit users response ∧
    NotesFitEach (completeOrgUsers users response) responses

/-! ## One fetch -/

section Fetch

variable {users usersInResponse : JsObject NotedUser} {guid : String}

/-- The fold notes what the response lacks and the old note does not have. -/
theorem newMissingRoles_eq (old : CfUserMissingRoles) (user : CfUser) :
    newMissingRoles old user =
      ⟨cfUserRoleParams.filter fun role =>
          isOrgRole role && ((user.roles role).isNone && decide (role ∉ old.side role)),
        cfUserRoleParams.filter fun role =>
          !isOrgRole role && ((user.roles role).isNone && decide (role ∉ old.side role))⟩ := by
  have hfold : ∀ (roles : List CfUserRoleParams) (missing : CfUserMissingRoles),
      roles.foldl (fun newMissingRoles roleParam =>
        if (user.roles roleParam).isSome then newMissingRoles
        else if roleParam ∉ old.side roleParam then newMissingRoles.push roleParam
        else newMissingRoles) missing =
      ⟨missing.org ++ roles.filter fun role =>
          isOrgRole role && ((user.roles role).isNone && decide (role ∉ old.side role)),
        missing.space ++ roles.filter fun role =>
          !isOrgRole role && ((user.roles role).isNone && decide (role ∉ old.side role))⟩ := by
    intro roles
    induction roles with
    | nil => simp
    | cons role roles ih =>
      intro missing
      rw [List.foldl_cons, ih]
      rcases hrole : user.roles role with _ | collection
      · by_cases hold : role ∈ old.side role
        · simp [hrole, hold]
        · by_cases horg : isOrgRole role = true <;>
            simp [hrole, hold, horg, CfUserMissingRoles.push]
      · simp [hrole]
  exact hfold cfUserRoleParams getDefaultCfUserMissingRoles

theorem roles_mergeUserEntity (base : Option NotedUser) (newUser : NotedUser)
    (role : CfUserRoleParams) : (mergeUserEntity base newUser).roles role =
      (newUser.roles role).or (base.bind (·.roles role)) := by
  rcases base with _ | baseUser
  · simp [mergeUserEntity]
  · rfl

theorem missingRoles_mergeUserEntity (base : Option NotedUser) {newUser : NotedUser}
    {missing : CfUserMissingRoles} (h : newUser.missingRoles = some missing) :
    (mergeUserEntity base newUser).missingRoles = some missing := by
  rcases base with _ | baseUser
  · exact h
  · rw [mergeUserEntity, mergeUser, h]
    rfl

/-- Merging twice is merging once. -/
theorem deepMergeUsers_eq (users newUsers : JsObject NotedUser) :
    deepMergeUsers users newUsers = mergeUsers users newUsers := by
  have hmerge : ∀ base newUser,
      mergeUserEntity base (mergeUserEntity base newUser) = mergeUserEntity base newUser := by
    rintro (_ | baseUser) ⟨⟨roles⟩, missing⟩
    · rfl
    · simp [mergeUserEntity, mergeUser, Option.or_assoc]
  simp only [deepMergeUsers, mergeUsers, hmerge]

/-- A user of the response after both actions. -/
theorem get?_completeOrgUsers (users : JsObject NotedUser) {user : NotedUser}
    (h : usersInResponse.get? guid = some user) :
    ∃ stored, (completeOrgUsers users (some usersInResponse)).get? guid = some stored ∧
      stored.missingRoles = some (newMissingRoles (oldMissingRoles users guid) user.toCfUser) ∧
      ∀ role, stored.roles role = (user.roles role).or
        ((users.get? guid).bind (·.roles role)) := by
  let notedUser : NotedUser := { user with
    missingRoles := some (newMissingRoles (oldMissingRoles users guid) user.toCfUser) }
  have hnoted : (noteMissingRoles users usersInResponse).get? guid = some notedUser := by
    rw [noteMissingRoles, JsObject.get?_mapValues, h]
    rfl
  have hmerged : ∀ users' : JsObject NotedUser,
      (mergeUsers users' (noteMissingRoles users usersInResponse)).get? guid =
        some (mergeUserEntity (users'.get? guid) notedUser) := by
    intro users'
    rw [mergeUsers, JsObject.get?_mergeWith, hnoted]
  have hroles : ∀ users' : JsObject NotedUser, (∀ role, (users'.get? guid).bind (·.roles role) =
        (users.get? guid).bind (·.roles role) ∨ (users'.get? guid).bind (·.roles role) =
          (user.roles role).or ((users.get? guid).bind (·.roles role))) → ∀ role,
      (mergeUserEntity (users'.get? guid) notedUser).roles role =
        (user.roles role).or ((users.get? guid).bind (·.roles role)) := by
    intro users' hold role
    rw [roles_mergeUserEntity]
    rcases hold role with h | h
    · rw [h]
    · rw [h, ← Option.or_assoc, Option.or_self]
  simp only [completeOrgUsers, updateUserMissingRoles, deepMergeUsers_eq]
  split_ifs with hupdated
  · refine ⟨_, hmerged _, missingRoles_mergeUserEntity _ rfl, hroles _ fun role => Or.inr ?_⟩
    rw [hmerged, Option.bind_some, roles_mergeUserEntity]
  · exact ⟨_, hmerged _, missingRoles_mergeUserEntity _ rfl, hroles _ fun role => Or.inl rfl⟩

/-- A note is right when it has just the roles that the user lacks. -/
theorem newMissingRoles_eq_lackedRoles_iff {old : CfUserMissingRoles} {user stored : CfUser} :
    newMissingRoles old user = lackedRoles stored ↔ ∀ role,
      ((user.roles role = none ∧ role ∉ old.side role) ↔ stored.roles role = none) := by
  rw [newMissingRoles_eq, lackedRoles, CfUserMissingRoles.mk.injEq]
  constructor
  · rintro ⟨horg, hspace⟩ role
    have horg' := congrArg (role ∈ ·) horg
    have hspace' := congrArg (role ∈ ·) hspace
    simp only [List.mem_filter, mem_cfUserRoleParams, true_and, Bool.and_eq_true,
      Option.isNone_iff_eq_none, decide_eq_true_iff, eq_iff_iff] at horg' hspace'
    by_cases h : isOrgRole role = true
    · simpa [h] using horg'
    · simpa [h] using hspace'
  · intro h
    have heq : ∀ role, ((user.roles role).isNone && decide (role ∉ old.side role)) =
        (stored.roles role).isNone := by
      intro role
      rw [Bool.eq_iff_iff, Bool.and_eq_true, Option.isNone_iff_eq_none, Option.isNone_iff_eq_none,
        decide_eq_true_iff]
      exact h role
    simp only [heq, and_self]

/-- After a fetch the notes are right exactly when they fitted before. -/
theorem returnedExact_iff (users : JsObject NotedUser) (response : Option (JsObject NotedUser)) :
    ReturnedExact response (completeOrgUsers users response) ↔ NotesFit users response := by
  have huser : ∀ {usersInResponse : JsObject NotedUser} {guid : String} {user : NotedUser},
      usersInResponse.get? guid = some user →
      ((∃ stored, (completeOrgUsers users (some usersInResponse)).get? guid = some stored ∧
        stored.Exact) ↔ ∀ role, user.roles role = none →
          (role ∈ (oldMissingRoles users guid).side role ↔
            ∃ stored, users.get? guid = some stored ∧ (stored.roles role).isSome)) := by
    intro usersInResponse guid user h
    obtain ⟨stored, hget, hmissing, hroles⟩ := get?_completeOrgUsers users h
    have hexact : (∃ stored, (completeOrgUsers users (some usersInResponse)).get? guid =
        some stored ∧ stored.Exact) ↔ stored.Exact := by
      refine ⟨fun ⟨stored', hget', hexact⟩ => ?_, fun hexact => ⟨stored, hget, hexact⟩⟩
      rwa [Option.some.inj (hget.symm.trans hget')]
    rw [hexact, NotedUser.Exact, hmissing, Option.some.injEq, newMissingRoles_eq_lackedRoles_iff]
    refine forall_congr' fun role => ?_
    rw [hroles role]
    rcases user.roles role with _ | collection
    · rcases hbase : users.get? guid with _ | baseUser
      · simp
      · rcases hrole : baseUser.roles role with _ | collection <;> simp [hrole]
    · simp
  constructor
  · intro h usersInResponse hresponse guid user hguid
    subst hresponse
    exact (huser hguid).1 (h usersInResponse rfl guid (JsObject.mem_keys_of_get? hguid))
  · intro h usersInResponse hresponse guid hguid
    subst hresponse
    obtain ⟨user, huser'⟩ := JsObject.exists_get? hguid
    exact (huser huser').2 (h usersInResponse rfl guid user huser')

/-- Once the notes are right, they fit the responses that come with every collection. -/
theorem notesFit_iff_of_exact (hexact : ∀ guid stored, users.get? guid = some stored →
    stored.Exact) : NotesFit users (some usersInResponse) ↔
      ∀ guid user, usersInResponse.get? guid = some user → (users.get? guid).isSome →
        ∀ role, (user.roles role).isSome := by
  have hold : ∀ guid stored, users.get? guid = some stored → ∀ role,
      (role ∈ (oldMissingRoles users guid).side role ↔ stored.roles role = none) := by
    intro guid stored hstored role
    have hmissing : oldMissingRoles users guid = lackedRoles stored.toCfUser := by
      rw [oldMissingRoles, hstored, Option.bind_some, hexact guid stored hstored]
      rfl
    rw [hmissing, CfUserMissingRoles.side, lackedRoles]
    by_cases h : isOrgRole role = true <;> simp [h, mem_cfUserRoleParams]
  constructor
  · intro h guid user hguid hstored role
    obtain ⟨stored, hstored⟩ := Option.isSome_iff_exists.1 hstored
    by_contra hnone
    have hiff := h usersInResponse rfl guid user hguid role (Option.not_isSome_iff_eq_none.1 hnone)
    rw [hold guid stored hstored role] at hiff
    simp only [hstored, Option.some.injEq, exists_eq_left'] at hiff
    rcases hrole : stored.roles role with _ | collection <;> simp [hrole] at hiff
  · intro h usersInResponse' hresponse guid user hguid role hrole
    obtain rfl := Option.some.inj hresponse
    rcases hstored : users.get? guid with _ | stored
    · refine iff_of_false ?_ (by simp)
      rw [oldMissingRoles, hstored, CfUserMissingRoles.side]
      split_ifs <;> exact List.not_mem_nil
    · have hsome := h guid user hguid (by rw [hstored]; rfl) role
      rw [hrole] at hsome
      cases hsome

end Fetch

/-! ## Sequences of fetches -/

/-- The notes are right after each fetch exactly when they fit before each. -/
theorem missingRoles_of_run (users : JsObject NotedUser)
    (responses : List (Option (JsObject NotedUser))) :
    ExactAfterEach users responses ↔ NotesFitEach users responses := by
  induction responses generalizing users with
  | nil => exact Iff.rfl
  | cons response responses ih =>
    rw [ExactAfterEach, NotesFitEach, returnedExact_iff, ih]

/-- A user without spaces, in every response. -/
def userWithoutSpaces : JsObject NotedUser := JsObject.empty.set "user"
  ⟨⟨fun role => if role = .spaces then none else some []⟩, none⟩

/-- The second fetch takes the note back. -/
theorem not_exactAfterEach_twice : ¬∀ (users : JsObject NotedUser)
    (responses : List (Option (JsObject NotedUser))), ExactAfterEach users responses := by
  intro h
  obtain ⟨-, hsecond, -⟩ := h JsObject.empty [some userWithoutSpaces, some userWithoutSpaces]
  obtain ⟨user, hget, hexact⟩ := hsecond userWithoutSpaces rfl "user" (by decide)
  have hnote : (((completeOrgUsers (completeOrgUsers JsObject.empty (some userWithoutSpaces))
      (some userWithoutSpaces)).get? "user").map fun user =>
        (user.missingRoles, (user.roles .spaces).isNone)) =
      some (some getDefaultCfUserMissingRoles, true) := by
    decide
  rw [hget, Option.map_some, Option.some.injEq, hexact, Prod.mk.injEq] at hnote
  obtain ⟨hmissing, hspaces⟩ := hnote
  have hspace : CfUserRoleParams.spaces ∈ (lackedRoles user.toCfUser).space := by
    rw [lackedRoles]
    simp [mem_cfUserRoleParams, isOrgRole, Option.isNone_iff_eq_none.1 hspaces]
  rw [Option.some.inj hmissing] at hspace
  exact List.not_mem_nil hspace

end Stratos
