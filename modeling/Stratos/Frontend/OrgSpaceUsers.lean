import Stratos.Frontend.MissingRoles
import Stratos.Lib.Lists

/-!
# The users of an organisation or a space

An organisation or a space that is fetched lists its users by role. `orgSpacePostProcess` files it
in the collections of these users, for those whose collections the Cloud Foundry API left out. It
reads the users of the response if there is one, and else those of the store, and what it returns
is merged over the store.

`rolesAttached_iff` says when every user that is listed ends with the role and keeps the roles of
the store and of the response. A collection without the guid is merged over the one with it, and a
collection that is made for a user of the response takes the place of the stored one.
-/

open Lib

namespace Stratos

/-! ## The processor -/

/-- The entity of an organisation or a space. -/
structure OrgOrSpace extends StateEntity where
  guid : String

/-- The role lists that are looked through, with the collection of each. -/
def roleParamPairs (isSpace : Bool) : List (UserRoleNames × CfUserRoleParams) :=
  if isSpace then
    [(.developers, .spaces), (.managers, .managedSpaces), (.auditors, .auditedSpaces)]
  else
    [(.users, .organizations), (.managers, .managedOrgs), (.billingManagers, .billingManagerOrgs),
      (.auditors, .auditedOrgs)]

/-- One turn of the loop over the users of a role. Throws for a user that is not there. -/
def attachUser (existingUsers : JsObject NotedUser) (guid : String)
    (userParamName : CfUserRoleParams) (newUsers : JsObject NotedUser) (userGuid : String) :
    Option (JsObject NotedUser) := do
  let existingUser ← existingUsers.get? userGuid
  let existingRoles := (existingUser.roles userParamName).getD []
  if guid ∉ existingRoles then
    let base : NotedUser :=
      { roles := fun param =>
          if param = userParamName then some (existingRoles ++ [guid]) else none
        missingRoles := none }
    return newUsers.set userGuid (mergeUser base ((newUsers.get? userGuid).getD existingUser))
  else return newUsers

/-- The organisation or space is added to the users that it lists in a role. -/
def updateUserFromOrgSpaceArray (existingUsers newUsers : JsObject NotedUser)
    (orgOrSpace : OrgOrSpace) (orgSpaceParamName : UserRoleNames)
    (userParamName : CfUserRoleParams) : Option (JsObject NotedUser) :=
  match orgOrSpace.roles orgSpaceParamName with
  | some userGuids =>
    userGuids.foldlM (attachUser existingUsers orgOrSpace.guid userParamName) newUsers
  | none => some newUsers

/-- The users that the roles are attached to. -/
def attachRoles (isSpace : Bool) (users : JsObject NotedUser) (orgOrSpace : OrgOrSpace) :
    Option (JsObject NotedUser) :=
  (roleParamPairs isSpace).foldlM (fun newUsers pair =>
    updateUserFromOrgSpaceArray users newUsers orgOrSpace pair.1 pair.2) .empty

/-- What comes of it : the response is changed, or an action has the users. -/
inductive PostProcessed
  | unchanged
  | response (users : JsObject NotedUser)
  | action (users : JsObject NotedUser)

/-- A response without users is one with none. -/
def orgSpacePostProcess (isSpace : Bool) (orgOrSpace : OrgOrSpace) (store : JsObject NotedUser)
    (apiResponse : Option (JsObject NotedUser)) : Option PostProcessed := do
  let users := apiResponse.getD store
  let newUsers ← attachRoles isSpace users orgOrSpace
  if newUsers.ownKeys = [] then return .unchanged
  else match apiResponse with
    -- The apiResponse will make it into the store
    | some usersInResponse => return .response (mergeUsers usersInResponse newUsers)
    -- So create a mock event to push to store
    | none => return .action newUsers

/-- The users of the store once the response, or the action, has made it there. -/
def usersAfter (store : JsObject NotedUser) (apiResponse : Option (JsObject NotedUser)) :
    PostProcessed → JsObject NotedUser
  | .unchanged => match apiResponse with
    | some usersInResponse => mergeUsers store usersInResponse
    | none => store
  | .response users => mergeUsers store users
  | .action users => mergeUsers store users

/-! ## The property -/

section Property

variable (isSpace : Bool) (orgOrSpace : OrgOrSpace) (store : JsObject NotedUser)
  (apiResponse : Option (JsObject NotedUser))

/-- The entity lists the user in the role of a collection. -/
def OrgOrSpace.Lists (param : CfUserRoleParams) (userGuid : String) : Prop :=
  ∃ name userGuids, (name, param) ∈ roleParamPairs isSpace ∧
    orgOrSpace.roles name = some userGuids ∧ userGuid ∈ userGuids

/-- The guid is in a collection of the user. -/
def InCollection (users : JsObject NotedUser) (userGuid : String) (param : CfUserRoleParams)
    (guid : String) : Prop :=
  ∃ user collection, users.get? userGuid = some user ∧ user.roles param = some collection ∧
    guid ∈ collection

/-- Nothing throws, and every user that is listed has the role then and all roles from before. -/
def RolesAttached : Prop :=
  ∃ result, orgSpacePostProcess isSpace orgOrSpace store apiResponse = some result ∧
    ∀ listed userGuid, orgOrSpace.Lists isSpace listed userGuid →
      InCollection (usersAfter store apiResponse result) userGuid listed orgOrSpace.guid ∧
      ∀ param guid, InCollection store userGuid param guid ∨
          InCollection (apiResponse.getD store) userGuid param guid →
        InCollection (usersAfter store apiResponse result) userGuid param guid

/-- The user that is read is there. A collection that it has contains the guid if the role is
listed, and what the store has in it. Where it has none, the store has nothing but the guid, if the
role is listed. -/
structure Attachable (userGuid : String) (user : NotedUser) : Prop where
  listed : ∀ param collection, user.roles param = some collection →
    orgOrSpace.Lists isSpace param userGuid → orgOrSpace.guid ∈ collection
  stored : ∀ param guid, InCollection store userGuid param guid →
    (∀ collection, user.roles param = some collection → guid ∈ collection) ∧
      (user.roles param = none → orgOrSpace.Lists isSpace param userGuid → guid = orgOrSpace.guid)

end Property

/-! ## What is attached -/

section Attached

variable {isSpace : Bool} {orgOrSpace : OrgOrSpace} {existingUsers newUsers : JsObject NotedUser}
  {guid : String}

/-- The collections and the users that the loops come to. -/
def attachments (isSpace : Bool) (orgOrSpace : OrgOrSpace) : List (CfUserRoleParams × String) :=
  (roleParamPairs isSpace).flatMap fun pair =>
    ((orgOrSpace.roles pair.1).getD []).map fun userGuid => (pair.2, userGuid)

theorem mem_attachments {param : CfUserRoleParams} {userGuid : String} :
    (param, userGuid) ∈ attachments isSpace orgOrSpace ↔
      orgOrSpace.Lists isSpace param userGuid := by
  rw [attachments, List.mem_flatMap, OrgOrSpace.Lists]
  constructor
  · rintro ⟨⟨name, param'⟩, hpair, hmem⟩
    obtain ⟨userGuid', hguid, heq⟩ := List.mem_map.1 hmem
    obtain ⟨rfl, rfl⟩ := Prod.mk.inj heq
    rcases hroles : orgOrSpace.roles name with _ | userGuids
    · simp [hroles] at hguid
    · exact ⟨name, userGuids, hpair, hroles, by simpa [hroles] using hguid⟩
  · rintro ⟨name, userGuids, hpair, hroles, hguid⟩
    exact ⟨(name, param), hpair, List.mem_map.2 ⟨userGuid, by simpa [hroles] using hguid, rfl⟩⟩

/-- The loops are one. -/
theorem attachRoles_eq : attachRoles isSpace existingUsers orgOrSpace =
    (attachments isSpace orgOrSpace).foldlM (fun newUsers attachment =>
      attachUser existingUsers orgOrSpace.guid attachment.1 newUsers attachment.2) .empty := by
  rw [attachments, foldlM_flatMap, attachRoles]
  congr 1
  funext newUsers pair
  rw [updateUserFromOrgSpaceArray, List.foldlM_map]
  rcases orgOrSpace.roles pair.1 with _ | userGuids <;> rfl

/-- The user with the guid in the collections that are absent. -/
def NotedUser.attach (user : NotedUser) (guid : String) (done : List (CfUserRoleParams × String))
    (userGuid : String) : NotedUser :=
  { user with roles := fun param =>
      (user.roles param).or (if (param, userGuid) ∈ done then some [guid] else none) }

theorem attachUser_isSome_iff {param : CfUserRoleParams} {userGuid : String} :
    (attachUser existingUsers guid param newUsers userGuid).isSome ↔
      (existingUsers.get? userGuid).isSome := by
  rw [attachUser]
  rcases existingUsers.get? userGuid with _ | user
  · simp
  · rw [Option.bind_eq_bind, Option.bind_some]
    dsimp only
    split_ifs
    · rfl
    · rfl

/-- The new users are those of `done`, with the guid attached. -/
structure Attached (existingUsers : JsObject NotedUser) (guid : String)
    (done : List (CfUserRoleParams × String)) (newUsers : JsObject NotedUser) : Prop where
  each : ∀ userGuid user, existingUsers.get? userGuid = some user →
    (newUsers.get? userGuid).getD user = user.attach guid done userGuid

theorem attached_empty : Attached existingUsers guid [] .empty := by
  refine ⟨fun userGuid user _ => ?_⟩
  simp [NotedUser.attach]

/-- What is attached to a collection that is there does not matter. -/
theorem attach_congr {user : NotedUser} {userGuid : String}
    {done done' : List (CfUserRoleParams × String)}
    (h : ∀ param, user.roles param = none →
      ((param, userGuid) ∈ done ↔ (param, userGuid) ∈ done')) :
    user.attach guid done userGuid = user.attach guid done' userGuid := by
  have hroles : (fun param => (user.roles param).or
      (if (param, userGuid) ∈ done then some [guid] else none)) =
      fun param => (user.roles param).or
        (if (param, userGuid) ∈ done' then some [guid] else none) := by
    funext param
    rcases hrole : user.roles param with _ | collection
    · rw [if_congr (h param hrole) rfl rfl]
    · rfl
  rw [NotedUser.attach, hroles, NotedUser.attach]

/-- One more user has the organisation or space. -/
theorem Attached.step {done : List (CfUserRoleParams × String)} {newUsers' : JsObject NotedUser}
    {param : CfUserRoleParams} {userGuid : String}
    (hdone : Attached existingUsers guid done newUsers)
    (h : attachUser existingUsers guid param newUsers userGuid = some newUsers') :
    Attached existingUsers guid (done ++ [(param, userGuid)]) newUsers' := by
  obtain ⟨user, huser, hset⟩ := Option.bind_eq_some_iff.1 h
  refine ⟨fun other otherUser hother => ?_⟩
  have hmem : ∀ param', (param', other) ∈ done ++ [(param, userGuid)] ↔
      (param', other) ∈ done ∨ param' = param ∧ other = userGuid := by
    simp
  dsimp only at hset
  split_ifs at hset with hguid
  · obtain rfl := Option.some.inj hset
    rw [hdone.each other otherUser hother]
    refine attach_congr fun param' hnone => ?_
    rw [hmem]
    refine ⟨Or.inl, fun h => h.resolve_right ?_⟩
    rintro ⟨rfl, rfl⟩
    obtain rfl := Option.some.inj (huser.symm.trans hother)
    simp [hnone] at hguid
  · obtain rfl := Option.some.inj hset
    rw [JsObject.get?_set]
    split_ifs with heq
    · subst heq
      obtain rfl := Option.some.inj (huser.symm.trans hother)
      rw [Option.getD_some, hdone.each other user huser, mergeUser, NotedUser.attach,
        NotedUser.attach]
      have hroles : (fun param' => ((user.roles param').or
          (if (param', other) ∈ done then some [guid] else none)).or
            (if param' = param then some ((user.roles param).getD [] ++ [guid]) else none)) =
          fun param' => (user.roles param').or
            (if (param', other) ∈ done ++ [(param, other)] then some [guid] else none) := by
        funext param'
        rw [if_congr (hmem param') rfl rfl]
        rcases hrole : user.roles param' with _ | collection
        · by_cases hparam : param' = param
          · subst hparam
            by_cases hbefore : (param', other) ∈ done <;> simp [hrole, hbefore]
          · simp [hparam]
        · rfl
      rw [hroles, Option.or_none]
    · rw [hdone.each other otherUser hother]
      exact attach_congr fun param' _ => by simp [hmem, heq]

theorem attached_run {done l : List (CfUserRoleParams × String)} {newUsers' : JsObject NotedUser}
    (hdone : Attached existingUsers guid done newUsers)
    (h : l.foldlM (fun newUsers attachment =>
      attachUser existingUsers guid attachment.1 newUsers attachment.2) newUsers = some newUsers') :
    Attached existingUsers guid (done ++ l) newUsers' := by
  induction l generalizing done newUsers with
  | nil =>
    obtain rfl := Option.some.inj h
    rwa [List.append_nil]
  | cons attachment l ih =>
    obtain ⟨newUsers₁, hstep, hrest⟩ := Option.bind_eq_some_iff.1 h
    have hrun := ih (hdone.step hstep) hrest
    rwa [List.append_assoc] at hrun

/-- The users are all there, or something throws. -/
theorem attachRoles_isSome_iff : (attachRoles isSpace existingUsers orgOrSpace).isSome ↔
    ∀ param userGuid, orgOrSpace.Lists isSpace param userGuid →
      (existingUsers.get? userGuid).isSome := by
  have hiff := foldlM_isSome_iff
    (f := fun newUsers (attachment : CfUserRoleParams × String) =>
      attachUser existingUsers orgOrSpace.guid attachment.1 newUsers attachment.2)
    (p := fun attachment => (existingUsers.get? attachment.2).isSome)
    (l := attachments isSpace orgOrSpace)
    (fun newUsers attachment _ => attachUser_isSome_iff) .empty
  rw [attachRoles_eq, hiff]
  constructor
  · intro h param userGuid hlists
    exact h (param, userGuid) (mem_attachments.2 hlists)
  · rintro h ⟨param, userGuid⟩ hmem
    exact h param userGuid (mem_attachments.1 hmem)

theorem attached_attachRoles (h : attachRoles isSpace existingUsers orgOrSpace = some newUsers) :
    Attached existingUsers orgOrSpace.guid (attachments isSpace orgOrSpace) newUsers := by
  rw [attachRoles_eq] at h
  exact attached_run attached_empty h

end Attached

/-! ## What the store has then -/

section Store

variable {isSpace : Bool} {orgOrSpace : OrgOrSpace} {store : JsObject NotedUser}
  {apiResponse : Option (JsObject NotedUser)} {result : PostProcessed} {userGuid : String}
  {user : NotedUser}

theorem get?_mergeUsers (users newUsers : JsObject NotedUser) (userGuid : String) :
    (mergeUsers users newUsers).get? userGuid =
      ((newUsers.get? userGuid).map (mergeUserEntity (users.get? userGuid))).or
        (users.get? userGuid) := by
  rw [mergeUsers, JsObject.get?_mergeWith]
  rcases newUsers.get? userGuid with _ | newUser <;> rfl

theorem orgSpacePostProcess_isSome_iff :
    (orgSpacePostProcess isSpace orgOrSpace store apiResponse).isSome ↔
      ∀ param userGuid, orgOrSpace.Lists isSpace param userGuid →
        ((apiResponse.getD store).get? userGuid).isSome := by
  rw [← attachRoles_isSome_iff, orgSpacePostProcess]
  rcases attachRoles isSpace (apiResponse.getD store) orgOrSpace with _ | newUsers
  · simp
  · by_cases hnone : newUsers.ownKeys = []
    · simp [hnone]
    · rcases apiResponse with _ | users <;> simp [hnone]

/-- The attached users are merged, over those of the response if there is one. -/
theorem get?_usersAfter
    (h : orgSpacePostProcess isSpace orgOrSpace store apiResponse = some result)
    (userGuid : String) :
    ∃ newUsers, attachRoles isSpace (apiResponse.getD store) orgOrSpace = some newUsers ∧
      (usersAfter store apiResponse result).get? userGuid =
        (mergeUsers store (apiResponse.elim newUsers (mergeUsers · newUsers))).get? userGuid := by
  obtain ⟨newUsers, hnew, hresult⟩ := Option.bind_eq_some_iff.1 h
  refine ⟨newUsers, hnew, ?_⟩
  by_cases hempty : newUsers.ownKeys = []
  · rw [if_pos hempty] at hresult
    obtain rfl := Option.some.inj hresult
    have hnone : newUsers.get? userGuid = none := by
      rw [JsObject.get?_eq_none_iff, ← JsObject.mem_ownKeys, hempty]
      exact List.not_mem_nil
    rcases apiResponse with _ | users
    · simp [usersAfter, get?_mergeUsers, hnone]
    · simp [usersAfter, get?_mergeUsers, hnone]
  · rw [if_neg hempty] at hresult
    rcases apiResponse with _ | users
    · obtain rfl := Option.some.inj hresult
      rfl
    · obtain rfl := Option.some.inj hresult
      rfl

/-- A user that was read has the roles of the response, those that are attached where it has
none, and else those of the store. -/
theorem roles_usersAfter
    (h : orgSpacePostProcess isSpace orgOrSpace store apiResponse = some result)
    (huser : (apiResponse.getD store).get? userGuid = some user) :
    ∃ final, (usersAfter store apiResponse result).get? userGuid = some final ∧ ∀ param,
      final.roles param = ((user.attach orgOrSpace.guid (attachments isSpace orgOrSpace)
        userGuid).roles param).or ((store.get? userGuid).bind (·.roles param)) := by
  obtain ⟨newUsers, hnew, hafter⟩ := get?_usersAfter h userGuid
  have hattach := (attached_attachRoles hnew).each userGuid user huser
  -- What is attached has the roles that the user had.
  have hmerged : ∃ merged, (mergeUsers (apiResponse.getD store) newUsers).get? userGuid =
      some merged ∧ ∀ param, merged.roles param = (user.attach orgOrSpace.guid
        (attachments isSpace orgOrSpace) userGuid).roles param := by
    rw [get?_mergeUsers, huser]
    rcases hget : newUsers.get? userGuid with _ | newUser
    · rw [hget] at hattach
      exact ⟨user, rfl, fun param => congrArg (·.roles param) hattach⟩
    · rw [hget] at hattach
      refine ⟨mergeUserEntity (some user) newUser, rfl, fun param => ?_⟩
      obtain rfl : newUser = _ := hattach
      rw [roles_mergeUserEntity, NotedUser.attach]
      rcases hrole : user.roles param with _ | collection <;> simp [hrole]
  obtain ⟨merged, hmerged, hroles⟩ := hmerged
  rcases apiResponse with _ | users
  · refine ⟨merged, hafter.trans hmerged, fun param => ?_⟩
    have hstore : store.get? userGuid = some user := huser
    rw [hroles, hstore, NotedUser.attach]
    rcases hrole : user.roles param with _ | collection <;> simp [hrole]
  · refine ⟨mergeUserEntity (store.get? userGuid) merged, ?_, fun param => ?_⟩
    · have hmerged : (mergeUsers users newUsers).get? userGuid = some merged := hmerged
      rw [hafter, Option.elim_some, get?_mergeUsers, hmerged]
      rfl
    · rw [roles_mergeUserEntity, hroles]

theorem inCollection_usersAfter_iff
    (h : orgSpacePostProcess isSpace orgOrSpace store apiResponse = some result)
    (huser : (apiResponse.getD store).get? userGuid = some user) {param : CfUserRoleParams}
    {guid : String} : InCollection (usersAfter store apiResponse result) userGuid param guid ↔
      (∃ collection, user.roles param = some collection ∧ guid ∈ collection) ∨
      user.roles param = none ∧ (orgOrSpace.Lists isSpace param userGuid ∧ guid = orgOrSpace.guid ∨
        ¬orgOrSpace.Lists isSpace param userGuid ∧ InCollection store userGuid param guid) := by
  obtain ⟨final, hfinal, hroles⟩ := roles_usersAfter h huser
  have hafter : InCollection (usersAfter store apiResponse result) userGuid param guid ↔
      ∃ collection, final.roles param = some collection ∧ guid ∈ collection := by
    simp [InCollection, hfinal]
  have hstore : InCollection store userGuid param guid ↔ ∃ collection,
      (store.get? userGuid).bind (·.roles param) = some collection ∧ guid ∈ collection := by
    rw [InCollection]
    rcases store.get? userGuid with _ | stored <;> simp
  rw [hafter, hstore, hroles, NotedUser.attach]
  rcases hrole : user.roles param with _ | collection
  · by_cases hlists : orgOrSpace.Lists isSpace param userGuid
    · simp [hrole, mem_attachments, hlists]
    · simp [hrole, mem_attachments, hlists]
  · simp [hrole]

/-- Every user that is listed ends with the role and keeps the others exactly when the users are
there and what they have lets it. -/
theorem rolesAttached_iff : RolesAttached isSpace orgOrSpace store apiResponse ↔
    ∀ listed userGuid, orgOrSpace.Lists isSpace listed userGuid →
      ∃ user, (apiResponse.getD store).get? userGuid = some user ∧
        Attachable isSpace orgOrSpace store userGuid user := by
  constructor
  · rintro ⟨result, hresult, hroles⟩ listed userGuid hlists
    have hthere := orgSpacePostProcess_isSome_iff.1 (Option.isSome_of_eq_some hresult)
    obtain ⟨user, huser⟩ := Option.isSome_iff_exists.1 (hthere listed userGuid hlists)
    refine ⟨user, huser, fun param collection hcollection hlists' => ?_,
      fun param guid hstore => ?_⟩
    · have hattached := (hroles param userGuid hlists').1
      rw [inCollection_usersAfter_iff hresult huser] at hattached
      simpa [hcollection] using hattached
    · have hkept := (hroles listed userGuid hlists).2 param guid (Or.inl hstore)
      rw [inCollection_usersAfter_iff hresult huser] at hkept
      refine ⟨fun collection hcollection => ?_, fun hnone hlists' => ?_⟩
      · simpa [hcollection] using hkept
      · simpa [hnone, hlists'] using hkept
  · intro h
    obtain ⟨result, hresult⟩ := Option.isSome_iff_exists.1
      (orgSpacePostProcess_isSome_iff.2 fun param userGuid hlists => by
        obtain ⟨user, huser, -⟩ := h param userGuid hlists
        exact Option.isSome_of_eq_some huser)
    refine ⟨result, hresult, fun listed userGuid hlists => ?_⟩
    obtain ⟨user, huser, hattachable⟩ := h listed userGuid hlists
    refine ⟨?_, fun param guid hbefore => ?_⟩
    · rw [inCollection_usersAfter_iff hresult huser]
      rcases hrole : user.roles listed with _ | collection
      · exact Or.inr ⟨rfl, Or.inl ⟨hlists, rfl⟩⟩
      · exact Or.inl ⟨collection, rfl, hattachable.listed listed collection hrole hlists⟩
    · rw [inCollection_usersAfter_iff hresult huser]
      rcases hbefore with hstore | ⟨user', collection, huser', hrole, hmem⟩
      · obtain ⟨hsome, hnone⟩ := hattachable.stored param guid hstore
        rcases hrole : user.roles param with _ | collection
        · by_cases hlists' : orgOrSpace.Lists isSpace param userGuid
          · exact Or.inr ⟨rfl, Or.inl ⟨hlists', hnone hrole hlists'⟩⟩
          · exact Or.inr ⟨rfl, Or.inr ⟨hlists', hstore⟩⟩
        · exact Or.inl ⟨collection, rfl, hsome collection hrole⟩
      · obtain rfl := Option.some.inj (huser'.symm.trans huser)
        exact Or.inl ⟨collection, hrole, hmem⟩

/-- An organisation with a manager. -/
def managedOrg : OrgOrSpace :=
  ⟨⟨fun name => if name = .managers then some ["u"] else none⟩, "o"⟩

/-- The manager, whose collection has another organisation only. -/
def managerElsewhere : JsObject NotedUser :=
  JsObject.empty.set "u"
    ⟨⟨fun param => if param = .managedOrgs then some ["other"] else none⟩, none⟩

/-- The collection without the organisation stays. -/
theorem not_rolesAttached_manager : ¬RolesAttached false managedOrg managerElsewhere none := by
  rintro ⟨result, hresult, hroles⟩
  have hlists : managedOrg.Lists false .managedOrgs "u" :=
    ⟨.managers, ["u"], by decide, rfl, List.mem_singleton_self _⟩
  have huser : ((none : Option (JsObject NotedUser)).getD managerElsewhere).get? "u" =
      some ⟨⟨fun param => if param = .managedOrgs then some ["other"] else none⟩, none⟩ := by
    rfl
  have hattached := (hroles _ _ hlists).1
  rw [inCollection_usersAfter_iff hresult huser] at hattached
  simp [managedOrg] at hattached

end Store

end Stratos
