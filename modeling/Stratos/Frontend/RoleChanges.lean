import Stratos.Frontend.OrgMembership

/-!
# Changing the roles of users

The entity of a user has a collection of organisations or spaces for every role. `populateRoles`
regroups them by user, organisation and space (`hasExistingRole_populateRoles` says that nothing
is lost or made up), and `createRolesDiff` compares the result with the roles that were clicked.

`createRolesDiff_applies` says that the changes, applied to what was extracted, give every user the
roles that were clicked and leave the others, with no change that is made twice or has no effect.
-/

open Lib

namespace Stratos

/-! ## The existing roles -/

/-- An organisation or a space in a collection of a user. -/
structure RoleEntity where
  /-- `metadata.guid` -/
  metadataGuid : String
  guid : String
  name : String
  /-- `organization_guid` of a space -/
  organizationGuid : String
  deriving DecidableEq

/-- The entity of a user. An entity that a collection refers to may not be there. -/
structure CfUserEntity where
  /-- `metadata.guid` -/
  guid : String
  collections : CfUserRoleParams → Option (List (Option RoleEntity))

namespace CfUserEntity

variable (user : CfUserEntity)

/-- The entities of a collection, none if the user has no such collection. -/
def collection (param : CfUserRoleParams) : List (Option RoleEntity) :=
  (user.collections param).getD []

/-- `hasRole` of the helpers for Cloud Foundry -/
def hasRole (guid : String) (roleType : CfUserRoleParams) : Bool :=
  (user.collection roleType).any fun o => o.any fun o => o.metadataGuid = guid

/-- What `createUserRoleInOrg` makes of `isOrgManager` and the others. -/
def rolesInOrg (orgGuid : String) : UserRoles := fun role =>
  (properties false role).map (user.hasRole orgGuid)

/-- What `createUserRoleInSpace` makes of `isSpaceManager` and the others. -/
def rolesInSpace (spaceGuid : String) : UserRoles := fun role =>
  (properties true role).map (user.hasRole spaceGuid)

end CfUserEntity

/-- The guids that are processed and the result, after the entities of a collection. Throws for
one that is not there. -/
def parseRole {α : Type} (entry : RoleEntity → α) (acc : List String × List α)
    (toProcess : List (Option RoleEntity)) : Option (List String × List α) :=
  toProcess.foldlM (fun acc e => do
    let e ← e
    if e.guid ∈ acc.1 then return acc
    else return (e.guid :: acc.1, acc.2 ++ [entry e])) acc

/-- The organisations of a collection, each with the roles of the user in it. -/
def parseOrgRole (user : CfUserEntity) :
    List String × List IUserPermissionInOrg → List (Option RoleEntity) →
      Option (List String × List IUserPermissionInOrg) :=
  parseRole fun org => ⟨org.name, org.metadataGuid, user.rolesInOrg org.guid, .empty⟩

/-- The spaces of a collection, each with the roles of the user in it. -/
def parseSpaceRole (user : CfUserEntity) :
    List String × List IUserPermissionInSpace → List (Option RoleEntity) →
      Option (List String × List IUserPermissionInSpace) :=
  parseRole fun space =>
    ⟨space.name, space.organizationGuid, space.guid, user.rolesInSpace space.guid⟩

/-- The collections of organisations, in the order they are looked through. -/
def orgRoleParams : List CfUserRoleParams :=
  [.organizations, .auditedOrgs, .billingManagerOrgs, .managedOrgs]

/-- The collections of spaces. A user might have unique spaces in any of them. -/
def spaceRoleParams : List CfUserRoleParams := [.spaces, .auditedSpaces, .managedSpaces]

/-- The organisations of all collections, each once. -/
def getOrgRolesFromUser (user : CfUserEntity) : Option (List IUserPermissionInOrg) :=
  (orgRoleParams.foldlM (fun acc param => parseOrgRole user acc (user.collection param))
    ([], [])).map Prod.snd

/-- The spaces of all collections, each once. -/
def getSpaceRolesFromUser (user : CfUserEntity) : Option (List IUserPermissionInSpace) :=
  (spaceRoleParams.foldlM (fun acc param => parseSpaceRole user acc (user.collection param))
    ([], [])).map Prod.snd

/-- The space filed under its organisation, which is made if the user has no role in it. -/
def addSpaceRoles (mappedUser : JsObject IUserPermissionInOrg) (space : IUserPermissionInSpace) :
    JsObject IUserPermissionInOrg :=
  let org := (mappedUser.get? space.orgGuid).getD (createDefaultOrgRoles space.orgGuid)
  mappedUser.set space.orgGuid { org with spaces := org.spaces.set space.spaceGuid space }

/-- The roles of a user by organisation. -/
def mappedUser (user : CfUserEntity) : Option (JsObject IUserPermissionInOrg) := do
  let orgRoles ← getOrgRolesFromUser user
  let spaceRoles ← getSpaceRolesFromUser user
  -- ... populate org roles ...
  let mappedUser : JsObject IUserPermissionInOrg :=
    orgRoles.foldl (fun mappedUser org => mappedUser.set org.orgGuid org) .empty
  -- ... and for each space, populate space roles
  return spaceRoles.foldl addSpaceRoles mappedUser

/-- The roles with those of one more user. -/
def populateUserRoles (user : CfUserEntity) (roles : CfUserRolesSelected) :
    Option CfUserRolesSelected :=
  (mappedUser user).map (roles.set user.guid ·)

/-- `users` are those of the Cloud Foundry. -/
def populateRoles (cfGuid : String) (selectedUsers : List PickedUser)
    (users : List CfUserEntity) : Option CfUserRolesSelected :=
  if cfGuid = "" ∨ selectedUsers = [] then some .empty
  else users.foldlM (fun roles user =>
    if user.guid ∈ selectedUsers.map PickedUser.guid then populateUserRoles user roles
    else some roles) .empty

/-! ## What is extracted -/

section Extraction

variable {α : Type} {entry : RoleEntity → α} {P : RoleEntity → Prop}
  {acc acc' : List String × List α} {toProcess : List (Option RoleEntity)}

theorem parseRole_isSome_iff : (parseRole entry acc toProcess).isSome ↔ none ∉ toProcess := by
  rw [parseRole, foldlM_isSome_iff (p := fun e : Option RoleEntity => e ≠ none)]
  · exact ⟨fun h hmem => h _ hmem rfl, fun h e he hnone => h (hnone ▸ he)⟩
  · intro acc e _
    rcases e with _ | e
    · simp
    · by_cases hguid : e.guid ∈ acc.1 <;> simp [hguid]

/-- The guids that are processed are those of entries, and the entries those of entities. -/
structure Parsed (entry : RoleEntity → α) (P : RoleEntity → Prop) (acc : List String × List α) :
    Prop where
  covers : ∀ guid ∈ acc.1, ∃ e, P e ∧ e.guid = guid ∧ entry e ∈ acc.2
  sound : ∀ a ∈ acc.2, ∃ e, P e ∧ entry e = a

theorem Parsed.push {e : RoleEntity} (hacc : Parsed entry P acc) (he : P e) :
    Parsed entry P (e.guid :: acc.1, acc.2 ++ [entry e]) := by
  constructor
  · intro guid hguid
    rcases List.mem_cons.1 hguid with rfl | hguid
    · exact ⟨e, he, rfl, List.mem_append_right _ (List.mem_singleton_self _)⟩
    · obtain ⟨e', he', hguid', hmem⟩ := hacc.covers guid hguid
      exact ⟨e', he', hguid', List.mem_append_left _ hmem⟩
  · intro a ha
    rcases List.mem_append.1 ha with ha | ha
    · exact hacc.sound a ha
    · exact ⟨e, he, (List.mem_singleton.1 ha).symm⟩

theorem parseRole_spec (hP : ∀ e, some e ∈ toProcess → P e) (hacc : Parsed entry P acc)
    (h : parseRole entry acc toProcess = some acc') :
    Parsed entry P acc' ∧ acc.1 ⊆ acc'.1 ∧ ∀ e, some e ∈ toProcess → e.guid ∈ acc'.1 := by
  induction toProcess generalizing acc with
  | nil =>
    obtain rfl := Option.some.inj h
    exact ⟨hacc, List.Subset.refl _, fun e he => (List.not_mem_nil he).elim⟩
  | cons e? rest ih =>
    rw [parseRole, List.foldlM_cons] at h
    obtain ⟨acc₁, hstep, hfold⟩ := Option.bind_eq_some_iff.1 h
    obtain ⟨e, rfl, hpush⟩ := Option.bind_eq_some_iff.1 hstep
    have hPe : P e := hP e List.mem_cons_self
    have hacc₁ : Parsed entry P acc₁ ∧ acc.1 ⊆ acc₁.1 ∧ e.guid ∈ acc₁.1 := by
      split_ifs at hpush with hguid
      · obtain rfl := Option.some.inj hpush
        exact ⟨hacc, List.Subset.refl _, hguid⟩
      · obtain rfl := Option.some.inj hpush
        exact ⟨hacc.push hPe, List.subset_cons_self _ _, List.mem_cons_self⟩
    obtain ⟨hacc', hsub, hrest⟩ := ih (fun e he => hP e (List.mem_cons_of_mem _ he)) hacc₁.1 hfold
    refine ⟨hacc', List.Subset.trans hacc₁.2.1 hsub, fun e' he' => ?_⟩
    rcases List.mem_cons.1 he' with heq | he'
    · obtain rfl := Option.some.inj heq
      exact hsub hacc₁.2.2
    · exact hrest e' he'

/-- The entity is in one of the collections. -/
def CfUserEntity.Lists (user : CfUserEntity) (params : List CfUserRoleParams) (e : RoleEntity) :
    Prop :=
  ∃ param ∈ params, some e ∈ user.collection param

/-- Every entity that is listed has an entry, and there are no others. -/
theorem parseRoles_spec {user : CfUserEntity} {params : List CfUserRoleParams} {result : List α}
    (h : (params.foldlM (fun acc param => parseRole entry acc (user.collection param))
      ([], [])).map Prod.snd = some result) :
    (∀ a ∈ result, ∃ e, user.Lists params e ∧ entry e = a) ∧
      ∀ e, user.Lists params e →
        ∃ e', user.Lists params e' ∧ e'.guid = e.guid ∧ entry e' ∈ result := by
  obtain ⟨acc, hfold, rfl⟩ := Option.map_eq_some_iff.1 h
  have hparse : parseRole entry ([], []) (params.flatMap user.collection) = some acc := by
    rw [← hfold, parseRole, foldlM_flatMap]
    rfl
  have hlists : ∀ e, some e ∈ params.flatMap user.collection ↔ user.Lists params e :=
    fun e => List.mem_flatMap
  obtain ⟨hacc, -, hall⟩ := parseRole_spec (P := user.Lists params) (fun e he => (hlists e).1 he)
    ⟨fun _ h => (List.not_mem_nil h).elim, fun _ h => (List.not_mem_nil h).elim⟩ hparse
  exact ⟨hacc.sound, fun e he => hacc.covers _ (hall e ((hlists e).2 he))⟩

end Extraction

section Existing

variable {user : CfUserEntity}

theorem hasRole_eq_true_iff {guid : String} {param : CfUserRoleParams} :
    user.hasRole guid param = true ↔
      ∃ e, some e ∈ user.collection param ∧ e.metadataGuid = guid := by
  rw [CfUserEntity.hasRole, List.any_eq_true]
  constructor
  · rintro ⟨e?, hmem, he⟩
    obtain ⟨e, rfl, hguid⟩ := (Option.any_eq_true _ _).1 he
    exact ⟨e, hmem, of_decide_eq_true hguid⟩
  · rintro ⟨e, hmem, hguid⟩
    exact ⟨some e, hmem, by simpa using hguid⟩

/-- The roles of the user in an organisation, if it is filed. -/
def recordOf (mappedUser : JsObject IUserPermissionInOrg) (orgGuid : String) :
    IUserPermissionInOrg :=
  (mappedUser.get? orgGuid).getD (createDefaultOrgRoles orgGuid)

theorem recordOf_addSpaceRoles (mappedUser : JsObject IUserPermissionInOrg)
    (space : IUserPermissionInSpace) (orgGuid : String) :
    recordOf (addSpaceRoles mappedUser space) orgGuid =
      if space.orgGuid = orgGuid then { recordOf mappedUser orgGuid with
        spaces := (recordOf mappedUser orgGuid).spaces.set space.spaceGuid space }
      else recordOf mappedUser orgGuid := by
  rw [recordOf, addSpaceRoles, JsObject.get?_set]
  by_cases horg : space.orgGuid = orgGuid
  · subst horg
    simp [recordOf]
  · have hne : ¬orgGuid = space.orgGuid := fun h => horg h.symm
    simp [recordOf, horg, hne]

/-- Spaces are added to the record of their organisation. -/
theorem recordOf_addSpaces (spaces : List IUserPermissionInSpace)
    (mappedUser : JsObject IUserPermissionInOrg) (orgGuid : String) :
    recordOf (spaces.foldl addSpaceRoles mappedUser) orgGuid =
      { recordOf mappedUser orgGuid with
        spaces := (spaces.filter (·.orgGuid = orgGuid)).foldl (fun o space =>
          o.set space.spaceGuid space) (recordOf mappedUser orgGuid).spaces } := by
  induction spaces generalizing mappedUser with
  | nil => rfl
  | cons space spaces ih =>
    rw [List.foldl_cons, ih, recordOf_addSpaceRoles]
    by_cases horg : space.orgGuid = orgGuid <;> simp [horg]

/-- The user has the role of a checkbox. -/
def CfUserEntity.HoldsRole (user : CfUserEntity) (orgGuid : String) (box : CfRoleCheckbox) : Prop :=
  ∃ param, properties (box.spaceGuid ≠ "") box.role = some param ∧
    ∃ e, some e ∈ user.collection param ∧
      if box.spaceGuid = "" then e.guid = orgGuid
      else e.guid = box.spaceGuid ∧ e.organizationGuid = orgGuid

/-- The entities have the guids of their metadata, and a space is in one organisation. -/
structure CfUserEntity.Canonical (user : CfUserEntity) : Prop where
  guids : ∀ param e, some e ∈ user.collection param → e.metadataGuid = e.guid
  organizations : ∀ e e', user.Lists spaceRoleParams e → user.Lists spaceRoleParams e' →
    e.guid = e'.guid → e.organizationGuid = e'.organizationGuid

theorem mem_orgRoleParams {role : UserRoleNames} {param : CfUserRoleParams}
    (h : properties false role = some param) : param ∈ orgRoleParams := by
  cases role <;> simp only [properties, reduceCtorEq, Option.some.injEq] at h <;> subst h <;> decide

theorem mem_spaceRoleParams {role : UserRoleNames} {param : CfUserRoleParams}
    (h : properties true role = some param) : param ∈ spaceRoleParams := by
  cases role <;> simp only [properties, reduceCtorEq, Option.some.injEq] at h <;> subst h <;> decide

/-- The records of the organisations, before the spaces are added. -/
theorem recordOf_orgs {orgRoles : List IUserPermissionInOrg}
    (h : getOrgRolesFromUser user = some orgRoles) (hcanon : user.Canonical) (orgGuid : String) :
    let record := recordOf (orgRoles.foldl (fun mappedUser org =>
      mappedUser.set org.orgGuid org) .empty) orgGuid
    record.spaces = .empty ∧ ∀ role, (record.permissions role).getD false = true ↔
      ∃ param, properties false role = some param ∧
        ∃ e, some e ∈ user.collection param ∧ e.guid = orgGuid := by
  obtain ⟨hsound, hcovers⟩ := parseRoles_spec h
  have hget := JsObject.get?_foldl_set IUserPermissionInOrg.orgGuid orgRoles .empty orgGuid
  rw [JsObject.get?_empty, Option.or_none] at hget
  dsimp only
  rw [recordOf, hget]
  rcases hfind : orgRoles.reverse.find? fun org => org.orgGuid = orgGuid with _ | org
  · rw [hfind]
    refine ⟨rfl, fun role => iff_of_false (by simp [createDefaultOrgRoles]) ?_⟩
    rintro ⟨param, hparam, e, he, rfl⟩
    obtain ⟨e', ⟨param', -, he'⟩, hguid, hmem⟩ :=
      hcovers e ⟨param, mem_orgRoleParams hparam, he⟩
    refine List.find?_eq_none.1 hfind _ (List.mem_reverse.2 hmem) ?_
    simpa using (hcanon.guids param' e' he').trans hguid
  · obtain ⟨e, ⟨param', -, he⟩, rfl⟩ :=
      hsound org (List.mem_reverse.1 (List.mem_of_find?_eq_some hfind))
    obtain rfl : e.metadataGuid = orgGuid := by simpa using List.find?_some hfind
    rw [hfind]
    refine ⟨rfl, fun role => ?_⟩
    simp only [Option.getD_some, CfUserEntity.rolesInOrg, hcanon.guids param' e he]
    rcases properties false role with _ | param
    · simp
    · simp only [Option.map_some, Option.getD_some, hasRole_eq_true_iff, Option.some.injEq,
        exists_eq_left']
      refine exists_congr fun e' => and_congr_right fun he' => ?_
      rw [hcanon.guids param e' he']

/-- The record of a space that has one. -/
theorem spaces_recordOf {spaceRoles : List IUserPermissionInSpace}
    (h : getSpaceRolesFromUser user = some spaceRoles) (hcanon : user.Canonical)
    (orgGuid spaceGuid : String) (role : UserRoleNames) :
    (((((spaceRoles.filter (·.orgGuid = orgGuid)).foldl (fun o space =>
      o.set space.spaceGuid space) JsObject.empty).get? spaceGuid).bind
        (·.permissions role)).getD false = true) ↔
      ∃ param, properties true role = some param ∧
        ∃ e, some e ∈ user.collection param ∧
          e.guid = spaceGuid ∧ e.organizationGuid = orgGuid := by
  obtain ⟨hsound, hcovers⟩ := parseRoles_spec h
  rw [JsObject.get?_foldl_set, JsObject.get?_empty, Option.or_none]
  rcases hfind : (spaceRoles.filter (·.orgGuid = orgGuid)).reverse.find?
    fun space => space.spaceGuid = spaceGuid with _ | space
  · refine iff_of_false (by simp [hfind]) ?_
    rintro ⟨param, hparam, e, he, rfl, rfl⟩
    obtain ⟨e', hlists, hguid, hmem⟩ := hcovers e ⟨param, mem_spaceRoleParams hparam, he⟩
    have horg := hcanon.organizations e' e hlists ⟨param, mem_spaceRoleParams hparam, he⟩ hguid
    refine List.find?_eq_none.1 hfind _
      (List.mem_reverse.2 (List.mem_filter.2 ⟨hmem, by simpa using horg⟩)) ?_
    simpa using hguid
  · obtain ⟨hmem, horg⟩ := List.mem_filter.1 (List.mem_reverse.1 (List.mem_of_find?_eq_some hfind))
    obtain ⟨e, hlists, rfl⟩ := hsound space hmem
    obtain rfl : e.guid = spaceGuid := by simpa using List.find?_some hfind
    obtain rfl : e.organizationGuid = orgGuid := by simpa using horg
    simp only [hfind, Option.bind_some, CfUserEntity.rolesInSpace]
    rcases hparam : properties true role with _ | param
    · simp
    · simp only [Option.map_some, Option.getD_some, hasRole_eq_true_iff, Option.some.injEq,
        exists_eq_left']
      refine exists_congr fun e' => and_congr_right fun he' => ?_
      rw [hcanon.guids param e' he']
      refine ⟨fun hguid => ⟨hguid, ?_⟩, And.left⟩
      exact hcanon.organizations e' e ⟨param, mem_spaceRoleParams hparam, he'⟩ hlists hguid

/-- What is filed for a user are the roles that the user holds. -/
theorem hasRole_mappedUser {orgs : JsObject IUserPermissionInOrg}
    (h : mappedUser user = some orgs) (hcanon : user.Canonical) (orgGuid : String)
    (box : CfRoleCheckbox) :
    (hasRole box.role (recordOf orgs orgGuid) box.spaceGuid).getD false = true ↔
      user.HoldsRole orgGuid box := by
  obtain ⟨orgRoles, horgs, h⟩ := Option.bind_eq_some_iff.1 h
  obtain ⟨spaceRoles, hspaces, h⟩ := Option.bind_eq_some_iff.1 h
  obtain rfl := Option.some.inj h
  obtain ⟨hempty, hperms⟩ := recordOf_orgs horgs hcanon orgGuid
  rw [recordOf_addSpaces, hempty, hasRole, CfUserEntity.HoldsRole]
  by_cases hguid : box.spaceGuid = ""
  · simpa [hguid] using hperms box.role
  · simpa [hguid] using spaces_recordOf hspaces hcanon orgGuid box.spaceGuid box.role

theorem get?_populateUserRoles {roles roles' : CfUserRolesSelected} {guid : String}
    (h : populateUserRoles user roles = some roles') :
    roles'.get? guid = if guid = user.guid then mappedUser user else roles.get? guid := by
  obtain ⟨orgs, horgs, rfl⟩ := Option.map_eq_some_iff.1 h
  rw [JsObject.get?_set, horgs]

/-- All entities that the collections refer to are there. -/
def CfUserEntity.Complete (user : CfUserEntity) : Prop := ∀ param, none ∉ user.collection param

theorem parseRoles_isSome {α : Type} {entry : RoleEntity → α} {params : List CfUserRoleParams}
    (h : user.Complete) :
    ((params.foldlM (fun acc param => parseRole entry acc (user.collection param))
      ([], [])).map Prod.snd).isSome := by
  rw [Option.isSome_map]
  exact foldlM_isSome (fun acc param _ => parseRole_isSome_iff.2 (h param)) _

theorem mappedUser_isSome (h : user.Complete) : (mappedUser user).isSome := by
  have horgs : (getOrgRolesFromUser user).isSome := parseRoles_isSome h
  have hspaces : (getSpaceRolesFromUser user).isSome := parseRoles_isSome h
  obtain ⟨orgRoles, horgs⟩ := Option.isSome_iff_exists.1 horgs
  obtain ⟨spaceRoles, hspaces⟩ := Option.isSome_iff_exists.1 hspaces
  simp [mappedUser, horgs, hspaces]

variable {cfGuid : String} {selectedUsers : List PickedUser} {users : List CfUserEntity}
  {existingRoles : CfUserRolesSelected}

/-- The roles are extracted when no entity is missing. -/
theorem populateRoles_isSome
    (h : ∀ user ∈ users, user.guid ∈ selectedUsers.map PickedUser.guid → user.Complete) :
    (populateRoles cfGuid selectedUsers users).isSome := by
  rw [populateRoles]
  split_ifs
  · rfl
  · refine foldlM_isSome (fun roles user huser => ?_) _
    split_ifs with hselected
    · rw [populateUserRoles, Option.isSome_map]
      exact mappedUser_isSome (h user huser hselected)
    · rfl

theorem get?_populateRoles (h : populateRoles cfGuid selectedUsers users = some existingRoles)
    (hcf : cfGuid ≠ "") (hnodup : (users.map CfUserEntity.guid).Nodup) (huser : user ∈ users)
    (hselected : user.guid ∈ selectedUsers.map PickedUser.guid) :
    ∃ orgs, mappedUser user = some orgs ∧ existingRoles.get? user.guid = some orgs := by
  have hne : selectedUsers ≠ [] := by
    rintro rfl
    exact List.not_mem_nil hselected
  rw [populateRoles, if_neg (not_or.2 ⟨hcf, hne⟩)] at h
  generalize JsObject.empty = roles at h
  induction users generalizing roles with
  | nil => exact (List.not_mem_nil huser).elim
  | cons first users ih =>
    obtain ⟨hnot, hnodup⟩ := List.nodup_cons.1 hnodup
    obtain ⟨roles₁, hstep, hrest⟩ := Option.bind_eq_some_iff.1 h
    rcases List.mem_cons.1 huser with rfl | huser
    · -- The users after it have other guids.
      obtain ⟨orgs, horgs, hfirst⟩ := Option.map_eq_some_iff.1 ((if_pos hselected).symm.trans hstep)
      refine ⟨orgs, horgs, foldlM_inv_mem (p := fun roles => roles.get? user.guid = some orgs)
        (fun roles other roles' hother hroles hstep => ?_) ?_ hrest⟩
      split_ifs at hstep
      · have hne : user.guid ≠ other.guid := fun heq => hnot (heq ▸ List.mem_map_of_mem hother)
        rw [get?_populateUserRoles hstep, if_neg hne, hroles]
      · obtain rfl := Option.some.inj hstep
        exact hroles
      · rw [← hfirst, JsObject.get?_set_self]
    · exact ih hnodup huser roles₁ hrest

/-- What is extracted for a user are the roles that the user holds. -/
theorem hasExistingRole_populateRoles
    (h : populateRoles cfGuid selectedUsers users = some existingRoles) (hcf : cfGuid ≠ "")
    (hnodup : (users.map CfUserEntity.guid).Nodup) (huser : user ∈ users)
    (hselected : user.guid ∈ selectedUsers.map PickedUser.guid) (hcanon : user.Canonical)
    (orgGuid : String) (box : CfRoleCheckbox) :
    hasExistingRole box.role existingRoles user.guid orgGuid box.spaceGuid = true ↔
      user.HoldsRole orgGuid box := by
  obtain ⟨orgs, horgs, hget⟩ := get?_populateRoles h hcf hnodup huser hselected
  rw [hasExistingRole_eq, hget, ← hasRole_mappedUser horgs hcanon]
  rfl

end Existing

/-! ## Applying changes -/

/-- Who has which role, in an organisation or in a space of it. -/
abbrev RoleTable := String → String → CfRoleCheckbox → Bool

/-- The roles that were extracted, as a table. -/
def existingTable (existingRoles : CfUserRolesSelected) : RoleTable := fun userGuid orgGuid box =>
  hasExistingRole box.role existingRoles userGuid orgGuid box.spaceGuid

/-- What was extracted of a selected user are the roles that the user holds. -/
def HoldsExisting (cfGuid : String) (selectedUsers : List PickedUser) (users : List CfUserEntity)
    (existingRoles : CfUserRolesSelected) : Prop :=
  cfGuid ≠ "" → (users.map CfUserEntity.guid).Nodup → ∀ user ∈ users,
    user.guid ∈ selectedUsers.map PickedUser.guid → user.Canonical → ∀ orgGuid box,
      existingTable existingRoles user.guid orgGuid box = true ↔ user.HoldsRole orgGuid box

theorem holdsExisting_populateRoles {cfGuid : String} {selectedUsers : List PickedUser}
    {users : List CfUserEntity} {existingRoles : CfUserRolesSelected}
    (h : populateRoles cfGuid selectedUsers users = some existingRoles) :
    HoldsExisting cfGuid selectedUsers users existingRoles :=
  fun hcf hnodup _ huser hselected hcanon orgGuid box =>
    hasExistingRole_populateRoles h hcf hnodup huser hselected hcanon orgGuid box

/-- The change is one of the role of a checkbox. -/
structure CfRoleChange.IsAbout (change : CfRoleChange) (userGuid orgGuid : String)
    (box : CfRoleCheckbox) : Prop where
  user : change.userGuid = userGuid
  org : change.orgGuid = orgGuid
  space : change.spaceGuid = box.spaceGuid
  role : change.role = box.role

instance (change : CfRoleChange) (userGuid orgGuid : String) (box : CfRoleCheckbox) :
    Decidable (change.IsAbout userGuid orgGuid box) :=
  decidable_of_iff (change.userGuid = userGuid ∧ change.orgGuid = orgGuid ∧
    change.spaceGuid = box.spaceGuid ∧ change.role = box.role)
    ⟨fun ⟨hu, ho, hs, hr⟩ => ⟨hu, ho, hs, hr⟩, fun ⟨hu, ho, hs, hr⟩ => ⟨hu, ho, hs, hr⟩⟩

/-- The table after a change. -/
def RoleTable.change (table : RoleTable) (change : CfRoleChange) : RoleTable :=
  fun userGuid orgGuid box =>
    if change.IsAbout userGuid orgGuid box then change.add else table userGuid orgGuid box

/-- The table after a list of changes. -/
def RoleTable.changeAll (table : RoleTable) (changes : List CfRoleChange) : RoleTable :=
  changes.foldl RoleTable.change table

section Changes

variable {table : RoleTable} {changes : List CfRoleChange} {userGuid orgGuid : String}
  {box : CfRoleCheckbox}

theorem changeAll_of_not_isAbout (h : ∀ change ∈ changes, ¬change.IsAbout userGuid orgGuid box) :
    table.changeAll changes userGuid orgGuid box = table userGuid orgGuid box := by
  induction changes generalizing table with
  | nil => rfl
  | cons change changes ih =>
    obtain ⟨hfirst, hrest⟩ := List.forall_mem_cons.1 h
    rw [RoleTable.changeAll, List.foldl_cons]
    exact (ih hrest).trans (if_neg hfirst)

/-- Changes of one role that agree give it the value. -/
theorem changeAll_of_isAbout {add : Bool}
    (hadd : ∀ change ∈ changes, change.IsAbout userGuid orgGuid box → change.add = add)
    (h : ∃ change ∈ changes, change.IsAbout userGuid orgGuid box) :
    table.changeAll changes userGuid orgGuid box = add := by
  induction changes generalizing table with
  | nil =>
    obtain ⟨change, hchange, -⟩ := h
    exact (List.not_mem_nil hchange).elim
  | cons first changes ih =>
    obtain ⟨hfirst, hrest⟩ := List.forall_mem_cons.1 hadd
    rw [RoleTable.changeAll, List.foldl_cons]
    by_cases hlater : ∃ change ∈ changes, change.IsAbout userGuid orgGuid box
    · exact ih hrest hlater
    · obtain ⟨change, hchange, habout⟩ := h
      have hlater' : ∀ change ∈ changes, ¬change.IsAbout userGuid orgGuid box :=
        fun change hchange habout => hlater ⟨change, hchange, habout⟩
      rcases List.mem_cons.1 hchange with rfl | hchange
      · exact ((changeAll_of_not_isAbout hlater').trans (if_pos habout)).trans (hfirst habout)
      · exact absurd habout (hlater' change hchange)

end Changes

/-! ## The differences of all users -/

section Diff

variable {existingRoles : CfUserRolesSelected} {state : UsersRolesState} {orgGuid : String}

/-- The changes give the selected users the roles that were clicked, leave everything else, and
each has an effect. -/
structure ChangesApply (existingRoles : CfUserRolesSelected) (state : UsersRolesState)
    (orgGuid : String) (changes : List CfRoleChange) : Prop where
  applied : ∀ user ∈ state.users, ∀ box,
    (existingTable existingRoles).changeAll changes user.guid orgGuid box =
      resultingRole existingRoles state.newRoles orgGuid user.guid box
  others : ∀ userGuid org box, userGuid ∉ state.users.map PickedUser.guid ∨ org ≠ orgGuid →
    (existingTable existingRoles).changeAll changes userGuid org box =
      existingTable existingRoles userGuid org box
  nodup : changes.Nodup
  effective : ∀ change ∈ changes, ∃ box, change.IsAbout change.userGuid change.orgGuid box ∧
    existingTable existingRoles change.userGuid change.orgGuid box ≠ change.add

theorem nodup_comparePermissions {userGuid spaceGuid : String} {keys : List UserRoleNames}
    {oldPerms newPerms : UserRoles} (h : keys.Nodup) :
    (comparePermissions userGuid orgGuid spaceGuid keys oldPerms newPerms).Nodup := by
  have hrole : ∀ (role : UserRoleNames) (change : CfRoleChange),
      change ∈ comparePermissions userGuid orgGuid spaceGuid [role] oldPerms newPerms →
        change.role = role := by
    intro role change hchange
    obtain ⟨role', hmem, add, -, -, rfl⟩ := mem_comparePermissions.1 hchange
    exact List.mem_singleton.1 hmem
  refine h.filterMap fun role role' change hmem hmem' => ?_
  rw [← hrole role change (List.mem_filterMap.2 ⟨role, List.mem_singleton_self _, hmem⟩),
    hrole role' change (List.mem_filterMap.2 ⟨role', List.mem_singleton_self _, hmem'⟩)]

/-- Each comparison is about a space of its own. -/
theorem spaceGuid_of_mem_comparePermissions {userGuid spaceGuid : String}
    {keys : List UserRoleNames} {oldPerms newPerms : UserRoles} {change : CfRoleChange}
    (h : change ∈ comparePermissions userGuid orgGuid spaceGuid keys oldPerms newPerms) :
    change.spaceGuid = spaceGuid := by
  obtain ⟨role, -, add, -, -, rfl⟩ := mem_comparePermissions.1 h
  rfl

theorem nodup_createRolesUserDiff (hguid : state.newRoles.spaces.get? "" = none)
    (user : PickedUser) :
    (createRolesUserDiff existingRoles state.newRoles user orgGuid).Nodup := by
  rw [createRolesUserDiff]
  refine List.nodup_append.2 ⟨nodup_comparePermissions (by decide), List.nodup_flatMap.2
    ⟨fun spaceGuid _ => ?_, (JsObject.nodup_ownKeys _).imp
      fun hne change hchange hchange' => ?_⟩, ?_⟩
  · split
    · exact List.nodup_nil
    · exact nodup_comparePermissions (by decide)
  · -- The changes of two spaces have different guids.
    dsimp only at hchange hchange'
    split at hchange
    · exact List.not_mem_nil hchange
    · split at hchange'
      · exact List.not_mem_nil hchange'
      · exact hne ((spaceGuid_of_mem_comparePermissions hchange).symm.trans
          (spaceGuid_of_mem_comparePermissions hchange'))
  · -- Those of the organisation have none.
    rintro change horg _ hspace rfl
    obtain ⟨spaceGuid, hkey, hspace⟩ := List.mem_flatMap.1 hspace
    split at hspace
    · exact List.not_mem_nil hspace
    · rename_i newSpace hget
      have hempty := (spaceGuid_of_mem_comparePermissions hspace).symm.trans
        (spaceGuid_of_mem_comparePermissions horg)
      rw [hempty, hguid] at hget
      cases hget

theorem mem_createRolesDiff (hguid : state.newRoles.spaces.get? "" = none)
    {change : CfRoleChange} : change ∈ (createRolesDiff existingRoles orgGuid state).1 ↔
      ∃ user ∈ state.users, ∃ (box : CfRoleCheckbox) (add : Bool),
        hasRole box.role state.newRoles box.spaceGuid = some add ∧
        hasExistingRole box.role existingRoles user.guid orgGuid box.spaceGuid ≠ add ∧
        change = ⟨user.guid, orgGuid, box.spaceGuid, add, box.role⟩ := by
  rw [createRolesDiff, List.mem_flatMap]
  exact exists_congr fun user => and_congr_right fun _ => mem_createRolesUserDiff hguid

theorem changesApply_createRolesDiff (hguid : state.newRoles.spaces.get? "" = none)
    (hnodup : (state.users.map PickedUser.guid).Nodup) :
    ChangesApply existingRoles state orgGuid (createRolesDiff existingRoles orgGuid state).1 := by
  refine ⟨fun user huser box => ?_, fun userGuid org box hother => ?_, ?_, fun change hchange => ?_⟩
  · -- The changes about the box all come from what was clicked there.
    have habout : ∀ change ∈ (createRolesDiff existingRoles orgGuid state).1,
        change.IsAbout user.guid orgGuid box →
          hasRole box.role state.newRoles box.spaceGuid = some change.add ∧
          hasExistingRole box.role existingRoles user.guid orgGuid box.spaceGuid ≠ change.add := by
      intro change hchange habout
      obtain ⟨user', -, box', add, hnew, hold, rfl⟩ := (mem_createRolesDiff hguid).1 hchange
      rw [← habout.user, ← habout.space, ← habout.role]
      exact ⟨hnew, hold⟩
    rw [resultingRole]
    by_cases hchanged : ∃ change ∈ (createRolesDiff existingRoles orgGuid state).1,
        change.IsAbout user.guid orgGuid box
    · obtain ⟨change, hchange, hbox⟩ := hchanged
      have hnew := (habout change hchange hbox).1
      rw [hnew, Option.getD_some]
      refine changeAll_of_isAbout (fun other hother hbox' => ?_) ⟨change, hchange, hbox⟩
      exact Option.some.inj ((habout other hother hbox').1.symm.trans hnew)
    · rw [changeAll_of_not_isAbout fun change hchange hbox => hchanged ⟨change, hchange, hbox⟩]
      rcases hnew : hasRole box.role state.newRoles box.spaceGuid with _ | add
      · rfl
      · by_contra hne
        refine hchanged ⟨_, (mem_createRolesDiff hguid).2 ⟨user, huser, box, add, hnew, hne, rfl⟩,
          ⟨rfl, rfl, rfl, rfl⟩⟩
  · refine changeAll_of_not_isAbout fun change hchange habout => ?_
    obtain ⟨user, huser, box', add, -, -, rfl⟩ := (mem_createRolesDiff hguid).1 hchange
    rcases hother with hother | hother
    · exact hother (habout.user ▸ List.mem_map_of_mem huser)
    · exact hother habout.org.symm
  · refine List.nodup_flatMap.2 ⟨fun user _ => nodup_createRolesUserDiff hguid user, ?_⟩
    refine (List.pairwise_map.1 hnodup).imp fun {user user'} hne change hchange hchange' => ?_
    obtain ⟨box, add, -, -, rfl⟩ := (mem_createRolesUserDiff hguid).1 hchange
    obtain ⟨box', add', -, -, heq⟩ := (mem_createRolesUserDiff hguid).1 hchange'
    exact hne (congrArg CfRoleChange.userGuid heq)
  · obtain ⟨user, huser, box, add, -, hold, rfl⟩ := (mem_createRolesDiff hguid).1 hchange
    exact ⟨box, ⟨rfl, rfl, rfl, rfl⟩, hold⟩

theorem get?_setSpaceRole {orgRoles : IUserPermissionInOrg} {spaceGuid : String}
    {role : UserRoleNames} {applyRole : Bool} (h : spaceGuid ≠ "") :
    (setSpaceRole orgRoles orgGuid spaceGuid role applyRole).spaces.get? "" =
      orgRoles.spaces.get? "" := by
  rw [setSpaceRole]
  dsimp only
  split
  · rw [JsObject.get?_set, if_neg h.symm]
  · split_ifs
    · exact (JsObject.get?_set _ _ _ _).trans (if_neg h.symm)
    · exact (JsObject.get?_set _ _ _ _).trans (if_neg h.symm)

theorem spaces_setOrgRole {orgRoles orgRoles' : IUserPermissionInOrg} {role : UserRoleNames}
    {applyRole : Bool} (h : setOrgRole orgRoles role applyRole = some orgRoles') :
    orgRoles'.spaces = orgRoles.spaces := by
  rw [setOrgRole] at h
  split at h
  · cases h
  · split_ifs at h
    · obtain rfl := Option.some.inj h
      rfl
    · obtain rfl := Option.some.inj h
      rfl

/-- The wizard files no space without a guid. -/
theorem noGuid_reducer (h : state.newRoles.spaces.get? "" = none) (action : UsersRolesAction) :
    (UsersRolesReducer state action).newRoles.spaces.get? "" = none := by
  have hrole : ∀ org spaceGuid role applyRole,
      (setRole state org spaceGuid role applyRole).newRoles.spaces.get? "" = none := by
    intro org spaceGuid role applyRole
    rw [setRole]
    by_cases hspace : spaceGuid = ""
    · rw [if_neg (not_not.2 hspace)]
      cases hroles : setOrgRole state.newRoles role applyRole with
      | none => exact h
      | some newRoles => exact (congrArg (·.get? "") (spaces_setOrgRole hroles)).trans h
    · rw [if_pos hspace]
      exact (get?_setSpaceRole hspace).trans h
  cases action with
  | setUsers cfGuid users => rfl
  | clear => rfl
  | setOrg selectedOrg => rfl
  | setOrgRole org role applyRole => exact hrole org "" role applyRole
  | setSpaceRole org spaceGuid role applyRole => exact hrole org spaceGuid role applyRole
  | setChanges changes => exact h

/-- No state of the wizard has roles of a space without a guid. -/
theorem noGuid_run (actions : List UsersRolesAction) :
    (actions.foldl UsersRolesReducer defaultUsersRolesState).newRoles.spaces.get? "" = none :=
  List.foldlRecOn (motive := fun state : UsersRolesState => state.newRoles.spaces.get? "" = none)
    actions _ rfl fun _ h action _ => noGuid_reducer h action

/-- Every change that is made is asked for, everything that is asked for is made, and what the
changes are made to are the roles that the users hold. -/
theorem createRolesDiff_applies {cfGuid : String} {users : List CfUserEntity}
    (hguid : state.newRoles.spaces.get? "" = none)
    (hnodup : (state.users.map PickedUser.guid).Nodup) (orgGuid : String) :
    ((∀ user ∈ users, user.guid ∈ state.users.map PickedUser.guid → user.Complete) →
      (populateRoles cfGuid state.users users).isSome) ∧
    ∀ existingRoles, populateRoles cfGuid state.users users = some existingRoles →
      ChangesApply existingRoles state orgGuid (createRolesDiff existingRoles orgGuid state).1 ∧
      HoldsExisting cfGuid state.users users existingRoles :=
  ⟨populateRoles_isSome, fun _ hroles => ⟨changesApply_createRolesDiff hguid hnodup,
    holdsExisting_populateRoles hroles⟩⟩

end Diff

/-- A user of the organisation "o" who manages its space "s". -/
def managerOfSpace : CfUserEntity :=
  ⟨"u", fun param =>
    if param = .organizations then some [some ⟨"o", "o", "org", ""⟩]
    else if param = .managedSpaces then some [some ⟨"s", "s", "space", "o"⟩]
    else none⟩

/-- The auditor of the organisation is clicked, and the manager of the space clicked away. -/
def clicks : List UsersRolesAction :=
  [.setUsers "cf" [⟨"u", none⟩], .setOrg "o", .setOrgRole "o" .auditors true,
    .setSpaceRole "o" "s" .managers false]

/-- The state after the clicks. -/
def clickedAuditor : UsersRolesState := clicks.foldl UsersRolesReducer defaultUsersRolesState

/-- Two changes for a user who manages a space. -/
theorem createRolesDiff_applies_manager :
    ∃ existingRoles, populateRoles "cf" clickedAuditor.users [managerOfSpace] = some existingRoles ∧
      (createRolesDiff existingRoles "o" clickedAuditor).1 =
        [⟨"u", "o", "", true, .auditors⟩, ⟨"u", "o", "s", false, .managers⟩] ∧
      ChangesApply existingRoles clickedAuditor "o"
        (createRolesDiff existingRoles "o" clickedAuditor).1 ∧
      HoldsExisting "cf" clickedAuditor.users [managerOfSpace] existingRoles := by
  obtain ⟨existingRoles, hroles, hdiff⟩ :
      ∃ existingRoles, populateRoles "cf" clickedAuditor.users [managerOfSpace] =
        some existingRoles ∧ (createRolesDiff existingRoles "o" clickedAuditor).1 =
          [⟨"u", "o", "", true, .auditors⟩, ⟨"u", "o", "s", false, .managers⟩] :=
    ⟨_, rfl, by decide⟩
  exact ⟨existingRoles, hroles, hdiff,
    (createRolesDiff_applies (noGuid_run clicks) (by decide) "o").2 existingRoles hroles⟩

end Stratos
