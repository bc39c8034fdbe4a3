import Mathlib.Data.List.Induction
import Stratos.Frontend.CurrentUserRoles

/-!
# What an action does to the roles of an endpoint

The roles of one endpoint before and after an action (`CfStep`, `cfStep_of_reducer`), and
what the folds inside a load keep : what holds of every entry and of what the sub-reducer
makes of one holds after the load (`load_all`), and `assignSpaceToOrg` lists every resource
under its organisation and unlists nothing (`assignSpaceToOrg_spec`).
-/

open Lib

namespace Stratos

/-! ## What an action does to one endpoint -/

/-- The space has at least one role. -/
def ISpaceRoleState.hasRole (s : ISpaceRoleState) : Bool :=
  s.isManager || s.isAuditor || s.isDeveloper

/-- The roles of an endpoint, or the default. -/
def rolesOf (state : ICurrentUserRolesState) (e : String) : ICfRolesState :=
  (state.cf.get? e).getD getDefaultEndpointRoles

/-- The space's state and the organisation's list after a change of a space role. -/
def spaceGuidsAfter (org : IOrgRoleState) (spacePermissions : ISpaceRoleState) (x : String)
    (isAdd : Bool) : List String :=
  if isAdd ∧ x ∉ org.spaceGuids then org.spaceGuids ++ [x]
  else if ¬isAdd ∧ x ∈ org.spaceGuids ∧ ¬spacePermissions.isAuditor ∧
      ¬spacePermissions.isDeveloper ∧ ¬spacePermissions.isManager then
    org.spaceGuids.filter (· ≠ x)
  else org.spaceGuids

/-- The roles of an endpoint before and after an action. -/
inductive CfStep (e : String) (cf : ICfRolesState) : RolesAction → ICfRolesState → Prop
  | same {a : RolesAction} {cf' : ICfRolesState} (hs : cf'.spaces = cf.spaces)
      (ho : cf'.organizations = cf.organizations) : CfStep e cf a cf'
  | reset {a : RolesAction} : CfStep e cf a getDefaultEndpointRoles
  | load {a : GetCurrentUserRelationsComplete} {cf' : ICfRolesState} (he : a.endpointGuid = e)
      (h : currentUserCFRolesReducer cf a = some cf') :
      CfStep e cf (.getCurrentUserRelationSuccess a) cf'
  | deleteSpace {a : DeleteAction} (he : a.endpointGuid = e) {space : ISpaceRoleState}
      {org : IOrgRoleState} {orgId : String} (hs : cf.spaces.get? a.guid = some space)
      (ho : cf.organizations.get? orgId = some org) :
      CfStep e cf (.deleteSpaceSuccess a) { cf with
        organizations := cf.organizations.set orgId
          { org with spaceGuids := org.spaceGuids.filter (· ≠ a.guid) } }
  | deleteOrg {a : DeleteAction} (he : a.endpointGuid = e) :
      CfStep e cf (.deleteOrganizationSuccess a)
        { cf with organizations := cf.organizations.erase a.guid }
  | orgRole {act : RolesAction} {a : ChangeUserRole} {isAdd : Bool}
      (ha : act = .addRoleSuccess a ∨ act = .removeRoleSuccess a) :
      CfStep e cf act { cf with
        organizations := cf.organizations.set a.entityGuid
          (((cf.organizations.get? a.entityGuid).getD createOrgRoleStateState).setPermission
            a.permissionTypeKey isAdd) }
  | spaceRole {act : RolesAction} {a : ChangeUserRole} {isAdd : Bool} {org : IOrgRoleState}
      {s : ISpaceRoleState} (he : a.endpointGuid = e)
      (ha : act = if isAdd then .addRoleSuccess a else .removeRoleSuccess a)
      (hupdate : a.updateConnectedUser = true) (hspace : a.isSpace = true)
      (ho : cf.organizations.get? (propertyKey a.orgGuid) = some org)
      (hs : (cf.spaces.get? a.entityGuid).getD
        { defaultUserSpaceRoleState with orgId := a.orgGuid } = s) :
      CfStep e cf act { cf with
        organizations := cf.organizations.set (propertyKey a.orgGuid) { org with
          spaceGuids :=
            spaceGuidsAfter org (s.setPermission a.permissionTypeKey isAdd) a.entityGuid isAdd }
        spaces := cf.spaces.set a.entityGuid (s.setPermission a.permissionTypeKey isAdd) }

section Steps

variable {state state' : ICurrentUserRolesState} {e : String} {cf' : ICfRolesState}

theorem rolesOf_of_get? {cf : ICfRolesState} (h : state.cf.get? e = some cf) :
    rolesOf state e = cf := by
  rw [rolesOf, h, Option.getD_some]

/-- An endpoint that keeps its roles. -/
theorem cfStep_of_get? {a : RolesAction} (h : state.cf.get? e = some cf') :
    CfStep e (rolesOf state e) a cf' :=
  .same (by rw [rolesOf_of_get? h]) (by rw [rolesOf_of_get? h])

/-- Scopes change the global flags only. -/
theorem propagate_one {cf? : Option ICfRolesState} {endpoint : PartialEndpoint}
    {roles : ICfRolesState} (h : propagateEndpointAdminPermissions cf? endpoint = some roles) :
    roles.spaces = (cf?.getD getDefaultEndpointRoles).spaces ∧
      roles.organizations = (cf?.getD getDefaultEndpointRoles).organizations := by
  unfold propagateEndpointAdminPermissions at h
  cases huser : endpoint.user with
  | none =>
    rw [huser] at h
    obtain rfl := Option.some.inj h
    exact ⟨rfl, rfl⟩
  | some user =>
    rw [huser] at h
    obtain ⟨scopes, -, h⟩ := Option.bind_eq_some_iff.1 h
    obtain rfl := Option.some.inj h
    exact ⟨rfl, rfl⟩

theorem get?_propagate {cfState cfState' : JsObject ICfRolesState}
    {endpoints : List PartialEndpoint}
    (h : propagateEndpointsAdminPermissions cfState endpoints = some cfState')
    (hget : cfState'.get? e = some cf') :
    cf'.spaces = ((cfState.get? e).getD getDefaultEndpointRoles).spaces ∧
      cf'.organizations = ((cfState.get? e).getD getDefaultEndpointRoles).organizations := by
  induction endpoints generalizing cfState with
  | nil =>
    obtain rfl : cfState = cfState' := Option.some.inj h
    rw [hget]
    exact ⟨rfl, rfl⟩
  | cons endpoint endpoints ih =>
    obtain ⟨cfState₁, h₁, h⟩ := Option.bind_eq_some_iff.1 h
    obtain ⟨roles, hroles, h₁⟩ := Option.bind_eq_some_iff.1 h₁
    obtain rfl := Option.some.inj h₁
    obtain ⟨hs, ho⟩ := ih h
    rw [hs, ho, JsObject.get?_set]
    split_ifs with heq
    · subst heq
      exact propagate_one hroles
    · exact ⟨rfl, rfl⟩

theorem cfStep_propagate {cfState' : JsObject ICfRolesState} {endpoints : List PartialEndpoint}
    {a : RolesAction} (h : propagateEndpointsAdminPermissions state.cf endpoints = some cfState')
    (hget : cfState'.get? e = some cf') : CfStep e (rolesOf state e) a cf' := by
  obtain ⟨hs, ho⟩ := get?_propagate h hget
  exact .same hs ho

theorem cfStep_removeEndpoint {a : RolesAction} {action : EndpointActionComplete}
    (hget : (removeEndpointRoles state action).cf.get? e = some cf') :
    CfStep e (rolesOf state e) a cf' := by
  unfold removeEndpointRoles at hget
  split_ifs at hget
  · exact cfStep_of_get? hget
  · rw [JsObject.get?_erase] at hget
    split_ifs at hget
    exact cfStep_of_get? hget

theorem cfStep_deleteSpace {action : DeleteAction}
    (h : removeSpaceRoles state action = some state') (hget : state'.cf.get? e = some cf') :
    CfStep e (rolesOf state e) (.deleteSpaceSuccess action) cf' := by
  obtain ⟨cf, hcf, h⟩ := Option.bind_eq_some_iff.1 h
  cases hs : cf.spaces.get? action.guid with
  | none =>
    rw [hs] at h
    obtain rfl : state = state' := Option.some.inj h
    exact cfStep_of_get? hget
  | some space =>
    rw [hs] at h
    obtain ⟨org, ho, h⟩ := Option.bind_eq_some_iff.1 h
    obtain rfl := Option.some.inj h
    rw [JsObject.get?_set] at hget
    split_ifs at hget with he
    · obtain rfl := Option.some.inj hget
      subst he
      rw [rolesOf_of_get? hcf]
      exact .deleteSpace rfl hs ho
    · exact cfStep_of_get? hget

theorem cfStep_deleteOrg {action : DeleteAction} (h : removeOrgRoles state action = some state')
    (hget : state'.cf.get? e = some cf') :
    CfStep e (rolesOf state e) (.deleteOrganizationSuccess action) cf' := by
  obtain ⟨cf, hcf, h⟩ := Option.bind_eq_some_iff.1 h
  cases ho : cf.organizations.get? action.guid with
  | none =>
    rw [ho] at h
    obtain rfl : state = state' := Option.some.inj h
    exact cfStep_of_get? hget
  | some org =>
    rw [ho] at h
    obtain rfl := Option.some.inj h
    rw [JsObject.get?_set] at hget
    split_ifs at hget with he
    · obtain rfl := Option.some.inj hget
      subst he
      rw [rolesOf_of_get? hcf]
      exact .deleteOrg rfl
    · exact cfStep_of_get? hget

theorem cfStep_roleChange {isAdd : Bool} {action : ChangeUserRole}
    (h : updateAfterRoleChange state isAdd action = some state')
    (hget : state'.cf.get? e = some cf') :
    CfStep e (rolesOf state e)
      (if isAdd then .addRoleSuccess action else .removeRoleSuccess action) cf' := by
  unfold updateAfterRoleChange at h
  split at h
  · obtain rfl : state = state' := Option.some.inj h
    exact cfStep_of_get? hget
  · rename_i hupdate
    rw [not_not] at hupdate
    obtain ⟨cf, hcf, h⟩ := Option.bind_eq_some_iff.1 h
    dsimp only at h
    split_ifs at h with hspace
    · obtain rfl : state = state' := Option.some.inj h
      exact cfStep_of_get? hget
    · obtain ⟨org, ho, h⟩ := Option.bind_eq_some_iff.1 h
      obtain rfl := Option.some.inj h
      rw [JsObject.get?_set] at hget
      by_cases he : e = action.endpointGuid
      · rw [if_pos he] at hget
        obtain rfl := Option.some.inj hget
        subst he
        rw [rolesOf_of_get? hcf]
        exact .spaceRole rfl rfl hupdate hspace ho rfl
      · rw [if_neg he] at hget
        exact cfStep_of_get? hget
    · obtain rfl : state = state' := Option.some.inj h
      exact cfStep_of_get? hget
    · obtain rfl := Option.some.inj h
      simp only [handleOrgRoleChange, JsObject.get?_set] at hget
      split_ifs at hget with he
      · obtain rfl := Option.some.inj hget
        subst he
        rw [rolesOf_of_get? hcf]
        exact .orgRole  (by cases isAdd <;> simp)
      · exact cfStep_of_get? hget

/-- What an action can do to the roles of an endpoint. -/
theorem cfStep_of_reducer {a : RolesAction} (h : currentUserRolesReducer state a = some state')
    (hget : state'.cf.get? e = some cf') : CfStep e (rolesOf state e) a cf' := by
  cases a with
  | getCurrentUserRelationSuccess action =>
    obtain ⟨cfs, hcfs, h⟩ := Option.bind_eq_some_iff.1 h
    obtain rfl := Option.some.inj h
    obtain ⟨endpoint, hendpoint, hcfs⟩ := Option.bind_eq_some_iff.1 hcfs
    obtain rfl := Option.some.inj hcfs
    rw [JsObject.get?_set] at hget
    split_ifs at hget with he
    · obtain rfl := Option.some.inj hget
      subst he
      exact .load rfl hendpoint
    · exact cfStep_of_get? hget
  | sessionVerified sessionData =>
    obtain ⟨endpoints, -, h⟩ := Option.bind_eq_some_iff.1 h
    obtain ⟨cfRoles, hcf, h⟩ := Option.bind_eq_some_iff.1 h
    obtain rfl := Option.some.inj h
    refine cfStep_propagate hcf ?_
    unfold applyInternalScopes at hget
    split at hget <;> exact hget
  | registerEndpointsSuccess action =>
    obtain ⟨endpoint, -, h⟩ := Option.bind_eq_some_iff.1 h
    split_ifs at h
    · obtain rfl : state = state' := Option.some.inj h
      exact cfStep_of_get? hget
    · obtain rfl := Option.some.inj h
      rw [JsObject.get?_set] at hget
      split_ifs at hget
      · obtain rfl := Option.some.inj hget
        exact .reset
      · exact cfStep_of_get? hget
  | connectEndpointsSuccess action =>
    simp only [currentUserRolesReducer, updateNewlyConnectedEndpoint] at h
    split_ifs at h
    · obtain rfl : state = state' := Option.some.inj h
      exact cfStep_of_get? hget
    · obtain ⟨endpoint, -, h⟩ := Option.bind_eq_some_iff.1 h
      obtain ⟨cfRoles, hcf, h⟩ := Option.bind_eq_some_iff.1 h
      obtain rfl := Option.some.inj h
      exact cfStep_propagate hcf hget
  | disconnectEndpointsSuccess action | unregisterEndpointsSuccess action =>
    obtain rfl := Option.some.inj h
    exact cfStep_removeEndpoint hget
  | deleteOrganizationSuccess action => exact cfStep_deleteOrg h hget
  | deleteSpaceSuccess action => exact cfStep_deleteSpace h hget
  | addRoleSuccess action => exact cfStep_roleChange h hget
  | removeRoleSuccess action => exact cfStep_roleChange h hget
  | getCurrentUserRelations step =>
    obtain rfl := Option.some.inj h
    exact cfStep_of_get? hget
  | getCurrentUserCfRelations cfGuid step =>
    obtain ⟨cfs, hcfs, h⟩ := Option.bind_eq_some_iff.1 h
    obtain rfl := Option.some.inj h
    obtain ⟨roles, hroles, hcfs⟩ := Option.bind_eq_some_iff.1 hcfs
    obtain rfl := Option.some.inj hcfs
    rw [JsObject.get?_set] at hget
    split_ifs at hget with he
    · obtain rfl := Option.some.inj hget
      subst he
      rw [rolesOf_of_get? hroles]
      exact .same rfl rfl
    · exact cfStep_of_get? hget
  | other =>
    obtain rfl : state = state' := Option.some.inj h
    exact cfStep_of_get? hget

end Steps

/-! ## Loads -/

section Loads

variable {T : Type} {reducer : RoleFinalReducer T} {rel : UserRelationTypes} {e : String}
  {data : List APIResource} {Φ : String → T → Prop}

/-- What holds of every entry and of what the reducer makes of a resource, `addNewRoles`
keeps. -/
theorem addNewRoles_all {state o : JsObject T} {ids : List String}
    (h : addNewRoles state ⟨rel, e, data⟩ reducer = some (o, ids))
    (h₀ : ∀ x t, state.get? x = some t → Φ x t)
    (hadd : ∀ d ∈ data, ∀ s? t', (∀ t, s? = some t → Φ d.guid t) →
      (s? = none → state.get? d.guid = none) → reducer s? rel true (some d) = some t' →
      Φ d.guid t') :
    (∀ x ∈ state.keys, x ∈ o.keys) ∧ ∀ x t, o.get? x = some t → Φ x t := by
  induction data using List.reverseRecOn generalizing o ids with
  | nil =>
    cases Option.some.inj h
    exact ⟨fun _ h => h, h₀⟩
  | append_singleton data d ih =>
    simp only [addNewRoles, List.foldlM_append] at h
    obtain ⟨⟨o₁, ids₁⟩, h₁, h⟩ := Option.bind_eq_some_iff.1 h
    obtain ⟨hkeys, hΦ⟩ := ih h₁ fun d' hd' => hadd d' (List.mem_append_left _ hd')
    simp only [List.foldlM_cons, List.foldlM_nil] at h
    obtain ⟨⟨o₂, ids₂⟩, h₂, h⟩ := Option.bind_eq_some_iff.1 h
    cases Option.some.inj h
    obtain ⟨role, hrole, h₂⟩ := Option.bind_eq_some_iff.1 h₂
    cases Option.some.inj h₂
    refine ⟨fun x hx => JsObject.mem_keys_set.2 (Or.inl (hkeys x hx)), fun x t hx => ?_⟩
    rw [JsObject.get?_set] at hx
    split_ifs at hx with heq
    · obtain rfl := Option.some.inj hx
      subst heq
      refine hadd d (by simp) _ _ (fun t ht => hΦ _ t ht) (fun hnone => ?_) hrole
      rw [JsObject.get?_eq_none_iff] at hnone ⊢
      exact fun hmem => hnone (hkeys _ hmem)
    · exact hΦ x t hx

/-- What holds of every entry and of what the reducer makes of it, `removeOldRoles` keeps. -/
theorem removeOldRoles_all {state o : JsObject T} {newIds : List String}
    (h : removeOldRoles state ⟨rel, e, data⟩ newIds reducer = some o)
    (h₀ : ∀ x t, state.get? x = some t → Φ x t)
    (hrem : ∀ x t t', Φ x t → reducer (some t) rel false none = some t' → Φ x t') :
    (∀ x ∈ state.keys, x ∈ o.keys) ∧ ∀ x t, o.get? x = some t → Φ x t := by
  suffices hks : ∀ (ks : List String) (cur : JsObject T), (∀ k ∈ ks, k ∈ state.keys) →
      (∀ x ∈ state.keys, x ∈ cur.keys) ∧ (∀ x t, cur.get? x = some t → Φ x t) →
      ks.foldlM (fun (currentState : JsObject T) id =>
        if id ∈ newIds then some state
        else do
          let role ← reducer (currentState.get? id) rel false none
          return currentState.set id role) cur = some o →
      (∀ x ∈ state.keys, x ∈ o.keys) ∧ ∀ x t, o.get? x = some t → Φ x t from
    hks state.ownKeys state (fun _ hk => JsObject.mem_ownKeys.1 hk) ⟨fun _ h => h, h₀⟩ h
  intro ks
  induction ks with
  | nil =>
    intro cur _ hcur h
    obtain rfl : cur = o := Option.some.inj h
    exact hcur
  | cons k ks ih =>
    intro cur hsub hcur h
    rw [List.foldlM_cons] at h
    obtain ⟨cur₁, h₁, h⟩ := Option.bind_eq_some_iff.1 h
    refine ih cur₁ (fun k' hk' => hsub k' (List.mem_cons_of_mem _ hk')) ?_ h
    split_ifs at h₁ with hk
    · obtain rfl : state = cur₁ := Option.some.inj h₁
      exact ⟨fun _ h => h, h₀⟩
    · obtain ⟨role, hrole, h₁⟩ := Option.bind_eq_some_iff.1 h₁
      obtain rfl := Option.some.inj h₁
      refine ⟨fun x hx => JsObject.mem_keys_set.2 (Or.inl (hcur.1 x hx)), fun x t hx => ?_⟩
      rw [JsObject.get?_set] at hx
      split_ifs at hx with heq
      · obtain rfl := Option.some.inj hx
        subst heq
        obtain ⟨t, ht⟩ := JsObject.exists_get? (hcur.1 x (hsub x (by simp)))
        rw [ht] at hrole
        exact hrem x t role (hcur.2 x t ht) hrole
      · exact hcur.2 x t hx

/-- What `addId` makes of the organisation : the one that is known, or the resource's. -/
theorem orgId_of_addId {s t : ISpaceRoleState} {d : Option APIResource}
    (h : addId s d = some t) :
    t.hasRole = s.hasRole ∧ (t = s ∧ noOrgId s.orgId = false ∨
      ∃ d', d = some d' ∧ t.orgId = d'.organizationGuid ∧ noOrgId s.orgId = true) := by
  unfold addId at h
  split_ifs at h with hno
  · obtain ⟨d', rfl, h⟩ := Option.bind_eq_some_iff.1 h
    obtain rfl := Option.some.inj h
    exact ⟨rfl, Or.inr ⟨d', rfl, rfl, hno⟩⟩
  · obtain rfl : s = t := Option.some.inj h
    exact ⟨rfl, Or.inl ⟨rfl, by simpa using hno⟩⟩

theorem orgId_applyRoles (s : ISpaceRoleState) (rel : UserRelationTypes) (b : Bool) :
    (applyRoles s rel b).orgId = s.orgId := by
  cases rel <;> rfl

theorem hasRole_of_applyRoles {s : ISpaceRoleState} {rel : UserRelationTypes}
    (h : (applyRoles s rel false).hasRole = true) : s.hasRole = true := by
  cases rel <;> simp only [applyRoles, ISpaceRoleState.hasRole, Bool.or_eq_true] at h ⊢ <;> tauto

/-- The space reducer on a resource : the organisation is the one known before or the
resource's. -/
theorem spaceReducer_add {s? : Option ISpaceRoleState} {d : APIResource} {t : ISpaceRoleState}
    (h : currentUserSpaceRoleReducer s? rel true (some d) = some t) :
    (∃ s, s? = some s ∧ t.orgId = s.orgId) ∨ t.orgId = d.organizationGuid := by
  obtain ⟨idState, hid, h⟩ := Option.bind_eq_some_iff.1 h
  obtain rfl := Option.some.inj h
  rw [orgId_applyRoles]
  obtain ⟨-, ⟨rfl, hknown⟩ | ⟨d', hd', horg, -⟩⟩ := orgId_of_addId hid
  · cases s? with
    | none => cases hknown
    | some s => exact Or.inl ⟨s, rfl, rfl⟩
  · cases hd'
    exact Or.inr horg

/-- The space reducer without a resource : the organisation stays, and no role is added. -/
theorem spaceReducer_remove {s t : ISpaceRoleState}
    (h : currentUserSpaceRoleReducer (some s) rel false none = some t) :
    t.orgId = s.orgId ∧ (t.hasRole = true → s.hasRole = true) := by
  obtain ⟨idState, hid, h⟩ := Option.bind_eq_some_iff.1 h
  obtain rfl := Option.some.inj h
  obtain ⟨-, ⟨rfl, -⟩ | ⟨d', hd', -⟩⟩ := orgId_of_addId hid
  · exact ⟨orgId_applyRoles _ _ _, hasRole_of_applyRoles⟩
  · cases hd'

theorem orgReducer_spaceGuids {s? : Option IOrgRoleState} {b : Bool} {d : Option APIResource}
    {t : IOrgRoleState} (h : currentUserOrgRoleReducer s? rel b d = some t) :
    t.spaceGuids = (s?.getD createOrgRoleStateState).spaceGuids := by
  unfold currentUserOrgRoleReducer at h
  cases rel <;> cases Option.some.inj h <;> rfl

/-- The two kinds of relation, and the maps a load of each changes. -/
theorem currentUserCFRolesReducer_cases {cf cf' : ICfRolesState}
    {a : GetCurrentUserRelationsComplete}
    (h : currentUserCFRolesReducer cf a = some cf') :
    (cf'.spaces = cf.spaces ∧ ∃ o ids,
      addNewRoles cf.organizations a currentUserOrgRoleReducer = some (o, ids) ∧
      removeOldRoles o a ids currentUserOrgRoleReducer = some cf'.organizations) ∨
    (isSpaceRelation a.relationType = true ∧
      cf'.organizations = assignSpaceToOrg cf.organizations a.data ∧ ∃ o ids,
      addNewRoles cf.spaces a currentUserSpaceRoleReducer = some (o, ids) ∧
      removeOldRoles o a ids currentUserSpaceRoleReducer = some cf'.spaces) ∨
    cf' = cf := by
  unfold currentUserCFRolesReducer at h
  split_ifs at h with horg hspace
  · obtain ⟨organizations, horgs, h⟩ := Option.bind_eq_some_iff.1 h
    obtain rfl := Option.some.inj h
    obtain ⟨⟨o, ids⟩, hnew, hold⟩ := Option.bind_eq_some_iff.1 horgs
    exact Or.inl ⟨rfl, o, ids, hnew, hold⟩
  · obtain ⟨spaces, hspaces, h⟩ := Option.bind_eq_some_iff.1 h
    obtain rfl := Option.some.inj h
    obtain ⟨⟨o, ids⟩, hnew, hold⟩ := Option.bind_eq_some_iff.1 hspaces
    exact Or.inr (Or.inl ⟨hspace, rfl, o, ids, hnew, hold⟩)
  · exact Or.inr (Or.inr (Option.some.inj h).symm)

/-- What holds of every organisation or space and of what the reducer makes of it, a load
keeps. -/
theorem load_all {state o o' : JsObject T} {ids : List String}
    (hnew : addNewRoles state ⟨rel, e, data⟩ reducer = some (o, ids))
    (hold : removeOldRoles o ⟨rel, e, data⟩ ids reducer = some o')
    (h₀ : ∀ x t, state.get? x = some t → Φ x t)
    (hadd : ∀ d ∈ data, ∀ s? t', (∀ t, s? = some t → Φ d.guid t) →
      (s? = none → state.get? d.guid = none) → reducer s? rel true (some d) = some t' →
      Φ d.guid t')
    (hrem : ∀ x t t', Φ x t → reducer (some t) rel false none = some t' → Φ x t') :
    (∀ x ∈ state.keys, x ∈ o'.keys) ∧ ∀ x t, o'.get? x = some t → Φ x t := by
  obtain ⟨hkeys, hΦ⟩ := addNewRoles_all hnew h₀ hadd
  obtain ⟨hkeys', hΦ'⟩ := removeOldRoles_all hold hΦ hrem
  exact ⟨fun x hx => hkeys' x (hkeys x hx), hΦ'⟩

end Loads

/-! ## Listing spaces -/

section Assign

/-- The organisations list the space under the organisation. -/
def ListsIn (organizations : JsObject IOrgRoleState) (orgGuid spaceGuid : String) : Prop :=
  ∃ org, organizations.get? orgGuid = some org ∧ spaceGuid ∈ org.spaceGuids

/-- `assignSpaceToOrg` lists every resource under its organisation, keeps what is listed and
adds no other organisation. -/
theorem assignSpaceToOrg_spec (organizations : JsObject IOrgRoleState)
    (data : List APIResource) :
    (∀ o x, ListsIn organizations o x → ListsIn (assignSpaceToOrg organizations data) o x) ∧
      (∀ d ∈ data,
        ListsIn (assignSpaceToOrg organizations data) (propertyKey d.organizationGuid) d.guid) ∧
      ∀ o, organizations.get? o = none → (∀ d ∈ data, propertyKey d.organizationGuid ≠ o) →
        (assignSpaceToOrg organizations data).get? o = none := by
  induction data using List.reverseRecOn with
  | nil => exact ⟨fun _ _ h => h, by simp, fun _ h _ => h⟩
  | append_singleton data d ih =>
    obtain ⟨hkeep, hdata, hnone⟩ := ih
    set organizations' := assignSpaceToOrg organizations data with horgs
    set org := (organizations'.get? (propertyKey d.organizationGuid)).getD
      createOrgRoleStateState with horg
    have hstep : assignSpaceToOrg organizations (data ++ [d]) =
        if d.guid ∈ org.spaceGuids then organizations'
        else organizations'.set (propertyKey d.organizationGuid)
          { org with spaceGuids := org.spaceGuids ++ [d.guid] } := by
      rw [horg, horgs, assignSpaceToOrg, List.foldl_append]
      rfl
    -- One more resource keeps what is listed, and lists its own space.
    have hmono : ∀ o x, ListsIn organizations' o x →
        ListsIn (assignSpaceToOrg organizations (data ++ [d])) o x := by
      rintro o x ⟨org', horg', hx⟩
      rw [hstep]
      split_ifs
      · exact ⟨org', horg', hx⟩
      · by_cases ho : o = propertyKey d.organizationGuid
        · subst ho
          have hsame : org = org' := by rw [horg, horg', Option.getD_some]
          exact ⟨_, JsObject.get?_set_self .., by simp [hsame, hx]⟩
        · exact ⟨org', by rw [JsObject.get?_set, if_neg ho, horg'], hx⟩
    refine ⟨fun o x h => hmono o x (hkeep o x h), fun d' hd' => ?_, fun o ho hall => ?_⟩
    · rcases List.mem_append.1 hd' with hd' | hd'
      · exact hmono _ _ (hdata d' hd')
      · obtain rfl := List.mem_singleton.1 hd'
        rw [hstep]
        split_ifs with hmem
        · cases hget : organizations'.get? (propertyKey d'.organizationGuid) with
          | none => simp [horg, hget, createOrgRoleStateState] at hmem
          | some org' =>
            rw [horg, hget] at hmem
            exact ⟨org', hget, hmem⟩
        · exact ⟨_, JsObject.get?_set_self .., by simp⟩
    · have ho' := hnone o ho fun d' hd' => hall d' (List.mem_append_left _ hd')
      rw [hstep]
      split_ifs
      · exact ho'
      · rw [JsObject.get?_set, if_neg fun h => hall d (by simp) h.symm, ho']

end Assign

end Stratos
