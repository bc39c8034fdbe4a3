import Stratos.Frontend.RoleSteps

/-!
# Spaces and the organisations that list them

The roles store records a space with its flags and the guid of its organisation, and the
organisation with the guids of its spaces. Loads, role changes and deletions update the two
maps through separate helpers.

A deletion of a space takes the guid out of the organisation's list and leaves the space
itself (`removeSpaceRoles`, `not_rolesBookkept_delete`), and a deletion of an organisation
leaves all of its spaces (`removeOrgRoles`). `rolesBookkept_of_run` says that these deletions, and
a load or an addition that names another organisation for a space that is recorded without
being listed, are the only ways to break the bookkeeping : without them every space with a
role is listed by its organisation, and a deleted guid has no entry until an action names it
again.
-/

open Lib

namespace Stratos

/-! ## The bookkeeping -/

/-- The organisation lists the space. -/
def Lists (cf : ICfRolesState) (orgGuid spaceGuid : String) : Prop :=
  ∃ org, cf.organizations.get? orgGuid = some org ∧ spaceGuid ∈ org.spaceGuids

/-- Every space with a role and a known organisation is listed by it. -/
def Listed (cf : ICfRolesState) : Prop :=
  ∀ x s orgGuid, cf.spaces.get? x = some s → s.hasRole = true → s.orgId = some orgGuid →
    orgGuid ≠ "" → Lists cf orgGuid x

/-- No entry for the space. -/
def NoSpace (spaceGuid : String) (cf : ICfRolesState) : Prop := cf.spaces.get? spaceGuid = none

/-- No entry for the organisation nor for any of its spaces. -/
def NoOrg (orgGuid : String) (cf : ICfRolesState) : Prop :=
  cf.organizations.get? orgGuid = none ∧
    ∀ x s, cf.spaces.get? x = some s → s.orgId ≠ some orgGuid

/-- The roles of an endpoint, if it is recorded, satisfy `p`. -/
def AtEndpoint (p : ICfRolesState → Prop) (e : String) (state : ICurrentUserRolesState) : Prop :=
  ∀ cf, state.cf.get? e = some cf → p cf

/-- The action names the guid, as an entity or as the organisation of one. -/
def Names (guid : String) : RolesAction → Prop
  | .getCurrentUserRelationSuccess a =>
    ∃ d ∈ a.data, d.guid = guid ∨ propertyKey d.organizationGuid = guid
  | .addRoleSuccess a | .removeRoleSuccess a =>
    a.entityGuid = guid ∨ propertyKey a.orgGuid = guid
  | _ => False

/-- The reducer over a sequence of actions. -/
def runRoles (actions : List RolesAction) (state : ICurrentUserRolesState) :
    Option ICurrentUserRolesState :=
  actions.foldlM currentUserRolesReducer state

/-- After the actions, every endpoint lists its spaces, and a guid whose deletion no later
action names again has no entry. -/
structure RolesBookkept (actions : List RolesAction) (state : ICurrentUserRolesState) : Prop where
  listed : ∀ e, AtEndpoint Listed e state
  space : ∀ pre a post, actions = pre ++ .deleteSpaceSuccess a :: post →
    (∀ b ∈ post, ¬Names a.guid b) → AtEndpoint (NoSpace a.guid) a.endpointGuid state
  org : ∀ pre a post, actions = pre ++ .deleteOrganizationSuccess a :: post →
    (∀ b ∈ post, ¬Names a.guid b) → AtEndpoint (NoOrg a.guid) a.endpointGuid state

/-- A deleted space has no entry and a deleted organisation no space ; a resource of a space
and an added role name the organisation that the space is recorded with, or the space is
already listed by it. -/
def ActionKeepsBooks (state : ICurrentUserRolesState) : RolesAction → Prop
  | .getCurrentUserRelationSuccess a => isSpaceRelation a.relationType = true →
    ∀ d ∈ a.data, ∀ s orgGuid, (rolesOf state a.endpointGuid).spaces.get? d.guid = some s →
      s.orgId = some orgGuid → orgGuid ≠ "" →
      (∃ d' ∈ a.data, d'.guid = d.guid ∧ d'.organizationGuid = some orgGuid) ∨
        Lists (rolesOf state a.endpointGuid) orgGuid d.guid
  | .addRoleSuccess a => a.updateConnectedUser = true → a.isSpace = true →
    ∀ s orgGuid, (rolesOf state a.endpointGuid).spaces.get? a.entityGuid = some s →
      s.orgId = some orgGuid → orgGuid ≠ "" →
      propertyKey a.orgGuid = orgGuid ∨ Lists (rolesOf state a.endpointGuid) orgGuid a.entityGuid
  | .deleteSpaceSuccess a => AtEndpoint (NoSpace a.guid) a.endpointGuid state
  | .deleteOrganizationSuccess a =>
    AtEndpoint (fun cf => ∀ x s, cf.spaces.get? x = some s → s.orgId ≠ some a.guid)
      a.endpointGuid state
  | _ => True

/-- Every action of the sequence keeps the books when it is handled. -/
def ActionsKeepBooks : List RolesAction → ICurrentUserRolesState → Prop
  | [], _ => True
  | a :: actions, state => ActionKeepsBooks state a ∧
    ∀ state', currentUserRolesReducer state a = some state' → ActionsKeepBooks actions state'

/-! ## What an action preserves -/

section Preserved

variable {e : String} {cf cf' : ICfRolesState}

/-- A load of an organisation relation changes flags, not the lists of spaces. -/
theorem lists_of_loadOrgs {a : GetCurrentUserRelationsComplete} {o o' : JsObject IOrgRoleState}
    {ids : List String}
    (hnew : addNewRoles cf.organizations a currentUserOrgRoleReducer = some (o, ids))
    (hold : removeOldRoles o a ids currentUserOrgRoleReducer = some o') {orgGuid x : String}
    (h : Lists cf orgGuid x) : ListsIn o' orgGuid x := by
  obtain ⟨org, horg, hx⟩ := h
  obtain ⟨hkeys, hΦ⟩ := load_all
    (Φ := fun y t => ∀ org, cf.organizations.get? y = some org → t.spaceGuids = org.spaceGuids)
    hnew hold (fun y t hy org horg => by rw [hy] at horg; cases horg; rfl)
    (fun d _ s? t' hs hnone hred org horg => by
      rw [orgReducer_spaceGuids hred]
      cases s? with
      | none =>
        rw [hnone rfl] at horg
        cases horg
      | some t => exact hs t rfl org horg)
    (fun y t t' ht hred org horg => by
      rw [orgReducer_spaceGuids hred]
      exact ht org horg)
  obtain ⟨org', horg'⟩ := JsObject.exists_get? (hkeys _ (JsObject.mem_keys_of_get? horg))
  exact ⟨org', horg', by rwa [hΦ _ _ horg' org horg]⟩

/-- A load of a space relation lists every space with a role. -/
theorem listed_of_loadSpaces {a : GetCurrentUserRelationsComplete} (hlisted : Listed cf)
    (hbooks : ∀ d ∈ a.data, ∀ s orgGuid, cf.spaces.get? d.guid = some s →
      s.orgId = some orgGuid → orgGuid ≠ "" →
      (∃ d' ∈ a.data, d'.guid = d.guid ∧ d'.organizationGuid = some orgGuid) ∨
        Lists cf orgGuid d.guid)
    {o : JsObject ISpaceRoleState} {ids : List String}
    (hnew : addNewRoles cf.spaces a currentUserSpaceRoleReducer = some (o, ids))
    (hold : removeOldRoles o a ids currentUserSpaceRoleReducer = some cf'.spaces)
    (horgs : cf'.organizations = assignSpaceToOrg cf.organizations a.data) : Listed cf' := by
  obtain ⟨hkeep, hdata, -⟩ := assignSpaceToOrg_spec cf.organizations a.data
  rw [← horgs] at hkeep hdata
  -- A resource's space is listed whether or not it has a role.
  refine fun x s orgGuid hx hrole => (load_all
    (Φ := fun x s => (s.hasRole = true ∨ ∃ d ∈ a.data, d.guid = x) → ∀ orgGuid,
      s.orgId = some orgGuid → orgGuid ≠ "" → Lists cf' orgGuid x)
    hnew hold ?_ ?_ ?_).2 x s hx (Or.inl hrole) orgGuid
  · rintro x s hx (hrole | ⟨d, hd, rfl⟩) orgGuid horg hne
    · exact hkeep _ _ (hlisted x s orgGuid hx hrole horg hne)
    · rcases hbooks d hd s orgGuid hx horg hne with ⟨d', hd', hguid, horg'⟩ | hlists
      · have := hdata d' hd'
        rwa [horg', hguid] at this
      · exact hkeep _ _ hlists
  · intro d hd s? t' hs _ hred _ orgGuid horg hne
    rcases spaceReducer_add hred with ⟨s, hs?, hsame⟩ | hnew
    · exact hs s hs? (Or.inr ⟨d, hd, rfl⟩) orgGuid (hsame ▸ horg) hne
    · have := hdata d hd
      rwa [← hnew, horg] at this
  · intro x t t' ht hred hor orgGuid horg hne
    obtain ⟨hsame, hrole⟩ := spaceReducer_remove hred
    exact ht (hor.imp_left hrole) orgGuid (hsame ▸ horg) hne

theorem orgId_setPermission (s : ISpaceRoleState) (role : UserRoleNames) (isAdd : Bool) :
    (s.setPermission role isAdd).orgId = s.orgId := by
  cases role <;> rfl

theorem spaceGuids_setPermission (org : IOrgRoleState) (role : UserRoleNames) (isAdd : Bool) :
    (org.setPermission role isAdd).spaceGuids = org.spaceGuids := by
  cases role <;> rfl

/-- After a change of a space role the list still holds every other space, and the space
itself if it was added or is still listed with a role. -/
theorem mem_spaceGuidsAfter {org : IOrgRoleState} {s : ISpaceRoleState} {x y : String}
    {isAdd : Bool} : y ∈ spaceGuidsAfter org s x isAdd ↔
      if y = x then isAdd = true ∨ (x ∈ org.spaceGuids ∧ s.hasRole = true)
      else y ∈ org.spaceGuids := by
  unfold spaceGuidsAfter ISpaceRoleState.hasRole
  by_cases hy : y = x
  · subst hy
    by_cases hmem : y ∈ org.spaceGuids <;> cases isAdd <;> cases hm : s.isManager <;>
      cases ha : s.isAuditor <;> cases hd : s.isDeveloper <;> simp [hmem]
  · simp only [hy, if_false]
    split_ifs <;> simp [hy]

/-- A space with a role after a removal had one before. -/
theorem hasRole_of_setPermission {s : ISpaceRoleState} {role : UserRoleNames}
    (h : (s.setPermission role false).hasRole = true) : s.hasRole = true := by
  cases role <;>
    simp only [ISpaceRoleState.setPermission, ISpaceRoleState.hasRole, Bool.or_eq_true] at h ⊢ <;>
    tauto

/-- A change of a space role lists the space under the organisation it is recorded with. -/
theorem listed_of_spaceRole {a : ChangeUserRole} {isAdd : Bool} {org : IOrgRoleState}
    {s : ISpaceRoleState} (hlisted : Listed cf)
    (hbooks : isAdd = true → ∀ s orgGuid, cf.spaces.get? a.entityGuid = some s →
      s.orgId = some orgGuid → orgGuid ≠ "" →
      propertyKey a.orgGuid = orgGuid ∨ Lists cf orgGuid a.entityGuid)
    (ho : cf.organizations.get? (propertyKey a.orgGuid) = some org)
    (hs : (cf.spaces.get? a.entityGuid).getD
      { defaultUserSpaceRoleState with orgId := a.orgGuid } = s) :
    Listed { cf with
      organizations := cf.organizations.set (propertyKey a.orgGuid) { org with
        spaceGuids :=
          spaceGuidsAfter org (s.setPermission a.permissionTypeKey isAdd) a.entityGuid isAdd }
      spaces := cf.spaces.set a.entityGuid (s.setPermission a.permissionTypeKey isAdd) } := by
  intro x t orgGuid hx hrole horg hne
  -- The organisation of the action lists what `spaceGuidsAfter` says, any other what it did.
  have hlists : (if orgGuid = propertyKey a.orgGuid then
      x ∈ spaceGuidsAfter org (s.setPermission a.permissionTypeKey isAdd) a.entityGuid isAdd
      else Lists cf orgGuid x) → ListsIn (cf.organizations.set (propertyKey a.orgGuid) { org with
        spaceGuids :=
          spaceGuidsAfter org (s.setPermission a.permissionTypeKey isAdd) a.entityGuid isAdd })
        orgGuid x := by
    intro h
    split_ifs at h with heq
    · exact ⟨_, by rw [heq, JsObject.get?_set_self], h⟩
    · obtain ⟨org', horg', hmem⟩ := h
      exact ⟨org', by rw [JsObject.get?_set, if_neg heq, horg'], hmem⟩
  have hmem_of_lists : orgGuid = propertyKey a.orgGuid → Lists cf orgGuid x →
      x ∈ org.spaceGuids := by
    rintro rfl ⟨org', horg', hmem⟩
    rw [ho] at horg'
    cases horg'
    exact hmem
  apply hlists
  rw [mem_spaceGuidsAfter]
  rw [JsObject.get?_set] at hx
  split_ifs at hx with hxa
  · obtain rfl := Option.some.inj hx
    subst hxa
    rw [orgId_setPermission] at horg
    simp only [if_true]
    cases hget : cf.spaces.get? a.entityGuid with
    | none =>
      -- A new space is recorded with the organisation of the action.
      rw [hget] at hs
      subst hs
      have hkey : orgGuid = propertyKey a.orgGuid := by
        rw [show a.orgGuid = some orgGuid from horg]
        rfl
      rw [if_pos hkey]
      cases isAdd with
      | true => exact Or.inl rfl
      | false =>
        have := hasRole_of_setPermission hrole
        cases this
    | some s₀ =>
      rw [hget] at hs
      obtain rfl : s₀ = s := hs
      cases isAdd with
      | true =>
        split_ifs with hkey
        · exact Or.inl rfl
        · exact (hbooks rfl s₀ orgGuid hget horg hne).resolve_left fun h => hkey h.symm
      | false =>
        have hl := hlisted _ s₀ orgGuid hget (hasRole_of_setPermission hrole) horg hne
        split_ifs with hkey
        · exact Or.inr ⟨hmem_of_lists hkey hl, hrole⟩
        · exact hl
  · have hl := hlisted x t orgGuid hx hrole horg hne
    rw [if_neg hxa]
    split_ifs with hkey
    · exact hmem_of_lists hkey hl
    · exact hl

/-- What holds of the recorded roles and of the default holds of `rolesOf`. -/
theorem AtEndpoint.rolesOf {p : ICfRolesState → Prop} {state : ICurrentUserRolesState}
    (h : AtEndpoint p e state) (hdefault : p getDefaultEndpointRoles) : p (rolesOf state e) := by
  unfold Stratos.rolesOf
  cases hget : state.cf.get? e with
  | none => exact hdefault
  | some cf => exact h cf hget

theorem listed_default : Listed getDefaultEndpointRoles := by
  intro x s orgGuid hx
  cases hx

/-- An action that keeps the books keeps the spaces listed. -/
theorem CfStep.listed {state : ICurrentUserRolesState} {a : RolesAction}
    (h : CfStep e (rolesOf state e) a cf') (hbooks : ActionKeepsBooks state a)
    (hlisted : Listed (rolesOf state e)) : Listed cf' := by
  cases h with
  | same hs ho =>
    intro x s orgGuid hx
    rw [hs] at hx
    unfold Lists
    rw [ho]
    exact hlisted x s orgGuid hx
  | reset => exact listed_default
  | load he h =>
    subst he
    rcases currentUserCFRolesReducer_cases h with
      ⟨hs, o, ids, hnew, hold⟩ | ⟨hspace, ho, o, ids, hnew, hold⟩ | rfl
    · intro x s orgGuid hx hrole horg hne
      rw [hs] at hx
      exact lists_of_loadOrgs hnew hold (hlisted x s orgGuid hx hrole horg hne)
    · exact listed_of_loadSpaces hlisted (hbooks hspace) hnew hold ho
    · exact hlisted
  | @deleteSpace a he space org orgId hs ho =>
    subst he
    have hnone : NoSpace a.guid (rolesOf state a.endpointGuid) := AtEndpoint.rolesOf hbooks rfl
    rw [NoSpace, hs] at hnone
    cases hnone
  | @deleteOrg a he =>
    subst he
    have hother := AtEndpoint.rolesOf hbooks fun x s hx => by cases hx
    intro x s orgGuid hx hrole horg hne
    obtain ⟨org, hget, hmem⟩ := hlisted x s orgGuid hx hrole horg hne
    refine ⟨org, ?_, hmem⟩
    rw [JsObject.get?_erase, if_neg, hget]
    rintro rfl
    exact hother x s hx horg
  | @orgRole _ a isAdd ha =>
    intro x s orgGuid hx hrole horg hne
    obtain ⟨org, hget, hmem⟩ := hlisted x s orgGuid hx hrole horg hne
    by_cases heq : orgGuid = a.entityGuid
    · subst heq
      refine ⟨_, JsObject.get?_set_self .., ?_⟩
      rwa [spaceGuids_setPermission, hget]
    · exact ⟨org, by rw [JsObject.get?_set, if_neg heq, hget], hmem⟩
  | @spaceRole _ a isAdd org s he ha hupdate hspace ho hs =>
    subst he
    refine listed_of_spaceRole hlisted ?_ ho hs
    rintro rfl
    rw [if_pos rfl] at ha
    subst ha
    exact hbooks hupdate hspace

/-- An action that does not name a space records none. -/
theorem CfStep.noSpace {g : String} {a : RolesAction} (h : CfStep e cf a cf')
    (hnames : ¬Names g a) (hno : NoSpace g cf) : NoSpace g cf' := by
  have hnone : ∀ x t, cf.spaces.get? x = some t → x ≠ g := by
    rintro x t hx rfl
    rw [NoSpace, hx] at hno
    cases hno
  cases h with
  | same hs ho => rwa [NoSpace, hs]
  | reset => rfl
  | load he h =>
    rcases currentUserCFRolesReducer_cases h with
      ⟨hs, -⟩ | ⟨-, -, o, ids, hnew, hold⟩ | rfl
    · rwa [NoSpace, hs]
    · obtain ⟨-, hΦ⟩ := load_all (Φ := fun x _ => x ≠ g) hnew hold hnone
        (fun d hd _ _ _ _ _ heq => hnames ⟨d, hd, Or.inl heq⟩) (fun _ _ _ hx _ => hx)
      cases hget : cf'.spaces.get? g with
      | none => exact hget
      | some t => exact absurd rfl (hΦ g t hget)
    · exact hno
  | deleteSpace | deleteOrg | orgRole => exact hno
  | @spaceRole _ a isAdd org s he ha hupdate hspace ho hs =>
    have hne : g ≠ a.entityGuid := by
      rintro rfl
      cases isAdd <;> subst ha <;> exact hnames (Or.inl rfl)
    rw [NoSpace, JsObject.get?_set, if_neg hne]
    exact hno

/-- An action that does not name an organisation records neither it nor a space of it. -/
theorem CfStep.noOrg {g : String} {a : RolesAction} (h : CfStep e cf a cf')
    (hnames : ¬Names g a) (hno : NoOrg g cf) : NoOrg g cf' := by
  obtain ⟨horg, hspaces⟩ := hno
  have hnone : ∀ x t, cf.organizations.get? x = some t → x ≠ g := by
    rintro x t hx rfl
    rw [hx] at horg
    cases horg
  cases h with
  | same hs ho => exact ⟨by rw [ho, horg], by rwa [hs]⟩
  | reset => exact ⟨rfl, fun x s hx => by cases hx⟩
  | @load a cf' he h =>
    rcases currentUserCFRolesReducer_cases h with
      ⟨hs, o, ids, hnew, hold⟩ | ⟨-, ho, o, ids, hnew, hold⟩ | rfl
    · obtain ⟨-, hΦ⟩ := load_all (Φ := fun x _ => x ≠ g) hnew hold hnone
        (fun d hd _ _ _ _ _ heq => hnames ⟨d, hd, Or.inl heq⟩) (fun _ _ _ hx _ => hx)
      refine ⟨?_, by rwa [hs]⟩
      cases hget : cf'.organizations.get? g with
      | none => rfl
      | some t => exact absurd rfl (hΦ g t hget)
    · have hdata : ∀ d ∈ a.data, propertyKey d.organizationGuid ≠ g := fun d hd heq =>
        hnames ⟨d, hd, Or.inr heq⟩
      refine ⟨by rw [ho, (assignSpaceToOrg_spec _ _).2.2 g horg hdata], ?_⟩
      refine (load_all (Φ := fun _ s => s.orgId ≠ some g) hnew hold hspaces ?_ ?_).2
      · intro d hd s? t' hs _ hred heq
        rcases spaceReducer_add hred with ⟨s, rfl, hsame⟩ | hnew
        · exact hs s rfl (hsame ▸ heq)
        · exact hdata d hd (by rw [← hnew, heq]; rfl)
      · intro _ t t' ht hred heq
        exact ht ((spaceReducer_remove hred).1 ▸ heq)
    · exact ⟨horg, hspaces⟩
  | deleteSpace he hs ho =>
    refine ⟨?_, hspaces⟩
    rw [JsObject.get?_set, if_neg fun heq => hnone _ _ ho heq.symm, horg]
  | deleteOrg he =>
    refine ⟨?_, hspaces⟩
    rw [JsObject.get?_erase, horg, ite_self]
  | @orgRole _ a isAdd ha =>
    refine ⟨?_, hspaces⟩
    have hne : g ≠ a.entityGuid := by
      rintro rfl
      rcases ha with rfl | rfl <;> exact hnames (Or.inl rfl)
    rw [JsObject.get?_set, if_neg hne, horg]
  | @spaceRole _ a isAdd org s he ha hupdate hspace ho hs =>
    have hkey : propertyKey a.orgGuid ≠ g := by
      intro heq
      cases isAdd <;> subst ha <;> exact hnames (Or.inr heq)
    refine ⟨by rw [JsObject.get?_set, if_neg hkey.symm, horg], fun x t hx => ?_⟩
    rw [JsObject.get?_set] at hx
    split_ifs at hx
    · obtain rfl := Option.some.inj hx
      rw [orgId_setPermission, ← hs]
      cases hget : cf.spaces.get? a.entityGuid with
      | none =>
        rintro heq
        exact hkey (by rw [show a.orgGuid = some g from heq]; rfl)
      | some s₀ => exact hspaces _ s₀ hget
    · exact hspaces x t hx

/-- A deleted organisation has no entry. -/
theorem get?_removeOrgRoles {state state' : ICurrentUserRolesState} {a : DeleteAction}
    (h : removeOrgRoles state a = some state') :
    AtEndpoint (fun cf => cf.organizations.get? a.guid = none ∧
      ∃ cf₀, state.cf.get? a.endpointGuid = some cf₀ ∧ cf.spaces = cf₀.spaces)
      a.endpointGuid state' := by
  intro cf' hget
  obtain ⟨cf, hcf, h⟩ := Option.bind_eq_some_iff.1 h
  cases ho : cf.organizations.get? a.guid with
  | none =>
    rw [ho] at h
    obtain rfl : state = state' := Option.some.inj h
    obtain rfl := Option.some.inj (hcf.symm.trans hget)
    exact ⟨ho, cf, hcf, rfl⟩
  | some org =>
    rw [ho] at h
    obtain rfl := Option.some.inj h
    rw [JsObject.get?_set_self] at hget
    obtain rfl := Option.some.inj hget
    exact ⟨by simp [JsObject.get?_erase], cf, hcf, rfl⟩

end Preserved

/-! ## Sequences of actions -/

section Runs

variable {state state' : ICurrentUserRolesState} {e : String}

/-- What no action of a sequence breaks holds after it. -/
theorem atEndpoint_of_run {p : ICfRolesState → Prop} (hdefault : p getDefaultEndpointRoles)
    {actions : List RolesAction}
    (hstep : ∀ a ∈ actions, ∀ cf cf', CfStep e cf a cf' → p cf → p cf')
    (h : AtEndpoint p e state) (hrun : runRoles actions state = some state') :
    AtEndpoint p e state' := by
  induction actions generalizing state with
  | nil =>
    obtain rfl : state = state' := Option.some.inj hrun
    exact h
  | cons a actions ih =>
    obtain ⟨state₁, hred, hrun⟩ := Option.bind_eq_some_iff.1 hrun
    refine ih (fun b hb => hstep b (List.mem_cons_of_mem _ hb)) (fun cf hget => ?_) hrun
    exact hstep a (by simp) _ cf (cfStep_of_reducer hred hget) (h.rolesOf hdefault)

/-- Actions that keep the books keep the spaces of every endpoint listed. -/
theorem listed_of_run {actions : List RolesAction} (hbooks : ActionsKeepBooks actions state)
    (h : AtEndpoint Listed e state) (hrun : runRoles actions state = some state') :
    AtEndpoint Listed e state' := by
  induction actions generalizing state with
  | nil =>
    obtain rfl : state = state' := Option.some.inj hrun
    exact h
  | cons a actions ih =>
    obtain ⟨state₁, hred, hrun⟩ := Option.bind_eq_some_iff.1 hrun
    refine ih (hbooks.2 _ hred) (fun cf hget => ?_) hrun
    exact (cfStep_of_reducer hred hget).listed hbooks.1 (h.rolesOf listed_default)

/-- The states around one action of a run. -/
theorem exists_step_of_run {pre post : List RolesAction} {a : RolesAction}
    (hbooks : ActionsKeepBooks (pre ++ a :: post) state)
    (hrun : runRoles (pre ++ a :: post) state = some state') :
    ∃ s₁ s₂, ActionKeepsBooks s₁ a ∧ currentUserRolesReducer s₁ a = some s₂ ∧
      runRoles post s₂ = some state' := by
  induction pre generalizing state with
  | nil =>
    obtain ⟨s₂, hred, hrun⟩ := Option.bind_eq_some_iff.1 hrun
    exact ⟨state, s₂, hbooks.1, hred, hrun⟩
  | cons b pre ih =>
    obtain ⟨s₁, hred, hrun⟩ := Option.bind_eq_some_iff.1 hrun
    exact ih (hbooks.2 _ hred) hrun

/-- Every sequence of actions that keeps the books leaves every space with a role listed by
its organisation, and no entry of a deleted guid that no later action names. -/
theorem rolesBookkept_of_run (actions : List RolesAction)
    (hbooks : ActionsKeepBooks actions getDefaultState)
    (hrun : runRoles actions getDefaultState = some state') : RolesBookkept actions state' where
  listed e := listed_of_run hbooks (fun cf hget => by cases hget) hrun
  space pre a post heq hnames := by
    subst heq
    obtain ⟨s₁, s₂, hno, hred, hrun⟩ := exists_step_of_run hbooks hrun
    have hstep : ∀ b ∈ post, ∀ cf cf', CfStep a.endpointGuid cf b cf' →
        NoSpace a.guid cf → NoSpace a.guid cf' :=
      fun b hb _ _ h => h.noSpace (hnames b hb)
    refine atEndpoint_of_run rfl hstep (fun cf hget => ?_) hrun
    exact (cfStep_of_reducer hred hget).noSpace id (AtEndpoint.rolesOf hno rfl)
  org pre a post heq hnames := by
    subst heq
    obtain ⟨s₁, s₂, hno, hred, hrun⟩ := exists_step_of_run hbooks hrun
    have hstep : ∀ b ∈ post, ∀ cf cf', CfStep a.endpointGuid cf b cf' →
        NoOrg a.guid cf → NoOrg a.guid cf' :=
      fun b hb _ _ h => h.noOrg (hnames b hb)
    refine atEndpoint_of_run ⟨rfl, fun x s hx => by cases hx⟩ hstep (fun cf hget => ?_) hrun
    obtain ⟨hnone, cf₀, hcf₀, hspaces⟩ := get?_removeOrgRoles hred cf hget
    exact ⟨hnone, by rw [hspaces]; exact hno cf₀ hcf₀⟩

end Runs

/-! ## A deleted space -/

/-- A load of the developer role of space "s" in organisation "o". -/
def developerLoad : GetCurrentUserRelationsComplete where
  relationType := .spaces
  endpointGuid := "cf"
  data := [⟨"s", some "o"⟩]

/-- The space has been deleted, and its entry is still there. -/
theorem not_rolesBookkept_delete :
    ¬∀ (actions : List RolesAction) (state : ICurrentUserRolesState),
      runRoles actions getDefaultState = some state → RolesBookkept actions state := by
  intro h
  have hspace := (h [.getCurrentUserRelationSuccess developerLoad, .deleteSpaceSuccess ⟨"cf", "s"⟩]
    _ rfl).space [.getCurrentUserRelationSuccess developerLoad] ⟨"cf", "s"⟩ [] rfl (by simp) _ rfl
  cases hspace

/-- A load of a space, and the deletion of another one. -/
theorem rolesBookkept_of_run_delete :
    ∃ state, runRoles [.getCurrentUserRelationSuccess developerLoad,
        .deleteSpaceSuccess ⟨"cf", "t"⟩] getDefaultState = some state ∧
      RolesBookkept [.getCurrentUserRelationSuccess developerLoad,
        .deleteSpaceSuccess ⟨"cf", "t"⟩] state :=
  ⟨_, rfl, rolesBookkept_of_run _ ⟨fun _ d _ s orgGuid hget => (by cases hget), fun state hstate =>
    ⟨fun cf hcf => (by cases hstate; cases hcf; rfl), fun _ _ => trivial⟩⟩ rfl⟩

end Stratos
