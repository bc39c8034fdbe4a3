import Stratos.Frontend.RelationRefresh
import Stratos.Frontend.RoleBookkeeping
import Stratos.Lib.Lists

/-!
# Late events of an endpoint

The roles of an endpoint are fetched in many requests. Meanwhile the endpoint can be disconnected,
and its organisations, spaces and roles can change. The reducers read the endpoint and the
organisation where they expect them, and throw where they are gone ; the completion of a relation
writes a new endpoint instead.

`survives_iff` says for which runs of the events of an endpoint no reducer throws and nothing of
the endpoint comes back after it was removed.
-/

open Lib

namespace Stratos

/-! ## Events -/

/-- What can happen to the roles of one endpoint. -/
inductive RoleEvent
  /-- The fetch of the roles starts, succeeds or fails. -/
  | fetch (step : RequestStep)
  | relation (relationType : UserRelationTypes) (data : List APIResource)
  /-- The endpoint is connected, by a user with scopes or by none. -/
  | connect (scopes : Option (List String))
  | disconnect
  | unregister
  | deleteOrganization (guid : String)
  | deleteSpace (guid : String)
  | changeRole (isAdd : Bool) (action : ChangeUserRole)

/-- The outcome of an operation on the endpoint. -/
def endpointAction (e : String) (scopes : Option (List String)) : EndpointActionComplete where
  guid := e
  endpointType := .web
  endpoint := some ⟨scopes.map fun scopes => ⟨false, some scopes⟩, e⟩

/-- The action of the event, as the reducer reads it : with the guid of the endpoint. The effect
that unregisters an endpoint passes a method where the reducer has the guid, and what comes of that
is `ActionGuid.method` of the endpoint effects. -/
def RoleEvent.action (e : String) : RoleEvent → RolesAction
  | fetch step => .getCurrentUserCfRelations e step
  | relation relationType data => .getCurrentUserRelationSuccess ⟨relationType, e, data⟩
  | connect scopes => .connectEndpointsSuccess (endpointAction e scopes)
  | disconnect => .disconnectEndpointsSuccess (endpointAction e none)
  | unregister => .unregisterEndpointsSuccess (endpointAction e none)
  | deleteOrganization guid => .deleteOrganizationSuccess ⟨e, guid⟩
  | deleteSpace guid => .deleteSpaceSuccess ⟨e, guid⟩
  | changeRole true action => .addRoleSuccess { action with endpointGuid := e }
  | changeRole false action => .removeRoleSuccess { action with endpointGuid := e }

/-- The event connects the endpoint. -/
def RoleEvent.connects : RoleEvent → Bool
  | connect _ => true
  | _ => false

/-- The event removes the endpoint. -/
def RoleEvent.removes : RoleEvent → Bool
  | disconnect => true
  | unregister => true
  | _ => false

/-- The endpoint is gone after it is removed, and as long as it is not connected again. -/
def StaysRemoved (e : String) (event : RoleEvent) (state state' : ICurrentUserRolesState) :
    Prop :=
  event.removes = true ∨ (state.cf.get? e = none ∧ event.connects = false) → state'.cf.get? e = none

/-- No event throws, and the endpoint stays removed. -/
def Survives (e : String) : List RoleEvent → ICurrentUserRolesState → Prop
  | [], _ => True
  | event :: events, state => ∃ state',
    currentUserRolesReducer state (event.action e) = some state' ∧
    StaysRemoved e event state state' ∧ Survives e events state'

/-- A load of spaces finds the organisation of each space that it does not bring. -/
def LoadFits (relationType : UserRelationTypes) (data : List APIResource) (cf : ICfRolesState) :
    Prop :=
  isSpaceRelation relationType = true → ∀ id space, cf.spaces.get? id = some space →
    id ∉ data.map (·.guid) → noOrgId space.orgId = false

/-- The organisation of a space whose role changes is loaded. -/
def RoleChangeFits (isAdd : Bool) (action : ChangeUserRole) (cf : ICfRolesState) : Prop :=
  action.isSpace = true → ((cf.spaces.get? action.entityGuid).getD
      { defaultUserSpaceRoleState with orgId := action.orgGuid }).permission?
        action.permissionTypeKey ≠ some isAdd →
    (cf.organizations.get? (propertyKey action.orgGuid)).isSome

/-- What an event reads is there. -/
def EventFits (e : String) (state : ICurrentUserRolesState) : RoleEvent → Prop
  | .fetch _ => (state.cf.get? e).isSome
  | .relation relationType data =>
    ∃ cf, state.cf.get? e = some cf ∧ LoadFits relationType data cf
  | .connect _ => True
  | .disconnect => True
  | .unregister => True
  | .deleteOrganization _ => (state.cf.get? e).isSome
  | .deleteSpace guid => ∃ cf, state.cf.get? e = some cf ∧ ∀ space,
    cf.spaces.get? guid = some space → (cf.organizations.get? (propertyKey space.orgId)).isSome
  | .changeRole isAdd action => action.updateConnectedUser = true →
    ∃ cf, state.cf.get? e = some cf ∧ RoleChangeFits isAdd action cf

/-- What each event reads is there when it comes. -/
def EventsFit (e : String) : List RoleEvent → ICurrentUserRolesState → Prop
  | [], _ => True
  | event :: events, state => EventFits e state event ∧
    ∀ state', currentUserRolesReducer state (event.action e) = some state' →
      EventsFit e events state'

/-! ## Loads -/

section Loads

variable {T : Type} {reducer : RoleFinalReducer T} {state o : JsObject T} {ids : List String}
  {action : GetCurrentUserRelationsComplete}

/-- Old roles are removed when the reducer can do it for each of them. -/
theorem removeOldRoles_isSome_iff : (removeOldRoles state action ids reducer).isSome ↔
    ∀ id ∈ state.keys, id ∉ ids →
      (reducer (state.get? id) action.relationType false none).isSome := by
  have hfold : ∀ (ks : List String) (cur : JsObject T), ks.Nodup →
      (∀ id ∈ ks, cur.get? id = state.get? id) →
      ((ks.foldlM (fun (currentState : JsObject T) id =>
        if id ∈ ids then some state
        else do
          let role ← reducer (currentState.get? id) action.relationType false none
          return currentState.set id role) cur).isSome ↔
        ∀ id ∈ ks, id ∉ ids → (reducer (state.get? id) action.relationType false none).isSome) := by
    intro ks
    induction ks with
    | nil => exact fun cur _ _ => iff_of_true rfl fun _ h => absurd h List.not_mem_nil
    | cons k ks ih =>
      intro cur hnd hcur
      obtain ⟨hnot, hnd⟩ := List.nodup_cons.1 hnd
      rw [List.foldlM_cons, List.forall_mem_cons]
      by_cases hk : k ∈ ids
      · rw [if_pos hk, and_iff_right fun hno => absurd hk hno]
        exact ih state hnd fun _ _ => rfl
      · rw [if_neg hk, hcur k List.mem_cons_self]
        rcases hrole : reducer (state.get? k) action.relationType false none with _ | role
        · exact iff_of_false (by rintro ⟨⟩) fun hall => by cases hall.1 hk
        · have hsome : k ∉ ids → (some role).isSome = true := fun _ => rfl
          rw [and_iff_right hsome]
          refine ih (cur.set k role) hnd fun id hid => ?_
          have hne : id ≠ k := fun heq => hnot (heq ▸ hid)
          rw [JsObject.get?_set, if_neg hne]
          exact hcur id (List.mem_cons_of_mem _ hid)
  rw [removeOldRoles, hfold _ _ (JsObject.nodup_ownKeys state) fun _ _ => rfl]
  simp only [JsObject.mem_ownKeys]

end Loads

section Reducers

variable {state : ICurrentUserRolesState} {cf : ICfRolesState} {e : String}

theorem orgRoles_isSome (organizations : JsObject IOrgRoleState)
    {action : GetCurrentUserRelationsComplete} (horg : isOrgRelation action.relationType = true) :
    (currentUserOrgRolesReducer organizations action).isSome := by
  obtain ⟨relationType, endpointGuid, data⟩ := action
  obtain ⟨o, hnew, -⟩ := addNewRoles_spec (setsFlag_org horg)
    (fun role d => isSome_orgRoleReducer role _ true (some d)) organizations endpointGuid data
  have hold : (removeOldRoles o ⟨relationType, endpointGuid, data⟩ (data.map (·.guid))
      currentUserOrgRoleReducer).isSome :=
    removeOldRoles_isSome_iff.2 fun id _ _ => isSome_orgRoleReducer _ _ false none
  rw [currentUserOrgRolesReducer, hnew]
  exact hold

/-- The reducer of a space needs the organisation or a resource. -/
theorem spaceReducer_isSome_iff (space : ISpaceRoleState) (relationType : UserRelationTypes) :
    (currentUserSpaceRoleReducer (some space) relationType false none).isSome ↔
      noOrgId space.orgId = false := by
  rw [currentUserSpaceRoleReducer, Option.getD_some, addId]
  rcases noOrgId space.orgId with _ | _
  · exact iff_of_true rfl rfl
  · exact iff_of_false (by rintro ⟨⟩) (by rintro ⟨⟩)

theorem spaceRoles_isSome_iff (spaces : JsObject ISpaceRoleState)
    {action : GetCurrentUserRelationsComplete}
    (hspace : isSpaceRelation action.relationType = true) :
    (currentUserSpaceRolesReducer spaces action).isSome ↔ ∀ id space,
      spaces.get? id = some space → id ∉ action.data.map (·.guid) →
        noOrgId space.orgId = false := by
  obtain ⟨o, hnew, -, -, hget, -⟩ := addNewRoles_spec (setsFlag_space hspace)
    (fun role d => isSome_spaceRoleReducer_data role _ true d) spaces action.endpointGuid
    action.data
  have hload : (currentUserSpaceRolesReducer spaces action).isSome ↔
      (removeOldRoles o action (action.data.map (·.guid)) currentUserSpaceRoleReducer).isSome := by
    rw [currentUserSpaceRolesReducer, hnew]
    rfl
  rw [hload, removeOldRoles_isSome_iff]
  constructor
  · intro h id space hspace hid
    have hspace' : o.get? id = some space := (hget id hid).trans hspace
    have hsome := h id (JsObject.mem_keys_of_get? hspace') hid
    rw [hspace'] at hsome
    exact (spaceReducer_isSome_iff space _).1 hsome
  · intro h id hid hnew
    obtain ⟨space, hspace⟩ := JsObject.exists_get? hid
    rw [hspace]
    exact (spaceReducer_isSome_iff space _).2 (h id space ((hget id hnew).symm.trans hspace) hnew)

/-- A load throws when it misses an organisation. -/
theorem load_isSome_iff (cf : ICfRolesState) (relationType : UserRelationTypes)
    (data : List APIResource) : (currentUserCFRolesReducer cf ⟨relationType, e, data⟩).isSome ↔
      LoadFits relationType data cf := by
  rw [currentUserCFRolesReducer, LoadFits]
  by_cases horg : isOrgRelation relationType = true
  · have hspace : isSpaceRelation relationType = false := by
      rcases relationType with _ | _ | _ | _ | _ | _ | _ <;> first | rfl | cases horg
    obtain ⟨organizations, horgs⟩ := Option.isSome_iff_exists.1
      (@orgRoles_isSome cf.organizations ⟨relationType, e, data⟩ horg)
    rw [if_pos horg, horgs]
    exact iff_of_true rfl fun h => by rw [hspace] at h; cases h
  · by_cases hspace : isSpaceRelation relationType = true
    · rw [if_neg horg, if_pos hspace,
        ← @spaceRoles_isSome_iff cf.spaces ⟨relationType, e, data⟩ hspace,
        forall_prop_of_true hspace]
      rcases currentUserSpaceRolesReducer cf.spaces ⟨relationType, e, data⟩ with _ | spaces
      · exact iff_of_false (by rintro ⟨⟩) (by rintro ⟨⟩)
      · exact iff_of_true rfl rfl
    · rw [if_neg horg, if_neg hspace]
      exact iff_of_true rfl fun h => absurd h hspace

/-- A change of a role throws when the endpoint or the organisation is gone. -/
theorem roleChange_isSome_iff (state : ICurrentUserRolesState) (isAdd : Bool)
    (action : ChangeUserRole) :
    (updateAfterRoleChange state isAdd action).isSome ↔ (action.updateConnectedUser = true →
      ∃ cf, state.cf.get? action.endpointGuid = some cf ∧ RoleChangeFits isAdd action cf) := by
  unfold updateAfterRoleChange RoleChangeFits
  by_cases hupdate : action.updateConnectedUser = true
  · rw [if_neg (not_not.2 hupdate), forall_prop_of_true hupdate]
    rcases state.cf.get? action.endpointGuid with _ | cf
    · exact iff_of_false (by rintro ⟨⟩) (by simp)
    · simp only [Option.bind_eq_bind, Option.bind_some, Option.some.injEq, exists_eq_left']
      by_cases hspace : action.isSpace = true
      · simp only [hspace, if_true, forall_true_left]
        split_ifs with hsame
        · exact iff_of_true rfl fun hne => absurd hsame hne
        · rw [forall_prop_of_true hsame, handleSpaceRoleChange]
          rcases cf.organizations.get? (propertyKey action.orgGuid) with _ | org
          · exact iff_of_false (by rintro ⟨⟩) (by rintro ⟨⟩)
          · exact iff_of_true rfl rfl
      · rw [if_neg hspace]
        refine iff_of_true ?_ fun h => absurd h hspace
        split_ifs <;> rfl
  · rw [if_pos hupdate]
    exact iff_of_true rfl fun h => absurd h hupdate

end Reducers

/-! ## One event -/

section Event

variable {state : ICurrentUserRolesState} {cf : ICfRolesState} {e : String} {event : RoleEvent}

/-- The event neither throws nor brings the endpoint back. -/
def EventSurvives (e : String) (state : ICurrentUserRolesState) (event : RoleEvent) : Prop :=
  ∃ state', currentUserRolesReducer state (event.action e) = some state' ∧
    StaysRemoved e event state state'

/-- An endpoint that is there can stay. -/
theorem eventSurvives_of_there (hremoves : event.removes = false)
    (hcf : state.cf.get? e = some cf) : EventSurvives e state event ↔
      (currentUserRolesReducer state (event.action e)).isSome := by
  constructor
  · rintro ⟨state', h, -⟩
    rw [h]
    rfl
  · intro h
    obtain ⟨state', h⟩ := Option.isSome_iff_exists.1 h
    refine ⟨state', h, ?_⟩
    rintro (hremoved | ⟨hnone, -⟩)
    · rw [hremoves] at hremoved
      cases hremoved
    · rw [hcf] at hnone
      cases hnone

theorem not_eventSurvives_of_throws (h : currentUserRolesReducer state (event.action e) = none) :
    ¬EventSurvives e state event := by
  rintro ⟨state', hsome, -⟩
  rw [h] at hsome
  cases hsome

theorem fetch_survives_iff (step : RequestStep) :
    EventSurvives e state (.fetch step) ↔ (state.cf.get? e).isSome := by
  rcases hcf : state.cf.get? e with _ | cf
  · refine iff_of_false (not_eventSurvives_of_throws ?_) (by rintro ⟨⟩)
    simp [RoleEvent.action, currentUserRolesReducer, currentUserCfRolesRequestStateReducer, hcf]
  · rw [eventSurvives_of_there rfl hcf]
    simp [RoleEvent.action, currentUserRolesReducer, currentUserCfRolesRequestStateReducer, hcf]

theorem relation_survives_iff (relationType : UserRelationTypes) (data : List APIResource) :
    EventSurvives e state (.relation relationType data) ↔
      ∃ cf, state.cf.get? e = some cf ∧ LoadFits relationType data cf := by
  rcases hcf : state.cf.get? e with _ | cf
  · refine iff_of_false ?_ (by simp)
    rintro ⟨state', h, hstays⟩
    have hnone := hstays (Or.inr ⟨hcf, rfl⟩)
    obtain ⟨cfs, hcfs, h⟩ := Option.bind_eq_some_iff.1 h
    obtain rfl := Option.some.inj h
    obtain ⟨roles, -, hcfs⟩ := Option.bind_eq_some_iff.1 hcfs
    obtain rfl := Option.some.inj hcfs
    -- The completion writes an endpoint that is not there.
    rw [JsObject.get?_set_self] at hnone
    cases hnone
  · rw [eventSurvives_of_there rfl hcf]
    simp only [Option.some.injEq, exists_eq_left']
    rw [← load_isSome_iff (e := e)]
    simp only [RoleEvent.action, currentUserRolesReducer, currentUserBaseCFRolesReducer, hcf,
      Option.getD_some]
    rcases currentUserCFRolesReducer cf ⟨relationType, e, data⟩ with _ | roles
    · exact iff_of_false (by rintro ⟨⟩) (by rintro ⟨⟩)
    · exact iff_of_true rfl rfl

theorem connect_survives (scopes : Option (List String)) :
    EventSurvives e state (.connect scopes) := by
  have hconnect : (currentUserRolesReducer state
      ((RoleEvent.connect scopes).action e)).isSome := by
    rcases scopes with _ | scopes <;> rfl
  obtain ⟨state', h⟩ := Option.isSome_iff_exists.1 hconnect
  refine ⟨state', h, ?_⟩
  rintro (hremoved | ⟨-, hno⟩)
  · cases hremoved
  · cases hno

theorem get?_removeEndpointRoles : (removeEndpointRoles state (endpointAction e none)).cf.get? e =
    none := by
  rw [removeEndpointRoles]
  split_ifs with h
  · rcases h with h | h
    · exact absurd rfl h
    · exact Option.isNone_iff_eq_none.1 h
  · rw [JsObject.get?_erase]
    exact if_pos rfl

theorem deleteOrganization_survives_iff (guid : String) :
    EventSurvives e state (.deleteOrganization guid) ↔ (state.cf.get? e).isSome := by
  rcases hcf : state.cf.get? e with _ | cf
  · refine iff_of_false (not_eventSurvives_of_throws ?_) (by rintro ⟨⟩)
    simp [RoleEvent.action, currentUserRolesReducer, removeOrgRoles, hcf]
  · rw [eventSurvives_of_there rfl hcf]
    refine iff_of_true ?_ rfl
    simp only [RoleEvent.action, currentUserRolesReducer, removeOrgRoles, hcf,
      Option.bind_eq_bind, Option.bind_some]
    rcases cf.organizations.get? guid with _ | org <;> rfl

theorem deleteSpace_survives_iff (guid : String) :
    EventSurvives e state (.deleteSpace guid) ↔ ∃ cf, state.cf.get? e = some cf ∧ ∀ space,
      cf.spaces.get? guid = some space →
        (cf.organizations.get? (propertyKey space.orgId)).isSome := by
  rcases hcf : state.cf.get? e with _ | cf
  · refine iff_of_false (not_eventSurvives_of_throws ?_) (by simp)
    simp [RoleEvent.action, currentUserRolesReducer, removeSpaceRoles, hcf]
  · rw [eventSurvives_of_there rfl hcf]
    simp only [Option.some.injEq, exists_eq_left']
    simp only [RoleEvent.action, currentUserRolesReducer, removeSpaceRoles, hcf,
      Option.bind_eq_bind, Option.bind_some]
    rcases cf.spaces.get? guid with _ | space
    · exact iff_of_true rfl fun space h => by cases h
    · rcases horg : cf.organizations.get? (propertyKey space.orgId) with _ | org
      · refine iff_of_false (by simp [horg]) fun h => ?_
        have hsome := h space rfl
        rw [horg] at hsome
        cases hsome
      · refine iff_of_true (by simp [horg]) fun space' h => ?_
        rw [← Option.some.inj h, horg]
        rfl

theorem changeRole_survives_iff (isAdd : Bool) (action : ChangeUserRole) :
    EventSurvives e state (.changeRole isAdd action) ↔ (action.updateConnectedUser = true →
      ∃ cf, state.cf.get? e = some cf ∧ RoleChangeFits isAdd action cf) := by
  have haction : currentUserRolesReducer state ((RoleEvent.changeRole isAdd action).action e) =
      updateAfterRoleChange state isAdd { action with endpointGuid := e } := by
    rcases isAdd with _ | _ <;> rfl
  have hsome := roleChange_isSome_iff state isAdd { action with endpointGuid := e }
  rw [← haction] at hsome
  rcases hcf : state.cf.get? e with _ | cf
  · by_cases hupdate : action.updateConnectedUser = true
    · refine iff_of_false (not_eventSurvives_of_throws ?_) (by simp [hupdate])
      rw [← Option.not_isSome_iff_eq_none, hsome, hcf]
      simp [hupdate]
    · refine iff_of_true ⟨state, ?_, fun h => ?_⟩ fun h => absurd h hupdate
      · rw [haction, updateAfterRoleChange, if_pos hupdate]
      · rcases h with h | ⟨hnone, -⟩
        · cases h
        · exact hnone
  · rw [eventSurvives_of_there rfl hcf, hsome, hcf]
    rfl

/-- An event survives exactly when it finds what it reads. -/
theorem eventFits_iff (state : ICurrentUserRolesState) (event : RoleEvent) :
    EventSurvives e state event ↔ EventFits e state event := by
  rcases event with step | ⟨relationType, data⟩ | scopes | _ | _ | guid | guid | ⟨isAdd, action⟩
  · exact fetch_survives_iff step
  · exact relation_survives_iff relationType data
  · exact iff_of_true (connect_survives scopes) trivial
  · exact iff_of_true ⟨_, rfl, fun _ => get?_removeEndpointRoles⟩ trivial
  · exact iff_of_true ⟨_, rfl, fun _ => get?_removeEndpointRoles⟩ trivial
  · exact deleteOrganization_survives_iff guid
  · exact deleteSpace_survives_iff guid
  · exact changeRole_survives_iff isAdd action

end Event

/-! ## Runs -/

/-- The store survives a run exactly when every event finds what it reads. -/
theorem survives_iff (e : String) (events : List RoleEvent) (state : ICurrentUserRolesState) :
    Survives e events state ↔ EventsFit e events state := by
  induction events generalizing state with
  | nil => exact Iff.rfl
  | cons event events ih =>
    rw [Survives, EventsFit, ← eventFits_iff]
    constructor
    · rintro ⟨state', h, hstays, hrest⟩
      refine ⟨⟨state', h, hstays⟩, fun state'' h' => ?_⟩
      obtain rfl := Option.some.inj (h.symm.trans h')
      exact (ih state').1 hrest
    · rintro ⟨⟨state', h, hstays⟩, hrest⟩
      exact ⟨state', h, hstays, (ih state').2 (hrest state' h)⟩

/-- An endpoint that is connected. -/
def connectedState : ICurrentUserRolesState :=
  { getDefaultState with cf := JsObject.empty.set "cf" getDefaultEndpointRoles }

/-- A relation that completes after the endpoint was disconnected. -/
theorem not_survives_lateRelation : ¬∀ (e : String) (events : List RoleEvent)
    (state : ICurrentUserRolesState), (state.cf.get? e).isSome → Survives e events state := by
  intro h
  obtain ⟨gone, hgone, -, back, hback, hstays, -⟩ := h "cf"
    [.disconnect, .relation .organizations [⟨"org", none⟩]] connectedState (by decide)
  obtain rfl := Option.some.inj hgone
  have hnone : back.cf.get? "cf" = none := hstays (Or.inr ⟨by decide, rfl⟩)
  have hthere : ((currentUserRolesReducer (removeEndpointRoles connectedState
      (endpointAction "cf" none)) ((RoleEvent.relation .organizations
        [⟨"org", none⟩]).action "cf")).map fun state => (state.cf.get? "cf").isSome) =
      some true := by
    decide
  rw [hback, Option.map_some, hnone] at hthere
  cases hthere

end Stratos
