import Mathlib.Data.List.Induction
import Stratos.Frontend.CurrentUserRoles

/-!
# Refreshing one kind of role

`GetCurrentUserRelationsComplete` carries the orgs or spaces in which the user holds one
kind of role. `addNewRoles` sets the role's flag for each of them, then `removeOldRoles`
walks the recorded ids in the order of `Object.keys` and clears the flag of the others.

On a retained id that walk goes back to the object it started from, so an id is cleared
only when no retained id is visited after it (`Cleared`, `get?_removeOldRoles`). The
refresh is exact when no role that has to be revoked is visited before a retained id
(`refreshExact_iff`).
-/

open Lib

namespace Stratos

/-! ## Role flags -/

/-- The flag of an org that a relation controls. -/
def IOrgRoleState.flag (org : IOrgRoleState) : UserRelationTypes → Bool
  | .auditedOrganizations => org.isAuditor
  | .billingManagedOrganization => org.isBillingManager
  | .managedOrganization => org.isManager
  | .organizations => org.isUser
  | _ => false

/-- The flag of a space that a relation controls. -/
def ISpaceRoleState.flag (space : ISpaceRoleState) : UserRelationTypes → Bool
  | .auditedSpaces => space.isAuditor
  | .managedSpaces => space.isManager
  | .spaces => space.isDeveloper
  | _ => false

/-- The flag of an entry that may be missing. -/
def flagOf {T : Type} (flag : T → UserRelationTypes → Bool) (entry : Option T)
    (rel : UserRelationTypes) : Bool :=
  (entry.map (flag · rel)).getD false

@[simp] theorem flagOf_none {T : Type} (flag : T → UserRelationTypes → Bool)
    (rel : UserRelationTypes) : flagOf flag none rel = false :=
  rfl

@[simp] theorem flagOf_some {T : Type} (flag : T → UserRelationTypes → Bool) (t : T)
    (rel : UserRelationTypes) : flagOf flag (some t) rel = flag t rel :=
  rfl

/-- A reducer that writes the flag of its relation and keeps the others. -/
def SetsFlag {T : Type} (flag : T → UserRelationTypes → Bool) (reducer : RoleFinalReducer T)
    (rel : UserRelationTypes) : Prop :=
  ∀ s b space t, reducer s rel b space = some t →
    ∀ rel', flag t rel' = if rel' = rel then b else flagOf flag s rel'

theorem setsFlag_org {rel : UserRelationTypes} (h : isOrgRelation rel = true) :
    SetsFlag IOrgRoleState.flag currentUserOrgRoleReducer rel := by
  intro s b space t ht rel'
  cases rel <;> simp only [isOrgRelation, Bool.false_eq_true] at h <;>
    simp only [currentUserOrgRoleReducer, Option.some.injEq] at ht <;> subst ht <;>
    cases s <;> cases rel' <;> rfl

theorem flag_addId {state t : ISpaceRoleState} {space : Option APIResource}
    (h : addId state space = some t) (rel : UserRelationTypes) : t.flag rel = state.flag rel := by
  unfold addId at h
  split_ifs at h
  · cases space with
    | none => simp at h
    | some space =>
      obtain rfl : { state with orgId := space.organizationGuid } = t := by simpa using h
      cases rel <;> rfl
  · rw [Option.some.inj h]

theorem setsFlag_space {rel : UserRelationTypes} (h : isSpaceRelation rel = true) :
    SetsFlag ISpaceRoleState.flag currentUserSpaceRoleReducer rel := by
  intro s b space t ht rel'
  obtain ⟨idState, hid, rfl⟩ : ∃ idState,
      addId (s.getD defaultUserSpaceRoleState) space = some idState ∧
        applyRoles idState rel b = t := by
    simpa [currentUserSpaceRoleReducer, Option.bind_eq_some_iff] using ht
  have hflag := flag_addId hid rel'
  have hs : (s.getD defaultUserSpaceRoleState).flag rel' = flagOf ISpaceRoleState.flag s rel' := by
    cases s
    · cases rel' <;> rfl
    · rfl
  rw [← hs, ← hflag]
  cases rel <;> simp only [isSpaceRelation, Bool.false_eq_true] at h <;>
    cases rel' <;> rfl

/-! ## Adding the new roles -/

section AddNewRoles

variable {T : Type} {flag : T → UserRelationTypes → Bool} {reducer : RoleFinalReducer T}

/-- What `addNewRoles` leaves : it records every id of the list after the ids that were
there, sets the flag of those of the list, and touches nothing else. -/
theorem addNewRoles_spec {rel : UserRelationTypes} (hflag : SetsFlag flag reducer rel)
    (hsome : ∀ s data, (reducer s rel true (some data)).isSome) (state : JsObject T)
    (endpointGuid : String) (data : List APIResource) :
    ∃ o, addNewRoles state ⟨rel, endpointGuid, data⟩ reducer = some (o, data.map (·.guid)) ∧
      (∃ ks, o.keys = state.keys ++ ks) ∧
      (∀ x, x ∈ o.keys ↔ x ∈ state.keys ∨ x ∈ data.map (·.guid)) ∧
      (∀ x ∉ data.map (·.guid), o.get? x = state.get? x) ∧
      ∀ x ∈ data.map (·.guid), ∀ rel', flagOf flag (o.get? x) rel' =
        if rel' = rel then true else flagOf flag (state.get? x) rel' := by
  -- over the list from its end : the last resource is written over what the others left
  induction data using List.reverseRecOn with
  | nil => exact ⟨state, rfl, ⟨[], by simp⟩, by simp, by simp, by simp⟩
  | append_singleton data d ih =>
    obtain ⟨o, ho, ⟨ks, hks⟩, hmem, hout, hin⟩ := ih
    obtain ⟨t, ht⟩ := Option.isSome_iff_exists.mp (hsome (o.get? d.guid) d)
    refine ⟨o.set d.guid t, ?_, ?_, ?_, ?_, ?_⟩
    · simp only [addNewRoles] at ho ⊢
      rw [List.foldlM_append, ho]
      simp [ht]
    · rw [JsObject.keys_set]
      split_ifs
      · exact ⟨ks, hks⟩
      · exact ⟨ks ++ [d.guid], by rw [hks, List.append_assoc]⟩
    · intro x
      rw [JsObject.mem_keys_set, hmem, List.map_append, List.mem_append, or_assoc]
      simp
    · intro x hx
      rw [List.map_append, List.mem_append, not_or] at hx
      rw [JsObject.get?_set, if_neg (by simpa using hx.2), hout x hx.1]
    · intro x hx rel'
      rw [JsObject.get?_set]
      split_ifs with hxd hrel hrel
      · simp [hflag _ _ _ _ ht, hrel]
      · rw [flagOf_some, hflag _ _ _ _ ht, if_neg hrel, ← hxd]
        by_cases hxl : x ∈ data.map (·.guid)
        · rw [hin x hxl, if_neg hrel]
        · rw [hout x hxl]
      all_goals
        have hxl : x ∈ data.map (·.guid) := by simpa [hxd] using hx
        simp [hin x hxl, hrel]

end AddNewRoles

/-! ## Removing the old roles -/

/-- `id` is cleared by the walk over `ks` : it is not retained, and no retained id is
visited after it. -/
def Cleared (newIds ks : List String) (id : String) : Prop :=
  id ∈ ks ∧ id ∉ newIds ∧ ∀ d ∈ newIds, ¬List.Sublist [id, d] ks

theorem pair_sublist_concat {ks : List String} {x d k : String} :
    List.Sublist [x, d] (ks ++ [k]) ↔ List.Sublist [x, d] ks ∨ (x ∈ ks ∧ d = k) := by
  have hrev : List.Sublist [d, x] ks.reverse ↔ List.Sublist [x, d] ks :=
    List.sublist_reverse_iff
  rw [← List.reverse_sublist, List.reverse_append, List.reverse_singleton,
    List.singleton_append, List.sublist_cons_iff]
  simp [and_comm, eq_comm, hrev]

/-- A retained id undoes all clearing before it. -/
theorem not_cleared_concat {newIds ks : List String} {k x : String} (hk : k ∈ newIds) :
    ¬Cleared newIds (ks ++ [k]) x := by
  rintro ⟨hx, hnew, hlast⟩
  rcases List.mem_append.mp hx with hx | hx
  · exact hlast k hk (pair_sublist_concat.mpr (Or.inr ⟨hx, rfl⟩))
  · exact hnew (List.mem_singleton.mp hx ▸ hk)

/-- An id that is not retained is cleared, and undoes nothing. -/
theorem cleared_concat {newIds ks : List String} {k x : String} (hk : k ∉ newIds)
    (hks : k ∉ ks) : Cleared newIds (ks ++ [k]) x ↔ x = k ∨ Cleared newIds ks x := by
  have hpair : ∀ d ∈ newIds, List.Sublist [x, d] (ks ++ [k]) ↔ List.Sublist [x, d] ks := by
    intro d hd
    have hne : ¬d = k := fun h => hk (h ▸ hd)
    simp [pair_sublist_concat, hne]
  constructor
  · rintro ⟨hx, hnew, hlast⟩
    rcases List.mem_append.mp hx with hx | hx
    · exact Or.inr ⟨hx, hnew, fun d hd hs => hlast d hd ((hpair d hd).mpr hs)⟩
    · exact Or.inl (List.mem_singleton.mp hx)
  · rintro (rfl | ⟨hx, hnew, hlast⟩)
    · exact ⟨by simp, hk, fun d hd hs => hks (((hpair d hd).mp hs).subset (by simp))⟩
    · exact ⟨by simp [hx], hnew, fun d hd hs => hlast d hd ((hpair d hd).mp hs)⟩

open Classical in
/-- What `removeOldRoles` leaves, when every id that is not retained can be reduced. -/
theorem removeOldRoles_spec {T : Type} {reducer : RoleFinalReducer T} {state : JsObject T}
    (action : GetCurrentUserRelationsComplete) {newIds : List String}
    (hsome : ∀ id ∈ state.keys, id ∉ newIds →
      (reducer (state.get? id) action.relationType false none).isSome) :
    ∃ o, removeOldRoles state action newIds reducer = some o ∧ ∀ x, o.get? x =
      if Cleared newIds state.ownKeys x then
        reducer (state.get? x) action.relationType false none
      else state.get? x := by
  suffices h : ∀ ks : List String, ks.Nodup → (∀ id ∈ ks, id ∈ state.keys) →
      ∃ o, ks.foldlM (fun (currentState : JsObject T) id =>
          if id ∈ newIds then some state
          else do
            let role ← reducer (currentState.get? id) action.relationType false none
            return currentState.set id role) state = some o ∧
        ∀ x, o.get? x = if Cleared newIds ks x then
            reducer (state.get? x) action.relationType false none
          else state.get? x from
    h state.ownKeys state.nodup_ownKeys fun id => JsObject.mem_ownKeys.mp
  intro ks
  -- the walk from its end : the last id either clears itself or undoes everything
  induction ks using List.reverseRecOn with
  | nil => exact fun _ _ => ⟨state, rfl, by simp [Cleared]⟩
  | append_singleton ks k ih =>
    intro hnd hsub
    obtain ⟨hks, -, hdisj⟩ := List.nodup_append.mp hnd
    have hk : k ∉ ks := fun hk => hdisj k hk k (by simp) rfl
    obtain ⟨o, ho, hget⟩ := ih hks fun id hid => hsub id (by simp [hid])
    by_cases hnew : k ∈ newIds
    · refine ⟨state, ?_, fun x => ?_⟩
      · rw [List.foldlM_append, ho]
        simp [hnew]
      · rw [if_neg (not_cleared_concat hnew)]
    · have hok : o.get? k = state.get? k := by
        rw [hget, if_neg fun h => hk h.1]
      obtain ⟨t, ht⟩ := Option.isSome_iff_exists.mp (hsome k (hsub k (by simp)) hnew)
      refine ⟨o.set k t, ?_, fun x => ?_⟩
      · rw [List.foldlM_append, ho]
        simp [hnew, hok, ht]
      · simp only [JsObject.get?_set, cleared_concat hnew hk, hget]
        by_cases hx : x = k <;> simp [hx, ht]

/-! ## The whole refresh -/

/-- Which recorded ids a refresh clears, from the ids recorded before it. -/
theorem cleared_ownKeys_iff {T : Type} {state o : JsObject T} {ids ks : List String}
    (hks : o.keys = state.keys ++ ks)
    (hmem : ∀ x, x ∈ o.keys ↔ x ∈ state.keys ∨ x ∈ ids) (x : String) :
    Cleared ids o.ownKeys x ↔
      x ∈ state.keys ∧ x ∉ ids ∧ ∀ d ∈ ids, ¬JsObject.VisitedBefore state.keys x d := by
  have hpair : x ∈ state.keys → ∀ d ∈ ids,
      (List.Sublist [x, d] o.ownKeys ↔ JsObject.VisitedBefore state.keys x d) := by
    intro hx d hd
    rw [JsObject.ownKeys, JsObject.pair_sublist_visitOrder o.nodup_keys
      ((hmem x).mpr (Or.inl hx)) ((hmem d).mpr (Or.inr hd)), hks,
      JsObject.visitedBefore_append hx]
  constructor
  · rintro ⟨hx, hids, hlast⟩
    have hx' := ((hmem x).mp (JsObject.mem_ownKeys.mp hx)).resolve_right hids
    exact ⟨hx', hids, fun d hd => (not_congr (hpair hx' d hd)).mp (hlast d hd)⟩
  · rintro ⟨hx, hids, hlast⟩
    exact ⟨JsObject.mem_ownKeys.mpr ((hmem x).mpr (Or.inl hx)), hids,
      fun d hd => (not_congr (hpair hx d hd)).mpr (hlast d hd)⟩

/-- The recorded ids a refresh with `ids` takes the role from. -/
def Revoked (recorded ids : List String) (x : String) : Prop :=
  x ∈ recorded ∧ x ∉ ids ∧ ∀ d ∈ ids, ¬JsObject.VisitedBefore recorded x d

open Classical in
/-- The flags after both folds, for a reducer that is defined wherever it is called. -/
theorem flagOf_refresh {T : Type} {flag : T → UserRelationTypes → Bool}
    {reducer : RoleFinalReducer T} {rel : UserRelationTypes} (hflag : SetsFlag flag reducer rel)
    (hadd : ∀ s data, (reducer s rel true (some data)).isSome) (state : JsObject T)
    (hdrop : ∀ id ∈ state.keys, (reducer (state.get? id) rel false none).isSome)
    (endpointGuid : String) (data : List APIResource) :
    ∃ o o', addNewRoles state ⟨rel, endpointGuid, data⟩ reducer = some (o, data.map (·.guid)) ∧
      removeOldRoles o ⟨rel, endpointGuid, data⟩ (data.map (·.guid)) reducer = some o' ∧
      ∀ x rel', flagOf flag (o'.get? x) rel' =
        if rel' = rel ∧ x ∈ data.map (·.guid) then true
        else if rel' = rel ∧ Revoked state.keys (data.map (·.guid)) x then false
        else flagOf flag (state.get? x) rel' := by
  obtain ⟨o, ho, ⟨ks, hks⟩, hmem, hout, hin⟩ := addNewRoles_spec hflag hadd state endpointGuid data
  have hsome : ∀ id ∈ o.keys, id ∉ data.map (·.guid) →
      (reducer (o.get? id) rel false none).isSome := by
    intro id hid hids
    rw [hout id hids]
    exact hdrop id (((hmem id).mp hid).resolve_right hids)
  obtain ⟨o', ho', hget⟩ := removeOldRoles_spec ⟨rel, endpointGuid, data⟩ hsome
  refine ⟨o, o', ho, ho', fun x rel' => ?_⟩
  rw [hget x]
  by_cases hc : Cleared (data.map (·.guid)) o.ownKeys x
  · have hr : Revoked state.keys (data.map (·.guid)) x := (cleared_ownKeys_iff hks hmem x).mp hc
    obtain ⟨t, ht⟩ := Option.isSome_iff_exists.mp
      (hsome x (JsObject.mem_ownKeys.mp hc.1) hr.2.1)
    rw [if_pos hc, ht, flagOf_some, hflag _ _ _ _ ht, hout x hr.2.1]
    by_cases hrel : rel' = rel <;>
      simp only [hrel, hr, hr.2.1, and_false, and_true, if_true, if_false]
  · have hr : ¬Revoked state.keys (data.map (·.guid)) x := fun h =>
      hc ((cleared_ownKeys_iff hks hmem x).mpr h)
    rw [if_neg hc]
    by_cases hx : x ∈ data.map (·.guid)
    · rw [hin x hx]
      by_cases hrel : rel' = rel <;> simp [hrel, hx, hr]
    · rw [hout x hx, if_neg fun h => hx h.2, if_neg fun h => hr h.2]

/-! ## In the store -/

/-- The ids recorded for an endpoint, of the kind a relation is about. -/
def recordedIds (state : ICurrentUserRolesState) (endpointGuid : String)
    (rel : UserRelationTypes) : List String :=
  let cf := (state.cf.get? endpointGuid).getD getDefaultEndpointRoles
  if isOrgRelation rel then cf.organizations.keys else cf.spaces.keys

/-- The flag a relation controls, of an org or a space of an endpoint. -/
def roleFlag (state : ICurrentUserRolesState) (endpointGuid : String) (rel : UserRelationTypes)
    (id : String) : Bool :=
  let cf := (state.cf.get? endpointGuid).getD getDefaultEndpointRoles
  if isOrgRelation rel then flagOf IOrgRoleState.flag (cf.organizations.get? id) rel
  else flagOf ISpaceRoleState.flag (cf.spaces.get? id) rel

/-- Every recorded space has its org id. -/
def SpacesHaveOrg (state : ICurrentUserRolesState) : Prop :=
  ∀ endpointGuid cf, state.cf.get? endpointGuid = some cf →
    ∀ id space, cf.spaces.get? id = some space → noOrgId space.orgId = false

/-- The refresh is exact : the role's flag is set for the ids of the list and for no
other recorded one, and the other flags are what they were. -/
def RefreshExact (state : ICurrentUserRolesState) (action : GetCurrentUserRelationsComplete) :
    Prop :=
  ∃ state', currentUserRolesReducer state (.getCurrentUserRelationSuccess action) = some state' ∧
    ∀ id, id ∈ recordedIds state action.endpointGuid action.relationType ∨
        id ∈ action.data.map (·.guid) →
      ∀ rel, isOrgRelation rel = isOrgRelation action.relationType →
        roleFlag state' action.endpointGuid rel id =
          if rel = action.relationType then decide (id ∈ action.data.map (·.guid))
          else roleFlag state action.endpointGuid rel id

theorem isSome_orgRoleReducer (s : Option IOrgRoleState) (rel : UserRelationTypes) (b : Bool)
    (space : Option APIResource) : (currentUserOrgRoleReducer s rel b space).isSome := by
  cases rel <;> rfl

theorem isSome_spaceRoleReducer_data (s : Option ISpaceRoleState) (rel : UserRelationTypes)
    (b : Bool) (data : APIResource) : (currentUserSpaceRoleReducer s rel b (some data)).isSome := by
  unfold currentUserSpaceRoleReducer addId
  split_ifs <;> simp

/-- A recorded space with an org id can be reduced without its resource. -/
theorem isSome_spaceRoleReducer {space : ISpaceRoleState} (h : noOrgId space.orgId = false)
    (rel : UserRelationTypes) (b : Bool) :
    (currentUserSpaceRoleReducer (some space) rel b none).isSome := by
  simp [currentUserSpaceRoleReducer, addId, h]

theorem isSpaceRelation_of_not_org {rel : UserRelationTypes} (h : isOrgRelation rel = false) :
    isSpaceRelation rel = true := by
  cases rel <;> first | rfl | simp [isOrgRelation] at h

open Classical in
/-- The flags after the action, whichever kind of relation it carries. -/
theorem roleFlag_reducer {state : ICurrentUserRolesState} (hstate : SpacesHaveOrg state)
    (action : GetCurrentUserRelationsComplete) :
    ∃ state', currentUserRolesReducer state (.getCurrentUserRelationSuccess action) = some state' ∧
      ∀ id rel, isOrgRelation rel = isOrgRelation action.relationType →
        roleFlag state' action.endpointGuid rel id =
          if rel = action.relationType ∧ id ∈ action.data.map (·.guid) then true
          else if rel = action.relationType ∧ Revoked
              (recordedIds state action.endpointGuid action.relationType)
              (action.data.map (·.guid)) id then false
          else roleFlag state action.endpointGuid rel id := by
  obtain ⟨relationType, endpointGuid, data⟩ := action
  obtain ⟨cf, hcf⟩ : ∃ cf, (state.cf.get? endpointGuid).getD getDefaultEndpointRoles = cf :=
    ⟨_, rfl⟩
  cases horg : isOrgRelation relationType with
  | true =>
    obtain ⟨o, o', ho, ho', hflags⟩ := flagOf_refresh (setsFlag_org horg)
      (fun s data => isSome_orgRoleReducer s _ _ _) cf.organizations
      (fun id _ => isSome_orgRoleReducer _ _ _ _) endpointGuid data
    refine ⟨{ state with cf := state.cf.set endpointGuid { cf with organizations := o' } }, ?_, ?_⟩
    · simp [currentUserRolesReducer, currentUserBaseCFRolesReducer, currentUserCFRolesReducer,
        currentUserOrgRolesReducer, hcf, horg, ho, ho']
    · intro id rel hrel
      simp only [roleFlag, recordedIds, hrel, horg, hcf, if_true, JsObject.get?_set_self,
        Option.getD_some, hflags]
  | false =>
    have hspace := isSpaceRelation_of_not_org horg
    have hdrop : ∀ id ∈ cf.spaces.keys,
        (currentUserSpaceRoleReducer (cf.spaces.get? id) relationType false none).isSome := by
      intro id hid
      obtain ⟨space, hget⟩ := Option.isSome_iff_exists.mp (JsObject.isSome_get?_iff.mpr hid)
      rw [hget]
      refine isSome_spaceRoleReducer ?_ _ _
      cases hstored : state.cf.get? endpointGuid with
      | none =>
        rw [hstored] at hcf
        simp [← hcf, getDefaultEndpointRoles] at hid
      | some cf' =>
        rw [hstored, Option.getD_some] at hcf
        exact hstate endpointGuid cf' hstored id space (hcf ▸ hget)
    obtain ⟨o, o', ho, ho', hflags⟩ := flagOf_refresh (setsFlag_space hspace)
      (fun s data => isSome_spaceRoleReducer_data s _ _ data) cf.spaces hdrop endpointGuid data
    refine ⟨{ state with
      cf := state.cf.set endpointGuid
        { cf with
          spaces := o'
          organizations := assignSpaceToOrg cf.organizations data } }, ?_, ?_⟩
    · simp [currentUserRolesReducer, currentUserBaseCFRolesReducer, currentUserCFRolesReducer,
        currentUserSpaceRolesReducer, hcf, horg, hspace, ho, ho']
    · intro id rel hrel
      simp only [roleFlag, recordedIds, hrel, horg, hcf, Bool.false_eq_true, if_false,
        JsObject.get?_set_self, Option.getD_some, hflags]

/-- The refresh is exact if and only if no id the role has to be taken from is visited
before an id of the list. -/
theorem refreshExact_iff {state : ICurrentUserRolesState} (hstate : SpacesHaveOrg state)
    (action : GetCurrentUserRelationsComplete) :
    RefreshExact state action ↔
      ∀ id ∈ recordedIds state action.endpointGuid action.relationType,
        id ∉ action.data.map (·.guid) →
        roleFlag state action.endpointGuid action.relationType id = true →
        ∀ d ∈ action.data.map (·.guid), ¬JsObject.VisitedBefore
          (recordedIds state action.endpointGuid action.relationType) id d := by
  classical
  obtain ⟨state', hred, hflags⟩ := roleFlag_reducer hstate action
  constructor
  · rintro ⟨s, hs, hexact⟩ id hid hnew hset
    obtain rfl : state' = s := Option.some.inj (hred.symm.trans hs)
    by_contra hbefore
    have hcleared := hexact id (Or.inl hid) action.relationType rfl
    rw [hflags id _ rfl] at hcleared
    have hrev : ¬Revoked (recordedIds state action.endpointGuid action.relationType)
        (action.data.map (·.guid)) id := fun h => hbefore h.2.2
    simp [hnew, hrev, hset] at hcleared
  · intro h
    refine ⟨state', hred, fun id hid rel hrel => ?_⟩
    rw [hflags id rel hrel]
    by_cases hne : rel = action.relationType
    · subst hne
      by_cases hnew : id ∈ action.data.map (·.guid)
      · simp [hnew]
      · have hrec := hid.resolve_right hnew
        by_cases hset : roleFlag state action.endpointGuid action.relationType id = true
        · have hrev : Revoked (recordedIds state action.endpointGuid action.relationType)
            (action.data.map (·.guid)) id := ⟨hrec, hnew, h id hrec hnew hset⟩
          simp only [hnew, hrev, and_false, and_true, if_true, if_false, decide_false]
        · simp [hnew, hset]
    · simp [hne]

/-- A user who manages two orgs of one endpoint. -/
def twoManagedOrgs : ICurrentUserRolesState :=
  { getDefaultState with
    cf := JsObject.empty.set "cf"
      { getDefaultEndpointRoles with
        organizations :=
          (JsObject.empty.set "org-a" { createOrgRoleStateState with isManager := true }).set
            "org-b" { createOrgRoleStateState with isManager := true } } }

theorem spacesHaveOrg_twoManagedOrgs : SpacesHaveOrg twoManagedOrgs := by
  intro endpointGuid cf hcf id space hspace
  simp only [twoManagedOrgs, JsObject.get?_set, JsObject.get?_empty] at hcf
  split_ifs at hcf
  obtain rfl := Option.some.inj hcf
  simp [getDefaultEndpointRoles] at hspace

/-- The manager role of `org-b` is gone and `org-a` is visited first : exact. -/
theorem refreshExact_iff_twoManagedOrgs :
    SpacesHaveOrg twoManagedOrgs ∧
      RefreshExact twoManagedOrgs ⟨.managedOrganization, "cf", [⟨"org-a", none⟩]⟩ :=
  ⟨spacesHaveOrg_twoManagedOrgs,
    (refreshExact_iff spacesHaveOrg_twoManagedOrgs
      ⟨.managedOrganization, "cf", [⟨"org-a", none⟩]⟩).mpr (by decide)⟩

/-- The manager role of `org-a` is gone, but the retained `org-b` is visited after it :
`org-a` stays managed. -/
theorem not_refreshExact_twoManagedOrgs :
    SpacesHaveOrg twoManagedOrgs ∧
      ¬RefreshExact twoManagedOrgs ⟨.managedOrganization, "cf", [⟨"org-b", none⟩]⟩ := by
  refine ⟨spacesHaveOrg_twoManagedOrgs, ?_⟩
  rintro ⟨state', hred, hexact⟩
  have hkept : (currentUserRolesReducer twoManagedOrgs (.getCurrentUserRelationSuccess
      ⟨.managedOrganization, "cf", [⟨"org-b", none⟩]⟩)).map
        (roleFlag · "cf" .managedOrganization "org-a") = some true := by decide
  rw [hred, Option.map_some, Option.some.injEq] at hkept
  have hrevoked := hexact "org-a" (Or.inl (by decide)) .managedOrganization rfl
  simp [hkept] at hrevoked

end Stratos
