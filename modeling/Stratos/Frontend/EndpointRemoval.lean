import Stratos.Frontend.EndpointEffects
import Stratos.Lib.Lists

/-!
# Removing a Cloud Foundry endpoint

What belongs to an endpoint goes with it, when it is disconnected and when it is unregistered. The
reducers of the four slices that hold it file the entities of the other endpoints anew
(`endpointDisconnectApplicationReducer`, `endpointDisconnectUserReducer`), and the pages of six
types are cleared (`clearEndpointEntities`).

No reducer sees a slice but its own (`chainReducers_spec`), and an entity stays filed under its
guid (`exists_store_of_reduceCf`).
-/

open Lib

namespace Stratos

/-! ## The store -/

/-- An entity of a Cloud Foundry. -/
structure CfResource where
  /-- `metadata` with its guid, where the entity has one. -/
  metadata : Option (Option String)
  /-- `entity.cfGuid` -/
  cfGuid : Option String
  /-- The other properties of `entity`. -/
  fields : JsObject ParamValue
  deriving DecidableEq

/-- The slices that an endpoint's entities are taken out of. -/
def cfEntityKeys : List String :=
  [cfUserSchemaKey, applicationSchemaKey, spaceSchemaKey, organizationSchemaKey]

/-- Entities are filed under their guids, which is how a response is normalised. -/
def Filed (requestData : EntitySlices CfResource) : Prop :=
  ∀ entityKey guid entity guid', getEntity requestData entityKey guid = some entity →
    entity.metadata = some (some guid') → guid' = guid

/-- The parts of the store that hold what belongs to an endpoint. -/
structure CfState where
  requestData : EntitySlices CfResource
  pagination : PaginationState

/-- A state that the store can have. The slices are in the default state. -/
structure CfStore extends CfState where
  filed : Filed requestData
  hasSlices : ∀ entityKey ∈ cfEntityKeys, (requestData.get? entityKey).isSome

/-- A page of a list, with the entities that came along. -/
structure ListResponse where
  entityKey : String
  paginationKey : String
  page : PageResponse
  entities : EntitySlices CfResource
  filed : Filed entities

/-- What reaches the reducers while an endpoint is removed. -/
inductive CfAction
  | endpoint (action : EndpointStoreAction)
  | listResponse (response : ListResponse)

/-! ## The reducers -/

/-- `newEntities[newKey] = entity`, where there is a key. -/
def fileUnder (newEntities : JsObject CfResource) (entity : CfResource) :
    Option String → JsObject CfResource
  | some newKey => newEntities.set newKey entity
  | none => newEntities

/-- One value filed anew : under a key, not at all, or a throw. -/
def refile (keyOf : CfResource → Option (Option String)) (state newEntities : JsObject CfResource)
    (key : String) : Option (JsObject CfResource) :=
  match state.get? key with
  | some entity => (keyOf entity).map (fileUnder newEntities entity)
  | none => some newEntities

/-- The entities under the keys that `keyOf` gives, without those it drops. -/
def refileBy (keyOf : CfResource → Option (Option String)) (state : JsObject CfResource) :
    Option (JsObject CfResource) :=
  state.ownKeys.foldlM (refile keyOf state) JsObject.empty

/-- `entity.cfGuid === endpointGuid`. A function equals no string. -/
def CfResource.isOf (entity : CfResource) : ActionGuid → Bool
  | .text guid => entity.cfGuid = some guid
  | .method _ => false

/-- Where `deletionApplicationFromEndpoint` files an entity. The guid must be truthy. -/
def applicationKey (endpointGuid : ActionGuid) (app : CfResource) : Option (Option String) :=
  if app.isOf endpointGuid then some none
  else app.metadata.map fun guid => guid.filter (· ≠ "")

/-- The entities that do not belong to the endpoint. -/
def deletionApplicationFromEndpoint (state : JsObject CfResource) (endpointGuid : ActionGuid) :
    Option (JsObject CfResource) :=
  refileBy (applicationKey endpointGuid) state

/-- The applications, spaces or organisations after an endpoint is gone. -/
def endpointDisconnectApplicationReducer (state : JsObject CfResource) :
    CfAction → Option (JsObject CfResource)
  | .endpoint (.outcome .disconnectSuccess guid _)
  | .endpoint (.outcome .unregisterSuccess guid _) => deletionApplicationFromEndpoint state guid
  | _ => some state

/-- Where `endpointDisconnectUserReducer` files a user. A guid that is missing makes a key too. -/
def userKey (cfGuid : ActionGuid) (user : CfResource) : Option (Option String) :=
  if user.isOf cfGuid then some none
  else user.metadata.map fun guid => some (guid.getD "undefined")

/-- The users after an endpoint is disconnected. -/
def endpointDisconnectUserReducer (state : JsObject CfResource) :
    CfAction → Option (JsObject CfResource)
  | .endpoint (.outcome .disconnectSuccess guid endpointType) =>
    if endpointType = some .web then refileBy (userKey guid) state else some state
  | _ => some state

/-- Metadata are taken over even if the old entity has none. -/
def mergeEntity (baseEntity : Option CfResource) (newEntity : CfResource) : CfResource :=
  match baseEntity with
  | none => newEntity
  | some base =>
    { metadata := match base.metadata with
        | some guid => some ((newEntity.metadata.bind id).or guid)
        | none => newEntity.metadata
      cfGuid := newEntity.cfGuid.or base.cfGuid
      fields := base.fields.spread newEntity.fields }

/-- The entities of a response merged into those there are. -/
def deepMergeState (state newState : EntitySlices CfResource) : EntitySlices CfResource :=
  state.mergeWith (fun slice newSlice =>
    match slice with
    | some slice => slice.mergeWith mergeEntity newSlice
    | none => newSlice) newState

/-- The reducers of single slices, in their order. -/
def extraReducers :
    List (String × (JsObject CfResource → CfAction → Option (JsObject CfResource))) :=
  [(cfUserSchemaKey, endpointDisconnectUserReducer),
    (applicationSchemaKey, endpointDisconnectApplicationReducer),
    (spaceSchemaKey, endpointDisconnectApplicationReducer),
    (organizationSchemaKey, endpointDisconnectApplicationReducer)]

/-- The extra reducers of each type, one after the other. Throws without a slice. -/
def chainReducers
    (extra : List (String × (JsObject CfResource → CfAction → Option (JsObject CfResource))))
    (action : CfAction) (state : EntitySlices CfResource) : Option (EntitySlices CfResource) :=
  extra.foldlM (fun newState e => do
    let slice ← newState.get? e.1
    let nextState ← e.2 slice action
    return newState.set e.1 nextState) state

/-- The deletion of the endpoint itself is an action of its own. -/
def cfDataReducer (state : EntitySlices CfResource) (action : CfAction) :
    Option (EntitySlices CfResource) :=
  chainReducers extraReducers action (match action with
    | .listResponse response => deepMergeState state response.entities
    | .endpoint _ => state)

/-- The section must have been created. -/
def enterPaginationReducer (state : PaginationState) (response : ListResponse) :
    Option PaginationState := do
  let sections ← state.get? response.entityKey
  let updatedPaginationState ← paginationSuccess
    ((sections.get? response.paginationKey).getD getDefaultPaginationEntityState) response.page
  return state.set response.entityKey
    (sections.set response.paginationKey updatedPaginationState)

/-- The lists after an action. -/
def cfPaginationReducer (state : PaginationState) : CfAction → Option PaginationState
  | .endpoint action => paginationReducer state action
  | .listResponse response => enterPaginationReducer state response

/-- Both parts after an action. -/
def reduceCf (s : CfState) (action : CfAction) : Option CfState := do
  let requestData ← cfDataReducer s.requestData action
  let pagination ← cfPaginationReducer s.pagination action
  return ⟨requestData, pagination⟩

/-! ## Removals -/

/-- How an endpoint is removed. Responses of lists can land while it is unregistered. -/
inductive RemovalPath
  | disconnect
  | unregister (name : String) (responses : List ListResponse)

section Removal

/- The source text of the method `guid` of `UnregisterEndpoint`. -/
variable (source : String) (cfGuid : String)

/-- What reaches the reducers before the success. -/
def RemovalPath.before : RemovalPath → List CfAction
  | disconnect => []
  | unregister name responses =>
    .endpoint (.operation (.unregister cfGuid name .web)) :: responses.map .listResponse

/-- The action of the success, the first one that the effect dispatches (`answerActions`). -/
def RemovalPath.completion : RemovalPath → EndpointStoreAction
  | disconnect => .outcome .disconnectSuccess (.text cfGuid) (some .web)
  | unregister .. => .outcome .unregisterSuccess (.method source) (some .web)

/-- The state after a list of actions. -/
def runCf (actions : List CfAction) (s : CfState) : Option CfState := actions.foldlM reduceCf s

/-- A page of the type lists the entity. -/
def ListsEntity (state : PaginationState) (entityKey guid : String) : Prop :=
  ∃ sections key entityState page ids, state.get? entityKey = some sections ∧
    sections.get? key = some entityState ∧ entityState.ids.get? page = some (some ids) ∧
    guid ∈ ids

/-- From the one state to the other all went that belongs to the endpoint, and nothing else. -/
structure EndpointRemoved (s s' : CfState) : Prop where
  removed : ∀ entityKey ∈ cfEntityKeys, ∀ guid entity,
    getEntity s'.requestData entityKey guid = some entity → entity.cfGuid ≠ some cfGuid
  unlisted : ∀ entityKey guid, (getEntity s.requestData entityKey guid).isSome →
    getEntity s'.requestData entityKey guid = none → ¬ListsEntity s'.pagination entityKey guid
  kept : ∀ entityKey guid entity, getEntity s.requestData entityKey guid = some entity →
    entity.cfGuid ≠ some cfGuid → getEntity s'.requestData entityKey guid = some entity

/-- Once the responses have landed, the success removes the endpoint. -/
def RemovesEndpoint (path : RemovalPath) (s : CfState) : Prop :=
  ∀ before, runCf (path.before cfGuid) s = some before →
    ∃ after, reduceCf before (.endpoint (path.completion source cfGuid)) = some after ∧
      EndpointRemoved cfGuid before after

/-- The guid of the entity is there. -/
def CfResource.hasGuid (entity : CfResource) : Prop := ∃ guid, entity.metadata = some (some guid) ∧
  guid ≠ ""

/-- What a disconnection needs of the entities of the other endpoints. -/
def DisconnectFits (s : CfState) : Prop :=
  ∀ entityKey ∈ cfEntityKeys, ∀ guid entity, getEntity s.requestData entityKey guid = some entity →
    entity.cfGuid ≠ some cfGuid →
    if entityKey = cfUserSchemaKey then entity.metadata.map (·.getD "undefined") = some guid
    else entity.hasGuid

/-- What an unregistration needs : no user of the endpoint, and of the other slices no entity of
the endpoint but those that lack a guid and are on no page. -/
def UnregisterFits (s : CfState) : Prop :=
  ∀ entityKey ∈ cfEntityKeys, ∀ guid entity, getEntity s.requestData entityKey guid = some entity →
    if entity.cfGuid = some cfGuid then
      entityKey ≠ cfUserSchemaKey ∧ entity.metadata.isSome ∧ ¬entity.hasGuid ∧
        ¬ListsEntity s.pagination entityKey guid
    else entityKey ≠ cfUserSchemaKey → entity.hasGuid

/-- What a removal needs of the state that its success finds. -/
def RemovalPath.Fits : RemovalPath → CfState → Prop
  | disconnect => DisconnectFits cfGuid
  | unregister .. => UnregisterFits cfGuid

end Removal

/-! ## What the reducers do to a slice -/

section Slices

variable {keyOf : CfResource → Option (Option String)} {state state' : JsObject CfResource}

theorem refile_of_get? {newEntities : JsObject CfResource} {key : String} {entity : CfResource}
    (h : state.get? key = some entity) :
    refile keyOf state newEntities key = (keyOf entity).map (fileUnder newEntities entity) := by
  simp [refile, h]

theorem refile_of_none {newEntities : JsObject CfResource} {key : String}
    (h : state.get? key = none) : refile keyOf state newEntities key = some newEntities := by
  simp [refile, h]

theorem refileBy_isSome_iff : (refileBy keyOf state).isSome ↔
    ∀ key entity, state.get? key = some entity → (keyOf entity).isSome := by
  have hstep : ∀ newEntities : JsObject CfResource, ∀ key ∈ state.ownKeys,
      (refile keyOf state newEntities key).isSome ↔
        ∀ entity, state.get? key = some entity → (keyOf entity).isSome := by
    intro newEntities key _
    rcases h : state.get? key with _ | entity
    · simp [refile_of_none h]
    · simp [refile_of_get? h]
  rw [refileBy, foldlM_isSome_iff hstep]
  constructor
  · intro h key entity hkey
    exact h key (JsObject.mem_ownKeys.2 (JsObject.mem_keys_of_get? hkey)) entity hkey
  · exact fun h key _ entity hkey => h key entity hkey

theorem get?_fileUnder {newEntities : JsObject CfResource} {entity : CfResource}
    (newKey : Option String) (key : String) : (fileUnder newEntities entity newKey).get? key =
      if newKey = some key then some entity else newEntities.get? key := by
  rcases newKey with _ | newKey
  · simp [fileUnder]
  · simp [fileUnder, JsObject.get?_set, eq_comm]

/-- What is filed anew was there, and is filed under its key. -/
theorem exists_of_refileBy (h : refileBy keyOf state = some state') {key : String}
    {entity : CfResource} (hkey : state'.get? key = some entity) :
    ∃ old, state.get? old = some entity ∧ keyOf entity = some (some key) := by
  refine foldlM_inv (p := fun newEntities : JsObject CfResource =>
    ∀ key entity, newEntities.get? key = some entity →
      ∃ old, state.get? old = some entity ∧ keyOf entity = some (some key))
    ?_ (by simp) h key entity hkey
  intro newEntities old newEntities' hinv hstep key entity hkey
  rcases hold : state.get? old with _ | oldEntity
  · rw [refile_of_none hold] at hstep
    obtain rfl := Option.some.inj hstep
    exact hinv key entity hkey
  · rw [refile_of_get? hold] at hstep
    obtain ⟨newKey, hnew, rfl⟩ := Option.map_eq_some_iff.1 hstep
    rw [get?_fileUnder] at hkey
    split_ifs at hkey with heq
    · obtain rfl := Option.some.inj hkey
      exact ⟨old, hold, by rw [hnew, heq]⟩
    · exact hinv key entity hkey

/-- Where no key changes, one value is filed anew or left out. -/
theorem get?_refile {newEntities newEntities' : JsObject CfResource} {k : String}
    (hown : ∀ key entity newKey, state.get? key = some entity →
      keyOf entity = some (some newKey) → newKey = key)
    (h : refile keyOf state newEntities k = some newEntities')
    (hnone : newEntities.get? k = none) (key : String) :
    newEntities'.get? key = if key = k then
      (state.get? key).filter fun entity => keyOf entity = some (some key)
    else newEntities.get? key := by
  rcases hk : state.get? k with _ | entity
  · rw [refile_of_none hk] at h
    obtain rfl := Option.some.inj h
    split_ifs with heq
    · rw [heq, hk, hnone]
      rfl
    · rfl
  · rw [refile_of_get? hk] at h
    obtain ⟨newKey, hnew, rfl⟩ := Option.map_eq_some_iff.1 h
    have hkey : ∀ key, newKey = some key → key = k := by
      rintro key rfl
      exact hown k entity key hk hnew
    rw [get?_fileUnder]
    split_ifs with hfile heq heq
    · subst heq
      rw [hk, Option.filter_some, if_pos (by simp [hnew, hfile])]
    · exact absurd (hkey key hfile) heq
    · subst heq
      have hne : keyOf entity ≠ some (some key) := by
        rw [hnew]
        exact fun h => hfile (Option.some.inj h)
      rw [hk, hnone, Option.filter_some, if_neg (by simp [hne])]
    · rfl

/-- Where no key changes, all that is filed stays. -/
theorem get?_refileBy (h : refileBy keyOf state = some state')
    (hown : ∀ key entity newKey, state.get? key = some entity →
      keyOf entity = some (some newKey) → newKey = key) (key : String) :
    state'.get? key = (state.get? key).filter fun entity => keyOf entity = some (some key) := by
  have hfold : ∀ (keys : List String) (newEntities : JsObject CfResource), keys.Nodup →
      keys.foldlM (refile keyOf state) newEntities = some state' →
      (∀ key ∈ keys, newEntities.get? key = none) →
      state'.get? key = if key ∈ keys then
        (state.get? key).filter fun entity => keyOf entity = some (some key)
      else newEntities.get? key := by
    intro keys
    induction keys with
    | nil =>
      intro newEntities _ h _
      obtain rfl := Option.some.inj h
      simp
    | cons k keys ih =>
      intro newEntities hnd h hnone
      obtain ⟨hnot, hnd⟩ := List.nodup_cons.1 hnd
      rw [List.foldlM_cons] at h
      obtain ⟨newEntities', hstep, h⟩ := Option.bind_eq_some_iff.1 h
      have hget := get?_refile hown hstep (hnone k List.mem_cons_self)
      have hnone' : ∀ key ∈ keys, newEntities'.get? key = none := by
        intro key hkey
        have hne : key ≠ k := fun heq => hnot (heq ▸ hkey)
        rw [hget, if_neg hne]
        exact hnone key (List.mem_cons_of_mem _ hkey)
      rw [ih newEntities' hnd h hnone', hget]
      rcases eq_or_ne key k with rfl | hne
      · simp [hnot]
      · simp [hne]
  rw [hfold _ _ (JsObject.nodup_ownKeys state) h (by simp)]
  split_ifs with hkey
  · rfl
  · rw [JsObject.mem_ownKeys] at hkey
    rw [JsObject.get?_eq_none_iff.2 hkey]
    simp

end Slices

/-! ## What an action does to the store -/

section Reducers

variable {action : CfAction}

/-- The reducer of a slice. -/
def sliceReducer (entityKey : String) :
    JsObject CfResource → CfAction → Option (JsObject CfResource) :=
  if entityKey = cfUserSchemaKey then endpointDisconnectUserReducer
  else endpointDisconnectApplicationReducer

theorem extraReducers_eq : extraReducers = cfEntityKeys.map fun key => (key, sliceReducer key) := by
  rfl

theorem nodup_cfEntityKeys : cfEntityKeys.Nodup := by
  decide

theorem chainReducers_eq
    (reducer : String → JsObject CfResource → CfAction → Option (JsObject CfResource))
    (keys : List String) (state : EntitySlices CfResource) :
    chainReducers (keys.map fun key => (key, reducer key)) action state =
      keys.foldlM (JsObject.updateAt fun key slice => (slice.bind (reducer key · action)).map some)
        state := by
  rw [chainReducers, List.foldlM_map]
  congr 1
  funext newState key
  rcases h : newState.get? key with _ | slice
  · simp [JsObject.updateAt, h]
  · rcases hred : reducer key slice action with _ | next <;> simp [JsObject.updateAt, h, hred]

/-- Each reducer sees its own slice only. -/
theorem chainReducers_spec
    (reducer : String → JsObject CfResource → CfAction → Option (JsObject CfResource))
    (action : CfAction) {keys : List String} (hnd : keys.Nodup) (state : EntitySlices CfResource) :
    ((chainReducers (keys.map fun key => (key, reducer key)) action state).isSome ↔
      ∀ key ∈ keys, ((state.get? key).bind (reducer key · action)).isSome) ∧
    ∀ state', chainReducers (keys.map fun key => (key, reducer key)) action state = some state' →
      ∀ key, state'.get? key = if key ∈ keys then (state.get? key).bind (reducer key · action)
        else state.get? key := by
  rw [chainReducers_eq]
  obtain ⟨hsome, hget⟩ := JsObject.foldlM_updateAt (α := JsObject CfResource) (f := fun key slice =>
    (slice.bind (reducer key · action)).map some) hnd state
  have hiff : (keys.foldlM (JsObject.updateAt fun key slice =>
      (slice.bind (reducer key · action)).map some) state).isSome ↔
      ∀ key ∈ keys, ((state.get? key).bind (reducer key · action)).isSome := by
    rw [hsome]
    simp only [Option.isSome_map]
  refine ⟨hiff, fun state' h key => ?_⟩
  rw [hget state' h key]
  split_ifs with hkey
  · obtain ⟨next, hnext⟩ := Option.isSome_iff_exists.1 (hiff.1 (by rw [h]; rfl) key hkey)
    simp [hnext]
  · rfl

/-- The request data that the reducers of single slices find. -/
def mergedData (state : EntitySlices CfResource) : CfAction → EntitySlices CfResource
  | .listResponse response => deepMergeState state response.entities
  | .endpoint _ => state

theorem cfDataReducer_isSome_iff (state : EntitySlices CfResource) :
    (cfDataReducer state action).isSome ↔ ∀ key ∈ cfEntityKeys,
      (((mergedData state action).get? key).bind (sliceReducer key · action)).isSome := by
  have hspec := (chainReducers_spec sliceReducer action nodup_cfEntityKeys
    (mergedData state action)).1
  rw [← extraReducers_eq] at hspec
  rcases action with endpointAction | response <;> exact hspec

theorem get?_cfDataReducer {state state' : EntitySlices CfResource}
    (h : cfDataReducer state action = some state') (key : String) :
    state'.get? key = if key ∈ cfEntityKeys then
      ((mergedData state action).get? key).bind (sliceReducer key · action)
    else (mergedData state action).get? key := by
  have hspec := (chainReducers_spec sliceReducer action nodup_cfEntityKeys
    (mergedData state action)).2 state'
  rw [← extraReducers_eq] at hspec
  rcases action with endpointAction | response <;> exact hspec h key

/-- A slice stays, or is filed anew. -/
theorem sliceReducer_cases {entityKey : String} {slice slice' : JsObject CfResource}
    (h : sliceReducer entityKey slice action = some slice') :
    slice' = slice ∨ ∃ guid, refileBy (userKey guid) slice = some slice' ∨
      refileBy (applicationKey guid) slice = some slice' := by
  unfold sliceReducer at h
  split_ifs at h with huser
  · unfold endpointDisconnectUserReducer at h
    split at h
    · rename_i guid endpointType
      split_ifs at h with hweb
      · exact .inr ⟨guid, .inl h⟩
      · exact .inl (Option.some.inj h).symm
    · exact .inl (Option.some.inj h).symm
  · unfold endpointDisconnectApplicationReducer at h
    split at h
    · exact .inr ⟨_, .inr h⟩
    · exact .inr ⟨_, .inr h⟩
    · exact .inl (Option.some.inj h).symm

theorem getEntity_deepMergeState (state newState : EntitySlices CfResource)
    (entityKey guid : String) : getEntity (deepMergeState state newState) entityKey guid =
      match getEntity newState entityKey guid with
      | some entity => some (mergeEntity (getEntity state entityKey guid) entity)
      | none => getEntity state entityKey guid := by
  unfold getEntity deepMergeState
  rw [JsObject.get?_mergeWith]
  rcases newState.get? entityKey with _ | newSlice
  · rfl
  · rcases state.get? entityKey with _ | slice
    · simp only [Option.bind_some, Option.bind_none]
      rcases newSlice.get? guid with _ | entity <;> rfl
    · simp only [Option.bind_some]
      rw [JsObject.get?_mergeWith]
      rcases newSlice.get? guid with _ | entity <;> rfl

theorem filed_deepMergeState {state newState : EntitySlices CfResource} (hfiled : Filed state)
    (hnew : Filed newState) : Filed (deepMergeState state newState) := by
  intro entityKey guid entity guid' hget hguid
  rw [getEntity_deepMergeState] at hget
  rcases hn : getEntity newState entityKey guid with _ | new
  · rw [hn] at hget
    exact hfiled entityKey guid entity guid' hget hguid
  · rw [hn] at hget
    obtain rfl := Option.some.inj hget
    rcases ho : getEntity state entityKey guid with _ | old
    · rw [ho] at hguid
      exact hnew entityKey guid new guid' hn hguid
    · rw [ho] at hguid
      simp only [mergeEntity] at hguid
      rcases hmeta : old.metadata with _ | oldGuid
      · rw [hmeta] at hguid
        exact hnew entityKey guid new guid' hn hguid
      · rw [hmeta] at hguid
        rcases Option.or_eq_some_iff.1 (Option.some.inj hguid) with hguid | ⟨-, rfl⟩
        · obtain ⟨newGuid, hm, rfl⟩ := Option.bind_eq_some_iff.1 hguid
          exact hnew entityKey guid new guid' hn hm
        · exact hfiled entityKey guid old guid' ho hmeta

theorem applicationKey_eq_iff {guid : ActionGuid} {app : CfResource} {key : String} :
    applicationKey guid app = some (some key) ↔
      app.isOf guid = false ∧ app.metadata = some (some key) ∧ key ≠ "" := by
  unfold applicationKey
  rcases h : app.isOf guid
  · simp
  · simp

theorem userKey_eq_iff {guid : ActionGuid} {user : CfResource} {key : String} :
    userKey guid user = some (some key) ↔
      user.isOf guid = false ∧ user.metadata.map (·.getD "undefined") = some key := by
  unfold userKey
  rcases h : user.isOf guid
  · simp
  · simp

/-- Filed under the old key, or under the own guid. -/
theorem exists_of_sliceReducer {entityKey : String} {slice slice' : JsObject CfResource}
    (h : sliceReducer entityKey slice action = some slice') {key : String} {entity : CfResource}
    (hkey : slice'.get? key = some entity) : ∃ old, slice.get? old = some entity ∧
      (old = key ∨ ∀ guid', entity.metadata = some (some guid') → guid' = key) := by
  rcases sliceReducer_cases h with rfl | ⟨guid, hrefile | hrefile⟩
  · exact ⟨key, hkey, .inl rfl⟩
  · obtain ⟨old, hold, huser⟩ := exists_of_refileBy hrefile hkey
    refine ⟨old, hold, .inr fun guid' hguid' => ?_⟩
    have hmeta := (userKey_eq_iff.1 huser).2
    rw [hguid'] at hmeta
    exact Option.some.inj hmeta
  · obtain ⟨old, hold, happ⟩ := exists_of_refileBy hrefile hkey
    refine ⟨old, hold, .inr fun guid' hguid' => ?_⟩
    have hmeta := (applicationKey_eq_iff.1 happ).2.1
    rw [hguid'] at hmeta
    exact Option.some.inj (Option.some.inj hmeta)

theorem reduceCf_cases {s s' : CfState} (h : reduceCf s action = some s') :
    cfDataReducer s.requestData action = some s'.requestData ∧
      cfPaginationReducer s.pagination action = some s'.pagination := by
  obtain ⟨requestData, hdata, h⟩ := Option.bind_eq_some_iff.1 h
  obtain ⟨pagination, hpagination, h⟩ := Option.bind_eq_some_iff.1 h
  obtain rfl := Option.some.inj h
  exact ⟨hdata, hpagination⟩

/-- The reducers lead from a state that the store can have to another. -/
theorem exists_store_of_reduceCf (s : CfStore) {s' : CfState}
    (h : reduceCf s.toCfState action = some s') : ∃ store : CfStore, store.toCfState = s' := by
  obtain ⟨hdata, -⟩ := reduceCf_cases h
  have hget := get?_cfDataReducer hdata
  have hmerged : Filed (mergedData s.requestData action) := by
    rcases action with endpointAction | response
    · exact s.filed
    · exact filed_deepMergeState s.filed response.filed
  refine ⟨⟨s', ?_, ?_⟩, rfl⟩
  · intro entityKey guid entity guid' hentity hguid'
    unfold getEntity at hentity
    rw [hget] at hentity
    split_ifs at hentity
    · obtain ⟨slice', hslice', hkey⟩ := Option.bind_eq_some_iff.1 hentity
      obtain ⟨slice, hslice, hred⟩ := Option.bind_eq_some_iff.1 hslice'
      obtain ⟨old, hold, hown⟩ := exists_of_sliceReducer hred hkey
      rcases hown with rfl | hown
      · exact hmerged entityKey old entity guid' (Option.bind_eq_some_iff.2 ⟨slice, hslice, hold⟩)
          hguid'
      · exact hown guid' hguid'
    · exact hmerged entityKey guid entity guid' hentity hguid'
  · intro entityKey hkey
    have hsome := (cfDataReducer_isSome_iff s.requestData).1 (by rw [hdata]; rfl) entityKey hkey
    rw [hget, if_pos hkey]
    exact hsome

theorem exists_store_of_run (actions : List CfAction) (s : CfStore) {s' : CfState}
    (h : runCf actions s.toCfState = some s') : ∃ store : CfStore, store.toCfState = s' :=
  foldlM_inv (p := fun s : CfState => ∃ store : CfStore, store.toCfState = s)
    (fun _ _ _ ⟨store, hstore⟩ hstep => exists_store_of_reduceCf store (hstore ▸ hstep))
    ⟨s, rfl⟩ h

end Reducers

end Stratos
