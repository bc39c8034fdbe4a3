import Stratos.Frontend.Pagination

/-!
# The request info and the request data

Per type of entity and guid the store keeps what is going on with the entity
(`RequestInfoState`), and the entity itself. The reducers of the two slices
(`api-request-reducer/*.ts`, `request-data-reducer.factory.ts`) read the request actions that
every effect dispatches.

The responses carried by the actions are not modelled : of the request data only what
removes an entity is.
-/

open Lib

namespace Stratos

/-! ## Slices -/

/-- Objects by type of entity and guid. -/
abbrev EntitySlices (α : Type) := JsObject (JsObject α)

section Slices

variable {α : Type}

/-- `state[entityKey][guid]`. -/
def getEntity (state : EntitySlices α) (entityKey guid : String) : Option α :=
  (state.get? entityKey).bind (·.get? guid)

/-- The slices of both, where the new entities count. -/
def mergeState (state newState : EntitySlices α) : EntitySlices α :=
  newState.ownKeys.foldl (fun baseState entityKey =>
    baseState.set entityKey (((baseState.get? entityKey).getD JsObject.empty).spread
      ((newState.get? entityKey).getD JsObject.empty))) state

theorem get?_mergeState (state newState : EntitySlices α) (entityKey : String) :
    (mergeState state newState).get? entityKey =
      match newState.get? entityKey with
      | some new => some (((state.get? entityKey).getD JsObject.empty).spread new)
      | none => state.get? entityKey := by
  have hfold : ∀ (ks : List String) (base : EntitySlices α), ks.Nodup →
      (ks.foldl (fun baseState entityKey =>
        baseState.set entityKey (((baseState.get? entityKey).getD JsObject.empty).spread
          ((newState.get? entityKey).getD JsObject.empty))) base).get? entityKey =
        if entityKey ∈ ks then some (((base.get? entityKey).getD JsObject.empty).spread
          ((newState.get? entityKey).getD JsObject.empty)) else base.get? entityKey := by
    intro ks
    induction ks with
    | nil => exact fun _ _ => rfl
    | cons k ks ih =>
      intro base hnd
      obtain ⟨hnot, hnd⟩ := List.nodup_cons.1 hnd
      rw [List.foldl_cons, ih _ hnd, JsObject.get?_set]
      by_cases hk : entityKey = k
      · subst hk
        simp [hnot]
      · simp [hk]
  rw [mergeState, hfold _ _ (JsObject.nodup_ownKeys _)]
  cases h : newState.get? entityKey with
  | none => simp [JsObject.get?_eq_none_iff.1 h]
  | some new => simp [JsObject.mem_keys_of_get? h]

theorem getEntity_mergeState (state newState : EntitySlices α) (entityKey guid : String) :
    getEntity (mergeState state newState) entityKey guid =
      (getEntity newState entityKey guid).or (getEntity state entityKey guid) := by
  rw [getEntity, get?_mergeState, getEntity, getEntity]
  cases newState.get? entityKey with
  | none => rfl
  | some new =>
    cases state.get? entityKey <;> simp [JsObject.get?_spread]

theorem getEntity_set (state : EntitySlices α) (entityKey entityKey' guid : String)
    (slice : JsObject α) : getEntity (state.set entityKey slice) entityKey' guid =
      if entityKey' = entityKey then slice.get? guid else getEntity state entityKey' guid := by
  rw [getEntity, JsObject.get?_set]
  split_ifs <;> rfl

end Slices

/-! ## The request info -/

/-- The key of an update that has none. -/
def rootUpdatingKey : String := "_root_"

/-- The progress of a deletion. -/
structure DeleteActionState extends ActionState where
  deleted : Bool
  deriving DecidableEq

/-- Nothing goes on. -/
def getDefaultActionState : ActionState where
  busy := false
  error := false
  message := ""

/-- Nothing is deleted. -/
def defaultDeletingActionState : DeleteActionState where
  busy := false
  error := false
  message := ""
  deleted := false

/-- What goes on with an entity. -/
structure RequestInfoState where
  fetching : Bool
  /-- What is going on with the updates of the entity, by the key of the update. -/
  updating : JsObject ActionState
  creating : Bool
  deleting : DeleteActionState
  error : Bool
  message : String
  deriving DecidableEq

/-- An entity that nothing was requested of. -/
def getDefaultRequestState : RequestInfoState where
  fetching := false
  updating := JsObject.empty.set rootUpdatingKey getDefaultActionState
  creating := false
  error := false
  deleting := defaultDeletingActionState
  message := ""

/-- What goes on with the entities, by type and guid. -/
abbrev IRequestTypeState := EntitySlices RequestInfoState

/-- The info of an entity, or the default. -/
def requestInfo (state : IRequestTypeState) (entityKey guid : String) : RequestInfoState :=
  (getEntity state entityKey guid).getD getDefaultRequestState

/-! ## Request actions -/

/-- What a request does. -/
inductive ApiRequestTypes
  | fetch
  | update
  | create
  | delete
  deriving DecidableEq

/-- The guid of a request action. A class can have a method of the name, and an effect that
passes `action.guid` then passes the function. -/
inductive ActionGuid
  | text (s : String)
  | method (source : String)
  deriving DecidableEq

/-- The property a guid names : a function is converted to its source text. -/
def ActionGuid.key : ActionGuid → String
  | text s => s
  | method source => source

/-- `!!guid`. -/
def ActionGuid.truthy : ActionGuid → Bool
  | text s => s ≠ ""
  | method _ => true

/-- The entity that a request is about, and the update if it is one. -/
structure IRequestAction where
  entityKey : String
  guid : ActionGuid
  /-- The key of an update, never empty. -/
  updatingKey : Option String
  deriving DecidableEq

/-- Throws when there is no slice for the type of entity. -/
def getEntityRequestState (state : IRequestTypeState) (action : IRequestAction) :
    Option RequestInfoState := do
  let slice ← state.get? action.entityKey
  return (slice.get? action.guid.key).getD getDefaultRequestState

/-- The info of the entity of the action replaced. -/
def setEntityRequestState (state : IRequestTypeState) (requestState : RequestInfoState)
    (action : IRequestAction) : IRequestTypeState :=
  mergeState state
    (JsObject.empty.set action.entityKey (JsObject.empty.set action.guid.key requestState))

/-- The progress of the update of the action replaced. -/
def mergeUpdatingState (apiAction : IRequestAction) (updatingState : JsObject ActionState)
    (newUpdatingState : ActionState) : JsObject ActionState :=
  updatingState.set (apiAction.updatingKey.getD rootUpdatingKey) newUpdatingState

/-- The flag of the request set, and those of other types kept. -/
def modifyRequestWithRequestType (requestState : RequestInfoState)
    (type : Option ApiRequestTypes) : RequestInfoState :=
  match type with
  | some .fetch => { requestState with fetching := true }
  | some .create => { requestState with creating := true }
  | some .delete =>
    { requestState with deleting := { defaultDeletingActionState with busy := true } }
  | _ => requestState

/-- The info of an entity whose request starts. -/
def startedState (apiAction : IRequestAction) (requestType : Option ApiRequestTypes)
    (requestState : RequestInfoState) : RequestInfoState :=
  if apiAction.updatingKey.isSome then
    { requestState with
      updating := mergeUpdatingState apiAction requestState.updating ⟨true, false, ""⟩ }
  else modifyRequestWithRequestType requestState requestType

/-- The info of an entity whose request succeeds. -/
def succeededState (apiAction : IRequestAction) (requestType : Option ApiRequestTypes)
    (requestState : RequestInfoState) : RequestInfoState :=
  if apiAction.updatingKey.isSome then
    { requestState with
      updating := mergeUpdatingState apiAction requestState.updating ⟨false, false, ""⟩ }
  else if requestType = some .delete then
    { requestState with
      deleting := { requestState.deleting with busy := false, deleted := true } }
  else { requestState with fetching := false, error := false, creating := false }

/-- The info of an entity whose request fails. -/
def failedState (apiAction : IRequestAction) (requestType : Option ApiRequestTypes)
    (message : String) (requestState : RequestInfoState) : RequestInfoState :=
  if apiAction.updatingKey.isSome then
    { requestState with
      updating := mergeUpdatingState apiAction requestState.updating ⟨false, true, message⟩ }
  else if requestType = some .delete then
    { requestState with
      deleting := { requestState.deleting with busy := false, deleted := false, error := true }
      message := message }
  else
    { requestState with fetching := false, error := true, creating := false, message := message }

/-- The info when a request starts. -/
def startRequest (state : IRequestTypeState) (apiAction : IRequestAction)
    (requestType : Option ApiRequestTypes) : Option IRequestTypeState :=
  if ¬apiAction.guid.truthy then some state
  else do
    let requestState ← getEntityRequestState state apiAction
    return setEntityRequestState state (startedState apiAction requestType requestState) apiAction

/-- A success without a response. -/
def succeedRequest (state : IRequestTypeState) (apiAction : IRequestAction)
    (requestType : Option ApiRequestTypes) : Option IRequestTypeState :=
  if apiAction.guid.truthy then do
    let requestState ← getEntityRequestState state apiAction
    return mergeState state
      (setEntityRequestState state (succeededState apiAction requestType requestState) apiAction)
  else some state

/-- The info when a request fails. -/
def failRequest (state : IRequestTypeState) (apiAction : IRequestAction)
    (requestType : Option ApiRequestTypes) (message : String) : Option IRequestTypeState :=
  if apiAction.guid.truthy then do
    let requestState ← getEntityRequestState state apiAction
    return setEntityRequestState state (failedState apiAction requestType message requestState)
      apiAction
  else some state

/-! ## The request data -/

/-- `entityGuid !== guid`, of a property and the guid of an action : a function equals no
property. -/
def ActionGuid.names (guid : ActionGuid) (entityGuid : String) : Bool :=
  match guid with
  | .text s => s = entityGuid
  | .method _ => false

/-- The entities of a type without one. -/
def deleteEntity {α : Type} (state : EntitySlices α) (entityKey : String) (guid : ActionGuid) :
    EntitySlices α :=
  match state.get? entityKey with
  | none => state
  | some slice =>
    state.set entityKey
      (slice.ownKeys.foldl (fun newSlice entityGuid =>
        match slice.get? entityGuid with
        | some entity => if guid.names entityGuid then newSlice else newSlice.set entityGuid entity
        | none => newSlice) JsObject.empty)

/-! ## What the reducers do -/

section Spec

variable {state state' : IRequestTypeState} {apiAction : IRequestAction}
  {requestType : Option ApiRequestTypes}

theorem getEntityRequestState_eq {rs : RequestInfoState}
    (h : getEntityRequestState state apiAction = some rs) :
    rs = requestInfo state apiAction.entityKey apiAction.guid.key := by
  obtain ⟨slice, hslice, h⟩ := Option.bind_eq_some_iff.1 h
  obtain rfl := Option.some.inj h
  rw [requestInfo, getEntity, hslice, Option.bind_some]

theorem getEntity_setEntityRequestState (rs : RequestInfoState) (entityKey guid : String) :
    getEntity (setEntityRequestState state rs apiAction) entityKey guid =
      if entityKey = apiAction.entityKey ∧ guid = apiAction.guid.key then some rs
      else getEntity state entityKey guid := by
  rw [setEntityRequestState, getEntity_mergeState, getEntity_set, JsObject.get?_set]
  by_cases hk : entityKey = apiAction.entityKey
  · by_cases hg : guid = apiAction.guid.key <;> simp [hk, hg]
  · simp [hk, getEntity]

theorem requestInfo_setEntityRequestState (rs : RequestInfoState) (entityKey guid : String) :
    requestInfo (setEntityRequestState state rs apiAction) entityKey guid =
      if entityKey = apiAction.entityKey ∧ guid = apiAction.guid.key then rs
      else requestInfo state entityKey guid := by
  rw [requestInfo, getEntity_setEntityRequestState]
  split_ifs <;> rfl

/-- A start changes the info of its entity. -/
theorem requestInfo_startRequest (h : startRequest state apiAction requestType = some state')
    (htruthy : apiAction.guid.truthy = true) (entityKey guid : String) :
    requestInfo state' entityKey guid =
      if entityKey = apiAction.entityKey ∧ guid = apiAction.guid.key then
        startedState apiAction requestType (requestInfo state entityKey guid)
      else requestInfo state entityKey guid := by
  rw [startRequest, htruthy] at h
  obtain ⟨rs, hrs, h⟩ := Option.bind_eq_some_iff.1 h
  obtain rfl := Option.some.inj h
  obtain rfl := getEntityRequestState_eq hrs
  rw [requestInfo_setEntityRequestState]
  split_ifs with hk
  · rw [hk.1, hk.2]
  · rfl

/-- A success changes the info of its entity. -/
theorem requestInfo_succeedRequest (h : succeedRequest state apiAction requestType = some state')
    (htruthy : apiAction.guid.truthy = true) (entityKey guid : String) :
    requestInfo state' entityKey guid =
      if entityKey = apiAction.entityKey ∧ guid = apiAction.guid.key then
        succeededState apiAction requestType (requestInfo state entityKey guid)
      else requestInfo state entityKey guid := by
  rw [succeedRequest, if_pos htruthy] at h
  obtain ⟨rs, hrs, h⟩ := Option.bind_eq_some_iff.1 h
  obtain rfl := Option.some.inj h
  obtain rfl := getEntityRequestState_eq hrs
  rw [requestInfo, getEntity_mergeState, getEntity_setEntityRequestState]
  split_ifs with hk
  · rw [hk.1, hk.2]
    rfl
  · rw [Option.or_self]
    rfl

/-- A failure changes the info of its entity. -/
theorem requestInfo_failRequest {message : String}
    (h : failRequest state apiAction requestType message = some state')
    (htruthy : apiAction.guid.truthy = true) (entityKey guid : String) :
    requestInfo state' entityKey guid =
      if entityKey = apiAction.entityKey ∧ guid = apiAction.guid.key then
        failedState apiAction requestType message (requestInfo state entityKey guid)
      else requestInfo state entityKey guid := by
  rw [failRequest, if_pos htruthy] at h
  obtain ⟨rs, hrs, h⟩ := Option.bind_eq_some_iff.1 h
  obtain rfl := Option.some.inj h
  obtain rfl := getEntityRequestState_eq hrs
  rw [requestInfo_setEntityRequestState]
  split_ifs with hk
  · rw [hk.1, hk.2]
  · rfl

/-- Without a guid the request info stays. -/
theorem startRequest_of_not_truthy (htruthy : apiAction.guid.truthy = false) :
    startRequest state apiAction requestType = some state := by
  simp [startRequest, htruthy]

theorem succeedRequest_of_not_truthy (htruthy : apiAction.guid.truthy = false) :
    succeedRequest state apiAction requestType = some state := by
  simp [succeedRequest, htruthy]

theorem failRequest_of_not_truthy (htruthy : apiAction.guid.truthy = false) (message : String) :
    failRequest state apiAction requestType message = some state := by
  simp [failRequest, htruthy]

theorem getEntity_deleteEntity {α : Type} (state : EntitySlices α) (entityKey : String)
    (guid : ActionGuid) (entityKey' entityGuid : String) :
    getEntity (deleteEntity state entityKey guid) entityKey' entityGuid =
      if entityKey' = entityKey ∧ guid.names entityGuid = true then none
      else getEntity state entityKey' entityGuid := by
  rw [deleteEntity]
  cases hslice : state.get? entityKey with
  | none =>
    by_cases hk : entityKey' = entityKey
    · simp [hk, getEntity, hslice]
    · simp [hk]
  | some slice =>
    have hfold : ∀ (ks : List String) (newSlice : JsObject α),
        (ks.foldl (fun newSlice g =>
          match slice.get? g with
          | some entity => if guid.names g then newSlice else newSlice.set g entity
          | none => newSlice) newSlice).get? entityGuid =
          if entityGuid ∈ ks ∧ guid.names entityGuid = false then
            (slice.get? entityGuid).or (newSlice.get? entityGuid)
          else newSlice.get? entityGuid := by
      intro ks
      induction ks with
      | nil => simp
      | cons k ks ih =>
        intro newSlice
        rw [List.foldl_cons, ih]
        by_cases hk : entityGuid = k
        · subst hk
          cases hget : slice.get? entityGuid <;>
            by_cases hn : guid.names entityGuid = true <;> simp [hn]
        · cases hget : slice.get? k <;> by_cases hn : guid.names k = true <;>
            simp [hn, hk, JsObject.get?_set]
    rw [getEntity_set, hfold]
    by_cases hk : entityKey' = entityKey
    · subst hk
      by_cases hmem : entityGuid ∈ slice.keys
      · by_cases hn : guid.names entityGuid = true <;> simp [hmem, hn, getEntity, hslice]
      · simp [hmem, getEntity, hslice, JsObject.get?_eq_none_iff.2 hmem]
    · simp [hk]

end Spec

end Stratos
