import Stratos.Frontend.EndpointEffects

/-!
# The endpoint store and what the backend did

What the backend did with an endpoint is read off the answers to the operations
(`backendEntity`), and the store agrees with it (`StoreAgrees`) when every endpoint without
an operation in flight is what the backend made of it, when exactly the unregistered
endpoints have left the lists, and when the request info of an endpoint says of its last
operation whether it failed and that nothing is busy.

A refused operation is recorded as one that succeeded, and an unregistered endpoint stays
(`not_storeAgrees_unregister`). `storeAgrees_of_run` says that every sequence of operations
agrees with the backend when all of them succeed and only unrecorded endpoints are
unregistered.
-/

open Lib

namespace Stratos

/-! ## What the backend did -/

/-- The entity of an endpoint after an answer. A registration asks for the info of the system
again, which marks an endpoint without a status. -/
def afterAnswer (guid : String) (entity : Option EndpointModel) :
    EndpointOperation × Bool → Option EndpointModel
  | (.connect g _ _, true) =>
    if g = guid then some (EndpointModel.withStatus entity .connected) else entity
  | (.disconnect g _, true) =>
    if g = guid then some (EndpointModel.withStatus entity .disconnected) else entity
  | (.unregister g _ _, true) => if g = guid then none else entity
  | (.register _ _, true) => entity.map EndpointModel.checked
  | _ => entity

/-- The entity of an endpoint after the answers, the last one first. -/
def backendEntity (guid : String) (entity : Option EndpointModel)
    (log : List (EndpointOperation × Bool)) : Option EndpointModel :=
  log.foldr (fun answered entity => afterAnswer guid entity answered) entity

/-- A section of the pagination of endpoints has the endpoint on a page. -/
def ListsEndpoint (state : PaginationState) (key page guid : String) : Prop :=
  ∃ sections entityState ids, state.get? endpointSchemaKey = some sections ∧
    sections.get? key = some entityState ∧ entityState.ids.get? page = some (some ids) ∧
    guid ∈ ids

/-- A part of the request info of an endpoint : an update, or the deletion. -/
structure InfoSection where
  guid : String
  updatingKey : Option String
  deriving DecidableEq

/-- What the info of an entity says about an update, or about the deletion. -/
def RequestInfoState.about (requestState : RequestInfoState) : Option String → ActionState
  | some key => (requestState.updating.get? key).getD getDefaultActionState
  | none => requestState.deleting.toActionState

/-- What the request info says in a section. -/
def sectionInfo (state : IRequestTypeState) (sec : InfoSection) : ActionState :=
  (requestInfo state endpointSchemaKey sec.guid).about sec.updatingKey

namespace EndpointOperation

/-- The section that is about the operation. -/
def infoSection : EndpointOperation → InfoSection
  | connect guid _ _ => ⟨guid, some connectingKey⟩
  | disconnect guid _ => ⟨guid, some disconnectingKey⟩
  | unregister guid1 _ _ => ⟨guid1, none⟩
  | updateregister name _ => ⟨newEndpointGuid name, none⟩
  | register name _ => ⟨newEndpointGuid name, some registeringKey⟩

/-- The operation sets the status of the endpoint. -/
def SetsStatus (guid : String) : EndpointOperation → Prop
  | connect g _ _ | disconnect g _ => g = guid
  | _ => False

/-- The operation unregisters the endpoint. -/
def Unregisters (guid : String) : EndpointOperation → Prop
  | unregister g _ _ => g = guid
  | _ => False

/-- The request action of the operation writes the section. -/
def Writes (source : String) (sec : InfoSection) (op : EndpointOperation) : Prop :=
  ∃ r, endpointRequest source op = some r ∧ r.apiAction.guid.truthy = true ∧
    sec = ⟨r.apiAction.guid.key, r.apiAction.updatingKey⟩

/-- The operation is about the section, or its request action is. -/
def Reports (source : String) (sec : InfoSection) (op : EndpointOperation) : Prop :=
  op.infoSection = sec ∨ op.Writes source sec

end EndpointOperation

/-- Whether the last answered operation of the section succeeded. -/
def lastAnswer (sec : InfoSection) (log : List (EndpointOperation × Bool)) : Option Bool :=
  (log.find? fun answered => answered.1.infoSection = sec).map Prod.snd

/-- The store agrees with what the backend did since it was `s₀`. -/
structure StoreAgrees (source : String) (s₀ : EndpointStore) (sys : EndpointSystem) : Prop where
  /-- An endpoint without an operation in flight is what the backend made of it. -/
  entity : ∀ guid ≠ "", (∀ op ∈ sys.pending, ¬op.SetsStatus guid) →
    getEntity sys.store.requestData endpointSchemaKey guid =
      backendEntity guid (getEntity s₀.requestData endpointSchemaKey guid) sys.log
  /-- The lists have lost the endpoints that were unregistered. -/
  listed : ∀ key page guid, ListsEndpoint sys.store.pagination key page guid ↔
    ListsEndpoint s₀.pagination key page guid ∧
      ∀ op, (op, true) ∈ sys.log → ¬op.Unregisters guid
  /-- Nothing is busy without an operation in flight. -/
  busy : ∀ sec, (∀ op ∈ sys.pending, ¬op.Reports source sec) →
    (sectionInfo sys.store.request sec).busy = false
  /-- The info says whether the last operation failed. -/
  error : ∀ sec, (∀ op ∈ sys.pending, ¬op.Reports source sec) →
    ∀ succeeded, lastAnswer sec sys.log = some succeeded →
      (sectionInfo sys.store.request sec).error = !succeeded

/-- No section says busy or error. -/
def Quiet (s : EndpointStore) : Prop :=
  ∀ sec, (sectionInfo s.request sec).busy = false ∧ (sectionInfo s.request sec).error = false

/-- The system before the first operation. -/
def EndpointSystem.start (s : EndpointStore) : EndpointSystem := ⟨s, [], false, []⟩

/-- The operation that is answered succeeds, and an endpoint that is unregistered is neither
recorded nor listed. -/
def EventAgrees (source : String) (sys : EndpointSystem) : EndpointEvent → Prop
  | .dispatch _ => True
  | .answer i a => ∀ op, sys.pending[i]? = some op → (endpointRequest source op).isSome →
    a = .success ∧ ∀ guid, op.Unregisters guid →
      getEntity sys.store.requestData endpointSchemaKey guid = none ∧
        ∀ key page, ¬ListsEndpoint sys.store.pagination key page guid

/-- Every event of the sequence agrees when it happens. -/
def EventsAgree (source : String) : List EndpointEvent → EndpointSystem → Prop
  | [], _ => True
  | e :: events, sys => EventAgrees source sys e ∧
    ∀ sys', endpointStep source sys e = some sys' → EventsAgree source events sys'

/-! ## The reducers -/

section Reducers

variable {s s' : EndpointStore} {action : EndpointStoreAction}

theorem reduceEndpoint_cases (h : reduceEndpoint s action = some s') :
    requestReducer s.request action = some s'.request ∧
      requestDataReducer s.requestData action = some s'.requestData ∧
      paginationReducer s.pagination action = some s'.pagination := by
  obtain ⟨request, hrequest, h⟩ := Option.bind_eq_some_iff.1 h
  obtain ⟨data, hdata, h⟩ := Option.bind_eq_some_iff.1 h
  obtain ⟨pagination, hpagination, h⟩ := Option.bind_eq_some_iff.1 h
  obtain rfl := Option.some.inj h
  exact ⟨hrequest, hdata, hpagination⟩

theorem get?_fetchingEndpointInfo (state : JsObject EndpointModel) (guid : String) :
    (fetchingEndpointInfo state).get? guid = (state.get? guid).map EndpointModel.checked := by
  refine (JsObject.get?_foldl (g := fun _ => Option.map EndpointModel.checked) ?_
    (JsObject.nodup_ownKeys _) _ _).trans ?_
  · intro fetchingState key guid
    cases hget : fetchingState.get? key with
    | none => by_cases hkey : guid = key <;> simp [hkey, hget]
    | some entity => simp [JsObject.get?_set]
  · split_ifs with hmem
    · rfl
    · rw [JsObject.mem_ownKeys] at hmem
      rw [JsObject.get?_eq_none_iff.2 hmem]
      rfl

theorem get?_changeEndpointConnectionStatus (state : JsObject EndpointModel) (guid : ActionGuid)
    (status : EndpointConnectionStatus) {g : String} (hg : g ≠ "") :
    (changeEndpointConnectionStatus state guid status).get? g =
      if guid.key = g ∧ guid.truthy = true then
        some (EndpointModel.withStatus (state.get? g) status)
      else state.get? g := by
  unfold changeEndpointConnectionStatus
  by_cases ht : guid.truthy = true
  · by_cases hk : guid.key = g
    · subst hk
      simp [ht]
    · have hk' : ¬g = guid.key := fun h => hk h.symm
      simp [ht, hk, JsObject.get?_set, hk']
  · simp [ht]

/-- What an action makes of the entity of an endpoint. -/
def dataAfter (guid : String) (entity : Option EndpointModel) :
    EndpointStoreAction → Option EndpointModel
  | .getSystemInfo => entity.map EndpointModel.checked
  | .outcome .connectFailed g _ | .outcome .disconnectSuccess g _ =>
    if g.key = guid ∧ g.truthy = true then some (EndpointModel.withStatus entity .disconnected)
    else entity
  | .outcome .disconnectFailed g _ | .outcome .connectSuccess g _ =>
    if g.key = guid ∧ g.truthy = true then some (EndpointModel.withStatus entity .connected)
    else entity
  | .operation (.connect g _ _) | .operation (.disconnect g _) =>
    if g = guid then some (EndpointModel.withStatus entity .checking) else entity
  | .wrapperRequestActionSuccess apiAction requestType =>
    if apiAction.updatingKey = none ∧ requestType = some .delete ∧
        apiAction.entityKey = endpointSchemaKey ∧ apiAction.guid.names guid = true then none
    else entity
  | _ => entity

theorem getEntity_reduceEndpoint (h : reduceEndpoint s action = some s') {guid : String}
    (hguid : guid ≠ "") : getEntity s'.requestData endpointSchemaKey guid =
      dataAfter guid (getEntity s.requestData endpointSchemaKey guid) action := by
  obtain ⟨-, h, -⟩ := reduceEndpoint_cases h
  obtain ⟨endpoints, hget, h⟩ := Option.bind_eq_some_iff.1 h
  rw [← Option.some.inj h, getEntity_set, if_pos rfl]
  have hentity : endpoints.get? guid =
      getEntity (entitiesReducer s.requestData action) endpointSchemaKey guid := by
    rw [getEntity, hget, Option.bind_some]
  cases action with
  | operation op =>
    have hdata : endpoints.get? guid = getEntity s.requestData endpointSchemaKey guid := hentity
    cases op with
    | connect g t sso | disconnect g t =>
      rw [systemEndpointsReducer, get?_changeEndpointConnectionStatus _ _ _ hguid, hdata,
        dataAfter, ActionGuid.key]
      by_cases hg : g = guid
      · subst hg
        simp [ActionGuid.truthy, hguid]
      · simp [hg]
    | unregister | updateregister | register => exact hentity
  | startRequestAction => exact hentity
  | outcome type g t =>
    have hdata : endpoints.get? guid = getEntity s.requestData endpointSchemaKey guid := hentity
    cases type with
    | connectSuccess | connectFailed | disconnectSuccess | disconnectFailed =>
      rw [systemEndpointsReducer, get?_changeEndpointConnectionStatus _ _ _ hguid, hdata,
        dataAfter]
    | registerSuccess | registerFailed | unregisterSuccess | unregisterFailed => exact hentity
  | clearPaginationOfEntity => exact hentity
  | getSystemInfo =>
    have hdata : endpoints.get? guid = getEntity s.requestData endpointSchemaKey guid := hentity
    rw [systemEndpointsReducer, get?_fetchingEndpointInfo, hdata, dataAfter]
  | wrapperRequestActionSuccess apiAction requestType =>
    rw [systemEndpointsReducer, hentity, entitiesReducer, dataAfter]
    · by_cases hdelete : apiAction.updatingKey.isNone ∧ requestType = some .delete
      · rw [if_pos hdelete, getEntity_deleteEntity]
        rw [Option.isNone_iff_eq_none] at hdelete
        refine if_congr ?_ rfl rfl
        rw [eq_comm (a := endpointSchemaKey)]
        exact ⟨fun h => ⟨hdelete.1, hdelete.2, h⟩, fun h => h.2.2⟩
      · rw [if_neg hdelete, if_neg]
        simp only [Option.isNone_iff_eq_none] at hdelete
        exact fun h => hdelete ⟨h.1, h.2.1⟩
    all_goals simp

/-- The lists of endpoints stay, unless an endpoint with a guid is taken out of them. -/
theorem pagination_reduceEndpoint (h : reduceEndpoint s action = some s')
    (haction : ∀ entityKey guid, action ≠ .clearPaginationOfEntity entityKey (.text guid)) :
    s'.pagination.get? endpointSchemaKey = s.pagination.get? endpointSchemaKey := by
  have hclear : ∀ (state : PaginationState) (t : Option EndpointType),
      (clearEndpointEntities state t).get? endpointSchemaKey = state.get? endpointSchemaKey := by
    have htype : ∀ (state : PaginationState) (key : String), key ≠ endpointSchemaKey →
        (paginationClearType state key).get? endpointSchemaKey = state.get? endpointSchemaKey := by
      intro state key hkey
      unfold paginationClearType
      split
      · rw [JsObject.get?_set, if_neg hkey.symm]
      · rfl
    intro state t
    unfold clearEndpointEntities
    split_ifs
    · simp only [List.foldl_cons, List.foldl_nil]
      rw [htype _ _ (by decide), htype _ _ (by decide), htype _ _ (by decide),
        htype _ _ (by decide), htype _ _ (by decide), htype _ _ (by decide)]
    · rfl
  obtain ⟨-, -, h⟩ := reduceEndpoint_cases h
  unfold paginationReducer at h
  split at h
  · exact absurd rfl (haction _ _)
  · unfold paginationClearOfMethod at h
    split at h
    · rw [Option.some.inj h]
    · split_ifs at h
      rw [Option.some.inj h]
  all_goals rw [← Option.some.inj h]
  all_goals exact hclear _ _

end Reducers

/-! ## The request info -/

section Info

variable {source : String} {op : EndpointOperation} {r : DoEndpointAction}
  {state state' : IRequestTypeState}

theorem about_startedState {apiAction : IRequestAction} {requestType : Option ApiRequestTypes}
    (h : apiAction.updatingKey.isSome ∨ requestType = some .delete) (rs : RequestInfoState)
    (k : Option String) : (startedState apiAction requestType rs).about k =
      if k = apiAction.updatingKey then ⟨true, false, ""⟩ else rs.about k := by
  unfold startedState
  cases hkey : apiAction.updatingKey with
  | none =>
    rw [hkey] at h
    obtain rfl := h.resolve_left (by simp)
    cases k <;> simp [RequestInfoState.about, modifyRequestWithRequestType,
      defaultDeletingActionState]
  | some key =>
    cases k with
    | none => simp [RequestInfoState.about]
    | some key' =>
      by_cases hk : key' = key <;>
        simp [RequestInfoState.about, mergeUpdatingState, hkey, JsObject.get?_set, hk]

/-- After a success nothing is busy, and no error is new. -/
theorem about_succeededState {apiAction : IRequestAction} {requestType : Option ApiRequestTypes}
    (h : apiAction.updatingKey.isSome ∨ requestType = some .delete) (rs : RequestInfoState)
    (k : Option String) :
    if k = apiAction.updatingKey then
      ((succeededState apiAction requestType rs).about k).busy = false ∧
        ((rs.about k).error = false →
          ((succeededState apiAction requestType rs).about k).error = false)
    else (succeededState apiAction requestType rs).about k = rs.about k := by
  unfold succeededState
  cases hkey : apiAction.updatingKey with
  | none =>
    rw [hkey] at h
    obtain rfl := h.resolve_left (by simp)
    cases k <;> simp [RequestInfoState.about]
  | some key =>
    cases k with
    | none => simp [RequestInfoState.about]
    | some key' =>
      by_cases hk : key' = key <;>
        simp [RequestInfoState.about, mergeUpdatingState, hkey, JsObject.get?_set, hk]

theorem endpointRequest_spec (h : endpointRequest source op = some r) :
    r.apiAction.entityKey = endpointSchemaKey ∧
      (r.apiAction.updatingKey.isSome ∨ r.apiActionType = some .delete) := by
  cases op with
  | connect g t sso =>
    cases sso with
    | true => cases h
    | false =>
      obtain rfl := Option.some.inj h
      exact ⟨rfl, Or.inl rfl⟩
  | disconnect | register =>
    obtain rfl := Option.some.inj h
    exact ⟨rfl, Or.inl rfl⟩
  | unregister | updateregister =>
    obtain rfl := Option.some.inj h
    exact ⟨rfl, Or.inr rfl⟩

/-- The start of a request says busy in the section that it writes. -/
theorem sectionInfo_startRequest (hr : endpointRequest source op = some r)
    (h : startRequest state r.apiAction r.apiActionType = some state') (sec : InfoSection) :
    sectionInfo state' sec = sectionInfo state sec ∨
      op.Writes source sec ∧ (sectionInfo state' sec).error = false := by
  obtain ⟨hentity, htype⟩ := endpointRequest_spec hr
  by_cases htruthy : r.apiAction.guid.truthy = true
  · rw [sectionInfo, sectionInfo, requestInfo_startRequest h htruthy]
    by_cases hguid : endpointSchemaKey = r.apiAction.entityKey ∧ sec.guid = r.apiAction.guid.key
    · rw [if_pos hguid, about_startedState htype]
      by_cases hkey : sec.updatingKey = r.apiAction.updatingKey
      · rw [if_pos hkey]
        exact Or.inr ⟨⟨r, hr, htruthy, by rw [← hguid.2, ← hkey]⟩, rfl⟩
      · exact Or.inl (if_neg hkey)
    · exact Or.inl (by rw [if_neg hguid])
  · rw [startRequest_of_not_truthy (by simpa using htruthy)] at h
    rw [Option.some.inj h]
    exact Or.inl rfl

/-- The success of a request says not busy in the section that it writes. -/
theorem sectionInfo_succeedRequest (hr : endpointRequest source op = some r)
    (h : succeedRequest state r.apiAction r.apiActionType = some state') (sec : InfoSection) :
    ((sectionInfo state sec).error = false → (sectionInfo state' sec).error = false) ∧
      (op.Writes source sec → (sectionInfo state' sec).busy = false) ∧
      (¬op.Writes source sec → sectionInfo state' sec = sectionInfo state sec) := by
  obtain ⟨hentity, htype⟩ := endpointRequest_spec hr
  have hwrites : op.Writes source sec ↔ r.apiAction.guid.truthy = true ∧
      sec.guid = r.apiAction.guid.key ∧ sec.updatingKey = r.apiAction.updatingKey := by
    constructor
    · rintro ⟨r', hr', htruthy, rfl⟩
      obtain rfl := Option.some.inj (hr.symm.trans hr')
      exact ⟨htruthy, rfl, rfl⟩
    · rintro ⟨htruthy, hguid, hkey⟩
      exact ⟨r, hr, htruthy, by rw [← hguid, ← hkey]⟩
  rw [hwrites]
  by_cases htruthy : r.apiAction.guid.truthy = true
  · have hinfo : sectionInfo state' sec = if sec.guid = r.apiAction.guid.key then
        (succeededState r.apiAction r.apiActionType
          (requestInfo state endpointSchemaKey sec.guid)).about sec.updatingKey
        else sectionInfo state sec := by
      rw [sectionInfo, requestInfo_succeedRequest h htruthy]
      by_cases hguid : sec.guid = r.apiAction.guid.key <;> simp [hguid, hentity, sectionInfo]
    have habout := about_succeededState htype (requestInfo state endpointSchemaKey sec.guid)
      sec.updatingKey
    rw [hinfo]
    by_cases hguid : sec.guid = r.apiAction.guid.key
    · rw [if_pos hguid]
      by_cases hkey : sec.updatingKey = r.apiAction.updatingKey
      · rw [if_pos hkey] at habout
        exact ⟨habout.2, fun _ => habout.1, fun hnot => absurd ⟨htruthy, hguid, hkey⟩ hnot⟩
      · rw [if_neg hkey] at habout
        rw [habout]
        exact ⟨id, fun hw => absurd hw.2.2 hkey, fun _ => rfl⟩
    · rw [if_neg hguid]
      exact ⟨id, fun hw => absurd hw.2.1 hguid, fun _ => rfl⟩
  · rw [succeedRequest_of_not_truthy (by simpa using htruthy)] at h
    rw [Option.some.inj h]
    exact ⟨id, fun hw => absurd hw.1 htruthy, fun _ => rfl⟩

end Info

/-! ## Operations and answers -/

section Events

variable {source : String} {s₀ : EndpointStore} {sys sys' : EndpointSystem}
  {op : EndpointOperation}

/-- What a dispatched operation does. -/
theorem dispatchOperation_spec (h : dispatchOperation source sys op = some sys')
    (hrunning : sys.registerEnded = false) :
    sys'.pending = sys.pending ++ [op] ∧ sys'.registerEnded = false ∧ sys'.log = sys.log ∧
      (∀ guid ≠ "", getEntity sys'.store.requestData endpointSchemaKey guid =
        dataAfter guid (getEntity sys.store.requestData endpointSchemaKey guid)
          (.operation op)) ∧
      sys'.store.pagination.get? endpointSchemaKey =
        sys.store.pagination.get? endpointSchemaKey ∧
      ∀ sec, sectionInfo sys'.store.request sec = sectionInfo sys.store.request sec ∨
        op.Writes source sec ∧ (sectionInfo sys'.store.request sec).error = false := by
  obtain ⟨s₁, h₁, h⟩ := Option.bind_eq_some_iff.1 h
  rw [hrunning, if_neg (by simp)] at h
  have hdata : ∀ guid ≠ "", _ := fun _ hguid =>
    getEntity_reduceEndpoint h₁ hguid
  have hpag := pagination_reduceEndpoint h₁ (by simp)
  have hreq : sys.store.request = s₁.request := Option.some.inj (reduceEndpoint_cases h₁).1
  cases hr : endpointRequest source op with
  | none =>
    rw [hr] at h
    obtain rfl := Option.some.inj h
    exact ⟨rfl, rfl, rfl, hdata, hpag, fun sec => Or.inl (by rw [hreq])⟩
  | some r =>
    rw [hr] at h
    obtain ⟨s₂, h₂, h⟩ := Option.bind_eq_some_iff.1 h
    obtain rfl := Option.some.inj h
    refine ⟨rfl, rfl, rfl, fun guid hguid => ?_, ?_, fun sec => ?_⟩
    · rw [getEntity_reduceEndpoint h₂ hguid, hdata guid hguid]
      rfl
    · rw [pagination_reduceEndpoint h₂ (by simp), hpag]
    · rw [hreq]
      exact sectionInfo_startRequest hr (reduceEndpoint_cases h₂).1 sec

theorem foldlM_reduceEndpoint {actions : List EndpointStoreAction} {s s' : EndpointStore}
    (h : actions.foldlM reduceEndpoint s = some s') :
    (∀ guid ≠ "", getEntity s'.requestData endpointSchemaKey guid =
      actions.foldl (dataAfter guid) (getEntity s.requestData endpointSchemaKey guid)) ∧
    ((∀ entityKey guid, .clearPaginationOfEntity entityKey (.text guid) ∉ actions) →
      s'.pagination.get? endpointSchemaKey = s.pagination.get? endpointSchemaKey) ∧
    actions.foldlM requestReducer s.request = some s'.request := by
  induction actions generalizing s with
  | nil =>
    obtain rfl : s = s' := Option.some.inj h
    exact ⟨fun _ _ => rfl, fun _ => rfl, rfl⟩
  | cons action actions ih =>
    obtain ⟨s₁, h₁, h⟩ := Option.bind_eq_some_iff.1 h
    obtain ⟨hdata, hpag, hreq⟩ := ih h
    refine ⟨fun guid hguid => ?_, fun hnot => ?_, ?_⟩
    · rw [hdata guid hguid, getEntity_reduceEndpoint h₁ hguid, List.foldl_cons]
    · rw [hpag fun entityKey guid hmem => hnot entityKey guid (List.mem_cons_of_mem _ hmem)]
      refine pagination_reduceEndpoint h₁ fun entityKey guid heq => hnot entityKey guid ?_
      rw [heq]
      exact List.mem_cons_self
    · rw [List.foldlM_cons, (reduceEndpoint_cases h₁).1]
      exact hreq

/-- What the answer of success does. The unregistered endpoint stays. -/
theorem answerOperation_spec {i : ℕ} {r : DoEndpointAction} (hi : sys.pending[i]? = some op)
    (hr : endpointRequest source op = some r)
    (h : answerOperation source sys i .success = some sys') :
    sys'.pending = sys.pending.eraseIdx i ∧ sys'.registerEnded = sys.registerEnded ∧
      sys'.log = (op, true) :: sys.log ∧
      (∀ guid ≠ "", ¬op.Unregisters guid →
        getEntity sys'.store.requestData endpointSchemaKey guid =
          afterAnswer guid (getEntity sys.store.requestData endpointSchemaKey guid) (op, true)) ∧
      (∀ guid ≠ "", op.Unregisters guid →
        getEntity sys'.store.requestData endpointSchemaKey guid =
          getEntity sys.store.requestData endpointSchemaKey guid) ∧
      sys'.store.pagination.get? endpointSchemaKey =
        sys.store.pagination.get? endpointSchemaKey ∧
      ∀ sec, ((sectionInfo sys.store.request sec).error = false →
          (sectionInfo sys'.store.request sec).error = false) ∧
        (op.Writes source sec → (sectionInfo sys'.store.request sec).busy = false) ∧
        (¬op.Writes source sec →
          sectionInfo sys'.store.request sec = sectionInfo sys.store.request sec) := by
  unfold answerOperation at h
  rw [hi] at h
  dsimp only at h
  rw [hr] at h
  obtain ⟨s', hs', h⟩ := Option.bind_eq_some_iff.1 h
  obtain rfl := Option.some.inj h
  obtain ⟨hdata, hpag, hreq⟩ := foldlM_reduceEndpoint hs'
  have hsucceed : succeedRequest sys.store.request r.apiAction r.apiActionType =
      some s'.request := by
    rw [← hreq]
    split_ifs <;> simp [requestReducer]
  refine ⟨rfl, rfl, rfl, fun guid hguid hnot => ?_, fun guid hguid hun => ?_, hpag ?_,
    fun sec => sectionInfo_succeedRequest hr hsucceed sec⟩
  · rw [hdata guid hguid]
    cases op with
    | connect g t sso =>
      cases sso with
      | true => cases hr
      | false =>
        obtain rfl := Option.some.inj hr
        by_cases hg : g = guid
        · subst hg
          simp [dataAfter, afterAnswer, getEndpointUpdateAction, ActionGuid.key,
            ActionGuid.truthy, hguid]
        · simp [dataAfter, afterAnswer, getEndpointUpdateAction, ActionGuid.key, hg]
    | disconnect g t =>
      obtain rfl := Option.some.inj hr
      by_cases hg : g = guid
      · subst hg
        simp [dataAfter, afterAnswer, getEndpointUpdateAction, ActionGuid.key,
          ActionGuid.truthy, hguid]
      · simp [dataAfter, afterAnswer, getEndpointUpdateAction, ActionGuid.key, hg]
    | unregister g n t =>
      obtain rfl := Option.some.inj hr
      have hg : ¬g = guid := hnot
      simp [dataAfter, afterAnswer, getEndpointDeleteAction, ActionGuid.names, hg]
    | updateregister n t =>
      obtain rfl := Option.some.inj hr
      simp [dataAfter, afterAnswer, getEndpointDeleteAction, ActionGuid.names]
    | register n t =>
      obtain rfl := Option.some.inj hr
      simp [dataAfter, afterAnswer, getEndpointUpdateAction]
  · cases op with
    | unregister g n t =>
      obtain rfl := Option.some.inj hr
      rw [hdata guid hguid]
      simp [dataAfter, getEndpointDeleteAction, ActionGuid.names]
    | connect | disconnect | updateregister | register => exact absurd hun id
  · -- No list is searched for a guid.
    intro entityKey guid hmem
    cases op with
    | connect g t sso =>
      cases sso with
      | true => cases hr
      | false =>
        obtain rfl := Option.some.inj hr
        simp at hmem
    | disconnect | register =>
      obtain rfl := Option.some.inj hr
      simp at hmem
    | unregister | updateregister =>
      obtain rfl := Option.some.inj hr
      simp [getEndpointDeleteAction] at hmem

end Events

/-! ## Sequences of operations -/

section Runs

variable {source : String} {s₀ : EndpointStore} {sys sys' : EndpointSystem}

/-- The status of an endpoint with an operation in flight is being checked, everything else
is what the backend did, and no error is recorded. -/
structure Tracks (source : String) (s₀ : EndpointStore) (sys : EndpointSystem) : Prop where
  entity : ∀ guid ≠ "", ∀ b, backendEntity guid
      (getEntity s₀.requestData endpointSchemaKey guid) sys.log = b →
    getEntity sys.store.requestData endpointSchemaKey guid = b ∨
      (∃ op ∈ sys.pending, op.SetsStatus guid) ∧
        getEntity sys.store.requestData endpointSchemaKey guid =
          some (EndpointModel.withStatus b .checking)
  lists : sys.store.pagination.get? endpointSchemaKey = s₀.pagination.get? endpointSchemaKey
  unlisted : ∀ op, (op, true) ∈ sys.log → ∀ guid, op.Unregisters guid →
    ∀ key page, ¬ListsEndpoint s₀.pagination key page guid
  busy : ∀ sec, (∀ op ∈ sys.pending, ¬op.Writes source sec) →
    (sectionInfo sys.store.request sec).busy = false
  error : ∀ sec, (sectionInfo sys.store.request sec).error = false
  succeeded : ∀ answered ∈ sys.log, answered.2 = true
  running : sys.registerEnded = false

theorem listsEndpoint_congr {state state' : PaginationState}
    (h : state.get? endpointSchemaKey = state'.get? endpointSchemaKey) (key page guid : String) :
    ListsEndpoint state key page guid ↔ ListsEndpoint state' key page guid := by
  rw [ListsEndpoint, h, ListsEndpoint]

theorem withStatus_checked (entity : Option EndpointModel) (status : EndpointConnectionStatus) :
    (EndpointModel.withStatus entity status).checked = EndpointModel.withStatus entity status :=
  rfl

theorem withStatus_withStatus (entity : Option EndpointModel)
    (status status' : EndpointConnectionStatus) :
    EndpointModel.withStatus (some (EndpointModel.withStatus entity status)) status' =
      EndpointModel.withStatus entity status' := by
  cases entity <;> rfl

theorem withStatus_map_checked (entity : Option EndpointModel)
    (status : EndpointConnectionStatus) :
    EndpointModel.withStatus (entity.map EndpointModel.checked) status =
      EndpointModel.withStatus entity status := by
  cases entity with
  | none => rfl
  | some e =>
    simp only [Option.map_some, EndpointModel.checked]
    split_ifs <;> rfl

theorem tracks_dispatch {op : EndpointOperation} (h : Tracks source s₀ sys)
    (hstep : dispatchOperation source sys op = some sys') : Tracks source s₀ sys' := by
  obtain ⟨hpending, hrunning, hlog, hdata, hlists, hinfo⟩ :=
    dispatchOperation_spec hstep h.running
  have hold : ∀ {guid}, (∃ op ∈ sys.pending, op.SetsStatus guid) →
      ∃ op ∈ sys'.pending, op.SetsStatus guid := by
    rintro guid ⟨op', hop', hsets⟩
    exact ⟨op', by rw [hpending]; exact List.mem_append_left _ hop', hsets⟩
  constructor
  · intro guid hguid b hb
    rw [hlog] at hb
    rw [hdata guid hguid]
    by_cases hsets : op.SetsStatus guid
    · -- The dispatched operation marks the endpoint.
      have hmarks : dataAfter guid (getEntity sys.store.requestData endpointSchemaKey guid)
          (.operation op) = some (EndpointModel.withStatus
            (getEntity sys.store.requestData endpointSchemaKey guid) .checking) := by
        cases op with
        | connect g t sso | disconnect g t => exact if_pos hsets
        | unregister | updateregister | register => exact absurd hsets id
      refine Or.inr ⟨⟨op, by rw [hpending]; simp, hsets⟩, ?_⟩
      rw [hmarks]
      rcases h.entity guid hguid b hb with heq | ⟨-, heq⟩
      · rw [heq]
      · rw [heq, withStatus_withStatus]
    · have hsame : dataAfter guid (getEntity sys.store.requestData endpointSchemaKey guid)
          (.operation op) = getEntity sys.store.requestData endpointSchemaKey guid := by
        cases op with
        | connect g t sso | disconnect g t => exact if_neg hsets
        | unregister | updateregister | register => rfl
      rw [hsame]
      exact (h.entity guid hguid b hb).imp_right fun ⟨hex, heq⟩ => ⟨hold hex, heq⟩
  · rw [hlists, h.lists]
  · rw [hlog]
    exact h.unlisted
  · intro sec hsec
    rw [hpending] at hsec
    rcases hinfo sec with heq | ⟨hwrites, -⟩
    · rw [heq]
      exact h.busy sec fun op' hop' => hsec op' (List.mem_append_left _ hop')
    · exact absurd hwrites (hsec op (by simp))
  · intro sec
    rcases hinfo sec with heq | ⟨-, herror⟩
    · rw [heq]
      exact h.error sec
    · exact herror
  · rw [hlog]
    exact h.succeeded
  · exact hrunning

theorem mem_eraseIdx_of_ne {l : List EndpointOperation} {op op' : EndpointOperation} {i : ℕ}
    (hi : l[i]? = some op) (hmem : op' ∈ l) (hne : op' ≠ op) : op' ∈ l.eraseIdx i := by
  obtain ⟨j, hj⟩ := List.mem_iff_getElem?.1 hmem
  refine List.mem_eraseIdx_iff_getElem?.2 ⟨j, ?_, hj⟩
  rintro rfl
  exact hne (Option.some.inj (hj.symm.trans hi))

theorem tracks_answer {i : ℕ} {a : EndpointAnswer} (h : Tracks source s₀ sys)
    (hagrees : EventAgrees source sys (.answer i a))
    (hstep : answerOperation source sys i a = some sys') : Tracks source s₀ sys' := by
  have hidle : sys = sys' → Tracks source s₀ sys' := fun heq => heq ▸ h
  cases hi : sys.pending[i]? with
  | none =>
    rw [answerOperation, hi] at hstep
    exact hidle (Option.some.inj hstep)
  | some op =>
    cases hr : endpointRequest source op with
    | none =>
      rw [answerOperation, hi] at hstep
      dsimp only at hstep
      rw [hr] at hstep
      exact hidle (Option.some.inj hstep)
    | some r =>
      obtain ⟨rfl, hun⟩ := hagrees op hi (by rw [hr]; rfl)
      obtain ⟨hpending, hrunning, hlog, hdata, hstays, hlists, hinfo⟩ :=
        answerOperation_spec hi hr hstep
      -- Another operation on the endpoint is still in flight.
      have hold : ∀ {guid}, ¬op.SetsStatus guid → (∃ op ∈ sys.pending, op.SetsStatus guid) →
          ∃ op ∈ sys'.pending, op.SetsStatus guid := by
        rintro guid hnot ⟨op', hop', hsets⟩
        refine ⟨op', ?_, hsets⟩
        rw [hpending]
        exact mem_eraseIdx_of_ne hi hop' fun heq => hnot (heq ▸ hsets)
      constructor
      · intro guid hguid b hb
        rw [hlog, backendEntity, List.foldr_cons] at hb
        have hb₀ := h.entity guid hguid _ rfl
        rw [backendEntity] at hb₀
        revert hb hb₀
        generalize List.foldr (fun answered entity => afterAnswer guid entity answered)
          (getEntity s₀.requestData endpointSchemaKey guid) sys.log = b₀
        rintro rfl hb₀
        by_cases hunreg : op.Unregisters guid
        · -- The endpoint was not recorded.
          rw [hstays guid hguid hunreg, (hun guid hunreg).1]
          cases op with
          | unregister g n t =>
            have hg : g = guid := hunreg
            simp [afterAnswer, hg]
          | connect | disconnect | updateregister | register => exact absurd hunreg id
        · rw [hdata guid hguid hunreg]
          by_cases hsets : op.SetsStatus guid
          · -- Whatever was in flight, the answer sets the status.
            have hset : ∀ status, EndpointModel.withStatus
                (getEntity sys.store.requestData endpointSchemaKey guid) status =
                EndpointModel.withStatus b₀ status := by
              intro status
              rcases hb₀ with heq | ⟨-, heq⟩
              · rw [heq]
              · rw [heq, withStatus_withStatus]
            refine Or.inl ?_
            cases op with
            | connect g t sso | disconnect g t =>
              have hg : g = guid := hsets
              simp [afterAnswer, hg, hset]
            | unregister | updateregister | register => exact absurd hsets id
          · rcases hb₀ with heq | ⟨hex, heq⟩
            · exact Or.inl (by rw [heq])
            · refine Or.inr ⟨hold hsets hex, ?_⟩
              rw [heq]
              cases op with
              | connect g t sso | disconnect g t =>
                have hg : ¬g = guid := hsets
                simp [afterAnswer, hg]
              | unregister g n t =>
                have hg : ¬g = guid := hunreg
                simp [afterAnswer, hg]
              | updateregister => rfl
              | register =>
                rw [afterAnswer, afterAnswer, Option.map_some, withStatus_checked,
                  withStatus_map_checked]
      · rw [hlists, h.lists]
      · intro op' hop' guid hunreg key page
        rw [hlog] at hop'
        rcases List.mem_cons.1 hop' with heq | hop'
        · obtain rfl := (Prod.mk.inj heq).1
          rw [← listsEndpoint_congr h.lists]
          exact (hun guid hunreg).2 key page
        · exact h.unlisted op' hop' guid hunreg key page
      · intro sec hsec
        by_cases hwrites : op.Writes source sec
        · exact (hinfo sec).2.1 hwrites
        · rw [(hinfo sec).2.2 hwrites]
          refine h.busy sec fun op' hop' hwrites' => hsec op' ?_ hwrites'
          rw [hpending]
          exact mem_eraseIdx_of_ne hi hop' fun heq => hwrites (heq ▸ hwrites')
      · exact fun sec => (hinfo sec).1 (h.error sec)
      · intro answered hmem
        rw [hlog] at hmem
        rcases List.mem_cons.1 hmem with rfl | hmem
        · rfl
        · exact h.succeeded answered hmem
      · rw [hrunning, h.running]

theorem tracks_of_run {events : List EndpointEvent} (h : Tracks source s₀ sys)
    (hagree : EventsAgree source events sys) (hrun : runEndpoints source events sys = some sys') :
    Tracks source s₀ sys' := by
  induction events generalizing sys with
  | nil =>
    obtain rfl : sys = sys' := Option.some.inj hrun
    exact h
  | cons e events ih =>
    obtain ⟨sys₁, hstep, hrun⟩ := Option.bind_eq_some_iff.1 hrun
    refine ih ?_ (hagree.2 sys₁ hstep) hrun
    cases e with
    | dispatch op => exact tracks_dispatch h hstep
    | answer i a => exact tracks_answer h hagree.1 hstep

theorem tracks_start (hquiet : Quiet s₀) : Tracks source s₀ (EndpointSystem.start s₀) where
  entity _ _ _ hb := Or.inl hb
  lists := rfl
  unlisted _ hmem := absurd hmem List.not_mem_nil
  busy sec _ := (hquiet sec).1
  error sec := (hquiet sec).2
  succeeded _ hmem := absurd hmem List.not_mem_nil
  running := rfl

theorem Tracks.storeAgrees (h : Tracks source s₀ sys) : StoreAgrees source s₀ sys where
  entity guid hguid hidle := by
    rcases h.entity guid hguid _ rfl with heq | ⟨⟨op, hop, hsets⟩, -⟩
    · exact heq
    · exact absurd hsets (hidle op hop)
  listed key page guid := by
    rw [listsEndpoint_congr h.lists]
    refine ⟨fun hlists => ⟨hlists, fun op hop hun => ?_⟩, And.left⟩
    exact h.unlisted op hop guid hun key page hlists
  busy sec hidle := h.busy sec fun op hop hwrites => hidle op hop (Or.inr hwrites)
  error sec _ succeeded hlast := by
    obtain ⟨answered, hfind, rfl⟩ := Option.map_eq_some_iff.1 hlast
    rw [h.error sec, h.succeeded answered (List.mem_of_find?_eq_some hfind)]
    rfl

/-- Every sequence of operations on a quiet store, with its answers in any order, leaves a
store that agrees with the backend when no answer is a failure and no recorded endpoint is
unregistered. -/
theorem storeAgrees_of_run (source : String) (s₀ : EndpointStore) (hquiet : Quiet s₀)
    (events : List EndpointEvent) (hagree : EventsAgree source events (EndpointSystem.start s₀))
    (hrun : runEndpoints source events (EndpointSystem.start s₀) = some sys') :
    StoreAgrees source s₀ sys' :=
  (tracks_of_run (tracks_start hquiet) hagree hrun).storeAgrees

end Runs

/-! ## An unregistered endpoint -/

/-- A store with one endpoint. -/
def oneEndpoint : EndpointStore where
  request := JsObject.empty.set endpointSchemaKey JsObject.empty
  requestData := JsObject.empty.set endpointSchemaKey
    (JsObject.empty.set "e" ⟨some .connected, JsObject.empty⟩)
  pagination := JsObject.empty

theorem quiet_oneEndpoint : Quiet oneEndpoint := by
  intro sec
  have hinfo : requestInfo oneEndpoint.request endpointSchemaKey sec.guid =
      getDefaultRequestState := rfl
  rw [sectionInfo, hinfo]
  cases sec.updatingKey with
  | none => exact ⟨rfl, rfl⟩
  | some key =>
    by_cases hkey : key = rootUpdatingKey <;>
      simp [RequestInfoState.about, getDefaultRequestState, getDefaultActionState,
        JsObject.get?_set, hkey]

/-- The endpoint has been unregistered, and the store still has it. -/
theorem not_storeAgrees_unregister :
    ¬∀ (source : String) (s₀ : EndpointStore), Quiet s₀ → ∀ (events : List EndpointEvent)
      (sys' : EndpointSystem), runEndpoints source events (EndpointSystem.start s₀) = some sys' →
      StoreAgrees source s₀ sys' := by
  intro h
  have hentity := (h "function () {}" oneEndpoint quiet_oneEndpoint
    [.dispatch (.unregister "e" "" .other), .answer 0 .success] _ rfl).entity "e" (by decide)
    fun _ hop => absurd hop List.not_mem_nil
  cases hentity

/-- A store with an endpoint that is connected and one that is not. -/
def twoEndpoints : EndpointStore where
  request := JsObject.empty.set endpointSchemaKey JsObject.empty
  requestData := JsObject.empty.set endpointSchemaKey
    ((JsObject.empty.set "e" ⟨some .connected, JsObject.empty⟩).set "f"
      ⟨some .disconnected, JsObject.empty⟩)
  pagination := JsObject.empty

theorem quiet_twoEndpoints : Quiet twoEndpoints := quiet_oneEndpoint

/-- Two operations at once, the later one answered first, and one on an endpoint that is not
recorded. -/
def crossedEvents : List EndpointEvent :=
  [.dispatch (.disconnect "e" .other), .dispatch (.connect "f" .web false), .answer 1 .success,
    .dispatch (.unregister "gone" "" .other), .answer 1 .success, .answer 0 .success]

/-- Operations on two endpoints, answered in the other order. -/
theorem storeAgrees_of_run_crossed :
    ∃ sys', runEndpoints "function () {}" crossedEvents (EndpointSystem.start twoEndpoints) =
        some sys' ∧ StoreAgrees "function () {}" twoEndpoints sys' := by
  refine ⟨_, rfl, storeAgrees_of_run _ _ quiet_twoEndpoints crossedEvents ?_ rfl⟩
  refine ⟨trivial, fun sys₁ h₁ => ?_⟩
  cases h₁
  refine ⟨trivial, fun sys₂ h₂ => ?_⟩
  cases h₂
  refine ⟨?_, fun sys₃ h₃ => ?_⟩
  · intro op hop _
    cases hop
    exact ⟨rfl, fun guid hun => absurd hun id⟩
  cases h₃
  refine ⟨trivial, fun sys₄ h₄ => ?_⟩
  cases h₄
  refine ⟨?_, fun sys₅ h₅ => ?_⟩
  · intro op hop _
    cases hop
    refine ⟨rfl, ?_⟩
    rintro guid rfl
    refine ⟨rfl, ?_⟩
    rintro key page ⟨sections, entityState, ids, hsections, -⟩
    cases hsections
  cases h₅
  refine ⟨?_, fun _ _ => trivial⟩
  intro op hop _
  cases hop
  exact ⟨rfl, fun guid hun => absurd hun id⟩

end Stratos
