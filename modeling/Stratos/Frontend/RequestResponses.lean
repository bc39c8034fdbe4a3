import Stratos.Frontend.RequestState
import Stratos.Lib.Lists

/-!
# Responses in the request info

The response of a request holds entities of many types. `succeedRequest` writes the info of each
of them (`createRequestStateFromResponse`), and the info of the requested entity over it.

A request with a guid merges the old info over the new one, so an entity of the response that was
deleted stays deleted there and not in a list (`pathsAgree_iff`).
-/

open Lib

namespace Stratos

variable {α : Type}

/-! ## Slices of responses -/

/-- The info of an entity that comes with a response. -/
def respondedState (entState : RequestInfoState) : RequestInfoState :=
  { entState with deleting := { defaultDeletingActionState with busy := entState.deleting.busy } }

/-- The request of one entity of a response. -/
def entityAction (entityKey guid : String) : IRequestAction := ⟨entityKey, .text guid, none⟩

/-- The entities of a type, in the order of their guids. -/
def createSliceFromResponse (state : IRequestTypeState) (entityKey : String) (guids : List String)
    (newState : IRequestTypeState) : Option IRequestTypeState :=
  guids.foldlM (fun newState guid => do
    let entState ← getEntityRequestState state (entityAction entityKey guid)
    return setEntityRequestState newState (respondedState entState) (entityAction entityKey guid))
    newState

/-- The response is its entities, if it has any. -/
def createRequestStateFromResponse (response : Option (EntitySlices α))
    (state : IRequestTypeState) : Option IRequestTypeState :=
  match response with
  | none => some state
  | some entities =>
    entities.ownKeys.foldlM (fun newState entityKey => createSliceFromResponse state entityKey
      ((entities.get? entityKey).getD JsObject.empty).ownKeys newState) state

/-- `succeedRequest`, with the response. -/
def succeedRequestWith (state : IRequestTypeState) (apiAction : IRequestAction)
    (requestType : Option ApiRequestTypes) (response : Option (EntitySlices α)) :
    Option IRequestTypeState :=
  if apiAction.guid.truthy then do
    let requestState ← getEntityRequestState state apiAction
    let responseState ← createRequestStateFromResponse response state
    return mergeState responseState
      (setEntityRequestState state (succeededState apiAction requestType requestState) apiAction)
  else createRequestStateFromResponse response state

/-- The entity is one of the response. -/
def InResponse (response : Option (EntitySlices α)) (entityKey guid : String) : Prop :=
  ∃ entities, response = some entities ∧ (getEntity entities entityKey guid).isSome

section Response

variable {state state' : IRequestTypeState} {response : Option (EntitySlices α)}

theorem getEntity_createSlice {entityKey : String} {guids : List String}
    {newState : IRequestTypeState}
    (h : createSliceFromResponse state entityKey guids newState = some state') (key guid : String) :
    getEntity state' key guid = if key = entityKey ∧ guid ∈ guids then
      some (respondedState (requestInfo state key guid)) else getEntity newState key guid := by
  induction guids generalizing newState with
  | nil =>
    obtain rfl := Option.some.inj h
    simp
  | cons g guids ih =>
    rw [createSliceFromResponse, List.foldlM_cons] at h
    obtain ⟨next, hnext, h⟩ := Option.bind_eq_some_iff.1 h
    obtain ⟨entState, hent, hnext⟩ := Option.bind_eq_some_iff.1 hnext
    obtain rfl := Option.some.inj hnext
    obtain rfl := getEntityRequestState_eq hent
    rw [ih h, getEntity_setEntityRequestState]
    by_cases hkey : key = entityKey
    · by_cases hguid : guid = g
      · simp [entityAction, ActionGuid.key, hkey, hguid]
      · simp [entityAction, ActionGuid.key, hguid]
    · simp [entityAction, hkey]

/-- A response writes the info of its entities. -/
theorem getEntity_createRequestState (h : createRequestStateFromResponse response state =
    some state') (key guid : String) :
    (InResponse response key guid ∧
      getEntity state' key guid = some (respondedState (requestInfo state key guid))) ∨
    (¬InResponse response key guid ∧ getEntity state' key guid = getEntity state key guid) := by
  rcases response with _ | entities
  · obtain rfl := Option.some.inj h
    exact Or.inr ⟨fun ⟨_, hnone, _⟩ => (Option.some_ne_none _ hnone.symm).elim, rfl⟩
  · have hfold : ∀ (keys : List String) (newState : IRequestTypeState),
        keys.foldlM (fun newState entityKey => createSliceFromResponse state entityKey
          ((entities.get? entityKey).getD JsObject.empty).ownKeys newState) newState =
            some state' →
        getEntity state' key guid =
          if key ∈ keys ∧ guid ∈ ((entities.get? key).getD JsObject.empty).ownKeys then
            some (respondedState (requestInfo state key guid))
          else getEntity newState key guid := by
      intro keys
      induction keys with
      | nil =>
        intro newState h
        obtain rfl := Option.some.inj h
        simp
      | cons k keys ih =>
        intro newState h
        rw [List.foldlM_cons] at h
        obtain ⟨next, hnext, h⟩ := Option.bind_eq_some_iff.1 h
        rw [ih next h, getEntity_createSlice hnext]
        by_cases hk : key = k
        · subst hk
          by_cases hguid : guid ∈ ((entities.get? key).getD JsObject.empty).ownKeys <;> simp [hguid]
        · simp [hk]
    have hin : InResponse (some entities) key guid ↔
        key ∈ entities.ownKeys ∧ guid ∈ ((entities.get? key).getD JsObject.empty).ownKeys := by
      unfold InResponse getEntity
      rcases hslice : entities.get? key with _ | slice
      · have hkey := JsObject.get?_eq_none_iff.1 hslice
        simp [hslice, hkey]
      · have hkey := JsObject.mem_keys_of_get? hslice
        simp [hslice, hkey, JsObject.isSome_get?_iff]
    rw [hfold _ _ h]
    by_cases hmem : InResponse (some entities) key guid
    · exact Or.inl ⟨hmem, if_pos (hin.1 hmem)⟩
    · exact Or.inr ⟨hmem, if_neg (mt hin.2 hmem)⟩

/-! ### Slices -/

/-- The store has a slice for the type. Every type of the store does. -/
def HasSlice (state : IRequestTypeState) (entityKey : String) : Prop :=
  (state.get? entityKey).isSome

instance (state : IRequestTypeState) (entityKey : String) : Decidable (HasSlice state entityKey) :=
  inferInstanceAs (Decidable ((state.get? entityKey).isSome = true))

/-- The types of the entities of a response. -/
def responseKeys (response : Option (EntitySlices α)) : List String :=
  (response.getD JsObject.empty).ownKeys

theorem hasSlice_mergeState {newState : IRequestTypeState} {entityKey : String}
    (h : HasSlice state entityKey) : HasSlice (mergeState state newState) entityKey := by
  rw [HasSlice, get?_mergeState]
  rcases newState.get? entityKey with _ | new
  · exact h
  · rfl

theorem hasSlice_setEntityRequestState {rs : RequestInfoState} {apiAction : IRequestAction}
    {entityKey : String} (h : HasSlice state entityKey) :
    HasSlice (setEntityRequestState state rs apiAction) entityKey :=
  hasSlice_mergeState h

theorem getEntityRequestState_of_slice {apiAction : IRequestAction}
    (h : HasSlice state apiAction.entityKey) : getEntityRequestState state apiAction =
      some (requestInfo state apiAction.entityKey apiAction.guid.key) := by
  obtain ⟨slice, hslice⟩ := Option.isSome_iff_exists.1 h
  rw [getEntityRequestState, requestInfo, getEntity, hslice]
  rfl

theorem exists_startRequest {apiAction : IRequestAction} {requestType : Option ApiRequestTypes}
    (h : HasSlice state apiAction.entityKey) :
    ∃ state', startRequest state apiAction requestType = some state' ∧
      ∀ key, HasSlice state key → HasSlice state' key := by
  by_cases htruthy : apiAction.guid.truthy = true
  · refine ⟨setEntityRequestState state (startedState apiAction requestType
      (requestInfo state apiAction.entityKey apiAction.guid.key)) apiAction, ?_,
      fun key hkey => hasSlice_setEntityRequestState hkey⟩
    rw [startRequest, if_neg (not_not.2 htruthy), getEntityRequestState_of_slice h]
    rfl
  · exact ⟨state, startRequest_of_not_truthy (Bool.not_eq_true _ ▸ htruthy), fun _ => id⟩

theorem exists_failRequest {apiAction : IRequestAction} {requestType : Option ApiRequestTypes}
    (h : HasSlice state apiAction.entityKey) (message : String) :
    ∃ state', failRequest state apiAction requestType message = some state' ∧
      ∀ key, HasSlice state key → HasSlice state' key := by
  by_cases htruthy : apiAction.guid.truthy = true
  · refine ⟨setEntityRequestState state (failedState apiAction requestType message
      (requestInfo state apiAction.entityKey apiAction.guid.key)) apiAction, ?_,
      fun key hkey => hasSlice_setEntityRequestState hkey⟩
    rw [failRequest, if_pos htruthy, getEntityRequestState_of_slice h]
    rfl
  · exact ⟨state, failRequest_of_not_truthy (Bool.not_eq_true _ ▸ htruthy) message, fun _ => id⟩

theorem hasSlice_createRequestState (hcreate : createRequestStateFromResponse response state =
    some state') {entityKey : String} (h : HasSlice state entityKey) :
    HasSlice state' entityKey := by
  rcases response with _ | entities
  · obtain rfl := Option.some.inj hcreate
    exact h
  · refine foldlM_inv (p := fun newState => HasSlice newState entityKey) ?_ h hcreate
    intro newState key next hslice hnext
    refine foldlM_inv (p := fun newState => HasSlice newState entityKey) ?_ hslice hnext
    intro newState guid next hslice hnext
    obtain ⟨entState, -, hnext⟩ := Option.bind_eq_some_iff.1 hnext
    obtain rfl := Option.some.inj hnext
    exact hasSlice_setEntityRequestState hslice

/-- A response of known types can be written. -/
theorem exists_createRequestState (h : ∀ key ∈ responseKeys response, HasSlice state key) :
    ∃ state', createRequestStateFromResponse response state = some state' := by
  rcases response with _ | entities
  · exact ⟨state, rfl⟩
  · refine Option.isSome_iff_exists.1 (foldlM_isSome (fun newState key hkey => ?_) state)
    refine foldlM_isSome (fun newState guid _ => ?_) newState
    have hslice : HasSlice state (entityAction key guid).entityKey := h key hkey
    rw [getEntityRequestState_of_slice hslice]
    rfl

/-! ### A success with a response -/

theorem hasSlice_succeedRequestWith {apiAction : IRequestAction}
    {requestType : Option ApiRequestTypes}
    (hsucceed : succeedRequestWith state apiAction requestType response = some state')
    {entityKey : String} (h : HasSlice state entityKey) : HasSlice state' entityKey := by
  rw [succeedRequestWith] at hsucceed
  split_ifs at hsucceed with htruthy
  · obtain ⟨rs, -, hsucceed⟩ := Option.bind_eq_some_iff.1 hsucceed
    obtain ⟨responseState, hcreate, hsucceed⟩ := Option.bind_eq_some_iff.1 hsucceed
    obtain rfl := Option.some.inj hsucceed
    exact hasSlice_mergeState (hasSlice_createRequestState hcreate h)
  · exact hasSlice_createRequestState hsucceed h

theorem exists_succeedRequestWith {apiAction : IRequestAction}
    {requestType : Option ApiRequestTypes} (hkey : HasSlice state apiAction.entityKey)
    (hkeys : ∀ key ∈ responseKeys response, HasSlice state key) :
    ∃ state', succeedRequestWith state apiAction requestType response = some state' := by
  obtain ⟨responseState, hcreate⟩ := exists_createRequestState hkeys
  rw [succeedRequestWith, getEntityRequestState_of_slice hkey, hcreate]
  split_ifs with htruthy
  · exact ⟨_, rfl⟩
  · exact ⟨responseState, rfl⟩

/-- The old info of another entity is kept ; the response is asked when there is none. -/
theorem getEntity_succeedRequestWith {apiAction : IRequestAction}
    {requestType : Option ApiRequestTypes}
    (h : succeedRequestWith state apiAction requestType response = some state')
    (htruthy : apiAction.guid.truthy = true) (key guid : String) :
    (key = apiAction.entityKey ∧ guid = apiAction.guid.key ∧ getEntity state' key guid =
      some (succeededState apiAction requestType (requestInfo state key guid))) ∨
    (¬(key = apiAction.entityKey ∧ guid = apiAction.guid.key) ∧
      ∃ responseState, createRequestStateFromResponse response state = some responseState ∧
        getEntity state' key guid =
          (getEntity state key guid).or (getEntity responseState key guid)) := by
  rw [succeedRequestWith, if_pos htruthy] at h
  obtain ⟨rs, hrs, h⟩ := Option.bind_eq_some_iff.1 h
  obtain ⟨responseState, hcreate, h⟩ := Option.bind_eq_some_iff.1 h
  obtain rfl := Option.some.inj h
  obtain rfl := getEntityRequestState_eq hrs
  rw [getEntity_mergeState, getEntity_setEntityRequestState]
  by_cases hkey : key = apiAction.entityKey ∧ guid = apiAction.guid.key
  · rw [if_pos hkey, hkey.1, hkey.2]
    exact Or.inl ⟨rfl, rfl, rfl⟩
  · rw [if_neg hkey]
    exact Or.inr ⟨hkey, responseState, hcreate, rfl⟩

end Response

/-! ## The two paths -/

section Paths

variable {state : IRequestTypeState} {apiAction : IRequestAction} {response : EntitySlices α}

/-- A fetch of a list. -/
def listAction (entityKey : String) : IRequestAction := ⟨entityKey, .text "", none⟩

/-- A fetch of one entity leaves the others as a fetch of a list does : those of the response with
their deletion reset, but for one that goes on, and the rest as they were. -/
def PathsAgree (state : IRequestTypeState) (apiAction : IRequestAction)
    (response : EntitySlices α) : Prop :=
  ∃ single list,
    succeedRequestWith state apiAction (some .fetch) (some response) = some single ∧
    succeedRequestWith state (listAction apiAction.entityKey) (some .fetch) (some response) =
      some list ∧
    ∀ key guid, ¬(key = apiAction.entityKey ∧ guid = apiAction.guid.key) →
      (InResponse (some response) key guid → getEntity single key guid = getEntity list key guid ∧
        (requestInfo single key guid).deleting = { defaultDeletingActionState with
          busy := (requestInfo state key guid).deleting.busy }) ∧
      (¬InResponse (some response) key guid →
        getEntity single key guid = getEntity state key guid ∧
        getEntity list key guid = getEntity state key guid)

/-- No entity of the response but the requested one has a deletion that ended or failed. -/
def NothingDeleted (state : IRequestTypeState) (apiAction : IRequestAction)
    (response : EntitySlices α) : Prop :=
  ∀ key guid, ¬(key = apiAction.entityKey ∧ guid = apiAction.guid.key) →
    InResponse (some response) key guid →
    (requestInfo state key guid).deleting.deleted = false ∧
    (requestInfo state key guid).deleting.error = false ∧
    (requestInfo state key guid).deleting.message = ""

theorem respondedState_eq_self_iff (rs : RequestInfoState) : respondedState rs = rs ↔
    rs.deleting.deleted = false ∧ rs.deleting.error = false ∧ rs.deleting.message = "" := by
  rcases rs with ⟨fetching, updating, creating, ⟨⟨busy, err, deletingMessage⟩, deleted⟩, error,
    message⟩
  simp only [respondedState, defaultDeletingActionState, RequestInfoState.mk.injEq,
    DeleteActionState.mk.injEq, ActionState.mk.injEq, true_and, and_true]
  constructor
  · rintro ⟨⟨herr, hmessage⟩, hdeleted⟩
    exact ⟨hdeleted.symm, herr.symm, hmessage.symm⟩
  · rintro ⟨hdeleted, herr, hmessage⟩
    exact ⟨⟨herr.symm, hmessage.symm⟩, hdeleted.symm⟩

/-- The paths agree exactly when nothing of the response has been deleted before. -/
theorem pathsAgree_iff (htruthy : apiAction.guid.truthy = true)
    (hkey : HasSlice state apiAction.entityKey)
    (hkeys : ∀ key ∈ responseKeys (some response), HasSlice state key) :
    PathsAgree state apiAction response ↔ NothingDeleted state apiAction response := by
  obtain ⟨single, hsingle⟩ : ∃ single, succeedRequestWith state apiAction (some .fetch)
      (some response) = some single := exists_succeedRequestWith hkey hkeys
  obtain ⟨list, hlist⟩ := exists_createRequestState hkeys
  have hlist' : succeedRequestWith state (listAction apiAction.entityKey) (some .fetch)
      (some response) = some list := hlist
  have hother : ∀ key guid, ¬(key = apiAction.entityKey ∧ guid = apiAction.guid.key) →
      getEntity single key guid = (getEntity state key guid).or (getEntity list key guid) := by
    intro key guid hne
    rcases getEntity_succeedRequestWith hsingle htruthy key guid with
      ⟨hk, hg, -⟩ | ⟨-, responseState, hcreate, hget⟩
    · exact absurd ⟨hk, hg⟩ hne
    · obtain rfl := Option.some.inj (hcreate.symm.trans hlist)
      exact hget
  -- The info that one path leaves is the old one, and that of the other is it without deletion.
  have hagree : ∀ key guid, ¬(key = apiAction.entityKey ∧ guid = apiAction.guid.key) →
      InResponse (some response) key guid →
      (getEntity single key guid = getEntity list key guid ↔
        respondedState (requestInfo state key guid) = requestInfo state key guid) := by
    intro key guid hne hin
    rcases getEntity_createRequestState hlist key guid with ⟨-, hget⟩ | ⟨hnot, -⟩
    · rw [hother key guid hne, hget, requestInfo]
      rcases getEntity state key guid with _ | rs
      · exact iff_of_true rfl rfl
      · simp only [Option.some_or, Option.getD_some, Option.some.injEq]
        exact eq_comm
    · exact absurd hin hnot
  constructor
  · rintro ⟨single', list', hs, hl, hpaths⟩ key guid hne hin
    obtain rfl := Option.some.inj (hs.symm.trans hsingle)
    obtain rfl := Option.some.inj (hl.symm.trans hlist')
    exact (respondedState_eq_self_iff _).1
      ((hagree key guid hne hin).1 ((hpaths key guid hne).1 hin).1)
  · intro hclean
    refine ⟨single, list, hsingle, hlist', fun key guid hne => ⟨fun hin => ?_, fun hnot => ?_⟩⟩
    · have heq := (hagree key guid hne hin).2
        ((respondedState_eq_self_iff _).2 (hclean key guid hne hin))
      refine ⟨heq, ?_⟩
      rcases getEntity_createRequestState hlist key guid with ⟨-, hget⟩ | ⟨hno, -⟩
      · rw [requestInfo, heq, hget]
        rfl
      · exact absurd hin hno
    · rcases getEntity_createRequestState hlist key guid with ⟨hin, -⟩ | ⟨-, hget⟩
      · exact absurd hin hnot
      · refine ⟨?_, hget⟩
        rw [hother key guid hne, hget, Option.or_self]

/-- A space that was deleted comes with the response of another one. -/
def deletedSpaceState : IRequestTypeState := JsObject.empty.set "space" (JsObject.empty.set "b"
  { getDefaultRequestState with
    deleting := { defaultDeletingActionState with deleted := true } })

/-- A response with two spaces. -/
def twoSpaces : EntitySlices Unit :=
  JsObject.empty.set "space" ((JsObject.empty.set "a" ()).set "b" ())

/-- The condition of a response with two spaces, one of them deleted. -/
theorem pathsAgree_iff_deleted : PathsAgree deletedSpaceState (entityAction "space" "a") twoSpaces ↔
    NothingDeleted deletedSpaceState (entityAction "space" "a") twoSpaces :=
  pathsAgree_iff (by decide) (by decide) (by decide)

/-- A deleted entity stays deleted on one path and not on the other. -/
theorem not_pathsAgree_deleted : ¬∀ (state : IRequestTypeState) (apiAction : IRequestAction)
    (response : EntitySlices Unit), apiAction.guid.truthy = true →
    HasSlice state apiAction.entityKey →
    (∀ key ∈ responseKeys (some response), HasSlice state key) →
    PathsAgree state apiAction response := by
  intro h
  obtain ⟨single, list, hsingle, hlist, hpaths⟩ := h deletedSpaceState (entityAction "space" "a")
    twoSpaces (by decide) (by decide) (by decide)
  obtain ⟨heq, hdeleting⟩ := (hpaths "space" "b" (by decide)).1 ⟨twoSpaces, rfl, by decide⟩
  have hdeleted : ((succeedRequestWith deletedSpaceState (entityAction "space" "a") (some .fetch)
      (some twoSpaces)).map fun s => (requestInfo s "space" "b").deleting.deleted) = some true := by
    decide
  rw [hsingle] at hdeleted
  have htrue : (requestInfo single "space" "b").deleting.deleted = true := Option.some.inj hdeleted
  rw [hdeleting] at htrue
  cases htrue

end Paths

end Stratos
