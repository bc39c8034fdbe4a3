import Stratos.Frontend.RequestFlags

/-!
# The updates around a validation

The relations of an entity are validated when an `EntityService` first finds the entity. While
missing relations are fetched the root section of the entity's updates is busy, so that nobody
reads the entity (`isEntityBlocked`) : `RequestEffect.update` of `request.effects.ts` dispatches
an update when the validation starts and one when it has completed or failed.

The first update is written under the root key, the second under the `updatingKey` of the action
as it is then. The action belongs to the service, which sets its `updatingKey` to refresh or poll
the entity (`actionDispatch`), and the key stays set. `marksAndUnmarks_iff` says that the updates
fit together exactly when no key but the root's is set by the time the validation ends.
-/

open Lib

namespace Stratos

namespace ValidationUpdates

/-! ## The request state -/

/-- `!!error`, of an error that may be absent. -/
def isError (error : Option String) : Bool := error.any (· ≠ "")

/-- The update of the validation starts or ends. -/
def updateRequest (state : IRequestTypeState) (apiAction : IRequestAction) (busy : Bool)
    (error : Option String) : Option IRequestTypeState :=
  if ¬apiAction.guid.truthy then some state
  else do
    let requestState ← getEntityRequestState state apiAction
    return setEntityRequestState state
      { requestState with
        updating := mergeUpdatingState apiAction requestState.updating ⟨busy, isError error, ""⟩ }
      apiAction

/-- Nobody reads the entity. The root section of the updates is always there. -/
def isEntityBlocked (entityRequestInfo : Option RequestInfoState) : Bool :=
  match entityRequestInfo with
  | none => false
  | some info => info.fetching || info.error || info.deleting.busy || info.deleting.deleted ||
    (info.updating.get? rootUpdatingKey).any (·.busy)

/-! ## The effect -/

/-- An action that fetches an entity or a page. -/
structure ICFAction extends IRequestAction where
  /-- Of an action that fetches a page, never empty. -/
  paginationKey : Option String

/-- What the effect dispatches to mark an update. -/
inductive UpdateAction
  | setPageBusy (apiAction : ICFAction) (busy : Bool) (error : Option String)
  | updateCf (apiAction : IRequestAction) (busy : Bool) (error : Option String)

/-- `RequestEffect.update`. -/
def update (apiAction : ICFAction) (busy : Bool) (error : Option String) : UpdateAction :=
  if apiAction.paginationKey.isSome then .setPageBusy apiAction busy error
  else
    let newAction := apiAction.toIRequestAction
    let newAction :=
      if busy then { newAction with updatingKey := some rootUpdatingKey } else newAction
    .updateCf newAction busy error

/-- The start of a validation. -/
structure ValidateEntitiesStart where
  action : ICFAction
  /-- The validation is part of an api request. -/
  apiRequestStarted : Bool

/-- How the promise of a validation ends. -/
inductive Completed
  | resolved
  | rejected (message : Option String)

/-- The validation tells of its own progress. -/
def independentUpdates (validateAction : ValidateEntitiesStart) (started : Bool) : Bool :=
  !validateAction.apiRequestStarted && started

/-- The updates of `validateEntities$`, once the validation knows if it has to fetch. -/
def validateEntities (validateAction : ValidateEntitiesStart) (started : Bool) :
    List UpdateAction :=
  if independentUpdates validateAction started then [update validateAction.action true none] else []

/-- The updates of `completeEntities$` and of the error handler. An api request that was started
is completed by its own actions. -/
def completeEntities (validateAction : ValidateEntitiesStart) (started : Bool) :
    Completed → List UpdateAction
  | .resolved =>
    if !validateAction.apiRequestStarted && started then
      if independentUpdates validateAction started then [update validateAction.action false none]
      else []
    else []
  | .rejected message =>
    if validateAction.apiRequestStarted then [] else [update validateAction.action false message]

/-- The request state does not change with the busy flag of a page. -/
def reduce (state : IRequestTypeState) : UpdateAction → Option IRequestTypeState
  | .setPageBusy _ _ _ => some state
  | .updateCf apiAction busy error => updateRequest state apiAction busy error

/-- The info after a list of actions. -/
def reduceAll (state : IRequestTypeState) (actions : List UpdateAction) :
    Option IRequestTypeState :=
  actions.foldlM reduce state

/-! ## The entity service -/

/-- `actionDispatch` sets the key of the action it dispatches. -/
def actionDispatch (action : ICFAction) (updatingKey : Option String) : ICFAction :=
  match updatingKey with
  | some key => if key ≠ "" then { action with updatingKey := some key } else action
  | none => action

/-- The action after some dispatches. -/
def dispatched (action : ICFAction) (updatingKeys : List (Option String)) : ICFAction :=
  updatingKeys.foldl actionDispatch action

/-! ## What the updates are for -/

/-- Of all requests at most the root section of the entity's updates is another. -/
structure SameButRoot (entityKey guid : String) (state state' : IRequestTypeState) : Prop where
  entities : ∀ entityKey' guid', ¬(entityKey' = entityKey ∧ guid' = guid) →
    getEntity state' entityKey' guid' = getEntity state entityKey' guid'
  sections : ∀ key, key ≠ rootUpdatingKey →
    (requestInfo state' entityKey guid).updating.get? key =
      (requestInfo state entityKey guid).updating.get? key
  fields : ∃ updating, requestInfo state' entityKey guid =
    { requestInfo state entityKey guid with updating }

/-- The start marks the root section of the entity's updates, and the end, after the service has
dispatched the action under some keys, unmarks it, whatever other actions did to the requests in
the meantime. -/
def MarksAndUnmarks (state : IRequestTypeState) (validateAction : ValidateEntitiesStart)
    (started : Bool) (updatingKeys : List (Option String)) (completed : Completed) : Prop :=
  ∃ marked, reduceAll state (validateEntities validateAction started) = some marked ∧
    SameButRoot validateAction.action.entityKey validateAction.action.guid.key state marked ∧
    ∀ meanwhile : IRequestTypeState,
      (HasSlice marked validateAction.action.entityKey →
        HasSlice meanwhile validateAction.action.entityKey) →
      ∃ unmarked, reduceAll meanwhile (completeEntities
          { validateAction with action := dispatched validateAction.action updatingKeys }
          started completed) = some unmarked ∧
        SameButRoot validateAction.action.entityKey validateAction.action.guid.key
          meanwhile unmarked ∧
        (validateAction.action.guid.truthy = true → ¬IsSet unmarked validateAction.action.entityKey
          validateAction.action.guid.key (.updating rootUpdatingKey))

/-- The key of the action after the dispatches : the last one that is set, or the one it had. -/
def keyAtEnd (action : ICFAction) (updatingKeys : List (Option String)) : Option String :=
  ((updatingKeys.filterMap id).filter (· ≠ "")).getLast?.or action.updatingKey

/-! ## Dispatches -/

section Dispatches

variable (action : ICFAction) (updatingKeys : List (Option String))

/-- A dispatch changes nothing but the key. -/
theorem dispatched_eq : dispatched action updatingKeys =
    { action with updatingKey := keyAtEnd action updatingKeys } := by
  induction updatingKeys generalizing action with
  | nil => rfl
  | cons updatingKey updatingKeys ih =>
    rw [dispatched, List.foldl_cons, ← dispatched, ih]
    rcases updatingKey with _ | key
    · rfl
    · by_cases hkey : key = ""
      · simp [actionDispatch, keyAtEnd, hkey]
      · have hlast : ∀ l : List String, ((key :: l).getLast?).or action.updatingKey =
            l.getLast?.or (some key) := by
          intro l
          rw [List.getLast?_cons]
          cases l.getLast? <;> rfl
        simp [actionDispatch, keyAtEnd, hkey, hlast]

end Dispatches

/-! ## One update -/

section Update

variable {state state' : IRequestTypeState} {apiAction : IRequestAction} {busy : Bool}
  {error : Option String}

theorem updateRequest_of_not_truthy (h : apiAction.guid.truthy = false) :
    updateRequest state apiAction busy error = some state := by
  simp [updateRequest, h]

/-- An update writes the section of its key. -/
theorem updateRequest_of_slice (hslice : HasSlice state apiAction.entityKey)
    (h : apiAction.guid.truthy = true) : updateRequest state apiAction busy error =
      some (setEntityRequestState state
        { requestInfo state apiAction.entityKey apiAction.guid.key with
          updating := mergeUpdatingState apiAction
            (requestInfo state apiAction.entityKey apiAction.guid.key).updating
            ⟨busy, isError error, ""⟩ } apiAction) := by
  rw [updateRequest, if_neg (not_not.2 h), getEntityRequestState_of_slice hslice]
  rfl

/-- Without a section for the type the reducer throws. -/
theorem hasSlice_of_updateRequest (h : updateRequest state apiAction busy error = some state')
    (htruthy : apiAction.guid.truthy = true) : HasSlice state apiAction.entityKey := by
  rw [updateRequest, if_neg (not_not.2 htruthy)] at h
  obtain ⟨requestState, hget, -⟩ := Option.bind_eq_some_iff.1 h
  obtain ⟨slice, hslice, -⟩ := Option.bind_eq_some_iff.1 hget
  rw [HasSlice, hslice]
  rfl

theorem hasSlice_updateRequest (h : updateRequest state apiAction busy error = some state')
    {entityKey : String} (hslice : HasSlice state entityKey) : HasSlice state' entityKey := by
  by_cases htruthy : apiAction.guid.truthy = true
  · obtain rfl := Option.some.inj ((updateRequest_of_slice
      (hasSlice_of_updateRequest h htruthy) htruthy).symm.trans h)
    exact hasSlice_setEntityRequestState hslice
  · rw [updateRequest_of_not_truthy (Bool.not_eq_true _ ▸ htruthy)] at h
    exact Option.some.inj h ▸ hslice

theorem SameButRoot.refl (entityKey guid : String) (state : IRequestTypeState) :
    SameButRoot entityKey guid state state where
  entities _ _ _ := rfl
  sections _ _ := rfl
  fields := ⟨_, rfl⟩

/-- An update under the root key, or under none. -/
theorem exists_updateRequest_root (hslice : HasSlice state apiAction.entityKey)
    (h : apiAction.guid.truthy = true) (hkey : ∀ key, apiAction.updatingKey = some key →
      key = rootUpdatingKey) :
    ∃ state', updateRequest state apiAction busy error = some state' ∧
      SameButRoot apiAction.entityKey apiAction.guid.key state state' ∧
      (IsSet state' apiAction.entityKey apiAction.guid.key (.updating rootUpdatingKey) ↔
        busy = true) := by
  have hroot : apiAction.updatingKey.getD rootUpdatingKey = rootUpdatingKey := by
    cases hupdating : apiAction.updatingKey with
    | none => rfl
    | some key => exact hkey key hupdating
  refine ⟨_, updateRequest_of_slice hslice h, ⟨fun entityKey' guid' hne => ?_, fun key hne => ?_,
    ?_⟩, ?_⟩
  · rw [getEntity_setEntityRequestState, if_neg hne]
  · rw [requestInfo_setEntityRequestState, if_pos ⟨rfl, rfl⟩, mergeUpdatingState, hroot,
      JsObject.get?_set, if_neg hne]
  · exact ⟨_, by rw [requestInfo_setEntityRequestState, if_pos ⟨rfl, rfl⟩]⟩
  · rw [IsSet, requestInfo_setEntityRequestState, if_pos ⟨rfl, rfl⟩, mergeUpdatingState, hroot,
      isSet_updating, if_pos rfl]

/-- An update under another key leaves the root section. -/
theorem isSet_root_updateRequest {key : String} (hkey : apiAction.updatingKey = some key)
    (hne : key ≠ rootUpdatingKey) (h : updateRequest state apiAction busy error = some state')
    (entityKey guid : String) : IsSet state' entityKey guid (.updating rootUpdatingKey) ↔
      IsSet state entityKey guid (.updating rootUpdatingKey) := by
  by_cases htruthy : apiAction.guid.truthy = true
  · have hslice := hasSlice_of_updateRequest h htruthy
    obtain rfl := Option.some.inj ((updateRequest_of_slice hslice htruthy).symm.trans h)
    rw [IsSet, IsSet, requestInfo_setEntityRequestState]
    split_ifs with hentity
    · rw [mergeUpdatingState, hkey, Option.getD_some, isSet_updating, if_neg hne.symm, hentity.1,
        hentity.2]
    · rfl
  · rw [updateRequest_of_not_truthy (Bool.not_eq_true _ ▸ htruthy)] at h
    rw [Option.some.inj h]

end Update

/-! ## The two updates -/

section Validation

variable {validateAction : ValidateEntitiesStart} {started : Bool} {state : IRequestTypeState}
  {updatingKeys : List (Option String)} {completed : Completed}

/-- The action with another key. -/
def withKey (apiAction : ICFAction) (updatingKey : Option String) : IRequestAction :=
  { apiAction.toIRequestAction with updatingKey }

/-- An action that fetches no page marks a section of its entity. -/
theorem reduceAll_update {apiAction : ICFAction} (h : apiAction.paginationKey = none) (busy : Bool)
    (error : Option String) : reduceAll state [update apiAction busy error] =
      updateRequest state (withKey apiAction
        (if busy then some rootUpdatingKey else apiAction.updatingKey)) busy error := by
  rw [reduceAll, List.foldlM_cons, update, h]
  cases busy <;> exact bind_pure _

theorem reduceAll_validateEntities (hstart : independentUpdates validateAction started = true)
    (hpage : validateAction.action.paginationKey = none) :
    reduceAll state (validateEntities validateAction started) =
      updateRequest state (withKey validateAction.action (some rootUpdatingKey)) true none := by
  rw [validateEntities, if_pos hstart, reduceAll_update hpage, if_pos rfl]

/-- The updates at the end of a validation. -/
def endUpdates (validateAction : ValidateEntitiesStart) (started : Bool)
    (updatingKeys : List (Option String)) (completed : Completed) : List UpdateAction :=
  completeEntities { validateAction with action := dispatched validateAction.action updatingKeys }
    started completed

/-- However it ends, the end unmarks under the key of the action as it is then. -/
theorem reduceAll_endUpdates (hstart : independentUpdates validateAction started = true)
    (hpage : validateAction.action.paginationKey = none) (state : IRequestTypeState)
    (updatingKeys : List (Option String)) (completed : Completed) :
    ∃ error, reduceAll state (endUpdates validateAction started updatingKeys completed) =
      updateRequest state (withKey validateAction.action
        (keyAtEnd validateAction.action updatingKeys)) false error := by
  obtain ⟨hrequest, rfl⟩ : validateAction.apiRequestStarted = false ∧ started = true := by
    simpa [independentUpdates] using hstart
  have hupdate : ∀ error, reduceAll state [update (dispatched validateAction.action updatingKeys)
      false error] = updateRequest state (withKey validateAction.action
        (keyAtEnd validateAction.action updatingKeys)) false error := by
    intro error
    rw [reduceAll_update (by rw [dispatched_eq]; exact hpage), dispatched_eq]
    rfl
  cases completed with
  | resolved =>
    refine ⟨none, ?_⟩
    rw [← hupdate, endUpdates, completeEntities, independentUpdates, hrequest]
    rfl
  | rejected message =>
    refine ⟨message, ?_⟩
    rw [← hupdate, endUpdates, completeEntities, hrequest]
    rfl

/-- What the start does to the section. -/
theorem exists_marked (apiAction : ICFAction) (hslice : HasSlice state apiAction.entityKey)
    (h : apiAction.guid.truthy = true) :
    ∃ marked, updateRequest state (withKey apiAction (some rootUpdatingKey)) true none =
        some marked ∧ SameButRoot apiAction.entityKey apiAction.guid.key state marked ∧
      IsSet marked apiAction.entityKey apiAction.guid.key (.updating rootUpdatingKey) := by
  obtain ⟨marked, hmarked, hsame, hset⟩ := @exists_updateRequest_root state
    (withKey apiAction (some rootUpdatingKey)) true none hslice h fun key hkey =>
      (Option.some.inj hkey).symm
  exact ⟨marked, hmarked, hsame, hset.2 rfl⟩

/-- What the end does to it, with no key but the root's. -/
theorem exists_unmarked (apiAction : ICFAction) {updatingKey : Option String}
    (hkey : ∀ key, updatingKey = some key → key = rootUpdatingKey)
    (hslice : HasSlice state apiAction.entityKey) (h : apiAction.guid.truthy = true)
    (error : Option String) :
    ∃ unmarked, updateRequest state (withKey apiAction updatingKey) false error = some unmarked ∧
      SameButRoot apiAction.entityKey apiAction.guid.key state unmarked ∧
      ¬IsSet unmarked apiAction.entityKey apiAction.guid.key (.updating rootUpdatingKey) := by
  obtain ⟨unmarked, hunmarked, hsame, hset⟩ := @exists_updateRequest_root state
    (withKey apiAction updatingKey) false error hslice h hkey
  exact ⟨unmarked, hunmarked, hsame, fun hbusy => Bool.false_ne_true (hset.1 hbusy)⟩

end Validation

/-- The updates of a validation fit together exactly when it is about no single entity, or the
action has no key but the root's when it ends. -/
theorem marksAndUnmarks_iff (state : IRequestTypeState) (validateAction : ValidateEntitiesStart)
    (started : Bool) (updatingKeys : List (Option String)) (completed : Completed)
    (hstart : independentUpdates validateAction started = true)
    (hpage : validateAction.action.paginationKey = none) :
    MarksAndUnmarks state validateAction started updatingKeys completed ↔
      validateAction.action.guid.truthy = false ∨
        (HasSlice state validateAction.action.entityKey ∧
          ∀ key, keyAtEnd validateAction.action updatingKeys = some key →
            key = rootUpdatingKey) := by
  have hend := reduceAll_endUpdates hstart hpage
  rw [MarksAndUnmarks, reduceAll_validateEntities hstart hpage]
  constructor
  · rintro ⟨marked, hmarked, -, h⟩
    refine or_iff_not_imp_left.2 fun hguid => ?_
    rw [Bool.not_eq_false] at hguid
    have hslice := hasSlice_of_updateRequest hmarked hguid
    refine ⟨hslice, fun key hkey => ?_⟩
    by_contra hne
    -- The section is busy after the start, and the end writes another one.
    obtain ⟨marked', hmarked', -, hbusy⟩ := exists_marked validateAction.action hslice hguid
    obtain rfl := Option.some.inj (hmarked.symm.trans hmarked')
    obtain ⟨unmarked, hunmarked, -, hset⟩ := h marked id
    obtain ⟨error, heq⟩ := hend marked updatingKeys completed
    rw [← endUpdates, heq] at hunmarked
    exact hset hguid ((isSet_root_updateRequest hkey hne hunmarked _ _).2 hbusy)
  · intro h
    by_cases hguid : validateAction.action.guid.truthy = true
    · obtain ⟨hslice, hkey⟩ := h.resolve_left (by simp [hguid])
      obtain ⟨marked, hmarked, hsame, -⟩ := exists_marked validateAction.action hslice hguid
      refine ⟨marked, hmarked, hsame, fun meanwhile hslices => ?_⟩
      have hslice' := hslices (hasSlice_updateRequest hmarked hslice)
      obtain ⟨error, heq⟩ := hend meanwhile updatingKeys completed
      obtain ⟨unmarked, hunmarked, hsame', hset⟩ :=
        exists_unmarked validateAction.action hkey hslice' hguid error
      exact ⟨unmarked, heq.trans hunmarked, hsame', fun _ => hset⟩
    · refine ⟨state, updateRequest_of_not_truthy (Bool.not_eq_true _ ▸ hguid), .refl _ _ _,
        fun meanwhile _ => ⟨meanwhile, ?_, .refl _ _ _, fun htruthy => absurd htruthy hguid⟩⟩
      obtain ⟨error, heq⟩ := hend meanwhile updatingKeys completed
      exact heq.trans (updateRequest_of_not_truthy (Bool.not_eq_true _ ▸ hguid))

/-- A store with one application, which nobody fetches or updates. -/
def fetched : IRequestTypeState :=
  JsObject.empty.set "application" (JsObject.empty.set "app" getDefaultRequestState)

/-- The validation of the application by an entity service. -/
def validateApp : ValidateEntitiesStart where
  action := { entityKey := "application", guid := .text "app", updatingKey := none,
              paginationKey := none }
  apiRequestStarted := false

/-- The application is polled while it is validated, and stays blocked. -/
theorem poll_blocks_entity :
    (((reduceAll fetched (validateEntities validateApp true)).bind fun marked =>
        reduceAll marked (endUpdates validateApp true [some "updating"] .resolved)).map
      fun unmarked => isEntityBlocked (getEntity unmarked "application" "app")) = some true ∧
      ¬MarksAndUnmarks fetched validateApp true [some "updating"] .resolved := by
  refine ⟨by decide, ?_⟩
  rintro ⟨marked, hmarked, -, h⟩
  obtain ⟨unmarked, hunmarked, -, hset⟩ := h marked id
  have hbusy : (((reduceAll fetched (validateEntities validateApp true)).bind fun marked =>
      reduceAll marked (endUpdates validateApp true [some "updating"] .resolved)).all
        fun unmarked => (Flag.updating rootUpdatingKey).isSet
          (requestInfo unmarked "application" "app")) = true := by decide
  rw [hmarked, Option.bind_some, endUpdates, hunmarked] at hbusy
  exact hset rfl hbusy

theorem refused_poll_marksAndUnmarks :
    MarksAndUnmarks fetched validateApp true [none, some ""] (.rejected (some "timeout")) :=
  (marksAndUnmarks_iff fetched validateApp true [none, some ""] (.rejected (some "timeout")) rfl
    rfl).2 (Or.inr ⟨by decide, by decide⟩)

end ValidationUpdates

end Stratos
