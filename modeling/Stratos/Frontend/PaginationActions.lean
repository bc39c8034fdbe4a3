import Stratos.Frontend.EndpointEffects
import Stratos.Frontend.StaleResponses

/-!
# The actions that the pagination reducer reads

Every action of the application passes through the pagination reducer (`paginate` of
`pagination.reducer.ts`). An action it does not know should change nothing, and one that edits a
section only the section that its entity key and pagination key name.

`enterPaginationReducer` looks the section up before it knows the action. It throws when there is
no slice for the type of entity, and where the section is missing the default of
`updatePagination` takes its place, so that any action with the two keys creates it.
`framed_iff` says when neither happens.
-/

open Lib

namespace Stratos

namespace PaginationActions

/-! ## Actions -/

/-- The two keys of an action, or of the api action it carries. -/
structure SectionKeys where
  entityKey : Option String
  paginationKey : Option String

/-- The keys of an action, and those of the request that it wraps. -/
structure ActionKeys where
  own : SectionKeys
  apiAction : Option SectionKeys

/-- The actions that `getPaginationUpdater` knows. The page number is that of the api action. -/
inductive SectionUpdate
  | start (pageNumber : Option ℤ)
  | success (action : PageResponse)
  | failure (pageNumber : Option ℤ) (message : String)
  | setResultCount (count : ℤ)
  | setPage (pageNumber : ℤ)
  /-- The parameters are also set as initial ones. -/
  | editParams (edit : ParamEdit)
  | setClientPageSize (pageSize : ℤ)
  | setClientPage (pageNumber : ℤ)
  | setClientFilter (filter : PaginationClientFilter)
  | setPageBusy (pageNumber : Option ℤ) (busy : Bool) (error : Option String)

/-- The actions that the reducer of the lists knows. -/
inductive PaginationAction
  | apiRequestStart
  | createPagination (entityKey paginationKey : String) (seed : Option String)
  | clearPages (entityKey paginationKey : String)
  | resetPagination (entityKey paginationKey : String) (keepPages : Bool)
  | clearPaginationOfType (entityKey : Option String)
  | clearPaginationOfEntity (action : ClearPaginationOfEntity)
  /-- `isEndpointAction` -/
  | endpoint (endpointType : Option EndpointType)
  | update (keys : ActionKeys) (update : SectionUpdate)
  /-- Any other type. -/
  | other (type : String) (keys : ActionKeys)

/-- The wrapped request counts, if there is one. -/
def getAction (keys : ActionKeys) : SectionKeys := keys.apiAction.getD keys.own

/-- The type that an action is for. -/
def getActionKey (keys : ActionKeys) : Option String := (getAction keys).entityKey.filter (· ≠ "")

/-- The section that an action is for. -/
def getPaginationKeyFromAction (keys : ActionKeys) : Option String :=
  (getAction keys).paginationKey.filter (· ≠ "")

/-! ## Updates of a section -/

/-- The section with the number of results of the filtered list. -/
def paginationSetResultCount (state : PaginationEntityState) (count : ℤ) :
    Option PaginationEntityState := do
  let clientPagination ← spreadClientPagination state.clientPagination
  if state.totalResults = count ∧ clientPagination.totalResults = count then
    return state
  else
    return { state with
      totalResults := count
      clientPagination := some { clientPagination with totalResults := count } }

/-- The section with another size of the pages in the browser. -/
def paginationSetClientPageSize (state : PaginationEntityState) (pageSize : ℤ) :
    Option PaginationEntityState := do
  let clientPagination ← spreadClientPagination state.clientPagination
  return { state with clientPagination := some { clientPagination with pageSize := pageSize } }

/-- The section on another page in the browser. -/
def paginationSetClientPage (state : PaginationEntityState) (pageNumber : ℤ) :
    Option PaginationEntityState := do
  let clientPagination ← spreadClientPagination state.clientPagination
  return { state with clientPagination := some { clientPagination with currentPage := pageNumber } }

/-- The section with another filter, whose items are added to the old ones. -/
def paginationSetClientFilter (state : PaginationEntityState) (filter : PaginationClientFilter) :
    Option PaginationEntityState := do
  let clientPagination ← spreadClientPagination state.clientPagination
  return { state with
    clientPagination := some { clientPagination with
      filter := ⟨filter.string, clientPagination.filter.items.spread filter.items⟩ } }

/-- The message of an update without an error is empty. -/
def paginationPageBusy (state : PaginationEntityState) (pageNumber : Option ℤ) (busy : Bool)
    (error : Option String) : PaginationEntityState :=
  { state with
    pageRequests := state.pageRequests.set (pageKey (pageOf state pageNumber))
      ⟨busy, error.any (· ≠ ""), error.getD ""⟩ }

/-- `getPaginationUpdater`, for the action or, without one, for an action of another type. -/
def updatePagination (state : Option PaginationEntityState) (action : Option SectionUpdate) :
    Option PaginationEntityState :=
  let state := state.getD getDefaultPaginationEntityState
  match action with
  | some (.start pageNumber) => some (paginationStart state pageNumber)
  | some (.success action) => paginationSuccess state action
  | some (.failure pageNumber message) => some (paginationFailure state pageNumber message)
  | some (.setResultCount count) => paginationSetResultCount state count
  | some (.setPage pageNumber) => some (paginationSetPage state pageNumber)
  | some (.editParams edit) => some (edit.apply state)
  | some (.setClientPageSize pageSize) => paginationSetClientPageSize state pageSize
  | some (.setClientPage pageNumber) => paginationSetClientPage state pageNumber
  | some (.setClientFilter filter) => paginationSetClientFilter state filter
  | some (.setPageBusy pageNumber busy error) =>
    some (paginationPageBusy state pageNumber busy error)
  | none => some state

/-! ## The listed actions -/

/-- The section without its pages, on the first one. -/
def paginationClearPages (state : PaginationState) (entityKey paginationKey : String) :
    PaginationState :=
  match state.get? entityKey with
  | none => state
  | some entityState =>
    match entityState.get? paginationKey with
    | none => state
    | some pagination => state.set entityKey (entityState.set paginationKey
        { pagination with ids := JsObject.empty, currentPage := 1 })

/-- The section without its pages and what was requested, on its first page. -/
def paginationResetPagination (state : PaginationState) (entityKey paginationKey : String) :
    PaginationState :=
  match state.get? entityKey with
  | none => state
  | some entityState =>
    match entityState.get? paginationKey with
    | none => state
    | some pagination =>
      state.set entityKey (entityState.set paginationKey (resetSection pagination))

/-- The client pagination of a section that takes over the list of its seed. -/
def mergePaginationSections (currentPagination seedPagination : PaginationEntityState) :
    Option PaginationClientPagination := do
  let current ← spreadClientPagination currentPagination.clientPagination
  let seed ← spreadClientPagination seedPagination.clientPagination
  return { current with
    totalResults := seed.totalResults
    currentPage := if seed.totalResults ≠ current.totalResults then 1 else current.currentPage }

/-- The sections with one that takes over the list of its seed. -/
def mergeWithSeed (entityState : PaginationEntityTypeState) (paginationKey seed : String) :
    Option PaginationEntityTypeState := do
  let currentPagination :=
    (entityState.get? paginationKey).getD getDefaultPaginationEntityState
  let seeded := entityState.get? seed
  let seedPagination := seeded.getD getDefaultPaginationEntityState
  let clientPagination ← mergePaginationSections currentPagination seedPagination
  return entityState.set paginationKey
    { seedPagination with
      pageCount := currentPagination.pageCount
      currentPage := currentPagination.currentPage
      clientPagination := some clientPagination
      seed := seeded.map fun _ => seed }

/-- The section made or seeded, if the type is there. -/
def createNewPaginationSection (state : PaginationState) (entityKey paginationKey : String)
    (seed : Option String) : Option PaginationState := do
  let entityState ← state.get? entityKey
  match seed.filter (· ≠ ""), entityState.get? paginationKey with
  | none, some _ => return state
  | none, none =>
    return state.set entityKey (entityState.set paginationKey getDefaultPaginationEntityState)
  | some seed, _ => return state.set entityKey (← mergeWithSeed entityState paginationKey seed)

/-! ## The reducer -/

/-- The section that an action of this type with these keys names. -/
def named (type : String) (keys : ActionKeys) : Option (String × String) :=
  if type = "" then none
  else (getActionKey keys).bind fun key => (getPaginationKeyFromAction keys).map fun page =>
    (key, page)

/-- `mergeState` writes the section over the old one, of which it has every property. -/
def enterPaginationReducer (state : PaginationState) (type : String) (keys : ActionKeys)
    (action : Option SectionUpdate) : Option PaginationState :=
  match named type keys with
  | none => some state
  | some (key, paginationKey) => do
    let entityState ← state.get? key
    let updatedPaginationState ← updatePagination (entityState.get? paginationKey) action
    if entityState.get? paginationKey = some updatedPaginationState then
      return state
    else
      return state.set key (entityState.set paginationKey updatedPaginationState)

/-- The types of the known actions are not empty. -/
def SectionUpdate.type : SectionUpdate → String
  | start _ => "REQUEST_START"
  | success _ => "REQUEST_SUCCESS"
  | failure _ _ => "REQUEST_FAILED"
  | setResultCount _ => "[Pagination] Set result count"
  | setPage _ => "[Pagination] Set page"
  | editParams (.set _) => "[Pagination] Set Params"
  | editParams (.add _) => "[Pagination] Add Params"
  | editParams (.remove _) => "[Pagination] Remove Params"
  | setClientPageSize _ => "[Pagination] Set client page size"
  | setClientPage _ => "[Pagination] Set client page"
  | setClientFilter _ => "[Pagination] Set client filter"
  | setPageBusy _ _ _ => "[Pagination] Set Page Busy"

/-- The reducer of the lists. -/
def paginate (state : PaginationState) : PaginationAction → Option PaginationState
  | .apiRequestStart => some state
  | .createPagination entityKey paginationKey seed =>
    createNewPaginationSection state entityKey paginationKey seed
  | .clearPages entityKey paginationKey =>
    some (paginationClearPages state entityKey paginationKey)
  | .resetPagination entityKey paginationKey keepPages =>
    if !keepPages then some (paginationResetPagination state entityKey paginationKey)
    else enterPaginationReducer state "[Pagination] Reset pagination"
      ⟨⟨some entityKey, some paginationKey⟩, none⟩ none
  | .clearPaginationOfType entityKey =>
    some (paginationClearType state ((entityKey.filter (· ≠ "")).getD applicationSchemaKey))
  | .clearPaginationOfEntity action => paginationClearOfEntity state action
  | .endpoint endpointType => some (clearEndpointEntities state endpointType)
  | .update keys update => enterPaginationReducer state update.type keys (some update)
  | .other type keys => enterPaginationReducer state type keys none

/-! ## What the actions are for -/

/-- At most the one section is another, and no slice is. -/
structure OnlySection (key page : String) (state state' : PaginationState) : Prop where
  types : state'.keys = state.keys
  slices : ∀ key', key' ≠ key → state'.get? key' = state.get? key'
  sections : ∀ page', page' ≠ page → getEntity state' key page' = getEntity state key page'

/-- An update changes at most the section it names. -/
def UpdatesSection (state : PaginationState) (keys : ActionKeys) (update : SectionUpdate) : Prop :=
  ∃ state', paginate state (.update keys update) = some state' ∧
    (named update.type keys = none → state' = state) ∧
    ∀ key page, named update.type keys = some (key, page) → OnlySection key page state state'

/-- What an action may change. The listed actions that are no updates are not asked about. -/
def Framed (state : PaginationState) : PaginationAction → Prop
  | .update keys update => UpdatesSection state keys update
  | .apiRequestStart => paginate state .apiRequestStart = some state
  | .other type keys => paginate state (.other type keys) = some state
  | _ => True

/-- The updates that read the client pagination of the section. -/
def SectionUpdate.ReadsClientPagination : SectionUpdate → Prop
  | success _ | setResultCount _ | setClientPageSize _ | setClientPage _ | setClientFilter _ => True
  | _ => False

/-- The section that an action names is there, or may be created by it. -/
def Addressed (state : PaginationState) : PaginationAction → Prop
  | .update keys update => ∀ key page, named update.type keys = some (key, page) →
    (state.get? key).isSome ∧ (update.ReadsClientPagination →
      ∀ pagination, getEntity state key page = some pagination →
        pagination.clientPagination.isSome)
  | .other type keys => ∀ key page, named type keys = some (key, page) →
    (getEntity state key page).isSome
  | _ => True

/-! ## One section -/

section Section

variable {state state' : PaginationState} {keys : ActionKeys} {type key page : String}
  {action : Option SectionUpdate}

/-- An update throws if it reads a client pagination that is not there. -/
theorem isSome_updatePagination (pagination : Option PaginationEntityState)
    (update : SectionUpdate) : (updatePagination pagination (some update)).isSome ↔
      (update.ReadsClientPagination →
        (pagination.getD getDefaultPaginationEntityState).clientPagination.isSome) := by
  have hreads : ∀ {α β : Type} (clientPagination : Option α) (f : α → β),
      (clientPagination.bind fun a => some (f a)).isSome ↔ (True → clientPagination.isSome) := by
    intro α β clientPagination f
    cases clientPagination <;> simp
  cases update with
  | success _ | setClientPageSize _ | setClientPage _ | setClientFilter _ =>
    exact hreads _ _
  | setResultCount count =>
    simp only [updatePagination, paginationSetResultCount, spreadClientPagination,
      SectionUpdate.ReadsClientPagination, true_imp_iff]
    cases (pagination.getD getDefaultPaginationEntityState).clientPagination with
    | none => rfl
    | some clientPagination =>
      simp only [Option.bind_eq_bind, Option.bind_some, Option.isSome_some, iff_true]
      split_ifs <;> rfl
  | start _ | failure _ _ | setPage _ | editParams _ | setPageBusy _ _ _ =>
    simp [updatePagination, SectionUpdate.ReadsClientPagination]

theorem OnlySection.refl (key page : String) (state : PaginationState) :
    OnlySection key page state state :=
  ⟨rfl, fun _ _ => rfl, fun _ _ => rfl⟩

theorem onlySection_set {entityState : PaginationEntityTypeState}
    (h : state.get? key = some entityState) (pagination : PaginationEntityState) :
    OnlySection key page state (state.set key (entityState.set page pagination)) where
  types := by rw [JsObject.keys_set, if_pos (JsObject.mem_keys_of_get? h)]
  slices key' hne := by rw [JsObject.get?_set, if_neg hne]
  sections page' hne := by
    rw [getEntity_set, if_pos rfl, JsObject.get?_set, if_neg hne, getEntity, h, Option.bind_some]

theorem forall_some_pair {P : String → String → Prop} :
    (∀ key' page', some (key, page) = some (key', page') → P key' page') ↔ P key page := by
  constructor
  · intro h
    exact h key page rfl
  · intro h key' page' heq
    cases heq
    exact h

theorem enterPaginationReducer_of_none (h : named type keys = none) :
    enterPaginationReducer state type keys action = some state := by
  rw [enterPaginationReducer, h]

/-- With a slice for the type the outcome is that of the section. -/
theorem enterPaginationReducer_of_slice (h : named type keys = some (key, page))
    {entityState : PaginationEntityTypeState} (hslice : state.get? key = some entityState) :
    enterPaginationReducer state type keys action =
      (updatePagination (entityState.get? page) action).map fun pagination =>
        if entityState.get? page = some pagination then state
        else state.set key (entityState.set page pagination) := by
  rw [enterPaginationReducer, h]
  simp only [hslice, Option.bind_eq_bind, Option.bind_some]
  cases updatePagination (entityState.get? page) action with
  | none => rfl
  | some pagination =>
    simp only [Option.bind_some, Option.map_some]
    split_ifs <;> rfl

theorem enterPaginationReducer_of_no_slice (h : named type keys = some (key, page))
    (hslice : state.get? key = none) : enterPaginationReducer state type keys action = none := by
  rw [enterPaginationReducer, h]
  simp only [hslice]
  rfl

end Section

theorem updatesSection_iff (state : PaginationState) (keys : ActionKeys) (update : SectionUpdate) :
    UpdatesSection state keys update ↔ Addressed state (.update keys update) := by
  simp only [UpdatesSection, Addressed, paginate]
  cases hnamed : named update.type keys with
  | none =>
    have hkeep : enterPaginationReducer state update.type keys (some update) = some state :=
      enterPaginationReducer_of_none hnamed
    simp [hkeep]
  | some names =>
    obtain ⟨key, page⟩ := names
    simp only [forall_some_pair, reduceCtorEq, false_imp_iff, true_and]
    cases hslice : state.get? key with
    | none =>
      rw [enterPaginationReducer_of_no_slice hnamed hslice]
      simp
    | some entityState =>
      rw [enterPaginationReducer_of_slice hnamed hslice]
      have hreads : (updatePagination (entityState.get? page) (some update)).isSome ↔
          (update.ReadsClientPagination → ∀ pagination, getEntity state key page =
            some pagination → pagination.clientPagination.isSome) := by
        rw [isSome_updatePagination, getEntity, hslice, Option.bind_some]
        cases entityState.get? page <;> simp [getDefaultPaginationEntityState]
      rw [← hreads]
      cases updatePagination (entityState.get? page) (some update) with
      | none => simp
      | some pagination =>
        simp only [Option.map_some, Option.some.injEq, exists_eq_left', Option.isSome_some,
          true_and, iff_true]
        split_ifs
        · exact .refl key page state
        · exact onlySection_set hslice pagination

/-- An action of no known type changes nothing exactly when the section it names is there. -/
theorem other_iff (state : PaginationState) (type : String) (keys : ActionKeys) :
    paginate state (.other type keys) = some state ↔ Addressed state (.other type keys) := by
  simp only [Addressed, paginate]
  cases hnamed : named type keys with
  | none =>
    have hkeep : enterPaginationReducer state type keys none = some state :=
      enterPaginationReducer_of_none hnamed
    simp [hkeep]
  | some names =>
    obtain ⟨key, page⟩ := names
    simp only [forall_some_pair]
    cases hslice : state.get? key with
    | none => simp [enterPaginationReducer_of_no_slice hnamed hslice, getEntity, hslice]
    | some entityState =>
      rw [enterPaginationReducer_of_slice hnamed hslice]
      cases hpage : entityState.get? page with
      | some pagination => simp [updatePagination, hpage, getEntity, hslice]
      | none =>
        -- The default section is created.
        have hcreated : state.set key (entityState.set page getDefaultPaginationEntityState) ≠
            state := by
          intro heq
          have hget := congrArg (fun s => getEntity s key page) heq
          simp [getEntity, hslice, hpage] at hget
        simp [updatePagination, hpage, getEntity, hslice, hcreated]

/-- An action changes nothing, or nothing but its section, exactly when it is addressed. -/
theorem framed_iff (state : PaginationState) (action : PaginationAction) :
    Framed state action ↔ Addressed state action := by
  cases action with
  | update keys update => exact updatesSection_iff state keys update
  | other type keys => exact other_iff state type keys
  | apiRequestStart => exact iff_of_true rfl trivial
  | createPagination _ _ _ | clearPages _ _ | resetPagination _ _ _ | clearPaginationOfType _
  | clearPaginationOfEntity _ | endpoint _ => exact Iff.rfl

/-- `GetAllEndpoints`, which the reducer does not know. -/
def getAllEndpoints : PaginationAction :=
  .other "[Endpoints] Get all" ⟨⟨some endpointSchemaKey, some "endpoint-list"⟩, none⟩

/-- The action creates the section it names, and the page of a type without a slice throws. -/
theorem unknown_action_creates_section :
    paginate (JsObject.empty.set endpointSchemaKey JsObject.empty) getAllEndpoints =
        some (JsObject.empty.set endpointSchemaKey
          (JsObject.empty.set "endpoint-list" getDefaultPaginationEntityState)) ∧
      ¬Framed (JsObject.empty.set endpointSchemaKey JsObject.empty) getAllEndpoints ∧
      paginate (JsObject.empty.set endpointSchemaKey JsObject.empty)
        (.update ⟨⟨some "buildpack", some "all"⟩, none⟩ (.setPage 2)) = none := by
  refine ⟨by decide, fun h => ?_, by decide⟩
  have hget := congrArg (Option.map fun state => (getEntity state endpointSchemaKey
    "endpoint-list").isSome) h
  revert hget
  decide

end PaginationActions

end Stratos
