import Stratos.Lib.JsObject

/-!
# The pagination store

The slice of the front-end store that holds the lists of ids (`PaginationState`) : per type
of entity a number of sections, and per section its pages. The reducers of one section
(`pagination-reducer/*.ts`) read and write a `PaginationEntityState`.

A reducer that reads a property of `undefined` throws : it returns an `Option`, and `none`
is the throw.
-/

open Lib

namespace Stratos

/-! ## Parameters -/

/-- The value of a `QParam` : `string | string[]`. -/
inductive QValue
  | text (s : String)
  | list (l : List String)
  deriving DecidableEq

/-- What stands between the key and the value of a `q` parameter. -/
inductive QJoiner
  | ge | le | lt | gt | inList | colon | eq
  deriving DecidableEq

/-- The joiner as it is sent. -/
def QJoiner.string : QJoiner → String
  | ge => ">="
  | le => "<="
  | lt => "<"
  | gt => ">"
  | inList => " IN "
  | colon => ":"
  | eq => "="

/-- A `q` parameter. -/
structure QParam where
  key : String
  value : QValue
  joiner : QJoiner := .colon
  deriving DecidableEq

/-- The value of another parameter. -/
inductive ParamValue
  | text (s : String)
  | number (n : ℤ)
  | flag (b : Bool)
  deriving DecidableEq

/-- `!!value`. -/
def ParamValue.truthy : ParamValue → Bool
  | text s => s ≠ ""
  | number n => n ≠ 0
  | flag b => b

/-- `!!value`, for the value of a `QParam`. -/
def QValue.truthy : QValue → Bool
  | text s => s ≠ ""
  | list _ => true

/-- The parameters of a request for a page. -/
structure PaginationParam where
  /-- `q`, if the object has it. -/
  q : Option (List QParam) := none
  /-- The other parameters. -/
  others : JsObject ParamValue := JsObject.empty
  deriving DecidableEq

/-- The name of the parameter with the size of a page. -/
def resultPerPageParam : String := "results-per-page"

/-- The size of a page. -/
def resultPerPageParamDefault : ℤ := 5

/-- `{...a, ...b}`. -/
def PaginationParam.spread (a b : PaginationParam) : PaginationParam where
  q := b.q.or a.q
  others := a.others.spread b.others

/-- Replace the first parameter of this key, or add one. -/
def updateQParam (qs : List QParam) (p : QParam) : List QParam :=
  match qs.findIdx? (·.key = p.key) with
  | some i => qs.set i p
  | none => qs ++ [p]

/-- The parameters that are the first of their key. -/
def firstOfKey (qs : List QParam) : List QParam :=
  (qs.zipIdx.filter fun e => qs.findIdx? (·.key = e.1.key) = some e.2).map Prod.fst

/-- The `q` parameters of both, one for each key, where the action counts. -/
def getUniqueQParams (actionParams stateParams : PaginationParam) : List QParam :=
  let qStateParams := (actionParams.q.getD []).foldl updateQParam (stateParams.q.getD [])
  match actionParams.q with
  | none => qStateParams
  | some qActionParams =>
    (firstOfKey (qStateParams ++ qActionParams)).filter (·.value.truthy)

/-- The parameters without those that have no value. -/
def removeEmptyParams (params : PaginationParam) : PaginationParam :=
  { params with
    others := params.others.ownKeys.foldl (fun newObject key =>
      match params.others.get? key with
      | some v => if v.truthy then newObject.set key v else newObject
      | none => newObject) JsObject.empty }

/-! ## Sections -/

/-- What a list is filtered by in the browser. -/
structure PaginationClientFilter where
  string : String
  items : JsObject String
  deriving DecidableEq

/-- How a list that is all there is shown in pages. -/
structure PaginationClientPagination where
  pageSize : ℤ
  currentPage : ℤ
  filter : PaginationClientFilter
  totalResults : ℤ
  deriving DecidableEq

/-- The progress of the request for a page. -/
structure ActionState where
  busy : Bool
  error : Bool
  message : String
  deriving DecidableEq

/-- A section of the pagination store. -/
structure PaginationEntityState where
  currentPage : ℤ
  totalResults : ℤ
  /-- `undefined` when a response without the number was stored. -/
  pageCount : Option ℤ
  /-- The pages. A page is `undefined` when a response without a result was stored. -/
  ids : JsObject (Option (List String))
  params : PaginationParam
  pageRequests : JsObject ActionState
  clientPagination : Option PaginationClientPagination
  seed : Option String
  deriving DecidableEq

/-- The sections of a type, by their pagination keys. -/
abbrev PaginationEntityTypeState := JsObject PaginationEntityState

/-- The sections of all types. -/
abbrev PaginationState := JsObject PaginationEntityTypeState

/-- The size of a page in the browser. -/
def defaultClientPaginationPageSize : ℤ := 9

/-- A section before anything was fetched. -/
def getDefaultPaginationEntityState : PaginationEntityState where
  pageCount := some 0
  currentPage := 1
  totalResults := 0
  ids := JsObject.empty
  pageRequests := JsObject.empty
  params := {}
  clientPagination := some
    { pageSize := defaultClientPaginationPageSize
      currentPage := 1
      filter := ⟨"", JsObject.empty⟩
      totalResults := 0 }
  seed := none

/-- Reads the filter, so that it throws when there is no client pagination. -/
def spreadClientPagination (pag : Option PaginationClientPagination) :
    Option PaginationClientPagination :=
  pag

/-- `state.ids[page]` of a page number. -/
def pageKey (page : ℤ) : String := toString page

/-! ## Requests and responses -/

/-- `apiAction.pageNumber || state.currentPage`. -/
def pageOf (state : PaginationEntityState) (pageNumber : Option ℤ) : ℤ :=
  match pageNumber with
  | some n => if n = 0 then state.currentPage else n
  | none => state.currentPage

/-- The page is being fetched. -/
def paginationStart (state : PaginationEntityState) (pageNumber : Option ℤ) :
    PaginationEntityState :=
  { state with
    pageRequests := state.pageRequests.set (pageKey (pageOf state pageNumber)) ⟨true, false, ""⟩ }

/-- The page could not be fetched. -/
def paginationFailure (state : PaginationEntityState) (pageNumber : Option ℤ) (message : String) :
    PaginationEntityState :=
  { state with
    pageRequests := state.pageRequests.set (pageKey (pageOf state pageNumber))
      ⟨false, true, message⟩ }

/-- The parts of a success action that the reducer reads. A number that is missing counts
as 0. -/
structure PageResponse where
  pageNumber : Option ℤ
  /-- `result`, when the action carries it. -/
  result : Option (List String) := none
  /-- `response.result`, when the action carries a response. -/
  responseResult : Option (List String)
  totalResults : ℤ
  totalPages : ℤ

/-- The page that was fetched, and the numbers that came with it. Throws without client pagination.
-/
def paginationSuccess (state : PaginationEntityState) (action : PageResponse) :
    Option PaginationEntityState := do
  let totalResults := if action.totalResults ≠ 0 then action.totalResults
    else match action.responseResult with
      | some result => result.length
      | none => state.totalResults
  let totalPages := if action.totalPages ≠ 0 then some action.totalPages
    else match action.responseResult with
      | some _ => none
      | none => state.pageCount
  let page := pageKey (pageOf state action.pageNumber)
  -- `state[page]`, the last choice of the source, is `undefined`.
  let pageResult := action.result.or action.responseResult
  let clientPagination ← spreadClientPagination state.clientPagination
  return { state with
    pageRequests := state.pageRequests.set page ⟨false, false, ""⟩
    ids := state.ids.set page pageResult
    pageCount := totalPages
    totalResults := totalResults
    clientPagination := some { clientPagination with totalResults := totalResults } }

/-! ## Editing a section -/

/-- The parameters that replace those of a section. -/
structure SetParams where
  params : PaginationParam
  overwrite : Bool := false

/-- The section with the parameters, over the old ones or in their place. -/
def paginationSetParams (state : PaginationEntityState) (action : SetParams) :
    PaginationEntityState :=
  let defaults : PaginationParam :=
    { others := JsObject.empty.set resultPerPageParam (.number resultPerPageParamDefault) }
  let unique := some (getUniqueQParams action.params state.params)
  let params := { defaults.spread action.params with q := unique }
  { state with
    params := removeEmptyParams (if action.overwrite then params else params.spread state.params) }

/-- The section with the parameters besides the old ones, without the empty ones. -/
def paginationAddParams (state : PaginationEntityState) (params : PaginationParam) :
    PaginationEntityState :=
  { state with
    params := removeEmptyParams
      { state.params.spread params with q := some (getUniqueQParams params state.params) } }

/-- The keys of the parameters that are removed. -/
structure RemoveParams where
  params : List String
  qs : List String

/-- The key "q" itself can be among the keys to remove. The empty key is found among the keys to
remove and is falsy, so that it stays. -/
def paginationRemoveParams (state : PaginationEntityState) (action : RemoveParams) :
    PaginationEntityState :=
  let q := state.params.q.map fun qs => qs.filter fun p => p.key = "" ∨ p.key ∉ action.qs
  { state with
    params :=
      { q := if "q" ∈ action.params then none else q
        others := action.params.foldl JsObject.erase state.params.others } }

/-- The section on another page. -/
def paginationSetPage (state : PaginationEntityState) (pageNumber : ℤ) : PaginationEntityState :=
  { state with currentPage := pageNumber }

/-- What `paginationResetPagination` makes of the section. -/
def resetSection (state : PaginationEntityState) : PaginationEntityState :=
  { state with
    ids := JsObject.empty
    pageRequests := JsObject.empty
    pageCount := some 0
    currentPage := 1
    totalResults := 0 }

/-! ## Removing an entity -/

/-- One page of the nested loop : the section is rebuilt from the section as it was
when the loop over its pages started. -/
def clearPage (guid key : String) (entityPaginationState : PaginationEntityState)
    (newEntityState : PaginationEntityTypeState) (pageKey : String) :
    Option PaginationEntityTypeState := do
  -- Does the entity exist in this page?
  let page ← (entityPaginationState.ids.get? pageKey).join
  if guid ∈ page then
    -- Recreate the pagination section with new values
    let clientPag ← spreadClientPagination entityPaginationState.clientPagination
    return newEntityState.set key { entityPaginationState with
      ids := entityPaginationState.ids.set pageKey (some (page.erase guid))
      totalResults := entityPaginationState.totalResults - 1
      clientPagination := some
        { clientPag with totalResults := clientPag.totalResults - 1, currentPage := 1 } }
  else
    return newEntityState

/-- For each page in a pagination section. -/
def clearSection (guid : String) (newEntityState : PaginationEntityTypeState) (key : String) :
    Option PaginationEntityTypeState := do
  let entityPaginationState ← newEntityState.get? key
  entityPaginationState.ids.ownKeys.foldlM (clearPage guid key entityPaginationState) newEntityState

/-- `ClearPaginationOfEntity`. -/
structure ClearPaginationOfEntity where
  entityKey : String
  entityGuid : String

/-- For each pagination section of an entity type. -/
def paginationClearOfEntity (state : PaginationState) (action : ClearPaginationOfEntity) :
    Option PaginationState :=
  match state.get? action.entityKey with
  | none => some state
  | some entityState => do
    let newEntityState ←
      entityState.ownKeys.foldlM (clearSection action.entityGuid) entityState
    return state.set action.entityKey newEntityState

end Stratos
