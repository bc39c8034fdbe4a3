import Stratos.Frontend.ApiRequest
import Stratos.Lib.Lists

/-!
# Fetching all pages

A list that is spread over pages and endpoints is fetched as one response (`flattenPagination`).
The first response says how many pages there are, and the flattener for the Cloud Foundry API
(`CfAPIFlattener`) merges the others into it, endpoint by endpoint. Afterwards `checkForErrors`
looks for the endpoints that answered with an error.

Each page is asked for once (`requests_eq`). The merge looks at the resources only. An error on a
later page is left out of the merged response, and so the list is shorter with nothing to tell it.
Where the first page of an endpoint has no resources and a later one has, the merge throws, and the
pages of the other endpoints are lost. `flattensAll_iff` says that nothing else is.
-/

open Lib

namespace Stratos

/-! ## Requests for pages -/

section Flattening

variable {Options Request T : Type}

/-- The pages are asked for with options that `buildFetchParams` changes. -/
structure IPaginationFlattener (Options Request T : Type) where
  getTotalPages : T → Option ℕ
  mergePages : List T → Option T
  /-- `fetch(...buildFetchParams(i))` constructs the request. -/
  fetch : ℕ → Options → Request × Options

/-- The requests of the loop over the pages. -/
def fetchPages (flattener : IPaginationFlattener Options Request T) :
    List ℕ → Options → List Request
  | [], _ => []
  | i :: pages, options =>
    let (request, options) := flattener.fetch i options
    request :: fetchPages flattener pages options

/-- What is requested after the first page. -/
def pageRequests (flattener : IPaginationFlattener Options Request T) (options : Options)
    (firstResData : T) : Option (List Request) := do
  let maxRequests ← flattener.getTotalPages firstResData
  return fetchPages flattener (List.range' 2 (maxRequests - 1)) options

/-- The merged response, when each request is answered. -/
def flattenPagination (flattener : IPaginationFlattener Options Request T) (options : Options)
    (respond : Request → T) (firstResData : T) : Option T := do
  let requests ← pageRequests flattener options firstResData
  flattener.mergePages (firstResData :: requests.map respond)

end Flattening

/-- The parameters after `buildFetchParams`, which are those of the request as well. -/
def BaseHttpFetcher.buildFetchParams (pageUrlParam : String) (i : ℕ) (params : URLSearchParams) :
    URLSearchParams :=
  params.set pageUrlParam [.text (toString i)]

/-! ## Responses -/

/-- `errorResponse` of an error, a text or an object. -/
inductive JetStreamErrorResponse
  | text (s : String)
  | object (code : Option ℤ) (description : Option String) (errorCode : Option String)
  deriving DecidableEq

/-- `!!errorResponse` -/
def JetStreamErrorResponse.truthy : JetStreamErrorResponse → Bool
  | text s => s ≠ ""
  | object .. => true

/-- `error` of an error. -/
structure JetStreamErrorStatus where
  status : String
  statusCode : ℤ
  deriving DecidableEq

/-- What an endpoint answered, a page of resources or an error. -/
structure EndpointAnswerPage (R : Type) where
  total_pages : Option ℕ := none
  resources : Option (List R) := none
  error : Option JetStreamErrorStatus := none
  errorResponse : Option JetStreamErrorResponse := none
  deriving DecidableEq

variable {R : Type}

/-- A response to a page, or `null` when it is no JSON. It has `null` for an endpoint that answered
so. -/
abbrev CfPage (R : Type) := Option (JsObject (Option (EndpointAnswerPage R)))

/-- `response[endpointGuid]`, where it is no `null`. -/
def endpointPage (response : JsObject (Option (EndpointAnswerPage R))) (endpointGuid : String) :
    Option (EndpointAnswerPage R) :=
  (response.get? endpointGuid).join

/-! ## The flattener for the Cloud Foundry API -/

/-- Throws when the answer of an endpoint is `null`. -/
def CfAPIFlattener.getTotalPages (res : CfPage R) : Option ℕ := do
  let res ← res
  res.ownKeys.foldlM (fun max endpointGuid => do
    let endpoint ← endpointPage res endpointGuid
    return match endpoint.total_pages with
      | some total_pages => if max < total_pages then total_pages else max
      | none => max) 0

/-- The resources that are added, if there are any. -/
def addedResources (endpoint : Option (EndpointAnswerPage R)) : List R :=
  (endpoint.bind (·.resources)).getD []

/-- Throws when there are resources to add and the first page of the endpoint has no list. -/
def mergeEndpoint (endpointResponse : CfPage R)
    (newResData : JsObject (Option (EndpointAnswerPage R))) (endpointGuid : String) :
    Option (JsObject (Option (EndpointAnswerPage R))) := do
  let endpointResponse ← endpointResponse
  match addedResources (endpointPage endpointResponse endpointGuid) with
  | [] => return newResData
  | resource :: resources => do
    let newEndpoint ← endpointPage newResData endpointGuid
    let newResources ← newEndpoint.resources
    return newResData.set endpointGuid
      (some { newEndpoint with resources := some (newResources ++ resource :: resources) })

/-- Merge all responses into the first page. -/
def CfAPIFlattener.mergePages : List (CfPage R) → Option (CfPage R)
  | [] => none
  | first :: responses => do
    let newResData ← first
    let endpointGuids := newResData.ownKeys
    let merged ← responses.foldlM (fun newResData endpointResponse =>
      endpointGuids.foldlM (mergeEndpoint endpointResponse) newResData) newResData
    return some merged

/-- A request has its parameters when it is constructed. -/
def CfAPIFlattener (R : Type) :
    IPaginationFlattener URLSearchParams URLSearchParams (CfPage R) where
  getTotalPages := CfAPIFlattener.getTotalPages
  mergePages := CfAPIFlattener.mergePages
  fetch i params :=
    let requestParams := BaseHttpFetcher.buildFetchParams "page" i params
    (requestParams, requestParams)

/-! ## Errors -/

/-- The error, with its response. -/
def isJetStreamError (obj : Option (EndpointAnswerPage R)) :
    Option (JetStreamErrorStatus × JetStreamErrorResponse) := do
  let obj ← obj
  let error ← obj.error
  let errorResponse ← obj.errorResponse
  if error.status ≠ "" ∧ error.statusCode ≠ 0 ∧ errorResponse.truthy then
    some (error, errorResponse)
  else none

/-- The response of an error, with the defaults. -/
structure JetStreamCFErrorResponse where
  code : ℤ
  description : String
  error_code : String
  deriving DecidableEq

/-- What is found of the answer of one endpoint. -/
structure APIErrorCheck where
  error : Bool
  errorCode : String
  guid : String
  url : String
  errorResponse : Option JetStreamCFErrorResponse
  deriving DecidableEq

/-- Use defaults if values are not provided. -/
def JetStreamErrorResponse.withDefaults : JetStreamErrorResponse → JetStreamCFErrorResponse
  | text _ => ⟨0, "Unknown", "0"⟩
  | object code description errorCode =>
    { code := code.getD 0
      description := (description.filter (· ≠ "")).getD "Unknown"
      error_code := (errorCode.filter (· ≠ "")).getD "0" }

/-- Whether the answer is an error, and which. -/
def errorCheck (url cfGuid : String) (obj : Option (EndpointAnswerPage R)) : APIErrorCheck :=
  match isJetStreamError obj with
  | some (error, errorResponse) =>
    { error := true
      errorCode := toString error.statusCode
      guid := cfGuid
      url := url
      errorResponse := some errorResponse.withDefaults }
  | none =>
    { error := false
      errorCode := "200"
      guid := cfGuid
      url := url
      errorResponse := none }

/-- `null` when there are no data, unless one endpoint was asked. -/
def checkForErrors (resData : CfPage R) (endpointGuid : Option String) (url : String) :
    Option (List APIErrorCheck) :=
  match resData with
  | none => endpointGuid.map fun guid => [⟨false, "200", guid, url, none⟩]
  | some resData => some (resData.ownKeys.map fun cfGuid =>
      errorCheck url cfGuid (endpointPage resData cfGuid))

/-! ## The property -/

/-- The greatest number of pages that an endpoint has, or 0 where none says. -/
structure IsMaxPages (first : JsObject (Option (EndpointAnswerPage R))) (max : ℕ) : Prop where
  le : ∀ guid endpoint pages, endpointPage first guid = some endpoint →
    endpoint.total_pages = some pages → pages ≤ max
  attained : max = 0 ∨ ∃ guid endpoint, endpointPage first guid = some endpoint ∧
    endpoint.total_pages = some max

/-- The numbers of the pages after the first. -/
def furtherPages (max : ℕ) : List ℕ := List.range' 2 (max - 1)

/-- The request for a page. -/
def requestOf (params : URLSearchParams) (page : ℕ) : URLSearchParams :=
  params.set "page" [.text (toString page)]

/-- The answers of an endpoint on all pages, in their order. -/
def answersOf (first : JsObject (Option (EndpointAnswerPage R))) (pages : List (CfPage R))
    (guid : String) : List (Option (EndpointAnswerPage R)) :=
  endpointPage first guid :: pages.map fun page => page.bind (endpointPage · guid)

/-- The resources of a page that succeeded. -/
def pageResources (answer : Option (EndpointAnswerPage R)) : Option (List R) :=
  if (isJetStreamError answer).isSome then none else answer.bind (·.resources)

/-- The merged response has all of an endpoint, or its error. -/
structure FlattensEndpoint (answers : List (Option (EndpointAnswerPage R)))
    (merged : JsObject (Option (EndpointAnswerPage R))) (guid : String) : Prop where
  resources : ∀ lists, answers.mapM pageResources = some lists →
    (endpointPage merged guid).bind (·.resources) = some lists.flatten
  error : (∃ answer ∈ answers, (isJetStreamError answer).isSome) →
    ∀ endpointGuid url, ∃ checks, checkForErrors (some merged) endpointGuid url = some checks ∧
      ∃ check ∈ checks, check.guid = guid ∧ check.error

/-- Each further page is requested once, and nothing is lost. -/
def FlattensAll (params : URLSearchParams) (respond : URLSearchParams → CfPage R)
    (first : CfPage R) : Prop :=
  ∃ data max, first = some data ∧ IsMaxPages data max ∧
    pageRequests (CfAPIFlattener R) params first =
      some ((furtherPages max).map (requestOf params)) ∧
    ∃ merged, flattenPagination (CfAPIFlattener R) params respond first = some (some merged) ∧
      ∀ guid ∈ data.keys, FlattensEndpoint
        (answersOf data ((furtherPages max).map (respond <| requestOf params ·)) guid) merged guid

/-- What the merge needs of the responses. -/
structure PagesFit (data : JsObject (Option (EndpointAnswerPage R))) (pages : List (CfPage R)) :
    Prop where
  answered : ∀ guid ∈ data.keys, (endpointPage data guid).isSome
  readable : data.keys ≠ [] → ∀ page ∈ pages, page.isSome
  /-- An endpoint whose first page has no list brings no resources later. -/
  listed : ∀ guid ∈ data.keys, ∀ response, some response ∈ pages →
    addedResources (endpointPage response guid) ≠ [] →
    ((endpointPage data guid).bind (·.resources)).isSome
  /-- An endpoint with an error on a later page has one on the first. -/
  early : ∀ guid ∈ data.keys, ∀ response, some response ∈ pages →
    (isJetStreamError (endpointPage response guid)).isSome →
    (isJetStreamError (endpointPage data guid)).isSome

/-- The merge finds what it needs, and no error is left out. -/
def FirstPageFits (params : URLSearchParams) (respond : URLSearchParams → CfPage R)
    (first : CfPage R) : Prop :=
  ∃ data max, first = some data ∧ IsMaxPages data max ∧
    PagesFit data ((furtherPages max).map (respond <| requestOf params ·))

/-! ## Requests -/

section Requests

variable {data : JsObject (Option (EndpointAnswerPage R))}

theorem endpointPage_eq_none {guid : String} (h : guid ∉ data.keys) :
    endpointPage data guid = none := by
  rw [endpointPage, JsObject.get?_eq_none_iff.2 h]
  rfl

/-- The step of the loop over the endpoints. -/
def maxStep (data : JsObject (Option (EndpointAnswerPage R))) (max : ℕ) (endpointGuid : String) :
    Option ℕ := do
  let endpoint ← endpointPage data endpointGuid
  return match endpoint.total_pages with
    | some total_pages => if max < total_pages then total_pages else max
    | none => max

theorem getTotalPages_eq :
    CfAPIFlattener.getTotalPages (some data) = data.ownKeys.foldlM (maxStep data) 0 := by
  rfl

theorem getTotalPages_isSome_iff : (CfAPIFlattener.getTotalPages (some data)).isSome ↔
    ∀ guid ∈ data.keys, (endpointPage data guid).isSome := by
  rw [getTotalPages_eq, foldlM_isSome_iff (p := fun guid => (endpointPage data guid).isSome)]
  · simp only [JsObject.mem_ownKeys]
  · intro max guid _
    rcases h : endpointPage data guid with _ | endpoint <;> simp [maxStep, h]

theorem foldlM_maxStep {guids : List String} {start max : ℕ}
    (h : guids.foldlM (maxStep data) start = some max) : start ≤ max ∧
      (∀ guid ∈ guids, ∀ endpoint pages, endpointPage data guid = some endpoint →
        endpoint.total_pages = some pages → pages ≤ max) ∧
      (max = start ∨ ∃ guid endpoint, endpointPage data guid = some endpoint ∧
        endpoint.total_pages = some max) := by
  induction guids generalizing start with
  | nil =>
    obtain rfl := Option.some.inj h
    simp
  | cons guid guids ih =>
    rw [List.foldlM_cons] at h
    obtain ⟨next, hstep, h⟩ := Option.bind_eq_some_iff.1 h
    obtain ⟨hle, hrest, hattained⟩ := ih h
    obtain ⟨endpoint, hendpoint, hnext⟩ := Option.bind_eq_some_iff.1 hstep
    have hnext := Option.some.inj hnext
    rcases hpages : endpoint.total_pages with _ | pages
    · rw [hpages] at hnext
      subst hnext
      refine ⟨hle, ?_, hattained⟩
      rw [List.forall_mem_cons]
      refine ⟨fun endpoint' pages' hendpoint' hpages' => ?_, hrest⟩
      obtain rfl := Option.some.inj (hendpoint.symm.trans hendpoint')
      simp [hpages] at hpages'
    · rw [hpages] at hnext
      have hmax : start ≤ next ∧ pages ≤ next ∧ (next = start ∨ next = pages) := by
        rw [← hnext]
        dsimp only
        split_ifs <;> omega
      refine ⟨by omega, ?_, ?_⟩
      · rw [List.forall_mem_cons]
        refine ⟨fun endpoint' pages' hendpoint' hpages' => ?_, hrest⟩
        obtain rfl := Option.some.inj (hendpoint.symm.trans hendpoint')
        obtain rfl := Option.some.inj (hpages.symm.trans hpages')
        omega
      · rcases hattained with rfl | hattained
        · rcases hmax.2.2 with hstart | hfound
          · exact .inl hstart
          · exact .inr ⟨guid, endpoint, hendpoint, hfound ▸ hpages⟩
        · exact .inr hattained

theorem isMaxPages_of_getTotalPages {max : ℕ}
    (h : CfAPIFlattener.getTotalPages (some data) = some max) : IsMaxPages data max := by
  rw [getTotalPages_eq] at h
  obtain ⟨-, hle, hattained⟩ := foldlM_maxStep h
  refine ⟨fun guid endpoint pages hendpoint hpages => ?_, hattained⟩
  have hkey : guid ∈ data.keys := by
    by_contra hnot
    rw [endpointPage_eq_none hnot] at hendpoint
    simp at hendpoint
  exact hle guid (JsObject.mem_ownKeys.2 hkey) endpoint pages hendpoint hpages

theorem IsMaxPages.le_of {a b : ℕ} (ha : IsMaxPages data a) (hb : IsMaxPages data b) : a ≤ b := by
  rcases ha.attained with rfl | ⟨guid, endpoint, hendpoint, hpages⟩
  · exact Nat.zero_le b
  · exact hb.le guid endpoint a hendpoint hpages

/-- There is one greatest number of pages. -/
theorem IsMaxPages.unique {a b : ℕ} (ha : IsMaxPages data a) (hb : IsMaxPages data b) : a = b :=
  (ha.le_of hb).antisymm (hb.le_of ha)

/-- The parameters are shared, but each request has its own page. -/
theorem fetchPages_eq (pages : List ℕ) (params : URLSearchParams) :
    fetchPages (CfAPIFlattener R) pages params = pages.map (requestOf params) := by
  induction pages generalizing params with
  | nil => rfl
  | cons page pages ih =>
    have hshared : requestOf (requestOf params page) = requestOf params := by
      funext page'
      exact JsObject.set_set params "page" _ _
    have hrest := ih (requestOf params page)
    rw [hshared] at hrest
    exact congrArg (requestOf params page :: ·) hrest

/-- Each further page is asked for once. -/
theorem requests_eq {max : ℕ} (h : CfAPIFlattener.getTotalPages (some data) = some max)
    (params : URLSearchParams) : pageRequests (CfAPIFlattener R) params (some data) =
      some ((furtherPages max).map (requestOf params)) := by
  have htotal : (CfAPIFlattener R).getTotalPages (some data) = some max := h
  rw [pageRequests, htotal, ← fetchPages_eq]
  rfl

end Requests

/-! ## The merge -/

section Merge

variable {data merged : JsObject (Option (EndpointAnswerPage R))}

/-- The list with more resources. -/
def withResources (added : List R) (endpoint : Option (EndpointAnswerPage R)) :
    Option (EndpointAnswerPage R) :=
  endpoint.map fun endpoint => { endpoint with resources := endpoint.resources.map (· ++ added) }

/-- What a response makes of the endpoint's page. -/
def mergeCell (endpointResponse : CfPage R) (endpointGuid : String)
    (newEndpoint : Option (Option (EndpointAnswerPage R))) :
    Option (Option (Option (EndpointAnswerPage R))) := do
  let endpointResponse ← endpointResponse
  match addedResources (endpointPage endpointResponse endpointGuid) with
  | [] => return none
  | resource :: resources => do
    let newEndpoint ← newEndpoint.join
    let newResources ← newEndpoint.resources
    return some (some
      { newEndpoint with resources := some (newResources ++ resource :: resources) })

theorem mergeEndpoint_eq (endpointResponse : CfPage R) :
    mergeEndpoint endpointResponse = JsObject.updateAt (mergeCell endpointResponse) := by
  funext data guid
  rcases endpointResponse with _ | response
  · rfl
  · rcases hadded : addedResources (endpointPage response guid) with _ | ⟨resource, resources⟩
    · simp [mergeEndpoint, JsObject.updateAt, mergeCell, hadded]
    · rcases hold : endpointPage data guid with _ | endpoint
      · have hold' : (data.get? guid).join = none := hold
        simp [mergeEndpoint, JsObject.updateAt, mergeCell, hadded, hold, hold']
      · have hold' : (data.get? guid).join = some endpoint := hold
        rcases hlist : endpoint.resources with _ | list <;>
          simp [mergeEndpoint, JsObject.updateAt, mergeCell, hadded, hold, hold', hlist]

/-- The page of an endpoint takes the resources of a response. -/
def CanMerge (data : JsObject (Option (EndpointAnswerPage R))) (guid : String)
    (page : CfPage R) : Prop :=
  ∃ response, page = some response ∧ (addedResources (endpointPage response guid) ≠ [] →
    ((endpointPage data guid).bind (·.resources)).isSome)

/-- What a response adds to an endpoint. -/
def addedBy (guid : String) (page : CfPage R) : List R :=
  addedResources (page.bind (endpointPage · guid))

theorem mergeCell_isSome_iff {page : CfPage R} {guid : String} :
    (mergeCell page guid (data.get? guid)).isSome ↔ CanMerge data guid page := by
  rcases page with _ | response
  · simp [mergeCell, CanMerge]
  · rcases hadded : addedResources (endpointPage response guid) with _ | ⟨resource, resources⟩
    · simp [mergeCell, CanMerge, hadded]
    · rcases hold : endpointPage data guid with _ | endpoint
      · have hold' : (data.get? guid).join = none := hold
        simp [mergeCell, CanMerge, hadded, hold, hold']
      · have hold' : (data.get? guid).join = some endpoint := hold
        rcases hlist : endpoint.resources with _ | list <;>
          simp [mergeCell, CanMerge, hadded, hold, hold', hlist]

theorem join_mergeCell {page : CfPage R} {guid : String} (h : CanMerge data guid page) :
    ((mergeCell page guid (data.get? guid)).join.or (data.get? guid)).join =
      withResources (addedBy guid page) (endpointPage data guid) := by
  obtain ⟨response, rfl, hlist⟩ := h
  rcases hadded : addedResources (endpointPage response guid) with _ | ⟨resource, resources⟩
  · have hnone : addedBy guid (some response) = [] := hadded
    have hsame : withResources [] (endpointPage data guid) = endpointPage data guid := by
      rcases endpointPage data guid with _ | endpoint <;> simp [withResources]
    have hjoin : (data.get? guid).join = endpointPage data guid := rfl
    rw [hnone, hsame]
    simp [mergeCell, hadded, hjoin]
  · have hsome : addedBy guid (some response) = resource :: resources := hadded
    have hlist := hlist (by simp [hadded])
    obtain ⟨list, hlist⟩ := Option.isSome_iff_exists.1 hlist
    obtain ⟨endpoint, hold, hlist⟩ := Option.bind_eq_some_iff.1 hlist
    have hold' : (data.get? guid).join = some endpoint := hold
    simp [mergeCell, hadded, hsome, withResources, hold, hold', hlist]

theorem bind_withResources (added : List R) (endpoint : Option (EndpointAnswerPage R)) :
    (withResources added endpoint).bind (·.resources) =
      (endpoint.bind (·.resources)).map (· ++ added) := by
  rcases endpoint with _ | endpoint <;> rfl

theorem withResources_append (added added' : List R) (endpoint : Option (EndpointAnswerPage R)) :
    withResources added' (withResources added endpoint) =
      withResources (added ++ added') endpoint := by
  rcases endpoint with _ | endpoint
  · rfl
  · rcases h : endpoint.resources with _ | list <;> simp [withResources, h]

theorem withResources_nil (endpoint : Option (EndpointAnswerPage R)) :
    withResources [] endpoint = endpoint := by
  rcases endpoint with _ | endpoint <;> simp [withResources]

/-- The resources of a page do not make it an error, or none. -/
theorem isJetStreamError_withResources (added : List R) (endpoint : Option (EndpointAnswerPage R)) :
    isJetStreamError (withResources added endpoint) = isJetStreamError endpoint := by
  rcases endpoint with _ | endpoint <;> rfl

theorem canMerge_congr {guid : String} {added : List R}
    (h : endpointPage merged guid = withResources added (endpointPage data guid))
    (page : CfPage R) : CanMerge merged guid page ↔ CanMerge data guid page := by
  simp only [CanMerge, h, bind_withResources, Option.isSome_map]

theorem mergePage_spec {guids : List String} (hnd : guids.Nodup) (page : CfPage R)
    (data : JsObject (Option (EndpointAnswerPage R))) :
    ((guids.foldlM (mergeEndpoint page) data).isSome ↔ ∀ guid ∈ guids, CanMerge data guid page) ∧
      ∀ merged, guids.foldlM (mergeEndpoint page) data = some merged → ∀ guid ∈ guids,
        endpointPage merged guid = withResources (addedBy guid page) (endpointPage data guid) := by
  rw [mergeEndpoint_eq]
  obtain ⟨hsome, hget⟩ := JsObject.foldlM_updateAt (f := mergeCell page) hnd data
  have hiff : (guids.foldlM (JsObject.updateAt (mergeCell page)) data).isSome ↔
      ∀ guid ∈ guids, CanMerge data guid page := by
    rw [hsome]
    simp only [mergeCell_isSome_iff]
  refine ⟨hiff, fun merged h guid hguid => ?_⟩
  rw [endpointPage, hget merged h, if_pos hguid]
  exact join_mergeCell (hiff.1 (by rw [h]; rfl) guid hguid)

/-- All pages are merged when each can be, into the first with what they add. -/
theorem mergeAll_spec {guids : List String} (hnd : guids.Nodup) (pages : List (CfPage R))
    (data : JsObject (Option (EndpointAnswerPage R))) :
    ((pages.foldlM (fun data page => guids.foldlM (mergeEndpoint page) data) data).isSome ↔
      ∀ page ∈ pages, ∀ guid ∈ guids, CanMerge data guid page) ∧
    ∀ merged, pages.foldlM (fun data page => guids.foldlM (mergeEndpoint page) data) data =
      some merged → ∀ guid ∈ guids, endpointPage merged guid =
        withResources (pages.map (addedBy guid)).flatten (endpointPage data guid) := by
  induction pages generalizing data with
  | nil =>
    refine ⟨by simp, fun merged h guid _ => ?_⟩
    obtain rfl := Option.some.inj h
    simp [withResources_nil]
  | cons page pages ih =>
    obtain ⟨hsome, hget⟩ := mergePage_spec hnd page data
    rw [List.foldlM_cons]
    rcases hstep : guids.foldlM (mergeEndpoint page) data with _ | next
    · have hnot : ¬∀ guid ∈ guids, CanMerge data guid page := by
        rw [← hsome, hstep]
        simp
      refine ⟨?_, fun merged h => ?_⟩
      · rw [List.forall_mem_cons]
        simp [hnot]
      · simp at h
    · obtain ⟨hiff, hrest⟩ := ih next
      have hcell := hget next hstep
      have hcan : ∀ guid ∈ guids, CanMerge data guid page := hsome.1 (by rw [hstep]; rfl)
      have hsame : (∀ page ∈ pages, ∀ guid ∈ guids, CanMerge next guid page) ↔
          ∀ page ∈ pages, ∀ guid ∈ guids, CanMerge data guid page := by
        refine forall_congr' fun page' => imp_congr_right fun _ => ?_
        refine forall_congr' fun guid => imp_congr_right fun hguid => ?_
        exact canMerge_congr (hcell guid hguid) page'
      refine ⟨?_, fun merged h guid hguid => ?_⟩
      · rw [List.forall_mem_cons, ← hsame, ← hiff]
        exact (and_iff_right hcan).symm
      · rw [hrest merged h guid hguid, hcell guid hguid, withResources_append, List.map_cons,
          List.flatten_cons]

end Merge

/-! ## When nothing is lost -/

section Iff

variable {data merged : JsObject (Option (EndpointAnswerPage R))} {pages : List (CfPage R)}

theorem mergePages_eq : CfAPIFlattener.mergePages (some data :: pages) =
    (pages.foldlM (fun data' page => data.ownKeys.foldlM (mergeEndpoint page) data') data).map
      some := by
  rcases h : pages.foldlM (fun data' page => data.ownKeys.foldlM (mergeEndpoint page) data') data
    with _ | merged <;> simp [CfAPIFlattener.mergePages, h]

/-- Whether the endpoint is reported, whatever was asked. -/
theorem reported_iff {guid : String} (hguid : guid ∈ merged.keys) :
    (∀ endpointGuid url, ∃ checks, checkForErrors (some merged) endpointGuid url = some checks ∧
      ∃ check ∈ checks, check.guid = guid ∧ check.error) ↔
      (isJetStreamError (endpointPage merged guid)).isSome := by
  have herror : ∀ url cfGuid (obj : Option (EndpointAnswerPage R)),
      (errorCheck url cfGuid obj).error = (isJetStreamError obj).isSome ∧
        (errorCheck url cfGuid obj).guid = cfGuid := by
    intro url cfGuid obj
    unfold errorCheck
    rcases isJetStreamError obj with _ | ⟨error, errorResponse⟩ <;> exact ⟨rfl, rfl⟩
  constructor
  · intro h
    obtain ⟨checks, hchecks, check, hcheck, rfl, hreported⟩ := h none ""
    obtain rfl := Option.some.inj hchecks
    obtain ⟨cfGuid, -, rfl⟩ := List.mem_map.1 hcheck
    rw [(herror _ _ _).1] at hreported
    rwa [(herror _ _ _).2]
  · intro h endpointGuid url
    refine ⟨_, rfl, _, List.mem_map.2 ⟨guid, JsObject.mem_ownKeys.2 hguid, rfl⟩, ?_, ?_⟩
    · exact (herror _ _ _).2
    · rw [(herror _ _ _).1]
      exact h

theorem canMerge_of_fit (h : PagesFit data pages) {page : CfPage R} (hpage : page ∈ pages)
    {guid : String} (hguid : guid ∈ data.keys) : CanMerge data guid page := by
  have hpresent := h.readable (List.ne_nil_of_mem hguid) page hpage
  obtain ⟨response, rfl⟩ := Option.isSome_iff_exists.1 hpresent
  exact ⟨response, rfl, h.listed guid hguid response hpage⟩

theorem addedResources_of_pageResources {answer : Option (EndpointAnswerPage R)} {list : List R}
    (h : pageResources answer = some list) : addedResources answer = list := by
  unfold pageResources at h
  split_ifs at h
  rw [addedResources, h]
  rfl

/-- What the pages add, where all of them succeeded. -/
theorem flatten_of_mapM {guid : String} {lists : List (List R)}
    (h : (pages.map fun page => page.bind (endpointPage · guid)).mapM pageResources =
      some lists) : (pages.map (addedBy guid)).flatten = lists.flatten := by
  induction pages generalizing lists with
  | nil =>
    obtain rfl := Option.some.inj h
    rfl
  | cons page pages ih =>
    rw [List.map_cons, List.mapM_cons] at h
    obtain ⟨list, hlist, h⟩ := Option.bind_eq_some_iff.1 h
    obtain ⟨rest, hrest, h⟩ := Option.bind_eq_some_iff.1 h
    obtain rfl := Option.some.inj h
    rw [List.map_cons, List.flatten_cons, List.flatten_cons, ih hrest, addedBy,
      addedResources_of_pageResources hlist]

theorem flattensEndpoint_of_fit (h : PagesFit data pages) {guid : String}
    (hguid : guid ∈ data.keys) (hmerged : endpointPage merged guid =
      withResources (pages.map (addedBy guid)).flatten (endpointPage data guid)) :
    FlattensEndpoint (answersOf data pages guid) merged guid := by
  constructor
  · intro lists hlists
    rw [answersOf, List.mapM_cons] at hlists
    obtain ⟨list, hlist, hlists⟩ := Option.bind_eq_some_iff.1 hlists
    obtain ⟨rest, hrest, hlists⟩ := Option.bind_eq_some_iff.1 hlists
    obtain rfl := Option.some.inj hlists
    have hfirst : (endpointPage data guid).bind (·.resources) = some list := by
      unfold pageResources at hlist
      split_ifs at hlist
      exact hlist
    rw [hmerged, bind_withResources, hfirst, flatten_of_mapM hrest, List.flatten_cons]
    rfl
  · rintro ⟨answer, hanswer, herror⟩
    have hearly : (isJetStreamError (endpointPage data guid)).isSome := by
      rcases List.mem_cons.1 hanswer with rfl | hanswer
      · exact herror
      · obtain ⟨page, hpage, rfl⟩ := List.mem_map.1 hanswer
        rcases page with _ | response
        · simp [isJetStreamError] at herror
        · exact h.early guid hguid response hpage herror
    have hkey : guid ∈ merged.keys := by
      by_contra hnot
      obtain ⟨endpoint, hendpoint⟩ := Option.isSome_iff_exists.1 (h.answered guid hguid)
      rw [endpointPage_eq_none hnot, hendpoint] at hmerged
      simp [withResources] at hmerged
    refine (reported_iff hkey).2 ?_
    rw [hmerged, isJetStreamError_withResources]
    exact hearly

theorem mergePages_iff (hanswered : ∀ guid ∈ data.keys, (endpointPage data guid).isSome) :
    (∃ merged, CfAPIFlattener.mergePages (some data :: pages) = some (some merged) ∧
      ∀ guid ∈ data.keys, FlattensEndpoint (answersOf data pages guid) merged guid) ↔
      PagesFit data pages := by
  obtain ⟨hiff, hget⟩ := mergeAll_spec (JsObject.nodup_ownKeys data) pages data
  simp only [JsObject.mem_ownKeys] at hiff hget
  rw [mergePages_eq]
  constructor
  · rintro ⟨merged, hmerged, hall⟩
    obtain ⟨merged', hfold, heq⟩ := Option.map_eq_some_iff.1 hmerged
    obtain rfl := Option.some.inj heq
    have hcan := hiff.1 (by rw [hfold]; rfl)
    refine ⟨hanswered, ?_, ?_, ?_⟩
    · intro hkeys page hpage
      obtain ⟨guid, hguid⟩ := List.exists_mem_of_ne_nil _ hkeys
      obtain ⟨response, rfl, -⟩ := hcan page hpage guid hguid
      rfl
    · intro guid hguid response hpage hadded
      obtain ⟨response', heq, hlist⟩ := hcan _ hpage guid hguid
      obtain rfl := Option.some.inj heq
      exact hlist hadded
    · intro guid hguid response hpage herror
      have hcell := hget merged' hfold guid hguid
      have hanswer : endpointPage response guid ∈ answersOf data pages guid :=
        List.mem_cons_of_mem _ (List.mem_map.2 ⟨some response, hpage, rfl⟩)
      have hkey : guid ∈ merged'.keys := by
        by_contra hnot
        obtain ⟨endpoint, hendpoint⟩ := Option.isSome_iff_exists.1 (hanswered guid hguid)
        rw [endpointPage_eq_none hnot, hendpoint] at hcell
        simp [withResources] at hcell
      have hreported := (reported_iff hkey).1 ((hall guid hguid).error ⟨_, hanswer, herror⟩)
      rwa [hcell, isJetStreamError_withResources] at hreported
  · intro hfit
    have hsome := hiff.2 fun page hpage guid hguid => canMerge_of_fit hfit hpage hguid
    obtain ⟨merged, hfold⟩ := Option.isSome_iff_exists.1 hsome
    exact ⟨merged, by rw [hfold]; rfl, fun guid hguid =>
      flattensEndpoint_of_fit hfit hguid (hget merged hfold guid hguid)⟩

theorem flattenPagination_eq {max : ℕ}
    (h : CfAPIFlattener.getTotalPages (some data) = some max) (params : URLSearchParams)
    (respond : URLSearchParams → CfPage R) :
    flattenPagination (CfAPIFlattener R) params respond (some data) =
      CfAPIFlattener.mergePages
        (some data :: (furtherPages max).map (respond <| requestOf params ·)) := by
  rw [flattenPagination, requests_eq h, Option.bind_eq_bind, Option.bind_some, List.map_map]
  rfl

section Flattens

variable {params : URLSearchParams} {respond : URLSearchParams → CfPage R} {first : CfPage R}

theorem firstPageFits_of_flattensAll (h : FlattensAll params respond first) :
    FirstPageFits params respond first := by
  obtain ⟨data, max, rfl, hmax, hrequests, merged, hmerged, hall⟩ := h
  obtain ⟨max', htotal, -⟩ := Option.bind_eq_some_iff.1 hrequests
  obtain rfl := hmax.unique (isMaxPages_of_getTotalPages htotal)
  rw [flattenPagination_eq htotal] at hmerged
  have hanswered := getTotalPages_isSome_iff.1 (Option.isSome_iff_exists.2 ⟨max, htotal⟩)
  exact ⟨data, max, rfl, hmax, (mergePages_iff hanswered).1 ⟨merged, hmerged, hall⟩⟩

theorem flattensAll_of_fits (h : FirstPageFits params respond first) :
    FlattensAll params respond first := by
  obtain ⟨data, max, rfl, hmax, hfit⟩ := h
  obtain ⟨max', htotal⟩ := Option.isSome_iff_exists.1 (getTotalPages_isSome_iff.2 hfit.answered)
  obtain rfl := hmax.unique (isMaxPages_of_getTotalPages htotal)
  refine ⟨data, max, rfl, hmax, requests_eq htotal params, ?_⟩
  rw [flattenPagination_eq htotal]
  exact (mergePages_iff hfit.answered).2 hfit

end Flattens

/-- When each further page is requested once, and the merged response has all. -/
theorem flattensAll_iff (params : URLSearchParams) (respond : URLSearchParams → CfPage R)
    (first : CfPage R) : FlattensAll params respond first ↔ FirstPageFits params respond first :=
  ⟨firstPageFits_of_flattensAll, flattensAll_of_fits⟩

end Iff

/-- The first of two pages of the endpoint `cf`, with one resource. -/
def pageOfCf : EndpointAnswerPage ℕ := { total_pages := some 2, resources := some [1] }

/-- An error in place of a page. -/
def errorOfCf : EndpointAnswerPage ℕ :=
  { error := some ⟨"500 Internal Server Error", 500⟩
    errorResponse := some (.object none none none) }

/-- The second page is an error, and the merged response is the first page. -/
theorem not_flattensAll_error : ¬FlattensAll JsObject.empty
    (fun _ => some (JsObject.empty.set "cf" (some errorOfCf)))
    (some (JsObject.empty.set "cf" (some pageOfCf))) := by
  intro h
  obtain ⟨data, max, hdata, hmax, hfit⟩ := firstPageFits_of_flattensAll h
  obtain rfl := Option.some.inj hdata
  have hpages := hmax.le "cf" pageOfCf 2 rfl rfl
  have hmem : (2 : ℕ) ∈ furtherPages max := by
    rw [furtherPages, List.mem_range'_1]
    omega
  have hearly := hfit.early "cf" (by decide) _
    (List.mem_map.2 ⟨2, hmem, rfl⟩) (by decide)
  exact absurd hearly (by decide)

end Stratos
