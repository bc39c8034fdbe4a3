import Stratos.Jetstream.Datastore
import Stratos.Lib.JsObject
import Stratos.Lib.Serving

/-!
# The metrics of the requested endpoints

`getMetricsEndpoints` looks for a metrics provider of each requested endpoint. The providers are
what the metadata of the connected metrics endpoints lists, and each is given to the first
endpoint that it fits, of those that have none yet, in the order in which the map of these is
visited.

A provider that fits by the API URL is not copied : what is kept is a pointer to the loop variable,
which is the last provider when the loop is over. And an endpoint that is requested but not
connected is never missed. So the relations are right if and only if, however the providers can be
given (`Serves`), an endpoint that has one by its API URL only is one that the last provider
matches too, and all the requested endpoints are connected (`matchesCorrectly_iff`).
-/

open Lib

namespace Stratos.MetricsEndpoints

/-- A `ConnectedEndpoint`, of which the plugin reads these. -/
structure ConnectedEndpoint where
  guid : String
  cnsiType : String
  /-- `APIEndpoint.String()` -/
  apiEndpoint : String
  dopplerLoggingEndpoint : String
  tokenMetadata : String
  deriving DecidableEq

/-- A provider, as the metadata of a token has it. -/
structure MetricsProviderMetadata where
  type : String
  url : String
  job : String
  deriving DecidableEq

/-- A provider and the endpoint whose token it is of. -/
structure MetricsMetadata where
  type : String
  url : String
  job : String
  endpointGUID : String
  deriving DecidableEq

/-- An endpoint and the provider of its metrics. -/
structure EndpointMetricsRelation where
  metrics : MetricsMetadata
  endpoint : ConnectedEndpoint
  deriving DecidableEq

/-- What the plugin has the portal for. -/
structure MetricsSpecification where
  listEndpointsByUser : String → Except GoError (List ConnectedEndpoint)
  /-- `json.Unmarshal` into the metadata of providers. -/
  unmarshal : String → Option (List MetricsProviderMetadata)

/-- The type of the endpoints with metrics. -/
def endpointType : String := "metrics"

/-! ## The providers and the requested endpoints -/

/-- The maps and slices that the first loop fills. -/
structure Collected where
  metricsProviders : List MetricsMetadata
  endpointsMap : JsObject ConnectedEndpoint

/-- The providers in the metadata of an endpoint, none if it cannot be read. -/
def MetricsSpecification.providersOf (M : MetricsSpecification) (endpoint : ConnectedEndpoint) :
    List MetricsMetadata :=
  match M.unmarshal endpoint.tokenMetadata with
  | none => []
  | some items => items.map fun item => ⟨item.type, item.url, item.job, endpoint.guid⟩

/-- The endpoint is one that is asked about, or one with providers, or neither. -/
def MetricsSpecification.collect (M : MetricsSpecification) (cnsiList : List String)
    (c : Collected) (endpoint : ConnectedEndpoint) : Collected :=
  if endpoint.guid ∈ cnsiList then
    { c with endpointsMap := c.endpointsMap.set endpoint.guid endpoint }
  else if endpoint.cnsiType = endpointType then
    { c with metricsProviders := c.metricsProviders ++ M.providersOf endpoint }
  else c

/-! ## Giving the providers -/

/-- What the `metrics` of a relation points to. -/
inductive MetricsPointer
  | copy (provider : MetricsMetadata)
  | loopVariable

/-- The endpoint has the URL of the provider, and its type, as the endpoint of the logs. -/
def hasDoppler (provider : MetricsMetadata) (info : ConnectedEndpoint) : Bool :=
  info.cnsiType = provider.type && info.dopplerLoggingEndpoint = provider.url

/-- The URL of the provider is the one of the endpoint. -/
def hasAPIEndpoint (provider : MetricsMetadata) (info : ConnectedEndpoint) : Bool :=
  info.apiEndpoint = provider.url

/-- The second loop, between two providers. -/
structure Matching where
  endpointsMap : JsObject ConnectedEndpoint
  results : JsObject (MetricsPointer × ConnectedEndpoint)
  /-- `metricProviderInfo` -/
  loopVariable : MetricsMetadata

/-- The relation of an entry of the map is made, and the entry is deleted. -/
def Matching.relate (m : Matching) (guid : String) (relation : MetricsPointer × ConnectedEndpoint) :
    Matching where
  endpointsMap := m.endpointsMap.erase guid
  results := m.results.set guid relation
  loopVariable := m.loopVariable

/-- The inner loop, over the entries that are to be visited. -/
def matchEntries (provider : MetricsMetadata) :
    List (String × ConnectedEndpoint) → Matching → Matching
  | [], m => m
  | (guid, info) :: entries, m =>
    if hasDoppler provider info then m.relate guid (.copy provider, info)
    else if hasAPIEndpoint provider info then m.relate guid (.loopVariable, info)
    else matchEntries provider entries m

/-- The loop over the providers, each with the order in which it visits the map. -/
def matchProviders : (ℕ → RowOrder (String × ConnectedEndpoint)) → List MetricsMetadata →
    Matching → Matching
  | _, [], m => m
  | orders, provider :: providers, m =>
    matchProviders (fun i => orders (i + 1)) providers
      (matchEntries provider ((orders 0).scan m.endpointsMap.entries)
        { m with loopVariable := provider })

/-- What the pointer points to after the loop. -/
def MetricsPointer.deref (metricProviderInfo : MetricsMetadata) : MetricsPointer → MetricsMetadata
  | copy provider => provider
  | loopVariable => metricProviderInfo

/-- The relations, once the loop variable is what it stays. -/
def Matching.relations (m : Matching) : JsObject EndpointMetricsRelation :=
  m.results.mapValues fun _ r => ⟨r.1.deref m.loopVariable, r.2⟩

/-- The provider of each endpoint that is asked about, if there is one. -/
def MetricsSpecification.getMetricsEndpoints (M : MetricsSpecification)
    (orders : ℕ → RowOrder (String × ConnectedEndpoint)) (userGUID : String)
    (cnsiList : List String) : Except GoError (JsObject EndpointMetricsRelation) := do
  let userEndpoints ← M.listEndpointsByUser userGUID
  let systemSharedEndpoints ← M.listEndpointsByUser systemSharedUserGuid
  let c := (userEndpoints ++ systemSharedEndpoints).foldl (M.collect cnsiList) ⟨[], .empty⟩
  let m := matchProviders orders c.metricsProviders ⟨c.endpointsMap, .empty, ⟨"", "", "", ""⟩⟩
  if m.endpointsMap.entries ≠ [] then
    .error (.new "Can not find a metric provider for all of the specified endpoints")
  else .ok m.relations

/-! ## What is asked of the relations -/

/-- The provider has the endpoint's URL. -/
def Fits (provider : MetricsMetadata) (info : ConnectedEndpoint) : Prop :=
  info.cnsiType = provider.type ∧ info.dopplerLoggingEndpoint = provider.url ∨
    info.apiEndpoint = provider.url

instance (provider : MetricsMetadata) (info : ConnectedEndpoint) : Decidable (Fits provider info) :=
  inferInstanceAs (Decidable (_ ∨ _))

/-- An entry of the map that can be given the provider. -/
def fitsEntry (provider : MetricsMetadata) (e : String × ConnectedEndpoint) : Bool :=
  Fits provider e.2

/-- The metadata of a connected metrics endpoint lists the provider. -/
def MetricsSpecification.IsProvider (M : MetricsSpecification) (connected : List ConnectedEndpoint)
    (provider : MetricsMetadata) : Prop :=
  ∃ endpoint ∈ connected, endpoint.cnsiType = endpointType ∧ provider ∈ M.providersOf endpoint

/-- One relation for each requested endpoint, with a provider of this endpoint. -/
structure MetricsSpecification.IsExact (M : MetricsSpecification)
    (connected : List ConnectedEndpoint) (cnsiList : List String)
    (results : JsObject EndpointMetricsRelation) : Prop where
  requested : ∀ guid, guid ∈ results.keys ↔ guid ∈ cnsiList
  endpoint_mem : ∀ guid relation, results.get? guid = some relation →
    relation.endpoint ∈ connected ∧ relation.endpoint.guid = guid
  isProvider : ∀ guid relation, results.get? guid = some relation →
    M.IsProvider connected relation.metrics
  fits : ∀ guid relation, results.get? guid = some relation →
    Fits relation.metrics relation.endpoint

/-- The relations are exact, or there is an error, as there must be if a requested endpoint is not
connected or has no provider. -/
structure MetricsSpecification.MatchesCorrectly (M : MetricsSpecification)
    (userGUID : String) (cnsiList : List String)
    (r : Except GoError (JsObject EndpointMetricsRelation)) : Prop where
  isExact : ∀ results, r = .ok results →
    ∃ user shared, M.listEndpointsByUser userGUID = .ok user ∧
      M.listEndpointsByUser systemSharedUserGuid = .ok shared ∧
        M.IsExact (user ++ shared) cnsiList results
  reports : ∀ user shared, M.listEndpointsByUser userGUID = .ok user →
    M.listEndpointsByUser systemSharedUserGuid = .ok shared →
      (∃ guid ∈ cnsiList, ¬∃ endpoint ∈ user ++ shared, endpoint.guid = guid ∧
        ∃ provider, M.IsProvider (user ++ shared) provider ∧ Fits provider endpoint) →
          ∃ err, r = .error err

/-! ## When they are right -/

/-- The requested endpoints that are connected. With one guid twice, the last counts. -/
def requestedEndpoints (cnsiList : List String) (connected : List ConnectedEndpoint) :
    JsObject ConnectedEndpoint :=
  (connected.filter (·.guid ∈ cnsiList)).foldl (fun o endpoint => o.set endpoint.guid endpoint)
    .empty

/-- The providers, in the order of the endpoints, of those that are not requested themselves. -/
def MetricsSpecification.metricsProviders (M : MetricsSpecification) (cnsiList : List String)
    (connected : List ConnectedEndpoint) : List MetricsMetadata :=
  (connected.filter fun endpoint => endpoint.guid ∉ cnsiList ∧
    endpoint.cnsiType = endpointType).flatMap M.providersOf

/-- However the providers can be given, an endpoint that does not have its own by the URL of its
logs is one that the last provider fits too, and all the requested endpoints are connected. -/
def MetricsSpecification.LastProviderServes (M : MetricsSpecification) (cnsiList : List String)
    (connected : List ConnectedEndpoint) : Prop :=
  ∀ served, Serves fitsEntry (M.metricsProviders cnsiList connected)
      (requestedEndpoints cnsiList connected).entries served →
    (∀ guid ∈ cnsiList, ∃ endpoint ∈ connected, endpoint.guid = guid) ∧
    ∀ provider guid info, (provider, some (guid, info)) ∈ served →
      hasDoppler provider info ∨
        ∃ last ∈ (M.metricsProviders cnsiList connected).getLast?, Fits last info

/-! ## The loop over the providers -/

section Loop

variable {provider : MetricsMetadata} {info : ConnectedEndpoint} {m : Matching} {guid : String}
  {providers : List MetricsMetadata}
  {served : List (MetricsMetadata × Option (String × ConnectedEndpoint))}

theorem decide_fits (provider : MetricsMetadata) (info : ConnectedEndpoint) :
    decide (Fits provider info) = (hasDoppler provider info || hasAPIEndpoint provider info) := by
  rw [Bool.eq_iff_iff, decide_eq_true_iff]
  simp [Fits, hasDoppler, hasAPIEndpoint]

/-- What a relation of the provider points to. -/
def pointerTo (provider : MetricsMetadata) (info : ConnectedEndpoint) : MetricsPointer :=
  if hasDoppler provider info then .copy provider else .loopVariable

/-- What a provider does that is given to an entry, or to none. -/
def Matching.take (m : Matching) (provider : MetricsMetadata)
    (e : Option (String × ConnectedEndpoint)) : Matching :=
  e.elim { m with loopVariable := provider } fun e =>
    { m with loopVariable := provider }.relate e.1 (pointerTo provider e.2, e.2)

theorem matchEntries_eq (provider : MetricsMetadata) (entries : List (String × ConnectedEndpoint))
    (m : Matching) : matchEntries provider entries { m with loopVariable := provider } =
      m.take provider (entries.find? (fitsEntry provider)) := by
  induction entries with
  | nil => rfl
  | cons e entries ih =>
    obtain ⟨guid, info⟩ := e
    rw [matchEntries, List.find?_cons]
    simp only [fitsEntry, decide_fits] at ih ⊢
    by_cases hdoppler : hasDoppler provider info
    · simp [hdoppler, Matching.take, pointerTo]
    · by_cases hapi : hasAPIEndpoint provider info
      · simp [hdoppler, hapi, Matching.take, pointerTo]
      · simp [hdoppler, hapi, ih]

/-- The loop, when it is known to whom each provider is given. -/
def Matching.record (m : Matching)
    (served : List (MetricsMetadata × Option (String × ConnectedEndpoint))) : Matching :=
  served.foldl (fun m x => m.take x.1 x.2) m

theorem record_cons (m : Matching) (x : MetricsMetadata × Option (String × ConnectedEndpoint)) :
    m.record (x :: served) = (m.take x.1 x.2).record served :=
  rfl

@[simp] theorem endpointsMap_take_none (m : Matching) (provider : MetricsMetadata) :
    (m.take provider none).endpointsMap = m.endpointsMap :=
  rfl

@[simp] theorem endpointsMap_take_some (m : Matching) (provider : MetricsMetadata)
    (e : String × ConnectedEndpoint) :
    (m.take provider (some e)).endpointsMap = m.endpointsMap.erase e.1 :=
  rfl

/-- A loop that leaves no entry gives the providers in a way that serves all. -/
theorem exists_serves (orders : ℕ → RowOrder (String × ConnectedEndpoint))
    (h : (matchProviders orders providers m).endpointsMap.entries = []) :
    ∃ served, Serves fitsEntry providers
      m.endpointsMap.entries served ∧ matchProviders orders providers m = m.record served := by
  induction providers generalizing orders m with
  | nil => exact ⟨[], serves_nil_iff.2 ⟨h, rfl⟩, rfl⟩
  | cons provider providers ih =>
    rw [matchProviders, matchEntries_eq] at h ⊢
    obtain ⟨served, hserves, hrecord⟩ := ih _ h
    generalize htaken : ((orders 0).scan m.endpointsMap.entries).find?
      (fitsEntry provider) = taken at hserves hrecord ⊢
    refine ⟨(provider, taken) :: served, ?_, hrecord⟩
    cases taken with
    | none => exact serves_idle_iff.2 ⟨RowOrder.find?_scan_eq_none.1 htaken, hserves⟩
    | some e =>
      have hmem := ((orders 0).perm _).mem_iff.1 (List.mem_of_find?_eq_some htaken)
      exact (serves_busy_iff (JsObject.entries_erase_perm hmem)).2
        ⟨List.find?_some (p := fitsEntry provider) htaken, hserves⟩

/-- Every way that serves all is one that some order of visits takes. -/
theorem exists_orders (h : Serves fitsEntry
      providers m.endpointsMap.entries served) :
    ∃ orders, matchProviders orders providers m = m.record served ∧
      (m.record served).endpointsMap.entries = [] := by
  induction served generalizing providers m with
  | nil =>
    obtain rfl : [] = providers := h.servers_eq
    exact ⟨fun _ => .stored, rfl, (serves_nil_iff.1 h).1⟩
  | cons x served ih =>
    obtain ⟨provider, taken⟩ := x
    obtain rfl : provider :: served.map Prod.fst = providers := h.servers_eq
    obtain ⟨order, horder, hserves⟩ : ∃ order : RowOrder (String × ConnectedEndpoint),
        (order.scan m.endpointsMap.entries).find? (fitsEntry provider) = taken ∧
        Serves fitsEntry
          (served.map Prod.fst) (m.take provider taken).endpointsMap.entries served := by
      cases taken with
      | none =>
        obtain ⟨hidle, hserves⟩ := serves_idle_iff.1 h
        exact ⟨.stored, RowOrder.find?_scan_eq_none.2 hidle, hserves⟩
      | some e =>
        have hmem : e ∈ m.endpointsMap.entries := h.clients_perm.mem_iff.1 (by simp)
        obtain ⟨hfits, hserves⟩ := (serves_busy_iff (JsObject.entries_erase_perm hmem)).1 h
        exact ⟨.startingWith e, RowOrder.find?_startingWith hmem hfits, hserves⟩
    obtain ⟨orders, hrecord, hleft⟩ := ih hserves
    refine ⟨fun i => i.casesOn order orders, ?_, hleft⟩
    rw [matchProviders, matchEntries_eq]
    change matchProviders orders _ (m.take provider ((order.scan _).find? _)) = _
    rw [horder]
    exact hrecord

/-! ### The relations that are made -/

theorem loopVariable_record (m : Matching) : (m.record served).loopVariable =
    (served.map Prod.fst).getLast?.getD m.loopVariable := by
  induction served generalizing m with
  | nil => rfl
  | cons x served ih =>
    have htake : (m.take x.1 x.2).loopVariable = x.1 := by
      rcases x with ⟨provider, _ | e⟩ <;> rfl
    rw [record_cons, ih, htake, List.map_cons, List.getLast?_cons, Option.getD_some]

/-- An entry that is given no provider keeps the relation it has. -/
theorem get?_record_of_notMem (hnot : guid ∉ (served.filterMap Prod.snd).map Prod.fst) :
    (m.record served).results.get? guid = m.results.get? guid := by
  induction served generalizing m with
  | nil => rfl
  | cons x served ih =>
    obtain ⟨provider, _ | e⟩ := x
    · exact ih hnot
    · obtain ⟨hne, hnot⟩ : guid ≠ e.1 ∧ guid ∉ (served.filterMap Prod.snd).map Prod.fst := by
        simpa using hnot
      rw [record_cons, ih hnot]
      exact (JsObject.get?_set _ _ _ _).trans (if_neg hne)

theorem get?_record_of_mem (hnodup : ((served.filterMap Prod.snd).map Prod.fst).Nodup)
    (hmem : (provider, some (guid, info)) ∈ served) :
    (m.record served).results.get? guid = some (pointerTo provider info, info) := by
  induction served generalizing m with
  | nil => cases hmem
  | cons x served ih =>
    obtain ⟨provider', taken⟩ := x
    rcases List.mem_cons.1 hmem with heq | hmem
    · cases heq
      have hnot := (List.nodup_cons.1 hnodup).1
      rw [record_cons, get?_record_of_notMem hnot]
      exact JsObject.get?_set_self _ _ _
    · refine ih ?_ hmem
      cases taken with
      | none => exact hnodup
      | some e => exact (List.nodup_cons.1 hnodup).2

/-- All have been served, so each has the relation with its own provider, or with the last. -/
theorem get?_relations_iff {o : JsObject ConnectedEndpoint} {zero : MetricsMetadata}
    (h : Serves fitsEntry providers o.entries served) (relation : EndpointMetricsRelation) :
    (Matching.record ⟨o, .empty, zero⟩ served).relations.get? guid = some relation ↔
      ∃ provider, (provider, some (guid, relation.endpoint)) ∈ served ∧ relation.metrics =
        (pointerTo provider relation.endpoint).deref (providers.getLast?.getD zero) := by
  have hnodup : ((served.filterMap Prod.snd).map Prod.fst).Nodup :=
    (h.clients_perm.map Prod.fst).nodup_iff.2 o.nodup
  rw [Matching.relations, JsObject.get?_mapValues, loopVariable_record, h.servers_eq]
  constructor
  · intro hget
    obtain ⟨r, hr, rfl⟩ := Option.map_eq_some_iff.1 hget
    have hkey : guid ∈ (served.filterMap Prod.snd).map Prod.fst := by
      by_contra hnot
      rw [get?_record_of_notMem hnot] at hr
      cases hr
    obtain ⟨⟨guid, info⟩, hentry, rfl⟩ := List.mem_map.1 hkey
    obtain ⟨⟨provider, taken⟩, hmem, rfl⟩ := List.mem_filterMap.1 hentry
    rw [get?_record_of_mem hnodup hmem] at hr
    cases hr
    exact ⟨provider, hmem, rfl⟩
  · rintro ⟨provider, hmem, hmetrics⟩
    rw [get?_record_of_mem hnodup hmem, Option.map_some, ← hmetrics]

end Loop

/-! ## The endpoints and the providers that are collected -/

section Collect

variable (M : MetricsSpecification) {cnsiList : List String} {connected : List ConnectedEndpoint}
  {guid : String} {info : ConnectedEndpoint} {provider : MetricsMetadata}

theorem foldl_collect (c : Collected) : connected.foldl (M.collect cnsiList) c =
    ⟨c.metricsProviders ++ M.metricsProviders cnsiList connected,
      (connected.filter (·.guid ∈ cnsiList)).foldl
        (fun o endpoint => o.set endpoint.guid endpoint) c.endpointsMap⟩ := by
  induction connected generalizing c with
  | nil => simp [MetricsSpecification.metricsProviders]
  | cons endpoint connected ih =>
    rw [List.foldl_cons, ih, MetricsSpecification.collect, MetricsSpecification.metricsProviders,
      MetricsSpecification.metricsProviders]
    by_cases hrequested : endpoint.guid ∈ cnsiList
    · simp [hrequested]
    · by_cases htype : endpoint.cnsiType = endpointType
      · simp [hrequested, htype]
      · simp [hrequested, htype]

theorem mem_requestedEndpoints
    (h : (guid, info) ∈ (requestedEndpoints cnsiList connected).entries) :
    info ∈ connected ∧ info.guid = guid ∧ guid ∈ cnsiList := by
  have hget := JsObject.get?_of_mem h
  rw [requestedEndpoints, JsObject.get?_foldl_set, JsObject.get?_empty, Option.or_none] at hget
  have hguid := List.find?_some hget
  have hmem := List.mem_of_find?_eq_some hget
  simp only [List.mem_reverse, List.mem_filter, decide_eq_true_eq] at hguid hmem
  exact ⟨hmem.1, hguid, hguid ▸ hmem.2⟩

theorem exists_requestedEndpoint {endpoint : ConnectedEndpoint} (hmem : endpoint ∈ connected)
    (hrequested : endpoint.guid ∈ cnsiList) :
    ∃ info, (endpoint.guid, info) ∈ (requestedEndpoints cnsiList connected).entries := by
  have hsome : ((requestedEndpoints cnsiList connected).get? endpoint.guid).isSome := by
    rw [requestedEndpoints, JsObject.get?_foldl_set, JsObject.get?_empty, Option.or_none,
      List.find?_isSome]
    exact ⟨endpoint, by simp [hmem, hrequested], by simp⟩
  obtain ⟨e, he, hguid⟩ := List.mem_map.1 (JsObject.isSome_get?_iff.1 hsome)
  exact ⟨e.2, hguid ▸ he⟩

theorem isProvider_of_mem (h : provider ∈ M.metricsProviders cnsiList connected) :
    M.IsProvider connected provider := by
  obtain ⟨endpoint, hmem, hprovider⟩ := List.mem_flatMap.1 h
  obtain ⟨hmem, htype⟩ := List.mem_filter.1 hmem
  exact ⟨endpoint, hmem, (of_decide_eq_true htype).2, hprovider⟩

end Collect

/-! ## The exact condition -/

section Exact

variable {M : MetricsSpecification} {userGUID : String} {cnsiList : List String}
  {user shared connected : List ConnectedEndpoint}
  {served : List (MetricsMetadata × Option (String × ConnectedEndpoint))}

/-- What a function can return that gives the providers in some way. -/
theorem exists_getMetricsEndpoints_eq_ok_iff (huser : M.listEndpointsByUser userGUID = .ok user)
    (hshared : M.listEndpointsByUser systemSharedUserGuid = .ok shared)
    (results : JsObject EndpointMetricsRelation) :
    (∃ orders, M.getMetricsEndpoints orders userGUID cnsiList = .ok results) ↔
      ∃ served, Serves fitsEntry (M.metricsProviders cnsiList (user ++ shared))
        (requestedEndpoints cnsiList (user ++ shared)).entries served ∧
          (Matching.record ⟨requestedEndpoints cnsiList (user ++ shared), .empty, ⟨"", "", "", ""⟩⟩
            served).relations = results := by
  simp only [MetricsSpecification.getMetricsEndpoints, huser, hshared, ok_bind, foldl_collect,
    List.nil_append]
  rw [← requestedEndpoints]
  constructor
  · rintro ⟨orders, h⟩
    split_ifs at h with hleft
    obtain ⟨served, hserves, hrecord⟩ := exists_serves orders (not_ne_iff.1 hleft)
    exact ⟨served, hserves, by rw [← hrecord]; exact Except.ok.inj h⟩
  · rintro ⟨served, hserves, rfl⟩
    obtain ⟨orders, hrecord, hleft⟩ := exists_orders
      (m := ⟨requestedEndpoints cnsiList (user ++ shared), .empty, ⟨"", "", "", ""⟩⟩) hserves
    refine ⟨orders, ?_⟩
    rw [hrecord, if_neg (not_ne_iff.2 hleft)]

/-- The metrics of a relation are its own provider, or the last one. -/
theorem deref_pointerTo {providers : List MetricsMetadata} {provider : MetricsMetadata}
    (zero : MetricsMetadata) (info : ConnectedEndpoint) (hmem : provider ∈ providers) :
    hasDoppler provider info ∧ (pointerTo provider info).deref (providers.getLast?.getD zero) =
      provider ∨
    ¬hasDoppler provider info ∧ ∃ last ∈ providers.getLast?,
      (pointerTo provider info).deref (providers.getLast?.getD zero) = last := by
  by_cases hdoppler : hasDoppler provider info
  · exact Or.inl ⟨hdoppler, by rw [pointerTo, if_pos hdoppler, MetricsPointer.deref]⟩
  · obtain ⟨last, hlast⟩ : ∃ last, providers.getLast? = some last :=
      ⟨_, List.getLast?_eq_some_getLast (List.ne_nil_of_mem hmem)⟩
    refine Or.inr ⟨hdoppler, last, hlast, ?_⟩
    rw [pointerTo, if_neg hdoppler, MetricsPointer.deref, hlast, Option.getD_some]

theorem isExact_relations_iff {zero : MetricsMetadata}
    (h : Serves fitsEntry (M.metricsProviders cnsiList connected)
      (requestedEndpoints cnsiList connected).entries served) :
    M.IsExact connected cnsiList
        (Matching.record ⟨requestedEndpoints cnsiList connected, .empty, zero⟩ served).relations ↔
      (∀ guid ∈ cnsiList, ∃ endpoint ∈ connected, endpoint.guid = guid) ∧
      ∀ provider guid info, (provider, some (guid, info)) ∈ served → hasDoppler provider info ∨
        ∃ last ∈ (M.metricsProviders cnsiList connected).getLast?, Fits last info := by
  have hentry : ∀ provider e, (provider, some e) ∈ served →
      e ∈ (requestedEndpoints cnsiList connected).entries := fun provider e he =>
    h.clients_perm.mem_iff.1 (List.mem_filterMap.2 ⟨(provider, some e), he, rfl⟩)
  have hprovider : ∀ provider e, (provider, e) ∈ served →
      provider ∈ M.metricsProviders cnsiList connected := fun provider e he =>
    h.servers_eq ▸ List.mem_map_of_mem he
  constructor
  · intro hexact
    constructor
    · intro guid hguid
      obtain ⟨relation, hget⟩ := JsObject.exists_get? ((hexact.requested guid).2 hguid)
      exact ⟨relation.endpoint, hexact.endpoint_mem guid relation hget⟩
    · intro provider guid info hmem
      have hfits := hexact.fits guid _
        ((get?_relations_iff h ⟨(pointerTo provider info).deref _, info⟩).2 ⟨provider, hmem, rfl⟩)
      obtain ⟨hdoppler, -⟩ | ⟨-, last, hlast, heq⟩ :=
        deref_pointerTo zero info (hprovider _ _ hmem)
      · exact Or.inl hdoppler
      · exact Or.inr ⟨last, hlast, heq ▸ hfits⟩
  · rintro ⟨hconnected, hlast⟩
    refine ⟨fun guid => ⟨fun hguid => ?_, fun hguid => ?_⟩, fun guid relation hget => ?_,
      fun guid relation hget => ?_, fun guid relation hget => ?_⟩
    · obtain ⟨relation, hget⟩ := JsObject.exists_get? hguid
      obtain ⟨provider, hmem, -⟩ := (get?_relations_iff h relation).1 hget
      exact (mem_requestedEndpoints (hentry _ _ hmem)).2.2
    · obtain ⟨endpoint, hmem, rfl⟩ := hconnected guid hguid
      obtain ⟨info, hinfo⟩ := exists_requestedEndpoint hmem hguid
      obtain ⟨⟨provider, _⟩, hserved, rfl⟩ := List.mem_filterMap.1 (h.clients_perm.mem_iff.2 hinfo)
      exact JsObject.mem_keys_of_get?
        ((get?_relations_iff h ⟨(pointerTo provider info).deref _, info⟩).2
          ⟨provider, hserved, rfl⟩)
    · obtain ⟨provider, hmem, -⟩ := (get?_relations_iff h relation).1 hget
      exact ⟨(mem_requestedEndpoints (hentry _ _ hmem)).1,
        (mem_requestedEndpoints (hentry _ _ hmem)).2.1⟩
    · obtain ⟨provider, hmem, hmetrics⟩ := (get?_relations_iff h relation).1 hget
      obtain ⟨-, heq⟩ | ⟨-, last, hmem', heq⟩ :=
        deref_pointerTo zero relation.endpoint (hprovider _ _ hmem)
      · exact isProvider_of_mem M ((hmetrics.trans heq) ▸ hprovider _ _ hmem)
      · exact isProvider_of_mem M ((hmetrics.trans heq) ▸ List.mem_of_getLast? hmem')
    · obtain ⟨provider, hmem, hmetrics⟩ := (get?_relations_iff h relation).1 hget
      obtain ⟨hdoppler, heq⟩ | ⟨hdoppler, last, hmem', heq⟩ :=
        deref_pointerTo zero relation.endpoint (hprovider _ _ hmem)
      · rw [hmetrics, heq, ← decide_eq_true_iff (p := Fits _ _), decide_fits, hdoppler,
          Bool.true_or]
      · obtain hdoppler' | ⟨last', hmem'', hfits⟩ := hlast provider guid _ hmem
        · exact absurd hdoppler' hdoppler
        · obtain rfl : last = last' := Option.some.inj (hmem'.symm.trans hmem'')
          rw [hmetrics, heq]
          exact hfits

/-- Exact relations leave no endpoint out that has no provider. -/
theorem matchesCorrectly_iff_isExact (huser : M.listEndpointsByUser userGUID = .ok user)
    (hshared : M.listEndpointsByUser systemSharedUserGuid = .ok shared)
    (r : Except GoError (JsObject EndpointMetricsRelation)) :
    M.MatchesCorrectly userGUID cnsiList r ↔
      ∀ results, r = .ok results → M.IsExact (user ++ shared) cnsiList results := by
  constructor
  · rintro ⟨hexact, -⟩ results hr
    obtain ⟨user', shared', huser', hshared', h⟩ := hexact results hr
    obtain rfl : user = user' := Except.ok.inj (huser.symm.trans huser')
    obtain rfl : shared = shared' := Except.ok.inj (hshared.symm.trans hshared')
    exact h
  · intro hexact
    refine ⟨fun results hr => ⟨user, shared, huser, hshared, hexact results hr⟩, ?_⟩
    rintro user' shared' huser' hshared' ⟨guid, hguid, hnone⟩
    obtain rfl : user = user' := Except.ok.inj (huser.symm.trans huser')
    obtain rfl : shared = shared' := Except.ok.inj (hshared.symm.trans hshared')
    cases r with
    | error err => exact ⟨err, rfl⟩
    | ok results =>
      have h := hexact results rfl
      obtain ⟨relation, hget⟩ := JsObject.exists_get? ((h.requested guid).2 hguid)
      obtain ⟨hmem, heq⟩ := h.endpoint_mem guid relation hget
      exact absurd ⟨relation.endpoint, hmem, heq, relation.metrics,
        h.isProvider guid relation hget, h.fits guid relation hget⟩ hnone

/-- The endpoints are matched as they should be, in any order of the maps, exactly where the last of
the providers serves all that is matched. -/
theorem matchesCorrectly_iff (M : MetricsSpecification) (userGUID : String)
    (cnsiList : List String) :
    (∀ orders,
        M.MatchesCorrectly userGUID cnsiList (M.getMetricsEndpoints orders userGUID cnsiList)) ↔
      ∀ user shared, M.listEndpointsByUser userGUID = .ok user →
        M.listEndpointsByUser systemSharedUserGuid = .ok shared →
          M.LastProviderServes cnsiList (user ++ shared) := by
  constructor
  · intro h user shared huser hshared served hserves
    obtain ⟨orders, hok⟩ :=
      (exists_getMetricsEndpoints_eq_ok_iff huser hshared _).2 ⟨served, hserves, rfl⟩
    exact (isExact_relations_iff hserves).1
      ((matchesCorrectly_iff_isExact huser hshared _).1 (h orders) _ hok)
  · intro h orders
    cases huser : M.listEndpointsByUser userGUID with
    | error err =>
      have herr : M.getMetricsEndpoints orders userGUID cnsiList = .error err := by
        rw [MetricsSpecification.getMetricsEndpoints, huser]
        rfl
      rw [herr]
      exact ⟨nofun, fun _ _ _ _ _ => ⟨err, rfl⟩⟩
    | ok user =>
      cases hshared : M.listEndpointsByUser systemSharedUserGuid with
      | error err =>
        have herr : M.getMetricsEndpoints orders userGUID cnsiList = .error err := by
          rw [MetricsSpecification.getMetricsEndpoints, huser, ok_bind, hshared]
          rfl
        rw [herr]
        exact ⟨nofun, fun _ _ _ _ _ => ⟨err, rfl⟩⟩
      | ok shared =>
        refine (matchesCorrectly_iff_isExact huser hshared _).2 fun results hok => ?_
        obtain ⟨served, hserves, rfl⟩ :=
          (exists_getMetricsEndpoints_eq_ok_iff huser hshared results).1 ⟨orders, hok⟩
        exact (isExact_relations_iff hserves).2 (h user shared huser hshared served hserves)

end Exact

/-! ### Two Kubernetes endpoints -/

/-- A connected endpoint, of which the first of two providers has the API URL. -/
def firstCluster : ConnectedEndpoint := ⟨"first", "k8s", "https://first", "", ""⟩

/-- The metadata of the metrics endpoint. -/
def twoProviders : String := "[\x7b\"type\":\"k8s\",\"url\":\"https://first\",\"job\":\"1\"\x7d," ++
  "\x7b\"type\":\"k8s\",\"url\":\"https://second\",\"job\":\"2\"\x7d]"

/-- A user with two clusters and the providers of both. -/
def twoClusters : MetricsSpecification where
  listEndpointsByUser userGUID := .ok <|
    if userGUID = "user" then
      [firstCluster, ⟨"second", "k8s", "https://second", "", ""⟩,
        ⟨"metrics", "metrics", "https://prometheus", "", twoProviders⟩]
    else []
  unmarshal metadata :=
    if metadata = twoProviders then
      some [⟨"k8s", "https://first", "1"⟩, ⟨"k8s", "https://second", "2"⟩]
    else none

/-- The first endpoint is related to the provider of the second. -/
theorem not_matchesCorrectly_twoClusters :
    ∃ orders results, twoClusters.getMetricsEndpoints orders "user" ["first"] = .ok results ∧
      results.get? "first" =
        some ⟨⟨"k8s", "https://second", "2", "metrics"⟩, firstCluster⟩ ∧
      ¬twoClusters.MatchesCorrectly "user" ["first"] (.ok results) := by
  have hget : ∃ results, twoClusters.getMetricsEndpoints (fun _ => .stored) "user" ["first"] =
      .ok results ∧ results.get? "first" =
        some ⟨⟨"k8s", "https://second", "2", "metrics"⟩, firstCluster⟩ := ⟨_, rfl, by decide⟩
  obtain ⟨results, hok, hget⟩ := hget
  refine ⟨fun _ => .stored, results, hok, hget, fun h => ?_⟩
  obtain ⟨user, shared, -, -, hexact⟩ := h.isExact results rfl
  exact absurd (hexact.fits "first" _ hget) (by decide)

end Stratos.MetricsEndpoints
