import Stratos.Jetstream.Datastore
import Stratos.Lib.PromQl

/-!
# Requests for metrics

Who is no administrator can query Prometheus for the metrics of one application of a Cloud
Foundry, and for some metrics of its cells. `getCloudFoundryAppMetrics` asks the Cloud Foundry for
the application and puts matchers with its id into the query (`makePrometheusRequestURI`) ;
`getCloudFoundryCellMetrics` lets a query through that begins with a metric of a white list.

The endpoints that answer, and the metrics endpoints that are connected, are fields of
`MetricsContext`. A Go string is the list of its bytes, written as characters.
-/

open Lib Lib.PromQl

namespace Stratos

/-- A Go string, one character for each byte. -/
abbrev Text := List Char

/-! ## URLs -/

/-- The path and the values of a `url.URL`. -/
structure QueryURL where
  path : String
  /-- `url.Values` -/
  values : String → List Text

/-- `Values.Get` -/
def QueryURL.get (u : QueryURL) (key : String) : Text := (u.values key).headD []

/-- `Values.Set` -/
def QueryURL.set (u : QueryURL) (key : String) (value : Text) : QueryURL :=
  { u with values := Function.update u.values key [value] }

/-- A hexadecimal digit. -/
def isHex (c : Char) : Bool := c.isDigit || ('a' ≤ c && c ≤ 'f') || ('A' ≤ c && c ≤ 'F')

/-- The value of a hexadecimal digit. -/
def unhex (c : Char) : ℕ :=
  if c.isDigit then c.toNat - '0'.toNat
  else if 'a' ≤ c then c.toNat - 'a'.toNat + 10
  else c.toNat - 'A'.toNat + 10

/-- `url.unescape` -/
def unescape : Text → Option Text
  | [] => some []
  | c :: s =>
    if c = '%' then
      match s with
      | a :: b :: s =>
        if isHex a && isHex b then (unescape s).map (Char.ofNat (16 * unhex a + unhex b) :: ·)
        else none
      | _ => none
    else (unescape s).map (c :: ·)

/-- `url.Parse("/v2/apps/" + appID)` : what follows `/v2/apps/` in the path, and the query. -/
def parseAppURL (appID : Text) : Option (Text × Text) := do
  let _ ← unescape ((appID.dropWhile (· ≠ '#')).drop 1)
  let u := appID.takeWhile (· ≠ '#')
  let path ← unescape (u.takeWhile (· ≠ '?'))
  return (path, (u.dropWhile (· ≠ '?')).drop 1)

/-! ## The query -/

/-- `strings.SplitAfter` for one character. -/
def splitAfter (sep : Char) : Text → List Text
  | [] => [[]]
  | c :: s =>
    if c = sep then [c] :: splitAfter sep s
    else match splitAfter sep s with
      | [] => [[c]]
      | part :: parts => (c :: part) :: parts

/-- The URL of a query, with the restriction in the braces of the query. -/
def makePrometheusRequestURI (url : QueryURL) (prometheusOp : String) (modify : Text) : QueryURL :=
  let uri := { url with path := "/api/v1/" ++ prometheusOp }
  let query := uri.get "query"
  if query ≠ [] then
    match splitAfter '{' query with
    | [part] => uri.set "query" (part ++ '{' :: (modify ++ ['}']))
    | [part, rest] =>
      let rest := if rest ≠ ['}'] ∧ modify ≠ [] then ',' :: rest else rest
      uri.set "query" (part ++ modify ++ rest)
    -- With more braces the query stays as it is.
    | _ => uri
  else uri

/-! ## Requests -/

/-- What the metadata of an endpoint says about its metrics. -/
structure MetricsMetadata where
  job : Text
  endpointGUID : String

/-- An endpoint and the provider of its metrics. -/
structure EndpointMetricsRelation where
  metrics : MetricsMetadata
  /-- The guid of the endpoint that has the metrics. -/
  endpoint : String

/-- A `ProxyRequestInfo`. -/
structure MetricsRequest where
  userGUID : String
  resultGUID : String
  /-- The metrics endpoint it goes to, of which the source keeps the guid. -/
  metrics : MetricsMetadata
  method : String
  uri : QueryURL

/-- The request, and what the session, the proxy and the connected endpoints answer. -/
structure MetricsContext where
  method : String
  url : QueryURL
  appID : Text
  op : String
  /-- The header "x-cap-cnsi-list", split. -/
  cnsiList : List String
  /-- The session value "user_id". -/
  userID : Except GoError String
  /-- `ProxyRequest` for `/v2/apps/` with a path and a query : the status of every endpoint. -/
  proxyRequest : Text → Text → Except GoError (List (String × ℤ))
  getMetricsEndpoints : String → List String → Except GoError (List EndpointMetricsRelation)

/-- A request for each of the relations. -/
def makePrometheusRequestInfos (c : MetricsContext) (userGUID : String)
    (metrics : List EndpointMetricsRelation) (prometheusOp : String) (queries : Text)
    (addJob : Bool) : List MetricsRequest :=
  metrics.map fun metric =>
    let addQueries := if queries ≠ [] then queries ++ [','] else queries
    let addQueries :=
      if addJob then addQueries ++ "job=\"".toList ++ metric.metrics.job ++ ['"'] else addQueries
    { userGUID := userGUID
      resultGUID := metric.endpoint
      metrics := metric.metrics
      method := c.method
      uri := makePrometheusRequestURI c.url prometheusOp addQueries }

/-- The requests that are sent. -/
def makePrometheusRequest (c : MetricsContext) (cnsiList : List String) (queries : Text) :
    Except GoError (List MetricsRequest) :=
  match c.userID with
  | .error _ => .error (.new "Could not find session user_id")
  | .ok userGUID =>
    match c.getMetricsEndpoints userGUID cnsiList with
    | .error _ => .error (.new "Can not get metric endpoint metadata")
    | .ok metrics => .ok (makePrometheusRequestInfos c userGUID metrics c.op queries true)

/-- The metrics of an application, if the endpoint gives it to the user. -/
def getCloudFoundryAppMetrics (c : MetricsContext) : Except GoError (List MetricsRequest) :=
  match parseAppURL c.appID with
  -- The error is not looked at, and the URL is `nil`.
  | none => .error (.exit "invalid memory address or nil pointer dereference")
  | some (path, query) => do
    let responses ← c.proxyRequest path query
    if c.op ≠ "query" ∧ c.op ≠ "query_range" then
      .error (.new
        "Only 'query' or 'query_range' is supported for a Cloud Foundry application")
    else
      let cnsiList := (responses.filter fun response => response.2 < 400).map Prod.fst
      makePrometheusRequest c cnsiList ("application_id=\"".toList ++ c.appID ++ ['"'])

/-- The metrics of cells that may be asked for. -/
def cellQueryWhiteList : List Text :=
  ["firehose_value_metric_rep_unhealthy_cell".toList,
    "firehose_value_metric_rep_capacity_remaining_containers".toList,
    "firehose_value_metric_rep_capacity_remaining_disk".toList,
    "firehose_value_metric_rep_capacity_remaining_memory".toList,
    "firehose_value_metric_rep_capacity_total_containers".toList,
    "firehose_value_metric_rep_capacity_total_disk".toList,
    "firehose_value_metric_rep_capacity_total_memory".toList,
    "firehose_value_metric_rep_num_cpus".toList]

/-- The query begins with one of the metrics that may be asked for. -/
def isAllowedCellMetricsQuery (query : Text) : Bool :=
  cellQueryWhiteList.any fun whiteListQuery => whiteListQuery.isPrefixOf query

/-- The metrics of cells, if the query is allowed. -/
def getCloudFoundryCellMetrics (c : MetricsContext) : Except GoError (List MetricsRequest) :=
  if !isAllowedCellMetricsQuery (c.url.get "query") then
    .error (.new "Unsupported prometheus query")
  else makePrometheusRequest c c.cnsiList []

/-! ## Confined queries -/

/-- The matchers that a selector begins with. -/
structure HasMatchers (id job rest : Text) : Prop where
  id_plain : Plain id
  job_plain : Plain job
  begins : ∃ more, rest =
      matcher "application_id".toList id ++ ',' :: (matcher "job".toList job ++ more) ∧
    (more.head? = some ',' ∨ more.head? = some '}')

/-- What comes before the first brace of the query is complete : no string or comment is open. -/
def EndsInCode (query : Text) : Prop := (Reader.start.read (query.takeWhile (· ≠ '{'))).mode = .code

/-- The query that is sent reads the series of the application only : every selector has the
matchers, every metric has a selector, and what was put in is not in a string or a comment. -/
structure Confined (id job query sent : Text) : Prop where
  selectors : EachSelector (HasMatchers id job) .start sent
  metrics : bare sent = []
  refused : sent ≠ query → EndsInCode query

/-- The query that is sent reads listed metrics only, and the job was put in as a matcher. -/
structure ReadsListed (job query sent : Text) : Prop where
  metrics : ∀ name ∈ names sent, name ∈ cellQueryWhiteList
  refused : sent ≠ query → EndsInCode query ∧ Plain job

/-- All requests for an application are confined to the id that the Cloud Foundry was asked for. -/
def ConfinesApp (c : MetricsContext) : Prop :=
  ∀ requests, getCloudFoundryAppMetrics c = .ok requests → ∀ request ∈ requests,
    ∃ id query, parseAppURL c.appID = some (id, query) ∧
      Confined id request.metrics.job (c.url.get "query") (request.uri.get "query")

/-- All requests for cells read listed metrics only. -/
def ConfinesCells (c : MetricsContext) : Prop :=
  ∀ requests, getCloudFoundryCellMetrics c = .ok requests → ∀ request ∈ requests,
    ReadsListed request.metrics.job (c.url.get "query") (request.uri.get "query")

/-- What is asked for an application, or for cells, reads nothing else. -/
def ConfinesMetrics (c : MetricsContext) : Prop := ConfinesApp c ∧ ConfinesCells c

/-! ## Queries that are confined -/

/-- The query with the brace that the code adds. -/
def opened (query : Text) : Text := if '{' ∈ query then query else query ++ ['{']

/-- A query with at most one brace, where the matchers can be put in as such. -/
structure Modifiable (query : Text) : Prop where
  count_le : query.count '{' ≤ 1
  endsInCode : EndsInCode query

/-- The queries that are confined to an application : the empty one, one with several braces that
has the matchers already, and one with at most one brace, if the id is a plain path and all
metrics but the last have a selector. -/
inductive Confinable (appID id job query : Text) : Prop
  | empty (h : query = [])
  | several (count_lt : 1 < query.count '{')
      (selectors : EachSelector (HasMatchers id job) .start query) (metrics : bare query = [])
  | modified (h : Modifiable query) (id_eq : id = appID) (id_plain : Plain appID)
      (job_plain : Plain job) (metrics : bare (opened query) = [])

/-- The queries for cells that read listed metrics only. -/
inductive Listable (job query : Text) : Prop
  | several (count_lt : 1 < query.count '{')
      (metrics : ∀ name ∈ names query, name ∈ cellQueryWhiteList)
  | modified (h : Modifiable query) (job_plain : Plain job)
      (metrics : ∀ name ∈ names (opened query), name ∈ cellQueryWhiteList)

end Stratos
