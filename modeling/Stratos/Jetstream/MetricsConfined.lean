import Stratos.Jetstream.Metrics

/-!
# Metrics that stay confined

The query is split after its braces, and the matchers are put in after the only one, or in braces
at the end (`sentQuery`). `exists_splits` cuts a query there, and what is read of the query that
is sent is what was read of the query with its brace (`Splits.names_eq`, `Splits.bare_eq`,
`Splits.eachSelector_iff`). The id that is put in is the id the Cloud Foundry was asked for when it
is a plain path (`id_eq_of_quoted`, `hasMatchers_iff`).

`confinesMetrics_iff` says for which requests the metrics are confined. A second metric
(`not_confinesMetrics_twoMetrics`) or a second selector is sent as it came, and the white list of
the cells is compared with the beginning of the query only.
-/

open Lib Lib.PromQl

namespace Stratos

/-! ## The query that is sent -/

section Sent

variable {sep : Char} {query modify : Text}

theorem splitAfter_of_notMem (h : sep ∉ query) : splitAfter sep query = [query] := by
  induction query with
  | nil => rfl
  | cons c s ih =>
    obtain ⟨hc, h⟩ := List.ne_and_not_mem_of_not_mem_cons h
    simp [splitAfter, hc.symm, ih h]

theorem splitAfter_append {a : Text} (h : sep ∉ a) (b : Text) :
    splitAfter sep (a ++ sep :: b) = (a ++ [sep]) :: splitAfter sep b := by
  induction a with
  | nil => simp [splitAfter]
  | cons c a ih =>
    obtain ⟨hc, h⟩ := List.ne_and_not_mem_of_not_mem_cons h
    simp [splitAfter, hc.symm, ih h]

theorem splitAfter_ne_nil (sep : Char) (s : Text) : splitAfter sep s ≠ [] := by
  rcases s with _ | ⟨c, s⟩
  · simp [splitAfter]
  · rw [splitAfter]
    split_ifs
    · simp
    · split <;> simp

/-- The query that is sent in place of `query`. -/
def sentQuery (query modify : Text) : Text :=
  if query = [] then query
  else match splitAfter '{' query with
    | [part] => part ++ '{' :: (modify ++ ['}'])
    | [part, rest] => part ++ modify ++ if rest ≠ ['}'] ∧ modify ≠ [] then ',' :: rest else rest
    | _ => query

@[simp] theorem QueryURL.get_set (u : QueryURL) (key : String) (value : Text) :
    (u.set key value).get key = value := by
  simp [QueryURL.get, QueryURL.set]

theorem get_makePrometheusRequestURI (url : QueryURL) (prometheusOp : String) (modify : Text) :
    (makePrometheusRequestURI url prometheusOp modify).get "query" =
      sentQuery (url.get "query") modify := by
  have hget : QueryURL.get { url with path := "/api/v1/" ++ prometheusOp } "query" =
      url.get "query" := rfl
  unfold makePrometheusRequestURI sentQuery
  dsimp only
  rw [hget]
  rcases eq_or_ne (url.get "query") [] with hnil | hquery
  · simp [hnil, hget]
  · rw [if_pos hquery, if_neg hquery]
    rcases splitAfter '{' (url.get "query") with _ | ⟨part, _ | ⟨rest, _ | ⟨part', parts⟩⟩⟩
    · exact hget
    · exact QueryURL.get_set _ _ _
    · exact QueryURL.get_set _ _ _
    · exact hget

theorem sentQuery_of_notMem (hquery : query ≠ []) (h : '{' ∉ query) :
    sentQuery query modify = query ++ '{' :: (modify ++ ['}']) := by
  simp [sentQuery, hquery, splitAfter_of_notMem h]

/-- What follows the matchers that are put in before `rest`. -/
def afterMatchers (rest : Text) : Text := if rest = ['}'] then rest else ',' :: rest

theorem sentQuery_of_once {a b : Text} (ha : '{' ∉ a) (hb : '{' ∉ b) (hmodify : modify ≠ []) :
    sentQuery (a ++ '{' :: b) modify = a ++ '{' :: (modify ++ afterMatchers b) := by
  rcases eq_or_ne b ['}'] with rfl | hne
  · simp [sentQuery, splitAfter_append ha, splitAfter_of_notMem hb, afterMatchers]
  · simp [sentQuery, splitAfter_append ha, splitAfter_of_notMem hb, afterMatchers, hmodify, hne]

theorem sentQuery_of_several (h : 1 < query.count '{') : sentQuery query modify = query := by
  have hpos : 0 < query.count '{' := by omega
  obtain ⟨a, b, rfl, ha⟩ := List.eq_append_cons_of_mem (List.count_pos_iff.1 hpos)
  have hcount : 0 < b.count '{' := by
    rw [List.count_append, List.count_cons_self, List.count_eq_zero.2 ha] at h
    omega
  obtain ⟨a', b', rfl, ha'⟩ := List.eq_append_cons_of_mem (List.count_pos_iff.1 hcount)
  obtain ⟨part, parts, hparts⟩ := List.exists_cons_of_ne_nil (splitAfter_ne_nil '{' b')
  simp [sentQuery, splitAfter_append ha, splitAfter_append ha', hparts]

/-- A query is empty, has no brace, one brace or several. -/
theorem query_cases (query : Text) : query = [] ∨ (query ≠ [] ∧ '{' ∉ query) ∨
    (∃ a b, query = a ++ '{' :: b ∧ '{' ∉ a ∧ '{' ∉ b) ∨ 1 < query.count '{' := by
  rcases Decidable.em ('{' ∈ query) with hmem | hnot
  · obtain ⟨a, b, rfl, ha⟩ := List.eq_append_cons_of_mem hmem
    rcases Decidable.em ('{' ∈ b) with hb | hb
    · have hpos := List.count_pos_iff.2 hb
      refine Or.inr (Or.inr (Or.inr ?_))
      rw [List.count_append, List.count_cons_self]
      omega
    · exact Or.inr (Or.inr (Or.inl ⟨a, b, rfl, ha, hb⟩))
  · rcases eq_or_ne query [] with hnil | hne
    · exact Or.inl hnil
    · exact Or.inr (Or.inl ⟨hne, hnot⟩)

end Sent

/-! ## What is put in -/

section Modify

variable {query modify : Text} {p : Text → Prop}

/-- A text of matchers : it leaves a reader in a selector where it was, and opens no selector. -/
structure IsMatchers (modify : Text) : Prop where
  read : ∀ names bare,
    (Reader.inSelector names bare).read modify = Reader.inSelector names bare
  eachSelector : ∀ p names bare rest, EachSelector p (.inSelector names bare) (modify ++ rest) ↔
    EachSelector p (.inSelector names bare) rest

theorem isMatchers_matcher {label value : Text} (hlabel : ∀ c ∈ label, isWordChar c = true)
    (hvalue : Plain value) : IsMatchers (matcher label value) :=
  ⟨fun _ _ => Reader.read_matcher hlabel hvalue,
    fun _ _ _ rest => eachSelector_matcher hlabel hvalue rest⟩

theorem IsMatchers.append {m m' : Text} (h : IsMatchers m) (h' : IsMatchers m') :
    IsMatchers (m ++ ',' :: m') := by
  refine ⟨fun names bare => ?_, fun p names bare rest => ?_⟩
  · rw [Reader.read_append, h.read, Reader.read_cons]
    exact h'.read names bare
  · rw [List.append_assoc, h.eachSelector, List.cons_append, EachSelector]
    simp only [Char.reduceEq, false_and, false_implies, true_and]
    exact h'.eachSelector p names bare rest

theorem takeWhile_of_notMem (h : '{' ∉ query) : query.takeWhile (· ≠ '{') = query :=
  List.takeWhile_eq_self_iff.2 fun c hc => by
    have hne : c ≠ '{' := fun heq => h (heq ▸ hc)
    simpa using hne

theorem takeWhile_append {a b : Text} (h : '{' ∉ a) :
    (a ++ '{' :: b).takeWhile (· ≠ '{') = a := by
  rw [List.takeWhile_append_of_pos fun c hc => by
    have hne : c ≠ '{' := fun heq => h (heq ▸ hc)
    simpa using hne]
  simp

/-- A query with at most one brace as the text before the brace that is opened, `a`, and the text
after it : `b` in the query, and `rest` after what is put in. -/
structure Splits (query modify a b rest : Text) : Prop where
  before : query.takeWhile (· ≠ '{') = a
  notMem_before : '{' ∉ a
  opened_eq : opened query = a ++ '{' :: b
  sent_eq : sentQuery query modify = a ++ '{' :: (modify ++ rest)
  sent_ne : sentQuery query modify ≠ query
  notMem_rest : '{' ∉ rest
  head_rest : rest.head? = some ',' ∨ rest.head? = some '}'
  names_rest : ∀ names bare, (((Reader.inSelector names bare).read rest).settle none).names =
    (((Reader.inSelector names bare).read b).settle none).names
  bare_rest : ∀ names bare, (((Reader.inSelector names bare).read rest).settle none).bare =
    (((Reader.inSelector names bare).read b).settle none).bare

/-- A query with at most one brace has a place for the restriction. -/
theorem exists_splits (hquery : query ≠ []) (hcount : query.count '{' ≤ 1) (hmodify : modify ≠ []) :
    ∃ a b rest, Splits query modify a b rest := by
  rcases query_cases query with rfl | ⟨-, hnot⟩ | ⟨a, b, rfl, ha, hb⟩ | hcount'
  · exact absurd rfl hquery
  · have hsent : sentQuery query modify = query ++ '{' :: (modify ++ ['}']) :=
      sentQuery_of_notMem hquery hnot
    refine ⟨query, [], ['}'], takeWhile_of_notMem hnot, hnot, by simp [opened, hnot], hsent,
      fun heq => ?_, by decide, by decide, fun _ _ => rfl, fun _ _ => rfl⟩
    have hlength := congrArg List.length (hsent.symm.trans heq)
    simp at hlength
  · have hread : ∀ names bare, (Reader.inSelector names bare).read (afterMatchers b) =
        (Reader.inSelector names bare).read b := by
      intro names bare
      rw [afterMatchers]
      split_ifs
      · rfl
      · rfl
    have hsent := sentQuery_of_once ha hb hmodify
    refine ⟨a, b, afterMatchers b, takeWhile_append ha, ha, by simp [opened], hsent, fun heq => ?_,
      ?_, ?_, fun names bare => by rw [hread], fun names bare => by rw [hread]⟩
    · have hlength := congrArg List.length (hsent.symm.trans heq)
      have hpos := List.length_pos_iff.2 hmodify
      have hle : b.length ≤ (afterMatchers b).length := by
        rw [afterMatchers]
        split_ifs <;> simp
      simp only [List.length_append, List.length_cons] at hlength
      omega
    · rw [afterMatchers]
      split_ifs
      · exact hb
      · simpa using hb
    · rw [afterMatchers]
      split_ifs with hend
      · simp [hend]
      · exact Or.inl rfl
  · omega

variable {a b rest : Text}

theorem Splits.eachSelector (h : Splits query modify a b rest) (hcode : EndsInCode query) :
    EachSelector p .start (sentQuery query modify) ↔ p (modify ++ rest) ∧
      EachSelector p ((Reader.start.read a).step '{') (modify ++ rest) := by
  rw [EndsInCode, h.before] at hcode
  rw [h.sent_eq, eachSelector_append h.notMem_before, EachSelector]
  simp [hcode]

/-- Each selector of the query that is sent is the one with the restriction. -/
theorem Splits.eachSelector_iff (h : Splits query modify a b rest) (hcode : EndsInCode query)
    (hmodify : IsMatchers modify) :
    EachSelector p .start (sentQuery query modify) ↔ p (modify ++ rest) := by
  rw [h.eachSelector hcode]
  rw [EndsInCode, h.before] at hcode
  have hrest := fun r => eachSelector_append (p := p) (r := r) h.notMem_rest []
  simp only [List.append_nil, EachSelector, iff_true] at hrest
  rw [Reader.step_brace hcode, hmodify.eachSelector]
  exact and_iff_left (hrest _)

theorem Splits.read_eq (h : Splits query modify a b rest) (hcode : EndsInCode query)
    (hmodify : IsMatchers modify) : ∃ names bare,
    Reader.start.read (sentQuery query modify) = (Reader.inSelector names bare).read rest ∧
      Reader.start.read (opened query) = (Reader.inSelector names bare).read b := by
  rw [EndsInCode, h.before] at hcode
  refine ⟨((Reader.start.read a).settle (some '{')).names,
    ((Reader.start.read a).settle (some '{')).bare, ?_, ?_⟩
  · rw [h.sent_eq, Reader.read_append, Reader.read_cons, Reader.step_brace hcode,
      Reader.read_append, hmodify.read]
  · rw [h.opened_eq, Reader.read_append, Reader.read_cons, Reader.step_brace hcode]

/-- The restriction changes no metric. -/
theorem Splits.names_eq (h : Splits query modify a b rest) (hcode : EndsInCode query)
    (hmodify : IsMatchers modify) : names (sentQuery query modify) = names (opened query) := by
  obtain ⟨names, bare, hsent, hopened⟩ := h.read_eq hcode hmodify
  rw [PromQl.names, PromQl.names, hsent, hopened, h.names_rest]

/-- The restriction changes no metric without a selector. -/
theorem Splits.bare_eq (h : Splits query modify a b rest) (hcode : EndsInCode query)
    (hmodify : IsMatchers modify) : bare (sentQuery query modify) = bare (opened query) := by
  obtain ⟨names, bare, hsent, hopened⟩ := h.read_eq hcode hmodify
  rw [PromQl.bare, PromQl.bare, hsent, hopened, h.bare_rest]

end Modify

/-! ## The matchers of an application -/

section Matchers

variable {appID id job query : Text}

theorem isMatchers_job (hjob : Plain job) : IsMatchers (matcher "job".toList job) :=
  isMatchers_matcher (List.all_eq_true.1 (by decide)) hjob

/-- The matchers that are put in for an application. -/
def appMatchers (appID job : Text) : Text :=
  matcher "application_id".toList appID ++ ',' :: matcher "job".toList job

theorem isMatchers_appMatchers (hid : Plain appID) (hjob : Plain job) :
    IsMatchers (appMatchers appID job) :=
  (isMatchers_matcher (List.all_eq_true.1 (by decide)) hid).append (isMatchers_job hjob)

/-- Unescaping makes a text no longer, and keeps its quotes. -/
theorem unescape_spec {s t : Text} (h : unescape s = some t) :
    t.length ≤ s.length ∧ ('"' ∈ s → '"' ∈ t) := by
  fun_induction unescape s generalizing t with
  | case1 =>
    obtain rfl := Option.some.inj h
    simp
  | case2 a b s hhex ih =>
    obtain ⟨t, ht, rfl⟩ := Option.map_eq_some_iff.1 h
    obtain ⟨hlength, hquote⟩ := ih ht
    refine ⟨by simp only [List.length_cons]; omega, fun hmem => List.mem_cons_of_mem _ (hquote ?_)⟩
    have ha : a ≠ '"' := by
      rintro rfl
      simp [isHex] at hhex
    have hb : b ≠ '"' := by
      rintro rfl
      simp [isHex] at hhex
    simpa [ha.symm, hb.symm] using hmem
  | case3 a b s hhex => simp at h
  | case4 s hs => simp at h
  | case5 c s hc ih =>
    obtain ⟨t, ht, rfl⟩ := Option.map_eq_some_iff.1 h
    obtain ⟨hlength, hquote⟩ := ih ht
    refine ⟨by simpa using hlength, fun hmem => ?_⟩
    rcases List.mem_cons.1 hmem with rfl | hmem
    · exact List.mem_cons_self
    · exact List.mem_cons_of_mem _ (hquote hmem)

/-- The id that the Cloud Foundry is asked for, when it stands between quotes as the id that is
put in, is that id. -/
theorem id_eq_of_quoted {path : Text} (hparse : parseAppURL appID = some (id, path))
    (hid : Plain id) {x y : Text} (h : id ++ '"' :: x = appID ++ '"' :: y) : id = appID := by
  obtain ⟨_, _, hparse⟩ := Option.bind_eq_some_iff.1 hparse
  obtain ⟨id', hpath, hparse⟩ := Option.bind_eq_some_iff.1 hparse
  obtain ⟨rfl, -⟩ := Prod.mk.inj (Option.some.inj hparse)
  obtain ⟨hlength, hquote⟩ := unescape_spec hpath
  have hnot : '"' ∉ id' := fun hmem => (hid _ hmem).1 rfl
  rcases List.append_eq_append_iff.1 h with ⟨t, ht, hquotes⟩ | ⟨t, ht, hquotes⟩
  · rcases t with _ | ⟨c, t⟩
    · simpa using ht.symm
    · -- the path ends before the quote, in the id
      obtain rfl : '"' = c := (List.cons.inj hquotes).1
      rw [ht, List.takeWhile_takeWhile, List.takeWhile_append] at hlength hquote
      split_ifs at hlength hquote with hall
      · exact absurd (hquote (by simp)) hnot
      · exact absurd (le_antisymm (List.takeWhile_prefix _).length_le hlength) hall
  · rcases t with _ | ⟨c, t⟩
    · simpa using ht
    · obtain rfl : '"' = c := (List.cons.inj hquotes).1
      exact absurd (ht ▸ List.mem_append_right _ List.mem_cons_self) hnot

/-- The matchers that are put in are those of the id the Cloud Foundry was asked for when the id
is a plain path. -/
theorem hasMatchers_iff {path more : Text} (hparse : parseAppURL appID = some (id, path))
    (hmore : more.head? = some ',' ∨ more.head? = some '}') :
    HasMatchers id job (appMatchers appID job ++ more) ↔
      id = appID ∧ Plain appID ∧ Plain job := by
  constructor
  · rintro ⟨hid, hjob, more', heq, -⟩
    have heq' : id ++ '"' :: (',' :: (matcher "job".toList job ++ more')) =
        appID ++ '"' :: (',' :: (matcher "job".toList job ++ more)) := by
      simpa [appMatchers, matcher] using heq.symm
    obtain rfl := id_eq_of_quoted hparse hid heq'
    exact ⟨rfl, hid, hjob⟩
  · rintro ⟨rfl, hid, hjob⟩
    exact ⟨hid, hjob, more, by simp [appMatchers], hmore⟩

/-- Exactly when a query for an application is confined. -/
theorem confined_iff {path : Text} (hparse : parseAppURL appID = some (id, path)) :
    Confined id job query (sentQuery query (appMatchers appID job)) ↔
      Confinable appID id job query := by
  have hne : appMatchers appID job ≠ [] := by simp [appMatchers, matcher]
  rcases eq_or_ne query [] with rfl | hquery
  · exact iff_of_true ⟨trivial, rfl, fun h => absurd rfl h⟩ (.empty rfl)
  rcases Nat.lt_or_ge 1 (query.count '{') with hcount | hcount
  · rw [sentQuery_of_several hcount]
    constructor
    · rintro ⟨hselectors, hmetrics, -⟩
      exact .several hcount hselectors hmetrics
    · rintro (hnil | ⟨-, hselectors, hmetrics⟩ | ⟨hmodifiable, -⟩)
      · exact absurd hnil hquery
      · exact ⟨hselectors, hmetrics, fun h => absurd rfl h⟩
      · exact absurd hmodifiable.count_le (by omega)
  · obtain ⟨a, b, rest, hsplits⟩ := exists_splits hquery hcount hne
    constructor
    · rintro ⟨hselectors, hmetrics, hrefused⟩
      have hcode := hrefused hsplits.sent_ne
      obtain ⟨hid, hplain, hjob⟩ := (hasMatchers_iff hparse hsplits.head_rest).1
        ((hsplits.eachSelector hcode).1 hselectors).1
      refine .modified ⟨hcount, hcode⟩ hid hplain hjob ?_
      rw [← hsplits.bare_eq hcode (isMatchers_appMatchers hplain hjob)]
      exact hmetrics
    · rintro (hnil | ⟨hcount', -, -⟩ | ⟨⟨-, hcode⟩, hid, hplain, hjob, hmetrics⟩)
      · exact absurd hnil hquery
      · omega
      · have hmatchers := isMatchers_appMatchers hplain hjob
        refine ⟨?_, (hsplits.bare_eq hcode hmatchers).trans hmetrics, fun _ => hcode⟩
        exact (hsplits.eachSelector_iff hcode hmatchers).2
          ((hasMatchers_iff hparse hsplits.head_rest).2 ⟨hid, hplain, hjob⟩)

/-- Exactly when a query for cells reads listed metrics only. -/
theorem listed_iff (hquery : query ≠ []) :
    ReadsListed job query (sentQuery query (matcher "job".toList job)) ↔ Listable job query := by
  have hne : matcher "job".toList job ≠ [] := by simp [matcher]
  rcases Nat.lt_or_ge 1 (query.count '{') with hcount | hcount
  · rw [sentQuery_of_several hcount]
    constructor
    · rintro ⟨hmetrics, -⟩
      exact .several hcount hmetrics
    · rintro (⟨-, hmetrics⟩ | ⟨hmodifiable, -⟩)
      · exact ⟨hmetrics, fun h => absurd rfl h⟩
      · exact absurd hmodifiable.count_le (by omega)
  · obtain ⟨a, b, rest, hsplits⟩ := exists_splits hquery hcount hne
    constructor
    · rintro ⟨hmetrics, hrefused⟩
      obtain ⟨hcode, hjob⟩ := hrefused hsplits.sent_ne
      refine .modified ⟨hcount, hcode⟩ hjob ?_
      rw [← hsplits.names_eq hcode (isMatchers_job hjob)]
      exact hmetrics
    · rintro (⟨hcount', -⟩ | ⟨⟨-, hcode⟩, hjob, hmetrics⟩)
      · omega
      · rw [← hsplits.names_eq hcode (isMatchers_job hjob)] at hmetrics
        exact ⟨hmetrics, fun _ => ⟨hcode, hjob⟩⟩

end Matchers

/-! ## The requests -/

section Requests

variable {c : MetricsContext}

/-- The Cloud Foundry is asked for an id, and the requests go to `metrics`. -/
def AsksApp (c : MetricsContext) (id : Text) (metrics : List EndpointMetricsRelation) : Prop :=
  ∃ path responses userGUID, parseAppURL c.appID = some (id, path) ∧
    c.proxyRequest id path = .ok responses ∧ (c.op = "query" ∨ c.op = "query_range") ∧
    c.userID = .ok userGUID ∧ c.getMetricsEndpoints userGUID
      ((responses.filter fun response => response.2 < 400).map Prod.fst) = .ok metrics

/-- The query is let through, and the requests go to `metrics`. -/
def AsksCells (c : MetricsContext) (metrics : List EndpointMetricsRelation) : Prop :=
  isAllowedCellMetricsQuery (c.url.get "query") = true ∧
    ∃ userGUID, c.userID = .ok userGUID ∧ c.getMetricsEndpoints userGUID c.cnsiList = .ok metrics

theorem makePrometheusRequest_eq_ok {cnsiList : List String} {queries : Text}
    {requests : List MetricsRequest} :
    makePrometheusRequest c cnsiList queries = .ok requests ↔ ∃ userGUID metrics,
      c.userID = .ok userGUID ∧ c.getMetricsEndpoints userGUID cnsiList = .ok metrics ∧
        makePrometheusRequestInfos c userGUID metrics c.op queries true = requests := by
  unfold makePrometheusRequest
  rcases c.userID with _ | userGUID
  · simp
  · rcases hmetrics : c.getMetricsEndpoints userGUID cnsiList with _ | metrics
    · simp [hmetrics]
    · simp [hmetrics]

theorem forall_makePrometheusRequestInfos (c : MetricsContext) (userGUID : String)
    (metrics : List EndpointMetricsRelation) (queries : Text) (p : Text → Text → Prop) :
    (∀ request ∈ makePrometheusRequestInfos c userGUID metrics c.op queries true,
      p request.metrics.job (request.uri.get "query")) ↔
      ∀ metric ∈ metrics, p metric.metrics.job (sentQuery (c.url.get "query")
        ((if queries ≠ [] then queries ++ [','] else queries) ++ "job=\"".toList ++
          metric.metrics.job ++ ['"'])) := by
  rw [makePrometheusRequestInfos, List.forall_mem_map]
  refine forall₂_congr fun metric _ => ?_
  rw [get_makePrometheusRequestURI]
  rfl

theorem getCloudFoundryAppMetrics_eq_ok {requests : List MetricsRequest} :
    getCloudFoundryAppMetrics c = .ok requests ↔ ∃ id path responses,
      parseAppURL c.appID = some (id, path) ∧ c.proxyRequest id path = .ok responses ∧
        (c.op = "query" ∨ c.op = "query_range") ∧
        makePrometheusRequest c ((responses.filter fun response => response.2 < 400).map Prod.fst)
          ("application_id=\"".toList ++ c.appID ++ ['"']) = .ok requests := by
  unfold getCloudFoundryAppMetrics
  rcases hparse : parseAppURL c.appID with _ | ⟨id, path⟩
  · simp
  · rcases hresponses : c.proxyRequest id path with _ | responses
    · simp [hresponses, bind, Except.bind]
    · rcases Decidable.em (c.op = "query" ∨ c.op = "query_range") with hop | hop
      · have hop' : ¬(c.op ≠ "query" ∧ c.op ≠ "query_range") := by tauto
        simp [hresponses, bind, Except.bind, hop, hop']
      · have hop' : c.op ≠ "query" ∧ c.op ≠ "query_range" := by tauto
        simp [hresponses, bind, Except.bind, hop']

theorem confinesApp_iff : ConfinesApp c ↔ ∀ id metrics, AsksApp c id metrics →
    ∀ metric ∈ metrics, Confinable c.appID id metric.metrics.job (c.url.get "query") := by
  have hmatchers : ∀ job, (if "application_id=\"".toList ++ c.appID ++ ['"'] ≠ [] then
      "application_id=\"".toList ++ c.appID ++ ['"'] ++ [',']
        else "application_id=\"".toList ++ c.appID ++ ['"']) ++ "job=\"".toList ++ job ++ ['"'] =
      appMatchers c.appID job := by
    intro job
    simp [appMatchers, matcher]
  have hforall := fun (userGUID : String) (metrics : List EndpointMetricsRelation) =>
    forall_makePrometheusRequestInfos c userGUID metrics
      ("application_id=\"".toList ++ c.appID ++ ['"'])
      fun job sent => ∃ id query, parseAppURL c.appID = some (id, query) ∧
        Confined id job (c.url.get "query") sent
  simp only [hmatchers] at hforall
  constructor
  · rintro h id metrics ⟨path, responses, userGUID, hparse, hresponses, hop, huser, hmetrics⟩
      metric hmetric
    have hrequests := h _ (getCloudFoundryAppMetrics_eq_ok.2 ⟨id, path, responses, hparse,
      hresponses, hop, makePrometheusRequest_eq_ok.2 ⟨userGUID, metrics, huser, hmetrics, rfl⟩⟩)
    obtain ⟨id', path', hparse', hconfined⟩ := (hforall userGUID metrics).1 hrequests metric hmetric
    obtain ⟨rfl, rfl⟩ := Prod.mk.inj (Option.some.inj (hparse.symm.trans hparse'))
    exact (confined_iff hparse).1 hconfined
  · intro h requests hrequests
    obtain ⟨id, path, responses, hparse, hresponses, hop, hrequests⟩ :=
      getCloudFoundryAppMetrics_eq_ok.1 hrequests
    obtain ⟨userGUID, metrics, huser, hmetrics, rfl⟩ := makePrometheusRequest_eq_ok.1 hrequests
    refine (hforall userGUID metrics).2 fun metric hmetric => ⟨id, path, hparse, ?_⟩
    exact (confined_iff hparse).2 (h id metrics
      ⟨path, responses, userGUID, hparse, hresponses, hop, huser, hmetrics⟩ metric hmetric)

theorem confinesCells_iff : ConfinesCells c ↔ ∀ metrics, AsksCells c metrics →
    ∀ metric ∈ metrics, Listable metric.metrics.job (c.url.get "query") := by
  have hforall := fun (userGUID : String) (metrics : List EndpointMetricsRelation) =>
    forall_makePrometheusRequestInfos c userGUID metrics []
      fun job sent => ReadsListed job (c.url.get "query") sent
  have hmatchers : ∀ job, (if ([] : Text) ≠ [] then [] ++ [','] else []) ++
      "job=\"".toList ++ job ++ ['"'] = matcher "job".toList job := by
    intro job
    simp [matcher]
  simp only [hmatchers] at hforall
  have hne : isAllowedCellMetricsQuery (c.url.get "query") = true → c.url.get "query" ≠ [] := by
    intro hallowed hnil
    rw [hnil] at hallowed
    exact absurd hallowed (by decide)
  unfold ConfinesCells getCloudFoundryCellMetrics
  constructor
  · rintro h metrics ⟨hallowed, userGUID, huser, hmetrics⟩ metric hmetric
    have hrequests := h _ (by
      rw [hallowed]
      exact makePrometheusRequest_eq_ok.2 ⟨userGUID, metrics, huser, hmetrics, rfl⟩)
    exact (listed_iff (hne hallowed)).1 ((hforall userGUID metrics).1 hrequests metric hmetric)
  · intro h requests hrequests
    rcases hallowed : isAllowedCellMetricsQuery (c.url.get "query") with _ | _
    · simp [hallowed] at hrequests
    · rw [hallowed] at hrequests
      obtain ⟨userGUID, metrics, huser, hmetrics, rfl⟩ := makePrometheusRequest_eq_ok.1 hrequests
      refine (hforall userGUID metrics).2 fun metric hmetric => (listed_iff (hne hallowed)).2 ?_
      exact h metrics ⟨hallowed, userGUID, huser, hmetrics⟩ metric hmetric

/-- Exactly when the metrics of who is no administrator are confined. -/
theorem confinesMetrics_iff (c : MetricsContext) : ConfinesMetrics c ↔
    (∀ id metrics, AsksApp c id metrics → ∀ metric ∈ metrics,
      Confinable c.appID id metric.metrics.job (c.url.get "query")) ∧
    ∀ metrics, AsksCells c metrics → ∀ metric ∈ metrics,
      Listable metric.metrics.job (c.url.get "query") :=
  and_congr confinesApp_iff confinesCells_iff

end Requests

/-- A request for an application, with a query of two metrics. -/
def twoMetrics : MetricsContext where
  method := "GET"
  url := ⟨"/pp/v1/metrics/cf/app/a1/query", fun key => if key = "query" then
    ["cpu or cpu".toList] else []⟩
  appID := "a1".toList
  op := "query"
  cnsiList := ["cf"]
  userID := .ok "user"
  proxyRequest := fun _ _ => .ok [("cf", 200)]
  getMetricsEndpoints := fun _ _ => .ok [⟨⟨"job".toList, "metrics"⟩, "cf"⟩]

/-- The first metric is sent without a selector. -/
theorem not_confinesMetrics_twoMetrics : ¬ConfinesMetrics twoMetrics := by
  intro h
  obtain ⟨_, _, _, hconfined⟩ := h.1 _ rfl _ List.mem_cons_self
  exact absurd hconfined.metrics (by decide)

end Stratos
