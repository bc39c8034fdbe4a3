import Stratos.Jetstream.PortalProxy
import Stratos.Lib.JsObject

/-!
# Requests that are sent again

`OAuthHandlerFunc` sends a request with the token of the endpoint, and once more with a new token
when the answer is 401 (`round`, `run`). `uaa` of the plugin for user information does the same
with requests to the UAA. The clocks, the answers and the new tokens come from outside
(`Upstream`, `Console`).

A client reads the body of a request to its end, and both send the second request with the same
reader. The body of the loop is a `bytes.Reader` that `http.NewRequest` knows how to rewind, so that
it is sent again in whole, or there is an error (`handlesFaithfully`). The plugin passes the reader
of the incoming request, which has nothing left or gives an error. With nothing left the body is
lost when the first answer is 401 (`not_proxiesFaithfully_update`), and this is all that is wrong
with them (`sentAgain_iff`).
-/

open Lib

namespace Stratos

namespace OAuthFlow

/-- A request. The keys of its header are canonical. -/
structure Request where
  method : String
  url : String
  header : JsObject Bytes
  body : Bytes

/-- What the endpoint answers. -/
structure Response where
  statusCode : ℕ
  body : Bytes

/-- The request with the token in its header. -/
def Request.withToken (req : Request) (token : Bytes) : Request :=
  { req with header := req.header.set "Authorization" (goBytes "bearer " ++ token) }

/-- The second request is the first with the new token. -/
def Request.IsAgain (renewed : Except GoError TokenRecord) (first second : Request) : Prop :=
  ∃ t, renewed = .ok t ∧ second = first.withToken t.authToken

/-! ## The endpoints -/

/-- What a handler meets. In each round the clock is read, the token may be refreshed and a request
may be answered. -/
structure Upstream where
  /-- The time in nanoseconds. -/
  now : ℕ → ℤ
  refresh : ℕ → Except GoError TokenRecord
  /-- The error of the client if it does not rewind a body that was read. -/
  rewind : ℕ → Option GoError
  answer : ℕ → Except GoError Response

/-- The error about the body of a request when `n` requests were sent. One that is empty or was not
read needs no rewinding, and one that is rewound is sent in whole. -/
def Upstream.bodyError (U : Upstream) (n : ℕ) (req : Request) : Option GoError :=
  if n = 0 ∨ req.body = [] then none else U.rewind n

/-- What can be seen of the flow. -/
inductive Event
  | refreshed
  | sent (req : Request)

/-- The request of an event. -/
def Event.request? : Event → Option Request
  | refreshed => none
  | sent req => some req

/-- The variables of the loop, and what it did. -/
structure Loop where
  tokenRec : TokenRecord
  got401 : Bool
  req : Request
  events : List Event

/-- The requests that were sent. -/
def Loop.requests (l : Loop) : List Request := l.events.filterMap Event.request?

/-- The response and the error that the handler returns. -/
abbrev Answer := Option Response × Option GoError

section Handler

variable (U : Upstream) (guid : String)

/-- A round of the loop of `OAuthHandlerFunc` after the token is refreshed. -/
def send (l : Loop) : Loop × Option Answer :=
  let req := l.req.withToken l.tokenRec.authToken
  match U.bodyError l.requests.length req with
  | some err => ({ l with req := req }, some (none, some (.wrap "Request failed: " err)))
  | none =>
    let sent : Loop := { l with req := req, events := l.events ++ [.sent req] }
    match U.answer l.requests.length with
    | .error err => (sent, some (none, some (.wrap "Request failed: " err)))
    | .ok res =>
      if res.statusCode ≠ 401 then (sent, some (some res, none))
      else if l.got401 then (sent, some (some res, some (.new "Failed to authorize")))
      else ({ sent with got401 := true }, none)

/-- The token of the loop is refreshed. -/
def Loop.Refreshes (l : Loop) : Prop :=
  l.got401 = true ∨ l.tokenRec.tokenExpiry * 10 ^ 9 < U.now l.requests.length

instance (l : Loop) : Decidable (l.Refreshes U) := inferInstanceAs (Decidable (_ ∨ _))

/-- A round of the loop of `OAuthHandlerFunc`. -/
def round (l : Loop) : Loop × Option Answer :=
  if l.Refreshes U then
    let l := { l with events := l.events ++ [.refreshed] }
    match U.refresh l.requests.length with
    | .error _ =>
      (l, some (none, some (.new s!"Couldn't refresh token for CNSI with GUID {guid}")))
    | .ok tokenRec => send U { l with tokenRec := tokenRec }
  else send U l

/-- The loop for at most `n` rounds. -/
def run : ℕ → Loop → Loop × Option Answer
  | 0, l => (l, none)
  | n + 1, l =>
    match round U guid l with
    | (l, some answer) => (l, some answer)
    | (l, none) => run n l

/-- The variables before the loop. -/
def start (tokenRec : TokenRecord) (req : Request) : Loop := ⟨tokenRec, false, req, []⟩

end Handler

/-! ## The UAA -/

/-- What the handler of the plugin meets. -/
structure Console where
  uaaEndpoint : String
  /-- The pattern of the route, which ends with a star. -/
  path : String
  /-- The session values. -/
  exp : Except GoError ℤ
  userID : Except GoError String
  username : String → Except GoError String
  refreshUAALogin : String → Bytes → Bool → Option GoError
  /-- `RefreshUAAToken`. -/
  refreshUAAToken : String → Except GoError TokenRecord
  /-- `GetUAATokenRecord` for the first and for the second request. -/
  tokenRecord : ℕ → Except GoError TokenRecord
  /-- `http.NewRequest` for a method and a URL. -/
  newRequest : String → String → Option GoError
  /-- What the reader of the incoming request gives once it was read to its end and closed : an
  error, or nothing. -/
  readAgain : Option GoError
  /-- The answer, and whether its body can be read. -/
  answer : ℕ → Except GoError (ℕ × Except GoError Bytes)

/-- The header is forwarded. -/
def isForwarded (key : String) : Bool :=
  key ≠ "Connection" && key ≠ "Cookie" && key ≠ "Referer" && !"x-cap-".isPrefixOf key.toLower

/-- `fwdHeaders`. -/
def fwdHeaders (header : JsObject Bytes) : JsObject Bytes where
  entries := header.entries.filter fun e => isForwarded e.1
  nodup := header.nodup.sublist (List.filter_sublist.map _)

section Proxy

variable (C : Console)

/-- What the client reads as the body of a request to the UAA. -/
def body (i : ℕ) (echoReq : Request) : Except GoError Bytes :=
  if i = 0 then .ok echoReq.body else C.readAgain.elim (.ok []) .error

/-- `doAPIRequest`, with the request that is sent. -/
def doAPIRequest (i : ℕ) (url : String) (echoReq : Request) :
    List Request × Except GoError (ℕ × Bytes) :=
  match C.tokenRecord i with
  | .error _ => ([], .error (.http 403 "Can not locate token for user"))
  | .ok tokenRec =>
    match C.newRequest echoReq.method url with
    | some err => ([], .error err)
    | none =>
      match body C i echoReq with
      | .error err => ([], .error (.wrap "Request failed: " err))
      | .ok body =>
        let req : Request := ⟨echoReq.method, url, fwdHeaders echoReq.header, body⟩
        let req := req.withToken tokenRec.authToken
        ([req],
          match C.answer i with
          | .error err => .error (.wrap "Request failed: " err)
          | .ok (statusCode, data) => data.map fun body => (statusCode, body))

/-- The URL of the request to the UAA. -/
def targetURL (echoReq : Request) : String :=
  C.uaaEndpoint ++ "/" ++ String.ofList (echoReq.url.toList.drop (C.path.length - 1))

/-- The login with a password, if there is one. -/
def login (username : String) (password : Bytes) (updateSessionToken : Bool) :
    Except GoError Unit :=
  if password = [] then .ok ()
  else match C.refreshUAALogin username password updateSessionToken with
    | some err => .error err
    | none => .ok ()

/-- The requests of `uaa`, with the last answer. -/
def proxyRequests (sessionUser : String) (echoReq : Request) :
    List Request × Except GoError (ℕ × Bytes) :=
  let url := targetURL C echoReq
  match doAPIRequest C 0 url echoReq with
  | (sent, .error err) => (sent, .error err)
  | (sent, .ok (statusCode, body)) =>
    -- Refresh the access token
    if statusCode = 401 then
      match C.refreshUAAToken sessionUser with
      | .error err => (sent, .error err)
      | .ok _ =>
        let (sent', answer) := doAPIRequest C 1 url echoReq
        (sent ++ sent', answer)
    else (sent, .ok (statusCode, body))

/-- The password of a header. -/
def passwordOf (echoReq : Request) (key : String) : Bytes := (echoReq.header.get? key).getD []

/-- `uaa`, with the requests that are sent. -/
def uaa (echoReq : Request) : List Request × Except GoError (ℕ × Bytes) :=
  match C.exp, C.userID with
  | .error _, _ => ([], .error (.http 403 "Could not find session date"))
  | .ok _, .error _ => ([], .error (.http 403 "Could not find user_id in Session"))
  | .ok _, .ok sessionUser =>
    let password := passwordOf echoReq "X-Stratos-Password"
    match C.username sessionUser with
    | .error err => ([], .error err)
    | .ok username =>
      match login C username password false with
      | .error err => ([], .error err)
      | .ok () =>
        match proxyRequests C sessionUser echoReq with
        | (sent, .error err) => (sent, .error err)
        | (sent, .ok answer) =>
          -- If we have the user's password, log them in again
          let newPassword := passwordOf echoReq "X-Stratos-Password-New"
          let password' := if password ≠ [] ∧ newPassword ≠ [] then newPassword else password
          (sent, (login C username password' true).map fun _ => answer)

end Proxy

/-! ## What is expected -/

section Expected

variable (U : Upstream)

/-- The token has expired when the loop starts. -/
def Upstream.Expired (tokenRec : TokenRecord) : Prop := tokenRec.tokenExpiry * 10 ^ 9 < U.now 0

/-- The answer to a request is 401. -/
def Upstream.Rejects (i : ℕ) : Prop := ∃ res, U.answer i = .ok res ∧ res.statusCode = 401

/-- Why the token is refreshed after `n` requests. -/
def Upstream.RefreshReason (tokenRec : TokenRecord) (n : ℕ) : Prop :=
  (n = 0 ∧ U.Expired tokenRec) ∨ (n ≠ 0 ∧ U.Rejects 0)

/-- Each refresh has its reason, when `n` requests were sent before the events. -/
def EachRefresh (p : ℕ → Prop) : ℕ → List Event → Prop
  | _, [] => True
  | n, .refreshed :: events => p n ∧ EachRefresh p n events
  | n, .sent _ :: events => EachRefresh p (n + 1) events

/-- The requests of a handler are the one it was given, and that one again. -/
structure SentAgain (renewed : Except GoError TokenRecord) (req : Request)
    (requests : List Request) : Prop where
  length_le : requests.length ≤ 2
  first : ∀ r, requests.head? = some r → ∃ token, r = req.withToken token
  again : ∀ first second, requests = [first, second] → first.IsAgain renewed second

/-- What the loop leaves and returns. -/
structure Retried (tokenRec : TokenRecord) (req : Request) (l : Loop) (answer : Answer) : Prop where
  refreshes : EachRefresh (U.RefreshReason tokenRec) 0 l.events
  /-- An answer that is not 401 is the last, and is returned. -/
  received : ∀ i res, i < l.requests.length → U.answer i = .ok res → res.statusCode ≠ 401 →
    i + 1 = l.requests.length ∧ answer = (some res, none)
  /-- What is returned without an error is the answer that is not 401. -/
  returned : answer.2 = none → ∃ i res, i < l.requests.length ∧ U.answer i = .ok res ∧
    res.statusCode ≠ 401 ∧ answer.1 = some res
  requests : SentAgain (U.refresh 1) req l.requests

/-- The handler ends, and does what is expected. -/
def HandlesFaithfully (guid : String) (tokenRec : TokenRecord) (req : Request) : Prop :=
  ∃ l answer, (∀ n, 2 ≤ n → run U guid n (start tokenRec req) = (l, some answer)) ∧
    Retried U tokenRec req l answer

/-- The request to the UAA, before the token is in its header. -/
def Console.request (C : Console) (echoReq : Request) : Request :=
  ⟨echoReq.method, targetURL C echoReq, fwdHeaders echoReq.header, echoReq.body⟩

/-- The plugin sends the request once, or once more with the new token. -/
def ProxiesFaithfully (C : Console) (echoReq : Request) : Prop :=
  SentAgain (C.tokenRecord 1) (C.request echoReq) (uaa C echoReq).1

/-- The plugin sends a second request : the first is answered with 401 and the token is
refreshed. -/
structure Console.SecondRequest (C : Console) (echoReq : Request) : Prop where
  session : ∃ exp, C.exp = .ok exp
  user : ∃ sessionUser username t, C.userID = .ok sessionUser ∧
    C.username sessionUser = .ok username ∧
    login C username (passwordOf echoReq "X-Stratos-Password") false = .ok () ∧
    C.refreshUAAToken sessionUser = .ok t
  valid : C.newRequest echoReq.method (targetURL C echoReq) = none
  read : C.readAgain = none
  first : (∃ t, C.tokenRecord 0 = .ok t) ∧ ∃ body, C.answer 0 = .ok (401, .ok body)
  second : ∃ t, C.tokenRecord 1 = .ok t

end Expected

/-! ## The loop -/

section Runs

variable {U : Upstream} {guid : String} {tokenRec t : TokenRecord} {req : Request} {l : Loop}
  {events : List Event} {renewed : Except GoError TokenRecord}

/-- The loop after a refresh. -/
def Loop.refreshed (l : Loop) : Loop := { l with events := l.events ++ [.refreshed] }

/-- The loop after a request with the token. -/
def Loop.sent (l : Loop) : Loop :=
  { l with
    req := l.req.withToken l.tokenRec.authToken
    events := l.events ++ [.sent (l.req.withToken l.tokenRec.authToken)] }

/-- The loop when the client has an error about the body. -/
def Loop.unsent (l : Loop) : Loop := { l with req := l.req.withToken l.tokenRec.authToken }

@[simp] theorem requests_unsent (l : Loop) : l.unsent.requests = l.requests :=
  rfl

@[simp] theorem requests_refreshed (l : Loop) : l.refreshed.requests = l.requests := by
  simp [Loop.requests, Loop.refreshed, Event.request?]

@[simp] theorem requests_sent (l : Loop) :
    l.sent.requests = l.requests ++ [l.req.withToken l.tokenRec.authToken] := by
  simp [Loop.requests, Loop.sent, Event.request?]

theorem round_of_refresh_ok (h : l.Refreshes U) (ht : U.refresh l.requests.length = .ok t) :
    round U guid l = send U { l.refreshed with tokenRec := t } := by
  rw [← requests_refreshed] at ht
  rw [round, if_pos h]
  dsimp only
  rw [Loop.refreshed] at ht
  rw [ht]
  rfl

theorem round_of_refresh_error (h : l.Refreshes U) (he : U.refresh l.requests.length = .error e) :
    ∃ e, round U guid l = (l.refreshed, some (none, some e)) := by
  rw [← requests_refreshed] at he
  rw [round, if_pos h]
  dsimp only
  rw [Loop.refreshed] at he
  rw [he]
  exact ⟨_, rfl⟩

/-- What a request leads to. -/
theorem send_cases (U : Upstream) (l : Loop) :
    (U.bodyError l.requests.length l.req ≠ none ∧
      ∃ e, send U l = (l.unsent, some (none, some e))) ∨
    ((∃ e, U.answer l.requests.length = .error e) ∧
      ∃ e, send U l = (l.sent, some (none, some e))) ∨
    (∃ res, U.answer l.requests.length = .ok res ∧ res.statusCode ≠ 401 ∧
      send U l = (l.sent, some (some res, none))) ∨
    (U.Rejects l.requests.length ∧ l.got401 = true ∧
      ∃ res e, send U l = (l.sent, some (some res, some e))) ∨
    (U.Rejects l.requests.length ∧ l.got401 = false ∧
      send U l = ({ l.sent with got401 := true }, none)) := by
  have hbody : U.bodyError l.requests.length (l.req.withToken l.tokenRec.authToken) =
    U.bodyError l.requests.length l.req := rfl
  rw [send]
  dsimp only
  rw [hbody]
  cases U.bodyError l.requests.length l.req with
  | some e => exact Or.inl ⟨nofun, _, rfl⟩
  | none =>
  refine Or.inr ?_
  dsimp only
  cases hanswer : U.answer l.requests.length with
  | error e => exact Or.inl ⟨⟨e, rfl⟩, _, rfl⟩
  | ok res =>
    refine Or.inr ?_
    by_cases hstatus : res.statusCode ≠ 401
    · exact Or.inl ⟨res, rfl, hstatus, if_pos hstatus⟩
    · have hrejects : U.Rejects l.requests.length := ⟨res, hanswer, not_not.1 hstatus⟩
      refine Or.inr ?_
      dsimp only
      rw [if_neg hstatus]
      by_cases hgot : l.got401 = true
      · rw [if_pos hgot]
        exact Or.inl ⟨hrejects, hgot, res, _, rfl⟩
      · rw [if_neg hgot]
        exact Or.inr ⟨hrejects, by simpa using hgot, rfl⟩

/-- The token and the events before the first request. -/
def Upstream.Ready (U : Upstream) (tokenRec t : TokenRecord) (events : List Event) : Prop :=
  (¬U.Expired tokenRec ∧ t = tokenRec ∧ events = []) ∨
    (U.Expired tokenRec ∧ U.refresh 0 = .ok t ∧ events = [.refreshed])

/-- The first round sends the request, unless the token has expired and cannot be refreshed. -/
theorem round_start (U : Upstream) (guid : String) (tokenRec : TokenRecord) (req : Request) :
    (U.Expired tokenRec ∧ (∃ e, U.refresh 0 = .error e) ∧ ∃ e, round U guid (start tokenRec req) =
      ((start tokenRec req).refreshed, some (none, some e))) ∨
    ∃ t events, U.Ready tokenRec t events ∧
      round U guid (start tokenRec req) = send U ⟨t, false, req, events⟩ := by
  by_cases hexpired : U.Expired tokenRec
  · have hrefreshes : (start tokenRec req).Refreshes U := Or.inr hexpired
    cases hrefresh : U.refresh 0 with
    | error e => exact Or.inl ⟨hexpired, ⟨e, rfl⟩, round_of_refresh_error hrefreshes hrefresh⟩
    | ok t =>
      exact Or.inr ⟨t, [.refreshed], Or.inr ⟨hexpired, hrefresh, rfl⟩,
        round_of_refresh_ok hrefreshes hrefresh⟩
  · have hrefreshes : ¬(start tokenRec req).Refreshes U := by
      rintro (h | h)
      · cases h
      · exact hexpired h
    exact Or.inr ⟨tokenRec, [], Or.inl ⟨hexpired, rfl, rfl⟩, if_neg hrefreshes⟩

theorem run_of_ends {answer : Answer} {l' : Loop} (h : round U guid l = (l', some answer)) {n : ℕ}
    (hn : 1 ≤ n) : run U guid n l = (l', some answer) := by
  obtain ⟨n, rfl⟩ := Nat.exists_eq_add_of_le' hn
  rw [run, h]

theorem run_of_continues {l' : Loop} (h : round U guid l = (l', none)) (n : ℕ) :
    run U guid (n + 1) l = run U guid n l' := by
  rw [run, h]

theorem Upstream.Ready.requests (h : U.Ready tokenRec t events) :
    events.filterMap Event.request? = [] := by
  obtain ⟨-, -, rfl⟩ | ⟨-, -, rfl⟩ := h
  · rfl
  · rfl

/-- The refresh before the first request has its reason. -/
theorem Upstream.Ready.eachRefresh (h : U.Ready tokenRec t events) (rest : List Event) :
    EachRefresh (U.RefreshReason tokenRec) 0 (events ++ rest) ↔
      EachRefresh (U.RefreshReason tokenRec) 0 rest := by
  obtain ⟨-, -, rfl⟩ | ⟨hexpired, -, rfl⟩ := h
  · rfl
  · simp [EachRefresh, Upstream.RefreshReason, hexpired]

theorem Upstream.Ready.refresh (h : U.Ready tokenRec t events) (hexpired : U.Expired tokenRec) :
    ∃ t, U.refresh 0 = .ok t := by
  obtain ⟨hnot, -⟩ | ⟨-, hrefresh, -⟩ := h
  · exact absurd hexpired hnot
  · exact ⟨t, hrefresh⟩

/-- A loop that ends after its only request. -/
theorem retried_of_one {answer : Answer} {token : Bytes}
    (hrefreshes : EachRefresh (U.RefreshReason tokenRec) 0 l.events)
    (hrequests : l.requests = [req.withToken token])
    (hreceived : ∀ res, U.answer 0 = .ok res → res.statusCode ≠ 401 → answer = (some res, none))
    (hreturned : answer.2 = none → ∃ res, U.answer 0 = .ok res ∧ res.statusCode ≠ 401 ∧
      answer.1 = some res) : Retried U tokenRec req l answer where
  refreshes := hrefreshes
  received i res hi hok hstatus := by
    obtain rfl : i = 0 := by simpa [hrequests] using hi
    exact ⟨by rw [hrequests]; rfl, hreceived res hok hstatus⟩
  returned h := by
    obtain ⟨res, hok, hstatus, hanswer⟩ := hreturned h
    exact ⟨0, res, by simp [hrequests], hok, hstatus, hanswer⟩
  requests := by
    refine ⟨by simp [hrequests], fun r hr => ?_, fun first second h => by simp [hrequests] at h⟩
    rw [hrequests] at hr
    exact ⟨token, (Option.some.inj hr).symm⟩

theorem sentAgain_two_iff {requests : List Request} {t' : TokenRecord} {second : Request}
    (ht' : renewed = .ok t') {token : Bytes}
    (hrequests : requests = [req.withToken token, second]) :
    SentAgain renewed req requests ↔ second = (req.withToken token).withToken t'.authToken := by
  constructor
  · intro h
    obtain ⟨t'', ht'', hsecond⟩ := h.again _ _ hrequests
    obtain rfl := Except.ok.inj (ht'.symm.trans ht'')
    exact hsecond
  · intro h
    refine ⟨by simp [hrequests], fun r hr => ?_, fun first second' heq => ?_⟩
    · rw [hrequests] at hr
      exact ⟨token, (Option.some.inj hr).symm⟩
    · rw [hrequests] at heq
      obtain ⟨hfirst, hrest⟩ := List.cons.inj heq
      rw [← hfirst, ← (List.cons.inj hrest).1]
      exact ⟨t', ht', h⟩

/-- The loop after the first answer, which is 401. -/
def again (t : TokenRecord) (req : Request) (events : List Event) : Loop :=
  { Loop.sent ⟨t, false, req, events⟩ with got401 := true }

theorem requests_again (h : U.Ready tokenRec t events) :
    (again t req events).requests = [req.withToken t.authToken] := by
  have hsent := requests_sent ⟨t, false, req, events⟩
  exact hsent.trans (congrArg (· ++ [req.withToken t.authToken]) h.requests)

/-- The first answer is not 401, and the loop ends with it. -/
theorem handles_of_sent {answer : Answer} (h : U.Ready tokenRec t events)
    (hround : round U guid (start tokenRec req) =
      (Loop.sent ⟨t, false, req, events⟩, some answer))
    (hreceived : ∀ res, U.answer 0 = .ok res → res.statusCode ≠ 401 → answer = (some res, none))
    (hreturned : answer.2 = none → ∃ res, U.answer 0 = .ok res ∧ res.statusCode ≠ 401 ∧
      answer.1 = some res) : HandlesFaithfully U guid tokenRec req := by
  refine ⟨_, _, fun n hn => run_of_ends hround (by omega), ?_⟩
  refine retried_of_one ?_ (requests_again h) hreceived hreturned
  exact (h.eachRefresh _).2 trivial

/-- The first answer is 401, and no other request is sent. -/
theorem handles_of_not_sent {e : GoError} (h : U.Ready tokenRec t events) (hrejects : U.Rejects 0)
    (hround : round U guid (start tokenRec req) = (again t req events, none))
    (hagain : round U guid (again t req events) = (l, some (none, some e)))
    (hevents : l.events = (again t req events).refreshed.events) :
    HandlesFaithfully U guid tokenRec req := by
  have hrun : ∀ n, 2 ≤ n → run U guid n (start tokenRec req) = (l, some (none, some e)) := by
    intro n hn
    obtain ⟨n, rfl⟩ := Nat.exists_eq_add_of_le' hn
    rw [run_of_continues hround (n + 1), run_of_ends hagain (by omega)]
  have hrequests : l.requests = [req.withToken t.authToken] := by
    rw [Loop.requests, hevents, ← Loop.requests, requests_refreshed, requests_again h]
  refine ⟨_, _, hrun, retried_of_one ?_ hrequests ?_ nofun⟩
  · have hall : l.events = events ++ [.sent (req.withToken t.authToken), .refreshed] := by
      simp [hevents, again, Loop.refreshed, Loop.sent]
    rw [hall, h.eachRefresh]
    exact ⟨Or.inr ⟨by decide, hrejects⟩, trivial⟩
  · intro res hres hstatus
    obtain ⟨res₀, hres₀, hstatus₀⟩ := hrejects
    obtain rfl : res = res₀ := Except.ok.inj (hres.symm.trans hres₀)
    exact absurd hstatus₀ hstatus

/-- The first answer is 401, and the request is sent again with a new token. -/
theorem handles_of_sent_again {answer : Answer} {t' : TokenRecord}
    (h : U.Ready tokenRec t events) (hrejects : U.Rejects 0) (ht' : U.refresh 1 = .ok t')
    (hround : round U guid (start tokenRec req) = (again t req events, none))
    (hagain : round U guid (again t req events) =
      (Loop.sent { (again t req events).refreshed with tokenRec := t' }, some answer))
    (hreceived : ∀ res, U.answer 1 = .ok res → res.statusCode ≠ 401 → answer = (some res, none))
    (hreturned : answer.2 = none → ∃ res, U.answer 1 = .ok res ∧ res.statusCode ≠ 401 ∧
      answer.1 = some res) : HandlesFaithfully U guid tokenRec req := by
  have hrun : ∀ n, 2 ≤ n → run U guid n (start tokenRec req) =
      (Loop.sent { (again t req events).refreshed with tokenRec := t' }, some answer) := by
    intro n hn
    obtain ⟨n, rfl⟩ := Nat.exists_eq_add_of_le' hn
    rw [run_of_continues hround (n + 1), run_of_ends hagain (by omega)]
  generalize hl : Loop.sent { (again t req events).refreshed with tokenRec := t' } = l at hrun
  have hevents : l.events = events ++ [.sent (req.withToken t.authToken), .refreshed,
      .sent ((req.withToken t.authToken).withToken t'.authToken)] := by
    simp [← hl, again, Loop.refreshed, Loop.sent]
  have hrequests : l.requests = [req.withToken t.authToken,
      (req.withToken t.authToken).withToken t'.authToken] := by
    rw [Loop.requests, hevents, List.filterMap_append, h.requests]
    rfl
  refine ⟨_, _, hrun, ?_, ?_, ?_, (sentAgain_two_iff ht' hrequests).2 rfl⟩
  · rw [hevents, h.eachRefresh]
    exact ⟨Or.inr ⟨by decide, hrejects⟩, trivial⟩
  · intro i res hi hres hstatus
    obtain ⟨res₀, hres₀, hstatus₀⟩ := hrejects
    rw [hrequests] at hi ⊢
    obtain rfl | rfl : i = 0 ∨ i = 1 := by simp at hi; omega
    · obtain rfl : res = res₀ := Except.ok.inj (hres.symm.trans hres₀)
      exact absurd hstatus₀ hstatus
    · exact ⟨rfl, hreceived res hres hstatus⟩
  · intro herror
    obtain ⟨res, hres, hstatus, hanswer⟩ := hreturned herror
    exact ⟨1, res, by simp [hrequests], hres, hstatus, hanswer⟩

/-- The second round, after an answer that is 401. -/
theorem handles_of_rejected (h : U.Ready tokenRec t events) (hrejects : U.Rejects 0)
    (hround : round U guid (start tokenRec req) = (again t req events, none)) :
    HandlesFaithfully U guid tokenRec req := by
  have hrefreshes : (again t req events).Refreshes U := Or.inl rfl
  have hone : (again t req events).requests.length = 1 := by rw [requests_again h]; rfl
  cases hrefresh : U.refresh 1 with
  | error e =>
    obtain ⟨e', hagain⟩ : ∃ e, round U guid (again t req events) =
        ((again t req events).refreshed, some (none, some e)) :=
      round_of_refresh_error hrefreshes (by rw [hone]; exact hrefresh)
    exact handles_of_not_sent h hrejects hround hagain rfl
  | ok t' =>
    have hagain : round U guid (again t req events) =
        send U { (again t req events).refreshed with tokenRec := t' } :=
      round_of_refresh_ok hrefreshes (by rw [hone]; exact hrefresh)
    have hsend := send_cases U { (again t req events).refreshed with tokenRec := t' }
    have hone' : (Loop.requests { (again t req events).refreshed with tokenRec := t' }).length =
        1 := by
      rw [← hone, ← requests_refreshed (again t req events)]
      rfl
    rw [hone', ← hagain] at hsend
    obtain ⟨-, e, hagain⟩ | ⟨⟨e, he⟩, e', hagain⟩ | ⟨res, hres, hstatus, hagain⟩ |
      ⟨⟨res, hres, hstatus⟩, -, res', e', hagain⟩ | ⟨-, hgot, -⟩ := hsend
    · exact handles_of_not_sent h hrejects hround hagain rfl
    · refine handles_of_sent_again h hrejects hrefresh hround hagain ?_ nofun
      intro res hres
      rw [he] at hres
      cases hres
    · refine handles_of_sent_again h hrejects hrefresh hround hagain ?_ fun _ =>
        ⟨res, hres, hstatus, rfl⟩
      intro res' hres' _
      rw [Except.ok.inj (hres.symm.trans hres')]
    · refine handles_of_sent_again h hrejects hrefresh hround hagain ?_ nofun
      intro res₁ hres₁ hstatus'
      rw [← Except.ok.inj (hres.symm.trans hres₁)] at hstatus'
      exact absurd hstatus hstatus'
    · cases hgot

/-- The loop ends, with the request sent again in whole if it is sent again. -/
theorem handlesFaithfully (U : Upstream) (guid : String) (tokenRec : TokenRecord)
    (req : Request) : HandlesFaithfully U guid tokenRec req := by
  obtain ⟨hexpired, -, e, hround⟩ | ⟨t, events, h, hround⟩ := round_start U guid tokenRec req
  · refine ⟨_, _, fun n hn => run_of_ends hround (by omega), ?_⟩
    refine ⟨⟨Or.inl ⟨rfl, hexpired⟩, trivial⟩, fun i _ hi => absurd hi (Nat.not_lt_zero i), nofun,
      ?_⟩
    exact ⟨Nat.zero_le 2, nofun, nofun⟩
  have hlength : (Loop.requests ⟨t, false, req, events⟩).length = 0 :=
    congrArg List.length h.requests
  have hsend := send_cases U ⟨t, false, req, events⟩
  rw [hlength, ← hround] at hsend
  obtain ⟨hbody, -⟩ | ⟨⟨e, he⟩, e', hround⟩ | ⟨res, hres, hstatus, hround⟩ | ⟨-, hgot, -⟩ |
    ⟨hrejects, -, hround⟩ := hsend
  · exact absurd (if_pos (Or.inl rfl)) hbody
  · refine handles_of_sent h hround ?_ nofun
    intro res hres
    rw [he] at hres
    cases hres
  · refine handles_of_sent h hround ?_ fun _ => ⟨res, hres, hstatus, rfl⟩
    intro res' hres' _
    rw [Except.ok.inj (hres.symm.trans hres')]
  · cases hgot
  exact handles_of_rejected h hrejects hround

end Runs

/-! ## The plugin -/

section Plugin

variable {C : Console} {echoReq : Request} {sessionUser : String}

/-- The requests of `doAPIRequest`. -/
theorem doAPIRequest_cases (C : Console) (i : ℕ) (url : String) (echoReq : Request) :
    ((C.newRequest echoReq.method url = none → (∃ b, body C i echoReq = .ok b) →
        ∃ e, C.tokenRecord i = .error e) ∧
      ∃ e, doAPIRequest C i url echoReq = ([], .error e)) ∨
    ∃ t b, C.tokenRecord i = .ok t ∧ C.newRequest echoReq.method url = none ∧
      body C i echoReq = .ok b ∧ ∃ answer, doAPIRequest C i url echoReq =
        ([Request.withToken ⟨echoReq.method, url, fwdHeaders echoReq.header, b⟩ t.authToken],
          answer) ∧
        ∀ res, answer = .ok res ↔ C.answer i = .ok (res.1, .ok res.2) := by
  rw [doAPIRequest]
  cases htoken : C.tokenRecord i with
  | error e => exact Or.inl ⟨fun _ _ => ⟨e, rfl⟩, _, rfl⟩
  | ok t =>
    dsimp only
    cases hvalid : C.newRequest echoReq.method url with
    | some err => exact Or.inl ⟨nofun, _, rfl⟩
    | none =>
      dsimp only
      cases hbody : body C i echoReq with
      | error e =>
        refine Or.inl ⟨fun _ hb => ?_, _, rfl⟩
        obtain ⟨b, hb⟩ := hb
        cases hb
      | ok b =>
        refine Or.inr ⟨t, b, rfl, rfl, rfl, _, rfl, ?_⟩
        rintro ⟨statusCode, body⟩
        rcases C.answer i with e | ⟨statusCode', e | body'⟩
        · simp
        · simp [Except.map]
        · simp [Except.map]

/-- The second request has a body only if the reader gives no error, and then it is empty. -/
theorem body_one_eq_ok {b : Bytes} :
    body C 1 echoReq = .ok b ↔ C.readAgain = none ∧ b = [] := by
  rw [body, if_neg Nat.one_ne_zero]
  cases C.readAgain with
  | some e => exact iff_of_false nofun nofun
  | none => simp [eq_comm]

theorem sentAgain_nil {renewed : Except GoError TokenRecord} {req : Request} :
    SentAgain renewed req [] :=
  ⟨Nat.zero_le 2, nofun, nofun⟩

theorem sentAgain_one {renewed : Except GoError TokenRecord} {req : Request} (token : Bytes) :
    SentAgain renewed req [req.withToken token] := by
  refine ⟨by simp, fun r hr => ⟨token, (Option.some.inj hr).symm⟩, fun first second h => ?_⟩
  simp at h

/-- The second request of the plugin has the body of the first if that is empty, or it is not
sent. -/
theorem sentAgain_second_iff {token : Bytes}
    (hvalid : C.newRequest echoReq.method (targetURL C echoReq) = none) :
    SentAgain (C.tokenRecord 1) (C.request echoReq) ((C.request echoReq).withToken token ::
        (doAPIRequest C 1 (targetURL C echoReq) echoReq).1) ↔
      echoReq.body = [] ∨ ¬(C.readAgain = none ∧ ∃ t, C.tokenRecord 1 = .ok t) := by
  obtain ⟨hsecond, e, hrequest⟩ | ⟨t, b, htoken, -, hb, answer, hrequest, -⟩ :=
    doAPIRequest_cases C 1 (targetURL C echoReq) echoReq
  · rw [hrequest]
    refine iff_of_true (sentAgain_one token) (Or.inr ?_)
    rintro ⟨hread, t, ht⟩
    obtain ⟨e, he⟩ := hsecond hvalid ⟨[], body_one_eq_ok.2 ⟨hread, rfl⟩⟩
    rw [he] at ht
    cases ht
  · obtain ⟨hread, rfl⟩ := body_one_eq_ok.1 hb
    rw [hrequest]
    refine (@sentAgain_two_iff (C.request echoReq) _ _ _ _ htoken _ rfl).trans ?_
    refine Iff.trans ⟨fun h => ?_, fun h => ?_⟩ (or_iff_left ?_).symm
    · exact (congrArg Request.body h).symm
    · simp [Request.withToken, Console.request, JsObject.set_set, h]
    · exact not_not.2 ⟨hread, t, htoken⟩

/-- The requests of the plugin once the user is known. -/
theorem sentAgain_proxyRequests_iff (C : Console) (sessionUser : String) (echoReq : Request) :
    SentAgain (C.tokenRecord 1) (C.request echoReq) (proxyRequests C sessionUser echoReq).1 ↔
      echoReq.body = [] ∨ ¬(C.newRequest echoReq.method (targetURL C echoReq) = none ∧
        C.readAgain = none ∧
        ((∃ t, C.tokenRecord 0 = .ok t) ∧ ∃ body, C.answer 0 = .ok (401, .ok body)) ∧
        (∃ t, C.refreshUAAToken sessionUser = .ok t) ∧ ∃ t, C.tokenRecord 1 = .ok t) := by
  rw [proxyRequests]
  obtain ⟨hfirst, e, hrequest⟩ | ⟨t, b, htoken, hvalid, hb, answer, hrequest, hanswer⟩ :=
    doAPIRequest_cases C 0 (targetURL C echoReq) echoReq
  · rw [hrequest]
    refine iff_of_true sentAgain_nil (Or.inr ?_)
    rintro ⟨hvalid, -, ⟨⟨t, ht⟩, -⟩, -⟩
    obtain ⟨e, he⟩ := hfirst hvalid ⟨_, if_pos rfl⟩
    rw [he] at ht
    cases ht
  obtain rfl : echoReq.body = b := Except.ok.inj hb
  rw [hrequest]
  rcases answer with e | ⟨statusCode, body⟩
  · refine iff_of_true (sentAgain_one t.authToken) (Or.inr ?_)
    rintro ⟨-, -, ⟨-, body, hbody⟩, -⟩
    cases (hanswer (401, body)).2 hbody
  dsimp only
  by_cases hstatus : statusCode = 401
  · rw [if_pos hstatus]
    cases hrefresh : C.refreshUAAToken sessionUser with
    | error e =>
      refine iff_of_true (sentAgain_one t.authToken) (Or.inr ?_)
      rintro ⟨-, -, -, ⟨t', ht'⟩, -⟩
      cases ht'
    | ok t' =>
      have hbody : C.answer 0 = .ok (401, .ok body) := by
        rw [← hstatus]
        exact (hanswer (statusCode, body)).1 rfl
      refine (sentAgain_second_iff hvalid).trans (or_congr_right ?_)
      refine not_congr ⟨fun h => ?_, fun h => ⟨h.2.1, h.2.2.2.2⟩⟩
      exact ⟨hvalid, h.1, ⟨⟨t, htoken⟩, body, hbody⟩, ⟨t', rfl⟩, h.2⟩
  · rw [if_neg hstatus]
    refine iff_of_true (sentAgain_one t.authToken) (Or.inr ?_)
    rintro ⟨-, -, ⟨-, body', hbody⟩, -⟩
    have heq := (hanswer (401, body')).2 hbody
    exact hstatus (congrArg Prod.fst (Except.ok.inj heq))

theorem proxiesFaithfully_iff (C : Console) (echoReq : Request) :
    ProxiesFaithfully C echoReq ↔ echoReq.body = [] ∨ ¬C.SecondRequest echoReq := by
  rw [ProxiesFaithfully, uaa]
  cases hexp : C.exp with
  | error e =>
    refine iff_of_true sentAgain_nil (Or.inr fun h => ?_)
    obtain ⟨exp, h⟩ := h.session
    rw [hexp] at h
    cases h
  | ok exp =>
  cases huser : C.userID with
  | error e =>
    refine iff_of_true sentAgain_nil (Or.inr fun h => ?_)
    obtain ⟨_, _, _, h, -⟩ := h.user
    rw [huser] at h
    cases h
  | ok sessionUser =>
  dsimp only
  cases hname : C.username sessionUser with
  | error e =>
    refine iff_of_true sentAgain_nil (Or.inr fun h => ?_)
    obtain ⟨sessionUser', username, _, huser', hname', -⟩ := h.user
    obtain rfl := Except.ok.inj (huser.symm.trans huser')
    rw [hname] at hname'
    cases hname'
  | ok username =>
  dsimp only
  cases hlogin : login C username (passwordOf echoReq "X-Stratos-Password") false with
  | error e =>
    refine iff_of_true sentAgain_nil (Or.inr fun h => ?_)
    obtain ⟨sessionUser', username', _, huser', hname', hlogin', -⟩ := h.user
    obtain rfl := Except.ok.inj (huser.symm.trans huser')
    obtain rfl := Except.ok.inj (hname.symm.trans hname')
    rw [hlogin] at hlogin'
    cases hlogin'
  | ok _ =>
  have hsecond : C.SecondRequest echoReq ↔
      C.newRequest echoReq.method (targetURL C echoReq) = none ∧ C.readAgain = none ∧
        ((∃ t, C.tokenRecord 0 = .ok t) ∧ ∃ body, C.answer 0 = .ok (401, .ok body)) ∧
        (∃ t, C.refreshUAAToken sessionUser = .ok t) ∧ ∃ t, C.tokenRecord 1 = .ok t := by
    constructor
    · rintro ⟨-, ⟨sessionUser', username', t, huser', -, -, ht⟩, hvalid, hread, hfirst, hrenewed⟩
      obtain rfl := Except.ok.inj (huser.symm.trans huser')
      exact ⟨hvalid, hread, hfirst, ⟨t, ht⟩, hrenewed⟩
    · rintro ⟨hvalid, hread, hfirst, ⟨t, ht⟩, hrenewed⟩
      exact ⟨⟨exp, hexp⟩, ⟨sessionUser, username, t, huser, hname, hlogin, ht⟩, hvalid, hread,
        hfirst, hrenewed⟩
  have hiff := sentAgain_proxyRequests_iff C sessionUser echoReq
  rw [hsecond, ← hiff]
  dsimp only
  rcases proxyRequests C sessionUser echoReq with ⟨sent, e | answer⟩
  · rfl
  · rfl

end Plugin

/-! ## Both -/

/-- The first answer of the UAA is 401, the token can be refreshed, and the reader of the request
has nothing left. -/
def rejecting : Console where
  uaaEndpoint := "https://uaa"
  path := "/pp/v1/uaa/*"
  exp := .ok 0
  userID := .ok "user"
  username _ := .ok "name"
  refreshUAALogin _ _ _ := none
  refreshUAAToken _ := .ok (initEndpointTokenRecord 0 (goBytes "new") [] false)
  tokenRecord i :=
    .ok (initEndpointTokenRecord 0 (goBytes (if i = 0 then "old" else "new")) [] false)
  newRequest _ _ := none
  readAgain := none
  answer i := .ok (if i = 0 then 401 else 200, .ok [])

/-- A request that updates a user. -/
def update : Request := ⟨"PUT", "/pp/v1/uaa/Users/user", .empty, goBytes "\x7b\x7d"⟩

/-- The update is sent again without its body. -/
theorem not_proxiesFaithfully_update : ¬ProxiesFaithfully rejecting update := by
  intro h
  obtain ⟨t, -, hsecond⟩ := h.again _ _ rfl
  have hbody : ([] : Bytes) = update.body := congrArg Request.body hsecond
  exact absurd hbody (by decide)

/-- The handler does what is expected of it, and the plugin unless it sends a second request for one
with a body. -/
theorem sentAgain_iff (U : Upstream) (guid : String) (tokenRec : TokenRecord) (req : Request)
    (C : Console) (echoReq : Request) :
    HandlesFaithfully U guid tokenRec req ∧ ProxiesFaithfully C echoReq ↔
      echoReq.body = [] ∨ ¬C.SecondRequest echoReq :=
  (and_iff_right (handlesFaithfully U guid tokenRec req)).trans (proxiesFaithfully_iff C echoReq)

end OAuthFlow

end Stratos
