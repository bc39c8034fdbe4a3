import Stratos.Frontend.RequestResponses

/-!
# The flags of the requests

A request that starts sets a flag of its entity (`Request.flag`) : the entity is being fetched,
created, deleted or updated. Its success and its failure clear the flag.

Any number of requests can go on at once, also for one entity. `settled_flags` says that once all
of them have completed, no flag is set that was not set before, and that a request never changes
the flags of another entity, not even of one in its response.
-/

open Lib

namespace Stratos

variable {α : Type}

/-! ## Flags -/

/-- The flags of a request info. -/
inductive Flag
  | fetching
  | creating
  | deleting
  | updating (key : String)
  deriving DecidableEq

/-- The flag is set. -/
def Flag.isSet (requestState : RequestInfoState) : Flag → Bool
  | fetching => requestState.fetching
  | creating => requestState.creating
  | deleting => requestState.deleting.busy
  | updating key => (requestState.updating.get? key).any (·.busy)

/-- The flag of the entity is set. -/
def IsSet (state : IRequestTypeState) (entityKey guid : String) (flag : Flag) : Prop :=
  flag.isSet (requestInfo state entityKey guid) = true

/-- A request that fetches, creates or deletes, or updates under a key. -/
structure Request where
  apiAction : IRequestAction
  requestType : ApiRequestTypes
  keyed : requestType = .update → apiAction.updatingKey.isSome = true
  deriving DecidableEq

/-- The flag that a request sets while it goes on. -/
def Request.flag (q : Request) : Flag :=
  match q.apiAction.updatingKey, q.requestType with
  | some key, _ => .updating key
  | none, .create => .creating
  | none, .delete => .deleting
  | none, _ => .fetching

/-- The request is about the entity. -/
def Request.About (q : Request) (entityKey guid : String) : Prop :=
  q.apiAction.guid.truthy = true ∧ entityKey = q.apiAction.entityKey ∧ guid = q.apiAction.guid.key

section Flags

variable {q : Request} {rs : RequestInfoState} {flag : Flag}

theorem isSet_updating (key key' : String) (action : ActionState) :
    (Flag.updating key').isSet { rs with updating := rs.updating.set key action } =
      if key' = key then action.busy else (Flag.updating key').isSet rs := by
  simp only [Flag.isSet, JsObject.get?_set]
  split_ifs <;> rfl

/-- A start sets its flag and no other. -/
theorem isSet_startedState (h : flag.isSet (startedState q.apiAction (some q.requestType) rs)) :
    flag.isSet rs ∨ flag = q.flag := by
  obtain ⟨⟨entityKey, guid, _ | key⟩, requestType, hkeyed⟩ := q
  · rcases requestType with _ | _ | _ | _
    · rcases flag with _ | _ | _ | _
      · exact Or.inr rfl
      all_goals exact Or.inl h
    · exact absurd (hkeyed rfl) (by simp)
    · rcases flag with _ | _ | _ | _
      · exact Or.inl h
      · exact Or.inr rfl
      all_goals exact Or.inl h
    · rcases flag with _ | _ | _ | _
      · exact Or.inl h
      · exact Or.inl h
      · exact Or.inr rfl
      · exact Or.inl h
  · rcases flag with _ | _ | _ | key'
    · exact Or.inl h
    · exact Or.inl h
    · exact Or.inl h
    · have hset := (isSet_updating key key' ⟨true, false, ""⟩).symm.trans h
      split_ifs at hset with hkey
      · rw [hkey]
        exact Or.inr rfl
      · exact Or.inl hset

/-- What a completion does to the info of its entity. -/
inductive CompletedState (q : Request) (rs : RequestInfoState) : RequestInfoState → Prop
  | success : CompletedState q rs (succeededState q.apiAction (some q.requestType) rs)
  | failed (message : String) :
    CompletedState q rs (failedState q.apiAction (some q.requestType) message rs)

/-- A completion clears its flag and sets no other. -/
theorem isSet_completedState {rs' : RequestInfoState} (hcompleted : CompletedState q rs rs')
    (h : flag.isSet rs') : flag.isSet rs ∧ flag ≠ q.flag := by
  obtain ⟨⟨entityKey, guid, _ | key⟩, requestType, hkeyed⟩ := q
  · rcases hcompleted with _ | message <;> rcases requestType with _ | _ | _ | _ <;>
      rcases flag with _ | _ | _ | _ <;> first
        | exact ⟨h, by rintro ⟨⟩⟩
        | cases h
  · have hupdating : ∀ (action : ActionState), action.busy = false →
        rs' = { rs with updating := rs.updating.set key action } →
        flag.isSet rs ∧ flag ≠ .updating key := by
      rintro action hbusy rfl
      rcases flag with _ | _ | _ | key'
      · exact ⟨h, by rintro ⟨⟩⟩
      · exact ⟨h, by rintro ⟨⟩⟩
      · exact ⟨h, by rintro ⟨⟩⟩
      · have hset := (isSet_updating key key' action).symm.trans h
        split_ifs at hset with hkey
        · rw [hbusy] at hset
          cases hset
        · exact ⟨hset, fun heq => hkey (Flag.updating.inj heq)⟩
    rcases hcompleted with _ | message
    · exact hupdating ⟨false, false, ""⟩ rfl rfl
    · exact hupdating ⟨false, true, message⟩ rfl rfl

theorem isSet_respondedState : flag.isSet (respondedState rs) = flag.isSet rs := by
  rcases flag with _ | _ | _ | _ <;> rfl

end Flags

/-! ## Requests in flight -/

/-- A request starts, or ends. -/
inductive RequestEvent (α : Type)
  | start (q : Request)
  | success (q : Request) (response : Option (EntitySlices α))
  | failed (q : Request) (message : String)

/-- The request of an event. -/
def RequestEvent.request : RequestEvent α → Request
  | start q => q
  | success q _ => q
  | failed q _ => q

/-- The types of entities that the event names. -/
def RequestEvent.entityKeys : RequestEvent α → List String
  | success q response => q.apiAction.entityKey :: responseKeys response
  | event => [event.request.apiAction.entityKey]

/-- The reducer of the progress of requests. -/
def apiRequestReducer (state : IRequestTypeState) : RequestEvent α → Option IRequestTypeState
  | .start q => startRequest state q.apiAction (some q.requestType)
  | .success q response => succeedRequestWith state q.apiAction (some q.requestType) response
  | .failed q message => failRequest state q.apiAction (some q.requestType) message

/-- The requests that go on after an event. Only one that goes on completes. -/
def openAfter (opened : List Request) : RequestEvent α → Option (List Request)
  | .start q => some (q :: opened)
  | event => if event.request ∈ opened then some (opened.erase event.request) else none

/-- Every request that was started has completed. -/
def Settled (events : List (RequestEvent α)) : Prop := events.foldlM openAfter [] = some []

instance (events : List (RequestEvent α)) : Decidable (Settled events) :=
  inferInstanceAs (Decidable (events.foldlM openAfter [] = some []))

/-- All the types of entities have slices. -/
def KnownTypes (state : IRequestTypeState) (events : List (RequestEvent α)) : Prop :=
  ∀ event ∈ events, ∀ key ∈ event.entityKeys, HasSlice state key

/-- The flags that are set at the end were set before. -/
def FlagsBalance (state : IRequestTypeState) (events : List (RequestEvent α)) : Prop :=
  ∃ final, events.foldlM apiRequestReducer state = some final ∧
    ∀ key guid flag, IsSet final key guid flag → IsSet state key guid flag

/-! ### Steps -/

section Step

variable {state state' : IRequestTypeState} {q : Request} {key guid : String}

/-- The flags of an entity stay when its info does, but for its deletion. -/
theorem isSet_of_createRequestState {response : Option (EntitySlices α)}
    (h : createRequestStateFromResponse response state = some state') (flag : Flag) :
    IsSet state' key guid flag ↔ IsSet state key guid flag := by
  rcases getEntity_createRequestState h key guid with ⟨-, hget⟩ | ⟨-, hget⟩
  · have hinfo : requestInfo state' key guid = respondedState (requestInfo state key guid) := by
      rw [requestInfo, hget, Option.getD_some]
    rw [IsSet, hinfo, isSet_respondedState, IsSet]
  · rw [IsSet, IsSet, requestInfo, hget, ← requestInfo]

/-- An event leaves the flags of every entity that its request is not about. -/
theorem isSet_of_not_about {event : RequestEvent α}
    (h : apiRequestReducer state event = some state') (hnot : ¬event.request.About key guid)
    (flag : Flag) : IsSet state' key guid flag ↔ IsSet state key guid flag := by
  rcases event with q | ⟨q, response⟩ | ⟨q, message⟩
  · by_cases htruthy : q.apiAction.guid.truthy = true
    · have hother : ¬(key = q.apiAction.entityKey ∧ guid = q.apiAction.guid.key) :=
        fun hk => hnot ⟨htruthy, hk⟩
      rw [IsSet, requestInfo_startRequest h htruthy, if_neg hother, IsSet]
    · have hstay : startRequest state q.apiAction (some q.requestType) = some state :=
        startRequest_of_not_truthy (Bool.not_eq_true _ ▸ htruthy)
      obtain rfl := Option.some.inj (hstay.symm.trans h)
      exact Iff.rfl
  · by_cases htruthy : q.apiAction.guid.truthy = true
    · rcases getEntity_succeedRequestWith h htruthy key guid with
        ⟨hk, hg, -⟩ | ⟨-, responseState, hcreate, hget⟩
      · exact absurd ⟨htruthy, hk, hg⟩ hnot
      · rcases hold : getEntity state key guid with _ | rs
        · have hresponse : IsSet responseState key guid flag ↔ IsSet state key guid flag :=
            isSet_of_createRequestState hcreate flag
          rw [hold, Option.none_or] at hget
          rwa [IsSet, requestInfo, hget]
        · rw [IsSet, requestInfo, hget, hold, IsSet, requestInfo, hold, Option.some_or]
    · rw [apiRequestReducer, succeedRequestWith, if_neg htruthy] at h
      exact isSet_of_createRequestState h flag
  · by_cases htruthy : q.apiAction.guid.truthy = true
    · have hother : ¬(key = q.apiAction.entityKey ∧ guid = q.apiAction.guid.key) :=
        fun hk => hnot ⟨htruthy, hk⟩
      rw [IsSet, requestInfo_failRequest h htruthy, if_neg hother, IsSet]
    · have hstay : failRequest state q.apiAction (some q.requestType) message = some state :=
        failRequest_of_not_truthy (Bool.not_eq_true _ ▸ htruthy) message
      obtain rfl := Option.some.inj (hstay.symm.trans h)
      exact Iff.rfl

theorem isSet_of_start (h : apiRequestReducer state (.start q : RequestEvent α) = some state')
    (hq : q.About key guid) {flag : Flag} (hset : IsSet state' key guid flag) :
    IsSet state key guid flag ∨ flag = q.flag := by
  rw [IsSet, requestInfo_startRequest h hq.1, if_pos hq.2] at hset
  exact isSet_startedState hset

/-- A completion : a success, or a failure. -/
theorem isSet_of_completed {event : RequestEvent α}
    (h : apiRequestReducer state event = some state') (hevent : ∀ q, event ≠ .start q)
    (hq : event.request.About key guid) {flag : Flag} (hset : IsSet state' key guid flag) :
    IsSet state key guid flag ∧ flag ≠ event.request.flag := by
  rcases event with q | ⟨q, response⟩ | ⟨q, message⟩
  · exact absurd rfl (hevent q)
  · rcases getEntity_succeedRequestWith h hq.1 key guid with ⟨-, -, hget⟩ | ⟨hne, -⟩
    · rw [IsSet, requestInfo, hget] at hset
      exact isSet_completedState .success hset
    · exact absurd hq.2 hne
  · have hkey : key = q.apiAction.entityKey ∧ guid = q.apiAction.guid.key := hq.2
    rw [IsSet, requestInfo_failRequest h hq.1, if_pos hkey] at hset
    exact isSet_completedState (.failed message) hset

theorem exists_apiRequestReducer {event : RequestEvent α}
    (h : ∀ key ∈ event.entityKeys, HasSlice state key) :
    ∃ state', apiRequestReducer state event = some state' ∧
      ∀ key, HasSlice state key → HasSlice state' key := by
  rcases event with q | ⟨q, response⟩ | ⟨q, message⟩
  · exact exists_startRequest (h _ (List.mem_singleton_self _))
  · obtain ⟨state', hstate'⟩ : ∃ state', succeedRequestWith state q.apiAction
        (some q.requestType) response = some state' :=
      exists_succeedRequestWith (h _ List.mem_cons_self) fun key hkey =>
        h key (List.mem_cons_of_mem _ hkey)
    exact ⟨state', hstate', fun key hkey => hasSlice_succeedRequestWith hstate' hkey⟩
  · exact exists_failRequest (h _ (List.mem_singleton_self _)) message

end Step

/-! ### Runs -/

/-- A flag is set as before, or for a request that goes on. -/
def FlagsOpen (state₀ state : IRequestTypeState) (opened : List Request) : Prop :=
  ∀ key guid flag, IsSet state key guid flag →
    IsSet state₀ key guid flag ∨ ∃ q ∈ opened, q.About key guid ∧ flag = q.flag

theorem flagsOpen_of_step {state₀ state state' : IRequestTypeState} {opened opened' : List Request}
    {event : RequestEvent α} (h : FlagsOpen state₀ state opened)
    (hreduce : apiRequestReducer state event = some state')
    (hopen : openAfter opened event = some opened') : FlagsOpen state₀ state' opened' := by
  intro key guid flag hset
  rcases event with q | ⟨q, response⟩ | ⟨q, message⟩
  · obtain rfl := Option.some.inj hopen
    have hopened : IsSet state key guid flag →
        IsSet state₀ key guid flag ∨ ∃ q' ∈ q :: opened, q'.About key guid ∧ flag = q'.flag := by
      intro hbefore
      rcases h key guid flag hbefore with hold | ⟨q', hq', hflag⟩
      · exact Or.inl hold
      · exact Or.inr ⟨q', List.mem_cons_of_mem _ hq', hflag⟩
    by_cases hq : q.About key guid
    · rcases isSet_of_start hreduce hq hset with hbefore | hflag
      · exact hopened hbefore
      · exact Or.inr ⟨q, List.mem_cons_self, hq, hflag⟩
    · exact hopened ((isSet_of_not_about hreduce hq flag).1 hset)
  all_goals
    have hbefore : IsSet state key guid flag ∧ (q.About key guid → flag ≠ q.flag) := by
      by_cases hq : q.About key guid
      · obtain ⟨hbefore, hflag⟩ := isSet_of_completed hreduce (by rintro _ ⟨⟩) hq hset
        exact ⟨hbefore, fun _ => hflag⟩
      · exact ⟨(isSet_of_not_about hreduce hq flag).1 hset, fun hq' => absurd hq' hq⟩
    rw [openAfter] at hopen
    · split_ifs at hopen with hmem
      obtain rfl := Option.some.inj hopen
      rcases h key guid flag hbefore.1 with hold | ⟨q', hq', habout, hflag⟩
      · exact Or.inl hold
      · have hne : q' ≠ q := by
          rintro rfl
          exact hbefore.2 habout hflag
        exact Or.inr ⟨q', (List.mem_erase_of_ne hne).2 hq', habout, hflag⟩
    · rintro _ ⟨⟩

theorem flagsOpen_of_run {state₀ : IRequestTypeState} {events : List (RequestEvent α)}
    {state : IRequestTypeState} {opened rest : List Request} (h : FlagsOpen state₀ state opened)
    (hknown : KnownTypes state events) (hopen : events.foldlM openAfter opened = some rest) :
    ∃ final, events.foldlM apiRequestReducer state = some final ∧ FlagsOpen state₀ final rest := by
  induction events generalizing state opened with
  | nil =>
    obtain rfl := Option.some.inj hopen
    exact ⟨state, rfl, h⟩
  | cons event events ih =>
    rw [List.foldlM_cons] at hopen
    obtain ⟨opened', hopened', hopen⟩ := Option.bind_eq_some_iff.1 hopen
    obtain ⟨state', hstate', hslices⟩ :=
      exists_apiRequestReducer (hknown event List.mem_cons_self)
    have hknown' : KnownTypes state' events := fun event' hevent' key hkey =>
      hslices key (hknown event' (List.mem_cons_of_mem _ hevent') key hkey)
    obtain ⟨final, hfinal, hflags⟩ := ih (flagsOpen_of_step h hstate' hopened') hknown' hopen
    refine ⟨final, ?_, hflags⟩
    rw [List.foldlM_cons, hstate']
    exact hfinal

/-- The flags balance over every interleaving of requests, and each request keeps to its entity. -/
theorem settled_flags (state : IRequestTypeState) (events : List (RequestEvent α))
    (hsettled : Settled events) (hknown : KnownTypes state events) :
    FlagsBalance state events ∧ ∀ (before after : IRequestTypeState) (event : RequestEvent α)
      (key guid : String), apiRequestReducer before event = some after →
      ¬event.request.About key guid → ∀ flag,
        (IsSet after key guid flag ↔ IsSet before key guid flag) := by
  refine ⟨?_, fun before after event key guid h hnot flag => isSet_of_not_about h hnot flag⟩
  have hstart : FlagsOpen state state [] := fun key guid flag hset => Or.inl hset
  obtain ⟨final, hfinal, hflags⟩ := flagsOpen_of_run hstart hknown hsettled
  refine ⟨final, hfinal, fun key guid flag hset => ?_⟩
  rcases hflags key guid flag hset with hold | ⟨q, hq, -⟩
  · exact hold
  · exact absurd hq List.not_mem_nil

/-- Two fetches of one space that complete in order, while another space is deleted. -/
theorem settled_flags_interleaved : FlagsBalance deletedSpaceState
    [.start ⟨entityAction "space" "a", .fetch, by decide⟩,
      .start ⟨entityAction "space" "b", .delete, by decide⟩,
      .start ⟨entityAction "space" "a", .fetch, by decide⟩,
      .success ⟨entityAction "space" "a", .fetch, by decide⟩ (some twoSpaces),
      .failed ⟨entityAction "space" "a", .fetch, by decide⟩ "Not found",
      .success ⟨entityAction "space" "b", .delete, by decide⟩ none] :=
  (settled_flags _ _ (by decide) (by
    intro event hevent
    simp only [List.mem_cons, List.not_mem_nil, or_false] at hevent
    rcases hevent with rfl | rfl | rfl | rfl | rfl | rfl <;> decide)).1

end Stratos
