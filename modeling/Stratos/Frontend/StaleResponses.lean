import Mathlib.Data.List.Basic
import Stratos.Frontend.Pagination

/-!
# Late responses of a list

A section of the pagination store is edited, reset, fetched and answered in any order. A
change of the parameters is followed by the `RESET_PAGINATION` of `PaginationEffects`, as an
action of its own; a fetch takes the parameters and the current page of its moment; and a
response is stored under its page number, whatever the parameters have become.

`not_settledIsCurrent_lateResponse` is the run in which the response to an old fetch is the
last to arrive. `settledIsCurrent_of_run` says when pages and counts belong to the current
parameters once nothing is in flight : a response to other parameters is stored only while a
fetch of the same page with the current ones is in flight, which is not then the one that
fails, and an edit that keeps the pages changes nothing they depend on. The invariant is
`Covered` : what is stored belongs to the current parameters or is about to be replaced.
-/

open Lib

namespace Stratos

/-! ## Events -/

/-- A request for a page : the page and the parameters of the moment it was sent. -/
structure Fetch where
  pageNumber : ℤ
  params : PaginationParam
  deriving DecidableEq

/-- The answer to a fetch. -/
structure FetchAnswer where
  result : Option (List String) := none
  responseResult : List String
  totalResults : ℤ
  totalPages : ℤ

/-- The success action of the answer. -/
def FetchAnswer.action (r : FetchAnswer) (f : Fetch) : PageResponse :=
  ⟨some f.pageNumber, r.result, some r.responseResult, r.totalResults, r.totalPages⟩

/-- `SET_PARAMS`, `ADD_PARAMS` or `REMOVE_PARAMS`. -/
inductive ParamEdit
  | set (action : SetParams)
  | add (params : PaginationParam)
  | remove (action : RemoveParams)

/-- The section after the edit. -/
def ParamEdit.apply (state : PaginationEntityState) : ParamEdit → PaginationEntityState
  | set action => paginationSetParams state action
  | add params => paginationAddParams state params
  | remove action => paginationRemoveParams state action

/-- What can happen to a section. -/
inductive SectionEvent
  | edit (e : ParamEdit) (keepPages : Bool)
  | reset
  | setPage (pageNumber : ℤ)
  | start
  | success (f : Fetch) (r : FetchAnswer)
  | failure (f : Fetch) (message : String)

/-- A section with its fetches in flight, the resets that edits have dispatched, and the
fetches that the stored pages and the total come from. -/
structure SectionRun where
  state : PaginationEntityState
  inFlight : List Fetch := []
  pendingResets : ℕ := 0
  pageSource : String → Option Fetch := fun _ => none
  totalSource : Option Fetch := none

/-- The key under which the answer to a fetch is stored. -/
def SectionRun.answerKey (a : SectionRun) (f : Fetch) : String :=
  pageKey (pageOf a.state (some f.pageNumber))

/-- The run after an event, `none` if the event cannot happen or its reducer throws. -/
def SectionRun.step (a : SectionRun) : SectionEvent → Option SectionRun
  | .edit e keepPages => some { a with
      state := e.apply a.state
      pendingResets := if keepPages then a.pendingResets else a.pendingResets + 1 }
  | .reset =>
    if a.pendingResets = 0 then none
    else some
      { state := resetSection a.state
        inFlight := a.inFlight
        pendingResets := a.pendingResets - 1 }
  | .setPage n => some { a with state := paginationSetPage a.state n }
  | .start => some { a with
      state := paginationStart a.state none
      inFlight := ⟨a.state.currentPage, a.state.params⟩ :: a.inFlight }
  | .success f r =>
    if f ∈ a.inFlight then
      (paginationSuccess a.state (r.action f)).map fun state => { a with
        state := state
        inFlight := a.inFlight.erase f
        pageSource := fun k => if k = a.answerKey f then some f else a.pageSource k
        totalSource := some f }
    else none
  | .failure f message =>
    if f ∈ a.inFlight then
      some { a with
        state := paginationFailure a.state (some f.pageNumber) message
        inFlight := a.inFlight.erase f }
    else none

/-- The run after a sequence of events. -/
def SectionRun.run (a : SectionRun) (es : List SectionEvent) : Option SectionRun :=
  es.foldlM SectionRun.step a

/-- Every event of the run meets `ok` when it happens. -/
def SectionRun.Meets (ok : SectionRun → SectionEvent → Prop) : List SectionEvent → SectionRun → Prop
  | [], _ => True
  | e :: es, a => ok a e ∧ ∀ a', a.step e = some a' → SectionRun.Meets ok es a'

/-! ## What is current -/

namespace SectionRun

/-- The section lists nothing and counts nothing. -/
def Empty (a : SectionRun) : Prop :=
  a.state.ids = JsObject.empty ∧ a.state.totalResults = 0 ∧ a.totalSource = none

/-- No fetch is in flight and no reset is to come. -/
def Settled (a : SectionRun) : Prop := a.inFlight = [] ∧ a.pendingResets = 0

/-- Every page comes from a fetch with the current parameters. -/
def PagesAreCurrent (a : SectionRun) : Prop :=
  ∀ k page, a.state.ids.get? k = some page →
    ∃ f, a.pageSource k = some f ∧ f.params = a.state.params

/-- The total comes from a fetch with the current parameters, if from any. -/
def TotalIsCurrent (a : SectionRun) : Prop :=
  a.Empty ∨ ∃ f, a.totalSource = some f ∧ f.params = a.state.params

/-- The list shown is the list asked for. -/
def ListIsCurrent (a : SectionRun) : Prop := a.PagesAreCurrent ∧ a.TotalIsCurrent

/-- One of the fetches replaces the page at the key by one of the current parameters. -/
def Replaces (a : SectionRun) (fetches : List Fetch) (k : String) : Prop :=
  ∃ g ∈ fetches, g.pageNumber ≠ 0 ∧ pageKey g.pageNumber = k ∧ g.params = a.state.params

/-- The page at the key comes from a fetch with other parameters. -/
def Stale (a : SectionRun) (k : String) : Prop :=
  ∃ f, a.pageSource k = some f ∧ f.params ≠ a.state.params

/-- Unless a reset is to come : an answer belongs to the current parameters, or its page is
about to be replaced ; a fetch that fails is not the last that could replace a stale page ;
and an edit that keeps the pages keeps the parameters or finds the section empty. -/
def EventIsCurrent (a : SectionRun) : SectionEvent → Prop
  | .edit e keepPages => a.pendingResets = 0 → keepPages = true →
    (e.apply a.state).params = a.state.params ∨ a.Empty
  | .success f _ => a.pendingResets = 0 →
    f.params = a.state.params ∨ a.Replaces (a.inFlight.erase f) (a.answerKey f)
  | .failure f _ => a.pendingResets = 0 → a.Stale (a.answerKey f) →
    a.Replaces (a.inFlight.erase f) (a.answerKey f)
  | _ => True

/-! ## One event -/

/-- Every page belongs to the current parameters or is about to be replaced, and the total
comes with one of the pages. -/
structure Covered (a : SectionRun) : Prop where
  pages : ∀ k page, a.state.ids.get? k = some page →
    ∃ f, a.pageSource k = some f ∧ (f.params = a.state.params ∨ a.Replaces a.inFlight k)
  total : a.Empty ∨ ∃ k page f, a.state.ids.get? k = some page ∧ a.pageSource k = some f ∧
    a.totalSource = some f

variable {a a' : SectionRun}

/-- What the invariant of a section without fetches says. -/
theorem Covered.listIsCurrent (h : a.Covered) (hflight : a.inFlight = []) :
    a.ListIsCurrent := by
  have hpages : a.PagesAreCurrent := by
    intro k page hk
    obtain ⟨f, hf, hparams | ⟨g, hg, -⟩⟩ := h.pages k page hk
    · exact ⟨f, hf, hparams⟩
    · rw [hflight] at hg
      exact absurd hg List.not_mem_nil
  refine ⟨hpages, h.total.imp_right ?_⟩
  rintro ⟨k, page, f, hk, hf, htotal⟩
  obtain ⟨f', hf', hparams⟩ := hpages k page hk
  obtain rfl : f = f' := Option.some.inj (hf.symm.trans hf')
  exact ⟨f, htotal, hparams⟩

theorem covered_of_ids_empty (hids : a.state.ids = JsObject.empty) (h : a.Empty) : a.Covered :=
  ⟨fun k page hk => by simp [hids] at hk, Or.inl h⟩

theorem paginationSuccess_some {s s' : PaginationEntityState} {r : PageResponse}
    (h : paginationSuccess s r = some s') :
    s'.params = s.params ∧
      s'.ids = s.ids.set (pageKey (pageOf s r.pageNumber)) (r.result.or r.responseResult) := by
  obtain ⟨c, -, h⟩ := Option.bind_eq_some_iff.1 h
  obtain rfl := Option.some.inj h
  exact ⟨rfl, rfl⟩

/-- A fetch that can replace the page at a key is stored there. -/
theorem answerKey_of_ne_zero {g : Fetch} (h : g.pageNumber ≠ 0) :
    a.answerKey g = pageKey g.pageNumber := by
  simp [answerKey, pageOf, h]

/-- A page that one of the fetches in flight replaces is still to be replaced when another
one is answered. -/
theorem Replaces.erase {k : String} {f : Fetch} (h : a.Replaces a.inFlight k)
    (hne : f.params ≠ a.state.params ∨ k ≠ a.answerKey f) :
    a.Replaces (a.inFlight.erase f) k := by
  obtain ⟨g, hg, hzero, hkey, hparams⟩ := h
  refine ⟨g, (List.mem_erase_of_ne ?_).2 hg, hzero, hkey, hparams⟩
  rintro rfl
  rcases hne with hne | hne
  · exact hne hparams
  · exact hne (by rw [answerKey_of_ne_zero hzero, hkey])

theorem Covered.success {f : Fetch} {r : FetchAnswer} {s : PaginationEntityState}
    (h : a.Covered) (hs : paginationSuccess a.state (r.action f) = some s)
    (hok : f.params = a.state.params ∨ a.Replaces (a.inFlight.erase f) (a.answerKey f)) :
    Covered { a with
      state := s
      inFlight := a.inFlight.erase f
      pageSource := fun k => if k = a.answerKey f then some f else a.pageSource k
      totalSource := some f } := by
  obtain ⟨hparams, hids⟩ := paginationSuccess_some hs
  have hget : ∀ k, s.ids.get? k = if k = a.answerKey f then
      some ((r.action f).result.or (r.action f).responseResult) else a.state.ids.get? k :=
    fun k => by rw [hids, JsObject.get?_set]; rfl
  refine ⟨fun k page hk => ?_, ?_⟩
  · rw [hget] at hk
    split_ifs at hk with hkey
    · refine ⟨f, if_pos hkey, ?_⟩
      rw [hkey]
      exact hok.imp (·.trans hparams.symm) fun ⟨g, hg, hzero, hk, hp⟩ =>
        ⟨g, hg, hzero, hk, hp.trans hparams.symm⟩
    · obtain ⟨f', hf', hcur⟩ := h.pages k page hk
      refine ⟨f', (if_neg hkey).trans hf', ?_⟩
      refine hcur.imp (·.trans hparams.symm) fun hrep => ?_
      obtain ⟨g, hg, hzero, hk, hp⟩ := hrep.erase (f := f) (Or.inr hkey)
      exact ⟨g, hg, hzero, hk, hp.trans hparams.symm⟩
  · exact Or.inr ⟨a.answerKey f, _, f, (hget _).trans (if_pos rfl), if_pos rfl, rfl⟩

theorem Covered.failure {f : Fetch} {message : String} (h : a.Covered)
    (hok : a.Stale (a.answerKey f) → a.Replaces (a.inFlight.erase f) (a.answerKey f)) :
    Covered { a with
      state := paginationFailure a.state (some f.pageNumber) message
      inFlight := a.inFlight.erase f } := by
  refine ⟨fun k page hk => ?_, h.total⟩
  obtain ⟨f', hf', hcur⟩ := h.pages k page hk
  refine ⟨f', hf', ?_⟩
  by_cases hparams : f'.params = a.state.params
  · exact Or.inl hparams
  · refine Or.inr ?_
    by_cases hkey : k = a.answerKey f
    · subst hkey
      exact hok ⟨f', hf', hparams⟩
    · exact (hcur.resolve_left hparams).erase (Or.inr hkey)

/-- An edit that keeps the pages, when it keeps the parameters or the section is empty. -/
theorem Covered.edit {e : ParamEdit} (h : a.Covered)
    (hok : (e.apply a.state).params = a.state.params ∨ a.Empty) :
    Covered { a with state := e.apply a.state } := by
  have hids : (e.apply a.state).ids = a.state.ids := by cases e <;> rfl
  have htotal : (e.apply a.state).totalResults = a.state.totalResults := by cases e <;> rfl
  have hempty : a.Empty → Empty { a with state := e.apply a.state } := fun h =>
    ⟨hids.trans h.1, htotal.trans h.2.1, h.2.2⟩
  rcases hok with hparams | hok
  · refine ⟨fun k page hk => ?_, ?_⟩
    · obtain ⟨f, hf, hcur⟩ := h.pages k page (hids ▸ hk)
      exact ⟨f, hf, hcur.imp (·.trans hparams.symm) fun ⟨g, hg, hzero, hk, hp⟩ =>
        ⟨g, hg, hzero, hk, hp.trans hparams.symm⟩⟩
    · refine h.total.imp hempty fun ⟨k, page, f, hk, hrest⟩ => ⟨k, page, f, ?_, hrest⟩
      exact hids ▸ hk
  · exact covered_of_ids_empty (hids.trans hok.1) (hempty hok)

theorem Covered.start (h : a.Covered) :
    Covered { a with
      state := paginationStart a.state none
      inFlight := ⟨a.state.currentPage, a.state.params⟩ :: a.inFlight } := by
  refine ⟨fun k page hk => ?_, h.total⟩
  obtain ⟨f, hf, hcur⟩ := h.pages k page hk
  exact ⟨f, hf, hcur.imp_right fun ⟨g, hg, hrest⟩ => ⟨g, List.mem_cons_of_mem _ hg, hrest⟩⟩

/-- An event that meets the condition keeps the invariant. -/
theorem covered_step {e : SectionEvent} (h : a.pendingResets = 0 → a.Covered)
    (hok : a.EventIsCurrent e) (hstep : a.step e = some a') :
    a'.pendingResets = 0 → a'.Covered := by
  intro hzero
  cases e with
  | edit e keepPages =>
    obtain rfl := Option.some.inj hstep
    cases keepPages with
    | false => cases hzero
    | true => exact (h hzero).edit (hok hzero rfl)
  | reset =>
    simp only [step] at hstep
    split_ifs at hstep with hpending
    obtain rfl := Option.some.inj hstep
    exact covered_of_ids_empty rfl ⟨rfl, rfl, rfl⟩
  | setPage n =>
    obtain rfl := Option.some.inj hstep
    exact ⟨(h hzero).pages, (h hzero).total⟩
  | start =>
    obtain rfl := Option.some.inj hstep
    exact (h hzero).start
  | success f r =>
    simp only [step] at hstep
    split_ifs at hstep
    obtain ⟨s, hs, rfl⟩ := Option.map_eq_some_iff.1 hstep
    exact (h hzero).success hs (hok hzero)
  | failure f message =>
    simp only [step] at hstep
    split_ifs at hstep
    obtain rfl := Option.some.inj hstep
    exact (h hzero).failure (hok hzero)

/-! ## Runs -/

theorem covered_run {es : List SectionEvent} (h : a.pendingResets = 0 → a.Covered)
    (hok : Meets EventIsCurrent es a) (hrun : a.run es = some a') :
    a'.pendingResets = 0 → a'.Covered := by
  induction es generalizing a with
  | nil =>
    obtain rfl : a = a' := Option.some.inj hrun
    exact h
  | cons e es ih =>
    obtain ⟨a₁, h₁, hrun⟩ := Option.bind_eq_some_iff.1 hrun
    exact ih (covered_step h hok.1 h₁) (hok.2 a₁ h₁) hrun

/-- In every run whose events meet `EventIsCurrent`, the list is current whenever no fetch
is in flight and no reset is to come. -/
theorem settledIsCurrent_of_run {s : PaginationEntityState} (hids : s.ids = JsObject.empty)
    (htotal : s.totalResults = 0) {es : List SectionEvent} {a : SectionRun}
    (hok : Meets EventIsCurrent es { state := s })
    (hrun : SectionRun.run { state := s } es = some a) (hsettled : a.Settled) :
    a.ListIsCurrent :=
  (covered_run (fun _ => covered_of_ids_empty hids ⟨hids, htotal, rfl⟩) hok hrun
    hsettled.2).listIsCurrent hsettled.1

/-! ## Late answers -/

/-- A new section of a list. -/
def newSection : SectionRun := { state := getDefaultPaginationEntityState }

/-- The edit that searches for "name". -/
def searchEdit (name : String) : ParamEdit := .add { q := some [⟨"name", .text name, .colon⟩] }

/-- The fetch of the first page for a search. -/
def searchFetch (name : String) : Fetch :=
  ⟨1, { q := some [⟨"name", .text name, .colon⟩] }⟩

/-- The answer that lists one id. -/
def answerOf (id : String) : FetchAnswer := ⟨none, [id], 1, 1⟩

/-- The list is fetched, searched for "a" and fetched again ; the two answers arrive in the
order given. -/
def searchEvents (first second : Fetch × FetchAnswer) : List SectionEvent :=
  [.start, .edit (searchEdit "a") false, .reset, .start, .success first.1 first.2,
    .success second.1 second.2]

/-- When the answer to the old fetch is the last to arrive, the list shown is the old one. -/
theorem not_settledIsCurrent_lateResponse :
    ¬∀ (s : PaginationEntityState) (es : List SectionEvent) (a : SectionRun),
      s.ids = JsObject.empty → s.totalResults = 0 → run { state := s } es = some a → a.Settled →
        a.ListIsCurrent := by
  intro h
  obtain ⟨hpages, -⟩ := h getDefaultPaginationEntityState
    (searchEvents (searchFetch "a", answerOf "new") (⟨1, {}⟩, answerOf "old")) _ rfl rfl rfl
    ⟨rfl, rfl⟩
  obtain ⟨f, hf, hparams⟩ := hpages "1" (some ["old"]) rfl
  cases hf
  exact absurd hparams (by decide)

/-- The old answer first, then the new one. -/
def inOrder : List SectionEvent :=
  searchEvents (⟨1, {}⟩, answerOf "old") (searchFetch "a", answerOf "new")

theorem meets_inOrder : Meets EventIsCurrent inOrder newSection := by
  refine ⟨trivial, fun _ h => ?_⟩
  cases h
  refine ⟨fun _ hkeep => (by cases hkeep), fun _ h => ?_⟩
  cases h
  refine ⟨trivial, fun _ h => ?_⟩
  cases h
  refine ⟨trivial, fun _ h => ?_⟩
  cases h
  -- The old answer is stored while the fetch for the search is in flight.
  refine ⟨fun _ => Or.inr ⟨searchFetch "a", by decide, by decide, rfl, rfl⟩, fun _ h => ?_⟩
  cases h
  exact ⟨fun _ => Or.inl rfl, fun _ _ => trivial⟩

/-- When the answers arrive in the order of the fetches, the list is current. -/
theorem settledIsCurrent_of_run_inOrder :
    ∃ a, newSection.run inOrder = some a ∧ a.state.ids.get? "1" = some (some ["new"]) ∧
      a.ListIsCurrent := by
  obtain ⟨a, hrun, hpage, hsettled⟩ : ∃ a, newSection.run inOrder = some a ∧
      a.state.ids.get? "1" = some (some ["new"]) ∧ a.Settled := ⟨_, rfl, rfl, rfl, rfl⟩
  exact ⟨a, hrun, hpage, settledIsCurrent_of_run (s := getDefaultPaginationEntityState) rfl rfl
    meets_inOrder hrun hsettled⟩

end SectionRun

end Stratos
