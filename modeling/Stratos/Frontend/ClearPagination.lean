import Mathlib.Data.List.Induction
import Stratos.Frontend.Pagination

/-!
# Removing an entity from the pages

`paginationClearOfEntity` walks the pages of every section of a type and rebuilds a section
from what it was before the walk each time a page holds the guid, so that only the last of
the hits counts, and of that page only the first occurrence is removed.

A walk ends in one of two ways (`Outcome`) : no page holds the guid, or one page has lost
one occurrence. `clearsExactly_iff` says that the guid is removed from every page with the
right counts if and only if every section of the type holds it at most once.
-/

open Lib

namespace Stratos

/-! ## What a removal should do -/

/-- How many times a section lists the guid. -/
def occurrences (guid : String) (s : PaginationEntityState) : ℕ :=
  s.ids.sumBy fun page => (page.getD []).count guid

/-- The section `s'` is `s` without the guid : every other guid keeps its place, and the
counts have dropped by the occurrences. -/
structure SectionCleared (guid : String) (s s' : PaginationEntityState) : Prop where
  pages : ∀ k, s'.ids.get? k = (s.ids.get? k).map (Option.map (·.filter (· ≠ guid)))
  totalResults : s'.totalResults = s.totalResults - occurrences guid s
  clientTotalResults : s'.clientPagination.map (·.totalResults) =
    s.clientPagination.map fun c => c.totalResults - (occurrences guid s : ℤ)

/-- The removal does not throw, and every section of the entity's type is cleared. -/
def ClearsExactly (state : PaginationState) (action : ClearPaginationOfEntity) : Prop :=
  ∃ state', paginationClearOfEntity state action = some state' ∧
    ∀ sections, state.get? action.entityKey = some sections →
      ∃ sections', state'.get? action.entityKey = some sections' ∧
        ∀ key, Option.Rel (SectionCleared action.entityGuid) (sections.get? key)
          (sections'.get? key)

/-- The section holds the guid at most once, none of its pages is `undefined`, and it has a
client pagination if it holds the guid. -/
structure HoldsAtMostOnce (guid : String) (s : PaginationEntityState) : Prop where
  defined : ∀ k, s.ids.get? k ≠ some none
  once : occurrences guid s ≤ 1
  client : occurrences guid s ≠ 0 → s.clientPagination.isSome

/-! ## The walk over the pages of a section -/

/-- The section rebuilt for a hit on one page. -/
def rebuilt (guid : String) (s : PaginationEntityState) (c : PaginationClientPagination)
    (pageKey : String) (page : List String) : PaginationEntityState :=
  { s with
    ids := s.ids.set pageKey (some (page.erase guid))
    totalResults := s.totalResults - 1
    clientPagination := some { c with totalResults := c.totalResults - 1, currentPage := 1 } }

/-- The walk can pass the page. -/
def Passable (guid : String) (s : PaginationEntityState) (pageKey : String) : Prop :=
  ∃ page, s.ids.get? pageKey = some (some page) ∧ (guid ∈ page → s.clientPagination.isSome)

/-- How the walk over the pages `ks` ends : no page holds the guid, or the section is rebuilt
for a hit on one of them. -/
inductive Outcome (guid : String) (s : PaginationEntityState) (ks : List String) :
    PaginationEntityState → Prop
  | miss (h : ∀ k ∈ ks, ∀ page, s.ids.get? k = some (some page) → guid ∉ page) :
      Outcome guid s ks s
  | hit {k : String} {page : List String} {c : PaginationClientPagination} (hk : k ∈ ks)
      (hpage : s.ids.get? k = some (some page)) (hguid : guid ∈ page)
      (hc : s.clientPagination = some c) : Outcome guid s ks (rebuilt guid s c k page)

section Walk

variable {guid key k : String} {s : PaginationEntityState} {st st' : PaginationEntityTypeState}

theorem clearPage_some (h : clearPage guid key s st k = some st') :
    Passable guid s k ∧ (st' = st ∧ (∀ page, s.ids.get? k = some (some page) → guid ∉ page) ∨
      ∃ page c, s.ids.get? k = some (some page) ∧ guid ∈ page ∧ s.clientPagination = some c ∧
        st' = st.set key (rebuilt guid s c k page)) := by
  unfold clearPage at h
  obtain ⟨page, hjoin, h⟩ := Option.bind_eq_some_iff.1 h
  have hpage : s.ids.get? k = some (some page) := Option.join_eq_some_iff.1 hjoin
  split_ifs at h with hguid
  · obtain ⟨c, hc, h⟩ := Option.bind_eq_some_iff.1 h
    have hc' : s.clientPagination = some c := hc
    refine ⟨⟨page, hpage, fun _ => by simp [hc']⟩, Or.inr ⟨page, c, hpage, hguid, hc', ?_⟩⟩
    exact (Option.some.inj h).symm
  · refine ⟨⟨page, hpage, fun h => absurd h hguid⟩, Or.inl ⟨(Option.some.inj h).symm, ?_⟩⟩
    intro page' hpage'
    rw [hpage] at hpage'
    cases hpage'
    exact hguid

theorem exists_clearPage (key : String) (st : PaginationEntityTypeState)
    (h : Passable guid s k) : ∃ st', clearPage guid key s st k = some st' := by
  obtain ⟨page, hpage, hclient⟩ := h
  unfold clearPage
  rw [hpage]
  by_cases hguid : guid ∈ page
  · obtain ⟨c, hc⟩ := Option.isSome_iff_exists.1 (hclient hguid)
    exact ⟨_, by simp only [Option.join_some, Option.bind_eq_bind, Option.bind_some, hguid,
      if_true, spreadClientPagination, hc]; rfl⟩
  · exact ⟨st, by simp [hguid]⟩

/-- A walk that does not throw passes every page and leaves the other sections as they
are. -/
theorem walk_some {ks : List String} (hs : st.get? key = some s)
    (h : ks.foldlM (clearPage guid key s) st = some st') :
    (∀ k ∈ ks, Passable guid s k) ∧ (∀ key' ≠ key, st'.get? key' = st.get? key') ∧
      ∃ s', st'.get? key = some s' ∧ Outcome guid s ks s' := by
  -- over the pages from their end : the last hit is the one that stays
  induction ks using List.reverseRecOn generalizing st' with
  | nil =>
    obtain rfl : st = st' := Option.some.inj h
    exact ⟨by simp, fun _ _ => rfl, s, hs, .miss (by simp)⟩
  | append_singleton ks k ih =>
    rw [List.foldlM_append] at h
    obtain ⟨st₁, h₁, h⟩ := Option.bind_eq_some_iff.1 h
    obtain ⟨hpass, hother, s', hs', hout⟩ := ih h₁
    obtain ⟨hk, hlast⟩ := clearPage_some (by simpa using h)
    refine ⟨fun k' hk' => ?_, ?_⟩
    · rcases List.mem_append.1 hk' with hk' | hk'
      · exact hpass k' hk'
      · rwa [List.mem_singleton.1 hk']
    · rcases hlast with ⟨rfl, hmiss⟩ | ⟨page, c, hpage, hguid, hc, rfl⟩
      · refine ⟨hother, s', hs', ?_⟩
        cases hout with
        | miss h =>
          refine .miss fun k' hk' => ?_
          rcases List.mem_append.1 hk' with hk' | hk'
          · exact h k' hk'
          · rwa [List.mem_singleton.1 hk']
        | hit hk hpage hguid hc => exact .hit (List.mem_append_left _ hk) hpage hguid hc
      · refine ⟨fun key' hne => ?_, _, JsObject.get?_set_self .., ?_⟩
        · rw [JsObject.get?_set, if_neg hne, hother key' hne]
        · exact .hit (by simp) hpage hguid hc

theorem exists_walk (key : String) (st : PaginationEntityTypeState) {ks : List String}
    (h : ∀ k ∈ ks, Passable guid s k) :
    ∃ st', ks.foldlM (clearPage guid key s) st = some st' := by
  induction ks generalizing st with
  | nil => exact ⟨st, rfl⟩
  | cons k ks ih =>
    obtain ⟨st₁, h₁⟩ := exists_clearPage key st (h k (by simp))
    obtain ⟨st', h'⟩ := ih st₁ fun k' hk' => h k' (List.mem_cons_of_mem _ hk')
    exact ⟨st', by rw [List.foldlM_cons, h₁]; exact h'⟩

end Walk

/-! ## What a walk leaves of one section -/

section Section

variable {guid : String} {s s' : PaginationEntityState}

/-- A page counts its occurrences. -/
theorem count_le_occurrences (guid : String) {k : String} {page : List String}
    (h : s.ids.get? k = some (some page)) : page.count guid ≤ occurrences guid s :=
  JsObject.le_sumBy (f := fun page : Option (List String) => (page.getD []).count guid) h

theorem occurrences_eq_zero_iff : occurrences guid s = 0 ↔
    ∀ k page, s.ids.get? k = some (some page) → guid ∉ page := by
  unfold occurrences
  rw [JsObject.sumBy_eq_zero_iff]
  constructor
  · intro h k page hk
    exact List.count_eq_zero.1 (h k (some page) hk)
  · intro h k page hk
    cases page with
    | none => rfl
    | some page => exact List.count_eq_zero.2 (h k page hk)

/-- All pages are defined and there is a client pagination if a page holds the guid. -/
theorem passable_iff : (∀ k ∈ s.ids.ownKeys, Passable guid s k) ↔
    (∀ k, s.ids.get? k ≠ some none) ∧ (occurrences guid s ≠ 0 → s.clientPagination.isSome) := by
  constructor
  · intro h
    have hpage : ∀ k page, s.ids.get? k = some page → ∃ p, page = some p ∧
        (guid ∈ p → s.clientPagination.isSome) := by
      intro k page hk
      obtain ⟨p, hp, hclient⟩ := h k (JsObject.mem_ownKeys.2 (JsObject.mem_keys_of_get? hk))
      exact ⟨p, Option.some.inj (hk.symm.trans hp), hclient⟩
    refine ⟨fun k hk => ?_, fun hocc => ?_⟩
    · obtain ⟨p, hp, -⟩ := hpage k none hk
      cases hp
    · by_contra hclient
      refine hocc (occurrences_eq_zero_iff.2 fun k page hk hguid => hclient ?_)
      obtain ⟨p, hp, hc⟩ := hpage k (some page) hk
      cases hp
      exact hc hguid
  · rintro ⟨hdef, hclient⟩ k hk
    obtain ⟨page, hpage⟩ := JsObject.exists_get? (JsObject.mem_ownKeys.1 hk)
    cases page with
    | none => exact absurd hpage (hdef k)
    | some page =>
      refine ⟨page, hpage, fun hguid => hclient fun hzero => ?_⟩
      exact occurrences_eq_zero_iff.1 hzero k page hpage hguid

/-- Filtering a page that does not hold the guid changes nothing. -/
theorem filter_ne_of_not_mem {page : List String} (h : guid ∉ page) :
    page.filter (· ≠ guid) = page :=
  List.filter_eq_self.2 fun x hx => by simpa using fun heq : x = guid => h (heq ▸ hx)

/-- Erasing the only occurrence removes the guid. -/
theorem filter_ne_eq_erase {page : List String} (h : page.count guid = 1) :
    page.filter (· ≠ guid) = page.erase guid := by
  have hmem : guid ∈ page := List.count_pos_iff.1 (by omega)
  obtain ⟨l₁, l₂, hnot₁, rfl, herase⟩ := List.exists_erase_eq hmem
  have hnot₂ : guid ∉ l₂ := by
    rw [List.count_append, List.count_cons_self] at h
    exact List.count_eq_zero.1 (by omega)
  rw [herase, List.filter_append, List.filter_cons_of_neg (by simp), filter_ne_of_not_mem hnot₁,
    filter_ne_of_not_mem hnot₂]

/-- A section that does not hold the guid is cleared as it is. -/
theorem sectionCleared_self (h : occurrences guid s = 0) : SectionCleared guid s s := by
  refine ⟨fun k => ?_, by simp [h], by simp [h]⟩
  cases hk : s.ids.get? k with
  | none => rfl
  | some page =>
    cases page with
    | none => rfl
    | some page =>
      simp only [Option.map_some, filter_ne_of_not_mem (occurrences_eq_zero_iff.1 h k page hk)]

/-- A section that holds the guid once is cleared by the rebuild. -/
theorem sectionCleared_rebuilt {k : String} {page : List String}
    {c : PaginationClientPagination} (hpage : s.ids.get? k = some (some page))
    (hguid : guid ∈ page) (hc : s.clientPagination = some c) (hone : occurrences guid s = 1) :
    SectionCleared guid s (rebuilt guid s c k page) := by
  have hcount : page.count guid = 1 := by
    have hle := count_le_occurrences guid hpage
    have hpos := List.count_pos_iff.2 hguid
    omega
  -- Without the page nothing is left to count.
  have hrest : occurrences guid (rebuilt guid s c k page) = 0 := by
    have hsum := JsObject.sumBy_set (f := fun p : Option (List String) => (p.getD []).count guid)
      (v := some (page.erase guid)) hpage
    have herase : (page.erase guid).count guid = 0 := by rw [List.count_erase_self, hcount]
    simp only [Option.getD_some, herase, hcount] at hsum
    unfold occurrences at hone ⊢
    change (s.ids.set k (some (page.erase guid))).sumBy _ = 0
    omega
  refine ⟨fun k' => ?_, by simp [rebuilt, hone], by simp [rebuilt, hone, hc]⟩
  change (s.ids.set k (some (page.erase guid))).get? k' = _
  rw [JsObject.get?_set]
  split_ifs with hk
  · subst hk
    simp only [hpage, Option.map_some, filter_ne_eq_erase hcount]
  · cases hk' : s.ids.get? k' with
    | none => rfl
    | some page' =>
      cases page' with
      | none => rfl
      | some page' =>
        have hk'' : (rebuilt guid s c k page).ids.get? k' = some (some page') := by
          change (s.ids.set k _).get? k' = _
          rw [JsObject.get?_set, if_neg hk, hk']
        simp only [Option.map_some,
          filter_ne_of_not_mem (occurrences_eq_zero_iff.1 hrest k' page' hk'')]

/-- What the walk leaves is the cleared section exactly when it holds the guid at most
once. -/
theorem Outcome.sectionCleared_iff (h : Outcome guid s s.ids.ownKeys s') :
    SectionCleared guid s s' ↔ occurrences guid s ≤ 1 := by
  cases h with
  | miss h =>
    have hzero : occurrences guid s = 0 := occurrences_eq_zero_iff.2 fun k page hk =>
      h k (JsObject.mem_ownKeys.2 (JsObject.mem_keys_of_get? hk)) page hk
    exact iff_of_true (sectionCleared_self hzero) (by omega)
  | hit hk hpage hguid hc =>
    constructor
    · intro h
      have htotal := h.totalResults
      simp only [rebuilt] at htotal
      omega
    · intro hle
      have hpos := List.count_pos_iff.2 hguid
      have hcount := count_le_occurrences guid hpage
      exact sectionCleared_rebuilt hpage hguid hc (by omega)

end Section

/-! ## The walk over the sections -/

section Sections

variable {guid : String} {st st' : PaginationEntityTypeState}

theorem clearSection_some {key : String} (h : clearSection guid st key = some st') :
    (∀ key' ≠ key, st'.get? key' = st.get? key') ∧
      ∃ s s', st.get? key = some s ∧ st'.get? key = some s' ∧
        (∀ k ∈ s.ids.ownKeys, Passable guid s k) ∧ Outcome guid s s.ids.ownKeys s' := by
  obtain ⟨s, hs, h⟩ := Option.bind_eq_some_iff.1 h
  obtain ⟨hpass, hother, s', hs', hout⟩ := walk_some hs h
  exact ⟨hother, s, s', hs, hs', hpass, hout⟩

theorem exists_clearSection {key : String} {s : PaginationEntityState} (hs : st.get? key = some s)
    (h : ∀ k ∈ s.ids.ownKeys, Passable guid s k) : ∃ st', clearSection guid st key = some st' := by
  obtain ⟨st', h'⟩ := exists_walk key st h
  exact ⟨st', by rw [clearSection, hs]; exact h'⟩

/-- A walk over sections that does not throw changes the sections it walks over only. -/
theorem sections_some {keys : List String} (hnd : keys.Nodup)
    (h : keys.foldlM (clearSection guid) st = some st') :
    (∀ key ∉ keys, st'.get? key = st.get? key) ∧ ∀ key ∈ keys,
      ∃ s s', st.get? key = some s ∧ st'.get? key = some s' ∧
        (∀ k ∈ s.ids.ownKeys, Passable guid s k) ∧ Outcome guid s s.ids.ownKeys s' := by
  induction keys generalizing st with
  | nil =>
    obtain rfl : st = st' := Option.some.inj h
    exact ⟨fun _ _ => rfl, by simp⟩
  | cons key keys ih =>
    obtain ⟨hkey, hnd⟩ := List.nodup_cons.1 hnd
    rw [List.foldlM_cons] at h
    obtain ⟨st₁, h₁, h⟩ := Option.bind_eq_some_iff.1 h
    obtain ⟨hother, s, s', hs, hs', hsec⟩ := clearSection_some h₁
    obtain ⟨hout, hin⟩ := ih hnd h
    refine ⟨fun key' hkey' => ?_, fun key' hkey' => ?_⟩
    · rw [List.mem_cons, not_or] at hkey'
      rw [hout key' hkey'.2, hother key' hkey'.1]
    · by_cases hk : key' = key
      · subst hk
        exact ⟨s, s', hs, by rw [hout key' hkey, hs'], hsec⟩
      · have hmem : key' ∈ keys := (List.mem_cons.1 hkey').resolve_left hk
        obtain ⟨r, r', hr, hrest⟩ := hin key' hmem
        exact ⟨r, r', by rw [← hother key' hk, hr], hrest⟩

theorem exists_sections (st : PaginationEntityTypeState) {keys : List String} (hnd : keys.Nodup)
    (h : ∀ key ∈ keys, ∃ s, st.get? key = some s ∧ ∀ k ∈ s.ids.ownKeys, Passable guid s k) :
    ∃ st', keys.foldlM (clearSection guid) st = some st' := by
  induction keys generalizing st with
  | nil => exact ⟨st, rfl⟩
  | cons key keys ih =>
    obtain ⟨hkey, hnd⟩ := List.nodup_cons.1 hnd
    obtain ⟨s, hs, hpass⟩ := h key (by simp)
    obtain ⟨st₁, h₁⟩ := exists_clearSection hs hpass
    obtain ⟨hother, -⟩ := clearSection_some h₁
    obtain ⟨st', h'⟩ := ih st₁ hnd fun key' hkey' => by
      obtain ⟨s', hs', hpass'⟩ := h key' (List.mem_cons_of_mem _ hkey')
      exact ⟨s', by rw [hother key' fun heq => hkey (heq ▸ hkey'), hs'], hpass'⟩
    exact ⟨st', by rw [List.foldlM_cons, h₁]; exact h'⟩

end Sections

/-! ## When a removal is exact -/

theorem holdsAtMostOnce_iff {guid : String} {s : PaginationEntityState} :
    HoldsAtMostOnce guid s ↔
      (∀ k ∈ s.ids.ownKeys, Passable guid s k) ∧ occurrences guid s ≤ 1 := by
  rw [passable_iff]
  exact ⟨fun h => ⟨⟨h.defined, h.client⟩, h.once⟩, fun h => ⟨h.1.1, h.2, h.1.2⟩⟩

/-- Clearing an entity is exact if and only if every section of its type holds it at most
once. -/
theorem clearsExactly_iff (state : PaginationState) (action : ClearPaginationOfEntity) :
    ClearsExactly state action ↔ ∀ sections, state.get? action.entityKey = some sections →
      ∀ key s, sections.get? key = some s → HoldsAtMostOnce action.entityGuid s := by
  cases hsections : state.get? action.entityKey with
  | none =>
    refine iff_of_true ⟨state, by simp [paginationClearOfEntity, hsections], ?_⟩ (by simp)
    intro sections h
    rw [hsections] at h
    cases h
  | some sections =>
    have hnd := sections.nodup_ownKeys
    constructor
    · rintro ⟨state', hstate', h⟩ _ ⟨⟩ key s hs
      obtain ⟨sections', hsections', hrel⟩ := h sections hsections
      rw [paginationClearOfEntity, hsections] at hstate'
      obtain ⟨st', hst', heq⟩ := Option.bind_eq_some_iff.1 hstate'
      obtain rfl : state.set action.entityKey st' = state' := Option.some.inj heq
      obtain rfl : st' = sections' := by simpa using hsections'
      have hmem : key ∈ sections.ownKeys := JsObject.mem_ownKeys.2 (JsObject.mem_keys_of_get? hs)
      obtain ⟨r, r', hr, hr', hpass, hout⟩ := (sections_some hnd hst').2 key hmem
      obtain rfl : s = r := Option.some.inj (hs.symm.trans hr)
      have hcleared := hrel key
      rw [hs, hr'] at hcleared
      cases hcleared with
      | some hcleared =>
        exact holdsAtMostOnce_iff.2 ⟨hpass, hout.sectionCleared_iff.1 hcleared⟩
    · intro h
      have hone := h sections rfl
      have hex : ∀ key ∈ sections.ownKeys, ∃ s, sections.get? key = some s ∧
          ∀ k ∈ s.ids.ownKeys, Passable action.entityGuid s k := fun key hkey => by
        obtain ⟨s, hs⟩ := JsObject.exists_get? (JsObject.mem_ownKeys.1 hkey)
        exact ⟨s, hs, (holdsAtMostOnce_iff.1 (hone key s hs)).1⟩
      obtain ⟨st', hst'⟩ := exists_sections _ hnd hex
      refine ⟨state.set action.entityKey st', ?_, ?_⟩
      · rw [paginationClearOfEntity, hsections]
        simp only [hst']
        rfl
      · intro sections₀ hsections₀
        obtain rfl : sections = sections₀ := Option.some.inj (hsections.symm.trans hsections₀)
        refine ⟨st', JsObject.get?_set_self .., fun key => ?_⟩
        obtain ⟨hout, hin⟩ := sections_some hnd hst'
        by_cases hkey : key ∈ sections.ownKeys
        · obtain ⟨s, s', hs, hs', -, hsec⟩ := hin key hkey
          rw [hs, hs']
          exact .some (hsec.sectionCleared_iff.2 (hone key s hs).once)
        · rw [hout key hkey, JsObject.get?_eq_none_iff.2 fun h => hkey (JsObject.mem_ownKeys.2 h)]
          exact .none

/-- A local list of two pages that both hold "app". -/
def twoPages : PaginationEntityState :=
  { getDefaultPaginationEntityState with
    ids := (JsObject.empty.set "1" (some ["app", "other"])).set "2" (some ["app"])
    totalResults := 3 }

/-- The pagination state whose only section of "application" is `twoPages`. -/
def twoPagesState : PaginationState :=
  JsObject.empty.set "application" (JsObject.empty.set "all" twoPages)

/-- Of two pages that hold a deleted application, one still holds it afterwards. -/
theorem not_clearsExactly_twoPages : ¬ClearsExactly twoPagesState ⟨"application", "app"⟩ := by
  rintro ⟨state', hstate', h⟩
  obtain ⟨sections', hsections', hrel⟩ := h _ rfl
  cases hstate'
  cases hsections'
  cases hrel "all" with
  | some hcleared => exact absurd (hcleared.pages "1") (by decide)

end Stratos
