import Mathlib.Data.List.TakeDrop
import Mathlib.Tactic.Ring

/-!
# The pages of a local list

A list that is fetched as a whole is cut into pages in the browser
(`local-list-controller.helpers.ts`). The cache holds entities and pages : a page that is asked
for is cut out of it and put back as one slot, and the next call starts from there.

`getCurrentPageStartIndex` finds a page among slots of both kinds (`startIndex_of_cut`), since the
slots are the pages of the list in their order, cut out or not (`Cut`). So every request returns
its part of the list, whatever was requested before, and the cache keeps the list
(`requestPage_eq`).
-/

namespace Stratos

namespace LocalPaging

variable {T : Type}

/-! ## The cache -/

/-- `T | T[]` -/
inductive Slot (T : Type)
  | entity (t : T)
  | page (items : List (Slot T))

/-- What a slot holds. -/
def Slot.items : Slot T → List (Slot T)
  | entity t => [.entity t]
  | page items => items

/-- The slot stands for a page. -/
def Slot.isPage : Slot T → Bool
  | entity _ => false
  | page _ => true

/-- The loop of `getCurrentPageStartIndex`, from slot `i` on. -/
def startIndexFrom (pageSize requiredPage i currentPage splitPages : ℕ) : List (Slot T) → Option ℕ
  | [] => none
  | .page _ :: entities =>
    if currentPage + 1 = requiredPage then some i
    else startIndexFrom pageSize requiredPage (i + 1) (currentPage + 1) (splitPages + 1) entities
  | .entity _ :: entities =>
    let index := (i - splitPages) + splitPages * pageSize
    let currentPage := if index % pageSize = 0 then currentPage + 1 else currentPage
    if currentPage = requiredPage then some i
    else startIndexFrom pageSize requiredPage (i + 1) currentPage splitPages entities

/-- Where the page starts among the slots. -/
def getCurrentPageStartIndex (entities : List (Slot T)) (pageSize requiredPage : ℕ) : Option ℕ :=
  startIndexFrom pageSize requiredPage 0 0 0 entities

/-- The slots, and the place of the required page among them. -/
structure SplitPages (T : Type) where
  entities : List (Slot T)
  index : Option ℕ

/-- `pages.splice(index, pageSize)`, put back as one slot. -/
def splicePage (entities : List (Slot T)) (index pageSize : ℕ) : List (Slot T) :=
  entities.take index ++
    .page ((entities.drop index).take pageSize) :: (entities.drop index).drop pageSize

/-- The slots with a page cut in two, so that the current page starts at one. -/
def splitCurrentPage (entities : List (Slot T)) (pageSize currentPage : ℕ) : SplitPages T :=
  if entities = [] then ⟨[], some 0⟩
  else match getCurrentPageStartIndex entities pageSize currentPage with
    | none => ⟨entities, none⟩
    | some index =>
      if (entities[index]?).any Slot.isPage then ⟨entities, some index⟩
      else
        let pageSize := if index + pageSize > entities.length then entities.length - index
          else pageSize
        ⟨splicePage entities index pageSize, some index⟩

/-- `data.entities[data.index] || []` -/
def SplitPages.currentPage (data : SplitPages T) : Slot T :=
  (data.index.bind (data.entities[·]?)).getD (.page [])

/-- One request of the controller : the page it shows, and the cache it keeps. -/
def requestPage (entities : List (Slot T)) (pageSize : ℕ) (pageSplitCache : Option (List (Slot T)))
    (currentPage : ℕ) : SplitPages T :=
  splitCurrentPage (pageSplitCache.getD entities) pageSize currentPage

/-- The cache after a sequence of requests. -/
def cacheAfter (entities : List (Slot T)) (pageSize : ℕ) (requests : List ℕ) :
    Option (List (Slot T)) :=
  requests.foldl (fun cache page => some (requestPage entities pageSize cache page).entities) none

/-! ## Slots that are the pages of a list -/

/-- The entities of page `k`. -/
def slice (l : List T) (pageSize k : ℕ) : List T :=
  (l.take (k * pageSize)).drop ((k - 1) * pageSize)

/-- A page is full, unless it is the last. -/
def IsPage (pageSize : ℕ) (page rest : List T) : Prop :=
  page ≠ [] ∧ (page.length = pageSize ∨ page.length < pageSize ∧ rest = [])

/-- The slots are the pages of the list, some of them cut out. -/
inductive Cut (pageSize : ℕ) : List T → List (Slot T) → Prop
  | nil : Cut pageSize [] []
  | page {page rest slots} : IsPage pageSize page rest → Cut pageSize rest slots →
    Cut pageSize (page ++ rest) (.page (page.map .entity) :: slots)
  | entities {page rest slots} : IsPage pageSize page rest → Cut pageSize rest slots →
    Cut pageSize (page ++ rest) (page.map .entity ++ slots)

section Cut

variable {pageSize : ℕ} {l : List T} {slots : List (Slot T)}

theorem cut_map_entity (hp : 1 ≤ pageSize) (l : List T) : Cut pageSize l (l.map .entity) := by
  induction hn : l.length using Nat.strong_induction_on generalizing l with
  | _ n ih =>
    rcases eq_or_ne l [] with rfl | hne
    · exact Cut.nil
    have hpos : 0 < l.length := List.length_pos_iff.2 hne
    have hpage : IsPage pageSize (l.take pageSize) (l.drop pageSize) := by
      refine ⟨fun h => ?_, ?_⟩
      · have hlen := congrArg List.length h
        rw [List.length_take, List.length_nil] at hlen
        omega
      · rw [List.length_take, List.drop_eq_nil_iff]
        omega
    have hrest := ih (l.drop pageSize).length (by rw [List.length_drop]; omega) _ rfl
    have hcut := Cut.entities hpage hrest
    rwa [List.take_append_drop, ← List.map_append, List.take_append_drop] at hcut

theorem Cut.items (h : Cut pageSize l slots) : slots.flatMap Slot.items = l.map .entity := by
  induction h with
  | nil => rfl
  | page _ _ ih => rw [List.flatMap_cons, ih, Slot.items, List.map_append]
  | @entities page rest slots _ _ ih =>
    have hpage : (page.map Slot.entity).flatMap Slot.items = page.map .entity := by
      rw [List.flatMap_map]
      exact List.map_eq_flatMap.symm
    rw [List.flatMap_append, ih, hpage, List.map_append]

theorem Cut.eq_nil (h : Cut pageSize l slots) (hl : l = []) : slots = [] := by
  cases h with
  | nil => rfl
  | page hpage _ => exact absurd (List.append_eq_nil_iff.1 hl).1 hpage.1
  | entities hpage _ => exact absurd (List.append_eq_nil_iff.1 hl).1 hpage.1

/-- The entities of a page behind its first are passed. -/
theorem startIndexFrom_entities {requiredPage currentPage splitPages i first : ℕ} {ts : List T}
    (hrequired : currentPage ≠ requiredPage) (hi : splitPages ≤ i)
    (hindex : (i - splitPages) + splitPages * pageSize = first * pageSize + 1)
    (hlen : ts.length < pageSize) :
    startIndexFrom pageSize requiredPage i currentPage splitPages (ts.map .entity ++ slots) =
      startIndexFrom pageSize requiredPage (i + ts.length) currentPage splitPages slots := by
  suffices h : ∀ (ts : List T) (i j : ℕ), splitPages ≤ i →
      (i - splitPages) + splitPages * pageSize = first * pageSize + j → 0 < j →
      j + ts.length ≤ pageSize →
      startIndexFrom pageSize requiredPage i currentPage splitPages (ts.map .entity ++ slots) =
        startIndexFrom pageSize requiredPage (i + ts.length) currentPage splitPages slots from
    h ts i 1 hi hindex Nat.one_pos (by omega)
  intro ts
  induction ts with
  | nil => exact fun _ _ _ _ _ _ => rfl
  | cons t ts ih =>
    intro i j hi hindex hj hlen
    rw [List.length_cons] at hlen
    have hmod : ((i - splitPages) + splitPages * pageSize) % pageSize ≠ 0 := by
      rw [hindex, Nat.mul_add_mod_of_lt (by omega)]
      omega
    rw [List.map_cons, List.cons_append, startIndexFrom]
    simp only [hmod, if_false, hrequired]
    rw [ih (i + 1) (j + 1) (by omega) (by omega) (by omega) (by omega), List.length_cons]
    congr 1
    omega

/-- Where the required page is : `n` slots on, behind full pages only. -/
def FoundAt (pageSize skipped : ℕ) (l : List T) (slots : List (Slot T)) (n : ℕ) : Prop :=
  ∃ pre page post before rest, n = pre.length ∧ l = before ++ (page ++ rest) ∧
    before.length = skipped * pageSize ∧ IsPage pageSize page rest ∧
    (slots = pre ++ .page (page.map .entity) :: post ∨ slots = pre ++ (page.map .entity ++ post)) ∧
    Cut pageSize rest post ∧
    ∀ slots', Cut pageSize (page ++ rest) slots' → Cut pageSize l (pre ++ slots')

theorem FoundAt.cons {skipped n : ℕ} {page rest : List T} {slot : List (Slot T)}
    (h : FoundAt pageSize skipped rest slots n) (hpage : IsPage pageSize page rest)
    (hslot : slot = [.page (page.map .entity)] ∨ slot = page.map .entity) :
    FoundAt pageSize (skipped + 1) (page ++ rest) (slot ++ slots) (slot.length + n) := by
  obtain ⟨pre, page', post, before, rest', rfl, rfl, hlen, hpage', hslots, hpost, hcut⟩ := h
  have hfull : page.length = pageSize := by
    refine hpage.2.resolve_right fun h => hpage'.1 ?_
    have := h.2
    simp only [List.append_eq_nil_iff] at this
    exact this.2.1
  refine ⟨slot ++ pre, page', post, page ++ before, rest', ?_, ?_, ?_, hpage', ?_, hpost, ?_⟩
  · rw [List.length_append]
  · rw [List.append_assoc]
  · rw [List.length_append, hlen, hfull]
    ring
  · rcases hslots with rfl | rfl
    · exact Or.inl (List.append_assoc _ _ _).symm
    · exact Or.inr (List.append_assoc _ _ _).symm
  · intro slots' hslots'
    rw [List.append_assoc]
    rcases hslot with rfl | rfl
    · exact Cut.page hpage (hcut slots' hslots')
    · exact Cut.entities hpage (hcut slots' hslots')

theorem length_le_of_isPage {page rest : List T} {n : ℕ} (h : IsPage pageSize page rest)
    (hrest : rest.length ≤ n) : page.length + rest.length ≤ n + pageSize := by
  rcases h.2 with hfull | ⟨hshort, rfl⟩
  · omega
  · rw [List.length_nil]
    omega

/-- The loop finds the required page, if there is one, from the start of any page on. -/
theorem startIndexFrom_of_cut (h : Cut pageSize l slots)
    {currentPage splitPages i : ℕ} (skipped : ℕ) (hi : splitPages ≤ i)
    (hindex : (i - splitPages) + splitPages * pageSize = currentPage * pageSize) :
    (startIndexFrom pageSize (currentPage + 1 + skipped) i currentPage splitPages slots = none ∧
        l.length ≤ skipped * pageSize) ∨
      ∃ n, startIndexFrom pageSize (currentPage + 1 + skipped) i currentPage splitPages slots =
        some (i + n) ∧ FoundAt pageSize skipped l slots n := by
  induction h generalizing currentPage splitPages i skipped with
  | nil => exact Or.inl ⟨rfl, Nat.zero_le _⟩
  | @page page rest slots hpage hrest ih =>
    cases skipped with
    | zero =>
      refine Or.inr ⟨0, by simp [startIndexFrom], [], page, slots, [], rest, rfl, rfl, by simp,
        hpage, Or.inl rfl, hrest, fun slots' h => h⟩
    | succ skipped =>
      have hstep : startIndexFrom pageSize (currentPage + 1 + (skipped + 1)) i currentPage
          splitPages (.page (page.map Slot.entity) :: slots) =
          startIndexFrom pageSize (currentPage + 1 + 1 + skipped) (i + 1) (currentPage + 1)
            (splitPages + 1) slots := by
        rw [startIndexFrom, if_neg (by omega)]
        congr 1
        omega
      have hnext : (i + 1 - (splitPages + 1)) + (splitPages + 1) * pageSize =
          (currentPage + 1) * pageSize := by
        rw [Nat.succ_mul, Nat.succ_mul, ← hindex]
        omega
      rw [hstep]
      rcases ih skipped (by omega) hnext with ⟨hnone, hlen⟩ | ⟨n, hn, hfound⟩
      · refine Or.inl ⟨hnone, ?_⟩
        rw [List.length_append, Nat.succ_mul]
        exact length_le_of_isPage hpage hlen
      · refine Or.inr ⟨1 + n, by rw [hn]; congr 1; omega, ?_⟩
        exact hfound.cons hpage (Or.inl rfl)
  | @entities page rest slots hpage hrest ih =>
    obtain ⟨t, ts, rfl⟩ := List.exists_cons_of_ne_nil hpage.1
    have hmod : ((i - splitPages) + splitPages * pageSize) % pageSize = 0 := by
      rw [hindex, Nat.mul_mod_left]
    cases skipped with
    | zero =>
      refine Or.inr ⟨0, ?_, [], t :: ts, slots, [], rest, rfl, rfl, by simp, hpage, Or.inr rfl,
        hrest, fun slots' h => h⟩
      simp [startIndexFrom, hmod]
    | succ skipped =>
      have hlen : ts.length < pageSize := by
        have := hpage.2
        rw [List.length_cons] at this
        omega
      have hstep : startIndexFrom pageSize (currentPage + 1 + (skipped + 1)) i currentPage
          splitPages ((t :: ts).map .entity ++ slots) =
          startIndexFrom pageSize (currentPage + 1 + 1 + skipped) (i + 1 + ts.length)
            (currentPage + 1) splitPages slots := by
        rw [List.map_cons, List.cons_append, startIndexFrom]
        simp only [hmod, if_true]
        have hindex : i + 1 - splitPages + splitPages * pageSize = currentPage * pageSize + 1 := by
          omega
        rw [if_neg (by omega), startIndexFrom_entities (by omega) (by omega) hindex hlen]
        congr 1
        omega
      rcases hpage.2 with hfull | ⟨-, rfl⟩
      · rw [List.length_cons] at hfull
        have hnext : (i + 1 + ts.length - splitPages) + splitPages * pageSize =
            (currentPage + 1) * pageSize := by
          rw [Nat.succ_mul, ← hindex]
          omega
        rw [hstep]
        rcases ih skipped (by omega) hnext with ⟨hnone, hlen'⟩ | ⟨n, hn, hfound⟩
        · refine Or.inl ⟨hnone, ?_⟩
          rw [List.length_append, Nat.succ_mul]
          exact length_le_of_isPage hpage hlen'
        · refine Or.inr ⟨(t :: ts).length + n, by rw [hn, List.length_cons]; congr 1; omega, ?_⟩
          have := hfound.cons hpage (Or.inr rfl)
          rwa [List.length_map] at this
      · rw [hstep, hrest.eq_nil rfl]
        refine Or.inl ⟨rfl, ?_⟩
        rw [List.length_append, Nat.succ_mul]
        exact length_le_of_isPage hpage (Nat.zero_le _)

/-- There is no page 0. -/
theorem startIndexFrom_of_lt {requiredPage currentPage splitPages i : ℕ}
    (h : requiredPage < currentPage) :
    startIndexFrom pageSize requiredPage i currentPage splitPages slots = none := by
  induction slots generalizing currentPage splitPages i with
  | nil => rfl
  | cons slot slots ih =>
    cases slot with
    | page _ => rw [startIndexFrom, if_neg (by omega), ih (by omega)]
    | entity _ =>
      simp only [startIndexFrom]
      split_ifs
      · omega
      · exact ih (by omega)
      · omega
      · exact ih h

theorem getCurrentPageStartIndex_zero : getCurrentPageStartIndex slots pageSize 0 = none := by
  unfold getCurrentPageStartIndex
  cases slots with
  | nil => rfl
  | cons slot slots =>
    cases slot with
    | page _ => rw [startIndexFrom, if_neg (by omega), startIndexFrom_of_lt (by omega)]
    | entity _ => simp [startIndexFrom, startIndexFrom_of_lt]

theorem Cut.eq_nil_of_slots (h : Cut pageSize l slots) (hslots : slots = []) : l = [] := by
  have hitems := h.items
  rw [hslots] at hitems
  exact List.map_eq_nil_iff.1 hitems.symm

theorem slice_of_isPage {before page rest : List T} {skipped : ℕ}
    (hlen : before.length = skipped * pageSize) (hpage : IsPage pageSize page rest) :
    slice (before ++ (page ++ rest)) pageSize (skipped + 1) = page := by
  have htake : (page ++ rest).take pageSize = page := by
    rcases hpage.2 with hfull | ⟨hshort, rfl⟩
    · rw [← hfull, List.take_left]
    · rw [List.append_nil, List.take_of_length_le hshort.le]
  rw [slice, Nat.add_sub_cancel, Nat.succ_mul, ← hlen, List.take_length_add_append, List.drop_left,
    htake]

theorem splicePage_append (pre items post : List (Slot T)) :
    splicePage (pre ++ (items ++ post)) pre.length items.length = pre ++ .page items :: post := by
  rw [splicePage, List.take_left, List.drop_left, List.take_left, List.drop_left]

/-- The required page is the page asked for, and the cache is cut out of the same list. -/
theorem splitCurrentPage_of_cut (h : Cut pageSize l slots) (k : ℕ) :
    Cut pageSize l (splitCurrentPage slots pageSize k).entities ∧
      (splitCurrentPage slots pageSize k).currentPage =
        .page ((slice l pageSize k).map .entity) := by
  unfold splitCurrentPage
  split_ifs with hslots
  · obtain rfl := h.eq_nil_of_slots hslots
    exact ⟨Cut.nil, by simp [SplitPages.currentPage, slice]⟩
  cases k with
  | zero =>
    rw [getCurrentPageStartIndex_zero]
    exact ⟨h, by simp [SplitPages.currentPage, slice]⟩
  | succ skipped =>
    have hindex : 0 - 0 + 0 * pageSize = 0 * pageSize := by simp
    have hfind := startIndexFrom_of_cut h skipped le_rfl hindex
    rw [Nat.zero_add, Nat.add_comm 1] at hfind
    rcases hfind with ⟨hnone, hlen⟩ | ⟨n, hn, hfound⟩
    · rw [getCurrentPageStartIndex, hnone]
      refine ⟨h, ?_⟩
      have hslice : slice l pageSize (skipped + 1) = [] := by
        rw [slice, Nat.add_sub_cancel, List.drop_eq_nil_iff]
        exact (List.length_take_le' _ _).trans hlen
      simp [SplitPages.currentPage, hslice]
    · rw [getCurrentPageStartIndex, hn, Nat.zero_add]
      obtain ⟨pre, page, post, before, rest, rfl, rfl, hlen, hpage, hslots', hpost, hcut⟩ := hfound
      rw [slice_of_isPage hlen hpage]
      rcases hslots' with rfl | rfl
      · simp only [List.getElem?_append_right le_rfl, Nat.sub_self, List.getElem?_cons_zero,
          Option.any_some, Slot.isPage, if_true]
        exact ⟨h, by simp [SplitPages.currentPage]⟩
      · have hfirst : (pre ++ (page.map Slot.entity ++ post))[pre.length]?.any Slot.isPage =
            false := by
          obtain ⟨t, ts, rfl⟩ := List.exists_cons_of_ne_nil hpage.1
          rw [List.getElem?_append_right le_rfl, Nat.sub_self]
          rfl
        have hsize : (if pre.length + pageSize > (pre ++ (page.map Slot.entity ++ post)).length
            then (pre ++ (page.map Slot.entity ++ post)).length - pre.length else pageSize) =
            (page.map Slot.entity).length := by
          simp only [List.length_append, List.length_map]
          rcases hpage.2 with hfull | ⟨hshort, rfl⟩
          · rw [if_neg (by omega), hfull]
          · rw [hpost.eq_nil rfl, if_pos (by simp; omega)]
            simp
        simp only [hfirst, Bool.false_eq_true, if_false, hsize, splicePage_append]
        exact ⟨hcut _ (Cut.page hpage hpost), by simp [SplitPages.currentPage]⟩

end Cut

variable {l : List T} {pageSize : ℕ}

theorem cut_cacheAfter (hp : 1 ≤ pageSize) (requests : List ℕ) :
    Cut pageSize l ((cacheAfter (l.map .entity) pageSize requests).getD (l.map .entity)) := by
  suffices h : ∀ cache : Option (List (Slot T)), Cut pageSize l (cache.getD (l.map .entity)) →
      Cut pageSize l ((requests.foldl (fun cache page =>
        some (requestPage (l.map .entity) pageSize cache page).entities) cache).getD
          (l.map .entity)) from h none (cut_map_entity hp l)
  induction requests with
  | nil => exact fun _ => id
  | cons page requests ih => exact fun cache h => ih _ (splitCurrentPage_of_cut h page).1

/-- After any requests page `k` is its part of the list, as it is without them, and the cache
holds the list. -/
theorem requestPage_eq (l : List T) (pageSize : ℕ) (hp : 1 ≤ pageSize) (requests : List ℕ)
    (k : ℕ) : (requestPage (l.map .entity) pageSize
        (cacheAfter (l.map .entity) pageSize requests) k).currentPage =
      .page (((l.take (k * pageSize)).drop ((k - 1) * pageSize)).map .entity) ∧
    (requestPage (l.map .entity) pageSize
        (cacheAfter (l.map .entity) pageSize requests) k).entities.flatMap Slot.items =
      l.map .entity ∧
    (requestPage (l.map .entity) pageSize
        (cacheAfter (l.map .entity) pageSize requests) k).currentPage =
      (requestPage (l.map .entity) pageSize none k).currentPage := by
  have hrun := splitCurrentPage_of_cut (cut_cacheAfter (l := l) hp requests) k
  have hfirst := splitCurrentPage_of_cut (cut_map_entity hp l) k
  exact ⟨hrun.2, hrun.1.items, hrun.2.trans hfirst.2.symm⟩

/-- Five entities in pages of two : the last page after the first and the second. -/
theorem requestPage_eq_last : (requestPage ([1, 2, 3, 4, 5].map Slot.entity) 2
    (cacheAfter ([1, 2, 3, 4, 5].map Slot.entity) 2 [1, 2]) 3).currentPage =
      .page ([5].map Slot.entity) :=
  (requestPage_eq [1, 2, 3, 4, 5] 2 (by decide) [1, 2] 3).1

end LocalPaging

end Stratos
