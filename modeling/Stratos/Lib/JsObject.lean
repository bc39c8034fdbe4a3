import Mathlib.Algebra.Order.BigOperators.Group.List
import Mathlib.Algebra.Order.Ring.Nat
import Mathlib.Data.List.Sort
import Mathlib.Data.List.Nodup

/-!
# ECMAScript objects used as dictionaries

A plain object is a list of own properties with distinct keys, in the order the keys
were first written (`JsObject`). Writing a key that is there keeps its place
(`JsObject.set`), as `{...o, [k]: v}` does.

`Object.keys` visits the array indices first, in ascending order, then the other keys in
the order they were written (`JsObject.ownKeys`). `JsObject.pair_sublist_ownKeys` says
when one key is visited before another, in terms of the keys alone (`visitedBefore`).

A loop over keys that writes each in its own place does what it does to each of them
(`JsObject.foldlM_updateAt`, `JsObject.get?_foldl`, `JsObject.keys_foldl`). Two objects are equal
when their keys are, in their order, and their values (`JsObject.ext_get?`).
-/

namespace Lib

/-- A plain object used as a dictionary. -/
@[ext]
structure JsObject (α : Type*) where
  /-- The own properties, in the order they were first written. -/
  entries : List (String × α)
  nodup : (entries.map Prod.fst).Nodup
  deriving DecidableEq

namespace JsObject

variable {α : Type*}

/-! ## Reading and writing -/

/-- The empty object. -/
def empty : JsObject α := ⟨[], List.nodup_nil⟩

instance : Inhabited (JsObject α) := ⟨empty⟩

/-- The keys, in the order they were first written. -/
def keys (o : JsObject α) : List String := o.entries.map Prod.fst

/-- `o[k]`. -/
def get? (o : JsObject α) (k : String) : Option α :=
  (o.entries.find? fun e => e.1 = k).map Prod.snd

/-- The entries with `k` written : in place if it is there, at the end if not. -/
def setEntry (k : String) (v : α) : List (String × α) → List (String × α)
  | [] => [(k, v)]
  | e :: es => if e.1 = k then (k, v) :: es else e :: setEntry k v es

theorem map_fst_setEntry (k : String) (v : α) : ∀ es : List (String × α),
    (setEntry k v es).map Prod.fst =
      if k ∈ es.map Prod.fst then es.map Prod.fst else es.map Prod.fst ++ [k]
  | [] => by simp [setEntry]
  | e :: es => by
    have ih := map_fst_setEntry k v es
    by_cases he : e.1 = k
    · simp [setEntry, he]
    · have hne : ¬k = e.1 := fun h => he h.symm
      simp only [setEntry, he, if_false, List.map_cons, ih, List.mem_cons, hne, false_or]
      split_ifs <;> simp

theorem find?_setEntry (k k' : String) (v : α) : ∀ es : List (String × α),
    ((setEntry k v es).find? fun e => e.1 = k').map Prod.snd =
      if k' = k then some v else (es.find? fun e => e.1 = k').map Prod.snd
  | [] => by
    by_cases h : k' = k
    · simp [setEntry, h]
    · simp [setEntry, h, Ne.symm h]
  | e :: es => by
    have ih := find?_setEntry k k' v es
    by_cases he : e.1 = k
    · by_cases h : k' = k
      · simp [setEntry, he, h]
      · have hne : ¬k = k' := fun h' => h h'.symm
        simp [setEntry, he, h, hne]
    · by_cases h' : e.1 = k'
      · have hne : ¬k' = k := fun h => he (h' ▸ h)
        simp [setEntry, h', hne]
      · simpa [setEntry, he, h'] using ih

/-- `{...o, [k]: v}`. -/
def set (o : JsObject α) (k : String) (v : α) : JsObject α where
  entries := setEntry k v o.entries
  nodup := by
    rw [map_fst_setEntry]
    split_ifs with h
    · exact o.nodup
    · exact List.Nodup.append o.nodup (List.nodup_singleton k) (by simpa using h)

/-- `delete o[k]`. -/
def erase (o : JsObject α) (k : String) : JsObject α where
  entries := o.entries.filter fun e => e.1 ≠ k
  nodup := o.nodup.sublist (List.filter_sublist.map _)

/-- `{...o, ...p}`. -/
def spread (o p : JsObject α) : JsObject α := p.entries.foldl (fun o e => o.set e.1 e.2) o

/-- The sum of a number over the values. -/
def sumBy (f : α → ℕ) (o : JsObject α) : ℕ := (o.entries.map fun e => f e.2).sum

@[simp] theorem keys_empty : (empty : JsObject α).keys = [] :=
  rfl

@[simp] theorem get?_empty (k : String) : (empty : JsObject α).get? k = none :=
  rfl

theorem nodup_keys (o : JsObject α) : o.keys.Nodup :=
  o.nodup

theorem keys_set (o : JsObject α) (k : String) (v : α) :
    (o.set k v).keys = if k ∈ o.keys then o.keys else o.keys ++ [k] :=
  map_fst_setEntry k v o.entries

theorem get?_set (o : JsObject α) (k k' : String) (v : α) :
    (o.set k v).get? k' = if k' = k then some v else o.get? k' :=
  find?_setEntry k k' v o.entries

@[simp] theorem get?_set_self (o : JsObject α) (k : String) (v : α) :
    (o.set k v).get? k = some v := by
  rw [get?_set, if_pos rfl]

@[simp] theorem mem_keys_set {o : JsObject α} {k k' : String} {v : α} :
    k' ∈ (o.set k v).keys ↔ k' ∈ o.keys ∨ k' = k := by
  rw [keys_set]
  split_ifs with h
  · refine ⟨Or.inl, ?_⟩
    rintro (h' | rfl)
    · exact h'
    · exact h
  · simp

theorem get?_eq_none_iff {o : JsObject α} {k : String} : o.get? k = none ↔ k ∉ o.keys := by
  simp only [get?, keys, Option.map_eq_none_iff, List.find?_eq_none, List.mem_map, not_exists,
    not_and, decide_eq_true_eq]

theorem isSome_get?_iff {o : JsObject α} {k : String} : (o.get? k).isSome ↔ k ∈ o.keys := by
  rw [← not_iff_not, ← get?_eq_none_iff, Option.not_isSome_iff_eq_none]

theorem mem_keys_of_get? {o : JsObject α} {k : String} {v : α} (h : o.get? k = some v) :
    k ∈ o.keys := by
  rw [← isSome_get?_iff, h]
  rfl

theorem exists_get? {o : JsObject α} {k : String} (h : k ∈ o.keys) : ∃ v, o.get? k = some v :=
  Option.isSome_iff_exists.1 (isSome_get?_iff.2 h)

theorem sum_setEntry (f : α → ℕ) (k : String) (v v₀ : α) : ∀ es : List (String × α),
    (es.find? fun e => e.1 = k).map Prod.snd = some v₀ →
      ((setEntry k v es).map fun e => f e.2).sum + f v₀ =
        (es.map fun e => f e.2).sum + f v
  | [], h => by simp at h
  | e :: es, h => by
    by_cases he : e.1 = k
    · obtain rfl : e.2 = v₀ := by simpa [he] using h
      simp only [setEntry, he, if_true, List.map_cons, List.sum_cons]
      omega
    · have ih := sum_setEntry f k v v₀ es (by simpa [he] using h)
      simp only [setEntry, he, if_false, List.map_cons, List.sum_cons]
      omega

/-- Writing over a value changes the sum by the difference of the two values. -/
theorem sumBy_set {f : α → ℕ} {o : JsObject α} {k : String} {v v₀ : α} (h : o.get? k = some v₀) :
    (o.set k v).sumBy f + f v₀ = o.sumBy f + f v :=
  sum_setEntry f k v v₀ o.entries h

theorem le_sumBy {f : α → ℕ} {o : JsObject α} {k : String} {v : α} (h : o.get? k = some v) :
    f v ≤ o.sumBy f := by
  obtain ⟨e, he, rfl⟩ := Option.map_eq_some_iff.1 h
  exact List.single_le_sum (fun _ _ => Nat.zero_le _) _
    (List.mem_map.2 ⟨e, List.mem_of_find?_eq_some he, rfl⟩)

theorem get?_of_mem {o : JsObject α} {e : String × α} (h : e ∈ o.entries) :
    o.get? e.1 = some e.2 := by
  have hnd := o.nodup
  unfold get?
  revert h hnd
  generalize o.entries = es
  intro h hnd
  induction es with
  | nil => exact absurd h List.not_mem_nil
  | cons e' es ih =>
    obtain ⟨hnot, hnd⟩ := List.nodup_cons.1 hnd
    rcases List.mem_cons.1 h with rfl | h
    · simp
    · have hne : e'.1 ≠ e.1 := fun heq => hnot (heq ▸ List.mem_map_of_mem h)
      simpa [hne] using ih h hnd

/-- The sum is 0 when every value counts 0. -/
theorem sumBy_eq_zero_iff {f : α → ℕ} {o : JsObject α} :
    o.sumBy f = 0 ↔ ∀ k v, o.get? k = some v → f v = 0 := by
  constructor
  · intro h k v hv
    have := le_sumBy (f := f) hv
    omega
  · intro h
    refine List.sum_eq_zero fun n hn => ?_
    obtain ⟨e, he, rfl⟩ := List.mem_map.1 hn
    exact h e.1 e.2 (get?_of_mem he)

theorem get?_erase (o : JsObject α) (k k' : String) :
    (o.erase k).get? k' = if k' = k then none else o.get? k' := by
  simp only [erase, get?]
  split_ifs with h
  · subst h
    simp
  · congr 1
    rw [List.find?_filter]
    congr 1
    funext e
    by_cases he : e.1 = k'
    · simp [he, h]
    · simp [he]

theorem setEntry_eq_self {k : String} {v : α} : ∀ {es : List (String × α)},
    (es.find? fun e => e.1 = k).map Prod.snd = some v → setEntry k v es = es
  | [], h => by simp at h
  | (k', v') :: es, h => by
    by_cases he : k' = k
    · subst he
      have hv : v' = v := by simpa using h
      simp [setEntry, hv]
    · have hrest : setEntry k v es = es := setEntry_eq_self (by simpa [he] using h)
      simp [setEntry, he, hrest]

/-- Writing what is there changes nothing. -/
theorem set_eq_self {o : JsObject α} {k : String} {v : α} (h : o.get? k = some v) :
    o.set k v = o :=
  JsObject.ext (setEntry_eq_self h)

theorem setEntry_setEntry (k : String) (v v' : α) : ∀ es : List (String × α),
    setEntry k v' (setEntry k v es) = setEntry k v' es
  | [] => by simp [setEntry]
  | e :: es => by
    rw [setEntry]
    split_ifs with h
    · simp [setEntry, h]
    · simp [setEntry, h, setEntry_setEntry k v v' es]

theorem set_set (o : JsObject α) (k : String) (v v' : α) : (o.set k v).set k v' = o.set k v' :=
  JsObject.ext (setEntry_setEntry k v v' o.entries)

/-- What is read after values are filed, each under its key : the last one of the key. -/
theorem get?_foldl_set (key : α → String) (values : List α) (o : JsObject α) (k : String) :
    (values.foldl (fun o v => o.set (key v) v) o).get? k =
      (values.reverse.find? fun v => key v = k).or (o.get? k) := by
  induction values generalizing o with
  | nil => rfl
  | cons v values ih =>
    rw [List.foldl_cons, ih, get?_set, List.reverse_cons, List.find?_append, Option.or_assoc]
    by_cases hk : key v = k
    · simp [hk]
    · have hne : ¬k = key v := fun h => hk h.symm
      simp [hk, hne]

theorem mem_keys_foldl_set {key : α → String} {values : List α} {o : JsObject α} {k : String} :
    k ∈ (values.foldl (fun o v => o.set (key v) v) o).keys ↔ k ∈ o.keys ∨ k ∈ values.map key := by
  induction values generalizing o with
  | nil => simp
  | cons v values ih =>
    rw [List.foldl_cons, ih, mem_keys_set, List.map_cons, List.mem_cons, or_assoc]

/-- Where the keys differ, each value is read. -/
theorem get?_foldl_set_of_mem {key : α → String} {values : List α} (h : (values.map key).Nodup)
    (o : JsObject α) {v : α} (hv : v ∈ values) :
    (values.foldl (fun o v => o.set (key v) v) o).get? (key v) = some v := by
  rw [get?_foldl_set]
  rcases hfind : values.reverse.find? fun v' => key v' = key v with _ | v'
  · have hno := List.find?_eq_none.1 hfind v (List.mem_reverse.2 hv)
    simp at hno
  · have hkey : key v' = key v := by simpa using List.find?_some hfind
    have hmem : v' ∈ values := List.mem_reverse.1 (List.mem_of_find?_eq_some hfind)
    rw [List.inj_on_of_nodup_map h hmem hv hkey]
    rfl

/-- An entry and those that are left without it. -/
theorem entries_erase_perm {o : JsObject α} {e : String × α} (he : e ∈ o.entries) :
    o.entries.Perm (e :: (o.erase e.1).entries) := by
  have hnodup : o.entries.Nodup := List.Nodup.of_map _ o.nodup
  have hnot : e ∉ (o.erase e.1).entries := by simp [erase]
  refine (List.perm_ext_iff_of_nodup hnodup
    (List.nodup_cons.2 ⟨hnot, List.Nodup.of_map _ (o.erase e.1).nodup⟩)).2 fun e' => ?_
  simp only [erase, List.mem_cons, List.mem_filter, ne_eq, decide_not, Bool.not_eq_eq_eq_not,
    Bool.not_true, decide_eq_false_iff_not]
  refine ⟨fun he' => ?_, ?_⟩
  · by_cases hkey : e'.1 = e.1
    · exact Or.inl (List.inj_on_of_nodup_map o.nodup he' he hkey)
    · exact Or.inr ⟨he', hkey⟩
  · rintro (rfl | ⟨he', -⟩)
    · exact he
    · exact he'

/-- What `{...o, ...p}` reads : `p` first. -/
theorem get?_spread (o p : JsObject α) (k : String) :
    (o.spread p).get? k = (p.get? k).or (o.get? k) := by
  have hfold : ∀ (es : List (String × α)) (o : JsObject α), (es.map Prod.fst).Nodup →
      (es.foldl (fun o e => o.set e.1 e.2) o).get? k =
        ((es.find? fun e => e.1 = k).map Prod.snd).or (o.get? k) := by
    intro es
    induction es with
    | nil => exact fun _ _ => rfl
    | cons e es ih =>
      intro o hnd
      obtain ⟨hnot, hnd⟩ := List.nodup_cons.1 hnd
      rw [List.foldl_cons, ih _ hnd, get?_set, List.find?_cons]
      by_cases hk : e.1 = k
      · have hnone : (es.find? fun e => e.1 = k) = none := by
          refine List.find?_eq_none.2 fun e' he' heq => hnot ?_
          rw [hk, ← of_decide_eq_true heq]
          exact List.mem_map_of_mem he'
        simp [hk, hnone]
      · have hne : ¬k = e.1 := fun h => hk h.symm
        simp [hk, hne]
  exact hfold p.entries o p.nodup

theorem spread_self (o : JsObject α) : o.spread o = o := by
  have hfold : ∀ es : List (String × α), (∀ e ∈ es, o.get? e.1 = some e.2) →
      es.foldl (fun o e => o.set e.1 e.2) o = o := by
    intro es
    induction es with
    | nil => exact fun _ => rfl
    | cons e es ih =>
      intro h
      rw [List.foldl_cons, set_eq_self (h e List.mem_cons_self)]
      exact ih fun e' he' => h e' (List.mem_cons_of_mem _ he')
  exact hfold o.entries fun e he => get?_of_mem he

/-- What `{...o, ...p}` adds comes after what is there. -/
theorem exists_keys_spread (o p : JsObject α) : ∃ ks, (o.spread p).keys = o.keys ++ ks := by
  have hfold : ∀ (es : List (String × α)) (o : JsObject α),
      ∃ ks, (es.foldl (fun o e => o.set e.1 e.2) o).keys = o.keys ++ ks := by
    intro es
    induction es with
    | nil => exact fun o => ⟨[], (List.append_nil _).symm⟩
    | cons e es ih =>
      intro o
      obtain ⟨ks, hks⟩ := ih (o.set e.1 e.2)
      rw [List.foldl_cons, hks, keys_set]
      split_ifs
      · exact ⟨ks, rfl⟩
      · exact ⟨e.1 :: ks, by simp⟩
  exact hfold p.entries o

theorem entries_eq (o : JsObject α) :
    o.entries = o.keys.filterMap fun k => (o.get? k).map (Prod.mk k) := by
  rw [keys, List.filterMap_map, List.filterMap_congr (g := some), List.filterMap_some]
  intro e he
  simp [get?_of_mem he]

/-- Two objects with the same keys in the same order and the same values are equal. -/
theorem ext_get? {o p : JsObject α} (hkeys : o.keys = p.keys) (h : ∀ k, o.get? k = p.get? k) :
    o = p := by
  refine JsObject.ext ?_
  rw [entries_eq o, entries_eq p, hkeys]
  simp only [h]

/-! ## The order of `Object.keys` -/

/-- The array index a key spells : the `n < 2^32 - 1` whose canonical decimal it is. -/
def arrayIndex? (k : String) : Option ℕ :=
  let n := k.toList.foldl (fun n c => 10 * n + (c.toNat - '0'.toNat)) 0
  if toString n = k ∧ n < 2 ^ 32 - 1 then some n else none

theorem toString_of_arrayIndex? {k : String} {n : ℕ} (h : arrayIndex? k = some n) :
    toString n = k := by
  simp only [arrayIndex?] at h
  split_ifs at h with hk
  rw [← Option.some.inj h]
  exact hk.1

theorem eq_of_arrayIndex?_eq {a b : String} {n : ℕ} (ha : arrayIndex? a = some n)
    (hb : arrayIndex? b = some n) : a = b :=
  (toString_of_arrayIndex? ha).symm.trans (toString_of_arrayIndex? hb)

/-- The order of two array indices. -/
def IndexLE (a b : String) : Prop := (arrayIndex? a).getD 0 ≤ (arrayIndex? b).getD 0

instance : DecidableRel IndexLE := fun _ _ => inferInstanceAs (Decidable (_ ≤ _))

instance : Std.Total IndexLE := ⟨fun _ _ => Nat.le_total _ _⟩

instance : IsTrans String IndexLE := ⟨fun _ _ _ => Nat.le_trans⟩

/-- Keys in the order `Object.keys` visits them, from the order they were written in. -/
def visitOrder (ks : List String) : List String :=
  (ks.filter fun k => (arrayIndex? k).isSome).insertionSort IndexLE ++
    ks.filter fun k => (arrayIndex? k).isNone

/-- `Object.keys(o)`. -/
def ownKeys (o : JsObject α) : List String := visitOrder o.keys

theorem mem_visitOrder {ks : List String} {k : String} : k ∈ visitOrder ks ↔ k ∈ ks := by
  simp only [visitOrder, List.mem_append, List.mem_insertionSort, List.mem_filter]
  cases arrayIndex? k <;> simp

theorem nodup_visitOrder {ks : List String} (h : ks.Nodup) : (visitOrder ks).Nodup := by
  refine List.Nodup.append ?_ (h.filter _) ?_
  · exact (List.perm_insertionSort _ _).nodup_iff.mpr (h.filter _)
  · intro k hk hk'
    simp only [List.mem_insertionSort, List.mem_filter] at hk hk'
    cases harr : arrayIndex? k <;> simp [harr] at hk hk'

@[simp] theorem mem_ownKeys {o : JsObject α} {k : String} : k ∈ o.ownKeys ↔ k ∈ o.keys :=
  mem_visitOrder

theorem nodup_ownKeys (o : JsObject α) : o.ownKeys.Nodup :=
  nodup_visitOrder o.nodup_keys

theorem visitOrder_filter (ks : List String) (p : String → Bool) :
    (visitOrder ks).filter p = visitOrder (ks.filter p) := by
  unfold visitOrder
  rw [List.filter_append, List.filter_comm p _ ks]
  refine congrArg (· ++ _) (@List.Perm.eq_of_pairwise _ IndexLE _ _ ?_ ?_ ?_ ?_)
  · intro a b ha hb hab hba
    simp only [List.mem_filter, List.mem_insertionSort] at ha hb
    obtain ⟨i, hi⟩ := Option.isSome_iff_exists.1 ha.1.2
    obtain ⟨j, hj⟩ := Option.isSome_iff_exists.1 hb.2
    simp only [IndexLE, hi, hj, Option.getD_some] at hab hba
    obtain rfl : i = j := Nat.le_antisymm hab hba
    exact eq_of_arrayIndex?_eq hi hj
  · exact (List.pairwise_insertionSort IndexLE _).filter _
  · exact List.pairwise_insertionSort IndexLE _
  · refine ((List.perm_insertionSort IndexLE _).filter p).trans ?_
    rw [List.filter_comm p _ ks]
    exact (List.perm_insertionSort IndexLE _).symm

/-- Keys that are in the order they are visited in stay in it. -/
theorem visitOrder_visitOrder (ks : List String) : visitOrder (visitOrder ks) = visitOrder ks := by
  have hindex : (visitOrder ks).filter (fun k => (arrayIndex? k).isSome) =
      (ks.filter fun k => (arrayIndex? k).isSome).insertionSort IndexLE := by
    have hnil : (ks.filter fun k => (arrayIndex? k).isNone).filter
        (fun k => (arrayIndex? k).isSome) = [] := by
      rw [List.filter_filter, List.filter_eq_nil_iff]
      intro k _
      cases arrayIndex? k <;> simp
    rw [visitOrder, List.filter_append, hnil, List.append_nil, List.filter_eq_self]
    exact fun k hk => (List.mem_filter.1 ((List.mem_insertionSort _).1 hk)).2
  have hother : (visitOrder ks).filter (fun k => (arrayIndex? k).isNone) =
      ks.filter fun k => (arrayIndex? k).isNone := by
    have hnil : ((ks.filter fun k => (arrayIndex? k).isSome).insertionSort IndexLE).filter
        (fun k => (arrayIndex? k).isNone) = [] := by
      rw [List.filter_eq_nil_iff]
      intro k hk
      have hsome := (List.mem_filter.1 ((List.mem_insertionSort _).1 hk)).2
      cases h : arrayIndex? k <;> simp [h] at hsome ⊢
    rw [visitOrder, List.filter_append, hnil, List.nil_append, List.filter_eq_self]
    exact fun k hk => (List.mem_filter.1 hk).2
  rw [visitOrder, hindex, hother,
    List.Pairwise.insertionSort_eq (List.pairwise_insertionSort IndexLE _)]
  rfl

/-- `x`, one of the keys `ks`, is visited before `d` once `d` is written too. -/
def VisitedBefore (ks : List String) (x d : String) : Prop :=
  match arrayIndex? x, arrayIndex? d with
  | some i, some j => i < j
  | some _, none => True
  | none, some _ => False
  | none, none => ks.idxOf x < ks.idxOf d

instance (ks : List String) (x d : String) : Decidable (VisitedBefore ks x d) := by
  unfold VisitedBefore
  split <;> infer_instance

/-- In a list without repetitions a pair is a sublist when its places are in order. -/
theorem pair_sublist_iff_idxOf {ks : List String} (h : ks.Nodup) {x d : String} (hx : x ∈ ks)
    (hd : d ∈ ks) : List.Sublist [x, d] ks ↔ ks.idxOf x < ks.idxOf d := by
  induction ks with
  | nil => simp at hx
  | cons k ks ih =>
    obtain ⟨hk, h⟩ := List.nodup_cons.mp h
    rw [List.sublist_cons_iff]
    by_cases hkx : k = x
    · subst hkx
      have hnot : ¬List.Sublist [k, d] ks := fun hs => hk (hs.subset (by simp))
      by_cases hkd : k = d
      · subst hkd
        simp [hnot, hk]
      · have hd' : d ∈ ks := by simpa [Ne.symm hkd] using hd
        simp [hnot, hd', List.idxOf_cons_ne _ hkd]
    · have hne : ¬x = k := fun h => hkx h.symm
      have hx' : x ∈ ks := by simpa [hne] using hx
      by_cases hkd : k = d
      · subst hkd
        have hnot : ¬List.Sublist [x, k] ks := fun hs => hk (hs.subset (by simp))
        simp [hnot, hne]
      · have hd' : d ∈ ks := by simpa [Ne.symm hkd] using hd
        simp [hne, ih h hx' hd', List.idxOf_cons_ne _ hkx, List.idxOf_cons_ne _ hkd]

/-- Two distinct members of a list without repetitions are a pair of it one way round. -/
theorem pair_sublist_or {ks : List String} (h : ks.Nodup) {x d : String} (hx : x ∈ ks)
    (hd : d ∈ ks) (hne : x ≠ d) : List.Sublist [x, d] ks ∨ List.Sublist [d, x] ks := by
  rw [pair_sublist_iff_idxOf h hx hd, pair_sublist_iff_idxOf h hd hx]
  exact Nat.lt_or_gt_of_ne fun heq => hne (List.idxOf_inj hx |>.mp heq)

theorem indexLE_iff {x d : String} {i j : ℕ} (hi : arrayIndex? x = some i)
    (hj : arrayIndex? d = some j) : IndexLE x d ↔ i ≤ j := by
  simp [IndexLE, hi, hj]

/-- Two array indices are a pair of the sorted list when the smaller comes first. -/
theorem pair_sublist_insertionSort {ks : List String} (h : ks.Nodup) {x d : String} {i j : ℕ}
    (hx : x ∈ ks) (hd : d ∈ ks) (hi : arrayIndex? x = some i) (hj : arrayIndex? d = some j) :
    List.Sublist [x, d] (ks.insertionSort IndexLE) ↔ i < j := by
  have hnd : (ks.insertionSort IndexLE).Nodup := (List.perm_insertionSort _ _).nodup_iff.mpr h
  have hle : ∀ {a b}, List.Sublist [a, b] (ks.insertionSort IndexLE) → IndexLE a b :=
    List.pairwise_iff_forall_sublist.mp (List.pairwise_insertionSort IndexLE ks)
  constructor
  · intro hs
    refine lt_of_le_of_ne ((indexLE_iff hi hj).mp (hle hs)) fun hij => ?_
    have hxd : x = d := eq_of_arrayIndex?_eq hi (hij ▸ hj)
    subst hxd
    simpa using hnd.sublist hs
  · intro hij
    have hne : x ≠ d := by
      rintro rfl
      simp_all
    refine (pair_sublist_or hnd (by simpa using hx) (by simpa using hd) hne).resolve_right ?_
    intro hs
    exact absurd ((indexLE_iff hj hi).mp (hle hs)) (by omega)

/-- Which of two recorded keys is visited first. -/
theorem pair_sublist_visitOrder {ks : List String} (h : ks.Nodup) {x d : String} (hx : x ∈ ks)
    (hd : d ∈ ks) : List.Sublist [x, d] (visitOrder ks) ↔ VisitedBefore ks x d := by
  have hidx := pair_sublist_iff_idxOf (nodup_visitOrder h) (mem_visitOrder.mpr hx)
    (mem_visitOrder.mpr hd)
  have hf : (ks.filter fun k => (arrayIndex? k).isSome).Nodup := h.filter _
  have hg : (ks.filter fun k => (arrayIndex? k).isNone).Nodup := h.filter _
  rw [hidx]
  unfold visitOrder VisitedBefore
  cases hi : arrayIndex? x with
  | some i =>
    have hxl : x ∈ (ks.filter fun k => (arrayIndex? k).isSome).insertionSort IndexLE := by
      simp [hx, hi]
    rw [List.idxOf_append_of_mem hxl]
    cases hj : arrayIndex? d with
    | some j =>
      have hdl : d ∈ (ks.filter fun k => (arrayIndex? k).isSome).insertionSort IndexLE := by
        simp [hd, hj]
      rw [List.idxOf_append_of_mem hdl, ← pair_sublist_iff_idxOf
        ((List.perm_insertionSort _ _).nodup_iff.mpr hf) hxl hdl]
      exact pair_sublist_insertionSort hf (by simp [hx, hi]) (by simp [hd, hj]) hi hj
    | none =>
      have hdl : d ∉ (ks.filter fun k => (arrayIndex? k).isSome).insertionSort IndexLE := by
        simp [hj]
      rw [List.idxOf_append_of_notMem hdl]
      exact iff_of_true ((List.idxOf_lt_length_of_mem hxl).trans_le (Nat.le_add_right _ _)) trivial
  | none =>
    have hxl : x ∉ (ks.filter fun k => (arrayIndex? k).isSome).insertionSort IndexLE := by
      simp [hi]
    rw [List.idxOf_append_of_notMem hxl]
    cases hj : arrayIndex? d with
    | some j =>
      have hdl : d ∈ (ks.filter fun k => (arrayIndex? k).isSome).insertionSort IndexLE := by
        simp [hd, hj]
      rw [List.idxOf_append_of_mem hdl]
      have := List.idxOf_lt_length_of_mem hdl
      exact iff_of_false (by omega) not_false
    | none =>
      have hdl : d ∉ (ks.filter fun k => (arrayIndex? k).isSome).insertionSort IndexLE := by
        simp [hj]
      rw [List.idxOf_append_of_notMem hdl, Nat.add_lt_add_iff_left,
        ← pair_sublist_iff_idxOf hg (by simp [hx, hi]) (by simp [hd, hj]),
        ← pair_sublist_iff_idxOf h hx hd]
      refine ⟨fun hs => hs.trans List.filter_sublist, fun hs => ?_⟩
      simpa [hi, hj] using hs.filter fun k => (arrayIndex? k).isNone

/-- Writing new keys does not change what is visited before what. -/
theorem visitedBefore_append {ks ks' : List String} {x d : String} (hx : x ∈ ks) :
    VisitedBefore (ks ++ ks') x d ↔ VisitedBefore ks x d := by
  unfold VisitedBefore
  split
  all_goals try rfl
  rw [List.idxOf_append_of_mem hx]
  by_cases hd : d ∈ ks
  · rw [List.idxOf_append_of_mem hd]
  · have hlt := List.idxOf_lt_length_of_mem hx
    rw [List.idxOf_append_of_notMem hd, List.idxOf_eq_length hd]
    exact iff_of_true (by omega) hlt

/-! ## All values -/

section Values

variable {β : Type*}

/-- Each value changed in its place. -/
def mapValues (f : String → α → β) (o : JsObject α) : JsObject β where
  entries := o.entries.map fun e => (e.1, f e.1 e.2)
  nodup := by
    rw [List.map_map]
    exact o.nodup

theorem get?_mapValues (f : String → α → β) (o : JsObject α) (k : String) :
    (o.mapValues f).get? k = (o.get? k).map (f k) := by
  simp only [mapValues, get?, List.find?_map, Option.map_map]
  have hfind : (fun e : String × α => decide (e.1 = k)) =
      (fun e : String × β => decide (e.1 = k)) ∘ fun e => (e.1, f e.1 e.2) := rfl
  rcases h : o.entries.find? fun e => decide (e.1 = k) with _ | e
  · rw [← hfind, h]
    rfl
  · have hk : e.1 = k := by simpa using List.find?_some h
    rw [← hfind, h, ← hk]
    rfl

/-- Each value of `p` written into `o`, by what `o` has in its place. -/
def mergeWith (f : Option α → β → α) (o : JsObject α) (p : JsObject β) : JsObject α :=
  p.ownKeys.foldl (fun o k =>
    match p.get? k with
    | some v => o.set k (f (o.get? k) v)
    | none => o) o

theorem get?_mergeWith (f : Option α → β → α) (o : JsObject α) (p : JsObject β) (k : String) :
    (o.mergeWith f p).get? k =
      match p.get? k with
      | some v => some (f (o.get? k) v)
      | none => o.get? k := by
  have hfold : ∀ (ks : List String) (o : JsObject α), ks.Nodup →
      (ks.foldl (fun o k =>
        match p.get? k with
        | some v => o.set k (f (o.get? k) v)
        | none => o) o).get? k =
        if k ∈ ks then
          match p.get? k with
          | some v => some (f (o.get? k) v)
          | none => o.get? k
        else o.get? k := by
    intro ks
    induction ks with
    | nil => exact fun _ _ => rfl
    | cons k' ks ih =>
      intro o hnd
      obtain ⟨hnot, hnd⟩ := List.nodup_cons.1 hnd
      rw [List.foldl_cons, ih _ hnd]
      rcases eq_or_ne k k' with rfl | hk
      · rw [if_neg hnot, if_pos List.mem_cons_self]
        rcases p.get? k with _ | v
        · rfl
        · exact get?_set_self _ _ _
      · have hother : (match p.get? k' with
            | some v => o.set k' (f (o.get? k') v)
            | none => o).get? k = o.get? k := by
          rcases p.get? k' with _ | v
          · rfl
          · exact (get?_set o k' k _).trans (if_neg hk)
        simp only [hother, List.mem_cons, hk, false_or]
  rw [mergeWith, hfold _ _ (nodup_ownKeys p)]
  split_ifs with hk
  · rfl
  · rw [get?_eq_none_iff.2 (mt mem_ownKeys.2 hk)]

end Values

/-! ## Updates that can fail -/

section Updates

variable {f : String → Option α → Option (Option α)}

/-- Write what `f` makes of the value of a key, if it makes one. -/
def updateAt (f : String → Option α → Option (Option α)) (o : JsObject α) (k : String) :
    Option (JsObject α) :=
  (f k (o.get? k)).map fun
    | some v => o.set k v
    | none => o

theorem updateAt_isSome (o : JsObject α) (k : String) :
    (o.updateAt f k).isSome = (f k (o.get? k)).isSome :=
  Option.isSome_map

theorem get?_updateAt {o o' : JsObject α} {k : String} (h : o.updateAt f k = some o')
    (k' : String) : o'.get? k' =
      if k' = k then (f k (o.get? k)).join.or (o.get? k) else o.get? k' := by
  obtain ⟨v, hv, rfl⟩ := Option.map_eq_some_iff.1 h
  rcases v with _ | v
  · split_ifs with hk
    · simp [hv, hk]
    · rfl
  · simp [hv, get?_set]

/-- Updates of different keys do not meet. -/
theorem foldlM_updateAt {ks : List String} (hnd : ks.Nodup) (o : JsObject α) :
    ((ks.foldlM (updateAt f) o).isSome ↔ ∀ k ∈ ks, (f k (o.get? k)).isSome) ∧
      ∀ o', ks.foldlM (updateAt f) o = some o' → ∀ k, o'.get? k =
        if k ∈ ks then (f k (o.get? k)).join.or (o.get? k) else o.get? k := by
  induction ks generalizing o with
  | nil =>
    refine ⟨by simp, fun o' h k => ?_⟩
    obtain rfl := Option.some.inj h
    simp
  | cons k₀ ks ih =>
    obtain ⟨hnot, hnd⟩ := List.nodup_cons.1 hnd
    rw [List.foldlM_cons]
    rcases hstep : o.updateAt f k₀ with _ | o₁
    · have hnone : f k₀ (o.get? k₀) = none := Option.map_eq_none_iff.1 hstep
      refine ⟨by simp [hnone], fun o' h => ?_⟩
      simp at h
    · have hsome : (f k₀ (o.get? k₀)).isSome := by
        rw [← updateAt_isSome, hstep]
        rfl
      have hother : ∀ k ∈ ks, o₁.get? k = o.get? k := by
        intro k hk
        have hne : k ≠ k₀ := fun h => hnot (h ▸ hk)
        rw [get?_updateAt hstep, if_neg hne]
      obtain ⟨hiff, hget⟩ := ih hnd o₁
      have hrest : (∀ k ∈ ks, (f k (o₁.get? k)).isSome) ↔ ∀ k ∈ ks, (f k (o.get? k)).isSome := by
        refine forall_congr' fun k => imp_congr_right fun hk => ?_
        rw [hother k hk]
      refine ⟨?_, fun o' h k => ?_⟩
      · rw [List.forall_mem_cons, ← hrest, ← hiff]
        simp [hsome]
      · rw [hget o' h k, get?_updateAt hstep]
        rcases eq_or_ne k k₀ with rfl | hne
        · simp [hnot]
        · simp [hne]

/-- A loop that turns `o[k]` into `g k (o[k])` for different keys does so for each of them. -/
theorem get?_foldl {step : JsObject α → String → JsObject α} {g : String → Option α → Option α}
    (hstep : ∀ o k k', (step o k).get? k' = if k' = k then g k (o.get? k) else o.get? k')
    {ks : List String} (hnd : ks.Nodup) (o : JsObject α) (k : String) :
    (ks.foldl step o).get? k = if k ∈ ks then g k (o.get? k) else o.get? k := by
  induction ks generalizing o with
  | nil => simp
  | cons k₀ ks ih =>
    obtain ⟨hnot, hnd⟩ := List.nodup_cons.1 hnd
    rw [List.foldl_cons, ih hnd, hstep]
    rcases eq_or_ne k k₀ with rfl | hne
    · simp [hnot]
    · simp [hne]

/-- A loop that writes some of the keys, all of them new, writes them in its order. -/
theorem keys_foldl {step : JsObject α → String → JsObject α} {p : String → Bool}
    (hstep : ∀ o k, k ∉ o.keys → (step o k).keys = if p k then o.keys ++ [k] else o.keys)
    {ks : List String} (hnd : ks.Nodup) {o : JsObject α} (hnew : ∀ k ∈ ks, k ∉ o.keys) :
    (ks.foldl step o).keys = o.keys ++ ks.filter p := by
  induction ks generalizing o with
  | nil => simp
  | cons k₀ ks ih =>
    obtain ⟨hnot, hnd⟩ := List.nodup_cons.1 hnd
    have hkeys := hstep o k₀ (hnew k₀ List.mem_cons_self)
    rw [List.foldl_cons, ih hnd, hkeys]
    · by_cases hp : p k₀ <;> simp [hp]
    · intro k hk
      have hk' := hnew k (List.mem_cons_of_mem _ hk)
      have hne : k ≠ k₀ := fun h => hnot (h ▸ hk)
      rw [hkeys]
      split_ifs <;> simp [hk', hne]

end Updates

end JsObject

end Lib
