import Mathlib.Data.List.Nodup

/-!
# Lists of entries with a key

The first entry of a key counts (`lookup`). An entry replaces the first one of its key or is
appended (`upsert`), so that after several of them the last of a key counts
(`lookup_foldl_upsert`) and no key is there twice (`nodup_foldl_upsert`).

Entries written over what they made, less the unwanted ones, make the same again
(`filter_foldl_upsert`).
-/

namespace Lib

variable {α κ : Type*} [DecidableEq κ] (key : α → κ)

/-- The first entry of a key. -/
def lookup (l : List α) (k : κ) : Option α := l.find? fun x => key x = k

/-- The last entry of a key. -/
def lookupLast (l : List α) (k : κ) : Option α := lookup key l.reverse k

/-- The entry in place of the first one of its key, or at the end. -/
def upsert (l : List α) (x : α) : List α :=
  match l with
  | [] => [x]
  | y :: l => if key y = key x then x :: l else y :: upsert l x

variable {key}

theorem lookup_cons (x : α) (l : List α) (k : κ) :
    lookup key (x :: l) k = if key x = k then some x else lookup key l k := by
  simp only [lookup, List.find?_cons]
  split_ifs with h <;> simp [h]

theorem key_of_lookup {l : List α} {k : κ} {x : α} (h : lookup key l k = some x) : key x = k := by
  simpa using List.find?_some h

theorem mem_of_lookup {l : List α} {k : κ} {x : α} (h : lookup key l k = some x) : x ∈ l :=
  List.mem_of_find?_eq_some h

theorem lookup_eq_none_iff {l : List α} {k : κ} : lookup key l k = none ↔ k ∉ l.map key := by
  simp [lookup, List.find?_eq_none]

theorem lookup_append (l l' : List α) (k : κ) :
    lookup key (l ++ l') k = (lookup key l k).or (lookup key l' k) :=
  List.find?_append

theorem lookup_of_mem {l : List α} (hnd : (l.map key).Nodup) {x : α} (h : x ∈ l) :
    lookup key l (key x) = some x := by
  induction l with
  | nil => exact absurd h List.not_mem_nil
  | cons y l ih =>
    obtain ⟨hnot, hnd⟩ := List.nodup_cons.1 hnd
    rw [lookup_cons]
    rcases List.mem_cons.1 h with rfl | h
    · exact if_pos rfl
    · have hne : key y ≠ key x := fun heq => hnot (heq ▸ List.mem_map_of_mem h)
      rw [if_neg hne, ih hnd h]

theorem lookup_filter {l : List α} (hnd : (l.map key).Nodup) (p : α → Bool) (k : κ) :
    lookup key (l.filter p) k = (lookup key l k).filter p := by
  induction l with
  | nil => rfl
  | cons x l ih =>
    obtain ⟨hnot, hnd⟩ := List.nodup_cons.1 hnd
    rw [lookup_cons]
    by_cases hk : key x = k
    · subst hk
      have hnone : lookup key (l.filter p) (key x) = none := by
        rw [ih hnd, lookup_eq_none_iff.2 hnot]
        rfl
      by_cases hp : p x = true
      · rw [List.filter_cons_of_pos hp, lookup_cons, if_pos rfl, if_pos rfl, Option.filter_some,
          if_pos hp]
      · rw [List.filter_cons_of_neg hp, hnone, if_pos rfl, Option.filter_some, if_neg hp]
    · by_cases hp : p x = true
      · rw [List.filter_cons_of_pos hp, lookup_cons, if_neg hk, if_neg hk, ih hnd]
      · rw [List.filter_cons_of_neg hp, if_neg hk, ih hnd]

/-- Two lists with the same keys in the same order, none of them twice, and the same entries. -/
theorem eq_of_lookup {l l' : List α} (hkeys : l.map key = l'.map key) (hnd : (l.map key).Nodup)
    (h : ∀ k ∈ l.map key, lookup key l k = lookup key l' k) : l = l' := by
  have hentries : ∀ l : List α, (l.map key).Nodup → l = (l.map key).filterMap (lookup key l) := by
    intro l hnd
    rw [List.filterMap_map, List.filterMap_congr (g := some), List.filterMap_some]
    exact fun x hx => lookup_of_mem hnd hx
  rw [hentries l hnd, hentries l' (hkeys ▸ hnd), ← hkeys]
  exact List.filterMap_congr h

/-! ## Writing entries -/

theorem map_upsert (l : List α) (x : α) : (upsert key l x).map key =
    if key x ∈ l.map key then l.map key else l.map key ++ [key x] := by
  induction l with
  | nil => simp [upsert]
  | cons y l ih =>
    by_cases hy : key y = key x
    · simp [upsert, hy]
    · have hne : ¬key x = key y := fun h => hy h.symm
      simp only [upsert, hy, if_false, List.map_cons, ih, List.mem_cons, hne, false_or]
      split_ifs <;> rfl

theorem lookup_upsert (l : List α) (x : α) (k : κ) :
    lookup key (upsert key l x) k = if k = key x then some x else lookup key l k := by
  induction l with
  | nil =>
    rw [upsert, lookup_cons]
    simp [eq_comm]
  | cons y l ih =>
    by_cases hy : key y = key x
    · rw [upsert, if_pos hy, lookup_cons, lookup_cons, hy]
      by_cases hk : k = key x
      · simp [hk]
      · simp [hk, Ne.symm hk]
    · rw [upsert, if_neg hy, lookup_cons, lookup_cons, ih]
      by_cases hk : key y = k
      · have hne : ¬k = key x := fun h => hy (hk.trans h)
        simp [hk, hne]
      · simp [hk]

theorem nodup_upsert {l : List α} (hnd : (l.map key).Nodup) (x : α) :
    ((upsert key l x).map key).Nodup := by
  rw [map_upsert]
  split_ifs with h
  · exact hnd
  · exact List.Nodup.append hnd (List.nodup_singleton _) (by simpa using h)

variable {l xs : List α}

/-- After some upserts a key has the last value that was written for it. -/
theorem lookup_foldl_upsert (l xs : List α) (k : κ) :
    lookup key (xs.foldl (upsert key) l) k = (lookupLast key xs k).or (lookup key l k) := by
  induction xs generalizing l with
  | nil => rfl
  | cons x xs ih =>
    rw [List.foldl_cons, ih, lookup_upsert, lookupLast, lookupLast, List.reverse_cons,
      lookup_append, Option.or_assoc, lookup_cons]
    by_cases hk : k = key x
    · simp [hk]
    · simp [hk, Ne.symm hk, lookup]

/-- Upserts leave every key once. -/
theorem nodup_foldl_upsert (hnd : (l.map key).Nodup) (xs : List α) :
    ((xs.foldl (upsert key) l).map key).Nodup := by
  induction xs generalizing l with
  | nil => exact hnd
  | cons x xs ih => exact ih (nodup_upsert hnd x)

/-- What is there keeps its place, and its key. -/
theorem exists_foldl_upsert (l xs : List α) : ∃ l₁ l₂, xs.foldl (upsert key) l = l₁ ++ l₂ ∧
    l₁.map key = l.map key := by
  have hkeys : ∃ ks, (xs.foldl (upsert key) l).map key = l.map key ++ ks := by
    induction xs generalizing l with
    | nil => exact ⟨[], (List.append_nil _).symm⟩
    | cons x xs ih =>
      obtain ⟨ks, hks⟩ := ih (upsert key l x)
      rw [List.foldl_cons, hks, map_upsert]
      split_ifs
      · exact ⟨ks, rfl⟩
      · exact ⟨key x :: ks, by simp⟩
  obtain ⟨ks, hks⟩ := hkeys
  obtain ⟨l₁, l₂, hl, h₁, -⟩ := List.map_eq_append_iff.1 hks
  exact ⟨l₁, l₂, hl, h₁⟩

theorem mem_keys_foldl_upsert {k : κ} (h : k ∈ xs.map key) :
    k ∈ (xs.foldl (upsert key) l).map key := by
  by_contra hnot
  rw [← lookup_eq_none_iff, lookup_foldl_upsert, Option.or_eq_none_iff, lookupLast,
    lookup_eq_none_iff] at hnot
  exact hnot.1 (by simpa using h)

/-- The wanted entries, once written, stay what they are when they are written again. -/
theorem filter_foldl_upsert (hnd : (l.map key).Nodup) (p : α → Bool) :
    (xs.foldl (upsert key) ((xs.foldl (upsert key) l).filter p)).filter p =
      (xs.foldl (upsert key) l).filter p := by
  have hnd' := nodup_foldl_upsert hnd xs
  set u := (xs.foldl (upsert key) l).filter p with hu
  have hnu : (u.map key).Nodup := hnd'.sublist (List.filter_sublist.map _)
  have hlast : ∀ k x, lookupLast key xs k = some x → p x = true → lookup key u k = some x := by
    intro k x hx hp
    rw [hu, lookup_filter hnd', lookup_foldl_upsert, hx]
    simp [hp]
  obtain ⟨l₁, l₂, hsplit, hkeys⟩ : ∃ l₁ l₂, xs.foldl (upsert key) u = l₁ ++ l₂ ∧
      l₁.map key = u.map key := exists_foldl_upsert u xs
  have hnl := nodup_foldl_upsert hnu xs
  rw [hsplit, List.map_append] at hnl
  have hwrites : ∀ k, lookup key (xs.foldl (upsert key) u) k =
      (lookupLast key xs k).or (lookup key u k) := lookup_foldl_upsert u xs
  rw [hsplit] at hwrites
  have h₁ : l₁ = u := by
    refine eq_of_lookup hkeys (hnl.sublist (List.sublist_append_left _ _)) fun k hk => ?_
    have hfirst : lookup key (l₁ ++ l₂) k = lookup key l₁ k := by
      rw [lookup_append, Option.or_of_isSome]
      rw [Option.isSome_iff_ne_none]
      exact fun h => lookup_eq_none_iff.1 h hk
    rw [← hfirst, hwrites]
    rw [hkeys] at hk
    rcases hx : lookupLast key xs k with _ | x
    · rfl
    · obtain ⟨y, hy⟩ := Option.ne_none_iff_exists'.1 fun h => lookup_eq_none_iff.1 h hk
      have hyx : (some x).filter p = some y := by
        rw [← hy, hu, lookup_filter hnd', lookup_foldl_upsert, hx]
        rfl
      obtain ⟨hxy, -⟩ := Option.filter_eq_some_iff.1 hyx
      rw [hy, ← hxy]
      rfl
  have h₂ : l₂.filter p = [] := by
    rw [List.filter_eq_nil_iff]
    intro x hx hp
    have hnot : key x ∉ u.map key := fun h =>
      (List.nodup_append.1 hnl).2.2 _ (hkeys ▸ h) _ (List.mem_map_of_mem hx) rfl
    have hget : lookup key (l₁ ++ l₂) (key x) = some x :=
      lookup_of_mem (by rwa [List.map_append]) (List.mem_append_right _ hx)
    rw [hwrites, lookup_eq_none_iff.2 hnot, Option.or_none] at hget
    rw [← lookup_eq_none_iff, hlast _ _ hget hp] at hnot
    simp at hnot
  rw [hsplit, List.filter_append, h₁, h₂, List.append_nil, hu, List.filter_filter]
  simp

end Lib
