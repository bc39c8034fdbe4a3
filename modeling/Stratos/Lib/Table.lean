import Mathlib.Data.List.Perm.Basic
import Mathlib.Data.List.Count

/-!
# Tables

A table is a list of rows whose order has no meaning. A query without an order returns the
rows that match in some order (`RowOrder`), of which a reader of one row takes the first
(`RowOrder.first`); an update rewrites the rows that match (`updateRows`).

`RowOrder.exists_first` and `RowOrder.first_mem` say what a reader of one row can get.
`updateRows_perm` says that an update of the one row that matches changes that row and no
other, and `of_updateRows_perm` that only such an update does so, when the rows it writes
can be told from those that were there.
-/

namespace Lib

variable {α : Type}

/-! ## Queries -/

/-- The order in which a database returns the rows of a result. -/
structure RowOrder (α : Type) where
  scan : List α → List α
  perm : ∀ rows, (scan rows).Perm rows

namespace RowOrder

/-- The rows as they are stored. -/
def stored : RowOrder α := ⟨id, List.Perm.refl⟩

/-- The first of the rows that match. -/
def first (o : RowOrder α) (p : α → Bool) (rows : List α) : Option α :=
  (o.scan (rows.filter p)).head?

variable {o : RowOrder α} {p : α → Bool} {rows : List α} {r : α}

/-- The first row is one of the rows. -/
theorem first_mem (h : o.first p rows = some r) : r ∈ rows ∧ p r :=
  List.mem_filter.1 ((o.perm _).mem_iff.1 (List.mem_of_mem_head? h))

/-- A query that some row matches has a first row. -/
theorem exists_first (h : ∃ r ∈ rows, p r) : ∃ r, o.first p rows = some r := by
  obtain ⟨r, hr, hp⟩ := h
  have hmem : r ∈ o.scan (rows.filter p) := (o.perm _).mem_iff.2 (List.mem_filter.2 ⟨hr, hp⟩)
  exact ⟨_, List.head?_eq_some_head (List.ne_nil_of_mem hmem)⟩

end RowOrder

/-! ## Updates -/

/-- The rows with `f` applied to those that match. -/
def updateRows (p : α → Bool) (f : α → α) (rows : List α) : List α :=
  rows.map fun r => if p r then f r else r

variable {p q : α → Bool} {f : α → α} {rows : List α} {r : α}

theorem mem_updateRows : r ∈ updateRows p f rows ↔ ∃ r' ∈ rows, (if p r' then f r' else r') = r :=
  List.mem_map

theorem updateRows_of_countP_eq_zero (h : rows.countP p = 0) : updateRows p f rows = rows :=
  (List.map_congr_left fun r hr => if_neg (List.countP_eq_zero.1 h r hr)).trans (List.map_id rows)

theorem countP_updateRows (hf : ∀ r, q (f r) = q r) :
    (updateRows p f rows).countP q = rows.countP q := by
  unfold updateRows
  rw [List.countP_map]
  refine List.countP_congr fun r _ => ?_
  by_cases hp : p r <;> simp [hp, hf]

/-- An update of rows that `q` leaves out, before and after, is not seen by `q`. -/
theorem filter_updateRows (hp : ∀ r, p r → q r = false ∧ q (f r) = false) :
    (updateRows p f rows).filter q = rows.filter q := by
  induction rows with
  | nil => rfl
  | cons r rows ih =>
    change List.filter q ((if p r then f r else r) :: updateRows p f rows) = _
    by_cases hr : p r
    · rw [if_pos hr, List.filter_cons_of_neg (by simp [(hp r hr).2]),
        List.filter_cons_of_neg (by simp [(hp r hr).1]), ih]
    · rw [if_neg hr, List.filter_cons, List.filter_cons, ih]

/-- A list with one element that matches. -/
theorem exists_split_of_countP_eq_one (h : rows.countP p = 1) :
    ∃ l₁ x l₂, rows = l₁ ++ x :: l₂ ∧ p x ∧ l₁.countP p = 0 ∧ l₂.countP p = 0 := by
  obtain ⟨x, hx, hp⟩ := List.countP_pos_iff.1 (by omega : 0 < rows.countP p)
  obtain ⟨l₁, l₂, rfl⟩ := List.append_of_mem hx
  have hsum : l₁.countP p + (l₂.countP p + 1) = 1 := by
    simpa [List.countP_append, List.countP_cons, hp] using h
  exact ⟨l₁, x, l₂, rfl, hp, by omega, by omega⟩

theorem updateRows_split {l₁ l₂ : List α} {x : α} (hp : p x) (h₁ : l₁.countP p = 0)
    (h₂ : l₂.countP p = 0) : updateRows p f (l₁ ++ x :: l₂) = l₁ ++ f x :: l₂ := by
  have e₁ : updateRows p f l₁ = l₁ := updateRows_of_countP_eq_zero h₁
  have e₂ : updateRows p f l₂ = l₂ := updateRows_of_countP_eq_zero h₂
  unfold updateRows at *
  rw [List.map_append, List.map_cons, e₁, e₂, if_pos hp]

variable [DecidableEq α]

/-- An update of the one row that matches changes that row and no other. -/
theorem updateRows_perm (h : rows.countP p = 1) (hr : r ∈ rows) (hp : p r) :
    (updateRows p f rows).Perm (f r :: rows.erase r) := by
  obtain ⟨l₁, x, l₂, rfl, hx, h₁, h₂⟩ := exists_split_of_countP_eq_one h
  have hrx : r = x := by
    rcases List.mem_append.1 hr with hm | hm
    · exact absurd hp (List.countP_eq_zero.1 h₁ r hm)
    · rcases List.mem_cons.1 hm with rfl | hm
      · rfl
      · exact absurd hp (List.countP_eq_zero.1 h₂ r hm)
  subst hrx
  have hnot : r ∉ l₁ := fun hm => List.countP_eq_zero.1 h₁ r hm hx
  rw [updateRows_split hx h₁ h₂, List.erase_append_right _ hnot, List.erase_cons_head]
  exact List.perm_middle

/-- An update that changes one row, and no other, matches that row only, when the rows that
are written satisfy `q` and those that were there do not. -/
theorem of_updateRows_perm (q : α → Bool) {r' : α}
    (hperm : (updateRows p f rows).Perm (r' :: rows.erase r)) (hr : r ∈ rows)
    (hold : ∀ x ∈ rows, ¬q x) (hnew : ∀ x, q (f x)) (hr' : q r') :
    rows.countP p = 1 ∧ p r ∧ f r = r' := by
  have hcount : (updateRows p f rows).countP q = rows.countP p := by
    unfold updateRows
    rw [List.countP_map]
    refine List.countP_congr fun x hx => ?_
    by_cases hp : p x <;> simp [hp, hnew, hold x hx]
  have hrest : ∀ x ∈ rows.erase r, ¬q x := fun x hx => hold x (List.mem_of_mem_erase hx)
  have hone : rows.countP p = 1 := by
    rw [← hcount, hperm.countP_eq, List.countP_cons, if_pos hr', List.countP_eq_zero.2 hrest]
  obtain ⟨l₁, x, l₂, hrows, hx, h₁, h₂⟩ := exists_split_of_countP_eq_one hone
  have hperm' : (f x :: (l₁ ++ l₂)).Perm (r' :: rows.erase r) := by
    rw [hrows, updateRows_split hx h₁ h₂, ← hrows] at hperm
    exact List.perm_middle.symm.trans hperm
  have hfx : f x = r' := by
    rcases List.mem_cons.1 (hperm'.mem_iff.1 List.mem_cons_self) with h | h
    · exact h
    · exact absurd (hnew x) (hrest _ h)
  rw [hfx] at hperm'
  have hxr : (x :: rows.erase r).Perm (r :: rows.erase r) := by
    refine List.Perm.trans ?_ (List.perm_cons_erase hr)
    rw [hrows]
    exact (List.Perm.cons x (hrows ▸ hperm'.cons_inv.symm)).trans List.perm_middle.symm
  have hxr' : x = r := by
    have hc := hxr.count_eq r
    by_contra hne
    simp [hne] at hc
  exact ⟨hone, hxr' ▸ hx, hxr' ▸ hfx⟩

end Lib
