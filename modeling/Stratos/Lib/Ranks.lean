import Mathlib.Data.List.Range

/-!
# Ranks in a filtered range

The numbers below `n` with a property, in their order. The place of a number among them is the
number of those before it (`getElem?_filter_range`), so it changes when a smaller number gets or
loses the property (`rank_ne`), and not when a larger one does (`rank_congr`).
-/

namespace Lib

/-- How many numbers below `n` have the property. -/
def rank (p : ℕ → Bool) (n : ℕ) : ℕ := (List.range n).countP p

variable {p q : ℕ → Bool} {i j n : ℕ}

theorem rank_succ (p : ℕ → Bool) (n : ℕ) : rank p (n + 1) = rank p n + if p n then 1 else 0 := by
  rw [rank, List.range_succ, List.countP_append, List.countP_singleton]
  rfl

theorem rank_mono (p : ℕ → Bool) (h : i ≤ j) : rank p i ≤ rank p j := by
  induction h with
  | refl => exact le_rfl
  | step _ ih => exact ih.trans (rank_succ p _ ▸ Nat.le_add_right _ _)

theorem rank_lt_rank (hp : p i = true) (h : i < j) : rank p i < rank p j := by
  have hsucc : rank p (i + 1) = rank p i + 1 := by
    rw [rank_succ, if_pos hp]
  exact (Nat.lt_of_succ_le hsucc.ge).trans_le (rank_mono p h)

theorem lt_of_rank_lt (h : rank p i < rank p j) : i < j :=
  Nat.lt_of_not_le fun hle => absurd (rank_mono p hle) (Nat.not_le.2 h)

theorem eq_of_rank_eq (hi : p i = true) (hj : p j = true) (h : rank p i = rank p j) : i = j := by
  rcases Nat.lt_trichotomy i j with hlt | heq | hlt
  · exact absurd h (rank_lt_rank hi hlt).ne
  · exact heq
  · exact absurd h.symm (rank_lt_rank hj hlt).ne

/-- The element at a rank is the one of that rank. -/
theorem getElem?_filter_range {k : ℕ} :
    ((List.range n).filter p)[k]? = some i ↔ i < n ∧ p i = true ∧ rank p i = k := by
  induction n with
  | zero => simp
  | succ n ih =>
    have hlength : ((List.range n).filter p).length = rank p n := List.countP_eq_length_filter.symm
    rw [List.range_succ, List.filter_append, List.getElem?_append]
    split_ifs with hk
    · rw [ih]
      refine ⟨fun h => ⟨h.1.trans (Nat.lt_succ_self n), h.2⟩, fun h => ⟨?_, h.2⟩⟩
      rw [hlength] at hk
      exact lt_of_rank_lt (h.2.2 ▸ hk)
    · rw [hlength] at hk ⊢
      cases hp : p n with
      | false =>
        rw [List.filter_singleton, hp]
        refine iff_of_false (fun h => by simp at h) fun h => ?_
        rcases Nat.lt_succ_iff_lt_or_eq.1 h.1 with hlt | rfl
        · exact hk (h.2.2 ▸ rank_lt_rank h.2.1 hlt)
        · rw [hp] at h
          exact nomatch h.2.1
      | true =>
        rw [List.filter_singleton, hp]
        constructor
        · intro h
          obtain ⟨hzero, rfl⟩ : k - rank p n = 0 ∧ n = i := by
            simpa [List.getElem?_singleton] using h
          exact ⟨Nat.lt_succ_self n, hp, by omega⟩
        · rintro ⟨hlt, hi, rfl⟩
          rcases Nat.lt_succ_iff_lt_or_eq.1 hlt with hlt | rfl
          · exact absurd (rank_lt_rank hi hlt) hk
          · simp

/-- The rank depends on what is before. -/
theorem rank_congr (h : ∀ j, j < i → p j = q j) : rank p i = rank q i := by
  induction i with
  | zero => rfl
  | succ i ih =>
    rw [rank_succ, rank_succ, ih fun j hj => h j (hj.trans (Nat.lt_succ_self i)),
      h i (Nat.lt_succ_self i)]

/-- One more number before. -/
theorem rank_eq_add_one (h : ∀ k, k ≠ j → p k = q k) (hp : p j = true) (hq : q j = false)
    (hj : j < i) : rank p i = rank q i + 1 := by
  induction i with
  | zero => exact absurd hj (Nat.not_lt_zero j)
  | succ i ih =>
    rw [rank_succ, rank_succ]
    rcases Nat.lt_succ_iff_lt_or_eq.1 hj with hlt | rfl
    · rw [ih hlt, h i hlt.ne', Nat.add_right_comm]
    · rw [rank_congr fun k hk => h k hk.ne, hp, hq]
      rfl

/-- One difference before makes the ranks differ. -/
theorem rank_ne (h : ∀ k, k ≠ j → p k = q k) (hne : p j ≠ q j) (hj : j < i) :
    rank p i ≠ rank q i := by
  cases hp : p j with
  | true =>
    have hq : q j = false := by
      rw [hp] at hne
      exact Bool.eq_false_iff.2 hne.symm
    rw [rank_eq_add_one h hp hq hj]
    exact Nat.succ_ne_self _
  | false =>
    have hq : q j = true := by
      rw [hp] at hne
      simpa using hne.symm
    rw [rank_eq_add_one (fun k hk => (h k hk).symm) hq hp hj]
    exact (Nat.succ_ne_self _).symm

end Lib
