import Mathlib.Data.List.Infix

/-!
# Searching in joined words

A list of words joined with a separator of at most one letter. A search in the joined text
finds a word that is part of one of the words, or that is spelled across a separator
(`SpelledAcross`), and nothing else (`infix_intercalate_iff`).
-/

namespace Lib

variable {α : Type}

/-- `a` is spelled across a separator of the joined words : the end of the text before it,
the separator itself, and the beginning of the text after it. When the separator is empty,
both parts are not. -/
def SpelledAcross (sep : List α) (words : List (List α)) (a : List α) : Prop :=
  ∃ pre post, words = pre ++ post ∧ pre ≠ [] ∧ post ≠ [] ∧
    ∃ x y, a = x ++ sep ++ y ∧ x <:+ sep.intercalate pre ∧ y <+: sep.intercalate post ∧
      (sep = [] → x ≠ [] ∧ y ≠ [])

variable {sep a w : List α} {words : List (List α)}

theorem intercalate_append {pre post : List (List α)} (hpre : pre ≠ []) (hpost : post ≠ []) :
    sep.intercalate (pre ++ post) = sep.intercalate pre ++ sep ++ sep.intercalate post := by
  induction pre with
  | nil => exact absurd rfl hpre
  | cons w pre ih =>
    rcases eq_or_ne pre [] with rfl | hne
    · rw [List.singleton_append, List.intercalate_cons_of_ne_nil hpost, List.intercalate_singleton]
    · rw [List.cons_append, List.intercalate_cons_of_ne_nil (by simp [hne]),
        List.intercalate_cons_of_ne_nil hne, ih hne]
      simp

theorem infix_intercalate_of_mem (h : w ∈ words) : w <:+: sep.intercalate words := by
  induction words with
  | nil => simp at h
  | cons v words ih =>
    rcases eq_or_ne words [] with rfl | hne
    · simp at h
      simp [h]
    · rw [List.intercalate_cons_of_ne_nil hne, List.append_assoc]
      rcases List.mem_cons.1 h with rfl | h
      · exact List.infix_append_left
      · exact (ih h).trans (by rw [← List.append_assoc]; exact List.infix_append_right)

theorem SpelledAcross.isInfix (h : SpelledAcross sep words a) : a <:+: sep.intercalate words := by
  obtain ⟨pre, post, rfl, hpre, hpost, x, y, rfl, ⟨s, hs⟩, ⟨t, ht⟩, -⟩ := h
  rw [intercalate_append hpre hpost, ← hs, ← ht]
  exact ⟨s, t, by simp⟩

/-- What is spelled across a separator still is with one more word in front. -/
theorem SpelledAcross.cons (h : SpelledAcross sep words a) : SpelledAcross sep (w :: words) a := by
  obtain ⟨pre, post, rfl, hpre, hpost, x, y, rfl, hx, hy, hsep⟩ := h
  refine ⟨w :: pre, post, rfl, by simp, hpost, x, y, rfl, ?_, hy, hsep⟩
  rw [List.intercalate_cons_of_ne_nil hpre]
  exact hx.trans (List.suffix_append _ _)

/-- An occurrence that begins in the first word, or right after it. -/
theorem infix_cons_intercalate (hsep : sep.length ≤ 1) (hne : words ≠ [])
    (h : a <:+: sep.intercalate (w :: words)) :
    a <:+: w ∨ SpelledAcross sep (w :: words) a ∨ a <:+: sep.intercalate words := by
  have hfirst : ∀ x y, a = x ++ sep ++ y → x <:+ w → y <+: sep.intercalate words →
      (sep = [] → x ≠ [] ∧ y ≠ []) → SpelledAcross sep (w :: words) a :=
    fun x y ha hx hy hxy => ⟨[w], words, rfl, by simp, hne, x, y, ha, by simpa using hx, hy, hxy⟩
  rw [List.intercalate_cons_of_ne_nil hne, List.append_assoc] at h
  match sep, hsep with
  | [], _ =>
    rcases List.infix_append_iff_ne_nil.1 h with h | h | ⟨x, y, hx, hy, ha, hxw, hyw⟩
    · exact Or.inl h
    · exact Or.inr (Or.inr h)
    · exact Or.inr (Or.inl (hfirst x y (by simpa using ha) hxw hyw fun _ => ⟨hx, hy⟩))
  | [c], _ =>
    rcases List.infix_append_iff.1 h with h | h | ⟨x, z, ha, hxw, hz⟩
    · exact Or.inl h
    · rcases List.infix_cons_iff.1 h with h | h
      · rcases List.prefix_cons_iff.1 h with rfl | ⟨y, rfl, hy⟩
        · exact Or.inl (List.nil_infix)
        · exact Or.inr (Or.inl (hfirst [] y rfl (List.nil_suffix) hy (by simp)))
      · exact Or.inr (Or.inr h)
    · rcases List.prefix_cons_iff.1 hz with rfl | ⟨y, rfl, hy⟩
      · exact Or.inl (by simpa [ha] using hxw.isInfix)
      · exact Or.inr (Or.inl (hfirst x y (by simpa using ha) hxw hy (by simp)))

/-- A search in joined words finds what is part of a word or spelled across a separator. -/
theorem infix_intercalate_iff (hsep : sep.length ≤ 1) (hne : words ≠ []) :
    a <:+: sep.intercalate words ↔ (∃ w ∈ words, a <:+: w) ∨ SpelledAcross sep words a := by
  constructor
  · intro h
    induction words with
    | nil => exact absurd rfl hne
    | cons w words ih =>
      rcases eq_or_ne words [] with rfl | hne'
      · exact Or.inl ⟨w, by simp, by simpa using h⟩
      · rcases infix_cons_intercalate hsep hne' h with h | h | h
        · exact Or.inl ⟨w, by simp, h⟩
        · exact Or.inr h
        · rcases ih hne' h with ⟨v, hv, hav⟩ | hacross
          · exact Or.inl ⟨v, List.mem_cons_of_mem _ hv, hav⟩
          · exact Or.inr hacross.cons
  · rintro (⟨w, hw, ha⟩ | h)
    · exact ha.trans (infix_intercalate_of_mem hw)
    · exact h.isInfix

end Lib
