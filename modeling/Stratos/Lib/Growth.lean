import Mathlib.Data.List.Induction

/-!
# Lists that grow by allowed steps

`Grows ok l` says that every element of `l` is allowed by those before it, as in a history each
of whose entries depends on what was done before. An appended list goes on from the first
(`grows_append_iff`).
-/

namespace Lib

variable {α β : Type*}

/-- Every element is allowed after those before it. -/
def Grows (ok : List α → α → Prop) (l : List α) : Prop :=
  ∀ before x after, l = before ++ x :: after → ok before x

theorem grows_nil (ok : List α → α → Prop) : Grows ok [] := by
  intro before x after h
  simp at h

theorem grows_append_iff {ok : List α → α → Prop} {l l' : List α} :
    Grows ok (l ++ l') ↔ Grows ok l ∧ Grows (fun before x => ok (l ++ before) x) l' := by
  constructor
  · intro h
    refine ⟨fun before x after hl => ?_, fun before x after hl => ?_⟩
    · exact h before x (after ++ l') (by rw [hl, List.append_assoc, List.cons_append])
    · exact h (l ++ before) x after (by rw [hl, List.append_assoc])
  · rintro ⟨hl, hl'⟩ before x after h
    rcases List.append_eq_append_iff.1 h with ⟨mid, rfl, hmid⟩ | ⟨mid, rfl, hmid⟩
    · exact hl' mid x after hmid
    · rcases mid with _ | ⟨y, mid⟩
      · have hstart := hl' [] x after hmid.symm
        rwa [List.append_nil, List.append_nil] at hstart
      · obtain ⟨rfl, -⟩ := List.cons.inj hmid
        exact hl before x mid rfl

theorem grows_singleton_iff {ok : List α → α → Prop} {x : α} : Grows ok [x] ↔ ok [] x := by
  constructor
  · intro h
    exact h [] x [] rfl
  · intro h before y after heq
    rcases before with _ | ⟨z, before⟩
    · obtain ⟨rfl, -⟩ := List.cons.inj heq
      exact h
    · simp at heq

theorem Grows.mono {ok ok' : List α → α → Prop} {l : List α} (h : Grows ok l)
    (himp : ∀ before, ∀ x ∈ l, ok before x → ok' before x) : Grows ok' l :=
  fun before x after hl => himp before x (by rw [hl]; simp) (h before x after hl)

theorem Grows.of_append {ok : List α → α → Prop} {l l' : List α} (h : Grows ok (l ++ l')) :
    Grows ok l :=
  (grows_append_iff.1 h).1

theorem grows_map_iff {ok : List β → β → Prop} {f : α → β} {l : List α} :
    Grows ok (l.map f) ↔ Grows (fun before x => ok (before.map f) (f x)) l := by
  constructor
  · intro h before x after hl
    exact h (before.map f) (f x) (after.map f) (by rw [hl, List.map_append, List.map_cons])
  · intro h before y after hl
    obtain ⟨before', rest, rfl, rfl, hrest⟩ := List.map_eq_append_iff.1 hl
    obtain ⟨x, after', rfl, rfl, -⟩ := List.map_eq_cons_iff.1 hrest
    exact h before' x after' rfl

end Lib
