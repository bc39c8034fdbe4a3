import Mathlib.Data.Option.Basic

/-!
# Partial maps over one another

`overlay op f g` is the partial map `g` over `f` : where both have a value, `op` puts the value of
`g` over that of `f`. Maps of maps are overlaid level by level, and what an overlay does at one
level (`IsOverlay`) holds one level up (`IsOverlay.overlay`) : it is associative, what is put
twice is put once (`IsOverlay.absorb`), and what agrees can be put in either order.
-/

namespace Lib

variable {κ β : Type*}

/-- `g` over `f`. -/
def overlay (op : β → β → β) (f g : κ → Option β) : κ → Option β := fun k => (f k).merge op (g k)

/-- The values that both maps have are related. -/
def Compatible (r : β → β → Prop) (f g : κ → Option β) : Prop :=
  ∀ k a b, f k = some a → g k = some b → r a b

/-- `op a b` is `b` over `a`, and `r` says when the order does not matter. -/
structure IsOverlay (op : β → β → β) (r : β → β → Prop) : Prop where
  assoc : ∀ a b c, op (op a b) c = op a (op b c)
  idem : ∀ a, op a a = a
  comm : ∀ a b, r a b → op a b = op b a

/-- What was laid over once changes nothing the second time. -/
theorem IsOverlay.absorb {op : β → β → β} {r : β → β → Prop} (h : IsOverlay op r) (a b : β) :
    op (op a b) b = op a b := by
  rw [h.assoc, h.idem]

/-- The lowest level : the second value replaces the first. -/
theorem isOverlay_second : IsOverlay (fun _ b : β => b) Eq where
  assoc _ _ _ := rfl
  idem _ := rfl
  comm _ _ h := h.symm

theorem IsOverlay.overlay {op : β → β → β} {r : β → β → Prop} (h : IsOverlay op r) :
    IsOverlay (overlay (κ := κ) op) (Compatible r) where
  assoc f g g' := by
    funext k
    simp only [Lib.overlay]
    cases f k <;> cases g k <;> cases g' k <;> simp [h.assoc]
  idem f := by
    funext k
    simp only [Lib.overlay]
    cases f k <;> simp [h.idem]
  comm f g hfg := by
    funext k
    simp only [Lib.overlay]
    rcases hf : f k with _ | a <;> rcases hg : g k with _ | b
    · rfl
    · rfl
    · rfl
    · rw [Option.merge_some_some, Option.merge_some_some, h.comm a b (hfg k a b hf hg)]

end Lib
