import Mathlib.Tactic.Common

/-!
# Chains of a deterministic step

A step `next : σ → Option σ` leads from a state to at most one other. `Leads next n a b` says that
`n` steps lead from `a` to `b`, and `EndsIn next n a b` that no step leads on from there. A chain
ends once, after one number of steps (`EndsIn.unique`), and it never ends from a state that comes
back to itself (`Leads.endless`).
-/

namespace Lib

variable {σ : Type*}

/-- `n` steps lead from the first state to the second. -/
inductive Leads (next : σ → Option σ) : ℕ → σ → σ → Prop
  | refl (a : σ) : Leads next 0 a a
  | step {a b c : σ} {n : ℕ} (hab : next a = some b) (hbc : Leads next n b c) :
    Leads next (n + 1) a c

/-- `n` steps lead from the first state to the second, and none leads on. -/
def EndsIn (next : σ → Option σ) (n : ℕ) (a b : σ) : Prop := Leads next n a b ∧ next b = none

variable {next : σ → Option σ} {a b c : σ} {m n : ℕ}

theorem EndsIn.refl (h : next a = none) : EndsIn next 0 a a := ⟨.refl a, h⟩

theorem EndsIn.step (hab : next a = some b) (hbc : EndsIn next n b c) :
    EndsIn next (n + 1) a c :=
  ⟨.step hab hbc.1, hbc.2⟩

/-- A state that a step leads on from ends where the next one does. -/
theorem endsIn_iff_of_next (hab : next a = some b) :
    EndsIn next n a c ↔ ∃ m, n = m + 1 ∧ EndsIn next m b c := by
  constructor
  · rintro ⟨h, hend⟩
    cases h with
    | refl => rw [hab] at hend; cases hend
    | step hab' hbc =>
      obtain rfl := Option.some.inj (hab'.symm.trans hab)
      exact ⟨_, rfl, hbc, hend⟩
  · rintro ⟨m, rfl, h⟩
    exact h.step hab

theorem endsIn_iff_of_end (h : next a = none) : EndsIn next n a b ↔ n = 0 ∧ b = a := by
  constructor
  · rintro ⟨hab, -⟩
    cases hab with
    | refl => exact ⟨rfl, rfl⟩
    | step h' _ => rw [h] at h'; cases h'
  · rintro ⟨rfl, rfl⟩
    exact .refl h

/-- A chain ends in one state, after one number of steps. -/
theorem EndsIn.unique (hb : EndsIn next n a b) (hc : EndsIn next m a c) : n = m ∧ b = c := by
  obtain ⟨hab, hend⟩ := hb
  induction hab generalizing m with
  | refl =>
    obtain ⟨rfl, rfl⟩ := (endsIn_iff_of_end hend).1 hc
    exact ⟨rfl, rfl⟩
  | step h _ ih =>
    obtain ⟨k, rfl, hk⟩ := (endsIn_iff_of_next h).1 hc
    obtain ⟨rfl, rfl⟩ := ih hk hend
    exact ⟨rfl, rfl⟩

/-- What a state leads to ends where the state does, in the steps that are left. -/
theorem Leads.endsIn (hab : Leads next m a b) (hac : EndsIn next n a c) :
    ∃ k, n = k + m ∧ EndsIn next k b c := by
  induction hab generalizing n with
  | refl => exact ⟨n, rfl, hac⟩
  | step h _ ih =>
    obtain ⟨i, rfl, hi⟩ := (endsIn_iff_of_next h).1 hac
    obtain ⟨k, rfl, hk⟩ := ih hi
    exact ⟨k, rfl, hk⟩

/-- A chain that comes back to its first state never ends. -/
theorem Leads.endless (haa : Leads next (m + 1) a a) : ¬EndsIn next n a b := fun h => by
  obtain ⟨k, rfl, hk⟩ := haa.endsIn h
  have hkm := (h.unique hk).1
  omega

end Lib
