import Mathlib.Control.Basic

/-!
# Programs over the statements of a store

A program (`Prog`) sends statements to a store, one at a time, reads a reply to each and
ends with a value or an error. Run alone (`Prog.run`), a handler answers its statements in
order; `Prog.run_bind` and `Prog.run_attempt` compute its result from those of its parts.

`Prog.Keeps` relates the store after a run to the store before it. A relation that is
reflexive and transitive is kept by a sequence whose parts keep it (`Prog.keeps_bind`), and
a program that only reads (`Prog.ReadOnly`) keeps every reflexive one. `Prog.All` speaks of
every statement that a program can send, whatever the replies, and `Prog.Ensures` of what it sends
and gives where the replies are as they should be. No program goes on for ever
(`Prog.wellFounded_rest`).
-/

namespace Lib

/-! ## Results -/

section Results

variable {ε ε' α β : Type}

@[simp] theorem pure_eq_ok (a : α) : (pure a : Except ε α) = .ok a :=
  rfl

@[simp] theorem throw_eq_error (e : ε) : (throw e : Except ε α) = .error e :=
  rfl

@[simp] theorem ok_bind (a : α) (f : α → Except ε β) : (Except.ok a >>= f) = f a :=
  rfl

@[simp] theorem error_bind (e : ε) (f : α → Except ε β) : (Except.error e >>= f) = .error e :=
  rfl

@[simp] theorem mapError_ok (f : ε → ε') (a : α) : (Except.ok a).mapError f = .ok a :=
  rfl

@[simp] theorem mapError_error (f : ε → ε') (e : ε) :
    (Except.error e : Except ε α).mapError f = .error (f e) :=
  rfl

theorem bind_eq_ok {x : Except ε α} {f : α → Except ε β} {b : β} :
    (x >>= f) = .ok b ↔ ∃ a, x = .ok a ∧ f a = .ok b := by
  cases x <;> simp

theorem mapError_eq_ok {f : ε → ε'} {x : Except ε α} {a : α} :
    x.mapError f = .ok a ↔ x = .ok a := by
  cases x <;> simp

end Results

/-! ## Programs -/

/-- A program over the statements `S`, whose replies are in `R`, that ends with an `α` or
an error in `ε`. -/
inductive Prog (S : Type) (R : S → Type) (ε α : Type) : Type
  /-- The program ends. -/
  | ret (r : Except ε α) : Prog S R ε α
  /-- The program sends `s` and goes on with its reply. -/
  | exec (s : S) (k : R s → Prog S R ε α) : Prog S R ε α

namespace Prog

variable {S : Type} {R : S → Type} {ε ε' α β γ σ : Type}

/-! ## Sequencing -/

/-- `p`, then `f` with its value ; an error of `p` ends the whole. -/
def bind : Prog S R ε α → (α → Prog S R ε β) → Prog S R ε β
  | ret (.ok a), f => f a
  | ret (.error e), _ => ret (.error e)
  | exec s k, f => exec s fun r => (k r).bind f

instance : Monad (Prog S R ε) where
  pure a := ret (.ok a)
  bind := bind

/-- End with the error `e`. -/
def fail (e : ε) : Prog S R ε α := ret (.error e)

/-- Send `s` and give its reply. -/
def stmt (s : S) : Prog S R ε (R s) := exec s fun r => ret (.ok r)

/-- `p` with its error as a value. -/
def attempt : Prog S R ε α → Prog S R ε' (Except ε α)
  | ret r => ret (.ok r)
  | exec s k => exec s fun r => (k r).attempt

/-- `p` with its error rewritten. -/
def mapError (f : ε → ε') : Prog S R ε α → Prog S R ε' α
  | ret r => ret (r.mapError f)
  | exec s k => exec s fun r => (k r).mapError f

@[simp] theorem pure_def (a : α) : (pure a : Prog S R ε α) = ret (.ok a) :=
  rfl

@[simp] theorem ret_ok_bind (a : α) (f : α → Prog S R ε β) :
    ((ret (.ok a) : Prog S R ε α) >>= f) = f a :=
  rfl

@[simp] theorem ret_error_bind (e : ε) (f : α → Prog S R ε β) :
    ((ret (.error e) : Prog S R ε α) >>= f) = ret (.error e) :=
  rfl

@[simp] theorem fail_bind (e : ε) (f : α → Prog S R ε β) :
    ((fail e : Prog S R ε α) >>= f) = fail e :=
  rfl

@[simp] theorem exec_bind (s : S) (k : R s → Prog S R ε α) (f : α → Prog S R ε β) :
    (exec s k >>= f) = exec s fun r => k r >>= f :=
  rfl

@[simp] theorem stmt_bind (s : S) (f : R s → Prog S R ε β) : (stmt s >>= f) = exec s f :=
  rfl

theorem bind_bind (p : Prog S R ε α) (f : α → Prog S R ε β) (g : β → Prog S R ε γ) :
    (p >>= f >>= g) = p >>= fun a => f a >>= g := by
  induction p with
  | ret r =>
    cases r with
    | error e => rfl
    | ok a => rfl
  | exec s k ih =>
    simp only [exec_bind, ih]

@[simp] theorem attempt_ret (r : Except ε α) :
    (ret r : Prog S R ε α).attempt = (ret (.ok r) : Prog S R ε' (Except ε α)) :=
  rfl

@[simp] theorem attempt_exec (s : S) (k : R s → Prog S R ε α) :
    ((exec s k).attempt : Prog S R ε' (Except ε α)) = exec s fun r => (k r).attempt :=
  rfl

@[simp] theorem mapError_ret (f : ε → ε') (r : Except ε α) :
    (ret r : Prog S R ε α).mapError f = ret (r.mapError f) :=
  rfl

@[simp] theorem mapError_exec (f : ε → ε') (s : S) (k : R s → Prog S R ε α) :
    (exec s k).mapError f = exec s fun r => (k r).mapError f :=
  rfl

/-! ## Running a program alone -/

/-- The result of `p` and the store it leaves, when `h` answers its statements. -/
def run (h : (s : S) → σ → R s × σ) : Prog S R ε α → σ → Except ε α × σ
  | ret r, m => (r, m)
  | exec s k, m => (k (h s m).1).run h (h s m).2

variable (h : (s : S) → σ → R s × σ)

@[simp] theorem run_ret (r : Except ε α) (m : σ) : (ret r : Prog S R ε α).run h m = (r, m) :=
  rfl

@[simp] theorem run_fail (e : ε) (m : σ) :
    (fail e : Prog S R ε α).run h m = (.error e, m) :=
  rfl

@[simp] theorem run_exec (s : S) (k : R s → Prog S R ε α) (m : σ) :
    (exec s k).run h m = (k (h s m).1).run h (h s m).2 :=
  rfl

/-- A program in sequence runs where the first one has ended. -/
theorem run_bind (p : Prog S R ε α) (f : α → Prog S R ε β) (m : σ) :
    (p >>= f).run h m = match p.run h m with
      | (.ok a, m') => (f a).run h m'
      | (.error e, m') => (.error e, m') := by
  induction p generalizing m with
  | ret r => cases r <;> rfl
  | exec s k ih => simpa using ih _ _

theorem run_bind_ok {p : Prog S R ε α} {f : α → Prog S R ε β} {m m' : σ} {a : α}
    (hp : p.run h m = (.ok a, m')) : (p >>= f).run h m = (f a).run h m' := by
  rw [run_bind, hp]

theorem run_bind_error {p : Prog S R ε α} {f : α → Prog S R ε β} {m m' : σ} {e : ε}
    (hp : p.run h m = (.error e, m')) : (p >>= f).run h m = (.error e, m') := by
  rw [run_bind, hp]

/-- A sequence that ends well has run both of its parts. -/
theorem run_bind_eq_ok {p : Prog S R ε α} {f : α → Prog S R ε β} {m m' : σ} {b : β} :
    (p >>= f).run h m = (.ok b, m') ↔
      ∃ a m₁, p.run h m = (.ok a, m₁) ∧ (f a).run h m₁ = (.ok b, m') := by
  rw [run_bind]
  rcases p.run h m with ⟨e | a, m₁⟩
  · simp
  · simp [and_assoc]

/-- An error that is caught is a value. -/
@[simp] theorem run_attempt (p : Prog S R ε α) (m : σ) :
    (p.attempt : Prog S R ε' (Except ε α)).run h m = (.ok (p.run h m).1, (p.run h m).2) := by
  induction p generalizing m with
  | ret r => rfl
  | exec s k ih => simpa using ih _ _

@[simp] theorem run_mapError (f : ε → ε') (p : Prog S R ε α) (m : σ) :
    (p.mapError f).run h m = ((p.run h m).1.mapError f, (p.run h m).2) := by
  induction p generalizing m with
  | ret r => rfl
  | exec s k ih => simpa using ih _ _

theorem run_mapError_eq_ok {f : ε → ε'} {p : Prog S R ε α} {m m' : σ} {a : α} :
    (p.mapError f).run h m = (.ok a, m') ↔ p.run h m = (.ok a, m') := by
  rw [run_mapError]
  simp [Prod.ext_iff, mapError_eq_ok]

/-! ## What a run keeps -/

/-- The run of `p` from `m` leaves a store that `K` relates to `m`. -/
def Keeps (K : σ → σ → Prop) (p : Prog S R ε α) (m : σ) : Prop := K m (p.run h m).2

/-- The run of `p` leaves every store as it is. -/
def ReadOnly (p : Prog S R ε α) : Prop := ∀ m, (p.run h m).2 = m

section Keeps

variable {h} {K : σ → σ → Prop} {p : Prog S R ε α} {f : α → Prog S R ε β} {m : σ}

theorem ReadOnly.keeps (hrefl : ∀ m, K m m) (hp : p.ReadOnly h) : p.Keeps h K m := by
  unfold Keeps
  rw [hp m]
  exact hrefl m

theorem keeps_ret (hrefl : ∀ m, K m m) (r : Except ε α) :
    (ret r : Prog S R ε α).Keeps h K m :=
  hrefl m

/-- A sequence keeps what both of its parts keep. -/
theorem keeps_bind (htrans : ∀ a b c, K a b → K b c → K a c) (hp : p.Keeps h K m)
    (hf : ∀ a m', p.run h m = (.ok a, m') → (f a).Keeps h K m') : (p >>= f).Keeps h K m := by
  unfold Keeps at *
  rw [run_bind]
  rcases hrun : p.run h m with ⟨e | a, m'⟩
  · rwa [hrun] at hp
  · rw [hrun] at hp
    exact htrans m m' _ hp (hf a m' hrun)

/-- A sequence keeps what its second part keeps, when the first only reads. -/
theorem ReadOnly.keeps_bind (hrefl : ∀ m, K m m) (hp : p.ReadOnly h)
    (hf : ∀ a, p.run h m = (.ok a, m) → (f a).Keeps h K m) : (p >>= f).Keeps h K m := by
  unfold Keeps at *
  rw [run_bind]
  have hm := hp m
  rcases hrun : p.run h m with ⟨e | a, m'⟩ <;> rw [hrun] at hm <;> subst hm
  · exact hrefl _
  · exact hf a hrun

theorem keeps_attempt : (p.attempt : Prog S R ε' (Except ε α)).Keeps h K m ↔ p.Keeps h K m := by
  rw [Keeps, run_attempt, Keeps]

theorem keeps_mapError {g : ε → ε'} : (p.mapError g).Keeps h K m ↔ p.Keeps h K m := by
  rw [Keeps, run_mapError, Keeps]

theorem readOnly_ret (r : Except ε α) : (ret r : Prog S R ε α).ReadOnly h := fun _ => rfl

theorem readOnly_fail (e : ε) : (fail e : Prog S R ε α).ReadOnly h := fun _ => rfl

/-- A statement that only reads, and what follows it. -/
theorem readOnly_exec {s : S} {k : R s → Prog S R ε α} (hs : ∀ m, (h s m).2 = m)
    (hk : ∀ r, (k r).ReadOnly h) : (exec s k).ReadOnly h := by
  intro m
  rw [run_exec, hs m]
  exact hk _ m

theorem ReadOnly.bind (hp : p.ReadOnly h) (hf : ∀ a, (f a).ReadOnly h) :
    (p >>= f).ReadOnly h := fun m =>
  hp.keeps_bind (K := fun a b => b = a) (fun _ => rfl) fun a _ => hf a m

theorem ReadOnly.attempt (hp : p.ReadOnly h) :
    (p.attempt : Prog S R ε' (Except ε α)).ReadOnly h := fun m => by
  rw [run_attempt]
  exact hp m

theorem ReadOnly.mapError (hp : p.ReadOnly h) (g : ε → ε') : (p.mapError g).ReadOnly h :=
  fun m => by
    rw [run_mapError]
    exact hp m

end Keeps

/-! ## The statements of a program -/

/-- Every statement that the program can send satisfies `q`. -/
def All (q : S → Prop) : Prog S R ε α → Prop
  | ret _ => True
  | exec s k => q s ∧ ∀ r, (k r).All q

section All

variable {q q' : S → Prop} {p : Prog S R ε α} {f : α → Prog S R ε β}

@[simp] theorem all_ret (r : Except ε α) : (ret r : Prog S R ε α).All q :=
  trivial

@[simp] theorem all_fail (e : ε) : (fail e : Prog S R ε α).All q :=
  trivial

@[simp] theorem all_stmt {s : S} : (stmt s : Prog S R ε (R s)).All q ↔ q s :=
  and_iff_left fun _ => trivial

theorem All.mono (hp : p.All q) (h : ∀ s, q s → q' s) : p.All q' := by
  induction p with
  | ret r => trivial
  | exec s k ih => exact ⟨h s hp.1, fun r => ih r (hp.2 r)⟩

theorem All.bind (hp : p.All q) (hf : ∀ a, (f a).All q) : (p >>= f).All q := by
  induction p with
  | ret r => cases r with
    | error e => trivial
    | ok a => exact hf a
  | exec s k ih => exact ⟨hp.1, fun r => ih r (hp.2 r)⟩

theorem All.attempt (hp : p.All q) : (p.attempt : Prog S R ε' (Except ε α)).All q := by
  induction p with
  | ret r => trivial
  | exec s k ih => exact ⟨hp.1, fun r => ih r (hp.2 r)⟩

theorem All.mapError (hp : p.All q) (g : ε → ε') : (p.mapError g).All q := by
  induction p with
  | ret r => trivial
  | exec s k ih => exact ⟨hp.1, fun r => ih r (hp.2 r)⟩

end All

/-! ## Programs with honest replies -/

/-- Where all replies satisfy `ok`, the statements satisfy `q` and the result `post`. -/
def Ensures (ok : (s : S) → R s → Prop) (q : S → Prop) (post : Except ε α → Prop) :
    Prog S R ε α → Prop
  | ret r => post r
  | exec s k => q s ∧ ∀ r, ok s r → (k r).Ensures ok q post

section Ensures

variable {ok : (s : S) → R s → Prop} {q : S → Prop} {post : Except ε α → Prop}
  {post' : Except ε β → Prop} {p : Prog S R ε α} {f : α → Prog S R ε β}

theorem Ensures.mono {post₁ : Except ε α → Prop} (hp : p.Ensures ok q post)
    (h : ∀ r, post r → post₁ r) : p.Ensures ok q post₁ := by
  induction p with
  | ret r => exact h r hp
  | exec s k ih => exact ⟨hp.1, fun r hr => ih r (hp.2 r hr)⟩

theorem Ensures.bind (hp : p.Ensures ok q post)
    (hf : ∀ a, post (.ok a) → (f a).Ensures ok q post')
    (he : ∀ e, post (.error e) → post' (.error e)) : (p >>= f).Ensures ok q post' := by
  induction p with
  | ret r => cases r with
    | error e => exact he e hp
    | ok a => exact hf a hp
  | exec s k ih => exact ⟨hp.1, fun r hr => ih r (hp.2 r hr)⟩

theorem Ensures.attempt (hp : p.Ensures ok q post) :
    (p.attempt : Prog S R ε' (Except ε α)).Ensures ok q fun r => ∃ r', r = .ok r' ∧ post r' := by
  induction p with
  | ret r => exact ⟨r, rfl, hp⟩
  | exec s k ih => exact ⟨hp.1, fun r hr => ih r (hp.2 r hr)⟩

end Ensures

/-! ## What is left of a program -/

/-- `q` is what is left of `p` after a statement. -/
inductive Rest : Prog S R ε α → Prog S R ε α → Prop
  | exec (s : S) (k : R s → Prog S R ε α) (r : R s) : Rest (k r) (.exec s k)

/-- A program ends, whatever the replies. -/
theorem wellFounded_rest : WellFounded (Rest : Prog S R ε α → Prog S R ε α → Prop) := by
  refine ⟨fun p => ?_⟩
  induction p with
  | ret r => exact ⟨_, fun q hq => by cases hq⟩
  | exec s k ih =>
    refine ⟨_, fun q hq => ?_⟩
    cases hq with
    | exec s k r => exact ih r

end Prog

end Lib
