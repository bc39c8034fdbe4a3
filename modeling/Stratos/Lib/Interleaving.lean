import Mathlib.Data.Nat.Notation
import Mathlib.Logic.Relation
import Stratos.Lib.Program

/-!
# Interleavings of programs

A pool (`Pool`) is a store with the threads that work on it, each the rest of a program
together with the request it serves and the replies it has read. A step
(`Pool.Step`) starts a request or executes one statement of one thread, so that a run
(`Pool.Run`) interleaves the statements of all of them in any order. A condition on steps
restricts the runs to those whose statements all meet it.

`Pool.Run.inv` is the induction over runs: what holds at the start and is preserved by
every step holds in every pool reached. `Pool.Run.residual` says that the program of a
thread is always what its request started with, after the replies of its log.
-/

namespace Lib

variable {S : Type} {R : S → Type} {ε α ρ σ : Type}

/-! ## Threads -/

/-- What is left of the first program after the replies of a log, the last reply first. -/
inductive Residual : Prog S R ε α → List ((s : S) × R s) → Prog S R ε α → Prop
  | start (p : Prog S R ε α) : Residual p [] p
  | step {p : Prog S R ε α} {log : List ((s : S) × R s)} {s : S} {k : R s → Prog S R ε α}
      (r : R s) (h : Residual p log (.exec s k)) : Residual p (⟨s, r⟩ :: log) (k r)

theorem Residual.all {p p' : Prog S R ε α} {log : List ((s : S) × R s)} {q : S → Prop}
    (h : Residual p log p') (hp : p.All q) : p'.All q := by
  induction h with
  | start => exact hp
  | step r _ ih => exact ih.2 r

/-- What is left after replies that are as they should be. -/
theorem Residual.ensures {p p' : Prog S R ε α} {log : List ((s : S) × R s)}
    {ok : (s : S) → R s → Prop} {q : S → Prop} {post : Except ε α → Prop}
    (h : Residual p log p') (hlog : ∀ e ∈ log, ok e.1 e.2) (hp : p.Ensures ok q post) :
    p'.Ensures ok q post := by
  induction h with
  | start => exact hp
  | step r _ ih =>
    exact (ih fun e he => hlog e (List.mem_cons_of_mem _ he)).2 r (hlog _ List.mem_cons_self)

/-- A program that has ended has nothing left. -/
theorem Residual.of_ret {r : Except ε α} {log : List ((s : S) × R s)} {p : Prog S R ε α}
    (h : Residual (.ret r) log p) : p = .ret r := by
  generalize hp : Prog.ret r = p₀ at h
  induction h with
  | start => rfl
  | step _ _ ih =>
    subst hp
    cases ih

theorem Residual.of_exec {s : S} {k : R s → Prog S R ε α} {p : Prog S R ε α}
    {log : List ((s : S) × R s)} (h : Residual (.exec s k) log p) :
    (log = [] ∧ p = .exec s k) ∨ ∃ r log', log = log' ++ [⟨s, r⟩] ∧ Residual (k r) log' p := by
  induction h with
  | start => exact .inl ⟨rfl, rfl⟩
  | step r h ih =>
    obtain ⟨rfl, heq⟩ | ⟨r', log', rfl, hk⟩ := ih
    · cases heq
      exact .inr ⟨r, [], rfl, .start _⟩
    · exact .inr ⟨r', _, rfl, .step r hk⟩

/-- The log of a statement and of what follows it. -/
theorem Residual.exec {s : S} {k : R s → Prog S R ε α} {r : R s} {p : Prog S R ε α}
    {log : List ((s : S) × R s)} (h : Residual (k r) log p) :
    Residual (.exec s k) (log ++ [⟨s, r⟩]) p := by
  induction h with
  | start => exact .step r (.start _)
  | step r' h ih => exact .step r' ih

/-- The logs of two programs, one after the other. -/
theorem Residual.of_bind {β : Type} {p : Prog S R ε α} {f : α → Prog S R ε β} {b : β}
    {log : List ((s : S) × R s)} (h : Residual (p >>= f) log (.ret (.ok b))) :
    ∃ a log₁ log₂, log = log₂ ++ log₁ ∧ Residual p log₁ (.ret (.ok a)) ∧
      Residual (f a) log₂ (.ret (.ok b)) := by
  induction p generalizing log with
  | ret r =>
    cases r with
    | error e => cases h.of_ret
    | ok a => exact ⟨a, [], log, (List.append_nil log).symm, .start _, h⟩
  | exec s k ih =>
    obtain ⟨-, hret⟩ | ⟨r, log', rfl, hk⟩ := h.of_exec
    · cases hret
    · obtain ⟨a, log₁, log₂, rfl, hp, hf⟩ := ih r hk
      exact ⟨a, log₁ ++ [⟨s, r⟩], log₂, List.append_assoc _ _ _, hp.exec, hf⟩

/-- Every statement that is sent after a log satisfies `good` with the log. -/
def Prog.Records (good : List ((s : S) × R s) → S → Prop) :
    List ((s : S) × R s) → Prog S R ε α → Prop
  | _, .ret _ => True
  | log, .exec s k => good log s ∧ ∀ r, (k r).Records good (⟨s, r⟩ :: log)

section Records

variable {good : List ((s : S) × R s) → S → Prop} {log : List ((s : S) × R s)}
  {p : Prog S R ε α}

theorem Prog.Records.bind {β : Type} {f : α → Prog S R ε β} (hp : p.Records good log)
    (hf : ∀ a log, (f a).Records good log) : (p >>= f).Records good log := by
  induction p generalizing log with
  | ret r =>
    cases r with
    | error e => trivial
    | ok a => exact hf a log
  | exec s k ih => exact ⟨hp.1, fun r => ih r (hp.2 r)⟩

theorem Prog.Records.attempt {ε' : Type} (hp : p.Records good log) :
    (p.attempt : Prog S R ε' (Except ε α)).Records good log := by
  induction p generalizing log with
  | ret r => trivial
  | exec s k ih => exact ⟨hp.1, fun r => ih r (hp.2 r)⟩

theorem Prog.Records.mapError {ε' : Type} {g : ε → ε'} (hp : p.Records good log) :
    (p.mapError g).Records good log := by
  induction p generalizing log with
  | ret r => trivial
  | exec s k ih => exact ⟨hp.1, fun r => ih r (hp.2 r)⟩

end Records

/-- A thread : the request it serves, the statements it has executed with their replies,
the last first, and the rest of its program. -/
structure Thread (S : Type) (R : S → Type) (ε α ρ : Type) where
  request : ρ
  log : List ((s : S) × R s)
  prog : Prog S R ε α

/-- The thread that starts to serve `q` by the program `p`. -/
def Thread.start (q : ρ) (p : Prog S R ε α) : Thread S R ε α ρ := ⟨q, [], p⟩

/-- The thread after its statement `s` was answered by `r`. -/
def Thread.advance (t : Thread S R ε α ρ) (s : S) (r : R s) (p : Prog S R ε α) :
    Thread S R ε α ρ :=
  ⟨t.request, ⟨s, r⟩ :: t.log, p⟩

/-- The thread has ended. -/
def Thread.Done (t : Thread S R ε α ρ) : Prop := ∃ r, t.prog = .ret r

/-! ## Pools -/

/-- A store and the threads that work on it. -/
structure Pool (S : Type) (R : S → Type) (ε α ρ σ : Type) where
  store : σ
  threads : List (Thread S R ε α ρ)

namespace Pool

/-- One step of a pool in which the request `q` is served by `body q`, the store answers
statements by `E`, and a statement is executed only when `ok`, given the store, the other
threads, the thread, the statement and its reply. -/
inductive Step (E : σ → (s : S) → R s → σ → Prop) (body : ρ → Prog S R ε α)
    (ok : σ → List (Thread S R ε α ρ) → Thread S R ε α ρ → (s : S) → R s → Prop) :
    Pool S R ε α ρ σ → Pool S R ε α ρ σ → Prop
  | start (m : σ) (ts : List (Thread S R ε α ρ)) (q : ρ) :
      Step E body ok ⟨m, ts⟩ ⟨m, ts ++ [Thread.start q (body q)]⟩
  | stmt {m m' : σ} (ts₁ ts₂ : List (Thread S R ε α ρ)) (t : Thread S R ε α ρ) {s : S}
      {k : R s → Prog S R ε α} {r : R s} (hk : t.prog = .exec s k) (hE : E m s r m')
      (hok : ok m (ts₁ ++ ts₂) t s r) :
      Step E body ok ⟨m, ts₁ ++ t :: ts₂⟩ ⟨m', ts₁ ++ t.advance s r (k r) :: ts₂⟩

/-- The pools reached from `a`. -/
def Run (E : σ → (s : S) → R s → σ → Prop) (body : ρ → Prog S R ε α)
    (ok : σ → List (Thread S R ε α ρ) → Thread S R ε α ρ → (s : S) → R s → Prop) :
    Pool S R ε α ρ σ → Pool S R ε α ρ σ → Prop :=
  Relation.ReflTransGen (Step E body ok)

/-- The pool with the store `m` in which no request has started. -/
def init (m : σ) : Pool S R ε α ρ σ := ⟨m, []⟩

/-- No request is in progress. -/
def Quiet (a : Pool S R ε α ρ σ) : Prop := ∀ t ∈ a.threads, t.Done

variable {E : σ → (s : S) → R s → σ → Prop} {body : ρ → Prog S R ε α}
  {ok : σ → List (Thread S R ε α ρ) → Thread S R ε α ρ → (s : S) → R s → Prop}

/-- What every step preserves holds after a run. -/
theorem Run.inv {a b : Pool S R ε α ρ σ} {I : Pool S R ε α ρ σ → Prop}
    (hrun : Run E body ok a b) (ha : I a)
    (hstep : ∀ a b, I a → Step E body ok a b → I b) : I b := by
  induction hrun with
  | refl => exact ha
  | tail _ hbc ih => exact hstep _ _ ih hbc

/-- The only thread executes its next statement. -/
theorem Run.exec {a : Pool S R ε α ρ σ} {m m' : σ} {t : Thread S R ε α ρ} {s : S}
    {k : R s → Prog S R ε α} {r : R s} (hrun : Run E body ok a ⟨m, [t]⟩)
    (hk : t.prog = .exec s k) (hE : E m s r m') (hok : ok m [] t s r) :
    Run E body ok a ⟨m', [t.advance s r (k r)]⟩ :=
  hrun.tail (.stmt [] [] t hk hE hok)

theorem forall_mem_middle {β : Type} {p : β → Prop} {l₁ l₂ : List β} {x : β} :
    (∀ y ∈ l₁ ++ x :: l₂, p y) ↔ p x ∧ ∀ y ∈ l₁ ++ l₂, p y := by
  rw [← List.forall_mem_cons]
  exact forall_congr' fun y => imp_congr_left List.perm_middle.mem_iff

/-- Every thread is where its request and its log say it is. -/
def Traced (body : ρ → Prog S R ε α) (a : Pool S R ε α ρ σ) : Prop :=
  ∀ t ∈ a.threads, Residual (body t.request) t.log t.prog

theorem Step.traced {a b : Pool S R ε α ρ σ} (hstep : Step E body ok a b)
    (ha : Traced body a) : Traced body b := by
  cases hstep with
  | start m ts q =>
    exact List.forall_mem_append.2 ⟨ha, List.forall_mem_singleton.2 (Residual.start _)⟩
  | @stmt m m' ts₁ ts₂ t s k r hk hE hok =>
    obtain ⟨ht, hothers⟩ := forall_mem_middle.1 ha
    rw [hk] at ht
    exact forall_mem_middle.2 ⟨Residual.step r ht, hothers⟩

/-- Every thread is where its own statements have brought it. -/
theorem Run.residual {m : σ} {b : Pool S R ε α ρ σ} (hrun : Run E body ok (init m) b) :
    Traced body b :=
  hrun.inv (fun _ ht => absurd ht List.not_mem_nil) fun _ _ ha hab => hab.traced ha

/-- What every executed statement satisfies, every entry of a log satisfies. -/
theorem Run.logged {m : σ} {b : Pool S R ε α ρ σ} {φ : (s : S) → R s → Prop}
    (hφ : ∀ m ts t s r, ok m ts t s r → φ s r) (hrun : Run E body ok (init m) b) :
    ∀ t ∈ b.threads, ∀ e ∈ t.log, φ e.1 e.2 := by
  refine hrun.inv (I := fun a => ∀ t ∈ a.threads, ∀ e ∈ t.log, φ e.1 e.2)
    (fun _ ht => absurd ht List.not_mem_nil) fun a b ha hab => ?_
  cases hab with
  | start m ts q =>
    exact List.forall_mem_append.2
      ⟨ha, List.forall_mem_singleton.2 fun _ he => absurd he List.not_mem_nil⟩
  | @stmt m m' ts₁ ts₂ t s k r hk hE hok =>
    obtain ⟨ht, hothers⟩ := forall_mem_middle.1 ha
    exact forall_mem_middle.2 ⟨List.forall_mem_cons.2 ⟨hφ _ _ t s r hok, ht⟩, hothers⟩

/-- Where the statements that the threads still send leave the store as it is, it stays, and they
end as they do alone. -/
theorem Run.ensures {a b : Pool S R ε α ρ σ} {φ : (s : S) → R s → Prop} {q : S → Prop}
    {post : ρ → Except ε α → Prop}
    (hE : ∀ ts t s r m, q s → E a.store s r m → ok a.store ts t s r → φ s r ∧ m = a.store)
    (hbody : ∀ x, (body x).Ensures φ q (post x))
    (ha : ∀ t ∈ a.threads, t.Done ∨ t.prog.Ensures φ q (post t.request))
    (hrun : Run E body ok a b) :
    b.store = a.store ∧
      ∀ t ∈ b.threads, (t ∈ a.threads ∧ t.Done) ∨ t.prog.Ensures φ q (post t.request) := by
  refine hrun.inv (I := fun c => c.store = a.store ∧ ∀ t ∈ c.threads,
    (t ∈ a.threads ∧ t.Done) ∨ t.prog.Ensures φ q (post t.request)) ?_ fun c d hc hcd => ?_
  · exact ⟨rfl, fun t ht => (ha t ht).imp_left fun hdone => ⟨ht, hdone⟩⟩
  · obtain ⟨hstore, hthreads⟩ := hc
    cases hcd with
    | start m ts x =>
      exact ⟨hstore, List.forall_mem_append.2
        ⟨hthreads, List.forall_mem_singleton.2 (.inr (hbody x))⟩⟩
    | @stmt m m' ts₁ ts₂ t s k r hk hs hok =>
      obtain rfl : m = a.store := hstore
      obtain ⟨ht, hothers⟩ := forall_mem_middle.1 hthreads
      -- The thread sends a statement, so it has not ended.
      obtain ⟨-, r', hret⟩ | hens := ht
      · cases hk.symm.trans hret
      rw [hk] at hens
      obtain ⟨hr, hm⟩ := hE _ t s r m' hens.1 hs hok
      exact ⟨hm, forall_mem_middle.2 ⟨.inr (hens.2 r hr), hothers⟩⟩

/-! ## Schedules -/

/-- One turn of a schedule : a request starts, or the thread at a place has its next
statement executed or refused. -/
inductive Turn (ρ : Type)
  | start (q : ρ)
  | exec (i : ℕ)
  | refuse (i : ℕ)

/-- The thread at the place `i` gets its reply, and the store is what `f` gives with it. -/
def reply (a : Pool S R ε α ρ σ) (i : ℕ) (f : (s : S) → R s × σ) : Pool S R ε α ρ σ :=
  match a.threads[i]? with
  | none => a
  | some t =>
    match t.prog with
    | .ret _ => a
    | .exec s k => ⟨(f s).2, a.threads.set i (t.advance s (f s).1 (k (f s).1))⟩

/-- The statement that the thread at the place `i` executes next meets `ok`. -/
def Meets (ok : σ → List (Thread S R ε α ρ) → Thread S R ε α ρ → (s : S) → R s → Prop)
    (a : Pool S R ε α ρ σ) (i : ℕ) (f : (s : S) → R s × σ) : Prop :=
  ∀ t s k, a.threads[i]? = some t → t.prog = .exec s k →
    ok a.store (a.threads.eraseIdx i) t s (f s).1

variable (h : (s : S) → σ → R s × σ) (refusal : (s : S) → R s)

/-- The pool after one turn, when `h` executes a statement. -/
def turn (body : ρ → Prog S R ε α) (a : Pool S R ε α ρ σ) : Turn ρ → Pool S R ε α ρ σ
  | .start q => ⟨a.store, a.threads ++ [Thread.start q (body q)]⟩
  | .exec i => a.reply i fun s => h s a.store
  | .refuse i => a.reply i fun s => (refusal s, a.store)

/-- The pool after a schedule. -/
def play (body : ρ → Prog S R ε α) : List (Turn ρ) → Pool S R ε α ρ σ → Pool S R ε α ρ σ
  | [], a => a
  | τ :: sched, a => play body sched (a.turn h refusal body τ)

/-- Every statement of the schedule meets `ok`. -/
def PlayMeets (body : ρ → Prog S R ε α)
    (ok : σ → List (Thread S R ε α ρ) → Thread S R ε α ρ → (s : S) → R s → Prop) :
    List (Turn ρ) → Pool S R ε α ρ σ → Prop
  | [], _ => True
  | τ :: sched, a => (match τ with
      | .start _ => True
      | .exec i => a.Meets ok i fun s => h s a.store
      | .refuse i => a.Meets ok i fun s => (refusal s, a.store)) ∧
    PlayMeets body ok sched (a.turn h refusal body τ)

theorem run_reply {a : Pool S R ε α ρ σ} {i : ℕ} {f : (s : S) → R s × σ}
    (hE : ∀ s, E a.store s (f s).1 (f s).2) (hok : a.Meets ok i f) :
    Run E body ok a (a.reply i f) := by
  unfold reply
  split
  · exact .refl
  · rename_i t ht
    split
    · exact .refl
    · rename_i s k hk
      obtain ⟨hi, rfl⟩ := List.getElem?_eq_some_iff.1 ht
      have hthreads : a.threads = a.threads.take i ++ a.threads[i] :: a.threads.drop (i + 1) := by
        rw [List.getElem_cons_drop, List.take_append_drop]
      have hok' := hok _ s k ht hk
      rw [List.eraseIdx_eq_take_drop_succ] at hok'
      have hstep : Step E body ok _ _ := .stmt (a.threads.take i) (a.threads.drop (i + 1))
        a.threads[i] hk (hE s) hok'
      rw [← hthreads] at hstep
      rw [List.set_eq_take_append_cons_drop, if_pos hi]
      exact .single hstep

/-- A schedule is a run. -/
theorem run_play (hE : ∀ m s, E m s (h s m).1 (h s m).2) (hrefuse : ∀ m s, E m s (refusal s) m)
    {sched : List (Turn ρ)} {a : Pool S R ε α ρ σ}
    (hok : PlayMeets h refusal body ok sched a) :
    Run E body ok a (a.play h refusal body sched) := by
  induction sched generalizing a with
  | nil => exact .refl
  | cons τ sched ih =>
    refine .trans ?_ (ih hok.2)
    cases τ with
    | start q => exact .single (.start a.store a.threads q)
    | exec i => exact run_reply (hE _) hok.1
    | refuse i => exact run_reply (hrefuse _) hok.1

/-- Without a condition every schedule is a run. -/
theorem playMeets_true (sched : List (Turn ρ)) (a : Pool S R ε α ρ σ) :
    PlayMeets h refusal body (fun _ _ _ _ _ => True) sched a := by
  induction sched generalizing a with
  | nil => trivial
  | cons τ sched ih =>
    refine ⟨?_, ih _⟩
    cases τ with
    | start q => trivial
    | exec i => exact fun _ _ _ _ _ => trivial
    | refuse i => exact fun _ _ _ _ _ => trivial

end Pool

end Lib
