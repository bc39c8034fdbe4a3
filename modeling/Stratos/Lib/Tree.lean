import Mathlib.Data.List.Chain
import Mathlib.Data.Nat.Notation

/-!
# Finite trees

Trees with labelled nodes, and forests as lists of trees. `IsPath` says which lists of labels
can be read going down from the roots of a forest.

`prune` keeps a child when a test on the labels of parent and child allows it, with its
pruned children : its paths are the paths every step of which is allowed (`isPath_prune`), and
pruning twice is pruning once (`prune_prune`). `height` is the length of a longest path
(`exists_isPath_height`, `length_le_height`). `inner` counts the nodes that have children ; it
is the height when no two siblings have children (`inner_eq_height`).
-/

namespace Lib

/-- A tree with labelled nodes. -/
inductive RoseTree (α : Type*)
  | node (label : α) (children : List (RoseTree α))

namespace RoseTree

variable {α : Type*}

/-- The label at the root. -/
def label : RoseTree α → α
  | node a _ => a

/-- The trees below the root. -/
def children : RoseTree α → List (RoseTree α)
  | node _ ts => ts

@[simp] theorem label_node (a : α) (ts : List (RoseTree α)) : (node a ts).label = a :=
  rfl

@[simp] theorem children_node (a : α) (ts : List (RoseTree α)) : (node a ts).children = ts :=
  rfl

/-- Induction over forests : the forest is empty, or its first tree has a smaller forest of
children. -/
theorem forest_induction {p : List (RoseTree α) → Prop} (nil : p [])
    (cons : ∀ a cs ts, p cs → p ts → p (node a cs :: ts)) : ∀ ts, p ts :=
  fun ts => @RoseTree.rec_1 α (fun t => p t.children) p (fun _ _ h => h) nil
    (fun t ts ht hts => by
      cases t with
      | node a cs => exact cons a cs ts ht hts) ts

/-! ## Paths -/

/-- The labels can be read going down from a root of the forest. -/
def IsPath (ts : List (RoseTree α)) : List α → Prop
  | [] => True
  | a :: as => ∃ t ∈ ts, t.label = a ∧ IsPath t.children as

theorem isPath_nil_iff {as : List α} : IsPath [] as ↔ as = [] := by
  cases as <;> simp [IsPath]

theorem isPath_cons_cons {a b : α} {cs ts : List (RoseTree α)} {bs : List α} :
    IsPath (node a cs :: ts) (b :: bs) ↔ a = b ∧ IsPath cs bs ∨ IsPath ts (b :: bs) := by
  simp [IsPath]

/-- Some label of the forest satisfies `p`. -/
def Occurs (p : α → Prop) (ts : List (RoseTree α)) : Prop := ∃ as b, IsPath ts (as ++ [b]) ∧ p b

theorem not_occurs_nil (p : α → Prop) : ¬Occurs p [] := by
  rintro ⟨as, b, h, -⟩
  simp [isPath_nil_iff] at h

theorem occurs_cons {p : α → Prop} {a : α} {cs ts : List (RoseTree α)} :
    Occurs p (node a cs :: ts) ↔ p a ∨ Occurs p cs ∨ Occurs p ts := by
  constructor
  · rintro ⟨_ | ⟨b, as⟩, c, hpath, hc⟩
    · rcases isPath_cons_cons.1 hpath with ⟨rfl, -⟩ | hpath
      · exact Or.inl hc
      · exact Or.inr (Or.inr ⟨[], c, hpath, hc⟩)
    · rcases isPath_cons_cons.1 hpath with ⟨-, hpath⟩ | hpath
      · exact Or.inr (Or.inl ⟨as, c, hpath, hc⟩)
      · exact Or.inr (Or.inr ⟨b :: as, c, hpath, hc⟩)
  · rintro (ha | ⟨as, c, hpath, hc⟩ | ⟨as, c, hpath, hc⟩)
    · exact ⟨[], a, isPath_cons_cons.2 (Or.inl ⟨rfl, trivial⟩), ha⟩
    · exact ⟨a :: as, c, isPath_cons_cons.2 (Or.inl ⟨rfl, hpath⟩), hc⟩
    · cases as with
      | nil => exact ⟨[], c, isPath_cons_cons.2 (Or.inr hpath), hc⟩
      | cons b as => exact ⟨b :: as, c, isPath_cons_cons.2 (Or.inr hpath), hc⟩

/-! ## Pruning -/

section Prune

variable (keep : α → α → Bool)

mutual

/-- The children of a tree with the label `a` that are kept, pruned. -/
def prune (a : α) : List (RoseTree α) → List (RoseTree α)
  | [] => []
  | t :: ts => if keep a t.label then pruneTree t :: prune a ts else prune a ts

/-- The tree with its children pruned. -/
def pruneTree : RoseTree α → RoseTree α
  | node a cs => node a (prune a cs)

end

variable {keep}

/-- A path of the pruned forest is a path every step of which is kept. -/
theorem isPath_prune (a : α) (ts : List (RoseTree α)) (as : List α) :
    IsPath (prune keep a ts) as ↔
      IsPath ts as ∧ List.IsChain (fun b c => keep b c = true) (a :: as) := by
  induction ts using forest_induction generalizing a as with
  | nil =>
    rw [prune, isPath_nil_iff]
    refine ⟨?_, And.left⟩
    rintro rfl
    exact ⟨rfl, List.isChain_singleton a⟩
  | cons b cs ts ihc iht =>
    cases as with
    | nil => simp [IsPath]
    | cons c as =>
      have hcons : IsPath (node b cs :: ts) (c :: as) ↔
          b = c ∧ IsPath cs as ∨ IsPath ts (c :: as) := isPath_cons_cons
      have hrest := iht a (c :: as)
      rw [List.isChain_cons_cons] at hrest ⊢
      by_cases hk : keep a b = true
      · rw [prune, label_node, if_pos hk, pruneTree, isPath_cons_cons, hcons, ihc, hrest]
        constructor
        · rintro (⟨rfl, hpath, hchain⟩ | ⟨hpath, hkeep, hchain⟩)
          · exact ⟨Or.inl ⟨rfl, hpath⟩, hk, hchain⟩
          · exact ⟨Or.inr hpath, hkeep, hchain⟩
        · rintro ⟨⟨rfl, hpath⟩ | hpath, hkeep, hchain⟩
          · exact Or.inl ⟨rfl, hpath, hchain⟩
          · exact Or.inr ⟨hpath, hkeep, hchain⟩
      · rw [prune, label_node, if_neg hk, hcons, hrest]
        constructor
        · rintro ⟨hpath, hkeep, hchain⟩
          exact ⟨Or.inr hpath, hkeep, hchain⟩
        · rintro ⟨⟨rfl, -⟩ | hpath, hkeep, hchain⟩
          · exact absurd hkeep hk
          · exact ⟨hpath, hkeep, hchain⟩

/-- A forest that has been pruned stays. -/
theorem prune_prune (a : α) (ts : List (RoseTree α)) :
    prune keep a (prune keep a ts) = prune keep a ts := by
  induction ts using forest_induction generalizing a with
  | nil => rfl
  | cons b cs ts ihc iht =>
    by_cases hk : keep a b = true
    · simp [prune, pruneTree, hk, ihc, iht]
    · simp [prune, hk, iht]

theorem prune_eq_nil_iff {a : α} {ts : List (RoseTree α)} :
    prune keep a ts = [] ↔ ∀ t ∈ ts, keep a t.label = false := by
  induction ts with
  | nil => simp [prune]
  | cons t ts ih =>
    by_cases hk : keep a t.label = true
    · simp [prune, hk]
    · simp [prune, hk, ih]

theorem mem_prune {a : α} {ts : List (RoseTree α)} {u : RoseTree α} :
    u ∈ prune keep a ts ↔ ∃ t ∈ ts, keep a t.label = true ∧ u = pruneTree keep t := by
  induction ts with
  | nil => simp [prune]
  | cons t ts ih =>
    by_cases hk : keep a t.label = true
    · simp [prune, hk, ih]
    · simp [prune, hk, ih]

end Prune

/-! ## Height and branching -/

mutual

/-- The length of a longest path of the forest. -/
def height : List (RoseTree α) → ℕ
  | [] => 0
  | t :: ts => max (heightTree t + 1) (height ts)

/-- The length of a longest path below the root. -/
def heightTree : RoseTree α → ℕ
  | node _ cs => height cs

end

mutual

/-- The number of nodes with children, over the trees. -/
def innerSum : List (RoseTree α) → ℕ
  | [] => 0
  | t :: ts => inner t + innerSum ts

/-- The number of nodes with children. -/
def inner : RoseTree α → ℕ
  | node _ cs => if cs.isEmpty then 0 else innerSum cs + 1

end

theorem inner_eq_zero_iff {a : α} {ts : List (RoseTree α)} : inner (node a ts) = 0 ↔ ts = [] := by
  cases ts <;> simp [inner]

/-- No path is longer than the forest is high. -/
theorem length_le_height {ts : List (RoseTree α)} {as : List α} (h : IsPath ts as) :
    as.length ≤ height ts := by
  induction ts using forest_induction generalizing as with
  | nil =>
    rw [isPath_nil_iff.1 h]
    exact Nat.zero_le _
  | cons a cs ts ihc iht =>
    cases as with
    | nil => exact Nat.zero_le _
    | cons b bs =>
      rw [height, heightTree, List.length_cons]
      rcases isPath_cons_cons.1 h with ⟨-, hpath⟩ | hpath
      · exact Nat.le_trans (Nat.succ_le_succ (ihc hpath)) (Nat.le_max_left _ _)
      · exact Nat.le_trans (iht hpath) (Nat.le_max_right _ _)

/-- Some path is as long as the forest is high. -/
theorem exists_isPath_height (ts : List (RoseTree α)) :
    ∃ as, IsPath ts as ∧ as.length = height ts := by
  induction ts using forest_induction with
  | nil => exact ⟨[], trivial, rfl⟩
  | cons a cs ts ihc iht =>
    obtain ⟨as, has, hlen⟩ := ihc
    obtain ⟨bs, hbs, hlen'⟩ := iht
    rw [height, heightTree]
    by_cases hle : height cs + 1 ≤ height ts
    · refine ⟨bs, ?_, by rw [hlen', max_eq_right hle]⟩
      cases bs with
      | nil => trivial
      | cons b bs => exact isPath_cons_cons.2 (Or.inr hbs)
    · refine ⟨a :: as, isPath_cons_cons.2 (Or.inl ⟨rfl, has⟩), ?_⟩
      rw [List.length_cons, hlen, max_eq_left (by omega)]

mutual

/-- No two trees of the forest have children, nor do two siblings below. -/
def Unbranched : List (RoseTree α) → Prop
  | [] => True
  | t :: ts => UnbranchedTree t ∧ Unbranched ts ∧ (t.children = [] ∨ ∀ u ∈ ts, u.children = [])

/-- No two children have children, nor do two siblings below. -/
def UnbranchedTree : RoseTree α → Prop
  | node _ cs => Unbranched cs

end

theorem innerSum_eq_zero {ts : List (RoseTree α)} (h : ∀ t ∈ ts, t.children = []) :
    innerSum ts = 0 := by
  induction ts with
  | nil => rfl
  | cons t ts ih =>
    obtain ⟨a, cs⟩ := t
    obtain rfl : cs = [] := h _ List.mem_cons_self
    rw [innerSum, ih fun u hu => h u (List.mem_cons_of_mem _ hu)]
    rfl

/-- Without branches there are as many inner nodes as the tree is high. -/
theorem inner_eq_height {a : α} {ts : List (RoseTree α)} (h : Unbranched ts) :
    inner (node a ts) = height ts := by
  induction ts using forest_induction generalizing a with
  | nil => rfl
  | cons b cs ts ihc iht =>
    obtain ⟨hcs, hts, hone⟩ := h
    have hb : inner (node b cs) = height cs := ihc hcs
    have hrest : inner (node a ts) = height ts := iht hts
    rw [inner, List.isEmpty_cons, if_neg (by simp), innerSum, hb, height, heightTree]
    rcases hone with hnil | hleaves
    · obtain rfl : cs = [] := hnil
      cases ts with
      | nil => rfl
      | cons t ts =>
        rw [inner, List.isEmpty_cons, if_neg (by simp)] at hrest
        rw [← hrest, height]
        omega
    · rw [innerSum_eq_zero hleaves]
      have hle : height ts ≤ 1 := by
        rw [← hrest, inner, innerSum_eq_zero hleaves]
        split_ifs <;> omega
      omega

section OneBranch

variable (keep : α → α → Bool)

/-- Some child of the tree is kept. -/
def KeepsChild (t : RoseTree α) : Prop := ∃ u ∈ t.children, keep t.label u.label = true

mutual

/-- At most one of the kept children of a node labelled `a` keeps a child, and so below. -/
def OneBranch (a : α) : List (RoseTree α) → Prop
  | [] => True
  | t :: ts => (keep a t.label = true → OneBranchTree t ∧
      (KeepsChild keep t → ∀ u ∈ ts, keep a u.label = true → ¬KeepsChild keep u)) ∧
    OneBranch a ts

/-- At most one of the kept children keeps a child, and so below. -/
def OneBranchTree : RoseTree α → Prop
  | node a cs => OneBranch a cs

end

variable {keep}

theorem children_pruneTree_eq_nil {t : RoseTree α} (h : ¬KeepsChild keep t) :
    (pruneTree keep t).children = [] := by
  obtain ⟨a, cs⟩ := t
  refine prune_eq_nil_iff.2 fun u hu => ?_
  rw [← Bool.not_eq_true]
  exact fun hk => h ⟨u, hu, hk⟩

theorem unbranched_prune {a : α} {ts : List (RoseTree α)} (h : OneBranch keep a ts) :
    Unbranched (prune keep a ts) := by
  induction ts using forest_induction generalizing a with
  | nil => trivial
  | cons b cs ts ihc iht =>
    rw [OneBranch] at h
    obtain ⟨hfirst, hts⟩ := h
    by_cases hk : keep a b = true
    · obtain ⟨hcs, hone⟩ := hfirst hk
      rw [OneBranchTree] at hcs
      rw [prune, label_node, if_pos hk]
      refine ⟨ihc hcs, iht hts, ?_⟩
      by_cases hkeeps : KeepsChild keep (node b cs)
      · refine Or.inr fun u hu => ?_
        obtain ⟨t, ht, hkt, rfl⟩ := mem_prune.1 hu
        exact children_pruneTree_eq_nil (hone hkeeps t ht hkt)
      · exact Or.inl (children_pruneTree_eq_nil hkeeps)
    · rw [prune, label_node, if_neg hk]
      exact iht hts

end OneBranch

end RoseTree

end Lib
