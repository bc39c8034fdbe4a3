import Mathlib.Data.List.Basic

/-!
# Lists and partial functions

What a partial function makes of a list is there when it is there for every element
(`mapM_isSome`, `mapM_eq_map`), and is made of the single results (`mem_of_mapM`). A filter ends
when it decides every element (`filterM_eq_some`). A fold ends when every step does
(`foldlM_isSome_iff`, `foldlM_isSome`), in what the steps keep (`foldlM_inv_mem`), and a fold in a
fold is one (`foldlM_flatMap`). Two lists are related when their parts are
(`forall₂_append_iff`).
-/

namespace Lib

variable {α β : Type}

theorem mapM_isSome {f : α → Option β} {l : List α} :
    (l.mapM f).isSome ↔ ∀ x ∈ l, (f x).isSome := by
  induction l with
  | nil => simp
  | cons x l ih =>
    rw [List.mapM_cons, List.forall_mem_cons, ← ih]
    cases f x <;> cases l.mapM f <;> simp

theorem mapM_eq_map {f : α → Option β} {g : α → β} {l : List α} (h : ∀ x ∈ l, f x = some (g x)) :
    l.mapM f = some (l.map g) := by
  induction l with
  | nil => rfl
  | cons x l ih =>
    have hrest := ih fun y hy => h y (List.mem_cons_of_mem _ hy)
    rw [List.mapM_cons, h x List.mem_cons_self, hrest]
    rfl

theorem mapM_attach {f : α → Option β} (l : List α) :
    (l.attach.mapM fun x => f x.1) = l.mapM f := by
  conv_rhs => rw [← List.attach_map_subtype_val l, List.mapM_map]
  rfl

theorem forall₂_of_mapM {f : α → Option β} {l : List α} {rs : List β} (h : l.mapM f = some rs) :
    List.Forall₂ (fun x r => f x = some r) l rs := by
  induction l generalizing rs with
  | nil =>
    rw [List.mapM_nil] at h
    cases h
    exact List.Forall₂.nil
  | cons y l ih =>
    rw [List.mapM_cons] at h
    obtain ⟨r, hr, h⟩ := Option.bind_eq_some_iff.1 h
    obtain ⟨rs', hrs', h⟩ := Option.bind_eq_some_iff.1 h
    cases h
    exact List.Forall₂.cons hr (ih hrs')

theorem getElem?_of_mapM {f : α → Option β} {l : List α} {rs : List β} (h : l.mapM f = some rs)
    {i : ℕ} {x : α} (hx : l[i]? = some x) : ∃ r, rs[i]? = some r ∧ f x = some r := by
  induction l generalizing rs i with
  | nil => cases hx
  | cons y l ih =>
    rw [List.mapM_cons] at h
    obtain ⟨r, hr, h⟩ := Option.bind_eq_some_iff.1 h
    obtain ⟨rs', hrs', h⟩ := Option.bind_eq_some_iff.1 h
    cases h
    cases i with
    | zero =>
      cases hx
      exact ⟨r, rfl, hr⟩
    | succ i => exact ih hrs' hx

theorem mem_of_mapM {f : α → Option β} {l : List α} {rs : List β} (h : l.mapM f = some rs)
    {b : β} : b ∈ rs ↔ ∃ x ∈ l, f x = some b := by
  induction l generalizing rs with
  | nil =>
    obtain rfl := Option.some.inj h
    simp
  | cons x l ih =>
    rw [List.mapM_cons] at h
    obtain ⟨r, hr, h⟩ := Option.bind_eq_some_iff.1 h
    obtain ⟨rs', hrs, h⟩ := Option.bind_eq_some_iff.1 h
    obtain rfl := Option.some.inj h
    rw [List.mem_cons, ih hrs]
    simp [hr, eq_comm]

theorem mem_flatten_of_mapM {f : α → Option (List β)} {l : List α} {rs : List (List β)}
    (h : l.mapM f = some rs) {b : β} : b ∈ rs.flatten ↔ ∃ x ∈ l, ∃ r, f x = some r ∧ b ∈ r := by
  rw [List.mem_flatten]
  constructor
  · rintro ⟨r, hr, hb⟩
    obtain ⟨x, hx, hfx⟩ := (mem_of_mapM h).1 hr
    exact ⟨x, hx, r, hfx, hb⟩
  · rintro ⟨x, hx, r, hfx, hb⟩
    exact ⟨r, (mem_of_mapM h).2 ⟨x, hx, hfx⟩, hb⟩

/-- A filter that may fail gives the list where it fails nowhere. -/
theorem filterM_eq_some {p : α → Option Bool} {l r : List α} :
    l.filterM p = some r ↔
      (∀ a ∈ l, (p a).isSome) ∧ r = l.filter fun a => p a = some true := by
  have haux : ∀ (l acc : List α), l.filterAuxM p acc =
      if ∀ a ∈ l, (p a).isSome then some ((l.filter fun a => p a = some true).reverse ++ acc)
      else none := by
    intro l
    induction l with
    | nil => exact fun _ => rfl
    | cons a l ih =>
      intro acc
      rw [List.filterAuxM]
      cases ha : p a with
      | none => simp [ha]
      | some b => cases b <;> simp [ha, ih]
  rw [List.filterM, haux]
  split_ifs with hall
  · rw [List.append_nil, Option.bind_eq_bind, Option.bind_some, List.reverse_reverse,
      Option.pure_def, Option.some_inj, eq_comm]
    exact (and_iff_right hall).symm
  · exact iff_of_false (fun h => (by cases h)) fun h => hall h.1

theorem foldlM_isSome_iff {f : β → α → Option β} {p : α → Prop} {l : List α}
    (h : ∀ b, ∀ x ∈ l, (f b x).isSome ↔ p x) (b : β) : (l.foldlM f b).isSome ↔ ∀ x ∈ l, p x := by
  induction l generalizing b with
  | nil => simp
  | cons x l ih =>
    have hrest := fun b => ih (fun b y hy => h b y (List.mem_cons_of_mem _ hy)) b
    rw [List.foldlM_cons, List.forall_mem_cons, ← h b x List.mem_cons_self]
    rcases f b x with _ | b'
    · simp
    · simpa using hrest b'

theorem foldlM_isSome {f : β → α → Option β} {l : List α} (h : ∀ b, ∀ x ∈ l, (f b x).isSome)
    (b : β) : (l.foldlM f b).isSome :=
  (foldlM_isSome_iff (p := fun _ => True) (fun b x hx => iff_true_intro (h b x hx)) b).2
    fun _ _ => trivial

theorem foldlM_inv_mem {f : β → α → Option β} {p : β → Prop} {l : List α}
    (step : ∀ b x b', x ∈ l → p b → f b x = some b' → p b') {b r : β} (hb : p b)
    (h : l.foldlM f b = some r) : p r := by
  induction l generalizing b with
  | nil =>
    obtain rfl := Option.some.inj h
    exact hb
  | cons x l ih =>
    rw [List.foldlM_cons] at h
    obtain ⟨b', hb', h⟩ := Option.bind_eq_some_iff.1 h
    exact ih (fun b y b' hy => step b y b' (List.mem_cons_of_mem _ hy))
      (step b x b' List.mem_cons_self hb hb') h

theorem foldlM_inv {f : β → α → Option β} {p : β → Prop} {l : List α}
    (step : ∀ b x b', p b → f b x = some b' → p b') {b r : β} (hb : p b)
    (h : l.foldlM f b = some r) : p r :=
  foldlM_inv_mem (fun b x b' _ => step b x b') hb h

theorem foldlM_flatMap {γ : Type} {f : β → γ → Option β} {g : α → List γ} (l : List α) (b : β) :
    (l.flatMap g).foldlM f b = l.foldlM (fun b x => (g x).foldlM f b) b := by
  induction l generalizing b with
  | nil => rfl
  | cons x l ih =>
    rw [List.flatMap_cons, List.foldlM_append, List.foldlM_cons]
    exact congrArg (Option.bind _) (funext ih)

/-- Lists of the same length are related part by part. -/
theorem forall₂_append_iff {r : α → β → Prop} {l m : List α} {l' m' : List β}
    (h : l.length = l'.length) :
    List.Forall₂ r (l ++ m) (l' ++ m') ↔ List.Forall₂ r l l' ∧ List.Forall₂ r m m' := by
  induction l generalizing l' with
  | nil =>
    rw [List.length_eq_zero_iff.1 h.symm]
    exact ⟨fun hm => ⟨List.Forall₂.nil, hm⟩, fun hm => hm.2⟩
  | cons a l ih =>
    obtain ⟨b, l', rfl⟩ := List.exists_cons_of_length_eq_add_one h.symm
    rw [List.cons_append, List.cons_append, List.forall₂_cons, List.forall₂_cons,
      ih (Nat.succ.inj h), and_assoc]

end Lib
