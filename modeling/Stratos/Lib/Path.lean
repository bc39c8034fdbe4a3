import Mathlib.Data.List.Infix
import Mathlib.Data.Nat.Notation

/-!
# Clean slash-separated paths

`Path` is a path without empty components, `.` or inner `..`. `clean` reads one from a string :
it drops the empty components and the `.`, a `..` removes the component before it, and at the
root it does nothing. `render` writes a path.

`join` puts a name below a directory and cleans the whole. It is a walk from the directory
(`join_eq_walk`), and the walk follows the clean path of the name alone
(`walk_eq_follow`) : climb as often as that starts with `..`, then go down. So it stays in the
directory when it does not climb, or goes down again by what it climbed
(`contains_join_iff`). Names that only go down lead below it (`join_render_ofNames`).
-/

namespace Lib

/-- A component that stays in a clean path. -/
def IsName (s : String) : Prop := s ≠ "" ∧ s ≠ "." ∧ s ≠ ".." ∧ '/' ∉ s.toList

instance (s : String) : Decidable (IsName s) := inferInstanceAs (Decidable (_ ∧ _ ∧ _ ∧ _))

/-- A name of a file or a folder. -/
abbrev Name := { s : String // IsName s }

/-- A clean path. -/
structure Path where
  rooted : Bool
  /-- The number of `..` that it starts with. -/
  ups : ℕ
  names : List Name
  ups_eq_zero : rooted = true → ups = 0

namespace Path

@[ext] theorem ext {p q : Path} (hrooted : p.rooted = q.rooted) (hups : p.ups = q.ups)
    (hnames : p.names = q.names) : p = q := by
  obtain ⟨_, _, _, _⟩ := p
  obtain ⟨_, _, _, _⟩ := q
  dsimp only at hrooted hups hnames
  subst hrooted hups hnames
  rfl

/-! ## Walking -/

/-- What one component of a string does. -/
inductive Move
  | up
  | down (n : Name)

/-- The path after a move. Above the root there is nothing. -/
def move (p : Path) : Move → Path
  | .down n => { p with names := p.names ++ [n] }
  | .up =>
    if p.names = [] then
      if h : p.rooted = true then p
      else { p with ups := p.ups + 1, ups_eq_zero := fun hr => absurd hr h }
    else { p with names := p.names.dropLast }

/-- The path after a list of moves. -/
def walk (p : Path) (ms : List Move) : Path := ms.foldl move p

theorem walk_append (p : Path) (ms ms' : List Move) :
    p.walk (ms ++ ms') = (p.walk ms).walk ms' :=
  List.foldl_append

/-- The empty path, and the root. -/
def start (rooted : Bool) : Path := ⟨rooted, 0, [], fun _ => rfl⟩

theorem walk_downs (p : Path) (ns : List Name) :
    p.walk (ns.map Move.down) = { p with names := p.names ++ ns } := by
  induction ns generalizing p with
  | nil =>
    have hnil : p.names ++ [] = p.names := List.append_nil _
    exact Path.ext rfl rfl hnil.symm
  | cons n ns ih =>
    have hstep : p.walk ((n :: ns).map Move.down) = (p.move (.down n)).walk (ns.map Move.down) :=
      rfl
    rw [hstep, ih]
    exact Path.ext rfl rfl (by simp [move])

theorem walk_ups_start (n : ℕ) :
    (start false).walk (List.replicate n Move.up) = ⟨false, n, [], fun h => by cases h⟩ := by
  induction n with
  | zero => rfl
  | succ n ih =>
    rw [List.replicate_succ', walk_append, ih]
    rfl

/-! ## Strings -/

/-- What a component does. An empty one and `.` do nothing. -/
def toMove (c : List Char) : Option Move :=
  if c = "..".toList then some .up
  else if h : IsName (String.ofList c) then some (.down ⟨String.ofList c, h⟩) else none

/-- The moves that a path is written as. -/
def moves (s : String) : List Move := (s.toList.splitOn '/').filterMap toMove

/-- `path.Clean` -/
def clean (s : String) : Path := (start (s.toList.head? = some '/')).walk (moves s)

/-- The parts of the path, as they are written between slashes. -/
def components (p : Path) : List (List Char) :=
  List.replicate p.ups "..".toList ++ p.names.map (·.1.toList)

/-- The path as a string. -/
def render (p : Path) : String := String.ofList <|
  if p.rooted then '/' :: ['/'].intercalate p.components
  else if p.components = [] then ".".toList
  else ['/'].intercalate p.components

/-- `filepath.Join`, below a directory. -/
def join (dir : Path) (name : String) : Path := clean (dir.render ++ "/" ++ name)

theorem toMove_name (n : Name) : toMove n.1.toList = some (.down n) := by
  obtain ⟨s, hs⟩ := n
  have hne : s.toList ≠ "..".toList := fun h => hs.2.2.1 (String.toList_injective h)
  simp only [toMove, if_neg hne, String.ofList_toList, dif_pos hs]

theorem toMove_nil : toMove [] = none := by
  decide

theorem moves_components (p : Path) : p.components.filterMap toMove =
    List.replicate p.ups Move.up ++ p.names.map Move.down := by
  have hups : (List.replicate p.ups "..".toList).filterMap toMove =
      List.replicate p.ups Move.up := by
    have hup : toMove "..".toList = some .up := if_pos rfl
    rw [List.filterMap_replicate_of_some hup]
  have hnames : (p.names.map (·.1.toList)).filterMap toMove = p.names.map Move.down := by
    rw [List.filterMap_map, ← List.filterMap_eq_map]
    congr 1
    funext n
    exact toMove_name n
  rw [components, List.filterMap_append, hups, hnames]

theorem forall_mem_components {q : List Char → Prop} (p : Path) (hup : q "..".toList)
    (hname : ∀ n : Name, q n.1.toList) : ∀ c ∈ p.components, q c := by
  refine List.forall_mem_append.2 ⟨fun c hc => ?_, List.forall_mem_map.2 fun n _ => hname n⟩
  rwa [List.eq_of_mem_replicate hc]

theorem slash_not_mem_components (p : Path) : ∀ c ∈ p.components, '/' ∉ c :=
  p.forall_mem_components (by decide) fun n => n.2.2.2.2

theorem components_ne_nil (p : Path) : ∀ c ∈ p.components, c ≠ [] :=
  p.forall_mem_components (by decide) fun n h => n.2.1 (String.toList_injective h)

/-- The moves of a path as a string. -/
theorem moves_render (p : Path) : moves p.render =
    List.replicate p.ups Move.up ++ p.names.map Move.down := by
  have hsplit : ∀ cs : List (List Char), (∀ c ∈ cs, '/' ∉ c) →
      ((['/'].intercalate cs).splitOn '/').filterMap toMove = cs.filterMap toMove := by
    intro cs hcs
    by_cases hnil : cs = []
    · subst hnil
      rfl
    · rw [List.splitOn_intercalate _ hcs hnil]
  rw [← moves_components, moves, render, String.toList_ofList]
  split_ifs with hrooted hnil
  · have hcons : ('/' :: ['/'].intercalate p.components).splitOn '/' =
        [] :: (['/'].intercalate p.components).splitOn '/' :=
      List.splitOn_append_cons_self_of_not_mem List.not_mem_nil _
    rw [hcons, List.filterMap_cons_none toMove_nil, hsplit _ p.slash_not_mem_components]
  · rw [hnil]
    rfl
  · exact hsplit _ p.slash_not_mem_components

theorem head?_render (p : Path) (s : List Char) :
    decide ((p.render.toList ++ s).head? = some '/') = p.rooted := by
  rw [render, String.toList_ofList]
  split_ifs with hrooted hnil
  · rw [hrooted]
    rfl
  · rw [Bool.not_eq_true] at hrooted
    rw [hrooted]
    rfl
  · obtain ⟨c, cs, hcs⟩ := List.exists_cons_of_ne_nil hnil
    have hc : c ∈ p.components := by simp [hcs]
    obtain ⟨x, c', rfl⟩ := List.exists_cons_of_ne_nil (p.components_ne_nil c hc)
    have hslash : x ≠ '/' := fun h => p.slash_not_mem_components _ hc (by simp [h])
    have hhead : (['/'].intercalate p.components ++ s).head? = some x := by
      rw [hcs]
      cases cs <;> simp
    rw [Bool.not_eq_true] at hrooted
    simp [hhead, hslash, hrooted]

theorem walk_render (p : Path) : (start p.rooted).walk (moves p.render) = p := by
  rw [moves_render, walk_append, walk_downs]
  by_cases hrooted : p.rooted = true
  · have hups := p.ups_eq_zero hrooted
    exact Path.ext (by rw [hups]; rfl) (by rw [hups]; rfl) (by rw [hups]; rfl)
  · rw [Bool.not_eq_true] at hrooted
    rw [hrooted, walk_ups_start]
    exact Path.ext hrooted.symm rfl rfl

/-- Joining a name is walking along it. -/
theorem join_eq_walk (p : Path) (name : String) : p.join name = p.walk (moves name) := by
  have hsplit : moves (p.render ++ "/" ++ name) = moves p.render ++ moves name := by
    have happend : (p.render ++ "/" ++ name).toList = p.render.toList ++ '/' :: name.toList := by
      simp
    rw [moves, happend, List.splitOn_append_cons_self, List.filterMap_append]
    rfl
  have hhead : decide ((p.render ++ "/" ++ name).toList.head? = some '/') = p.rooted := by
    rw [String.toList_append, String.toList_append, List.append_assoc]
    exact p.head?_render _
  rw [join, clean, hhead, hsplit, walk_append, walk_render]

/-! ## Following a relative path -/

/-- Climb as often as `r` starts with `..`, then go down its names. -/
def follow (p r : Path) : Path where
  rooted := p.rooted
  ups := if p.rooted then 0 else p.ups + (r.ups - p.names.length)
  names := p.names.take (p.names.length - r.ups) ++ r.names
  ups_eq_zero := fun h => by rw [if_pos h]

theorem follow_start (p : Path) : p.follow (start false) = p := by
  have hnames : p.names.take (p.names.length - 0) ++ [] = p.names := by simp
  refine Path.ext rfl ?_ hnames
  by_cases hrooted : p.rooted = true
  · simp [follow, hrooted, p.ups_eq_zero hrooted]
  · simp [follow, hrooted, start]

theorem rooted_move (p : Path) (m : Move) : (p.move m).rooted = p.rooted := by
  cases m with
  | down n => rfl
  | up =>
    rw [move]
    split_ifs <;> rfl

/-- One more move after following. -/
theorem follow_move (p : Path) {r : Path} (hr : r.rooted = false) (m : Move) :
    p.follow (r.move m) = (p.follow r).move m := by
  cases m with
  | down n => exact Path.ext rfl rfl (List.append_assoc ..).symm
  | up =>
    by_cases hnil : r.names = []
    · -- The path goes on climbing : by a name of `p`, if there is one left.
      have hmove : r.move .up = ⟨false, r.ups + 1, [], fun h => by cases h⟩ := by
        refine Path.ext ?_ ?_ ?_ <;> simp [move, hnil, hr]
      have hnames : (p.follow r).names = p.names.take (p.names.length - r.ups) := by
        simp [follow, hnil]
      rw [hmove]
      by_cases hleft : p.names.length ≤ r.ups
      · have hempty : (p.follow r).names = [] := by
          rw [hnames, Nat.sub_eq_zero_of_le hleft, List.take_zero]
        have hzero : p.names.length - (r.ups + 1) = 0 := by omega
        by_cases hrooted : p.rooted = true
        · refine Path.ext ?_ ?_ ?_ <;> simp [follow, move, hnil, hrooted, hzero, hleft]
        · have hups : r.ups + 1 - p.names.length = r.ups - p.names.length + 1 := by omega
          refine Path.ext ?_ ?_ ?_ <;>
            simp [follow, move, hnil, hrooted, hzero, hleft, hups, Nat.add_assoc]
      · have hne : (p.follow r).names ≠ [] := by
          rw [hnames]
          intro h
          have hlength := congrArg List.length h
          simp only [List.length_take, List.length_nil] at hlength
          omega
        have hstep : (p.follow r).move .up =
            { p.follow r with names := (p.follow r).names.dropLast } := if_neg hne
        have htake : (p.names.take (p.names.length - r.ups)).dropLast =
            p.names.take (p.names.length - (r.ups + 1)) := by
          rw [List.dropLast_eq_take, List.take_take, List.length_take]
          congr 1
          omega
        rw [hstep]
        refine Path.ext rfl ?_ ?_
        · have h₁ : r.ups + 1 - p.names.length = 0 := by omega
          have h₂ : r.ups - p.names.length = 0 := by omega
          simp [follow, h₁, h₂]
        · simp only [hnames, htake]
          simp [follow]
    · have hmove : r.move .up = { r with names := r.names.dropLast } := if_neg hnil
      have hne : (p.follow r).names ≠ [] := by
        simp [follow, hnil]
      have hstep : (p.follow r).move .up =
          { p.follow r with names := (p.follow r).names.dropLast } := if_neg hne
      rw [hmove, hstep]
      exact Path.ext rfl rfl (List.dropLast_append_of_ne_nil hnil).symm

/-- A walk follows the walk from nowhere. -/
theorem walk_eq_follow (p : Path) (ms : List Move) :
    p.walk ms = p.follow ((start false).walk ms) := by
  have hrun : ∀ (ms : List Move) (r : Path), r.rooted = false →
      (p.follow r).walk ms = p.follow (r.walk ms) := by
    intro ms
    induction ms with
    | nil => exact fun _ _ => rfl
    | cons m ms ih =>
      intro r hr
      have hstep := ih (r.move m) ((r.rooted_move m).trans hr)
      rw [p.follow_move hr m] at hstep
      exact hstep
  have hstart := hrun ms (start false) rfl
  rwa [follow_start] at hstart

/-! ## Staying in a directory -/

/-- `q` is `p` or below it. -/
def Contains (p q : Path) : Prop :=
  q.rooted = p.rooted ∧ q.ups = p.ups ∧ p.names <+: q.names

instance (p q : Path) : Decidable (p.Contains q) := inferInstanceAs (Decidable (_ ∧ _ ∧ _))

/-- The relative path of a name. -/
def relative (name : String) : Path := (start false).walk (moves name)

/-- The name does not climb out of the directory, or goes down again by the names it climbed. -/
def StaysIn (p : Path) (name : String) : Prop :=
  p.names.drop (p.names.length - (relative name).ups) <+: (relative name).names ∧
    (p.rooted = true ∨ (relative name).ups ≤ p.names.length)

instance (p : Path) (name : String) : Decidable (p.StaysIn name) :=
  inferInstanceAs (Decidable (_ ∧ _))

/-- The joined path is inside exactly if the name stays in. -/
theorem contains_join_iff (p : Path) (name : String) :
    p.Contains (p.join name) ↔ p.StaysIn name := by
  rw [join_eq_walk, walk_eq_follow]
  have hups : (p.follow (relative name)).ups = p.ups ↔
      p.rooted = true ∨ (relative name).ups ≤ p.names.length := by
    by_cases hrooted : p.rooted = true
    · simp [follow, hrooted, p.ups_eq_zero hrooted]
    · rw [Bool.not_eq_true] at hrooted
      simp only [follow, hrooted, Bool.false_eq_true, if_false, false_or]
      omega
  have hnames : p.names <+: (p.follow (relative name)).names ↔
      p.names.drop (p.names.length - (relative name).ups) <+: (relative name).names := by
    have hsplit := List.take_append_drop (p.names.length - (relative name).ups) p.names
    constructor
    · intro h
      rw [← hsplit] at h
      exact (List.prefix_append_right_inj _).1 h
    · intro h
      have happend := (List.prefix_append_right_inj
        (p.names.take (p.names.length - (relative name).ups))).2 h
      rwa [hsplit] at happend
  exact ⟨fun h => ⟨hnames.1 h.2.2, hups.1 h.2.1⟩, fun h => ⟨rfl, hups.2 h.2, hnames.2 h.1⟩⟩

/-- A name that does not climb stays in every directory. -/
theorem staysIn_of_ups {name : String} (h : (relative name).ups = 0) (p : Path) :
    p.StaysIn name := by
  refine ⟨?_, Or.inr (by omega)⟩
  rw [h, Nat.sub_zero, List.drop_length]
  exact List.nil_prefix

/-! ## Below a directory -/

/-- The path that goes down the names, from nowhere. -/
def ofNames (ns : List Name) : Path := ⟨false, 0, ns, fun h => by cases h⟩

/-- What the names lead to, from a directory. -/
def below (p : Path) (ns : List Name) : Path := { p with names := p.names ++ ns }

/-- The directory that a path is in. -/
def parent (p : Path) : Path := { p with names := p.names.dropLast }

theorem render_ofNames_singleton (n : Name) : (ofNames [n]).render = n.1 := by
  simp [render, ofNames, components]

theorem render_ofNames_concat {ns : List Name} (hns : ns ≠ []) (n : Name) :
    (ofNames (ns ++ [n])).render = (ofNames ns).render ++ "/" ++ n.1 := by
  have hchars : (ofNames ns).components ≠ [] := fun h => hns (List.map_eq_nil_iff.1 h)
  have hconcat : (ofNames (ns ++ [n])).components = (ofNames ns).components ++ [n.1.toList] := by
    simp [ofNames, components]
  have happend : ∀ cs : List (List Char), cs ≠ [] → ∀ c : List Char,
      ['/'].intercalate (cs ++ [c]) = ['/'].intercalate cs ++ '/' :: c := by
    intro cs
    induction cs with
    | nil => exact fun h => (h rfl).elim
    | cons c' cs ih =>
      intro _ c
      by_cases hcs : cs = []
      · subst hcs
        simp
      · rw [List.cons_append, List.intercalate_cons_of_ne_nil (by simp), ih hcs,
          List.intercalate_cons_of_ne_nil hcs]
        simp
  have hrender : ∀ ns' : List Name, (ofNames ns').components ≠ [] → (ofNames ns').render =
      String.ofList (['/'].intercalate (ofNames ns').components) := by
    intro ns' h
    rw [render, if_neg (show ¬(ofNames ns').rooted = true by simp [ofNames]), if_neg h]
  apply String.toList_injective
  rw [hrender _ (by rw [hconcat]; simp), hrender _ hchars, hconcat, happend _ hchars]
  simp

/-- A name that goes down leads below the directory. -/
theorem join_render_ofNames (p : Path) (ns : List Name) :
    p.join (ofNames ns).render = p.below ns := by
  rw [join_eq_walk, moves_render]
  exact walk_downs p ns

theorem below_injective (p : Path) : Function.Injective p.below := by
  intro ns ns' h
  exact List.append_cancel_left (congrArg Path.names h)

theorem parent_below (p : Path) {ns : List Name} (hns : ns ≠ []) :
    (p.below ns).parent = p.below ns.dropLast :=
  Path.ext rfl rfl (List.dropLast_append_of_ne_nil hns)

@[simp] theorem below_nil (p : Path) : p.below [] = p :=
  Path.ext rfl rfl (List.append_nil _)

end Path

end Lib
