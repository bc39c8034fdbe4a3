import Stratos.Lib.Table

/-!
# Servers that take clients in turn

Servers are called one after the other, and each takes one of the clients that are left and that
it fits, whichever it sees first. `Serves` says, without the order in which clients are seen, what
every server can end up with when no client is left : each client has a server that fits it, and
a server has no client only if it fits none of those that are served after it.

`serves_idle_iff` and `serves_busy_iff` are the turns of the first server, and
`RowOrder.exists_find?` is the order in which a server sees a given client first.
-/

namespace Lib

namespace RowOrder

variable {α : Type}

open Classical in
/-- The order that has `a` first. -/
noncomputable def startingWith (a : α) : RowOrder α where
  scan rows := if a ∈ rows then a :: rows.erase a else rows
  perm rows := by
    split_ifs with h
    · exact (List.perm_cons_erase h).symm
    · exact List.Perm.refl rows

theorem find?_startingWith {a : α} {rows : List α} {p : α → Bool} (h : a ∈ rows) (hp : p a) :
    ((startingWith a).scan rows).find? p = some a := by
  rw [startingWith]
  dsimp only
  rw [if_pos h, List.find?_cons_of_pos hp]

theorem find?_scan_eq_none {o : RowOrder α} {rows : List α} {p : α → Bool} :
    (o.scan rows).find? p = none ↔ ∀ a ∈ rows, p a = false := by
  simp only [List.find?_eq_none, (o.perm rows).mem_iff, Bool.not_eq_true]

end RowOrder

section Serving

variable {S C : Type} (fits : S → C → Bool)

/-- Every client has a server of its own that fits it. -/
structure Serves (servers : List S) (clients : List C) (served : List (S × Option C)) : Prop where
  servers_eq : served.map Prod.fst = servers
  clients_perm : (served.filterMap Prod.snd).Perm clients
  each_fits : ∀ x ∈ served, ∀ c ∈ x.2, fits x.1 c
  /-- A server without a client fits none of the later ones. -/
  idle : served.Pairwise fun x y => x.2 = none → ∀ c ∈ y.2, fits x.1 c = false

variable {fits} {s : S} {servers : List S} {c : C} {clients clients' : List C}
  {served : List (S × Option C)}

theorem serves_nil_iff : Serves fits [] clients served ↔ clients = [] ∧ served = [] := by
  constructor
  · rintro ⟨hservers, hclients, -, -⟩
    obtain rfl : served = [] := List.map_eq_nil_iff.1 hservers
    exact ⟨hclients.nil_eq.symm, rfl⟩
  · rintro ⟨rfl, rfl⟩
    exact ⟨rfl, List.Perm.refl [], nofun, List.Pairwise.nil⟩

/-- The first server takes no client, and fits none. -/
theorem serves_idle_iff : Serves fits (s :: servers) clients ((s, none) :: served) ↔
    (∀ c ∈ clients, fits s c = false) ∧ Serves fits servers clients served := by
  constructor
  · rintro ⟨hservers, hclients, hfits, hidle⟩
    obtain ⟨hfirst, hidle⟩ := List.pairwise_cons.1 hidle
    refine ⟨fun c hc => ?_, (List.cons.inj hservers).2, hclients,
      (List.forall_mem_cons.1 hfits).2, hidle⟩
    have hclients : (served.filterMap Prod.snd).Perm clients := hclients
    obtain ⟨x, hx, hxc⟩ := List.mem_filterMap.1 (hclients.mem_iff.2 hc)
    exact hfirst x hx rfl c hxc
  · rintro ⟨hfirst, hservers, hclients, hfits, hidle⟩
    refine ⟨congrArg (s :: ·) hservers, hclients, List.forall_mem_cons.2 ⟨nofun, hfits⟩,
      List.pairwise_cons.2 ⟨fun x hx _ c hc => hfirst c ?_, hidle⟩⟩
    exact hclients.mem_iff.1 (List.mem_filterMap.2 ⟨x, hx, hc⟩)

/-- The first server takes a client that it fits, and the others serve the rest. -/
theorem serves_busy_iff (hclients : clients.Perm (c :: clients')) :
    Serves fits (s :: servers) clients ((s, some c) :: served) ↔
      fits s c ∧ Serves fits servers clients' served := by
  constructor
  · rintro ⟨hservers, hperm, hfits, hidle⟩
    obtain ⟨hfirst, hfits⟩ := List.forall_mem_cons.1 hfits
    exact ⟨hfirst c rfl, (List.cons.inj hservers).2, (hperm.trans hclients).cons_inv, hfits,
      (List.pairwise_cons.1 hidle).2⟩
  · rintro ⟨hfirst, hservers, hperm, hfits, hidle⟩
    refine ⟨congrArg (s :: ·) hservers, (hperm.cons c).trans hclients.symm,
      List.forall_mem_cons.2 ⟨?_, hfits⟩, List.pairwise_cons.2 ⟨nofun, hidle⟩⟩
    rintro _ ⟨rfl⟩
    exact hfirst

end Serving

end Lib
