import Mathlib.Data.List.Induction
import Stratos.Frontend.RoleBookkeeping

/-!
# The global flags of an endpoint

A session that is verified and an endpoint that is connected write the user's scopes to the
endpoint, and set the flag of each of them (`getEndpointRoles`). No flag is ever cleared, so a
scope that is lost leaves its flag behind.

`followsScopes_iff` says for which runs the flags follow the scopes : whenever scopes are written,
those that have a flag and were recorded before are among them.
-/

open Lib

namespace Stratos

/-! ## Flags and scopes -/

/-- The flags of `IGlobalRolesState`. -/
inductive GlobalFlag
  | isAdmin
  | isReadOnlyAdmin
  | isGlobalAuditor
  | canRead
  | canWrite
  deriving DecidableEq

/-- The flag is set. -/
def GlobalFlag.isSet (roles : IGlobalRolesState) : GlobalFlag → Bool
  | isAdmin => roles.isAdmin
  | isReadOnlyAdmin => roles.isReadOnlyAdmin
  | isGlobalAuditor => roles.isGlobalAuditor
  | canRead => roles.canRead
  | canWrite => roles.canWrite

/-- The scope of `ScopeStrings` that the flag is for. `CF_READ_SCOPE` has the literal of the write
scope, so `canRead` follows that one. -/
def GlobalFlag.scope : GlobalFlag → String
  | isAdmin => cfAdminGroup
  | isReadOnlyAdmin => cfReadOnlyAdminGroup
  | isGlobalAuditor => cfAdminGlobalAuditorGroup
  | canRead => cfReadScope
  | canWrite => cfWriteScope

/-- Each flag is set when its scope is recorded. -/
def FlagsExact (roles : IGlobalRolesState) : Prop :=
  ∀ flag : GlobalFlag, flag.isSet roles = true ↔ flag.scope ∈ roles.scopes

/-- At every endpoint the flags are those of the scopes. -/
def GlobalExact (state : ICurrentUserRolesState) : Prop :=
  ∀ e cf, state.cf.get? e = some cf → FlagsExact cf.global

/-- The flags follow the scopes in every state that the actions lead to. -/
def FollowsScopes : List RolesAction → ICurrentUserRolesState → Prop
  | [], state => GlobalExact state
  | a :: actions, state => GlobalExact state ∧
    ∀ state', currentUserRolesReducer state a = some state' → FollowsScopes actions state'

/-- The scopes of the user of an endpoint. -/
def PartialEndpoint.scopes (endpoint : PartialEndpoint) : List String :=
  (endpoint.user.bind (·.scopes)).getD []

/-- The scopes that an action writes to an endpoint, one after the other. -/
def writtenScopes (e : String) : RolesAction → List (List String)
  | .sessionVerified sessionData =>
    ((sessionData.endpointsCf.getD []).filter (·.guid = e)).map (·.scopes)
  | .connectEndpointsSuccess action =>
    if action.endpointType = .web ∧ action.guid = e then
      [(action.endpoint.elim [] (·.scopes))]
    else []
  | _ => []

/-- A scope with a flag that is recorded, or written on the way, is among those that are
written last. -/
def ScopesKept (recorded : List String) (written : List (List String)) : Prop :=
  ∀ flag : GlobalFlag, (flag.scope ∈ recorded ∨ ∃ scopes ∈ written, flag.scope ∈ scopes) →
    flag.scope ∈ written.getLast?.getD recorded

/-- At no endpoint the action takes a scope away that a flag was set for. -/
def ActionKeepsScopes (state : ICurrentUserRolesState) (a : RolesAction) : Prop :=
  ∀ e, ScopesKept (rolesOf state e).global.scopes (writtenScopes e a)

/-- Every action of the run keeps the scopes that have a flag. -/
def ActionsKeepScopes : List RolesAction → ICurrentUserRolesState → Prop
  | [], _ => True
  | a :: actions, state => ∀ state', currentUserRolesReducer state a = some state' →
    ActionKeepsScopes state a ∧ ActionsKeepScopes actions state'

/-! ## What an action does to the flags -/

section Step

variable {state state' : ICurrentUserRolesState}

theorem scopes_getEndpointRoles (scopes : List String) (roles : IGlobalRolesState) :
    (getEndpointRoles scopes roles).scopes = scopes := by
  have hfold : ∀ (l : List String) (roles : IGlobalRolesState),
      (l.foldl (fun roles scope =>
        { roles with
          isAdmin := roles.isAdmin || scope = cfAdminGroup
          isReadOnlyAdmin := roles.isReadOnlyAdmin || scope = cfReadOnlyAdminGroup
          isGlobalAuditor := roles.isGlobalAuditor || scope = cfAdminGlobalAuditorGroup
          canRead := roles.canRead || scope = cfReadScope
          canWrite := roles.canWrite || scope = cfWriteScope }) roles).scopes = roles.scopes := by
    intro l
    induction l with
    | nil => exact fun _ => rfl
    | cons scope l ih => exact fun roles => ih _
  exact hfold scopes _

/-- The flags are those of before and those of the scopes. -/
theorem isSet_getEndpointRoles (scopes : List String) (roles : IGlobalRolesState)
    (flag : GlobalFlag) : flag.isSet (getEndpointRoles scopes roles) = true ↔
      flag.isSet roles = true ∨ flag.scope ∈ scopes := by
  have hfold : ∀ (l : List String) (roles : IGlobalRolesState),
      flag.isSet (l.foldl (fun roles scope =>
        { roles with
          isAdmin := roles.isAdmin || scope = cfAdminGroup
          isReadOnlyAdmin := roles.isReadOnlyAdmin || scope = cfReadOnlyAdminGroup
          isGlobalAuditor := roles.isGlobalAuditor || scope = cfAdminGlobalAuditorGroup
          canRead := roles.canRead || scope = cfReadScope
          canWrite := roles.canWrite || scope = cfWriteScope }) roles) = true ↔
        flag.isSet roles = true ∨ flag.scope ∈ l := by
    intro l
    induction l with
    | nil => simp
    | cons scope l ih =>
      intro roles
      rw [List.foldl_cons, ih, List.mem_cons, eq_comm (a := flag.scope)]
      rcases flag with _ | _ | _ | _ | _ <;>
        simp [GlobalFlag.isSet, GlobalFlag.scope, or_assoc]
  have hstart : flag.isSet { roles with scopes := scopes } = flag.isSet roles := by
    rcases flag with _ | _ | _ | _ | _ <;> rfl
  rw [getEndpointRoles, hfold, hstart]

/-- The flags after several writes. -/
def writeScopes (roles : IGlobalRolesState) (written : List (List String)) : IGlobalRolesState :=
  written.foldl (fun roles scopes => getEndpointRoles scopes roles) roles

theorem scopes_writeScopes (roles : IGlobalRolesState) (written : List (List String)) :
    (writeScopes roles written).scopes = written.getLast?.getD roles.scopes := by
  rcases List.eq_nil_or_concat written with rfl | ⟨written, scopes, rfl⟩
  · rfl
  · rw [writeScopes, List.concat_eq_append, List.foldl_append, List.getLast?_concat]
    exact scopes_getEndpointRoles _ _

theorem isSet_writeScopes (roles : IGlobalRolesState) (written : List (List String))
    (flag : GlobalFlag) : flag.isSet (writeScopes roles written) = true ↔
      flag.isSet roles = true ∨ ∃ scopes ∈ written, flag.scope ∈ scopes := by
  induction written generalizing roles with
  | nil => simp [writeScopes]
  | cons scopes written ih =>
    have hwrite := ih (getEndpointRoles scopes roles)
    rw [isSet_getEndpointRoles] at hwrite
    rw [List.exists_mem_cons_iff, ← or_assoc]
    exact hwrite

/-- Exact flags stay so exactly when the writes keep the scopes. -/
theorem flagsExact_writeScopes {roles : IGlobalRolesState} (h : FlagsExact roles)
    (written : List (List String)) :
    FlagsExact (writeScopes roles written) ↔ ScopesKept roles.scopes written := by
  refine forall_congr' fun flag => ?_
  rw [isSet_writeScopes, scopes_writeScopes, h flag]
  refine ⟨Iff.mp, fun hkept => ⟨hkept, fun hlast => ?_⟩⟩
  rcases List.eq_nil_or_concat written with rfl | ⟨written, scopes, rfl⟩
  · exact Or.inl hlast
  · rw [List.concat_eq_append, List.getLast?_concat] at hlast
    exact Or.inr ⟨scopes, by simp, hlast⟩

/-- The flags of the roles that are stored for an endpoint, or of the default. -/
def globalOf (cf : JsObject ICfRolesState) (e : String) : IGlobalRolesState :=
  ((cf.get? e).getD getDefaultEndpointRoles).global

theorem globalOf_set (cf : JsObject ICfRolesState) (e e' : String) (roles : ICfRolesState) :
    globalOf (cf.set e' roles) e = if e = e' then roles.global else globalOf cf e := by
  rw [globalOf, JsObject.get?_set]
  split_ifs <;> rfl

theorem globalOf_erase (cf : JsObject ICfRolesState) (e e' : String) :
    globalOf (cf.erase e') e =
      if e = e' then getDefaultEndpointRoles.global else globalOf cf e := by
  rw [globalOf, JsObject.get?_erase]
  split_ifs <;> rfl

theorem globalOf_of_get? {cf : JsObject ICfRolesState} {e : String} {roles : ICfRolesState}
    (h : cf.get? e = some roles) : globalOf cf e = roles.global := by
  rw [globalOf, h, Option.getD_some]

theorem propagate_global {cf? : Option ICfRolesState} {endpoint : PartialEndpoint}
    {roles : ICfRolesState} (h : propagateEndpointAdminPermissions cf? endpoint = some roles) :
    roles.global =
      getEndpointRoles endpoint.scopes (cf?.getD getDefaultEndpointRoles).global := by
  unfold propagateEndpointAdminPermissions at h
  rcases huser : endpoint.user with _ | user
  · rw [huser] at h
    obtain rfl := Option.some.inj h
    rw [PartialEndpoint.scopes, huser]
    rfl
  · rw [huser] at h
    obtain ⟨scopes, hscopes, h⟩ := Option.bind_eq_some_iff.1 h
    obtain rfl := Option.some.inj h
    rw [PartialEndpoint.scopes, huser, Option.bind_some, hscopes]
    rfl

theorem globalOf_propagate {cf cf' : JsObject ICfRolesState} {endpoints : List PartialEndpoint}
    (h : propagateEndpointsAdminPermissions cf endpoints = some cf') (e : String) :
    globalOf cf' e =
      writeScopes (globalOf cf e) ((endpoints.filter (·.guid = e)).map (·.scopes)) := by
  induction endpoints generalizing cf with
  | nil =>
    obtain rfl : cf = cf' := Option.some.inj h
    rfl
  | cons endpoint endpoints ih =>
    obtain ⟨cf₁, h₁, h⟩ := Option.bind_eq_some_iff.1 h
    obtain ⟨roles, hroles, h₁⟩ := Option.bind_eq_some_iff.1 h₁
    obtain rfl := Option.some.inj h₁
    rw [ih h, globalOf_set, List.filter_cons]
    by_cases he : endpoint.guid = e
    · subst he
      rw [if_pos rfl, propagate_global hroles]
      simp [writeScopes, globalOf]
    · rw [if_neg (Ne.symm he)]
      simp [he]

/-- The flags of an endpoint whose roles an action changes elsewhere. -/
theorem globalOf_update {cf : JsObject ICfRolesState} {e' : String} {roles roles' : ICfRolesState}
    (h : cf.get? e' = some roles) (hglobal : roles'.global = roles.global) (e : String) :
    globalOf (cf.set e' roles') e = globalOf cf e := by
  rw [globalOf_set]
  split_ifs with he
  · rw [hglobal, he, globalOf_of_get? h]
  · rfl

theorem global_roleChange {isAdd : Bool} {action : ChangeUserRole}
    (h : updateAfterRoleChange state isAdd action = some state') (e : String) :
    globalOf state'.cf e = globalOf state.cf e := by
  unfold updateAfterRoleChange at h
  split at h
  · obtain rfl : state = state' := Option.some.inj h
    rfl
  · obtain ⟨cf, hcf, h⟩ := Option.bind_eq_some_iff.1 h
    dsimp only at h
    split_ifs at h
    · obtain rfl : state = state' := Option.some.inj h
      rfl
    · obtain ⟨org, -, h⟩ := Option.bind_eq_some_iff.1 h
      obtain rfl := Option.some.inj h
      refine globalOf_update hcf ?_ e
      rfl
    · obtain rfl : state = state' := Option.some.inj h
      rfl
    · obtain rfl := Option.some.inj h
      refine globalOf_update hcf ?_ e
      rfl

theorem global_load {a : GetCurrentUserRelationsComplete} {cf cf' : ICfRolesState}
    (h : currentUserCFRolesReducer cf a = some cf') : cf'.global = cf.global := by
  unfold currentUserCFRolesReducer at h
  split_ifs at h
  · obtain ⟨organizations, -, h⟩ := Option.bind_eq_some_iff.1 h
    obtain rfl := Option.some.inj h
    rfl
  · obtain ⟨spaces, -, h⟩ := Option.bind_eq_some_iff.1 h
    obtain rfl := Option.some.inj h
    rfl
  · rw [Option.some.inj h]

theorem global_removeEndpoint (action : EndpointActionComplete) (e : String) :
    globalOf (removeEndpointRoles state action).cf e = globalOf state.cf e ∨
      globalOf (removeEndpointRoles state action).cf e = getDefaultEndpointRoles.global := by
  unfold removeEndpointRoles
  split_ifs with h
  · exact Or.inl rfl
  · rw [globalOf_erase]
    split_ifs with he
    · exact Or.inr rfl
    · exact Or.inl rfl

/-- An action writes the scopes that it brings, or resets the flags. -/
theorem globalOf_of_reducer {a : RolesAction} (h : currentUserRolesReducer state a = some state')
    (e : String) :
    globalOf state'.cf e = writeScopes (globalOf state.cf e) (writtenScopes e a) ∨
      (globalOf state'.cf e = getDefaultEndpointRoles.global ∧ writtenScopes e a = []) := by
  rcases a with action | sessionData | action | action | action | action | action | action |
    action | action | step | ⟨cfGuid, step⟩ | _
  · obtain ⟨cfs, hcfs, h⟩ := Option.bind_eq_some_iff.1 h
    obtain rfl := Option.some.inj h
    obtain ⟨endpoint, hendpoint, hcfs⟩ := Option.bind_eq_some_iff.1 hcfs
    obtain rfl := Option.some.inj hcfs
    refine Or.inl ?_
    rw [globalOf_set, global_load hendpoint]
    split_ifs with he
    · rw [he]
      rfl
    · rfl
  · obtain ⟨endpoints, hendpoints, h⟩ := Option.bind_eq_some_iff.1 h
    obtain ⟨cfRoles, hcf, h⟩ := Option.bind_eq_some_iff.1 h
    obtain rfl := Option.some.inj h
    have hcf' : (applyInternalScopes state cfRoles sessionData.user).cf = cfRoles := by
      unfold applyInternalScopes
      split <;> rfl
    refine Or.inl ?_
    rw [hcf', globalOf_propagate hcf, writtenScopes, hendpoints, Option.getD_some]
  · obtain ⟨endpoint, -, h⟩ := Option.bind_eq_some_iff.1 h
    split_ifs at h
    · obtain rfl : state = state' := Option.some.inj h
      exact Or.inl rfl
    · obtain rfl := Option.some.inj h
      rw [globalOf_set]
      split_ifs with he
      · exact Or.inr ⟨rfl, rfl⟩
      · exact Or.inl rfl
  · simp only [currentUserRolesReducer, updateNewlyConnectedEndpoint] at h
    split_ifs at h with htype
    · obtain rfl : state = state' := Option.some.inj h
      refine Or.inl ?_
      rw [writtenScopes, if_neg fun hweb => htype hweb.1]
      rfl
    · obtain ⟨endpoint, hendpoint, h⟩ := Option.bind_eq_some_iff.1 h
      obtain ⟨cfRoles, hcf, h⟩ := Option.bind_eq_some_iff.1 h
      obtain rfl := Option.some.inj h
      refine Or.inl ?_
      have hwritten : writtenScopes e (.connectEndpointsSuccess action) =
          (([⟨endpoint.user, action.guid⟩] : List PartialEndpoint).filter (·.guid = e)).map
            (·.scopes) := by
        rw [writtenScopes, hendpoint, not_not.1 htype]
        by_cases he : action.guid = e <;> simp [he, PartialEndpoint.scopes]
      rw [hwritten]
      exact globalOf_propagate hcf e
  · obtain rfl := Option.some.inj h
    exact (global_removeEndpoint action e).imp id fun hreset => ⟨hreset, rfl⟩
  · obtain rfl := Option.some.inj h
    exact (global_removeEndpoint action e).imp id fun hreset => ⟨hreset, rfl⟩
  · obtain ⟨cf, hcf, h⟩ := Option.bind_eq_some_iff.1 h
    refine Or.inl ?_
    rcases horg : cf.organizations.get? action.guid with _ | org
    · rw [horg] at h
      obtain rfl : state = state' := Option.some.inj h
      rfl
    · rw [horg] at h
      obtain rfl := Option.some.inj h
      refine globalOf_update hcf ?_ e
      rfl
  · obtain ⟨cf, hcf, h⟩ := Option.bind_eq_some_iff.1 h
    refine Or.inl ?_
    rcases hspace : cf.spaces.get? action.guid with _ | space
    · rw [hspace] at h
      obtain rfl : state = state' := Option.some.inj h
      rfl
    · rw [hspace] at h
      obtain ⟨org, -, h⟩ := Option.bind_eq_some_iff.1 h
      obtain rfl := Option.some.inj h
      refine globalOf_update hcf ?_ e
      rfl
  · exact Or.inl (global_roleChange h e)
  · exact Or.inl (global_roleChange h e)
  · obtain rfl := Option.some.inj h
    exact Or.inl rfl
  · obtain ⟨cfs, hcfs, h⟩ := Option.bind_eq_some_iff.1 h
    obtain rfl := Option.some.inj h
    obtain ⟨roles, hroles, hcfs⟩ := Option.bind_eq_some_iff.1 hcfs
    obtain rfl := Option.some.inj hcfs
    refine Or.inl (globalOf_update hroles ?_ e)
    rfl
  · obtain rfl : state = state' := Option.some.inj h
    exact Or.inl rfl

end Step

/-! ## Runs -/

theorem flagsExact_default : FlagsExact getDefaultEndpointRoles.global := by
  intro flag
  rcases flag with _ | _ | _ | _ | _ <;> simp [GlobalFlag.isSet, getDefaultEndpointRoles]

theorem globalExact_iff (state : ICurrentUserRolesState) :
    GlobalExact state ↔ ∀ e, FlagsExact (globalOf state.cf e) := by
  refine ⟨fun h e => ?_, fun h e cf hcf => ?_⟩
  · rcases hget : state.cf.get? e with _ | cf
    · rw [globalOf, hget]
      exact flagsExact_default
    · rw [globalOf_of_get? hget]
      exact h e cf hget
  · have hexact := h e
    rwa [globalOf_of_get? hcf] at hexact

/-- From exact flags an action leads to exact flags exactly when it keeps the scopes. -/
theorem globalExact_step {state state' : ICurrentUserRolesState} {a : RolesAction}
    (hexact : GlobalExact state) (h : currentUserRolesReducer state a = some state') :
    GlobalExact state' ↔ ActionKeepsScopes state a := by
  rw [globalExact_iff] at hexact ⊢
  refine forall_congr' fun e => ?_
  rcases globalOf_of_reducer h e with hglobal | ⟨hglobal, hwritten⟩
  · rw [hglobal]
    exact flagsExact_writeScopes (hexact e) _
  · rw [hglobal, hwritten]
    refine iff_of_true flagsExact_default fun flag hflag => ?_
    rcases hflag with hrecorded | ⟨scopes, hscopes, -⟩
    · exact hrecorded
    · exact absurd hscopes List.not_mem_nil

theorem followsScopes_of_exact (actions : List RolesAction) {state : ICurrentUserRolesState}
    (hexact : GlobalExact state) :
    FollowsScopes actions state ↔ ActionsKeepScopes actions state := by
  induction actions generalizing state with
  | nil => exact iff_of_true hexact trivial
  | cons a actions ih =>
    rw [FollowsScopes, ActionsKeepScopes, and_iff_right hexact]
    refine forall_congr' fun state' => forall_congr' fun h => ?_
    constructor
    · intro hfollows
      have hexact' : GlobalExact state' := by
        rcases actions with _ | ⟨b, actions⟩
        · exact hfollows
        · exact hfollows.1
      exact ⟨(globalExact_step hexact h).1 hexact', (ih hexact').1 hfollows⟩
    · rintro ⟨hkeeps, hrest⟩
      exact (ih ((globalExact_step hexact h).2 hkeeps)).2 hrest

/-- The flags follow the scopes through a run exactly when no action loses a scope. -/
theorem followsScopes_iff (actions : List RolesAction) :
    FollowsScopes actions getDefaultState ↔ ActionsKeepScopes actions getDefaultState :=
  followsScopes_of_exact actions fun e cf hcf => by
    rw [getDefaultState, JsObject.get?_empty] at hcf
    cases hcf

/-- A session in which the user of an endpoint has the scopes. -/
def sessionWith (scopes : List String) : RolesAction :=
  .sessionVerified ⟨none, some [⟨some ⟨false, some scopes⟩, "cf"⟩]⟩

/-- An administrator who is one no longer. -/
theorem not_followsScopes_revoked :
    ¬∀ actions : List RolesAction, FollowsScopes actions getDefaultState := by
  intro h
  have hrun : runRoles [sessionWith [cfAdminGroup], sessionWith []] getDefaultState =
      some { getDefaultState with
        cf := JsObject.empty.set "cf" { getDefaultEndpointRoles with
          global := { getDefaultEndpointRoles.global with isAdmin := true, scopes := [] } } } := by
    decide
  rw [runRoles, List.foldlM_cons] at hrun
  obtain ⟨first, hfirst, hrun⟩ := Option.bind_eq_some_iff.1 hrun
  rw [List.foldlM_cons] at hrun
  obtain ⟨second, hsecond, hrun⟩ := Option.bind_eq_some_iff.1 hrun
  obtain rfl := Option.some.inj hrun
  have hfollows := h [sessionWith [cfAdminGroup], sessionWith []]
  have hexact := (hfollows.2 first hfirst).2 _ hsecond
  have hflag := (hexact "cf" _ (JsObject.get?_set_self _ _ _) .isAdmin).1 rfl
  exact List.not_mem_nil hflag

end Stratos
