import Mathlib.Logic.Function.Basic
import Stratos.Frontend.CurrentUserRoles

/-!
# The two views of a role

A user's role in an organisation or a space is stored twice : the user lists the guid of the
entity (`userReducer`), and the entity lists the guid of the user (`userSpaceOrgReducer`).
Both reducers handle a successful change of a role.

The entity's side tests `!exists` where it removes, so that a removal does nothing to a list
that holds the user and takes the last user from one that does not (`changeRoles`). The
user's side adds without a test. `rolesAgree_of_run` says that the two views agree after
every sequence of changes that adds only what the user does not list and removes only where
the entity has no list or an empty one, and `safe_of_changeIsSound` that no other change is
harmless.
-/

open Lib

namespace Stratos

/-! ## The two slices -/

/-- The collections of a user. -/
inductive CfUserRoleParams
  | organizations
  | managedOrgs
  | billingManagerOrgs
  | auditedOrgs
  | spaces
  | managedSpaces
  | auditedSpaces
  deriving DecidableEq

/-- `properties[isSpace ? 'space' : 'org'][permissionType]`. -/
def properties (isSpace : Bool) (permissionType : UserRoleNames) : Option CfUserRoleParams :=
  match isSpace, permissionType with
  | false, .managers => some .managedOrgs
  | false, .billingManagers => some .billingManagerOrgs
  | false, .auditors => some .auditedOrgs
  | false, .users => some .organizations
  | true, .managers => some .managedSpaces
  | true, .auditors => some .auditedSpaces
  | true, .developers => some .spaces
  | _, _ => none

/-- The collections of a `CfUser`. -/
structure CfUser where
  roles : CfUserRoleParams → Option (List String)

/-- The role lists of an `IOrganization` or an `ISpace`. -/
structure StateEntity where
  roles : UserRoleNames → Option (List String)

/-- The users, organisations and spaces of the request data. -/
structure RoleStore where
  users : JsObject CfUser
  organizations : JsObject StateEntity
  spaces : JsObject StateEntity

/-- The change of a role with the user it is about. -/
structure UserRoleChange extends ChangeUserRole where
  userGuid : String

/-! ## The reducers -/

/-- Throws when the user has no such collection. -/
def updatePermission (user : CfUser) (entityGuid : String) (isSpace : Bool)
    (permissionType : UserRoleNames) (add : Bool) : Option CfUser := do
  let paramName ← properties isSpace permissionType
  let collection ← user.roles paramName
  let newCollection := if add then collection ++ [entityGuid]
    else collection.filter (· ≠ entityGuid)
  return { user with roles := Function.update user.roles paramName (some newCollection) }

/-- Throws when the user is not in the store. -/
def userReducer (state : JsObject CfUser) (isAdd : Bool) (action : UserRoleChange) :
    Option (JsObject CfUser) := do
  let user ← state.get? action.userGuid
  let user ← updatePermission user action.entityGuid action.isSpace action.permissionTypeKey isAdd
  return state.set action.userGuid user

/-- `list.splice(start, 1)`, for a start that may be negative. -/
def splice (l : List String) (start : ℤ) : List String :=
  l.eraseIdx (if start < 0 then (l.length + start).toNat else start.toNat)

/-- `list.findIndex(guid => guid === x)`. -/
def findIndex (l : List String) (x : String) : ℤ :=
  match l.findIdx? (· = x) with
  | some i => i
  | none => -1

/-- The role list after a change, `none` when it stays. -/
def changeRoles (roles : List String) (userGuid : String) (add : Bool) : Option (List String) :=
  let index := findIndex roles userGuid
  let isThere := index ≥ 0
  if add ∧ ¬isThere then
    -- Add the user to the role as it doesn't exist already
    some (roles ++ [userGuid])
  else if ¬add ∧ ¬isThere then
    -- Remove the user from the role... but only if it exists already
    some (splice roles index)
  else none

/-- The entities, where the user is added to the role of one or removed from it. -/
def newEntityState (state : JsObject StateEntity) (action : UserRoleChange) (add : Bool) :
    JsObject StateEntity :=
  match state.get? action.entityGuid with
  | none => state
  | some apiResource =>
    -- No roles in entity, we can't modify them if they don't exist
    match apiResource.roles action.permissionTypeKey with
    | none => state
    | some roles =>
      match changeRoles roles action.userGuid add with
      | none => state
      | some roles => state.set action.entityGuid
          { apiResource with
            roles := Function.update apiResource.roles action.permissionTypeKey (some roles) }

/-- The organisations or the spaces after a change of a role. -/
def userSpaceOrgReducer (isSpace : Bool) (state : JsObject StateEntity) (isAdd : Bool)
    (action : UserRoleChange) : JsObject StateEntity :=
  if isSpace = action.isSpace then newEntityState state action isAdd else state

/-- The store after a successful `ADD_ROLE` or `REMOVE_ROLE`. -/
def changeRole (state : RoleStore) (isAdd : Bool) (action : UserRoleChange) :
    Option RoleStore := do
  let users ← userReducer state.users isAdd action
  return {
    users := users
    organizations := userSpaceOrgReducer false state.organizations isAdd action
    spaces := userSpaceOrgReducer true state.spaces isAdd action }

/-- The store after a sequence of changes, each an `ADD_ROLE` if its flag is set. -/
def changeAll : List (Bool × UserRoleChange) → RoleStore → Option RoleStore
  | [], state => some state
  | (isAdd, action) :: changes, state => do
    let state ← changeRole state isAdd action
    changeAll changes state

/-! ## The two views -/

namespace RoleStore

variable (s : RoleStore)

/-- The organisations or the spaces. -/
def slice (isSpace : Bool) : JsObject StateEntity := if isSpace then s.spaces else s.organizations

/-- The guids the user lists in a collection, if it is loaded. -/
def collection (u : String) (p : CfUserRoleParams) : Option (List String) :=
  (s.users.get? u).bind (·.roles p)

/-- The users an organisation or a space lists in a role, if it is loaded. -/
def roleList (isSpace : Bool) (x : String) (role : UserRoleNames) : Option (List String) :=
  ((s.slice isSpace).get? x).bind (·.roles role)

/-- Each loaded user lists each loaded entity exactly when the entity lists the user. -/
def Agree : Prop :=
  ∀ isSpace role p, properties isSpace role = some p → ∀ x l, s.roleList isSpace x role = some l →
    ∀ u c, s.collection u p = some c → (u ∈ l ↔ x ∈ c)

/-- No list holds a guid twice. -/
structure NoDuplicates : Prop where
  list : ∀ isSpace x role l, s.roleList isSpace x role = some l → l.Nodup
  collection : ∀ u p c, s.collection u p = some c → c.Nodup

end RoleStore

/-- A user, an organisation or a space, and a role. -/
structure Membership where
  user : String
  isSpace : Bool
  entity : String
  role : UserRoleNames
  deriving DecidableEq

/-- The membership that a change is about. -/
def UserRoleChange.membership (a : UserRoleChange) : Membership :=
  ⟨a.userGuid, a.isSpace, a.entityGuid, a.permissionTypeKey⟩

namespace RoleStore

variable (s : RoleStore) (t : Membership)

/-- The user lists the entity. -/
def UserLists : Prop :=
  ∃ p c, properties t.isSpace t.role = some p ∧ s.collection t.user p = some c ∧ t.entity ∈ c

/-- The entity lists the user. -/
def EntityLists : Prop := ∃ l, s.roleList t.isSpace t.entity t.role = some l ∧ t.user ∈ l

/-- Both sides that are loaded say `b`. -/
def SaysLast (b : Bool) : Prop :=
  (s.UserLists t ↔ b = true) ∧
    ((s.roleList t.isSpace t.entity t.role).isSome → (s.EntityLists t ↔ b = true))

/-- Both sides say the same as in another store. -/
def SaysSame (s' : RoleStore) : Prop :=
  (s'.UserLists t ↔ s.UserLists t) ∧ (s'.EntityLists t ↔ s.EntityLists t)

end RoleStore

/-- The flag of the last change of the membership. -/
def lastChange (t : Membership) : List (Bool × UserRoleChange) → Option Bool
  | [] => none
  | (isAdd, action) :: changes =>
    (lastChange t changes).or (if action.membership = t then some isAdd else none)

/-- The membership after a sequence of changes : what the last change of it says, or what it
was. -/
def Follows (changes : List (Bool × UserRoleChange)) (s s' : RoleStore) (t : Membership) : Prop :=
  match lastChange t changes with
  | some b => s'.SaysLast t b
  | none => s.SaysSame t s'

/-- The user has the collection ; an added entity is not in it ; a user is removed only from
an entity without a role list or with an empty one. -/
def ChangeIsSafe (s : RoleStore) (isAdd : Bool) (a : UserRoleChange) : Prop :=
  ∃ p c, properties a.isSpace a.permissionTypeKey = some p ∧ s.collection a.userGuid p = some c ∧
    (isAdd = true → a.entityGuid ∉ c) ∧
    (isAdd = false → ∀ l, s.roleList a.isSpace a.entityGuid a.permissionTypeKey = some l → l = [])

/-- Every change of the sequence is safe when it happens. -/
def ChangesAreSafe : List (Bool × UserRoleChange) → RoleStore → Prop
  | [], _ => True
  | (isAdd, action) :: changes, s => ChangeIsSafe s isAdd action ∧
    ∀ s', changeRole s isAdd action = some s' → ChangesAreSafe changes s'

/-! ## What a change does to the views -/

section Views

variable {s s' : RoleStore} {isAdd : Bool} {a : UserRoleChange}

theorem findIndex_nonneg_iff {l : List String} {x : String} : findIndex l x ≥ 0 ↔ x ∈ l := by
  unfold findIndex
  cases h : l.findIdx? (· = x) with
  | none =>
    have hnot := List.findIdx?_eq_none_iff.1 h
    refine iff_of_false (by decide) fun hx => ?_
    simpa using hnot x hx
  | some i =>
    obtain ⟨hi, hx, -⟩ := List.findIdx?_eq_some_iff_getElem.1 h
    refine iff_of_true (Int.natCast_nonneg i) ?_
    rw [← of_decide_eq_true hx]
    exact List.getElem_mem hi

theorem findIndex_of_not_mem {l : List String} {x : String} (h : x ∉ l) : findIndex l x = -1 := by
  unfold findIndex
  rw [List.findIdx?_eq_none_iff.2 fun y hy => by simpa using fun heq : y = x => h (heq ▸ hy)]

/-- Spliced at -1, a list loses its last element. -/
theorem splice_neg_one (l : List String) : splice l (-1) = l.dropLast := by
  rcases List.eq_nil_or_concat l with rfl | ⟨l, x, rfl⟩
  · rfl
  · simp [splice, List.eraseIdx_append_of_length_le]

/-- The role list after a change : a removal takes the last user from a list that does not
hold the user. -/
theorem changeRoles_getD (l : List String) (u : String) (isAdd : Bool) :
    (changeRoles l u isAdd).getD l =
      if u ∈ l then l else if isAdd then l ++ [u] else l.dropLast := by
  unfold changeRoles
  simp only [findIndex_nonneg_iff]
  by_cases hu : u ∈ l
  · simp [hu]
  · cases isAdd <;> simp [hu, findIndex_of_not_mem, splice_neg_one]

/-- What a change does to the users' collections. -/
theorem collection_changeRole (h : changeRole s isAdd a = some s') :
    ∃ p c, properties a.isSpace a.permissionTypeKey = some p ∧
      s.collection a.userGuid p = some c ∧
      ∀ u q, s'.collection u q = if u = a.userGuid ∧ q = p then
        some (if isAdd then c ++ [a.entityGuid] else c.filter (· ≠ a.entityGuid))
        else s.collection u q := by
  obtain ⟨users, husers, h⟩ := Option.bind_eq_some_iff.1 h
  obtain rfl := Option.some.inj h
  obtain ⟨user, huser, husers⟩ := Option.bind_eq_some_iff.1 husers
  obtain ⟨user', huser', husers⟩ := Option.bind_eq_some_iff.1 husers
  obtain rfl := Option.some.inj husers
  obtain ⟨p, hp, huser'⟩ := Option.bind_eq_some_iff.1 huser'
  obtain ⟨c, hc, huser'⟩ := Option.bind_eq_some_iff.1 huser'
  obtain rfl := Option.some.inj huser'
  refine ⟨p, c, hp, by simp [RoleStore.collection, huser, hc], fun u q => ?_⟩
  simp only [RoleStore.collection, JsObject.get?_set]
  by_cases hu : u = a.userGuid
  · subst hu
    by_cases hq : q = p
    · simp [hq]
    · simp [hq, huser]
  · simp [hu]

/-- A change succeeds when the user has the collection. -/
theorem exists_changeRole (isAdd : Bool) {p : CfUserRoleParams} {c : List String}
    (hp : properties a.isSpace a.permissionTypeKey = some p)
    (hc : s.collection a.userGuid p = some c) : ∃ s', changeRole s isAdd a = some s' := by
  obtain ⟨user, huser, hc⟩ := Option.bind_eq_some_iff.1 hc
  simp [changeRole, userReducer, updatePermission, huser, hp, hc]

/-- The lists of a slice after `newEntityState`. -/
theorem get?_newEntityState (state : JsObject StateEntity) (x : String) (role : UserRoleNames) :
    ((newEntityState state a isAdd).get? x).bind (·.roles role) =
      if x = a.entityGuid ∧ role = a.permissionTypeKey then
        ((state.get? x).bind (·.roles role)).map fun l =>
          (changeRoles l a.userGuid isAdd).getD l
      else (state.get? x).bind (·.roles role) := by
  unfold newEntityState
  cases hres : state.get? a.entityGuid with
  | none =>
    by_cases hx : x = a.entityGuid
    · subst hx
      simp [hres]
    · simp [hx]
  | some res =>
    cases hroles : res.roles a.permissionTypeKey with
    | none =>
      by_cases hx : x = a.entityGuid
      · subst hx
        by_cases hr : role = a.permissionTypeKey
        · simp [hres, hr, hroles]
        · simp [hres, hr, hroles]
      · simp [hx, hroles]
    | some roles =>
      simp only [hroles]
      cases hchange : changeRoles roles a.userGuid isAdd with
      | none =>
        by_cases hx : x = a.entityGuid ∧ role = a.permissionTypeKey
        · obtain ⟨rfl, rfl⟩ := hx
          simp [hres, hroles, hchange]
        · rw [if_neg hx]
      | some roles' =>
        simp only [JsObject.get?_set]
        by_cases hx : x = a.entityGuid
        · subst hx
          by_cases hr : role = a.permissionTypeKey
          · subst hr
            simp [hres, hroles, hchange]
          · simp [hres, hr]
        · simp [hx]

/-- What a change does to the lists of the organisations and spaces. -/
theorem roleList_changeRole (h : changeRole s isAdd a = some s') (isSpace : Bool) (x : String)
    (role : UserRoleNames) :
    s'.roleList isSpace x role =
      if isSpace = a.isSpace ∧ x = a.entityGuid ∧ role = a.permissionTypeKey then
        (s.roleList isSpace x role).map fun l => (changeRoles l a.userGuid isAdd).getD l
      else s.roleList isSpace x role := by
  obtain ⟨users, -, h⟩ := Option.bind_eq_some_iff.1 h
  obtain rfl := Option.some.inj h
  have hslice : ∀ b, RoleStore.slice ⟨users, userSpaceOrgReducer false s.organizations isAdd a,
      userSpaceOrgReducer true s.spaces isAdd a⟩ b =
      userSpaceOrgReducer b (s.slice b) isAdd a := fun b => by cases b <;> rfl
  rw [RoleStore.roleList, hslice, userSpaceOrgReducer]
  by_cases hb : isSpace = a.isSpace
  · simp only [hb, if_true, true_and, get?_newEntityState, RoleStore.roleList]
  · rw [if_neg hb, if_neg fun h => hb h.1, RoleStore.roleList]

/-- One change is sound : it does not throw, the views agree afterwards without duplicates,
its membership is what it says and every other is what it was. -/
def ChangeIsSound (s : RoleStore) (isAdd : Bool) (a : UserRoleChange) : Prop :=
  ∃ s', changeRole s isAdd a = some s' ∧ s'.Agree ∧ s'.NoDuplicates ∧
    ∀ t, if a.membership = t then s'.SaysLast t isAdd else s.SaysSame t s'

/-- A role has one collection of the user. -/
theorem properties_inj {isSpace isSpace' : Bool} {role role' : UserRoleNames}
    {p : CfUserRoleParams} (h : properties isSpace role = some p)
    (h' : properties isSpace' role' = some p) : isSpace = isSpace' ∧ role = role' := by
  rw [← h'] at h
  cases isSpace <;> cases isSpace' <;> cases role <;> cases role' <;>
    first | exact ⟨rfl, rfl⟩ | exact absurd h (by decide) | cases h'

end Views

/-! ## Safe changes -/

section Sound

variable {s s' : RoleStore} {isAdd : Bool} {a : UserRoleChange}

/-- What a safe change does to the list of its entity : it appends the user, or nothing. -/
theorem ChangeIsSafe.roleList (h : ChangeIsSafe s isAdd a) (hagree : s.Agree)
    (hstep : changeRole s isAdd a = some s') (isSpace : Bool) (x : String) (role : UserRoleNames) :
    s'.roleList isSpace x role =
      if isAdd ∧ isSpace = a.isSpace ∧ x = a.entityGuid ∧ role = a.permissionTypeKey then
        (s.roleList isSpace x role).map (· ++ [a.userGuid])
      else s.roleList isSpace x role := by
  rw [roleList_changeRole hstep]
  by_cases hx : isSpace = a.isSpace ∧ x = a.entityGuid ∧ role = a.permissionTypeKey
  · obtain ⟨p, c, hp, hc, hadd, hrem⟩ := h
    obtain ⟨rfl, rfl, rfl⟩ := hx
    simp only [and_self, and_true, if_true, changeRoles_getD]
    cases hl : s.roleList a.isSpace a.entityGuid a.permissionTypeKey with
    | none => cases isAdd <;> rfl
    | some l =>
      have hmem := hagree _ _ p hp _ l hl _ c hc
      cases isAdd with
      | true =>
        have hnot : a.userGuid ∉ l := fun h => hadd rfl (hmem.1 h)
        simp [hnot]
      | false =>
        have hnil : l = [] := hrem rfl l hl
        simp [hnil]
  · rw [if_neg hx, if_neg fun h => hx h.2]

/-- A safe change is sound. -/
theorem ChangeIsSafe.sound (h : ChangeIsSafe s isAdd a) (hagree : s.Agree)
    (hnodup : s.NoDuplicates) : ChangeIsSound s isAdd a := by
  obtain ⟨p, c, hp, hc, hadd, hrem⟩ := id h
  obtain ⟨s', hstep⟩ := exists_changeRole isAdd hp hc
  obtain ⟨p', c', hp', hc', hcoll⟩ := collection_changeRole hstep
  obtain rfl : p = p' := Option.some.inj (hp.symm.trans hp')
  obtain rfl : c = c' := Option.some.inj (hc.symm.trans hc')
  have hlist := h.roleList hagree hstep
  refine ⟨s', hstep, ?_, ⟨?_, ?_⟩, fun t => ?_⟩
  · -- The two views agree
    intro isSpace role q hq x l hl u d hd
    rw [hlist] at hl
    rw [hcoll] at hd
    by_cases hu : u = a.userGuid ∧ q = p
    · obtain ⟨rfl, rfl⟩ := hu
      obtain ⟨rfl, rfl⟩ := properties_inj hq hp
      rw [if_pos ⟨rfl, rfl⟩] at hd
      obtain rfl := Option.some.inj hd
      by_cases hx : x = a.entityGuid
      · subst hx
        cases isAdd with
        | true =>
          simp only [and_self, if_true, Option.map_eq_some_iff] at hl
          obtain ⟨l₀, -, rfl⟩ := hl
          simp
        | false =>
          simp only [Bool.false_eq_true, false_and, if_false] at hl
          obtain rfl : l = [] := hrem rfl l hl
          simp
      · rw [if_neg fun h => hx h.2.2.1] at hl
        rw [hagree _ _ q hp x l hl _ c hc]
        cases isAdd <;> simp [hx]
    · rw [if_neg hu] at hd
      split_ifs at hl with hx
      · obtain ⟨l₀, hl₀, rfl⟩ := Option.map_eq_some_iff.1 hl
        obtain ⟨-, rfl, rfl, rfl⟩ := hx
        obtain rfl : q = p := Option.some.inj (hq.symm.trans hp)
        have hne : u ≠ a.userGuid := fun h => hu ⟨h, rfl⟩
        rw [← hagree _ _ q hq _ l₀ hl₀ u d hd]
        simp [hne]
      · exact hagree _ _ q hq x l hl u d hd
  · -- No list holds a guid twice
    intro isSpace x role l hl
    rw [hlist] at hl
    split_ifs at hl with hx
    · obtain ⟨l₀, hl₀, rfl⟩ := Option.map_eq_some_iff.1 hl
      obtain ⟨rfl, rfl, rfl, rfl⟩ := hx
      have hnot : a.userGuid ∉ l₀ := fun h => hadd rfl ((hagree _ _ p hp _ l₀ hl₀ _ c hc).1 h)
      exact (hnodup.list _ _ _ l₀ hl₀).append (List.nodup_singleton _) (by simpa using hnot)
    · exact hnodup.list _ _ _ l hl
  · intro u q d hd
    rw [hcoll] at hd
    by_cases hu : u = a.userGuid ∧ q = p
    · rw [if_pos hu] at hd
      obtain rfl := Option.some.inj hd
      have hc₀ := hnodup.collection _ _ c hc
      cases isAdd with
      | true =>
        have hnot : a.entityGuid ∉ c := hadd rfl
        exact hc₀.append (List.nodup_singleton _) (by simpa using hnot)
      | false => exact hc₀.filter _
    · rw [if_neg hu] at hd
      exact hnodup.collection _ _ d hd
  · split_ifs with ht
    · -- The membership of the change
      subst ht
      have hmine : s'.collection a.userGuid p =
          some (if isAdd then c ++ [a.entityGuid] else c.filter (· ≠ a.entityGuid)) := by
        rw [hcoll, if_pos ⟨rfl, rfl⟩]
      refine ⟨⟨?_, fun hadd => ⟨p, _, hp, hmine, by simp [hadd, UserRoleChange.membership]⟩⟩,
        fun hloaded => ?_⟩
      · rintro ⟨q, d, hq, hd, hmem⟩
        obtain rfl : p = q := Option.some.inj (hp.symm.trans hq)
        obtain rfl := Option.some.inj (hmine.symm.trans hd)
        cases isAdd with
        | true => rfl
        | false => simp [UserRoleChange.membership] at hmem
      · obtain ⟨l, hl⟩ := Option.isSome_iff_exists.1 hloaded
        have hl' := hl
        rw [hlist] at hl'
        cases isAdd with
        | true =>
          refine iff_of_true ⟨l, hl, ?_⟩ rfl
          simp only [UserRoleChange.membership, and_self, if_true,
            Option.map_eq_some_iff] at hl'
          obtain ⟨l₀, -, rfl⟩ := hl'
          simp [UserRoleChange.membership]
        | false =>
          simp only [Bool.false_eq_true, false_and, if_false] at hl'
          obtain rfl : l = [] := hrem rfl l hl'
          refine iff_of_false ?_ (by decide)
          rintro ⟨l, hl'', hmem⟩
          rw [hl] at hl''
          cases hl''
          cases hmem
    · -- Another membership
      have huser : ∀ q, properties t.isSpace t.role = some q →
          ((∃ d, s'.collection t.user q = some d ∧ t.entity ∈ d) ↔
            ∃ d, s.collection t.user q = some d ∧ t.entity ∈ d) := by
        intro q hq
        rw [hcoll]
        by_cases hu : t.user = a.userGuid ∧ q = p
        · obtain ⟨hu, rfl⟩ := hu
          obtain ⟨hb, hr⟩ := properties_inj hp hq
          have hne : t.entity ≠ a.entityGuid := fun hx =>
            ht (by rw [UserRoleChange.membership, ← hu, ← hx, hb, hr])
          rw [if_pos ⟨hu, rfl⟩, hu, hc]
          cases isAdd <;> simp [hne]
        · rw [if_neg hu]
      have hentity : s'.EntityLists t ↔ s.EntityLists t := by
        unfold RoleStore.EntityLists
        rw [hlist]
        split_ifs with hx
        · obtain ⟨-, hb, hx, hr⟩ := hx
          have hne : t.user ≠ a.userGuid := fun hu =>
            ht (by rw [UserRoleChange.membership, ← hu, ← hx, ← hb, ← hr])
          simp [hne]
        · rfl
      refine ⟨⟨fun ⟨q, d, hq, hd⟩ => ?_, fun ⟨q, d, hq, hd⟩ => ?_⟩, hentity⟩
      · obtain ⟨d', hd'⟩ := (huser q hq).1 ⟨d, hd⟩
        exact ⟨q, d', hq, hd'⟩
      · obtain ⟨d', hd'⟩ := (huser q hq).2 ⟨d, hd⟩
        exact ⟨q, d', hq, hd'⟩

/-- No other change is sound. -/
theorem safe_of_changeIsSound (hnodup : s.NoDuplicates) (h : ChangeIsSound s isAdd a) :
    ChangeIsSafe s isAdd a := by
  obtain ⟨s', hstep, -, hnodup', hviews⟩ := h
  obtain ⟨p, c, hp, hc, hcoll⟩ := collection_changeRole hstep
  refine ⟨p, c, hp, hc, ?_, ?_⟩
  · -- Added twice, the entity is listed twice.
    rintro rfl hmem
    have hnew : s'.collection a.userGuid p = some (c ++ [a.entityGuid]) := by simp [hcoll]
    have := List.nodup_append.1 (hnodup'.collection _ _ _ hnew)
    exact this.2.2 _ hmem _ (List.mem_singleton_self _) rfl
  · rintro rfl l hl
    have hnew : s'.roleList a.isSpace a.entityGuid a.permissionTypeKey =
        some (if a.userGuid ∈ l then l else l.dropLast) := by
      simp [roleList_changeRole hstep, hl, changeRoles_getD]
    by_cases hu : a.userGuid ∈ l
    · -- The entity still lists the user.
      have hviewed := hviews a.membership
      rw [if_pos rfl] at hviewed
      rw [if_pos hu] at hnew
      have hfalse := (hviewed.2 (by simp [UserRoleChange.membership, hnew])).1 ⟨l, hnew, hu⟩
      cases hfalse
    · rw [if_neg hu] at hnew
      rcases List.eq_nil_or_concat l with rfl | ⟨l₀, v, rfl⟩
      · rfl
      · -- The last user of the list is gone.
        rw [List.concat_eq_append] at *
        have hne : a.membership ≠ ⟨v, a.isSpace, a.entityGuid, a.permissionTypeKey⟩ := fun heq =>
          hu (by simp [(Membership.mk.inj heq).1])
        have hviewed := hviews ⟨v, a.isSpace, a.entityGuid, a.permissionTypeKey⟩
        rw [if_neg hne] at hviewed
        obtain ⟨l', hl', hv⟩ := hviewed.2.2 ⟨_, hl, by simp⟩
        obtain rfl : (l₀ ++ [v]).dropLast = l' := Option.some.inj (hnew.symm.trans hl')
        have hnd := List.nodup_append.1 (hnodup.list _ _ _ _ hl)
        exact absurd rfl (hnd.2.2 v (by simpa using hv) v (List.mem_singleton_self _))

end Sound

/-! ## Sequences of changes -/

section Sequences

variable {s s' s₁ : RoleStore} {t : Membership}

theorem isSome_roleList_changeAll {changes : List (Bool × UserRoleChange)}
    (h : changeAll changes s = some s') (isSpace : Bool) (x : String) (role : UserRoleNames) :
    (s'.roleList isSpace x role).isSome = (s.roleList isSpace x role).isSome := by
  induction changes generalizing s with
  | nil =>
    obtain rfl : s = s' := Option.some.inj h
    rfl
  | cons change changes ih =>
    obtain ⟨s₁, hstep, h⟩ := Option.bind_eq_some_iff.1 h
    rw [ih h, roleList_changeRole hstep]
    split_ifs <;> simp

/-- What a membership says stays said when it is not changed again. -/
theorem RoleStore.SaysLast.saysSame {b : Bool} (h : s₁.SaysLast t b) (hsame : s₁.SaysSame t s')
    (hloaded : (s'.roleList t.isSpace t.entity t.role).isSome =
      (s₁.roleList t.isSpace t.entity t.role).isSome) : s'.SaysLast t b :=
  ⟨hsame.1.trans h.1, fun hl => hsame.2.trans (h.2 (hloaded ▸ hl))⟩

/-- After every sequence of safe changes the two views agree without duplicates, each
membership is what its last change says, and those that were not changed are as they were. -/
theorem rolesAgree_of_run (changes : List (Bool × UserRoleChange)) {s : RoleStore}
    (hagree : s.Agree) (hnodup : s.NoDuplicates) (hsafe : ChangesAreSafe changes s) :
    ∃ s', changeAll changes s = some s' ∧ s'.Agree ∧ s'.NoDuplicates ∧
      ∀ t, Follows changes s s' t := by
  induction changes generalizing s with
  | nil => exact ⟨s, rfl, hagree, hnodup, fun t => ⟨Iff.rfl, Iff.rfl⟩⟩
  | cons change changes ih =>
    obtain ⟨isAdd, a⟩ := change
    obtain ⟨s₁, hstep, hagree₁, hnodup₁, hviews⟩ := hsafe.1.sound hagree hnodup
    obtain ⟨s', hrun, hagree', hnodup', hfollows⟩ := ih hagree₁ hnodup₁ (hsafe.2 s₁ hstep)
    refine ⟨s', by rw [changeAll, hstep]; exact hrun, hagree', hnodup', fun t => ?_⟩
    have hrest := hfollows t
    have hfirst := hviews t
    unfold Follows at hrest ⊢
    rw [lastChange]
    cases hlast : lastChange t changes with
    | some b =>
      rw [hlast] at hrest
      exact hrest
    | none =>
      rw [hlast] at hrest
      simp only [Option.none_or]
      by_cases ht : a.membership = t
      · rw [if_pos ht] at hfirst ⊢
        exact hfirst.saysSame hrest (isSome_roleList_changeAll hrun _ _ _)
      · rw [if_neg ht] at hfirst ⊢
        exact ⟨hrest.1.trans hfirst.1, hrest.2.trans hfirst.2⟩

end Sequences

/-! ## A removal -/

/-- A store with one user and one organisation, each with the list of managers given. -/
def managerStore (managed managers : List String) : RoleStore where
  users := JsObject.empty.set "user" ⟨fun p => if p = .managedOrgs then some managed else none⟩
  organizations :=
    JsObject.empty.set "org" ⟨fun role => if role = .managers then some managers else none⟩
  spaces := JsObject.empty

/-- The change of the role of "user" as manager of "org". -/
def managerChange : UserRoleChange where
  endpointGuid := "cf"
  permissionTypeKey := .managers
  entityGuid := "org"
  isSpace := false
  updateConnectedUser := false
  orgGuid := none
  userGuid := "user"

theorem roleList_managerStore {managed managers l : List String} {isSpace : Bool} {x : String}
    {role : UserRoleNames} (h : (managerStore managed managers).roleList isSpace x role = some l) :
    isSpace = false ∧ x = "org" ∧ role = .managers ∧ l = managers := by
  cases isSpace with
  | true => simp [RoleStore.roleList, RoleStore.slice, managerStore] at h
  | false =>
    simp only [RoleStore.roleList, RoleStore.slice, managerStore, JsObject.get?_set,
      JsObject.get?_empty, Bool.false_eq_true, if_false] at h
    split_ifs at h with hx
    · simp only [Option.bind_some, Option.ite_none_right_eq_some, Option.some.injEq] at h
      exact ⟨rfl, hx, h.1, h.2.symm⟩
    · cases h

theorem collection_managerStore {managed managers c : List String} {u : String}
    {p : CfUserRoleParams} (h : (managerStore managed managers).collection u p = some c) :
    u = "user" ∧ p = .managedOrgs ∧ c = managed := by
  simp only [RoleStore.collection, managerStore, JsObject.get?_set, JsObject.get?_empty] at h
  split_ifs at h with hu
  · simp only [Option.bind_some, Option.ite_none_right_eq_some, Option.some.injEq] at h
    exact ⟨hu, h.1, h.2.symm⟩
  · cases h

theorem agree_managerStore {managed managers : List String}
    (h : "user" ∈ managers ↔ "org" ∈ managed) : (managerStore managed managers).Agree := by
  intro isSpace role p _ x l hl u c hc
  obtain ⟨-, rfl, -, rfl⟩ := roleList_managerStore hl
  obtain ⟨rfl, -, rfl⟩ := collection_managerStore hc
  exact h

theorem noDuplicates_managerStore {managed managers : List String} (h : managed.Nodup)
    (h' : managers.Nodup) : (managerStore managed managers).NoDuplicates := by
  refine ⟨fun isSpace x role l hl => ?_, fun u p c hc => ?_⟩
  · obtain ⟨-, -, -, rfl⟩ := roleList_managerStore hl
    exact h'
  · obtain ⟨-, -, rfl⟩ := collection_managerStore hc
    exact h

/-- After the removal of the only manager the organisation still lists the user, who does
not list the organisation. -/
theorem not_rolesAgree_remove :
    ¬∀ (changes : List (Bool × UserRoleChange)) (s : RoleStore), s.Agree → s.NoDuplicates →
      ∃ s', changeAll changes s = some s' ∧ s'.Agree ∧ s'.NoDuplicates ∧
        ∀ t, Follows changes s s' t := by
  intro h
  obtain ⟨s', hs', hagree, -⟩ := h [(false, managerChange)] (managerStore ["org"] ["user"])
    (agree_managerStore (by decide)) (noDuplicates_managerStore (by decide) (by decide))
  cases hs'
  exact absurd (hagree false .managers .managedOrgs rfl "org" ["user"] rfl "user" [] rfl)
    (by decide)

/-! ## Changes of two users -/

/-- A store with two users, an organisation that one of them manages, and a space that the other
one audits, whose lists are not loaded. -/
def sharedStore : RoleStore where
  users := (JsObject.empty.set "user" ⟨fun p => if p = .managedOrgs then some [] else
      if p = .auditedSpaces then some ["space"] else none⟩).set "admin"
    ⟨fun p => if p = .managedOrgs then some ["org"] else
      if p = .auditedSpaces then some [] else none⟩
  organizations :=
    JsObject.empty.set "org" ⟨fun role => if role = .managers then some ["admin"] else none⟩
  spaces := JsObject.empty

/-- The change of the role of a user as auditor of "space". -/
def auditorChange (userGuid : String) : UserRoleChange where
  endpointGuid := "cf"
  permissionTypeKey := .auditors
  entityGuid := "space"
  isSpace := true
  updateConnectedUser := false
  orgGuid := some "org"
  userGuid := userGuid

theorem roleList_sharedStore {l : List String} {isSpace : Bool} {x : String} {role : UserRoleNames}
    (h : sharedStore.roleList isSpace x role = some l) :
    isSpace = false ∧ x = "org" ∧ role = .managers ∧ l = ["admin"] := by
  cases isSpace with
  | true => simp [RoleStore.roleList, RoleStore.slice, sharedStore] at h
  | false =>
    simp only [RoleStore.roleList, RoleStore.slice, sharedStore, JsObject.get?_set,
      JsObject.get?_empty, Bool.false_eq_true, if_false] at h
    split_ifs at h with hx
    · simp only [Option.bind_some, Option.ite_none_right_eq_some, Option.some.injEq] at h
      exact ⟨rfl, hx, h.1, h.2.symm⟩
    · cases h

theorem collection_sharedStore {c : List String} {u : String} {p : CfUserRoleParams}
    (h : sharedStore.collection u p = some c) :
    u = "admin" ∧ p = .managedOrgs ∧ c = ["org"] ∨ u = "admin" ∧ p = .auditedSpaces ∧ c = [] ∨
      u = "user" ∧ p = .managedOrgs ∧ c = [] ∨ u = "user" ∧ p = .auditedSpaces ∧ c = ["space"] := by
  simp only [RoleStore.collection, sharedStore, JsObject.get?_set, JsObject.get?_empty] at h
  split_ifs at h with hadmin huser
  · simp only [Option.bind_some] at h
    split_ifs at h <;> simp_all
  · simp only [Option.bind_some] at h
    split_ifs at h <;> simp_all
  · cases h

theorem agree_sharedStore : sharedStore.Agree := by
  intro isSpace role p hp x l hl u c hc
  obtain ⟨rfl, rfl, rfl, rfl⟩ := roleList_sharedStore hl
  obtain rfl : CfUserRoleParams.managedOrgs = p := Option.some.inj hp
  obtain ⟨rfl, -, rfl⟩ | ⟨-, hne, -⟩ | ⟨rfl, -, rfl⟩ | ⟨-, hne, -⟩ := collection_sharedStore hc
  · decide
  · cases hne
  · decide
  · cases hne

theorem noDuplicates_sharedStore : sharedStore.NoDuplicates := by
  refine ⟨fun isSpace x role l hl => ?_, fun u p c hc => ?_⟩
  · obtain ⟨-, -, -, rfl⟩ := roleList_sharedStore hl
    decide
  · obtain ⟨-, -, rfl⟩ | ⟨-, -, rfl⟩ | ⟨-, -, rfl⟩ | ⟨-, -, rfl⟩ := collection_sharedStore hc <;>
      decide

/-- A second manager is added, and the auditor of the space is another one. -/
theorem rolesAgree_of_run_shared :
    ∃ s', changeAll [(true, managerChange), (false, auditorChange "user"),
        (true, auditorChange "admin")] sharedStore = some s' ∧ s'.Agree ∧ s'.NoDuplicates ∧
      ∀ t, Follows [(true, managerChange), (false, auditorChange "user"),
        (true, auditorChange "admin")] sharedStore s' t := by
  refine rolesAgree_of_run [(true, managerChange), (false, auditorChange "user"),
    (true, auditorChange "admin")] agree_sharedStore noDuplicates_sharedStore ?_
  refine ⟨⟨.managedOrgs, [], rfl, rfl, by decide, by decide⟩, fun s₁ h₁ => ?_⟩
  cases h₁
  refine ⟨⟨.auditedSpaces, ["space"], rfl, rfl, by decide, fun _ l hl => ?_⟩, fun s₂ h₂ => ?_⟩
  · cases hl
  cases h₂
  exact ⟨⟨.auditedSpaces, [], rfl, rfl, by decide, by decide⟩, fun _ _ => trivial⟩

end Stratos
