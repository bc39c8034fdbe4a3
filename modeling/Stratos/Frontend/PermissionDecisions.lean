import Stratos.Frontend.Permissions
import Stratos.Lib.Lists

/-!
# Permission decisions

An admin may do everything, and a user that reads only nothing. Of the others, each group of the
permissions asked for must grant one of its members, or all feature flags. Without an endpoint, the
permissions are looked for on all of them (`documentedDecision`).

Where there is an endpoint, `can` decides so from the values of its checks (`getSimpleCheck_eq`,
`getComplexPermission_eq`).
-/

open Lib

namespace Stratos

/-! ## The documented decision -/

section Documented

variable (store : PermissionStore) (args : PermissionArgs)

/-- The roles of the user on an endpoint. -/
def endpointRoles (endpointGuid : String) : ICfRolesState :=
  (getEndpointState store endpointGuid).getD getDefaultEndpointRoles

/-- The feature flags of an endpoint. -/
def endpointFlags (endpointGuid : String) : List IFeatureFlag :=
  (store.featureFlags.get? (createCFFeatureFlagPaginationKey endpointGuid)).getD []

/-- The endpoints that a decision is about. -/
def targets : List String := getEndpointGuids store args.endpointGuid

/-- They have roles and feature flags. -/
def Loaded : Prop := ∀ guid ∈ targets store args, (getEndpointState store guid).isSome ∧
  (store.featureFlags.get? (createCFFeatureFlagPaginationKey guid)).isSome

/-- The scope is one of the user's on the endpoint. -/
def hasScope (permission : PermissionValues) (endpointGuid : String) : Bool :=
  (endpointRoles store endpointGuid).global.scopes.contains permission.value

/-- A permission in the organisations and spaces of an endpoint, or in the one whose guid is
given. -/
def cfHolds (config : PermissionConfig) (endpointGuid : String) : Bool :=
  match given (actualGuid config.type args) with
  | none => (endpointRoles store endpointGuid).somePermission config.type config.permission
  | some guid =>
    if config.type = .space ∧ args.spaceGuid = some ALL_SPACES then
      (endpointRoles store endpointGuid).someSpaceOf guid config.permission
    else (endpointRoles store endpointGuid).selectPermission config.type guid config.permission

/-- A permission in organisations and spaces. If no endpoint guid is provided, the check is done
over all of the endpoints. -/
def documentedCfCheck (config : PermissionConfig) : Bool :=
  (targets store args).any (cfHolds store args config)

/-- What a permission of its own says. -/
def documentedCheck (config : PermissionConfig) : Bool :=
  match config.type with
  | .stratos => store.currentUserRoles.internal.has config.permission
  | .stratosScope => store.currentUserRoles.internal.scopes.contains config.permission.value
  | .endpointScope => (targets store args).any (hasScope store config.permission)
  | .featureFlag => (targets store args).any fun endpointGuid =>
      checkFeatureFlag (endpointFlags store endpointGuid) config.permission
  | .endpoint | .organization | .space => documentedCfCheck store args config

/-- The members of a group grant it. -/
def groupHolds (check : PermissionConfig → Bool) (configs : List PermissionConfig)
    (group : String) : Bool :=
  let members := configs.filter (getGroupType · = group)
  if group = PermissionTypes.featureFlag.value then members.all check else members.any check

/-- All groups are granted. -/
def groupsHold (check : PermissionConfig → Bool) (configs : List PermissionConfig) : Bool :=
  (configs.map getGroupType).all (groupHolds check configs)

/-- The user administers one of the endpoints that are asked about. -/
def isAdmin : Bool := (targets store args).any (endpointRoles store · |>.global.isAdmin)

/-- The user only reads at each of the endpoints that are asked about. -/
def isReadOnly : Bool :=
  !(targets store args).isEmpty &&
    (targets store args).all (endpointRoles store · |>.global.isReadOnly)

/-- Admins may, and users that read only may not. -/
def overridden (granted : Bool) : Bool :=
  if isAdmin store args then true else if isReadOnly store args then false else granted

/-- What the comments of the service promise for a configuration. -/
def documentedDecision : PermissionConfigType → Bool
  | .single config =>
    if config.type = .organization ∨ config.type = .space then
      overridden store args (documentedCheck store args config)
    else documentedCheck store args config
  | .array configs => overridden store args (groupsHold (documentedCheck store args) configs)

end Documented

/-- The types that an array combines. -/
def arrayTypes : List PermissionTypes :=
  [.organization, .space, .endpointScope, .stratosScope, .featureFlag]

/-- The configurations that there are. -/
def PermissionConfigType.Valid : PermissionConfigType → Prop
  | single config => config.type ≠ .endpoint
  | array configs => configs ≠ [] ∧ ∀ config ∈ configs, config.type ∈ arrayTypes

/-! ## What the checks say -/

section Checks

variable {store : PermissionStore} {args : PermissionArgs}

theorem combineLatest_map {α β : Type} {l : List α} (hl : l ≠ []) {f : α → Option β} {g : α → β}
    (h : ∀ a ∈ l, f a = some (g a)) : combineLatest (l.map f) = some (l.map g) := by
  have hmap : (l.map f).mapM id = l.mapM f := by
    rw [List.mapM_map]
    rfl
  have hne : (l.map f).isEmpty = false := by simpa using hl
  rw [combineLatest, hne, hmap]
  exact mapM_eq_map h

theorem reduceChecks_map {α : Type} {l : List α} (hl : l ≠ []) {f : α → Option Bool} {g : α → Bool}
    (h : ∀ a ∈ l, f a = some (g a)) (every : Bool) :
    reduceChecks (l.map f) every = some (if every then l.all g else l.any g) := by
  have hne : (l.map f).isEmpty = false := by simpa using hl
  rw [reduceChecks, hne, combineLatest_map hl h]
  rcases every <;> simp

theorem given_eq_some {guid : Option String} {g : String} (h : given guid = some g) :
    guid = some g := by
  exact (Option.filter_eq_some_iff.1 h).1

theorem targets_of_given {endpointGuid : String} (h : given args.endpointGuid = some endpointGuid) :
    targets store args = [endpointGuid] := by
  rw [targets, getEndpointGuids, h]

theorem getEndpointState_of_loaded (hloaded : Loaded store args) {guid : String}
    (hguid : guid ∈ targets store args) :
    getEndpointState store guid = some (endpointRoles store guid) := by
  obtain ⟨roles, hroles⟩ := Option.isSome_iff_exists.1 (hloaded guid hguid).1
  rw [endpointRoles, hroles, Option.getD_some]

theorem flags_of_loaded (hloaded : Loaded store args) {guid : String}
    (hguid : guid ∈ targets store args) :
    store.featureFlags.get? (createCFFeatureFlagPaginationKey guid) =
      some (endpointFlags store guid) := by
  obtain ⟨flags, hflags⟩ := Option.isSome_iff_exists.1 (hloaded guid hguid).2
  rw [endpointFlags, hflags, Option.getD_some]

variable (store args) in
/-- What `getCfCheck` says, where there are endpoints. -/
def checkedCf (config : PermissionConfig) : Bool :=
  match given args.endpointGuid, given (actualGuid config.type args) with
  | _, none => (targets store args).any fun endpointGuid =>
      (endpointRoles store endpointGuid).somePermission config.type config.permission
  | some endpointGuid, some guid =>
    if args.spaceGuid = some ALL_SPACES then
      (endpointRoles store endpointGuid).someSpaceOf guid config.permission
    else (endpointRoles store endpointGuid).selectPermission config.type guid config.permission
  | none, some _ => false

variable (store args) in
/-- What `getSimpleCheck` says, where there are endpoints. -/
def checkedValue (config : PermissionConfig) : Bool :=
  match config.type with
  | .stratos => store.currentUserRoles.internal.has config.permission
  | .stratosScope => store.currentUserRoles.internal.scopes.contains config.permission.value
  | .endpointScope => (given args.endpointGuid).any (hasScope store config.permission)
  | .featureFlag => (targets store args).any fun endpointGuid =>
      checkFeatureFlag (endpointFlags store endpointGuid) config.permission
  | .endpoint | .organization | .space => checkedCf store args config

theorem getEndpointScopesCheck_eq (hloaded : Loaded store args) (htargets : targets store args ≠ [])
    (permission : PermissionValues) : getEndpointScopesCheck store permission args.endpointGuid =
      some ((given args.endpointGuid).any (hasScope store permission)) := by
  have hcheck : check store .endpointScope permission args.endpointGuid none false =
      some ((given args.endpointGuid).any (hasScope store permission)) := by
    rcases hgiven : given args.endpointGuid with _ | endpointGuid
    · simp [check, hgiven]
    · have hmem : endpointGuid ∈ targets store args := by
        rw [targets_of_given hgiven]
        exact List.mem_singleton_self _
      simp [check, hgiven, getEndpointState_of_loaded hloaded hmem, hasScope]
  have hne : getEndpointGuids store args.endpointGuid ≠ [] := htargets
  rw [getEndpointScopesCheck, combineLatest_map hne fun _ _ => hcheck, Option.map_some,
    List.any_map]
  congr 1
  obtain ⟨guid, guids, hguids⟩ := List.exists_cons_of_ne_nil hne
  rw [hguids]
  rcases (given args.endpointGuid).any (hasScope store permission) <;> simp

theorem getFeatureFlagCheck_eq (hloaded : Loaded store args) (htargets : targets store args ≠ [])
    (config : PermissionConfig) : getFeatureFlagCheck store config args.endpointGuid =
      some ((targets store args).any fun endpointGuid =>
        checkFeatureFlag (endpointFlags store endpointGuid) config.permission) := by
  have hne : getEndpointGuids store args.endpointGuid ≠ [] := htargets
  rw [getFeatureFlagCheck,
    combineLatest_map hne fun guid hguid => flags_of_loaded hloaded hguid, Option.map_some,
    List.any_map]
  rfl

theorem getCfCheck_eq (hloaded : Loaded store args) (htargets : targets store args ≠ [])
    {config : PermissionConfig} (htype : config.type = .organization ∨ config.type = .space) :
    getCfCheck store config args = some (checkedCf store args config) := by
  have hnot : config.type ≠ .endpoint := by
    rcases htype with h | h <;> simp [h]
  rcases hguid : given (actualGuid config.type args) with _ | guid
  · have hne : getEndpointGuids store args.endpointGuid ≠ [] := htargets
    have hall : ∀ endpointGuid ∈ getEndpointGuids store args.endpointGuid,
        checkAllOfType store endpointGuid config.type config.permission =
          some ((endpointRoles store endpointGuid).somePermission config.type
            config.permission) := by
      intro endpointGuid hmem
      rw [checkAllOfType, getEndpointState_of_loaded hloaded hmem]
    have hchecked : checkedCf store args config = (targets store args).any fun endpointGuid =>
        (endpointRoles store endpointGuid).somePermission config.type config.permission := by
      simp only [checkedCf, hguid]
    simp only [getCfCheck, hguid, hnot, hchecked]
    simp only [Option.isSome_none, Bool.false_eq_true, and_false, or_self, if_false,
      Option.isNone_none, if_true]
    rw [combineLatest_map hne hall, Option.map_some, List.any_map]
    rfl
  · rcases hgiven : given args.endpointGuid with _ | endpointGuid
    · simp [getCfCheck, checkedCf, hguid, hnot, hgiven]
    · have hmem : endpointGuid ∈ targets store args := by
        rw [targets_of_given hgiven]
        exact List.mem_singleton_self _
      have hstate := getEndpointState_of_loaded hloaded hmem
      have hactual := given_eq_some hguid
      have hcond : config.type = .endpoint ∨ (given args.endpointGuid).isSome ∧
          (given (actualGuid config.type args)).isSome :=
        .inr ⟨by rw [hgiven]; rfl, by rw [hguid]; rfl⟩
      have hcheck : ∀ allSpaces, check store config.type config.permission args.endpointGuid
          (actualGuid config.type args) allSpaces = some (if allSpaces then
            (endpointRoles store endpointGuid).someSpaceOf guid config.permission
          else (endpointRoles store endpointGuid).selectPermission config.type guid
            config.permission) := by
        intro allSpaces
        rcases htype with htype | htype <;> rw [htype] at hactual
        all_goals simp [check, htype, hactual, given_eq_some hgiven, hstate]
      unfold getCfCheck
      dsimp only
      rw [if_pos hcond, hcheck]
      simp only [checkedCf, hguid, hgiven, decide_eq_true_eq]

/-- Where the flags are loaded and there are endpoints to ask, a check gives a value. -/
theorem getSimpleCheck_eq (hloaded : Loaded store args) (htargets : targets store args ≠ [])
    {config : PermissionConfig} (htype : config.type ≠ .endpoint) :
    getSimpleCheck store config args = some (checkedValue store args config) := by
  rcases h : config.type
  · simp only [getSimpleCheck, checkedValue, h]
    exact getCfCheck_eq hloaded htargets (.inr h)
  · simp only [getSimpleCheck, checkedValue, h]
    exact getCfCheck_eq hloaded htargets (.inl h)
  · exact absurd h htype
  · simp only [getSimpleCheck, checkedValue, h]
    exact getEndpointScopesCheck_eq hloaded htargets config.permission
  · simp only [getSimpleCheck, checkedValue, h]
    exact getFeatureFlagCheck_eq hloaded htargets config
  · simp only [getSimpleCheck, checkedValue, h]
    rfl
  · simp only [getSimpleCheck, checkedValue, h]
    rfl

theorem getAdminChecks_eq (hloaded : Loaded store args) (htargets : targets store args ≠ []) :
    getAdminChecks store args.endpointGuid = some (isAdmin store args) := by
  have hall : ∀ guid ∈ targets store args,
      getAdminCheck store guid = some (endpointRoles store guid).global.isAdmin := by
    intro guid hguid
    rw [getAdminCheck, getEndpointState_of_loaded hloaded hguid, Option.map_some]
  exact reduceChecks_map htargets hall false

theorem getReadOnlyChecks_eq (hloaded : Loaded store args) (htargets : targets store args ≠ []) :
    getReadOnlyChecks store args.endpointGuid = some (isReadOnly store args) := by
  have hall : ∀ guid ∈ targets store args,
      getReadOnlyCheck store guid = some (endpointRoles store guid).global.isReadOnly := by
    intro guid hguid
    rw [getReadOnlyCheck, getEndpointState_of_loaded hloaded hguid, Option.any_some]
  have hne : (targets store args).isEmpty = false := by simpa using htargets
  rw [isReadOnly, hne]
  exact reduceChecks_map htargets hall true

/-- Where there are endpoints, roles override as they should. -/
theorem applyAdminCheck_eq (hloaded : Loaded store args) (htargets : targets store args ≠ [])
    (granted : Bool) : applyAdminCheck store args (some granted) =
      some (overridden store args granted) := by
  rw [applyAdminCheck, getAdminChecks_eq hloaded htargets, getReadOnlyChecks_eq hloaded htargets]
  simp only [Option.bind_eq_bind, Option.bind_some, overridden]
  split_ifs <;> rfl

/-- Where there are none, everybody is an admin. -/
theorem applyAdminCheck_of_empty (htargets : targets store args = []) (check : Option Bool) :
    applyAdminCheck store args check = some true := by
  have hguids : getEndpointGuids store args.endpointGuid = [] := htargets
  simp [applyAdminCheck, getAdminChecks, getReadOnlyChecks, hguids, reduceChecks]

end Checks

/-! ## Groups -/

section Groups

/-- A group has its members in their order. -/
theorem get?_groupConfigs (configs : List PermissionConfig) (group : String) :
    (groupConfigs configs).get? group =
      if group ∈ configs.map getGroupType then some (configs.filter (getGroupType · = group))
      else none := by
  induction configs using List.reverseRecOn with
  | nil => rfl
  | append_singleton configs config ih =>
    have hstep : groupConfigs (configs ++ [config]) = (groupConfigs configs).set
        (getGroupType config)
        (((groupConfigs configs).get? (getGroupType config)).getD [] ++ [config]) := by
      rw [groupConfigs, List.foldl_append]
      rfl
    rw [hstep, JsObject.get?_set]
    rcases eq_or_ne group (getGroupType config) with rfl | hne
    · rw [if_pos rfl, if_pos (by simp), ih, List.filter_append]
      split_ifs with hmem
      · simp
      · have hnone : configs.filter (getGroupType · = getGroupType config) = [] := by
          refine List.filter_eq_nil_iff.2 fun other hother heq => hmem ?_
          rw [← of_decide_eq_true heq]
          exact List.mem_map_of_mem hother
        simp [hnone]
    · rw [if_neg hne, ih]
      have hfilter : [config].filter (getGroupType · = group) = [] := by
        simpa using fun h => hne h.symm
      simp [hne, hfilter, List.filter_append]

theorem mem_ownKeys_groupConfigs {configs : List PermissionConfig} {group : String} :
    group ∈ (groupConfigs configs).ownKeys ↔ group ∈ configs.map getGroupType := by
  rw [JsObject.mem_ownKeys, ← JsObject.isSome_get?_iff, get?_groupConfigs]
  split_ifs with h <;> simp [h]

variable {store : PermissionStore} {args : PermissionArgs}

theorem type_of_group {config : PermissionConfig} {type : PermissionTypes}
    (htype : type ≠ .organization ∧ type ≠ .space) (h : getGroupType config = type.value) :
    config.type = type := by
  unfold getGroupType at h
  rcases hconfig : config.type <;> rcases type <;> simp [hconfig] at h htype ⊢
  all_goals exact absurd h (by decide)

theorem type_of_cfGroup {config : PermissionConfig} (h : getGroupType config = CF_GROUP) :
    config.type = .organization ∨ config.type = .space := by
  unfold getGroupType at h
  rcases hconfig : config.type <;> simp [hconfig] at h ⊢
  all_goals exact absurd h (by decide)

/-- The groups of an array. -/
theorem group_of_type {config : PermissionConfig} (htype : config.type ∈ arrayTypes) :
    getGroupType config = CF_GROUP ∨ getGroupType config = PermissionTypes.endpointScope.value ∨
      getGroupType config = PermissionTypes.stratosScope.value ∨
      getGroupType config = PermissionTypes.featureFlag.value := by
  unfold getGroupType
  rcases h : config.type <;> simp [arrayTypes, h] at htype ⊢

theorem reduceChecks_group {configs : List PermissionConfig} {group : String}
    (hgroup : group ∈ configs.map getGroupType) (check : PermissionConfig → Option Bool)
    (value : PermissionConfig → Bool)
    (hcheck : ∀ config, getGroupType config = group → check config = some (value config)) :
    reduceChecks ((configs.filter (getGroupType · = group)).map check)
      (group = PermissionTypes.featureFlag.value) = some (groupHolds value configs group) := by
  obtain ⟨config, hconfig, hgroup⟩ := List.mem_map.1 hgroup
  have hne : configs.filter (getGroupType · = group) ≠ [] :=
    List.ne_nil_of_mem (List.mem_filter.2 ⟨hconfig, by simpa using hgroup⟩)
  have hmember : ∀ config ∈ configs.filter (getGroupType · = group),
      check config = some (value config) :=
    fun config hmem => hcheck config (by simpa using (List.mem_filter.1 hmem).2)
  rw [reduceChecks_map hne hmember, groupHolds]
  simp only [decide_eq_true_eq]

/-- The checks of a group, and how they combine. -/
theorem getCheckFromConfig_eq (hloaded : Loaded store args) (htargets : targets store args ≠ [])
    {configs : List PermissionConfig} (htypes : ∀ config ∈ configs, config.type ∈ arrayTypes)
    {group : String} (hgroup : group ∈ configs.map getGroupType) :
    ∃ combiner, getCheckFromConfig store args (configs.filter (getGroupType · = group)) group =
      some combiner ∧ reduceChecks combiner.checks combiner.every =
        some (groupHolds (checkedValue store args) configs group) := by
  have hsimple : ∀ config, config.type ≠ .endpoint →
      getSimpleCheck store config args = some (checkedValue store args config) :=
    fun config => getSimpleCheck_eq hloaded htargets
  obtain ⟨config, hconfig, heq⟩ := List.mem_map.1 hgroup
  have hreduce := fun check => reduceChecks_group hgroup check (checkedValue store args)
  rcases group_of_type (htypes config hconfig) with h | h | h | h
  all_goals
    rw [heq] at h
    subst h
  · refine ⟨_, rfl, hreduce _ fun config h => ?_⟩
    have htype := type_of_cfGroup h
    rw [← hsimple config (by rcases htype with htype | htype <;> simp [htype])]
    rcases htype with htype | htype <;> simp only [getSimpleCheck, htype]
  · refine ⟨_, rfl, hreduce _ fun config h => ?_⟩
    have htype := type_of_group (by decide) h
    rw [← hsimple config (by simp [htype])]
    simp only [getSimpleCheck, htype]
  · refine ⟨_, rfl, hreduce _ fun config h => ?_⟩
    have htype := type_of_group (by decide) h
    rw [← hsimple config (by simp [htype])]
    simp only [getSimpleCheck, htype]
  · refine ⟨_, rfl, hreduce _ fun config h => ?_⟩
    have htype := type_of_group (by decide) h
    rw [← hsimple config (by simp [htype])]
    simp only [getSimpleCheck, htype]

/-- An array is granted when all of its groups are. -/
theorem getComplexPermission_eq (hloaded : Loaded store args) (htargets : targets store args ≠ [])
    {configs : List PermissionConfig} (hne : configs ≠ [])
    (htypes : ∀ config ∈ configs, config.type ∈ arrayTypes) :
    getComplexPermission store args configs =
      some (overridden store args (groupsHold (checkedValue store args) configs)) := by
  have hspec : ∀ group ∈ (groupConfigs configs).ownKeys, ∃ combiner,
      getCheckFromConfig store args (((groupConfigs configs).get? group).getD []) group =
        some combiner ∧ reduceChecks combiner.checks combiner.every =
          some (groupHolds (checkedValue store args) configs group) := by
    intro group hgroup
    have hmem := mem_ownKeys_groupConfigs.1 hgroup
    rw [get?_groupConfigs, if_pos hmem, Option.getD_some]
    exact getCheckFromConfig_eq hloaded htargets htypes hmem
  have : Nonempty ICheckCombiner := ⟨⟨[], false⟩⟩
  choose! combiner hcombiner hreduce using hspec
  have hkeys : (groupConfigs configs).ownKeys ≠ [] := by
    obtain ⟨config, hconfig⟩ := List.exists_mem_of_ne_nil _ hne
    exact List.ne_nil_of_mem (mem_ownKeys_groupConfigs.2 (List.mem_map_of_mem hconfig))
  have hgroups : (groupConfigs configs).ownKeys.all
      (groupHolds (checkedValue store args) configs) =
      groupsHold (checkedValue store args) configs := by
    rw [Bool.eq_iff_iff, groupsHold, List.all_eq_true, List.all_eq_true]
    simp only [mem_ownKeys_groupConfigs]
  have hmap : ((groupConfigs configs).ownKeys.map fun group => getCheckFromConfig store args
      (((groupConfigs configs).get? group).getD []) group).mapM id =
      some ((groupConfigs configs).ownKeys.map combiner) := by
    rw [List.mapM_map]
    exact mapM_eq_map hcombiner
  have hlatest : combineLatest ((groupConfigs configs).ownKeys.map fun group =>
      reduceChecks (combiner group).checks (combiner group).every) =
      some ((groupConfigs configs).ownKeys.map (groupHolds (checkedValue store args) configs)) :=
    combineLatest_map hkeys hreduce
  unfold getComplexPermission combineChecks
  dsimp only
  rw [hmap, Option.bind_eq_bind, Option.bind_some, List.map_map]
  have hcheck := applyAdminCheck_eq hloaded htargets (groupsHold (checkedValue store args) configs)
  rw [← hgroups] at hcheck ⊢
  rw [← hcheck]
  exact congrArg (applyAdminCheck store args) (by
    rw [Function.comp_def, hlatest, Option.map_some, List.all_map]
    rfl)

end Groups

end Stratos
