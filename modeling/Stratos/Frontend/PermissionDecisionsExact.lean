import Stratos.Frontend.PermissionDecisions

/-!
# When permission decisions are the documented ones

`can_eq_documented_iff` says when `can` decides as documented. It does not in four cases. Where no
endpoint is registered, everybody counts as an admin of it, and a permission of the endpoints alone
is no answer at all. Without the guid of an endpoint, neither the scopes of endpoints are found nor
the roles in an organisation or a space whose guid is given. For all spaces of an organisation, a
role in the organisation is looked for in the spaces.
-/

open Lib

namespace Stratos

/-! ## When the decision is the documented one -/

section Fits

variable (store : PermissionStore) (args : PermissionArgs)

/-- The groups but one are granted. -/
def OthersHold (configs : List PermissionConfig) (group : String) : Prop :=
  ∀ config ∈ configs, getGroupType config ≠ group →
    groupHolds (documentedCheck store args) configs (getGroupType config)

/-- A scope is not asked for that one of all endpoints has, unless another group is refused. -/
def ScopesFit (configs : List PermissionConfig) : Prop :=
  given args.endpointGuid = none →
    OthersHold store args configs PermissionTypes.endpointScope.value →
    ∀ config ∈ configs, config.type = .endpointScope →
      ∀ guid ∈ targets store args, ¬hasScope store config.permission guid

/-- A role is not asked for that one of all endpoints has in the organisation or the space whose
guid is given, unless a role asked for without a guid is there too or another group is refused. -/
def GuidsFit (configs : List PermissionConfig) : Prop :=
  given args.endpointGuid = none → OthersHold store args configs CF_GROUP →
    ∀ config ∈ configs, getGroupType config = CF_GROUP →
      (given (actualGuid config.type args)).isSome → documentedCheck store args config →
        ∃ other ∈ configs, getGroupType other = CF_GROUP ∧
          given (actualGuid other.type args) = none ∧ documentedCheck store args other

/-- For all spaces of an organisation, the roles asked for in it are there just when some space has
them, unless the spaces have another one or another group is refused. -/
def AllSpacesFit (configs : List PermissionConfig) : Prop :=
  ∀ endpointGuid orgGuid, given args.endpointGuid = some endpointGuid →
    args.spaceGuid = some ALL_SPACES → given args.orgOrSpaceGuid = some orgGuid →
    OthersHold store args configs CF_GROUP →
    (∃ config ∈ configs, config.type = .space ∧
      (endpointRoles store endpointGuid).someSpaceOf orgGuid config.permission) ∨
    ((∃ config ∈ configs, config.type = .organization ∧
        (endpointRoles store endpointGuid).someSpaceOf orgGuid config.permission) ↔
      ∃ config ∈ configs, config.type = .organization ∧
        (endpointRoles store endpointGuid).selectPermission .organization orgGuid config.permission)

/-- What a decision needs that an administrator overrides. -/
def OverriddenFits (configs : List PermissionConfig) : Prop :=
  if targets store args = [] then
    (∀ config ∈ configs, config.type = .stratosScope) ∧
      ∃ config ∈ configs, documentedCheck store args config
  else isAdmin store args ∨ isReadOnly store args ∨
    ScopesFit store args configs ∧ GuidsFit store args configs ∧ AllSpacesFit store args configs

/-- What a decision needs to be the documented one. -/
def DecisionFits : PermissionConfigType → Prop
  | .single config => match config.type with
    | .stratos | .stratosScope => True
    | .featureFlag => targets store args ≠ []
    | .endpointScope => targets store args ≠ [] ∧ ScopesFit store args [config]
    | .endpoint | .organization | .space => OverriddenFits store args [config]
  | .array configs => OverriddenFits store args configs

end Fits

/-! ## Where the checks differ -/

section Differ

variable {store : PermissionStore} {args : PermissionArgs}

theorem groupsHold_eq_true_iff {check : PermissionConfig → Bool} {configs : List PermissionConfig} :
    groupsHold check configs = true ↔
      ∀ config ∈ configs, groupHolds check configs (getGroupType config) = true := by
  rw [groupsHold, List.all_eq_true, List.forall_mem_map]

/-- A group without members does not look at the check. -/
theorem groupHolds_of_notMem {configs : List PermissionConfig} {group : String}
    (h : group ∉ configs.map getGroupType) (check check' : PermissionConfig → Bool) :
    groupHolds check configs group = groupHolds check' configs group := by
  have hnone : configs.filter (getGroupType · = group) = [] := by
    refine List.filter_eq_nil_iff.2 fun config hconfig heq => h ?_
    rw [← of_decide_eq_true heq]
    exact List.mem_map_of_mem hconfig
  simp only [groupHolds, hnone, List.all_nil, List.any_nil]

/-- Once the other groups are granted, the one decides. -/
theorem groupsHold_of_others {check : PermissionConfig → Bool} {configs : List PermissionConfig}
    {group : String} (hgroup : group ∈ configs.map getGroupType)
    (h : ∀ config ∈ configs, getGroupType config ≠ group →
      groupHolds check configs (getGroupType config)) :
    groupsHold check configs = groupHolds check configs group := by
  rw [Bool.eq_iff_iff, groupsHold_eq_true_iff]
  constructor
  · intro hall
    obtain ⟨config, hconfig, rfl⟩ := List.mem_map.1 hgroup
    exact hall config hconfig
  · intro hgroup config hconfig
    rcases eq_or_ne (getGroupType config) group with heq | hne
    · rw [heq]
      exact hgroup
    · exact h config hconfig hne

/-- Checks that agree on the other groups grant the same when they agree on the one, or another
group is refused. -/
theorem groupsHold_eq_iff {check check' : PermissionConfig → Bool} {configs : List PermissionConfig}
    (group : String) (h : ∀ other, other ≠ group →
      groupHolds check configs other = groupHolds check' configs other) :
    groupsHold check configs = groupsHold check' configs ↔
      ((∀ config ∈ configs, getGroupType config ≠ group →
        groupHolds check' configs (getGroupType config)) →
      groupHolds check configs group = groupHolds check' configs group) := by
  by_cases hothers : ∀ config ∈ configs, getGroupType config ≠ group →
      groupHolds check' configs (getGroupType config)
  · have hothers' : ∀ config ∈ configs, getGroupType config ≠ group →
        groupHolds check configs (getGroupType config) := by
      intro config hconfig hne
      rw [h _ hne]
      exact hothers config hconfig hne
    by_cases hgroup : group ∈ configs.map getGroupType
    · rw [groupsHold_of_others hgroup hothers, groupsHold_of_others hgroup hothers']
      exact ⟨fun heq _ => heq, fun hall => hall hothers⟩
    · have hall : ∀ check : PermissionConfig → Bool, (∀ config ∈ configs,
          getGroupType config ≠ group → groupHolds check configs (getGroupType config)) →
          groupsHold check configs = true := by
        intro check hcheck
        refine groupsHold_eq_true_iff.2 fun config hconfig => hcheck config hconfig ?_
        exact fun heq => hgroup (heq ▸ List.mem_map_of_mem hconfig)
      rw [hall check hothers', hall check' hothers]
      exact iff_of_true rfl fun _ => groupHolds_of_notMem hgroup check check'
  · refine iff_of_true ?_ fun hall => absurd hall hothers
    push Not at hothers
    obtain ⟨config, hconfig, hne, hfails⟩ := hothers
    have hrefused : groupsHold check' configs = false := by
      rw [← Bool.not_eq_true, groupsHold_eq_true_iff]
      exact fun hall => hfails (hall config hconfig)
    have hrefused' : groupsHold check configs = false := by
      rw [← Bool.not_eq_true, groupsHold_eq_true_iff]
      intro hall
      exact hfails ((h _ hne) ▸ hall config hconfig)
    rw [hrefused, hrefused']

/-- Groups grant the same when their members do. -/
theorem groupHolds_congr {check check' : PermissionConfig → Bool} {configs : List PermissionConfig}
    {group : String} (h : ∀ config ∈ configs, getGroupType config = group →
      check config = check' config) :
    groupHolds check configs group = groupHolds check' configs group := by
  have hmem : ∀ config ∈ configs.filter (getGroupType · = group), check config = check' config := by
    intro config hconfig
    obtain ⟨hconfig, hgroup⟩ := List.mem_filter.1 hconfig
    exact h config hconfig (of_decide_eq_true hgroup)
  have hmap : (configs.filter (getGroupType · = group)).map check =
      (configs.filter (getGroupType · = group)).map check' := List.map_congr_left hmem
  have hall := congrArg (List.all · id) hmap
  have hany := congrArg (List.any · id) hmap
  simp only [List.all_map, List.any_map, Function.id_comp] at hall hany
  simp only [groupHolds, hall, hany]

/-- Without a guid, roles are looked for in all organisations or spaces. -/
theorem checkedCf_of_none {config : PermissionConfig}
    (h : given (actualGuid config.type args) = none) :
    checkedCf store args config = documentedCfCheck store args config := by
  have hcf : cfHolds store args config = fun endpointGuid =>
      (endpointRoles store endpointGuid).somePermission config.type config.permission := by
    funext endpointGuid
    simp only [cfHolds, h]
  rw [documentedCfCheck, hcf]
  simp only [checkedCf, h]

/-- With the guid of an endpoint, all spaces of an organisation are asked for only of spaces. -/
theorem checkedCf_of_given {config : PermissionConfig} {endpointGuid : String}
    (hgiven : given args.endpointGuid = some endpointGuid)
    (htype : config.type = .organization ∨ config.type = .space)
    (hall : config.type = .organization → args.spaceGuid ≠ some ALL_SPACES ∨
      given args.orgOrSpaceGuid = none) :
    checkedCf store args config = documentedCfCheck store args config := by
  rcases hguid : given (actualGuid config.type args) with _ | guid
  · exact checkedCf_of_none hguid
  · have hspaces : (config.type = .space ∧ args.spaceGuid = some ALL_SPACES) ↔
        args.spaceGuid = some ALL_SPACES := by
      refine and_iff_right_of_imp fun hspaces => htype.resolve_left fun horg => ?_
      have hactual : actualGuid config.type args = args.orgOrSpaceGuid := by
        simp [actualGuid, horg]
      rcases hall horg with h | h
      · exact h hspaces
      · rw [hactual, h] at hguid
        cases hguid
    simp only [checkedCf, documentedCfCheck, cfHolds, hguid, hgiven, targets_of_given hgiven,
      hspaces, List.any_cons, List.any_nil, Bool.or_false]

/-- The checks agree but for the scopes of endpoints and the roles in organisations and spaces. -/
theorem checkedValue_eq {config : PermissionConfig} (htype : config.type ≠ .endpoint)
    (hscope : config.type = .endpointScope → (given args.endpointGuid).isSome)
    (hcf : config.type = .organization ∨ config.type = .space →
      checkedCf store args config = documentedCfCheck store args config) :
    checkedValue store args config = documentedCheck store args config := by
  rcases h : config.type <;> simp only [checkedValue, documentedCheck, h]
  · exact hcf (.inr h)
  · exact hcf (.inl h)
  · exact absurd h htype
  · obtain ⟨endpointGuid, hgiven⟩ := Option.isSome_iff_exists.1 (hscope h)
    simp [hgiven, targets_of_given hgiven]

/-- What is checked is documented, but for all spaces of an organisation. -/
theorem documentedCheck_of_checkedValue {config : PermissionConfig}
    (htype : config.type ≠ .endpoint) (hgiven : given args.endpointGuid = none)
    (h : checkedValue store args config = true) :
    documentedCheck store args config = true := by
  by_cases hscope : config.type = .endpointScope
  · simp [checkedValue, hscope, hgiven] at h
  by_cases hcf : config.type = .organization ∨ config.type = .space
  · rcases hguid : given (actualGuid config.type args) with _ | guid
    · rwa [checkedValue_eq htype (fun h => absurd h hscope) fun _ => checkedCf_of_none hguid] at h
    · have hchecked : checkedValue store args config = checkedCf store args config := by
        rcases hcf with hcf | hcf <;> simp only [checkedValue, hcf]
      rw [hchecked] at h
      simp [checkedCf, hguid, hgiven] at h
  · rwa [checkedValue_eq htype (fun h => absurd h hscope) fun h => absurd h hcf] at h

theorem groupHolds_mono {check check' : PermissionConfig → Bool} {configs : List PermissionConfig}
    {group : String} (h : ∀ config ∈ configs, check config = true → check' config = true)
    (hholds : groupHolds check configs group = true) : groupHolds check' configs group = true := by
  simp only [groupHolds] at hholds ⊢
  split_ifs at hholds ⊢
  · rw [List.all_eq_true] at hholds ⊢
    exact fun config hmem => h config (List.mem_filter.1 hmem).1 (hholds config hmem)
  · rw [List.any_eq_true] at hholds ⊢
    obtain ⟨config, hmem, hheld⟩ := hholds
    exact ⟨config, hmem, h config (List.mem_filter.1 hmem).1 hheld⟩

/-- A check that grants less grants the same when it grants each group that the other one grants
with all the others. -/
theorem groupsHold_eq_iff_of_le {check check' : PermissionConfig → Bool}
    {configs : List PermissionConfig}
    (h : ∀ config ∈ configs, check config = true → check' config = true) :
    groupsHold check configs = groupsHold check' configs ↔
      ∀ config ∈ configs, (∀ other ∈ configs, getGroupType other ≠ getGroupType config →
          groupHolds check' configs (getGroupType other)) →
        groupHolds check' configs (getGroupType config) →
        groupHolds check configs (getGroupType config) := by
  rw [Bool.eq_iff_iff]
  constructor
  · intro heq config hconfig hothers hholds
    have hall : groupsHold check' configs = true := by
      rw [groupsHold_of_others (List.mem_map_of_mem hconfig) hothers]
      exact hholds
    exact groupsHold_eq_true_iff.1 (heq.2 hall) config hconfig
  · intro heach
    constructor
    · intro hall
      exact groupsHold_eq_true_iff.2 fun config hconfig =>
        groupHolds_mono h (groupsHold_eq_true_iff.1 hall config hconfig)
    · intro hall
      have hholds := groupsHold_eq_true_iff.1 hall
      exact groupsHold_eq_true_iff.2 fun config hconfig =>
        heach config hconfig (fun other hother _ => hholds other hother) (hholds config hconfig)

theorem groupHolds_any_iff {check : PermissionConfig → Bool} {configs : List PermissionConfig}
    {group : String} (hgroup : group ≠ PermissionTypes.featureFlag.value) :
    groupHolds check configs group = true ↔
      ∃ config ∈ configs, getGroupType config = group ∧ check config = true := by
  simp only [groupHolds, if_neg hgroup, List.any_filter, List.any_eq_true, Bool.and_eq_true,
    decide_eq_true_eq]

theorem getGroupType_endpointScope_iff {config : PermissionConfig} :
    getGroupType config = PermissionTypes.endpointScope.value ↔ config.type = .endpointScope := by
  refine ⟨type_of_group (by decide), fun h => ?_⟩
  simp [getGroupType, h]

theorem getGroupType_cf_iff {config : PermissionConfig} :
    getGroupType config = CF_GROUP ↔ config.type = .space ∨ config.type = .organization := by
  refine ⟨fun h => (type_of_cfGroup h).symm, fun h => ?_⟩
  rw [getGroupType, if_pos h.symm]

theorem scopesHold_iff {configs : List PermissionConfig} :
    groupHolds (documentedCheck store args) configs PermissionTypes.endpointScope.value = true ↔
      ∃ config ∈ configs, config.type = .endpointScope ∧
        ∃ guid ∈ targets store args, hasScope store config.permission guid := by
  rw [groupHolds_any_iff (by decide)]
  simp only [getGroupType_endpointScope_iff]
  refine exists_congr fun config => and_congr_right fun _ => and_congr_right fun htype => ?_
  simp only [documentedCheck, htype, List.any_eq_true]

section NoEndpoint

variable {configs : List PermissionConfig} (hgiven : given args.endpointGuid = none)

include hgiven

/-- Without an endpoint, the scopes of endpoints are never found. -/
theorem scopes_refused : groupHolds (checkedValue store args) configs
    PermissionTypes.endpointScope.value = false := by
  rw [← Bool.not_eq_true, groupHolds_any_iff (by decide)]
  rintro ⟨config, -, hgroup, hheld⟩
  simp [checkedValue, getGroupType_endpointScope_iff.1 hgroup, hgiven] at hheld

/-- Without an endpoint, no role is found in the organisation or the space whose guid is given. -/
theorem guids_iff : groupHolds (checkedValue store args) configs CF_GROUP = true ↔
    ∃ config ∈ configs, getGroupType config = CF_GROUP ∧
      given (actualGuid config.type args) = none ∧ documentedCheck store args config := by
  rw [groupHolds_any_iff (by decide)]
  refine exists_congr fun config => and_congr_right fun _ => and_congr_right fun hgroup => ?_
  have htype := type_of_cfGroup hgroup
  have hendpoint : config.type ≠ .endpoint := by
    rcases htype with h | h <;> simp [h]
  have hscope : config.type = .endpointScope → (given args.endpointGuid).isSome := by
    rcases htype with h | h <;> simp [h]
  rcases hguid : given (actualGuid config.type args) with _ | guid
  · rw [checkedValue_eq hendpoint hscope fun _ => checkedCf_of_none hguid]
    simp
  · have hchecked : checkedValue store args config = false := by
      rcases htype with h | h <;> rw [h] at hguid <;>
        simp [checkedValue, checkedCf, h, hguid, hgiven]
    simp [hchecked]

/-- Without an endpoint, an array is granted as documented. -/
theorem groupsHold_iff_of_none (hendpoint : ∀ config ∈ configs, config.type ≠ .endpoint) :
    groupsHold (checkedValue store args) configs = groupsHold (documentedCheck store args) configs ↔
      ScopesFit store args configs ∧ GuidsFit store args configs := by
  rw [groupsHold_eq_iff_of_le fun config hconfig =>
    documentedCheck_of_checkedValue (hendpoint config hconfig) hgiven]
  constructor
  · intro heach
    refine ⟨fun _ hothers config hconfig htype guid hguid hscope => ?_,
      fun _ hothers config hconfig hgroup _ hheld => ?_⟩
    · have hgroup := getGroupType_endpointScope_iff.2 htype
      have hholds := heach config hconfig (by rw [hgroup]; exact hothers)
      rw [hgroup, scopes_refused hgiven] at hholds
      exact Bool.false_ne_true
        (hholds (scopesHold_iff.2 ⟨config, hconfig, htype, guid, hguid, hscope⟩))
    · have hholds := heach config hconfig (by rw [hgroup]; exact hothers)
      rw [hgroup] at hholds
      exact (guids_iff hgiven).1 (hholds ((groupHolds_any_iff (by decide)).2
        ⟨config, hconfig, hgroup, hheld⟩))
  · rintro ⟨hscopes, hguids⟩ config hconfig hothers hholds
    by_cases hscope : getGroupType config = PermissionTypes.endpointScope.value
    · rw [hscope] at hothers hholds
      obtain ⟨other, hother, htype, guid, hguid, hheld⟩ := scopesHold_iff.1 hholds
      exact absurd hheld (hscopes hgiven hothers other hother htype guid hguid)
    by_cases hcf : getGroupType config = CF_GROUP
    · rw [hcf] at hothers hholds ⊢
      obtain ⟨other, hother, hgroup, hheld⟩ := (groupHolds_any_iff (by decide)).1 hholds
      rw [guids_iff hgiven]
      rcases hguid : given (actualGuid other.type args) with _ | guid
      · exact ⟨other, hother, hgroup, hguid, hheld⟩
      · exact hguids hgiven hothers other hother hgroup (by rw [hguid]; rfl) hheld
    · rw [groupHolds_congr fun other hother hgroup => ?_]
      · exact hholds
      · refine checkedValue_eq (hendpoint other hother) (fun htype => ?_) fun htype => ?_
        · exact absurd (hgroup.symm.trans (getGroupType_endpointScope_iff.2 htype)) hscope
        · exact absurd (hgroup.symm.trans (getGroupType_cf_iff.2 htype.symm)) hcf

end NoEndpoint

section AllSpaces

variable {endpointGuid orgGuid : String} (hgiven : given args.endpointGuid = some endpointGuid)
  (hspaces : args.spaceGuid = some ALL_SPACES) (horg : given args.orgOrSpaceGuid = some orgGuid)

include hgiven hspaces horg

theorem checked_allSpaces (configs : List PermissionConfig) :
    groupHolds (checkedValue store args) configs CF_GROUP = true ↔
      (∃ config ∈ configs, config.type = .space ∧
        (endpointRoles store endpointGuid).someSpaceOf orgGuid config.permission) ∨
      ∃ config ∈ configs, config.type = .organization ∧
        (endpointRoles store endpointGuid).someSpaceOf orgGuid config.permission := by
  have hactual : ∀ type, actualGuid type args = args.orgOrSpaceGuid := by
    intro type
    simp [actualGuid, hspaces]
  rw [groupHolds_any_iff (by decide), ← exists_or]
  simp only [getGroupType_cf_iff]
  refine exists_congr fun config => ?_
  rw [← and_or_left, ← or_and_right]
  refine and_congr_right fun _ => and_congr_right fun htype => ?_
  rcases htype with htype | htype <;>
    simp only [checkedValue, checkedCf, htype, hactual, hgiven, horg, hspaces, if_true]

theorem documented_allSpaces (configs : List PermissionConfig) :
    groupHolds (documentedCheck store args) configs CF_GROUP = true ↔
      (∃ config ∈ configs, config.type = .space ∧
        (endpointRoles store endpointGuid).someSpaceOf orgGuid config.permission) ∨
      ∃ config ∈ configs, config.type = .organization ∧
        (endpointRoles store endpointGuid).selectPermission .organization orgGuid
          config.permission := by
  have hactual : ∀ type, actualGuid type args = args.orgOrSpaceGuid := by
    intro type
    simp [actualGuid, hspaces]
  rw [groupHolds_any_iff (by decide), ← exists_or]
  simp only [getGroupType_cf_iff]
  refine exists_congr fun config => ?_
  rw [← and_or_left, or_and_right]
  refine and_congr_right fun _ =>
    or_congr (and_congr_right fun htype => ?_) (and_congr_right fun htype => ?_)
  · simp only [documentedCheck, documentedCfCheck, cfHolds, htype, hactual, targets_of_given hgiven,
      horg, hspaces, and_self, if_true, List.any_cons, List.any_nil, Bool.or_false]
  · simp only [documentedCheck, documentedCfCheck, cfHolds, htype, hactual, targets_of_given hgiven,
      horg, reduceCtorEq, false_and, if_false, List.any_cons, List.any_nil, Bool.or_false]

/-- For all spaces of an organisation, its own roles are not looked at. -/
theorem allSpaces_iff (configs : List PermissionConfig) :
    groupHolds (checkedValue store args) configs CF_GROUP =
      groupHolds (documentedCheck store args) configs CF_GROUP ↔
    (∃ config ∈ configs, config.type = .space ∧
      (endpointRoles store endpointGuid).someSpaceOf orgGuid config.permission) ∨
    ((∃ config ∈ configs, config.type = .organization ∧
        (endpointRoles store endpointGuid).someSpaceOf orgGuid config.permission) ↔
      ∃ config ∈ configs, config.type = .organization ∧
        (endpointRoles store endpointGuid).selectPermission .organization orgGuid
          config.permission) := by
  have hor : ∀ p q r : Prop, (p ∨ q ↔ p ∨ r) ↔ p ∨ (q ↔ r) := by
    intro p q r
    by_cases hp : p <;> simp [hp]
  rw [Bool.eq_iff_iff, checked_allSpaces hgiven hspaces horg,
    documented_allSpaces hgiven hspaces horg]
  exact hor _ _ _

end AllSpaces

/-- An array is granted as documented. -/
theorem groupsHold_iff {configs : List PermissionConfig}
    (htypes : ∀ config ∈ configs, config.type ∈ arrayTypes) :
    groupsHold (checkedValue store args) configs = groupsHold (documentedCheck store args) configs ↔
      ScopesFit store args configs ∧ GuidsFit store args configs ∧
        AllSpacesFit store args configs := by
  have hendpoint : ∀ config ∈ configs, config.type ≠ .endpoint := by
    intro config hconfig htype
    simpa [htype, arrayTypes] using htypes config hconfig
  rcases hgiven : given args.endpointGuid with _ | endpointGuid
  · have hspaces : AllSpacesFit store args configs := by
      intro endpointGuid orgGuid h
      simp [hgiven] at h
    rw [groupsHold_iff_of_none hgiven hendpoint, and_iff_left hspaces]
  · have hscopes : ScopesFit store args configs := by
      intro h
      simp [hgiven] at h
    have hguids : GuidsFit store args configs := by
      intro h
      simp [hgiven] at h
    rw [and_iff_right hscopes, and_iff_right hguids]
    have hsome : (given args.endpointGuid).isSome := by rw [hgiven]; rfl
    by_cases hall : args.spaceGuid = some ALL_SPACES ∧ (given args.orgOrSpaceGuid).isSome
    · obtain ⟨hspaces, horg⟩ := hall
      obtain ⟨orgGuid, horg⟩ := Option.isSome_iff_exists.1 horg
      rw [groupsHold_eq_iff CF_GROUP, allSpaces_iff hgiven hspaces horg]
      · constructor
        · intro h endpointGuid' orgGuid' hgiven' _ horg' hothers
          obtain rfl := Option.some.inj (hgiven.symm.trans hgiven')
          obtain rfl := Option.some.inj (horg.symm.trans horg')
          exact h hothers
        · exact fun h hothers => h endpointGuid orgGuid hgiven hspaces horg hothers
      · refine fun other hother => groupHolds_congr fun config hconfig hgroup => ?_
        refine checkedValue_eq (hendpoint config hconfig) (fun _ => hsome) fun htype => ?_
        exact absurd (hgroup.symm.trans (getGroupType_cf_iff.2 htype.symm)) hother
    · have hsame : ∀ config ∈ configs,
          checkedValue store args config = documentedCheck store args config := by
        refine fun config hconfig =>
          checkedValue_eq (hendpoint config hconfig) (fun _ => hsome) fun htype => ?_
        refine checkedCf_of_given hgiven htype fun _ => ?_
        by_cases hspaces : args.spaceGuid = some ALL_SPACES
        · exact .inr (Option.not_isSome_iff_eq_none.1 fun h => hall ⟨hspaces, h⟩)
        · exact .inl hspaces
      refine iff_of_true ?_ fun endpointGuid orgGuid _ hspaces horg => absurd ⟨hspaces, ?_⟩ hall
      · have hgroups : ∀ group, groupHolds (checkedValue store args) configs group =
            groupHolds (documentedCheck store args) configs group :=
          fun group => groupHolds_congr fun config hconfig _ => hsame config hconfig
        rw [groupsHold, groupsHold, funext hgroups]
      · rw [horg]
        rfl

end Differ

/-! ## Decisions -/

section Decisions

variable {store : PermissionStore} {args : PermissionArgs}

theorem groupsHold_singleton (check : PermissionConfig → Bool) (config : PermissionConfig) :
    groupsHold check [config] = check config := by
  simp only [groupsHold, groupHolds, List.map_cons, List.map_nil, List.all_cons, List.all_nil,
    Bool.and_true, List.filter_cons, decide_true, if_true, List.filter_nil, List.any_cons,
    List.any_nil, Bool.or_false]
  split_ifs <;> rfl

theorem overridden_eq_iff {granted granted' : Bool} :
    overridden store args granted = overridden store args granted' ↔
      isAdmin store args ∨ isReadOnly store args ∨ granted = granted' := by
  unfold overridden
  split_ifs with hadmin hread
  · simp [hadmin]
  · simp [hread]
  · simp [hadmin, hread]

/-- Without endpoints, only the own scopes are granted. -/
theorem documentedCheck_of_empty (htargets : targets store args = []) {config : PermissionConfig}
    (htype : config.type ≠ .stratos ∧ config.type ≠ .stratosScope) :
    documentedCheck store args config = false := by
  have hcf : documentedCfCheck store args config = false := by
    rw [documentedCfCheck, htargets, List.any_nil]
  rcases h : config.type <;> simp only [documentedCheck, h, htargets, hcf, List.any_nil]
  · exact absurd h htype.1
  · exact absurd h htype.2

theorem overridden_of_empty (htargets : targets store args = []) (granted : Bool) :
    overridden store args granted = granted := by
  simp [overridden, isAdmin, isReadOnly, htargets]

/-- Without endpoints, an array is granted for the own scopes alone. -/
theorem groupsHold_of_empty_iff (htargets : targets store args = [])
    {configs : List PermissionConfig} (hne : configs ≠ [])
    (htypes : ∀ config ∈ configs, config.type ∈ arrayTypes) :
    groupsHold (documentedCheck store args) configs = true ↔
      (∀ config ∈ configs, config.type = .stratosScope) ∧
        ∃ config ∈ configs, documentedCheck store args config := by
  have hrefused : ∀ config ∈ configs, config.type ≠ .stratosScope →
      documentedCheck store args config = false := by
    intro config hconfig htype
    refine documentedCheck_of_empty htargets ⟨fun h => ?_, htype⟩
    simpa [h, arrayTypes] using htypes config hconfig
  have hgroup : ∀ config : PermissionConfig,
      getGroupType config = PermissionTypes.stratosScope.value ↔ config.type = .stratosScope := by
    refine fun config => ⟨type_of_group (by decide), fun h => ?_⟩
    simp [getGroupType, h]
  rw [groupsHold_eq_true_iff]
  constructor
  · intro h
    have hscopes : ∀ config ∈ configs, config.type = .stratosScope := by
      intro config hconfig
      by_contra htype
      have hholds := h config hconfig
      by_cases hflag : getGroupType config = PermissionTypes.featureFlag.value
      · simp only [groupHolds, hflag, if_true, List.all_eq_true, List.mem_filter,
          decide_eq_true_eq] at hholds
        simpa [hrefused config hconfig htype] using hholds config ⟨hconfig, hflag⟩
      · obtain ⟨other, hother, heq, hheld⟩ := (groupHolds_any_iff hflag).1 hholds
        have hother' : other.type ≠ .stratosScope := by
          rw [Ne, ← hgroup, heq, hgroup]
          exact htype
        simp [hrefused other hother hother'] at hheld
    obtain ⟨config, hconfig⟩ := List.exists_mem_of_ne_nil _ hne
    have hholds := h config hconfig
    rw [(hgroup config).2 (hscopes config hconfig), groupHolds_any_iff (by decide)] at hholds
    obtain ⟨other, hother, -, hheld⟩ := hholds
    exact ⟨hscopes, other, hother, hheld⟩
  · rintro ⟨hscopes, other, hother, hheld⟩ config hconfig
    rw [(hgroup config).2 (hscopes config hconfig), groupHolds_any_iff (by decide)]
    exact ⟨other, hother, (hgroup other).2 (hscopes other hother), hheld⟩

theorem getComplexPermission_of_empty (htargets : targets store args = [])
    {configs : List PermissionConfig} (htypes : ∀ config ∈ configs, config.type ∈ arrayTypes) :
    getComplexPermission store args configs = some true := by
  have hsome : ∀ group ∈ (groupConfigs configs).ownKeys, ∃ combiner,
      getCheckFromConfig store args (((groupConfigs configs).get? group).getD []) group =
        some combiner := by
    intro group hgroup
    obtain ⟨config, hconfig, heq⟩ := List.mem_map.1 (mem_ownKeys_groupConfigs.1 hgroup)
    rcases group_of_type (htypes config hconfig) with h | h | h | h
    all_goals
      rw [heq] at h
      subst h
      exact ⟨_, rfl⟩
  have : Nonempty ICheckCombiner := ⟨⟨[], false⟩⟩
  choose! combiner hcombiner using hsome
  have hmap : ((groupConfigs configs).ownKeys.map fun group => getCheckFromConfig store args
      (((groupConfigs configs).get? group).getD []) group).mapM id =
      some ((groupConfigs configs).ownKeys.map combiner) := by
    rw [List.mapM_map]
    exact mapM_eq_map hcombiner
  unfold getComplexPermission combineChecks
  dsimp only
  rw [hmap, Option.bind_eq_bind, Option.bind_some]
  exact applyAdminCheck_of_empty htargets _

/-- The decision of an array, or of one permission in organisations or spaces. -/
theorem overridden_iff {configs : List PermissionConfig} (hne : configs ≠ [])
    (htypes : ∀ config ∈ configs, config.type ∈ arrayTypes) {decided : Option Bool}
    (hempty : targets store args = [] → decided = some true)
    (hdecided : targets store args ≠ [] →
      decided = some (overridden store args (groupsHold (checkedValue store args) configs))) :
    decided = some (overridden store args (groupsHold (documentedCheck store args) configs)) ↔
      OverriddenFits store args configs := by
  unfold OverriddenFits
  split_ifs with htargets
  · rw [hempty htargets, overridden_of_empty htargets, Option.some_inj, eq_comm]
    exact groupsHold_of_empty_iff htargets hne htypes
  · rw [hdecided htargets, Option.some_inj, overridden_eq_iff, groupsHold_iff htypes]

theorem can_array_iff (hloaded : Loaded store args) {configs : List PermissionConfig}
    (hne : configs ≠ []) (htypes : ∀ config ∈ configs, config.type ∈ arrayTypes) :
    can store args (.array configs) = some (documentedDecision store args (.array configs)) ↔
      OverriddenFits store args configs :=
  overridden_iff hne htypes (getComplexPermission_of_empty · htypes)
    (getComplexPermission_eq hloaded · hne htypes)

theorem can_cf_iff (hloaded : Loaded store args) {config : PermissionConfig}
    (htype : config.type = .organization ∨ config.type = .space) :
    can store args (.single config) = some (documentedDecision store args (.single config)) ↔
      OverriddenFits store args [config] := by
  have hcan : can store args (.single config) =
      applyAdminCheck store args (getSimpleCheck store config args) := by
    simp only [can, getSimplePermission, if_pos htype]
  have hdocumented : documentedDecision store args (.single config) = overridden store args
      (groupsHold (documentedCheck store args) [config]) := by
    simp only [documentedDecision, if_pos htype, groupsHold_singleton]
  have hendpoint : config.type ≠ .endpoint := by
    rcases htype with h | h <;> simp [h]
  rw [hdocumented]
  refine overridden_iff (List.cons_ne_nil _ _) ?_ (fun h => ?_) (fun h => ?_)
  · rintro config' hconfig'
    obtain rfl := List.mem_singleton.1 hconfig'
    rcases htype with h | h <;> simp [h, arrayTypes]
  · rw [hcan, applyAdminCheck_of_empty h]
  · rw [hcan, getSimpleCheck_eq hloaded h hendpoint, applyAdminCheck_eq hloaded h,
      groupsHold_singleton]

/-- A single permission of another type is the check itself. -/
theorem can_simple (store : PermissionStore) (args : PermissionArgs) (config : PermissionConfig)
    (htype : ¬(config.type = .organization ∨ config.type = .space)) :
    can store args (.single config) = getSimpleCheck store config args ∧
      documentedDecision store args (.single config) = documentedCheck store args config := by
  constructor
  · simp only [can, getSimplePermission, if_neg htype]
  · simp only [documentedDecision, if_neg htype]

theorem can_scope_iff (hloaded : Loaded store args) {config : PermissionConfig}
    (htype : config.type = .endpointScope) :
    can store args (.single config) = some (documentedDecision store args (.single config)) ↔
      targets store args ≠ [] ∧ ScopesFit store args [config] := by
  obtain ⟨hcan, hdocumented⟩ := can_simple store args config (by simp [htype])
  rw [hcan, hdocumented]
  by_cases htargets : targets store args = []
  · have hguids : getEndpointGuids store args.endpointGuid = [] := htargets
    simp [getSimpleCheck, htype, getEndpointScopesCheck, hguids, combineLatest, htargets]
  · have htypes : ∀ config' ∈ [config], config'.type ∈ arrayTypes := by
      rintro config' hconfig'
      obtain rfl := List.mem_singleton.1 hconfig'
      simp [htype, arrayTypes]
    have hspaces : AllSpacesFit store args [config] := by
      intro endpointGuid orgGuid _ _ _ _
      simp [htype]
    have hguids : GuidsFit store args [config] := by
      rintro - - config' hconfig' hgroup
      obtain rfl := List.mem_singleton.1 hconfig'
      have hcf := getGroupType_cf_iff.1 hgroup
      simp [htype] at hcf
    have hgroups : groupsHold (checkedValue store args) [config] =
        groupsHold (documentedCheck store args) [config] ↔
          ScopesFit store args [config] ∧ GuidsFit store args [config] ∧
            AllSpacesFit store args [config] :=
      groupsHold_iff htypes
    rw [groupsHold_singleton, groupsHold_singleton, and_iff_left ⟨hguids, hspaces⟩] at hgroups
    rw [getSimpleCheck_eq hloaded htargets (by simp [htype]), Option.some_inj, hgroups]
    simp [htargets]

theorem can_flag_iff (hloaded : Loaded store args) {config : PermissionConfig}
    (htype : config.type = .featureFlag) :
    can store args (.single config) = some (documentedDecision store args (.single config)) ↔
      targets store args ≠ [] := by
  obtain ⟨hcan, hdocumented⟩ := can_simple store args config (by simp [htype])
  rw [hcan, hdocumented]
  by_cases htargets : targets store args = []
  · have hguids : getEndpointGuids store args.endpointGuid = [] := htargets
    simp [getSimpleCheck, htype, getFeatureFlagCheck, hguids, combineLatest, htargets]
  · rw [getSimpleCheck_eq hloaded htargets (by simp [htype]),
      checkedValue_eq (by simp [htype]) (by simp [htype]) (by simp [htype])]
    simp [htargets]

/-- When `can` says what is documented. -/
theorem can_eq_documented_iff (store : PermissionStore) (args : PermissionArgs)
    (config : PermissionConfigType) (hloaded : Loaded store args) (hvalid : config.Valid) :
    can store args config = some (documentedDecision store args config) ↔
      DecisionFits store args config := by
  rcases config with config | configs
  · rcases htype : config.type
    all_goals simp only [DecisionFits, htype]
    · exact can_cf_iff hloaded (.inr htype)
    · exact can_cf_iff hloaded (.inl htype)
    · exact absurd htype hvalid
    · exact can_scope_iff hloaded htype
    · exact can_flag_iff hloaded htype
    · obtain ⟨hcan, hdocumented⟩ := can_simple store args config (by simp [htype])
      rw [hcan, hdocumented]
      simp [getSimpleCheck, getInternalCheck, check, documentedCheck, htype]
    · obtain ⟨hcan, hdocumented⟩ := can_simple store args config (by simp [htype])
      rw [hcan, hdocumented]
      simp [getSimpleCheck, getInternalScopesCheck, check, documentedCheck, htype]
  · exact can_array_iff hloaded hvalid.1 hvalid.2

end Decisions

/-- A user with the scope of admins on the endpoint `cf`, the only one. -/
def oneEndpointStore : PermissionStore where
  currentUserRoles := { getDefaultState with
    cf := JsObject.empty.set "cf" { getDefaultEndpointRoles with
      global := { getDefaultEndpointRoles.global with
        scopes := [cfAdminGroup]
        canWrite := true } } }
  endpoints := JsObject.empty.set "cf" ⟨"cf", true, .web⟩
  featureFlags := JsObject.empty.set (createCFFeatureFlagPaginationKey "cf") []

theorem loaded_oneEndpointStore {args : PermissionArgs}
    (h : targets oneEndpointStore args = ["cf"]) : Loaded oneEndpointStore args := by
  intro guid hguid
  rw [h, List.mem_singleton] at hguid
  subst hguid
  decide

/-- Asking for the scope on the endpoint. -/
theorem can_eq_documented_iff_endpoint :
    Loaded oneEndpointStore { endpointGuid := some "cf" } ∧
    (PermissionConfigType.array [⟨.endpointScope, .name cfAdminGroup⟩]).Valid ∧
    (can oneEndpointStore { endpointGuid := some "cf" }
        (.array [⟨.endpointScope, .name cfAdminGroup⟩]) =
      some (documentedDecision oneEndpointStore { endpointGuid := some "cf" }
        (.array [⟨.endpointScope, .name cfAdminGroup⟩])) ↔
      DecisionFits oneEndpointStore { endpointGuid := some "cf" }
        (.array [⟨.endpointScope, .name cfAdminGroup⟩])) := by
  have hloaded : Loaded oneEndpointStore { endpointGuid := some "cf" } :=
    loaded_oneEndpointStore (by decide)
  have hvalid : (PermissionConfigType.array [⟨.endpointScope, .name cfAdminGroup⟩]).Valid := by
    simp [PermissionConfigType.Valid, arrayTypes]
  exact ⟨hloaded, hvalid, can_eq_documented_iff _ _ _ hloaded hvalid⟩

/-- Who may delete an organisation of some endpoint is not found. -/
theorem not_can_eq_documented_scope : ¬∀ (store : PermissionStore) (args : PermissionArgs)
    (config : PermissionConfigType), Loaded store args → config.Valid →
      can store args config = some (documentedDecision store args config) := by
  intro h
  have hcan := h oneEndpointStore {} (.single ⟨.endpointScope, .name cfAdminGroup⟩)
    (loaded_oneEndpointStore (by decide)) (by simp [PermissionConfigType.Valid])
  exact absurd hcan (by decide)

end Stratos
