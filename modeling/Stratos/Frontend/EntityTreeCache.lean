import Stratos.Frontend.EntityTree

/-!
# The entity trees that calls return

`IsExactTree` says what the tree of a call should be : its relations are the schema paths
all of whose parent-child keys are included, `requiredParamNames` are their parameters, and
`maxDepth` is the length of a longest one.

The parse adds one to `maxDepth` for every entity that keeps a relation, siblings included,
and a tree from the cache is parsed again, on top of the depth it has
(`not_fetchEntityTrees_exact_again`). `fetchEntityTrees_exact` says that every sequence of
calls returns the exact trees, as if the cache were not there, when on no level two kept
siblings keep relations, and when the cache answers only calls that keep no relation.
-/

open Lib

namespace Stratos

/-! ## The paths of a schema -/

mutual

/-- The relation is below an object at the path. -/
inductive FieldsChild : SchemaFields → String → EntityRelation → Prop
  | mk {fields : SchemaFields} {key path : String} {value : Schema} {r : EntityRelation}
      (h : fields.Has key value) (hv : ValueChild key value (joinPath path key) r) :
      FieldsChild fields path r

/-- The relation is the value of the property, or below it. -/
inductive ValueChild : String → Schema → String → EntityRelation → Prop
  | entity {key path : String} {e : EntitySchema} :
      ValueChild key (.entity e) path ⟨e, false, some key, path⟩
  | entities {key i path : String} {e : EntitySchema} {rest : SchemaFields} :
      ValueChild key (.array (.cons i (.entity e) rest)) path ⟨e, true, some key, path⟩
  | object {key path : String} {fields : SchemaFields} {r : EntityRelation}
      (h : FieldsChild fields path r) : ValueChild key (.object fields) path r
  | objects {key i path : String} {fields rest : SchemaFields} {r : EntityRelation}
      (h : FieldsChild fields path r) :
      ValueChild key (.array (.cons i (.object fields) rest)) path r
  | arrays {key i path : String} {items rest : SchemaFields} {r : EntityRelation}
      (h : FieldsChild items path r) :
      ValueChild key (.array (.cons i (.array items) rest)) path r

end

/-- The entity has the relation as a child. -/
def EntitySchema.HasChild (e : EntitySchema) (r : EntityRelation) : Prop :=
  FieldsChild e.definition "" r

/-- Each relation is a child of the one before it, and the first of the entity. -/
def SchemaPath : EntitySchema → List EntityRelation → Prop
  | _, [] => True
  | e, r :: rs => e.HasChild r ∧ SchemaPath r.entity rs

/-- A schema path below the relation all of whose parent-child keys are included. -/
def KeptPath (includeRelations : List String) (r : EntityRelation) (rs : List EntityRelation) :
    Prop :=
  SchemaPath r.entity rs ∧
    List.IsChain (fun p c => isIncluded includeRelations p c = true) (r :: rs)

/-! ## What a call should return -/

/-- The root of the tree of an action. -/
def EntityInlineParentAction.root (action : EntityInlineParentAction) : EntityRelation :=
  rootRelation action.entity action.isArray

/-- The tree has the relations that the action includes, and asks for their parameters. -/
structure IsExactTree (action : EntityInlineParentAction) (tree : EntityTree) : Prop where
  root : tree.rootRelation.label = action.root
  relations : ∀ rs, RoseTree.IsPath tree.rootRelation.children rs ↔
    KeptPath action.included action.root rs
  names : ∀ n, n ∈ tree.requiredParamNames ↔
    ∃ rs r, KeptPath action.included action.root (rs ++ [r]) ∧ r.paramName = n
  nodup : tree.requiredParamNames.Nodup
  exists_path : ∃ rs, KeptPath action.included action.root rs ∧ rs.length = tree.maxDepth
  length_le : ∀ rs, KeptPath action.included action.root rs → rs.length ≤ tree.maxDepth

section Calls

variable (localeLE : String → String → Bool)

/-- On no level two kept siblings keep relations, and the cache answers the call only with the
bare tree of the same root, when the call keeps no relation. -/
def CallIsExact (cache : JsObject EntityTree) (call : EntityInlineParentAction × Bool) : Prop :=
  RoseTree.OneBranch (isIncluded call.1.included) call.1.root (buildEntityTree call.1.entity) ∧
    (call.2 = true → ∀ tree,
      cache.get? (generateCacheKey localeLE call.1.entity.key call.1) = some tree →
        tree = ⟨0, .node call.1.root [], []⟩ ∧
          ∀ r, call.1.entity.HasChild r → isIncluded call.1.included call.1.root r = false)

/-- Every call of the sequence is exact when it happens. -/
def CallsAreExact : JsObject EntityTree → List (EntityInlineParentAction × Bool) → Prop
  | _, [] => True
  | cache, call :: calls => CallIsExact localeLE cache call ∧
    CallsAreExact (fetchEntityTree localeLE cache call.1 call.2).2 calls

end Calls

/-! ## The tree of a schema -/

theorem fieldsChild_cons {key path : String} {value : Schema} {rest : SchemaFields}
    {r : EntityRelation} : FieldsChild (.cons key value rest) path r ↔
      ValueChild key value (joinPath path key) r ∨ FieldsChild rest path r := by
  constructor
  · rintro ⟨h, hv⟩
    rcases SchemaFields.has_cons_iff.1 h with ⟨rfl, rfl⟩ | h
    · exact Or.inl hv
    · exact Or.inr ⟨h, hv⟩
  · rintro (hv | ⟨h, hv⟩)
    · exact ⟨.here, hv⟩
    · exact ⟨.there h, hv⟩

mutual

/-- The relations that are built are the children, each with its own relations. -/
theorem mem_buildFields : ∀ (fields : SchemaFields) (path : String) {t : EntityTreeRelation},
    t ∈ buildFields fields path ↔
      ∃ r, FieldsChild fields path r ∧ t = .node r (buildEntityTree r.entity)
  | .nil, path, t => by
    refine iff_of_false List.not_mem_nil ?_
    rintro ⟨r, ⟨h, -⟩, -⟩
    exact SchemaFields.not_has_nil h
  | .cons key value rest, path, t => by
    rw [buildFields, List.mem_append, mem_buildValue key value (joinPath path key),
      mem_buildFields rest path]
    simp only [fieldsChild_cons, or_and_right, exists_or]

theorem mem_buildValue (key : String) :
    ∀ (value : Schema) (path : String) {t : EntityTreeRelation}, t ∈ buildValue key value path ↔
      ∃ r, ValueChild key value path r ∧ t = .node r (buildEntityTree r.entity)
  | .entity e, path, t => by
    rw [buildValue, List.mem_singleton]
    constructor
    · rintro rfl
      exact ⟨_, .entity, rfl⟩
    · rintro ⟨_, ⟨⟩, rfl⟩
      rfl
  | .object fields, path, t => by
    rw [buildValue, mem_buildFields fields path]
    constructor
    · rintro ⟨r, h, rfl⟩
      exact ⟨r, .object h, rfl⟩
    · rintro ⟨r, hv, rfl⟩
      cases hv with
      | object h => exact ⟨r, h, rfl⟩
  | .array .nil, path, t => by
    refine iff_of_false List.not_mem_nil ?_
    rintro ⟨_, ⟨⟩, -⟩
  | .array (.cons i (.entity e) rest), path, t => by
    rw [buildValue, List.mem_singleton]
    constructor
    · rintro rfl
      exact ⟨_, .entities, rfl⟩
    · rintro ⟨_, ⟨⟩, rfl⟩
      rfl
  | .array (.cons i (.object fields) rest), path, t => by
    rw [buildValue, mem_buildFields fields path]
    constructor
    · rintro ⟨r, h, rfl⟩
      exact ⟨r, .objects h, rfl⟩
    · rintro ⟨r, hv, rfl⟩
      cases hv with
      | objects h => exact ⟨r, h, rfl⟩
  | .array (.cons i (.array items) rest), path, t => by
    rw [buildValue, mem_buildFields items path]
    constructor
    · rintro ⟨r, h, rfl⟩
      exact ⟨r, .arrays h, rfl⟩
    · rintro ⟨r, hv, rfl⟩
      cases hv with
      | arrays h => exact ⟨r, h, rfl⟩

end

theorem mem_buildEntityTree {e : EntitySchema} {t : EntityTreeRelation} :
    t ∈ buildEntityTree e ↔ ∃ r, e.HasChild r ∧ t = .node r (buildEntityTree r.entity) := by
  obtain ⟨key, relationKey, definition⟩ := e
  exact mem_buildFields definition ""

/-- The paths of the tree are the paths of the schema. -/
theorem isPath_buildEntityTree {e : EntitySchema} {rs : List EntityRelation} :
    RoseTree.IsPath (buildEntityTree e) rs ↔ SchemaPath e rs := by
  induction rs generalizing e with
  | nil => exact Iff.rfl
  | cons r rs ih =>
    rw [RoseTree.IsPath, SchemaPath, ← ih]
    constructor
    · rintro ⟨t, ht, rfl, hpath⟩
      obtain ⟨r, hr, rfl⟩ := mem_buildEntityTree.1 ht
      exact ⟨hr, hpath⟩
    · rintro ⟨hr, hpath⟩
      exact ⟨_, mem_buildEntityTree.2 ⟨r, hr, rfl⟩, rfl, hpath⟩

/-! ## The parse -/

section Parse

variable (includeRelations : List String)

theorem TreeInfo.mem_addName {info : TreeInfo} {paramName n : Option String} :
    n ∈ (info.addName paramName).requiredParamNames ↔
      n ∈ info.requiredParamNames ∨ paramName = n := by
  unfold addName
  split_ifs with hmem
  · refine ⟨Or.inl, ?_⟩
    rintro (h | rfl)
    · exact h
    · exact hmem
  · simp [eq_comm]

theorem TreeInfo.nodup_addName {info : TreeInfo} {paramName : Option String}
    (h : info.requiredParamNames.Nodup) : (info.addName paramName).requiredParamNames.Nodup := by
  unfold addName
  split_ifs with hmem
  · exact h
  · exact h.append (List.nodup_singleton _) (by simpa using hmem)

theorem TreeInfo.maxDepth_addName (info : TreeInfo) (paramName : Option String) :
    (info.addName paramName).maxDepth = info.maxDepth := by
  unfold addName
  split_ifs <;> rfl

theorem inner_node (r : EntityRelation) (ts : List EntityTreeRelation) :
    RoseTree.inner (.node r ts) = RoseTree.innerSum ts + if ts.isEmpty then 0 else 1 := by
  rw [RoseTree.inner]
  split_ifs with hempty
  · rw [List.isEmpty_iff.1 hempty]
    rfl
  · rfl

theorem parseChildren_of_not_included (parent : EntityRelation) (ts : List EntityTreeRelation)
    (h : ∀ t ∈ ts, isIncluded includeRelations parent t.label = false) (info : TreeInfo) :
    parseChildren includeRelations parent ts info = ([], info) := by
  induction ts with
  | nil => rfl
  | cons t ts ih =>
    rw [parseChildren, h t List.mem_cons_self, if_neg (by simp)]
    exact ih fun u hu => h u (List.mem_cons_of_mem _ hu)

/-- What `parseEntityTree` adds to the loop over the child relations. -/
theorem parseEntityTree_node (r : EntityRelation) (cs : List EntityTreeRelation)
    (info : TreeInfo) :
    (parseEntityTree includeRelations (.node r cs) info).1 =
        (parseChildren includeRelations r cs info).1 ∧
      (parseEntityTree includeRelations (.node r cs) info).2.requiredParamNames =
        (parseChildren includeRelations r cs info).2.requiredParamNames ∧
      (parseEntityTree includeRelations (.node r cs) info).2.maxDepth =
        (parseChildren includeRelations r cs info).2.maxDepth +
          if (parseChildren includeRelations r cs info).1.isEmpty then 0 else 1 := by
  rw [parseEntityTree]
  dsimp only
  split_ifs <;> exact ⟨rfl, rfl, rfl⟩

/-- The parse prunes the relations, adds one to the depth for each of them that keeps relations,
and adds their parameters. -/
theorem parseChildren_spec (parent : EntityRelation) (ts : List EntityTreeRelation)
    (info : TreeInfo) :
    (parseChildren includeRelations parent ts info).1 =
        RoseTree.prune (isIncluded includeRelations) parent ts ∧
      (parseChildren includeRelations parent ts info).2.maxDepth =
        info.maxDepth + RoseTree.innerSum (RoseTree.prune (isIncluded includeRelations) parent ts) ∧
      (∀ n, n ∈ (parseChildren includeRelations parent ts info).2.requiredParamNames ↔
        n ∈ info.requiredParamNames ∨ RoseTree.Occurs (fun r => r.paramName = n)
          (RoseTree.prune (isIncluded includeRelations) parent ts)) ∧
      (info.requiredParamNames.Nodup →
        (parseChildren includeRelations parent ts info).2.requiredParamNames.Nodup) := by
  induction ts using RoseTree.forest_induction generalizing parent info with
  | nil =>
    exact ⟨rfl, rfl, fun n => by simp [parseChildren, RoseTree.prune, RoseTree.not_occurs_nil],
      id⟩
  | cons r cs ts ihc iht =>
    by_cases hk : isIncluded includeRelations parent r = true
    · obtain ⟨hrel, hdepth, hnames, hnodup⟩ := ihc r (info.addName r.paramName)
      obtain ⟨hrel', hdepth', hnames', hnodup'⟩ :=
        iht parent (parseEntityTree includeRelations (.node r cs) (info.addName r.paramName)).2
      obtain ⟨hnode, hinfo, hmax⟩ :=
        parseEntityTree_node includeRelations r cs (info.addName r.paramName)
      rw [hdepth, TreeInfo.maxDepth_addName, hrel, Nat.add_assoc, ← inner_node] at hmax
      rw [parseChildren, RoseTree.prune, RoseTree.label_node, if_pos hk, if_pos hk,
        RoseTree.pruneTree]
      dsimp only
      refine ⟨?_, ?_, fun n => ?_, fun hnd => ?_⟩
      · rw [hrel', hnode, hrel]
      · rw [hdepth', hmax, RoseTree.innerSum, Nat.add_assoc]
      · rw [hnames', hinfo, hnames, TreeInfo.mem_addName, RoseTree.occurs_cons]
        tauto
      · exact hnodup' (hinfo ▸ hnodup (TreeInfo.nodup_addName hnd))
    · rw [parseChildren, RoseTree.prune, RoseTree.label_node, if_neg hk, if_neg hk]
      exact iht parent info

/-- The parse of a whole tree. -/
theorem parseEntityTree_spec (t : EntityTreeRelation) (info : TreeInfo) :
    (parseEntityTree includeRelations t info).1 =
        RoseTree.prune (isIncluded includeRelations) t.label t.children ∧
      (parseEntityTree includeRelations t info).2.maxDepth = info.maxDepth +
        RoseTree.inner
          (.node t.label (RoseTree.prune (isIncluded includeRelations) t.label t.children)) ∧
      (∀ n, n ∈ (parseEntityTree includeRelations t info).2.requiredParamNames ↔
        n ∈ info.requiredParamNames ∨ RoseTree.Occurs (fun r => r.paramName = n)
          (RoseTree.prune (isIncluded includeRelations) t.label t.children)) ∧
      (info.requiredParamNames.Nodup →
        (parseEntityTree includeRelations t info).2.requiredParamNames.Nodup) := by
  obtain ⟨r, cs⟩ := t
  obtain ⟨hrel, hdepth, hnames, hnodup⟩ := parseChildren_spec includeRelations r cs info
  obtain ⟨hnode, hinfo, hmax⟩ := parseEntityTree_node includeRelations r cs info
  rw [hdepth, hrel, Nat.add_assoc, ← inner_node] at hmax
  rw [RoseTree.label_node, RoseTree.children_node, hinfo, hnode]
  exact ⟨hrel, hmax, hnames, hnodup⟩

end Parse

/-! ## The calls -/

section Calls

variable {localeLE : String → String → Bool} {action : EntityInlineParentAction}

/-- The tree that is built for an action, parsed. -/
theorem fetchEntityTree_miss (cache : JsObject EntityTree) (fromCache : Bool)
    (h : fromCache = true →
      cache.get? (generateCacheKey localeLE action.entity.key action) = none) :
    (fetchEntityTree localeLE cache action fromCache).1 =
      (fetchEntityTree localeLE JsObject.empty action false).1 := by
  cases fromCache with
  | false => rfl
  | true =>
    have hnone := h rfl
    simp only [fetchEntityTree, hnone]

/-- A call that keeps no relation returns the bare tree, whether it is built or was in the
cache. -/
theorem fetchEntityTree_bare
    (hnone : ∀ r, action.entity.HasChild r → isIncluded action.included action.root r = false) :
    (fetchEntityTree localeLE JsObject.empty action false).1 = ⟨0, .node action.root [], []⟩ := by
  have hparse := parseChildren_of_not_included action.included action.root
    (buildEntityTree action.entity) (fun t ht => by
      obtain ⟨r, hr, rfl⟩ := mem_buildEntityTree.1 ht
      exact hnone r hr) ⟨[], 0⟩
  have htree : parseEntityTree action.included (createEntityTree action.entity
      action.isArray).rootRelation ⟨[], 0⟩ = ([], ⟨[], 0⟩) := by
    rw [createEntityTree, parseEntityTree]
    dsimp only
    rw [EntityInlineParentAction.root] at hparse
    rw [hparse]
    rfl
  simp only [fetchEntityTree]
  rw [show (createEntityTree action.entity action.isArray).requiredParamNames = [] from rfl,
    show (createEntityTree action.entity action.isArray).maxDepth = 0 from rfl, htree]
  rfl

theorem fetchEntityTree_hit {cache : JsObject EntityTree}
    (h : cache.get? (generateCacheKey localeLE action.entity.key action) =
      some ⟨0, .node action.root [], []⟩) :
    (fetchEntityTree localeLE cache action true).1 = ⟨0, .node action.root [], []⟩ := by
  simp only [fetchEntityTree, h]
  rfl

/-- The tree of an action on whose levels no two kept siblings keep relations. -/
theorem isExactTree_fresh (hone : RoseTree.OneBranch (isIncluded action.included) action.root
    (buildEntityTree action.entity)) :
    IsExactTree action (fetchEntityTree localeLE JsObject.empty action false).1 := by
  obtain ⟨hrel, hdepth, hnames, hnodup⟩ := parseEntityTree_spec action.included
    (.node action.root (buildEntityTree action.entity)) ⟨[], 0⟩
  rw [RoseTree.label_node, RoseTree.children_node] at hrel hdepth hnames
  rw [RoseTree.inner_eq_height (RoseTree.unbranched_prune hone), Nat.zero_add] at hdepth
  have hpaths : ∀ rs, RoseTree.IsPath (RoseTree.prune (isIncluded action.included) action.root
      (buildEntityTree action.entity)) rs ↔ KeptPath action.included action.root rs := fun rs => by
    rw [RoseTree.isPath_prune, isPath_buildEntityTree]
    rfl
  refine ⟨rfl, fun rs => ?_, fun n => ?_, hnodup List.nodup_nil, ?_, fun rs hrs => ?_⟩
  · rw [← hpaths, ← hrel]
    rfl
  · refine (hnames n).trans ?_
    rw [or_iff_right List.not_mem_nil]
    exact exists_congr fun rs => exists_congr fun r => and_congr_left fun _ => hpaths _
  · obtain ⟨rs, hrs, hlen⟩ := RoseTree.exists_isPath_height
      (RoseTree.prune (isIncluded action.included) action.root (buildEntityTree action.entity))
    exact ⟨rs, (hpaths rs).1 hrs, hlen.trans hdepth.symm⟩
  · exact (RoseTree.length_le_height ((hpaths rs).2 hrs)).trans hdepth.symm.le

/-- Every sequence of calls on a fresh cache returns, call by call, the tree that the call
returns without the cache, and that tree is exact, when the calls keep to one branch and the
cache answers only calls that keep no relation. -/
theorem fetchEntityTrees_exact (localeLE : String → String → Bool)
    (calls : List (EntityInlineParentAction × Bool))
    (h : CallsAreExact localeLE JsObject.empty calls) :
    List.Forall₂ (fun call tree =>
        tree = (fetchEntityTree localeLE JsObject.empty call.1 false).1 ∧ IsExactTree call.1 tree)
      calls (fetchEntityTrees localeLE JsObject.empty calls) := by
  suffices hall : ∀ (cache : JsObject EntityTree), CallsAreExact localeLE cache calls →
      List.Forall₂ (fun call tree =>
          tree = (fetchEntityTree localeLE JsObject.empty call.1 false).1 ∧
            IsExactTree call.1 tree)
        calls (fetchEntityTrees localeLE cache calls) from hall _ h
  clear h
  induction calls with
  | nil => exact fun _ _ => .nil
  | cons call calls ih =>
    intro cache ⟨⟨hone, hcached⟩, hcalls⟩
    obtain ⟨action, fromCache⟩ := call
    have hfresh : (fetchEntityTree localeLE cache action fromCache).1 =
        (fetchEntityTree localeLE JsObject.empty action false).1 := by
      cases fromCache with
      | false => rfl
      | true =>
        cases hget : cache.get? (generateCacheKey localeLE action.entity.key action) with
        | none => exact fetchEntityTree_miss cache true fun _ => hget
        | some tree =>
          obtain ⟨rfl, hnone⟩ := hcached rfl tree hget
          rw [fetchEntityTree_hit hget, fetchEntityTree_bare hnone]
    refine .cons ⟨hfresh, ?_⟩ (ih _ hcalls)
    rw [hfresh]
    exact isExactTree_fresh hone

end Calls

/-! ## A call that is repeated -/

/-- An entity with one relation, which is included. -/
def oneRelation : EntityInlineParentAction where
  entity := .mk "parent" none (.cons "child" (.entity (.mk "child" none .nil)) .nil)
  isArray := false
  includeRelations := some ["parent-child"]

/-- The second call finds the tree in the cache and counts its depth again. -/
theorem not_fetchEntityTrees_exact_again :
    ¬∀ (localeLE : String → String → Bool) (calls : List (EntityInlineParentAction × Bool)),
      List.Forall₂ (fun call tree =>
          tree = (fetchEntityTree localeLE JsObject.empty call.1 false).1 ∧
            IsExactTree call.1 tree)
        calls (fetchEntityTrees localeLE JsObject.empty calls) := by
  intro h
  have hcalls := h (fun _ _ => true) [(oneRelation, true), (oneRelation, true)]
  rw [fetchEntityTrees, fetchEntityTrees, List.forall₂_cons, List.forall₂_cons] at hcalls
  have hdepth := congrArg EntityTree.maxDepth hcalls.2.1.1
  simp only [fetchEntityTree, JsObject.get?_set_self] at hdepth
  revert hdepth
  decide

/-- The same entity, and nothing is included. -/
def bareRelation : EntityInlineParentAction where
  entity := oneRelation.entity
  isArray := false
  includeRelations := some []

/-- The tree with the relation, and the bare tree twice, from the cache the second time. -/
theorem fetchEntityTrees_exact_bareTwice :
    List.Forall₂ (fun call tree =>
        tree = (fetchEntityTree (fun _ _ => true) JsObject.empty call.1 false).1 ∧
          IsExactTree call.1 tree)
      [(oneRelation, true), (bareRelation, true), (bareRelation, true)]
      (fetchEntityTrees (fun _ _ => true) JsObject.empty
        [(oneRelation, true), (bareRelation, true), (bareRelation, true)]) := by
  have hone : ∀ includeRelations, RoseTree.OneBranch (isIncluded includeRelations) bareRelation.root
      (buildEntityTree bareRelation.entity) := by
    intro includeRelations
    simp [bareRelation, oneRelation, buildEntityTree, buildFields, buildValue,
      RoseTree.OneBranch, RoseTree.OneBranchTree]
  have hbare : ∀ r, bareRelation.entity.HasChild r →
      isIncluded bareRelation.included bareRelation.root r = false := by
    intro r _
    simp [isIncluded, bareRelation, EntityInlineParentAction.included]
  have hkey : generateCacheKey (fun _ _ => true) bareRelation.entity.key bareRelation ≠
      generateCacheKey (fun _ _ => true) oneRelation.entity.key oneRelation := by
    simp only [generateCacheKey, bareRelation, oneRelation, EntityInlineParentAction.included,
      Option.getD_some, List.mergeSort_nil, List.mergeSort_singleton]
    decide
  have hmiss : (fetchEntityTree (fun _ _ => true) JsObject.empty oneRelation true).2.get?
      (generateCacheKey (fun _ _ => true) bareRelation.entity.key bareRelation) = none := by
    change (JsObject.empty.set (generateCacheKey _ oneRelation.entity.key oneRelation) _).get? _ =
      none
    rw [JsObject.get?_set, if_neg hkey]
    rfl
  refine fetchEntityTrees_exact _ _ ⟨⟨hone _, fun _ tree htree => ?_⟩,
    ⟨hone _, fun _ tree htree => ?_⟩, ⟨hone _, fun _ tree htree => ⟨?_, hbare⟩⟩, trivial⟩
  · cases htree
  · cases hmiss.symm.trans htree
  · obtain rfl := Option.some.inj ((JsObject.get?_set_self _ _ _).symm.trans htree)
    exact (fetchEntityTree_miss _ true fun _ => hmiss).trans (fetchEntityTree_bare hbare)

end Stratos
