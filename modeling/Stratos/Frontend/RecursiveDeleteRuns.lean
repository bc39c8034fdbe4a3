import Stratos.Frontend.FlatTreeExact
import Stratos.Frontend.RecursiveDelete

/-!
# Recursive deletes over whole runs

`RunIsExact` says of a run of deletes, with anything happening to the store in between, that a
`SetTreeDeleting` has exactly the entities that are below the deleted one in the store at that
moment, that the action that ends the delete has the same entities, and that none of them is
busy once that action is reduced.

The effects keep the tree of a guid for ever, so a delete that is tried again marks the entities
of the first time (`not_runIsExact_retry`). `runIsExact_of_clean` says that every run is exact
in which no guid that has a tree already is deleted, the trees are those of `getFlatTree_exact`,
and the types of a tree have slices when it is removed.
-/

open Lib

namespace Stratos

section Runs

variable {α : Type} (denormalize : String → EntitySchema → EntitySlices α → Entity)
  (getId : EntitySchema → Entity → String)

/-- The entity is below the deleted one in the store, down to the excluded types. -/
def IsDescendant (requestData : EntitySlices α) (guid : String) (schema : EntitySchema)
    (key id : String) : Prop :=
  ∃ x, Relation.TransGen (KeptChild ((defaultExcludes.get? schema.key).getD []))
    (schema, denormalize guid schema requestData) x ∧ IsFiled getId x key id

/-- The two trees have the same entities. -/
def SameEntities (tree tree' : IFlatTree) : Prop :=
  ∀ key id, tree.Has key id ↔ tree'.Has key id

/-! ## Exact runs -/

/-- What the step should do, with the trees of the deletes that have not ended. -/
def StepIsExact (marked : JsObject IFlatTree) (sys sys' : DeleteSystem α) :
    DeleteEvent α → Prop
  | .recursiveDelete guid schema => ∃ tree,
    sys'.queue = sys.queue ++ [.setTreeDeleting guid tree] ∧
      ∀ key id, tree.Has key id ↔ IsDescendant denormalize getId sys.requestData guid schema key id
  | .recursiveDeleteComplete guid _ _ => ∀ marks, marked.get? guid = some marks →
    ∃ tree actions, sys'.queue = sys.queue ++ .setTreeDeleted guid tree :: actions ∧
      SameEntities tree marks
  | .recursiveDeleteFailed guid _ _ => ∀ marks, marked.get? guid = some marks →
    ∃ tree, sys'.queue = sys.queue ++ [.resetTreeDelete guid tree] ∧ SameEntities tree marks
  | .reduce =>
    match sys.queue.head? with
    | some (.setTreeDeleting _ tree) => ∀ key id,
      (requestInfo sys'.request key id).deleting.busy =
        (decide (tree.Has key id ∧ (sys.request.get? key).isSome) ||
          (requestInfo sys.request key id).deleting.busy)
    | some (.setTreeDeleted _ tree) | some (.resetTreeDelete _ tree) => ∀ key id,
      tree.Has key id → (requestInfo sys'.request key id).deleting.busy = false
    | _ => True
  | .change _ _ => True

/-- The trees of the deletes that have not ended, after the step. -/
def nextMarked (marked : JsObject IFlatTree) (sys' : DeleteSystem α) :
    DeleteEvent α → JsObject IFlatTree
  | .recursiveDelete guid _ =>
    match sys'.queue.getLast? with
    | some (.setTreeDeleting _ tree) => marked.set guid tree
    | _ => marked
  | .recursiveDeleteComplete guid _ _ => marked.erase guid
  | .recursiveDeleteFailed guid _ _ => marked.erase guid
  | _ => marked

/-- No step of the run throws, and every step is exact. -/
def RunIsExact : JsObject IFlatTree → DeleteSystem α → List (DeleteEvent α) → Prop
  | _, _, [] => True
  | marked, sys, e :: events => ∃ sys', deleteStep denormalize getId sys e = some sys' ∧
    StepIsExact denormalize getId marked sys sys' e ∧
      RunIsExact (nextMarked marked sys' e) sys' events

/-! ## Clean runs -/

/-- What an event needs, so that the run deletes exactly what it should. -/
def StepIsClean (sys : DeleteSystem α) : DeleteEvent α → Prop
  | .recursiveDelete guid schema => sys.entityTreeCache.get? guid = none ∧
    IsDenormalised getId (schema, denormalize guid schema sys.requestData) ∧
      IsFiledByKey ((defaultExcludes.get? schema.key).getD [])
        (schema, denormalize guid schema sys.requestData)
  | .reduce => ∀ guid tree, sys.queue.head? = some (.setTreeDeleted guid tree) →
    ∀ key ∈ tree.keys, (sys.requestData.get? key).isSome
  | _ => True

/-- Every step of the run is clean when it happens. -/
def RunIsClean : DeleteSystem α → List (DeleteEvent α) → Prop
  | _, [] => True
  | sys, e :: events => StepIsClean denormalize getId sys e ∧
    ∀ sys', deleteStep denormalize getId sys e = some sys' → RunIsClean sys' events

variable {denormalize getId} {sys sys' : DeleteSystem α} {marked : JsObject IFlatTree}
  {guid endpointGuid : String} {schema : EntitySchema}

/-- The tree of every delete that has not ended is in the cache. -/
def MarkedCached (marked : JsObject IFlatTree) (sys : DeleteSystem α) : Prop :=
  ∀ guid tree, marked.get? guid = some tree → sys.entityTreeCache.get? guid = some tree

theorem getTree_cached {tree : IFlatTree} (h : sys.entityTreeCache.get? guid = some tree) :
    getTree denormalize getId sys guid schema = (tree, sys) := by
  simp only [getTree, h, JsObject.set_eq_self h]

theorem get?_getTree (guid' : String) :
    (getTree denormalize getId sys guid schema).2.entityTreeCache.get? guid' =
      if guid' = guid then some (getTree denormalize getId sys guid schema).1
      else sys.entityTreeCache.get? guid' :=
  JsObject.get?_set _ _ _ _

theorem entityTreeCache_reduce (h : deleteStep denormalize getId sys .reduce = some sys') :
    sys'.entityTreeCache = sys.entityTreeCache := by
  obtain ⟨request, requestData, cache, queue⟩ := sys
  cases queue with
  | nil =>
    obtain rfl := Option.some.inj h
    rfl
  | cons action queue =>
    cases action with
    | setTreeDeleted parentGuid tree =>
      obtain ⟨data, -, h⟩ := Option.bind_eq_some_iff.1 h
      obtain rfl := Option.some.inj h
      rfl
    | setTreeDeleting | resetTreeDelete | deleteSuccess | clearPaginationOfType =>
      obtain rfl := Option.some.inj h
      rfl

/-- A tree that is in the cache stays there. -/
theorem get?_deleteStep {e : DeleteEvent α} (h : deleteStep denormalize getId sys e = some sys')
    {tree : IFlatTree} (hget : sys.entityTreeCache.get? guid = some tree) :
    sys'.entityTreeCache.get? guid = some tree := by
  have htree : ∀ guid' schema, (getTree denormalize getId sys guid' schema).2.entityTreeCache.get?
      guid = some tree := by
    intro guid' schema
    rw [get?_getTree]
    split_ifs with hguid
    · rw [← hguid, getTree_cached hget]
    · exact hget
  cases e with
  | recursiveDelete | recursiveDeleteComplete | recursiveDeleteFailed =>
    obtain rfl := Option.some.inj h
    exact htree _ _
  | reduce => rw [entityTreeCache_reduce h, hget]
  | change =>
    obtain rfl := Option.some.inj h
    exact hget

/-- An action that ends a delete ends it on the tree that it marked. -/
theorem MarkedCached.getTree_fst (h : MarkedCached marked sys) {marks : IFlatTree}
    (hmarks : marked.get? guid = some marks) :
    (getTree denormalize getId sys guid schema).1 = marks := by
  rw [getTree_cached (h guid marks hmarks)]

/-! ## The steps -/

/-- A delete that finds no tree marks the descendants. -/
theorem stepIsExact_recursiveDelete
    (hclean : StepIsClean denormalize getId sys (.recursiveDelete guid schema))
    (h : deleteStep denormalize getId sys (.recursiveDelete guid schema) = some sys') :
    StepIsExact denormalize getId marked sys sys' (.recursiveDelete guid schema) := by
  obtain ⟨hnone, hgraph, hfiled⟩ := hclean
  obtain rfl := Option.some.inj h
  refine ⟨_, rfl, fun key id => ?_⟩
  have htree : (getTree denormalize getId sys guid schema).1 =
      getFlatTree denormalize getId defaultExcludes schema guid sys.requestData := by
    simp only [getTree, hnone]
  rw [htree]
  exact (has_getFlatTree denormalize getId defaultExcludes schema guid sys.requestData hgraph
    hfiled key id).trans (fieldsFile_iff (schema, denormalize guid schema sys.requestData))

/-- An entity of the tree is not busy once the tree has been reset or removed. -/
theorem busy_reduceTreeToRequestState {tree : IFlatTree} {state : IRequestTypeState}
    {deleteObject : DeleteObject} (hbusy : deleteObject.busy = false) {key id : String}
    (hmem : tree.Has key id) :
    (requestInfo (reduceTreeToRequestState tree deleteObject state) key id).deleting.busy =
      false := by
  rw [requestInfo_reduceTreeToRequestState]
  split_ifs with hslice
  · exact hbusy
  · have hnone : state.get? key = none := by
      rw [← Option.not_isSome_iff_eq_none]
      exact fun hsome => hslice ⟨hmem, hsome⟩
    rw [requestInfo, getEntity, hnone]
    rfl

theorem stepIsExact_reduce (h : deleteStep denormalize getId sys .reduce = some sys') :
    StepIsExact denormalize getId marked sys sys' .reduce := by
  obtain ⟨request, requestData, cache, queue⟩ := sys
  rw [StepIsExact]
  cases queue with
  | nil => trivial
  | cons action queue =>
    cases action with
    | setTreeDeleting parentGuid tree =>
      obtain rfl := Option.some.inj h
      intro key id
      dsimp only [setChildEntitiesAsDeleting]
      rw [requestInfo_reduceTreeToRequestState]
      split_ifs with hmem
      · simp [hmem.1, hmem.2, DeleteObject.assign]
      · simp only [hmem, decide_false, Bool.false_or]
    | setTreeDeleted parentGuid tree =>
      obtain ⟨data, -, h⟩ := Option.bind_eq_some_iff.1 h
      obtain rfl := Option.some.inj h
      exact fun key id hmem => busy_reduceTreeToRequestState rfl hmem
    | resetTreeDelete parentGuid tree =>
      obtain rfl := Option.some.inj h
      exact fun key id hmem => busy_reduceTreeToRequestState rfl hmem
    | deleteSuccess | clearPaginationOfType => trivial

/-- The cache has the trees of the deletes that have not ended after the step. -/
theorem MarkedCached.next (hcached : MarkedCached marked sys) {e : DeleteEvent α}
    (h : deleteStep denormalize getId sys e = some sys') :
    MarkedCached (nextMarked marked sys' e) sys' := by
  have hkept : MarkedCached marked sys' := fun guid tree htree =>
    get?_deleteStep h (hcached guid tree htree)
  have herase : ∀ guid, MarkedCached (marked.erase guid) sys' := by
    intro guid guid' tree htree
    rw [JsObject.get?_erase] at htree
    split_ifs at htree
    exact hkept guid' tree htree
  cases e with
  | recursiveDelete guid schema =>
    obtain rfl := Option.some.inj h
    intro guid' tree htree
    simp only [nextMarked, DeleteSystem.dispatch, List.getLast?_append, List.getLast?_singleton,
      Option.some_or] at htree
    rw [JsObject.get?_set] at htree
    split_ifs at htree with hguid
    · rw [hguid, ← htree]
      exact (get?_getTree guid).trans (if_pos rfl)
    · exact hkept guid' tree htree
  | recursiveDeleteComplete guid endpointGuid schema => exact herase guid
  | recursiveDeleteFailed guid endpointGuid schema => exact herase guid
  | reduce => exact hkept
  | change request requestData => exact hkept

/-- A clean step does not throw, and is exact. -/
theorem exists_step_of_clean (hcached : MarkedCached marked sys) {e : DeleteEvent α}
    (hclean : StepIsClean denormalize getId sys e) :
    ∃ sys', deleteStep denormalize getId sys e = some sys' ∧
      StepIsExact denormalize getId marked sys sys' e := by
  cases e with
  | recursiveDelete guid schema => exact ⟨_, rfl, stepIsExact_recursiveDelete hclean rfl⟩
  | recursiveDeleteComplete guid endpointGuid schema =>
    refine ⟨_, rfl, fun marks hmarks => ⟨_, _, rfl, fun key id => ?_⟩⟩
    rw [hcached.getTree_fst hmarks]
  | recursiveDeleteFailed guid endpointGuid schema =>
    refine ⟨_, rfl, fun marks hmarks => ⟨_, rfl, fun key id => ?_⟩⟩
    rw [hcached.getTree_fst hmarks]
  | reduce =>
    obtain ⟨sys', h⟩ : ∃ sys', deleteStep denormalize getId sys .reduce = some sys' := by
      obtain ⟨request, requestData, cache, queue⟩ := sys
      cases queue with
      | nil => exact ⟨_, rfl⟩
      | cons action queue =>
        cases action with
        | setTreeDeleted parentGuid tree =>
          obtain ⟨data, hdata⟩ := Option.isSome_iff_exists.1
            (cleanStateFromFlatTree_isSome (hclean parentGuid tree rfl))
          simp only [deleteStep, reduceAction]
          rw [show cleanStateFromFlatTree requestData tree = some data from hdata]
          exact ⟨_, rfl⟩
        | setTreeDeleting | resetTreeDelete | deleteSuccess | clearPaginationOfType =>
          exact ⟨_, rfl⟩
    exact ⟨sys', h, stepIsExact_reduce h⟩
  | change request requestData => exact ⟨_, rfl, trivial⟩

/-- Every clean run is exact. -/
theorem runIsExact_of_clean (denormalize : String → EntitySchema → EntitySlices α → Entity)
    (getId : EntitySchema → Entity → String) (sys : DeleteSystem α)
    (events : List (DeleteEvent α)) (h : RunIsClean denormalize getId sys events) :
    RunIsExact denormalize getId JsObject.empty sys events := by
  suffices hall : ∀ (marked : JsObject IFlatTree) (sys : DeleteSystem α),
      MarkedCached marked sys → RunIsClean denormalize getId sys events →
        RunIsExact denormalize getId marked sys events from
    hall _ sys (fun guid tree htree => by simp at htree) h
  clear h
  induction events with
  | nil => exact fun _ _ _ _ => trivial
  | cons e events ih =>
    intro marked sys hcached ⟨hstep, hrest⟩
    obtain ⟨sys', hsys', hexact⟩ := exists_step_of_clean hcached hstep
    exact ⟨sys', hsys', hexact, ih _ sys' (hcached.next hsys') (hrest sys' hsys')⟩

end Runs

/-! ## A delete that is tried again -/

/-- `denormalize`, for an entity with at most one child. -/
def denormalizeChild (guid : String) (schema : EntitySchema) (requestData : EntitySlices Entity) :
    Entity :=
  match getEntity requestData schema.key guid with
  | none => .absent
  | some entity =>
    match entity.get "child" with
    | .text id => .object [("guid", entity.get "guid"),
      ("child", (getEntity requestData "child" id).getD .absent)]
    | _ => entity

/-- The parent without a child. -/
def childlessData : EntitySlices Entity :=
  (JsObject.empty.set "parent" (JsObject.empty.set "1" (.object [("guid", .text "1")]))).set
    "child" JsObject.empty

/-- The parent with its child. -/
def childData : EntitySlices Entity :=
  (JsObject.empty.set "parent" (JsObject.empty.set "1"
    (.object [("guid", .text "1"), ("child", .text "2")]))).set
      "child" (JsObject.empty.set "2" childEntity)

/-- A system with one entity that has no children. -/
def childlessSystem : DeleteSystem Entity where
  request := JsObject.empty.set "child" JsObject.empty
  requestData := childlessData
  entityTreeCache := JsObject.empty
  queue := []

theorem getFlatTree_childless : getFlatTree denormalizeChild guidOf defaultExcludes
    (parentSchema "child") "1" childlessData = JsObject.empty := by
  have hentity : denormalizeChild "1" (parentSchema "child") childlessData =
      .object [("guid", .text "1")] := by rfl
  have hroot : isExcluded ((defaultExcludes.get? (parentSchema "child").key).getD [])
      (.entity (parentSchema "child")) = false := by decide
  rw [getFlatTree, hentity, build, buildSchema.eq_def, if_neg (by simp [Entity.truthy, hroot])]
  dsimp only
  rw [applySchemaToTree, if_neg (by simp [Entity.truthy]), if_pos rfl]
  have hchild : Entity.get (.object [("guid", .text "1")]) "child" = .absent := rfl
  rw [parentSchema, EntitySchema.definition, applyFields, hchild, applyFields,
    applyField_of_not_truthy rfl]

/-- A delete fails, the entity gets a child, and the delete is tried again. -/
theorem not_runIsExact_retry :
    ¬∀ (denormalize : String → EntitySchema → EntitySlices Entity → Entity)
      (getId : EntitySchema → Entity → String) (sys : DeleteSystem Entity)
      (events : List (DeleteEvent Entity)), sys.entityTreeCache = JsObject.empty →
      RunIsExact denormalize getId JsObject.empty sys events := by
  intro h
  obtain ⟨s₁, h₁, -, s₂, h₂, -, s₃, h₃, -, s₄, h₄, -, s₅, h₅, -, s₆, h₆, hexact, -⟩ :=
    h denormalizeChild guidOf childlessSystem
      [.recursiveDelete "1" (parentSchema "child"), .reduce,
        .recursiveDeleteFailed "1" "cf" (parentSchema "child"), .reduce,
        .change childlessSystem.request childData,
        .recursiveDelete "1" (parentSchema "child")] rfl
  -- The tree of the first delete is empty, and stays in the cache.
  have hc₁ : s₁.entityTreeCache.get? "1" = some JsObject.empty := by
    obtain rfl := Option.some.inj h₁
    refine (get?_getTree "1").trans ?_
    rw [if_pos rfl, ← getFlatTree_childless]
    rfl
  have hc₅ := get?_deleteStep h₅ (get?_deleteStep h₄ (get?_deleteStep h₃
    (get?_deleteStep h₂ hc₁)))
  obtain ⟨tree, hqueue, htree⟩ := hexact
  obtain rfl := Option.some.inj h₆
  rw [getTree_cached hc₅] at hqueue
  obtain rfl : JsObject.empty = tree := by simpa [DeleteSystem.dispatch] using hqueue
  refine IFlatTree.not_has_empty "child" "2" ((htree "child" "2").2 ?_)
  obtain rfl := Option.some.inj h₅
  exact ⟨(.mk "child" none .nil, childEntity), Relation.TransGen.single
    ⟨(isChild_parent (by decide)).2 rfl, by decide⟩, rfl, rfl⟩

/-- A delete that fails. -/
theorem runIsExact_of_clean_once :
    RunIsExact denormalizeChild guidOf JsObject.empty
      { childlessSystem with requestData := childData }
      [.recursiveDelete "1" (parentSchema "child"), .reduce,
        .recursiveDeleteFailed "1" "cf" (parentSchema "child"), .reduce] :=
  runIsExact_of_clean _ _ _ _ ⟨⟨rfl, isDenormalised_parent (by decide), isFiledByKey_parent⟩,
    fun s₁ h₁ => ⟨fun guid tree htree => (by
      obtain rfl := Option.some.inj h₁
      cases htree), fun s₂ h₂ => ⟨trivial, fun s₃ h₃ => ⟨fun guid tree htree => (by
        obtain rfl := Option.some.inj h₁
        obtain rfl := Option.some.inj h₂
        obtain rfl := Option.some.inj h₃
        cases htree), fun _ _ => trivial⟩⟩⟩⟩

end Stratos
