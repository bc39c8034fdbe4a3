import Stratos.Frontend.FlatTree
import Stratos.Frontend.RequestState

/-!
# Recursive delete

The effects of `recursive-entity-delete.effect.ts` answer the start and the end of a delete with
the actions that mark the entities below the one that is deleted, and the reducers of the
request info (`deleting-child-entities.ts`) and of the request data (`cleanStateFromFlatTree`)
read these. The effects keep a tree for each guid.

The actions of the effects are reduced in the order in which they were dispatched, and anything
can happen to the store in between.
-/

open Lib

namespace Stratos

/-! ## The reducers -/

section Reducers

/-- `Partial<DeleteActionState>`, of the fields that the reducers set. -/
structure DeleteObject where
  busy : Bool
  deleted : Option Bool

/-- The progress of a deletion with the new flags. -/
def DeleteObject.assign (deleteObject : DeleteObject) (deleting : DeleteActionState) :
    DeleteActionState :=
  { deleting with
    busy := deleteObject.busy
    deleted := deleteObject.deleted.getD deleting.deleted }

/-- Types of entity without a slice are left out. -/
def setEntityRequestToObject (entityKey entityId : String) (state : IRequestTypeState)
    (deleteObject : DeleteObject) : IRequestTypeState :=
  match state.get? entityKey with
  | none => state
  | some slice =>
    let entityRequest := (slice.get? entityId).getD getDefaultRequestState
    state.set entityKey (slice.set entityId
      { entityRequest with deleting := deleteObject.assign entityRequest.deleting })

/-- The progress of all entities of the tree changed. -/
def reduceTreeToRequestState (tree : IFlatTree) (deleteObject : DeleteObject)
    (state : IRequestTypeState) : IRequestTypeState :=
  tree.ownKeys.foldl (fun state entityKey =>
    ((tree.get? entityKey).getD []).foldl (fun state entityId =>
      setEntityRequestToObject entityKey entityId state deleteObject) state) state

/-- The entities of the tree are being deleted. -/
def setChildEntitiesAsDeleting (state : IRequestTypeState) (tree : IFlatTree) :
    IRequestTypeState :=
  reduceTreeToRequestState tree ⟨true, none⟩ state

/-- The entities of the tree are deleted. -/
def setChildEntitiesAsDeleted (state : IRequestTypeState) (tree : IFlatTree) :
    IRequestTypeState :=
  reduceTreeToRequestState tree ⟨false, some true⟩ state

/-- The entities of the tree were not deleted. -/
def resetChildEntities (state : IRequestTypeState) (tree : IFlatTree) : IRequestTypeState :=
  reduceTreeToRequestState tree ⟨false, some false⟩ state

variable {α : Type}

/-- Throws when the type of entity has no slice. -/
def reduceIdToState (entityKey : String) (state : EntitySlices α) (id : String) :
    Option (EntitySlices α) := do
  let slice ← state.get? entityKey
  return state.set entityKey (slice.erase id)

/-- The entities without those of the tree. Throws without a slice. -/
def cleanStateFromFlatTree (state : EntitySlices α) (tree : IFlatTree) :
    Option (EntitySlices α) :=
  tree.ownKeys.foldlM (fun state entityKey =>
    ((tree.get? entityKey).getD []).foldlM (reduceIdToState entityKey) state) state

end Reducers

/-! ## The effects -/

/-- The actions that the effects dispatch. -/
inductive TreeAction
  | setTreeDeleting (parentGuid : String) (tree : IFlatTree)
  | setTreeDeleted (parentGuid : String) (tree : IFlatTree)
  | resetTreeDelete (parentGuid : String) (tree : IFlatTree)
  /-- The success of a `DeleteApplication`. -/
  | deleteSuccess (guid endpointGuid : String)
  | clearPaginationOfType (key : String)

/-- The slices, the cache of the effects, and the actions that are not reduced yet. -/
structure DeleteSystem (α : Type) where
  request : IRequestTypeState
  requestData : EntitySlices α
  entityTreeCache : JsObject IFlatTree
  queue : List TreeAction

section Effects

variable {α : Type} (denormalize : String → EntitySchema → EntitySlices α → Entity)
  (getId : EntitySchema → Entity → String)

/-- The tree, and the system with it in the cache. -/
def getTree (sys : DeleteSystem α) (guid : String) (schema : EntitySchema) :
    IFlatTree × DeleteSystem α :=
  let tree := match sys.entityTreeCache.get? guid with
    | some tree => tree
    | none => getFlatTree denormalize getId defaultExcludes schema guid sys.requestData
  (tree, { sys with entityTreeCache := sys.entityTreeCache.set guid tree })

/-- The actions of one type of entity, when a delete is complete. -/
def completeActions (guid endpointGuid key : String) : List TreeAction :=
  (if key = "application" then [.deleteSuccess guid endpointGuid] else []) ++
    [.clearPaginationOfType key]

/-- What can happen while an entity is deleted. -/
inductive DeleteEvent (α : Type)
  | recursiveDelete (guid : String) (schema : EntitySchema)
  | recursiveDeleteComplete (guid endpointGuid : String) (schema : EntitySchema)
  | recursiveDeleteFailed (guid endpointGuid : String) (schema : EntitySchema)
  /-- The first action of the queue is reduced. -/
  | reduce
  /-- Other actions change the slices. -/
  | change (request : IRequestTypeState) (requestData : EntitySlices α)

/-- The actions wait to be reduced. -/
def DeleteSystem.dispatch (sys : DeleteSystem α) (actions : List TreeAction) :
    DeleteSystem α :=
  { sys with queue := sys.queue ++ actions }

/-- What else the last two actions do is a change. -/
def reduceAction (sys : DeleteSystem α) : TreeAction → Option (DeleteSystem α)
  | .setTreeDeleting _ tree =>
    some { sys with request := setChildEntitiesAsDeleting sys.request tree }
  | .setTreeDeleted _ tree => do
    let requestData ← cleanStateFromFlatTree sys.requestData tree
    return { sys with
      request := setChildEntitiesAsDeleted sys.request tree
      requestData := requestData }
  | .resetTreeDelete _ tree =>
    some { sys with request := resetChildEntities sys.request tree }
  | .deleteSuccess _ _ => some sys
  | .clearPaginationOfType _ => some sys

/-- One event. Throws when the reducers do. -/
def deleteStep (sys : DeleteSystem α) : DeleteEvent α → Option (DeleteSystem α)
  | .recursiveDelete guid schema =>
    let r := getTree denormalize getId sys guid schema
    some (r.2.dispatch [.setTreeDeleting guid r.1])
  | .recursiveDeleteComplete guid endpointGuid schema =>
    let r := getTree denormalize getId sys guid schema
    some (r.2.dispatch (.setTreeDeleted guid r.1 ::
      r.1.ownKeys.flatMap (completeActions guid endpointGuid)))
  | .recursiveDeleteFailed guid _ schema =>
    let r := getTree denormalize getId sys guid schema
    some (r.2.dispatch [.resetTreeDelete guid r.1])
  | .reduce =>
    match sys.queue with
    | [] => some sys
    | action :: queue => reduceAction { sys with queue := queue } action
  | .change request requestData =>
    some { sys with request := request, requestData := requestData }

end Effects

/-! ## What the reducers do -/

section Spec

theorem get?_setEntityRequestToObject_isSome (entityKey entityId : String)
    (state : IRequestTypeState) (deleteObject : DeleteObject) (key : String) :
    ((setEntityRequestToObject entityKey entityId state deleteObject).get? key).isSome =
      (state.get? key).isSome := by
  unfold setEntityRequestToObject
  cases hget : state.get? entityKey with
  | none => rfl
  | some slice =>
    rw [JsObject.get?_set]
    by_cases hkey : key = entityKey
    · rw [if_pos hkey, hkey, hget]
      rfl
    · rw [if_neg hkey]

/-- One entity is set, if its type has a slice. -/
theorem requestInfo_setEntityRequestToObject (entityKey entityId : String)
    (state : IRequestTypeState) (deleteObject : DeleteObject) (key id : String) :
    requestInfo (setEntityRequestToObject entityKey entityId state deleteObject) key id =
      if key = entityKey ∧ id = entityId ∧ (state.get? key).isSome then
        { requestInfo state key id with
          deleting := deleteObject.assign (requestInfo state key id).deleting }
      else requestInfo state key id := by
  unfold setEntityRequestToObject
  by_cases hkey : key = entityKey
  · subst hkey
    cases hget : state.get? key with
    | none => simp
    | some slice =>
      rw [requestInfo, getEntity_set, if_pos rfl, JsObject.get?_set]
      by_cases hid : id = entityId
      · subst hid
        simp [requestInfo, getEntity, hget]
      · simp [requestInfo, getEntity, hget, hid]
  · cases hget : state.get? entityKey with
    | none => simp [hkey]
    | some slice => simp [requestInfo, getEntity_set, hkey]

theorem DeleteObject.assign_assign (deleteObject : DeleteObject) (deleting : DeleteActionState) :
    deleteObject.assign (deleteObject.assign deleting) = deleteObject.assign deleting := by
  obtain ⟨busy, deleted⟩ := deleteObject
  cases deleted <;> rfl

/-- The keys and ids of a tree, in the order in which they are visited. -/
def IFlatTree.pairs (tree : IFlatTree) : List (String × String) :=
  tree.ownKeys.flatMap fun key => ((tree.get? key).getD []).map fun id => (key, id)

theorem IFlatTree.mem_pairs {tree : IFlatTree} {key id : String} :
    (key, id) ∈ tree.pairs ↔ tree.Has key id := by
  rw [pairs, List.mem_flatMap, Has]
  constructor
  · rintro ⟨key', -, hid⟩
    obtain ⟨id', hid, heq⟩ := List.mem_map.1 hid
    cases heq
    exact hid
  · intro hid
    refine ⟨key, ?_, List.mem_map_of_mem hid⟩
    rw [JsObject.mem_ownKeys]
    by_contra hkey
    rw [JsObject.get?_eq_none_iff.2 hkey] at hid
    exact List.not_mem_nil hid

/-- The entities of the tree whose types have slices are set, and no others. -/
theorem requestInfo_reduceTreeToRequestState (tree : IFlatTree) (deleteObject : DeleteObject)
    (state : IRequestTypeState) (key id : String) :
    requestInfo (reduceTreeToRequestState tree deleteObject state) key id =
      if tree.Has key id ∧ (state.get? key).isSome then
        { requestInfo state key id with
          deleting := deleteObject.assign (requestInfo state key id).deleting }
      else requestInfo state key id := by
  have hfold : ∀ (ps : List (String × String)) (state : IRequestTypeState),
      requestInfo (ps.foldl (fun state p =>
        setEntityRequestToObject p.1 p.2 state deleteObject) state) key id =
        if (key, id) ∈ ps ∧ (state.get? key).isSome then
          { requestInfo state key id with
            deleting := deleteObject.assign (requestInfo state key id).deleting }
        else requestInfo state key id := by
    intro ps
    induction ps with
    | nil => simp
    | cons p ps ih =>
      intro state
      rw [List.foldl_cons, ih, get?_setEntityRequestToObject_isSome,
        requestInfo_setEntityRequestToObject]
      by_cases hslice : (state.get? key).isSome
      · by_cases hp : key = p.1 ∧ id = p.2
        · obtain ⟨key', id'⟩ := p
          obtain ⟨rfl, rfl⟩ := hp
          simp [hslice, DeleteObject.assign_assign]
        · have hne : (key, id) ≠ p := fun h => hp (by simp [← h])
          have hset : ¬(key = p.1 ∧ id = p.2 ∧ (state.get? key).isSome) := fun h =>
            hp ⟨h.1, h.2.1⟩
          rw [if_neg hset]
          simp [hslice, hne]
      · simp [hslice]
  have hpairs := hfold tree.pairs state
  simp only [IFlatTree.mem_pairs] at hpairs
  rw [reduceTreeToRequestState, ← hpairs, IFlatTree.pairs, List.foldl_flatMap]
  simp only [List.foldl_map]

section Clean

variable {α : Type}

/-- When every type of the tree has a slice, the tree can be removed. -/
theorem cleanStateFromFlatTree_isSome {state : EntitySlices α} {tree : IFlatTree}
    (h : ∀ key ∈ tree.keys, (state.get? key).isSome) :
    (cleanStateFromFlatTree state tree).isSome := by
  have hids : ∀ (key : String) (ids : List String) (state : EntitySlices α),
      (state.get? key).isSome → ∃ state', ids.foldlM (reduceIdToState key) state = some state' ∧
        ∀ key', (state.get? key').isSome → (state'.get? key').isSome := by
    intro key ids
    induction ids with
    | nil => exact fun state _ => ⟨state, rfl, fun _ h => h⟩
    | cons id ids ih =>
      intro state hkey
      obtain ⟨slice, hslice⟩ := Option.isSome_iff_exists.1 hkey
      have hkept : ∀ key', (state.get? key').isSome →
          ((state.set key (slice.erase id)).get? key').isSome := by
        intro key' hkey'
        rw [JsObject.get?_set]
        split_ifs
        · rfl
        · exact hkey'
      obtain ⟨state', hstate', hkeys⟩ := ih (state.set key (slice.erase id)) (hkept key hkey)
      refine ⟨state', ?_, fun key' hkey' => hkeys key' (hkept key' hkey')⟩
      simp only [List.foldlM_cons, reduceIdToState, hslice, Option.bind_eq_bind,
        Option.bind_some, Option.pure_def]
      exact hstate'
  have hkeys : ∀ (keys : List String) (state : EntitySlices α),
      (∀ key ∈ keys, (state.get? key).isSome) →
      (keys.foldlM (fun state entityKey =>
        ((tree.get? entityKey).getD []).foldlM (reduceIdToState entityKey) state)
        state).isSome := by
    intro keys
    induction keys with
    | nil => exact fun _ _ => rfl
    | cons key keys ih =>
      intro state hstate
      obtain ⟨state', hstate', hkept⟩ := hids key ((tree.get? key).getD []) state
        (hstate key List.mem_cons_self)
      rw [List.foldlM_cons, hstate', Option.bind_eq_bind, Option.bind_some]
      exact ih state' fun key' hkey' =>
        hkept key' (hstate key' (List.mem_cons_of_mem _ hkey'))
  exact hkeys _ _ fun key hkey => h key (JsObject.mem_ownKeys.1 hkey)

end Clean

end Spec

end Stratos
