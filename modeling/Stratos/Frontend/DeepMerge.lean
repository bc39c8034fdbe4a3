import Stratos.Lib.JsObject
import Stratos.Lib.Overlay

/-!
# Merging responses into the entity store

The store holds resources by type and id. A resource has an `entity` and may have `metadata`
(`IsResource`). `deepMergeState` of `reducer.helper.ts` merges a response into the store : type by
type, id by id, and the fields of the two parts.

It should put the response over the store, field by field (`storeOverlay`, `IsMerge`). The types
are merged with the function for resources, `mergeEntity`, so that a resource whose id is
`entity` is taken for the entity of its whole type : every id but `entity` and `metadata` is lost
then. `isMerge_iff` says that nothing else goes wrong, and `mergesWell_iff` what follows for
responses merged one after the other.

A property that is `undefined` is one that is absent.
-/

open Lib

namespace Stratos

namespace DeepMerge

variable {V : Type}

/-! ## The code -/

/-- `{...baseObject, ...newObject}`, where either may be `undefined`. -/
def merge {α : Type} (baseObject newObject : Option (JsObject α)) : JsObject α :=
  (baseObject.getD JsObject.empty).spread (newObject.getD JsObject.empty)

/-- A property, unless its value is `undefined`. -/
def setSome {α : Type} (o : JsObject α) (k : String) : Option α → JsObject α
  | some v => o.set k v
  | none => o

/-- The metadata are taken over even if the base has none. -/
def mergeMetadata {α : Type} (baseMetadata newMetadata : Option (JsObject α)) :
    Option (JsObject α) :=
  match baseMetadata with
  | some metadata => some (merge (some metadata) newMetadata)
  | none => newMetadata

/-- The function is used on resources and on all resources of a type. -/
def mergeEntity {α : Type} (baseEntity : Option (JsObject (JsObject α)))
    (newEntity : JsObject (JsObject α)) : JsObject (JsObject α) :=
  match baseEntity.bind fun base => base.get? "entity" with
  | some entity =>
    setSome (JsObject.empty.set "entity" (merge (some entity) (newEntity.get? "entity"))) "metadata"
      (mergeMetadata (baseEntity.bind fun base => base.get? "metadata") (newEntity.get? "metadata"))
  | none => merge baseEntity (some newEntity)

/-- `entity` and `metadata`, with their fields. -/
abbrev Resource (V : Type) := JsObject (JsObject V)

/-- The resources of a type, by their ids. -/
abbrev Slice (V : Type) := JsObject (Resource V)

/-- The resources, by type. -/
abbrev Store (V : Type) := JsObject (Slice V)

/-- The resources of a type : id by id, and once more as a whole. -/
def mergeType (baseStateEnt : Option (Slice V)) (newStateEnt : Slice V) : Slice V :=
  match baseStateEnt with
  | some base => mergeEntity (some base) (base.mergeWith mergeEntity newStateEnt)
  | none => newStateEnt

/-- `deepMergeState` : the new slices merged into the old ones, by type. -/
def deepMergeState (state newState : Store V) : Store V := state.mergeWith mergeType newState

/-! ## What merging is for -/

/-- The shape of a resource. -/
structure IsResource (r : Resource V) : Prop where
  entity : (r.get? "entity").isSome
  parts : ∀ part, (r.get? part).isSome → part = "entity" ∨ part = "metadata"

/-- All that is stored is a resource. -/
def IsStore (state : Store V) : Prop :=
  ∀ type slice id r, state.get? type = some slice → slice.get? id = some r → IsResource r

/-- An object as the map a reader sees. -/
def view {α β : Type} (f : α → β) (o : JsObject α) : String → Option β := fun k => (o.get? k).map f

/-- What a resource has at each path. -/
def resourceView : Resource V → String → Option (String → Option V) := view JsObject.get?

/-- What a slice has at each path. -/
def sliceView : Slice V → String → Option (String → Option (String → Option V)) := view resourceView

/-- The fields by type, id and part. -/
def storeView (state : Store V) :
    String → Option (String → Option (String → Option (String → Option V))) :=
  view sliceView state

/-- What two views give together, where the second one counts. -/
def resourceOverlay (f g : String → Option (String → Option V)) :
    String → Option (String → Option V) :=
  overlay (overlay fun _ b => b) f g

/-- The second store over the first, field by field. -/
def storeOverlay (f g : String → Option (String → Option (String → Option (String → Option V)))) :
    String → Option (String → Option (String → Option (String → Option V))) :=
  overlay (overlay resourceOverlay) f g

/-- The fields that both have are the same. -/
def FieldsAgree (f g : String → Option (String → Option (String → Option (String → Option V)))) :
    Prop :=
  Compatible (Compatible (Compatible (Compatible Eq))) f g

/-- The resource with the id, if it is there. -/
def getResource (state : Store V) (type id : String) : Option (Resource V) :=
  (state.get? type).bind (·.get? id)

/-- The merged store is the response over the store, and what is not in the response is the same
object as before. -/
structure IsMerge (state response : Store V) : Prop where
  fields : storeView (deepMergeState state response) =
    storeOverlay (storeView state) (storeView response)
  types : ∀ type, response.get? type = none →
    (deepMergeState state response).get? type = state.get? type
  ids : ∀ type id, getResource response type id = none →
    getResource (deepMergeState state response) type id = getResource state type id

/-- The merges that arise when two responses are merged into a store, in either order, one of
them again, or both together. -/
def merges (state first second : Store V) : List (Store V × Store V) :=
  [(state, first), (state, second),
    (deepMergeState state first, first), (deepMergeState state second, second),
    (deepMergeState state first, second), (deepMergeState state second, first),
    (first, second), (state, deepMergeState first second)]

/-- Two responses are merged as they should be. -/
structure MergesWell (state first second : Store V) : Prop where
  merge : ∀ m ∈ merges state first second, IsMerge m.1 m.2
  idempotent : storeView (deepMergeState (deepMergeState state first) first) =
    storeView (deepMergeState state first)
  associative : storeView (deepMergeState (deepMergeState state first) second) =
    storeView (deepMergeState state (deepMergeState first second))
  commutes : FieldsAgree (storeView first) (storeView second) →
    storeView (deepMergeState (deepMergeState state first) second) =
      storeView (deepMergeState (deepMergeState state second) first)

/-! ## The ids that are lost -/

/-- There is a slice of the type. -/
def HasType (state : Store V) (type : String) : Prop := (state.get? type).isSome

/-- There is a resource of the type with the id. -/
def HasId (state : Store V) (type id : String) : Prop := (getResource state type id).isSome

/-- In a type that both have, if the store has the id `entity`, no id is lost. -/
def NoIdLost (state response : Store V) : Prop :=
  ∀ type, HasType state type → HasType response type → HasId state type "entity" →
    ∀ id, HasId state type id ∨ HasId response type id → id = "entity" ∨ id = "metadata"

/-- No type of a response has the id `entity`, in the store or in a response, and another one
but `metadata`. -/
def NoEntityId (state first second : Store V) : Prop :=
  ∀ type, HasType first type ∨ HasType second type →
    (HasId state type "entity" ∨ HasId first type "entity" ∨ HasId second type "entity") →
    ∀ id, HasId state type id ∨ HasId first type id ∨ HasId second type id →
      id = "entity" ∨ id = "metadata"

/-! ## One level -/

section Levels

theorem get?_setSome {α : Type} (o : JsObject α) (k k' : String) (v : Option α) :
    (setSome o k v).get? k' = if k' = k then v.or (o.get? k) else o.get? k' := by
  cases v with
  | none =>
    by_cases hk : k' = k <;> simp [setSome, hk]
  | some v => simp [setSome, JsObject.get?_set]

theorem view_spread {α β : Type} (f : α → β) {o p : JsObject α}
    (h : ∀ k, p.get? k = none → o.get? k = none) : view f (o.spread p) = view f p := by
  funext k
  rw [view, view, JsObject.get?_spread]
  cases hp : p.get? k with
  | none => rw [h k hp, Option.or_none]
  | some v => rfl

theorem get?_merge {α : Type} (o p : JsObject α) :
    (merge (some o) (some p)).get? = overlay (fun _ b => b) o.get? p.get? := by
  funext k
  simp only [merge, Option.getD_some, JsObject.get?_spread, overlay]
  cases o.get? k <;> cases p.get? k <;> rfl

theorem merge_none {α : Type} (o : Option (JsObject α)) (k : String) :
    (merge none o).get? k = o.bind (·.get? k) := by
  cases o with
  | none => rfl
  | some p => simp [merge, JsObject.get?_spread]

/-- Without an entity in the base. -/
theorem get?_mergeEntity_of_none {α : Type} {base : JsObject (JsObject α)}
    (h : base.get? "entity" = none) (new : JsObject (JsObject α)) (k : String) :
    (mergeEntity (some base) new).get? k = (new.get? k).or (base.get? k) := by
  simp [mergeEntity, h, merge, JsObject.get?_spread]

/-- With an entity in the base nothing but the two parts is there. -/
theorem get?_mergeEntity_of_some {α : Type} {base : JsObject (JsObject α)} {entity : JsObject α}
    (h : base.get? "entity" = some entity) (new : JsObject (JsObject α)) (k : String) :
    (mergeEntity (some base) new).get? k =
      if k = "entity" then some (merge (some entity) (new.get? "entity"))
      else if k = "metadata" then mergeMetadata (base.get? "metadata") (new.get? "metadata")
      else none := by
  rw [mergeEntity, Option.bind_some, h]
  simp only [get?_setSome, JsObject.get?_set, Option.bind_some]
  by_cases hm : k = "metadata"
  · subst hm
    cases base.get? "metadata" <;> cases new.get? "metadata" <;> simp
  · by_cases he : k = "entity" <;> simp [hm, he]

variable {r n : Resource V}

theorem IsResource.get?_eq_none (h : IsResource r) {part : String} (hentity : part ≠ "entity")
    (hmetadata : part ≠ "metadata") : r.get? part = none := by
  by_contra hsome
  rcases h.parts part (Option.isSome_iff_ne_none.2 hsome) with h | h
  · exact hentity h
  · exact hmetadata h

/-- Resources are merged part by part. -/
theorem resourceView_mergeEntity (hr : IsResource r) (hn : IsResource n) :
    resourceView (mergeEntity (some r) n) =
      resourceOverlay (resourceView r) (resourceView n) := by
  obtain ⟨entity, hentity⟩ := Option.isSome_iff_exists.1 hr.entity
  obtain ⟨entity', hentity'⟩ := Option.isSome_iff_exists.1 hn.entity
  funext part
  simp only [resourceView, view, resourceOverlay, overlay, get?_mergeEntity_of_some hentity]
  by_cases he : part = "entity"
  · subst he
    rw [if_pos rfl, hentity, hentity']
    exact congrArg some (get?_merge entity entity')
  · rw [if_neg he]
    by_cases hm : part = "metadata"
    · subst hm
      rw [if_pos rfl]
      rcases r.get? "metadata" with _ | metadata <;> rcases n.get? "metadata" with _ | metadata'
      · rfl
      · rfl
      · simp [mergeMetadata, merge, JsObject.get?_spread, funext_iff]
      · exact congrArg some (get?_merge metadata metadata')
    · rw [if_neg hm, hr.get?_eq_none he hm, hn.get?_eq_none he hm]
      rfl

/-- A resource merged again over what it was. -/
theorem resourceView_spread (hr : IsResource r) (hn : IsResource n) :
    resourceView (r.spread (mergeEntity (some r) n)) =
      resourceView (mergeEntity (some r) n) := by
  refine view_spread JsObject.get? fun part hnone => ?_
  have hview := congrFun (resourceView_mergeEntity hr hn) part
  simp only [resourceView, view, resourceOverlay, overlay, hnone, Option.map_none] at hview
  simpa using (Option.merge_eq_none_iff.1 hview.symm).1

end Levels

/-! ## The resources of a type -/

section Slices

variable {base new : Slice V}

/-- The shapes of the resources of a type. -/
def IsSlice (slice : Slice V) : Prop := ∀ id r, slice.get? id = some r → IsResource r

theorem get?_mergeIds_of_none {id : String} (h : new.get? id = none) :
    (base.mergeWith mergeEntity new).get? id = base.get? id := by
  rw [JsObject.get?_mergeWith, h]

theorem get?_mergeIds_of_some {id : String} {n : Resource V} (h : new.get? id = some n) :
    (base.mergeWith mergeEntity new).get? id = some (mergeEntity (base.get? id) n) := by
  rw [JsObject.get?_mergeWith, h]

/-- Merged resources, each over what it was, look the same. -/
theorem view_mergeIds (hbase : IsSlice base) (hnew : IsSlice new) :
    sliceView (base.mergeWith mergeEntity new) =
      overlay resourceOverlay (sliceView base) (sliceView new) := by
  funext id
  simp only [sliceView, view, overlay]
  cases hn : new.get? id with
  | none => rw [get?_mergeIds_of_none hn, Option.map_none, Option.merge_none_right]
  | some n =>
    rw [get?_mergeIds_of_some hn]
    cases hr : base.get? id with
    | none =>
      have hview : resourceView (mergeEntity none n) = resourceView n := by
        funext part
        simp [resourceView, view, mergeEntity, merge_none]
      simp [hview]
    | some r =>
      simp [resourceView_mergeEntity (hbase id r hr) (hnew id n hn)]

theorem get?_mergeIds_eq_none {id : String} (h : (base.mergeWith mergeEntity new).get? id = none) :
    base.get? id = none := by
  cases hn : new.get? id with
  | none => rwa [get?_mergeIds_of_none hn] at h
  | some n =>
    rw [get?_mergeIds_of_some hn] at h
    simp at h

/-- A part of a type that is taken for a resource, merged again over what it was. -/
theorem merge_mergeIds (hbase : IsSlice base) (hnew : IsSlice new) {id : String} {r : Resource V}
    (hr : base.get? id = some r) : ∃ r', (base.mergeWith mergeEntity new).get? id = some r' ∧
      resourceView (merge (some r) (some r')) = resourceView r' ∧
      (new.get? id = none → merge (some r) (some r') = r) := by
  cases hn : new.get? id with
  | none =>
    rw [get?_mergeIds_of_none hn]
    have hself : merge (some r) (some r) = r := JsObject.spread_self r
    exact ⟨r, hr, by rw [hself], fun _ => hself⟩
  | some n =>
    rw [get?_mergeIds_of_some hn, hr]
    exact ⟨_, rfl, resourceView_spread (hbase id r hr) (hnew id n hn), fun h => by simp at h⟩

/-- No id of the two is lost. -/
def KeepsIds (base new : Slice V) : Prop :=
  (base.get? "entity").isSome → ∀ id, (base.get? id).isSome ∨ (new.get? id).isSome →
    id = "entity" ∨ id = "metadata"

/-- The outer merge changes nothing if it loses no id. -/
theorem outerMerge (hbase : IsSlice base) (hnew : IsSlice new) (hkeeps : KeepsIds base new)
    (id : String) :
    ((mergeEntity (some base) (base.mergeWith mergeEntity new)).get? id).map resourceView =
        ((base.mergeWith mergeEntity new).get? id).map resourceView ∧
      (new.get? id = none →
        (mergeEntity (some base) (base.mergeWith mergeEntity new)).get? id = base.get? id) := by
  cases hentity : base.get? "entity" with
  | none =>
    rw [get?_mergeEntity_of_none hentity]
    constructor
    · cases hid : (base.mergeWith mergeEntity new).get? id with
      | none => rw [get?_mergeIds_eq_none hid, Option.or_none]
      | some r => rfl
    · intro hn
      rw [get?_mergeIds_of_none hn]
      cases base.get? id <;> rfl
  | some r =>
    obtain ⟨r', hr', hview, hself⟩ := merge_mergeIds hbase hnew hentity
    rw [get?_mergeEntity_of_some hentity]
    by_cases he : id = "entity"
    · subst he
      rw [if_pos rfl, hr', hentity, Option.map_some, Option.map_some, hview]
      exact ⟨rfl, fun hn => by rw [hself hn]⟩
    · rw [if_neg he]
      by_cases hm : id = "metadata"
      · subst hm
        rw [if_pos rfl]
        cases hmetadata : base.get? "metadata" with
        | none =>
          refine ⟨rfl, fun hn => ?_⟩
          rw [mergeMetadata, get?_mergeIds_of_none hn, hmetadata]
        | some m =>
          obtain ⟨m', hm', hmview, hmself⟩ := merge_mergeIds hbase hnew hmetadata
          rw [mergeMetadata, hm', Option.map_some, Option.map_some, hmview]
          exact ⟨rfl, fun hn => by rw [hmself hn]⟩
      · have hnone : base.get? id = none ∧ new.get? id = none := by
          have hnot := mt (hkeeps (by rw [hentity]; rfl) id) (by simp [he, hm])
          simpa [not_or] using hnot
        rw [if_neg hm, get?_mergeIds_of_none hnone.2, hnone.1]
        exact ⟨rfl, fun _ => rfl⟩

end Slices

/-! ## The store -/

section Stores

variable {state response : Store V} {type : String}

theorem get?_deepMergeState_of_none (h : response.get? type = none) :
    (deepMergeState state response).get? type = state.get? type := by
  rw [deepMergeState, JsObject.get?_mergeWith, h]

theorem get?_deepMergeState_of_some {new : Slice V} (h : response.get? type = some new) :
    (deepMergeState state response).get? type = some (mergeType (state.get? type) new) := by
  rw [deepMergeState, JsObject.get?_mergeWith, h]

theorem hasId_iff {state : Store V} {type id : String} : HasId state type id ↔
    ∃ slice, state.get? type = some slice ∧ (slice.get? id).isSome := by
  unfold HasId getResource
  cases state.get? type <;> simp

theorem NoIdLost.keepsIds (h : NoIdLost state response) {base new : Slice V}
    (hbase : state.get? type = some base) (hnew : response.get? type = some new) :
    KeepsIds base new := by
  have htype : ∀ {s : Store V} {slice : Slice V}, s.get? type = some slice → HasType s type :=
    fun hs => by rw [HasType, hs]; rfl
  have hids : ∀ {s : Store V} {slice : Slice V} {id : String}, s.get? type = some slice →
      (slice.get? id).isSome → HasId s type id := fun hs hid => hasId_iff.2 ⟨_, hs, hid⟩
  exact fun hentity id hid => h type (htype hbase) (htype hnew) (hids hbase hentity) id
    (hid.imp (hids hbase) (hids hnew))

theorem isMerge_of_noIdLost (hs : IsStore state) (hr : IsStore response)
    (h : NoIdLost state response) : IsMerge state response where
  fields := by
    funext type
    simp only [storeView, view, storeOverlay, overlay]
    cases hnew : response.get? type with
    | none => rw [get?_deepMergeState_of_none hnew, Option.map_none, Option.merge_none_right]
    | some new =>
      rw [get?_deepMergeState_of_some hnew]
      cases hbase : state.get? type with
      | none => rfl
      | some base =>
        have hslices := view_mergeIds (hs type base · · hbase) (hr type new · · hnew)
        refine congrArg some ?_
        rw [← hslices]
        funext id
        exact (outerMerge (hs type base · · hbase) (hr type new · · hnew)
          (h.keepsIds hbase hnew) id).1
  types _ := get?_deepMergeState_of_none
  ids type id hid := by
    unfold getResource at hid ⊢
    cases hnew : response.get? type with
    | none => rw [get?_deepMergeState_of_none hnew]
    | some new =>
      rw [hnew, Option.bind_some] at hid
      rw [get?_deepMergeState_of_some hnew]
      cases hbase : state.get? type with
      | none => exact hid
      | some base =>
        exact (outerMerge (hs type base · · hbase) (hr type new · · hnew)
          (h.keepsIds hbase hnew) id).2 hid

theorem isSome_storeView (state : Store V) (type : String) :
    (storeView state type).isSome ↔ HasType state type := by
  rw [storeView, view, Option.isSome_map, HasType]

theorem isSome_storeView_bind (state : Store V) (type id : String) :
    ((storeView state type).bind (· id)).isSome ↔ HasId state type id := by
  unfold storeView view HasId getResource
  cases state.get? type <;> simp [sliceView, view]

theorem IsMerge.hasType_iff (h : IsMerge state response) :
    HasType (deepMergeState state response) type ↔ HasType state type ∨ HasType response type := by
  rw [← isSome_storeView, ← isSome_storeView, ← isSome_storeView, h.fields, storeOverlay, overlay,
    Option.isSome_merge, Bool.or_eq_true]

theorem IsMerge.hasId_iff (h : IsMerge state response) {id : String} :
    HasId (deepMergeState state response) type id ↔
      HasId state type id ∨ HasId response type id := by
  rw [← isSome_storeView_bind, ← isSome_storeView_bind, ← isSome_storeView_bind, h.fields,
    storeOverlay, overlay]
  cases storeView state type <;> cases storeView response type <;> simp [overlay]

/-- With an entity in the base every other id is lost. -/
theorem noIdLost_of_isMerge (h : IsMerge state response) : NoIdLost state response := by
  intro type hstate hresponse hentity id hid
  obtain ⟨base, hbase, hsome⟩ := DeepMerge.hasId_iff.1 hentity
  obtain ⟨entity, hentity⟩ := Option.isSome_iff_exists.1 hsome
  obtain ⟨new, hnew⟩ := Option.isSome_iff_exists.1 hresponse
  obtain ⟨slice, hslice, hkept⟩ := DeepMerge.hasId_iff.1 (h.hasId_iff.2 hid)
  rw [get?_deepMergeState_of_some hnew, hbase] at hslice
  obtain rfl := Option.some.inj hslice
  by_contra hnot
  obtain ⟨he, hm⟩ := not_or.1 hnot
  rw [mergeType, get?_mergeEntity_of_some hentity, if_neg he, if_neg hm] at hkept
  simp at hkept

/-- A response is put over the store exactly when no id is lost. -/
theorem isMerge_iff (hs : IsStore state) (hr : IsStore response) :
    IsMerge state response ↔ NoIdLost state response :=
  ⟨noIdLost_of_isMerge, isMerge_of_noIdLost hs hr⟩

/-- The shape of a resource is a property of what a reader sees. -/
theorem isResource_iff {r : Resource V} : IsResource r ↔ (resourceView r "entity").isSome ∧
    ∀ part, (resourceView r part).isSome → part = "entity" ∨ part = "metadata" := by
  simp only [resourceView, view, Option.isSome_map]
  exact ⟨fun h => ⟨h.entity, h.parts⟩, fun h => ⟨h.1, h.2⟩⟩

theorem isStore_iff : IsStore state ↔ ∀ type id f, (storeView state type).bind (· id) = some f →
    (f "entity").isSome ∧ ∀ part, (f part).isSome → part = "entity" ∨ part = "metadata" := by
  have hview : ∀ type id, (storeView state type).bind (· id) =
      (getResource state type id).map resourceView := by
    intro type id
    unfold storeView view getResource
    cases state.get? type <;> simp [sliceView, view]
  constructor
  · intro h type id f hf
    rw [hview] at hf
    obtain ⟨r, hr, rfl⟩ := Option.map_eq_some_iff.1 hf
    obtain ⟨slice, hslice, hr⟩ := Option.bind_eq_some_iff.1 hr
    exact isResource_iff.1 (h type slice id r hslice hr)
  · intro h type slice id r hslice hr
    refine isResource_iff.2 (h type id _ ?_)
    rw [hview, getResource, hslice, Option.bind_some, hr, Option.map_some]

theorem IsMerge.isStore (h : IsMerge state response) (hs : IsStore state) (hr : IsStore response) :
    IsStore (deepMergeState state response) := by
  rw [isStore_iff] at *
  intro type id f hf
  have hs := hs type id
  have hr := hr type id
  rw [h.fields, storeOverlay, overlay] at hf
  generalize storeView state type = o at hs hf
  generalize storeView response type = o' at hr hf
  rcases o with _ | g <;> rcases o' with _ | g'
  · simp at hf
  · exact hr f hf
  · exact hs f hf
  · simp only [Option.merge_some_some, Option.bind_some, overlay] at hf hs hr
    rcases hg : g id with _ | a <;> rcases hg' : g' id with _ | b
    · simp [hg, hg'] at hf
    · exact hr f (by simpa [hg, hg'] using hf)
    · exact hs f (by simpa [hg, hg'] using hf)
    · obtain rfl : resourceOverlay a b = f := by simpa [hg, hg'] using hf
      obtain ⟨hentity, hparts⟩ := hs a hg
      obtain ⟨-, hparts'⟩ := hr b hg'
      simp only [resourceOverlay, overlay, Option.isSome_merge, Bool.or_eq_true]
      exact ⟨Or.inl hentity, fun part hpart => hpart.elim (hparts part) (hparts' part)⟩

end Stores

/-! ## Two responses -/

section Responses

variable {state first second : Store V}

theorem isOverlay_store : IsOverlay (storeOverlay (V := V))
    (Compatible (Compatible (Compatible (Compatible Eq)))) :=
  isOverlay_second.overlay.overlay.overlay.overlay

theorem hasType_of_hasId {state : Store V} {type id : String} (h : HasId state type id) :
    HasType state type := by
  obtain ⟨slice, hslice, -⟩ := hasId_iff.1 h
  rw [HasType, hslice]
  rfl

/-- The ids a merge finds are those of the store and the responses. -/
theorem noEntityId_of_merges (h : ∀ m ∈ merges state first second, IsMerge m.1 m.2) :
    NoEntityId state first second := by
  obtain ⟨h₁, h₂, h₁₁, h₂₂, h₁₂, h₂₁, -, -⟩ :
      IsMerge state first ∧ IsMerge state second ∧
        IsMerge (deepMergeState state first) first ∧
        IsMerge (deepMergeState state second) second ∧
        IsMerge (deepMergeState state first) second ∧
        IsMerge (deepMergeState state second) first ∧ IsMerge first second ∧
        IsMerge state (deepMergeState first second) := by
    simpa [merges] using h
  have hlost₁₁ := noIdLost_of_isMerge h₁₁
  have hlost₂₂ := noIdLost_of_isMerge h₂₂
  have hlost₁₂ := noIdLost_of_isMerge h₁₂
  have hlost₂₁ := noIdLost_of_isMerge h₂₁
  simp only [NoIdLost, h₁.hasType_iff, h₁.hasId_iff] at hlost₁₁ hlost₁₂
  simp only [NoIdLost, h₂.hasType_iff, h₂.hasId_iff] at hlost₂₂ hlost₂₁
  -- The entity is in the store or the first response, and the type in the first one.
  have hfirst : ∀ type, HasType first type → HasId state type "entity" ∨ HasId first type "entity" →
      ∀ id, HasId state type id ∨ HasId first type id ∨ HasId second type id →
        id = "entity" ∨ id = "metadata" := by
    rintro type htype hentity id (hid | hid | hid)
    · exact hlost₁₁ type (Or.inr htype) htype hentity id (Or.inl (Or.inl hid))
    · exact hlost₁₁ type (Or.inr htype) htype hentity id (Or.inr hid)
    · exact hlost₁₂ type (Or.inr htype) (hasType_of_hasId hid) hentity id (Or.inr hid)
  have hsecond : ∀ type, HasType second type →
      HasId state type "entity" ∨ HasId second type "entity" →
      ∀ id, HasId state type id ∨ HasId first type id ∨ HasId second type id →
        id = "entity" ∨ id = "metadata" := by
    rintro type htype hentity id (hid | hid | hid)
    · exact hlost₂₂ type (Or.inr htype) htype hentity id (Or.inl (Or.inl hid))
    · exact hlost₂₁ type (Or.inr htype) (hasType_of_hasId hid) hentity id (Or.inr hid)
    · exact hlost₂₂ type (Or.inr htype) htype hentity id (Or.inr hid)
  rintro type (htype | htype) (hentity | hentity | hentity)
  · exact hfirst type htype (Or.inl hentity)
  · exact hfirst type htype (Or.inr hentity)
  · exact hsecond type (hasType_of_hasId hentity) (Or.inr hentity)
  · exact hsecond type htype (Or.inl hentity)
  · exact hfirst type (hasType_of_hasId hentity) (Or.inr hentity)
  · exact hsecond type htype (Or.inr hentity)

theorem merges_of_noEntityId (hs : IsStore state) (h₁ : IsStore first) (h₂ : IsStore second)
    (h : NoEntityId state first second) : ∀ m ∈ merges state first second, IsMerge m.1 m.2 := by
  have hids : ∀ type, HasType first type ∨ HasType second type → ∀ id,
      (HasId state type "entity" ∨ HasId first type "entity" ∨ HasId second type "entity") →
      (HasId state type id ∨ HasId first type id ∨ HasId second type id) →
      id = "entity" ∨ id = "metadata" := fun type htype id hentity => h type htype hentity id
  have hm₁ : IsMerge state first := (isMerge_iff hs h₁).2 fun type _ htype hentity id hid =>
    hids type (Or.inl htype) id (by tauto) (by tauto)
  have hm₂ : IsMerge state second := (isMerge_iff hs h₂).2 fun type _ htype hentity id hid =>
    hids type (Or.inr htype) id (by tauto) (by tauto)
  have hm : IsMerge first second := (isMerge_iff h₁ h₂).2 fun type _ htype hentity id hid =>
    hids type (Or.inr htype) id (by tauto) (by tauto)
  have hs₁ := hm₁.isStore hs h₁
  have hs₂ := hm₂.isStore hs h₂
  have hs₁₂ := hm.isStore h₁ h₂
  have hlost₁₁ : NoIdLost (deepMergeState state first) first := by
    intro type _ htype hentity id hid
    rw [hm₁.hasId_iff] at hentity hid
    exact hids type (Or.inl htype) id (by tauto) (by tauto)
  have hlost₂₂ : NoIdLost (deepMergeState state second) second := by
    intro type _ htype hentity id hid
    rw [hm₂.hasId_iff] at hentity hid
    exact hids type (Or.inr htype) id (by tauto) (by tauto)
  have hlost₁₂ : NoIdLost (deepMergeState state first) second := by
    intro type _ htype hentity id hid
    rw [hm₁.hasId_iff] at hentity hid
    exact hids type (Or.inr htype) id (by tauto) (by tauto)
  have hlost₂₁ : NoIdLost (deepMergeState state second) first := by
    intro type _ htype hentity id hid
    rw [hm₂.hasId_iff] at hentity hid
    exact hids type (Or.inl htype) id (by tauto) (by tauto)
  have hlost : NoIdLost state (deepMergeState first second) := by
    intro type _ htype hentity id hid
    rw [hm.hasType_iff] at htype
    rw [hm.hasId_iff] at hid
    exact hids type htype id (by tauto) (by tauto)
  simp only [merges, List.forall_mem_cons, List.not_mem_nil, false_imp_iff, implies_true, and_true]
  exact ⟨hm₁, hm₂, (isMerge_iff hs₁ h₁).2 hlost₁₁, (isMerge_iff hs₂ h₂).2 hlost₂₂,
    (isMerge_iff hs₁ h₂).2 hlost₁₂, (isMerge_iff hs₂ h₁).2 hlost₂₁, hm,
    (isMerge_iff hs hs₁₂).2 hlost⟩

end Responses

/-- Two responses are merged as they should be exactly when no type of theirs has a resource with
the id `entity` besides others. -/
theorem mergesWell_iff (state first second : Store V) (hs : IsStore state) (h₁ : IsStore first)
    (h₂ : IsStore second) : MergesWell state first second ↔ NoEntityId state first second := by
  refine ⟨fun h => noEntityId_of_merges h.merge, fun h => ?_⟩
  have hmerges := merges_of_noEntityId hs h₁ h₂ h
  obtain ⟨hm₁, hm₂, hm₁₁, hm₂₂, hm₁₂, hm₂₁, hm, hms⟩ :
      IsMerge state first ∧ IsMerge state second ∧
        IsMerge (deepMergeState state first) first ∧
        IsMerge (deepMergeState state second) second ∧
        IsMerge (deepMergeState state first) second ∧
        IsMerge (deepMergeState state second) first ∧ IsMerge first second ∧
        IsMerge state (deepMergeState first second) := by
    simpa [merges] using hmerges
  have hoverlay := isOverlay_store (V := V)
  refine ⟨hmerges, ?_, ?_, fun hagree => ?_⟩
  · rw [hm₁₁.fields, hm₁.fields, hoverlay.absorb]
  · rw [hm₁₂.fields, hm₁.fields, hms.fields, hm.fields, hoverlay.assoc]
  · rw [hm₁₂.fields, hm₁.fields, hm₂₁.fields, hm₂.fields, hoverlay.assoc, hoverlay.assoc,
      hoverlay.comm _ _ hagree]

/-- A resource without metadata. -/
def bare (entity : JsObject V) : Resource V := JsObject.empty.set "entity" entity

theorem isResource_bare (entity : JsObject V) : IsResource (bare entity) where
  entity := by simp [bare]
  parts part h := by
    rw [bare, JsObject.get?_set] at h
    exact Or.inl (by simpa using h)

theorem IsStore.set {state : Store V} (h : IsStore state) (type : String) {slice : Slice V}
    (hslice : IsSlice slice) : IsStore (JsObject.set state type slice) := by
  intro type' slice' id r htype
  rw [JsObject.get?_set] at htype
  split_ifs at htype
  · cases htype
    exact hslice id r
  · exact h type' slice' id r htype

theorem IsSlice.set {slice : Slice V} (h : IsSlice slice) (id : String) {r : Resource V}
    (hr : IsResource r) : IsSlice (JsObject.set slice id r) := by
  intro id' r' hid
  rw [JsObject.get?_set] at hid
  split_ifs at hid
  · exact Option.some.inj hid ▸ hr
  · exact h id' r' hid

theorem isStore_empty : IsStore (V := V) JsObject.empty := fun type slice id r h => by
  simp at h

theorem isSlice_empty : IsSlice (V := V) JsObject.empty := fun id r h => by
  simp at h

/-- One type, one resource. -/
def single (type id : String) (entity : JsObject V) : Store V :=
  JsObject.empty.set type (JsObject.empty.set id (bare entity))

theorem isStore_single (type id : String) (entity : JsObject V) :
    IsStore (single type id entity) :=
  isStore_empty.set type (isSlice_empty.set id (isResource_bare entity))

/-- After a user with the id `entity` the next user is not stored. -/
theorem entity_id_loses_others :
    IsStore (single "user" "entity" (JsObject.empty.set "name" "client")) ∧
      IsStore (single "user" "admin" (JsObject.empty.set "name" "admin")) ∧
      getResource (deepMergeState (single "user" "entity" (JsObject.empty.set "name" "client"))
        (single "user" "admin" (JsObject.empty.set "name" "admin"))) "user" "admin" = none ∧
      ¬MergesWell (single "user" "entity" (JsObject.empty.set "name" "client"))
        (single "user" "admin" (JsObject.empty.set "name" "admin"))
        (single "user" "admin" (JsObject.empty.set "name" "admin")) := by
  refine ⟨isStore_single _ _ _, isStore_single _ _ _, by decide, fun h => ?_⟩
  have hlost := noEntityId_of_merges h.merge
  exact absurd (hlost "user" (Or.inl (by simp [HasType, single]))
    (Or.inl (by simp [HasId, getResource, single])) "admin"
    (Or.inr (Or.inl (by simp [HasId, getResource, single])))) (by decide)

/-- A stored user, one of another guid, and a newer response about the first. -/
theorem mergesWell_users :
    MergesWell (single "user" "admin" (JsObject.empty.set "name" "admin"))
      (single "user" "client" (JsObject.empty.set "name" "client"))
      (single "user" "admin" (JsObject.empty.set "active" "true")) :=
  (mergesWell_iff _ _ _ (isStore_single _ _ _) (isStore_single _ _ _) (isStore_single _ _ _)).2 (by
    intro type _ hentity
    simp only [HasId, getResource, single, JsObject.get?_set] at hentity
    split_ifs at hentity <;> simp [JsObject.get?_set] at hentity)

end DeepMerge

end Stratos
