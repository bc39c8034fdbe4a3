import Stratos.Lib.JsValue
import Stratos.Lib.Lists

/-!
# The resources of a response

A response has the data of several endpoints, each with a single resource or a page of them.
`getEntities` collects the resources of the endpoints that have not failed, and
`completeResourceEntity` gives each of them, and each resource that is nested in it, the guid of
its endpoint and its own.

A nested resource is entered by a path of fields and elements of arrays (`follow`), through the
entities of resources and through other objects (`fields`). Every resource on such a path should
have its tags in the result (`Tagged`). But the guid of a nested resource is read from its metadata
even if that is null, and then nothing is collected, and an object whose metadata is null is taken
for an entity elsewhere. `tagsResources_getEntities_iff` says for which responses all is tagged.
-/

namespace Stratos

open Lib

namespace CompleteResource

/-! ## The code -/

/-- The value has metadata and an entity, as a resource does. -/
def instanceOfAPIResource (value : JsValue) : Bool :=
  value.isObject && value.has "metadata" && value.has "entity"

/-- `result.entity` before the nested entities -/
def resultEntity (cfGuid : String) (resource : JsValue) : JsObject JsValue :=
  if (resource.get "metadata").truthy then
    ((resource.get "entity").properties.set "guid" ((resource.get "metadata").get "guid")).set
      "cfGuid" (.string cfGuid)
  else resource.properties.set "cfGuid" (.string cfGuid)

/-- `result.metadata` -/
def resultMetadata (resource guid : JsValue) : JsValue :=
  if (resource.get "metadata").truthy then resource.get "metadata" else .object [("guid", guid)]

theorem sizeOf_of_mem_resultEntity {cfGuid : String} {resource v : JsValue} {key : String}
    (h : (key, v) ∈ (resultEntity cfGuid resource).entries) (hv : v.isObject = true) :
    sizeOf v < sizeOf resource := by
  have hset : ∀ {o : JsObject JsValue} {k : String} {value : JsValue},
      (key, v) ∈ (o.set k value).entries → v = value ∨ (key, v) ∈ o.entries := fun hmem =>
    (JsObject.mem_setEntry hmem).imp_left fun heq => (Prod.mk.inj heq).2
  rw [resultEntity] at h
  split_ifs at h
  · rcases hset h with rfl | h
    · exact nomatch hv
    · rcases hset h with rfl | h
      · have hmetadata := JsValue.isObject_of_mem_properties (JsValue.mem_properties_of_get hv) hv
        exact (JsValue.sizeOf_get_lt hv).trans (JsValue.sizeOf_get_lt hmetadata)
      · have hentity := JsValue.isObject_of_mem_properties h hv
        exact (JsValue.sizeOf_of_mem_properties h hv).trans (JsValue.sizeOf_get_lt hentity)
  · rcases hset h with rfl | h
    · exact nomatch hv
    · exact JsValue.sizeOf_of_mem_properties h hv

variable (text : JsValue → String)

/-- The `guid` that is given for an element of an array. -/
def itemGuid (guid : JsValue) (resourceKey : String) (nested : JsValue) : JsValue :=
  if (nested.get "metadata").truthy then (nested.get "metadata").get "guid"
  else .string (text guid ++ "-" ++ resourceKey)

/-- To read `guid` of metadata that is null throws. -/
def completeResourceEntity (cfGuid : String) (resource guid : JsValue) : Option JsValue :=
  if resource.truthy then
    ((resultEntity cfGuid resource).entries.attach.mapM fun field =>
      Option.map (field.1.1, ·) <|
        if instanceOfAPIResource field.1.2 then
          if (field.1.2.get "metadata").nullish then none
          else completeResourceEntity cfGuid field.1.2 ((field.1.2.get "metadata").get "guid")
        else match _h : field.1.2 with
          | .array items => Option.map JsValue.array (items.attach.mapM fun nested =>
              if nested.1.isObject then
                completeResourceEntity cfGuid nested.1 (itemGuid text guid field.1.1 nested.1)
              else some nested.1)
          | nestedResource => some nestedResource).map fun entity =>
      .object [("entity", .object entity), ("metadata", resultMetadata resource guid)]
  else some resource
termination_by sizeOf resource
decreasing_by
  · next happ _ =>
    have hobject : field.1.2.isObject = true := by
      rw [instanceOfAPIResource, Bool.and_assoc] at happ
      exact (Bool.and_eq_true_iff.1 happ).1
    exact sizeOf_of_mem_resultEntity field.2 hobject
  · have hitem := List.sizeOf_lt_of_mem nested.2
    have hfield := sizeOf_of_mem_resultEntity field.2 (by rw [_h]; rfl)
    rw [_h, JsValue.array.sizeOf_spec] at hfield
    omega

/-- What becomes of an element of an array. -/
def completeItem (cfGuid : String) (guid : JsValue) (resourceKey : String) (nested : JsValue) :
    Option JsValue :=
  if nested.isObject then
    completeResourceEntity text cfGuid nested (itemGuid text guid resourceKey nested)
  else some nested

/-- What becomes of a field. -/
def completeNested (cfGuid : String) (guid : JsValue) (resourceKey : String)
    (nestedResource : JsValue) : Option JsValue :=
  if instanceOfAPIResource nestedResource then
    if (nestedResource.get "metadata").nullish then none
    else completeResourceEntity text cfGuid nestedResource
      ((nestedResource.get "metadata").get "guid")
  else match nestedResource with
    | .array items =>
      (items.mapM (completeItem text cfGuid guid resourceKey)).map JsValue.array
    | nestedResource => some nestedResource

theorem completeResourceEntity_eq {resource : JsValue} (h : resource.truthy = true)
    (cfGuid : String) (guid : JsValue) :
    completeResourceEntity text cfGuid resource guid =
      ((resultEntity cfGuid resource).entries.mapM fun field =>
        (completeNested text cfGuid guid field.1 field.2).map (field.1, ·)).map fun entity =>
          .object [("entity", .object entity), ("metadata", resultMetadata resource guid)] := by
  rw [completeResourceEntity, if_pos h]
  refine congrArg (Option.map _) (Eq.trans ?_ (mapM_attach _))
  refine congrArg (List.mapM · _) (funext fun field => congrArg (Option.map _) ?_)
  unfold completeNested
  split_ifs
  · rfl
  · rfl
  · split
    · next items hitems =>
      rw [hitems]
      exact congrArg (Option.map _)
        (mapM_attach (f := completeItem text cfGuid guid field.1.1) items)
    · next value hvalue =>
      split
      · next items hitems => exact absurd hitems (hvalue items)
      · rfl

/-- Where the entities are in a response. -/
inductive RequestEntityLocation
  | array
  | object
  | resource
  deriving DecidableEq

/-- Whether the answer of an endpoint is an error. -/
structure APIErrorCheck where
  guid : String
  error : Bool

/-- `!!value.length` -/
def hasLength : JsValue → Bool
  | .array items => items ≠ []
  | .string s => s ≠ ""
  | .object fields => ((JsValue.object fields).get "length").truthy
  | _ => false

/-- `result.entity.guid = guid` -/
def setEntityGuid (result : JsValue) (guid : JsValue) : JsValue :=
  .object (result.properties.set "entity"
    (.object ((result.get "entity").properties.set "guid" guid).entries)).entries

/-- The entities of an endpoint. Only arrays have a `map`. -/
def endpointEntities (entityLocation : RequestEntityLocation) (actionGuid : JsValue)
    (cfGuid : String) (cfData : JsValue) : Option (List JsValue) :=
  match entityLocation with
  | .array =>
    if cfData.nullish then none
    else cfData.properties.ownKeys.mapM fun key =>
      let guid := .string (text actionGuid ++ "-" ++ key)
      if (cfData.get key).truthy then
        (completeResourceEntity text cfGuid (cfData.get key) guid).map (setEntityGuid · guid)
      else none
  | .object => (completeResourceEntity text cfGuid cfData actionGuid).map ([·])
  | .resource =>
    if cfData.nullish then none
    else if !(cfData.get "resources").truthy then
      (completeResourceEntity text cfGuid cfData actionGuid).map ([·])
    else if !hasLength (cfData.get "resources") then some [.null]
    else match cfData.get "resources" with
      | .array resources => resources.mapM fun resource =>
          if resource.nullish then none
          else completeResourceEntity text cfGuid resource (resource.get "guid")
      | _ => none

/-- The endpoints that have not failed, with their data. -/
def answered (data : JsObject JsValue) (errorCheck : List APIErrorCheck) :
    List (String × JsValue) :=
  data.ownKeys.filterMap fun guid =>
    (data.get? guid).bind fun cfData =>
      if !cfData.isNull && errorCheck.any (fun error => error.guid = guid && !error.error) then
        some (guid, cfData)
      else none

/-- The entities that are normalised. The totals of the pages are left out. -/
def getEntities (entityLocation : RequestEntityLocation) (actionGuid : JsValue)
    (data : JsObject JsValue) (errorCheck : List APIErrorCheck) : Option (List JsValue) :=
  ((answered data errorCheck).mapM fun endpoint =>
    endpointEntities text entityLocation actionGuid endpoint.1 endpoint.2).map fun allEntities =>
      allEntities.flatten.filter JsValue.truthy

/-! ## The tags -/

/-- A way to a nested value. -/
inductive Step
  /-- A field with a resource. -/
  | field (key : String)
  /-- An element of an array, which is an object. -/
  | item (key : String) (i : ℕ)

/-- What a step leads to, by the fields of the value it starts at. -/
def Step.go (fields : String → Option JsValue) : Step → Option JsValue
  | .field key => (fields key).filter instanceOfAPIResource
  | .item key i =>
    match fields key with
    | some (.array items) => items[i]?.filter JsValue.isObject
    | _ => none

/-- The value at the end of a path, where `fieldsOf` are the fields of a resource. -/
def follow (fieldsOf : JsValue → String → Option JsValue) : List Step → JsValue → Option JsValue
  | [], resource => some resource
  | step :: path, resource => (step.go (fieldsOf resource)).bind (follow fieldsOf path)

/-- A resource has metadata beside its entity. Any other object is taken for the entity alone. -/
def isResource (value : JsValue) : Bool :=
  instanceOfAPIResource value || (value.get "metadata").truthy

/-- The fields that a resource should have when it is completed, other than `cfGuid`. -/
def fields (resource : JsValue) (key : String) : Option JsValue :=
  if key = "cfGuid" then none
  else if (resource.get "metadata").truthy ∧ key = "guid" then
    some ((resource.get "metadata").get "guid")
  else if isResource resource then (resource.get "entity").properties.get? key
  else resource.properties.get? key

/-- The fields of a resource that is completed. -/
def entityFields (resource : JsValue) (key : String) : Option JsValue :=
  (resource.get "entity").properties.get? key

/-- Neither a resource nor an array. -/
def IsPlain (value : JsValue) : Prop :=
  instanceOfAPIResource value = false ∧ ∀ items, value ≠ .array items

/-- The result has the tags of the resource, and what it had before. A guid is plain. -/
structure HasTags (cfGuid : String) (resource result : JsValue) : Prop where
  metadata : isResource resource = true → result.get "metadata" = resource.get "metadata"
  keys : isResource resource = true → ∀ key, resource.has key = true → result.has key = true
  cfGuid : (resource.get "metadata").truthy = true →
    entityFields result "cfGuid" = some (.string cfGuid)
  guid : (resource.get "metadata").truthy = true →
    IsPlain ((resource.get "metadata").get "guid") →
      entityFields result "guid" = some ((resource.get "metadata").get "guid")
  kept : ∀ key, (fields resource key).isSome → (entityFields result key).isSome
  plain : ∀ key value, fields resource key = some value → IsPlain value →
    entityFields result key = some value

/-- Every resource that can be reached has its tags. -/
def Tagged (cfGuid : String) (resource result : JsValue) : Prop :=
  ∀ path nested, follow fields path resource = some nested →
    ∃ nested', follow entityFields path result = some nested' ∧ HasTags cfGuid nested nested'

/-- An endpoint has failed if it was checked to have an error. -/
def Failed (errorCheck : List APIErrorCheck) (guid : String) : Prop :=
  ∃ check ∈ errorCheck, check.guid = guid ∧ check.error = true

instance (errorCheck : List APIErrorCheck) (guid : String) : Decidable (Failed errorCheck guid) :=
  inferInstanceAs (Decidable (∃ check ∈ errorCheck, check.guid = guid ∧ check.error = true))

/-- The resources of a page. -/
def page (entityLocation : RequestEntityLocation) (cfData : JsValue) : Option (List JsValue) :=
  match entityLocation, cfData.get "resources" with
  | .resource, .array resources => some resources
  | _, _ => none

/-- The resources of an endpoint, those of its page or a single one. -/
def listed (entityLocation : RequestEntityLocation) (cfData : JsValue) : List JsValue :=
  (page entityLocation cfData).getD [cfData]

/-- The resources of a response with their endpoints. A value like null is none. -/
def responseResources (entityLocation : RequestEntityLocation) (data : JsObject JsValue)
    (errorCheck : List APIErrorCheck) : List (String × JsValue) :=
  (data.ownKeys.filter fun guid => ¬Failed errorCheck guid).flatMap fun guid =>
    (((data.get? guid).toList.flatMap (listed entityLocation)).filter JsValue.truthy).map (guid, ·)

/-- The entities are the resources of the endpoints that have not failed, with their tags. -/
def TagsResources (entityLocation : RequestEntityLocation) (data : JsObject JsValue)
    (errorCheck : List APIErrorCheck) (entities : Option (List JsValue)) : Prop :=
  ∃ flatEntities, entities = some flatEntities ∧
    List.Forall₂ (fun e result => Tagged e.1 e.2 result)
      (responseResources entityLocation data errorCheck) flatEntities

/-! ## What can be tagged -/

/-- A resource has its metadata, and nothing but that and its entity. -/
structure WellFormed (resource : JsValue) : Prop where
  metadata : instanceOfAPIResource resource = true → (resource.get "metadata").truthy = true
  keys : isResource resource = true → ∀ key, resource.has key = true →
    key = "metadata" ∨ key = "entity"

/-- Every resource that can be reached is well formed. -/
def Taggable (resource : JsValue) : Prop :=
  ∀ path nested, follow fields path resource = some nested → WellFormed nested

/-- The resources of an endpoint can be tagged, and those of a page are not null. -/
structure EndpointTaggable (entityLocation : RequestEntityLocation) (cfData : JsValue) : Prop where
  page : ∀ resources ∈ page entityLocation cfData, ∀ resource ∈ resources,
    resource.nullish = false
  listed : ∀ resource ∈ listed entityLocation cfData, resource.truthy = true → Taggable resource

/-- An endpoint has a single entity or a page, which is a list. No JSON value is `undefined`. -/
def Shaped (entityLocation : RequestEntityLocation) (cfData : JsValue) : Prop :=
  entityLocation = .object ∨ entityLocation = .resource ∧ cfData ≠ .undefined ∧
    ((cfData.get "resources").truthy = true → ∃ items, cfData.get "resources" = .array items)

/-! ## One resource -/

theorem truthy_of_isObject {value : JsValue} (h : value.isObject = true) :
    value.truthy = true := by
  cases value with
  | array | object => rfl
  | undefined | null | bool | number | string => exact nomatch h

theorem isObject_of_instance {value : JsValue} (h : instanceOfAPIResource value = true) :
    value.isObject = true := by
  rw [instanceOfAPIResource, Bool.and_assoc] at h
  exact (Bool.and_eq_true_iff.1 h).1

theorem not_instance_array (items : List JsValue) :
    instanceOfAPIResource (.array items) = false := by
  rw [instanceOfAPIResource, JsValue.has_array items ⟨'m', by decide, by decide⟩, Bool.and_false,
    Bool.false_and]

variable {text}
variable {cfGuid : String} {resource result guid : JsValue}

theorem completeNested_plain {key : String} {value : JsValue} (h : IsPlain value) :
    completeNested text cfGuid guid key value = some value := by
  unfold completeNested
  rw [if_neg (by simp [h.1])]
  split
  · next items => exact absurd rfl (h.2 items)
  · rfl

theorem WellFormed.truthy_of_isResource (h : WellFormed resource)
    (hresource : isResource resource = true) : (resource.get "metadata").truthy = true :=
  (Bool.or_eq_true_iff.1 hresource).elim h.metadata id

/-- The fields are those of the result before the loop, but for the guid of the endpoint. -/
theorem resultEntity_of_wellFormed (h : WellFormed resource) {key : String}
    (hkey : key ≠ "cfGuid") : (resultEntity cfGuid resource).get? key = fields resource key := by
  rw [resultEntity, fields, if_neg hkey]
  cases hmetadata : (resource.get "metadata").truthy with
  | true =>
    have hresource : isResource resource = true := Bool.or_eq_true_iff.2 (Or.inr hmetadata)
    rw [if_pos rfl, JsObject.get?_set, if_neg hkey, JsObject.get?_set]
    simp [hresource]
  | false =>
    have hresource : isResource resource = false := by
      by_contra hne
      exact nomatch hmetadata.symm.trans (h.truthy_of_isResource (Bool.eq_true_of_not_eq_false hne))
    rw [if_neg Bool.false_ne_true, JsObject.get?_set, if_neg hkey]
    simp [hresource]

theorem resultEntity_cfGuid :
    (resultEntity cfGuid resource).get? "cfGuid" = some (.string cfGuid) := by
  rw [resultEntity]
  split_ifs <;> exact JsObject.get?_set_self _ _ _

theorem resultEntity_of_fields (h : WellFormed resource) {key : String} {value : JsValue}
    (hvalue : fields resource key = some value) :
    (resultEntity cfGuid resource).get? key = some value := by
  have hkey : key ≠ "cfGuid" := by
    rintro rfl
    cases hvalue
  rw [resultEntity_of_wellFormed h hkey, hvalue]

/-- A field that is no text was one before. -/
theorem fields_of_resultEntity (h : WellFormed resource) {key : String} {value : JsValue}
    (hvalue : (resultEntity cfGuid resource).get? key = some value)
    (hobject : value.isObject = true) : fields resource key = some value := by
  by_cases hkey : key = "cfGuid"
  · subst hkey
    rw [resultEntity_cfGuid] at hvalue
    cases hvalue
    cases hobject
  · rw [← resultEntity_of_wellFormed h hkey, hvalue]

/-- What the result of a resource is made of. -/
theorem completeResourceEntity_spec (htruthy : resource.truthy = true)
    (h : completeResourceEntity text cfGuid resource guid = some result) :
    instanceOfAPIResource result = true ∧
      result.get "metadata" = resultMetadata resource guid ∧
      ∀ key value, (resultEntity cfGuid resource).get? key = some value →
        ∃ value', completeNested text cfGuid guid key value = some value' ∧
          entityFields result key = some value' := by
  rw [completeResourceEntity_eq text htruthy] at h
  obtain ⟨es, hes, rfl⟩ := Option.map_eq_some_iff.1 h
  obtain ⟨p, rfl, hget⟩ := JsObject.exists_of_mapM_entries hes
  refine ⟨rfl, rfl, fun key value hvalue => ?_⟩
  obtain ⟨value', hnested, hvalue'⟩ := hget key value hvalue
  refine ⟨value', hnested, ?_⟩
  change (JsValue.object p.entries).properties.get? key = _
  rw [JsValue.properties, JsObject.ofEntries_entries, hvalue']

theorem has_completeResourceEntity (htruthy : resource.truthy = true)
    (h : completeResourceEntity text cfGuid resource guid = some result) (key : String) :
    result.has key = true ↔ key = "metadata" ∨ key = "entity" := by
  rw [completeResourceEntity_eq text htruthy] at h
  obtain ⟨es, -, rfl⟩ := Option.map_eq_some_iff.1 h
  change ((((JsObject.empty.set "entity" _).set "metadata" _).get? key).isSome = true) ↔ _
  simp only [JsObject.isSome_get?_iff, JsObject.mem_keys_set, JsObject.keys_empty,
    List.not_mem_nil, false_or, or_comm]

/-- The result of a well formed resource has its tags. -/
theorem hasTags_completeResourceEntity (htruthy : resource.truthy = true)
    (h : completeResourceEntity text cfGuid resource guid = some result)
    (hwell : WellFormed resource) : HasTags cfGuid resource result := by
  obtain ⟨-, hmetadata, hentity⟩ := completeResourceEntity_spec htruthy h
  have hplain : ∀ key value, (resultEntity cfGuid resource).get? key = some value →
      IsPlain value → entityFields result key = some value := by
    intro key value hvalue hplain
    obtain ⟨value', hnested, hvalue'⟩ := hentity key value hvalue
    rw [completeNested_plain hplain] at hnested
    rw [hvalue', hnested]
  constructor
  case metadata =>
    intro hresource
    rw [hmetadata, resultMetadata, if_pos (hwell.truthy_of_isResource hresource)]
  case keys =>
    intro hresource key hkey
    exact (has_completeResourceEntity htruthy h key).2 (hwell.keys hresource key hkey)
  case cfGuid =>
    exact fun _ => hplain _ _ resultEntity_cfGuid ⟨rfl, fun items hitems => nomatch hitems⟩
  case guid =>
    intro hhas hguid
    refine hplain _ _ (resultEntity_of_fields hwell ?_) hguid
    rw [fields, if_neg (by decide), if_pos ⟨hhas, rfl⟩]
  case kept =>
    intro key hkey
    obtain ⟨value, hvalue⟩ := Option.isSome_iff_exists.1 hkey
    obtain ⟨value', -, hvalue'⟩ := hentity key value (resultEntity_of_fields hwell hvalue)
    rw [hvalue', Option.isSome_some]
  case plain => exact fun key value hvalue => hplain key value (resultEntity_of_fields hwell hvalue)

/-- Only a well formed resource gets its tags. -/
theorem wellFormed_of_hasTags (htruthy : resource.truthy = true)
    (h : completeResourceEntity text cfGuid resource guid = some result)
    (htags : HasTags cfGuid resource result) : WellFormed resource := by
  obtain ⟨-, hmetadata, -⟩ := completeResourceEntity_spec htruthy h
  refine ⟨fun hinstance => ?_, fun hresource key hkey => ?_⟩
  · by_contra hnull
    have hsame := htags.metadata (Bool.or_eq_true_iff.2 (Or.inl hinstance))
    rw [hmetadata, resultMetadata, if_neg hnull] at hsame
    exact hnull (hsame ▸ rfl)
  · exact (has_completeResourceEntity htruthy h key).1 (htags.keys hresource key hkey)

/-- A nested value that is reached in one step is completed, and is where it was. -/
theorem go_completeResourceEntity (htruthy : resource.truthy = true)
    (h : completeResourceEntity text cfGuid resource guid = some result)
    (hwell : WellFormed resource) {step : Step} {nested : JsValue}
    (hgo : step.go (fields resource) = some nested) :
    nested.truthy = true ∧ ∃ guid' nested', step.go (entityFields result) = some nested' ∧
      completeResourceEntity text cfGuid nested guid' = some nested' := by
  obtain ⟨-, -, hentity⟩ := completeResourceEntity_spec htruthy h
  cases step with
  | field key =>
    obtain ⟨hvalue, hinstance⟩ := Option.filter_eq_some_iff.1 hgo
    obtain ⟨value', hnested, hvalue'⟩ := hentity key nested (resultEntity_of_fields hwell hvalue)
    have hnestedTruthy := truthy_of_isObject (isObject_of_instance hinstance)
    unfold completeNested at hnested
    rw [if_pos hinstance] at hnested
    split_ifs at hnested
    have hinstance' := (completeResourceEntity_spec hnestedTruthy hnested).1
    exact ⟨hnestedTruthy, _, value',
      Option.filter_eq_some_iff.2 ⟨hvalue', hinstance'⟩, hnested⟩
  | item key i =>
    simp only [Step.go] at hgo
    split at hgo
    · next items hitems =>
      obtain ⟨hitem, hobject⟩ := Option.filter_eq_some_iff.1 hgo
      obtain ⟨value', hnested, hvalue'⟩ := hentity key _ (resultEntity_of_fields hwell hitems)
      unfold completeNested at hnested
      rw [if_neg (by simp [not_instance_array])] at hnested
      obtain ⟨items', hitems', rfl⟩ := Option.map_eq_some_iff.1 hnested
      obtain ⟨nested', hnested', hcomplete⟩ := getElem?_of_mapM hitems' hitem
      rw [completeItem, if_pos hobject] at hcomplete
      have hnestedTruthy := truthy_of_isObject hobject
      have hobject' := isObject_of_instance (completeResourceEntity_spec hnestedTruthy hcomplete).1
      refine ⟨hnestedTruthy, _, nested', ?_, hcomplete⟩
      simp only [Step.go, hvalue']
      exact Option.filter_eq_some_iff.2 ⟨hnested', hobject'⟩
    · cases hgo

theorem taggable_iff : Taggable resource ↔ WellFormed resource ∧
    ∀ step nested, Step.go (fields resource) step = some nested → Taggable nested := by
  constructor
  · intro h
    refine ⟨h [] resource rfl, fun step nested hgo path last hlast => ?_⟩
    exact h (step :: path) last (Option.bind_eq_some_iff.2 ⟨nested, hgo, hlast⟩)
  · rintro ⟨hhere, hlater⟩ path nested hnested
    cases path with
    | nil => exact Option.some.inj hnested ▸ hhere
    | cons step path =>
      obtain ⟨next, hgo, hrest⟩ := Option.bind_eq_some_iff.1 hnested
      exact hlater step next hgo path nested hrest

/-- Every resource that can be reached in a taggable one has its tags. -/
theorem tagged_completeResourceEntity (htruthy : resource.truthy = true)
    (h : completeResourceEntity text cfGuid resource guid = some result)
    (htaggable : Taggable resource) : Tagged cfGuid resource result := by
  intro path
  induction path generalizing resource result guid with
  | nil =>
    intro nested hnested
    rw [← Option.some.inj hnested]
    exact ⟨result, rfl, hasTags_completeResourceEntity htruthy h (taggable_iff.1 htaggable).1⟩
  | cons step path ih =>
    intro nested hnested
    obtain ⟨hwell, hlater⟩ := taggable_iff.1 htaggable
    obtain ⟨next, hgo, hrest⟩ := Option.bind_eq_some_iff.1 hnested
    obtain ⟨hnext, guid', next', hgo', hcomplete⟩ := go_completeResourceEntity htruthy h hwell hgo
    obtain ⟨nested', hrest', htags⟩ := ih hnext hcomplete (hlater step next hgo) nested hrest
    exact ⟨nested', Option.bind_eq_some_iff.2 ⟨next', hgo', hrest'⟩, htags⟩

/-- A resource whose resources have their tags is taggable. -/
theorem taggable_of_tagged (htruthy : resource.truthy = true)
    (h : completeResourceEntity text cfGuid resource guid = some result)
    (htagged : Tagged cfGuid resource result) : Taggable resource := by
  intro path
  induction path generalizing resource result guid with
  | nil =>
    intro nested hnested
    obtain ⟨result', hresult, htags⟩ := htagged [] resource rfl
    cases hnested
    cases hresult
    exact wellFormed_of_hasTags htruthy h htags
  | cons step path ih =>
    intro nested hnested
    obtain ⟨result', hresult, htags⟩ := htagged [] resource rfl
    cases hresult
    have hwell := wellFormed_of_hasTags htruthy h htags
    obtain ⟨next, hgo, hrest⟩ := Option.bind_eq_some_iff.1 hnested
    obtain ⟨hnext, guid', next', hgo', hcomplete⟩ := go_completeResourceEntity htruthy h hwell hgo
    refine ih hnext hcomplete (fun rest last hlast => ?_) nested hrest
    obtain ⟨last', hlast', htags'⟩ :=
      htagged (step :: rest) last (Option.bind_eq_some_iff.2 ⟨next, hgo, hlast⟩)
    obtain ⟨next'', hgo'', hrest''⟩ := Option.bind_eq_some_iff.1 hlast'
    cases hgo'.symm.trans hgo''
    exact ⟨last', hrest'', htags'⟩

/-- Nothing in a taggable resource throws. -/
theorem isSome_completeResourceEntity (htruthy : resource.truthy = true)
    (htaggable : Taggable resource) (guid : JsValue) :
    (completeResourceEntity text cfGuid resource guid).isSome := by
  induction hn : sizeOf resource using Nat.strong_induction_on generalizing resource guid with
  | _ n ih =>
  subst hn
  obtain ⟨hwell, hlater⟩ := taggable_iff.1 htaggable
  rw [completeResourceEntity_eq text htruthy, Option.isSome_map, mapM_isSome]
  rintro ⟨key, value⟩ hmem
  rw [Option.isSome_map]
  have hvalue := JsObject.mem_iff_get?.1 hmem
  unfold completeNested
  split_ifs with hinstance hnull
  · have hobject := isObject_of_instance hinstance
    have hfield := fields_of_resultEntity hwell hvalue hobject
    have hnested := hlater (.field key) value (Option.filter_eq_some_iff.2 ⟨hfield, hinstance⟩)
    have hmetadata := (taggable_iff.1 hnested).1.metadata hinstance
    cases hget : value.get "metadata" <;> simp_all [JsValue.nullish, JsValue.truthy]
  · have hobject := isObject_of_instance hinstance
    have hfield := fields_of_resultEntity hwell hvalue hobject
    have hnested := hlater (.field key) value (Option.filter_eq_some_iff.2 ⟨hfield, hinstance⟩)
    exact ih _ (sizeOf_of_mem_resultEntity hmem hobject) (truthy_of_isObject hobject) hnested _ rfl
  · cases value with
    | array items =>
      have hfield := fields_of_resultEntity hwell hvalue rfl
      have hlt := sizeOf_of_mem_resultEntity hmem rfl
      rw [JsValue.array.sizeOf_spec] at hlt
      dsimp only
      rw [Option.isSome_map, mapM_isSome]
      intro nested hnested
      rw [completeItem]
      split_ifs with hobject
      · obtain ⟨i, hi⟩ := List.getElem?_of_mem hnested
        have hgo : Step.go (fields resource) (.item key i) = some nested := by
          simp only [Step.go, hfield]
          exact Option.filter_eq_some_iff.2 ⟨hi, hobject⟩
        have hitem := List.sizeOf_lt_of_mem hnested
        exact ih _ (by omega) (truthy_of_isObject hobject) (hlater _ nested hgo) _ rfl
      · rfl
    | undefined | null | bool | number | string | object => rfl

/-! ## The endpoints -/

/-- The entity of a resource, with some guid. -/
def CompletedTo (text : JsValue → String) (cfGuid : String) (resource entity : JsValue) : Prop :=
  ∃ guid, completeResourceEntity text cfGuid resource guid = some entity

theorem completeResourceEntity_falsy (h : resource.truthy = false) :
    completeResourceEntity text cfGuid resource guid = some resource := by
  rw [completeResourceEntity, if_neg (by simp [h])]

theorem isSome_completeResourceEntity' (h : resource.truthy = true → Taggable resource)
    (guid : JsValue) : (completeResourceEntity text cfGuid resource guid).isSome := by
  cases htruthy : resource.truthy with
  | false => rw [completeResourceEntity_falsy htruthy, Option.isSome_some]
  | true => exact isSome_completeResourceEntity htruthy (h htruthy) guid

/-- What is left of resources and their entities, when values like null are dropped. -/
theorem forall₂_completedTo {guids : JsValue → JsValue} {resources entities : List JsValue}
    (h : List.Forall₂ (fun resource entity =>
      completeResourceEntity text cfGuid resource (guids resource) = some entity)
        resources entities) :
    List.Forall₂ (CompletedTo text cfGuid) (resources.filter JsValue.truthy)
      (entities.filter JsValue.truthy) := by
  induction h with
  | nil => exact List.Forall₂.nil
  | @cons resource entity resources entities hentity _ ih =>
    cases htruthy : resource.truthy with
    | false =>
      rw [completeResourceEntity_falsy htruthy] at hentity
      cases hentity
      rwa [List.filter_cons_of_neg (by simp [htruthy]), List.filter_cons_of_neg (by simp [htruthy])]
    | true =>
      have hinstance := (completeResourceEntity_spec htruthy hentity).1
      rw [List.filter_cons_of_pos htruthy,
        List.filter_cons_of_pos (truthy_of_isObject (isObject_of_instance hinstance))]
      exact List.Forall₂.cons ⟨_, hentity⟩ ih

/-- The entities of an endpoint are those of its resources, and none of a page is null. -/
structure Collected (text : JsValue → String) (entityLocation : RequestEntityLocation)
    (cfGuid : String) (cfData : JsValue) (entities : List JsValue) : Prop where
  page : ∀ resources ∈ page entityLocation cfData, ∀ resource ∈ resources,
    resource.nullish = false
  completed : List.Forall₂ (CompletedTo text cfGuid)
    ((listed entityLocation cfData).filter JsValue.truthy) (entities.filter JsValue.truthy)

section Endpoint

variable {entityLocation : RequestEntityLocation} {cfData : JsValue} {actionGuid : JsValue}

/-- The entities of an endpoint that has a single one. -/
theorem endpointEntities_single (hpage : page entityLocation cfData = none) :
    (EndpointTaggable entityLocation cfData →
        ((completeResourceEntity text cfGuid cfData actionGuid).map ([·])).isSome) ∧
      ∀ entities, (completeResourceEntity text cfGuid cfData actionGuid).map ([·]) = some entities →
        Collected text entityLocation cfGuid cfData entities := by
  have hlisted : listed entityLocation cfData = [cfData] := by
    rw [listed, hpage, Option.getD_none]
  constructor
  · intro h
    rw [Option.isSome_map]
    exact isSome_completeResourceEntity' (h.listed cfData (by simp [hlisted])) actionGuid
  · intro entities h
    obtain ⟨entity, hentity, rfl⟩ := Option.map_eq_some_iff.1 h
    refine ⟨by simp [hpage], ?_⟩
    rw [hlisted]
    exact @forall₂_completedTo text cfGuid (fun _ => actionGuid) [cfData] [entity]
      (List.Forall₂.cons hentity List.Forall₂.nil)

/-- The entities of an endpoint that has a page of them. -/
theorem endpointEntities_page {items : List JsValue} (hnullish : cfData.nullish = false)
    (hitems : cfData.get "resources" = .array items) :
    (EndpointTaggable .resource cfData →
        (endpointEntities text .resource actionGuid cfGuid cfData).isSome) ∧
      ∀ entities, endpointEntities text .resource actionGuid cfGuid cfData = some entities →
        Collected text .resource cfGuid cfData entities := by
  have hpage : page .resource cfData = some items := by
    simp only [page, hitems]
  have hlisted : listed .resource cfData = items := by
    rw [listed, hpage, Option.getD_some]
  have hentities : endpointEntities text .resource actionGuid cfGuid cfData =
      if items = [] then some [.null] else items.mapM fun resource =>
        if resource.nullish then none
        else completeResourceEntity text cfGuid resource (resource.get "guid") := by
    simp only [endpointEntities, hitems, hasLength, hnullish]
    cases items <;> simp [JsValue.truthy]
  rw [hentities]
  constructor
  · rintro ⟨hpages, hresources⟩
    split_ifs
    · rfl
    · refine mapM_isSome.2 fun resource hresource => ?_
      rw [if_neg (by simp [hpages items hpage resource hresource])]
      exact isSome_completeResourceEntity' (hresources resource (hlisted ▸ hresource)) _
  · intro entities heq
    split_ifs at heq with hnil
    · subst hnil
      cases heq
      refine ⟨by simp [hpage], ?_⟩
      rw [hlisted]
      exact List.Forall₂.nil
    · refine ⟨?_, ?_⟩
      · rw [hpage]
        rintro _ ⟨⟩ resource hresource
        by_contra hne
        have hsome := mapM_isSome.1 (Option.isSome_of_eq_some heq) resource hresource
        rw [if_pos (Bool.eq_true_of_not_eq_false hne)] at hsome
        cases hsome
      · rw [hlisted]
        refine @forall₂_completedTo text cfGuid (fun resource => resource.get "guid") _ _ ?_
        refine (forall₂_of_mapM heq).imp fun resource entity hentity => ?_
        split_ifs at hentity
        exact hentity

/-- The entities of an endpoint. -/
theorem endpointEntities_spec (h : Shaped entityLocation cfData) (hnull : cfData.isNull = false) :
    (EndpointTaggable entityLocation cfData →
        (endpointEntities text entityLocation actionGuid cfGuid cfData).isSome) ∧
      ∀ entities, endpointEntities text entityLocation actionGuid cfGuid cfData = some entities →
        Collected text entityLocation cfGuid cfData entities := by
  rcases h with rfl | ⟨rfl, hdefined, hshape⟩
  · exact endpointEntities_single rfl
  · have hnullish : cfData.nullish = false := by
      cases cfData <;> simp_all [JsValue.nullish, JsValue.isNull]
    cases htruthy : (cfData.get "resources").truthy with
    | false =>
      have hpage : page .resource cfData = none := by
        unfold page
        split
        · next hresources =>
          rw [hresources] at htruthy
          cases htruthy
        · rfl
      have hsingle : endpointEntities text .resource actionGuid cfGuid cfData =
          (completeResourceEntity text cfGuid cfData actionGuid).map ([·]) := by
        rw [endpointEntities, if_neg (by simp [hnullish]), if_pos (by simp [htruthy])]
      rw [hsingle]
      exact endpointEntities_single hpage
    | true =>
      obtain ⟨items, hitems⟩ := hshape htruthy
      exact endpointEntities_page hnullish hitems

/-- An endpoint whose data is null has no resource. -/
theorem listed_of_isNull (h : cfData.isNull = true) :
    page entityLocation cfData = none ∧
      (listed entityLocation cfData).filter JsValue.truthy = [] := by
  cases cfData with
  | null => cases entityLocation <;> exact ⟨rfl, rfl⟩
  | undefined | bool | number | string | array | object => cases h

theorem endpointTaggable_of_isNull (h : cfData.isNull = true) :
    EndpointTaggable entityLocation cfData := by
  obtain ⟨hpage, hlisted⟩ := @listed_of_isNull entityLocation cfData h
  refine ⟨by simp [hpage], fun resource hresource htruthy => ?_⟩
  have hmem := List.mem_filter.2 ⟨hresource, htruthy⟩
  rw [hlisted] at hmem
  exact absurd hmem List.not_mem_nil

end Endpoint

section Response

variable {data : JsObject JsValue} {errorCheck : List APIErrorCheck}

/-- Each endpoint has been checked once, so that it has failed or an entry says that it has not. -/
theorem any_iff_not_failed (hchecks : errorCheck.map APIErrorCheck.guid = data.ownKeys)
    {cfGuid : String} (hguid : cfGuid ∈ data.ownKeys) :
    errorCheck.any (fun error => error.guid = cfGuid && !error.error) = true ↔
      ¬Failed errorCheck cfGuid := by
  have hnodup : (errorCheck.map APIErrorCheck.guid).Nodup := hchecks ▸ data.nodup_ownKeys
  rw [← hchecks] at hguid
  obtain ⟨check, hcheck, rfl⟩ := List.mem_map.1 hguid
  have honly : ∀ error ∈ errorCheck, error.guid = check.guid → error = check :=
    fun error herror heq => List.inj_on_of_nodup_map hnodup herror hcheck heq
  rw [List.any_eq_true]
  constructor
  · rintro ⟨error, herror, hclean⟩ ⟨failure, hfailure, hsame, hfailed⟩
    rw [Bool.and_eq_true_iff, decide_eq_true_iff] at hclean
    rw [honly error herror hclean.1, ← honly failure hfailure hsame, hfailed] at hclean
    exact nomatch hclean.2
  · intro h
    refine ⟨check, hcheck, ?_⟩
    have hclean : check.error = false := by
      by_contra hne
      exact h ⟨check, hcheck, rfl, Bool.eq_true_of_not_eq_false hne⟩
    simp [hclean]

theorem mem_answered (hchecks : errorCheck.map APIErrorCheck.guid = data.ownKeys)
    {cfGuid : String} {cfData : JsValue} : (cfGuid, cfData) ∈ answered data errorCheck ↔
      data.get? cfGuid = some cfData ∧ cfData.isNull = false ∧ ¬Failed errorCheck cfGuid := by
  simp only [answered, List.mem_filterMap, Option.bind_eq_some_iff, Option.ite_none_right_eq_some,
    Option.some.injEq, Prod.mk.injEq, Bool.and_eq_true_iff, Bool.not_eq_true']
  constructor
  · rintro ⟨key, hkey, value, hget, ⟨hnull, hany⟩, rfl, rfl⟩
    exact ⟨hget, hnull, (any_iff_not_failed hchecks hkey).1 hany⟩
  · rintro ⟨hget, hnull, hfailed⟩
    have hkey := JsObject.mem_ownKeys.2 (JsObject.mem_keys_of_get? hget)
    exact ⟨cfGuid, hkey, cfData, hget, ⟨hnull, (any_iff_not_failed hchecks hkey).2 hfailed⟩,
      rfl, rfl⟩

/-- The resources of a response are those of the endpoints that are answered. -/
theorem responseResources_eq (hchecks : errorCheck.map APIErrorCheck.guid = data.ownKeys)
    (entityLocation : RequestEntityLocation) :
    responseResources entityLocation data errorCheck =
      (answered data errorCheck).flatMap fun endpoint =>
        ((listed entityLocation endpoint.2).filter JsValue.truthy).map (endpoint.1, ·) := by
  have hkeys : ∀ guid ∈ data.ownKeys, (errorCheck.any (fun error => error.guid = guid &&
      !error.error) = true ↔ ¬Failed errorCheck guid) := fun guid => any_iff_not_failed hchecks
  rw [responseResources, answered]
  generalize data.ownKeys = guids at hkeys
  induction guids with
  | nil => rfl
  | cons guid guids ih =>
    obtain ⟨hguid, hguids⟩ := List.forall_mem_cons.1 hkeys
    have hrest := ih hguids
    by_cases hfailed : Failed errorCheck guid
    · have hany := Bool.eq_false_iff.2 (mt hguid.1 (not_not.2 hfailed))
      rw [List.filter_cons_of_neg (by simpa using hfailed), hrest, List.filterMap_cons_none]
      cases data.get? guid <;> simp [hany]
    · have hany := hguid.2 hfailed
      rw [List.filter_cons_of_pos (by simpa using hfailed), List.flatMap_cons, hrest]
      cases hget : data.get? guid with
      | none =>
        rw [List.filterMap_cons_none (by rw [hget, Option.bind_none])]
        rfl
      | some cfData =>
        cases hnull : cfData.isNull with
        | true =>
          rw [List.filterMap_cons_none (by simp [hget, hnull])]
          simp [(listed_of_isNull hnull).2]
        | false =>
          rw [List.filterMap_cons_some (b := (guid, cfData)) (by simp [hget, hnull, hany]),
            List.flatMap_cons]
          simp

end Response

/-- The entities of the endpoints, one after the other, are those of their resources. -/
theorem forall₂_flatten {entityLocation : RequestEntityLocation}
    {endpoints : List (String × JsValue)} {allEntities : List (List JsValue)}
    (h : List.Forall₂ (fun endpoint entities =>
      Collected text entityLocation endpoint.1 endpoint.2 entities) endpoints allEntities) :
    List.Forall₂ (fun e entity => CompletedTo text e.1 e.2 entity)
      (endpoints.flatMap fun endpoint =>
        ((listed entityLocation endpoint.2).filter JsValue.truthy).map (endpoint.1, ·))
      (allEntities.flatten.filter JsValue.truthy) := by
  induction h with
  | nil => exact List.Forall₂.nil
  | @cons endpoint entities endpoints allEntities hentities _ ih =>
    have hcompleted := hentities.completed
    rw [List.flatMap_cons, List.flatten_cons, List.filter_append]
    refine (forall₂_append_iff ?_).2 ⟨?_, ih⟩
    · rw [List.length_map, hcompleted.length_eq]
    · rwa [List.forall₂_map_left_iff]

section Entities

variable {entityLocation : RequestEntityLocation} {data : JsObject JsValue}
  {errorCheck : List APIErrorCheck} {actionGuid : JsValue}
  (hchecks : errorCheck.map APIErrorCheck.guid = data.ownKeys)
  (hshape : ∀ cfGuid cfData, data.get? cfGuid = some cfData → ¬Failed errorCheck cfGuid →
    Shaped entityLocation cfData)

include hchecks hshape

theorem answered_spec : ∀ endpoint ∈ answered data errorCheck,
    (EndpointTaggable entityLocation endpoint.2 →
      (endpointEntities text entityLocation actionGuid endpoint.1 endpoint.2).isSome) ∧
    ∀ entities, endpointEntities text entityLocation actionGuid endpoint.1 endpoint.2 =
      some entities → Collected text entityLocation endpoint.1 endpoint.2 entities := by
  rintro ⟨cfGuid, cfData⟩ hendpoint
  obtain ⟨hget, hnull, hfailed⟩ := (mem_answered hchecks).1 hendpoint
  exact endpointEntities_spec (hshape cfGuid cfData hget hfailed) hnull

theorem forall₂_getEntities {allEntities : List (List JsValue)}
    (hall : ((answered data errorCheck).mapM fun endpoint =>
      endpointEntities text entityLocation actionGuid endpoint.1 endpoint.2) = some allEntities) :
    List.Forall₂ (fun e entity => CompletedTo text e.1 e.2 entity)
      (responseResources entityLocation data errorCheck)
      (allEntities.flatten.filter JsValue.truthy) := by
  have hspec : ∀ endpoint ∈ answered data errorCheck, ∀ entities,
      endpointEntities text entityLocation actionGuid endpoint.1 endpoint.2 = some entities →
        Collected text entityLocation endpoint.1 endpoint.2 entities :=
    fun endpoint hendpoint => (answered_spec hchecks hshape endpoint hendpoint).2
  have hcollected := (List.forall₂_and_left _ _).2 ⟨hspec, forall₂_of_mapM hall⟩
  rw [responseResources_eq hchecks]
  exact forall₂_flatten (hcollected.imp fun endpoint entities h => h.1 entities h.2)

/-- Resources that are normalised with their tags can be tagged. -/
theorem endpointTaggable_of_tagsResources (h : TagsResources entityLocation data errorCheck
    (getEntities text entityLocation actionGuid data errorCheck)) {cfGuid : String}
    {cfData : JsValue} (hget : data.get? cfGuid = some cfData)
    (hfailed : ¬Failed errorCheck cfGuid) : EndpointTaggable entityLocation cfData := by
  cases hnull : cfData.isNull with
  | true => exact endpointTaggable_of_isNull hnull
  | false =>
    obtain ⟨flatEntities, heq, htagged⟩ := h
    obtain ⟨allEntities, hall, rfl⟩ := Option.map_eq_some_iff.1 heq
    have hendpoint := (mem_answered hchecks).2 ⟨hget, hnull, hfailed⟩
    have hsome := mapM_isSome.1 (Option.isSome_of_eq_some hall) _ hendpoint
    obtain ⟨entities, hentities⟩ := Option.isSome_iff_exists.1 hsome
    have hcollected := (answered_spec hchecks hshape _ hendpoint).2 entities hentities
    refine ⟨hcollected.page, fun resource hresource htruthy => ?_⟩
    have hboth : List.Forall₂ (fun e _ => (e.2.truthy = true → Taggable e.2) ∧ True)
        (responseResources entityLocation data errorCheck)
        (allEntities.flatten.filter JsValue.truthy) := by
      refine List.Forall₂.mp ?_ (forall₂_getEntities hchecks hshape hall) htagged
      rintro e entity ⟨guid, hguid⟩ htags
      exact ⟨fun htruthy => taggable_of_tagged htruthy hguid htags, trivial⟩
    refine ((List.forall₂_and_left _ _).1 hboth).1 (cfGuid, resource) ?_ htruthy
    rw [responseResources_eq hchecks]
    refine List.mem_flatMap.2 ⟨_, hendpoint, List.mem_map_of_mem ?_⟩
    exact List.mem_filter.2 ⟨hresource, htruthy⟩

/-- Resources that can be tagged are normalised with their tags. -/
theorem tagsResources_of_endpointTaggable (h : ∀ cfGuid cfData, data.get? cfGuid = some cfData →
    ¬Failed errorCheck cfGuid → EndpointTaggable entityLocation cfData) :
    TagsResources entityLocation data errorCheck
      (getEntities text entityLocation actionGuid data errorCheck) := by
  have hsome : ((answered data errorCheck).mapM fun endpoint =>
      endpointEntities text entityLocation actionGuid endpoint.1 endpoint.2).isSome := by
    refine mapM_isSome.2 fun endpoint hendpoint => ?_
    obtain ⟨hget, -, hfailed⟩ := (mem_answered hchecks).1 hendpoint
    exact (answered_spec hchecks hshape endpoint hendpoint).1
      (h endpoint.1 endpoint.2 hget hfailed)
  obtain ⟨allEntities, hall⟩ := Option.isSome_iff_exists.1 hsome
  refine ⟨_, by rw [getEntities, hall, Option.map_some], ?_⟩
  have htaggable : ∀ e ∈ responseResources entityLocation data errorCheck,
      e.2.truthy = true ∧ Taggable e.2 := by
    intro e he
    rw [responseResources_eq hchecks] at he
    obtain ⟨⟨cfGuid, cfData⟩, hendpoint, he⟩ := List.mem_flatMap.1 he
    obtain ⟨resource, hresource, rfl⟩ := List.mem_map.1 he
    obtain ⟨hlisted, htruthy⟩ := List.mem_filter.1 hresource
    obtain ⟨hget, -, hfailed⟩ := (mem_answered hchecks).1 hendpoint
    exact ⟨htruthy, (h cfGuid cfData hget hfailed).listed resource hlisted htruthy⟩
  have hboth := (List.forall₂_and_left _ _).2 ⟨htaggable, forall₂_getEntities hchecks hshape hall⟩
  refine hboth.imp fun e entity => ?_
  rintro ⟨⟨htruthy, htaggable⟩, guid, hguid⟩
  exact tagged_completeResourceEntity htruthy hguid htaggable

end Entities

/-- The resources of the endpoints that have not failed are normalised, with their tags, exactly
when all resources that can be reached in them are well formed. -/
theorem tagsResources_getEntities_iff (text : JsValue → String)
    {entityLocation : RequestEntityLocation} {data : JsObject JsValue}
    {errorCheck : List APIErrorCheck} (actionGuid : JsValue)
    (hchecks : errorCheck.map APIErrorCheck.guid = data.ownKeys)
    (hshape : ∀ cfGuid cfData, data.get? cfGuid = some cfData → ¬Failed errorCheck cfGuid →
      Shaped entityLocation cfData) :
    TagsResources entityLocation data errorCheck
        (getEntities text entityLocation actionGuid data errorCheck) ↔
      ∀ cfGuid cfData, data.get? cfGuid = some cfData → ¬Failed errorCheck cfGuid →
        EndpointTaggable entityLocation cfData :=
  ⟨fun h _ _ => endpointTaggable_of_tagsResources hchecks hshape h,
    tagsResources_of_endpointTaggable hchecks hshape⟩

/-- A resource with metadata is taggable if the resources in its entity are. -/
theorem taggable_resource {guid : String} {es : List (String × JsValue)}
    (h : ∀ e ∈ es, (instanceOfAPIResource e.2 = true → Taggable e.2) ∧
      ∀ items, e.2 = .array items → ∀ nested ∈ items, nested.isObject = true → Taggable nested) :
    Taggable (.object [("metadata", .object [("guid", .string guid)]),
      ("entity", .object es)]) := by
  have hfields : ∀ key value, fields (.object [("metadata", .object [("guid", .string guid)]),
      ("entity", .object es)]) key = some value → value = .string guid ∨ (key, value) ∈ es := by
    intro key value hvalue
    rw [fields] at hvalue
    split_ifs at hvalue with hcf hguid hresource
    · exact Or.inl (Option.some.inj hvalue).symm
    · exact Or.inr (JsObject.mem_ofEntries (JsObject.mem_iff_get?.2 hvalue))
    · exact absurd rfl hresource
  refine taggable_iff.2 ⟨⟨fun _ => rfl, fun _ key hkey => ?_⟩, fun step nested hgo => ?_⟩
  · change (((JsObject.empty.set "metadata" _).set "entity" _).get? key).isSome = true at hkey
    simpa only [JsObject.isSome_get?_iff, JsObject.mem_keys_set, JsObject.keys_empty,
      List.not_mem_nil, false_or] using hkey
  · cases step with
    | field key =>
      obtain ⟨hvalue, hinstance⟩ := Option.filter_eq_some_iff.1 hgo
      rcases hfields key nested hvalue with rfl | hmem
      · cases hinstance
      · exact (h _ hmem).1 hinstance
    | item key i =>
      simp only [Step.go] at hgo
      split at hgo
      · next items hitems =>
        obtain ⟨hitem, hobject⟩ := Option.filter_eq_some_iff.1 hgo
        rcases hfields key _ hitems with heq | hmem
        · cases heq
        · exact (h _ hmem).2 items rfl nested (List.mem_of_getElem? hitem) hobject
      · cases hgo

/-- A page of an application in a space, and an endpoint that has failed. -/
theorem tagsResources_page :
    let space := JsValue.object [("metadata", .object [("guid", .string "s")]),
      ("entity", .object [("name", .string "dev")])]
    let app := JsValue.object [("metadata", .object [("guid", .string "a")]),
      ("entity", .object [("space", space), ("routes", .array [])])]
    let data := JsObject.ofEntries [("cf", .object [("resources", .array [app])]),
      ("down", .object [("error", .bool true)])]
    TagsResources .resource data [⟨"cf", false⟩, ⟨"down", true⟩]
      (getEntities (fun _ => "") .resource .undefined data [⟨"cf", false⟩, ⟨"down", true⟩]) := by
  intro space app data
  have hspace : Taggable space := taggable_resource fun e he => by
    obtain rfl := List.mem_singleton.1 he
    exact ⟨fun h => (nomatch h), fun items h => (nomatch h)⟩
  have happ : Taggable app := taggable_resource fun e he => by
    rcases List.mem_cons.1 he with rfl | he
    · exact ⟨fun _ => hspace, fun items h => (nomatch h)⟩
    · obtain rfl := List.mem_singleton.1 he
      refine ⟨fun h => (nomatch h), fun items h nested hnested => ?_⟩
      cases h
      cases hnested
  have honly : ∀ cfGuid cfData, data.get? cfGuid = some cfData →
      ¬Failed [⟨"cf", false⟩, ⟨"down", true⟩] cfGuid →
        cfData = .object [("resources", .array [app])] := by
    intro cfGuid cfData hget hfailed
    have hmem := JsObject.mem_ofEntries (JsObject.mem_iff_get?.2 hget)
    rcases List.mem_cons.1 hmem with heq | hmem
    · exact (Prod.mk.inj heq).2
    · cases List.mem_singleton.1 hmem
      exact absurd (by decide) hfailed
  have hkeys : [⟨"cf", false⟩, ⟨"down", true⟩].map APIErrorCheck.guid = data.ownKeys :=
    (by decide +kernel : ["cf", "down"] = JsObject.visitOrder ["cf", "down"])
  refine (tagsResources_getEntities_iff (fun _ => "") .undefined hkeys ?_).2 ?_
  · intro cfGuid cfData hget hfailed
    rw [honly cfGuid cfData hget hfailed]
    exact Or.inr ⟨rfl, fun h => (nomatch h), fun _ => ⟨_, rfl⟩⟩
  · intro cfGuid cfData hget hfailed
    rw [honly cfGuid cfData hget hfailed]
    refine ⟨?_, List.forall_mem_singleton.2 fun _ => happ⟩
    rintro _ ⟨⟩
    exact List.forall_mem_singleton.2 rfl

/-- Resources whose metadata is null, in a field and in an array. -/
theorem not_tagsResources_null :
    let resource := fun key value => JsValue.object [("metadata", .object [("guid", .string "g")]),
      ("entity", .object [(key, value)])]
    let bare := fun fields => JsValue.object [("metadata", .null), ("entity", .object fields)]
    let response := fun value => JsObject.ofEntries [("cf", value)]
    (¬TagsResources .object (response (resource "space" (bare []))) [⟨"cf", false⟩]
      (getEntities (fun _ => "") .object .undefined (response (resource "space" (bare [])))
        [⟨"cf", false⟩])) ∧
    ¬TagsResources .object
      (response (resource "spaces"
        (.array [bare [("apps", .array [resource "name" (.string "a")])]])))
      [⟨"cf", false⟩]
      (getEntities (fun _ => "") .object .undefined
        (response (resource "spaces"
          (.array [bare [("apps", .array [resource "name" (.string "a")])]])))
        [⟨"cf", false⟩]) := by
  intro resource bare response
  have hkeys : ∀ value, [⟨"cf", false⟩].map APIErrorCheck.guid = (response value).ownKeys :=
    fun _ => (by decide +kernel : ["cf"] = JsObject.visitOrder ["cf"])
  have hfailed : ¬Failed [⟨"cf", false⟩] "cf" := by decide
  constructor
  · intro h
    have htaggable := endpointTaggable_of_tagsResources (hkeys _) (fun _ _ _ _ => Or.inl rfl) h
      rfl hfailed
    have hspace := htaggable.listed _ List.mem_cons_self rfl [.field "space"] (bare []) rfl
    exact nomatch hspace.metadata rfl
  · intro h
    have htaggable := endpointTaggable_of_tagsResources (hkeys _) (fun _ _ _ _ => Or.inl rfl) h
      rfl hfailed
    have hspace := htaggable.listed _ List.mem_cons_self rfl [.item "spaces" 0]
      (bare [("apps", .array [resource "name" (.string "a")])]) rfl
    exact nomatch hspace.metadata rfl

end CompleteResource

end Stratos
