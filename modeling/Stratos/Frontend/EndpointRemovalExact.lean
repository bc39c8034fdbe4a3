import Stratos.Frontend.EndpointRemoval

/-!
# What the removal of an endpoint takes out

`removesEndpoint_iff` says when a removal leaves what it should. A disconnection does as long as
the entities of the other endpoints have a guid, which an organisation that only its spaces were
fetched of has not. An unregistration passes a function in place of the guid to the reducers, so
that they take out no entity of the endpoint that has a guid, and the users stay in any case.
-/

open Lib

namespace Stratos

/-! ## Pages -/

/-- All sections of the type are in the default state. -/
def ClearedType (state : PaginationState) (entityKey : String) : Prop :=
  ∀ sections key entityState, state.get? entityKey = some sections →
    sections.get? key = some entityState → entityState = getDefaultPaginationEntityState

theorem clearedType_self (state : PaginationState) (entityKey : String) :
    ClearedType (paginationClearType state entityKey) entityKey := by
  intro sections key entityState hsections hkey
  unfold paginationClearType at hsections
  rcases h : state.get? entityKey with _ | old
  · simp [h] at hsections
  · rw [h] at hsections
    simp only [JsObject.get?_set_self] at hsections
    obtain rfl := Option.some.inj hsections
    have hfold : ∀ (keys : List String) (newObject : PaginationEntityTypeState),
        (∀ key entityState, newObject.get? key = some entityState →
          entityState = getDefaultPaginationEntityState) →
        ∀ key entityState, (keys.foldl (fun newObject key =>
          newObject.set key getDefaultPaginationEntityState) newObject).get? key =
            some entityState → entityState = getDefaultPaginationEntityState := by
      intro keys
      induction keys with
      | nil => exact fun _ h => h
      | cons k keys ih =>
        intro newObject hinv
        refine ih _ fun key entityState hget => ?_
        rw [JsObject.get?_set] at hget
        split_ifs at hget
        · exact (Option.some.inj hget).symm
        · exact hinv key entityState hget
    exact hfold _ _ (by simp) key entityState hkey

theorem ClearedType.clear {state : PaginationState} {entityKey : String}
    (h : ClearedType state entityKey) (other : String) :
    ClearedType (paginationClearType state other) entityKey := by
  rcases eq_or_ne entityKey other with rfl | hne
  · exact clearedType_self state entityKey
  · unfold paginationClearType
    split
    · intro sections key entityState hsections hkey
      rw [JsObject.get?_set, if_neg hne] at hsections
      exact h sections key entityState hsections hkey
    · exact h

theorem clearedType_foldl (entityKeys : List String) (state : PaginationState) {entityKey : String}
    (h : entityKey ∈ entityKeys ∨ ClearedType state entityKey) :
    ClearedType (entityKeys.foldl paginationClearType state) entityKey := by
  induction entityKeys generalizing state with
  | nil => exact h.resolve_left List.not_mem_nil
  | cons k entityKeys ih =>
    refine ih _ ?_
    rcases h with h | h
    · rcases List.mem_cons.1 h with rfl | h
      · exact .inr (clearedType_self state entityKey)
      · exact .inl h
    · exact .inr (h.clear k)

/-- Once the pages of the six types are cleared, none lists an entity of the four slices. -/
theorem not_listsEntity_clear (state : PaginationState) {entityKey : String}
    (hkey : entityKey ∈ cfEntityKeys) (guid : String) :
    ¬ListsEntity (clearEndpointEntities state (some .web)) entityKey guid := by
  rintro ⟨sections, key, entityState, page, ids, hsections, hsection, hpage, -⟩
  have hmem : entityKey ∈ [applicationSchemaKey, spaceSchemaKey, organizationSchemaKey,
      serviceSchemaKey, cfUserSchemaKey, serviceInstancesSchemaKey] := by
    simp only [cfEntityKeys, List.mem_cons, List.not_mem_nil, or_false] at hkey ⊢
    tauto
  have hcleared := clearedType_foldl _ state (.inl hmem)
  rw [clearEndpointEntities, if_pos rfl] at hsections
  obtain rfl := hcleared sections key entityState hsections hsection
  simp [getDefaultPaginationEntityState] at hpage

/-! ## When a removal leaves what it should -/

section Iff

variable {source cfGuid : String}

theorem isOf_text {entity : CfResource} :
    entity.isOf (.text cfGuid) = false ↔ entity.cfGuid ≠ some cfGuid := by
  simp [CfResource.isOf]

theorem getEntity_reduceCf {s s' : CfState} {action : EndpointStoreAction}
    (h : reduceCf s (.endpoint action) = some s') (entityKey guid : String) :
    getEntity s'.requestData entityKey guid = if entityKey ∈ cfEntityKeys then
      ((s.requestData.get? entityKey).bind (sliceReducer entityKey · (.endpoint action))).bind
        (·.get? guid)
    else getEntity s.requestData entityKey guid := by
  unfold getEntity
  rw [get?_cfDataReducer (reduceCf_cases h).1 entityKey]
  split_ifs <;> rfl

/-- How a disconnection files the entities of a slice. -/
def disconnectKey (cfGuid entityKey : String) : CfResource → Option (Option String) :=
  if entityKey = cfUserSchemaKey then userKey (.text cfGuid) else applicationKey (.text cfGuid)

theorem sliceReducer_disconnect (entityKey : String) (slice : JsObject CfResource) :
    sliceReducer entityKey slice
      (.endpoint (.outcome .disconnectSuccess (.text cfGuid) (some .web))) =
    refileBy (disconnectKey cfGuid entityKey) slice := by
  unfold sliceReducer disconnectKey
  split_ifs <;> rfl

theorem disconnectKey_eq_iff {entityKey key : String} {entity : CfResource} :
    disconnectKey cfGuid entityKey entity = some (some key) ↔ entity.cfGuid ≠ some cfGuid ∧
      if entityKey = cfUserSchemaKey then entity.metadata.map (·.getD "undefined") = some key
      else entity.metadata = some (some key) ∧ key ≠ "" := by
  unfold disconnectKey
  split_ifs with huser
  · rw [userKey_eq_iff, isOf_text]
  · rw [applicationKey_eq_iff, isOf_text]

theorem disconnectKey_isSome {entityKey : String} {entity : CfResource}
    (h : entity.cfGuid = some cfGuid ∨ entity.metadata.isSome) :
    (disconnectKey cfGuid entityKey entity).isSome := by
  rcases h with h | h
  · have hof : entity.isOf (.text cfGuid) = true := by simpa [CfResource.isOf] using h
    unfold disconnectKey userKey applicationKey
    split_ifs <;> simp [hof]
  · obtain ⟨guid, hguid⟩ := Option.isSome_iff_exists.1 h
    unfold disconnectKey userKey applicationKey
    split_ifs
    · rcases hof : entity.isOf (.text cfGuid) <;> simp [hof, hguid]
    · rcases hof : entity.isOf (.text cfGuid) <;> simp [hof, hguid]

/-- The success of a disconnection ends when no entity of another endpoint is without metadata. -/
theorem exists_reduceCf_disconnect (s : CfStore)
    (h : ∀ entityKey ∈ cfEntityKeys, ∀ guid entity,
      getEntity s.requestData entityKey guid = some entity →
      entity.cfGuid = some cfGuid ∨ entity.metadata.isSome) :
    ∃ after, reduceCf s.toCfState
      (.endpoint (.outcome .disconnectSuccess (.text cfGuid) (some .web))) = some after := by
  have hdata : (cfDataReducer s.requestData
      (.endpoint (.outcome .disconnectSuccess (.text cfGuid) (some .web)))).isSome := by
    rw [cfDataReducer_isSome_iff]
    intro entityKey hkey
    obtain ⟨slice, hslice⟩ := Option.isSome_iff_exists.1 (s.hasSlices entityKey hkey)
    simp only [mergedData, hslice, Option.bind_some]
    rw [sliceReducer_disconnect, refileBy_isSome_iff]
    intro guid entity hentity
    exact disconnectKey_isSome (h entityKey hkey guid entity
      (Option.bind_eq_some_iff.2 ⟨slice, hslice, hentity⟩))
  obtain ⟨requestData, hdata⟩ := Option.isSome_iff_exists.1 hdata
  refine ⟨⟨requestData, clearEndpointEntities s.pagination (some .web)⟩, ?_⟩
  rw [reduceCf, hdata]
  rfl

/-- What has to be filed under its own key. -/
theorem disconnectKey_of_fits {s : CfStore} (hfits : DisconnectFits cfGuid s.toCfState)
    {entityKey guid : String} {entity : CfResource} (hkey : entityKey ∈ cfEntityKeys)
    (hentity : getEntity s.requestData entityKey guid = some entity)
    (hother : entity.cfGuid ≠ some cfGuid) :
    disconnectKey cfGuid entityKey entity = some (some guid) := by
  have hcond := hfits entityKey hkey guid entity hentity hother
  refine disconnectKey_eq_iff.2 ⟨hother, ?_⟩
  split_ifs at hcond ⊢
  · exact hcond
  · obtain ⟨guid', hmeta, hne⟩ := hcond
    obtain rfl := s.filed entityKey guid entity guid' hentity hmeta
    exact ⟨hmeta, hne⟩

theorem metadata_of_fits {s : CfState} (hfits : DisconnectFits cfGuid s) {entityKey guid : String}
    {entity : CfResource} (hkey : entityKey ∈ cfEntityKeys)
    (hentity : getEntity s.requestData entityKey guid = some entity) :
    entity.cfGuid = some cfGuid ∨ entity.metadata.isSome := by
  by_contra! hcontra
  have hcond := hfits entityKey hkey guid entity hentity hcontra.1
  have hmeta : entity.metadata = none := Option.not_isSome_iff_eq_none.1 hcontra.2
  split_ifs at hcond
  · simp [hmeta] at hcond
  · obtain ⟨guid', hmeta', -⟩ := hcond
    simp [hmeta] at hmeta'

/-- Where an entity of a slice comes from that was filed anew. -/
theorem exists_of_disconnect {s : CfStore} {after : CfState}
    (h : reduceCf s.toCfState
      (.endpoint (.outcome .disconnectSuccess (.text cfGuid) (some .web))) = some after)
    {entityKey guid : String} {entity : CfResource} (hkey : entityKey ∈ cfEntityKeys)
    (hentity : getEntity after.requestData entityKey guid = some entity) :
    disconnectKey cfGuid entityKey entity = some (some guid) := by
  rw [getEntity_reduceCf h, if_pos hkey] at hentity
  obtain ⟨slice', hslice', hget⟩ := Option.bind_eq_some_iff.1 hentity
  obtain ⟨slice, -, hred⟩ := Option.bind_eq_some_iff.1 hslice'
  rw [sliceReducer_disconnect] at hred
  obtain ⟨-, -, hfile⟩ := exists_of_refileBy hred hget
  exact hfile

theorem getEntity_disconnect {s : CfStore} {after : CfState}
    (h : reduceCf s.toCfState
      (.endpoint (.outcome .disconnectSuccess (.text cfGuid) (some .web))) = some after)
    (hfits : DisconnectFits cfGuid s.toCfState) {entityKey guid : String} {entity : CfResource}
    (hentity : getEntity s.requestData entityKey guid = some entity)
    (hother : entity.cfGuid ≠ some cfGuid) :
    getEntity after.requestData entityKey guid = some entity := by
  rw [getEntity_reduceCf h]
  split_ifs with hkey
  · obtain ⟨slice, hslice, hget⟩ := Option.bind_eq_some_iff.1 hentity
    have hdata := (cfDataReducer_isSome_iff s.requestData).1
      (by rw [(reduceCf_cases h).1]; rfl) entityKey hkey
    simp only [mergedData, hslice, Option.bind_some, sliceReducer_disconnect] at hdata ⊢
    obtain ⟨slice', hslice'⟩ := Option.isSome_iff_exists.1 hdata
    rw [hslice', Option.bind_some, get?_refileBy hslice' _ guid, hget]
    · simp [disconnectKey_of_fits hfits hkey hentity hother]
    · intro key old newKey hold hnew
      have hown := disconnectKey_of_fits hfits hkey
        (Option.bind_eq_some_iff.2 ⟨slice, hslice, hold⟩) (disconnectKey_eq_iff.1 hnew).1
      exact Option.some.inj (Option.some.inj (hnew.symm.trans hown))
  · exact hentity

theorem disconnect_iff (s : CfStore) :
    (∃ after, reduceCf s.toCfState
      (.endpoint (.outcome .disconnectSuccess (.text cfGuid) (some .web))) = some after ∧
      EndpointRemoved cfGuid s.toCfState after) ↔ DisconnectFits cfGuid s.toCfState := by
  constructor
  · rintro ⟨after, hreduce, hremoved⟩ entityKey hkey guid entity hentity hother
    have hkept := hremoved.kept entityKey guid entity hentity hother
    have hcond := (disconnectKey_eq_iff.1 (exists_of_disconnect hreduce hkey hkept)).2
    split_ifs at hcond ⊢
    · exact hcond
    · exact ⟨guid, hcond⟩
  · intro hfits
    obtain ⟨after, hreduce⟩ := exists_reduceCf_disconnect s fun entityKey hkey guid entity =>
      metadata_of_fits hfits hkey
    refine ⟨after, hreduce, ⟨?_, ?_, ?_⟩⟩
    · intro entityKey hkey guid entity hentity
      exact (disconnectKey_eq_iff.1 (exists_of_disconnect hreduce hkey hentity)).1
    · intro entityKey guid hsome hnone
      by_cases hkey : entityKey ∈ cfEntityKeys
      · have hclear : after.pagination = clearEndpointEntities s.pagination (some .web) :=
          (Option.some.inj (reduceCf_cases hreduce).2).symm
        rw [hclear]
        exact not_listsEntity_clear s.pagination hkey guid
      · rw [getEntity_reduceCf hreduce, if_neg hkey] at hnone
        simp [hnone] at hsome
    · intro entityKey guid entity
      exact getEntity_disconnect hreduce hfits

/-! ### Unregistering -/

theorem sliceReducer_unregister (entityKey : String) (slice : JsObject CfResource) :
    sliceReducer entityKey slice
      (.endpoint (.outcome .unregisterSuccess (.method source) (some .web))) =
    if entityKey = cfUserSchemaKey then some slice
    else refileBy (applicationKey (.method source)) slice := by
  unfold sliceReducer
  split_ifs <;> rfl

theorem applicationKey_method_eq_iff {app : CfResource} {key : String} :
    applicationKey (.method source) app = some (some key) ↔
      app.metadata = some (some key) ∧ key ≠ "" := by
  rw [applicationKey_eq_iff]
  simp [CfResource.isOf]

theorem applicationKey_method_isSome {app : CfResource} :
    (applicationKey (.method source) app).isSome ↔ app.metadata.isSome := by
  simp [applicationKey, CfResource.isOf]

theorem hasGuid_iff {s : CfStore} {entityKey guid : String} {entity : CfResource}
    (hentity : getEntity s.requestData entityKey guid = some entity) :
    entity.hasGuid ↔ applicationKey (.method source) entity = some (some guid) := by
  rw [applicationKey_method_eq_iff]
  constructor
  · rintro ⟨guid', hmeta, hne⟩
    obtain rfl := s.filed entityKey guid entity guid' hentity hmeta
    exact ⟨hmeta, hne⟩
  · exact fun h => ⟨guid, h⟩

section Unregister

variable {s : CfStore} {after : CfState}

theorem exists_reduceCf_unregister_iff : (∃ after, reduceCf s.toCfState
    (.endpoint (.outcome .unregisterSuccess (.method source) (some .web))) = some after) ↔
      ∀ entityKey ∈ cfEntityKeys, entityKey ≠ cfUserSchemaKey → ∀ guid entity,
        getEntity s.requestData entityKey guid = some entity → entity.metadata.isSome := by
  have hdata : (cfDataReducer s.requestData
      (.endpoint (.outcome .unregisterSuccess (.method source) (some .web)))).isSome ↔
      ∀ entityKey ∈ cfEntityKeys, entityKey ≠ cfUserSchemaKey → ∀ guid entity,
        getEntity s.requestData entityKey guid = some entity → entity.metadata.isSome := by
    rw [cfDataReducer_isSome_iff]
    refine forall_congr' fun entityKey => forall_congr' fun hkey => ?_
    obtain ⟨slice, hslice⟩ := Option.isSome_iff_exists.1 (s.hasSlices entityKey hkey)
    have hget : ∀ guid, getEntity s.requestData entityKey guid = slice.get? guid := by
      intro guid
      rw [getEntity, hslice, Option.bind_some]
    simp only [mergedData, hslice, Option.bind_some, hget, sliceReducer_unregister]
    split_ifs with huser
    · simp [huser]
    · rw [refileBy_isSome_iff]
      simp only [applicationKey_method_isSome, ne_eq, huser, not_false_eq_true, true_implies]
  rw [← hdata]
  constructor
  · rintro ⟨after, h⟩
    rw [(reduceCf_cases h).1]
    rfl
  · intro h
    obtain ⟨requestData, hrequest⟩ := Option.isSome_iff_exists.1 h
    refine ⟨⟨requestData, s.pagination⟩, ?_⟩
    rw [reduceCf, hrequest]
    rfl

/-- The entities that have a guid stay, of whichever endpoint they are, and all users do. -/
theorem getEntity_unregister (h : reduceCf s.toCfState
      (.endpoint (.outcome .unregisterSuccess (.method source) (some .web))) = some after)
    (entityKey guid : String) : getEntity after.requestData entityKey guid =
      if entityKey ∈ cfEntityKeys ∧ entityKey ≠ cfUserSchemaKey then
        (getEntity s.requestData entityKey guid).filter fun entity =>
          applicationKey (.method source) entity = some (some guid)
      else getEntity s.requestData entityKey guid := by
  rw [getEntity_reduceCf h]
  by_cases hkey : entityKey ∈ cfEntityKeys
  · obtain ⟨slice, hslice⟩ := Option.isSome_iff_exists.1 (s.hasSlices entityKey hkey)
    have hdata := (cfDataReducer_isSome_iff s.requestData).1
      (by rw [(reduceCf_cases h).1]; rfl) entityKey hkey
    simp only [mergedData, hslice, Option.bind_some, sliceReducer_unregister] at hdata ⊢
    rw [if_pos hkey, getEntity, hslice]
    rcases eq_or_ne entityKey cfUserSchemaKey with huser | huser
    · simp [huser]
    · rw [if_neg huser] at hdata ⊢
      rw [if_pos ⟨hkey, huser⟩]
      obtain ⟨slice', hslice'⟩ := Option.isSome_iff_exists.1 hdata
      rw [hslice', Option.bind_some, Option.bind_some]
      refine get?_refileBy hslice' ?_ guid
      intro key old newKey hold hnew
      exact s.filed entityKey key old newKey (Option.bind_eq_some_iff.2 ⟨slice, hslice, hold⟩)
        (applicationKey_method_eq_iff.1 hnew).1
  · simp [hkey]

theorem unregister_iff (s : CfStore) :
    (∃ after, reduceCf s.toCfState
      (.endpoint (.outcome .unregisterSuccess (.method source) (some .web))) = some after ∧
      EndpointRemoved cfGuid s.toCfState after) ↔ UnregisterFits cfGuid s.toCfState := by
  constructor
  · rintro ⟨after, hreduce, hremoved⟩ entityKey hkey guid entity hentity
    have hget := getEntity_unregister hreduce entityKey guid
    rw [hentity] at hget
    split_ifs with hcf
    · -- An entity of the endpoint that stays contradicts the removal.
      have hgone : getEntity after.requestData entityKey guid ≠ some entity := fun h =>
        hremoved.removed entityKey hkey guid entity h hcf
      by_cases huser : entityKey = cfUserSchemaKey
      · rw [if_neg (fun h => h.2 huser)] at hget
        exact absurd hget hgone
      · rw [if_pos ⟨hkey, huser⟩, Option.filter_some] at hget
        have hmeta := exists_reduceCf_unregister_iff.1 ⟨after, hreduce⟩ entityKey hkey huser guid
          entity hentity
        have hno : ¬entity.hasGuid := by
          intro hguid
          rw [if_pos (by simpa using (hasGuid_iff hentity).1 hguid)] at hget
          exact hgone hget
        have hpagination : after.pagination = s.pagination :=
          (Option.some.inj (reduceCf_cases hreduce).2).symm
        refine ⟨huser, hmeta, hno, ?_⟩
        rw [if_neg (by simpa using fun h => hno ((hasGuid_iff hentity).2 h))] at hget
        rw [← hpagination]
        exact hremoved.unlisted entityKey guid (by rw [hentity]; rfl) hget
    · intro huser
      rw [if_pos ⟨hkey, huser⟩, Option.filter_some,
        hremoved.kept entityKey guid entity hentity hcf] at hget
      split_ifs at hget with hfile
      exact (hasGuid_iff hentity).2 (by simpa using hfile)
  · intro hfits
    have hmeta : ∀ entityKey ∈ cfEntityKeys, entityKey ≠ cfUserSchemaKey → ∀ guid entity,
        getEntity s.requestData entityKey guid = some entity → entity.metadata.isSome := by
      intro entityKey hkey huser guid entity hentity
      have hcond := hfits entityKey hkey guid entity hentity
      split_ifs at hcond
      · exact hcond.2.1
      · obtain ⟨guid', hguid, -⟩ := hcond huser
        rw [hguid]
        rfl
    obtain ⟨after, hreduce⟩ := exists_reduceCf_unregister_iff.2 hmeta
    have hget := getEntity_unregister hreduce
    refine ⟨after, hreduce, ⟨?_, ?_, ?_⟩⟩
    · intro entityKey hkey guid entity hentity hcf
      rw [hget] at hentity
      split_ifs at hentity with hslice
      · obtain ⟨hentity, hfile⟩ := Option.filter_eq_some_iff.1 hentity
        have hcond := hfits entityKey hkey guid entity hentity
        rw [if_pos hcf] at hcond
        exact hcond.2.2.1 ((hasGuid_iff hentity).2 (by simpa using hfile))
      · have hcond := hfits entityKey hkey guid entity hentity
        rw [if_pos hcf] at hcond
        exact hslice ⟨hkey, hcond.1⟩
    · intro entityKey guid hsome hnone
      obtain ⟨entity, hentity⟩ := Option.isSome_iff_exists.1 hsome
      have hpagination : after.pagination = s.pagination :=
        (Option.some.inj (reduceCf_cases hreduce).2).symm
      rw [hget, hentity] at hnone
      split_ifs at hnone with hslice
      have hcond := hfits entityKey hslice.1 guid entity hentity
      rw [hpagination]
      split_ifs at hcond with hcf
      · exact hcond.2.2.2
      · have hfile : applicationKey (.method source) entity = some (some guid) :=
          (hasGuid_iff hentity).1 (hcond hslice.2)
        simp [hfile] at hnone
    · intro entityKey guid entity hentity hother
      rw [hget, hentity]
      split_ifs with hslice
      · have hcond := hfits entityKey hslice.1 guid entity hentity
        rw [if_neg hother] at hcond
        have hfile : applicationKey (.method source) entity = some (some guid) :=
          (hasGuid_iff hentity).1 (hcond hslice.2)
        simp [hfile]
      · rfl

end Unregister

/-- When a removal takes out all that belongs to the endpoint, and nothing else. -/
theorem removesEndpoint_iff (source cfGuid : String) (path : RemovalPath) (s : CfStore) :
    RemovesEndpoint source cfGuid path s.toCfState ↔
      ∀ before, runCf (path.before cfGuid) s.toCfState = some before → path.Fits cfGuid before := by
  refine forall_congr' fun before => imp_congr_right fun hrun => ?_
  obtain ⟨store, rfl⟩ := exists_store_of_run _ s hrun
  rcases path with _ | ⟨name, responses⟩
  · exact disconnect_iff store
  · exact unregister_iff store

end Iff

/-- An application of the endpoint `cf`. -/
def oneApp : CfResource := ⟨some (some "app"), some "cf", JsObject.empty⟩

/-- A store with one application of the endpoint. -/
def oneAppStore : CfStore where
  requestData := (((JsObject.empty.set cfUserSchemaKey JsObject.empty).set applicationSchemaKey
    (JsObject.empty.set "app" oneApp)).set spaceSchemaKey JsObject.empty).set organizationSchemaKey
      JsObject.empty
  pagination := JsObject.empty
  filed := by
    intro entityKey guid entity guid' hentity hguid'
    obtain ⟨slice, hslice, hentity⟩ := Option.bind_eq_some_iff.1 hentity
    simp only [JsObject.get?_set, JsObject.get?_empty] at hslice
    split_ifs at hslice <;> obtain rfl := Option.some.inj hslice
    · simp at hentity
    · simp at hentity
    · rw [JsObject.get?_set] at hentity
      split_ifs at hentity with hguid
      · obtain rfl := Option.some.inj hentity
        rw [hguid]
        exact (Option.some.inj (Option.some.inj hguid')).symm
      · simp at hentity
    · simp at hentity
  hasSlices := by decide

/-- The application is still there after its endpoint was unregistered. -/
theorem not_removesEndpoint_unregister : ¬∀ (source cfGuid : String) (path : RemovalPath)
    (s : CfStore), RemovesEndpoint source cfGuid path s.toCfState := by
  intro h
  have hrun : runCf (RemovalPath.before "cf" (.unregister "name" [])) oneAppStore.toCfState =
      some oneAppStore.toCfState := by
    rfl
  have hfits : UnregisterFits "cf" oneAppStore.toCfState := (unregister_iff oneAppStore).1
    (h "function" "cf" (.unregister "name" []) oneAppStore oneAppStore.toCfState hrun)
  have happ := hfits applicationSchemaKey (by decide) "app" oneApp rfl
  rw [if_pos (show oneApp.cfGuid = some "cf" from rfl)] at happ
  exact happ.2.2.1 ⟨"app", rfl, by decide⟩

end Stratos
