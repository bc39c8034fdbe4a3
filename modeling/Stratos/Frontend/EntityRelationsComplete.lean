import Stratos.Frontend.EntityRelations
import Stratos.Lib.Lists

/-!
# What validating relations completes

`RelationsComplete` says that the validation does not throw, that every relation that a visited
entity misses is associated or fetched, unless the entity gives nothing to fetch it from, and
that a list from the pagination store is accepted for the relation it was stored for only.

`relationsComplete_iff` says exactly when that is so. A list that is found is never associated,
and it is looked for without the `relationKey`, so that the list of another relation is taken for
it (`not_relationsComplete_list`). The association of a single child takes its guid from the url
of the parent, and throws without one.

The results of the loop are the own results of the relations of the visited entities
(`areResults_of_validationLoop`), and it returns when these can be read
(`validationLoop_isSome`).
-/

open Lib

namespace Stratos

section Visited

variable (config : ValidateLoopConfig)

/-! ## The entities that are visited -/

/-- The children that the entity has, or that the store has for it. -/
def childrenOf (parentRelation childRelation : EntityRelation) (entity : Entity) :
    Option (List Entity) :=
  let childValue := pathGet childRelation.path entity
  if childValue.truthy then
    if childRelation.isArray then
      match childValue with
      | .array items => some items
      | _ => none
    else some [childValue]
  else (missingChildren config parentRelation childRelation entity).join

/-- The entity is validated against the relation. -/
inductive Visited : EntityTreeRelation → List Entity → EntityTreeRelation → Entity → Prop
  | here {t : EntityTreeRelation} {entities : List Entity} {v : Entity} (h : v ∈ entities) :
      Visited t entities t v
  | child {t c p : EntityTreeRelation} {entities items : List Entity} {e v : Entity}
      (hc : c ∈ t.children) (he : e ∈ entities)
      (hitems : childrenOf config t.label c.label e = some items) (h : Visited c items p v) :
      Visited t entities p v

theorem visited_node {r : EntityRelation} {cs : List EntityTreeRelation} {entities : List Entity}
    {P : EntityTreeRelation → Entity → Prop} :
    (∀ p v, Visited config (.node r cs) entities p v → P p v) ↔
      (∀ v ∈ entities, P (.node r cs) v) ∧ ∀ c ∈ cs, ∀ e ∈ entities, ∀ items,
        childrenOf config r c.label e = some items → ∀ p v, Visited config c items p v → P p v := by
  constructor
  · exact fun h => ⟨fun v hv => h _ v (.here hv),
      fun c hc e he items hitems p v hp => h p v (.child hc he hitems hp)⟩
  · rintro ⟨hhere, hbelow⟩ p v hp
    cases hp with
    | here hv => exact hhere v hv
    | child hc he hitems hp => exact hbelow _ hc _ he _ hitems p v hp

/-! ## The property -/

/-- The entity has no value for the relation. -/
def IsMissing (childRelation : EntityRelation) (entity : Entity) : Prop :=
  (pathGet childRelation.path entity).truthy = false

/-- The url that the entity has for the relation. -/
def childUrl (childRelation : EntityRelation) (entity : Entity) : Entity :=
  pathGet (childRelation.path ++ "_url") entity

/-- The guid that the entity has for the relation. -/
def childGuid (childRelation : EntityRelation) (entity : Entity) : Entity :=
  pathGet (childRelation.path ++ "_guid") entity

/-- The action is for the relation of the entity. -/
structure IsActionFor (p c : EntityTreeRelation) (v : Entity) (action : FetchRelationAction) :
    Prop where
  parent : action.parent = p
  child : action.child = c
  parentGuid : metadataGuid v = some action.parentGuid

/-- The child that the entity names is associated with it. -/
def IsAssociated (results : List ValidateEntityResult) (p c : EntityTreeRelation) (v : Entity) :
    Prop :=
  ∃ action, .associate action ∈ results ∧ IsActionFor p c v action.toFetchRelationAction ∧
    childGuid c.label v = .text action.guid

/-- The relation of the entity is fetched, as a single child or as a list. -/
def IsFetched (results : List ValidateEntityResult) (p c : EntityTreeRelation) (v : Entity) :
    Prop :=
  (∃ action, .fetchSingle action ∈ results ∧ IsActionFor p c v action.toFetchRelationAction) ∨
    ∃ action, .fetchPaginated action ∈ results ∧ IsActionFor p c v action.toFetchRelationAction

/-- The entity has neither a url for the relation nor, for a single child, its guid. -/
def GivesNothing (c : EntityRelation) (v : Entity) : Prop :=
  (childUrl c v).truthy = false ∧ (c.isArray = false → (childGuid c v).truthy = false)

/-- The list that is looked for is the one of the relation. -/
def IsOwnList (p c : EntityRelation) (v : Entity) : Prop :=
  ∀ parentGuid, metadataGuid v = some parentGuid →
    createEntityRelationPaginationKey p.entity.key parentGuid none =
      createEntityRelationPaginationKey p.entity.key parentGuid c.entity.relationKey

/-- The validation does not throw, and completes every relation that is missing. -/
def RelationsComplete (t : EntityTreeRelation) (cfGuid : String) (entities : List Entity) : Prop :=
  ∃ results, validationLoop config t cfGuid entities = some results ∧
    ∀ p v, Visited config t entities p v → ∀ c ∈ p.children, IsMissing c.label v →
      (IsAssociated results p c v ∨ IsFetched results p c v ∨ GivesNothing c.label v) ∧
      (c.label.isArray = true → (childrenOf config p.label c.label v).isSome →
        IsOwnList p.label c.label v)

/-! ## The condition -/

/-- An action is made for the relation. -/
def NeedsAction (p c : EntityRelation) (v : Entity) : Prop :=
  if (childrenOf config p c v).isSome then c.isArray = false else (childUrl c v).truthy = true

/-- What is read of the entity for the relation is there. -/
structure IsReadable (p c : EntityTreeRelation) (v : Entity) : Prop where
  list : ¬IsMissing c.label v → c.label.isArray = true → c.children ≠ [] →
    ∃ items, pathGet c.label.path v = .array items
  metadata : IsMissing c.label v → c.label.isArray = true ∨ NeedsAction config p.label c.label v →
    (metadataGuid v).isSome
  url : IsMissing c.label v → NeedsAction config p.label c.label v →
    ∃ url, childUrl c.label v = .text url
  /-- Where a missing list is looked for there is nothing, or a list. -/
  listed : IsMissing c.label v → c.label.isArray = true → ∀ parentGuid,
    metadataGuid v = some parentGuid → (listedChildren config p.label.entity.key parentGuid
      c.label.entity.key).isSome

/-- The relation can be fetched from the entity, or its child is in the store and is the one of
the url. -/
def GivesRelation (p c : EntityRelation) (child v : Entity) : Prop :=
  if (childrenOf config p c v).isSome then
    c.isArray = false ∧ ∃ url, childUrl c v = .text url ∧ child = .text (lastSegment url)
  else (childUrl c v).truthy = true

/-- What the relation of the entity needs to be completed. -/
structure IsCompletable (t : EntityTreeRelation) (entities : List Entity)
    (p c : EntityTreeRelation) (v : Entity) : Prop where
  readable : IsReadable config p c v
  /-- Nothing is given, or the entity, or another visited one with its guid, gives the
  relation. -/
  given : IsMissing c.label v → GivesNothing c.label v ∨
    ∃ v', Visited config t entities p v' ∧ metadataGuid v' = metadataGuid v ∧
      IsMissing c.label v' ∧ GivesRelation config p.label c.label (childGuid c.label v) v'
  /-- A list from the store is for a relation without a key. -/
  own : IsMissing c.label v → c.label.isArray = true →
    (childrenOf config p.label c.label v).isSome → c.label.entity.relationKey.getD "" = ""

end Visited

/-! ## The results of one relation -/

section Results

variable {config : ValidateLoopConfig} {cfGuid cf : String} {p c : EntityTreeRelation}
  {v : Entity}

theorem resolveCfGuid_of_ne (h : cf ≠ "") (v : Entity) : resolveCfGuid cf v = some cf :=
  if_pos h

/-- The GUID of the CF is the only thing that is read of the argument. -/
theorem relationResults_resolve (h : resolveCfGuid cfGuid v = some cf) (hcf : cf ≠ "") :
    relationResults config cfGuid p c v = relationResults config cf p c v := by
  simp only [relationResults, h, resolveCfGuid_of_ne hcf]

theorem createRelationAction_isSome (config : ValidateLoopConfig) (cf : String)
    (p c : EntityTreeRelation) {v childEntitiesUrl : Entity} :
    (createRelationAction config cf p v c childEntitiesUrl).isSome ↔
      (metadataGuid v).isSome ∧ ∃ url, childEntitiesUrl = .text url := by
  unfold createRelationAction
  cases metadataGuid v with
  | none => simp
  | some parentGuid => cases childEntitiesUrl <;> simp

theorem createRelationAction_eq_some {childEntitiesUrl : Entity} {url : String}
    {action : FetchRelationAction}
    (h : createRelationAction config cf p v c childEntitiesUrl = some (url, action)) :
    IsActionFor p c v action ∧ childEntitiesUrl = .text url := by
  obtain ⟨parentGuid, hguid, h⟩ := Option.bind_eq_some_iff.1 h
  cases childEntitiesUrl with
  | text url' =>
    cases h
    exact ⟨⟨rfl, rfl, hguid⟩, rfl⟩
  | absent | array | object => cases h

theorem createSingleAction_isSome (config : ValidateLoopConfig) (cf : String)
    (p c : EntityTreeRelation) {v childEntitiesUrl : Entity} :
    (createSingleAction config cf p v c childEntitiesUrl).isSome ↔
      (metadataGuid v).isSome ∧ ∃ url, childEntitiesUrl = .text url := by
  rw [← createRelationAction_isSome config cf p c]
  unfold createSingleAction
  cases createRelationAction config cf p v c childEntitiesUrl <;> rfl

theorem createSingleAction_eq_some {childEntitiesUrl : Entity}
    {action : FetchRelationSingleAction}
    (h : createSingleAction config cf p v c childEntitiesUrl = some action) :
    IsActionFor p c v action.toFetchRelationAction ∧
      ∃ url, childEntitiesUrl = .text url ∧ action.guid = lastSegment url := by
  obtain ⟨⟨url, action'⟩, haction, h⟩ := Option.bind_eq_some_iff.1 h
  obtain ⟨hfor, hurl⟩ := createRelationAction_eq_some haction
  cases h
  exact ⟨hfor, url, hurl, rfl⟩

theorem createPaginationAction_isSome (config : ValidateLoopConfig) (cf : String)
    (p c : EntityTreeRelation) {v childEntitiesUrl : Entity} :
    (createPaginationAction config cf p v c childEntitiesUrl).isSome ↔
      (metadataGuid v).isSome ∧ ∃ url, childEntitiesUrl = .text url := by
  rw [← createRelationAction_isSome config cf p c]
  unfold createPaginationAction
  cases createRelationAction config cf p v c childEntitiesUrl <;> rfl

theorem createPaginationAction_eq_some {childEntitiesUrl : Entity}
    {action : FetchRelationPaginatedAction}
    (h : createPaginationAction config cf p v c childEntitiesUrl = some action) :
    IsActionFor p c v action.toFetchRelationAction := by
  obtain ⟨⟨url, action'⟩, haction, h⟩ := Option.bind_eq_some_iff.1 h
  obtain ⟨hfor, -⟩ := createRelationAction_eq_some haction
  cases h
  exact ⟨hfor.parent, hfor.child, hfor.parentGuid⟩

/-- A relation throws when an action is made for it and cannot be. -/
theorem handleRelation_isSome (hcf : cf ≠ "") (hpopulate : config.populateMissing = true)
    {childEntities : Option (List Entity)} {url : Entity} :
    (handleRelation config cf p v c childEntities url).isSome ↔
      ((if childEntities.isSome then c.label.isArray = false else url.truthy = true) →
        (metadataGuid v).isSome ∧ ∃ text, url = .text text) := by
  rw [handleRelation.eq_def, if_neg hcf]
  cases childEntities with
  | some items =>
    cases harray : c.label.isArray with
    | true => simp
    | false =>
      rw [← createSingleAction_isSome config cf p c]
      cases createSingleAction config cf p v c url <;> simp
  | none =>
    rw [hpopulate, if_pos rfl, createActionsForMissingEntities]
    cases htruthy : url.truthy with
    | false => simp
    | true =>
      cases harray : c.label.isArray with
      | true =>
        rw [← createPaginationAction_isSome config cf p c]
        cases createPaginationAction config cf p v c url <;> simp
      | false =>
        rw [← createSingleAction_isSome config cf p c]
        cases createSingleAction config cf p v c url <;> simp

/-- What a relation without a value results in. -/
inductive RelationOutcome (p c : EntityTreeRelation) (v : Entity) (found : Bool) (url : Entity) :
    List ValidateEntityResult → Prop
  | listed (hfound : found = true) (harray : c.label.isArray = true) :
      RelationOutcome p c v found url []
  | associated (action : FetchRelationSingleAction) (text : String) (hfound : found = true)
      (harray : c.label.isArray = false) (hfor : IsActionFor p c v action.toFetchRelationAction)
      (hurl : url = .text text) (hguid : action.guid = lastSegment text) :
      RelationOutcome p c v found url [.associate action]
  | nothing (hfound : found = false) (hurl : url.truthy = false) :
      RelationOutcome p c v found url []
  | fetchedList (action : FetchRelationPaginatedAction) (entityKey paginationKey : String)
      (initialParams : JsObject ParamValue) (hfound : found = false)
      (harray : c.label.isArray = true) (hfor : IsActionFor p c v action.toFetchRelationAction)
      (hurl : url.truthy = true) : RelationOutcome p c v found url
        [.setInitialParams entityKey paginationKey initialParams, .fetchPaginated action]
  | fetchedSingle (action : FetchRelationSingleAction) (hfound : found = false)
      (harray : c.label.isArray = false) (hfor : IsActionFor p c v action.toFetchRelationAction)
      (hurl : url.truthy = true) : RelationOutcome p c v found url [.fetchSingle action]

theorem outcome_of_handleRelation (hcf : cf ≠ "") (hpopulate : config.populateMissing = true)
    {childEntities : Option (List Entity)} {url : Entity} {results : List ValidateEntityResult}
    (h : handleRelation config cf p v c childEntities url = some results) :
    RelationOutcome p c v childEntities.isSome url results := by
  rw [handleRelation.eq_def, if_neg hcf] at h
  cases childEntities with
  | some items =>
    dsimp only at h
    split_ifs at h with harray
    · cases h
      exact .listed rfl harray
    · obtain ⟨action, haction, h⟩ := Option.bind_eq_some_iff.1 h
      obtain ⟨hfor, text, hurl, hguid⟩ := createSingleAction_eq_some haction
      cases h
      exact .associated action text rfl (by simpa using harray) hfor hurl hguid
  | none =>
    dsimp only at h
    rw [hpopulate, if_pos rfl, createActionsForMissingEntities] at h
    split_ifs at h with hfalse harray
    · cases h
      exact .nothing rfl hfalse
    · obtain ⟨action, haction, h⟩ := Option.bind_eq_some_iff.1 h
      have hfor := createPaginationAction_eq_some haction
      cases h
      exact .fetchedList _ _ _ _ rfl harray ⟨hfor.parent, hfor.child, hfor.parentGuid⟩
        (by simpa using hfalse)
    · obtain ⟨action, haction, h⟩ := Option.bind_eq_some_iff.1 h
      obtain ⟨hfor, -⟩ := createSingleAction_eq_some haction
      cases h
      exact .fetchedSingle action rfl (by simpa using harray) hfor (by simpa using hfalse)

theorem relationResults_of_missing (h : IsMissing c.label v) (hcf : cf ≠ "") :
    relationResults config cf p c v =
      (missingChildren config p.label c.label v).bind fun childEntities =>
        (handleRelation config cf p v c childEntities (childUrl c.label v)).map fun results =>
          (results, childEntities.map Entity.array) := by
  rw [relationResults, if_neg (by rw [h]; simp), resolveCfGuid_of_ne hcf]
  simp only [Option.bind_eq_bind, Option.bind_some, Option.pure_def, Option.map_eq_bind]
  rfl

theorem relationResults_of_value (h : ¬IsMissing c.label v) :
    relationResults config cf p c v = some ([], some (if c.label.isArray then
      pathGet c.label.path v else .array [pathGet c.label.path v])) := by
  rw [relationResults, if_pos (by rwa [IsMissing, Bool.not_eq_false] at h)]

theorem childrenOf_of_missing (h : IsMissing c.label v) : childrenOf config p.label c.label v =
    (missingChildren config p.label c.label v).join := by
  rw [childrenOf, if_neg (by rw [h]; simp)]

theorem missingChildren_isSome (config : ValidateLoopConfig) (p c : EntityTreeRelation)
    (v : Entity) : (missingChildren config p.label c.label v).isSome ↔
      (c.label.isArray = true → (metadataGuid v).isSome ∧ ∀ parentGuid,
        metadataGuid v = some parentGuid → (listedChildren config p.label.entity.key parentGuid
          c.label.entity.key).isSome) := by
  unfold missingChildren
  cases harray : c.label.isArray with
  | false => simp
  | true =>
    cases metadataGuid v with
    | none => simp
    | some parentGuid =>
      cases hlisted : listedChildren config p.label.entity.key parentGuid c.label.entity.key <;>
        simp [hlisted]

/-- The children, as a list. -/
def asItems : Entity → Option (List Entity)
  | .array items => some items
  | _ => none

/-- The own results of a relation are there when what is read is. -/
theorem relationResults_isSome (hcf : cf ≠ "") (hpopulate : config.populateMissing = true) :
    (relationResults config cf p c v).isSome ↔
      (IsMissing c.label v → c.label.isArray = true ∨ NeedsAction config p.label c.label v →
        (metadataGuid v).isSome) ∧
      (IsMissing c.label v → NeedsAction config p.label c.label v →
        ∃ url, childUrl c.label v = .text url) ∧
      (IsMissing c.label v → c.label.isArray = true → ∀ parentGuid,
        metadataGuid v = some parentGuid → (listedChildren config p.label.entity.key parentGuid
          c.label.entity.key).isSome) := by
  by_cases hmissing : IsMissing c.label v
  · have hsome := missingChildren_isSome config p c v
    simp only [hmissing, true_imp_iff]
    rw [relationResults_of_missing hmissing hcf, NeedsAction, childrenOf_of_missing hmissing]
    cases hchildren : missingChildren config p.label c.label v with
    | none =>
      rw [hchildren] at hsome
      refine iff_of_false (by simp) fun h => ?_
      simp only [Option.isSome_none, Bool.false_eq_true, false_iff, Classical.not_imp] at hsome
      exact hsome.2 ⟨h.1 (Or.inl hsome.1), h.2.2 hsome.1⟩
    | some childEntities =>
      rw [hchildren] at hsome
      have hread := hsome.1 rfl
      rw [Option.bind_some, Option.isSome_map, handleRelation_isSome hcf hpopulate,
        Option.join_some]
      constructor
      · exact fun h => ⟨fun hor => hor.elim (fun harray => (hread harray).1) fun hneeds =>
          (h hneeds).1, fun hneeds => (h hneeds).2, fun harray => (hread harray).2⟩
      · exact fun h hneeds => ⟨h.1 (Or.inr hneeds), h.2.1 hneeds⟩
  · rw [relationResults_of_value hmissing]
    exact iff_of_true rfl ⟨fun h => absurd h hmissing, fun h => absurd h hmissing,
      fun h => absurd h hmissing⟩

/-- What the own results of a relation are, and the children that go with them. -/
theorem relationResults_eq_some (hcf : cf ≠ "") (hpopulate : config.populateMissing = true)
    {own : List ValidateEntityResult} {childEntities : Option Entity}
    (h : relationResults config cf p c v = some (own, childEntities)) :
    (¬IsMissing c.label v → own = [] ∧ childEntities = some (if c.label.isArray then
        pathGet c.label.path v else .array [pathGet c.label.path v])) ∧
      (IsMissing c.label v → childEntities =
        (childrenOf config p.label c.label v).map Entity.array) ∧
      (IsMissing c.label v → RelationOutcome p c v
        (childrenOf config p.label c.label v).isSome (childUrl c.label v) own) ∧
      childrenOf config p.label c.label v = childEntities.bind asItems := by
  by_cases hmissing : IsMissing c.label v
  · rw [relationResults_of_missing hmissing hcf] at h
    obtain ⟨found, hfound, h⟩ := Option.bind_eq_some_iff.1 h
    obtain ⟨results, hresults, h⟩ := Option.map_eq_some_iff.1 h
    obtain ⟨rfl, rfl⟩ := Prod.mk.inj h
    have hchildren : childrenOf config p.label c.label v = found := by
      rw [childrenOf_of_missing hmissing, hfound, Option.join_some]
    refine ⟨fun h => absurd hmissing h, fun _ => by rw [hchildren], fun _ => ?_, ?_⟩
    · rw [hchildren]
      exact outcome_of_handleRelation hcf hpopulate hresults
    · rw [hchildren]
      cases found <;> rfl
  · rw [relationResults_of_value hmissing] at h
    obtain ⟨rfl, rfl⟩ := Prod.mk.inj (Option.some.inj h)
    refine ⟨fun _ => ⟨rfl, rfl⟩, fun h => absurd h hmissing, fun h => absurd h hmissing, ?_⟩
    rw [childrenOf, if_pos (by rwa [IsMissing, Bool.not_eq_false] at hmissing)]
    split_ifs
    · rfl
    · rfl

/-! ## One entity -/

section Entities

variable {loop : String → List Entity → Option (List ValidateEntityResult)}

theorem validateEntity_resolve (h : resolveCfGuid cfGuid v = some cf) (hcf : cf ≠ "") :
    validateEntity config cfGuid p c loop v = validateEntity config cf p c loop v := by
  simp only [validateEntity, relationResults_resolve h hcf, h, resolveCfGuid_of_ne hcf]

/-- Without children to validate there are the own results only. -/
theorem validateEntity_leaf {own : List ValidateEntityResult} {childEntities : Option Entity}
    (h : relationResults config cf p c v = some (own, childEntities))
    (hleaf : childEntities = none ∨ c.children = []) :
    validateEntity config cf p c loop v = some own := by
  rcases hleaf with rfl | hempty
  · simp [validateEntity, h]
  · cases childEntities <;> simp [validateEntity, h, hempty]

/-- The results of the children come after the own ones. -/
theorem validateEntity_children (hcf : cf ≠ "") {own : List ValidateEntityResult}
    {childEntities : Entity}
    (h : relationResults config cf p c v = some (own, some childEntities))
    (hempty : c.children ≠ []) : validateEntity config cf p c loop v =
      (asItems childEntities).bind fun items => (loop cf items).map (own ++ ·) := by
  simp only [validateEntity, h, resolveCfGuid_of_ne hcf, List.isEmpty_iff, hempty, if_false,
    Option.bind_eq_bind, Option.bind_some, Option.pure_def]
  cases childEntities with
  | array items => cases hloop : loop cf items <;> simp [asItems, hloop]
  | absent | text | object => rfl

/-- The validation of an entity returns when its relation can be read and the validation of the
children returns. -/
theorem validateEntity_isSome (hcf : cf ≠ "") (hpopulate : config.populateMissing = true) :
    (validateEntity config cf p c loop v).isSome ↔ IsReadable config p c v ∧
      ∀ items, childrenOf config p.label c.label v = some items → c.children ≠ [] →
        (loop cf items).isSome := by
  have hsome := relationResults_isSome (p := p) (c := c) (v := v) hcf hpopulate
  cases hresults : relationResults config cf p c v with
  | none =>
    rw [hresults] at hsome
    refine iff_of_false (by simp [validateEntity, hresults]) fun h => ?_
    simpa using hsome.2 ⟨h.1.metadata, h.1.url, h.1.listed⟩
  | some r =>
    obtain ⟨own, childEntities⟩ := r
    obtain ⟨hvalue, hfound, -, hchildren⟩ := relationResults_eq_some hcf hpopulate hresults
    obtain ⟨hmetadata, hurl, hlisted⟩ := hsome.1 (by rw [hresults]; rfl)
    have hreadable : IsReadable config p c v ↔ (¬IsMissing c.label v → c.label.isArray = true →
        c.children ≠ [] → ∃ items, pathGet c.label.path v = .array items) :=
      ⟨fun h => h.list, fun h => ⟨h, hmetadata, hurl, hlisted⟩⟩
    rw [hreadable, hchildren]
    by_cases hempty : c.children = []
    · rw [validateEntity_leaf hresults (Or.inr hempty)]
      exact iff_of_true rfl ⟨fun _ _ h => absurd hempty h, fun _ _ h => absurd hempty h⟩
    cases childEntities with
    | none =>
      rw [validateEntity_leaf hresults (Or.inl rfl)]
      refine iff_of_true rfl ⟨fun h => ?_, fun _ h => by cases h⟩
      cases (hvalue h).2
    | some childEntities =>
      rw [validateEntity_children hcf hresults hempty, Option.bind_some]
      cases hitems : asItems childEntities with
      | none =>
        refine iff_of_false (by simp) fun h => ?_
        by_cases hmissing : IsMissing c.label v
        · obtain ⟨items, -, rfl⟩ := Option.map_eq_some_iff.1 (hfound hmissing).symm
          cases hitems
        · obtain rfl := Option.some.inj (hvalue hmissing).2
          cases harray : c.label.isArray with
          | false =>
            rw [harray] at hitems
            cases hitems
          | true =>
            obtain ⟨items, hvalue⟩ := h.1 hmissing harray hempty
            rw [harray, if_pos rfl, hvalue] at hitems
            cases hitems
      | some items =>
        rw [Option.bind_some, Option.isSome_map]
        constructor
        · refine fun h => ⟨fun hmissing harray _ => ⟨items, ?_⟩, fun items' hitems' _ => ?_⟩
          · obtain rfl := Option.some.inj (hvalue hmissing).2
            rw [harray, if_pos rfl] at hitems
            cases hvalue : pathGet c.label.path v with
            | array items' =>
              rw [hvalue] at hitems
              rw [Option.some.inj hitems]
            | absent | text | object =>
              rw [hvalue] at hitems
              cases hitems
          · cases hitems'
            exact h
        · exact fun h => h.2 items rfl hempty

/-- The results for an entity are its own and those of the children. -/
theorem mem_validateEntity (hcf : cf ≠ "") (hpopulate : config.populateMissing = true)
    {results : List ValidateEntityResult}
    (h : validateEntity config cf p c loop v = some results) :
    ∃ own childEntities, relationResults config cf p c v = some (own, childEntities) ∧
      ∀ a, a ∈ results ↔ a ∈ own ∨ ∃ items more, childrenOf config p.label c.label v = some items ∧
        c.children ≠ [] ∧ loop cf items = some more ∧ a ∈ more := by
  cases hresults : relationResults config cf p c v with
  | none => simp [validateEntity, hresults] at h
  | some r =>
    obtain ⟨own, childEntities⟩ := r
    obtain ⟨-, -, -, hchildren⟩ := relationResults_eq_some hcf hpopulate hresults
    refine ⟨own, childEntities, rfl, fun a => ?_⟩
    rw [hchildren]
    by_cases hleaf : childEntities = none ∨ c.children = []
    · rw [validateEntity_leaf hresults hleaf] at h
      cases h
      refine (or_iff_left ?_).symm
      rintro ⟨items, more, hitems, hempty, -⟩
      rcases hleaf with rfl | hleaf
      · cases hitems
      · exact hempty hleaf
    · rw [not_or] at hleaf
      obtain ⟨childEntities, rfl⟩ := Option.ne_none_iff_exists'.1 hleaf.1
      rw [validateEntity_children hcf hresults hleaf.2] at h
      obtain ⟨items, hitems, h⟩ := Option.bind_eq_some_iff.1 h
      obtain ⟨more, hmore, rfl⟩ := Option.map_eq_some_iff.1 h
      rw [List.mem_append, Option.bind_some, hitems]
      refine or_congr_right ⟨fun ha => ⟨items, more, rfl, hleaf.2, hmore, ha⟩, ?_⟩
      rintro ⟨items', more', hitems', -, hmore', ha⟩
      cases hitems'
      cases hmore.symm.trans hmore'
      exact ha

end Entities

end Results

/-! ## The loop -/

section Loop

variable {config : ValidateLoopConfig} {cfGuid : String} {entities : List Entity}

/-- Each entity has a CF. -/
def HaveCf (cfGuid : String) (entities : List Entity) : Prop :=
  ∀ e ∈ entities, ∃ cf, cf ≠ "" ∧ resolveCfGuid cfGuid e = some cf

theorem haveCf_of_ne (h : cfGuid ≠ "") : HaveCf cfGuid entities :=
  fun e _ => ⟨cfGuid, h, resolveCfGuid_of_ne h e⟩

/-- What is read for every relation of a visited entity is there. -/
def AllReadable (config : ValidateLoopConfig) (t : EntityTreeRelation) (entities : List Entity) :
    Prop :=
  ∀ p v, Visited config t entities p v → ∀ c ∈ p.children, IsReadable config p c v

theorem allReadable_node {r : EntityRelation} {cs : List EntityTreeRelation} :
    AllReadable config (.node r cs) entities ↔ ∀ c ∈ cs, ∀ e ∈ entities,
      IsReadable config (.node r cs) c e ∧ ∀ items, childrenOf config r c.label e = some items →
        AllReadable config c items := by
  rw [AllReadable, visited_node]
  constructor
  · exact fun h c hc e he => ⟨h.1 e he c hc, h.2 c hc e he⟩
  · exact fun h => ⟨fun e he c hc => (h c hc e he).1, fun c hc e he => (h c hc e he).2⟩

theorem validationLoop_node (r : EntityRelation) (cs : List EntityTreeRelation) (cfGuid : String)
    (entities : List Entity) : validationLoop config (.node r cs) cfGuid entities =
      validateChildren config (.node r cs) cs cfGuid entities := by
  rw [validationLoop]

theorem validateChildren_isSome (hpopulate : config.populateMissing = true)
    (ts : List EntityTreeRelation) (p : EntityTreeRelation) (cfGuid : String)
    (entities : List Entity) (hcf : HaveCf cfGuid entities) :
    (validateChildren config p ts cfGuid entities).isSome ↔ ∀ c ∈ ts, ∀ e ∈ entities,
      IsReadable config p c e ∧ ∀ items, childrenOf config p.label c.label e = some items →
        AllReadable config c items := by
  induction ts using RoseTree.forest_induction generalizing p cfGuid entities with
  | nil => simp [validateChildren]
  | cons r cs ts ihc iht =>
    have hfirst : (entities.mapM (validateEntity config cfGuid p (.node r cs)
        (validationLoop config (.node r cs)))).isSome ↔ ∀ e ∈ entities,
          IsReadable config p (.node r cs) e ∧ ∀ items,
            childrenOf config p.label (RoseTree.node r cs).label e = some items →
              AllReadable config (.node r cs) items := by
      rw [mapM_isSome]
      refine forall₂_congr fun e he => ?_
      obtain ⟨cf, hne, hresolve⟩ := hcf e he
      rw [validateEntity_resolve hresolve hne, validateEntity_isSome hne hpopulate]
      refine and_congr_right fun _ => forall₂_congr fun items _ => ?_
      rw [validationLoop_node, ihc _ _ _ (haveCf_of_ne hne), allReadable_node]
      refine ⟨fun h c hc => h (List.ne_nil_of_mem hc) c hc, fun h _ => h⟩
    rw [List.forall_mem_cons, ← iht p cfGuid entities hcf, ← hfirst, validateChildren]
    cases entities.mapM (validateEntity config cfGuid p (.node r cs)
        (validationLoop config (.node r cs))) with
    | none => simp
    | some results => cases validateChildren config p ts cfGuid entities <;> simp

/-- The loop returns exactly where all that it reads can be read. -/
theorem validationLoop_isSome (hpopulate : config.populateMissing = true)
    (t : EntityTreeRelation) (hcf : HaveCf cfGuid entities) :
    (validationLoop config t cfGuid entities).isSome ↔ AllReadable config t entities := by
  obtain ⟨r, cs⟩ := t
  rw [validationLoop_node, validateChildren_isSome hpopulate _ _ _ _ hcf, allReadable_node]
  rfl

/-- The result is one of the relation's own. -/
def Emits (config : ValidateLoopConfig) (p c : EntityTreeRelation) (v : Entity)
    (a : ValidateEntityResult) : Prop :=
  ∃ cf own childEntities, cf ≠ "" ∧
    relationResults config cf p c v = some (own, childEntities) ∧ a ∈ own

/-- All the relation's own results are among the results. -/
def EmittedIn (config : ValidateLoopConfig) (results : List ValidateEntityResult)
    (p c : EntityTreeRelation) (v : Entity) : Prop :=
  ∃ cf own childEntities, cf ≠ "" ∧
    relationResults config cf p c v = some (own, childEntities) ∧ ∀ a ∈ own, a ∈ results

theorem EmittedIn.mono {results results' : List ValidateEntityResult} {p c : EntityTreeRelation}
    {v : Entity} (h : EmittedIn config results p c v) (hsub : ∀ a ∈ results, a ∈ results') :
    EmittedIn config results' p c v := by
  obtain ⟨cf, own, childEntities, hne, hresults, hown⟩ := h
  exact ⟨cf, own, childEntities, hne, hresults, fun a ha => hsub a (hown a ha)⟩

/-- The results of a loop come from the relations of visited entities, and are all of theirs. -/
structure AreResults (config : ValidateLoopConfig) (t : EntityTreeRelation)
    (entities : List Entity) (results : List ValidateEntityResult) : Prop where
  emits : ∀ a ∈ results, ∃ p v, Visited config t entities p v ∧
    ∃ c ∈ p.children, Emits config p c v a
  emitted : ∀ p v, Visited config t entities p v → ∀ c ∈ p.children,
    EmittedIn config results p c v

/-- The results of some relations over the entities, with those of the children. -/
structure AreRelationResults (config : ValidateLoopConfig) (p : EntityTreeRelation)
    (ts : List EntityTreeRelation) (entities : List Entity) (results : List ValidateEntityResult) :
    Prop where
  emits : ∀ a ∈ results, ∃ c ∈ ts, ∃ e ∈ entities, Emits config p c e a ∨
    ∃ items, childrenOf config p.label c.label e = some items ∧
      ∃ p' v', Visited config c items p' v' ∧ ∃ c' ∈ p'.children, Emits config p' c' v' a
  emitted : ∀ c ∈ ts, ∀ e ∈ entities, EmittedIn config results p c e ∧
    ∀ items, childrenOf config p.label c.label e = some items →
      ∀ p' v', Visited config c items p' v' → ∀ c' ∈ p'.children,
        EmittedIn config results p' c' v'

theorem AreRelationResults.areResults {r : EntityRelation} {cs : List EntityTreeRelation}
    {results : List ValidateEntityResult}
    (h : AreRelationResults config (.node r cs) cs entities results) :
    AreResults config (.node r cs) entities results := by
  refine ⟨fun a ha => ?_, ?_⟩
  · obtain ⟨c, hc, e, he, hown | ⟨items, hitems, p', v', hv, c', hc', hemits⟩⟩ := h.emits a ha
    · exact ⟨_, e, .here he, c, hc, hown⟩
    · exact ⟨p', v', .child hc he hitems hv, c', hc', hemits⟩
  · rw [visited_node]
    exact ⟨fun e he c hc => (h.emitted c hc e he).1, fun c hc e he => (h.emitted c hc e he).2⟩

theorem areRelationResults_nil {p : EntityTreeRelation} :
    AreRelationResults config p [] entities [] :=
  ⟨fun _ ha => (List.not_mem_nil ha).elim, fun _ hc => (List.not_mem_nil hc).elim⟩

theorem AreRelationResults.cons {p c : EntityTreeRelation} {ts : List EntityTreeRelation}
    {first rest : List ValidateEntityResult}
    (hfirst : AreRelationResults config p [c] entities first)
    (hrest : AreRelationResults config p ts entities rest) :
    AreRelationResults config p (c :: ts) entities (first ++ rest) := by
  refine ⟨fun a ha => ?_, fun d hd e he => ?_⟩
  · rcases List.mem_append.1 ha with ha | ha
    · obtain ⟨d, hd, h⟩ := hfirst.emits a ha
      exact ⟨d, List.mem_cons.2 (Or.inl (List.mem_singleton.1 hd)), h⟩
    · obtain ⟨d, hd, h⟩ := hrest.emits a ha
      exact ⟨d, List.mem_cons_of_mem _ hd, h⟩
  · rcases List.mem_cons.1 hd with rfl | hd
    · obtain ⟨hown, hbelow⟩ := hfirst.emitted d (List.mem_singleton_self d) e he
      exact ⟨hown.mono fun _ => List.mem_append_left rest, fun items hitems p' v' hv c' hc' =>
        (hbelow items hitems p' v' hv c' hc').mono fun _ => List.mem_append_left rest⟩
    · obtain ⟨hown, hbelow⟩ := hrest.emitted d hd e he
      exact ⟨hown.mono fun _ => List.mem_append_right first, fun items hitems p' v' hv c' hc' =>
        (hbelow items hitems p' v' hv c' hc').mono fun _ => List.mem_append_right first⟩

/-- One relation over the entities, when the validation of the children does what it should. -/
theorem areRelationResults_of_mapM (hpopulate : config.populateMissing = true)
    {p c : EntityTreeRelation} {rs : List (List ValidateEntityResult)}
    {loop : String → List Entity → Option (List ValidateEntityResult)}
    (hcf : HaveCf cfGuid entities)
    (hloop : ∀ cf items more, cf ≠ "" → loop cf items = some more → AreResults config c items more)
    (h : entities.mapM (validateEntity config cfGuid p c loop) = some rs) :
    AreRelationResults config p [c] entities rs.flatten := by
  -- What one entity gives.
  have hentity : ∀ e ∈ entities, ∀ r, validateEntity config cfGuid p c loop e = some r →
      ∃ cf own childEntities, cf ≠ "" ∧
        relationResults config cf p c e = some (own, childEntities) ∧
        (∀ a, a ∈ r ↔ a ∈ own ∨ ∃ items more, childrenOf config p.label c.label e = some items ∧
          c.children ≠ [] ∧ loop cf items = some more ∧ a ∈ more) ∧
        ∀ items, childrenOf config p.label c.label e = some items → c.children ≠ [] →
          (loop cf items).isSome := by
    intro e he r hr
    obtain ⟨cf, hne, hresolve⟩ := hcf e he
    rw [validateEntity_resolve hresolve hne] at hr
    obtain ⟨own, childEntities, hresults, hmem⟩ := mem_validateEntity hne hpopulate hr
    have hsome := (validateEntity_isSome hne hpopulate).1 (by rw [hr]; rfl)
    exact ⟨cf, own, childEntities, hne, hresults, hmem, hsome.2⟩
  refine ⟨fun a ha => ?_, fun d hd e he => ?_⟩
  · obtain ⟨e, he, r, hr, ha⟩ := (mem_flatten_of_mapM h).1 ha
    obtain ⟨cf, own, childEntities, hne, hresults, hmem, -⟩ := hentity e he r hr
    refine ⟨c, List.mem_singleton_self c, e, he, ?_⟩
    rcases (hmem a).1 ha with ha | ⟨items, more, hitems, -, hmore, ha⟩
    · exact Or.inl ⟨cf, own, childEntities, hne, hresults, ha⟩
    · exact Or.inr ⟨items, hitems, (hloop cf items more hne hmore).emits a ha⟩
  · obtain rfl := List.mem_singleton.1 hd
    obtain ⟨r, hr⟩ := Option.isSome_iff_exists.1 (mapM_isSome.1 (by rw [h]; rfl) e he)
    obtain ⟨cf, own, childEntities, hne, hresults, hmem, hsome⟩ := hentity e he r hr
    have hsub : ∀ a ∈ r, a ∈ rs.flatten := fun a ha =>
      (mem_flatten_of_mapM h).2 ⟨e, he, r, hr, ha⟩
    refine ⟨⟨cf, own, childEntities, hne, hresults, fun a ha => hsub a ((hmem a).2 (Or.inl ha))⟩,
      fun items hitems p' v' hv c' hc' => ?_⟩
    by_cases hempty : d.children = []
    · -- Then only the relation itself is visited, and it has no children.
      cases hv with
      | here => exact (List.ne_nil_of_mem hc' hempty).elim
      | child hc => exact (List.ne_nil_of_mem hc hempty).elim
    · obtain ⟨more, hmore⟩ := Option.isSome_iff_exists.1 (hsome items hitems hempty)
      refine ((hloop cf items more hne hmore).emitted p' v' hv c' hc').mono fun a ha => ?_
      exact hsub a ((hmem a).2 (Or.inr ⟨items, more, hitems, hempty, hmore, ha⟩))

/-- Induction on the relations : the results of the first one, and those of the rest. -/
theorem areRelationResults_of_validateChildren (hpopulate : config.populateMissing = true)
    (ts : List EntityTreeRelation) (p : EntityTreeRelation) (cfGuid : String)
    (entities : List Entity) (hcf : HaveCf cfGuid entities) (results : List ValidateEntityResult)
    (h : validateChildren config p ts cfGuid entities = some results) :
    AreRelationResults config p ts entities results := by
  induction ts using RoseTree.forest_induction generalizing p cfGuid entities results with
  | nil =>
    rw [validateChildren] at h
    cases h
    exact areRelationResults_nil
  | cons r cs ts ihc iht =>
    rw [validateChildren] at h
    obtain ⟨first, hfirst, h⟩ := Option.bind_eq_some_iff.1 h
    obtain ⟨rest, hrest, h⟩ := Option.bind_eq_some_iff.1 h
    cases h
    refine AreRelationResults.cons ?_ (iht p cfGuid entities hcf rest hrest)
    refine areRelationResults_of_mapM hpopulate hcf (fun cf items more hne hmore => ?_) hfirst
    rw [validationLoop_node] at hmore
    exact (ihc _ cf items (haveCf_of_ne hne) more hmore).areResults

/-- What the loop returns are the own results of the relations of the visited entities. -/
theorem areResults_of_validationLoop (hpopulate : config.populateMissing = true)
    (t : EntityTreeRelation) (hcf : HaveCf cfGuid entities) {results : List ValidateEntityResult}
    (h : validationLoop config t cfGuid entities = some results) :
    AreResults config t entities results := by
  obtain ⟨r, cs⟩ := t
  rw [validationLoop_node] at h
  exact (areRelationResults_of_validateChildren hpopulate cs _ cfGuid entities hcf results
    h).areResults

end Loop

/-! ## When the relations are completed -/

section Complete

variable {config : ValidateLoopConfig} {cfGuid : String} {t p c : EntityTreeRelation}
  {entities : List Entity} {v : Entity} {results : List ValidateEntityResult}

/-- A result comes from a relation that is missing. -/
theorem outcome_of_emits (hpopulate : config.populateMissing = true) {a : ValidateEntityResult}
    (h : Emits config p c v a) : ∃ own, a ∈ own ∧ IsMissing c.label v ∧
      RelationOutcome p c v (childrenOf config p.label c.label v).isSome (childUrl c.label v)
        own := by
  obtain ⟨cf, own, childEntities, hne, hresults, ha⟩ := h
  obtain ⟨hvalue, -, houtcome, -⟩ := relationResults_eq_some hne hpopulate hresults
  by_cases hmissing : IsMissing c.label v
  · exact ⟨own, ha, hmissing, houtcome hmissing⟩
  · rw [(hvalue hmissing).1] at ha
    exact (List.not_mem_nil ha).elim

/-- An association is for a single child that is in the store, and has the guid of the url. -/
theorem givesRelation_of_emits_associate (hpopulate : config.populateMissing = true)
    {action : FetchRelationSingleAction} (h : Emits config p c v (.associate action)) :
    IsActionFor p c v action.toFetchRelationAction ∧ IsMissing c.label v ∧
      GivesRelation config p.label c.label (.text action.guid) v := by
  obtain ⟨own, hown, hmissing, houtcome⟩ := outcome_of_emits hpopulate h
  cases houtcome with
  | listed | nothing => cases hown
  | associated action' text hfound harray hfor hurl hguid =>
    cases List.mem_singleton.1 hown
    refine ⟨hfor, hmissing, ?_⟩
    rw [GivesRelation, if_pos hfound]
    exact ⟨harray, text, hurl, by rw [hguid]⟩
  | fetchedList => simp at hown
  | fetchedSingle => simp at hown

theorem givesRelation_of_emits_fetchSingle (hpopulate : config.populateMissing = true)
    {action : FetchRelationSingleAction} (h : Emits config p c v (.fetchSingle action))
    (child : Entity) : IsActionFor p c v action.toFetchRelationAction ∧ IsMissing c.label v ∧
      GivesRelation config p.label c.label child v := by
  obtain ⟨own, hown, hmissing, houtcome⟩ := outcome_of_emits hpopulate h
  cases houtcome with
  | listed | nothing => cases hown
  | associated => simp at hown
  | fetchedList => simp at hown
  | fetchedSingle action' hfound harray hfor hurl =>
    cases List.mem_singleton.1 hown
    refine ⟨hfor, hmissing, ?_⟩
    rw [GivesRelation, if_neg (by rw [hfound]; simp)]
    exact hurl

theorem givesRelation_of_emits_fetchPaginated (hpopulate : config.populateMissing = true)
    {action : FetchRelationPaginatedAction} (h : Emits config p c v (.fetchPaginated action))
    (child : Entity) : IsActionFor p c v action.toFetchRelationAction ∧ IsMissing c.label v ∧
      GivesRelation config p.label c.label child v := by
  obtain ⟨own, hown, hmissing, houtcome⟩ := outcome_of_emits hpopulate h
  cases houtcome with
  | listed | nothing => cases hown
  | associated => simp at hown
  | fetchedSingle => simp at hown
  | fetchedList action' entityKey paginationKey initialParams hfound harray hfor hurl =>
    obtain rfl : action = action' := by simpa using hown
    refine ⟨hfor, hmissing, ?_⟩
    rw [GivesRelation, if_neg (by rw [hfound]; simp)]
    exact hurl

/-- What completes a relation comes from a visited entity with the same guid. -/
theorem exists_givesRelation (hpopulate : config.populateMissing = true)
    (hresults : AreResults config t entities results)
    (h : IsAssociated results p c v ∨ IsFetched results p c v) :
    ∃ v', Visited config t entities p v' ∧ metadataGuid v' = metadataGuid v ∧
      IsMissing c.label v' ∧ GivesRelation config p.label c.label (childGuid c.label v) v' := by
  rcases h with ⟨action, ha, hfor, hguid⟩ | ⟨action, ha, hfor⟩ | ⟨action, ha, hfor⟩
  · obtain ⟨p', v', hv, c', hc', hemits⟩ := hresults.emits _ ha
    obtain ⟨hfor', hmissing, hgives⟩ := givesRelation_of_emits_associate hpopulate hemits
    obtain rfl := hfor'.parent.symm.trans hfor.parent
    obtain rfl := hfor'.child.symm.trans hfor.child
    rw [← hguid] at hgives
    exact ⟨v', hv, hfor'.parentGuid.trans hfor.parentGuid.symm, hmissing, hgives⟩
  · obtain ⟨p', v', hv, c', hc', hemits⟩ := hresults.emits _ ha
    obtain ⟨hfor', hmissing, hgives⟩ :=
      givesRelation_of_emits_fetchSingle hpopulate hemits (childGuid c.label v)
    obtain rfl := hfor'.parent.symm.trans hfor.parent
    obtain rfl := hfor'.child.symm.trans hfor.child
    exact ⟨v', hv, hfor'.parentGuid.trans hfor.parentGuid.symm, hmissing, hgives⟩
  · obtain ⟨p', v', hv, c', hc', hemits⟩ := hresults.emits _ ha
    obtain ⟨hfor', hmissing, hgives⟩ :=
      givesRelation_of_emits_fetchPaginated hpopulate hemits (childGuid c.label v)
    obtain rfl := hfor'.parent.symm.trans hfor.parent
    obtain rfl := hfor'.child.symm.trans hfor.child
    exact ⟨v', hv, hfor'.parentGuid.trans hfor.parentGuid.symm, hmissing, hgives⟩

theorem IsActionFor.of_guid {v' : Entity} {action : FetchRelationAction}
    (h : IsActionFor p c v' action) (hguid : metadataGuid v' = metadataGuid v) :
    IsActionFor p c v action :=
  ⟨h.parent, h.child, hguid ▸ h.parentGuid⟩

/-- An entity that gives the relation completes it for the entities with its guid. -/
theorem completed_of_givesRelation (hpopulate : config.populateMissing = true) {v' : Entity}
    (hemitted : EmittedIn config results p c v') (hguid : metadataGuid v' = metadataGuid v)
    (hmissing : IsMissing c.label v')
    (h : GivesRelation config p.label c.label (childGuid c.label v) v') :
    IsAssociated results p c v ∨ IsFetched results p c v := by
  obtain ⟨cf, own, childEntities, hne, hresults, hown⟩ := hemitted
  obtain ⟨-, -, houtcome, -⟩ := relationResults_eq_some hne hpopulate hresults
  unfold GivesRelation at h
  cases houtcome hmissing with
  | listed hfound harray =>
    rw [if_pos hfound, harray] at h
    cases h.1
  | nothing hfound hurl =>
    rw [if_neg (by rw [hfound]; simp), hurl] at h
    cases h
  | associated action text hfound harray hfor hurl haction =>
    rw [if_pos hfound] at h
    obtain ⟨-, url, hurl', hchild⟩ := h
    cases hurl.symm.trans hurl'
    exact Or.inl ⟨action, hown _ (List.mem_singleton_self _), hfor.of_guid hguid,
      hchild.trans (by rw [haction])⟩
  | fetchedList action entityKey paginationKey initialParams hfound harray hfor hurl =>
    exact Or.inr (Or.inr ⟨action, hown _ (by simp), hfor.of_guid hguid⟩)
  | fetchedSingle action hfound harray hfor hurl =>
    exact Or.inr (Or.inl ⟨action, hown _ (List.mem_singleton_self _), hfor.of_guid hguid⟩)

/-- The key of the list that is looked for is that of the relation when the relation has no key
of its own. -/
theorem isOwnList_iff (h : (metadataGuid v).isSome) :
    IsOwnList p.label c.label v ↔ c.label.entity.relationKey.getD "" = "" := by
  obtain ⟨parentGuid, hguid⟩ := Option.isSome_iff_exists.1 h
  simp only [IsOwnList, hguid, Option.some.injEq, forall_eq', createEntityRelationPaginationKey]
  cases c.label.entity.relationKey with
  | none => simp
  | some relation =>
    by_cases hempty : relation = ""
    · simp [hempty]
    · simp only [hempty, if_false, Option.getD_some, iff_false]
      intro hkey
      have hlength := congrArg String.length hkey
      simp only [String.length_append, String.length_empty] at hlength
      have : "-".length = 1 := rfl
      omega

/-- The validation completes the relations exactly when every relation of a visited entity can
be completed. -/
theorem relationsComplete_iff (hcf : HaveCf cfGuid entities)
    (hpopulate : config.populateMissing = true) :
    RelationsComplete config t cfGuid entities ↔
      ∀ p v, Visited config t entities p v → ∀ c ∈ p.children,
        IsCompletable config t entities p c v := by
  constructor
  · rintro ⟨results, hrun, hcomplete⟩ p v hv c hc
    have hreadable : AllReadable config t entities :=
      (validationLoop_isSome hpopulate t hcf).1 (by rw [hrun]; rfl)
    have hresults := areResults_of_validationLoop hpopulate t hcf hrun
    have hc' := hreadable p v hv c hc
    refine ⟨hc', fun hmissing => ?_, fun hmissing harray hfound => ?_⟩
    · rcases (hcomplete p v hv c hc hmissing).1 with h | h | h
      · exact Or.inr (exists_givesRelation hpopulate hresults (Or.inl h))
      · exact Or.inr (exists_givesRelation hpopulate hresults (Or.inr h))
      · exact Or.inl h
    · exact (isOwnList_iff (hc'.metadata hmissing (Or.inl harray))).1
        ((hcomplete p v hv c hc hmissing).2 harray hfound)
  · intro h
    have hreadable : AllReadable config t entities := fun p v hv c hc => (h p v hv c hc).readable
    obtain ⟨results, hrun⟩ :=
      Option.isSome_iff_exists.1 ((validationLoop_isSome hpopulate t hcf).2 hreadable)
    have hresults := areResults_of_validationLoop hpopulate t hcf hrun
    refine ⟨results, hrun, fun p v hv c hc hmissing => ⟨?_, fun harray hfound => ?_⟩⟩
    · rcases (h p v hv c hc).given hmissing with hnothing | ⟨v', hv', hguid, hmissing', hgives⟩
      · exact Or.inr (Or.inr hnothing)
      · rcases completed_of_givesRelation hpopulate (hresults.emitted p v' hv' c hc) hguid
          hmissing' hgives with hdone | hdone
        · exact Or.inl hdone
        · exact Or.inr (Or.inl hdone)
    · exact (isOwnList_iff ((hreadable p v hv c hc).metadata hmissing (Or.inl harray))).2
        ((h p v hv c hc).own hmissing harray hfound)

end Complete

/-! ## The managed spaces of a user -/

/-- The spaces that a user manages. -/
def managedSpacesRelation : EntityTreeRelation :=
  .node ⟨.mk "space" (some "managed_spaces") .nil, true, some "managed_spaces",
    "entity.managed_spaces"⟩ []

/-- A user with that relation. -/
def userRelation : EntityTreeRelation :=
  .node ⟨.mk "user" none .nil, false, none, ""⟩ [managedSpacesRelation]

/-- A user whose managed spaces are missing. -/
def userEntity : Entity :=
  .object [("metadata", .object [("guid", .text "u")]),
    ("entity", .object [("managed_spaces_url", .text "/v2/users/u/managed_spaces")])]

/-- The store has the space, and the ids of a list of spaces of the user. -/
def userConfig (ids : JsObject (Option (List String))) : ValidateLoopConfig where
  allEntities := some (JsObject.empty.set "space" (JsObject.empty.set "s" (.text "space")))
  allPagination := JsObject.empty.set "space" (JsObject.empty.set "user-u"
    { getDefaultPaginationEntityState with ids })
  newEntities := none
  includeRelations := ["user-managed_spaces"]
  populateMissing := true

theorem isMissing_user : IsMissing managedSpacesRelation.label userEntity := by
  rfl

/-- Nothing is stored : the managed spaces are fetched. -/
theorem relationsComplete_user :
    RelationsComplete (userConfig JsObject.empty) userRelation "cf" [userEntity] := by
  refine (relationsComplete_iff (haveCf_of_ne (by decide)) rfl).2 ?_
  have hchildren : childrenOf (userConfig JsObject.empty) userRelation.label
      managedSpacesRelation.label userEntity = none := rfl
  have hurl : childUrl managedSpacesRelation.label userEntity =
      .text "/v2/users/u/managed_spaces" := rfl
  have hlisted : IsMissing managedSpacesRelation.label userEntity →
      managedSpacesRelation.label.isArray = true → ∀ parentGuid,
      metadataGuid userEntity = some parentGuid →
        (listedChildren (userConfig JsObject.empty) "user" parentGuid "space").isSome := by
    rintro - - _ ⟨⟩
    rw [listedChildren_of_notMem _ (by decide) (by decide)]
    rfl
  rw [userRelation, visited_node]
  refine ⟨fun v hv c hc => ?_, fun c hc e he items hitems => ?_⟩
  · obtain rfl := List.mem_singleton.1 hv
    obtain rfl := List.mem_singleton.1 hc
    refine ⟨⟨fun h => absurd isMissing_user h, fun _ _ => rfl, fun _ _ => ⟨_, hurl⟩, hlisted⟩,
      fun h => Or.inr ⟨userEntity, .here (List.mem_singleton_self _), rfl, h, ?_⟩,
      fun _ _ hfound => by cases hfound⟩
    rw [GivesRelation, if_neg (by decide), hurl]
    decide
  · obtain rfl := List.mem_singleton.1 he
    obtain rfl := List.mem_singleton.1 hc
    cases hitems

/-- Any spaces of the user are taken for the managed ones, and are not associated. -/
theorem not_relationsComplete_list :
    ¬∀ (config : ValidateLoopConfig) (t : EntityTreeRelation) (cfGuid : String)
        (entities : List Entity), HaveCf cfGuid entities →
      (∀ e ∈ entities, ∃ guid, metadataGuid e = some (some guid)) →
      config.populateMissing = true → RelationsComplete config t cfGuid entities := by
  intro h
  obtain ⟨results, hrun, hcomplete⟩ := h (userConfig (JsObject.empty.set "1" (some ["s"])))
    userRelation "cf" [userEntity] (haveCf_of_ne (by decide))
    (fun e he => ⟨"u", by rw [List.mem_singleton.1 he]; rfl⟩) rfl
  have hnone : results = [] := by
    have : validationLoop (userConfig (JsObject.empty.set "1" (some ["s"]))) userRelation "cf"
        [userEntity] = some [] := rfl
    exact Option.some.inj (hrun.symm.trans this)
  have hmissing := hcomplete userRelation userEntity (.here (List.mem_singleton_self _))
    managedSpacesRelation (List.mem_singleton_self _) isMissing_user
  rw [hnone] at hmissing
  rcases hmissing.1 with ⟨action, ha, -⟩ | (⟨action, ha, -⟩ | ⟨action, ha, -⟩) | hnothing
  · exact List.not_mem_nil ha
  · exact List.not_mem_nil ha
  · exact List.not_mem_nil ha
  · cases hnothing.1

end Stratos
