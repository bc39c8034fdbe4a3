import Stratos.Frontend.EntityTree
import Stratos.Frontend.FlatTree
import Stratos.Frontend.RequestState
import Stratos.Lib.JsValue

/-!
# Validating entity relations

`validationLoop` of `entity-relations.ts` goes through the relations of an entity tree and looks
for children that the entities do not have. A missing list is looked for in a section of the
pagination store, a missing single child under its guid, and what is not there is fetched.

The section is looked for by a path, which the dots of a key or of a guid would take below it, so
that the store is read as a value (`paginationValue`). Without such dots the path leads to the
section (`listedChildren_of_notMem`).

What is observed while an action is under way is left out. A function that reads a property of
`undefined` throws, and `none` is the throw.
-/

open Lib

namespace Stratos

/-! ## Reading entities -/

/-- `path.split('.')` -/
def pathParams (path : String) : List String :=
  (path.toList.splitOn '.').map String.ofList

theorem pathParams_of_notMem {path : String} (h : '.' ∉ path.toList) :
    pathParams path = [path] := by
  rw [pathParams, List.splitOn_eq_singleton h, List.map_singleton, String.ofList_toList]

theorem pathParams_append {first path : String} (h : '.' ∉ first.toList) :
    pathParams (first ++ "." ++ path) = first :: pathParams path := by
  have htext : (first ++ "." ++ path).toList = first.toList ++ '.' :: path.toList := by
    simp
  rw [pathParams, htext, List.splitOn_append_cons_self_of_not_mem h, List.map_cons,
    String.ofList_toList, pathParams]

/-- The value at a path. What is absent has absent properties. -/
def pathGet (path : String) (object : Entity) : Entity :=
  (pathParams path).foldl Entity.get object

/-- The name of the property that a value gives. -/
def Entity.propertyKey : Entity → String
  | .absent => "undefined"
  | .text s => s
  | .array _ | .object _ => "[object Object]"

/-- A guid, if the value is one. -/
def Entity.guid? : Entity → Option String
  | .text guid => some guid
  | _ => none

/-- `entity.metadata.guid`. Throws without metadata. -/
def metadataGuid (entity : Entity) : Option (Option String) :=
  match entity.get "metadata" with
  | .absent => none
  | metadata => some (metadata.get "guid").guid?

/-- Each entity by its guid, and a guid as it is. -/
def childEntitiesAsGuids (childEntities : List Entity) : List Entity :=
  childEntities.map fun entity =>
    if (pathGet "metadata.guid" entity).truthy then pathGet "metadata.guid" entity else entity

/-- `url.substring(url.lastIndexOf('/') + 1)` -/
def lastSegment (url : String) : String :=
  String.ofList (url.toList.reverse.takeWhile (· ≠ '/')).reverse

/-! ## The pagination store as a value -/

section Values

variable {α : Type*}

/-- An object, as the value of its properties. -/
def objectValue (f : α → JsValue) (o : JsObject α) : JsValue :=
  .object (o.mapValues fun _ => f).entries

theorem objectValue_get (f : α → JsValue) (o : JsObject α) (key : String) :
    (objectValue f o).get key = ((o.get? key).map f).getD .undefined := by
  rw [objectValue, JsValue.get_object, JsObject.get?_mapValues]

/-- The value of a `q` parameter. -/
def QValue.value : QValue → JsValue
  | text s => .string s
  | list l => .array (l.map .string)

/-- A `q` parameter, as the value of its properties. -/
def QParam.toValue (q : QParam) : JsValue :=
  .object [("key", .string q.key), ("value", q.value.value), ("joiner", .string q.joiner.string)]

/-- The value of another parameter. -/
def ParamValue.value : ParamValue → JsValue
  | text s => .string s
  | number n => .number n
  | flag b => .bool b

/-- The parameters, `q` among the others. -/
def PaginationParam.value (params : PaginationParam) : JsValue :=
  let others := params.others.mapValues fun _ => ParamValue.value
  .object (params.q.elim others fun q => others.set "q" (.array (q.map QParam.toValue))).entries

/-- The progress of a page. -/
def ActionState.value (state : ActionState) : JsValue :=
  .object [("busy", .bool state.busy), ("error", .bool state.error),
    ("message", .string state.message)]

/-- The client side of a section. -/
def PaginationClientPagination.value (state : PaginationClientPagination) : JsValue :=
  .object [("pageSize", .number state.pageSize), ("currentPage", .number state.currentPage),
    ("filter", .object [("string", .string state.filter.string),
      ("items", objectValue .string state.filter.items)]),
    ("totalResults", .number state.totalResults)]

/-- A page, as a list of ids. -/
def pageValue (page : Option (List String)) : JsValue :=
  page.elim .undefined fun ids => .array (ids.map .string)

/-- A section, as the value of its properties. -/
def PaginationEntityState.value (state : PaginationEntityState) : JsValue :=
  .object [("currentPage", .number state.currentPage),
    ("totalResults", .number state.totalResults),
    ("pageCount", state.pageCount.elim .undefined fun n => .number n),
    ("ids", objectValue pageValue state.ids),
    ("params", state.params.value),
    ("pageRequests", objectValue ActionState.value state.pageRequests),
    ("clientPagination", state.clientPagination.elim .undefined PaginationClientPagination.value),
    ("seed", state.seed.elim .undefined .string)]

/-- The store, as the value of its types and their sections. -/
def paginationValue (state : PaginationState) : JsValue :=
  objectValue (objectValue PaginationEntityState.value) state

/-- `pathGet`, of a value. -/
def pathGetValue (path : String) (object : JsValue) : JsValue :=
  (pathParams path).foldl JsValue.get object

/-- The name of the property that a value gives. The numbers of the store are whole. -/
def propertyName : JsValue → String
  | .undefined => "undefined"
  | .null => "null"
  | .bool b => toString b
  | .number x => toString x.num
  | .string s => s
  | .array _ | .object _ => "[object Object]"

/-- The text of an id, if the value is one. -/
def idText? : JsValue → Option String
  | .string s => some s
  | _ => none

end Values

/-! ## Actions -/

/-- What is known of a relation that is fetched or associated. -/
structure FetchRelationAction where
  endpointGuid : String
  parentGuid : Option String
  parent : EntityTreeRelation
  child : EntityTreeRelation
  includeRelations : List String
  populateMissing : Bool
  /-- `options.url` -/
  url : String

/-- The url of the options, without the version. -/
def optionsUrl (url : String) : String :=
  if "/v2/".toList <+: url.toList then String.ofList (url.toList.drop 4) else url

/-- An action for a single child. -/
structure FetchRelationSingleAction extends FetchRelationAction where
  guid : String

/-- An action for a list of children. -/
structure FetchRelationPaginatedAction extends FetchRelationAction where
  paginationKey : String

/-- The `initialParams` of every paginated action. -/
def relationInitialParams : JsObject ParamValue :=
  (JsObject.empty.set "results-per-page" (.number 100)).set "page" (.number 1)

/-- What the validation asks for. -/
inductive ValidateEntityResult
  /-- The child is there : the action is not dispatched, and only associates it. -/
  | associate (action : FetchRelationSingleAction)
  | setInitialParams (entityKey paginationKey : String) (initialParams : JsObject ParamValue)
  | fetchPaginated (action : FetchRelationPaginatedAction)
  | fetchSingle (action : FetchRelationSingleAction)

/-- The key of the section with the children of a parent. -/
def createEntityRelationPaginationKey (parentSchemaKey : String) (parentGuid : Option String)
    (childSchemaRelation : Option String) : String :=
  parentSchemaKey ++ "-" ++ parentGuid.getD "all" ++
    match childSchemaRelation with
    | some relation => if relation = "" then "" else "-" ++ relation
    | none => ""

/-! ## The loop -/

/-- The parts of the config that the loop does not change. -/
structure ValidateLoopConfig where
  allEntities : Option (EntitySlices Entity)
  allPagination : PaginationState
  newEntities : Option (EntitySlices Entity)
  includeRelations : List String
  populateMissing : Bool

section Loop

variable (config : ValidateLoopConfig)

/-- `newEntitiesOfType[guid] || allEntitiesOfType[guid]`, if it is there. -/
def foundEntity (entityKey : String) (guid : Entity) : Option Entity :=
  let stored (entities : Option (EntitySlices Entity)) : Option Entity :=
    (entities.bind (getEntity · entityKey guid.propertyKey)).filter Entity.truthy
  (stored config.newEntities).or (stored config.allEntities)

/-- The children of a list of entities or guids, if all are there. -/
def foundEntities (entityKey : String) (childEntitiesAsArray : List Entity) :
    Option (List Entity) :=
  (childEntitiesAsGuids childEntitiesAsArray).mapM (foundEntity config entityKey)

/-- The list of a section, on its current page. Throws when there are no `ids` to read of, and
when the page is not a list of ids. -/
def listOfSection (paginationState : JsValue) : Option (Option (List Entity)) :=
  if (paginationState.get "ids").nullish then none
  else
    let page := (paginationState.get "ids").get (propertyName (paginationState.get "currentPage"))
    if page.truthy then
      match page with
      | .array ids => (ids.mapM idText?).map fun ids => some (ids.map Entity.text)
      | _ => none
    else some none

/-- The list in the section of the parent, if there is one. -/
def listedChildren (parentKey : String) (parentGuid : Option String) (childKey : String) :
    Option (Option (List Entity)) :=
  let paginationState := pathGetValue
    (childKey ++ "." ++ createEntityRelationPaginationKey parentKey parentGuid none)
    (paginationValue config.allPagination)
  if paginationState.truthy then listOfSection paginationState else some none

theorem mapM_idText? : ∀ ids : List String, (ids.map JsValue.string).mapM idText? = some ids
  | [] => rfl
  | id :: ids => by
    rw [List.map_cons, List.mapM_cons, mapM_idText? ids]
    rfl

theorem listOfSection_value (state : PaginationEntityState) : listOfSection state.value =
    some ((state.ids.get? (pageKey state.currentPage)).join.map (·.map Entity.text)) := by
  have hids : state.value.get "ids" = objectValue pageValue state.ids := rfl
  have hpage : state.value.get "currentPage" = .number state.currentPage := rfl
  rw [listOfSection, hids, hpage, propertyName, Rat.num_intCast, ← pageKey, objectValue_get]
  cases state.ids.get? (pageKey state.currentPage) with
  | none => rfl
  | some page =>
    cases page with
    | none => rfl
    | some ids =>
      have hall := mapM_idText? ids
      simp [pageValue, objectValue, JsValue.nullish, JsValue.truthy, hall]

/-- Without dots in the keys and in the guid, the list is the one of the section of the parent, on
its current page. -/
theorem listedChildren_of_notMem {parentKey childKey : String} {parentGuid : Option String}
    (hchild : '.' ∉ childKey.toList)
    (hkey : '.' ∉ (createEntityRelationPaginationKey parentKey parentGuid none).toList) :
    listedChildren config parentKey parentGuid childKey = some (do
      let sections ← config.allPagination.get? childKey
      let paginationState ←
        sections.get? (createEntityRelationPaginationKey parentKey parentGuid none)
      let ids ← (paginationState.ids.get? (pageKey paginationState.currentPage)).join
      return ids.map Entity.text) := by
  have hpath := objectValue_get (objectValue PaginationEntityState.value) config.allPagination
    childKey
  rw [listedChildren, pathGetValue, pathParams_append hchild, pathParams_of_notMem hkey,
    List.foldl_cons, List.foldl_cons, List.foldl_nil, paginationValue, hpath]
  cases config.allPagination.get? childKey with
  | none => rfl
  | some sections =>
    rw [Option.map_some, Option.getD_some, objectValue_get]
    simp only [Option.bind_eq_bind, Option.bind_some]
    cases sections.get? (createEntityRelationPaginationKey parentKey parentGuid none) with
    | none => rfl
    | some paginationState =>
      have htruthy : paginationState.value.truthy = true := rfl
      rw [Option.map_some, Option.getD_some, if_pos htruthy, listOfSection_value,
        Option.bind_some, Option.map_eq_bind]
      rfl

/-- The children that the entity does not have but the store does. Throws without metadata when
they are a list, and where the list cannot be read. -/
def missingChildren (parentRelation childRelation : EntityRelation) (entity : Entity) :
    Option (Option (List Entity)) :=
  if childRelation.isArray then do
    let parentGuid ← metadataGuid entity
    let childEntities ← listedChildren config parentRelation.entity.key parentGuid
      childRelation.entity.key
    return childEntities.bind (foundEntities config childRelation.entity.key)
  else
    some (foundEntities config childRelation.entity.key
      [pathGet (childRelation.path ++ "_guid") entity])

section HandleRelation

variable (cfGuid : String) (parentRelation : EntityTreeRelation) (parentEntity : Entity)
  (childRelation : EntityTreeRelation)

/-- The action of a relation to the url. Throws without metadata, which a list that is missing has
been looked for with, and when the url is no text. -/
def createRelationAction (childEntitiesUrl : Entity) : Option (String × FetchRelationAction) := do
  let parentGuid ← metadataGuid parentEntity
  match childEntitiesUrl with
  | .text url => some (url,
    { endpointGuid := cfGuid
      parentGuid := parentGuid
      parent := parentRelation
      child := childRelation
      includeRelations := config.includeRelations
      populateMissing := config.populateMissing
      url := optionsUrl url })
  | _ => none

/-- The action for a single child, with the guid that ends the url. -/
def createSingleAction (childEntitiesUrl : Entity) : Option FetchRelationSingleAction := do
  let (url, action) ←
    createRelationAction config cfGuid parentRelation parentEntity childRelation childEntitiesUrl
  return { action with guid := lastSegment url }

/-- The action for a list, whose section has the key of the relation. -/
def createPaginationAction (childEntitiesUrl : Entity) : Option FetchRelationPaginatedAction := do
  let (_, action) ←
    createRelationAction config cfGuid parentRelation parentEntity childRelation childEntitiesUrl
  return { action with
    paginationKey := createEntityRelationPaginationKey parentRelation.label.entity.key
      action.parentGuid childRelation.label.entity.relationKey }

/-- What fetches the children, if there is a url. -/
def createActionsForMissingEntities (childEntitiesUrl : Entity) :
    Option (List ValidateEntityResult) :=
  -- There might genuinely be no entity. In those cases the url will be blank
  if childEntitiesUrl.truthy = false then some []
  else if childRelation.label.isArray then do
    let action ← createPaginationAction config cfGuid parentRelation parentEntity childRelation
      childEntitiesUrl
    let action := { action with paginationKey := action.paginationKey ++ "-relation" }
    return [.setInitialParams childRelation.label.entity.key action.paginationKey
      relationInitialParams, .fetchPaginated action]
  else do
    let action ← createSingleAction config cfGuid parentRelation parentEntity childRelation
      childEntitiesUrl
    return [.fetchSingle action]

/-- Throws without the guid of a CF. -/
def handleRelation (childEntities : Option (List Entity)) (childEntitiesUrl : Entity) :
    Option (List ValidateEntityResult) :=
  if cfGuid = "" then none
  else match childEntities with
    | some _ =>
      if childRelation.label.isArray then some []
      else do
        let action ← createSingleAction config cfGuid parentRelation parentEntity childRelation
          childEntitiesUrl
        return [.associate action]
    | none =>
      if config.populateMissing then
        createActionsForMissingEntities config cfGuid parentRelation parentEntity childRelation
          childEntitiesUrl
      else some []

end HandleRelation

/-- `cfGuid || entity.entity.cfGuid` -/
def resolveCfGuid (cfGuid : String) (entity : Entity) : Option String :=
  if cfGuid ≠ "" then some cfGuid
  else match entity.get "entity" with
    | .absent => none
    | inner => some ((inner.get "cfGuid").guid?.getD "")

/-- The own results of a relation of an entity, and the children it has or that were found. -/
def relationResults (cfGuid : String) (parentRelation childRelation : EntityTreeRelation)
    (entity : Entity) : Option (List ValidateEntityResult × Option Entity) :=
  let childValue := pathGet childRelation.label.path entity
  if childValue.truthy then
    some ([], some (if childRelation.label.isArray then childValue else .array [childValue]))
  else do
    let childEntities ←
      missingChildren config parentRelation.label childRelation.label entity
    let cfGuid ← resolveCfGuid cfGuid entity
    let results ← handleRelation config cfGuid parentRelation entity childRelation childEntities
      (pathGet (childRelation.label.path ++ "_url") entity)
    return (results, childEntities.map Entity.array)

/-- One relation of one entity. `loop` validates the children. -/
def validateEntity (cfGuid : String) (parentRelation childRelation : EntityTreeRelation)
    (loop : String → List Entity → Option (List ValidateEntityResult)) (entity : Entity) :
    Option (List ValidateEntityResult) := do
  let (results, childEntities) ←
    relationResults config cfGuid parentRelation childRelation entity
  match childEntities with
  | none => return results
  | some childEntities =>
    if childRelation.children.isEmpty then return results
    else
      let cfGuid ← resolveCfGuid cfGuid entity
      match childEntities with
      | .array items => return results ++ (← loop cfGuid items)
      | _ => none

mutual

/-- The results for the relations of a tree, of each of the entities. -/
def validationLoop : EntityTreeRelation → String → List Entity →
    Option (List ValidateEntityResult)
  | .node relation childRelations, cfGuid, entities =>
    validateChildren (.node relation childRelations) childRelations cfGuid entities

/-- The results for some of the relations. -/
def validateChildren (parentRelation : EntityTreeRelation) : List EntityTreeRelation → String →
    List Entity → Option (List ValidateEntityResult)
  | [], _, _ => some []
  | childRelation :: rest, cfGuid, entities => do
    let results ← entities.mapM (validateEntity config cfGuid parentRelation childRelation
      (validationLoop childRelation))
    return results.flatten ++ (← validateChildren parentRelation rest cfGuid entities)

end

end Loop

end Stratos
