import Stratos.Frontend.Schema
import Stratos.Lib.JsObject

/-!
# Entity trees and their cache

The tree of the relations that an action includes (`entity-relations.tree.ts`). The tree of a
schema is built once (`createEntityTree`), then parsed : the relations that the action does not
include are dropped, and the parameters and the depth of the others are added up in the tree.

The trees are kept in a cache under the key of the entity and the included relations
(`fetchEntityTree`). A tree from the cache is parsed again, in place.
-/

open Lib

namespace Stratos

/-! ## Relations -/

/-- An `EntityTreeRelation` without its child relations. -/
structure EntityRelation where
  entity : EntitySchema
  isArray : Bool
  /-- `null` for the root. -/
  paramName : Option String
  path : String

/-- The class `EntityTreeRelation` : a relation with its child relations. -/
abbrev EntityTreeRelation := RoseTree EntityRelation

/-- The name of a relation. -/
def createEntityRelationKey (parentKey childKey : String) : String := parentKey ++ "-" ++ childKey

/-- `relation.entity.relationKey || relation.entityKey`. -/
def EntitySchema.relationOrKey (e : EntitySchema) : String :=
  match e.relationKey with
  | some k => if k = "" then e.key else k
  | none => e.key

/-- The child of the relation is among the included ones. -/
def isIncluded (includeRelations : List String) (parent child : EntityRelation) : Bool :=
  createEntityRelationKey parent.entity.key child.entity.relationOrKey ∈ includeRelations

/-- The tree of relations below a schema, and what the request has to ask for. -/
structure EntityTree where
  maxDepth : ℕ
  rootRelation : EntityTreeRelation
  requiredParamNames : List (Option String)

/-! ## Building -/

/-- `path ? path + '.' + key : key`. -/
def joinPath (path key : String) : String := if path = "" then key else path ++ "." ++ key

mutual

/-- The child relations of an entity. -/
def buildEntityTree : EntitySchema → List EntityTreeRelation
  | .mk _ _ definition => buildFields definition ""

/-- The relations below an object at the path. -/
def buildFields : SchemaFields → String → List EntityTreeRelation
  | .nil, _ => []
  | .cons key value rest, path =>
    buildValue key value (joinPath path key) ++ buildFields rest path

/-- The relations at and below a property. Of an array the first element counts. -/
def buildValue (key : String) : Schema → String → List EntityTreeRelation
  | .entity e, newPath => [.node ⟨e, false, some key, newPath⟩ (buildEntityTree e)]
  | .object fields, newPath => buildFields fields newPath
  | .array .nil, _ => []
  | .array (.cons _ (.entity e) _), newPath =>
    [.node ⟨e, true, some key, newPath⟩ (buildEntityTree e)]
  | .array (.cons _ (.object fields) _), newPath => buildFields fields newPath
  | .array (.cons _ (.array items) _), newPath => buildFields items newPath

end

/-- The relation at the root of a tree, which has no parameter. -/
def rootRelation (entity : EntitySchema) (isArray : Bool) : EntityRelation :=
  ⟨entity, isArray, none, ""⟩

/-- The tree before any relation is asked for. -/
def createEntityTree (entity : EntitySchema) (isArray : Bool) : EntityTree where
  maxDepth := 0
  rootRelation := .node (rootRelation entity isArray) (buildEntityTree entity)
  requiredParamNames := []

/-! ## Parsing -/

/-- What the parse adds up in the tree. -/
structure TreeInfo where
  requiredParamNames : List (Option String)
  maxDepth : ℕ

/-- The parameter with the others, once. -/
def TreeInfo.addName (info : TreeInfo) (paramName : Option String) : TreeInfo :=
  if paramName ∈ info.requiredParamNames then info
  else { info with requiredParamNames := info.requiredParamNames ++ [paramName] }

section Parse

variable (includeRelations : List String)

mutual

/-- The child relations of the relation that are included, and the info of the tree. -/
def parseEntityTree : EntityTreeRelation → TreeInfo → List EntityTreeRelation × TreeInfo
  | .node relation childRelations, info =>
    let r := parseChildren relation childRelations info
    (r.1, if r.1.isEmpty then r.2 else { r.2 with maxDepth := r.2.maxDepth + 1 })

/-- The loop over the child relations. -/
def parseChildren (parent : EntityRelation) :
    List EntityTreeRelation → TreeInfo → List EntityTreeRelation × TreeInfo
  | [], info => ([], info)
  | relation :: rest, info =>
    if isIncluded includeRelations parent relation.label then
      let r := parseEntityTree relation (info.addName relation.label.paramName)
      let r' := parseChildren parent rest r.2
      (.node relation.label r.1 :: r'.1, r'.2)
    else parseChildren parent rest info

end

end Parse

/-! ## Fetching -/

/-- The action, with `[entity]` for an array. -/
structure EntityInlineParentAction where
  entity : EntitySchema
  isArray : Bool
  includeRelations : Option (List String)

/-- The relations that the action includes. -/
def EntityInlineParentAction.included (action : EntityInlineParentAction) : List String :=
  action.includeRelations.getD []

section Cache

/- `a.localeCompare(b) <= 0`. -/
variable (localeLE : String → String → Bool)

/-- The sort is in place, which changes the order of the action's relations only. -/
def generateCacheKey (entityKey : String) (action : EntityInlineParentAction) : String :=
  entityKey ++ "+" ++ ",".intercalate (action.included.mergeSort localeLE)

/-- The tree, and the cache with it. The tree in the cache is the one that is parsed. -/
def fetchEntityTree (entityTreeCache : JsObject EntityTree) (action : EntityInlineParentAction)
    (fromCache : Bool) : EntityTree × JsObject EntityTree :=
  let cacheKey := generateCacheKey localeLE action.entity.key action
  let entityTree :=
    match fromCache, entityTreeCache.get? cacheKey with
    | true, some cachedTree => cachedTree
    | _, _ => createEntityTree action.entity action.isArray
  let r := parseEntityTree action.included entityTree.rootRelation
    ⟨entityTree.requiredParamNames, entityTree.maxDepth⟩
  let entityTree : EntityTree :=
    { maxDepth := r.2.maxDepth
      rootRelation := .node entityTree.rootRelation.label r.1
      requiredParamNames := r.2.requiredParamNames }
  (entityTree, entityTreeCache.set cacheKey entityTree)

/-- The trees of a sequence of calls. -/
def fetchEntityTrees :
    JsObject EntityTree → List (EntityInlineParentAction × Bool) → List EntityTree
  | _, [] => []
  | cache, (action, fromCache) :: calls =>
    let r := fetchEntityTree localeLE cache action fromCache
    r.1 :: fetchEntityTrees r.2 calls

end Cache

end Stratos
