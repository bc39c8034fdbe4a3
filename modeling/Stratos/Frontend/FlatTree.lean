import Stratos.Frontend.Schema
import Stratos.Lib.JsObject

/-!
# The tree of an entity that is deleted

`EntitySchemaTreeBuilder` (`schema-tree-traverse.ts`) collects the entities below one that is
deleted, by type, from the entity that normalizr denormalises. A list of types is excluded for
each type of root.

Each function of the walk has its own way with arrays, single children and plain objects :
`build` files a child under the key of its schema, `handleSingleChildEntity` under the name of
the property that holds it as well.
-/

open Lib

namespace Stratos

/-! ## Entities -/

/-- A denormalised value. Its entities are the objects at the places where the schema has an
entity, and the graph has no cycle. -/
inductive Entity
  /-- `undefined`, or a value like it that is false. -/
  | absent
  | text (s : String)
  | array (items : List Entity)
  | object (fields : List (String × Entity))

namespace Entity

/-- `!!entity` -/
def truthy : Entity → Bool
  | absent => false
  | text s => s ≠ ""
  | array _ | object _ => true

/-- `entity[key]` -/
def get : Entity → String → Entity
  | object fields, key => ((fields.find? fun e => e.1 = key).map Prod.snd).getD absent
  | _, _ => absent

@[simp] theorem get_absent (key : String) : absent.get key = absent :=
  rfl

end Entity

/-! ## Flat trees -/

/-- Sets of ids by key. -/
abbrev IFlatTree := JsObject (List String)

namespace IFlatTree

/-- The id is in the tree under the key. -/
def Has (flatTree : IFlatTree) (key id : String) : Prop := id ∈ (flatTree.get? key).getD []

instance (flatTree : IFlatTree) (key id : String) : Decidable (flatTree.Has key id) :=
  inferInstanceAs (Decidable (_ ∈ _))

theorem not_has_empty (key id : String) : ¬IFlatTree.Has JsObject.empty key id := by
  simp [Has]

end IFlatTree

/-- The id with the others of the key, once. -/
def addIdToTree (flatTree : IFlatTree) (key newId : String) : IFlatTree :=
  let ids := (flatTree.get? key).getD []
  flatTree.set key (if newId ∈ ids then ids else ids ++ [newId])

theorem has_addIdToTree {flatTree : IFlatTree} {key newId key' id : String} :
    (addIdToTree flatTree key newId).Has key' id ↔
      key' = key ∧ id = newId ∨ flatTree.Has key' id := by
  unfold addIdToTree IFlatTree.Has
  rw [JsObject.get?_set]
  by_cases hkey : key' = key
  · subst hkey
    rw [if_pos rfl, Option.getD_some]
    split_ifs with hmem
    · refine ⟨Or.inr, ?_⟩
      rintro (⟨-, rfl⟩ | h)
      · exact hmem
      · exact h
    · simp [or_comm]
  · simp [hkey]

/-! ## The walk -/

section Build

/- The id of an entity, by the `idAttribute` of its schema. It is empty when there is none. -/
variable (getId : EntitySchema → Entity → String)

/- The types that are excluded. -/
variable (entityExcludes : List String)

/-- `this.entityExcludes.includes(schema.key)`. Only an entity schema has a key. -/
def isExcluded : Schema → Bool
  | .entity e => e.key ∈ entityExcludes
  | _ => false

theorem sizeOf_definition_lt (e : EntitySchema) : sizeOf e.definition < sizeOf e := by
  obtain ⟨key, relationKey, definition⟩ := e
  simp [EntitySchema.definition]

mutual

/-- Of an array the first element is the schema. -/
def build : Schema → Entity → IFlatTree → Bool → IFlatTree
  | .array .nil, _, flatTree, _ => flatTree
  | .array (.cons _ schema _), entity, flatTree, root => buildSchema schema entity flatTree root
  | .entity e, entity, flatTree, root => buildSchema (.entity e) entity flatTree root
  | .object fields, entity, flatTree, root => buildSchema (.object fields) entity flatTree root
termination_by schema => (sizeOf schema, 1)

/-- The ids at and below a place of the schema. -/
def buildSchema (schema : Schema) (entity : Entity) (flatTree : IFlatTree) (root : Bool) :
    IFlatTree :=
  if entity.truthy = false ∨ isExcluded entityExcludes schema then flatTree
  else match schema, entity with
    | .entity e, .array items => items.foldl (fun newFlatTree newEntity =>
        applySchemaToTree e newEntity newFlatTree false) flatTree
    | .entity e, entity => applySchemaToTree e entity flatTree root
    -- Each element is applied to a schema without `getId`, which adds nothing.
    | .object _, .array _ => flatTree
    | .array _, .array _ => flatTree
    | .object fields, entity => buildObject fields entity flatTree
    | .array items, entity => buildObject items entity flatTree
termination_by (sizeOf schema, 0)

/-- `Object.keys(schema).reduce` -/
def buildObject : SchemaFields → Entity → IFlatTree → IFlatTree
  | .nil, _, flatTree => flatTree
  | .cons key value rest, entity, flatTree =>
    buildObject rest entity (build value (entity.get key) flatTree false)
termination_by fields => (sizeOf fields, 0)

/-- The id of an entity and the ids below it. -/
def applySchemaToTree (schema : EntitySchema) (entity : Entity) (flatTree : IFlatTree)
    (root : Bool) : IFlatTree :=
  if entity.truthy = false then flatTree
  else applyFields schema.definition entity
    -- Don't add the root element to the tree
    (if root then flatTree else addIdToTree flatTree schema.key (getId schema entity))
termination_by (sizeOf schema, 0)
decreasing_by exact Prod.Lex.left _ _ (sizeOf_definition_lt schema)

/-- `keys.reduce` over the properties of a definition, each with its `getDefinition`. -/
def applyFields : SchemaFields → Entity → IFlatTree → IFlatTree
  | .nil, _, flatTree => flatTree
  | .cons _ (.array .nil) rest, entity, flatTree => applyFields rest entity flatTree
  | .cons key (.array (.cons _ definition _)) rest, entity, flatTree =>
    applyFields rest entity (applyField definition (entity.get key) flatTree key)
  | .cons key (.entity e) rest, entity, flatTree =>
    applyFields rest entity (applyField (.entity e) (entity.get key) flatTree key)
  | .cons key (.object fields) rest, entity, flatTree =>
    applyFields rest entity (applyField (.object fields) (entity.get key) flatTree key)
termination_by fields => (sizeOf fields, 0)

/-- The ids below a property, which may be a list. -/
def applyField (entityDefinition : Schema) (newEntity : Entity) (flatTree : IFlatTree)
    (key : String) : IFlatTree :=
  match newEntity with
  | .array items => build entityDefinition (.array items) flatTree false
  | newEntity => handleSingleChildEntity entityDefinition newEntity flatTree key
termination_by (sizeOf entityDefinition, 3)

/-- The ids of a single child and below it. It is filed under the property as well. -/
def handleSingleChildEntity (entityDefinition : Schema) (entity : Entity) (flatTree : IFlatTree)
    (key : String) : IFlatTree :=
  if entity.truthy = false then flatTree
  else match entityDefinition with
    | .entity e =>
      let id := getId e entity
      if id = "" ∨ flatTree.Has key id then build (.object e.definition) entity flatTree false
      else build (.entity e) entity (addIdToTree flatTree key id) false
    | entityDefinition => build entityDefinition entity flatTree false
termination_by (sizeOf entityDefinition, 2)
decreasing_by
  · have := sizeOf_definition_lt e
    exact Prod.Lex.left _ _ (by simpa)
  all_goals exact Prod.Lex.right _ (by decide)

end

end Build

/-! ## The excludes -/

/-- The types that are excluded, by the type of the root. -/
abbrev IExcludes := JsObject (List String)

/-- The excludes of the constructor. -/
def defaultExcludes : IExcludes :=
  [("organization", ["domain", "quota_definition", "private_domains"]),
    ("space", ["domain", "service", "servicePlan", "stack"]),
    ("application", ["stack", "space", "route", "serviceBinding", "serviceInstance"]),
    ("stats", []),
    ("route", ["domain", "application"]),
    ("serviceBinding", ["application", "serviceInstance", "service"]),
    ("serviceInstance", ["servicePlan", "application", "serviceInstance", "service"]),
    ("user", ["organization", "space"])].foldl (fun excludes e => excludes.set e.1 e.2)
      JsObject.empty

section GetFlatTree

variable {State : Type*}

/- `denormalize` of normalizr. -/
variable (denormalize : String → EntitySchema → State → Entity)

variable (getId : EntitySchema → Entity → String)

/-- The ids below the entity that is deleted. -/
def getFlatTree (excludes : IExcludes) (schema : EntitySchema) (guid : String) (state : State) :
    IFlatTree :=
  build getId ((excludes.get? schema.key).getD []) (.entity schema)
    (denormalize guid schema state) JsObject.empty true

end GetFlatTree

end Stratos
