import Stratos.Lib.Tree

/-!
# Entity schemas

The schemas that the front end gives to normalizr (`EntitySchema`) : an entity has a key and a
definition, a tree of plain objects and arrays down to the schemas of its children. The schemas
are finite : no entity is inside its own definition.
-/

namespace Stratos

mutual

/-- The class `EntitySchema`. A missing definition is an empty one. -/
inductive EntitySchema
  | mk (key : String) (relationKey : Option String) (definition : SchemaFields)

/-- A value inside a definition. -/
inductive Schema
  | entity (e : EntitySchema)
  /-- An array, as its elements under their indices. -/
  | array (items : SchemaFields)
  | object (fields : SchemaFields)

/-- The properties of an object, in the order of `Object.keys`. -/
inductive SchemaFields
  | nil
  | cons (key : String) (value : Schema) (rest : SchemaFields)

end

namespace EntitySchema

/-- The type of the entity. -/
def key : EntitySchema → String
  | mk key _ _ => key

/-- The name of the relation that leads to the entity, if the type is not enough. -/
def relationKey : EntitySchema → Option String
  | mk _ relationKey _ => relationKey

/-- The properties with entities in them. -/
def definition : EntitySchema → SchemaFields
  | mk _ _ definition => definition

end EntitySchema

/-- The object has the property. -/
inductive SchemaFields.Has : SchemaFields → String → Schema → Prop
  | here {key : String} {value : Schema} {rest : SchemaFields} :
      Has (.cons key value rest) key value
  | there {key key' : String} {value value' : Schema} {rest : SchemaFields}
      (h : Has rest key value) : Has (.cons key' value' rest) key value

theorem SchemaFields.not_has_nil {key : String} {value : Schema} :
    ¬SchemaFields.Has .nil key value := by
  intro h
  cases h

theorem SchemaFields.has_cons_iff {key key' : String} {value value' : Schema}
    {rest : SchemaFields} : SchemaFields.Has (.cons key' value' rest) key value ↔
      (key = key' ∧ value = value') ∨ rest.Has key value := by
  constructor
  · rintro (- | h)
    · exact Or.inl ⟨rfl, rfl⟩
    · exact Or.inr h
  · rintro (⟨rfl, rfl⟩ | h)
    · exact .here
    · exact .there h

end Stratos
