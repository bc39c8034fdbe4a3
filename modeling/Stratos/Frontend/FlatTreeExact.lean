import Mathlib.Logic.Relation
import Stratos.Frontend.FlatTree

/-!
# What is in the tree of an entity that is deleted

The entities that should be in the tree are those that can be reached from the root through
children none of which is of an excluded type (`KeptChild`).

`getFlatTree_exact` says that the tree has exactly these, each under the key of its schema, when
every single child of a definition is in a property with the name of that key and is not
excluded, when the type of the root is not excluded itself, and when no array holds inner arrays
or plain objects with children in them. A single child is filed under its property as well
(`not_getFlatTree_exact`).
-/

open Lib

namespace Stratos

/-! ## Children -/

/-- The value holds the entity at the place of its schema. -/
inductive ChildAt : Schema → Entity → EntitySchema → Entity → Prop
  | entity {e : EntitySchema} {fields : List (String × Entity)} :
      ChildAt (.entity e) (.object fields) e (.object fields)
  | object {fields : SchemaFields} {key : String} {s : Schema} {v c : Entity} {e : EntitySchema}
      (h : fields.Has key s) (hc : ChildAt s (v.get key) e c) : ChildAt (.object fields) v e c
  | array {i : String} {s : Schema} {rest : SchemaFields} {items : List Entity} {v c : Entity}
      {e : EntitySchema} (h : v ∈ items) (hc : ChildAt s v e c) :
      ChildAt (.array (.cons i s rest)) (.array items) e c

/-- An entity with its schema. -/
abbrev EntityNode := EntitySchema × Entity

/-- The one entity is at a place of the definition of the other. -/
def IsChild (x y : EntityNode) : Prop :=
  ∃ key s, x.1.definition.Has key s ∧ ChildAt s (x.2.get key) y.1 y.2

/-- A child whose type is not excluded. -/
def KeptChild (excluded : List String) (x y : EntityNode) : Prop :=
  IsChild x y ∧ y.1.key ∉ excluded

theorem reflTransGen_isChild {excluded : List String} {x y : EntityNode}
    (h : Relation.ReflTransGen (KeptChild excluded) x y) : Relation.ReflTransGen IsChild x y :=
  h.lift id fun _ _ h => h.1

/-! ## The graph -/

/-- The value has the shape of the schema, with an id for each entity. -/
inductive Shaped (getId : EntitySchema → Entity → String) : Schema → Entity → Prop
  | absent {s : Schema} {v : Entity} (h : v.truthy = false) : Shaped getId s v
  | entity {e : EntitySchema} {fields : List (String × Entity)}
      (h : getId e (.object fields) ≠ "") : Shaped getId (.entity e) (.object fields)
  | object {fields : SchemaFields} {values : List (String × Entity)}
      (h : ∀ key s, fields.Has key s → Shaped getId s ((Entity.object values).get key)) :
      Shaped getId (.object fields) (.object values)
  | array {i : String} {s : Schema} {rest : SchemaFields} {items : List Entity}
      (h : ∀ v ∈ items, Shaped getId s v) : Shaped getId (.array (.cons i s rest)) (.array items)

/-- The graph of a denormalised entity. -/
structure IsDenormalised (getId : EntitySchema → Entity → String) (root : EntityNode) : Prop where
  isObject : root.2.truthy = false ∨ ∃ fields, root.2 = .object fields
  shaped : ∀ x, Relation.ReflTransGen IsChild root x → ∀ key s, x.1.definition.Has key s →
    Shaped getId s (x.2.get key)

/-- Arrays hold the entities themselves, not objects with kept entities in them, and no inner
arrays, not even empty ones. -/
inductive ArraysFlat (excluded : List String) : Schema → Entity → Prop
  | entity {e : EntitySchema} {v : Entity} : ArraysFlat excluded (.entity e) v
  | object {fields : SchemaFields} {v : Entity}
      (h : ∀ key s, fields.Has key s → ArraysFlat excluded s (v.get key)) :
      ArraysFlat excluded (.object fields) v
  | nil {v : Entity} : ArraysFlat excluded (.array .nil) v
  | entities {i : String} {e : EntitySchema} {rest : SchemaFields} {v : Entity} :
      ArraysFlat excluded (.array (.cons i (.entity e) rest)) v
  | objects {i : String} {fields rest : SchemaFields} {v : Entity}
      (h : ∀ e c, ChildAt (.array (.cons i (.object fields) rest)) v e c → e.key ∈ excluded) :
      ArraysFlat excluded (.array (.cons i (.object fields) rest)) v
  | arrays {i : String} {items rest : SchemaFields} {v : Entity}
      (h : ∀ vs, v = .array vs → ∀ c ∈ vs, c.truthy = false) :
      ArraysFlat excluded (.array (.cons i (.array items) rest)) v

/-- What the graph below a root needs, so that each entity is filed under its key. -/
structure IsFiledByKey (excluded : List String) (root : EntityNode) : Prop where
  /-- If the type of the root is excluded, the root has no children. -/
  leaf : root.1.key ∈ excluded → ∀ x, ¬KeptChild excluded root x
  /-- A single child is in a property with the name of its key, and is not excluded. -/
  single : ∀ x, Relation.ReflTransGen (KeptChild excluded) root x →
    ∀ key e, x.1.definition.Has key (.entity e) → (x.2.get key).truthy = true →
      e.key = key ∧ key ∉ excluded
  arrays : ∀ x, Relation.ReflTransGen (KeptChild excluded) root x →
    ∀ key s, x.1.definition.Has key s → ArraysFlat excluded s (x.2.get key)

/-! ## The entities below a place -/

section Below

variable (getId : EntitySchema → Entity → String) (excluded : List String)

/-- The entity is under the key with the id. -/
def IsFiled (x : EntityNode) (key id : String) : Prop := x.1.key = key ∧ getId x.1 x.2 = id

/-- A kept entity at the place, or below one, has the key and the id. -/
def Files (s : Schema) (v : Entity) (key id : String) : Prop :=
  ∃ x y, ChildAt s v x.1 x.2 ∧ x.1.key ∉ excluded ∧
    Relation.ReflTransGen (KeptChild excluded) x y ∧ IsFiled getId y key id

/-- So does one at or below a property. -/
def FieldsFile (fields : SchemaFields) (v : Entity) (key id : String) : Prop :=
  ∃ k s, fields.Has k s ∧ Files getId excluded s (v.get k) key id

variable {getId excluded}

theorem not_childAt_of_not_truthy {s : Schema} {v c : Entity} {e : EntitySchema}
    (h : v.truthy = false) : ¬ChildAt s v e c := by
  intro hc
  induction hc with
  | entity => cases h
  | @object fields key s v c e _ _ ih =>
    refine ih ?_
    cases v with
    | object fields => cases h
    | absent | text _ | array _ => rfl
  | array => cases h

theorem not_files_of_not_truthy {s : Schema} {v : Entity} {key id : String}
    (h : v.truthy = false) : ¬Files getId excluded s v key id := by
  rintro ⟨x, y, hc, -⟩
  exact not_childAt_of_not_truthy h hc

theorem not_files_excluded {e : EntitySchema} {v : Entity} {key id : String}
    (h : e.key ∈ excluded) : ¬Files getId excluded (.entity e) v key id := by
  rintro ⟨⟨e', c⟩, y, hc, hx, -⟩
  cases hc
  exact hx h

/-- An entity at the place, and what is below it. -/
theorem files_entity {e : EntitySchema} {fields : List (String × Entity)} {key id : String}
    (h : e.key ∉ excluded) : Files getId excluded (.entity e) (.object fields) key id ↔
      IsFiled getId (e, .object fields) key id ∨
        FieldsFile getId excluded e.definition (.object fields) key id := by
  constructor
  · rintro ⟨⟨e', c⟩, y, hc, hx, hreach, hfiled⟩
    cases hc
    rcases hreach.cases_head with rfl | ⟨z, ⟨⟨k, s, hs, hz⟩, hzx⟩, hreach⟩
    · exact Or.inl hfiled
    · exact Or.inr ⟨k, s, hs, z, y, hz, hzx, hreach, hfiled⟩
  · rintro (hfiled | ⟨k, s, hs, z, y, hz, hzx, hreach, hfiled⟩)
    · exact ⟨(e, .object fields), _, .entity, h, .refl, hfiled⟩
    · exact ⟨(e, .object fields), y, .entity, h, .head ⟨⟨k, s, hs, hz⟩, hzx⟩ hreach, hfiled⟩

theorem files_object {fields : SchemaFields} {v : Entity} {key id : String} :
    Files getId excluded (.object fields) v key id ↔ FieldsFile getId excluded fields v key id := by
  constructor
  · rintro ⟨⟨e, c⟩, y, hc, hx⟩
    cases hc with
    | object hs hc => exact ⟨_, _, hs, (e, c), y, hc, hx⟩
  · rintro ⟨k, s, hs, x, y, hc, hx⟩
    exact ⟨x, y, .object hs hc, hx⟩

theorem files_array {i : String} {s : Schema} {rest : SchemaFields} {items : List Entity}
    {key id : String} : Files getId excluded (.array (.cons i s rest)) (.array items) key id ↔
      ∃ v ∈ items, Files getId excluded s v key id := by
  constructor
  · rintro ⟨⟨e, c⟩, y, hc, hx⟩
    cases hc with
    | array hv hc => exact ⟨_, hv, (e, c), y, hc, hx⟩
  · rintro ⟨v, hv, x, y, hc, hx⟩
    exact ⟨x, y, .array hv hc, hx⟩

theorem not_fieldsFile_nil {v : Entity} {key id : String} :
    ¬FieldsFile getId excluded .nil v key id := by
  rintro ⟨k, s, hs, -⟩
  exact SchemaFields.not_has_nil hs

theorem fieldsFile_cons {k : String} {s : Schema} {rest : SchemaFields} {v : Entity}
    {key id : String} : FieldsFile getId excluded (.cons k s rest) v key id ↔
      Files getId excluded s (v.get k) key id ∨ FieldsFile getId excluded rest v key id := by
  simp only [FieldsFile, SchemaFields.has_cons_iff, or_and_right, exists_or]
  refine or_congr_left ?_
  constructor
  · rintro ⟨_, _, ⟨rfl, rfl⟩, h⟩
    exact h
  · exact fun h => ⟨_, _, ⟨rfl, rfl⟩, h⟩

end Below

/-! ## The walk over a graph -/

section Walk

variable (getId : EntitySchema → Entity → String) (excluded : List String)

/-- Single children are in properties with the names of their keys, and are not excluded. -/
def SinglesNamed (fields : SchemaFields) (v : Entity) : Prop :=
  ∀ key e, fields.Has key (.entity e) → (v.get key).truthy = true → e.key = key ∧ key ∉ excluded

/-- So it is at the kept entities of the place and below them. -/
structure PlaceIsFiled (s : Schema) (v : Entity) : Prop where
  shaped : Shaped getId s v
  arrays : ArraysFlat excluded s v
  below : ∀ x, ChildAt s v x.1 x.2 → x.1.key ∉ excluded →
    ∀ y, Relation.ReflTransGen (KeptChild excluded) x y → ∀ key s', y.1.definition.Has key s' →
      Shaped getId s' (y.2.get key) ∧ ArraysFlat excluded s' (y.2.get key) ∧
        SinglesNamed excluded y.1.definition y.2

/-- The entities at the places of the definition are filed. -/
def FieldsAreFiled (fields : SchemaFields) (v : Entity) : Prop :=
  ∀ key s, fields.Has key s → PlaceIsFiled getId excluded s (v.get key)

variable {getId excluded}

/-- The entities below an object are filed, those of each property. -/
theorem PlaceIsFiled.fields {fields : SchemaFields} {values : List (String × Entity)}
    (h : PlaceIsFiled getId excluded (.object fields) (.object values)) :
    FieldsAreFiled getId excluded fields (.object values) := by
  intro key s hs
  refine ⟨?_, ?_, fun x hx => h.below x (.object hs hx)⟩
  · cases h.shaped with
    | absent hv => cases hv
    | object hshaped => exact hshaped key s hs
  · cases h.arrays with
    | object harrays => exact harrays key s hs

theorem PlaceIsFiled.items {i : String} {e : EntitySchema} {rest : SchemaFields}
    {items : List Entity}
    (h : PlaceIsFiled getId excluded (.array (.cons i (.entity e) rest)) (.array items)) :
    ∀ v ∈ items, PlaceIsFiled getId excluded (.entity e) v := by
  intro v hv
  refine ⟨?_, .entity, fun x hx => h.below x (.array hv hx)⟩
  cases h.shaped with
  | absent hv => cases hv
  | array hshaped => exact hshaped v hv

theorem PlaceIsFiled.definition {e : EntitySchema} {values : List (String × Entity)}
    (h : PlaceIsFiled getId excluded (.entity e) (.object values)) (he : e.key ∉ excluded) :
    FieldsAreFiled getId excluded e.definition (.object values) ∧
      SinglesNamed excluded e.definition (.object values) := by
  have hnode := h.below (e, .object values) .entity he _ .refl
  refine ⟨fun key s hs => ?_, fun key e' hs => (hnode key _ hs).2.2 key e' hs⟩
  obtain ⟨hshaped, harrays, -⟩ := hnode key s hs
  exact ⟨hshaped, harrays, fun x hx hxx y hy =>
    h.below (e, .object values) .entity he y (.head ⟨⟨key, s, hs, hx⟩, hxx⟩ hy)⟩

theorem Shaped.eq_array {i : String} {s : Schema} {rest : SchemaFields} {v : Entity}
    (h : Shaped getId (.array (.cons i s rest)) v) (hv : v.truthy = true) :
    ∃ items, v = .array items := by
  cases h with
  | absent hfalse => rw [hv] at hfalse; cases hfalse
  | array => exact ⟨_, rfl⟩

theorem PlaceIsFiled.eq_object {e : EntitySchema} {v : Entity}
    (h : PlaceIsFiled getId excluded (.entity e) v) (hv : v.truthy = true) :
    ∃ values, v = .object values ∧ getId e v ≠ "" := by
  cases h.shaped with
  | absent hfalse => rw [hv] at hfalse; cases hfalse
  | entity hid => exact ⟨_, rfl, hid⟩

/-- Over an array, the entities at each of its elements are added. -/
theorem has_foldl {e : EntitySchema} {items : List Entity} {key id : String}
    (apply : Entity → IFlatTree → IFlatTree)
    (h : ∀ v ∈ items, ∀ flatTree, (apply v flatTree).Has key id ↔
      flatTree.Has key id ∨ Files getId excluded (.entity e) v key id) (flatTree : IFlatTree) :
    (items.foldl (fun newFlatTree newEntity => apply newEntity newFlatTree) flatTree).Has key id ↔
      flatTree.Has key id ∨ ∃ v ∈ items, Files getId excluded (.entity e) v key id := by
  induction items generalizing flatTree with
  | nil => simp
  | cons v items ih =>
    rw [List.foldl_cons, ih fun v hv => h v (List.mem_cons_of_mem _ hv), h v List.mem_cons_self]
    simp [or_assoc]

theorem not_files_array_of_flat {i : String} {s : Schema} {rest : SchemaFields}
    {items : List Entity} {key id : String}
    (h : ArraysFlat excluded (.array (.cons i s rest)) (.array items))
    (hs : ∀ e, s ≠ .entity e) :
    ¬Files getId excluded (.array (.cons i s rest)) (.array items) key id := by
  rintro ⟨x, y, hc, hx, -⟩
  cases h with
  | entities => exact hs _ rfl
  | objects hobjects => exact hx (hobjects _ _ hc)
  | arrays harrays =>
    cases hc with
    | array hv hc => exact not_childAt_of_not_truthy (harrays _ rfl _ hv) hc

theorem build_of_not_truthy {s : Schema} {v : Entity} (h : v.truthy = false)
    (flatTree : IFlatTree) : build getId excluded s v flatTree false = flatTree := by
  match s with
  | .array .nil => rw [build]
  | .array (.cons _ s _) => rw [build, buildSchema.eq_def, if_pos (Or.inl h)]
  | .entity e => rw [build, buildSchema.eq_def, if_pos (Or.inl h)]
  | .object fields => rw [build, buildSchema.eq_def, if_pos (Or.inl h)]

theorem applyField_items (s : Schema) (items : List Entity) (flatTree : IFlatTree) (key : String) :
    applyField getId excluded s (.array items) flatTree key =
      build getId excluded s (.array items) flatTree false := by
  rw [applyField.eq_def]

theorem applyField_single {s : Schema} {v : Entity} (h : ∀ items, v ≠ .array items)
    (flatTree : IFlatTree) (key : String) : applyField getId excluded s v flatTree key =
      handleSingleChildEntity getId excluded s v flatTree key := by
  rw [applyField.eq_def]
  cases v with
  | array items => exact absurd rfl (h items)
  | absent | text _ | object _ => rfl

theorem applyField_of_not_truthy {s : Schema} {v : Entity} (h : v.truthy = false)
    (flatTree : IFlatTree) (key : String) :
    applyField getId excluded s v flatTree key = flatTree := by
  rw [applyField_single (by rintro items rfl; cases h), handleSingleChildEntity.eq_def, if_pos h]

theorem foldl_applySchemaToTree_of_not_truthy {e : EntitySchema} {items : List Entity}
    (h : ∀ v ∈ items, v.truthy = false) (flatTree : IFlatTree) :
    items.foldl (fun newFlatTree newEntity =>
      applySchemaToTree getId excluded e newEntity newFlatTree false) flatTree = flatTree := by
  induction items with
  | nil => rfl
  | cons v items ih =>
    rw [List.foldl_cons, applySchemaToTree, if_pos (h v List.mem_cons_self)]
    exact ih fun v hv => h v (List.mem_cons_of_mem _ hv)

/-- A property with a plain object. -/
theorem applyField_object {fields : SchemaFields} {v : Entity}
    (h : Shaped getId (.object fields) v) (flatTree : IFlatTree) (key : String) :
    applyField getId excluded (.object fields) v flatTree key =
      build getId excluded (.object fields) v flatTree false := by
  cases h with
  | absent h => rw [applyField_of_not_truthy h, build_of_not_truthy h]
  | object =>
    rw [applyField_single (by simp), handleSingleChildEntity.eq_def]
    exact if_neg (by simp [Entity.truthy])

/-- A property with an array. -/
theorem applyField_array {i : String} {s : Schema} {rest : SchemaFields} {items : List Entity}
    (h : ArraysFlat excluded (.array (.cons i s rest)) (.array items)) (flatTree : IFlatTree)
    (key : String) : applyField getId excluded s (.array items) flatTree key =
      build getId excluded (.array (.cons i s rest)) (.array items) flatTree false := by
  rw [applyField_items]
  cases h with
  | entities => rw [build, build]
  | objects => rw [build, build]
  | arrays hitems =>
    rename_i inner
    have houter : buildSchema getId excluded (.array inner) (.array items) flatTree false =
        flatTree := by
      rw [buildSchema.eq_def, if_neg (by simp [isExcluded, Entity.truthy])]
    rw [build, houter]
    cases inner with
    | nil => rw [build]
    | cons _ s _ =>
      rw [build, buildSchema.eq_def]
      split_ifs
      · rfl
      · cases s with
        | object | array => rfl
        | entity e => exact foldl_applySchemaToTree_of_not_truthy (hitems items rfl) flatTree

mutual

/-- `build` adds the entities at the place and below it. -/
theorem has_build : ∀ (s : Schema) (v : Entity) (flatTree : IFlatTree),
    PlaceIsFiled getId excluded s v → ∀ key id,
      (build getId excluded s v flatTree false).Has key id ↔
        flatTree.Has key id ∨ Files getId excluded s v key id
  | .entity e, v, flatTree, h, key, id => by
    by_cases hv : v.truthy = true
    · obtain ⟨values, rfl, -⟩ := h.eq_object hv
      rw [build, buildSchema.eq_def]
      by_cases he : e.key ∈ excluded
      · rw [if_pos (Or.inr (by simpa [isExcluded] using he)), or_iff_left (not_files_excluded he)]
      · rw [if_neg (by simp [isExcluded, he, Entity.truthy])]
        exact has_applySchemaToTree e _ flatTree h he key id
    · rw [Bool.not_eq_true] at hv
      rw [build_of_not_truthy hv, or_iff_left (not_files_of_not_truthy hv)]
  | .object fields, v, flatTree, h, key, id => by
    cases h.shaped with
    | absent hv => rw [build_of_not_truthy hv, or_iff_left (not_files_of_not_truthy hv)]
    | object =>
      rw [build, buildSchema.eq_def, if_neg (by simp [isExcluded, Entity.truthy]), files_object]
      exact has_buildObject fields _ flatTree h.fields key id
  | .array .nil, v, flatTree, h, key, id => by
    cases h.shaped with
    | absent hv => rw [build_of_not_truthy hv, or_iff_left (not_files_of_not_truthy hv)]
  | .array (.cons i (.object fields) rest), v, flatTree, h, key, id => by
    cases h.shaped with
    | absent hv => rw [build_of_not_truthy hv, or_iff_left (not_files_of_not_truthy hv)]
    | array =>
      rw [build, buildSchema.eq_def, if_neg (by simp [isExcluded, Entity.truthy]),
        or_iff_left (not_files_array_of_flat h.arrays (by simp))]
  | .array (.cons i (.array s) rest), v, flatTree, h, key, id => by
    cases h.shaped with
    | absent hv => rw [build_of_not_truthy hv, or_iff_left (not_files_of_not_truthy hv)]
    | array =>
      rw [build, buildSchema.eq_def, if_neg (by simp [isExcluded, Entity.truthy]),
        or_iff_left (not_files_array_of_flat h.arrays (by simp))]
  | .array (.cons i (.entity e) rest), v, flatTree, h, key, id => by
    cases h.shaped with
    | absent hv => rw [build_of_not_truthy hv, or_iff_left (not_files_of_not_truthy hv)]
    | array =>
      rw [build, buildSchema.eq_def, files_array]
      by_cases he : e.key ∈ excluded
      · rw [if_pos (Or.inr (by simpa [isExcluded] using he)), or_iff_left]
        rintro ⟨v, -, hfiles⟩
        exact not_files_excluded he hfiles
      · rw [if_neg (by simp [isExcluded, he, Entity.truthy])]
        exact has_foldl _ (fun v hv flatTree =>
          has_applySchemaToTree e v flatTree (h.items v hv) he key id) flatTree
termination_by s => (sizeOf s, 1)

theorem has_buildObject : ∀ (fields : SchemaFields) (v : Entity) (flatTree : IFlatTree),
    FieldsAreFiled getId excluded fields v → ∀ key id,
      (buildObject getId excluded fields v flatTree).Has key id ↔
        flatTree.Has key id ∨ FieldsFile getId excluded fields v key id
  | .nil, v, flatTree, _, key, id => by rw [buildObject, or_iff_left not_fieldsFile_nil]
  | .cons k s rest, v, flatTree, h, key, id => by
    rw [buildObject, has_buildObject rest v _ (fun k s hs => h k s (.there hs)),
      has_build s _ _ (h k s .here), fieldsFile_cons, or_assoc]
termination_by fields => (sizeOf fields, 0)

/-- `applySchemaToTree` adds the entity and what is below it. -/
theorem has_applySchemaToTree (e : EntitySchema) (v : Entity) (flatTree : IFlatTree)
    (h : PlaceIsFiled getId excluded (.entity e) v) (he : e.key ∉ excluded) (key id : String) :
    (applySchemaToTree getId excluded e v flatTree false).Has key id ↔
      flatTree.Has key id ∨ Files getId excluded (.entity e) v key id := by
  rw [applySchemaToTree]
  split_ifs with hv hroot
  · rw [or_iff_left (not_files_of_not_truthy hv)]
  · cases hroot
  · obtain ⟨values, rfl, -⟩ := h.eq_object (by simpa using hv)
    obtain ⟨hfields, hsingle⟩ := h.definition he
    rw [has_applyFields e.definition _ _ hfields hsingle, has_addIdToTree, files_entity he,
      IsFiled]
    simp only [eq_comm (a := key), eq_comm (a := id), or_assoc, or_left_comm]
termination_by (sizeOf e, 0)
decreasing_by exact Prod.Lex.left _ _ (sizeOf_definition_lt e)

/-- `applyFields` adds the entities at the properties and below them. -/
theorem has_applyFields : ∀ (fields : SchemaFields) (v : Entity) (flatTree : IFlatTree),
    FieldsAreFiled getId excluded fields v → SinglesNamed excluded fields v → ∀ key id,
      (applyFields getId excluded fields v flatTree).Has key id ↔
        flatTree.Has key id ∨ FieldsFile getId excluded fields v key id
  | .nil, v, flatTree, _, _, key, id => by rw [applyFields, or_iff_left not_fieldsFile_nil]
  | .cons k (.array .nil) rest, v, flatTree, h, hsingle, key, id => by
    have hv : (v.get k).truthy = false := by
      cases (h k _ .here).shaped with
      | absent hv => exact hv
    rw [applyFields, has_applyFields rest v _ (fun k s hs => h k s (.there hs))
      (fun k e hs => hsingle k e (.there hs)), fieldsFile_cons,
      or_iff_right (not_files_of_not_truthy hv)]
  | .cons k (.array (.cons i s rest')) rest, v, flatTree, h, hsingle, key, id => by
    have hplace := h k _ .here
    have happly : applyField getId excluded s (v.get k) flatTree k =
        build getId excluded (.array (.cons i s rest')) (v.get k) flatTree false := by
      cases hv : (v.get k).truthy with
      | false => rw [applyField_of_not_truthy hv, build_of_not_truthy hv]
      | true =>
        obtain ⟨items, hitems⟩ := hplace.shaped.eq_array hv
        rw [hitems] at hplace ⊢
        exact applyField_array hplace.arrays flatTree k
    rw [applyFields, has_applyFields rest v _ (fun k s hs => h k s (.there hs))
      (fun k e hs => hsingle k e (.there hs)), fieldsFile_cons, happly,
      has_build (.array (.cons i s rest')) _ flatTree hplace, or_assoc]
  | .cons k (.object fields) rest, v, flatTree, h, hsingle, key, id => by
    rw [applyFields, has_applyFields rest v _ (fun k s hs => h k s (.there hs))
      (fun k e hs => hsingle k e (.there hs)), fieldsFile_cons,
      applyField_object (h k _ .here).shaped, has_build (.object fields) _ flatTree (h k _ .here),
      or_assoc]
  | .cons k (.entity e) rest, v, flatTree, h, hsingle, key, id => by
    have hplace := h k _ .here
    have hlt := sizeOf_definition_lt e
    rw [applyFields, has_applyFields rest v _ (fun k s hs => h k s (.there hs))
      (fun k e hs => hsingle k e (.there hs)), fieldsFile_cons, ← or_assoc]
    refine or_congr_left ?_
    cases hv : (v.get k).truthy with
    | false => rw [applyField_of_not_truthy hv, or_iff_left (not_files_of_not_truthy hv)]
    | true =>
      obtain ⟨hkey, he⟩ := hsingle k e .here hv
      subst hkey
      obtain ⟨values, hvalues, hid⟩ := hplace.eq_object hv
      rw [hvalues] at hplace hid ⊢
      obtain ⟨hfields, -⟩ := hplace.definition he
      rw [applyField_single (by simp), handleSingleChildEntity.eq_def]
      dsimp only
      rw [if_neg (by simp [Entity.truthy])]
      by_cases hvisited : flatTree.Has e.key (getId e (.object values))
      · rw [if_pos (Or.inr hvisited), build, buildSchema.eq_def,
          if_neg (by simp [isExcluded, Entity.truthy]), files_entity he]
        dsimp only
        rw [has_buildObject e.definition _ flatTree hfields, ← or_assoc]
        refine or_congr_left (or_iff_left_of_imp ?_).symm
        rintro ⟨rfl, rfl⟩
        exact hvisited
      · rw [if_neg (by simp [hid, hvisited]), build, buildSchema.eq_def,
          if_neg (by simp [isExcluded, he, Entity.truthy])]
        dsimp only
        rw [has_applySchemaToTree e _ _ hplace he, has_addIdToTree, files_entity he, IsFiled]
        simp only [eq_comm (a := key), eq_comm (a := id)]
        tauto
termination_by fields => (sizeOf fields, 0)

end

theorem truthy_get_of_not_truthy {v : Entity} (h : v.truthy = false) (key : String) :
    (v.get key).truthy = false := by
  cases v with
  | object fields => cases h
  | absent | text _ | array _ => rfl

/-- The entities below the properties of the root. -/
theorem fieldsFile_iff (root : EntityNode) {key id : String} :
    FieldsFile getId excluded root.1.definition root.2 key id ↔
      ∃ x, Relation.TransGen (KeptChild excluded) root x ∧ IsFiled getId x key id := by
  constructor
  · rintro ⟨k, s, hs, x, y, hx, hxx, hreach, hfiled⟩
    exact ⟨y, Relation.TransGen.head' ⟨⟨k, s, hs, hx⟩, hxx⟩ hreach, hfiled⟩
  · rintro ⟨y, hreach, hfiled⟩
    obtain ⟨x, ⟨⟨k, s, hs, hx⟩, hxx⟩, hreach⟩ := Relation.TransGen.head'_iff.1 hreach
    exact ⟨k, s, hs, x, y, hx, hxx, hreach, hfiled⟩

end Walk

section Exact

variable {State : Type*} (denormalize : String → EntitySchema → State → Entity)
  (getId : EntitySchema → Entity → String) (excludes : IExcludes) (schema : EntitySchema)
  (guid : String) (state : State)

/-- The tree has the entities below the properties of the root. -/
theorem has_getFlatTree
    (hgraph : IsDenormalised getId (schema, denormalize guid schema state))
    (hfiled : IsFiledByKey ((excludes.get? schema.key).getD [])
      (schema, denormalize guid schema state)) (key id : String) :
    (getFlatTree denormalize getId excludes schema guid state).Has key id ↔
      FieldsFile getId ((excludes.get? schema.key).getD []) schema.definition
        (denormalize guid schema state) key id := by
  rw [getFlatTree]
  generalize (excludes.get? schema.key).getD [] = excluded at hfiled
  generalize denormalize guid schema state = entity at hgraph hfiled
  have hempty := IFlatTree.not_has_empty key id
  rw [build, buildSchema.eq_def]
  split_ifs with hleaf
  · refine iff_of_false hempty ?_
    rintro ⟨k, s, hs, x, y, hc, hxx, -⟩
    rcases hleaf with hv | he
    · exact not_childAt_of_not_truthy (truthy_get_of_not_truthy hv k) hc
    · exact hfiled.leaf (by simpa [isExcluded] using he) x ⟨⟨k, s, hs, hc⟩, hxx⟩
  · rw [not_or, Bool.not_eq_false] at hleaf
    obtain hv | ⟨values, hvalues⟩ := hgraph.isObject
    · rw [hleaf.1] at hv
      cases hv
    obtain rfl : entity = .object values := hvalues
    have hfields : FieldsAreFiled getId excluded schema.definition (.object values) := by
      intro k s hs
      refine ⟨hgraph.shaped _ .refl k s hs, hfiled.arrays _ .refl k s hs,
        fun x hx hxx y hy k' s' hs' => ?_⟩
      have hreach : Relation.ReflTransGen (KeptChild excluded) (schema, .object values) y :=
        .head ⟨⟨k, s, hs, hx⟩, hxx⟩ hy
      exact ⟨hgraph.shaped y (reflTransGen_isChild hreach) k' s' hs',
        hfiled.arrays y hreach k' s' hs', hfiled.single y hreach⟩
    dsimp only
    rw [applySchemaToTree, if_neg (by simp [Entity.truthy]), if_pos rfl,
      has_applyFields _ _ _ hfields (hfiled.single _ .refl), or_iff_right hempty]

/-- The tree has exactly the entities below the root, down to the excluded types, each under its
key. -/
theorem getFlatTree_exact
    (hgraph : IsDenormalised getId (schema, denormalize guid schema state))
    (hfiled : IsFiledByKey ((excludes.get? schema.key).getD [])
      (schema, denormalize guid schema state)) (key id : String) :
    (getFlatTree denormalize getId excludes schema guid state).Has key id ↔
      ∃ x, Relation.TransGen (KeptChild ((excludes.get? schema.key).getD []))
        (schema, denormalize guid schema state) x ∧ IsFiled getId x key id :=
  (has_getFlatTree denormalize getId excludes schema guid state hgraph hfiled key id).trans
    (fieldsFile_iff (schema, denormalize guid schema state))

end Exact

/-! ## A single child -/

/-- The id that an entity has as a property. -/
def guidOf (_ : EntitySchema) (entity : Entity) : String :=
  match entity.get "guid" with
  | .text guid => guid
  | _ => ""

/-- A type of entity with one child, in the property with the name `key`. -/
def parentSchema (key : String) : EntitySchema :=
  .mk "parent" none (.cons key (.entity (.mk "child" none .nil)) .nil)

/-- A child without children. -/
def childEntity : Entity := .object [("guid", .text "2")]

/-- An entity with the child in the property. -/
def parentEntity (key : String) : Entity :=
  .object [("guid", .text "1"), (key, childEntity)]

theorem isChild_parent {key : String} (hkey : key ≠ "guid") {y : EntityNode} :
    IsChild (parentSchema key, parentEntity key) y ↔ y = (.mk "child" none .nil, childEntity) := by
  have hget : (parentEntity key).get key = childEntity := by
    simp [parentEntity, Entity.get, hkey.symm]
  constructor
  · rintro ⟨k, s, hs, hc⟩
    obtain ⟨rfl, rfl⟩ | hs := SchemaFields.has_cons_iff.1 hs
    · rw [hget] at hc
      obtain ⟨e, c⟩ := y
      cases hc
      rfl
    · exact absurd hs SchemaFields.not_has_nil
  · rintro rfl
    exact ⟨key, _, .here, by rw [hget]; exact .entity⟩

theorem reflTransGen_parent {key : String} (hkey : key ≠ "guid") {x : EntityNode}
    (h : Relation.ReflTransGen IsChild (parentSchema key, parentEntity key) x) :
    x = (parentSchema key, parentEntity key) ∨ x = (.mk "child" none .nil, childEntity) := by
  induction h with
  | refl => exact Or.inl rfl
  | tail _ hy ih =>
    rcases ih with rfl | rfl
    · exact Or.inr ((isChild_parent hkey).1 hy)
    · obtain ⟨k, s, hs, -⟩ := hy
      exact absurd hs SchemaFields.not_has_nil

theorem isDenormalised_parent {key : String} (hkey : key ≠ "guid") :
    IsDenormalised guidOf (parentSchema key, parentEntity key) := by
  refine ⟨Or.inr ⟨_, rfl⟩, fun x hx k s hs => ?_⟩
  rcases reflTransGen_parent hkey hx with rfl | rfl
  · obtain ⟨rfl, rfl⟩ | hs := SchemaFields.has_cons_iff.1 hs
    · have hget : (parentEntity k).get k = childEntity := by
        simp [parentEntity, Entity.get, hkey.symm]
      rw [hget]
      exact .entity (by decide)
    · exact absurd hs SchemaFields.not_has_nil
  · exact absurd hs SchemaFields.not_has_nil

/-- The child is filed under the name of its property too. -/
theorem not_getFlatTree_exact :
    ¬∀ (denormalize : String → EntitySchema → Unit → Entity)
        (getId : EntitySchema → Entity → String) (excludes : IExcludes) (schema : EntitySchema)
        (guid : String), IsDenormalised getId (schema, denormalize guid schema ()) →
      ∀ key id, (getFlatTree denormalize getId excludes schema guid ()).Has key id ↔
        ∃ x, Relation.TransGen (KeptChild ((excludes.get? schema.key).getD []))
          (schema, denormalize guid schema ()) x ∧ IsFiled getId x key id := by
  intro h
  have hkey : "heir" ≠ "guid" := by decide
  obtain ⟨x, hreach, hkey', -⟩ := (h (fun _ _ _ => parentEntity "heir") guidOf JsObject.empty
    (parentSchema "heir") "1" (isDenormalised_parent hkey) "heir" "2").1 (by
      simp [getFlatTree, build, buildSchema.eq_def, applySchemaToTree, applyFields,
        applyField.eq_def, handleSingleChildEntity.eq_def, parentSchema, parentEntity,
        EntitySchema.definition, EntitySchema.key, Entity.truthy, Entity.get, childEntity, guidOf,
        isExcluded, has_addIdToTree, IFlatTree.not_has_empty])
  have hreach' : Relation.ReflTransGen IsChild (parentSchema "heir", parentEntity "heir") x :=
    reflTransGen_isChild hreach.to_reflTransGen
  rcases reflTransGen_parent hkey hreach' with rfl | rfl
  · revert hkey'
    decide
  · revert hkey'
    decide

/-- A child in a property with the name of its key. -/
theorem isFiledByKey_parent :
    IsFiledByKey ((defaultExcludes.get? (parentSchema "child").key).getD [])
    (parentSchema "child", parentEntity "child") := by
  have hkey : "child" ≠ "guid" := by decide
  have hnodes : ∀ x, Relation.ReflTransGen
      (KeptChild ((defaultExcludes.get? (parentSchema "child").key).getD []))
      (parentSchema "child", parentEntity "child") x →
        x = (parentSchema "child", parentEntity "child") ∨
          x = (.mk "child" none .nil, childEntity) := fun x hx =>
    reflTransGen_parent hkey (reflTransGen_isChild hx)
  refine ⟨fun h => absurd h (by decide), fun x hx k e hs _ => ?_, fun x hx k s hs => ?_⟩
  · rcases hnodes x hx with rfl | rfl
    · obtain ⟨rfl, he⟩ | hs := SchemaFields.has_cons_iff.1 hs
      · cases he
        exact ⟨rfl, by decide⟩
      · exact absurd hs SchemaFields.not_has_nil
    · exact absurd hs SchemaFields.not_has_nil
  · rcases hnodes x hx with rfl | rfl
    · obtain ⟨rfl, rfl⟩ | hs := SchemaFields.has_cons_iff.1 hs
      · exact .entity
      · exact absurd hs SchemaFields.not_has_nil
    · exact absurd hs SchemaFields.not_has_nil

/-- A child in the property with the name of its type. -/
theorem getFlatTree_exact_child :
    (getFlatTree (fun _ _ (_ : Unit) => parentEntity "child") guidOf defaultExcludes
        (parentSchema "child") "1" ()).Has "child" "2" ↔
      ∃ x, Relation.TransGen
        (KeptChild ((defaultExcludes.get? (parentSchema "child").key).getD []))
        (parentSchema "child", parentEntity "child") x ∧ IsFiled guidOf x "child" "2" :=
  getFlatTree_exact _ guidOf defaultExcludes (parentSchema "child") "1" ()
    (isDenormalised_parent (by decide)) isFiledByKey_parent "child" "2"

end Stratos
