import Mathlib.Data.List.Forall2
import Mathlib.Data.List.Induction
import Mathlib.Data.List.Nodup
import Mathlib.Data.Rat.Defs
import Stratos.Lib.JsObject

/-!
# YAML in the types of Go

A document of YAML is a tree (`Tree`), with aliases and merge keys resolved. Its keys are scalars :
a key that is none is an error wherever it is read. The package (`Package`) is a parameter. What is
relied on (`Documented`) goes by the type : into a struct keys that no field has are lost
(`decode`), and out of one a field with `omitempty` is left out if its value is zero (`encode`). How
scalars are converted is left open, but for those of the type itself.

`encode_decode_iff` says which documents are the same after both (`Fits`) : those whose values have
the type already, without other keys, with no zero where it is left out, and without types only such
scalars as are written as they were.
-/

namespace Lib

namespace Yaml

/-! ## Documents -/

/-- A number that is not an integer. -/
inductive Float
  | finite (x : ℚ)
  | infinite (negative : Bool)
  | nan
  deriving DecidableEq

/-- A scalar with the type that its text has. -/
inductive Scalar
  | null
  | bool (b : Bool)
  | int (n : ℤ)
  | float (x : Float)
  | str (s : String)
  | timestamp (s : String)
  deriving DecidableEq

/-- A document. -/
inductive Tree
  | scalar (x : Scalar)
  | seq (items : List Tree)
  | map (entries : List (Scalar × Tree))

/-- The entries of a mapping. -/
abbrev Entries := List (Scalar × Tree)

/-- The value of a key, which is the last one. -/
def get (m : Entries) (k : Scalar) : Option Tree :=
  (m.reverse.find? fun e => e.1 = k).map Prod.snd

/-- The entries with another value for a key. -/
def put (m : Entries) (k : Scalar) (t : Tree) : Entries := m ++ [(k, t)]

/-- The same content : mappings may have another order. -/
inductive Same : Tree → Tree → Prop
  | refl (t : Tree) : Same t t
  | seq {items items' : List Tree} (h : List.Forall₂ Same items items') :
      Same (.seq items) (.seq items')
  | map {m m' : Entries} (h : ∀ k, Option.Rel Same (get m k) (get m' k)) : Same (.map m) (.map m')

mutual

/-- Other scalars, also in the keys. -/
def Tree.mapScalars (f : Scalar → Scalar) : Tree → Tree
  | .scalar x => .scalar (f x)
  | .seq items => .seq (mapItems f items)
  | .map m => .map (mapEntries f m)

/-- The scalars of a sequence changed. -/
def mapItems (f : Scalar → Scalar) : List Tree → List Tree
  | [] => []
  | t :: items => t.mapScalars f :: mapItems f items

/-- The scalars of a mapping changed, with those of its keys. -/
def mapEntries (f : Scalar → Scalar) : List (Scalar × Tree) → List (Scalar × Tree)
  | [] => []
  | (k, t) :: m => (f k, t.mapScalars f) :: mapEntries f m

end

/-- Every scalar of the document stays the same. -/
inductive Tree.Keeps (f : Scalar → Scalar) : Tree → Prop
  | scalar {x : Scalar} (h : f x = x) : Keeps f (.scalar x)
  | seq {items : List Tree} (h : ∀ t ∈ items, Keeps f t) : Keeps f (.seq items)
  | map {m : Entries} (hkey : ∀ k t, get m k = some t → f k = k)
      (h : ∀ k t, get m k = some t → Keeps f t) : Keeps f (.map m)

/-- No mapping has a key twice. -/
inductive Tree.Distinct : Tree → Prop
  | scalar (x : Scalar) : Distinct (.scalar x)
  | seq {items : List Tree} (h : ∀ t ∈ items, Distinct t) : Distinct (.seq items)
  | map {m : Entries} (hkeys : (m.map Prod.fst).Nodup) (h : ∀ e ∈ m, Distinct e.2) :
      Distinct (.map m)

/-! ## Types and values -/

mutual

/-- A type of Go. -/
inductive GoType
  | string
  | bool
  | int
  /-- `interface{}` -/
  | untyped
  | pointer (T : GoType)
  | slice (T : GoType)
  /-- `map[string]interface{}` -/
  | stringMap
  | struct (fields : Fields)

/-- The fields of a struct, each with its key, whether it has `omitempty`, and its type. -/
inductive Fields
  | nil
  | cons (key : String) (omitempty : Bool) (T : GoType) (rest : Fields)

end

/-- A value of a Go type. -/
inductive GoValue
  | string (s : String)
  | bool (b : Bool)
  | int (n : ℤ)
  | untyped (t : Tree)
  /-- The nil of a pointer, a slice or a map. -/
  | nil
  | pointer (v : GoValue)
  | slice (items : List GoValue)
  | stringMap (m : JsObject Tree)
  | struct (values : List GoValue)

/-- The keys of the fields. -/
def Fields.keys : Fields → List String
  | nil => []
  | cons key _ _ rest => key :: rest.keys

mutual

/-- The zero value of a type. -/
def GoType.zero : GoType → GoValue
  | .string => .string ""
  | .bool => .bool false
  | .int => .int 0
  | .untyped => .untyped (.scalar .null)
  | .pointer _ => .nil
  | .slice _ => .nil
  | .stringMap => .nil
  | .struct fields => .struct fields.zero

/-- The zero values of the fields. -/
def Fields.zero : Fields → List GoValue
  | .nil => []
  | .cons _ _ T rest => T.zero :: rest.zero

end

mutual

/-- `isZero` -/
def GoValue.isZero : GoValue → Bool
  | .string s => s = ""
  | .bool b => !b
  | .int n => n = 0
  | .untyped t =>
    match t with
    | .scalar x => x = .null
    | _ => false
  | .nil => true
  | .pointer _ => false
  | .slice items => items.isEmpty
  | .stringMap m => m.entries.isEmpty
  | .struct values => areZero values

/-- The values are all zero, as `omitempty` asks. -/
def areZero : List GoValue → Bool
  | [] => true
  | v :: values => v.isZero && areZero values

end

/-! ## Decoding -/

/-- The number is an `int64`. -/
def isInt64 (n : ℤ) : Bool := -2 ^ 63 ≤ n && n < 2 ^ 63

/-- How scalars are converted. -/
structure Conversions where
  /-- The text of a scalar that is decoded into a string. -/
  text : Scalar → String
  bool : Scalar → Option Bool
  int : Scalar → Option ℤ
  /-- What an `interface{}` has for a scalar. -/
  resolve : Scalar → Scalar
  /-- What is written for a scalar in an `interface{}`. -/
  emit : Scalar → Scalar

/-- What is left of a scalar that is decoded without a type and written. -/
def Conversions.rewrite (C : Conversions) (x : Scalar) : Scalar := C.emit (C.resolve x)

/-- A `map[string]interface{}` -/
def Conversions.decodeMap (C : Conversions) (m : Entries) : JsObject Tree :=
  m.foldl (fun o e => o.set (C.text e.1) (e.2.mapScalars C.resolve)) .empty

mutual

/-- What a document is decoded to, unless there is an error. -/
def Conversions.decode (C : Conversions) : GoType → Tree → Option GoValue
  | .untyped, t => some (.untyped (t.mapScalars C.resolve))
  | .string, .scalar x => some (.string (C.text x))
  | .bool, .scalar x => (C.bool x).map .bool
  | .int, .scalar x => (C.int x).map .int
  | .pointer _, .scalar .null => some .nil
  | .pointer T, t => (C.decode T t).map .pointer
  | .slice _, .scalar .null => some .nil
  | .slice T, .seq items => (items.mapM fun t => C.decode T t).map .slice
  | .stringMap, .scalar .null => some .nil
  | .stringMap, .map m => some (.stringMap (C.decodeMap m))
  | .struct fields, .scalar .null => some (.struct fields.zero)
  | .struct fields, .map m => (C.decodeFields fields m).map .struct
  | _, _ => none

/-- The values of the fields, zero where the mapping has no such key. -/
def Conversions.decodeFields (C : Conversions) : Fields → Entries → Option (List GoValue)
  | .nil, _ => some []
  | .cons key _ T rest, m => do
    let v ← (get m (.str key)).elim (some T.zero) fun t => C.decode T t
    let values ← C.decodeFields rest m
    return v :: values

end

/-! ## Encoding -/

mutual

/-- The tree of a value. -/
def Conversions.encode (C : Conversions) : GoType → GoValue → Tree
  | .string, .string s => .scalar (.str s)
  | .bool, .bool b => .scalar (.bool b)
  | .int, .int n => .scalar (.int n)
  | .untyped, .untyped t => t.mapScalars C.emit
  | .pointer T, .pointer v => C.encode T v
  | .slice T, .slice items => .seq (items.map fun v => C.encode T v)
  | .slice _, .nil => .seq []
  | .stringMap, .stringMap m =>
    .map (m.entries.map fun e => (.str e.1, e.2.mapScalars C.emit))
  | .stringMap, .nil => .map []
  | .struct fields, .struct values => .map (C.encodeFields fields values)
  -- A nil pointer ; a type has no values of another shape.
  | _, _ => .scalar .null

/-- The entries of the fields, without those that are left out. -/
def Conversions.encodeFields (C : Conversions) : Fields → List GoValue → Entries
  | .cons key omitempty T rest, v :: values =>
    let entries := C.encodeFields rest values
    if omitempty && v.isZero then entries else (.str key, C.encode T v) :: entries
  | _, _ => []

end

/-! ## The package -/

/-- `yaml.v2` -/
structure Package where
  unmarshal : GoType → Tree → Option GoValue
  marshal : GoType → GoValue → Tree

/-! ## JSON -/

mutual

/-- `json.Marshal` takes what the document is decoded to without a type. A mapping is a
`map[interface {}]interface {}` then. -/
def Tree.marshals : Tree → Bool
  | .scalar (.float (.finite _)) => true
  | .scalar (.float _) => false
  | .scalar _ => true
  | .seq items => allMarshal items
  | .map _ => false

/-- The trees can all be marshalled. -/
def allMarshal : List Tree → Bool
  | [] => true
  | t :: items => t.marshals && allMarshal items

end

mutual

/-- `json.Marshal` succeeds. -/
def GoValue.marshals : GoValue → Bool
  | .untyped t => t.marshals
  | .pointer v => v.marshals
  | .slice items => valuesMarshal items
  | .stringMap m => m.entries.all fun e => e.2.marshals
  | .struct values => valuesMarshal values
  | _ => true

/-- The values can all be marshalled. -/
def valuesMarshal : List GoValue → Bool
  | [] => true
  | v :: values => v.marshals && valuesMarshal values

end

/-! ## What is documented -/

/-- A scalar of the type of its text is converted to it, and one without a type is written the same
way each time. -/
structure Conversions.Documented (C : Conversions) : Prop where
  text_str : ∀ s, C.text (.str s) = s
  bool_bool : ∀ b, C.bool (.bool b) = some b
  int_int : ∀ n, isInt64 n = true → C.int (.int n) = some n
  isInt64_int : ∀ x n, C.int x = some n → isInt64 n = true
  resolve_str : ∀ s, C.resolve (.str s) = .str s
  emit_str : ∀ s, C.emit (.str s) = .str s
  resolve_eq_null : ∀ x, C.resolve x = .null ↔ x = .null
  rewrite_rewrite : ∀ x, C.rewrite (C.rewrite x) = C.rewrite x
  /-- The infinite and undefined numbers are those whose text says so. -/
  marshals_resolve : ∀ x, (Tree.scalar (C.resolve x)).marshals = (Tree.scalar x).marshals

/-! ## What is the same after both -/

mutual

/-- The document of a value that is zero. -/
def ZeroTree : GoType → Tree → Prop
  | .string, t => t = .scalar (.str "")
  | .bool, t => t = .scalar (.bool false)
  | .int, t => t = .scalar (.int 0)
  | .untyped, t => t = .scalar .null
  | .pointer _, t => t = .scalar .null
  | .slice _, t => t = .seq []
  | .stringMap, t => t = .map []
  | .struct fields, t => ∃ m, t = .map m ∧ ZeroFields fields m

/-- What the mapping has for the fields is read as zero. -/
def ZeroFields : Fields → Entries → Prop
  | .nil, _ => True
  | .cons key _ T rest, m =>
    (∀ t, get m (.str key) = some t → ZeroTree T t) ∧ ZeroFields rest m

end

mutual

/-- The values of a document have the type, and nothing of it is lost or added. -/
def Fits (C : Conversions) : GoType → Tree → Prop
  | .string, t => ∃ s, t = .scalar (.str s)
  | .bool, t => ∃ b, t = .scalar (.bool b)
  | .int, t => ∃ n, t = .scalar (.int n) ∧ isInt64 n
  | .untyped, t => t.Keeps C.rewrite
  | .pointer T, t => t = .scalar .null ∨ Fits C T t
  | .slice T, t => ∃ items, t = .seq items ∧ ∀ x ∈ items, Fits C T x
  | .stringMap, t => ∃ m, t = .map m ∧ (∀ e ∈ m, ∃ s, e.1 = .str s) ∧
      ∀ k t', get m k = some t' → t'.Keeps C.rewrite
  | .struct fields, t => ∃ m, t = .map m ∧ (∀ e ∈ m, ∃ key ∈ fields.keys, e.1 = .str key) ∧
      FieldsFit C fields m

/-- A field that is not there has `omitempty`, and one that has is not zero. -/
def FieldsFit (C : Conversions) : Fields → Entries → Prop
  | .nil, _ => True
  | .cons key omitempty T rest, m =>
    (get m (.str key) = none ∧ omitempty ∨ ∃ t, get m (.str key) = some t ∧ Fits C T t ∧
      (omitempty → ¬ZeroTree T t)) ∧ FieldsFit C rest m

end

mutual

/-- The fields of every struct have distinct keys. -/
def GoType.distinct : GoType → Bool
  | .pointer T => T.distinct
  | .slice T => T.distinct
  | .struct fields => fields.distinct
  | _ => true

/-- No two fields have the same key, at any depth. -/
def Fields.distinct : Fields → Bool
  | .nil => true
  | .cons key _ T rest => !rest.keys.contains key && T.distinct && rest.distinct

end

/-- What is relied on of the package, for types whose structs have no key twice. Mappings are
written in some order. -/
structure Package.Documented (Y : Package) (C : Conversions) : Prop where
  unmarshal : ∀ T t, T.distinct = true → t.Distinct → Y.unmarshal T t = C.decode T t
  marshal : ∀ T v, T.distinct = true → Same (C.encode T v) (Y.marshal T v)
  conversions : C.Documented

/-! ### Mappings -/

section Mappings

variable {m m' : Entries} {k k' : Scalar} {t : Tree}

@[simp] theorem get_nil (k : Scalar) : get [] k = none :=
  rfl

theorem get_cons (e : Scalar × Tree) (m : Entries) (k : Scalar) :
    get (e :: m) k = (get m k).or (if e.1 = k then some e.2 else none) := by
  rw [get, List.reverse_cons, List.find?_append, Option.map_or, get]
  congr 1
  by_cases h : e.1 = k
  · simp [h]
  · simp [h]

theorem get_put (m : Entries) (k k' : Scalar) (t : Tree) :
    get (put m k t) k' = if k' = k then some t else get m k' := by
  rw [get, put, List.reverse_concat, List.find?_cons]
  by_cases h : k' = k
  · simp [h]
  · have hne : ¬k = k' := fun h' => h h'.symm
    simp [h, hne, get]

theorem get_eq_none_iff : get m k = none ↔ ∀ e ∈ m, e.1 ≠ k := by
  simp [get]

theorem mem_of_get (h : get m k = some t) : (k, t) ∈ m := by
  obtain ⟨e, he, rfl⟩ := Option.map_eq_some_iff.1 h
  have hk : e.1 = k := by simpa using List.find?_some he
  exact hk ▸ List.mem_reverse.1 (List.mem_of_find?_eq_some he)

theorem exists_get_of_mem {e : Scalar × Tree} (he : e ∈ m) : ∃ t, get m e.1 = some t :=
  Option.ne_none_iff_exists'.1 fun hnone => get_eq_none_iff.1 hnone e he rfl

theorem distinct_map_iff :
    (Tree.map m).Distinct ↔ (m.map Prod.fst).Nodup ∧ ∀ e ∈ m, e.2.Distinct := by
  refine ⟨fun h => ?_, fun h => .map h.1 h.2⟩
  cases h with
  | map hkeys h => exact ⟨hkeys, h⟩

theorem distinct_seq_iff {items : List Tree} :
    (Tree.seq items).Distinct ↔ ∀ t ∈ items, t.Distinct := by
  refine ⟨fun h => ?_, .seq⟩
  cases h with
  | seq h => exact h

@[simp] theorem distinct_scalar (x : Scalar) : (Tree.scalar x).Distinct := .scalar x

@[simp] theorem keeps_scalar_iff {f : Scalar → Scalar} {x : Scalar} :
    (Tree.scalar x).Keeps f ↔ f x = x := by
  refine ⟨fun h => ?_, .scalar⟩
  cases h with
  | scalar h => exact h

theorem same_scalar_iff {x : Scalar} : Same (.scalar x) t ↔ t = .scalar x := by
  refine ⟨fun h => ?_, ?_⟩
  · cases h
    rfl
  · rintro rfl
    exact .refl _

theorem same_seq_iff {items items' : List Tree} :
    Same (.seq items) (.seq items') ↔ List.Forall₂ Same items items' := by
  refine ⟨fun h => ?_, .seq⟩
  cases h with
  | refl => exact List.forall₂_same.2 fun t _ => .refl t
  | seq h => exact h

theorem rel_same_refl (o : Option Tree) : Option.Rel Same o o := by
  cases o with
  | none => exact .none
  | some t => exact .some (.refl t)

theorem same_map_iff : Same (.map m) (.map m') ↔ ∀ k, Option.Rel Same (get m k) (get m' k) := by
  refine ⟨fun h => ?_, .map⟩
  cases h with
  | refl => exact fun k => rel_same_refl _
  | map h => exact h

theorem rel_none_iff {o : Option Tree} : Option.Rel Same none o ↔ o = none := by
  refine ⟨fun h => ?_, ?_⟩
  · cases h
    rfl
  · rintro rfl
    exact .none

theorem rel_some_iff {o : Option Tree} :
    Option.Rel Same (some t) o ↔ ∃ t', o = some t' ∧ Same t t' := by
  refine ⟨fun h => ?_, ?_⟩
  · cases h with
    | some h => exact ⟨_, rfl, h⟩
  · rintro ⟨t', rfl, h⟩
    exact .some h

/-- Induction over a document. -/
theorem Tree.ind {p : Tree → Prop} (scalar : ∀ x, p (.scalar x))
    (seq : ∀ items : List Tree, (∀ t ∈ items, p t) → p (.seq items))
    (map : ∀ m : Entries, (∀ e ∈ m, p e.2) → p (.map m)) : ∀ t, p t
  | .scalar x => scalar x
  | .seq items => seq items fun t _ => Tree.ind scalar seq map t
  | .map m => map m fun e _ => Tree.ind scalar seq map e.2
termination_by t => t
decreasing_by
  · have := List.sizeOf_lt_of_mem ‹t ∈ items›
    simp only [Tree.seq.sizeOf_spec]
    omega
  · have := List.sizeOf_lt_of_mem ‹e ∈ m›
    obtain ⟨k, t⟩ := e
    simp only [Tree.map.sizeOf_spec, Prod.mk.sizeOf_spec] at this ⊢
    omega

theorem Same.symm {t : Tree} : ∀ {t'}, Same t t' → Same t' t := by
  induction t using Tree.ind with
  | scalar x => exact fun h => same_scalar_iff.1 h ▸ .refl _
  | seq items ih =>
    intro t' h
    cases h with
    | refl => exact .refl _
    | seq h =>
      refine .seq ?_
      induction h with
      | nil => exact .nil
      | cons hfirst _ ihl =>
        obtain ⟨ihfirst, ihrest⟩ := List.forall_mem_cons.1 ih
        exact .cons (ihfirst hfirst) (ihl ihrest)
  | map m ih =>
    intro t' h
    cases h with
    | refl => exact .refl _
    | map h =>
      refine .map fun k => ?_
      have hk := h k
      cases hget : get m k with
      | none =>
        rw [hget, rel_none_iff] at hk
        rw [hk]
        exact .none
      | some t =>
        rw [hget, rel_some_iff] at hk
        obtain ⟨t', hget', hsame⟩ := hk
        rw [hget']
        exact .some (ih _ (mem_of_get hget) hsame)

theorem Same.trans {t : Tree} : ∀ {t' t''}, Same t t' → Same t' t'' → Same t t'' := by
  induction t using Tree.ind with
  | scalar x =>
    intro t' t'' h h'
    rwa [same_scalar_iff.1 h] at h'
  | seq items ih =>
    intro t' t'' h h'
    cases h with
    | refl => exact h'
    | seq h =>
      cases h' with
      | refl => exact .seq h
      | seq h' =>
        refine .seq ?_
        rename_i items''
        induction h generalizing items'' with
        | nil => exact h'
        | cons hfirst _ ihl =>
          obtain ⟨ihfirst, ihrest⟩ := List.forall_mem_cons.1 ih
          cases h' with
          | cons hfirst' hrest' => exact .cons (ihfirst hfirst hfirst') (ihl ihrest hrest')
  | map m ih =>
    intro t' t'' h h'
    cases h with
    | refl => exact h'
    | map h =>
      cases h' with
      | refl => exact .map h
      | map h' =>
        refine .map fun k => ?_
        have hk := h k
        have hk' := h' k
        cases hget : get m k with
        | none =>
          rw [hget, rel_none_iff] at hk
          rwa [hk] at hk'
        | some t =>
          rw [hget, rel_some_iff] at hk
          obtain ⟨t', hget', hsame⟩ := hk
          rw [hget', rel_some_iff] at hk'
          obtain ⟨t'', hget'', hsame'⟩ := hk'
          rw [hget'']
          exact .some (ih _ (mem_of_get hget) hsame hsame')

end Mappings

/-! ### Scalars -/

section Scalars

variable {f g : Scalar → Scalar} {m : Entries} {t : Tree}

theorem mapItems_eq (f : Scalar → Scalar) (items : List Tree) :
    mapItems f items = items.map (Tree.mapScalars f) := by
  induction items with
  | nil => rfl
  | cons t items ih => rw [mapItems, ih, List.map_cons]

theorem mapEntries_eq (f : Scalar → Scalar) (m : Entries) :
    mapEntries f m = m.map fun e => (f e.1, e.2.mapScalars f) := by
  induction m with
  | nil => rfl
  | cons e m ih => rw [mapEntries, ih, List.map_cons]

theorem mapScalars_mapScalars (f g : Scalar → Scalar) (t : Tree) :
    (t.mapScalars f).mapScalars g = t.mapScalars fun x => g (f x) := by
  induction t using Tree.ind with
  | scalar x => rfl
  | seq items ih =>
    simp only [Tree.mapScalars, mapItems_eq, List.map_map]
    exact congrArg Tree.seq (List.map_congr_left ih)
  | map m ih =>
    simp only [Tree.mapScalars, mapEntries_eq, List.map_map]
    exact congrArg Tree.map (List.map_congr_left fun e he => congrArg (Prod.mk _) (ih e he))

/-- Where the keys stay the same, so does what has a value. -/
theorem get_mapEntries (h : ∀ e ∈ m, f e.1 = e.1) (k : Scalar) :
    get (mapEntries f m) k = (get m k).map (Tree.mapScalars f) := by
  induction m with
  | nil => rfl
  | cons e m ih =>
    obtain ⟨hkey, hkeys⟩ := List.forall_mem_cons.1 h
    rw [mapEntries, get_cons, get_cons, ih hkeys, hkey, Option.map_or]
    split_ifs <;> rfl

/-- What is written the same way each time is the same if and only if no scalar changes. -/
theorem same_mapScalars_iff (hf : ∀ x, f (f x) = f x) :
    Same t (t.mapScalars f) ↔ t.Keeps f := by
  induction t using Tree.ind with
  | scalar x =>
    rw [Tree.mapScalars, same_scalar_iff, Tree.scalar.injEq, keeps_scalar_iff]
  | seq items ih =>
    rw [Tree.mapScalars, mapItems_eq, same_seq_iff, List.forall₂_map_right_iff, List.forall₂_same]
    refine ⟨fun h => .seq fun t ht => (ih t ht).1 (h t ht), fun h => ?_⟩
    cases h with
    | seq h => exact fun t ht => (ih t ht).2 (h t ht)
  | map m ih =>
    rw [Tree.mapScalars, same_map_iff]
    constructor
    · intro h
      have hkeys : ∀ e ∈ m, f e.1 = e.1 := by
        intro e he
        obtain ⟨t, ht⟩ := exists_get_of_mem he
        have hrel := h e.1
        rw [ht, rel_some_iff] at hrel
        obtain ⟨t', ht', -⟩ := hrel
        have hmem := mem_of_get ht'
        rw [mapEntries_eq] at hmem
        obtain ⟨e', -, heq⟩ := List.mem_map.1 hmem
        rw [← congrArg Prod.fst heq]
        exact hf e'.1
      refine .map (fun k t ht => hkeys _ (mem_of_get ht)) fun k t ht => ?_
      have hrel := h k
      rw [get_mapEntries hkeys, ht, Option.map_some, rel_some_iff] at hrel
      obtain ⟨t', ht', hsame⟩ := hrel
      obtain rfl := Option.some.inj ht'
      exact (ih _ (mem_of_get ht)).1 hsame
    · intro h k
      cases h with
      | map hkey h =>
        have hkeys : ∀ e ∈ m, f e.1 = e.1 := fun e he =>
          let ⟨t, ht⟩ := exists_get_of_mem he
          hkey e.1 t ht
        rw [get_mapEntries hkeys]
        cases hget : get m k with
        | none => exact .none
        | some t => exact .some ((ih _ (mem_of_get hget)).2 (h k t hget))

end Scalars

/-! ### Zeros -/

mutual

theorem isZero_zero : ∀ T : GoType, T.zero.isZero = true
  | .string | .bool | .int | .untyped | .pointer _ | .slice _ | .stringMap => rfl
  | .struct fields => areZero_zero fields

theorem areZero_zero : ∀ fields : Fields, areZero fields.zero = true
  | .nil => rfl
  | .cons _ _ T rest => by
    rw [Fields.zero, areZero, isZero_zero T, areZero_zero rest]
    rfl

end

section Decode

variable {C : Conversions} {t : Tree} {m : Entries} {v : GoValue} {values : List GoValue}

theorem decode_string (hC : C.Documented) (s : String) :
    C.decode .string (.scalar (.str s)) = some (.string s) :=
  congrArg (fun s => some (GoValue.string s)) (hC.text_str s)

theorem decode_bool (hC : C.Documented) (b : Bool) :
    C.decode .bool (.scalar (.bool b)) = some (.bool b) :=
  congrArg (Option.map GoValue.bool) (hC.bool_bool b)

theorem decode_int (hC : C.Documented) (n : ℤ) (hn : isInt64 n = true) :
    C.decode .int (.scalar (.int n)) = some (.int n) :=
  congrArg (Option.map GoValue.int) (hC.int_int n hn)

theorem decode_pointer {T : GoType} (h : t ≠ .scalar .null) :
    C.decode (.pointer T) t = (C.decode T t).map .pointer := by
  rw [Conversions.decode]
  exact h

theorem decode_slice (T : GoType) (items : List Tree) : C.decode (.slice T) (.seq items) =
    (items.mapM fun t => C.decode T t).map .slice :=
  rfl

theorem decode_struct (fields : Fields) (m : Entries) : C.decode (.struct fields) (.map m) =
    (C.decodeFields fields m).map .struct :=
  rfl

theorem mapM_cons_eq_some {T : GoType} {items : List Tree} :
    ((t :: items).mapM fun t => C.decode T t) = some values ↔ ∃ v values',
      C.decode T t = some v ∧ (items.mapM fun t => C.decode T t) = some values' ∧
        v :: values' = values := by
  simp [List.mapM_cons, Option.bind_eq_some_iff]

theorem decodeFields_cons_eq_some {key : String} {omitempty : Bool} {T : GoType} {rest : Fields} :
    C.decodeFields (.cons key omitempty T rest) m = some values ↔ ∃ v values',
      (get m (.str key)).elim (some T.zero) (fun t => C.decode T t) = some v ∧
        C.decodeFields rest m = some values' ∧ v :: values' = values := by
  simp [Conversions.decodeFields, Option.bind_eq_some_iff]

theorem get?_decodeMap (hC : C.Documented) (m : Entries) (s : String)
    (hkeys : ∀ e ∈ m, ∃ s, e.1 = .str s) :
    (C.decodeMap m).get? s = (get m (.str s)).map (Tree.mapScalars C.resolve) := by
  rw [Conversions.decodeMap]
  induction m using List.reverseRecOn with
  | nil => rfl
  | append_singleton m e ih =>
    obtain ⟨s', hs'⟩ := hkeys e (by simp)
    have hkey : C.text e.1 = s' := by rw [hs', hC.text_str]
    rw [List.foldl_append, List.foldl_cons, List.foldl_nil, JsObject.get?_set, hkey,
      ih fun e he => hkeys e (List.mem_append_left _ he)]
    have hput := get_put m e.1 (.str s) e.2
    rw [put, hs'] at hput
    rw [show m ++ [e] = m ++ [(e.1, e.2)] from rfl, hs', hput]
    by_cases hs : s = s'
    · simp [hs]
    · simp [hs]

theorem entries_decodeMap_eq_nil : (C.decodeMap m).entries = [] ↔ m = [] := by
  constructor
  · intro h
    cases m using List.reverseRecOn with
    | nil => rfl
    | append_singleton m e =>
      rw [Conversions.decodeMap, List.foldl_append, List.foldl_cons, List.foldl_nil] at h
      have hget := JsObject.get?_set_self (C.decodeMap m) (C.text e.1) (e.2.mapScalars C.resolve)
      rw [JsObject.get?, show ((C.decodeMap m).set _ _).entries = [] from h] at hget
      cases hget
  · rintro rfl
    rfl

mutual

/-- A document that fits is decoded to a zero if it is the document of one. -/
theorem isZero_iff_of_fits (hC : C.Documented) : ∀ {T : GoType} {t : Tree} {v : GoValue},
    Fits C T t → C.decode T t = some v → (v.isZero = true ↔ ZeroTree T t)
  | .string, t, v, ⟨s, ht⟩, hv => by
    subst ht
    cases (decode_string hC s).symm.trans hv
    simp [GoValue.isZero, ZeroTree]
  | .bool, t, v, ⟨b, ht⟩, hv => by
    subst ht
    cases (decode_bool hC b).symm.trans hv
    simp [GoValue.isZero, ZeroTree]
  | .int, t, v, ⟨n, ht, hn⟩, hv => by
    subst ht
    cases (decode_int hC n hn).symm.trans hv
    simp [GoValue.isZero, ZeroTree]
  | .untyped, t, v, _, hv => by
    cases hv
    cases t with
    | scalar x => simp [GoValue.isZero, ZeroTree, Tree.mapScalars, hC.resolve_eq_null]
    | seq | map => simp [GoValue.isZero, ZeroTree, Tree.mapScalars]
  | .pointer T, t, v, _, hv => by
    by_cases hnull : t = .scalar .null
    · subst hnull
      cases hv
      simp [GoValue.isZero, ZeroTree]
    · rw [decode_pointer hnull] at hv
      obtain ⟨v', -, rfl⟩ := Option.map_eq_some_iff.1 hv
      simp [GoValue.isZero, ZeroTree, hnull]
  | .slice T, t, v, ⟨items, ht, _⟩, hv => by
    subst ht
    rw [decode_slice] at hv
    obtain ⟨values, hvalues, rfl⟩ := Option.map_eq_some_iff.1 hv
    cases items with
    | nil =>
      cases hvalues
      simp [GoValue.isZero, ZeroTree]
    | cons x items =>
      obtain ⟨v, values, -, -, rfl⟩ := mapM_cons_eq_some.1 hvalues
      simp [GoValue.isZero, ZeroTree]
  | .stringMap, t, v, ⟨m, ht, _⟩, hv => by
    subst ht
    cases hv
    simp [GoValue.isZero, ZeroTree, entries_decodeMap_eq_nil]
  | .struct fields, t, v, ⟨m, ht, _, hfields⟩, hv => by
    subst ht
    rw [decode_struct] at hv
    obtain ⟨values, hvalues, rfl⟩ := Option.map_eq_some_iff.1 hv
    rw [GoValue.isZero, areZero_iff_of_fieldsFit hC hfields hvalues]
    simp [ZeroTree]

theorem areZero_iff_of_fieldsFit (hC : C.Documented) :
    ∀ {fields : Fields} {m : Entries} {values : List GoValue}, FieldsFit C fields m →
      C.decodeFields fields m = some values → (areZero values = true ↔ ZeroFields fields m)
  | .nil, m, values, _, hvalues => by
    cases hvalues
    simp [areZero, ZeroFields]
  | .cons key omitempty T rest, m, values, ⟨hfield, hrest⟩, hvalues => by
    obtain ⟨v, values, hv, hvalues', rfl⟩ := decodeFields_cons_eq_some.1 hvalues
    rw [areZero, Bool.and_eq_true, ZeroFields, areZero_iff_of_fieldsFit hC hrest hvalues']
    refine and_congr ?_ Iff.rfl
    obtain ⟨hnone, -⟩ | ⟨t, hsome, hfits, -⟩ := hfield
    · rw [hnone] at hv ⊢
      obtain rfl : T.zero = v := Option.some.inj hv
      simp [isZero_zero]
    · rw [hsome] at hv ⊢
      simp [isZero_iff_of_fits hC hfits hv]

end

/-! ### The main result -/

/-- A struct has the keys of its fields only. -/
theorem get_encodeFields_of_notMem : ∀ {fields : Fields} {values : List GoValue} {k : Scalar},
    (∀ key ∈ fields.keys, k ≠ .str key) → get (C.encodeFields fields values) k = none
  | .nil, _, _, _ => rfl
  | .cons _ _ _ _, [], _, _ => rfl
  | .cons key omitempty T rest, v :: values, k, h => by
    obtain ⟨hkey, hrest⟩ := List.forall_mem_cons.1 h
    have ih : get (C.encodeFields rest values) k = none := get_encodeFields_of_notMem hrest
    rw [Conversions.encodeFields]
    split_ifs
    · exact ih
    · rw [get_cons, ih, Option.none_or, if_neg hkey.symm]

theorem get_encodeFields_cons_self {key : String} {omitempty : Bool} {T : GoType} {rest : Fields}
    (hkey : key ∉ rest.keys) : get (C.encodeFields (.cons key omitempty T rest) (v :: values))
      (.str key) = if omitempty && v.isZero then none else some (C.encode T v) := by
  have hrest : get (C.encodeFields rest values) (.str key) = none :=
    get_encodeFields_of_notMem fun key' hmem heq => hkey (Scalar.str.inj heq ▸ hmem)
  rw [Conversions.encodeFields]
  split_ifs
  · exact hrest
  · rw [get_cons, hrest, Option.none_or, if_pos rfl]

theorem get_encodeFields_cons_of_ne {key : String} {omitempty : Bool} {T : GoType} {rest : Fields}
    {k : Scalar} (hk : k ≠ .str key) :
    get (C.encodeFields (.cons key omitempty T rest) (v :: values)) k =
      get (C.encodeFields rest values) k := by
  rw [Conversions.encodeFields]
  split_ifs
  · rfl
  · rw [get_cons, if_neg hk.symm, Option.or_none]

theorem encode_decode_string_iff (hC : C.Documented) :
    (∃ v, C.decode .string t = some v ∧ Same t (C.encode .string v)) ↔ Fits C .string t := by
  constructor
  · rintro ⟨v, hv, hsame⟩
    cases t with
    | scalar x =>
      cases hv
      exact ⟨_, (same_scalar_iff.1 hsame).symm⟩
    | seq | map => cases hv
  · rintro ⟨s, rfl⟩
    exact ⟨_, decode_string hC s, .refl _⟩

theorem encode_decode_bool_iff (hC : C.Documented) :
    (∃ v, C.decode .bool t = some v ∧ Same t (C.encode .bool v)) ↔ Fits C .bool t := by
  constructor
  · rintro ⟨v, hv, hsame⟩
    cases t with
    | scalar x =>
      obtain ⟨b, -, rfl⟩ := Option.map_eq_some_iff.1 hv
      exact ⟨b, (same_scalar_iff.1 hsame).symm⟩
    | seq | map => cases hv
  · rintro ⟨b, rfl⟩
    exact ⟨_, decode_bool hC b, .refl _⟩

theorem encode_decode_int_iff (hC : C.Documented) :
    (∃ v, C.decode .int t = some v ∧ Same t (C.encode .int v)) ↔ Fits C .int t := by
  constructor
  · rintro ⟨v, hv, hsame⟩
    cases t with
    | scalar x =>
      obtain ⟨n, hn, rfl⟩ := Option.map_eq_some_iff.1 hv
      exact ⟨n, (same_scalar_iff.1 hsame).symm, hC.isInt64_int x n hn⟩
    | seq | map => cases hv
  · rintro ⟨n, rfl, hn⟩
    exact ⟨_, decode_int hC n hn, .refl _⟩

theorem encode_decode_untyped_iff (hC : C.Documented) :
    (∃ v, C.decode .untyped t = some v ∧ Same t (C.encode .untyped v)) ↔ Fits C .untyped t := by
  rw [Fits, ← same_mapScalars_iff hC.rewrite_rewrite]
  constructor
  · rintro ⟨v, hv, hsame⟩
    cases hv
    rwa [Conversions.encode, mapScalars_mapScalars] at hsame
  · intro hsame
    refine ⟨_, rfl, ?_⟩
    rwa [Conversions.encode, mapScalars_mapScalars]

theorem get_stringEntries (f : Tree → Tree) (o : JsObject Tree) (s : String) :
    get (o.entries.map fun e => (.str e.1, f e.2)) (.str s) = (o.get? s).map f := by
  obtain ⟨es, hnodup⟩ := o
  rw [JsObject.get?]
  induction es with
  | nil => rfl
  | cons e es ih =>
    obtain ⟨hnot, hnodup⟩ := List.nodup_cons.1 hnodup
    rw [List.map_cons, get_cons, ih hnodup, List.find?_cons]
    by_cases hs : e.1 = s
    · have hnone : es.find? (fun e => e.1 = s) = none := by
        rw [List.find?_eq_none]
        intro e' he' heq
        exact hnot (List.mem_map.2 ⟨e', he', (of_decide_eq_true heq).trans hs.symm⟩)
      simp [hs, hnone]
    · simp [hs]

/-- The keys of a mapping that is written for a `map[string]interface{}` are strings. -/
theorem get_stringEntries_of_ne {f : Tree → Tree} {o : JsObject Tree} {k : Scalar}
    (hk : ¬∃ s, k = .str s) : get (o.entries.map fun e => (.str e.1, f e.2)) k = none := by
  rw [get_eq_none_iff]
  intro e he heq
  obtain ⟨e', -, rfl⟩ := List.mem_map.1 he
  exact hk ⟨e'.1, heq.symm⟩

/-- What is written for a mapping whose keys are strings. -/
theorem get_encode_stringMap (hC : C.Documented) (hkeys : ∀ e ∈ m, ∃ s, e.1 = .str s)
    (k : Scalar) : get ((C.decodeMap m).entries.map fun e => (.str e.1, e.2.mapScalars C.emit)) k =
      (get m k).map (Tree.mapScalars C.rewrite) := by
  by_cases hk : ∃ s, k = .str s
  · obtain ⟨s, rfl⟩ := hk
    rw [get_stringEntries (Tree.mapScalars C.emit), get?_decodeMap hC m s hkeys, Option.map_map]
    exact congrArg (Option.map · _) (funext fun t => mapScalars_mapScalars _ _ t)
  · have hnone : get m k = none :=
      get_eq_none_iff.2 fun e he heq => hk (heq ▸ hkeys e he)
    rw [hnone, get_stringEntries_of_ne (f := Tree.mapScalars C.emit) hk]
    rfl

theorem encode_decode_stringMap_iff (hC : C.Documented) :
    (∃ v, C.decode .stringMap t = some v ∧ Same t (C.encode .stringMap v)) ↔
      Fits C .stringMap t := by
  constructor
  · rintro ⟨v, hv, hsame⟩
    cases t with
    | scalar x =>
      cases x with
      | null =>
        cases hv
        cases same_scalar_iff.1 hsame
      | bool | int | float | str | timestamp => cases hv
    | seq => cases hv
    | map m =>
      cases hv
      have hrel := same_map_iff.1 hsame
      have hkeys : ∀ e ∈ m, ∃ s, e.1 = .str s := by
        intro e he
        obtain ⟨t, ht⟩ := exists_get_of_mem he
        by_contra hk
        have hnone := hrel e.1
        rw [ht, get_stringEntries_of_ne (f := Tree.mapScalars C.emit) hk] at hnone
        cases hnone
      refine ⟨m, rfl, hkeys, fun k t ht => ?_⟩
      have hk := hrel k
      rw [get_encode_stringMap hC hkeys, ht, Option.map_some, rel_some_iff] at hk
      obtain ⟨t', ht', hsame⟩ := hk
      obtain rfl := Option.some.inj ht'
      exact (same_mapScalars_iff hC.rewrite_rewrite).1 hsame
  · rintro ⟨m, rfl, hkeys, hkeep⟩
    refine ⟨_, rfl, same_map_iff.2 fun k => ?_⟩
    rw [get_encode_stringMap hC hkeys]
    cases hget : get m k with
    | none => exact .none
    | some t => exact .some ((same_mapScalars_iff hC.rewrite_rewrite).2 (hkeep k t hget))

/-- The items of a sequence, when it is known of each. -/
theorem encode_decode_items_iff {T : GoType}
    (ih : ∀ x, (∃ v, C.decode T x = some v ∧ Same x (C.encode T v)) ↔ Fits C T x)
    (items : List Tree) :
    (∃ values, (items.mapM fun t => C.decode T t) = some values ∧
      List.Forall₂ Same items (values.map fun v => C.encode T v)) ↔ ∀ x ∈ items, Fits C T x := by
  induction items with
  | nil => exact iff_of_true ⟨[], rfl, .nil⟩ nofun
  | cons x items ihl =>
    rw [List.forall_mem_cons, ← ih, ← ihl]
    constructor
    · rintro ⟨values, hvalues, hsame⟩
      obtain ⟨v, values', hv, hvalues', rfl⟩ := mapM_cons_eq_some.1 hvalues
      obtain ⟨hfirst, hrest⟩ := List.forall₂_cons.1 hsame
      exact ⟨⟨v, hv, hfirst⟩, values', hvalues', hrest⟩
    · rintro ⟨⟨v, hv, hfirst⟩, values, hvalues, hrest⟩
      exact ⟨v :: values, mapM_cons_eq_some.2 ⟨v, values, hv, hvalues, rfl⟩,
        .cons hfirst hrest⟩

/-- One field, when it is known of its type. -/
theorem rel_field_iff (hC : C.Documented) {T : GoType} {omitempty : Bool} {o : Option Tree}
    (ih : ∀ x, (∃ v, C.decode T x = some v ∧ Same x (C.encode T v)) ↔ Fits C T x) :
    (∃ v, o.elim (some T.zero) (fun t => C.decode T t) = some v ∧
      Option.Rel Same o (if omitempty && v.isZero then none else some (C.encode T v))) ↔
    (o = none ∧ omitempty ∨ ∃ t, o = some t ∧ Fits C T t ∧ (omitempty → ¬ZeroTree T t)) := by
  cases o with
  | none =>
    simp [isZero_zero, rel_none_iff]
  | some t =>
    simp only [Option.elim_some, reduceCtorEq, false_and, false_or, Option.some.injEq,
      exists_eq_left', rel_some_iff]
    constructor
    · rintro ⟨v, hv, t', ht', hsame⟩
      split_ifs at ht' with hzero
      cases ht'
      have hfits := (ih t).1 ⟨v, hv, hsame⟩
      refine ⟨hfits, fun homit htree => hzero ?_⟩
      rw [homit, (isZero_iff_of_fits hC hfits hv).2 htree]
      rfl
    · rintro ⟨hfits, hzero⟩
      obtain ⟨v, hv, hsame⟩ := (ih t).2 hfits
      refine ⟨v, hv, _, if_neg fun hboth => ?_, hsame⟩
      obtain ⟨homit, hv0⟩ := Bool.and_eq_true_iff.1 hboth
      exact hzero homit ((isZero_iff_of_fits hC hfits hv).1 hv0)

/-- A pointer, when it is known of what it points to. -/
theorem encode_decode_pointer_iff {T : GoType}
    (ih : ∀ x, (∃ v, C.decode T x = some v ∧ Same x (C.encode T v)) ↔ Fits C T x) :
    (∃ v, C.decode (.pointer T) t = some v ∧ Same t (C.encode (.pointer T) v)) ↔
      Fits C (.pointer T) t := by
  by_cases hnull : t = .scalar .null
  · subst hnull
    exact iff_of_true ⟨.nil, rfl, .refl _⟩ (Or.inl rfl)
  · rw [decode_pointer hnull, Fits, or_iff_right hnull, ← ih]
    constructor
    · rintro ⟨v, hv, hsame⟩
      obtain ⟨v', hv', rfl⟩ := Option.map_eq_some_iff.1 hv
      exact ⟨v', hv', hsame⟩
    · rintro ⟨v, hv, hsame⟩
      exact ⟨.pointer v, Option.map_eq_some_iff.2 ⟨v, hv, rfl⟩, hsame⟩

/-- A list, when it is known of each item. -/
theorem encode_decode_slice_iff {T : GoType}
    (ih : ∀ x, (∃ v, C.decode T x = some v ∧ Same x (C.encode T v)) ↔ Fits C T x) :
    (∃ v, C.decode (.slice T) t = some v ∧ Same t (C.encode (.slice T) v)) ↔
      Fits C (.slice T) t := by
  have hitems := encode_decode_items_iff ih
  constructor
  · rintro ⟨v, hv, hsame⟩
    cases t with
    | scalar x =>
      cases x with
      | null =>
        cases hv
        cases same_scalar_iff.1 hsame
      | bool | int | float | str | timestamp => cases hv
    | seq items =>
      obtain ⟨values, hvalues, rfl⟩ := Option.map_eq_some_iff.1 hv
      exact ⟨items, rfl, (hitems items).1 ⟨values, hvalues, same_seq_iff.1 hsame⟩⟩
    | map => cases hv
  · rintro ⟨items, rfl, hfits⟩
    obtain ⟨values, hvalues, hsame⟩ := (hitems items).2 hfits
    exact ⟨.slice values, Option.map_eq_some_iff.2 ⟨values, hvalues, rfl⟩, .seq hsame⟩

/-- A struct, when it is known of its fields. -/
theorem encode_decode_struct_iff {fields : Fields}
    (ih : ∀ m, (∃ values, C.decodeFields fields m = some values ∧ ∀ key ∈ fields.keys,
      Option.Rel Same (get m (.str key)) (get (C.encodeFields fields values) (.str key))) ↔
        FieldsFit C fields m) :
    (∃ v, C.decode (.struct fields) t = some v ∧ Same t (C.encode (.struct fields) v)) ↔
      Fits C (.struct fields) t := by
  constructor
  · rintro ⟨v, hv, hsame⟩
    cases t with
    | scalar x =>
      cases x with
      | null =>
        cases hv
        cases same_scalar_iff.1 hsame
      | bool | int | float | str | timestamp => cases hv
    | seq => cases hv
    | map m =>
      obtain ⟨values, hvalues, rfl⟩ := Option.map_eq_some_iff.1 hv
      have hrel := same_map_iff.1 hsame
      refine ⟨m, rfl, fun e he => ?_, (ih m).1 ⟨values, hvalues, fun key _ => hrel _⟩⟩
      by_contra hnot
      push Not at hnot
      have hget := hrel e.1
      rw [get_encodeFields_of_notMem hnot] at hget
      cases hm : get m e.1 with
      | none => exact get_eq_none_iff.1 hm e he rfl
      | some t =>
        rw [hm] at hget
        cases hget
  · rintro ⟨m, rfl, hkeys, hfit⟩
    obtain ⟨values, hvalues, hrel⟩ := (ih m).2 hfit
    refine ⟨.struct values, Option.map_eq_some_iff.2 ⟨values, hvalues, rfl⟩,
      same_map_iff.2 fun k => ?_⟩
    by_cases hk : ∃ key ∈ fields.keys, k = .str key
    · obtain ⟨key, hkey, rfl⟩ := hk
      exact hrel key hkey
    · have hnone : get m k = none := get_eq_none_iff.2 fun e he heq => hk (heq ▸ hkeys e he)
      push Not at hk
      rw [hnone, get_encodeFields_of_notMem hk]
      exact .none

mutual

/-- A document is the same after both if and only if it fits the type. -/
theorem encode_decode_iff (hC : C.Documented) : ∀ {T : GoType}, T.distinct = true → ∀ {t : Tree},
    (∃ v, C.decode T t = some v ∧ Same t (C.encode T v)) ↔ Fits C T t
  | .string, _, _ => encode_decode_string_iff hC
  | .bool, _, _ => encode_decode_bool_iff hC
  | .int, _, _ => encode_decode_int_iff hC
  | .untyped, _, _ => encode_decode_untyped_iff hC
  | .stringMap, _, _ => encode_decode_stringMap_iff hC
  | .pointer T, hT, _ =>
    encode_decode_pointer_iff fun x => encode_decode_iff hC (T := T) hT (t := x)
  | .slice T, hT, _ =>
    encode_decode_slice_iff fun x => encode_decode_iff hC (T := T) hT (t := x)
  | .struct fields, hT, _ =>
    encode_decode_struct_iff fun m => @encode_decodeFields_iff hC fields hT m

theorem encode_decodeFields_iff (hC : C.Documented) :
    ∀ {fields : Fields}, fields.distinct = true → ∀ {m : Entries},
    (∃ values, C.decodeFields fields m = some values ∧ ∀ key ∈ fields.keys,
      Option.Rel Same (get m (.str key)) (get (C.encodeFields fields values) (.str key))) ↔
        FieldsFit C fields m
  | .nil, _, m => iff_of_true ⟨[], rfl, nofun⟩ trivial
  | .cons key omitempty T rest, hfields, m => by
    simp only [Fields.distinct, Bool.and_eq_true, Bool.not_eq_true', List.contains_eq_mem,
      decide_eq_false_iff_not] at hfields
    obtain ⟨⟨hkey, hT⟩, hrest⟩ := hfields
    have hne : ∀ key' ∈ rest.keys, Scalar.str key' ≠ .str key := fun key' hmem heq =>
      hkey (Scalar.str.inj heq ▸ hmem)
    rw [FieldsFit, ← @encode_decodeFields_iff hC rest hrest,
      ← rel_field_iff hC fun x => encode_decode_iff hC (T := T) hT]
    constructor
    · rintro ⟨values, hvalues, hrel⟩
      obtain ⟨v, values, hv, hvalues', rfl⟩ := decodeFields_cons_eq_some.1 hvalues
      obtain ⟨hfirst, hrel⟩ := List.forall_mem_cons.1 hrel
      rw [get_encodeFields_cons_self hkey] at hfirst
      refine ⟨⟨v, hv, hfirst⟩, values, hvalues', fun key' hmem => ?_⟩
      rw [← get_encodeFields_cons_of_ne (hne key' hmem)]
      exact hrel key' hmem
    · rintro ⟨⟨v, hv, hfirst⟩, values, hvalues, hrel⟩
      refine ⟨v :: values, decodeFields_cons_eq_some.2 ⟨v, values, hv, hvalues, rfl⟩,
        List.forall_mem_cons.2 ⟨?_, fun key' hmem => ?_⟩⟩
      · rw [get_encodeFields_cons_self hkey]
        exact hfirst
      · rw [get_encodeFields_cons_of_ne (hne key' hmem)]
        exact hrel key' hmem

end

end Decode

/-! ## What is sent as JSON -/

mutual

/-- The untyped values of a document can be written as JSON. -/
def MarshalsAs : GoType → Tree → Prop
  | .untyped, t => t.marshals
  | .pointer T, t => t = .scalar .null ∨ MarshalsAs T t
  | .slice T, t => ∀ items, t = .seq items → ∀ x ∈ items, MarshalsAs T x
  | .stringMap, t => ∀ m, t = .map m → ∀ k t', get m k = some t' → t'.marshals
  | .struct fields, t => ∀ m, t = .map m → FieldsMarshal fields m
  | _, _ => True

/-- What the mapping has for the fields is marshalled as it is. -/
def FieldsMarshal : Fields → Entries → Prop
  | .nil, _ => True
  | .cons key _ T rest, m =>
    (∀ t, get m (.str key) = some t → MarshalsAs T t) ∧ FieldsMarshal rest m

end

section Marshal

variable {C : Conversions}

mutual

theorem marshals_zero : ∀ T : GoType, T.zero.marshals = true
  | .string | .bool | .int | .untyped | .pointer _ | .slice _ | .stringMap => rfl
  | .struct fields => valuesMarshal_zero fields

theorem valuesMarshal_zero : ∀ fields : Fields, valuesMarshal fields.zero = true
  | .nil => rfl
  | .cons _ _ T rest => by
    rw [Fields.zero, valuesMarshal, marshals_zero T, valuesMarshal_zero rest]
    rfl

end

/-- What is decoded without a type is written as JSON if its text can be. -/
theorem marshals_mapScalars (hC : C.Documented) (t : Tree) :
    (t.mapScalars C.resolve).marshals = t.marshals := by
  induction t using Tree.ind with
  | scalar x => exact hC.marshals_resolve x
  | seq items ih =>
    rw [Tree.mapScalars, mapItems_eq, Tree.marshals, Tree.marshals]
    induction items with
    | nil => rfl
    | cons t items ihl =>
      obtain ⟨hfirst, hrest⟩ := List.forall_mem_cons.1 ih
      rw [List.map_cons, allMarshal, allMarshal, hfirst, ihl hrest]
  | map m => rfl

theorem all_entries_iff (o : JsObject Tree) (p : Tree → Bool) :
    (o.entries.all fun e => p e.2) = true ↔ ∀ s t, o.get? s = some t → p t = true := by
  rw [List.all_eq_true]
  constructor
  · intro h s t ht
    obtain ⟨e, he, rfl⟩ := Option.map_eq_some_iff.1 ht
    exact h e (List.mem_of_find?_eq_some he)
  · exact fun h e he => h e.1 e.2 (JsObject.get?_of_mem he)

mutual

/-- What a document that fits is decoded to is written as JSON if its untyped values can be. -/
theorem marshals_iff_of_fits (hC : C.Documented) : ∀ {T : GoType} {t : Tree} {v : GoValue},
    Fits C T t →
    C.decode T t = some v → (v.marshals = true ↔ MarshalsAs T t)
  | .string, _, _, ⟨s, ht⟩, hv => by
    subst ht
    cases (decode_string hC s).symm.trans hv
    exact iff_of_true rfl trivial
  | .bool, _, _, ⟨b, ht⟩, hv => by
    subst ht
    cases (decode_bool hC b).symm.trans hv
    exact iff_of_true rfl trivial
  | .int, _, _, ⟨n, ht, hn⟩, hv => by
    subst ht
    cases (decode_int hC n hn).symm.trans hv
    exact iff_of_true rfl trivial
  | .untyped, t, _, _, hv => by
    cases hv
    rw [GoValue.marshals, MarshalsAs, marshals_mapScalars hC]
  | .pointer T, t, _, hfits, hv => by
    by_cases hnull : t = .scalar .null
    · subst hnull
      cases hv
      exact iff_of_true rfl (Or.inl rfl)
    · rw [decode_pointer hnull] at hv
      obtain ⟨v, hv', rfl⟩ := Option.map_eq_some_iff.1 hv
      rw [MarshalsAs, or_iff_right hnull, GoValue.marshals]
      exact marshals_iff_of_fits hC (hfits.resolve_left hnull) hv'
  | .slice T, _, _, ⟨items, ht, hfits⟩, hv => by
    subst ht
    obtain ⟨values, hvalues, rfl⟩ := Option.map_eq_some_iff.1 hv
    rw [GoValue.marshals, MarshalsAs]
    simp only [Tree.seq.injEq, forall_eq']
    clear hv
    induction items generalizing values with
    | nil =>
      cases hvalues
      exact iff_of_true rfl nofun
    | cons x items ih =>
      obtain ⟨v, values', hv, hvalues', rfl⟩ := mapM_cons_eq_some.1 hvalues
      obtain ⟨hfirst, hrest⟩ := List.forall_mem_cons.1 hfits
      rw [valuesMarshal, Bool.and_eq_true, List.forall_mem_cons, ih hrest values' hvalues',
        marshals_iff_of_fits hC hfirst hv]
  | .stringMap, _, _, ⟨m, ht, hkeys, _⟩, hv => by
    subst ht
    cases hv
    rw [GoValue.marshals, MarshalsAs, all_entries_iff]
    simp only [Tree.map.injEq, forall_eq', get?_decodeMap hC _ _ hkeys, Option.map_eq_some_iff,
      forall_exists_index, and_imp, forall_apply_eq_imp_iff₂, marshals_mapScalars hC]
    refine ⟨fun h k t ht => ?_, fun h s => h (.str s)⟩
    obtain ⟨s, rfl⟩ : ∃ s, k = .str s := hkeys _ (mem_of_get ht)
    exact h s t ht
  | .struct fields, _, _, ⟨m, ht, _, hfields⟩, hv => by
    subst ht
    obtain ⟨values, hvalues, rfl⟩ := Option.map_eq_some_iff.1 hv
    rw [GoValue.marshals, MarshalsAs, valuesMarshal_iff_of_fieldsFit hC hfields hvalues]
    simp

theorem valuesMarshal_iff_of_fieldsFit (hC : C.Documented) : ∀ {fields : Fields} {m : Entries}
    {values : List GoValue}, FieldsFit C fields m → C.decodeFields fields m = some values →
      (valuesMarshal values = true ↔ FieldsMarshal fields m)
  | .nil, m, values, _, hvalues => by
    cases hvalues
    exact iff_of_true rfl trivial
  | .cons key omitempty T rest, m, values, ⟨hfield, hrest⟩, hvalues => by
    obtain ⟨v, values, hv, hvalues', rfl⟩ := decodeFields_cons_eq_some.1 hvalues
    rw [valuesMarshal, Bool.and_eq_true, FieldsMarshal,
      valuesMarshal_iff_of_fieldsFit hC hrest hvalues']
    refine and_congr ?_ Iff.rfl
    obtain ⟨hnone, -⟩ | ⟨t, hsome, hfits, -⟩ := hfield
    · rw [hnone] at hv ⊢
      obtain rfl : T.zero = v := Option.some.inj hv
      simp [marshals_zero]
    · rw [hsome] at hv ⊢
      simp [marshals_iff_of_fits hC hfits hv]

end

end Marshal

/-! ## Another value for a field -/

section Put

variable {C : Conversions}

/-- The values of a struct with one changed. -/
def setField (key : String) (f : GoValue → GoValue) : Fields → List GoValue → List GoValue
  | .cons key' _ _ rest, v :: values =>
    if key' = key then f v :: values else v :: setField key f rest values
  | _, values => values

/-- The type of the field with the key. -/
def Fields.type? (key : String) : Fields → Option GoType
  | .nil => none
  | .cons key' _ T rest => if key' = key then some T else rest.type? key

theorem decodeFields_put_of_notMem {key : String} {m : Entries} {t : Tree} : ∀ {fields : Fields},
    key ∉ fields.keys → C.decodeFields fields (put m (.str key) t) = C.decodeFields fields m
  | .nil, _ => rfl
  | .cons key' omitempty T rest, hkey => by
    obtain ⟨hne, hrest⟩ : key ≠ key' ∧ key ∉ rest.keys := by simpa [Fields.keys] using hkey
    have hkey' : Scalar.str key' ≠ .str key := fun h => hne (Scalar.str.inj h).symm
    rw [Conversions.decodeFields, Conversions.decodeFields, get_put, if_neg hkey',
      decodeFields_put_of_notMem hrest]

/-- To decode a document with another value for a key is to change the field. -/
theorem decodeFields_put {key : String} {m : Entries} {t : Tree} {f : GoValue → GoValue} :
    ∀ {fields : Fields}, fields.distinct = true →
      (∀ T, fields.type? key = some T → ∃ v, (get m (.str key)).elim (some T.zero)
        (fun t => C.decode T t) = some v ∧ C.decode T t = some (f v)) →
      C.decodeFields fields (put m (.str key) t) =
        (C.decodeFields fields m).map (setField key f fields)
  | .nil, _, _ => rfl
  | .cons key' omitempty T rest, hdistinct, hfield => by
    simp only [Fields.distinct, Bool.and_eq_true, Bool.not_eq_true', List.contains_eq_mem,
      decide_eq_false_iff_not] at hdistinct
    obtain ⟨⟨hkey, -⟩, hrest⟩ := hdistinct
    rw [Conversions.decodeFields, Conversions.decodeFields, get_put]
    by_cases heq : key' = key
    · subst heq
      obtain ⟨v, hv, ht⟩ := hfield T (by simp [Fields.type?])
      rw [if_pos rfl, decodeFields_put_of_notMem hkey, hv, Option.elim_some, ht]
      cases C.decodeFields rest m with
      | none => rfl
      | some values => exact congrArg some (if_pos rfl).symm
    · have hkey' : Scalar.str key' ≠ .str key := fun h => heq (Scalar.str.inj h)
      have ih := decodeFields_put hrest fun T' hT' => hfield T' (by simpa [Fields.type?, heq])
      rw [if_neg hkey', ih]
      cases (get m (.str key')).elim (some T.zero) fun t => C.decode T t with
      | none => rfl
      | some v =>
        cases C.decodeFields rest m with
        | none => rfl
        | some values => exact congrArg some (if_neg heq).symm

/-- A struct is not decoded if one of its fields is not. -/
theorem decodeFields_eq_none {key : String} {m : Entries} {t : Tree} {T : GoType}
    (ht : get m (.str key) = some t) (hdecode : C.decode T t = none) : ∀ {fields : Fields},
      fields.type? key = some T → C.decodeFields fields m = none
  | .nil, hT => nomatch hT
  | .cons key' omitempty T' rest, hT => by
    rw [Conversions.decodeFields]
    by_cases heq : key' = key
    · subst heq
      obtain rfl : T' = T := by simpa [Fields.type?] using hT
      rw [ht, Option.elim_some, hdecode]
      rfl
    · have hrest : rest.type? key = some T := by simpa [Fields.type?, heq] using hT
      rw [decodeFields_eq_none ht hdecode hrest]
      cases (get m (.str key')).elim (some T'.zero) fun t => C.decode T' t <;> rfl

end Put

end Yaml

end Lib
