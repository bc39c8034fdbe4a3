import Mathlib.Data.Rat.Init
import Stratos.Lib.JsObject

/-!
# ECMAScript values

The values that a JSON text is parsed to, and `undefined`. An object is the list of its fields,
where the last of equal keys counts (`JsObject.ofEntries`), as `JSON.parse` has it.

Any value has properties that a spread copies (`JsValue.properties`), those of an array or a string
under their indices. An object in the properties is smaller than the value (`sizeOf_get_lt`,
`sizeOf_of_mem_properties`), so that functions may recurse into it.
-/

namespace Lib

namespace JsObject

variable {α : Type*}

/-- The object with these entries. -/
def ofEntries (entries : List (String × α)) : JsObject α :=
  entries.foldl (fun o e => o.set e.1 e.2) empty

theorem mem_setEntry {k : String} {v : α} {e : String × α} {es : List (String × α)}
    (h : e ∈ setEntry k v es) : e = (k, v) ∨ e ∈ es := by
  induction es with
  | nil => exact Or.inl (List.mem_singleton.1 h)
  | cons e' es ih =>
    rw [setEntry] at h
    split_ifs at h
    · rcases List.mem_cons.1 h with heq | h
      · exact Or.inl heq
      · exact Or.inr (List.mem_cons_of_mem _ h)
    · rcases List.mem_cons.1 h with rfl | h
      · exact Or.inr List.mem_cons_self
      · exact (ih h).imp_right (List.mem_cons_of_mem _)

theorem mem_ofEntries {entries : List (String × α)} {e : String × α}
    (h : e ∈ (ofEntries entries).entries) : e ∈ entries := by
  have hfold : ∀ (entries : List (String × α)) (o : JsObject α),
      e ∈ (entries.foldl (fun o e => o.set e.1 e.2) o).entries → e ∈ o.entries ∨ e ∈ entries := by
    intro entries
    induction entries with
    | nil => exact fun o h => Or.inl h
    | cons e' entries ih =>
      intro o h
      rcases ih _ h with h | h
      · rcases mem_setEntry h with rfl | h
        · exact Or.inr List.mem_cons_self
        · exact Or.inl h
      · exact Or.inr (List.mem_cons_of_mem _ h)
  exact (hfold entries empty h).resolve_left List.not_mem_nil

theorem setEntry_of_notMem {k : String} {v : α} {es : List (String × α)}
    (h : k ∉ es.map Prod.fst) : setEntry k v es = es ++ [(k, v)] := by
  induction es with
  | nil => rfl
  | cons e es ih =>
    rw [List.map_cons, List.mem_cons, not_or] at h
    rw [setEntry, if_neg (Ne.symm h.1), ih h.2, List.cons_append]

theorem ofEntries_entries (o : JsObject α) : ofEntries o.entries = o := by
  have hfold : ∀ (entries : List (String × α)) (p : JsObject α),
      ((p.entries ++ entries).map Prod.fst).Nodup →
        (entries.foldl (fun o e => o.set e.1 e.2) p).entries = p.entries ++ entries := by
    intro entries
    induction entries with
    | nil => exact fun p _ => (List.append_nil _).symm
    | cons e entries ih =>
      intro p hnodup
      have hset : (p.set e.1 e.2).entries = p.entries ++ [e] := by
        refine setEntry_of_notMem fun hmem => ?_
        rw [List.map_append, List.map_cons] at hnodup
        exact (List.nodup_middle.1 hnodup).notMem (List.mem_append_left _ hmem)
      have hsplit : (p.set e.1 e.2).entries ++ entries = p.entries ++ e :: entries := by
        rw [hset, List.append_assoc]
        rfl
      rw [List.foldl_cons, ih _ (by rwa [hsplit]), hsplit]
  exact JsObject.ext (hfold o.entries empty o.nodup)

theorem mem_iff_get? {o : JsObject α} {k : String} {v : α} :
    (k, v) ∈ o.entries ↔ o.get? k = some v := by
  constructor
  · exact get?_of_mem
  · intro h
    obtain ⟨e, he, rfl⟩ := Option.map_eq_some_iff.1 h
    have hkey : e.1 = k := by
      simpa using List.find?_some he
    subst hkey
    exact List.mem_of_find?_eq_some he

/-- A function that replaces every value gives an object with the same keys. -/
theorem exists_of_mapM_entries {g : String → α → Option α} {o : JsObject α}
    {es : List (String × α)} (h : (o.entries.mapM fun e => (g e.1 e.2).map (e.1, ·)) = some es) :
    ∃ p : JsObject α, p.entries = es ∧
      ∀ k v, o.get? k = some v → ∃ v', g k v = some v' ∧ p.get? k = some v' := by
  have hlist : ∀ entries es : List (String × α),
      (entries.mapM fun e => (g e.1 e.2).map (e.1, ·)) = some es →
        es.map Prod.fst = entries.map Prod.fst ∧
          ∀ k v, (k, v) ∈ entries → ∃ v', g k v = some v' ∧ (k, v') ∈ es := by
    intro entries
    induction entries with
    | nil =>
      rintro es h
      rw [List.mapM_nil] at h
      cases h
      exact ⟨rfl, fun k v h => absurd h List.not_mem_nil⟩
    | cons e entries ih =>
      intro es h
      rw [List.mapM_cons] at h
      obtain ⟨e', he', h⟩ := Option.bind_eq_some_iff.1 h
      obtain ⟨es', hes', h⟩ := Option.bind_eq_some_iff.1 h
      cases h
      obtain ⟨v', hv', rfl⟩ := Option.map_eq_some_iff.1 he'
      obtain ⟨hkeys, hmem⟩ := ih es' hes'
      refine ⟨by rw [List.map_cons, List.map_cons, hkeys], fun k v h => ?_⟩
      rcases List.mem_cons.1 h with rfl | h
      · exact ⟨v', hv', List.mem_cons_self⟩
      · obtain ⟨w, hw, hwmem⟩ := hmem k v h
        exact ⟨w, hw, List.mem_cons_of_mem _ hwmem⟩
  obtain ⟨hkeys, hmem⟩ := hlist o.entries es h
  refine ⟨⟨es, hkeys ▸ o.nodup⟩, rfl, fun k v hv => ?_⟩
  obtain ⟨v', hv', hmem'⟩ := hmem k v (mem_iff_get?.2 hv)
  exact ⟨v', hv', mem_iff_get?.1 hmem'⟩

end JsObject

/-- A value. -/
inductive JsValue
  | undefined
  | null
  | bool (b : Bool)
  | number (x : ℚ)
  | string (s : String)
  | array (items : List JsValue)
  | object (fields : List (String × JsValue))

namespace JsValue

/-- `!!value` -/
def truthy : JsValue → Bool
  | undefined | null => false
  | bool b => b
  | number x => x ≠ 0
  | string s => s ≠ ""
  | array _ | object _ => true

/-- `value === null` -/
def isNull : JsValue → Bool
  | null => true
  | _ => false

/-- `null` or `undefined`, of which no property can be read. -/
def nullish : JsValue → Bool
  | undefined | null => true
  | _ => false

/-- `value && typeof value === 'object'` -/
def isObject : JsValue → Bool
  | array _ | object _ => true
  | _ => false

/-- The own properties that `{...value}` copies. -/
def properties : JsValue → JsObject JsValue
  | object fields => .ofEntries fields
  | array items => .ofEntries (items.zipIdx.map fun p => (toString p.2, p.1))
  | string s => .ofEntries (s.toList.zipIdx.map fun p => (toString p.2, string p.1.toString))
  | _ => .empty

/-- `value[key]`, of a value that is not nullish. -/
def get (value : JsValue) (key : String) : JsValue := (value.properties.get? key).getD undefined

/-- `key in value`, of an object. -/
def has (value : JsValue) (key : String) : Bool := (value.properties.get? key).isSome

theorem get_object (o : JsObject JsValue) (key : String) :
    (object o.entries).get key = (o.get? key).getD undefined := by
  rw [get, properties, JsObject.ofEntries_entries]

theorem sizeOf_of_mem_properties {value v : JsValue} {key : String}
    (h : (key, v) ∈ value.properties.entries) (hv : v.isObject = true) :
    sizeOf v < sizeOf value := by
  cases value with
  | object fields =>
    have hmem := JsObject.mem_ofEntries h
    have hlt := List.sizeOf_lt_of_mem hmem
    simp only [Prod.mk.sizeOf_spec, object.sizeOf_spec] at hlt ⊢
    omega
  | array items =>
    obtain ⟨⟨item, i⟩, hitem, heq⟩ := List.mem_map.1 (JsObject.mem_ofEntries h)
    obtain ⟨-, rfl⟩ := Prod.mk.inj heq
    have hlt := List.sizeOf_lt_of_mem (List.fst_mem_of_mem_zipIdx hitem)
    rw [array.sizeOf_spec]
    dsimp only at hlt ⊢
    omega
  | string s =>
    obtain ⟨p, -, heq⟩ := List.mem_map.1 (JsObject.mem_ofEntries h)
    obtain ⟨-, rfl⟩ := Prod.mk.inj heq
    exact nomatch hv
  | undefined | null | bool b | number x => exact absurd h List.not_mem_nil

/-- The properties of an array are its elements, under their indices. -/
theorem has_array (items : List JsValue) {key : String} (h : ∃ c ∈ key.toList, c.isDigit = false) :
    (array items).has key = false := by
  rw [has, Option.isSome_eq_false_iff, Option.isNone_iff_eq_none]
  cases hget : (array items).properties.get? key with
  | none => rfl
  | some v =>
    obtain ⟨p, -, heq⟩ := List.mem_map.1 (JsObject.mem_ofEntries (JsObject.mem_iff_get?.2 hget))
    obtain ⟨rfl, -⟩ := Prod.mk.inj heq
    obtain ⟨c, hc, hdigit⟩ := h
    have hdigits : c ∈ Nat.toDigits 10 p.2 := by
      simpa [Nat.repr] using hc
    exact nomatch hdigit.symm.trans (Nat.isDigit_of_mem_toDigits (by decide) (by decide) hdigits)

/-- What has an object as a property is an object. -/
theorem isObject_of_mem_properties {value v : JsValue} {key : String}
    (h : (key, v) ∈ value.properties.entries) (hv : v.isObject = true) :
    value.isObject = true := by
  cases value with
  | object | array => rfl
  | string s =>
    obtain ⟨p, -, heq⟩ := List.mem_map.1 (JsObject.mem_ofEntries h)
    obtain ⟨-, rfl⟩ := Prod.mk.inj heq
    exact nomatch hv
  | undefined | null | bool b | number x => exact absurd h List.not_mem_nil

theorem mem_properties_of_get {value : JsValue} {key : String}
    (h : (value.get key).isObject = true) : (key, value.get key) ∈ value.properties.entries := by
  rw [get] at h ⊢
  cases hget : value.properties.get? key with
  | none =>
    rw [hget] at h
    exact nomatch h
  | some v =>
    exact JsObject.mem_iff_get?.2 hget

theorem sizeOf_get_lt {value : JsValue} {key : String} (h : (value.get key).isObject = true) :
    sizeOf (value.get key) < sizeOf value :=
  sizeOf_of_mem_properties (mem_properties_of_get h) h

end JsValue

end Lib
