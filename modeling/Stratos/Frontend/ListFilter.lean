import Mathlib.Data.List.Infix
import Stratos.Lib.JsObject
import Stratos.Lib.JsText
import Stratos.Lib.Lists

/-!
# The filters of a local list

A list that is fetched as a whole is filtered in the browser by the functions that
`getDataFunctionList` makes of the definitions of the list (`local-filtering-sorting.ts`). A filter
reads a value of every entity along a path, and keeps the entities whose value contains the text
that was typed, in any case.

`getValue` is asked to cast what it reads, but it does not pass that on along the path
(`getValue_false`). A number or `true` is then left as it is and has no `toUpperCase`, so that the
filter throws, whatever the other entities hold. It keeps what it should exactly where no entity has
such a value at the path (`keepsMatching_iff`).
-/

open Lib

namespace Stratos

namespace ListFilter

/-! ## Values -/

/-- A string, by its code units. -/
abbrev Text := List ℕ

/-- The code units of a text. -/
def unitsOf (s : String) : Text := s.toList.map Char.toNat

/-- The values that a row can hold. Of an object the text is what it is as a string. -/
inductive JsValue
  | undefined
  | null
  | bool (b : Bool)
  /-- A number, which is falsy where it is zero or `NaN`, and its text. -/
  | number (truthy : Bool) (text : Text)
  | string (s : Text)
  /-- An object, an array or a function, by its own properties and what `obj + ''` is. -/
  | object (properties : List (String × JsValue)) (text : Text)

/-- `!!value` -/
def JsValue.truthy : JsValue → Bool
  | undefined => false
  | null => false
  | bool b => b
  | number truthy _ => truthy
  | string s => s ≠ []
  | object _ _ => true

/-- `value + ''` -/
def JsValue.text : JsValue → Text
  | undefined => unitsOf "undefined"
  | null => unitsOf "null"
  | bool b => unitsOf (if b then "true" else "false")
  | number _ text => text
  | string s => s
  | object _ text => text

/-- The value is a string, which has `toUpperCase`. -/
def JsValue.isString : JsValue → Bool
  | string _ => true
  | _ => false

/-- What is read of the language and not spelled out. -/
structure Runtime where
  /-- The case mapping of Unicode. -/
  toUpperCase : Text → Text
  /-- What a value has from its prototype under a name. -/
  inherited : JsValue → String → JsValue

/-- An entity of a list, a plain object. -/
structure Entity where
  properties : List (String × JsValue)

/-- The row as a value. -/
def Entity.value (e : Entity) : JsValue := .object e.properties (unitsOf "[object Object]")

/-- The own property of a string : a code unit, or its length. -/
def ownOfString (s : Text) (field : String) : Option JsValue :=
  if field = "length" then
    some (.number (s ≠ []) ((JsText.decimal s.length).map Char.toNat))
  else ((JsObject.arrayIndex? field).bind (s[·]?)).map fun unit => .string [unit]

/-- `obj[field]`, `none` where it throws. -/
def JsValue.member (js : Runtime) (obj : JsValue) (field : String) : Option JsValue :=
  match obj with
  | undefined => none
  | null => none
  | string s => some ((ownOfString s field).getD (js.inherited obj field))
  | object properties _ => some ((properties.lookup field).getD (js.inherited obj field))
  | _ => some (js.inherited obj field)

/-! ## The code -/

/-- What a function of a list does. -/
inductive DataFunctionType
  | sort
  | filter

/-- The definition of a function of a list. -/
structure DataFunctionDefinition where
  type : DataFunctionType
  orderKey : Option String
  field : String

/-- What is read of the pagination section of the list. -/
structure ListPagination where
  /-- `clientPagination.filter.string` -/
  filterString : Text
  /-- `params['order-direction-field']` -/
  orderDirectionField : Option String
  /-- `params['order-direction']` -/
  orderDirection : Option String

/-- What a list goes through before it is cut into pages. A throw is `none`. -/
abbrev DataFunction := List Entity → ListPagination → Option (List Entity)

/-- The names on the way to the field. -/
def getFieldArray (definition : DataFunctionDefinition) : List String :=
  (definition.field.toList.splitOn '.').map String.ofList

section Code

variable (js : Runtime)

/-- `getValue`, on the names of `fieldArray` from `index` on. -/
def getValue (obj : JsValue) (fieldArray : List String) (castToString : Bool) : Option JsValue :=
  match fieldArray with
  | [] => some (if castToString then .string obj.text else obj)
  | field :: rest =>
    if field = "" then some (if castToString then .string obj.text else obj)
    else (obj.member js field).bind fun value =>
      if value.truthy then getValue value rest false else some (.string [])

/-- `value.toUpperCase()`, which only a string has. -/
def upperCase : JsValue → Option Text
  | .string s => some (js.toUpperCase s)
  | _ => none

/-- Whether an entity with the value is kept. -/
def keeps (upperCaseFilter : Text) (value : JsValue) : Option Bool :=
  if value.truthy then (upperCase js value).map fun text => upperCaseFilter <:+: text
  else some false

/-- The function that keeps the rows with the text of the filter. Throws where `getValue` gives no
string. -/
def getFilterFunction (definition : DataFunctionDefinition) : DataFunction :=
  fun entities paginationState =>
    let upperCaseFilter := js.toUpperCase paginationState.filterString
    entities.filterM fun e =>
      (getValue js e.value (getFieldArray definition) true).bind (keeps js upperCaseFilter)

/-- A function of the list, or the definition of one. -/
inductive EntityFunction
  | function (f : DataFunction)
  | definition (d : DataFunctionDefinition)

/-- `getDataFunctionList`, whatever `getSortFunction` makes of the sort definitions. -/
def getDataFunctionList (getSortFunction : DataFunctionDefinition → DataFunction)
    (entityFunctions : List EntityFunction) : List DataFunction :=
  entityFunctions.map fun functionOrDef =>
    match functionOrDef with
    | .definition d =>
      match d.type with
      | .sort => getSortFunction d
      | .filter => getFilterFunction js d
    | .function f => f

end Code

/-! ## What a filter should keep -/

/-- The names of a field, up to one that is empty. -/
def fieldNames (field : String) : List String :=
  ((field.toList.splitOn '.').map String.ofList).takeWhile (· ≠ "")

/-- The value at a path, where it and all on the way are there and truthy. -/
def valueAt (js : Runtime) : JsValue → List String → Option JsValue
  | obj, [] => if obj.truthy then some obj else none
  | obj, field :: rest =>
    if obj.truthy then (obj.member js field).bind fun value => valueAt js value rest else none

/-- The value of the entity is there, and contains the text in any case. -/
def hasText (js : Runtime) (field : String) (filterString : Text) (e : Entity) : Bool :=
  (valueAt js e.value (fieldNames field)).any fun value =>
    js.toUpperCase filterString <:+: js.toUpperCase value.text

/-- The value of the entity is a string, where it is there. -/
def readsString (js : Runtime) (field : String) (e : Entity) : Bool :=
  (valueAt js e.value (fieldNames field)).all JsValue.isString

/-! ## The values that are read -/

/-- What `getValue` makes of the value at a path. -/
def found (value : Option JsValue) : JsValue := value.getD (.string [])

variable {js : Runtime}

theorem member_isSome (js : Runtime) {obj : JsValue} (h : obj.truthy = true) (field : String) :
    (obj.member js field).isSome = true := by
  cases obj with
  | undefined => cases h
  | null => cases h
  | _ => rfl

theorem valueAt_of_falsy {obj : JsValue} (h : obj.truthy = false) (names : List String) :
    valueAt js obj names = none := by
  cases names with
  | nil => simp [valueAt, h]
  | cons _ _ => simp [valueAt, h]

theorem truthy_of_valueAt {value : JsValue} : ∀ {obj : JsValue} {names : List String},
    valueAt js obj names = some value → value.truthy = true
  | obj, [], h => by
    obtain ⟨hobj, rfl⟩ : obj.truthy = true ∧ obj = value := by simpa [valueAt] using h
    exact hobj
  | obj, name :: names, h => by
    rw [valueAt, Option.ite_none_right_eq_some] at h
    obtain ⟨next, -, hnext⟩ := Option.bind_eq_some_iff.1 h.2
    exact truthy_of_valueAt hnext

/-- The step of `getValue` along a name. -/
theorem getValue_name {obj : JsValue} (h : obj.truthy = true) {field : String} (hfield : field ≠ "")
    (rest : List String) (castToString : Bool)
    (ih : ∀ value : JsValue, value.truthy = true →
      getValue js value rest false = some (found (valueAt js value (rest.takeWhile (· ≠ ""))))) :
    getValue js obj (field :: rest) castToString =
      some (found (valueAt js obj ((field :: rest).takeWhile (· ≠ "")))) := by
  obtain ⟨value, hvalue⟩ := Option.isSome_iff_exists.1 (member_isSome js h field)
  rw [getValue, if_neg hfield, hvalue, Option.bind_some,
    List.takeWhile_cons_of_pos (by simpa using hfield), valueAt, if_pos h, hvalue, Option.bind_some]
  cases htruthy : value.truthy with
  | true => rw [if_pos rfl, ih value htruthy]
  | false =>
    rw [valueAt_of_falsy htruthy]
    rfl

/-- Behind the first name, nothing is cast. -/
theorem getValue_false {obj : JsValue} (h : obj.truthy = true) (fieldArray : List String) :
    getValue js obj fieldArray false =
      some (found (valueAt js obj (fieldArray.takeWhile (· ≠ "")))) := by
  induction fieldArray generalizing obj with
  | nil => simp [getValue, valueAt, found, h]
  | cons field rest ih =>
    by_cases hfield : field = ""
    · simp [getValue, valueAt, found, h, hfield]
    · exact getValue_name h hfield rest false fun value hvalue => ih hvalue

theorem getValue_entity (e : Entity) (d : DataFunctionDefinition) :
    getValue js e.value (getFieldArray d) true =
      some (if fieldNames d.field = [] then .string e.value.text
        else found (valueAt js e.value (fieldNames d.field))) := by
  rw [fieldNames, ← getFieldArray]
  cases getFieldArray d with
  | nil => rfl
  | cons field rest =>
    by_cases hfield : field = ""
    · simp [getValue, hfield]
    · rw [if_neg (by simp [hfield])]
      exact getValue_name rfl hfield rest true fun value hvalue => getValue_false hvalue rest

/-! ## The entities that are kept -/

theorem keeps_found_none (upperCaseFilter : Text) :
    keeps js upperCaseFilter (found none) = some false :=
  rfl

/-- Only a string is compared, any other value throws. -/
theorem keeps_of_truthy (upperCaseFilter : Text) {value : JsValue} (h : value.truthy = true) :
    keeps js upperCaseFilter value =
      if value.isString then some (decide (upperCaseFilter <:+: js.toUpperCase value.text))
      else none := by
  rw [keeps, if_pos h]
  cases value with
  | string s => rfl
  | _ => rfl

/-- The decision of the filter on one entity. -/
theorem decide_entity (e : Entity) (d : DataFunctionDefinition) (filterString : Text) :
    (getValue js e.value (getFieldArray d) true).bind (keeps js (js.toUpperCase filterString)) =
      if fieldNames d.field = [] ∨ readsString js d.field e = true then
        some (hasText js d.field filterString e)
      else none := by
  rw [getValue_entity, Option.bind_some]
  by_cases hnames : fieldNames d.field = []
  · rw [if_pos hnames, if_pos (.inl hnames), hasText, hnames]
    rfl
  · rw [if_neg hnames, hasText, readsString]
    simp only [hnames, false_or]
    cases hvalue : valueAt js e.value (fieldNames d.field) with
    | none => rw [keeps_found_none]; rfl
    | some value => exact keeps_of_truthy _ (truthy_of_valueAt hvalue)

/-- The filter of the definition keeps exactly the entities that have the text, and throws for
none. -/
theorem getFilterFunction_eq_iff (d : DataFunctionDefinition) (entities : List Entity)
    (paginationState : ListPagination) :
    getFilterFunction js d entities paginationState =
        some (entities.filter (hasText js d.field paginationState.filterString)) ↔
      fieldNames d.field = [] ∨ ∀ e ∈ entities, readsString js d.field e = true := by
  simp only [getFilterFunction, decide_entity]
  rw [filterM_eq_some]
  constructor
  · rintro ⟨hsome, -⟩
    by_cases hnames : fieldNames d.field = []
    · exact .inl hnames
    · refine .inr fun e he => ?_
      have hdecided := hsome e he
      split_ifs at hdecided with hreads
      · exact hreads.resolve_left hnames
      · cases hdecided
  · intro h
    have hreads : ∀ e ∈ entities, fieldNames d.field = [] ∨ readsString js d.field e = true :=
      fun e he => h.imp_right fun h => h e he
    refine ⟨fun e he => ?_, List.filter_congr fun e he => ?_⟩
    · rw [if_pos (hreads e he)]
      rfl
    · rw [if_pos (hreads e he)]
      simp

/-! ## The functions of a list -/

/-- The function that `getDataFunctionList` builds of a filter definition, anywhere in a list, keeps
exactly the entities that have the text, in their order, and throws for none. -/
def KeepsMatching (js : Runtime) (getSortFunction : DataFunctionDefinition → DataFunction)
    (before after : List EntityFunction) (orderKey : Option String) (field : String)
    (paginationState : ListPagination) (entities : List Entity) : Prop :=
  ∃ f, (getDataFunctionList js getSortFunction
      (before ++ .definition ⟨.filter, orderKey, field⟩ :: after))[before.length]? = some f ∧
    f entities paginationState =
      some (entities.filter (hasText js field paginationState.filterString))

theorem getElem?_getDataFunctionList (getSortFunction : DataFunctionDefinition → DataFunction)
    (before after : List EntityFunction) (orderKey : Option String) (field : String) :
    (getDataFunctionList js getSortFunction
        (before ++ .definition ⟨.filter, orderKey, field⟩ :: after))[before.length]? =
      some (getFilterFunction js ⟨.filter, orderKey, field⟩) := by
  rw [getDataFunctionList, List.map_append, List.getElem?_append_right (by simp)]
  simp

/-- The filter keeps what it should exactly where every entity has a string at the path, or nothing.
-/
theorem keepsMatching_iff (js : Runtime) (getSortFunction : DataFunctionDefinition → DataFunction)
    (before after : List EntityFunction) (orderKey : Option String) (field : String)
    (paginationState : ListPagination) (entities : List Entity) :
    KeepsMatching js getSortFunction before after orderKey field paginationState entities ↔
      fieldNames field = [] ∨ ∀ e ∈ entities, readsString js field e = true := by
  rw [KeepsMatching, getElem?_getDataFunctionList,
    ← @getFilterFunction_eq_iff js ⟨.filter, orderKey, field⟩ entities paginationState]
  simp

/-- A runtime in which letters beyond ASCII have no case and nothing is inherited. -/
def asciiRuntime : Runtime where
  toUpperCase text := text.map fun unit => if 97 ≤ unit ∧ unit ≤ 122 then unit - 32 else unit
  inherited _ _ := .undefined

/-- A number below the entity has no `toUpperCase`. -/
theorem number_below_throws :
    ¬KeepsMatching asciiRuntime (fun _ entities _ => some entities) [] [] none "entity.instances"
      ⟨unitsOf "2", none, none⟩
      [⟨[("entity", .object [("instances", .number true (unitsOf "2"))] [])]⟩] := by
  rintro ⟨f, hf, hkept⟩
  rw [getElem?_getDataFunctionList] at hf
  obtain rfl := Option.some.inj hf
  exact absurd (congrArg Option.isSome hkept) (by decide)

end ListFilter

end Stratos
