import Mathlib.Data.List.Infix
import Stratos.Lib.JsNumber

/-!
# Structs

`json.Unmarshal` decodes an object into a struct property by property (`decodeStruct`). A property
is for the field whose key it has, or has up to case ; one that is for no field is passed over, and
`null` leaves a field as it is. A `json.Decoder` decodes the first value and does not look at what
follows it (`readFirst`) : where the whole text is an array, an object or a string, the two agree
(`readFirst_of_read`).
-/

namespace Lib

namespace Json

/-! ## The first value -/

/-- The value of the shortest text that is one. Of a number this is its first digit. -/
def readFirst (bytes : List UInt8) : Option Value := bytes.inits.findSome? read

/-- What the tokens begin with, when the lexer has come to `st`. -/
def LexState.Begins (st : LexState) (ts : List RawToken) : Prop :=
  match st.mode with
  | .word _ => ∃ w rest, ts = st.tokens ++ .word w :: rest
  | _ => st.tokens <+: ts

theorem begins_of_lexEnd {st : LexState} {ts : List RawToken} (h : lexEnd st = some ts) :
    st.Begins ts := by
  rcases st with ⟨_ | w | _ | _ | _, tokens⟩
  · obtain rfl := Option.some.inj h
    exact List.prefix_rfl
  · rw [lexEnd, flush] at h
    split_ifs at h with hw
    obtain rfl := Option.some.inj h
    exact ⟨⟨w, hw⟩, [], rfl⟩
  · cases h
  · cases h
  · cases h

theorem prefix_of_begins_lexBetween {tokens ts : List RawToken} {b : UInt8}
    (h : (lexBetween tokens b).Begins ts) : tokens <+: ts := by
  rw [lexBetween] at h
  split_ifs at h
  · exact h
  · split at h
    · exact (List.prefix_append _ _).trans h
    · exact h
  · split at h
    · exact (List.prefix_append _ _).trans h
    · obtain ⟨w, rest, rfl⟩ := h
      exact List.prefix_append _ _

theorem begins_of_lexByte {st st' : LexState} {b : UInt8} {ts : List RawToken}
    (hstep : lexByte st b = some st') (h : st'.Begins ts) : st.Begins ts := by
  rcases st with ⟨_ | w | s | s | ⟨s, ds⟩, tokens⟩
  · obtain rfl := Option.some.inj hstep
    exact prefix_of_begins_lexBetween h
  · rw [lexByte] at hstep
    split_ifs at hstep
    · obtain rfl := Option.some.inj hstep
      exact h
    · obtain ⟨flushed, hflush, rfl⟩ := Option.map_eq_some_iff.1 hstep
      rw [flush] at hflush
      split_ifs at hflush with hw
      obtain rfl := Option.some.inj hflush
      obtain ⟨rest, rfl⟩ := prefix_of_begins_lexBetween h
      exact ⟨⟨w, hw⟩, rest, List.append_assoc ..⟩
  · rw [lexByte] at hstep
    split_ifs at hstep <;> obtain rfl := Option.some.inj hstep
    · exact (List.prefix_append _ _).trans h
    · exact h
    · exact h
  · rw [lexByte] at hstep
    split at hstep
    · obtain rfl := Option.some.inj hstep
      exact h
    · split_ifs at hstep
      obtain rfl := Option.some.inj hstep
      exact h
  · rw [lexByte] at hstep
    split_ifs at hstep
    split at hstep <;> obtain rfl := Option.some.inj hstep <;> exact h

theorem begins_of_lexBytes {st st' : LexState} {bytes : List UInt8} {ts : List RawToken}
    (hrun : lexBytes st bytes = some st') (h : st'.Begins ts) : st.Begins ts := by
  induction bytes generalizing st with
  | nil =>
    obtain rfl := Option.some.inj hrun
    exact h
  | cons b bytes ih =>
    obtain ⟨st₁, hstep, hrun⟩ := Option.bind_eq_some_iff.1 hrun
    exact begins_of_lexByte hstep (ih hrun)

/-- After a value nothing is taken. -/
theorem eq_nil_of_parseTokens_done {v v' : Value} {ts : List TextToken}
    (h : parseTokens (.done v []) ts = some (.done v' [])) : ts = [] ∧ v = v' := by
  rcases ts with _ | ⟨t, ts⟩
  · cases h
    exact ⟨rfl, rfl⟩
  · cases h

/-- Only at the start is a value expected outside arrays and objects. -/
theorem eq_nil_of_parseTokens_value {ts : List TextToken}
    (h : parseTokens (.value []) ts = some (.value [])) : ts = [] := by
  have hvalue : ∀ {k : List Open} {t : TextToken}, valueToken k t ≠ some (.value []) := by
    intro k t ht
    rcases t with (_ | _ | _ | _ | _ | _) | w | s <;> cases ht
  rcases List.eq_nil_or_concat ts with rfl | ⟨ts, t, rfl⟩
  · rfl
  · rw [List.concat_eq_append, parseTokens_append] at h
    obtain ⟨st, -, hstep⟩ := Option.bind_eq_some_iff.1 h
    rw [parseTokens_cons] at hstep
    obtain ⟨st', ht, hst⟩ := Option.bind_eq_some_iff.1 hstep
    obtain rfl := Option.some.inj hst
    rcases st with k | k | k | ⟨fields, k⟩ | ⟨fields, key, k⟩ | ⟨v, k⟩
    · exact (hvalue ht).elim
    · by_cases hclose : t = .punct .bracketClose
      · subst hclose
        cases ht
      · rw [parseToken_firstItem _ hclose] at ht
        exact (hvalue ht).elim
    · rcases t with (_ | _ | _ | _ | _ | _) | w | s <;> cases ht
    · rcases t with (_ | _ | _ | _ | _ | _) | w | s <;> cases ht
    · rcases t with (_ | _ | _ | _ | _ | _) | w | s <;> cases ht
    · rcases k with _ | ⟨items | ⟨fields, key⟩, k⟩ <;>
        rcases t with (_ | _ | _ | _ | _ | _) | w | s <;> cases ht

/-- A word that is the whole value is the first token. -/
theorem eq_value_of_parseToken_word {st : ParseState} {w : Word} {v : Value}
    (h : parseToken st (.word w) = some (.done v [])) : st = .value [] := by
  rcases st with k | k | k | ⟨fields, k⟩ | ⟨fields, key, k⟩ |
    ⟨v, _ | ⟨items | ⟨fields, key⟩, k⟩⟩ <;> cases h
  rfl

/-- A text that goes on to another value than a word is no value before. -/
theorem read_eq_of_read_append {bytes rest : List UInt8} {v v' : Value}
    (h : read (bytes ++ rest) = some v) (hv : ∀ w, v ≠ .word w) (hbytes : read bytes = some v') :
    v' = v := by
  obtain ⟨tokens, hlex, hparse⟩ := Option.bind_eq_some_iff.1 h
  obtain ⟨tokens', hlex', hparse'⟩ := Option.bind_eq_some_iff.1 hbytes
  obtain ⟨st', hrun', hend'⟩ := Option.bind_eq_some_iff.1 hlex'
  rw [lex, lexBytes_append, hrun', Option.bind_some] at hlex
  obtain ⟨st, hrun, hend⟩ := Option.bind_eq_some_iff.1 hlex
  have hbegins := begins_of_lexBytes hrun (begins_of_lexEnd hend)
  rw [parse_eq_some] at hparse hparse'
  rcases st' with ⟨_ | w | _ | _ | _, tokens₁⟩
  · obtain rfl := Option.some.inj hend'
    obtain ⟨more, rfl⟩ := hbegins
    rw [List.map_append, parseTokens_append, hparse'] at hparse
    exact (eq_nil_of_parseTokens_done hparse).2
  · -- The first value is a word, which starts the other value too.
    rw [lexEnd, flush] at hend'
    split_ifs at hend' with hw
    obtain rfl := Option.some.inj hend'
    obtain ⟨w', more, rfl⟩ := hbegins
    rw [List.map_append, parseTokens_append] at hparse'
    obtain ⟨st₁, hst₁, hword⟩ := Option.bind_eq_some_iff.1 hparse'
    have hvalue : parseToken st₁ (.word ⟨w, hw⟩) = some (.done v' []) := by
      rw [List.map_cons, List.map_nil, parseTokens_cons] at hword
      obtain ⟨st₂, hst₂, hdone⟩ := Option.bind_eq_some_iff.1 hword
      exact hst₂.trans hdone
    obtain rfl := eq_value_of_parseToken_word hvalue
    obtain rfl : tokens₁ = [] := List.map_eq_nil_iff.1 (eq_nil_of_parseTokens_value hst₁)
    exact (hv w' (eq_nil_of_parseTokens_done hparse).2.symm).elim
  · cases hend'
  · cases hend'
  · cases hend'

/-- A text that is one value but a word has it as its first. -/
theorem readFirst_of_read {bytes : List UInt8} {v : Value} (h : read bytes = some v)
    (hv : ∀ w, v ≠ .word w) : readFirst bytes = some v := by
  rw [readFirst]
  rcases hfirst : bytes.inits.findSome? read with _ | v'
  · have hnone := List.findSome?_eq_none_iff.1 hfirst bytes ((List.mem_inits _ _).2 List.prefix_rfl)
    rw [h] at hnone
    cases hnone
  · obtain ⟨first, hmem, hread⟩ := List.exists_of_findSome?_eq_some hfirst
    obtain ⟨rest, rfl⟩ := (List.mem_inits _ _).1 hmem
    exact congrArg some (read_eq_of_read_append h hv hread)

/-! ## Fields -/

/-- A field, with what a value stores there. -/
structure StructField (S : Type) where
  key : String
  store : Value → S → Option S

/-- `foldFunc` : besides the letters of ASCII, the long s and the Kelvin sign have case. -/
def foldChar (c : Char) : Char :=
  if c = Char.ofNat 0x17f then 's' else if c = Char.ofNat 0x212a then 'k' else c.toLower

section Struct

variable {S : Type}

/-- The field of a key, by its own spelling or by letters that fold to it. -/
def fieldFor (fields : List (StructField S)) (key : String) : Option (StructField S) :=
  (fields.find? fun f => f.key = key).or
    (fields.find? fun f => f.key.toList.map foldChar = key.toList.map foldChar)

/-- The property stored, if there is a field for it. -/
def storeProperty (fields : List (StructField S)) (s : S) (p : List TextUnit × Value) : Option S :=
  match fieldFor fields (goText p.1) with
  | some f => f.store p.2 s
  | none => some s

/-- What `zero` becomes. A value of a wrong type is an error. -/
def decodeStruct (fields : List (StructField S)) (zero : S) : Value → Option S
  | .obj properties => properties.foldlM (storeProperty fields) zero
  | .word w => if w.1 = nullBytes then some zero else none
  | _ => none

/-- A field that is a string. -/
def storeString (set : String → S → S) : Value → S → Option S
  | .str t, s => some (set (goText t) s)
  | .word w, s => if w.1 = nullBytes then some s else none
  | _, _ => none

/-- A field that is an `int`. -/
def storeInt (set : ℤ → S → S) : Value → S → Option S
  | .word w, s =>
    if w.1 = nullBytes then some s
    else if isLiteral w.1 then none
    else (atoi w.1).map (set · s)
  | _, _ => none

/-- A field of type `*int`. -/
def storeIntPointer (set : Option ℤ → S → S) : Value → S → Option S
  | .word w, s =>
    if w.1 = nullBytes then some (set none s) else storeInt (fun n => set (some n)) (.word w) s
  | v, s => storeInt (fun n => set (some n)) v s

/-- A field that is a `bool`. -/
def storeBool (set : Bool → S → S) : Value → S → Option S
  | .word w, s =>
    if w.1 = nullBytes then some s
    else if isLiteral w.1 then some (set (w.1.head? = some 0x74) s)
    else none
  | _, _ => none

/-- An element of a `[]string`. -/
def stringElement (v : Value) : Option String := storeString (fun t _ => t) v ""

/-- A field that is a slice of strings. -/
def storeStrings (set : List String → S → S) : Value → S → Option S
  | .arr items, s => (items.mapM stringElement).map (set · s)
  | .word w, s => if w.1 = nullBytes then some (set [] s) else none
  | _, _ => none

end Struct

/-! ## What ECMAScript writes

The properties of a plain object, as `JSON.stringify` writes them and as they are decoded. -/

/-- What a client writes. -/
inductive Written
  | null
  | bool (b : Bool)
  | number (n : ℤ)
  | numeral (x : JsNumber)
  | string (s : String)
  | strings (l : List String)

namespace Written

/-- The text of a value. -/
def render : Written → List Char
  | null => "null".toList
  | bool b => if b then "true".toList else "false".toList
  | number n => JsText.decimal n
  | numeral x => x.toText
  | string s => JsText.quote s.toList
  | strings l => JsText.array (fun s => JsText.quote s.toList) l

theorem isWord_null : IsWord nullBytes := by
  decide

/-- The word `null`. -/
def nullWord : Word := ⟨nullBytes, isWord_null⟩

/-- The word of a boolean. -/
def boolWord (b : Bool) : Word :=
  ⟨if b then encodeText "true".toList else encodeText "false".toList, by cases b <;> decide⟩

/-- The token of a string. -/
def stringToken (s : String) : List RawToken := [.str (stringItems s.toList)]

/-- The tokens of a value. -/
def tokens : Written → List RawToken
  | null => [.word nullWord]
  | bool b => [.word (boolWord b)]
  | number n => [.word (integer n)]
  | numeral x => [.word x.word]
  | string s => stringToken s
  | strings l => arrayTokens (l.map stringToken)

/-- The value that the text is read as. -/
def value : Written → Value
  | null => .word nullWord
  | bool b => .word (boolWord b)
  | number n => .word (integer n)
  | numeral x => .word x.word
  | string s => .str (meaning (stringItems s.toList))
  | strings l => .arr (l.map fun s => .str (meaning (stringItems s.toList)))

theorem encodeText_stringToken (s : String) :
    encodeText (JsText.quote s.toList) = write (stringToken s) :=
  (encodeText_quote s.toList).trans (List.append_nil _).symm

theorem encodeText_render (v : Written) : encodeText v.render = write v.tokens := by
  cases v with
  | null => decide
  | bool b => cases b <;> decide
  | number n => exact (encodeText_decimal n).trans (List.append_nil _).symm
  | numeral x => exact (List.append_nil _).symm
  | string s => exact encodeText_stringToken s
  | strings l => exact encodeText_array encodeText_stringToken l

theorem isValue_stringTokens (l : List String) : ∀ t ∈ l.map stringToken, IsValue t := by
  intro t ht
  obtain ⟨s, -, rfl⟩ := List.mem_map.1 ht
  exact isValue_str _

theorem isValue_tokens (v : Written) : IsValue v.tokens := by
  cases v with
  | null => exact isValue_word _
  | bool b => exact isValue_word _
  | number n => exact isValue_word _
  | numeral x => exact isValue_word _
  | string s => exact isValue_str _
  | strings l => exact isValue_arrayTokens (isValue_stringTokens l)

theorem valueOf_tokens (v : Written) : valueOf v.tokens = v.value := by
  cases v with
  | null => exact valueOf_word _
  | bool b => exact valueOf_word _
  | number n => exact valueOf_word _
  | numeral x => exact valueOf_word _
  | string s => exact valueOf_str _
  | strings l =>
    rw [tokens, valueOf_arrayTokens (isValue_stringTokens l), List.map_map]
    rfl

/-- A string, or null. -/
def optString (s : Option String) : Written := s.elim null string

/-- A number, or null. -/
def optNumeral (x : Option JsNumber) : Written := x.elim null numeral

/-- `JSON.stringify` of an object. -/
def stringify (properties : List (String × Written)) : List Char :=
  JsText.object render properties

/-- The object that is read. -/
def properties (properties : List (String × Written)) : List (List TextUnit × Value) :=
  properties.map fun p => (meaning (stringItems p.1.toList), p.2.value)

theorem read_stringify (ps : List (String × Written)) :
    read (encodeText (stringify ps)) = some (.obj (properties ps)) := by
  have hvalues : ∀ f ∈ ps.map (propertyTokens tokens), IsValue f.2 := by
    intro f hf
    obtain ⟨p, -, rfl⟩ := List.mem_map.1 hf
    exact isValue_tokens p.2
  have hproperties : (ps.map (propertyTokens tokens)).map (fun f => (meaning f.1, valueOf f.2)) =
      properties ps := by
    rw [List.map_map, properties]
    refine List.map_congr_left fun p _ => ?_
    exact congrArg (Prod.mk _) (valueOf_tokens p.2)
  rw [stringify, encodeText_object encodeText_render, ← hproperties]
  exact read_write (parse_objectTokens hvalues)

theorem readFirst_stringify (ps : List (String × Written)) :
    readFirst (encodeText (stringify ps)) = some (.obj (properties ps)) :=
  readFirst_of_read (read_stringify ps) fun _ h => by cases h

section Store

variable {S : Type} (s : S)

/-- A property of the object, in the struct. -/
def store (fields : List (StructField S)) (s : S) (p : String × Written) : Option S :=
  match fieldFor fields p.1 with
  | some f => f.store p.2.value s
  | none => some s

theorem decodeStruct_properties (fields : List (StructField S)) (ps : List (String × Written)) :
    decodeStruct fields s (.obj (properties ps)) = ps.foldlM (store fields) s := by
  rw [decodeStruct, properties, List.foldlM_map]
  refine congrArg (fun f => ps.foldlM f s) (funext fun s => funext fun p => ?_)
  rw [storeProperty, goText_stringItems]
  rfl

@[simp] theorem storeString_null (set : String → S → S) :
    storeString set null.value s = some s := by
  rw [value, storeString]
  exact if_pos rfl

@[simp] theorem storeString_string (set : String → S → S) (t : String) :
    storeString set (string t).value s = some (set t s) :=
  congrArg (fun t => some (set t s)) (goText_stringItems t)

/-- Null leaves the field empty. -/
@[simp] theorem storeString_optString (set : String → S → S) (t : Option String)
    (h : set "" s = s) : storeString set (optString t).value s = some (set (t.getD "") s) := by
  cases t with
  | none => exact (storeString_null s set).trans (congrArg some h.symm)
  | some t => exact storeString_string s set t

@[simp] theorem storeInt_null (set : ℤ → S → S) : storeInt set null.value s = some s := by
  rw [value, storeInt]
  exact if_pos rfl

theorem isLiteral_cons {d : UInt8} (hd : isDigit d = true ∨ d = 0x2d) (ds : List UInt8) :
    isLiteral (d :: ds) = false := by
  rw [isLiteral, Bool.eq_false_iff]
  intro h
  simp only [nullBytes, Bool.or_eq_true, decide_eq_true_eq, List.cons.injEq] at h
  rcases h with (h | h) | h <;> rcases h with ⟨rfl, -⟩ <;> revert hd <;> decide

theorem isLiteral_integer (n : ℤ) : isLiteral (integer n).1 = false := by
  cases n with
  | ofNat n =>
    obtain ⟨d, ds, hds, -⟩ := decimal_eq_cons n
    have hfirst := isDigit_of_mem_decimal (n := n) d (by rw [hds]; exact List.mem_cons_self)
    have hword : (integer (.ofNat n)).1 = d :: ds := hds
    rw [hword]
    exact isLiteral_cons (Or.inl hfirst) ds
  | negSucc n => exact isLiteral_cons (Or.inr rfl) _

theorem ne_nullBytes_of_isLiteral {w : Word} (h : isLiteral w.1 = false) : w.1 ≠ nullBytes := by
  intro hnull
  rw [hnull] at h
  cases h

theorem storeInt_number (set : ℤ → S → S) {n : ℤ} (h : -2 ^ 63 ≤ n ∧ n < 2 ^ 63) :
    storeInt set (number n).value s = some (set n s) := by
  have hliteral : ¬isLiteral (integer n).1 = true := by
    rw [isLiteral_integer]
    exact Bool.false_ne_true
  rw [value, storeInt, if_neg (ne_nullBytes_of_isLiteral (isLiteral_integer n)), if_neg hliteral,
    atoi_integer h]
  rfl

@[simp] theorem storeBool_bool (set : Bool → S → S) (b : Bool) :
    storeBool set (bool b).value s = some (set b s) := by
  cases b <;> rfl

@[simp] theorem storeStrings_strings (set : List String → S → S) (l : List String) :
    storeStrings set (strings l).value s = some (set l s) := by
  have hitems : (l.map fun s => Value.str (meaning (stringItems s.toList))).mapM stringElement =
      some l := by
    induction l with
    | nil => rfl
    | cons t l ih =>
      have hfirst : stringElement (.str (meaning (stringItems t.toList))) = some t :=
        storeString_string "" (fun t _ => t) t
      rw [List.map_cons, List.mapM_cons, hfirst, ih]
      rfl
  rw [value, storeStrings, hitems]
  rfl

end Store

end Written

end Json

end Lib
