import Stratos.Lib.JsonTokens

/-!
# Reading and writing JSON

`parse` builds a value from tokens, one token at a time, with a stack of the arrays and objects
that are open ; `read` is the value of a text. A run of the parser does not look below the stack
that it started with (`run_under`), so tokens that parse alone are a value wherever one is
expected : an object whose values are there is read (`parse_objectTokens`). The parser takes no
two words in a row (`separated_of_run`), so what is written of a value is read (`read_write`).

The strings of a value are sequences of text units. The same string can be written in more ways ;
`htmlEscape` writes it without what is special to HTML, and means the same
(`meaning_htmlEscape`), so `compact` keeps values (`compact_of_read`).
-/

namespace Lib

namespace Json

/-! ## The meaning of strings -/

/-- A unit of the text of a string. Surrogates are paired when the text is used. -/
inductive TextUnit
  | byte (b : UInt8)
  | surrogate (u : ℕ)
  deriving DecidableEq

/-- The bytes of a code point. -/
def utf8 (u : ℕ) : List UInt8 :=
  let tail (n : ℕ) : UInt8 := UInt8.ofNat (0x80 + n % 64)
  if u < 0x80 then [UInt8.ofNat u]
  else if u < 0x800 then [UInt8.ofNat (0xc0 + u / 64), tail u]
  else if u < 0x10000 then [UInt8.ofNat (0xe0 + u / 4096), tail (u / 64), tail u]
  else [UInt8.ofNat (0xf0 + u / 262144), tail (u / 4096), tail (u / 64), tail u]

/-- The code unit of four digits. -/
def codeUnit (h₁ h₂ h₃ h₄ : HexDigit) : ℕ :=
  ((h₁.value * 16 + h₂.value) * 16 + h₃.value) * 16 + h₄.value

/-- What an item of a string stands for. -/
def StrItem.meaning : StrItem → List TextUnit
  | plain b => [.byte b.1]
  | escape e => [.byte e.value]
  | unicode h₁ h₂ h₃ h₄ =>
    let u := codeUnit h₁ h₂ h₃ h₄
    if 0xd800 ≤ u ∧ u < 0xe000 then [.surrogate u] else (utf8 u).map .byte

/-- What a string stands for. -/
def meaning (s : List StrItem) : List TextUnit := s.flatMap StrItem.meaning

/-- A hexadecimal digit as a byte. -/
def hexByte (n : ℕ) : UInt8 := if n < 10 then UInt8.ofNat (0x30 + n) else UInt8.ofNat (0x57 + n)

theorem isHex_hexByte : ∀ n : Fin 16, isHex (hexByte n) = true := by
  decide

/-- The last hexadecimal digit of a number. -/
def hexDigit (n : ℕ) : HexDigit :=
  ⟨hexByte (n % 16), isHex_hexByte ⟨n % 16, Nat.mod_lt _ (by decide)⟩⟩

/-- The unicode escape of a number. -/
def unicodeOf (u : ℕ) : StrItem :=
  .unicode (hexDigit (u / 4096)) (hexDigit (u / 256)) (hexDigit (u / 16)) (hexDigit u)

theorem meaning_unicodeOf_ascii : ∀ u : Fin 128,
    (unicodeOf u).meaning = [.byte (UInt8.ofNat u)] := by
  decide

/-! ### What is special to HTML -/

/-- The characters that `encoding/json` escapes for HTML. -/
def isHtml (b : UInt8) : Bool := b = 0x3c || b = 0x3e || b = 0x26

/-- The item with such a character escaped. -/
def htmlItem : StrItem → StrItem
  | .plain b => if isHtml b.1 then unicodeOf b.1.toNat else .plain b
  | i => i

/-- The string without `<`, `>`, `&` and the two separators of lines and paragraphs. -/
def htmlEscape : List StrItem → List StrItem
  | .plain a :: .plain b :: .plain c :: s =>
    if a.1 = 0xe2 ∧ b.1 = 0x80 ∧ (c.1 = 0xa8 ∨ c.1 = 0xa9) then
      unicodeOf (0x2000 + (c.1.toNat - 0x80)) :: htmlEscape s
    else htmlItem (.plain a) :: htmlEscape (.plain b :: .plain c :: s)
  | i :: s => htmlItem i :: htmlEscape s
  | [] => []

theorem meaning_htmlItem (i : StrItem) : (htmlItem i).meaning = i.meaning := by
  rcases i with ⟨b, hb⟩ | e | ⟨h₁, h₂, h₃, h₄⟩
  · by_cases hhtml : isHtml b = true
    · have hor : (b = 0x3c ∨ b = 0x3e) ∨ b = 0x26 := by simpa [isHtml] using hhtml
      rw [htmlItem, if_pos hhtml]
      have hlt : b.toNat < 128 := by
        rcases hor with (rfl | rfl) | rfl <;> decide
      have hmeaning := meaning_unicodeOf_ascii ⟨b.toNat, hlt⟩
      rw [UInt8.ofNat_toNat] at hmeaning
      exact hmeaning
    · rw [htmlItem, if_neg hhtml]
  · rfl
  · rfl

theorem meaning_cons (i : StrItem) (s : List StrItem) : meaning (i :: s) = i.meaning ++ meaning s :=
  rfl

/-- The escapes of the separators. -/
theorem meaning_separator (c : UInt8) (h : c = 0xa8 ∨ c = 0xa9) :
    (unicodeOf (0x2000 + (c.toNat - 0x80))).meaning = [.byte 0xe2, .byte 0x80, .byte c] := by
  rcases h with rfl | rfl <;> decide

/-- A string that is escaped means the same. -/
theorem meaning_htmlEscape (s : List StrItem) : meaning (htmlEscape s) = meaning s := by
  induction s using htmlEscape.induct with
  | case1 a b c s h ih =>
    have hitems : meaning (.plain a :: .plain b :: .plain c :: s) =
        [.byte 0xe2, .byte 0x80, .byte c.1] ++ meaning s := by
      simp [meaning, StrItem.meaning, h.1, h.2.1]
    rw [htmlEscape, if_pos h, meaning_cons, meaning_separator c.1 h.2.2, ih, hitems]
  | case2 a b c s h ih =>
    rw [htmlEscape, if_neg h, meaning_cons, meaning_htmlItem, ih]
    rfl
  | case3 i s h ih =>
    rw [htmlEscape.eq_2 i s h, meaning_cons, meaning_htmlItem, ih]
    rfl
  | case4 => rfl

/-! ## Values -/

/-- What a text is parsed to. -/
inductive Value
  | word (w : Word)
  | str (s : List TextUnit)
  | arr (items : List Value)
  | obj (fields : List (List TextUnit × Value))

/-- An array or an object that is not closed yet, with what stands before the value that is
read. -/
inductive Open
  | arr (items : List Value)
  | obj (fields : List (List TextUnit × Value)) (key : List TextUnit)

/-- What the parser expects, below the arrays and objects that are open. -/
inductive ParseState
  | value (k : List Open)
  | firstItem (k : List Open)
  /-- A key, or the end of an object without fields. -/
  | firstKey (k : List Open)
  | key (fields : List (List TextUnit × Value)) (k : List Open)
  | colon (fields : List (List TextUnit × Value)) (key : List TextUnit) (k : List Open)
  /-- The value is there. -/
  | done (v : Value) (k : List Open)

/-- A token whose strings are read. -/
abbrev TextToken := Token (List TextUnit)

/-- The first token of a value. -/
def valueToken (k : List Open) : TextToken → Option ParseState
  | .punct .bracketOpen => some (.firstItem k)
  | .punct .braceOpen => some (.firstKey k)
  | .punct _ => none
  | .word w => some (.done (.word w) k)
  | .str s => some (.done (.str s) k)

/-- The parser after a token. Fails where the token cannot stand. -/
def parseToken : ParseState → TextToken → Option ParseState
  | .value k, t => valueToken k t
  | .firstItem k, .punct .bracketClose => some (.done (.arr []) k)
  | .firstItem k, t => valueToken (.arr [] :: k) t
  | .firstKey k, .punct .braceClose => some (.done (.obj []) k)
  | .firstKey k, .str s => some (.colon [] s k)
  | .key fields k, .str s => some (.colon fields s k)
  | .colon fields key k, .punct .colon => some (.value (.obj fields key :: k))
  | .done v (.arr items :: k), .punct .comma => some (.value (.arr (items ++ [v]) :: k))
  | .done v (.arr items :: k), .punct .bracketClose => some (.done (.arr (items ++ [v])) k)
  | .done v (.obj fields key :: k), .punct .comma => some (.key (fields ++ [(key, v)]) k)
  | .done v (.obj fields key :: k), .punct .braceClose =>
    some (.done (.obj (fields ++ [(key, v)])) k)
  | _, _ => none

/-- The parser after a list of tokens. -/
def parseTokens (st : ParseState) (ts : List TextToken) : Option ParseState :=
  ts.foldlM parseToken st

/-- The value that the tokens are. -/
def parse (ts : List TextToken) : Option Value :=
  match parseTokens (.value []) ts with
  | some (.done v []) => some v
  | _ => none

/-- The value that a text is. -/
def read (bs : List UInt8) : Option Value :=
  (lex bs).bind fun ts => parse (ts.map (Token.map meaning))

theorem parseTokens_append (st : ParseState) (ts ts' : List TextToken) :
    parseTokens st (ts ++ ts') = (parseTokens st ts).bind (parseTokens · ts') :=
  List.foldlM_append

theorem parseTokens_cons (st : ParseState) (t : TextToken) (ts : List TextToken) :
    parseTokens st (t :: ts) = (parseToken st t).bind (parseTokens · ts) :=
  rfl

/-! ### The stack -/

/-- The state with more arrays and objects open below. -/
def ParseState.under (k' : List Open) : ParseState → ParseState
  | value k => value (k ++ k')
  | firstItem k => firstItem (k ++ k')
  | firstKey k => firstKey (k ++ k')
  | key fields k => key fields (k ++ k')
  | colon fields name k => colon fields name (k ++ k')
  | done v k => done v (k ++ k')

theorem valueToken_under (k' : List Open) {k : List Open} {t : TextToken} {st : ParseState}
    (h : valueToken k t = some st) : valueToken (k ++ k') t = some (st.under k') := by
  rcases t with p | w | s
  · rcases p with _ | _ | _ | _ | _ | _ <;> simp only [valueToken, reduceCtorEq] at h ⊢ <;>
      rw [← Option.some.inj h] <;> rfl
  · rw [← Option.some.inj h]
    rfl
  · rw [← Option.some.inj h]
    rfl

theorem parseToken_firstItem (k : List Open) {t : TextToken} (h : t ≠ .punct .bracketClose) :
    parseToken (.firstItem k) t = valueToken (.arr [] :: k) t := by
  rcases t with (_ | _ | _ | _ | _ | _) | w | s
  · rfl
  · rfl
  · rfl
  · exact absurd rfl h
  · rfl
  · rfl
  · rfl
  · rfl

theorem parseToken_under (k' : List Open) {st st' : ParseState} {t : TextToken}
    (h : parseToken st t = some st') : parseToken (st.under k') t = some (st'.under k') := by
  rcases st with k | k | k | ⟨fields, k⟩ | ⟨fields, key, k⟩ | ⟨v, k⟩
  · exact valueToken_under k' h
  · by_cases hclose : t = .punct .bracketClose
    · subst hclose
      rw [← Option.some.inj h]
      rfl
    · rw [parseToken_firstItem _ hclose] at h
      exact (parseToken_firstItem _ hclose).trans (valueToken_under k' h)
  · rcases t with (_ | _ | _ | _ | _ | _) | w | s <;> simp only [parseToken, reduceCtorEq] at h <;>
      rw [← Option.some.inj h] <;> rfl
  · rcases t with p | w | s <;> simp only [parseToken, reduceCtorEq] at h
    rw [← Option.some.inj h]
    rfl
  · rcases t with (_ | _ | _ | _ | _ | _) | w | s <;> simp only [parseToken, reduceCtorEq] at h
    rw [← Option.some.inj h]
    rfl
  · rcases k with _ | ⟨items | ⟨fields, key⟩, k⟩
    · rcases t with (_ | _ | _ | _ | _ | _) | w | s <;> simp only [parseToken, reduceCtorEq] at h
    · rcases t with (_ | _ | _ | _ | _ | _) | w | s <;>
        simp only [parseToken, reduceCtorEq] at h <;> rw [← Option.some.inj h] <;> rfl
    · rcases t with (_ | _ | _ | _ | _ | _) | w | s <;>
        simp only [parseToken, reduceCtorEq] at h <;> rw [← Option.some.inj h] <;> rfl

/-- What is parsed inside of other values is parsed as on its own. -/
theorem run_under (k' : List Open) {st st' : ParseState} {ts : List TextToken}
    (h : parseTokens st ts = some st') :
    parseTokens (st.under k') ts = some (st'.under k') := by
  induction ts generalizing st with
  | nil =>
    obtain rfl := Option.some.inj h
    rfl
  | cons t ts ih =>
    rw [parseTokens_cons] at h ⊢
    obtain ⟨st₁, ht, h⟩ := Option.bind_eq_some_iff.1 h
    rw [parseToken_under k' ht, Option.bind_some]
    exact ih h

theorem parse_eq_some {ts : List TextToken} {v : Value} :
    parse ts = some v ↔ parseTokens (.value []) ts = some (.done v []) := by
  unfold parse
  constructor
  · intro h
    split at h
    · rename_i v' hrun
      rw [hrun, Option.some.inj h]
    · cases h
  · intro h
    rw [h]

/-- Tokens that are a value are one wherever a value is expected. -/
theorem parseTokens_value {ts : List TextToken} {v : Value} (h : parse ts = some v)
    (k : List Open) : parseTokens (.value k) ts = some (.done v k) :=
  run_under k (parse_eq_some.1 h)

/-! ### Words in a row -/

/-- A word is a value, and is not taken after a value. -/
theorem parseToken_word {st st' : ParseState} {w : Word} (h : parseToken st (.word w) = some st') :
    (∃ k, st' = .done (.word w) k) ∧ ∀ v k, st ≠ .done v k := by
  rcases st with k | k | k | ⟨fields, k⟩ | ⟨fields, key, k⟩ | ⟨v, k⟩
  · exact ⟨⟨k, (Option.some.inj h).symm⟩, fun _ _ h => by cases h⟩
  · exact ⟨⟨.arr [] :: k, (Option.some.inj h).symm⟩, fun _ _ h => by cases h⟩
  · cases h
  · cases h
  · cases h
  · rcases k with _ | ⟨items | ⟨fields, key⟩, k⟩ <;> cases h

/-- Tokens that the parser takes have no two words in a row. -/
theorem separated_of_run {st st' : ParseState} {ts : List TextToken}
    (h : parseTokens st ts = some st') : Separated ts := by
  induction ts generalizing st with
  | nil => exact List.isChain_nil
  | cons t ts ih =>
    rw [parseTokens_cons] at h
    obtain ⟨st₁, ht, h⟩ := Option.bind_eq_some_iff.1 h
    refine List.isChain_cons.2 ⟨fun t' ht' hwords => ?_, ih h⟩
    rcases t with p | w | s
    · exact hwords.1
    · obtain ⟨⟨k, rfl⟩, -⟩ := parseToken_word ht
      obtain ⟨ts', rfl⟩ : ∃ ts', ts = t' :: ts' := List.head?_eq_some_iff.1 ht'
      rcases t' with p | w' | s
      · exact hwords.2
      · rw [parseTokens_cons] at h
        obtain ⟨st₂, ht₂, -⟩ := Option.bind_eq_some_iff.1 h
        exact (parseToken_word ht₂).2 _ _ rfl
      · exact hwords.2
    · exact hwords.1

theorem separated_map {S T : Type} (f : S → T) (ts : List (Token S)) :
    Separated (ts.map (Token.map f)) ↔ Separated ts := by
  have hword : ∀ t : Token S, (t.map f).IsWord ↔ t.IsWord := by
    intro t
    cases t <;> rfl
  simp only [Separated, List.isChain_map, hword]

/-- Tokens that are a value are read from what is written of them, also before white space. -/
theorem read_write {ts : List RawToken} {v : Value}
    (h : parse (ts.map (Token.map meaning)) = some v) : read (write ts) = some v := by
  have hsep := (separated_map meaning ts).1 (separated_of_run (parse_eq_some.1 h))
  rw [read, lex_write ts hsep, Option.bind_some, h]

theorem read_write_space {ts : List RawToken} {v : Value} {b : UInt8} (hb : isSpace b = true)
    (h : parse (ts.map (Token.map meaning)) = some v) : read (write ts ++ [b]) = some v := by
  have hsep := (separated_map meaning ts).1 (separated_of_run (parse_eq_some.1 h))
  have hlex : lex (write ts ++ [b]) = some ts := by
    rw [lex, lexBytes_append, lexBytes_write ts hsep, Option.bind_some, lexBytes_cons,
      lexByte_space ts hb]
    rfl
  rw [read, hlex, Option.bind_some, h]

/-! ### Writing values -/

section Object

variable {S : Type}

/-- The tokens of a property. -/
def fieldTokens (f : S × List (Token S)) : List (Token S) := .str f.1 :: .punct .colon :: f.2

/-- The tokens of properties, with commas between. -/
def fieldsTokens : List (S × List (Token S)) → List (Token S)
  | [] => []
  | [f] => fieldTokens f
  | f :: f' :: fs => fieldTokens f ++ .punct .comma :: fieldsTokens (f' :: fs)

/-- An object, from its keys and the tokens of its values. -/
def objectTokens (fs : List (S × List (Token S))) : List (Token S) :=
  .punct .braceOpen :: fieldsTokens fs ++ [.punct .braceClose]

theorem map_objectTokens {T : Type} (f : S → T) (fs : List (S × List (Token S))) :
    (objectTokens fs).map (Token.map f) =
      objectTokens (fs.map fun e => (f e.1, e.2.map (Token.map f))) := by
  have hfields : ∀ fs : List (S × List (Token S)), (fieldsTokens fs).map (Token.map f) =
      fieldsTokens (fs.map fun e => (f e.1, e.2.map (Token.map f))) := by
    intro fs
    induction fs using fieldsTokens.induct with
    | case1 => rfl
    | case2 e => rfl
    | case3 e e' fs ih =>
      rw [fieldsTokens, List.map_append, List.map_cons, ih]
      rfl
  rw [objectTokens, List.map_append, List.map_cons, hfields]
  rfl

end Object

/-- One field, up to its value. -/
theorem parseTokens_field {f : List TextUnit × List TextToken} {v : Value}
    (h : parse f.2 = some v) (done : List (List TextUnit × Value)) (k : List Open) :
    parseTokens (.key done k) (fieldTokens f) = some (.done v (.obj done f.1 :: k)) := by
  have hvalue := parseTokens_value h (.obj done f.1 :: k)
  exact hvalue

theorem parseTokens_fields (value : List TextUnit × List TextToken → Value)
    (k : List Open) : ∀ (fs : List (List TextUnit × List TextToken))
      (done : List (List TextUnit × Value)), (∀ f ∈ fs, parse f.2 = some (value f)) → fs ≠ [] →
      parseTokens (.key done k) (fieldsTokens fs ++ [.punct .braceClose]) =
        some (.done (.obj (done ++ fs.map fun f => (f.1, value f))) k)
  | [], _, _, hne => absurd rfl hne
  | [f], done, h, _ => by
    rw [fieldsTokens, parseTokens_append, parseTokens_field (h f List.mem_cons_self)]
    rfl
  | f :: f' :: fs, done, h, _ => by
    have hrest := parseTokens_fields value k (f' :: fs) (done ++ [(f.1, value f)])
      (fun e he => h e (List.mem_cons_of_mem _ he)) (List.cons_ne_nil _ _)
    rw [fieldsTokens, List.append_assoc, parseTokens_append,
      parseTokens_field (h f List.mem_cons_self), Option.bind_some, List.cons_append,
      parseTokens_cons]
    rw [List.append_assoc] at hrest
    exact hrest

/-- The value of tokens that are one. -/
def valueOf (ts : List RawToken) : Value :=
  (parse (ts.map (Token.map meaning))).getD (.arr [])

/-- The tokens are those of a value. -/
def IsValue (ts : List RawToken) : Prop := (parse (ts.map (Token.map meaning))).isSome

theorem parse_of_isValue {ts : List RawToken} (h : IsValue ts) :
    parse (ts.map (Token.map meaning)) = some (valueOf ts) := by
  obtain ⟨v, hv⟩ := Option.isSome_iff_exists.1 h
  rw [valueOf, hv]
  rfl

/-- An object whose values are there is a value. -/
theorem parse_objectTokens {fs : List (List StrItem × List RawToken)}
    (h : ∀ f ∈ fs, IsValue f.2) : parse ((objectTokens fs).map (Token.map meaning)) =
      some (.obj (fs.map fun f => (meaning f.1, valueOf f.2))) := by
  have hvalues : ∀ f ∈ fs.map fun e => (meaning e.1, e.2.map (Token.map meaning)),
      parse f.2 = some ((parse f.2).getD (.arr [])) := by
    intro f hf
    obtain ⟨e, he, rfl⟩ := List.mem_map.1 hf
    exact parse_of_isValue (h e he)
  have hmap : (fs.map fun e => (meaning e.1, e.2.map (Token.map meaning))).map
      (fun f => (f.1, (parse f.2).getD (.arr []))) =
        fs.map fun f => (meaning f.1, valueOf f.2) := by
    rw [List.map_map]
    rfl
  rw [map_objectTokens, parse_eq_some, ← hmap]
  generalize (fs.map fun e => (meaning e.1, e.2.map (Token.map meaning))) = fs' at hvalues ⊢
  rcases fs' with _ | ⟨f, fs'⟩
  · rfl
  · have hfields := parseTokens_fields (fun f => (parse f.2).getD (.arr [])) [] (f :: fs') []
      hvalues (List.cons_ne_nil _ _)
    rw [objectTokens, List.cons_append, parseTokens_cons]
    -- The first key is read like any other one.
    rcases fs' with _ | ⟨f', fs'⟩
    · exact hfields
    · exact hfields

theorem isValue_objectTokens {fs : List (List StrItem × List RawToken)}
    (h : ∀ f ∈ fs, IsValue f.2) : IsValue (objectTokens fs) := by
  rw [IsValue, parse_objectTokens h]
  rfl

theorem valueOf_objectTokens {fs : List (List StrItem × List RawToken)}
    (h : ∀ f ∈ fs, IsValue f.2) :
    valueOf (objectTokens fs) = .obj (fs.map fun f => (meaning f.1, valueOf f.2)) := by
  rw [valueOf, parse_objectTokens h]
  rfl

/-- `json.RawMessage` as the encoder writes it : without white space, and without what is special
to HTML. What is no value is rejected. -/
def compact (bs : List UInt8) : Option (List RawToken) :=
  if (read bs).isSome then (lex bs).map (List.map (Token.map htmlEscape)) else none

theorem map_meaning_htmlEscape (ts : List RawToken) :
    (ts.map (Token.map htmlEscape)).map (Token.map meaning) = ts.map (Token.map meaning) := by
  rw [List.map_map]
  congr 1
  funext t
  rcases t with p | w | s
  · rfl
  · rfl
  · exact congrArg Token.str (meaning_htmlEscape s)

/-- A value stays the same. -/
theorem compact_of_read {bs : List UInt8} {v : Value} (h : read bs = some v) :
    ∃ ts, compact bs = some ts ∧ parse (ts.map (Token.map meaning)) = some v := by
  obtain ⟨ts, hlex, hparse⟩ := Option.bind_eq_some_iff.1 h
  refine ⟨ts.map (Token.map htmlEscape), ?_, ?_⟩
  · rw [compact, h, Option.isSome_some, if_pos rfl, hlex]
    rfl
  · rw [map_meaning_htmlEscape, hparse]

theorem compact_of_not_read {bs : List UInt8} (h : read bs = none) : compact bs = none := by
  rw [compact, h]
  rfl

end Json

end Lib
