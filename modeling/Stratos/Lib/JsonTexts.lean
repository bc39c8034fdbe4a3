import Stratos.Lib.GoValue
import Stratos.Lib.JsText

/-!
# The JSON of ECMAScript, read in Go

`JSON.stringify` writes text, that is sent in UTF-8 and read as bytes. What is written of a string
are the items of a JSON string (`encodeText_quote`), which mean the string (`meaning_stringItems`),
so Go reads the string (`goText_stringItems`). A whole number is a word (`integer`) that
`strconv.Atoi` reads (`atoi_integer`). Arrays and objects are the tokens of their items
(`encodeText_array`, `encodeText_object`).
-/

namespace Lib

namespace Json

open GoText

/-! ## Texts in UTF-8 -/

/-- The bytes of a text. -/
def encodeText (l : List Char) : List UInt8 := l.flatMap String.utf8EncodeChar

/-- `[]byte(s)` -/
def bytesOf (s : String) : List UInt8 := s.toByteArray.data.toList

/-- Bytes as a string, with U+FFFD for what is no text. -/
def textOfBytes (bytes : List UInt8) : String :=
  ((String.fromUTF8? bytes.toByteArray).or
    (String.fromUTF8? (sanitize bytes).toByteArray)).getD ""

theorem bytesOf_eq (s : String) : bytesOf s = encodeText s.toList := by
  rw [bytesOf, ← String.utf8Encode_toList, List.utf8Encode, List.toList_data_toByteArray]
  rfl

theorem bytesOf_ofList (l : List Char) : bytesOf (String.ofList l) = encodeText l := by
  rw [bytesOf_eq, String.toList_ofList]

theorem textOfBytes_bytesOf (s : String) : textOfBytes (bytesOf s) = s := by
  have hbytes : (bytesOf s).toByteArray = s.toByteArray := by
    rw [bytesOf_eq, ← String.utf8Encode_toList]
    rfl
  have hvalid : s.toByteArray.IsValidUTF8 := s.isValidUTF8
  rw [textOfBytes, hbytes, String.fromUTF8?, dif_pos hvalid]
  rfl

/-! ## Strings -/

/-- What stands for a byte of a string. -/
def byteItem (b : UInt8) : StrItem :=
  if b = 0x22 then .escape .quote
  else if b = 0x5c then .escape .backslash
  else if b = 0x08 then .escape .backspace
  else if b = 0x09 then .escape .tab
  else if b = 0x0a then .escape .newline
  else if b = 0x0c then .escape .formFeed
  else if b = 0x0d then .escape .carriageReturn
  else if h : IsPlain b then .plain ⟨b, h⟩
  else unicodeOf b.toNat

/-- The items of a text, as `JSON.stringify` writes it. -/
def stringItems (l : List Char) : List StrItem := (encodeText l).map byteItem

theorem byteItem_of_high {b : UInt8} (h : 0x80 ≤ b) :
    byteItem b = .plain ⟨b, isPlain_of_high h⟩ := by
  have hne : ∀ c : UInt8, c < 0x80 → b ≠ c := fun c hc heq =>
    absurd (heq ▸ h) (UInt8.not_le.2 hc)
  rw [byteItem, if_neg (hne _ (by decide)), if_neg (hne _ (by decide)), if_neg (hne _ (by decide)),
    if_neg (hne _ (by decide)), if_neg (hne _ (by decide)), if_neg (hne _ (by decide)),
    if_neg (hne _ (by decide)), dif_pos (isPlain_of_high h)]

theorem meaning_byteItem_ascii : ∀ n : Fin 128,
    (byteItem (UInt8.ofNat n)).meaning = [.byte (UInt8.ofNat n)] := by
  decide

theorem meaning_byteItem (b : UInt8) : (byteItem b).meaning = [.byte b] := by
  by_cases h : 0x80 ≤ b
  · rw [byteItem_of_high h]
    rfl
  · have hlt : b.toNat < 128 := by
      rw [UInt8.le_iff_toNat_le] at h
      exact Nat.lt_of_not_le h
    have hascii := meaning_byteItem_ascii ⟨b.toNat, hlt⟩
    rwa [UInt8.ofNat_toNat] at hascii

theorem meaning_stringItems (l : List Char) :
    meaning (stringItems l) = (encodeText l).map .byte := by
  rw [stringItems, meaning, List.flatMap_map, List.map_eq_flatMap]
  congr 1
  funext b
  exact meaning_byteItem b

/-- The bytes of a character above ASCII are above ASCII. -/
theorem high_of_mem_utf8EncodeChar {c : Char} (h : 0x80 ≤ c.toNat) :
    ∀ b ∈ String.utf8EncodeChar c, 0x80 ≤ b := by
  have hbyte : ∀ n : ℕ, 0x80 ≤ n → n < 256 → (0x80 : UInt8) ≤ UInt8.ofNat n := by
    intro n hn hlt
    rw [UInt8.le_iff_toNat_le, UInt8.toNat_ofNat_of_lt' hlt]
    exact hn
  have hval : c.val.toNat = c.toNat := rfl
  intro b hb
  rw [String.utf8EncodeChar, hval] at hb
  rw [if_neg (by omega)] at hb
  split_ifs at hb <;> simp only [List.mem_cons, List.not_mem_nil, or_false] at hb
  · rcases hb with rfl | rfl <;> exact hbyte _ (by omega) (by omega)
  · rcases hb with rfl | rfl | rfl <;> exact hbyte _ (by omega) (by omega)
  · rcases hb with rfl | rfl | rfl | rfl <;> exact hbyte _ (by omega) (by omega)

theorem encodeText_escapeChar_ascii : ∀ n : Fin 128,
    encodeText (JsText.escapeChar (Char.ofNat n)) =
      ((String.utf8EncodeChar (Char.ofNat n)).map byteItem).flatMap StrItem.bytes := by
  decide

theorem encodeText_escapeChar (c : Char) : encodeText (JsText.escapeChar c) =
    ((String.utf8EncodeChar c).map byteItem).flatMap StrItem.bytes := by
  by_cases h : c.toNat < 128
  · have hascii := encodeText_escapeChar_ascii ⟨c.toNat, h⟩
    rwa [Char.ofNat_toNat] at hascii
  · have hne : ∀ d : Char, d.toNat < 128 → c ≠ d := fun d hd heq => h (heq ▸ hd)
    have hescape : JsText.escapeChar c = [c] := by
      rw [JsText.escapeChar, if_neg (hne _ (by decide)), if_neg (hne _ (by decide)),
        if_neg (by omega)]
    have hitems : ∀ bytes : List UInt8, (∀ b ∈ bytes, 0x80 ≤ b) →
        (bytes.map byteItem).flatMap StrItem.bytes = bytes := by
      intro bytes
      induction bytes with
      | nil => exact fun _ => rfl
      | cons b bytes ih =>
        intro hbytes
        rw [List.map_cons, List.flatMap_cons,
          ih fun b' hb' => hbytes b' (List.mem_cons_of_mem _ hb'),
          byteItem_of_high (hbytes b List.mem_cons_self)]
        rfl
    rw [hescape, hitems _ (high_of_mem_utf8EncodeChar (by omega)), encodeText,
      List.flatMap_singleton]

theorem encodeText_append (l l' : List Char) :
    encodeText (l ++ l') = encodeText l ++ encodeText l' :=
  List.flatMap_append

/-- A quoted string is the string of its items. -/
theorem encodeText_quote (s : List Char) :
    encodeText (JsText.quote s) = strBytes (stringItems s) := by
  have hbody : encodeText (s.flatMap JsText.escapeChar) =
      (stringItems s).flatMap StrItem.bytes := by
    induction s with
    | nil => rfl
    | cons c s ih =>
      have hitems : stringItems (c :: s) =
          (String.utf8EncodeChar c).map byteItem ++ stringItems s := by
        rw [stringItems, encodeText, List.flatMap_cons, List.map_append]
        rfl
      rw [List.flatMap_cons, encodeText_append, ih, encodeText_escapeChar, hitems,
        List.flatMap_append]
  rw [JsText.quote, ← List.singleton_append, encodeText_append, encodeText_append, hbody, strBytes]
  rfl

/-- `unquote`, as a text. -/
def goText (s : List TextUnit) : String := textOfBytes (pairSurrogates s)

theorem pairSurrogates_bytes (bytes : List UInt8) :
    pairSurrogates (bytes.map .byte) = bytes := by
  induction bytes with
  | nil => rfl
  | cons b bytes ih => rw [List.map_cons, pairSurrogates, ih]

/-- Go reads the string that was written. -/
theorem goText_stringItems (s : String) : goText (meaning (stringItems s.toList)) = s := by
  rw [meaning_stringItems, goText, pairSurrogates_bytes, ← bytesOf_eq, textOfBytes_bytesOf]

/-! ## Texts are valid -/

theorem decodeRune_of_width {a : UInt8} {rest : List UInt8} {n : ℕ} (ha : ¬a < 0x80)
    (h : width a rest = some n) :
    decodeRune a rest = (.wide ((a :: rest).take n) (high_of_width h), (a :: rest).drop n) := by
  rw [decodeRune, dif_neg ha]
  split
  · rename_i m hm
    obtain rfl := Option.some.inj (h.symm.trans hm)
    rfl
  · rename_i hnone
    rw [h] at hnone
    cases hnone

theorem toNat_byte {n : ℕ} (h : n < 256) : (UInt8.ofNat n).toNat = n :=
  UInt8.toNat_ofNat_of_lt' h

theorem width_two {n : ℕ} (h : 0x80 ≤ n) (hn : n ≤ 0x7ff) (rest : List UInt8) :
    width (UInt8.ofNat (n / 64 % 32 + 192)) (UInt8.ofNat (n % 64 + 128) :: rest) = some 2 := by
  rw [width.eq_def]
  dsimp only
  rw [if_pos]
  simp only [isTail, Bool.and_eq_true, decide_eq_true_eq, UInt8.le_iff_toNat_le]
  rw [toNat_byte (by omega), toNat_byte (by omega)]
  refine ⟨?_, ?_, ?_, ?_⟩ <;> simp <;> omega

theorem width_three {n : ℕ} (h : 0x800 ≤ n) (hn : n ≤ 0xffff) (hvalid : n < 0xd800 ∨ 0xdfff < n)
    (rest : List UInt8) :
    width (UInt8.ofNat (n / 4096 % 16 + 224)) (UInt8.ofNat (n / 64 % 64 + 128) ::
      UInt8.ofNat (n % 64 + 128) :: rest) = some 3 := by
  rw [width.eq_def]
  dsimp only
  rw [if_neg, if_pos]
  · simp only [startsThree, isTail, Bool.and_eq_true, Bool.or_eq_true, decide_eq_true_eq,
      UInt8.le_iff_toNat_le, ← UInt8.toNat_inj, ne_eq]
    rw [toNat_byte (by omega), toNat_byte (by omega), toNat_byte (by omega)]
    simp
    omega
  · simp only [isTail, Bool.and_eq_true, decide_eq_true_eq, UInt8.le_iff_toNat_le]
    rw [toNat_byte (by omega), toNat_byte (by omega)]
    simp

theorem width_four {n : ℕ} (h : 0xffff < n) (hn : n < 0x110000) (rest : List UInt8) :
    width (UInt8.ofNat (n / 262144 % 8 + 240)) (UInt8.ofNat (n / 4096 % 64 + 128) ::
      UInt8.ofNat (n / 64 % 64 + 128) :: UInt8.ofNat (n % 64 + 128) :: rest) = some 4 := by
  rw [width.eq_def]
  dsimp only
  rw [if_neg, if_neg, if_pos]
  · simp only [startsFour, isTail, Bool.and_eq_true, Bool.or_eq_true, decide_eq_true_eq,
      UInt8.le_iff_toNat_le, ← UInt8.toNat_inj]
    rw [toNat_byte (by omega), toNat_byte (by omega), toNat_byte (by omega), toNat_byte (by omega)]
    simp
    omega
  · simp only [startsThree, isTail, Bool.and_eq_true, Bool.or_eq_true, decide_eq_true_eq,
      UInt8.le_iff_toNat_le, ← UInt8.toNat_inj, ne_eq]
    rw [toNat_byte (by omega), toNat_byte (by omega), toNat_byte (by omega)]
    simp
  · simp only [isTail, Bool.and_eq_true, decide_eq_true_eq, UInt8.le_iff_toNat_le]
    rw [toNat_byte (by omega), toNat_byte (by omega)]
    simp

/-- The bytes of a character are a valid rune. -/
theorem decodeRune_utf8EncodeChar (c : Char) : ∃ a bs r, String.utf8EncodeChar c = a :: bs ∧
    r.sanitize = r.bytes ∧ ∀ rest, decodeRune a (bs ++ rest) = (r, rest) := by
  have hval : c.val.toNat = c.toNat := rfl
  have hvalid : c.toNat < 0xd800 ∨ 0xdfff < c.toNat ∧ c.toNat < 0x110000 := c.valid
  have hwide : ∀ {a : UInt8} {bs : List UInt8}, (∀ b ∈ a :: bs, 0x80 ≤ b) →
      (∀ rest, width a (bs ++ rest) = some (bs.length + 1)) → ∃ r : Rune, r.sanitize = r.bytes ∧
        ∀ rest, decodeRune a (bs ++ rest) = (r, rest) := by
    intro a bs hhigh hwidth
    refine ⟨.wide (a :: bs) hhigh, rfl, fun rest => ?_⟩
    have ha : ¬a < 0x80 := UInt8.not_lt.2 (hhigh a List.mem_cons_self)
    rw [decodeRune_of_width ha (hwidth rest)]
    simp
  have hhigh := @high_of_mem_utf8EncodeChar c
  rw [String.utf8EncodeChar, hval] at hhigh ⊢
  by_cases hone : c.toNat ≤ 127
  · have hlt : UInt8.ofNat c.toNat < 0x80 := by
      rw [UInt8.lt_iff_toNat_lt, toNat_byte (by omega)]
      exact Nat.lt_succ_of_le hone
    rw [if_pos hone]
    refine ⟨_, [], .ascii _ hlt, rfl, rfl, fun rest => ?_⟩
    rw [decodeRune, dif_pos hlt]
    rfl
  · rw [if_neg hone] at hhigh ⊢
    have hhigh := hhigh (by omega)
    by_cases htwo : c.toNat ≤ 2047
    · rw [if_pos htwo] at hhigh ⊢
      obtain ⟨r, hr⟩ := hwide hhigh (width_two (by omega) htwo)
      exact ⟨_, _, r, rfl, hr⟩
    · rw [if_neg htwo] at hhigh ⊢
      by_cases hthree : c.toNat ≤ 65535
      · rw [if_pos hthree] at hhigh ⊢
        obtain ⟨r, hr⟩ := hwide hhigh (width_three (by omega) hthree (by omega))
        exact ⟨_, _, r, rfl, hr⟩
      · rw [if_neg hthree] at hhigh ⊢
        obtain ⟨r, hr⟩ := hwide hhigh (width_four (by omega) (by omega))
        exact ⟨_, _, r, rfl, hr⟩

theorem sanitize_of_mem_runesOf {l : List Char} {n : ℕ} :
    ∀ r ∈ runesOf n (encodeText l), r.sanitize = r.bytes := by
  induction n generalizing l with
  | zero => exact fun r hr => absurd hr List.not_mem_nil
  | succ n ih =>
    intro r hr
    rcases l with _ | ⟨c, l⟩
    · exact absurd hr List.not_mem_nil
    obtain ⟨a, bs, r', hbytes, hsanitize, hdecode⟩ := decodeRune_utf8EncodeChar c
    have htext : encodeText (c :: l) = a :: (bs ++ encodeText l) := by
      rw [encodeText, List.flatMap_cons, hbytes]
      rfl
    rw [htext, runesOf, hdecode] at hr
    rcases List.mem_cons.1 hr with rfl | hr
    · exact hsanitize
    · exact ih r hr

/-- A text is valid. -/
theorem sanitize_encodeText (l : List Char) : sanitize (encodeText l) = encodeText l :=
  sanitize_eq_self sanitize_of_mem_runesOf

/-! ## Numbers -/

theorem decimal_of_lt {n : ℕ} (h : n < 10) : GoText.decimal n = [UInt8.ofNat (0x30 + n)] := by
  by_cases hzero : n = 0
  · subst hzero
    rfl
  · rw [GoText.decimal, if_neg hzero, Nat.digits_of_lt 10 n hzero h]
    rfl

theorem decimal_of_le {n : ℕ} (h : 10 ≤ n) :
    GoText.decimal n = GoText.decimal (n / 10) ++ [UInt8.ofNat (0x30 + n % 10)] := by
  have hzero : n ≠ 0 := by omega
  have hdiv : n / 10 ≠ 0 := by omega
  rw [GoText.decimal, if_neg hzero, GoText.decimal, if_neg hdiv,
    Nat.digits_def' (by decide) (by omega), List.reverse_cons, List.map_append]
  rfl

theorem encodeText_digitChar : ∀ d : Fin 10,
    encodeText [Nat.digitChar d] = [UInt8.ofNat (0x30 + d)] := by
  decide

theorem encodeText_toDigits (n : ℕ) : encodeText (Nat.toDigits 10 n) = GoText.decimal n := by
  induction n using Nat.strong_induction_on with
  | _ n ih =>
    by_cases h : n < 10
    · rw [Nat.toDigits_of_lt_base h, decimal_of_lt h]
      exact encodeText_digitChar ⟨n, h⟩
    · rw [Nat.toDigits_of_base_le (by decide) (by omega), encodeText_append, ih _ (by omega),
        @decimal_of_le n (by omega)]
      congr 1
      exact encodeText_digitChar ⟨n % 10, Nat.mod_lt _ (by decide)⟩

theorem digitsValue_concat (ds : List UInt8) (d : UInt8) :
    digitsValue (ds ++ [d]) = 10 * digitsValue ds + (d.toNat - 0x30) := by
  rw [digitsValue, List.foldl_append]
  rfl

theorem toNat_digit : ∀ d : Fin 10, (UInt8.ofNat (0x30 + d)).toNat - 0x30 = d := by
  decide

theorem digitsValue_decimal (n : ℕ) : digitsValue (GoText.decimal n) = n := by
  induction n using Nat.strong_induction_on with
  | _ n ih =>
    by_cases h : n < 10
    · rw [decimal_of_lt h, ← List.nil_append [_], digitsValue_concat, toNat_digit ⟨n, h⟩]
      exact Nat.zero_add n
    · rw [decimal_of_le (by omega), digitsValue_concat, ih _ (by omega),
        toNat_digit ⟨n % 10, Nat.mod_lt _ (by decide)⟩]
      dsimp only
      omega

theorem isDigit_of_mem_decimal {n : ℕ} : ∀ b ∈ GoText.decimal n, isDigit b = true := by
  induction n using Nat.strong_induction_on with
  | _ n ih =>
    intro b hb
    by_cases h : n < 10
    · rw [decimal_of_lt h, List.mem_singleton] at hb
      rw [hb]
      exact (isDigit_digit ⟨n, h⟩).1
    · rw [decimal_of_le (by omega), List.mem_append, List.mem_singleton] at hb
      rcases hb with hb | hb
      · exact ih _ (by omega) b hb
      · rw [hb]
        exact (isDigit_digit ⟨n % 10, Nat.mod_lt _ (by decide)⟩).1

/-- A decimal starts with a digit, and not with a sign. -/
theorem decimal_eq_cons (n : ℕ) :
    ∃ d ds, GoText.decimal n = d :: ds ∧ d ≠ 0x2d ∧ d ≠ 0x2b := by
  obtain ⟨d, ds, hds⟩ := List.exists_cons_of_ne_nil (isWord_decimal n).1
  have hdigit := isDigit_of_mem_decimal (n := n) d (by rw [hds]; exact List.mem_cons_self)
  refine ⟨d, ds, hds, ?_, ?_⟩ <;> rintro rfl <;> cases hdigit

theorem isUnsigned_decimal (n : ℕ) : isUnsigned (GoText.decimal n) = true := by
  obtain ⟨d, ds, hds, hminus, -⟩ := decimal_eq_cons n
  have hdigit := isDigit_of_mem_decimal (n := n) d (by rw [hds]; exact List.mem_cons_self)
  have hword := (isWord_decimal n).2.2
  rw [hds] at hword ⊢
  rcases hword with hliteral | hnumber
  · have hfirst : d = 0x6e ∨ d = 0x74 ∨ d = 0x66 := by
      simp only [isLiteral, nullBytes, Bool.or_eq_true, decide_eq_true_eq,
        List.cons.injEq] at hliteral
      rcases hliteral with (h | h) | h
      · exact Or.inl h.1
      · exact Or.inr (Or.inl h.1)
      · exact Or.inr (Or.inr h.1)
    rcases hfirst with rfl | rfl | rfl <;> cases hdigit
  · rw [isNumber.eq_def] at hnumber
    split at hnumber
    · rename_i heq
      exact (hminus (List.cons.inj heq).1).elim
    · exact hnumber

theorem isWord_minus {n : ℕ} : IsWord (0x2d :: GoText.decimal n) := by
  refine ⟨List.cons_ne_nil _ _, ?_, Or.inr (isUnsigned_decimal n)⟩
  rw [List.all_cons, (isWord_decimal n).2.1]
  rfl

/-- A whole number as a word. -/
def integer : ℤ → Word
  | .ofNat n => GoText.number n
  | .negSucc n => ⟨0x2d :: GoText.decimal (n + 1), isWord_minus⟩

theorem encodeText_decimal (n : ℤ) : encodeText (JsText.decimal n) = (integer n).1 := by
  cases n with
  | ofNat n => exact encodeText_toDigits n
  | negSucc n =>
    rw [JsText.decimal, ← List.singleton_append, encodeText_append, encodeText_toDigits]
    rfl

/-- `strconv.Atoi` reads a decimal that is small enough. -/
theorem atoi_decimal (n : ℕ) :
    atoi (GoText.decimal n) = if n < 2 ^ 63 then some (n : ℤ) else none := by
  obtain ⟨d, ds, hds, hminus, hplus⟩ := decimal_eq_cons n
  have hsigned : signedValue (GoText.decimal n) = n := by
    have hvalue := digitsValue_decimal n
    rw [hds] at hvalue ⊢
    rw [signedValue, hvalue]
    · exact fun _ heq => hminus (List.cons.inj heq).1
    · exact fun _ heq => hplus (List.cons.inj heq).1
  have hhead : ¬((GoText.decimal n).head? = some 0x2d ∨ (GoText.decimal n).head? = some 0x2b) := by
    rw [hds]
    simp [hminus, hplus]
  have hall : (GoText.decimal n).all isDigit = true := List.all_eq_true.2 isDigit_of_mem_decimal
  rw [atoi, if_neg hhead, hsigned]
  split_ifs with hint hlt hlt
  · rfl
  · exact absurd (by omega) hlt
  · exact absurd ⟨(isWord_decimal n).1, hall, by omega, by omega⟩ hint
  · rfl

/-- `strconv.Atoi` reads the number that was written. -/
theorem atoi_integer {n : ℤ} (h : -2 ^ 63 ≤ n ∧ n < 2 ^ 63) : atoi (integer n).1 = some n := by
  cases n with
  | ofNat n =>
    have hlt : n < 2 ^ 63 := by
      have := h.2
      simp only [Int.ofNat_eq_natCast] at this
      omega
    exact (atoi_decimal n).trans (if_pos hlt)
  | negSucc n =>
    have hsigned : signedValue (0x2d :: GoText.decimal (n + 1)) = .negSucc n := by
      rw [signedValue, digitsValue_decimal]
      rfl
    have hword : (integer (.negSucc n)).1 = 0x2d :: GoText.decimal (n + 1) := rfl
    have hhead : (0x2d :: GoText.decimal (n + 1)).head? = some 0x2d ∨
        (0x2d :: GoText.decimal (n + 1)).head? = some 0x2b := Or.inl rfl
    rw [hword, atoi, if_pos hhead, hsigned, if_pos]
    have hall : (GoText.decimal (n + 1)).all isDigit = true :=
      List.all_eq_true.2 isDigit_of_mem_decimal
    exact ⟨(isWord_decimal (n + 1)).1, hall, h⟩

/-! ## Arrays and objects -/

section Array

variable {S : Type}

/-- The tokens of elements, with commas between. -/
def itemsTokens : List (List (Token S)) → List (Token S)
  | [] => []
  | [t] => t
  | t :: t' :: ts => t ++ .punct .comma :: itemsTokens (t' :: ts)

/-- An array, from the tokens of its items. -/
def arrayTokens (items : List (List (Token S))) : List (Token S) :=
  .punct .bracketOpen :: itemsTokens items ++ [.punct .bracketClose]

theorem map_arrayTokens {T : Type} (f : S → T) (items : List (List (Token S))) :
    (arrayTokens items).map (Token.map f) = arrayTokens (items.map (List.map (Token.map f))) := by
  have hitems : ∀ items : List (List (Token S)), (itemsTokens items).map (Token.map f) =
      itemsTokens (items.map (List.map (Token.map f))) := by
    intro items
    induction items using itemsTokens.induct with
    | case1 => rfl
    | case2 t => rfl
    | case3 t t' ts ih =>
      rw [itemsTokens, List.map_append, List.map_cons, ih]
      rfl
  rw [arrayTokens, List.map_append, List.map_cons, hitems]
  rfl

end Array

theorem parseTokens_items (value : List TextToken → Value) (k : List Open) :
    ∀ (items : List (List TextToken)) (done : List Value),
      (∀ t ∈ items, parse t = some (value t)) → items ≠ [] →
      parseTokens (.value (.arr done :: k)) (itemsTokens items ++ [.punct .bracketClose]) =
        some (.done (.arr (done ++ items.map value)) k)
  | [], _, _, hne => absurd rfl hne
  | [t], done, h, _ => by
    rw [itemsTokens, parseTokens_append,
      parseTokens_value (h t List.mem_cons_self) (.arr done :: k)]
    rfl
  | t :: t' :: ts, done, h, _ => by
    have hrest := parseTokens_items value k (t' :: ts) (done ++ [value t])
      (fun e he => h e (List.mem_cons_of_mem _ he)) (List.cons_ne_nil _ _)
    rw [itemsTokens, List.append_assoc, parseTokens_append,
      parseTokens_value (h t List.mem_cons_self) (.arr done :: k), Option.bind_some,
      List.cons_append, parseTokens_cons]
    rw [List.append_assoc] at hrest
    exact hrest

/-- The first token of a value does not close an array. -/
theorem parseTokens_firstItem {t : List TextToken} {v : Value} (h : parse t = some v)
    (ts : List TextToken) (k : List Open) :
    parseTokens (.firstItem k) (t ++ ts) = parseTokens (.value (.arr [] :: k)) (t ++ ts) := by
  rw [parse_eq_some] at h
  rcases t with _ | ⟨first, t⟩
  · cases h
  · have hfirst : first ≠ .punct .bracketClose := by
      rintro rfl
      cases h
    rw [List.cons_append, parseTokens_cons, parseTokens_cons, parseToken_firstItem k hfirst]
    rfl

/-- An array whose items are there is a value. -/
theorem parse_arrayTokens {items : List (List RawToken)} (h : ∀ t ∈ items, IsValue t) :
    parse ((arrayTokens items).map (Token.map meaning)) = some (.arr (items.map valueOf)) := by
  have hvalues : ∀ t ∈ items.map (List.map (Token.map meaning)),
      parse t = some ((parse t).getD (.arr [])) := by
    intro t ht
    obtain ⟨t', ht', rfl⟩ := List.mem_map.1 ht
    exact parse_of_isValue (h t' ht')
  have hmap : (items.map (List.map (Token.map meaning))).map (fun t => (parse t).getD (.arr [])) =
      items.map valueOf := by
    rw [List.map_map]
    rfl
  rw [map_arrayTokens, parse_eq_some, ← hmap]
  generalize items.map (List.map (Token.map meaning)) = items' at hvalues ⊢
  rcases items' with _ | ⟨t, ts⟩
  · rfl
  · have hitems := parseTokens_items (fun t => (parse t).getD (.arr [])) [] (t :: ts) [] hvalues
      (List.cons_ne_nil _ _)
    have hfirst : ∃ rest, itemsTokens (t :: ts) ++ [.punct .bracketClose] = t ++ rest := by
      rcases ts with _ | ⟨t', ts⟩
      · exact ⟨_, rfl⟩
      · exact ⟨_, List.append_assoc ..⟩
    obtain ⟨rest, hrest⟩ := hfirst
    have hopen : parseToken (.value []) (.punct .bracketOpen) = some (.firstItem []) := rfl
    rw [arrayTokens, List.cons_append, parseTokens_cons, hopen, Option.bind_some, hrest,
      parseTokens_firstItem (hvalues t List.mem_cons_self), ← hrest, hitems]
    rfl

theorem isValue_arrayTokens {items : List (List RawToken)} (h : ∀ t ∈ items, IsValue t) :
    IsValue (arrayTokens items) := by
  rw [IsValue, parse_arrayTokens h]
  rfl

theorem valueOf_arrayTokens {items : List (List RawToken)} (h : ∀ t ∈ items, IsValue t) :
    valueOf (arrayTokens items) = .arr (items.map valueOf) := by
  rw [valueOf, parse_arrayTokens h]
  rfl

theorem isValue_str (s : List StrItem) : IsValue [.str s] :=
  rfl

theorem valueOf_str (s : List StrItem) : valueOf [.str s] = .str (meaning s) :=
  rfl

theorem isValue_word (w : Word) : IsValue [.word w] :=
  rfl

theorem valueOf_word (w : Word) : valueOf [.word w] = .word w :=
  rfl

/-! ### What `JSON.stringify` writes -/

section Texts

variable {α : Type} {f : α → List Char} {tokens : α → List RawToken}

theorem write_append (ts ts' : List RawToken) : write (ts ++ ts') = write ts ++ write ts' :=
  List.flatMap_append

theorem encodeText_itemsLeft (h : ∀ a, encodeText (f a) = write (tokens a)) (items : List α)
    {close : Char} {p : Punct} (hclose : encodeText [close] = [p.byte]) (a : α) :
    encodeText (f a ++ JsText.itemsLeft f close items) =
      write (itemsTokens ((a :: items).map tokens) ++ [.punct p]) := by
  induction items generalizing a with
  | nil =>
    rw [JsText.itemsLeft, encodeText_append, h, hclose, write_append]
    rfl
  | cons b items ih =>
    have hcomma : encodeText (',' :: (f b ++ JsText.itemsLeft f close items)) =
        Punct.comma.byte :: encodeText (f b ++ JsText.itemsLeft f close items) := rfl
    have htokens : itemsTokens ((a :: b :: items).map tokens) =
        tokens a ++ .punct .comma :: itemsTokens ((b :: items).map tokens) := rfl
    rw [JsText.itemsLeft, encodeText_append, hcomma, ih, h, htokens, List.append_assoc,
      write_append (tokens a), List.cons_append]
    rfl

theorem encodeText_array (h : ∀ a, encodeText (f a) = write (tokens a)) (items : List α) :
    encodeText (JsText.array f items) = write (arrayTokens (items.map tokens)) := by
  rcases items with _ | ⟨a, items⟩
  · rfl
  · have hitems := @encodeText_itemsLeft _ _ _ h items ']' .bracketClose rfl a
    have hopen : ∀ l, encodeText ('[' :: l) = Punct.bracketOpen.byte :: encodeText l := fun _ => rfl
    rw [JsText.array, JsText.bracketed, hopen, hitems]
    rfl

/-- A property of an object : its key and its value. -/
def propertyTokens (tokens : α → List RawToken) (p : String × α) : List StrItem × List RawToken :=
  (stringItems p.1.toList, tokens p.2)

theorem encodeText_field (h : ∀ a, encodeText (f a) = write (tokens a)) (p : String × α) :
    encodeText (JsText.field f p) = write (fieldTokens (propertyTokens tokens p)) := by
  have hcolon : encodeText (':' :: f p.2) = Punct.colon.byte :: encodeText (f p.2) := rfl
  rw [JsText.field, encodeText_append, encodeText_quote, hcolon, h]
  rfl

/-- Fields are items with commas between them. -/
theorem itemsTokens_fieldTokens {S : Type} (fs : List (S × List (Token S))) :
    itemsTokens (fs.map fieldTokens) = fieldsTokens fs := by
  induction fs using fieldsTokens.induct with
  | case1 => rfl
  | case2 p => rfl
  | case3 p p' fs ih =>
    rw [fieldsTokens, ← ih]
    rfl

theorem encodeText_object (h : ∀ a, encodeText (f a) = write (tokens a))
    (properties : List (String × α)) : encodeText (JsText.object f properties) =
      write (objectTokens (properties.map (propertyTokens tokens))) := by
  rcases properties with _ | ⟨p, properties⟩
  · rfl
  · have hfields := @encodeText_itemsLeft _ (JsText.field f)
      (fun p => fieldTokens (propertyTokens tokens p)) (encodeText_field h) properties
      '\x7d' .braceClose rfl p
    have hmap : (p :: properties).map (fun p => fieldTokens (propertyTokens tokens p)) =
        ((p :: properties).map (propertyTokens tokens)).map fieldTokens := by
      rw [List.map_map]
      rfl
    have hopen : ∀ l, encodeText ('\x7b' :: l) = Punct.braceOpen.byte :: encodeText l :=
      fun _ => rfl
    rw [JsText.object, JsText.bracketed, hopen, hfields, hmap, itemsTokens_fieldTokens]
    rfl

end Texts

end Json

end Lib
