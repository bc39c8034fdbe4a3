import Mathlib.Data.List.TakeWhile
import Mathlib.Data.Nat.Digits.Lemmas
import Stratos.Lib.Json

/-!
# Go strings as texts

A Go string is a list of bytes that is meant to be UTF-8. `runes` splits it into its runes, where
a byte that belongs to none is invalid on its own ; nothing is lost (`flatMap_bytes_runes`).

`encodeString` writes a string for JSON as `encoding/json` does, with U+FFFD for each invalid
byte (`meaning_encodeString`). `quote` writes it as the verb `%q` of `fmt` does, in the syntax of
Go : that is a JSON string exactly when none of the escapes is used that JSON does not have
(`lex_quote_of_escapes`, `lex_quote_of_not_escapes`). `decimal` writes a number.
-/

namespace Lib

namespace GoText

open Json

/-! ## Runes -/

/-- A rune of a text, or a byte that is not part of one. -/
inductive Rune
  | ascii (b : UInt8) (h : b < 0x80)
  | wide (bytes : List UInt8) (h : ∀ b ∈ bytes, 0x80 ≤ b)
  | invalid (b : UInt8)

/-- The bytes of a rune. -/
def Rune.bytes : Rune → List UInt8
  | ascii b _ => [b]
  | wide bytes _ => bytes
  | invalid b => [b]

/-- A byte that may come after the first one of a rune. -/
def isTail (b : UInt8) : Bool := 0x80 ≤ b && b ≤ 0xbf

/-- The first two bytes of a rune of three bytes. -/
def startsThree (a b : UInt8) : Bool :=
  a = 0xe0 && 0xa0 ≤ b && b ≤ 0xbf || a = 0xed && 0x80 ≤ b && b ≤ 0x9f ||
    0xe1 ≤ a && a ≤ 0xef && a ≠ 0xed && isTail b

/-- The first two bytes of a rune of four bytes. -/
def startsFour (a b : UInt8) : Bool :=
  a = 0xf0 && 0x90 ≤ b && b ≤ 0xbf || a = 0xf4 && 0x80 ≤ b && b ≤ 0x8f ||
    0xf1 ≤ a && a ≤ 0xf3 && isTail b

/-- The number of bytes of the rune that a byte above ASCII starts, if it starts one. -/
def width (a : UInt8) : List UInt8 → Option ℕ
  | [] => none
  | b :: rest =>
    if 0xc2 ≤ a ∧ a ≤ 0xdf ∧ isTail b = true then some 2
    else match rest with
      | [] => none
      | c :: rest =>
        if startsThree a b = true ∧ isTail c = true then some 3
        else match rest with
          | [] => none
          | d :: _ =>
            if startsFour a b = true ∧ isTail c = true ∧ isTail d = true then some 4 else none

theorem high_of_isTail {b : UInt8} (h : isTail b = true) : 0x80 ≤ b := by
  simp only [isTail, Bool.and_eq_true, decide_eq_true_eq] at h
  exact h.1

theorem high_of_startsThree {a b : UInt8} (h : startsThree a b = true) : 0x80 ≤ a ∧ 0x80 ≤ b := by
  simp only [startsThree, isTail, Bool.or_eq_true, Bool.and_eq_true, decide_eq_true_eq,
    UInt8.le_iff_toNat_le] at h ⊢
  rcases h with (⟨⟨rfl, h⟩, -⟩ | ⟨⟨rfl, h⟩, -⟩) | h <;> simp at * <;> omega

theorem high_of_startsFour {a b : UInt8} (h : startsFour a b = true) : 0x80 ≤ a ∧ 0x80 ≤ b := by
  simp only [startsFour, isTail, Bool.or_eq_true, Bool.and_eq_true, decide_eq_true_eq,
    UInt8.le_iff_toNat_le] at h ⊢
  rcases h with (⟨⟨rfl, h⟩, -⟩ | ⟨⟨rfl, h⟩, -⟩) | h <;> simp at * <;> omega

/-- The rune has a byte more, and its bytes are above ASCII. -/
theorem width_spec {a : UInt8} {rest : List UInt8} {n : ℕ} (h : width a rest = some n) :
    ∃ bs rest', rest = bs ++ rest' ∧ n = bs.length + 1 ∧ ∀ b ∈ a :: bs, 0x80 ≤ b := by
  rcases rest with _ | ⟨b, rest⟩
  · cases h
  rw [width.eq_def] at h
  dsimp only at h
  split_ifs at h with htwo
  · obtain rfl := Option.some.inj h
    have ha : 0x80 ≤ a := UInt8.le_trans (by decide) htwo.1
    exact ⟨[b], rest, rfl, rfl, by simp [ha, high_of_isTail htwo.2.2]⟩
  · rcases rest with _ | ⟨c, rest⟩
    · cases h
    dsimp only at h
    split_ifs at h with hthree
    · obtain rfl := Option.some.inj h
      obtain ⟨ha, hb⟩ := high_of_startsThree hthree.1
      exact ⟨[b, c], rest, rfl, rfl, by simp [ha, hb, high_of_isTail hthree.2]⟩
    · rcases rest with _ | ⟨d, rest⟩
      · cases h
      dsimp only at h
      split_ifs at h with hfour
      obtain rfl := Option.some.inj h
      obtain ⟨ha, hb⟩ := high_of_startsFour hfour.1
      exact ⟨[b, c, d], rest, rfl, rfl,
        by simp [ha, hb, high_of_isTail hfour.2.1, high_of_isTail hfour.2.2]⟩

theorem high_of_width {a : UInt8} {rest : List UInt8} {n : ℕ} (h : width a rest = some n) :
    ∀ b ∈ (a :: rest).take n, 0x80 ≤ b := by
  obtain ⟨bs, rest', rfl, rfl, hhigh⟩ := width_spec h
  have htake : (a :: (bs ++ rest')).take (bs.length + 1) = a :: bs := by simp
  rwa [htake]

/-- The first rune of a text, and the rest of the text. -/
def decodeRune (a : UInt8) (rest : List UInt8) : Rune × List UInt8 :=
  if hascii : a < 0x80 then (.ascii a hascii, rest)
  else match h : width a rest with
    | some n => (.wide ((a :: rest).take n) (high_of_width h), (a :: rest).drop n)
    | none => (.invalid a, rest)

/-- The runes of a text. Each has a byte at least, so the length of the text is enough fuel. -/
def runesOf : ℕ → List UInt8 → List Rune
  | n + 1, a :: rest => (decodeRune a rest).1 :: runesOf n (decodeRune a rest).2
  | _, _ => []

/-- The runes of a text. -/
def runes (s : List UInt8) : List Rune := runesOf s.length s

theorem bytes_decodeRune (a : UInt8) (rest : List UInt8) :
    (decodeRune a rest).1.bytes ++ (decodeRune a rest).2 = a :: rest := by
  rw [decodeRune]
  split_ifs
  · rfl
  · split
    · exact List.take_append_drop _ _
    · rfl

theorem length_decodeRune (a : UInt8) (rest : List UInt8) :
    (decodeRune a rest).2.length ≤ rest.length := by
  rw [decodeRune]
  split_ifs
  · exact le_rfl
  · split
    · rename_i n h
      have hn : 1 ≤ n := by
        obtain ⟨bs, -, -, rfl, -⟩ := width_spec h
        omega
      simp only [List.length_drop, List.length_cons]
      omega
    · exact le_rfl

theorem flatMap_bytes_runesOf (n : ℕ) (s : List UInt8) (h : s.length ≤ n) :
    (runesOf n s).flatMap Rune.bytes = s := by
  induction n generalizing s with
  | zero =>
    rw [List.eq_nil_of_length_eq_zero (Nat.le_zero.1 h)]
    rfl
  | succ n ih =>
    rcases s with _ | ⟨a, rest⟩
    · rfl
    · have hlength := length_decodeRune a rest
      rw [List.length_cons] at h
      rw [runesOf, List.flatMap_cons, ih _ (by omega), bytes_decodeRune]

/-- The runes are the text. -/
theorem flatMap_bytes_runes (s : List UInt8) : (runes s).flatMap Rune.bytes = s :=
  flatMap_bytes_runesOf s.length s le_rfl

/-! ## Strings for JSON -/

theorem isPlain_of_high {b : UInt8} (h : 0x80 ≤ b) : IsPlain b := by
  have hb : 0x80 ≤ b.toNat := UInt8.le_iff_toNat_le.1 h
  refine ⟨UInt8.le_iff_toNat_le.2 (le_trans (by decide) hb), ?_, ?_⟩
  · rintro rfl
    simp at hb
  · rintro rfl
    simp at hb

/-- Bytes that stand for themselves. -/
def plainItems (bytes : List UInt8) (h : ∀ b ∈ bytes, 0x80 ≤ b) : List StrItem :=
  bytes.attach.map fun b => .plain ⟨b.1, isPlain_of_high (h b.1 b.2)⟩

theorem flatMap_plainItems {γ : Type} (f : StrItem → List γ) (g : UInt8 → γ)
    (hf : ∀ b, f (.plain b) = [g b.1]) (bytes : List UInt8) (h : ∀ b ∈ bytes, 0x80 ≤ b) :
    (plainItems bytes h).flatMap f = bytes.map g := by
  rw [plainItems, List.flatMap_map]
  simp only [hf]
  rw [← List.map_eq_flatMap]
  exact List.attach_map_val

/-- A rune as `encoding/json` writes it in a string. -/
def encodeRune : Rune → List StrItem
  | .ascii b _ =>
    if b = 0x22 then [.escape .quote]
    else if b = 0x5c then [.escape .backslash]
    else if b = 0x0a then [.escape .newline]
    else if b = 0x0d then [.escape .carriageReturn]
    else if b = 0x09 then [.escape .tab]
    else if h : IsPlain b ∧ isHtml b = false then [.plain ⟨b, h.1⟩]
    else [unicodeOf b.toNat]
  | .wide bytes h =>
    if bytes = [0xe2, 0x80, 0xa8] then [unicodeOf 0x2028]
    else if bytes = [0xe2, 0x80, 0xa9] then [unicodeOf 0x2029]
    else plainItems bytes h
  | .invalid _ => [unicodeOf 0xfffd]

/-- A string as `encoding/json` writes it. -/
def encodeString (s : List UInt8) : List StrItem := (runes s).flatMap encodeRune

/-- The bytes of a rune, and of U+FFFD for an invalid byte. -/
def Rune.sanitize : Rune → List UInt8
  | invalid _ => [0xef, 0xbf, 0xbd]
  | r => r.bytes

/-- The string with U+FFFD for each invalid byte. -/
def sanitize (s : List UInt8) : List UInt8 := (runes s).flatMap Rune.sanitize

theorem sanitize_eq_self {s : List UInt8} (h : ∀ r ∈ runes s, r.sanitize = r.bytes) :
    sanitize s = s := by
  have hbytes : (runes s).flatMap Rune.sanitize = (runes s).flatMap Rune.bytes :=
    List.flatMap_congr h
  rw [sanitize, hbytes, flatMap_bytes_runes]

/-- The text that a string is read as. -/
def textOf (s : List UInt8) : List TextUnit := (sanitize s).map .byte

theorem meaning_flatMap {α : Type} (l : List α) (f : α → List StrItem) :
    meaning (l.flatMap f) = l.flatMap fun x => meaning (f x) :=
  List.flatMap_assoc

theorem meaning_encodeRune (r : Rune) : meaning (encodeRune r) = r.sanitize.map .byte := by
  rcases r with ⟨b, h⟩ | ⟨bytes, h⟩ | b
  · rw [encodeRune]
    split_ifs with h₁ h₂ h₃ h₄ h₅ hplain
    · subst h₁
      rfl
    · subst h₂
      rfl
    · subst h₃
      rfl
    · subst h₄
      rfl
    · subst h₅
      rfl
    · rfl
    · have hmeaning := meaning_unicodeOf_ascii ⟨b.toNat, UInt8.lt_iff_toNat_lt.1 h⟩
      rw [UInt8.ofNat_toNat] at hmeaning
      rw [meaning_cons, hmeaning]
      rfl
  · rw [encodeRune]
    split_ifs with h₁ h₂
    · subst h₁
      have hmeaning : meaning [unicodeOf 0x2028] = [.byte 0xe2, .byte 0x80, .byte 0xa8] := by decide
      exact hmeaning
    · subst h₂
      have hmeaning : meaning [unicodeOf 0x2029] = [.byte 0xe2, .byte 0x80, .byte 0xa9] := by decide
      exact hmeaning
    · exact flatMap_plainItems StrItem.meaning TextUnit.byte (fun _ => rfl) bytes h
  · have hmeaning : meaning [unicodeOf 0xfffd] = [.byte 0xef, .byte 0xbf, .byte 0xbd] := by decide
    exact hmeaning

/-- A string for JSON means the text of the Go string. -/
theorem meaning_encodeString (s : List UInt8) : meaning (encodeString s) = textOf s := by
  rw [encodeString, meaning_flatMap, textOf, sanitize, List.map_flatMap]
  congr 1
  funext r
  exact meaning_encodeRune r

/-! ## Strings in the syntax of Go -/

/-- The number of a rune above ASCII. -/
def code (bytes : List UInt8) : ℕ :=
  match bytes.map UInt8.toNat with
  | [a, b] => (a - 0xc0) * 64 + (b - 0x80)
  | [a, b, c] => ((a - 0xe0) * 64 + (b - 0x80)) * 64 + (c - 0x80)
  | [a, b, c, d] => (((a - 0xf0) * 64 + (b - 0x80)) * 64 + (c - 0x80)) * 64 + (d - 0x80)
  | _ => 0

/-- A byte as `%q` writes it where it is invalid. -/
def hexEscape (b : UInt8) : List UInt8 :=
  [0x5c, 0x78, hexByte (b.toNat / 16), hexByte (b.toNat % 16)]

section Quote

-- `strconv.IsPrint`, above ASCII.
variable (isPrint : ℕ → Bool)

/-- A rune as `%q` writes it. -/
def quoteRune : Rune → List UInt8
  | .ascii b _ =>
    if b = 0x22 ∨ b = 0x5c then [0x5c, b]
    else if 0x20 ≤ b ∧ b < 0x7f then [b]
    else if b = 0x07 then [0x5c, 0x61]
    else if b = 0x08 then [0x5c, 0x62]
    else if b = 0x0c then [0x5c, 0x66]
    else if b = 0x0a then [0x5c, 0x6e]
    else if b = 0x0d then [0x5c, 0x72]
    else if b = 0x09 then [0x5c, 0x74]
    else if b = 0x0b then [0x5c, 0x76]
    else if b < 0x20 then hexEscape b
    else (unicodeOf b.toNat).bytes
  | .wide bytes _ =>
    if isPrint (code bytes) then bytes
    else if code bytes < 0x10000 then (unicodeOf (code bytes)).bytes
    else [0x5c, 0x55] ++ ([7, 6, 5, 4, 3, 2, 1, 0].map fun i => hexByte (code bytes / 16 ^ i % 16))
  | .invalid b => hexEscape b

/-- `fmt.Sprintf("%q", s)` -/
def quote (s : List UInt8) : List UInt8 := 0x22 :: (runes s).flatMap (quoteRune isPrint) ++ [0x22]

/-- The escape that Go uses for the rune, if any, is one of JSON. -/
def Escapes : Rune → Prop
  | .ascii b _ => 0x20 ≤ b ∨ b ∈ ([0x08, 0x0c, 0x0a, 0x0d, 0x09] : List UInt8)
  | .wide bytes _ => isPrint (code bytes) = true ∨ code bytes < 0x10000
  | .invalid _ => False

theorem lexBytes_plain (s : List StrItem) (ts : List RawToken) (bytes : List UInt8)
    (h : ∀ b ∈ bytes, 0x80 ≤ b) : ∃ items,
      lexBytes ⟨.str s, ts⟩ bytes = some ⟨.str (s ++ items), ts⟩ := by
  have hbytes : (plainItems bytes h).flatMap StrItem.bytes = bytes := by
    rw [flatMap_plainItems StrItem.bytes id (fun _ => rfl), List.map_id]
  have hlex := lexBytes_items s (plainItems bytes h) ts
  rw [hbytes] at hlex
  exact ⟨_, hlex⟩

/-- An escape that JSON has is read in a string. -/
theorem lexBytes_quoteRune_of_escapes {r : Rune} (h : Escapes isPrint r) (s : List StrItem)
    (ts : List RawToken) : ∃ items,
      lexBytes ⟨.str s, ts⟩ (quoteRune isPrint r) = some ⟨.str (s ++ items), ts⟩ := by
  rcases r with ⟨b, hb⟩ | ⟨bytes, hhigh⟩ | b
  · rw [quoteRune]
    split_ifs with hquote hprint hbell hback hform hnewline hreturn htab hvertical hcontrol
    · rcases hquote with rfl | rfl
      · exact ⟨_, lexBytes_item s ts (.escape .quote)⟩
      · exact ⟨_, lexBytes_item s ts (.escape .backslash)⟩
    · rw [not_or] at hquote
      exact ⟨_, lexBytes_item s ts (.plain ⟨b, hprint.1, hquote.1, hquote.2⟩)⟩
    · subst hbell
      exact absurd h (by simp [Escapes])
    · exact ⟨_, lexBytes_item s ts (.escape .backspace)⟩
    · exact ⟨_, lexBytes_item s ts (.escape .formFeed)⟩
    · exact ⟨_, lexBytes_item s ts (.escape .newline)⟩
    · exact ⟨_, lexBytes_item s ts (.escape .carriageReturn)⟩
    · exact ⟨_, lexBytes_item s ts (.escape .tab)⟩
    · subst hvertical
      exact absurd h (by simp [Escapes])
    · have hlow : ¬0x20 ≤ b := UInt8.not_le.2 hcontrol
      exact absurd h (by simp [Escapes, hlow, hback, hform, hnewline, hreturn, htab])
    · exact ⟨_, lexBytes_item s ts (unicodeOf b.toNat)⟩
  · rw [quoteRune]
    split_ifs with hprint hcode
    · exact lexBytes_plain s ts bytes hhigh
    · exact ⟨_, lexBytes_item s ts (unicodeOf (code bytes))⟩
    · exact absurd h (by simp [Escapes, hprint, hcode])
  · exact h.elim

/-- A backslash before a letter that JSON has no escape for. -/
theorem lexBytes_badEscape (s : List StrItem) (ts : List RawToken) {letter : UInt8}
    (h : letter ∈ ([0x61, 0x76, 0x78, 0x55] : List UInt8)) (bs : List UInt8) :
    lexBytes ⟨.str s, ts⟩ (0x5c :: letter :: bs) = none := by
  have hescape : escape? letter = none ∧ letter ≠ 0x75 := by
    have hcases : letter = 0x61 ∨ letter = 0x76 ∨ letter = 0x78 ∨ letter = 0x55 := by
      simpa using h
    rcases hcases with rfl | rfl | rfl | rfl
    all_goals decide
  have hopen : lexByte ⟨.str s, ts⟩ 0x5c = some ⟨.escape s, ts⟩ := rfl
  rw [lexBytes_cons, hopen, Option.bind_some, lexBytes_cons]
  simp [lexByte, hescape.1, hescape.2]

/-- No other one is. -/
theorem lexBytes_quoteRune_of_not_escapes {r : Rune} (h : ¬Escapes isPrint r) (s : List StrItem)
    (ts : List RawToken) : lexBytes ⟨.str s, ts⟩ (quoteRune isPrint r) = none := by
  rcases r with ⟨b, hb⟩ | ⟨bytes, hhigh⟩ | b
  · rw [Escapes, not_or] at h
    rw [quoteRune]
    split_ifs with hquote hprint hbell hback hform hnewline hreturn htab hvertical hcontrol
    · rcases hquote with rfl | rfl
      · exact absurd (by decide) h.1
      · exact absurd (by decide) h.1
    · exact absurd hprint.1 h.1
    · exact lexBytes_badEscape s ts (by decide) []
    · exact absurd (by simp [hback]) h.2
    · exact absurd (by simp [hform]) h.2
    · exact absurd (by simp [hnewline]) h.2
    · exact absurd (by simp [hreturn]) h.2
    · exact absurd (by simp [htab]) h.2
    · exact lexBytes_badEscape s ts (by decide) []
    · exact lexBytes_badEscape s ts (by decide) _
    · exact absurd (UInt8.not_lt.1 hcontrol) h.1
  · rw [Escapes, not_or] at h
    rw [quoteRune, if_neg h.1, if_neg h.2]
    exact lexBytes_badEscape s ts (by decide) _
  · exact lexBytes_badEscape s ts (by decide) _

/-- The quoted text is a string of JSON. -/
theorem lex_quote_of_escapes {s : List UInt8} (h : ∀ r ∈ runes s, Escapes isPrint r) :
    ∃ items, lex (quote isPrint s) = some [.str items] := by
  have hrun : ∀ (rs : List Rune), (∀ r ∈ rs, Escapes isPrint r) → ∀ items, ∃ items',
      lexBytes ⟨.str items, []⟩ (rs.flatMap (quoteRune isPrint)) = some ⟨.str items', []⟩ := by
    intro rs
    induction rs with
    | nil => exact fun _ items => ⟨items, rfl⟩
    | cons r rs ih =>
      intro hrs items
      obtain ⟨more, hmore⟩ := lexBytes_quoteRune_of_escapes isPrint (hrs r List.mem_cons_self)
        items []
      obtain ⟨items', hitems'⟩ := ih (fun r' hr' => hrs r' (List.mem_cons_of_mem _ hr'))
        (items ++ more)
      refine ⟨items', ?_⟩
      rw [List.flatMap_cons, lexBytes_append, hmore, Option.bind_some, hitems']
  obtain ⟨items, hitems⟩ := hrun (runes s) h []
  have hopen : lexByte ⟨.between, []⟩ 0x22 = some ⟨.str [], []⟩ := rfl
  refine ⟨items, ?_⟩
  rw [lex, quote, List.cons_append, lexBytes_cons, hopen, Option.bind_some, lexBytes_append,
    hitems]
  rfl

/-- The quoted text is no JSON. -/
theorem lex_quote_of_not_escapes {s : List UInt8} (h : ¬∀ r ∈ runes s, Escapes isPrint r) :
    lex (quote isPrint s) = none := by
  have hrun : ∀ (rs : List Rune), (¬∀ r ∈ rs, Escapes isPrint r) → ∀ items,
      lexBytes ⟨.str items, []⟩ (rs.flatMap (quoteRune isPrint)) = none := by
    intro rs
    induction rs with
    | nil => exact fun h => absurd (fun _ h => (List.not_mem_nil h).elim) h
    | cons r rs ih =>
      intro hrs items
      rw [List.forall_mem_cons, not_and_or] at hrs
      rw [List.flatMap_cons, lexBytes_append]
      by_cases hr : Escapes isPrint r
      · obtain ⟨more, hmore⟩ := lexBytes_quoteRune_of_escapes isPrint hr items []
        rw [hmore, Option.bind_some]
        exact ih (hrs.resolve_left (not_not.2 hr)) _
      · rw [lexBytes_quoteRune_of_not_escapes isPrint hr]
        rfl
  have hopen : lexByte ⟨.between, []⟩ 0x22 = some ⟨.str [], []⟩ := rfl
  rw [lex, quote, List.cons_append, lexBytes_cons, hopen, Option.bind_some, lexBytes_append,
    hrun (runes s) h []]
  rfl

end Quote

/-! ## Numbers -/

/-- The digits of a number. -/
def decimal (n : ℕ) : List UInt8 :=
  if n = 0 then [0x30] else ((Nat.digits 10 n).reverse.map fun d => UInt8.ofNat (0x30 + d))

theorem isDigit_digit : ∀ d : Fin 10, isDigit (UInt8.ofNat (0x30 + d)) = true ∧
    isWordByte (UInt8.ofNat (0x30 + d)) = true := by
  decide

theorem isNumber_cons {d : ℕ} (hd : d < 10) (hne : d ≠ 0) (ds : List UInt8) :
    isNumber (UInt8.ofNat (0x30 + d) :: ds) = isFraction (ds.dropWhile isDigit) := by
  obtain ⟨d, rfl⟩ := Nat.exists_eq_succ_of_ne_zero hne
  rcases d with _ | _ | _ | _ | _ | _ | _ | _ | _ | d
  · rfl
  · rfl
  · rfl
  · rfl
  · rfl
  · rfl
  · rfl
  · rfl
  · rfl
  · omega

theorem isWord_decimal (n : ℕ) : IsWord (decimal n) := by
  by_cases hzero : n = 0
  · subst hzero
    decide
  rw [decimal, if_neg hzero]
  have hdigit : ∀ d ∈ (Nat.digits 10 n).reverse, d < 10 := fun d hd =>
    Nat.digits_lt_base (by decide) (List.mem_reverse.1 hd)
  have hne : Nat.digits 10 n ≠ [] := Nat.digits_ne_nil_iff_ne_zero.2 hzero
  have hlast := Nat.getLast_digit_ne_zero 10 hzero
  rw [← List.head_reverse (List.reverse_ne_nil_iff.2 hne)] at hlast
  obtain ⟨d, ds, hds⟩ := List.exists_cons_of_ne_nil (List.reverse_ne_nil_iff.2 hne)
  simp only [hds, List.head_cons] at hlast hdigit ⊢
  have hall : ∀ b ∈ (d :: ds).map fun d => UInt8.ofNat (0x30 + d),
      isDigit b = true ∧ isWordByte b = true := by
    intro b hb
    obtain ⟨e, he, rfl⟩ := List.mem_map.1 hb
    exact isDigit_digit ⟨e, hdigit e he⟩
  refine ⟨by simp, List.all_eq_true.2 fun b hb => (hall b hb).2, Or.inr ?_⟩
  have hdrop : (ds.map fun d => UInt8.ofNat (0x30 + d)).dropWhile isDigit = [] :=
    List.dropWhile_eq_nil_iff.2 fun b hb => (hall b (List.mem_cons_of_mem _ hb)).1
  rw [List.map_cons, isNumber_cons (hdigit d List.mem_cons_self) hlast, hdrop]
  rfl

/-- A number as a word. -/
def number (n : ℕ) : Word := ⟨decimal n, isWord_decimal n⟩

end GoText

end Lib
