import Mathlib.Data.List.Chain
import Mathlib.Data.Nat.Notation

/-!
# The tokens of JSON

JSON texts are lists of bytes. `lex` splits a text into tokens, one byte at a time, and `write`
puts tokens next to each other, without white space. Tokens are read back from what is written
of them (`lex_write`), unless two words, the only tokens that run together, stand next to each
other.
-/

namespace Lib

namespace Json

/-! ## Bytes -/

/-- White space between tokens. -/
def isSpace (b : UInt8) : Bool := b = 0x20 || b = 0x09 || b = 0x0a || b = 0x0d

/-- The tokens that are one character. -/
inductive Punct
  | braceOpen
  | braceClose
  | bracketOpen
  | bracketClose
  | comma
  | colon
  deriving DecidableEq

/-- The character of such a token. -/
def Punct.byte : Punct → UInt8
  | braceOpen => 0x7b
  | braceClose => 0x7d
  | bracketOpen => 0x5b
  | bracketClose => 0x5d
  | comma => 0x2c
  | colon => 0x3a

/-- The token of a character, if it is one. -/
def punct? (b : UInt8) : Option Punct :=
  [.braceOpen, .braceClose, .bracketOpen, .bracketClose, .comma, .colon].find? fun p => p.byte = b

@[simp] theorem punct?_byte (p : Punct) : punct? p.byte = some p := by
  cases p <;> rfl

@[simp] theorem isSpace_byte (p : Punct) : isSpace p.byte = false := by
  cases p <;> rfl

/-- A byte of a literal or a number. -/
def isWordByte (b : UInt8) : Bool := !isSpace b && (punct? b).isNone && b ≠ 0x22

/-- A digit. -/
def isDigit (b : UInt8) : Bool := 0x30 ≤ b && b ≤ 0x39

/-- A hexadecimal digit. -/
def isHex (b : UInt8) : Bool :=
  isDigit b || (0x61 ≤ b && b ≤ 0x66) || (0x41 ≤ b && b ≤ 0x46)

/-! ## Words -/

/-- The exponent of a number, if there is one. -/
def isExponent : List UInt8 → Bool
  | [] => true
  | e :: ds =>
    (e = 0x65 || e = 0x45) &&
      match ds with
      | [] => false
      | s :: ds' =>
        if s = 0x2b || s = 0x2d then ds' ≠ [] && ds'.all isDigit else ds.all isDigit

/-- The fraction and the exponent of a number. -/
def isFraction : List UInt8 → Bool
  | 0x2e :: d :: ds => isDigit d && isExponent (ds.dropWhile isDigit)
  | ds => isExponent ds

/-- A number without a sign. It begins with zero only if nothing else stands before the point. -/
def isUnsigned : List UInt8 → Bool
  | [] => false
  | d :: ds =>
    if d = 0x30 then isFraction ds
    else isDigit d && isFraction (ds.dropWhile isDigit)

/-- A number. -/
def isNumber (w : List UInt8) : Bool :=
  match w with
  | 0x2d :: ds => isUnsigned ds
  | ds => isUnsigned ds

/-- The text `null`. -/
def nullBytes : List UInt8 := [0x6e, 0x75, 0x6c, 0x6c]

/-- One of the three literals. -/
def isLiteral (w : List UInt8) : Bool :=
  w = nullBytes || w = [0x74, 0x72, 0x75, 0x65] || w = [0x66, 0x61, 0x6c, 0x73, 0x65]

/-- A literal or a number. -/
def IsWord (w : List UInt8) : Prop :=
  w ≠ [] ∧ w.all isWordByte = true ∧ (isLiteral w = true ∨ isNumber w = true)

instance (w : List UInt8) : Decidable (IsWord w) := inferInstanceAs (Decidable (_ ∧ _ ∧ _))

/-- A literal or a number. -/
abbrev Word := { w : List UInt8 // IsWord w }

/-! ## Strings -/

/-- A byte that stands for itself in a string. -/
def IsPlain (b : UInt8) : Prop := 0x20 ≤ b ∧ b ≠ 0x22 ∧ b ≠ 0x5c

instance (b : UInt8) : Decidable (IsPlain b) := inferInstanceAs (Decidable (_ ∧ _ ∧ _))

/-- The escapes of one letter. -/
inductive Escape
  | quote
  | backslash
  | slash
  | backspace
  | formFeed
  | newline
  | carriageReturn
  | tab

/-- What stands after the backslash. -/
def Escape.letter : Escape → UInt8
  | quote => 0x22
  | backslash => 0x5c
  | slash => 0x2f
  | backspace => 0x62
  | formFeed => 0x66
  | newline => 0x6e
  | carriageReturn => 0x72
  | tab => 0x74

/-- The character that is meant. -/
def Escape.value : Escape → UInt8
  | quote => 0x22
  | backslash => 0x5c
  | slash => 0x2f
  | backspace => 0x08
  | formFeed => 0x0c
  | newline => 0x0a
  | carriageReturn => 0x0d
  | tab => 0x09

/-- The escape of a letter, if it is one. -/
def escape? (b : UInt8) : Option Escape :=
  [.quote, .backslash, .slash, .backspace, .formFeed, .newline, .carriageReturn, .tab].find?
    fun e => e.letter = b

@[simp] theorem escape?_letter (e : Escape) : escape? e.letter = some e := by
  cases e <;> rfl

/-- A hexadecimal digit of an escape. -/
abbrev HexDigit := { b : UInt8 // isHex b = true }

/-- The value of a digit. -/
def HexDigit.value (d : HexDigit) : ℕ :=
  if isDigit d.1 then d.1.toNat - 0x30
  else if d.1 < 0x60 then d.1.toNat - 0x37 else d.1.toNat - 0x57

/-- What a string is written with. -/
inductive StrItem
  | plain (b : { b : UInt8 // IsPlain b })
  | escape (e : Escape)
  | unicode (h₁ h₂ h₃ h₄ : HexDigit)

/-- How an item of a string is written. -/
def StrItem.bytes : StrItem → List UInt8
  | plain b => [b.1]
  | escape e => [0x5c, e.letter]
  | unicode h₁ h₂ h₃ h₄ => [0x5c, 0x75, h₁.1, h₂.1, h₃.1, h₄.1]

/-! ## Tokens -/

/-- A token, with strings of any kind. -/
inductive Token (S : Type)
  | punct (p : Punct)
  | word (w : Word)
  | str (s : S)

/-- The token with its string changed. -/
def Token.map {S T : Type} (f : S → T) : Token S → Token T
  | punct p => .punct p
  | word w => .word w
  | str s => .str (f s)

/-- The token is a literal or a number. -/
def Token.IsWord {S : Type} : Token S → Prop
  | word _ => True
  | _ => False

/-- A token as it is written. -/
abbrev RawToken := Token (List StrItem)

/-- How a string is written. -/
def strBytes (s : List StrItem) : List UInt8 := 0x22 :: s.flatMap StrItem.bytes ++ [0x22]

/-- How a token is written. -/
def Token.bytes : RawToken → List UInt8
  | punct p => [p.byte]
  | word w => w.1
  | str s => strBytes s

/-- The tokens next to each other. -/
def write (ts : List RawToken) : List UInt8 := ts.flatMap Token.bytes

/-! ## Lexing -/

/-- Where the lexer stands. -/
inductive Mode
  | between
  | word (w : List UInt8)
  | str (s : List StrItem)
  /-- After a backslash. -/
  | escape (s : List StrItem)
  /-- In the digits of a unicode escape. -/
  | hex (s : List StrItem) (ds : List HexDigit)

/-- The lexer between two bytes. -/
structure LexState where
  mode : Mode
  /-- The tokens so far. -/
  tokens : List RawToken

/-- The end of a word. -/
def flush (w : List UInt8) (ts : List RawToken) : Option (List RawToken) :=
  if h : IsWord w then some (ts ++ [.word ⟨w, h⟩]) else none

/-- A byte between two tokens, or after a word. -/
def lexBetween (ts : List RawToken) (b : UInt8) : LexState :=
  if isSpace b then ⟨.between, ts⟩
  else match punct? b with
    | some p => ⟨.between, ts ++ [.punct p]⟩
    | none => if b = 0x22 then ⟨.str [], ts⟩ else ⟨.word [b], ts⟩

/-- The lexer after a byte. Fails where the byte cannot stand. -/
def lexByte : LexState → UInt8 → Option LexState
  | ⟨.between, ts⟩, b => some (lexBetween ts b)
  | ⟨.word w, ts⟩, b =>
    if isWordByte b then some ⟨.word (w ++ [b]), ts⟩
    else (flush w ts).map fun ts => lexBetween ts b
  | ⟨.str s, ts⟩, b =>
    if b = 0x22 then some ⟨.between, ts ++ [.str s]⟩
    else if b = 0x5c then some ⟨.escape s, ts⟩
    else if h : IsPlain b then some ⟨.str (s ++ [.plain ⟨b, h⟩]), ts⟩
    else none
  | ⟨.escape s, ts⟩, b =>
    match escape? b with
    | some e => some ⟨.str (s ++ [.escape e]), ts⟩
    | none => if b = 0x75 then some ⟨.hex s [], ts⟩ else none
  | ⟨.hex s ds, ts⟩, b =>
    if h : isHex b = true then
      match ds with
      | [h₁, h₂, h₃] => some ⟨.str (s ++ [.unicode h₁ h₂ h₃ ⟨b, h⟩]), ts⟩
      | _ => some ⟨.hex s (ds ++ [⟨b, h⟩]), ts⟩
    else none

/-- The lexer after some bytes. -/
def lexBytes (st : LexState) (bs : List UInt8) : Option LexState := bs.foldlM lexByte st

/-- The tokens of a text that ends. -/
def lexEnd : LexState → Option (List RawToken)
  | ⟨.between, ts⟩ => some ts
  | ⟨.word w, ts⟩ => flush w ts
  | _ => none

/-- The tokens of a text. -/
def lex (bs : List UInt8) : Option (List RawToken) := (lexBytes ⟨.between, []⟩ bs).bind lexEnd

theorem lexBytes_append (st : LexState) (bs bs' : List UInt8) :
    lexBytes st (bs ++ bs') = (lexBytes st bs).bind (lexBytes · bs') :=
  List.foldlM_append

@[simp] theorem lexBytes_nil (st : LexState) : lexBytes st [] = some st :=
  rfl

@[simp] theorem lexBytes_cons (st : LexState) (b : UInt8) (bs : List UInt8) :
    lexBytes st (b :: bs) = (lexByte st b).bind (lexBytes · bs) :=
  rfl

/-! ### Reading back -/

theorem lexBytes_item (s : List StrItem) (ts : List RawToken) (i : StrItem) :
    lexBytes ⟨.str s, ts⟩ i.bytes = some ⟨.str (s ++ [i]), ts⟩ := by
  rcases i with ⟨b, hb⟩ | e | ⟨⟨b₁, h₁⟩, ⟨b₂, h₂⟩, ⟨b₃, h₃⟩, ⟨b₄, h₄⟩⟩
  · simp [StrItem.bytes, lexByte, hb, hb.2.1, hb.2.2]
  · simp [StrItem.bytes, lexByte]
  · have hu : escape? 0x75 = none := rfl
    simp [StrItem.bytes, lexByte, hu, h₁, h₂, h₃, h₄]

theorem lexBytes_items (s items : List StrItem) (ts : List RawToken) :
    lexBytes ⟨.str s, ts⟩ (items.flatMap StrItem.bytes) = some ⟨.str (s ++ items), ts⟩ := by
  induction items generalizing s with
  | nil => simp
  | cons i items ih =>
    rw [List.flatMap_cons, lexBytes_append, lexBytes_item, Option.bind_some, ih,
      List.append_assoc]
    rfl

theorem lexBytes_strBytes (s : List StrItem) (ts : List RawToken) :
    lexBytes ⟨.between, ts⟩ (strBytes s) = some ⟨.between, ts ++ [.str s]⟩ := by
  have hopen : lexByte ⟨.between, ts⟩ 0x22 = some ⟨.str [], ts⟩ := rfl
  rw [strBytes, List.cons_append, lexBytes_cons, hopen, Option.bind_some, lexBytes_append,
    lexBytes_items, List.nil_append, Option.bind_some]
  simp [lexByte]

theorem lexBytes_word (w : List UInt8) (hne : w ≠ []) (hw : w.all isWordByte = true)
    (ts : List RawToken) : lexBytes ⟨.between, ts⟩ w = some ⟨.word w, ts⟩ := by
  obtain ⟨b, bs, rfl⟩ := List.exists_cons_of_ne_nil hne
  rw [List.all_cons, Bool.and_eq_true] at hw
  have hfirst : lexByte ⟨.between, ts⟩ b = some ⟨.word [b], ts⟩ := by
    have hb := hw.1
    simp only [isWordByte, Bool.and_eq_true, Bool.not_eq_true', Option.isNone_iff_eq_none,
      decide_eq_true_eq] at hb
    simp [lexByte, lexBetween, hb.1.1, hb.1.2, hb.2]
  have hrest : ∀ (bs w : List UInt8), bs.all isWordByte = true →
      lexBytes ⟨.word w, ts⟩ bs = some ⟨.word (w ++ bs), ts⟩ := by
    intro bs
    induction bs with
    | nil => simp
    | cons c cs ih =>
      intro w hcs
      rw [List.all_cons, Bool.and_eq_true] at hcs
      have hstep : lexByte ⟨.word w, ts⟩ c = some ⟨.word (w ++ [c]), ts⟩ := if_pos hcs.1
      rw [lexBytes_cons, hstep, Option.bind_some, ih _ hcs.2, List.append_assoc]
      rfl
  rw [lexBytes_cons, hfirst, Option.bind_some, hrest bs [b] hw.2]
  rfl

/-- No two words stand next to each other. -/
def Separated {S : Type} (ts : List (Token S)) : Prop :=
  List.IsChain (fun t t' => ¬(t.IsWord ∧ t'.IsWord)) ts

/-- Where the lexer stands after tokens that are written : a last word is not over. -/
def afterTokens (ts : List RawToken) : LexState :=
  match ts.getLast? with
  | some (.word w) => ⟨.word w.1, ts.dropLast⟩
  | _ => ⟨.between, ts⟩

theorem lexEnd_afterTokens (ts : List RawToken) : lexEnd (afterTokens ts) = some ts := by
  rcases List.eq_nil_or_concat ts with rfl | ⟨ts, t, rfl⟩
  · rfl
  · rcases t with p | w | s
    · simp [afterTokens, lexEnd]
    · simp [afterTokens, lexEnd, flush, w.2]
    · simp [afterTokens, lexEnd]

/-- One more token that does not run into the last one. -/
theorem lexBytes_afterTokens (ts : List RawToken) (t : RawToken)
    (h : ∀ t' ∈ ts.getLast?, ¬(t'.IsWord ∧ t.IsWord)) :
    lexBytes (afterTokens ts) t.bytes = some (afterTokens (ts ++ [t])) := by
  -- A token that is no word ends a word before it.
  have hends : ∀ b bs, isWordByte b = false →
      lexBytes (afterTokens ts) (b :: bs) = lexBytes ⟨.between, ts⟩ (b :: bs) := by
    intro b bs hb
    rcases List.eq_nil_or_concat ts with rfl | ⟨ts, t', rfl⟩
    · rfl
    · rcases t' with p | w | s
      · simp [afterTokens]
      · simp [afterTokens, lexByte, hb, flush, w.2]
      · simp [afterTokens]
  rcases t with p | w | s
  · have hb : isWordByte p.byte = false := by simp [isWordByte]
    rw [Token.bytes, hends p.byte [] hb]
    simp [lexByte, lexBetween, afterTokens]
  · have hmode : afterTokens ts = ⟨.between, ts⟩ := by
      rcases List.eq_nil_or_concat ts with rfl | ⟨ts, t', rfl⟩
      · rfl
      · have hno := h t' (by simp)
        rcases t' with p | w' | s
        · simp [afterTokens]
        · exact absurd ⟨trivial, trivial⟩ hno
        · simp [afterTokens]
    rw [hmode, Token.bytes, lexBytes_word w.1 w.2.1 w.2.2.1]
    simp [afterTokens]
  · have hb : isWordByte 0x22 = false := rfl
    rw [Token.bytes, strBytes, List.cons_append, hends _ _ hb, ← List.cons_append, ← strBytes,
      lexBytes_strBytes]
    simp [afterTokens]

theorem lexBytes_write (ts : List RawToken) (h : Separated ts) :
    lexBytes ⟨.between, []⟩ (write ts) = some (afterTokens ts) := by
  induction ts using List.reverseRecOn with
  | nil => rfl
  | append_singleton ts t ih =>
    have hts : Separated ts := (List.isChain_append.1 h).1
    have hlast := (List.isChain_append.1 h).2.2
    rw [write, List.flatMap_append, lexBytes_append]
    rw [write] at ih
    rw [ih hts, Option.bind_some, List.flatMap_cons, List.flatMap_nil, List.append_nil]
    exact lexBytes_afterTokens ts t fun t' ht' => hlast t' ht' t (by simp)

/-- Tokens that are written are read back. -/
theorem lex_write (ts : List RawToken) (h : Separated ts) : lex (write ts) = some ts := by
  rw [lex, lexBytes_write ts h, Option.bind_some, lexEnd_afterTokens]

/-- White space ends a last word. -/
theorem lexByte_space (ts : List RawToken) {b : UInt8} (hb : isSpace b = true) :
    lexByte (afterTokens ts) b = some ⟨.between, ts⟩ := by
  rcases List.eq_nil_or_concat ts with rfl | ⟨ts, t, rfl⟩
  · simp [afterTokens, lexByte, lexBetween, hb]
  · rcases t with p | w | s
    · simp [afterTokens, lexByte, lexBetween, hb]
    · simp [afterTokens, lexByte, lexBetween, hb, isWordByte, flush, w.2]
    · simp [afterTokens, lexByte, lexBetween, hb]

end Json

end Lib
