import Mathlib.Data.Int.Log
import Mathlib.Data.Rat.Floor
import Stratos.Lib.GoText

/-!
# Untyped values

`encoding/json` decodes a value into a variable of no type as a boolean, a `float64`, a string, a
slice or a map (`decode`). A string has U+FFFD for what is no text (`goString`). A number is rounded
to the nearest double, and one that is too large is an error of the whole text (`parseFloat`). In a
map the last of several fields with one key counts (`lookup`).
-/

namespace Lib

namespace Json

/-! ## Strings -/

/-- U+FFFD -/
def replacement : List UInt8 := [0xef, 0xbf, 0xbd]

/-- A high surrogate with a low one after it is one rune. -/
def pairSurrogates : List TextUnit → List UInt8
  | [] => []
  | .byte b :: s => b :: pairSurrogates s
  | .surrogate u :: .surrogate v :: s =>
    if u < 0xdc00 ∧ 0xdc00 ≤ v then
      utf8 (0x10000 + (u - 0xd800) * 0x400 + (v - 0xdc00)) ++ pairSurrogates s
    else replacement ++ pairSurrogates (.surrogate v :: s)
  | .surrogate _ :: s => replacement ++ pairSurrogates s

/-- `unquote` -/
def goString (s : List TextUnit) : List UInt8 := GoText.sanitize (pairSurrogates s)

/-! ## Numbers -/

/-- The number of some digits. -/
def digitsValue (ds : List UInt8) : ℕ := ds.foldl (fun n d => 10 * n + (d.toNat - 0x30)) 0

/-- Digits with a sign or without. -/
def signedValue : List UInt8 → ℤ
  | 0x2d :: ds => -digitsValue ds
  | 0x2b :: ds => digitsValue ds
  | ds => digitsValue ds

/-- `strconv.Atoi`, where an `int` has 64 bits. -/
def atoi (s : List UInt8) : Option ℤ :=
  let ds := if s.head? = some 0x2d ∨ s.head? = some 0x2b then s.drop 1 else s
  if ds ≠ [] ∧ ds.all isDigit ∧ -2 ^ 63 ≤ signedValue s ∧ signedValue s < 2 ^ 63 then
    some (signedValue s)
  else none

/-- The number that a literal of JSON stands for. -/
def literalValue (w : List UInt8) : ℚ :=
  let unsigned := if w.head? = some 0x2d then w.drop 1 else w
  let rest := unsigned.dropWhile isDigit
  let fraction := if rest.head? = some 0x2e then (rest.drop 1).takeWhile isDigit else []
  let exponent := if rest.head? = some 0x2e then (rest.drop 1).dropWhile isDigit else rest
  let magnitude : ℚ := digitsValue (unsigned.takeWhile isDigit ++ fraction) *
    10 ^ (signedValue (exponent.drop 1) - fraction.length)
  if w.head? = some 0x2d then -magnitude else magnitude

/-- The nearest integer, and the even one of two. -/
def roundHalfEven (x : ℚ) : ℤ :=
  let n := ⌊x⌋
  if x - n < 1 / 2 then n
  else if 1 / 2 < x - n then n + 1
  else if n % 2 = 0 then n
  else n + 1

/-- The nearest double, unless the number is too large for one. -/
def roundFloat64 (x : ℚ) : Option ℚ :=
  let ulp : ℚ := 2 ^ (max (Int.log 2 |x|) (-1022) - 52)
  let rounded := roundHalfEven (x / ulp) * ulp
  if |rounded| < 2 ^ 1024 then some rounded else none

/-- `strconv.ParseFloat` -/
def parseFloat (w : List UInt8) : Option ℚ := roundFloat64 (literalValue w)

/-! ## Values -/

/-- What an `interface{}` holds after `json.Unmarshal`. -/
inductive Untyped
  | nil
  | bool (b : Bool)
  | float64 (x : ℚ)
  | string (s : List UInt8)
  | slice (items : List Untyped)
  | map (fields : List (List UInt8 × Untyped))

/-- The value of a word. A number that a `float64` cannot hold is none. -/
def decodeWord (w : Word) : Option Untyped :=
  if w.1 = nullBytes then some .nil
  else if isLiteral w.1 then some (.bool (w.1.head? = some 0x74))
  else (parseFloat w.1).map .float64

mutual

/-- The value, as `json.Unmarshal` makes it for an interface. -/
def decode : Value → Option Untyped
  | .word w => decodeWord w
  | .str s => some (.string (goString s))
  | .arr items => (decodeItems items).map .slice
  | .obj fields => (decodeFields fields).map .map

/-- The values of an array. -/
def decodeItems : List Value → Option (List Untyped)
  | [] => some []
  | v :: items => do
    let v ← decode v
    let items ← decodeItems items
    return v :: items

/-- The values of an object. -/
def decodeFields : List (List TextUnit × Value) → Option (List (List UInt8 × Untyped))
  | [] => some []
  | (key, v) :: fields => do
    let v ← decode v
    let fields ← decodeFields fields
    return (goString key, v) :: fields

end

/-- `json.Unmarshal` into a `map[string]interface{}`, which stays nil for `null`. -/
def unmarshalMap (bs : List UInt8) : Option (List (List UInt8 × Untyped)) :=
  match read bs with
  | some (.obj fields) => decodeFields fields
  | some (.word w) => if w.1 = nullBytes then some [] else none
  | _ => none

/-- The value of a key. -/
def lookup (fields : List (List UInt8 × Untyped)) (key : List UInt8) : Option Untyped :=
  (fields.reverse.find? fun f => f.1 = key).map Prod.snd

end Json

end Lib
