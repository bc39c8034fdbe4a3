import Mathlib.Data.List.TakeWhile

/-!
# Reading a PromQL query

A query of Prometheus is read character by character (`Reader.step`), in the language of
Prometheus 2 where a keyword is no name. A word is the name of a metric unless it is a keyword, a
number, a label or the name of a function, which the next character that is not a space says
(`Reader.settle`). `names` are the metrics of a query, and `bare` those without a selector.

`EachSelector` says what follows every brace that opens a selector. A matcher leaves the reader
where it was (`Reader.read_matcher`, `eachSelector_matcher`), if its value can stand between
quotes (`Plain`).
-/

namespace Lib

namespace PromQl

/-! ## The reader -/

/-- Where a character stands. -/
inductive Mode
  | code
  /-- In a string, and whether the next character is escaped. -/
  | quoted (quote : Char) (escaped : Bool)
  | comment
  deriving DecidableEq

/-- What a piece of code stands in. -/
inductive Within
  | expression
  /-- The matchers of a selector, in braces. -/
  | selector
  /-- A range, in brackets. -/
  | range
  /-- The labels of a grouping, in parentheses. -/
  | labels
  deriving DecidableEq

/-- What is known of a query at a character. -/
structure Reader where
  mode : Mode
  within : Within
  /-- The last word, until it is known what it is. -/
  word : List Char
  /-- A space was read after the word. -/
  ended : Bool
  /-- The metrics that were read, with an empty name for a selector that has none. -/
  names : List (List Char)
  /-- The metrics without a selector. -/
  bare : List (List Char)
  deriving DecidableEq

/-- The keywords that labels in parentheses can follow. -/
def groupings : List (List Char) :=
  ["by".toList, "without".toList, "on".toList, "ignoring".toList, "group_left".toList,
    "group_right".toList]

/-- The other words that are no metrics : operators, aggregations and numbers. -/
def keywords : List (List Char) :=
  ["and".toList, "or".toList, "unless".toList, "offset".toList, "bool".toList, "sum".toList,
    "avg".toList, "count".toList, "min".toList, "max".toList, "stddev".toList, "stdvar".toList,
    "topk".toList, "bottomk".toList, "count_values".toList, "quantile".toList, "inf".toList,
    "nan".toList]

/-- A character of a metric, a label or a keyword. -/
def isWordChar (c : Char) : Bool := c.isAlphanum || c = '_' || c = ':'

/-- The word is one that a list of labels follows. -/
def isGrouping (word : List Char) : Bool := word.map Char.toLower ∈ groupings

/-- The word is a metric, if no parenthesis follows. -/
def isMetric : List Char → Bool
  | [] => false
  | c :: word => !c.isDigit && !isGrouping (c :: word) && (c :: word).map Char.toLower ∉ keywords

namespace Reader

/-- The reader at the start of a query. -/
def start : Reader := ⟨.code, .expression, [], false, [], []⟩

/-- The last word is what the next character makes it. -/
def settle (r : Reader) (next : Option Char) : Reader :=
  let settled := { r with word := [], ended := false }
  if r.within ≠ .expression then settled
  else if isMetric r.word = true ∧ next ≠ some '(' then
    { settled with
      names := r.names ++ [r.word]
      bare := if next = some '{' then r.bare else r.bare ++ [r.word] }
  else if next = some '{' then { settled with names := r.names ++ [[]] }
  else settled

/-- The character goes on with a word. A point does in a number, as in `1.e5`. -/
def isNext (r : Reader) (c : Char) : Bool :=
  isWordChar c || c = '.' && !r.ended && r.word.head?.any Char.isDigit

/-- The reader after a symbol, which ends the last word. -/
def symbol (r : Reader) (c : Char) : Reader :=
  let settled := r.settle (some c)
  if c = '"' ∨ c = '\'' ∨ c = '`' then { settled with mode := .quoted c false }
  else if c = '{' then { settled with within := .selector }
  else if c = '[' then { settled with within := .range }
  else if c = '}' ∨ c = ']' then { settled with within := .expression }
  else if c = '(' ∧ isGrouping r.word then { settled with within := .labels }
  else if c = ')' ∧ r.within = .labels then { settled with within := .expression }
  else settled

/-- The reader after a character. -/
def step (r : Reader) (c : Char) : Reader :=
  match r.mode with
  -- A comment goes on to the end of the line.
  | .comment => if c = '\n' ∨ c = '\r' then { r with mode := .code } else r
  | .quoted quote true => { r with mode := .quoted quote false }
  | .quoted quote false =>
    if c = quote then { r with mode := .code }
    -- A raw string has no escapes.
    else if c = '\\' ∧ quote ≠ '`' then { r with mode := .quoted quote true }
    else r
  | .code =>
    if r.isNext c then
      if r.ended then { r.settle (some c) with word := [c] } else { r with word := r.word ++ [c] }
    else if c.isWhitespace then { r with ended := r.word ≠ [] }
    else if c = '#' then { r with mode := .comment, ended := r.word ≠ [] }
    else r.symbol c

/-- The reader after a text. -/
def read (r : Reader) (text : List Char) : Reader := text.foldl step r

end Reader

/-- The names of the metrics of a query. -/
def names (query : List Char) : List (List Char) := ((Reader.start.read query).settle none).names

/-- The metrics of a query that have no selector. -/
def bare (query : List Char) : List (List Char) := ((Reader.start.read query).settle none).bare

/-- What follows every brace that opens a selector. -/
def EachSelector (p : List Char → Prop) : Reader → List Char → Prop
  | _, [] => True
  | r, c :: rest => (c = '{' ∧ r.mode = .code → p rest) ∧ EachSelector p (r.step c) rest

/-! ## Reading on -/

namespace Reader

variable {r : Reader}

@[simp] theorem read_nil : r.read [] = r :=
  rfl

@[simp] theorem read_cons (c : Char) (text : List Char) :
    r.read (c :: text) = (r.step c).read text :=
  rfl

theorem read_append (text text' : List Char) : r.read (text ++ text') = (r.read text).read text' :=
  List.foldl_append

theorem isNext_of_isWordChar {c : Char} (h : isWordChar c = true) : r.isNext c = true := by
  rw [isNext, h]
  rfl

theorem read_word {word : List Char} (hword : ∀ c ∈ word, isWordChar c = true)
    (hmode : r.mode = .code) (hended : r.ended = false) :
    r.read word = { r with word := r.word ++ word } := by
  induction word generalizing r with
  | nil => simp
  | cons c word ih =>
    obtain ⟨hc, hword⟩ := List.forall_mem_cons.1 hword
    have hstep : r.step c = { r with word := r.word ++ [c] } := by
      simp [step, hmode, isNext_of_isWordChar hc, hended]
    rw [read_cons, hstep, ih (r := { r with word := r.word ++ [c] }) hword hmode hended]
    simp

end Reader

/-! ## Matchers -/

/-- A text that stands for itself between double quotes. -/
def Plain (value : List Char) : Prop := ∀ c ∈ value, c ≠ '"' ∧ c ≠ '\\'

instance (value : List Char) : Decidable (Plain value) :=
  inferInstanceAs (Decidable (∀ c ∈ value, c ≠ '"' ∧ c ≠ '\\'))

/-- `label="value"` -/
def matcher (label value : List Char) : List Char := label ++ '=' :: '"' :: (value ++ ['"'])

/-- The reader between two matchers. -/
def Reader.inSelector (names bare : List (List Char)) : Reader :=
  ⟨.code, .selector, [], false, names, bare⟩

/-- A brace opens a selector, of the last word. -/
theorem Reader.step_brace {r : Reader} (h : r.mode = .code) : r.step '{' =
    inSelector (r.settle (some '{')).names (r.settle (some '{')).bare := by
  have hsettle : r.settle (some '{') = ⟨r.mode, r.within, [], false,
      (r.settle (some '{')).names, (r.settle (some '{')).bare⟩ := by
    unfold settle
    dsimp only
    split_ifs <;> rfl
  have hstep : r.step '{' = { r.settle (some '{') with within := .selector } := by
    rw [step, h]
    rfl
  rw [hstep, hsettle, h]
  rfl

section Matcher

variable {p : List Char → Prop} {label value : List Char} {names bare : List (List Char)}

theorem Reader.read_quoted {r : Reader} (hvalue : Plain value)
    (hmode : r.mode = .quoted '"' false) : r.read value = r := by
  induction value with
  | nil => rfl
  | cons c value ih =>
    obtain ⟨hc, hvalue⟩ := List.forall_mem_cons.1 hvalue
    have hstep : r.step c = r := by simp [step, hmode, hc]
    rw [read_cons, hstep, ih hvalue]

/-- The reader in the value of a matcher. -/
theorem Reader.read_label (hlabel : ∀ c ∈ label, isWordChar c = true) :
    (inSelector names bare).read (label ++ ['=', '"']) =
      { inSelector names bare with mode := .quoted '"' false } := by
  rw [read_append, read_word hlabel rfl rfl]
  rfl

theorem Reader.read_matcher (hlabel : ∀ c ∈ label, isWordChar c = true) (hvalue : Plain value) :
    (inSelector names bare).read (matcher label value) = inSelector names bare := by
  have hsplit : matcher label value = label ++ ['=', '"'] ++ (value ++ ['"']) := by simp [matcher]
  rw [hsplit, read_append, read_label hlabel, read_append, read_quoted hvalue rfl]
  rfl

theorem eachSelector_append {r : Reader} {text : List Char} (h : '{' ∉ text) (text' : List Char) :
    EachSelector p r (text ++ text') ↔ EachSelector p (r.read text) text' := by
  induction text generalizing r with
  | nil => rfl
  | cons c text ih =>
    obtain ⟨hc, h⟩ := List.ne_and_not_mem_of_not_mem_cons h
    have hne : ¬(c = '{' ∧ r.mode = .code) := fun hopen => hc hopen.1.symm
    rw [List.cons_append, EachSelector, ih h]
    simp [hne]

theorem eachSelector_quoted {r : Reader} (hvalue : Plain value) (hmode : r.mode = .quoted '"' false)
    (text : List Char) : EachSelector p r (value ++ text) ↔ EachSelector p r text := by
  induction value with
  | nil => rfl
  | cons c value ih =>
    obtain ⟨hc, hvalue⟩ := List.forall_mem_cons.1 hvalue
    have hstep : r.step c = r := by simp [Reader.step, hmode, hc]
    rw [List.cons_append, EachSelector, hstep, ih hvalue]
    simp [hmode]

/-- A matcher does not end the selector that it is in. -/
theorem eachSelector_matcher (hlabel : ∀ c ∈ label, isWordChar c = true) (hvalue : Plain value)
    (text : List Char) : EachSelector p (.inSelector names bare) (matcher label value ++ text) ↔
      EachSelector p (.inSelector names bare) text := by
  have hsplit : matcher label value ++ text =
      (label ++ ['=', '"']) ++ (value ++ (['"'] ++ text)) := by simp [matcher]
  have hbrace : '{' ∉ label ++ ['=', '"'] := by
    intro hmem
    rcases List.mem_append.1 hmem with hmem | hmem
    · exact absurd (hlabel _ hmem) (by decide)
    · exact absurd hmem (by decide)
  rw [hsplit, eachSelector_append hbrace, Reader.read_label hlabel, eachSelector_quoted hvalue rfl,
    eachSelector_append (by decide)]
  rfl

end Matcher

end PromQl

end Lib
